import MongoConfig.Text.Split
import MongoConfig.Text.Unsigned
import MongoConfig.Spelling
/-! Server addresses: a host and a port.
A host is kept in lower case and without blanks around it. In a text, a host that contains colons
stands in brackets and the port may be left out.
-/

namespace MongoConfig

/-- The address of one server. -/
structure Address where
  host : String
  port : UInt16
deriving DecidableEq, Repr

namespace Address

def defaultHost : String :=
  "127.0.0.1"

def defaultPort : UInt16 :=
  27017

/-- The address of a host that may be written in any case and with blanks around it. -/
def ofHost (host : String) (port : UInt16) : Address :=
  {
    host := String.ofList (Text.lower (Text.trim host.toList)),
    port
  }

/-- A server on the same machine that listens on the default port. -/
def localServer : Address :=
  ofHost defaultHost defaultPort

/-- The host and the port as written in a text that starts with a bracket, which is left off. -/
def splitBracketed (text : List Char)
    : Except AddressFault (List Char × Option (List Char)) :=
  match Text.cutFirst ']' text with
  | none => .error .unclosedBracket
  | some (host, []) => .ok (host, none)
  | some (host, ':' :: port) => .ok (host, some port)
  | some (_, _ :: _) => .error .textAfterBracket

/-- The host and the port as written in a text without brackets. -/
def splitPlain (text : List Char) : Except AddressFault (List Char × Option (List Char)) :=
  match Text.cutFirst ':' text with
  | none => .ok (text, none)
  | some (host, port) => if ':' ∈ port then .error .bareColons else .ok (host, some port)

def split (text : List Char) : Except AddressFault (List Char × Option (List Char)) :=
  match text with
  | [] => .error .emptyHost
  | '[' :: rest => splitBracketed rest
  | _ => splitPlain text

def readPort : Option (List Char) → Except AddressFault UInt16
  | none => .ok defaultPort
  | some text =>
      match Text.readUInt16? text with
      | some port => .ok port
      | none => .error .badPort

/-- Reads an address that has no blanks around it. -/
def readTrimmed (text : List Char) : Except AddressFault Address := do
  let (host, port) ← split text
  if host.isEmpty then
    .error .emptyHost
  else
    let port ← readPort port
    .ok (ofHost (String.ofList host) port)

/-- Reads an address. An error shows the text as it was given. -/
def read (text : String) : Except TextError Address :=
  (readTrimmed (Text.trim text.toList)).mapError (.address text)

/-- The texts between commas that are not blank, each without the blanks around it. -/
def entries (text : String) : List String :=
  (((Text.pieces ',' text.toList).map Text.trim).filter (!·.isEmpty)).map String.ofList

/-- Reads addresses separated by commas; blank entries are skipped. -/
def readList (text : String) : Except TextError (List Address) :=
  (entries text).mapM read

/-- The text of an address. It always shows the port. -/
def text (address : Address) : String :=
  let port := Text.unsignedText address.port.toNat
  if ':' ∈ address.host.toList then
    "[" ++ address.host ++ "]:" ++ port
  else
    address.host ++ ":" ++ port

/-- The texts of addresses with commas between them. -/
def listText (addresses : List Address) : List Char :=
  [','].intercalate (addresses.map fun address => address.text.toList)

end Address

end MongoConfig
