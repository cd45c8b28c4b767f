import MongoConfig.Address
import MongoConfig.Driver.LocationOptions
/-! How a driver reads the text of a host list.
The text is a location without options of its own, but nothing keeps the separators of a location
out of a host name. So the driver may find a user, a database, options or more hosts in it.
-/

namespace MongoConfig.Driver

/-- A host as the driver sees it. Without a port it takes the default one. -/
structure Host where
  name : String
  port : Option UInt16
deriving DecidableEq, Repr

/-- What the driver finds in the text of a host list. -/
structure HostList where
  hosts : List Host
  database : Option String
  options : LocationOptions
deriving DecidableEq, Repr

namespace HostList

/-- The text of the hosts, separated by commas. -/
def text (addresses : List Address) : String :=
  ",".intercalate (addresses.map Address.text)

/-- What stands before and after a separator, if it is there and as far as there is something. -/
def cutAt (separator : Char) (text : List Char) : Option (List Char) × Option (List Char) :=
  match Text.cutFirst separator text with
  | some (before, after) => (nonEmpty? before, nonEmpty? after)
  | none => (some text, none)

def isIllegalInDatabase (c : Char) : Bool :=
  c = '/' || c = '\\' || c = ' ' || c = '"' || c = '$'

def readDatabase : Option (List Char) → Except Fault (Option String)
  | none => .ok none
  | some text =>
      match Text.Percent.decodeStrict? text with
      | none => .error .databaseNotEncoded
      | some name =>
          if name.any isIllegalInDatabase then
            .error .illegalDatabaseCharacter
          else
            .ok (some (String.ofList name))

/-- Reads a host with the texts between the colons after its name. -/
def readPort (address name : List Char) : List (List Char) → Except Fault Host
  | [] =>
      .ok
        {
          name := String.ofList (Text.lower name),
          port := none
        }
  | port :: more =>
      match Text.readUInt16? port with
      | none => .error (.badPort (String.ofList port))
      | some number =>
          if number = 0 then
            .error (.zeroPort (String.ofList address))
          else if !more.isEmpty then
            .error (.manyColons (String.ofList address))
          else
            .ok
              {
                name := String.ofList (Text.lower name),
                port := some number
              }

/-- The ending of the name of a socket, which is a file. -/
def socketEnding : List Char :=
  ".sock".toList

/-- A socket has an escaped name and no port. -/
def readSocket (address : List Char) : Except Fault Host :=
  match Text.Percent.decodeStrict? address with
  | none => .error .socketNotEncoded
  | some name =>
      .ok
        {
          name := String.ofList name,
          port := none
        }

def readServer (address : List Char) : Except Fault Host :=
  match Text.pieces ':' address with
  | [] => .error (.emptyHost (String.ofList address))
  | name :: rest =>
      if name.isEmpty then
        .error (.emptyHost (String.ofList address))
      else
        readPort address name rest

def readHost (address : List Char) : Except Fault Host :=
  if socketEnding.isSuffixOf address then readSocket address else readServer address

/-- Cuts a location into what stands before the first slash, the database and the options. -/
def splitLocation (text : List Char)
    : Except Fault (List Char × Option (List Char) × Option (List Char)) :=
  match Text.cutFirst '/' text with
  | some ([], _) => .error .missingHosts
  | some (front, back) =>
      let (database, options) := cutAt '?' back
      .ok (front, database.bind nonEmpty?, options)
  | none => if '?' ∈ text then .error .noSlashBeforeOptions else .ok (text, none, none)

/-- Cuts the user info off the hosts. -/
def splitUserInfo (text : List Char) : Except Fault (Option (List Char) × List Char) :=
  match Text.cutLast '@' text with
  | none => .ok (none, text)
  | some (_, []) => .error .missingHosts
  | some (userInfo, hosts) => .ok (some userInfo, hosts)

/-- Reads the text of a host list. -/
def read (text : String) : Except Fault HostList := do
  let (authority, database, optionText) ← splitLocation text.toList
  let database ← readDatabase database
  let (userText, hostText) ← splitUserInfo authority
  let hosts ← (Text.pieces ',' hostText).mapM readHost
  let options ← LocationOptions.read optionText
  let userInfo := userText.map UserInfo.ofText
  (userInfo.map UserInfo.check).getD (.ok ())
  Login.check { userInfo, mechanism := options.mechanism, source := options.authSource }
  (options.combination hosts.length).check
  .ok { hosts, database, options }

end HostList

end MongoConfig.Driver
