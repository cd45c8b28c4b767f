import MongoConfig.Credential.Basic
import MongoConfig.Spelling
import MongoConfig.Text.Percent
/-! Credentials as texts: `user:password@source?uri.authMechanism=NAME&uri.KEY=VALUE`.
User and password are percent-encoded. In a list, entries are separated by commas, and a pair of
single quotes protects the commas between them.
-/

namespace MongoConfig.Credential

/-- The user and, after the first colon, the password. -/
def readUserInfo (text : List Char) : String × Option String :=
  match Text.cutFirst ':' text with
  | some (user, password) =>
      (String.ofList (Text.Percent.decode user),
        some (String.ofList (Text.Percent.decode password)))
  | none => (String.ofList (Text.Percent.decode text), none)

/-- The options of a credential: a mechanism, and properties for it. -/
structure Options where
  mechanism : Option Mechanism := none
  properties : Dictionary String := ∅

/-- The name of an option without its scope, which may be left out. -/
def optionKey (key : List Char) : List Char :=
  (Text.stripStart? optionScope key).getD key

/-- Takes one option into account. The last mechanism and the last value of a property count. -/
def addOption (shown : String) (options : Options) (option : List Char)
    : Except TextError Options :=
  match Text.cutFirst '=' option with
  | none => .error (.credential shown .optionWithoutValue)
  | some (key, value) =>
      let key := String.ofList (optionKey key)
      let value := String.ofList value
      if key = mechanismKey then
        (Mechanism.read value).map fun mechanism =>
          { options with mechanism := some mechanism }
      else
        .ok { options with properties := options.properties.insert key value }

def readOptions (shown : String) (text : List Char) : Except TextError Options :=
  ((Text.pieces '&' text).filter (!·.isEmpty)).foldlM (addOption shown) {}

/-- The credential of parts that are all known. External mechanisms need a user only. -/
def assemble (mechanism : Option Mechanism) (user : String) (password : Option String)
    (source : String)
    : Except CredentialFault Credential :=
  if user = "" then
    .error .noUser
  else
    match mechanism with
    | some .gssapi => .ok (gssapi user)
    | some .x509 => .ok (x509 (some user))
    | _ =>
        match password.filter (· ≠ "") with
        | none => .error .noPassword
        | some password =>
            if source = "" then
              .error .noDatabase
            else
              .ok (withPassword mechanism user source password)

/-- The text without what stands between the first colon and the last `@`, where the password is. -/
def redact (text : List Char) : List Char :=
  match Text.cutLast '@' text with
  | none => text
  | some (front, back) =>
      match Text.cutFirst ':' front with
      | none => text
      | some (user, _) => user ++ ":***@".toList ++ back

/-- Reads one credential; `shown` is the text that an error shows. -/
def readTrimmed (shown : String) (text : List Char) : Except TextError Credential :=
  match Text.cutLast '@' text with
  | none => .error (.credential shown .noDatabaseSign)
  | some (userInfo, rest) => do
      let (user, password) := readUserInfo userInfo
      let (source, optionText) := (Text.cutFirst '?' rest).getD (rest, [])
      let options ← readOptions shown optionText
      let credential ←
        (assemble options.mechanism user password (String.ofList source)).mapError
          (.credential shown)
      .ok { credential with properties := options.properties }

/-- Reads a credential. -/
def read (text : String) : Except TextError Credential :=
  readTrimmed (String.ofList (redact text.toList)) (Text.trim text.toList)

/-- The parts between commas outside of quotes, without any quotes. -/
def splitUnquoted (isQuoted : Bool) : List Char → List (List Char)
  | [] => [[]]
  | c :: rest =>
      if c = '\'' then
        splitUnquoted (!isQuoted) rest
      else if c = ',' && !isQuoted then
        [] :: splitUnquoted isQuoted rest
      else
        Text.extendFirst c (splitUnquoted isQuoted rest)

/-- The texts of the credentials in a list; blank ones are skipped. -/
def entries (text : String) : List String :=
  (((splitUnquoted false text.toList).map Text.trim).filter (!·.isEmpty)).map String.ofList

/-- Reads credentials separated by commas. Blank text is an empty list. -/
def readList (text : String) : Except TextError (List Credential) :=
  (entries text).mapM read

end MongoConfig.Credential
