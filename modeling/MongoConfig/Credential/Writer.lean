import MongoConfig.Credential.Basic
import MongoConfig.Text.Percent
/-! Writing credentials as texts. User and password are escaped; the source and the properties are
written as they are.
-/

namespace MongoConfig.Credential

/-- What an option of a credential sets. -/
inductive Setting where
  | mechanism (value : Mechanism)
  | property (key value : String)
deriving DecidableEq, Repr

def Setting.key : Setting → String
  | mechanism _ => mechanismKey
  | property key _ => key

def Setting.value : Setting → String
  | mechanism value => value.name
  | property _ value => value

/-- The text of an option, with the scope before its name. -/
def Setting.text (setting : Setting) : List Char :=
  optionScope ++ setting.key.toList ++ '=' :: setting.value.toList

/-- The options that a credential needs. -/
def settings (credential : Credential) : List Setting :=
  (credential.mechanism.map Setting.mechanism).toList
    ++ credential.properties.entries.map fun entry => .property entry.1 entry.2

/-- The source as it is written. An external mechanism implies it. -/
def writtenSource (credential : Credential) : List Char :=
  if credential.mechanism.any Mechanism.isExternal then [] else credential.source.toList

/-- User and password as they stand before the `@` of a text. -/
def writeUserInfo (user : String) (password : Option String) : List Char :=
  Text.Percent.encode user.toList
    ++ Text.afterSign ':' (password.map fun password => Text.Percent.encode password.toList)

/-- The options joined, if there are any. -/
def writtenOptions (options : List Setting) : Option (List Char) :=
  if options = [] then none else some (['&'].intercalate (options.map Setting.text))

/-- The text of a credential with its options in the order of a list. -/
def write (credential : Credential) (options : List Setting) : List Char :=
  writeUserInfo (credential.user.getD "") credential.password
    ++ '@' :: (credential.writtenSource ++ Text.afterSign '?' (writtenOptions options))

/-- The text of a credential. -/
def text (credential : Credential) : String :=
  String.ofList (credential.write credential.settings)

end MongoConfig.Credential
