import MongoConfig.Dictionary
import MongoConfig.Mechanism
import MongoConfig.Text.Quoted
/-! Credentials: who authenticates, where the user is defined and by which mechanism. -/

namespace MongoConfig

/-- What a user authenticates with. Without a mechanism the server chooses one. -/
structure Credential where
  mechanism : Option Mechanism
  user : Option String
  source : String
  password : Option String
  properties : Dictionary String
deriving DecidableEq, Repr

namespace Credential

/-- The source of users that are defined outside the databases of the server. -/
def externalSource : String :=
  "$external"

def withPassword (mechanism : Option Mechanism) (user source password : String) : Credential :=
  {
    mechanism,
    user := some user,
    source,
    password := some password,
    properties := ∅
  }

def external (mechanism : Mechanism) (user : Option String) : Credential :=
  {
    mechanism := some mechanism,
    user,
    source := externalSource,
    password := none,
    properties := ∅
  }

def negotiated (user source password : String) : Credential :=
  withPassword none user source password

def plain (user source password : String) : Credential :=
  withPassword (some .plain) user source password

def scramSha1 (user source password : String) : Credential :=
  withPassword (some .scramSha1) user source password

def scramSha256 (user source password : String) : Credential :=
  withPassword (some .scramSha256) user source password

def gssapi (user : String) : Credential :=
  external .gssapi (some user)

/-- The user may be left out, for the server can take it from the client's certificate. -/
def x509 (user : Option String) : Credential :=
  external .x509 user

def withProperty (credential : Credential) (key value : String) : Credential :=
  { credential with properties := credential.properties.insert key value }

/-- What the name of an option begins with in the text of a credential. -/
def optionScope : List Char :=
  "uri.".toList

/-- The name of the option that selects the mechanism; any other names a property. -/
def mechanismKey : String :=
  "authMechanism"

/-- What is shown in the stead of a password. -/
def hiddenPassword : String :=
  "<hidden>"

def optionText (text : Option String) : String :=
  match text with
  | some text => "Some(" ++ text ++ ")"
  | none => "None"

/-- The credential as a log may show it, without its password. -/
def description (credential : Credential) : String :=
  let mechanism := optionText (credential.mechanism.map Mechanism.title)
  let user := optionText (credential.user.map Text.quoted)
  let password := optionText (credential.password.map fun _ => Text.quoted hiddenPassword)
  let properties :=
    credential.properties.entries.map fun entry =>
      Text.quoted entry.1 ++ ": " ++ Text.quoted entry.2
  "MongoCredential \x7b mechanism: " ++ mechanism
    ++ ", user_name: " ++ user
    ++ ", source: " ++ Text.quoted credential.source
    ++ ", password: " ++ password
    ++ ", mechanism_properties: \x7b" ++ ", ".intercalate properties ++ "\x7d \x7d"

end Credential

end MongoConfig
