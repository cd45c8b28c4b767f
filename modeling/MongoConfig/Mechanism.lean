import MongoConfig.Text.Blank
import MongoConfig.Text.UpperCase
/-! The authentication mechanisms that a credential can name. -/

namespace MongoConfig

inductive Mechanism where
  | plain
  | scramSha1
  | scramSha256
  | gssapi
  | x509
deriving DecidableEq, Repr

namespace Mechanism

def all : List Mechanism :=
  [plain, scramSha1, scramSha256, gssapi, x509]

/-- The name that a server knows the mechanism by. -/
def name : Mechanism → String
  | plain => "PLAIN"
  | scramSha1 => "SCRAM-SHA-1"
  | scramSha256 => "SCRAM-SHA-256"
  | gssapi => "GSSAPI"
  | x509 => "MONGODB-X509"

/-- The name that a description of a credential shows. -/
def title : Mechanism → String
  | plain => "Plain"
  | scramSha1 => "ScramSha1"
  | scramSha256 => "ScramSha256"
  | gssapi => "GssApi"
  | x509 => "MongoDbX509"

/-- Whether the server looks the user up outside its databases; then there is no password. -/
def isExternal : Mechanism → Bool
  | gssapi => true
  | x509 => true
  | _ => false

/-- The mechanism of a name, written in any case and with blanks around it. -/
def ofName? (text : String) : Option Mechanism :=
  all.find? fun mechanism => Text.upper? (Text.trim text.toList) = some mechanism.name.toList

end Mechanism

end MongoConfig
