import MongoConfig.ErrorReport
import MongoConfig.Mechanism
/-! What can be wrong with the text of a configuration value.
An error names the value that was read, as it was written, and the fault that was found in it. The
text of a credential is shown without its password.
-/

namespace MongoConfig

/-- The kinds of values that are chosen from a fixed set of names. -/
inductive NamedKind where
  | readPreference
  | readConcern
  | writeConcern
  | connectionMode
  | clusterType
  | mechanism
deriving DecidableEq, Repr

def NamedKind.description : NamedKind → String
  | readPreference => "read preference"
  | readConcern => "read concern"
  | writeConcern => "write concern"
  | connectionMode => "cluster connection mode"
  | clusterType => "cluster type"
  | mechanism => "authentication mechanism"

inductive AddressFault where
  | emptyHost
  | unclosedBracket
  | textAfterBracket
  | bareColons
  | badPort
deriving DecidableEq, Repr

def AddressFault.message : AddressFault → String
  | emptyHost => "host is empty"
  | unclosedBracket => "IPv6 literal is missing the closing `]`"
  | textAfterBracket => "unexpected characters after the IPv6 literal"
  | bareColons => "IPv6 literals must be enclosed in `[` and `]`"
  | badPort => "port is not a number between 0 and 65535"

inductive CredentialFault where
  | noDatabaseSign
  | optionWithoutValue
  | noUser
  | noPassword
  | noDatabase
deriving DecidableEq, Repr

def CredentialFault.message : CredentialFault → String
  | noDatabaseSign => "missing `@` between user and database"
  | optionWithoutValue => "options must be `key=value` pairs"
  | noUser => "user name is required"
  | noPassword => "password is required"
  | noDatabase => "database is required"

inductive ConnectionFault where
  | unknownScheme
  | noHosts
  | notOneSrvHost
  | notBoolean (key value : String)
  | notNumber (key value : String)
  | passwordMissing (user : String)
  | gssapiWithoutUser
  | mechanismWithoutUser (mechanism : Mechanism)
deriving DecidableEq, Repr

def ConnectionFault.message : ConnectionFault → String
  | unknownScheme => "must start with `mongodb://` or `mongodb+srv://`"
  | noHosts => "at least one host is required"
  | notOneSrvHost =>
      "an SRV connection string must contain exactly one host without a port"
  | notBoolean key value => "`" ++ key ++ "` expects true or false, not `" ++ value ++ "`"
  | notNumber key value =>
      "`" ++ key ++ "` expects a non-negative number, not `" ++ value ++ "`"
  | passwordMissing user => "a password is required for user `" ++ user ++ "`"
  | gssapiWithoutUser => "GSSAPI authentication requires a user name"
  | mechanismWithoutUser mechanism =>
      "`" ++ mechanism.name ++ "` authentication requires a user name"

/-- A text that is not a value of the expected kind. -/
inductive TextError where
  | unknownName (kind : NamedKind) (text : String)
  | address (text : String) (fault : AddressFault)
  | credential (text : String) (fault : CredentialFault)
  | connectionString (fault : ConnectionFault)
deriving DecidableEq, Repr

def TextError.message : TextError → String
  | unknownName kind text => "`" ++ text ++ "` is not a valid " ++ kind.description
  | address text fault => "Invalid server address `" ++ text ++ "`: " ++ fault.message
  | credential text fault => "Invalid credential `" ++ text ++ "`: " ++ fault.message
  | connectionString fault => "Invalid connection string: " ++ fault.message

def TextError.report (error : TextError) : ErrorReport :=
  { message := error.message }

end MongoConfig
