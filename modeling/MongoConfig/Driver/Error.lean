import MongoConfig.Driver.OptionFault
import MongoConfig.Duration
import MongoConfig.ErrorReport
import MongoConfig.Mechanism
/-! Why a driver does not take the options of a client. -/

namespace MongoConfig.Driver

/-- The parts of a user info. -/
inductive UserPart where
  | user
  | password
deriving DecidableEq, Repr

def UserPart.name : UserPart → String
  | user => "username"
  | password => "password"

/-- What a way to log in lacks, or has although it must not. -/
inductive LoginFault where
  | emptySource
  | noUser
  | challengeWithoutUser
  | plainWithoutUser
  | plainWithoutPassword
  | certificateWithPassword
  | certificateWithSource
deriving DecidableEq, Repr

def LoginFault.message : LoginFault → String
  | emptySource => "empty authSource provided"
  | noUser => "username and mechanism both not provided, but authentication was requested"
  | challengeWithoutUser => "No username provided for SCRAM authentication"
  | plainWithoutUser => "No username provided for PLAIN authentication"
  | plainWithoutPassword => "No password provided for PLAIN authentication"
  | certificateWithPassword => "A password cannot be specified with MONGODB-X509"
  | certificateWithSource =>
      "only $external may be specified as an auth source for MONGODB-X509"

/-- What is wrong with the options. The first half is about the text of the hosts and the second
about values that do not go together. -/
inductive Fault where
  | noSlashBeforeOptions
  | missingHosts
  | databaseNotEncoded
  | illegalDatabaseCharacter
  | emptyHost (address : String)
  | badPort (port : String)
  | zeroPort (address : String)
  | manyColons (address : String)
  | socketNotEncoded
  | option (cause : OptionFault)
  | notEncoded (part : UserPart)
  | unescapedPercent
  | login (cause : LoginFault)
  | manyHostsDirectly
  | journalWithoutAcknowledgment
  | manyHostsBalanced
  | replicaSetBalanced
  | directlyBalanced
  | zeroPoolSize
  | zeroConnecting
  | stalenessTooShort (least : Duration)
  | heartbeatTooOften (frequency : Duration)
deriving DecidableEq, Repr

def Fault.message : Fault → String
  | noSlashBeforeOptions => "Missing delimiting slash between hosts and options"
  | missingHosts => "missing hosts"
  | databaseNotEncoded => "database name must be URL encoded"
  | illegalDatabaseCharacter => "illegal character in database name"
  | emptyHost address =>
      "invalid server address: \"" ++ address ++ "\"; hostname cannot be empty"
  | badPort port => "port must be valid 16-bit unsigned integer, instead got: " ++ port
  | zeroPort address => "invalid server address: \"" ++ address ++ "\"; port must be non-zero"
  | manyColons address => "address \"" ++ address ++ "\" contains more than one unescaped ':'"
  | socketNotEncoded => "Unix domain sockets must be URL-encoded"
  | option cause => cause.message
  | notEncoded part => part.name ++ " must be URL encoded"
  | unescapedPercent => "username/password cannot contain unescaped %"
  | login cause => cause.message
  | manyHostsDirectly => "cannot specify multiple seeds with directConnection=true"
  | journalWithoutAcknowledgment => "write concern cannot have w=0 and j=true"
  | manyHostsBalanced => "cannot specify multiple seeds with loadBalanced=true"
  | replicaSetBalanced => "cannot specify replicaSet with loadBalanced=true"
  | directlyBalanced => "cannot specify directConnection=true with loadBalanced=true"
  | zeroPoolSize => "cannot specify maxPoolSize=0"
  | zeroConnecting => "cannot specify maxConnecting=0"
  | stalenessTooShort least =>
      "invalid max_staleness value: must be at least " ++ Text.unsignedText least.wholeSeconds
        ++ " seconds"
  | heartbeatTooOften frequency =>
      "'heartbeat_freq' must be at least " ++ Text.unsignedText minHeartbeatMillis ++ "ms, but "
        ++ Text.unsignedText frequency.wholeMillis ++ "ms was given"

/-- Why there are no options for a client: a driver has no mechanism of that name, or it rejects
them. -/
inductive Error where
  | unsupportedMechanism (mechanism : Mechanism)
  | rejected (fault : Fault)
deriving DecidableEq, Repr

/-- The cause of a rejection names the kind of the fault and lists its labels, of which there are
none. -/
def Error.report : Error → ErrorReport
  | unsupportedMechanism mechanism =>
      {
        message :=
          "The driver doesn't support the `" ++ mechanism.name ++ "` authentication mechanism"
      }
  | rejected fault =>
      {
        message := "The driver rejected the client options",
        causes :=
          ["Kind: An invalid argument was provided: " ++ fault.message ++ ", labels: \x7b\x7d"]
      }

end MongoConfig.Driver
