import MongoConfig.ConnectionString.Basic
import MongoConfig.Text.LowerCase
import MongoConfig.Text.Unsigned
/-! The options in the query of a connection string.
A pair of texts is first read into an option, which depends on that pair alone; the options are
then put into the query one after the other, so that of two options for one field the later wins.
The acknowledgment, the time limit and the journal of a write concern are fields of their own.
-/

namespace MongoConfig

/-- An option with its value. -/
inductive QueryOption where
  | replicaSet (name : String)
  | applicationName (name : String)
  | tlsEnabled (value : Bool)
  | tlsAllowInvalidHostnames (value : Bool)
  | directConnection (value : Bool)
  | connectTimeout (value : Duration)
  | socketTimeout (value : Duration)
  | maxPoolSize (value : UInt32)
  | minPoolSize (value : UInt32)
  | maxIdleTime (value : Duration)
  | maxLifeTime (value : Duration)
  | waitQueueTimeout (value : Duration)
  | serverSelectionTimeout (value : Duration)
  | localThreshold (value : Duration)
  | heartbeatFrequency (value : Duration)
  | retryWrites (value : Bool)
  | retryReads (value : Bool)
  | readPreference (value : ReadPreference)
  | readConcern (value : ReadConcern)
  | acknowledgment (value : Option Acknowledgment)
  | writeTimeout (value : Duration)
  | journal (value : Bool)
  | authSource (database : String)
  | mechanism (value : Mechanism)
deriving DecidableEq, Repr

/-- What a query says: the options of the connection, and how to authenticate. -/
structure Query where
  options : ConnectionOptions := {}
  authSource : Option String := none
  mechanism : Option Mechanism := none
deriving DecidableEq, Repr

namespace QueryOption

def readBool (key value : String) : Except TextError Bool :=
  let lowered := Text.lower value.toList
  if lowered = "true".toList ∨ lowered = "yes".toList ∨ lowered = "1".toList then
    .ok true
  else if lowered = "false".toList ∨ lowered = "no".toList ∨ lowered = "0".toList then
    .ok false
  else
    .error (.connectionString (.notBoolean key value))

def readSize (key value : String) : Except TextError UInt32 :=
  match Text.readUInt32? value.toList with
  | some size => .ok size
  | none => .error (.connectionString (.notNumber key value))

def readMillis (key value : String) : Except TextError Duration :=
  match Text.readUInt64? value.toList with
  | some milliseconds => .ok (.ofMillis milliseconds)
  | none => .error (.connectionString (.notNumber key value))

/-- Reads a value; the key is needed only to name it in an error. -/
abbrev Reader :=
  String → String → Except TextError QueryOption

def bool (make : Bool → QueryOption) : Reader := fun key value =>
  (readBool key value).map make

def size (make : UInt32 → QueryOption) : Reader := fun key value =>
  (readSize key value).map make

def millis (make : Duration → QueryOption) : Reader := fun key value =>
  (readMillis key value).map make

def text (make : String → QueryOption) : Reader := fun _ value =>
  .ok (make value)

def named {α : Type} (read : String → Except TextError α) (make : α → QueryOption)
    : Reader := fun _ value =>
  (read value).map make

/-- The options by their names in lower case. -/
def readers : List (String × Reader) :=
  [
    ("replicaset", text replicaSet),
    ("appname", text applicationName),
    ("ssl", bool tlsEnabled),
    ("tls", bool tlsEnabled),
    ("tlsallowinvalidhostnames", bool tlsAllowInvalidHostnames),
    ("directconnection", bool directConnection),
    ("connecttimeoutms", millis connectTimeout),
    ("sockettimeoutms", millis socketTimeout),
    ("maxpoolsize", size maxPoolSize),
    ("minpoolsize", size minPoolSize),
    ("maxidletimems", millis maxIdleTime),
    ("maxlifetimems", millis maxLifeTime),
    ("waitqueuetimeoutms", millis waitQueueTimeout),
    ("serverselectiontimeoutms", millis serverSelectionTimeout),
    ("localthresholdms", millis localThreshold),
    ("heartbeatfrequencyms", millis heartbeatFrequency),
    ("retrywrites", bool retryWrites),
    ("retryreads", bool retryReads),
    ("readpreference", named ReadPreference.read readPreference),
    ("readconcernlevel", named ReadConcern.read readConcern),
    ("w", named WriteConcern.read fun concern => acknowledgment concern.acknowledgment),
    ("wtimeoutms", millis writeTimeout),
    ("journal", bool journal),
    ("authsource", text authSource),
    ("authmechanism", named Mechanism.read mechanism)
  ]

/-- The reader of an option, whose name may be written in any case. -/
def reader? (key : String) : Option Reader :=
  (readers.find? fun entry => entry.1.toList = Text.lower key.toList).map (·.2)

/-- Reads a pair; nothing comes of one whose name is not known. -/
def ofPair (pair : String × String) : Except TextError (Option QueryOption) :=
  match reader? pair.1 with
  | some read => (read pair.1 pair.2).map some
  | none => .ok none

end QueryOption

namespace ConnectionOptions

/-- Changes the write concern, which comes into being with its first part. -/
def changeWriteConcern (options : ConnectionOptions) (change : WriteConcern → WriteConcern)
    : ConnectionOptions :=
  { options with writeConcern := some (change (options.writeConcern.getD {})) }

/-- Puts an option into its field. Those about authentication have none here. -/
def put (options : ConnectionOptions) : QueryOption → ConnectionOptions
  | .replicaSet name => { options with replicaSet := some name }
  | .applicationName name => { options with applicationName := some name }
  | .tlsEnabled value => { options with tlsEnabled := some value }
  | .tlsAllowInvalidHostnames value => { options with tlsAllowInvalidHostnames := some value }
  | .directConnection value => { options with directConnection := some value }
  | .connectTimeout value => { options with connectTimeout := some value }
  | .socketTimeout value => { options with socketTimeout := some value }
  | .maxPoolSize value => { options with maxPoolSize := some value }
  | .minPoolSize value => { options with minPoolSize := some value }
  | .maxIdleTime value => { options with maxIdleTime := some value }
  | .maxLifeTime value => { options with maxLifeTime := some value }
  | .waitQueueTimeout value => { options with waitQueueTimeout := some value }
  | .serverSelectionTimeout value => { options with serverSelectionTimeout := some value }
  | .localThreshold value => { options with localThreshold := some value }
  | .heartbeatFrequency value => { options with heartbeatFrequency := some value }
  | .retryWrites value => { options with retryWrites := some value }
  | .retryReads value => { options with retryReads := some value }
  | .readPreference value => { options with readPreference := some value }
  | .readConcern value => { options with readConcern := some value }
  | .acknowledgment value =>
      options.changeWriteConcern fun concern => { concern with acknowledgment := value }
  | .writeTimeout value => options.changeWriteConcern (·.withTimeout value)
  | .journal value => options.changeWriteConcern (·.withJournal value)
  | .authSource _ => options
  | .mechanism _ => options

end ConnectionOptions

namespace Query

def put (query : Query) : QueryOption → Query
  | .authSource database => { query with authSource := some database }
  | .mechanism value => { query with mechanism := some value }
  | option => { query with options := query.options.put option }

/-- Takes one pair into account. -/
def addPair (query : Query) (pair : String × String) : Except TextError Query :=
  (QueryOption.ofPair pair).map fun option => (option.map query.put).getD query

/-- What the pairs of a query say, or the error of the first one that cannot be read. -/
def ofPairs (pairs : List (String × String)) : Except TextError Query :=
  pairs.foldlM addPair {}

/-- The names of pairs that are not known, as they were written, in the order in which reading meets
them. It ends at a pair that cannot be read. -/
def ignoredKeysFrom (query : Query) : List (String × String) → List String
  | [] => []
  | pair :: rest =>
      match query.addPair pair with
      | .error _ => []
      | .ok next =>
          let others := next.ignoredKeysFrom rest
          if (QueryOption.reader? pair.1).isNone then pair.1 :: others else others

/-- The names that are not known in the pairs of a query. -/
def ignoredKeys (pairs : List (String × String)) : List String :=
  ignoredKeysFrom {} pairs

end Query

end MongoConfig
