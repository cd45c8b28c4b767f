import Mathlib.Logic.Function.Basic
import MongoConfig.ConnectionString.Query
/-! The single values of a query.
A field names one of them: an option of the connection, a part of its write concern, or a value
about authentication. A query is known by its fields and by whether it has a write concern, and a
pair changes the one field that its key is a name of.
-/

namespace MongoConfig

namespace QueryOption

/-- Whether the key of a pair is a name, which may be written in any case. -/
def isNamed (name : String) (pair : String × String) : Bool :=
  Text.lower pair.1.toList = name.toList

/-- The words for yes and no in lower case. -/
def wordsFor : Bool → List String
  | true => ["true", "yes", "1"]
  | false => ["false", "no", "0"]

/-- A value says yes or no if it is one of the words for it in any case. -/
def MeansBool (flag : Bool) (value : String) : Prop :=
  ∃ word ∈ wordsFor flag, Text.lower value.toList = word.toList

/-- A flag is read from the words for it under any key; only an error shows the key. -/
theorem readBool_eq_ok_iff (key : String) {value : String} {flag : Bool}
    : readBool key value = .ok flag ↔ MeansBool flag value := by
  have hwords
      : MeansBool flag value ↔ Text.lower value.toList ∈ (wordsFor flag).map String.toList := by
    simp only [MeansBool, List.mem_map, eq_comm (a := Text.lower value.toList)]
  rw [hwords, readBool]
  generalize Text.lower value.toList = lowered
  cases flag with
  | true =>
      constructor
      · intro h
        split at h
        · rename_i hyes
          simpa [wordsFor] using hyes
        · split at h <;> cases h
      · intro h
        exact if_pos (by simpa [wordsFor] using h)
  | false =>
      constructor
      · intro h
        split at h
        · cases h
        · split at h
          · rename_i hno
            simpa [wordsFor] using hno
          · cases h
      · intro h
        have hno : lowered = "false".toList ∨ lowered = "no".toList ∨ lowered = "0".toList := by
          simpa [wordsFor] using h
        rw [if_neg, if_pos hno]
        rcases hno with rfl | rfl | rfl <;> decide

end QueryOption

namespace Query

/-- A single value of a query. -/
inductive Field where
  | replicaSet
  | applicationName
  | tlsEnabled
  | tlsAllowInvalidHostnames
  | directConnection
  | connectTimeout
  | socketTimeout
  | maxPoolSize
  | minPoolSize
  | maxIdleTime
  | maxLifeTime
  | waitQueueTimeout
  | serverSelectionTimeout
  | localThreshold
  | heartbeatFrequency
  | retryWrites
  | retryReads
  | readPreference
  | readConcern
  | acknowledgment
  | writeTimeout
  | journal
  | authSource
  | mechanism
deriving DecidableEq, Repr

namespace Field

def all : List Field :=
  [
    replicaSet, applicationName, tlsEnabled, tlsAllowInvalidHostnames, directConnection,
    connectTimeout, socketTimeout, maxPoolSize, minPoolSize, maxIdleTime, maxLifeTime,
    waitQueueTimeout, serverSelectionTimeout, localThreshold, heartbeatFrequency, retryWrites,
    retryReads, readPreference, readConcern, acknowledgment, writeTimeout, journal, authSource,
    mechanism
  ]

theorem mem_all (field : Field) : field ∈ all := by
  cases field <;> decide

/-- The names of a field in lower case. -/
def names : Field → List String
  | replicaSet => ["replicaset"]
  | applicationName => ["appname"]
  | tlsEnabled => ["ssl", "tls"]
  | tlsAllowInvalidHostnames => ["tlsallowinvalidhostnames"]
  | directConnection => ["directconnection"]
  | connectTimeout => ["connecttimeoutms"]
  | socketTimeout => ["sockettimeoutms"]
  | maxPoolSize => ["maxpoolsize"]
  | minPoolSize => ["minpoolsize"]
  | maxIdleTime => ["maxidletimems"]
  | maxLifeTime => ["maxlifetimems"]
  | waitQueueTimeout => ["waitqueuetimeoutms"]
  | serverSelectionTimeout => ["serverselectiontimeoutms"]
  | localThreshold => ["localthresholdms"]
  | heartbeatFrequency => ["heartbeatfrequencyms"]
  | retryWrites => ["retrywrites"]
  | retryReads => ["retryreads"]
  | readPreference => ["readpreference"]
  | readConcern => ["readconcernlevel"]
  | acknowledgment => ["w"]
  | writeTimeout => ["wtimeoutms"]
  | journal => ["journal"]
  | authSource => ["authsource"]
  | mechanism => ["authmechanism"]

def Value : Field → Type
  | replicaSet | applicationName | authSource => String
  | tlsEnabled | tlsAllowInvalidHostnames | directConnection | retryWrites | retryReads
  | journal => Bool
  | connectTimeout | socketTimeout | maxIdleTime | maxLifeTime | waitQueueTimeout
  | serverSelectionTimeout | localThreshold | heartbeatFrequency | writeTimeout => Duration
  | maxPoolSize | minPoolSize => UInt32
  | readPreference => ReadPreference
  | readConcern => ReadConcern
  | acknowledgment => Acknowledgment
  | mechanism => Mechanism

/-- The value of a field in a query, if there is one. -/
def get : (field : Field) → Query → Option field.Value
  | replicaSet, query => query.options.replicaSet
  | applicationName, query => query.options.applicationName
  | tlsEnabled, query => query.options.tlsEnabled
  | tlsAllowInvalidHostnames, query => query.options.tlsAllowInvalidHostnames
  | directConnection, query => query.options.directConnection
  | connectTimeout, query => query.options.connectTimeout
  | socketTimeout, query => query.options.socketTimeout
  | maxPoolSize, query => query.options.maxPoolSize
  | minPoolSize, query => query.options.minPoolSize
  | maxIdleTime, query => query.options.maxIdleTime
  | maxLifeTime, query => query.options.maxLifeTime
  | waitQueueTimeout, query => query.options.waitQueueTimeout
  | serverSelectionTimeout, query => query.options.serverSelectionTimeout
  | localThreshold, query => query.options.localThreshold
  | heartbeatFrequency, query => query.options.heartbeatFrequency
  | retryWrites, query => query.options.retryWrites
  | retryReads, query => query.options.retryReads
  | readPreference, query => query.options.readPreference
  | readConcern, query => query.options.readConcern
  | acknowledgment, query => query.options.writeConcern.bind (·.acknowledgment)
  | writeTimeout, query => query.options.writeConcern.bind (·.timeout)
  | journal, query => query.options.writeConcern.bind (·.journal)
  | authSource, query => query.authSource
  | mechanism, query => query.mechanism

/-- What a pair says about a field, or the error of a value that the field cannot have. The name of
a write concern can stand for one that leaves the acknowledgment open. -/
def read : (field : Field) → String × String → Except TextError (Option field.Value)
  | replicaSet, pair | applicationName, pair | authSource, pair => .ok (some pair.2)
  | tlsEnabled, pair | tlsAllowInvalidHostnames, pair | directConnection, pair
  | retryWrites, pair | retryReads, pair | journal, pair =>
      (QueryOption.readBool pair.1 pair.2).map some
  | connectTimeout, pair | socketTimeout, pair | maxIdleTime, pair | maxLifeTime, pair
  | waitQueueTimeout, pair | serverSelectionTimeout, pair | localThreshold, pair
  | heartbeatFrequency, pair | writeTimeout, pair =>
      (QueryOption.readMillis pair.1 pair.2).map some
  | maxPoolSize, pair | minPoolSize, pair => (QueryOption.readSize pair.1 pair.2).map some
  | readPreference, pair => (ReadPreference.read pair.2).map some
  | readConcern, pair => (ReadConcern.read pair.2).map some
  | acknowledgment, pair => (WriteConcern.read pair.2).map (·.acknowledgment)
  | mechanism, pair => (Mechanism.read pair.2).map some

/-- Whether the key of a pair is a name of the field. -/
def isNamedBy (field : Field) (pair : String × String) : Bool :=
  field.names.any fun name => QueryOption.isNamed name pair

/-- Whether the field is a part of the write concern. -/
def isOfWriteConcern : Field → Bool
  | acknowledgment | writeTimeout | journal => true
  | _ => false

end Field

-----------------------------------------------------------------------------------------
-- Queries are made up of their fields
-----------------------------------------------------------------------------------------

/-- The query with the given values. A write concern that is there may be without parts. -/
def ofFields (given : (field : Field) → Option field.Value) (hasWriteConcern : Bool) : Query :=
  {
    options :=
      {
        replicaSet := given .replicaSet,
        applicationName := given .applicationName,
        tlsEnabled := given .tlsEnabled,
        tlsAllowInvalidHostnames := given .tlsAllowInvalidHostnames,
        directConnection := given .directConnection,
        connectTimeout := given .connectTimeout,
        socketTimeout := given .socketTimeout,
        maxPoolSize := given .maxPoolSize,
        minPoolSize := given .minPoolSize,
        maxIdleTime := given .maxIdleTime,
        maxLifeTime := given .maxLifeTime,
        waitQueueTimeout := given .waitQueueTimeout,
        serverSelectionTimeout := given .serverSelectionTimeout,
        localThreshold := given .localThreshold,
        heartbeatFrequency := given .heartbeatFrequency,
        retryWrites := given .retryWrites,
        retryReads := given .retryReads,
        readPreference := given .readPreference,
        readConcern := given .readConcern,
        writeConcern :=
          if hasWriteConcern then
            some
              {
                acknowledgment := given .acknowledgment,
                timeout := given .writeTimeout,
                journal := given .journal
              }
          else
            none
      },
    authSource := given .authSource,
    mechanism := given .mechanism
  }

def hasWriteConcern (query : Query) : Bool :=
  query.options.writeConcern.isSome

theorem ofFields_get (query : Query)
    : ofFields (fun field => field.get query) query.hasWriteConcern = query := by
  obtain ⟨options, authSource, mechanism⟩ := query
  obtain ⟨_, _, _, _, _, _, _, _, _, _, _, _, _, _, _, _, _, _, _, writeConcern⟩ := options
  cases writeConcern <;> rfl

/-- Queries with the same fields are equal if both have a write concern or neither has one. -/
theorem eq_of_get_eq {query other : Query}
    (hfields : ∀ field : Field, field.get query = field.get other)
    (hconcern : query.hasWriteConcern = other.hasWriteConcern)
    : query = other := by
  rw [← ofFields_get query, ← ofFields_get other, hconcern]
  exact congrArg (ofFields · other.hasWriteConcern) (funext hfields)

/-- The query in which a field has a value, or none, and every other field what it had. -/
def set (query : Query) (field : Field) (value : Option field.Value) : Query :=
  ofFields (Function.update (fun other => other.get query) field value)
    (field.isOfWriteConcern || query.hasWriteConcern)

theorem get_ofFields (given : (field : Field) → Option field.Value) (hasWriteConcern : Bool)
    (field : Field)
    : field.get (ofFields given hasWriteConcern)
      = if field.isOfWriteConcern && !hasWriteConcern then none else given field := by
  cases field <;> cases hasWriteConcern <;> rfl

/-- Without a write concern its parts have no values. -/
theorem get_of_not_hasWriteConcern {query : Query} (h : query.hasWriteConcern = false)
    {field : Field} (hfield : field.isOfWriteConcern = true)
    : field.get query = none := by
  rw [← ofFields_get query, get_ofFields, h, hfield]
  rfl

theorem get_set (query : Query) (field : Field) (value : Option field.Value) (other : Field)
    : other.get (query.set field value)
      = Function.update (fun other => other.get query) field value other := by
  rw [set, get_ofFields]
  split
  · rename_i hlacking
    simp only [Bool.and_eq_true, Bool.not_eq_true', Bool.or_eq_false_iff] at hlacking
    obtain ⟨hother, hfield, hquery⟩ := hlacking
    have hne : other ≠ field := by
      rintro rfl
      exact Bool.noConfusion (hother.symm.trans hfield)
    rw [Function.update_of_ne hne, get_of_not_hasWriteConcern hquery hother]
  · rfl

theorem hasWriteConcern_set (query : Query) (field : Field) (value : Option field.Value)
    : (query.set field value).hasWriteConcern
      = (field.isOfWriteConcern || query.hasWriteConcern) := by
  rw [set]
  cases field.isOfWriteConcern || query.hasWriteConcern <;> rfl

/-- Different fields can be set in either order. -/
theorem set_comm {field other : Field} (hne : other ≠ field) (query : Query)
    (value : Option field.Value) (otherValue : Option other.Value)
    : (query.set field value).set other otherValue
      = (query.set other otherValue).set field value := by
  refine eq_of_get_eq ?_ ?_
  · intro read
    rw [get_set, get_set]
    simp only [get_set]
    exact
      congrFun
        (Function.update_comm (β := fun read => Option read.Value) hne.symm value otherValue _)
        read
  · simp only [hasWriteConcern_set, Bool.or_left_comm]

-----------------------------------------------------------------------------------------
-- Pairs that name a field
-----------------------------------------------------------------------------------------

/-- The reader of a pair is that of the name that its key is. -/
theorem reader?_of_isNamed {name : String} {pair : String × String}
    (h : QueryOption.isNamed name pair = true)
    : QueryOption.reader? pair.1
      = (QueryOption.readers.find? fun entry => entry.1.toList = name.toList).map (·.2) := by
  rw [QueryOption.isNamed, decide_eq_true_eq] at h
  rw [QueryOption.reader?, h]

/-- A pair whose reader makes an option of a value sets a field, if putting the option does. -/
theorem addPair_of_reader {α : Type} {reader : QueryOption.Reader} {pair : String × String}
    (hreader : QueryOption.reader? pair.1 = some reader) (result : Except TextError α)
    {make : α → QueryOption} (hread : reader pair.1 pair.2 = result.map make) {query : Query}
    {field : Field} {given : α → Option field.Value}
    (hput : ∀ value, query.put (make value) = query.set field (given value))
    : query.addPair pair = (result.map given).map (query.set field) := by
  rw [addPair, QueryOption.ofPair, hreader]
  simp only [hread]
  cases result with
  | error error => rfl
  | ok value => exact congrArg Except.ok (hput value)

/-- A pair puts what it says into the field that it names, and into no other. -/
theorem addPair_of_isNamedBy {field : Field} {pair : String × String}
    (h : field.isNamedBy pair = true) (query : Query)
    : query.addPair pair = (field.read pair).map (query.set field) := by
  obtain ⟨name, hname, hkey⟩ := List.any_eq_true.1 h
  have hreader := reader?_of_isNamed hkey
  -- the parts of a write concern are put into one that is there, or into a new one
  obtain ⟨options, authSource, mechanism⟩ := query
  obtain ⟨_, _, _, _, _, _, _, _, _, _, _, _, _, _, _, _, _, _, _, writeConcern⟩ := options
  cases field with
  | tlsEnabled =>
      rcases List.mem_cons.1 hname with rfl | hname
      · refine addPair_of_reader hreader (QueryOption.readBool _ _) rfl fun _ => ?_
        cases writeConcern <;> rfl
      · obtain rfl := List.mem_singleton.1 hname
        refine addPair_of_reader hreader (QueryOption.readBool _ _) rfl fun _ => ?_
        cases writeConcern <;> rfl
  | replicaSet | applicationName | authSource =>
      obtain rfl := List.mem_singleton.1 hname
      refine addPair_of_reader hreader (.ok pair.2) rfl fun _ => ?_
      cases writeConcern <;> rfl
  | tlsAllowInvalidHostnames | directConnection | retryWrites | retryReads | journal =>
      obtain rfl := List.mem_singleton.1 hname
      refine addPair_of_reader hreader (QueryOption.readBool _ _) rfl fun _ => ?_
      cases writeConcern <;> rfl
  | connectTimeout | socketTimeout | maxIdleTime | maxLifeTime | waitQueueTimeout
  | serverSelectionTimeout | localThreshold | heartbeatFrequency | writeTimeout =>
      obtain rfl := List.mem_singleton.1 hname
      refine addPair_of_reader hreader (QueryOption.readMillis _ _) rfl fun _ => ?_
      cases writeConcern <;> rfl
  | maxPoolSize | minPoolSize =>
      obtain rfl := List.mem_singleton.1 hname
      refine addPair_of_reader hreader (QueryOption.readSize _ _) rfl fun _ => ?_
      cases writeConcern <;> rfl
  | readPreference =>
      obtain rfl := List.mem_singleton.1 hname
      refine addPair_of_reader hreader (ReadPreference.read _) rfl fun _ => ?_
      cases writeConcern <;> rfl
  | readConcern =>
      obtain rfl := List.mem_singleton.1 hname
      refine addPair_of_reader hreader (ReadConcern.read _) rfl fun _ => ?_
      cases writeConcern <;> rfl
  | acknowledgment =>
      obtain rfl := List.mem_singleton.1 hname
      refine addPair_of_reader hreader (WriteConcern.read _) rfl fun _ => ?_
      cases writeConcern <;> rfl
  | mechanism =>
      obtain rfl := List.mem_singleton.1 hname
      refine addPair_of_reader hreader (Mechanism.read _) rfl fun _ => ?_
      cases writeConcern <;> rfl

/-- The first field that has a name. -/
def Field.ofName? (name : String) : Option Field :=
  all.find? fun field => name ∈ field.names

theorem Field.ofName?_of_mem {field : Field} {name : String} (h : name ∈ field.names)
    : ofName? name = some field := by
  cases field with
  | tlsEnabled =>
      rcases List.mem_cons.1 h with rfl | h
      · rfl
      · obtain rfl := List.mem_singleton.1 h
        rfl
  | _ =>
      obtain rfl := List.mem_singleton.1 h
      rfl

/-- No name belongs to two fields. -/
theorem Field.eq_of_isNamedBy {field other : Field} {pair : String × String}
    (h : field.isNamedBy pair = true) (hother : other.isNamedBy pair = true)
    : other = field := by
  obtain ⟨name, hname, hkey⟩ := List.any_eq_true.1 h
  obtain ⟨otherName, hotherName, hotherKey⟩ := List.any_eq_true.1 hother
  rw [QueryOption.isNamed, decide_eq_true_eq] at hkey hotherKey
  obtain rfl : otherName = name := String.toList_inj.1 (hotherKey.symm.trans hkey)
  exact Option.some.inj ((ofName?_of_mem hotherName).symm.trans (ofName?_of_mem hname))

-----------------------------------------------------------------------------------------
-- Pairs that name nothing
-----------------------------------------------------------------------------------------

/-- Whether the key of a pair is a name of some field. -/
def isKnown (pair : String × String) : Bool :=
  Field.all.any (·.isNamedBy pair)

theorem isKnown_iff {pair : String × String}
    : isKnown pair = true ↔ ∃ field : Field, field.isNamedBy pair = true := by
  rw [isKnown, List.any_eq_true]
  exact exists_congr fun field => and_iff_right field.mem_all

/-- There is a reader for the names of the fields, and for nothing else. -/
theorem names_readers : QueryOption.readers.map (·.1) = Field.all.flatMap Field.names := by
  rfl

theorem isSome_reader? (pair : String × String)
    : (QueryOption.reader? pair.1).isSome = isKnown pair := by
  have hnamed
      : isKnown pair = (QueryOption.readers.map (·.1)).any (QueryOption.isNamed · pair) := by
    rw [names_readers, List.any_flatMap]
    rfl
  rw [hnamed, List.any_map, QueryOption.reader?, Option.isSome_map, List.isSome_find?]
  congr 1
  funext entry
  exact decide_eq_decide.2 eq_comm

/-- A pair that names nothing changes nothing. -/
theorem addPair_of_not_known {pair : String × String} (h : isKnown pair = false) (query : Query)
    : query.addPair pair = .ok query := by
  have hnone := isSome_reader? pair
  rw [h, Option.isSome_eq_false_iff, Option.isNone_iff_eq_none] at hnone
  rw [addPair, QueryOption.ofPair, hnone]
  rfl

end Query

end MongoConfig
