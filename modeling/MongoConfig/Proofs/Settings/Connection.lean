import Mathlib.Data.List.Induction
import MongoConfig.ConnectionString.Reader
import MongoConfig.Proofs.Settings.Field
/-! Connection strings over settings that are there already.
A connection string replaces the fields that it gives a value and leaves the others to what was
there, so the same one once more changes nothing, and after several each field has the value of the
last one that gives it.
-/

namespace MongoConfig.Settings

/-- The fields that no connection string has a word for. -/
def Field.isOutOfReach : Field → Bool
  | autoEncryption | codecRegistry | streamFactory | securityContext | requiredType
  | serverWaitQueueSize | poolWaitQueueSize | maintenanceInitialDelay | maintenanceFrequency
  | receiveBufferSize | sendBufferSize | minHeartbeatFrequency => true
  | _ => false

/-- The settings after several connection strings were applied to them, one after the other. -/
def withConnections (settings : Settings) (connections : List ConnectionString) : Settings :=
  connections.foldl withConnection settings

/-- The value that the last of several connection strings gives to a field, if one of them does. -/
def Field.lastGiven? (field : Field) (connections : List ConnectionString) : Option field.Value :=
  connections.reverse.findSome? field.given?

variable {settings : Settings} {connection : ConnectionString}

-----------------------------------------------------------------------------------------
-- One connection string
-----------------------------------------------------------------------------------------

/-- No field is forgotten, and none gets the value of another. -/
theorem eq_withConnection_iff {result : Settings}
    : result = settings.withConnection connection
      ↔ ∀ field : Field,
          (∀ value, field.given? connection = some value → field.get result = value)
          ∧ (field.given? connection = none → field.get result = field.get settings) := by
  constructor
  · rintro rfl field
    rw [get_withConnection]
    constructor
    · intro value hgiven
      rw [hgiven, Option.getD_some]
    · intro hgiven
      rw [hgiven, Option.getD_none]
  · intro hfields
    apply eq_of_get_eq
    intro field
    obtain ⟨hgiven, hkept⟩ := hfields field
    rw [get_withConnection]
    cases hvalue : field.given? connection with
    | some value => exact hgiven value hvalue
    | none => exact hkept hvalue

/-- The same connection string once more finds what it gave. -/
theorem withConnection_withConnection (settings : Settings) (connection : ConnectionString)
    : (settings.withConnection connection).withConnection connection
      = settings.withConnection connection := by
  apply eq_of_get_eq
  intro field
  simp only [get_withConnection]
  cases field.given? connection <;> rfl

theorem given?_of_isOutOfReach {field : Field} (h : field.isOutOfReach = true)
    (connection : ConnectionString)
    : field.given? connection = none := by
  cases field with
  | autoEncryption | codecRegistry | streamFactory | securityContext | requiredType
  | serverWaitQueueSize | poolWaitQueueSize | maintenanceInitialDelay | maintenanceFrequency
  | receiveBufferSize | sendBufferSize | minHeartbeatFrequency => rfl
  | _ => cases h

/-- The mode is always decided anew. -/
theorem mode_withConnection (settings : Settings) (connection : ConnectionString)
    : (settings.withConnection connection).cluster.mode
      = if connection.AsksForOneServer then .single else .multiple :=
  get_withConnection .mode settings connection

theorem mode_withConnection_eq_single_iff
    : (settings.withConnection connection).cluster.mode = .single
      ↔ connection.AsksForOneServer := by
  rw [mode_withConnection]
  by_cases hone : connection.AsksForOneServer
  · simp [hone]
  · simp [hone]

-----------------------------------------------------------------------------------------
-- Several connection strings
-----------------------------------------------------------------------------------------

theorem withConnections_append_singleton (settings : Settings) (front : List ConnectionString)
    (connection : ConnectionString)
    : settings.withConnections (front ++ [connection])
      = (settings.withConnections front).withConnection connection := by
  simp only [withConnections, List.foldl_append, List.foldl_cons, List.foldl_nil]

/-- Each field has the value of the last connection string that gives it, by induction from the last
one. -/
theorem get_withConnections (field : Field) (settings : Settings)
    (connections : List ConnectionString)
    : field.get (settings.withConnections connections)
      = (field.lastGiven? connections).getD (field.get settings) := by
  induction connections using List.reverseRecOn with
  | nil => rfl
  | append_singleton front connection ih =>
      rw [withConnections_append_singleton, get_withConnection, ih, Field.lastGiven?,
        Field.lastGiven?, List.reverse_append, List.reverse_singleton, List.singleton_append,
        List.findSome?_cons]
      cases field.given? connection <;> rfl

-----------------------------------------------------------------------------------------
-- All fields
-----------------------------------------------------------------------------------------

/-- A connection string is an overlay that leaves out what it does not speak of. Each field takes
the value that it gives, else stays as it is; a second time changes nothing; without SRV lookup the
mode is the one for a single server exactly if the connection string asks for one; and what it has
no words for is never touched. After several connection strings each field has what the last one
with a value for it gave. -/
theorem withConnection_by_fields (settings : Settings) (connection : ConnectionString)
    : (∀ result : Settings,
        result = settings.withConnection connection
        ↔ ∀ field : Field,
            (∀ value, field.given? connection = some value → field.get result = value)
            ∧ (field.given? connection = none → field.get result = field.get settings))
      ∧ (settings.withConnection connection).withConnection connection
        = settings.withConnection connection
      ∧ (connection.srv = false
          → ((settings.withConnection connection).cluster.mode = .single
            ↔ connection.options.directConnection = some true
              ∨ connection.options.directConnection = none
                ∧ connection.hosts.length = 1
                ∧ connection.options.replicaSet = none))
      ∧ (∀ field : Field,
          field.isOutOfReach = true
          → field.get (settings.withConnection connection) = field.get settings)
      ∧ ∀ (field : Field) (connections : List ConnectionString),
          field.get (settings.withConnections connections)
          = (field.lastGiven? connections).getD (field.get settings) := by
  refine ⟨fun _ => eq_withConnection_iff, withConnection_withConnection settings connection,
    ?mode, ?untouched, fun field => get_withConnections field settings⟩
  case mode =>
    intro hsrv
    exact mode_withConnection_eq_single_iff.trans (and_iff_right hsrv)
  case untouched =>
    intro field hfield
    rw [get_withConnection, given?_of_isOutOfReach hfield, Option.getD_none]

/-- Settings in which much is configured, a replica set and two time limits among it. -/
def configuredBefore : Settings :=
  {
    applicationName := some "inventory",
    retryReads := false,
    streamFactory := some { name := "netty" },
    cluster :=
      {
        mode := .multiple,
        requiredType := .replicaSet,
        requiredReplicaSet := some "rs0",
        localThreshold := .ofMillis 40,
        maxWaitQueueSize := 9
      },
    pool := { maxSize := 50, minSize := 3 },
    server := { minHeartbeatFrequency := .ofMillis 100 }
  }

/-- The connection string of one host, with a size and a flag among its options. -/
def directHost : ConnectionString :=
  {
    raw := "mongodb://db0/?directConnection=true&maxPoolSize=7&retryReads=true",
    srv := false,
    hosts := [⟨"db0", 27017⟩],
    database := none,
    credential := none,
    options :=
      {
        directConnection := some true,
        maxPoolSize := some 7,
        retryReads := some true
      }
  }

theorem withConnection_by_fields_directHost
    : ConnectionString.read directHost.raw = .ok directHost
      ∧ (configuredBefore.withConnection directHost).cluster.mode = .single
      ∧ (configuredBefore.withConnection directHost).pool.maxSize = 7
      ∧ (configuredBefore.withConnection directHost).cluster.localThreshold = .ofMillis 40
      ∧ (configuredBefore.withConnection directHost).server.minHeartbeatFrequency
        = .ofMillis 100 := by
  obtain ⟨hfields, -, hmode, huntouched, -⟩ := withConnection_by_fields configuredBefore directHost
  have hresult := (hfields (configuredBefore.withConnection directHost)).1 rfl
  refine ⟨by decide +kernel, (hmode rfl).2 (Or.inl rfl), ?_, ?_, ?_⟩
  · exact (hresult .maxPoolSize).1 (7 : UInt32) rfl
  · exact (hresult .localThreshold).2 rfl
  · exact huntouched .minHeartbeatFrequency rfl

end MongoConfig.Settings
