import Mathlib.Data.List.Induction
import Mathlib.Logic.Function.Basic
import MongoConfig.FlatSettings.Setter
/-! What a run of setters leaves behind.
Flat settings are known by their fields. A setter changes one field, so after a run each field has
what was set last for it, and the order of setters of different fields does not matter.
-/

namespace MongoConfig.FlatSettings

-----------------------------------------------------------------------------------------
-- Fields
-----------------------------------------------------------------------------------------

theorem Field.mem_all (field : Field) : field ∈ all := by
  cases field <;> decide

/-- The flat settings in which a field has the given value, or none, and every other field what it
had. -/
def Field.put : (field : Field) → Option field.Value → FlatSettings → FlatSettings
  | .applicationName, value, flat => { flat with applicationName := value }
  | .readPreference, value, flat => { flat with readPreference := value }
  | .readConcern, value, flat => { flat with readConcern := value }
  | .writeConcern, value, flat => { flat with writeConcern := value }
  | .retryReads, value, flat => { flat with retryReads := value }
  | .retryWrites, value, flat => { flat with retryWrites := value }
  | .socketConnectTimeout, value, flat => { flat with socketConnectTimeout := value }
  | .socketReadTimeout, value, flat => { flat with socketReadTimeout := value }
  | .socketReceiveBufferSize, value, flat => { flat with socketReceiveBufferSize := value }
  | .socketSendBufferSize, value, flat => { flat with socketSendBufferSize := value }
  | .serverHeartbeatFrequency, value, flat => { flat with serverHeartbeatFrequency := value }
  | .serverMinHeartbeatFrequency, value, flat => { flat with serverMinHeartbeatFrequency := value }
  | .clusterSrvHost, value, flat => { flat with clusterSrvHost := value }
  | .clusterHosts, value, flat => { flat with clusterHosts := value }
  | .clusterMode, value, flat => { flat with clusterMode := value }
  | .clusterType, value, flat => { flat with clusterType := value }
  | .clusterReplicaSet, value, flat => { flat with clusterReplicaSet := value }
  | .clusterLocalThreshold, value, flat => { flat with clusterLocalThreshold := value }
  | .clusterServerSelectionTimeout, value, flat =>
      { flat with clusterServerSelectionTimeout := value }
  | .clusterMaxWaitQueueSize, value, flat => { flat with clusterMaxWaitQueueSize := value }
  | .poolMaxSize, value, flat => { flat with poolMaxSize := value }
  | .poolMinSize, value, flat => { flat with poolMinSize := value }
  | .poolMaxWaitQueueSize, value, flat => { flat with poolMaxWaitQueueSize := value }
  | .poolMaxWaitTime, value, flat => { flat with poolMaxWaitTime := value }
  | .poolMaxConnectionLifetime, value, flat => { flat with poolMaxConnectionLifetime := value }
  | .poolMaxConnectionIdleTime, value, flat => { flat with poolMaxConnectionIdleTime := value }
  | .poolMaintenanceInitialDelay, value, flat => { flat with poolMaintenanceInitialDelay := value }
  | .poolMaintenanceFrequency, value, flat => { flat with poolMaintenanceFrequency := value }
  | .tlsEnabled, value, flat => { flat with tlsEnabled := value }
  | .tlsInvalidHostnameAllowed, value, flat => { flat with tlsInvalidHostnameAllowed := value }
  | .tlsProvider, value, flat => { flat with tlsProvider := value }
  | .autoEncryption, value, flat => { flat with autoEncryption := value }
  | .codecRegistry, value, flat => { flat with codecRegistry := value }
  | .streamFactory, value, flat => { flat with streamFactory := value }

/-- The flat settings that have the given values in their fields. -/
def ofFields (given : (field : Field) → Option field.Value) : FlatSettings :=
  {
    applicationName := given .applicationName,
    readPreference := given .readPreference,
    readConcern := given .readConcern,
    writeConcern := given .writeConcern,
    retryReads := given .retryReads,
    retryWrites := given .retryWrites,
    socketConnectTimeout := given .socketConnectTimeout,
    socketReadTimeout := given .socketReadTimeout,
    socketReceiveBufferSize := given .socketReceiveBufferSize,
    socketSendBufferSize := given .socketSendBufferSize,
    serverHeartbeatFrequency := given .serverHeartbeatFrequency,
    serverMinHeartbeatFrequency := given .serverMinHeartbeatFrequency,
    clusterSrvHost := given .clusterSrvHost,
    clusterHosts := given .clusterHosts,
    clusterMode := given .clusterMode,
    clusterType := given .clusterType,
    clusterReplicaSet := given .clusterReplicaSet,
    clusterLocalThreshold := given .clusterLocalThreshold,
    clusterServerSelectionTimeout := given .clusterServerSelectionTimeout,
    clusterMaxWaitQueueSize := given .clusterMaxWaitQueueSize,
    poolMaxSize := given .poolMaxSize,
    poolMinSize := given .poolMinSize,
    poolMaxWaitQueueSize := given .poolMaxWaitQueueSize,
    poolMaxWaitTime := given .poolMaxWaitTime,
    poolMaxConnectionLifetime := given .poolMaxConnectionLifetime,
    poolMaxConnectionIdleTime := given .poolMaxConnectionIdleTime,
    poolMaintenanceInitialDelay := given .poolMaintenanceInitialDelay,
    poolMaintenanceFrequency := given .poolMaintenanceFrequency,
    tlsEnabled := given .tlsEnabled,
    tlsInvalidHostnameAllowed := given .tlsInvalidHostnameAllowed,
    tlsProvider := given .tlsProvider,
    autoEncryption := given .autoEncryption,
    codecRegistry := given .codecRegistry,
    streamFactory := given .streamFactory
  }

/-- Flat settings are made up of their fields. -/
theorem ofFields_get (flat : FlatSettings) : ofFields (fun field => field.get flat) = flat :=
  rfl

theorem eq_of_get_eq {first second : FlatSettings}
    (h : ∀ field : Field, field.get first = field.get second)
    : first = second := by
  rw [← ofFields_get first, ← ofFields_get second]
  congr 1
  funext field
  exact h field

theorem get_ofFields (given : (field : Field) → Option field.Value) (field : Field)
    : field.get (ofFields given) = given field := by
  cases field <;> rfl

/-- Putting a value into a field replaces that field alone. -/
theorem put_eq (field : Field) (value : Option field.Value) (flat : FlatSettings)
    : field.put value flat
      = ofFields (Function.update (fun other => other.get flat) field value) := by
  cases field <;> rfl

theorem get_put (field : Field) (value : Option field.Value) (flat : FlatSettings)
    : (fun other : Field => other.get (field.put value flat))
      = Function.update (fun other => other.get flat) field value := by
  funext other
  rw [put_eq, get_ofFields]

-----------------------------------------------------------------------------------------
-- Runs
-----------------------------------------------------------------------------------------

def set (flat : FlatSettings) (setter : Setter) : FlatSettings :=
  setter.field.put setter.value flat

/-- The flat settings after setters that follow one another. -/
def configured (setters : List Setter) : FlatSettings :=
  setters.foldl set {}

/-- What a setter sets a field to, if it is a setter of that field. -/
def Setter.value? (setter : Setter) (field : Field) : Option (Option field.Value) :=
  if h : setter.field = field then some (h ▸ setter.value) else none

/-- The value that was set last for a field. A retry flag that was set to nothing has none. -/
def lastSet? (setters : List Setter) (field : Field) : Option field.Value :=
  (setters.reverse.findSome? (·.value? field)).join

theorem lastSet?_append_singleton (setters : List Setter) (setter : Setter) (field : Field)
    : lastSet? (setters ++ [setter]) field
      = (setter.value? field).getD (lastSet? setters field) := by
  rw [lastSet?, List.reverse_append, List.reverse_singleton, List.singleton_append,
    List.findSome?_cons]
  cases setter.value? field <;> rfl

theorem get_set (flat : FlatSettings) (setter : Setter) (field : Field)
    : field.get (flat.set setter) = (setter.value? field).getD (field.get flat) := by
  have hput := congrFun (get_put setter.field setter.value flat) field
  rw [set, hput, Setter.value?]
  by_cases hfield : setter.field = field
  · subst hfield
    simp
  · have hother : field ≠ setter.field := fun h => hfield h.symm
    simp [hfield, hother]

/-- After a run of setters each field has what was set last for it, by induction from the last
setter. -/
theorem get_configured (setters : List Setter) (field : Field)
    : field.get (configured setters) = lastSet? setters field := by
  induction setters using List.reverseRecOn with
  | nil => cases field <;> rfl
  | append_singleton front setter ih =>
      have hrun : configured (front ++ [setter]) = (configured front).set setter := by
        simp only [configured, List.foldl_append, List.foldl_cons, List.foldl_nil]
      rw [hrun, get_set, ih, lastSet?_append_singleton]

/-- A run of setters leaves what was set last, and nothing else. -/
theorem configured_eq (setters : List Setter)
    : configured setters = ofFields (lastSet? setters) := by
  rw [← ofFields_get (configured setters)]
  congr 1
  funext field
  exact get_configured setters field

end MongoConfig.FlatSettings
