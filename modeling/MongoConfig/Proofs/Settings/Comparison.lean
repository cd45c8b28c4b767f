import MongoConfig.Proofs.Settings.Field
import MongoConfig.Proofs.Settings.Validation
/-! Comparison of settings is reflexive and symmetric, and validation goes by it.
Most of their values are compared by equality. Encryption settings are compared by the values of
their documents, and codec registries by the names of their providers.
-/

namespace MongoConfig

namespace Json

theorem Number.beq_self (number : Number) : (number == number) = true := by
  cases number with
  | integer value => exact beq_self_eq_true value
  | float value => exact Bool.or_eq_true_iff.2 (Or.inr (decide_eq_true rfl))

theorem Number.beq_comm (a b : Number) : (a == b) = (b == a) := by
  cases a with
  | integer a =>
      cases b with
      | integer b => exact @Bool.beq_comm Int _ _ a b
      | float b => rfl
  | float a =>
      cases b with
      | integer b => rfl
      | float b =>
          change (a.isZero && b.isZero || decide (a = b)) = (b.isZero && a.isZero || decide (b = a))
          rw [Bool.and_comm, decide_eq_decide.2 eq_comm]

mutual
/-- Every value is the same as itself, by structural induction. -/
theorem same_self (value : Json) : same value value = true := by
  cases value with
  | null => rfl
  | bool value => exact beq_self_eq_true value
  | number value => exact value.beq_self
  | string value => exact beq_self_eq_true value
  | array items => exact sameItems_self items
  | object members => exact sameMembers_self members

theorem sameItems_self (items : List Json) : sameItems items items = true := by
  cases items with
  | nil => rfl
  | cons item rest =>
      rw [sameItems, same_self item, sameItems_self rest]
      rfl

theorem sameMembers_self (members : List (String × Json))
    : sameMembers members members = true := by
  cases members with
  | nil => rfl
  | cons member rest =>
      obtain ⟨key, value⟩ := member
      rw [sameMembers, same_self value, sameMembers_self rest, beq_self_eq_true key]
      rfl
end

mutual
/-- It does not matter which of two values comes first, by structural induction. -/
theorem same_comm (a b : Json) : same a b = same b a := by
  cases a with
  | null => cases b <;> rfl
  | bool a =>
      cases b with
      | bool b => exact Bool.beq_comm
      | _ => rfl
  | number a =>
      cases b with
      | number b => exact a.beq_comm b
      | _ => rfl
  | string a =>
      cases b with
      | string b => exact Bool.beq_comm
      | _ => rfl
  | array a =>
      cases b with
      | array b => exact sameItems_comm a b
      | _ => rfl
  | object a =>
      cases b with
      | object b => exact sameMembers_comm a b
      | _ => rfl

theorem sameItems_comm (as bs : List Json) : sameItems as bs = sameItems bs as := by
  cases as with
  | nil => cases bs <;> rfl
  | cons a as =>
      cases bs with
      | nil => rfl
      | cons b bs => rw [sameItems, sameItems, same_comm a b, sameItems_comm as bs]

theorem sameMembers_comm (as bs : List (String × Json))
    : sameMembers as bs = sameMembers bs as := by
  cases as with
  | nil => cases bs <;> rfl
  | cons a as =>
      cases bs with
      | nil => rfl
      | cons b bs =>
          obtain ⟨key, a⟩ := a
          obtain ⟨otherKey, b⟩ := b
          rw [sameMembers, sameMembers, same_comm a b, sameMembers_comm as bs,
            Bool.beq_comm (a := key)]
end

instance : ReflBEq Json :=
  ⟨fun {value} => same_self value⟩

end Json

/-- Lists are compared item by item, so it does not matter which comes first if this does not matter
for the items. -/
theorem list_beq_comm {α : Type} [BEq α] (h : ∀ a b : α, (a == b) = (b == a)) (as bs : List α)
    : (as == bs) = (bs == as) := by
  induction as generalizing bs with
  | nil => cases bs <;> rfl
  | cons a as ih =>
      cases bs with
      | nil => rfl
      | cons b bs => rw [List.cons_beq_cons, List.cons_beq_cons, h a b, ih bs]

namespace AutoEncryption

theorem beq_eq (a b : AutoEncryption)
    : (a == b)
      = (a.keyVaultNamespace == b.keyVaultNamespace
        && decide (a.kmsProviders = b.kmsProviders)
        && a.schemaMap.entries == b.schemaMap.entries
        && a.bypass == b.bypass) :=
  rfl

theorem beq_comm (a b : AutoEncryption) : (a == b) = (b == a) := by
  have hmember (x y : String × Json) : (x == y) = (y == x) := by
    change (x.1 == y.1 && Json.same x.2 y.2) = (y.1 == x.1 && Json.same y.2 x.2)
    rw [Bool.beq_comm, Json.same_comm]
  rw [beq_eq, beq_eq, list_beq_comm hmember, Bool.beq_comm (a := a.bypass),
    Bool.beq_comm (a := a.keyVaultNamespace), decide_eq_decide.2 eq_comm]

instance : ReflBEq AutoEncryption where
  rfl := by
    intro settings
    rw [beq_eq, decide_eq_true rfl, beq_self_eq_true, beq_self_eq_true, beq_self_eq_true]
    rfl

end AutoEncryption

theorem CodecRegistry.beq_comm (a b : CodecRegistry) : (a == b) = (b == a) :=
  Bool.beq_comm (a := a.names)

instance : ReflBEq CodecRegistry :=
  ⟨fun {registry} => beq_self_eq_true registry.names⟩

namespace Settings

instance (field : Field) : ReflBEq field.Value :=
  match field with
  | .applicationName | .srvHost | .requiredReplicaSet =>
      inferInstanceAs (ReflBEq (Option String))
  | .autoEncryption => inferInstanceAs (ReflBEq (Option AutoEncryption))
  | .codecRegistry => inferInstanceAs (ReflBEq CodecRegistry)
  | .credential => inferInstanceAs (ReflBEq (Option Credential))
  | .readConcern => inferInstanceAs (ReflBEq ReadConcern)
  | .readPreference => inferInstanceAs (ReflBEq ReadPreference)
  | .retryReads | .retryWrites | .tlsEnabled | .invalidHostnameAllowed =>
      inferInstanceAs (ReflBEq Bool)
  | .streamFactory => inferInstanceAs (ReflBEq (Option StreamFactory))
  | .writeConcern => inferInstanceAs (ReflBEq WriteConcern)
  | .hosts => inferInstanceAs (ReflBEq (List Address))
  | .mode => inferInstanceAs (ReflBEq ConnectionMode)
  | .requiredType => inferInstanceAs (ReflBEq ClusterType)
  | .securityContext => inferInstanceAs (ReflBEq (Option SecurityContext))
  | .serverWaitQueueSize | .maxPoolSize | .minPoolSize | .poolWaitQueueSize
  | .receiveBufferSize | .sendBufferSize => inferInstanceAs (ReflBEq UInt32)
  | .localThreshold | .serverSelectionTimeout | .maxWaitTime | .maxConnectionLifetime
  | .maxConnectionIdleTime | .maintenanceInitialDelay | .maintenanceFrequency
  | .heartbeatFrequency | .minHeartbeatFrequency | .connectTimeout | .readTimeout =>
      inferInstanceAs (ReflBEq Duration)

instance : ReflBEq Settings where
  rfl :=
    beq_iff.2 ⟨rfl, BEq.rfl, BEq.rfl, rfl, rfl, rfl, rfl, rfl, rfl, rfl, rfl, rfl, rfl, rfl, rfl⟩

/-- Settings that compare equal have the same faults. -/
theorem faults_congr {a b : Settings} (h : (a == b) = true) : a.faults = b.faults := by
  obtain ⟨-, -, -, -, -, -, -, -, -, -, hcluster, hpool, hserver, -, -⟩ := beq_iff.1 h
  rw [faults, faults, hcluster, hpool, hserver]

/-- What validation makes of settings that compare equal compares equal. -/
theorem build_congr {a b built : Settings} (h : (a == b) = true) (hbuilt : b.build = .ok built)
    : ∃ made, a.build = .ok made ∧ (made == built) = true := by
  obtain ⟨hfaults, rfl⟩ := build_eq_ok_iff.1 hbuilt
  refine ⟨_, build_eq_ok_iff.2 ⟨(faults_congr h).trans hfaults, rfl⟩, ?_⟩
  obtain ⟨hname, hencryption, hregistry, hcredential, hconcern, hpreference, hreads, hwrites,
    hstreams, hwriteConcern, hcluster, hrest⟩ := beq_iff.1 h
  exact
    beq_iff.2
      ⟨hname, hencryption, hregistry, hcredential, hconcern, hpreference, hreads, hwrites,
        hstreams, hwriteConcern, congrArg ClusterSettings.promoted hcluster, hrest⟩

end Settings

end MongoConfig
