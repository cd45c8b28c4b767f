import MongoConfig.Proofs.Settings.Deployment
import MongoConfig.Proofs.Settings.FaultOrder
/-! Which connection strings are refused although their texts can be read.
On its own a connection string is laid over the defaults. There are three things it can say that do
not go together then; all other faults of settings need something that no connection string says, or
that its reader does not let through.
-/

namespace MongoConfig

namespace ConnectionString

/-- One of several hosts that are listed is to be connected to directly. -/
def AsksForOneOfMany (connection : ConnectionString) : Prop :=
  connection.srv = false
  ∧ connection.options.directConnection = some true
  ∧ 1 < connection.hosts.length

/-- The most connections that are kept: a hundred, unless an option says otherwise. -/
def maxPoolSize (connection : ConnectionString) : UInt32 :=
  connection.options.maxPoolSize.getD 100

/-- The fewest connections that are kept: none, unless an option says otherwise. -/
def minPoolSize (connection : ConnectionString) : UInt32 :=
  connection.options.minPoolSize.getD 0

/-- More connections have to be kept than may be. -/
def Overfills (connection : ConnectionString) : Prop :=
  0 < connection.maxPoolSize ∧ connection.maxPoolSize < connection.minPoolSize

/-- The state of servers is asked for without a pause. -/
def LeavesNoPause (connection : ConnectionString) : Prop :=
  connection.options.heartbeatFrequency = some (.ofMillis 0)

/-- What a connection string is refused for. Where several reasons apply, the first of them counts
in this order. -/
inductive IsRefusedFor (connection : ConnectionString) : SettingsFault → Prop
  | hosts (h : connection.AsksForOneOfMany) : IsRefusedFor connection .manyHostsInSingleMode
  | poolSizes (hhosts : ¬connection.AsksForOneOfMany) (h : connection.Overfills)
    : IsRefusedFor connection (.poolMinAboveMax connection.minPoolSize connection.maxPoolSize)
  | heartbeat (hhosts : ¬connection.AsksForOneOfMany) (hpool : ¬connection.Overfills)
    (h : connection.LeavesNoPause)
    : IsRefusedFor connection (.zeroDuration .heartbeatFrequency)

instance (connection : ConnectionString) : Decidable connection.AsksForOneOfMany :=
  inferInstanceAs (Decidable (_ ∧ _))

instance (connection : ConnectionString) : Decidable connection.Overfills :=
  inferInstanceAs (Decidable (_ ∧ _))

instance (connection : ConnectionString) : Decidable connection.LeavesNoPause :=
  inferInstanceAs (Decidable (_ = _))

variable {text : String} {connection : ConnectionString}

-----------------------------------------------------------------------------------------
-- The faults of settings that a connection string makes
-----------------------------------------------------------------------------------------

/-- Any replica set name goes with the defaults, which leave the type of cluster open. -/
theorem replicaSetFaults_withConnection_defaults (connection : ConnectionString)
    : (Settings.defaults.withConnection connection).cluster.replicaSetFaults = [] := by
  have htype : (Settings.defaults.withConnection connection).cluster.requiredType = .unknown :=
    Settings.get_withConnection .requiredType .defaults connection
  simp [ClusterSettings.replicaSetFaults, htype]

/-- An SRV name that was read has no port, and several servers may stand behind it. -/
theorem hostFaults_withConnection_of_srv (settings : Settings) (h : read text = .ok connection)
    (hsrv : connection.srv = true)
    : (settings.withConnection connection).cluster.hostFaults = [] := by
  obtain ⟨address, hhosts, hcolon⟩ := srvName_of_read h hsrv
  have htargets := Settings.targets_withConnection_of_srv settings h hsrv
  rw [ClusterSettings.Targets, if_pos hsrv] at htargets
  obtain ⟨other, hother, hname, hmode⟩ := htargets
  obtain rfl : address = other := List.singleton_inj.1 (hhosts.symm.trans hother)
  have hmultiple : (ConnectionMode.multiple == ConnectionMode.single) = false := rfl
  simp [ClusterSettings.hostFaults, hname, hmode, hcolon, hmultiple]

theorem asksForOneOfMany_iff (hsrv : connection.srv = false)
    : connection.AsksForOneOfMany
      ↔ connection.AsksForOneServer ∧ 1 < connection.hosts.length := by
  constructor
  · rintro ⟨-, hdirect, hmany⟩
    exact ⟨⟨hsrv, Or.inl hdirect⟩, hmany⟩
  · rintro ⟨⟨-, hdirect | ⟨-, hone, -⟩⟩, hmany⟩
    · exact ⟨hsrv, hdirect, hmany⟩
    · omega

/-- Over the defaults the hosts can be at fault only if one of several is asked for. -/
theorem hostFaults_withConnection_defaults (h : read text = .ok connection)
    : (Settings.defaults.withConnection connection).cluster.hostFaults
      = faultIf connection.AsksForOneOfMany .manyHostsInSingleMode := by
  cases hsrv : connection.srv with
  | true =>
      have hnot : ¬connection.AsksForOneOfMany := by
        rintro ⟨hlisted, -⟩
        exact Bool.noConfusion (hsrv.symm.trans hlisted)
      rw [hostFaults_withConnection_of_srv .defaults h hsrv, decide_eq_false hnot, faultIf_false]
  | false =>
      obtain ⟨hkept, hhosts⟩ := Settings.deployment_withConnection_of_not_srv .defaults hsrv
      have hname : (Settings.defaults.withConnection connection).cluster.srvHost = none := hkept
      simp only [ClusterSettings.hostFaults, hname, hhosts]
      apply Settings.faultIf_eq_of_iff
      rw [Bool.and_eq_true, beq_iff_eq, decide_eq_true_eq, asksForOneOfMany_iff hsrv,
        Settings.mode_withConnection_eq_single_iff]

theorem poolFaults_withConnection_defaults (connection : ConnectionString)
    : (Settings.defaults.withConnection connection).pool.faults
      = faultIf connection.Overfills
          (.poolMinAboveMax connection.minPoolSize connection.maxPoolSize) := by
  have hmaintained
      : (Settings.defaults.withConnection connection).pool.maintenanceFrequency.isZero = false :=
    rfl
  rw [PoolSettings.faults, hmaintained, faultIf_false, List.append_nil]
  apply Settings.faultIf_eq_of_iff
  rw [Bool.and_eq_true, decide_eq_true_eq, decide_eq_true_eq]
  rfl

/-- A heartbeat without a pause has to be asked for: the default pauses for ten seconds. -/
theorem serverFaults_withConnection_defaults (connection : ConnectionString)
    : (Settings.defaults.withConnection connection).server.faults
      = faultIf connection.LeavesNoPause (.zeroDuration .heartbeatFrequency) := by
  have hleast
      : (Settings.defaults.withConnection connection).server.minHeartbeatFrequency.isZero
        = false :=
    rfl
  have hfrequency
      : (Settings.defaults.withConnection connection).server.heartbeatFrequency
        = connection.options.heartbeatFrequency.getD (.ofMillis 10000) :=
    Settings.get_withConnection .heartbeatFrequency .defaults connection
  rw [ServerSettings.faults, hleast, faultIf_false, List.append_nil, hfrequency]
  apply Settings.faultIf_eq_of_iff
  rw [Settings.isZero_iff, LeavesNoPause]
  cases connection.options.heartbeatFrequency with
  | none => decide
  | some frequency =>
      rw [Option.getD_some, Option.some.injEq]
      rfl

/-- All faults that a connection string can make over the defaults, in the order of report. -/
theorem faults_withConnection_defaults (h : read text = .ok connection)
    : (Settings.defaults.withConnection connection).faults
      = faultIf connection.AsksForOneOfMany .manyHostsInSingleMode
        ++ faultIf connection.Overfills
            (.poolMinAboveMax connection.minPoolSize connection.maxPoolSize)
        ++ faultIf connection.LeavesNoPause (.zeroDuration .heartbeatFrequency) := by
  rw [Settings.faults, replicaSetFaults_withConnection_defaults, List.nil_append,
    hostFaults_withConnection_defaults h, poolFaults_withConnection_defaults,
    serverFaults_withConnection_defaults]

-----------------------------------------------------------------------------------------
-- The fault that is reported
-----------------------------------------------------------------------------------------

theorem build_withConnection_defaults_eq_error_iff (h : read text = .ok connection)
    {fault : SettingsFault}
    : (Settings.defaults.withConnection connection).build = .error fault
      ↔ connection.IsRefusedFor fault := by
  rw [Settings.build_eq_error_iff_faults, faults_withConnection_defaults h, List.append_assoc,
    Settings.exists_faultIf_append_eq_cons_iff, Settings.exists_faultIf_append_eq_cons_iff,
    Settings.exists_faultIf_eq_cons_iff]
  constructor
  · rintro (⟨hhosts, rfl⟩ | ⟨hhosts, ⟨hpool, rfl⟩ | ⟨hpool, hpause, rfl⟩⟩)
    · exact .hosts hhosts
    · exact .poolSizes hhosts hpool
    · exact .heartbeat hhosts hpool hpause
  · intro hrefused
    cases hrefused with
    | hosts hhosts => exact Or.inl ⟨hhosts, rfl⟩
    | poolSizes hhosts hpool => exact Or.inr ⟨hhosts, Or.inl ⟨hpool, rfl⟩⟩
    | heartbeat hhosts hpool hpause => exact Or.inr ⟨hhosts, Or.inr ⟨hpool, hpause, rfl⟩⟩

theorem exists_isRefusedFor_iff
    : (∃ fault, connection.IsRefusedFor fault)
      ↔ connection.AsksForOneOfMany ∨ connection.Overfills ∨ connection.LeavesNoPause := by
  constructor
  · rintro ⟨fault, hrefused⟩
    cases hrefused with
    | hosts hhosts => exact Or.inl hhosts
    | poolSizes hhosts hpool => exact Or.inr (Or.inl hpool)
    | heartbeat hhosts hpool hpause => exact Or.inr (Or.inr hpause)
  · intro hreason
    by_cases hhosts : connection.AsksForOneOfMany
    · exact ⟨_, .hosts hhosts⟩
    · by_cases hpool : connection.Overfills
      · exact ⟨_, .poolSizes hhosts hpool⟩
      · have hpause := (hreason.resolve_left hhosts).resolve_left hpool
        exact ⟨_, .heartbeat hhosts hpool hpause⟩

/-- A connection string whose text can be read is refused for three reasons only: one of several
hosts is asked for directly, more connections have to be kept than may be, or the state of servers
is asked for without a pause. The first of them is reported, and no other fault of settings can
come of a connection string alone. -/
theorem build_withConnection_defaults (h : read text = .ok connection)
    : ((∃ fault, (Settings.defaults.withConnection connection).build = .error fault)
        ↔ connection.AsksForOneOfMany ∨ connection.Overfills ∨ connection.LeavesNoPause)
      ∧ (∀ fault,
          (Settings.defaults.withConnection connection).build = .error fault
          ↔ connection.IsRefusedFor fault)
      ∧ (∀ type,
          (Settings.defaults.withConnection connection).build
          ≠ .error (.replicaSetInOtherCluster type))
      ∧ (∀ host,
          (Settings.defaults.withConnection connection).build ≠ .error (.srvHostWithPort host))
      ∧ (Settings.defaults.withConnection connection).build ≠ .error .srvHostInSingleMode
      ∧ ∀ setting,
          (Settings.defaults.withConnection connection).build = .error (.zeroDuration setting)
          → setting = .heartbeatFrequency := by
  have hbuild (fault : SettingsFault)
      : (Settings.defaults.withConnection connection).build = .error fault
        ↔ connection.IsRefusedFor fault :=
    build_withConnection_defaults_eq_error_iff h
  refine ⟨(exists_congr hbuild).trans exists_isRefusedFor_iff, hbuild, ?_, ?_, ?_, ?_⟩
  · intro type hrefused
    cases (hbuild _).1 hrefused
  · intro host hrefused
    cases (hbuild _).1 hrefused
  · intro hrefused
    cases (hbuild _).1 hrefused
  · intro setting hrefused
    cases (hbuild _).1 hrefused
    rfl

/-- The connection string of two hosts with something wrong in all three ways. -/
def wrongThroughout : ConnectionString :=
  {
    raw :=
      "mongodb://db0,db1/?minPoolSize=101&heartbeatFrequencyMS=0&directConnection=true"
        ++ "&replicaSet=rs0",
    srv := false,
    hosts := [⟨"db0", 27017⟩, ⟨"db1", 27017⟩],
    database := none,
    credential := none,
    options :=
      {
        replicaSet := some "rs0",
        directConnection := some true,
        minPoolSize := some 101,
        heartbeatFrequency := some (.ofMillis 0)
      }
  }

theorem build_withConnection_defaults_wrongThroughout
    : read wrongThroughout.raw = .ok wrongThroughout
      ∧ (Settings.defaults.withConnection wrongThroughout).build
        = .error .manyHostsInSingleMode := by
  have hread : read wrongThroughout.raw = .ok wrongThroughout := by decide +kernel
  obtain ⟨-, hrefused, -⟩ := build_withConnection_defaults hread
  exact ⟨hread, (hrefused _).2 (.hosts (by decide))⟩

end ConnectionString

end MongoConfig
