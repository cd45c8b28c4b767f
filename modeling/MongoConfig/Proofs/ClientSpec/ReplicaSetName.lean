import MongoConfig.Proofs.ClientSpec.Precedence
import MongoConfig.Proofs.ConnectionString.AddedOption
import MongoConfig.Proofs.Settings.Validation
/-! Where the name of a replica set is specified.
A connection string that names a replica set asks for all of its members even if it lists a single
host. A name that is specified beside the connection string comes too late for that: it is laid over
settings whose connection mode is decided. That one value is all that the place of the name matters
for.
-/

namespace MongoConfig

/-- The settings with another connection mode. -/
def Settings.withMode (settings : Settings) (mode : ConnectionMode) : Settings :=
  { settings with cluster := { settings.cluster with mode } }

/-- The type of cluster that is asked for does not depend on the mode. -/
theorem ClusterSettings.promoted_withMode (cluster : ClusterSettings) (mode : ConnectionMode)
    : ({ cluster with mode } : ClusterSettings).promoted = { cluster.promoted with mode } := by
  by_cases hunknown : cluster.requiredReplicaSet.isSome && cluster.requiredType == .unknown
  · have hplain : cluster.promoted = { cluster with requiredType := .replicaSet } :=
      if_pos hunknown
    have hmode
        : ({ cluster with mode } : ClusterSettings).promoted
          = { cluster with mode, requiredType := .replicaSet } :=
      if_pos hunknown
    rw [hmode, hplain]
  · have hplain : cluster.promoted = cluster := if_neg hunknown
    have hmode : ({ cluster with mode } : ClusterSettings).promoted = { cluster with mode } :=
      if_neg hunknown
    rw [hmode, hplain]

/-- A connection string lists a single host and does not say how to connect to it. -/
def ConnectionString.LeavesModeOpen (connection : ConnectionString) : Prop :=
  connection.srv = false
  ∧ connection.options.directConnection = none
  ∧ connection.hosts.length = 1

open ConnectionString (CarriesAlso LacksOption)

namespace ClientSpec

/-- The specification for a connection string, with a replica set name beside it or without. -/
def reaching (spec : ClientSpec) (connection : ConnectionString) (replicaSet : Option String)
    : ClientSpec :=
  { spec with connection := some connection, replicaSet }

/-- The settings in a specification, if there are any, passed validation and name no other replica
set. -/
structure AllowsReplicaSet (spec : ClientSpec) (name : String) : Prop where
  validated : ∀ settings ∈ spec.settings, ∃ draft : Settings, draft.build = .ok settings
  agrees
    : ∀ settings ∈ spec.settings,
        ∀ other ∈ settings.cluster.requiredReplicaSet, other = name

/-- The settings in a specification, if there are any, leave the connection mode as it is. -/
def LeavesMode (spec : ClientSpec) : Prop :=
  ∀ settings ∈ spec.settings, settings.cluster.mode = .single

variable {spec : ClientSpec} {connection : ConnectionString} {raw name : String}

-----------------------------------------------------------------------------------------
-- Connection mode and validation
-----------------------------------------------------------------------------------------

/-- One host that is listed can be reached in either mode. -/
theorem build_withMode (settings : Settings) (mode : ConnectionMode)
    (hsrv : settings.cluster.srvHost = none) (hhosts : settings.cluster.hosts.length ≤ 1)
    : (settings.withMode mode).build = settings.build.map (·.withMode mode) := by
  have hmany : ¬settings.cluster.hosts.length > 1 := by omega
  have hnone : settings.cluster.hostFaults = [] := by
    simp [ClusterSettings.hostFaults, hsrv, hmany]
  have hnoneInMode : (settings.withMode mode).cluster.hostFaults = [] := by
    simp [Settings.withMode, ClusterSettings.hostFaults, hsrv, hmany]
  have hfaults : (settings.withMode mode).faults = settings.faults := by
    rw [Settings.faults, Settings.faults, hnone, hnoneInMode]
    rfl
  have hpromoted
      : (settings.withMode mode).cluster.promoted = { settings.cluster.promoted with mode } :=
    ClusterSettings.promoted_withMode settings.cluster mode
  rw [Settings.build, Settings.build, hfaults, hpromoted]
  cases settings.faults <;> rfl

/-- Settings that passed validation list one host at most if they are for a single server. -/
theorem hosts_of_single {settings draft : Settings} (h : draft.build = .ok settings)
    (hmode : settings.cluster.mode = .single)
    : settings.cluster.srvHost = none ∧ settings.cluster.hosts.length ≤ 1 := by
  have hfaults := (Settings.build_eq_ok_iff.1 (Settings.build_of_build h)).1
  simp only [Settings.faults, List.append_eq_nil_iff] at hfaults
  obtain ⟨⟨⟨-, hnone⟩, -⟩, -⟩ := hfaults
  cases hsrv : settings.cluster.srvHost with
  | some host => simp [ClusterSettings.hostFaults, hsrv, hmode, faultIf] at hnone
  | none =>
      refine ⟨rfl, ?_⟩
      simpa [ClusterSettings.hostFaults, hsrv, hmode, faultIf] using hnone

-----------------------------------------------------------------------------------------
-- The connection mode
-----------------------------------------------------------------------------------------

/-- A name that is added to a connection string counts only if it leaves the mode open. -/
theorem asksForOneServer_namingReplicaSet_iff (hclosed : ¬connection.LeavesModeOpen)
    : (connection.namingReplicaSet raw name).AsksForOneServer
      ↔ connection.AsksForOneServer := by
  constructor
  · rintro ⟨hsrv, hdirect | ⟨-, -, hname⟩⟩
    · exact ⟨hsrv, Or.inl hdirect⟩
    · cases hname
  · rintro ⟨hsrv, hdirect | ⟨hdirect, hone, -⟩⟩
    · exact ⟨hsrv, Or.inl hdirect⟩
    · exact absurd ⟨hsrv, hdirect, hone⟩ hclosed

theorem not_asksForOneServer_namingReplicaSet (hopen : connection.LeavesModeOpen)
    : ¬(connection.namingReplicaSet raw name).AsksForOneServer := by
  obtain ⟨-, hdirect, -⟩ := hopen
  rintro ⟨-, hsingle | ⟨-, -, hname⟩⟩
  · exact absurd (hdirect.symm.trans hsingle) (by simp)
  · cases hname

/-- A connection string gives the mode that it asks for to settings that leave it. -/
theorem mode_overlaid_of_leavesMode (h : spec.LeavesMode) (base : ConnectionString)
    : (spec.overlaid base).cluster.mode
      = if base.AsksForOneServer then .single else .multiple := by
  have hconnected
      : (Settings.defaults.withConnection base).cluster.mode
        = if base.AsksForOneServer then .single else .multiple :=
    Settings.get_withConnection .mode .defaults base
  rw [← hconnected, overlaid]
  cases hsettings : spec.settings with
  | none => rfl
  | some upper =>
      have hsingle : upper.cluster.mode = Settings.defaults.cluster.mode := h upper hsettings
      simp only [Settings.overlay, ClusterSettings.overlay, hsingle, changedOr_default]

/-- Settings that do not leave the mode ask for many servers, whatever the connection string
does. -/
theorem mode_overlaid_of_not_leavesMode (h : ¬spec.LeavesMode) (base : ConnectionString)
    : (spec.overlaid base).cluster.mode = .multiple := by
  simp only [LeavesMode, not_forall] at h
  obtain ⟨upper, hsettings, hmode⟩ := h
  have hmultiple : upper.cluster.mode = .multiple := by
    cases hcase : upper.cluster.mode with
    | single => exact absurd hcase hmode
    | multiple => rfl
  have hoverlaid
      : spec.overlaid base
        = (Settings.defaults.withConnection base).overlay upper .defaults := by
    rw [overlaid, Option.mem_def.1 hsettings]
  simp only [hoverlaid, Settings.overlay, ClusterSettings.overlay, hmultiple]
  rfl

-----------------------------------------------------------------------------------------
-- The two places of a name
-----------------------------------------------------------------------------------------

/-- A name that is added to a connection string gives no value to the other fields. -/
theorem given?_namingReplicaSet {field : Settings.Field} (hmode : field ≠ .mode)
    (hreplicaSet : field ≠ .requiredReplicaSet)
    : field.given? (connection.namingReplicaSet raw name) = field.given? connection := by
  cases field with
  | mode => exact absurd rfl hmode
  | requiredReplicaSet => exact absurd rfl hreplicaSet
  | _ => rfl

theorem get_overlaid_namingReplicaSet {field : Settings.Field} (hmode : field ≠ .mode)
    (hreplicaSet : field ≠ .requiredReplicaSet)
    : field.get (spec.overlaid (connection.namingReplicaSet raw name))
      = field.get (spec.overlaid connection) := by
  rw [get_overlaid, get_overlaid, given?_namingReplicaSet hmode hreplicaSet]

/-- Both places lead to the same settings up to the connection mode, before these are validated. -/
theorem layered_reaching (hspec : spec.AllowsReplicaSet name) (hname : Text.isAllBlank name = false)
    (connection : ConnectionString) (raw : String)
    : (spec.reaching connection (some name)).layered connection
      = ((spec.reaching (connection.namingReplicaSet raw name) none).layered
          (connection.namingReplicaSet raw name)).withMode
            (spec.overlaid connection).cluster.mode := by
  refine Settings.eq_of_get_eq fun field => ?_
  have hsame (hmode : field ≠ .mode) (hreplicaSet : field ≠ .requiredReplicaSet)
      : field.get (spec.overlaid connection)
        = field.get (spec.overlaid (connection.namingReplicaSet raw name)) :=
    (get_overlaid_namingReplicaSet hmode hreplicaSet).symm
  cases field with
  | mode => rfl
  | requiredReplicaSet =>
      have hbeside : (some name).filter (!Text.isAllBlank ·) = some name := by
        rw [Option.filter_some, hname]
        rfl
      have hinside
          : (spec.overlaid (connection.namingReplicaSet raw name)).cluster.requiredReplicaSet
            = some name := by
        rw [requiredReplicaSet_overlaid]
        cases hgiven : spec.settings.bind (·.cluster.requiredReplicaSet) with
        | none => rfl
        | some other =>
            obtain ⟨settings, hsettings, hother⟩ := Option.bind_eq_some_iff.1 hgiven
            rw [hspec.agrees settings hsettings other hother]
            rfl
      exact (congrArg (Option.or · _) hbeside).trans hinside.symm
  | credential =>
      exact congrArg spec.credentials.head?.or (hsame (by decide) (by decide))
  | _ => exact hsame (by decide) (by decide)

theorem resolve_reaching (spec : ClientSpec) (connection : ConnectionString)
    (replicaSet : Option String)
    : (spec.reaching connection replicaSet).resolve
      = if spec.host.isSome || spec.port.isSome then
          .error .conflictingDeployments
        else
          ((spec.reaching connection replicaSet).layered connection).build.mapError .settings := by
  have hbase
      : (spec.reaching connection replicaSet).baseConnection
        = if spec.host.isSome || spec.port.isSome then
            .error .conflictingDeployments
          else
            .ok connection :=
    rfl
  rw [resolve, hbase]
  split <;> rfl

/-- If the mode is decided elsewhere, the name can stand in either place. -/
theorem resolve_reaching_of_decided (hspec : spec.AllowsReplicaSet name)
    (hname : Text.isAllBlank name = false)
    (hdecided : ¬(connection.LeavesModeOpen ∧ spec.LeavesMode))
    : (spec.reaching connection (some name)).resolve
      = (spec.reaching (connection.namingReplicaSet raw name) none).resolve := by
  have hmode
      : (spec.overlaid connection).cluster.mode
        = (spec.overlaid (connection.namingReplicaSet raw name)).cluster.mode := by
    by_cases hleaves : spec.LeavesMode
    · have hclosed : ¬connection.LeavesModeOpen := fun hopen => hdecided ⟨hopen, hleaves⟩
      rw [mode_overlaid_of_leavesMode hleaves, mode_overlaid_of_leavesMode hleaves]
      simp only [asksForOneServer_namingReplicaSet_iff hclosed]
    · rw [mode_overlaid_of_not_leavesMode hleaves, mode_overlaid_of_not_leavesMode hleaves]
  rw [resolve_reaching, resolve_reaching, layered_reaching hspec hname connection raw, hmode]
  rfl

/-- Settings that are laid over a single host list one host at most, if they leave the mode. -/
theorem hosts_overlaid (hspec : spec.AllowsReplicaSet name) (hleaves : spec.LeavesMode)
    (hsrv : connection.srv = false) (hone : connection.hosts.length = 1)
    : (spec.overlaid connection).cluster.srvHost = none
      ∧ (spec.overlaid connection).cluster.hosts.length ≤ 1 := by
  have hconnected
      : (Settings.defaults.withConnection connection).cluster.srvHost = none
        ∧ (Settings.defaults.withConnection connection).cluster.hosts = connection.hosts := by
    simp [Settings.withConnection, ConnectionOptions.applyToCluster,
      ConnectionString.applyHosts, hsrv, Settings.defaults]
  rw [overlaid]
  cases hsettings : spec.settings with
  | none =>
      simp only [hconnected]
      exact ⟨trivial, hone.le⟩
  | some upper =>
      obtain ⟨draft, hdraft⟩ := hspec.validated upper hsettings
      obtain ⟨hnone, hupper⟩ := hosts_of_single hdraft (hleaves upper hsettings)
      simp only [Settings.overlay, ClusterSettings.overlay, hconnected, hnone]
      refine ⟨rfl, ?_⟩
      rw [changedOr]
      split
      · exact hupper
      · exact hone.le

/-- Otherwise a name beside the connection string leaves the client with a single server, and one
inside lets it discover the others. -/
theorem resolve_reaching_of_open (hspec : spec.AllowsReplicaSet name)
    (hname : Text.isAllBlank name = false) (hnone : connection.options.replicaSet = none)
    (hopen : connection.LeavesModeOpen) (hleaves : spec.LeavesMode)
    : (spec.reaching connection (some name)).resolve
        = (spec.reaching (connection.namingReplicaSet raw name) none).resolve.map
            (·.withMode .single)
      ∧ ∀ settings,
          (spec.reaching (connection.namingReplicaSet raw name) none).resolve = .ok settings
          → settings.cluster.mode = .multiple := by
  have ⟨hsrv, hdirect, hone⟩ := hopen
  have hsingle : (spec.overlaid connection).cluster.mode = .single := by
    rw [mode_overlaid_of_leavesMode hleaves]
    exact if_pos ⟨hsrv, Or.inr ⟨hdirect, hone, hnone⟩⟩
  have hmultiple
      : (spec.overlaid (connection.namingReplicaSet raw name)).cluster.mode = .multiple := by
    rw [mode_overlaid_of_leavesMode hleaves]
    exact if_neg (not_asksForOneServer_namingReplicaSet hopen)
  have hhosts
      : (spec.overlaid (connection.namingReplicaSet raw name)).cluster.srvHost = none
        ∧ (spec.overlaid (connection.namingReplicaSet raw name)).cluster.hosts.length ≤ 1 :=
    hosts_overlaid hspec hleaves hsrv hone
  let inside :=
    (spec.reaching (connection.namingReplicaSet raw name) none).layered
      (connection.namingReplicaSet raw name)
  have hbuild : (inside.withMode .single).build = inside.build.map (·.withMode .single) :=
    build_withMode inside .single hhosts.1 hhosts.2
  rw [resolve_reaching, resolve_reaching, layered_reaching hspec hname connection raw, hsingle,
    hbuild]
  constructor
  · split
    · rfl
    · cases Settings.build _ <;> rfl
  · intro settings h
    split at h
    · cases h
    · obtain ⟨-, rfl⟩ := Settings.build_eq_ok_iff.1 (mapError_eq_ok_iff.1 h)
      rw [ClusterSettings.promoted_eq]
      exact hmultiple

-----------------------------------------------------------------------------------------
-- From the texts
-----------------------------------------------------------------------------------------

/-- A replica set can be named beside a connection string or as one of its options. A text that is
refused is refused for the same reason in both cases. Else there is the same result, settings or an
error, unless the connection string lists a single host and the connection mode is left to it: then
the name beside it keeps the mode for a single server, and the option lets the client discover the
replica set. Nothing else differs. -/
theorem resolve_replicaSet_by_place {text other : String} {pair : String × String}
    (hspec : spec.AllowsReplicaSet pair.2) (hother : CarriesAlso pair text other)
    (hnamed : QueryOption.isNamed "replicaset" pair = true)
    (hname : Text.isAllBlank pair.2 = false) (hlacks : LacksOption "replicaset" text)
    : (∃ error,
          ConnectionString.read text = .error error ∧ ConnectionString.read other = .error error)
      ∨ ∃ connection named,
          ConnectionString.read text = .ok connection
          ∧ ConnectionString.read other = .ok named
          ∧ (¬(connection.LeavesModeOpen ∧ spec.LeavesMode)
              → (spec.reaching connection (some pair.2)).resolve
                = (spec.reaching named none).resolve)
          ∧ (connection.LeavesModeOpen
              → spec.LeavesMode
              → (spec.reaching connection (some pair.2)).resolve
                  = (spec.reaching named none).resolve.map (·.withMode .single)
                ∧ ∀ settings,
                    (spec.reaching named none).resolve = .ok settings
                    → settings.cluster.mode = .multiple) := by
  have hread := ConnectionString.read_of_carriesAlso hother hnamed hlacks
  cases htext : ConnectionString.read text with
  | error error =>
      rw [htext] at hread
      exact Or.inl ⟨error, rfl, hread⟩
  | ok connection =>
      rw [htext] at hread
      have hnone := ConnectionString.replicaSet_of_lacksOption hlacks htext
      refine Or.inr ⟨connection, _, rfl, hread, ?_, ?_⟩
      · intro hdecided
        exact resolve_reaching_of_decided hspec hname hdecided
      · intro hopen hleaves
        exact resolve_reaching_of_open hspec hname hnone hopen hleaves

/-- The connection string of two hosts of which one has to acknowledge writes. -/
def twoHosts : ConnectionString :=
  {
    raw := "mongodb://db0,db1/?w=1",
    srv := false,
    hosts := [⟨"db0", 27017⟩, ⟨"db1", 27017⟩],
    database := none,
    credential := none,
    options := { writeConcern := some { acknowledgment := some (.nodes 1) } }
  }

/-- A specification with settings of its own, which name the replica set as well. -/
def withoutRetries : ClientSpec :=
  {
    credentials := [.gssapi "jon"],
    settings :=
      some
        {
          retryReads := false,
          cluster := { requiredType := .replicaSet, requiredReplicaSet := some "rs0" }
        }
  }

theorem resolve_replicaSet_by_place_twoHosts
    : ∃ named,
        ConnectionString.read "mongodb://db0,db1/?w=1" = .ok twoHosts
        ∧ ConnectionString.read "mongodb://db0,db1/?replicaSet=rs0&w=1" = .ok named
        ∧ (withoutRetries.reaching twoHosts (some "rs0")).resolve
          = (withoutRetries.reaching named none).resolve := by
  have hread : ConnectionString.read "mongodb://db0,db1/?w=1" = .ok twoHosts := by
    decide +kernel
  have hspec : withoutRetries.AllowsReplicaSet "rs0" := by
    constructor
    · rintro _ ⟨⟩
      exact ⟨{ retryReads := false, cluster := { requiredReplicaSet := some "rs0" } }, rfl⟩
    · rintro _ ⟨⟩ _ ⟨⟩
      rfl
  have htext
      : ConnectionString.split? (Text.trim "mongodb://db0,db1/?w=1".toList)
        = some
            {
              srv := false,
              userInfo := none,
              hosts := "db0,db1".toList,
              database := [],
              query := "w=1".toList
            } := by
    decide +kernel
  have hpairs : Text.Percent.readPairs "w=1".toList = [] ++ [("w", "1")] := by decide +kernel
  have hmore
      : Text.Percent.readPairs "replicaSet=rs0&w=1".toList
        = [] ++ ("replicaSet", "rs0") :: [("w", "1")] := by
    decide +kernel
  have hother
      : CarriesAlso ("replicaSet", "rs0") "mongodb://db0,db1/?w=1"
          "mongodb://db0,db1/?replicaSet=rs0&w=1" :=
    .query htext (by decide +kernel) hpairs hmore
  have hlacks : LacksOption "replicaset" "mongodb://db0,db1/?w=1" := by
    intro parts hparts pair hpair
    obtain rfl := Option.some.inj (htext.symm.trans hparts)
    rw [ConnectionString.Parts.pairs, hpairs] at hpair
    obtain rfl := List.mem_singleton.1 hpair
    decide +kernel
  rcases resolve_replicaSet_by_place hspec hother (by decide +kernel) (by decide) hlacks with
    ⟨error, herror, -⟩ | ⟨connection, named, hconnection, hnamed, hdecided, -⟩
  · rw [hread] at herror
    cases herror
  · obtain rfl := Except.ok.inj (hread.symm.trans hconnection)
    refine ⟨named, hread, hnamed, hdecided ?_⟩
    rintro ⟨⟨-, -, hone⟩, -⟩
    cases hone

/-- The connection string of a single host, about which nothing else is said. -/
def singleHost : ConnectionString :=
  {
    raw := "mongodb://db0",
    srv := false,
    hosts := [⟨"db0", 27017⟩],
    database := none,
    credential := none,
    options := {}
  }

/-- The settings for a single host that is reached directly and has to be in a replica set. -/
def directMember : Settings :=
  {
    cluster :=
      {
        hosts := [⟨"db0", 27017⟩],
        mode := .single,
        requiredType := .replicaSet,
        requiredReplicaSet := some "rs0"
      }
  }

/-- A specification whose settings name a replica set themselves. -/
def namedInSettings : ClientSpec :=
  {
    settings :=
      some { cluster := { requiredType := .replicaSet, requiredReplicaSet := some "a" } }
  }

/-- A single host is reached directly if the replica set is named beside it. Moreover, settings that
name a replica set win over the name in a connection string, but not over the one beside it. -/
theorem resolve_replicaSet_singleHost
    : ConnectionString.read "mongodb://db0" = .ok singleHost
      ∧ ConnectionString.read
            (ConnectionString.withOption "mongodb://db0" ("replicaSet", "rs0"))
          = .ok (singleHost.namingReplicaSet "mongodb://db0?replicaSet=rs0" "rs0")
      ∧ (ClientSpec.reaching {} singleHost (some "rs0")).resolve = .ok directMember
      ∧ (ClientSpec.reaching {}
            (singleHost.namingReplicaSet "mongodb://db0?replicaSet=rs0" "rs0") none).resolve
          = .ok (directMember.withMode .multiple)
      ∧ (namedInSettings.reaching singleHost (some "rs0")).resolve.map
            (·.cluster.requiredReplicaSet)
          = .ok (some "rs0")
      ∧ (namedInSettings.reaching
            (singleHost.namingReplicaSet "mongodb://db0?replicaSet=rs0" "rs0") none).resolve.map
            (·.cluster.requiredReplicaSet)
          = .ok (some "a") := by
  refine ⟨?_, ?_, ?_, ?_, ?_, ?_⟩
  · decide +kernel
  · decide +kernel
  · rfl
  · rfl
  · rfl
  · rfl

end ClientSpec

end MongoConfig
