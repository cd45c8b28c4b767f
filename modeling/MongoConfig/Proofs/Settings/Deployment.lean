import MongoConfig.Proofs.ConnectionString.Parts
import MongoConfig.Proofs.Settings.Connection
import MongoConfig.Proofs.Settings.Validation
/-! Where a client connects after connection strings were applied to its settings.
The servers behind an SRV name are found by looking it up, and hosts that are listed beside it do
not count. A connection string with SRV lookup replaces the name; one without brings its hosts and
leaves the name in place. So the last connection string decides where the client connects if it has
an SRV name itself, or if there was none before.
-/

namespace MongoConfig

/-- The cluster is the deployment of a connection string: the servers behind its SRV name, of which
there can be several, or else those that it lists. -/
def ClusterSettings.Targets (cluster : ClusterSettings) (connection : ConnectionString) : Prop :=
  if connection.srv then
    ∃ address,
      connection.hosts = [address]
      ∧ cluster.srvHost = some address.host
      ∧ cluster.mode = .multiple
  else
    cluster.srvHost = none ∧ cluster.hosts = connection.hosts

namespace Settings

variable {text : String} {connection : ConnectionString}

-----------------------------------------------------------------------------------------
-- One connection string
-----------------------------------------------------------------------------------------

/-- An SRV name that was read is the only host, and several servers may stand behind it. -/
theorem targets_withConnection_of_srv (settings : Settings)
    (h : ConnectionString.read text = .ok connection) (hsrv : connection.srv = true)
    : (settings.withConnection connection).cluster.Targets connection := by
  obtain ⟨address, hhosts, -⟩ := ConnectionString.srvName_of_read h hsrv
  have hname := get_withConnection .srvHost settings connection
  have hmode := get_withConnection .mode settings connection
  simp only [Field.given?, hsrv, hhosts, ConnectionString.AsksForOneServer] at hname hmode
  rw [ClusterSettings.Targets, if_pos hsrv]
  exact ⟨address, hhosts, hname, hmode⟩

/-- Hosts that are listed replace those that were, but not an SRV name. -/
theorem deployment_withConnection_of_not_srv (settings : Settings)
    (hsrv : connection.srv = false)
    : (settings.withConnection connection).cluster.srvHost = settings.cluster.srvHost
      ∧ (settings.withConnection connection).cluster.hosts = connection.hosts := by
  have hname := get_withConnection .srvHost settings connection
  have hhosts := get_withConnection .hosts settings connection
  simp only [Field.given?, hsrv, Bool.false_eq_true, if_false] at hname hhosts
  exact ⟨hname, hhosts⟩

theorem targets_withConnection_iff_srvHost (settings : Settings)
    (h : ConnectionString.read text = .ok connection)
    : (settings.withConnection connection).cluster.Targets connection
      ↔ connection.srv = true ∨ settings.cluster.srvHost = none := by
  cases hsrv : connection.srv with
  | true => simp [targets_withConnection_of_srv settings h hsrv]
  | false =>
      obtain ⟨hname, hhosts⟩ := deployment_withConnection_of_not_srv settings hsrv
      simp [ClusterSettings.Targets, hsrv, hname, hhosts]

-----------------------------------------------------------------------------------------
-- Earlier connection strings
-----------------------------------------------------------------------------------------

/-- An SRV name is there if there was one before or if some connection string has one, by induction
from the last of them. -/
theorem srvHost_withConnections_eq_none_iff (settings : Settings)
    {connections : List ConnectionString}
    (h : ∀ other ∈ connections, ∃ source, ConnectionString.read source = .ok other)
    : (settings.withConnections connections).cluster.srvHost = none
      ↔ settings.cluster.srvHost = none ∧ ∀ other ∈ connections, other.srv = false := by
  induction connections using List.reverseRecOn with
  | nil => simp [withConnections]
  | append_singleton front connection ih =>
      have hfront := ih fun other hother => h other (List.mem_append_left [connection] hother)
      obtain ⟨source, hread⟩ := h connection (by simp)
      rw [withConnections_append_singleton]
      cases hsrv : connection.srv with
      | true =>
          have htargets :=
            targets_withConnection_of_srv (settings.withConnections front) hread hsrv
          rw [ClusterSettings.Targets, if_pos hsrv] at htargets
          obtain ⟨address, -, hname, -⟩ := htargets
          simp [hname, hsrv]
      | false =>
          rw [(deployment_withConnection_of_not_srv _ hsrv).1, hfront]
          simp only [List.forall_mem_append, List.forall_mem_singleton, hsrv, and_true]

/-- Validation leaves what tells where the servers are as it is. -/
theorem deployment_of_build {draft built : Settings} (h : draft.build = .ok built)
    : built.cluster.srvHost = draft.cluster.srvHost
      ∧ built.cluster.hosts = draft.cluster.hosts := by
  obtain ⟨-, rfl⟩ := build_eq_ok_iff.1 h
  rw [ClusterSettings.promoted_eq]
  exact ⟨rfl, rfl⟩

/-- A connection string decides where the client connects exactly if it has an SRV name itself or
if there is none from before, be it in the settings or from an earlier connection string. Else the
hosts that it lists are taken over for nothing: in all settings that come of it the old name stays,
and the servers behind that name are the ones that are looked up. -/
theorem targets_withConnection_iff (settings : Settings)
    (h : ConnectionString.read text = .ok connection)
    : ((settings.withConnection connection).cluster.Targets connection
        ↔ connection.srv = true ∨ settings.cluster.srvHost = none)
      ∧ (∀ earlier : List ConnectionString,
          (∀ other ∈ earlier, ∃ source, ConnectionString.read source = .ok other)
          → (((settings.withConnections earlier).withConnection connection).cluster.Targets
                connection
            ↔ connection.srv = true
              ∨ settings.cluster.srvHost = none ∧ ∀ other ∈ earlier, other.srv = false))
      ∧ ∀ name built,
          connection.srv = false
          → settings.cluster.srvHost = some name
          → (settings.withConnection connection).build = .ok built
          → built.cluster.srvHost = some name ∧ built.cluster.hosts = connection.hosts := by
  refine ⟨targets_withConnection_iff_srvHost settings h, ?earlier, ?built⟩
  case earlier =>
    intro earlier hearlier
    rw [targets_withConnection_iff_srvHost _ h, srvHost_withConnections_eq_none_iff _ hearlier]
  case built =>
    intro name built hsrv hbefore hbuild
    obtain ⟨hname, hhosts⟩ := deployment_withConnection_of_not_srv settings hsrv
    obtain ⟨hsame, hlisted⟩ := deployment_of_build hbuild
    exact ⟨hsame.trans (hname.trans hbefore), hlisted.trans hhosts⟩

/-- The connection string of an SRV name. -/
def behindName : ConnectionString :=
  {
    raw := "mongodb+srv://cluster0.example.com",
    srv := true,
    hosts := [⟨"cluster0.example.com", 27017⟩],
    database := none,
    credential := none,
    options := {}
  }

/-- The connection string of hosts. -/
def listing (raw : String) (hosts : List Address) : ConnectionString :=
  {
    raw,
    srv := false,
    hosts,
    database := none,
    credential := none,
    options := {}
  }

theorem targets_withConnection_iff_listedTwice
    : ((Settings.defaults.withConnections
          [listing "mongodb://db0" [⟨"db0", 27017⟩]]).withConnection
        (listing "mongodb://db1,db2" [⟨"db1", 27017⟩, ⟨"db2", 27017⟩])).cluster.Targets
      (listing "mongodb://db1,db2" [⟨"db1", 27017⟩, ⟨"db2", 27017⟩]) := by
  have hread
      : ConnectionString.read "mongodb://db1,db2"
        = .ok (listing "mongodb://db1,db2" [⟨"db1", 27017⟩, ⟨"db2", 27017⟩]) := by
    decide +kernel
  have hearlier
      : ConnectionString.read "mongodb://db0"
        = .ok (listing "mongodb://db0" [⟨"db0", 27017⟩]) := by
    decide +kernel
  refine ((targets_withConnection_iff Settings.defaults hread).2.1 _ ?_).2 (Or.inr ⟨rfl, ?_⟩)
  · intro other hother
    obtain rfl := List.mem_singleton.1 hother
    exact ⟨_, hearlier⟩
  · intro other hother
    obtain rfl := List.mem_singleton.1 hother
    rfl

/-- Hosts that come after an SRV name are not connected to: with two of them the client still looks
the name up, and a single one is refused on account of the name. -/
theorem not_targets_listedAfterName
    : ConnectionString.read "mongodb+srv://cluster0.example.com" = .ok behindName
      ∧ ConnectionString.read "mongodb://db0,db1"
        = .ok (listing "mongodb://db0,db1" [⟨"db0", 27017⟩, ⟨"db1", 27017⟩])
      ∧ ConnectionString.read "mongodb://db0"
        = .ok (listing "mongodb://db0" [⟨"db0", 27017⟩])
      ∧ ¬((Settings.defaults.withConnection behindName).withConnection
            (listing "mongodb://db0,db1" [⟨"db0", 27017⟩, ⟨"db1", 27017⟩])).cluster.Targets
          (listing "mongodb://db0,db1" [⟨"db0", 27017⟩, ⟨"db1", 27017⟩])
      ∧ ((Settings.defaults.withConnection behindName).withConnection
            (listing "mongodb://db0,db1" [⟨"db0", 27017⟩, ⟨"db1", 27017⟩])).build.map
          (·.cluster.srvHost)
        = .ok (some "cluster0.example.com")
      ∧ ((Settings.defaults.withConnection behindName).withConnection
            (listing "mongodb://db0" [⟨"db0", 27017⟩])).build
        = .error .srvHostInSingleMode := by
  refine ⟨by decide +kernel, by decide +kernel, by decide +kernel, ?_, rfl, rfl⟩
  rintro ⟨hname, -⟩
  cases hname

end Settings

end MongoConfig
