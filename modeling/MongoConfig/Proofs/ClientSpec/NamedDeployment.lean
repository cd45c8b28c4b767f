import MongoConfig.Proofs.Address.Reread
import MongoConfig.Proofs.ClientSpec.Precedence
import MongoConfig.Proofs.ConnectionString.Parts
import MongoConfig.Proofs.Settings.Deployment
/-! Whether the settings of a client name a deployment.
A connection string always lists a host, and its hosts have names unless one was blank in brackets.
What is laid over it is not looked at in this way: settings that were changed to have no hosts, or a
host without a name, keep that when they replace what the connection string says.
-/

namespace MongoConfig

-----------------------------------------------------------------------------------------
-- Hosts with names
-----------------------------------------------------------------------------------------

namespace Address

/-- There are addresses, and each of them has a host. -/
def AllNamed (addresses : List Address) : Prop :=
  addresses ≠ [] ∧ ∀ address ∈ addresses, address.host ≠ ""

/-- Nothing but blanks stands in the brackets that a text starts with. -/
def BlankInBrackets (text : List Char) : Prop :=
  ∃ host ∈ bracketed? (Text.trim text), Text.trim host = []

instance (addresses : List Address) : Decidable (AllNamed addresses) :=
  inferInstanceAs (Decidable (_ ∧ _))

instance (text : List Char) : Decidable (BlankInBrackets text) :=
  inferInstanceAs (Decidable (∃ host ∈ bracketed? (Text.trim text), Text.trim host = []))

/-- Only brackets can hide that there is no host. -/
theorem blankInBrackets_of_read {text : String} {address : Address} (h : read text = .ok address)
    (hempty : address.host = "")
    : BlankInBrackets text.toList := by
  obtain ⟨host, port, hsplit, hne, hhost⟩ := exists_split_of_readTrimmed (read_eq_ok_iff.1 h)
  have hblank : Text.trim host = [] := (host_signs hhost).1.1 hempty
  rcases split_cases hsplit hne with ⟨hbracketed, -⟩ | ⟨-, -, -, hhead⟩
  · exact ⟨host, hbracketed, hblank⟩
  · have htrim := head?_trim_of_head? hhead
    rw [hblank] at htrim
    exact absurd (List.head?_eq_none_iff.1 htrim.symm) hne

/-- A host that is there is not blank, for it has no blanks around it. -/
theorem Settled.isAllBlank_host {address : Address} (hsettled : address.Settled)
    (hhost : address.host ≠ "")
    : Text.isAllBlank address.host = false := by
  rw [Text.isAllBlank, hsettled.trimmed]
  exact List.isEmpty_eq_false_iff.2 (mt String.toList_eq_nil_iff.1 hhost)

end Address

-----------------------------------------------------------------------------------------
-- Connection strings
-----------------------------------------------------------------------------------------

namespace ConnectionString

/-- One of the entries in the list of hosts is blank in brackets. -/
def ListsBlankHost (connection : ConnectionString) : Prop :=
  ∃ parts ∈ split? connection.raw.toList,
    ∃ entry ∈ Text.pieces ',' parts.hosts, Address.BlankInBrackets entry

instance (connection : ConnectionString) : Decidable connection.ListsBlankHost :=
  inferInstanceAs
    (Decidable
      (∃ parts ∈ split? connection.raw.toList,
        ∃ entry ∈ Text.pieces ',' parts.hosts, Address.BlankInBrackets entry))

variable {text : String} {connection : ConnectionString}

/-- All other connection strings list hosts with names. -/
theorem allNamed_of_read (h : read text = .ok connection) (hlisted : ¬connection.ListsBlankHost)
    : Address.AllNamed connection.hosts := by
  obtain ⟨parts, hparts, hread⟩ := read_eq_ok_iff.1 h
  obtain ⟨hosts, query, credential, hhosts, -, -, rfl⟩ := readParts_eq_ok_iff.1 hread
  obtain ⟨hlist, hne, -⟩ := readHosts_eq_ok_iff.1 hhosts
  refine ⟨hne, ?_⟩
  intro address haddress hempty
  obtain ⟨entry, hentry, hreadEntry⟩ := exists_of_mapM_eq_ok hlist haddress
  obtain ⟨trimmed, htrimmed, rfl⟩ := List.mem_map.1 hentry
  obtain ⟨piece, hpiece, rfl⟩ := List.mem_map.1 (List.mem_filter.1 htrimmed).1
  have hblank := Address.blankInBrackets_of_read hreadEntry hempty
  rw [String.toList_ofList, Address.BlankInBrackets, Text.trim_trim] at hblank
  rw [String.toList_ofList] at hpiece
  refine hlisted ⟨parts, ?_, piece, hpiece, hblank⟩
  rwa [String.toList_ofList]

/-- Hosts of a connection string are kept as reading leaves them. -/
theorem settled_of_mem_hosts (h : read text = .ok connection) {address : Address}
    (haddress : address ∈ connection.hosts)
    : address.Settled := by
  obtain ⟨parts, -, hread⟩ := read_eq_ok_iff.1 h
  obtain ⟨hosts, query, credential, hhosts, -, -, rfl⟩ := readParts_eq_ok_iff.1 hread
  obtain ⟨entry, -, hentry⟩ := exists_of_mapM_eq_ok (readHosts_eq_ok_iff.1 hhosts).1 haddress
  exact Address.settled_of_read hentry

end ConnectionString

-----------------------------------------------------------------------------------------
-- Clusters
-----------------------------------------------------------------------------------------

namespace ClusterSettings

/-- A cluster says where its servers are: behind an SRV name that is not blank, or at hosts with
names. -/
def NamesDeployment (cluster : ClusterSettings) : Prop :=
  (∃ name ∈ cluster.srvHost, Text.isAllBlank name = false) ∨ Address.AllNamed cluster.hosts

instance (cluster : ClusterSettings) : Decidable cluster.NamesDeployment :=
  inferInstanceAs
    (Decidable
      ((∃ name ∈ cluster.srvHost, Text.isAllBlank name = false)
        ∨ Address.AllNamed cluster.hosts))

/-- Both the SRV name, if there is one, and the hosts of a cluster could be looked for. -/
structure IsNamed (cluster : ClusterSettings) : Prop where
  srvHost : ∀ name ∈ cluster.srvHost, Text.isAllBlank name = false
  hosts : Address.AllNamed cluster.hosts

theorem allNamed_defaults : Address.AllNamed Settings.defaults.cluster.hosts := by
  refine ⟨List.cons_ne_nil _ _, ?_⟩
  intro address haddress
  obtain rfl := List.mem_singleton.1 haddress
  decide +kernel

/-- Hosts that were changed replace those below, and those of the defaults have names. -/
theorem allNamed_changedOr_iff {lower upper : List Address} (h : Address.AllNamed lower)
    : Address.AllNamed (changedOr upper Settings.defaults.cluster.hosts lower)
      ↔ Address.AllNamed upper := by
  by_cases hchanged : upper = Settings.defaults.cluster.hosts
  · subst hchanged
    rw [changedOr_default]
    exact iff_of_true h allNamed_defaults
  · have hupper : changedOr upper Settings.defaults.cluster.hosts lower = upper :=
      if_pos (bne_iff_ne.2 hchanged)
    rw [hupper]

/-- An SRV name can be replaced but not taken away. -/
theorem srvHost_overlay (lower upper : ClusterSettings)
    : (lower.overlay upper Settings.defaults.cluster).srvHost
      = upper.srvHost.or lower.srvHost := by
  change changedOr upper.srvHost none lower.srvHost = _
  cases upper.srvHost with
  | none => exact changedOr_default none _
  | some name => rfl

/-- A cluster that is laid over a named one decides whether both together name a deployment, unless
it has no SRV name and leaves the one below in place. -/
theorem namesDeployment_overlay_iff {lower : ClusterSettings} (h : lower.IsNamed)
    (upper : ClusterSettings)
    : (lower.overlay upper Settings.defaults.cluster).NamesDeployment
      ↔ upper.NamesDeployment ∨ upper.srvHost = none ∧ lower.srvHost ≠ none := by
  have hhosts
      : Address.AllNamed (lower.overlay upper Settings.defaults.cluster).hosts
        ↔ Address.AllNamed upper.hosts :=
    allNamed_changedOr_iff h.hosts
  rw [NamesDeployment, srvHost_overlay, hhosts, NamesDeployment]
  cases upper.srvHost with
  | some name => simp
  | none =>
      cases hlower : lower.srvHost with
      | none => simp
      | some name => simp [h.srvHost name hlower]

theorem IsNamed.namesDeployment {cluster : ClusterSettings} (h : cluster.IsNamed)
    : cluster.NamesDeployment :=
  Or.inr h.hosts

end ClusterSettings

variable {text : String} {connection : ConnectionString}

/-- Over the defaults a connection string has an SRV name exactly if its scheme asks for one. -/
theorem Settings.srvHost_withConnection_defaults_ne_none_iff
    (h : ConnectionString.read text = .ok connection)
    : (Settings.defaults.withConnection connection).cluster.srvHost ≠ none
      ↔ connection.srv = true := by
  cases hsrv : connection.srv with
  | false =>
      have hkept := (deployment_withConnection_of_not_srv .defaults hsrv).1
      rw [hkept]
      exact iff_of_false (not_not_intro rfl) Bool.false_ne_true
  | true =>
      have htargets := targets_withConnection_of_srv .defaults h hsrv
      rw [ClusterSettings.Targets, if_pos hsrv] at htargets
      obtain ⟨address, -, hname, -⟩ := htargets
      simp [hname]

/-- Over the defaults a connection string makes a named cluster if its hosts have names. -/
theorem Settings.isNamed_withConnection_defaults
    (h : ConnectionString.read text = .ok connection) (hlisted : ¬connection.ListsBlankHost)
    : (Settings.defaults.withConnection connection).cluster.IsNamed := by
  have hnamed := ConnectionString.allNamed_of_read h hlisted
  cases hsrv : connection.srv with
  | false =>
      obtain ⟨hkept, hhosts⟩ := deployment_withConnection_of_not_srv .defaults hsrv
      refine ⟨?_, hhosts ▸ hnamed⟩
      rw [hkept]
      rintro name ⟨⟩
  | true =>
      have htargets := targets_withConnection_of_srv .defaults h hsrv
      rw [ClusterSettings.Targets, if_pos hsrv] at htargets
      obtain ⟨address, hhosts, hname, -⟩ := htargets
      have haddress : address ∈ connection.hosts := by simp [hhosts]
      have hsettled := ConnectionString.settled_of_mem_hosts h haddress
      have hlisted
          : (Settings.defaults.withConnection connection).cluster.hosts
            = Settings.defaults.cluster.hosts := by
        have hgiven := get_withConnection .hosts .defaults connection
        rw [Field.given?, if_pos hsrv] at hgiven
        exact hgiven
      refine ⟨?_, hlisted ▸ ClusterSettings.allNamed_defaults⟩
      rw [hname]
      rintro name ⟨⟩
      exact hsettled.isAllBlank_host (hnamed.2 address haddress)

-----------------------------------------------------------------------------------------
-- Clients
-----------------------------------------------------------------------------------------

namespace ClientSpec

variable {spec : ClientSpec} {base : ConnectionString} {made : Settings}

/-- A credential and a replica set name say nothing about where the servers are. -/
theorem namesDeployment_layered_iff (spec : ClientSpec) (base : ConnectionString)
    : (spec.layered base).cluster.NamesDeployment
      ↔ (spec.overlaid base).cluster.NamesDeployment :=
  Iff.rfl

theorem namesDeployment_build_iff {draft built : Settings} (h : draft.build = .ok built)
    : built.cluster.NamesDeployment ↔ draft.cluster.NamesDeployment := by
  obtain ⟨hname, hhosts⟩ := Settings.deployment_of_build h
  rw [ClusterSettings.NamesDeployment, ClusterSettings.NamesDeployment, hname, hhosts]

/-- Over a connection string whose hosts have names, only settings can keep a deployment from being
named. -/
theorem namesDeployment_overlaid_iff (h : ConnectionString.read text = .ok base)
    (hlisted : ¬base.ListsBlankHost)
    : (spec.overlaid base).cluster.NamesDeployment
      ↔ ∀ settings ∈ spec.settings,
          settings.cluster.NamesDeployment
          ∨ settings.cluster.srvHost = none ∧ base.srv = true := by
  have hnamed := Settings.isNamed_withConnection_defaults h hlisted
  rw [overlaid]
  cases spec.settings with
  | none => simpa using hnamed.namesDeployment
  | some upper =>
      have hoverlay := ClusterSettings.namesDeployment_overlay_iff hnamed upper.cluster
      rw [Settings.srvHost_withConnection_defaults_ne_none_iff h] at hoverlay
      simp only [Option.mem_some_iff, forall_eq']
      exact hoverlay

/-- The connection string that a client is based on was read from a text: the one that it was given,
or the one that was made of its host and its port. -/
theorem exists_read_baseConnection
    (hparsed
      : ∀ connection ∈ spec.connection, ∃ text, ConnectionString.read text = .ok connection)
    (h : spec.baseConnection = .ok base)
    : ∃ text, ConnectionString.read text = .ok base := by
  rcases spec.baseConnection_cases with ⟨-, hbase⟩ | ⟨cause, -, -, hbase⟩ | ⟨other, hpoints, hbase⟩
  · rw [hbase] at h
    cases h
  · rw [hbase] at h
    cases h
  · rw [hbase] at h
    obtain rfl := Except.ok.inj h
    rcases hpoints with ⟨hconnection, -⟩ | ⟨-, hread⟩
    · exact hparsed other hconnection
    · rw [hostAndPort, ConnectionString.ofHostAndPort] at hread
      exact ⟨_, hread⟩

/-- Settings that a client comes to are based on a connection string. If that lists no host that is
blank in brackets, they name a deployment exactly if the specified settings do so themselves or
leave it to the SRV name of the connection string; without specified settings they always do. -/
theorem namesDeployment_of_resolve
    (hparsed
      : ∀ connection ∈ spec.connection, ∃ text, ConnectionString.read text = .ok connection)
    (h : spec.resolve = .ok made)
    : ∃ base,
        spec.baseConnection = .ok base
        ∧ (¬base.ListsBlankHost
          → (made.cluster.NamesDeployment
            ↔ ∀ settings ∈ spec.settings,
                settings.cluster.NamesDeployment
                ∨ settings.cluster.srvHost = none ∧ base.srv = true)) := by
  cases hbase : spec.baseConnection with
  | error error =>
      rw [resolve_of_error hbase] at h
      cases h
  | ok base =>
      obtain ⟨text, hread⟩ := exists_read_baseConnection hparsed hbase
      rw [resolve_of_ok hbase, mapError_eq_ok_iff] at h
      refine ⟨base, rfl, fun hlisted => ?_⟩
      rw [namesDeployment_build_iff h, namesDeployment_layered_iff,
        namesDeployment_overlaid_iff hread hlisted]

/-- Settings without hosts over a connection string with an SRV name. -/
def hostsBehindName : ClientSpec :=
  {
    connection := some Settings.behindName,
    settings := some { cluster := { hosts := [] } }
  }

theorem namesDeployment_of_resolve_hostsBehindName
    : ∃ made,
        hostsBehindName.resolve = .ok made
        ∧ made.cluster.hosts = []
        ∧ made.cluster.NamesDeployment := by
  have hread
      : ConnectionString.read "mongodb+srv://cluster0.example.com" = .ok Settings.behindName := by
    decide +kernel
  refine ⟨_, rfl, rfl, ?_⟩
  have hparsed
      : ∀ connection ∈ hostsBehindName.connection,
          ∃ text, ConnectionString.read text = .ok connection := by
    rintro connection ⟨⟩
    exact ⟨_, hread⟩
  obtain ⟨base, hbase, hiff⟩ := namesDeployment_of_resolve hparsed rfl
  obtain rfl : Settings.behindName = base := Except.ok.inj hbase
  refine (hiff (by decide +kernel)).2 ?_
  rintro settings ⟨⟩
  exact Or.inr ⟨rfl, rfl⟩

/-- Nothing but settings without hosts. -/
def withoutHosts : ClientSpec :=
  { settings := some { cluster := { hosts := [] } } }

/-- Nothing but settings with a host that has no name. -/
def withNamelessHost : ClientSpec :=
  { settings := some { cluster := { hosts := [Address.ofHost " " 27017] } } }

/-- Both pass validation as they are, and replace the host that a client has by default. -/
theorem not_namesDeployment_withoutHosts
    : (∀ settings ∈ withoutHosts.settings, settings.build = .ok settings)
      ∧ withoutHosts.resolve.map (·.cluster.srvHost) = .ok none
      ∧ withoutHosts.resolve.map (·.cluster.hosts) = .ok []
      ∧ (∀ made, withoutHosts.resolve = .ok made → ¬made.cluster.NamesDeployment)
      ∧ (∀ settings ∈ withNamelessHost.settings, settings.build = .ok settings)
      ∧ withNamelessHost.resolve.map (·.cluster.hosts) = .ok [⟨"", 27017⟩]
      ∧ (∀ made, withNamelessHost.resolve = .ok made → ¬made.cluster.NamesDeployment) := by
  refine ⟨?_, rfl, rfl, ?_, ?_, by decide +kernel, ?_⟩
  · rintro settings ⟨⟩
    rfl
  · intro made hmade
    obtain rfl := Except.ok.inj hmade
    decide +kernel
  · rintro settings ⟨⟩
    rfl
  · intro made hmade
    obtain rfl := Except.ok.inj hmade
    decide +kernel

end ClientSpec

end MongoConfig
