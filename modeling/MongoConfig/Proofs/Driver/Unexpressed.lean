import MongoConfig.Driver.Options
import MongoConfig.Proofs.Address.HostText
import MongoConfig.Proofs.Driver.HostList
import MongoConfig.Proofs.Settings.Comparison
/-! Whether the options of a driver say all that settings say.
Two settings with the same options can differ only where a driver has no option. Each such value has
a name, under which it is listed when it was changed; only the context of transport security can be
left out silently.
-/

namespace MongoConfig

/-- Settings that list plain hosts, and do not look any up. -/
structure Settings.ListsPlainHosts (settings : Settings) : Prop where
  srvHost : settings.cluster.srvHost = none
  notEmpty : settings.cluster.hosts ≠ []
  plain : ∀ address ∈ settings.cluster.hosts, address.Plain

namespace Driver

/-- What options say about settings that list plain hosts. -/
structure Expresses (options : Options) (settings : Settings) : Prop where
  hosts : options.hosts = settings.cluster.hosts.map Host.ofAddress
  applicationName : options.applicationName = settings.applicationName
  credential : Credential.ofCredential? settings.credential = .ok options.credential
  readPreference : options.readPreference = settings.readPreference
  readConcern : options.readConcern = Options.readLevel? settings.readConcern
  writeConcern : options.writeConcern = settings.writeConcern
  retryReads : options.retryReads = settings.retryReads
  retryWrites : options.retryWrites = settings.retryWrites
  replicaSet : options.replicaSet = settings.cluster.requiredReplicaSet
  directConnection
    : options.directConnection = if settings.cluster.mode = .single then some true else none
  localThreshold : options.localThreshold = settings.cluster.localThreshold
  serverSelectionTimeout
    : options.serverSelectionTimeout = settings.cluster.serverSelectionTimeout
  connectTimeout : options.connectTimeout = settings.socket.connectTimeout.nonZero?
  heartbeatFrequency : options.heartbeatFrequency = settings.server.heartbeatFrequency
  maxPoolSize : options.maxPoolSize = settings.pool.maxSize
  minPoolSize : options.minPoolSize = settings.pool.minSize
  maxIdleTime : options.maxIdleTime = settings.pool.maxConnectionIdleTime.nonZero?
  tlsEnabled : options.tlsEnabled = settings.tls.enabled

/-- Options that are made from settings express them. -/
theorem expresses_of_ofSettingsBy {read : String → Except Fault HostList}
    (hread : ReadsListedHosts read) {settings : Settings} (hsettings : settings.ListsPlainHosts)
    {options : Options} (h : Options.ofSettingsBy read settings = .ok options)
    : Expresses options settings := by
  obtain ⟨found, hfound, h⟩ := bind_eq_ok_iff.1 h
  obtain ⟨credential, hcredential, h⟩ := bind_eq_ok_iff.1 h
  obtain rfl := Except.ok.inj h
  obtain ⟨hhosts, hdirect⟩ :=
    hread _ _ hsettings.notEmpty hsettings.plain (mapError_eq_ok_iff.1 hfound)
  constructor
  case hosts => exact hhosts
  case credential => exact hcredential
  case directConnection =>
    simp [hsettings.srvHost, hdirect]
  all_goals rfl

-----------------------------------------------------------------------------------------
-- Values that can be told from the options
-----------------------------------------------------------------------------------------

theorem Host.ofAddress_injective : Function.Injective Host.ofAddress := by
  rintro ⟨host, port⟩ ⟨otherHost, otherPort⟩ h
  cases h
  rfl

theorem Options.readLevel?_injective : Function.Injective Options.readLevel? := by
  intro concern other h
  simp only [readLevel?] at h
  split at h <;> split at h <;> simp_all

/-- Only the zero duration is left out. -/
theorem nonZero?_injective : Function.Injective Duration.nonZero? := by
  rintro ⟨nanoseconds⟩ ⟨others⟩ h
  simp only [Duration.nonZero?, Duration.isZero, beq_iff_eq] at h
  split at h
  · rename_i hzero
    split at h
    · rename_i hother
      rw [hzero, hother]
    · cases h
  · split at h
    · cases h
    · exact Option.some.inj h

/-- Only the empty dictionary is left out. -/
theorem Credential.properties_injective {properties others : Dictionary String}
    (h : (if properties.isEmpty then none else some properties)
      = if others.isEmpty then none else some others)
    : properties = others := by
  split at h
  · rename_i hempty
    split at h
    · rename_i hother
      obtain ⟨entries, _⟩ := properties
      obtain ⟨otherEntries, _⟩ := others
      obtain rfl : entries = [] := List.isEmpty_iff.1 hempty
      obtain rfl : otherEntries = [] := List.isEmpty_iff.1 hother
      rfl
    · cases h
  · split at h
    · cases h
    · exact Option.some.inj h

/-- A driver takes every credential, with its own names for the mechanisms. -/
theorem Credential.ofCredential_eq (credential : MongoConfig.Credential)
    : ofCredential credential
      = .ok
          {
            mechanism := credential.mechanism.map .current,
            user := credential.user,
            source := some credential.source,
            password := credential.password,
            properties :=
              if credential.properties.isEmpty then none else some credential.properties
          } := by
  rw [ofCredential]
  cases credential.mechanism with
  | none => rfl
  | some mechanism =>
      rw [mechanismOf?, mechanismOf_eq_ok]
      rfl

theorem Credential.ofCredential_injective : Function.Injective ofCredential := by
  intro credential other h
  rw [ofCredential_eq, ofCredential_eq, Except.ok.injEq, mk.injEq] at h
  obtain ⟨hmechanism, huser, hsource, hpassword, hproperties⟩ := h
  have hsame : Function.Injective (Option.map LoginMechanism.current) :=
    Option.map_injective fun _ _ h => LoginMechanism.current.inj h
  obtain ⟨mechanism, user, source, password, properties⟩ := credential
  obtain rfl := hsame hmechanism
  obtain rfl : user = other.user := huser
  obtain rfl : source = other.source := Option.some.inj hsource
  obtain rfl : password = other.password := hpassword
  obtain rfl : properties = other.properties := properties_injective hproperties
  rfl

theorem Credential.eq_of_ofCredential? {given other : Option MongoConfig.Credential}
    {credential : Option Credential} (hgiven : ofCredential? given = .ok credential)
    (hother : ofCredential? other = .ok credential)
    : given = other := by
  have hsame := hgiven.trans hother.symm
  cases given with
  | none =>
      cases other with
      | none => rfl
      | some other =>
          rw [ofCredential?, ofCredential?, ofCredential_eq] at hsame
          cases hsame
  | some given =>
      cases other with
      | none =>
          rw [ofCredential?, ofCredential?, ofCredential_eq] at hsame
          cases hsame
      | some other =>
          refine congrArg some (ofCredential_injective ?_)
          rw [ofCredential?, ofCredential?, ofCredential_eq, ofCredential_eq] at hsame
          rw [ofCredential_eq, ofCredential_eq]
          exact congrArg Except.ok (Option.some.inj (Except.ok.inj hsame))

/-- The name under which a change of a field is listed, if a driver has no option for it. The
context of transport security is not listed as such. -/
def unexpressedName? : Settings.Field → Option String
  | .readTimeout => some "Socket read timeout"
  | .receiveBufferSize | .sendBufferSize => some "Socket buffer size"
  | .minHeartbeatFrequency => some "Min heartbeat frequency"
  | .requiredType => some "Required cluster type"
  | .serverWaitQueueSize => some "Cluster wait queue size"
  | .poolWaitQueueSize => some "Pool wait queue size"
  | .maxWaitTime => some "Pool max wait time"
  | .maxConnectionLifetime => some "Pool max connection lifetime"
  | .maintenanceInitialDelay | .maintenanceFrequency => some "Pool maintenance schedule"
  | .invalidHostnameAllowed => some "Allowing invalid hostnames"
  | .codecRegistry => some "Custom codec registry"
  | .streamFactory => some "Stream factory"
  | .autoEncryption => some "Auto encryption"
  | _ => none

/-- Settings with the same options have the same value in every field that has an option. -/
theorem Expresses.get_eq {options : Options} {settings other : Settings}
    (h : Expresses options settings) (hother : Expresses options other)
    (hsrv : settings.cluster.srvHost = other.cluster.srvHost) {field : Settings.Field}
    (hname : unexpressedName? field = none) (hcontext : field ≠ .securityContext)
    : field.get settings = field.get other := by
  cases field with
  | applicationName => exact h.applicationName.symm.trans hother.applicationName
  | credential => exact Credential.eq_of_ofCredential? h.credential hother.credential
  | readConcern =>
      exact Options.readLevel?_injective (h.readConcern.symm.trans hother.readConcern)
  | readPreference => exact h.readPreference.symm.trans hother.readPreference
  | retryReads => exact h.retryReads.symm.trans hother.retryReads
  | retryWrites => exact h.retryWrites.symm.trans hother.retryWrites
  | writeConcern => exact h.writeConcern.symm.trans hother.writeConcern
  | srvHost => exact hsrv
  | hosts =>
      exact Host.ofAddress_injective.list_map (h.hosts.symm.trans hother.hosts)
  | mode =>
      have hmode := h.directConnection.symm.trans hother.directConnection
      change settings.cluster.mode = other.cluster.mode
      cases hcase : settings.cluster.mode <;> cases hotherCase : other.cluster.mode
        <;> simp [hcase, hotherCase] at hmode
      all_goals rfl
  | requiredReplicaSet => exact h.replicaSet.symm.trans hother.replicaSet
  | localThreshold => exact h.localThreshold.symm.trans hother.localThreshold
  | serverSelectionTimeout =>
      exact h.serverSelectionTimeout.symm.trans hother.serverSelectionTimeout
  | maxPoolSize => exact h.maxPoolSize.symm.trans hother.maxPoolSize
  | minPoolSize => exact h.minPoolSize.symm.trans hother.minPoolSize
  | maxConnectionIdleTime => exact nonZero?_injective (h.maxIdleTime.symm.trans hother.maxIdleTime)
  | heartbeatFrequency => exact h.heartbeatFrequency.symm.trans hother.heartbeatFrequency
  | connectTimeout =>
      exact nonZero?_injective (h.connectTimeout.symm.trans hother.connectTimeout)
  | tlsEnabled => exact h.tlsEnabled.symm.trans hother.tlsEnabled
  | securityContext => exact absurd rfl hcontext
  | _ => cases hname

-----------------------------------------------------------------------------------------
-- Values without an option
-----------------------------------------------------------------------------------------

/-- A change is listed under the name that stands beside it, wherever in the list that is. -/
theorem mem_unexpressed_of_listed {settings : Settings} {field : Settings.Field} {name : String}
    (hname : unexpressedName? field = some name) {changed : Bool}
    (hentry
      : ((unexpressedChanges settings .defaults).find? fun entry =>
            some entry.2 = unexpressedName? field)
        = (unexpressedName? field).map (changed, ·))
    (h : changed = true)
    : name ∈ unexpressed settings := by
  rw [hname] at hentry
  have hmem : (changed, name) ∈ unexpressedChanges settings .defaults :=
    List.mem_of_find?_eq_some hentry
  exact List.mem_map.2 ⟨(changed, name), List.mem_filter.2 ⟨hmem, h⟩, rfl⟩

/-- A value that was changed is listed under its name. -/
theorem mem_unexpressed {settings : Settings} {field : Settings.Field} {name : String}
    (hname : unexpressedName? field = some name)
    (h : (field.get settings != field.get .defaults) = true)
    : name ∈ unexpressed settings := by
  cases field with
  | readTimeout | minHeartbeatFrequency | requiredType | serverWaitQueueSize | poolWaitQueueSize
  | maxWaitTime | maxConnectionLifetime | codecRegistry =>
      exact mem_unexpressed_of_listed hname rfl h
  | receiveBufferSize | maintenanceInitialDelay =>
      exact mem_unexpressed_of_listed hname rfl (Bool.or_eq_true_iff.2 (Or.inl h))
  | sendBufferSize | maintenanceFrequency =>
      exact mem_unexpressed_of_listed hname rfl (Bool.or_eq_true_iff.2 (Or.inr h))
  | invalidHostnameAllowed =>
      change (settings.tls.invalidHostnameAllowed != false) = true at h
      exact mem_unexpressed_of_listed hname rfl (by simpa using h)
  | streamFactory =>
      change (settings.streamFactory != none) = true at h
      refine mem_unexpressed_of_listed hname rfl ?_
      cases hfactory : settings.streamFactory with
      | none => simp [hfactory] at h
      | some factory => rfl
  | autoEncryption =>
      change (settings.autoEncryption != none) = true at h
      refine mem_unexpressed_of_listed hname rfl ?_
      cases hencryption : settings.autoEncryption with
      | none =>
          rw [hencryption] at h
          cases h
      | some encryption => rfl
  | _ => cases hname

-----------------------------------------------------------------------------------------
-- Nothing is left out silently
-----------------------------------------------------------------------------------------

/-- Of two values that differ, one differs from the default. -/
theorem bne_or_bne {α : Type} [BEq α] {value other : α} (default : α)
    (hsame
      : (value == default) = true → (other == default) = true → (value == other) = true)
    (h : (value != other) = true)
    : (value != default) = true ∨ (other != default) = true := by
  cases hvalue : value == default with
  | false => exact Or.inl (by simp [bne, hvalue])
  | true =>
      cases hother : other == default with
      | false => exact Or.inr (by simp [bne, hother])
      | true => simp [bne, hsame hvalue hother] at h

theorem bne_or_bne_of_lawful {α : Type} [BEq α] [LawfulBEq α] {value other : α} (default : α)
    (h : (value != other) = true)
    : (value != default) = true ∨ (other != default) = true := by
  refine bne_or_bne default (fun hvalue hother => ?_) h
  rw [eq_of_beq hvalue, eq_of_beq hother, beq_self_eq_true]

/-- Two settings with different values do not both have the default. -/
theorem changed_or_changed {settings other : Settings} {field : Settings.Field} {name : String}
    (hname : unexpressedName? field = some name)
    (h : (field.get settings != field.get other) = true)
    : (field.get settings != field.get .defaults) = true
      ∨ (field.get other != field.get .defaults) = true := by
  cases field with
  | readTimeout | minHeartbeatFrequency | maxWaitTime | maxConnectionLifetime
  | maintenanceInitialDelay | maintenanceFrequency =>
      exact bne_or_bne_of_lawful (α := Duration) _ h
  | receiveBufferSize | sendBufferSize | serverWaitQueueSize | poolWaitQueueSize =>
      exact bne_or_bne_of_lawful (α := UInt32) _ h
  | requiredType => exact bne_or_bne_of_lawful (α := ClusterType) _ h
  | invalidHostnameAllowed => exact bne_or_bne_of_lawful (α := Bool) _ h
  | streamFactory => exact bne_or_bne_of_lawful (α := Option StreamFactory) _ h
  | codecRegistry =>
      -- registries are compared by names, which are compared by equality
      refine bne_or_bne (α := CodecRegistry) _ (fun hsettings hother => ?_) h
      have hnames : settings.codecRegistry.names = Settings.defaults.codecRegistry.names :=
        eq_of_beq hsettings
      have hotherNames : other.codecRegistry.names = Settings.defaults.codecRegistry.names :=
        eq_of_beq hother
      change (settings.codecRegistry.names == other.codecRegistry.names) = true
      rw [hnames, hotherNames, beq_self_eq_true]
  | autoEncryption =>
      refine bne_or_bne (α := Option AutoEncryption) _ (fun hsettings hother => ?_) h
      change (settings.autoEncryption == none) = true at hsettings
      change (other.autoEncryption == none) = true at hother
      change (settings.autoEncryption == other.autoEncryption) = true
      rw [Option.beq_none, Option.isNone_iff_eq_none] at hsettings hother
      rw [hsettings, hother]
      rfl
  | _ => cases hname

/-- Two settings that list plain hosts and have the same options differ, up to the context of
transport security, in fields only whose names are listed for one of them. The reader of the host
list may be any that reads back the hosts that are listed. -/
theorem differences_listed {read : String → Except Fault HostList}
    (hread : ReadsListedHosts read) {settings other : Settings}
    (hsettings : settings.ListsPlainHosts) (hother : other.ListsPlainHosts) {options : Options}
    (h : Options.ofSettingsBy read settings = .ok options)
    (hotherOptions : Options.ofSettingsBy read other = .ok options) (field : Settings.Field)
    (hcontext : field ≠ .securityContext)
    (hdiffer : (field.get settings != field.get other) = true)
    : ∃ name,
        unexpressedName? field = some name
        ∧ (name ∈ unexpressed settings ∨ name ∈ unexpressed other) := by
  have hexpresses := expresses_of_ofSettingsBy hread hsettings h
  have hotherExpresses := expresses_of_ofSettingsBy hread hother hotherOptions
  cases hname : unexpressedName? field with
  | none =>
      have hsrv := hsettings.srvHost.trans hother.srvHost.symm
      have hsame := hexpresses.get_eq hotherExpresses hsrv hname hcontext
      rw [hsame, bne, beq_self_eq_true] at hdiffer
      cases hdiffer
  | some name =>
      refine ⟨name, rfl, ?_⟩
      exact (changed_or_changed hname hdiffer).imp (mem_unexpressed hname) (mem_unexpressed hname)

/-- Two hosts of one replica set. Connections are kept however long they are idle. -/
def replicas : Settings :=
  {
    credential := some (.withPassword none "jon" "admin" "warg"),
    cluster :=
      {
        hosts := [{ host := "db0", port := 27017 }, { host := "db1", port := 27018 }],
        mode := .multiple,
        requiredReplicaSet := some "rs0"
      },
    pool := { maxConnectionIdleTime := .zero }
  }

def impatientReplicas : Settings :=
  { replicas with socket := { readTimeout := .ofSeconds 5 0 } }

/-- How long a read may take makes no difference to the options, and is listed. -/
theorem differences_listed_readTimeout
    : ∃ options,
        Options.ofSettings replicas = .ok options
        ∧ Options.ofSettings impatientReplicas = .ok options
        ∧ ∃ name,
            unexpressedName? .readTimeout = some name
            ∧ (name ∈ unexpressed replicas ∨ name ∈ unexpressed impatientReplicas) := by
  have hplain : replicas.ListsPlainHosts := by
    refine ⟨rfl, by decide, ?_⟩
    intro address haddress
    rcases List.mem_pair.1 haddress with rfl | rfl
    all_goals
      refine ⟨by decide, by decide, by decide, ?_⟩
      simp only [Address.separators, List.forall_mem_cons, List.not_mem_nil, false_imp_iff,
        implies_true, and_true]
      decide
  have hotherPlain : impatientReplicas.ListsPlainHosts :=
    ⟨hplain.srvHost, hplain.notEmpty, hplain.plain⟩
  cases h : Options.ofSettings replicas with
  | error error =>
      have hsome : (Options.ofSettings replicas).toOption.isSome = true := by decide +kernel
      rw [h] at hsome
      cases hsome
  | ok options =>
      have hother : Options.ofSettings impatientReplicas = .ok options := h
      refine ⟨options, rfl, hother, ?_⟩
      exact
        differences_listed HostList.readsListedHosts_read hplain hotherPlain h hother .readTimeout
          (by decide) (by decide)

end Driver

end MongoConfig
