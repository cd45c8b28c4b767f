import MongoConfig.Proofs.Catalog.Offence
import MongoConfig.Proofs.Dictionary
/-! Which documents make a catalog, what it holds, and what is wrong with the others.
The settings are taken up before the clients. Both runs check one definition after another, and
after each the catalog holds the definitions so far and nothing else.
-/

namespace MongoConfig

namespace Catalog

/-- A specification carries what a definition says, with the settings that it refers to. -/
structure ClientDefinition.Describes (definition : ClientDefinition)
    (settings? : String → Option Settings) (spec : ClientSpec)
    : Prop where
  host : spec.host = definition.host
  port : spec.port = definition.port
  connection : spec.connection = definition.connection
  credentials
    : match definition.credential with
      | some text => Credential.readList text = .ok spec.credentials
      | none => spec.credentials = []
  replicaSet : spec.replicaSet = definition.replicaSet
  settings
    : match definition.settingsRef with
      | some reference => ∃ made, settings? reference = some made ∧ spec.settings = some made
      | none => spec.settings = none

/-- A catalog holds what the definitions of a document say, each under its id, and nothing else. -/
structure Holds (catalog : Catalog) (document : Document) : Prop where
  settings
    : ∀ id made,
        catalog.settings? id = some made
        ↔ ∃ definition ∈ document.settings, definition.id = id ∧ definition.Makes made
  settings_isSome : ∀ id, (catalog.settings? id).isSome ↔ id ∈ document.settingsIds
  client
    : ∀ id spec,
        catalog.client? id = some spec
        ↔ ∃ definition ∈ document.clients,
            definition.id = id ∧ definition.Describes catalog.settings? spec
  client_isSome : ∀ id, (catalog.client? id).isSome ↔ id ∈ document.clientIds
  clientIds_ascending : catalog.clientIds.Pairwise (· < ·)
  mem_clientIds : ∀ id, id ∈ catalog.clientIds ↔ id ∈ document.clientIds

-----------------------------------------------------------------------------------------
-- The run over the settings
-----------------------------------------------------------------------------------------

/-- A catalog of nothing but the settings that have been taken up. -/
structure SettingsTaken (before : List SettingsDefinition) (catalog : Catalog) : Prop where
  clients : catalog.clients = ∅
  settings : catalog.settings.Represents (·.id) SettingsDefinition.Makes before
  makes : ∀ definition ∈ before, ∃ made, definition.Makes made

theorem defines_iff {catalog : Catalog} {id : String}
    : catalog.defines id = true
      ↔ (catalog.settings.get? id).isSome ∨ (catalog.clients.get? id).isSome :=
  Bool.or_eq_true_iff

theorem SettingsTaken.defines_iff {before : List SettingsDefinition} {catalog : Catalog}
    (h : SettingsTaken before catalog) {id : String}
    : catalog.defines id = true ↔ id ∈ before.map (·.id) := by
  rw [Catalog.defines_iff, h.settings.isSome_iff h.makes, h.clients]
  exact or_iff_left nofun

/-- Settings are taken up under a new id, if they can be assembled. -/
theorem addSettings_eq (catalog : Catalog) (definition : SettingsDefinition)
    : catalog.addSettings definition
      = if catalog.defines definition.id then
          .error (.duplicateId definition.id)
        else
          match definition.settings.assemble .defaults with
          | .error cause => .error (.settings definition.id cause)
          | .ok made =>
              .ok { catalog with settings := catalog.settings.insert definition.id made } := by
  rw [addSettings, checkNew]
  split
  · rfl
  · cases definition.settings.assemble .defaults <;> rfl

theorem checks_addSettings : Checks Document.SettingsOffence SettingsTaken addSettings where
  error := by
    intro before catalog definition error h
    rw [addSettings_eq, Document.SettingsOffence]
    constructor
    · intro hfails
      split at hfails
      · rename_i htaken
        exact Except.error.inj hfails ▸ .duplicate (h.defines_iff.1 htaken)
      · rename_i hnew
        rw [h.defines_iff] at hnew
        split at hfails
        · rename_i hcause
          exact Except.error.inj hfails ▸ .assembly hnew hcause
        · cases hfails
    · intro hoffends
      cases hoffends with
      | duplicate htaken => rw [if_pos (h.defines_iff.2 htaken)]
      | assembly hnew hfails => rw [if_neg (mt h.defines_iff.1 hnew), hfails]
  ok := by
    intro before catalog definition next h hadded
    rw [addSettings_eq] at hadded
    split at hadded
    · cases hadded
    · rename_i hnew
      rw [h.defines_iff] at hnew
      split at hadded
      · cases hadded
      · rename_i made hmade
        obtain rfl := Except.ok.inj hadded
        refine ⟨h.clients, h.settings.insert hnew fun other => ?_, fun other hmem => ?_⟩
        · rw [SettingsDefinition.Makes, hmade, Except.ok.injEq, eq_comm]
        · rcases List.mem_append.1 hmem with hmem | hmem
          · exact h.makes other hmem
          · exact ⟨made, List.mem_singleton.1 hmem ▸ hmade⟩

-----------------------------------------------------------------------------------------
-- The run over the clients
-----------------------------------------------------------------------------------------

/-- A catalog with the given settings and nothing but the clients that have been taken up. -/
structure ClientsTaken (settings : Dictionary Settings) (before : List ClientDefinition)
    (catalog : Catalog)
    : Prop where
  same : catalog.settings = settings
  clients : catalog.clients.Represents (·.id) (·.Describes settings.get?) before
  describes : ∀ definition ∈ before, ∃ spec, definition.Describes settings.get? spec

/-- A client is taken up under a new id, if there is a specification for it. -/
theorem addClient_eq (catalog : Catalog) (definition : ClientDefinition)
    : catalog.addClient definition
      = if catalog.defines definition.id then
          .error (.duplicateId definition.id)
        else
          (catalog.specOf definition).map fun spec =>
            { catalog with clients := catalog.clients.insert definition.id spec } := by
  rw [addClient, checkNew]
  split
  · rfl
  · cases catalog.specOf definition <;> rfl

theorem specOf_eq (catalog : Catalog) (definition : ClientDefinition)
    : catalog.specOf definition
      = match readCredentials definition, catalog.referenced definition with
        | .error error, _ => .error error
        | .ok _, .error error => .error error
        | .ok credentials, .ok settings =>
            .ok
              {
                host := definition.host,
                port := definition.port,
                connection := definition.connection,
                credentials,
                replicaSet := definition.replicaSet,
                settings
              } := by
  rw [specOf]
  cases readCredentials definition with
  | error error => rfl
  | ok credentials => cases catalog.referenced definition <;> rfl

theorem readCredentials_eq_ok_iff {definition : ClientDefinition}
    {credentials : List Credential}
    : readCredentials definition = .ok credentials
      ↔ match definition.credential with
        | some text => Credential.readList text = .ok credentials
        | none => credentials = [] := by
  rw [readCredentials]
  cases definition.credential with
  | none => simp [eq_comm]
  | some text => cases hread : Credential.readList text <;> simp [hread, Except.mapError]

theorem readCredentials_eq_error_iff {definition : ClientDefinition} {error : Error}
    : readCredentials definition = .error error
      ↔ ∃ text cause,
          definition.credential = some text
          ∧ Credential.readList text = .error cause
          ∧ error = .credential definition.id cause := by
  rw [readCredentials]
  cases definition.credential with
  | none => simp
  | some text =>
      cases hread : Credential.readList text <;> simp [hread, Except.mapError, eq_comm]

theorem referenced_eq_ok_iff {catalog : Catalog} {definition : ClientDefinition}
    {settings : Option Settings}
    : catalog.referenced definition = .ok settings
      ↔ match definition.settingsRef with
        | some reference =>
            ∃ made, catalog.settings.get? reference = some made ∧ settings = some made
        | none => settings = none := by
  rw [referenced]
  cases definition.settingsRef with
  | none => simp [eq_comm]
  | some reference => cases hget : catalog.settings.get? reference <;> simp [hget, eq_comm]

theorem referenced_eq_error_iff {catalog : Catalog} {definition : ClientDefinition}
    {error : Error}
    : catalog.referenced definition = .error error
      ↔ ∃ reference,
          definition.settingsRef = some reference
          ∧ catalog.settings.get? reference = none
          ∧ error = .unknownSettings definition.id reference := by
  rw [referenced]
  cases definition.settingsRef with
  | none => simp
  | some reference => cases hget : catalog.settings.get? reference <;> simp [hget, eq_comm]

/-- The specification of a client is the one that its definition describes. -/
theorem specOf_eq_ok_iff {catalog : Catalog} {definition : ClientDefinition}
    {spec : ClientSpec}
    : catalog.specOf definition = .ok spec
      ↔ definition.Describes catalog.settings.get? spec := by
  rw [specOf_eq]
  constructor
  · intro h
    split at h
    · cases h
    · cases h
    · rename_i hcredentials hsettings
      obtain rfl := Except.ok.inj h
      exact ⟨rfl, rfl, rfl, readCredentials_eq_ok_iff.1 hcredentials, rfl,
        referenced_eq_ok_iff.1 hsettings⟩
  · intro h
    obtain ⟨host, port, connection, credentials, replicaSet, settings⟩ := spec
    obtain ⟨rfl, rfl, rfl, hcredentials, rfl, hsettings⟩ := h
    rw [readCredentials_eq_ok_iff.2 hcredentials, referenced_eq_ok_iff.2 hsettings]

theorem hasCredentials_iff {definition : ClientDefinition}
    : definition.HasCredentials
      ↔ ∃ credentials, readCredentials definition = .ok credentials := by
  simp only [ClientDefinition.HasCredentials, readCredentials_eq_ok_iff]
  cases definition.credential <;> simp

/-- There is no specification if the credentials cannot be read, and otherwise if the settings are
not known. -/
theorem specOf_eq_error_iff {catalog : Catalog} {definition : ClientDefinition} {error : Error}
    : catalog.specOf definition = .error error
      ↔ readCredentials definition = .error error
        ∨ (definition.HasCredentials ∧ catalog.referenced definition = .error error) := by
  rw [specOf_eq, hasCredentials_iff]
  cases readCredentials definition <;> cases catalog.referenced definition <;> simp

theorem ClientsTaken.defines_iff {settings : Dictionary Settings} {known : List String}
    {before : List ClientDefinition} {catalog : Catalog}
    (h : ClientsTaken settings before catalog)
    (hknown : ∀ id, (settings.get? id).isSome ↔ id ∈ known) {id : String}
    : catalog.defines id = true ↔ id ∈ known ++ before.map (·.id) := by
  rw [Catalog.defines_iff, h.same, hknown, h.clients.isSome_iff h.describes, List.mem_append]

theorem checks_addClient {document : Document} {settings : Dictionary Settings}
    (hknown : ∀ id, (settings.get? id).isSome ↔ id ∈ document.settingsIds)
    : Checks document.ClientOffence (ClientsTaken settings) addClient where
  error := by
    intro before catalog definition error h
    have hunknown {reference : String}
        : catalog.settings.get? reference = none ↔ reference ∉ document.settingsIds := by
      rw [h.same, ← hknown, Option.not_isSome_iff_eq_none]
    rw [addClient_eq, Document.ClientOffence]
    constructor
    · intro hfails
      split at hfails
      · rename_i htaken
        exact Except.error.inj hfails ▸ .duplicate ((h.defines_iff hknown).1 htaken)
      · rename_i hnew
        rw [h.defines_iff hknown] at hnew
        cases hspec : catalog.specOf definition with
        | ok spec =>
            rw [hspec] at hfails
            cases hfails
        | error cause =>
            rw [hspec] at hfails
            obtain rfl := Except.error.inj hfails
            rcases specOf_eq_error_iff.1 hspec with hread | ⟨hreads, hreferenced⟩
            · obtain ⟨text, cause, htext, hcause, rfl⟩ := readCredentials_eq_error_iff.1 hread
              exact .credential hnew htext hcause
            · obtain ⟨reference, hrefers, hnone, rfl⟩ := referenced_eq_error_iff.1 hreferenced
              exact .reference hnew hreads hrefers (hunknown.1 hnone)
    · intro hoffends
      cases hoffends with
      | duplicate htaken => rw [if_pos ((h.defines_iff hknown).2 htaken)]
      | credential hnew htext hfails =>
          have hread := readCredentials_eq_error_iff.2 ⟨_, _, htext, hfails, rfl⟩
          rw [if_neg (mt (h.defines_iff hknown).1 hnew), specOf_eq_error_iff.2 (.inl hread)]
          rfl
      | reference hnew hreads hrefers hmissing =>
          have hreferenced := referenced_eq_error_iff.2 ⟨_, hrefers, hunknown.2 hmissing, rfl⟩
          rw [if_neg (mt (h.defines_iff hknown).1 hnew),
            specOf_eq_error_iff.2 (.inr ⟨hreads, hreferenced⟩)]
          rfl
  ok := by
    intro before catalog definition next h hadded
    rw [addClient_eq] at hadded
    split at hadded
    · cases hadded
    · rename_i hnew
      rw [h.defines_iff hknown, List.mem_append, not_or] at hnew
      cases hspec : catalog.specOf definition with
      | error cause =>
          rw [hspec] at hadded
          cases hadded
      | ok spec =>
          rw [hspec] at hadded
          obtain rfl := Except.ok.inj hadded
          have hdescribes (other : ClientSpec)
              : definition.Describes settings.get? other ↔ other = spec := by
            rw [← h.same, ← specOf_eq_ok_iff, hspec, Except.ok.injEq, eq_comm]
          refine ⟨h.same, h.clients.insert hnew.2 hdescribes, fun other hmem => ?_⟩
          rcases List.mem_append.1 hmem with hmem | hmem
          · exact h.describes other hmem
          · exact ⟨spec, List.mem_singleton.1 hmem ▸ (hdescribes spec).2 rfl⟩

-----------------------------------------------------------------------------------------
-- The outcome
-----------------------------------------------------------------------------------------

theorem settingsTaken_empty : SettingsTaken [] {} :=
  ⟨rfl, Dictionary.represents_empty, fun _ hmem => nomatch hmem⟩

theorem SettingsTaken.clientsTaken {before : List SettingsDefinition} {catalog : Catalog}
    (h : SettingsTaken before catalog)
    : ClientsTaken catalog.settings [] catalog := by
  refine ⟨rfl, ?_, fun _ hmem => nomatch hmem⟩
  rw [h.clients]
  exact Dictionary.represents_empty

theorem firstOffence_settings_iff {document : Document} {error : Error}
    : document.settings.foldlM addSettings {} = .error error
      ↔ MongoConfig.FirstOffence Document.SettingsOffence document.settings error :=
  (checks_addSettings.foldlM settingsTaken_empty document.settings).1 error

/-- The run over the settings fails, or the run over the clients goes on with all settings. -/
theorem ofDocument_cases (document : Document)
    : (∃ error,
        document.settings.foldlM addSettings {} = .error error
        ∧ ofDocument document = .error error)
      ∨ ∃ catalog,
          NoOffence Document.SettingsOffence document.settings
          ∧ SettingsTaken document.settings catalog
          ∧ ofDocument document = document.clients.foldlM addClient catalog := by
  have hok := (checks_addSettings.foldlM settingsTaken_empty document.settings).2
  rw [ofDocument]
  cases hrun : document.settings.foldlM addSettings {} with
  | error error => exact Or.inl ⟨error, rfl, rfl⟩
  | ok catalog =>
      obtain ⟨hnone, htaken⟩ := hok catalog hrun
      exact Or.inr ⟨catalog, hnone, htaken, rfl⟩

/-- The catalog of a document has its settings, and its clients with these settings. -/
theorem taken_of_ofDocument {document : Document} {catalog : Catalog}
    (h : ofDocument document = .ok catalog)
    : document.Loads
      ∧ catalog.settings.Represents (·.id) SettingsDefinition.Makes document.settings
      ∧ ClientsTaken catalog.settings document.clients catalog := by
  rcases ofDocument_cases document with ⟨error, -, hfails⟩ | ⟨start, hsettings, htaken, hrun⟩
  · exact nomatch hfails.symm.trans h
  · have hchecks := checks_addClient (htaken.settings.isSome_iff htaken.makes)
    obtain ⟨hclients, hall⟩ :=
      (hchecks.foldlM htaken.clientsTaken document.clients).2 catalog (hrun.symm.trans h)
    rw [hall.same]
    exact ⟨loads_iff.2 ⟨hsettings, hclients⟩, htaken.settings, hall⟩

theorem exists_ofDocument_eq_ok_iff {document : Document}
    : (∃ catalog, ofDocument document = .ok catalog) ↔ document.Loads := by
  constructor
  · rintro ⟨catalog, hcatalog⟩
    exact (taken_of_ofDocument hcatalog).1
  · intro h
    obtain ⟨hsettings, hclients⟩ := loads_iff.1 h
    rcases ofDocument_cases document with ⟨error, hrun, -⟩ | ⟨start, -, htaken, hrun⟩
    · exact absurd (firstOffence_settings_iff.1 hrun) (hsettings.not_firstOffence error)
    · have hchecks := checks_addClient (htaken.settings.isSome_iff htaken.makes)
      rw [hrun]
      exact (hchecks.exists_foldlM_eq_ok_iff htaken.clientsTaken document.clients).2 hclients

theorem ofDocument_eq_error_iff {document : Document} {error : Error}
    : ofDocument document = .error error ↔ document.FirstOffence error := by
  rcases ofDocument_cases document with ⟨first, hrun, hfails⟩ | ⟨start, hsettings, htaken, hrun⟩
  · have hfirst := firstOffence_settings_iff.1 hrun
    rw [hfails, ← hrun, firstOffence_settings_iff]
    constructor
    · exact Or.inl
    · exact fun h => h.resolve_right fun hclient => hclient.1.not_firstOffence first hfirst
  · have hchecks := checks_addClient (htaken.settings.isSome_iff htaken.makes)
    rw [hrun, (hchecks.foldlM htaken.clientsTaken document.clients).1 error]
    constructor
    · exact fun hfirst => Or.inr ⟨hsettings, hfirst⟩
    · exact fun h => (h.resolve_left (hsettings.not_firstOffence error)).2

theorem holds_of_ofDocument {document : Document} {catalog : Catalog}
    (h : ofDocument document = .ok catalog)
    : catalog.Holds document := by
  obtain ⟨hloads, hsettings, hclients⟩ := taken_of_ofDocument h
  have hclient := hclients.clients.isSome_iff hclients.describes
  refine ⟨hsettings, hsettings.isSome_iff hloads.makes, hclients.clients, hclient,
    catalog.clients.ascending_keys, fun id => ?_⟩
  rw [clientIds, Dictionary.mem_keys_iff, ← Option.isSome_iff_exists]
  exact hclient id

/-- A document with the same definitions in another order loads as well. -/
theorem Document.Loads.of_perm {document other : Document} (h : document.Loads)
    (hsettings : other.settings.Perm document.settings)
    (hclients : other.clients.Perm document.clients)
    : other.Loads where
  nodup := ((hsettings.map _).append (hclients.map _)).nodup_iff.2 h.nodup
  makes := fun definition hmem => h.makes definition (hsettings.mem_iff.1 hmem)
  reads := fun definition hmem => h.reads definition (hclients.mem_iff.1 hmem)
  refers := by
    intro definition hmem reference hrefers
    have hknown := h.refers definition (hclients.mem_iff.1 hmem) reference hrefers
    exact (hsettings.map _).mem_iff.2 hknown

/-- The order of the settings and that of the clients do not matter to the catalog. -/
theorem ofDocument_of_perm {document other : Document} {catalog : Catalog}
    (h : ofDocument document = .ok catalog)
    (hsettings : other.settings.Perm document.settings)
    (hclients : other.clients.Perm document.clients)
    : ofDocument other = .ok catalog := by
  obtain ⟨hloads, hsame, htaken⟩ := taken_of_ofDocument h
  obtain ⟨found, hfound⟩ :=
    exists_ofDocument_eq_ok_iff.2 (hloads.of_perm hsettings hclients)
  obtain ⟨-, hsameFound, htakenFound⟩ := taken_of_ofDocument hfound
  have hequal : found.settings = catalog.settings := hsame.eq_of_perm hsameFound hsettings
  rw [hequal] at htakenFound
  have hequalClients : found.clients = catalog.clients :=
    htaken.clients.eq_of_perm htakenFound.clients hclients
  rw [hfound]
  cases found
  cases catalog
  cases hequal
  cases hequalClients
  rfl

/-- What becomes of a document. It makes a catalog exactly if it loads; the catalog holds just what
the definitions say, whatever their order among the settings and among the clients; and otherwise
the first definition that offends tells the error. -/
theorem ofDocument_by_definitions (document : Document)
    : (∀ text,
        ofText text
        = match Document.ofText text with
          | .ok document => ofDocument document
          | .error problem => .error (.document problem))
      ∧ ((∃ catalog, ofDocument document = .ok catalog) ↔ document.Loads)
      ∧ (∀ catalog, ofDocument document = .ok catalog → catalog.Holds document)
      ∧ (∀ catalog other,
          ofDocument document = .ok catalog
          → other.settings.Perm document.settings
          → other.clients.Perm document.clients
          → ofDocument other = .ok catalog)
      ∧ (∀ error, ofDocument document = .error error ↔ document.FirstOffence error) := by
  refine ⟨fun text => ?_, exists_ofDocument_eq_ok_iff, fun _ => holds_of_ofDocument,
    fun _ _ => ofDocument_of_perm, fun _ => ofDocument_eq_error_iff⟩
  rw [ofText]
  cases Document.ofText text <;> rfl

/-- A document with a client that refers to settings and one with a credential. -/
def twoClients : Document :=
  {
    settings :=
      [{ id := "slow" }, { id := "fast", settings := { poolMaxSize := some 20 } }],
    clients :=
      [
        { id := "orders", settingsRef := some "fast" },
        { id := "audit", credential := some "jon:warg@snow" }
      ]
  }

theorem ofDocument_by_definitions_twoClients
    : ∃ catalog,
        ofDocument twoClients = .ok catalog
        ∧ catalog.Holds twoClients
        ∧ ofDocument
            {
              settings := twoClients.settings.reverse,
              clients := twoClients.clients.reverse
            }
          = .ok catalog := by
  obtain ⟨-, hloads, hholds, hperm, -⟩ := ofDocument_by_definitions twoClients
  have hmakes : ∀ definition ∈ twoClients.settings, ∃ made, definition.Makes made := by
    intro definition hmem
    simp only [twoClients, List.mem_cons, List.not_mem_nil, or_false] at hmem
    rcases hmem with rfl | rfl <;> exact ⟨_, rfl⟩
  have hclients
      : ∀ definition ∈ twoClients.clients,
          definition.HasCredentials
          ∧ ∀ reference,
              definition.settingsRef = some reference
              → reference ∈ twoClients.settingsIds := by
    intro definition hmem
    simp only [twoClients, List.mem_cons, List.not_mem_nil, or_false] at hmem
    rcases hmem with rfl | rfl
    · exact ⟨nofun, fun _ hrefers => Option.some.inj hrefers ▸ by decide⟩
    · exact ⟨fun _ htext => Option.some.inj htext ▸ ⟨_, rfl⟩, nofun⟩
  obtain ⟨catalog, hcatalog⟩ :=
    hloads.2
      ⟨by decide, hmakes, fun definition hmem => (hclients definition hmem).1,
        fun definition hmem => (hclients definition hmem).2⟩
  exact
    ⟨catalog, hcatalog, hholds catalog hcatalog,
      hperm catalog _ hcatalog (List.reverse_perm _) (List.reverse_perm _)⟩

end Catalog

end MongoConfig
