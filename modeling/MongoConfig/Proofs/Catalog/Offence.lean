import Mathlib.Data.List.Nodup
import MongoConfig.Catalog.Basic
import MongoConfig.Proofs.FirstOffence
/-! What can be wrong with the definitions of a document.
A definition offends by its id, which must not be taken, and otherwise by what it says. Which ids
are taken depends on the definitions before it, so the first offence is a matter of their order;
that there is none is not.
-/

namespace MongoConfig

namespace Catalog

-----------------------------------------------------------------------------------------
-- Offences
-----------------------------------------------------------------------------------------

/-- The settings that a definition makes, assembled over the defaults. -/
def SettingsDefinition.Makes (definition : SettingsDefinition) (made : Settings) : Prop :=
  definition.settings.assemble .defaults = .ok made

/-- What is wrong with a definition of settings that comes after others with the `taken` ids. -/
inductive SettingsDefinition.Offends (taken : List String) (definition : SettingsDefinition)
    : Error → Prop where
  | duplicate (htaken : definition.id ∈ taken)
    : Offends taken definition (.duplicateId definition.id)
  | assembly {cause : AssemblyError} (hnew : definition.id ∉ taken)
    (hfails : definition.settings.assemble .defaults = .error cause)
    : Offends taken definition (.settings definition.id cause)

/-- The text of the credentials, if there is one, can be read. -/
def ClientDefinition.HasCredentials (definition : ClientDefinition) : Prop :=
  ∀ text,
    definition.credential = some text
    → ∃ credentials, Credential.readList text = .ok credentials

/-- What is wrong with a definition of a client that comes after others with the `taken` ids and may
refer to settings with the `known` ids. -/
inductive ClientDefinition.Offends (known taken : List String) (definition : ClientDefinition)
    : Error → Prop where
  | duplicate (htaken : definition.id ∈ taken)
    : Offends known taken definition (.duplicateId definition.id)
  | credential {text : String} {cause : TextError} (hnew : definition.id ∉ taken)
    (htext : definition.credential = some text) (hfails : Credential.readList text = .error cause)
    : Offends known taken definition (.credential definition.id cause)
  | reference {reference : String} (hnew : definition.id ∉ taken)
    (hreads : definition.HasCredentials)
    (hrefers : definition.settingsRef = some reference) (hunknown : reference ∉ known)
    : Offends known taken definition (.unknownSettings definition.id reference)

namespace Document

def settingsIds (document : Document) : List String :=
  document.settings.map (·.id)

def clientIds (document : Document) : List String :=
  document.clients.map (·.id)

/-- A definition of settings must not repeat the id of one before it. -/
def SettingsOffence (before : List SettingsDefinition) (definition : SettingsDefinition)
    : Error → Prop :=
  definition.Offends (before.map (·.id))

/-- A definition of a client must not repeat the id of one before it or of settings. -/
def ClientOffence (document : Document) (before : List ClientDefinition)
    (definition : ClientDefinition)
    : Error → Prop :=
  definition.Offends document.settingsIds (document.settingsIds ++ before.map (·.id))

/-- The first definition that offends does so with `error`; the settings come before the clients. -/
def FirstOffence (document : Document) (error : Error) : Prop :=
  MongoConfig.FirstOffence SettingsOffence document.settings error
  ∨ (NoOffence SettingsOffence document.settings
    ∧ MongoConfig.FirstOffence document.ClientOffence document.clients error)

/-- A document in which all ids are different, all settings can be assembled, all credentials can be
read, and all references lead to settings. -/
structure Loads (document : Document) : Prop where
  nodup : (document.settingsIds ++ document.clientIds).Nodup
  makes : ∀ definition ∈ document.settings, ∃ made, definition.Makes made
  reads : ∀ definition ∈ document.clients, definition.HasCredentials
  refers
    : ∀ definition ∈ document.clients,
        ∀ reference,
          definition.settingsRef = some reference → reference ∈ document.settingsIds

end Document

-----------------------------------------------------------------------------------------
-- Documents without an offence
-----------------------------------------------------------------------------------------

theorem SettingsDefinition.not_offends_iff {definition : SettingsDefinition}
    {taken : List String}
    : (∀ error, ¬definition.Offends taken error)
      ↔ definition.id ∉ taken ∧ ∃ made, definition.Makes made := by
  constructor
  · intro h
    have hnew : definition.id ∉ taken := fun htaken => h _ (.duplicate htaken)
    refine ⟨hnew, ?_⟩
    cases hmade : definition.settings.assemble .defaults with
    | error cause => exact absurd (.assembly hnew hmade) (h _)
    | ok made => exact ⟨made, hmade⟩
  · rintro ⟨hnew, made, hmade⟩ error hoffends
    cases hoffends with
    | duplicate htaken => exact hnew htaken
    | assembly _ hfails => exact nomatch hfails.symm.trans hmade

theorem ClientDefinition.not_offends_iff {definition : ClientDefinition}
    {known taken : List String}
    : (∀ error, ¬definition.Offends known taken error)
      ↔ definition.id ∉ taken
        ∧ definition.HasCredentials
        ∧ ∀ reference, definition.settingsRef = some reference → reference ∈ known := by
  constructor
  · intro h
    have hnew : definition.id ∉ taken := fun htaken => h _ (.duplicate htaken)
    have hreads : definition.HasCredentials := by
      intro text htext
      cases hread : Credential.readList text with
      | error cause => exact absurd (.credential hnew htext hread) (h _)
      | ok credentials => exact ⟨credentials, rfl⟩
    refine ⟨hnew, hreads, fun reference hrefers => ?_⟩
    exact Classical.byContradiction fun hunknown =>
      h _ (.reference hnew hreads hrefers hunknown)
  · rintro ⟨hnew, hreads, hknown⟩ error hoffends
    cases hoffends with
    | duplicate htaken => exact hnew htaken
    | credential _ htext hfails =>
        obtain ⟨credentials, hread⟩ := hreads _ htext
        exact nomatch hfails.symm.trans hread
    | reference _ _ hrefers hunknown => exact hunknown (hknown _ hrefers)

theorem nodup_append_singleton {items : List String} {last : String}
    : (items ++ [last]).Nodup ↔ items.Nodup ∧ last ∉ items := by
  rw [← List.concat_eq_append, List.nodup_concat, and_comm]

theorem noOffence_settings_iff {definitions : List SettingsDefinition}
    : NoOffence Document.SettingsOffence definitions
      ↔ (definitions.map (·.id)).Nodup
        ∧ ∀ definition ∈ definitions, ∃ made, definition.Makes made := by
  induction definitions using List.reverseRecOn with
  | nil => simp [noOffence_nil]
  | append_singleton front last ih =>
      rw [noOffence_append_singleton, ih, Document.SettingsOffence,
        SettingsDefinition.not_offends_iff, List.map_append, List.map_singleton,
        nodup_append_singleton, List.forall_mem_append, List.forall_mem_singleton,
        and_and_and_comm]

theorem noOffence_clients_iff {document : Document} (hnodup : document.settingsIds.Nodup)
    {definitions : List ClientDefinition}
    : NoOffence document.ClientOffence definitions
      ↔ (document.settingsIds ++ definitions.map (·.id)).Nodup
        ∧ ∀ definition ∈ definitions,
            definition.HasCredentials
            ∧ ∀ reference,
                definition.settingsRef = some reference → reference ∈ document.settingsIds := by
  induction definitions using List.reverseRecOn with
  | nil => simpa [noOffence_nil] using hnodup
  | append_singleton front last ih =>
      rw [noOffence_append_singleton, ih, Document.ClientOffence,
        ClientDefinition.not_offends_iff, List.map_append, List.map_singleton,
        ← List.append_assoc, nodup_append_singleton, List.forall_mem_append,
        List.forall_mem_singleton, and_and_and_comm]

/-- A document loads exactly if none of its definitions offends. -/
theorem loads_iff {document : Document}
    : document.Loads
      ↔ NoOffence Document.SettingsOffence document.settings
        ∧ NoOffence document.ClientOffence document.clients := by
  rw [noOffence_settings_iff]
  constructor
  · intro h
    have hsettings := (List.nodup_append.1 h.nodup).1
    refine ⟨⟨hsettings, h.makes⟩, (noOffence_clients_iff hsettings).2 ⟨h.nodup, ?_⟩⟩
    exact fun definition hmem => ⟨h.reads definition hmem, h.refers definition hmem⟩
  · rintro ⟨⟨hsettings, hmakes⟩, hclients⟩
    obtain ⟨hnodup, hclients⟩ := (noOffence_clients_iff hsettings).1 hclients
    exact ⟨hnodup, hmakes, fun definition hmem => (hclients definition hmem).1,
      fun definition hmem => (hclients definition hmem).2⟩

end Catalog

end MongoConfig
