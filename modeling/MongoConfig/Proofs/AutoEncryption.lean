import MongoConfig.AutoEncryption
import MongoConfig.Proofs.Json.Record
/-! Settings of automatic field encryption and the objects that write them.
Only the namespace of the key vault must be written. The providers and the schemas are dictionaries,
and a schema can be any value.
-/

namespace MongoConfig.AutoEncryption

inductive Part where
  | keyVaultNamespace
  | kmsProviders
  | schemaMap
  | bypass
deriving DecidableEq, Repr

namespace Part

def all : List Part :=
  [keyVaultNamespace, kmsProviders, schemaMap, bypass]

theorem mem_all (part : Part) : part ∈ all := by
  cases part <;> decide

def Value : Part → Type
  | keyVaultNamespace => String
  | kmsProviders => Dictionary (Dictionary String)
  | schemaMap => Dictionary Json
  | bypass => Bool

def get : (part : Part) → AutoEncryption → part.Value
  | keyVaultNamespace, encryption => encryption.keyVaultNamespace
  | kmsProviders, encryption => encryption.kmsProviders
  | schemaMap, encryption => encryption.schemaMap
  | bypass, encryption => encryption.bypass

def put : (part : Part) → part.Value → AutoEncryption → AutoEncryption
  | keyVaultNamespace, name, encryption => { encryption with keyVaultNamespace := name }
  | kmsProviders, providers, encryption => { encryption with kmsProviders := providers }
  | schemaMap, schemas, encryption => { encryption with schemaMap := schemas }
  | bypass, flag, encryption => { encryption with bypass := flag }

def key : Part → String
  | keyVaultNamespace => "key-vault-namespace"
  | kmsProviders => "kms-providers"
  | schemaMap => "schema-map"
  | bypass => "bypass-auto-encryption"

def presence : Part → Json.Presence
  | keyVaultNamespace => .required
  | kmsProviders | schemaMap | bypass => .defaulted

def decode : (part : Part) → Json.Decoder part.Value
  | keyVaultNamespace => Json.Decoder.string
  | kmsProviders => Json.Decoder.dictionary (Json.Decoder.dictionary Json.Decoder.string)
  | schemaMap => Json.Decoder.dictionary Json.Decoder.json
  | bypass => Json.Decoder.bool

/-- The drafts that write a value. -/
def Writes : (part : Part) → Json.Draft → part.Value → Prop
  | keyVaultNamespace, draft, name => draft = .string name
  | kmsProviders, draft, providers =>
      draft.WritesDictionary
        (fun provider options =>
          provider.WritesDictionary (fun option text => option = .string text) options)
        providers
  | schemaMap, draft, schemas => draft.WritesDictionary Json.Draft.WritesJson schemas
  | bypass, draft, flag => draft = .bool flag

theorem decode_of_writes {part : Part} {draft : Json.Draft} {value : part.Value}
    (h : part.Writes draft value)
    : part.decode draft = .ok value := by
  cases part with
  | keyVaultNamespace | bypass =>
      obtain rfl : draft = _ := h
      rfl
  | kmsProviders =>
      refine Json.Decoder.dictionary_of_writes (fun provider options hprovider => ?_) h
      refine Json.Decoder.dictionary_of_writes (fun option text hoption => ?_) hprovider
      rw [hoption]
      rfl
  | schemaMap =>
      refine Json.Decoder.dictionary_of_writes (fun draft value hvalue => ?_) h
      exact Json.Decoder.json_of_writes hvalue

end Part

def parts : Json.Parts AutoEncryption Part :=
  {
    Value := Part.Value,
    get := fun encryption part => part.get encryption,
    put := Part.put,
    get_put := by
      intro part value encryption
      funext other
      cases part <;> cases other <;> rfl,
    eq_of_get_eq := by
      intro first second h
      have hget (part : Part) : part.get first = part.get second := congrFun h part
      obtain ⟨name, providers, schemas, bypass⟩ := first
      obtain rfl : name = _ := hget .keyVaultNamespace
      obtain rfl : providers = _ := hget .kmsProviders
      obtain rfl : schemas = _ := hget .schemaMap
      obtain rfl : bypass = _ := hget .bypass
      rfl
  }

def keys : List (Json.Key parts) :=
  Part.all.map fun part =>
    { name := part.key, part, presence := part.presence, decode := part.decode }

theorem isKeyed : format.IsKeyed keys :=
  ⟨rfl, by decide, by decide⟩

def layout : Json.Layout parts :=
  {
    key? := fun part => some part.key,
    WritesPart := Part.Writes
  }

theorem isDecodedBy : layout.IsDecodedBy keys := by
  constructor
  case key_eq =>
    intro key hkey
    obtain ⟨part, -, rfl⟩ := List.mem_map.1 hkey
    rfl
  case exists_key =>
    intro part name hname
    obtain rfl := Option.some.inj hname
    exact ⟨_, List.mem_map_of_mem part.mem_all, rfl, rfl⟩
  case decode_eq =>
    intro key hkey draft value hwrites
    obtain ⟨part, -, rfl⟩ := List.mem_map.1 hkey
    exact Part.decode_of_writes hwrites

/-- The draft is an object that writes the settings. -/
def IsWrittenAs (encryption : AutoEncryption) (draft : Json.Draft) : Prop :=
  ∃ members,
    draft = .object (.ofList members)
    ∧ Part.keyVaultNamespace.key ∈ members.map (·.1)
    ∧ layout.WritesRecord format.blank members encryption

theorem decoder_of_isWrittenAs {encryption : AutoEncryption} {draft : Json.Draft}
    (h : encryption.IsWrittenAs draft)
    : format.decoder draft = .ok encryption := by
  obtain ⟨members, rfl, hrequired, hwrites⟩ := h
  refine hwrites.decoder_eq_ok isKeyed isDecodedBy fun key hkey hpresence => ?_
  obtain ⟨part, -, rfl⟩ := List.mem_map.1 hkey
  cases part with
  | keyVaultNamespace => exact hrequired
  | kmsProviders | schemaMap | bypass => cases hpresence

end MongoConfig.AutoEncryption
