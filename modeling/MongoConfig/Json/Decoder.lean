import MongoConfig.Json.Problem
import MongoConfig.Json.Reader
/-! Decoding drafts into values of other types.
A decoder goes through a draft from the left and stops at the first problem. A record can be
written as an object of its fields or as an array of their values in order; a field that is not
required may be left out of the object, and one with a default also at the end of the array.
-/

namespace MongoConfig.Json

abbrev Decoder (α : Type) :=
  Draft → Except Problem α

namespace Draft

/-- The problem of a draft that is not of the expected type. -/
def mismatch (expected : Expected) : Draft → Problem
  | broken fault => .form fault
  | null => .content (.wrongType .null expected)
  | bool value => .content (.wrongType (.bool value) expected)
  | number value => .content (.wrongType (.number value) expected)
  | string value => .content (.wrongType (.string value) expected)
  | array _ => .content (.wrongType .array expected)
  | object _ => .content (.wrongType .object expected)

end Draft

namespace Decoder

def bool : Decoder Bool
  | .bool value => .ok value
  | draft => .error (draft.mismatch .bool)

def string : Decoder String
  | .string value => .ok value
  | draft => .error (draft.mismatch .string)

/-- An integer without sign that fits in a number of bits. -/
def unsigned (bits : Nat) : Decoder Nat
  | .number (.integer value) =>
      if 0 ≤ value ∧ value < Nat.pow 2 bits then
        .ok value.toNat
      else
        .error (.content (.outOfRange (.integer value) (.unsigned bits)))
  | draft => .error (draft.mismatch (.unsigned bits))

def uint16 : Decoder UInt16 := fun draft =>
  (unsigned 16 draft).map UInt16.ofNat

def uint32 : Decoder UInt32 := fun draft =>
  (unsigned 32 draft).map UInt32.ofNat

def uint64 : Decoder UInt64 := fun draft =>
  (unsigned 64 draft).map UInt64.ofNat

/-- A value that may be null. -/
def nullable {α : Type} (decode : Decoder α) : Decoder (Option α)
  | .null => .ok none
  | draft => (decode draft).map some

/-- A value that is written as a text of its own format. -/
def ofText {α : Type} (read : String → Except TextError α) : Decoder α := fun draft => do
  let text ← string draft
  (read text).mapError fun error => .content (.text error)

def items {α : Type} (decode : Decoder α) : DraftItems → Except Problem (List α)
  | .closed => .ok []
  | .broken fault => .error (.form fault)
  | .item value rest => do
      let first ← decode value
      let others ← items decode rest
      .ok (first :: others)

def list {α : Type} (decode : Decoder α) : Decoder (List α)
  | .array values => items decode values
  | draft => .error (draft.mismatch .array)

def entries {α : Type} (decode : Decoder α)
    : DraftMembers → Except Problem (List (String × α))
  | .closed => .ok []
  | .broken fault => .error (.form fault)
  | .member key value rest => do
      let first ← decode value
      let others ← entries decode rest
      .ok ((key, first) :: others)

/-- An object with any keys. The last value of a key counts. -/
def dictionary {α : Type} (decode : Decoder α) : Decoder (Dictionary α)
  | .object members => (entries decode members).map Dictionary.ofList
  | draft => .error (draft.mismatch .object)

mutual
/-- Any value at all. -/
def json : Draft → Except Problem Json
  | .broken fault => .error (.form fault)
  | .null => .ok .null
  | .bool value => .ok (.bool value)
  | .number value => .ok (.number value)
  | .string value => .ok (.string value)
  | .array values => (jsonItems values).map .array
  | .object members =>
      (jsonMembers members).map fun pairs => .object (Dictionary.ofList pairs).entries

def jsonItems : DraftItems → Except Problem (List Json)
  | .closed => .ok []
  | .broken fault => .error (.form fault)
  | .item value rest => do
      let first ← json value
      let others ← jsonItems rest
      .ok (first :: others)

def jsonMembers : DraftMembers → Except Problem (List (String × Json))
  | .closed => .ok []
  | .broken fault => .error (.form fault)
  | .member key value rest => do
      let first ← json value
      let others ← jsonMembers rest
      .ok ((key, first) :: others)
end

end Decoder

/-- Whether a field of a record may be left out. -/
inductive Presence where
  | required
  | optional
  | defaulted
deriving DecidableEq, Repr

/-- A field of the record `ρ`: its key, and how a draft of its value changes the record. -/
structure Field (ρ : Type) where
  key : String
  presence : Presence
  decode : Decoder (ρ → ρ)

namespace Field

def required {ρ α : Type} (key : String) (decode : Decoder α) (store : α → ρ → ρ) : Field ρ :=
  {
    key,
    presence := .required,
    decode := fun draft => (decode draft).map store
  }

def optional {ρ α : Type} (key : String) (decode : Decoder α) (store : Option α → ρ → ρ)
    : Field ρ :=
  {
    key,
    presence := .optional,
    decode := fun draft => (decode.nullable draft).map store
  }

def defaulted {ρ α : Type} (key : String) (decode : Decoder α) (store : α → ρ → ρ)
    : Field ρ :=
  {
    key,
    presence := .defaulted,
    decode := fun draft => (decode draft).map store
  }

end Field

/-- How the record `ρ` is written: its name, its fields and the record before any is read. -/
structure RecordFormat (ρ : Type) where
  name : String
  fields : List (Field ρ)
  blank : ρ

namespace RecordFormat

variable {ρ : Type}

def keys (format : RecordFormat ρ) : List String :=
  format.fields.map (·.key)

/-- The record as the members of an object are read; `seen` are the keys that came before. -/
def decodeMembers (format : RecordFormat ρ) (seen : List String) (record : ρ)
    : DraftMembers → Except Problem ρ
  | .closed =>
      match format.fields.find? fun field => field.presence = .required ∧ field.key ∉ seen with
      | some field => .error (.content (.missingMember field.key))
      | none => .ok record
  | .broken fault => .error (.form fault)
  | .member key value rest =>
      match format.fields.find? fun field => field.key = key with
      | none => .error (.content (.unknownMember key format.keys))
      | some field =>
          if key ∈ seen then
            .error (.content (.repeatedMember key))
          else do
            let store ← field.decode value
            format.decodeMembers (key :: seen) (store record) rest

/-- The record as the items of an array are read into the fields that are left. -/
def decodeItems (format : RecordFormat ρ) (fields : List (Field ρ)) (record : ρ)
    (items : DraftItems)
    : Except Problem ρ :=
  match fields, items with
  | [], .closed => .ok record
  | [], .item _ _ => .error (.form .malformed)
  | _, .broken fault => .error (.form fault)
  | field :: fields, .closed =>
      if field.presence = .defaulted then
        format.decodeItems fields record .closed
      else
        let length := format.fields.length - (fields.length + 1)
        .error (.content (.tooShort length format.name format.fields.length))
  | field :: fields, .item value rest => do
      let store ← field.decode value
      format.decodeItems fields (store record) rest

def decoder (format : RecordFormat ρ) : Decoder ρ
  | .object members => format.decodeMembers [] format.blank members
  | .array items => format.decodeItems format.fields format.blank items
  | draft => .error (draft.mismatch (.record format.name))

end RecordFormat

/-- Decodes a whole text. Anything after the document is a fault of its form. -/
def decodeText {α : Type} (decode : Decoder α) (text : String) : Except Problem α :=
  let document := Document.read text
  match decode document.draft with
  | .error problem => .error problem
  | .ok value =>
      if document.hasTrailingText then .error (.form .malformed) else .ok value

end MongoConfig.Json
