import Mathlib.Data.List.Forall2
import MongoConfig.Json.Decoder
/-! Values and the drafts that write them.
A relation between drafts and values tells how a kind of value is written, apart from how it is
decoded. Numbers are integers without sign; texts of a format of their own are strings; of the
members of a dictionary with one key the last counts.
-/

namespace MongoConfig.Json

/-- Items that are all there. -/
def DraftItems.ofList : List Draft → DraftItems
  | [] => .closed
  | value :: rest => .item value (ofList rest)

/-- Members that are all there. -/
def DraftMembers.ofList : List (String × Draft) → DraftMembers
  | [] => .closed
  | (name, value) :: rest => .member name value (ofList rest)

namespace Draft

variable {α : Type}

def WritesParsed (read : String → Except TextError α) (draft : Draft) (value : α) : Prop :=
  ∃ text, draft = .string text ∧ read text = .ok value

def WritesList (writes : Draft → α → Prop) (draft : Draft) (values : List α) : Prop :=
  ∃ items, draft = .array (.ofList items) ∧ List.Forall₂ writes items values

def WritesDictionary (writes : Draft → α → Prop) (draft : Draft) (dictionary : Dictionary α)
    : Prop :=
  ∃ members pairs,
    draft = .object (.ofList members)
    ∧ List.Forall₂ (fun member pair => member.1 = pair.1 ∧ writes member.2 pair.2) members pairs
    ∧ dictionary = .ofList pairs

mutual
/-- A draft of any value. -/
inductive WritesJson : Draft → Json → Prop where
  | null : WritesJson .null .null
  | bool (flag : Bool) : WritesJson (.bool flag) (.bool flag)
  | number (number : Number) : WritesJson (.number number) (.number number)
  | string (text : String) : WritesJson (.string text) (.string text)
  | array {items : DraftItems} {values : List Json}
      (hitems : WritesItems items values)
      : WritesJson (.array items) (.array values)
  | object {members : DraftMembers} {pairs : List (String × Json)}
      (hmembers : WritesMembers members pairs)
      : WritesJson (.object members) (.object (Dictionary.ofList pairs).entries)

inductive WritesItems : DraftItems → List Json → Prop where
  | closed : WritesItems .closed []
  | item {draft : Draft} {rest : DraftItems} {value : Json} {values : List Json}
      (hvalue : WritesJson draft value) (hrest : WritesItems rest values)
      : WritesItems (.item draft rest) (value :: values)

inductive WritesMembers : DraftMembers → List (String × Json) → Prop where
  | closed : WritesMembers .closed []
  | member {name : String} {draft : Draft} {rest : DraftMembers} {value : Json}
      {pairs : List (String × Json)}
      (hvalue : WritesJson draft value) (hrest : WritesMembers rest pairs)
      : WritesMembers (.member name draft rest) ((name, value) :: pairs)
end

end Draft

namespace Decoder

variable {α : Type}

theorem uint32_of_toNat (number : UInt32)
    : uint32 (.number (.integer number.toNat)) = .ok number := by
  have hfits : (number.toNat : Int) < Nat.pow 2 32 := Int.ofNat_lt.2 number.toNat_lt
  rw [uint32, unsigned, if_pos ⟨Int.natCast_nonneg _, hfits⟩, Int.toNat_natCast]
  exact congrArg Except.ok UInt32.ofNat_toNat

theorem uint64_of_toNat (number : UInt64)
    : uint64 (.number (.integer number.toNat)) = .ok number := by
  have hfits : (number.toNat : Int) < Nat.pow 2 64 := Int.ofNat_lt.2 number.toNat_lt
  rw [uint64, unsigned, if_pos ⟨Int.natCast_nonneg _, hfits⟩, Int.toNat_natCast]
  exact congrArg Except.ok UInt64.ofNat_toNat

/-- A value that is not null is decoded as if it could not be. -/
theorem nullable_of_ne_null {decode : Decoder α} {draft : Draft} (h : draft ≠ .null)
    : decode.nullable draft = (decode draft).map some := by
  cases draft with
  | null => exact absurd rfl h
  | _ => rfl

theorem ofText_of_writes {read : String → Except TextError α} {draft : Draft} {value : α}
    (h : draft.WritesParsed read value)
    : ofText read draft = .ok value := by
  obtain ⟨text, rfl, hread⟩ := h
  show (read text).mapError (fun error => Problem.content (.text error)) = .ok value
  rw [hread]
  rfl

theorem list_of_writes {decode : Decoder α} {writes : Draft → α → Prop}
    (hdecode : ∀ draft value, writes draft value → decode draft = .ok value) {draft : Draft}
    {values : List α} (h : draft.WritesList writes values)
    : list decode draft = .ok values := by
  obtain ⟨drafts, rfl, hitems⟩ := h
  rw [list]
  induction hitems with
  | nil => rfl
  | cons hvalue _ ih =>
      rw [DraftItems.ofList, items, hdecode _ _ hvalue, ih]
      rfl

theorem dictionary_of_writes {decode : Decoder α} {writes : Draft → α → Prop}
    (hdecode : ∀ draft value, writes draft value → decode draft = .ok value) {draft : Draft}
    {values : Dictionary α} (h : draft.WritesDictionary writes values)
    : dictionary decode draft = .ok values := by
  obtain ⟨members, pairs, rfl, hmembers, rfl⟩ := h
  suffices hentries : entries decode (.ofList members) = .ok pairs by
    rw [dictionary, hentries]
    rfl
  induction hmembers with
  | nil => rfl
  | cons hpair _ ih =>
      obtain ⟨hname, hvalue⟩ := hpair
      rw [DraftMembers.ofList, entries, hdecode _ _ hvalue, ih, hname]
      rfl

mutual
/-- Any value is decoded to itself, by induction on how it is written. -/
theorem json_of_writes {draft : Draft} {value : Json} (h : draft.WritesJson value)
    : json draft = .ok value := by
  cases h with
  | null | bool | number | string => rfl
  | array hitems => rw [json, jsonItems_of_writes hitems]; rfl
  | object hmembers => rw [json, jsonMembers_of_writes hmembers]; rfl

theorem jsonItems_of_writes {items : DraftItems} {values : List Json}
    (h : Draft.WritesItems items values)
    : jsonItems items = .ok values := by
  cases h with
  | closed => rfl
  | item hvalue hrest =>
      rw [jsonItems, json_of_writes hvalue, jsonItems_of_writes hrest]
      rfl

theorem jsonMembers_of_writes {members : DraftMembers} {pairs : List (String × Json)}
    (h : Draft.WritesMembers members pairs)
    : jsonMembers members = .ok pairs := by
  cases h with
  | closed => rfl
  | member hvalue hrest =>
      rw [jsonMembers, json_of_writes hvalue, jsonMembers_of_writes hrest]
      rfl
end

end Decoder

end MongoConfig.Json
