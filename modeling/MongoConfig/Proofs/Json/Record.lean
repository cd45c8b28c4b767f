import Mathlib.Data.List.Nodup
import Mathlib.Logic.Function.Basic
import MongoConfig.Proofs.Json.Decoder
/-! What an object makes of a record.
A record is known by its parts, and each key of its format writes one of them. An object is accepted
if its keys are distinct keys of the format, if none is missing that is required, and if its values
can be decoded; its record then has these values and is blank otherwise. The order of the members
does not matter.
-/

namespace MongoConfig.Json

/-- The parts of the record `ρ`. -/
structure Parts (ρ ι : Type) [DecidableEq ι] where
  Value : ι → Type
  get : ρ → (part : ι) → Value part
  put : (part : ι) → Value part → ρ → ρ
  get_put : ∀ part value record,
    get (put part value record) = Function.update (get record) part value
  eq_of_get_eq : ∀ first second, get first = get second → first = second

variable {ρ ι : Type} [DecidableEq ι] {parts : Parts ρ ι}

/-- A key, and the part of the record that is written under it. -/
structure Key (parts : Parts ρ ι) where
  name : String
  part : ι
  presence : Presence
  decode : Decoder (parts.Value part)

def Key.field (key : Key parts) : Field ρ :=
  {
    key := key.name,
    presence := key.presence,
    decode := fun draft => (key.decode draft).map (parts.put key.part)
  }

/-- The format has these keys, all with different names and for different parts. -/
structure RecordFormat.IsKeyed (format : RecordFormat ρ) (keys : List (Key parts)) : Prop where
  fields : format.fields = keys.map Key.field
  names : (keys.map (·.name)).Nodup
  parts : (keys.map (·.part)).Nodup

/-- What members that follow the keys `seen` say of a record that was `start` before them. -/
structure Describes (keys : List (Key parts)) (seen : List String) (start : ρ)
    (members : List (String × Draft)) (record : ρ)
    : Prop where
  distinct : (members.map (·.1)).Nodup
  unseen : ∀ name ∈ members.map (·.1), name ∉ seen
  known : ∀ name ∈ members.map (·.1), name ∈ keys.map (·.name)
  required : ∀ key ∈ keys, key.presence = .required →
    key.name ∈ seen ∨ key.name ∈ members.map (·.1)
  written : ∀ key ∈ keys, ∀ draft, (key.name, draft) ∈ members →
    key.decode draft = .ok (parts.get record key.part)
  left : ∀ part, (∀ key ∈ keys, key.part = part → key.name ∉ members.map (·.1)) →
    parts.get record part = parts.get start part

namespace RecordFormat

variable {format : RecordFormat ρ} {keys : List (Key parts)} {seen : List String}
  {start record : ρ} {members : List (String × Draft)}

-----------------------------------------------------------------------------------------
-- Looking up a key
-----------------------------------------------------------------------------------------

theorem find?_name_of_mem (hnames : (keys.map (·.name)).Nodup) {key : Key parts}
    (hmem : key ∈ keys)
    : (keys.find? fun other => other.name = key.name) = some key := by
  cases hfound : keys.find? fun other => other.name = key.name with
  | none => exact absurd (decide_eq_true rfl) (List.find?_eq_none.1 hfound key hmem)
  | some found =>
      have hname : found.name = key.name := by simpa using List.find?_some hfound
      rw [List.inj_on_of_nodup_map hnames (List.mem_of_find?_eq_some hfound) hmem hname]

theorem IsKeyed.find?_of_mem (h : format.IsKeyed keys) {key : Key parts} (hmem : key ∈ keys)
    : (format.fields.find? fun field => field.key = key.name) = some key.field := by
  rw [h.fields, List.find?_map]
  exact congrArg (Option.map Key.field) (find?_name_of_mem h.names hmem)

theorem IsKeyed.find?_of_not_mem (h : format.IsKeyed keys) {name : String}
    (hname : name ∉ keys.map (·.name))
    : (format.fields.find? fun field => field.key = name) = none := by
  rw [h.fields, List.find?_eq_none]
  intro field hfield
  obtain ⟨key, hkey, rfl⟩ := List.mem_map.1 hfield
  intro heq
  exact hname (List.mem_map.2 ⟨key, hkey, of_decide_eq_true heq⟩)

-----------------------------------------------------------------------------------------
-- One member after another
-----------------------------------------------------------------------------------------

/-- A draft of a member that follows others changes the record by what is under its key. -/
theorem IsKeyed.decodeMembers_member (h : format.IsKeyed keys) {key : Key parts}
    (hkey : key ∈ keys) {draft : Draft} {rest : DraftMembers} (hseen : key.name ∉ seen)
    : format.decodeMembers seen start (.member key.name draft rest)
      = (key.decode draft).bind fun value =>
          format.decodeMembers (key.name :: seen) (parts.put key.part value start) rest := by
  rw [decodeMembers, h.find?_of_mem hkey]
  dsimp only
  rw [if_neg hseen]
  cases hvalue : key.decode draft with
  | error problem =>
      simp only [Key.field, hvalue]
      rfl
  | ok value =>
      simp only [Key.field, hvalue]
      rfl

theorem IsKeyed.decodeMembers_unknown (h : format.IsKeyed keys) {name : String}
    (hname : name ∉ keys.map (·.name)) {draft : Draft} {rest : DraftMembers}
    : format.decodeMembers seen start (.member name draft rest)
      = .error (.content (.unknownMember name format.keys)) := by
  rw [decodeMembers, h.find?_of_not_mem hname]

theorem IsKeyed.decodeMembers_repeated (h : format.IsKeyed keys) {key : Key parts}
    (hkey : key ∈ keys) (hseen : key.name ∈ seen) {draft : Draft} {rest : DraftMembers}
    : format.decodeMembers seen start (.member key.name draft rest)
      = .error (.content (.repeatedMember key.name)) := by
  rw [decodeMembers, h.find?_of_mem hkey]
  dsimp only
  rw [if_pos hseen]

theorem IsKeyed.decodeMembers_closed_eq_ok_iff (h : format.IsKeyed keys)
    : format.decodeMembers seen start .closed = .ok record
      ↔ Describes keys seen start [] record := by
  have hmissing
      : (format.fields.find? fun field => field.presence = .required ∧ field.key ∉ seen) = none
        ↔ ∀ key ∈ keys, key.presence = .required → key.name ∈ seen := by
    rw [h.fields, List.find?_eq_none]
    simp [Key.field]
  rw [decodeMembers]
  constructor
  · intro hok
    split at hok
    · cases hok
    · rename_i hnone
      obtain rfl := Except.ok.inj hok
      refine ⟨.nil, nofun, nofun, ?_, nofun, fun _ _ => rfl⟩
      intro key hkey hrequired
      exact .inl (hmissing.1 hnone key hkey hrequired)
  · intro hdescribes
    have hnone := hmissing.2 fun key hkey hrequired =>
      (hdescribes.required key hkey hrequired).resolve_right List.not_mem_nil
    rw [hnone]
    refine congrArg Except.ok (parts.eq_of_get_eq _ _ ?_)
    funext part
    exact (hdescribes.left part fun _ _ _ => List.not_mem_nil).symm

theorem IsKeyed.eq_of_name (h : format.IsKeyed keys) {key other : Key parts} (hkey : key ∈ keys)
    (hother : other ∈ keys) (hname : other.name = key.name)
    : other = key :=
  List.inj_on_of_nodup_map h.names hother hkey hname

theorem IsKeyed.eq_of_part (h : format.IsKeyed keys) {key other : Key parts} (hkey : key ∈ keys)
    (hother : other ∈ keys) (hpart : other.part = key.part)
    : other = key :=
  List.inj_on_of_nodup_map h.parts hother hkey hpart

section

variable {key : Key parts} {draft : Draft} {value : parts.Value key.part}

/-- The members after a first one do not touch its part. -/
theorem IsKeyed.get_of_describes_put (h : format.IsKeyed keys) (hkey : key ∈ keys)
    (hrest : Describes keys (key.name :: seen) (parts.put key.part value start) members record)
    : parts.get record key.part = value := by
  have hfresh : key.name ∉ members.map (·.1) := fun hmem =>
    hrest.unseen _ hmem List.mem_cons_self
  rw [hrest.left key.part fun other hother hpart => h.eq_of_part hkey hother hpart ▸ hfresh,
    parts.get_put, Function.update_self]

/-- What a member says is added to what the members after it say. -/
theorem IsKeyed.describes_cons (h : format.IsKeyed keys) (hkey : key ∈ keys)
    (hvalue : key.decode draft = .ok value) (hseen : key.name ∉ seen)
    (hrest : Describes keys (key.name :: seen) (parts.put key.part value start) members record)
    : Describes keys seen start ((key.name, draft) :: members) record := by
  constructor
  case distinct =>
    have hfresh : key.name ∉ members.map (·.1) := fun hmem =>
      hrest.unseen _ hmem List.mem_cons_self
    exact List.nodup_cons.2 ⟨hfresh, hrest.distinct⟩
  case unseen =>
    intro name hname
    rcases List.mem_cons.1 hname with rfl | hname
    · exact hseen
    · exact fun hmem => hrest.unseen name hname (List.mem_cons_of_mem _ hmem)
  case known =>
    intro name hname
    rcases List.mem_cons.1 hname with rfl | hname
    · exact List.mem_map_of_mem hkey
    · exact hrest.known name hname
  case required =>
    intro other hother hrequired
    rcases hrest.required other hother hrequired with hmem | hmem
    · rcases List.mem_cons.1 hmem with hname | hmem
      · exact .inr (hname ▸ List.mem_cons_self)
      · exact .inl hmem
    · exact .inr (List.mem_cons_of_mem _ hmem)
  case written =>
    intro other hother otherDraft hmem
    rcases List.mem_cons.1 hmem with heq | hmem
    · obtain ⟨hname, rfl⟩ := Prod.mk.inj heq
      obtain rfl := h.eq_of_name hkey hother hname
      rw [hvalue, h.get_of_describes_put hkey hrest]
    · exact hrest.written other hother otherDraft hmem
  case left =>
    intro part hleft
    have hpart : part ≠ key.part := fun hpart =>
      hleft key hkey hpart.symm List.mem_cons_self
    rw [hrest.left part fun other hother heq hmem =>
        hleft other hother heq (List.mem_cons_of_mem _ hmem),
      parts.get_put, Function.update_of_ne hpart]

/-- The members after a first one say the rest, once its value is in the record. -/
theorem IsKeyed.describes_put (h : format.IsKeyed keys) (hkey : key ∈ keys)
    (hvalue : key.decode draft = .ok value)
    (hall : Describes keys seen start ((key.name, draft) :: members) record)
    : Describes keys (key.name :: seen) (parts.put key.part value start) members record := by
  obtain ⟨hfresh, hdistinct⟩ := List.nodup_cons.1 hall.distinct
  constructor
  case distinct => exact hdistinct
  case unseen =>
    intro name hname hmem
    rcases List.mem_cons.1 hmem with rfl | hmem
    · exact hfresh hname
    · exact hall.unseen name (List.mem_cons_of_mem _ hname) hmem
  case known => exact fun name hname => hall.known name (List.mem_cons_of_mem _ hname)
  case required =>
    intro other hother hrequired
    rcases hall.required other hother hrequired with hmem | hmem
    · exact .inl (List.mem_cons_of_mem _ hmem)
    · rcases List.mem_cons.1 hmem with hname | hmem
      · exact .inl (hname ▸ List.mem_cons_self)
      · exact .inr hmem
  case written =>
    exact fun other hother otherDraft hmem =>
      hall.written other hother otherDraft (List.mem_cons_of_mem _ hmem)
  case left =>
    intro part hleft
    rw [parts.get_put]
    by_cases hpart : part = key.part
    · subst hpart
      have hwritten := hall.written key hkey draft List.mem_cons_self
      rw [Function.update_self, Except.ok.inj (hwritten.symm.trans hvalue)]
    · rw [Function.update_of_ne hpart]
      refine hall.left part fun other hother heq hmem => ?_
      rcases List.mem_cons.1 hmem with hname | hmem
      · exact hpart (heq.symm.trans (congrArg _ (h.eq_of_name hkey hother hname)))
      · exact hleft other hother heq hmem

/-- What a member says can be taken into the record before the members after it are read. -/
theorem IsKeyed.describes_put_iff (h : format.IsKeyed keys) (hkey : key ∈ keys)
    (hvalue : key.decode draft = .ok value) (hseen : key.name ∉ seen)
    : Describes keys (key.name :: seen) (parts.put key.part value start) members record
      ↔ Describes keys seen start ((key.name, draft) :: members) record :=
  ⟨h.describes_cons hkey hvalue hseen, h.describes_put hkey hvalue⟩

end

-----------------------------------------------------------------------------------------
-- All members
-----------------------------------------------------------------------------------------

/-- Members are decoded to the record that they describe, by induction on them. -/
theorem IsKeyed.decodeMembers_eq_ok_iff (h : format.IsKeyed keys)
    : format.decodeMembers seen start (.ofList members) = .ok record
      ↔ Describes keys seen start members record := by
  have hfails (problem : Problem) : Except.error problem ≠ .ok record := by
    intro heq
    cases heq
  induction members generalizing seen start with
  | nil => exact h.decodeMembers_closed_eq_ok_iff
  | cons member rest ih =>
      obtain ⟨name, draft⟩ := member
      rw [DraftMembers.ofList]
      by_cases hname : name ∈ keys.map (·.name)
      · obtain ⟨key, hkey, rfl⟩ := List.mem_map.1 hname
        by_cases hseen : key.name ∈ seen
        · rw [h.decodeMembers_repeated hkey hseen]
          exact iff_of_false (hfails _) fun hall => hall.unseen _ List.mem_cons_self hseen
        · rw [h.decodeMembers_member hkey hseen]
          cases hvalue : key.decode draft with
          | error problem =>
              refine iff_of_false (hfails problem) fun hall => ?_
              have hdecoded := hall.written key hkey draft List.mem_cons_self
              rw [hvalue] at hdecoded
              cases hdecoded
          | ok value => exact ih.trans (h.describes_put_iff hkey hvalue hseen)
      · rw [h.decodeMembers_unknown hname]
        exact iff_of_false (hfails _) fun hall => hname (hall.known _ List.mem_cons_self)

theorem IsKeyed.decoder_eq_ok_iff (h : format.IsKeyed keys)
    : format.decoder (.object (.ofList members)) = .ok record
      ↔ Describes keys [] format.blank members record :=
  h.decodeMembers_eq_ok_iff

/-- A key that is repeated, or that the format does not have, is refused. -/
theorem IsKeyed.decoder_error (h : format.IsKeyed keys)
    (hkeys
      : ¬(members.map (·.1)).Nodup ∨ ∃ name ∈ members.map (·.1), name ∉ keys.map (·.name))
    : ∃ problem, format.decoder (.object (.ofList members)) = .error problem := by
  cases hdecoded : format.decoder (.object (.ofList members)) with
  | error problem => exact ⟨problem, rfl⟩
  | ok record =>
      have hdescribes := h.decoder_eq_ok_iff.1 hdecoded
      rcases hkeys with hrepeated | ⟨name, hname, hunknown⟩
      · exact absurd hdescribes.distinct hrepeated
      · exact absurd (hdescribes.known name hname) hunknown

end RecordFormat

-----------------------------------------------------------------------------------------
-- Records as they are written
-----------------------------------------------------------------------------------------

/-- How a record is written, apart from how it is decoded: the key of each part that has one, and
the drafts of its values. -/
structure Layout (parts : Parts ρ ι) where
  key? : ι → Option String
  WritesPart : (part : ι) → Draft → parts.Value part → Prop

/-- The members write a record, in whatever order: each part that has its key among them is written
there, and the others are as in the blank record. -/
structure Layout.WritesRecord (layout : Layout parts) (blank : ρ)
    (members : List (String × Draft)) (record : ρ)
    : Prop where
  distinct : (members.map (·.1)).Nodup
  known : ∀ name ∈ members.map (·.1), ∃ part, layout.key? part = some name
  written : ∀ part name draft, layout.key? part = some name → (name, draft) ∈ members →
    layout.WritesPart part draft (parts.get record part)
  left : ∀ part, (∀ name, layout.key? part = some name → name ∉ members.map (·.1)) →
    parts.get record part = parts.get blank part

/-- The keys decode what the layout writes. -/
structure Layout.IsDecodedBy (layout : Layout parts) (keys : List (Key parts)) : Prop where
  key_eq : ∀ key ∈ keys, layout.key? key.part = some key.name
  exists_key : ∀ part name, layout.key? part = some name →
    ∃ key ∈ keys, key.part = part ∧ key.name = name
  decode_eq : ∀ key ∈ keys, ∀ draft value, layout.WritesPart key.part draft value →
    key.decode draft = .ok value

variable {layout : Layout parts} {format : RecordFormat ρ} {keys : List (Key parts)} {record : ρ}
  {members : List (String × Draft)}

theorem Layout.IsDecodedBy.mem_names_iff (h : layout.IsDecodedBy keys) {name : String}
    : name ∈ keys.map (·.name) ↔ ∃ part, layout.key? part = some name := by
  constructor
  · intro hname
    obtain ⟨key, hkey, rfl⟩ := List.mem_map.1 hname
    exact ⟨key.part, h.key_eq key hkey⟩
  · rintro ⟨part, hpart⟩
    obtain ⟨key, hkey, -, hname⟩ := h.exists_key part name hpart
    exact List.mem_map.2 ⟨key, hkey, hname⟩

/-- No two parts have one key. -/
theorem Layout.IsDecodedBy.part_eq (h : layout.IsDecodedBy keys) (hformat : format.IsKeyed keys)
    {part other : ι} {name : String} (hpart : layout.key? part = some name)
    (hother : layout.key? other = some name)
    : part = other := by
  obtain ⟨key, hkey, rfl, hname⟩ := h.exists_key part name hpart
  obtain ⟨otherKey, hotherKey, rfl, hotherName⟩ := h.exists_key other name hother
  have hsame := List.inj_on_of_nodup_map hformat.names hkey hotherKey (hname.trans hotherName.symm)
  rw [hsame]

theorem Layout.WritesRecord.nil (layout : Layout parts) (blank : ρ)
    : layout.WritesRecord blank [] blank :=
  ⟨.nil, nofun, nofun, fun _ _ => rfl⟩

/-- One more member writes one more part. -/
theorem Layout.WritesRecord.cons {blank : ρ} (hwrites : layout.WritesRecord blank members record)
    (hformat : format.IsKeyed keys) (hlayout : layout.IsDecodedBy keys) (part : ι)
    (value : parts.Value part) {name : String} {draft : Draft}
    (hname : layout.key? part = some name) (hfresh : name ∉ members.map (·.1))
    (hvalue : layout.WritesPart part draft value)
    : layout.WritesRecord blank ((name, draft) :: members) (parts.put part value record) := by
  constructor
  case distinct => exact List.nodup_cons.2 ⟨hfresh, hwrites.distinct⟩
  case known =>
    intro other hother
    rcases List.mem_cons.1 hother with rfl | hother
    · exact ⟨part, hname⟩
    · exact hwrites.known other hother
  case written =>
    intro other otherName otherDraft hotherName hmem
    rw [parts.get_put]
    rcases List.mem_cons.1 hmem with heq | hmem
    · obtain ⟨rfl, rfl⟩ := Prod.mk.inj heq
      obtain rfl := hlayout.part_eq hformat hotherName hname
      rwa [Function.update_self]
    · have hother : other ≠ part := by
        rintro rfl
        obtain rfl := Option.some.inj (hname.symm.trans hotherName)
        exact hfresh (List.mem_map_of_mem hmem)
      rw [Function.update_of_ne hother]
      exact hwrites.written other otherName otherDraft hotherName hmem
  case left =>
    intro other hleft
    have hother : other ≠ part := by
      rintro rfl
      exact hleft name hname List.mem_cons_self
    rw [parts.get_put, Function.update_of_ne hother]
    exact hwrites.left other fun otherName hotherName hmem =>
      hleft otherName hotherName (List.mem_cons_of_mem _ hmem)

/-- A record that is written is decoded, if nothing is missing that is required. -/
theorem Layout.WritesRecord.decoder_eq_ok
    (hwrites : layout.WritesRecord format.blank members record)
    (hformat : format.IsKeyed keys) (hlayout : layout.IsDecodedBy keys)
    (hrequired : ∀ key ∈ keys, key.presence = .required → key.name ∈ members.map (·.1))
    : format.decoder (.object (.ofList members)) = .ok record := by
  refine hformat.decoder_eq_ok_iff.2 ?_
  constructor
  case distinct => exact hwrites.distinct
  case unseen => exact fun _ _ => List.not_mem_nil
  case known => exact fun name hname => hlayout.mem_names_iff.2 (hwrites.known name hname)
  case required => exact fun key hkey hpresence => .inr (hrequired key hkey hpresence)
  case written =>
    intro key hkey draft hmem
    refine hlayout.decode_eq key hkey draft _ ?_
    exact hwrites.written key.part key.name draft (hlayout.key_eq key hkey) hmem
  case left =>
    intro part hleft
    refine hwrites.left part fun name hname => ?_
    obtain ⟨key, hkey, hpart, rfl⟩ := hlayout.exists_key part name hname
    exact hleft key hkey hpart

end MongoConfig.Json
