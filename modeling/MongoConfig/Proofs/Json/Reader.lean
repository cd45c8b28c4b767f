import Mathlib.Data.List.DropRight
import MongoConfig.Json.Decoder
import MongoConfig.Proofs.Json.NumberText
import MongoConfig.Proofs.Json.StringText
/-! Whatever is written by the grammar is read as what it writes.
Values are read up to the white space after them, for that is skipped by whatever comes next. Each
step of the reader either takes a character or hands the text on, and only a few steps hand it on in
a row; so four steps for each character are enough.
-/

namespace MongoConfig.Json

-----------------------------------------------------------------------------------------
-- White space
-----------------------------------------------------------------------------------------

theorem isSpace_eq_true_iff {c : Char} : isSpace c = true ↔ c ∈ [' ', '\t', '\n', '\r'] := by
  simp only [isSpace, Bool.or_eq_true, decide_eq_true_eq, List.mem_cons, List.not_mem_nil,
    or_false]
  tauto

theorem skipSpace_append {gap : List Char} (hgap : IsGap gap) (text : List Char)
    : skipSpace (gap ++ text) = skipSpace text :=
  List.dropWhile_append_of_pos fun c hc => isSpace_eq_true_iff.2 (hgap c hc)

theorem skipSpace_cons {c : Char} (h : isSpace c = false) (text : List Char)
    : skipSpace (c :: text) = c :: text :=
  List.dropWhile_cons_of_neg (ne_true_of_eq_false h)

theorem skipSpace_append_cons {gap : List Char} (hgap : IsGap gap) {c : Char}
    (hc : isSpace c = false) (text : List Char)
    : skipSpace (gap ++ c :: text) = c :: text := by
  rw [skipSpace_append hgap, skipSpace_cons hc]

theorem skipSpace_skipSpace (text : List Char) : skipSpace (skipSpace text) = skipSpace text :=
  List.dropWhile_idempotent _ text

theorem readFrom_skipSpace (fuel depth : Nat) (text : List Char)
    : Draft.readFrom fuel depth (skipSpace text) = Draft.readFrom fuel depth text := by
  cases fuel with
  | zero => rfl
  | succ fuel => rw [Draft.readFrom, Draft.readFrom, skipSpace_skipSpace]

theorem readItem_skipSpace (fuel depth : Nat) (text : List Char)
    : DraftItems.readItem fuel depth (skipSpace text) = DraftItems.readItem fuel depth text := by
  cases fuel with
  | zero => rfl
  | succ fuel => rw [DraftItems.readItem, DraftItems.readItem, readFrom_skipSpace]

theorem endsNumber_cons {c : Char} (h : continuesNumber c = false) (rest : List Char)
    : EndsNumber (c :: rest) := by
  intro first hfirst
  obtain rfl := Option.some.inj hfirst
  exact h

/-- White space does not go on with a number. -/
theorem EndsNumber.append_of_isGap {rest : List Char} (hrest : EndsNumber rest)
    {gap : List Char} (hgap : IsGap gap)
    : EndsNumber (gap ++ rest) := by
  cases gap with
  | nil => exact hrest
  | cons c gap =>
      refine endsNumber_cons ?_ _
      have hspace := hgap c List.mem_cons_self
      simp only [List.mem_cons, List.not_mem_nil, or_false] at hspace
      rcases hspace with rfl | rfl | rfl | rfl <;> decide

-----------------------------------------------------------------------------------------
-- Numbers
-----------------------------------------------------------------------------------------

theorem ne_of_isDigit {c other : Char} (hdigit : c.isDigit = true) (hother : other.isDigit = false)
    : c ≠ other := by
  rintro rfl
  rw [hother] at hdigit
  cases hdigit

theorem isSpace_of_isDigit {c : Char} (h : c.isDigit = true) : isSpace c = false := by
  simp [isSpace, ne_of_isDigit h]

/-- A digit starts a number and nothing else. -/
theorem readFrom_of_startsWithDigit {text : List Char} (h : startsWithDigit text = true)
    (fuel depth : Nat)
    : Draft.readFrom (fuel + 1) depth text = Draft.ofNumber false text := by
  cases text with
  | nil => cases h
  | cons c text =>
      have hdigit : c.isDigit = true := h
      rw [Draft.readFrom, skipSpace_cons (isSpace_of_isDigit hdigit)]
      dsimp only
      rw [if_neg (ne_of_isDigit hdigit (by decide)), if_neg (ne_of_isDigit hdigit (by decide)),
        if_neg (ne_of_isDigit hdigit (by decide)), if_neg (ne_of_isDigit hdigit (by decide)),
        if_pos hdigit]

theorem ofNumber_of_magnitudeText {isNegative : Bool} {number : Number} {text : List Char}
    (h : MagnitudeText isNegative number text) {rest : List Char} (hrest : EndsNumber rest)
    : Draft.ofNumber isNegative (text ++ rest) = (.number number, rest) := by
  rw [Draft.ofNumber, readNumber_of_magnitudeText h hrest]

theorem readFrom_of_numberText {number : Number} {text : List Char} (h : NumberText number text)
    {rest : List Char} (hrest : EndsNumber rest) (fuel depth : Nat)
    : Draft.readFrom (fuel + 1) depth (text ++ rest) = (.number number, rest) := by
  cases h with
  | positive hmagnitude =>
      rw [readFrom_of_startsWithDigit (hmagnitude.startsWithDigit rest)]
      exact ofNumber_of_magnitudeText hmagnitude hrest
  | negative hmagnitude => exact ofNumber_of_magnitudeText hmagnitude hrest

-----------------------------------------------------------------------------------------
-- Rule by rule
-----------------------------------------------------------------------------------------

/-- After white space the text starts with a character that does not close an array. -/
def StartsValue (text : List Char) : Prop :=
  ∃ c tail, skipSpace text = c :: tail ∧ c ≠ ']'

/-- In front of anything that does not go on with a number, the value is read and nothing but white
space after it is left. -/
structure ReadsValue (depth : Nat) (draft : Draft) (text : List Char) : Prop where
  starts : ∀ rest, StartsValue (text ++ rest)
  reads : ∀ rest, EndsNumber rest → ∀ fuel, 4 * text.length ≤ fuel →
    ∃ left, Draft.readFrom (fuel + 1) depth (text ++ rest) = (draft, left)
      ∧ skipSpace left = skipSpace rest

/-- The items are read together with the bracket that closes the array. -/
structure ReadsItems (depth : Nat) (items : DraftItems) (text : List Char) : Prop where
  starts : ∀ rest, StartsValue (text ++ rest)
  reads : ∀ rest fuel, 4 * text.length ≤ fuel →
    DraftItems.readItem (fuel + 2) depth (text ++ ']' :: rest) = (items, rest)

/-- The members are read together with the brace that closes the object. -/
structure ReadsMembers (depth : Nat) (members : DraftMembers) (text : List Char) : Prop where
  starts : ∀ rest, ∃ tail, skipSpace (text ++ rest) = '"' :: tail
  reads : ∀ rest fuel, 4 * text.length ≤ fuel →
    DraftMembers.readMember (fuel + 2) depth (skipSpace (text ++ '\x7d' :: rest))
      = (members, rest)

theorem readsValue_null {depth : Nat} : ReadsValue depth .null ['n', 'u', 'l', 'l'] :=
  ⟨fun _ => ⟨_, _, rfl, by decide⟩, fun rest _ _ _ => ⟨rest, rfl, rfl⟩⟩

theorem readsValue_yes {depth : Nat} : ReadsValue depth (.bool true) ['t', 'r', 'u', 'e'] :=
  ⟨fun _ => ⟨_, _, rfl, by decide⟩, fun rest _ _ _ => ⟨rest, rfl, rfl⟩⟩

theorem readsValue_no {depth : Nat} : ReadsValue depth (.bool false) ['f', 'a', 'l', 's', 'e'] :=
  ⟨fun _ => ⟨_, _, rfl, by decide⟩, fun rest _ _ _ => ⟨rest, rfl, rfl⟩⟩

theorem readsValue_number {depth : Nat} {number : Number} {text : List Char}
    (h : NumberText number text)
    : ReadsValue depth (.number number) text := by
  constructor
  case starts =>
    intro rest
    cases h with
    | positive hmagnitude =>
        have hstarts := hmagnitude.startsWithDigit rest
        cases htext : text ++ rest with
        | nil =>
            rw [htext] at hstarts
            cases hstarts
        | cons c tail =>
            rw [htext] at hstarts
            exact ⟨c, tail, skipSpace_cons (isSpace_of_isDigit hstarts) _,
              ne_of_isDigit hstarts (by decide)⟩
    | negative => exact ⟨_, _, rfl, by decide⟩
  case reads =>
    intro rest hrest fuel _
    exact ⟨rest, readFrom_of_numberText h hrest fuel depth, rfl⟩

theorem readsValue_string {depth : Nat} {chars text : List Char} (h : StringText chars text)
    : ReadsValue depth (.string (String.ofList chars)) ('"' :: text ++ ['"']) := by
  constructor
  case starts => exact fun rest => ⟨_, _, rfl, by decide⟩
  case reads =>
    intro rest _ fuel _
    have hstring
        : Draft.readFrom (fuel + 1) depth ('"' :: text ++ ['"'] ++ rest)
          = Draft.ofString (text ++ ['"'] ++ rest) :=
      rfl
    refine ⟨rest, ?_, rfl⟩
    rw [hstring, Draft.ofString, List.append_assoc, List.singleton_append,
      readString_of_stringText h]

/-- A bracket opens an array, as long as the depth allows. -/
theorem readFrom_array (fuel depth : Nat) (text : List Char)
    : Draft.readFrom (fuel + 1) (depth + 1) ('[' :: text)
      = (DraftItems.readFirst fuel depth text).map .array id :=
  rfl

theorem readFrom_object (fuel depth : Nat) (text : List Char)
    : Draft.readFrom (fuel + 1) (depth + 1) ('\x7b' :: text)
      = (DraftMembers.readFrom fuel depth true text).map .object id :=
  rfl

theorem readsValue_emptyArray {depth : Nat} {gap : List Char} (hgap : IsGap gap)
    : ReadsValue (depth + 1) (.array .closed) ('[' :: gap ++ [']']) := by
  constructor
  case starts => exact fun rest => ⟨_, _, rfl, by decide⟩
  case reads =>
    intro rest _ fuel hfuel
    obtain ⟨fuel, rfl⟩ := Nat.exists_eq_add_of_le' (show 1 ≤ fuel by simp at hfuel; omega)
    refine ⟨rest, ?_, rfl⟩
    rw [List.append_assoc, List.cons_append, readFrom_array, DraftItems.readFirst,
      List.singleton_append, skipSpace_append_cons hgap (by decide)]
    rfl

theorem readFirst_of_startsValue {text : List Char} (h : StartsValue text) (fuel depth : Nat)
    : DraftItems.readFirst (fuel + 1) depth text = DraftItems.readItem fuel depth text := by
  obtain ⟨c, tail, hskip, hc⟩ := h
  rw [← readItem_skipSpace, DraftItems.readFirst, hskip]
  split
  · rename_i heq
    cases heq
  · rename_i heq
    exact absurd (List.cons.inj heq).1 hc
  · rfl

theorem readsValue_array {depth : Nat} {items : DraftItems} {text : List Char}
    (h : ReadsItems depth items text)
    : ReadsValue (depth + 1) (.array items) ('[' :: text ++ [']']) := by
  constructor
  case starts => exact fun rest => ⟨_, _, rfl, by decide⟩
  case reads =>
    intro rest _ fuel hfuel
    simp only [List.length_append, List.length_cons, List.length_nil] at hfuel
    obtain ⟨fuel, rfl⟩ := Nat.exists_eq_add_of_le' (show 3 ≤ fuel by omega)
    refine ⟨rest, ?_, rfl⟩
    rw [List.cons_append, List.cons_append, readFrom_array, List.append_assoc,
      readFirst_of_startsValue (h.starts _), List.singleton_append, h.reads rest fuel (by omega)]
    rfl

/-- A closed object, when nothing but white space is left before its brace. -/
theorem readFrom_closed {text rest : List Char} (h : skipSpace text = '\x7d' :: rest)
    (fuel depth : Nat) (isFirst : Bool)
    : DraftMembers.readFrom (fuel + 1) depth isFirst text = (.closed, rest) := by
  rw [DraftMembers.readFrom, h]
  rfl

theorem readFrom_first {text tail : List Char} (h : skipSpace text = '"' :: tail)
    (fuel depth : Nat)
    : DraftMembers.readFrom (fuel + 1) depth true text
      = DraftMembers.readMember fuel depth (skipSpace text) := by
  rw [DraftMembers.readFrom, h]
  rfl

theorem readFrom_comma {text rest : List Char} (h : skipSpace text = ',' :: rest)
    (fuel depth : Nat)
    : DraftMembers.readFrom (fuel + 1) depth false text
      = DraftMembers.readMember fuel depth (skipSpace rest) := by
  rw [DraftMembers.readFrom, h]
  rfl

theorem readsValue_emptyObject {depth : Nat} {gap : List Char} (hgap : IsGap gap)
    : ReadsValue (depth + 1) (.object .closed) ('\x7b' :: gap ++ ['\x7d']) := by
  constructor
  case starts => exact fun rest => ⟨_, _, rfl, by decide⟩
  case reads =>
    intro rest _ fuel hfuel
    simp only [List.length_append, List.length_cons, List.length_nil] at hfuel
    obtain ⟨fuel, rfl⟩ := Nat.exists_eq_add_of_le' (show 1 ≤ fuel by omega)
    refine ⟨rest, ?_, rfl⟩
    rw [List.append_assoc, List.cons_append, readFrom_object, List.singleton_append,
      readFrom_closed (skipSpace_append_cons hgap (by decide) rest)]
    rfl

theorem readsValue_object {depth : Nat} {members : DraftMembers} {text : List Char}
    (h : ReadsMembers depth members text)
    : ReadsValue (depth + 1) (.object members) ('\x7b' :: text ++ ['\x7d']) := by
  constructor
  case starts => exact fun rest => ⟨_, _, rfl, by decide⟩
  case reads =>
    intro rest _ fuel hfuel
    simp only [List.length_append, List.length_cons, List.length_nil] at hfuel
    obtain ⟨fuel, rfl⟩ := Nat.exists_eq_add_of_le' (show 3 ≤ fuel by omega)
    refine ⟨rest, ?_, rfl⟩
    obtain ⟨tail, hskip⟩ := h.starts (['\x7d'] ++ rest)
    rw [List.cons_append, List.cons_append, readFrom_object, List.append_assoc,
      readFrom_first hskip, List.singleton_append, h.reads rest fuel (by omega)]
    rfl

theorem readsValue_spaced {depth : Nat} {draft : Draft} {before text after : List Char}
    (hbefore : IsGap before) (h : ReadsValue depth draft text) (hafter : IsGap after)
    : ReadsValue depth draft (before ++ text ++ after) := by
  have hassoc (rest : List Char)
      : before ++ text ++ after ++ rest = before ++ (text ++ (after ++ rest)) := by
    simp only [List.append_assoc]
  constructor
  case starts =>
    intro rest
    rw [hassoc, StartsValue, skipSpace_append hbefore]
    exact h.starts _
  case reads =>
    intro rest hrest fuel hfuel
    rw [List.length_append, List.length_append] at hfuel
    obtain ⟨left, hread, hleft⟩ :=
      h.reads (after ++ rest) (hrest.append_of_isGap hafter) fuel (by omega)
    refine ⟨left, ?_, ?_⟩
    · rw [hassoc, ← readFrom_skipSpace, skipSpace_append hbefore, readFrom_skipSpace, hread]
    · rw [hleft, skipSpace_append hafter]

-----------------------------------------------------------------------------------------
-- Items
-----------------------------------------------------------------------------------------

theorem readsItems_last {depth : Nat} {draft : Draft} {text : List Char}
    (h : ReadsValue depth draft text)
    : ReadsItems depth (.item draft .closed) text := by
  constructor
  case starts => exact h.starts
  case reads =>
    intro rest fuel hfuel
    obtain ⟨left, hread, hleft⟩ :=
      h.reads (']' :: rest) (endsNumber_cons (by decide) rest) fuel hfuel
    have hskip : skipSpace left = ']' :: rest := hleft
    rw [DraftItems.readItem, hread]
    dsimp only
    rw [DraftItems.readNext, hskip]
    rfl

theorem readsItems_item {depth : Nat} {draft : Draft} {items : DraftItems}
    {text more : List Char} (h : ReadsValue depth draft text)
    (hmore : ReadsItems depth items more)
    : ReadsItems depth (.item draft items) (text ++ ',' :: more) := by
  constructor
  case starts =>
    intro rest
    rw [List.append_assoc]
    exact h.starts _
  case reads =>
    intro rest fuel hfuel
    simp only [List.length_append, List.length_cons] at hfuel
    obtain ⟨fuel, rfl⟩ := Nat.exists_eq_add_of_le' (show 2 ≤ fuel by omega)
    obtain ⟨left, hread, hleft⟩ :=
      h.reads (',' :: (more ++ ']' :: rest)) (endsNumber_cons (by decide) _) (fuel + 2) (by omega)
    have hskip : skipSpace left = ',' :: (more ++ ']' :: rest) := hleft
    rw [List.append_assoc, List.cons_append, DraftItems.readItem, hread]
    dsimp only
    have hnext
        : DraftItems.readNext (fuel + 3) depth left
          = DraftItems.readItem (fuel + 2) depth (more ++ ']' :: rest) := by
      rw [DraftItems.readNext, hskip]
      rfl
    rw [hnext, hmore.reads rest fuel (by omega)]

-----------------------------------------------------------------------------------------
-- Members
-----------------------------------------------------------------------------------------

theorem KeyText.skipSpace_append {name : String} {key : List Char} (h : KeyText name key)
    (rest : List Char)
    : ∃ tail, skipSpace (key ++ rest) = '"' :: tail := by
  cases h with
  | mk hbefore _ _ =>
      rw [List.append_assoc, List.append_assoc]
      exact ⟨_, skipSpace_append_cons hbefore (by decide) _⟩

/-- A key is read up to its colon; then come the value and the other members. -/
theorem readMember_of_keyText {name : String} {key : List Char} (h : KeyText name key)
    (fuel depth : Nat) (rest : List Char)
    : DraftMembers.readMember (fuel + 1) depth (skipSpace (key ++ ':' :: rest))
      = let (value, rest) := Draft.readFrom fuel depth rest
        let (members, rest) := DraftMembers.readFrom fuel depth false rest
        (.member name value members, rest) := by
  cases h with
  | @mk chars before text after hbefore hchars hafter =>
      have hskip
          : skipSpace (before ++ '"' :: text ++ '"' :: after ++ ':' :: rest)
            = '"' :: (text ++ '"' :: (after ++ ':' :: rest)) := by
        simp only [List.append_assoc, List.cons_append]
        exact skipSpace_append_cons hbefore (by decide) _
      have hcolon : skipColon (after ++ ':' :: rest) = .ok rest := by
        rw [skipColon, skipSpace_append_cons hafter (by decide)]
        rfl
      rw [hskip, DraftMembers.readMember, readString_of_stringText hchars]
      dsimp only
      rw [hcolon]

theorem readsMembers_last {depth : Nat} {name : String} {draft : Draft} {key text : List Char}
    (hkey : KeyText name key) (h : ReadsValue depth draft text)
    : ReadsMembers depth (.member name draft .closed) (key ++ ':' :: text) := by
  constructor
  case starts =>
    intro rest
    rw [List.append_assoc]
    exact hkey.skipSpace_append _
  case reads =>
    intro rest fuel hfuel
    simp only [List.length_append, List.length_cons] at hfuel
    obtain ⟨left, hread, hleft⟩ :=
      h.reads ('\x7d' :: rest) (endsNumber_cons (by decide) rest) fuel (by omega)
    have hskip : skipSpace left = '\x7d' :: rest := hleft
    rw [List.append_assoc, List.cons_append, readMember_of_keyText hkey, hread]
    dsimp only
    rw [readFrom_closed hskip]

theorem readsMembers_member {depth : Nat} {name : String} {draft : Draft}
    {members : DraftMembers} {key text more : List Char} (hkey : KeyText name key)
    (h : ReadsValue depth draft text) (hmore : ReadsMembers depth members more)
    : ReadsMembers depth (.member name draft members) (key ++ ':' :: text ++ ',' :: more) := by
  constructor
  case starts =>
    intro rest
    rw [List.append_assoc, List.append_assoc]
    exact hkey.skipSpace_append _
  case reads =>
    intro rest fuel hfuel
    simp only [List.length_append, List.length_cons] at hfuel
    obtain ⟨fuel, rfl⟩ := Nat.exists_eq_add_of_le' (show 2 ≤ fuel by omega)
    obtain ⟨left, hread, hleft⟩ :=
      h.reads (',' :: (more ++ '\x7d' :: rest)) (endsNumber_cons (by decide) _) (fuel + 2)
        (by omega)
    have hskip : skipSpace left = ',' :: (more ++ '\x7d' :: rest) := hleft
    have hassoc
        : key ++ ':' :: text ++ ',' :: more ++ '\x7d' :: rest
          = key ++ ':' :: (text ++ ',' :: (more ++ '\x7d' :: rest)) := by
      simp only [List.append_assoc, List.cons_append]
    rw [hassoc, readMember_of_keyText hkey, hread]
    dsimp only
    rw [readFrom_comma hskip, hmore.reads rest fuel (by omega)]

-----------------------------------------------------------------------------------------
-- Documents
-----------------------------------------------------------------------------------------

/-- Every value that is written is read, by induction on the rules of the grammar. -/
theorem readsValue_of_valueText {depth : Nat} {draft : Draft} {text : List Char}
    (h : ValueText depth draft text)
    : ReadsValue depth draft text :=
  @ValueText.rec (fun depth draft text _ => ReadsValue depth draft text)
    (fun depth items text _ => ReadsItems depth items text)
    (fun depth members text _ => ReadsMembers depth members text)
    readsValue_null readsValue_yes readsValue_no readsValue_number readsValue_string
    readsValue_emptyArray (fun _ => readsValue_array) readsValue_emptyObject
    (fun _ => readsValue_object) (fun hbefore _ hafter h => readsValue_spaced hbefore h hafter)
    (fun _ => readsItems_last) (fun _ _ => readsItems_item)
    (fun hkey _ => readsMembers_last hkey) (fun hkey _ _ => readsMembers_member hkey)
    depth draft text h

/-- A document is read as what it writes, with nothing left over. -/
theorem Document.read_of_documentText {draft : Draft} {text : String}
    (h : DocumentText draft text)
    : Document.read text = { draft, hasTrailingText := false } := by
  obtain ⟨left, hread, hleft⟩ :=
    (readsValue_of_valueText h).reads [] nofun (4 * text.toList.length + 3) (by omega)
  rw [List.append_nil] at hread
  rw [Document.read, hread]
  dsimp only
  rw [hleft]
  rfl

theorem decodeText_of_documentText {α : Type} {decode : Decoder α} {draft : Draft}
    {text : String} (h : DocumentText draft text)
    : decodeText decode text = decode draft := by
  rw [decodeText, Document.read_of_documentText h]
  dsimp only
  cases decode draft with
  | error problem => rfl
  | ok value => rfl

end MongoConfig.Json
