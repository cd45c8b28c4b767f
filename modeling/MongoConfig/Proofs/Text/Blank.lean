import Mathlib.Data.List.DropRight
import MongoConfig.Text.Blank
import MongoConfig.Text.Split
/-! Texts that trimming leaves as they are: those with no blank at either end. -/

namespace MongoConfig.Text

/-- Neither the first nor the last character is a blank. -/
structure Trimmed (text : List Char) : Prop where
  first : ∀ c ∈ text.head?, isBlank c = false
  last : ∀ c ∈ text.getLast?, isBlank c = false

/-- The graphic characters of ASCII are no blanks. -/
theorem isBlank_of_graphic {c : Char} (h : 0x20 < c.toNat ∧ c.toNat < 0x7F)
    : isBlank c = false := by
  simp only [isBlank, blankRuns, List.any_cons, List.any_nil, Bool.or_false,
    Bool.or_eq_false_iff, Bool.and_eq_false_iff, decide_eq_false_iff_not]
  omega

theorem trimEnd_eq_rdropWhile (text : List Char) : trimEnd text = text.rdropWhile isBlank :=
  rfl

theorem trimStart_eq_self_iff {text : List Char}
    : trimStart text = text ↔ ∀ c ∈ text.head?, isBlank c = false := by
  cases text with
  | nil => simp
  | cons c rest => simp [trimStart, List.dropWhile_eq_self_iff]

theorem trimEnd_eq_self_iff {text : List Char}
    : trimEnd text = text ↔ ∀ c ∈ text.getLast?, isBlank c = false := by
  rw [trimEnd_eq_rdropWhile, List.rdropWhile_eq_self_iff]
  cases hlast : text.getLast? with
  | none => simp [List.getLast?_eq_none_iff.1 hlast]
  | some c =>
      obtain ⟨front, rfl⟩ := List.getLast?_eq_some_iff.1 hlast
      simp

/-- A text that is left as it is lost nothing on either side, for both cuts only shorten. -/
theorem trim_eq_self_iff {text : List Char} : trim text = text ↔ Trimmed text := by
  constructor
  · intro h
    have hend : trim text <+: trimStart text := List.rdropWhile_prefix isBlank _
    have hstart : trimStart text <:+ text := List.dropWhile_suffix isBlank
    rw [h] at hend
    have hsame : trimStart text = text := hstart.eq_of_length_le hend.length_le
    rw [trim, hsame] at h
    exact ⟨trimStart_eq_self_iff.1 hsame, trimEnd_eq_self_iff.1 h⟩
  · intro h
    rw [trim, trimStart_eq_self_iff.2 h.first, trimEnd_eq_self_iff.2 h.last]

theorem trim_of_trimmed {text : List Char} (h : Trimmed text) : trim text = text :=
  trim_eq_self_iff.2 h

/-- What trimming leaves has no blank at its ends; cutting at the end leaves the start alone. -/
theorem trimmed_trim (text : List Char) : Trimmed (trim text) := by
  constructor
  · have hstart : trimStart (trimStart text) = trimStart text :=
      List.dropWhile_idempotent isBlank text
    obtain ⟨blanks, hblanks⟩ : trim text <+: trimStart text := List.rdropWhile_prefix isBlank _
    intro c hc
    refine trimStart_eq_self_iff.1 hstart c ?_
    rw [← hblanks, List.head?_append, hc]
    rfl
  · exact trimEnd_eq_self_iff.1 (List.rdropWhile_idempotent isBlank (trimStart text))

theorem trim_trim (text : List Char) : trim (trim text) = trim text :=
  trim_of_trimmed (trimmed_trim text)

theorem mem_of_mem_trimEnd {text : List Char} {c : Char} (h : c ∈ trimEnd text) : c ∈ text := by
  have hend : trimEnd text <+: text := List.rdropWhile_prefix isBlank _
  exact hend.subset h

theorem mem_of_mem_trim {text : List Char} {c : Char} (h : c ∈ trim text) : c ∈ text := by
  have hstart : trimStart text <:+ text := List.dropWhile_suffix isBlank
  exact hstart.subset (mem_of_mem_trimEnd h)

/-- Trimming takes nothing but blanks. -/
theorem mem_trim_iff {text : List Char} {c : Char} (h : isBlank c = false)
    : c ∈ trim text ↔ c ∈ text := by
  refine ⟨mem_of_mem_trim, fun hmem => ?_⟩
  have hkept {cut : List Char} (hcut : c ∈ cut) : c ∈ cut.dropWhile isBlank := by
    rw [← List.takeWhile_append_dropWhile (p := isBlank) (l := cut), List.mem_append] at hcut
    rcases hcut with hcut | hcut
    · rw [List.mem_takeWhile_imp hcut] at h
      cases h
    · exact hcut
  exact List.mem_reverse.2 (hkept (List.mem_reverse.2 (hkept hmem)))

/-- A text that does not start with a blank starts as before. -/
theorem head?_trim {text : List Char} (h : ∀ c ∈ text.head?, isBlank c = false)
    : (trim text).head? = text.head? := by
  rw [trim, trimStart_eq_self_iff.2 h, trimEnd_eq_rdropWhile]
  cases text with
  | nil => rfl
  | cons c rest =>
      obtain ⟨blanks, hblanks⟩ := List.rdropWhile_prefix isBlank (c :: rest)
      cases hleft : (c :: rest).rdropWhile isBlank with
      | nil =>
          have hall := List.rdropWhile_eq_nil_iff.1 hleft c List.mem_cons_self
          rw [h c rfl] at hall
          cases hall
      | cons d others =>
          rw [hleft] at hblanks
          exact congrArg some (List.cons.inj hblanks).1

/-- Blanks are cut off in front of a sign that is no blank. -/
theorem trimStart_append_cons {sign : Char} (hsign : isBlank sign = false)
    (front back : List Char)
    : trimStart (front ++ sign :: back) = trimStart front ++ sign :: back := by
  rw [trimStart, trimStart, List.dropWhile_append]
  split
  · rename_i hblank
    rw [List.isEmpty_iff.1 hblank, List.dropWhile_cons_of_neg (by simp [hsign]), List.nil_append]
  · rfl

/-- Blanks are cut off behind a sign that is no blank. -/
theorem trimEnd_append_cons {sign : Char} (hsign : isBlank sign = false)
    (front back : List Char)
    : trimEnd (front ++ sign :: back) = front ++ sign :: trimEnd back := by
  have hreverse : (front ++ sign :: back).reverse = back.reverse ++ sign :: front.reverse := by
    simp
  have hstart := trimStart_append_cons hsign back.reverse front.reverse
  rw [trimEnd, hreverse, ← trimStart, hstart]
  simp [trimEnd, trimStart]

/-- Trimming stops at a sign that is no blank. -/
theorem trim_append_cons {sign : Char} (hsign : isBlank sign = false) (front back : List Char)
    : trim (front ++ sign :: back) = trimStart front ++ sign :: trimEnd back := by
  rw [trim, trimStart_append_cons hsign, trimEnd_append_cons hsign]

/-- The ends of a joined text are the outer ends of its two parts. -/
theorem Trimmed.append {front back : List Char} (hfront : front ≠ [])
    (hfirst : ∀ c ∈ front.head?, isBlank c = false) (hback : back ≠ [])
    (hlast : ∀ c ∈ back.getLast?, isBlank c = false)
    : Trimmed (front ++ back) := by
  constructor
  · rw [List.head?_append_of_ne_nil _ hfront]
    exact hfirst
  · rw [List.getLast?_append_of_ne_nil _ hback]
    exact hlast

/-- A text with a part after a sign ends as the part does, or else with the sign. -/
theorem isBlank_getLast?_append_cons {sign : Char} {text : List Char}
    (hsign : isBlank sign = false) (htext : ∀ c ∈ text.getLast?, isBlank c = false)
    (front : List Char)
    : ∀ c ∈ (front ++ sign :: text).getLast?, isBlank c = false := by
  rw [List.getLast?_append_of_ne_nil _ (List.cons_ne_nil sign text), List.getLast?_cons]
  cases hlast : text.getLast? with
  | none => simpa using hsign
  | some c => simpa using htext c hlast

/-- A text with one more part ends as that part does, or else as before. -/
theorem isBlank_getLast?_afterSign {front : List Char} {sign : Char}
    {part : Option (List Char)}
    (hfront : ∀ c ∈ front.getLast?, isBlank c = false) (hsign : isBlank sign = false)
    (hpart : ∀ text ∈ part, ∀ c ∈ text.getLast?, isBlank c = false)
    : ∀ c ∈ (front ++ afterSign sign part).getLast?, isBlank c = false := by
  cases part with
  | none => simpa [afterSign] using hfront
  | some text => exact isBlank_getLast?_append_cons hsign (hpart text rfl) front

end MongoConfig.Text
