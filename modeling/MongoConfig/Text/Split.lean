/-! Cutting a text at a separator.
`cutFirst` and `cutLast` cut once, `pieces` cuts everywhere. Each comes with the equation that
says what was cut: the separator stands between the two parts and not in the part that was
searched.
-/

namespace MongoConfig.Text

/-- What stands before and after the first `separator`. -/
def cutFirst (separator : Char) : List Char → Option (List Char × List Char)
  | [] => none
  | c :: rest =>
      if c = separator then
        some ([], rest)
      else
        (cutFirst separator rest).map fun cut => (c :: cut.1, cut.2)

/-- What stands before and after the last `separator`. -/
def cutLast (separator : Char) : List Char → Option (List Char × List Char)
  | [] => none
  | c :: rest =>
      match cutLast separator rest with
      | some cut => some (c :: cut.1, cut.2)
      | none => if c = separator then some ([], rest) else none

/-- Puts a character in front of the first piece. -/
def extendFirst (c : Char) : List (List Char) → List (List Char)
  | [] => [[c]]
  | piece :: rest => (c :: piece) :: rest

/-- The parts between separators; a text without one is a single piece. -/
def pieces (separator : Char) : List Char → List (List Char)
  | [] => [[]]
  | c :: rest =>
      if c = separator then
        [] :: pieces separator rest
      else
        extendFirst c (pieces separator rest)

/-- The text with `start` taken off its front, if it begins so. -/
def stripStart? : List Char → List Char → Option (List Char)
  | [], text => some text
  | _ :: _, [] => none
  | c :: start, d :: text => if c = d then stripStart? start text else none

/-- A part after its sign; without the part there is no sign. -/
def afterSign (sign : Char) : Option (List Char) → List Char
  | some part => sign :: part
  | none => []

theorem cutFirst_eq_none_iff {separator : Char} {text : List Char}
    : cutFirst separator text = none ↔ separator ∉ text := by
  induction text with
  | nil => simp [cutFirst]
  | cons c rest ih =>
      by_cases h : c = separator
      · simp [cutFirst, h]
      · simp [cutFirst, h, ih, Ne.symm h]

theorem cutFirst_eq_some_iff {separator : Char} {text before after : List Char}
    : cutFirst separator text = some (before, after)
      ↔ text = before ++ separator :: after ∧ separator ∉ before := by
  induction text generalizing before with
  | nil => simp [cutFirst]
  | cons c rest ih =>
      by_cases h : c = separator
      · subst h
        cases before with
        | nil => simp [cutFirst]
        | cons b before =>
            simp only [cutFirst, if_true, Option.some.injEq, Prod.mk.injEq, List.cons_append,
              List.cons.injEq, List.mem_cons, not_or]
            constructor
            · rintro ⟨h, -⟩
              cases h
            · rintro ⟨⟨rfl, -⟩, hne, -⟩
              exact absurd rfl hne
      · cases before with
        | nil => simp [cutFirst, h]
        | cons b before =>
            have hne := Ne.symm h
            simp only [cutFirst, if_neg h, Option.map_eq_some_iff, Prod.mk.injEq, List.cons.injEq,
              List.cons_append, List.mem_cons, not_or]
            constructor
            · rintro ⟨⟨front, back⟩, hcut, ⟨rfl, rfl⟩, rfl⟩
              have := ih.1 hcut
              exact ⟨⟨rfl, this.1⟩, hne, this.2⟩
            · rintro ⟨⟨rfl, hrest⟩, -, hmem⟩
              exact ⟨(before, after), ih.2 ⟨hrest, hmem⟩, ⟨rfl, rfl⟩, rfl⟩

theorem cutLast_eq_none_iff {separator : Char} {text : List Char}
    : cutLast separator text = none ↔ separator ∉ text := by
  induction text with
  | nil => simp [cutLast]
  | cons c rest ih =>
      cases hrest : cutLast separator rest with
      | none =>
          by_cases h : c = separator
          · simp [cutLast, hrest, h]
          · simp [cutLast, hrest, h, Ne.symm h, ih.1 hrest]
      | some cut =>
          have hmem : separator ∈ rest := by
            by_cases h : separator ∈ rest
            · exact h
            · rw [ih.2 h] at hrest
              cases hrest
          simp [cutLast, hrest, hmem]

theorem cutLast_append {separator : Char} {before after : List Char} (h : separator ∉ after)
    : cutLast separator (before ++ separator :: after) = some (before, after) := by
  induction before with
  | nil => simp [cutLast, cutLast_eq_none_iff.2 h]
  | cons c before ih => simp [cutLast, ih]

theorem eq_append_of_cutLast {separator : Char} {text before after : List Char}
    (h : cutLast separator text = some (before, after))
    : text = before ++ separator :: after ∧ separator ∉ after := by
  induction text generalizing before with
  | nil => cases h
  | cons c rest ih =>
      rw [cutLast] at h
      split at h
      · rename_i cut hcut
        cases h
        obtain ⟨hrest, hnot⟩ := ih hcut
        exact ⟨congrArg (c :: ·) hrest, hnot⟩
      · rename_i hnone
        split at h
        · rename_i hc
          cases h
          exact ⟨congrArg (· :: _) hc, cutLast_eq_none_iff.1 hnone⟩
        · cases h

theorem cutFirst_append {separator : Char} {before after : List Char} (h : separator ∉ before)
    : cutFirst separator (before ++ separator :: after) = some (before, after) :=
  cutFirst_eq_some_iff.2 ⟨rfl, h⟩

/-- The text in front of the first separator holds none. -/
theorem cutFirst_fst (separator : Char) (text : List Char)
    : separator ∉ ((cutFirst separator text).getD (text, [])).1
      ∧ ((cutFirst separator text).getD (text, [])).1 ⊆ text := by
  cases hcut : cutFirst separator text with
  | none => exact ⟨cutFirst_eq_none_iff.1 hcut, List.Subset.refl text⟩
  | some cut =>
      obtain ⟨htext, hnot⟩ := cutFirst_eq_some_iff.1 hcut
      refine ⟨hnot, ?_⟩
      rw [htext]
      exact List.subset_append_left _ _

/-- Cutting at a sign finds the part after it, if there is one. -/
theorem cutFirst_afterSign {sign : Char} {front : List Char} (h : sign ∉ front)
    (part : Option (List Char))
    : (cutFirst sign (front ++ afterSign sign part)).getD (front ++ afterSign sign part, [])
      = (front, part.getD []) := by
  cases part with
  | none => simp [afterSign, cutFirst_eq_none_iff.2 h]
  | some part => simp [afterSign, cutFirst_append h]

/-- A front without the separator goes to what stands before the cut. -/
theorem cutFirst_append_of_not_mem {separator : Char} {front : List Char} (h : separator ∉ front)
    (back : List Char)
    : (cutFirst separator (front ++ back)).getD (front ++ back, [])
      = (front ++ ((cutFirst separator back).getD (back, [])).1,
          ((cutFirst separator back).getD (back, [])).2) := by
  cases hcut : cutFirst separator back with
  | none =>
      have hback : separator ∉ back := cutFirst_eq_none_iff.1 hcut
      rw [cutFirst_eq_none_iff.2 fun hmem => (List.mem_append.1 hmem).elim h hback]
      rfl
  | some cut =>
      obtain ⟨rfl, hbefore⟩ := cutFirst_eq_some_iff.1 hcut
      have hnot : separator ∉ front ++ cut.1 := fun hmem =>
        (List.mem_append.1 hmem).elim h hbefore
      rw [← List.append_assoc, cutFirst_append hnot]
      rfl

theorem pieces_ne_nil (separator : Char) (text : List Char) : pieces separator text ≠ [] := by
  cases text with
  | nil => simp [pieces]
  | cons c rest =>
      by_cases h : c = separator
      · simp [pieces, h]
      · cases hp : pieces separator rest <;> simp [pieces, h, hp, extendFirst]

/-- Cutting everywhere commutes with joining two texts by the separator. -/
theorem pieces_append (separator : Char) (front back : List Char)
    : pieces separator (front ++ separator :: back)
      = pieces separator front ++ pieces separator back := by
  induction front with
  | nil => simp [pieces]
  | cons c front ih =>
      by_cases h : c = separator
      · simp [pieces, h, ih]
      · have hne := pieces_ne_nil separator front
        cases hp : pieces separator front with
        | nil => exact absurd hp hne
        | cons piece rest => simp [pieces, h, ih, hp, extendFirst]

theorem pieces_of_not_mem {separator : Char} {text : List Char} (h : separator ∉ text)
    : pieces separator text = [text] := by
  induction text with
  | nil => rfl
  | cons c rest ih =>
      simp only [List.mem_cons, not_or] at h
      simp [pieces, Ne.symm h.1, ih h.2, extendFirst]

/-- Cutting everywhere undoes joining parts that do not hold the separator. -/
theorem pieces_intercalate {separator : Char} {parts : List (List Char)} (hne : parts ≠ [])
    (h : ∀ part ∈ parts, separator ∉ part)
    : pieces separator ([separator].intercalate parts) = parts := by
  induction parts with
  | nil => exact absurd rfl hne
  | cons part rest ih =>
      have hpart := pieces_of_not_mem (h part List.mem_cons_self)
      cases rest with
      | nil => rw [List.intercalate_singleton, hpart]
      | cons next others =>
          have hrest := ih (by simp) fun p hp => h p (List.mem_cons_of_mem part hp)
          rw [List.intercalate_cons_cons, List.append_assoc, List.singleton_append, pieces_append,
            hpart, hrest, List.singleton_append]

/-- Cutting a text that was joined from nonempty parts gives the parts back, even if there were
none. -/
theorem nonempty_pieces_intercalate {separator : Char} {parts : List (List Char)}
    (hne : ∀ part ∈ parts, part ≠ []) (h : ∀ part ∈ parts, separator ∉ part)
    : (pieces separator ([separator].intercalate parts)).filter (!·.isEmpty) = parts := by
  by_cases hnil : parts = []
  · subst hnil
    rfl
  · rw [pieces_intercalate hnil h, List.filter_eq_self]
    intro part hpart
    simpa using hne part hpart

/-- A joined text holds characters of its parts and the separator. -/
theorem mem_of_mem_intercalate {separator c : Char} {parts : List (List Char)}
    (h : c ∈ [separator].intercalate parts)
    : c = separator ∨ ∃ part ∈ parts, c ∈ part := by
  induction parts with
  | nil => simp at h
  | cons part rest ih =>
      cases rest with
      | nil => exact Or.inr ⟨part, List.mem_cons_self, by simpa using h⟩
      | cons next others =>
          rw [List.intercalate_cons_cons, List.mem_append, List.mem_append,
            List.mem_singleton] at h
          rcases h with (h | h) | h
          · exact Or.inr ⟨part, List.mem_cons_self, h⟩
          · exact Or.inl h
          · exact (ih h).imp_right fun ⟨p, hp, hc⟩ => ⟨p, List.mem_cons_of_mem part hp, hc⟩

theorem intercalate_ne_nil (separator : Char) {part : List Char} (h : part ≠ [])
    (rest : List (List Char))
    : [separator].intercalate (part :: rest) ≠ [] := by
  cases rest with
  | nil => simpa using h
  | cons next others => simp [List.intercalate_cons_cons]

/-- A joined text ends as one of its parts does. -/
theorem getLast?_intercalate {separator c : Char} {parts : List (List Char)}
    (hne : ∀ part ∈ parts, part ≠ []) (h : c ∈ ([separator].intercalate parts).getLast?)
    : ∃ part ∈ parts, c ∈ part.getLast? := by
  induction parts with
  | nil => simp at h
  | cons part rest ih =>
      cases rest with
      | nil => exact ⟨part, List.mem_cons_self, by simpa using h⟩
      | cons next others =>
          have hrest : ∀ p ∈ next :: others, p ≠ [] := fun p hp =>
            hne p (List.mem_cons_of_mem part hp)
          have hjoined := intercalate_ne_nil separator (hrest next List.mem_cons_self) others
          rw [List.intercalate_cons_cons, List.getLast?_append,
            Option.or_of_isSome (List.getLast?_isSome.2 hjoined)] at h
          obtain ⟨p, hp, hc⟩ := ih hrest h
          exact ⟨p, List.mem_cons_of_mem part hp, hc⟩

/-- No piece holds the separator. -/
theorem not_mem_of_mem_pieces {separator : Char} {text piece : List Char}
    (h : piece ∈ pieces separator text)
    : separator ∉ piece := by
  induction text generalizing piece with
  | nil =>
      simp only [pieces, List.mem_singleton] at h
      simp [h]
  | cons c rest ih =>
      by_cases hc : c = separator
      · simp only [pieces, if_pos hc, List.mem_cons] at h
        rcases h with rfl | h
        · simp
        · exact ih h
      · cases hp : pieces separator rest with
        | nil => exact absurd hp (pieces_ne_nil separator rest)
        | cons first others =>
            simp only [pieces, if_neg hc, hp, extendFirst, List.mem_cons] at h
            rcases h with rfl | h
            · have := ih (hp ▸ List.mem_cons_self)
              simp [Ne.symm hc, this]
            · exact ih (hp ▸ List.mem_cons_of_mem _ h)

theorem mem_of_mem_pieces {separator c : Char} {text piece : List Char}
    (h : piece ∈ pieces separator text) (hc : c ∈ piece)
    : c ∈ text := by
  induction text generalizing piece with
  | nil =>
      rw [List.mem_singleton.1 h] at hc
      cases hc
  | cons d rest ih =>
      rw [pieces] at h
      split at h
      · rcases List.mem_cons.1 h with rfl | h
        · cases hc
        · exact List.mem_cons_of_mem d (ih h hc)
      · cases hpieces : pieces separator rest with
        | nil => exact absurd hpieces (pieces_ne_nil separator rest)
        | cons first others =>
            rw [hpieces, extendFirst] at h
            rw [hpieces] at ih
            rcases List.mem_cons.1 h with rfl | h
            · rcases List.mem_cons.1 hc with rfl | hc
              · exact List.mem_cons_self
              · exact List.mem_cons_of_mem d (ih List.mem_cons_self hc)
            · exact List.mem_cons_of_mem d (ih (List.mem_cons_of_mem first h) hc)

theorem stripStart?_eq_some_iff {start text rest : List Char}
    : stripStart? start text = some rest ↔ text = start ++ rest := by
  induction start generalizing text with
  | nil => simp [stripStart?]
  | cons c start ih =>
      cases text with
      | nil => simp [stripStart?]
      | cons d text =>
          by_cases h : c = d
          · simp [stripStart?, h, ih]
          · simp [stripStart?, h, Ne.symm h]

/-- What stands in front of a text is not found later for what is added behind a sign. -/
theorem stripStart?_append_cons {start : List Char} {sign : Char} (h : sign ∉ start)
    (text back : List Char)
    : stripStart? start (text ++ sign :: back)
      = (stripStart? start text).map (· ++ sign :: back) := by
  induction start generalizing text with
  | nil => rfl
  | cons c start ih =>
      simp only [List.mem_cons, not_or] at h
      cases text with
      | nil => simp [stripStart?, Ne.symm h.1]
      | cons d text =>
          by_cases hc : c = d
          · simp [stripStart?, hc, ih h.2]
          · simp [stripStart?, hc]

end MongoConfig.Text
