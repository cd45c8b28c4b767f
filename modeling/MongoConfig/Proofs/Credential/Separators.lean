import Mathlib.Algebra.Group.Nat.Even
import MongoConfig.Credential.Reader
import MongoConfig.Proofs.FirstOffence
/-! Where a list of credentials is split.
Each single quote leads into quotes or out of them, so after an even number of quotes the reader is
where it was. A comma outside of quotes separates: what follows is a list of its own. Texts without
quotes can therefore be joined to a list if those with commas are wrapped, and each is read as if
it stood alone.
-/

namespace MongoConfig.Credential

-----------------------------------------------------------------------------------------
-- Quotes and commas
-----------------------------------------------------------------------------------------

/-- Whether the reader is inside of quotes after a text. -/
def endsQuoted (isQuoted : Bool) : List Char → Bool
  | [] => isQuoted
  | c :: rest => endsQuoted (if c = '\'' then !isQuoted else isQuoted) rest

/-- Quotes in pairs leave the reader where it was, and others do not. -/
theorem endsQuoted_eq_self_iff {isQuoted : Bool} {text : List Char}
    : endsQuoted isQuoted text = isQuoted ↔ Even (text.count '\'') := by
  induction text generalizing isQuoted with
  | nil => simp [endsQuoted]
  | cons c rest ih =>
      rw [endsQuoted, List.count_cons]
      by_cases hquote : c = '\''
      · have hturned : endsQuoted (!isQuoted) rest = isQuoted
            ↔ ¬endsQuoted (!isQuoted) rest = !isQuoted := by
          cases endsQuoted (!isQuoted) rest <;> cases isQuoted <;> decide
        rw [if_pos hquote, hturned, ih, if_pos (beq_iff_eq.2 hquote), Nat.even_add_one]
      · rw [if_neg hquote, ih, if_neg (mt beq_iff_eq.1 hquote), Nat.add_zero]

theorem extendFirst_append {pieces : List (List Char)} (h : pieces ≠ []) (c : Char)
    (others : List (List Char))
    : Text.extendFirst c (pieces ++ others) = Text.extendFirst c pieces ++ others := by
  cases pieces with
  | nil => exact absurd rfl h
  | cons piece rest => rfl

theorem extendFirst_ne_nil (c : Char) (pieces : List (List Char))
    : Text.extendFirst c pieces ≠ [] := by
  cases pieces <;> exact List.cons_ne_nil _ _

theorem splitUnquoted_ne_nil (isQuoted : Bool) (text : List Char)
    : splitUnquoted isQuoted text ≠ [] := by
  induction text generalizing isQuoted with
  | nil => exact List.cons_ne_nil _ _
  | cons c rest ih =>
      rw [splitUnquoted]
      split
      · exact ih (!isQuoted)
      · split
        · exact List.cons_ne_nil _ _
        · exact extendFirst_ne_nil c _

/-- A comma separates where the text before it leads out of quotes, by induction on that text. -/
theorem splitUnquoted_append {isQuoted : Bool} {front : List Char}
    (h : endsQuoted isQuoted front = false) (back : List Char)
    : splitUnquoted isQuoted (front ++ ',' :: back)
      = splitUnquoted isQuoted front ++ splitUnquoted false back := by
  induction front generalizing isQuoted with
  | nil =>
      rw [endsQuoted] at h
      simp [splitUnquoted, h]
  | cons c rest ih =>
      rw [endsQuoted] at h
      rw [List.cons_append, splitUnquoted, splitUnquoted]
      by_cases hquote : c = '\''
      · rw [if_pos hquote] at h
        rw [if_pos hquote, if_pos hquote, ih h]
      · rw [if_neg hquote] at h
        rw [if_neg hquote, if_neg hquote, ih h]
        by_cases hcomma : (c = ',' && !isQuoted) = true
        · rw [if_pos hcomma, if_pos hcomma, List.cons_append]
        · rw [if_neg hcomma, if_neg hcomma,
            extendFirst_append (splitUnquoted_ne_nil isQuoted rest)]

/-- A text without quotes is one entry, if it holds no comma or stands in quotes. -/
theorem splitUnquoted_of_not_mem {isQuoted : Bool} {text : List Char} (hquote : '\'' ∉ text)
    (hcomma : isQuoted = false → ',' ∉ text)
    : splitUnquoted isQuoted text = [text] := by
  induction text with
  | nil => rfl
  | cons c rest ih =>
      rw [List.mem_cons, not_or] at hquote
      have hkept : ¬(c = ',' && !isQuoted) = true := by
        intro h
        simp only [Bool.and_eq_true, decide_eq_true_eq, Bool.not_eq_true'] at h
        exact hcomma h.2 (h.1 ▸ List.mem_cons_self)
      have hrest := ih hquote.2 fun h hmem => hcomma h (List.mem_cons_of_mem c hmem)
      rw [splitUnquoted, if_neg (Ne.symm hquote.1), if_neg hkept, hrest]
      rfl

/-- A quote at the end of a text separates nothing. -/
theorem splitUnquoted_append_quote (isQuoted : Bool) (text : List Char)
    : splitUnquoted isQuoted (text ++ ['\'']) = splitUnquoted isQuoted text := by
  induction text generalizing isQuoted with
  | nil => rfl
  | cons c rest ih => simp only [List.cons_append, splitUnquoted, ih]

/-- After an even number of quotes a comma separates two lists. -/
theorem entries_append {front : String} (h : Even (front.toList.count '\'')) (back : String)
    : entries (front ++ "," ++ back) = entries front ++ entries back := by
  have htext : (front ++ "," ++ back).toList = front.toList ++ ',' :: back.toList := by simp
  rw [entries, htext, splitUnquoted_append (endsQuoted_eq_self_iff.2 h)]
  simp [entries]

theorem readList_append {front : String} (h : Even (front.toList.count '\'')) (back : String)
    : readList (front ++ "," ++ back) = do
        let first ← readList front
        let rest ← readList back
        return first ++ rest := by
  rw [readList, entries_append h, List.mapM_append]
  rfl

-----------------------------------------------------------------------------------------
-- Joined entries
-----------------------------------------------------------------------------------------

/-- A text that can be joined with others to a list. With commas in it, it has to be wrapped. -/
structure ListEntry where
  text : String
  isWrapped : Bool
  noQuote : '\'' ∉ text.toList
  noComma : isWrapped = false → ',' ∉ text.toList

namespace ListEntry

/-- The entry as it stands in a list. -/
def written (entry : ListEntry) : String :=
  if entry.isWrapped then "'" ++ entry.text ++ "'" else entry.text

def trimmed (entry : ListEntry) : String :=
  String.ofList (Text.trim entry.text.toList)

/-- A list of entries as one text. -/
def join (list : List ListEntry) : String :=
  ",".intercalate (list.map written)

/-- The texts that a list says something with: trimmed, and without the blank ones. -/
def texts (list : List ListEntry) : List String :=
  (list.map trimmed).filter (· ≠ "")

/-- Wrapped or not, an entry is split nowhere and loses its wrapping. -/
theorem splitUnquoted_written (entry : ListEntry)
    : splitUnquoted false entry.written.toList = [entry.text.toList] := by
  cases hwrapped : entry.isWrapped with
  | false =>
      rw [written, hwrapped, if_neg Bool.false_ne_true]
      exact splitUnquoted_of_not_mem entry.noQuote fun _ => entry.noComma hwrapped
  | true =>
      have htext
          : ("'" ++ entry.text ++ "'").toList = '\'' :: (entry.text.toList ++ ['\'']) := by
        simp
      rw [written, hwrapped, if_pos rfl, htext, splitUnquoted, if_pos rfl, Bool.not_false,
        splitUnquoted_append_quote]
      exact splitUnquoted_of_not_mem entry.noQuote nofun

/-- An entry has two quotes or none. -/
theorem even_count_written (entry : ListEntry) : Even (entry.written.toList.count '\'') := by
  have hnone : entry.text.toList.count '\'' = 0 := List.count_eq_zero.2 entry.noQuote
  cases hwrapped : entry.isWrapped with
  | false => simp [written, hwrapped, hnone]
  | true =>
      have htwo : entry.written.toList.count '\'' = 2 := by simp [written, hwrapped, hnone]
      rw [htwo]
      decide

theorem entries_written (entry : ListEntry)
    : entries entry.written = [entry.trimmed].filter (· ≠ "") := by
  rw [entries, splitUnquoted_written]
  by_cases hblank : Text.trim entry.text.toList = []
  · simp [trimmed, hblank]
  · simp [trimmed, hblank]

/-- Entries are found again in a joined text, by induction on them. -/
theorem entries_join (list : List ListEntry) : entries (join list) = texts list := by
  induction list with
  | nil => rfl
  | cons entry rest ih =>
      have hfirst := entries_written entry
      cases rest with
      | nil =>
          rw [join, List.map_singleton, String.intercalate_singleton, hfirst]
          rfl
      | cons next others =>
          have hjoined : join (entry :: next :: others)
              = entry.written ++ "," ++ join (next :: others) := by
            rw [join, List.map_cons, List.map_cons, String.intercalate_cons_cons]
            rfl
          rw [hjoined, entries_append entry.even_count_written, hfirst, ih]
          exact (List.filter_append _ _).symm

end ListEntry

/-- Joined entries are read in order, each by itself, until one cannot be read. More generally a
comma after an even number of quotes separates two lists, and what is wrong with the first of them
is said first. -/
theorem readList_of_separators
    : (∀ list : List ListEntry,
        (∀ credentials,
          readList (ListEntry.join list) = .ok credentials
          ↔ List.Forall₂ (fun text credential => read text = .ok credential)
              (ListEntry.texts list) credentials)
        ∧ (∀ error,
            readList (ListEntry.join list) = .error error
            ↔ FirstOffence (fun _ text error => read text = .error error)
                (ListEntry.texts list) error))
      ∧ (∀ front back : String,
          Even (front.toList.count '\'')
          → readList (front ++ "," ++ back) = do
              let first ← readList front
              let rest ← readList back
              return first ++ rest) := by
  refine ⟨fun list => ⟨fun credentials => ?_, fun error => ?_⟩, fun front back heven => ?_⟩
  · rw [readList, ListEntry.entries_join]
    exact mapM_eq_ok_iff
  · rw [readList, ListEntry.entries_join]
    exact mapM_eq_error_iff
  · exact readList_append heven back

/-- A comma in quotes is kept and a blank entry is skipped. What is wrong with a list after an entry
in quotes is said if that entry can be read. -/
theorem readList_of_separators_wrapped
    : readList "jon:warg@snow, ,'arya:need,le@winterfell?uri.authMechanism=SCRAM-SHA-256'"
        = .ok [negotiated "jon" "snow" "warg", scramSha256 "arya" "winterfell" "need,le"]
      ∧ readList "jon:warg@snow,'arya:need,le',bran"
        = .error (.credential "arya:need,le" .noDatabaseSign)
      ∧ readList "'arya:need,le@winterfell',bran"
        = .error (.credential "bran" .noDatabaseSign) := by
  obtain ⟨hjoined, happended⟩ := readList_of_separators
  have hentries :=
    (hjoined [
      ⟨"jon:warg@snow", false, by decide, by decide⟩,
      ⟨" ", false, by decide, by decide⟩,
      ⟨"arya:need,le@winterfell?uri.authMechanism=SCRAM-SHA-256", true, by decide, nofun⟩
    ]).1 [negotiated "jon" "snow" "warg", scramSha256 "arya" "winterfell" "need,le"]
  have hfault :=
    (hjoined [
      ⟨"jon:warg@snow", false, by decide, by decide⟩,
      ⟨"arya:need,le", true, by decide, nofun⟩,
      ⟨"bran", false, by decide, by decide⟩
    ]).2 (.credential "arya:need,le" .noDatabaseSign)
  have hquotes : Even ("'arya:need,le@winterfell'".toList.count '\'') := by decide
  refine ⟨hentries.2 ?_, hfault.2 ?_, ?_⟩
  · exact .cons (by decide +kernel) (.cons (by decide +kernel) .nil)
  · refine ⟨["jon:warg@snow"], "arya:need,le", ["bran"], by decide, ?_, by decide +kernel⟩
    rw [noOffence_iff_forall_mem, List.forall_mem_singleton]
    intro error h
    have hread : read "jon:warg@snow" = .ok (negotiated "jon" "snow" "warg") := by decide +kernel
    cases hread.symm.trans h
  · exact (happended _ "bran" hquotes).trans (by decide +kernel)

end MongoConfig.Credential
