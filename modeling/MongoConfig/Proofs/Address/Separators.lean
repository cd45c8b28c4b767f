import MongoConfig.Proofs.Address.RoundTrip
/-! Where a list of addresses is split.
Every comma separates: what stands before and after it are lists of their own, and what is wrong
with the first of them is said first. A text without commas is one address, or it is blank and
skipped. Since each text is joined from such texts, this says how every list is read.
-/

namespace MongoConfig.Address

theorem entries_append (front back : String)
    : entries (front ++ "," ++ back) = entries front ++ entries back := by
  have htext : (front ++ "," ++ back).toList = front.toList ++ ',' :: back.toList := by simp
  rw [entries, htext, Text.pieces_append]
  simp [entries]

theorem readList_append (front back : String)
    : readList (front ++ "," ++ back) = do
        let first ← readList front
        let rest ← readList back
        return first ++ rest := by
  rw [readList, entries_append, List.mapM_append]
  rfl

/-- A comma is no blank, so none stands among blanks only. -/
theorem not_mem_of_isAllBlank {text : String} (h : Text.isAllBlank text = true)
    : ',' ∉ text.toList := by
  rw [Text.isAllBlank, List.isEmpty_iff] at h
  rw [← Text.mem_trim_iff (by decide), h]
  exact List.not_mem_nil

theorem readList_of_isAllBlank {text : String} (h : Text.isAllBlank text = true)
    : readList text = .ok [] := by
  rw [readList, entries_of_not_mem (not_mem_of_isAllBlank h), if_pos h]
  rfl

theorem readList_of_not_mem {text : String} (hcomma : ',' ∉ text.toList)
    (hblank : Text.isAllBlank text = false)
    : readList text = do
        let address ← read (String.ofList (Text.trim text.toList))
        return [address] := by
  rw [readList, entries_of_not_mem hcomma, hblank, if_neg Bool.false_ne_true, List.mapM_cons]
  rfl

/-- Joined lists are read one after another, by induction on them. -/
theorem readList_intercalate (lists : List String)
    : readList (",".intercalate lists) = do
        let parts ← lists.mapM readList
        return parts.flatten := by
  induction lists with
  | nil => rfl
  | cons text rest ih =>
      cases rest with
      | nil =>
          rw [String.intercalate_singleton, List.mapM_cons]
          simp
      | cons next others =>
          rw [String.intercalate_cons_cons, readList_append, ih, List.mapM_cons]
          simp

/-- A comma in a list separates two lists, of which the first is read first, and so it is with any
number of them. Without a comma the text is skipped if it is blank, and else it is one address, read
without the blanks around it. -/
theorem readList_by_commas
    : (∀ front back,
        readList (front ++ "," ++ back) = do
          let first ← readList front
          let rest ← readList back
          return first ++ rest)
      ∧ (∀ lists,
          readList (",".intercalate lists) = do
            let parts ← lists.mapM readList
            return parts.flatten)
      ∧ (∀ text, Text.isAllBlank text = true → readList text = .ok [])
      ∧ (∀ text,
          ',' ∉ text.toList
          → Text.isAllBlank text = false
          → readList text = do
              let address ← read (String.ofList (Text.trim text.toList))
              return [address]) := by
  refine ⟨readList_append, readList_intercalate, ?_, ?_⟩
  · intro text hblank
    exact readList_of_isAllBlank hblank
  · intro text hcomma hblank
    exact readList_of_not_mem hcomma hblank

/-- A blank entry between two addresses is skipped. Of two texts that are no addresses the first one
is in the error, without the blanks around it. -/
theorem readList_by_commas_blankBetween
    : readList "DB0:1,\u3000,[::1] " = .ok [⟨"db0", 1⟩, ⟨"::1", 27017⟩]
      ∧ readList "db0, db1:x ,[::1" = .error (.address "db1:x" .badPort) := by
  obtain ⟨happend, hjoined, hblank, hlone⟩ := readList_by_commas
  have hfirst : readList "DB0:1" = .ok [⟨"db0", 1⟩] :=
    (hlone "DB0:1" (by decide) (by decide)).trans (by decide +kernel)
  have hlast : readList "[::1] " = .ok [⟨"::1", 27017⟩] :=
    (hlone "[::1] " (by decide) (by decide)).trans (by decide +kernel)
  have hfault : readList "db0, db1:x " = .error (.address "db1:x" .badPort) := by
    refine (happend "db0" " db1:x ").trans ?_
    rw [hlone "db0" (by decide) (by decide), hlone " db1:x " (by decide) (by decide)]
    decide +kernel
  constructor
  · refine (hjoined ["DB0:1", "\u3000", "[::1] "]).trans ?_
    simp only [List.mapM_cons, List.mapM_nil, hfirst, hblank "\u3000" (by decide), hlast]
    rfl
  · refine (happend "db0, db1:x " "[::1").trans ?_
    rw [hfault]
    rfl

end MongoConfig.Address
