import MongoConfig.Proofs.Credential.Separators
import MongoConfig.Proofs.Credential.WellFormed
import MongoConfig.Proofs.Text.ReadTogether
/-! One credential as a list.
A list takes every quote for one that protects commas and leaves it out, whether there is a comma or
not. A text without quotes is read the same alone and as a list. With a quote in the user, the
password or the source, the list holds another credential than the text by itself.
-/

namespace MongoConfig.Credential

/-- A text that is a list by itself: no comma separates it, and no quote in front wraps it. -/
structure Lone (text : String) : Prop where
  notEmpty : text ≠ ""
  trimmed : Text.trim text.toList = text.toList
  noComma : ',' ∉ text.toList
  notWrapped : text.toList.head? ≠ some '\''

/-- A text without the quotes in it. -/
def unquoted (text : List Char) : List Char :=
  text.filter (· ≠ '\'')

/-- The source, and the options behind it, of what follows the last `@`. -/
def cutOptions (rest : List Char) : List Char × List Char :=
  (Text.cutFirst '?' rest).getD (rest, [])

/-- The options in the text of a credential. -/
def optionsOf (text : List Char) : List Char :=
  ((Text.cutLast '@' text).map fun cut => (cutOptions cut.2).2).getD []

-----------------------------------------------------------------------------------------
-- Texts without quotes
-----------------------------------------------------------------------------------------

theorem unquoted_eq_self_iff {text : List Char} : unquoted text = text ↔ '\'' ∉ text := by
  rw [unquoted, List.filter_eq_self]
  constructor
  · intro hall hmem
    exact absurd (hall '\'' hmem) (by decide)
  · intro hnone c hc
    exact decide_eq_true fun hquote => hnone (hquote ▸ hc)

theorem unquoted_append_cons {sign : Char} (h : sign ≠ '\'') (front back : List Char)
    : unquoted (front ++ sign :: back) = unquoted front ++ sign :: unquoted back := by
  rw [unquoted, List.filter_append, List.filter_cons_of_pos (by simpa using h)]
  rfl

theorem unquoted_cons {c : Char} (h : c ≠ '\'') (rest : List Char)
    : unquoted (c :: rest) = c :: unquoted rest :=
  unquoted_append_cons h [] rest

theorem not_mem_unquoted {text : List Char} {c : Char} (h : c ∉ text) : c ∉ unquoted text :=
  fun hmem => h (List.mem_of_mem_filter hmem)

/-- Without a comma there is one entry, in which no quote is left. -/
theorem splitUnquoted_of_no_comma (isQuoted : Bool) {text : List Char} (h : ',' ∉ text)
    : splitUnquoted isQuoted text = [unquoted text] := by
  induction text generalizing isQuoted with
  | nil => rfl
  | cons c rest ih =>
      rw [List.mem_cons, not_or] at h
      rw [splitUnquoted]
      by_cases hquote : c = '\''
      · rw [if_pos hquote, ih _ h.2, unquoted, unquoted,
          List.filter_cons_of_neg (by simpa using hquote)]
      · have hkept : ¬(c = ',' && !isQuoted) = true := by simp [Ne.symm h.1]
        rw [if_neg hquote, if_neg hkept, ih _ h.2, unquoted_cons hquote]
        rfl

namespace Lone

variable {text : String}

/-- The first character of the text is neither a blank nor a quote. -/
theorem exists_first (h : Lone text)
    : ∃ c rest, text.toList = c :: rest ∧ Text.isBlank c = false ∧ c ≠ '\'' := by
  cases htext : text.toList with
  | nil => exact absurd (String.toList_eq_nil_iff.1 htext) h.notEmpty
  | cons c rest =>
      have hfirst := (Text.trim_eq_self_iff.1 h.trimmed).first
      have hquote := h.notWrapped
      rw [htext] at hfirst hquote
      exact ⟨c, rest, rfl, hfirst c rfl, fun hc => hquote (congrArg some hc)⟩

theorem trim_unquoted_ne_nil (h : Lone text) : Text.trim (unquoted text.toList) ≠ [] := by
  obtain ⟨c, rest, htext, hblank, hquote⟩ := h.exists_first
  have hhead : (Text.trim (c :: unquoted rest)).head? = some c :=
    Text.head?_trim (by simpa using hblank)
  intro hnil
  rw [htext, unquoted_cons hquote] at hnil
  rw [hnil] at hhead
  cases hhead

/-- What stands in front keeps its first character, so that no blank gets there. -/
theorem trimStart_unquoted (h : Lone text) {front back : List Char}
    (htext : text.toList = front ++ back) (hne : front ≠ [])
    : Text.trimStart (unquoted front) = unquoted front := by
  obtain ⟨c, others, hfirst, hblank, hquote⟩ := h.exists_first
  rw [htext] at hfirst
  cases front with
  | nil => exact absurd rfl hne
  | cons d front =>
      obtain ⟨rfl, -⟩ := List.cons.inj hfirst
      rw [unquoted_cons hquote]
      exact Text.trimStart_of_not_blank hblank _

/-- Without its quotes a text has the same parts without theirs, and blanks less at its end. -/
theorem trim_unquoted_login (h : Lone text) {user password rest : List Char}
    (htext : text.toList = (user ++ ':' :: password) ++ '@' :: rest) (hne : user ≠ [])
    : Text.trim (unquoted text.toList)
      = (unquoted user ++ ':' :: unquoted password) ++ '@' :: Text.trimEnd (unquoted rest) := by
  have hstart : Text.trimStart (unquoted user) = unquoted user :=
    h.trimStart_unquoted (htext.trans (List.append_assoc _ _ _)) hne
  rw [htext, unquoted_append_cons (by decide), unquoted_append_cons (by decide),
    Text.trim_append_cons (by decide), Text.trimStart_append_cons (by decide), hstart]

/-- As a list the text is read without its quotes. -/
theorem readList_eq (h : Lone text)
    : readList text
      = (read (String.ofList (Text.trim (unquoted text.toList)))).map fun credential =>
          [credential] := by
  have hentries : entries text = [String.ofList (Text.trim (unquoted text.toList))] := by
    simp [entries, splitUnquoted_of_no_comma false h.noComma, h.trim_unquoted_ne_nil]
  rw [readList, hentries, List.mapM_cons, List.mapM_nil]
  cases read (String.ofList (Text.trim (unquoted text.toList))) <;> rfl

theorem readList_eq_ok_iff (h : Lone text) {credential : Credential}
    : readList text = .ok [credential]
      ↔ read (String.ofList (Text.trim (unquoted text.toList))) = .ok credential := by
  rw [h.readList_eq]
  cases read (String.ofList (Text.trim (unquoted text.toList))) with
  | error error => exact iff_of_false nofun nofun
  | ok other => simp [Except.map]

theorem readList_of_not_mem (h : Lone text) (hquote : '\'' ∉ text.toList)
    : readList text = (read text).map fun credential => [credential] := by
  rw [h.readList_eq, unquoted_eq_self_iff.2 hquote, h.trimmed, String.ofList_toList]

end Lone

-----------------------------------------------------------------------------------------
-- The parts of a credential with a password
-----------------------------------------------------------------------------------------

variable {credential : Credential}

/-- A credential with a password has the one that was given, and the user and source with it. -/
theorem of_assemble_of_isSome {mechanism : Option Mechanism} {user source : String}
    {password : Option String} (h : assemble mechanism user password source = .ok credential)
    (hsome : credential.password.isSome)
    : user ≠ ""
      ∧ password = credential.password
      ∧ credential.user = some user
      ∧ credential.source = source := by
  unfold assemble at h
  split at h
  · cases h
  · rename_i huser
    split at h
    · cases h
      cases hsome
    · cases h
      cases hsome
    · split at h
      · cases h
      · rename_i given hgiven
        split at h
        · cases h
        · cases h
          exact ⟨huser, (Option.filter_eq_some_iff.1 hgiven).1, rfl, rfl⟩

/-- Where the parts of a credential with a password stand in its text. -/
theorem parts_of_readTrimmed {shown : String} {userInfo rest : List Char} (hrest : '@' ∉ rest)
    (h : readTrimmed shown (userInfo ++ '@' :: rest) = .ok credential)
    (hsome : credential.password.isSome)
    : ∃ user password,
        Text.cutFirst ':' userInfo = some (user, password)
        ∧ user ≠ []
        ∧ credential.user = some (String.ofList (Text.Percent.decode user))
        ∧ credential.password = some (String.ofList (Text.Percent.decode password))
        ∧ credential.source = String.ofList (cutOptions rest).1 := by
  rw [readTrimmed, Text.cutLast_append hrest] at h
  obtain ⟨options, -, h⟩ := bind_eq_ok_iff.1 h
  obtain ⟨assembled, hassembled, h⟩ := bind_eq_ok_iff.1 h
  cases h
  obtain ⟨huser, hpassword, hread⟩ :=
    of_assemble_of_isSome (mapError_eq_ok_iff.1 hassembled) hsome
  cases hcut : Text.cutFirst ':' userInfo with
  | none =>
      simp only [hcut] at hpassword
      rw [← hpassword] at hsome
      cases hsome
  | some cut =>
      simp only [hcut] at huser hpassword hread
      have hne : cut.1 ≠ [] := mt Text.Percent.ofList_decode_eq_empty_iff.2 huser
      exact ⟨cut.1, cut.2, rfl, hne, hread.1, hpassword.symm, hread.2⟩

/-- Without its quotes, and the blanks that stood before a quote at the end, a source has no more
characters than before. -/
theorem cutOptions_unquoted (rest : List Char)
    : (cutOptions (Text.trimEnd (unquoted rest))).1 <+: unquoted (cutOptions rest).1 := by
  cases hcut : Text.cutFirst '?' rest with
  | none =>
      have hsign := Text.cutFirst_eq_none_iff.1 hcut
      have hnone : Text.cutFirst '?' (Text.trimEnd (unquoted rest)) = none :=
        Text.cutFirst_eq_none_iff.2 fun hmem =>
          not_mem_unquoted hsign (Text.mem_of_mem_trimEnd hmem)
      rw [cutOptions, cutOptions, hcut, hnone]
      exact List.rdropWhile_prefix _ _
  | some cut =>
      obtain ⟨rfl, hsign⟩ := Text.cutFirst_eq_some_iff.1 hcut
      rw [unquoted_append_cons (by decide), Text.trimEnd_append_cons (by decide), cutOptions,
        cutOptions, hcut, Text.cutFirst_append (not_mem_unquoted hsign)]
      exact List.prefix_rfl

theorem not_mem_source {rest : List Char}
    (h : (cutOptions (Text.trimEnd (unquoted rest))).1 = (cutOptions rest).1)
    : '\'' ∉ (cutOptions rest).1 := by
  have hstart := cutOptions_unquoted rest
  rw [h] at hstart
  have hlength := Nat.le_antisymm (List.length_filter_le _ _) hstart.length_le
  exact unquoted_eq_self_iff.1 (List.filter_eq_self.2 (List.length_filter_eq_length_iff.1 hlength))

/-- A quote behind the last `@` stands in the source or in the options. -/
theorem not_mem_of_cutOptions {rest : List Char} (hsource : '\'' ∉ (cutOptions rest).1)
    (hoptions : '\'' ∉ (cutOptions rest).2)
    : '\'' ∉ rest := by
  rw [cutOptions] at hsource hoptions
  cases hcut : Text.cutFirst '?' rest with
  | none =>
      rw [hcut] at hsource
      exact hsource
  | some cut =>
      obtain ⟨rfl, -⟩ := Text.cutFirst_eq_some_iff.1 hcut
      rw [hcut] at hsource hoptions
      simpa [List.mem_append] using ⟨hsource, hoptions⟩

theorem separates_quote : Text.Percent.Separates '\'' := by
  constructor <;> decide

theorem not_mem_of_decode_unquoted {part : List Char}
    (h : String.ofList (Text.Percent.decode (unquoted part))
      = String.ofList (Text.Percent.decode part))
    : '\'' ∉ part :=
  separates_quote.decode_filter_eq_iff.1 (String.ofList_injective h)

/-- Without quotes the user, the password and the source of a text are read as others, if a quote is
in one of them. -/
theorem Lone.not_mem_of_readList {text : String} (h : Lone text)
    (hread : read text = .ok credential) (hsome : credential.password.isSome)
    (hoptions : '\'' ∉ optionsOf text.toList) (hlist : readList text = .ok [credential])
    : '\'' ∉ text.toList := by
  have hunquoted := h.readList_eq_ok_iff.1 hlist
  rw [read, h.trimmed] at hread
  cases hcut : Text.cutLast '@' text.toList with
  | none =>
      rw [readTrimmed, hcut] at hread
      cases hread
  | some cut =>
      obtain ⟨userInfo, rest⟩ := cut
      obtain ⟨htext, hrest⟩ := Text.eq_append_of_cutLast hcut
      simp only [optionsOf, hcut, Option.map_some, Option.getD_some] at hoptions
      rw [htext] at hread
      obtain ⟨user, password, huserInfo, hne, huser, hpassword, hsource⟩ :=
        parts_of_readTrimmed hrest hread hsome
      obtain ⟨rfl, hcolon⟩ := Text.cutFirst_eq_some_iff.1 huserInfo
      have hrestToo : '@' ∉ Text.trimEnd (unquoted rest) := fun hmem =>
        not_mem_unquoted hrest (Text.mem_of_mem_trimEnd hmem)
      rw [read, String.toList_ofList, Text.trim_trim, h.trim_unquoted_login htext hne] at hunquoted
      obtain ⟨_, _, hcutToo, -, huserToo, hpasswordToo, hsourceToo⟩ :=
        parts_of_readTrimmed hrestToo hunquoted hsome
      rw [Text.cutFirst_append (not_mem_unquoted hcolon)] at hcutToo
      cases hcutToo
      have hnoneUser : '\'' ∉ user :=
        not_mem_of_decode_unquoted (Option.some.inj (huserToo.symm.trans huser))
      have hnonePassword : '\'' ∉ password :=
        not_mem_of_decode_unquoted (Option.some.inj (hpasswordToo.symm.trans hpassword))
      have hnoneSource : '\'' ∉ (cutOptions rest).1 :=
        not_mem_source (String.ofList_injective (hsourceToo.symm.trans hsource))
      have hnoneRest := not_mem_of_cutOptions hnoneSource hoptions
      rw [htext]
      simp [hnoneUser, hnonePassword, hnoneRest]

/-- As a list a text is read without its quotes, so it is read the same if it has none. If it gives
a credential with a password and its options hold no quote, it is read the same only then. -/
theorem readList_of_lone {text : String} (h : Lone text)
    : (readList text
        = (read (String.ofList (Text.trim (unquoted text.toList)))).map fun credential =>
            [credential])
      ∧ ('\'' ∉ text.toList → readList text = (read text).map fun credential => [credential])
      ∧ (∀ credential,
          read text = .ok credential
          → credential.password.isSome
          → '\'' ∉ optionsOf text.toList
          → (readList text = (read text).map (fun credential => [credential])
            ↔ '\'' ∉ text.toList)) := by
  refine ⟨h.readList_eq, h.readList_of_not_mem, fun credential hread hsome hoptions => ?_⟩
  refine ⟨fun hsame => ?_, h.readList_of_not_mem⟩
  rw [hread] at hsame
  exact h.not_mem_of_readList hread hsome hoptions hsame

/-- An escaped quote reaches the password. One that is written as it is gets lost, and what it stood
between can become an escape. -/
theorem readList_of_lone_escaped
    : readList "jon:o%27brien@snow" = .ok [negotiated "jon" "snow" "o'brien"]
      ∧ readList "jon:o%2'7brien@snow" ≠ .ok [negotiated "jon" "snow" "o%2'7brien"] := by
  have hescaped : read "jon:o%27brien@snow" = .ok (negotiated "jon" "snow" "o'brien") := by
    decide +kernel
  have hcut : read "jon:o%2'7brien@snow" = .ok (negotiated "jon" "snow" "o%2'7brien") := by
    decide +kernel
  have hsame := (@readList_of_lone "jon:o%27brien@snow"
    ⟨by decide, by decide, by decide, by decide⟩).2.1 (by decide)
  have hiff := (@readList_of_lone "jon:o%2'7brien@snow"
    ⟨by decide, by decide, by decide, by decide⟩).2.2 _ hcut rfl (by decide)
  rw [hescaped] at hsame
  rw [hcut] at hiff
  exact ⟨hsame, fun hlist => absurd (hiff.1 hlist) (by decide)⟩

/-- A quote in a password is there when the text is read alone, and missing in the list. -/
theorem readList_lostQuote
    : Lone "jon:o'brien@snow"
      ∧ read "jon:o'brien@snow" = .ok (negotiated "jon" "snow" "o'brien")
      ∧ readList "jon:o'brien@snow" = .ok [negotiated "jon" "snow" "obrien"]
      ∧ readList "jon:o'brien@snow"
        ≠ (read "jon:o'brien@snow").map fun credential => [credential] := by
  refine ⟨⟨by decide, by decide, by decide, by decide⟩, ?_⟩
  decide +kernel

end MongoConfig.Credential
