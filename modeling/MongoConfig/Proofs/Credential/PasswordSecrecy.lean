import MongoConfig.Proofs.ConnectionString.PasswordSecrecy
import MongoConfig.Proofs.Text.Percent
/-! What the error for the text of a credential tells about the password.
An error shows the text without what stands between the first colon and the last `@`. The reader
looks for the password in the same place, so no error depends on it. A text that ends with the
password, without an `@` after it, has no such place and is shown as it was given.
-/

namespace MongoConfig.Credential

-----------------------------------------------------------------------------------------
-- Putting the parts together
-----------------------------------------------------------------------------------------

/-- Whether a credential is put together, and what it says apart from the password, does not depend
on which password there is. -/
theorem map_withoutPassword_assemble (mechanism : Option Mechanism) (user source : String)
    {password other : String} (hpassword : password ≠ "") (hother : other ≠ "")
    : (assemble mechanism user (some password) source).map withoutPassword
      = (assemble mechanism user (some other) source).map withoutPassword := by
  have hfirst : (some password).filter (· ≠ "") = some password := by
    rw [Option.filter_some, if_pos (decide_eq_true hpassword)]
  have hsecond : (some other).filter (· ≠ "") = some other := by
    rw [Option.filter_some, if_pos (decide_eq_true hother)]
  unfold assemble
  rw [hfirst, hsecond]
  by_cases huser : user = ""
  · rw [if_pos huser, if_pos huser]
  · rw [if_neg huser, if_neg huser]
    match mechanism with
    | some .gssapi | some .x509 => rfl
    | none | some .plain | some .scramSha1 | some .scramSha256 =>
        by_cases hsource : source = ""
        · simp only [if_pos hsource]
        · simp only [if_neg hsource]
          rfl

/-- Properties are added to credentials that are the same apart from the password alike. -/
theorem map_withoutPassword_bind {first second : Except CredentialFault Credential}
    (h : first.map withoutPassword = second.map withoutPassword)
    (wrap : CredentialFault → TextError) (properties : Dictionary String)
    : ((first.mapError wrap) >>= fun credential =>
        .ok { credential with properties }).map withoutPassword
      = ((second.mapError wrap) >>= fun credential =>
        .ok { credential with properties }).map withoutPassword := by
  cases first with
  | error fault =>
      cases second with
      | error other =>
          obtain rfl := Except.error.inj h
          rfl
      | ok credential => cases h
  | ok credential =>
      cases second with
      | error fault => cases h
      | ok other =>
          have hsame := congrArg (fun c : Credential => { c with properties }) (Except.ok.inj h)
          exact congrArg Except.ok hsame

-----------------------------------------------------------------------------------------
-- A password in front of an `@`
-----------------------------------------------------------------------------------------

/-- Texts that have the same rest behind their last `@`, and the same user and some password in
front of it, are read alike. -/
theorem readTrimmed_of_userInfo {first second rest : List Char} {user password other : String}
    (hfirst : readUserInfo first = (user, some password))
    (hsecond : readUserInfo second = (user, some other)) (hpassword : password ≠ "")
    (hother : other ≠ "") (hrest : '@' ∉ rest) (shown : String)
    : (readTrimmed shown (first ++ '@' :: rest)).map withoutPassword
      = (readTrimmed shown (second ++ '@' :: rest)).map withoutPassword := by
  simp only [readTrimmed, Text.cutLast_append hrest, hfirst, hsecond]
  obtain ⟨source, optionText⟩ := (Text.cutFirst '?' rest).getD (rest, [])
  cases readOptions shown optionText with
  | error error => rfl
  | ok options =>
      have hassemble :=
        map_withoutPassword_assemble options.mechanism user (String.ofList source) hpassword hother
      exact map_withoutPassword_bind hassemble (.credential shown) options.properties

/-- The redacted text shows the user, and what follows the last `@`. -/
theorem redact_append {user back : List Char} (huser : ':' ∉ user) (hback : '@' ∉ back)
    (password : List Char)
    : redact (user ++ ':' :: password ++ '@' :: back) = user ++ ":***@".toList ++ back := by
  rw [redact, Text.cutLast_append hback]
  simp only [Text.cutFirst_append huser]

/-- What stands before and after the last `@` of a text that starts with one. -/
theorem exists_cut_at_last (rest : List Char)
    : ∃ front back, '@' :: rest = front ++ '@' :: back ∧ '@' ∉ back := by
  cases hcut : Text.cutLast '@' ('@' :: rest) with
  | none => exact absurd List.mem_cons_self (Text.cutLast_eq_none_iff.1 hcut)
  | some cut => exact ⟨cut.1, cut.2, Text.eq_append_of_cutLast hcut⟩

/-- Blanks are cut off in front of the colon and behind the `@`, so the password stays whole. -/
theorem trim_login (user password rest : List Char)
    : Text.trim (user ++ ':' :: (password ++ '@' :: rest))
      = Text.trimStart user ++ ':' :: (password ++ '@' :: Text.trimEnd rest) := by
  rw [Text.trim_append_cons (by decide), Text.trimEnd_append_cons (by decide)]

theorem not_mem_trimStart {text : List Char} {c : Char} (h : c ∉ text)
    : c ∉ Text.trimStart text :=
  fun hmem => h ((List.dropWhile_suffix Text.isBlank).subset hmem)

/-- A text with a password in front of an `@` is read by a rule in which the password counts for
itself alone. -/
theorem read_login {user : String} (huser : ':' ∉ user.toList) (rest : String)
    : ∃ shown front back,
        '@' ∉ back
        ∧ ∀ password : String,
            read (user ++ ":" ++ password ++ "@" ++ rest)
            = readTrimmed shown
                ((Text.trimStart user.toList ++ ':' :: (password.toList ++ front))
                  ++ '@' :: back) := by
  obtain ⟨front, back, hrest, hback⟩ := exists_cut_at_last rest.toList
  obtain ⟨inner, last, htrimmed, hlast⟩ := exists_cut_at_last (Text.trimEnd rest.toList)
  refine ⟨String.ofList (user.toList ++ ":***@".toList ++ back), inner, last, hlast, ?_⟩
  intro password
  have htext
      : (user ++ ":" ++ password ++ "@" ++ rest).toList
        = user.toList ++ ':' :: (password.toList ++ '@' :: rest.toList) := by
    simp
  have hshown
      : redact (user.toList ++ ':' :: (password.toList ++ '@' :: rest.toList))
        = user.toList ++ ":***@".toList ++ back := by
    rw [hrest, ← redact_append huser hback (password.toList ++ front)]
    simp
  rw [read, htext, hshown, trim_login, htrimmed]
  simp

-----------------------------------------------------------------------------------------
-- A password at the end of a text
-----------------------------------------------------------------------------------------

/-- An error shows either the text that it is about or the name of a mechanism that is not known. -/
def Shows (shown : String) (error : TextError) : Prop :=
  (∃ fault, error = .credential shown fault) ∨ ∃ name, error = .unknownName .mechanism name

theorem shows_of_addOption {shown : String} {options : Options} {option : List Char}
    {error : TextError} (h : addOption shown options option = .error error)
    : Shows shown error := by
  rw [addOption] at h
  split at h
  · exact .inl ⟨_, (Except.error.inj h).symm⟩
  · rename_i key value hcut
    dsimp only at h
    split at h
    · rw [Mechanism.read] at h
      cases hname : Mechanism.ofName? (String.ofList value) with
      | none =>
          rw [hname] at h
          exact .inr ⟨_, (Except.error.inj h).symm⟩
      | some mechanism =>
          rw [hname] at h
          cases h
    · cases h

/-- Options are read up to the first error, by induction on them. -/
theorem shows_of_foldlM {shown : String} {options : Options} {texts : List (List Char)}
    {error : TextError} (h : texts.foldlM (addOption shown) options = .error error)
    : Shows shown error := by
  induction texts generalizing options with
  | nil => cases h
  | cons text rest ih =>
      rw [List.foldlM_cons, bind_eq_error_iff] at h
      rcases h with h | ⟨next, -, h⟩
      · exact shows_of_addOption h
      · exact ih h

theorem shows_of_readTrimmed {shown : String} {text : List Char} {error : TextError}
    (h : readTrimmed shown text = .error error)
    : Shows shown error := by
  rw [readTrimmed] at h
  split at h
  · exact .inl ⟨_, (Except.error.inj h).symm⟩
  · dsimp only at h
    rcases bind_eq_error_iff.1 h with h | ⟨options, -, h⟩
    · exact shows_of_foldlM h
    · rcases bind_eq_error_iff.1 h with h | ⟨credential, -, h⟩
      · obtain ⟨fault, -, rfl⟩ := mapError_eq_error_iff.1 h
        exact .inl ⟨fault, rfl⟩
      · cases h

/-- Nothing is hidden in a text without an `@` behind its first colon. -/
theorem redact_of_not_mem {user password : List Char} (huser : ':' ∉ user)
    (hpassword : '@' ∉ password)
    : redact (user ++ ':' :: password) = user ++ ':' :: password := by
  rw [redact]
  split
  · rfl
  · rename_i front back hcut
    obtain ⟨htext, -⟩ := Text.eq_append_of_cutLast hcut
    have hfront : ':' ∉ front := by
      rcases List.append_eq_append_iff.1 htext with ⟨inner, rfl, hinner⟩ | ⟨inner, rfl, -⟩
      · -- the `@` would have to stand behind the colon
        have hmem : '@' ∈ ':' :: password := hinner ▸ by simp
        rcases List.mem_cons.1 hmem with hsign | hmem
        · exact absurd hsign (by decide)
        · exact absurd hmem hpassword
      · exact fun hmem => huser (List.mem_append_left _ hmem)
    rw [Text.cutFirst_eq_none_iff.2 hfront]

theorem read_of_not_mem {user password : String} (huser : ':' ∉ user.toList)
    (hpassword : '@' ∉ password.toList)
    : read (user ++ ":" ++ password)
      = readTrimmed (user ++ ":" ++ password)
          (Text.trim (user.toList ++ ':' :: password.toList)) := by
  have htext : (user ++ ":" ++ password).toList = user.toList ++ ':' :: password.toList := by
    simp
  rw [read, htext, redact_of_not_mem huser hpassword, ← htext, String.ofList_toList]

/-- A text without an `@` is refused, and the error shows all of it. -/
theorem read_of_no_sign {user password : String} (huser : ':' ∉ user.toList)
    (hsign : '@' ∉ user.toList) (hpassword : '@' ∉ password.toList)
    : read (user ++ ":" ++ password)
      = .error (.credential (user ++ ":" ++ password) .noDatabaseSign) := by
  have hnone : Text.cutLast '@' (Text.trim (user.toList ++ ':' :: password.toList)) = none := by
    refine Text.cutLast_eq_none_iff.2 fun hmem => ?_
    have hin := Text.mem_of_mem_trim hmem
    simp [hsign, hpassword] at hin
  rw [read_of_not_mem huser hpassword, readTrimmed, hnone]

-----------------------------------------------------------------------------------------
-- Two passwords
-----------------------------------------------------------------------------------------

/-- In front of an `@`, the outcome of reading is the same for any other password, error or not, but
for the password that is read. -/
theorem map_withoutPassword_read {user password other : String} (huser : ':' ∉ user.toList)
    (hpassword : password ≠ "") (hother : other ≠ "") (rest : String)
    : (read (user ++ ":" ++ password ++ "@" ++ rest)).map withoutPassword
      = (read (user ++ ":" ++ other ++ "@" ++ rest)).map withoutPassword := by
  obtain ⟨shown, front, back, hback, hread⟩ := read_login huser rest
  have hstart : ':' ∉ Text.trimStart user.toList := not_mem_trimStart huser
  have hsome {given : String} (h : given ≠ "")
      : String.ofList (Text.Percent.decode (given.toList ++ front)) ≠ "" := by
    refine mt Text.Percent.ofList_decode_eq_empty_iff.1 fun hnil => h ?_
    exact String.toList_eq_nil_iff.1 (List.append_eq_nil_iff.1 hnil).1
  rw [hread password, hread other]
  exact readTrimmed_of_userInfo (ConnectionString.readUserInfo_append_cons hstart _)
    (ConnectionString.readUserInfo_append_cons hstart _) (hsome hpassword) (hsome hother) hback
    shown

/-- At the end of a text the errors for two passwords differ, for they show the whole text; unless
they name the same mechanism that is not known. -/
theorem eq_iff_of_read_eq_error {user password other : String} (huser : ':' ∉ user.toList)
    (hsign : '@' ∉ password.toList) (hotherSign : '@' ∉ other.toList)
    {error otherError : TextError} (hfails : read (user ++ ":" ++ password) = .error error)
    (hfailsToo : read (user ++ ":" ++ other) = .error otherError)
    : error = otherError
      ↔ password = other
        ∨ ∃ name,
          error = .unknownName .mechanism name ∧ otherError = .unknownName .mechanism name := by
  constructor
  · rintro rfl
    rw [read_of_not_mem huser hsign] at hfails
    rw [read_of_not_mem huser hotherSign] at hfailsToo
    rcases shows_of_readTrimmed hfails with ⟨fault, rfl⟩ | ⟨name, rfl⟩
    · rcases shows_of_readTrimmed hfailsToo with ⟨otherFault, hsame⟩ | ⟨name, hsame⟩
      · injection hsame with htext
        have hlists := congrArg String.toList htext
        simp only [String.toList_append, List.append_cancel_left_eq] at hlists
        exact .inl (String.toList_inj.1 hlists)
      · cases hsame
    · exact .inr ⟨name, rfl, rfl⟩
  · rintro (rfl | ⟨name, rfl, rfl⟩)
    · exact Except.error.inj (hfails.symm.trans hfailsToo)
    · rfl

/-- In front of an `@` a password has no influence on the outcome, and none on the error in
particular. At the end of a text the errors for two passwords are not the same, unless they name a
mechanism; and where there is no `@` at all, the error shows the password. -/
theorem read_of_passwords {user password other : String} (huser : ':' ∉ user.toList)
    (hpassword : password ≠ "") (hother : other ≠ "") (hsign : '@' ∉ password.toList)
    (hotherSign : '@' ∉ other.toList)
    : (∀ rest : String,
        (read (user ++ ":" ++ password ++ "@" ++ rest)).map withoutPassword
        = (read (user ++ ":" ++ other ++ "@" ++ rest)).map withoutPassword)
      ∧ (∀ error otherError,
          read (user ++ ":" ++ password) = .error error
          → read (user ++ ":" ++ other) = .error otherError
          → (error = otherError
            ↔ password = other
              ∨ ∃ name,
                error = .unknownName .mechanism name ∧ otherError = .unknownName .mechanism name))
      ∧ ('@' ∉ user.toList
        → read (user ++ ":" ++ password)
          = .error (.credential (user ++ ":" ++ password) .noDatabaseSign)) := by
  refine ⟨fun rest => ?_, fun error otherError hfails hfailsToo => ?_, fun huserSign => ?_⟩
  · exact map_withoutPassword_read huser hpassword hother rest
  · exact eq_iff_of_read_eq_error huser hsign hotherSign hfails hfailsToo
  · exact read_of_no_sign huser huserSign hsign

/-- Passwords with colons and escapes are hidden as well as short ones. -/
theorem read_of_passwords_hidden
    : read " jon:a%40:b c@db@snow?x"
        = .error (.credential " jon:***@snow?x" .optionWithoutValue)
      ∧ read " jon:%@db@snow?x" = .error (.credential " jon:***@snow?x" .optionWithoutValue) := by
  have hfirst
      : read " jon:a%40:b c@db@snow?x"
        = .error (.credential " jon:***@snow?x" .optionWithoutValue) := by
    decide +kernel
  have hsame
      : (read " jon:a%40:b c@db@snow?x").map withoutPassword
        = (read " jon:%@db@snow?x").map withoutPassword :=
    (@read_of_passwords " jon" "a%40:b c" "%" (by decide) (by decide) (by decide) (by decide)
      (by decide)).1 "db@snow?x"
  refine ⟨hfirst, ?_⟩
  rw [hfirst] at hsame
  cases hsecond : read " jon:%@db@snow?x" with
  | error error =>
      rw [hsecond] at hsame
      exact congrArg Except.error (Except.error.inj hsame).symm
  | ok credential =>
      rw [hsecond] at hsame
      cases hsame

/-- Without an `@` the error and its message show the password. -/
theorem read_passwordShown
    : read "jon:warg" = .error (.credential "jon:warg" .noDatabaseSign)
      ∧ read "jon:ghost" = .error (.credential "jon:ghost" .noDatabaseSign)
      ∧ (TextError.credential "jon:warg" .noDatabaseSign).message
        = "Invalid credential `jon:warg`: missing `@` between user and database"
      ∧ TextError.credential "jon:warg" .noDatabaseSign
        ≠ .credential "jon:ghost" .noDatabaseSign := by
  decide +kernel

end MongoConfig.Credential
