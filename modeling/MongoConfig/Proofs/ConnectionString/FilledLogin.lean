import MongoConfig.Proofs.ConnectionString.Parts
import MongoConfig.Proofs.ConnectionString.Query
import MongoConfig.Proofs.Credential.WellFormed
import MongoConfig.Proofs.Text.Percent
/-! Which logins in connection strings make up well-formed credentials.
A part of a login that is missing is noticed, one that is empty is not: a colon without a password
behind it gives the empty password, and a source without a name gives the empty source. So the
credential of a connection string is well formed exactly if what the text has of a login is filled.
-/

namespace MongoConfig.ConnectionString

/-- The texts in front of the first colon of a user info and behind it. -/
def userAndPassword (userInfo : List Char) : List Char × List Char :=
  (Text.cutFirst ':' userInfo).getD (userInfo, [])

namespace Parts

/-- Whether the users that the query asks for are looked up outside the server. -/
def isExternal (parts : Parts) : Bool :=
  (Query.selectedMechanism? parts.pairs).any Mechanism.isExternal

/-- Nothing that a credential takes from the text is empty. -/
structure FillsLogin (parts : Parts) : Prop where
  user : ∀ userInfo ∈ parts.userInfo, (userAndPassword userInfo).1 ≠ []
  password
    : parts.isExternal = false
      → ∀ userInfo ∈ parts.userInfo, (userAndPassword userInfo).2 ≠ []
  source
    : parts.isExternal = false → Query.lastValue? "authsource" parts.pairs ≠ some ""

end Parts

-----------------------------------------------------------------------------------------
-- The parts of a login
-----------------------------------------------------------------------------------------

theorem user_ne_empty_iff (userInfo : List Char)
    : (Credential.readUserInfo userInfo).1 ≠ "" ↔ (userAndPassword userInfo).1 ≠ [] := by
  rw [Credential.readUserInfo, userAndPassword]
  cases Text.cutFirst ':' userInfo <;> exact not_congr Text.Percent.ofList_decode_eq_empty_iff

theorem password_ne_empty_iff {userInfo : List Char} {password : String}
    (h : (Credential.readUserInfo userInfo).2 = some password)
    : password ≠ "" ↔ (userAndPassword userInfo).2 ≠ [] := by
  rw [Credential.readUserInfo] at h
  rw [userAndPassword]
  cases hcut : Text.cutFirst ':' userInfo with
  | none =>
      rw [hcut] at h
      cases h
  | some cut =>
      rw [hcut] at h
      obtain rfl := Option.some.inj h
      exact not_congr Text.Percent.ofList_decode_eq_empty_iff

/-- Only the query can name an empty source. -/
theorem source_ne_empty_iff (authSource : Option String) {database : Option String}
    (hdatabase : database ≠ some "")
    : (authSource.or database).getD defaultAuthSource ≠ "" ↔ authSource ≠ some "" := by
  cases authSource with
  | some source => simp
  | none =>
      cases database with
      | some name => simpa using hdatabase
      | none => simp [defaultAuthSource]

-----------------------------------------------------------------------------------------
-- The credential
-----------------------------------------------------------------------------------------

/-- The three ways in which parts make up a credential. -/
theorem of_readCredential {userInfo : Option (List Char)} {database : Option String}
    {query : Query} {credential : Credential}
    (h : readCredential userInfo database query = .ok (some credential))
    : (query.mechanism = some .x509
        ∧ credential = .x509 (userInfo.map fun text => (Credential.readUserInfo text).1))
      ∨ (∃ text,
          query.mechanism = some .gssapi
          ∧ userInfo = some text
          ∧ credential = .gssapi (Credential.readUserInfo text).1)
      ∨ (∃ text password,
          query.mechanism.any Mechanism.isExternal = false
          ∧ userInfo = some text
          ∧ (Credential.readUserInfo text).2 = some password
          ∧ credential
            = .withPassword query.mechanism (Credential.readUserInfo text).1
                ((query.authSource.or database).getD defaultAuthSource) password) := by
  match hmechanism : query.mechanism, huserInfo : userInfo with
  | some .x509, userInfo =>
      simp only [readCredential, hmechanism] at h
      cases h
      exact Or.inl ⟨rfl, by rw [Option.map_map]; rfl⟩
  | some .gssapi, none => simp [readCredential, hmechanism] at h
  | some .gssapi, some text =>
      simp only [readCredential, hmechanism, Option.map_some] at h
      cases h
      exact Or.inr (Or.inl ⟨text, rfl, rfl, rfl⟩)
  | none, none | some .plain, none | some .scramSha1, none | some .scramSha256, none =>
      simp [readCredential, hmechanism] at h
  | none, some text | some .plain, some text | some .scramSha1, some text
  | some .scramSha256, some text =>
      match hread : Credential.readUserInfo text with
      | (user, none) => simp [readCredential, hmechanism, hread] at h
      | (user, some password) =>
          simp only [readCredential, hmechanism, Option.map_some, hread] at h
          cases h
          exact Or.inr (Or.inr ⟨text, password, rfl, rfl, by rw [hread], by rw [hread]⟩)

/-- Of a user who is looked up outside the server only the name is asked for. -/
theorem Parts.fillsLogin_iff_of_isExternal {parts : Parts} (h : parts.isExternal = true)
    : parts.FillsLogin ↔ ∀ userInfo ∈ parts.userInfo, (userAndPassword userInfo).1 ≠ [] := by
  have hnot : ¬parts.isExternal = false := by simp [h]
  exact ⟨FillsLogin.user, fun huser =>
    ⟨huser, fun hinside => absurd hinside hnot, fun hinside => absurd hinside hnot⟩⟩

theorem Parts.fillsLogin_iff_of_userInfo {parts : Parts} {userInfo : List Char}
    (h : parts.userInfo = some userInfo) (hinside : parts.isExternal = false)
    : parts.FillsLogin
      ↔ (userAndPassword userInfo).1 ≠ []
        ∧ (userAndPassword userInfo).2 ≠ []
        ∧ Query.lastValue? "authsource" parts.pairs ≠ some "" := by
  constructor
  · intro hfilled
    exact ⟨hfilled.user userInfo h, hfilled.password hinside userInfo h, hfilled.source hinside⟩
  · rintro ⟨huser, hpassword, hsource⟩
    refine ⟨?_, fun _ => ?_, fun _ => hsource⟩
    all_goals
      rw [h]
      rintro _ ⟨⟩
      assumption

/-- A credential that parts make up is well formed if what they have of a login is filled. -/
theorem wellFormed_iff_of_readCredential {parts : Parts} {query : Query}
    {credential : Credential} (hquery : query.Reflects parts.pairs)
    (h : readCredential parts.userInfo parts.database? query = .ok (some credential))
    : credential.WellFormed ↔ parts.FillsLogin := by
  have hexternal : query.mechanism.any Mechanism.isExternal = parts.isExternal := by
    rw [hquery.mechanism, Parts.isExternal]
  rcases of_readCredential h with ⟨hmechanism, rfl⟩ | ⟨text, hmechanism, huserInfo, rfl⟩
    | ⟨text, password, hmechanism, huserInfo, hpassword, rfl⟩
  · rw [hmechanism] at hexternal
    rw [Credential.wellFormed_x509_iff, Parts.fillsLogin_iff_of_isExternal hexternal.symm]
    cases parts.userInfo with
    | none => simp
    | some userInfo => simpa using user_ne_empty_iff userInfo
  · rw [hmechanism] at hexternal
    rw [Credential.wellFormed_gssapi_iff, Parts.fillsLogin_iff_of_isExternal hexternal.symm,
      user_ne_empty_iff, huserInfo]
    simp
  · have hsource := source_ne_empty_iff query.authSource parts.database?_ne_empty
    rw [Credential.wellFormed_withPassword_iff hmechanism,
      Parts.fillsLogin_iff_of_userInfo huserInfo (hexternal.symm.trans hmechanism),
      user_ne_empty_iff, password_ne_empty_iff hpassword, hsource, hquery.authSource]

/-- The credential of a connection string is well formed exactly if its login is filled. -/
theorem wellFormed_credential_iff {text : String} {connection : ConnectionString}
    {credential : Credential} (h : read text = .ok connection)
    (hcredential : connection.credential = some credential)
    : credential.WellFormed
      ↔ ∃ parts, split? (Text.trim text.toList) = some parts ∧ parts.FillsLogin := by
  obtain ⟨parts, hparts, hread⟩ := read_eq_ok_iff.1 h
  obtain ⟨hosts, query, found, -, hquery, hfound, rfl⟩ := readParts_eq_ok_iff.1 hread
  obtain rfl : found = some credential := hcredential
  rw [wellFormed_iff_of_readCredential (Query.ofPairs_eq_ok_iff.1 hquery).2 hfound, hparts]
  simp

/-- Credentials that are read from a text of their own, alone or in a list, are well formed. In a
connection string they are so exactly if the login is filled. -/
theorem wellFormed_credentials (text : String)
    : (∀ credential, Credential.read text = .ok credential → credential.WellFormed)
      ∧ (∀ credentials,
          Credential.readList text = .ok credentials
          → ∀ credential ∈ credentials, credential.WellFormed)
      ∧ ∀ connection credential,
          read text = .ok connection
          → connection.credential = some credential
          → (credential.WellFormed
              ↔ ∃ parts, split? (Text.trim text.toList) = some parts ∧ parts.FillsLogin) := by
  refine ⟨?_, ?_, ?_⟩
  · intro credential h
    exact Credential.wellFormed_of_read h
  · intro credentials h credential hmem
    exact Credential.wellFormed_of_readList h hmem
  · intro connection credential h hcredential
    exact wellFormed_credential_iff h hcredential

/-- A connection string for one server with a login and nothing else. -/
def withLogin (raw : String) (credential : Credential) : ConnectionString :=
  {
    raw,
    srv := false,
    hosts := [⟨"db0", 27017⟩],
    database := none,
    credential := some credential,
    options := {}
  }

theorem wellFormed_credentials_filled
    : Credential.WellFormed (.scramSha1 "jon" "users" "warg")
      ∧ Credential.WellFormed (.gssapi "jon")
      ∧ Credential.WellFormed (.negotiated "jon" "admin" "%") := by
  have hread
      : Credential.read "jon:warg@users?uri.authMechanism=SCRAM-SHA-1"
        = .ok (.scramSha1 "jon" "users" "warg") := by
    decide +kernel
  have hlist : Credential.readList " , jon@?authMechanism=gssapi" = .ok [.gssapi "jon"] := by
    decide +kernel
  have hlogin
      : read "mongodb://jon:%@db0"
        = .ok (withLogin "mongodb://jon:%@db0" (.negotiated "jon" "admin" "%")) := by
    decide +kernel
  refine
    ⟨(wellFormed_credentials _).1 _ hread,
      (wellFormed_credentials _).2.1 _ hlist _ List.mem_cons_self, ?_⟩
  refine ((wellFormed_credentials _).2.2 _ _ hlogin rfl).2 ⟨_, by rfl, ?_, ?_, ?_⟩
  · decide
  · decide
  · decide

/-- The empty password behind a colon is read. -/
theorem not_wellFormed_emptyPassword
    : read "mongodb://jon:@db0"
        = .ok (withLogin "mongodb://jon:@db0" (.negotiated "jon" "admin" ""))
      ∧ ¬Credential.WellFormed (.negotiated "jon" "admin" "") := by
  refine ⟨by decide +kernel, ?_⟩
  intro h
  obtain ⟨-, ⟨password, hgiven, hpassword⟩, -⟩ := h.inside rfl
  exact hpassword (Option.some.inj hgiven).symm

end MongoConfig.ConnectionString
