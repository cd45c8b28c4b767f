import MongoConfig.Credential.Reader
import MongoConfig.Proofs.Address.HostText
/-! Credentials that a server can be asked with.
A mechanism that looks users up outside the server takes a user without a password, and any other
takes a user, a password and a source. What is there must say something: it is not empty. Texts of
credentials are read into such credentials only.
-/

namespace MongoConfig.Credential

/-- Whether the users of a credential are looked up outside the server. -/
def isExternal (credential : Credential) : Bool :=
  credential.mechanism.any Mechanism.isExternal

/-- A credential has what its mechanism needs, and nothing else. -/
structure WellFormed (credential : Credential) : Prop where
  user : ∀ user ∈ credential.user, user ≠ ""
  outside
    : credential.isExternal = true
      → credential.source = externalSource ∧ credential.password = none
  gssapi : credential.mechanism = some .gssapi → credential.user.isSome
  inside
    : credential.isExternal = false
      → credential.user.isSome
        ∧ (∃ password, credential.password = some password ∧ password ≠ "")
        ∧ credential.source ≠ ""

variable {credential : Credential} {mechanism : Option Mechanism}

-----------------------------------------------------------------------------------------
-- How credentials are made
-----------------------------------------------------------------------------------------

/-- Properties are up to the mechanism. -/
theorem wellFormed_withProperties_iff (properties : Dictionary String)
    : WellFormed { credential with properties } ↔ credential.WellFormed :=
  ⟨fun ⟨user, outside, gssapi, inside⟩ => ⟨user, outside, gssapi, inside⟩,
    fun ⟨user, outside, gssapi, inside⟩ => ⟨user, outside, gssapi, inside⟩⟩

theorem wellFormed_gssapi_iff {user : String} : (gssapi user).WellFormed ↔ user ≠ "" := by
  constructor
  · intro h
    exact h.user user rfl
  · intro huser
    constructor
    · rintro _ ⟨⟩
      exact huser
    · intro _
      exact ⟨rfl, rfl⟩
    · intro _
      rfl
    · intro hinside
      cases hinside

theorem wellFormed_x509_iff {user : Option String}
    : (x509 user).WellFormed ↔ ∀ name ∈ user, name ≠ "" := by
  constructor
  · intro h
    exact h.user
  · intro huser
    constructor
    · exact huser
    · intro _
      exact ⟨rfl, rfl⟩
    · intro hgssapi
      cases hgssapi
    · intro hinside
      cases hinside

theorem wellFormed_withPassword_iff {user source password : String}
    (hmechanism : mechanism.any Mechanism.isExternal = false)
    : (withPassword mechanism user source password).WellFormed
      ↔ user ≠ "" ∧ password ≠ "" ∧ source ≠ "" := by
  constructor
  · intro h
    obtain ⟨-, ⟨given, hgiven, hpassword⟩, hsource⟩ := h.inside hmechanism
    obtain rfl := Option.some.inj hgiven
    exact ⟨h.user user rfl, hpassword, hsource⟩
  · rintro ⟨huser, hpassword, hsource⟩
    constructor
    · rintro _ ⟨⟩
      exact huser
    · intro houtside
      exact absurd (houtside.symm.trans hmechanism) (by decide)
    · intro _
      rfl
    · intro _
      exact ⟨rfl, ⟨password, rfl, hpassword⟩, hsource⟩

-----------------------------------------------------------------------------------------
-- How credentials are read
-----------------------------------------------------------------------------------------

/-- Without a mechanism, or with one that looks users up in the server, nothing may be missing. -/
theorem of_assemble_withPassword {user source : String} {password : Option String}
    (hmechanism : mechanism.any Mechanism.isExternal = false)
    (h : assemble mechanism user password source = .ok credential)
    : ∃ given,
        credential = withPassword mechanism user source given
        ∧ user ≠ ""
        ∧ given ≠ ""
        ∧ source ≠ "" := by
  match mechanism, hmechanism with
  | none, _ | some .plain, _ | some .scramSha1, _ | some .scramSha256, _ =>
      simp only [assemble] at h
      split at h
      · cases h
      · rename_i huser
        split at h
        · cases h
        · rename_i given hgiven
          split at h
          · cases h
          · rename_i hsource
            have hpassword : given ≠ "" := by
              simpa using (Option.filter_eq_some_iff.1 hgiven).2
            exact ⟨given, (Except.ok.inj h).symm, huser, hpassword, hsource⟩

/-- Parts are put together only if none that is needed is missing or empty. -/
theorem wellFormed_of_assemble {user source : String} {password : Option String}
    (h : assemble mechanism user password source = .ok credential)
    : credential.WellFormed := by
  cases hmechanism : mechanism.any Mechanism.isExternal with
  | true =>
      match mechanism, hmechanism with
      | some .gssapi, _ =>
          simp only [assemble] at h
          split at h
          · cases h
          · rename_i huser
            cases h
            exact wellFormed_gssapi_iff.2 huser
      | some .x509, _ =>
          simp only [assemble] at h
          split at h
          · cases h
          · rename_i huser
            cases h
            refine wellFormed_x509_iff.2 ?_
            rintro _ ⟨⟩
            exact huser
  | false =>
      obtain ⟨given, rfl, huser, hpassword, hsource⟩ := of_assemble_withPassword hmechanism h
      exact (wellFormed_withPassword_iff hmechanism).2 ⟨huser, hpassword, hsource⟩

theorem wellFormed_of_read {text : String} (h : read text = .ok credential)
    : credential.WellFormed := by
  rw [read, readTrimmed] at h
  split at h
  · cases h
  · obtain ⟨options, -, h⟩ := bind_eq_ok_iff.1 h
    obtain ⟨assembled, hassembled, h⟩ := bind_eq_ok_iff.1 h
    cases h
    refine (wellFormed_withProperties_iff options.properties).2 ?_
    exact wellFormed_of_assemble (mapError_eq_ok_iff.1 hassembled)

/-- Every credential of a list is read on its own. -/
theorem wellFormed_of_readList {text : String} {credentials : List Credential}
    (h : readList text = .ok credentials) (hmem : credential ∈ credentials)
    : credential.WellFormed := by
  obtain ⟨entry, -, hread⟩ := exists_of_mapM_eq_ok h hmem
  exact wellFormed_of_read hread

end MongoConfig.Credential
