import MongoConfig.Proofs.ConnectionString.Parts
import MongoConfig.Proofs.Text.Blank
/-! A password has no influence on how the rest of its connection string is read.
The reader cuts the password off with the user info. From there on it goes into the credential and
nowhere else: which error there is, and what every other part says, is the same for any password.
-/

namespace MongoConfig

/-- The credential with the same stand-in for every password. -/
def Credential.withoutPassword (credential : Credential) : Credential :=
  { credential with password := credential.password.map fun _ => hiddenPassword }

namespace ConnectionString

/-- What is left of a connection string without its password and the text that holds it. -/
def withoutPassword (connection : ConnectionString) : ConnectionString :=
  {
    connection with
      raw := "",
      credential := connection.credential.map Credential.withoutPassword
  }

/-- The text of a login and of anything behind it. -/
def textWithLogin (srv : Bool) (user password rest : String) : String :=
  String.ofList (schemeOf srv) ++ user ++ ":" ++ password ++ "@" ++ rest

/-- Both texts are refused for the same reason, or both are read and say the same apart from the
password. -/
inductive SameButForPassword
    : Except TextError ConnectionString → Except TextError ConnectionString → Prop
  | refused (error : TextError) : SameButForPassword (.error error) (.error error)
  | read {first second : ConnectionString} (h : first.withoutPassword = second.withoutPassword)
      : SameButForPassword (.ok first) (.ok second)

-----------------------------------------------------------------------------------------
-- The credential
-----------------------------------------------------------------------------------------

/-- A user with a password always makes up a credential. Which one it is depends on the password in
the password alone. -/
theorem exists_readCredential {first second : List Char} {user password otherPassword : String}
    (hfirst : Credential.readUserInfo first = (user, some password))
    (hsecond : Credential.readUserInfo second = (user, some otherPassword))
    (database : Option String) (query : Query)
    : ∃ credential other,
        readCredential (some first) database query = .ok (some credential)
        ∧ readCredential (some second) database query = .ok (some other)
        ∧ credential.withoutPassword = other.withoutPassword := by
  simp only [readCredential, Option.map_some, hfirst, hsecond]
  cases query.mechanism with
  | none => exact ⟨_, _, rfl, rfl, rfl⟩
  | some mechanism => cases mechanism <;> exact ⟨_, _, rfl, rfl, rfl⟩

-----------------------------------------------------------------------------------------
-- The parts
-----------------------------------------------------------------------------------------

/-- Parts that differ in the password alone are read alike. -/
theorem readParts_sameButForPassword {first second : List Char}
    {user password otherPassword : String}
    (hfirst : Credential.readUserInfo first = (user, some password))
    (hsecond : Credential.readUserInfo second = (user, some otherPassword))
    (raw otherRaw : String) (parts : Parts)
    : SameButForPassword (readParts raw { parts with userInfo := some first })
        (readParts otherRaw { parts with userInfo := some second }) := by
  simp only [readParts]
  cases readHosts parts.srv parts.hosts with
  | error error => exact .refused error
  | ok hosts =>
      cases Query.ofPairs (Text.Percent.readPairs parts.query) with
      | error error => exact .refused error
      | ok query =>
          obtain ⟨credential, other, hcredential, hother, hsame⟩ :=
            exists_readCredential hfirst hsecond
              (if parts.database.isEmpty then none else some (String.ofList parts.database))
              query
          simp only [bind, Except.bind, hcredential, hother, Except.mapError]
          refine .read ?_
          simp only [withoutPassword, Option.map_some, hsame]

/-- The user ends at the first colon, and all that follows is the password. -/
theorem readUserInfo_append_cons {user : List Char} (h : ':' ∉ user) (password : List Char)
    : Credential.readUserInfo (user ++ ':' :: password)
      = (String.ofList (Text.Percent.decode user),
          some (String.ofList (Text.Percent.decode password))) := by
  rw [Credential.readUserInfo, Text.cutFirst_append h]

-----------------------------------------------------------------------------------------
-- The text
-----------------------------------------------------------------------------------------

/-- Blanks are cut off behind the `@`, for a scheme stands in front. -/
theorem trim_schemeOf_append (srv : Bool) (login rest : List Char)
    : Text.trim (schemeOf srv ++ (login ++ '@' :: rest))
      = schemeOf srv ++ (login ++ '@' :: Text.trimEnd rest) := by
  have hfirst : (schemeOf srv ++ login).head? = some 'm' := by
    cases srv <;> rfl
  have hstart : Text.trimStart (schemeOf srv ++ login) = schemeOf srv ++ login := by
    refine Text.trimStart_eq_self_iff.2 fun c hc => ?_
    rw [hfirst, Option.mem_some_iff] at hc
    obtain rfl := hc
    decide
  rw [← List.append_assoc, Text.trim_append_cons (by decide), hstart, List.append_assoc]

/-- A text with a login has the parts of what follows the login, except for the user info. -/
theorem read_textWithLogin {user password : String}
    (huser : ∀ c ∈ ['/', '?'], c ∉ user.toList)
    (hpassword : ∀ c ∈ ['/', '?'], c ∉ password.toList) (srv : Bool) (rest : String)
    : ∃ raw,
        read (textWithLogin srv user password rest)
        = readParts raw
            { splitAfterScheme srv (Text.trimEnd rest.toList) with
                userInfo :=
                  some
                    (user.toList ++ ':' :: (password.toList
                      ++ Text.afterSign '@'
                          (splitAfterScheme srv (Text.trimEnd rest.toList)).userInfo)) } := by
  let login := user.toList ++ ':' :: password.toList
  have hlogin : ∀ c ∈ ['/', '?'], c ∉ login := by
    intro c hc hmem
    rcases List.mem_append.1 hmem with hmem | hmem
    · exact huser c hc hmem
    · rcases List.mem_cons.1 hmem with rfl | hmem
      · exact absurd hc (by decide)
      · exact hpassword c hc hmem
  have htext
      : (textWithLogin srv user password rest).toList
        = schemeOf srv ++ (login ++ '@' :: rest.toList) := by
    simp [textWithLogin, login]
  refine ⟨String.ofList (schemeOf srv ++ (login ++ '@' :: Text.trimEnd rest.toList)), ?_⟩
  rw [read, htext, trim_schemeOf_append, split?_schemeOf,
    splitAfterScheme_append (hlogin '/' (by decide)) (hlogin '?' (by decide))]
  simp only [login, List.append_assoc, List.cons_append]

/-- Whatever follows a login, its password decides nothing but the password that is read. So the
reason for which a text is refused tells nothing about the password either. -/
theorem read_textWithLogin_of_passwords {user password otherPassword : String}
    (huser : ∀ c ∈ [':', '/', '?'], c ∉ user.toList)
    (hpassword : ∀ c ∈ ['/', '?'], c ∉ password.toList)
    (hother : ∀ c ∈ ['/', '?'], c ∉ otherPassword.toList) (srv : Bool) (rest : String)
    : SameButForPassword (read (textWithLogin srv user password rest))
        (read (textWithLogin srv user otherPassword rest)) := by
  have huncut : ∀ c ∈ ['/', '?'], c ∉ user.toList := fun c hc =>
    huser c (List.mem_cons_of_mem ':' hc)
  have hcolon : ':' ∉ user.toList := huser ':' (by decide)
  obtain ⟨raw, hread⟩ := read_textWithLogin huncut hpassword srv rest
  obtain ⟨otherRaw, hreadOther⟩ := read_textWithLogin huncut hother srv rest
  rw [hread, hreadOther]
  exact readParts_sameButForPassword (readUserInfo_append_cons hcolon _)
    (readUserInfo_append_cons hcolon _) raw otherRaw _

/-- A password full of separators is kept from an error as well as an empty one, and when the text
is read it ends up in the credential and nowhere else. -/
theorem read_textWithLogin_separatorsInPassword
    : SameButForPassword (read (textWithLogin true "a@b" "x@y:%2F,#" "c:d@host:1/db?w=1"))
        (read (textWithLogin true "a@b" "" "c:d@host:1/db?w=1"))
      ∧ SameButForPassword (read (textWithLogin true "a@b" "x@y:%2F,#" "c:d@host/db?w=1"))
        (read (textWithLogin true "a@b" "" "c:d@host/db?w=1"))
      ∧ ∃ connection,
          read (textWithLogin true "a@b" "x@y:%2F,#" "c:d@host/db?w=1") = .ok connection
          ∧ connection.credential.map (·.password) = some (some "x@y:/,#@c:d") := by
  have huser : ∀ c ∈ [':', '/', '?'], c ∉ "a@b".toList := by simp
  have hpassword : ∀ c ∈ ['/', '?'], c ∉ "x@y:%2F,#".toList := by simp
  have hempty : ∀ c ∈ ['/', '?'], c ∉ "".toList := by simp
  refine ⟨read_textWithLogin_of_passwords huser hpassword hempty true "c:d@host:1/db?w=1",
    read_textWithLogin_of_passwords huser hpassword hempty true "c:d@host/db?w=1", ?_⟩
  have hread
      : (read (textWithLogin true "a@b" "x@y:%2F,#" "c:d@host/db?w=1")).toOption.map
            (fun connection => connection.credential.map (·.password))
        = some (some (some "x@y:/,#@c:d")) := by
    decide +kernel
  cases hok : read (textWithLogin true "a@b" "x@y:%2F,#" "c:d@host/db?w=1") with
  | error error =>
      rw [hok] at hread
      cases hread
  | ok connection =>
      rw [hok] at hread
      exact ⟨connection, rfl, Option.some.inj hread⟩

end ConnectionString

end MongoConfig
