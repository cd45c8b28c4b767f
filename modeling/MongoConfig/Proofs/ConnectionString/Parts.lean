import MongoConfig.ConnectionString.Reader
import MongoConfig.Proofs.Address.HostText
/-! The parts of a connection string, from the front of its text to the end.
A text that starts with a login is cut as the text behind the login is: only the user info grows. A
text that gets one more option at its end keeps all its other parts.
-/

namespace MongoConfig.ConnectionString

/-- The scheme with SRV lookup or without. -/
def schemeOf (srv : Bool) : List Char :=
  if srv then srvScheme else scheme

/-- A text with the plain scheme does not have the other one. -/
theorem split?_scheme (rest : List Char)
    : split? (scheme ++ rest) = some (splitAfterScheme false rest) := by
  have hsrv : Text.stripStart? srvScheme (scheme ++ rest) = none := by
    rfl
  rw [split?, hsrv, Text.stripStart?_eq_some_iff.2 rfl]
  rfl

theorem split?_schemeOf (srv : Bool) (rest : List Char)
    : split? (schemeOf srv ++ rest) = some (splitAfterScheme srv rest) := by
  cases srv with
  | false => exact split?_scheme rest
  | true =>
      have hsrv : Text.stripStart? srvScheme (srvScheme ++ rest) = some rest :=
        Text.stripStart?_eq_some_iff.2 rfl
      change split? (srvScheme ++ rest) = _
      rw [split?, hsrv]

-----------------------------------------------------------------------------------------
-- A login in front
-----------------------------------------------------------------------------------------

/-- User info ends at the last `@`, so it takes in what stands before another one. -/
theorem splitAuthority_append (login rest : List Char)
    : splitAuthority (login ++ '@' :: rest)
      = (some (login ++ Text.afterSign '@' (splitAuthority rest).1), (splitAuthority rest).2) := by
  cases hcut : Text.cutLast '@' rest with
  | none =>
      have hnot : '@' ∉ rest := Text.cutLast_eq_none_iff.1 hcut
      simp [splitAuthority, hcut, Text.cutLast_append hnot, Text.afterSign]
  | some cut =>
      obtain ⟨userInfo, hosts⟩ := cut
      obtain ⟨rfl, hnot⟩ := Text.eq_append_of_cutLast hcut
      have hlast
          : Text.cutLast '@' (login ++ '@' :: (userInfo ++ '@' :: hosts))
            = some (login ++ '@' :: userInfo, hosts) := by
        rw [← List.cons_append, ← List.append_assoc]
        exact Text.cutLast_append hnot
      simp [splitAuthority, hcut, hlast, Text.afterSign]

/-- A login that is not cut itself goes to the user info and leaves the other parts as they are. -/
theorem splitAfterScheme_append {login : List Char} (hslash : '/' ∉ login) (hmark : '?' ∉ login)
    (srv : Bool) (rest : List Char)
    : splitAfterScheme srv (login ++ '@' :: rest)
      = { splitAfterScheme srv rest with
            userInfo :=
              some (login ++ Text.afterSign '@' (splitAfterScheme srv rest).userInfo) } := by
  have hcut {separator : Char} (hlogin : separator ∉ login) (hne : separator ≠ '@')
      (back : List Char)
      : (Text.cutFirst separator (login ++ '@' :: back)).getD (login ++ '@' :: back, [])
        = (login ++ '@' :: ((Text.cutFirst separator back).getD (back, [])).1,
            ((Text.cutFirst separator back).getD (back, [])).2) := by
    have hfront : separator ∉ login ++ ['@'] := by simp [hlogin, hne]
    simpa using Text.cutFirst_append_of_not_mem hfront back
  rw [splitAfterScheme, hcut hmark (by decide)]
  simp only [hcut hslash (by decide), splitAuthority_append]
  rfl

-----------------------------------------------------------------------------------------
-- Reading the parts
-----------------------------------------------------------------------------------------

namespace Parts

/-- The decoded options of the query in order. -/
def pairs (parts : Parts) : List (String × String) :=
  Text.Percent.readPairs parts.query

/-- The name of the database, if one is written. -/
def database? (parts : Parts) : Option String :=
  if parts.database.isEmpty then none else some (String.ofList parts.database)

theorem database?_ne_empty (parts : Parts) : parts.database? ≠ some "" := by
  rw [database?]
  split
  · intro h
    cases h
  · rename_i hne
    intro h
    rw [Option.some.injEq, String.ofList_eq_empty_iff] at h
    exact hne (List.isEmpty_iff.2 h)

end Parts

/-- Hosts have been read if there is one at least, and with SRV lookup a single one without a
colon. -/
theorem readHosts_eq_ok_iff {srv : Bool} {text : List Char} {hosts : List Address}
    : readHosts srv text = .ok hosts
      ↔ Address.readList (String.ofList text) = .ok hosts
        ∧ hosts ≠ []
        ∧ (srv = true → hosts.length = 1 ∧ ':' ∉ text) := by
  rw [readHosts, bind_eq_ok_iff]
  constructor
  · rintro ⟨found, hfound, h⟩
    split at h
    · cases h
    · rename_i hsome
      split at h
      · cases h
      · rename_i hone
        obtain rfl := Except.ok.inj h
        refine ⟨hfound, by simpa using hsome, ?_⟩
        rintro rfl
        simpa using hone
  · rintro ⟨hfound, hsome, hone⟩
    refine ⟨hosts, hfound, ?_⟩
    rw [if_neg (by simpa using hsome), if_neg]
    cases srv with
    | false => simp
    | true => simpa using hone rfl

theorem read_eq_ok_iff {text : String} {connection : ConnectionString}
    : read text = .ok connection
      ↔ ∃ parts,
          split? (Text.trim text.toList) = some parts
          ∧ readParts (String.ofList (Text.trim text.toList)) parts = .ok connection := by
  rw [read]
  cases split? (Text.trim text.toList) <;> simp

/-- A connection string has been read if each of its parts has been, and it consists of these. -/
theorem readParts_eq_ok_iff {raw : String} {parts : Parts} {connection : ConnectionString}
    : readParts raw parts = .ok connection
      ↔ ∃ hosts query credential,
          readHosts parts.srv parts.hosts = .ok hosts
          ∧ Query.ofPairs parts.pairs = .ok query
          ∧ readCredential parts.userInfo parts.database? query = .ok credential
          ∧ connection
            = {
                raw,
                srv := parts.srv,
                hosts,
                database := parts.database?,
                credential,
                options := query.options
              } := by
  have hunfold
      : readParts raw parts
        = readHosts parts.srv parts.hosts >>= fun hosts =>
            Query.ofPairs parts.pairs >>= fun query =>
              (readCredential parts.userInfo parts.database? query).mapError
                  TextError.connectionString
                >>= fun credential =>
                  .ok
                    {
                      raw,
                      srv := parts.srv,
                      hosts,
                      database := parts.database?,
                      credential,
                      options := query.options
                    } :=
    rfl
  rw [hunfold]
  simp only [bind_eq_ok_iff, mapError_eq_ok_iff, Except.ok.injEq, eq_comm (a := connection)]
  constructor
  · rintro ⟨hosts, hhosts, query, hquery, credential, hcredential, hconnection⟩
    exact ⟨hosts, query, credential, hhosts, hquery, hcredential, hconnection⟩
  · rintro ⟨hosts, query, credential, hhosts, hquery, hcredential, hconnection⟩
    exact ⟨hosts, hhosts, query, hquery, credential, hcredential, hconnection⟩

/-- An SRV name that was read stands alone and holds no colon, for none stood in its text. -/
theorem srvName_of_read {text : String} {connection : ConnectionString}
    (h : read text = .ok connection) (hsrv : connection.srv = true)
    : ∃ address, connection.hosts = [address] ∧ ':' ∉ address.host.toList := by
  obtain ⟨parts, -, hread⟩ := read_eq_ok_iff.1 h
  obtain ⟨hosts, query, credential, hhosts, -, -, rfl⟩ := readParts_eq_ok_iff.1 hread
  obtain ⟨hlist, -, halone⟩ := readHosts_eq_ok_iff.1 hhosts
  obtain ⟨hone, hcolon⟩ := halone hsrv
  obtain ⟨address, rfl⟩ := List.length_eq_one_iff.1 hone
  refine ⟨address, rfl, ?_⟩
  intro hmem
  have hstood := (Address.mem_of_readList hlist List.mem_cons_self (by decide +kernel) hmem).1
  rw [String.toList_ofList] at hstood
  exact hcolon hstood

end MongoConfig.ConnectionString
