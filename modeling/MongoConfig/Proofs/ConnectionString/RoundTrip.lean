import MongoConfig.ConnectionString.Writer
import MongoConfig.Proofs.Address.RoundTrip
import MongoConfig.Proofs.ConnectionString.Parts
import MongoConfig.Proofs.ConnectionString.Query
import MongoConfig.Proofs.Credential.RoundTrip
import MongoConfig.Proofs.Text.Percent
/-! Reading a connection string undoes its composition.
No part is cut at a separator of another one: what is escaped holds no separator at all, hosts
hold those of user info, database and query as little, and the database follows the first slash
and ends at the first question mark.
-/

namespace MongoConfig.ConnectionString

/-- A text with the plain scheme has no blanks around it if its end is none. -/
theorem trimmed_scheme_append {rest : List Char} (hne : rest ≠ [])
    (hlast : ∀ c ∈ rest.getLast?, Text.isBlank c = false)
    : Text.Trimmed (scheme ++ rest) := by
  refine .append (by decide) ?_ hne hlast
  intro c hc
  cases hc
  decide

theorem isBlank_getLast?_writtenQuery (query : Option (List (String × String)))
    : ∀ text ∈ query.map Text.Percent.writePairs,
        ∀ c ∈ text.getLast?, Text.isBlank c = false := by
  intro text htext c hc
  obtain ⟨pairs, _, rfl⟩ := Option.map_eq_some_iff.1 htext
  exact Text.Percent.isBlank_of_mem_writePairs (List.mem_of_getLast? hc)

theorem readPairs_writtenQuery (query : Option (List (String × String)))
    : Text.Percent.readPairs ((query.map Text.Percent.writePairs).getD []) = query.getD [] := by
  cases query with
  | none => rfl
  | some pairs => exact Text.Percent.readPairs_writePairs pairs

namespace Composition

/-- The options of the query, decoded. -/
def pairs (composition : Composition) : List (String × String) :=
  composition.query.getD []

/-- The credential that the parts make up: the last options about authentication count, and
without a source the users are those of the database or else the default ones. -/
def credential (composition : Composition) : Option Credential :=
  let source :=
    ((Query.lastValue? "authsource" composition.pairs).or composition.database).getD
      defaultAuthSource
  composition.user.map fun (user, password) =>
    .withPassword (Query.selectedMechanism? composition.pairs) user source password

/-- Parts that can stand in one text. A mechanism is selected for a user with a password only. -/
structure Readable (composition : Composition) : Prop where
  hosts : composition.hosts ≠ []
  plain : ∀ host ∈ composition.hosts, host.Plain
  database
    : ∀ database ∈ composition.database,
        database ≠ ""
        ∧ '?' ∉ database.toList
        ∧ Text.trimEnd database.toList = database.toList
  options : ∀ pair ∈ composition.pairs, ∃ option, QueryOption.ofPair pair = .ok option
  notGssapi : Query.selectedMechanism? composition.pairs ≠ some .gssapi
  notX509 : Query.selectedMechanism? composition.pairs ≠ some .x509
  anonymous : composition.user = none → Query.selectedMechanism? composition.pairs = none

variable {composition : Composition}

-----------------------------------------------------------------------------------------
-- Cutting the text
-----------------------------------------------------------------------------------------

/-- User info and hosts hold no separator of the parts after them. -/
theorem Readable.not_mem_authority (h : composition.Readable) {c : Char} (hc : c ∈ ['/', '?'])
    : c ∉ composition.writeAuthority := by
  have hhosts : c ∉ Address.listText composition.hosts :=
    Address.not_mem_listText h.plain (by
      simp only [List.mem_cons, List.not_mem_nil, or_false] at hc ⊢
      tauto)
  have huser : c ∉ writeUser composition.user := by
    simp only [List.mem_cons, List.not_mem_nil, or_false] at hc
    cases composition.user with
    | none => simp [writeUser]
    | some info =>
        have hcolon : c ≠ ':' ∧ c ≠ '@' ∧ Text.Percent.isWritten c = false := by
          rcases hc with rfl | rfl <;> decide
        have huserInfo :=
          Credential.not_mem_writeUserInfo hcolon.2.2 hcolon.1 info.1 (some info.2)
        simp [writeUser, huserInfo, hcolon.2.1]
  simp [writeAuthority, huser, hhosts]

/-- The user info before the last `@`. -/
def writtenUserInfo (composition : Composition) : Option (List Char) :=
  composition.user.map fun (user, password) => Credential.writeUserInfo user (some password)

theorem Readable.splitAuthority_write (h : composition.Readable)
    : splitAuthority composition.writeAuthority
      = (composition.writtenUserInfo, Address.listText composition.hosts) := by
  have hhosts : '@' ∉ Address.listText composition.hosts :=
    Address.not_mem_listText h.plain (by decide)
  cases huser : composition.user with
  | none =>
      have hauthority : composition.writeAuthority = Address.listText composition.hosts := by
        simp [writeAuthority, huser, writeUser]
      rw [hauthority, splitAuthority, Text.cutLast_eq_none_iff.2 hhosts, writtenUserInfo, huser]
      rfl
  | some info =>
      have hauthority
          : composition.writeAuthority
            = Credential.writeUserInfo info.1 (some info.2)
              ++ '@' :: Address.listText composition.hosts := by
        simp [writeAuthority, huser, writeUser]
      rw [hauthority, splitAuthority, Text.cutLast_append hhosts, writtenUserInfo, huser]
      rfl

/-- The parts of the text are those that it was written from, still escaped. -/
theorem Readable.split?_write (h : composition.Readable)
    : split? composition.write.toList
      = some
          {
            srv := false,
            userInfo := composition.writtenUserInfo,
            hosts := Address.listText composition.hosts,
            database := (composition.database.map String.toList).getD [],
            query := (composition.query.map Text.Percent.writePairs).getD []
          } := by
  have hquery
      : '?'
        ∉ composition.writeAuthority
            ++ Text.afterSign '/' (composition.database.map String.toList) := by
    have hauthority := h.not_mem_authority (c := '?') (by decide)
    cases hdatabase : composition.database with
    | none => simpa [Text.afterSign] using hauthority
    | some database =>
        have hmark := (h.database database hdatabase).2.1
        simp [Text.afterSign, hauthority, hmark]
  rw [write, String.toList_ofList, List.append_assoc, List.append_assoc, split?_scheme,
    splitAfterScheme, ← List.append_assoc, Text.cutFirst_afterSign hquery]
  simp only [Text.cutFirst_afterSign (h.not_mem_authority (c := '/') (by decide)),
    h.splitAuthority_write]

-----------------------------------------------------------------------------------------
-- The ends of the text
-----------------------------------------------------------------------------------------

/-- Trimming takes nothing off the text. -/
theorem Readable.trimmed_write (h : composition.Readable)
    : Text.Trimmed composition.write.toList := by
  have hhosts := Address.isBlank_getLast?_listText h.plain
  have hauthority : ∀ c ∈ composition.writeAuthority.getLast?, Text.isBlank c = false := by
    rw [writeAuthority, List.getLast?_append_of_ne_nil _ (Address.listText_ne_nil h.hosts)]
    exact hhosts
  have hdatabase
      : ∀ text ∈ composition.database.map String.toList,
          ∀ c ∈ text.getLast?, Text.isBlank c = false := by
    intro text htext
    obtain ⟨database, hmem, rfl⟩ := Option.map_eq_some_iff.1 htext
    exact Text.trimEnd_eq_self_iff.1 (h.database database hmem).2.2
  have hquery := isBlank_getLast?_writtenQuery composition.query
  have hne : composition.writeAuthority ≠ [] := by
    simp [writeAuthority, Address.listText_ne_nil h.hosts]
  rw [write, String.toList_ofList, List.append_assoc, List.append_assoc]
  refine trimmed_scheme_append (by simp [hne]) ?_
  rw [← List.append_assoc]
  exact Text.isBlank_getLast?_afterSign
    (Text.isBlank_getLast?_afterSign hauthority (by decide) hdatabase) (by decide) hquery

-----------------------------------------------------------------------------------------
-- Reading the parts
-----------------------------------------------------------------------------------------

theorem Readable.readHosts_listText (h : composition.Readable)
    : readHosts false (Address.listText composition.hosts) = .ok composition.hosts := by
  rw [readHosts, Address.readList_listText h.plain]
  simp [bind, Except.bind, h.hosts]

theorem readPairs_query (composition : Composition)
    : Text.Percent.readPairs ((composition.query.map Text.Percent.writePairs).getD [])
      = composition.pairs :=
  readPairs_writtenQuery composition.query

theorem Readable.read_database (h : composition.Readable)
    : (if ((composition.database.map String.toList).getD []).isEmpty then
          none
        else
          some (String.ofList ((composition.database.map String.toList).getD [])))
      = composition.database := by
  cases hdatabase : composition.database with
  | none => rfl
  | some database => simp [(h.database database hdatabase).1]

theorem map_readUserInfo_writtenUserInfo (composition : Composition)
    : composition.writtenUserInfo.map Credential.readUserInfo
      = composition.user.map fun (user, password) => (user, some password) := by
  cases huser : composition.user with
  | none => simp [writtenUserInfo, huser]
  | some info => simp [writtenUserInfo, huser, Credential.readUserInfo_writeUserInfo]

/-- User info without an external mechanism gives the credential of user and password. -/
theorem Readable.readCredential_written (h : composition.Readable) {query : Query}
    (hmechanism : query.mechanism = Query.selectedMechanism? composition.pairs)
    (hsource : query.authSource = Query.lastValue? "authsource" composition.pairs)
    : readCredential (composition.writtenUserInfo) composition.database query
      = .ok composition.credential := by
  cases huser : composition.user with
  | none =>
      have hnone : query.mechanism = none := hmechanism.trans (h.anonymous huser)
      simp [readCredential, map_readUserInfo_writtenUserInfo, credential, huser, hnone]
  | some info =>
      have hgssapi : query.mechanism ≠ some .gssapi := hmechanism ▸ h.notGssapi
      have hx509 : query.mechanism ≠ some .x509 := hmechanism ▸ h.notX509
      simp only [readCredential, map_readUserInfo_writtenUserInfo, Option.map_some, credential,
        huser, ← hmechanism, ← hsource]

/-- Reading undoes composition: the hosts, the database and the options come back as they were, and
the credential holds the user and the password before they were escaped. -/
theorem read_write_of_readable (h : composition.Readable)
    : ∃ query,
        Query.ofPairs composition.pairs = .ok query
        ∧ read composition.write
          = .ok
              {
                raw := composition.write,
                srv := false,
                hosts := composition.hosts,
                database := composition.database,
                credential := composition.credential,
                options := query.options
              } := by
  obtain ⟨query, hquery, hmechanism, hsource⟩ := Query.exists_ofPairs h.options
  refine ⟨query, hquery, ?_⟩
  have htrim : Text.trim composition.write.toList = composition.write.toList :=
    Text.trim_of_trimmed h.trimmed_write
  have hpairs := readPairs_query composition
  have hcredential := h.readCredential_written hmechanism hsource
  rw [read, htrim, h.split?_write]
  simp only [readParts, h.readHosts_listText, hpairs, hquery, h.read_database]
  simp [bind, Except.bind, Except.mapError, hcredential]

/-- A user and a password that are full of separators, an IPv6 host, and options that name the
mechanism twice. -/
def separatorsEverywhere : Composition :=
  {
    user := some ("a:b@ü/?", "p%41,&="),
    hosts := [⟨"::1", 27018⟩, ⟨"db.example", 1⟩],
    database := some "us/ers@1",
    query :=
      some
        [("authMechanism", "PLAIN"), ("AUTHMECHANISM", "SCRAM-SHA-256"), ("appName", "a b&c=d"),
          ("w", "2")]
  }

theorem plain_of_separatorsEverywhere
    : ∀ host ∈ separatorsEverywhere.hosts, host.Plain := by
  intro host hhost
  simp only [separatorsEverywhere, List.mem_cons, List.not_mem_nil, or_false] at hhost
  rcases hhost with rfl | rfl
  all_goals
    refine ⟨by decide, by decide, by decide, ?_⟩
    simp only [Address.separators, List.forall_mem_cons, List.not_mem_nil, false_imp_iff,
      implies_true, and_true]
    decide

theorem read_write_separatorsEverywhere
    : ∃ query,
        Query.ofPairs separatorsEverywhere.pairs = .ok query
        ∧ read separatorsEverywhere.write
          = .ok
              {
                raw := separatorsEverywhere.write,
                srv := false,
                hosts := separatorsEverywhere.hosts,
                database := separatorsEverywhere.database,
                credential := some (.scramSha256 "a:b@ü/?" "us/ers@1" "p%41,&="),
                options := query.options
              } :=
  read_write_of_readable
    {
      hosts := by decide,
      plain := plain_of_separatorsEverywhere,
      database := by
        intro database hdatabase
        cases hdatabase
        decide
      options := by
        intro pair hpair
        simp only [pairs, separatorsEverywhere, Option.getD_some, List.mem_cons,
          List.not_mem_nil, or_false] at hpair
        rcases hpair with rfl | rfl | rfl | rfl <;> exact ⟨_, rfl⟩
      notGssapi := by decide,
      notX509 := by decide,
      anonymous := nofun
    }

end Composition

end MongoConfig.ConnectionString
