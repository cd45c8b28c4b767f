import Mathlib.Logic.Relation
import MongoConfig.Proofs.Address.Grammar
import MongoConfig.Proofs.ConnectionString.PairOrder
import MongoConfig.Proofs.ConnectionString.Parts
/-! Texts of connection strings that say the same in other words.
Hosts can be written in any case and with the default port or without it; the names of options can
be written in any case, options for different things can stand in any order, and names that are not
known count for nothing. All parts that are read are the same then. But a connection string also
keeps its text, and two of them are compared with their texts.
-/

namespace MongoConfig

-----------------------------------------------------------------------------------------
-- Hosts
-----------------------------------------------------------------------------------------

namespace Address

/-- Two entries of a list of hosts are the same text, or they write the same address: one host, in
any case, and one port, which can be left out if it is the default one. -/
def SameEntry (entry other : List Char) : Prop :=
  entry = other
  ∨ ∃ host otherHost port,
      WrittenAs host port (Text.trim entry)
      ∧ WrittenAs otherHost port (Text.trim other)
      ∧ Text.lower (Text.trim host) = Text.lower (Text.trim otherHost)

/-- The addresses of the entries that are not blank. -/
def readEntries (entries : List (List Char)) : Except TextError (List Address) :=
  (((entries.map Text.trim).filter (!·.isEmpty)).map String.ofList).mapM read

theorem readList_ofList (text : List Char)
    : readList (String.ofList text) = readEntries (Text.pieces ',' text) := by
  rw [readList, entries, String.toList_ofList, readEntries]

theorem readEntries_cons_of_blank {entry : List Char} (h : Text.trim entry = [])
    (rest : List (List Char))
    : readEntries (entry :: rest) = readEntries rest := by
  simp [readEntries, h]

theorem readEntries_cons {entry : List Char} (h : Text.trim entry ≠ []) (rest : List (List Char))
    : readEntries (entry :: rest)
      = read (String.ofList (Text.trim entry)) >>= fun address =>
          readEntries rest >>= fun more => .ok (address :: more) := by
  have hkept
      : (Text.trim entry :: rest.map Text.trim).filter (!·.isEmpty)
        = Text.trim entry :: (rest.map Text.trim).filter (!·.isEmpty) :=
    List.filter_cons_of_pos (by simpa using h)
  rw [readEntries, List.map_cons, hkept, List.map_cons, List.mapM_cons]
  rfl

theorem WrittenAs.ne_nil {host text : List Char} {port : UInt16} (h : WrittenAs host port text)
    : text ≠ [] := by
  cases h with
  | plain hhost => exact List.append_ne_nil_of_left_ne_nil hhost _
  | bracketed => exact List.cons_ne_nil _ _

theorem WrittenAs.read {host text : List Char} {port : UInt16}
    (h : WrittenAs host port (Text.trim text))
    : read (String.ofList (Text.trim text)) = .ok (ofHost (String.ofList host) port) := by
  rw [read_eq_ok_iff, String.toList_ofList, Text.trim_trim]
  exact readTrimmed_eq_ok_iff_writtenAs.2 ⟨host, port, h, rfl⟩

theorem ofHost_of_lower {host other : List Char}
    (h : Text.lower (Text.trim host) = Text.lower (Text.trim other)) (port : UInt16)
    : ofHost (String.ofList host) port = ofHost (String.ofList other) port := by
  rw [ofHost, ofHost, String.toList_ofList, String.toList_ofList, h]

/-- Lists are read alike if their entries are the same one by one, by induction on them. -/
theorem readEntries_of_sameEntry {entries others : List (List Char)}
    (h : List.Forall₂ SameEntry entries others)
    : readEntries entries = readEntries others := by
  induction h with
  | nil => rfl
  | @cons entry other rest more hentry _ ih =>
      rcases hentry with rfl | ⟨host, otherHost, port, hwritten, hother, hsame⟩
      · by_cases hblank : Text.trim entry = []
        · rw [readEntries_cons_of_blank hblank, readEntries_cons_of_blank hblank, ih]
        · rw [readEntries_cons hblank, readEntries_cons hblank, ih]
      · rw [readEntries_cons hwritten.ne_nil, readEntries_cons hother.ne_nil, hwritten.read,
          hother.read, ofHost_of_lower hsame, ih]

end Address

-----------------------------------------------------------------------------------------
-- Options
-----------------------------------------------------------------------------------------

namespace Query

/-- One change to the pairs of a query that does not matter: a key in another case, two neighbours
that name no common field, and a key that names nothing. -/
inductive Reworded : List (String × String) → List (String × String) → Prop
  | keyCase {key otherKey} (h : Text.lower key.toList = Text.lower otherKey.toList)
    (value front back)
    : Reworded (front ++ (key, value) :: back) (front ++ (otherKey, value) :: back)
  | order {first second : String × String}
    (h : ∀ field : Field, field.isNamedBy first = true → field.isNamedBy second = false)
    (front back)
    : Reworded (front ++ first :: second :: back) (front ++ second :: first :: back)
  | unknown {pair} (h : isKnown pair = false) (front back)
    : Reworded (front ++ pair :: back) (front ++ back)

theorem Field.isNamedBy_of_lower {key otherKey : String}
    (h : Text.lower key.toList = Text.lower otherKey.toList) (field : Field)
    (value otherValue : String)
    : field.isNamedBy (key, value) = field.isNamedBy (otherKey, otherValue) := by
  simp only [isNamedBy, QueryOption.isNamed, h]

/-- No change takes a value from a field, gives it one or moves two values of it. -/
theorem Reworded.sameValuesPerField {pairs others : List (String × String)}
    (h : Reworded pairs others)
    : SameValuesPerField pairs others := by
  intro field
  cases h with
  | @keyCase key otherKey hkey value front back =>
      have hnamed := field.isNamedBy_of_lower hkey value value
      cases hother : field.isNamedBy (otherKey, value) <;>
        simp [List.filter_append, hnamed, hother]
  | @order first second hfields front back =>
      have hfield := hfields field
      cases hfirst : field.isNamedBy first with
      | false =>
          cases hsecond : field.isNamedBy second <;>
            simp [List.filter_append, hfirst, hsecond]
      | true => simp [List.filter_append, hfirst, hfield hfirst]
  | @unknown pair hunknown front back =>
      have hnot : field.isNamedBy pair = false := by
        by_contra hnamed
        rw [Bool.not_eq_false] at hnamed
        rw [isKnown_iff.2 ⟨field, hnamed⟩] at hunknown
        cases hunknown
      simp [List.filter_append, hnot]

/-- Any number of changes, made or taken back, leaves each field the values that it has. -/
theorem sameValuesPerField_of_eqvGen {pairs others : List (String × String)}
    (h : Relation.EqvGen Reworded pairs others)
    : SameValuesPerField pairs others := by
  induction h with
  | rel _ _ step => exact step.sameValuesPerField
  | refl _ => exact fun _ => rfl
  | symm _ _ _ ih => exact ih.symm
  | trans _ _ _ _ _ first second => exact fun field => (first field).trans (second field)

end Query

-----------------------------------------------------------------------------------------
-- Texts
-----------------------------------------------------------------------------------------

namespace ConnectionString

/-- The written parts of two texts differ in notation only. -/
structure Parts.SameMeaning (parts others : Parts) : Prop where
  srv : parts.srv = others.srv
  userInfo : parts.userInfo = others.userInfo
  hosts
    : List.Forall₂ Address.SameEntry (Text.pieces ',' parts.hosts) (Text.pieces ',' others.hosts)
  database : parts.database = others.database
  pairs : Relation.EqvGen Query.Reworded parts.pairs others.pairs

/-- Two texts are connection strings in different notation. -/
def SameInOtherWords (text other : String) : Prop :=
  ∃ parts others,
    split? (Text.trim text.toList) = some parts
    ∧ split? (Text.trim other.toList) = some others
    ∧ parts.SameMeaning others

/-- All that was read from the parts of two texts is equal. -/
structure SameParts (first second : ConnectionString) : Prop where
  srv : first.srv = second.srv
  hosts : first.hosts = second.hosts
  database : first.database = second.database
  credential : first.credential = second.credential
  options : first.options = second.options

variable {text other : String} {first second : ConnectionString}

theorem SameParts.refl (connection : ConnectionString) : connection.SameParts connection :=
  ⟨rfl, rfl, rfl, rfl, rfl⟩

/-- Parts that differ in notation only are read alike. -/
theorem Parts.SameMeaning.sameParts {parts others : Parts} (h : parts.SameMeaning others)
    {raw otherRaw : String} (hfirst : readParts raw parts = .ok first)
    (hsecond : readParts otherRaw others = .ok second)
    : first.SameParts second := by
  obtain ⟨hosts, query, credential, hhosts, hquery, hcredential, rfl⟩ :=
    readParts_eq_ok_iff.1 hfirst
  obtain ⟨otherHosts, otherQuery, other, hotherHosts, hotherQuery, hother, rfl⟩ :=
    readParts_eq_ok_iff.1 hsecond
  have hdatabase : parts.database? = others.database? := by
    rw [Parts.database?, Parts.database?, h.database]
  obtain rfl : hosts = otherHosts := by
    have hread := (readHosts_eq_ok_iff.1 hhosts).1
    have hreadOther := (readHosts_eq_ok_iff.1 hotherHosts).1
    rw [Address.readList_ofList] at hread hreadOther
    rw [Address.readEntries_of_sameEntry h.hosts, hreadOther] at hread
    exact (Except.ok.inj hread).symm
  obtain rfl : query = otherQuery := by
    have hsame := (Query.sameValuesPerField_of_eqvGen h.pairs).ofPairs_eq_ok hquery
    exact Except.ok.inj (hsame.symm.trans hotherQuery)
  obtain rfl : credential = other := by
    rw [h.userInfo, hdatabase] at hcredential
    exact Except.ok.inj (hcredential.symm.trans hother)
  exact ⟨h.srv, rfl, hdatabase, rfl, rfl⟩

theorem SameInOtherWords.sameParts (h : SameInOtherWords text other)
    (hfirst : read text = .ok first) (hsecond : read other = .ok second)
    : first.SameParts second := by
  obtain ⟨parts, others, hparts, hothers, hsame⟩ := h
  obtain ⟨found, hfound, hread⟩ := read_eq_ok_iff.1 hfirst
  obtain ⟨otherFound, hotherFound, hotherRead⟩ := read_eq_ok_iff.1 hsecond
  obtain rfl : parts = found := Option.some.inj (hparts.symm.trans hfound)
  obtain rfl : others = otherFound := Option.some.inj (hothers.symm.trans hotherFound)
  exact hsame.sameParts hread hotherRead

/-- A connection string keeps its text without the blanks around it. -/
theorem raw_of_read {connection : ConnectionString} (h : read text = .ok connection)
    : connection.raw = String.ofList (Text.trim text.toList) := by
  obtain ⟨parts, -, hread⟩ := read_eq_ok_iff.1 h
  obtain ⟨hosts, query, credential, -, -, -, rfl⟩ := readParts_eq_ok_iff.1 hread
  rfl

theorem raw_eq_iff (hfirst : read text = .ok first) (hsecond : read other = .ok second)
    : first.raw = second.raw ↔ Text.trim text.toList = Text.trim other.toList := by
  rw [raw_of_read hfirst, raw_of_read hsecond, String.ofList_inj]

/-- Equal texts are read as equal parts. -/
theorem eq_iff_trim_eq (hfirst : read text = .ok first) (hsecond : read other = .ok second)
    : first = second ↔ Text.trim text.toList = Text.trim other.toList := by
  constructor
  · rintro rfl
    exact (raw_eq_iff hfirst hsecond).1 rfl
  · intro htrim
    have hsame : read text = read other := by rw [read, read, htrim]
    exact Except.ok.inj (hfirst.symm.trans (hsame.trans hsecond))

/-- Connection strings are compared by their texts as well as by their parts. So equal ones have
equal parts, but of two texts that say the same in other words both are read as the same parts, and
compare equal only if they are one text but for the blanks around it. -/
theorem beq_iff_sameParts_and_trim_eq (hfirst : read text = .ok first)
    (hsecond : read other = .ok second)
    : ((first == second) = true
        ↔ first.SameParts second ∧ Text.trim text.toList = Text.trim other.toList)
      ∧ (SameInOtherWords text other
        → first.SameParts second
          ∧ ((first == second) = true
            ↔ Text.trim text.toList = Text.trim other.toList)) := by
  have hbeq := eq_iff_trim_eq hfirst hsecond
  rw [beq_iff_eq]
  refine ⟨⟨?_, fun h => hbeq.2 h.2⟩, fun hwords => ⟨hwords.sameParts hfirst hsecond, hbeq⟩⟩
  rintro rfl
  exact ⟨SameParts.refl first, (raw_eq_iff hfirst hsecond).1 rfl⟩

/-- The connection string of two hosts with a write concern and the name of an application. -/
def respelled (raw : String) : ConnectionString :=
  {
    raw,
    srv := false,
    hosts := [⟨"db0", 27017⟩, ⟨"db1", 27017⟩],
    database := none,
    credential := none,
    options :=
      {
        applicationName := some "a",
        writeConcern := some { acknowledgment := some (.nodes 1) }
      }
  }

/-- Two texts for it that differ in every way that does not matter. -/
theorem sameInOtherWords_respelled
    : SameInOtherWords " mongodb://DB0,db1:27017/?w=1&appName=a&color=red"
        "mongodb://db0:27017, Db1 /?APPNAME=a&w=1" := by
  refine ⟨_, _, rfl, rfl, rfl, rfl, ?_, rfl, ?_⟩
  · have hfirst : Address.SameEntry "DB0".toList "db0:27017".toList :=
      Or.inr
        ⟨"DB0".toList, "db0".toList, 27017,
          Address.writtenAs_iff_split.2 ⟨by decide, _, rfl, Address.readPort_eq_ok_iff.1 rfl⟩,
          Address.writtenAs_iff_split.2 ⟨by decide, _, rfl, Address.readPort_eq_ok_iff.1 rfl⟩,
          by decide +kernel⟩
    have hsecond : Address.SameEntry "db1:27017".toList " Db1 ".toList :=
      Or.inr
        ⟨"db1".toList, "Db1".toList, 27017,
          Address.writtenAs_iff_split.2 ⟨by decide, _, rfl, Address.readPort_eq_ok_iff.1 rfl⟩,
          Address.writtenAs_iff_split.2 ⟨by decide, _, rfl, Address.readPort_eq_ok_iff.1 rfl⟩,
          by decide +kernel⟩
    exact .cons hfirst (.cons hsecond .nil)
  · have hpairs
        : Text.Percent.readPairs "w=1&appName=a&color=red".toList
          = [("w", "1"), ("appName", "a")] ++ ("color", "red") :: [] := by
      decide +kernel
    have hothers
        : Text.Percent.readPairs "APPNAME=a&w=1".toList
          = [] ++ ("APPNAME", "a") :: [("w", "1")] := by
      decide +kernel
    have horder
        : ∀ field : Query.Field,
            field.isNamedBy ("w", "1") = true → field.isNamedBy ("appName", "a") = false := by
      intro field
      cases field <;> decide +kernel
    have hkey : Text.lower "appName".toList = Text.lower "APPNAME".toList := by decide +kernel
    change
      Relation.EqvGen Query.Reworded
        (Text.Percent.readPairs "w=1&appName=a&color=red".toList)
        (Text.Percent.readPairs "APPNAME=a&w=1".toList)
    rw [hpairs, hothers]
    refine .trans _ _ _ (.rel _ _ (.unknown (by decide +kernel) _ _)) ?_
    exact .trans _ _ _ (.rel _ _ (.order horder [] [])) (.rel _ _ (.keyCase hkey "a" [] _))

theorem beq_iff_sameParts_and_trim_eq_respelled
    : (respelled "mongodb://DB0,db1:27017/?w=1&appName=a&color=red").SameParts
          (respelled "mongodb://db0:27017, Db1 /?APPNAME=a&w=1")
      ∧ ¬(respelled "mongodb://DB0,db1:27017/?w=1&appName=a&color=red"
          == respelled "mongodb://db0:27017, Db1 /?APPNAME=a&w=1") = true := by
  have hfirst
      : read " mongodb://DB0,db1:27017/?w=1&appName=a&color=red"
        = .ok (respelled "mongodb://DB0,db1:27017/?w=1&appName=a&color=red") := by
    decide +kernel
  have hsecond
      : read "mongodb://db0:27017, Db1 /?APPNAME=a&w=1"
        = .ok (respelled "mongodb://db0:27017, Db1 /?APPNAME=a&w=1") := by
    decide +kernel
  obtain ⟨hparts, hbeq⟩ :=
    (beq_iff_sameParts_and_trim_eq hfirst hsecond).2 sameInOtherWords_respelled
  exact ⟨hparts, mt hbeq.1 (by decide +kernel)⟩

/-- The connection string of one host. -/
def ofOneHost (raw : String) : ConnectionString :=
  {
    raw,
    srv := false,
    hosts := [⟨"db0", 27017⟩],
    database := none,
    credential := none,
    options := {}
  }

/-- Nothing but the case of a host and the default port tells the texts apart, and no part that is
read. -/
theorem not_beq_ofOneHost
    : read "mongodb://db0" = .ok (ofOneHost "mongodb://db0")
      ∧ read "mongodb://DB0:27017" = .ok (ofOneHost "mongodb://DB0:27017")
      ∧ (ofOneHost "mongodb://db0").SameParts (ofOneHost "mongodb://DB0:27017")
      ∧ (ofOneHost "mongodb://db0" == ofOneHost "mongodb://DB0:27017") = false :=
  ⟨by decide +kernel, by decide +kernel, ⟨rfl, rfl, rfl, rfl, rfl⟩, by decide +kernel⟩

end ConnectionString

end MongoConfig
