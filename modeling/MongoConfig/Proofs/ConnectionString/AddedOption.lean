import MongoConfig.Proofs.ConnectionString.Parts
import MongoConfig.Proofs.ConnectionString.Query
import MongoConfig.Proofs.Text.Percent
/-! Connection strings that say one thing more.
An option can be added anywhere in the query. It sets its field whatever stands around it, if no
later option has the same field, and everything else is read as without it.
-/

namespace MongoConfig

-----------------------------------------------------------------------------------------
-- One more pair
-----------------------------------------------------------------------------------------

namespace Query

/-- A field that was set stays so under a pair of another field, which is read as before. -/
theorem addPair_set {field : Field} {pair : String × String}
    (h : field.isNamedBy pair = false) (query : Query) (value : Option field.Value)
    : (query.set field value).addPair pair = (query.addPair pair).map (·.set field value) := by
  cases hknown : isKnown pair with
  | false =>
      rw [addPair_of_not_known hknown, addPair_of_not_known hknown]
      rfl
  | true =>
      obtain ⟨other, hother⟩ := isKnown_iff.1 hknown
      have hne : other ≠ field := by
        rintro rfl
        exact Bool.noConfusion (h.symm.trans hother)
      rw [addPair_of_isNamedBy hother, addPair_of_isNamedBy hother]
      cases other.read pair with
      | error error => rfl
      | ok otherValue => exact congrArg Except.ok (set_comm hne query value otherValue)

/-- By induction on the pairs, none of which names the field. -/
theorem foldlM_addPair_set {field : Field} {pairs : List (String × String)}
    (h : ∀ pair ∈ pairs, field.isNamedBy pair = false) (query : Query)
    (value : Option field.Value)
    : pairs.foldlM addPair (query.set field value)
      = (pairs.foldlM addPair query).map (·.set field value) := by
  induction pairs generalizing query with
  | nil => rfl
  | cons pair rest ih =>
      have hpair := addPair_set (h pair List.mem_cons_self) query value
      have hrest := ih fun other hother => h other (List.mem_cons_of_mem pair hother)
      rw [List.foldlM_cons, List.foldlM_cons, hpair]
      cases query.addPair pair with
      | error error => rfl
      | ok next => exact hrest next

/-- One more pair sets its field in what the others come to. -/
theorem ofPairs_append_cons {field : Field} {pair : String × String}
    (hnamed : field.isNamedBy pair = true) {value : Option field.Value}
    (hread : field.read pair = .ok value) (front : List (String × String))
    {back : List (String × String)} (hback : ∀ later ∈ back, field.isNamedBy later = false)
    : ofPairs (front ++ pair :: back) = (ofPairs (front ++ back)).map (·.set field value) := by
  rw [ofPairs, ofPairs, List.foldlM_append, List.foldlM_append]
  cases front.foldlM addPair {} with
  | error error => rfl
  | ok query =>
      have hpair : query.addPair pair = .ok (query.set field value) := by
        rw [addPair_of_isNamedBy hnamed, hread]
        rfl
      have hcons
          : (pair :: back).foldlM addPair query = back.foldlM addPair (query.set field value) := by
        rw [List.foldlM_cons, hpair]
        rfl
      exact hcons.trans (foldlM_addPair_set hback query value)

/-- A pair has the only name of a field and a value that can be read, and setting the field makes a
change to the options of the connection and none to the rest. -/
structure ChangesOptions (name : String) (pair : String × String)
    (change : ConnectionOptions → ConnectionOptions)
    : Prop where
  isNamed : QueryOption.isNamed name pair = true
  sets
    : ∃ (field : Field) (value : Option field.Value),
        field.names = [name]
        ∧ field.read pair = .ok value
        ∧ ∀ query : Query,
          query.set field value = { query with options := change query.options }

/-- One more pair makes its change to what the others come to. -/
theorem ofPairs_of_changesOptions {name : String} {pair : String × String}
    {change : ConnectionOptions → ConnectionOptions} (h : ChangesOptions name pair change)
    (front : List (String × String)) {back : List (String × String)}
    (hback : ∀ later ∈ back, QueryOption.isNamed name later = false)
    : ofPairs (front ++ pair :: back)
      = (ofPairs (front ++ back)).map fun query =>
          { query with options := change query.options } := by
  obtain ⟨field, value, hnames, hread, hset⟩ := h.sets
  have hfield : field.isNamedBy = QueryOption.isNamed name := Field.isNamedBy_of_names hnames
  rw [← hfield] at hback
  have hadded := ofPairs_append_cons ((congrFun hfield pair).trans h.isNamed) hread front hback
  rw [hadded, funext hset]

theorem set_replicaSet (query : Query) (name : String)
    : query.set .replicaSet (some name)
      = { query with options := { query.options with replicaSet := some name } } := by
  obtain ⟨options, authSource, mechanism⟩ := query
  obtain ⟨_, _, _, _, _, _, _, _, _, _, _, _, _, _, _, _, _, _, _, writeConcern⟩ := options
  cases writeConcern <;> rfl

/-- A pair that names a replica set. -/
theorem changesOptions_replicaSet {pair : String × String}
    (hnamed : QueryOption.isNamed "replicaset" pair = true)
    : ChangesOptions "replicaset" pair fun options =>
        { options with replicaSet := some pair.2 } where
  isNamed := hnamed
  sets := ⟨.replicaSet, some pair.2, rfl, rfl, fun query => set_replicaSet query pair.2⟩

end Query

namespace ConnectionString

-----------------------------------------------------------------------------------------
-- One more option in the text
-----------------------------------------------------------------------------------------

/-- The other text is the text with one more option somewhere in the query. The rest of both is the
same; it may be that neither is a connection string at all. -/
inductive CarriesAlso (pair : String × String) (text other : String) : Prop
  | unknownScheme (htext : split? (Text.trim text.toList) = none)
      (hother : split? (Text.trim other.toList) = none)
  | query {parts : Parts} {query : List Char} {front back : List (String × String)}
      (htext : split? (Text.trim text.toList) = some parts)
      (hother : split? (Text.trim other.toList) = some { parts with query })
      (hpairs : parts.pairs = front ++ back)
      (hmore : Text.Percent.readPairs query = front ++ pair :: back)

/-- No option of a text has a name. -/
def LacksOption (name text : String) : Prop :=
  ∀ parts,
    split? (Text.trim text.toList) = some parts
    → ∀ pair ∈ parts.pairs, QueryOption.isNamed name pair = false

/-- The connection string of a text that names a replica set as well. -/
def namingReplicaSet (connection : ConnectionString) (raw name : String) : ConnectionString :=
  { connection with raw, options := { connection.options with replicaSet := some name } }

/-- The connection string of a text with one more option, which makes a change to the others. -/
def withOptions (connection : ConnectionString) (raw : String)
    (change : ConnectionOptions → ConnectionOptions) : ConnectionString :=
  { connection with raw, options := change connection.options }

section OneOption

variable {name : String} {pair : String × String} {change : ConnectionOptions → ConnectionOptions}

/-- Parts with one more option in the query say nothing else that they did not say without it. -/
theorem readParts_withOptions {parts : Parts} {query : List Char}
    {front back : List (String × String)} (hchanges : Query.ChangesOptions name pair change)
    (hback : ∀ later ∈ back, QueryOption.isNamed name later = false)
    (hpairs : parts.pairs = front ++ back)
    (hmore : Text.Percent.readPairs query = front ++ pair :: back) (raw otherRaw : String)
    : readParts otherRaw { parts with query }
      = (readParts raw parts).map (·.withOptions otherRaw change) := by
  have hquery := Query.ofPairs_of_changesOptions hchanges front hback
  rw [← hmore, ← hpairs, Parts.pairs] at hquery
  simp only [readParts, hquery]
  cases readHosts parts.srv parts.hosts with
  | error error => rfl
  | ok hosts =>
      cases Query.ofPairs (Text.Percent.readPairs parts.query) with
      | error error => rfl
      | ok found =>
          -- the credential does not depend on options of the connection
          have hcredential (database : Option String)
              : readCredential parts.userInfo database
                  { found with options := change found.options }
                = readCredential parts.userInfo database found :=
            rfl
          simp only [Except.map, bind, Except.bind, hcredential]
          cases readCredential parts.userInfo _ found with
          | error fault => rfl
          | ok credential => rfl

/-- A text with one more option is refused as the text is, or else says the same but for what the
option changes. -/
theorem read_withOptions {text other : String} (h : CarriesAlso pair text other)
    (hchanges : Query.ChangesOptions name pair change) (hlacks : LacksOption name text)
    : read other
      = (read text).map (·.withOptions (String.ofList (Text.trim other.toList)) change) := by
  cases h with
  | unknownScheme htext hother =>
      rw [read, read, htext, hother]
      rfl
  | @query parts query front back htext hother hpairs hmore =>
      have hback : ∀ later ∈ back, QueryOption.isNamed name later = false := by
        intro later hlater
        refine hlacks parts htext later ?_
        rw [hpairs]
        exact List.mem_append_right front hlater
      rw [read, read, htext, hother]
      exact readParts_withOptions hchanges hback hpairs hmore _ _

end OneOption

/-- A text with a replica set in addition is refused as the text is, or else says the same and
names the replica set. -/
theorem read_of_carriesAlso {text other : String} {pair : String × String}
    (h : CarriesAlso pair text other) (hnamed : QueryOption.isNamed "replicaset" pair = true)
    (hlacks : LacksOption "replicaset" text)
    : read other
      = (read text).map
          (·.namingReplicaSet (String.ofList (Text.trim other.toList)) pair.2) :=
  read_withOptions h (Query.changesOptions_replicaSet hnamed) hlacks

/-- Without the option a connection string names no replica set. -/
theorem replicaSet_of_lacksOption {text : String} (hlacks : LacksOption "replicaset" text)
    {connection : ConnectionString} (h : read text = .ok connection)
    : connection.options.replicaSet = none := by
  obtain ⟨parts, hparts, hread⟩ := read_eq_ok_iff.1 h
  obtain ⟨hosts, query, credential, -, hquery, -, rfl⟩ := readParts_eq_ok_iff.1 hread
  have hdecided := (Query.ofPairs_eq_ok_iff.1 hquery).2.fields .replicaSet
  have hnone : parts.pairs.reverse.find? (QueryOption.isNamed "replicaset") = none := by
    rw [List.find?_eq_none]
    intro pair hpair
    simpa using hlacks parts hparts pair (List.mem_reverse.1 hpair)
  rw [Query.Field.decided_of_names rfl, hnone] at hdecided
  exact (Except.ok.inj hdecided).symm

-----------------------------------------------------------------------------------------
-- An option at the end
-----------------------------------------------------------------------------------------

/-- The sign that goes before an option at the end of a text. -/
def optionSign (text : List Char) : Char :=
  if '?' ∈ text then '&' else '?'

/-- The text with an option at its end. -/
def withOption (text : String) (pair : String × String) : String :=
  let raw := Text.trim text.toList
  String.ofList (raw ++ optionSign raw :: Text.Percent.writePair pair)

/-- The option comes behind those of the query, which starts with it if there was none. -/
theorem splitAfterScheme_append_option (srv : Bool) (rest : List Char) (pair : String × String)
    : ∃ query,
        splitAfterScheme srv (rest ++ optionSign rest :: Text.Percent.writePair pair)
          = { splitAfterScheme srv rest with query }
        ∧ Text.Percent.readPairs query
          = (splitAfterScheme srv rest).pairs ++ [pair] := by
  have hpair : Text.Percent.readPairs (Text.Percent.writePair pair) = [pair] := by
    simpa [Text.Percent.writePairs] using Text.Percent.readPairs_writePairs [pair]
  cases hcut : Text.cutFirst '?' rest with
  | none =>
      have hnot : '?' ∉ rest := Text.cutFirst_eq_none_iff.1 hcut
      refine ⟨Text.Percent.writePair pair, ?_, ?_⟩
      · simp only [optionSign, if_neg hnot, splitAfterScheme, Text.cutFirst_append hnot, hcut,
          Option.getD_some, Option.getD_none]
      · rw [hpair]
        simp only [Parts.pairs, splitAfterScheme, hcut]
        rfl
  | some cut =>
      obtain ⟨location, query⟩ := cut
      obtain ⟨rfl, hnot⟩ := Text.cutFirst_eq_some_iff.1 hcut
      refine ⟨query ++ '&' :: Text.Percent.writePair pair, ?_, ?_⟩
      · have hsign : optionSign (location ++ '?' :: query) = '&' := if_pos (by simp)
        simp only [hsign, List.append_assoc, List.cons_append, splitAfterScheme,
          Text.cutFirst_append hnot, Option.getD_some]
      · have hpairs (first second : List Char)
            : Text.Percent.readPairs (first ++ '&' :: second)
              = Text.Percent.readPairs first ++ Text.Percent.readPairs second := by
          simp only [Text.Percent.readPairs, Text.pieces_append, List.filter_append,
            List.map_append]
        rw [hpairs, hpair]
        simp only [Parts.pairs, splitAfterScheme, hcut, Option.getD_some]

theorem optionSign_append {front : List Char} (h : '?' ∉ front) (rest : List Char)
    : optionSign (front ++ rest) = optionSign rest := by
  simp [optionSign, h]

/-- The sign stands in no scheme. -/
theorem optionSign_not_mem_schemeOf (text : List Char) (srv : Bool)
    : optionSign text ∉ schemeOf srv := by
  rw [optionSign]
  split <;> cases srv <;> decide

/-- A text starts with one of the schemes or with none. -/
theorem split?_cases (text : List Char)
    : (∀ srv, Text.stripStart? (schemeOf srv) text = none)
      ∨ ∃ srv rest, text = schemeOf srv ++ rest := by
  cases hsrv : Text.stripStart? srvScheme text with
  | some rest => exact Or.inr ⟨true, rest, Text.stripStart?_eq_some_iff.1 hsrv⟩
  | none =>
      cases hplain : Text.stripStart? scheme text with
      | some rest => exact Or.inr ⟨false, rest, Text.stripStart?_eq_some_iff.1 hplain⟩
      | none =>
          refine Or.inl fun srv => ?_
          cases srv
          · exact hplain
          · exact hsrv

theorem split?_of_no_scheme {text : List Char}
    (h : ∀ srv, Text.stripStart? (schemeOf srv) text = none)
    : split? text = none := by
  have hsrv : Text.stripStart? srvScheme text = none := h true
  have hplain : Text.stripStart? scheme text = none := h false
  rw [split?, hsrv, hplain]
  rfl

/-- Blanks are cut off before an option is put at the end, and none comes with it. -/
theorem trim_withOption (text : String) (pair : String × String)
    : Text.trim (withOption text pair).toList
      = Text.trim text.toList
        ++ optionSign (Text.trim text.toList) :: Text.Percent.writePair pair := by
  have htrimmed := Text.trimmed_trim text.toList
  have hsign : Text.isBlank (optionSign (Text.trim text.toList)) = false := by
    rw [optionSign]
    split <;> decide
  have hpair : ∀ c ∈ (Text.Percent.writePair pair).getLast?, Text.isBlank c = false := by
    intro c hc
    have hmem : c ∈ Text.Percent.writePairs [pair] := by
      simpa [Text.Percent.writePairs] using List.mem_of_getLast? hc
    exact Text.Percent.isBlank_of_mem_writePairs hmem
  rw [withOption, String.toList_ofList]
  refine Text.trim_of_trimmed ⟨?_, Text.isBlank_getLast?_append_cons hsign hpair _⟩
  cases hraw : Text.trim text.toList with
  | nil =>
      rw [hraw] at hsign
      simpa using hsign
  | cons c rest =>
      rw [hraw] at htrimmed
      exact htrimmed.first

/-- To every text an option can be added at the end. -/
theorem carriesAlso_withOption (text : String) (pair : String × String)
    : CarriesAlso pair text (withOption text pair) := by
  rcases split?_cases (Text.trim text.toList) with hnone | ⟨srv, rest, htext⟩
  · refine .unknownScheme (split?_of_no_scheme hnone) (split?_of_no_scheme fun srv => ?_)
    rw [trim_withOption,
      Text.stripStart?_append_cons (optionSign_not_mem_schemeOf (Text.trim text.toList) srv),
      hnone srv]
    rfl
  · obtain ⟨query, hsplit, hpairs⟩ := splitAfterScheme_append_option srv rest pair
    have hmark : '?' ∉ schemeOf srv := by cases srv <;> decide
    refine .query ?_ ?_ (List.append_nil _).symm hpairs
    · rw [htext, split?_schemeOf]
    · rw [trim_withOption, htext, optionSign_append hmark, List.append_assoc, split?_schemeOf,
        hsplit]

end ConnectionString

end MongoConfig
