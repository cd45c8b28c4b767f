import MongoConfig.Proofs.ConnectionString.Query
/-! Which differences between two lists of pairs matter.
Only the pairs of a field among themselves are in an order that counts, and pairs that name nothing
count for nothing. Those are told apart: their names are noted one by one, up to a pair that is
refused.
-/

namespace MongoConfig.Query

-----------------------------------------------------------------------------------------
-- The values of the fields
-----------------------------------------------------------------------------------------

/-- A value that can be read can be read under any key, for which only an error has a use. -/
theorem readSize_of_ok {key value : String} {size : UInt32}
    (h : QueryOption.readSize key value = .ok size) (other : String)
    : QueryOption.readSize other value = .ok size := by
  rw [QueryOption.readSize] at h ⊢
  split at h
  · exact h
  · cases h

theorem readMillis_of_ok {key value : String} {length : Duration}
    (h : QueryOption.readMillis key value = .ok length) (other : String)
    : QueryOption.readMillis other value = .ok length := by
  rw [QueryOption.readMillis] at h ⊢
  split at h
  · exact h
  · cases h

theorem readBool_of_ok {key value : String} {flag : Bool}
    (h : QueryOption.readBool key value = .ok flag) (other : String)
    : QueryOption.readBool other value = .ok flag :=
  (QueryOption.readBool_eq_ok_iff other).2 ((QueryOption.readBool_eq_ok_iff key).1 h)

/-- A field that takes a value from one key takes it from any. -/
theorem Field.read_of_ok {field : Field} {key value : String} {given : Option field.Value}
    (h : field.read (key, value) = .ok given) (other : String)
    : field.read (other, value) = .ok given := by
  cases field with
  | replicaSet | applicationName | authSource | readPreference | readConcern | acknowledgment
  | mechanism => exact h
  | tlsEnabled | tlsAllowInvalidHostnames | directConnection | retryWrites | retryReads
  | journal =>
      obtain ⟨flag, hread, rfl⟩ := map_eq_ok_iff.1 h
      exact map_eq_ok_iff.2 ⟨flag, readBool_of_ok hread other, rfl⟩
  | connectTimeout | socketTimeout | maxIdleTime | maxLifeTime | waitQueueTimeout
  | serverSelectionTimeout | localThreshold | heartbeatFrequency | writeTimeout =>
      obtain ⟨length, hread, rfl⟩ := map_eq_ok_iff.1 h
      exact map_eq_ok_iff.2 ⟨length, readMillis_of_ok hread other, rfl⟩
  | maxPoolSize | minPoolSize =>
      obtain ⟨size, hread, rfl⟩ := map_eq_ok_iff.1 h
      exact map_eq_ok_iff.2 ⟨size, readSize_of_ok hread other, rfl⟩

/-- Every field has the same values in two lists of pairs, in the same order. The keys may be
different names of it. -/
def SameValuesPerField (pairs others : List (String × String)) : Prop :=
  ∀ field : Field,
    (pairs.filter field.isNamedBy).map (·.2) = (others.filter field.isNamedBy).map (·.2)

theorem SameValuesPerField.symm {pairs others : List (String × String)}
    (h : SameValuesPerField pairs others)
    : SameValuesPerField others pairs := fun field =>
  (h field).symm

/-- What is said about a field in one of the lists is said in the other. -/
theorem SameValuesPerField.exists_mem {pairs others : List (String × String)}
    (h : SameValuesPerField pairs others) {field : Field} {pair : String × String}
    (hpair : pair ∈ others) (hnamed : field.isNamedBy pair = true)
    : ∃ other ∈ pairs, field.isNamedBy other = true ∧ other.2 = pair.2 := by
  have hvalue : pair.2 ∈ (others.filter field.isNamedBy).map (·.2) :=
    List.mem_map_of_mem (List.mem_filter.2 ⟨hpair, hnamed⟩)
  rw [← h field] at hvalue
  obtain ⟨other, hother, hsame⟩ := List.mem_map.1 hvalue
  obtain ⟨hmem, hother⟩ := List.mem_filter.1 hother
  exact ⟨other, hmem, hother, hsame⟩

/-- The last value of a field decides it, whatever name of the field comes with it. -/
theorem SameValuesPerField.decided {pairs others : List (String × String)}
    (h : SameValuesPerField pairs others) {field : Field} {given : Option field.Value}
    (hgiven : field.decided pairs = .ok given)
    : field.decided others = .ok given := by
  have hlast := congrArg List.getLast? (h field)
  rw [List.getLast?_map, List.getLast?_map] at hlast
  rw [Field.decided] at hgiven ⊢
  cases hpairs : (pairs.filter field.isNamedBy).getLast? with
  | none =>
      cases hothers : (others.filter field.isNamedBy).getLast? with
      | none => simpa [hpairs] using hgiven
      | some other => simp [hpairs, hothers] at hlast
  | some pair =>
      cases hothers : (others.filter field.isNamedBy).getLast? with
      | none => simp [hpairs, hothers] at hlast
      | some other =>
          obtain ⟨key, value⟩ := pair
          obtain ⟨otherKey, otherValue⟩ := other
          simp only [hpairs, hothers, Option.map_some, Option.some.injEq] at hlast
          subst hlast
          simp only [hpairs] at hgiven
          exact Field.read_of_ok hgiven otherKey

theorem SameValuesPerField.reflects {pairs others : List (String × String)}
    (h : SameValuesPerField pairs others) {query : Query} (hpairs : query.Reflects pairs)
    : query.Reflects others where
  fields field := h.decided (hpairs.fields field)
  writeConcern := by
    refine hpairs.writeConcern.trans ⟨?_, ?_⟩
    · rintro ⟨pair, hpair, field, hpart, hnamed⟩
      obtain ⟨other, hother, hthis, -⟩ := h.symm.exists_mem hpair hnamed
      exact ⟨other, hother, field, hpart, hthis⟩
    · rintro ⟨pair, hpair, field, hpart, hnamed⟩
      obtain ⟨other, hother, hthis, -⟩ := h.exists_mem hpair hnamed
      exact ⟨other, hother, field, hpart, hthis⟩

/-- A value that its field cannot have is refused under each of its names. -/
theorem SameValuesPerField.exists_rejects {pairs others : List (String × String)}
    (h : SameValuesPerField pairs others) {pair : String × String} (hpair : pair ∈ others)
    {error : TextError} (hrejects : Rejects pair error)
    : ∃ other ∈ pairs, ∃ error, Rejects other error := by
  obtain ⟨field, hnamed, hread⟩ := hrejects
  obtain ⟨⟨otherKey, value⟩, hother, hthis, rfl⟩ := h.exists_mem hpair hnamed
  refine ⟨_, hother, ?_⟩
  cases hvalue : field.read (otherKey, pair.2) with
  | error fault => exact ⟨fault, field, hthis, hvalue⟩
  | ok given =>
      rw [field.read_of_ok hvalue pair.1] at hread
      cases hread

/-- Pairs with the same values make up the same query. -/
theorem SameValuesPerField.ofPairs_eq_ok {pairs others : List (String × String)}
    (h : SameValuesPerField pairs others) {query : Query} (hpairs : ofPairs pairs = .ok query)
    : ofPairs others = .ok query := by
  obtain ⟨hnone, hreflects⟩ := ofPairs_eq_ok_iff.1 hpairs
  refine ofPairs_eq_ok_iff.2 ⟨?_, h.reflects hreflects⟩
  intro pair hpair error hrejects
  obtain ⟨other, hother, fault, hfault⟩ := h.exists_rejects hpair hrejects
  exact hnone other hother fault hfault

-----------------------------------------------------------------------------------------
-- The order of the pairs
-----------------------------------------------------------------------------------------

/-- Two lists have the same pairs for every field, in the same order. -/
def SamePerField (pairs others : List (String × String)) : Prop :=
  ∀ field : Field, pairs.filter field.isNamedBy = others.filter field.isNamedBy

theorem SamePerField.symm {pairs others : List (String × String)} (h : SamePerField pairs others)
    : SamePerField others pairs := fun field =>
  (h field).symm

theorem SamePerField.ofPairs_eq_ok {pairs others : List (String × String)}
    (h : SamePerField pairs others) {query : Query} (hpairs : ofPairs pairs = .ok query)
    : ofPairs others = .ok query := by
  have hvalues : SameValuesPerField pairs others := fun field =>
    congrArg (List.map fun pair => pair.2) (h field)
  exact hvalues.ofPairs_eq_ok hpairs

-----------------------------------------------------------------------------------------
-- Pairs that name nothing
-----------------------------------------------------------------------------------------

/-- A run over the pairs can leave out those that name nothing. -/
theorem foldlM_addPair_filter_isKnown (pairs : List (String × String)) (query : Query)
    : (pairs.filter isKnown).foldlM addPair query = pairs.foldlM addPair query := by
  induction pairs generalizing query with
  | nil => rfl
  | cons pair rest ih =>
      cases hknown : isKnown pair with
      | false =>
          rw [List.filter_cons_of_neg (by simp [hknown]), List.foldlM_cons,
            addPair_of_not_known hknown]
          exact ih query
      | true =>
          rw [List.filter_cons_of_pos hknown, List.foldlM_cons, List.foldlM_cons]
          exact congrArg (query.addPair pair >>= ·) (funext ih)

/-- The keys of the pairs that name nothing. -/
def unknownKeys (pairs : List (String × String)) : List String :=
  (pairs.filter (!isKnown ·)).map (·.1)

/-- Pairs that can be read have their unknown keys noted before those of the rest, by induction on
them from the first one. -/
theorem ignoredKeysFrom_append {before : List (String × String)} {query next : Query}
    (h : before.foldlM addPair query = .ok next) (rest : List (String × String))
    : query.ignoredKeysFrom (before ++ rest) = unknownKeys before ++ next.ignoredKeysFrom rest := by
  induction before generalizing query with
  | nil =>
      obtain rfl := Except.ok.inj h
      rfl
  | cons pair before ih =>
      rw [List.foldlM_cons] at h
      cases hpair : query.addPair pair with
      | error error =>
          rw [hpair] at h
          cases h
      | ok changed =>
          rw [hpair] at h
          have hunknown : (QueryOption.reader? pair.1).isNone = !isKnown pair := by
            rw [← Option.not_isSome, isSome_reader?]
          rw [List.cons_append, ignoredKeysFrom, hpair]
          simp only [ih h, hunknown, unknownKeys]
          cases hknown : isKnown pair <;> simp [hknown]

theorem ignoredKeys_of_ofPairs {pairs : List (String × String)} {query : Query}
    (h : ofPairs pairs = .ok query)
    : ignoredKeys pairs = unknownKeys pairs := by
  have happend := ignoredKeysFrom_append h []
  rwa [List.append_nil, ignoredKeysFrom, List.append_nil] at happend

/-- Nothing is noted after a pair that is refused. -/
theorem ignoredKeys_of_rejects {before after : List (String × String)} {pair : String × String}
    {error : TextError} (hbefore : ∀ earlier ∈ before, ∀ error, ¬Rejects earlier error)
    (hpair : Rejects pair error)
    : ignoredKeys (before ++ pair :: after) = unknownKeys before := by
  obtain ⟨query, hquery⟩ := exists_ofPairs_eq_ok_iff.2 hbefore
  rw [ignoredKeys, ignoredKeysFrom_append hquery, ignoredKeysFrom, addPair_eq_error_iff.2 hpair]
  exact List.append_nil _

-----------------------------------------------------------------------------------------
-- What pairs come to
-----------------------------------------------------------------------------------------

theorem exists_ofPairs_eq_error_iff {pairs : List (String × String)}
    : (∃ error, ofPairs pairs = .error error) ↔ ∃ pair ∈ pairs, ∃ error, Rejects pair error := by
  constructor
  · rintro ⟨error, herror⟩
    obtain ⟨before, pair, after, rfl, -, hrejects⟩ := ofPairs_eq_error_iff.1 herror
    exact ⟨pair, by simp, error, hrejects⟩
  · rintro ⟨pair, hpair, error, hrejects⟩
    cases hresult : ofPairs pairs with
    | error first => exact ⟨first, rfl⟩
    | ok query => exact absurd hrejects ((ofPairs_eq_ok_iff.1 hresult).1 pair hpair error)

/-- Pairs are refused with the error of the first one that has a value its field cannot have. Else
the last pair of each field decides it, however the pairs of other fields stand between, and the
keys that name no field are noted once each. -/
theorem ofPairs_by_last_pairs (pairs : List (String × String))
    : (∀ error, ofPairs pairs = .error error ↔ FirstOffence (fun _ => Rejects) pairs error)
      ∧ ((∃ error, ofPairs pairs = .error error) ↔ ∃ pair ∈ pairs, ∃ error, Rejects pair error)
      ∧ (∀ query,
          ofPairs pairs = .ok query
          ↔ (∀ pair ∈ pairs, ∀ error, ¬Rejects pair error) ∧ query.Reflects pairs)
      ∧ (∀ reordered,
          SamePerField pairs reordered
          → ∀ query, ofPairs reordered = .ok query ↔ ofPairs pairs = .ok query)
      ∧ ofPairs (pairs.filter isKnown) = ofPairs pairs
      ∧ (∀ query, ofPairs pairs = .ok query → ignoredKeys pairs = unknownKeys pairs)
      ∧ ∀ before pair after error,
          pairs = before ++ pair :: after
          → (∀ earlier ∈ before, ∀ error, ¬Rejects earlier error)
          → Rejects pair error
          → ignoredKeys pairs = unknownKeys before := by
  refine ⟨fun _ => ofPairs_eq_error_iff, exists_ofPairs_eq_error_iff, fun _ => ofPairs_eq_ok_iff,
    ?order, foldlM_addPair_filter_isKnown pairs {}, fun _ => ignoredKeys_of_ofPairs, ?refused⟩
  case order =>
    intro reordered h query
    exact ⟨h.symm.ofPairs_eq_ok, h.ofPairs_eq_ok⟩
  case refused =>
    rintro before pair after error rfl hbefore hpair
    exact ignoredKeys_of_rejects hbefore hpair

/-- Pairs with two names of one field, the parts of a write concern apart from each other, and keys
that are not known. -/
def scattered : List (String × String) :=
  [
    ("ssl", "true"), ("W", "majority"), ("color", "red"), ("journal", "yes"), ("TLS", "no"),
    ("authSource", "users"), ("Shape", "round"), ("wTimeoutMS", "250"), ("w", "2")
  ]

/-- The same pairs with each field's together. -/
def gathered : List (String × String) :=
  [
    ("wTimeoutMS", "250"), ("journal", "yes"), ("W", "majority"), ("w", "2"), ("ssl", "true"),
    ("TLS", "no"), ("authSource", "users")
  ]

/-- What both come to. -/
def gatheredQuery : Query :=
  {
    options :=
      {
        tlsEnabled := some false,
        writeConcern :=
          some
            {
              acknowledgment := some (.nodes 2),
              timeout := some (.ofMillis 250),
              journal := some true
            }
      },
    authSource := some "users"
  }

theorem ofPairs_scattered
    : gatheredQuery.Reflects scattered
      ∧ ofPairs gathered = .ok gatheredQuery
      ∧ ignoredKeys scattered = ["color", "Shape"]
      ∧ ignoredKeys (scattered ++ ("tls", "maybe") :: [("more", "1")]) = ["color", "Shape"] := by
  have hquery : ofPairs scattered = .ok gatheredQuery := by decide +kernel
  have hsame : SamePerField scattered gathered := fun field => by cases field <;> rfl
  have hmaybe
      : Rejects ("tls", "maybe") (.connectionString (.notBoolean "tls" "maybe")) :=
    ⟨.tlsEnabled, rfl, rfl⟩
  obtain ⟨-, -, hok, horder, -, hignored, -⟩ := ofPairs_by_last_pairs scattered
  obtain ⟨-, -, -, -, -, -, hrefused⟩ :=
    ofPairs_by_last_pairs (scattered ++ ("tls", "maybe") :: [("more", "1")])
  obtain ⟨hnone, hreflects⟩ := (hok gatheredQuery).1 hquery
  refine ⟨hreflects, (horder gathered hsame gatheredQuery).2 hquery, ?_, ?_⟩
  · rw [hignored gatheredQuery hquery]
    rfl
  · rw [hrefused scattered _ _ _ rfl hnone hmaybe]
    rfl

end MongoConfig.Query
