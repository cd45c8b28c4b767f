import MongoConfig.Proofs.ConnectionString.Field
import MongoConfig.Proofs.FirstOffence
/-! What the pairs of a query come to.
A pair is refused or else changes one field at most, whatever came before it. So a query can be read
if each of its pairs can, every field is decided by the last pair that names it, and pairs that name
different fields can change places.
-/

namespace MongoConfig.Query

-----------------------------------------------------------------------------------------
-- The last pair of a field
-----------------------------------------------------------------------------------------

/-- What the last pair that names a field says about it. Without such a pair it has no value. -/
def Field.decided (field : Field) (pairs : List (String × String))
    : Except TextError (Option field.Value) :=
  match (pairs.filter field.isNamedBy).getLast? with
  | some pair => field.read pair
  | none => .ok none

theorem Field.decided_append_singleton (field : Field) (pairs : List (String × String))
    (pair : String × String)
    : field.decided (pairs ++ [pair])
      = if field.isNamedBy pair then field.read pair else field.decided pairs := by
  rw [decided, decided, List.filter_append]
  cases hnamed : field.isNamedBy pair <;> simp [hnamed]

/-- A pair that names a field and has a value that the field cannot have. -/
def Rejects (pair : String × String) (error : TextError) : Prop :=
  ∃ field : Field, field.isNamedBy pair = true ∧ field.read pair = .error error

/-- The fields of a query are decided by pairs, and it has a write concern if one of the pairs names
a part of it. -/
structure Reflects (query : Query) (pairs : List (String × String)) : Prop where
  fields : ∀ field : Field, field.decided pairs = .ok (field.get query)
  writeConcern
    : query.options.writeConcern.isSome
      ↔ ∃ pair ∈ pairs,
          ∃ field : Field, field.isOfWriteConcern = true ∧ field.isNamedBy pair = true

-----------------------------------------------------------------------------------------
-- One pair
-----------------------------------------------------------------------------------------

theorem map_eq_error_iff {ε α β : Type} {result : Except ε α} {make : α → β} {error : ε}
    : result.map make = .error error ↔ result = .error error := by
  cases result <;> simp [Except.map]

theorem map_eq_ok_iff {ε α β : Type} {result : Except ε α} {make : α → β} {made : β}
    : result.map make = .ok made ↔ ∃ value, result = .ok value ∧ make value = made := by
  cases result <;> simp [Except.map]

/-- What was read before has no influence on whether a pair is refused. -/
theorem addPair_eq_error_iff {query : Query} {pair : String × String} {error : TextError}
    : query.addPair pair = .error error ↔ Rejects pair error := by
  constructor
  · intro h
    cases hknown : isKnown pair with
    | false =>
        rw [addPair_of_not_known hknown] at h
        cases h
    | true =>
        obtain ⟨field, hnamed⟩ := isKnown_iff.1 hknown
        rw [addPair_of_isNamedBy hnamed, map_eq_error_iff] at h
        exact ⟨field, hnamed, h⟩
  · rintro ⟨field, hnamed, hread⟩
    rw [addPair_of_isNamedBy hnamed, map_eq_error_iff]
    exact hread

theorem reflects_empty : ({} : Query).Reflects [] where
  fields field := by cases field <;> rfl
  writeConcern := by simp

/-- A pair that names no field leaves all fields to the pairs before it. -/
theorem Reflects.append_of_not_known {query : Query} {pairs : List (String × String)}
    (h : query.Reflects pairs) {pair : String × String} (hunknown : isKnown pair = false)
    : query.Reflects (pairs ++ [pair]) := by
  have hnot (field : Field) : ¬field.isNamedBy pair = true := by
    intro hnamed
    rw [isKnown_iff.2 ⟨field, hnamed⟩] at hunknown
    cases hunknown
  constructor
  · intro field
    rw [field.decided_append_singleton, if_neg (hnot field)]
    exact h.fields field
  · rw [h.writeConcern]
    simp only [List.mem_append, List.mem_singleton, or_and_right, exists_or, exists_eq_left, hnot,
      Bool.false_eq_true, and_false, exists_false, or_false]

/-- A pair that names a field decides that field and leaves the others as they are. -/
theorem Reflects.append_of_isNamedBy {query : Query} {pairs : List (String × String)}
    (h : query.Reflects pairs) {pair : String × String} {field : Field}
    (hnamed : field.isNamedBy pair = true) {value : Option field.Value}
    (hread : field.read pair = .ok value)
    : (query.set field value).Reflects (pairs ++ [pair]) := by
  constructor
  · intro other
    rw [other.decided_append_singleton, get_set]
    by_cases hother : other = field
    · subst hother
      rw [if_pos hnamed, Function.update_self, hread]
    · have hnot : ¬other.isNamedBy pair = true := fun hthis =>
        hother (Field.eq_of_isNamedBy hnamed hthis)
      rw [if_neg hnot, Function.update_of_ne hother]
      exact h.fields other
  · have honly (other : Field)
        : (other.isOfWriteConcern = true ∧ other.isNamedBy pair = true)
          ↔ other = field ∧ field.isOfWriteConcern = true := by
      constructor
      · rintro ⟨hpart, hthis⟩
        obtain rfl := Field.eq_of_isNamedBy hnamed hthis
        exact ⟨rfl, hpart⟩
      · rintro ⟨rfl, hpart⟩
        exact ⟨hpart, hnamed⟩
    have hset := hasWriteConcern_set query field value
    rw [hasWriteConcern, hasWriteConcern] at hset
    rw [hset, Bool.or_eq_true, h.writeConcern]
    simp only [List.mem_append, List.mem_singleton, or_and_right, exists_or, exists_eq_left, honly]
    exact or_comm

/-- One more pair is refused exactly if it cannot be read, and else decides the field it names. -/
theorem checks_addPair
    : Checks (fun _ => Rejects) (fun pairs query => query.Reflects pairs) addPair where
  error _ := addPair_eq_error_iff
  ok := by
    intro pairs query pair next h hnext
    cases hknown : isKnown pair with
    | false =>
        rw [addPair_of_not_known hknown] at hnext
        cases hnext
        exact h.append_of_not_known hknown
    | true =>
        obtain ⟨field, hnamed⟩ := isKnown_iff.1 hknown
        rw [addPair_of_isNamedBy hnamed, map_eq_ok_iff] at hnext
        obtain ⟨value, hread, rfl⟩ := hnext
        exact h.append_of_isNamedBy hnamed hread

-----------------------------------------------------------------------------------------
-- All pairs
-----------------------------------------------------------------------------------------

/-- Pairs decide all of a query. -/
theorem Reflects.eq {query other : Query} {pairs : List (String × String)}
    (h : query.Reflects pairs) (hother : other.Reflects pairs)
    : query = other := by
  refine eq_of_get_eq ?_ ?_
  · intro field
    exact Except.ok.inj ((h.fields field).symm.trans (hother.fields field))
  · exact Bool.eq_iff_iff.2 (h.writeConcern.trans hother.writeConcern.symm)

theorem ofPairs_eq_error_iff {pairs : List (String × String)} {error : TextError}
    : ofPairs pairs = .error error ↔ FirstOffence (fun _ => Rejects) pairs error :=
  (checks_addPair.foldlM reflects_empty pairs).1 error

theorem exists_ofPairs_eq_ok_iff {pairs : List (String × String)}
    : (∃ query, ofPairs pairs = .ok query) ↔ ∀ pair ∈ pairs, ∀ error, ¬Rejects pair error :=
  (checks_addPair.exists_foldlM_eq_ok_iff reflects_empty pairs).trans noOffence_iff_forall_mem

/-- Pairs of which none is refused make up the query that they decide. -/
theorem ofPairs_eq_ok_iff {pairs : List (String × String)} {query : Query}
    : ofPairs pairs = .ok query
      ↔ (∀ pair ∈ pairs, ∀ error, ¬Rejects pair error) ∧ query.Reflects pairs := by
  have hrun := (checks_addPair.foldlM reflects_empty pairs).2
  constructor
  · intro h
    obtain ⟨hnone, hreflects⟩ := hrun query h
    exact ⟨noOffence_iff_forall_mem.1 hnone, hreflects⟩
  · rintro ⟨hnone, hreflects⟩
    obtain ⟨final, hfinal⟩ := exists_ofPairs_eq_ok_iff.2 hnone
    rw [hreflects.eq (hrun final hfinal).2]
    exact hfinal

-----------------------------------------------------------------------------------------
-- How to authenticate
-----------------------------------------------------------------------------------------

/-- The value of the last pair with a name. -/
def lastValue? (name : String) (pairs : List (String × String)) : Option String :=
  (pairs.reverse.find? (QueryOption.isNamed name)).map (·.2)

/-- The mechanism that the last pair naming one selects. -/
def selectedMechanism? (pairs : List (String × String)) : Option Mechanism :=
  (lastValue? "authmechanism" pairs).bind Mechanism.ofName?

theorem Field.isNamedBy_of_names {field : Field} {name : String} (h : field.names = [name])
    : field.isNamedBy = QueryOption.isNamed name := by
  funext pair
  rw [isNamedBy, h, List.any_cons, List.any_nil, Bool.or_false]

/-- A field with a single name is decided by the last pair with that name. -/
theorem Field.decided_of_names {field : Field} {name : String} (h : field.names = [name])
    (pairs : List (String × String))
    : field.decided pairs
      = match pairs.reverse.find? (QueryOption.isNamed name) with
        | some pair => field.read pair
        | none => .ok none := by
  rw [decided, List.getLast?_filter, isNamedBy_of_names h]

theorem ofName?_of_read {value : String} {mechanism : Mechanism}
    (h : Mechanism.read value = .ok mechanism)
    : Mechanism.ofName? value = some mechanism := by
  rw [Mechanism.read] at h
  split at h
  · rename_i found hfound
    rw [hfound, Except.ok.inj h]
  · cases h

theorem Reflects.mechanism {query : Query} {pairs : List (String × String)}
    (h : query.Reflects pairs)
    : query.mechanism = selectedMechanism? pairs := by
  have hdecided := h.fields .mechanism
  rw [Field.decided_of_names rfl] at hdecided
  rw [selectedMechanism?, lastValue?]
  split at hdecided
  · rename_i pair hpair
    obtain ⟨mechanism, hread, hvalue⟩ := map_eq_ok_iff.1 hdecided
    rw [hpair]
    exact hvalue.symm.trans (ofName?_of_read hread).symm
  · rename_i hnone
    rw [hnone]
    exact (Except.ok.inj hdecided).symm

theorem Reflects.authSource {query : Query} {pairs : List (String × String)}
    (h : query.Reflects pairs)
    : query.authSource = lastValue? "authsource" pairs := by
  have hdecided := h.fields .authSource
  rw [Field.decided_of_names rfl] at hdecided
  rw [lastValue?]
  split at hdecided
  · rename_i pair hpair
    rw [hpair]
    exact (Except.ok.inj hdecided).symm
  · rename_i hnone
    rw [hnone]
    exact (Except.ok.inj hdecided).symm

/-- Pairs that can each be read make up a query. In it, how to authenticate is what the last pair
that names it says. -/
theorem exists_ofPairs {pairs : List (String × String)}
    (h : ∀ pair ∈ pairs, ∃ option, QueryOption.ofPair pair = .ok option)
    : ∃ query,
        ofPairs pairs = .ok query
        ∧ query.mechanism = selectedMechanism? pairs
        ∧ query.authSource = lastValue? "authsource" pairs := by
  have hnone : ∀ pair ∈ pairs, ∀ error, ¬Rejects pair error := by
    intro pair hpair error hrejects
    obtain ⟨option, hoption⟩ := h pair hpair
    have herror : ({} : Query).addPair pair = .error error := addPair_eq_error_iff.2 hrejects
    rw [addPair, hoption] at herror
    cases herror
  obtain ⟨query, hquery⟩ := exists_ofPairs_eq_ok_iff.2 hnone
  have hreflects := (ofPairs_eq_ok_iff.1 hquery).2
  exact ⟨query, hquery, hreflects.mechanism, hreflects.authSource⟩

end MongoConfig.Query
