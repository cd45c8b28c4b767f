/-! Dictionaries: values under text keys.
The entries stand in strictly ascending order of their keys, so two dictionaries with the same
content are equal and a listing needs no sorting. Writing to a key that is present replaces its
value.
-/

namespace MongoConfig

/-- Values under distinct keys in ascending order. -/
structure Dictionary (α : Type) where
  entries : List (String × α)
  ascending : entries.Pairwise fun a b => a.1 < b.1
deriving Repr

namespace Dictionary

variable {α : Type}

/-- Puts an entry at its place, in the stead of one with the same key. -/
def insertEntry (key : String) (value : α) : List (String × α) → List (String × α)
  | [] => [(key, value)]
  | entry :: rest =>
      if key < entry.1 then (key, value) :: entry :: rest
      else if key = entry.1 then (key, value) :: rest
      else entry :: insertEntry key value rest

theorem lt_of_mem_insertEntry {key low : String} {value : α} {entries : List (String × α)}
    {entry : String × α} (hkey : low < key) (hentries : ∀ e ∈ entries, low < e.1)
    (h : entry ∈ insertEntry key value entries)
    : low < entry.1 := by
  induction entries with
  | nil =>
      simp only [insertEntry, List.mem_singleton] at h
      simpa [h] using hkey
  | cons first rest ih =>
      simp only [insertEntry] at h
      split at h
      · rcases List.mem_cons.1 h with rfl | h
        · exact hkey
        · exact hentries entry h
      · split at h
        · rcases List.mem_cons.1 h with rfl | h
          · exact hkey
          · exact hentries entry (List.mem_cons_of_mem _ h)
        · rcases List.mem_cons.1 h with rfl | h
          · exact hentries _ List.mem_cons_self
          · exact ih (fun e he => hentries e (List.mem_cons_of_mem _ he)) h

theorem lt_of_not_lt_of_ne {a b : String} (hlt : ¬a < b) (hne : a ≠ b)
    : b < a := by
  refine String.not_le.1 fun hle => ?_
  exact hne (String.le_antisymm hle (fun h => hlt h))

theorem ascending_insertEntry (key : String) (value : α) {entries : List (String × α)}
    (h : entries.Pairwise fun a b => a.1 < b.1)
    : (insertEntry key value entries).Pairwise fun a b => a.1 < b.1 := by
  induction entries with
  | nil => simp [insertEntry]
  | cons first rest ih =>
      rcases List.pairwise_cons.1 h with ⟨hfirst, hrest⟩
      simp only [insertEntry]
      split
      · rename_i hlt
        refine List.pairwise_cons.2 ⟨fun e he => ?_, h⟩
        rcases List.mem_cons.1 he with rfl | he
        · exact hlt
        · exact String.lt_trans hlt (hfirst e he)
      · rename_i hlt
        split
        · rename_i heq
          exact List.pairwise_cons.2 ⟨fun e he => heq ▸ hfirst e he, hrest⟩
        · rename_i hne
          refine List.pairwise_cons.2 ⟨fun e he => ?_, ih hrest⟩
          exact lt_of_mem_insertEntry (lt_of_not_lt_of_ne hlt hne) hfirst he

def empty : Dictionary α :=
  { entries := [], ascending := List.Pairwise.nil }

instance : EmptyCollection (Dictionary α) :=
  ⟨empty⟩

instance : Inhabited (Dictionary α) :=
  ⟨empty⟩

/-- The dictionary in which `key` has `value` and every other key what it had. -/
def insert (dictionary : Dictionary α) (key : String) (value : α) : Dictionary α :=
  {
    entries := insertEntry key value dictionary.entries,
    ascending := ascending_insertEntry key value dictionary.ascending
  }

def get? (dictionary : Dictionary α) (key : String) : Option α :=
  (dictionary.entries.find? fun entry => entry.1 = key).map (·.2)

def contains (dictionary : Dictionary α) (key : String) : Bool :=
  (dictionary.get? key).isSome

def keys (dictionary : Dictionary α) : List String :=
  dictionary.entries.map (·.1)

def isEmpty (dictionary : Dictionary α) : Bool :=
  dictionary.entries.isEmpty

/-- The dictionary of a list of pairs; of two pairs with one key the later wins. -/
def ofList (pairs : List (String × α)) : Dictionary α :=
  pairs.foldl (fun dictionary pair => dictionary.insert pair.1 pair.2) empty

@[simp]
theorem get?_empty (key : String)
    : (empty : Dictionary α).get? key = none :=
  rfl

/-- Writing to a key changes what is found under that key and under no other. -/
theorem get?_insert (dictionary : Dictionary α) (key other : String) (value : α)
    : (dictionary.insert key value).get? other
      = if key = other then some value else dictionary.get? other := by
  have h (entries : List (String × α))
      : ((insertEntry key value entries).find? fun entry => entry.1 = other).map (·.2)
        = if key = other then some value
          else (entries.find? fun entry => entry.1 = other).map (·.2) := by
    induction entries with
    | nil => by_cases hkey : key = other <;> simp [insertEntry, hkey]
    | cons first rest ih =>
        simp only [insertEntry]
        split
        · by_cases hkey : key = other <;> simp [List.find?_cons, hkey]
        · split
          · rename_i heq
            subst heq
            by_cases hkey : first.1 = other <;> simp [hkey]
          · rename_i hne
            by_cases hfirst : first.1 = other
            · have hkey : key ≠ other := fun hkey => hne (hkey.trans hfirst.symm)
              simp [hfirst, hkey]
            · simp [hfirst, ih]
  exact h dictionary.entries

@[simp]
theorem get?_insert_self (dictionary : Dictionary α) (key : String) (value : α)
    : (dictionary.insert key value).get? key = some value := by
  simp [get?_insert]

theorem get?_insert_of_ne (dictionary : Dictionary α) {key other : String} (value : α)
    (h : key ≠ other)
    : (dictionary.insert key value).get? other = dictionary.get? other := by
  simp [get?_insert, h]

theorem ext {a b : Dictionary α} (h : a.entries = b.entries)
    : a = b := by
  cases a
  cases b
  cases h
  rfl

instance [DecidableEq α] : DecidableEq (Dictionary α) := fun a b =>
  if h : a.entries = b.entries then
    isTrue (ext h)
  else
    isFalse fun hab => h (congrArg entries hab)

/-- Dictionaries of values that are compared by `==` are equal if they have the same keys and
equal values under them. -/
def sameEntries [BEq α] (a b : Dictionary α) : Bool :=
  a.entries == b.entries

end Dictionary

end MongoConfig
