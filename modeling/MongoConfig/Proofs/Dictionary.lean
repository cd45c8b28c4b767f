import MongoConfig.Dictionary
/-! Dictionaries as maps from keys to values.
What is found under the keys makes up the whole dictionary, because the order of the entries leaves
no choice. So the order in which distinct keys were written does not matter.
-/

namespace MongoConfig.Dictionary

variable {α : Type}

theorem nodup_entries (dictionary : Dictionary α) : dictionary.entries.Nodup := by
  refine dictionary.ascending.imp ?_
  intro a b hlt heq
  exact String.lt_irrefl b.1 (heq ▸ hlt)

/-- An entry is found under its key, for all entries before it have smaller keys. -/
theorem mem_entries_iff {dictionary : Dictionary α} {entry : String × α}
    : entry ∈ dictionary.entries ↔ dictionary.get? entry.1 = some entry.2 := by
  constructor
  · intro hmem
    obtain ⟨front, back, hsplit⟩ := List.append_of_mem hmem
    have hascending := dictionary.ascending
    rw [hsplit] at hascending
    have hfront : ∀ e ∈ front, e.1 ≠ entry.1 := by
      intro e he heq
      have hlt := (List.pairwise_append.1 hascending).2.2 e he entry List.mem_cons_self
      exact String.lt_irrefl entry.1 (heq ▸ hlt)
    have hnone : front.find? (fun e => decide (e.1 = entry.1)) = none := by
      rw [List.find?_eq_none]
      intro e he
      simpa using hfront e he
    simp [get?, hsplit, List.find?_append, hnone]
  · intro hget
    obtain ⟨found, hfound, hvalue⟩ := Option.map_eq_some_iff.1 hget
    have hkey : found.1 = entry.1 := by simpa using List.find?_some hfound
    have hsame : found = entry := Prod.ext hkey hvalue
    exact hsame ▸ List.mem_of_find?_eq_some hfound

/-- Dictionaries with the same values under the same keys are equal. -/
theorem eq_of_get?_eq {a b : Dictionary α} (h : ∀ key, a.get? key = b.get? key) : a = b := by
  have hmem : ∀ entry, entry ∈ a.entries ↔ entry ∈ b.entries := by
    intro entry
    rw [mem_entries_iff, mem_entries_iff, h]
  have hperm : a.entries.Perm b.entries :=
    (List.perm_ext_iff_of_nodup a.nodup_entries b.nodup_entries).2 hmem
  refine ext (hperm.eq_of_pairwise ?_ a.ascending b.ascending)
  intro x y _ _ hxy hyx
  exact absurd (String.lt_trans hxy hyx) (String.lt_irrefl x.1)

/-- Two distinct keys can be written in either order. -/
theorem insert_comm (dictionary : Dictionary α) {key other : String} (h : key ≠ other)
    (value otherValue : α)
    : (dictionary.insert key value).insert other otherValue
      = (dictionary.insert other otherValue).insert key value := by
  apply eq_of_get?_eq
  intro wanted
  simp only [get?_insert]
  by_cases hkey : key = wanted
  · have hother : other ≠ wanted := fun hother => h (hkey.trans hother.symm)
    simp [hkey, hother]
  · simp [hkey]

theorem insertEntry_of_lt {key : String} {value : α} {entries : List (String × α)}
    (h : ∀ entry ∈ entries, entry.1 < key)
    : insertEntry key value entries = entries ++ [(key, value)] := by
  induction entries with
  | nil => rfl
  | cons first rest ih =>
      have hfirst := h first List.mem_cons_self
      have hnot : ¬key < first.1 := fun hlt =>
        String.lt_irrefl key (String.lt_trans hlt hfirst)
      have hne : key ≠ first.1 := fun heq => hnot (heq ▸ hfirst)
      have hrest := ih fun entry hentry => h entry (List.mem_cons_of_mem first hentry)
      simp [insertEntry, hnot, hne, hrest]

/-- Writing ascending entries behind smaller ones lists them all, by induction on the entries. -/
theorem entries_foldl_insert (dictionary : Dictionary α) {entries : List (String × α)}
    (h : (dictionary.entries ++ entries).Pairwise fun a b => a.1 < b.1)
    : (entries.foldl (fun written entry => written.insert entry.1 entry.2) dictionary).entries
      = dictionary.entries ++ entries := by
  induction entries generalizing dictionary with
  | nil => simp
  | cons entry rest ih =>
      have hlast : ∀ e ∈ dictionary.entries, e.1 < entry.1 := fun e he =>
        (List.pairwise_append.1 h).2.2 e he entry List.mem_cons_self
      have hnext : (dictionary.insert entry.1 entry.2).entries = dictionary.entries ++ [entry] :=
        insertEntry_of_lt hlast
      rw [List.foldl_cons, ih, hnext, List.append_assoc, List.singleton_append]
      rwa [hnext, List.append_assoc, List.singleton_append]

/-- A dictionary is that of its own entries. -/
theorem ofList_entries (dictionary : Dictionary α) : ofList dictionary.entries = dictionary :=
  ext (entries_foldl_insert empty dictionary.ascending)

theorem mem_keys_iff {dictionary : Dictionary α} {key : String}
    : key ∈ dictionary.keys ↔ ∃ value, dictionary.get? key = some value := by
  constructor
  · intro h
    obtain ⟨entry, hentry, rfl⟩ := List.mem_map.1 h
    exact ⟨entry.2, mem_entries_iff.1 hentry⟩
  · rintro ⟨value, hvalue⟩
    exact List.mem_map.2 ⟨(key, value), mem_entries_iff.2 hvalue, rfl⟩

theorem ascending_keys (dictionary : Dictionary α) : dictionary.keys.Pairwise (· < ·) :=
  List.pairwise_map.2 dictionary.ascending

/-- A dictionary has the values of the items of a list, each under the key of its item, and nothing
else. -/
def Represents {β : Type} (dictionary : Dictionary α) (key : β → String) (means : β → α → Prop)
    (items : List β)
    : Prop :=
  ∀ wanted value,
    dictionary.get? wanted = some value
    ↔ ∃ item ∈ items, key item = wanted ∧ means item value

section Represents

variable {β : Type} {dictionary : Dictionary α} {key : β → String} {means : β → α → Prop}
  {items : List β}

theorem represents_empty : (∅ : Dictionary α).Represents key means [] := by
  intro wanted value
  exact iff_of_false nofun fun ⟨_, hmem, _⟩ => List.not_mem_nil hmem

/-- Writing the value of an item with a new key adds that item. -/
theorem Represents.insert (h : dictionary.Represents key means items) {item : β} {value : α}
    (hnew : key item ∉ items.map key) (hvalue : ∀ other, means item other ↔ other = value)
    : (dictionary.insert (key item) value).Represents key means (items ++ [item]) := by
  intro wanted other
  rw [get?_insert]
  by_cases hkey : key item = wanted
  · subst hkey
    rw [if_pos rfl, Option.some_inj]
    constructor
    · rintro rfl
      exact ⟨item, List.mem_append_right _ List.mem_cons_self, rfl, (hvalue _).2 rfl⟩
    · rintro ⟨found, hmem, hsame, hmeans⟩
      rcases List.mem_append.1 hmem with hmem | hmem
      · exact absurd (List.mem_map.2 ⟨found, hmem, hsame⟩) hnew
      · rw [List.mem_singleton.1 hmem] at hmeans
        exact ((hvalue other).1 hmeans).symm
  · rw [if_neg hkey, h wanted other]
    constructor
    · rintro ⟨found, hmem, hfound⟩
      exact ⟨found, List.mem_append_left _ hmem, hfound⟩
    · rintro ⟨found, hmem, hsame, hmeans⟩
      rcases List.mem_append.1 hmem with hmem | hmem
      · exact ⟨found, hmem, hsame, hmeans⟩
      · exact absurd (List.mem_singleton.1 hmem ▸ hsame) hkey

theorem Represents.isSome_iff (h : dictionary.Represents key means items)
    (hvalues : ∀ item ∈ items, ∃ value, means item value) (wanted : String)
    : (dictionary.get? wanted).isSome ↔ wanted ∈ items.map key := by
  rw [Option.isSome_iff_exists, List.mem_map]
  constructor
  · rintro ⟨value, hvalue⟩
    obtain ⟨item, hmem, hkey, -⟩ := (h wanted value).1 hvalue
    exact ⟨item, hmem, hkey⟩
  · rintro ⟨item, hmem, hkey⟩
    obtain ⟨value, hvalue⟩ := hvalues item hmem
    exact ⟨value, (h wanted value).2 ⟨item, hmem, hkey, hvalue⟩⟩

/-- The order of the items does not matter. -/
theorem Represents.eq_of_perm {other : Dictionary α} {others : List β}
    (h : dictionary.Represents key means items) (hother : other.Represents key means others)
    (hperm : others.Perm items)
    : other = dictionary := by
  apply eq_of_get?_eq
  intro wanted
  apply Option.ext
  intro value
  rw [h wanted value, hother wanted value]
  simp only [hperm.mem_iff]

end Represents

end MongoConfig.Dictionary
