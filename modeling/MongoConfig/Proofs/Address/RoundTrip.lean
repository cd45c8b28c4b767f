import MongoConfig.Address
import MongoConfig.Proofs.Text.Blank
/-! Reading the text of an address gives the address back.
The brackets around a host with colons keep its colons from being taken for the one before the
port. A host that holds no separator of a list or of a URI can stand in both.
-/

namespace MongoConfig.Address

/-- The characters that separate hosts from each other and from the rest of a URI. -/
def separators : List Char :=
  [',', '/', '?', '@', '[', ']']

/-- A host that its text gives back: not empty, without blanks around it, in lower case, and
without separators. -/
structure Plain (address : Address) : Prop where
  notEmpty : address.host ≠ ""
  trimmed : Text.trim address.host.toList = address.host.toList
  lowered : Text.lower address.host.toList = address.host.toList
  noSeparator : ∀ c ∈ separators, c ∉ address.host.toList

/-- A host as reading leaves it. -/
structure Settled (address : Address) : Prop where
  trimmed : Text.trim address.host.toList = address.host.toList
  lowered : Text.lower address.host.toList = address.host.toList

/-- A host whose text is cut nowhere but before the port. With colons it is put in brackets, which
it must not close itself; without them it must not open one. -/
structure StandsAlone (address : Address) : Prop where
  notEmpty : address.host ≠ ""
  noSeparator : ∀ c ∈ [',', '/', '?', '@'], c ∉ address.host.toList
  brackets
    : if ':' ∈ address.host.toList then
        ']' ∉ address.host.toList
      else
        '[' ∉ address.host.toList.head?

/-- A host that is told apart from the rest of the text of its address. With colons it is put in
brackets, which it must not close itself; without them it must not open one. -/
structure Delimited (address : Address) : Prop where
  notEmpty : address.host ≠ ""
  brackets
    : if ':' ∈ address.host.toList then
        ']' ∉ address.host.toList
      else
        '[' ∉ address.host.toList.head?

theorem Plain.settled {address : Address} (h : address.Plain) : address.Settled :=
  ⟨h.trimmed, h.lowered⟩

theorem StandsAlone.delimited {address : Address} (h : address.StandsAlone) : address.Delimited :=
  ⟨h.notEmpty, h.brackets⟩

theorem Plain.standsAlone {address : Address} (h : address.Plain) : address.StandsAlone where
  notEmpty := h.notEmpty
  noSeparator c hc := h.noSeparator c (by
    simp only [separators, List.mem_cons, List.not_mem_nil, or_false] at hc ⊢
    rcases hc with rfl | rfl | rfl | rfl <;> simp)
  brackets := by
    split
    · exact h.noSeparator ']' (by decide)
    · exact fun hopen => h.noSeparator '[' (by decide) (List.mem_of_mem_head? hopen)

-----------------------------------------------------------------------------------------
-- The text of an address
-----------------------------------------------------------------------------------------

def portDigits (address : Address) : List Char :=
  (Text.unsignedText address.port.toNat).toList

theorem toList_text (address : Address)
    : address.text.toList
      = if ':' ∈ address.host.toList then
          '[' :: address.host.toList ++ ']' :: ':' :: address.portDigits
        else
          address.host.toList ++ ':' :: address.portDigits := by
  rw [text]
  split <;> simp [portDigits]

theorem isDigit_of_mem_portDigits {address : Address} {c : Char} (h : c ∈ address.portDigits)
    : c.isDigit = true := by
  rw [portDigits, Text.unsignedText, String.toList_ofList] at h
  exact Nat.isDigit_of_mem_toDigits (by decide) (by decide) h

theorem not_mem_portDigits (address : Address) {c : Char} (h : c.isDigit = false)
    : c ∉ address.portDigits := by
  intro hmem
  rw [isDigit_of_mem_portDigits hmem] at h
  cases h

/-- A digit is no blank. -/
theorem isBlank_of_isDigit {c : Char} (h : c.isDigit = true) : Text.isBlank c = false := by
  simp only [Char.isDigit, Bool.and_eq_true, decide_eq_true_eq, ge_iff_le,
    UInt32.le_iff_toNat_le] at h
  have hcode : 0x30 ≤ c.toNat ∧ c.toNat ≤ 0x39 := h
  exact Text.isBlank_of_graphic (by omega)

theorem toList_host_ne_nil {address : Address} (h : address.host ≠ "")
    : address.host.toList ≠ [] := by
  intro hnil
  exact h (String.toList_eq_nil_iff.1 hnil)

/-- The text ends with a digit. -/
theorem isBlank_getLast?_text (address : Address)
    : ∀ c ∈ address.text.toList.getLast?, Text.isBlank c = false := by
  have hport : ∀ c ∈ address.portDigits.getLast?, Text.isBlank c = false := fun c hc =>
    isBlank_of_isDigit (isDigit_of_mem_portDigits (List.mem_of_getLast? hc))
  rw [toList_text]
  split
  · exact Text.isBlank_getLast?_append_cons (by decide)
      (Text.isBlank_getLast?_append_cons (by decide) hport []) _
  · exact Text.isBlank_getLast?_append_cons (by decide) hport _

/-- The text starts with a bracket, the host or the colon after it. -/
theorem Settled.trimmed_text {address : Address} (h : address.Settled)
    : Text.Trimmed address.text.toList := by
  refine ⟨?_, address.isBlank_getLast?_text⟩
  have hfirst := (Text.trim_eq_self_iff.1 h.trimmed).first
  rw [toList_text]
  split
  · intro c hc
    cases hc
    decide
  · cases hhost : address.host.toList with
    | nil =>
        intro c hc
        cases hc
        decide
    | cons first rest =>
        rw [hhost] at hfirst
        exact hfirst

/-- No separator of a list or a URI stands in the text, the brackets apart, if none stands in the
host. -/
theorem not_mem_text {address : Address} {c : Char} (hc : c ∈ [',', '/', '?', '@'])
    (hhost : c ∉ address.host.toList)
    : c ∉ address.text.toList := by
  simp only [List.mem_cons, List.not_mem_nil, or_false] at hc
  have hport : c ∉ address.portDigits := by
    apply address.not_mem_portDigits
    rcases hc with rfl | rfl | rfl | rfl <;> decide
  rw [toList_text]
  split <;> rcases hc with rfl | rfl | rfl | rfl <;> simp [hhost, hport]

-----------------------------------------------------------------------------------------
-- Reading it back
-----------------------------------------------------------------------------------------

theorem split_of_no_bracket {c : Char} (h : c ≠ '[') (rest : List Char)
    : split (c :: rest) = splitPlain (c :: rest) := by
  rw [Address.split]
  · simp
  · intro inner hcons
    injection hcons with hc
    exact h hc

/-- A port without a host has an empty one in front. -/
theorem split_portDigits (address : Address)
    : split (':' :: address.portDigits) = .ok ([], some address.portDigits) := by
  have hcolon : ':' ∉ address.portDigits := address.not_mem_portDigits (by decide)
  rw [split_of_no_bracket (by decide), splitPlain]
  simp [Text.cutFirst, hcolon]

theorem Delimited.split_text {address : Address} (h : address.Delimited)
    : split address.text.toList = .ok (address.host.toList, some address.portDigits) := by
  have hbrackets := h.brackets
  rw [toList_text]
  split
  · rename_i hcolon
    rw [if_pos hcolon] at hbrackets
    simp only [Address.split, List.cons_append, splitBracketed, Text.cutFirst_append hbrackets]
  · rename_i hcolon
    rw [if_neg hcolon] at hbrackets
    have hport : ':' ∉ address.portDigits := address.not_mem_portDigits (by decide)
    have hplain
        : splitPlain (address.host.toList ++ ':' :: address.portDigits)
          = .ok (address.host.toList, some address.portDigits) := by
      rw [splitPlain, Text.cutFirst_append hcolon]
      simp [hport]
    -- the host decides which way of splitting is taken, so its first character is needed
    cases hhost : address.host.toList with
    | nil => exact absurd hhost (toList_host_ne_nil h.notEmpty)
    | cons c rest =>
        have hopen : c ≠ '[' := by
          rintro rfl
          exact hbrackets (by rw [hhost]; rfl)
        rw [hhost] at hplain
        rw [List.cons_append] at hplain ⊢
        rw [split_of_no_bracket hopen, hplain]

theorem Settled.ofHost {address : Address} (h : address.Settled)
    : Address.ofHost address.host address.port = address := by
  simp [Address.ofHost, h.trimmed, h.lowered]

/-- Reading the text of an address gives that address. -/
theorem Delimited.read_text {address : Address} (h : address.Delimited)
    (hsettled : address.Settled)
    : read address.text = .ok address := by
  have hport : readPort (some address.portDigits) = .ok address.port := by
    simp only [readPort, portDigits, Text.readUInt16?_unsignedText]
  have htrimmed : readTrimmed address.text.toList = .ok address := by
    rw [readTrimmed, h.split_text]
    simp [bind, Except.bind, toList_host_ne_nil h.notEmpty, hport, hsettled.ofHost]
  rw [read, Text.trim_of_trimmed hsettled.trimmed_text, htrimmed]
  rfl

theorem StandsAlone.read_text {address : Address} (h : address.StandsAlone)
    (hsettled : address.Settled)
    : read address.text = .ok address :=
  h.delimited.read_text hsettled

theorem Plain.trimmed_text {address : Address} (h : address.Plain)
    : Text.Trimmed address.text.toList :=
  h.settled.trimmed_text

theorem Plain.not_mem_text {address : Address} (h : address.Plain) {c : Char}
    (hc : c ∈ [',', '/', '?', '@'])
    : c ∉ address.text.toList :=
  Address.not_mem_text hc (h.standsAlone.noSeparator c hc)

-----------------------------------------------------------------------------------------
-- Lists
-----------------------------------------------------------------------------------------

theorem text_ne_nil (address : Address) : address.text.toList ≠ [] := by
  rw [toList_text]
  split <;> simp

/-- The separators that keep a list of hosts apart from the rest of a URI stand in no list. -/
theorem not_mem_listText {addresses : List Address} (h : ∀ address ∈ addresses, address.Plain)
    {c : Char} (hc : c ∈ ['/', '?', '@'])
    : c ∉ listText addresses := by
  intro hmem
  rcases Text.mem_of_mem_intercalate hmem with rfl | ⟨part, hpart, hmem⟩
  · exact absurd hc (by decide)
  · obtain ⟨address, haddress, rfl⟩ := List.mem_map.1 hpart
    exact (h address haddress).not_mem_text (List.mem_cons_of_mem ',' hc) hmem

theorem listText_ne_nil {addresses : List Address} (h : addresses ≠ [])
    : listText addresses ≠ [] := by
  cases addresses with
  | nil => exact absurd rfl h
  | cons address rest => exact Text.intercalate_ne_nil ',' address.text_ne_nil _

theorem isBlank_getLast?_listText {addresses : List Address}
    (h : ∀ address ∈ addresses, address.Plain)
    : ∀ c ∈ (listText addresses).getLast?, Text.isBlank c = false := by
  intro c hc
  have hne : ∀ part ∈ addresses.map fun a => a.text.toList, part ≠ [] := by
    intro part hpart
    obtain ⟨address, _, rfl⟩ := List.mem_map.1 hpart
    exact address.text_ne_nil
  obtain ⟨part, hpart, hlast⟩ := Text.getLast?_intercalate hne hc
  obtain ⟨address, hmem, rfl⟩ := List.mem_map.1 hpart
  exact (h address hmem).trimmed_text.last c hlast

/-- Between the commas stand the texts that were joined. -/
theorem entries_listText {addresses : List Address}
    (h : ∀ address ∈ addresses, address.Plain)
    : entries (String.ofList (listText addresses)) = addresses.map text := by
  by_cases hnil : addresses = []
  · subst hnil
    rfl
  · have hcomma : ∀ part ∈ addresses.map fun a => a.text.toList, ',' ∉ part := by
      intro part hpart
      obtain ⟨address, hmem, rfl⟩ := List.mem_map.1 hpart
      exact (h address hmem).not_mem_text (by decide)
    have hpieces := Text.pieces_intercalate (by simpa using hnil) hcomma
    have htrim
        : (addresses.map fun a => a.text.toList).map Text.trim
          = addresses.map fun a => a.text.toList := by
      rw [List.map_map]
      exact List.map_congr_left fun address hmem =>
        Text.trim_of_trimmed (h address hmem).trimmed_text
    have hfilter
        : (addresses.map fun a => a.text.toList).filter (fun part => !part.isEmpty)
          = addresses.map fun a => a.text.toList := by
      refine List.filter_eq_self.2 fun part hpart => ?_
      obtain ⟨address, hmem, rfl⟩ := List.mem_map.1 hpart
      rw [List.isEmpty_eq_false_iff.2 address.text_ne_nil]
      rfl
    rw [entries, String.toList_ofList, listText, hpieces, htrim, hfilter, List.map_map]
    exact List.map_congr_left fun address _ => String.ofList_toList

/-- Reading the joined texts of addresses gives the addresses in order, by induction on them. -/
theorem readList_listText {addresses : List Address}
    (h : ∀ address ∈ addresses, address.Plain)
    : readList (String.ofList (listText addresses)) = .ok addresses := by
  rw [readList, entries_listText h]
  induction addresses with
  | nil => rfl
  | cons address rest ih =>
      have hrest := ih fun a ha => h a (List.mem_cons_of_mem address ha)
      have hplain := h address List.mem_cons_self
      have hread := hplain.standsAlone.read_text hplain.settled
      rw [List.map_cons, List.mapM_cons, hread, hrest]
      rfl

theorem read_eq_ok_iff {text : String} {address : Address}
    : read text = .ok address ↔ readTrimmed (Text.trim text.toList) = .ok address := by
  rw [read]
  cases readTrimmed (Text.trim text.toList) <;> simp [Except.mapError]

/-- A text without commas is one entry, unless it is blank. -/
theorem entries_of_not_mem {text : String} (hcomma : ',' ∉ text.toList)
    : entries text
      = if Text.isAllBlank text then [] else [String.ofList (Text.trim text.toList)] := by
  rw [entries, Text.pieces_of_not_mem hcomma, Text.isAllBlank, List.map_singleton,
    List.filter_singleton]
  cases (Text.trim text.toList).isEmpty <;> rfl

/-- A text without commas is a list of one address if it reads as that address. -/
theorem readList_eq_singleton_iff {text : String} {address : Address} (hcomma : ',' ∉ text.toList)
    : readList text = .ok [address] ↔ read text = .ok address := by
  have hagain
      : read (String.ofList (Text.trim text.toList)) = .ok address ↔ read text = .ok address := by
    rw [read_eq_ok_iff, read_eq_ok_iff, String.toList_ofList, Text.trim_trim]
  rw [readList, entries_of_not_mem hcomma]
  split
  · rename_i hblank
    rw [read_eq_ok_iff, List.isEmpty_iff.1 hblank]
    exact iff_of_false nofun nofun
  · rw [List.mapM_cons, ← hagain]
    cases read (String.ofList (Text.trim text.toList))
    all_goals simp [bind, Except.bind, pure, Except.pure]

end MongoConfig.Address
