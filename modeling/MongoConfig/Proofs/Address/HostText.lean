import MongoConfig.Proofs.Address.RoundTrip
import MongoConfig.Proofs.Outcome
import MongoConfig.Proofs.Text.LowerCase
/-! How a text is split into a host and a port, and what a host that was read holds.
Its blanks and signs all stood in the text that it was read from, in the part before the port. So it
holds none that the text is cut at.
-/

namespace MongoConfig

namespace Address

-----------------------------------------------------------------------------------------
-- Hosts and the texts they were read from
-----------------------------------------------------------------------------------------

/-- A host in brackets is what stands before the first closing bracket. -/
theorem splitBracketed_eq_ok_iff {text host : List Char} {portText : Option (List Char)}
    : splitBracketed text = .ok (host, portText)
      ↔ text = host ++ ']' :: Text.afterSign ':' portText ∧ ']' ∉ host := by
  constructor
  · intro h
    rw [splitBracketed] at h
    split at h
    all_goals cases h
    all_goals
      rename_i hcut
      exact Text.cutFirst_eq_some_iff.1 hcut
  · rintro ⟨rfl, hclose⟩
    cases portText with
    | none => simp only [splitBracketed, Text.cutFirst_append hclose, Text.afterSign]
    | some port => simp only [splitBracketed, Text.cutFirst_append hclose, Text.afterSign]

/-- Without brackets there is no colon but the one between the host and the port. -/
theorem splitPlain_eq_ok_iff {text host : List Char} {portText : Option (List Char)}
    : splitPlain text = .ok (host, portText)
      ↔ text = host ++ Text.afterSign ':' portText
        ∧ ':' ∉ host
        ∧ ∀ port ∈ portText, ':' ∉ port := by
  constructor
  · intro h
    rw [splitPlain] at h
    split at h
    · rename_i hcut
      cases h
      refine ⟨(List.append_nil _).symm, Text.cutFirst_eq_none_iff.1 hcut, ?_⟩
      rintro _ ⟨⟩
    · rename_i hcut
      obtain ⟨htext, hcolon⟩ := Text.cutFirst_eq_some_iff.1 hcut
      split at h
      · cases h
      · rename_i hport
        cases h
        refine ⟨htext, hcolon, ?_⟩
        rintro _ ⟨⟩
        exact hport
  · rintro ⟨rfl, hcolon, hport⟩
    cases portText with
    | none =>
        simp only [splitPlain, Text.afterSign, List.append_nil, Text.cutFirst_eq_none_iff.2 hcolon]
    | some port =>
        have hmore : ':' ∉ port := hport port rfl
        simp only [splitPlain, Text.afterSign, Text.cutFirst_append hcolon, if_neg hmore]

/-- The first character decides whether brackets are expected. -/
theorem split_eq_ok_iff {text host : List Char} {portText : Option (List Char)}
    : split text = .ok (host, portText)
      ↔ (∃ rest, text = '[' :: rest ∧ splitBracketed rest = .ok (host, portText))
        ∨ text ≠ [] ∧ '[' ∉ text.head? ∧ splitPlain text = .ok (host, portText) := by
  cases text with
  | nil =>
      constructor
      · intro h
        cases h
      · rintro (⟨rest, hrest, -⟩ | ⟨hne, -⟩)
        · cases hrest
        · exact absurd rfl hne
  | cons c rest =>
      by_cases hopen : c = '['
      · subst hopen
        simp [Address.split]
      · simp [split_of_no_bracket hopen, hopen]

/-- A host that is not empty is split off a text if the text is written with it. -/
theorem split_eq_ok_iff_of_ne_nil {text host : List Char} {portText : Option (List Char)}
    (hhost : host ≠ [])
    : split text = .ok (host, portText)
      ↔ text = '[' :: host ++ ']' :: Text.afterSign ':' portText ∧ ']' ∉ host
        ∨ text = host ++ Text.afterSign ':' portText
          ∧ '[' ∉ host.head?
          ∧ ':' ∉ host
          ∧ ∀ port ∈ portText, ':' ∉ port := by
  rw [split_eq_ok_iff]
  refine or_congr ?_ ?_
  · constructor
    · rintro ⟨rest, rfl, h⟩
      obtain ⟨rfl, hclose⟩ := splitBracketed_eq_ok_iff.1 h
      exact ⟨rfl, hclose⟩
    · rintro ⟨rfl, hclose⟩
      exact ⟨_, rfl, splitBracketed_eq_ok_iff.2 ⟨rfl, hclose⟩⟩
  · rw [splitPlain_eq_ok_iff]
    have hhead (back : List Char) : (host ++ back).head? = host.head? :=
      List.head?_append_of_ne_nil host hhost
    constructor
    · rintro ⟨-, hopen, rfl, hcolon, hport⟩
      rw [hhead] at hopen
      exact ⟨rfl, hopen, hcolon, hport⟩
    · rintro ⟨rfl, hopen, hcolon, hport⟩
      rw [← hhead (Text.afterSign ':' portText)] at hopen
      exact ⟨List.append_ne_nil_of_left_ne_nil hhost _, hopen, rfl, hcolon, hport⟩

theorem mem_of_split {text host : List Char} {port : Option (List Char)}
    (h : split text = .ok (host, port)) {c : Char} (hc : c ∈ host)
    : c ∈ text := by
  rcases (split_eq_ok_iff_of_ne_nil (List.ne_nil_of_mem hc)).1 h with ⟨rfl, -⟩ | ⟨rfl, -⟩
  · exact List.mem_cons_of_mem '[' (List.mem_append_left _ hc)
  · exact List.mem_append_left _ hc

/-- An address is made of what is split off, if the host is there and the port is a number. -/
theorem readTrimmed_eq_ok_iff_split {text : List Char} {address : Address}
    : readTrimmed text = .ok address
      ↔ ∃ host portText port,
          split text = .ok (host, portText)
          ∧ host ≠ []
          ∧ readPort portText = .ok port
          ∧ address = ofHost (String.ofList host) port := by
  rw [readTrimmed, bind_eq_ok_iff]
  constructor
  · rintro ⟨⟨host, portText⟩, hsplit, h⟩
    dsimp only at h
    split at h
    · cases h
    · rename_i hhost
      obtain ⟨port, hport, h⟩ := bind_eq_ok_iff.1 h
      exact ⟨host, portText, port, hsplit, by simpa using hhost, hport, (Except.ok.inj h).symm⟩
  · rintro ⟨host, portText, port, hsplit, hhost, hport, rfl⟩
    have hempty : host.isEmpty = false := List.isEmpty_eq_false_iff.2 hhost
    refine ⟨(host, portText), hsplit, ?_⟩
    simp only [hempty]
    exact bind_eq_ok_iff.2 ⟨port, hport, rfl⟩

/-- An address that was read has the host that was split off. -/
theorem exists_split_of_readTrimmed {text : List Char} {address : Address}
    (h : readTrimmed text = .ok address)
    : ∃ host port,
        split text = .ok (host, port)
        ∧ host ≠ []
        ∧ address.host.toList = Text.lower (Text.trim host) := by
  obtain ⟨host, portText, port, hsplit, hhost, -, rfl⟩ := readTrimmed_eq_ok_iff_split.1 h
  refine ⟨host, portText, hsplit, hhost, ?_⟩
  rw [ofHost, String.toList_ofList, String.toList_ofList]

/-- Blanks and signs of a host stood in its text. -/
theorem mem_of_readTrimmed {text : List Char} {address : Address}
    (h : readTrimmed text = .ok address) {c : Char} (hkept : Text.IsKept c)
    (hc : c ∈ address.host.toList)
    : c ∈ text := by
  obtain ⟨host, port, hsplit, -, hhost⟩ := exists_split_of_readTrimmed h
  rw [hhost] at hc
  exact mem_of_split hsplit (Text.mem_of_mem_trim (Text.mem_of_mem_lower hc hkept))

/-- Blanks and signs of the hosts in a list stood in its text, between commas. -/
theorem mem_of_readList {text : String} {addresses : List Address}
    (h : readList text = .ok addresses) {address : Address} (haddress : address ∈ addresses)
    {c : Char} (hkept : Text.IsKept c) (hc : c ∈ address.host.toList)
    : c ∈ text.toList ∧ c ≠ ',' := by
  obtain ⟨entry, hentry, hread⟩ := exists_of_mapM_eq_ok h haddress
  obtain ⟨trimmed, htrimmed, rfl⟩ := List.mem_map.1 hentry
  obtain ⟨piece, hpiece, rfl⟩ := List.mem_map.1 (List.mem_filter.1 htrimmed).1
  have hmem := mem_of_readTrimmed (read_eq_ok_iff.1 hread) hkept hc
  rw [String.toList_ofList] at hmem
  have hinPiece := Text.mem_of_mem_trim (Text.mem_of_mem_trim hmem)
  refine ⟨Text.mem_of_mem_pieces hpiece hinPiece, ?_⟩
  rintro rfl
  exact Text.not_mem_of_mem_pieces hpiece hinPiece

/-- The host of a text that starts with a bracket ends where the bracket is closed. -/
theorem not_mem_host_of_bracket {text : List Char} {address : Address}
    (h : readTrimmed ('[' :: text) = .ok address)
    : ']' ∉ address.host.toList ∧ ']' ∈ text := by
  obtain ⟨host, port, hsplit, -, hhost⟩ := exists_split_of_readTrimmed h
  obtain ⟨rfl, hnot⟩ := splitBracketed_eq_ok_iff.1 hsplit
  refine ⟨?_, by simp⟩
  rw [hhost]
  intro hmem
  have hkept : Text.IsKept ']' := by decide +kernel
  exact hnot (Text.mem_of_mem_trim (Text.mem_of_mem_lower hmem hkept))

-----------------------------------------------------------------------------------------
-- Addresses that their texts give back
-----------------------------------------------------------------------------------------

/-- Hosts are kept without blanks around them and in lower case. -/
theorem settled_ofHost (host : String) (port : UInt16) : (ofHost host port).Settled := by
  have htrimmed := Text.trimmed_trim host.toList
  constructor
  · rw [ofHost, String.toList_ofList, Text.trim_of_trimmed htrimmed.lower]
  · rw [ofHost, String.toList_ofList, Text.lower_lower]

/-- Only a host that is told apart from what is around it is read back from the text of its
address. -/
theorem delimited_of_read_text {address : Address} (hsettled : address.Settled)
    (hread : read address.text = .ok address)
    : address.Delimited := by
  have htrimmed := read_eq_ok_iff.1 hread
  rw [Text.trim_of_trimmed hsettled.trimmed_text, toList_text] at htrimmed
  constructor
  · intro hempty
    have hnil : address.host.toList = [] := String.toList_eq_nil_iff.2 hempty
    rw [hnil, if_neg List.not_mem_nil, List.nil_append, readTrimmed, split_portDigits] at htrimmed
    cases htrimmed
  · split
    · rename_i hcolon
      rw [if_pos hcolon] at htrimmed
      exact (not_mem_host_of_bracket htrimmed).1
    · rename_i hcolon
      rw [if_neg hcolon] at htrimmed
      intro hopen
      obtain ⟨rest, hrest⟩ := List.head?_eq_some_iff.1 hopen
      rw [hrest, List.cons_append] at htrimmed
      obtain ⟨hnot, hmem⟩ := not_mem_host_of_bracket htrimmed
      have hclose : ']' ∉ address.portDigits := address.not_mem_portDigits (by decide)
      rcases List.mem_append.1 hmem with hmem | hmem
      · exact hnot (by rw [hrest]; exact List.mem_cons_of_mem _ hmem)
      · rcases List.mem_cons.1 hmem with hsign | hmem
        · exact absurd hsign (by decide)
        · exact hclose hmem

theorem standsAlone_of_read_text {address : Address} (hsettled : address.Settled)
    (hread : read address.text = .ok address)
    (hseparator : ∀ c ∈ [',', '/', '?', '@'], c ∉ address.host.toList)
    : address.StandsAlone :=
  have hdelimited := delimited_of_read_text hsettled hread
  ⟨hdelimited.notEmpty, hseparator, hdelimited.brackets⟩

end Address

end MongoConfig
