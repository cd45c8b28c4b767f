import MongoConfig.Proofs.Address.HostText
/-! Reading an address, writing it and reading it again.
Brackets let a host hold what it could not hold without them: colons, a further opening bracket, or
nothing but blanks. The text of an address has brackets for colons only, and blanks are cut off a
host after it was found not to be empty. So an address is read back unless its host stood in
brackets for another reason than colons.
-/

namespace MongoConfig.Address

/-- What stands in brackets at the start of a text. -/
def bracketed? : List Char → Option (List Char)
  | '[' :: rest => (Text.cutFirst ']' rest).map (·.1)
  | _ => none

/-- Without its brackets the host would be no host: it has no colon, and it is blank or starts with
a bracket. -/
def LosesHost (text : String) : Prop :=
  ∃ host ∈ bracketed? (Text.trim text.toList),
    ':' ∉ host ∧ (Text.trim host = [] ∨ '[' ∈ (Text.trim host).head?)

-----------------------------------------------------------------------------------------
-- Hosts as they are written
-----------------------------------------------------------------------------------------

theorem bracketed?_of_no_bracket {text : List Char} (h : '[' ∉ text.head?)
    : bracketed? text = none := by
  rw [bracketed?]
  rintro rest rfl
  exact h rfl

/-- A host either stands in brackets, which it does not close, or it is what the text starts with,
up to the first colon. -/
theorem split_cases {text host : List Char} {port : Option (List Char)}
    (h : split text = .ok (host, port)) (hne : host ≠ [])
    : bracketed? text = some host ∧ ']' ∉ host
      ∨ bracketed? text = none ∧ ':' ∉ host ∧ '[' ∉ host.head? ∧ host.head? = text.head? := by
  rcases (split_eq_ok_iff_of_ne_nil hne).1 h with ⟨rfl, hclose⟩ | ⟨rfl, hopen, hcolon, -⟩
  · refine .inl ⟨?_, hclose⟩
    rw [List.cons_append, bracketed?, Text.cutFirst_append hclose]
    rfl
  · have hhead : (host ++ Text.afterSign ':' port).head? = host.head? :=
      List.head?_append_of_ne_nil host hne
    exact .inr ⟨bracketed?_of_no_bracket (hhead ▸ hopen), hcolon, hopen, hhead.symm⟩

/-- The signs of a host are those of the text in which it stood. -/
theorem host_signs {host : List Char} {address : Address}
    (h : address.host.toList = Text.lower (Text.trim host))
    : (address.host = "" ↔ Text.trim host = [])
      ∧ (':' ∈ address.host.toList ↔ ':' ∈ host)
      ∧ ('[' ∈ address.host.toList.head? ↔ '[' ∈ (Text.trim host).head?)
      ∧ (']' ∈ address.host.toList → ']' ∈ host) := by
  refine ⟨?_, ?_, ?_, ?_⟩
  · rw [← String.toList_eq_nil_iff, h]
    refine ⟨fun hnil => ?_, fun hnil => by rw [hnil]; rfl⟩
    by_contra hne
    exact Text.lowerFrom_ne_nil hne false hnil
  · rw [h, Text.lower, Text.mem_lowerFrom_iff (by decide +kernel) (by decide +kernel)]
    exact Text.mem_trim_iff (by decide)
  · rw [h]
    exact Text.head?_lowerFrom_iff (by decide +kernel) (by decide +kernel) false _
  · rw [h]
    exact fun hmem => Text.mem_of_mem_trim (Text.mem_of_mem_lower hmem (by decide +kernel))

-----------------------------------------------------------------------------------------
-- Reading again
-----------------------------------------------------------------------------------------

theorem settled_of_read {text : String} {address : Address} (h : read text = .ok address)
    : address.Settled := by
  obtain ⟨host, -, -, -, hhost⟩ := exists_split_of_readTrimmed (read_eq_ok_iff.1 h)
  constructor
  · rw [hhost, Text.trim_of_trimmed (Text.trimmed_trim host).lower]
  · rw [hhost, Text.lower_lower]

/-- What a text without blanks around it starts with is no blank, so trimming leaves the start of a
host in front of it alone. -/
theorem head?_trim_of_head? {text host : List Char} (h : host.head? = (Text.trim text).head?)
    : (Text.trim host).head? = host.head? := by
  refine Text.head?_trim ?_
  rw [h]
  exact (Text.trimmed_trim text).first

/-- A host that needs no brackets, or has colons for which it gets them, is told apart from what is
around it. -/
theorem delimited_of_read {text : String} {address : Address} (h : read text = .ok address)
    (hkeeps : ¬LosesHost text)
    : address.Delimited := by
  obtain ⟨host, port, hsplit, hne, hhost⟩ := exists_split_of_readTrimmed (read_eq_ok_iff.1 h)
  obtain ⟨hempty, hcolon, hopen, hclose⟩ := host_signs hhost
  rcases split_cases hsplit hne with ⟨hbracketed, hnot⟩ | ⟨-, hno, hfirst, hhead⟩
  · have hsigns : ':' ∉ host → Text.trim host ≠ [] ∧ '[' ∉ (Text.trim host).head? := by
      intro hno
      by_contra hlost
      exact hkeeps ⟨host, hbracketed, hno, by tauto⟩
    by_cases hmem : ':' ∈ host
    · have hin := hcolon.2 hmem
      refine ⟨fun hnone => ?_, ?_⟩
      · rw [hnone] at hin
        cases hin
      · rw [if_pos hin]
        exact mt hclose hnot
    · refine ⟨mt hempty.1 (hsigns hmem).1, ?_⟩
      rw [if_neg (mt hcolon.1 hmem)]
      exact mt hopen.1 (hsigns hmem).2
  · have htrim := head?_trim_of_head? hhead
    refine ⟨fun hnone => ?_, ?_⟩
    · rw [hempty.1 hnone] at htrim
      exact hne (List.head?_eq_none_iff.1 htrim.symm)
    · rw [if_neg (mt hcolon.1 hno)]
      exact fun hbracket => hfirst (htrim ▸ hopen.1 hbracket)

/-- A host that is lost without its brackets has none of the signs that would end it elsewhere. -/
theorem host_of_losesHost {text : String} {address : Address} (h : read text = .ok address)
    (hlost : LosesHost text)
    : ':' ∉ address.host.toList
      ∧ ']' ∉ address.host.toList
      ∧ (address.host = "" ∨ '[' ∈ address.host.toList.head?) := by
  obtain ⟨host, port, hsplit, hne, hhost⟩ := exists_split_of_readTrimmed (read_eq_ok_iff.1 h)
  obtain ⟨hempty, hcolon, hopen, hclose⟩ := host_signs hhost
  obtain ⟨inner, hinner, hno, hstart⟩ := hlost
  rcases split_cases hsplit hne with ⟨hbracketed, hnot⟩ | ⟨hbracketed, -⟩
  · rw [hbracketed, Option.mem_some_iff] at hinner
    subst hinner
    exact ⟨mt hcolon.1 hno, mt hclose hnot, hstart.imp hempty.2 hopen.2⟩
  · rw [hbracketed] at hinner
    cases hinner

/-- Without brackets around it such a host leaves a text that is no address: the host is missing, or
the bracket that it opens is not closed. -/
theorem exists_read_text_eq_error {address : Address} (hsettled : address.Settled)
    (hcolon : ':' ∉ address.host.toList) (hclose : ']' ∉ address.host.toList)
    (hstart : address.host = "" ∨ '[' ∈ address.host.toList.head?)
    : ∃ fault, read address.text = .error (.address address.text fault) := by
  rw [read, Text.trim_of_trimmed hsettled.trimmed_text, toList_text, if_neg hcolon, readTrimmed]
  rcases hstart with hempty | hopen
  · refine ⟨.emptyHost, ?_⟩
    rw [String.toList_eq_nil_iff.2 hempty, List.nil_append, split_portDigits]
    rfl
  · refine ⟨.unclosedBracket, ?_⟩
    obtain ⟨rest, hrest⟩ := List.head?_eq_some_iff.1 hopen
    have hnone : Text.cutFirst ']' (rest ++ ':' :: address.portDigits) = none := by
      have hport : ']' ∉ address.portDigits := address.not_mem_portDigits (by decide)
      rw [hrest, List.mem_cons, not_or] at hclose
      refine Text.cutFirst_eq_none_iff.2 ?_
      simp [hclose.2, hport]
    rw [hrest, List.cons_append, Address.split, splitBracketed, hnone]
    rfl

/-- An address that was read has a host and is read back from its text if and only if it does not
lose its host without brackets. If it does, its text is refused and not taken for another address.
-/
theorem read_text_iff_of_read {text : String} {address : Address} (h : read text = .ok address)
    : (address.host ≠ "" ∧ read address.text = .ok address ↔ ¬LosesHost text)
      ∧ (LosesHost text → ∃ fault, read address.text = .error (.address address.text fault)) := by
  have hsettled := settled_of_read h
  have hrefused
      : LosesHost text → ∃ fault, read address.text = .error (.address address.text fault) := by
    intro hlost
    obtain ⟨hcolon, hclose, hstart⟩ := host_of_losesHost h hlost
    exact exists_read_text_eq_error hsettled hcolon hclose hstart
  refine ⟨⟨?_, ?_⟩, hrefused⟩
  · rintro ⟨-, hread⟩ hlost
    obtain ⟨fault, herror⟩ := hrefused hlost
    rw [hread] at herror
    cases herror
  · intro hkeeps
    have hdelimited := delimited_of_read h hkeeps
    exact ⟨hdelimited.notEmpty, hdelimited.read_text hsettled⟩

/-- Blanks and an opening bracket are no harm to a host with colons. -/
theorem read_text_iff_of_read_colons
    : read "\u3000[ [FE80::1 ]:+0080" = .ok { host := "[fe80::1", port := 80 }
      ∧ read "[[fe80::1]:80" = .ok { host := "[fe80::1", port := 80 } := by
  have hread : read "\u3000[ [FE80::1 ]:+0080" = .ok { host := "[fe80::1", port := 80 } := by
    decide +kernel
  refine ⟨hread, ((read_text_iff_of_read hread).1.2 ?_).2⟩
  rintro ⟨host, hhost, hcolon, -⟩
  have hinner
      : bracketed? (Text.trim "\u3000[ [FE80::1 ]:+0080".toList) = some " [FE80::1 ".toList := by
    decide +kernel
  rw [hinner, Option.mem_some_iff] at hhost
  subst hhost
  exact hcolon (by decide)

/-- Blanks alone are a host while they stand in brackets, and none after that. A bracket is one,
too, but its text opens another. -/
theorem read_text_lostHost
    : read "[ ]" = .ok { host := "", port := 27017 }
      ∧ read ":27017" = .error (.address ":27017" .emptyHost)
      ∧ read "[[]" = .ok { host := "[", port := 27017 }
      ∧ ({ host := "[", port := 27017 } : Address).text = "[:27017"
      ∧ read "[:27017" = .error (.address "[:27017" .unclosedBracket) := by
  decide +kernel

end MongoConfig.Address
