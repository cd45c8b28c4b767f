import MongoConfig.Proofs.Address.HostText
import MongoConfig.Proofs.Text.Unsigned
/-! The texts that are addresses.
The reader looks at the first character, cuts once and refuses what is left over; the grammar only
says how a host and a port are put together. Both agree on every text, in what they accept and in
what the address is.
-/

namespace MongoConfig.Address

/-- A port may be left out; the default port is meant then. -/
inductive WritesPort : UInt16 → Option (List Char) → Prop
  | default : WritesPort defaultPort none
  | number {port text} (h : Text.WritesUnsigned port.toNat text) : WritesPort port (some text)

/-- The ways to write an address without blanks around it: a host, in brackets or not, and a port
after a colon. The brackets keep the colons of a host from being taken for the one of the port. -/
inductive WrittenAs (host : List Char) (port : UInt16) : List Char → Prop
  | plain {portText} (hhost : host ≠ []) (hcolon : ':' ∉ host) (hopen : '[' ∉ host.head?)
    (hport : WritesPort port portText)
    : WrittenAs host port (host ++ Text.afterSign ':' portText)
  | bracketed {portText} (hhost : host ≠ []) (hclose : ']' ∉ host)
    (hport : WritesPort port portText)
    : WrittenAs host port ('[' :: host ++ ']' :: Text.afterSign ':' portText)

-----------------------------------------------------------------------------------------
-- Ports
-----------------------------------------------------------------------------------------

theorem readPort_eq_ok_iff {portText : Option (List Char)} {port : UInt16}
    : readPort portText = .ok port ↔ WritesPort port portText := by
  constructor
  · intro h
    cases portText with
    | none =>
        cases h
        exact .default
    | some text =>
        rw [readPort] at h
        split at h
        · rename_i number hread
          cases h
          exact .number (Text.readUInt16?_eq_some_iff.1 hread)
        · cases h
  · rintro (_ | hwrites)
    · rfl
    · simp only [readPort, Text.readUInt16?_eq_some_iff.2 hwrites]

/-- A number has no colon in it. -/
theorem WritesPort.not_mem {portText : Option (List Char)} {port : UInt16}
    (h : WritesPort port portText)
    : ∀ text ∈ portText, ':' ∉ text := by
  rintro text htext
  cases h with
  | default => cases htext
  | number hwrites =>
      cases htext
      exact hwrites.not_mem (by decide) (by decide)

-----------------------------------------------------------------------------------------
-- Addresses
-----------------------------------------------------------------------------------------

variable {text host : List Char}

theorem writtenAs_iff_split {port : UInt16}
    : WrittenAs host port text
      ↔ host ≠ [] ∧ ∃ portText, split text = .ok (host, portText) ∧ WritesPort port portText := by
  constructor
  · rintro (⟨hhost, hcolon, hopen, hport⟩ | ⟨hhost, hclose, hport⟩)
    · refine ⟨hhost, _, (split_eq_ok_iff_of_ne_nil hhost).2 (.inr ?_), hport⟩
      exact ⟨rfl, hopen, hcolon, hport.not_mem⟩
    · refine ⟨hhost, _, (split_eq_ok_iff_of_ne_nil hhost).2 (.inl ?_), hport⟩
      exact ⟨rfl, hclose⟩
  · rintro ⟨hhost, portText, hsplit, hport⟩
    rcases (split_eq_ok_iff_of_ne_nil hhost).1 hsplit with ⟨rfl, hclose⟩ | ⟨rfl, hopen, hcolon, -⟩
    · exact .bracketed hhost hclose hport
    · exact .plain hhost hcolon hopen hport

/-- An address is read if and only if its text is written with its host and its port. -/
theorem readTrimmed_eq_ok_iff_writtenAs {address : Address}
    : readTrimmed text = .ok address
      ↔ ∃ host port, WrittenAs host port text ∧ address = ofHost (String.ofList host) port := by
  rw [readTrimmed_eq_ok_iff_split]
  constructor
  · rintro ⟨host, portText, port, hsplit, hhost, hport, rfl⟩
    have hwritten : WrittenAs host port text :=
      writtenAs_iff_split.2 ⟨hhost, portText, hsplit, readPort_eq_ok_iff.1 hport⟩
    exact ⟨host, port, hwritten, rfl⟩
  · rintro ⟨host, port, hwritten, rfl⟩
    obtain ⟨hhost, portText, hsplit, hport⟩ := writtenAs_iff_split.1 hwritten
    exact ⟨host, portText, port, hsplit, hhost, readPort_eq_ok_iff.2 hport, rfl⟩

theorem eq_ofHost_iff {address : Address} {port : UInt16}
    : address = ofHost (String.ofList host) port
      ↔ address.host.toList = Text.lower (Text.trim host) ∧ address.port = port := by
  obtain ⟨name, number⟩ := address
  simp [ofHost, String.ext_iff]

/-- What is not read is refused with the text that was given. -/
theorem read_cases (text : String)
    : (∃ address, read text = .ok address) ∨ ∃ fault, read text = .error (.address text fault) := by
  rw [read]
  cases readTrimmed (Text.trim text.toList) with
  | ok address => exact .inl ⟨address, rfl⟩
  | error fault => exact .inr ⟨fault, rfl⟩

/-- An address is read exactly from the texts that are written with its host, in any case and with
blanks around it, and with its port; every other text is refused with the text in the error. -/
theorem read_by_grammar (text : String)
    : (∀ address,
        read text = .ok address
        ↔ ∃ host port,
            WrittenAs host port (Text.trim text.toList)
            ∧ address.host.toList = Text.lower (Text.trim host)
            ∧ address.port = port)
      ∧ ((¬∃ host port, WrittenAs host port (Text.trim text.toList))
        ↔ ∃ fault, read text = .error (.address text fault)) := by
  have hread (address : Address)
      : read text = .ok address
        ↔ ∃ host port,
            WrittenAs host port (Text.trim text.toList)
            ∧ address.host.toList = Text.lower (Text.trim host)
            ∧ address.port = port := by
    simp only [read_eq_ok_iff, readTrimmed_eq_ok_iff_writtenAs, eq_ofHost_iff]
  refine ⟨hread, ?_⟩
  constructor
  · intro hnone
    refine (read_cases text).resolve_left ?_
    rintro ⟨address, hok⟩
    obtain ⟨host, port, hwritten, -⟩ := (hread address).1 hok
    exact hnone ⟨host, port, hwritten⟩
  · rintro ⟨fault, herror⟩ ⟨host, port, hwritten⟩
    have hok : read text = .ok (ofHost (String.ofList host) port) :=
      (hread _).2 ⟨host, port, hwritten, eq_ofHost_iff.1 rfl⟩
    rw [hok] at herror
    cases herror

end MongoConfig.Address
