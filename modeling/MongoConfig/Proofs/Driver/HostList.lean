import MongoConfig.Driver.HostList
import MongoConfig.Proofs.Address.HostText
/-! How a driver reads the text of plain hosts.
Such a text has no part but hosts, and every host comes with a port. So the driver reads back the
hosts and ports that were listed, or nothing: it refuses port zero, and it does not know the
brackets around a host with colons.
-/

namespace MongoConfig.Driver

/-- The host as a driver sees it. -/
def Host.ofAddress (address : Address) : Host :=
  {
    name := address.host,
    port := some address.port
  }

/-- What plain hosts are read into is the list of them, and no option about how to connect. -/
def ReadsListedHosts (read : String → Except Fault HostList) : Prop :=
  ∀ addresses found,
    addresses ≠ []
    → (∀ address ∈ addresses, address.Plain)
    → read (HostList.text addresses) = .ok found
    → found.hosts = addresses.map Host.ofAddress ∧ found.options.directConnection = none

namespace HostList

variable {address : Address} {host : Host}

-----------------------------------------------------------------------------------------
-- One host
-----------------------------------------------------------------------------------------

/-- The port stands at the end of the text, behind a colon. -/
theorem exists_text_eq (address : Address)
    : ∃ front, address.text.toList = front ++ ':' :: address.portDigits := by
  rw [Address.toList_text]
  split
  · exact ⟨'[' :: address.host.toList ++ [']'], by simp⟩
  · exact ⟨address.host.toList, rfl⟩

/-- The text is not the name of a socket, for it ends with a digit. -/
theorem not_isSuffixOf_text (address : Address)
    : socketEnding.isSuffixOf address.text.toList = false := by
  rw [Bool.eq_false_iff, ne_eq, List.isSuffixOf_iff_suffix]
  rintro ⟨before, hbefore⟩
  obtain ⟨front, hfront⟩ := exists_text_eq address
  have hsocket : address.text.toList.getLast? = some 'k' := by
    rw [← hbefore, List.getLast?_append_of_ne_nil _ (by decide)]
    rfl
  rw [hfront, List.getLast?_append_of_ne_nil _ (List.cons_ne_nil _ _), List.getLast?_cons]
    at hsocket
  cases hlast : address.portDigits.getLast? with
  | none => simp [hlast] at hsocket
  | some c =>
      have hdigit := Address.isDigit_of_mem_portDigits (List.mem_of_getLast? hlast)
      rw [hlast] at hsocket
      obtain rfl : c = 'k' := Option.some.inj hsocket
      cases hdigit

/-- At most one text stands behind the name of a host that is read. -/
theorem length_of_readPort {text name : List Char} {ports : List (List Char)}
    (h : readPort text name ports = .ok host)
    : ports.length ≤ 1 := by
  cases ports with
  | nil => simp
  | cons port more =>
      simp only [readPort] at h
      split at h
      · cases h
      · split at h
        · cases h
        · split at h
          · cases h
          · rename_i hmore
            simpa using hmore

theorem length_of_readServer {text : List Char} (h : readServer text = .ok host)
    : (Text.pieces ':' text).length ≤ 2 := by
  rw [readServer] at h
  split at h
  · cases h
  · rename_i name ports hpieces
    split at h
    · cases h
    · have hports := length_of_readPort h
      rw [hpieces, List.length_cons]
      omega

/-- A host with colons is cut at these, brackets or not. -/
theorem readServer_text_of_colon (hcolon : ':' ∈ address.host.toList)
    : readServer address.text.toList ≠ .ok host := by
  intro h
  have hlength := length_of_readServer h
  obtain ⟨first, second, hhost⟩ := List.append_of_mem hcolon
  have htext
      : address.text.toList
        = '[' :: first ++ ':' :: (second ++ [']'] ++ ':' :: address.portDigits) := by
    rw [Address.toList_text, if_pos hcolon, hhost]
    simp
  rw [htext, Text.pieces_append, Text.pieces_append, List.length_append, List.length_append]
    at hlength
  have hpieces (text : List Char) : 0 < (Text.pieces ':' text).length :=
    List.length_pos_of_ne_nil (Text.pieces_ne_nil ':' text)
  have hfirst := hpieces ('[' :: first)
  have hsecond := hpieces (second ++ [']'])
  have hport := hpieces address.portDigits
  omega

/-- The text of a plain host is read back, if it is read at all. -/
theorem readHost_text (hplain : address.Plain) (h : readHost address.text.toList = .ok host)
    : host = Host.ofAddress address := by
  have hsocket : ¬socketEnding.isSuffixOf address.text.toList = true := by
    simp [not_isSuffixOf_text]
  rw [readHost, if_neg hsocket] at h
  by_cases hcolon : ':' ∈ address.host.toList
  · exact absurd h (readServer_text_of_colon hcolon)
  · have hdigits : ':' ∉ address.portDigits := address.not_mem_portDigits (by decide)
    have hpieces
        : Text.pieces ':' address.text.toList = [address.host.toList, address.portDigits] := by
      rw [Address.toList_text, if_neg hcolon, Text.pieces_append,
        Text.pieces_of_not_mem hcolon, Text.pieces_of_not_mem hdigits]
      rfl
    have hport : Text.readUInt16? address.portDigits = some address.port :=
      Text.readUInt16?_unsignedText address.port
    have hname : address.host.toList.isEmpty = false := by
      simpa using Address.toList_host_ne_nil hplain.notEmpty
    simp only [readServer, hpieces, hname, readPort, hport] at h
    split at h
    · cases h
    · split at h
      · cases h
      · obtain rfl := Except.ok.inj h
        rw [Host.ofAddress, hplain.lowered, String.ofList_toList]

/-- By induction on the hosts. -/
theorem mapM_readHost {addresses : List Address}
    (hplain : ∀ address ∈ addresses, address.Plain) {hosts : List Host}
    (h : (addresses.map fun address => address.text.toList).mapM readHost = .ok hosts)
    : hosts = addresses.map Host.ofAddress := by
  induction addresses generalizing hosts with
  | nil => exact (Except.ok.inj h).symm
  | cons address rest ih =>
      rw [List.map_cons, List.mapM_cons] at h
      obtain ⟨host, hhost, h⟩ := bind_eq_ok_iff.1 h
      obtain ⟨others, hothers, h⟩ := bind_eq_ok_iff.1 h
      obtain rfl := Except.ok.inj h
      rw [List.map_cons, readHost_text (hplain address List.mem_cons_self) hhost,
        ih (fun other hother => hplain other (List.mem_cons_of_mem address hother)) hothers]

-----------------------------------------------------------------------------------------
-- All hosts
-----------------------------------------------------------------------------------------

theorem toList_text (addresses : List Address)
    : (text addresses).toList = Address.listText addresses := by
  rw [text, String.toList_intercalate, Address.listText, List.map_map]
  rfl

/-- A text of hosts is a location without user, database or options. -/
theorem readsListedHosts_read : ReadsListedHosts read := by
  intro addresses found hne hplain h
  have hnot : ∀ c ∈ ['/', '?', '@'], c ∉ Address.listText addresses := fun c hc =>
    Address.not_mem_listText hplain hc
  have hslash := Text.cutFirst_eq_none_iff.2 (hnot '/' (by decide))
  have hat := Text.cutLast_eq_none_iff.2 (hnot '@' (by decide))
  have hlocation
      : splitLocation (Address.listText addresses)
        = .ok (Address.listText addresses, none, none) := by
    simp [splitLocation, hslash, hnot]
  have huser
      : splitUserInfo (Address.listText addresses)
        = .ok (none, Address.listText addresses) := by
    rw [splitUserInfo, hat]
  have hpieces
      : Text.pieces ',' (Address.listText addresses)
        = addresses.map fun address => address.text.toList := by
    refine Text.pieces_intercalate (by simpa using hne) ?_
    intro part hpart
    obtain ⟨address, haddress, rfl⟩ := List.mem_map.1 hpart
    exact (hplain address haddress).not_mem_text (by decide)
  rw [read, toList_text, hlocation] at h
  simp only [bind, Except.bind, readDatabase, huser, hpieces] at h
  cases hhosts : (addresses.map fun address => address.text.toList).mapM readHost with
  | error fault =>
      rw [hhosts] at h
      cases h
  | ok hosts =>
      have hlogin : Login.check { userInfo := none, mechanism := none, source := none } = .ok () :=
        rfl
      rw [hhosts] at h
      simp only [LocationOptions.read, Option.map_none, Option.getD_none, hlogin,
        LocationOptions.check_combination_default] at h
      obtain rfl := Except.ok.inj h
      exact ⟨mapM_readHost hplain hhosts, rfl⟩

end HostList

end MongoConfig.Driver
