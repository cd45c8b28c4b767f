import MongoConfig.Text.Unsigned
/-! Signed decimal numbers of 32 bits.
A negative number is a minus sign and at least one ASCII digit; any other number is written without
a sign or with a plus sign.
-/

namespace MongoConfig.Text

def readNegative? : List Char → Option Int
  | [] => none
  | digits =>
      ((readDigits 0 digits).filter (· ≤ 2147483648)).map fun (size : Nat) => -(size : Int)

/-- The number that a text writes, if it fits into 32 bits. -/
def readInt32? : List Char → Option Int
  | '-' :: digits => readNegative? digits
  | text => (readUnsigned? 2147483647 text).map Int.ofNat

theorem range_of_readNegative? {text : List Char} {value : Int}
    (h : readNegative? text = some value)
    : -2147483648 ≤ value ∧ value ≤ 0 := by
  unfold readNegative? at h
  split at h
  · cases h
  · obtain ⟨size, hsize, rfl⟩ := Option.map_eq_some_iff.1 h
    have : size ≤ 2147483648 := by simpa using (Option.filter_eq_some_iff.1 hsize).2
    omega

/-- A number that was read fits into 32 bits. -/
theorem range_of_readInt32? {text : List Char} {value : Int} (h : readInt32? text = some value)
    : -2147483648 ≤ value ∧ value ≤ 2147483647 := by
  unfold readInt32? at h
  split at h
  · have := range_of_readNegative? h
    omega
  · obtain ⟨size, hsize, rfl⟩ := Option.map_eq_some_iff.1 h
    have := le_of_readUnsigned? hsize
    simp only [Int.ofNat_eq_natCast]
    omega

end MongoConfig.Text
