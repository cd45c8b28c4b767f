/-! Lengths of time. A duration is exact to the nanosecond; configuration values give it in
milliseconds.
-/

namespace MongoConfig

structure Duration where
  nanoseconds : Nat
deriving DecidableEq, Repr

namespace Duration

def nanosecondsPerMillisecond : Nat :=
  1000000

def nanosecondsPerSecond : Nat :=
  1000000000

def zero : Duration :=
  ⟨0⟩

def isZero (duration : Duration) : Bool :=
  duration.nanoseconds == 0

def ofMillis (milliseconds : UInt64) : Duration :=
  ⟨milliseconds.toNat * nanosecondsPerMillisecond⟩

def ofSeconds (seconds nanoseconds : Nat) : Duration :=
  ⟨seconds * nanosecondsPerSecond + nanoseconds⟩

/-- The whole milliseconds in a duration; parts of one are cut off. -/
def wholeMillis (duration : Duration) : Nat :=
  duration.nanoseconds / nanosecondsPerMillisecond

/-- The whole seconds in a duration; parts of one are cut off. -/
def wholeSeconds (duration : Duration) : Nat :=
  duration.nanoseconds / nanosecondsPerSecond

/-- The whole milliseconds in a duration, or the greatest number of them that can be configured. -/
def toMillis (duration : Duration) : UInt64 :=
  UInt64.ofNat (min duration.wholeMillis (UInt64.size - 1))

/-- The duration as a configuration value can give it: whole milliseconds only. -/
def truncated (duration : Duration) : Duration :=
  ofMillis duration.toMillis

/-- A duration that was configured in milliseconds has just these. -/
@[simp]
theorem toMillis_ofMillis (milliseconds : UInt64)
    : (ofMillis milliseconds).toMillis = milliseconds := by
  have h : milliseconds.toNat ≤ UInt64.size - 1 := by
    have := milliseconds.toNat_lt
    simp only [UInt64.size]
    omega
  have hwhole : (ofMillis milliseconds).wholeMillis = milliseconds.toNat :=
    Nat.mul_div_cancel _ (by decide)
  rw [toMillis, hwhole, Nat.min_eq_left h, UInt64.ofNat_toNat]

/-- A zero length of time is no bound at all. -/
def nonZero? (duration : Duration) : Option Duration :=
  if duration.isZero then none else some duration

end Duration

end MongoConfig
