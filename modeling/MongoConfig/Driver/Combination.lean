import MongoConfig.Driver.Error
import MongoConfig.WriteConcern
/-! The options of a driver whose values have to go together, and what is wrong with them.
All faults are listed in a fixed order, and the first one is reported.
-/

namespace MongoConfig.Driver

/-- The options whose values have to go together. What is not given is not wrong. -/
structure Combination where
  hostCount : Nat
  directConnection : Option Bool
  loadBalanced : Option Bool
  replicaSet : Bool
  acknowledgment : Option Acknowledgment
  journal : Option Bool
  maxPoolSize : Option UInt32
  maxConnecting : Option UInt32
  maxStaleness : Option Duration
  heartbeatFrequency : Option Duration
deriving DecidableEq, Repr

namespace Combination

def faultIf (condition : Bool) (fault : Fault) : List Fault :=
  if condition then [fault] else []

def balancingFaults (options : Combination) : List Fault :=
  if options.loadBalanced = some true then
    faultIf (1 < options.hostCount) .manyHostsBalanced
      ++ faultIf options.replicaSet .replicaSetBalanced
      ++ faultIf (options.directConnection == some true) .directlyBalanced
  else
    []

def defaultHeartbeat : Duration :=
  .ofSeconds 10 0

/-- The least bound on the staleness of a member: ninety seconds, or what it takes to hear from a
member and ten seconds more. -/
def leastStaleness (heartbeat : Option Duration) : Duration :=
  ⟨max (Duration.ofSeconds 90 0).nanoseconds
    ((heartbeat.getD defaultHeartbeat).nanoseconds + (Duration.ofSeconds 10 0).nanoseconds)⟩

def stalenessFaults (options : Combination) : List Fault :=
  match options.maxStaleness with
  | some bound =>
      let least := leastStaleness options.heartbeatFrequency
      faultIf (bound.nanoseconds < least.nanoseconds) (.stalenessTooShort least)
  | none => []

def heartbeatFaults (options : Combination) : List Fault :=
  match options.heartbeatFrequency with
  | some frequency =>
      faultIf (frequency.nanoseconds < minHeartbeatMillis * Duration.nanosecondsPerMillisecond)
        (.heartbeatTooOften frequency)
  | none => []

def faults (options : Combination) : List Fault :=
  faultIf (options.directConnection == some true && 1 < options.hostCount) .manyHostsDirectly
    ++ faultIf (options.acknowledgment == some (.nodes 0) && options.journal == some true)
        .journalWithoutAcknowledgment
    ++ options.balancingFaults
    ++ faultIf (options.maxPoolSize == some 0) .zeroPoolSize
    ++ faultIf (options.maxConnecting == some 0) .zeroConnecting
    ++ options.stalenessFaults
    ++ options.heartbeatFaults

def check (options : Combination) : Except Fault Unit :=
  match options.faults with
  | [] => .ok ()
  | fault :: _ => .error fault

/-- Only options without a fault pass. -/
theorem check_eq_ok_iff {options : Combination}
    : options.check = .ok () ↔ options.faults = [] := by
  unfold check
  split
  · simp [*]
  · simp [*]

end Combination

end MongoConfig.Driver
