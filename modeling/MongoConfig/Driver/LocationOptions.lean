import MongoConfig.Driver.Combination
import MongoConfig.Driver.LocationOption
/-! The options in the location of a deployment, as a driver reads them.
They stand one after another, each with a key of its own. The first one that is wrong, or does not
go with those before it, is reported; then what all of them together leave open.
-/

namespace MongoConfig.Driver

/-- What the options in a location say. -/
structure LocationOptions where
  directConnection : Option Bool := none
  loadBalanced : Option Bool := none
  replicaSet : Bool := false
  acknowledgment : Option Acknowledgment := none
  journal : Option Bool := none
  maxPoolSize : Option UInt32 := none
  maxConnecting : Option UInt32 := none
  heartbeatFrequency : Option Duration := none
  readPreference : Option ReadPreference := none
  readPreferenceTags : Bool := false
  maxStaleness : Option Duration := none
  tls : Option Bool := none
  invalidCertificates : Option Bool := none
  authSource : Option String := none
  mechanism : Option LoginMechanism := none
deriving DecidableEq, Repr

namespace LocationOptions

/-- Turns transport security on or off, unless it was the other way before. -/
def putTls (options : LocationOptions) (enabled : Bool) : Except OptionFault LocationOptions :=
  if options.tls = some !enabled then
    .error .contradictoryTls
  else
    .ok { options with tls := some enabled }

/-- A detail of transport security turns it on, unless it was turned off before. -/
def putTlsDetail (options : LocationOptions) (detail : TlsDetail)
    : Except OptionFault LocationOptions :=
  if options.tls = some false then
    .error (.tlsDetailWithoutTls detail)
  else
    .ok { options with tls := some true }

def putInvalidCertificates (options : LocationOptions) (allowed : Bool)
    : Except OptionFault LocationOptions := do
  let options ← options.putTlsDetail .insecure
  if options.invalidCertificates = some !allowed then
    .error .contradictoryCertificateChecks
  else
    .ok { options with invalidCertificates := some allowed }

/-- Takes one option into account. -/
def put (options : LocationOptions) : LocationOption → Except OptionFault LocationOptions
  | .directConnection value => .ok { options with directConnection := some value }
  | .loadBalanced value => .ok { options with loadBalanced := some value }
  | .replicaSet => .ok { options with replicaSet := true }
  | .acknowledgment value => .ok { options with acknowledgment := some value }
  | .journal value => .ok { options with journal := some value }
  | .maxPoolSize value => .ok { options with maxPoolSize := some value }
  | .maxConnecting value => .ok { options with maxConnecting := some value }
  | .heartbeatFrequency value => .ok { options with heartbeatFrequency := some value }
  | .readPreference value => .ok { options with readPreference := some value }
  | .readPreferenceTags => .ok { options with readPreferenceTags := true }
  | .maxStaleness value => .ok { options with maxStaleness := value }
  | .tls enabled => options.putTls enabled
  | .tlsDetail detail => options.putTlsDetail detail
  | .invalidCertificates allowed => options.putInvalidCertificates allowed
  | .authSource database => .ok { options with authSource := some database }
  | .mechanism value => .ok { options with mechanism := some value }
  | .wellFormed => .ok options

/-- The only key that may be given more than once. -/
def repeatableKey : List Char :=
  "readpreferencetags".toList

/-- Reads the text of an option after those with the keys `seen`, and takes it into account. The
value is percent-escaped and the key is not. -/
def add (seen : List (List Char)) (options : LocationOptions) (text : List Char)
    : Except OptionFault (List (List Char) × LocationOptions) :=
  match Text.cutFirst '=' text with
  | none => .error (.notPair (String.ofList text))
  | some (key, value) =>
      if Text.lower key ≠ repeatableKey ∧ key ∈ seen then
        .error .repeated
      else do
        let option ←
          LocationOption.read (Text.lower key)
            (String.ofList (Text.Percent.decodeEscapes value))
        let options ← options.put option
        .ok (key :: seen, options)

/-- What is wrong with the preferred members of a replica set: tags and staleness restrict the
choice that a mode leaves, and the primary leaves none. -/
def preferenceFaults (options : LocationOptions) : List OptionFault :=
  let restrictions (tags staleness : OptionFault) :=
    (if options.readPreferenceTags then [tags] else [])
      ++ (if options.maxStaleness.isSome then [staleness] else [])
  match options.readPreference with
  | none => restrictions .tagsWithoutMode .stalenessWithoutMode
  | some .primary => restrictions .tagsForPrimary .stalenessForPrimary
  | some _ => []

def ofTexts (texts : List (List Char)) : Except OptionFault LocationOptions := do
  let (_, options) ← texts.foldlM (fun state text => add state.1 state.2 text) ([], {})
  match options.preferenceFaults with
  | [] => .ok options
  | fault :: _ => .error fault

/-- Reads options that are separated by ampersands. No text holds no options. -/
def read : Option (List Char) → Except Fault LocationOptions
  | none => .ok {}
  | some text => (ofTexts (Text.pieces '&' text)).mapError .option

/-- The values that have to go together with those of so many hosts. -/
def combination (options : LocationOptions) (hostCount : Nat) : Combination :=
  {
    hostCount,
    directConnection := options.directConnection,
    loadBalanced := options.loadBalanced,
    replicaSet := options.replicaSet,
    acknowledgment := options.acknowledgment,
    journal := options.journal,
    maxPoolSize := options.maxPoolSize,
    maxConnecting := options.maxConnecting,
    maxStaleness := options.maxStaleness,
    heartbeatFrequency := options.heartbeatFrequency
  }

/-- Without options nothing is wrong. -/
theorem check_combination_default (hostCount : Nat)
    : (combination {} hostCount).check = .ok () := by
  simp [Combination.check_eq_ok_iff, Combination.faults, Combination.faultIf, combination,
    Combination.balancingFaults, Combination.stalenessFaults, Combination.heartbeatFaults]

end LocationOptions

end MongoConfig.Driver
