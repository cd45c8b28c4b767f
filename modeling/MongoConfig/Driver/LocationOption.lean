import MongoConfig.Driver.Login
import MongoConfig.ReadRouting
import MongoConfig.Text.LowerCase
import MongoConfig.Text.Signed
import MongoConfig.Text.Similarity
import MongoConfig.WriteConcern
/-! One option in the location of a deployment, as a driver reads it.
The location names the hosts, and what the settings say of anything else counts in the end. So most
options only have to be well formed; those that go together with others have a value.
-/

namespace MongoConfig.Driver

/-- An option with its value. -/
inductive LocationOption where
  | directConnection (value : Bool)
  | loadBalanced (value : Bool)
  | replicaSet
  | acknowledgment (value : Acknowledgment)
  | journal (value : Bool)
  | maxPoolSize (value : UInt32)
  | maxConnecting (value : UInt32)
  | heartbeatFrequency (value : Duration)
  | readPreference (value : ReadPreference)
  | readPreferenceTags
  | maxStaleness (value : Option Duration)
  | tls (enabled : Bool)
  | tlsDetail (detail : TlsDetail)
  | invalidCertificates (allowed : Bool)
  | authSource (database : String)
  | mechanism (value : LoginMechanism)
  | wellFormed
deriving DecidableEq, Repr

namespace LocationOption

/-- Reads a value; the key is needed only to name it in a fault. -/
abbrev Reader :=
  String → String → Except OptionFault LocationOption

def text (make : String → LocationOption) : Reader := fun _ value =>
  .ok (make value)

def bool (make : Bool → LocationOption) : Reader := fun key value =>
  if value = "true" then
    .ok (make true)
  else if value = "false" then
    .ok (make false)
  else
    .error (.notBoolean key)

def millis (make : UInt64 → Except OptionFault LocationOption) : Reader := fun key value =>
  match Text.readUInt64? value.toList with
  | some milliseconds => make milliseconds
  | none => .error (.notMillis key)

def size (make : UInt32 → LocationOption) : Reader := fun key value =>
  match Text.readUInt32? value.toList with
  | some size => .ok (make size)
  | none => .error (.notSize key)

def integer (make : Int → Except OptionFault LocationOption) : Reader := fun key value =>
  match Text.readInt32? value.toList with
  | some number => make number
  | none => .error (.notInteger key)

def ofHeartbeat (milliseconds : UInt64) : Except OptionFault LocationOption :=
  if milliseconds.toNat < minHeartbeatMillis then
    .error (.heartbeatTooOften milliseconds.toNat)
  else
    .ok (.heartbeatFrequency (.ofMillis milliseconds))

/-- Minus one is no bound on the staleness. -/
def ofStaleness (seconds : Int) : Except OptionFault LocationOption :=
  if seconds < -1 then
    .error .stalenessTooLow
  else if seconds = -1 then
    .ok (.maxStaleness none)
  else
    .ok (.maxStaleness (some (.ofSeconds seconds.toNat 0)))

def ofCompression (level : Int) : Except OptionFault LocationOption :=
  if level < -1 then
    .error .compressionTooLow
  else if 9 < level then
    .error .compressionTooHigh
  else
    .ok .wellFormed

/-- What is not a number names the members that have to acknowledge a write. -/
def readAcknowledgment : Reader := fun _ value =>
  match Text.readInt32? value.toList with
  | some count =>
      if count < 0 then
        .error .negativeAcknowledgment
      else
        .ok (.acknowledgment (.nodes (UInt32.ofNat count.toNat)))
  | none => .ok (.acknowledgment (if value = "majority" then .majority else .custom value))

def readReadPreference : Reader := fun _ value =>
  let name := String.ofList (Text.lower value.toList)
  match ReadPreference.table.find? fun entry => entry.1 = name with
  | some (_, preference) => .ok (.readPreference preference)
  | none => .error (.unknownReadPreference name)

/-- A set of tags may be empty. -/
def readTags : Reader := fun _ value =>
  if value.isEmpty || (Text.pieces ',' value.toList).all (':' ∈ ·) then
    .ok .readPreferenceTags
  else
    .error (.malformedTag value)

def isProperty (text : List Char) : Bool :=
  match Text.cutFirst ':' text with
  | some (key, value) => !key.isEmpty && !value.isEmpty
  | none => false

def readProperties : Reader := fun _ value =>
  if (Text.pieces ',' value.toList).all isProperty then
    .ok .wellFormed
  else
    .error .malformedProperties

/-- The forms in which identifiers of old clients were stored. -/
def uuidForms : List String :=
  ["csharplegacy", "javalegacy", "pythonlegacy"]

def readUuidForm : Reader := fun _ value =>
  if String.ofList (Text.lower value.toList) ∈ uuidForms then
    .ok .wellFormed
  else
    .error (.unknownUuidForm value)

def checkedText : Reader :=
  text fun _ => .wellFormed

def checkedBool : Reader :=
  bool fun _ => .wellFormed

def checkedMillis : Reader :=
  millis fun _ => .ok .wellFormed

def checkedSize : Reader :=
  size fun _ => .wellFormed

/-- The options by their names, in the order in which the names are proposed for one that is not
known. -/
def proposedReaders : List (String × Reader) :=
  [
    ("appname", checkedText),
    ("authmechanism", fun _ value => (LoginMechanism.read value).map mechanism),
    ("authsource", text authSource),
    ("authmechanismproperties", readProperties),
    ("compressors", checkedText),
    ("connecttimeoutms", checkedMillis),
    ("directconnection", bool directConnection),
    ("heartbeatfrequencyms", millis ofHeartbeat),
    ("journal", bool journal),
    ("localthresholdms", checkedMillis),
    ("maxidletimems", checkedMillis),
    ("maxstalenessseconds", integer ofStaleness),
    ("maxpoolsize", size maxPoolSize),
    ("minpoolsize", checkedSize),
    ("maxconnecting", size maxConnecting),
    ("readconcernlevel", checkedText),
    ("readpreference", readReadPreference),
    ("readpreferencetags", readTags),
    ("replicaset", text fun _ => replicaSet),
    ("retrywrites", checkedBool),
    ("retryreads", checkedBool),
    ("serverselectiontimeoutms", checkedMillis),
    ("sockettimeoutms", checkedMillis),
    ("tls", bool tls),
    ("ssl", bool tls),
    ("tlsinsecure", bool fun value => invalidCertificates (!value)),
    ("tlsallowinvalidcertificates", bool invalidCertificates),
    ("tlscafile", text fun _ => tlsDetail .authorityFile),
    ("tlscertificatekeyfile", text fun _ => tlsDetail .certificateKeyFile),
    ("uuidRepresentation", readUuidForm),
    ("w", readAcknowledgment),
    ("waitqueuetimeoutms", checkedMillis),
    ("wtimeoutms", checkedMillis),
    ("zlibcompressionlevel", integer ofCompression)
  ]

/-- All options. Load balancing is never proposed. -/
def readers : List (String × Reader) :=
  proposedReaders ++ [("loadbalanced", bool loadBalanced)]

/-- How alike a known name has to be to be proposed. -/
def leastSimilarity : Text.Share :=
  ⟨84, 100⟩

/-- Reads an option whose key is in lower case. -/
def read (key : List Char) (value : String) : Except OptionFault LocationOption :=
  match readers.find? fun entry => Text.lower entry.1.toList = key with
  | some (_, read) => read (String.ofList key) value
  | none =>
      .error
        (.unknown (String.ofList key)
          (Text.closest? leastSimilarity (proposedReaders.map (·.1)) key))

end LocationOption

end MongoConfig.Driver
