import MongoConfig.Text.Blank
import MongoConfig.Text.LowerCase
import MongoConfig.TextError
/-! Names that may be spelled in several ways.
Case, underscores, hyphens and surrounding blanks do not count, so one name can be written as
`REPLICA_SET`, `replica-set` or `replicaSet`.
-/

namespace MongoConfig

def isJoint (c : Char) : Bool :=
  c = '_' || c = '-'

/-- The one form that all spellings of a name share. -/
def normalForm (text : String) : List Char :=
  Text.lowerEach ((Text.trim text.toList).filter (!isJoint ·))

/-- The value that a text names in a table of normal forms. -/
def lookUp? {α : Type} (table : List (String × α)) (text : String) : Option α :=
  (table.find? fun entry => entry.1.toList = normalForm text).map (·.2)

/-- The value that a text names, or the error that tells which kind of value was expected. -/
def readName {α : Type} (kind : NamedKind) (table : List (String × α)) (text : String)
    : Except TextError α :=
  match lookUp? table text with
  | some value => .ok value
  | none => .error (.unknownName kind text)

def Mechanism.read (text : String) : Except TextError Mechanism :=
  match Mechanism.ofName? text with
  | some mechanism => .ok mechanism
  | none => .error (.unknownName .mechanism text)

end MongoConfig
