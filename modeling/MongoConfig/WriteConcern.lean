import MongoConfig.Duration
import MongoConfig.Spelling
import MongoConfig.Text.Unsigned
/-! Write concerns: how durable a write has to be before it counts as done. -/

namespace MongoConfig

/-- Who has to acknowledge a write: a number of nodes, most of them, or the nodes that a tag of
the replica set's configuration stands for. -/
inductive Acknowledgment where
  | nodes (count : UInt32)
  | majority
  | custom (tag : String)
deriving DecidableEq, Repr

structure WriteConcern where
  acknowledgment : Option Acknowledgment := none
  timeout : Option Duration := none
  journal : Option Bool := none
deriving DecidableEq, Repr

namespace WriteConcern

/-- The server's own default. -/
def acknowledged : WriteConcern :=
  {}

def nodes (count : UInt32) : WriteConcern :=
  { acknowledgment := some (.nodes count) }

def unacknowledged : WriteConcern :=
  nodes 0

def journaled : WriteConcern :=
  { journal := some true }

def majority : WriteConcern :=
  { acknowledgment := some .majority }

def custom (tag : String) : WriteConcern :=
  { acknowledgment := some (.custom tag) }

def withTimeout (concern : WriteConcern) (timeout : Duration) : WriteConcern :=
  { concern with timeout := some timeout }

def withJournal (concern : WriteConcern) (journal : Bool) : WriteConcern :=
  { concern with journal := some journal }

/-- A write is reported back unless no node is asked; a journaled write is reported in any case. -/
def isAcknowledged (concern : WriteConcern) : Bool :=
  concern.acknowledgment != some (.nodes 0) || concern.journal == some true

def table : List (String × WriteConcern) :=
  [
    ("acknowledged", acknowledged),
    ("safe", acknowledged),
    ("unacknowledged", unacknowledged),
    ("normal", unacknowledged),
    ("w1", nodes 1),
    ("w2", nodes 2),
    ("w3", nodes 3),
    ("journaled", journaled),
    ("journalsafe", journaled),
    ("majority", majority)
  ]

/-- Reads a name, a number of nodes or, failing both, a tag. Blank text is none of them. -/
def read (text : String) : Except TextError WriteConcern :=
  match Text.trim text.toList with
  | [] => .error (.unknownName .writeConcern text)
  | trimmed =>
      match lookUp? table text with
      | some concern => .ok concern
      | none =>
          match Text.readUInt32? trimmed with
          | some count => .ok (nodes count)
          | none => .ok (custom (String.ofList trimmed))

end WriteConcern

end MongoConfig
