import MongoConfig.Json.Lexeme
/-! Reading a text as a JSON draft.
Every value, item and member takes at least one character, so the length of the text bounds the
number of steps. Arrays and objects may be nested in each other 127 deep.
-/

namespace MongoConfig.Json

def maxDepth : Nat :=
  127

/-- A word after its first letter. -/
def Draft.ofWord (word : List Char) (draft : Draft) (text : List Char) : Draft × List Char :=
  match readWord word text with
  | .ok rest => (draft, rest)
  | .error fault => (.broken fault, [])

def Draft.ofNumber (isNegative : Bool) (text : List Char) : Draft × List Char :=
  match readNumber isNegative text with
  | .ok (value, rest) => (.number value, rest)
  | .error fault => (.broken fault, [])

def Draft.ofString (text : List Char) : Draft × List Char :=
  match readString text with
  | .ok (value, rest) => (.string value, rest)
  | .error fault => (.broken fault, [])

/-- Cuts off the colon between a key and its value. -/
def skipColon (text : List Char) : Except Fault (List Char) :=
  match skipSpace text with
  | ':' :: rest => .ok rest
  | [] => .error .ended
  | _ :: _ => .error .malformed

mutual
/-- Reads a value; `depth` more arrays and objects may be opened. -/
def Draft.readFrom (fuel depth : Nat) (text : List Char) : Draft × List Char :=
  match fuel with
  | 0 => (.broken .ended, [])
  | fuel + 1 =>
      match skipSpace text with
      | [] => (.broken .ended, [])
      | c :: rest =>
          if c = 'n' then Draft.ofWord ['u', 'l', 'l'] .null rest
          else if c = 't' then Draft.ofWord ['r', 'u', 'e'] (.bool true) rest
          else if c = 'f' then Draft.ofWord ['a', 'l', 's', 'e'] (.bool false) rest
          else if c = '-' then Draft.ofNumber true rest
          else if c.isDigit then Draft.ofNumber false (c :: rest)
          else if c = '"' then Draft.ofString rest
          else if c = '[' then
            match depth with
            | 0 => (.broken .malformed, [])
            | depth + 1 =>
                let (items, rest) := DraftItems.readFirst fuel depth rest
                (.array items, rest)
          else if c = '\x7b' then
            match depth with
            | 0 => (.broken .malformed, [])
            | depth + 1 =>
                let (members, rest) := DraftMembers.readFrom fuel depth true rest
                (.object members, rest)
          else (.broken .malformed, [])
termination_by structural fuel

/-- Reads the items of an array after its bracket. -/
def DraftItems.readFirst (fuel depth : Nat) (text : List Char) : DraftItems × List Char :=
  match fuel with
  | 0 => (.broken .ended, [])
  | fuel + 1 =>
      match skipSpace text with
      | [] => (.broken .ended, [])
      | ']' :: rest => (.closed, rest)
      | rest => DraftItems.readItem fuel depth rest
termination_by structural fuel

/-- Reads an item and those after it. -/
def DraftItems.readItem (fuel depth : Nat) (text : List Char) : DraftItems × List Char :=
  match fuel with
  | 0 => (.broken .ended, [])
  | fuel + 1 =>
      let (value, rest) := Draft.readFrom fuel depth text
      let (items, rest) := DraftItems.readNext fuel depth rest
      (.item value items, rest)
termination_by structural fuel

/-- Reads what follows an item. -/
def DraftItems.readNext (fuel depth : Nat) (text : List Char) : DraftItems × List Char :=
  match fuel with
  | 0 => (.broken .ended, [])
  | fuel + 1 =>
      match skipSpace text with
      | [] => (.broken .ended, [])
      | ']' :: rest => (.closed, rest)
      | ',' :: rest => DraftItems.readItem fuel depth rest
      | _ => (.broken .malformed, [])
termination_by structural fuel

/-- Reads the members of an object; before all but the first there is a comma. -/
def DraftMembers.readFrom (fuel depth : Nat) (isFirst : Bool) (text : List Char)
    : DraftMembers × List Char :=
  match fuel with
  | 0 => (.broken .ended, [])
  | fuel + 1 =>
      match skipSpace text with
      | [] => (.broken .ended, [])
      | '\x7d' :: rest => (.closed, rest)
      | ',' :: rest =>
          if isFirst then
            (.broken .malformed, [])
          else
            DraftMembers.readMember fuel depth (skipSpace rest)
      | rest =>
          if isFirst then
            DraftMembers.readMember fuel depth rest
          else
            (.broken .malformed, [])
termination_by structural fuel

/-- Reads a key, its value and the members after it. -/
def DraftMembers.readMember (fuel depth : Nat) (text : List Char)
    : DraftMembers × List Char :=
  match fuel with
  | 0 => (.broken .ended, [])
  | fuel + 1 =>
      match text with
      | [] => (.broken .ended, [])
      | '"' :: rest =>
          match readString rest with
          | .error fault => (.broken fault, [])
          | .ok (key, rest) =>
              match skipColon rest with
              | .error fault => (.member key (.broken fault) (.broken fault), [])
              | .ok rest =>
                  let (value, rest) := Draft.readFrom fuel depth rest
                  let (members, rest) := DraftMembers.readFrom fuel depth false rest
                  (.member key value members, rest)
      | _ :: _ => (.broken .malformed, [])
termination_by structural fuel
end

/-- The draft of a text and whether anything but white space comes after it. -/
structure Document where
  draft : Draft
  hasTrailingText : Bool
deriving Repr

def Document.read (text : String) : Document :=
  let chars := text.toList
  let (draft, rest) := Draft.readFrom (4 * chars.length + 4) maxDepth chars
  {
    draft,
    hasTrailingText := !(skipSpace rest).isEmpty
  }

end MongoConfig.Json
