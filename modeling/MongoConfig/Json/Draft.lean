import MongoConfig.Json.Basic
/-! Drafts: JSON documents read as far as they go.
A draft keeps its form up to the first place where the text breaks off or stops being JSON, and
that place is part of it. Going through a draft from the left therefore meets a wrong value before
a fault that comes later in the text, and a fault before everything after it.
-/

namespace MongoConfig.Json

/-- What is wrong with the form of a text: it is not JSON, or it ends too early. -/
inductive Fault where
  | malformed
  | ended
deriving DecidableEq, Repr

mutual
/-- A value, or the fault that was met in its stead. -/
inductive Draft where
  | broken (fault : Fault)
  | null
  | bool (value : Bool)
  | number (value : Number)
  | string (value : String)
  | array (items : DraftItems)
  | object (members : DraftMembers)
deriving Repr

/-- The items of an array. After a comma there is always another item. -/
inductive DraftItems where
  | closed
  | broken (fault : Fault)
  | item (value : Draft) (rest : DraftItems)
deriving Repr

/-- The members of an object. -/
inductive DraftMembers where
  | closed
  | broken (fault : Fault)
  | member (key : String) (value : Draft) (rest : DraftMembers)
deriving Repr
end

end MongoConfig.Json
