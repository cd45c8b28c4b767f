import MongoConfig.Json.Draft
import MongoConfig.TextError
import MongoConfig.Text.Quoted
/-! What can be wrong with a JSON document: its form, or a value that is not the expected one. -/

namespace MongoConfig.Json

/-- What stands in a document where something else was expected. -/
inductive Found where
  | null
  | bool (value : Bool)
  | number (value : Number)
  | string (value : String)
  | array
  | object
deriving DecidableEq, Repr

def Found.description : Found → String
  | null => "null"
  | bool true => "boolean `true`"
  | bool false => "boolean `false`"
  | number (.integer value) => "integer `" ++ (Number.integer value).text ++ "`"
  | number (.float value) => "floating point `" ++ value.text ++ "`"
  | string value => "string " ++ Text.quoted value
  | array => "sequence"
  | object => "map"

/-- What a place in a document expects. -/
inductive Expected where
  | unsigned (bits : Nat)
  | bool
  | string
  | array
  | object
  | record (name : String)
deriving DecidableEq, Repr

def Expected.description : Expected → String
  | unsigned bits => "u" ++ Text.unsignedText bits
  | bool => "a boolean"
  | string => "a string"
  | array => "a sequence"
  | object => "a map"
  | record name => "struct " ++ name

/-- A value that does not fit its place. -/
inductive Misfit where
  | wrongType (found : Found) (expected : Expected)
  | outOfRange (value : Number) (expected : Expected)
  | unknownMember (name : String) (known : List String)
  | repeatedMember (name : String)
  | missingMember (name : String)
  | tooShort (length : Nat) (name : String) (size : Nat)
  | text (error : TextError)
deriving DecidableEq, Repr

def ticked (name : String) : String :=
  "`" ++ name ++ "`"

/-- Two names are joined by a word; more are listed. -/
def oneOf : List String → String
  | [] => "there are no fields"
  | [name] => "expected " ++ ticked name
  | [first, second] => "expected " ++ ticked first ++ " or " ++ ticked second
  | names => "expected one of " ++ ", ".intercalate (names.map ticked)

def Misfit.message : Misfit → String
  | wrongType found expected =>
      "invalid type: " ++ found.description ++ ", expected " ++ expected.description
  | outOfRange value expected =>
      "invalid value: " ++ (Found.number value).description ++ ", expected "
        ++ expected.description
  | unknownMember name known => "unknown field " ++ ticked name ++ ", " ++ oneOf known
  | repeatedMember name => "duplicate field " ++ ticked name
  | missingMember name => "missing field " ++ ticked name
  | tooShort length name size =>
      "invalid length " ++ Text.unsignedText length ++ ", expected struct " ++ name ++ " with "
        ++ Text.unsignedText size ++ (if size = 1 then " element" else " elements")
  | text error => error.message

/-- The first thing wrong with a document. -/
inductive Problem where
  | form (fault : Fault)
  | content (misfit : Misfit)
deriving DecidableEq, Repr

end MongoConfig.Json
