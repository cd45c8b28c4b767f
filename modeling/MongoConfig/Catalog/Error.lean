import MongoConfig.FlatSettings.Basic
import MongoConfig.Json.Problem
/-! What can be wrong with a catalog. -/

namespace MongoConfig.Catalog

/-- Why a file cannot be read as text. -/
inductive FileFault where
  | missing
  | notADirectory
  | directory
  | nameTooLong
  | zeroByte
  | notUtf8
deriving DecidableEq, Repr

def FileFault.message : FileFault → String
  | missing => "No such file or directory (os error 2)"
  | notADirectory => "Not a directory (os error 20)"
  | directory => "Is a directory (os error 21)"
  | nameTooLong => "File name too long (os error 36)"
  | zeroByte => "file name contained an unexpected NUL byte"
  | notUtf8 => "stream did not contain valid UTF-8"

inductive Error where
  | document (problem : Json.Problem)
  | duplicateId (id : String)
  | unknownSettings (client reference : String)
  | settings (id : String) (cause : AssemblyError)
  | credential (id : String) (cause : TextError)
  | file (path : String) (fault : FileFault)
deriving DecidableEq, Repr

/-- The report of an error. What is wrong with a document is told by its problem. -/
def Error.report : Error → ErrorReport
  | document _ => { message := "The client namespace document is malformed" }
  | duplicateId id => { message := "The id `" ++ id ++ "` is defined more than once" }
  | unknownSettings client reference =>
      {
        message :=
          "Client `" ++ client ++ "` refers to unknown client settings `" ++ reference ++ "`"
      }
  | settings id cause =>
      .because ("Client settings `" ++ id ++ "` could not be assembled") cause.report
  | credential id cause =>
      .because ("Client `" ++ id ++ "` has an invalid credential") cause.report
  | file path fault =>
      {
        message :=
          "Failed to read client namespace file `" ++ path ++ "`. Caused by: " ++ fault.message
      }

end MongoConfig.Catalog
