/-! Errors as they are shown: a message and the messages of the causes behind it. -/

namespace MongoConfig

/-- What is shown of an error. The causes go from the nearest to the farthest. -/
structure ErrorReport where
  message : String
  causes : List String := []
deriving DecidableEq, Repr

namespace ErrorReport

/-- A report whose cause is another report. -/
def because (message : String) (cause : ErrorReport) : ErrorReport :=
  {
    message,
    causes := cause.message :: cause.causes
  }

def causeLine (cause : String) : String :=
  "Caused by:\n\t" ++ cause ++ "\n"

/-- The message, an empty line and a line for every cause. -/
def trace (report : ErrorReport) : String :=
  report.message ++ "\n\n" ++ String.join (report.causes.map causeLine)

end ErrorReport

end MongoConfig
