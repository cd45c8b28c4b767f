import MongoConfig.ClientSpec
import MongoConfig.Driver.Options
/-! Creating clients. A client connects only when it is used, so all that can go wrong before is
that its settings do not resolve or that the driver rejects its options.
-/

namespace MongoConfig.ClientSpec

/-- The options that the client of a specification is created with. -/
def createOptions (spec : ClientSpec) : Except ClientError Driver.Options := do
  let settings ← spec.resolve
  let options ← (Driver.Options.ofSettings settings).mapError .driver
  options.check.mapError .driver
  .ok options

end MongoConfig.ClientSpec
