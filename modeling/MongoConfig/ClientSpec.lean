import MongoConfig.ConnectionString.Application
import MongoConfig.ConnectionString.Reader
import MongoConfig.Driver.Error
import MongoConfig.Settings.Overlay
import MongoConfig.Settings.Validation
/-! Client specifications: how to reach a deployment, and the settings of a client for it.
A deployment is given by a connection string or by a host and a port, but not by both. Settings
are laid over what the connection string says, and a credential and a replica set name over that.
-/

namespace MongoConfig

/-- What is specified for a client. Of several credentials the first counts. -/
structure ClientSpec where
  host : Option String := none
  port : Option UInt16 := none
  connection : Option ConnectionString := none
  credentials : List Credential := []
  replicaSet : Option String := none
  settings : Option Settings := none
deriving Repr

/-- Why there is no client for a specification. -/
inductive ClientError where
  | conflictingDeployments
  | invalidAddress (cause : TextError)
  | settings (fault : SettingsFault)
  | driver (cause : Driver.Error)
deriving DecidableEq, Repr

def ClientError.report : ClientError → ErrorReport
  | conflictingDeployments =>
      { message := "A connection string can't be combined with a host or port" }
  | invalidAddress cause =>
      .because "The configured host and port don't form a valid address" cause.report
  | settings fault => fault.report
  | driver cause => .because "Failed to create a MongoDB client" cause.report

namespace ClientSpec

/-- The connection string that the settings are based on. -/
def baseConnection (spec : ClientSpec) : Except ClientError ConnectionString :=
  match spec.connection with
  | some connection =>
      if spec.host.isSome || spec.port.isSome then
        .error .conflictingDeployments
      else
        .ok connection
  | none =>
      let host := spec.host.getD Address.defaultHost
      let port := spec.port.getD Address.defaultPort
      (ConnectionString.ofHostAndPort host port).mapError .invalidAddress

/-- The settings of the specification over what a connection string says. -/
def overlaid (spec : ClientSpec) (base : ConnectionString) : Settings :=
  let connected := Settings.defaults.withConnection base
  match spec.settings with
  | some upper => connected.overlay upper .defaults
  | none => connected

/-- The settings based on a connection string, before they are validated. -/
def layered (spec : ClientSpec) (base : ConnectionString) : Settings :=
  let overlaid := spec.overlaid base
  let replicaSet := spec.replicaSet.filter (!Text.isAllBlank ·)
  {
    overlaid with
      credential := spec.credentials.head?.or overlaid.credential,
      cluster :=
        {
          overlaid.cluster with
            requiredReplicaSet := replicaSet.or overlaid.cluster.requiredReplicaSet
        }
  }

/-- The settings that a client is created with. -/
def resolve (spec : ClientSpec) : Except ClientError Settings := do
  let base ← spec.baseConnection
  (spec.layered base).build.mapError .settings

end ClientSpec

end MongoConfig
