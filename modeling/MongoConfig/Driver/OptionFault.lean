import MongoConfig.Text.Unsigned
/-! Why a driver does not take an option that stands in the location of a deployment. -/

namespace MongoConfig.Driver

/-- The details of transport security that make no sense without it. -/
inductive TlsDetail where
  | insecure
  | authorityFile
  | certificateKeyFile
deriving DecidableEq, Repr

def TlsDetail.name : TlsDetail → String
  | insecure => "tlsInsecure"
  | authorityFile => "tlsCAFile"
  | certificateKeyFile => "tlsCertificateKeyFile"

/-- What is wrong with an option, its value, or the options before it. -/
inductive OptionFault where
  | notPair (text : String)
  | repeated
  | unknown (key : String) (similar : Option String)
  | notBoolean (key : String)
  | notMillis (key : String)
  | notSize (key : String)
  | notInteger (key : String)
  | heartbeatTooOften (milliseconds : Nat)
  | stalenessTooLow
  | compressionTooLow
  | compressionTooHigh
  | negativeAcknowledgment
  | unknownReadPreference (name : String)
  | malformedTag (tags : String)
  | tagsWithoutMode
  | tagsForPrimary
  | stalenessWithoutMode
  | stalenessForPrimary
  | unknownMechanism (name : String)
  | cloudMechanism
  | malformedProperties
  | unknownUuidForm (name : String)
  | contradictoryTls
  | tlsDetailWithoutTls (detail : TlsDetail)
  | contradictoryCertificateChecks
deriving DecidableEq, Repr

/-- The least time between heartbeats. -/
def minHeartbeatMillis : Nat :=
  500

/-- The proposal of a name for one that is not known. -/
def proposal : Option String → String
  | some name => ". An option with a similar name exists: " ++ name
  | none => ""

def OptionFault.message : OptionFault → String
  | notPair text => "connection string options is not a `key=value` pair: " ++ text
  | repeated => "repeated options are not allowed in the connection string"
  | unknown key similar => key ++ " is an invalid option" ++ proposal similar
  | notBoolean key => "connection string `" ++ key ++ "` option must be a boolean"
  | notMillis key => "connection string `" ++ key ++ "` option must be a non-negative integer"
  | notSize key => "connection string `" ++ key ++ "` argument must be a positive integer"
  | notInteger key => "connection string `" ++ key ++ "` argument must be an integer"
  | heartbeatTooOften milliseconds =>
      "'heartbeatFrequencyMS' must be at least " ++ Text.unsignedText minHeartbeatMillis
        ++ ", but " ++ Text.unsignedText milliseconds ++ " was given"
  | stalenessTooLow => "'maxStalenessSeconds' cannot be less than -1"
  | compressionTooLow => "'zlibCompressionLevel' cannot be less than -1"
  | compressionTooHigh => "'zlibCompressionLevel' cannot be greater than 9"
  | negativeAcknowledgment => "connection string `w` option cannot be a negative integer"
  | unknownReadPreference name => "'" ++ name ++ "' is not a valid read preference"
  | malformedTag tags =>
      "'" ++ tags ++ "' is not a valid read preference tag (which must be of the form 'key:value'"
  | tagsWithoutMode =>
      "cannot set read preference tags without also setting read preference mode"
  | tagsForPrimary =>
      "read preference tags can only be specified when a non-primary mode is specified"
  | stalenessWithoutMode =>
      "cannot set max staleness without also setting read preference mode"
  | stalenessForPrimary =>
      "max staleness can only be specified when a non-primary mode is specified"
  | unknownMechanism name => "invalid mechanism string: " ++ name
  | cloudMechanism =>
      "MONGODB-AWS auth is only supported with the aws-auth feature flag and the tokio runtime"
  | malformedProperties => "improperly formatted authMechanismProperties"
  | unknownUuidForm name =>
      "connection string `uuidRepresentation` option can be one of `csharpLegacy`, `javaLegacy`, "
        ++ "or `pythonLegacy`. Received invalid `" ++ name ++ "`"
  | contradictoryTls => "All instances of `tls` and `ssl` must have the same\n value"
  | tlsDetailWithoutTls detail => "'" ++ detail.name ++ "' can't be set if tls=false"
  | contradictoryCertificateChecks =>
      "all instances of 'tlsInsecure' and 'tlsAllowInvalidCertificates' must be consistent (e.g. "
        ++ "'tlsInsecure' cannot be true when 'tlsAllowInvalidCertificates' is false, or "
        ++ "vice-versa)"

end MongoConfig.Driver
