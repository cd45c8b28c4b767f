import MongoConfig.ErrorReport
import MongoConfig.Text.Blank
import MongoConfig.Text.LowerCase
/-! Security contexts: the protocol versions that a provider of transport security offers.
A provider is found by name without regard to case and surrounding blanks, and the context keeps
the name as it was given.
-/

namespace MongoConfig

inductive TlsVersion where
  | tls12
  | tls13
deriving DecidableEq, Repr

namespace TlsVersion

def name : TlsVersion → String
  | tls12 => "TLSv1.2"
  | tls13 => "TLSv1.3"

/-- Every version that can be negotiated, the older first. -/
def all : List TlsVersion :=
  [tls12, tls13]

end TlsVersion

/-- The versions that can be negotiated under the name of a provider. -/
structure SecurityContext where
  provider : String
  versions : List TlsVersion
deriving DecidableEq, Repr

/-- No provider has the name. -/
structure UnsupportedProvider where
  provider : String
deriving DecidableEq, Repr

def UnsupportedProvider.message (error : UnsupportedProvider) : String :=
  error.provider ++ " SecurityContext not available"

namespace SecurityContext

def table : List (String × List TlsVersion) :=
  [
    ("tls", TlsVersion.all),
    ("ssl", TlsVersion.all),
    ("default", TlsVersion.all),
    ("tlsv1.2", [.tls12]),
    ("tlsv1.3", [.tls13])
  ]

def versions? (provider : String) : Option (List TlsVersion) :=
  (table.find? fun entry =>
    entry.1.toList = Text.lower (Text.trim provider.toList)).map (·.2)

/-- The context of a provider. -/
def ofProvider (provider : String) : Except UnsupportedProvider SecurityContext :=
  match versions? provider with
  | some versions => .ok { provider, versions }
  | none => .error { provider }

end SecurityContext

end MongoConfig
