import MongoConfig.Credential.Basic
import MongoConfig.Driver.Login
/-! Credentials as a driver takes them.
The mechanism is the one that the driver knows by its name, and properties are left out if there are
none.
-/

namespace MongoConfig.Driver

structure Credential where
  mechanism : Option LoginMechanism
  user : Option String
  source : Option String
  password : Option String
  properties : Option (Dictionary String)
deriving DecidableEq, Repr

namespace Credential

/-- The driver's own mechanism of the same name. -/
def mechanismOf (mechanism : Mechanism) : Except Error LoginMechanism :=
  (LoginMechanism.read mechanism.name).mapError fun _ => .unsupportedMechanism mechanism

def mechanismOf? : Option Mechanism → Except Error (Option LoginMechanism)
  | none => .ok none
  | some mechanism => (mechanismOf mechanism).map some

/-- The credential as the driver takes it. -/
def ofCredential (credential : MongoConfig.Credential) : Except Error Credential := do
  let mechanism ← mechanismOf? credential.mechanism
  .ok
    {
      mechanism,
      user := credential.user,
      source := some credential.source,
      password := credential.password,
      properties := if credential.properties.isEmpty then none else some credential.properties
    }

def ofCredential? : Option MongoConfig.Credential → Except Error (Option Credential)
  | none => .ok none
  | some credential => (ofCredential credential).map some

/-- A driver knows every mechanism by its name. -/
theorem mechanismOf_eq_ok (mechanism : Mechanism)
    : mechanismOf mechanism = .ok (.current mechanism) := by
  cases mechanism <;> rfl

end Credential

end MongoConfig.Driver
