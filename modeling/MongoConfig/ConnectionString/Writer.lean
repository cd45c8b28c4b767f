import MongoConfig.ConnectionString.Reader
import MongoConfig.Credential.Writer
/-! Writing connection strings from their parts. -/

namespace MongoConfig.ConnectionString

/-- What a connection string without SRV lookup is made of, before anything is escaped. The user
comes with the password. -/
structure Composition where
  user : Option (String × String) := none
  hosts : List Address
  database : Option String := none
  query : Option (List (String × String)) := none
deriving DecidableEq, Repr

namespace Composition

def writeUser : Option (String × String) → List Char
  | some (user, password) => Credential.writeUserInfo user (some password) ++ ['@']
  | none => []

/-- User info and hosts. -/
def writeAuthority (composition : Composition) : List Char :=
  writeUser composition.user ++ Address.listText composition.hosts

/-- The text of the parts. The database is written as it is, the options as fields of a form. -/
def write (composition : Composition) : String :=
  String.ofList
    (scheme ++ composition.writeAuthority
      ++ Text.afterSign '/' (composition.database.map String.toList)
      ++ Text.afterSign '?' (composition.query.map Text.Percent.writePairs))

end Composition

end MongoConfig.ConnectionString
