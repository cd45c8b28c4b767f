import MongoConfig.Driver.Error
import MongoConfig.Mechanism
import MongoConfig.Text.Percent
/-! How a driver reads and checks the way to log in that stands in the location of a deployment.
A user info is what stands before the hosts. The mechanism and the database that knows the user
come from the options.
-/

namespace MongoConfig.Driver

/-- What a part of a text holds, unless it is empty. -/
def nonEmpty? (text : List Char) : Option (List Char) :=
  if text.isEmpty then none else some text

/-- The mechanisms that a driver knows: those of a credential, and one that only old servers
understand. -/
inductive LoginMechanism where
  | current (mechanism : Mechanism)
  | outdated
deriving DecidableEq, Repr

namespace LoginMechanism

def table : List (String × LoginMechanism) :=
  (Mechanism.all.map fun mechanism => (mechanism.name, .current mechanism))
    ++ [("MONGODB-CR", .outdated)]

/-- The mechanism of a name, which is written in upper case. That of a certain cloud is known but
left out. -/
def read (name : String) : Except OptionFault LoginMechanism :=
  match table.find? fun entry => entry.1 = name with
  | some (_, mechanism) => .ok mechanism
  | none =>
      if name = "MONGODB-AWS" then
        .error .cloudMechanism
      else
        .error (.unknownMechanism name)

end LoginMechanism

/-- A user info as it is written. A password stands after the first colon and may be empty. -/
structure UserInfo where
  user : Option (List Char)
  password : Option (List Char)
deriving DecidableEq, Repr

namespace UserInfo

def isReserved (c : Char) : Bool :=
  c = ':' || c = '/' || c = '?' || c = '#' || c = '[' || c = ']' || c = '@'

def isHex (c : Char) : Bool :=
  c.isDigit || ('a' ≤ c && c ≤ 'f') || ('A' ≤ c && c ≤ 'F')

/-- Whether every percent sign starts an escape. -/
def areEscapesWhole (text : List Char) : Bool :=
  ((Text.pieces '%' text).drop 1).all fun piece =>
    2 ≤ piece.length && (piece.take 2).all isHex

def checkPart (part : UserPart) (text : List Char) : Except Fault Unit :=
  if text.any isReserved then
    .error (.notEncoded part)
  else if !areEscapesWhole text then
    .error .unescapedPercent
  else if (Text.Percent.decodeStrict? text).isNone then
    .error (.notEncoded part)
  else
    .ok ()

def ofText (text : List Char) : UserInfo :=
  match Text.cutFirst ':' text with
  | some (user, password) =>
      {
        user := nonEmpty? user,
        password := some password
      }
  | none =>
      {
        user := nonEmpty? text,
        password := none
      }

/-- Checks that the parts are escaped. A password without a user does not count. -/
def check (info : UserInfo) : Except Fault Unit :=
  match info.user with
  | none => .ok ()
  | some user => do
      checkPart .user user
      checkPart .password (info.password.getD [])

end UserInfo

/-- A way to log in. Without user info nobody asks for one. -/
structure Login where
  userInfo : Option UserInfo
  mechanism : Option LoginMechanism
  source : Option String
deriving DecidableEq, Repr

namespace Login

def hasUser (login : Login) : Bool :=
  (login.userInfo.bind (·.user)).isSome

def hasPassword (login : Login) : Bool :=
  login.hasUser && (login.userInfo.bind (·.password)).isSome

/-- The database that stands for users kept outside the server. -/
def externalSource : String :=
  "$external"

/-- What the mechanism demands and the login does not give. -/
def mechanismFault? (login : Login) : Mechanism → Option LoginFault
  | .scramSha1 => if login.hasUser then none else some .challengeWithoutUser
  | .scramSha256 => if login.hasUser then none else some .challengeWithoutUser
  | .x509 =>
      if login.hasPassword then
        some .certificateWithPassword
      else if login.source.getD externalSource != externalSource then
        some .certificateWithSource
      else
        none
  | .plain =>
      if !login.hasUser then
        some .plainWithoutUser
      else if !login.hasPassword then
        some .plainWithoutPassword
      else
        none
  | .gssapi => none

/-- Without a mechanism, user info has to name a user. -/
def fault? (login : Login) : Option LoginFault :=
  if login.source = some "" then
    some .emptySource
  else
    match login.mechanism with
    | some (.current mechanism) => login.mechanismFault? mechanism
    | some .outdated => none
    | none => if login.userInfo.isSome && !login.hasUser then some .noUser else none

def check (login : Login) : Except Fault Unit :=
  match login.fault? with
  | some fault => .error (.login fault)
  | none => .ok ()

end Login

end MongoConfig.Driver
