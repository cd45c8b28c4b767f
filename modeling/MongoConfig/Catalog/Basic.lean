import MongoConfig.Catalog.Error
import MongoConfig.Catalog.Format
import MongoConfig.ClientSpec
import MongoConfig.Credential.Reader
import MongoConfig.SettingsFactory
/-! Catalogs: settings and client specifications under ids that are all different.
A catalog is built definition by definition, the settings before the clients, and the first
definition that does not fit ends it. The settings are assembled on the way; a client is checked
only when its specification is resolved.
-/

namespace MongoConfig

structure Catalog where
  settings : Dictionary Settings := ∅
  clients : Dictionary ClientSpec := ∅
deriving Repr

namespace Catalog

def defines (catalog : Catalog) (id : String) : Bool :=
  catalog.settings.contains id || catalog.clients.contains id

/-- Checks that an id is not taken. -/
def checkNew (catalog : Catalog) (id : String) : Except Error Unit :=
  if catalog.defines id then .error (.duplicateId id) else .ok ()

def addSettings (catalog : Catalog) (definition : SettingsDefinition) : Except Error Catalog := do
  catalog.checkNew definition.id
  let settings ←
    (definition.settings.assemble .defaults).mapError (Error.settings definition.id)
  .ok { catalog with settings := catalog.settings.insert definition.id settings }

def readCredentials (definition : ClientDefinition) : Except Error (List Credential) :=
  match definition.credential with
  | some text => (Credential.readList text).mapError (Error.credential definition.id)
  | none => .ok []

/-- The settings that a client refers to. -/
def referenced (catalog : Catalog) (definition : ClientDefinition)
    : Except Error (Option Settings) :=
  match definition.settingsRef with
  | none => .ok none
  | some reference =>
      match catalog.settings.get? reference with
      | some settings => .ok (some settings)
      | none => .error (.unknownSettings definition.id reference)

def specOf (catalog : Catalog) (definition : ClientDefinition) : Except Error ClientSpec := do
  let credentials ← readCredentials definition
  let settings ← catalog.referenced definition
  .ok
    {
      host := definition.host,
      port := definition.port,
      connection := definition.connection,
      credentials,
      replicaSet := definition.replicaSet,
      settings
    }

def addClient (catalog : Catalog) (definition : ClientDefinition) : Except Error Catalog := do
  catalog.checkNew definition.id
  let spec ← catalog.specOf definition
  .ok { catalog with clients := catalog.clients.insert definition.id spec }

/-- The catalog of a document. -/
def ofDocument (document : Document) : Except Error Catalog := do
  let catalog ← document.settings.foldlM addSettings {}
  document.clients.foldlM addClient catalog

/-- The catalog of a text. -/
def ofText (text : String) : Except Error Catalog := do
  let document ← (Document.ofText text).mapError .document
  ofDocument document

/-- The catalog of the bytes of a file. -/
def ofFile (path : String) (content : Except FileFault (List UInt8)) : Except Error Catalog := do
  let bytes ← content.mapError (Error.file path)
  match Text.Utf8.decode? bytes with
  | some text => ofText (String.ofList text)
  | none => .error (.file path .notUtf8)

/-- The ids of the clients in ascending order. -/
def clientIds (catalog : Catalog) : List String :=
  catalog.clients.keys

def client? (catalog : Catalog) (id : String) : Option ClientSpec :=
  catalog.clients.get? id

def settings? (catalog : Catalog) (id : String) : Option Settings :=
  catalog.settings.get? id

end Catalog

end MongoConfig
