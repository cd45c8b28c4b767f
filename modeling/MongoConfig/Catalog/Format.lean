import MongoConfig.ConnectionString.Reader
import MongoConfig.FlatSettings.Format
/-! Catalog documents: definitions of settings and of clients, each under an id. -/

namespace MongoConfig.Catalog

structure SettingsDefinition where
  id : String
  settings : FlatSettings := {}
deriving BEq, Repr

structure ClientDefinition where
  id : String
  host : Option String := none
  port : Option UInt16 := none
  connection : Option ConnectionString := none
  credential : Option String := none
  replicaSet : Option String := none
  settingsRef : Option String := none
deriving DecidableEq, Repr

structure Document where
  settings : List SettingsDefinition := []
  clients : List ClientDefinition := []
deriving BEq, Repr

namespace SettingsDefinition

def format : Json.RecordFormat SettingsDefinition :=
  {
    name := "ClientSettingsDefinition",
    fields :=
      [
        .required "id" Json.Decoder.string fun id definition => { definition with id },
        .defaulted "settings" FlatSettings.format.decoder fun settings definition =>
          { definition with settings }
      ],
    blank := { id := "" }
  }

end SettingsDefinition

namespace ClientDefinition

def format : Json.RecordFormat ClientDefinition :=
  {
    name := "ClientDefinition",
    fields :=
      [
        .required "id" Json.Decoder.string fun id definition => { definition with id },
        .optional "host" Json.Decoder.string fun host definition => { definition with host },
        .optional "port" Json.Decoder.uint16 fun port definition => { definition with port },
        .optional "connection-string" (Json.Decoder.ofText ConnectionString.read)
          fun connection definition => { definition with connection },
        .optional "credential" Json.Decoder.string fun credential definition =>
          { definition with credential },
        .optional "replica-set" Json.Decoder.string fun replicaSet definition =>
          { definition with replicaSet },
        .optional "settings-ref" Json.Decoder.string fun settingsRef definition =>
          { definition with settingsRef }
      ],
    blank := { id := "" }
  }

end ClientDefinition

namespace Document

def format : Json.RecordFormat Document :=
  {
    name := "NamespaceDocument",
    fields :=
      [
        .defaulted "client-settings" (Json.Decoder.list SettingsDefinition.format.decoder)
          fun settings document => { document with settings },
        .defaulted "clients" (Json.Decoder.list ClientDefinition.format.decoder)
          fun clients document => { document with clients }
      ],
    blank := {}
  }

def ofText (text : String) : Except Json.Problem Document :=
  Json.decodeText format.decoder text

end Document

end MongoConfig.Catalog
