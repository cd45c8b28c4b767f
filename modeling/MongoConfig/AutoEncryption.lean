import MongoConfig.Json.Decoder
/-! Settings of automatic field encryption, as they stand in a document. -/

namespace MongoConfig

structure AutoEncryption where
  keyVaultNamespace : String
  kmsProviders : Dictionary (Dictionary String) := ∅
  schemaMap : Dictionary Json := ∅
  bypass : Bool := false
deriving Repr

namespace AutoEncryption

instance : BEq AutoEncryption where
  beq a b :=
    a.keyVaultNamespace == b.keyVaultNamespace
      && decide (a.kmsProviders = b.kmsProviders)
      && a.schemaMap.sameEntries b.schemaMap
      && a.bypass == b.bypass

def format : Json.RecordFormat AutoEncryption :=
  {
    name := "AutoEncryptionSettings",
    fields :=
      [
        .required "key-vault-namespace" Json.Decoder.string fun name record =>
          { record with keyVaultNamespace := name },
        .defaulted "kms-providers"
          (Json.Decoder.dictionary (Json.Decoder.dictionary Json.Decoder.string))
          fun providers record => { record with kmsProviders := providers },
        .defaulted "schema-map" (Json.Decoder.dictionary Json.Decoder.json)
          fun schemas record => { record with schemaMap := schemas },
        .defaulted "bypass-auto-encryption" Json.Decoder.bool fun bypass record =>
          { record with bypass }
      ],
    blank := { keyVaultNamespace := "" }
  }

def ofText (text : String) : Except Json.Problem AutoEncryption :=
  Json.decodeText format.decoder text

end AutoEncryption

end MongoConfig
