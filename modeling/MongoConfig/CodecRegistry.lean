/-! Codec providers and the order in which they are asked for a type. -/

namespace MongoConfig

/-- Supplies codecs for the types that it handles. -/
structure CodecProvider where
  name : String
  handles : String → Bool

namespace CodecProvider

/-- A provider is shown by its name; what it handles can only be asked type by type. -/
instance : Repr CodecProvider where
  reprPrec provider := reprPrec provider.name

/-- The provider for a list of types. -/
def ofTypes (name : String) (types : List String) : CodecProvider :=
  {
    name,
    handles := types.contains
  }

@[simp]
theorem ofTypes_handles {name type : String} {types : List String}
    : (ofTypes name types).handles type = true ↔ type ∈ types :=
  List.contains_iff_mem

end CodecProvider

/-- Providers in the order in which they are asked. -/
structure CodecRegistry where
  providers : List CodecProvider
deriving Repr

namespace CodecRegistry

/-- The registry for the values of the wire format, documents and lists. -/
def standard : CodecRegistry :=
  {
    providers :=
      [
        .ofTypes "value"
          [
            "bool", "i32", "i64", "f64", "String", "ObjectId", "DateTime", "Decimal128", "Binary"
          ],
        .ofTypes "document" ["Document", "RawDocument"],
        .ofTypes "iterable" ["Vec", "Array"]
      ]
  }

/-- The registry that asks `provider` before all others. -/
def withProvider (registry : CodecRegistry) (provider : CodecProvider) : CodecRegistry :=
  { providers := provider :: registry.providers }

/-- The first provider that handles a type. -/
def providerFor? (registry : CodecRegistry) (type : String) : Option CodecProvider :=
  registry.providers.find? (·.handles type)

def names (registry : CodecRegistry) : List String :=
  registry.providers.map (·.name)

/-- Registries are compared by the names of their providers; what a provider of some name handles
is left to that provider. -/
instance : BEq CodecRegistry where
  beq a b := a.names == b.names

end CodecRegistry

/-- Opens the byte streams of connections. A factory is known by its name. -/
structure StreamFactory where
  name : String
deriving DecidableEq, Repr

end MongoConfig
