import MongoConfig.Spelling
/-! Where reads go and how consistent they have to be: read preferences and read concerns. -/

namespace MongoConfig

/-- Which members of a replica set reads are sent to. -/
inductive ReadPreference where
  | primary
  | primaryPreferred
  | secondary
  | secondaryPreferred
  | nearest
deriving DecidableEq, Repr

namespace ReadPreference

def name : ReadPreference → String
  | primary => "primary"
  | primaryPreferred => "primaryPreferred"
  | secondary => "secondary"
  | secondaryPreferred => "secondaryPreferred"
  | nearest => "nearest"

def table : List (String × ReadPreference) :=
  [
    ("primary", primary),
    ("primarypreferred", primaryPreferred),
    ("secondary", secondary),
    ("secondarypreferred", secondaryPreferred),
    ("nearest", nearest)
  ]

def read (text : String) : Except TextError ReadPreference :=
  readName .readPreference table text

end ReadPreference

/-- The isolation that reads ask for. With `default` the server chooses. -/
inductive ReadConcern where
  | default
  | «local»
  | majority
  | linearizable
  | snapshot
  | available
deriving DecidableEq, Repr

namespace ReadConcern

def name : ReadConcern → String
  | default => "default"
  | «local» => "local"
  | majority => "majority"
  | linearizable => "linearizable"
  | snapshot => "snapshot"
  | available => "available"

def table : List (String × ReadConcern) :=
  [
    ("default", default),
    ("local", «local»),
    ("majority", majority),
    ("linearizable", linearizable),
    ("snapshot", snapshot),
    ("available", available)
  ]

def read (text : String) : Except TextError ReadConcern :=
  readName .readConcern table text

end ReadConcern

end MongoConfig
