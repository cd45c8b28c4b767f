import MongoConfig.FlatSettings.Format
import MongoConfig.Proofs.AutoEncryption
import MongoConfig.Proofs.FlatSettings.Setter
import MongoConfig.Proofs.Json.Reader
/-! Flat settings and the documents that write them.
Each value but the registry of codecs and the factory of streams has a key of its own. A document is
an object whose members write values under their keys, in whatever order; a value that is null is as
good as left out.
-/

namespace MongoConfig.FlatSettings

-----------------------------------------------------------------------------------------
-- The members of a document
-----------------------------------------------------------------------------------------

namespace Field

def key? : Field → Option String
  | applicationName => some "application-name"
  | readPreference => some "read-preference"
  | readConcern => some "read-concern"
  | writeConcern => some "write-concern"
  | retryReads => some "retry-reads"
  | retryWrites => some "retry-writes"
  | socketConnectTimeout => some "socket-connect-timeout-ms"
  | socketReadTimeout => some "socket-read-timeout-ms"
  | socketReceiveBufferSize => some "socket-receive-buffer-size"
  | socketSendBufferSize => some "socket-send-buffer-size"
  | serverHeartbeatFrequency => some "server-heartbeat-frequency-ms"
  | serverMinHeartbeatFrequency => some "server-min-heartbeat-frequency-ms"
  | clusterSrvHost => some "cluster-srv-host"
  | clusterHosts => some "cluster-hosts"
  | clusterMode => some "cluster-connection-mode"
  | clusterType => some "cluster-type"
  | clusterReplicaSet => some "cluster-replica-set-name"
  | clusterLocalThreshold => some "cluster-local-threshold-ms"
  | clusterServerSelectionTimeout => some "cluster-server-selection-timeout-ms"
  | clusterMaxWaitQueueSize => some "cluster-max-wait-queue-size"
  | poolMaxSize => some "pool-max-size"
  | poolMinSize => some "pool-min-size"
  | poolMaxWaitQueueSize => some "pool-max-wait-queue-size"
  | poolMaxWaitTime => some "pool-max-wait-time-ms"
  | poolMaxConnectionLifetime => some "pool-max-connection-lifetime-ms"
  | poolMaxConnectionIdleTime => some "pool-max-connection-idle-time-ms"
  | poolMaintenanceInitialDelay => some "pool-maintenance-initial-delay-ms"
  | poolMaintenanceFrequency => some "pool-maintenance-frequency-ms"
  | tlsEnabled => some "ssl-enabled"
  | tlsInvalidHostnameAllowed => some "ssl-invalid-hostname-allowed"
  | tlsProvider => some "ssl-provider"
  | autoEncryption => some "auto-encryption"
  | codecRegistry | streamFactory => none

/-- The drafts that write a value of a field: texts and flags as they are, sizes and milliseconds as
integers, addresses and named values as texts that are read as them. -/
def Writes : (field : Field) → Json.Draft → field.Value → Prop
  | applicationName, draft, text | clusterSrvHost, draft, text | clusterReplicaSet, draft, text
  | tlsProvider, draft, text => draft = .string text
  | retryReads, draft, flag | retryWrites, draft, flag | tlsEnabled, draft, flag
  | tlsInvalidHostnameAllowed, draft, flag => draft = .bool flag
  | socketConnectTimeout, draft, milliseconds | socketReadTimeout, draft, milliseconds
  | serverHeartbeatFrequency, draft, milliseconds | serverMinHeartbeatFrequency, draft, milliseconds
  | clusterLocalThreshold, draft, milliseconds
  | clusterServerSelectionTimeout, draft, milliseconds | poolMaxWaitTime, draft, milliseconds
  | poolMaxConnectionLifetime, draft, milliseconds | poolMaxConnectionIdleTime, draft, milliseconds
  | poolMaintenanceInitialDelay, draft, milliseconds
  | poolMaintenanceFrequency, draft, milliseconds =>
      draft = .number (.integer (UInt64.toNat milliseconds))
  | socketReceiveBufferSize, draft, size | socketSendBufferSize, draft, size
  | clusterMaxWaitQueueSize, draft, size | poolMaxSize, draft, size | poolMinSize, draft, size
  | poolMaxWaitQueueSize, draft, size => draft = .number (.integer (UInt32.toNat size))
  | readPreference, draft, preference => draft.WritesParsed ReadPreference.read preference
  | readConcern, draft, concern => draft.WritesParsed ReadConcern.read concern
  | writeConcern, draft, concern => draft.WritesParsed WriteConcern.read concern
  | clusterMode, draft, mode => draft.WritesParsed ConnectionMode.read mode
  | clusterType, draft, type => draft.WritesParsed ClusterType.read type
  | clusterHosts, draft, hosts => draft.WritesList (·.WritesParsed Address.read ·) hosts
  | autoEncryption, draft, encryption => AutoEncryption.IsWrittenAs encryption draft
  | codecRegistry, _, _ | streamFactory, _, _ => False

/-- How a value of a field is decoded. Those without a key are not. -/
def decode : (field : Field) → Json.Decoder field.Value
  | applicationName | clusterSrvHost | clusterReplicaSet | tlsProvider => Json.Decoder.string
  | retryReads | retryWrites | tlsEnabled | tlsInvalidHostnameAllowed => Json.Decoder.bool
  | socketConnectTimeout | socketReadTimeout | serverHeartbeatFrequency
  | serverMinHeartbeatFrequency | clusterLocalThreshold | clusterServerSelectionTimeout
  | poolMaxWaitTime | poolMaxConnectionLifetime | poolMaxConnectionIdleTime
  | poolMaintenanceInitialDelay | poolMaintenanceFrequency => Json.Decoder.uint64
  | socketReceiveBufferSize | socketSendBufferSize | clusterMaxWaitQueueSize | poolMaxSize
  | poolMinSize | poolMaxWaitQueueSize => Json.Decoder.uint32
  | readPreference => Json.Decoder.ofText ReadPreference.read
  | readConcern => Json.Decoder.ofText ReadConcern.read
  | writeConcern => Json.Decoder.ofText WriteConcern.read
  | clusterMode => Json.Decoder.ofText ConnectionMode.read
  | clusterType => Json.Decoder.ofText ClusterType.read
  | clusterHosts => Json.Decoder.list (Json.Decoder.ofText Address.read)
  | autoEncryption => AutoEncryption.format.decoder
  | codecRegistry | streamFactory => fun draft => .error (draft.mismatch .object)

theorem decode_of_writes {field : Field} {draft : Json.Draft} {value : field.Value}
    (h : field.Writes draft value)
    : field.decode draft = .ok value := by
  cases field with
  | applicationName | clusterSrvHost | clusterReplicaSet | tlsProvider | retryReads | retryWrites
  | tlsEnabled | tlsInvalidHostnameAllowed =>
      obtain rfl : draft = _ := h
      rfl
  | socketConnectTimeout | socketReadTimeout | serverHeartbeatFrequency
  | serverMinHeartbeatFrequency | clusterLocalThreshold | clusterServerSelectionTimeout
  | poolMaxWaitTime | poolMaxConnectionLifetime | poolMaxConnectionIdleTime
  | poolMaintenanceInitialDelay | poolMaintenanceFrequency =>
      obtain rfl : draft = _ := h
      exact Json.Decoder.uint64_of_toNat value
  | socketReceiveBufferSize | socketSendBufferSize | clusterMaxWaitQueueSize | poolMaxSize
  | poolMinSize | poolMaxWaitQueueSize =>
      obtain rfl : draft = _ := h
      exact Json.Decoder.uint32_of_toNat value
  | readPreference | readConcern | writeConcern | clusterMode | clusterType =>
      exact Json.Decoder.ofText_of_writes h
  | clusterHosts =>
      exact Json.Decoder.list_of_writes (fun _ _ hhost => Json.Decoder.ofText_of_writes hhost) h
  | autoEncryption => exact AutoEncryption.decoder_of_isWrittenAs h
  | codecRegistry | streamFactory => exact absurd h id

theorem ne_null_of_decode {field : Field} {draft : Json.Draft} {value : field.Value}
    (h : field.decode draft = .ok value)
    : draft ≠ .null := by
  rintro rfl
  cases field <;> cases h

end Field

def parts : Json.Parts FlatSettings Field :=
  {
    Value := fun field => Option field.Value,
    get := fun flat field => field.get flat,
    put := Field.put,
    get_put := get_put,
    eq_of_get_eq := fun _ _ h => eq_of_get_eq (congrFun h)
  }

def keys : List (Json.Key parts) :=
  Field.all.filterMap fun field =>
    field.key?.map fun name =>
      { name, part := field, presence := .optional, decode := field.decode.nullable }

theorem isKeyed : format.IsKeyed keys :=
  ⟨rfl, by decide, by decide⟩

/-- A value is written as its field writes it, and no value as null. -/
def layout : Json.Layout parts :=
  {
    key? := Field.key?,
    WritesPart := fun field draft (value? : Option field.Value) =>
      match value? with
      | none => draft = .null
      | some value => field.Writes draft value
  }

theorem mem_keys_iff {key : Json.Key parts}
    : key ∈ keys
      ↔ ∃ field name, Field.key? field = some name
        ∧ key
          = { name, part := field, presence := .optional, decode := field.decode.nullable } := by
  rw [keys, List.mem_filterMap]
  constructor
  · rintro ⟨field, -, h⟩
    obtain ⟨name, hname, rfl⟩ := Option.map_eq_some_iff.1 h
    exact ⟨field, name, hname, rfl⟩
  · rintro ⟨field, name, hname, rfl⟩
    exact ⟨field, field.mem_all, Option.map_eq_some_iff.2 ⟨name, hname, rfl⟩⟩

theorem isDecodedBy : layout.IsDecodedBy keys := by
  constructor
  case key_eq =>
    intro key hkey
    obtain ⟨field, name, hname, rfl⟩ := mem_keys_iff.1 hkey
    exact hname
  case exists_key =>
    intro field name hname
    exact ⟨_, mem_keys_iff.2 ⟨field, name, hname, rfl⟩, rfl, rfl⟩
  case decode_eq =>
    intro key hkey draft value? hwrites
    obtain ⟨field, name, -, rfl⟩ := mem_keys_iff.1 hkey
    cases value? with
    | none =>
        obtain rfl : draft = .null := hwrites
        rfl
    | some value =>
        have hdecoded := Field.decode_of_writes hwrites
        refine (Json.Decoder.nullable_of_ne_null (Field.ne_null_of_decode hdecoded)).trans ?_
        rw [hdecoded]
        rfl

theorem not_mem_keys_iff {name : String}
    : name ∉ keys.map (·.name) ↔ ∀ field : Field, field.key? ≠ some name := by
  rw [isDecodedBy.mem_names_iff, not_exists]
  rfl

/-- A document makes the flat settings that it writes, whichever values it has, in whatever order
they stand and however they are spelled. A key that belongs to no value, or that stands there twice,
is refused. -/
theorem ofText_of_documentText {text : String} {members : List (String × Json.Draft)}
    (htext : Json.DocumentText (.object (.ofList members)) text)
    : (∀ flat : FlatSettings, layout.WritesRecord {} members flat → ofText text = .ok flat)
      ∧ ((∃ name ∈ members.map (·.1), ∀ field : Field, field.key? ≠ some name)
          ∨ ¬(members.map (·.1)).Nodup
        → ∃ problem, ofText text = .error problem) := by
  rw [ofText, Json.decodeText_of_documentText htext]
  refine ⟨fun flat hwrites => ?_, fun hkeys => ?_⟩
  · refine Json.Layout.WritesRecord.decoder_eq_ok hwrites isKeyed isDecodedBy ?_
    intro key hkey hrequired
    obtain ⟨field, name, -, rfl⟩ := mem_keys_iff.1 hkey
    cases hrequired
  · refine isKeyed.decoder_error ?_
    rcases hkeys with ⟨name, hname, hunknown⟩ | hrepeated
    · exact .inr ⟨name, hname, not_mem_keys_iff.2 hunknown⟩
    · exact .inl hrepeated

/-- One tenth, with a point. -/
def pointNumeral : Json.Numeral :=
  {
    whole := ['0'],
    skipped := [],
    fraction := ['1'],
    dropped := [],
    fractionText := ['.', '1'],
    power := 0,
    exponentText := [],
    isWhole := by decide,
    keepsWhole := by decide,
    isFraction := .point (by decide),
    keepsFraction := by decide,
    isExponent := .none
  }

/-- Two and a half, as tenths. -/
def tenthsNumeral : Json.Numeral :=
  {
    Json.Numeral.ofWhole (by decide : Json.IsWhole ['2', '5']) (by decide) with
      power := -1,
      exponentText := ['e', '-', '1'],
      isExponent := .minus (.inl rfl) (by decide : Json.IsDigits ['1'])
  }

/-- Two thousand, as thousands. -/
def thousandsNumeral : Json.Numeral :=
  {
    Json.Numeral.ofWhole (by decide : Json.IsWhole ['2']) (by decide) with
      power := 3,
      exponentText := ['E', '+', '3'],
      isExponent := .plus (.inr rfl) (by decide : Json.IsDigits ['3'])
  }

/-- The number nearest to one tenth. -/
def oneTenth : Json.Number :=
  .float { negative := false, significand := 7205759403792794, exponent := -56 }

def minusTwoAndAHalf : Json.Number :=
  .float { negative := true, significand := 5629499534213120, exponent := -51 }

def twoThousand : Json.Number :=
  .float { negative := false, significand := 8796093022208000, exponent := -42 }

def rangeItems : Json.DraftItems :=
  .item (.number oneTenth)
    (.item (.number minusTwoAndAHalf)
      (.item (.number twoThousand) (.item (.number (.integer (-7))) .closed)))

def rangeText : String :=
  "0.1,-25e-1,2E+3,-7"

theorem itemsText_rangeText : Json.ItemsText 123 rangeItems rangeText.toList := by
  have hpoint : Json.MagnitudeText false oneTenth ['0', '.', '1'] :=
    .float pointNumeral (by decide) (by decide +kernel)
  have htenths : Json.MagnitudeText true minusTwoAndAHalf ['2', '5', 'e', '-', '1'] :=
    @Json.MagnitudeText.float true tenthsNumeral
      { negative := false, significand := 5629499534213120, exponent := -51 } (by decide)
      (by decide +kernel)
  have hthousands : Json.MagnitudeText false twoThousand ['2', 'E', '+', '3'] :=
    .float thousandsNumeral (by decide) (by decide +kernel)
  have hinteger : Json.MagnitudeText true (.integer (-7)) ['7'] :=
    .integer (by decide : Json.IsWhole ['7']) (by decide)
  exact
    .item (.number (.positive hpoint))
      (.item (.number (.negative htenths))
        (.item (.number (.positive hthousands)) (.last (.number (.negative hinteger)))))

def encryptionMembers : List (String × Json.Draft) :=
  [
    ("schema-map", .object (.member "range" (.array rangeItems) .closed)),
    ("key-vault-namespace", .string "vault.keys")
  ]

def encryptionText : String :=
  "\x7b\"schema-map\":\x7b\"range\":[" ++ rangeText
    ++ "]\x7d,\"key-vault-namespace\":\"vault.keys\"\x7d"

theorem valueText_encryptionText
    : Json.ValueText 126 (.object (.ofList encryptionMembers)) encryptionText.toList := by
  have hrange
      : Json.MembersText 124 (.member "range" (.array rangeItems) .closed)
        ('"' :: "range".toList ++ ['"'] ++ ':' :: ('[' :: rangeText.toList ++ [']'])) :=
    .last (Json.keyText_of_isPlain rfl) (.array itemsText_rangeText)
  have htext
      : encryptionText.toList
        = '\x7b'
          :: ('"' :: "schema-map".toList ++ ['"']
            ++ ':' :: ('\x7b'
              :: ('"' :: "range".toList ++ ['"'] ++ ':' :: ('[' :: rangeText.toList ++ [']']))
              ++ ['\x7d'])
            ++ ',' :: ('"' :: "key-vault-namespace".toList ++ ['"']
              ++ ':' :: ('"' :: "vault.keys".toList ++ ['"'])))
          ++ ['\x7d'] := by
    decide +kernel
  rw [htext]
  exact
    .object
      (.member (Json.keyText_of_isPlain rfl) (.object hrange)
        (.last (Json.keyText_of_isPlain rfl) (Json.valueText_of_isPlain rfl)))

def encryptionOfText : AutoEncryption :=
  {
    keyVaultNamespace := "vault.keys",
    schemaMap :=
      .ofList
        [
          (
            "range",
            .array
              [
                .number oneTenth, .number minusTwoAndAHalf, .number twoThousand,
                .number (.integer (-7))
              ]
          )
        ]
  }

theorem isWrittenAs_encryptionOfText
    : encryptionOfText.IsWrittenAs (.object (.ofList encryptionMembers)) := by
  have hrange
      : Json.Draft.WritesJson (.array rangeItems)
        (.array
          [
            .number oneTenth, .number minusTwoAndAHalf, .number twoThousand, .number (.integer (-7))
          ]) :=
    .array
      (.item (.number _) (.item (.number _) (.item (.number _) (.item (.number _) .closed))))
  have hschemas
      : AutoEncryption.Part.schemaMap.Writes
        (.object (.member "range" (.array rangeItems) .closed)) encryptionOfText.schemaMap :=
    ⟨[("range", .array rangeItems)], [("range", _)], rfl, .cons ⟨rfl, hrange⟩ .nil, rfl⟩
  have hname :=
    (Json.Layout.WritesRecord.nil AutoEncryption.layout AutoEncryption.format.blank).cons
      AutoEncryption.isKeyed AutoEncryption.isDecodedBy .keyVaultNamespace "vault.keys" rfl nofun
      rfl
  refine ⟨encryptionMembers, rfl, by decide, ?_⟩
  exact
    hname.cons AutoEncryption.isKeyed AutoEncryption.isDecodedBy .schemaMap
      encryptionOfText.schemaMap rfl (by decide) hschemas

/-- The name of a type of cluster with an escape. -/
def shardedText : String :=
  "S\\u0048ARDED"

theorem valueText_shardedText
    : Json.ValueText 126 (.string "SHARDED") ('"' :: shardedText.toList ++ ['"']) := by
  have hescape : Json.CodeText 'H'.toNat ['0', '0', '4', '8'] :=
    .mk (by decide) (.inl rfl) (.inl rfl) (.inl rfl) (.inl rfl)
  have hchars
      : Json.StringText ['S', 'H', 'A', 'R', 'D', 'E', 'D']
        (['S'] ++ ('\\' :: 'u' :: ['0', '0', '4', '8'] ++ ['A', 'R', 'D', 'E', 'D'])) :=
    .cons (.plain (by decide) (by decide) (by decide))
      (.cons (.code hescape) (Json.stringText_of_isPlain rfl))
  exact .string hchars

/-- The members of a document with numbers of all forms, a null and a name, in an order of their
own. -/
def mixedMembers : List (String × Json.Draft) :=
  [
    ("pool-min-size", .number (.integer 3)),
    ("retry-reads", .null),
    ("auto-encryption", .object (.ofList encryptionMembers)),
    ("cluster-type", .string "SHARDED")
  ]

def mixedText : String :=
  "\x7b\"pool-min-size\": 3,\"retry-reads\":null,\"auto-encryption\":" ++ encryptionText
    ++ ",\"cluster-type\":\"" ++ shardedText ++ "\"\n\x7d"

theorem documentText_mixedText
    : Json.DocumentText (.object (.ofList mixedMembers)) mixedText := by
  have hthree : Json.MagnitudeText false (.integer 3) ['3'] :=
    @Json.MagnitudeText.integer false ['3'] (by decide) (by decide)
  have hnumber : Json.ValueText 126 (.number (.integer 3)) ([' '] ++ ['3'] ++ []) :=
    .spaced (by simp [Json.IsGap]) (.number (.positive hthree)) nofun
  have hname
      : Json.ValueText 126 (.string "SHARDED")
        ([] ++ ('"' :: shardedText.toList ++ ['"']) ++ ['\n']) :=
    .spaced nofun valueText_shardedText (by simp [Json.IsGap])
  have htext
      : mixedText.toList
        = '\x7b'
          :: ('"' :: "pool-min-size".toList ++ ['"'] ++ ':' :: ([' '] ++ ['3'] ++ [])
            ++ ',' :: ('"' :: "retry-reads".toList ++ ['"'] ++ ':' :: ['n', 'u', 'l', 'l']
            ++ ',' :: ('"' :: "auto-encryption".toList ++ ['"'] ++ ':' :: encryptionText.toList
            ++ ',' :: ('"' :: "cluster-type".toList ++ ['"']
              ++ ':' :: ([] ++ ('"' :: shardedText.toList ++ ['"']) ++ ['\n'])))))
          ++ ['\x7d'] := by
    decide +kernel
  rw [Json.DocumentText, htext]
  exact
    .object
      (.member (Json.keyText_of_isPlain rfl) hnumber
        (.member (Json.keyText_of_isPlain rfl) .null
          (.member (Json.keyText_of_isPlain rfl) valueText_encryptionText
            (.last (Json.keyText_of_isPlain rfl) hname))))

/-- The null leaves its value out, white space and an escape make no difference, and the numbers
within a schema are those that are written. -/
theorem ofText_of_documentText_mixed
    : ofText mixedText
      = .ok
          {
            clusterType := some .sharded,
            poolMinSize := some 3,
            autoEncryption := some encryptionOfText
          } := by
  refine (ofText_of_documentText documentText_mixedText).1 _ ?_
  have htype :=
    (Json.Layout.WritesRecord.nil layout {}).cons isKeyed isDecodedBy .clusterType
      (some ClusterType.sharded) rfl nofun ⟨"SHARDED", rfl, by decide +kernel⟩
  have hencryption :=
    htype.cons isKeyed isDecodedBy .autoEncryption (some encryptionOfText) rfl (by decide)
      isWrittenAs_encryptionOfText
  have hreads := hencryption.cons isKeyed isDecodedBy .retryReads none rfl (by decide) rfl
  exact hreads.cons isKeyed isDecodedBy .poolMinSize (some (3 : UInt32)) rfl (by decide) rfl

end MongoConfig.FlatSettings
