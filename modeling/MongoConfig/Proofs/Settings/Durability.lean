import MongoConfig.Proofs.ConnectionString.AddedOption
import MongoConfig.Proofs.FlatSettings.Layering
import MongoConfig.Proofs.Settings.Connection
/-! How durable writes have to be, in connection strings and in flat settings.
A name stands for a whole write concern. Flat settings take it over as it is, but a connection
string only takes over who has to acknowledge a write. The two agree unless the name is one that
asks for the journal, the only other part that a name can speak of.
-/

namespace MongoConfig

-----------------------------------------------------------------------------------------
-- Names
-----------------------------------------------------------------------------------------

/-- A value that is found in a table stands beside the one form of the name. -/
theorem mem_of_lookUp? {α : Type} {table : List (String × α)} {text : String} {value : α}
    (h : lookUp? table text = some value)
    : ∃ name, (name, value) ∈ table ∧ normalForm text = name.toList := by
  obtain ⟨⟨name, found⟩, hentry, rfl⟩ := Option.map_eq_some_iff.1 h
  have hname := List.find?_some hentry
  rw [decide_eq_true_eq] at hname
  exact ⟨name, List.mem_of_find?_eq_some hentry, hname.symm⟩

namespace WriteConcern

/-- A text is a spelling of a name that asks for the journal. -/
def NamesJournaled (text : String) : Prop :=
  normalForm text = "journaled".toList ∨ normalForm text = "journalsafe".toList

instance (text : String) : Decidable (NamesJournaled text) :=
  inferInstanceAs (Decidable (_ ∨ _))

theorem acknowledgment_or_journal_of_mem_table
    : ∀ entry ∈ table,
        entry.2 = { acknowledgment := entry.2.acknowledgment }
        ∨ entry.1 = "journaled"
        ∨ entry.1 = "journalsafe" := by
  decide

theorem eq_journaled_of_read {text : String} {concern : WriteConcern}
    (h : read text = .ok concern) (hname : NamesJournaled text)
    : concern = journaled := by
  have hfound : lookUp? table text = some journaled := by
    rw [lookUp?]
    rcases hname with hname | hname
    · rw [hname]
      rfl
    · rw [hname]
      rfl
  rw [read, hfound] at h
  split at h
  · cases h
  · exact (Except.ok.inj h).symm

/-- No other name speaks of anything but who has to acknowledge a write, and neither does a number
or a tag. -/
theorem eq_acknowledgment_of_read {text : String} {concern : WriteConcern}
    (h : read text = .ok concern) (hname : ¬NamesJournaled text)
    : concern = { acknowledgment := concern.acknowledgment } := by
  rw [read] at h
  split at h
  · cases h
  · split at h
    · rename_i hfound
      obtain rfl := Except.ok.inj h
      obtain ⟨name, hentry, hform⟩ := mem_of_lookUp? hfound
      rcases acknowledgment_or_journal_of_mem_table _ hentry with hplain | rfl | rfl
      · exact hplain
      · exact absurd (Or.inl hform) hname
      · exact absurd (Or.inr hform) hname
    · split at h
      · obtain rfl := Except.ok.inj h
        rfl
      · obtain rfl := Except.ok.inj h
        rfl

theorem eq_acknowledgment_iff {text : String} {concern : WriteConcern}
    (h : read text = .ok concern)
    : { acknowledgment := concern.acknowledgment } = concern ↔ ¬NamesJournaled text := by
  constructor
  · intro hplain hname
    rw [eq_journaled_of_read h hname] at hplain
    cases hplain
  · intro hname
    exact (eq_acknowledgment_of_read h hname).symm

end WriteConcern

-----------------------------------------------------------------------------------------
-- The options that name its parts
-----------------------------------------------------------------------------------------

namespace Query

/-- What an option says about a write concern, by the name of the part. -/
inductive ChangesWriteConcern (pair : String × String)
    : String → (WriteConcern → WriteConcern) → Prop
  | acknowledgment {concern : WriteConcern} (h : WriteConcern.read pair.2 = .ok concern)
    : ChangesWriteConcern pair "w" ({ · with acknowledgment := concern.acknowledgment })
  | timeout {limit : Duration} (h : QueryOption.readMillis pair.1 pair.2 = .ok limit)
    : ChangesWriteConcern pair "wtimeoutms" (·.withTimeout limit)
  | journal {flag : Bool} (h : QueryOption.readBool pair.1 pair.2 = .ok flag)
    : ChangesWriteConcern pair "journal" (·.withJournal flag)

/-- The names of the parts of a write concern. -/
def writeConcernNames : List String :=
  ["w", "wtimeoutms", "journal"]

/-- Whether the key of a pair is the name of a part of the write concern. -/
def isOfWriteConcern (pair : String × String) : Bool :=
  writeConcernNames.any (QueryOption.isNamed · pair)

theorem isOfWriteConcern_of_isNamedBy {field : Field} {pair : String × String}
    (hpart : field.isOfWriteConcern = true) (hnamed : field.isNamedBy pair = true)
    : isOfWriteConcern pair = true := by
  cases field with
  | acknowledgment | writeTimeout | journal =>
      rw [Field.isNamedBy_of_names rfl] at hnamed
      simp [isOfWriteConcern, writeConcernNames, hnamed]
  | _ => cases hpart

/-- The parts of a write concern are decided by the pairs that name one. -/
theorem Field.decided_filter_isOfWriteConcern {field : Field}
    (hpart : field.isOfWriteConcern = true) (pairs : List (String × String))
    : field.decided (pairs.filter Query.isOfWriteConcern) = field.decided pairs := by
  have hsame (pair : String × String)
      : (field.isNamedBy pair && Query.isOfWriteConcern pair) = field.isNamedBy pair := by
    cases hnamed : field.isNamedBy pair with
    | false => rfl
    | true => exact isOfWriteConcern_of_isNamedBy hpart hnamed
  rw [decided, decided, List.filter_filter, List.filter_congr fun pair _ => hsame pair]

/-- If one pair alone names a part of the write concern, it decides that part. The others have no
values. -/
theorem Reflects.get_of_single {query : Query} {pairs : List (String × String)}
    (h : query.Reflects pairs) {pair : String × String}
    (honly : pairs.filter isOfWriteConcern = [pair]) (field : Field)
    (hpart : field.isOfWriteConcern = true)
    : .ok (field.get query) = if field.isNamedBy pair then field.read pair else .ok none := by
  rw [← h.fields field, ← Field.decided_filter_isOfWriteConcern hpart, honly]
  exact field.decided_append_singleton [] pair

/-- A write concern is made up of its parts. -/
theorem writeConcern_eq_some {query : Query} (h : query.options.writeConcern.isSome = true)
    : query.options.writeConcern
      = some
          {
            acknowledgment := Field.acknowledgment.get query,
            timeout := Field.writeTimeout.get query,
            journal := Field.journal.get query
          } := by
  obtain ⟨concern, hconcern⟩ := Option.isSome_iff_exists.1 h
  simp only [Field.get, hconcern]
  rfl

/-- Each part of a write concern is set in the one that is there, or in a new one. -/
theorem set_partOfWriteConcern (query : Query)
    : (∀ acknowledgment : Option Acknowledgment,
        query.set .acknowledgment acknowledgment
        = {
            query with
              options := query.options.changeWriteConcern ({ · with acknowledgment })
          })
      ∧ (∀ limit : Duration,
          query.set .writeTimeout (some limit)
          = { query with options := query.options.changeWriteConcern (·.withTimeout limit) })
      ∧ ∀ flag : Bool,
          query.set .journal (some flag)
          = { query with options := query.options.changeWriteConcern (·.withJournal flag) } := by
  obtain ⟨options, authSource, mechanism⟩ := query
  obtain ⟨_, _, _, _, _, _, _, _, _, _, _, _, _, _, _, _, _, _, _, writeConcern⟩ := options
  cases writeConcern with
  | none => exact ⟨fun _ => rfl, fun _ => rfl, fun _ => rfl⟩
  | some concern => exact ⟨fun _ => rfl, fun _ => rfl, fun _ => rfl⟩

theorem changesOptions_of_changesWriteConcern {name : String} {pair : String × String}
    {change : WriteConcern → WriteConcern} (h : ChangesWriteConcern pair name change)
    (hnamed : QueryOption.isNamed name pair = true)
    : ChangesOptions name pair (·.changeWriteConcern change) where
  isNamed := hnamed
  sets := by
    cases h with
    | acknowledgment hread =>
        refine ⟨.acknowledgment, _, rfl, congrArg (Except.map _) hread, fun query => ?_⟩
        exact (set_partOfWriteConcern query).1 _
    | timeout hread =>
        refine ⟨.writeTimeout, _, rfl, congrArg (Except.map some) hread, fun query => ?_⟩
        exact (set_partOfWriteConcern query).2.1 _
    | journal hread =>
        refine ⟨.journal, _, rfl, congrArg (Except.map some) hread, fun query => ?_⟩
        exact (set_partOfWriteConcern query).2.2 _

/-- Of the write concern that the only pair names, the acknowledgment is taken over. -/
theorem Reflects.writeConcern_of_single {query : Query} {pairs : List (String × String)}
    (h : query.Reflects pairs) {pair : String × String}
    (honly : pairs.filter isOfWriteConcern = [pair])
    (hnamed : QueryOption.isNamed "w" pair = true) {concern : WriteConcern}
    (hread : WriteConcern.read pair.2 = .ok concern)
    : query.options.writeConcern = some { acknowledgment := concern.acknowledgment } := by
  have hfield : Field.acknowledgment.isNamedBy pair = true := by
    rw [Field.isNamedBy_of_names rfl]
    exact hnamed
  have hmem : pair ∈ pairs.filter isOfWriteConcern := by simp [honly]
  have hsome :=
    h.writeConcern.2 ⟨pair, List.mem_of_mem_filter hmem, .acknowledgment, rfl, hfield⟩
  have hacknowledgment : Field.acknowledgment.get query = concern.acknowledgment := by
    have hvalue := h.get_of_single honly .acknowledgment rfl
    rw [if_pos hfield, Field.read, hread] at hvalue
    exact Except.ok.inj hvalue
  have hother (field : Field) (hpart : field.isOfWriteConcern = true)
      (hne : field ≠ .acknowledgment)
      : field.get query = none := by
    have hnot : ¬field.isNamedBy pair = true := fun hthis =>
      hne (Field.eq_of_isNamedBy hfield hthis)
    have hvalue := h.get_of_single honly field hpart
    rw [if_neg hnot] at hvalue
    exact Except.ok.inj hvalue
  have htimeout := hother .writeTimeout rfl nofun
  have hjournal := hother .journal rfl nofun
  rw [writeConcern_eq_some hsome, hacknowledgment, htimeout, hjournal]
  rfl

end Query

-----------------------------------------------------------------------------------------
-- Connection strings beside flat settings
-----------------------------------------------------------------------------------------

namespace ConnectionString

/-- The options of a text that name parts of the write concern, in their order. -/
def writeConcernOptions (text : String) : List (String × String) :=
  match split? (Text.trim text.toList) with
  | some parts => parts.pairs.filter Query.isOfWriteConcern
  | none => []

variable {text : String} {connection : ConnectionString} {pair : String × String}
  {concern : WriteConcern}

theorem lacksOption_of_writeConcernOptions {name : String}
    (hname : name ∈ Query.writeConcernNames)
    (h : ∀ pair ∈ writeConcernOptions text, QueryOption.isNamed name pair = false)
    : LacksOption name text := by
  intro parts hparts pair hpair
  rw [writeConcernOptions, hparts] at h
  cases hnamed : QueryOption.isNamed name pair with
  | false => rfl
  | true =>
      have hpart : Query.isOfWriteConcern pair = true :=
        List.any_eq_true.2 ⟨name, hname, hnamed⟩
      exact hnamed.symm.trans (h pair (List.mem_filter.2 ⟨hpair, hpart⟩))

/-- Of the write concern that the only option names, the acknowledgment is taken over. -/
theorem writeConcern_of_single (h : read text = .ok connection)
    (honly : writeConcernOptions text = [pair]) (hnamed : QueryOption.isNamed "w" pair = true)
    (hread : WriteConcern.read pair.2 = .ok concern)
    : connection.options.writeConcern = some { acknowledgment := concern.acknowledgment } := by
  obtain ⟨parts, hparts, hmade⟩ := read_eq_ok_iff.1 h
  obtain ⟨hosts, query, credential, -, hquery, -, rfl⟩ := readParts_eq_ok_iff.1 hmade
  have hreflects := (Query.ofPairs_eq_ok_iff.1 hquery).2
  rw [writeConcernOptions, hparts] at honly
  exact hreflects.writeConcern_of_single honly hnamed hread

/-- The two ways to configure a write concern agree unless a name asks for the journal. -/
theorem writeConcern_withConnection_iff (hread : WriteConcern.read pair.2 = .ok concern)
    (hgiven
      : connection.options.writeConcern = some { acknowledgment := concern.acknowledgment })
    (settings : Settings) {flat : FlatSettings} {default made : Settings}
    (hflat : flat.writeConcern = some concern) (hmade : flat.assemble default = .ok made)
    : (settings.withConnection connection).writeConcern = made.writeConcern
      ↔ ¬WriteConcern.NamesJournaled pair.2 := by
  have happlied
      : (settings.withConnection connection).writeConcern
        = { acknowledgment := concern.acknowledgment } := by
    have happlied := Settings.get_withConnection .writeConcern settings connection
    rw [Settings.Field.given?, hgiven] at happlied
    exact happlied
  have hreaches : FlatSettings.Field.writeConcern.Reaches concern made :=
    FlatSettings.reaches_of_assemble hmade hflat
  have hassembled : made.writeConcern = concern := hreaches
  rw [happlied, hassembled, WriteConcern.eq_acknowledgment_iff hread]

/-- A connection string takes over who has to acknowledge a write from the write concern that its
only option names, so it carries that write concern, and agrees with flat settings that do, exactly
unless the name asks for the journal. One more option is never refused if its value can be read, and
changes one part of the write concern and nothing else. -/
theorem writeConcern_by_options (h : read text = .ok connection)
    : (∀ (pair : String × String) (concern : WriteConcern),
        writeConcernOptions text = [pair]
        → QueryOption.isNamed "w" pair = true
        → WriteConcern.read pair.2 = .ok concern
        → connection.options.writeConcern = some { acknowledgment := concern.acknowledgment }
          ∧ (connection.options.writeConcern = some concern
            ↔ ¬WriteConcern.NamesJournaled pair.2)
          ∧ ∀ (settings default made : Settings) (flat : FlatSettings),
              flat.writeConcern = some concern
              → flat.assemble default = .ok made
              → ((settings.withConnection connection).writeConcern = made.writeConcern
                ↔ ¬WriteConcern.NamesJournaled pair.2))
      ∧ ∀ (name other : String) (pair : String × String) (change : WriteConcern → WriteConcern),
          CarriesAlso pair text other
          → QueryOption.isNamed name pair = true
          → LacksOption name text
          → Query.ChangesWriteConcern pair name change
          → read other
            = .ok
                (connection.withOptions (String.ofList (Text.trim other.toList))
                  (·.changeWriteConcern change)) := by
  refine ⟨?single, ?added⟩
  case single =>
    intro pair concern honly hnamed hread
    have hgiven := writeConcern_of_single h honly hnamed hread
    refine ⟨hgiven, ?_, fun settings default made flat hflat hmade => ?_⟩
    · rw [hgiven, Option.some.injEq, WriteConcern.eq_acknowledgment_iff hread]
    · exact writeConcern_withConnection_iff hread hgiven settings hflat hmade
  case added =>
    intro name other pair change halso hnamed hlacks hchanges
    rw [read_withOptions halso (Query.changesOptions_of_changesWriteConcern hchanges hnamed) hlacks,
      h]
    rfl

/-- The connection string of a host with a write concern. -/
def writing (raw : String) (concern : WriteConcern) : ConnectionString :=
  {
    raw,
    srv := false,
    hosts := [⟨"db0", 27017⟩],
    database := none,
    credential := none,
    options := { writeConcern := some concern }
  }

/-- A tag with a blank in it, to which a time limit is added. -/
theorem writeConcern_by_options_tag
    : let text := "mongodb://db0/?w=Data%20Center"
      read text = .ok (writing text (.custom "Data Center"))
      ∧ (writing text (.custom "Data Center")).options.writeConcern
        = some (.custom "Data Center")
      ∧ read (withOption text ("wtimeoutMS", "250"))
        = .ok
            (writing "mongodb://db0/?w=Data%20Center&wtimeoutMS=250"
              ((WriteConcern.custom "Data Center").withTimeout (.ofMillis 250))) := by
  intro text
  have hread : read text = .ok (writing text (.custom "Data Center")) := by decide +kernel
  obtain ⟨hsingle, hadded⟩ := writeConcern_by_options hread
  refine ⟨hread, ?_, ?_⟩
  · obtain ⟨-, hcarried, -⟩ :=
      hsingle ("w", "Data Center") (.custom "Data Center") (by decide +kernel) (by decide +kernel)
        (by decide +kernel)
    exact hcarried.2 (by decide +kernel)
  · have hlacks : LacksOption "wtimeoutms" text :=
      lacksOption_of_writeConcernOptions (by decide) (by decide +kernel)
    have hlimit
        : Query.ChangesWriteConcern ("wtimeoutMS", "250") "wtimeoutms"
            (·.withTimeout (.ofMillis 250)) :=
      .timeout (by decide +kernel)
    rw [hadded _ _ _ _ (carriesAlso_withOption text _) (by decide +kernel) hlacks hlimit]
    decide +kernel

/-- The journal that a name asks for is lost on the way through a connection string. -/
theorem not_journaled_of_option
    : let text := "mongodb://db0/?w=journaled"
      read text = .ok (writing text .acknowledged)
      ∧ writeConcernOptions text = [("w", "journaled")]
      ∧ WriteConcern.read "journaled" = .ok .journaled
      ∧ (writing text .acknowledged).options.writeConcern ≠ some .journaled
      ∧ (Settings.defaults.withConnection (writing text .acknowledged)).writeConcern.journal
        = none
      ∧ (FlatSettings.assemble { writeConcern := some .journaled } .defaults).map
          (fun made => made.writeConcern.journal)
        = .ok (some true) := by
  intro text
  exact ⟨by decide +kernel, by decide +kernel, by decide +kernel, by decide, rfl, rfl⟩

end ConnectionString

end MongoConfig
