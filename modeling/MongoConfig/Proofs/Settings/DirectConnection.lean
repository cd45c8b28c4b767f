import MongoConfig.Proofs.ConnectionString.Query
import MongoConfig.Proofs.Settings.Refusal
/-! Connection strings that say whether the client connects to one server directly.
Of several options that say so the last one counts. What it says decides the mode where hosts are
listed, and hosts that do not go with it are refused. Behind an SRV name the option is read but not
looked at: the mode is the one for several servers, whatever the option says.
-/

namespace MongoConfig

-----------------------------------------------------------------------------------------
-- The option that counts
-----------------------------------------------------------------------------------------

/-- The last option about a direct connection is the one that was read. -/
theorem Query.Reflects.directConnection {query : Query} {pairs : List (String × String)}
    (h : query.Reflects pairs) {direct : Bool}
    : query.options.directConnection = some direct
      ↔ ∃ value,
          lastValue? "directconnection" pairs = some value
          ∧ QueryOption.MeansBool direct value := by
  have hdecided := h.fields .directConnection
  rw [Field.decided_of_names rfl] at hdecided
  rw [lastValue?]
  split at hdecided
  · rename_i pair hpair
    obtain ⟨(flag : Bool), hread, hflag⟩ := map_eq_ok_iff.1 hdecided
    have hvalue : query.options.directConnection = some flag := hflag.symm
    simp only [hpair, hvalue, Option.map_some, Option.some.injEq, exists_eq_left']
    rw [← QueryOption.readBool_eq_ok_iff pair.1]
    constructor
    · rintro rfl
      exact hread
    · intro hdirect
      exact Except.ok.inj (hread.symm.trans hdirect)
  · rename_i hnone
    have hvalue : query.options.directConnection = none := (Except.ok.inj hdecided).symm
    simp [hnone, hvalue]

namespace ConnectionString

variable {text : String} {connection : ConnectionString} {direct : Bool}

/-- The last option of a text that says whether to connect directly says it in this way. -/
def SaysDirect (text : String) (direct : Bool) : Prop :=
  ∃ parts value,
    split? (Text.trim text.toList) = some parts
    ∧ Query.lastValue? "directconnection" parts.pairs = some value
    ∧ QueryOption.MeansBool direct value

theorem saysDirect_iff (h : read text = .ok connection)
    : SaysDirect text direct ↔ connection.options.directConnection = some direct := by
  obtain ⟨parts, hparts, hread⟩ := read_eq_ok_iff.1 h
  obtain ⟨hosts, query, credential, -, hquery, -, rfl⟩ := readParts_eq_ok_iff.1 hread
  rw [(Query.ofPairs_eq_ok_iff.1 hquery).2.directConnection, SaysDirect]
  simp only [hparts, Option.some.injEq, exists_and_left, exists_eq_left']

/-- Only an SRV name keeps the option from being taken into account. -/
theorem asksForOneServer_iff_of_direct
    (hdirect : connection.options.directConnection = some true)
    : connection.AsksForOneServer ↔ connection.srv = false := by
  simp [AsksForOneServer, hdirect]

theorem not_asksForOneServer_of_not_direct
    (hdirect : connection.options.directConnection = some false)
    : ¬connection.AsksForOneServer := by
  simp [AsksForOneServer, hdirect]

end ConnectionString

-----------------------------------------------------------------------------------------
-- The mode of what is built
-----------------------------------------------------------------------------------------

namespace Settings

variable {text : String} {connection : ConnectionString}

/-- Settings are refused, or else what is built has the mode. -/
def BuildsOnlyIn (settings : Settings) (mode : ConnectionMode) : Prop :=
  ∀ built, settings.build = .ok built → built.cluster.mode = mode

theorem mode_of_build {settings built : Settings} (h : settings.build = .ok built)
    : built.cluster.mode = settings.cluster.mode := by
  obtain ⟨-, rfl⟩ := build_eq_ok_iff.1 h
  rw [ClusterSettings.promoted_eq]

/-- A mode is kept to if it is the one that settings ask for, or if they are refused. -/
theorem buildsOnlyIn_iff {settings : Settings} {mode : ConnectionMode}
    : settings.BuildsOnlyIn mode
      ↔ settings.cluster.mode = mode ∨ ∃ fault, settings.build = .error fault := by
  cases hbuild : settings.build with
  | error fault => simp [BuildsOnlyIn, hbuild]
  | ok built =>
      simp [BuildsOnlyIn, hbuild, mode_of_build hbuild]

theorem mode_withConnection_eq_multiple (settings : Settings) (h : ¬connection.AsksForOneServer)
    : (settings.withConnection connection).cluster.mode = .multiple := by
  rw [mode_withConnection, if_neg h]

/-- A connection to one of several servers that are listed is refused. -/
theorem build_eq_manyHostsInSingleMode (h : ConnectionString.read text = .ok connection)
    (hmany : connection.AsksForOneOfMany)
    : (Settings.defaults.withConnection connection).build = .error .manyHostsInSingleMode :=
  (ConnectionString.build_withConnection_defaults_eq_error_iff h).2 (.hosts hmany)

theorem exists_build_withConnection_defaults_eq_error_iff
    (h : ConnectionString.read text = .ok connection)
    : (∃ fault, (Settings.defaults.withConnection connection).build = .error fault)
      ↔ connection.AsksForOneOfMany ∨ connection.Overfills ∨ connection.LeavesNoPause :=
  (exists_congr fun _ => ConnectionString.build_withConnection_defaults_eq_error_iff h).trans
    ConnectionString.exists_isRefusedFor_iff

/-- A direct connection that is asked for last is kept to, by the mode or by a refusal, exactly
where hosts are listed or the connection string is refused for its numbers. Several hosts are
refused then. Behind an SRV name there is no such refusal, and whatever is built connects to all
servers. If a direct connection is ruled out last, the mode is always the one for several
servers. -/
theorem buildsOnlyIn_of_saysDirect (h : ConnectionString.read text = .ok connection)
    : (ConnectionString.SaysDirect text true
        → ((Settings.defaults.withConnection connection).BuildsOnlyIn .single
            ↔ connection.srv = false ∨ connection.Overfills ∨ connection.LeavesNoPause)
          ∧ (connection.srv = false
            → 1 < connection.hosts.length
            → (Settings.defaults.withConnection connection).build
              = .error .manyHostsInSingleMode)
          ∧ (connection.srv = true
            → (Settings.defaults.withConnection connection).BuildsOnlyIn .multiple))
      ∧ (ConnectionString.SaysDirect text false
        → (Settings.defaults.withConnection connection).cluster.mode = .multiple
          ∧ (Settings.defaults.withConnection connection).BuildsOnlyIn .multiple) := by
  simp only [ConnectionString.saysDirect_iff h]
  constructor
  · intro hdirect
    have hone := ConnectionString.asksForOneServer_iff_of_direct hdirect
    refine ⟨?kept, ?several, ?behindName⟩
    case kept =>
      rw [buildsOnlyIn_iff, mode_withConnection_eq_single_iff, hone,
        exists_build_withConnection_defaults_eq_error_iff h]
      constructor
      · rintro (hsrv | ⟨hsrv, -⟩ | hnumbers)
        · exact Or.inl hsrv
        · exact Or.inl hsrv
        · exact Or.inr hnumbers
      · exact Or.imp_right Or.inr
    case several =>
      intro hsrv hmany
      exact build_eq_manyHostsInSingleMode h ⟨hsrv, hdirect, hmany⟩
    case behindName =>
      intro hsrv
      refine buildsOnlyIn_iff.2 (Or.inl (mode_withConnection_eq_multiple _ ?_))
      rw [hone, hsrv]
      exact Bool.noConfusion
  · intro hdirect
    have hmany := ConnectionString.not_asksForOneServer_of_not_direct hdirect
    have hmode := mode_withConnection_eq_multiple .defaults hmany
    exact ⟨hmode, buildsOnlyIn_iff.2 (Or.inl hmode)⟩

/-- The connection string of a replica set that asks for a direct connection in the end. -/
def directAtLast : ConnectionString :=
  {
    raw := "mongodb://db0/?directConnection=no&replicaSet=rs0&DIRECTCONNECTION=Yes",
    srv := false,
    hosts := [⟨"db0", 27017⟩],
    database := none,
    credential := none,
    options := { replicaSet := some "rs0", directConnection := some true }
  }

theorem buildsOnlyIn_of_saysDirect_atLast
    : ConnectionString.read directAtLast.raw = .ok directAtLast
      ∧ ConnectionString.SaysDirect directAtLast.raw true
      ∧ (Settings.defaults.withConnection directAtLast).BuildsOnlyIn .single := by
  have hread : ConnectionString.read directAtLast.raw = .ok directAtLast := by decide +kernel
  have hsays : ConnectionString.SaysDirect directAtLast.raw true :=
    (ConnectionString.saysDirect_iff hread).2 rfl
  exact ⟨hread, hsays, ((buildsOnlyIn_of_saysDirect hread).1 hsays).1.2 (Or.inl rfl)⟩

/-- The connection string of an SRV name that asks for a direct connection. -/
def directBehindName : ConnectionString :=
  {
    raw := "mongodb+srv://cluster0.example.com/?directConnection=true",
    srv := true,
    hosts := [⟨"cluster0.example.com", 27017⟩],
    database := none,
    credential := none,
    options := { directConnection := some true }
  }

/-- Behind an SRV name the direct connection that is asked for is neither made nor refused. -/
theorem not_buildsOnlyIn_directBehindName
    : ConnectionString.read directBehindName.raw = .ok directBehindName
      ∧ ConnectionString.SaysDirect directBehindName.raw true
      ∧ (Settings.defaults.withConnection directBehindName).build.map (·.cluster.mode)
        = .ok .multiple
      ∧ ¬(Settings.defaults.withConnection directBehindName).BuildsOnlyIn .single := by
  have hread : ConnectionString.read directBehindName.raw = .ok directBehindName := by
    decide +kernel
  refine ⟨hread, (ConnectionString.saysDirect_iff hread).2 rfl, rfl, ?_⟩
  intro hsingle
  have hmode := hsingle _ rfl
  cases hmode

end Settings

end MongoConfig
