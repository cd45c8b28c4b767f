import MongoConfig.Proofs.Catalog.Loading
import MongoConfig.Proofs.ClientSpec.Precedence
import MongoConfig.Proofs.FlatSettings.Untouched
import MongoConfig.Proofs.Settings.Overlay
/-! Specifications that consist of settings alone, as those of clients that only refer to settings.
They point to the local server, whose address gives nothing but the defaults. So the settings are
laid over the defaults, and what comes out passes validation because they passed it before.
-/

namespace MongoConfig

/-- The connection string of the server on the same machine. -/
def ConnectionString.localServer : ConnectionString :=
  {
    raw := "mongodb://127.0.0.1:27017",
    srv := false,
    hosts := [.localServer],
    database := none,
    credential := none,
    options := {}
  }

theorem ConnectionString.ofHostAndPort_default
    : ofHostAndPort Address.defaultHost Address.defaultPort = .ok localServer := by
  rfl

/-- The local server is where clients connect to by default, so it changes none of the defaults. -/
theorem Settings.withConnection_localServer
    : Settings.defaults.withConnection .localServer = .defaults :=
  rfl

namespace ClientSpec

/-- A specification of nothing but settings. -/
def ofSettings (settings : Settings) : ClientSpec :=
  { settings := some settings }

theorem baseConnection_ofSettings (settings : Settings)
    : (ofSettings settings).baseConnection = .ok .localServer := by
  change Except.mapError ClientError.invalidAddress
      (ConnectionString.ofHostAndPort Address.defaultHost Address.defaultPort)
    = .ok .localServer
  rw [ConnectionString.ofHostAndPort_default]
  rfl

theorem layered_ofSettings (settings : Settings)
    : (ofSettings settings).layered .localServer
      = Settings.defaults.overlay settings .defaults :=
  congrArg (fun lower : Settings => lower.overlay settings .defaults)
    Settings.withConnection_localServer

/-- Settings that passed validation come out of a specification equal to what they were. -/
theorem resolve_ofSettings {draft settings : Settings} (h : draft.build = .ok settings)
    : ∃ made, (ofSettings settings).resolve = .ok made ∧ (made == settings) = true := by
  have hequal := Settings.overlay_lower settings .defaults
  obtain ⟨made, hmade, hmadeEqual⟩ :=
    Settings.build_congr hequal (Settings.build_of_build h)
  refine ⟨made, ?_, hmadeEqual⟩
  rw [resolve_of_ok (baseConnection_ofSettings settings), layered_ofSettings, hmade]
  rfl

end ClientSpec

namespace Catalog

/-- A client that only refers to settings is specified by these settings alone. -/
theorem ClientDefinition.Describes.eq_ofSettings {id reference : String}
    {settings? : String → Option Settings} {spec : ClientSpec}
    (h : Describes { id, settingsRef := some reference } settings? spec)
    : ∃ settings, settings? reference = some settings ∧ spec = .ofSettings settings := by
  obtain ⟨host, port, connection, credentials, replicaSet, _⟩ := spec
  obtain ⟨rfl, rfl, rfl, rfl, rfl, settings, hsettings, rfl⟩ := h
  exact ⟨settings, hsettings, rfl⟩

/-- The settings that a definition makes have passed validation. -/
theorem exists_build_of_makes {definition : SettingsDefinition} {settings : Settings}
    (h : definition.Makes settings)
    : ∃ draft : Settings, draft.build = .ok settings := by
  obtain ⟨tls, -, hbuild⟩ := FlatSettings.assemble_eq_ok_iff.1 h
  exact ⟨_, hbuild⟩

/-- The settings of a client that only refers to settings equal these. -/
theorem resolve_of_reference {document : Document} {catalog : Catalog}
    (h : ofDocument document = .ok catalog) {id reference : String}
    (hmem : { id, settingsRef := some reference } ∈ document.clients)
    : ∃ spec settings made,
        catalog.client? id = some spec
        ∧ catalog.settings? reference = some settings
        ∧ spec.resolve = .ok made
        ∧ (made == settings) = true := by
  obtain ⟨-, hsettings, hclients⟩ := taken_of_ofDocument h
  obtain ⟨spec, hdescribes⟩ := hclients.describes _ hmem
  have hclient : catalog.client? id = some spec :=
    (hclients.clients id spec).2 ⟨_, hmem, rfl, hdescribes⟩
  obtain ⟨settings, hfound, rfl⟩ := hdescribes.eq_ofSettings
  obtain ⟨definition, -, -, hmakes⟩ := (hsettings reference settings).1 hfound
  obtain ⟨draft, hbuild⟩ := exists_build_of_makes hmakes
  obtain ⟨made, hmade, hequal⟩ := ClientSpec.resolve_ofSettings hbuild
  exact ⟨.ofSettings settings, settings, made, hclient, hfound, hmade, hequal⟩

end Catalog

/-- Settings that passed validation reach a client unchanged: a specification of nothing but these
settings resolves to equal ones, and so does each client of a catalog that only refers to them. -/
theorem ClientSpec.resolve_settingsAlone
    : (∀ draft settings : Settings,
        draft.build = .ok settings
        → ∃ made, (ofSettings settings).resolve = .ok made ∧ (made == settings) = true)
      ∧ ∀ document catalog,
          Catalog.ofDocument document = .ok catalog
          → ∀ id reference,
              { id, settingsRef := some reference } ∈ document.clients
              → ∃ spec settings made,
                  catalog.client? id = some spec
                  ∧ catalog.settings? reference = some settings
                  ∧ spec.resolve = .ok made
                  ∧ (made == settings) = true := by
  refine ⟨fun draft settings hbuild => resolve_ofSettings hbuild, ?_⟩
  intro document catalog hcatalog id reference hmem
  exact Catalog.resolve_of_reference hcatalog hmem

/-- Settings with hosts to be looked up, and with a codec registry that only has the names of the
default one. -/
def Settings.lookedUp : Settings :=
  {
    codecRegistry :=
      { providers := [.ofTypes "value" [], .ofTypes "document" [], .ofTypes "iterable" []] },
    cluster :=
      {
        srvHost := some "cluster.example",
        mode := .multiple,
        requiredReplicaSet := some "rs"
      }
  }

/-- A document with a client that only refers to settings. -/
def Catalog.oneReference : Document :=
  {
    settings := [{ id := "fast", settings := { poolMaxSize := some 20 } }],
    clients := [{ id := "orders", settingsRef := some "fast" }]
  }

theorem ClientSpec.resolve_settingsAlone_lookedUp
    : (∃ settings made,
        Settings.lookedUp.build = .ok settings
        ∧ (ofSettings settings).resolve = .ok made
        ∧ (made == settings) = true)
      ∧ ∃ catalog spec settings made,
          Catalog.ofDocument Catalog.oneReference = .ok catalog
          ∧ catalog.client? "orders" = some spec
          ∧ catalog.settings? "fast" = some settings
          ∧ spec.resolve = .ok made
          ∧ (made == settings) = true := by
  obtain ⟨hbuilt, hreferred⟩ := resolve_settingsAlone
  have hbuild
      : Settings.lookedUp.build
        = .ok { Settings.lookedUp with cluster := Settings.lookedUp.cluster.promoted } :=
    rfl
  obtain ⟨made, hmade, hequal⟩ := hbuilt _ _ hbuild
  obtain ⟨catalog, hcatalog⟩
      : ∃ catalog, Catalog.ofDocument Catalog.oneReference = .ok catalog :=
    ⟨_, rfl⟩
  obtain ⟨spec, settings, other, hother⟩ :=
    hreferred Catalog.oneReference catalog hcatalog "orders" "fast" List.mem_cons_self
  exact ⟨⟨_, made, hbuild, hmade, hequal⟩, catalog, spec, settings, other, hcatalog, hother⟩

end MongoConfig
