import MongoConfig.Proofs.FlatSettings.Setter
import MongoConfig.Proofs.FlatSettings.Untouched
/-! What a run of setters makes of defaults.
A provider of transport security that is asked for but not known is reported before anything else.
Otherwise each field of the settings has a rule that tells when the value set last counts and what
stands in for it, and the settings with these fields are validated.
-/

namespace MongoConfig

theorem SecurityContext.eq_of_ofProvider_error {provider : String} {cause : UnsupportedProvider}
    (h : ofProvider provider = .error cause)
    : cause = { provider } := by
  rw [ofProvider] at h
  split at h
  · cases h
  · exact (Except.error.inj h).symm

namespace FlatSettings

variable (given : (field : Field) → Option field.Value) (default : Settings)

-----------------------------------------------------------------------------------------
-- The rules
-----------------------------------------------------------------------------------------

def isSecured : Bool :=
  (given .tlsEnabled).getD default.tls.enabled

/-- The provider that is asked for, else the one that already secures the connections of the
defaults. -/
def providerName : String :=
  (given .tlsProvider).getD
    (if default.tls.enabled then (default.tls.context.map (·.provider)).getD "" else "")

/-- Transport security is on, but its provider is not known. -/
def IsUnresolved : Prop :=
  isSecured given default = true
  ∧ (SecurityContext.ofProvider (providerName given default)).toOption = none

instance : Decidable (IsUnresolved given default) :=
  inferInstanceAs (Decidable (_ ∧ _))

/-- The milliseconds that are given, else the default without the part of a millisecond that it may
have. More of them than 64 bits can count are cut to what they can. -/
def roundedOr (milliseconds : Option UInt64) (default : Duration) : Duration :=
  match milliseconds with
  | some milliseconds => .ofMillis milliseconds
  | none => { nanoseconds := min (default.nanoseconds / 1000000) (UInt64.size - 1) * 1000000 }

/-- The value of each field of the settings. The credential cannot be set; the name of the
application and the encryption settings are not taken from the defaults. -/
def chosen : (field : Settings.Field) → field.Value
  | .applicationName => given .applicationName
  | .autoEncryption => given .autoEncryption
  | .codecRegistry => (given .codecRegistry).getD default.codecRegistry
  | .credential => default.credential
  | .readConcern => (given .readConcern).getD default.readConcern
  | .readPreference => (given .readPreference).getD default.readPreference
  | .retryReads => (given .retryReads).getD default.retryReads
  | .retryWrites => (given .retryWrites).getD default.retryWrites
  | .streamFactory => (given .streamFactory).or default.streamFactory
  | .writeConcern => (given .writeConcern).getD default.writeConcern
  | .srvHost =>
      match given .clusterSrvHost with
      | some host => if Text.isAllBlank host then default.cluster.srvHost else some host
      | none => default.cluster.srvHost
  | .hosts =>
      match given .clusterHosts with
      | some (first :: rest) => first :: rest
      | _ => default.cluster.hosts
  | .mode => (given .clusterMode).getD default.cluster.mode
  | .requiredType => (given .clusterType).getD default.cluster.requiredType
  | .requiredReplicaSet => (given .clusterReplicaSet).or default.cluster.requiredReplicaSet
  | .localThreshold => roundedOr (given .clusterLocalThreshold) default.cluster.localThreshold
  | .serverSelectionTimeout =>
      roundedOr (given .clusterServerSelectionTimeout) default.cluster.serverSelectionTimeout
  | .serverWaitQueueSize =>
      (given .clusterMaxWaitQueueSize).getD default.cluster.maxWaitQueueSize
  | .maxPoolSize => (given .poolMaxSize).getD default.pool.maxSize
  | .minPoolSize => (given .poolMinSize).getD default.pool.minSize
  | .poolWaitQueueSize => (given .poolMaxWaitQueueSize).getD default.pool.maxWaitQueueSize
  | .maxWaitTime => roundedOr (given .poolMaxWaitTime) default.pool.maxWaitTime
  | .maxConnectionLifetime =>
      roundedOr (given .poolMaxConnectionLifetime) default.pool.maxConnectionLifetime
  | .maxConnectionIdleTime =>
      roundedOr (given .poolMaxConnectionIdleTime) default.pool.maxConnectionIdleTime
  | .maintenanceInitialDelay =>
      roundedOr (given .poolMaintenanceInitialDelay) default.pool.maintenanceInitialDelay
  | .maintenanceFrequency =>
      roundedOr (given .poolMaintenanceFrequency) default.pool.maintenanceFrequency
  | .heartbeatFrequency =>
      roundedOr (given .serverHeartbeatFrequency) default.server.heartbeatFrequency
  | .minHeartbeatFrequency =>
      roundedOr (given .serverMinHeartbeatFrequency) default.server.minHeartbeatFrequency
  | .connectTimeout => roundedOr (given .socketConnectTimeout) default.socket.connectTimeout
  | .readTimeout => roundedOr (given .socketReadTimeout) default.socket.readTimeout
  | .receiveBufferSize =>
      (given .socketReceiveBufferSize).getD default.socket.receiveBufferSize
  | .sendBufferSize => (given .socketSendBufferSize).getD default.socket.sendBufferSize
  | .tlsEnabled => isSecured given default
  | .invalidHostnameAllowed =>
      if isSecured given default then
        (given .tlsInvalidHostnameAllowed).getD default.tls.invalidHostnameAllowed
      else
        default.tls.invalidHostnameAllowed
  | .securityContext =>
      if isSecured given default then
        (SecurityContext.ofProvider (providerName given default)).toOption
      else
        default.tls.context

-----------------------------------------------------------------------------------------
-- The draft follows the rules
-----------------------------------------------------------------------------------------

theorem millisOr_eq : millisOr = roundedOr := by
  funext milliseconds default
  cases milliseconds with
  | some milliseconds => rfl
  | none =>
      have hfits : min default.wholeMillis (UInt64.size - 1) < UInt64.size := by
        simp only [UInt64.size]
        omega
      have hcount
          : default.toMillis.toNat = min default.wholeMillis (UInt64.size - 1) := by
        rw [Duration.toMillis, UInt64.toNat_ofNat', Nat.mod_eq_of_lt hfits]
      rw [millisOr, Option.getD_none, Duration.ofMillis, hcount]
      rfl

theorem filter_or_eq (host? default : Option String)
    : (host?.filter (!Text.isAllBlank ·)).or default
      = match host? with
        | some host => if Text.isAllBlank host then default else some host
        | none => default := by
  cases host? with
  | none => rfl
  | some host =>
      rw [Option.filter_some]
      dsimp only
      cases Text.isAllBlank host <;> rfl

theorem filter_getD_eq (hosts? : Option (List Address)) (default : List Address)
    : (hosts?.filter (!·.isEmpty)).getD default
      = match hosts? with
        | some (first :: rest) => first :: rest
        | _ => default := by
  cases hosts? with
  | none => rfl
  | some hosts => cases hosts <;> rfl

theorem defaultProvider_eq (default : TlsSettings)
    : defaultProvider default
      = if default.enabled then (default.context.map (·.provider)).getD "" else "" := by
  obtain ⟨enabled, invalidHostnameAllowed, context⟩ := default
  cases enabled <;> cases context <;> rfl

theorem tls_of_not_secured (h : isSecured given default = false)
    : (ofFields given).tls default.tls = .ok { default.tls with enabled := false } :=
  if_neg (ne_true_of_eq_false h)

/-- Where transport security is on, the outcome is that of looking up the provider. -/
theorem tls_of_secured (h : isSecured given default = true)
    : (ofFields given).tls default.tls
      = (SecurityContext.ofProvider (providerName given default)).map fun context =>
          {
            enabled := true,
            invalidHostnameAllowed :=
              (given .tlsInvalidHostnameAllowed).getD default.tls.invalidHostnameAllowed,
            context := some context
          } := by
  have hprovider
      : (ofFields given).tlsProvider.getD (defaultProvider default.tls)
        = providerName given default := by
    rw [defaultProvider_eq]
    rfl
  rw [tls, hprovider]
  exact if_pos h

theorem tls_of_unresolved (h : IsUnresolved given default)
    : (ofFields given).tls default.tls
      = .error { provider := providerName given default } := by
  rw [tls_of_secured given default h.1]
  cases hfound : SecurityContext.ofProvider (providerName given default) with
  | error cause =>
      rw [SecurityContext.eq_of_ofProvider_error hfound]
      rfl
  | ok context =>
      have hnone := h.2
      rw [hfound] at hnone
      cases hnone

/-- Transport security that is not asked for in vain has the fields that the rules give it. -/
theorem tls_of_resolved (h : ¬IsUnresolved given default)
    : (ofFields given).tls default.tls
      = .ok
          {
            enabled := chosen given default .tlsEnabled,
            invalidHostnameAllowed := chosen given default .invalidHostnameAllowed,
            context := chosen given default .securityContext
          } := by
  cases hsecured : isSecured given default with
  | false =>
      rw [tls_of_not_secured given default hsecured]
      simp [chosen, hsecured]
  | true =>
      rw [tls_of_secured given default hsecured]
      cases hfound : SecurityContext.ofProvider (providerName given default) with
      | error cause =>
          refine absurd ⟨hsecured, ?_⟩ h
          rw [hfound]
          rfl
      | ok context =>
          simp only [chosen, hsecured, hfound]
          rfl

/-- The draft has the fields that the rules give it, if its transport security has. -/
theorem draft_ofFields
    : (ofFields given).draft default
        {
          enabled := chosen given default .tlsEnabled,
          invalidHostnameAllowed := chosen given default .invalidHostnameAllowed,
          context := chosen given default .securityContext
        }
      = Settings.ofFields (chosen given default) := by
  refine Settings.eq_of_get_eq fun field => ?_
  rw [Settings.get_ofFields, draft, cluster, pool, server, socket, millisOr_eq]
  cases field with
  | srvHost => exact filter_or_eq _ _
  | hosts => exact filter_getD_eq _ _
  | _ => rfl

-----------------------------------------------------------------------------------------
-- The outcome
-----------------------------------------------------------------------------------------

theorem mapError_settings_ne (result : Except SettingsFault Settings)
    (cause : UnsupportedProvider)
    : result.mapError AssemblyError.settings ≠ .error (.securityContext cause) := by
  cases result with
  | ok settings => exact nofun
  | error fault => exact nofun

/-- The outcome of setters in a factory that copied defaults. An unknown provider is reported,
whatever else may be wrong; otherwise it is what validation makes of the settings whose fields
follow from what was set last for each. -/
theorem assemble_configured (setters : List Setter) (default : Settings)
    : (setters.foldl SettingsFactory.set (.ofDefaults default)).build
        = (configured setters).assemble default
      ∧ (IsUnresolved (lastSet? setters) default
        ↔ (configured setters).assemble default
          = .error (.securityContext { provider := providerName (lastSet? setters) default }))
      ∧ (configured setters).assemble default
        = if IsUnresolved (lastSet? setters) default then
            .error (.securityContext { provider := providerName (lastSet? setters) default })
          else
            (Settings.ofFields (chosen (lastSet? setters) default)).build.mapError .settings := by
  refine ⟨build_foldl_set setters default, ?_⟩
  rw [configured_eq]
  by_cases hunresolved : IsUnresolved (lastSet? setters) default
  · have hfails := assemble_of_unsupported (tls_of_unresolved _ _ hunresolved)
    exact ⟨iff_of_true hunresolved hfails, hfails.trans (if_pos hunresolved).symm⟩
  · have hbuilds := assemble_of_tls (tls_of_resolved _ _ hunresolved)
    rw [draft_ofFields] at hbuilds
    refine ⟨iff_of_false hunresolved ?_, hbuilds.trans (if_neg hunresolved).symm⟩
    rw [hbuilds]
    exact mapError_settings_ne _ _

end FlatSettings

end MongoConfig
