import OpenShellOperator.Provider.Reconcile
import OpenShellOperator.GatewaySpec
import Mathlib.Data.List.Induction

/-! # What a provider sync leaves on the gateway

A sync replaces the provider's type, static credentials and configuration, and overwrites the
refresh configurations of its own plan (`syncToGateway_yields`).  Refresh configurations of
earlier syncs that its plan no longer has stay where they are, so the gateway's record is the
one a first sync would leave if and only if there are none (`sync_forgets_iff`). -/

namespace OpenShell
open Wire Effects

namespace ProviderController

/-! ### The record of a provider -/

/-- What the gateway stores for a provider, its bookkeeping apart. -/
structure ProviderRecord where
  type_ : String
  credentials : StrMap String
  config : StrMap String
  refreshes : StrMap RefreshConfig
deriving DecidableEq, Repr

def recordOf (provider : GatewayProvider) : ProviderRecord :=
  ⟨provider.type_, provider.credentials, provider.config, provider.refreshes⟩

/-- The record under a name and workspace. -/
def record (w : World) (name workspace : String) : Option ProviderRecord :=
  w.gateway.providers[(workspaceScope workspace).key name]?.map recordOf

/-- The refresh configurations under a name and workspace. -/
def configured (w : World) (name workspace : String) : StrMap RefreshConfig :=
  ((record w name workspace).map (·.refreshes)).getD ∅

/-- What the gateway stores for a planned refresh. -/
def refreshConfig (plan : RefreshPlan) : RefreshConfig :=
  ⟨refreshStrategyToProto plan.strategy, plan.material, plan.secretMaterialKeys⟩

/-- Refresh configurations overwritten by the planned ones, in order. -/
def overwrite (refreshes : StrMap RefreshConfig) (planned : List PlannedRefresh) :
    StrMap RefreshConfig :=
  planned.foldl (fun m r => m.insert r.credentialKey (refreshConfig r.plan)) refreshes

theorem overwrite_concat (m : StrMap RefreshConfig) (planned : List PlannedRefresh)
    (r : PlannedRefresh) : overwrite m (planned ++ [r]) =
      (overwrite m planned).insert r.credentialKey (refreshConfig r.plan) := by
  unfold overwrite
  rw [List.foldl_append]
  rfl

/-- A planned key is overwritten whatever was there, any other key stays. -/
theorem get?_overwrite (m : StrMap RefreshConfig) (planned : List PlannedRefresh) (key : String) :
    (overwrite m planned)[key]? =
      if key ∈ planned.map (·.credentialKey) then (overwrite ∅ planned)[key]? else m[key]? := by
  induction planned using List.reverseRecOn with
  | nil => simp [overwrite]
  | append_singleton planned r ih =>
      rw [overwrite_concat, overwrite_concat, Std.ExtTreeMap.getElem?_insert,
        Std.ExtTreeMap.getElem?_insert, ih]
      by_cases hk : r.credentialKey = key
      · simp [hk]
      · have hne : key ≠ r.credentialKey := Ne.symm hk
        simp only [List.map_append, List.map_cons, List.map_nil, List.mem_append,
          List.mem_singleton, hne, or_false, Std.compare_eq_iff_eq, hk, if_false]

/-- The old configurations leave no trace if and only if the plan overwrites all of them. -/
theorem overwrite_eq_iff (m : StrMap RefreshConfig) (planned : List PlannedRefresh) :
    overwrite m planned = overwrite ∅ planned ↔
      ∀ key ∈ m, key ∈ planned.map (·.credentialKey) := by
  constructor
  · intro h key hkey
    by_contra hnot
    have hget : (overwrite m planned)[key]? = (overwrite ∅ planned)[key]? := by rw [h]
    rw [get?_overwrite m, if_neg hnot, get?_overwrite ∅, if_neg hnot] at hget
    rw [Std.ExtTreeMap.mem_iff_isSome_getElem?, hget] at hkey
    simp at hkey
  · intro h
    apply Std.ExtTreeMap.ext_getElem?
    intro key
    rw [get?_overwrite m]
    by_cases hkey : key ∈ planned.map (·.credentialKey)
    · rw [if_pos hkey]
    · have hm : key ∉ m := fun hm => hkey (h key hm)
      rw [if_neg hkey, get?_overwrite ∅, if_neg hkey, Std.ExtTreeMap.getElem?_eq_none hm]
      simp

/-! ### One sync -/

section sync
variable {X : Externals} {w : World} {name workspace : String}

theorem record_insert (w : World) (m : KeyMap GatewayProvider) (n : ℕ) (p : GatewayProvider) :
    record { w with gateway := { w.gateway with
        providers := m.insert ((workspaceScope workspace).key name) p, nextId := n } }
      name workspace = some (recordOf p) := by
  unfold record
  rw [KeyMap.get?_insert, if_pos rfl]
  rfl

/-- An upsert replaces all but the refresh configurations. -/
theorem upsertProvider_yields (providerType : String) (credentials config : StrMap String) :
    (SdkGateway.upsertProvider ⟨name, providerType, credentials, config, workspace⟩).Yields
      (World.react X) Rely.none w (fun _ w' => record w' name workspace =
        some ⟨providerType, credentials, config, configured w name workspace⟩) := by
  refine Prog.Yields.bind (SdkGateway.existingProvider_yields ?_)
  rintro _ rfl _ rfl
  unfold SdkGateway.storedProvider
  cases hs : w.gateway.providers[(workspaceScope workspace).key name]? with
  | none =>
      have hc : configured w name workspace = ∅ := by simp [configured, record, hs]
      rw [hc]
      refine yields_perform ?_
      rintro _ rfl a _ _ rfl
      show record { w with gateway := (w.gateway.createProvider _ _).1 } name workspace = _
      rw [Gateway.createProvider_of_none hs]
      exact record_insert w _ _ _
  | some stored =>
      have hc : configured w name workspace = stored.refreshes := by
        simp [configured, record, hs, recordOf]
      rw [hc]
      refine yields_perform ?_
      rintro _ rfl a _ _ rfl
      show record { w with gateway := (w.gateway.updateProvider _ _).1 } name workspace = _
      rw [Gateway.updateProvider_of_some hs]
      exact record_insert w _ _ _

/-- Configuring a refresh overwrites the entry of its credential key. -/
theorem configureProviderRefresh_yields {r : ProviderRecord} (refresh : PlannedRefresh)
    (h : record w name workspace = some r) :
    (SdkGateway.configureProviderRefresh
        ⟨name, refresh.credentialKey, refresh.plan, workspace⟩).Yields
      (World.react X) Rely.none w (fun _ w' => record w' name workspace =
        some { r with
          refreshes := r.refreshes.insert refresh.credentialKey (refreshConfig refresh.plan) }) := by
  obtain ⟨stored, hs, rfl⟩ := Option.map_eq_some_iff.mp h
  refine yields_perform ?_
  rintro _ rfl a _ _ rfl
  show record { w with gateway := (w.gateway.configureProviderRefresh _).1 } name workspace = _
  rw [Gateway.configureProviderRefresh_of_some rfl hs]
  exact record_insert w _ _ _

/-- The plan of a sync on a gateway with the given profiles. -/
def planOn (profiles : List ProtoProfile) (providerType : String) (credentials : StrMap String) :
    ProviderCredentialPlan :=
  planFor ((profiles.map providerProfileView).find? (fun profile => profile.id == providerType))
    credentials

/-- **What a sync leaves.**  A sync that returns has replaced the type, the static credentials
and the config, and has overwritten the refreshes of its plan and no other. -/
theorem syncToGateway_yields (name workspace providerType : String) (credentials config : StrMap String) :
    (syncToGateway X name providerType credentials config workspace).Yields
      (World.react X) Rely.none w (fun _ w' => record w' name workspace =
        some ⟨providerType, (planOn w.gateway.profiles providerType credentials).staticCredentials,
          config, overwrite (configured w name workspace)
            (planOn w.gateway.profiles providerType credentials).refreshes⟩) := by
  refine Prog.Yields.bind (Prog.Yields.bind (SdkGateway.listProviderProfiles_yields ?_))
  rintro _ rfl _ rfl
  refine Prog.yields_pure ?_
  rintro _ rfl
  refine Prog.Yields.bind ((upsertProvider_yields _ _ _).mono ?_)
  intro _ w₁ hrec
  change record w₁ name workspace = some ⟨providerType,
    (planOn w.gateway.profiles providerType credentials).staticCredentials, config, _⟩ at hrec
  change Prog.Yields _ _ ((planOn w.gateway.profiles providerType credentials).refreshes.forM _ >>=
    _) _ _
  generalize planOn w.gateway.profiles providerType credentials = plan at hrec ⊢
  refine Prog.Yields.bind (Prog.Yields.mono
    (Prog.Yields.forM (J := fun todo w' => ∃ m, record w' name workspace =
        some ⟨providerType, plan.staticCredentials, config, m⟩ ∧
          overwrite m todo = overwrite (configured w name workspace) plan.refreshes)
      (by rintro w' _ hJ rfl; exact hJ) ?_ plan.refreshes w₁ ⟨_, hrec, rfl⟩) ?_)
  · rintro refresh todo w₂ ⟨m, hm, hover⟩
    refine (configureProviderRefresh_yields refresh hm).mono ?_
    intro _ w₃ hrec₃
    exact ⟨_, hrec₃, hover⟩
  · rintro _ w₂ ⟨m, hm, hover⟩
    refine Prog.yields_pure ?_
    rintro _ rfl
    rw [hm, ← hover]
    rfl

theorem existingProvider_outcome (w : World) (name workspace : String) :
    (SdkGateway.existingProvider name workspace).outcome (World.serve X) w =
      (w, .ok (w.gateway.providers[(workspaceScope workspace).key name]?.map
        (Gateway.providerMessage name))) := by
  have hserve : World.serve X w (.rpc (.getProvider name (workspaceScope workspace))) =
      (w, w.gateway.getProvider ((workspaceScope workspace).key name)) := rfl
  unfold SdkGateway.existingProvider SdkGateway.notFoundIsNone
  rw [Prog.outcome_bind, Prog.outcome_attempt]
  unfold rpc Prog.perform
  simp only [Prog.outcome, hserve, Gateway.getProvider]
  cases hs : w.gateway.providers[(workspaceScope workspace).key name]? <;> rfl

theorem upsertProvider_returns (input : ProviderInput) :
    ((SdkGateway.upsertProvider input).outcome (World.serve X) w).2 = .ok () := by
  unfold SdkGateway.upsertProvider
  rw [Prog.outcome_bind, existingProvider_outcome]
  cases hs : w.gateway.providers[(workspaceScope input.workspace).key input.name]? with
  | none =>
      show (w.gateway.createProvider _ _).2 = _
      rw [Gateway.createProvider_of_none hs]
  | some stored =>
      show (w.gateway.updateProvider _ _).2 = _
      rw [Gateway.updateProvider_of_some hs]

theorem configureAll_returns (planned : List PlannedRefresh)
    (h : (record w name workspace).isSome) :
    ((planned.forM (fun refresh => SdkGateway.configureProviderRefresh
      ⟨name, refresh.credentialKey, refresh.plan, workspace⟩)).outcome (World.serve X) w).2 =
        .ok () := by
  induction planned generalizing w with
  | nil => rfl
  | cons refresh planned ih =>
      obtain ⟨stored, hs, -⟩ := Option.map_eq_some_iff.mp (Option.some_get h).symm
      show (Prog.outcome _ (SdkGateway.configureProviderRefresh _ >>= fun _ => planned.forM _) w).2 = _
      rw [Prog.outcome_bind]
      have hout : (SdkGateway.configureProviderRefresh
          ⟨name, refresh.credentialKey, refresh.plan, workspace⟩).outcome (World.serve X) w =
          ({ w with gateway := (w.gateway.configureProviderRefresh _).1 },
            (w.gateway.configureProviderRefresh _).2) := rfl
      rw [hout, Gateway.configureProviderRefresh_of_some rfl hs]
      refine ih ?_
      exact Option.isSome_of_eq_some (record_insert w _ _ _)

/-- A sync whose calls are all served returns. -/
theorem syncToGateway_returns (name workspace : String) (w : World) (providerType : String)
    (credentials config : StrMap String) :
    ∃ out, ((syncToGateway X name providerType credentials config workspace).outcome
      (World.serve X) w).2 = .ok out := by
  let plan := planOn w.gateway.profiles providerType credentials
  have hup := upsertProvider_returns (X := X) (w := w)
    ⟨name, providerType, plan.staticCredentials, config, workspace⟩
  have hrec : (record ((SdkGateway.upsertProvider
      ⟨name, providerType, plan.staticCredentials, config, workspace⟩).outcome (World.serve X) w).1
        name workspace).isSome := by
    obtain ⟨tr, hs⟩ := Prog.steps_outcome Outage.error (World.serve X) Rely.none
      (SdkGateway.upsertProvider ⟨name, providerType, plan.staticCredentials, config, workspace⟩) w
    rw [hup] at hs
    exact Option.isSome_of_eq_some ((upsertProvider_yields _ _ _).steps hs)
  have hall := configureAll_returns (X := X) plan.refreshes hrec
  refine ⟨⟨hashMaterial X credentials config, plan.mode⟩, ?_⟩
  show (Prog.outcome _ (SdkGateway.upsertProvider
    ⟨name, providerType, plan.staticCredentials, config, workspace⟩ >>= _) w).2 = _
  rw [Prog.outcome_bind, hup]
  show (Prog.outcome _ (plan.refreshes.forM _ >>= _) _).2 = _
  rw [Prog.outcome_bind, hall]
  rfl

end sync

/-! ### Histories of syncs -/

/-- One sync of a provider: what it is given, the profiles the gateway declares at the time,
and how its calls fare; it stops at the first call without a fate. -/
structure Sync where
  providerType : String
  credentials : StrMap String
  config : StrMap String
  profiles : List ProtoProfile
  fates : List (Fate Outage)

namespace Sync
variable (X : Externals) (name workspace : String) (s : Sync)

def plan : ProviderCredentialPlan := planOn s.profiles s.providerType s.credentials

def program : Op SyncOutcome :=
  syncToGateway X name s.providerType s.credentials s.config workspace

/-- The world a sync runs in. -/
def start (w : World) : World := { w with gateway := { w.gateway with profiles := s.profiles } }

def run (w : World) : Op SyncOutcome × World :=
  Prog.exec (World.react X) s.fates (s.program X name workspace) (s.start w)

/-- The same sync with all its calls served. -/
def served (w : World) : World :=
  ((s.program X name workspace).outcome (World.serve X) (s.start w)).1

end Sync

/-- The world after a history of syncs. -/
def history (X : Externals) (name workspace : String) (ss : List Sync) (w : World) : World :=
  ss.foldl (fun w s => (s.run X name workspace w).2) w

section histories
variable {X : Externals} {name workspace : String} {s : Sync}

theorem Sync.run_record {w : World} {out : SyncOutcome}
    (h : (s.run X name workspace w).1.returned = some out) :
    record (s.run X name workspace w).2 name workspace =
      some ⟨s.providerType, s.plan.staticCredentials, s.config,
        overwrite (configured w name workspace) s.plan.refreshes⟩ := by
  have hs := Prog.steps_exec (World.react X) Rely.none s.fates (s.program X name workspace)
    (s.start w)
  rw [show (Prog.exec (World.react X) s.fates (s.program X name workspace) (s.start w)).1 = _
    from Prog.eq_of_returned h] at hs
  have hy := syncToGateway_yields (X := X) (w := s.start w) name workspace s.providerType
    s.credentials s.config
  exact hy.steps hs

theorem Sync.served_record (w : World) :
    record (s.served X name workspace w) name workspace =
      some ⟨s.providerType, s.plan.staticCredentials, s.config,
        overwrite (configured w name workspace) s.plan.refreshes⟩ := by
  obtain ⟨out, hout⟩ := syncToGateway_returns (X := X) name workspace (s.start w) s.providerType
    s.credentials s.config
  obtain ⟨tr, hs⟩ := Prog.steps_outcome Outage.error (World.serve X) Rely.none
    (s.program X name workspace) (s.start w)
  rw [show ((s.program X name workspace).outcome (World.serve X) (s.start w)).2 = _ from hout] at hs
  have hy := syncToGateway_yields (X := X) (w := s.start w) name workspace s.providerType
    s.credentials s.config
  exact hy.steps hs

/-- **A sync forgets the history before it if and only if its plan overwrites every refresh
that was configured.**  After any history, a sync that returns leaves the record that the same
sync leaves on a gateway without the provider exactly when no credential key outside its own
plan has a refresh configured. -/
theorem sync_forgets_iff (ss : List Sync) (w₀ w₁ : World) (habsent : record w₁ name workspace = none)
    (out : SyncOutcome)
    (hok : (s.run X name workspace (history X name workspace ss w₀)).1.returned = some out) :
    record (s.run X name workspace (history X name workspace ss w₀)).2 name workspace =
        record (s.served X name workspace w₁) name workspace ↔
      ∀ key ∈ configured (history X name workspace ss w₀) name workspace,
        key ∈ s.plan.refreshes.map (·.credentialKey) := by
  have hnone : configured w₁ name workspace = ∅ := by simp [configured, habsent]
  rw [Sync.run_record hok, Sync.served_record, hnone, ← overwrite_eq_iff]
  simp

end histories

/-! ### A Secret that loses its seed material -/

namespace Sample

def externals : Externals where
  toYaml _ := .error "unsupported"
  parseSandboxPolicy _ := .error "unsupported"
  digest := Json.text
  digestBytes bytes := String.ofList (bytes.map (fun b => Char.ofNat b.toNat))
  accepts _ _ := true
  printable c := 0x20 ≤ c.toNat && c.toNat < 0x7F

/-- A profile whose one credential is minted from a refresh token. -/
def profile : ProtoProfile :=
  ⟨"vertex", [⟨"token", some ⟨.oauth2RefreshToken, [⟨"refresh_token", true, true⟩]⟩⟩]⟩

/-- A sync of a Secret with one entry, all calls served. -/
def sync (key value : String) : Sync :=
  ⟨"vertex", (∅ : StrMap String).insert key value, ∅, [profile], List.replicate 4 .served⟩

/-- The seed is rotated: the second sync leaves what a first one would. -/
theorem rotated_seed_forgets :
    record ((sync "refresh_token" "new").run externals "vertex" "" (history externals "vertex" ""
        [sync "refresh_token" "old"] {})).2 "vertex" "" =
      record ((sync "refresh_token" "new").served externals "vertex" "" {}) "vertex" "" :=
  (sync_forgets_iff [sync "refresh_token" "old"] {} {} rfl
    ⟨hashMaterial externals ((∅ : StrMap String).insert "refresh_token" "new") ∅, .refresh⟩
    (by decide +kernel)).mpr (by
      have hc : (configured (history externals "vertex" "" [sync "refresh_token" "old"] {})
          "vertex" "").keys = ["token"] := by decide +kernel
      intro key hkey
      rw [← Std.ExtTreeMap.mem_keys, hc] at hkey
      rw [List.mem_singleton.mp hkey]
      decide +kernel)

/-- The seed is replaced by a static value: the old seed stays configured. -/
theorem removed_seed_remembered :
    ((sync "token" "static").run externals "vertex" "" (history externals "vertex" ""
        [sync "refresh_token" "old"] {})).1.returned.isSome ∧
      record ((sync "token" "static").run externals "vertex" "" (history externals "vertex" ""
          [sync "refresh_token" "old"] {})).2 "vertex" "" ≠
        record ((sync "token" "static").served externals "vertex" "" {}) "vertex" "" := by
  constructor <;> decide +kernel

end Sample

end ProviderController
end OpenShell
