import OpenShellOperator.Effects.Watch
import OpenShellOperator.Provider.Reconcile
import OpenShellOperator.Sandbox.Spec
import OpenShellOperator.World

/-! # What triggers a reconcile

The sandbox controller watches policies and queues the sandboxes that refer to a changed one;
the provider controller does so with Secrets.  A sandbox reconcile reads no other policy than
the one its resource refers to, in its own namespace, and a provider reconcile no other Secret;
so the two mappings lose no trigger (`watches_complete`). -/

namespace OpenShell
open Wire Effects

/-- The policy a call reads. -/
def Call.policyRead : Call → Option Key
  | .kube (.getPolicy ns name) => some ⟨ns, name⟩
  | _ => none

/-- The Secret a call reads. -/
def Call.secretRead : Call → Option Key
  | .kube (.getSecret ns name) => some ⟨ns, name⟩
  | _ => none

/-! ### Footprints -/

section footprints
variable {P : Call → Prop}

theorem Op.mapErr_calls {α : Type} {p : Op α} (g : Error → Error) (hp : p.Calls P) :
    (p.mapErr g).Calls P := by
  refine Prog.Calls.bind hp.attempt (fun r => ?_)
  cases r with
  | ok a => exact Prog.calls_pure a
  | error err => exact Prog.calls_fail _

theorem finalizer_calls {kind : Kind} {name : String} {m : ObjectMeta} {apply cleanup : Op Action}
    (hadd : P (.kube (.addFinalizer kind m.key name)))
    (hremove : P (.kube (.removeFinalizer kind m.key name))) (happly : apply.Calls P)
    (hcleanup : cleanup.Calls P) : (finalizer kind name m apply cleanup).Calls P := by
  unfold finalizer
  split
  · exact Op.mapErr_calls _ happly
  · refine Prog.Calls.bind (Op.mapErr_calls _ hcleanup) (fun action => ?_)
    exact Prog.Calls.bind (Op.mapErr_calls _ (Prog.calls_perform hremove))
      (fun _ => Prog.calls_pure action)
  · exact Prog.Calls.bind (Op.mapErr_calls _ (Prog.calls_perform hadd)) (fun _ => Prog.calls_pure _)
  · exact Prog.calls_pure _

theorem recordEvent_within (h : ∀ kind key event, P (.kube (.publish kind key event))) (kind : Kind)
    (key : Key) (event : Event) : (recordEvent kind key event).Calls P :=
  Prog.Calls.bind (Prog.calls_perform (h kind key event)).attempt (fun _ => Prog.calls_pure _)

theorem notFoundIsNone_calls {α : Type} {p : Op (Option α)} (hp : p.Calls P) :
    (SdkGateway.notFoundIsNone p).Calls P := by
  refine Prog.Calls.bind hp.attempt (fun r => ?_)
  cases r with
  | ok found => exact Prog.calls_pure _
  | error err =>
      show Prog.Calls _ (ite _ _ _)
      split_ifs
      · exact Prog.calls_pure _
      · exact Prog.calls_fail _

end footprints

/-! ### Sandboxes and policies -/

namespace SandboxController

/-- The sandbox resolves its policy from the policy of that name. -/
def referencesPolicy (sandbox : OpenShellSandbox) (policyNamespace : Option String)
    (policyName : String) : Bool :=
  sandbox.metadata.namespace_ == policyNamespace && sandbox.spec.policyRef == some policyName

/-- The call reads no policy but one that the sandbox refers to. -/
def ReadsOnly (sandbox : OpenShellSandbox) (c : Call) : Prop :=
  ∀ policy, c.policyRead = some policy → referencesPolicy sandbox (some policy.scope) policy.name

section reads
variable {X : Externals} {ns : String} {sandbox : OpenShellSandbox}

theorem readsOnly_none {c : Call} (h : c.policyRead = none) : ReadsOnly sandbox c := by
  intro policy hpolicy
  rw [h] at hpolicy
  cases hpolicy

/-- Looking after claims, providers and policy reads no policy. -/
theorem convergeProviders_reads (name : String) (desired : List String) (existing : SandboxState)
    (workspace : String) :
    (convergeProviders name desired existing workspace).Calls (ReadsOnly sandbox) := by
  refine Prog.Calls.bind (Prog.Calls.forM _ (fun provider _ => ?_))
    (fun _ => Prog.Calls.forM _ (fun provider _ => ?_))
  · exact Prog.calls_perform (readsOnly_none rfl)
  · exact Prog.calls_perform (readsOnly_none rfl)

theorem ensurePvcs_reads (name : String) (spec : OpenShellSandboxSpec) :
    (ensurePvcs ns name spec).Calls (ReadsOnly sandbox) := by
  refine Prog.Calls.forM _ (fun volume _ => ?_)
  refine Prog.Calls.bind (Prog.calls_perform (readsOnly_none rfl)) (fun found => ?_)
  cases found with
  | none => exact Prog.calls_perform (readsOnly_none rfl)
  | some existing =>
      show Prog.Calls _ (ite _ _ _)
      split_ifs
      · exact Prog.calls_perform (readsOnly_none rfl)
      · exact Prog.calls_pure _

theorem policyRef_of_source {spec : OpenShellSandboxSpec} {policyRef : String}
    (h : selectPolicySource spec = .ok (.ref policyRef)) : spec.policyRef = some policyRef := by
  unfold selectPolicySource at h
  split at h <;> cases h
  assumption

/-- The policy that is fetched is the one the sandbox refers to. -/
theorem fetchSource_reads (hns : sandbox.metadata.namespace_ = some ns) :
    (fetchSource ns sandbox.spec).Calls (ReadsOnly sandbox) := by
  show Prog.Calls _ (Prog.done (selectPolicySource sandbox.spec) >>= _)
  cases hsource : selectPolicySource sandbox.spec with
  | error err => exact Prog.calls_fail err
  | ok source =>
      cases source with
      | none => exact Prog.calls_pure _
      | inline policy => exact Prog.calls_pure _
      | ref policyRef =>
          have hreads : ReadsOnly sandbox (.kube (.getPolicy ns policyRef)) := by
            rintro _ ⟨rfl⟩
            simp [referencesPolicy, hns, policyRef_of_source hsource]
          show Prog.Calls _ (kube (.getPolicy ns policyRef) >>= _)
          refine Prog.Calls.bind (Prog.calls_perform hreads) (fun found => ?_)
          cases found with
          | none => exact Prog.calls_fail _
          | some policy => exact Prog.calls_pure _

theorem updatePolicyIfDrifted_reads (name : String) (policy : Option SandboxPolicy)
    (prior : Option String) (desired : String) :
    (updatePolicyIfDrifted name sandbox policy prior desired).Calls (ReadsOnly sandbox) := by
  cases policy with
  | none => exact Prog.calls_pure _
  | some policy =>
      show Prog.Calls _ (ite _ _ _)
      split_ifs
      · refine Prog.Calls.bind (recordEvent_within (fun _ _ _ => readsOnly_none rfl) _ _ _) (fun _ => ?_)
        refine Prog.Calls.bind (Prog.calls_perform (readsOnly_none rfl)).attempt (fun r => ?_)
        cases r with
        | ok u => exact Prog.calls_pure _
        | error err => exact Prog.calls_fail _
      · exact Prog.calls_pure _

theorem awaitGone_reads (policy : Option SandboxPolicy) : ∀ attempts,
    (awaitGone sandbox.metadata.name sandbox policy attempts).Calls (ReadsOnly sandbox)
  | 0 => Prog.calls_fail _
  | attempts + 1 => by
      refine Prog.Calls.bind (getSandbox_calls (readsOnly_none rfl)) (fun found => ?_)
      cases found with
      | none => exact create_calls (readsOnly_none rfl)
      | some state => exact awaitGone_reads policy attempts

theorem convergeExisting_reads (existing : SandboxState) (resolved : ResolvedPolicy) :
    (convergeExisting X sandbox.metadata.name sandbox existing resolved).Calls (ReadsOnly sandbox) := by
  show Prog.Calls _ (ite _ _ _)
  split_ifs
  · refine Prog.Calls.bind (recordEvent_within (fun _ _ _ => readsOnly_none rfl) _ _ _) (fun _ => ?_)
    refine Prog.Calls.bind ?_ (fun _ => Prog.calls_pure _)
    exact Prog.Calls.bind (Prog.Calls.bind (Prog.calls_perform (readsOnly_none rfl))
      (fun _ => Prog.calls_pure _)) (fun _ => awaitGone_reads resolved.proto _)
  · refine Prog.Calls.bind (convergeProviders_reads _ _ existing _) (fun _ => ?_)
    exact Prog.Calls.bind (updatePolicyIfDrifted_reads _ _ _ _) (fun _ => Prog.calls_pure _)

theorem converge_reads (hns : sandbox.metadata.namespace_ = some ns) :
    (converge X ns sandbox.metadata.name sandbox).Calls (ReadsOnly sandbox) := by
  refine Prog.Calls.bind (Prog.calls_done _) (fun _ => ?_)
  refine Prog.Calls.bind (ensurePvcs_reads _ _) (fun _ => ?_)
  refine Prog.Calls.bind (getSandbox_calls (readsOnly_none rfl)) (fun existing => ?_)
  have hresolve : (resolve X ns sandbox.spec).Calls (ReadsOnly sandbox) :=
    Prog.Calls.bind (fetchSource_reads hns)
      (fun _ => Prog.Calls.bind (Prog.calls_done _) (fun _ => Prog.calls_pure _))
  refine Prog.Calls.bind hresolve.attempt (fun resolved => ?_)
  cases existing with
  | none =>
      cases resolved with
      | ok resolved =>
          exact Prog.Calls.bind (create_calls (readsOnly_none rfl)) (fun _ => Prog.calls_pure _)
      | error err => exact Prog.calls_fail _
  | some existing =>
      cases resolved with
      | ok resolved => exact convergeExisting_reads existing resolved
      | error err =>
          exact Prog.Calls.bind (convergeProviders_reads _ _ existing _) (fun _ => Prog.calls_fail _)

theorem apply_reads (now : Time) : (apply X now sandbox).Calls (ReadsOnly sandbox) := by
  unfold apply
  cases hns : sandbox.metadata.namespace_ with
  | none => exact Prog.calls_fail _
  | some ns =>
      refine Prog.Calls.bind (converge_reads hns).attempt (fun outcome => ?_)
      cases outcome with
      | ok converged =>
          exact Prog.Calls.bind (Prog.calls_perform (readsOnly_none rfl)) (fun _ => Prog.calls_pure _)
      | error err =>
          refine Prog.Calls.bind (recordEvent_within (fun _ _ _ => readsOnly_none rfl) _ _ _) (fun _ => ?_)
          exact Prog.Calls.bind (Prog.calls_perform (readsOnly_none rfl)).attempt
            (fun _ => Prog.calls_fail _)

theorem cleanup_reads : (cleanup sandbox).Calls (ReadsOnly sandbox) := by
  refine Prog.Calls.bind (Prog.Calls.bind (Prog.calls_perform (readsOnly_none rfl))
    (fun _ => Prog.calls_pure _)) (fun _ => ?_)
  show Prog.Calls _ (ite _ _ _)
  split_ifs
  · refine Prog.Calls.bind ?_ (fun _ => Prog.calls_pure _)
    unfold deleteProvisionedVolumes
    split
    · exact Prog.calls_fail _
    · exact Prog.calls_perform (readsOnly_none rfl)
  · exact Prog.calls_pure _

/-- A sandbox reconcile reads no policy but the one its resource refers to. -/
theorem reconcile_reads (now : Time) : (reconcile X now sandbox).Calls (ReadsOnly sandbox) := by
  unfold reconcile
  split
  · exact Prog.calls_fail _
  · exact finalizer_calls (readsOnly_none rfl) (readsOnly_none rfl) (apply_reads now) cleanup_reads

end reads

/-- The sandbox controller, with its watch of policies. -/
def controller (X : Externals) :
    Controller Key Key Call.Answer Error Action World OpenShellSandbox
      (Option OpenShellPolicySpec) (Fate Outage) where
  react := World.react X
  stored w key := w.cluster.sandboxes[key]?
  object w policy := w.cluster.policies[policy]?
  reads := Call.policyRead
  refers sandbox policy := referencesPolicy sandbox (some policy.scope) policy.name
  job sandbox p := ∃ now, p = reconcile X now sandbox
  covered := by
    rintro sandbox _ ⟨now, rfl⟩
    exact reconcile_reads now

end SandboxController

/-! ### Providers and Secrets -/

namespace ProviderController

/-- The provider takes its credentials from the Secret of that name. -/
def referencesSecret (provider : OpenShellProvider) (secretNamespace : Option String)
    (secretName : String) : Bool :=
  provider.metadata.namespace_ == secretNamespace &&
    provider.spec.credentialsSecretRef.name == secretName

/-- The call reads no Secret but the one that the provider refers to. -/
def ReadsOnly (provider : OpenShellProvider) (c : Call) : Prop :=
  ∀ secret, c.secretRead = some secret → referencesSecret provider (some secret.scope) secret.name

section reads
variable {X : Externals} {ns : String} {provider : OpenShellProvider}

theorem readsOnly_none {c : Call} (h : c.secretRead = none) : ReadsOnly provider c := by
  intro secret hsecret
  rw [h] at hsecret
  cases hsecret

theorem resolveCredentials_reads (hns : provider.metadata.namespace_ = some ns) :
    (SecretData.resolveCredentials ns provider.spec.credentialsSecretRef).Calls (ReadsOnly provider) := by
  have hreads : ReadsOnly provider (.kube (.getSecret ns provider.spec.credentialsSecretRef.name)) := by
    rintro _ ⟨rfl⟩
    simp [referencesSecret, hns]
  refine Prog.Calls.bind (Prog.calls_perform hreads) (fun found => ?_)
  cases found with
  | none => exact Prog.calls_fail _
  | some secret =>
      show Prog.Calls _ (ite _ _ _)
      split_ifs
      · exact Prog.calls_fail _
      · exact Prog.calls_done _

theorem upsertProvider_reads (input : ProviderInput) :
    (SdkGateway.upsertProvider input).Calls (ReadsOnly provider) := by
  refine Prog.Calls.bind (notFoundIsNone_calls (Prog.calls_perform (readsOnly_none rfl)))
    (fun existing => ?_)
  cases existing with
  | none => exact Prog.calls_perform (readsOnly_none rfl)
  | some message => exact Prog.calls_perform (readsOnly_none rfl)

theorem syncToGateway_reads (name providerType : String) (credentials config : StrMap String)
    (workspace : String) :
    (syncToGateway X name providerType credentials config workspace).Calls (ReadsOnly provider) := by
  refine Prog.Calls.bind (Prog.Calls.bind (Prog.Calls.bind (Prog.calls_perform (readsOnly_none rfl))
    (fun _ => Prog.calls_pure _)) (fun _ => Prog.calls_pure _)) (fun profile => ?_)
  refine Prog.Calls.bind (upsertProvider_reads _) (fun _ => ?_)
  refine Prog.Calls.bind (Prog.Calls.forM _ (fun refresh _ => ?_)) (fun _ => Prog.calls_pure _)
  exact Prog.calls_perform (readsOnly_none rfl)

theorem apply_reads (now : Time) : (apply X now provider).Calls (ReadsOnly provider) := by
  unfold apply
  cases hns : provider.metadata.namespace_ with
  | none => exact Prog.calls_fail _
  | some ns =>
      have hsync : (syncProvider X provider ns provider.metadata.name).Calls (ReadsOnly provider) :=
        Prog.Calls.bind (resolveCredentials_reads hns) (fun _ => syncToGateway_reads _ _ _ _ _)
      refine Prog.Calls.bind hsync.attempt (fun outcome => ?_)
      cases outcome with
      | ok outcome =>
          exact Prog.Calls.bind (Prog.calls_perform (readsOnly_none rfl)) (fun _ => Prog.calls_pure _)
      | error err =>
          refine Prog.Calls.bind (recordEvent_within (fun _ _ _ => readsOnly_none rfl) _ _ _) (fun _ => ?_)
          exact Prog.Calls.bind (Prog.calls_perform (readsOnly_none rfl)).attempt
            (fun _ => Prog.calls_fail _)

/-- A provider reconcile reads no Secret but the one its resource refers to. -/
theorem reconcile_reads (now : Time) : (reconcile X now provider).Calls (ReadsOnly provider) := by
  unfold reconcile
  split
  · exact Prog.calls_fail _
  · refine finalizer_calls (readsOnly_none rfl) (readsOnly_none rfl) (apply_reads now) ?_
    exact Prog.Calls.bind (Prog.Calls.bind (Prog.calls_perform (readsOnly_none rfl))
      (fun _ => Prog.calls_pure _)) (fun _ => Prog.calls_pure _)

end reads

/-- The provider controller, with its watch of Secrets. -/
def controller (X : Externals) :
    Controller Key Key Call.Answer Error Action World OpenShellProvider (Option Secret)
      (Fate Outage) where
  react := World.react X
  stored w key := w.cluster.providers[key]?
  object w secret := w.cluster.secrets[secret]?
  reads := Call.secretRead
  refers provider secret := referencesSecret provider (some secret.scope) secret.name
  job provider p := ∃ now, p = reconcile X now provider
  covered := by
    rintro provider _ ⟨now, rfl⟩
    exact reconcile_reads now

end ProviderController

/-! ### The result -/

/-- **The watches are complete.**  In every run of the sandbox controller, whatever changes
meanwhile, a sandbox for which nothing is due was last reconciled as it is stored, with its policy
as the cluster has it; and so for every provider and its Secret. -/
theorem watches_complete (X : Externals) (w : World) :
    (∀ t, (SandboxController.controller X).Reach ((SandboxController.controller X).initial w) t →
      ∀ key sandbox, t.world.cluster.sandboxes[key]? = some sandbox → key ∉ t.queue → key ∉ t.news →
        (∀ policy, SandboxController.referencesPolicy sandbox (some policy.scope) policy.name →
          policy ∉ t.notices) →
        t.used key = some sandbox ∧
          ∀ policy found, t.read key policy found → found = t.world.cluster.policies[policy]?) ∧
    ∀ t, (ProviderController.controller X).Reach ((ProviderController.controller X).initial w) t →
      ∀ key provider, t.world.cluster.providers[key]? = some provider → key ∉ t.queue →
        key ∉ t.news →
        (∀ secret, ProviderController.referencesSecret provider (some secret.scope) secret.name →
          secret ∉ t.notices) →
        t.used key = some provider ∧
          ∀ secret found, t.read key secret found → found = t.world.cluster.secrets[secret]? :=
  ⟨fun _ hs _ _ hstored hqueue hnews hnotices => hs.settled hstored hqueue hnews hnotices,
    fun _ hs _ _ hstored hqueue hnews hnotices => hs.settled hstored hqueue hnews hnotices⟩

namespace Sample
open SandboxController

/-- A sandbox with a policy by reference. -/
def referringBox : OpenShellSandbox where
  metadata := { name := "box", namespace_ := some "team", finalizers := [finalizerName] }
  spec := { policyRef := some "base" }

def referringWorld : World where
  cluster :=
    { sandboxes := (∅ : KeyMap OpenShellSandbox).insert ⟨"team", "box"⟩ referringBox
      policies := (∅ : KeyMap OpenShellPolicySpec).insert ⟨"team", "base"⟩ {} }

def boxKey : Key := ⟨"team", "box"⟩

def baseKey : Key := ⟨"team", "base"⟩

/-- The sandbox is delivered, its reconcile is started and has looked up the sandbox and fetched the
policy: it works with the sandbox and the policy as they are. -/
theorem referring_current : ∃ t,
    (controller versionExternals).Reach ((controller versionExternals).initial referringWorld) t ∧
    t.read boxKey baseKey (some {}) ∧ t.used boxKey = some referringBox ∧
      ∀ policy found, t.read boxKey policy found → found = t.world.cluster.policies[policy]? := by
  have hstored : referringWorld.cluster.sandboxes[boxKey]? = some referringBox :=
    (KeyMap.get?_insert ..).trans (if_pos rfl)
  have hpolicy : referringWorld.cluster.policies[baseKey]? = some {} :=
    (KeyMap.get?_insert ..).trans (if_pos rfl)
  obtain ⟨t₁, hreach₁, hwork₁⟩ := Controller.Reach.launch (C := controller versionExternals)
    (p := reconcile versionExternals 0 referringBox) hstored ⟨0, rfl⟩
  obtain ⟨t₂, hreach₂, hwork₂, -⟩ := hreach₁.quiet (f := Fate.served) hwork₁ rfl
  obtain ⟨t₃, hreach₃, hwork₃, hread⟩ := hreach₂.quiet (f := Fate.served) hwork₂ rfl
  have hcurrent := (watches_complete versionExternals referringWorld).1 t₃ hreach₃ boxKey
    referringBox (hwork₃.world ▸ hstored) hwork₃.queue hwork₃.news
    (fun policy _ hnotice => by rw [hwork₃.notices] at hnotice; exact hnotice)
  refine ⟨t₃, hreach₃, ?_, hcurrent⟩
  exact hpolicy ▸ hread baseKey rfl

end Sample
end OpenShell
