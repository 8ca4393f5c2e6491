import OpenShellOperator.GatewaySpec
import OpenShellOperator.Provider.Reconcile

/-! # What a provider reconcile can do

`ApplyCall` are the calls of an apply.  An upsert sends back the metadata that the gateway
returned, so that it names the right provider rests on the gateway's answer and not only on
the program (`apply_safe`). -/

namespace OpenShell
open Wire Effects

namespace ProviderController

/-- The calls of an apply. -/
inductive ApplyCall (ns : String) (provider : OpenShellProvider) : Call → Prop
  | getSecret (name : String) : ApplyCall ns provider (.kube (.getSecret ns name))
  | profiles : ApplyCall ns provider (.rpc .listProviderProfiles)
  | getProvider : ApplyCall ns provider
      (.rpc (.getProvider provider.metadata.name (workspaceScope (workspaceOf provider))))
  | create {message : Provider} : (message.metadata.map (·.name)).getD "" = provider.metadata.name →
      ApplyCall ns provider
        (.rpc (.createProvider message (workspaceScope (workspaceOf provider))))
  | update {message : Provider} : (message.metadata.map (·.name)).getD "" = provider.metadata.name →
      ApplyCall ns provider
        (.rpc (.updateProvider message (workspaceScope (workspaceOf provider))))
  | refresh (credentialKey : String) (plan : RefreshPlan) : ApplyCall ns provider
      (.rpc (.configureProviderRefresh ⟨provider.metadata.name, credentialKey,
        refreshStrategyToProto plan.strategy, plan.material, plan.secretMaterialKeys,
        some (workspaceScope (workspaceOf provider))⟩))
  | status (status : OpenShellProviderStatus) :
      ApplyCall ns provider (.kube (.patchProviderStatus ns provider.metadata.name status))
  | publish (event : Event) :
      ApplyCall ns provider (.kube (.publish .provider provider.metadata.key event))

/-- The delete call. -/
def deleteCall (provider : OpenShellProvider) : Call :=
  .rpc (.deleteProvider provider.metadata.name (workspaceScope (workspaceOf provider)))

section safety
variable {X : Externals} {W : Type}
  {react : W → (c : Call) → Fate Outage → W × Except Error c.Answer} {view : W → World}
  {R : Rely W} {ns : String} {provider : OpenShellProvider}

theorem resolveCredentials_calls (secretRef : SecretRef) :
    (SecretData.resolveCredentials ns secretRef).Calls (ApplyCall ns provider) := by
  refine Prog.Calls.bind (Prog.calls_perform (.getSecret _)) (fun found => ?_)
  cases found with
  | none => exact Prog.calls_fail _
  | some secret =>
      show Prog.Calls _ (ite _ _ _)
      split_ifs
      · exact Prog.calls_fail _
      · exact Prog.calls_done _

theorem findProfile_calls (providerType : String) :
    (findProfile providerType).Calls (ApplyCall ns provider) :=
  Prog.Calls.bind (Prog.Calls.bind (Prog.calls_perform .profiles) (fun _ => Prog.calls_pure _))
    (fun _ => Prog.calls_pure _)

/-- The message an upsert sends names the provider it looked up. -/
theorem upsertProvider_safe (hO : Over (World.react X) react view) (w : W) (providerType : String)
    (credentials config : StrMap String) :
    (SdkGateway.upsertProvider ⟨provider.metadata.name, providerType, credentials, config,
      workspaceOf provider⟩).Safe react R (fun _ => ApplyCall ns provider) (fun _ _ => True) w := by
  refine Prog.Safe.bind (SdkGateway.existingProvider_safe hO (fun w' _ => ⟨.getProvider, ?_⟩))
  intro f w'' _ r hr
  cases r with
  | error err => exact fun _ _ => trivial
  | ok found =>
      have hfound := hr found rfl
      cases found with
      | none => exact (Prog.calls_perform (.create rfl)).safe w''
      | some message =>
          obtain ⟨stored, -, hmessage⟩ := Option.map_eq_some_iff.mp hfound.symm
          rw [← hmessage]
          exact (Prog.calls_perform (.update rfl)).safe w''

theorem syncToGateway_safe (hO : Over (World.react X) react view) (w : W)
    (credentials : StrMap String) :
    (syncToGateway X provider.metadata.name provider.spec.providerType credentials
      provider.spec.config (workspaceOf provider)).Safe react R (fun _ => ApplyCall ns provider)
        (fun _ _ => True) w := by
  refine Prog.Safe.bind_inv (I := fun _ => True) ((findProfile_calls _).safe w)
    (fun profile w₁ _ => ?_) (fun _ _ _ _ _ => trivial)
  refine Prog.Safe.bind_inv (I := fun _ => True) (upsertProvider_safe hO w₁ _ _ _)
    (fun _ w₂ _ => ?_) (fun _ _ _ _ _ => trivial)
  refine Prog.Calls.safe (Prog.Calls.bind (Prog.Calls.forM _ (fun refresh _ => ?_))
    (fun _ => Prog.calls_pure _)) w₂
  exact Prog.calls_perform (.refresh refresh.credentialKey refresh.plan)

theorem syncProvider_safe (hO : Over (World.react X) react view) (w : W) :
    (syncProvider X provider ns provider.metadata.name).Safe react R
      (fun _ => ApplyCall ns provider) (fun _ _ => True) w :=
  Prog.Safe.bind_inv (I := fun _ => True) ((resolveCredentials_calls _).safe w)
    (fun credentials w₁ _ => syncToGateway_safe hO w₁ credentials) (fun _ _ _ _ _ => trivial)

/-- **The calls of an apply**, against the gateway. -/
theorem apply_safe (hO : Over (World.react X) react view) (now : Time)
    (hns : provider.metadata.namespace_ = some ns) (w : W) :
    (apply X now provider).Safe react R (fun _ => ApplyCall ns provider) (fun _ _ => True) w := by
  unfold apply
  rw [hns]
  refine Prog.Safe.bind_inv (I := fun _ => True) (syncProvider_safe hO w).attempt
    (fun outcome w₁ _ => ?_) (fun _ _ _ _ _ => trivial)
  cases outcome with
  | ok outcome =>
      exact (Prog.Calls.bind (Prog.calls_perform (.status _)) (fun _ => Prog.calls_pure _)).safe w₁
  | error err =>
      refine Prog.Calls.safe (Prog.Calls.bind ?_ (fun _ => ?_)) w₁
      · exact Prog.Calls.bind (Prog.calls_perform (.publish _)).attempt (fun _ => Prog.calls_pure _)
      · exact Prog.Calls.bind (Prog.calls_perform (.status _)).attempt (fun _ => Prog.calls_fail _)

end safety
end ProviderController
end OpenShell
