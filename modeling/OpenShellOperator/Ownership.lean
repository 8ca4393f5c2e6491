import OpenShellOperator.Effects.Session
import OpenShellOperator.World
import Mathlib.Tactic.SplitIfs

/-! # Who created what on the gateway

`Rpc.target` is the sandbox or provider of the gateway that a call writes; everything else
stays as it is (`serve_same`).  `Attributed` is the world together with the resource, if any,
during whose reconcile each object was created, and `Attributed.react` what a call made for a
resource does to both. -/

namespace OpenShell
open Wire Effects

/-- A custom resource, by kind, namespace and name. -/
structure ResourceId where
  kind : Kind
  key : Key
deriving DecidableEq, Repr

/-- A sandbox or a provider of the gateway. -/
inductive Object where
  | sandbox (key : Key)
  | provider (key : Key)
deriving DecidableEq, Repr

namespace Gateway

/-- The gateway has the object. -/
def has (g : Gateway) : Object → Bool
  | .sandbox key => g.sandboxes[key]?.isSome
  | .provider key => g.providers[key]?.isSome

/-- The object is the same on both, or on neither. -/
def Same (g g' : Gateway) : Object → Prop
  | .sandbox key => g'.sandboxes[key]? = g.sandboxes[key]?
  | .provider key => g'.providers[key]? = g.providers[key]?

end Gateway

/-- The object a call creates, changes or deletes. -/
def Rpc.target : Rpc → Option Object
  | .createSandbox request => some (.sandbox (Gateway.requestKey request))
  | .deleteSandbox name scope => some (.sandbox (scope.key name))
  | .attachSandboxProvider sandbox _ scope => some (.sandbox (scope.key sandbox))
  | .detachSandboxProvider sandbox _ scope => some (.sandbox (scope.key sandbox))
  | .updateConfig request =>
      some (.sandbox ⟨(request.workspaceScope.map (·.workspace)).getD "", request.sandbox⟩)
  | .createProvider provider scope => some (.provider (Gateway.providerKey provider scope))
  | .updateProvider provider scope => some (.provider (Gateway.providerKey provider scope))
  | .deleteProvider name scope => some (.provider (scope.key name))
  | .configureProviderRefresh request =>
      some (.provider ⟨(request.workspaceScope.map (·.workspace)).getD "", request.provider⟩)
  | _ => none

def Call.target : Call → Option Object
  | .rpc r => r.target
  | .kube _ => none

/-! ### A call writes its target only -/

namespace Gateway

/-- Only the sandbox under `key` changes. -/
def SandboxOnly (key : Key) (g g' : Gateway) : Prop :=
  (∀ k, k ≠ key → g'.sandboxes[k]? = g.sandboxes[k]?) ∧ g'.providers = g.providers

/-- Only the provider under `key` changes. -/
def ProviderOnly (key : Key) (g g' : Gateway) : Prop :=
  (∀ k, k ≠ key → g'.providers[k]? = g.providers[k]?) ∧ g'.sandboxes = g.sandboxes

section frame
variable {g g' : Gateway} {key : Key} {o : Object}

theorem SandboxOnly.refl : SandboxOnly key g g := ⟨fun _ _ => rfl, rfl⟩

theorem ProviderOnly.refl : ProviderOnly key g g := ⟨fun _ _ => rfl, rfl⟩

theorem SandboxOnly.same (h : SandboxOnly key g g') (ho : o ≠ .sandbox key) : Same g g' o := by
  cases o with
  | sandbox k => exact h.1 k (fun hk => ho (congrArg Object.sandbox hk))
  | provider k => exact congrArg (·[k]?) h.2

theorem ProviderOnly.same (h : ProviderOnly key g g') (ho : o ≠ .provider key) : Same g g' o := by
  cases o with
  | sandbox k => exact congrArg (·[k]?) h.2
  | provider k => exact h.1 k (fun hk => ho (congrArg Object.provider hk))

theorem sandboxOnly_insert (s : GatewaySandbox) (n : ℕ) :
    SandboxOnly key g { g with sandboxes := g.sandboxes.insert key s, nextId := n } :=
  ⟨fun k hk => by rw [KeyMap.get?_insert, if_neg hk.symm], rfl⟩

theorem providerOnly_insert (p : GatewayProvider) (n : ℕ) :
    ProviderOnly key g { g with providers := g.providers.insert key p, nextId := n } :=
  ⟨fun k hk => by rw [KeyMap.get?_insert, if_neg hk.symm], rfl⟩

theorem createSandbox_only (request : CreateSandboxRequest) :
    SandboxOnly (requestKey request) g (g.createSandbox request).1 := by
  unfold createSandbox
  split
  · exact .refl
  · exact sandboxOnly_insert _ _

theorem deleteSandbox_only : SandboxOnly key g (g.deleteSandbox key).1 := by
  unfold deleteSandbox
  split
  · exact sandboxOnly_insert _ _
  · exact .refl

theorem modifySandbox_only {f : GatewaySandbox → Except Error GatewaySandbox} :
    SandboxOnly key g (g.modifySandbox key f).1 := by
  unfold modifySandbox
  split
  · exact .refl
  · split
    · exact sandboxOnly_insert _ _
    · exact .refl

theorem createProvider_only (provider : Provider) (scope : WorkspaceSelector) :
    ProviderOnly (providerKey provider scope) g (g.createProvider provider scope).1 := by
  simp only [createProvider]
  split
  · exact .refl
  · exact providerOnly_insert _ _

theorem updateProvider_only (provider : Provider) (scope : WorkspaceSelector) :
    ProviderOnly (providerKey provider scope) g (g.updateProvider provider scope).1 := by
  simp only [updateProvider]
  split
  · exact .refl
  · exact providerOnly_insert _ _

theorem deleteProvider_only : ProviderOnly key g (g.deleteProvider key).1 := by
  unfold deleteProvider
  split
  · exact ⟨fun k hk => by rw [KeyMap.get?_erase, if_neg hk.symm], rfl⟩
  · exact .refl

theorem configureProviderRefresh_only (request : ConfigureProviderRefreshRequest) :
    ProviderOnly ⟨(request.workspaceScope.map (·.workspace)).getD "", request.provider⟩ g
      (g.configureProviderRefresh request).1 := by
  simp only [configureProviderRefresh]
  split
  · exact .refl
  · exact providerOnly_insert _ _

theorem modifyMembers_same {name : String}
    {f : StrMap WorkspaceRole → Except Error (StrMap WorkspaceRole)} :
    Same g (g.modifyMembers name f).1 o := by
  unfold modifyMembers
  cases o <;> split <;> first | rfl | (split <;> rfl)

theorem createWorkspace_same {name : String} {labels : StrMap String} :
    Same g (g.createWorkspace name labels).1 o := by
  unfold createWorkspace
  cases o <;> split <;> rfl

theorem deleteWorkspace_same {name : String} : Same g (g.deleteWorkspace name).1 o := by
  unfold deleteWorkspace
  cases o <;> split <;> first | rfl | (split_ifs <;> rfl)

/-- **Frame.**  A call leaves every object but its target alone. -/
theorem serve_same (accepts : Option SandboxPolicy → SandboxPolicy → Bool) {r : Rpc}
    (h : r.target ≠ some o) : Same g (g.serve accepts r).1 o := by
  have hne : ∀ {o'}, r.target = some o' → o ≠ o' := fun hr he => h (he ▸ hr)
  have hself : Same g g o := by cases o <;> rfl
  cases r with
  | createSandbox request => exact (createSandbox_only request).same (hne rfl)
  | deleteSandbox name scope => exact deleteSandbox_only.same (hne rfl)
  | attachSandboxProvider sandbox provider scope => exact modifySandbox_only.same (hne rfl)
  | detachSandboxProvider sandbox provider scope => exact modifySandbox_only.same (hne rfl)
  | updateConfig request => exact modifySandbox_only.same (hne rfl)
  | createProvider provider scope => exact (createProvider_only provider scope).same (hne rfl)
  | updateProvider provider scope => exact (updateProvider_only provider scope).same (hne rfl)
  | deleteProvider name scope => exact deleteProvider_only.same (hne rfl)
  | configureProviderRefresh request =>
      exact (configureProviderRefresh_only request).same (hne rfl)
  | createWorkspace name labels => exact createWorkspace_same
  | deleteWorkspace name => exact deleteWorkspace_same
  | addWorkspaceMember scope subject role => exact modifyMembers_same
  | removeWorkspaceMember scope subject => exact modifyMembers_same
  | _ => exact hself

theorem Same.has (h : Same g g' o) : g'.has o = g.has o := by
  cases o with
  | sandbox key => exact congrArg Option.isSome h
  | provider key => exact congrArg Option.isSome h

end frame
end Gateway

theorem World.serve_same (X : Externals) (w : World) {c : Call} {o : Object}
    (h : c.target ≠ some o) : w.gateway.Same (World.serve X w c).1.gateway o := by
  cases c with
  | rpc r => exact Gateway.serve_same X.accepts h
  | kube k => cases o <;> rfl

theorem World.react_same (X : Externals) (w : World) {c : Call} {o : Object}
    (h : c.target ≠ some o) (f : Fate Outage) :
    w.gateway.Same (World.react X w c f).1.gateway o := by
  rcases respond_world Outage.error (World.serve X) w c f with hw | hw
  · rw [World.react, hw]
    cases o <;> rfl
  · rw [World.react, hw]
    exact World.serve_same X w h

/-! ### Creators -/

/-- The world, and the resource during whose reconcile each object was created. -/
structure Attributed where
  world : World
  creator : Object → Option ResourceId

namespace Attributed

/-- A world in which nothing is known to be created by a resource. -/
def unclaimed (w : World) : Attributed := ⟨w, fun _ => none⟩

/-- What appears is created by `i`; what was there keeps its creator. -/
def after (a : Attributed) (i : ResourceId) (w : World) : Attributed where
  world := w
  creator o :=
    if w.gateway.has o then if a.world.gateway.has o then a.creator o else some i else none

/-- A call made for the resource `i`. -/
def react (X : Externals) (i : ResourceId) (a : Attributed) (c : Call) (f : Fate Outage) :
    Attributed × Except Error c.Answer :=
  (a.after i (World.react X a.world c f).1, (World.react X a.world c f).2)

theorem over_react (X : Externals) (i : ResourceId) :
    Over (World.react X) (react X i) Attributed.world :=
  ⟨fun _ _ _ => rfl, fun _ _ _ => rfl⟩

/-- What a resource is the creator of after a call was made for `i`: what it was before and is
still there, or the target of the call that `i` has just created. -/
theorem creator_react {X : Externals} {i j : ResourceId} {a : Attributed} {c : Call}
    {f : Fate Outage} {o : Object} (h : (react X i a c f).1.creator o = some j) :
    (a.creator o = some j ∧ a.world.gateway.has o) ∨
      (j = i ∧ c.target = some o ∧ a.world.gateway.has o = false) := by
  have hcreator : (if (World.react X a.world c f).1.gateway.has o then
      if a.world.gateway.has o then a.creator o else some i else none) = some j := h
  split_ifs at hcreator with hnew hold
  · exact .inl ⟨hcreator, hold⟩
  · refine .inr ⟨(Option.some.inj hcreator).symm, ?_, by simpa using hold⟩
    by_contra htarget
    rw [(World.react_same X a.world htarget f).has] at hnew
    exact hold hnew

end Attributed
end OpenShell
