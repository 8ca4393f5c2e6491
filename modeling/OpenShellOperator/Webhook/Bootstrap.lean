import OpenShellOperator.Effects.Threads
import OpenShellOperator.Kube
import OpenShellOperator.Wire.Base64
import OpenShellOperator.Wire.Key
import OpenShellOperator.Wire.Merge

/-! # The serving certificate of the webhook

On start a replica looks its serving certificate up in a Secret, or generates one and stores it,
adopting the one of a peer that was first; then it injects the CA into both webhook
configurations.  The API server creates a Secret only if there is none, and nothing else writes
it.

Any number of replicas start in any interleaving of their calls, each with a certificate of its
own.  `replicas_serve_one_ca`: they all hold the one that is stored, and once one of them has
injected the CA, both configurations carry the CA of that one. -/

namespace OpenShell.Webhook
open Wire Effects

/-! ### Certificates and Secrets -/

structure Config where
  listen : String
  namespace_ : String
  service : String
  secret : String
  mutatingConfig : String
  validatingConfig : String
  wrapper : List String
deriving DecidableEq, Repr

structure CertBundle where
  cert : String
  key : String
  ca : String
deriving DecidableEq, Repr

def asBytes (s : String) : List UInt8 := s.toUTF8.data.toList

def fromUtf8 (bytes : List UInt8) : Option String := String.fromUTF8? ⟨bytes.toArray⟩

theorem fromUtf8_asBytes (s : String) : fromUtf8 (asBytes s) = some s := by
  have hbytes : (⟨(asBytes s).toArray⟩ : ByteArray) = s.toByteArray := by
    simp [asBytes]
  rw [fromUtf8, hbytes, String.fromUTF8?, dif_pos s.isValidUTF8]
  rfl

/-- The bundle in a Secret that has all three keys. -/
def readBundle (secret : Secret) : Option CertBundle := do
  let data ← secret.data
  let value := fun key : String => data[key]?.bind fromUtf8
  let cert ← value "tls.crt"
  let key ← value "tls.key"
  let ca ← value "ca.crt"
  some ⟨cert, key, ca⟩

/-- A Secret as it is handed to the API server. -/
structure NewSecret where
  name : String
  namespace_ : String
  stringData : StrMap String

/-- The server stores string data as bytes. -/
def NewSecret.stored (secret : NewSecret) : Secret :=
  ⟨none, some (secret.stringData.map (fun _ text => asBytes text))⟩

/-- The Secret of a generated bundle. -/
def certSecret (config : Config) (bundle : CertBundle) : NewSecret where
  name := config.secret
  namespace_ := config.namespace_
  stringData := (((∅ : StrMap String).insert "tls.crt" bundle.cert).insert "tls.key"
    bundle.key).insert "ca.crt" bundle.ca

/-- A stored bundle is read back. -/
theorem readBundle_stored (config : Config) (bundle : CertBundle) :
    readBundle (certSecret config bundle).stored = some bundle := by
  simp [readBundle, NewSecret.stored, certSecret, Std.ExtTreeMap.getElem_insert, fromUtf8_asBytes]

/-! ### Patches of the webhook configurations -/

def mutatingWebhookName : String := "exec.openshell.lenshq.io"

def validatingWebhookName : String := "guard.openshell.lenshq.io"

/-- The patch that sets the `caBundle` of one named webhook. -/
def caBundlePatch (webhookName caBundle : String) : Json :=
  .ofPairs [("webhooks", .arr [.ofPairs
    [("name", .str webhookName), ("clientConfig", .ofPairs [("caBundle", .str caBundle)])]])]

/-- The `caBundle` of the named webhook in a configuration. -/
def caBundleOf (webhookName : String) (configuration : Json) : Option Json := do
  let webhook ← Json.findItem "name" webhookName (Json.itemsOf "webhooks" configuration)
  let clientConfig ← webhook.get? "clientConfig"
  clientConfig.get? "caBundle"

/-- The one webhook of the patch, its fields in key order. -/
def caBundleItem (webhookName caBundle : String) : Json :=
  .obj [("clientConfig", .obj [("caBundle", .str caBundle)]), ("name", .str webhookName)]

theorem itemsOf_caBundlePatch (webhookName caBundle : String) :
    Json.itemsOf "webhooks" (caBundlePatch webhookName caBundle) =
      [caBundleItem webhookName caBundle] := by
  have hlt : "clientConfig" < "name" := by decide
  simp [caBundlePatch, caBundleItem, Json.itemsOf, Json.ofPairs, Json.insert, Json.get?, Json.find,
    hlt]

/-- After the patch the named webhook carries the new `caBundle`. -/
theorem caBundleOf_patch (webhookName caBundle : String) (configuration : Json) :
    caBundleOf webhookName (Json.strategicMerge "name" "webhooks" configuration
      (caBundlePatch webhookName caBundle)) = some (.str caBundle) := by
  have hkeep : ∀ item, Json.keyOf "name" (Json.mergePatch item (caBundleItem webhookName caBundle)) =
      some webhookName := by
    intro item
    simp [caBundleItem, Json.keyOf, Json.mergePatch, Json.mergeFields, Json.get?, Json.find_insert]
  rw [caBundleOf, Json.itemsOf_strategicMerge, itemsOf_caBundlePatch, List.foldl_cons,
    List.foldl_nil, Json.findItem_mergeItem rfl hkeep]
  simp [caBundleItem, Json.mergePatch, Json.mergeFields, Json.get?, Json.find_insert]

/-! ### Bootstrap -/

/-- Why a start failed, with the context that was added on the way. -/
inductive Failure where
  | kube (err : KubeError)
  | message (text : String)
  | context (text : String) (cause : Failure)
deriving DecidableEq, Repr

/-- The server answered that the object is already there. -/
def Failure.isConflict : Failure → Bool
  | kube err => err.isConflict
  | _ => false

structure RustlsConfig where
  cert : List UInt8
  key : List UInt8
deriving DecidableEq, Repr

structure Prepared where
  addr : String
  tls : RustlsConfig
  wrapper : List String
deriving DecidableEq, Repr

/-- Code outside the webhook: socket addresses from text, and TLS from PEM. -/
structure ServerLibrary where
  parseAddr : String → Except String String
  fromPem : List UInt8 → List UInt8 → Except String RustlsConfig

/-- What a start asks of the API server; that a bundle is held and that a message is logged
concern the replica alone. -/
inductive BootCall where
  | getOptSecret (namespace_ name : String)
  | getSecret (namespace_ name : String)
  | createSecret (secret : NewSecret)
  | patchMutating (name : String) (patch : Json)
  | patchValidating (name : String) (patch : Json)
  | hold (bundle : CertBundle)
  | info (message : String)

namespace BootCall

def Answer : BootCall → Type
  | getOptSecret _ _ => Option Secret
  | getSecret _ _ => Secret
  | createSecret _ | patchMutating _ _ | patchValidating _ _ | hold _ | info _ => Unit

/-- The call stays inside the process, and cannot fail. -/
def isLocal : BootCall → Bool
  | hold _ | info _ => true
  | _ => false

end BootCall

abbrev BootOp := Prog BootCall.Answer Failure

section program

def getOptSecret (namespace_ name : String) : BootOp (Option Secret) :=
  Prog.perform (BootCall.getOptSecret namespace_ name)

def getSecret (namespace_ name : String) : BootOp Secret :=
  Prog.perform (BootCall.getSecret namespace_ name)

def createSecret (secret : NewSecret) : BootOp Unit := Prog.perform (BootCall.createSecret secret)

def patchMutating (name : String) (patch : Json) : BootOp Unit :=
  Prog.perform (BootCall.patchMutating name patch)

def patchValidating (name : String) (patch : Json) : BootOp Unit :=
  Prog.perform (BootCall.patchValidating name patch)

def hold (bundle : CertBundle) : BootOp Unit := Prog.perform (BootCall.hold bundle)

def info (message : String) : BootOp Unit := Prog.perform (BootCall.info message)

/-- Name the step that failed. -/
def withContext {α : Type} (text : String) (p : BootOp α) : BootOp α := do
  match ← p.attempt with
  | .ok a => pure a
  | .error cause => Prog.fail (.context text cause)

/-- The bundle in a Secret of a peer. -/
def adopt (secret : Secret) : BootOp CertBundle :=
  match readBundle secret with
  | some bundle => pure bundle
  | none =>
      Prog.fail (.message "peer-created webhook secret is missing tls.crt/tls.key/ca.crt")

/-- Store the generated bundle; if a peer was first, its bundle is taken. -/
def storeCert (config : Config) (bundle : CertBundle) : BootOp CertBundle := do
  match ← (createSecret (certSecret config bundle)).attempt with
  | .ok _ =>
      info "generated webhook serving cert"
      pure bundle
  | .error err =>
      if err.isConflict then
        let existing ← getSecret config.namespace_ config.secret
        adopt existing
      else Prog.fail err

/-- The serving certificate: the stored one, or else `generated`. -/
def ensureCert (config : Config) (generated : Except Failure CertBundle) : BootOp CertBundle := do
  let existing ← getOptSecret config.namespace_ config.secret
  match existing.bind readBundle with
  | some bundle =>
      info "reusing existing webhook serving cert"
      pure bundle
  | none =>
      match generated with
      | .error err => Prog.fail err
      | .ok bundle => storeCert config bundle

def injectedMessage : String := "injected webhook caBundle"

/-- Set the `caBundle` of both webhook configurations. -/
def injectCa (config : Config) (caPem : String) : BootOp Unit := do
  let caBundle := Base64.encode (asBytes caPem)
  withContext ("injecting caBundle into " ++ config.mutatingConfig)
    (patchMutating config.mutatingConfig (caBundlePatch mutatingWebhookName caBundle))
  withContext ("injecting caBundle into " ++ config.validatingConfig)
    (patchValidating config.validatingConfig (caBundlePatch validatingWebhookName caBundle))
  info injectedMessage

/-- Start the webhook: certificate, CA injection, address and TLS. -/
def bootstrap (L : ServerLibrary) (config : Config) (generated : Except Failure CertBundle) :
    BootOp Prepared := do
  let bundle ← ensureCert config generated
  hold bundle
  injectCa config bundle.ca
  match L.parseAddr config.listen with
  | .error cause =>
      Prog.fail (.context ("invalid OPENSHELL_WEBHOOK_LISTEN: " ++ config.listen) (.message cause))
  | .ok addr =>
      match L.fromPem (asBytes bundle.cert) (asBytes bundle.key) with
      | .error cause => Prog.fail (.context "building webhook TLS config" (.message cause))
      | .ok tls =>
          info "admission webhook ready"
          pure ⟨addr, tls, config.wrapper⟩

end program

/-! ### The API server and the replicas -/

/-- The Secrets and webhook configurations of the cluster, the bundle that each replica holds,
and the messages logged. -/
structure BootWorld (ι : Type) where
  secrets : KeyMap Secret := ∅
  mutating : StrMap Json := ∅
  validating : StrMap Json := ∅
  held : ι → Option CertBundle := fun _ => none
  log : List (ι × String) := []

/-- Patch a webhook configuration; `valid` is the server's validation of the result. -/
def patchConfiguration (valid : Json → Bool) (configurations : StrMap Json) (name : String)
    (patch : Json) : StrMap Json × Except Failure Unit :=
  match configurations[name]? with
  | none => (configurations, .error (.kube (.api 404 "not found")))
  | some configuration =>
      let merged := Json.strategicMerge "name" "webhooks" configuration patch
      if valid merged then (configurations.insert name merged, .ok ())
      else (configurations, .error (.kube (.api 422 "invalid")))

section world
variable {ι : Type} [DecidableEq ι] (valid : Json → Bool)

/-- What a served call of replica `i` does. -/
def BootWorld.serve (i : ι) (w : BootWorld ι) :
    (c : BootCall) → BootWorld ι × Except Failure c.Answer
  | .getOptSecret ns name => (w, .ok w.secrets[(⟨ns, name⟩ : Key)]?)
  | .getSecret ns name =>
      (w, match w.secrets[(⟨ns, name⟩ : Key)]? with
        | some secret => .ok secret
        | none => .error (.kube (.api 404 "not found")))
  | .createSecret secret =>
      match w.secrets[(⟨secret.namespace_, secret.name⟩ : Key)]? with
      | some _ => (w, .error (.kube (.api 409 "already exists")))
      | none =>
          ({ w with secrets := w.secrets.insert ⟨secret.namespace_, secret.name⟩ secret.stored },
            .ok ())
  | .patchMutating name patch =>
      let r := patchConfiguration valid w.mutating name patch
      ({ w with mutating := r.1 }, r.2)
  | .patchValidating name patch =>
      let r := patchConfiguration valid w.validating name patch
      ({ w with validating := r.1 }, r.2)
  | .hold bundle => ({ w with held := Function.update w.held i (some bundle) }, .ok ())
  | .info message => ({ w with log := w.log ++ [(i, message)] }, .ok ())

/-- Calls to the API server may fail, with or without effect. -/
def BootWorld.react (i : ι) (w : BootWorld ι) (c : BootCall) (f : Fate KubeError) :
    BootWorld ι × Except Failure c.Answer :=
  respond Failure.kube (BootWorld.serve valid i) w c (if c.isLocal then .served else f)

/-- A replica starts, and generates some bundle when it needs one. -/
def starts (L : ServerLibrary) (config : Config) (_ : ι) (_ : BootWorld ι) (p : BootOp Prepared) :
    Prop :=
  ∃ generated, p = bootstrap L config generated

end world

/-! ### What is stored, and what is trusted -/

section state
variable {ι : Type} (config : Config)

def Config.secretKey : Key := ⟨config.namespace_, config.secret⟩

/-- The bundle is the one in the Secret. -/
def BootWorld.Stores (w : BootWorld ι) (bundle : CertBundle) : Prop :=
  ∃ secret, w.secrets[config.secretKey]? = some secret ∧ readBundle secret = some bundle

def BootWorld.mutatingCa (w : BootWorld ι) : Option Json :=
  w.mutating[config.mutatingConfig]?.bind (caBundleOf mutatingWebhookName)

def BootWorld.validatingCa (w : BootWorld ι) : Option Json :=
  w.validating[config.validatingConfig]?.bind (caBundleOf validatingWebhookName)

/-- The CA of a bundle as a `caBundle`. -/
def CertBundle.caBundle (bundle : CertBundle) : Json := .str (Base64.encode (asBytes bundle.ca))

/-- Everything else in the cluster may change, but nobody else writes the Secret or a
`caBundle`. -/
structure BootWorld.Env (w w' : BootWorld ι) : Prop where
  secret : w'.secrets[config.secretKey]? = w.secrets[config.secretKey]?
  mutating : w'.mutatingCa config = w.mutatingCa config
  validating : w'.validatingCa config = w.validatingCa config
  held : w'.held = w.held
  log : w'.log = w.log

/-- What happens while a replica starts: a stored bundle stays, and a `caBundle` that is the CA
of the stored bundle stays so. -/
structure BootWorld.Later (w w' : BootWorld ι) : Prop where
  secret : ∀ secret, w.secrets[config.secretKey]? = some secret →
    w'.secrets[config.secretKey]? = some secret
  mutating : ∀ bundle, w.Stores config bundle → w.mutatingCa config = some bundle.caBundle →
    w'.mutatingCa config = some bundle.caBundle
  validating : ∀ bundle, w.Stores config bundle → w.validatingCa config = some bundle.caBundle →
    w'.validatingCa config = some bundle.caBundle

/-- The bundle is the stored one, and both webhook configurations carry its CA. -/
structure BootWorld.Trusts (w : BootWorld ι) (bundle : CertBundle) : Prop where
  stored : w.Stores config bundle
  mutating : w.mutatingCa config = some bundle.caBundle
  validating : w.validatingCa config = some bundle.caBundle

/-- When a replica makes a call: it holds and injects only the stored bundle, and logs the
injection only when both configurations carry its CA. -/
def Guarantee (w : BootWorld ι) : BootCall → Prop
  | .patchMutating _ patch => ∃ bundle, w.Stores config bundle ∧
      patch = caBundlePatch mutatingWebhookName (Base64.encode (asBytes bundle.ca))
  | .patchValidating _ patch => ∃ bundle, w.Stores config bundle ∧
      patch = caBundlePatch validatingWebhookName (Base64.encode (asBytes bundle.ca))
  | .hold bundle => w.Stores config bundle
  | .info message => message = injectedMessage → ∃ bundle, w.Trusts config bundle
  | _ => True

/-- The invariant of all runs. -/
structure BootWorld.Inv (w : BootWorld ι) : Prop where
  held : ∀ i bundle, w.held i = some bundle → w.Stores config bundle
  injected : ∀ i, (i, injectedMessage) ∈ w.log → ∃ bundle, w.Trusts config bundle

variable {config} {w w' w'' : BootWorld ι} {bundle bundle' : CertBundle}

/-- There is one stored bundle. -/
theorem BootWorld.Stores.unique (h : w.Stores config bundle) (h' : w.Stores config bundle') :
    bundle = bundle' := by
  obtain ⟨secret, hsecret, hread⟩ := h
  obtain ⟨secret', hsecret', hread'⟩ := h'
  rw [hsecret, Option.some.injEq] at hsecret'
  rw [hsecret', hread', Option.some.injEq] at hread
  exact hread.symm

theorem BootWorld.Stores.later (h : w.Stores config bundle) (hl : w.Later config w') :
    w'.Stores config bundle := by
  obtain ⟨secret, hsecret, hread⟩ := h
  exact ⟨secret, hl.secret secret hsecret, hread⟩

theorem BootWorld.Trusts.later (h : w.Trusts config bundle) (hl : w.Later config w') :
    w'.Trusts config bundle :=
  ⟨h.stored.later hl, hl.mutating bundle h.stored h.mutating,
    hl.validating bundle h.stored h.validating⟩

theorem BootWorld.Later.refl (w : BootWorld ι) : w.Later config w :=
  ⟨fun _ h => h, fun _ _ h => h, fun _ _ h => h⟩

theorem BootWorld.Later.trans (h : w.Later config w') (h' : w'.Later config w'') :
    w.Later config w'' where
  secret secret hs := h'.secret secret (h.secret secret hs)
  mutating bundle hs hm := h'.mutating bundle (hs.later h) (h.mutating bundle hs hm)
  validating bundle hs hv := h'.validating bundle (hs.later h) (h.validating bundle hs hv)

def BootWorld.later (config : Config) : Rely (BootWorld ι) :=
  ⟨BootWorld.Later config, BootWorld.Later.refl, BootWorld.Later.trans⟩

theorem BootWorld.Env.later (h : w.Env config w') : w.Later config w' where
  secret secret hs := by rw [h.secret, hs]
  mutating bundle _ hm := by rw [h.mutating, hm]
  validating bundle _ hv := by rw [h.validating, hv]

theorem BootWorld.Inv.env (hw : w.Inv config) (h : w.Env config w') :
    w'.Inv config where
  held j bundle hj := (hw.held j bundle (h.held ▸ hj)).later h.later
  injected j hj := (hw.injected j (h.log ▸ hj)).imp (fun _ htrusts => htrusts.later h.later)

end state

/-! ### What a call does -/

section calls
variable {ι : Type} [DecidableEq ι] (valid : Json → Bool) {config : Config} {i : ι}
  {w : BootWorld ι} {c : BootCall}

/-- After a patch, a configuration that had the new `caBundle` has it still, and the patched one
has it if the patch was accepted. -/
theorem patchConfiguration_ca (configurations : StrMap Json) (name target webhookName text : String) :
    let r := patchConfiguration valid configurations name (caBundlePatch webhookName text)
    (configurations[target]?.bind (caBundleOf webhookName) = some (.str text) →
      r.1[target]?.bind (caBundleOf webhookName) = some (.str text)) ∧
    (r.2 = .ok () → r.1[name]?.bind (caBundleOf webhookName) = some (.str text)) := by
  unfold patchConfiguration
  cases hstored : configurations[name]? with
  | none => exact ⟨id, nofun⟩
  | some configuration =>
      have hca := caBundleOf_patch webhookName text configuration
      dsimp only
      split_ifs with hvalid
      · constructor
        · intro hbefore
          rw [Std.ExtTreeMap.getElem?_insert]
          split_ifs with hname
          · exact hca
          · exact hbefore
        · intro _
          rw [Std.ExtTreeMap.getElem?_insert_self]
          exact hca
      · exact ⟨id, nofun⟩

/-- A call under the guarantee is interference that every replica is prepared for. -/
theorem serve_later (hc : Guarantee config w c) : w.Later config (w.serve valid i c).1 := by
  cases c with
  | getOptSecret ns name => exact BootWorld.Later.refl w
  | getSecret ns name => exact BootWorld.Later.refl w
  | createSecret secret =>
      simp only [BootWorld.serve]
      split
      · exact BootWorld.Later.refl w
      · rename_i hnone
        refine ⟨fun stored hstored => ?_, fun _ _ h => h, fun _ _ h => h⟩
        rw [KeyMap.get?_insert]
        split_ifs with hkey
        · rw [← hkey, hnone] at hstored
          cases hstored
        · exact hstored
  | patchMutating name patch =>
      obtain ⟨bundle, hstores, rfl⟩ := hc
      refine ⟨fun _ h => h, fun bundle' hstores' hca => ?_, fun _ _ h => h⟩
      obtain rfl := hstores.unique hstores'
      exact (patchConfiguration_ca valid w.mutating name config.mutatingConfig mutatingWebhookName
        (Base64.encode (asBytes bundle.ca))).1 hca
  | patchValidating name patch =>
      obtain ⟨bundle, hstores, rfl⟩ := hc
      refine ⟨fun _ h => h, fun _ _ h => h, fun bundle' hstores' hca => ?_⟩
      obtain rfl := hstores.unique hstores'
      exact (patchConfiguration_ca valid w.validating name config.validatingConfig
        validatingWebhookName (Base64.encode (asBytes bundle.ca))).1 hca
  | hold bundle => exact ⟨fun _ h => h, fun _ _ h => h, fun _ _ h => h⟩
  | info message => exact ⟨fun _ h => h, fun _ _ h => h, fun _ _ h => h⟩

/-- What a replica holds afterwards is what it held, or the stored bundle. -/
theorem serve_held (hw : w.Inv config) (hc : Guarantee config w c) :
    ∀ j bundle, (w.serve valid i c).1.held j = some bundle → w.Stores config bundle := by
  intro j bundle hj
  cases c with
  | hold bundle' =>
      simp only [BootWorld.serve] at hj
      rcases eq_or_ne j i with rfl | hne
      · rw [Function.update_self, Option.some.injEq] at hj
        exact hj ▸ hc
      · rw [Function.update_of_ne hne] at hj
        exact hw.held j bundle hj
  | createSecret secret =>
      simp only [BootWorld.serve] at hj
      split at hj <;> exact hw.held j bundle hj
  | _ => exact hw.held j bundle hj

/-- The injection is logged only when both configurations carry the CA. -/
theorem serve_injected (hw : w.Inv config) (hc : Guarantee config w c) :
    ∀ j, (j, injectedMessage) ∈ (w.serve valid i c).1.log → ∃ bundle, w.Trusts config bundle := by
  intro j hj
  cases c with
  | info message =>
      simp only [BootWorld.serve, List.mem_append, List.mem_singleton, Prod.mk.injEq] at hj
      rcases hj with hj | ⟨-, rfl⟩
      · exact hw.injected j hj
      · exact hc rfl
  | createSecret secret =>
      simp only [BootWorld.serve] at hj
      split at hj <;> exact hw.injected j hj
  | _ => exact hw.injected j hj

theorem BootWorld.Inv.serve (hw : w.Inv config) (hc : Guarantee config w c) :
    (w.serve valid i c).1.Inv config where
  held j bundle hj := (serve_held valid hw hc j bundle hj).later (serve_later valid hc)
  injected j hj := (serve_injected valid hw hc j hj).imp
    (fun _ h => h.later (serve_later valid hc))

theorem react_cases (i : ι) (w : BootWorld ι) (c : BootCall) (f : Fate KubeError) :
    (w.react valid i c f).1 = w ∨ (w.react valid i c f).1 = (w.serve valid i c).1 :=
  respond_world Failure.kube (BootWorld.serve valid i) w c (if c.isLocal then .served else f)

/-- A call under the guarantee, however it fares. -/
theorem BootWorld.Inv.react (hw : w.Inv config) (hc : Guarantee config w c) (f : Fate KubeError) :
    (w.react valid i c f).1.Inv config ∧ w.Later config (w.react valid i c f).1 := by
  rcases react_cases valid i w c f with h | h
  · rw [h]
    exact ⟨hw, BootWorld.Later.refl w⟩
  · rw [h]
    exact ⟨hw.serve valid hc, serve_later valid hc⟩

/-- A call that is answered: what is known of the answer and of the world after it. -/
theorem perform_safe {Q : c.Answer → BootWorld ι → Prop}
    (h : ∀ w', w.Later config w' → Guarantee config w' c ∧
      ∀ a, (w'.serve valid i c).2 = .ok a →
        ∀ w'', (w'.serve valid i c).1.Later config w'' → Q a w'') :
    (Prog.perform c : BootOp c.Answer).Safe (BootWorld.react valid i) (BootWorld.later config)
      (Guarantee config) (fun r w' => ∀ a, r = .ok a → Q a w') w := by
  refine Prog.safe_perform (fun w' hw' => ⟨(h w' hw').1, fun f w'' hw'' a ha => ?_⟩)
  obtain ⟨hserved, hok⟩ := respond_ok ha
  rw [BootWorld.react, hserved] at hw''
  exact (h w' hw').2 a hok w'' hw''

end calls

/-! ### A start keeps its guarantee -/

section starts
variable {ι : Type} [DecidableEq ι] {valid : Json → Bool} {config : Config} {i : ι}
  {w : BootWorld ι}

/-- The replica's programs: calls are made under the guarantee, and a value satisfies `Q`. -/
def Ensures {α : Type} (valid : Json → Bool) (config : Config) (i : ι) (p : BootOp α)
    (w : BootWorld ι) (Q : α → BootWorld ι → Prop) : Prop :=
  p.Safe (BootWorld.react valid i) (BootWorld.later config) (Guarantee config)
    (fun r w' => ∀ a, r = .ok a → Q a w') w

theorem ensures_pure {α : Type} {a : α} {Q : α → BootWorld ι → Prop}
    (h : ∀ w', w.Later config w' → Q a w') : Ensures valid config i (pure a) w Q := by
  rintro w' hw _ ⟨rfl⟩
  exact h w' hw

theorem ensures_fail {α : Type} {err : Failure} {Q : α → BootWorld ι → Prop} :
    Ensures valid config i (Prog.fail err) w Q := by
  intro w' _ a ha
  cases ha

/-- A logged message other than that of the injection. -/
theorem ensures_info {message : String} (hmessage : message ≠ injectedMessage)
    {Q : Unit → BootWorld ι → Prop} (h : ∀ w', w.Later config w' → Q () w') :
    Ensures valid config i (info message) w Q := by
  refine perform_safe valid (fun w₁ h₁ => ⟨fun heq => absurd heq hmessage, fun a _ w₂ h₂ => ?_⟩)
  have hserve : w₁.Later config (w₁.serve valid i (.info message)).1 :=
    serve_later valid (fun heq => absurd heq hmessage)
  exact h w₂ (h₁.trans (hserve.trans h₂))

theorem ensures_withContext {α : Type} {text : String} {p : BootOp α}
    {Q : α → BootWorld ι → Prop} (h : Ensures valid config i p w Q)
    (hQ : ∀ a w w', Q a w → w.Later config w' → Q a w') :
    Ensures valid config i (withContext text p) w Q := by
  refine Prog.Safe.bind_ok (Prog.Safe.attempt (Prog.Safe.mono (fun _ _ hc => hc) ?_ h))
  rintro r w' hr _ ⟨rfl⟩
  cases r with
  | ok a => exact ensures_pure (fun w'' hw => hQ a w' w'' (hr a rfl) hw)
  | error err => exact ensures_fail

/-- The bundle of a Secret that is there is the stored one. -/
theorem adopt_ensures {secret : Secret} (h : w.secrets[config.secretKey]? = some secret) :
    Ensures valid config i (adopt secret) w (fun bundle w' => w'.Stores config bundle) := by
  unfold adopt
  split
  · rename_i bundle hread
    refine ensures_pure (fun w' hw => ?_)
    exact BootWorld.Stores.later ⟨secret, h, hread⟩ hw
  · exact ensures_fail

/-- Storing a bundle ends with the stored one, whoever was first. -/
theorem storeCert_ensures (bundle : CertBundle) :
    Ensures valid config i (storeCert config bundle) w
      (fun bundle w' => w'.Stores config bundle) := by
  have hcreate : Ensures valid config i (createSecret (certSecret config bundle)) w
      (fun _ w' => w'.Stores config bundle) := by
    refine perform_safe valid (fun w₁ _ => ⟨trivial, fun a ha w₂ h₂ => ?_⟩)
    simp only [BootWorld.serve] at ha h₂
    split at ha
    · cases ha
    · rename_i hnone
      simp only [hnone] at h₂
      refine BootWorld.Stores.later ⟨_, ?_, readBundle_stored config bundle⟩ h₂
      exact Std.ExtTreeMap.getElem?_insert_self
  refine Prog.Safe.bind_ok (Prog.Safe.attempt (Prog.Safe.mono (fun _ _ hc => hc) ?_ hcreate))
  rintro r w₁ hr _ ⟨rfl⟩
  cases r with
  | ok u =>
      have hstores := hr u rfl
      refine Prog.Safe.bind_ok (ensures_info (by decide) (fun w₂ h₂ => ?_))
      exact ensures_pure (fun w₃ h₃ => (hstores.later h₂).later h₃)
  | error err =>
      show Prog.Safe _ _ _ _ (ite _ _ _) w₁
      split_ifs
      · refine Prog.Safe.bind_ok (perform_safe valid
          (fun w₂ _ => ⟨trivial, fun secret hsecret w₃ h₃ => ?_⟩))
        simp only [BootWorld.serve] at hsecret h₃
        split at hsecret
        · rename_i stored hstored
          cases hsecret
          exact adopt_ensures (h₃.secret _ hstored)
        · cases hsecret
      · exact ensures_fail

/-- The certificate a replica gets is the stored one. -/
theorem ensureCert_ensures (generated : Except Failure CertBundle) :
    Ensures valid config i (ensureCert config generated) w
      (fun bundle w' => w'.Stores config bundle) := by
  refine Prog.Safe.bind_ok (perform_safe valid
    (fun w₁ _ => ⟨trivial, fun existing hexisting w₂ h₂ => ?_⟩))
  have hexisting : w₁.secrets[config.secretKey]? = existing := Except.ok.inj hexisting
  cases hfound : existing.bind readBundle with
  | some bundle =>
      obtain ⟨secret, hsecret, hread⟩ := Option.bind_eq_some_iff.mp hfound
      have hstores : w₂.Stores config bundle :=
        ⟨secret, h₂.secret secret (hexisting.trans hsecret), hread⟩
      refine Prog.Safe.bind_ok (ensures_info (by decide) (fun w₃ h₃ => ?_))
      exact ensures_pure (fun w₄ h₄ => (hstores.later h₃).later h₄)
  | none =>
      cases generated with
      | error err => exact ensures_fail
      | ok bundle => exact storeCert_ensures bundle

theorem patchMutating_ensures {bundle : CertBundle} (hw : w.Stores config bundle) :
    Ensures valid config i (patchMutating config.mutatingConfig
      (caBundlePatch mutatingWebhookName (Base64.encode (asBytes bundle.ca)))) w
      (fun _ w' => w'.Stores config bundle ∧ w'.mutatingCa config = some bundle.caBundle) := by
  refine perform_safe valid (fun w₁ h₁ => ⟨⟨bundle, hw.later h₁, rfl⟩, fun a ha w₂ h₂ => ?_⟩)
  have hstores := (hw.later h₁).later (serve_later (i := i) valid (c := .patchMutating
    config.mutatingConfig (caBundlePatch mutatingWebhookName (Base64.encode (asBytes bundle.ca))))
    ⟨bundle, hw.later h₁, rfl⟩)
  have hset := (patchConfiguration_ca valid w₁.mutating config.mutatingConfig
    config.mutatingConfig mutatingWebhookName (Base64.encode (asBytes bundle.ca))).2 ha
  exact ⟨hstores.later h₂, h₂.mutating bundle hstores hset⟩

theorem patchValidating_ensures {bundle : CertBundle} (hw : w.Stores config bundle)
    (hca : w.mutatingCa config = some bundle.caBundle) :
    Ensures valid config i (patchValidating config.validatingConfig
      (caBundlePatch validatingWebhookName (Base64.encode (asBytes bundle.ca)))) w
      (fun _ w' => w'.Trusts config bundle) := by
  refine perform_safe valid (fun w₁ h₁ => ⟨⟨bundle, hw.later h₁, rfl⟩, fun a ha w₂ h₂ => ?_⟩)
  have hlater := serve_later (i := i) valid (c := .patchValidating config.validatingConfig
    (caBundlePatch validatingWebhookName (Base64.encode (asBytes bundle.ca))))
    ⟨bundle, hw.later h₁, rfl⟩
  have hset := (patchConfiguration_ca valid w₁.validating config.validatingConfig
    config.validatingConfig validatingWebhookName (Base64.encode (asBytes bundle.ca))).2 ha
  have hmutating := hlater.mutating bundle (hw.later h₁) (h₁.mutating bundle hw hca)
  exact BootWorld.Trusts.later ⟨(hw.later h₁).later hlater, hmutating, hset⟩ h₂

/-- Injecting the CA of the stored bundle ends with both configurations carrying it. -/
theorem injectCa_ensures {bundle : CertBundle} (hw : w.Stores config bundle) :
    Ensures valid config i (injectCa config bundle.ca) w
      (fun _ w' => w'.Trusts config bundle) := by
  refine Prog.Safe.bind_ok (Prog.Safe.mono (fun _ _ hc => hc) ?_ (ensures_withContext
    (patchMutating_ensures hw) (fun _ _ _ h hl => ⟨h.1.later hl, hl.mutating bundle h.1 h.2⟩)))
  intro r w₁ hr a ha
  obtain ⟨hw₁, hca₁⟩ := hr a ha
  refine Prog.Safe.bind_ok (Prog.Safe.mono (fun _ _ hc => hc) ?_ (ensures_withContext
    (patchValidating_ensures hw₁ hca₁) (fun _ _ _ h hl => h.later hl)))
  intro r' w₂ hr' a' ha'
  have htrusts := hr' a' ha'
  refine perform_safe valid (fun w₃ h₃ => ⟨fun _ => ⟨bundle, htrusts.later h₃⟩, fun _ _ w₄ h₄ => ?_⟩)
  have hlater := serve_later (i := i) valid (c := .info injectedMessage)
    (fun _ => ⟨bundle, htrusts.later h₃⟩)
  exact htrusts.later (h₃.trans (hlater.trans h₄))

/-- A start that returns serves the stored bundle, and both configurations carry its CA. -/
theorem bootstrap_ensures (L : ServerLibrary) (generated : Except Failure CertBundle) :
    Ensures valid config i (bootstrap L config generated) w (fun prepared w' =>
      ∃ bundle, w'.Trusts config bundle ∧
        L.fromPem (asBytes bundle.cert) (asBytes bundle.key) = .ok prepared.tls) := by
  refine Prog.Safe.bind_ok (Prog.Safe.mono (fun _ _ hc => hc) ?_ (ensureCert_ensures generated))
  intro r w₁ hr bundle hbundle
  have hw₁ := hr bundle hbundle
  refine Prog.Safe.bind_ok (perform_safe valid (fun w₂ h₂ => ⟨hw₁.later h₂, fun _ _ w₃ h₃ => ?_⟩))
  have hlater := serve_later (i := i) valid (c := .hold bundle) (hw₁.later h₂)
  have hw₃ : w₃.Stores config bundle := hw₁.later (h₂.trans (hlater.trans h₃))
  refine Prog.Safe.bind_ok (Prog.Safe.mono (fun _ _ hc => hc) ?_ (injectCa_ensures hw₃))
  intro r' w₄ hr' a' ha'
  have htrusts := hr' a' ha'
  cases haddr : L.parseAddr config.listen with
  | error cause => exact ensures_fail
  | ok addr =>
      cases htls : L.fromPem (asBytes bundle.cert) (asBytes bundle.key) with
      | error cause => exact ensures_fail
      | ok tls =>
          refine Prog.Safe.bind_ok (ensures_info (by decide) (fun w₅ h₅ => ?_))
          exact ensures_pure (fun w₆ h₆ => ⟨bundle, htrusts.later (h₅.trans h₆), htls⟩)

end starts

/-! ### Every run -/

section runs
variable {ι : Type} [DecidableEq ι] {valid : Json → Bool} {config : Config} {L : ServerLibrary}
  {w : BootWorld ι} {s : Conf ι BootCall.Answer Failure Prepared (BootWorld ι)}

theorem reach_inv (hw : w.Inv config)
    (h : Reach (BootWorld.react valid) (starts L config) (BootWorld.Env config) (Conf.idle w) s) :
    (s.world.Inv config ∧ w.Later config s.world) ∧ ∀ i p, s.thread i = some p →
      Ensures valid config i p s.world (fun prepared w' =>
        ∃ bundle, w'.Trusts config bundle ∧
          L.fromPem (asBytes bundle.cert) (asBytes bundle.key) = .ok prepared.tls) := by
  have hstart : ∀ (i : ι) (w' : BootWorld ι) p, w'.Inv config ∧ w.Later config w' →
      starts L config i w' p → Ensures valid config i p w' (fun prepared w' =>
        ∃ bundle, w'.Trusts config bundle ∧
          L.fromPem (asBytes bundle.cert) (asBytes bundle.key) = .ok prepared.tls) := by
    rintro i w' p - ⟨generated, rfl⟩
    exact bootstrap_ensures L generated
  have hcall : ∀ (i : ι) c f (w' : BootWorld ι), w'.Inv config ∧ w.Later config w' →
      Guarantee config w' c →
      ((w'.react valid i c f).1.Inv config ∧ w.Later config (w'.react valid i c f).1) ∧
      ∀ j, j ≠ i → BootWorld.later config w' (w'.react valid i c f).1 := by
    rintro i c f w' ⟨hinv, hlater⟩ hc
    obtain ⟨hinv', hlater'⟩ := hinv.react valid hc f
    exact ⟨⟨hinv', hlater.trans hlater'⟩, fun _ _ => hlater'⟩
  have henv : ∀ w' w'' : BootWorld ι, w'.Inv config ∧ w.Later config w' → w'.Env config w'' →
      (w''.Inv config ∧ w.Later config w'') ∧ ∀ _ : ι, BootWorld.later config w' w'' := by
    rintro w' w'' ⟨hinv, hlater⟩ hm
    exact ⟨⟨hinv.env hm, hlater.trans hm.later⟩, fun _ => hm.later⟩
  exact Reach.safe hstart hcall henv h ⟨hw, BootWorld.Later.refl w⟩

/-- **All replicas serve under one CA.**  In every state of every run, from any Secret:

* a Secret that was there at the start is still there, unchanged;
* every replica that got a certificate holds the one in the Secret, so all hold the same;
* from the first completed injection on, both webhook configurations carry the CA of that
  certificate;
* a replica whose start returned serves it. -/
theorem replicas_serve_one_ca (hheld : ∀ i, w.held i = none) (hlog : w.log = [])
    (h : Reach (BootWorld.react valid) (starts L config) (BootWorld.Env config) (Conf.idle w) s) :
    (∀ secret, w.secrets[config.secretKey]? = some secret →
      s.world.secrets[config.secretKey]? = some secret) ∧
    (∀ i bundle, s.world.held i = some bundle → s.world.Stores config bundle) ∧
    (∀ i j bundle bundle', s.world.held i = some bundle → s.world.held j = some bundle' →
      bundle = bundle') ∧
    (∀ i, (i, injectedMessage) ∈ s.world.log → ∃ bundle, s.world.Trusts config bundle) ∧
    (∀ i prepared, s.thread i = some (.done (.ok prepared)) →
      ∃ bundle, s.world.Trusts config bundle ∧
        L.fromPem (asBytes bundle.cert) (asBytes bundle.key) = .ok prepared.tls) := by
  have hw : w.Inv config := by
    refine ⟨fun i bundle hi => ?_, fun i hi => ?_⟩
    · rw [hheld i] at hi
      cases hi
    · rw [hlog] at hi
      cases hi
  obtain ⟨⟨hinv, hlater⟩, hthreads⟩ := reach_inv hw h
  refine ⟨hlater.secret, hinv.held, ?_, hinv.injected, ?_⟩
  · intro i j bundle bundle' hi hj
    exact (hinv.held i bundle hi).unique (hinv.held j bundle' hj)
  · intro i prepared hi
    exact hthreads i _ hi s.world (BootWorld.Later.refl _) prepared rfl

end runs

/-! ### A race -/

namespace Sample

def config : Config :=
  ⟨"0.0.0.0:9443", "system", "webhook", "webhook-tls", "exec", "guard", ["wrap"]⟩

def serverLibrary : ServerLibrary := ⟨fun text => .ok text, fun cert key => .ok ⟨cert, key⟩⟩

/-- A configuration with one webhook that trusts nothing yet. -/
def configuration (webhookName : String) : Json :=
  .obj [("webhooks", .arr [.obj [("name", .str webhookName)]])]

def cluster : BootWorld Bool where
  mutating := (∅ : StrMap Json).insert "exec" (configuration mutatingWebhookName)
  validating := (∅ : StrMap Json).insert "guard" (configuration validatingWebhookName)

def bundle (i : Bool) : CertBundle :=
  if i then ⟨"cert 1", "key 1", "ca 1"⟩ else ⟨"cert 0", "key 0", "ca 0"⟩

/-- Run a replica for some calls, all served. -/
def run (i : Bool) (calls : ℕ) (p : BootOp Prepared) (w : BootWorld Bool) :
    BootOp Prepared × BootWorld Bool :=
  Prog.exec (BootWorld.react (fun _ => true) i) (List.replicate calls .served) p w

/-- Replica 0 has found no Secret; then replica 1 starts and gets ready. -/
def late : BootOp Prepared × BootWorld Bool :=
  let first := run false 1 (bootstrap serverLibrary config (.ok (bundle false))) cluster
  (first.1, (run true 8 (bootstrap serverLibrary config (.ok (bundle true))) first.2).2)

/-- Replica 0, too late, adopts the certificate of replica 1; its own is nowhere. -/
theorem late_replica_adopts :
    ∃ s, Reach (BootWorld.react (fun _ => true)) (starts serverLibrary config) (BootWorld.Env config)
        (Conf.idle cluster) s ∧
      s.world.held true = some (bundle true) ∧ s.world.held false = some (bundle true) ∧
      s.world.Stores config (bundle true) ∧ ∃ trusted, s.world.Trusts config trusted := by
  have hfirst : Reach (BootWorld.react (fun _ => true)) (starts serverLibrary config)
      (BootWorld.Env config) (Conf.idle cluster) _ :=
    .start_exec false (List.replicate 1 .served) rfl ⟨.ok (bundle false), rfl⟩
  have hsecond := hfirst.trans
    (Reach.job true (List.replicate 8 .served) rfl ⟨.ok (bundle true), rfl⟩)
  have hlate := hsecond.trans (Reach.exec false (List.replicate 8 .served) late.1 _ rfl)
  obtain ⟨-, hheld, -, hinjected, -⟩ := replicas_serve_one_ca (fun _ => rfl) rfl hlate
  refine ⟨_, hlate, rfl, rfl, hheld true _ rfl, hinjected true ?_⟩
  exact List.mem_of_elem_eq_true rfl

end Sample

end OpenShell.Webhook
