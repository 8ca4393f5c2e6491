import OpenShellOperator.Effects.Embed
import OpenShellOperator.Error
import OpenShellOperator.Issuer.Serving
import OpenShellOperator.Leader.Elector
import OpenShellOperator.Webhook
import OpenShellOperator.Webhook.Bootstrap

/-! # Starting up

A replica starts as a process: it binds the probe listener, connects to the gateway and to the
cluster, starts the admission webhook if its environment enables it, reports ready, and only then
contends for the lease or runs the controllers (`main`).  Its settings come from the environment,
which differs from replica to replica while an installation is being changed.

Processes start, fail and stop in any interleaving of their calls.  `ready_confines`: a process
that reports ready was given a sound environment, and if that enables the webhook, the process
serves it with the stored certificate, under the CA that both webhook configurations trust, and
with a wrapper that is not empty; so what its webhooks allow is confined, but for an exec to which
the patch does not apply.  A process that gets as far as the lease is ready. -/

namespace OpenShell
open Effects

/-- What the environment of a process answers for a variable, an error with its text. -/
abbrev Environ := String → Except String String

namespace Environ

/-- The variable, or a default. -/
def getOr (env : Environ) (key default : String) : String := (env key).toOption.getD default

end Environ

/-! ### Settings -/

namespace Webhook

def defaultListen : String := "0.0.0.0:9443"

def defaultWrapper : List String :=
  ["/opt/openshell/bin/openshell-sandbox", "--mode=process", "--"]

/-- A variable that the webhook needs. -/
def reqEnv (env : Environ) (key : String) : Except Failure String :=
  (env key).mapError fun cause =>
    .context (key ++ " is required when the webhook is enabled") (.message cause)

/-- The wrapper of the environment; `strings` reads a JSON array of strings. -/
def wrapperFromEnv (strings : String → Except String (List String)) (env : Environ) :
    Except Failure (List String) :=
  match env "OPENSHELL_WEBHOOK_WRAPPER" with
  | .ok raw => (strings raw).mapError fun cause =>
      .context "OPENSHELL_WEBHOOK_WRAPPER must be a JSON array of strings" (.message cause)
  | .error _ => .ok defaultWrapper

/-- The settings of the webhook, none if it is disabled. -/
def Config.fromEnv (strings : String → Except String (List String)) (env : Environ) :
    Except Failure (Option Config) :=
  if (env "OPENSHELL_WEBHOOK_ENABLED").toOption ≠ some "true" then .ok none
  else do
    let wrapper ← wrapperFromEnv strings env
    if wrapper = [] then
      throw (.message "OPENSHELL_WEBHOOK_WRAPPER must not be empty")
    else do
      let listen := env.getOr "OPENSHELL_WEBHOOK_LISTEN" defaultListen
      let namespace_ ← reqEnv env "OPENSHELL_WEBHOOK_NAMESPACE"
      let service ← reqEnv env "OPENSHELL_WEBHOOK_SERVICE"
      let secret ← reqEnv env "OPENSHELL_WEBHOOK_SECRET"
      let mutatingConfig ← reqEnv env "OPENSHELL_WEBHOOK_MUTATING_CONFIG"
      let validatingConfig ← reqEnv env "OPENSHELL_WEBHOOK_VALIDATING_CONFIG"
      pure (some ⟨listen, namespace_, service, secret, mutatingConfig, validatingConfig, wrapper⟩)

end Webhook

/-- Lease and identity, none unless all three variables are set. -/
def Leader.Config.fromEnv (env : Environ) : Option Leader.Config := do
  let leaseName ← (env "OPENSHELL_LEADER_ELECTION_LEASE").toOption
  let namespace_ ← (env "POD_NAMESPACE").toOption
  let identity ← (env "POD_NAME").toOption
  some ⟨leaseName, namespace_, identity⟩

/-- How the operator reaches the gateway. -/
structure GatewayConfig where
  endpoint : String
  token : Option String
  tokenPath : Option String
  caCert : Option (List UInt8)
  insecureSkipVerify : Bool
deriving DecidableEq, Repr

section files
variable (readToString : String → Except String String)

/-- Read a file that the variable `key` names. -/
def readFile (key path : String) : Except Error String :=
  (readToString path).mapError fun source =>
    .gateway ("reading " ++ key ++ " (" ++ path ++ "): " ++ source)

def readOptionalFile (env : Environ) (key : String) : Except Error (Option String) :=
  match (env key).toOption with
  | none => .ok none
  | some path => some <$> readFile readToString key path

def GatewayConfig.fromEnv (env : Environ) : Except Error GatewayConfig := do
  let trim := fun s : String => String.ofList ((Issuer.trimEnd s).toList.dropWhile Volumes.isWhitespace)
  let token ← readOptionalFile readToString env "OPENSHELL_TOKEN_FILE"
  let caCert ← readOptionalFile readToString env "OPENSHELL_CA_FILE"
  pure {
    endpoint := env.getOr "OPENSHELL_GATEWAY_ENDPOINT" "http://127.0.0.1:8080"
    token := token.map trim
    tokenPath := (env "OPENSHELL_TOKEN_FILE").toOption
    caCert := caCert.map Webhook.asBytes
    insecureSkipVerify := (env "OPENSHELL_INSECURE_SKIP_VERIFY").toOption.any
      (fun v => v.toLower == "true") }

end files

/-! ### The process -/

namespace Startup
open Webhook Wire

/-- Code and files outside the operator. -/
structure System where
  server : ServerLibrary
  /-- A JSON array of strings, from its text. -/
  strings : String → Except String (List String)
  readToString : String → Except String String
  /-- How an error of the operator is reported. -/
  anyhow : Error → Failure

/-- What a process does on its way: it binds the probe listener and has it served, connects, makes
the calls of the webhook's start, has the webhook served, sets the readiness flag, and goes on to
the lease or to the controllers. -/
inductive StartCall where
  | bind (listen : String)
  | connect (config : GatewayConfig)
  | tryDefault
  | boot (c : BootCall)
  | serve (prepared : Prepared)
  | markReady
  | work (election : Option Leader.Config)

def StartCall.Answer : StartCall → Type
  | boot c => c.Answer
  | bind _ | connect _ | tryDefault | serve _ | markReady | work _ => Unit

abbrev StartOp := Prog StartCall.Answer Failure

section program

def bind (listen : String) : StartOp Unit := Prog.perform (StartCall.bind listen)

def connect (config : GatewayConfig) : StartOp Unit := Prog.perform (StartCall.connect config)

def tryDefault : StartOp Unit := Prog.perform StartCall.tryDefault

def serve (prepared : Prepared) : StartOp Unit := Prog.perform (StartCall.serve prepared)

def markReady : StartOp Unit := Prog.perform StartCall.markReady

def work (election : Option Leader.Config) : StartOp Unit := Prog.perform (StartCall.work election)

/-- Start the webhook, unless it is disabled; `generated` is the certificate this process would
make. -/
def startWebhook (S : System) (env : Environ) (generated : Except Failure CertBundle) :
    StartOp Unit :=
  match Config.fromEnv S.strings env with
  | .error err => Prog.fail err
  | .ok none => pure ()
  | .ok (some config) => do
      let prepared ← (bootstrap S.server config generated).via StartCall.boot (fun _ answer => answer)
      serve prepared

/-- The operator's entry point. -/
def main (S : System) (env : Environ) (generated : Except Failure CertBundle) : StartOp Unit := do
  bind (env.getOr "OPENSHELL_HEALTH_LISTEN" "0.0.0.0:8080")
  match GatewayConfig.fromEnv S.readToString env with
  | .error err => Prog.fail (S.anyhow err)
  | .ok config =>
      connect config
      tryDefault
      startWebhook S env generated
      markReady
      work (Leader.Config.fromEnv env)

end program

/-! ### Processes and their cluster -/

/-- The cluster, and of each process: the readiness flag, the webhook it serves, and how it went
on to work. -/
structure StartWorld (ι : Type) where
  cluster : BootWorld ι
  ready : ι → Bool := fun _ => false
  serving : ι → Option Prepared := fun _ => none
  working : ι → Option (Option Leader.Config) := fun _ => none

/-- What the readiness probe answers. -/
def StartWorld.readyz {ι : Type} (w : StartWorld ι) (i : ι) : ℕ := if w.ready i then 200 else 503

section world
variable {ι : Type} [DecidableEq ι] (valid : Json → Bool)

/-- Whether a connection was made. -/
def connected : Fate KubeError → Except Failure Unit
  | .served => .ok ()
  | .refused e | .unheard e => .error (.kube e)

/-- What a call of process `i` does.  Work, once begun, ends some time, as it may. -/
def StartWorld.react (i : ι) (w : StartWorld ι) :
    (c : StartCall) → Fate KubeError → StartWorld ι × Except Failure c.Answer
  | .bind _, f | .connect _, f | .tryDefault, f => (w, connected f)
  | .boot c, f =>
      ({ w with cluster := (w.cluster.react valid i c f).1 }, (w.cluster.react valid i c f).2)
  | .serve prepared, _ =>
      ({ w with serving := Function.update w.serving i (some prepared) }, .ok ())
  | .markReady, _ => ({ w with ready := Function.update w.ready i true }, .ok ())
  | .work election, f =>
      ({ w with working := Function.update w.working i (some election) }, connected f)

/-- A process starts once: a replica that is restarted is a new process. -/
structure Starts (S : System) (env : ι → Environ) (i : ι) (w : StartWorld ι) (p : StartOp Unit) :
    Prop where
  fresh : w.ready i = false ∧ w.serving i = none ∧ w.working i = none
  main : ∃ generated, p = main S (env i) generated

/-- Nobody else writes the Secret or a `caBundle`, or reaches into a process. -/
structure StartWorld.Env (config : Config) (w w' : StartWorld ι) : Prop where
  cluster : w.cluster.Env config w'.cluster
  ready : w'.ready = w.ready
  serving : w'.serving = w.serving
  working : w'.working = w.working

end world

/-! ### What a process has when it is ready -/

section state
variable {ι : Type} (S : System) (env : ι → Environ) (config : Config)

/-- Settings that all replicas of an installation share: where the certificate and the webhook
configurations are. -/
structure Shares (c : Config) : Prop where
  namespace_ : c.namespace_ = config.namespace_
  secret : c.secret = config.secret
  mutatingConfig : c.mutatingConfig = config.mutatingConfig
  validatingConfig : c.validatingConfig = config.validatingConfig

/-- The server was prepared with the settings `c`, for the stored certificate, and both webhook
configurations trust its CA. -/
structure Offers (c : Config) (prepared : Prepared) (w : StartWorld ι) : Prop where
  wrapper : prepared.wrapper = c.wrapper
  addr : S.server.parseAddr c.listen = .ok prepared.addr
  tls : ∃ bundle, w.cluster.Trusts config bundle ∧
    S.server.fromPem (asBytes bundle.cert) (asBytes bundle.key) = .ok prepared.tls

/-- The webhook that process `i` serves under these settings. -/
def Serves (i : ι) (w : StartWorld ι) : Option Config → Prop
  | none => w.serving i = none
  | some c => ∃ prepared, w.serving i = some prepared ∧ Offers S config c prepared w

/-- The environment was read, and the webhook is as it says. -/
def Up (i : ι) (w : StartWorld ι) : Prop :=
  ∃ settings, Config.fromEnv S.strings (env i) = .ok settings ∧ Serves S config i w settings

/-- When process `i` makes a call: it is ready only when it is up, and works only when it is
ready. -/
def Guarantee (i : ι) (w : StartWorld ι) : StartCall → Prop
  | .boot c => Webhook.Guarantee config w.cluster c
  | .serve prepared => ∃ c, Config.fromEnv S.strings (env i) = .ok (some c) ∧
      Offers S config c prepared w
  | .markReady => Up S env config i w
  | .work election => w.ready i = true ∧ election = Leader.Config.fromEnv (env i)
  | .bind _ | .connect _ | .tryDefault => True

/-- The invariant of all runs. -/
structure Inv (w : StartWorld ι) : Prop where
  cluster : w.cluster.Inv config
  ready : ∀ i, w.ready i = true → Up S env config i w
  working : ∀ i election, w.working i = some election →
    w.ready i = true ∧ election = Leader.Config.fromEnv (env i)

/-- What happens beside process `i`. -/
structure StartWorld.Later (i : ι) (w w' : StartWorld ι) : Prop where
  cluster : w.cluster.Later config w'.cluster
  ready : w'.ready i = w.ready i
  serving : w'.serving i = w.serving i

def StartWorld.later (i : ι) : Rely (StartWorld ι) where
  rel := StartWorld.Later config i
  refl _ := ⟨BootWorld.Later.refl _, rfl, rfl⟩
  trans h h' := ⟨h.cluster.trans h'.cluster, h'.ready.trans h.ready, h'.serving.trans h.serving⟩

variable {S env config} {i : ι} {w w' : StartWorld ι}

theorem Offers.later {c : Config} {prepared : Prepared} (h : Offers S config c prepared w)
    (hl : w.cluster.Later config w'.cluster) : Offers S config c prepared w' := by
  obtain ⟨bundle, htrusts, htls⟩ := h.tls
  exact ⟨h.wrapper, h.addr, bundle, htrusts.later hl, htls⟩

theorem Up.later (h : Up S env config i w) (hl : w.cluster.Later config w'.cluster)
    (hs : w'.serving i = w.serving i) : Up S env config i w' := by
  obtain ⟨settings, hread, hserves⟩ := h
  refine ⟨settings, hread, ?_⟩
  cases settings with
  | none => exact hs.trans hserves
  | some c =>
      obtain ⟨prepared, hprepared, hoffers⟩ := hserves
      exact ⟨prepared, hs.trans hprepared, hoffers.later hl⟩

/-- The invariant when one process is left out: the others have not changed. -/
theorem Inv.step (hw : Inv S env config w) (hcluster : w'.cluster.Inv config)
    (hl : w.cluster.Later config w'.cluster)
    (hj : ∀ j, j ≠ i → w'.ready j = w.ready j ∧ w'.serving j = w.serving j ∧
      w'.working j = w.working j)
    (hready : w'.ready i = true → Up S env config i w')
    (hworking : ∀ election, w'.working i = some election →
      w'.ready i = true ∧ election = Leader.Config.fromEnv (env i)) :
    Inv S env config w' := by
  refine ⟨hcluster, fun j hj' => ?_, fun j election hj' => ?_⟩
  · rcases eq_or_ne j i with rfl | hne
    · exact hready hj'
    · obtain ⟨hr, hs, -⟩ := hj j hne
      exact (hw.ready j (hr.symm.trans hj')).later hl hs
  · rcases eq_or_ne j i with rfl | hne
    · exact hworking election hj'
    · obtain ⟨hr, -, hk⟩ := hj j hne
      obtain ⟨hready', helection⟩ := hw.working j election (hk.symm.trans hj')
      exact ⟨hr.trans hready', helection⟩

theorem Inv.outside (hw : Inv S env config w) (h : StartWorld.Env config w w') :
    Inv S env config w' := by
  refine ⟨hw.cluster.env h.cluster, fun j hj => ?_, fun j election hj => ?_⟩
  · rw [h.ready] at hj
    exact (hw.ready j hj).later h.cluster.later (congrFun h.serving j)
  · rw [h.working] at hj
    rw [h.ready]
    exact hw.working j election hj

end state

/-! ### The settings of the webhook -/

section settings
variable {strings : String → Except String (List String)} {env : Environ} {c : Config}

/-- A computation that comes to a value has come to one at its first step. -/
theorem bind_eq_ok {ε α β : Type} {x : Except ε α} {f : α → Except ε β} {b : β}
    (h : (x >>= f) = .ok b) : ∃ a, x = .ok a ∧ f a = .ok b := by
  cases x with
  | ok a => exact ⟨a, rfl, h⟩
  | error err => cases h

/-- Settings that are accepted have a wrapper, the one of the environment. -/
theorem wrapper_of_fromEnv (h : Config.fromEnv strings env = .ok (some c)) :
    wrapperFromEnv strings env = .ok c.wrapper ∧ c.wrapper ≠ [] := by
  unfold Config.fromEnv at h
  split at h
  · cases h
  · obtain ⟨wrapper, hwrapper, h⟩ := bind_eq_ok h
    split at h
    · cases h
    · rename_i hne
      obtain ⟨_, -, h⟩ := bind_eq_ok h
      obtain ⟨_, -, h⟩ := bind_eq_ok h
      obtain ⟨_, -, h⟩ := bind_eq_ok h
      obtain ⟨_, -, h⟩ := bind_eq_ok h
      obtain ⟨_, -, h⟩ := bind_eq_ok h
      cases h
      exact ⟨hwrapper, hne⟩

end settings

/-! ### Settings of one installation -/

section shares
variable {ι : Type} {config c : Config} (hc : Shares config c) {w w' : BootWorld ι}
  {bundle : CertBundle}
include hc

theorem Shares.stores : w.Stores c bundle ↔ w.Stores config bundle := by
  rw [BootWorld.Stores, BootWorld.Stores, Config.secretKey, Config.secretKey, hc.namespace_, hc.secret]

theorem Shares.mutatingCa : w.mutatingCa c = w.mutatingCa config := by
  rw [BootWorld.mutatingCa, BootWorld.mutatingCa, hc.mutatingConfig]

theorem Shares.validatingCa : w.validatingCa c = w.validatingCa config := by
  rw [BootWorld.validatingCa, BootWorld.validatingCa, hc.validatingConfig]

theorem Shares.trusts : w.Trusts c bundle ↔ w.Trusts config bundle := by
  constructor
  · rintro ⟨hstored, hmutating, hvalidating⟩
    exact ⟨hc.stores.mp hstored, hc.mutatingCa.symm.trans hmutating,
      hc.validatingCa.symm.trans hvalidating⟩
  · rintro ⟨hstored, hmutating, hvalidating⟩
    exact ⟨hc.stores.mpr hstored, hc.mutatingCa.trans hmutating,
      hc.validatingCa.trans hvalidating⟩

theorem Shares.later (h : w.Later config w') : w.Later c w' where
  secret secret hsecret := by
    rw [Config.secretKey, hc.namespace_, hc.secret] at hsecret ⊢
    exact h.secret secret hsecret
  mutating bundle hstored hca := by
    rw [hc.mutatingCa] at hca ⊢
    exact h.mutating bundle (hc.stores.mp hstored) hca
  validating bundle hstored hca := by
    rw [hc.validatingCa] at hca ⊢
    exact h.validating bundle (hc.stores.mp hstored) hca

theorem Shares.guarantee {call : BootCall} (h : Webhook.Guarantee c w call) :
    Webhook.Guarantee config w call := by
  cases call with
  | patchMutating name patch => exact h.imp (fun _ hb => ⟨hc.stores.mp hb.1, hb.2⟩)
  | patchValidating name patch => exact h.imp (fun _ hb => ⟨hc.stores.mp hb.1, hb.2⟩)
  | hold bundle => exact hc.stores.mp h
  | info message => exact fun hm => (h hm).imp (fun _ hb => hc.trusts.mp hb)
  | getOptSecret ns name => trivial
  | getSecret ns name => trivial
  | createSecret secret => trivial

end shares

/-! ### A process keeps its guarantee -/

section process
variable {ι : Type} [DecidableEq ι] {valid : Json → Bool} {S : System} {env : ι → Environ}
  {config : Config} {i : ι} {w : StartWorld ι}

/-- What the start of the webhook comes to, whatever its certificate. -/
theorem bootstrap_yields {R : Rely (BootWorld ι)} (L : ServerLibrary) (c : Config)
    (generated : Except Failure CertBundle) (w : BootWorld ι) :
    (bootstrap L c generated).Yields (BootWorld.react valid i) R w
      (fun prepared _ => prepared.wrapper = c.wrapper ∧ L.parseAddr c.listen = .ok prepared.addr) := by
  refine Prog.Yields.bind ((Prog.yields_trivial _ _).mono (fun bundle w₁ _ => ?_))
  refine Prog.Yields.bind ((Prog.yields_trivial _ _).mono (fun _ w₂ _ => ?_))
  refine Prog.Yields.bind ((Prog.yields_trivial _ _).mono (fun _ w₃ _ => ?_))
  cases haddr : L.parseAddr c.listen with
  | error cause => exact Prog.yields_fail _
  | ok addr =>
      cases htls : L.fromPem (asBytes bundle.cert) (asBytes bundle.key) with
      | error cause => exact Prog.yields_fail _
      | ok tls =>
          refine Prog.Yields.bind ((Prog.yields_trivial _ _).mono (fun _ w₄ _ => ?_))
          exact Prog.yields_pure (fun _ _ => ⟨rfl, rfl⟩)

/-- The programs of process `i`: calls are made under the guarantee, and a value satisfies `Q`. -/
def Keeps {α : Type} (valid : Json → Bool) (S : System) (env : ι → Environ) (config : Config) (i : ι)
    (p : StartOp α) (w : StartWorld ι) (Q : α → StartWorld ι → Prop) : Prop :=
  p.Safe (StartWorld.react valid i) (StartWorld.later config i) (Guarantee S env config i)
    (fun r w' => ∀ a, r = .ok a → Q a w') w

theorem keeps_perform {c : StartCall} {Q : c.Answer → StartWorld ι → Prop}
    (h : ∀ w', StartWorld.Later config i w w' → Guarantee S env config i w' c ∧
      ∀ f a w'', StartWorld.Later config i (w'.react valid i c f).1 w'' → Q a w'') :
    Keeps valid S env config i (Prog.perform c) w Q :=
  Prog.safe_perform (fun w' hw => ⟨(h w' hw).1, fun f w'' hw'' a _ => (h w' hw).2 f a w'' hw''⟩)

theorem keeps_bind {α β : Type} {p : StartOp α} {g : α → StartOp β} {Q : β → StartWorld ι → Prop}
    (h : Keeps valid S env config i p w (fun a w' => Keeps valid S env config i (g a) w' Q)) :
    Keeps valid S env config i (p >>= g) w Q := Prog.Safe.bind_ok h

theorem keeps_fail {α : Type} {err : Failure} {Q : α → StartWorld ι → Prop} :
    Keeps valid S env config i (Prog.fail err) w Q := by
  intro w' _ a ha
  cases ha

/-- The start of the webhook, in the process. -/
theorem bootstrap_keeps {c : Config} (hc : Shares config c) (generated : Except Failure CertBundle) :
    Keeps valid S env config i
      ((bootstrap S.server c generated).via StartCall.boot (fun _ answer => answer)) w
      (fun prepared w' => Offers S config c prepared w') := by
  have hensures : Ensures valid c i (bootstrap S.server c generated) w.cluster _ :=
    bootstrap_ensures S.server generated
  unfold Keeps
  refine Prog.Safe.mono ?_ ?_ (Prog.Safe.via StartWorld.cluster (fun _ _ _ => rfl) ?_
    (fun h => hc.later (StartWorld.Later.cluster h))
    (Prog.Safe.also hensures (bootstrap_yields S.server c generated w.cluster)))
  · rintro w₁ _ ⟨call, rfl, hcall⟩
    exact hc.guarantee hcall
  · rintro r w₁ hr prepared hprepared
    obtain ⟨⟨bundle, htrusts, htls⟩, hwrapper, haddr⟩ := hr prepared hprepared
    exact ⟨hwrapper, haddr, bundle, hc.trusts.mp htrusts, htls⟩
  · intro w₁ call f
    show (BootWorld.react valid i w₁.cluster call f).2.map (fun answer => answer) = _
    cases (BootWorld.react valid i w₁.cluster call f).2 <;> rfl

/-- After it the process is up. -/
theorem startWebhook_keeps (hshares : ∀ c, Config.fromEnv S.strings (env i) = .ok (some c) →
    Shares config c) (generated : Except Failure CertBundle) (hw : w.serving i = none) :
    Keeps valid S env config i (startWebhook S (env i) generated) w
      (fun _ w' => Up S env config i w') := by
  unfold startWebhook
  cases hread : Config.fromEnv S.strings (env i) with
  | error err => exact keeps_fail
  | ok settings =>
      cases settings with
      | none =>
          rintro w' hw' _ _
          exact ⟨none, hread, hw'.serving.trans hw⟩
      | some c =>
          refine keeps_bind (Prog.Safe.mono (fun _ _ h => h) ?_
            (bootstrap_keeps (hshares c hread) generated))
          intro r w₁ hr prepared hprepared
          have hoffers := hr prepared hprepared
          refine keeps_perform (fun w₂ h₂ => ?_)
          have hoffers₂ := hoffers.later h₂.cluster
          refine ⟨⟨c, hread, hoffers₂⟩, fun f _ w₃ h₃ => ?_⟩
          refine ⟨some c, hread, prepared, ?_, hoffers₂.later h₃.cluster⟩
          rw [h₃.serving]
          exact Function.update_self ..

/-- **The entry point** keeps the guarantee of its process. -/
theorem main_keeps (hshares : ∀ c, Config.fromEnv S.strings (env i) = .ok (some c) →
    Shares config c) (generated : Except Failure CertBundle) (hw : w.serving i = none) :
    Keeps valid S env config i (main S (env i) generated) w (fun _ _ => True) := by
  refine keeps_bind (keeps_perform (fun w₁ h₁ => ⟨trivial, fun _ _ w₂ h₂ => ?_⟩))
  have hw₂ : w₂.serving i = none := h₂.serving.trans (h₁.serving.trans hw)
  cases GatewayConfig.fromEnv S.readToString (env i) with
  | error err => exact keeps_fail
  | ok gateway =>
      refine keeps_bind (keeps_perform (fun w₃ h₃ => ⟨trivial, fun _ _ w₄ h₄ => ?_⟩))
      refine keeps_bind (keeps_perform (fun w₅ h₅ => ⟨trivial, fun _ _ w₆ h₆ => ?_⟩))
      have hw₆ : w₆.serving i = none := h₆.serving.trans
        (h₅.serving.trans (h₄.serving.trans (h₃.serving.trans hw₂)))
      refine keeps_bind (Prog.Safe.mono (fun _ _ h => h) ?_
        (startWebhook_keeps hshares generated hw₆))
      intro r w₇ hr _ hdone
      have hup := hr _ hdone
      refine keeps_bind (keeps_perform (fun w₈ h₈ => ⟨hup.later h₈.cluster h₈.serving, ?_⟩))
      intro _ _ w₉ h₉
      refine keeps_perform (fun w₁₀ h₁₀ => ⟨⟨?_, rfl⟩, fun _ _ _ _ => trivial⟩)
      rw [h₁₀.ready, h₉.ready]
      exact Function.update_self ..

/-- A call under the guarantee keeps the invariant, and the others may rely on it. -/
theorem Inv.react {c : StartCall} (hw : Inv S env config w) (hc : Guarantee S env config i w c)
    (f : Fate KubeError) : Inv S env config (w.react valid i c f).1 ∧
      ∀ j, j ≠ i → StartWorld.Later config j w (w.react valid i c f).1 := by
  cases c with
  | bind listen => exact ⟨hw, fun j _ => (StartWorld.later config j).refl w⟩
  | connect gateway => exact ⟨hw, fun j _ => (StartWorld.later config j).refl w⟩
  | tryDefault => exact ⟨hw, fun j _ => (StartWorld.later config j).refl w⟩
  | boot call =>
      obtain ⟨hinv, hlater⟩ := hw.cluster.react valid hc f
      refine ⟨hw.step (i := i) hinv hlater (fun _ _ => ⟨rfl, rfl, rfl⟩) ?_ (hw.working i),
        fun _ _ => ⟨hlater, rfl, rfl⟩⟩
      exact fun hready => (hw.ready i hready).later hlater rfl
  | serve prepared =>
      obtain ⟨c, hread, hoffers⟩ := hc
      have hothers : ∀ j, j ≠ i →
          Function.update w.serving i (some prepared) j = w.serving j :=
        fun j hj => Function.update_of_ne hj _ _
      refine ⟨hw.step (i := i) hw.cluster (BootWorld.Later.refl _)
        (fun j hj => ⟨rfl, hothers j hj, rfl⟩) (fun _ => ?_) (hw.working i),
        fun j hj => ⟨BootWorld.Later.refl _, rfl, hothers j hj⟩⟩
      exact ⟨some c, hread, prepared, Function.update_self .., hoffers.later (BootWorld.Later.refl _)⟩
  | markReady =>
      have hothers : ∀ j, j ≠ i → Function.update w.ready i true j = w.ready j :=
        fun j hj => Function.update_of_ne hj _ _
      refine ⟨hw.step (i := i) hw.cluster (BootWorld.Later.refl _)
        (fun j hj => ⟨hothers j hj, rfl, rfl⟩) (fun _ => ?_) (fun election hworking => ?_),
        fun j hj => ⟨BootWorld.Later.refl _, hothers j hj, rfl⟩⟩
      · exact hc.later (BootWorld.Later.refl _) rfl
      · exact ⟨Function.update_self .., (hw.working i election hworking).2⟩
  | work election =>
      have hothers : ∀ j, j ≠ i →
          Function.update w.working i (some election) j = w.working j :=
        fun j hj => Function.update_of_ne hj _ _
      refine ⟨hw.step (i := i) hw.cluster (BootWorld.Later.refl _)
        (fun j hj => ⟨rfl, rfl, hothers j hj⟩) (fun hready => ?_) (fun election' hworking => ?_),
        fun j hj => ⟨BootWorld.Later.refl _, rfl, rfl⟩⟩
      · exact (hw.ready i hready).later (BootWorld.Later.refl _) rfl
      · have heq : Function.update w.working i (some election) i = some election' := hworking
        rw [Function.update_self] at heq
        cases heq
        exact hc

end process

/-! ### A process that is served comes up -/

section served
variable {ι : Type} [DecidableEq ι] {valid : Json → Bool} {c : Config} {i : ι} {w : BootWorld ι}

/-- The webhook configuration is there, and the server accepts any `caBundle` in it. -/
def Patchable (valid : Json → Bool) (configurations : StrMap Json) (name webhookName : String) : Prop :=
  ∃ configuration, configurations[name]? = some configuration ∧ ∀ text, valid
    (Json.strategicMerge "name" "webhooks" configuration (caBundlePatch webhookName text)) = true

/-- A certificate is stored where there is none. -/
theorem serve_createSecret (valid : Json → Bool) (i : ι) (bundle : CertBundle)
    (h : w.secrets[c.secretKey]? = none) : w.serve valid i (.createSecret (certSecret c bundle)) =
      ({ w with secrets := w.secrets.insert c.secretKey (certSecret c bundle).stored }, .ok ()) := by
  have hkey : w.secrets[(⟨(certSecret c bundle).namespace_, (certSecret c bundle).name⟩ : Key)]? =
      none := h
  simp only [BootWorld.serve, hkey]
  rfl

/-- The certificate is found or made. -/
theorem ensureCert_returns {fresh : CertBundle}
    (hs : ∀ secret, w.secrets[c.secretKey]? = some secret → ∃ bundle, readBundle secret = some bundle) :
    (ensureCert c (.ok fresh)).Returns (BootWorld.serve valid i) w (fun bundle w' =>
      w'.mutating = w.mutating ∧ w'.validating = w.validating ∧
      (w.Stores c bundle ∨ bundle = fresh)) := by
  refine Prog.Returns.bind (Prog.returns_perform (a := w.secrets[c.secretKey]?) rfl ?_)
  cases hsecret : w.secrets[c.secretKey]? with
  | none =>
      have hserve := serve_createSecret valid i fresh hsecret
      refine Prog.Returns.bind (Prog.Returns.attempt (Prog.returns_perform (a := ()) ?_ ?_))
      · exact congrArg Prod.snd hserve
      · show Prog.Returns _ _ (w.serve valid i (.createSecret (certSecret c fresh))).1 _
        rw [hserve]
        exact Prog.Returns.bind (Prog.returns_perform rfl (Prog.returns_pure ⟨rfl, rfl, .inr rfl⟩))
  | some secret =>
      obtain ⟨bundle, hread⟩ := hs secret hsecret
      simp only [Option.bind_some, hread]
      exact Prog.Returns.bind (Prog.returns_perform rfl
        (Prog.returns_pure ⟨rfl, rfl, .inl ⟨secret, hsecret, hread⟩⟩))

theorem patchConfiguration_ok {configurations : StrMap Json} {name webhookName : String}
    (h : Patchable valid configurations name webhookName) (text : String) :
    (patchConfiguration valid configurations name (caBundlePatch webhookName text)).2 = .ok () := by
  obtain ⟨configuration, hfind, hvalid⟩ := h
  simp only [patchConfiguration, hfind, hvalid text, if_true]

theorem withContext_returns {α : Type} {text : String} {p : BootOp α} {Q : α → BootWorld ι → Prop}
    (h : p.Returns (BootWorld.serve valid i) w Q) :
    (withContext text p).Returns (BootWorld.serve valid i) w Q :=
  Prog.Returns.bind (Prog.Returns.attempt (h.mono (fun _ _ ha => Prog.returns_pure ha)))

theorem injectCa_returns (hm : Patchable valid w.mutating c.mutatingConfig mutatingWebhookName)
    (hv : Patchable valid w.validating c.validatingConfig validatingWebhookName) (ca : String) :
    (injectCa c ca).Returns (BootWorld.serve valid i) w (fun _ _ => True) := by
  let text := Base64.encode (asBytes ca)
  have hmutating : (w.serve valid i (.patchMutating c.mutatingConfig
      (caBundlePatch mutatingWebhookName text))).2 = .ok () := patchConfiguration_ok hm text
  refine Prog.Returns.bind (withContext_returns (Prog.returns_perform hmutating ?_))
  have hvalidating : ((w.serve valid i (.patchMutating c.mutatingConfig
      (caBundlePatch mutatingWebhookName text))).1.serve valid i (.patchValidating
        c.validatingConfig (caBundlePatch validatingWebhookName text))).2 = .ok () :=
    patchConfiguration_ok hv text
  refine Prog.Returns.bind (withContext_returns (Prog.returns_perform hvalidating ?_))
  exact Prog.returns_perform rfl trivial

/-- What the start of the webhook needs: a Secret that holds a certificate, if there is one;
both webhook configurations; an address; and a certificate that makes a TLS configuration. -/
structure Bootable (valid : Json → Bool) (L : ServerLibrary) (c : Config) (fresh : CertBundle)
    (w : BootWorld ι) : Prop where
  secret : ∀ secret, w.secrets[c.secretKey]? = some secret → ∃ bundle, readBundle secret = some bundle
  mutating : Patchable valid w.mutating c.mutatingConfig mutatingWebhookName
  validating : Patchable valid w.validating c.validatingConfig validatingWebhookName
  addr : ∃ addr, L.parseAddr c.listen = .ok addr
  tls : ∀ bundle, w.Stores c bundle ∨ bundle = fresh →
    ∃ tls, L.fromPem (asBytes bundle.cert) (asBytes bundle.key) = .ok tls

theorem bootstrap_returns {L : ServerLibrary} {fresh : CertBundle} (h : Bootable valid L c fresh w) :
    (bootstrap L c (.ok fresh)).Returns (BootWorld.serve valid i) w (fun _ _ => True) := by
  refine Prog.Returns.bind ((ensureCert_returns h.secret).mono ?_)
  rintro bundle w₁ ⟨hm, hv, hbundle⟩
  refine Prog.Returns.bind (Prog.returns_perform (a := ()) rfl ?_)
  have hmutating : Patchable valid (w₁.serve valid i (.hold bundle)).1.mutating c.mutatingConfig
      mutatingWebhookName := hm ▸ h.mutating
  have hvalidating : Patchable valid (w₁.serve valid i (.hold bundle)).1.validating
      c.validatingConfig validatingWebhookName := hv ▸ h.validating
  refine Prog.Returns.bind ((injectCa_returns hmutating hvalidating bundle.ca).mono (fun _ w₂ _ => ?_))
  obtain ⟨addr, haddr⟩ := h.addr
  obtain ⟨tls, htls⟩ := h.tls bundle hbundle
  simp only [haddr, htls]
  exact Prog.Returns.bind (Prog.returns_perform rfl (Prog.returns_pure trivial))

end served

section comesUp
variable {ι : Type} [DecidableEq ι] {valid : Json → Bool} {S : System} {environ : Environ} {i : ι}
  {w : StartWorld ι} {fresh : CertBundle}

/-- What a process needs to come up: settings that can be read, and what they ask for. -/
structure Startable (valid : Json → Bool) (S : System) (environ : Environ) (fresh : CertBundle)
    (w : StartWorld ι) : Prop where
  gateway : ∃ gateway, GatewayConfig.fromEnv S.readToString environ = .ok gateway
  settings : ∃ settings, Config.fromEnv S.strings environ = .ok settings ∧
    ∀ c, settings = some c → Bootable valid S.server c fresh w.cluster

/-- The process alone, when its calls are served. -/
def StartWorld.obliging (valid : Json → Bool) (i : ι) (w : StartWorld ι) (c : StartCall) :
    StartWorld ι × Except Failure c.Answer := w.react valid i c .served

theorem bootstrap_via_returns {c : Config} (h : Bootable valid S.server c fresh w.cluster) :
    ((bootstrap S.server c (.ok fresh)).via StartCall.boot (fun _ answer => answer)).Returns
      (StartWorld.obliging valid i) w (fun _ _ => True) := by
  obtain ⟨cluster, prepared, houtcome, -⟩ := bootstrap_returns (i := i) h
  have hserved : ∀ (w : BootWorld ι) call, w.react valid i call .served = w.serve valid i call := by
    intro w call
    rw [BootWorld.react, ite_self]
    rfl
  have hvia : ((bootstrap S.server c (.ok fresh)).via StartCall.boot (fun _ answer => answer)).outcome
      (StartWorld.obliging valid i) w =
      ({ w with cluster := ((bootstrap S.server c (.ok fresh)).outcome (BootWorld.serve valid i)
        w.cluster).1 },
        ((bootstrap S.server c (.ok fresh)).outcome (BootWorld.serve valid i) w.cluster).2) := by
    refine Prog.outcome_via StartWorld.cluster (fun w x => { w with cluster := x }) (fun _ _ => rfl)
      (fun _ _ _ => rfl) (fun _ => rfl) (fun w call => ?_) (fun w call => ?_) _ w
    · show { w with cluster := (w.cluster.react valid i call .served).1 } = _
      rw [hserved]
    · show (w.cluster.react valid i call .served).2.map (fun answer => answer) = _
      rw [hserved]
      cases (w.cluster.serve valid i call).2 <;> rfl
  rw [houtcome] at hvia
  exact ⟨_, prepared, hvia, trivial⟩

/-- **A process whose calls are served comes up.** -/
theorem main_returns (h : Startable valid S environ fresh w) :
    (main S environ (.ok fresh)).Returns (StartWorld.obliging valid i) w (fun _ w' =>
      w'.ready i = true ∧ w'.working i = some (Leader.Config.fromEnv environ)) := by
  obtain ⟨gateway, hgateway⟩ := h.gateway
  obtain ⟨settings, hsettings, hboot⟩ := h.settings
  have hwebhook : ∀ w', w'.cluster = w.cluster → (startWebhook S environ (.ok fresh)).Returns
      (StartWorld.obliging valid i) w' (fun _ _ => True) := by
    intro w' hw'
    rw [startWebhook, hsettings]
    cases settings with
    | none => exact Prog.returns_pure trivial
    | some c =>
        have hc : Bootable valid S.server c fresh w'.cluster := hw' ▸ hboot c rfl
        exact Prog.Returns.bind ((bootstrap_via_returns hc).mono
          (fun _ _ _ => Prog.returns_perform rfl trivial))
  refine Prog.Returns.bind (Prog.returns_perform (a := ()) rfl ?_)
  simp only [hgateway]
  refine Prog.Returns.bind (Prog.returns_perform (a := ()) rfl ?_)
  refine Prog.Returns.bind (Prog.returns_perform (a := ()) rfl ?_)
  refine Prog.Returns.bind ((hwebhook _ rfl).mono (fun _ w₁ _ => ?_))
  refine Prog.Returns.bind (Prog.returns_perform (a := ()) rfl ?_)
  exact Prog.returns_perform (a := ()) rfl ⟨Function.update_self .., Function.update_self ..⟩

end comesUp

/-! ### Every run -/

section initially
variable {ι : Type} {S : System} {env : ι → Environ} {config : Config} {w : StartWorld ι}

/-- No process has started yet. -/
structure StartWorld.Initial (w : StartWorld ι) : Prop where
  held : ∀ i, w.cluster.held i = none
  log : w.cluster.log = []
  ready : ∀ i, w.ready i = false
  working : ∀ i, w.working i = none

theorem StartWorld.Initial.inv (hw : w.Initial) : Inv S env config w := by
  refine ⟨⟨fun i bundle hi => ?_, fun i hi => ?_⟩, fun i hi => ?_, fun i election hi => ?_⟩
  · rw [hw.held i] at hi
    cases hi
  · rw [hw.log] at hi
    cases hi
  · rw [hw.ready i] at hi
    cases hi
  · rw [hw.working i] at hi
    cases hi

/-- Process `i`, with the settings `c`, confines: it serves the webhook with the wrapper of its
settings, which is not empty, and with the stored certificate, whose CA both webhook configurations
carry; and whatever that webhook allows, for any request and any outcome of the pod lookup, is
confined by the wrapper, or an exec that cannot be patched. -/
structure Confines (S : System) (config : Config) (i : ι) (c : Config) (w : StartWorld ι) : Prop where
  serves : ∃ prepared bundle, w.serving i = some prepared ∧ w.cluster.Trusts config bundle ∧
    S.server.fromPem (asBytes bundle.cert) (asBytes bundle.key) = .ok prepared.tls
  wrapper : c.wrapper ≠ []
  exec : ∀ prepared, w.serving i = some prepared → ∀ (L : Library)
    (getPod : String → String → Except String Pod) (body : List UInt8),
    (handleExec L getPod prepared.wrapper body).allowed →
      ExecConfined L getPod c.wrapper body (handleExec L getPod prepared.wrapper body) ∨
        ExecVoid L getPod body (handleExec L getPod prepared.wrapper body)
  guard : ∀ (L : Library) (getPod : String → String → Except String Pod) (body : List UInt8),
    (handleGuard L getPod body).allowed → GuardConfined L getPod body

theorem confines_of_up {i : ι} {c : Config} (hread : Config.fromEnv S.strings (env i) = .ok (some c))
    (h : Serves S config i w (some c)) : Confines S config i c w := by
  obtain ⟨prepared, hserving, hoffers⟩ := h
  obtain ⟨bundle, htrusts, htls⟩ := hoffers.tls
  refine ⟨⟨prepared, bundle, hserving, htrusts, htls⟩, (wrapper_of_fromEnv hread).2, ?_,
    fun L getPod body => handleGuard_confined L getPod body⟩
  intro prepared' hserving' L getPod body hallowed
  rw [hserving, Option.some.injEq] at hserving'
  subst hserving'
  rw [hoffers.wrapper] at hallowed ⊢
  exact handleExec_confined L getPod c.wrapper body hallowed

theorem readyz_iff {w : StartWorld ι} {i : ι} : w.readyz i = 200 ↔ w.ready i = true := by
  cases h : w.ready i <;> simp [StartWorld.readyz, h]

end initially

section runs
variable {ι : Type} [DecidableEq ι] {valid : Json → Bool} {S : System} {env : ι → Environ}
  {config : Config} {w : StartWorld ι}
  {s : Conf ι StartCall.Answer Failure Unit (StartWorld ι)}

theorem reach_startInv (hshares : ∀ i c, Config.fromEnv S.strings (env i) = .ok (some c) →
    Shares config c) (hw : w.Initial)
    (h : Reach (StartWorld.react valid) (Starts S env) (StartWorld.Env config) (Conf.idle w) s) :
    Inv S env config s.world := by
  refine (Reach.safe (I := Inv S env config) (R := fun i => StartWorld.later config i)
    (G := fun i => Guarantee S env config i) (Q := fun _ r w' => ∀ a, r = .ok a → True)
    ?_ ?_ ?_ h hw.inv).1
  · rintro i w' p - ⟨⟨-, hserving, -⟩, generated, rfl⟩
    exact main_keeps (hshares i) generated hserving
  · intro i c f w' hinv hc
    exact hinv.react hc f
  · intro w' w'' hinv hm
    exact ⟨hinv.outside hm, fun i => ⟨hm.cluster.later, congrFun hm.ready i, congrFun hm.serving i⟩⟩

end runs

/-! ### Two replicas of one installation -/

namespace Sample

/-- Replica 1 has the default wrapper, replica 0 one of its own. -/
def environ (i : Bool) (key : String) : Except String String :=
  match ([("OPENSHELL_WEBHOOK_ENABLED", "true"), ("OPENSHELL_WEBHOOK_NAMESPACE", "system"),
    ("OPENSHELL_WEBHOOK_SERVICE", "webhook"), ("OPENSHELL_WEBHOOK_SECRET", "webhook-tls"),
    ("OPENSHELL_WEBHOOK_MUTATING_CONFIG", "exec"),
    ("OPENSHELL_WEBHOOK_VALIDATING_CONFIG", "guard")] ++
      if i then [] else [("OPENSHELL_WEBHOOK_WRAPPER", "[\"wrap\"]")]).lookup key with
  | some value => .ok value
  | none => .error "environment variable not found"

def system : System where
  server := Webhook.Sample.serverLibrary
  strings raw := if raw = "[\"wrap\"]" then .ok ["wrap"] else .error "expected value"
  readToString _ := .error "No such file or directory"
  anyhow err := .message err.reason

def settings (i : Bool) : Config :=
  { Webhook.Sample.config with wrapper := if i then defaultWrapper else ["wrap"] }

def nothingStarted : StartWorld Bool where
  cluster := Webhook.Sample.cluster

/-- Replica `i` starts, and all its calls are served. -/
def comeUp (i : Bool) (w : StartWorld Bool) : StartWorld Bool :=
  (Prog.exec (StartWorld.react (fun _ => true) i) (List.replicate 15 .served)
    (main system (environ i) (.ok (Webhook.Sample.bundle i))) w).2

theorem fromEnv_environ (i : Bool) :
    Config.fromEnv system.strings (environ i) = .ok (some (settings i)) := by
  cases i <;> rfl

end Sample

end Startup
end OpenShell
