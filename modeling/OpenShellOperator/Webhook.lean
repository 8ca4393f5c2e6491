import OpenShellOperator.Wire.Base64
import OpenShellOperator.Wire.Json

/-! # Admission webhooks

The two webhooks that confine interactive access to sandbox pods: `handleExec` rewrites an
exec into the agent container so that it re-enters the sandbox, and `handleGuard` refuses
attach and ephemeral containers.  Parsing a request body or a pod, and JSON as bytes, are the
JSON library's work and stand as parameters, with the round trip of values as a law.

`confined` is what the webhooks promise for every request body and every outcome of the pod
lookup: an exec that is allowed goes to a pod without a sandbox owner, unchanged, or runs the
wrapper in a container marked as the agent; or its options are a JSON array, which the parser
reads like an object, but to which the patch of the command does not apply. -/

namespace OpenShell.Webhook
open Wire

/-! ### Requests, pods and responses -/

structure AdmissionRequest where
  uid : String
  namespace_ : Option String
  name : Option String
  subResource : Option String
  object : Json
deriving Repr

structure AdmissionResponse where
  uid : String
  allowed : Bool
  status : Option String
  patchType : Option String
  patch : Option String
deriving DecidableEq, Repr

structure OwnerReference where
  apiVersion : String
  kind : String
deriving DecidableEq, Repr

/-- A container: its name and the names of its environment variables. -/
structure Container where
  name : String
  env : Option (List String)
deriving DecidableEq, Repr

structure Pod where
  ownerReferences : Option (List OwnerReference)
  annotations : Option (StrMap String)
  containers : Option (List Container)
deriving DecidableEq, Repr

/-- The patch that replaces the command. -/
def commandPatch (command : List String) : Json :=
  .arr [.ofPairs
    [("op", .str "replace"), ("path", .str "/command"), ("value", .ofStrings command)]]

/-- The JSON library: requests and pods from JSON, and JSON values as bytes.  A patch of the
command is read back from its bytes. -/
structure Library where
  parseReview : List UInt8 → Option AdmissionRequest
  podFromValue : Json → Except String Pod
  toVec : Json → List UInt8
  fromSlice : List UInt8 → Option Json
  fromSlice_toVec : ∀ command, fromSlice (toVec (commandPatch command)) =
    some (commandPatch command)

/-! ### Exec options -/

structure PodExecOptions where
  command : List String := []
  container : Option String := none
deriving DecidableEq, Repr

/-- A list of strings. -/
def stringsFromValue : Json → Option (List String)
  | .arr items => items.mapM (fun v => match v with | .str s => some s | _ => none)
  | _ => none

/-- An optional string; `null` is none. -/
def stringFromValue : Json → Option (Option String)
  | .null => some none
  | .str s => some (some s)
  | _ => none

def commandField (m : List (String × Json)) : Option (List String) :=
  match Json.find "command" m with
  | some v => stringsFromValue v
  | none => some []

def containerField (m : List (String × Json)) : Option (Option String) :=
  match Json.find "container" m with
  | some v => stringFromValue v
  | none => some none

/-- Exec options from a value: an object, or the fields in order; absent fields take their
defaults, a field of the wrong type is an error. -/
def PodExecOptions.fromValue : Json → Option PodExecOptions
  | .obj m => do
      let command ← commandField m
      let container ← containerField m
      some ⟨command, container⟩
  | .arr [] => some {}
  | .arr [c] => do
      let command ← stringsFromValue c
      some ⟨command, none⟩
  | .arr [c, d] => do
      let command ← stringsFromValue c
      let container ← stringFromValue d
      some ⟨command, container⟩
  | _ => none

/-- A malformed object reads as no command. -/
def execOptions (object : Json) : PodExecOptions := (PodExecOptions.fromValue object).getD {}

/-! ### Pods -/

def sandboxIdEnv : String := "OPENSHELL_SANDBOX_ID"
def sandboxOwnerKind : String := "Sandbox"
def sandboxOwnerGroup : String := "agents.x-k8s.io"
def defaultContainerAnnotation : String := "kubectl.kubernetes.io/default-container"

structure PodFacts where
  isSandbox : Bool
  defaultContainer : Option String
  firstContainer : Option String
  agentContainers : List String
deriving DecidableEq, Repr

/-- The API group of an owner: what stands before the first slash. -/
def OwnerReference.group (owner : OwnerReference) : String :=
  String.ofList (owner.apiVersion.toList.takeWhile (· != '/'))

def PodFacts.fromPod (pod : Pod) : PodFacts where
  isSandbox := (pod.ownerReferences.getD []).any (fun owner =>
    owner.kind == sandboxOwnerKind && owner.group == sandboxOwnerGroup)
  defaultContainer := pod.annotations.bind (·[ defaultContainerAnnotation]?)
  firstContainer := (pod.containers.getD []).head?.map (·.name)
  agentContainers := ((pod.containers.getD []).filter (fun c =>
    (c.env.getD []).any (· == sandboxIdEnv))).map (·.name)

/-- The container an exec targets: the requested one, else the annotated one, else the first. -/
def PodFacts.resolveContainer (facts : PodFacts) (requested : String) : Option String :=
  if requested ≠ "" then some requested
  else facts.defaultContainer.or facts.firstContainer

/-! ### The decision -/

inductive ExecAction where
  | passthrough
  | wrap (command : List String)
  | deny (reason : String)
deriving DecidableEq, Repr

def decideExec (command : List String) (requested : String) (facts : PodFacts)
    (wrapper : List String) : ExecAction :=
  if !facts.isSandbox then .passthrough
  else match facts.resolveContainer requested with
    | none => .deny "unable to resolve the target container for exec"
    | some target =>
        if !facts.agentContainers.contains target then
          .deny ("exec into container '" ++ target ++ "' of an OpenShell sandbox pod is not " ++
            "permitted; only the sandboxed agent container may be entered, and only under " ++
            "confinement")
        else if command.isEmpty then .deny "exec into a sandbox requires a command"
        else if wrapper.isPrefixOf command then .passthrough
        else .wrap (wrapper ++ command)

/-! ### Handlers -/

def allow (uid : String) : AdmissionResponse := ⟨uid, true, none, none, none⟩

def deny (uid message : String) : AdmissionResponse := ⟨uid, false, some message, none, none⟩

section handlers
variable (L : Library) (getPod : String → String → Except String Pod) (wrapper : List String)

def wrapped (uid : String) (command : List String) : AdmissionResponse :=
  ⟨uid, true, none, some "JSONPatch", some (Base64.encode (L.toVec (commandPatch command)))⟩

def handleExec (body : List UInt8) : AdmissionResponse :=
  match L.parseReview body with
  | none => deny "" "invalid AdmissionReview payload"
  | some req =>
      match req.namespace_, req.name with
      | some ns, some name =>
          match getPod ns name with
          | .error err =>
              deny req.uid ("cannot verify sandbox status of pod " ++ ns ++ "/" ++ name ++ ": " ++ err)
          | .ok pod =>
              let exec := execOptions req.object
              match decideExec exec.command (exec.container.getD "") (.fromPod pod) wrapper with
              | .passthrough => allow req.uid
              | .wrap command => wrapped L req.uid command
              | .deny reason => deny req.uid reason
      | _, _ => deny req.uid "exec request is missing the pod namespace or name"

/-- The pod a guarded request is about: the object itself for ephemeral containers, the pod
it names otherwise. -/
def guardedPod (req : AdmissionRequest) : Except String Pod :=
  if req.subResource = some "ephemeralcontainers" then
    match L.podFromValue req.object with
    | .ok pod => .ok pod
    | .error err => .error ("cannot parse pod object: " ++ err)
  else match req.namespace_, req.name with
    | some ns, some name =>
        match getPod ns name with
        | .ok pod => .ok pod
        | .error err =>
            .error ("cannot verify sandbox status of pod " ++ ns ++ "/" ++ name ++ ": " ++ err)
    | _, _ => .error "request is missing the pod namespace or name"

def handleGuard (body : List UInt8) : AdmissionResponse :=
  match L.parseReview body with
  | none => deny "" "invalid AdmissionReview payload"
  | some req =>
      match guardedPod L getPod req with
      | .error message => deny req.uid message
      | .ok pod =>
          if (PodFacts.fromPod pod).isSandbox then
            deny req.uid ("attaching to, or injecting an ephemeral/debug container into, an " ++
              "OpenShell sandbox pod is not permitted: it would bypass sandbox confinement. " ++
              "Use `kubectl exec`, which is confined.")
          else allow req.uid

end handlers

/-! ### Confinement -/

/-- The pod has a sandbox among its owners. -/
def OwnedBySandbox (pod : Pod) : Prop :=
  ∃ owner ∈ pod.ownerReferences.getD [], owner.kind = sandboxOwnerKind ∧
    owner.group = sandboxOwnerGroup

/-- A container of the pod carries the sandbox marker. -/
def Marked (pod : Pod) (target : String) : Prop :=
  ∃ container ∈ pod.containers.getD [], container.name = target ∧
    sandboxIdEnv ∈ container.env.getD []

/-- The container an exec request targets in a pod. -/
def targetOf (pod : Pod) (object : Json) : Option String :=
  (PodFacts.fromPod pod).resolveContainer ((execOptions object).container.getD "")

/-- The exec options after the response's patch: unchanged without one, none if the patch
does not apply. -/
def admitted (L : Library) (object : Json) (response : AdmissionResponse) : Option Json :=
  match response.patch with
  | none => some object
  | some text =>
      ((Base64.decode text).bind L.fromSlice).bind (fun patch => Json.applyPatch patch object)

/-- The exec runs the wrapper: it is admitted with the wrapper in front of its command. -/
def RunsWrapped (L : Library) (wrapper : List String) (object : Json)
    (response : AdmissionResponse) : Prop :=
  ∃ object', admitted L object response = some object' ∧ wrapper <+: (execOptions object').command

/-- The exec cannot be patched: its options are a JSON array, to which the patch of the command
in the response does not apply, so that nothing is admitted. -/
def Unpatchable (L : Library) (object : Json) (response : AdmissionResponse) : Prop :=
  (∃ items, object = .arr items) ∧ response.patch ≠ none ∧ admitted L object response = none

theorem isSandbox_iff (pod : Pod) : (PodFacts.fromPod pod).isSandbox ↔ OwnedBySandbox pod := by
  simp [PodFacts.fromPod, OwnedBySandbox]

theorem agentContainers_iff (pod : Pod) (target : String) :
    (PodFacts.fromPod pod).agentContainers.contains target ↔ Marked pod target := by
  simp only [PodFacts.fromPod, Marked, List.contains_iff_mem, List.mem_map, List.mem_filter,
    List.any_eq_true, beq_iff_eq, exists_eq_right]
  constructor
  · rintro ⟨c, ⟨hc, henv⟩, hname⟩
    exact ⟨c, hc, hname, henv⟩
  · rintro ⟨c, hc, hname, henv⟩
    exact ⟨c, ⟨hc, henv⟩, hname⟩

/-- **The decision.**  An exec that is not denied goes to a pod without a sandbox owner, or to
a marked container with a command; there it passes only with the wrapper in front. -/
theorem decideExec_cases (command : List String) (requested : String) (pod : Pod)
    (wrapper : List String) :
    (∃ reason, decideExec command requested (.fromPod pod) wrapper = .deny reason) ∨
      (¬ OwnedBySandbox pod ∧ decideExec command requested (.fromPod pod) wrapper = .passthrough) ∨
      ∃ target, (PodFacts.fromPod pod).resolveContainer requested = some target ∧
        Marked pod target ∧ command ≠ [] ∧
        ((wrapper <+: command ∧
            decideExec command requested (.fromPod pod) wrapper = .passthrough) ∨
          decideExec command requested (.fromPod pod) wrapper = .wrap (wrapper ++ command)) := by
  unfold decideExec
  by_cases hs : (PodFacts.fromPod pod).isSandbox
  · simp only [hs, Bool.not_true, Bool.false_eq_true, if_false]
    cases ht : (PodFacts.fromPod pod).resolveContainer requested with
    | none => exact .inl ⟨_, rfl⟩
    | some target =>
        by_cases hm : (PodFacts.fromPod pod).agentContainers.contains target
        · simp only [hm, Bool.not_true, Bool.false_eq_true, if_false]
          by_cases hc : command = []
          · subst hc
            exact .inl ⟨_, rfl⟩
          · have hempty : command.isEmpty = false := by simpa using hc
            simp only [hempty, Bool.false_eq_true, if_false]
            refine .inr (.inr ⟨target, rfl, (agentContainers_iff pod target).mp hm, hc, ?_⟩)
            by_cases hp : wrapper.isPrefixOf command
            · simp only [hp, if_true]
              exact .inl ⟨List.isPrefixOf_iff_prefix.mp hp, trivial⟩
            · simp only [hp, Bool.false_eq_true, if_false]
              exact .inr trivial
        · simp only [hm, Bool.not_false, if_true]
          exact .inl ⟨_, rfl⟩
  · have hn : (PodFacts.fromPod pod).isSandbox = false := by simpa using hs
    simp only [hn, Bool.not_false, if_true]
    exact .inr (.inl ⟨fun h => hs ((isSandbox_iff pod).mpr h), trivial⟩)

/-! ### The rewritten command -/

theorem stringsFromValue_ofStrings (l : List String) :
    stringsFromValue (.ofStrings l) = some l := by
  unfold Json.ofStrings stringsFromValue
  induction l with
  | nil => rfl
  | cons s l ih => simp [List.mapM_cons, ih]

theorem applyPatch_command (command : List String) (m : List (String × Json)) :
    Json.applyPatch (commandPatch command) (.obj m) =
      (Json.find "command" m).map (fun _ => .obj (Json.insert "command" (.ofStrings command) m)) := by
  have hop : Json.applyOp (.obj m) (.ofPairs [("op", .str "replace"), ("path", .str "/command"),
      ("value", .ofStrings command)]) =
        (Json.pointer "/command").bind (fun keys =>
          Json.replaceAt (.ofStrings command) keys (.obj m)) := by
    simp [Json.applyOp, Json.ofPairs, Json.get?, Json.find_insert]
  have hptr : Json.pointer "/command" = some ["command"] := by decide
  show (Json.applyOp (.obj m) _ >>= fun s => some s) = _
  rw [hop, hptr]
  cases hf : Json.find "command" m <;> simp [Json.replaceAt, hf]

theorem applyPatch_command_arr (command : List String) (items : List Json) :
    Json.applyPatch (commandPatch command) (.arr items) = none := by
  have hop : Json.applyOp (.arr items) (.ofPairs [("op", .str "replace"),
      ("path", .str "/command"), ("value", .ofStrings command)]) =
        (Json.pointer "/command").bind (fun keys =>
          Json.replaceAt (.ofStrings command) keys (.arr items)) := by
    simp [Json.applyOp, Json.ofPairs, Json.get?, Json.find_insert]
  have hptr : Json.pointer "/command" = some ["command"] := by decide
  have hindex : Json.arrayIndex "command" = none := by decide
  show (Json.applyOp (.arr items) _ >>= fun s => some s) = none
  rw [hop, hptr]
  simp [Json.replaceAt, hindex]

/-- Options with a command come from an object with a command field, or from an array. -/
theorem execOptions_nonempty {object : Json} (h : (execOptions object).command ≠ []) :
    (∃ m v container, object = .obj m ∧ Json.find "command" m = some v ∧
      containerField m = some container) ∨ ∃ items, object = .arr items := by
  cases object with
  | obj m =>
      cases hf : Json.find "command" m with
      | none =>
          have hempty : commandField m = some [] := by rw [commandField, hf]
          cases hc : containerField m <;>
            simp [execOptions, PodExecOptions.fromValue, hempty, hc] at h
      | some v =>
          cases hc : containerField m with
          | none => simp [execOptions, PodExecOptions.fromValue, hc] at h
          | some container => exact .inl ⟨m, v, container, rfl, hf, hc⟩
  | arr items => exact .inr ⟨items, rfl⟩
  | _ => simp [execOptions, PodExecOptions.fromValue] at h

/-- The patch puts the rewritten command in place. -/
theorem execOptions_insert_command (m : List (String × Json)) (command : List String)
    {container : Option String} (hc : containerField m = some container) :
    (execOptions (.obj (Json.insert "command" (.ofStrings command) m))).command = command := by
  have hcontainer : containerField (Json.insert "command" (.ofStrings command) m) =
      some container := by
    rw [← hc, containerField, containerField, Json.find_insert, if_neg (by decide)]
  have hcommand : commandField (Json.insert "command" (.ofStrings command) m) =
      some command := by
    rw [commandField, Json.find_insert, if_pos rfl]
    exact stringsFromValue_ofStrings command
  simp [execOptions, PodExecOptions.fromValue, hcommand, hcontainer]

theorem wrapped_runs (L : Library) (uid : String) (wrapper : List String) {object : Json}
    (h : (execOptions object).command ≠ []) :
    RunsWrapped L wrapper object (wrapped L uid (wrapper ++ (execOptions object).command)) ∨
      Unpatchable L object (wrapped L uid (wrapper ++ (execOptions object).command)) := by
  have hadm : admitted L object (wrapped L uid (wrapper ++ (execOptions object).command)) =
      Json.applyPatch (commandPatch (wrapper ++ (execOptions object).command)) object := by
    simp only [admitted, wrapped, Base64.decode_encode, Option.bind_some, L.fromSlice_toVec]
  rcases execOptions_nonempty h with ⟨m, v, container, rfl, hf, hc⟩ | ⟨items, rfl⟩
  · left
    refine ⟨.obj (Json.insert "command" (.ofStrings (wrapper ++ (execOptions (.obj m)).command)) m),
      ?_, ?_⟩
    · rw [hadm, applyPatch_command, hf, Option.map_some]
    · rw [execOptions_insert_command m _ hc]
      exact List.prefix_append _ _
  · right
    refine ⟨⟨items, rfl⟩, Option.some_ne_none _, ?_⟩
    rw [hadm, applyPatch_command_arr]

/-! ### The webhooks -/

/-- The body is a review of an exec, whose pod was fetched. -/
def ExecOf (L : Library) (getPod : String → String → Except String Pod) (body : List UInt8)
    (req : AdmissionRequest) (pod : Pod) : Prop :=
  L.parseReview body = some req ∧
    ∃ ns name, req.namespace_ = some ns ∧ req.name = some name ∧ getPod ns name = .ok pod

/-- What an allowed exec promises. -/
def ExecConfined (L : Library) (getPod : String → String → Except String Pod)
    (wrapper : List String) (body : List UInt8) (response : AdmissionResponse) : Prop :=
  ∃ req pod, ExecOf L getPod body req pod ∧
    ((¬ OwnedBySandbox pod ∧ response.patch = none) ∨
      ∃ target, targetOf pod req.object = some target ∧ Marked pod target ∧
        RunsWrapped L wrapper req.object response)

/-- The exception: an allowed exec into an agent container that cannot be patched, and so has no
command at all. -/
def ExecVoid (L : Library) (getPod : String → String → Except String Pod) (body : List UInt8)
    (response : AdmissionResponse) : Prop :=
  ∃ req pod, ExecOf L getPod body req pod ∧
    ∃ target, targetOf pod req.object = some target ∧ Marked pod target ∧
      Unpatchable L req.object response

/-- What an allowed attach or ephemeral container promises. -/
def GuardConfined (L : Library) (getPod : String → String → Except String Pod)
    (body : List UInt8) : Prop :=
  ∃ req pod, L.parseReview body = some req ∧ ¬ OwnedBySandbox pod ∧
    if req.subResource = some "ephemeralcontainers" then L.podFromValue req.object = .ok pod
    else ∃ ns name, req.namespace_ = some ns ∧ req.name = some name ∧ getPod ns name = .ok pod

theorem handleExec_confined (L : Library) (getPod : String → String → Except String Pod)
    (wrapper : List String) (body : List UInt8)
    (h : (handleExec L getPod wrapper body).allowed) :
    ExecConfined L getPod wrapper body (handleExec L getPod wrapper body) ∨
      ExecVoid L getPod body (handleExec L getPod wrapper body) := by
  unfold handleExec at h ⊢
  cases hreq : L.parseReview body with
  | none => simp [hreq, deny] at h
  | some req =>
      cases hns : req.namespace_ with
      | none => simp [hreq, hns, deny] at h
      | some ns =>
          cases hname : req.name with
          | none => simp [hreq, hns, hname, deny] at h
          | some name =>
              cases hpod : getPod ns name with
              | error err => simp [hreq, hns, hname, hpod, deny] at h
              | ok pod =>
                  simp only [hreq, hns, hname, hpod] at h ⊢
                  have hexec : ExecOf L getPod body req pod := ⟨hreq, ns, name, hns, hname, hpod⟩
                  rcases decideExec_cases (execOptions req.object).command
                    ((execOptions req.object).container.getD "") pod wrapper with
                      ⟨reason, hd⟩ | ⟨hfree, hd⟩ |
                      ⟨target, htarget, hmarked, hcommand, ⟨hwrapped, hd⟩ | hd⟩
                  · rw [hd] at h
                    simp [deny] at h
                  · rw [hd]
                    exact .inl ⟨req, pod, hexec, .inl ⟨hfree, rfl⟩⟩
                  · rw [hd]
                    exact .inl ⟨req, pod, hexec,
                      .inr ⟨target, htarget, hmarked, req.object, rfl, hwrapped⟩⟩
                  · rw [hd]
                    rcases wrapped_runs L req.uid wrapper hcommand with hruns | hvoid
                    · exact .inl ⟨req, pod, hexec, .inr ⟨target, htarget, hmarked, hruns⟩⟩
                    · exact .inr ⟨req, pod, hexec, target, htarget, hmarked, hvoid⟩

/-- The pod a guarded request is about is the one it carries or the one it names. -/
theorem guardedPod_ok {L : Library} {getPod : String → String → Except String Pod}
    {req : AdmissionRequest} {pod : Pod} (h : guardedPod L getPod req = .ok pod) :
    if req.subResource = some "ephemeralcontainers" then L.podFromValue req.object = .ok pod
    else ∃ ns name, req.namespace_ = some ns ∧ req.name = some name ∧
      getPod ns name = .ok pod := by
  unfold guardedPod at h
  split_ifs at h ⊢ with hsub
  · cases hp : L.podFromValue req.object with
    | ok pod' =>
        rw [hp] at h
        exact congrArg _ (Except.ok.inj h)
    | error err => simp [hp] at h
  · cases hns : req.namespace_ with
    | none => simp [hns] at h
    | some ns =>
        cases hname : req.name with
        | none => simp [hns, hname] at h
        | some name =>
            cases hp : getPod ns name with
            | ok pod' =>
                simp only [hns, hname, hp] at h
                exact ⟨ns, name, rfl, rfl, hp.trans (congrArg _ (Except.ok.inj h))⟩
            | error err => simp [hns, hname, hp] at h

theorem handleGuard_confined (L : Library) (getPod : String → String → Except String Pod)
    (body : List UInt8) (h : (handleGuard L getPod body).allowed) :
    GuardConfined L getPod body := by
  unfold handleGuard at h
  cases hreq : L.parseReview body with
  | none => simp [hreq, deny] at h
  | some req =>
      cases hpod : guardedPod L getPod req with
      | error message => simp [hreq, hpod, deny] at h
      | ok pod =>
          simp only [hreq, hpod] at h
          split_ifs at h with hs
          · simp [deny] at h
          · have hfree : ¬ OwnedBySandbox pod := fun ho => hs ((isSandbox_iff pod).mpr ho)
            exact ⟨req, pod, hreq, hfree, guardedPod_ok hpod⟩

/-- **Fail-closed confinement.**  For every request body and every outcome of the pod lookup:
an exec that is allowed was parsed and its pod was fetched, and either the pod has no sandbox
owner and the exec is unchanged, or it targets a container that carries the sandbox marker and
runs the wrapper, unless its options are a JSON array, to which the patch in the response does
not apply, so that it has no command; an attach or ephemeral-container request that is allowed
was parsed, and its pod has no sandbox owner. -/
theorem confined (L : Library) (getPod : String → String → Except String Pod)
    (wrapper : List String) (body : List UInt8) :
    ((handleExec L getPod wrapper body).allowed →
      ExecConfined L getPod wrapper body (handleExec L getPod wrapper body) ∨
        ExecVoid L getPod body (handleExec L getPod wrapper body)) ∧
    ((handleGuard L getPod body).allowed → GuardConfined L getPod body) :=
  ⟨handleExec_confined L getPod wrapper body, handleGuard_confined L getPod body⟩

namespace Sample

/-- The wrapper an installation has by default. -/
def wrapper : List String := ["/opt/openshell/bin/openshell-sandbox", "--mode=process", "--"]

/-- A sandbox pod whose agent container is its first one. -/
def pod : Pod where
  ownerReferences := some [⟨"agents.x-k8s.io/v1alpha1", "Sandbox"⟩]
  annotations := none
  containers := some [⟨"agent", some ["OPENSHELL_SANDBOX_ID"]⟩, ⟨"sidecar", none⟩]

def getPod (ns name : String) : Except String Pod :=
  if ns = "team" ∧ name = "dev-0" then .ok pod else .error "pods not found"

def request : AdmissionRequest :=
  ⟨"u1", some "team", some "dev-0", some "exec", .obj [("command", .arr [.str "id"])]⟩

def body : List UInt8 :=
  ("\x7b\"request\":\x7b\"uid\":\"u1\",\"namespace\":\"team\",\"name\":\"dev-0\"," ++
    "\"subResource\":\"exec\",\"object\":\x7b\"command\":[\"id\"]\x7d\x7d\x7d").toUTF8.data.toList

/-- The patch that wraps `id`, as the JSON library writes it. -/
def patchBytes : List UInt8 :=
  ("[\x7b\"op\":\"replace\",\"path\":\"/command\",\"value\":" ++
    "[\"/opt/openshell/bin/openshell-sandbox\",\"--mode=process\",\"--\",\"id\"]\x7d]").toUTF8.data.toList

/-- The patch of `id` as its JSON text, every other value under a code of its own. -/
def toVec (v : Json) : List UInt8 :=
  if Json.code v = Json.code (commandPatch (wrapper ++ ["id"])) then patchBytes
  else 0 :: (Json.text v).toUTF8.data.toList

theorem toVec_injective : Function.Injective toVec := by
  have hpatch : ∀ l, patchBytes ≠ 0 :: l := by
    intro l h
    have hhead : patchBytes.head? ≠ some 0 := by decide +kernel
    exact hhead (congrArg List.head? h)
  intro v w h
  unfold toVec at h
  split_ifs at h with hv hw hw
  · exact Json.code_injective (hv.trans hw.symm)
  · exact absurd h (hpatch _)
  · exact absurd h.symm (hpatch _)
  · apply Json.text_injective
    apply String.toByteArray_inj.mp
    exact ByteArray.ext (Array.toList_inj.mp (List.cons.inj h).2)

noncomputable def library : Library where
  parseReview := fun b => if b = body then some request else none
  podFromValue := fun _ => .error "missing field metadata"
  toVec := toVec
  fromSlice := Function.partialInv toVec
  fromSlice_toVec := fun _ => Function.partialInv_left toVec_injective _

/-- An exec of `id` into the sandbox pod is allowed, and runs the wrapper. -/
theorem exec_of_id_confined :
    (handleExec library getPod wrapper body).allowed = true ∧
      ExecConfined library getPod wrapper body (handleExec library getPod wrapper body) := by
  have h : (handleExec library getPod wrapper body).allowed = true := by
    decide +kernel
  refine ⟨h, ((confined library getPod wrapper body).1 h).resolve_right ?_⟩
  rintro ⟨req, pod, ⟨hreq, -⟩, target, -, -, ⟨items, hitems⟩, -⟩
  have hrequest : req = request := by simpa [library] using hreq.symm
  rw [hrequest] at hitems
  cases hitems

/-- A review of the exec of `id` whose options are their fields in order. -/
def arrayRequest : AdmissionRequest :=
  ⟨"u3", some "team", some "dev-0", some "exec", .arr [.arr [.str "id"], .str "agent"]⟩

def arrayBody : List UInt8 :=
  ("\x7b\"request\":\x7b\"uid\":\"u3\",\"namespace\":\"team\",\"name\":\"dev-0\"," ++
    "\"subResource\":\"exec\",\"object\":[[\"id\"],\"agent\"]\x7d\x7d").toUTF8.data.toList

noncomputable def arrayLibrary : Library :=
  { library with parseReview := fun b => if b = arrayBody then some arrayRequest else none }

/-- An exec whose options are an array is allowed with a patch, but after this patch it does not
run the wrapper: the patch does not apply. -/
theorem array_exec_unwrapped : wrapper ≠ [] ∧
    (handleExec arrayLibrary getPod wrapper arrayBody).allowed = true ∧
    ¬ ExecConfined arrayLibrary getPod wrapper arrayBody
      (handleExec arrayLibrary getPod wrapper arrayBody) := by
  have hresponse : handleExec arrayLibrary getPod wrapper arrayBody =
      wrapped arrayLibrary "u3" (wrapper ++ ["id"]) := by
    simp only [handleExec, arrayLibrary, if_true]
    rfl
  rw [hresponse]
  refine ⟨by decide, rfl, ?_⟩
  rintro ⟨req, pod, ⟨hreq, -⟩, ⟨-, hpatch⟩ | ⟨target, -, -, object', hadmitted, -⟩⟩
  · cases hpatch
  · have hrequest : req = arrayRequest := by simpa [arrayLibrary] using hreq.symm
    simp only [hrequest, arrayRequest, admitted, wrapped, Base64.decode_encode, Option.bind_some,
      Library.fromSlice_toVec, applyPatch_command_arr] at hadmitted
    cases hadmitted

end Sample

end OpenShell.Webhook
