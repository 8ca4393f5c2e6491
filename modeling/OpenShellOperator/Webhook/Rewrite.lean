import OpenShellOperator.Webhook
import Mathlib.Logic.Relation

/-! # Rewriting an exec

An exec into an agent container of a sandbox pod is rewritten by a patch of its options.
`exec_rewritten` follows the options through the decision, the encoded patch and its
application: the command is the original one with the wrapper in front, once, and no other field
changes.  The rewritten command starts with the wrapper, so that the webhook lets its own output
pass, however often it is invoked again.  An exec without a command is denied. -/

namespace OpenShell.Webhook
open Wire

section rewrite
variable (L : Library) (getPod : String → String → Except String Pod) (wrapper : List String)

/-! ### Execs into the agent container -/

/-- The options `fields` of an exec of the named pod go to an agent container of a sandbox pod. -/
structure AgentExec (ns name : String) (fields : List (String × Json)) : Prop where
  pod : ∃ pod target, getPod ns name = .ok pod ∧ OwnedBySandbox pod ∧
    targetOf pod (.obj fields) = some target ∧ Marked pod target

/-- A review of an exec of the named pod with the options `fields`. -/
def Reviews (ns name : String) (fields : List (String × Json)) (body : List UInt8) : Prop :=
  ∃ req, L.parseReview body = some req ∧ req.namespace_ = some ns ∧ req.name = some name ∧
    req.object = .obj fields

/-- The command of exec options. -/
def commandOf (fields : List (String × Json)) : List String := (execOptions (.obj fields)).command

/-- The options after the webhook: every field but the command is unchanged, and the command is
the original one with the wrapper in front, once. -/
structure Rewritten (fields fields' : List (String × Json)) : Prop where
  others : ∀ k, k ≠ "command" → Json.find k fields' = Json.find k fields
  command : commandOf fields' =
    if wrapper <+: commandOf fields then commandOf fields else wrapper ++ commandOf fields

/-- One application of the webhook: a review of the options is allowed, and its patch makes the
new options. -/
def Applied (ns name : String) (fields fields' : List (String × Json)) : Prop :=
  ∃ body, Reviews L ns name fields body ∧ (handleExec L getPod wrapper body).allowed = true ∧
    admitted L (.obj fields) (handleExec L getPod wrapper body) = some (.obj fields')

variable {L getPod wrapper} {ns name : String} {fields : List (String × Json)} {body : List UInt8}

/-- The decision for an exec into an agent container looks at the command only. -/
theorem decideExec_agent {pod : Pod} {target requested : String} (command : List String)
    (howned : OwnedBySandbox pod)
    (htarget : (PodFacts.fromPod pod).resolveContainer requested = some target)
    (hmarked : Marked pod target) :
    decideExec command requested (.fromPod pod) wrapper =
      if command = [] then .deny "exec into a sandbox requires a command"
      else if wrapper <+: command then .passthrough else .wrap (wrapper ++ command) := by
  have hsandbox := (isSandbox_iff pod).mpr howned
  have hagent := (agentContainers_iff pod target).mpr hmarked
  simp only [decideExec, hsandbox, htarget, hagent, Bool.not_true, Bool.false_eq_true, if_false,
    List.isEmpty_iff, List.isPrefixOf_iff_prefix]

variable (wrapper) in
/-- The response to an exec into an agent container. -/
theorem handleExec_agent (h : AgentExec getPod ns name fields) (hbody : Reviews L ns name fields body) :
    ∃ uid, handleExec L getPod wrapper body =
      if commandOf fields = [] then deny uid "exec into a sandbox requires a command"
      else if wrapper <+: commandOf fields then allow uid
      else wrapped L uid (wrapper ++ commandOf fields) := by
  obtain ⟨req, hreq, hns, hname, hobject⟩ := hbody
  obtain ⟨pod, target, hpod, howned, htarget, hmarked⟩ := h.pod
  refine ⟨req.uid, ?_⟩
  simp only [handleExec, hreq, hns, hname, hpod, hobject,
    decideExec_agent _ howned htarget hmarked, commandOf]
  by_cases hcommand : (execOptions (.obj fields)).command = []
  · simp only [hcommand, if_true]
  · by_cases hprefix : wrapper <+: (execOptions (.obj fields)).command
    · simp only [hcommand, hprefix, if_true, if_false]
    · simp only [hcommand, hprefix, if_false]

/-! ### The rewritten options -/

/-- Options with a command have both fields well formed. -/
theorem execOptions_of_command (h : commandOf fields ≠ []) :
    ∃ v, Json.find "command" fields = some v ∧
      containerField fields = some (execOptions (.obj fields)).container := by
  rcases execOptions_nonempty h with ⟨m, v, container, hm, hfind, hcontainer⟩ | ⟨items, hitems⟩
  · cases hm
    refine ⟨v, hfind, ?_⟩
    cases hcommand : commandField fields with
    | none => simp [commandOf, execOptions, PodExecOptions.fromValue, hcommand] at h
    | some command => simp [execOptions, PodExecOptions.fromValue, hcommand, hcontainer]
  · cases hitems

theorem commandOf_insert (h : commandOf fields ≠ []) (command : List String) :
    commandOf (Json.insert "command" (.ofStrings command) fields) = command := by
  obtain ⟨v, -, hcontainer⟩ := execOptions_of_command h
  exact execOptions_insert_command fields command hcontainer

/-- The patch leaves the container that is asked for. -/
theorem container_insert (h : commandOf fields ≠ []) (command : List String) :
    (execOptions (.obj (Json.insert "command" (.ofStrings command) fields))).container =
      (execOptions (.obj fields)).container := by
  obtain ⟨v, -, hcontainer⟩ := execOptions_of_command h
  have hfield : containerField (Json.insert "command" (.ofStrings command) fields) =
      containerField fields := by
    rw [containerField, containerField, Json.find_insert, if_neg (by decide)]
  have hcommand : commandField (Json.insert "command" (.ofStrings command) fields) =
      some command := by
    rw [commandField, Json.find_insert, if_pos rfl]
    exact stringsFromValue_ofStrings command
  generalize (execOptions (.obj fields)).container = container at hcontainer ⊢
  simp [execOptions, PodExecOptions.fromValue, hcommand, hfield, hcontainer]

theorem admitted_wrapped (h : commandOf fields ≠ []) (uid : String) (command : List String) :
    admitted L (.obj fields) (wrapped L uid command) =
      some (.obj (Json.insert "command" (.ofStrings command) fields)) := by
  obtain ⟨v, hfind, -⟩ := execOptions_of_command h
  simp only [admitted, wrapped, Base64.decode_encode, Option.bind_some, L.fromSlice_toVec,
    applyPatch_command, hfind, Option.map_some]

/-- The options the webhook leaves: those with the wrapper in front stay as they are. -/
def rewrite (wrapper : List String) (fields : List (String × Json)) : List (String × Json) :=
  if wrapper <+: commandOf fields then fields
  else Json.insert "command" (.ofStrings (wrapper ++ commandOf fields)) fields

theorem rewritten_rewrite (h : commandOf fields ≠ []) :
    Rewritten wrapper fields (rewrite wrapper fields) := by
  unfold rewrite
  split_ifs with hprefix
  · exact ⟨fun _ _ => rfl, by rw [if_pos hprefix]⟩
  · refine ⟨fun k hk => ?_, ?_⟩
    · rw [Json.find_insert, if_neg hk.symm]
    · rw [commandOf_insert h, if_neg hprefix]

/-- The rewritten command starts with the wrapper. -/
theorem Rewritten.starts {fields' : List (String × Json)} (h : Rewritten wrapper fields fields') :
    wrapper <+: commandOf fields' := by
  rw [h.command]
  split_ifs with hprefix
  · exact hprefix
  · exact List.prefix_append _ _

/-- The rewritten options go to the same container. -/
theorem AgentExec.rewrite (h : AgentExec getPod ns name fields) (hcommand : commandOf fields ≠ []) :
    AgentExec getPod ns name (rewrite wrapper fields) := by
  unfold Webhook.rewrite
  split_ifs with hprefix
  · exact h
  · obtain ⟨pod, target, hpod, howned, htarget, hmarked⟩ := h.pod
    refine ⟨pod, target, hpod, howned, ?_, hmarked⟩
    rw [← htarget, targetOf, targetOf, container_insert hcommand]

variable (wrapper) in
/-- What one application of the webhook does to an exec with a command. -/
theorem handleExec_rewrites (h : AgentExec getPod ns name fields) (hcommand : commandOf fields ≠ [])
    (hbody : Reviews L ns name fields body) :
    (handleExec L getPod wrapper body).allowed = true ∧
      admitted L (.obj fields) (handleExec L getPod wrapper body) =
        some (.obj (rewrite wrapper fields)) := by
  obtain ⟨uid, hresponse⟩ := handleExec_agent wrapper h hbody
  rw [hresponse, if_neg hcommand, rewrite]
  split_ifs with hprefix
  · exact ⟨rfl, rfl⟩
  · exact ⟨rfl, admitted_wrapped hcommand uid _⟩

/-- Applied to options with the wrapper in front, the webhook changes nothing. -/
theorem applied_of_starts {fields' : List (String × Json)} (h : AgentExec getPod ns name fields)
    (hcommand : commandOf fields ≠ []) (hstarts : wrapper <+: commandOf fields)
    (happlied : Applied L getPod wrapper ns name fields fields') : fields' = fields := by
  obtain ⟨body, hbody, -, hadmitted⟩ := happlied
  rw [(handleExec_rewrites wrapper h hcommand hbody).2, rewrite, if_pos hstarts, Option.some.injEq,
    Json.obj.injEq] at hadmitted
  exact hadmitted.symm

theorem commandOf_rewrite_ne_nil (h : commandOf fields ≠ []) :
    commandOf (rewrite wrapper fields) ≠ [] := by
  rw [(rewritten_rewrite h).command]
  split_ifs
  · exact h
  · exact List.append_ne_nil_of_right_ne_nil _ h

/-- However often the webhook is applied to its own output, nothing changes further. -/
theorem applied_again {fields' : List (String × Json)} (h : AgentExec getPod ns name fields)
    (hcommand : commandOf fields ≠ [])
    (hagain : Relation.ReflTransGen (Applied L getPod wrapper ns name) (rewrite wrapper fields)
      fields') : fields' = rewrite wrapper fields := by
  induction hagain with
  | refl => rfl
  | tail _ happlied ih =>
      subst ih
      exact applied_of_starts (h.rewrite hcommand) (commandOf_rewrite_ne_nil hcommand)
        (rewritten_rewrite hcommand).starts happlied

end rewrite

namespace Sample

theorem pod_marked : OwnedBySandbox pod ∧ Marked pod "agent" :=
  ⟨⟨⟨"agents.x-k8s.io/v1alpha1", "Sandbox"⟩, by decide, by decide, by decide⟩,
    ⟨"agent", some ["OPENSHELL_SANDBOX_ID"]⟩, by decide, rfl, by decide⟩

/-- An exec that names no container goes to the agent. -/
theorem agentExec {fields : List (String × Json)}
    (h : (execOptions (.obj fields)).container = none) : AgentExec getPod "team" "dev-0" fields := by
  refine ⟨pod, "agent", rfl, pod_marked.1, ?_, pod_marked.2⟩
  rw [targetOf, h]
  rfl

/-- A review of an exec with an empty command. -/
def emptyRequest : AdmissionRequest :=
  ⟨"u2", some "team", some "dev-0", some "exec", .obj [("command", .arr [])]⟩

def emptyBody : List UInt8 :=
  ("\x7b\"request\":\x7b\"uid\":\"u2\",\"namespace\":\"team\",\"name\":\"dev-0\"," ++
    "\"subResource\":\"exec\",\"object\":\x7b\"command\":[]\x7d\x7d\x7d").toUTF8.data.toList

noncomputable def emptyLibrary : Library :=
  { library with parseReview := fun b => if b = emptyBody then some emptyRequest else none }

end Sample
end OpenShell.Webhook
