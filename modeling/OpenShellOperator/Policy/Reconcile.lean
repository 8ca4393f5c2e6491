import OpenShellOperator.Calls
import OpenShellOperator.Policy

/-! # Policy reconcile

A policy resource holds no gateway state: its document is validated by the gateway's parser
and the result is recorded on the resource. -/

namespace OpenShell
open Effects

/-- The calls of the policy controller. -/
inductive PolicyCall where
  | patchStatus (ns name : String) (status : OpenShellPolicyStatus)
  | publish (ns name : String) (event : Event)
deriving Repr

abbrev PolicyCall.Answer : PolicyCall → Type := fun _ => Unit

abbrev PolicyOp (α : Type) := Prog PolicyCall.Answer Error α

namespace PolicyController

def send (c : PolicyCall) : PolicyOp Unit := Prog.perform (ε := Error) c

/-- The `Ready` condition for the outcome of the validation. -/
def readyCondition (now : Time) (generation : Option Int64) :
    Except Error SandboxPolicy → Condition
  | .ok _ =>
      Conditions.condition Conditions.ready true "Reconciled" "policy document is valid" generation
        now
  | .error err =>
      Conditions.condition Conditions.ready false err.reason err.toString generation now

/-- The status after a validation. -/
def outcomeStatus (now : Time) (policy : OpenShellPolicy) (outcome : Except Error SandboxPolicy) :
    OpenShellPolicyStatus where
  conditions := Conditions.set (policy.status.getD {}).conditions
    (readyCondition now policy.metadata.generation outcome)
  observedGeneration := policy.metadata.generation

/-- An invalid document is recorded with an event; it is no failure of the reconcile. -/
def recordInvalid (ns name : String) : Except Error SandboxPolicy → PolicyOp Unit
  | .ok _ => pure ()
  | .error err => do
      let _ ← (send (.publish ns name ⟨.warning, err.reason, "Validate", err.toString⟩)).attempt
      pure ()

def reconcile (X : Externals) (now : Time) (policy : OpenShellPolicy) : PolicyOp Action :=
  match policy.metadata.namespace_ with
  | none => Prog.fail .missingNamespace
  | some ns => do
      let outcome := toProto X policy.spec
      recordInvalid ns policy.metadata.name outcome
      send (.patchStatus ns policy.metadata.name (outcomeStatus now policy outcome))
      pure (.requeue requeueInterval)

end PolicyController
end OpenShell
