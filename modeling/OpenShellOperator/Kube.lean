import OpenShellOperator.Wire.Json
import OpenShellOperator.Wire.Key

/-! # Kubernetes objects

The parts of Kubernetes API objects that the operator reads and writes, the helpers for
`.status.conditions`, and the errors of the client where a caller looks at their code. -/

namespace OpenShell
open Wire

/-- Object metadata.  An object that is being deleted has a deletion timestamp. -/
structure ObjectMeta where
  name : String
  namespace_ : Option String := none
  generation : Option Int64 := none
  deletionTimestamp : Option Int := none
  finalizers : List String := []
deriving DecidableEq, Repr

/-- The key of a namespaced object in its store. -/
def ObjectMeta.key (m : ObjectMeta) : Key := ⟨m.namespace_.getD "", m.name⟩

/-! ### Conditions -/

/-- A point in time, in seconds. -/
abbrev Time := Int

structure Condition where
  type_ : String
  status : String
  reason : String
  message : String
  observedGeneration : Option Int64
  lastTransitionTime : Time
deriving DecidableEq, Repr

namespace Conditions

/-- The summary condition every resource carries. -/
def ready : String := "Ready"

/-- Build a condition. -/
def condition (type_ : String) (ok : Bool) (reason message : String)
    (observedGeneration : Option Int64) (now : Time) : Condition :=
  ⟨type_, if ok then "True" else "False", reason, message, observedGeneration, now⟩

/-- Insert or update `new`, keyed by condition type; the transition time of an existing
condition is kept while its status stays the same. -/
def set (conditions : List Condition) (new : Condition) : List Condition :=
  match conditions with
  | [] => [new]
  | existing :: rest =>
      if existing.type_ = new.type_ then
        { new with
          lastTransitionTime :=
            if existing.status = new.status then existing.lastTransitionTime
            else new.lastTransitionTime } :: rest
      else existing :: set rest new

end Conditions

/-! ### Volume claims and Secrets -/

/-- A claim spec: its volume mode and, as one value, all its other fields. -/
structure PersistentVolumeClaimSpec where
  volumeMode : Option String := none
  fields : Json := .obj []
deriving Repr, Inhabited

structure PersistentVolumeClaim where
  name : String
  labels : Option (StrMap String)
  spec : Option PersistentVolumeClaimSpec
deriving Repr, Inhabited

structure Secret where
  annotations : Option (StrMap String)
  data : Option (StrMap (List UInt8))
deriving DecidableEq, Repr

/-! ### Failed calls -/

/-- Why a call of the Kubernetes client failed: the API server answered with an error code, or
the call broke down on its way. -/
inductive KubeError where
  | api (code : ℕ) (message : String)
  | other (text : String)
deriving DecidableEq, Repr

/-- The server answered that the object is already there, or has changed. -/
def KubeError.isConflict : KubeError → Bool
  | api code _ => code == 409
  | other _ => false

end OpenShell
