import OpenShellOperator.Wire.Json

/-! # Operator errors

The error type of the reconcilers with its display text, its condition reason and the test
for errors that only a spec edit can clear.  Errors of the gateway client, of an RPC and of
the Kubernetes API carry the text they display. -/

namespace OpenShell

/-- RPC status codes. -/
inductive Code where
  | ok | cancelled | unknown | invalidArgument | deadlineExceeded | notFound | alreadyExists
  | permissionDenied | resourceExhausted | failedPrecondition | aborted | outOfRange
  | unimplemented | internal | unavailable | dataLoss | unauthenticated
deriving DecidableEq, Repr

/-- A failed RPC: its code, its message, and how it displays. -/
structure Status where
  code : Code
  message : String
  text : String
deriving DecidableEq, Repr

/-- Failures of the finalizer machinery around a reconcile that fails with `ε`. -/
inductive FinalizerError (ε : Type) where
  | applyFailed (err : ε)
  | cleanupFailed (err : ε)
  | addFinalizer (text : String)
  | removeFinalizer (text : String)
  | unnamedObject
  | invalidFinalizer

inductive Error where
  | gateway (text : String)
  | gatewayRpc (status : Status)
  | kube (text : String)
  | missingNamespace
  | secretNotFound (namespace_ name : String)
  | secretNotEntitled (namespace_ name annotation_ : String)
  | secretKeyMissing (namespace_ name key : String)
  | secretValueNotUtf8 (namespace_ name key : String)
  | policyNotFound (namespace_ name : String)
  | policyInvalid (message : String)
  | policySourceConflict
  | policyUpdateRejected (message : String)
  | volumeInvalid (message : String)
  | recreateTimeout (name : String)
  | workspaceNotEmpty (name : String) (count : ℕ)
  | profileInvalid (message : String)
  | profileRejected (message : String)
  | profileInUse (id : String) (count : ℕ)
  | finalizer (err : FinalizerError Error)
  | leadershipLost (message : String)

namespace Error

/-- The machine-readable reason reported on a `Ready=False` condition and event. -/
def reason : Error → String
  | gateway _ | gatewayRpc _ => "GatewayError"
  | kube _ => "KubernetesError"
  | missingNamespace => "MissingNamespace"
  | secretNotFound _ _ => "SecretNotFound"
  | secretNotEntitled _ _ _ => "SecretNotEntitled"
  | secretKeyMissing _ _ _ => "SecretKeyMissing"
  | secretValueNotUtf8 _ _ _ => "SecretValueNotUtf8"
  | policyNotFound _ _ => "PolicyNotFound"
  | policyInvalid _ => "PolicyInvalid"
  | policySourceConflict => "PolicyConflict"
  | policyUpdateRejected _ => "PolicyUpdateRejected"
  | volumeInvalid _ => "VolumeInvalid"
  | recreateTimeout _ => "RecreateTimeout"
  | workspaceNotEmpty _ _ => "WorkspaceNotEmpty"
  | profileInvalid _ => "ProfileInvalid"
  | profileRejected _ => "ProfileRejected"
  | profileInUse _ _ => "ProfileInUse"
  | finalizer _ => "FinalizerError"
  | leadershipLost _ => "LeadershipLost"

/-- Whether only an edit of the resource spec can clear the error; looks through the
finalizer wrapper. -/
def isTerminal : Error → Bool
  | finalizer (.applyFailed inner) => inner.isTerminal
  | finalizer (.cleanupFailed inner) => inner.isTerminal
  | policySourceConflict | volumeInvalid _ | policyUpdateRejected _ | profileInvalid _ => true
  | _ => false

/-- The display text. -/
def toString : Error → String
  | gateway text => "gateway error: " ++ text
  | gatewayRpc status => "gateway rpc error: " ++ status.text
  | kube text => "kubernetes error: " ++ text
  | missingNamespace => "resource has no namespace"
  | secretNotFound ns name => "secret " ++ ns ++ "/" ++ name ++ " not found"
  | secretNotEntitled ns name key =>
      "secret " ++ ns ++ "/" ++ name ++ " is not entitled for provider references " ++
        "(set annotation " ++ key ++ "=true)"
  | secretKeyMissing ns name key => "secret " ++ ns ++ "/" ++ name ++ " is missing key " ++ key
  | secretValueNotUtf8 ns name key =>
      "secret " ++ ns ++ "/" ++ name ++ " value for key " ++ key ++ " is not valid UTF-8"
  | policyNotFound ns name => "policy " ++ ns ++ "/" ++ name ++ " not found"
  | policyInvalid message => "invalid policy: " ++ message
  | policySourceConflict => "specify at most one of spec.policy or spec.policyRef, not both"
  | policyUpdateRejected message => "gateway rejected policy update: " ++ message
  | volumeInvalid message => "invalid volume: " ++ message
  | recreateTimeout name => "sandbox " ++ name ++ " did not finish deleting before recreate"
  | workspaceNotEmpty name count =>
      "workspace " ++ name ++ " still has " ++ Nat.repr count ++
        " referencing resource(s); not deleting"
  | profileInvalid message => "invalid provider profile: " ++ message
  | profileRejected message => "gateway rejected provider profile: " ++ message
  | profileInUse id count =>
      "provider profile " ++ id ++ " still selected by " ++ Nat.repr count ++
        " provider(s); not deleting"
  | finalizer (.applyFailed inner) => "finalizer error: failed to apply object: " ++ inner.toString
  | finalizer (.cleanupFailed inner) =>
      "finalizer error: failed to clean up object: " ++ inner.toString
  | finalizer (.addFinalizer text) => "finalizer error: failed to add finalizer: " ++ text
  | finalizer (.removeFinalizer text) => "finalizer error: failed to remove finalizer: " ++ text
  | finalizer .unnamedObject => "finalizer error: object has no name"
  | finalizer .invalidFinalizer => "finalizer error: invalid finalizer"
  | leadershipLost message => "lost leadership: " ++ message

/-- What an error of the Kubernetes API displays by itself, as the finalizer machinery shows it. -/
def kubeText : Error → String
  | kube text => text
  | err => err.toString

/-- Whether the error is an RPC status with this code. -/
def hasCode (code : Code) : Error → Bool
  | gatewayRpc status => status.code = code
  | _ => false

/-- The wrapper of the finalizer machinery hides no terminal error. -/
theorem isTerminal_finalizer (err : Error) :
    (finalizer (.applyFailed err)).isTerminal = err.isTerminal ∧
      (finalizer (.cleanupFailed err)).isTerminal = err.isTerminal := by
  constructor <;> rw [isTerminal]

end Error

/-- A call that failed on its way: the connection or the server broke down.  Status codes by
which the gateway answers a request (not found, already there, refused) are no outage. -/
inductive Outage where
  | client (text : String)
  | rpc (status : Status)
      (h : status.code ≠ .notFound ∧ status.code ≠ .alreadyExists ∧
        status.code ≠ .invalidArgument)
  | kube (text : String)

/-- The error a caller sees. -/
def Outage.error : Outage → Error
  | client text => .gateway text
  | rpc status _ => .gatewayRpc status
  | kube text => .kube text

/-- An outage is never taken for an answer of the gateway. -/
theorem Outage.error_hasCode (o : Outage) :
    o.error.hasCode .notFound = false ∧ o.error.hasCode .alreadyExists = false ∧
      o.error.hasCode .invalidArgument = false := by
  cases o with
  | client text => exact ⟨rfl, rfl, rfl⟩
  | rpc status h => simpa [Outage.error, Error.hasCode] using h
  | kube text => exact ⟨rfl, rfl, rfl⟩

end OpenShell
