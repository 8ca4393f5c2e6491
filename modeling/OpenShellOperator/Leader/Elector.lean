import OpenShellOperator.Effects.Prog
import OpenShellOperator.Kube
import Mathlib.Algebra.Group.Nat.Defs

/-! # Leader election

One active replica holds a Lease and renews it; the others poll, and take it over once it has
expired.  Expiry is measured on the clock of the replica that waits: from when it first saw the
current `renewTime`, not from the time stamp in the object.

Reading the two clocks and remembering what was observed are calls here, next to the calls to
the API server; they concern the replica alone. -/

namespace OpenShell.Leader
open Effects

/-- How long a lease stays valid without a renewal, in nanoseconds. -/
def leaseDuration : ℕ := 15 * 10 ^ 9

/-- Identity and location of the lease a replica contends for. -/
structure Config where
  leaseName : String
  namespace_ : String
  identity : String
deriving DecidableEq, Repr

/-- A wall-clock time stamp as objects carry it, in microseconds. -/
abbrev MicroTime := Int

/-- A reading of the monotonic clock of a process, in nanoseconds. -/
abbrev Instant := ℕ

structure LeaseSpec where
  holderIdentity : Option String := none
  leaseDurationSeconds : Option Int32 := none
  acquireTime : Option MicroTime := none
  renewTime : Option MicroTime := none
  leaseTransitions : Option Int32 := none
deriving DecidableEq, Repr

structure Lease where
  name : String
  namespace_ : String
  resourceVersion : Option ℕ := none
  spec : Option LeaseSpec := none
deriving DecidableEq, Repr

/-- The spec of a lease; a lease without one has the default. -/
def Lease.specOrDefault (lease : Lease) : LeaseSpec := lease.spec.getD {}

/-! ### Decisions -/

/-- What to do with the lease in a step. -/
inductive Decision where
  | renew
  | acquire
  | wait
deriving DecidableEq, Repr

/-- Decide from the holder of the lease and from how long its `renewTime` has stood still. -/
def decide (holder : Option String) (identity : String) (unchangedFor : Option ℕ) : Decision :=
  if holder = some identity then .renew
  else
    match holder with
    | none => .acquire
    | some _ =>
        match unchangedFor with
        | some elapsed => if leaseDuration ≤ elapsed then .acquire else .wait
        | none => .wait

/-- A lease is taken only from nobody, or from another holder whose `renewTime` has stood still
for the whole duration. -/
theorem decide_eq_acquire {holder : Option String} {identity : String} {unchangedFor : Option ℕ}
    (h : decide holder identity unchangedFor = .acquire) :
    holder ≠ some identity ∧
      (holder ≠ none → ∃ elapsed, unchangedFor = some elapsed ∧ leaseDuration ≤ elapsed) := by
  unfold decide at h
  split_ifs at h with hown
  refine ⟨hown, fun hheld => ?_⟩
  cases holder with
  | none => exact absurd rfl hheld
  | some other =>
      cases unchangedFor with
      | none => cases h
      | some elapsed =>
          dsimp only at h
          split_ifs at h with hlong
          exact ⟨elapsed, rfl, hlong⟩

/-- A lease of one's own is renewed. -/
theorem decide_eq_renew {holder : Option String} {identity : String} {unchangedFor : Option ℕ}
    (h : decide holder identity unchangedFor = .renew) : holder = some identity := by
  unfold decide at h
  split_ifs at h with hown
  · exact hown
  · cases holder with
    | none => cases h
    | some other =>
        cases unchangedFor with
        | none => cases h
        | some elapsed =>
            dsimp only at h
            split_ifs at h

/-! ### What a replica remembers -/

/-- The `renewTime` of the lease and when this process first saw that value. -/
structure Observation where
  renewTime : Option MicroTime
  firstSeen : Instant
deriving DecidableEq, Repr

structure Tracker where
  last : Option Observation := none
deriving DecidableEq, Repr

/-- Fold in the `renewTime` seen at `now`: what is remembered next, and how long the value has
been unchanged, or nothing when it just changed. -/
def Tracker.observe (tracker : Tracker) (renewTime : Option MicroTime) (now : Instant) :
    Tracker × Option ℕ :=
  match tracker.last with
  | some prev =>
      if prev.renewTime = renewTime then (tracker, some (now - prev.firstSeen))
      else (⟨some ⟨renewTime, now⟩⟩, none)
  | none => (⟨some ⟨renewTime, now⟩⟩, none)

/-- Either the value is the remembered one, and has been for as long as it is remembered, or it
is remembered from now on. -/
theorem Tracker.observe_cases (tracker : Tracker) (renewTime : Option MicroTime) (now : Instant) :
    (∃ prev, tracker.last = some prev ∧ prev.renewTime = renewTime ∧
      tracker.observe renewTime now = (tracker, some (now - prev.firstSeen))) ∨
    tracker.observe renewTime now = (⟨some ⟨renewTime, now⟩⟩, none) := by
  unfold observe
  cases hlast : tracker.last with
  | none => exact .inr rfl
  | some prev =>
      dsimp only
      split_ifs with hsame
      · exact .inl ⟨prev, rfl, hsame, rfl⟩
      · exact .inr rfl

/-! ### One step -/

/-- What a step asks of the API server and of its own process. -/
inductive LeaseCall where
  | utcNow
  | getOpt (name : String)
  | create (lease : Lease)
  | replace (name : String) (lease : Lease)
  | instantNow
  | track (tracker : Tracker)

namespace LeaseCall

def Answer : LeaseCall → Type
  | utcNow => MicroTime
  | getOpt _ => Option Lease
  | create _ => Lease
  | replace _ _ => Lease
  | instantNow => Instant
  | track _ => Unit

/-- The call stays inside the process, and cannot fail. -/
def isLocal : LeaseCall → Bool
  | utcNow | instantNow | track _ => true
  | getOpt _ | create _ | replace _ _ => false

end LeaseCall

abbrev LeaseOp := Prog LeaseCall.Answer KubeError

section calls

def utcNow : LeaseOp MicroTime := Prog.perform LeaseCall.utcNow

def instantNow : LeaseOp Instant := Prog.perform LeaseCall.instantNow

def track (tracker : Tracker) : LeaseOp Unit := Prog.perform (LeaseCall.track tracker)

def getOpt (name : String) : LeaseOp (Option Lease) := Prog.perform (LeaseCall.getOpt name)

def create (lease : Lease) : LeaseOp Lease := Prog.perform (LeaseCall.create lease)

def replace (name : String) (lease : Lease) : LeaseOp Lease :=
  Prog.perform (LeaseCall.replace name lease)

end calls

/-- The lease spec after this replica renews it, or takes it over (`transition`), which counts
a transition and stamps a fresh `acquireTime`. -/
def renewedSpec (config : Config) (prior : LeaseSpec) (now : MicroTime) (transition : Bool) :
    LeaseSpec where
  holderIdentity := some config.identity
  leaseDurationSeconds := some 15
  acquireTime := if transition then some now else prior.acquireTime.or (some now)
  renewTime := some now
  leaseTransitions := some (prior.leaseTransitions.getD 0 + if transition then 1 else 0)

/-- A new lease object held by this replica. -/
def newLease (config : Config) (now : MicroTime) : Lease where
  name := config.leaseName
  namespace_ := config.namespace_
  spec := some (renewedSpec config {} now true)

/-- What a create or a replace comes to: a conflict means that a peer was first. -/
def written (decision : Decision) : Except KubeError Lease → LeaseOp Decision
  | .ok _ => pure decision
  | .error err => if err.isConflict then pure .wait else Prog.fail err

/-- The second half of a step, when the lease is there: observe it at `seenAt`, decide, and write
it back unless it is a peer's that is still valid. -/
def contend (config : Config) (tracker : Tracker) (now : MicroTime) (existing : Lease)
    (seenAt : Instant) : LeaseOp Decision := do
  let spec := existing.specOrDefault
  let observed := tracker.observe spec.renewTime seenAt
  track observed.1
  let decision := decide spec.holderIdentity config.identity observed.2
  if decision = .wait then pure .wait
  else
    let updated := { existing with
      spec := some (renewedSpec config spec now (decision == .acquire)) }
    (replace config.leaseName updated).attempt >>= written decision

/-- One attempt to acquire or renew the lease. -/
def step (config : Config) (tracker : Tracker) : LeaseOp Decision := do
  let now ← utcNow
  match ← getOpt config.leaseName with
  | none => (create (newLease config now)).attempt >>= written .acquire
  | some existing =>
      let seenAt ← instantNow
      contend config tracker now existing seenAt

end OpenShell.Leader
