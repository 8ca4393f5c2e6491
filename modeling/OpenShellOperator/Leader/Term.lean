import OpenShellOperator.Effects.Embed
import OpenShellOperator.Error
import OpenShellOperator.Leader.Lease

/-! # Terms of leadership

A replica campaigns until a step gives it the lease, runs the controllers, and keeps renewing;
it gives them up when it sees a peer with the lease, or when a renewal fails and the last one is a
lease duration ago (`run`).  Any number of replicas do so, in any interleaving, with failing calls
and restarts as in `Leader.Lease`.

The world keeps for each replica the term it is in, if any: when its controllers started, when the
step that last renewed the lease began and when it was noted, and when the replica last found that
it may go on.  Nothing else of the world or of a program depends on the first two.

During a term the versions that the replica stores stand on each other (`Holds`): the first time it
sees the version of a peer it has no memory of it, so it waits, and that ends the term.  So when two
replicas lead at once, the run of versions of one lies above that of the other, and the replica
that took the lease had seen the other's last version stand still for the lease duration. -/

namespace OpenShell.Leader
open Effects

/-- How often the leader renews, and how often a standby looks again, in nanoseconds. -/
def retryPeriod : ℕ := 2 * 10 ^ 9

/-! ### The election loops -/

/-- What a replica does outside of its steps: it starts as a new process, recollects what it
remembers (a step begins), sleeps, notes that it has renewed the lease, asks how long ago it did,
and starts and drops the controllers. -/
inductive ElectorCall where
  | lease (c : LeaseCall)
  | boot
  | recollect
  | sleep (duration : ℕ)
  | renewed
  | sinceRenewed
  | startControllers
  | dropControllers

def ElectorCall.Answer : ElectorCall → Type
  | lease c => c.Answer
  | recollect => Tracker
  | sinceRenewed => ℕ
  | boot | sleep _ | renewed | startControllers | dropControllers => Unit

abbrev ElectorOp := Prog ElectorCall.Answer KubeError

section calls

def boot : ElectorOp Unit := Prog.perform ElectorCall.boot

def recollect : ElectorOp Tracker := Prog.perform ElectorCall.recollect

def sleep (duration : ℕ) : ElectorOp Unit := Prog.perform (ElectorCall.sleep duration)

def renewed : ElectorOp Unit := Prog.perform ElectorCall.renewed

def sinceRenewed : ElectorOp ℕ := Prog.perform ElectorCall.sinceRenewed

def startControllers : ElectorOp Unit := Prog.perform ElectorCall.startControllers

def dropControllers : ElectorOp Unit := Prog.perform ElectorCall.dropControllers

end calls

/-- A step with what the replica remembers. -/
def electorStep (config : Config) : ElectorOp Decision := do
  let tracker ← recollect
  (step config tracker).via ElectorCall.lease (fun _ answer => answer)

/-- One round of `campaign`: it ends when the step renewed or acquired the lease. -/
def campaignRound (config : Config) : ElectorOp (Option Unit) := do
  match ← (electorStep config).attempt with
  | .ok .renew | .ok .acquire => pure (some ())
  | .ok .wait | .error _ =>
      sleep retryPeriod
      pure none

/-- Retry until this replica holds the lease. -/
def campaign (config : Config) (rounds : ℕ) : ElectorOp (Option Unit) :=
  (campaignRound config).loop rounds

/-- One round of `keep_leadership`: it ends with the error that leadership is lost. -/
def keepRound (config : Config) : ElectorOp (Option Error) := do
  sleep retryPeriod
  match ← (electorStep config).attempt with
  | .ok .renew | .ok .acquire =>
      renewed
      pure none
  | .ok .wait => pure (some (.leadershipLost "a peer holds the lease"))
  | .error _ =>
      let elapsed ← sinceRenewed
      if leaseDuration ≤ elapsed then
        pure (some (.leadershipLost "could not renew within lease duration"))
      else pure none

/-- Renew in every round for as long as this replica holds the lease. -/
def keepLeadership (config : Config) (rounds : ℕ) : ElectorOp (Option Error) := do
  renewed
  (keepRound config).loop rounds

/-- Win the lease, then run the controllers until leadership is lost. -/
def run (config : Config) (rounds : ℕ) : ElectorOp (Option Error) := do
  boot
  match ← campaign config rounds with
  | none => pure none
  | some () =>
      startControllers
      match ← keepLeadership config rounds with
      | none => pure none
      | some lost =>
          dropControllers
          pure (some lost)

/-! ### The world of terms -/

/-- A term: when the controllers started, when the step that last renewed the lease began, when the
renewal was noted, and when the replica last found that it may go on. -/
structure Term where
  since : ℕ
  asked : ℕ
  renewed : ℕ
  checked : ℕ
deriving DecidableEq, Repr

/-- The world of the lease, and for each replica when its present step began and its term. -/
structure TermWorld (ι : Type) where
  lease : LeaseWorld ι
  began : ι → ℕ
  term : ι → Option Term

namespace TermWorld
variable {ι : Type}

/-- Time passes, or other objects are written. -/
inductive Env : TermWorld ι → TermWorld ι → Prop
  | tick {w : TermWorld ι} (d : ℕ) :
      Env w { w with lease := { w.lease with time := w.lease.time + d } }
  | revise {w : TermWorld ι} (d : ℕ) :
      Env w { w with lease := { w.lease with revision := w.lease.revision + d } }

/-- Before the run no process has started. -/
def initial (w : LeaseWorld ι) : TermWorld ι := ⟨w, fun _ => 0, fun _ => none⟩

end TermWorld

section world
variable {ι : Type} [DecidableEq ι]

/-- Change the term of replica `i`. -/
def TermWorld.setTerm (w : TermWorld ι) (i : ι) (term : Option Term) : TermWorld ι :=
  { w with term := Function.update w.term i term }

namespace Election
variable (X : Election ι)

/-- What a call of the election loops does.  A replica can be woken at any time, so a sleep
leaves the passing of time to the world. -/
def serveLoop (i : ι) (w : TermWorld ι) :
    (c : ElectorCall) → Choice → TermWorld ι × Except KubeError c.Answer
  | .lease c, f => ({ w with lease := (X.react i w.lease c f).1 }, (X.react i w.lease c f).2)
  | .boot, _ =>
      ({ w.setTerm i none with
          lease := { w.lease with trackers := Function.update w.lease.trackers i {} } }, .ok ())
  | .recollect, _ =>
      ({ w with began := Function.update w.began i w.lease.time }, .ok (w.lease.trackers i))
  | .sleep _, _ => (w, .ok ())
  | .renewed, _ =>
      (w.setTerm i ((w.term i).map fun term =>
        ⟨term.since, w.began i, w.lease.time, w.lease.time⟩), .ok ())
  | .sinceRenewed, _ =>
      match w.term i with
      | none => (w, .ok (0 : ℕ))
      | some term =>
          let elapsed := X.clock i w.lease.time - X.clock i term.renewed
          (if leaseDuration ≤ elapsed then w
            else w.setTerm i (some { term with checked := w.lease.time }), .ok elapsed)
  | .startControllers, _ =>
      (w.setTerm i (some ⟨w.lease.time, w.began i, w.lease.time, w.lease.time⟩), .ok ())
  | .dropControllers, _ => (w.setTerm i none, .ok ())

/-- A replica begins as a new process. -/
def startLoop (i : ι) (_ : TermWorld ι) (p : ElectorOp (Option Error)) : Prop :=
  ∃ rounds, p = run (X.config i) rounds

end Election
end world

/-! ### Versions on top of each other -/

section versions
variable {ι : Type} {i : ι} {own history history' : List (LeaseVersion ι)}

/-- The history is `own` with versions on top that are not of replica `i`. -/
def Above (i : ι) (own history : List (LeaseVersion ι)) : Prop :=
  ∃ newer, history = newer ++ own ∧ ∀ v ∈ newer, v.writer ≠ some i

theorem Above.refl (history : List (LeaseVersion ι)) : Above i history history :=
  ⟨[], rfl, nofun⟩

theorem Above.trans (h : Above i own history) (h' : Above i history history') :
    Above i own history' := by
  obtain ⟨newer, rfl, hnewer⟩ := h
  obtain ⟨newest, rfl, hnewest⟩ := h'
  refine ⟨newest ++ newer, (List.append_assoc _ _ _).symm, fun v hv => ?_⟩
  rcases List.mem_append.mp hv with hv | hv
  · exact hnewest v hv
  · exact hnewer v hv

theorem Above.suffix (h : Above i own history) : own <:+ history := by
  obtain ⟨newer, rfl, -⟩ := h
  exact List.suffix_append _ _

theorem Above.cons (h : Above i own history) {v : LeaseVersion ι} (hv : v.writer ≠ some i) :
    Above i own (v :: history) :=
  h.trans ⟨[v], rfl, fun u hu => by rwa [List.mem_singleton.mp hu]⟩

/-- No two versions carry the same renew time. -/
def Distinct (history : List (LeaseVersion ι)) : Prop := (history.map (·.renewTime)).Nodup

theorem Distinct.suffix (h : Distinct history) (hs : own <:+ history) : Distinct own :=
  h.sublist (hs.sublist.map _)

/-- The versions of a term: those of replica `i` that stand on each other, one of them stored
since `asked`, the first of them and all below it before `since`. -/
structure Owned (i : ι) (since asked : ℕ) (own : List (LeaseVersion ι)) : Prop where
  block : ∃ block first older, own = block ++ first :: older ∧
    (∀ v ∈ block ++ [first], v.writer = some i) ∧ (∃ v ∈ block ++ [first], asked ≤ v.writtenAt) ∧
    ∀ v ∈ first :: older, v.writtenAt ≤ since

/-- A first version. -/
theorem Owned.first {since asked : ℕ} {v : LeaseVersion ι} (hv : v.writer = some i)
    (hasked : asked ≤ v.writtenAt) (hsince : ∀ u ∈ v :: own, u.writtenAt ≤ since) :
    Owned i since asked (v :: own) := by
  refine ⟨[], v, own, rfl, ?_, ⟨v, List.mem_singleton_self v, hasked⟩, hsince⟩
  intro u hu
  rwa [List.mem_singleton.mp hu]

/-- A further version. -/
theorem Owned.cons {since asked asked' : ℕ} (h : Owned i since asked own) {v : LeaseVersion ι}
    (hv : v.writer = some i) (hasked : asked' ≤ asked ∨ asked' ≤ v.writtenAt) :
    Owned i since asked' (v :: own) := by
  obtain ⟨block, first, older, rfl, hwriter, ⟨u, hu, hasked'⟩, hsince⟩ := h
  refine ⟨v :: block, first, older, rfl, ?_, ?_, hsince⟩
  · intro x hx
    rcases List.mem_cons.mp hx with rfl | hx
    · exact hv
    · exact hwriter x hx
  · rcases hasked with hle | hle
    · exact ⟨u, List.mem_cons_of_mem v hu, Nat.le_trans hle hasked'⟩
    · exact ⟨v, List.mem_cons_self, hle⟩

/-- The newest version of a term is the replica's own. -/
theorem Owned.newest {since asked : ℕ} (h : Owned i since asked own) :
    ∃ v older, own = v :: older ∧ v.writer = some i := by
  obtain ⟨block, first, older, rfl, hwriter, -, -⟩ := h
  cases block with
  | nil => exact ⟨first, older, rfl, hwriter first (List.mem_singleton_self first)⟩
  | cons v block => exact ⟨v, block ++ first :: older, rfl, hwriter v List.mem_cons_self⟩

end versions

/-! ### What a step does -/

section specification
variable {ι : Type}

/-- What the others do while replica `i` is in a step: they store versions of their own. -/
structure LeaseWorld.Apart (i : ι) (w w' : LeaseWorld ι) : Prop where
  later : LeaseWorld.Later i w w'
  above : Above i w.history w'.history
  tracker : w'.trackers i = w.trackers i

def LeaseWorld.apart (i : ι) : Rely (LeaseWorld ι) where
  rel := LeaseWorld.Apart i
  refl w := ⟨(LeaseWorld.later i).refl w, .refl _, rfl⟩
  trans h h' := ⟨(LeaseWorld.later i).trans h.later h'.later, h.above.trans h'.above,
    h'.tracker.trans h.tracker⟩

/-- A replica with this memory does not wait when it sees the newest version. -/
def Election.Contends (X : Election ι) (i : ι) (tracker : Tracker)
    (history : List (LeaseVersion ι)) : Prop :=
  ∀ v older, history = v :: older →
    ∃ now, decide v.holder (X.identity i) (tracker.observe v.renewTime now).2 ≠ .wait

/-- The calls of a step that began with the memory `tracker` and the history `start`. -/
structure Election.StepGuarantee (X : Election ι) (i : ι) (tracker : Tracker)
    (start : List (LeaseVersion ι)) (w : LeaseWorld ι) (c : LeaseCall) : Prop where
  call : X.Guarantee i w c
  replaced : ∀ name lease, c = .replace name lease → ∀ v older, w.history = v :: older →
    v.lease.resourceVersion = lease.resourceVersion →
    X.Contends i tracker w.history ∧ Above i start w.history

/-- What a step that began at the time `t` with the memory `tracker` and the history `start` may
have done when it returns: nothing, when it waits; nothing but to look, when it fails; or it has
stored a version. -/
inductive Election.Stepped (X : Election ι) (i : ι) (t : ℕ) (tracker : Tracker)
    (start : List (LeaseVersion ι)) : Except KubeError Decision → LeaseWorld ι → Prop
  | waited {w : LeaseWorld ι} : Above i start w.history → Stepped X i t tracker start (.ok .wait) w
  | failed {w : LeaseWorld ι} {err : KubeError} : Above i start w.history →
      (w.trackers i = tracker ∨ ∃ read, Above i start read ∧ read <:+ w.history ∧
        X.Contends i tracker read ∧ X.Remembers i (w.trackers i) read) →
      Stepped X i t tracker start (.error err) w
  | stored {w : LeaseWorld ι} {r : Except KubeError Decision} {v : LeaseVersion ι}
      {read : List (LeaseVersion ι)} : Above i (v :: read) w.history → Above i start read →
      v.writer = some i → t ≤ v.writtenAt → X.Contends i tracker read →
      X.Remembers i (w.trackers i) read → Stepped X i t tracker start r w

variable {X : Election ι} {i : ι} {w w' : LeaseWorld ι} {t : ℕ} {tracker : Tracker}
  {start : List (LeaseVersion ι)}

theorem Election.Stepped.apart {r : Except KubeError Decision} (h : X.Stepped i t tracker start r w)
    (ha : LeaseWorld.Apart i w w') : X.Stepped i t tracker start r w' := by
  cases h with
  | waited hstart => exact .waited (hstart.trans ha.above)
  | failed hstart hmemory =>
      rw [← ha.tracker] at hmemory
      refine .failed (hstart.trans ha.above) (hmemory.imp_right ?_)
      rintro ⟨read, hread, hs, hrest⟩
      exact ⟨read, hread, hs.trans ha.above.suffix, hrest⟩
  | stored hv hread hwriter ht hcontends hmemory =>
      rw [← ha.tracker] at hmemory
      exact .stored (hv.trans ha.above) hread hwriter ht hcontends hmemory

/-- A step that took the lease or renewed it has stored a version. -/
theorem Election.Stepped.of_led {decision : Decision}
    (h : X.Stepped i t tracker start (.ok decision) w) (hd : decision ≠ .wait) :
    ∃ v read, Above i (v :: read) w.history ∧ Above i start read ∧ v.writer = some i ∧
      t ≤ v.writtenAt ∧ X.Contends i tracker read ∧ X.Remembers i (w.trackers i) read := by
  generalize hr : Except.ok decision = r at h
  cases h with
  | waited _ =>
      cases hr
      exact absurd rfl hd
  | failed _ _ => cases hr
  | stored hv hread hwriter ht hcontends hmemory =>
      exact ⟨_, _, hv, hread, hwriter, ht, hcontends, hmemory⟩

end specification

section steps
variable {ι : Type} [DecidableEq ι] {X : Election ι} {i : ι} {w : LeaseWorld ι} {t : ℕ}
  {tracker : Tracker} {start : List (LeaseVersion ι)}

/-- A create stores a version where there is none, or has no effect and fails. -/
theorem react_create (X : Election ι) (i : ι) (w : LeaseWorld ι) (lease : Lease) (f : Choice) :
    (w.history = [] ∧ (X.react i w (.create lease) f).1 = w.put i lease) ∨
      (X.react i w (.create lease) f).1 = w ∧
        ∀ stored : Lease, (X.react i w (.create lease) f).2 ≠ .ok stored := by
  simp only [Election.react, LeaseCall.isLocal]
  cases hfate : f.fate with
  | refused err => exact .inr ⟨rfl, fun _ hx => by cases hx⟩
  | served =>
      cases hhistory : w.history with
      | nil => exact .inl ⟨rfl, by simp [respond, Election.serve, hhistory]⟩
      | cons v older => exact .inr (by simp [respond, Election.serve, hhistory])
  | unheard err =>
      cases hhistory : w.history with
      | nil => exact .inl ⟨rfl, by simp [respond, Election.serve, hhistory]⟩
      | cons v older => exact .inr (by simp [respond, Election.serve, hhistory])

/-- A replace stores a version on the one whose resource version it names, or has no effect and
fails. -/
theorem react_replace (X : Election ι) (i : ι) (w : LeaseWorld ι) (name : String) (lease : Lease)
    (f : Choice) :
    (∃ v older, w.history = v :: older ∧ v.lease.resourceVersion = lease.resourceVersion ∧
        (X.react i w (.replace name lease) f).1 = w.put i lease) ∨
      (X.react i w (.replace name lease) f).1 = w ∧
        ∀ stored : Lease, (X.react i w (.replace name lease) f).2 ≠ .ok stored := by
  simp only [Election.react, LeaseCall.isLocal]
  cases hfate : f.fate with
  | refused err => exact .inr ⟨rfl, fun _ hx => by cases hx⟩
  | served =>
      cases hhistory : w.history with
      | nil => exact .inr (by simp [respond, Election.serve, hhistory])
      | cons v older =>
          by_cases hversion : v.lease.resourceVersion = lease.resourceVersion
          · exact .inl ⟨v, older, rfl, hversion, by simp [respond, Election.serve, hhistory, hversion]⟩
          · exact .inr (by simp [respond, Election.serve, hhistory, hversion])
  | unheard err =>
      cases hhistory : w.history with
      | nil => exact .inr (by simp [respond, Election.serve, hhistory])
      | cons v older =>
          by_cases hversion : v.lease.resourceVersion = lease.resourceVersion
          · exact .inl ⟨v, older, rfl, hversion, by simp [respond, Election.serve, hhistory, hversion]⟩
          · exact .inr (by simp [respond, Election.serve, hhistory, hversion])

/-- After a create or a replace: a version was stored, or the call failed without effect. -/
theorem written_stepped {p : LeaseOp Lease} {decision : Decision}
    (hp : p.Safe (X.react i) (LeaseWorld.apart i) (X.StepGuarantee i tracker start)
      (fun r w' => (∀ r', X.Stepped i t tracker start r' w') ∨
        (∀ lease, r ≠ .ok lease) ∧ (∀ err, X.Stepped i t tracker start (.error err) w') ∧
          X.Stepped i t tracker start (.ok .wait) w') w) :
    (p.attempt >>= written decision).Safe (X.react i) (LeaseWorld.apart i)
      (X.StepGuarantee i tracker start) (X.Stepped i t tracker start) w := by
  refine Prog.Safe.bind (Prog.Safe.attempt (Prog.Safe.mono (fun _ _ hc => hc) ?_ hp))
  intro r w' hr
  cases r with
  | ok lease =>
      rcases hr with hstored | ⟨hnot, -⟩
      · exact fun w'' ha => (hstored _).apart ha
      · exact absurd rfl (hnot lease)
  | error err =>
      show Prog.Safe _ _ _ _ (ite _ _ _) w'
      split_ifs with hconflict
      · rcases hr with hstored | ⟨-, -, hwaited⟩
        · exact fun w'' ha => (hstored _).apart ha
        · exact fun w'' ha => hwaited.apart ha
      · rcases hr with hstored | ⟨-, hfailed, -⟩
        · exact fun w'' ha => (hstored _).apart ha
        · exact fun w'' ha => (hfailed err).apart ha

/-- Creating the lease. -/
theorem create_stepped {lease : Lease} (ht : t ≤ w.time)
    (hheld : lease.specOrDefault.holderIdentity = some (X.identity i))
    (hstart : Above i start w.history) (htracker : w.trackers i = tracker)
    (hseen : X.Remembers i tracker start) :
    ((create lease).attempt >>= written .acquire).Safe (X.react i) (LeaseWorld.apart i)
      (X.StepGuarantee i tracker start) (X.Stepped i t tracker start) w := by
  refine written_stepped (Prog.safe_perform fun w₁ h₁ => ⟨⟨hheld, nofun⟩, fun f w₂ h₂ => ?_⟩)
  replace h₁ : LeaseWorld.Apart i w w₁ := h₁
  have hstart₁ := hstart.trans h₁.above
  have htracker₁ := h₁.tracker.trans htracker
  rcases react_create X i w₁ lease f with ⟨hnone, hput⟩ | ⟨hsame, hfailed⟩
  · rw [hput] at h₂
    refine .inl (fun r => Election.Stepped.apart (.stored (.refl _) ?_ rfl ?_ ?_ ?_) h₂)
    · exact hstart₁
    · exact Nat.le_trans ht h₁.later.time
    · intro v older hcons
      rw [hnone] at hcons
      cases hcons
    · show X.Remembers i (w₁.trackers i) w₁.history
      rw [htracker₁]
      exact hseen.mono hstart₁.suffix
  · rw [hsame] at h₂
    exact .inr ⟨hfailed, fun err => Election.Stepped.apart (.failed hstart₁ (.inl htracker₁)) h₂,
      Election.Stepped.apart (.waited hstart₁) h₂⟩

/-- Replacing the version that was read, after looking at it. -/
theorem replace_stepped {lease : Lease} {decision : Decision} {v : LeaseVersion ι}
    {older : List (LeaseVersion ι)} {name : String} (hw : w.Wf) (ht : t ≤ w.time)
    (hread : v :: older <:+ w.history) (hversion : lease.resourceVersion = v.lease.resourceVersion)
    (hheld : lease.specOrDefault.holderIdentity = some (X.identity i))
    (hexpired : X.Expired i (v :: older) w.time) (habove : Above i start w.history)
    (hstart : Above i start (v :: older)) (hcontends : X.Contends i tracker (v :: older))
    (hseen : X.Remembers i (w.trackers i) (v :: older)) :
    ((replace name lease).attempt >>= written decision).Safe (X.react i) (LeaseWorld.apart i)
      (X.StepGuarantee i tracker start) (X.Stepped i t tracker start) w := by
  -- A stored version under the resource version that was read is the one that was read.
  have hsame : ∀ {w₁}, LeaseWorld.Apart i w w₁ → ∀ v' older', w₁.history = v' :: older' →
      v'.lease.resourceVersion = lease.resourceVersion → w₁.history = v :: older := by
    intro w₁ h₁ v' older' hstored hv'
    refine (suffix_eq_of_head (·.lease.resourceVersion) (hread.trans h₁.above.suffix)
      (h₁.later.wf hw).once (List.cons_ne_nil _ _) ?_).symm
    simp [hstored, hv', hversion]
  refine written_stepped (Prog.safe_perform fun w₁ h₁ => ⟨⟨⟨hheld, ?_⟩, ?_⟩, fun f w₂ h₂ => ?_⟩)
  · intro v' older' hstored hv'
    rw [hsame h₁ v' older' hstored hv']
    intro other hholder hne
    obtain ⟨seen, hseen, hne', hrenew, hpast⟩ := hexpired other hholder hne
    exact ⟨seen, hseen, hne', hrenew, fun u hu => Nat.le_trans (hpast u hu) h₁.later.time⟩
  · rintro _ _ ⟨rfl, rfl⟩ v' older' hstored hv'
    rw [hsame h₁ v' older' hstored hv']
    exact ⟨hcontends, hstart⟩
  · replace h₁ : LeaseWorld.Apart i w w₁ := h₁
    rw [← h₁.tracker] at hseen
    rcases react_replace X i w₁ name lease f with ⟨v', older', hstored, hv', hput⟩ | ⟨hkept, hfailed⟩
    · rw [hput] at h₂
      have hhistory := hsame h₁ v' older' hstored hv'
      refine .inl (fun r => Election.Stepped.apart (.stored (.refl _) ?_ rfl ?_ ?_ ?_) h₂)
      · rw [hhistory]
        exact hstart
      · exact Nat.le_trans ht h₁.later.time
      · rw [hhistory]
        exact hcontends
      · rw [hhistory]
        exact hseen
    · rw [hkept] at h₂
      have habove₁ := habove.trans h₁.above
      refine .inr ⟨hfailed, fun err => Election.Stepped.apart (.failed habove₁ (.inr ?_)) h₂,
        Election.Stepped.apart (.waited habove₁) h₂⟩
      exact ⟨v :: older, hstart, hread.trans h₁.above.suffix, hcontends, hseen⟩

/-- The rest of a step that has read the version `v` and looked at its clock at the time `now`. -/
theorem contend_stepped {wall : MicroTime} {v : LeaseVersion ι} {older : List (LeaseVersion ι)}
    {now : ℕ} (hw : w.Wf) (ht : t ≤ w.time) (hread : Above i (v :: older) w.history)
    (hnow : now ≤ w.time) (hstart : Above i start (v :: older))
    (hseen : X.Remembers i tracker (v :: older))
    (hpast : ∀ u ∈ v :: older, X.clock i u.writtenAt ≤ X.clock i now) :
    (contend (X.config i) tracker wall v.lease (X.clock i now)).Safe (X.react i)
      (LeaseWorld.apart i) (X.StepGuarantee i tracker start) (X.Stepped i t tracker start) w := by
  have hobserved := remembers_observe hseen hpast
  refine Prog.Safe.bind (Prog.safe_perform fun w₁ h₁ => ⟨⟨?_, nofun⟩, fun f w₂ h₂ => ?_⟩)
  · exact hobserved.mono (hread.trans h₁.above).suffix
  · replace h₁ : LeaseWorld.Apart i w w₁ := h₁
    replace h₂ : LeaseWorld.Apart i _ w₂ := h₂
    have hread₂ : Above i (v :: older) w₂.history := (hread.trans h₁.above).trans h₂.above
    show Prog.Safe _ _ _ _ (ite _ _ _) w₂
    split_ifs with hwait
    · intro w₃ h₃
      exact .waited ((hstart.trans hread₂).trans h₃.above)
    · have hw₁ := h₁.later.wf hw
      have hw₂ : w₂.Wf := h₂.later.wf ⟨hw₁.past, hw₁.given, hw₁.once⟩
      have htime : w.time ≤ w₂.time := Nat.le_trans h₁.later.time h₂.later.time
      refine replace_stepped hw₂ (Nat.le_trans ht htime) hread₂.suffix rfl rfl ?_
        (hstart.trans hread₂) hstart ?_ ?_
      · intro other hother hne
        obtain ⟨seen, hs, hne', hrenew, hold⟩ := expired_of_decide hseen hwait other hother hne
        exact ⟨seen, hs, hne', hrenew, fun u hu =>
          Nat.le_trans (hold u hu) (Nat.le_trans hnow htime)⟩
      · rintro u rest ⟨rfl, rfl⟩
        exact ⟨X.clock i now, hwait⟩
      · rw [h₂.tracker]
        have hset : (X.react i w₁ (.track (tracker.observe v.lease.specOrDefault.renewTime
            (X.clock i now)).1) f).1.trackers i =
            (tracker.observe v.lease.specOrDefault.renewTime (X.clock i now)).1 :=
          Function.update_self ..
        rw [hset]
        exact hobserved

/-- **What a step does.** -/
theorem step_stepped (hw : w.Wf) (hseen : X.Remembers i (w.trackers i) w.history) :
    (step (X.config i) (w.trackers i)).Safe (X.react i) (LeaseWorld.apart i)
      (X.StepGuarantee i (w.trackers i) w.history)
      (X.Stepped i w.time (w.trackers i) w.history) w := by
  refine Prog.Safe.bind (Prog.safe_perform fun w₀ h₀ => ⟨⟨trivial, fun _ _ hx => by cases hx⟩, fun f₀ w₁ h₁ => ?_⟩)
  replace h₀ : LeaseWorld.Apart i w w₀ := h₀
  replace h₁ : LeaseWorld.Apart i _ w₁ := h₁
  have hw₀ := h₀.later.wf hw
  have hw₁ : w₁.Wf := h₁.later.wf ⟨hw₀.past, hw₀.given, hw₀.once⟩
  have habove₁ : Above i w.history w₁.history := h₀.above.trans h₁.above
  have htime₁ : w.time ≤ w₁.time := Nat.le_trans h₀.later.time h₁.later.time
  have htracker₁ : w₁.trackers i = w.trackers i := h₁.tracker.trans h₀.tracker
  refine Prog.Safe.bind (Prog.safe_perform fun w₂ h₂ => ⟨⟨trivial, fun _ _ hx => by cases hx⟩, fun f₂ w₃ h₃ => ?_⟩)
  replace h₂ : LeaseWorld.Apart i w₁ w₂ := h₂
  have habove₂ := habove₁.trans h₂.above
  have htracker₂ := h₂.tracker.trans htracker₁
  cases hfate : f₂.fate with
  | refused err =>
      rw [Election.react, hfate] at h₃ ⊢
      intro w₄ h₄
      have h₄ := (LeaseWorld.apart i).trans h₃ h₄
      exact .failed (habove₂.trans h₄.above) (.inl (h₄.tracker.trans htracker₂))
  | unheard err =>
      rw [Election.react, hfate] at h₃ ⊢
      intro w₄ h₄
      have h₄ := (LeaseWorld.apart i).trans h₃ h₄
      exact .failed (habove₂.trans h₄.above) (.inl (h₄.tracker.trans htracker₂))
  | served =>
      rw [Election.react, hfate] at h₃ ⊢
      replace h₃ : LeaseWorld.Apart i w₂ w₃ := h₃
      have hw₂ := h₂.later.wf hw₁
      have htime₂ := Nat.le_trans htime₁ h₂.later.time
      cases hread : w₂.history with
      | nil =>
          simp only [LeaseCall.isLocal, respond, Election.serve, hread, Prog.Then]
          exact create_stepped (Nat.le_trans htime₂ h₃.later.time) rfl (habove₂.trans h₃.above)
            (h₃.tracker.trans htracker₂) hseen
      | cons v older =>
          simp only [LeaseCall.isLocal, respond, Election.serve, hread, Prog.Then]
          refine Prog.Safe.bind
            (Prog.safe_perform fun w₄ h₄ => ⟨⟨trivial, fun _ _ hx => by cases hx⟩, fun f₄ w₅ h₅ => ?_⟩)
          replace h₄ : LeaseWorld.Apart i w₂ w₄ := (LeaseWorld.apart i).trans h₃ h₄
          replace h₅ : LeaseWorld.Apart i w₄ w₅ := h₅
          have h₂₅ : LeaseWorld.Apart i w₂ w₅ := (LeaseWorld.apart i).trans h₄ h₅
          have hpast : ∀ u ∈ v :: older, X.clock i u.writtenAt ≤ X.clock i w₄.time := by
            intro u hu
            have hu₂ := hw₂.past u (hread ▸ hu)
            exact Nat.add_le_add_left (Nat.le_trans hu₂ h₄.later.time) _
          rw [hread] at habove₂
          refine contend_stepped (h₂₅.later.wf hw₂) (Nat.le_trans htime₂ h₂₅.later.time) ?_
            h₅.later.time habove₂ (hseen.mono habove₂.suffix) hpast
          rw [← hread]
          exact h₂₅.above

end steps

/-! ### A leader does not take the lease back -/

section reclaim
variable {ι : Type} {X : Election ι} {i : ι} {tracker : Tracker}
  {own history : List (LeaseVersion ι)}

/-- A replica that remembers no version above its own waits when it sees the version of a peer. -/
theorem eq_own_of_contends (hidentity : Function.Injective X.identity)
    (hjustified : ∀ v replaced, v :: replaced <:+ history → X.Justified v replaced)
    (hdistinct : Distinct history) (habove : Above i own history) (hown : own ≠ [])
    (hseen : X.Remembers i tracker own) (hcontends : X.Contends i tracker history) :
    history = own := by
  obtain ⟨newer, rfl, hnewer⟩ := habove
  cases newer with
  | nil => rfl
  | cons v newer =>
      obtain ⟨now, hdecide⟩ := hcontends v (newer ++ own) rfl
      have hv := hjustified v (newer ++ own) List.suffix_rfl
      -- The newest version has a holder that is not the replica.
      obtain ⟨k, hk⟩ : ∃ k, v.writer = some k := by
        refine Option.ne_none_iff_exists'.mp (fun hnone => hown ?_)
        exact (List.append_eq_nil_iff.mp (hv.found hnone)).2
      have hki : k ≠ i := fun hki => hnewer v List.mem_cons_self (hki ▸ hk)
      have hholder : v.holder = some (X.identity k) := hv.held k hk
      have hother : X.identity k ≠ X.identity i := fun h => hki (hidentity h)
      -- Its renew time is not the remembered one.
      rcases tracker.observe_cases v.renewTime now with ⟨prev, hlast, hsame, -⟩ | hobserve
      · obtain ⟨seen, hs, hne, hrenew, -⟩ := hseen prev hlast
        obtain ⟨u, rest, rfl⟩ := List.exists_cons_of_ne_nil hne
        have hu : u ∈ newer ++ own := List.mem_append_right _ (hs.subset List.mem_cons_self)
        have hnot := (List.nodup_cons.mp hdistinct).1
        have hsame : u.renewTime = v.renewTime := by
          rw [← hsame]
          exact Option.some.inj hrenew
        exact absurd (List.mem_map.mpr ⟨u, hu, hsame⟩) hnot
      · rw [hobserve, hholder] at hdecide
        simp [decide, hother] at hdecide

end reclaim

/-! ### The invariant of terms -/

section terms
variable {ι : Type}

/-- What the others do while replica `i` is in its loops. -/
structure TermWorld.Aside (X : Election ι) (i : ι) (w w' : TermWorld ι) : Prop where
  apart : LeaseWorld.Apart i w.lease w'.lease
  inv : X.Inv w.lease → X.Inv w'.lease
  began : w'.began i = w.began i
  term : w'.term i = w.term i

def TermWorld.aside (X : Election ι) (i : ι) : Rely (TermWorld ι) where
  rel := TermWorld.Aside X i
  refl _ := ⟨(LeaseWorld.apart i).refl _, id, rfl, rfl⟩
  trans h h' := ⟨(LeaseWorld.apart i).trans h.apart h'.apart, fun hw => h'.inv (h.inv hw),
    h'.began.trans h.began, h'.term.trans h.term⟩

/-- The versions of a term stand in the history, below versions of others only. -/
def Holds (i : ι) (since asked : ℕ) (history : List (LeaseVersion ι)) : Prop :=
  Distinct history → ∃ own, Above i own history ∧ Owned i since asked own

/-- When replica `i` makes a call in its loops: in a term it replaces only its own version, and
it starts a term or notes a renewal only after it has stored a version since its step began. -/
def Election.LoopGuarantee (X : Election ι) (i : ι) (w : TermWorld ι) : ElectorCall → Prop
  | .lease c => X.Guarantee i w.lease c ∧ ∀ name lease, c = .replace name lease →
      w.term i ≠ none → Distinct w.lease.history → ∀ v older, w.lease.history = v :: older →
      v.lease.resourceVersion = lease.resourceVersion → v.writer = some i
  | .renewed => ∀ term, w.term i = some term → Holds i term.since (w.began i) w.lease.history
  | .startControllers => Holds i w.lease.time (w.began i) w.lease.history
  | _ => True

/-- The invariant of all runs with terms. -/
structure Election.TermInv (X : Election ι) (w : TermWorld ι) : Prop where
  inv : X.Inv w.lease
  began : ∀ i, w.began i ≤ w.lease.time
  noted : ∀ i term, w.term i = some term → term.asked ≤ term.renewed
  young : ∀ i term, w.term i = some term → term.checked < term.renewed + leaseDuration
  holds : ∀ i term, w.term i = some term → Holds i term.since term.asked w.lease.history

variable {X : Election ι} {i j : ι} {w w' : TermWorld ι} {since asked : ℕ}
  {history : List (LeaseVersion ι)}

/-- Versions of others leave a term as it is. -/
theorem Holds.cons_other (h : Holds i since asked history) {v : LeaseVersion ι}
    (hv : v.writer ≠ some i) : Holds i since asked (v :: history) := by
  intro hdistinct
  obtain ⟨own, habove, hown⟩ := h (hdistinct.suffix (List.suffix_cons v history))
  exact ⟨own, habove.cons hv, hown⟩

/-- The replica's own version goes on top of its versions, if the one below is its own. -/
theorem Holds.cons_own (h : Holds i since asked history) {v : LeaseVersion ι}
    (hv : v.writer = some i)
    (hbelow : Distinct history → ∀ u older, history = u :: older → u.writer = some i) :
    Holds i since asked (v :: history) := by
  intro hdistinct
  have hdistinct' := hdistinct.suffix (List.suffix_cons v history)
  obtain ⟨own, ⟨newer, rfl, hnewer⟩, hown⟩ := h hdistinct'
  cases newer with
  | nil => exact ⟨_, .refl _, hown.cons hv (.inl (Nat.le_refl _))⟩
  | cons u newer =>
      exact absurd (hbelow hdistinct' u _ rfl) (hnewer u List.mem_cons_self)

theorem Owned.ne_nil {own : List (LeaseVersion ι)} (h : Owned i since asked own) : own ≠ [] := by
  obtain ⟨v, older, rfl, -⟩ := h.newest
  exact List.cons_ne_nil v older

variable [DecidableEq ι]

/-- Time passes. -/
theorem Election.TermInv.env (hw : X.TermInv w) (h : TermWorld.Env w w') :
    X.TermInv w' ∧ ∀ j, TermWorld.aside X j w w' := by
  cases h with
  | tick d =>
      obtain ⟨hinv, hlater⟩ := hw.inv.env X (.tick d)
      refine ⟨⟨hinv, fun j => ?_, hw.noted, hw.young, hw.holds⟩, fun j => ?_⟩
      · exact Nat.le_add_right_of_le (hw.began j)
      · exact ⟨⟨hlater j, .refl _, rfl⟩, fun _ => hinv, rfl, rfl⟩
  | revise d =>
      obtain ⟨hinv, hlater⟩ := hw.inv.env X (.revise d)
      refine ⟨⟨hinv, hw.began, hw.noted, hw.young, hw.holds⟩, fun j => ?_⟩
      exact ⟨⟨hlater j, .refl _, rfl⟩, fun _ => hinv, rfl, rfl⟩

@[simp] theorem TermWorld.setTerm_lease (w : TermWorld ι) (i : ι) (term : Option Term) :
    (w.setTerm i term).lease = w.lease := rfl

@[simp] theorem TermWorld.setTerm_began (w : TermWorld ι) (i : ι) (term : Option Term) :
    (w.setTerm i term).began = w.began := rfl

@[simp] theorem TermWorld.setTerm_self (w : TermWorld ι) (i : ι) (term : Option Term) :
    (w.setTerm i term).term i = term := Function.update_self ..

theorem TermWorld.setTerm_of_ne (w : TermWorld ι) (term : Option Term) (h : j ≠ i) :
    (w.setTerm i term).term j = w.term j := Function.update_of_ne h ..

/-- A change of the term of one replica is no concern of the others. -/
theorem TermWorld.aside_setTerm (w : TermWorld ι) (term : Option Term) (h : j ≠ i) :
    TermWorld.aside X j w (w.setTerm i term) :=
  ⟨(LeaseWorld.apart j).refl _, id, rfl, w.setTerm_of_ne term h⟩

/-- A term may be changed to one that the invariant allows. -/
theorem Election.TermInv.setTerm (hw : X.TermInv w) {term : Option Term}
    (hterm : ∀ t, term = some t → t.asked ≤ t.renewed ∧ t.checked < t.renewed + leaseDuration ∧
      Holds i t.since t.asked w.lease.history) : X.TermInv (w.setTerm i term) := by
  have hcases : ∀ k t, (w.setTerm i term).term k = some t →
      (k = i ∧ term = some t) ∨ w.term k = some t := by
    intro k t hk
    rcases eq_or_ne k i with rfl | hne
    · rw [w.setTerm_self] at hk
      exact .inl ⟨rfl, hk⟩
    · rw [w.setTerm_of_ne term hne] at hk
      exact .inr hk
  refine ⟨hw.inv, hw.began, fun k t hk => ?_, fun k t hk => ?_, fun k t hk => ?_⟩
  · rcases hcases k t hk with ⟨-, ht⟩ | hk
    · exact (hterm t ht).1
    · exact hw.noted k t hk
  · rcases hcases k t hk with ⟨-, ht⟩ | hk
    · exact (hterm t ht).2.1
    · exact hw.young k t hk
  · rcases hcases k t hk with ⟨rfl, ht⟩ | hk
    · exact (hterm t ht).2.2
    · exact hw.holds k t hk

/-- A call to the API server stores at most one version, of the caller. -/
theorem Effect.grows {c : LeaseCall} {w w' : LeaseWorld ι} (h : Effect i w c w') :
    w'.time = w.time ∧ (w'.history = w.history ∨ ∃ v : LeaseVersion ι, v.writer = some i ∧
      w'.history = v :: w.history ∧ (w.history = [] ∨ ∃ name lease u older,
        c = .replace name lease ∧ w.history = u :: older ∧
        u.lease.resourceVersion = lease.resourceVersion)) := by
  cases h with
  | nothing => exact ⟨rfl, .inl rfl⟩
  | begun => exact ⟨rfl, .inl rfl⟩
  | tracked tracker => exact ⟨rfl, .inl rfl⟩
  | created hnone => exact ⟨rfl, .inr ⟨_, rfl, rfl, .inl hnone⟩⟩
  | replaced hstored hversion =>
      exact ⟨rfl, .inr ⟨_, rfl, rfl, .inr ⟨_, _, _, _, rfl, hstored, hversion⟩⟩⟩

/-- The other replicas keep their memory. -/
theorem Effect.trackers {c : LeaseCall} {w w' : LeaseWorld ι} (h : Effect i w c w') (hj : j ≠ i) :
    w'.trackers j = w.trackers j := by
  cases h with
  | tracked tracker => exact Function.update_of_ne hj ..
  | nothing => rfl
  | begun => rfl
  | created _ => rfl
  | replaced _ _ => rfl

theorem Effect.apart {c : LeaseCall} {w w' : LeaseWorld ι} (h : Effect i w c w') (hj : j ≠ i) :
    LeaseWorld.Apart j w w' := by
  refine ⟨h.later hj, ?_, h.trackers hj⟩
  rcases h.grows.2 with hsame | ⟨v, hv, hhistory, -⟩
  · rw [hsame]
    exact .refl _
  · rw [hhistory]
    refine (Above.refl _).cons ?_
    rw [hv]
    exact fun heq => hj (Option.some.inj heq).symm

/-- A call to the API server keeps the invariant. -/
theorem Election.TermInv.lease {c : LeaseCall} {w₁ : LeaseWorld ι} (hw : X.TermInv w)
    (hc : X.LoopGuarantee i w (.lease c)) (he : Effect i w.lease c w₁) :
    X.TermInv { w with lease := w₁ } := by
  obtain ⟨htime, hhistory⟩ := he.grows
  refine ⟨hw.inv.effect X hc.1 he, fun k => ?_, hw.noted, hw.young, fun k term hk => ?_⟩
  · rw [htime]
    exact hw.began k
  · have hholds := hw.holds k term hk
    show Holds k term.since term.asked w₁.history
    rcases hhistory with hsame | ⟨v, hv, hcons, hbelow⟩
    · rw [hsame]
      exact hholds
    · rw [hcons]
      rcases eq_or_ne k i with rfl | hne
      · refine hholds.cons_own hv (fun hdistinct u older hu => ?_)
        rcases hbelow with hnone | ⟨name, lease, u', older', rfl, hu', hversion⟩
        · rw [hnone] at hu
          cases hu
        · rw [hu'] at hu
          cases hu
          have hterm : w.term k ≠ none := fun hnone => by cases hnone.symm.trans hk
          exact hc.2 name lease rfl hterm hdistinct u older hu' hversion
      · refine hholds.cons_other ?_
        rw [hv]
        exact fun heq => hne (Option.some.inj heq).symm

/-- A call of the loops under the guarantee keeps the invariant, and is no concern of the other
replicas. -/
theorem Election.TermInv.call (hw : X.TermInv w) {c : ElectorCall} (f : Choice)
    (hc : X.LoopGuarantee i w c) : X.TermInv (X.serveLoop i w c f).1 ∧
      ∀ j, j ≠ i → TermWorld.aside X j w (X.serveLoop i w c f).1 := by
  cases c with
  | lease c =>
      have he := X.react_effect i w.lease c f
      have hinv := hw.lease hc he
      exact ⟨hinv, fun j hj => ⟨he.apart hj, fun _ => hinv.inv, rfl, rfl⟩⟩
  | boot =>
      have hinv := hw.inv.remember X (Election.remembers_nothing (i := i) w.lease.history)
      have hterm : X.TermInv (w.setTerm i none) := hw.setTerm nofun
      refine ⟨⟨hinv, hterm.began, hterm.noted, hterm.young, hterm.holds⟩, fun j hj => ?_⟩
      refine ⟨⟨⟨List.suffix_rfl, Nat.le_refl _, rfl, fun h => ⟨h.past, h.given, h.once⟩⟩, .refl _, ?_⟩,
        fun _ => hinv, rfl, w.setTerm_of_ne none hj⟩
      exact Function.update_of_ne hj ..
  | recollect =>
      refine ⟨⟨hw.inv, fun k => ?_, hw.noted, hw.young, hw.holds⟩, fun j hj => ?_⟩
      · show Function.update w.began i w.lease.time k ≤ w.lease.time
        rcases eq_or_ne k i with rfl | hne
        · exact Nat.le_of_eq (Function.update_self ..)
        · rw [Function.update_of_ne hne]
          exact hw.began k
      · exact ⟨(LeaseWorld.apart j).refl _, id, Function.update_of_ne hj .., rfl⟩
  | sleep duration => exact ⟨hw, fun j _ => (TermWorld.aside X j).refl w⟩
  | renewed =>
      refine ⟨hw.setTerm (fun t ht => ?_), fun j hj => w.aside_setTerm _ hj⟩
      obtain ⟨term, hterm, rfl⟩ := Option.map_eq_some_iff.mp ht
      exact ⟨hw.began i, Nat.lt_add_of_pos_right (by decide), hc term hterm⟩
  | sinceRenewed =>
      cases hterm : w.term i with
      | none =>
          simp only [serveLoop, hterm]
          exact ⟨hw, fun j _ => (TermWorld.aside X j).refl w⟩
      | some term =>
          simp only [serveLoop, hterm]
          split_ifs with hlong
          · exact ⟨hw, fun j _ => (TermWorld.aside X j).refl w⟩
          · refine ⟨hw.setTerm (fun t ht => ?_), fun j hj => w.aside_setTerm _ hj⟩
            cases ht
            refine ⟨hw.noted i term hterm, ?_, hw.holds i term hterm⟩
            simp only [clock, Instant] at hlong
            show w.lease.time < term.renewed + leaseDuration
            omega
  | startControllers =>
      refine ⟨hw.setTerm (fun t ht => ?_), fun j hj => w.aside_setTerm _ hj⟩
      cases ht
      exact ⟨hw.began i, Nat.lt_add_of_pos_right (by decide), hc⟩
  | dropControllers => exact ⟨hw.setTerm nofun, fun j hj => w.aside_setTerm _ hj⟩

end terms

/-! ### The loops keep their guarantee -/

section loops
variable {ι : Type} {X : Election ι} {i : ι} {w w' : TermWorld ι} {term : Term} {asked : ℕ}

/-- Replica `i` campaigns. -/
structure Election.Campaigns (X : Election ι) (i : ι) (w : TermWorld ι) : Prop where
  inv : X.Inv w.lease
  idle : w.term i = none

/-- Replica `i` has stored a version in its present step, and remembers none above it. -/
structure Election.Elected (X : Election ι) (i : ι) (w : TermWorld ι) : Prop
    extends X.Campaigns i w where
  version : ∃ v read, Above i (v :: read) w.lease.history ∧ v.writer = some i ∧
    w.began i ≤ v.writtenAt ∧ X.Remembers i (w.lease.trackers i) read

/-- Replica `i` leads: its versions stand on each other, one of them stored since `asked`, and it
remembers none above them. -/
structure Election.Leads (X : Election ι) (i : ι) (term : Term) (asked : ℕ) (w : TermWorld ι) :
    Prop where
  inv : X.Inv w.lease
  leading : w.term i = some term
  own : Distinct w.lease.history → ∃ own, Above i own w.lease.history ∧
    Owned i term.since asked own ∧ X.Remembers i (w.lease.trackers i) own

theorem Election.Campaigns.aside (h : X.Campaigns i w) (ha : TermWorld.Aside X i w w') :
    X.Campaigns i w' := ⟨ha.inv h.inv, ha.term.trans h.idle⟩

theorem Election.Elected.aside (h : X.Elected i w) (ha : TermWorld.Aside X i w w') :
    X.Elected i w' := by
  obtain ⟨v, read, habove, hwriter, hbegan, hseen⟩ := h.version
  refine ⟨h.toCampaigns.aside ha, v, read, habove.trans ha.apart.above, hwriter, ?_, ?_⟩
  · rw [ha.began]
    exact hbegan
  · rw [ha.apart.tracker]
    exact hseen

theorem Election.Leads.aside (h : X.Leads i term asked w) (ha : TermWorld.Aside X i w w') :
    X.Leads i term asked w' := by
  refine ⟨ha.inv h.inv, ha.term.trans h.leading, fun hdistinct => ?_⟩
  obtain ⟨own, habove, hown, hseen⟩ := h.own (hdistinct.suffix ha.apart.above.suffix)
  refine ⟨own, habove.trans ha.apart.above, hown, ?_⟩
  rw [ha.apart.tracker]
  exact hseen

theorem Election.Leads.holds (h : X.Leads i term asked w) :
    Holds i term.since asked w.lease.history := by
  intro hdistinct
  obtain ⟨own, habove, hown, -⟩ := h.own hdistinct
  exact ⟨own, habove, hown⟩

/-- The lease was renewed since the step began, and stays so while the others move. -/
theorem Election.Leads.began_aside (h : X.Leads i term (w.began i) w)
    (ha : TermWorld.Aside X i w w') : X.Leads i term (w'.began i) w' := by
  rw [ha.began]
  exact h.aside ha

/-- An elected replica starts its controllers with its versions in place. -/
theorem Election.Elected.holds (h : X.Elected i w) :
    Holds i w.lease.time (w.began i) w.lease.history := by
  intro _
  obtain ⟨v, read, habove, hwriter, hbegan, -⟩ := h.version
  exact ⟨v :: read, habove, .first hwriter hbegan
    (fun u hu => h.inv.wf.past u (habove.suffix.subset hu))⟩

/-- A replica that leads and does not wait has read its own versions. -/
theorem Election.Leads.owned (hidentity : Function.Injective X.identity)
    (h : X.Leads i term asked w) (hinv : X.Inv w'.lease) {read : List (LeaseVersion ι)}
    (hs : read <:+ w'.lease.history) (hcontends : X.Contends i (w.lease.trackers i) read)
    (habove : Above i w.lease.history read) (hdistinct : Distinct read) :
    Above i read w.lease.history ∧ Owned i term.since asked read := by
  obtain ⟨own, habove', hown, hseen⟩ := h.own (hdistinct.suffix habove.suffix)
  have heq := eq_own_of_contends hidentity (fun v r hr => hinv.justified v r (hr.trans hs)) hdistinct
    (habove'.trans habove) hown.ne_nil hseen hcontends
  rw [heq]
  exact ⟨habove', hown⟩

/-- What holds after a step that began in the world `w`. -/
structure Election.After (X : Election ι) (i : ι) (w : TermWorld ι)
    (r : Except KubeError Decision) (w' : TermWorld ι) : Prop where
  inv : X.Inv w'.lease
  began : w'.began i ≤ w.lease.time
  term : w'.term i = w.term i
  stepped : X.Stepped i w.lease.time (w.lease.trackers i) w.lease.history r w'.lease

/-- A campaigning replica that renewed or acquired the lease is elected. -/
theorem Election.After.elected {decision : Decision} (hw : X.Campaigns i w)
    (h : X.After i w (.ok decision) w') (hd : decision ≠ .wait) : X.Elected i w' := by
  obtain ⟨v, read, habove, -, hwriter, htime, -, hseen⟩ := h.stepped.of_led hd
  exact ⟨⟨h.inv, h.term.trans hw.idle⟩, v, read, habove, hwriter, Nat.le_trans h.began htime, hseen⟩

/-- A version stored in a step of a term joins the versions of the term. -/
theorem Election.Leads.stored (hidentity : Function.Injective X.identity)
    (hw : X.Leads i term asked w) (hinv : X.Inv w'.lease) (hterm : w'.term i = w.term i)
    {v : LeaseVersion ι} {read : List (LeaseVersion ι)} {asked' : ℕ}
    (habove : Above i (v :: read) w'.lease.history) (hread : Above i w.lease.history read)
    (hwriter : v.writer = some i) (hcontends : X.Contends i (w.lease.trackers i) read)
    (hseen : X.Remembers i (w'.lease.trackers i) read)
    (hasked : asked' ≤ asked ∨ asked' ≤ v.writtenAt) : X.Leads i term asked' w' := by
  refine ⟨hinv, hterm.trans hw.leading, fun hdistinct => ?_⟩
  have hs : read <:+ w'.lease.history := (List.suffix_cons v read).trans habove.suffix
  obtain ⟨-, hread'⟩ := hw.owned hidentity hinv hs hcontends hread (hdistinct.suffix hs)
  exact ⟨v :: read, habove, hread'.cons hwriter hasked, hseen.mono (List.suffix_cons v read)⟩

/-- After a step that renewed the lease, the replica has stored a version since the step began. -/
theorem Election.After.renewed (hidentity : Function.Injective X.identity) {decision : Decision}
    (hw : X.Leads i term asked w) (h : X.After i w (.ok decision) w') (hd : decision ≠ .wait) :
    X.Leads i term (w'.began i) w' := by
  obtain ⟨v, read, habove, hread, hwriter, htime, hcontends, hseen⟩ := h.stepped.of_led hd
  exact hw.stored hidentity h.inv h.term habove hread hwriter hcontends hseen
    (.inr (Nat.le_trans h.began htime))

/-- After a step that failed, the replica still leads. -/
theorem Election.After.kept (hidentity : Function.Injective X.identity) {err : KubeError}
    (hw : X.Leads i term asked w) (h : X.After i w (.error err) w') : X.Leads i term asked w' := by
  have hstepped := h.stepped
  generalize hr : Except.error err = r at hstepped
  cases hstepped with
  | waited _ => cases hr
  | failed habove hmemory =>
      refine ⟨h.inv, h.term.trans hw.leading, fun hdistinct => ?_⟩
      rcases hmemory with hsame | ⟨read, hread, hs, hcontends, hseen⟩
      · obtain ⟨own, habove', hown, hseen⟩ := hw.own (hdistinct.suffix habove.suffix)
        exact ⟨own, habove'.trans habove, hown, by rwa [hsame]⟩
      · obtain ⟨hbelow, hown⟩ := hw.owned hidentity h.inv hs hcontends hread (hdistinct.suffix hs)
        exact ⟨read, hbelow.trans habove, hown, hseen⟩
  | stored habove hread hwriter htime hcontends hseen =>
      exact hw.stored hidentity h.inv h.term habove hread hwriter hcontends hseen
        (.inl (Nat.le_refl _))

variable [DecidableEq ι]

/-- A step in the loops: under a condition `I` that the others keep, and in a term only if the
replica would wait at the version of a peer. -/
theorem electorStep_safe {I : TermWorld ι → Prop} (hw : I w) (hinv : ∀ {w}, I w → X.Inv w.lease)
    (haside : ∀ {w w'}, I w → TermWorld.Aside X i w w' → I w')
    (hrecall : ∀ {w}, I w → I { w with began := Function.update w.began i w.lease.time })
    (hown : ∀ {w w' : TermWorld ι}, I w → X.Inv w'.lease → w'.term i = w.term i → w'.term i ≠ none →
      X.Contends i (w.lease.trackers i) w'.lease.history →
      Above i w.lease.history w'.lease.history → Distinct w'.lease.history →
      ∀ v older, w'.lease.history = v :: older → v.writer = some i) :
    (electorStep (X.config i)).Safe (X.serveLoop i) (TermWorld.aside X i) (X.LoopGuarantee i)
      (fun r w' => ∃ w, I w ∧ X.After i w r w') w := by
  refine Prog.Safe.bind (Prog.safe_perform fun w₀ h₀ => ⟨trivial, fun _ w₁ h₁ => ?_⟩)
  replace h₁ : TermWorld.Aside X i _ w₁ := h₁
  have hw₁ : I w₁ := haside (hrecall (haside hw h₀)) h₁
  have hbegan : w₁.began i ≤ w₁.lease.time := by
    rw [h₁.began]
    have hnow : Function.update w₀.began i w₀.lease.time i = w₀.lease.time := Function.update_self ..
    exact hnow.trans_le h₁.apart.later.time
  have hmemory : w₁.lease.trackers i = w₀.lease.trackers i := h₁.apart.tracker
  show Prog.Safe _ _ _ _ ((step (X.config i) (w₀.lease.trackers i)).via _ _) w₁
  rw [← hmemory]
  have hstep := step_stepped (X := X) (hinv hw₁).wf ((hinv hw₁).trackers i)
  have hvia : ((step (X.config i) (w₁.lease.trackers i)).via ElectorCall.lease
      (fun _ answer => answer)).Safe (X.serveLoop i) (TermWorld.aside X i)
      (fun w c' => ∃ c, ElectorCall.lease c = c' ∧
        X.StepGuarantee i (w₁.lease.trackers i) w₁.lease.history w.lease c)
      (fun r w => X.Stepped i w₁.lease.time (w₁.lease.trackers i) w₁.lease.history r w.lease) w₁ := by
    refine Prog.Safe.via TermWorld.lease (fun _ _ _ => rfl) (fun w c f => ?_) (TermWorld.Aside.apart ·)
      hstep
    show (X.react i w.lease c f).2.map (fun answer => answer) = _
    cases (X.react i w.lease c f).2 <;> rfl
  refine Prog.Safe.mono (fun _ _ h => h) ?_ (Prog.Safe.with_inv (I := fun w' => X.Inv w'.lease ∧
    w'.began i = w₁.began i ∧ w'.term i = w₁.term i) ?_ ?_ hvia ⟨hinv hw₁, rfl, rfl⟩)
  · rintro r w' ⟨hstepped, hinv', hbegan', hterm'⟩
    exact ⟨w₁, hw₁, hinv', hbegan'.trans_le hbegan, hterm', hstepped⟩
  · intro w₂ w₃ h₂ h₃
    exact ⟨h₃.inv h₂.1, h₃.began.trans h₂.2.1, h₃.term.trans h₂.2.2⟩
  · rintro w₂ _ ⟨hinv₂, hbegan₂, hterm₂⟩ ⟨c, rfl, hc⟩
    refine ⟨⟨hc.call, fun name lease hreplace hterm hdistinct v older hv hversion => ?_⟩, fun f => ?_⟩
    · obtain ⟨hcontends, habove⟩ := hc.replaced name lease hreplace v older hv hversion
      exact hown hw₁ hinv₂ hterm₂ hterm hcontends habove hdistinct v older hv
    · exact ⟨hinv₂.effect X hc.call (X.react_effect i w₂.lease c f), hbegan₂, hterm₂⟩

/-- Campaigning keeps the guarantee, and ends with an elected replica. -/
theorem campaign_safe (rounds : ℕ) (hw : X.Campaigns i w) :
    (campaign (X.config i) rounds).Safe (X.serveLoop i) (TermWorld.aside X i) (X.LoopGuarantee i)
      (fun r w' => ∀ u, r = .ok (some u) → X.Elected i w') w := by
  refine Prog.Safe.loop (I := X.Campaigns i) (fun h ha => h.aside ha)
    (fun _ _ u hu => by cases hu) (fun w hw => ?_) rounds w hw
  have hstep := electorStep_safe (X := X) (i := i) (I := X.Campaigns i) hw (fun h => h.inv)
    (fun h ha => h.aside ha) (fun h => ⟨h.inv, h.idle⟩)
    (fun h _ hsame hterm => absurd (hsame.trans h.idle) hterm)
  refine Prog.Safe.bind (Prog.Safe.attempt (Prog.Safe.mono (fun _ _ h => h) ?_ hstep))
  rintro r w₁ ⟨w₀, hw₀, hafter⟩
  have hw₁ : X.Campaigns i w₁ := ⟨hafter.inv, hafter.term.trans hw₀.idle⟩
  match r with
  | .ok .renew =>
      rintro w₂ h₂ w₃ h₃ _ ⟨⟩
      exact ((hafter.elected hw₀ nofun).aside h₂).aside h₃
  | .ok .acquire =>
      rintro w₂ h₂ w₃ h₃ _ ⟨⟩
      exact ((hafter.elected hw₀ nofun).aside h₂).aside h₃
  | .ok .wait =>
      refine Prog.Safe.bind (Prog.safe_perform fun w₂ h₂ => ⟨trivial, fun _ w₃ h₃ w₄ h₄ => ?_⟩)
      exact ((hw₁.aside h₂).aside h₃).aside h₄
  | .error err =>
      refine Prog.Safe.bind (Prog.safe_perform fun w₂ h₂ => ⟨trivial, fun _ w₃ h₃ w₄ h₄ => ?_⟩)
      exact ((hw₁.aside h₂).aside h₃).aside h₄

/-- Noting a renewal after a version was stored since the step began. -/
theorem Election.Leads.note (h : X.Leads i term (w.began i) w) (f : Choice) :
    ∃ term', X.Leads i term' term'.asked (X.serveLoop i w .renewed f).1 := by
  refine ⟨⟨term.since, w.began i, w.lease.time, w.lease.time⟩, h.inv, ?_, h.own⟩
  show (w.setTerm i _).term i = _
  rw [w.setTerm_self, h.leading]
  rfl

/-- Asking for the time since the last renewal. -/
theorem Election.Leads.ask (h : X.Leads i term term.asked w) (f : Choice) :
    ∃ term', X.Leads i term' term'.asked (X.serveLoop i w .sinceRenewed f).1 := by
  simp only [serveLoop, h.leading]
  split_ifs with hlong
  · exact ⟨term, h⟩
  · exact ⟨{ term with checked := w.lease.time }, h.inv, w.setTerm_self i _, h.own⟩

/-- A step of a replica that leads. -/
theorem electorStep_leads (hidentity : Function.Injective X.identity)
    (hw : ∃ term, X.Leads i term term.asked w) :
    (electorStep (X.config i)).Safe (X.serveLoop i) (TermWorld.aside X i) (X.LoopGuarantee i)
      (fun r w' => ∃ w, (∃ term, X.Leads i term term.asked w) ∧ X.After i w r w') w := by
  refine electorStep_safe hw ?_ ?_ ?_ ?_
  · rintro w ⟨term, h⟩
    exact h.inv
  · rintro w w' ⟨term, h⟩ ha
    exact ⟨term, h.aside ha⟩
  · rintro w ⟨term, h⟩
    exact ⟨term, h.inv, h.leading, h.own⟩
  · rintro w w' ⟨term, h⟩ hinv _ _ hcontends habove hdistinct v older hv
    obtain ⟨-, hown⟩ := h.owned hidentity hinv List.suffix_rfl hcontends habove hdistinct
    obtain ⟨u, rest, hu, hwriter⟩ := hown.newest
    rw [hv] at hu
    cases hu
    exact hwriter

/-- Noting a renewal keeps the guarantee. -/
theorem renewed_safe (hw : X.Leads i term (w.began i) w) :
    renewed.Safe (X.serveLoop i) (TermWorld.aside X i) (X.LoopGuarantee i)
      (fun r w' => r = .ok () ∧ ∃ term, X.Leads i term term.asked w') w := by
  refine Prog.safe_perform fun w₁ h₁ => ⟨?_, fun f w₂ h₂ => ⟨rfl, ?_⟩⟩
  · intro term₁ hterm₁
    have hw₁ := hw.began_aside h₁
    cases hw₁.leading.symm.trans hterm₁
    exact hw₁.holds
  · obtain ⟨term₂, hw₂⟩ := (hw.began_aside h₁).note f
    exact ⟨term₂, hw₂.aside h₂⟩

/-- Asking for the time since the last renewal keeps the guarantee. -/
theorem sinceRenewed_safe (hw : X.Leads i term term.asked w) :
    sinceRenewed.Safe (X.serveLoop i) (TermWorld.aside X i) (X.LoopGuarantee i)
      (fun _ w' => ∃ term, X.Leads i term term.asked w') w := by
  refine Prog.safe_perform fun w₁ h₁ => ⟨trivial, fun f w₂ h₂ => ?_⟩
  obtain ⟨term₂, hw₂⟩ := (hw.aside h₁).ask f
  exact ⟨term₂, hw₂.aside h₂⟩

/-- A round of a replica that leads. -/
theorem keepRound_safe (hidentity : Function.Injective X.identity)
    (hw : ∃ term, X.Leads i term term.asked w) :
    (keepRound (X.config i)).Safe (X.serveLoop i) (TermWorld.aside X i) (X.LoopGuarantee i)
      (Prog.Round (TermWorld.aside X i) (fun w => ∃ term, X.Leads i term term.asked w)
        (fun _ _ => True)) w := by
  obtain ⟨term, hw⟩ := hw
  refine Prog.Safe.bind (Prog.safe_perform fun w₁ h₁ => ⟨trivial, fun _ w₂ h₂ => ?_⟩)
  have hstep := electorStep_leads hidentity ⟨term, (hw.aside h₁).aside h₂⟩
  refine Prog.Safe.bind (Prog.Safe.attempt (Prog.Safe.mono (fun _ _ h => h) ?_ hstep))
  rintro r w₃ ⟨w₀, ⟨term₀, hw₀⟩, hafter⟩
  -- A renewal is noted; a failure is held against the time of the last renewal.
  have hnote : X.Leads i term₀ (w₃.began i) w₃ →
      (renewed >>= fun _ => pure none : ElectorOp (Option Error)).Safe (X.serveLoop i)
        (TermWorld.aside X i) (X.LoopGuarantee i)
        (Prog.Round (TermWorld.aside X i) (fun w => ∃ term, X.Leads i term term.asked w)
          (fun _ _ => True)) w₃ := by
    intro hleads
    refine Prog.Safe.bind (Prog.Safe.mono (fun _ _ h => h) ?_ (renewed_safe hleads))
    rintro _ w₄ ⟨rfl, term₄, hw₄⟩ w₅ h₅
    exact ⟨term₄, hw₄.aside h₅⟩
  match r with
  | .ok .renew => exact hnote (hafter.renewed hidentity hw₀ nofun)
  | .ok .acquire => exact hnote (hafter.renewed hidentity hw₀ nofun)
  | .ok .wait => exact fun _ _ _ _ => trivial
  | .error err =>
      have hkept := hafter.kept hidentity hw₀
      refine Prog.Safe.bind (Prog.Safe.mono (fun _ _ h => h) ?_ (sinceRenewed_safe hkept))
      rintro r w₄ ⟨term₄, hw₄⟩
      cases r with
      | error err => exact fun _ _ _ _ => trivial
      | ok elapsed =>
          show Prog.Safe _ _ _ _ (ite _ _ _) w₄
          split_ifs with hlong
          · exact fun _ _ _ _ => trivial
          · exact fun w₅ h₅ => ⟨term₄, hw₄.aside h₅⟩

/-- Keeping leadership keeps the guarantee. -/
theorem keepLeadership_safe (hidentity : Function.Injective X.identity) (rounds : ℕ)
    (hw : X.Leads i term (w.began i) w) :
    (keepLeadership (X.config i) rounds).Safe (X.serveLoop i) (TermWorld.aside X i)
      (X.LoopGuarantee i) (fun _ _ => True) w := by
  refine Prog.Safe.bind (Prog.Safe.mono (fun _ _ h => h) ?_ (renewed_safe hw))
  rintro _ w₁ ⟨rfl, hw₁⟩
  refine Prog.Safe.loop (I := fun w => ∃ term, X.Leads i term term.asked w) ?_
    (fun _ _ => trivial) (fun w hw => keepRound_safe hidentity hw) rounds w₁ hw₁
  rintro w w' ⟨term, h⟩ ha
  exact ⟨term, h.aside ha⟩

theorem Election.Elected.lead (h : X.Elected i w) (f : Choice) :
    X.Leads i ⟨w.lease.time, w.began i, w.lease.time, w.lease.time⟩ (w.began i)
      (X.serveLoop i w .startControllers f).1 := by
  refine ⟨h.inv, w.setTerm_self i _, fun _ => ?_⟩
  obtain ⟨v, read, habove, hwriter, hbegan, hseen⟩ := h.version
  refine ⟨v :: read, habove, .first hwriter hbegan ?_, hseen.mono (List.suffix_cons v read)⟩
  exact fun u hu => h.inv.wf.past u (habove.suffix.subset hu)

/-- A replica keeps the guarantee from its start to its end. -/
theorem run_safe (hidentity : Function.Injective X.identity) (rounds : ℕ) (hw : X.Inv w.lease) :
    (run (X.config i) rounds).Safe (X.serveLoop i) (TermWorld.aside X i) (X.LoopGuarantee i)
      (fun _ _ => True) w := by
  refine Prog.Safe.bind (Prog.safe_perform fun w₁ h₁ => ⟨trivial, fun f w₂ h₂ => ?_⟩)
  have hinv₁ := (h₁.inv hw).remember X (Election.remembers_nothing (i := i) w₁.lease.history)
  have hboot : X.Campaigns i (X.serveLoop i w₁ .boot f).1 := ⟨hinv₁, w₁.setTerm_self i none⟩
  have hw₂ := hboot.aside h₂
  refine Prog.Safe.bind (Prog.Safe.mono (fun _ _ h => h) ?_ (campaign_safe rounds hw₂))
  intro r w₃ hr
  match r with
  | .error err => exact fun _ _ => trivial
  | .ok none => exact fun _ _ => trivial
  | .ok (some ()) =>
      have hw₃ := hr () rfl
      refine Prog.Safe.bind (Prog.safe_perform fun w₄ h₄ => ⟨(hw₃.aside h₄).holds, fun f w₅ h₅ => ?_⟩)
      have hw₅ := ((hw₃.aside h₄).lead f).began_aside h₅
      refine Prog.Safe.bind
        (Prog.Safe.mono (fun _ _ h => h) ?_ (keepLeadership_safe hidentity rounds hw₅))
      intro r w₆ _
      match r with
      | .error err => exact fun _ _ => trivial
      | .ok none => exact fun _ _ => trivial
      | .ok (some lost) =>
          exact Prog.Safe.bind (Prog.safe_perform fun _ _ => ⟨trivial, fun _ _ _ _ _ => trivial⟩)

end loops

/-! ### Two leaders -/

section leaders
variable {ι : Type} {X : Election ι} {i j : ι} {history : List (LeaseVersion ι)}

/-- A version on top of the versions of a term has waited for the lease duration. -/
theorem Owned.replaced {since asked : ℕ} {own newer : List (LeaseVersion ι)} {v : LeaseVersion ι}
    (hidentity : Function.Injective X.identity)
    (hjustified : ∀ v replaced, v :: replaced <:+ history → X.Justified v replaced)
    (hdistinct : Distinct history) (hown : Owned i since asked own)
    (hhistory : history = newer ++ v :: own) (hv : v.writer ≠ some i) :
    asked + leaseDuration ≤ v.writtenAt := by
  have hs : v :: own <:+ history := ⟨newer, hhistory.symm⟩
  have hjust := hjustified v own hs
  obtain ⟨newest, older, hnewest, hwriter⟩ := hown.newest
  obtain ⟨k, hk⟩ : ∃ k, v.writer = some k := by
    refine Option.ne_none_iff_exists'.mp (fun hnone => hown.ne_nil (hjust.found hnone))
  have hne : X.identity i ≠ X.identity k := by
    intro h
    rw [hk, hidentity h] at hv
    exact hv rfl
  have hown' : own <:+ history := (List.suffix_cons v own).trans hs
  have hheld : heldBy own = some (X.identity i) := by
    have hjust' := hjustified newest older (hnewest ▸ hown')
    rw [hnewest]
    exact hjust'.held i hwriter
  have hold := (hjust.expired k hk).all (hdistinct.suffix hown') hheld hne
  obtain ⟨block, first, below, rfl, -, ⟨u, hu, hasked⟩, -⟩ := hown.block
  have hu' : u ∈ block ++ first :: below := by
    rw [List.append_cons]
    exact List.mem_append_left _ hu
  have hu'' := hold u hu'
  omega

/-- If the versions of a term of `j` lie above those of a term of `i`, then `j` started its
controllers a lease duration after `i` asked for its last renewal. -/
theorem Owned.since_of_above {since asked since' asked' : ℕ} {own own' : List (LeaseVersion ι)}
    (hidentity : Function.Injective X.identity)
    (hjustified : ∀ v replaced, v :: replaced <:+ history → X.Justified v replaced)
    (hdistinct : Distinct history) (hij : i ≠ j) (habove : Above i own history)
    (hown : Owned i since asked own) (hown' : Owned j since' asked' own')
    (hs' : own' <:+ history) (hs : own <:+ own') : asked + leaseDuration ≤ since' := by
  obtain ⟨newer, hnewer, hothers⟩ := habove
  obtain ⟨newest, older, hnewest, hwriter⟩ := hown.newest
  obtain ⟨newer', hnewer'⟩ := hs'
  obtain ⟨mid, hmid⟩ := hs
  obtain ⟨block, first, below, hblock, hblock', -, hsince⟩ := hown'.block
  -- The newest version of the term of `i` is below all those of the term of `j`.
  obtain ⟨c, -, hbelow⟩ : ∃ c, mid = (block ++ [first]) ++ c ∧ below = c ++ own := by
    rw [hblock, List.append_cons] at hmid
    rcases List.append_eq_append_iff.mp hmid with ⟨c, hc, hown⟩ | ⟨c, hc, hbelow⟩
    · cases c with
      | nil => exact ⟨[], by simpa using hc.symm, by simpa using hown.symm⟩
      | cons u c =>
          rw [hnewest] at hown
          obtain ⟨rfl, -⟩ := List.cons.inj hown
          have hj := hblock' newest (by rw [hc]; simp)
          exact absurd (Option.some.inj (hwriter.symm.trans hj)) hij
    · exact ⟨c, hc, hbelow⟩
  -- The version on top of them is not later than the first of the term of `j`.
  obtain ⟨lower, v, hlower⟩ : ∃ lower v, first :: c = lower ++ [v] := by
    rcases List.eq_nil_or_concat (first :: c) with hnil | h
    · cases hnil
    · simpa using h
  have hhistory : history = (newer' ++ block ++ lower) ++ v :: own := by
    rw [← hnewer', hblock, hbelow, ← List.cons_append, hlower]
    simp
  have hv : v ∈ newer := by
    have hcancel : newer = (newer' ++ block ++ lower) ++ [v] := by
      refine (List.append_left_inj own).mp ?_
      rw [← hnewer, hhistory]
      simp
    rw [hcancel]
    simp
  have hafter := hown.replaced hidentity hjustified hdistinct hhistory (hothers v hv)
  have hmem : v ∈ first :: below := by
    rw [hbelow, ← List.cons_append, hlower]
    simp
  exact Nat.le_trans hafter (hsince v hmem)

variable [DecidableEq ι]

/-- **Two replicas lead at once only briefly.**  In every state of every run in which no two
versions carry the same renew time, of two replicas that lead one has not found, since the other
started its controllers, that it may go on, except while its last renewal was under way: it last
did so earlier than the start of the other's controllers plus the time from the beginning of its
last renewing step to when it noted the renewal. -/
theorem leaders_overlap_briefly (hidentity : Function.Injective X.identity) {w : LeaseWorld ι}
    (hw : w.Fresh) {s : Conf ι ElectorCall.Answer KubeError (Option Error) (TermWorld ι)}
    (h : Reach X.serveLoop X.startLoop TermWorld.Env (Conf.idle (.initial w)) s)
    (hdistinct : Distinct s.world.lease.history) {T U : Term} (hij : i ≠ j)
    (hi : s.world.term i = some T) (hj : s.world.term j = some U) :
    T.checked < U.since + (T.renewed - T.asked) ∨ U.checked < T.since + (U.renewed - U.asked) := by
  have hinitial : X.TermInv (.initial w) :=
    ⟨hw.inv, fun _ => Nat.zero_le _, nofun, nofun, nofun⟩
  have hstart : ∀ i w p, X.TermInv w → X.startLoop i w p → p.Safe (X.serveLoop i)
      (TermWorld.aside X i) (X.LoopGuarantee i) (fun _ _ => True) w := by
    rintro i w p hw ⟨rounds, rfl⟩
    exact run_safe hidentity rounds hw.inv
  obtain ⟨hinv, -⟩ := Reach.safe hstart (fun i c f w hw hc => hw.call f hc)
    (fun w w' hw hm => hw.env hm) h hinitial
  obtain ⟨own, habove, hown⟩ := hinv.holds i T hi hdistinct
  obtain ⟨own', habove', hown'⟩ := hinv.holds j U hj hdistinct
  have hTnoted := hinv.noted i T hi
  have hTyoung := hinv.young i T hi
  have hUnoted := hinv.noted j U hj
  have hUyoung := hinv.young j U hj
  rcases List.suffix_or_suffix_of_suffix habove.suffix habove'.suffix with hs | hs
  · left
    have hsince := hown.since_of_above hidentity hinv.inv.justified hdistinct hij habove hown'
      habove'.suffix hs
    omega
  · right
    have hsince := hown'.since_of_above hidentity hinv.inv.justified hdistinct hij.symm habove'
      hown habove.suffix hs
    omega

end leaders

/-! ### A handover with two leaders -/

namespace Sample

/-- The choices of `n` calls that are all served at the wall-clock time `wall`. -/
def served (n : ℕ) (wall : MicroTime) : List Choice := List.replicate n ⟨.served, wall⟩

/-- The leader has created the lease and started its controllers, and sleeps. -/
def led : ElectorOp (Option Error) × TermWorld Bool :=
  Prog.exec (election.serveLoop false) (served 7 1) (run (election.config false) 1) (.initial unheld)

/-- The standby has looked once and sleeps. -/
def seen : ElectorOp (Option Error) × TermWorld Bool :=
  Prog.exec (election.serveLoop true) (served 7 2) (run (election.config true) 2) led.2

def waited : TermWorld Bool :=
  { seen.2 with lease := { seen.2.lease with time := seen.2.lease.time + leaseDuration } }

/-- After fifteen seconds the standby has taken the lease and started its controllers. -/
def taken : ElectorOp (Option Error) × TermWorld Bool :=
  Prog.exec (election.serveLoop true) (served 8 3) seen.1 waited

/-- The leader sleeps past the handover, so for a while both replicas lead. -/
theorem both_lead_at_handover :
    ∃ (s : Conf Bool ElectorCall.Answer KubeError (Option Error) (TermWorld Bool)) (T U : Term),
      Reach election.serveLoop election.startLoop TermWorld.Env (Conf.idle (.initial unheld)) s ∧
      s.world.term false = some T ∧ s.world.term true = some U ∧
      Distinct s.world.lease.history ∧ T.since < U.since ∧
      (T.checked < U.since + (T.renewed - T.asked) ∨
        U.checked < T.since + (U.renewed - U.asked)) := by
  have hfresh : unheld.Fresh := ⟨fun _ => rfl, Nat.zero_le _, nofun⟩
  have hidentity : Function.Injective election.identity := by
    intro a b
    cases a <;> cases b <;> decide
  have hled : Reach election.serveLoop election.startLoop TermWorld.Env (Conf.idle (.initial unheld))
      ⟨led.2, Function.update (fun _ => none) false (some led.1)⟩ :=
    Reach.start_exec false _ rfl ⟨1, rfl⟩
  have hseen := hled.trans (Reach.start_exec true (served 7 2) rfl ⟨2, rfl⟩)
  have hwaited := hseen.tail (.env (.tick leaseDuration))
  have htaken := hwaited.trans (Reach.exec true (served 8 3) seen.1 _ rfl)
  have hdistinct : Distinct taken.2.lease.history := by
    unfold Distinct
    decide +kernel
  have hi : taken.2.term false = some ⟨0, 0, 0, 0⟩ := by decide +kernel
  have hj : taken.2.term true =
      some ⟨leaseDuration, leaseDuration, leaseDuration, leaseDuration⟩ := by decide +kernel
  refine ⟨_, _, _, htaken, hi, hj, hdistinct, by decide, ?_⟩
  exact leaders_overlap_briefly hidentity hfresh htaken hdistinct (by decide) hi hj

end Sample

end OpenShell.Leader
