import OpenShellOperator.Effects.Threads
import OpenShellOperator.Leader.Elector
import Mathlib.Data.List.Nodup

/-! # A renewing leader is never evicted

Any number of replicas step against one Lease, in any interleaving of their calls.  The API
server stores a replaced lease only under the version it was read with, and a new one only if
there is none; every stored version gets a new resource version.  Calls may fail, with or
without effect, and replicas may stop and start anew with nothing remembered.  All clocks run at
the same rate, each from its own origin; the wall-clock readings are arbitrary.

The world keeps the versions of the lease, the newest first.  What a replica remembers is tied
to a version that was stored when it looked: no version up to it is younger than the time it was
first seen (`Remembers`).  A lease is taken from another holder only when the remembered
`renewTime` is still the stored one, so if no two versions carry the same `renewTime` the
remembered version is the one that is replaced. -/

namespace OpenShell.Leader
open Effects

/-- A version of the lease: when it was stored, by which replica (none for the lease that was
there before the run) and in which of its steps. -/
structure LeaseVersion (ι : Type) where
  lease : Lease
  writtenAt : ℕ
  writer : Option ι
  turn : ℕ

namespace LeaseVersion
variable {ι : Type}

def holder (v : LeaseVersion ι) : Option String := v.lease.specOrDefault.holderIdentity

def renewTime (v : LeaseVersion ι) : Option MicroTime := v.lease.specOrDefault.renewTime

end LeaseVersion

/-- The holder of the newest version. -/
def heldBy {ι : Type} (history : List (LeaseVersion ι)) : Option String :=
  history.head?.bind (·.holder)

/-- The time, the revision of the API server, the versions of the lease, and for each replica
what it remembers and how many steps it has begun. -/
structure LeaseWorld (ι : Type) where
  time : ℕ
  revision : ℕ
  history : List (LeaseVersion ι)
  trackers : ι → Tracker
  turns : ι → ℕ

/-- The replicas: the lease they contend for, and for each its identity and the reading of its
clock at time zero. -/
structure Election (ι : Type) where
  leaseName : String
  namespace_ : String
  identity : ι → String
  offset : ι → ℕ

/-- What the outside chooses for a call: how it fares, and the wall-clock time. -/
structure Choice where
  fate : Fate KubeError
  wall : MicroTime
deriving DecidableEq, Repr

section world
variable {ι : Type} [DecidableEq ι]

namespace LeaseWorld

/-- Store a version. -/
def put (w : LeaseWorld ι) (i : ι) (lease : Lease) : LeaseWorld ι :=
  { w with
    revision := w.revision + 1
    history := ⟨{ lease with resourceVersion := some (w.revision + 1) }, w.time, some i, w.turns i⟩
      :: w.history }

/-- Time passes, other objects are written, or a replica starts anew. -/
inductive Env : LeaseWorld ι → LeaseWorld ι → Prop
  | tick {w : LeaseWorld ι} (d : ℕ) : Env w { w with time := w.time + d }
  | revise {w : LeaseWorld ι} (d : ℕ) : Env w { w with revision := w.revision + d }
  | restart {w : LeaseWorld ι} (i : ι) :
      Env w { w with trackers := Function.update w.trackers i {} }

end LeaseWorld

namespace Election
variable (X : Election ι)

def config (i : ι) : Config := ⟨X.leaseName, X.namespace_, X.identity i⟩

/-- The clock of a replica. -/
def clock (i : ι) (time : ℕ) : Instant := X.offset i + time

/-- What a served call does. -/
def serve (i : ι) (wall : MicroTime) (w : LeaseWorld ι) :
    (c : LeaseCall) → LeaseWorld ι × Except KubeError c.Answer
  | .utcNow => ({ w with turns := Function.update w.turns i (w.turns i + 1) }, .ok wall)
  | .instantNow => (w, .ok (X.clock i w.time))
  | .track tracker => ({ w with trackers := Function.update w.trackers i tracker }, .ok ())
  | .getOpt _ => (w, .ok (w.history.head?.map (·.lease)))
  | .create lease =>
      match w.history with
      | [] => (w.put i lease, .ok { lease with resourceVersion := some (w.revision + 1) })
      | _ :: _ => (w, .error (.api 409 "already exists"))
  | .replace _ lease =>
      match w.history with
      | [] => (w, .error (.api 404 "not found"))
      | stored :: _ =>
          if stored.lease.resourceVersion = lease.resourceVersion then
            (w.put i lease, .ok { lease with resourceVersion := some (w.revision + 1) })
          else (w, .error (.api 409 "the object has been modified"))

/-- Calls to the API server may fail, with or without effect. -/
def react (i : ι) (w : LeaseWorld ι) (c : LeaseCall) (f : Choice) :
    LeaseWorld ι × Except KubeError c.Answer :=
  respond id (X.serve i f.wall) w c (if c.isLocal then .served else f.fate)

/-- A replica begins a step with what it remembers. -/
def start (i : ι) (w : LeaseWorld ι) (p : LeaseOp Decision) : Prop :=
  p = step (X.config i) (w.trackers i)

end Election
end world

/-! ### Versions -/

/-- Two versions of which one has the newest value of `f` are one, if the values are distinct. -/
theorem suffix_eq_of_head {α β : Type} (f : α → β) {seen history : List α} (hs : seen <:+ history)
    (hdistinct : (history.map f).Nodup) (hne : seen ≠ [])
    (hhead : seen.head?.map f = history.head?.map f) : seen = history := by
  cases history with
  | nil => exact List.suffix_nil.mp hs
  | cons newest older =>
      rcases List.suffix_cons_iff.mp hs with heq | hs
      · exact heq
      · obtain ⟨a, rest, rfl⟩ := List.exists_cons_of_ne_nil hne
        have ha : f a = f newest := by simpa using hhead
        have hmem : a ∈ older := hs.subset List.mem_cons_self
        have hnot : f newest ∉ older.map f := (List.nodup_cons.mp hdistinct).1
        exact absurd (ha ▸ List.mem_map_of_mem hmem) hnot

section invariants
variable {ι : Type}

/-- Versions are stored in the past, under resource versions that the server has given out, each
once. -/
structure LeaseWorld.Wf (w : LeaseWorld ι) : Prop where
  past : ∀ v ∈ w.history, v.writtenAt ≤ w.time
  given : ∀ v ∈ w.history, ∃ n ≤ w.revision, v.lease.resourceVersion = some n
  once : (w.history.map (·.lease.resourceVersion)).Nodup

/-- What replica `i` remembers was a stored version when it looked: no version up to it was
stored after the value was first seen. -/
def Election.Remembers (X : Election ι) (i : ι) (tracker : Tracker)
    (history : List (LeaseVersion ι)) : Prop :=
  ∀ o, tracker.last = some o → ∃ seen, seen <:+ history ∧ seen ≠ [] ∧
    seen.head?.map (·.renewTime) = some o.renewTime ∧
    ∀ v ∈ seen, X.clock i v.writtenAt ≤ o.firstSeen

/-- If the newest version has another holder, then a version with its `renewTime` is there, and
none up to that one is younger than the lease duration at the time `t`. -/
def Election.Expired (X : Election ι) (i : ι) (history : List (LeaseVersion ι)) (t : ℕ) : Prop :=
  ∀ other, heldBy history = some other → other ≠ X.identity i →
    ∃ seen, seen <:+ history ∧ seen ≠ [] ∧
      seen.head?.map (·.renewTime) = history.head?.map (·.renewTime) ∧
      ∀ v ∈ seen, v.writtenAt + leaseDuration ≤ t

/-- A replica writes itself as the holder, and replaces only an expired lease of another; what
nobody wrote is the oldest version. -/
structure Election.Justified (X : Election ι) (v : LeaseVersion ι)
    (replaced : List (LeaseVersion ι)) : Prop where
  held : ∀ i, v.writer = some i → v.holder = some (X.identity i)
  expired : ∀ i, v.writer = some i → X.Expired i replaced v.writtenAt
  found : v.writer = none → replaced = []

/-- The invariant of all runs. -/
structure Election.Inv (X : Election ι) (w : LeaseWorld ι) : Prop where
  wf : w.Wf
  trackers : ∀ i, X.Remembers i (w.trackers i) w.history
  justified : ∀ v replaced, v :: replaced <:+ w.history → X.Justified v replaced

/-- What other replicas and the passing of time do while replica `i` is in a step. -/
structure LeaseWorld.Later (i : ι) (w w' : LeaseWorld ι) : Prop where
  history : w.history <:+ w'.history
  time : w.time ≤ w'.time
  turns : w'.turns i = w.turns i
  wf : w.Wf → w'.Wf

def LeaseWorld.later (i : ι) : Rely (LeaseWorld ι) where
  rel := LeaseWorld.Later i
  refl _ := ⟨List.suffix_rfl, Nat.le_refl _, rfl, id⟩
  trans h h' := ⟨h.history.trans h'.history, Nat.le_trans h.time h'.time, h'.turns.trans h.turns,
    fun hw => h'.wf (h.wf hw)⟩

/-- When replica `i` makes a call: it remembers what it has seen, writes itself as the holder,
and replaces the version it read only if it is its own or expired. -/
def Election.Guarantee (X : Election ι) (i : ι) (w : LeaseWorld ι) : LeaseCall → Prop
  | .track tracker => X.Remembers i tracker w.history
  | .create lease => lease.specOrDefault.holderIdentity = some (X.identity i)
  | .replace _ lease => lease.specOrDefault.holderIdentity = some (X.identity i) ∧
      ∀ v older, w.history = v :: older → v.lease.resourceVersion = lease.resourceVersion →
        X.Expired i w.history w.time
  | _ => True

/-- In its present step, replica `i` has stored a version in place of one that was not its
own. -/
def Election.Stored (X : Election ι) (i : ι) (w : LeaseWorld ι) : Prop :=
  ∃ v replaced, v :: replaced <:+ w.history ∧ v.writer = some i ∧ v.turn = w.turns i ∧
    heldBy replaced ≠ some (X.identity i)

/-- A step returns `acquire` only if it has stored such a version. -/
def Election.Took (X : Election ι) (i : ι) (r : Except KubeError Decision) (w : LeaseWorld ι) :
    Prop :=
  r = .ok .acquire → X.Stored i w

section stability
variable {X : Election ι} {i : ι} {w w' : LeaseWorld ι} {history history' : List (LeaseVersion ι)}

theorem Election.Remembers.mono {tracker : Tracker} (h : X.Remembers i tracker history)
    (hs : history <:+ history') : X.Remembers i tracker history' := by
  intro o ho
  obtain ⟨seen, hseen, hrest⟩ := h o ho
  exact ⟨seen, hseen.trans hs, hrest⟩

theorem Election.remembers_nothing (history : List (LeaseVersion ι)) :
    X.Remembers i {} history := by
  intro o ho
  cases ho

theorem Election.Stored.later (h : X.Stored i w) (hl : LeaseWorld.Later i w w') :
    X.Stored i w' := by
  obtain ⟨v, replaced, hs, hwriter, hturn, hheld⟩ := h
  exact ⟨v, replaced, hs.trans hl.history, hwriter, hturn.trans hl.turns.symm, hheld⟩

end stability
end invariants

/-! ### What a call does -/

section effects
variable {ι : Type} [DecidableEq ι] (X : Election ι) {i : ι} {w : LeaseWorld ι}

/-- The effects a call of replica `i` can have. -/
inductive Effect (i : ι) (w : LeaseWorld ι) : LeaseCall → LeaseWorld ι → Prop
  | nothing (c : LeaseCall) : Effect i w c w
  | begun : Effect i w .utcNow { w with turns := Function.update w.turns i (w.turns i + 1) }
  | tracked (tracker : Tracker) :
      Effect i w (.track tracker) { w with trackers := Function.update w.trackers i tracker }
  | created {lease : Lease} : w.history = [] → Effect i w (.create lease) (w.put i lease)
  | replaced {name : String} {lease : Lease} {stored : LeaseVersion ι}
      {older : List (LeaseVersion ι)} : w.history = stored :: older →
      stored.lease.resourceVersion = lease.resourceVersion →
      Effect i w (.replace name lease) (w.put i lease)

theorem Election.serve_effect (i : ι) (wall : MicroTime) (w : LeaseWorld ι) (c : LeaseCall) :
    Effect i w c (X.serve i wall w c).1 := by
  cases c with
  | utcNow => exact .begun
  | getOpt name => exact .nothing _
  | create lease =>
      simp only [serve]
      split
      · rename_i hnone
        exact .created hnone
      · exact .nothing _
  | replace name lease =>
      simp only [serve]
      split
      · exact .nothing _
      · rename_i stored older hstored
        split_ifs with hversion
        · exact .replaced hstored hversion
        · exact .nothing _
  | instantNow => exact .nothing _
  | track tracker => exact .tracked tracker

theorem Election.react_effect (i : ι) (w : LeaseWorld ι) (c : LeaseCall) (f : Choice) :
    Effect i w c (X.react i w c f).1 := by
  rcases respond_world id (X.serve i f.wall) w c (if c.isLocal then .served else f.fate) with h | h
  · rw [react, h]
    exact .nothing c
  · rw [react, h]
    exact X.serve_effect i f.wall w c

omit [DecidableEq ι] in
theorem LeaseWorld.Wf.put (hw : w.Wf) (i : ι) (lease : Lease) : (w.put i lease).Wf where
  past := by
    intro v hv
    rcases List.mem_cons.mp hv with rfl | hv
    · exact Nat.le_refl _
    · exact hw.past v hv
  given := by
    intro v hv
    rcases List.mem_cons.mp hv with rfl | hv
    · exact ⟨w.revision + 1, Nat.le_refl _, rfl⟩
    · obtain ⟨n, hn, hversion⟩ := hw.given v hv
      exact ⟨n, Nat.le_succ_of_le hn, hversion⟩
  once := by
    refine List.nodup_cons.mpr ⟨?_, hw.once⟩
    intro hmem
    obtain ⟨v, hv, hsame⟩ := List.mem_map.mp hmem
    obtain ⟨n, hn, hversion⟩ := hw.given v hv
    rw [hversion, Option.some.injEq] at hsame
    omega

/-- Every call of a replica is interference that the others are prepared for. -/
theorem Effect.later {c : LeaseCall} {w' : LeaseWorld ι} (h : Effect i w c w') {j : ι}
    (hj : j ≠ i) : LeaseWorld.Later j w w' := by
  cases h with
  | nothing => exact (LeaseWorld.later j).refl w
  | begun =>
      refine ⟨List.suffix_rfl, Nat.le_refl _, Function.update_of_ne hj _ _, fun hw => ?_⟩
      exact ⟨hw.past, hw.given, hw.once⟩
  | tracked tracker =>
      exact ⟨List.suffix_rfl, Nat.le_refl _, rfl, fun hw => ⟨hw.past, hw.given, hw.once⟩⟩
  | created hnone => exact ⟨List.suffix_cons _ _, Nat.le_refl _, rfl, fun hw => hw.put i _⟩
  | replaced hstored hversion =>
      exact ⟨List.suffix_cons _ _, Nat.le_refl _, rfl, fun hw => hw.put i _⟩

omit [DecidableEq ι] in
/-- Storing a version that is justified keeps the invariant. -/
theorem Election.Inv.put (hw : X.Inv w) {lease : Lease}
    (hheld : lease.specOrDefault.holderIdentity = some (X.identity i))
    (hexpired : X.Expired i w.history w.time) : X.Inv (w.put i lease) where
  wf := hw.wf.put i lease
  trackers j := (hw.trackers j).mono (List.suffix_cons _ _)
  justified := by
    intro v replaced hs
    rcases List.suffix_cons_iff.mp hs with heq | hs
    · obtain ⟨rfl, rfl⟩ := List.cons.inj heq
      refine ⟨?_, ?_, nofun⟩
      · rintro j ⟨rfl⟩
        exact hheld
      · rintro j ⟨rfl⟩
        exact hexpired
    · exact hw.justified v replaced hs

theorem Election.Inv.remember (hw : X.Inv w) {tracker : Tracker}
    (h : X.Remembers i tracker w.history) :
    X.Inv { w with trackers := Function.update w.trackers i tracker } := by
  refine ⟨⟨hw.wf.past, hw.wf.given, hw.wf.once⟩, fun j => ?_, hw.justified⟩
  dsimp only
  rcases eq_or_ne j i with rfl | hj
  · rw [Function.update_self]
    exact h
  · rw [Function.update_of_ne hj]
    exact hw.trackers j

/-- A call under the guarantee keeps the invariant. -/
theorem Election.Inv.effect {c : LeaseCall} {w' : LeaseWorld ι} (hw : X.Inv w)
    (hc : X.Guarantee i w c) (h : Effect i w c w') : X.Inv w' := by
  cases h with
  | nothing => exact hw
  | begun => exact ⟨⟨hw.wf.past, hw.wf.given, hw.wf.once⟩, hw.trackers, hw.justified⟩
  | tracked tracker => exact hw.remember X hc
  | created hnone =>
      refine hw.put X hc ?_
      rw [hnone]
      intro other hother
      cases hother
  | replaced hstored hversion => exact hw.put X hc.1 (hc.2 _ _ hstored hversion)

theorem Election.Inv.env {w' : LeaseWorld ι} (hw : X.Inv w) (h : LeaseWorld.Env w w') :
    X.Inv w' ∧ ∀ j, LeaseWorld.later j w w' := by
  cases h with
  | tick d =>
      have hwf : w.Wf → LeaseWorld.Wf { w with time := w.time + d } := fun hw =>
        ⟨fun v hv => Nat.le_add_right_of_le (hw.past v hv), hw.given, hw.once⟩
      refine ⟨⟨hwf hw.wf, hw.trackers, hw.justified⟩, fun j => ?_⟩
      exact ⟨List.suffix_rfl, Nat.le_add_right _ _, rfl, hwf⟩
  | revise d =>
      have hwf : w.Wf → LeaseWorld.Wf { w with revision := w.revision + d } := by
        intro hw
        refine ⟨hw.past, fun v hv => ?_, hw.once⟩
        obtain ⟨n, hn, hversion⟩ := hw.given v hv
        exact ⟨n, Nat.le_add_right_of_le hn, hversion⟩
      refine ⟨⟨hwf hw.wf, hw.trackers, hw.justified⟩, fun j => ?_⟩
      exact ⟨List.suffix_rfl, Nat.le_refl _, rfl, hwf⟩
  | restart i =>
      refine ⟨hw.remember X (Election.remembers_nothing _), fun j => ?_⟩
      exact ⟨List.suffix_rfl, Nat.le_refl _, rfl, fun hw => ⟨hw.past, hw.given, hw.once⟩⟩

end effects

/-! ### A step keeps its guarantee -/

section steps
variable {ι : Type} [DecidableEq ι] {X : Election ι} {i : ι} {w : LeaseWorld ι}

/-- After a create or a replace, the step returns `acquire` only if the call stored a version. -/
theorem written_safe {p : LeaseOp Lease} {decision : Decision}
    (hp : p.Safe (X.react i) (LeaseWorld.later i) (X.Guarantee i)
      (fun r w' => ∀ lease, r = .ok lease → decision = .acquire → X.Stored i w') w) :
    (p.attempt >>= written decision).Safe (X.react i) (LeaseWorld.later i) (X.Guarantee i)
      (X.Took i) w := by
  refine Prog.Safe.bind (Prog.Safe.attempt (Prog.Safe.mono (fun _ _ hc => hc) ?_ hp))
  intro r w' hr
  cases r with
  | ok lease =>
      intro w'' hl hacquire
      have hdecision : decision = .acquire := by
        injection hacquire
      exact (hr lease rfl hdecision).later hl
  | error err =>
      show Prog.Safe _ _ _ _ (ite _ _ _) w'
      split_ifs with hconflict
      · intro w'' _ hacquire
        cases hacquire
      · intro w'' _ hacquire
        cases hacquire

/-- Creating the lease. -/
theorem create_safe {lease : Lease}
    (hheld : lease.specOrDefault.holderIdentity = some (X.identity i)) :
    ((create lease).attempt >>= written .acquire).Safe (X.react i) (LeaseWorld.later i)
      (X.Guarantee i) (X.Took i) w := by
  refine written_safe (Prog.safe_perform fun w₁ _ => ⟨hheld, fun f w₂ hl stored hstored _ => ?_⟩)
  obtain ⟨hserved, hok⟩ := respond_ok hstored
  rw [Election.react, hserved] at hl
  dsimp only [respond, Election.serve] at hl hok
  cases hnone : w₁.history with
  | cons v older =>
      rw [hnone] at hok
      cases hok
  | nil =>
      rw [hnone] at hl
      refine Election.Stored.later ?_ hl
      refine ⟨_, _, List.suffix_rfl, rfl, rfl, ?_⟩
      rw [hnone]
      nofun

/-- Replacing the version `v` that was read, which is one's own or expired. -/
theorem replace_safe {lease : Lease} {decision : Decision} {v : LeaseVersion ι}
    {older : List (LeaseVersion ι)} {name : String} (hw : w.Wf)
    (hread : v :: older <:+ w.history) (hversion : lease.resourceVersion = v.lease.resourceVersion)
    (hheld : lease.specOrDefault.holderIdentity = some (X.identity i))
    (hexpired : X.Expired i (v :: older) w.time)
    (hother : decision = .acquire → v.holder ≠ some (X.identity i)) :
    ((replace name lease).attempt >>= written decision).Safe (X.react i) (LeaseWorld.later i)
      (X.Guarantee i) (X.Took i) w := by
  -- A stored version under the resource version that was read is the one that was read.
  have hsame : ∀ {w₁}, LeaseWorld.later i w w₁ → ∀ v' older', w₁.history = v' :: older' →
      v'.lease.resourceVersion = lease.resourceVersion → w₁.history = v :: older := by
    intro w₁ h₁ v' older' hstored hv'
    refine (suffix_eq_of_head (·.lease.resourceVersion) (hread.trans h₁.history) (h₁.wf hw).once
      (List.cons_ne_nil _ _) ?_).symm
    simp [hstored, hv', hversion]
  refine written_safe (Prog.safe_perform fun w₁ h₁ => ⟨⟨hheld, fun v' older' hstored hv' => ?_⟩, ?_⟩)
  · rw [hsame h₁ v' older' hstored hv']
    intro other hholder hne
    obtain ⟨seen, hseen, hne', hrenew, hpast⟩ := hexpired other hholder hne
    exact ⟨seen, hseen, hne', hrenew, fun u hu => Nat.le_trans (hpast u hu) h₁.time⟩
  · intro f w₂ hl stored hstored hacquire
    obtain ⟨hserved, hok⟩ := respond_ok hstored
    rw [Election.react, hserved] at hl
    dsimp only [respond, Election.serve] at hl hok
    cases hhistory : w₁.history with
    | nil =>
        rw [hhistory] at hok
        cases hok
    | cons v' older' =>
        rw [hhistory] at hl hok
        dsimp only at hl hok
        split_ifs at hl hok with hv'
        refine Election.Stored.later ?_ hl
        refine ⟨_, _, List.suffix_rfl, rfl, rfl, ?_⟩
        rw [hsame h₁ v' older' hhistory hv']
        exact hother hacquire

omit [DecidableEq ι] in
/-- What is remembered after looking at the newest version. -/
theorem remembers_observe {tracker : Tracker} {v : LeaseVersion ι} {older : List (LeaseVersion ι)}
    {now : Instant} (ht : X.Remembers i tracker (v :: older))
    (hpast : ∀ u ∈ v :: older, X.clock i u.writtenAt ≤ now) :
    X.Remembers i (tracker.observe v.renewTime now).1 (v :: older) := by
  rcases tracker.observe_cases v.renewTime now with ⟨prev, -, -, hobserve⟩ | hobserve
  · rw [hobserve]
    exact ht
  · rw [hobserve]
    rintro o ⟨rfl⟩
    exact ⟨v :: older, List.suffix_rfl, List.cons_ne_nil _ _, rfl, hpast⟩

omit [DecidableEq ι] in
/-- A version of another that the replica decides to take is expired. -/
theorem expired_of_decide {tracker : Tracker} {v : LeaseVersion ι} {older : List (LeaseVersion ι)}
    {t : ℕ} (ht : X.Remembers i tracker (v :: older))
    (hdecide : decide v.holder (X.identity i) (tracker.observe v.renewTime (X.clock i t)).2 ≠ .wait) :
    X.Expired i (v :: older) t := by
  intro other hother hne
  have hholder : v.holder = some other := hother
  have hacquire : decide v.holder (X.identity i)
      (tracker.observe v.renewTime (X.clock i t)).2 = .acquire := by
    cases hd : decide v.holder (X.identity i) (tracker.observe v.renewTime (X.clock i t)).2 with
    | acquire => rfl
    | wait => exact absurd hd hdecide
    | renew =>
        have hown := decide_eq_renew hd
        rw [hholder, Option.some.injEq] at hown
        exact absurd hown hne
  obtain ⟨elapsed, helapsed, hlong⟩ := (decide_eq_acquire hacquire).2 (by simp [hholder])
  -- Only a remembered value has an age, and its age is the time since it was first seen.
  rcases tracker.observe_cases v.renewTime (X.clock i t) with ⟨prev, hlast, hsame, hobserve⟩ | hobserve
  · obtain ⟨seen, hseen, hne', hrenew, hpast⟩ := ht prev hlast
    refine ⟨seen, hseen, hne', by rw [hrenew, hsame]; rfl, fun u hu => ?_⟩
    have hu : (X.offset i + u.writtenAt : ℕ) ≤ prev.firstSeen := hpast u hu
    rw [hobserve, Option.some.injEq] at helapsed
    have helapsed : (X.offset i + t : ℕ) - prev.firstSeen = elapsed := helapsed
    rw [leaseDuration] at hlong ⊢
    omega
  · rw [hobserve] at helapsed
    cases helapsed

/-- The rest of a step that has read the version `v` and looked at its clock at the time `t`. -/
theorem contend_safe {tracker : Tracker} {now : MicroTime} {v : LeaseVersion ι}
    {older : List (LeaseVersion ι)} {t : ℕ} (hw : w.Wf) (hread : v :: older <:+ w.history)
    (ht : t ≤ w.time) (hseen : X.Remembers i tracker (v :: older))
    (hpast : ∀ u ∈ v :: older, X.clock i u.writtenAt ≤ X.clock i t) :
    (contend (X.config i) tracker now v.lease (X.clock i t)).Safe (X.react i) (LeaseWorld.later i)
      (X.Guarantee i) (X.Took i) w := by
  refine Prog.Safe.bind (Prog.safe_perform fun w₁ h₁ => ⟨?_, fun f w₂ h₂ => ?_⟩)
  · exact (remembers_observe hseen hpast).mono (hread.trans h₁.history)
  · replace h₁ : LeaseWorld.Later i w w₁ := h₁
    have hw₁ := h₁.wf hw
    show Prog.Safe _ _ _ _ (ite _ _ _) w₂
    split_ifs with hwait
    · intro w₃ _ hacquire
      cases hacquire
    · have hw₂ : w₂.Wf := h₂.wf ⟨hw₁.past, hw₁.given, hw₁.once⟩
      have hread₂ : v :: older <:+ w₂.history := (hread.trans h₁.history).trans h₂.history
      have htime : t ≤ w₂.time := Nat.le_trans ht (Nat.le_trans h₁.time h₂.time)
      refine replace_safe hw₂ hread₂ rfl rfl ?_ (fun hacquire => (decide_eq_acquire hacquire).1)
      intro other hother hne
      obtain ⟨seen, hs, hne', hrenew, hold⟩ := expired_of_decide hseen hwait other hother hne
      exact ⟨seen, hs, hne', hrenew, fun u hu => Nat.le_trans (hold u hu) htime⟩

/-- A step makes its calls under the guarantee, and returns `acquire` only if it has stored a
version in place of one that was not its own. -/
theorem step_safe {tracker : Tracker} (hw : w.Wf) (ht : X.Remembers i tracker w.history) :
    (step (X.config i) tracker).Safe (X.react i) (LeaseWorld.later i) (X.Guarantee i) (X.Took i)
      w := by
  refine Prog.Safe.bind (Prog.safe_perform fun w₀ h₀ => ⟨trivial, fun f₀ w₁ h₁ => ?_⟩)
  replace h₀ : LeaseWorld.Later i w w₀ := h₀
  have hw₁ : w₁.Wf := h₁.wf ⟨(h₀.wf hw).past, (h₀.wf hw).given, (h₀.wf hw).once⟩
  have ht₁ : X.Remembers i tracker w₁.history := (ht.mono h₀.history).mono h₁.history
  refine Prog.Safe.bind (Prog.safe_perform fun w₂ h₂ => ⟨trivial, fun f₂ w₃ h₃ => ?_⟩)
  replace h₂ : LeaseWorld.Later i w₁ w₂ := h₂
  cases hfate : f₂.fate with
  | refused err =>
      rw [Election.react, hfate]
      intro w₄ _ hacquire
      cases hacquire
  | unheard err =>
      rw [Election.react, hfate]
      intro w₄ _ hacquire
      cases hacquire
  | served =>
      rw [Election.react, hfate] at h₃ ⊢
      replace h₃ : LeaseWorld.Later i w₂ w₃ := h₃
      have hw₂ := h₂.wf hw₁
      have ht₂ := ht₁.mono h₂.history
      cases hread : w₂.history with
      | nil =>
          simp only [LeaseCall.isLocal, respond, Election.serve, hread, Prog.Then]
          exact create_safe rfl
      | cons v older =>
          simp only [LeaseCall.isLocal, respond, Election.serve, hread, Prog.Then]
          refine Prog.Safe.bind (Prog.safe_perform fun w₄ h₄ => ⟨trivial, fun f₄ w₅ h₅ => ?_⟩)
          replace h₄ : LeaseWorld.Later i w₂ w₄ := (LeaseWorld.later i).trans h₃ h₄
          replace h₅ : LeaseWorld.Later i w₄ w₅ := h₅
          rw [hread] at ht₂
          have hpast : ∀ u ∈ v :: older, X.clock i u.writtenAt ≤ X.clock i w₄.time := by
            intro u hu
            have hu₂ := hw₂.past u (hread ▸ hu)
            exact Nat.add_le_add_left (Nat.le_trans hu₂ h₄.time) _
          refine contend_safe (h₅.wf (h₄.wf hw₂)) ?_ h₅.time ht₂ hpast
          rw [← hread]
          exact h₄.history.trans h₅.history

end steps

/-! ### Every run -/

/-- At the start no replica remembers anything; the lease that is there, if any, was stored
before under a resource version that the server had given out. -/
structure LeaseWorld.Fresh {ι : Type} (w : LeaseWorld ι) : Prop where
  trackers : ∀ i, w.trackers i = {}
  history : w.history.length ≤ 1
  found : ∀ v ∈ w.history, v.writer = none ∧ v.writtenAt ≤ w.time ∧
    ∃ n ≤ w.revision, v.lease.resourceVersion = some n

section runs
variable {ι : Type} {X : Election ι} {i : ι} {w : LeaseWorld ι}
  {history replaced : List (LeaseVersion ι)}

theorem LeaseWorld.Fresh.inv (hw : w.Fresh) : X.Inv w where
  wf := by
    refine ⟨fun v hv => (hw.found v hv).2.1, fun v hv => (hw.found v hv).2.2, ?_⟩
    match hh : w.history with
    | [] => exact List.nodup_nil
    | [v] => exact List.nodup_singleton _
    | v :: u :: older =>
        have hlength := hw.history
        rw [hh] at hlength
        simp at hlength
  trackers i := by
    rw [hw.trackers i]
    exact Election.remembers_nothing _
  justified := by
    intro v replaced hs
    have hnone := (hw.found v (hs.subset List.mem_cons_self)).1
    refine ⟨fun i hi => ?_, fun i hi => ?_, fun _ => ?_⟩
    · rw [hnone] at hi
      cases hi
    · rw [hnone] at hi
      cases hi
    · have hlength := Nat.le_trans hs.length_le hw.history
      exact List.eq_nil_of_length_eq_zero (by simpa using hlength)

/-- With distinct renew times, an expired lease is one of which every version is older than the
lease duration. -/
theorem Election.Expired.all {t : ℕ} (h : X.Expired i replaced t)
    (hdistinct : (replaced.map (·.renewTime)).Nodup) {other : String}
    (hheld : heldBy replaced = some other) (hother : other ≠ X.identity i) :
    ∀ u ∈ replaced, u.writtenAt + leaseDuration ≤ t := by
  obtain ⟨seen, hs, hne, hrenew, hold⟩ := h other hheld hother
  rwa [suffix_eq_of_head _ hs hdistinct hne hrenew] at hold

/-- While a version with a holder is younger than the lease duration, that holder has the
lease. -/
theorem heldBy_of_young (hdistinct : (history.map (·.renewTime)).Nodup)
    (hjustified : ∀ v replaced, v :: replaced <:+ history → X.Justified v replaced)
    {u : LeaseVersion ι} (hu : u ∈ history) {holder : String} (hholder : u.holder = some holder)
    (hyoung : ∀ v ∈ history, v.writtenAt < u.writtenAt + leaseDuration) :
    heldBy history = some holder := by
  induction history with
  | nil => cases hu
  | cons v older ih =>
      rcases List.mem_cons.mp hu with rfl | hu
      · exact hholder
      · have hdistinct' := (List.nodup_cons.mp hdistinct).2
        have hheld : heldBy older = some holder :=
          ih hdistinct' (fun v' r hs => hjustified v' r (hs.trans (List.suffix_cons _ _))) hu
            (fun v' hv' => hyoung v' (List.mem_cons_of_mem v hv'))
        have hv := hjustified v older List.suffix_rfl
        cases hwriter : v.writer with
        | none =>
            rw [hv.found hwriter] at hu
            cases hu
        | some j =>
            -- Another holder could only have been replaced after the lease duration.
            have hsame : holder = X.identity j := by
              by_contra hne
              have hold := (hv.expired j hwriter).all hdistinct' hheld hne u hu
              have hnow := hyoung v List.mem_cons_self
              omega
            rw [hsame]
            exact hv.held j hwriter

theorem eq_of_suffix_replaced {v v' : LeaseVersion ι} {replaced' : List (LeaseVersion ι)}
    (hs : v :: replaced <:+ v' :: replaced')
    (honce : (replaced'.map (·.lease.resourceVersion)).Nodup)
    (hversion : replaced.head?.map (·.lease.resourceVersion) =
      replaced'.head?.map (·.lease.resourceVersion)) : v = v' := by
  rcases List.suffix_cons_iff.mp hs with heq | hs
  · exact (List.cons.inj heq).1
  · have hlength := hs.length_le
    rw [List.length_cons] at hlength
    cases replaced with
    | nil =>
        have hnil : replaced' = [] := by
          rw [← List.head?_eq_none_iff, ← Option.map_eq_none_iff]
          exact hversion.symm
        rw [hnil] at hlength
        cases hlength
    | cons u older =>
        have hs' : u :: older <:+ replaced' := (List.suffix_cons _ _).trans hs
        rw [suffix_eq_of_head _ hs' honce (List.cons_ne_nil _ _) hversion] at hlength
        omega

/-- A version is replaced by one other version. -/
theorem eq_of_replaced (honce : (history.map (·.lease.resourceVersion)).Nodup)
    {v v' : LeaseVersion ι} {replaced' : List (LeaseVersion ι)}
    (h : v :: replaced <:+ history) (h' : v' :: replaced' <:+ history)
    (hversion : replaced.head?.map (·.lease.resourceVersion) =
      replaced'.head?.map (·.lease.resourceVersion)) : v = v' := by
  have honce' : ∀ {u : LeaseVersion ι} {r : List (LeaseVersion ι)}, u :: r <:+ history →
      (r.map (·.lease.resourceVersion)).Nodup := by
    intro u r hs
    exact honce.sublist (((List.suffix_cons u r).trans hs).sublist.map _)
  rcases List.suffix_or_suffix_of_suffix h h' with hs | hs
  · exact eq_of_suffix_replaced hs (honce' h') hversion
  · exact (eq_of_suffix_replaced hs (honce' h) hversion.symm).symm

variable [DecidableEq ι]

/-- The invariant holds in every reachable state, and every running step is safe. -/
theorem Election.reach_inv (hw : w.Fresh) {s : Conf ι LeaseCall.Answer KubeError Decision (LeaseWorld ι)}
    (h : Reach X.react X.start LeaseWorld.Env (Conf.idle w) s) :
    X.Inv s.world ∧ ∀ i p, s.thread i = some p →
      p.Safe (X.react i) (LeaseWorld.later i) (X.Guarantee i) (X.Took i) s.world := by
  have hstart : ∀ i w p, X.Inv w → X.start i w p →
      p.Safe (X.react i) (LeaseWorld.later i) (X.Guarantee i) (X.Took i) w := by
    rintro i w p hw rfl
    exact step_safe hw.wf (hw.trackers i)
  have hcall : ∀ i c f w, X.Inv w → X.Guarantee i w c → X.Inv (X.react i w c f).1 ∧
      ∀ j, j ≠ i → LeaseWorld.later j w (X.react i w c f).1 := by
    intro i c f w hw hc
    have heffect := X.react_effect i w c f
    exact ⟨hw.effect X hc heffect, fun j hj => heffect.later hj⟩
  have henv : ∀ w w', X.Inv w → LeaseWorld.Env w w' → X.Inv w' ∧
      ∀ j, LeaseWorld.later j w w' := fun w w' hw hm => hw.env X hm
  exact Reach.safe hstart hcall henv h hw.inv

/-- **A renewing leader is never evicted.**  In every state of every run in which no two versions
carry the same renew time:

* a step that returned `acquire` has stored a version, and if the one it replaced had a holder,
  then a different one, and for the whole lease duration before, on the replica's own clock, no
  version had been stored;
* the same holds of every version that replaced one of another holder;
* while a version is younger than the lease duration, its holder has the lease;
* a version is replaced only once. -/
theorem renewing_leader_kept (hw : w.Fresh)
    {s : Conf ι LeaseCall.Answer KubeError Decision (LeaseWorld ι)}
    (h : Reach X.react X.start LeaseWorld.Env (Conf.idle w) s)
    (hdistinct : (s.world.history.map (·.renewTime)).Nodup) :
    (∀ i, s.thread i = some (.done (.ok .acquire)) →
      ∃ v replaced, v :: replaced <:+ s.world.history ∧ v.writer = some i ∧
        v.turn = s.world.turns i ∧ ∀ other, heldBy replaced = some other →
          other ≠ X.identity i ∧
          ∀ u ∈ replaced, X.clock i u.writtenAt + leaseDuration ≤ X.clock i v.writtenAt) ∧
    (∀ v replaced i other, v :: replaced <:+ s.world.history → v.writer = some i →
      heldBy replaced = some other → other ≠ X.identity i →
      ∀ u ∈ replaced, X.clock i u.writtenAt + leaseDuration ≤ X.clock i v.writtenAt) ∧
    (∀ u ∈ s.world.history, ∀ holder, u.holder = some holder →
      s.world.time < u.writtenAt + leaseDuration → heldBy s.world.history = some holder) ∧
    (∀ v replaced v' replaced', v :: replaced <:+ s.world.history →
      v' :: replaced' <:+ s.world.history →
      replaced.head?.map (·.lease.resourceVersion) =
        replaced'.head?.map (·.lease.resourceVersion) → v = v') := by
  obtain ⟨hinv, hthreads⟩ := Election.reach_inv hw h
  have hquiet : ∀ v replaced i other, v :: replaced <:+ s.world.history → v.writer = some i →
      heldBy replaced = some other → other ≠ X.identity i →
      ∀ u ∈ replaced, X.clock i u.writtenAt + leaseDuration ≤ X.clock i v.writtenAt := by
    intro v replaced i other hs hwriter hheld hother u hu
    have hreplaced : replaced <:+ s.world.history := (List.suffix_cons v replaced).trans hs
    have hdistinct' := hdistinct.sublist (hreplaced.sublist.map (·.renewTime))
    have hold := ((hinv.justified v replaced hs).expired i hwriter).all hdistinct' hheld hother u hu
    rw [Election.clock, Election.clock, Nat.add_assoc]
    exact Nat.add_le_add_left hold _
  refine ⟨?_, hquiet, ?_, ?_⟩
  · intro i hi
    have htook := hthreads i _ hi s.world ((LeaseWorld.later i).refl _)
    obtain ⟨v, replaced, hs, hwriter, hturn, hheld⟩ := htook rfl
    refine ⟨v, replaced, hs, hwriter, hturn, fun other hother => ?_⟩
    have hne : other ≠ X.identity i := by
      rintro rfl
      exact hheld hother
    exact ⟨hne, hquiet v replaced i other hs hwriter hother hne⟩
  · intro u hu holder hholder hyoung
    refine heldBy_of_young hdistinct hinv.justified hu hholder (fun v hv => ?_)
    exact Nat.lt_of_le_of_lt (hinv.wf.past v hv) hyoung
  · intro v replaced v' replaced' hs hs' hversion
    exact eq_of_replaced hinv.wf.once hs hs' hversion

end runs

/-! ### A handover -/

namespace Sample

/-- Two replicas whose clocks are five seconds apart. -/
def election : Election Bool :=
  ⟨"operator", "system", fun b => if b then "standby" else "leader",
    fun b => if b then 5 * 10 ^ 9 else 0⟩

def unheld : LeaseWorld Bool := ⟨0, 0, [], fun _ => {}, fun _ => 0⟩

/-- The world after replica `i` ran a step whose calls are all served at the wall-clock time
`wall`. -/
def stepped (i : Bool) (wall : MicroTime) (w : LeaseWorld Bool) :
    LeaseOp Decision × LeaseWorld Bool :=
  Prog.exec (election.react i) (List.replicate 5 ⟨.served, wall⟩)
    (step (election.config i) (w.trackers i)) w

/-- The leader has taken the lease, the standby has seen it, and fifteen seconds have passed. -/
def lapsed : LeaseWorld Bool :=
  let w := (stepped true 2 (stepped false 1 unheld).2).2
  { w with time := w.time + leaseDuration }

/-- The standby takes the lapsed lease; the version it replaced is a lease duration old. -/
theorem standby_takes_lapsed_lease :
    ∃ s, Reach election.react election.start LeaseWorld.Env (Conf.idle unheld) s ∧
      s.thread true = some (.done (.ok .acquire)) ∧
      (s.world.history.map (·.renewTime)).Nodup ∧
      ∃ v replaced, v :: replaced <:+ s.world.history ∧ v.writer = some true ∧
        heldBy replaced = some "leader" ∧
        ∀ u ∈ replaced, election.clock true u.writtenAt + leaseDuration ≤
          election.clock true v.writtenAt := by
  have hfresh : unheld.Fresh := ⟨fun _ => rfl, Nat.zero_le _, nofun⟩
  have hleader : Reach election.react election.start LeaseWorld.Env (Conf.idle unheld)
      ⟨(stepped false 1 unheld).2, fun _ => none⟩ := Reach.job false _ rfl rfl
  have hstandby : Reach election.react election.start LeaseWorld.Env (Conf.idle unheld)
      ⟨(stepped true 2 (stepped false 1 unheld).2).2, fun _ => none⟩ :=
    hleader.trans (Reach.job true _ rfl rfl)
  have hlapsed : Reach election.react election.start LeaseWorld.Env (Conf.idle unheld)
      ⟨lapsed, fun _ => none⟩ := hstandby.tail (.env (.tick leaseDuration))
  obtain ⟨s, hrun, hthread, hworld⟩ : ∃ s, Reach election.react election.start LeaseWorld.Env
      ⟨lapsed, fun _ => none⟩ s ∧ s.thread true = some (stepped true 3 lapsed).1 ∧
      s.world = (stepped true 3 lapsed).2 := Reach.launch true _ rfl rfl
  have hs := hlapsed.trans hrun
  have hdistinct : (s.world.history.map (·.renewTime)).Nodup := by
    rw [hworld]
    decide +kernel
  obtain ⟨-, hquiet, -⟩ := renewing_leader_kept hfresh hs hdistinct
  refine ⟨s, hs, hthread, hdistinct, ?_⟩
  rw [hworld] at hquiet ⊢
  exact ⟨_, _, List.suffix_rfl, rfl, rfl, hquiet _ _ true "leader" List.suffix_rfl rfl rfl (by decide)⟩

end Sample

end OpenShell.Leader
