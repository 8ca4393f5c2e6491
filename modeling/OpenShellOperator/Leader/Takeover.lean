import OpenShellOperator.Leader.Term

/-! # A lease that nobody renews is taken over

A replica whose calls are all served and that nobody disturbs leads after a bounded time, whatever
lease it finds and whoever holds it, and then leads for good (`takes_over`).  Its first look at the
version of a peer starts a timer; every further round finds the same version, and after eight retry
periods it has stood still for the lease duration. -/

namespace OpenShell.Leader
open Effects

section alone
variable {ι : Type} [DecidableEq ι] (X : Election ι) (i : ι) (wall : ℕ → MicroTime)

namespace Election

/-- Calls to the API server that are all served; `wall` is the wall clock. -/
def obliging (w : LeaseWorld ι) (c : LeaseCall) : LeaseWorld ι × Except KubeError c.Answer :=
  X.react i w c ⟨.served, wall w.time⟩

/-- What the calls of a replica do that nobody disturbs: a sleep takes its time. -/
def alone (w : TermWorld ι) : (c : ElectorCall) → TermWorld ι × Except KubeError c.Answer
  | .sleep d => ({ w with lease := { w.lease with time := w.lease.time + d } }, .ok ())
  | c => X.serveLoop i w c ⟨.served, wall w.lease.time⟩

end Election

/-- A step among the calls of the loops. -/
theorem outcome_via_lease {α : Type} (p : LeaseOp α) (w : TermWorld ι) :
    (p.via ElectorCall.lease (fun _ answer => answer)).outcome (X.alone i wall) w =
      ({ w with lease := (p.outcome (X.obliging i wall) w.lease).1 },
        (p.outcome (X.obliging i wall) w.lease).2) := by
  refine Prog.outcome_via TermWorld.lease (fun w lease => { w with lease := lease }) (fun _ _ => rfl)
    (fun _ _ _ => rfl) (fun _ => rfl) (fun _ _ => rfl) (fun w c => ?_) p w
  show Except.map (fun answer : c.Answer => answer) (X.obliging i wall w.lease c).2 = _
  cases (X.obliging i wall w.lease c).2 <;> rfl

/-- The replica took or renewed the lease, or it saw the version of a peer that is not yet old. -/
inductive Tried (w : LeaseWorld ι) : Decision → LeaseWorld ι → Prop
  | led {decision : Decision} {w' : LeaseWorld ι} : decision ≠ .wait →
      heldBy w'.history = some (X.identity i) → Tried w decision w'
  | waited {v : LeaseVersion ι} {older : List (LeaseVersion ι)} {w' : LeaseWorld ι} :
      w.history = v :: older → w'.history = w.history →
      decide v.holder (X.identity i)
        ((w.trackers i).observe v.renewTime (X.clock i w.time)).2 = .wait →
      w'.trackers i = ((w.trackers i).observe v.renewTime (X.clock i w.time)).1 →
      Tried w .wait w'

/-- A replace of the version that was read. -/
theorem replace_alone {w : LeaseWorld ι} {v : LeaseVersion ι} {older : List (LeaseVersion ι)}
    (name : String) (lease : Lease) (decision : Decision) (h : w.history = v :: older)
    (hversion : v.lease.resourceVersion = lease.resourceVersion) :
    ((replace name lease).attempt >>= written decision).outcome (X.obliging i wall) w =
      (w.put i lease, .ok decision) := by
  have hserved : (replace name lease).outcome (X.obliging i wall) w =
      (w.put i lease, .ok { lease with resourceVersion := some (w.revision + 1) }) := by
    show X.serve i (wall w.time) w (.replace name lease) = _
    simp only [Election.serve, h, if_pos hversion]
    rfl
  rw [Prog.outcome_bind, Prog.outcome_attempt, hserved]
  rfl

/-- A step that is served. -/
theorem step_alone (w : LeaseWorld ι) : ∃ w' decision,
    (step (X.config i) (w.trackers i)).outcome (X.obliging i wall) w = (w', .ok decision) ∧
      w'.time = w.time ∧ Tried X i w decision w' := by
  obtain ⟨time, revision, history, trackers, turns⟩ := w
  cases history with
  | nil => exact ⟨_, .acquire, rfl, rfl, .led nofun rfl⟩
  | cons v older =>
      let observed := (trackers i).observe v.renewTime (X.clock i time)
      let decision := decide v.holder (X.identity i) observed.2
      let seen : LeaseWorld ι := ⟨time, revision, v :: older,
        Function.update trackers i observed.1, Function.update turns i (turns i + 1)⟩
      have hstep : (step (X.config i) (trackers i)).outcome (X.obliging i wall)
            ⟨time, revision, v :: older, trackers, turns⟩ =
          Prog.outcome (X.obliging i wall)
            (if decision = .wait then pure .wait
              else (replace (X.config i).leaseName { v.lease with
                spec := some (renewedSpec (X.config i) v.lease.specOrDefault (wall time)
                  (decision == .acquire)) }).attempt >>= written decision) seen := rfl
      by_cases hwait : decision = .wait
      · rw [if_pos hwait] at hstep
        exact ⟨seen, .wait, hstep, rfl, .waited rfl rfl hwait (Function.update_self ..)⟩
      · rw [if_neg hwait] at hstep
        refine ⟨_, decision, hstep.trans (replace_alone X i wall _ _ decision rfl rfl), rfl,
          .led hwait rfl⟩

/-- A step among the calls of the loops that is served. -/
theorem electorStep_alone (w : TermWorld ι) : ∃ w' decision,
    (electorStep (X.config i)).outcome (X.alone i wall) w = (w', .ok decision) ∧
      w'.lease.time = w.lease.time ∧ w'.term = w.term ∧ Tried X i w.lease decision w'.lease := by
  obtain ⟨w₁, decision, hstep, htime, htried⟩ := step_alone X i wall w.lease
  refine ⟨⟨w₁, Function.update w.began i w.lease.time, w.term⟩, decision, ?_, htime, rfl, htried⟩
  refine (outcome_via_lease X i wall (step (X.config i) (w.lease.trackers i))
    ⟨w.lease, Function.update w.began i w.lease.time, w.term⟩).trans ?_
  rw [hstep]

/-- What is remembered of the newest version: it will have stood still for the lease duration after
`k` retry periods. -/
def Ripens (k : ℕ) (w : LeaseWorld ι) : Prop :=
  ∃ v older o, w.history = v :: older ∧ (w.trackers i).last = some o ∧ o.renewTime = v.renewTime ∧
    o.firstSeen + leaseDuration ≤ X.clock i w.time + k * retryPeriod

/-- The campaign of a replica that started at the time `t`, `k` rounds before its last. -/
structure Nears (t k : ℕ) (w : TermWorld ι) : Prop where
  time : w.lease.time + k * retryPeriod ≤ t + 8 * retryPeriod
  memory : (w.lease.trackers i = {} ∧ 8 ≤ k) ∨ Ripens X i k w.lease

variable {X i}

omit [DecidableEq ι] in
/-- A version that ripens is taken now or later. -/
theorem Nears.waited {t k : ℕ} {w : TermWorld ι} (h : Nears X i t k w) {v : LeaseVersion ι}
    {older : List (LeaseVersion ι)} (hhistory : w.lease.history = v :: older)
    (hwait : decide v.holder (X.identity i)
      ((w.lease.trackers i).observe v.renewTime (X.clock i w.lease.time)).2 = .wait) :
    ∃ o, ((w.lease.trackers i).observe v.renewTime (X.clock i w.lease.time)).1.last = some o ∧
      o.renewTime = v.renewTime ∧ 0 < k ∧
      o.firstSeen + leaseDuration ≤ X.clock i w.lease.time + k * retryPeriod := by
  rcases h.memory with ⟨hnothing, hk⟩ | ⟨v', older', o, hhistory', hlast, hrenew, hripe⟩
  · rw [hnothing]
    refine ⟨⟨v.renewTime, X.clock i w.lease.time⟩, rfl, rfl, by omega, ?_⟩
    have hlong : leaseDuration ≤ k * retryPeriod := by
      rw [leaseDuration, retryPeriod]
      omega
    exact Nat.add_le_add_left hlong _
  · rw [hhistory'] at hhistory
    obtain ⟨rfl, rfl⟩ := List.cons.inj hhistory
    have hobserve : (w.lease.trackers i).observe v'.renewTime (X.clock i w.lease.time) =
        (w.lease.trackers i, some (X.clock i w.lease.time - o.firstSeen)) := by
      unfold Tracker.observe
      rw [hlast]
      exact if_pos hrenew
    rw [hobserve] at hwait ⊢
    refine ⟨o, hlast, hrenew, Nat.pos_of_ne_zero ?_, hripe⟩
    -- With no retry period left the version has stood still for the lease duration.
    rintro rfl
    have hlong : leaseDuration ≤ X.clock i w.lease.time - o.firstSeen := by
      have hnow : o.firstSeen + leaseDuration ≤ X.clock i w.lease.time := by simpa using hripe
      exact Nat.le_sub_of_add_le' hnow
    unfold decide at hwait
    split_ifs at hwait with hown
    cases hholder : v'.holder with
    | none =>
        rw [hholder] at hwait
        cases hwait
    | some other =>
        rw [hholder] at hwait
        dsimp only at hwait
        rw [if_pos hlong] at hwait
        cases hwait

/-- A round of a campaign wins the lease or comes nearer to it. -/
theorem campaignRound_alone {t k : ℕ} {w : TermWorld ι} (h : Nears X i t k w) : ∃ w',
    (∃ u, (campaignRound (X.config i)).outcome (X.alone i wall) w = (w', .ok (some u)) ∧
      heldBy w'.lease.history = some (X.identity i) ∧ w'.lease.time ≤ t + 8 * retryPeriod) ∨
    (campaignRound (X.config i)).outcome (X.alone i wall) w = (w', .ok none) ∧
      ∃ k', k = k' + 1 ∧ Nears X i t k' w' := by
  obtain ⟨w₁, decision, hstep, htime, -, htried⟩ := electorStep_alone X i wall w
  have htime' := h.time
  rw [campaignRound, Prog.outcome_bind, Prog.outcome_attempt, hstep]
  cases htried with
  | led hlead hheld =>
      refine ⟨w₁, .inl ⟨(), ?_, hheld, by omega⟩⟩
      cases decision with
      | renew => rfl
      | acquire => rfl
      | wait => exact absurd rfl hlead
  | waited hhistory hsame hwait htracker =>
      obtain ⟨o, hlast, hrenew, hk, hripe⟩ := h.waited hhistory hwait
      obtain ⟨k', rfl⟩ := Nat.exists_eq_succ_of_ne_zero (Nat.pos_iff_ne_zero.mp hk)
      have hnear : w₁.lease.time + retryPeriod + k' * retryPeriod ≤ t + 8 * retryPeriod := by
        rw [Nat.succ_mul] at htime'
        omega
      have hripe' : o.firstSeen + leaseDuration ≤
          X.clock i (w₁.lease.time + retryPeriod) + k' * retryPeriod := by
        have hclock : (X.offset i + w.lease.time : ℕ) + k'.succ * retryPeriod =
            X.offset i + (w₁.lease.time + retryPeriod) + k' * retryPeriod := by
          rw [htime, Nat.succ_mul]
          omega
        exact hripe.trans_eq hclock
      exact ⟨_, .inr ⟨rfl, k', rfl, hnear,
        .inr ⟨_, _, o, hsame.trans hhistory, htracker ▸ hlast, hrenew, hripe'⟩⟩⟩

/-- A replica holds the lease and is in a term that began by the time `t`. -/
structure Reigns (X : Election ι) (i : ι) (t : ℕ) (w : TermWorld ι) : Prop where
  held : heldBy w.lease.history = some (X.identity i)
  term : ∃ term, w.term i = some term ∧ term.since ≤ t

omit [DecidableEq ι] in
/-- A replica that holds the lease renews it. -/
theorem Tried.of_held {w w' : LeaseWorld ι} {decision : Decision} (h : Tried X i w decision w')
    (hheld : heldBy w.history = some (X.identity i)) :
    decision ≠ .wait ∧ heldBy w'.history = some (X.identity i) := by
  cases h with
  | led hlead hheld' => exact ⟨hlead, hheld'⟩
  | @waited v older _ hhistory _ hwait _ =>
      rw [hhistory] at hheld
      have hholder : v.holder = some (X.identity i) := hheld
      rw [hholder] at hwait
      unfold decide at hwait
      rw [if_pos rfl] at hwait
      cases hwait

/-- Noting a renewal leaves the lease and the beginning of the term as they are. -/
theorem Reigns.renewed {t : ℕ} {w : TermWorld ι} (h : Reigns X i t w) :
    Reigns X i t (X.alone i wall w .renewed).1 := by
  obtain ⟨term, hterm, hsince⟩ := h.term
  refine ⟨h.held, ⟨term.since, w.began i, w.lease.time, w.lease.time⟩, ?_, hsince⟩
  show (w.setTerm i _).term i = _
  rw [w.setTerm_self, hterm]
  rfl

/-- A round of a replica that holds the lease. -/
theorem keepRound_alone {t : ℕ} {w : TermWorld ι} (h : Reigns X i t w) : ∃ w',
    (keepRound (X.config i)).outcome (X.alone i wall) w = (w', .ok none) ∧ Reigns X i t w' := by
  set w₁ : TermWorld ι :=
    { w with lease := { w.lease with time := w.lease.time + retryPeriod } } with hw₁
  obtain ⟨w₂, decision, hstep, -, hterm, htried⟩ := electorStep_alone X i wall w₁
  obtain ⟨hlead, hheld⟩ := htried.of_held h.held
  have hw₂ : Reigns X i t w₂ := ⟨hheld, by rw [hterm]; exact h.term⟩
  refine ⟨_, ?_, hw₂.renewed wall⟩
  show Prog.outcome (X.alone i wall) ((electorStep (X.config i)).attempt >>= _) w₁ = _
  rw [Prog.outcome_bind, Prog.outcome_attempt, hstep]
  cases decision with
  | renew => rfl
  | acquire => rfl
  | wait => exact absurd rfl hlead

/-- **A lease that nobody renews is taken over.**  A replica that starts, whose calls are all served
and whom nobody disturbs, starts its controllers within eight retry periods whatever lease there is,
and from then on holds the lease and keeps leading, for any number of rounds. -/
theorem takes_over (X : Election ι) (i : ι) (wall : ℕ → MicroTime) (w : TermWorld ι) {rounds : ℕ}
    (hrounds : 8 < rounds) : ∃ w', (run (X.config i) rounds).outcome (X.alone i wall) w =
      (w', .ok none) ∧ heldBy w'.lease.history = some (X.identity i) ∧
      ∃ term, w'.term i = some term ∧ term.since ≤ w.lease.time + 8 * retryPeriod := by
  set booted : TermWorld ι := (X.alone i wall w .boot).1 with hbooted
  have hnears : Nears X i w.lease.time 8 booted :=
    ⟨Nat.le_refl _, .inl ⟨Function.update_self .., Nat.le_refl _⟩⟩
  obtain ⟨w₁, u, hcampaign, hheld, htime⟩ : ∃ w' u, (campaign (X.config i) rounds).outcome
      (X.alone i wall) booted = (w', .ok (some u)) ∧ heldBy w'.lease.history = some (X.identity i) ∧
      w'.lease.time ≤ w.lease.time + 8 * retryPeriod :=
    Prog.outcome_loop_some (fun k w hw => campaignRound_alone wall hw) rounds 8 booted hnears hrounds
  have hstart : Reigns X i (w.lease.time + 8 * retryPeriod) (X.alone i wall w₁ .startControllers).1 :=
    ⟨hheld, _, w₁.setTerm_self i _, htime⟩
  obtain ⟨w₂, hkeep, hw₂⟩ := Prog.outcome_loop_none (fun w hw => keepRound_alone wall hw) rounds _
    (hstart.renewed wall)
  refine ⟨w₂, ?_, hw₂.held, hw₂.term⟩
  have hkeep' : (keepLeadership (X.config i) rounds).outcome (X.alone i wall)
      (X.alone i wall w₁ .startControllers).1 = (w₂, .ok none) := hkeep
  show Prog.outcome (X.alone i wall) (campaign (X.config i) rounds >>= _) booted = _
  rw [Prog.outcome_bind, hcampaign]
  show Prog.outcome (X.alone i wall) (keepLeadership (X.config i) rounds >>= _) _ = _
  rw [Prog.outcome_bind, hkeep']
  rfl

end alone

/-- The lease of a leader that has stopped is taken over after sixteen seconds. -/
theorem Sample.standby_takes_over : ∃ w', (run (Sample.election.config true) 9).outcome
    (Sample.election.alone true fun _ => 7) (.initial (Sample.stepped false 1 Sample.unheld).2) =
      (w', .ok none) ∧ heldBy w'.lease.history = some "standby" ∧
      ∃ term, w'.term true = some term ∧ term.since ≤ 16 * 10 ^ 9 :=
  takes_over Sample.election true (fun _ => 7) _ (by decide)

end OpenShell.Leader
