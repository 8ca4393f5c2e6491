import OpenShellOperator.Effects.Prog
import Mathlib.Data.Set.Basic
import Mathlib.Logic.Function.Basic
import Mathlib.Logic.Relation

/-! # Controllers driven by watches

A controller keeps a copy of the resources it reconciles, fed by a watch, and a queue of the
keys that are due.  It watches further objects too; a notice about one of them puts the
resources in the copy that refer to it on the queue.  A reconcile is a program (`Prog`) for the
resource as the copy has it, and may read the objects the resource refers to
(`Controller.covered`).

Watches lag: a change of the world becomes *news* of the resource, or a *notice* of the object,
that is delivered later; keys may be queued at any time, resources may come and go, and the
controller may start afresh.  `used` and `read` are the history: the resource that the last
reconcile of a key was started with, and what it has read.

`State.Inv` is kept by every step (`Step.inv`).  Where nothing is due for a resource, its last
reconcile was started with the resource as it is stored, and everything it has read is as it
was read (`Reach.settled`). -/

namespace Effects

/-- A controller of resources `O` under keys `K` that reads objects `V` under keys `S`. -/
structure Controller (K S : Type) {Call : Type} (Ans : Call → Type) (ε α W O V F : Type) where
  react : W → (c : Call) → F → W × Except ε (Ans c)
  /-- The resources of a world. -/
  stored : W → K → Option O
  /-- The watched objects of a world. -/
  object : W → S → V
  /-- The watched object a call reads. -/
  reads : Call → Option S
  /-- The mapping from a watched object to the resources it is about. -/
  refers : O → S → Prop
  /-- The programs that reconcile a resource. -/
  job : O → Prog Ans ε α → Prop
  /-- A reconcile reads the objects that its resource refers to, and no others. -/
  covered : ∀ {o p}, job o p → p.Calls (fun c => ∀ s, reads c = some s → refers o s)

namespace Controller

variable {K S Call : Type} {Ans : Call → Type} {ε α W O V F : Type}

/-- The world, the controller, and the history of its reconciles. -/
structure State (K S : Type) {Call : Type} (Ans : Call → Type) (ε α W O V : Type) where
  world : W
  cache : K → Option O
  queue : Set K
  news : Set K
  notices : Set S
  thread : K → Option (Prog Ans ε α)
  used : K → Option O
  read : K → S → V → Prop

section states
variable (C : Controller K S Ans ε α W O V F)

/-- A controller that has just started: everything there is is news. -/
def initial (w : W) : State K S Ans ε α W O V where
  world := w
  cache _ := none
  queue := ∅
  news := {k | C.stored w k ≠ none}
  notices := ∅
  thread _ := none
  used _ := none
  read _ _ _ := False

/-- The world moves; what has changed is news, or a notice. -/
def move (t : State K S Ans ε α W O V) (w : W) : State K S Ans ε α W O V :=
  { t with
    world := w
    news := t.news ∪ {k | C.stored w k ≠ C.stored t.world k}
    notices := t.notices ∪ {s | C.object w s ≠ C.object t.world s} }

/-- The resources in the copy that refer to an object. -/
def mapped (t : State K S Ans ε α W O V) (s : S) : Set K :=
  {k | ∃ o, t.cache k = some o ∧ C.refers o s}

/-! ### The invariant -/

/-- What the controller may rely on: the copy is behind only where there is news; a resource of
the copy that is not due was used as it is in the copy; what a reconcile has read was referred
to by its resource, and is as it was read but for a pending notice. -/
structure Inv (t : State K S Ans ε α W O V) : Prop where
  cached : ∀ k, t.cache k ≠ C.stored t.world k → k ∈ t.news
  used : ∀ k o, t.cache k = some o → k ∉ t.queue → t.used k = some o
  current : ∀ k s v, t.read k s v → k ∉ t.queue → t.cache k ≠ none → s ∉ t.notices →
    v = C.object t.world s
  referred : ∀ k s v, t.read k s v → ∃ o, t.used k = some o ∧ C.refers o s
  running : ∀ k p, t.thread k = some p → ∃ o, t.used k = some o ∧
    p.Calls (fun c => ∀ s, C.reads c = some s → C.refers o s)

theorem inv_initial (w : W) : C.Inv (C.initial w) where
  cached k hk := Ne.symm hk
  used _ _ hk := by cases hk
  current _ _ _ hread := hread.elim
  referred _ _ _ hread := hread.elim
  running _ _ hk := by cases hk

variable {C} {t : State K S Ans ε α W O V}

theorem Inv.move (h : C.Inv t) (w : W) : C.Inv (C.move t w) where
  cached k hk := by
    by_cases hstored : C.stored w k = C.stored t.world k
    · exact .inl (h.cached k (hstored ▸ hk))
    · exact .inr hstored
  used := h.used
  current k s v hread hqueue hcache hnotice := by
    rw [h.current k s v hread hqueue hcache (fun hs => hnotice (.inl hs))]
    by_contra hne
    exact hnotice (.inr (Ne.symm hne))
  referred := h.referred
  running := h.running

/-- More keys on the queue. -/
theorem Inv.more (h : C.Inv t) (ks : Set K) : C.Inv { t with queue := t.queue ∪ ks } where
  cached := h.cached
  used k o hk hqueue := h.used k o hk (fun hq => hqueue (.inl hq))
  current k s v hread hqueue := h.current k s v hread (fun hq => hqueue (.inl hq))
  referred := h.referred
  running := h.running

theorem Inv.notice (h : C.Inv t) (s : S) : C.Inv { t with
    queue := t.queue ∪ C.mapped t s
    notices := t.notices \ {s} } where
  cached := h.cached
  used := (h.more _).used
  current k s' v hread hqueue hcache hnotice := by
    rcases eq_or_ne s' s with rfl | hne
    · -- the resource in the copy is the one that was read for, so the mapping has queued it
      obtain ⟨o, ho⟩ := Option.ne_none_iff_exists'.mp hcache
      obtain ⟨o', hused, hrefers⟩ := h.referred k s' v hread
      have hsame := h.used k o ho (fun hq => hqueue (.inl hq))
      rw [hused, Option.some.injEq] at hsame
      exact absurd (Or.inr ⟨o, ho, hsame ▸ hrefers⟩) hqueue
    · exact h.current k s' v hread (fun hq => hqueue (.inl hq)) hcache
        (fun hs => hnotice ⟨hs, hne⟩)
  referred := h.referred
  running := h.running

end states

/-! ### Steps -/

section steps
variable [DecidableEq K] (C : Controller K S Ans ε α W O V F)

/-- One step of the controller or of the world around it. -/
inductive Step : State K S Ans ε α W O V → State K S Ans ε α W O V → Prop
  | start {t : State K S Ans ε α W O V} (k : K) (o : O) (p : Prog Ans ε α) :
      t.thread k = none → k ∈ t.queue → t.cache k = some o → C.job o p →
      Step t { t with
        queue := t.queue \ {k}
        thread := Function.update t.thread k (some p)
        used := Function.update t.used k (some o)
        read := Function.update t.read k (fun _ _ => False) }
  | call {t : State K S Ans ε α W O V} (k : K) {c : Call} {cont : Except ε (Ans c) → Prog Ans ε α}
      (f : F) : t.thread k = some (.call c cont) →
      Step t { C.move t (C.react t.world c f).1 with
        thread := Function.update t.thread k (some (cont (C.react t.world c f).2))
        read := Function.update t.read k (fun s v => t.read k s v ∨
          C.reads c = some s ∧ v = C.object t.world s) }
  | finish {t : State K S Ans ε α W O V} (k : K) {r : Except ε α} : t.thread k = some (.done r) →
      Step t { t with thread := Function.update t.thread k none }
  | enqueue {t : State K S Ans ε α W O V} (ks : Set K) : Step t { t with queue := t.queue ∪ ks }
  | drop {t : State K S Ans ε α W O V} (k : K) : t.cache k = none →
      Step t { t with queue := t.queue \ {k} }
  | outside {t : State K S Ans ε α W O V} (w : W) : Step t (C.move t w)
  | deliver {t : State K S Ans ε α W O V} (k : K) : k ∈ t.news →
      Step t { t with
        cache := Function.update t.cache k (C.stored t.world k)
        queue := insert k t.queue
        news := t.news \ {k} }
  | deliverOlder {t : State K S Ans ε α W O V} (k : K) (o : Option O) : k ∈ t.news →
      Step t { t with
        cache := Function.update t.cache k o
        queue := insert k t.queue }
  | notice {t : State K S Ans ε α W O V} (s : S) : s ∈ t.notices →
      Step t { t with
        queue := t.queue ∪ C.mapped t s
        notices := t.notices \ {s} }
  | restart {t : State K S Ans ε α W O V} : Step t (C.initial t.world)

abbrev Reach : State K S Ans ε α W O V → State K S Ans ε α W O V → Prop :=
  Relation.ReflTransGen C.Step

variable {C} {t t' : State K S Ans ε α W O V}

theorem Inv.start (h : C.Inv t) {k : K} {o : O} {p : Prog Ans ε α} (hcache : t.cache k = some o)
    (hjob : C.job o p) : C.Inv { t with
      queue := t.queue \ {k}
      thread := Function.update t.thread k (some p)
      used := Function.update t.used k (some o)
      read := Function.update t.read k (fun _ _ => False) } where
  cached := h.cached
  used k' o' hk' hqueue := by
    dsimp only at hk' ⊢
    rcases eq_or_ne k' k with rfl | hne
    · rw [Function.update_self, ← hcache, hk']
    · rw [Function.update_of_ne hne]
      exact h.used k' o' hk' (fun hq => hqueue ⟨hq, hne⟩)
  current k' s v hread hqueue := by
    dsimp only at hread
    rcases eq_or_ne k' k with rfl | hne
    · rw [Function.update_self] at hread
      exact hread.elim
    · rw [Function.update_of_ne hne] at hread
      exact h.current k' s v hread (fun hq => hqueue ⟨hq, hne⟩)
  referred k' s v hread := by
    dsimp only at hread ⊢
    rcases eq_or_ne k' k with rfl | hne
    · rw [Function.update_self] at hread
      exact hread.elim
    · rw [Function.update_of_ne hne] at hread ⊢
      exact h.referred k' s v hread
  running k' p' hp' := by
    dsimp only at hp' ⊢
    rcases eq_or_ne k' k with rfl | hne
    · rw [Function.update_self] at hp' ⊢
      cases hp'
      exact ⟨o, rfl, C.covered hjob⟩
    · rw [Function.update_of_ne hne] at hp' ⊢
      exact h.running k' p' hp'

theorem Inv.call (h : C.Inv t) {k : K} {c : Call} {cont : Except ε (Ans c) → Prog Ans ε α}
    (f : F) (hthread : t.thread k = some (.call c cont)) :
    C.Inv { C.move t (C.react t.world c f).1 with
      thread := Function.update t.thread k (some (cont (C.react t.world c f).2))
      read := Function.update t.read k (fun s v => t.read k s v ∨
        C.reads c = some s ∧ v = C.object t.world s) } := by
  obtain ⟨o, hused, hcalls⟩ := h.running k _ hthread
  have hmove := h.move (C.react t.world c f).1
  refine ⟨hmove.cached, hmove.used, ?_, ?_, ?_⟩
  · intro k' s v hread hqueue hcache hnotice
    dsimp only at hread
    rcases eq_or_ne k' k with rfl | hne
    · rw [Function.update_self] at hread
      rcases hread with hread | ⟨-, rfl⟩
      · exact hmove.current k' s v hread hqueue hcache hnotice
      · by_contra hchanged
        exact hnotice (.inr (Ne.symm hchanged))
    · rw [Function.update_of_ne hne] at hread
      exact hmove.current k' s v hread hqueue hcache hnotice
  · intro k' s v hread
    dsimp only at hread
    rcases eq_or_ne k' k with rfl | hne
    · rw [Function.update_self] at hread
      rcases hread with hread | ⟨hreads, -⟩
      · exact h.referred k' s v hread
      · exact ⟨o, hused, hcalls.1 s hreads⟩
    · rw [Function.update_of_ne hne] at hread
      exact h.referred k' s v hread
  · intro k' p' hp'
    dsimp only at hp'
    rcases eq_or_ne k' k with rfl | hne
    · rw [Function.update_self] at hp'
      cases hp'
      exact ⟨o, hused, hcalls.2 _⟩
    · rw [Function.update_of_ne hne] at hp'
      exact h.running k' p' hp'

/-- The copy of one resource changes, and its key is queued. -/
theorem Inv.recache (h : C.Inv t) {k : K} {o : Option O} {news : Set K}
    (hcached : ∀ k', Function.update t.cache k o k' ≠ C.stored t.world k' → k' ∈ news) :
    C.Inv { t with
      cache := Function.update t.cache k o
      queue := insert k t.queue
      news := news } where
  cached := hcached
  used k' o' hk' hqueue := by
    have hne : k' ≠ k := fun hk => hqueue (.inl hk)
    dsimp only at hk'
    rw [Function.update_of_ne hne] at hk'
    exact h.used k' o' hk' (fun hq => hqueue (.inr hq))
  current k' s v hread hqueue hcache := by
    have hne : k' ≠ k := fun hk => hqueue (.inl hk)
    dsimp only at hcache
    rw [Function.update_of_ne hne] at hcache
    exact h.current k' s v hread (fun hq => hqueue (.inr hq)) hcache
  referred := h.referred
  running := h.running

/-- Every step keeps the invariant. -/
theorem Step.inv (hstep : C.Step t t') (h : C.Inv t) : C.Inv t' := by
  cases hstep with
  | start k o p _ _ hcache hjob => exact h.start hcache hjob
  | call k f hthread => exact h.call f hthread
  | finish k _ =>
      refine ⟨h.cached, h.used, h.current, h.referred, fun k' p' hp' => ?_⟩
      dsimp only at hp'
      rcases eq_or_ne k' k with rfl | hne
      · rw [Function.update_self] at hp'
        cases hp'
      · rw [Function.update_of_ne hne] at hp'
        exact h.running k' p' hp'
  | enqueue ks => exact h.more ks
  | drop k hnone =>
      refine ⟨h.cached, fun k' o hk' hqueue => ?_, fun k' s v hread hqueue hcache => ?_, h.referred,
        h.running⟩
      · refine h.used k' o hk' (fun hq => hqueue ⟨hq, ?_⟩)
        rintro rfl
        rw [hnone] at hk'
        cases hk'
      · refine h.current k' s v hread (fun hq => hqueue ⟨hq, ?_⟩) hcache
        rintro rfl
        exact hcache hnone
  | outside w => exact h.move w
  | deliver k hnews =>
      refine h.recache (fun k' hk' => ?_)
      have hne : k' ≠ k := by
        rintro rfl
        rw [Function.update_self] at hk'
        exact hk' rfl
      rw [Function.update_of_ne hne] at hk'
      exact ⟨h.cached k' hk', hne⟩
  | deliverOlder k o hnews =>
      refine h.recache (fun k' hk' => ?_)
      rcases eq_or_ne k' k with rfl | hne
      · exact hnews
      · rw [Function.update_of_ne hne] at hk'
        exact h.cached k' hk'
  | notice s _ => exact h.notice s
  | restart => exact C.inv_initial _

theorem Reach.inv {w : W} (hs : C.Reach (C.initial w) t) : C.Inv t := by
  induction hs with
  | refl => exact C.inv_initial w
  | tail _ hstep ih => exact hstep.inv ih

/-- **No trigger is lost.**  In every run, a resource for which nothing is due (it is not queued,
there is no news of it and no notice of an object it refers to) was last reconciled as it is
stored, and everything that reconcile has read is as it was read. -/
theorem Reach.settled {w : W} (hs : C.Reach (C.initial w) t) {k : K} {o : O}
    (hstored : C.stored t.world k = some o) (hqueue : k ∉ t.queue) (hnews : k ∉ t.news)
    (hnotices : ∀ s, C.refers o s → s ∉ t.notices) :
    t.used k = some o ∧ ∀ s v, t.read k s v → v = C.object t.world s := by
  have h := Reach.inv hs
  have hcache : t.cache k = some o := by
    by_contra hne
    exact hnews (h.cached k (hstored ▸ hne))
  have hused := h.used k o hcache hqueue
  refine ⟨hused, fun s v hread => ?_⟩
  obtain ⟨o', ho', hrefers⟩ := h.referred k s v hread
  rw [hused, Option.some.injEq] at ho'
  refine h.current k s v hread hqueue ?_ (hnotices s (ho' ▸ hrefers))
  rw [hcache]
  exact Option.some_ne_none o

/-! ### Reaching states -/

/-- The reconcile of a key is under way in a world, and nothing is due for the key. -/
structure Working (t : State K S Ans ε α W O V) (k : K) (w : W) (p : Prog Ans ε α) : Prop where
  world : t.world = w
  queue : k ∉ t.queue
  news : k ∉ t.news
  notices : t.notices = ∅
  thread : t.thread k = some p

/-- A stored resource can be delivered and its reconcile started. -/
theorem Reach.launch {w : W} {k : K} {o : O} {p : Prog Ans ε α} (hstored : C.stored w k = some o)
    (hjob : C.job o p) : ∃ t, C.Reach (C.initial w) t ∧ Working t k w p := by
  have hnews : k ∈ (C.initial w).news := by
    show C.stored w k ≠ none
    rw [hstored]
    exact Option.some_ne_none o
  refine ⟨_, .tail (.single (.deliver k hnews)) (.start k o p rfl (.inl rfl)
    ((Function.update_self ..).trans hstored) hjob), rfl, fun hk => hk.2 rfl, fun hk => hk.2 rfl, rfl,
    Function.update_self ..⟩

/-- A call that leaves the world alone. -/
theorem Reach.quiet {t₀ : State K S Ans ε α W O V} {w : W} {k : K} {c : Call}
    {cont : Except ε (Ans c) → Prog Ans ε α} {f : F} (hs : C.Reach t₀ t)
    (hwork : Working t k w (.call c cont)) (hquiet : (C.react w c f).1 = w) :
    ∃ t', C.Reach t₀ t' ∧ Working t' k w (cont (C.react w c f).2) ∧
      ∀ s, C.reads c = some s → t'.read k s (C.object w s) := by
  obtain ⟨rfl, hqueue, hnews, hnotices, hthread⟩ := hwork
  refine ⟨_, hs.tail (.call k f hthread), ⟨hquiet, hqueue, ?_, ?_, Function.update_self ..⟩, ?_⟩
  · rintro (hk | hk)
    · exact hnews hk
    · exact hk (by rw [hquiet])
  · show t.notices ∪ {s | C.object (C.react t.world c f).1 s ≠ C.object t.world s} = ∅
    rw [hnotices, hquiet]
    simp
  · intro s hreads
    dsimp only
    rw [Function.update_self]
    exact .inr ⟨hreads, rfl⟩

end steps
end Controller
end Effects
