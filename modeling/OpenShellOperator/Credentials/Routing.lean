import OpenShellOperator.Credentials

/-! # Where credential values go

`buildRefreshMaterial` gathers in one walk what a refresh can be seeded with, what of it is
secret and what is missing (`buildRefreshMaterial_eq`).  So each credential of a profile
contributes to a plan on its own, by at most one refresh or one degraded entry
(`refreshOf`, `degradedOf`), and the plan of a profile is put together from these in order
(`planCredentials_refreshes`, `planCredentials_degraded`); only the cut of the static
credentials looks at all of them (`get?_staticCredentials`).

Profiles may repeat a credential name, so what is said of one credential is said of its
place in the profile: `Emits` and `Reports` compare the plan of `before ++ c :: after` with
the plans of the two parts. -/

namespace OpenShell
open Wire

/-! ### One refresh -/

namespace RefreshSpec
variable (spec : RefreshSpec) (resolved : StrMap String)

/-- The required names that are not resolved. -/
def lacking : List String :=
  (spec.material.filter (fun item => item.required && !resolved.contains item.name)).map (·.name)

/-- Some material name is resolved. -/
def supplied : Bool := spec.material.any (fun item => resolved.contains item.name)

/-- What the resolved values seed the refresh with. -/
def seed : RefreshPlan :=
  let g := spec.material.foldl (Gathered.add resolved) {}
  ⟨spec.strategy, g.material, g.secretMaterialKeys⟩

end RefreshSpec

section gathering
variable (resolved : StrMap String)

theorem Gathered.missing_foldl (items : List MaterialSpec) (g : Gathered) :
    (items.foldl (Gathered.add resolved) g).missing = g.missing ++
      (items.filter (fun item => item.required && !resolved.contains item.name)).map (·.name) := by
  induction items generalizing g with
  | nil => simp
  | cons item items ih =>
      rw [List.foldl_cons, ih, List.filter_cons, Std.ExtTreeMap.contains_eq_isSome_getElem?]
      cases hv : resolved[item.name]? with
      | some value => simp [Gathered.add, hv]
      | none => cases hr : item.required <;> simp [Gathered.add, hv, hr]

theorem Gathered.secret_foldl (items : List MaterialSpec) (g : Gathered) :
    (items.foldl (Gathered.add resolved) g).secretMaterialKeys = g.secretMaterialKeys ++
      (items.filter (fun item => item.secret && resolved.contains item.name)).map (·.name) := by
  induction items generalizing g with
  | nil => simp
  | cons item items ih =>
      rw [List.foldl_cons, ih, List.filter_cons, Std.ExtTreeMap.contains_eq_isSome_getElem?]
      cases hv : resolved[item.name]? with
      | some value => cases hs : item.secret <;> simp [Gathered.add, hv, hs]
      | none => cases hr : item.required <;> simp [Gathered.add, hv, hr]

/-- Later rounds write the same resolved value, so the order of the items does not matter. -/
theorem Gathered.material_foldl (items : List MaterialSpec) (g : Gathered) (k : String) :
    (items.foldl (Gathered.add resolved) g).material[k]? =
      if k ∈ items.map (·.name) then resolved[k]?.or g.material[k]? else g.material[k]? := by
  induction items generalizing g with
  | nil => simp
  | cons item items ih =>
      rw [List.foldl_cons, ih]
      have hstep : (g.add resolved item).material[k]? =
          if k = item.name then resolved[k]?.or g.material[k]? else g.material[k]? := by
        unfold Gathered.add
        cases hv : resolved[item.name]? with
        | some value =>
            by_cases hk : k = item.name
            · subst hk
              simp [hv]
            · have hk' : ¬ item.name = k := fun h => hk h.symm
              simp [Std.ExtTreeMap.getElem?_insert, hk, hk']
        | none =>
            have hg : ∀ b : Bool, (if b = true then
                { g with missing := g.missing ++ [item.name] } else g).material = g.material := by
              intro b
              cases b <;> rfl
            by_cases hk : k = item.name
            · subst hk
              simp [hg, hv]
            · simp [hg, hk]
      by_cases hk : k = item.name
      · rw [hstep, if_pos hk]
        simp only [List.map_cons, List.mem_cons, hk, true_or, if_true]
        split_ifs <;> cases resolved[item.name]? <;> rfl
      · rw [hstep, if_neg hk]
        simp only [List.map_cons, List.mem_cons, hk, false_or]

end gathering

/-- **One refresh.**  It is seeded unless a required name is not resolved. -/
theorem buildRefreshMaterial_eq (spec : RefreshSpec) (resolved : StrMap String) :
    buildRefreshMaterial spec resolved =
      if (spec.lacking resolved).isEmpty then .ok (spec.seed resolved)
      else .error ⟨spec.strategy, spec.lacking resolved⟩ := by
  have hmissing := Gathered.missing_foldl resolved spec.material {}
  rw [List.nil_append] at hmissing
  simp only [buildRefreshMaterial, hmissing]
  rfl

section seed
variable {spec : RefreshSpec} {resolved : StrMap String}

theorem mem_lacking {n : String} : n ∈ spec.lacking resolved ↔
    ∃ item ∈ spec.material, item.required = true ∧ item.name = n ∧ n ∉ resolved := by
  simp only [RefreshSpec.lacking, List.mem_map, List.mem_filter, Bool.and_eq_true,
    Bool.not_eq_true', ← Bool.not_eq_true, Std.ExtTreeMap.contains_iff_mem]
  constructor
  · rintro ⟨item, ⟨hitem, hreq, hmem⟩, rfl⟩
    exact ⟨item, hitem, hreq, rfl, hmem⟩
  · rintro ⟨item, hitem, hreq, rfl, hmem⟩
    exact ⟨item, ⟨hitem, hreq, hmem⟩, rfl⟩

/-- Nothing is lacking when all required names are resolved. -/
theorem lacking_isEmpty_iff : (spec.lacking resolved).isEmpty = true ↔
    ∀ item ∈ spec.material, item.required = true → item.name ∈ resolved := by
  rw [List.isEmpty_iff, List.eq_nil_iff_forall_not_mem]
  constructor
  · intro h item hitem hreq
    by_contra hmem
    exact h item.name (mem_lacking.mpr ⟨item, hitem, hreq, rfl, hmem⟩)
  · intro h n hn
    obtain ⟨item, hitem, hreq, rfl, hmem⟩ := mem_lacking.mp hn
    exact hmem (h item hitem hreq)

theorem supplied_iff : spec.supplied resolved = true ↔
    ∃ item ∈ spec.material, item.name ∈ resolved := by
  simp only [RefreshSpec.supplied, List.any_eq_true, Std.ExtTreeMap.contains_iff_mem]

theorem get?_seed_material (k : String) : (spec.seed resolved).material[k]? =
    if k ∈ spec.material.map (·.name) then resolved[k]? else none := by
  have h := Gathered.material_foldl resolved spec.material {} k
  have hnone : ({} : Gathered).material[k]? = none := Std.ExtTreeMap.getElem?_empty
  rw [hnone, Option.or_none] at h
  exact h

theorem mem_seed_material {k : String} : k ∈ (spec.seed resolved).material ↔
    k ∈ spec.material.map (·.name) ∧ k ∈ resolved := by
  rw [Std.ExtTreeMap.mem_iff_isSome_getElem?, get?_seed_material,
    Std.ExtTreeMap.mem_iff_isSome_getElem?]
  split_ifs with h <;> simp [h]

theorem mem_seed_secret {n : String} : n ∈ (spec.seed resolved).secretMaterialKeys ↔
    n ∈ (spec.seed resolved).material ∧
      ∃ item ∈ spec.material, item.name = n ∧ item.secret = true := by
  have h := Gathered.secret_foldl resolved spec.material {}
  rw [List.nil_append] at h
  have heq : (spec.seed resolved).secretMaterialKeys = (spec.material.filter
      (fun item => item.secret && resolved.contains item.name)).map (·.name) := h
  rw [heq, mem_seed_material]
  simp only [List.mem_map, List.mem_filter, Bool.and_eq_true, Std.ExtTreeMap.contains_iff_mem]
  constructor
  · rintro ⟨item, ⟨hitem, hsec, hmem⟩, rfl⟩
    exact ⟨⟨⟨item, hitem, rfl⟩, hmem⟩, item, hitem, rfl, hsec⟩
  · rintro ⟨⟨_, hmem⟩, item, hitem, rfl, hsec⟩
    exact ⟨item, ⟨hitem, hsec, hmem⟩, rfl⟩

end seed

/-! ### One credential -/

/-- A credential of a profile: its name and the refresh it declares. -/
abbrev ProfileCredential := String × Option RefreshSpec

section credential
variable (resolved : StrMap String)

/-- The refresh declared is one the operator configures, and all it requires is resolved. -/
def RefreshSpec.Complete (spec : RefreshSpec) : Prop :=
  spec.strategy ≠ .awsStsAssumeRole ∧
    ∀ item ∈ spec.material, item.required = true → item.name ∈ resolved

/-- Some of what the refresh requires is missing, and some of its material is there. -/
def RefreshSpec.Partial (spec : RefreshSpec) : Prop :=
  (∃ item ∈ spec.material, item.required = true ∧ item.name ∉ resolved) ∧
    ∃ item ∈ spec.material, item.name ∈ resolved

/-- The refresh planned for a credential. -/
def refreshOf (c : ProfileCredential) : Option PlannedRefresh :=
  c.2.bind (fun spec =>
    if (spec.lacking resolved).isEmpty && spec.strategy != .awsStsAssumeRole then
      some ⟨c.1, spec.seed resolved⟩
    else none)

/-- The degraded entry of a credential. -/
def degradedOf (c : ProfileCredential) : Option DegradedCredential :=
  c.2.bind (fun spec =>
    if !(spec.lacking resolved).isEmpty && spec.supplied resolved then
      some ⟨c.1, spec.lacking resolved⟩
    else none)

variable {resolved} {c : ProfileCredential}

theorem refreshOf_eq_some {r : PlannedRefresh} : refreshOf resolved c = some r ↔
    ∃ spec, c = (r.credentialKey, some spec) ∧ spec.Complete resolved ∧
      r.plan = spec.seed resolved := by
  obtain ⟨name, refresh⟩ := c
  cases refresh with
  | none => simp [refreshOf]
  | some spec =>
      simp only [refreshOf, Option.bind_some, Option.ite_none_right_eq_some, Bool.and_eq_true,
        lacking_isEmpty_iff, bne_iff_ne, Option.some.injEq, RefreshSpec.Complete]
      constructor
      · rintro ⟨⟨hreq, haws⟩, rfl⟩
        exact ⟨spec, rfl, ⟨haws, hreq⟩, rfl⟩
      · rintro ⟨spec', heq, ⟨haws, hreq⟩, hplan⟩
        cases heq
        refine ⟨⟨hreq, haws⟩, ?_⟩
        rw [← hplan]

theorem degradedOf_eq_some {d : DegradedCredential} : degradedOf resolved c = some d ↔
    ∃ spec, c = (d.credentialKey, some spec) ∧ spec.Partial resolved ∧
      d.missing = spec.lacking resolved := by
  obtain ⟨name, refresh⟩ := c
  cases refresh with
  | none => simp [degradedOf]
  | some spec =>
      have hpart : (!(spec.lacking resolved).isEmpty && spec.supplied resolved) = true ↔
          spec.Partial resolved := by
        rw [Bool.and_eq_true, supplied_iff, Bool.not_eq_true', ← Bool.not_eq_true,
          lacking_isEmpty_iff]
        simp only [RefreshSpec.Partial, not_forall, exists_prop]
      simp only [degradedOf, Option.bind_some, Option.ite_none_right_eq_some, hpart,
        Option.some.injEq]
      constructor
      · rintro ⟨hp, rfl⟩
        exact ⟨spec, rfl, hp, rfl⟩
      · rintro ⟨spec', heq, hp, hmiss⟩
        cases heq
        refine ⟨hp, ?_⟩
        rw [← hmiss]

/-- A round of the walk adds what the credential contributes. -/
theorem Planned.add_eq (p : Planned) : p.add resolved c =
    { refreshes := p.refreshes ++ (refreshOf resolved c).toList
      degraded := p.degraded ++ (degradedOf resolved c).toList
      consumed := p.consumed ++
        (refreshOf resolved c).toList.flatMap (fun r => r.plan.material.keys) } := by
  obtain ⟨name, refresh⟩ := c
  cases refresh with
  | none => simp [Planned.add, refreshOf, degradedOf]
  | some spec =>
      have hb := buildRefreshMaterial_eq spec resolved
      by_cases hl : spec.lacking resolved = []
      · have hs : (spec.seed resolved).strategy = spec.strategy := rfl
        by_cases haws : spec.strategy = .awsStsAssumeRole
        · simp [Planned.add, hb, refreshOf, degradedOf, hl, haws, hs]
        · simp [Planned.add, hb, refreshOf, degradedOf, hl, haws, hs]
      · cases hs : spec.supplied resolved with
        | true =>
            have hany := hs
            unfold RefreshSpec.supplied at hany
            simp [Planned.add, hb, refreshOf, degradedOf, hl, hs, hany]
        | false =>
            have hany := hs
            unfold RefreshSpec.supplied at hany
            simp [Planned.add, hb, refreshOf, degradedOf, hl, hs, hany]

end credential

/-! ### The whole plan -/

section plan
variable (creds : List ProfileCredential) (resolved : StrMap String)

theorem Planned.foldl_eq (p : Planned) : creds.foldl (Planned.add resolved) p =
    { refreshes := p.refreshes ++ creds.filterMap (refreshOf resolved)
      degraded := p.degraded ++ creds.filterMap (degradedOf resolved)
      consumed := p.consumed ++
        (creds.filterMap (refreshOf resolved)).flatMap (fun r => r.plan.material.keys) } := by
  induction creds generalizing p with
  | nil => simp
  | cons c creds ih =>
      rw [List.foldl_cons, ih, Planned.add_eq]
      cases hr : refreshOf resolved c <;> cases hd : degradedOf resolved c <;>
        simp [hr, hd]

theorem planCredentials_refreshes :
    (planCredentials creds resolved).refreshes = creds.filterMap (refreshOf resolved) := by
  simp only [planCredentials, Planned.foldl_eq, List.nil_append]

theorem planCredentials_degraded :
    (planCredentials creds resolved).degraded = creds.filterMap (degradedOf resolved) := by
  simp only [planCredentials, Planned.foldl_eq, List.nil_append]

/-- A value is copied unless some planned refresh is seeded with it. -/
theorem get?_staticCredentials (k v : String) :
    (planCredentials creds resolved).staticCredentials[k]? = some v ↔
      resolved[k]? = some v ∧
        ∀ r ∈ (planCredentials creds resolved).refreshes, k ∉ r.plan.material := by
  rw [planCredentials_refreshes]
  simp only [planCredentials, Planned.foldl_eq, List.nil_append,
    Std.ExtTreeMap.getElem?_filter', Option.filter_eq_some_iff, Bool.not_eq_true',
    ← Bool.not_eq_true, List.contains_iff_mem, List.mem_flatMap, Std.ExtTreeMap.mem_keys]
  constructor
  · rintro ⟨hv, hnone⟩
    exact ⟨hv, fun r hr hk => hnone ⟨r, hr, hk⟩⟩
  · rintro ⟨hv, hnone⟩
    refine ⟨hv, ?_⟩
    rintro ⟨r, hr, hk⟩
    exact hnone r hr hk

end plan

/-! ### One place in the profile -/

section place
variable (resolved : StrMap String) (before : List ProfileCredential) (c : ProfileCredential)
  (after : List ProfileCredential)

/-- The plan has `r` for the credential `c`, between what it has for the rest. -/
def Emits (r : PlannedRefresh) : Prop :=
  r.credentialKey = c.1 ∧ (planCredentials (before ++ c :: after) resolved).refreshes =
    (planCredentials before resolved).refreshes ++ r :: (planCredentials after resolved).refreshes

/-- The plan reports `c` as degraded by `d`, between what it reports of the rest. -/
def Reports (d : DegradedCredential) : Prop :=
  d.credentialKey = c.1 ∧ (planCredentials (before ++ c :: after) resolved).degraded =
    (planCredentials before resolved).degraded ++ d :: (planCredentials after resolved).degraded

variable {resolved before c after}

theorem filterMap_split_iff {α β : Type} {f : α → Option β} {before after : List α} {a : α} {b : β} :
    (before ++ a :: after).filterMap f = before.filterMap f ++ b :: after.filterMap f ↔
      f a = some b := by
  rw [List.filterMap_append, List.append_cancel_left_eq]
  cases h : f a with
  | none =>
      rw [List.filterMap_cons_none h]
      constructor
      · intro heq
        have hlen := congrArg List.length heq
        rw [List.length_cons] at hlen
        omega
      · exact nofun
  | some b' =>
      rw [List.filterMap_cons_some h, List.cons.injEq, Option.some.injEq]
      exact and_iff_left rfl

theorem emits_iff {r : PlannedRefresh} :
    Emits resolved before c after r ↔ refreshOf resolved c = some r := by
  simp only [Emits, planCredentials_refreshes, filterMap_split_iff]
  constructor
  · exact And.right
  · intro h
    obtain ⟨spec, hc, _, _⟩ := refreshOf_eq_some.mp h
    exact ⟨by rw [hc], h⟩

theorem reports_iff {d : DegradedCredential} :
    Reports resolved before c after d ↔ degradedOf resolved c = some d := by
  simp only [Reports, planCredentials_degraded, filterMap_split_iff]
  constructor
  · exact And.right
  · intro h
    obtain ⟨spec, hc, _, _⟩ := degradedOf_eq_some.mp h
    exact ⟨by rw [hc], h⟩

/-- A credential that contributes nothing can be left out. -/
theorem planCredentials_skip (hr : refreshOf resolved c = none) (hd : degradedOf resolved c = none) :
    planCredentials (before ++ c :: after) resolved = planCredentials (before ++ after) resolved := by
  simp only [planCredentials, Planned.foldl_eq, List.filterMap_append,
    List.filterMap_cons_none hr, List.filterMap_cons_none hd]

end place

/-! ### Routing is a partition -/

section routing
variable (creds : List ProfileCredential) (resolved : StrMap String)

/-- Every planned refresh has its place in the profile. -/
theorem refresh_place {r : PlannedRefresh} (h : r ∈ (planCredentials creds resolved).refreshes) :
    ∃ before spec after, creds = before ++ (r.credentialKey, some spec) :: after ∧
      Emits resolved before (r.credentialKey, some spec) after r ∧ r.plan = spec.seed resolved := by
  rw [planCredentials_refreshes, List.mem_filterMap] at h
  obtain ⟨c, hc, hr⟩ := h
  obtain ⟨spec, rfl, _, hplan⟩ := refreshOf_eq_some.mp hr
  obtain ⟨before, after, rfl⟩ := List.append_of_mem hc
  exact ⟨before, spec, after, rfl, emits_iff.mpr hr, hplan⟩

/-- Every degraded entry has its place in the profile. -/
theorem degraded_place {d : DegradedCredential} (h : d ∈ (planCredentials creds resolved).degraded) :
    ∃ before spec after, creds = before ++ (d.credentialKey, some spec) :: after ∧
      Reports resolved before (d.credentialKey, some spec) after d := by
  rw [planCredentials_degraded, List.mem_filterMap] at h
  obtain ⟨c, hc, hd⟩ := h
  obtain ⟨spec, rfl, _, _⟩ := degradedOf_eq_some.mp hd
  obtain ⟨before, after, rfl⟩ := List.append_of_mem hc
  exact ⟨before, spec, after, rfl, reports_iff.mpr hd⟩

/-- The material of a planned refresh holds resolved values. -/
theorem material_resolved {r : PlannedRefresh}
    (h : r ∈ (planCredentials creds resolved).refreshes) {k v : String}
    (hk : r.plan.material[k]? = some v) : resolved[k]? = some v := by
  obtain ⟨_, spec, _, _, _, hplan⟩ := refresh_place creds resolved h
  rw [hplan, get?_seed_material] at hk
  split_ifs at hk
  exact hk

theorem resolved_iff (k v : String) : resolved[k]? = some v ↔
    (planCredentials creds resolved).staticCredentials[k]? = some v ∨
      ∃ r ∈ (planCredentials creds resolved).refreshes, r.plan.material[k]? = some v := by
  constructor
  · intro hv
    by_cases hused : ∃ r ∈ (planCredentials creds resolved).refreshes, k ∈ r.plan.material
    · obtain ⟨r, hr, hk⟩ := hused
      rw [Std.ExtTreeMap.mem_iff_isSome_getElem?, Option.isSome_iff_exists] at hk
      obtain ⟨v', hv'⟩ := hk
      have hsame := material_resolved creds resolved hr hv'
      rw [hv, Option.some.injEq] at hsame
      subst hsame
      exact .inr ⟨r, hr, hv'⟩
    · refine .inl ((get?_staticCredentials creds resolved k v).mpr ⟨hv, ?_⟩)
      intro r hr hk
      exact hused ⟨r, hr, hk⟩
  · rintro (hv | ⟨r, hr, hv⟩)
    · exact ((get?_staticCredentials creds resolved k v).mp hv).1
    · exact material_resolved creds resolved hr hv

/-- A copied key seeds no planned refresh. -/
theorem not_mem_material {k : String} (h : k ∈ (planCredentials creds resolved).staticCredentials) :
    ∀ r ∈ (planCredentials creds resolved).refreshes, k ∉ r.plan.material := by
  rw [Std.ExtTreeMap.mem_iff_isSome_getElem?, Option.isSome_iff_exists] at h
  obtain ⟨v, hv⟩ := h
  exact ((get?_staticCredentials creds resolved k v).mp hv).2

variable {creds} in
theorem plan_perm {creds' : List ProfileCredential} (h : creds.Perm creds') :
    (planCredentials creds' resolved).staticCredentials =
        (planCredentials creds resolved).staticCredentials ∧
      (planCredentials creds resolved).refreshes.Perm (planCredentials creds' resolved).refreshes ∧
      (planCredentials creds resolved).degraded.Perm (planCredentials creds' resolved).degraded := by
  have hr : (planCredentials creds resolved).refreshes.Perm
      (planCredentials creds' resolved).refreshes := by
    rw [planCredentials_refreshes, planCredentials_refreshes]
    exact h.filterMap _
  refine ⟨?_, hr, ?_⟩
  · refine Std.ExtTreeMap.ext_getElem? (fun k => Option.ext (fun v => ?_))
    rw [get?_staticCredentials, get?_staticCredentials]
    have hmem : ∀ r, r ∈ (planCredentials creds' resolved).refreshes ↔
        r ∈ (planCredentials creds resolved).refreshes := fun r => hr.mem_iff.symm
    simp only [hmem]
  · rw [planCredentials_degraded, planCredentials_degraded]
    exact h.filterMap _

/-- **Routing is an exact partition.**  Every resolved value is copied or seeds a planned
refresh, never both; nothing else does; a planned refresh holds exactly the resolved values
of the names its credential declares, and reports as secret exactly those it marks so; and
the order of the credentials does not matter. -/
theorem planCredentials_partition :
    (∀ k v : String, resolved[k]? = some v ↔
      (planCredentials creds resolved).staticCredentials[k]? = some v ∨
        ∃ r ∈ (planCredentials creds resolved).refreshes, r.plan.material[k]? = some v) ∧
    (∀ k, k ∈ (planCredentials creds resolved).staticCredentials →
      ∀ r ∈ (planCredentials creds resolved).refreshes, k ∉ r.plan.material) ∧
    (∀ r ∈ (planCredentials creds resolved).refreshes, ∃ before spec after,
      creds = before ++ (r.credentialKey, some spec) :: after ∧
      Emits resolved before (r.credentialKey, some spec) after r ∧
      r.plan.strategy = spec.strategy ∧
      (∀ k v : String, r.plan.material[k]? = some v ↔
        resolved[k]? = some v ∧ ∃ item ∈ spec.material, item.name = k) ∧
      ∀ n, n ∈ r.plan.secretMaterialKeys ↔
        n ∈ r.plan.material ∧ ∃ item ∈ spec.material, item.name = n ∧ item.secret = true) ∧
    ∀ creds', creds.Perm creds' →
      (planCredentials creds' resolved).staticCredentials =
          (planCredentials creds resolved).staticCredentials ∧
        (planCredentials creds resolved).refreshes.Perm (planCredentials creds' resolved).refreshes ∧
        (planCredentials creds resolved).degraded.Perm
          (planCredentials creds' resolved).degraded := by
  refine ⟨resolved_iff creds resolved, fun k hk => not_mem_material creds resolved hk, ?_,
    fun creds' h => plan_perm resolved h⟩
  intro r hr
  obtain ⟨before, spec, after, heq, hemit, hplan⟩ := refresh_place creds resolved hr
  refine ⟨before, spec, after, heq, hemit, by rw [hplan]; rfl, ?_, ?_⟩
  · intro k v
    rw [hplan, get?_seed_material, Option.ite_none_right_eq_some, List.mem_map, and_comm]
  · intro n
    rw [hplan]
    exact mem_seed_secret

end routing

/-! ### Unused credentials -/

section seeded
variable (creds : List ProfileCredential) (resolved : StrMap String)

/-- The credential declares a refresh that the operator configures, all it requires is
resolved, and so is at least one of its material names. -/
def Seeded (c : ProfileCredential) : Prop :=
  ∃ spec, c.2 = some spec ∧ spec.Complete resolved ∧ ∃ item ∈ spec.material, item.name ∈ resolved

/-- Exactly the seeded credentials get a refresh, and one without any resolved material gets
nothing and does not change the mode. -/
def PlannedWhenSeeded : Prop :=
  ∀ before c after, creds = before ++ c :: after →
    ((∃ r, Emits resolved before c after r) ↔ Seeded resolved c) ∧
    ∀ spec, c.2 = some spec → (∀ item ∈ spec.material, item.name ∉ resolved) →
      (∀ r, ¬ Emits resolved before c after r) ∧ (∀ d, ¬ Reports resolved before c after d) ∧
      (planCredentials creds resolved).mode = (planCredentials (before ++ after) resolved).mode

variable {creds resolved}

theorem exists_emits_iff {before after : List ProfileCredential} {c : ProfileCredential} :
    (∃ r, Emits resolved before c after r) ↔ ∃ spec, c.2 = some spec ∧ spec.Complete resolved := by
  simp only [emits_iff, refreshOf_eq_some]
  constructor
  · rintro ⟨r, spec, rfl, hcomplete, _⟩
    exact ⟨spec, rfl, hcomplete⟩
  · rintro ⟨spec, hspec, hcomplete⟩
    exact ⟨⟨c.1, spec.seed resolved⟩, spec, by rw [← hspec], hcomplete, rfl⟩

theorem exists_reports_iff {before after : List ProfileCredential} {c : ProfileCredential} :
    (∃ d, Reports resolved before c after d) ↔ ∃ spec, c.2 = some spec ∧ spec.Partial resolved := by
  simp only [reports_iff, degradedOf_eq_some]
  constructor
  · rintro ⟨d, spec, rfl, hpart, _⟩
    exact ⟨spec, rfl, hpart⟩
  · rintro ⟨spec, hspec, hpart⟩
    exact ⟨⟨c.1, spec.lacking resolved⟩, spec, by rw [← hspec], hpart, rfl⟩

/-- A refresh that requires something or has something resolved is planned when it can be
seeded. -/
theorem exists_emits_iff_seeded {before after : List ProfileCredential} {c : ProfileCredential}
    (h : ∀ spec, c.2 = some spec → spec.strategy ≠ .awsStsAssumeRole →
      (∃ item ∈ spec.material, item.required = true) ∨
        ∃ item ∈ spec.material, item.name ∈ resolved) :
    (∃ r, Emits resolved before c after r) ↔ Seeded resolved c := by
  rw [exists_emits_iff]
  constructor
  · rintro ⟨spec, hspec, hcomplete⟩
    refine ⟨spec, hspec, hcomplete, ?_⟩
    rcases h spec hspec hcomplete.1 with ⟨item, hitem, hreq⟩ | hsup
    · exact ⟨item, hitem, hcomplete.2 item hitem hreq⟩
    · exact hsup
  · rintro ⟨spec, hspec, hcomplete, _⟩
    exact ⟨spec, hspec, hcomplete⟩

/-- A credential without any resolved material is not reported. -/
theorem not_reports_of_unused {before after : List ProfileCredential} {c : ProfileCredential}
    {spec : RefreshSpec} (hspec : c.2 = some spec)
    (hunused : ∀ item ∈ spec.material, item.name ∉ resolved) (d : DegradedCredential) :
    ¬ Reports resolved before c after d := by
  intro hd
  obtain ⟨spec', hspec', _, item, hitem, hmem⟩ := exists_reports_iff.mp ⟨d, hd⟩
  rw [hspec, Option.some.injEq] at hspec'
  subst hspec'
  exact hunused item hitem hmem

/-- A credential that gets neither a refresh nor a report could as well not be there. -/
theorem planCredentials_of_nothing {before after : List ProfileCredential} {c : ProfileCredential}
    (hr : ∀ r, ¬ Emits resolved before c after r) (hd : ∀ d, ¬ Reports resolved before c after d) :
    planCredentials (before ++ c :: after) resolved = planCredentials (before ++ after) resolved := by
  have hr' : refreshOf resolved c = none :=
    Option.eq_none_iff_forall_ne_some.mpr (fun r h => hr r (emits_iff.mpr h))
  have hd' : degradedOf resolved c = none :=
    Option.eq_none_iff_forall_ne_some.mpr (fun d h => hd d (reports_iff.mpr h))
  exact planCredentials_skip hr' hd'

variable (creds resolved)

/-- **When a refresh is planned without a seed.**  The walk checks only what is required, so
a refresh is planned exactly when it can be seeded if and only if every configurable refresh
of the profile requires something or has something resolved. -/
theorem plannedWhenSeeded_iff : PlannedWhenSeeded creds resolved ↔
    ∀ c ∈ creds, ∀ spec, c.2 = some spec → spec.strategy ≠ .awsStsAssumeRole →
      (∃ item ∈ spec.material, item.required = true) ∨
        ∃ item ∈ spec.material, item.name ∈ resolved := by
  constructor
  · intro h c hc spec hspec haws
    by_contra hno
    rw [not_or] at hno
    obtain ⟨hnoreq, hnosup⟩ := hno
    obtain ⟨before, after, heq⟩ := List.append_of_mem hc
    -- nothing is required, so the refresh is complete and planned
    have hcomplete : spec.Complete resolved :=
      ⟨haws, fun item hitem hreq => absurd ⟨item, hitem, hreq⟩ hnoreq⟩
    have hemits : ∃ r, Emits resolved before c after r :=
      exists_emits_iff.mpr ⟨spec, hspec, hcomplete⟩
    obtain ⟨spec', hspec', _, hsup⟩ := (h before c after heq).1.mp hemits
    rw [hspec, Option.some.injEq] at hspec'
    subst hspec'
    exact hnosup hsup
  · intro h before c after heq
    have hc : c ∈ creds := by rw [heq]; simp
    have hseeded : (∃ r, Emits resolved before c after r) ↔ Seeded resolved c :=
      exists_emits_iff_seeded (h c hc)
    refine ⟨hseeded, ?_⟩
    intro spec hspec hunused
    have hr : ∀ r, ¬ Emits resolved before c after r := by
      intro r hr
      obtain ⟨spec', hspec', _, item, hitem, hmem⟩ := hseeded.mp ⟨r, hr⟩
      rw [hspec, Option.some.injEq] at hspec'
      subst hspec'
      exact hunused item hitem hmem
    have hd : ∀ d, ¬ Reports resolved before c after d := not_reports_of_unused hspec hunused
    refine ⟨hr, hd, ?_⟩
    rw [heq, planCredentials_of_nothing hr hd]

end seeded

namespace Sample

/-- A client-credentials refresh with nothing but an optional scope. -/
def scopeOnly : ProfileCredential :=
  ("token", some ⟨.oauth2ClientCredentials, [⟨"scope", false, false⟩]⟩)

/-- A Secret with an API key only. -/
def apiKey : StrMap String := Std.ExtTreeMap.ofList [("api_key", "k-1")] compare

theorem not_mem_apiKey {k : String} (h : k ≠ "api_key") : k ∉ apiKey := by
  rw [apiKey, Std.ExtTreeMap.mem_ofList]
  simpa using h

/-- A refresh is planned although the Secret has nothing to seed it with, and the mode changes
from copied to mixed. -/
theorem unseeded_refresh_planned : ¬ PlannedWhenSeeded [scopeOnly] apiKey ∧
    (planCredentials [] apiKey).mode = .copied ∧
    (planCredentials [scopeOnly] apiKey).mode = .mixed := by
  refine ⟨?_, by decide +kernel, by decide +kernel⟩
  intro h
  have hcomplete : RefreshSpec.Complete apiKey
      ⟨.oauth2ClientCredentials, [⟨"scope", false, false⟩]⟩ := by
    refine ⟨by decide, ?_⟩
    intro item hitem hreq
    rw [List.mem_singleton] at hitem
    subst hitem
    cases hreq
  have hemits : ∃ r, Emits apiKey [] scopeOnly [] r := exists_emits_iff.mpr ⟨_, rfl, hcomplete⟩
  obtain ⟨spec, hspec, _, item, hitem, hmem⟩ := (h [] scopeOnly [] rfl).1.mp hemits
  cases hspec
  rw [List.mem_singleton] at hitem
  subst hitem
  exact not_mem_apiKey (by decide) hmem

end Sample

/-! ### Degraded credentials -/

section degraded
variable (creds : List ProfileCredential) (resolved : StrMap String)

/-- What a degraded report promises: the missing names are required and absent, what is there
of the material is copied, and supplying the missing names gets the refresh planned. -/
def DegradedTruthful : Prop :=
  ∀ before spec after d, creds = before ++ (d.credentialKey, some spec) :: after →
    Reports resolved before (d.credentialKey, some spec) after d →
    (∀ n ∈ d.missing, n ∉ resolved ∧
      ∃ item ∈ spec.material, item.required = true ∧ item.name = n) ∧
    (∀ item ∈ spec.material, item.name ∈ resolved →
      item.name ∈ (planCredentials creds resolved).staticCredentials) ∧
    ∀ values : StrMap String, (∀ k, k ∈ values ↔ k ∈ d.missing) →
      (∃ r, Emits (resolved ∪ values) before (d.credentialKey, some spec) after r) ∧
      ∀ d', ¬ Reports (resolved ∪ values) before (d.credentialKey, some spec) after d'

variable {creds resolved} {spec : RefreshSpec}

/-- A resolved name is copied unless a complete refresh of the profile declares it. -/
theorem mem_staticCredentials_iff {k : String} (hk : k ∈ resolved) :
    k ∈ (planCredentials creds resolved).staticCredentials ↔
      ∀ c ∈ creds, ∀ spec, c.2 = some spec → spec.Complete resolved →
        k ∉ spec.material.map (·.name) := by
  rw [Std.ExtTreeMap.mem_iff_isSome_getElem?, Option.isSome_iff_exists] at hk ⊢
  obtain ⟨v, hv⟩ := hk
  have hmem : k ∈ resolved := by rw [Std.ExtTreeMap.mem_iff_isSome_getElem?, hv]; rfl
  constructor
  · rintro ⟨v', hv'⟩ c hc spec hspec hcomplete hname
    have hr : refreshOf resolved c = some ⟨c.1, spec.seed resolved⟩ :=
      refreshOf_eq_some.mpr ⟨spec, by rw [← hspec], hcomplete, rfl⟩
    refine ((get?_staticCredentials creds resolved k v').mp hv').2 ⟨c.1, spec.seed resolved⟩ ?_
      (mem_seed_material.mpr ⟨hname, hmem⟩)
    rw [planCredentials_refreshes]
    exact List.mem_filterMap.mpr ⟨c, hc, hr⟩
  · intro h
    refine ⟨v, (get?_staticCredentials creds resolved k v).mpr ⟨hv, ?_⟩⟩
    intro r hr hmat
    rw [planCredentials_refreshes, List.mem_filterMap] at hr
    obtain ⟨c, hc, hr⟩ := hr
    obtain ⟨spec, hspec, hcomplete, hplan⟩ := refreshOf_eq_some.mp hr
    rw [hplan, mem_seed_material] at hmat
    exact h c hc spec (by rw [hspec]) hcomplete hmat.1

/-- With what it lacks supplied, a refresh has all it requires. -/
theorem required_of_values {values : StrMap String}
    (hvalues : ∀ k, k ∈ values ↔ k ∈ spec.lacking resolved) :
    ∀ item ∈ spec.material, item.required = true → item.name ∈ resolved ∪ values := by
  intro item hitem hreq
  rw [Std.ExtTreeMap.mem_union_iff]
  by_cases hmem : item.name ∈ resolved
  · exact .inl hmem
  · exact .inr ((hvalues item.name).mpr (mem_lacking.mpr ⟨item, hitem, hreq, rfl, hmem⟩))

/-- With what it lacks supplied, a configurable refresh is planned and no longer reported. -/
theorem planned_of_values {before after : List ProfileCredential} {key : String}
    {values : StrMap String} (haws : spec.strategy ≠ .awsStsAssumeRole)
    (hvalues : ∀ k, k ∈ values ↔ k ∈ spec.lacking resolved) :
    (∃ r, Emits (resolved ∪ values) before (key, some spec) after r) ∧
      ∀ d, ¬ Reports (resolved ∪ values) before (key, some spec) after d := by
  have hreq := required_of_values hvalues
  refine ⟨exists_emits_iff.mpr ⟨spec, rfl, haws, hreq⟩, ?_⟩
  intro d hd
  obtain ⟨spec', hspec', ⟨item, hitem, hitemreq, hmem⟩, _⟩ := exists_reports_iff.mp ⟨d, hd⟩
  cases hspec'
  exact hmem (hreq item hitem hitemreq)

/-- Some values for the given names. -/
theorem exists_values (names : List String) : ∃ values : StrMap String, ∀ k, k ∈ values ↔ k ∈ names := by
  refine ⟨Std.ExtTreeMap.ofList (names.map (fun n => (n, ""))) compare, fun k => ?_⟩
  rw [Std.ExtTreeMap.mem_ofList, List.contains_iff_mem, List.map_map]
  simp

variable (creds resolved)

/-- **When a degraded report is truthful.**  Every degraded entry has its place in the
profile; the reports keep their promise if and only if no partly supplied credential has the
strategy that is never configured or shares resolved material with a complete refresh. -/
theorem degradedTruthful_iff :
    (∀ d ∈ (planCredentials creds resolved).degraded, ∃ before spec after,
      creds = before ++ (d.credentialKey, some spec) :: after ∧
        Reports resolved before (d.credentialKey, some spec) after d) ∧
    (DegradedTruthful creds resolved ↔
      ∀ c ∈ creds, ∀ spec, c.2 = some spec → spec.Partial resolved →
        spec.strategy ≠ .awsStsAssumeRole ∧
        ∀ c' ∈ creds, ∀ spec', c'.2 = some spec' → spec'.Complete resolved →
          ∀ item ∈ spec.material, item.name ∈ resolved →
            item.name ∉ spec'.material.map (·.name)) := by
  refine ⟨fun d hd => degraded_place creds resolved hd, ?_⟩
  constructor
  · intro h c hc spec hspec hpart
    obtain ⟨before, after, heq⟩ := List.append_of_mem hc
    have hd : Reports resolved before (c.1, some spec) after ⟨c.1, spec.lacking resolved⟩ :=
      reports_iff.mpr (degradedOf_eq_some.mpr ⟨spec, rfl, hpart, rfl⟩)
    have hc' : c = (c.1, some spec) := by rw [← hspec]
    rw [hc'] at heq
    obtain ⟨_, hstatic, hagain⟩ := h before spec after ⟨c.1, spec.lacking resolved⟩ heq hd
    constructor
    · -- with values for the missing names the refresh is planned, so it is configurable
      obtain ⟨values, hvalues⟩ := exists_values (spec.lacking resolved)
      obtain ⟨spec', hspec', hcomplete⟩ := exists_emits_iff.mp (hagain values hvalues).1
      cases hspec'
      exact hcomplete.1
    · intro c' hc' spec' hspec' hcomplete item hitem hmem
      exact (mem_staticCredentials_iff hmem).mp (hstatic item hitem hmem) c' hc' spec' hspec'
        hcomplete
  · intro h before spec after d heq hd
    obtain ⟨spec', hspec', hpart, hmissing⟩ := degradedOf_eq_some.mp (reports_iff.mp hd)
    cases hspec'
    have hc : (d.credentialKey, some spec) ∈ creds := by rw [heq]; simp
    obtain ⟨haws, hshared⟩ := h _ hc spec rfl hpart
    refine ⟨?_, ?_, ?_⟩
    · intro n hn
      rw [hmissing] at hn
      obtain ⟨item, hitem, hreq, hname, hmem⟩ := mem_lacking.mp hn
      exact ⟨hmem, item, hitem, hreq, hname⟩
    · intro item hitem hmem
      refine (mem_staticCredentials_iff hmem).mpr ?_
      intro c' hc' spec' hspec' hcomplete
      exact hshared c' hc' spec' hspec' hcomplete item hitem hmem
    · intro values hvalues
      rw [hmissing] at hvalues
      exact planned_of_values haws hvalues

end degraded

namespace Sample

/-- A role to assume, with the external id required. -/
def assumeRole : RefreshSpec :=
  ⟨.awsStsAssumeRole, [⟨"role_arn", true, false⟩, ⟨"external_id", true, true⟩]⟩

/-- The client id is shared by the client-credentials and the refresh-token credential. -/
def clientSecret : RefreshSpec :=
  ⟨.oauth2ClientCredentials, [⟨"client_id", true, false⟩, ⟨"client_secret", true, true⟩]⟩

def refreshToken : RefreshSpec :=
  ⟨.oauth2RefreshToken, [⟨"client_id", true, false⟩, ⟨"refresh_token", true, true⟩]⟩

def roleArn : StrMap String := Std.ExtTreeMap.ofList [("role_arn", "arn:r")] compare

def clientPair : StrMap String :=
  Std.ExtTreeMap.ofList [("client_id", "c-1"), ("client_secret", "s-1")] compare

/-- The advice to complete the material of a role to assume changes nothing, and the client
id reported as copied is not. -/
theorem degraded_report_misleads :
    ¬ DegradedTruthful [("aws", some assumeRole)] roleArn ∧
    ¬ DegradedTruthful [("app", some clientSecret), ("user", some refreshToken)] clientPair := by
  constructor
  · intro h
    have hd : Reports roleArn [] ("aws", some assumeRole) [] ⟨"aws", ["external_id"]⟩ :=
      ⟨rfl, by decide +kernel⟩
    obtain ⟨values, hvalues⟩ := exists_values ["external_id"]
    obtain ⟨hemits, _⟩ := (h [] assumeRole [] ⟨"aws", ["external_id"]⟩ rfl hd).2.2 values hvalues
    obtain ⟨spec, hspec, hcomplete⟩ := exists_emits_iff.mp hemits
    cases hspec
    exact hcomplete.1 rfl
  · intro h
    have hd : Reports clientPair [("app", some clientSecret)] ("user", some refreshToken) []
        ⟨"user", ["refresh_token"]⟩ := ⟨rfl, by decide +kernel⟩
    have hstatic := (h [("app", some clientSecret)] refreshToken [] ⟨"user", ["refresh_token"]⟩
      rfl hd).2.1 ⟨"client_id", true, false⟩ List.mem_cons_self
        (Std.ExtTreeMap.contains_iff_mem.mp (by decide +kernel))
    rw [← Std.ExtTreeMap.contains_iff_mem] at hstatic
    revert hstatic
    decide +kernel

end Sample
end OpenShell
