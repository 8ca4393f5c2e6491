import OpenShellOperator.Effects.Session

/-! # Calls implemented by programs

`expand impl p` is the program `p` with each of its calls made by a program over other calls.
An implementation may give up (a loop that was cut off); then so does the expanded program.

An implementation of a call `Realizes` it when, up to what the world does by itself, it has no
effect before it ends, and ends as one of the ways the call may fare.  `Safe.expand` is the
simulation: when every call is realized, every run of the expanded program is one of the
program, with the same end in the same world.  `outcome_expand` is the other direction, for
runs that are served.

`follow` reads a listing page by page.  Against a server that keeps the listing while it is read
it realizes the call that reads the listing at once (`follow_safe`, `follow_paged_outcome`). -/

namespace Effects.Prog

variable {Call Call' : Type} {Ans : Call → Type} {Ans' : Call' → Type} {ε α β γ W F F' : Type}

/-! ### Expansion -/

/-- The result of a program that may have given up. -/
def settle : Except ε (Option α) → Option (Except ε α)
  | .ok none => none
  | .ok (some a) => some (.ok a)
  | .error e => some (.error e)

/-- The program with its calls made by `impl`. -/
def expand (impl : (c : Call) → Prog Ans' ε (Option (Ans c))) : Prog Ans ε α → Prog Ans' ε (Option α)
  | done r => done (r.map some)
  | call c k => do
      match settle (← (impl c).attempt) with
      | some r => (k r).expand impl
      | none => pure none

theorem settle_map_some (r : Except ε α) : settle (r.map some) = some r := by
  cases r <;> rfl

/-- A single call is made by its implementation. -/
theorem expand_perform (impl : (c : Call) → Prog Ans' ε (Option (Ans c))) (c : Call) :
    (perform c : Prog Ans ε (Ans c)).expand impl = impl c := by
  rw [perform, expand]
  generalize impl c = p
  induction p with
  | done r => rcases r with e | _ | a <;> rfl
  | call c' k ih =>
      show call _ _ = call _ _
      congr 1
      funext r
      exact ih r

section simulation
variable {react : W → (c : Call) → F → W × Except ε (Ans c)}
  {react' : W → (c : Call') → F' → W × Except ε (Ans' c)} {R : Rely W}

/-- The program ends as the call may fare, and has no effect before or when it gives up. -/
def Realizes (react : W → (c : Call) → F → W × Except ε (Ans c))
    (react' : W → (c : Call') → F' → W × Except ε (Ans' c)) (R : Rely W) (c : Call)
    (p : Prog Ans' ε (Option (Ans c))) : Prop :=
  ∀ w, p.Safe react' R (fun w' _ => R w w') (fun r w' => match settle r with
    | none => R w w'
    | some r' => ∃ w₁ w₂ f, R w w₁ ∧ react w₁ c f = (w₂, r') ∧ R w₂ w') w

variable (react react' R) in
/-- One call of the other set that does the same. -/
theorem realizes_perform (c : Call) (c' : Call') (back : Ans' c' → Ans c)
    (h : ∀ w f', ∃ f, react w c f = ((react' w c' f').1, (react' w c' f').2.map back)) :
    Realizes react react' R c ((perform c' : Prog Ans' ε (Ans' c')) >>= fun a => pure (some (back a))) := by
  intro w
  refine Safe.bind (safe_perform (fun w₁ hw₁ => ⟨hw₁, fun f' w₂ hw₂ => ?_⟩))
  obtain ⟨f, hf⟩ := h w₁ f'
  cases hr : (react' w₁ c' f').2 with
  | ok a =>
      intro w₃ hw₃
      refine ⟨w₁, _, f, hw₁, ?_, R.trans hw₂ hw₃⟩
      rw [hf, hr]
      rfl
  | error e =>
      intro w₃ hw₃
      refine ⟨w₁, _, f, hw₁, ?_, R.trans hw₂ hw₃⟩
      rw [hf, hr]
      rfl

/-- **Simulation.**  Before each of its calls and where it ends, the expanded program is in a world
that the program reaches, and where it ends without giving up the program ends with the same
result. -/
theorem Safe.expand {impl : (c : Call) → Prog Ans' ε (Option (Ans c))}
    (himpl : ∀ c, Realizes react react' R c (impl c)) (p : Prog Ans ε α) (w : W) :
    (p.expand impl).Safe react' R (fun w' _ => ∃ tr q, Steps react R p w tr q w')
      (fun r w' => match settle r with
        | none => ∃ tr q, Steps react R p w tr q w'
        | some r' => ∃ tr, Steps react R p w tr (done r') w') w := by
  induction p generalizing w with
  | done r =>
      intro w' hw
      rw [settle_map_some]
      exact ⟨[], .move hw (.refl _ _)⟩
  | call c k ih =>
      rw [Prog.expand]
      refine Safe.bind (Safe.attempt (Safe.mono ?_ ?_ (himpl c w)))
      · exact fun w' _ hw => ⟨[], _, .move hw (.refl _ _)⟩
      · intro r w' hr
        cases hsettle : settle r with
        | none =>
            rw [hsettle] at hr
            simp only [Then, hsettle]
            exact fun w'' hw'' => ⟨[], _, .move hr (.move hw'' (.refl _ _))⟩
        | some r' =>
            rw [hsettle] at hr
            obtain ⟨w₁, w₂, f, hw₁, hreact, hw₂⟩ := hr
            have hstep : ∀ {tr q w₃}, Steps react R (k r') w' tr q w₃ →
                Steps react R (call c k) w ((c, f) :: tr) q w₃ := by
              intro tr q w₃ hs
              refine .move hw₁ (.call f ?_)
              rw [hreact]
              exact .move hw₂ hs
            simp only [Then, hsettle]
            refine Safe.mono ?_ ?_ (ih r' w')
            · rintro w₃ _ ⟨tr, q, hs⟩
              exact ⟨_, q, hstep hs⟩
            · intro r₃ w₃ hr₃
              cases hsettle₃ : settle r₃ with
              | none =>
                  rw [hsettle₃] at hr₃
                  obtain ⟨tr, q, hs⟩ := hr₃
                  exact ⟨_, q, hstep hs⟩
              | some r₃' =>
                  rw [hsettle₃] at hr₃
                  obtain ⟨tr, hs⟩ := hr₃
                  exact ⟨_, hstep hs⟩

end simulation

/-! ### Runs that are served -/

section served
variable {serve : W → (c : Call) → W × Except ε (Ans c)}
  {serve' : W → (c : Call') → W × Except ε (Ans' c)}

/-- With every call served, an expanded program ends as the program does, if its implementations
are given enough. -/
theorem outcome_expand {impl : ℕ → (c : Call) → Prog Ans' ε (Option (Ans c))}
    (himpl : ∀ c w, ∃ n₀, ∀ n, n₀ ≤ n →
      (impl n c).outcome serve' w = ((serve w c).1, (serve w c).2.map some))
    (p : Prog Ans ε α) (w : W) : ∃ n₀, ∀ n, n₀ ≤ n →
      (p.expand (impl n)).outcome serve' w = ((p.outcome serve w).1, (p.outcome serve w).2.map some) := by
  induction p generalizing w with
  | done r => exact ⟨0, fun _ _ => rfl⟩
  | call c k ih =>
      obtain ⟨n₁, hcall⟩ := himpl c w
      obtain ⟨n₂, hrest⟩ := ih (serve w c).2 (serve w c).1
      refine ⟨max n₁ n₂, fun n hn => ?_⟩
      rw [Prog.expand, outcome_bind, outcome_attempt, hcall n (Nat.le_trans (Nat.le_max_left _ _) hn)]
      simp only [settle_map_some]
      exact hrest n (Nat.le_trans (Nat.le_max_right _ _) hn)

end served

/-! ### Page by page -/

/-- A page of a listing: its items, and the token of the next page; none follows an empty one. -/
structure Page (β : Type) where
  items : List β
  nextPageToken : String

/-- From a token, so many pages hold these items. -/
inductive Paged (page : String → Page β) : ℕ → String → List β → Prop
  | last {token : String} : (page token).nextPageToken = "" → Paged page 1 token (page token).items
  | more {n : ℕ} {token : String} {rest : List β} : (page token).nextPageToken ≠ "" →
      Paged page n (page token).nextPageToken rest →
      Paged page (n + 1) token ((page token).items ++ rest)

/-- A way to serve listings in pages: from the empty token, the pages hold the listing. -/
structure Pager (β : Type) where
  page : List β → String → Page β
  pages : List β → ℕ
  whole : ∀ items, Paged (page items) (pages items) "" items

/-- Follow the page tokens until there is none, at most `n` pages; the items are viewed as they
come. -/
def follow (fetch : String → Prog Ans ε (Page γ)) (view : γ → β) :
    ℕ → String → List β → Prog Ans ε (Option (List β))
  | 0, _, _ => pure none
  | n + 1, token, seen => do
      let response ← fetch token
      let seen := seen ++ response.items.map view
      if response.nextPageToken = "" then pure (some seen)
      else follow fetch view n response.nextPageToken seen

section paging
variable {react : W → (c : Call) → F → W × Except ε (Ans c)} {R : Rely W} {fault : F' → ε}
  {fetch : String → Prog Ans ε (Page γ)} {view : γ → β} {listing : W → Except ε (List γ)}
  {P : Pager γ}

/-- A request for a page is answered with the page of the listing, or fails. -/
def Fetches (react : W → (c : Call) → F → W × Except ε (Ans c)) (R : Rely W) (fault : F' → ε)
    (listing : W → Except ε (List γ)) (P : Pager γ) (fetch : String → Prog Ans ε (Page γ)) : Prop :=
  ∀ token w, (fetch token).Safe react R (fun w' _ => R w w') (fun r w' => R w w' ∧
    (r = (listing w).map (P.page · token) ∨ ∃ e, r = .error (fault e))) w

/-- The pages from a token on, while the listing stays. -/
theorem follow_paged (hfetch : Fetches react R fault listing P fetch)
    (hR : ∀ {w w'}, R w w' → listing w' = listing w) {items : List γ} :
    ∀ (n : ℕ) {m : ℕ} {token : String} {rest : List γ} (seen : List β) {w : W},
      listing w = .ok items → Paged (P.page items) m token rest →
      (follow fetch view n token seen).Safe react R (fun w' _ => R w w') (fun r w' => R w w' ∧
        ∀ r', settle r = some r' → r' = .ok (seen ++ rest.map view) ∨ ∃ e, r' = .error (fault e)) w
  | 0, _, _, _, _, w, _, _ => fun w' hw => ⟨hw, fun _ hr => by cases hr⟩
  | n + 1, m, token, rest, seen, w, hitems, hpaged => by
      refine Safe.bind (Safe.mono (fun _ _ hc => hc) ?_ (hfetch token w))
      rintro r w' ⟨hw, hr⟩
      rw [hitems] at hr
      cases r with
      | error e =>
          refine fun w'' hw'' => ⟨R.trans hw hw'', fun r' hr' => ?_⟩
          cases hr'
          rcases hr with hr | ⟨e', hr⟩
          · cases hr
          · cases hr
            exact .inr ⟨e', rfl⟩
      | ok response =>
          have hresponse : response = P.page items token := by
            rcases hr with hr | ⟨e', hr⟩
            · exact Except.ok.inj hr
            · cases hr
          subst hresponse
          show Safe _ _ _ _ (ite _ _ _) w'
          cases hpaged with
          | last hlast =>
              rw [if_pos hlast]
              refine fun w'' hw'' => ⟨R.trans hw hw'', fun r' hr' => ?_⟩
              cases hr'
              exact .inl rfl
          | @more m _ rest hmore hrest =>
              rw [if_neg hmore]
              have hitems' : listing w' = .ok items := (hR hw).trans hitems
              refine Safe.mono ?_ ?_ (follow_paged hfetch hR n _ hitems' hrest)
              · exact fun _ _ hw'' => R.trans hw hw''
              · rintro r'' w'' ⟨hw'', hr''⟩
                refine ⟨R.trans hw hw'', fun r' hr' => ?_⟩
                rw [List.map_append, ← List.append_assoc]
                exact hr'' r' hr'

/-- **A listing page by page** is the listing as it was, or fails. -/
theorem follow_safe (hfetch : Fetches react R fault listing P fetch)
    (hR : ∀ {w w'}, R w w' → listing w' = listing w) (n : ℕ) (w : W) :
    (follow fetch view n "" []).Safe react R (fun w' _ => R w w') (fun r w' => R w w' ∧
      ∀ r', settle r = some r' →
        r' = (listing w).map (List.map view) ∨ ∃ e, r' = .error (fault e)) w := by
  cases hitems : listing w with
  | ok items => exact follow_paged hfetch hR n [] hitems (P.whole items)
  | error e =>
      cases n with
      | zero => exact fun w' hw => ⟨hw, fun _ hr => by cases hr⟩
      | succ n =>
          refine Safe.bind (Safe.mono (fun _ _ hc => hc) ?_ (hfetch "" w))
          rintro r w' ⟨hw, hr⟩
          rw [hitems] at hr
          cases r with
          | ok response =>
              rcases hr with hr | ⟨e', hr⟩
              · cases hr
              · cases hr
          | error e' =>
              refine fun w'' hw'' => ⟨R.trans hw hw'', fun r' hr' => ?_⟩
              cases hr'
              rcases hr with hr | ⟨e'', hr⟩
              · cases hr
                exact .inl rfl
              · cases hr
                exact .inr ⟨e'', rfl⟩

end paging

section servedPaging
variable {serve : W → (c : Call) → W × Except ε (Ans c)} {fetch : String → Prog Ans ε (Page γ)}
  {view : γ → β} {w : W} {items : List γ} {P : Pager γ}

theorem follow_paged_outcome
    (hfetch : ∀ token, (fetch token).outcome serve w = (w, .ok (P.page items token))) {m : ℕ}
    {token : String} {rest : List γ} (hpaged : Paged (P.page items) m token rest) :
    ∀ (n : ℕ) (seen : List β), m ≤ n →
      (follow fetch view n token seen).outcome serve w = (w, .ok (some (seen ++ rest.map view))) := by
  induction hpaged with
  | @last token hlast =>
      intro n seen hn
      obtain ⟨n, rfl⟩ := Nat.exists_eq_add_of_le' hn
      rw [follow, outcome_bind, hfetch]
      simp only [hlast, if_true]
      rfl
  | @more m token rest hmore _ ih =>
      intro n seen hn
      obtain ⟨n, rfl⟩ := Nat.exists_eq_add_of_le' (Nat.le_trans (Nat.le_add_left 1 m) hn)
      rw [follow, outcome_bind, hfetch]
      simp only [hmore, if_false]
      rw [ih n _ (Nat.le_of_succ_le_succ hn), List.map_append, List.append_assoc]

end servedPaging
end Effects.Prog
