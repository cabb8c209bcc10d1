import Mathlib.Data.List.Induction
/-!
# Runs of a partial step function

A system is a step function `σ → α → Option σ`: `none` means that the label is not
enabled in the state. A run is a list of labels; interleavings are runs whose labels
belong to several parties. Nothing here knows what the states or the labels are.

* `run_induction` — a property of (labels so far, state) that holds initially and is kept
  by every step holds after every run; `run_induction_along` may assume a condition `C`
  of every step taken.
* `exists_run_of_level` — a run to the end where every step can lower the level.
* `forall_prefix_iff_along` — when a condition on the steps says exactly which runs keep a property
  all along.
* `trace` — what a run emits, where every step emits a list.
* `run_project` — a run of one machine is a run of another when every step projects to a
  step of it or to nothing; `exists_run_of_simulates` — when some step of it does the same;
  `invariant_of_simulates` — then what the other one keeps holds of the image.
-/
namespace Machine

variable {σ α : Type} {step : σ → α → Option σ}

/-- The state after the labels `as`, taken from `s`. -/
def run (step : σ → α → Option σ) (s : σ) (as : List α) : Option σ := as.foldlM step s

@[simp] theorem run_nil (s : σ) : run step s [] = some s := rfl

@[simp] theorem run_cons (s : σ) (a : α) (as : List α) :
    run step s (a :: as) = (step s a).bind fun s' => run step s' as := rfl

theorem run_cons_of_step {s s' : σ} {a : α} {as : List α} (h : step s a = some s') :
    run step s (a :: as) = run step s' as := by
  rw [run_cons, h]
  rfl

theorem run_append (s : σ) (as bs : List α) :
    run step s (as ++ bs) = (run step s as).bind fun s' => run step s' bs := by
  simp only [run, List.foldlM_append]
  rfl

theorem run_trans {s t u : σ} {as bs : List α} (h : run step s as = some t) (h' : run step t bs = some u) :
    run step s (as ++ bs) = some u := by
  rw [run_append, h]
  exact h'

theorem run_concat (s : σ) (as : List α) (a : α) :
    run step s (as ++ [a]) = (run step s as).bind fun s' => step s' a := by
  rw [run_append]
  congr 1
  funext s'
  cases h : step s' a <;> simp [h]

theorem run_concat_some {s s' : σ} {as : List α} {a : α} :
    run step s (as ++ [a]) = some s' ↔ ∃ t, run step s as = some t ∧ step t a = some s' := by
  rw [run_concat, Option.bind_eq_some_iff]

/-- Where a given run ends can be computed. -/
instance decidableEnds {P : σ → Prop} [DecidablePred P] (s : σ) (as : List α) :
    Decidable (∃ s', run step s as = some s' ∧ P s') :=
  decidable_of_iff ((run step s as).any (fun s' => decide (P s')) = true) (by simp [Option.any_eq_true])

/-- `t` is reached from `s` by some run. -/
def Reachable (step : σ → α → Option σ) (s t : σ) : Prop := ∃ as, run step s as = some t

theorem run_induction {s₀ : σ} {P : List α → σ → Prop} (h0 : P [] s₀)
    (hs : ∀ as s a s', run step s₀ as = some s → P as s → step s a = some s' → P (as ++ [a]) s') :
    ∀ as s, run step s₀ as = some s → P as s := by
  intro as
  induction as using List.reverseRecOn with
  | nil =>
    intro s h
    cases h
    exact h0
  | append_singleton as a ih =>
    intro s h
    obtain ⟨t, ht, hstep⟩ := run_concat_some.1 h
    exact hs as t a s ht (ih t ht) hstep

/-- The invariant rule: what holds initially and is kept by every step is reachable-invariant. -/
theorem Reachable.invariant {s₀ s : σ} {I : σ → Prop} (h : Reachable step s₀ s) (h0 : I s₀)
    (hs : ∀ t a t', I t → step t a = some t' → I t') : I s := by
  obtain ⟨as, ha⟩ := h
  exact run_induction (P := fun _ s => I s) h0 (fun _ t a t' _ hI hst => hs t a t' hI hst) as s ha

/-! ## Conditions on every step of a run -/

/-- `C` holds of every step (state before, label) of the run of `as` from `s`. -/
def Along (step : σ → α → Option σ) (C : σ → α → Prop) : σ → List α → Prop
  | _, [] => True
  | s, a :: as => C s a ∧ ∀ s', step s a = some s' → Along step C s' as

variable {C D : σ → α → Prop}

instance decidableAlong [∀ s a, Decidable (C s a)] : ∀ s as, Decidable (Along step C s as)
  | _, [] => isTrue trivial
  | s, a :: as =>
    match h : step s a with
    | none => decidable_of_iff (C s a) (by simp [Along, h])
    | some s' =>
      have := decidableAlong s' as
      decidable_of_iff (C s a ∧ Along step C s' as) (by simp [Along, h])

theorem along_append {s t : σ} {as bs : List α} (h : run step s as = some t) :
    Along step C s (as ++ bs) ↔ Along step C s as ∧ Along step C t bs := by
  induction as generalizing s with
  | nil =>
    cases h
    simp [Along]
  | cons a as ih =>
    rw [run_cons, Option.bind_eq_some_iff] at h
    obtain ⟨s', hs', hr⟩ := h
    simp only [List.cons_append, Along, hs', Option.some.injEq, forall_eq', ih hr, and_assoc]

theorem along_concat {s t : σ} {as : List α} {a : α} (h : run step s as = some t) :
    Along step C s (as ++ [a]) ↔ Along step C s as ∧ C t a := by
  simp [along_append h, Along]

/-- A last step that meets the condition anyway says nothing new about the run. -/
theorem step_met {A A' P : Prop} (h : A' ↔ A ∧ P) (hP : P) : A' = A :=
  propext (h.trans (and_iff_left hP))

/-- `run_induction` for runs whose steps all meet `C`. -/
theorem run_induction_along {s₀ : σ} {P : List α → σ → Prop} (h0 : P [] s₀)
    (hs : ∀ as s a s', run step s₀ as = some s → P as s → C s a → step s a = some s' →
      P (as ++ [a]) s') :
    ∀ as s, run step s₀ as = some s → Along step C s₀ as → P as s := by
  refine run_induction (P := fun as s => Along step C s₀ as → P as s) (fun _ => h0) ?_
  intro as s a s' hr ih hst hA
  obtain ⟨hA, hC⟩ := (along_concat hr).1 hA
  exact hs as s a s' hr (ih hA) hC hst

theorem along_true (s : σ) (as : List α) : Along step (fun _ _ => True) s as := by
  induction as generalizing s with
  | nil => trivial
  | cons a as ih => exact ⟨trivial, fun s' _ => ih s'⟩

theorem along_iff_of_forall (h : ∀ s a, C s a ↔ D s a) {s : σ} {as : List α} :
    Along step C s as ↔ Along step D s as := by
  induction as generalizing s with
  | nil => exact Iff.rfl
  | cons a as ih => simp only [Along, h, ih]

/-- Where every step of a state with the invariant `I` keeps `P` exactly if it meets `C`, all states of
a run have `P` exactly if the first one has and every step meets `C`. -/
theorem forall_prefix_iff_along {I P : σ → Prop} (hI : ∀ s a s', I s → step s a = some s' → I s')
    (hP : ∀ s a s', I s → P s → step s a = some s' → (P s' ↔ C s a))
    (hN : ∀ s a, step s a = none → C s a) {s : σ} {as : List α} (h : I s) :
    (∀ bs, bs <+: as → ∀ t, run step s bs = some t → P t) ↔ P s ∧ Along step C s as := by
  induction as generalizing s with
  | nil =>
    constructor
    · intro hall
      exact ⟨hall [] List.nil_prefix s rfl, trivial⟩
    · rintro ⟨hs, -⟩ bs hbs t ht
      obtain rfl := List.prefix_nil.1 hbs
      cases ht
      exact hs
  | cons a as ih =>
    constructor
    · intro hall
      have hs : P s := hall [] List.nil_prefix s rfl
      have hrest : ∀ s', step s a = some s' → P s' ∧ Along step C s' as := by
        intro s' hst
        refine (ih (hI s a s' h hst)).1 fun bs hbs t ht => hall (a :: bs) ?_ t ?_
        · exact List.cons_prefix_cons.2 ⟨rfl, hbs⟩
        · rw [run_cons_of_step hst, ht]
      refine ⟨hs, ?_, fun s' hst => (hrest s' hst).2⟩
      cases hst : step s a with
      | none => exact hN s a hst
      | some s' => exact (hP s a s' h hs hst).1 (hrest s' hst).1
    · rintro ⟨hs, hC, halong⟩ bs hbs t ht
      cases bs with
      | nil =>
        cases ht
        exact hs
      | cons b bs =>
        obtain ⟨rfl, hpre⟩ := List.cons_prefix_cons.1 hbs
        obtain ⟨s', hst, hr⟩ := Option.bind_eq_some_iff.1 ht
        exact (ih (hI s b s' h hst)).2 ⟨(hP s b s' h hs hst).2 hC, halong s' hst⟩ bs hpre t hr

/-- A condition that keeps an invariant under which it implies another one. -/
theorem along_mono_of_invariant {I : σ → Prop} (hI : ∀ s a s', I s → C s a → step s a = some s' → I s')
    (hD : ∀ s a, I s → C s a → D s a) {s : σ} {as : List α} (h : I s) (halong : Along step C s as) :
    Along step D s as := by
  induction as generalizing s with
  | nil => trivial
  | cons a as ih =>
    obtain ⟨hC, hrest⟩ := halong
    exact ⟨hD s a h hC, fun s' hst => ih (hI s a s' h hC hst) (hrest s' hst)⟩

/-- A state of level `n` from which the level can always be lowered is `n` steps from level zero. -/
theorem exists_run_of_level {I : Nat → σ → Prop}
    (hs : ∀ n s, I (n + 1) s → ∃ a s', C s a ∧ step s a = some s' ∧ I n s') :
    ∀ n s, I n s → ∃ as s', as.length = n ∧ run step s as = some s' ∧ Along step C s as ∧ I 0 s' := by
  intro n
  induction n with
  | zero =>
    intro s h
    exact ⟨[], s, rfl, rfl, trivial, h⟩
  | succ n ih =>
    intro s h
    obtain ⟨a, s', hC, hst, h'⟩ := hs n s h
    obtain ⟨as, t, hlen, hrun, halong, ht⟩ := ih s' h'
    refine ⟨a :: as, t, by simp [hlen], ?_, ⟨hC, fun u hu => ?_⟩, ht⟩
    · rw [run_cons_of_step hst, hrun]
    · obtain rfl := Option.some.inj (hst.symm.trans hu)
      exact halong

/-! ## What a run emits -/

section
variable {β : Type} {emit : σ → α → List β}

/-- What the steps of the run of `as` from `s` emit, in their order. -/
def trace (step : σ → α → Option σ) (emit : σ → α → List β) : σ → List α → List β
  | _, [] => []
  | s, a :: as => emit s a ++ (step s a).elim [] fun s' => trace step emit s' as

theorem trace_concat {s t : σ} {as : List α} {a : α} (h : run step s as = some t) :
    trace step emit s (as ++ [a]) = trace step emit s as ++ emit t a := by
  induction as generalizing s with
  | nil =>
    cases h
    cases hst : step t a <;> simp [trace, hst]
  | cons b as ih =>
    rw [run_cons, Option.bind_eq_some_iff] at h
    obtain ⟨s', hs', hr⟩ := h
    simp only [List.cons_append, trace, hs', Option.elim_some, ih hr, List.append_assoc]

/-- What every step emits or does not, every run does. -/
theorem exists_mem_trace_congr {γ : Type} {emit' : σ → α → List γ} {P : β → Prop} {Q : γ → Prop}
    (h : ∀ s a, (∃ b ∈ emit s a, P b) ↔ ∃ c ∈ emit' s a, Q c) (s : σ) (as : List α) :
    (∃ b ∈ trace step emit s as, P b) ↔ ∃ c ∈ trace step emit' s as, Q c := by
  induction as generalizing s with
  | nil => simp [trace]
  | cons a as ih =>
    simp only [trace, List.mem_append, or_and_right, exists_or, h s a]
    refine or_congr_right ?_
    cases step s a with
    | none => simp
    | some t => exact ih t

end

/-! ## Projections -/

section
variable {τ β : Type} {step' : τ → β → Option τ}

/-- `f` maps every step to a step labelled by `g`, or leaves the image unchanged where `g` says
nothing. -/
def Projects (step : σ → α → Option σ) (step' : τ → β → Option τ) (f : σ → τ) (g : α → Option β) :
    Prop :=
  ∀ s a s', step s a = some s' →
    match g a with
    | some b => step' (f s) b = some (f s')
    | none => f s' = f s

theorem run_project {f : σ → τ} {g : α → Option β} (hp : Projects step step' f g) {s s' : σ}
    {as : List α} (h : run step s as = some s') :
    run step' (f s) (as.filterMap g) = some (f s') := by
  induction as generalizing s with
  | nil =>
    cases h
    rfl
  | cons a as ih =>
    rw [run_cons, Option.bind_eq_some_iff] at h
    obtain ⟨t, ht, hr⟩ := h
    have hst := hp s a t ht
    rw [List.filterMap_cons]
    cases hg : g a with
    | none =>
      rw [hg] at hst
      rw [← hst]
      exact ih hr
    | some b =>
      rw [hg] at hst
      simp only [run_cons, hst, Option.bind_some]
      exact ih hr

/-- A condition on the steps that are seen holds along what is seen of the run. -/
theorem along_project {f : σ → τ} {g : α → Option β} {D : τ → β → Prop} (hp : Projects step step' f g)
    (hCD : ∀ s a b, C s a → g a = some b → D (f s) b) {s s' : σ} {as : List α} (h : run step s as = some s')
    (halong : Along step C s as) : Along step' D (f s) (as.filterMap g) := by
  induction as generalizing s with
  | nil => trivial
  | cons a as ih =>
    rw [run_cons, Option.bind_eq_some_iff] at h
    obtain ⟨t, ht, hr⟩ := h
    obtain ⟨hC, hrest⟩ := halong
    have hst := hp s a t ht
    rw [List.filterMap_cons]
    cases hg : g a with
    | none =>
      rw [hg] at hst
      rw [← hst]
      exact ih hr (hrest t ht)
    | some b =>
      rw [hg] at hst
      refine ⟨hCD s a b hC hg, fun u hu => ?_⟩
      obtain rfl := Option.some.inj (hst.symm.trans hu)
      exact ih hr (hrest t ht)

/-- A step of the one machine is a step of the other that is seen in the same way, or it is not seen and changes
nothing of the image. Then the one has no run that the other could not have, for all that is seen. -/
theorem exists_run_of_simulates {ν : Type} {I : σ → Prop} {f : σ → τ} {seen : α → Option ν} {seen' : β → Option ν}
    (hI : ∀ s a s', I s → step s a = some s' → I s')
    (hsim : ∀ s a s', I s → step s a = some s' →
      f s' = f s ∧ seen a = none ∨ ∃ b, step' (f s) b = some (f s') ∧ seen' b = seen a)
    {s s' : σ} {as : List α} (h : I s) (hrun : run step s as = some s') :
    ∃ bs, run step' (f s) bs = some (f s') ∧ bs.filterMap seen' = as.filterMap seen := by
  induction as generalizing s with
  | nil =>
    cases hrun
    exact ⟨[], rfl, rfl⟩
  | cons a as ih =>
    rw [run_cons, Option.bind_eq_some_iff] at hrun
    obtain ⟨t, ht, hr⟩ := hrun
    obtain ⟨bs, hbs, hseen⟩ := ih (hI s a t h ht) hr
    rcases hsim s a t h ht with ⟨hsame, hnone⟩ | ⟨b, hb, heq⟩
    · exact ⟨bs, hsame ▸ hbs, by rw [List.filterMap_cons_none hnone, hseen]⟩
    · refine ⟨b :: bs, ?_, by rw [List.filterMap_cons, List.filterMap_cons, heq, hseen]⟩
      rw [run_cons_of_step hb]
      exact hbs

/-- What the other machine keeps holds of the image. -/
theorem invariant_of_simulates {I : σ → Prop} {J : τ → Prop} {f : σ → τ}
    (hI : ∀ s a s', I s → step s a = some s' → I s')
    (hsim : ∀ s a s', I s → step s a = some s' → f s' = f s ∨ ∃ b, step' (f s) b = some (f s'))
    (hJ : ∀ t b t', J t → step' t b = some t' → J t') {s s' : σ} {as : List α} (h : I s) (h0 : J (f s))
    (hrun : run step s as = some s') : J (f s') := by
  induction as generalizing s with
  | nil =>
    cases hrun
    exact h0
  | cons a as ih =>
    rw [run_cons, Option.bind_eq_some_iff] at hrun
    obtain ⟨t, ht, hr⟩ := hrun
    refine ih (hI s a t h ht) ?_ hr
    rcases hsim s a t h ht with hsame | ⟨b, hb⟩
    · rwa [hsame]
    · exact hJ (f s) b (f t) h0 hb

end

end Machine
