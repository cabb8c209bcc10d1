import Mathlib.Order.Defs.Unbundled
/-!
# Procedures that may raise

A computation on a state that returns or raises; what it has done to the state by then stays done, also
when it raises. Two things are asked of a procedure: `Keeps` is about what it does to the state, `Meets`
about what comes back.
-/

abbrev Procedure (E W α : Type) := ExceptT E (StateM W) α

namespace Procedure

variable {E W α β : Type}

/-- A call of it: the result, and the state after it. -/
def call (x : Procedure E W α) (w : W) : Except E α × W := x.run.run w

def ofFunction (f : W → Except E α × W) : Procedure E W α := ExceptT.mk f

@[simp] theorem call_ofFunction (f : W → Except E α × W) (w : W) : (ofFunction f).call w = f w := rfl


theorem call_bind_ok {x : Procedure E W α} {w w' : W} {a : α} (h : x.call w = (.ok a, w'))
    (f : α → Procedure E W β) : (x >>= f).call w = (f a).call w' := by
  show (ExceptT.bindCont f (x.call w).1).run (x.call w).2 = _
  rw [h]
  rfl

theorem call_bind_error {x : Procedure E W α} {w w' : W} {e : E} (h : x.call w = (.error e, w'))
    (f : α → Procedure E W β) : (x >>= f).call w = (.error e, w') := by
  show (ExceptT.bindCont f (x.call w).1).run (x.call w).2 = _
  rw [h]
  rfl

/-- Raises or returns what `r` says, and does nothing. -/
def ofExcept (r : Except E α) : Procedure E W α := ofFunction fun w => (r, w)

/-! ## What a procedure does to the state -/

/-- Whatever happens, the states before and after are related. -/
def Keeps (R : W → W → Prop) (x : Procedure E W α) : Prop := ∀ w, R w (x.call w).2

section
variable {R : W → W → Prop}

theorem Keeps.ofExcept [Std.Refl R] (r : Except E α) : Keeps R (ofExcept r : Procedure E W α) :=
  fun w => Std.Refl.refl w

theorem Keeps.pure [Std.Refl R] (a : α) : Keeps R (pure a : Procedure E W α) := fun w => Std.Refl.refl w

theorem Keeps.bind [IsTrans W R] {x : Procedure E W α} {f : α → Procedure E W β} (hx : Keeps R x)
    (hf : ∀ a, Keeps R (f a)) : Keeps R (x >>= f) := by
  intro w
  have hfirst := hx w
  rcases hcall : x.call w with ⟨e | a, w'⟩
  · rw [hcall] at hfirst
    rw [call_bind_error hcall]
    exact hfirst
  · rw [hcall] at hfirst
    rw [call_bind_ok hcall]
    exact IsTrans.trans _ _ _ hfirst (hf a w')

theorem Keeps.map {x : Procedure E W α} (f : α → β) (hx : Keeps R x) : Keeps R (f <$> x) := by
  intro w
  have hfirst := hx w
  rw [map_eq_pure_bind]
  rcases hcall : x.call w with ⟨e | a, w'⟩
  · rw [hcall] at hfirst
    rw [call_bind_error hcall]
    exact hfirst
  · rw [hcall] at hfirst
    rw [call_bind_ok hcall]
    exact hfirst

end

/-! ## What comes back -/

/-- In every state: what is returned is such, and what is raised is such. -/
structure Meets (P : α → Prop) (Q : E → Prop) (x : Procedure E W α) : Prop where
  returns : ∀ w a, (x.call w).1 = .ok a → P a
  raises : ∀ w e, (x.call w).1 = .error e → Q e

section
variable {P P' : α → Prop} {Q Q' : E → Prop} {R : β → Prop}

theorem Meets.pure {a : α} (h : P a) : Meets P Q (pure a : Procedure E W α) where
  returns w b hb := by
    obtain rfl : a = b := Except.ok.inj hb
    exact h
  raises w e he := by cases he

theorem Meets.ofFunction {f : W → Except E α × W} (hok : ∀ w a, (f w).1 = .ok a → P a)
    (herror : ∀ w e, (f w).1 = .error e → Q e) : Meets P Q (ofFunction f) := ⟨hok, herror⟩

/-- Whatever is computed, `g` of it is returned. -/
theorem Meets.ofMap {f : W → Except E α} {g : α → β} {next : W → W} (h : ∀ a, R (g a)) :
    Meets R (fun _ => True) (Procedure.ofFunction fun w => ((f w).map g, next w)) := by
  refine .ofFunction (fun w b hb => ?_) fun _ _ _ => trivial
  cases hf : f w with
  | error e =>
    rw [hf] at hb
    cases hb
  | ok a =>
    rw [hf] at hb
    cases hb
    exact h a

theorem Meets.ofExcept {r : Except E α} (hok : ∀ a, r = .ok a → P a) (herror : ∀ e, r = .error e → Q e) :
    Meets P Q (ofExcept r : Procedure E W α) := ⟨fun _ => hok, fun _ => herror⟩

theorem Meets.bind {x : Procedure E W α} {f : α → Procedure E W β} (hx : Meets P Q x)
    (hf : ∀ a, P a → Meets R Q (f a)) : Meets R Q (x >>= f) where
  returns w b hb := by
    rcases hcall : x.call w with ⟨e | a, w'⟩
    · rw [call_bind_error hcall] at hb
      cases hb
    · rw [call_bind_ok hcall] at hb
      exact (hf a (hx.returns w a (congrArg Prod.fst hcall))).returns w' b hb
  raises w e he := by
    rcases hcall : x.call w with ⟨e' | a, w'⟩
    · rw [call_bind_error hcall] at he
      obtain rfl : e' = e := Except.error.inj he
      exact hx.raises w e' (congrArg Prod.fst hcall)
    · rw [call_bind_ok hcall] at he
      exact (hf a (hx.returns w a (congrArg Prod.fst hcall))).raises w' e he

theorem Meets.map {x : Procedure E W α} {f : α → β} (hx : Meets P Q x) (hf : ∀ a, P a → R (f a)) :
    Meets R Q (f <$> x) := by
  rw [map_eq_pure_bind]
  exact hx.bind fun a ha => .pure (hf a ha)

theorem Meets.mono {x : Procedure E W α} (h : Meets P Q x) (hP : ∀ a, P a → P' a) (hQ : ∀ e, Q e → Q' e) :
    Meets P' Q' x :=
  ⟨fun w a ha => hP a (h.returns w a ha), fun w e he => hQ e (h.raises w e he)⟩

end

end Procedure
