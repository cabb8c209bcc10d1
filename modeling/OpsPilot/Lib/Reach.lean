import Mathlib.Logic.Relation
/-!
# Reachability within a set

When does a property hold of everything that a point reaches? `reach_iff` answers by the edges
that leave the points with the property, `reached_iff` does so against the edges.
-/
namespace Relation

variable {α : Type} {r : α → α → Prop} {a : α} {P : α → Prop}

/-- Everything `a` reaches has `P` exactly when no edge leaves `P` from a point that `a` reaches. -/
theorem reach_iff (ha : P a) :
    (∀ y, ReflTransGen r a y → P y) ↔ ∀ z, P z → ∀ y, ReflTransGen r a z → r z y → P y := by
  constructor
  · intro h z _ y hz hzy
    exact h y (hz.tail hzy)
  · intro h y hy
    -- along the path every point is reached and has `P`
    induction hy with
    | refl => exact ha
    | tail hz hzy ih => exact h _ ih _ hz hzy

theorem reached_iff (ha : P a) :
    (∀ y, ReflTransGen r y a → P y) ↔ ∀ z, P z → ∀ y, ReflTransGen r z a → r y z → P y := by
  have h := reach_iff (r := Function.swap r) ha
  simp only [reflTransGen_swap] at h
  exact h

/-- A path is empty or has a step. -/
theorem reflTransGen_or_iff {y : α} :
    ReflTransGen r y a ∨ ReflTransGen r a y ↔ y = a ∨ TransGen r y a ∨ TransGen r a y := by
  rw [reflTransGen_iff_eq_or_transGen, reflTransGen_iff_eq_or_transGen]
  constructor
  · rintro ((rfl | h) | (rfl | h))
    · exact .inl rfl
    · exact .inr (.inl h)
    · exact .inl rfl
    · exact .inr (.inr h)
  · rintro (rfl | h | h)
    · exact .inl (.inl rfl)
    · exact .inl (.inr h)
    · exact .inr (.inr h)

end Relation
