import Mathlib.Data.List.TakeDrop
/-!
# Slices of Python lists

| here | there |
| --- | --- |
| `slice`     | `l[start:stop]` |
| `sliceFrom` | `l[start:]` |
| `sliceTo`   | `l[:stop]` |

A bound below 0 counts from the end, and one that is not in the list is the end that it lies beyond.
-/
namespace Py

variable {α β : Type}

def slice (l : List α) (start stop : Int) : List α :=
  let bound (k : Int) : Nat := (min (if k < 0 then k + l.length else k) l.length).toNat
  (l.take (bound stop)).drop (bound start)

def sliceFrom (l : List α) (start : Int) : List α :=
  if start < 0 then l.drop (l.length - start.natAbs) else l.drop start.toNat

def sliceTo (l : List α) (stop : Int) : List α :=
  if stop < 0 then l.take (l.length - stop.natAbs) else l.take stop.toNat

theorem mem_of_slice {l : List α} {start stop : Int} {a : α} (h : a ∈ slice l start stop) : a ∈ l :=
  List.mem_of_mem_take (List.mem_of_mem_drop h)

/-! ## From an index on -/

theorem mem_of_sliceFrom {l : List α} {start : Int} {a : α} (h : a ∈ sliceFrom l start) : a ∈ l := by
  unfold sliceFrom at h
  split at h
  · exact List.mem_of_mem_drop h
  · exact List.mem_of_mem_drop h

theorem map_sliceFrom (f : α → β) (l : List α) (start : Int) :
    (sliceFrom l start).map f = sliceFrom (l.map f) start := by
  unfold sliceFrom
  split <;> simp

@[simp] theorem sliceFrom_neg_zero (l : List α) : sliceFrom l (-((0 : Nat) : Int)) = l := by
  simp [sliceFrom]

theorem sliceFrom_neg_succ (l : List α) (k : Nat) :
    sliceFrom l (-((k + 1 : Nat) : Int)) = l.drop (l.length - (k + 1)) := by
  have hneg : -((k + 1 : Nat) : Int) < 0 := by omega
  rw [sliceFrom, if_pos hneg]
  congr 2

theorem getLast?_sliceFrom {l : List α} (hne : l ≠ []) {limit : Nat} (hlimit : 1 ≤ limit) :
    (sliceFrom l (-(limit : Int))).getLast? = some (l.getLast hne) := by
  obtain ⟨k, rfl⟩ := Nat.exists_eq_succ_of_ne_zero (Nat.one_le_iff_ne_zero.1 hlimit)
  have hpos := List.length_pos_iff.2 hne
  rw [sliceFrom_neg_succ, List.getLast?_drop, if_neg (by omega), List.getLast?_eq_some_getLast hne]

/-! ## Up to an index -/

theorem sliceTo_sublist (l : List α) (stop : Int) : (sliceTo l stop).Sublist l := by
  unfold sliceTo
  split
  · exact List.take_sublist _ _
  · exact List.take_sublist _ _

theorem map_sliceTo (f : α → β) (l : List α) (stop : Int) :
    (sliceTo l stop).map f = sliceTo (l.map f) stop := by
  unfold sliceTo
  split <;> simp

@[simp] theorem sliceTo_natCast (l : List α) (k : Nat) : sliceTo l (k : Int) = l.take k := by
  simp [sliceTo, Int.not_lt.2 (Int.natCast_nonneg k)]

end Py
