import Mathlib.Data.List.Nodup
/-!
# Insertion-ordered dictionaries

A `Dict κ α` is a list of entries with pairwise distinct keys, kept in the order in which
the keys were first set: assigning to an existing key changes its value in place, a new key
goes to the end. The distinctness of the keys is a field, so no operation re-proves it.

| here | Python |
| --- | --- |
| `d.get? k`      | `d.get(k)` |
| `d.getD k a`    | `d.get(k, a)`, and reading a `defaultdict` |
| `d.set k a`     | `d[k] = a` |
| `d.erase k`     | `d.pop(k, None)` |
| `d.update e`    | `{**d, **e}` |
| `Dict.ofList l` | a dict display or comprehension: a later entry overrides an earlier one |
-/

/-- A finite map with distinct keys in insertion order. -/
structure Dict (κ α : Type) where
  entries : List (κ × α)
  nodup : (entries.map Prod.fst).Nodup
deriving DecidableEq

namespace Dict

variable {κ α : Type} [DecidableEq κ]

/-- First value stored under `k`. -/
def look (k : κ) : List (κ × α) → Option α
  | [] => none
  | (k', a) :: l => if k' = k then some a else look k l

/-- Overwrite in place, or append. -/
def put (k : κ) (a : α) : List (κ × α) → List (κ × α)
  | [] => [(k, a)]
  | (k', a') :: l => if k' = k then (k, a) :: l else (k', a') :: put k a l

theorem keys_put (k : κ) (a : α) (l : List (κ × α)) :
    (put k a l).map Prod.fst =
      if k ∈ l.map Prod.fst then l.map Prod.fst else l.map Prod.fst ++ [k] := by
  induction l with
  | nil => simp [put]
  | cons e l ih =>
    obtain ⟨k', a'⟩ := e
    by_cases h : k' = k
    · simp [put, h]
    · have h' : ¬ k = k' := fun he => h he.symm
      simp only [put, h, if_false, List.map_cons, ih, List.mem_cons, h', false_or]
      split <;> simp

/-- A new key comes last. -/
theorem put_of_notMem {k : κ} (a : α) {l : List (κ × α)} (h : k ∉ l.map Prod.fst) : put k a l = l ++ [(k, a)] := by
  induction l with
  | nil => rfl
  | cons e l ih =>
    obtain ⟨k', a'⟩ := e
    rw [List.map_cons, List.mem_cons, not_or] at h
    rw [put, if_neg (Ne.symm h.1), ih h.2, List.cons_append]

theorem nodup_put (k : κ) (a : α) {l : List (κ × α)} (h : (l.map Prod.fst).Nodup) :
    ((put k a l).map Prod.fst).Nodup := by
  rw [keys_put]
  split
  · exact h
  · rename_i hk
    refine List.nodup_append.2 ⟨h, by simp, ?_⟩
    rintro x hx y hy rfl
    exact hk (List.mem_singleton.1 hy ▸ hx)

theorem look_put (k j : κ) (a : α) (l : List (κ × α)) :
    look j (put k a l) = if k = j then some a else look j l := by
  induction l with
  | nil => simp [put, look]
  | cons e l ih =>
    obtain ⟨k', a'⟩ := e
    by_cases h : k' = k
    · subst h
      simp only [put, if_true, look]
      split <;> rfl
    · simp only [put, h, if_false, look, ih]
      by_cases hj : k' = j
      · have hkj : ¬ k = j := fun he => h (hj.trans he.symm)
        simp [hj, hkj]
      · simp [hj]

def empty : Dict κ α := ⟨[], List.nodup_nil⟩

instance : Inhabited (Dict κ α) := ⟨empty⟩

def get? (d : Dict κ α) (k : κ) : Option α := look k d.entries

def getD (d : Dict κ α) (k : κ) (a : α) : α := (d.get? k).getD a

def set (d : Dict κ α) (k : κ) (a : α) : Dict κ α := ⟨put k a d.entries, nodup_put k a d.nodup⟩

def erase (d : Dict κ α) (k : κ) : Dict κ α :=
  ⟨d.entries.filter fun e => decide (e.1 ≠ k),
    d.nodup.sublist (List.Sublist.map Prod.fst List.filter_sublist)⟩

def contains (d : Dict κ α) (k : κ) : Bool := (d.get? k).isSome

/-- Set the entries of `l` one after another. -/
def setAll (d : Dict κ α) (l : List (κ × α)) : Dict κ α := l.foldl (fun d e => d.set e.1 e.2) d

def update (d e : Dict κ α) : Dict κ α := d.setAll e.entries

def ofList (l : List (κ × α)) : Dict κ α := empty.setAll l

@[simp] theorem get?_empty (k : κ) : (empty : Dict κ α).get? k = none := rfl

@[simp] theorem get?_set (d : Dict κ α) (k j : κ) (a : α) :
    (d.set k a).get? j = if k = j then some a else d.get? j := look_put k j a d.entries

@[simp] theorem getD_set (d : Dict κ α) (k j : κ) (a b : α) :
    (d.set k a).getD j b = if k = j then a else d.getD j b := by
  simp only [getD, get?_set]
  split <;> rfl

theorem look_filter_ne (k j : κ) (l : List (κ × α)) :
    look j (l.filter fun e => decide (e.1 ≠ k)) = if k = j then none else look j l := by
  induction l with
  | nil => simp [look]
  | cons e l ih =>
    obtain ⟨k', a⟩ := e
    by_cases hk : k' = k
    · subst hk
      simp only [List.filter_cons, ne_eq, not_true_eq_false, decide_false, Bool.false_eq_true, if_false,
        ih, look]
      split <;> rfl
    · simp only [List.filter_cons, ne_eq, hk, not_false_eq_true, decide_true, if_true, look, ih]
      by_cases hj : k' = j
      · have hkj : ¬ k = j := fun he => hk (hj.trans he.symm)
        simp [hj, hkj]
      · simp [hj]

@[simp] theorem get?_erase (d : Dict κ α) (k j : κ) :
    (d.erase k).get? j = if k = j then none else d.get? j := look_filter_ne k j d.entries

@[simp] theorem getD_empty (k : κ) (a : α) : (empty : Dict κ α).getD k a = a := rfl

@[simp] theorem getD_erase (d : Dict κ α) (k j : κ) (a : α) :
    (d.erase k).getD j a = if k = j then a else d.getD j a := by
  simp only [getD, get?_erase]
  split <;> rfl

theorem look_append (k : κ) (l m : List (κ × α)) : look k (l ++ m) = (look k l).or (look k m) := by
  induction l with
  | nil => rfl
  | cons e l ih =>
    simp only [List.cons_append, look, ih]
    split <;> rfl

theorem look_eq_none {k : κ} {l : List (κ × α)} (h : k ∉ l.map Prod.fst) : look k l = none := by
  induction l with
  | nil => rfl
  | cons e l ih =>
    simp only [List.map_cons, List.mem_cons, not_or] at h
    have hne : ¬ e.1 = k := fun he => h.1 he.symm
    simp only [look, hne, if_false]
    exact ih h.2

theorem mem_of_look {k : κ} {a : α} {l : List (κ × α)} (h : look k l = some a) : (k, a) ∈ l := by
  induction l with
  | nil => cases h
  | cons e l ih =>
    simp only [look] at h
    split at h
    · rename_i he
      cases h
      exact he ▸ List.mem_cons_self
    · exact List.mem_cons_of_mem e (ih h)

/-- With distinct keys every entry is found. -/
theorem look_of_mem {l : List (κ × α)} (h : (l.map Prod.fst).Nodup) {e : κ × α} (he : e ∈ l) :
    look e.1 l = some e.2 := by
  induction l with
  | nil => cases he
  | cons e' l ih =>
    rw [List.map_cons, List.nodup_cons] at h
    rcases List.mem_cons.1 he with rfl | hmem
    · simp only [look, if_true]
    · have hne : ¬ e'.1 = e.1 := by
        intro heq
        exact h.1 (heq ▸ List.mem_map_of_mem hmem)
      simp only [look, hne, if_false]
      exact ih h.2 hmem

/-- With distinct keys the direction of the search does not matter. -/
theorem look_reverse {l : List (κ × α)} (h : (l.map Prod.fst).Nodup) (k : κ) :
    look k l.reverse = look k l := by
  induction l with
  | nil => rfl
  | cons e l ih =>
    simp only [List.map_cons, List.nodup_cons] at h
    rw [List.reverse_cons, look_append, ih h.2]
    by_cases hk : e.1 = k
    · have hno : look k l = none := look_eq_none (hk ▸ h.1)
      simp [look, hk, hno]
    · simp [look, hk]

/-- Of several settings of one key, the last one counts. -/
theorem get?_setAll (d : Dict κ α) (l : List (κ × α)) (j : κ) :
    (d.setAll l).get? j = (look j l.reverse).or (d.get? j) := by
  induction l generalizing d with
  | nil => rfl
  | cons e l ih =>
    have hstep : d.setAll (e :: l) = (d.set e.1 e.2).setAll l := rfl
    rw [hstep, ih, List.reverse_cons, look_append, get?_set, Option.or_assoc]
    simp only [look]
    split <;> rfl

theorem get?_update (d e : Dict κ α) (k : κ) : (d.update e).get? k = (e.get? k).or (d.get? k) := by
  rw [update, get?_setAll, look_reverse e.nodup]
  rfl

theorem get?_ofList (l : List (κ × α)) (k : κ) : (ofList l).get? k = look k l.reverse := by
  rw [ofList, get?_setAll, get?_empty, Option.or_none]

end Dict
