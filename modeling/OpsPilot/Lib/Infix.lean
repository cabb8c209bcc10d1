import Mathlib.Data.List.Infix
/-!
# Where a text can occur in one that is put together

`d` is looked for in a text made of parts. A character that `d` does not have separates what is on its
two sides, and an escape that `d` has nothing of hides what it stands for; so `d` occurs in the whole
exactly if it occurs in a part. `splitFirst` is the reader that splits at the first occurrence.
-/
namespace Infix

variable {α β : Type} {d : List α}

/-! ## Separators -/

theorem prefix_append_cons {x : α} (hx : x ∉ d) {a b : List α} : d <+: a ++ x :: b ↔ d <+: a := by
  constructor
  · intro h
    rcases List.prefix_or_prefix_of_prefix h (List.prefix_append a _) with hd | ⟨e, rfl⟩
    · exact hd
    · rw [List.prefix_append_right_inj] at h
      cases e with
      | nil => rw [List.append_nil]
      | cons y e =>
        obtain rfl := (List.cons_prefix_cons.1 h).1
        exact absurd (List.mem_append_right _ List.mem_cons_self) hx
  · intro h
    exact h.trans (List.prefix_append _ _)

theorem infix_cons_of_notMem (hne : d ≠ []) {x : α} (hx : x ∉ d) {l : List α} : d <:+: x :: l ↔ d <:+: l := by
  rw [List.infix_cons_iff, or_iff_right]
  intro hprefix
  exact hne (List.prefix_nil.1 ((prefix_append_cons (a := []) hx).1 hprefix))

/-- A character that `d` does not have is on neither side of an occurrence. -/
theorem infix_append_cons {x : α} (hx : x ∉ d) {a b : List α} : d <:+: a ++ x :: b ↔ d <:+: a ∨ d <:+: b := by
  by_cases hne : d = []
  · simp [hne]
  induction a with
  | nil =>
    rw [List.nil_append, infix_cons_of_notMem hne hx, List.infix_nil]
    exact (or_iff_right hne).symm
  | cons y a ih =>
    rw [List.cons_append, List.infix_cons_iff, ih, List.infix_cons_iff, ← List.cons_append, prefix_append_cons hx,
      or_assoc]

theorem infix_append_left (hne : d ≠ []) {sep b : List α} (hsep : ∀ x ∈ sep, x ∉ d) : d <:+: sep ++ b ↔ d <:+: b := by
  induction sep with
  | nil => rfl
  | cons x sep ih =>
    rw [List.forall_mem_cons] at hsep
    rw [List.cons_append, infix_cons_of_notMem hne hsep.1, ih hsep.2]

theorem infix_append_sep (hne : d ≠ []) {sep a b : List α} (hsep : ∀ x ∈ sep, x ∉ d) (hcons : sep ≠ []) :
    d <:+: a ++ (sep ++ b) ↔ d <:+: a ∨ d <:+: b := by
  cases sep with
  | nil => exact absurd rfl hcons
  | cons x sep =>
    rw [List.forall_mem_cons] at hsep
    rw [List.cons_append, infix_append_cons hsep.1, infix_append_left hne hsep.2]

theorem infix_intercalate (hne : d ≠ []) {sep : List α} (hsep : ∀ x ∈ sep, x ∉ d) (hcons : sep ≠ [])
    (parts : List (List α)) : d <:+: sep.intercalate parts ↔ ∃ p ∈ parts, d <:+: p := by
  induction parts with
  | nil =>
    rw [List.intercalate_nil, List.infix_nil]
    simp [hne]
  | cons p parts ih =>
    cases parts with
    | nil => simp
    | cons p' parts =>
      rw [List.intercalate_cons_cons, List.append_assoc, infix_append_sep hne hsep hcons, ih]
      simp

/-- A text is split in one way at the first of the separators. -/
theorem append_cons_inj {x : α} {a b c d : List α} (ha : x ∉ a) (hb : x ∉ b) (h : a ++ x :: c = b ++ x :: d) :
    a = b ∧ c = d := by
  induction a generalizing b with
  | nil =>
    cases b with
    | nil => exact ⟨rfl, (List.cons.inj h).2⟩
    | cons y b => exact absurd ((List.cons.inj h).1 ▸ List.mem_cons_self) hb
  | cons z a ih =>
    rw [List.mem_cons, not_or] at ha
    cases b with
    | nil => exact absurd (List.cons.inj h).1.symm ha.1
    | cons y b =>
      rw [List.mem_cons, not_or] at hb
      obtain ⟨rfl, hrest⟩ := List.cons.inj h
      obtain ⟨rfl, hcd⟩ := ih ha.2 hb.2 hrest
      exact ⟨rfl, hcd⟩

/-! ## Escapes -/

/-- What `d` consists of is kept; anything else is kept, or escaped by something that `d` has no part in and that
`d` does not begin in. -/
structure Escapes (d : List α) (f : α → List α) : Prop where
  kept : ∀ a ∈ d, f a = [a]
  escaped : ∀ a, f a = [a] ∨ ∃ e rest, f a = e :: rest ∧ e ∉ d ∧ ∀ x ∈ rest, d.head? ≠ some x

theorem prefix_flatMap {f : α → List α} (hkept : ∀ a ∈ d, f a = [a])
    (hescaped : ∀ a, f a = [a] ∨ ∃ e rest, f a = e :: rest ∧ e ∉ d) {l : List α} : d <+: l.flatMap f ↔ d <+: l := by
  induction l generalizing d with
  | nil => rfl
  | cons a l ih =>
    cases d with
    | nil => simp
    | cons x d =>
      have htail : d <+: l.flatMap f ↔ d <+: l := by
        refine ih (fun b hb => hkept b (List.mem_cons_of_mem x hb)) fun b => (hescaped b).imp_right ?_
        rintro ⟨e, rest, hb, he⟩
        exact ⟨e, rest, hb, fun h => he (List.mem_cons_of_mem x h)⟩
      rw [List.flatMap_cons]
      rcases hescaped a with ha | ⟨e, rest, ha, he⟩
      · rw [ha, List.singleton_append, List.cons_prefix_cons, List.cons_prefix_cons, htail]
      · rw [ha, List.cons_append, List.cons_prefix_cons, List.cons_prefix_cons]
        constructor
        · rintro ⟨rfl, -⟩
          exact absurd List.mem_cons_self he
        · rintro ⟨rfl, -⟩
          rw [hkept x List.mem_cons_self] at ha
          rw [← (List.cons.inj ha).1] at he
          exact absurd List.mem_cons_self he

/-- An escaped text has `d` where the text itself has it. -/
theorem infix_flatMap (hne : d ≠ []) {f : α → List α} (h : Escapes d f) {l : List α} :
    d <:+: l.flatMap f ↔ d <:+: l := by
  have hprefix : ∀ l : List α, d <+: l.flatMap f ↔ d <+: l := by
    intro l
    refine prefix_flatMap h.kept fun a => (h.escaped a).imp_right ?_
    rintro ⟨e, rest, ha, he, -⟩
    exact ⟨e, rest, ha, he⟩
  induction l with
  | nil => rfl
  | cons a l ih =>
    have hhead := hprefix (a :: l)
    rw [List.flatMap_cons] at hhead ⊢
    rw [List.infix_cons_iff, ← hhead]
    refine Iff.trans ?_ (or_congr_right ih)
    rcases h.escaped a with ha | ⟨e, rest, ha, he, hrest⟩
    · rw [ha, List.singleton_append, List.infix_cons_iff]
    · rw [ha, List.cons_append, infix_cons_of_notMem hne he]
      have hskip : d <:+: rest ++ l.flatMap f ↔ d <:+: l.flatMap f := by
        clear ha
        induction rest with
        | nil => rfl
        | cons x rest ihr =>
          rw [List.forall_mem_cons] at hrest
          rw [List.cons_append, List.infix_cons_iff, ihr hrest.2, or_iff_right]
          intro hstart
          obtain ⟨y, d', rfl⟩ := List.exists_cons_of_ne_nil hne
          exact hrest.1 (congrArg some (List.cons_prefix_cons.1 hstart).1)
      rw [hskip, or_iff_right]
      intro hstart
      exact hne (List.prefix_nil.1 ((prefix_append_cons (a := []) he).1 hstart))

/-! ## Around a part -/

/-- `t` stands between `left` and `right`, and has a part in something that `P` holds of. -/
inductive Overlaps (P : List α → Prop) (left t right : List α) : Prop
  | within {m : List α} (hm : m <:+: t) (h : P m)
  | finished {a b : List α} (ha : a <:+ left) (hb : b <+: t) (hne : b ≠ []) (h : P (a ++ b))
  | begun {b c : List α} (hb : b <:+ t) (hne : b ≠ []) (hc : c <+: right) (h : P (b ++ c))
  | over {a c : List α} (ha : a <:+ left) (hane : a ≠ []) (hc : c <+: right) (hcne : c ≠ []) (h : P (a ++ (t ++ c)))

/-- The same, said by where that stands. -/
theorem overlaps_iff {P : List α → Prop} (hnil : ¬ P []) {left t right : List α} :
    Overlaps P left t right ↔ ∃ p m q, left ++ (t ++ right) = p ++ (m ++ q) ∧ P m ∧
      p.length < left.length + t.length ∧ left.length < p.length + m.length := by
  constructor
  · rintro (⟨⟨p, q, rfl⟩, h⟩ | ⟨⟨p, rfl⟩, ⟨q, rfl⟩, hne, h⟩ | ⟨⟨p, rfl⟩, hne, ⟨q, rfl⟩, h⟩ |
      ⟨⟨p, rfl⟩, hane, ⟨q, rfl⟩, hcne, h⟩)
    · rename_i m
      have hpos : 0 < m.length := List.length_pos_iff.2 fun hm => hnil (hm ▸ h)
      refine ⟨left ++ p, m, q ++ right, by simp only [List.append_assoc], h, ?_⟩
      simp only [List.length_append]
      omega
    · rename_i a b
      have hpos := List.length_pos_iff.2 hne
      refine ⟨p, a ++ b, q ++ right, by simp only [List.append_assoc], h, ?_⟩
      simp only [List.length_append]
      omega
    · rename_i b c
      have hpos := List.length_pos_iff.2 hne
      refine ⟨left ++ p, b ++ c, q, by simp only [List.append_assoc], h, ?_⟩
      simp only [List.length_append]
      omega
    · rename_i a c
      have hapos := List.length_pos_iff.2 hane
      have hcpos := List.length_pos_iff.2 hcne
      refine ⟨p, a ++ (t ++ c), q, by simp only [List.append_assoc], h, ?_⟩
      simp only [List.length_append]
      omega
  · rintro ⟨p, m, q, heq, h, hbefore, hbehind⟩
    rcases List.append_eq_append_iff.1 heq with ⟨p', rfl, heq'⟩ | ⟨a, rfl, heq'⟩
    · -- it begins in `t`
      rw [List.length_append] at hbefore
      rcases List.append_eq_append_iff.1 heq' with ⟨x, rfl, -⟩ | ⟨b, rfl, heq''⟩
      · rw [List.length_append] at hbefore
        omega
      · rcases List.append_eq_append_iff.1 heq'' with ⟨q', rfl, -⟩ | ⟨c, rfl, rfl⟩
        · exact .within ⟨p', q', List.append_assoc ..⟩ h
        · refine .begun (List.suffix_append p' b) ?_ (List.prefix_append c q) h
          rintro rfl
          rw [List.append_nil] at hbefore
          omega
    · -- it begins in `left`
      rw [List.length_append] at hbefore hbehind
      rcases List.append_eq_append_iff.1 heq' with ⟨x, rfl, -⟩ | ⟨m', rfl, heq''⟩
      · rw [List.length_append] at hbehind
        omega
      · rw [List.length_append] at hbehind
        have hm' : m' ≠ [] := by
          rintro rfl
          exact lt_irrefl _ hbehind
        rcases List.append_eq_append_iff.1 heq'' with ⟨c, rfl, rfl⟩ | ⟨y, rfl, -⟩
        · by_cases hc : c = []
          · subst hc
            rw [List.append_nil] at h hm'
            exact .finished (List.suffix_append p a) List.prefix_rfl hm' h
          by_cases ha : a = []
          · subst ha
            refine .begun List.suffix_rfl ?_ (List.prefix_append c q) h
            rintro rfl
            exact lt_irrefl _ hbefore
          · exact .over (List.suffix_append p a) ha (List.prefix_append c q) hc h
        · exact .finished (List.suffix_append p a) (List.prefix_append m' y) hm' h

/-! ## Splitting at the first occurrence -/

variable [DecidableEq α]

/-- What is before the first occurrence of `d`, and what is after it. -/
def splitFirst (d : List α) : List α → Option (List α × List α)
  | [] => if d = [] then some ([], []) else none
  | a :: l =>
    if d <+: a :: l then some ([], (a :: l).drop d.length)
    else (splitFirst d l).map fun (before, after) => (a :: before, after)

theorem splitFirst_self (hne : d ≠ []) (after : List α) : splitFirst d (d ++ after) = some ([], after) := by
  obtain ⟨x, d, rfl⟩ := List.exists_cons_of_ne_nil hne
  rw [List.cons_append, splitFirst, ← List.cons_append, if_pos (List.prefix_append _ _), List.drop_left]

theorem splitFirst_cons {a : α} {l : List α} (h : ¬ d <+: a :: l) :
    splitFirst d (a :: l) = (splitFirst d l).map fun (before, after) => (a :: before, after) := by
  rw [splitFirst, if_neg h]

/-- A `d` that is set off from what is before it is the first one exactly if there is none before it. -/
theorem splitFirst_iff (hne : d ≠ []) {sep : α} (hsep : sep ∉ d) {before after : List α} :
    splitFirst d (before ++ sep :: (d ++ after)) = some (before ++ [sep], after) ↔ ¬ d <:+: before := by
  induction before with
  | nil =>
    have hstart : ¬ d <+: sep :: (d ++ after) := fun h =>
      hne (List.prefix_nil.1 ((prefix_append_cons (a := []) hsep).1 h))
    rw [List.nil_append, splitFirst_cons hstart, splitFirst_self hne, List.infix_nil]
    exact iff_of_true rfl hne
  | cons a before ih =>
    rw [List.infix_cons_iff, not_or, ← ih]
    by_cases hstart : d <+: a :: before
    · have hlong : d <+: a :: (before ++ sep :: (d ++ after)) := (prefix_append_cons (a := a :: before) hsep).2 hstart
      rw [List.cons_append, splitFirst, if_pos hlong]
      simp [hstart]
    · have hlong : ¬ d <+: a :: (before ++ sep :: (d ++ after)) := fun h =>
        hstart ((prefix_append_cons (a := a :: before) hsep).1 h)
      rw [List.cons_append, splitFirst_cons hlong]
      simp only [hstart, not_false_eq_true, true_and, List.cons_append]
      constructor
      · intro h
        obtain ⟨⟨before', after'⟩, hsplit, heq⟩ := Option.map_eq_some_iff.1 h
        simp only [Prod.mk.injEq, List.cons.injEq, true_and] at heq
        rw [hsplit, heq.1, heq.2]
      · intro h
        rw [h]
        rfl

end Infix
