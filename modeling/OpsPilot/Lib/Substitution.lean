import Mathlib.Data.List.Infix
import OpsPilot.Lib.Spans
/-!
# Substitution as `re.sub` does it

`tries` lists the ends of `ends` in the order in which a backtracking engine comes to them, so its first
one is where the match ends. `Replaced P repl s out` says of a substitution what does not depend on that
order: from the left, texts with `P` are replaced, and a character is kept only if no text with `P` begins
there. `Replaced.not_match` says when nothing with `P` is left or newly formed.
-/
namespace Regex

/-- `closure` for a greedy repetition: one more round is tried before the end. -/
def rounds (step : Pos → List Pos) : Nat → Pos → List Pos
  | 0, p => [p]
  | fuel + 1, p => ((step p).filter fun q => q.2.length < p.2.length).flatMap (rounds step fuel) ++ [p]

theorem mem_rounds {step step' : Pos → List Pos} (hstep : ∀ p q, q ∈ step p ↔ q ∈ step' p) {fuel : Nat} {p q : Pos} :
    q ∈ rounds step fuel p ↔ q ∈ closure step' fuel p := by
  induction fuel generalizing p with
  | zero => rfl
  | succ fuel ih =>
    rw [rounds, closure, List.mem_append, List.mem_singleton, List.mem_cons, or_comm, List.mem_flatMap,
      List.mem_flatMap]
    refine or_congr Iff.rfl (exists_congr fun a => and_congr ?_ ih)
    rw [List.mem_filter, List.mem_filter, hstep]

section
variable [Unicode]

def tries : Regex → Pos → List Pos
  | .eps, p => [p]
  | .char f, (_, c :: cs) => if f c then [(some c, cs)] else []
  | .char _, (_, []) => []
  | .seq r s, p => (tries r p).flatMap (tries s)
  | .alt r s, p => tries r p ++ tries s p
  | .star r, p => rounds (tries r) p.2.length p
  | .boundary, p => if atBoundary p then [p] else []

/-- Where the match that begins here ends. -/
def firstEnd (r : Regex) (p : Pos) : Option Pos := (tries r p).find? fun q => q.2.length < p.2.length

def subFrom (r : Regex) (repl : List Char) : Nat → Pos → List Char
  | 0, p => p.2
  | fuel + 1, p =>
    match firstEnd r p with
    | some q => repl ++ subFrom r repl fuel q
    | none =>
      match p.2 with
      | [] => []
      | c :: cs => c :: subFrom r repl fuel (some c, cs)

/-- `r.sub(repl, s)`, for an expression that matches no empty text -/
def sub (r : Regex) (repl s : String) : String :=
  String.ofList (subFrom r repl.toList s.toList.length (none, s.toList))

/-! ## The order decides nothing but where a match ends -/

theorem mem_tries (r : Regex) {p q : Pos} : q ∈ tries r p ↔ q ∈ ends r p := by
  induction r generalizing p q with
  | eps => rfl
  | char f =>
    obtain ⟨prev, cs⟩ := p
    cases cs with
    | nil => rfl
    | cons c cs => rfl
  | seq r s ihr ihs =>
    rw [tries, ends, List.mem_flatMap, List.mem_flatMap]
    exact exists_congr fun a => and_congr ihr ihs
  | alt r s ihr ihs => rw [tries, ends, List.mem_append, List.mem_append, ihr, ihs]
  | star r ih =>
    rw [tries, ends]
    exact mem_rounds fun _ _ => ih
  | boundary => rfl

theorem firstEnd_some {r : Regex} {P : List Char → Prop} (hr : Means r P) {p q : Pos} (h : firstEnd r p = some q) :
    ∃ m, p.2 = m ++ q.2 ∧ m ≠ [] ∧ P m := by
  obtain ⟨m, hcs, -, hm⟩ := (mem_ends r).1 ((mem_tries r).1 (List.mem_of_find?_eq_some h))
  refine ⟨m, hcs, ?_, (hr _ _ _).1 hm⟩
  rintro rfl
  have hlt : q.2.length < p.2.length := by simpa using List.find?_some h
  rw [hcs] at hlt
  exact absurd hlt (Nat.lt_irrefl _)

theorem firstEnd_none {r : Regex} {P : List Char → Prop} (hr : Means r P) {p : Pos} (h : firstEnd r p = none)
    {m : List Char} (hne : m ≠ []) (hm : m <+: p.2) : ¬ P m := by
  intro hP
  obtain ⟨rest, hcs⟩ := hm
  have hmem : (m.getLast?.or p.1, rest) ∈ tries r p :=
    (mem_tries r).2 ((mem_ends r).2 ⟨m, hcs.symm, rfl, (hr _ _ _).2 hP⟩)
  have hlen : rest.length < p.2.length := by
    rw [← hcs, List.length_append]
    have := List.length_pos_iff.2 hne
    omega
  exact absurd (decide_eq_true hlen) (List.find?_eq_none.1 h _ hmem)

end

/-! ## What a substitution does -/

inductive Replaced (P : List Char → Prop) (repl : List Char) : List Char → List Char → Prop
  | nil : Replaced P repl [] []
  | hit {m cs out : List Char} : P m → Replaced P repl cs out → Replaced P repl (m ++ cs) (repl ++ out)
  | miss {c : Char} {cs out : List Char} : (∀ m, m ≠ [] → m <+: c :: cs → ¬ P m) → Replaced P repl cs out →
      Replaced P repl (c :: cs) (c :: out)

theorem replaced_subFrom [Unicode] {r : Regex} {P : List Char → Prop} (hr : Means r P) (repl : List Char) {fuel : Nat}
    {p : Pos} (hfuel : p.2.length ≤ fuel) : Replaced P repl p.2 (subFrom r repl fuel p) := by
  induction fuel generalizing p with
  | zero =>
    have hnil : p.2 = [] := List.length_eq_zero_iff.1 (by omega)
    rw [subFrom, hnil]
    exact .nil
  | succ fuel ih =>
    rw [subFrom]
    split
    · rename_i q hq
      obtain ⟨m, hcs, hne, hm⟩ := firstEnd_some hr hq
      have hlen := List.length_pos_iff.2 hne
      rw [hcs, List.length_append] at hfuel
      rw [hcs]
      exact .hit hm (ih (by omega))
    · rename_i hnone
      split
      · rename_i hcs
        rw [hcs]
        exact .nil
      · rename_i c cs hcs
        rw [hcs, List.length_cons] at hfuel
        rw [hcs]
        refine .miss (fun m hne hm => ?_) (ih (p := (some c, cs)) (by simp only; omega))
        exact firstEnd_none hr hnone hne (hcs ▸ hm)

theorem replaced_sub [Unicode] {r : Regex} {P : List Char → Prop} (hr : Means r P) (repl s : String) :
    Replaced P repl.toList s.toList (sub r repl s).toList := by
  rw [sub, String.toList_ofList]
  exact replaced_subFrom (p := (none, s.toList)) hr repl.toList (Nat.le_refl _)

namespace Replaced

variable {P : List Char → Prop} {repl cs out : List Char}

/-- Up to the first replacement nothing changes. -/
theorem first (h : Replaced P repl cs out) : cs = out ∨ ∃ u m cs' out', P m ∧ cs = u ++ (m ++ cs') ∧
    out = u ++ (repl ++ out') ∧ Replaced P repl cs' out' := by
  induction h with
  | nil => exact .inl rfl
  | @hit m cs out hm h _ => exact .inr ⟨[], m, cs, out, hm, rfl, rfl, h⟩
  | @miss c cs out _ _ ih =>
    rcases ih with rfl | ⟨u, m, cs', out', hm, rfl, rfl, h⟩
    · exact .inl rfl
    · exact .inr ⟨c :: u, m, cs', out', hm, rfl, rfl, h⟩

theorem mem_of_mem (h : Replaced P repl cs out) {x : Char} (hx : x ∈ out) (hrepl : x ∉ repl) : x ∈ cs := by
  induction h with
  | nil => exact hx
  | hit _ _ ih => exact List.mem_append_right _ (ih ((List.mem_append.1 hx).resolve_left hrepl))
  | @miss c cs out _ _ ih =>
    rcases List.mem_cons.1 hx with rfl | hmem
    · exact List.mem_cons_self
    · exact List.mem_cons_of_mem _ (ih hmem)

/-- An occurrence begins in the first part or is in the second. -/
theorem infix_append_cases {a b m : List Char} (hm : m <:+: a ++ b) :
    (∃ a₁ a₂, a = a₁ ++ a₂ ∧ a₂ ≠ [] ∧ m <+: a₂ ++ b) ∨ m <:+: b := by
  induction a with
  | nil => exact .inr hm
  | cons c a ih =>
    rw [List.cons_append, List.infix_cons_iff] at hm
    rcases hm with hprefix | hinfix
    · exact .inl ⟨[], c :: a, rfl, List.cons_ne_nil _ _, hprefix⟩
    · refine (ih hinfix).imp_left ?_
      rintro ⟨a₁, a₂, rfl, hne, hm⟩
      exact ⟨c :: a₁, a₂, rfl, hne, hm⟩

/-- Nothing is left, and nothing is newly formed, if nothing begins in a replacement and what reaches over one was
there before. -/
theorem not_match (hnil : ¬ P []) (hin : ∀ a b out m, repl = a ++ b → b ≠ [] → m <+: b ++ out → ¬ P m)
    (hover : ∀ u h cs out m, P h → Replaced P repl cs out → m <+: u ++ (repl ++ out) → P m →
      ∃ m', m' <+: u ++ (h ++ cs) ∧ P m')
    (h : Replaced P repl cs out) {m : List Char} (hm : m <:+: out) : ¬ P m := by
  induction h with
  | nil =>
    rw [List.infix_nil] at hm
    rw [hm]
    exact hnil
  | hit _ _ ih =>
    rcases infix_append_cases hm with ⟨a, b, hrepl, hne, hprefix⟩ | hinfix
    · exact hin a b _ m hrepl hne hprefix
    · exact ih hinfix
  | @miss c cs out hnone hrest ih =>
    rcases List.infix_cons_iff.1 hm with hprefix | hinfix
    · intro hP
      have hkept : ∀ m', m' <+: c :: cs → ¬ P m' := by
        intro m' hm' hP'
        refine hnone m' ?_ hm' hP'
        rintro rfl
        exact hnil hP'
      rcases hrest.first with rfl | ⟨u, h, cs', out', hh, rfl, rfl, hrest'⟩
      · exact hkept m hprefix hP
      · obtain ⟨m', hm', hP'⟩ := hover (c :: u) h cs' out' m hh hrest' hprefix hP
        exact hkept m' hm' hP'
    · exact ih hinfix

end Replaced

end Regex
