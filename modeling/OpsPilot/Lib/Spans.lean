import OpsPilot.Lib.Regex
/-!
# What a regular expression matches

`Spans r prev m rest`: `r` matches the text `m` where it stands after the character `prev` and before
the text `rest`, the only two things that `\b` looks at. `mem_ends` and `search_iff` say that `ends`
and `search` decide it; then there is one lemma for each of the parts that an expression is built from.
A `Phrase` is a list of words with white space between them, said without an expression.
-/
namespace Regex

/-- Any number of matches of `R`, one after the other. -/
inductive Repeats (R : Option Char → List Char → List Char → Prop) :
    Option Char → List Char → List Char → Prop
  | nil {prev : Option Char} {rest : List Char} : Repeats R prev [] rest
  | cons {prev : Option Char} {a b rest : List Char} : R prev a (b ++ rest) →
      Repeats R (a.getLast?.or prev) b rest → Repeats R prev (a ++ b) rest

def Spans [Unicode] : Regex → Option Char → List Char → List Char → Prop
  | .eps, _, m, _ => m = []
  | .char f, _, m, _ => ∃ c, f c = true ∧ m = [c]
  | .seq r s, prev, m, rest =>
    ∃ a b, m = a ++ b ∧ Spans r prev a (b ++ rest) ∧ Spans s (a.getLast?.or prev) b rest
  | .alt r s, prev, m, rest => Spans r prev m rest ∨ Spans s prev m rest
  | .star r, prev, m, rest => Repeats (Spans r) prev m rest
  | .boundary, prev, m, rest => m = [] ∧ atBoundary (prev, rest) = true

/-- `q` is where a match of `R` that begins at `(prev, cs)` ends. -/
def EndsAt (R : Option Char → List Char → List Char → Prop) (prev : Option Char) (cs : List Char)
    (q : Pos) : Prop :=
  ∃ m, cs = m ++ q.2 ∧ q.1 = m.getLast?.or prev ∧ R prev m q.2

variable {R : Option Char → List Char → List Char → Prop}

theorem last_append (a b : List Char) (prev : Option Char) :
    (a ++ b).getLast?.or prev = b.getLast?.or (a.getLast?.or prev) := by
  rw [List.getLast?_append, Option.or_assoc]

/-- A repetition is over, or goes on with a match that is not empty. -/
theorem endsAt_repeats {prev : Option Char} {cs : List Char} {q : Pos} :
    EndsAt (Repeats R) prev cs q ↔ q = (prev, cs) ∨
      ∃ p : Pos, EndsAt R prev cs p ∧ p.2.length < cs.length ∧ EndsAt (Repeats R) p.1 p.2 q := by
  constructor
  · rintro ⟨m, hcs, hq, hrep⟩
    generalize hrest : q.2 = rest at hrep
    induction hrep with
    | nil =>
      rw [hrest] at hcs
      exact .inl (Prod.ext hq (by simp [hcs, hrest]))
    | @cons prev a b rest hR hrep ih =>
      cases a with
      | nil => exact ih (by simpa using hcs) (by simpa using hq) hrest
      | cons c a =>
        refine .inr ⟨((c :: a).getLast?.or prev, b ++ rest), ⟨c :: a, ?_, rfl, hR⟩, ?_, b, ?_, ?_, ?_⟩
        · rw [hcs, hrest, List.append_assoc]
        · have hlen : cs.length = (c :: a).length + (b ++ rest).length := by
            rw [hcs, hrest, List.append_assoc, List.length_append]
          rw [List.length_cons] at hlen
          exact Nat.lt_of_lt_of_eq (by omega : (b ++ rest).length < a.length + 1 + (b ++ rest).length) hlen.symm
        · rw [hrest]
        · rw [hq, last_append]
        · rw [hrest]
          exact hrep
  · rintro (rfl | ⟨p, ⟨a, hcs, hp, hR⟩, -, b, hrest, hq, hrep⟩)
    · exact ⟨[], rfl, rfl, .nil⟩
    · refine ⟨a ++ b, ?_, ?_, ?_⟩
      · rw [hcs, hrest, List.append_assoc]
      · rw [hq, hp, last_append]
      · rw [hp] at hrep
        rw [hrest] at hR
        exact .cons hR hrep

theorem mem_closure {step : Pos → List Pos} (hstep : ∀ prev cs q, q ∈ step (prev, cs) ↔ EndsAt R prev cs q)
    {fuel : Nat} {prev : Option Char} {cs : List Char} {q : Pos} (hfuel : cs.length ≤ fuel) :
    q ∈ closure step fuel (prev, cs) ↔ EndsAt (Repeats R) prev cs q := by
  induction fuel generalizing prev cs with
  | zero =>
    rw [endsAt_repeats, closure, List.mem_singleton]
    constructor
    · exact .inl
    · rintro (h | ⟨p, -, hlt, -⟩)
      · exact h
      · omega
  | succ fuel ih =>
    rw [endsAt_repeats, closure, List.mem_cons, List.mem_flatMap]
    refine or_congr Iff.rfl (exists_congr fun p => ?_)
    rw [List.mem_filter, decide_eq_true_iff, hstep, and_assoc]
    refine and_congr_right fun _ => and_congr_right fun hlt => ?_
    exact ih (by simp only at hlt; omega)

/-- A match of one expression after the other ends where a match of the second does that begins where
one of the first ends. -/
theorem endsAt_seq [Unicode] {r s : Regex} {prev : Option Char} {cs : List Char} {q : Pos} :
    EndsAt (Spans (.seq r s)) prev cs q ↔
      ∃ p : Pos, EndsAt (Spans r) prev cs p ∧ EndsAt (Spans s) p.1 p.2 q := by
  constructor
  · rintro ⟨m, hcs, hq, a, b, rfl, hr, hs⟩
    refine ⟨(a.getLast?.or prev, b ++ q.2), ⟨a, ?_, rfl, hr⟩, b, rfl, ?_, hs⟩
    · rw [hcs, List.append_assoc]
    · rw [hq, last_append]
  · rintro ⟨p, ⟨a, hcs, hlast, hr⟩, b, hrest, hq, hs⟩
    refine ⟨a ++ b, ?_, ?_, a, b, rfl, ?_, ?_⟩
    · rw [hcs, hrest, List.append_assoc]
    · rw [hq, hlast, last_append]
    · rw [← hrest]
      exact hr
    · rw [← hlast]
      exact hs

theorem mem_ends [Unicode] (r : Regex) {prev : Option Char} {cs : List Char} {q : Pos} :
    q ∈ ends r (prev, cs) ↔ EndsAt (Spans r) prev cs q := by
  induction r generalizing prev cs q with
  | eps =>
    rw [ends, List.mem_singleton]
    constructor
    · rintro rfl
      exact ⟨[], rfl, rfl, rfl⟩
    · rintro ⟨m, hcs, hq, rfl⟩
      exact Prod.ext hq hcs.symm
  | char f =>
    cases cs with
    | nil =>
      rw [ends]
      refine iff_of_false (by simp) ?_
      rintro ⟨m, hcs, -, c, -, rfl⟩
      cases hcs
    | cons d cs =>
      rw [ends]
      constructor
      · intro h
        split at h
        · rename_i hf
          obtain rfl := List.mem_singleton.1 h
          exact ⟨[d], rfl, rfl, d, hf, rfl⟩
        · cases h
      · rintro ⟨m, hcs, hq, c, hf, rfl⟩
        cases hcs
        simp [hf, Prod.ext_iff, hq]
  | seq r s ihr ihs =>
    rw [ends, List.mem_flatMap, endsAt_seq]
    exact exists_congr fun p => and_congr ihr ihs
  | alt r s ihr ihs =>
    rw [ends, List.mem_append, ihr, ihs]
    constructor
    · rintro (⟨m, hcs, hq, h⟩ | ⟨m, hcs, hq, h⟩)
      · exact ⟨m, hcs, hq, .inl h⟩
      · exact ⟨m, hcs, hq, .inr h⟩
    · rintro ⟨m, hcs, hq, h | h⟩
      · exact .inl ⟨m, hcs, hq, h⟩
      · exact .inr ⟨m, hcs, hq, h⟩
  | star r ih =>
    rw [ends]
    exact mem_closure (fun _ _ _ => ih) (Nat.le_refl _)
  | boundary =>
    rw [ends]
    constructor
    · intro h
      split at h
      · rename_i hb
        obtain rfl := List.mem_singleton.1 h
        exact ⟨[], rfl, rfl, rfl, hb⟩
      · cases h
    · rintro ⟨m, hcs, hq, rfl, hb⟩
      have hcs' : cs = q.2 := hcs
      have hq' : q.1 = prev := hq
      rw [← hcs'] at hb
      rw [if_pos hb, List.mem_singleton]
      exact Prod.ext hq' hcs'.symm

/-! ## Phrases -/

section
variable {m : List Char}

/-- One of the words, in any letter case. -/
def AnyOf (words : List String) (m : List Char) : Prop := ∃ s ∈ words, m.map fold = s.toList

theorem anyOf_append (pre : String) (words : List String) :
    AnyOf (words.map (pre ++ ·)) m ↔ ∃ a b, m = a ++ b ∧ AnyOf [pre] a ∧ AnyOf words b := by
  simp only [AnyOf, List.mem_map, exists_exists_and_eq_and, String.toList_append, List.mem_singleton, exists_eq_left]
  constructor
  · rintro ⟨s, hs, hm⟩
    obtain ⟨a, b, rfl, ha, hb⟩ := List.map_eq_append_iff.1 hm
    exact ⟨a, b, rfl, ha, s, hs, hb⟩
  · rintro ⟨a, b, rfl, ha, s, hs, hb⟩
    exact ⟨s, hs, by rw [List.map_append, ha, hb]⟩

/-- White space. -/
def Blank (m : List Char) : Prop := m ≠ [] ∧ ∀ c ∈ m, isSpace c = true

/-- Anything without white space. -/
def Solid (m : List Char) : Prop := m ≠ [] ∧ ∀ c ∈ m, isSpace c = false

/-- Words with white space between them. -/
def Phrase : List (List Char → Prop) → List Char → Prop
  | [], m => m = []
  | [w], m => w m
  | w :: w' :: ws, m => ∃ a gap b, m = a ++ gap ++ b ∧ w a ∧ Blank gap ∧ Phrase (w' :: ws) b

/-- A phrase begins with its first word. -/
theorem Phrase.first {w : List Char → Prop} {ws : List (List Char → Prop)} (h : Phrase (w :: ws) m) :
    ∃ a b, m = a ++ b ∧ w a := by
  cases ws with
  | nil => exact ⟨m, [], (List.append_nil m).symm, h⟩
  | cons w' ws =>
    obtain ⟨a, gap, b, rfl, ha, -, -⟩ := h
    exact ⟨a, gap ++ b, List.append_assoc a gap b, ha⟩

/-- A phrase ends with its last word. -/
theorem Phrase.last {ws : List (List Char → Prop)} {w : List Char → Prop} (hw : ws.getLast? = some w)
    (h : Phrase ws m) : ∃ a b, m = a ++ b ∧ w b := by
  induction ws generalizing m with
  | nil => cases hw
  | cons v ws ih =>
    cases ws with
    | nil =>
      cases hw
      exact ⟨[], m, rfl, h⟩
    | cons v' ws =>
      obtain ⟨a, gap, b, rfl, -, -, hb⟩ := h
      obtain ⟨c, d, rfl, hd⟩ := ih (by simpa using hw) hb
      exact ⟨a ++ gap ++ c, d, by simp, hd⟩

end

/-! ## The search -/

section
variable [Unicode]

theorem ends_ne_nil_iff {r : Regex} {prev : Option Char} {cs : List Char} :
    (!(ends r (prev, cs)).isEmpty) = true ↔ ∃ m b, cs = m ++ b ∧ Spans r prev m b := by
  constructor
  · intro h
    obtain ⟨q, hq⟩ := List.exists_mem_of_ne_nil (ends r (prev, cs)) (by simpa using h)
    obtain ⟨m, hcs, -, h⟩ := (mem_ends r).1 hq
    exact ⟨m, q.2, hcs, h⟩
  · rintro ⟨m, b, hcs, h⟩
    have hmem : (m.getLast?.or prev, b) ∈ ends r (prev, cs) := (mem_ends r).2 ⟨m, hcs, rfl, h⟩
    simpa using List.ne_nil_of_mem hmem

theorem searchFrom_iff {r : Regex} {prev : Option Char} {cs : List Char} :
    searchFrom r prev cs = true ↔ ∃ a m b, cs = a ++ m ++ b ∧ Spans r (a.getLast?.or prev) m b := by
  induction cs generalizing prev with
  | nil =>
    rw [searchFrom, ends_ne_nil_iff]
    constructor
    · rintro ⟨m, b, hcs, h⟩
      exact ⟨[], m, b, hcs, h⟩
    · rintro ⟨a, m, b, hcs, h⟩
      obtain ⟨hab, rfl⟩ := List.append_eq_nil_iff.1 hcs.symm
      obtain ⟨rfl, rfl⟩ := List.append_eq_nil_iff.1 hab
      exact ⟨[], [], rfl, h⟩
  | cons c cs ih =>
    rw [searchFrom, Bool.or_eq_true, ends_ne_nil_iff, ih]
    constructor
    · rintro (⟨m, b, hcs, h⟩ | ⟨a, m, b, rfl, h⟩)
      · exact ⟨[], m, b, hcs, h⟩
      · refine ⟨c :: a, m, b, rfl, ?_⟩
        rw [List.getLast?_cons, Option.some_or]
        cases hlast : a.getLast? with
        | none => simpa [hlast] using h
        | some d => simpa [hlast] using h
    · rintro ⟨a, m, b, hcs, h⟩
      cases a with
      | nil => exact .inl ⟨m, b, hcs, h⟩
      | cons d a =>
        cases hcs
        refine .inr ⟨a, m, b, rfl, ?_⟩
        rw [List.getLast?_cons, Option.some_or] at h
        cases hlast : a.getLast? with
        | none => simpa [hlast] using h
        | some d => simpa [hlast] using h

/-- A search finds a match anywhere in the text. -/
theorem search_iff {r : Regex} {s : String} :
    search r s = true ↔ ∃ a m b, s.toList = a ++ m ++ b ∧ Spans r a.getLast? m b := by
  rw [search, searchFrom_iff]
  simp only [Option.or_none]

/-! ## The parts of an expression -/

variable {prev : Option Char} {m rest : List Char}

theorem spans_word {s : String} : Spans (word s) prev m rest ↔ m.map fold = s.toList := by
  rw [word]
  generalize s.toList = cs
  induction cs generalizing prev m with
  | nil => simp [Spans]
  | cons c cs ih =>
    rw [List.foldr_cons, Spans]
    constructor
    · rintro ⟨a, b, rfl, ⟨d, hd, rfl⟩, hb⟩
      rw [List.map_append, ih.1 hb]
      simpa using hd
    · intro h
      obtain ⟨d, b, rfl, hd, hb⟩ := List.map_eq_cons_iff.1 h
      exact ⟨[d], b, rfl, ⟨d, by simpa using hd, rfl⟩, ih.2 hb⟩

theorem repeats_char {f : Char → Bool} : Repeats (Spans (.char f)) prev m rest ↔ ∀ c ∈ m, f c = true := by
  constructor
  · intro h
    induction h with
    | nil => simp
    | cons h _ ih =>
      obtain ⟨c, hc, rfl⟩ := h
      simpa [hc] using ih
  · intro h
    induction m generalizing prev with
    | nil => exact .nil
    | cons c m ih =>
      exact .cons (a := [c]) ⟨c, h c List.mem_cons_self, rfl⟩ (ih fun d hd => h d (List.mem_cons_of_mem c hd))

theorem spans_plus_char {f : Char → Bool} :
    Spans (plus (.char f)) prev m rest ↔ m ≠ [] ∧ ∀ c ∈ m, f c = true := by
  rw [plus, Spans]
  constructor
  · rintro ⟨a, b, rfl, ⟨c, hc, rfl⟩, hb⟩
    rw [Spans, repeats_char] at hb
    simpa [hc] using hb
  · rintro ⟨hne, hall⟩
    cases m with
    | nil => exact absurd rfl hne
    | cons c m =>
      refine ⟨[c], m, rfl, ⟨c, hall c List.mem_cons_self, rfl⟩, ?_⟩
      rw [Spans, repeats_char]
      exact fun d hd => hall d (List.mem_cons_of_mem c hd)

theorem spans_atLeast {n : Nat} {f : Char → Bool} :
    Spans (atLeast n (.char f)) prev m rest ↔ n ≤ m.length ∧ ∀ c ∈ m, f c = true := by
  induction n generalizing prev m with
  | zero =>
    rw [atLeast, Spans, repeats_char]
    exact (and_iff_right (Nat.zero_le _)).symm
  | succ n ih =>
    rw [atLeast, Spans]
    constructor
    · rintro ⟨_, b, rfl, ⟨c, hc, rfl⟩, hb⟩
      obtain ⟨hlen, hall⟩ := ih.1 hb
      refine ⟨by simpa using hlen, ?_⟩
      rw [List.singleton_append, List.forall_mem_cons]
      exact ⟨hc, hall⟩
    · rintro ⟨hlen, hall⟩
      cases m with
      | nil => simp at hlen
      | cons c m =>
        rw [List.forall_mem_cons] at hall
        exact ⟨[c], m, rfl, ⟨c, hall.1, rfl⟩, ih.2 ⟨by simpa using hlen, hall.2⟩⟩

theorem spans_oneOf {rs : List Regex} : Spans (oneOf rs) prev m rest ↔ ∃ r ∈ rs, Spans r prev m rest := by
  induction rs with
  | nil => simp [oneOf, Spans]
  | cons r rs ih =>
    cases rs with
    | nil => simp [oneOf]
    | cons s rs =>
      have halt : oneOf (r :: s :: rs) = .alt r (oneOf (s :: rs)) := rfl
      rw [halt, Spans, ih, List.exists_mem_cons_iff (l := s :: rs)]

/-- An expression with `\b` on both sides. -/
theorem spans_bounded {r : Regex} : Spans (cat [.boundary, r, .boundary]) prev m rest ↔
    atBoundary (prev, m ++ rest) = true ∧ Spans r prev m rest ∧ atBoundary (m.getLast?.or prev, rest) = true := by
  constructor
  · rintro ⟨a, b, rfl, ⟨rfl, hstart⟩, c, d, rfl, hr, rfl, hend⟩
    simp only [List.nil_append, List.append_nil, List.getLast?_nil, Option.none_or] at hstart hr hend ⊢
    exact ⟨hstart, hr, hend⟩
  · rintro ⟨hstart, hr, hend⟩
    exact ⟨[], m, rfl, ⟨rfl, hstart⟩, m, [], (List.append_nil m).symm, hr, rfl, hend⟩

/-! ## What expressions match -/

/-- The expression matches the texts with `P`, wherever they stand. -/
def Means (r : Regex) (P : List Char → Prop) : Prop :=
  ∀ (prev : Option Char) (m rest : List Char), Spans r prev m rest ↔ P m

theorem means_word (s : String) : Means (word s) (AnyOf [s]) := by
  intro prev m rest
  rw [spans_word]
  simp [AnyOf]

theorem means_words (words : List String) : Means (oneOf (words.map word)) (AnyOf words) := by
  intro prev m rest
  rw [spans_oneOf]
  simp only [List.mem_map, exists_exists_and_eq_and, spans_word]
  rfl

theorem means_solid : Means (plus nonSpace) Solid := by
  intro prev m rest
  rw [nonSpace, spans_plus_char]
  simp only [Bool.not_eq_true']
  rfl

theorem means_last {r : Regex} {w : List Char → Prop} (hw : Means r w) : Means (cat [r]) (Phrase [w]) := hw

/-- A word, white space, and the rest of the phrase. -/
theorem means_phrase {r s : Regex} {rs : List Regex} {w w' : List Char → Prop} {ws : List (List Char → Prop)}
    (hw : Means r w) (hws : Means (cat (s :: rs)) (Phrase (w' :: ws))) :
    Means (cat (r :: plus space :: s :: rs)) (Phrase (w :: w' :: ws)) := by
  intro prev m rest
  constructor
  · rintro ⟨a, c, rfl, hr, gap, b, rfl, hgap, hs⟩
    exact ⟨a, gap, b, by simp, (hw _ _ _).1 hr, spans_plus_char.1 hgap, (hws _ _ _).1 hs⟩
  · rintro ⟨a, gap, b, rfl, ha, hgap, hb⟩
    exact ⟨a, gap ++ b, by simp, (hw _ _ _).2 ha, gap, b, rfl, spans_plus_char.2 hgap, (hws _ _ _).2 hb⟩

end

end Regex
