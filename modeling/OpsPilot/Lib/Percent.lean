import Mathlib.Data.List.Infix
import Mathlib.Data.List.Forall2
import Mathlib.Tactic.ByContra
/-!
# Formatting with `%`

`template % args` as CPython does it: the template is read into characters and conversions, and each
conversion takes its value from the tuple, or by its key from the mapping. How an object is printed is up
to the object, so it is a parameter (`Objects`).

What is proved is about the characters that stay: where `literal_of_not_touches` finds a text that no
conversion had a part in, the template has it too, with every `%` doubled (`infix_template`). `placed_iff` finds
the conversions of the template again in what is merged.
-/
namespace Percent

/-- A width or a precision. -/
inductive Amount where
  | digits (ds : List Char)
  | star

structure Conversion where
  key : Option (List Char)
  flags : List Char
  width : Option Amount
  precision : Option Amount
  letter : Char

inductive Piece where
  | lit (c : Char)
  | conv (c : Conversion)

/-- What a piece became. -/
inductive Segment where
  | lit (c : Char)
  | text (t : List Char)

/-- What the objects do: the mapping as a whole may be printed as well. -/
structure Objects (V : Type) where
  isInt : V → Bool
  convert : Conversion → List V → V → Option (List Char)

/-- The mapping behind the arguments, if they are one. -/
abbrev Lookup (V : Type) := Option (List Char → Option V)

/-! ## Reading a template -/

def isFlag (c : Char) : Bool := c == '#' || c == '0' || c == '-' || c == ' ' || c == '+'

/-- The key up to the parenthesis that closes it. -/
def readKey : Nat → List Char → Option (List Char × List Char)
  | _, [] => none
  | depth, c :: l =>
    if c = ')' ∧ depth = 0 then some ([], l)
    else
      let depth := if c = '(' then depth + 1 else if c = ')' then depth - 1 else depth
      (readKey depth l).map fun (key, rest) => (c :: key, rest)

def readAmount (l : List Char) : Option Amount × List Char :=
  if l.head? = some '*' then (some .star, l.tail)
  else if l.takeWhile Char.isDigit = [] then (none, l)
  else (some (.digits (l.takeWhile Char.isDigit)), l.dropWhile Char.isDigit)

def readPrecision (l : List Char) : Option Amount × List Char :=
  if l.head? = some '.' then
    let (amount, rest) := readAmount l.tail
    (some (amount.getD (.digits [])), rest)
  else (none, l)

def skipLength (l : List Char) : List Char :=
  if l.head? = some 'h' ∨ l.head? = some 'l' ∨ l.head? = some 'L' then l.tail else l

def readOptionalKey (l : List Char) : Option (Option (List Char) × List Char) :=
  if l.head? = some '(' then (readKey 0 l.tail).map fun (key, rest) => (some key, rest) else some (none, l)

/-- What stands behind the key. -/
def readDirective (key : Option (List Char)) (l : List Char) : Option (Conversion × List Char) :=
  let flags := l.takeWhile isFlag
  let (width, l) := readAmount (l.dropWhile isFlag)
  let (precision, l) := readPrecision l
  match skipLength l with
  | [] => none
  | letter :: rest => some ({ key, flags, width, precision, letter }, rest)

/-- What stands behind `%`. -/
def readConversion (l : List Char) : Option (Conversion × List Char) :=
  (readOptionalKey l).bind fun (key, rest) => readDirective key rest

def pieces : Nat → List Char → Option (List Piece)
  | _, [] => some []
  | 0, _ :: _ => none
  | fuel + 1, c :: l =>
    if c ≠ '%' then (pieces fuel l).map (.lit c :: ·)
    else if l.head? = some '%' then (pieces fuel l.tail).map (.lit '%' :: ·)
    else (readConversion l).bind fun (conv, rest) => (pieces fuel rest).map (.conv conv :: ·)

/-! ## Merging the arguments -/

section
variable {V : Type} (o : Objects V)

def takeAmount : Option Amount → List V → Option (List V × List V)
  | some .star, v :: rest => if o.isInt v then some ([v], rest) else none
  | some .star, [] => none
  | _, rest => some ([], rest)

/-- One conversion: what it renders to, and the values that are left. -/
def render (lookup : Lookup V) (c : Conversion) (values : List V) : Option (List Char × List V) := do
  let values ← match c.key with
    | none => some values
    | some key => (lookup.bind (· key)).map fun v => [v]
  let (width, values) ← takeAmount o c.width values
  let (precision, values) ← takeAmount o c.precision values
  if c.letter = '%' then some (['%'], values)
  else
    match values with
    | [] => none
    | v :: values => (o.convert c (width ++ precision) v).map fun t => (t, values)

/-- What the pieces become, and the values that they leave. -/
def renderAll (lookup : Lookup V) : List Piece → List V → Option (List Segment × List V)
  | [], values => some ([], values)
  | .lit c :: ps, values => (renderAll lookup ps values).map fun (segs, rest) => (.lit c :: segs, rest)
  | .conv c :: ps, values =>
    (render o lookup c values).bind fun (t, values) =>
      (renderAll lookup ps values).map fun (segs, rest) => (.text t :: segs, rest)

/-- A tuple has to be used up. -/
def merge (lookup : Lookup V) (ps : List Piece) (values : List V) : Option (List Segment) :=
  (renderAll o lookup ps values).bind fun (segs, rest) =>
    if lookup.isNone && !rest.isEmpty then none else some segs

/-- `template % values`, and `template % mapping` with the mapping as the only value -/
def segments (lookup : Lookup V) (template : List Char) (values : List V) : Option (List Segment) :=
  (pieces template.length template).bind fun ps => merge o lookup ps values

end

def Segment.chars : Segment → List Char
  | .lit c => [c]
  | .text t => t

def text (segs : List Segment) : List Char := segs.flatMap Segment.chars

/-- What stands behind `p` and is as long as `m` has a part of what a conversion rendered, or reaches over it. -/
def Touches (segs : List Segment) (p m : List Char) : Prop :=
  ∃ before t after, segs = before ++ .text t :: after ∧ p.length < (text before).length + t.length ∧
    (text before).length < p.length + m.length

/-! ## What no conversion touches -/

theorem text_cons (s : Segment) (segs : List Segment) : text (s :: segs) = s.chars ++ text segs := List.flatMap_cons

theorem text_append (segs segs' : List Segment) : text (segs ++ segs') = text segs ++ text segs' := List.flatMap_append

theorem text_map_lit (l : List Char) : text (l.map .lit) = l := by
  induction l with
  | nil => rfl
  | cons c l ih =>
    rw [List.map_cons, text_cons, ih]
    rfl

theorem prefix_of_lt {m q : List Char} {segs : List Segment} (h : text segs = m ++ q)
    (hlater : ∀ before t after, segs = before ++ .text t :: after → m.length ≤ (text before).length) :
    m.map .lit <+: segs := by
  induction m generalizing segs with
  | nil => exact List.nil_prefix
  | cons c m ih =>
    cases segs with
    | nil => cases h
    | cons s segs =>
      cases s with
      | text t =>
        have hle := hlater [] t segs rfl
        rw [List.length_cons] at hle
        exact absurd hle (by simp [text])
      | lit d =>
        obtain ⟨rfl, hrest⟩ := List.cons.inj h
        refine List.cons_prefix_cons.2 ⟨rfl, ih hrest fun before t after hsegs => ?_⟩
        have hle := hlater (.lit d :: before) t after (by rw [hsegs, List.cons_append])
        rw [text_cons, List.length_append, List.length_cons] at hle
        have hone : (Segment.lit d).chars.length = 1 := rfl
        omega

/-- It stands in the template. -/
theorem literal_of_not_touches {p m q : List Char} {segs : List Segment} (hm : m ≠ []) (h : text segs = p ++ m ++ q)
    (hnot : ¬ Touches segs p m) : m.map .lit <:+: segs := by
  have hpos := List.length_pos_iff.2 hm
  induction segs generalizing p with
  | nil =>
    have hnil := List.append_eq_nil_iff.1 (List.append_eq_nil_iff.1 h.symm).1
    exact absurd hnil.2 hm
  | cons s segs ih =>
    -- a conversion further on is touched from here as it is from behind `s`
    have hshift : ∀ p', p = s.chars ++ p' → ¬ Touches segs p' m := by
      rintro p' rfl ⟨before, t, after, rfl, hleft, hright⟩
      refine hnot ⟨s :: before, t, after, rfl, ?_, ?_⟩
      · rw [text_cons, List.length_append, List.length_append]
        omega
      · rw [text_cons, List.length_append, List.length_append]
        omega
    cases s with
    | lit c =>
      cases p with
      | nil =>
        rw [List.nil_append] at h
        refine (prefix_of_lt h fun before t after hsegs => ?_).isInfix
        cases before with
        | nil => cases hsegs
        | cons s before =>
          obtain ⟨rfl, hrest⟩ := List.cons.inj hsegs
          have hone : 1 ≤ (text (.lit c :: before)).length := by
            rw [text_cons, List.length_append]
            exact Nat.le_add_right 1 _
          by_contra hlt
          exact hnot ⟨.lit c :: before, t, after, hsegs, by simp only [List.length_nil]; omega,
            by simp only [List.length_nil]; omega⟩
      | cons d p =>
        obtain ⟨rfl, hrest⟩ := List.cons.inj h
        exact List.infix_cons (ih hrest (hshift p rfl))
    | text t =>
      have hle : t.length ≤ p.length := by
        by_contra hlt
        exact hnot ⟨[], t, segs, rfl, by simp only [text, List.flatMap_nil, List.length_nil]; omega,
          by simp only [text, List.flatMap_nil, List.length_nil]; omega⟩
      have hprefix : t <+: p := by
        have hall : p <+: text (.text t :: segs) := by
          rw [h, List.append_assoc]
          exact List.prefix_append p _
        exact List.prefix_of_prefix_length_le (List.prefix_append t _) hall hle
      obtain ⟨p', rfl⟩ := hprefix
      have hrest : text segs = p' ++ m ++ q := by
        rw [text_cons, List.append_assoc, List.append_assoc] at h
        rw [List.append_assoc]
        exact List.append_cancel_left h
      exact List.infix_cons (ih hrest (hshift p' rfl))

/-! ## Back to the template -/

inductive Aligned : Piece → Segment → Prop
  | lit (c : Char) : Aligned (.lit c) (.lit c)
  | conv (c : Conversion) (t : List Char) : Aligned (.conv c) (.text t)

section
variable {V : Type} {o : Objects V} {lookup : Lookup V}

theorem aligned_renderAll {ps : List Piece} {values rest : List V} {segs : List Segment}
    (h : renderAll o lookup ps values = some (segs, rest)) : List.Forall₂ Aligned ps segs := by
  induction ps generalizing values segs with
  | nil =>
    cases h
    exact .nil
  | cons p ps ih =>
    cases p with
    | lit c =>
      obtain ⟨⟨segs', rest'⟩, hsegs, heq⟩ := Option.map_eq_some_iff.1 h
      cases heq
      exact .cons (.lit c) (ih hsegs)
    | conv c =>
      obtain ⟨⟨t, values'⟩, -, hrest⟩ := Option.bind_eq_some_iff.1 h
      obtain ⟨⟨segs', rest'⟩, hsegs, heq⟩ := Option.map_eq_some_iff.1 hrest
      cases heq
      exact .cons (.conv c t) (ih hsegs)

theorem merge_iff {ps : List Piece} {values : List V} {segs : List Segment} :
    merge o lookup ps values = some segs ↔
      ∃ rest, renderAll o lookup ps values = some (segs, rest) ∧ (lookup = none → rest = []) := by
  rw [merge]
  cases renderAll o lookup ps values with
  | none => simp
  | some r =>
    obtain ⟨segs', rest⟩ := r
    cases lookup <;> cases rest <;> simp

end

theorem prefix_of_aligned {ps : List Piece} {segs : List Segment} (h : List.Forall₂ Aligned ps segs) {m : List Char}
    (hm : m.map .lit <+: segs) : m.map .lit <+: ps := by
  induction m generalizing ps segs with
  | nil => exact List.nil_prefix
  | cons c m ih =>
    cases h with
    | nil => exact absurd (List.prefix_nil.1 hm) (List.cons_ne_nil _ _)
    | cons hps hrest =>
      obtain ⟨rfl, htail⟩ := List.cons_prefix_cons.1 hm
      cases hps
      exact List.cons_prefix_cons.2 ⟨rfl, ih hrest htail⟩

theorem infix_of_aligned {ps : List Piece} {segs : List Segment} (h : List.Forall₂ Aligned ps segs) {m : List Char}
    (hm : m.map .lit <:+: segs) : m.map .lit <:+: ps := by
  induction h with
  | nil =>
    obtain rfl := List.map_eq_nil_iff.1 (List.infix_nil.1 hm)
    exact List.infix_refl _
  | cons hps hrest ih =>
    rcases List.infix_cons_iff.1 hm with hprefix | hinfix
    · exact (prefix_of_aligned (.cons hps hrest) hprefix).isInfix
    · exact List.infix_cons (ih hinfix)

/-- How a character is written in a template. -/
def double (c : Char) : List Char := if c = '%' then ['%', '%'] else [c]

theorem readKey_suffix {depth : Nat} {l key rest : List Char} (h : readKey depth l = some (key, rest)) :
    rest <:+ l := by
  induction l generalizing depth key with
  | nil => cases h
  | cons c l ih =>
    rw [readKey] at h
    split at h
    · cases h
      exact List.suffix_cons _ _
    · obtain ⟨⟨key', rest'⟩, hread, heq⟩ := Option.map_eq_some_iff.1 h
      cases heq
      exact (ih hread).trans (List.suffix_cons _ _)

theorem readAmount_suffix (l : List Char) : (readAmount l).2 <:+ l := by
  unfold readAmount
  split
  · exact List.tail_suffix l
  · split
    · exact List.suffix_refl l
    · exact List.dropWhile_suffix _

theorem readPrecision_suffix (l : List Char) : (readPrecision l).2 <:+ l := by
  unfold readPrecision
  split
  · exact (readAmount_suffix l.tail).trans (List.tail_suffix l)
  · exact List.suffix_refl l

theorem skipLength_suffix (l : List Char) : skipLength l <:+ l := by
  unfold skipLength
  split
  · exact List.tail_suffix l
  · exact List.suffix_refl l

theorem readOptionalKey_suffix {l rest : List Char} {key : Option (List Char)}
    (h : readOptionalKey l = some (key, rest)) : rest <:+ l := by
  unfold readOptionalKey at h
  split at h
  · obtain ⟨⟨key', rest'⟩, hread, heq⟩ := Option.map_eq_some_iff.1 h
    cases heq
    exact (readKey_suffix hread).trans (List.tail_suffix l)
  · cases h
    exact List.suffix_refl l

theorem readDirective_suffix {key : Option (List Char)} {l rest : List Char} {c : Conversion}
    (h : readDirective key l = some (c, rest)) : rest <:+ l := by
  unfold readDirective at h
  simp only at h
  split at h
  · cases h
  · rename_i letter rest' hrest
    cases h
    have hskip : rest <:+ skipLength (readPrecision (readAmount (l.dropWhile isFlag)).2).2 := by
      rw [hrest]
      exact List.suffix_cons letter rest
    exact hskip.trans ((skipLength_suffix _).trans ((readPrecision_suffix _).trans
      ((readAmount_suffix _).trans (List.dropWhile_suffix isFlag))))

theorem readConversion_suffix {l rest : List Char} {c : Conversion} (h : readConversion l = some (c, rest)) :
    rest <:+ l := by
  obtain ⟨⟨key, l'⟩, hkey, hdirective⟩ := Option.bind_eq_some_iff.1 h
  exact (readDirective_suffix hdirective).trans (readOptionalKey_suffix hkey)

theorem prefix_template {fuel : Nat} {t : List Char} {ps : List Piece} (h : pieces fuel t = some ps) {m : List Char}
    (hm : m.map .lit <+: ps) : m.flatMap double <+: t := by
  induction fuel generalizing t ps m with
  | zero =>
    cases t with
    | nil =>
      cases h
      cases m with
      | nil => exact List.nil_prefix
      | cons c m => exact absurd (List.prefix_nil.1 hm) (List.cons_ne_nil _ _)
    | cons d t => cases h
  | succ fuel ih =>
    cases m with
    | nil => exact List.nil_prefix
    | cons c m =>
      cases t with
      | nil =>
        cases h
        exact absurd (List.prefix_nil.1 hm) (List.cons_ne_nil _ _)
      | cons d t =>
        rw [pieces] at h
        split at h
        · rename_i hd
          obtain ⟨ps', hps, rfl⟩ := Option.map_eq_some_iff.1 h
          obtain ⟨hcd, htail⟩ := List.cons_prefix_cons.1 hm
          cases hcd
          rw [List.flatMap_cons, double, if_neg hd]
          exact List.cons_prefix_cons.2 ⟨rfl, ih hps htail⟩
        · rename_i hd
          split at h
          · rename_i hhead
            obtain ⟨ps', hps, rfl⟩ := Option.map_eq_some_iff.1 h
            obtain ⟨hcd, htail⟩ := List.cons_prefix_cons.1 hm
            cases hcd
            obtain ⟨t', rfl⟩ := List.head?_eq_some_iff.1 hhead
            obtain rfl := not_not.1 hd
            rw [List.flatMap_cons, double, if_pos rfl]
            exact List.cons_prefix_cons.2 ⟨rfl, List.cons_prefix_cons.2 ⟨rfl, ih hps htail⟩⟩
          · obtain ⟨⟨conv, rest⟩, -, hrest⟩ := Option.bind_eq_some_iff.1 h
            obtain ⟨ps', -, rfl⟩ := Option.map_eq_some_iff.1 hrest
            cases (List.cons_prefix_cons.1 hm).1

/-- Characters side by side in the pieces stand side by side in the template. -/
theorem infix_template {fuel : Nat} {t : List Char} {ps : List Piece} (h : pieces fuel t = some ps) {m : List Char}
    (hm : m.map .lit <:+: ps) : m.flatMap double <:+: t := by
  induction fuel generalizing t ps with
  | zero =>
    cases t with
    | nil =>
      cases h
      obtain rfl := List.map_eq_nil_iff.1 (List.infix_nil.1 hm)
      exact List.infix_refl _
    | cons d t => cases h
  | succ fuel ih =>
    cases t with
    | nil =>
      cases h
      obtain rfl := List.map_eq_nil_iff.1 (List.infix_nil.1 hm)
      exact List.infix_refl _
    | cons d t =>
      have hread := h
      rw [pieces] at h
      split at h
      · obtain ⟨ps', hps, rfl⟩ := Option.map_eq_some_iff.1 h
        rcases List.infix_cons_iff.1 hm with hprefix | hinfix
        · exact (prefix_template hread hprefix).isInfix
        · exact List.infix_cons (ih hps hinfix)
      · split at h
        · obtain ⟨ps', hps, rfl⟩ := Option.map_eq_some_iff.1 h
          rcases List.infix_cons_iff.1 hm with hprefix | hinfix
          · exact (prefix_template hread hprefix).isInfix
          · exact List.infix_cons ((ih hps hinfix).trans (List.tail_suffix t).isInfix)
        · obtain ⟨⟨conv, rest⟩, hconv, hrest⟩ := Option.bind_eq_some_iff.1 h
          obtain ⟨ps', hps, rfl⟩ := Option.map_eq_some_iff.1 hrest
          rcases List.infix_cons_iff.1 hm with hprefix | hinfix
          · exact (prefix_template hread hprefix).isInfix
          · exact List.infix_cons ((ih hps hinfix).trans (readConversion_suffix hconv).isInfix)

/-- **What no conversion has a part in is in the template.** -/
theorem template_of_not_touches {V : Type} {o : Objects V} {lookup : Lookup V} {template : List Char} {values : List V}
    {segs : List Segment} (h : segments o lookup template values = some segs) {p m q : List Char} (hm : m ≠ [])
    (htext : text segs = p ++ m ++ q) (hnot : ¬ Touches segs p m) : m.flatMap double <:+: template := by
  obtain ⟨ps, hps, hmerge⟩ := Option.bind_eq_some_iff.1 h
  obtain ⟨rest, hrender, -⟩ := merge_iff.1 hmerge
  exact infix_template hps (infix_of_aligned (aligned_renderAll hrender) (literal_of_not_touches hm htext hnot))

/-! ## Where a conversion stands -/

section
variable {V : Type} {o : Objects V} {lookup : Lookup V}

/-- A conversion of the template renders to `t`, the pieces before it to `left`, those behind it to `right`. -/
inductive Placed (o : Objects V) (lookup : Lookup V) (template : List Char) (values : List V) :
    List Char → List Char → List Char → Prop
  | intro {before after : List Piece} {c : Conversion} {left right : List Segment} {t : List Char}
      {values₁ values₂ rest : List V} (hpieces : pieces template.length template = some (before ++ .conv c :: after))
      (hbefore : renderAll o lookup before values = some (left, values₁))
      (hrender : render o lookup c values₁ = some (t, values₂))
      (hafter : renderAll o lookup after values₂ = some (right, rest)) (hused : lookup = none → rest = []) :
      Placed o lookup template values (text left) t (text right)

theorem renderAll_conv {before after : List Piece} {c : Conversion} {left right : List Segment} {t : List Char}
    {values values₁ values₂ rest : List V} (hbefore : renderAll o lookup before values = some (left, values₁))
    (hrender : render o lookup c values₁ = some (t, values₂))
    (hafter : renderAll o lookup after values₂ = some (right, rest)) :
    renderAll o lookup (before ++ .conv c :: after) values = some (left ++ .text t :: right, rest) := by
  induction before generalizing values left with
  | nil =>
    cases hbefore
    simp only [List.nil_append, renderAll, hrender, Option.bind_some, hafter, Option.map_some]
  | cons p before ih =>
    cases p with
    | lit d =>
      obtain ⟨⟨left', values'⟩, hleft, heq⟩ := Option.map_eq_some_iff.1 hbefore
      cases heq
      simp only [List.cons_append, renderAll, ih hleft, Option.map_some]
    | conv d =>
      obtain ⟨⟨t', values'⟩, hrender', hrest⟩ := Option.bind_eq_some_iff.1 hbefore
      obtain ⟨⟨left', values''⟩, hleft, heq⟩ := Option.map_eq_some_iff.1 hrest
      cases heq
      simp only [List.cons_append, renderAll, hrender', Option.bind_some, ih hleft, Option.map_some]

theorem renderAll_text {ps : List Piece} {left right : List Segment} {t : List Char} {values rest : List V}
    (h : renderAll o lookup ps values = some (left ++ .text t :: right, rest)) :
    ∃ before c after values₁ values₂, ps = before ++ .conv c :: after ∧
      renderAll o lookup before values = some (left, values₁) ∧ render o lookup c values₁ = some (t, values₂) ∧
      renderAll o lookup after values₂ = some (right, rest) := by
  induction ps generalizing values left with
  | nil =>
    have hsegs := congrArg Prod.fst (Option.some.inj h)
    exact absurd hsegs.symm (by simp)
  | cons p ps ih =>
    cases p with
    | lit d =>
      obtain ⟨⟨segs, rest'⟩, hsegs, heq⟩ := Option.map_eq_some_iff.1 h
      obtain ⟨hcons, rfl⟩ := Prod.mk.inj heq
      cases left with
      | nil => cases hcons
      | cons s left =>
        obtain ⟨rfl, rfl⟩ := List.cons.inj hcons
        obtain ⟨before, c, after, values₁, values₂, rfl, hbefore, hrender, hafter⟩ := ih hsegs
        exact ⟨.lit d :: before, c, after, values₁, values₂, rfl, by simp only [renderAll, hbefore, Option.map_some],
          hrender, hafter⟩
    | conv d =>
      obtain ⟨⟨t', values'⟩, hrender', hrest⟩ := Option.bind_eq_some_iff.1 h
      obtain ⟨⟨segs, rest'⟩, hsegs, heq⟩ := Option.map_eq_some_iff.1 hrest
      obtain ⟨hcons, rfl⟩ := Prod.mk.inj heq
      cases left with
      | nil =>
        obtain ⟨ht, rfl⟩ := List.cons.inj hcons
        cases ht
        exact ⟨[], d, ps, values, values', rfl, rfl, hrender', hsegs⟩
      | cons s left =>
        obtain ⟨rfl, rfl⟩ := List.cons.inj hcons
        obtain ⟨before, c, after, values₁, values₂, rfl, hbefore, hrender, hafter⟩ := ih hsegs
        exact ⟨.conv d :: before, c, after, values₁, values₂, rfl,
          by simp only [renderAll, hrender', Option.bind_some, hbefore, Option.map_some], hrender, hafter⟩

/-- The conversions of a template are its places, once it is merged. -/
theorem placed_iff {template : List Char} {values : List V} {left t right : List Char} :
    Placed o lookup template values left t right ↔
      ∃ before after, segments o lookup template values = some (before ++ .text t :: after) ∧ left = text before ∧
        right = text after := by
  constructor
  · rintro ⟨hpieces, hbefore, hrender, hafter, hused⟩
    refine ⟨_, _, Option.bind_eq_some_iff.2 ⟨_, hpieces, merge_iff.2 ⟨_, ?_, hused⟩⟩, rfl, rfl⟩
    exact renderAll_conv hbefore hrender hafter
  · rintro ⟨before, after, hsegs, rfl, rfl⟩
    obtain ⟨ps, hpieces, hmerge⟩ := Option.bind_eq_some_iff.1 hsegs
    obtain ⟨rest, hall, hused⟩ := merge_iff.1 hmerge
    obtain ⟨before, c, after, values₁, values₂, rfl, hbefore, hrender, hafter⟩ := renderAll_text hall
    exact .intro hpieces hbefore hrender hafter hused

end

end Percent
