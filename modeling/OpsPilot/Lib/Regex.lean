import OpsPilot.Lib.Text
/-!
# Regular expressions as `re.search` decides them

`Regex.search` answers whether some match exists, so the order in which Python's engine
tries the alternatives and the greediness of its repetitions play no role: `ends` computes
every position a match can end in. A position keeps the character before it for `\b`.
-/

inductive Regex where
  | eps
  | char (p : Char → Bool)
  | seq (r s : Regex)
  | alt (r s : Regex)
  | star (r : Regex)
  | boundary

namespace Regex

/-! ## Character classes -/

/-- `\s`: `str.isspace` of one character. -/
def isSpace (c : Char) : Bool :=
  let n := c.toNat
  (9 ≤ n && n ≤ 13) || (0x1c ≤ n && n ≤ 0x20) || n == 0x85 || n == 0xa0 || n == 0x1680 ||
    (0x2000 ≤ n && n ≤ 0x200a) || n == 0x2028 || n == 0x2029 || n == 0x202f || n == 0x205f || n == 0x3000

/-- `\w` -/
def isWord [Unicode] (c : Char) : Bool := Unicode.alnum c || c == '_'

/-- Case folding of `(?i)` onto lower-case ASCII: besides the capitals, dotted and dotless i,
long s and the Kelvin sign fold onto a letter. -/
def fold (c : Char) : Char :=
  if c.toNat = 0x130 ∨ c.toNat = 0x131 then 'i'
  else if c.toNat = 0x17f then 's'
  else if c.toNat = 0x212a then 'k'
  else c.toLower

theorem fold_cases (c : Char) : fold c = c.toLower ∨ fold c = 'i' ∨ fold c = 's' ∨ fold c = 'k' := by
  unfold fold
  split
  · exact .inr (.inl rfl)
  · split
    · exact .inr (.inr (.inl rfl))
    · split
      · exact .inr (.inr (.inr rfl))
      · exact .inl rfl

/-- A lower-case letter or a punctuation character under `(?i)`. -/
def ci (c : Char) : Regex := .char fun d => fold d == c

/-- A word under `(?i)`. -/
def word (s : String) : Regex := s.toList.foldr (fun c r => .seq (ci c) r) .eps

/-- `[a-z]` under `(?i)`. -/
def letter : Regex := .char fun d => (fold d).isLower

def space : Regex := .char isSpace

def nonSpace : Regex := .char fun c => !isSpace c

def plus (r : Regex) : Regex := .seq r (.star r)

/-- `r{n,}` -/
def atLeast : Nat → Regex → Regex
  | 0, r => .star r
  | n + 1, r => .seq r (atLeast n r)

def opt (r : Regex) : Regex := .alt r .eps

def oneOf : List Regex → Regex
  | [] => .char fun _ => false
  | [r] => r
  | r :: rs => .alt r (oneOf rs)

/-- Sequence of the parts. -/
def cat : List Regex → Regex
  | [] => .eps
  | [r] => r
  | r :: rs => .seq r (cat rs)

/-! ## Matching -/

/-- The character before the position, and the text after it. -/
abbrev Pos := Option Char × List Char

/-- `\b`: exactly one side is a word character. -/
def atBoundary [Unicode] (p : Pos) : Bool := p.1.any isWord != p.2.head?.any isWord

/-- Every position reached by at most `fuel` rounds of `step` that each consume something. -/
def closure (step : Pos → List Pos) : Nat → Pos → List Pos
  | 0, p => [p]
  | fuel + 1, p => p :: ((step p).filter fun q => q.2.length < p.2.length).flatMap (closure step fuel)

/-- The positions in which a match starting at the given one can end. -/
def ends [Unicode] : Regex → Pos → List Pos
  | .eps, p => [p]
  | .char f, (_, c :: cs) => if f c then [(some c, cs)] else []
  | .char _, (_, []) => []
  | .seq r s, p => (ends r p).flatMap (ends s)
  | .alt r s, p => ends r p ++ ends s p
  | .star r, p => closure (ends r) p.2.length p
  | .boundary, p => if atBoundary p then [p] else []

def searchFrom [Unicode] (r : Regex) : Option Char → List Char → Bool
  | prev, [] => !(ends r (prev, [])).isEmpty
  | prev, c :: cs => !(ends r (prev, c :: cs)).isEmpty || searchFrom r (some c) cs

/-- `r.search(s) is not None` -/
def search [Unicode] (r : Regex) (s : String) : Bool := searchFrom r none s.toList

end Regex
