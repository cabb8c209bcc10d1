import Mathlib.Data.List.Infix
/-!
# Python strings: case mapping and `repr`; exceptions

The Unicode database is not spelled out: `Unicode` is any character table that agrees with
the ASCII part of the real one, and everything below holds for each such table.
-/

/-- The part of the Unicode character database that `str` methods and `\w` consult. -/
class Unicode where
  upper : Char → List Char
  alnum : Char → Bool
  printable : Char → Bool
  upper_ascii : ∀ c : Char, c.toNat < 128 → upper c = [c.toUpper]
  alnum_ascii : ∀ c : Char, c.toNat < 128 → alnum c = c.isAlphanum
  printable_ascii : ∀ c : Char, c.toNat < 128 → printable c = (32 ≤ c.toNat && c.toNat < 127 : Bool)

namespace Py

/-- The table of a program that only ever meets ASCII. -/
@[reducible] def asciiTable : Unicode where
  upper c := [c.toUpper]
  alnum c := c.isAlphanum
  printable c := (32 ≤ c.toNat && c.toNat < 127 : Bool)
  upper_ascii _ _ := rfl
  alnum_ascii _ _ := rfl
  printable_ascii _ _ := rfl

/-- `str.upper()`. -/
def upper [Unicode] (s : String) : String := String.ofList (s.toList.flatMap Unicode.upper)

theorem upper_ascii [Unicode] {s : String} (h : ∀ c ∈ s.toList, c.toNat < 128) :
    upper s = String.ofList (s.toList.map Char.toUpper) := by
  have key : ∀ l : List Char, (∀ c ∈ l, c.toNat < 128) →
      l.flatMap Unicode.upper = l.map Char.toUpper := by
    intro l
    induction l with
    | nil => intro _; rfl
    | cons c l ih =>
      intro hl
      rw [List.flatMap_cons, Unicode.upper_ascii c (hl c List.mem_cons_self),
        ih fun d hd => hl d (List.mem_cons_of_mem c hd)]
      rfl
  rw [upper, key _ h]

/-- `s[:n]` -/
def take (s : String) (n : Nat) : String := String.ofList (s.toList.take n)

/-- Lower-case hexadecimal, zero-padded to `width`. -/
def hex (width n : Nat) : String :=
  let ds := Nat.toDigits 16 n
  String.ofList (List.replicate (width - ds.length) '0' ++ ds)

/-- The escape of one character inside `repr(s)`, the quotes being `q`. -/
def reprChar [Unicode] (q c : Char) : String :=
  if c = q ∨ c = '\\' then String.ofList ['\\', c]
  else if c = '\n' then "\\n"
  else if c = '\r' then "\\r"
  else if c = '\t' then "\\t"
  else if Unicode.printable c then String.ofList [c]
  else if c.toNat < 0x100 then "\\x" ++ hex 2 c.toNat
  else if c.toNat < 0x10000 then "\\u" ++ hex 4 c.toNat
  else "\\U" ++ hex 8 c.toNat

/-- `repr(s)`: single quotes unless the text has a single and no double one. -/
def repr [Unicode] (s : String) : String :=
  let q := if s.toList.contains '\'' && !s.toList.contains '"' then '"' else '\''
  String.ofList [q] ++ String.join (s.toList.map (reprChar q)) ++ String.ofList [q]

end Py

/-- The rest of the database that is consulted here: lower case, which depends on the neighbours of
a character, and white space. -/
class UnicodeText where
  lower : String → String
  space : Char → Bool
  lower_ascii : ∀ s : String, (∀ c ∈ s.toList, c.toNat < 128) → lower s = String.ofList (s.toList.map Char.toLower)
  space_ascii : ∀ c : Char, c.toNat < 128 →
    space c = (9 ≤ c.toNat && c.toNat ≤ 13 || 28 ≤ c.toNat && c.toNat ≤ 32 : Bool)

namespace Py

@[reducible] def asciiText : UnicodeText where
  lower s := String.ofList (s.toList.map Char.toLower)
  space c := (9 ≤ c.toNat && c.toNat ≤ 13 || 28 ≤ c.toNat && c.toNat ≤ 32 : Bool)
  lower_ascii _ _ := rfl
  space_ascii _ _ := rfl

/-- `not s.strip()` -/
def isBlank [UnicodeText] (s : String) : Bool := s.toList.all UnicodeText.space

/-- `s.split()` -/
def split [UnicodeText] (s : String) : List String :=
  ((s.toList.splitOnP UnicodeText.space).filter fun l => !l.isEmpty).map String.ofList

/-- `s.replace(c, d)` for two characters -/
def replace (s : String) (c d : Char) : String :=
  String.ofList (s.toList.map fun x => if x = c then d else x)

/-- `needle in s` -/
def contains (s needle : String) : Bool := decide (needle.toList <:+: s.toList)

/-- A piece between separators is a part of the text, without separators. -/
theorem mem_splitOnPPrepend {p : Char → Bool} {l acc piece : List Char}
    (hacc : ∀ c ∈ acc, p c = false) (h : piece ∈ l.splitOnPPrepend p acc) :
    piece <:+: acc.reverse ++ l ∧ ∀ c ∈ piece, p c = false := by
  induction l generalizing acc with
  | nil =>
    obtain rfl := List.mem_singleton.1 h
    exact ⟨by simp, fun c hc => hacc c (List.mem_reverse.1 hc)⟩
  | cons x l ih =>
    cases hx : p x with
    | true =>
      rw [List.splitOnPPrepend_cons_pos hx] at h
      rcases List.mem_cons.1 h with rfl | hrest
      · exact ⟨List.infix_append_left, fun c hc => hacc c (List.mem_reverse.1 hc)⟩
      · rw [← List.splitOnPPrepend_nil_right] at hrest
        obtain ⟨hwithin, hfree⟩ := ih (by simp) hrest
        refine ⟨hwithin.trans ?_, hfree⟩
        exact (List.suffix_append (acc.reverse ++ [x]) l).isInfix.trans (by simp)
    | false =>
      rw [List.splitOnPPrepend_cons_neg hx] at h
      obtain ⟨hwithin, hfree⟩ := ih (by simpa [hx] using hacc) h
      exact ⟨by simpa using hwithin, hfree⟩

/-- A word of the text with some characters blanked is a word of the text itself. -/
theorem contains_of_mem_split [UnicodeText] {s word : String} {blanked : Char → Bool}
    (h : word ∈ split (String.ofList (s.toList.map fun x => if blanked x then ' ' else x))) :
    contains s word = true := by
  obtain ⟨piece, hmem, rfl⟩ := List.mem_map.1 h
  have hpiece := (List.mem_filter.1 hmem).1
  rw [String.toList_ofList, ← List.splitOnPPrepend_nil_right] at hpiece
  obtain ⟨hwithin, hfree⟩ := mem_splitOnPPrepend (by simp) hpiece
  obtain ⟨part, hpart, hmap⟩ := List.infix_map_iff.1 hwithin
  have hspace : UnicodeText.space ' ' = true := UnicodeText.space_ascii ' ' (by decide)
  -- nothing of the piece was blanked, for blanks are separators
  have hsame : part.map (fun x => if blanked x then ' ' else x) = part := by
    conv_rhs => rw [← List.map_id part]
    refine List.map_congr_left fun c hc => ?_
    by_cases hb : blanked c = true
    · have hblank : ' ' ∈ piece := by
        rw [hmap]
        exact List.mem_map.2 ⟨c, hc, if_pos hb⟩
      rw [hfree _ hblank] at hspace
      cases hspace
    · exact if_neg hb
  rw [contains, String.toList_ofList, hmap, hsame]
  exact decide_eq_true hpart

end Py

/-- A raised exception: its class and `str(exc)`. -/
inductive PyException where
  | typeError (msg : String)
  | attributeError (msg : String)
  | valueError (msg : String)
  | permissionError (msg : String)
  | runtimeError (msg : String)
  | validationError (msg : String)
  | other (cls msg : String)
deriving DecidableEq

namespace PyException

/-- `str(exc)` -/
def message : PyException → String
  | typeError m | attributeError m | valueError m | permissionError m | runtimeError m | validationError m
  | other _ m => m

theorem ok_of_toOption {α : Type} {x : Except PyException α} {a : α} (h : x.toOption = some a) :
    x = .ok a := by
  cases x with
  | error e => cases h
  | ok b => exact congrArg Except.ok (Option.some.inj h)

end PyException
