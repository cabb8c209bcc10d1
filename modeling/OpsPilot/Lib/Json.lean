import Mathlib.Algebra.Group.Nat.Defs
import OpsPilot.Lib.Dict
import OpsPilot.Lib.Text
/-!
# JSON values as Python sees them

What `json.loads` can return: `None`, booleans, integers, floats, strings, lists and dicts
with string keys. `Json.dumps` is `json.dumps` with its default separators and ASCII
escapes, `Json.pyStr` is what an f-string prints.
-/

/-- A finite float by its shortest round-tripping decimal, `± digits · 10 ^ exp`. -/
structure PyFloat where
  neg : Bool
  digits : Nat
  exp : Int
  /-- The significand carries no trailing zero. -/
  normal : digits % 10 ≠ 0 ∨ digits = 0 ∧ exp = 0
deriving DecidableEq

namespace PyFloat

/-- `float.__repr__`: positional for `1e-4 ≤ |x| < 1e16`, else scientific. -/
def repr (f : PyFloat) : String :=
  let ds := Nat.toDigits 10 f.digits
  let n : Int := ds.length
  let point : Int := n + f.exp
  let zeros (k : Int) := List.replicate k.toNat '0'
  let body : List Char :=
    if f.digits = 0 then ['0', '.', '0']
    else if -4 < point ∧ point ≤ 16 then
      if point ≤ 0 then ['0', '.'] ++ zeros (-point) ++ ds
      else if n ≤ point then ds ++ zeros (point - n) ++ ['.', '0']
      else ds.take point.toNat ++ '.' :: ds.drop point.toNat
    else
      let e := point - 1
      let es := Nat.toDigits 10 e.natAbs
      ds.take 1 ++ (if ds.length = 1 then [] else '.' :: ds.drop 1) ++
        ['e', if e < 0 then '-' else '+'] ++ List.replicate (2 - es.length) '0' ++ es
  String.ofList (if f.neg then '-' :: body else body)

/-- `0.0 <= f <= 1.0` -/
def inUnit (f : PyFloat) : Bool :=
  if f.digits = 0 then true
  else !f.neg && (if 0 ≤ f.exp then decide (f.digits * 10 ^ f.exp.toNat ≤ 1)
    else decide (f.digits ≤ 10 ^ (-f.exp).toNat))

/-- `0.0` -/
def zero : PyFloat := ⟨false, 0, 0, .inr ⟨rfl, rfl⟩⟩

/-- The float written `n / 100`. -/
def ofHundredths (n : Nat) : PyFloat :=
  if h : n % 10 ≠ 0 then ⟨false, n, -2, .inl h⟩
  else if h : n / 10 % 10 ≠ 0 then ⟨false, n / 10, -1, .inl h⟩
  else if h : n = 100 then ⟨false, 1, 0, .inl (by omega)⟩
  else zero

theorem inUnit_ofHundredths {n : Nat} (h : n ≤ 100) : (ofHundredths n).inUnit = true := by
  have key : ∀ m < 101, (ofHundredths m).inUnit = true := by decide
  exact key n (by omega)

end PyFloat

inductive Json where
  | null
  | bool (b : Bool)
  | int (i : Int)
  | float (f : PyFloat)
  | str (s : String)
  | arr (xs : List Json)
  | obj (kvs : List (String × Json))
deriving Inhabited

namespace Json

/-- Induction over the values that a value is made of. -/
@[elab_as_elim] theorem induction {P : Json → Prop} (null : P .null) (bool : ∀ b, P (.bool b)) (int : ∀ i, P (.int i))
    (float : ∀ f, P (.float f)) (str : ∀ s, P (.str s)) (arr : ∀ xs, (∀ x ∈ xs, P x) → P (.arr xs))
    (obj : ∀ kvs, (∀ e ∈ kvs, P e.2) → P (.obj kvs)) : ∀ v, P v
  | .null => null
  | .bool b => bool b
  | .int i => int i
  | .float f => float f
  | .str s => str s
  | .arr xs => arr xs fun x _ => induction null bool int float str arr obj x
  | .obj kvs => obj kvs fun e he => by
    have hlt := List.sizeOf_lt_of_mem he
    have hsnd : sizeOf e.2 < sizeOf e := by
      cases e with
      | mk k v =>
        have h : sizeOf (k, v) = 1 + sizeOf k + sizeOf v := Prod.mk.sizeOf_spec k v
        show sizeOf v < sizeOf (k, v)
        omega
    exact induction null bool int float str arr obj e.2

/-- `type(v).__name__` -/
def typeName : Json → String
  | .null => "NoneType"
  | .bool _ => "bool"
  | .int _ => "int"
  | .float _ => "float"
  | .str _ => "str"
  | .arr _ => "list"
  | .obj _ => "dict"

/-- The dict a value is, if it is one. -/
def asDict? : Json → Option (Dict String Json)
  | .obj kvs => some (Dict.ofList kvs)
  | _ => none

/-- A dict as a value again. -/
def ofDict (d : Dict String Json) : Json := .obj d.entries

/-- Truth value (`if v:`). -/
def truthy : Json → Bool
  | .null => false
  | .bool b => b
  | .int i => i != 0
  | .float f => f.digits != 0
  | .str s => s != ""
  | .arr xs => !xs.isEmpty
  | .obj kvs => !kvs.isEmpty

/-- A text or `None`. -/
def optionalText : Option String → Json
  | some s => .str s
  | none => .null

/-- `v == s` -/
def eqStr (s : String) : Json → Bool
  | .str t => t == s
  | _ => false

/-! ## `json.dumps` -/

/-- One character of a string under `ensure_ascii`; beyond the basic plane as a surrogate pair. -/
def escapeChar (c : Char) : String :=
  let n := c.toNat
  if c = '"' then "\\\""
  else if c = '\\' then "\\\\"
  else if c = '\n' then "\\n"
  else if c = '\r' then "\\r"
  else if c = '\t' then "\\t"
  else if n = 12 then "\\f"
  else if n = 8 then "\\b"
  else if 32 ≤ n ∧ n ≤ 126 then String.ofList [c]
  else if n < 0x10000 then "\\u" ++ Py.hex 4 n
  else "\\u" ++ Py.hex 4 (0xd800 + (n - 0x10000) / 0x400) ++ "\\u" ++ Py.hex 4 (0xdc00 + (n - 0x10000) % 0x400)

def quote (s : String) : String := "\"" ++ String.join (s.toList.map escapeChar) ++ "\""

/-- `sorted(d.items())` -/
def sortItems {α : Type} (items : List (String × α)) : List (String × α) :=
  items.mergeSort fun a b => decide (a.1 ≤ b.1)

mutual
/-- `json.dumps(v, sort_keys=sortKeys)` -/
def dumps (sortKeys : Bool) : Json → String
  | .null => "null"
  | .bool true => "true"
  | .bool false => "false"
  | .int i => toString i
  | .float f => f.repr
  | .str s => quote s
  | .arr xs => "[" ++ ", ".intercalate (dumpsList sortKeys xs) ++ "]"
  | .obj kvs =>
    let items := dumpsFields sortKeys kvs
    let items := if sortKeys then sortItems items else items
    "\x7b" ++ ", ".intercalate (items.map fun e => quote e.1 ++ ": " ++ e.2) ++ "\x7d"

def dumpsList (sortKeys : Bool) : List Json → List String
  | [] => []
  | v :: vs => dumps sortKeys v :: dumpsList sortKeys vs

def dumpsFields (sortKeys : Bool) : List (String × Json) → List (String × String)
  | [] => []
  | (k, v) :: kvs => (k, dumps sortKeys v) :: dumpsFields sortKeys kvs
end

/-! ## `str` and `repr` -/

section
variable [Unicode]

mutual
/-- `repr(v)` -/
def pyRepr : Json → String
  | .null => "None"
  | .bool true => "True"
  | .bool false => "False"
  | .int i => toString i
  | .float f => f.repr
  | .str s => Py.repr s
  | .arr xs => "[" ++ ", ".intercalate (pyReprList xs) ++ "]"
  | .obj kvs => "\x7b" ++ ", ".intercalate (pyReprFields kvs) ++ "\x7d"

def pyReprList : List Json → List String
  | [] => []
  | v :: vs => pyRepr v :: pyReprList vs

def pyReprFields : List (String × Json) → List String
  | [] => []
  | (k, v) :: kvs => (Py.repr k ++ ": " ++ pyRepr v) :: pyReprFields kvs
end

/-- `str(v)`: a string prints as itself, anything else as its `repr`. -/
def pyStr : Json → String
  | .str s => s
  | v => pyRepr v

end

end Json
