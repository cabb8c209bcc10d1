import OpsPilot.Lib.Json
/-!
# Numerals can be read back

`readDigits` takes a numeral of base 16 at most apart, whether it has leading zeros or not; so numerals
are unambiguous, and so are the hexadecimal escapes of a fixed width.
-/
namespace Digits

/-- The value of a digit, up to the `f` of base 16. -/
def digitValue (c : Char) : Nat := if c.isDigit then c.toNat - 48 else c.toNat - 87

def readDigits (b : Nat) (l : List Char) : Nat := l.foldl (fun acc c => acc * b + digitValue c) 0

theorem digitValue_digitChar {d : Nat} (h : d < 16) : digitValue d.digitChar = d := by
  have hall : ∀ d < 16, digitValue d.digitChar = d := by decide
  exact hall d h

theorem readDigits_concat (b : Nat) (l : List Char) (c : Char) :
    readDigits b (l ++ [c]) = readDigits b l * b + digitValue c := by
  rw [readDigits, List.foldl_append]
  rfl

theorem readDigits_zeros (b k : Nat) (l : List Char) : readDigits b (List.replicate k '0' ++ l) = readDigits b l := by
  induction k with
  | zero => rfl
  | succ k ih =>
    have hzero : digitValue '0' = 0 := by decide
    rw [List.replicate_succ, List.cons_append, ← ih, readDigits, List.foldl_cons, Nat.zero_mul, hzero]
    rfl

section
variable {b : Nat} (hb : 1 < b)
include hb

/-- A numeral consists of digits of its base. -/
theorem mem_toDigits {n : Nat} {c : Char} (hc : c ∈ Nat.toDigits b n) : ∃ d < b, c = d.digitChar := by
  induction n using Nat.strongRecOn with
  | ind n ih =>
    rw [Nat.toDigits_eq_if hb] at hc
    split at hc
    · rename_i hlt
      exact ⟨n, hlt, List.mem_singleton.1 hc⟩
    · rename_i hge
      rcases List.mem_append.1 hc with hhigh | hlow
      · exact ih (n / b) (Nat.div_lt_self (by omega) hb) hhigh
      · exact ⟨n % b, Nat.mod_lt _ (by omega), List.mem_singleton.1 hlow⟩

theorem readDigits_toDigits (hb16 : b ≤ 16) (n : Nat) : readDigits b (Nat.toDigits b n) = n := by
  induction n using Nat.strongRecOn with
  | ind n ih =>
    rw [Nat.toDigits_eq_if hb]
    split
    · rename_i hlt
      rw [← List.nil_append [n.digitChar], readDigits_concat, digitValue_digitChar (by omega)]
      simp [readDigits]
    · rename_i hge
      have hmod := Nat.mod_lt n (Nat.lt_trans Nat.zero_lt_one hb)
      rw [readDigits_concat, ih (n / b) (Nat.div_lt_self (by omega) hb), digitValue_digitChar (by omega), Nat.mul_comm]
      exact Nat.div_add_mod n b

theorem toDigits_injective (hb16 : b ≤ 16) {m n : Nat} (h : Nat.toDigits b m = Nat.toDigits b n) : m = n := by
  rw [← readDigits_toDigits hb hb16 m, h, readDigits_toDigits hb hb16]

end

/-! ## Hexadecimal escapes -/

theorem toList_hex (width n : Nat) : (Py.hex width n).toList =
    List.replicate (width - (Nat.toDigits 16 n).length) '0' ++ Nat.toDigits 16 n := by
  rw [Py.hex, String.toList_ofList]

/-- A hexadecimal digit. -/
def IsHex (c : Char) : Prop := ∃ d < 16, c = d.digitChar

theorem isHex_of_mem_hex {width n : Nat} {c : Char} (hc : c ∈ (Py.hex width n).toList) : IsHex c := by
  rw [toList_hex] at hc
  rcases List.mem_append.1 hc with hzero | hdigit
  · exact ⟨0, by omega, (List.eq_of_mem_replicate hzero)⟩
  · exact mem_toDigits (by omega) hdigit

theorem length_hex {width n : Nat} (hpos : 0 < width) (h : n < 16 ^ width) :
    (Py.hex width n).toList.length = width := by
  have hle : (Nat.toDigits 16 n).length ≤ width := (Nat.length_toDigits_le_iff (by omega) hpos).2 h
  rw [toList_hex, List.length_append, List.length_replicate]
  omega

/-! ## The numbers of Python -/

/-- A character of a number. -/
def isNumeral (c : Char) : Bool := c.isDigit || c == '-' || c == '.' || c == 'e' || c == '+'

theorem isNumeral_of_mem_toDigits {n : Nat} {c : Char} (hc : c ∈ Nat.toDigits 10 n) : isNumeral c = true := by
  simp [isNumeral, Nat.isDigit_of_mem_toDigits (by omega) (by omega) hc]

theorem toList_int (i : Int) : (toString i).toList =
    if 0 ≤ i then Nat.toDigits 10 i.toNat else '-' :: Nat.toDigits 10 (-i).toNat := by
  rw [Int.toString_eq_repr, Int.repr_eq_if]
  split
  · exact Nat.toList_repr
  · rw [String.toList_append, Nat.toList_repr]
    rfl

theorem isNumeral_of_mem_int {i : Int} {c : Char} (hc : c ∈ (toString i).toList) : isNumeral c = true := by
  rw [toList_int] at hc
  split at hc
  · exact isNumeral_of_mem_toDigits hc
  · rcases List.mem_cons.1 hc with rfl | hdigit
    · decide
    · exact isNumeral_of_mem_toDigits hdigit

/-- A decimal numeral by its parts. -/
structure Decimal where
  int : List Char
  frac : Option (List Char) := none
  exponent : Option Int := none

namespace Decimal

def exponentText (e : Int) : List Char :=
  let es := Nat.toDigits 10 e.natAbs
  ['e', if e < 0 then '-' else '+'] ++ List.replicate (2 - es.length) '0' ++ es

def text (d : Decimal) : List Char :=
  d.int ++ (d.frac.elim [] fun frac => '.' :: frac) ++ d.exponent.elim [] exponentText

/-- Its parts are made of digits. -/
structure Plain (d : Decimal) : Prop where
  int : ∀ c ∈ d.int, c.isDigit = true
  frac : ∀ frac, d.frac = some frac → ∀ c ∈ frac, c.isDigit = true

/-- What stands before the exponent. -/
def significand (d : Decimal) : List Char := d.int ++ d.frac.elim [] fun frac => '.' :: frac

/-- The number is `mantissa * 10 ^ scale`. -/
def mantissa (d : Decimal) : Nat := readDigits 10 (d.int ++ d.frac.getD [])

def scale (d : Decimal) : Int := d.exponent.getD 0 - (d.frac.getD []).length

theorem mem_significand {d : Decimal} (h : d.Plain) {c : Char} (hc : c ∈ d.significand) :
    c.isDigit = true ∨ c = '.' := by
  rcases List.mem_append.1 hc with hint | hfrac
  · exact .inl (h.int c hint)
  · cases hf : d.frac with
    | none =>
      rw [hf] at hfrac
      cases hfrac
    | some frac =>
      rw [hf] at hfrac
      rcases List.mem_cons.1 hfrac with rfl | hmem
      · exact .inr rfl
      · exact .inl (h.frac frac hf c hmem)

theorem isNumeral_of_mem_text {d : Decimal} (h : d.Plain) {c : Char} (hc : c ∈ d.text) : isNumeral c = true := by
  have hdigit : ∀ c : Char, c.isDigit = true → isNumeral c = true := by
    intro c hc
    simp [isNumeral, hc]
  rcases List.mem_append.1 hc with hmant | hexp
  · rcases mem_significand h hmant with hd | rfl
    · exact hdigit c hd
    · decide
  · cases he : d.exponent with
    | none =>
      rw [he] at hexp
      cases hexp
    | some e =>
      rw [he] at hexp
      rcases List.mem_append.1 hexp with hsign | hdigits
      · rcases List.mem_append.1 hsign with hletter | hzero
        · have hcases : c = 'e' ∨ c = '-' ∨ c = '+' := by
            by_cases hneg : e < 0 <;> simp [hneg] at hletter <;> rcases hletter with rfl | rfl <;> simp
          rcases hcases with rfl | rfl | rfl <;> decide
        · rw [List.eq_of_mem_replicate hzero]
          decide
      · exact isNumeral_of_mem_toDigits hdigits

end Decimal

/-- What `repr` writes after the sign. -/
def decimal (f : PyFloat) : Decimal :=
  let ds := Nat.toDigits 10 f.digits
  let n : Int := ds.length
  let point : Int := n + f.exp
  let zeros (k : Int) := List.replicate k.toNat '0'
  if f.digits = 0 then { int := ['0'], frac := some ['0'] }
  else if -4 < point ∧ point ≤ 16 then
    if point ≤ 0 then { int := ['0'], frac := some (zeros (-point) ++ ds) }
    else if n ≤ point then { int := ds ++ zeros (point - n), frac := some ['0'] }
    else { int := ds.take point.toNat, frac := some (ds.drop point.toNat) }
  else { int := ds.take 1, frac := if ds.length = 1 then none else some (ds.drop 1), exponent := some (point - 1) }

theorem toList_float (f : PyFloat) :
    f.repr.toList = if f.neg then '-' :: (decimal f).text else (decimal f).text := by
  have hbody : ∀ b : Bool, ∀ body body' : List Char, body = body' →
      (if b then '-' :: body else body) = if b then '-' :: body' else body' := by
    rintro b body _ rfl
    rfl
  rw [PyFloat.repr]
  simp only [String.toList_ofList]
  refine hbody _ _ _ ?_
  simp only [decimal]
  split
  · rfl
  · split
    · split
      · simp [Decimal.text]
      · split
        · simp [Decimal.text]
        · simp [Decimal.text]
    · split
      · simp [Decimal.text, Decimal.exponentText]
      · simp [Decimal.text, Decimal.exponentText]

theorem isDigit_of_mem_zeros {k : Nat} {c : Char} (hc : c ∈ List.replicate k '0') : c.isDigit = true := by
  rw [List.eq_of_mem_replicate hc]
  decide

theorem plain_decimal (f : PyFloat) : (decimal f).Plain := by
  have hdigits : ∀ c ∈ Nat.toDigits 10 f.digits, c.isDigit = true := fun c hc =>
    Nat.isDigit_of_mem_toDigits (by omega) (by omega) hc
  have hzero : ∀ c ∈ ['0'], c.isDigit = true := List.all_eq_true.1 rfl
  have happend : ∀ {a b : List Char}, (∀ c ∈ a, c.isDigit = true) → (∀ c ∈ b, c.isDigit = true) →
      ∀ c ∈ a ++ b, c.isDigit = true := by
    intro a b ha hb c hc
    exact (List.mem_append.1 hc).elim (ha c) (hb c)
  simp only [decimal]
  split
  · exact ⟨hzero, by rintro _ ⟨⟩; exact hzero⟩
  · split
    · split
      · exact ⟨hzero, by rintro _ ⟨⟩; exact happend (fun c hc => isDigit_of_mem_zeros hc) hdigits⟩
      · split
        · exact ⟨happend hdigits fun c hc => isDigit_of_mem_zeros hc, by rintro _ ⟨⟩; exact hzero⟩
        · exact ⟨fun c hc => hdigits c (List.mem_of_mem_take hc),
            by rintro _ ⟨⟩; exact fun c hc => hdigits c (List.mem_of_mem_drop hc)⟩
    · refine ⟨fun c hc => hdigits c (List.mem_of_mem_take hc), fun frac hfrac => ?_⟩
      simp only at hfrac
      split at hfrac
      · cases hfrac
      · cases hfrac
        exact fun c hc => hdigits c (List.mem_of_mem_drop hc)

/-! ## Numbers are read back -/

namespace Decimal

def readMantissa (l : List Char) : Nat := readDigits 10 ((l.takeWhile (· != 'e')).filter Char.isDigit)

/-- How many digits are behind the point. -/
def fracLength (l : List Char) : Nat := ((l.takeWhile (· != 'e')).dropWhile (· != '.')).tail.length

def readExponent (l : List Char) : Int :=
  match (l.dropWhile (· != 'e')).tail with
  | [] => 0
  | sign :: es => if sign = '-' then -(readDigits 10 es : Int) else readDigits 10 es

theorem ne_of_isDigit {c x : Char} (hc : c.isDigit = true) (hx : x.isDigit = false) : c ≠ x := by
  rintro rfl
  exact Bool.noConfusion (hc.symm.trans hx)

theorem ne_of_mem_significand {d : Decimal} (h : d.Plain) {c : Char} (hc : c ∈ d.significand) : c ≠ 'e' := by
  rcases mem_significand h hc with hd | rfl
  · exact ne_of_isDigit hd (by decide)
  · decide

/-- The exponent begins where the first `e` is. -/
theorem splits_text {d : Decimal} (h : d.Plain) : d.text.takeWhile (· != 'e') = d.significand ∧
    d.text.dropWhile (· != 'e') = d.exponent.elim [] exponentText := by
  have hall : ∀ c ∈ d.significand, (c != 'e') = true := fun c hc => bne_iff_ne.2 (ne_of_mem_significand h hc)
  have htext : d.text = d.significand ++ d.exponent.elim [] exponentText := rfl
  rw [htext, List.takeWhile_append_of_pos hall, List.dropWhile_append_of_pos hall]
  cases d.exponent with
  | none => simp
  | some e => simp [exponentText]

theorem readMantissa_text {d : Decimal} (h : d.Plain) : readMantissa d.text = d.mantissa := by
  have hpoint : Char.isDigit '.' = false := by decide
  rw [readMantissa, (splits_text h).1, mantissa, significand, List.filter_append, List.filter_eq_self.2 h.int]
  cases hf : d.frac with
  | none => rfl
  | some frac =>
    simp only [Option.elim_some, Option.getD_some]
    rw [List.filter_cons_of_neg (by simp [hpoint]), List.filter_eq_self.2 (h.frac frac hf)]

theorem fracLength_text {d : Decimal} (h : d.Plain) : fracLength d.text = (d.frac.getD []).length := by
  have hall : ∀ c ∈ d.int, (c != '.') = true := fun c hc => bne_iff_ne.2 (ne_of_isDigit (h.int c hc) (by decide))
  rw [fracLength, (splits_text h).1, significand, List.dropWhile_append_of_pos hall]
  cases d.frac with
  | none => rfl
  | some frac => simp

theorem readExponent_text {d : Decimal} (h : d.Plain) : readExponent d.text = d.exponent.getD 0 := by
  rw [readExponent, (splits_text h).2]
  cases d.exponent with
  | none => rfl
  | some e =>
    have hread : readDigits 10 (List.replicate (2 - (Nat.toDigits 10 e.natAbs).length) '0' ++
        Nat.toDigits 10 e.natAbs) = e.natAbs := by
      rw [readDigits_zeros, readDigits_toDigits (by omega) (by omega)]
    simp only [Option.elim_some, Option.getD_some, exponentText, List.cons_append, List.nil_append, List.tail_cons,
      hread]
    by_cases hneg : e < 0
    · rw [if_pos hneg, if_pos rfl]
      omega
    · rw [if_neg hneg, if_neg (by decide)]
      omega

/-- A decimal numeral determines its mantissa and scale. -/
theorem read_text {d d' : Decimal} (h : d.Plain) (h' : d'.Plain) (htext : d.text = d'.text) :
    d.mantissa = d'.mantissa ∧ d.scale = d'.scale := by
  constructor
  · rw [← readMantissa_text h, htext, readMantissa_text h']
  · rw [scale, scale, ← readExponent_text h, ← fracLength_text h, htext, readExponent_text h', fracLength_text h']

end Decimal

/-- Without trailing zeros a mantissa has one scale. -/
theorem mantissa_unique {m n k j : Nat} (hm : m % 10 ≠ 0) (hn : n % 10 ≠ 0) (h : m * 10 ^ k = n * 10 ^ j) :
    m = n ∧ k = j := by
  induction k generalizing j with
  | zero =>
    cases j with
    | zero => exact ⟨by simpa using h, rfl⟩
    | succ j =>
      rw [Nat.pow_zero, Nat.mul_one, Nat.pow_succ, ← Nat.mul_assoc] at h
      exact absurd (by rw [h, Nat.mul_mod_left]) hm
  | succ k ih =>
    cases j with
    | zero =>
      rw [Nat.pow_zero, Nat.mul_one, Nat.pow_succ, ← Nat.mul_assoc] at h
      exact absurd (by rw [← h, Nat.mul_mod_left]) hn
    | succ j =>
      rw [Nat.pow_succ, Nat.pow_succ, ← Nat.mul_assoc, ← Nat.mul_assoc] at h
      obtain ⟨hmn, hkj⟩ := ih (Nat.eq_of_mul_eq_mul_right (by omega) h)
      exact ⟨hmn, congrArg (· + 1) hkj⟩

theorem isNumeral_of_mem_float {f : PyFloat} {c : Char} (hc : c ∈ f.repr.toList) : isNumeral c = true := by
  rw [toList_float] at hc
  split at hc
  · rcases List.mem_cons.1 hc with rfl | htext
    · decide
    · exact Decimal.isNumeral_of_mem_text (plain_decimal f) htext
  · exact Decimal.isNumeral_of_mem_text (plain_decimal f) hc

theorem readDigits_append_zeros (l : List Char) (k : Nat) :
    readDigits 10 (l ++ List.replicate k '0') = readDigits 10 l * 10 ^ k := by
  induction k with
  | zero => simp
  | succ k ih =>
    have hzero : digitValue '0' = 0 := by decide
    rw [List.replicate_succ', ← List.append_assoc, readDigits_concat, ih, hzero, Nat.pow_succ, Nat.mul_assoc]
    rfl

/-- What `repr` writes is the number, up to zeros at the end. -/
theorem decimal_value (f : PyFloat) :
    ∃ k : Nat, (decimal f).mantissa = f.digits * 10 ^ k ∧ (decimal f).scale = f.exp - k := by
  have hread : readDigits 10 (Nat.toDigits 10 f.digits) = f.digits := readDigits_toDigits (by omega) (by omega) _
  have hpos : 0 < (Nat.toDigits 10 f.digits).length := List.length_pos_iff.2 Nat.toDigits_ne_nil
  have hone : f.digits = f.digits * 10 ^ 0 := by rw [Nat.pow_zero, Nat.mul_one]
  simp only [decimal]
  generalize Nat.toDigits 10 f.digits = ds at hread hpos ⊢
  split
  · rename_i hzero
    have hexp : f.exp = 0 := by
      rcases f.normal with hmod | h
      · omega
      · exact h.2
    refine ⟨1, ?_, ?_⟩
    · rw [hzero]
      rfl
    · rw [hexp]
      rfl
  · split
    · split
      · refine ⟨0, ?_, ?_⟩
        · exact (readDigits_zeros 10 1 _).trans ((readDigits_zeros 10 _ _).trans (hread.trans hone))
        · simp only [Decimal.scale, Option.getD_none, Option.getD_some, List.length_append, List.length_replicate]
          omega
      · split
        · -- one zero more than the exponent says: the digit behind the point
          rename_i hpoint
          have hcount : ds.length + f.exp - ds.length = f.exp := by omega
          refine ⟨f.exp.toNat + 1, ?_, ?_⟩
          · rw [Decimal.mantissa, hcount, Option.getD_some, List.append_assoc, ← List.replicate_succ',
              readDigits_append_zeros, hread]
          · simp only [Decimal.scale, Option.getD_none, Option.getD_some, List.length_singleton]
            omega
        · refine ⟨0, ?_, ?_⟩
          · rw [Decimal.mantissa, Option.getD_some, List.take_append_drop, hread]
            exact hone
          · simp only [Decimal.scale, Option.getD_none, Option.getD_some, List.length_drop]
            omega
    · refine ⟨0, ?_, ?_⟩
      · have hdigits : ds.take 1 ++ (if ds.length = 1 then none else some (ds.drop 1)).getD [] = ds := by
          split
          · rename_i hlen
            rw [Option.getD_none, List.append_nil, List.take_of_length_le (Nat.le_of_eq hlen)]
          · rw [Option.getD_some, List.take_append_drop]
        rw [Decimal.mantissa, hdigits, hread]
        exact hone
      · have hlength : ((if ds.length = 1 then none else some (ds.drop 1)).getD []).length = ds.length - 1 := by
          split
          · rename_i hlen
            rw [hlen]
            rfl
          · rw [Option.getD_some, List.length_drop]
        rw [Decimal.scale, Option.getD_some, hlength]
        omega

/-- A decimal numeral begins with a digit. -/
theorem decimal_head (f : PyFloat) : ∃ c rest, (decimal f).text = c :: rest ∧ c.isDigit = true := by
  have hint : (decimal f).int ≠ [] := by
    have hds : Nat.toDigits 10 f.digits ≠ [] := Nat.toDigits_ne_nil
    simp only [decimal]
    split
    · exact List.cons_ne_nil _ _
    · split
      · split
        · exact List.cons_ne_nil _ _
        · split
          · exact List.append_ne_nil_of_left_ne_nil hds _
          · rename_i hpoint _
            simp only [ne_eq, List.take_eq_nil_iff, hds, or_false]
            omega
      · simp only [ne_eq, List.take_eq_nil_iff, hds, or_false]
        omega
  obtain ⟨c, rest, hcons⟩ := List.exists_cons_of_ne_nil hint
  have hmem : c ∈ (decimal f).int := by
    rw [hcons]
    exact List.mem_cons_self
  have htext : (decimal f).text = c :: (rest ++ ((decimal f).frac.elim [] fun frac => '.' :: frac) ++
      (decimal f).exponent.elim [] Decimal.exponentText) := by
    rw [Decimal.text, hcons, List.cons_append, List.cons_append]
  exact ⟨c, _, htext, (plain_decimal f).int c hmem⟩

theorem repr_injective {f g : PyFloat} (h : f.repr = g.repr) : f = g := by
  have hlist := congrArg String.toList h
  rw [toList_float, toList_float] at hlist
  obtain ⟨c, rest, hf, hc⟩ := decimal_head f
  obtain ⟨d, rest', hg, hd⟩ := decimal_head g
  have hminus : ∀ {c : Char}, c.isDigit = true → c ≠ '-' := fun hc => Decimal.ne_of_isDigit hc (by decide)
  have hsame : f.neg = g.neg ∧ (decimal f).text = (decimal g).text := by
    cases hfneg : f.neg with
    | true =>
      cases hgneg : g.neg with
      | true =>
        rw [hfneg, hgneg, if_pos rfl, if_pos rfl] at hlist
        exact ⟨rfl, (List.cons.inj hlist).2⟩
      | false =>
        rw [hfneg, hgneg, if_pos rfl, if_neg Bool.false_ne_true, hg] at hlist
        exact absurd (List.cons.inj hlist).1.symm (hminus hd)
    | false =>
      cases hgneg : g.neg with
      | true =>
        rw [hfneg, hgneg, if_neg Bool.false_ne_true, if_pos rfl, hf] at hlist
        exact absurd (List.cons.inj hlist).1 (hminus hc)
      | false =>
        rw [hfneg, hgneg, if_neg Bool.false_ne_true, if_neg Bool.false_ne_true] at hlist
        exact ⟨rfl, hlist⟩
  obtain ⟨hmantissa, hscale⟩ := Decimal.read_text (plain_decimal f) (plain_decimal g) hsame.2
  obtain ⟨k, hk, hkscale⟩ := decimal_value f
  obtain ⟨j, hj, hjscale⟩ := decimal_value g
  rw [hk, hj] at hmantissa
  rw [hkscale, hjscale] at hscale
  have hvalue : f.digits = g.digits ∧ f.exp = g.exp := by
    rcases f.normal with hfmod | ⟨hfzero, hfexp⟩
    · rcases g.normal with hgmod | ⟨hgzero, hgexp⟩
      · obtain ⟨hdigits, rfl⟩ := mantissa_unique hfmod hgmod hmantissa
        exact ⟨hdigits, by omega⟩
      · rw [hgzero, Nat.zero_mul] at hmantissa
        have hten : 0 < 10 ^ k := Nat.pow_pos (by omega)
        rcases Nat.mul_eq_zero.1 hmantissa with hzero | hzero <;> omega
    · rcases g.normal with hgmod | ⟨hgzero, hgexp⟩
      · rw [hfzero, Nat.zero_mul] at hmantissa
        have hten : 0 < 10 ^ j := Nat.pow_pos (by omega)
        rcases Nat.mul_eq_zero.1 hmantissa.symm with hzero | hzero <;> omega
      · exact ⟨hfzero.trans hgzero.symm, hfexp.trans hgexp.symm⟩
  cases f
  cases g
  obtain ⟨rfl, rfl⟩ := hvalue
  obtain rfl := hsame.1
  rfl

theorem int_injective {i j : Int} (h : toString i = toString j) : i = j := by
  have hlist := congrArg String.toList h
  rw [toList_int, toList_int] at hlist
  have hminus : ∀ n, '-' ∉ Nat.toDigits 10 n := fun n hmem =>
    absurd (Nat.isDigit_of_mem_toDigits (by omega) (by omega) hmem) (by decide)
  split at hlist
  · split at hlist
    · have := toDigits_injective (by omega) (by omega) hlist
      omega
    · exact absurd (by rw [hlist]; exact List.mem_cons_self) (hminus i.toNat)
  · split at hlist
    · exact absurd (by rw [← hlist]; exact List.mem_cons_self) (hminus j.toNat)
    · have := toDigits_injective (by omega) (by omega) (List.cons.inj hlist).2
      omega

/-- A float is written with a point or with an exponent. -/
theorem exists_mark_float (f : PyFloat) : ∃ c ∈ f.repr.toList, c = '.' ∨ c = 'e' := by
  have htext : ∃ c ∈ (decimal f).text, c = '.' ∨ c = 'e' := by
    cases hfrac : (decimal f).frac with
    | some frac => exact ⟨'.', by simp [Decimal.text, hfrac], .inl rfl⟩
    | none =>
      cases hexp : (decimal f).exponent with
      | some e => exact ⟨'e', by simp [Decimal.text, Decimal.exponentText, hexp], .inr rfl⟩
      | none =>
        simp only [decimal] at hfrac hexp
        split at hfrac
        · cases hfrac
        · split at hfrac
          · split at hfrac
            · cases hfrac
            · split at hfrac <;> cases hfrac
          · simp_all
  obtain ⟨c, hc, hmark⟩ := htext
  refine ⟨c, ?_, hmark⟩
  rw [toList_float]
  split
  · exact List.mem_cons_of_mem _ hc
  · exact hc

theorem int_ne_float (i : Int) (f : PyFloat) : toString i ≠ f.repr := by
  intro h
  obtain ⟨c, hc, hmark⟩ := exists_mark_float f
  rw [← h, toList_int] at hc
  have hdigit : ∀ n, c ∉ Nat.toDigits 10 n := by
    intro n hmem
    have hcases := Nat.isDigit_of_mem_toDigits (by omega) (by omega) hmem
    rcases hmark with rfl | rfl <;> revert hcases <;> decide
  split at hc
  · exact hdigit _ hc
  · rcases List.mem_cons.1 hc with rfl | hmem
    · rcases hmark with h | h <;> revert h <;> decide
    · exact hdigit _ hmem

end Digits
