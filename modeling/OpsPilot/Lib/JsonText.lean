import Mathlib.Data.List.Forall2
import OpsPilot.Lib.Digits
/-!
# The text of a JSON value determines it

`json.dumps(v, sort_keys=True)` writes two values alike exactly if they differ in the order of object
keys only (`dumps_eq_iff`). Every text says where it ends; only a number needs to see what follows it.

A colon stands either in a string or before a space. `scan` follows that: it says whether the reader
is in a string.
-/
namespace Json

open Digits

/-! ## Equality up to the order of keys -/

inductive SameUpToOrder : Json → Json → Prop
  | null : SameUpToOrder .null .null
  | bool (b : Bool) : SameUpToOrder (.bool b) (.bool b)
  | int (i : Int) : SameUpToOrder (.int i) (.int i)
  | float (f : PyFloat) : SameUpToOrder (.float f) (.float f)
  | str (s : String) : SameUpToOrder (.str s) (.str s)
  | arr {xs ys : List Json} : List.Forall₂ SameUpToOrder xs ys → SameUpToOrder (.arr xs) (.arr ys)
  | obj {kvs kvs' fields fields' : List (String × Json)} : kvs.Perm fields → kvs'.Perm fields' →
      fields.map Prod.fst = fields'.map Prod.fst →
      List.Forall₂ SameUpToOrder (fields.map Prod.snd) (fields'.map Prod.snd) → SameUpToOrder (.obj kvs) (.obj kvs')

/-- At every depth the keys of an object are distinct, as those of a dict are. -/
inductive DistinctKeys : Json → Prop
  | null : DistinctKeys .null
  | bool (b : Bool) : DistinctKeys (.bool b)
  | int (i : Int) : DistinctKeys (.int i)
  | float (f : PyFloat) : DistinctKeys (.float f)
  | str (s : String) : DistinctKeys (.str s)
  | arr {xs : List Json} : (∀ x ∈ xs, DistinctKeys x) → DistinctKeys (.arr xs)
  | obj {kvs : List (String × Json)} : (kvs.map Prod.fst).Nodup → (∀ e ∈ kvs, DistinctKeys e.2) →
      DistinctKeys (.obj kvs)

/-! ## Escaped characters are read back -/

/-- The character that `\` and a letter stand for. -/
def shortEscape (c : Char) : Char :=
  if c = 'n' then '\n'
  else if c = 'r' then '\r'
  else if c = 't' then '\t'
  else if c = 'f' then Char.ofNat 12
  else if c = 'b' then Char.ofNat 8
  else c

/-- The first character of the rest of a string, and what follows it. -/
def unescape (l : List Char) : Char × List Char :=
  if l.head? ≠ some '\\' then (l.headD ' ', l.tail)
  else if l.tail.head? = some 'u' then
    let n := readDigits 16 ((l.drop 2).take 4)
    let rest := (l.drop 2).drop 4
    if 0xd800 ≤ n ∧ n < 0xe000 then
      let m := readDigits 16 ((rest.drop 2).take 4)
      (Char.ofNat (0x10000 + (n - 0xd800) * 0x400 + (m - 0xdc00)), (rest.drop 2).drop 4)
    else (Char.ofNat n, rest)
  else (shortEscape (l.tail.headD ' '), l.drop 2)

theorem readDigits_hex (width n : Nat) : readDigits 16 (Py.hex width n).toList = n := by
  rw [toList_hex, readDigits_zeros, readDigits_toDigits (by omega) (by omega)]

theorem isHex_ne {c q : Char} (h : IsHex c) (hq : q = '"' ∨ q = '\\') : c ≠ q := by
  obtain ⟨d, hd, rfl⟩ := h
  have hall : ∀ d < 16, Nat.digitChar d ≠ '"' ∧ Nat.digitChar d ≠ '\\' := by decide
  rcases hq with rfl | rfl
  · exact (hall d hd).1
  · exact (hall d hd).2

/-- How a character is written: as itself, or by `\` and a letter, or by one or two code units. -/
inductive EscapeForm (c : Char) : List Char → Prop
  | plain : c ≠ '"' → c ≠ '\\' → EscapeForm c [c]
  | short (letter : Char) : letter ∈ ['"', '\\', 'n', 'r', 't', 'f', 'b'] → shortEscape letter = c →
      EscapeForm c ['\\', letter]
  | unit : c.toNat < 0x10000 → EscapeForm c ('\\' :: 'u' :: (Py.hex 4 c.toNat).toList)
  | pair : 0x10000 ≤ c.toNat →
      EscapeForm c ('\\' :: 'u' :: ((Py.hex 4 (0xd800 + (c.toNat - 0x10000) / 0x400)).toList ++
        '\\' :: 'u' :: (Py.hex 4 (0xdc00 + (c.toNat - 0x10000) % 0x400)).toList))

theorem toList_unit (hex : String) : ("\\u" ++ hex).toList = '\\' :: 'u' :: hex.toList := by
  rw [String.toList_append]
  rfl

theorem escapeForm (c : Char) : EscapeForm c (escapeChar c).toList := by
  have hshort : ∀ (letter : Char) {n : Nat}, letter ∈ ['"', '\\', 'n', 'r', 't', 'f', 'b'] → c.toNat = n →
      shortEscape letter = Char.ofNat n → EscapeForm c ['\\', letter] := by
    intro letter n hletter hn heq
    refine .short letter hletter ?_
    rw [heq, ← hn, Char.ofNat_toNat]
  unfold escapeChar
  simp only
  split
  · rename_i h
    exact .short '"' (by decide) h.symm
  · rename_i hquote
    split
    · rename_i h
      exact .short '\\' (by decide) h.symm
    · rename_i hback
      split
      · rename_i h
        exact .short 'n' (by decide) h.symm
      · split
        · rename_i h
          exact .short 'r' (by decide) h.symm
        · split
          · rename_i h
            exact .short 't' (by decide) h.symm
          · split
            · rename_i h
              exact hshort 'f' (by decide) h rfl
            · split
              · rename_i h
                exact hshort 'b' (by decide) h rfl
              · split
                · rw [String.toList_ofList]
                  exact .plain hquote hback
                · split
                  · rename_i h
                    rw [toList_unit]
                    exact .unit h
                  · rename_i h
                    have happend : ∀ hi lo : String, ("\\u" ++ hi ++ "\\u" ++ lo).toList =
                        '\\' :: 'u' :: (hi.toList ++ '\\' :: 'u' :: lo.toList) := by
                      intro hi lo
                      rw [String.append_assoc, String.toList_append, toList_unit, toList_unit]
                      rfl
                    rw [happend]
                    exact .pair (Nat.le_of_not_lt h)

/-- A code unit of its own is none of a pair. -/
theorem not_surrogate (c : Char) : ¬ (0xd800 ≤ c.toNat ∧ c.toNat < 0xe000) := by
  have hvalid : c.toNat < 0xd800 ∨ 0xdfff < c.toNat ∧ c.toNat < 0x110000 := c.valid
  omega

theorem toNat_lt (c : Char) : c.toNat < 0x110000 := by
  have hvalid : c.toNat < 0xd800 ∨ 0xdfff < c.toNat ∧ c.toNat < 0x110000 := c.valid
  omega

theorem unescape_escapeChar (c : Char) (x : List Char) : unescape ((escapeChar c).toList ++ x) = (c, x) := by
  have hread : ∀ {n : Nat} (rest : List Char), n < 0x10000 →
      readDigits 16 (((Py.hex 4 n).toList ++ rest).take 4) = n ∧ ((Py.hex 4 n).toList ++ rest).drop 4 = rest := by
    intro n rest hn
    have hlen : (Py.hex 4 n).toList.length = 4 := length_hex (by omega) hn
    rw [List.take_left' hlen, List.drop_left' hlen, readDigits_hex]
    exact ⟨rfl, rfl⟩
  have hunit : ∀ z : List Char, unescape ('\\' :: 'u' :: z) =
      if 0xd800 ≤ readDigits 16 (z.take 4) ∧ readDigits 16 (z.take 4) < 0xe000 then
        (Char.ofNat (0x10000 + (readDigits 16 (z.take 4) - 0xd800) * 0x400 +
          (readDigits 16 (((z.drop 4).drop 2).take 4) - 0xdc00)), ((z.drop 4).drop 2).drop 4)
      else (Char.ofNat (readDigits 16 (z.take 4)), z.drop 4) := fun _ => rfl
  have hform := escapeForm c
  generalize (escapeChar c).toList = l at hform ⊢
  cases hform with
  | plain _ hback => simp [unescape, hback]
  | short letter hletter heq =>
    have hu : letter ≠ 'u' := by
      rintro rfl
      revert hletter
      decide
    simp [unescape, hu, heq]
  | unit hlt =>
    obtain ⟨htake, hdrop⟩ := hread x hlt
    rw [List.cons_append, List.cons_append, hunit, htake, hdrop, if_neg (not_surrogate c), Char.ofNat_toNat]
  | pair hge =>
    have hlt := toNat_lt c
    have hhi : 0xd800 + (c.toNat - 0x10000) / 0x400 < 0xdc00 := by omega
    have hlo : 0xdc00 + (c.toNat - 0x10000) % 0x400 < 0x10000 := by omega
    have hvalue : 0x10000 + (0xd800 + (c.toNat - 0x10000) / 0x400 - 0xd800) * 0x400 +
        (0xdc00 + (c.toNat - 0x10000) % 0x400 - 0xdc00) = c.toNat := by omega
    obtain ⟨htake, hdrop⟩ :=
      hread ('\\' :: 'u' :: ((Py.hex 4 (0xdc00 + (c.toNat - 0x10000) % 0x400)).toList ++ x))
        (Nat.lt_trans hhi (by omega))
    obtain ⟨htake', hdrop'⟩ := hread x hlo
    rw [List.cons_append, List.cons_append, List.append_assoc, List.cons_append, List.cons_append, hunit, htake, hdrop,
      if_pos ⟨by omega, by omega⟩, List.drop_succ_cons, List.drop_succ_cons, List.drop_zero, htake', hdrop', hvalue,
      Char.ofNat_toNat]

theorem escapeChar_append_inj {c d : Char} {x y : List Char}
    (h : (escapeChar c).toList ++ x = (escapeChar d).toList ++ y) : c = d ∧ x = y := by
  have hread := congrArg unescape h
  rw [unescape_escapeChar, unescape_escapeChar] at hread
  exact Prod.mk.inj hread

/-- No escaped character looks like the end of the string. -/
theorem escapeChar_head (c : Char) : ∃ d rest, (escapeChar c).toList = d :: rest ∧ d ≠ '"' := by
  have hform := escapeForm c
  generalize (escapeChar c).toList = l at hform ⊢
  cases hform with
  | plain hquote _ => exact ⟨c, [], rfl, hquote⟩
  | short _ _ _ => exact ⟨'\\', _, rfl, by decide⟩
  | unit _ => exact ⟨'\\', _, rfl, by decide⟩
  | pair _ => exact ⟨'\\', _, rfl, by decide⟩

/-! ## Texts that say where they end -/

theorem toList_quote (s : String) :
    (quote s).toList = '"' :: (s.toList.flatMap (fun c => (escapeChar c).toList) ++ ['"']) := by
  simp [quote, List.flatMap_map]

theorem quote_append_inj {s t : String} {x y : List Char} (h : (quote s).toList ++ x = (quote t).toList ++ y) :
    s = t ∧ x = y := by
  have hchars : ∀ cs ds : List Char,
      cs.flatMap (fun c => (escapeChar c).toList) ++ '"' :: x =
        ds.flatMap (fun c => (escapeChar c).toList) ++ '"' :: y →
      cs = ds ∧ x = y := by
    intro cs
    induction cs with
    | nil =>
      intro ds h
      cases ds with
      | nil => exact ⟨rfl, (List.cons.inj h).2⟩
      | cons d ds =>
        obtain ⟨e, rest, he, hquote⟩ := escapeChar_head d
        rw [List.flatMap_cons, he] at h
        exact absurd (List.cons.inj h).1.symm hquote
    | cons c cs ih =>
      intro ds h
      cases ds with
      | nil =>
        obtain ⟨e, rest, he, hquote⟩ := escapeChar_head c
        rw [List.flatMap_cons, he] at h
        exact absurd (List.cons.inj h).1 hquote
      | cons d ds =>
        rw [List.flatMap_cons, List.flatMap_cons, List.append_assoc, List.append_assoc] at h
        obtain ⟨rfl, hrest⟩ := escapeChar_append_inj h
        obtain ⟨rfl, hxy⟩ := ih ds hrest
        exact ⟨rfl, hxy⟩
  rw [toList_quote, toList_quote, List.cons_append, List.cons_append, List.append_assoc, List.append_assoc] at h
  obtain ⟨hst, hxy⟩ := hchars s.toList t.toList (List.cons.inj h).2
  exact ⟨String.ext hst, hxy⟩

/-- What follows goes on with no number. -/
def Ended (x : List Char) : Prop := ∀ c ∈ x.head?, isNumeral c = false

theorem ended_cons {c : Char} (hc : isNumeral c = false) (x : List Char) : Ended (c :: x) := by
  rintro d ⟨⟩
  exact hc

theorem takeWhile_numeral {a x : List Char} (ha : ∀ c ∈ a, isNumeral c = true) (hx : Ended x) :
    (a ++ x).takeWhile isNumeral = a := by
  rw [List.takeWhile_append_of_pos ha]
  cases x with
  | nil => rw [List.takeWhile_nil, List.append_nil]
  | cons c x =>
    have hc : ¬ isNumeral c = true := Bool.eq_false_iff.1 (hx c rfl)
    rw [List.takeWhile_cons_of_neg hc, List.append_nil]

theorem numeral_append_inj {a b x y : List Char} (ha : ∀ c ∈ a, isNumeral c = true)
    (hb : ∀ c ∈ b, isNumeral c = true) (hx : Ended x) (hy : Ended y) (h : a ++ x = b ++ y) : a = b ∧ x = y := by
  have htake := congrArg (List.takeWhile isNumeral) h
  rw [takeWhile_numeral ha hx, takeWhile_numeral hb hy] at htake
  rw [htake] at h
  exact ⟨htake, List.append_cancel_left h⟩

/-- Parts between commas, up to a closing bracket, if each part says where it ends. -/
theorem intercalate_append_inj {α : Type} {f : α → List Char} {R : α → α → Prop} {close : Char}
    (hclose : close ≠ ',' ∧ isNumeral close = false)
    (hhead : ∀ a, ∃ c rest, f a = c :: rest ∧ c ≠ close) {as : List α}
    (hparts : ∀ a ∈ as, ∀ b x y, Ended x → Ended y → f a ++ x = f b ++ y → R a b ∧ x = y) :
    ∀ (bs : List α) {x y : List Char}, [',', ' '].intercalate (as.map f) ++ close :: x =
      [',', ' '].intercalate (bs.map f) ++ close :: y → List.Forall₂ R as bs ∧ x = y := by
  have hcomma : isNumeral ',' = false := by decide
  have hstart : ∀ (a : α) (l z : List Char), f a ++ l ≠ close :: z := by
    intro a l z h
    obtain ⟨c, rest, hf, hc⟩ := hhead a
    rw [hf] at h
    exact hc (List.cons.inj h).1
  have hne : ∀ (z z' : List Char), ',' :: z ≠ close :: z' := fun _ _ h => hclose.1 (List.cons.inj h).1.symm
  induction as with
  | nil =>
    intro bs x y h
    cases bs with
    | nil => exact ⟨.nil, (List.cons.inj h).2⟩
    | cons b bs =>
      cases bs with
      | nil => exact absurd h.symm (by simpa using hstart b _ _)
      | cons b' bs => exact absurd h.symm (by simpa using hstart b _ _)
  | cons a as ih =>
    rw [List.forall_mem_cons] at hparts
    intro bs x y h
    cases bs with
    | nil =>
      cases as with
      | nil => exact absurd h (by simpa using hstart a _ _)
      | cons a' as => exact absurd h (by simpa using hstart a _ _)
    | cons b bs =>
      cases as with
      | nil =>
        cases bs with
        | nil =>
          simp only [List.map_cons, List.map_nil, List.intercalate_singleton] at h
          obtain ⟨hab, hxy⟩ := hparts.1 b _ _ (ended_cons hclose.2 _) (ended_cons hclose.2 _) h
          exact ⟨.cons hab .nil, (List.cons.inj hxy).2⟩
        | cons b' bs =>
          simp only [List.map_cons, List.map_nil, List.intercalate_singleton, List.intercalate_cons_cons,
            List.append_assoc, List.cons_append] at h
          obtain ⟨-, hrest⟩ := hparts.1 b _ _ (ended_cons hclose.2 _) (ended_cons hcomma _) h
          exact absurd hrest.symm (hne _ _)
      | cons a' as =>
        cases bs with
        | nil =>
          simp only [List.map_cons, List.map_nil, List.intercalate_singleton, List.intercalate_cons_cons,
            List.append_assoc, List.cons_append] at h
          obtain ⟨-, hrest⟩ := hparts.1 b _ _ (ended_cons hcomma _) (ended_cons hclose.2 _) h
          exact absurd hrest (hne _ _)
        | cons b' bs =>
          simp only [List.map_cons, List.intercalate_cons_cons, List.append_assoc, List.cons_append,
            List.nil_append] at h
          obtain ⟨hab, hrest⟩ := hparts.1 b _ _ (ended_cons hcomma _) (ended_cons hcomma _) h
          have htail := (List.cons.inj (List.cons.inj hrest).2).2
          obtain ⟨hforall, hxy⟩ := ih hparts.2 (b' :: bs) (by simpa using htail)
          exact ⟨.cons hab hforall, hxy⟩

/-! ## What a text begins with -/

inductive Lead where
  | null | bool | number | str | arr | obj | other

def lead : Json → Lead
  | .null => .null
  | .bool _ => .bool
  | .int _ => .number
  | .float _ => .number
  | .str _ => .str
  | .arr _ => .arr
  | .obj _ => .obj

def leadOf (c : Char) : Lead :=
  if c = 'n' then .null
  else if c = 't' ∨ c = 'f' then .bool
  else if c = '"' then .str
  else if c = '[' then .arr
  else if c = '\x7b' then .obj
  else if isNumeral c then .number
  else .other

theorem leadOf_numeral {c : Char} (h : isNumeral c = true) : leadOf c = .number := by
  have hne : ∀ d : Char, isNumeral d = false → c ≠ d := by
    rintro d hd rfl
    exact Bool.noConfusion (h.symm.trans hd)
  rw [leadOf, if_neg (hne 'n' (by decide)), if_neg, if_neg (hne '"' (by decide)), if_neg (hne '[' (by decide)),
    if_neg (hne '\x7b' (by decide)), if_pos h]
  rintro (heq | heq)
  · exact hne 't' (by decide) heq
  · exact hne 'f' (by decide) heq

theorem dumpsList_eq (xs : List Json) : dumpsList true xs = xs.map (dumps true) := by
  induction xs with
  | nil => rfl
  | cons x xs ih => rw [dumpsList, ih, List.map_cons]

theorem dumpsFields_eq (kvs : List (String × Json)) :
    dumpsFields true kvs = kvs.map fun e => (e.1, dumps true e.2) := by
  induction kvs with
  | nil => rfl
  | cons e kvs ih =>
    obtain ⟨k, v⟩ := e
    rw [dumpsFields, ih, List.map_cons]

theorem sortItems_perm {α : Type} (items : List (String × α)) : (sortItems items).Perm items :=
  List.mergeSort_perm items _

def itemText (v : Json) : List Char := (dumps true v).toList

def fieldText (e : String × Json) : List Char := (quote e.1).toList ++ ':' :: ' ' :: itemText e.2

theorem toList_bracketed (left right : Char) (parts : List String) :
    (String.ofList [left] ++ ", ".intercalate parts ++ String.ofList [right]).toList =
      left :: ([',', ' '].intercalate (parts.map String.toList) ++ [right]) := by
  rw [String.toList_append, String.toList_append, String.toList_ofList, String.toList_ofList,
    String.toList_intercalate]
  rfl

theorem itemText_arr (xs : List Json) :
    itemText (.arr xs) = '[' :: ([',', ' '].intercalate (xs.map itemText) ++ [']']) := by
  have h := toList_bracketed '[' ']' (xs.map (dumps true))
  rw [List.map_map] at h
  rw [itemText, dumps, dumpsList_eq]
  exact h

theorem itemText_obj (kvs : List (String × Json)) : itemText (.obj kvs) =
    '\x7b' :: ([',', ' '].intercalate ((sortItems kvs).map fieldText) ++ ['\x7d']) := by
  have hsort : sortItems (dumpsFields true kvs) = (sortItems kvs).map fun e => (e.1, dumps true e.2) := by
    rw [dumpsFields_eq, sortItems, sortItems]
    refine (List.map_mergeSort ?_).symm
    intro a _ b _
    rfl
  have hfield : String.toList ∘ (fun e : String × Json => quote e.1 ++ ": " ++ dumps true e.2) = fieldText := by
    funext e
    rw [Function.comp_apply, String.toList_append, String.toList_append, List.append_assoc]
    rfl
  have h := toList_bracketed '\x7b' '\x7d' ((sortItems kvs).map fun e => quote e.1 ++ ": " ++ dumps true e.2)
  rw [List.map_map, hfield] at h
  rw [itemText, dumps]
  simp only [if_true, hsort, List.map_map]
  exact h

theorem itemText_int (i : Int) : ∀ c ∈ itemText (.int i), isNumeral c = true := fun _ hc =>
  isNumeral_of_mem_int hc

theorem itemText_float (f : PyFloat) : ∀ c ∈ itemText (.float f), isNumeral c = true := fun _ hc =>
  isNumeral_of_mem_float hc

theorem itemText_head (v : Json) : ∃ c rest, itemText v = c :: rest ∧ leadOf c = lead v := by
  have hnumber : ∀ l : List Char, l ≠ [] → (∀ c ∈ l, isNumeral c = true) →
      ∃ c rest, l = c :: rest ∧ leadOf c = .number := by
    intro l hne hall
    obtain ⟨c, rest, rfl⟩ := List.exists_cons_of_ne_nil hne
    exact ⟨c, rest, rfl, leadOf_numeral (hall c List.mem_cons_self)⟩
  cases v with
  | null => exact ⟨'n', _, rfl, rfl⟩
  | bool b =>
    cases b with
    | true => exact ⟨'t', _, rfl, rfl⟩
    | false => exact ⟨'f', _, rfl, rfl⟩
  | int i =>
    refine hnumber _ ?_ (itemText_int i)
    rw [itemText, dumps, toList_int]
    split
    · exact Nat.toDigits_ne_nil
    · exact List.cons_ne_nil _ _
  | float f =>
    refine hnumber _ ?_ (itemText_float f)
    obtain ⟨c, hc, -⟩ := exists_mark_float f
    exact List.ne_nil_of_mem hc
  | str s => exact ⟨'"', _, toList_quote s, rfl⟩
  | arr xs => exact ⟨'[', _, itemText_arr xs, rfl⟩
  | obj kvs => exact ⟨'\x7b', _, itemText_obj kvs, rfl⟩

theorem lead_eq {v w : Json} {x y : List Char} (h : itemText v ++ x = itemText w ++ y) : lead v = lead w := by
  obtain ⟨c, rest, hv, hlead⟩ := itemText_head v
  obtain ⟨d, rest', hw, hlead'⟩ := itemText_head w
  rw [hv, hw] at h
  rw [← hlead, ← hlead', (List.cons.inj h).1]

/-- No item looks like a closing bracket. -/
theorem itemText_head_ne (v : Json) : ∃ c rest, itemText v = c :: rest ∧ c ≠ ']' := by
  obtain ⟨c, rest, hv, hlead⟩ := itemText_head v
  refine ⟨c, rest, hv, ?_⟩
  rintro rfl
  have hother : Lead.other = lead v := hlead
  cases v <;> cases hother

/-! ## The text determines the value -/

/-- Sorted fields that agree one by one. -/
theorem sameUpToOrder_obj {kvs kvs' : List (String × Json)}
    (h : List.Forall₂ (fun e e' => e.1 = e'.1 ∧ SameUpToOrder e.2 e'.2) (sortItems kvs) (sortItems kvs')) :
    SameUpToOrder (.obj kvs) (.obj kvs') := by
  refine .obj (sortItems_perm kvs).symm (sortItems_perm kvs').symm ?_ ?_
  · rw [← List.forall₂_eq_eq_eq, List.forall₂_map_left_iff, List.forall₂_map_right_iff]
    exact h.imp fun _ _ he => he.1
  · rw [List.forall₂_map_left_iff, List.forall₂_map_right_iff]
    exact h.imp fun _ _ he => he.2

theorem itemText_append_inj (v : Json) : ∀ (w : Json) (x y : List Char), Ended x → Ended y →
    itemText v ++ x = itemText w ++ y → SameUpToOrder v w ∧ x = y := by
  induction v using Json.induction with
  | null =>
    intro w x y _ _ h
    have hlead := lead_eq h
    cases w <;> cases hlead
    exact ⟨.null, List.append_cancel_left h⟩
  | bool b =>
    intro w x y _ _ h
    have hlead := lead_eq h
    cases w <;> cases hlead
    rename_i b'
    cases b with
    | true =>
      cases b' with
      | true => exact ⟨.bool true, List.append_cancel_left h⟩
      | false => exact absurd (List.cons.inj h).1 (by decide)
    | false =>
      cases b' with
      | true => exact absurd (List.cons.inj h).1 (by decide)
      | false => exact ⟨.bool false, List.append_cancel_left h⟩
  | int i =>
    intro w x y hx hy h
    have hlead := lead_eq h
    cases w <;> cases hlead
    · rename_i j
      obtain ⟨hij, hxy⟩ := numeral_append_inj (itemText_int i) (itemText_int j) hx hy h
      obtain rfl : i = j := int_injective (String.ext hij)
      exact ⟨.int i, hxy⟩
    · rename_i f
      obtain ⟨hif, -⟩ := numeral_append_inj (itemText_int i) (itemText_float f) hx hy h
      exact absurd (String.ext hif) (int_ne_float i f)
  | float f =>
    intro w x y hx hy h
    have hlead := lead_eq h
    cases w <;> cases hlead
    · rename_i i
      obtain ⟨hfi, -⟩ := numeral_append_inj (itemText_float f) (itemText_int i) hx hy h
      exact absurd (String.ext hfi).symm (int_ne_float i f)
    · rename_i g
      obtain ⟨hfg, hxy⟩ := numeral_append_inj (itemText_float f) (itemText_float g) hx hy h
      obtain rfl : f = g := repr_injective (String.ext hfg)
      exact ⟨.float f, hxy⟩
  | str s =>
    intro w x y _ _ h
    have hlead := lead_eq h
    cases w <;> cases hlead
    rename_i t
    obtain ⟨rfl, hxy⟩ := quote_append_inj h
    exact ⟨.str s, hxy⟩
  | arr xs ih =>
    intro w x y _ _ h
    have hlead := lead_eq h
    cases w <;> cases hlead
    rename_i ys
    rw [itemText_arr, itemText_arr, List.cons_append, List.cons_append, List.append_assoc, List.append_assoc] at h
    obtain ⟨hitems, hxy⟩ := intercalate_append_inj (by decide) itemText_head_ne ih _ (List.cons.inj h).2
    exact ⟨.arr hitems, hxy⟩
  | obj kvs ih =>
    intro w x y _ _ h
    have hlead := lead_eq h
    cases w <;> cases hlead
    rename_i kvs'
    rw [itemText_obj, itemText_obj, List.cons_append, List.cons_append, List.append_assoc, List.append_assoc] at h
    have hhead : ∀ e, ∃ c rest, fieldText e = c :: rest ∧ c ≠ '\x7d' := by
      intro e
      have htext : fieldText e = '"' :: (e.1.toList.flatMap (fun c => (escapeChar c).toList) ++ ['"'] ++
          ':' :: ' ' :: itemText e.2) := by
        rw [fieldText, toList_quote, List.cons_append]
      exact ⟨'"', _, htext, by decide⟩
    have hfields : ∀ e ∈ sortItems kvs, ∀ e' x y, Ended x → Ended y → fieldText e ++ x = fieldText e' ++ y →
        (e.1 = e'.1 ∧ SameUpToOrder e.2 e'.2) ∧ x = y := by
      intro e he e' x y hx hy h
      rw [fieldText, fieldText, List.append_assoc, List.append_assoc] at h
      obtain ⟨hkey, hrest⟩ := quote_append_inj h
      obtain ⟨hvalue, hxy⟩ := ih e (List.mem_mergeSort.1 he) _ _ _ hx hy (List.cons.inj (List.cons.inj hrest).2).2
      exact ⟨⟨hkey, hvalue⟩, hxy⟩
    obtain ⟨hitems, hxy⟩ := intercalate_append_inj (by decide) hhead hfields _ (List.cons.inj h).2
    exact ⟨sameUpToOrder_obj hitems, hxy⟩

theorem map_eq_of_forall₂ {α β : Type} {R : α → α → Prop} {f : α → β} {xs ys : List α} (h : List.Forall₂ R xs ys)
    (hf : ∀ x ∈ xs, ∀ y ∈ ys, R x y → f x = f y) : xs.map f = ys.map f := by
  induction h with
  | nil => rfl
  | @cons x y xs ys hxy _ ih =>
    rw [List.map_cons, List.map_cons, hf x List.mem_cons_self y List.mem_cons_self hxy,
      ih fun a ha b hb => hf a (List.mem_cons_of_mem _ ha) b (List.mem_cons_of_mem _ hb)]

/-- Entries are equal if their keys and their values are. -/
theorem map_entries_eq {β : Type} {f : Json → β} {fields fields' : List (String × Json)}
    (hkeys : fields.map Prod.fst = fields'.map Prod.fst)
    (hvalues : (fields.map Prod.snd).map f = (fields'.map Prod.snd).map f) :
    fields.map (fun e => (e.1, f e.2)) = fields'.map fun e => (e.1, f e.2) := by
  have hzip : ∀ l : List (String × Json),
      l.map (fun e => (e.1, f e.2)) = (l.map Prod.fst).zip ((l.map Prod.snd).map f) := by
    intro l
    induction l with
    | nil => rfl
    | cons e l ih =>
      rw [List.map_cons, ih]
      rfl
  rw [hzip, hzip, hkeys, hvalues]

/-- Items with distinct keys have one order. -/
theorem sortItems_eq_of_perm {items items' : List (String × String)} (hperm : items.Perm items')
    (hkeys : (items.map Prod.fst).Nodup) : sortItems items = sortItems items' := by
  have hsorted : ∀ l : List (String × String), (sortItems l).Pairwise fun a b => a.1 ≤ b.1 := by
    intro l
    refine (List.pairwise_mergeSort ?_ ?_ l).imp of_decide_eq_true
    · intro a b c hab hbc
      exact decide_eq_true (String.le_trans (of_decide_eq_true hab) (of_decide_eq_true hbc))
    · intro a b
      simpa using String.le_total a.1 b.1
  have hall : (sortItems items).Perm (sortItems items') :=
    (sortItems_perm items).trans (hperm.trans (sortItems_perm items').symm)
  refine List.Perm.eq_of_pairwise ?_ (hsorted items) (hsorted items') hall
  intro a b ha hb hab hba
  have hmem : ∀ e, e ∈ sortItems items → e ∈ items := fun e he => List.mem_mergeSort.1 he
  exact List.inj_on_of_nodup_map hkeys (hmem a ha) (hmem b (hall.mem_iff.2 hb)) (String.le_antisymm hab hba)

theorem dumps_eq_of_sameUpToOrder (v : Json) :
    ∀ w, DistinctKeys v → DistinctKeys w → SameUpToOrder v w → dumps true v = dumps true w := by
  induction v using Json.induction with
  | null =>
    rintro w - - ⟨⟩
    rfl
  | bool b =>
    rintro w - - ⟨⟩
    rfl
  | int i =>
    rintro w - - ⟨⟩
    rfl
  | float f =>
    rintro w - - ⟨⟩
    rfl
  | str s =>
    rintro w - - ⟨⟩
    rfl
  | arr xs ih =>
    intro w hv hw h
    cases h with
    | arr hitems =>
      cases hv with
      | arr hxs =>
        cases hw with
        | arr hys =>
          have hmap := map_eq_of_forall₂ hitems fun x hx y hy hxy => ih x hx y (hxs x hx) (hys y hy) hxy
          rw [dumps, dumps, dumpsList_eq, dumpsList_eq, hmap]
  | obj kvs ih =>
    intro w hv hw h
    cases h with
    | @obj _ kvs' fields fields' hperm hperm' hkeys hvalues =>
      cases hv with
      | obj hnodup hkvs =>
        cases hw with
        | obj _ hkvs' =>
          have hmap : (fields.map Prod.snd).map (dumps true) = (fields'.map Prod.snd).map (dumps true) := by
            refine map_eq_of_forall₂ hvalues fun x hx y hy hxy => ?_
            obtain ⟨e, he, rfl⟩ := List.mem_map.1 hx
            obtain ⟨e', he', rfl⟩ := List.mem_map.1 hy
            exact ih e (hperm.mem_iff.2 he) _ (hkvs e (hperm.mem_iff.2 he)) (hkvs' e' (hperm'.mem_iff.2 he')) hxy
          have hitems : (dumpsFields true kvs).Perm (dumpsFields true kvs') := by
            rw [dumpsFields_eq, dumpsFields_eq]
            refine (hperm.map _).trans ?_
            rw [map_entries_eq hkeys hmap]
            exact (hperm'.map _).symm
          have hdistinct : ((dumpsFields true kvs).map Prod.fst).Nodup := by
            rw [dumpsFields_eq, List.map_map]
            exact hnodup
          rw [dumps, dumps]
          simp only [if_true, sortItems_eq_of_perm hitems hdistinct]

/-- **Texts identify values**: two values are written alike exactly if they are equal up to the order of keys. -/
theorem dumps_eq_iff {v w : Json} (hv : DistinctKeys v) (hw : DistinctKeys w) :
    dumps true v = dumps true w ↔ SameUpToOrder v w := by
  constructor
  · intro h
    have hended : Ended [] := by rintro c ⟨⟩
    refine (itemText_append_inj v w [] [] hended hended ?_).1
    rw [itemText, h]
    rfl
  · exact dumps_eq_of_sameUpToOrder v w hv hw

/-! ## Where colons stand -/

/-- Outside of strings, behind a colon there, in a string, behind a backslash there. -/
inductive Mode where
  | out | colon | str | esc

/-- A colon outside of strings is followed by a space. -/
def scan : Mode → Char → Option Mode
  | .out, c => if c = '"' then some .str else if c = ':' then some .colon else if c = '\\' then none else some .out
  | .colon, c => if c = ' ' then some .out else none
  | .str, c => if c = '"' then some .out else if c = '\\' then some .esc else some .str
  | .esc, c => if c = ':' then none else some .str

def scanAll (m : Mode) (l : List Char) : Option Mode := l.foldlM scan m

theorem scanAll_append (m : Mode) (a b : List Char) : scanAll m (a ++ b) = (scanAll m a).bind fun n => scanAll n b :=
  List.foldlM_append

/-- It ends outside of strings, as it begins. -/
def Balanced (l : List Char) : Prop := scanAll .out l = some .out

theorem Balanced.append {a b : List Char} (ha : Balanced a) (hb : Balanced b) : Balanced (a ++ b) := by
  rw [Balanced, scanAll_append, ha]
  exact hb

/-- It changes nothing outside of strings. -/
def isPlain (c : Char) : Bool := c != '"' && c != ':' && c != '\\'

theorem balanced_of_plain {l : List Char} (h : ∀ c ∈ l, isPlain c = true) : Balanced l := by
  induction l with
  | nil => rfl
  | cons c l ih =>
    rw [List.forall_mem_cons] at h
    have hc := h.1
    simp only [isPlain, Bool.and_eq_true, bne_iff_ne] at hc
    have hstep : scan .out c = some .out := by rw [scan, if_neg hc.1.1, if_neg hc.1.2, if_neg hc.2]
    rw [Balanced, scanAll, List.foldlM_cons, hstep]
    exact ih h.2

theorem scanAll_str_of_plain {l : List Char} (h : ∀ c ∈ l, c ≠ '"' ∧ c ≠ '\\') : scanAll .str l = some .str := by
  induction l with
  | nil => rfl
  | cons c l ih =>
    rw [List.forall_mem_cons] at h
    have hstep : scan .str c = some .str := by rw [scan, if_neg h.1.1, if_neg h.1.2]
    rw [scanAll, List.foldlM_cons, hstep]
    exact ih h.2

theorem scanAll_escapeChar (c : Char) : scanAll .str (escapeChar c).toList = some .str := by
  have hhex : ∀ n, scanAll .str (Py.hex 4 n).toList = some .str := by
    intro n
    refine scanAll_str_of_plain fun c hc => ?_
    exact ⟨isHex_ne (isHex_of_mem_hex hc) (.inl rfl), isHex_ne (isHex_of_mem_hex hc) (.inr rfl)⟩
  have hunit : ∀ l, scanAll .str ('\\' :: 'u' :: l) = scanAll .str l := fun _ => rfl
  have hform := escapeForm c
  generalize (escapeChar c).toList = l at hform ⊢
  cases hform with
  | plain hquote hback =>
    refine scanAll_str_of_plain fun d hd => ?_
    obtain rfl := List.mem_singleton.1 hd
    exact ⟨hquote, hback⟩
  | short letter hletter _ =>
    have hcolon : letter ≠ ':' := by
      rintro rfl
      revert hletter
      decide
    have hstep : scan .esc letter = some .str := by rw [scan, if_neg hcolon]
    have hback : scanAll .str ['\\', letter] = (scan .esc letter).bind fun m => scanAll m [] := rfl
    rw [hback, hstep]
    rfl
  | unit _ => rw [hunit, hhex]
  | pair _ => rw [hunit, scanAll_append, hhex, Option.bind_some, hunit, hhex]

theorem balanced_quote (s : String) : Balanced (quote s).toList := by
  have hchars : ∀ cs : List Char, scanAll .str (cs.flatMap fun c => (escapeChar c).toList) = some .str := by
    intro cs
    induction cs with
    | nil => rfl
    | cons c cs ih => rw [List.flatMap_cons, scanAll_append, scanAll_escapeChar, Option.bind_some, ih]
  have hopen : ∀ l, scanAll .out ('"' :: l) = scanAll .str l := fun _ => rfl
  rw [Balanced, toList_quote, hopen, scanAll_append, hchars]
  rfl

theorem balanced_intercalate {parts : List (List Char)} (h : ∀ p ∈ parts, Balanced p) :
    Balanced ([',', ' '].intercalate parts) := by
  have hcomma : Balanced [',', ' '] := rfl
  induction parts with
  | nil => rfl
  | cons p parts ih =>
    rw [List.forall_mem_cons] at h
    cases parts with
    | nil =>
      rw [List.intercalate_singleton]
      exact h.1
    | cons p' parts =>
      rw [List.intercalate_cons_cons]
      exact (h.1.append hcomma).append (ih h.2)

theorem balanced_bracketed {left right : Char} (hleft : isPlain left = true) (hright : isPlain right = true)
    {l : List Char} (h : Balanced l) : Balanced (left :: (l ++ [right])) := by
  have hsingle : ∀ c, isPlain c = true → Balanced [c] := by
    intro c hc
    refine balanced_of_plain fun d hd => ?_
    obtain rfl := List.mem_singleton.1 hd
    exact hc
  exact (hsingle left hleft).append (h.append (hsingle right hright))

theorem balanced_itemText (v : Json) : Balanced (itemText v) := by
  have hnumeral : ∀ {l : List Char}, (∀ c ∈ l, isNumeral c = true) → Balanced l := by
    intro l hl
    have hne : ∀ c d : Char, isNumeral c = true → isNumeral d = false → c ≠ d := by
      rintro c d hc hd rfl
      exact Bool.noConfusion (hc.symm.trans hd)
    refine balanced_of_plain fun c hc => ?_
    simp only [isPlain, Bool.and_eq_true, bne_iff_ne]
    exact ⟨⟨hne c _ (hl c hc) rfl, hne c _ (hl c hc) rfl⟩, hne c _ (hl c hc) rfl⟩
  induction v using Json.induction with
  | null => exact balanced_of_plain (List.all_eq_true.1 (by decide : "null".toList.all isPlain = true))
  | bool b =>
    cases b with
    | true => exact balanced_of_plain (List.all_eq_true.1 (by decide : "true".toList.all isPlain = true))
    | false => exact balanced_of_plain (List.all_eq_true.1 (by decide : "false".toList.all isPlain = true))
  | int i => exact hnumeral (itemText_int i)
  | float f => exact hnumeral (itemText_float f)
  | str s => exact balanced_quote s
  | arr xs ih =>
    rw [itemText_arr]
    refine balanced_bracketed (by decide) (by decide) (balanced_intercalate fun p hp => ?_)
    obtain ⟨x, hx, rfl⟩ := List.mem_map.1 hp
    exact ih x hx
  | obj kvs ih =>
    rw [itemText_obj]
    refine balanced_bracketed (by decide) (by decide) (balanced_intercalate fun p hp => ?_)
    obtain ⟨e, he, rfl⟩ := List.mem_map.1 hp
    have hcolon : Balanced [':', ' '] := rfl
    exact (balanced_quote e.1).append (hcolon.append (ih e ((sortItems_perm kvs).mem_iff.1 he)))

/-- Two readers of one text, of whom only one is in a string. -/
def Apart (m n : Mode) : Prop := m = .str ∧ (n = .out ∨ n = .colon) ∨ n = .str ∧ (m = .out ∨ m = .colon)

theorem apart_step_str {n m' n' : Mode} {c : Char} (hn : n = .out ∨ n = .colon) (hm : scan .str c = some m')
    (hn' : scan n c = some n') : Apart m' n' := by
  rcases hn with rfl | rfl
  · simp only [scan] at hm hn'
    by_cases hquote : c = '"'
    · rw [if_pos hquote] at hm hn'
      cases hm
      cases hn'
      exact .inr ⟨rfl, .inl rfl⟩
    · rw [if_neg hquote] at hm hn'
      by_cases hback : c = '\\'
      · subst hback
        cases hn'
      · rw [if_neg hback] at hm
        cases hm
        by_cases hcolon : c = ':'
        · rw [if_pos hcolon] at hn'
          cases hn'
          exact .inl ⟨rfl, .inr rfl⟩
        · rw [if_neg hcolon, if_neg hback] at hn'
          cases hn'
          exact .inl ⟨rfl, .inl rfl⟩
  · by_cases hspace : c = ' '
    · subst hspace
      cases hm
      cases hn'
      exact .inl ⟨rfl, .inl rfl⟩
    · rw [scan, if_neg hspace] at hn'
      cases hn'

theorem apart_step {m n m' n' : Mode} {c : Char} (h : Apart m n) (hm : scan m c = some m') (hn : scan n c = some n') :
    Apart m' n' := by
  rcases h with ⟨rfl, hout⟩ | ⟨rfl, hout⟩
  · exact apart_step_str hout hm hn
  · exact (apart_step_str hout hn hm).symm

/-- They never come together. -/
theorem apart_scanAll {l : List Char} {m n m' n' : Mode} (h : Apart m n) (hm : scanAll m l = some m')
    (hn : scanAll n l = some n') : Apart m' n' := by
  induction l generalizing m n with
  | nil =>
    cases hm
    cases hn
    exact h
  | cons c l ih =>
    rw [scanAll, List.foldlM_cons] at hm hn
    obtain ⟨m₁, hm₁, hm⟩ := Option.bind_eq_some_iff.1 hm
    obtain ⟨n₁, hn₁, hn⟩ := Option.bind_eq_some_iff.1 hn
    exact ih (apart_step h hm₁ hn₁) hm hn

/-- In a balanced text no colon stands before a balanced text that begins like an object. -/
theorem not_balanced_colon_obj {a l : List Char} (hl : Balanced ('\x7b' :: l)) :
    ¬ Balanced (a ++ ':' :: '\x7b' :: l) := by
  intro h
  rw [Balanced, scanAll_append] at h
  obtain ⟨m, -, hm⟩ := Option.bind_eq_some_iff.1 h
  rw [scanAll, List.foldlM_cons] at hm
  obtain ⟨m', hstep, hrest⟩ := Option.bind_eq_some_iff.1 hm
  cases m with
  | out =>
    cases hstep
    cases hrest
  | colon => cases hstep
  | esc => cases hstep
  | str =>
    cases hstep
    have hapart : Apart .str .out := .inl ⟨rfl, .inl rfl⟩
    rcases apart_scanAll hapart hrest hl with ⟨heq, -⟩ | ⟨heq, -⟩ <;> cases heq

/-- A text and an object behind a colon: whatever colons the two have, the text ends at one place only. -/
theorem append_colon_obj_inj {a b : List Char} {kvs kvs' : List (String × Json)}
    (h : a ++ ':' :: itemText (.obj kvs) = b ++ ':' :: itemText (.obj kvs')) :
    a = b ∧ itemText (.obj kvs) = itemText (.obj kvs') := by
  have hlater : ∀ {kvs kvs' : List (String × Json)} {e : List Char},
      ':' :: itemText (.obj kvs) = e ++ ':' :: itemText (.obj kvs') →
      e = [] ∧ itemText (.obj kvs) = itemText (.obj kvs') := by
    intro kvs kvs' e he
    cases e with
    | nil => exact ⟨rfl, (List.cons.inj he).2⟩
    | cons c e =>
      have hbalanced := balanced_itemText (.obj kvs)
      have hinner := balanced_itemText (.obj kvs')
      rw [(List.cons.inj he).2, itemText_obj] at hbalanced
      rw [itemText_obj] at hinner
      exact absurd hbalanced (not_balanced_colon_obj hinner)
  rcases List.append_eq_append_iff.1 h with ⟨e, rfl, he⟩ | ⟨e, rfl, he⟩
  · obtain ⟨rfl, htext⟩ := hlater he
    exact ⟨(List.append_nil a).symm, htext⟩
  · obtain ⟨rfl, htext⟩ := hlater he
    exact ⟨List.append_nil b, htext.symm⟩

end Json
