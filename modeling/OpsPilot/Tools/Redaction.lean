import OpsPilot.Lib.Json
import OpsPilot.Lib.Regex
/-!
# What the audit log shows of the arguments (`ToolRegistry._sanitize_params`, registry.py:61)

| here | there |
| --- | --- |
| `secretParamPattern`           | `SECRET_PARAM_PATTERN` (registry.py:30) |
| `sanitizeParams`               | `_sanitize_params` |
| `Redacted v w`                 | no function of the source: `w` is `v` without its secrets |
| `Stored k w listed v`          | no function of the source: `v` has an entry that no secret key is above |

`_sanitize_params` follows dicts into dicts and leaves lists as they are, so an entry below a list
stays. Dicts nested beyond the recursion limit of the interpreter raise a `RecursionError`, which is left out.
-/
namespace OpsPilot

namespace ToolRegistry

section
variable [Unicode]

def secretParamPattern : Regex :=
  .oneOf [.word "password", .word "secret", .word "key", .word "token", .word "auth", .word "credential"]

mutual
/-- The items of the dict; its keys are distinct, so each of them is set once. -/
def sanitizeParams : List (String × Json) → List (String × Json)
  | [] => []
  | (k, v) :: params =>
    (k, if secretParamPattern.search k then .str "[REDACTED]" else sanitizeValue v) :: sanitizeParams params

/-- `_sanitize_params(v) if isinstance(v, dict) else v` -/
def sanitizeValue : Json → Json
  | .obj kvs => .obj (sanitizeParams kvs)
  | v => v
end

/-! ## Deep redaction -/

mutual
/-- Values under secret keys are replaced, through dicts and lists alike, and nothing else is. -/
inductive Redacted : Json → Json → Prop
  | null : Redacted .null .null
  | bool (b : Bool) : Redacted (.bool b) (.bool b)
  | int (i : Int) : Redacted (.int i) (.int i)
  | float (f : PyFloat) : Redacted (.float f) (.float f)
  | str (s : String) : Redacted (.str s) (.str s)
  | arr {xs ys : List Json} : RedactedItems xs ys → Redacted (.arr xs) (.arr ys)
  | obj {kvs kvs' : List (String × Json)} : RedactedFields kvs kvs' → Redacted (.obj kvs) (.obj kvs')

inductive RedactedItems : List Json → List Json → Prop
  | nil : RedactedItems [] []
  | cons {x y : Json} {xs ys : List Json} : Redacted x y → RedactedItems xs ys → RedactedItems (x :: xs) (y :: ys)

inductive RedactedFields : List (String × Json) → List (String × Json) → Prop
  | nil : RedactedFields [] []
  | secret {k : String} (v : Json) {kvs kvs' : List (String × Json)} : secretParamPattern.search k = true →
      RedactedFields kvs kvs' → RedactedFields ((k, v) :: kvs) ((k, .str "[REDACTED]") :: kvs')
  | plain {k : String} {v w : Json} {kvs kvs' : List (String × Json)} : secretParamPattern.search k = false →
      Redacted v w → RedactedFields kvs kvs' → RedactedFields ((k, v) :: kvs) ((k, w) :: kvs')
end

/-- The value has an entry, at some depth, that no secret key is above; `listed` says whether a list is. -/
inductive Stored (k : String) (w : Json) : Bool → Json → Prop
  | here {kvs : List (String × Json)} : (k, w) ∈ kvs → Stored k w false (.obj kvs)
  | field {kvs : List (String × Json)} {j : String} {v : Json} {listed : Bool} : (j, v) ∈ kvs →
      secretParamPattern.search j = false → Stored k w listed v → Stored k w listed (.obj kvs)
  | item {xs : List Json} {x : Json} {listed : Bool} : x ∈ xs → Stored k w listed x → Stored k w true (.arr xs)

/-- The secrets among the entries have been redacted already. -/
def Clean (listed : Bool) (v : Json) : Prop :=
  ∀ k w, Stored k w listed v → secretParamPattern.search k = true → w = .str "[REDACTED]"

theorem redactedItems_self {xs : List Json} : RedactedItems xs xs ↔ ∀ x ∈ xs, Redacted x x := by
  induction xs with
  | nil =>
    constructor
    · rintro - x ⟨⟩
    · intro _
      exact .nil
  | cons x xs ih =>
    rw [List.forall_mem_cons, ← ih]
    constructor
    · intro h
      cases h with
      | cons hx hxs => exact ⟨hx, hxs⟩
    · rintro ⟨hx, hxs⟩
      exact .cons hx hxs

/-- A redaction entry by entry. -/
theorem redactedFields_map {f : String × Json → Json} {kvs : List (String × Json)} :
    RedactedFields kvs (kvs.map fun e => (e.1, f e)) ↔ ∀ e ∈ kvs,
      (secretParamPattern.search e.1 = true → f e = .str "[REDACTED]") ∧
        (secretParamPattern.search e.1 = false → Redacted e.2 (f e)) := by
  induction kvs with
  | nil =>
    constructor
    · rintro - e ⟨⟩
    · intro _
      exact .nil
  | cons e kvs ih =>
    obtain ⟨k, v⟩ := e
    rw [List.map_cons, List.forall_mem_cons, ← ih]
    simp only
    constructor
    · intro h
      generalize hw : f (k, v) = w at h
      cases h with
      | secret _ hk hrest => exact ⟨⟨fun _ => rfl, fun hplain => Bool.noConfusion (hk.symm.trans hplain)⟩, hrest⟩
      | plain hk hv hrest => exact ⟨⟨fun hsecret => Bool.noConfusion (hk.symm.trans hsecret), fun _ => hv⟩, hrest⟩
    · rintro ⟨⟨hsecret, hplain⟩, hrest⟩
      cases hk : secretParamPattern.search k with
      | true =>
        rw [hsecret hk]
        exact .secret v hk hrest
      | false => exact .plain hk (hplain hk) hrest

theorem redactedFields_self {kvs : List (String × Json)} : RedactedFields kvs kvs ↔ ∀ e ∈ kvs,
    (secretParamPattern.search e.1 = true → e.2 = .str "[REDACTED]") ∧
      (secretParamPattern.search e.1 = false → Redacted e.2 e.2) := by
  have hsame : kvs.map (fun e => (e.1, e.2)) = kvs := List.map_id'' (fun _ => rfl) kvs
  have hmap := @redactedFields_map _ Prod.snd kvs
  rwa [hsame] at hmap

theorem sanitizeParams_eq (params : List (String × Json)) : sanitizeParams params = params.map fun e =>
    (e.1, if secretParamPattern.search e.1 then .str "[REDACTED]" else sanitizeValue e.2) := by
  induction params with
  | nil => rfl
  | cons e params ih =>
    obtain ⟨k, v⟩ := e
    rw [sanitizeParams, List.map_cons, ih]

/-! ## What is left -/

theorem clean_arr_true {xs : List Json} : Clean true (.arr xs) ↔ ∀ x ∈ xs, Clean false x ∧ Clean true x := by
  constructor
  · intro h x hx
    exact ⟨fun k w hw => h k w (.item hx hw), fun k w hw => h k w (.item hx hw)⟩
  · intro h k w hw
    cases hw with
    | @item _ x listed hx hw =>
      cases listed with
      | false => exact (h x hx).1 k w hw
      | true => exact (h x hx).2 k w hw

theorem clean_obj {listed : Bool} {kvs : List (String × Json)} : Clean listed (.obj kvs) ↔ ∀ e ∈ kvs,
    (secretParamPattern.search e.1 = true → listed = false → e.2 = .str "[REDACTED]") ∧
      (secretParamPattern.search e.1 = false → Clean listed e.2) := by
  constructor
  · rintro h ⟨k, v⟩ he
    refine ⟨fun hk hlisted => ?_, fun hk j w hw => h j w (.field he hk hw)⟩
    subst hlisted
    exact h k v (.here he) hk
  · intro h k w hw hk
    cases hw with
    | here he => exact (h _ he).1 hk rfl
    | field he hj hw => exact (h _ he).2 hj k w hw hk

/-- A value is its own redaction if its entries are clean, in lists and elsewhere. -/
theorem redacted_self_iff (v : Json) : Redacted v v ↔ Clean false v ∧ Clean true v := by
  induction v using Json.induction with
  | null => exact ⟨fun _ => ⟨by rintro k w ⟨⟩, by rintro k w ⟨⟩⟩, fun _ => .null⟩
  | bool b => exact ⟨fun _ => ⟨by rintro k w ⟨⟩, by rintro k w ⟨⟩⟩, fun _ => .bool b⟩
  | int i => exact ⟨fun _ => ⟨by rintro k w ⟨⟩, by rintro k w ⟨⟩⟩, fun _ => .int i⟩
  | float f => exact ⟨fun _ => ⟨by rintro k w ⟨⟩, by rintro k w ⟨⟩⟩, fun _ => .float f⟩
  | str s => exact ⟨fun _ => ⟨by rintro k w ⟨⟩, by rintro k w ⟨⟩⟩, fun _ => .str s⟩
  | arr xs ih =>
    have hitems : Redacted (.arr xs) (.arr xs) ↔ RedactedItems xs xs :=
      ⟨fun h => by cases h; assumption, .arr⟩
    rw [hitems, redactedItems_self, clean_arr_true]
    constructor
    · intro h
      exact ⟨by rintro k w ⟨⟩, fun x hx => (ih x hx).1 (h x hx)⟩
    · rintro ⟨-, h⟩ x hx
      exact (ih x hx).2 (h x hx)
  | obj kvs ih =>
    have hfields : Redacted (.obj kvs) (.obj kvs) ↔ RedactedFields kvs kvs :=
      ⟨fun h => by cases h; assumption, .obj⟩
    rw [hfields, redactedFields_self, clean_obj, clean_obj]
    constructor
    · intro h
      refine ⟨fun e he => ⟨fun hk _ => (h e he).1 hk, fun hk => ?_⟩, fun e he => ⟨fun _ => by rintro ⟨⟩, fun hk => ?_⟩⟩
      · exact ((ih e he).1 ((h e he).2 hk)).1
      · exact ((ih e he).1 ((h e he).2 hk)).2
    · rintro ⟨hfalse, htrue⟩ e he
      exact ⟨fun hk => (hfalse e he).1 hk rfl, fun hk => (ih e he).2 ⟨(hfalse e he).2 hk, (htrue e he).2 hk⟩⟩

/-- Following the dicts redacts everything but what is below a list. -/
theorem redacted_sanitizeValue_iff (v : Json) : Redacted v (sanitizeValue v) ↔ Clean true v := by
  induction v using Json.induction with
  | null => exact ⟨fun _ => by rintro k w ⟨⟩, fun _ => .null⟩
  | bool b => exact ⟨fun _ => by rintro k w ⟨⟩, fun _ => .bool b⟩
  | int i => exact ⟨fun _ => by rintro k w ⟨⟩, fun _ => .int i⟩
  | float f => exact ⟨fun _ => by rintro k w ⟨⟩, fun _ => .float f⟩
  | str s => exact ⟨fun _ => by rintro k w ⟨⟩, fun _ => .str s⟩
  | arr xs ih =>
    have hnone : Clean false (.arr xs) := by rintro k w ⟨⟩
    rw [sanitizeValue, redacted_self_iff]
    · exact and_iff_right hnone
    · rintro kvs ⟨⟩
  | obj kvs ih =>
    have hfields : Redacted (.obj kvs) (.obj (sanitizeParams kvs)) ↔ RedactedFields kvs (sanitizeParams kvs) :=
      ⟨fun h => by cases h; assumption, .obj⟩
    rw [sanitizeValue, hfields, sanitizeParams_eq, redactedFields_map, clean_obj]
    refine forall₂_congr fun e he => ?_
    constructor
    · rintro ⟨-, hplain⟩
      refine ⟨fun _ => by rintro ⟨⟩, fun hk => (ih e he).1 ?_⟩
      simpa [hk] using hplain hk
    · rintro ⟨-, hclean⟩
      exact ⟨fun hk => by simp [hk], fun hk => by simpa [hk] using (ih e he).2 (hclean hk)⟩

/-- **When the redaction is deep**: the arguments are logged without their secrets exactly when none of these is
below a list, but for those that have been redacted already. -/
theorem redacted_sanitizeParams_iff (params : List (String × Json)) :
    Redacted (.obj params) (.obj (sanitizeParams params)) ↔
      ∀ k w, Stored k w true (.obj params) → secretParamPattern.search k = true → w = .str "[REDACTED]" :=
  redacted_sanitizeValue_iff (.obj params)

end

/-- A password in a list of settings. -/
def listedPassword : List (String × Json) := [("changes", .arr [.obj [("db_password", .str "hunter2")]])]

/-- It is logged. -/
theorem listed_password_logged :
    letI := Py.asciiTable
    sanitizeParams listedPassword = listedPassword ∧
      ¬ Redacted (.obj listedPassword) (.obj (sanitizeParams listedPassword)) := by
  have hkey : letI := Py.asciiTable
      secretParamPattern.search "db_password" = true := by decide +kernel
  have hplain : letI := Py.asciiTable
      secretParamPattern.search "changes" = false := by decide +kernel
  let _ := Py.asciiTable
  have hsame : sanitizeParams listedPassword = listedPassword := by
    simp only [listedPassword, sanitizeParams, hplain, Bool.false_eq_true, if_false]
    rw [sanitizeValue]
    rintro kvs ⟨⟩
  refine ⟨hsame, fun h => ?_⟩
  rw [hsame, redacted_self_iff] at h
  have hstored : Stored "db_password" (.str "hunter2") true (.obj listedPassword) :=
    .field (List.mem_singleton_self _) hplain (.item (List.mem_singleton_self _) (.here (List.mem_singleton_self _)))
  exact absurd (Json.str.inj (h.2 _ _ hstored hkey)) (by decide)

end ToolRegistry

end OpsPilot
