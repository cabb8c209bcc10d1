import OpsPilot.Lib.Dict
import OpsPilot.Lib.Infix
import OpsPilot.Lib.Percent
import OpsPilot.Lib.Substitution
/-!
# Redaction of log lines (`src/observability/logging.py`)

| here | there |
| --- | --- |
| `secretPattern`            | `SECRET_PATTERN` (logging.py:14) |
| `RedactingJsonFormatter.*` | `RedactingJsonFormatter.format` (logging.py:24), up to the message |
| `Secret`                   | no part of the source: what the pattern matches, said without it |

The pattern is applied to the template and to the strings of a dict of arguments, and then the two are
merged. No secret is left in the template, nor formed by a replacement (`not_secret_of_redacted`); so it takes
an argument to complete one (`CompletesSecret`, by the template and the arguments).
-/
namespace OpsPilot

open Regex (fold isSpace Means Blank AnyOf Spans)
open Percent (Segment text Touches Placed)
open Infix (Overlaps)

/-- A character of a bearer token. -/
def isTokenChar (c : Char) : Bool :=
  (fold c).isLower || c.isDigit || c == '_' || c == '-' || c == '.'

def isKeyChar (c : Char) : Bool := (fold c).isLower || c.isDigit

def isQuote (c : Char) : Bool := c == '\'' || c == '"'

def isAssign (c : Char) : Bool := c == ':' || c == '='

def secretNames : List String := ["password", "secret", "api_key", "token", "access_token", "private_key"]

open Regex in
/-- logging.py:14 -/
def secretPattern : Regex :=
  oneOf [
    cat [word "bearer", plus space, atLeast 15 (.char isTokenChar)],
    cat [word "sk-", atLeast 20 (.char isKeyChar)],
    cat [oneOf (secretNames.map word), .star space, .char isAssign, .star space, .char isQuote,
      plus (.char fun c => !isQuote c), .char isQuote]]

/-! ## What the pattern matches -/

inductive Secret : List Char → Prop
  | bearer {a gap token : List Char} : AnyOf ["bearer"] a → Blank gap → 15 ≤ token.length →
      (∀ c ∈ token, isTokenChar c = true) → Secret (a ++ (gap ++ token))
  | apiKey {a key : List Char} : AnyOf ["sk-"] a → 20 ≤ key.length → (∀ c ∈ key, isKeyChar c = true) → Secret (a ++ key)
  | assigned {a gap gap' value : List Char} {assign q q' : Char} : AnyOf secretNames a →
      (∀ c ∈ gap, isSpace c = true) → isAssign assign = true → (∀ c ∈ gap', isSpace c = true) → isQuote q = true →
      value ≠ [] → (∀ c ∈ value, isQuote c = false) → isQuote q' = true →
      Secret (a ++ (gap ++ assign :: (gap' ++ q :: (value ++ [q']))))

section
variable [Unicode]

theorem means_secretPattern : Means secretPattern Secret := by
  intro prev m rest
  rw [secretPattern, Regex.spans_oneOf]
  constructor
  · rintro ⟨r, hr, h⟩
    rw [List.mem_cons, List.mem_cons, List.mem_singleton] at hr
    rcases hr with rfl | rfl | rfl
    · obtain ⟨a, _, rfl, ha, gap, token, rfl, hgap, htoken⟩ := h
      obtain ⟨hlen, hall⟩ := Regex.spans_atLeast.1 htoken
      exact .bearer ((Regex.means_word _ _ _ _).1 ha) (Regex.spans_plus_char.1 hgap) hlen hall
    · obtain ⟨a, key, rfl, ha, hkey⟩ := h
      obtain ⟨hlen, hall⟩ := Regex.spans_atLeast.1 hkey
      exact .apiKey ((Regex.means_word _ _ _ _).1 ha) hlen hall
    · obtain ⟨a, _, rfl, ha, gap, _, rfl, hgap, _, _, rfl, ⟨assign, hassign, rfl⟩, gap', _, rfl, hgap', _, _, rfl,
        ⟨q, hq, rfl⟩, value, _, rfl, hvalue, q', hq', rfl⟩ := h
      obtain ⟨hne, hvalue⟩ := Regex.spans_plus_char.1 hvalue
      exact .assigned ((Regex.means_words _ _ _ _).1 ha) (Regex.repeats_char.1 hgap) hassign
        (Regex.repeats_char.1 hgap') hq hne (fun c hc => by simpa using hvalue c hc) hq'
  · intro h
    cases h with
    | @bearer a gap token ha hgap hlen hall =>
      refine ⟨_, List.mem_cons_self, a, _, rfl, (Regex.means_word _ _ _ _).2 ha, gap, token, rfl,
        Regex.spans_plus_char.2 hgap, Regex.spans_atLeast.2 ⟨hlen, hall⟩⟩
    | @apiKey a key ha hlen hall =>
      refine ⟨_, List.mem_cons_of_mem _ List.mem_cons_self, a, key, rfl, (Regex.means_word _ _ _ _).2 ha,
        Regex.spans_atLeast.2 ⟨hlen, hall⟩⟩
    | @assigned a gap gap' value assign q q' ha hgap hassign hgap' hq hne hvalue hq' =>
      refine ⟨_, List.mem_cons_of_mem _ (List.mem_cons_of_mem _ List.mem_cons_self), a, _, rfl,
        (Regex.means_words _ _ _ _).2 ha, gap, _, rfl, Regex.repeats_char.2 hgap, [assign], _, rfl,
        ⟨assign, hassign, rfl⟩, gap', _, rfl, Regex.repeats_char.2 hgap', [q], _, rfl, ⟨q, hq, rfl⟩, value, [q'], rfl,
        Regex.spans_plus_char.2 ⟨hne, fun c hc => by simpa using hvalue c hc⟩, q', hq', rfl⟩

theorem search_secretPattern {s : String} :
    secretPattern.search s = true ↔ ∃ a m b, s.toList = a ++ m ++ b ∧ Secret m := by
  rw [Regex.search_iff]
  exact exists_congr fun a => exists_congr fun m => exists_congr fun b => and_congr_right fun _ =>
    means_secretPattern _ _ _

end

/-! ## Nothing is left in the template -/

/-- What a secret begins with. -/
def stems : List String := "bearer" :: "sk-" :: secretNames

def replacement : String := "[REDACTED_SECRET]"

theorem fold_space_ne {c d : Char} (hc : isSpace c = true) (hd : isSpace d = false) : c ≠ d := by
  rintro rfl
  exact Bool.noConfusion (hc.symm.trans hd)

theorem anyOf_mono {words words' : List String} {k : List Char} (h : AnyOf words k) (hsub : ∀ w ∈ words, w ∈ words') :
    AnyOf words' k := by
  obtain ⟨w, hw, hk⟩ := h
  exact ⟨w, hsub w hw, hk⟩

theorem secretNames_subset : ∀ w ∈ secretNames, w ∈ stems := fun _ hw =>
  List.mem_cons_of_mem _ (List.mem_cons_of_mem _ hw)

/-- A secret begins with one of the stems, and goes on with no bracket. -/
theorem Secret.stem {m : List Char} (h : Secret m) :
    ∃ k c r, m = k ++ c :: r ∧ AnyOf stems k ∧ c ≠ ']' := by
  cases h with
  | @bearer a gap token ha hgap _ _ =>
    obtain ⟨c, gap, rfl⟩ := List.exists_cons_of_ne_nil hgap.1
    exact ⟨a, c, gap ++ token, rfl, anyOf_mono ha (by decide), fold_space_ne (hgap.2 c List.mem_cons_self) (by decide)⟩
  | @apiKey a key ha hlen hkey =>
    cases key with
    | nil => exact absurd hlen (by decide)
    | cons c key =>
      refine ⟨a, c, key, rfl, anyOf_mono ha (by decide), ?_⟩
      rintro rfl
      exact absurd (hkey _ List.mem_cons_self) (by decide)
  | @assigned a gap gap' value assign q q' ha hgap hassign _ _ _ _ _ =>
    cases gap with
    | nil =>
      refine ⟨a, assign, _, rfl, anyOf_mono ha secretNames_subset, ?_⟩
      rintro rfl
      exact absurd hassign (by decide)
    | cons c gap =>
      exact ⟨a, c, _, rfl, anyOf_mono ha secretNames_subset, fold_space_ne (hgap c List.mem_cons_self) (by decide)⟩

theorem not_secret_nil : ¬ Secret [] := by
  intro h
  obtain ⟨k, c, r, hnil, -⟩ := h.stem
  exact List.cons_ne_nil _ _ (List.append_eq_nil_iff.1 hnil.symm).2

/-- Letters, `-` and `_` are all that a stem has. -/
def isStemChar (c : Char) : Bool := c.isLower || c == '-' || c == '_'

theorem isStemChar_of_mem {k : List Char} (hk : AnyOf stems k) {c : Char} (hc : c ∈ k) :
    isStemChar (fold c) = true := by
  obtain ⟨w, hw, hfold⟩ := hk
  have hall : ∀ w ∈ stems, w.toList.all isStemChar = true := by decide
  exact List.all_eq_true.1 (hall w hw) _ (hfold ▸ List.mem_map_of_mem hc)

theorem ne_of_mem_stem {k : List Char} (hk : AnyOf stems k) {c d : Char} (hc : c ∈ k)
    (hd : isStemChar (fold d) = false) : c ≠ d := by
  rintro rfl
  exact Bool.noConfusion ((isStemChar_of_mem hk hc).symm.trans hd)

/-- `secret` is the only stem in the replacement, and a bracket stands behind it there. -/
theorem stem_in_replacement : ∀ w ∈ stems, ∀ j < 17,
    w.toList <+: ("[REDACTED_SECRET".toList.drop j).map fold →
      w.toList.length = ("[REDACTED_SECRET".toList.drop j).length := by decide

/-- No secret begins in a replacement. -/
theorem not_secret_in_replacement {a b out m : List Char} (hab : replacement.toList = a ++ b) (hb : b ≠ [])
    (hm : m <+: b ++ out) : ¬ Secret m := by
  intro h
  obtain ⟨k, c, r, rfl, hk, hc⟩ := h.stem
  have hlast : replacement.toList = "[REDACTED_SECRET".toList ++ [']'] := by decide
  obtain ⟨b', x, rfl⟩ := (List.eq_nil_or_concat' b).resolve_left hb
  rw [hlast, ← List.append_assoc] at hab
  obtain ⟨hbody, hx⟩ := List.append_inj' hab rfl
  obtain rfl := (List.cons.inj hx).1
  have hdrop : b' = "[REDACTED_SECRET".toList.drop a.length := by rw [hbody, List.drop_left]
  have hlen : a.length < 17 := by
    have hsum := congrArg List.length hbody
    rw [List.length_append] at hsum
    have hsixteen : "[REDACTED_SECRET".toList.length = 16 := by decide
    omega
  have hbracket : ']' ∉ k := fun hmem => ne_of_mem_stem hk hmem (by decide) rfl
  rw [List.append_assoc, List.singleton_append] at hm
  have hkb : k <+: b' := (Infix.prefix_append_cons hbracket).1 ((List.prefix_append k (c :: r)).trans hm)
  -- the whole of what is left of the replacement but its bracket is a stem
  have hkeq : k = b' := by
    obtain ⟨w, hw, hfold⟩ := hk
    have hprefix : w.toList <+: ("[REDACTED_SECRET".toList.drop a.length).map fold := by
      rw [← hfold, ← hdrop]
      exact hkb.map fold
    refine hkb.eq_of_length ?_
    rw [hdrop, ← stem_in_replacement w hw a.length hlen hprefix, ← hfold, List.length_map]
  rw [hkeq, List.prefix_append_right_inj] at hm
  exact hc (List.cons_prefix_cons.1 hm).1

/-- A value in quotes ends at the first quote. -/
theorem exists_closing {d : Char} {x : List Char} (hd : isQuote d = false) (hx : ∃ c ∈ x, isQuote c = true) :
    ∃ value q, value ≠ [] ∧ (∀ c ∈ value, isQuote c = false) ∧ isQuote q = true ∧ value ++ [q] <+: d :: x := by
  induction x generalizing d with
  | nil =>
    obtain ⟨c, hc, -⟩ := hx
    cases hc
  | cons e x ih =>
    cases he : isQuote e with
    | true =>
      refine ⟨[d], e, List.cons_ne_nil _ _, ?_, he, List.prefix_append [d, e] x⟩
      rw [List.forall_mem_singleton]
      exact hd
    | false =>
      have hrest : ∃ c ∈ x, isQuote c = true := by
        obtain ⟨c, hc, hq⟩ := hx
        rcases List.mem_cons.1 hc with rfl | hmem
        · exact Bool.noConfusion (he.symm.trans hq)
        · exact ⟨c, hmem, hq⟩
      obtain ⟨value, q, -, hvalue, hq, hprefix⟩ := ih he hrest
      refine ⟨d :: value, q, List.cons_ne_nil _ _, ?_, hq, List.cons_prefix_cons.2 ⟨rfl, hprefix⟩⟩
      rw [List.forall_mem_cons]
      exact ⟨hd, hvalue⟩

theorem Secret.head {h : List Char} (hh : Secret h) : ∃ d rest, h = d :: rest ∧ isQuote d = false := by
  obtain ⟨k, c, r, rfl, hk, -⟩ := hh.stem
  cases k with
  | nil =>
    obtain ⟨w, hw, hfold⟩ := hk
    have hall : ∀ w ∈ stems, [] ≠ w.toList := by decide
    exact absurd hfold (hall w hw)
  | cons d k =>
    refine ⟨d, k ++ c :: r, rfl, Bool.eq_false_iff.2 fun hquote => ?_⟩
    rcases Bool.or_eq_true_iff.1 hquote with h | h
    · exact ne_of_mem_stem hk List.mem_cons_self (by decide) (beq_iff_eq.1 h)
    · exact ne_of_mem_stem hk List.mem_cons_self (by decide) (beq_iff_eq.1 h)

/-- No character of the replacement's frame, and none that a template doubles. -/
def Plain (l : List Char) : Prop := '[' ∉ l ∧ '%' ∉ l

theorem Plain.append {a b : List Char} (ha : Plain a) (hb : Plain b) : Plain (a ++ b) := by
  constructor
  · rw [List.mem_append, not_or]
    exact ⟨ha.1, hb.1⟩
  · rw [List.mem_append, not_or]
    exact ⟨ha.2, hb.2⟩

theorem plain_of_all {f : Char → Bool} {l : List Char} (hl : ∀ c ∈ l, f c = true) (hopen : f '[' = false)
    (hpercent : f '%' = false) : Plain l :=
  ⟨fun hmem => Bool.noConfusion ((hl _ hmem).symm.trans hopen), fun hmem =>
    Bool.noConfusion ((hl _ hmem).symm.trans hpercent)⟩

theorem plain_stem {k : List Char} (hk : AnyOf stems k) : Plain k :=
  ⟨fun hmem => ne_of_mem_stem hk hmem (by decide) rfl, fun hmem => ne_of_mem_stem hk hmem (by decide) rfl⟩

/-- A secret is plain, or it is a value in quotes, of which it is one whatever the value. -/
theorem Secret.shape {m : List Char} (h : Secret m) : Plain m ∨ ∃ w value q, m = w ++ (value ++ [q]) ∧ Plain w ∧
    value ≠ [] ∧ (∀ c ∈ value, isQuote c = false) ∧ isQuote q = true ∧
    ∀ value' q', value' ≠ [] → (∀ c ∈ value', isQuote c = false) → isQuote q' = true →
      Secret (w ++ (value' ++ [q'])) := by
  have hspaces : ∀ {gap : List Char}, (∀ c ∈ gap, isSpace c = true) → Plain gap := fun hgap =>
    plain_of_all hgap (by decide) (by decide)
  cases h with
  | @bearer a gap token ha hgap _ htoken =>
    have hstem : AnyOf stems a := anyOf_mono ha (by decide)
    exact .inl ((plain_stem hstem).append ((hspaces hgap.2).append (plain_of_all htoken (by decide) (by decide))))
  | @apiKey a key ha _ hkey =>
    have hstem : AnyOf stems a := anyOf_mono ha (by decide)
    exact .inl ((plain_stem hstem).append (plain_of_all hkey (by decide) (by decide)))
  | @assigned a gap gap' value assign q q' ha hgap hassign hgap' hq hne hvalue hq' =>
    have hstem : AnyOf stems a := anyOf_mono ha secretNames_subset
    have hone : ∀ {f : Char → Bool} {c : Char}, f c = true → f '[' = false → f '%' = false → Plain [c] := by
      intro f c hc
      exact plain_of_all fun d hd => by rwa [List.mem_singleton.1 hd]
    have hshape : ∀ l : List Char, a ++ (gap ++ assign :: (gap' ++ q :: l)) =
        (a ++ (gap ++ ([assign] ++ (gap' ++ [q])))) ++ l := by simp
    have hplain : Plain (a ++ (gap ++ ([assign] ++ (gap' ++ [q])))) :=
      (plain_stem hstem).append ((hspaces hgap).append ((hone hassign (by decide) (by decide)).append
        ((hspaces hgap').append (hone hq (by decide) (by decide)))))
    refine .inr ⟨_, value, q', hshape _, hplain, hne, hvalue, hq', fun value' q'' hne' hvalue' hq'' => ?_⟩
    rw [← hshape]
    exact .assigned ha hgap hassign hgap' hq hne' hvalue' hq''

/-- What reaches over a replacement was a secret before. -/
theorem secret_over_replacement {u h cs out m : List Char} (hh : Secret h)
    (hrest : Regex.Replaced Secret replacement.toList cs out) (hm : m <+: u ++ (replacement.toList ++ out))
    (hsecret : Secret m) : ∃ m', m' <+: u ++ (h ++ cs) ∧ Secret m' := by
  have hopen : replacement.toList ++ out = '[' :: ("REDACTED_SECRET]".toList ++ out) := by
    have hcons : replacement.toList = '[' :: "REDACTED_SECRET]".toList := by decide
    rw [hcons, List.cons_append]
  have hkept : ∀ w : List Char, Plain w → w <+: u ++ (replacement.toList ++ out) → w <+: u := by
    intro w hw hprefix
    rw [hopen] at hprefix
    exact (Infix.prefix_append_cons hw.1).1 hprefix
  rcases hsecret.shape with hplain | ⟨w, value, q, rfl, hw, hne, hvalue, hq, hany⟩
  · exact ⟨m, (hkept m hplain hm).trans (List.prefix_append _ _), hsecret⟩
  · obtain ⟨u, rfl⟩ := hkept w hw ((List.prefix_append _ _).trans hm)
    rw [List.append_assoc, List.prefix_append_right_inj] at hm
    have hhead : ∃ d x, u ++ (h ++ cs) = d :: x ∧ isQuote d = false := by
      cases u with
      | nil =>
        obtain ⟨d, rest, rfl, hd⟩ := hh.head
        exact ⟨d, rest ++ cs, rfl, hd⟩
      | cons d u =>
        obtain ⟨e, value, rfl⟩ := List.exists_cons_of_ne_nil hne
        obtain rfl := (List.cons_prefix_cons.1 hm).1
        exact ⟨e, u ++ (h ++ cs), rfl, hvalue e List.mem_cons_self⟩
    -- the closing quote is none of the replacement's characters, so it was there before
    have hclosing : q ∈ u ++ (h ++ cs) := by
      have hreplacement : replacement.toList.all (fun c => !isQuote c) = true := by decide
      have hnot : q ∉ replacement.toList := by
        intro hmem
        have hplain := List.all_eq_true.1 hreplacement q hmem
        rw [hq] at hplain
        cases hplain
      have hmem : q ∈ u ++ (replacement.toList ++ out) := hm.subset (by simp)
      rcases List.mem_append.1 hmem with hu | hlater
      · exact List.mem_append_left _ hu
      · have hout := (List.mem_append.1 hlater).resolve_left hnot
        exact List.mem_append_right _ (List.mem_append_right _ (hrest.mem_of_mem hout hnot))
    obtain ⟨d, x, hx, hd⟩ := hhead
    rw [hx] at hclosing
    have hqd : q ≠ d := by
      rintro rfl
      exact Bool.noConfusion (hq.symm.trans hd)
    obtain ⟨value', q', hne', hvalue', hq', hprefix⟩ :=
      exists_closing hd ⟨q, (List.mem_cons.1 hclosing).resolve_left hqd, hq⟩
    refine ⟨w ++ (value' ++ [q']), ?_, hany value' q' hne' hvalue' hq'⟩
    rw [List.append_assoc, hx, List.prefix_append_right_inj]
    exact hprefix

/-- **No secret is left and none is formed** by the replacements. -/
theorem not_secret_of_redacted [Unicode] (s : String) {m : List Char}
    (hm : m <:+: (secretPattern.sub replacement s).toList) : ¬ Secret m :=
  Regex.Replaced.not_match not_secret_nil (fun _ _ _ _ => not_secret_in_replacement)
    (fun _ _ _ _ _ => secret_over_replacement) (Regex.replaced_sub means_secretPattern replacement s) hm

/-! ## Doubled percent signs -/

theorem flatMap_double {l : List Char} (h : '%' ∉ l) : l.flatMap Percent.double = l := by
  induction l with
  | nil => rfl
  | cons c l ih =>
    rw [List.mem_cons, not_or] at h
    have hc : c ≠ '%' := fun heq => h.1 heq.symm
    rw [List.flatMap_cons, ih h.2, Percent.double, if_neg hc]
    rfl

/-- A template that is printed as a secret is one. -/
theorem Secret.double {m : List Char} (h : Secret m) : Secret (m.flatMap Percent.double) := by
  rcases h.shape with hplain | ⟨w, value, q, rfl, hw, hne, hvalue, hq, hany⟩
  · rwa [flatMap_double hplain.2]
  · have hquote : '%' ∉ [q] := by
      rw [List.mem_singleton]
      rintro rfl
      exact absurd hq (by decide)
    rw [List.flatMap_append, List.flatMap_append, flatMap_double hw.2, flatMap_double hquote]
    have hmem : ∀ c ∈ value.flatMap Percent.double, c ∈ value := by
      intro c hc
      obtain ⟨d, hd, hcd⟩ := List.mem_flatMap.1 hc
      rw [Percent.double] at hcd
      split at hcd
      · rename_i heq
        rcases List.mem_cons.1 hcd with rfl | hcd
        · exact heq ▸ hd
        · rw [List.mem_singleton.1 hcd]
          exact heq ▸ hd
      · rw [List.mem_singleton.1 hcd]
        exact hd
    refine hany _ q ?_ (fun c hc => hvalue c (hmem c hc)) hq
    obtain ⟨d, value, rfl⟩ := List.exists_cons_of_ne_nil hne
    rw [List.flatMap_cons, Percent.double]
    split <;> exact List.cons_ne_nil _ _

/-! ## The formatter -/

namespace RedactingJsonFormatter

/-- `record.args`: a tuple, a dict, or another mapping. -/
inductive LogArgs (K V : Type) where
  | positional (values : List V)
  | dict (entries : List (K × V))
  | mapping (whole : V) (entries : List (K × V))

/-- `not record.args` -/
def LogArgs.isEmpty {K V : Type} : LogArgs K V → Bool
  | .positional values => values.isEmpty
  | .dict entries => entries.isEmpty
  | .mapping _ entries => entries.isEmpty

structure LogRecord (K V : Type) where
  msg : String
  args : LogArgs K V

/-- The objects that are logged: `str? v` is the string that `v` is, if it is one. -/
structure PyObjects (K V : Type) extends Percent.Objects V where
  key : List Char → K
  str? : V → Option String
  ofStr : String → V
  ofDict : List (K × V) → V

section
variable {K V : Type} [Unicode] (o : PyObjects K V)

/-- `SECRET_PATTERN.sub("[REDACTED_SECRET]", s)` -/
def redact (s : String) : String := secretPattern.sub replacement s

/-- logging.py:34 -/
def sanitize (v : V) : V :=
  match o.str? v with
  | some s => o.ofStr (redact s)
  | none => v

/-- logging.py:30 -/
def sanitizeArgs : LogArgs K V → LogArgs K V
  | .dict entries => .dict (entries.map fun e => (e.1, sanitize o e.2))
  | args => args

theorem isEmpty_sanitizeArgs (args : LogArgs K V) : (sanitizeArgs o args).isEmpty = args.isEmpty := by
  cases args with
  | dict entries => exact List.isEmpty_map
  | positional values => rfl
  | mapping whole entries => rfl

variable [DecidableEq K]

/-- The mapping behind the arguments. -/
def LogArgs.lookup : LogArgs K V → Percent.Lookup V
  | .positional _ => none
  | .dict entries | .mapping _ entries => some fun key => Dict.look (o.key key) entries

def LogArgs.values : LogArgs K V → List V
  | .positional values => values
  | .dict entries => [o.ofDict entries]
  | .mapping whole _ => [whole]

/-- `msg % args` -/
def merge (msg : String) (args : LogArgs K V) : Option (List Segment) :=
  Percent.segments o.toObjects (args.lookup o) msg.toList (args.values o)

/-- `record.getMessage()`, character by character or conversion by conversion -/
def getMessage (r : LogRecord K V) : Option (List Segment) :=
  if r.args.isEmpty then some (r.msg.toList.map .lit) else merge o r.msg r.args

def redactedMessage (r : LogRecord K V) : Option (List Segment) :=
  getMessage o { msg := redact r.msg, args := sanitizeArgs o r.args }

/-- The message of the line that `format` returns; `none` where merging the arguments raises. -/
def format (r : LogRecord K V) : Option String := (redactedMessage o r).map fun segs => String.ofList (text segs)

/-- A conversion of the redacted template prints a secret, finishes one that stands before it, begins one that is
finished behind it, or stands amid one. -/
def CompletesSecret (r : LogRecord K V) : Prop :=
  r.args.isEmpty = false ∧ ∃ left t right,
    Placed o.toObjects ((sanitizeArgs o r.args).lookup o) (redact r.msg).toList ((sanitizeArgs o r.args).values o)
      left t right ∧
    Overlaps Secret left t right

theorem redactedMessage_of_args {r : LogRecord K V} (h : r.args.isEmpty = false) :
    redactedMessage o r = merge o (redact r.msg) (sanitizeArgs o r.args) := by
  rw [redactedMessage, getMessage, isEmpty_sanitizeArgs, h]
  rfl

/-- What the redaction leaves is no secret, so an argument has completed it. -/
theorem completesSecret_of_secret {r : LogRecord K V} {segs : List Segment} (h : redactedMessage o r = some segs)
    {p m q : List Char} (htext : text segs = p ++ m ++ q) (hm : Secret m) : CompletesSecret o r := by
  cases hempty : r.args.isEmpty with
  | true =>
    rw [redactedMessage, getMessage, isEmpty_sanitizeArgs, if_pos hempty] at h
    cases h
    rw [Percent.text_map_lit] at htext
    exact absurd hm (not_secret_of_redacted r.msg ⟨p, q, htext.symm⟩)
  | false =>
    rw [redactedMessage_of_args o hempty] at h
    have hne : m ≠ [] := by
      rintro rfl
      exact not_secret_nil hm
    have htouches : Touches segs p m := by
      by_contra hnot
      exact not_secret_of_redacted r.msg (Percent.template_of_not_touches h hne htext hnot) hm.double
    obtain ⟨before, t, after, rfl, hleft, hright⟩ := htouches
    refine ⟨hempty, _, t, _, Percent.placed_iff.2 ⟨before, after, h, rfl, rfl⟩,
      (Infix.overlaps_iff not_secret_nil).2 ⟨p, m, q, ?_, hm, hleft, hright⟩⟩
    rw [← List.append_assoc p, ← htext, Percent.text_append, Percent.text_cons]
    rfl

theorem secret_of_completesSecret {r : LogRecord K V} (h : CompletesSecret o r) :
    ∃ segs p m q, redactedMessage o r = some segs ∧ text segs = p ++ m ++ q ∧ Secret m := by
  obtain ⟨hempty, left, t, right, hplaced, hoverlaps⟩ := h
  obtain ⟨before, after, hsegs, rfl, rfl⟩ := Percent.placed_iff.1 hplaced
  obtain ⟨p, m, q, htext, hm, -, -⟩ := (Infix.overlaps_iff not_secret_nil).1 hoverlaps
  refine ⟨_, p, m, q, (redactedMessage_of_args o hempty).trans hsegs, ?_, hm⟩
  rw [Percent.text_append, Percent.text_cons, List.append_assoc]
  exact htext

/-- **When no secret reaches the log line**: exactly when no argument completes one. -/
theorem redacted_iff (r : LogRecord K V) :
    (∀ message, format o r = some message → secretPattern.search message = false) ↔ ¬ CompletesSecret o r := by
  constructor
  · intro h hcompletes
    obtain ⟨segs, p, m, q, hsegs, htext, hm⟩ := secret_of_completesSecret o hcompletes
    have hformat : format o r = some (String.ofList (text segs)) := by rw [format, hsegs]; rfl
    have hsearch : secretPattern.search (String.ofList (text segs)) = true :=
      search_secretPattern.2 ⟨p, m, q, by rw [String.toList_ofList, htext], hm⟩
    exact Bool.noConfusion (hsearch.symm.trans (h _ hformat))
  · intro h message hformat
    obtain ⟨segs, hsegs, rfl⟩ := Option.map_eq_some_iff.1 hformat
    rw [Bool.eq_false_iff]
    intro hsearch
    obtain ⟨p, m, q, htext, hm⟩ := search_secretPattern.1 hsearch
    rw [String.toList_ofList] at htext
    exact h (completesSecret_of_secret o hsegs htext hm)

end

/-- Strings that `%s` prints as they are. -/
def plainStrings : PyObjects String String where
  isInt _ := false
  convert c _ s := if c.letter = 's' ∧ c.width.isNone ∧ c.precision.isNone then some s.toList else none
  key := String.ofList
  str? := some
  ofStr := id
  ofDict _ := "\x7b\x7d"

/-- `logger.info("%s", key)` -/
def keyRecord : LogRecord String String where
  msg := "%s"
  args := .positional ["sk-abcdefghijklmnopqrst"]

/-- The key is logged. -/
theorem key_logged :
    letI := Py.asciiTable
    format plainStrings keyRecord = some "sk-abcdefghijklmnopqrst" ∧
      secretPattern.search "sk-abcdefghijklmnopqrst" = true := by
  decide +kernel

end RedactingJsonFormatter

end OpsPilot
