import OpsPilot.Lib.Spans
import OpsPilot.Safety.Policy
/-!
# What the destructive patterns catch (`DESTRUCTIVE_PATTERNS`, policy.py:17)

The commands that the pattern enumerates are said here without it: phrases, in any letter case.
`search_iff_live` compares the two. They agree but for `format <letter>:`, which ends with a colon:
the `\b` at the end of the pattern asks for a word character right after it.
-/
namespace OpsPilot

open Regex (fold isWord atBoundary Spans Means AnyOf Solid Phrase)

/-! ## The commands -/

/-- A letter and a colon. -/
def Drive (m : List Char) : Prop := ∃ c d, (fold c).isLower = true ∧ fold d = ':' ∧ m = [c, d]

inductive CommandWord where
  | oneOf (words : List String)
  | name
  | drive

def CommandWord.Is : CommandWord → List Char → Prop
  | .oneOf words => AnyOf words
  | .name => Solid
  | .drive => Drive

def plainForms : List (List CommandWord) := [
  [.oneOf ["drop"], .oneOf ["table", "database", "schema", "view", "index"]],
  [.oneOf ["truncate"]],
  [.oneOf ["truncate"], .oneOf ["table"]],
  [.oneOf ["delete"], .oneOf ["from"]],
  [.oneOf ["rm"], .oneOf ["-r", "-f", "-rf", "-fr"]],
  [.oneOf ["flushall"]],
  [.oneOf ["flushdb"]],
  [.oneOf ["alter"], .oneOf ["table"], .name, .oneOf ["drop"]]]

def PlainCommand (m : List Char) : Prop := ∃ form ∈ plainForms, Phrase (form.map CommandWord.Is) m

def FormatCommand (m : List Char) : Prop := Phrase ([.oneOf ["format"], .drive].map CommandWord.Is) m

/-! ## Their first and last characters -/

/-- A character that folds onto an ASCII letter by its case is one itself, or its capital. -/
theorem isAlpha_of_toLower {c : Char} (h : c.toLower.isLower = true) : c.isAlpha = true := by
  unfold Char.toLower at h
  split at h
  · rename_i hupper
    have hcap : c.isUpper = true := decide_eq_true hupper
    exact Bool.or_eq_true_iff.2 (.inl hcap)
  · exact Bool.or_eq_true_iff.2 (.inr h)

section
variable [Unicode]

/-- A letter that nothing but itself and its capital folds onto. -/
def plainLetter (c : Char) : Bool := c.isLower && c != 'i' && c != 's' && c != 'k'

theorem isWord_of_fold {c : Char} (h : plainLetter (fold c) = true) : isWord c = true := by
  rcases Regex.fold_cases c with hlower | hfold | hfold | hfold
  · rw [hlower] at h
    have halpha : c.isAlpha = true := by
      refine isAlpha_of_toLower ?_
      simp only [plainLetter, Bool.and_eq_true] at h
      exact h.1.1.1
    have hascii : c.toNat < 128 := by
      have hle : c.val.toNat ≤ 122 := by
        rcases Bool.or_eq_true_iff.1 halpha with hupper | hlower
        · have hrange : 65 ≤ c.val.toNat ∧ c.val.toNat ≤ 90 := of_decide_eq_true hupper
          exact Nat.le_trans hrange.2 (by decide)
        · have hrange := Bool.and_eq_true_iff.1 hlower
          exact of_decide_eq_true hrange.2
      exact Nat.lt_of_le_of_lt hle (by decide)
    simp [isWord, Unicode.alnum_ascii c hascii, Char.isAlphanum, halpha]
  -- what folds onto `i`, `s` or `k` may be no ASCII letter
  all_goals
    rw [hfold] at h
    cases h

theorem not_isWord_of_fold {c : Char} (h : fold c = ':') : isWord c = false := by
  have hc : c = ':' := by
    rcases Regex.fold_cases c with hlower | hfold | hfold | hfold
    · rw [hlower] at h
      unfold Char.toLower at h
      split at h
      · rename_i hupper
        have hval : (c.val + 32).toNat = 58 := congrArg Char.toNat h
        have hlow : 65 ≤ c.val.toNat := hupper.1
        have hhigh : c.val.toNat ≤ 90 := hupper.2
        have hsum : (c.val + 32).toNat = (c.val.toNat + 32) % 2 ^ 32 := UInt32.toNat_add c.val 32
        omega
      · exact h
    all_goals exact absurd (hfold.symm.trans h) (by decide)
  subst hc
  rw [isWord, Unicode.alnum_ascii ':' (by decide)]
  decide

theorem head_of_anyOf {words : List String} {m : List Char} (h : AnyOf words m)
    (hwords : ∀ s ∈ words, s.toList.head?.any plainLetter = true) : m.head?.any isWord = true := by
  obtain ⟨s, hs, hm⟩ := h
  have hhead := hwords s hs
  rw [← hm, List.head?_map, Option.any_map] at hhead
  obtain ⟨c, hc, hplain⟩ := (Option.any_eq_true _ _).1 hhead
  exact (Option.any_eq_true _ _).2 ⟨c, hc, isWord_of_fold hplain⟩

theorem last_of_anyOf {words : List String} {m : List Char} (h : AnyOf words m)
    (hwords : ∀ s ∈ words, s.toList.getLast?.any plainLetter = true) : m.getLast?.any isWord = true := by
  obtain ⟨s, hs, hm⟩ := h
  have hlast := hwords s hs
  rw [← hm, List.getLast?_map, Option.any_map] at hlast
  obtain ⟨c, hc, hplain⟩ := (Option.any_eq_true _ _).1 hlast
  exact (Option.any_eq_true _ _).2 ⟨c, hc, isWord_of_fold hplain⟩

namespace CommandWord

def beginsPlain : CommandWord → Bool
  | .oneOf words => words.all fun s => s.toList.head?.any plainLetter
  | .name | .drive => false

def endsPlain : CommandWord → Bool
  | .oneOf words => words.all fun s => s.toList.getLast?.any plainLetter
  | .name | .drive => false

theorem head_of_is {w : CommandWord} {m : List Char} (h : w.Is m) (hw : w.beginsPlain = true) :
    m.head?.any isWord = true := by
  cases w with
  | oneOf words => exact head_of_anyOf h (List.all_eq_true.1 hw)
  | name => cases hw
  | drive => cases hw

theorem last_of_is {w : CommandWord} {m : List Char} (h : w.Is m) (hw : w.endsPlain = true) :
    m.getLast?.any isWord = true := by
  cases w with
  | oneOf words => exact last_of_anyOf h (List.all_eq_true.1 hw)
  | name => cases hw
  | drive => cases hw

end CommandWord

theorem head_of_phrase {form : List CommandWord} {m : List Char} (h : Phrase (form.map CommandWord.Is) m)
    (hform : form.head?.any CommandWord.beginsPlain = true) : m.head?.any isWord = true := by
  cases form with
  | nil => cases hform
  | cons w ws =>
    obtain ⟨a, b, rfl, ha⟩ := Phrase.first h
    have hhead := w.head_of_is ha hform
    cases a with
    | nil => cases hhead
    | cons c a => exact hhead

/-- A plain command begins and ends with a letter. -/
theorem PlainCommand.edges {m : List Char} (h : PlainCommand m) :
    m.head?.any isWord = true ∧ ∃ c, m.getLast? = some c ∧ isWord c = true := by
  obtain ⟨form, hform, hphrase⟩ := h
  have hplain : ∀ form ∈ plainForms, form.head?.any CommandWord.beginsPlain = true ∧
      form.getLast?.any CommandWord.endsPlain = true := by decide
  obtain ⟨hhead, hlast⟩ := hplain form hform
  refine ⟨head_of_phrase hphrase hhead, ?_⟩
  obtain ⟨w, hw, hends⟩ := (Option.any_eq_true _ _).1 hlast
  obtain ⟨a, b, rfl, hb⟩ := Phrase.last (w := w.Is) (by rw [List.getLast?_map, hw]; rfl) hphrase
  obtain ⟨c, hc, hword⟩ := (Option.any_eq_true _ _).1 (w.last_of_is hb hends)
  refine ⟨c, ?_, hword⟩
  rw [List.getLast?_append, hc]
  rfl

/-- A format command begins with a letter and ends with its colon. -/
theorem FormatCommand.edges {m : List Char} (h : FormatCommand m) :
    m.head?.any isWord = true ∧ ∃ c, m.getLast? = some c ∧ isWord c = false := by
  refine ⟨head_of_phrase h (by decide), ?_⟩
  obtain ⟨a, b, rfl, c, d, -, hd, rfl⟩ := Phrase.last (w := Drive) rfl h
  refine ⟨d, ?_, not_isWord_of_fold hd⟩
  rw [List.getLast?_append]
  rfl

/-! ## Where they stand -/

/-- Nothing, or no word character. -/
def Outside (c : Option Char) : Prop := c.any isWord = false

/-- A command stands in the text by itself. -/
def ContainsCommand (s : String) : Prop :=
  ∃ a m b, s.toList = a ++ m ++ b ∧ (PlainCommand m ∨ FormatCommand m) ∧ Outside a.getLast? ∧ Outside b.head?

/-- A plain command stands in the text by itself, or a format command runs into the next word. -/
def Live (s : String) : Prop :=
  ∃ a m b, s.toList = a ++ m ++ b ∧ Outside a.getLast? ∧
    (PlainCommand m ∧ Outside b.head? ∨ FormatCommand m ∧ b.head?.any isWord = true)

section
variable {prev : Option Char} {m rest : List Char}

theorem atBoundary_start (hm : m.head?.any isWord = true) :
    atBoundary (prev, m ++ rest) = true ↔ Outside prev := by
  have hhead : (m ++ rest).head?.any isWord = true := by
    cases m with
    | nil => cases hm
    | cons c m => exact hm
  simp only [atBoundary, hhead, Outside]
  simp

theorem atBoundary_end {b : Bool} (hm : ∃ c, m.getLast? = some c ∧ isWord c = b) :
    atBoundary (m.getLast?.or prev, rest) = true ↔ rest.head?.any isWord = !b := by
  obtain ⟨c, hc, hword⟩ := hm
  rw [hc, Option.some_or, atBoundary, Option.any_some, hword]
  cases b <;> cases rest.head?.any isWord <;> decide

end

open Regex in
theorem spans_truncate {prev : Option Char} {m rest : List Char} :
    Spans (cat [word "truncate", opt (cat [plus space, word "table"])]) prev m rest ↔
      Phrase [AnyOf ["truncate"]] m ∨ Phrase [AnyOf ["truncate"], AnyOf ["table"]] m := by
  have htable := means_phrase (means_word "truncate") (means_last (means_word "table")) prev m rest
  constructor
  · rintro ⟨a, b, rfl, ha, hb | rfl⟩
    · exact .inr (htable.1 ⟨a, b, rfl, ha, hb⟩)
    · rw [List.append_nil]
      exact .inl ((means_word "truncate" _ _ _).1 ha)
  · rintro (h | h)
    · exact ⟨m, [], (List.append_nil m).symm, (means_word "truncate" _ _ _).2 h, .inr rfl⟩
    · obtain ⟨a, b, rfl, ha, hb⟩ := htable.2 h
      exact ⟨a, b, rfl, ha, .inl hb⟩

open Regex in
/-- The flag of `rm` has a `\b` of its own, where the one at the end stands as well. -/
theorem spans_rm {prev : Option Char} {m rest : List Char} (hend : atBoundary (m.getLast?.or prev, rest) = true) :
    Spans (cat [word "rm", plus space, word "-", oneOf [word "r", word "f", word "rf", word "fr"], .boundary])
      prev m rest ↔ Phrase [AnyOf ["rm"], AnyOf ["-r", "-f", "-rf", "-fr"]] m := by
  have hflags : ["-r", "-f", "-rf", "-fr"] = ["r", "f", "rf", "fr"].map ("-" ++ ·) := by decide
  rw [hflags]
  constructor
  · rintro ⟨a, c, rfl, ha, gap, d, rfl, hgap, dash, e, rfl, hdash, flag, f, rfl, hflag, rfl, -⟩
    refine ⟨a, gap, dash ++ flag, by simp, (means_word "rm" _ _ _).1 ha, spans_plus_char.1 hgap, ?_⟩
    exact (anyOf_append "-" _).2 ⟨dash, flag, rfl, (means_word "-" _ _ _).1 hdash, (means_words _ _ _ _).1 hflag⟩
  · rintro ⟨a, gap, b, rfl, ha, hgap, hb⟩
    obtain ⟨dash, flag, rfl, hdash, hflag⟩ := (anyOf_append "-" _).1 hb
    refine ⟨a, gap ++ (dash ++ flag), by simp, (means_word "rm" _ _ _).2 ha, gap, dash ++ flag, rfl,
      spans_plus_char.2 hgap, dash, flag, rfl, (means_word "-" _ _ _).2 hdash, flag, [], by simp,
      (means_words _ _ _ _).2 hflag, rfl, ?_⟩
    rw [last_append, last_append, last_append] at hend
    exact hend

open Regex in
theorem means_drive : Means (cat [letter, word ":"]) Drive := by
  intro prev m rest
  constructor
  · rintro ⟨a, b, rfl, ⟨c, hc, rfl⟩, hb⟩
    obtain ⟨d, b, rfl, hd, hb⟩ := List.map_eq_cons_iff.1 (spans_word.1 hb)
    obtain rfl := List.map_eq_nil_iff.1 hb
    exact ⟨c, d, hc, hd, rfl⟩
  · rintro ⟨c, d, hc, hd, rfl⟩
    exact ⟨[c], [d], rfl, ⟨c, hc, rfl⟩, spans_word.2 (by rw [List.map_singleton, hd]; rfl)⟩

open Regex in
/-- The alternatives of the pattern are the commands, one by one. -/
theorem spans_alternatives {prev : Option Char} {m rest : List Char}
    (hend : atBoundary (m.getLast?.or prev, rest) = true) :
    (∃ r ∈ [cat [word "drop", plus space,
        oneOf [word "table", word "database", word "schema", word "view", word "index"]],
      cat [word "truncate", opt (cat [plus space, word "table"])],
      cat [word "delete", plus space, word "from"],
      cat [word "rm", plus space, word "-", oneOf [word "r", word "f", word "rf", word "fr"], .boundary],
      cat [word "format", plus space, letter, word ":"],
      word "flushall",
      word "flushdb",
      cat [word "alter", plus space, word "table", plus space, plus nonSpace, plus space, word "drop"]],
      Spans r prev m rest) ↔ PlainCommand m ∨ FormatCommand m := by
  have hdrop := means_phrase (means_word "drop")
    (means_last (means_words ["table", "database", "schema", "view", "index"])) prev m rest
  have hdelete := means_phrase (means_word "delete") (means_last (means_word "from")) prev m rest
  have hdrive : Means (cat [letter, word ":"]) (Phrase [Drive]) := means_drive
  have hformat := means_phrase (means_word "format") hdrive prev m rest
  have halter := means_phrase (means_word "alter") (means_phrase (means_word "table")
    (means_phrase means_solid (means_last (means_word "drop")))) prev m rest
  have hplain : PlainCommand m ↔
      Phrase [AnyOf ["drop"], AnyOf ["table", "database", "schema", "view", "index"]] m ∨
      Phrase [AnyOf ["truncate"]] m ∨ Phrase [AnyOf ["truncate"], AnyOf ["table"]] m ∨
      Phrase [AnyOf ["delete"], AnyOf ["from"]] m ∨ Phrase [AnyOf ["rm"], AnyOf ["-r", "-f", "-rf", "-fr"]] m ∨
      AnyOf ["flushall"] m ∨ AnyOf ["flushdb"] m ∨
      Phrase [AnyOf ["alter"], AnyOf ["table"], Solid, AnyOf ["drop"]] m := by
    simp only [PlainCommand, plainForms, List.exists_mem_cons_iff, List.not_mem_nil, false_and, exists_false, or_false]
    exact Iff.rfl
  simp only [List.exists_mem_cons_iff, List.not_mem_nil, false_and, exists_false, or_false]
  refine (or_congr hdrop <| or_congr spans_truncate <| or_congr hdelete <| or_congr (spans_rm hend) <|
    or_congr hformat <| or_congr (means_word "flushall" prev m rest) <|
    or_congr (means_word "flushdb" prev m rest) halter).trans ?_
  have hform : FormatCommand m ↔ Phrase [AnyOf ["format"], Drive] m := Iff.rfl
  rw [hplain, hform]
  -- the pattern has its format command in the middle, and the table of a truncation as an option
  have hmove : ∀ a b c d e f g h i : Prop, (a ∨ (b ∨ c) ∨ d ∨ e ∨ i ∨ f ∨ g ∨ h) ↔
      (a ∨ b ∨ c ∨ d ∨ e ∨ f ∨ g ∨ h) ∨ i := by grind
  exact hmove _ _ _ _ _ _ _ _ _

/-- The pattern finds plain commands that stand by themselves, and format commands that do not. -/
theorem search_iff_live {s : String} : destructivePatterns.search s = true ↔ Live s := by
  rw [Regex.search_iff]
  refine exists_congr fun a => exists_congr fun m => exists_congr fun b => and_congr_right fun _ => ?_
  rw [destructivePatterns, Regex.spans_bounded, Regex.spans_oneOf]
  constructor
  · rintro ⟨hstart, hr, hend⟩
    rcases (spans_alternatives hend).1 hr with hplain | hformat
    · obtain ⟨hhead, hlast⟩ := hplain.edges
      exact ⟨(atBoundary_start hhead).1 hstart, .inl ⟨hplain, (atBoundary_end hlast).1 hend⟩⟩
    · obtain ⟨hhead, hlast⟩ := hformat.edges
      exact ⟨(atBoundary_start hhead).1 hstart, .inr ⟨hformat, (atBoundary_end hlast).1 hend⟩⟩
  · rintro ⟨hstart, hcommand⟩
    have hmatch : m.head?.any isWord = true ∧ atBoundary (m.getLast?.or a.getLast?, b) = true := by
      rcases hcommand with ⟨hplain, hout⟩ | ⟨hformat, hin⟩
      · exact ⟨hplain.edges.1, (atBoundary_end hplain.edges.2).2 hout⟩
      · exact ⟨hformat.edges.1, (atBoundary_end hformat.edges.2).2 hin⟩
    refine ⟨(atBoundary_start hmatch.1).2 hstart, (spans_alternatives hmatch.2).2 ?_, hmatch.2⟩
    exact hcommand.imp And.left And.left

end

/-! ## Values of any depth -/

/-- `s` is a key or a string of the value, at some depth. -/
inductive Within (s : String) : Json → Prop
  | str : Within s (.str s)
  | item {xs : List Json} {x : Json} : x ∈ xs → Within s x → Within s (.arr xs)
  | key {kvs : List (String × Json)} {v : Json} : (s, v) ∈ kvs → Within s (.obj kvs)
  | value {kvs : List (String × Json)} {k : String} {v : Json} : (k, v) ∈ kvs → Within s v → Within s (.obj kvs)

theorem mem_extractStringsList {s : String} {xs : List Json} :
    s ∈ extractStringsList xs ↔ ∃ x ∈ xs, s ∈ extractStrings x := by
  induction xs with
  | nil => simp [extractStringsList]
  | cons x xs ih => simp [extractStringsList, ih]

theorem mem_extractStringsFields {s : String} {kvs : List (String × Json)} :
    s ∈ extractStringsFields kvs ↔ ∃ e ∈ kvs, s = e.1 ∨ s ∈ extractStrings e.2 := by
  induction kvs with
  | nil => simp [extractStringsFields]
  | cons e kvs ih => simp [extractStringsFields, ih, or_assoc]

theorem within_of_mem {s : String} {v : Json} (h : s ∈ extractStrings v) : Within s v := by
  induction v using Json.induction with
  | null | bool | int | float => cases h
  | str t =>
    obtain rfl : s = t := List.mem_singleton.1 h
    exact .str
  | arr xs ih =>
    obtain ⟨x, hx, hs⟩ := mem_extractStringsList.1 h
    exact .item hx (ih x hx hs)
  | obj kvs ih =>
    obtain ⟨⟨k, v⟩, hkv, rfl | hs⟩ := mem_extractStringsFields.1 h
    · exact .key hkv
    · exact .value hkv (ih _ hkv hs)

/-- The keys and the strings of a value are what is scanned. -/
theorem mem_extractStrings {s : String} {v : Json} : s ∈ extractStrings v ↔ Within s v := by
  constructor
  · exact within_of_mem
  · intro h
    induction h with
    | str => exact List.mem_singleton_self s
    | item hx _ ih => exact mem_extractStringsList.2 ⟨_, hx, ih⟩
    | key hkv => exact mem_extractStringsFields.2 ⟨_, hkv, .inl rfl⟩
    | value hkv _ ih => exact mem_extractStringsFields.2 ⟨_, hkv, .inr ih⟩

/-! ## Destructive payloads -/

namespace RiskPolicyEngine

section
variable [Unicode]

/-- Some key or string of the parameters has a command that stands by itself. -/
def Destructive (parameters : Json) : Prop := ∃ s, Within s parameters ∧ ContainsCommand s

/-- The payload is detected, and an action with it is critical and needs an approval. -/
structure Caught (parameters : Json) : Prop where
  detected : detectDestructivePayload parameters = true
  critical : ∀ (e : RiskPolicyEngine) (action : RemediationAction) (incidentId : String),
    action.parameters = parameters → (e.assessActionRisk action incidentId).riskTier = .critical ∧
      (e.assessActionRisk action incidentId).requiresApproval = true

theorem detect_iff {parameters : Json} : detectDestructivePayload parameters = true ↔
    (∃ s, Within s parameters ∧ Live s) ∨ Live (parameters.dumps false) := by
  simp only [detectDestructivePayload, Bool.or_eq_true, List.any_eq_true, search_iff_live, mem_extractStrings]

theorem caught_iff_detected {parameters : Json} :
    Caught parameters ↔ detectDestructivePayload parameters = true := by
  refine ⟨Caught.detected, fun h => ⟨h, ?_⟩⟩
  rintro e action incidentId rfl
  have hscore : e.totalScore action = 100 := by
    rw [totalScore, baseRisk, if_pos h]
    omega
  refine ⟨?_, requiresApproval_assess e action incidentId⟩
  have htier : (e.assessActionRisk action incidentId).riskTier = riskTier (e.totalScore action) := rfl
  rw [htier, hscore]
  rfl

/-- **What slips through**: a payload with a command is caught exactly if a plain command, in one of
its strings or in its JSON text, stands by itself, or a format command runs into the next word. -/
theorem caught_iff (parameters : Json) : (Destructive parameters → Caught parameters) ↔
    (Destructive parameters →
      (∃ s, Within s parameters ∧ Live s) ∨ Live (parameters.dumps false)) := by
  rw [caught_iff_detected, detect_iff]

/-- A payload with a plain command is caught. -/
theorem caught_of_plain {parameters : Json} {s : String} {a m b : List Char} (hs : Within s parameters)
    (hsplit : s.toList = a ++ m ++ b) (hm : PlainCommand m) (ha : Outside a.getLast?) (hb : Outside b.head?) :
    Caught parameters :=
  caught_iff_detected.2 (detect_iff.2 (.inl ⟨s, hs, a, m, b, hsplit, ha, .inl ⟨hm, hb⟩⟩))

end

/-- A disk is formatted, and nobody is asked. -/
theorem format_slips : letI := Py.asciiTable
    let parameters : Json := .obj [("cmd", .str "format c:")]
    Destructive parameters ∧ ¬ Caught parameters := by
  have hdetect : letI := Py.asciiTable
      detectDestructivePayload (.obj [("cmd", .str "format c:")]) = false := by decide +kernel
  let _ := Py.asciiTable
  refine ⟨⟨"format c:", .value (List.mem_singleton_self _) .str, [], "format c:".toList, [],
    (List.append_nil _).symm, .inr ?_, rfl, rfl⟩, fun h => ?_⟩
  · refine ⟨"format".toList, [' '], "c:".toList, by decide, ?_, ?_, ?_⟩
    · exact ⟨"format", List.mem_singleton_self _, by decide⟩
    · refine ⟨List.cons_ne_nil _ _, fun c hc => ?_⟩
      rw [List.mem_singleton.1 hc]
      rfl
    · exact ⟨'c', ':', by decide, by decide, by decide⟩
  · rw [h.detected] at hdetect
    cases hdetect

end RiskPolicyEngine

end OpsPilot
