import OpsPilot.Lib.Text
/-!
# Keywords in a lowered text

`keyword in text.lower()`. An ASCII piece of a text is lowered on its own, whatever stands around it; so a
keyword that the piece has in lower case is found in the whole text.
-/

/-- `str.lower` looks at the neighbours of a capital sigma only. -/
class UnicodeCase extends UnicodeText where
  lower_piece : ∀ before piece after : String, (∀ c ∈ piece.toList, c.toNat < 128) →
    ∃ before' after' : String, lower (before ++ piece ++ after) = before' ++ lower piece ++ after'

namespace Py

/-- The case mapping of a program that only ever meets ASCII. -/
@[reducible] def asciiCase : UnicodeCase where
  toUnicodeText := asciiText
  lower_piece before piece after _ := by
    refine ⟨String.ofList (before.toList.map Char.toLower), String.ofList (after.toList.map Char.toLower), ?_⟩
    show String.ofList ((before ++ piece ++ after).toList.map Char.toLower) = _ ++ String.ofList _ ++ _
    simp only [String.toList_append, List.map_append, String.ofList_append]

/-- The piece is ASCII, and has the keyword in lower case. -/
def lowersTo (piece keyword : String) : Bool :=
  piece.toList.all (fun c => c.toNat < 128) && contains (String.ofList (piece.toList.map Char.toLower)) keyword

theorem contains_iff {s needle : String} :
    contains s needle = true ↔ ∃ before after, s = before ++ needle ++ after := by
  rw [contains, decide_eq_true_iff]
  constructor
  · rintro ⟨before, after, h⟩
    refine ⟨String.ofList before, String.ofList after, String.toList_inj.1 ?_⟩
    rw [String.toList_append, String.toList_append, String.toList_ofList, String.toList_ofList, h]
  · rintro ⟨before, after, rfl⟩
    exact ⟨before.toList, after.toList, by rw [String.toList_append, String.toList_append]⟩

theorem contains_self (s : String) : contains s s = true := decide_eq_true (List.infix_refl _)

theorem contains_append_left {s t needle : String} (h : contains s needle = true) :
    contains (s ++ t) needle = true := by
  obtain ⟨before, after, rfl⟩ := contains_iff.1 h
  exact contains_iff.2 ⟨before, after ++ t, by simp only [String.append_assoc]⟩

theorem contains_append_right {s t needle : String} (h : contains t needle = true) :
    contains (s ++ t) needle = true := by
  obtain ⟨before, after, rfl⟩ := contains_iff.1 h
  exact contains_iff.2 ⟨s ++ before, after, by simp only [String.append_assoc]⟩

/-- A keyword of an ASCII piece is found in the whole text, once that is lowered. -/
theorem contains_lower [UnicodeCase] {text piece keyword : String} (h : contains text piece = true)
    (hk : lowersTo piece keyword = true) : contains (UnicodeText.lower text) keyword = true := by
  rw [lowersTo, Bool.and_eq_true, List.all_eq_true] at hk
  obtain ⟨hascii, hkey⟩ := hk
  have hall : ∀ c ∈ piece.toList, c.toNat < 128 := fun c hc => of_decide_eq_true (hascii c hc)
  obtain ⟨before, after, rfl⟩ := contains_iff.1 h
  obtain ⟨before', after', hlower⟩ := UnicodeCase.lower_piece before piece after hall
  rw [hlower, UnicodeText.lower_ascii piece hall]
  exact contains_append_left (contains_append_right hkey)

end Py
