import Mathlib.Data.List.Infix
/-!
# Reading a growing list page by page

A client asks for one page after the other, each where the last one ended, until a page is shorter than
the limit. Between two requests elements may be added anywhere: every list is a sublist of the next one.
What the client has not seen yet then only moves away from the beginning, and the next page begins no
later than it did (`mem_session`).
-/
namespace Paging

variable {α β : Type}

/-- At most `limit` elements, from the one at `offset` on. -/
def page (limit offset : Nat) (l : List α) : List α := (l.drop offset).take limit

theorem map_page (f : α → β) (limit offset : Nat) (l : List α) :
    (page limit offset l).map f = page limit offset (l.map f) := by
  rw [page, page, List.map_take, List.map_drop]

/-- What the client sees from the `i`-th request on, if it stops after at most `fuel` requests. -/
def session (limit : Nat) (request : Nat → List β) : Nat → Nat → Option (List β)
  | 0, _ => none
  | fuel + 1, i =>
    if (request i).length < limit then some (request i)
    else (session limit request fuel (i + 1)).map fun rest => request i ++ rest

variable {limit : Nat} {request : Nat → List β} {fuel i : Nat} {seen : List β}

/-- The session ends with a short page, or goes on behind a full one. -/
theorem session_cases (h : session limit request (fuel + 1) i = some seen) :
    ((request i).length < limit ∧ seen = request i) ∨
      ∃ rest, session limit request fuel (i + 1) = some rest ∧ seen = request i ++ rest := by
  rw [session] at h
  split at h
  · rename_i hshort
    exact .inl ⟨hshort, (Option.some.inj h).symm⟩
  · obtain ⟨rest, hrest, heq⟩ := Option.map_eq_some_iff.1 h
    exact .inr ⟨rest, hrest, heq.symm⟩

/-- A short page ends the session. -/
theorem exists_session {j : Nat} (hij : i ≤ j) (hshort : (request j).length < limit) :
    ∃ seen, session limit request (j - i + 1) i = some seen := by
  induction hn : j - i generalizing i with
  | zero =>
    obtain rfl : i = j := by omega
    exact ⟨request i, by rw [session, if_pos hshort]⟩
  | succ n ih =>
    rw [session]
    split
    · exact ⟨_, rfl⟩
    · obtain ⟨rest, hrest⟩ := ih (i := i + 1) (by omega) (by omega)
      exact ⟨request i ++ rest, by rw [hrest, Option.map_some]⟩

variable {key : β → α} {lists : Nat → List α}

/-- The `i`-th answer is the `i`-th page of the `i`-th list. -/
def Answers (limit : Nat) (request : Nat → List β) (key : β → α) (lists : Nat → List α) : Prop :=
  ∀ i, (request i).map key = page limit (i * limit) (lists i)

theorem Answers.drop_eq (h : Answers limit request key lists) (i : Nat) :
    (lists i).drop (i * limit) = (request i).map key ++ (lists i).drop ((i + 1) * limit) := by
  rw [h i, page, Nat.succ_mul, ← List.drop_drop, List.take_append_drop]

theorem Answers.drop_of_short (h : Answers limit request key lists) (hshort : (request i).length < limit) :
    (lists i).drop (i * limit) = (request i).map key := by
  have hlen : ((lists i).drop (i * limit)).length ≤ limit := by
    have hpage := congrArg List.length (h i)
    rw [List.length_map, page, List.length_take] at hpage
    omega
  rw [h i, page, List.take_of_length_le hlen]

/-- **Nothing is lost**: what is in the list behind the first offset is seen. -/
theorem mem_session (h : Answers limit request key lists) (hgrow : ∀ i, (lists i).Sublist (lists (i + 1)))
    (hsession : session limit request fuel i = some seen) {a : α} (ha : a ∈ (lists i).drop (i * limit)) :
    a ∈ seen.map key := by
  induction fuel generalizing i seen with
  | zero => cases hsession
  | succ fuel ih =>
    rcases session_cases hsession with ⟨hshort, rfl⟩ | ⟨rest, hrest, rfl⟩
    · rw [h.drop_of_short hshort] at ha
      exact ha
    · rw [h.drop_eq i] at ha
      rw [List.map_append]
      rcases List.mem_append.1 ha with hpage | hbehind
      · exact List.mem_append_left _ hpage
      · exact List.mem_append_right _ (ih hrest (((hgrow i).drop _).subset hbehind))

/-- Of a list that stays as it is, the pages are the parts. -/
theorem session_eq (h : Answers limit request key lists) {l : List α} (hsame : ∀ i, lists i = l)
    (hsession : session limit request fuel i = some seen) : seen.map key = l.drop (i * limit) := by
  induction fuel generalizing i seen with
  | zero => cases hsession
  | succ fuel ih =>
    rcases session_cases hsession with ⟨hshort, rfl⟩ | ⟨rest, hrest, rfl⟩
    · rw [← hsame i, h.drop_of_short hshort]
    · rw [List.map_append, ih hrest, ← hsame i, h.drop_eq i, hsame i]

/-- Once the list stays as it is, the client stops. -/
theorem session_stops (h : Answers limit request key lists) (hlimit : 1 ≤ limit) {N : Nat} {l : List α}
    (hsame : ∀ i, N ≤ i → lists i = l) : ∃ fuel seen, session limit request fuel 0 = some seen := by
  let j := max N (l.length)
  have hshort : (request j).length < limit := by
    have hempty : (request j).map key = [] := by
      rw [h j, hsame j (Nat.le_max_left _ _), page, List.drop_eq_nil_of_le, List.take_nil]
      exact (Nat.le_max_right N l.length).trans (Nat.le_mul_of_pos_right j hlimit)
    rw [List.map_eq_nil_iff.1 hempty]
    exact hlimit
  obtain ⟨seen, hseen⟩ := exists_session (Nat.zero_le j) hshort
  exact ⟨_, seen, hseen⟩

end Paging
