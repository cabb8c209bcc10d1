import Mathlib.Data.Int.Log
import Mathlib.Data.Rat.Floor
import Mathlib.Tactic.Linarith
import Mathlib.Tactic.NormNum
/-!
# What float arithmetic returns

A float is here the rational that it stands for. An operation returns its exact result `rounded` to 53 binary
digits, and of two floats that are equally near it takes the one with the even last digit. `le_rounded_iff` turns
a bound on the rounded result into one on the exact result.

Left out: negative results, and those that are too large for a float.
-/
namespace Binary64

/-- The nearest integer, and of two the even one. -/
def nearest (q : ℚ) : ℕ :=
  let n := ⌊q⌋₊
  if q - n < 1 / 2 then n
  else if 1 / 2 < q - n then n + 1
  else if n % 2 = 0 then n
  else n + 1

/-- How far apart the floats are where `q` lies. -/
def ulp (q : ℚ) : ℚ := 2 ^ max (Int.log 2 q - 52) (-1074)

def rounded (q : ℚ) : ℚ := nearest (q / ulp q) * ulp q

variable {q q' t : ℚ} {n : ℕ} {k : ℤ}

/-! ## The nearest integer -/

theorem le_nearest_iff (hq : 0 ≤ q) :
    n ≤ nearest q ↔ (n : ℚ) - 1 / 2 < q ∨ q = n - 1 / 2 ∧ n % 2 = 0 := by
  have hlow := Nat.floor_le hq
  have hhigh := Nat.lt_floor_add_one q
  unfold nearest
  generalize ⌊q⌋₊ = m at hlow hhigh
  -- an integer below `m + 1` is at most `m`
  have hle : ∀ j : ℕ, (n : ℚ) < j + 1 → n ≤ j := fun j h => Nat.lt_succ_iff.1 (by exact_mod_cast h)
  have hcast : ∀ j : ℕ, n ≤ j → (n : ℚ) ≤ j := fun j h => by exact_mod_cast h
  dsimp only
  split
  · rename_i hbelow
    refine ⟨fun h => .inl (by linarith [hcast m h]), ?_⟩
    rintro (h | ⟨h, -⟩)
    · exact hle m (by linarith)
    · exact hle m (by linarith)
  · split
    · rename_i habove
      constructor
      · intro h
        have := hcast (m + 1) h
        push_cast at this
        exact .inl (by linarith)
      · rintro (h | ⟨h, -⟩)
        · exact hle (m + 1) (by push_cast; linarith)
        · exact hle (m + 1) (by push_cast; linarith)
    · -- halfway
      have hhalf : q = m + 1 / 2 := by linarith
      have heq : q = n - 1 / 2 ↔ n = m + 1 := by
        rw [hhalf, ← Nat.cast_inj (R := ℚ)]
        push_cast
        constructor
        · intro h
          linarith
        · intro h
          linarith
      have hlt : (n : ℚ) - 1 / 2 < q ↔ n ≤ m :=
        ⟨fun h => hle m (by linarith), fun h => by linarith [hcast m h]⟩
      rw [hlt, heq]
      split <;> omega

theorem nearest_natCast (n : ℕ) : nearest n = n := by
  unfold nearest
  rw [Nat.floor_natCast]
  simp

theorem nearest_mono (hq : 0 ≤ q) (h : q ≤ q') : nearest q ≤ nearest q' := by
  rw [le_nearest_iff (hq.trans h)]
  rcases (le_nearest_iff hq).1 le_rfl with hlt | ⟨heq, heven⟩
  · exact .inl (hlt.trans_le h)
  · rcases h.eq_or_lt with rfl | hlt
    · exact .inr ⟨heq, heven⟩
    · exact .inl (heq ▸ hlt)

/-! ## The nearest float -/

theorem two_zpow_pos (k : ℤ) : (0 : ℚ) < 2 ^ k := zpow_pos (by norm_num) k

theorem rounded_nonneg (q : ℚ) : 0 ≤ rounded q := mul_nonneg (Nat.cast_nonneg _) (two_zpow_pos _).le

theorem le_log_iff (hq : 0 < q) : k ≤ Int.log 2 q ↔ 2 ^ k ≤ q := by
  rw [← Int.zpow_le_iff_le_log (by norm_num) hq, Nat.cast_ofNat]

theorem log_lt_iff (hq : 0 < q) : Int.log 2 q < k ↔ q < 2 ^ k := by
  rw [← Int.lt_zpow_iff_log_lt (by norm_num) hq, Nat.cast_ofNat]

/-- A power of two is a number of steps. -/
theorem two_zpow_eq {e : ℤ} (h : e ≤ k) : ∃ m : ℕ, (2 : ℚ) ^ k = m * 2 ^ e := by
  refine ⟨2 ^ (k - e).toNat, ?_⟩
  have hcast : ((2 ^ (k - e).toNat : ℕ) : ℚ) = 2 ^ (k - e) := by
    rw [Nat.cast_pow, Nat.cast_ofNat, ← zpow_natCast, Int.toNat_of_nonneg (by omega)]
  rw [hcast, ← zpow_add₀ (by norm_num)]
  congr 1
  omega

theorem rounded_zero : rounded 0 = 0 := by
  have hzero : nearest 0 = 0 := by simpa using nearest_natCast 0
  rw [rounded, zero_div, hzero, Nat.cast_zero, zero_mul]

theorem rounded_le_zpow (hq : 0 ≤ q) (h : q ≤ 2 ^ k) (hk : -1074 ≤ k) : rounded q ≤ 2 ^ k := by
  rcases hq.eq_or_lt with rfl | hpos
  · rw [rounded_zero]
    exact (two_zpow_pos k).le
  · have hlog : Int.log 2 q < k + 1 :=
      (log_lt_iff hpos).2 (h.trans_lt (zpow_lt_zpow_right₀ (by norm_num) (lt_add_one k)))
    obtain ⟨m, hm⟩ := two_zpow_eq (e := max (Int.log 2 q - 52) (-1074)) (k := k) (by omega)
    have hulp : (0 : ℚ) < ulp q := two_zpow_pos _
    have hdiv : q / ulp q ≤ m := by
      rw [div_le_iff₀ hulp]
      exact h.trans hm.le
    have hnearest := nearest_mono (div_nonneg hq hulp.le) hdiv
    rw [nearest_natCast] at hnearest
    rw [hm, rounded]
    exact mul_le_mul_of_nonneg_right (by exact_mod_cast hnearest) hulp.le

theorem zpow_le_rounded (h : 2 ^ k ≤ q) (hk : -1074 ≤ k) : 2 ^ k ≤ rounded q := by
  have hpos := (two_zpow_pos k).trans_le h
  have hlog := (le_log_iff hpos).2 h
  obtain ⟨m, hm⟩ := two_zpow_eq (e := max (Int.log 2 q - 52) (-1074)) (k := Int.log 2 q) (by omega)
  have hulp : (0 : ℚ) < ulp q := two_zpow_pos _
  have hle : (m : ℚ) ≤ q / ulp q := by
    rw [le_div_iff₀ hulp]
    exact hm.ge.trans ((le_log_iff hpos).1 le_rfl)
  have hnearest := nearest_mono (Nat.cast_nonneg m) hle
  rw [nearest_natCast] at hnearest
  calc (2 : ℚ) ^ k ≤ 2 ^ Int.log 2 q := zpow_le_zpow_right₀ (by norm_num) hlog
    _ = m * ulp q := hm
    _ ≤ rounded q := mul_le_mul_of_nonneg_right (by exact_mod_cast hnearest) hulp.le

theorem ulp_of_mem (hk : -1022 ≤ k) (hlow : 2 ^ k ≤ q) (hhigh : q < 2 ^ (k + 1)) : ulp q = 2 ^ (k - 52) := by
  have hpos := (two_zpow_pos k).trans_le hlow
  have hle := (le_log_iff hpos).2 hlow
  have hlt := (log_lt_iff hpos).2 hhigh
  rw [ulp]
  congr 1
  omega

/-- **Between two neighbouring floats it does not matter where the bound is**: a rounded result meets it from
halfway between the two on, and halfway if the upper one is even. -/
theorem le_rounded_iff (hk : -1022 ≤ k) (hn : 2 ^ 52 < n) (hn' : n ≤ 2 ^ 53)
    (hlow : (n - 1 : ℚ) * 2 ^ (k - 52) < t) (hhigh : t ≤ n * 2 ^ (k - 52)) (hq : 0 ≤ q) :
    t ≤ rounded q ↔ (n - 1 / 2 : ℚ) * 2 ^ (k - 52) < q ∨ q = (n - 1 / 2) * 2 ^ (k - 52) ∧ n % 2 = 0 := by
  have hstep := two_zpow_pos (k - 52)
  have hbottom : (2 : ℚ) ^ k = 2 ^ 52 * 2 ^ (k - 52) := by
    rw [← zpow_natCast, ← zpow_add₀ (by norm_num)]
    congr 1
    omega
  have htop : (2 : ℚ) ^ (k + 1) = 2 ^ 53 * 2 ^ (k - 52) := by
    rw [← zpow_natCast, ← zpow_add₀ (by norm_num)]
    congr 1
    omega
  have hn₁ : (2 ^ 52 + 1 : ℚ) ≤ n := by exact_mod_cast hn
  have hn₂ : (n : ℚ) ≤ 2 ^ 53 := by exact_mod_cast hn'
  rcases lt_or_ge q (2 ^ k) with hsmall | hsmall
  · -- all is below
    have hrounded := rounded_le_zpow hq hsmall.le (by omega)
    have hlt : q < (n - 1 / 2) * 2 ^ (k - 52) := by
      rw [hbottom] at hsmall
      nlinarith
    refine iff_of_false (fun h => ?_) fun h => ?_
    · rw [hbottom] at hrounded
      nlinarith
    · rcases h with h | ⟨h, -⟩
      · exact lt_asymm h hlt
      · exact hlt.ne h
  rcases lt_or_ge q (2 ^ (k + 1)) with hlarge | hlarge
  · -- the floats around `q` are a step apart
    have hsteps : t ≤ rounded q ↔ n ≤ nearest (q / 2 ^ (k - 52)) := by
      rw [rounded, ulp_of_mem hk hsmall hlarge]
      constructor
      · intro h
        have hlt := lt_of_mul_lt_mul_right (hlow.trans_le h) hstep.le
        rw [sub_lt_iff_lt_add] at hlt
        exact Nat.lt_succ_iff.1 (by exact_mod_cast hlt)
      · intro h
        exact hhigh.trans (mul_le_mul_of_nonneg_right (by exact_mod_cast h) hstep.le)
    rw [hsteps, le_nearest_iff (div_nonneg hq hstep.le), lt_div_iff₀ hstep, div_eq_iff hstep.ne']
  · -- all is above
    have hrounded := zpow_le_rounded hlarge (by omega)
    rw [htop] at hlarge hrounded
    refine iff_of_true ?_ (.inl ?_)
    · nlinarith
    · nlinarith

section
variable (hk : -1022 ≤ k) (hn : 2 ^ 52 < n) (hn' : n ≤ 2 ^ 53) (hlow : (n - 1 : ℚ) * 2 ^ (k - 52) < t)
  (hhigh : t ≤ n * 2 ^ (k - 52)) (hq : 0 ≤ q)
include hk hn hn' hlow hhigh hq

theorem le_rounded_iff_of_even (heven : n % 2 = 0) : t ≤ rounded q ↔ (n - 1 / 2 : ℚ) * 2 ^ (k - 52) ≤ q := by
  rw [le_rounded_iff hk hn hn' hlow hhigh hq, and_iff_left heven, le_iff_lt_or_eq, eq_comm (a := q)]

theorem le_rounded_iff_of_odd (hodd : n % 2 = 1) : t ≤ rounded q ↔ (n - 1 / 2 : ℚ) * 2 ^ (k - 52) < q := by
  rw [le_rounded_iff hk hn hn' hlow hhigh hq]
  exact or_iff_left fun h => by omega

end

end Binary64
