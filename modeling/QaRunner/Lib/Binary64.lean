import Mathlib.Data.Int.Log
import Mathlib.Data.Rat.Floor
import Mathlib.Tactic.Linarith
import Mathlib.Tactic.NormNum

/-! Nonnegative quotients as the binary64 format rounds them: to the nearest value with fifty-three
bits, the even one of two. -/
namespace Binary64

/-- The nearest integer, the even one of two. -/
def roundEven (x : ℚ) : ℤ :=
  if 2 * (x - ⌊x⌋) < 1 ∨ (2 * (x - ⌊x⌋) = 1 ∧ ⌊x⌋ % 2 = 0) then ⌊x⌋ else ⌊x⌋ + 1

/-- The distance of the values next to a nonnegative one. -/
def spacing (x : ℚ) : ℚ := 2 ^ max (Int.log 2 x - 52) (-1074)

def round (x : ℚ) : ℚ := roundEven (x / spacing x) * spacing x

/-- The quotient of two integers as the language divides them, unless it is out of range. -/
def trueDiv (a b : ℤ) : Option ℚ :=
  let quotient := round (a / b)
  if 2 ^ 1024 ≤ quotient then none else some quotient

example : trueDiv 5 4 = some (5 / 4) := by decide +kernel

theorem roundEven_le (x : ℚ) : (roundEven x : ℚ) ≤ x + 1 := by
  have hfloor := Int.floor_le x
  unfold roundEven
  split
  · linarith
  · push_cast
    linarith

theorem roundEven_ge (x : ℚ) : x - 1 / 2 ≤ roundEven x := by
  have hfloor := Int.lt_floor_add_one x
  unfold roundEven
  split
  · next h =>
    rcases h with h | ⟨h, -⟩
    · linarith
    · linarith
  · push_cast
    linarith

/-- Rounding does not pass an integer. -/
theorem roundEven_le_int {x : ℚ} {k : ℤ} (h : x ≤ k) : roundEven x ≤ k := by
  have hfloor := Int.floor_le x
  have hle : ⌊x⌋ ≤ k := by
    have hcast : (⌊x⌋ : ℚ) ≤ k := hfloor.trans h
    exact_mod_cast hcast
  unfold roundEven
  split
  · exact hle
  · next hup =>
    by_contra hover
    -- then the floor is the bound itself, and nothing is left to round up
    have heq : ⌊x⌋ = k := by omega
    apply hup
    left
    rw [heq]
    linarith

theorem spacing_pos (x : ℚ) : 0 < spacing x := zpow_pos two_pos _

theorem round_le (x : ℚ) : round x ≤ x + spacing x := by
  have hpos := spacing_pos x
  calc round x ≤ (x / spacing x + 1) * spacing x :=
        mul_le_mul_of_nonneg_right (roundEven_le _) hpos.le
    _ = x + spacing x := by
        rw [add_mul, div_mul_cancel₀ _ hpos.ne', one_mul]

/-- Values below a power of two are spaced by what remains of it after fifty-three bits. -/
theorem spacing_le {x : ℚ} {k : ℤ} (hx : 0 < x) (hk : -1021 ≤ k) (h : x < 2 ^ k) :
    spacing x ≤ 2 ^ (k - 53) := by
  have hlog : Int.log 2 x < k := (Int.lt_zpow_iff_log_lt one_lt_two hx).mp h
  exact zpow_le_zpow_right₀ one_le_two (by omega)

/-- Below the fifty-third power of two the spacing divides the integers. -/
theorem spacing_eq {x : ℚ} (hx : 0 < x) (h : x < 2 ^ (53 : ℤ)) :
    ∃ n : ℕ, spacing x = (2 ^ n)⁻¹ := by
  have hlog : Int.log 2 x < 53 := (Int.lt_zpow_iff_log_lt one_lt_two hx).mp h
  have hexponent : max (Int.log 2 x - 52) (-1074) =
      -((-(max (Int.log 2 x - 52) (-1074))).toNat : ℤ) := by omega
  exact ⟨_, by rw [spacing, hexponent, zpow_neg, zpow_natCast]⟩

theorem round_le_int {x : ℚ} {k : ℤ} (hx : 0 < x) (hlt : x < 2 ^ (53 : ℤ)) (h : x ≤ k) :
    round x ≤ k := by
  obtain ⟨n, hn⟩ := spacing_eq hx hlt
  have hpos : (0 : ℚ) < 2 ^ n := pow_pos two_pos n
  have hscaled : x / spacing x ≤ ((k * 2 ^ n : ℤ) : ℚ) := by
    rw [hn, div_inv_eq_mul]
    push_cast
    exact mul_le_mul_of_nonneg_right h hpos.le
  have hround : (roundEven (x / spacing x) : ℚ) ≤ ((k * 2 ^ n : ℤ) : ℚ) :=
    Int.cast_le.mpr (roundEven_le_int hscaled)
  push_cast at hround
  calc round x = roundEven (x / spacing x) * (2 ^ n)⁻¹ := by rw [round, hn]
    _ ≤ k * 2 ^ n * (2 ^ n)⁻¹ := mul_le_mul_of_nonneg_right hround (inv_pos.mpr hpos).le
    _ = k := mul_inv_cancel_right₀ hpos.ne' _

/-- From one on, the spacing is a part of the value. -/
theorem spacing_le_self {x : ℚ} (hx : 1 ≤ x) : spacing x ≤ x * 2 ^ (-52 : ℤ) := by
  have hpos : 0 < x := by linarith
  have hlog : 0 ≤ Int.log 2 x := by
    apply (Int.zpow_le_iff_le_log one_lt_two hpos).mp
    rw [zpow_zero]
    exact hx
  have hexponent : max (Int.log 2 x - 52) (-1074) = Int.log 2 x + -52 := by omega
  rw [spacing, hexponent, zpow_add₀ two_ne_zero]
  apply mul_le_mul_of_nonneg_right _ (zpow_pos two_pos _).le
  have hself := Int.zpow_log_le_self one_lt_two hpos
  exact_mod_cast hself

/-- A quotient of integers in the safe range is a value. -/
theorem trueDiv_safe {a b : ℤ} (ha : 0 < a) (hsafe : a ≤ 9007199254740991) (hb : 0 < b) :
    trueDiv a b = some (round (a / b)) := by
  have hapos : (0 : ℚ) < a := Int.cast_pos.mpr ha
  have hbpos : (1 : ℚ) ≤ b := by exact_mod_cast hb
  have hle : (a / b : ℚ) ≤ a := div_le_self hapos.le hbpos
  have hbound : (a : ℚ) ≤ 9007199254740991 := by exact_mod_cast hsafe
  have hlt : (a / b : ℚ) < 2 ^ (53 : ℤ) := by
    norm_num
    linarith
  have hspacing := spacing_le (div_pos hapos (by linarith)) (by norm_num) hlt
  have hround := round_le (a / b : ℚ)
  have hone : (2 : ℚ) ^ (53 - 53 : ℤ) = 1 := by norm_num
  rw [hone] at hspacing
  have hlarge : (2 : ℚ) ^ 54 ≤ 2 ^ 1024 := pow_le_pow_right₀ one_le_two (by norm_num)
  have hrange : ¬ (2 : ℚ) ^ 1024 ≤ round (a / b) := by
    intro hover
    have hover := hlarge.trans hover
    norm_num at hover
    linarith only [hover, hround, hspacing, hle, hbound]
  exact if_neg hrange

/-- A rounded quotient of integers in the safe range has the ceiling of the exact one, or both are
at most one. -/
theorem ceil_round {a b : ℤ} (ha : 0 < a) (hsafe : a ≤ 9007199254740991) (hb : 0 < b) :
    max 1 ⌈round (a / b)⌉ = ⌈(a / b : ℚ)⌉ := by
  have hapos : (0 : ℚ) < a := Int.cast_pos.mpr ha
  have hbpos : (0 : ℚ) < b := Int.cast_pos.mpr hb
  have hbone : (1 : ℚ) ≤ b := by exact_mod_cast hb
  have hbound : (a : ℚ) ≤ 9007199254740991 := by exact_mod_cast hsafe
  have hxpos : (0 : ℚ) < a / b := div_pos hapos hbpos
  have hlt : (a / b : ℚ) < 2 ^ (53 : ℤ) := by
    have hle : (a / b : ℚ) ≤ a := div_le_self hapos.le hbone
    norm_num
    linarith
  have hone : 1 ≤ ⌈(a / b : ℚ)⌉ := Int.one_le_ceil_iff.mpr hxpos
  have hup : ⌈round (a / b)⌉ ≤ ⌈(a / b : ℚ)⌉ :=
    Int.ceil_le.mpr (round_le_int hxpos hlt (Int.le_ceil _))
  apply le_antisymm (max_le hone hup)
  by_cases hsmall : (a / b : ℚ) ≤ 1
  · exact (Int.ceil_le.mpr (by exact_mod_cast hsmall)).trans (le_max_left _ _)
  · refine le_trans ?_ (le_max_right _ _)
    rw [not_le] at hsmall
    set k := ⌈(a / b : ℚ)⌉ - 1 with hk
    -- a quotient that is no integer is far enough from the integer below it
    have hgap : (k : ℚ) + 1 / b ≤ a / b := by
      have hbelow : (k : ℚ) < a / b := by
        rw [← Int.lt_ceil]
        omega
      have hint : k * b < a := by
        rw [lt_div_iff₀ hbpos] at hbelow
        exact_mod_cast hbelow
      have hstep : ((k * b + 1 : ℤ) : ℚ) ≤ a := by exact_mod_cast hint
      push_cast at hstep
      rw [le_div_iff₀ hbpos, add_mul, one_div_mul_cancel hbpos.ne']
      exact hstep
    have herror : (a / b : ℚ) - spacing (a / b) / 2 ≤ round (a / b) := by
      have hpos := spacing_pos (a / b)
      calc (a / b : ℚ) - spacing (a / b) / 2
          = (a / b / spacing (a / b) - 1 / 2) * spacing (a / b) := by
            rw [sub_mul, div_mul_cancel₀ _ hpos.ne']
            ring
        _ ≤ round (a / b) := mul_le_mul_of_nonneg_right (roundEven_ge _) hpos.le
    have hspacing := spacing_le_self hsmall.le
    have hnear : (a / b : ℚ) * 2 ^ (-52 : ℤ) / 2 < 1 / b := by
      rw [div_mul_eq_mul_div, div_div, div_lt_div_iff₀ (by positivity) hbpos]
      norm_num
      nlinarith
    have hround : (k : ℚ) < round (a / b) := by linarith
    have hceil : k < ⌈round (a / b)⌉ := Int.lt_ceil.mpr hround
    omega

end Binary64
