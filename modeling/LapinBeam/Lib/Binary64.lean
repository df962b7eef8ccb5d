import Mathlib.Algebra.Order.Field.Power
import Mathlib.Algebra.Order.Field.Rat
import Mathlib.Algebra.Order.Ring.Abs
import Mathlib.Data.Int.Log
import Mathlib.Data.Rat.Floor
import Mathlib.Tactic.Positivity
import Mathlib.Tactic.Ring

/-!
# Doubles

The finite doubles, as the rationals they stand for. Operations round their result to the nearest
double, ties to even; infinities are left out.
-/

namespace Binary64

def Representable (x : ℚ) : Prop :=
  ∃ mantissa exponent : ℤ, |mantissa| < 2 ^ 53 ∧ -1074 ≤ exponent ∧ exponent ≤ 971 ∧
    x = mantissa * 2 ^ exponent

def nearestEven (x : ℚ) : ℤ :=
  if x - ⌊x⌋ < 1 / 2 then ⌊x⌋
  else if 1 / 2 < x - ⌊x⌋ then ⌊x⌋ + 1
  else if ⌊x⌋ % 2 = 0 then ⌊x⌋
  else ⌊x⌋ + 1

/-- The exponent of the last place of the doubles around `x`. -/
def lastPlace (x : ℚ) : ℤ := max (Int.log 2 |x| - 52) (-1074)

def round (x : ℚ) : ℚ := nearestEven (x / 2 ^ lastPlace x) * 2 ^ lastPlace x

/-- What is rounded up to `2 ^ range`: numbers from half a last place before it on. -/
def tooLarge (range half : ℕ) : ℕ := 2 ^ range - 2 ^ half

/-- A number as a double, unless it would be rounded to `2 ^ 1024` or beyond. -/
def ofNat (n : ℕ) : Option ℚ := if tooLarge 1024 970 ≤ n then none else some (round n)

def mul (x y : ℚ) : ℚ := round (x * y)

theorem nearestEven_intCast (k : ℤ) : nearestEven k = k := by simp [nearestEven]

theorem lastPlace_le {mantissa exponent : ℤ} (hmantissa : |mantissa| < 2 ^ 53) (hne : mantissa ≠ 0)
    (hexponent : -1074 ≤ exponent) : lastPlace (mantissa * 2 ^ exponent) ≤ exponent := by
  have hpos : (0 : ℚ) < |(mantissa : ℚ) * 2 ^ exponent| := by positivity
  have hlt : |(mantissa : ℚ) * 2 ^ exponent| < ((2 : ℕ) : ℚ) ^ (53 + exponent) := by
    have hcast : |(mantissa : ℚ)| < 2 ^ (53 : ℤ) := by exact_mod_cast hmantissa
    rw [abs_mul, abs_of_pos (show (0 : ℚ) < 2 ^ exponent by positivity), Nat.cast_ofNat,
      zpow_add₀ two_ne_zero]
    exact mul_lt_mul_of_pos_right hcast (by positivity)
  have hlog := (Int.lt_zpow_iff_log_lt (by norm_num) hpos).mp hlt
  rw [lastPlace]
  omega

theorem Representable.round_eq {x : ℚ} (hx : Representable x) : round x = x := by
  obtain ⟨mantissa, exponent, hmantissa, hexponent, -, rfl⟩ := hx
  by_cases hne : mantissa = 0
  · simp [hne, round, nearestEven]
  obtain ⟨shift, hshift⟩ := Int.le.dest (lastPlace_le hmantissa hne hexponent)
  have hscaled : (mantissa : ℚ) * 2 ^ exponent / 2 ^ lastPlace (mantissa * 2 ^ exponent) =
      ((mantissa * 2 ^ shift : ℤ) : ℚ) := by
    rw [div_eq_iff (by positivity), Int.cast_mul, Int.cast_pow, Int.cast_ofNat, mul_assoc,
      ← zpow_natCast, ← zpow_add₀ two_ne_zero]
    congr 2
    omega
  rw [round, hscaled, nearestEven_intCast, ← hscaled, div_mul_cancel₀ _ (by positivity)]

theorem representable_two_pow {n : ℕ} (hlt : n < 1024) : Representable (2 ^ n) := by
  by_cases hsmall : n ≤ 971
  · exact ⟨1, n, by norm_num, by omega, by omega, by simp⟩
  · obtain ⟨shift, rfl⟩ := Nat.exists_eq_add_of_le (Nat.le_of_not_le hsmall)
    refine ⟨2 ^ shift, 971, ?_, by norm_num, le_rfl, ?_⟩
    · rw [abs_of_pos (by positivity)]
      exact pow_lt_pow_right₀ (by norm_num) (by omega)
    · rw [pow_add, mul_comm, Int.cast_pow, Int.cast_ofNat, zpow_ofNat]

theorem representable_two_pow_mul {n : ℕ} {mantissa exponent : ℤ} (hmantissa : |mantissa| < 2 ^ 53)
    (hexponent : -1074 ≤ exponent) (hlt : n + exponent ≤ 971) :
    Representable (2 ^ n * (mantissa * 2 ^ exponent)) := by
  refine ⟨mantissa, n + exponent, hmantissa, by omega, hlt, ?_⟩
  rw [zpow_add₀ two_ne_zero, zpow_natCast]
  ring

theorem two_pow_lt_tooLarge {n range half : ℕ} (hn : n < range) (hhalf : half + 1 < range) :
    2 ^ n < tooLarge range half := by
  obtain ⟨rest, rfl⟩ := Nat.exists_eq_add_of_lt hn
  have hle : 2 ^ n ≤ 2 ^ (n + rest) := Nat.pow_le_pow_right (by decide) (by omega)
  have hlt : 2 ^ half < 2 ^ (n + rest) := Nat.pow_lt_pow_right (by decide) (by omega)
  rw [tooLarge, Nat.pow_succ]
  omega

theorem tooLarge_le_two_pow {n range : ℕ} (hle : range ≤ n) (half : ℕ) :
    tooLarge range half ≤ 2 ^ n :=
  (Nat.sub_le _ _).trans (Nat.pow_le_pow_right (by decide) hle)

theorem ofNat_two_pow (n : ℕ) : ofNat (2 ^ n) = if n < 1024 then some (2 ^ n) else none := by
  by_cases hlt : n < 1024
  · have hfits : 2 ^ n < tooLarge 1024 970 := two_pow_lt_tooLarge hlt (by decide)
    rw [ofNat, if_neg (Nat.not_le_of_lt hfits), if_pos hlt, Nat.cast_pow, Nat.cast_ofNat,
      (representable_two_pow hlt).round_eq]
  · rw [ofNat, if_pos (tooLarge_le_two_pow (Nat.le_of_not_lt hlt) 970), if_neg hlt]

-- Otherwise the powers of two in it are evaluated over and over.
attribute [irreducible] ofNat

end Binary64
