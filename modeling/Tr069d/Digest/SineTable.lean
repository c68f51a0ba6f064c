import Mathlib.Analysis.Complex.Basic
import Mathlib.Analysis.Complex.Trigonometric
import Mathlib.NumberTheory.Zsqrtd.GaussianInt

/-!
# Sines as integers

The integer part of `2 ^ 32 * |sin n|`, for natural numbers `n`.  The Taylor sum of
`exp I` is a Gaussian integer over `40!`, so that its powers, which are close to
`exp (n * I)`, can be computed without rounding.  Where the computed number is
further from the next integers than the error can be, it has the right integer part
(`sine_eq`), and for the numbers up to 64 it is (`sine_succ`).
-/

namespace Tr069d.SineTable

open Complex

/-- `⌊2 ^ 32 * |sin n|⌋` -/
noncomputable def sine (n : ℕ) : ℕ :=
  ⌊2 ^ 32 * |Real.sin n|⌋₊

/-! ## The computation -/

def unit : GaussianInt :=
  ⟨0, 1⟩

/-- `n!` times the Taylor sum of `exp I` up to the power `n`. -/
def taylor : ℕ → GaussianInt
  | 0 => 1
  | n + 1 => (n + 1 : ℕ) * taylor n + unit ^ (n + 1)

def denominator : ℕ :=
  Nat.factorial 40

/-- `denominator ^ n` times the power `n` of the Taylor sum. -/
def turned : ℕ → GaussianInt
  | 0 => 1
  | n + 1 => turned n * taylor 40

/-- `denominator ^ n` times the computed `2 ^ 32 * |sin n|`. -/
def scaled (n : ℕ) : ℕ :=
  2 ^ 32 * (turned n).im.natAbs

def computed (n : ℕ) : ℕ :=
  scaled n / denominator ^ n

/-- `denominator ^ n` times the error of the computed number, at most. -/
def margin (n : ℕ) : ℕ :=
  2 ^ (32 + n) * denominator ^ (n - 1)

/-- The computed number is further from the next integers than the error. -/
def Settled (n : ℕ) : Prop :=
  margin n ≤ scaled n % denominator ^ n ∧
    scaled n % denominator ^ n + margin n < denominator ^ n

instance (n : ℕ) : Decidable (Settled n) :=
  inferInstanceAs (Decidable (_ ∧ _))

/-! ## The Taylor sum -/

theorem toComplex_unit : GaussianInt.toComplex unit = I := by
  apply Complex.ext <;> simp [unit, GaussianInt.toComplex_def]

theorem toComplex_taylor (n : ℕ) : GaussianInt.toComplex (taylor n) =
    n.factorial * ∑ m ∈ Finset.range (n + 1), I ^ m / m.factorial := by
  induction n with
  | zero => simp [taylor]
  | succ n ih =>
      have hfactorial : ((n + 1).factorial : ℂ) ≠ 0 := by exact_mod_cast (n + 1).factorial_ne_zero
      rw [Finset.sum_range_succ, mul_add, mul_div_cancel₀ _ hfactorial, taylor, map_add, map_mul,
        map_natCast, map_pow, toComplex_unit, ih, Nat.factorial_succ]
      push_cast
      ring

/-- The Taylor sum, as a number. -/
noncomputable def approximation : ℂ :=
  GaussianInt.toComplex (taylor 40) / denominator

theorem approximation_eq : approximation = ∑ m ∈ Finset.range 41, I ^ m / m.factorial := by
  have hdenominator : (denominator : ℂ) ≠ 0 := by exact_mod_cast Nat.factorial_ne_zero 40
  rw [approximation, toComplex_taylor]
  exact mul_div_cancel_left₀ _ hdenominator

theorem norm_approximation_sub_le : ‖approximation - exp I‖ ≤ 1 / denominator := by
  have hpos : (0 : ℝ) < denominator := by exact_mod_cast Nat.factorial_pos 40
  have hfactorial : ((Nat.factorial 41 : ℕ) : ℝ) = 41 * denominator := by
    rw [Nat.factorial_succ]
    push_cast
    rfl
  calc ‖approximation - exp I‖
      = ‖exp I - ∑ m ∈ Finset.range 41, I ^ m / m.factorial‖ := by
        rw [norm_sub_rev, approximation_eq]
    _ ≤ ‖I‖ ^ 41 * ((Nat.succ 41 : ℝ) * ((Nat.factorial 41 : ℝ) * (41 : ℕ))⁻¹) :=
        exp_bound (by simp) (by decide)
    _ = 42 / 1681 * (1 / denominator) := by
        rw [norm_I, hfactorial]
        push_cast
        field_simp
        norm_num
    _ ≤ 1 * (1 / denominator) := by gcongr; norm_num
    _ = 1 / denominator := one_mul _

/-! ## Its powers -/

/-- Powers of close numbers are close. -/
theorem norm_pow_sub_pow_le {z w : ℂ} {error : ℝ} (hz : ‖z‖ ≤ 2) (hw : ‖w‖ = 1)
    (hclose : ‖z - w‖ ≤ error) (n : ℕ) : ‖z ^ n - w ^ n‖ ≤ (2 ^ n - 1) * error := by
  induction n with
  | zero => simp
  | succ n ih =>
      have hsplit : z ^ (n + 1) - w ^ (n + 1) = (z ^ n - w ^ n) * z + w ^ n * (z - w) := by ring
      have hpow : 0 ≤ (2 ^ n - 1) * error := (norm_nonneg _).trans ih
      calc ‖z ^ (n + 1) - w ^ (n + 1)‖
          ≤ ‖z ^ n - w ^ n‖ * ‖z‖ + ‖w‖ ^ n * ‖z - w‖ := by
            rw [hsplit, ← norm_mul, ← norm_pow, ← norm_mul]
            exact norm_add_le _ _
        _ ≤ (2 ^ n - 1) * error * 2 + 1 ^ n * error := by gcongr; exact hw.le
        _ = (2 ^ (n + 1) - 1) * error := by ring

theorem norm_approximation_le : ‖approximation‖ ≤ 2 := by
  have hexp : ‖exp I‖ = 1 := by simpa using norm_exp_ofReal_mul_I 1
  have hle : (1 : ℝ) / denominator ≤ 1 := by
    rw [div_le_one (by exact_mod_cast Nat.factorial_pos 40)]
    exact_mod_cast Nat.factorial_pos 40
  calc ‖approximation‖ = ‖(approximation - exp I) + exp I‖ := by rw [sub_add_cancel]
    _ ≤ ‖approximation - exp I‖ + ‖exp I‖ := norm_add_le _ _
    _ ≤ 1 + 1 := add_le_add (norm_approximation_sub_le.trans hle) hexp.le
    _ = 2 := by norm_num

theorem toComplex_turned (n : ℕ) :
    GaussianInt.toComplex (turned n) = denominator ^ n * approximation ^ n := by
  have hdenominator : (denominator : ℂ) ≠ 0 := by exact_mod_cast Nat.factorial_ne_zero 40
  have htaylor : GaussianInt.toComplex (taylor 40) = denominator * approximation :=
    (mul_div_cancel₀ _ hdenominator).symm
  induction n with
  | zero => simp [turned]
  | succ n ih =>
      rw [turned, map_mul, ih, htaylor]
      ring

/-- What is computed is close to the sine. -/
theorem abs_im_turned_sub_le (n : ℕ) :
    |((turned n).im : ℝ) / denominator ^ n - Real.sin n| ≤ 2 ^ n * (1 / denominator) := by
  have hexp : ‖exp I‖ = 1 := by simpa using norm_exp_ofReal_mul_I 1
  have hpos : (0 : ℝ) < denominator ^ n := pow_pos (by exact_mod_cast Nat.factorial_pos 40) n
  have him : ((turned n).im : ℝ) / denominator ^ n = (approximation ^ n).im := by
    have hscaled : ((denominator : ℂ) ^ n) = ((denominator ^ n : ℝ) : ℂ) := by push_cast; rfl
    rw [GaussianInt.intCast_im, toComplex_turned, hscaled, im_ofReal_mul,
      mul_div_cancel_left₀ _ hpos.ne']
  have hsin : Real.sin n = (exp I ^ n).im := by
    rw [← exp_nat_mul, ← exp_ofReal_mul_I_im]
    simp
  calc |((turned n).im : ℝ) / denominator ^ n - Real.sin n|
      = |(approximation ^ n - exp I ^ n).im| := by rw [him, hsin, sub_im]
    _ ≤ ‖approximation ^ n - exp I ^ n‖ := abs_im_le_norm _
    _ ≤ (2 ^ n - 1) * (1 / denominator) :=
        norm_pow_sub_pow_le norm_approximation_le hexp norm_approximation_sub_le n
    _ ≤ 2 ^ n * (1 / denominator) := by gcongr; linarith

/-! ## The integer parts -/

theorem abs_scaled_sub_le {n : ℕ} (hn : 0 < n) :
    |(scaled n : ℝ) - 2 ^ 32 * |Real.sin n| * denominator ^ n| ≤ (margin n : ℝ) := by
  have hdenominator : (0 : ℝ) < denominator := by exact_mod_cast Nat.factorial_pos 40
  have hpow : (0 : ℝ) < denominator ^ n := pow_pos hdenominator n
  have hscaled : (scaled n : ℝ) = 2 ^ 32 * |((turned n).im : ℝ)| := by
    rw [scaled, Nat.cast_mul, Nat.cast_natAbs, Int.cast_abs]
    norm_num
  have hmargin : (margin n : ℝ) = 2 ^ 32 * (2 ^ n * (1 / denominator) * denominator ^ n) := by
    obtain ⟨k, rfl⟩ := Nat.exists_eq_add_of_le' hn
    rw [margin, Nat.add_sub_cancel, pow_add, pow_succ (denominator : ℝ)]
    push_cast
    field_simp
    norm_num
  -- the error of the turned point is scaled up with it, and absolute values add none
  calc |(scaled n : ℝ) - 2 ^ 32 * |Real.sin n| * denominator ^ n|
      = 2 ^ 32 * |(|((turned n).im : ℝ)| - |Real.sin n * denominator ^ n|)| := by
        rw [hscaled, abs_mul (Real.sin n), abs_of_pos hpow, mul_assoc, ← mul_sub, abs_mul,
          abs_of_pos (by norm_num : (0 : ℝ) < 2 ^ 32)]
    _ ≤ 2 ^ 32 * |((turned n).im : ℝ) - Real.sin n * denominator ^ n| :=
        mul_le_mul_of_nonneg_left (abs_abs_sub_abs_le_abs_sub _ _) (by norm_num)
    _ = 2 ^ 32 * (|((turned n).im : ℝ) / denominator ^ n - Real.sin n| * denominator ^ n) := by
        rw [← abs_of_pos hpow, ← abs_mul, abs_of_pos hpow, sub_mul, div_mul_cancel₀ _ hpow.ne']
    _ ≤ 2 ^ 32 * (2 ^ n * (1 / denominator) * denominator ^ n) := by
        gcongr
        exact abs_im_turned_sub_le n
    _ = margin n := hmargin.symm

/-- A number that is settled is computed right. -/
theorem sine_eq {n : ℕ} (hn : 0 < n) (h : Settled n) : sine n = computed n := by
  have hdenominator : (0 : ℝ) < denominator := by exact_mod_cast Nat.factorial_pos 40
  have hpow : (0 : ℝ) < denominator ^ n := pow_pos hdenominator n
  have hparts : (computed n : ℝ) * denominator ^ n + (scaled n % denominator ^ n : ℕ) =
      scaled n := by
    exact_mod_cast Nat.div_add_mod' (scaled n) (denominator ^ n)
  have hlow : (margin n : ℝ) ≤ (scaled n % denominator ^ n : ℕ) := by exact_mod_cast h.1
  have hhigh : ((scaled n % denominator ^ n : ℕ) : ℝ) + margin n < denominator ^ n := by
    exact_mod_cast h.2
  obtain ⟨habove, hbelow⟩ := abs_le.mp (abs_scaled_sub_le hn)
  rw [sine, Nat.floor_eq_iff (by positivity)]
  constructor
  · refine le_of_mul_le_mul_right ?_ hpow
    linarith
  · refine lt_of_mul_lt_mul_right ?_ hpow.le
    linarith

theorem settled_of_lt : ∀ n : Fin 64, Settled (n + 1) := by
  decide +kernel

theorem sine_succ {n : ℕ} (hn : n < 64) : sine (n + 1) = computed (n + 1) :=
  sine_eq n.succ_pos (settled_of_lt ⟨n, hn⟩)

end Tr069d.SineTable
