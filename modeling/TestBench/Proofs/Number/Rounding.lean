import Mathlib.Algebra.Order.Field.Power
import Mathlib.Data.Rat.Cast.Order
import Mathlib.Tactic.FieldSimp
import Mathlib.Tactic.Linarith
import Mathlib.Tactic.NormNum
import Mathlib.Tactic.Positivity
import Mathlib.Tactic.Ring
import TestBench.Number.Binary64

/-! Rounding of exact values to floating-point numbers: how far the result is off, and which values
have one. -/
namespace TestBench

theorem divNearestEven_error (n : Nat) {d : Nat} (pos : 0 < d) :
    |(divNearestEven n d : ℚ) - n / d| ≤ 1 / 2 := by
  have positive : (0 : ℚ) < d := by exact_mod_cast pos
  have whole : (n : ℚ) = d * (n / d : Nat) + (n % d : Nat) := by
    exact_mod_cast (Nat.div_add_mod n d).symm
  have quotient : (n : ℚ) / d = (n / d : Nat) + (n % d : Nat) / d := by
    rw [whole]
    field_simp
  have nonneg : (0 : ℚ) ≤ (n % d : Nat) / d := by positivity
  have small : ((n % d : Nat) : ℚ) / d ≤ 1 := by
    rw [div_le_one positive]
    exact_mod_cast (Nat.mod_lt n pos).le
  rw [quotient, abs_le]
  unfold divNearestEven
  dsimp only
  split
  · rename_i up
    have half : (1 : ℚ) / 2 ≤ (n % d : Nat) / d := by
      rw [div_le_div_iff₀ two_pos positive]
      exact_mod_cast (show 1 * d ≤ n % d * 2 by omega)
    push_cast
    constructor <;> linarith
  · rename_i down
    have half : ((n % d : Nat) : ℚ) / d ≤ 1 / 2 := by
      rw [div_le_div_iff₀ positive two_pos]
      exact_mod_cast (show n % d * 2 ≤ 1 * d by omega)
    constructor <;> linarith

namespace Binary64

/-- Half a unit of the last place of the largest numbers. -/
def halfUnit : ℚ := 2 ^ 970

def largest : ℚ := (2 ^ 54 - 2) * halfUnit

/-- The least value that is too large to be rounded to a finite number. -/
def overflow : ℚ := (2 ^ 54 - 1) * halfUnit

theorem halfUnit_pos : 0 < halfUnit := by
  unfold halfUnit
  positivity

theorem top_powers : (2 : ℚ) ^ 971 = 2 * halfUnit ∧ (2 : ℚ) ^ 972 = 4 * halfUnit ∧
    (2 : ℚ) ^ 1024 = 2 ^ 54 * halfUnit := by
  unfold halfUnit
  refine ⟨pow_succ' 2 970, ?_, ?_⟩
  · rw [show 972 = 2 + 970 by rfl, pow_add]
    norm_num
  · rw [← pow_add]

theorem scaled_eq (n : Nat) {d : Nat} (pos : 0 < d) (e : Int) :
    0 < (scaled n d e).2 ∧
      ((scaled n d e).1 : ℚ) / (scaled n d e).2 = n / d / 2 ^ e := by
  unfold scaled
  split
  · rename_i nonneg
    obtain ⟨k, rfl⟩ := Int.eq_ofNat_of_zero_le nonneg
    refine ⟨Nat.mul_pos pos (Nat.two_pow_pos _), ?_⟩
    simp [div_div]
  · rename_i negative
    obtain ⟨k, rfl⟩ : ∃ k : Nat, e = -k := ⟨e.natAbs, by omega⟩
    refine ⟨pos, ?_⟩
    simp [div_eq_mul_inv, mul_right_comm]

theorem between_powers {n d : Nat} (hn : n ≠ 0) (hd : d ≠ 0) :
    (2 : ℚ) ^ ((n.log2 : Int) - d.log2 - 1) ≤ n / d ∧
      (n : ℚ) / d ≤ 2 ^ ((n.log2 : Int) - d.log2 + 1) := by
  have positive : (0 : ℚ) < d := by exact_mod_cast Nat.pos_of_ne_zero hd
  have power (i j : Nat) (k : Int) (sum : (i : Int) = k + j) : (2 : ℚ) ^ k * 2 ^ j = 2 ^ i := by
    rw [← zpow_natCast, ← zpow_natCast, ← zpow_add₀ two_ne_zero, sum]
  have n_low : (2 : ℚ) ^ n.log2 ≤ n := by exact_mod_cast Nat.log2_self_le hn
  have n_high : (n : ℚ) ≤ 2 ^ (n.log2 + 1) := by exact_mod_cast Nat.lt_log2_self.le
  have d_low : (2 : ℚ) ^ d.log2 ≤ d := by exact_mod_cast Nat.log2_self_le hd
  have d_high : (d : ℚ) ≤ 2 ^ (d.log2 + 1) := by exact_mod_cast Nat.lt_log2_self.le
  constructor
  · rw [le_div_iff₀ positive]
    calc (2 : ℚ) ^ ((n.log2 : Int) - d.log2 - 1) * d
        ≤ 2 ^ ((n.log2 : Int) - d.log2 - 1) * 2 ^ (d.log2 + 1) := by gcongr
      _ = 2 ^ n.log2 := power _ _ _ (by push_cast; omega)
      _ ≤ n := n_low
  · rw [div_le_iff₀ positive]
    calc (n : ℚ) ≤ 2 ^ (n.log2 + 1) := n_high
      _ = 2 ^ ((n.log2 : Int) - d.log2 + 1) * 2 ^ d.log2 :=
        (power _ _ _ (by push_cast; omega)).symm
      _ ≤ 2 ^ ((n.log2 : Int) - d.log2 + 1) * d := by gcongr

theorem bits_53 {n d : Nat} (hn : n ≠ 0) (pos : 0 < d) :
    ∃ e : Int, exponentOf n d = max minExponent e ∧
      2 ^ (e + 52) ≤ (n : ℚ) / d ∧ (n : ℚ) / d ≤ 2 ^ (e + 53) := by
  obtain ⟨low, high⟩ := between_powers hn (Nat.ne_of_gt pos)
  obtain ⟨e, he⟩ : ∃ e : Int, e = (n.log2 : Int) - d.log2 - 52 := ⟨_, rfl⟩
  have exponent : exponentOf n d =
      max minExponent (if (scaled n d e).1 / (scaled n d e).2 < leastSignificand
        then e - 1 else e) := by
    rw [he]
    rfl
  have test : (scaled n d e).1 / (scaled n d e).2 < leastSignificand ↔
      (n : ℚ) / d < 2 ^ (e + 52) := by
    obtain ⟨positive, value⟩ := scaled_eq n pos e
    have unit : (0 : ℚ) < 2 ^ e := by positivity
    have denominator : (0 : ℚ) < (scaled n d e).2 := by exact_mod_cast positive
    have shift : (2 : ℚ) ^ (e + 52) = 2 ^ 52 * 2 ^ e := by
      rw [add_comm, zpow_add₀ two_ne_zero]
      rfl
    rw [Nat.div_lt_iff_lt_mul positive, shift, ← div_lt_iff₀ unit, ← value,
      div_lt_iff₀ denominator, ← Nat.cast_lt (α := ℚ)]
    norm_num [leastSignificand]
  rw [exponent]
  split
  · rename_i few
    refine ⟨e - 1, rfl, ?_, ?_⟩
    · rwa [show e - 1 + 52 = (n.log2 : Int) - d.log2 - 1 by omega]
    · rw [show e - 1 + 53 = e + 52 by omega]
      exact (test.mp few).le
  · rename_i enough
    refine ⟨e, rfl, ?_, ?_⟩
    · exact not_lt.mp (mt test.mpr enough)
    · rwa [show e + 53 = (n.log2 : Int) - d.log2 + 1 by omega]

/-- The exponent leaves room for 53 bits, and for no more unless it is the smallest one. -/
theorem exponentOf_spec {n d : Nat} (hn : n ≠ 0) (pos : 0 < d) :
    (n : ℚ) / d ≤ 2 ^ (exponentOf n d + 53) ∧
      (exponentOf n d = minExponent ∨ 2 ^ (exponentOf n d + 52) ≤ (n : ℚ) / d) := by
  obtain ⟨e, exponent, low, high⟩ := bits_53 hn pos
  rw [exponent]
  rcases le_total e minExponent with small | large
  · rw [max_eq_left small]
    refine ⟨high.trans ?_, .inl rfl⟩
    exact zpow_le_zpow_right₀ one_le_two (by omega)
  · rw [max_eq_right large]
    exact ⟨high, .inr low⟩

theorem exponentOf_le {n d : Nat} (hn : n ≠ 0) (pos : 0 < d) (small : (n : ℚ) / d < 2 ^ 1024) :
    exponentOf n d ≤ maxExponent := by
  rcases (exponentOf_spec hn pos).2 with least | low
  · rw [least]
    decide
  · have powers : (2 : ℚ) ^ (exponentOf n d + 52) < 2 ^ (1024 : Int) := low.trans_lt small
    rw [zpow_lt_zpow_iff_right₀ one_lt_two] at powers
    simp only [maxExponent]
    omega

/-- The parts of a rounded number: its significand fits, and its value is off by half a unit of the
last place at most. It is infinite if its exponent is too large. -/
theorem round_parts (negative : Bool) {n d : Nat} (hn : n ≠ 0) (pos : 0 < d) :
    ∃ m e, m < significandBound ∧
      round negative n d = (if maxExponent < e then .infinite negative else .finite negative m e) ∧
      |dyadic m e - n / d| ≤ 2 ^ exponentOf n d / 2 ∧
      (e = exponentOf n d ∨ m = leastSignificand ∧ e = exponentOf n d + 1) := by
  obtain ⟨e, he⟩ : ∃ e, e = exponentOf n d := ⟨_, rfl⟩
  obtain ⟨m, hm⟩ : ∃ m, m = divNearestEven (scaled n d e).1 (scaled n d e).2 := ⟨_, rfl⟩
  obtain ⟨positive, value⟩ := scaled_eq n pos e
  have unit : (0 : ℚ) < 2 ^ e := by positivity
  have near := divNearestEven_error (scaled n d e).1 positive
  rw [← hm, value] at near
  have error : |(m : ℚ) * 2 ^ e - n / d| ≤ 2 ^ e / 2 := by
    have apart : (m : ℚ) * 2 ^ e - n / d = (m - n / d / 2 ^ e) * 2 ^ e := by
      field_simp
    rw [apart, abs_mul, abs_of_pos unit]
    linarith [mul_le_mul_of_nonneg_right near unit.le]
  have fits : m ≤ significandBound := by
    have high : (n : ℚ) / d / 2 ^ e ≤ 2 ^ 53 := by
      have room := (exponentOf_spec hn pos).1
      rw [← he, add_comm, zpow_add₀ two_ne_zero] at room
      exact (div_le_iff₀ unit).mpr room
    have below : (m : ℚ) < 2 ^ 53 + 1 := by linarith [(abs_le.mp near).2]
    exact Nat.lt_succ_iff.mp (by exact_mod_cast below)
  have rounded : round negative n d =
      (let p := if m = significandBound then (leastSignificand, e + 1) else (m, e)
        if maxExponent < p.2 then .infinite negative else .finite negative p.1 p.2) := by
    rw [round, if_neg hn, ← he, hm]
  rw [rounded, ← he]
  by_cases full : m = significandBound
  · refine ⟨leastSignificand, e + 1, by decide, by rw [if_pos full], ?_, .inr ⟨rfl, rfl⟩⟩
    have same : dyadic leastSignificand (e + 1) = m * 2 ^ e := by
      rw [dyadic, full, zpow_add_one₀ two_ne_zero]
      norm_num [leastSignificand, significandBound]
      ring
    rwa [same]
  · exact ⟨m, e, by omega, by rw [if_neg full], error, .inl rfl⟩

theorem round_finite (negative : Bool) {n d : Nat} (hn : n ≠ 0) (pos : 0 < d)
    (small : (n : ℚ) / d < overflow) :
    ∃ m e, round negative n d = .finite negative m e ∧ dyadic m e ≤ 2 * (n / d) + 1 := by
  obtain ⟨m, e, -, rounded, error, exponent⟩ := round_parts negative hn pos
  have high := (abs_le.mp error).2
  have nonneg : (0 : ℚ) ≤ n / d := by positivity
  have below : exponentOf n d ≤ maxExponent := by
    refine exponentOf_le hn pos (small.trans ?_)
    rw [overflow, top_powers.2.2]
    linarith [halfUnit_pos]
  have inRange : ¬ maxExponent < e := by
    rcases exponent with same | ⟨full, next⟩
    · omega
    · intro beyond
      -- the carry out of the largest exponent needs a value at the limit
      have top : exponentOf n d = (971 : Nat) := by
        simp only [maxExponent] at below beyond
        omega
      rw [next, full, top, dyadic, ← Nat.cast_succ, zpow_natCast, zpow_natCast, top_powers.1,
        top_powers.2.1] at high
      rw [overflow] at small
      norm_num [leastSignificand] at high
      linarith
  refine ⟨m, e, by rw [rounded, if_neg inRange], ?_⟩
  have unit : (2 : ℚ) ^ exponentOf n d ≤ n / d + 1 := by
    rcases (exponentOf_spec hn pos).2 with least | low
    · have tiny : (2 : ℚ) ^ exponentOf n d ≤ 2 ^ (0 : Int) := by
        rw [least]
        exact zpow_le_zpow_right₀ one_le_two (by decide)
      rw [zpow_zero] at tiny
      linarith
    · have wider : (2 : ℚ) ^ exponentOf n d ≤ 2 ^ (exponentOf n d + 52) :=
        zpow_le_zpow_right₀ one_le_two (by omega)
      linarith
  linarith

theorem round_le_largest {negative s : Bool} {n d m : Nat} {e : Int} (hn : n ≠ 0) (pos : 0 < d)
    (rounded : round negative n d = .finite s m e) : dyadic m e ≤ largest := by
  obtain ⟨m', e', fits, parts, -, -⟩ := round_parts negative hn pos
  rw [parts] at rounded
  split at rounded
  · cases rounded
  · rename_i inRange
    cases rounded
    have significand : (m : ℚ) ≤ 2 ^ 53 - 1 := by
      have below : m + 1 ≤ 2 ^ 53 := fits
      have cast : (m : ℚ) + 1 ≤ 2 ^ 53 := by exact_mod_cast below
      linarith
    have unit : (2 : ℚ) ^ e ≤ 2 ^ ((971 : Nat) : Int) :=
      zpow_le_zpow_right₀ one_le_two (not_lt.mp inRange)
    rw [zpow_natCast] at unit
    calc (m : ℚ) * 2 ^ e ≤ (2 ^ 53 - 1) * 2 ^ 971 :=
          mul_le_mul significand unit (by positivity) (by norm_num)
      _ = largest := by rw [largest, top_powers.1]; ring

/-! The same for operations, which compute exactly and then round. -/

theorem abs_toRat? {s : Bool} {m : Nat} {e : Int} {v : ℚ}
    (h : (Binary64.finite s m e).toRat? = some v) : |v| = dyadic m e := by
  have nonneg : 0 ≤ dyadic m e := by
    unfold dyadic
    positivity
  cases h
  split
  · rw [abs_neg, abs_of_nonneg nonneg]
  · exact abs_of_nonneg nonneg

theorem natAbs_div_den (q : ℚ) : (q.num.natAbs : ℚ) / q.den = |q| := by
  rw [Rat.abs_def, Rat.divInt_eq_div, Int.cast_natCast, Int.cast_natCast]

theorem natAbs_num_ne_zero {q : ℚ} (h : q ≠ 0) : q.num.natAbs ≠ 0 := by
  simpa using h

theorem toRat?_ofRatSigned (negative : Bool) {q : ℚ} (small : |q| < overflow) :
    ∃ v, (ofRatSigned negative q).toRat? = some v ∧ |v| ≤ 2 * |q| + 1 := by
  unfold ofRatSigned
  split
  · refine ⟨_, rfl, ?_⟩
    rw [abs_toRat? (s := negative) rfl]
    simp only [dyadic, Nat.cast_zero, zero_mul]
    positivity
  · rename_i nonzero
    rw [← natAbs_div_den] at small
    obtain ⟨m, e, rounded, bound⟩ :=
      round_finite (q < 0) (natAbs_num_ne_zero nonzero) q.den_pos small
    rw [ofRat, rounded]
    refine ⟨_, rfl, ?_⟩
    rw [abs_toRat? (s := decide (q < 0)) rfl, ← natAbs_div_den]
    exact bound

theorem abs_ofRatSigned_le {negative : Bool} {q v : ℚ}
    (h : (ofRatSigned negative q).toRat? = some v) : |v| ≤ largest := by
  unfold ofRatSigned at h
  split at h
  · rw [abs_toRat? h]
    rw [dyadic, Nat.cast_zero, zero_mul, largest]
    linarith [halfUnit_pos]
  · rename_i nonzero
    unfold ofRat at h
    cases rounded : round (q < 0) q.num.natAbs q.den with
    | finite s m e =>
      rw [rounded] at h
      rw [abs_toRat? h]
      exact round_le_largest (natAbs_num_ne_zero nonzero) q.den_pos rounded
    | infinite s => rw [rounded] at h; cases h
    | nan => rw [rounded] at h; cases h

section Operations

variable {x y : Binary64} {p q : ℚ}

theorem toRat?_neg (hx : x.toRat? = some p) : x.neg.toRat? = some (-p) := by
  cases x with
  | finite s m e => cases hx; cases s <;> simp [neg, toRat?]
  | infinite s => cases hx
  | nan => cases hx

theorem toRat?_add (hx : x.toRat? = some p) (hy : y.toRat? = some q)
    (small : |p + q| < overflow) :
    ∃ v, (x.add y).toRat? = some v ∧ |v| ≤ 2 * |p + q| + 1 := by
  cases x with
  | finite s m e =>
    cases y with
    | finite t n f => cases hx; cases hy; exact toRat?_ofRatSigned _ small
    | infinite t => cases hy
    | nan => cases hy
  | infinite s => cases hx
  | nan => cases hx

theorem toRat?_sub (hx : x.toRat? = some p) (hy : y.toRat? = some q)
    (small : |p - q| < overflow) :
    ∃ v, (x.sub y).toRat? = some v ∧ |v| ≤ 2 * |p - q| + 1 := by
  rw [sub_eq_add_neg] at small ⊢
  exact toRat?_add hx (toRat?_neg hy) small

theorem toRat?_div (hx : x.toRat? = some p) (hy : y.toRat? = some q)
    (small : |p| / |q| < overflow) :
    ∃ v, (x.div y).toRat? = some v ∧ |v| ≤ 2 * (|p| / |q|) + 1 := by
  cases x with
  | finite s m e =>
    cases y with
    | finite t n f =>
      have nonneg : 0 ≤ dyadic m e / dyadic n f := by
        unfold dyadic
        positivity
      have size (sign : Bool) : |if sign then -(dyadic m e / dyadic n f)
          else dyadic m e / dyadic n f| = |p| / |q| := by
        rw [abs_toRat? hx, abs_toRat? hy]
        split
        · rw [abs_neg, abs_of_nonneg nonneg]
        · exact abs_of_nonneg nonneg
      rw [← size] at small ⊢
      exact toRat?_ofRatSigned _ small
    | infinite t => cases hy
    | nan => cases hy
  | infinite s => cases hx
  | nan => cases hx

theorem abs_le_of_add (h : (x.add y).toRat? = some p) : |p| ≤ largest := by
  cases x with
  | finite s m e =>
    cases y with
    | finite t n f => exact abs_ofRatSigned_le h
    | infinite t => cases h
    | nan => cases h
  | infinite s =>
    cases y with
    | finite t n f => cases h
    | infinite t =>
      simp only [add] at h
      split at h <;> cases h
    | nan => cases h
  | nan => cases h

end Operations

end Binary64

end TestBench
