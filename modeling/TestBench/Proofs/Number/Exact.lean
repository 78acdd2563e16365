import TestBench.Proofs.Number.Rounding

/-! Values that floating point holds exactly. Rounding keeps them, so that an operation computes its
result exactly where that is such a value. -/
namespace TestBench.Binary64

/-- The parts of a finite number: 53 bits, and an exponent in range. -/
structure InFormat (m : Nat) (e : Int) : Prop where
  bits : m < significandBound
  least : minExponent ≤ e
  greatest : e ≤ maxExponent

/-- A number that is finite has parts of the format. -/
def WellFormed (x : Binary64) : Prop :=
  ∀ s m e, x = .finite s m e → InFormat m e

/-- A finite number has this value, its sign apart. -/
def Exact (q : ℚ) : Prop :=
  ∃ m e, InFormat m e ∧ |q| = dyadic m e

theorem dyadic_lt {m : Nat} (bits : m < significandBound) (e : Int) : dyadic m e < 2 ^ (e + 53) := by
  have unit : (0 : ℚ) < 2 ^ e := by positivity
  have below : (m : ℚ) < 2 ^ 53 := by exact_mod_cast (show m < 2 ^ 53 from bits)
  calc (m : ℚ) * 2 ^ e < 2 ^ 53 * 2 ^ e := by gcongr
    _ = 2 ^ (e + 53) := by
      rw [add_comm, zpow_add₀ two_ne_zero]
      rfl

theorem dyadic_multiple (m : Nat) {e f : Int} (le : f ≤ e) : ∃ a : Nat, dyadic m e = a * 2 ^ f := by
  obtain ⟨k, rfl⟩ := Int.le.dest le
  refine ⟨m * 2 ^ k, ?_⟩
  rw [dyadic, zpow_add₀ two_ne_zero]
  push_cast
  rw [zpow_natCast]
  ring

theorem eq_of_multiples {unit : ℚ} (pos : 0 < unit) {a b : Nat}
    (near : |a * unit - b * unit| ≤ unit / 2) : (a : ℚ) * unit = b * unit := by
  rw [← sub_mul, abs_mul, abs_of_pos pos] at near
  have apart : |((a - b : Int) : ℚ)| < 1 := by
    push_cast
    by_contra far
    have wide := mul_le_mul_of_nonneg_right (not_lt.mp far) pos.le
    linarith
  have same : (a : Int) - b = 0 := Int.abs_lt_one_iff.mp (by exact_mod_cast apart)
  rw [show a = b by omega]

theorem minExponent_le_exponentOf {n d : Nat} (hn : n ≠ 0) (pos : 0 < d) :
    minExponent ≤ exponentOf n d := by
  obtain ⟨_, exponent, -⟩ := bits_53 hn pos
  rw [exponent]
  exact le_max_left _ _

section Round

variable {n d k : Nat} {e : Int} (hn : n ≠ 0) (pos : 0 < d) (parts : InFormat k e)
  (value : (n : ℚ) / d = dyadic k e)
include hn pos parts value

theorem exponentOf_le_of_parts : exponentOf n d ≤ e := by
  rcases (exponentOf_spec hn pos).2 with least | low
  · rw [least]
    exact parts.least
  · have powers : (2 : ℚ) ^ (exponentOf n d + 52) < 2 ^ (e + 53) :=
      (value ▸ low).trans_lt (dyadic_lt parts.bits e)
    rw [zpow_lt_zpow_iff_right₀ one_lt_two] at powers
    omega

theorem round_exact (negative : Bool) :
    ∃ m f, round negative n d = .finite negative m f ∧ InFormat m f ∧ dyadic m f = n / d := by
  obtain ⟨m, f, fits, rounded, error, exponent⟩ := round_parts negative hn pos
  have low := exponentOf_le_of_parts hn pos parts value
  have least := minExponent_le_exponentOf hn pos
  have above : exponentOf n d ≤ f := by omega
  have same : dyadic m f = n / d := by
    obtain ⟨a, ha⟩ := dyadic_multiple m above
    obtain ⟨b, hb⟩ := dyadic_multiple k low
    rw [value, ha, hb] at error
    rw [value, ha, hb]
    exact eq_of_multiples (by positivity) error
  have inRange : f ≤ maxExponent := by
    have highest := parts.greatest
    rcases exponent with plain | ⟨full, next⟩
    · omega
    · -- a carry into the next power of two takes an exponent below that of the value
      have power : (2 : ℚ) ^ (exponentOf n d + 53) < 2 ^ (e + 53) := by
        calc (2 : ℚ) ^ (exponentOf n d + 53) = dyadic m f := by
              rw [dyadic, full, next, show exponentOf n d + 53 = 52 + (exponentOf n d + 1) by omega,
                zpow_add₀ two_ne_zero]
              norm_num [leastSignificand]
          _ = dyadic k e := same.trans value
          _ < 2 ^ (e + 53) := dyadic_lt parts.bits e
      rw [zpow_lt_zpow_iff_right₀ one_lt_two] at power
      omega
  exact ⟨m, f, by rw [rounded, if_neg (by omega)], ⟨fits, by omega, inRange⟩, same⟩

end Round

theorem toRat?_ofRatSigned_exact (negative : Bool) {q : ℚ} (exact : Exact q) :
    (ofRatSigned negative q).toRat? = some q := by
  unfold ofRatSigned
  split
  · rename_i zero
    cases negative <;> simp [toRat?, dyadic, zero]
  · rename_i nonzero
    obtain ⟨k, e, parts, value⟩ := exact
    rw [← natAbs_div_den] at value
    obtain ⟨m, f, rounded, -, same⟩ :=
      round_exact (natAbs_num_ne_zero nonzero) q.den_pos parts value (q < 0)
    rw [natAbs_div_den] at same
    rw [ofRat, rounded, toRat?, same]
    by_cases below : q < 0
    · simp [below, abs_of_neg below]
    · simp [below, abs_of_nonneg (not_lt.mp below)]

/-! What is rounded has parts of the format. -/

theorem wellFormed_round (negative : Bool) (n : Nat) {d : Nat} (pos : 0 < d) :
    (round negative n d).WellFormed := by
  intro s m e rounded
  by_cases hn : n = 0
  · rw [round, if_pos hn] at rounded
    cases rounded
    exact ⟨by decide, by decide, by decide⟩
  · obtain ⟨m', e', fits, parts, -, exponent⟩ := round_parts negative hn pos
    have least := minExponent_le_exponentOf hn pos
    rw [parts] at rounded
    split at rounded
    · cases rounded
    · rename_i inRange
      cases rounded
      exact ⟨fits, by omega, by omega⟩

/-! The values at hand: whole numbers of 53 bits, and what is left of a number below them when a
whole number is taken off. -/

theorem exact_natCast {n : Nat} (small : n < significandBound) : Exact n :=
  ⟨n, 0, ⟨small, by decide, by decide⟩, by simp [dyadic]⟩

theorem exact_zero : Exact 0 := by
  exact_mod_cast exact_natCast (n := 0) (by decide)

/-- A number below the first of 54 bits is a fraction of 53 bits, its exponent not above zero. -/
theorem fraction_of_parts {m : Nat} {e : Int} (parts : InFormat m e) (small : dyadic m e < 2 ^ 53) :
    ∃ k f, InFormat k f ∧ f ≤ 0 ∧ dyadic k f = dyadic m e := by
  rcases le_total e 0 with low | high
  · exact ⟨m, e, parts, low, rfl⟩
  · obtain ⟨k, whole⟩ := dyadic_multiple m high
    rw [zpow_zero, mul_one] at whole
    rw [whole] at small
    have bits : k < 2 ^ 53 := by exact_mod_cast small
    refine ⟨k, 0, ⟨bits, by decide, by decide⟩, le_rfl, ?_⟩
    rw [whole, dyadic, zpow_zero, mul_one]

theorem exact_sub_natCast {m n : Nat} {e : Int} (parts : InFormat m e) (small : dyadic m e < 2 ^ 53)
    (below : (n : ℚ) ≤ dyadic m e) : Exact (dyadic m e - n) := by
  obtain ⟨k, f, parts, low, same⟩ := fraction_of_parts parts small
  rw [← same] at below ⊢
  have unit : (0 : ℚ) < 2 ^ f := by positivity
  have whole : (n : ℚ) = (n * 2 ^ (-f).toNat : Nat) * 2 ^ f := by
    push_cast
    rw [mul_assoc, ← zpow_natCast, ← zpow_add₀ two_ne_zero, show ((-f).toNat : Int) + f = 0 by omega,
      zpow_zero, mul_one]
  have fits : n * 2 ^ (-f).toNat ≤ k := by
    rw [whole, dyadic] at below
    exact_mod_cast le_of_mul_le_mul_right below unit
  have bits := parts.bits
  refine ⟨k - n * 2 ^ (-f).toNat, f, ⟨by omega, parts.least, parts.greatest⟩, ?_⟩
  rw [abs_of_nonneg (by linarith), dyadic, dyadic, Nat.cast_sub fits, sub_mul, ← whole]

theorem WellFormed.exact_sub {x : Binary64} {p : ℚ} {n : Nat} (wellFormed : x.WellFormed)
    (hx : x.toRat? = some p) (nonneg : 0 ≤ p) (small : p < 2 ^ 53) (below : (n : ℚ) ≤ p) :
    Exact (p - n) := by
  cases x with
  | finite s m e =>
    have size := abs_toRat? hx
    rw [abs_of_nonneg nonneg] at size
    rw [size] at small below ⊢
    exact exact_sub_natCast (wellFormed s m e rfl) small below
  | infinite s => cases hx
  | nan => cases hx

theorem sign_of_nonneg {s : Bool} {m : Nat} {e : Int} {p : ℚ}
    (value : (Binary64.finite s m e).toRat? = some p) (nonneg : 0 ≤ p) : p = 0 ∨ s = false := by
  cases s with
  | false => exact .inr rfl
  | true =>
    have size := abs_toRat? value
    rw [abs_of_nonneg nonneg] at size
    have negated : -dyadic m e = p := Option.some.inj value
    left
    linarith

/-! Operations. -/

section Operations

variable {x y : Binary64} {p q : ℚ}

theorem toRat?_ofInt {n : Nat} (small : n < significandBound) : (ofInt n).toRat? = some (n : ℚ) := by
  have same : ofInt n = ofRatSigned false n := by
    have unsigned : decide ((n : Int) < 0) = decide ((n : ℚ) < 0) := by
      rw [decide_eq_false (by omega), decide_eq_false (by simp)]
    unfold ofInt ofRatSigned ofRat
    rw [unsigned]
    split
    · rename_i zero
      simp [round, Nat.cast_eq_zero.mp zero]
    · rfl
  rw [same]
  exact toRat?_ofRatSigned_exact _ (exact_natCast small)

theorem toRat?_add_exact (hx : x.toRat? = some p) (hy : y.toRat? = some q) (exact : Exact (p + q)) :
    (x.add y).toRat? = some (p + q) := by
  cases x with
  | finite s m e =>
    cases y with
    | finite t n f => cases hx; cases hy; exact toRat?_ofRatSigned_exact _ exact
    | infinite t => cases hy
    | nan => cases hy
  | infinite s => cases hx
  | nan => cases hx

theorem toRat?_sub_exact (hx : x.toRat? = some p) (hy : y.toRat? = some q) (exact : Exact (p - q)) :
    (x.sub y).toRat? = some (p - q) := by
  rw [sub_eq_add_neg] at exact ⊢
  exact toRat?_add_exact hx (toRat?_neg hy) exact

theorem toRat?_div_exact (hx : x.toRat? = some p) (hy : y.toRat? = some q) (exact : Exact (p / q)) :
    (x.div y).toRat? = some (p / q) := by
  cases x with
  | finite s m e =>
    cases y with
    | finite t n f =>
      have quotient : p / q = if s != t then -(dyadic m e / dyadic n f)
          else dyadic m e / dyadic n f := by
        cases hx
        cases hy
        cases s <;> cases t <;> simp [neg_div, div_neg]
      rw [quotient] at exact ⊢
      exact toRat?_ofRatSigned_exact _ exact
    | infinite t => cases hy
    | nan => cases hy
  | infinite s => cases hx
  | nan => cases hx

end Operations

end TestBench.Binary64
