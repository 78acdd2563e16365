import TestBench.Proofs.Number.Rounding
import TestBench.Report.Elapsed

/-! Elapsed time that can always be written: the minutes of a finite number of seconds are finite,
so that they have a whole number. The computation stays away from the largest numbers, as all its
steps but the first work on a sixtieth of the seconds. -/
namespace TestBench

namespace Binary64

variable {x : Binary64} {p : ℚ}

theorem halfUnit_large : 1000 ≤ halfUnit := by
  calc (1000 : ℚ) ≤ 2 ^ 10 := by norm_num
    _ ≤ 2 ^ 970 := pow_le_pow_right₀ one_le_two (by decide)

theorem toRat?_remainder (hx : x.toRat? = some p) {n : Nat} (pos : 0 < n)
    (small : (n : ℚ) < overflow) :
    ∃ r, (x.remainder n).toRat? = some r ∧ |r| ≤ 2 * n + 1 := by
  have positive : (0 : ℚ) < n := by exact_mod_cast pos
  obtain ⟨r, hr⟩ : ∃ r, r = p.abs - ((p.abs / n).floor : ℚ) * n := ⟨_, rfl⟩
  have low : 0 ≤ r := by
    have below := (le_div_iff₀ positive).mp (Rat.floor_le (p.abs / n))
    linarith
  have high : r ≤ n := by
    have above := (sub_lt_iff_lt_add.mp (Rat.lt_floor (x := p.abs / n))).le
    rw [div_le_iff₀ positive] at above
    linarith
  have size : |if x.isNegative then -r else r| ≤ n := by
    split
    · rwa [abs_neg, abs_of_nonneg low]
    · rwa [abs_of_nonneg low]
  obtain ⟨v, value, bound⟩ := toRat?_ofRatSigned x.isNegative (size.trans_lt small)
  refine ⟨v, ?_, by linarith⟩
  simp only [remainder, hx, ← hr]
  exact value

theorem toRat?_floor (hx : x.toRat? = some p) (small : |p| + 1 < overflow) :
    ∃ v, x.floor.toRat? = some v ∧ |v| ≤ 2 * |p| + 3 := by
  have size : |(p.floor : ℚ)| ≤ |p| + 1 := by
    have below := Rat.floor_le p
    have above := Rat.lt_floor (x := p)
    rw [abs_le]
    constructor
    · linarith [neg_abs_le p]
    · linarith [le_abs_self p]
  obtain ⟨v, value, bound⟩ := toRat?_ofRatSigned x.isNegative (size.trans_lt small)
  refine ⟨v, ?_, by linarith⟩
  simp only [floor, hx]
  exact value

theorem toRat?_one : (ofInt 1).toRat? = some 1 := by
  decide +kernel

theorem toRat?_snap (hx : x.toRat? = some p) (small : 2 * |p| + 4 < overflow) :
    ∃ v, x.snap.toRat? = some v := by
  have nonneg := abs_nonneg p
  obtain ⟨low, whole, bound⟩ := toRat?_floor hx (by linarith)
  unfold snap
  dsimp only
  split
  · split
    · have triangle := abs_add_le low 1
      rw [abs_one] at triangle
      obtain ⟨v, value, -⟩ := toRat?_add whole toRat?_one (by linarith)
      exact ⟨v, value⟩
    · exact ⟨low, whole⟩
  · exact ⟨low, whole⟩

theorem toRat?_minutes (hx : x.toRat? = some p) (size : |p| ≤ largest) :
    ∃ v, (x.divMod 60).1.toRat? = some v := by
  have large := halfUnit_large
  rw [largest] at size
  obtain ⟨r, rest, restSize⟩ := toRat?_remainder hx (n := 60) (by decide) (by
    rw [overflow]
    push_cast
    linarith)
  push_cast at restSize
  have toRest := abs_sub p r
  obtain ⟨w, whole, -⟩ := toRat?_sub hx rest (by rw [overflow]; linarith)
  have wholeSize := abs_le_of_add whole
  have sixty : (ofInt 60).toRat? = some 60 := by decide +kernel
  obtain ⟨q, quotient, quotientSize⟩ := toRat?_div whole sixty (by
    rw [abs_of_pos (by norm_num : (0 : ℚ) < 60), overflow]
    rw [largest] at wholeSize
    linarith)
  rw [abs_of_pos (by norm_num : (0 : ℚ) < 60)] at quotientSize
  rw [largest] at wholeSize
  have toOne := abs_sub q 1
  rw [abs_one] at toOne
  obtain ⟨v, lowered, loweredSize⟩ :=
    toRat?_sub quotient toRat?_one (by rw [overflow]; linarith)
  have quotientFits : 2 * |q| + 4 < overflow := by
    rw [overflow]
    linarith
  have loweredFits : 2 * |v| + 4 < overflow := by
    rw [overflow]
    linarith
  simp only [divMod]
  split
  · exact toRat?_snap quotient quotientFits
  · split
    · exact toRat?_snap lowered loweredFits
    · exact toRat?_snap quotient quotientFits

end Binary64

theorem wholeNumber_ok {x : Binary64} {p : ℚ} (hx : x.toRat? = some p) :
    ∃ n, wholeNumber x = .ok n := by
  cases x with
  | finite s m e => exact ⟨_, rfl⟩
  | infinite s => cases hx
  | nan => cases hx

/-- The time between two readings of a clock can be written whenever it is a finite number. -/
theorem elapsedLine_ok {before after : Binary64} {p : ℚ}
    (finite : (after.sub before).toRat? = some p) :
    ∃ line, elapsedLine (after.sub before) = .ok line := by
  obtain ⟨v, minutes⟩ := Binary64.toRat?_minutes finite (Binary64.abs_le_of_add finite)
  obtain ⟨n, whole⟩ := wholeNumber_ok minutes
  unfold elapsedLine
  simp only [whole]
  exact ⟨_, rfl⟩

end TestBench
