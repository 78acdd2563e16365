import Mathlib
import TestBench.Proofs.Number.Exact
import TestBench.Proofs.Report.Elapsed
import TestBench.Proofs.Report.Lines

/-! What the line about elapsed time says. Below `2 ^ 53` seconds the minutes and the seconds that are
left are exact, so that only writing the seconds with two places rounds. This happens behind the
division and has no carry: what is left of a minute is written as 60.00 from 59.995 on. -/
namespace TestBench

namespace Binary64

/-! Division with remainder. -/

section Division

variable {x : Binary64} {p : ℚ} {n k : Nat}

theorem toRat?_remainder_exact (hx : x.toRat? = some p) (nonneg : 0 ≤ p) (quotient : ⌊p / n⌋ = k)
    (exact : Exact (p - k * n)) : (x.remainder n).toRat? = some (p - k * n) := by
  have whole : (p / n).floor = k := quotient
  have signed : (if x.isNegative then -(p - k * n) else p - k * n) = p - k * n := by
    cases x with
    | finite s m e =>
      rcases sign_of_nonneg hx nonneg with zero | positive
      · have none_left : (k : Int) = 0 := by simpa [zero] using quotient.symm
        simp [zero, Int.natCast_eq_zero.mp none_left]
      · simp [isNegative, positive]
    | infinite s => cases hx
    | nan => cases hx
  simp only [remainder, hx, Rat.abs_of_nonneg nonneg, whole, Int.cast_natCast, signed]
  exact toRat?_ofRatSigned_exact _ exact

theorem toRat?_snap_whole (hx : x.toRat? = some (k : ℚ)) (small : k < significandBound) :
    x.snap.toRat? = some (k : ℚ) := by
  have whole : (k : ℚ).floor = k := (Int.floor_natCast k : ⌊(k : ℚ)⌋ = k)
  have low : x.floor.toRat? = some (k : ℚ) := by
    simp only [floor, hx, whole, Int.cast_natCast]
    exact toRat?_ofRatSigned_exact _ (exact_natCast small)
  have gap : (x.sub x.floor).toRat? = some ((k : ℚ) - k) :=
    toRat?_sub_exact hx low (by rw [sub_self]; exact exact_zero)
  simp only [snap, gap, sub_self]
  rw [if_neg (by norm_num)]
  exact low

theorem divMod_of_nonneg {r : ℚ} (rest : (x.remainder n).toRat? = some r) (nonneg : 0 ≤ r) :
    ∃ m e, x.divMod n = (((x.sub (x.remainder n)).div (ofInt n)).snap, .finite false m e) ∧
      dyadic m e = r := by
  simp only [divMod]
  cases remaining : x.remainder n with
  | finite s m e =>
    rw [remaining] at rest
    have size := abs_toRat? rest
    rw [abs_of_nonneg nonneg] at size
    by_cases zero : m = 0
    · have isZero : (Binary64.finite s m e).isZero = true := by simp [isZero, zero]
      rw [if_pos isZero]
      exact ⟨0, -1074, rfl, by simp [size, dyadic, zero]⟩
    · have something : r ≠ 0 := by
        rw [size, dyadic]
        positivity
      obtain rfl : s = false := (sign_of_nonneg rest nonneg).resolve_left something
      have isZero : (Binary64.finite false m e).isZero = false := by simp [isZero, zero]
      simp only [isZero, isNegative, Bool.false_eq_true, if_false]
      exact ⟨m, e, rfl, size.symm⟩
  | infinite s => rw [remaining] at rest; cases rest
  | nan => rw [remaining] at rest; cases rest

/-- Below `2 ^ 53`, quotient and remainder are exact. -/
theorem divMod_exact (wellFormed : x.WellFormed) (hx : x.toRat? = some p) (nonneg : 0 ≤ p)
    (small : p < 2 ^ 53) (pos : 0 < n) (bits : n < significandBound) (quotient : ⌊p / n⌋ = k) :
    (x.divMod n).1.toRat? = some (k : ℚ) ∧
      ∃ m e, (x.divMod n).2 = .finite false m e ∧ dyadic m e = p - k * n := by
  have positive : (0 : ℚ) < n := by exact_mod_cast pos
  have below : ((k * n : Nat) : ℚ) ≤ p := by
    have low := Int.floor_le (p / n)
    rw [quotient, Int.cast_natCast, le_div_iff₀ positive] at low
    exact_mod_cast low
  have whole : k * n < significandBound := by
    exact_mod_cast show ((k * n : Nat) : ℚ) < 2 ^ 53 from below.trans_lt small
  have fits : k < significandBound := (Nat.le_mul_of_pos_right k pos).trans_lt whole
  have left := wellFormed.exact_sub hx nonneg small below
  rw [Nat.cast_mul] at left below
  have rest := toRat?_remainder_exact hx nonneg quotient left
  have multiple : (x.sub (x.remainder n)).toRat? = some ((k * n : Nat) : ℚ) := by
    have difference : p - (p - k * n) = ((k * n : Nat) : ℚ) := by
      push_cast
      ring
    rw [← difference]
    exact toRat?_sub_exact hx rest (by rw [difference]; exact exact_natCast whole)
  have divided : ((x.sub (x.remainder n)).div (ofInt n)).toRat? = some (k : ℚ) := by
    have cancel : ((k * n : Nat) : ℚ) / n = k := by
      push_cast
      field_simp
    rw [← cancel]
    exact toRat?_div_exact multiple (toRat?_ofInt bits) (by rw [cancel]; exact exact_natCast fits)
  obtain ⟨m, e, parts, value⟩ := divMod_of_nonneg rest (by linarith)
  rw [parts]
  exact ⟨toRat?_snap_whole divided fits, m, e, rfl, value⟩

end Division

theorem inUnits_eq (places m : Nat) (e : Int) :
    ∃ n d, 0 < d ∧ inUnits places m e = divNearestEven n d ∧
      (n : ℚ) / d = dyadic m e * 10 ^ places := by
  obtain ⟨positive, value⟩ := scaled_eq m one_pos (-e)
  refine ⟨(scaled m 1 (-e)).1 * Nat.pow 10 places, (scaled m 1 (-e)).2, positive, rfl, ?_⟩
  rw [Nat.pow_eq, Nat.cast_mul, mul_div_right_comm, value, dyadic, zpow_neg]
  simp

end Binary64

/-- A quotient that is odd when rounded down goes up from a half on, a half itself included. -/
theorem divNearestEven_half_up {n d k : Nat} (pos : 0 < d) (odd : k % 2 = 1)
    (low : (k : ℚ) + 1 / 2 ≤ n / d) (high : (n : ℚ) / d < k + 1) : divNearestEven n d = k + 1 := by
  have positive : (0 : ℚ) < d := by exact_mod_cast pos
  have above : (2 * k + 1) * d ≤ 2 * n := by
    rw [le_div_iff₀ positive] at low
    have twice : (2 * (k : ℚ) + 1) * d ≤ 2 * n := by linarith
    exact_mod_cast twice
  have below : n < (k + 1) * d := by
    rw [div_lt_iff₀ positive] at high
    exact_mod_cast high
  have quotient : n / d = k := Nat.div_eq_of_lt_le (by linarith) below
  have division := Nat.div_add_mod n d
  unfold divNearestEven
  rw [quotient] at division ⊢
  have half : d ≤ 2 * (n % d) := by linarith
  dsimp only
  rw [if_pos]
  omega

/-! The text. -/

def hundredthsText (n : Nat) : String :=
  toString (n / 100) ++ "." ++ (if n % 100 < 10 then "0" else "") ++ toString (n % 100)

/-- The line that gives so many minutes and hundredths of a second. -/
def durationLine (minutes hundredths : Nat) : String :=
  "tests completed in " ++ toString minutes ++ " minutes " ++ hundredthsText hundredths ++ " seconds"

/-- The line gives a time as minutes and less than sixty seconds, and is off by half a hundredth of a
second at most. -/
def GivesProperly (line : String) (time : ℚ) : Prop :=
  ∃ minutes hundredths : Nat, line = durationLine minutes hundredths ∧ hundredths < 6000 ∧
    |60 * minutes + hundredths / 100 - time| ≤ 1 / 200

theorem ofList_withPlaces (n : Nat) :
    String.ofList (Binary64.withPlaces 2 n) = hundredthsText n := by
  have width : ∀ r < 100, List.replicate (2 - (decimalDigits r).length) '0' =
      (if r < 10 then "0" else "").toList := by
    decide +kernel
  apply String.toList_inj.mp
  rw [Binary64.withPlaces, hundredthsText]
  simp only [Nat.pow_eq, Nat.reducePow, width (n % 100) (Nat.mod_lt n (by decide))]
  simp [decimalDigits]

theorem not_mem_number {c : Char} (other : c.isDigit = false) (n : Nat) :
    c ∉ (toString n).toList := by
  intro mem
  rw [Report.isDigit_of_mem_repr mem] at other
  cases other

theorem parts_of_cut {sep : Char} {a b cs ds : List Char} (ha : sep ∉ a) (hb : sep ∉ b)
    (same : a ++ sep :: cs = b ++ sep :: ds) : a = b ∧ cs = ds := by
  have cuts := congrArg (cut sep) same
  rw [cut_append ha, cut_append hb] at cuts
  cases cuts
  exact ⟨rfl, rfl⟩

theorem durationLine_inj {minutes hundredths minutes' hundredths' : Nat}
    (same : durationLine minutes hundredths = durationLine minutes' hundredths') :
    minutes = minutes' ∧ hundredths = hundredths' := by
  have number {m n : Nat} (same : (toString m).toList = (toString n).toList) : m = n :=
    Nat.repr_injective (String.toList_inj.mp same)
  have read : ∀ n < 100,
      Nat.ofDigitChars 10 ((if n < 10 then "0" else "").toList ++ (toString n).toList) 0 = n := by
    decide +kernel
  obtain ⟨gap, hgap⟩ : ∃ cs, " minutes ".toList = ' ' :: cs := ⟨_, rfl⟩
  obtain ⟨point, hpoint⟩ : ∃ cs, ".".toList = '.' :: cs := ⟨_, rfl⟩
  have texts := congrArg String.toList same
  unfold durationLine hundredthsText at texts
  simp only [String.toList_append, hgap, hpoint, List.append_assoc, List.cons_append,
    List.append_cancel_left_eq] at texts
  obtain ⟨whole, seconds⟩ :=
    parts_of_cut (not_mem_number (by decide) _) (not_mem_number (by decide) _) texts
  obtain ⟨full, part⟩ := parts_of_cut (not_mem_number (by decide) _) (not_mem_number (by decide) _)
    (List.append_cancel_left seconds)
  have part := List.append_cancel_left part
  rw [← List.append_assoc, ← List.append_assoc] at part
  have part := congrArg (Nat.ofDigitChars 10 · 0) (List.append_cancel_right part)
  simp only [read _ (Nat.mod_lt _ (by decide : 0 < 100))] at part
  have full := number full
  exact ⟨number whole, by omega⟩

/-! The line. -/

theorem wholeNumber_natCast {x : Binary64} {k : Nat} (hx : x.toRat? = some (k : ℚ)) :
    wholeNumber x = .ok (k : Int) := by
  have whole : (k : ℚ).floor = k := (Int.floor_natCast k : ⌊(k : ℚ)⌋ = k)
  have truncated : x.truncate? = some (k : Int) := by
    simp [Binary64.truncate?, hx, whole]
  cases x with
  | finite s m e => simp [wholeNumber, truncated]
  | infinite s => cases hx
  | nan => cases hx

/-- What is left of a minute is written to the nearest hundredth, and this is 60.00 from 59.995 on. -/
theorem fixed_of_rest {m : Nat} {e : Int} (below : Binary64.dyadic m e < 60) :
    ∃ hundredths : Nat, (Binary64.finite false m e).fixed 2 = hundredthsText hundredths ∧
      |(hundredths : ℚ) / 100 - Binary64.dyadic m e| ≤ 1 / 200 ∧ hundredths ≤ 6000 ∧
      (hundredths < 6000 ↔ Binary64.dyadic m e < 59.995) := by
  obtain ⟨n, d, positive, units, value⟩ := Binary64.inUnits_eq 2 m e
  have error := divNearestEven_error n positive
  rw [← units, value, abs_le] at error
  refine ⟨Binary64.inUnits 2 m e, ofList_withPlaces _, ?_, ?_, ?_⟩
  · rw [abs_le]
    constructor <;> linarith
  · have high : (Binary64.inUnits 2 m e : ℚ) < 6000 + 1 := by linarith
    exact Nat.lt_succ_iff.mp (by exact_mod_cast high)
  · constructor
    · intro fewer
      by_contra late
      -- 59.995 is a half above an odd number of hundredths
      have up := divNearestEven_half_up (k := 5999) positive (by decide)
        (by rw [value]; push_cast; linarith) (by rw [value]; push_cast; linarith)
      omega
    · intro early
      have low : (Binary64.inUnits 2 m e : ℚ) < 6000 := by linarith
      exact_mod_cast low

section Seconds

variable {seconds : Binary64} {time : ℚ} (wellFormed : seconds.WellFormed)
  (value : seconds.toRat? = some time) (nonneg : 0 ≤ time) (small : time < 2 ^ 53)
include wellFormed value nonneg small

theorem elapsedLine_eq :
    ∃ minutes hundredths : Nat, elapsedLine seconds = .ok (durationLine minutes hundredths) ∧
      (minutes : Int) = ⌊time / 60⌋ ∧ hundredths ≤ 6000 ∧
      |60 * minutes + hundredths / 100 - time| ≤ 1 / 200 ∧
      (hundredths < 6000 ↔ time - 60 * minutes < 59.995) := by
  obtain ⟨minutes, quotient⟩ : ∃ k : Nat, ⌊time / 60⌋ = k :=
    Int.eq_ofNat_of_zero_le (Int.floor_nonneg.mpr (by positivity))
  obtain ⟨whole, m, e, rest, left⟩ := Binary64.divMod_exact (n := 60) wellFormed value nonneg small
    (by decide) (by decide) (by exact_mod_cast quotient)
  push_cast at left
  have below : Binary64.dyadic m e < 60 := by
    have next := Int.lt_floor_add_one (time / 60)
    rw [quotient, div_lt_iff₀ (by norm_num)] at next
    push_cast at next
    linarith
  obtain ⟨hundredths, text, near, most, early⟩ := fixed_of_rest below
  have apart : (60 : ℚ) * minutes + hundredths / 100 - time =
      hundredths / 100 - Binary64.dyadic m e := by
    rw [left]
    ring
  refine ⟨minutes, hundredths, ?_, quotient.symm, most, ?_, ?_⟩
  · simp only [elapsedLine, rest, text, wholeNumber_natCast whole]
    rfl
  · rw [apart]
    exact near
  · rw [early, left, mul_comm]

/-- A finite time below `2 ^ 53` seconds is written with its minutes, and with its seconds to the
nearest hundredth. This gives the time properly exactly if less than 59.995 seconds are left; else
sixty seconds are written. -/
theorem elapsedLine_proper_iff :
    ∃ minutes hundredths : Nat, elapsedLine seconds = .ok (durationLine minutes hundredths) ∧
      (minutes : Int) = ⌊time / 60⌋ ∧ hundredths ≤ 6000 ∧
      |60 * minutes + hundredths / 100 - time| ≤ 1 / 200 ∧
      (GivesProperly (durationLine minutes hundredths) time ↔ time - 60 * minutes < 59.995) := by
  obtain ⟨minutes, hundredths, line, quotient, most, near, early⟩ :=
    elapsedLine_eq wellFormed value nonneg small
  refine ⟨minutes, hundredths, line, quotient, most, near, ?_⟩
  rw [← early]
  constructor
  · rintro ⟨minutes', hundredths', same, fewer, -⟩
    obtain ⟨-, rfl⟩ := durationLine_inj same
    exact fewer
  · intro fewer
    exact ⟨minutes, hundredths, rfl, fewer, near⟩

end Seconds

/-- The neighbours of 59.995, a last bit apart. -/
theorem elapsedLine_proper_iff_of_neighbours :
    let before := Binary64.finite false 8443545613877903 (-47)
    let after := Binary64.finite false 8443545613877904 (-47)
    let low : ℚ := 8443545613877903 / 2 ^ 47
    let high : ℚ := 8443545613877904 / 2 ^ 47
    (before.WellFormed ∧ before.toRat? = some low ∧ 0 ≤ low ∧ low < 2 ^ 53) ∧
      (after.WellFormed ∧ after.toRat? = some high ∧ 0 ≤ high ∧ high < 2 ^ 53) ∧
      elapsedLine before = .ok "tests completed in 0 minutes 59.99 seconds" ∧
      GivesProperly "tests completed in 0 minutes 59.99 seconds" low ∧
      elapsedLine after = .ok "tests completed in 0 minutes 60.00 seconds" ∧
      ¬ GivesProperly "tests completed in 0 minutes 60.00 seconds" high := by
  intro before after low high
  have formed {m : Nat} (bits : m < Binary64.significandBound) :
      (Binary64.finite false m (-47)).WellFormed := by
    rintro s n e ⟨⟩
    exact ⟨bits, by decide, by decide⟩
  have lowValue : before.toRat? = some low := by decide +kernel
  have highValue : after.toRat? = some high := by decide +kernel
  have lowRange : 0 ≤ low ∧ low < 2 ^ 53 := by constructor <;> norm_num [low]
  have highRange : 0 ≤ high ∧ high < 2 ^ 53 := by constructor <;> norm_num [high]
  have lowLine : elapsedLine before = .ok "tests completed in 0 minutes 59.99 seconds" := by
    decide +kernel
  have highLine : elapsedLine after = .ok "tests completed in 0 minutes 60.00 seconds" := by
    decide +kernel
  obtain ⟨minutes, hundredths, line, quotient, -, -, early⟩ :=
    elapsedLine_proper_iff (formed (by decide)) lowValue lowRange.1 lowRange.2
  obtain ⟨minutes', hundredths', line', quotient', -, -, late⟩ :=
    elapsedLine_proper_iff (formed (by decide)) highValue highRange.1 highRange.2
  have lowMinutes : ⌊low / 60⌋ = 0 := by norm_num [low, Int.floor_eq_iff]
  have highMinutes : ⌊high / 60⌋ = 0 := by norm_num [high, Int.floor_eq_iff]
  obtain rfl : minutes = 0 := by omega
  obtain rfl : minutes' = 0 := by omega
  rw [Except.ok.inj (line.symm.trans lowLine)] at early
  rw [Except.ok.inj (line'.symm.trans highLine)] at late
  refine ⟨⟨formed (by decide), lowValue, lowRange⟩, ⟨formed (by decide), highValue, highRange⟩,
    lowLine, early.mpr ?_, highLine, fun proper => absurd (late.mp proper) ?_⟩
  · norm_num [low]
  · norm_num [high]

/-- A minute less a millisecond is written with sixty seconds. -/
theorem sixty_seconds_without_carry :
    let seconds := Binary64.round false 59999 1000
    let time : ℚ := 8444108563831325 / 2 ^ 47
    seconds.WellFormed ∧ seconds.toRat? = some time ∧ 0 ≤ time ∧ time < 2 ^ 53 ∧
      elapsedLine seconds = .ok "tests completed in 0 minutes 60.00 seconds" ∧
      ¬ GivesProperly "tests completed in 0 minutes 60.00 seconds" time := by
  intro seconds time
  have same : "tests completed in 0 minutes 60.00 seconds" = durationLine 0 6000 := by decide +kernel
  refine ⟨Binary64.wellFormed_round false 59999 (by decide), by decide +kernel, ?_, ?_,
    by decide +kernel, ?_⟩
  · norm_num [time]
  · norm_num [time]
  · rw [same]
    rintro ⟨minutes, hundredths, line, fewer, -⟩
    obtain ⟨-, rfl⟩ := durationLine_inj line
    exact absurd fewer (by decide)

end TestBench
