import SymbolHierarchy.Number.Reading
import Mathlib.Tactic.Positivity

/-! Which whole numbers have a double. One that is too large lies half a step or more beyond the
greatest double; no other is lost, whatever its digits. -/
namespace SymbolHierarchy

namespace Binary64

theorem twoToPow (k : Nat) : twoTo k = 2 ^ k := Nat.pow_eq

theorem scaledBounds {n : Nat} (positive : n ≠ 0) (k : Nat) :
    twoTo k ≤ n * twoTo (k - n.log2) / twoTo (n.log2 - k) ∧
      n * twoTo (k - n.log2) / twoTo (n.log2 - k) < twoTo (k + 1) := by
  have low := Nat.log2_self_le positive
  have high := Nat.lt_log2_self (n := n)
  simp only [twoToPow]
  rw [Nat.le_div_iff_mul_le (by positivity), Nat.div_lt_iff_lt_mul (by positivity),
    ← Nat.pow_add, ← Nat.pow_add]
  rcases Nat.le_total k n.log2 with wide | narrow
  · rw [show k - n.log2 = 0 by omega, show k + (n.log2 - k) = n.log2 by omega,
      show k + 1 + (n.log2 - k) = n.log2 + 1 by omega]
    omega
  · rw [show n.log2 - k = 0 by omega, Nat.add_zero, Nat.add_zero]
    have scale : 0 < 2 ^ (k - n.log2) := by positivity
    constructor
    · calc 2 ^ k = 2 ^ n.log2 * 2 ^ (k - n.log2) := by rw [← Nat.pow_add]; congr 1; omega
        _ ≤ n * 2 ^ (k - n.log2) := Nat.mul_le_mul_right _ low
    · calc n * 2 ^ (k - n.log2) < 2 ^ (n.log2 + 1) * 2 ^ (k - n.log2) :=
          Nat.mul_lt_mul_of_pos_right high scale
        _ = 2 ^ (k + 1) := by rw [← Nat.pow_add]; congr 1; omega

theorem nearestUp {n m h : Nat} (odd : m % 2 = 1) (below : n < (m + 1) * (2 * h)) :
    nearest n (2 * h) = m + 1 ↔ m * (2 * h) + h ≤ n := by
  have step : 0 < 2 * h := Nat.pos_of_mul_pos_left (Nat.zero_lt_of_lt below)
  have most : n / (2 * h) ≤ m := Nat.lt_succ_iff.mp ((Nat.div_lt_iff_lt_mul step).mpr below)
  have parts := Nat.div_add_mod n (2 * h)
  have rest := Nat.mod_lt n step
  -- half a step rounds up behind the last multiple, as that is odd
  rcases Nat.eq_or_lt_of_le most with last | earlier
  · rw [last, Nat.mul_comm] at parts
    simp only [nearest, last]
    split <;> rename_i up <;> simp [odd] at up <;> omega
  · have far : (n / (2 * h) + 1) * (2 * h) ≤ m * (2 * h) := Nat.mul_le_mul_right _ earlier
    rw [Nat.succ_mul] at far
    rw [Nat.mul_comm] at parts
    simp only [nearest]
    split <;> omega

theorem wholeRounded {n : Nat} (positive : n ≠ 0) (negative : Bool) :
    let q := nearest (n * twoTo (52 - n.log2)) (twoTo (n.log2 - 52))
    (ofRatio negative n 1).isFinite =
      decide ((n.log2 : Int) - 52 + (if q = twoTo 53 then 1 else 0) ≤ 971) := by
  intro q
  have wide := (scaledBounds positive 53).1
  have down : (-((n.log2 : Int) - 53)).toNat = 53 - n.log2 := by omega
  have up : ((n.log2 : Int) - 53).toNat = n.log2 - 53 := by omega
  have downNext : (-((n.log2 : Int) - 53 + 1)).toNat = 52 - n.log2 := by omega
  have upNext : ((n.log2 : Int) - 53 + 1).toNat = n.log2 - 52 := by omega
  have one : Nat.log2 1 = 0 := by decide
  have normal : max (-1074) ((n.log2 : Int) - 53 + 1) = (n.log2 : Int) - 53 + 1 := by omega
  simp only [ofRatio, positive, if_false, one, Nat.cast_zero, sub_zero, down, up, Nat.one_mul,
    ge_iff_le, wide, if_true, normal, downNext, upNext]
  -- a mantissa has 53 digits; rounding up to a 54th moves the exponent
  by_cases carried : q = twoTo 53
  · simp only [show nearest _ _ = twoTo 53 from carried, carried, if_true]
    split <;> simp [isFinite] <;> omega
  · simp only [show ¬ nearest _ _ = twoTo 53 from carried, carried, if_false]
    split <;> simp [isFinite] <;> omega

theorem wholeFinite {n : Nat} (positive : n ≠ 0) (negative : Bool) :
    (ofRatio negative n 1).isFinite = decide (n < 2 ^ 1024 - 2 ^ 970) := by
  rw [wholeRounded positive negative, decide_eq_decide]
  rcases Nat.lt_trichotomy n.log2 1023 with below | top | above
  · have small := (Nat.log2_lt positive).mp below
    constructor
    · intro _
      omega
    · intro _
      split <;> omega
  · have high := (Nat.log2_lt (k := 1024) positive).mp (by omega)
    have low := (Nat.le_log2 (k := 1023) positive).mp (by omega)
    have unscaled : n * twoTo (52 - n.log2) = n := by simp [top, twoTo]
    have rounds : nearest n (2 ^ 971) = 2 ^ 53 ↔ 2 ^ 1024 - 2 ^ 970 ≤ n := by
      have up := nearestUp (m := 2 ^ 53 - 1) (h := 2 ^ 970) (n := n) (by decide) (by omega)
      rw [show 2 * 2 ^ 970 = 2 ^ 971 by omega] at up
      omega
    rw [unscaled, show n.log2 - 52 = 971 by omega, top, twoToPow, twoToPow]
    split <;> rename_i carried <;> rw [rounds] at carried <;> omega
  · have large := (Nat.le_log2 positive).mp above
    constructor
    · intro _
      omega
    · intro _
      omega

end Binary64

theorem Reading.wholeDouble (n : Int) :
    (Reading.exact n).toDouble?.isSome = decide (n.natAbs < 2 ^ 1024 - 2 ^ 970) := by
  by_cases zero : n = 0
  · subst zero
    decide +kernel
  · have same : Binary64.ofInt n = Binary64.ofRatio (n < 0) n.natAbs 1 := by
      simp [Binary64.ofInt, Binary64.ofScaled, Binary64.twoTo, zero]
    rw [← Binary64.wholeFinite (by omega) (n < 0), toDouble?, same]
    cases finite : Binary64.isFinite _ <;> simp [Option.filter, finite]

end SymbolHierarchy
