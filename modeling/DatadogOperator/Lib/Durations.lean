import Mathlib.Algebra.Group.Int.Defs
import Mathlib.Data.Int.Basic
import Mathlib.Order.Lattice

/-!
# Durations of 64 bits

Instants are integers and durations are 64-bit integers. The time between two instants is
the nearest duration, and a difference of durations wraps. So what is left of a duration
is positive only while it fits into one.
-/

namespace Durations

abbrev Duration := Int64

def maxDuration : Int := 2 ^ 63 - 1

/-- The time from `earlier` to `later`, or the nearest duration. -/
def between (later earlier : Int) : Duration := Int64.ofIntClamp (later - earlier)

variable {d : Duration} {now start : Int}

theorem toInt_between : (between now start).toInt =
    max (-2 ^ 63) (min maxDuration (now - start)) := by
  have hmin : Int64.minValue.toInt = -2 ^ 63 := Int64.toInt_minValue
  have hmax : Int64.maxValue.toInt = 2 ^ 63 - 1 := Int64.toInt_maxValue
  unfold between maxDuration
  by_cases hlow : Int64.minValue.toInt ≤ now - start
  · by_cases hhigh : now - start ≤ Int64.maxValue.toInt
    · rw [Int64.toInt_ofIntClamp hlow hhigh]
      omega
    · rw [Int64.ofIntClamp, dif_pos hlow, dif_neg hhigh, hmax]
      omega
  · rw [Int64.ofIntClamp, dif_neg hlow, hmin]
    omega

theorem le_between_iff (h : 0 < d) : d ≤ between now start ↔ d.toInt ≤ now - start := by
  have hd : 0 < d.toInt := Int64.lt_iff_toInt_lt.mp h
  have hd' := d.toInt_lt
  rw [Int64.le_iff_toInt_le, toInt_between]
  unfold maxDuration
  omega

/-- What is left of a duration is positive exactly if it is a duration. -/
theorem sub_between_pos_iff (h : 0 < d) (hleft : ¬d ≤ between now start) :
    0 < d - between now start ↔ d.toInt - (now - start) ≤ maxDuration := by
  have hd : 0 < d.toInt := Int64.lt_iff_toInt_lt.mp h
  have hd' := d.toInt_lt
  rw [le_between_iff h] at hleft
  have hpos : (0 : Duration) < d - between now start ↔ 0 < (d - between now start).toInt :=
    Int64.lt_iff_toInt_lt
  rw [hpos, Int64.toInt_sub, toInt_between, Int.bmod_def]
  unfold maxDuration
  omega

end Durations
