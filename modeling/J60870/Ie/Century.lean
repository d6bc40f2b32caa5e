import J60870.Ie.ShortTimes

namespace J60870.IeTime56

open Lib

variable {value : Vector Octet LENGTH} {startOfCentury : JInt}

private theorem year_bits : ∀ b : Octet, (widen b &&& 0x7f).toNat = b.toNat % 128 := by
  decide +kernel

theorem getYear_toNat (value : Vector Octet LENGTH) : (getYear value).toNat = value[6].toNat % 128 :=
  year_bits value[6]

theorem toInt_widen (b : Octet) : (widen b).toInt = if b.toNat < 128 then (b.toNat : Int) else b.toNat - 256 := by
  rw [widen, BitVec.toInt_signExtend_of_le (by decide), BitVec.toInt_eq_toNat_cond]
  split <;> split <;> omega

/-- Whether a century is added: the year octet is compared with its sign. -/
def Later (octet : Octet) (startOfCentury : JInt) : Prop :=
  (widen octet).toInt < startOfCentury.toNat % 100

instance (octet : Octet) : Decidable (Later octet startOfCentury) := by unfold Later; infer_instance

theorem centuryFor_toNat (nonneg : Nonneg startOfCentury) :
    (centuryFor value startOfCentury).toNat =
      startOfCentury.toNat / 100 * 100 + if Later value[6] startOfCentury then 100 else 0 := by
  have hundred : (100 : JInt).toNat = 100 := rfl
  have quotient := nonneg.toNat_sdiv (y := 100) (by decide)
  have digits := nonneg.toNat_srem (y := 100) (by decide)
  rw [hundred] at quotient digits
  have digitsNonneg : Nonneg (startOfCentury.srem 100) := by
    rw [Nonneg]
    omega
  rw [Nonneg] at nonneg
  have century : (startOfCentury.sdiv 100 * 100).toNat = startOfCentury.toNat / 100 * 100 := by
    rw [BitVec.toNat_mul, quotient, hundred]
    omega
  have compared : (widen value[6]).slt (startOfCentury.srem 100) = true ↔ Later value[6] startOfCentury := by
    rw [BitVec.slt_iff_toInt_lt, digitsNonneg.toInt, digits, Later]
    rfl
  rw [centuryFor]
  by_cases later : Later value[6] startOfCentury
  · simp only [compared.mpr later, later, if_true]
    rw [BitVec.toNat_add, century, hundred]
    omega
  · have kept : (widen value[6]).slt (startOfCentury.srem 100) = false :=
      Bool.eq_false_iff.mpr fun less => later (compared.mp less)
    simp only [kept, later, if_false, Bool.false_eq_true]
    omega

/-- What the year handed to the calendar is wanted to be: the one year of the century from
`startOfCentury` on that ends in the digits. -/
structure CenturyResolved (value : Vector Octet LENGTH) (startOfCentury : JInt) : Prop where
  least : startOfCentury.toInt ≤ (yearFor value startOfCentury).toInt
  most : (yearFor value startOfCentury).toInt ≤ startOfCentury.toInt + 99
  digits : (yearFor value startOfCentury).toInt % 100 = (getYear value).toInt % 100

/-- That year, as a number of any size. -/
def resolvedYear (year startOfCentury : Nat) : Nat :=
  startOfCentury / 100 * 100 + (if year < startOfCentury % 100 then 100 else 0) + year

theorem resolvedYear_spec (year startOfCentury : Nat) (inCentury : year ≤ 99) :
    startOfCentury ≤ resolvedYear year startOfCentury ∧
      resolvedYear year startOfCentury ≤ startOfCentury + 99 ∧
      resolvedYear year startOfCentury % 100 = year := by
  rw [resolvedYear]
  split <;> omega

/-- It is the only one. -/
theorem eq_resolvedYear {year startOfCentury resolved : Nat} (least : startOfCentury ≤ resolved)
    (most : resolved ≤ startOfCentury + 99) (digits : resolved % 100 = year) :
    resolved = resolvedYear year startOfCentury := by
  rw [resolvedYear]
  split <;> omega

theorem yearFor_toNat (nonneg : Nonneg startOfCentury) :
    (yearFor value startOfCentury).toNat = (getYear value).toNat +
      (startOfCentury.toNat / 100 * 100 + if Later value[6] startOfCentury then 100 else 0) := by
  have year := getYear_toNat value
  rw [yearFor, BitVec.toNat_add, centuryFor_toNat nonneg]
  rw [Nonneg] at nonneg
  split <;> omega

/-- An octet with its reserved bit set is negative, and below all digits. -/
theorem later_iff : Later value[6] startOfCentury ↔
    128 ≤ value[6].toNat ∨ value[6].toNat < startOfCentury.toNat % 100 := by
  rw [Later, toInt_widen]
  split <;> omega

theorem yearFor_of_plain (nonneg : Nonneg startOfCentury) (plain : value[6].toNat < 128) :
    (yearFor value startOfCentury).toNat =
      resolvedYear (getYear value).toNat startOfCentury.toNat := by
  have digits := getYear_toNat value
  have same : Later value[6] startOfCentury ↔ (getYear value).toNat < startOfCentury.toNat % 100 := by
    rw [later_iff]
    omega
  rw [yearFor_toNat nonneg, resolvedYear]
  simp only [same]
  omega

private theorem resolved_iff (nonneg : Nonneg startOfCentury) (inCentury : (getYear value).toNat ≤ 99) :
    CenturyResolved value startOfCentury ↔
      (yearFor value startOfCentury).toNat = resolvedYear (getYear value).toNat startOfCentury.toNat ∧
        resolvedYear (getYear value).toNat startOfCentury.toNat ≤ 2147483647 := by
  -- The year handed over is the wanted one exactly if it is an `int` and the century is added as it
  -- is for the digits.
  have spec := resolvedYear_spec (getYear value).toNat startOfCentury.toNat inCentury
  have sign := BitVec.toInt_eq_toNat_cond (yearFor value startOfCentury)
  have year : (getYear value).toInt = (getYear value).toNat :=
    Nonneg.toInt (by rw [Nonneg]; omega)
  have start := nonneg.toInt
  constructor
  · rintro ⟨least, most, digits⟩
    have positive : 2 * (yearFor value startOfCentury).toNat < 2 ^ 32 := by
      by_contra negative
      rw [if_neg negative] at sign
      omega
    rw [if_pos positive] at sign
    have same : (yearFor value startOfCentury).toNat =
        resolvedYear (getYear value).toNat startOfCentury.toNat :=
      eq_resolvedYear (by omega) (by omega) (by omega)
    exact ⟨same, by omega⟩
  · rintro ⟨same, small⟩
    rw [if_pos (by omega)] at sign
    exact ⟨by omega, by omega, by omega⟩

/-- The century is found where the octet of the year is the digits alone, or the next century is
meant anyway, and where the year is an `int`. -/
theorem centuryResolved_iff (nonneg : 0 ≤ startOfCentury.toInt) (inCentury : (getYear value).toNat ≤ 99) :
    CenturyResolved value startOfCentury ↔
      (value[6].toNat < 128 ∨ (getYear value).toNat < startOfCentury.toNat % 100) ∧
        resolvedYear (getYear value).toNat startOfCentury.toNat ≤ 2147483647 := by
  have positive : Nonneg startOfCentury := nonneg_of_toInt nonneg
  have digits := getYear_toNat value
  rw [resolved_iff positive inCentury]
  refine and_congr_left fun _ => ?_
  by_cases reserved : 128 ≤ value[6].toNat
  · rw [yearFor_toNat positive, if_pos (later_iff.mpr (.inl reserved)), resolvedYear]
    split <;> omega
  · exact iff_of_true (yearFor_of_plain positive (by omega)) (.inl (by omega))

/-- 2010 from 1970 on, with the reserved bit. -/
theorem centuryResolved_iff_sample : CenturyResolved #v[0, 0, 0, 0, 1, 1, 0x8a] 1970 :=
  (centuryResolved_iff (by decide) (by decide)).mpr (by decide)

/-- With the reserved bit, 1975 becomes 2075. -/
theorem not_centuryResolved :
    ¬ ∀ (value : Vector Octet LENGTH) (startOfCentury : JInt), 0 ≤ startOfCentury.toInt →
      (getYear value).toNat ≤ 99 → CenturyResolved value startOfCentury := by
  intro resolved
  exact absurd (resolved #v[0, 0, 0, 0, 1, 1, 0xcb] 1970 (by decide) (by decide)).most (by decide)

end J60870.IeTime56
