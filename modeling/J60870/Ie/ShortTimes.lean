import J60870.Ie.RoundTrip
import J60870.Ie.Time
import J60870.Lib.SignedWord

namespace J60870

open Lib

theorem toNat_toInt (b : Octet) : (toInt b).toNat = b.toNat := by
  rw [toInt, BitVec.toNat_setWidth]
  omega

theorem toNat_toByte (v : JInt) : (toByte v).toNat = v.toNat % 256 := by
  rw [toByte, BitVec.toNat_setWidth]

theorem toNat_widen (b : Octet) (low : b.toNat < 128) : (widen b).toNat = b.toNat := by
  have positive : b.msb = false := by
    rw [BitVec.msb_eq_false_iff_two_mul_lt]
    omega
  rw [widen, BitVec.signExtend_eq_setWidth_of_msb_false positive, BitVec.toNat_setWidth]
  omega

theorem toNat_add_shiftLeft (b1 b2 : Octet) :
    (toInt b1 + (toInt b2 <<< 8)).toNat = b1.toNat + 256 * b2.toNat := by
  rw [BitVec.toNat_add, BitVec.toNat_shiftLeft, toNat_toInt, toNat_toInt, Nat.shiftLeft_eq]
  omega

namespace IeTime56

variable (value : Vector Octet LENGTH)

theorem getV0V1Short_toNat :
    (getV0V1Short value).toNat = value[0].toNat + 256 * value[1].toNat :=
  toNat_add_shiftLeft value[0] value[1]

theorem getV0V1Short_nonneg : Nonneg (getV0V1Short value) := by
  rw [Nonneg, getV0V1Short_toNat]
  omega

theorem getSecond_toNat : (getSecond value).toNat = (getV0V1Short value).toNat / 1000 :=
  (getV0V1Short_nonneg value).toNat_sdiv (y := 1000) (by decide)

theorem getMillisecond_toNat : (getMillisecond value).toNat = (getV0V1Short value).toNat % 1000 :=
  (getV0V1Short_nonneg value).toNat_srem (y := 1000) (by decide)

theorem getSecond_getMillisecond :
    getSecond value * 1000 + getMillisecond value = getV0V1Short value := by
  have inside := getV0V1Short_toNat value
  apply BitVec.eq_of_toNat_eq
  rw [BitVec.toNat_add, BitVec.toNat_mul, getSecond_toNat, getMillisecond_toNat]
  have thousand : (1000 : JInt).toNat = 1000 := rfl
  rw [thousand]
  omega

end IeTime56

namespace IeTime24

private theorem minute_iff : ∀ b : Octet, widen b * 60000 = (widen b &&& 0x3f) * 60000 ↔ b.toNat < 64 := by
  -- Minute octet by minute octet: only without the two bits above the minutes it counts for them.
  decide +kernel

/-- The octets of an `int` of less than an hour stand for it. -/
theorem getTimeInMs_ofTimeInMs (timeInMs : JInt) (least : 0 ≤ timeInMs.toInt)
    (most : timeInMs.toInt ≤ 3599999) : getTimeInMs (ofTimeInMs timeInMs) = timeInMs := by
  have nonneg : Nonneg timeInMs := nonneg_of_toInt least
  rw [nonneg.toInt] at most
  have minute : (60000 : JInt).toNat = 60000 := rfl
  have ms := nonneg.toNat_srem (y := 60000) (by decide)
  have minutes := nonneg.toNat_sdiv (y := 60000) (by decide)
  rw [minute] at ms minutes
  have msNonneg : Nonneg (timeInMs.srem 60000) := by
    rw [Nonneg]
    omega
  have high := msNonneg.toNat_sshiftRight 8
  have octet : (toByte (timeInMs.sdiv 60000)).toNat = timeInMs.toNat / 60000 := by
    rw [toNat_toByte]
    omega
  have third : (widen (toByte (timeInMs.sdiv 60000))).toNat = timeInMs.toNat / 60000 := by
    rw [toNat_widen _ (by omega), octet]
  apply BitVec.eq_of_toNat_eq
  change (toInt (toByte (timeInMs.srem 60000)) + (toInt (toByte ((timeInMs.srem 60000).sshiftRight 8)) <<< 8) +
    widen (toByte (timeInMs.sdiv 60000)) * 60000).toNat = timeInMs.toNat
  rw [BitVec.toNat_add, BitVec.toNat_mul, toNat_add_shiftLeft, third, toNat_toByte, toNat_toByte, minute,
    high, ms]
  have small : timeInMs.toNat / 60000 * 60000 % 2 ^ 32 = timeInMs.toNat / 60000 * 60000 :=
    Nat.mod_eq_of_lt (by omega)
  have second : timeInMs.toNat % 60000 / 2 ^ 8 % 256 = timeInMs.toNat % 60000 / 2 ^ 8 :=
    Nat.mod_eq_of_lt (by omega)
  have whole : timeInMs.toNat % 60000 % 256 + 256 * (timeInMs.toNat % 60000 / 2 ^ 8) +
      timeInMs.toNat / 60000 * 60000 = timeInMs.toNat := by omega
  rw [small, second, whole]
  exact Nat.mod_eq_of_lt timeInMs.isLt

end IeTime24

/-- What the three classes read from the octets of a time of seven: the shorter ones count the same
milliseconds as the fields of the long one. -/
structure ShortTimesAgree (octets : Vector Octet IeTime56.LENGTH) : Prop where
  time24 : ∃ time56 time24,
    ElementClass.ieTime56.decode octets.toList = .ok (.ieTime56 time56, []) ∧
      ElementClass.ieTime24.decode (octets.toList.take 3) = .ok (.ieTime24 time24, []) ∧
      IeTime24.getTimeInMs time24 = IeTime56.getMinute time56 * 60000 +
        IeTime56.getSecond time56 * 1000 + IeTime56.getMillisecond time56
  time16 : ∃ time56 time16,
    ElementClass.ieTime56.decode octets.toList = .ok (.ieTime56 time56, []) ∧
      ElementClass.ieTime16.decode (octets.toList.take 2) = .ok (.ieTime16 time16, []) ∧
      IeTime16.getTimeInMs time16 =
        IeTime56.getSecond time56 * 1000 + IeTime56.getMillisecond time56

/-- Encoded and decoded, the time of three octets for `m` milliseconds still reports them. -/
def TimeInMsComesBack (m : JInt) : Prop :=
  ∃ octets time24,
    (∀ n, Lays (InformationElement.encode (n := n) (.ieTime24 (IeTime24.ofTimeInMs m))) octets) ∧
      ElementClass.ieTime24.decode octets = .ok (.ieTime24 time24, []) ∧ IeTime24.getTimeInMs time24 = m

private theorem decode_time {n : Nat} (f : Vector Octet n → InformationElement) (value : Vector Octet n) :
    (f <$> readTime n) value.toList = .ok (f value, []) := by
  have read := (Reader.Yields.vector endOfStream value).map f []
  rwa [List.append_nil] at read

theorem time24_comesBack (m : JInt) (least : 0 ≤ m.toInt) (most : m.toInt ≤ 3599999) :
    TimeInMsComesBack m :=
  ⟨_, IeTime24.ofTimeInMs m, fun _ => InformationElement.lays_encode _ trivial,
    decode_time .ieTime24 (IeTime24.ofTimeInMs m), IeTime24.getTimeInMs_ofTimeInMs m least most⟩

section Prefixes

variable (octets : Vector Octet IeTime56.LENGTH)

theorem decode_time56 : ElementClass.ieTime56.decode octets.toList = .ok (.ieTime56 octets, []) :=
  decode_time .ieTime56 octets

private theorem decode_time24 : ElementClass.ieTime24.decode (octets.toList.take 3) =
    .ok (.ieTime24 #v[octets[0], octets[1], octets[2]], []) := by
  have three : octets.toList.take 3 = (#v[octets[0], octets[1], octets[2]] : Vector Octet 3).toList := by
    refine List.ext_getElem (by simp [IeTime56.LENGTH]) fun i _ inside => ?_
    rw [Vector.length_toList] at inside
    match i, inside with
    | 0, _ | 1, _ | 2, _ => simp
  rw [three]
  exact decode_time .ieTime24 _

private theorem decode_time16 : ElementClass.ieTime16.decode (octets.toList.take 2) =
    .ok (.ieTime16 #v[octets[0], octets[1]], []) := by
  have two : octets.toList.take 2 = (#v[octets[0], octets[1]] : Vector Octet 2).toList := by
    refine List.ext_getElem (by simp [IeTime56.LENGTH]) fun i _ inside => ?_
    rw [Vector.length_toList] at inside
    match i, inside with
    | 0, _ | 1, _ => simp
  rw [two]
  exact decode_time .ieTime16 _

end Prefixes

private theorem time24_iff (octets : Vector Octet IeTime56.LENGTH) :
    IeTime24.getTimeInMs #v[octets[0], octets[1], octets[2]] = IeTime56.getMinute octets * 60000 +
        IeTime56.getSecond octets * 1000 + IeTime56.getMillisecond octets ↔ octets[2].toNat < 64 := by
  have left : IeTime24.getTimeInMs #v[octets[0], octets[1], octets[2]] =
      IeTime56.getV0V1Short octets + widen octets[2] * 60000 := rfl
  rw [left, BitVec.add_assoc, IeTime56.getSecond_getMillisecond, BitVec.add_comm, BitVec.add_left_inj]
  exact IeTime24.minute_iff octets[2]

/-- The minutes of the short time are those of the long one where no flag stands above them; the
rest always agrees. -/
theorem shortTimesAgree_iff (octets : Vector Octet IeTime56.LENGTH) :
    (ShortTimesAgree octets ∧ ∀ m : JInt, 0 ≤ m.toInt → m.toInt ≤ 3599999 → TimeInMsComesBack m) ↔
      octets[2].toNat < 64 := by
  constructor
  · rintro ⟨agree, _⟩
    obtain ⟨time56, time24, long, short, same⟩ := agree.time24
    cases (decode_time56 octets).symm.trans long
    cases (decode_time24 octets).symm.trans short
    exact (time24_iff octets).mp same
  · intro plain
    refine ⟨⟨?_, ?_⟩, time24_comesBack⟩
    · exact ⟨octets, _, decode_time56 octets, decode_time24 octets, (time24_iff octets).mpr plain⟩
    · exact ⟨octets, _, decode_time56 octets, decode_time16 octets,
        (IeTime56.getSecond_getMillisecond octets).symm⟩

/-- An invalid time at minute 5 becomes a negative number of milliseconds. -/
theorem not_shortTimesAgree :
    ¬ ((∀ octets : Vector Octet IeTime56.LENGTH, ShortTimesAgree octets) ∧
      ∀ m : JInt, 0 ≤ m.toInt → m.toInt ≤ 3599999 → TimeInMsComesBack m) := by
  rintro ⟨agree, _⟩
  obtain ⟨time56, time24, long, short, same⟩ := (agree #v[0, 0, 0x85, 0, 0, 0, 0]).time24
  cases (decode_time56 _).symm.trans long
  cases (decode_time24 _).symm.trans short
  exact absurd same (by decide)

end J60870
