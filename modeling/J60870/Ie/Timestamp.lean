import J60870.Ie.Century

namespace J60870.IeTime56

open Lib Gregorian

/-- The octets of a moment, field by field. -/
structure Spells (value : Vector Octet LENGTH) (civil : Moment) (invalid : Bool) : Prop where
  millisecond : (getMillisecond value).toNat = civil.millisecond
  second : (getSecond value).toNat = civil.second
  minute : (getMinute value).toNat = civil.minute
  hour : (getHour value).toNat = civil.hour
  dayOfMonth : (getDayOfMonth value).toNat = civil.date.day
  dayOfWeek : (getDayOfWeek value).toNat = civil.date.dayOfWeek
  month : (getMonth value).toNat = civil.date.month
  year : ((getYear value).toNat : Int) = civil.date.year % 100
  invalid : isInvalid value = invalid
  winter : isSummerTime value = false
  /-- the reserved bit of the year octet is clear -/
  plain : value[6].toNat < 128

section Octets

private theorem minute_read : ∀ (minute : Fin 60) (invalid : Bool),
    let octet := toByte (if invalid then BitVec.ofNat 32 minute ||| 0x80 else BitVec.ofNat 32 minute)
    (widen octet &&& 0x3f).toNat = minute ∧ hasMask (widen octet) 0x80 = invalid := by
  decide +kernel

private theorem hour_read : ∀ hour : Fin 24,
    (widen (toByte (BitVec.ofNat 32 hour)) &&& 0x1f).toNat = hour ∧
      hasMask (widen (toByte (BitVec.ofNat 32 hour))) 0x80 = false := by
  decide +kernel

private theorem day_read : ∀ (day : Fin 32) (weekday : Fin 7),
    let octet := toByte (BitVec.ofNat 32 day +
      (((BitVec.ofNat 32 ((weekday + 1) % 7 + 1) + 5 : JInt).srem 7 + 1) <<< 5))
    (widen octet &&& 0x1f).toNat = day ∧ ((widen octet &&& 0xe0).sshiftRight 5).toNat = weekday + 1 := by
  -- The weekday is renumbered, 1 for Monday instead of Sunday.
  decide +kernel

private theorem month_read : ∀ month : Fin 12,
    (widen (toByte (BitVec.ofNat 32 month + 1)) &&& 0x0f).toNat = month + 1 := by
  decide +kernel

private theorem year_read : ∀ year : Fin 100,
    (widen (toByte (BitVec.ofNat 32 year)) &&& 0x7f).toNat = year ∧
      (toByte (BitVec.ofNat 32 year)).toNat < 128 := by
  decide +kernel

private theorem short_read (ms : JInt) (small : ms.toNat < 65536) :
    (toInt ((ms.setWidth 16).setWidth 8) + (toInt (((ms.setWidth 16).sshiftRight 8).setWidth 8) <<< 8)).toNat =
      ms.toNat := by
  have high : (((ms.setWidth 16).sshiftRight 8).setWidth 8).toNat = ms.toNat / 256 := by
    rw [setWidth_sshiftRight (ms.setWidth 16) 1 (by decide), octet, BitVec.extractLsb'_toNat,
      BitVec.toNat_setWidth, Nat.shiftRight_eq_div_pow]
    omega
  have low : ((ms.setWidth 16).setWidth 8).toNat = ms.toNat % 256 := by
    rw [BitVec.toNat_setWidth, BitVec.toNat_setWidth]
    omega
  rw [toNat_add_shiftLeft, high, low]
  omega

end Octets

section Fields

variable {timestamp : JLong} {timeZone : TimeZone}

theorem getV0V1Short_ofTimestamp (timestamp : JLong) (timeZone : TimeZone) (invalid : Bool) :
    (getV0V1Short (ofTimestamp timestamp timeZone invalid)).toNat =
      (Calendar.civil timeZone timestamp).millisecond +
        1000 * (Calendar.civil timeZone timestamp).second := by
  have millisecond := (Calendar.civil timeZone timestamp).millisecond_lt
  have second := (Calendar.civil timeZone timestamp).second_lt
  have ms : (BitVec.ofNat 32 (Calendar.civil timeZone timestamp).millisecond +
      1000 * BitVec.ofNat 32 (Calendar.civil timeZone timestamp).second).toNat =
        (Calendar.civil timeZone timestamp).millisecond +
          1000 * (Calendar.civil timeZone timestamp).second := by
    have thousand : (1000 : JInt).toNat = 1000 := rfl
    rw [BitVec.toNat_add, BitVec.toNat_mul, BitVec.toNat_ofNat, BitVec.toNat_ofNat, thousand]
    omega
  have small : (BitVec.ofNat 32 (Calendar.civil timeZone timestamp).millisecond +
      1000 * BitVec.ofNat 32 (Calendar.civil timeZone timestamp).second).toNat < 65536 := by
    rw [ms]
    omega
  exact (short_read _ small).trans ms

private theorem year_field (positive : 1 ≤ (Calendar.civil timeZone timestamp).date.year)
    (small : (Calendar.civil timeZone timestamp).date.year < 2147483648) :
    (Calendar.setTimeInMillis timeZone timestamp).year.srem 100 =
      BitVec.ofNat 32 ((Calendar.civil timeZone timestamp).date.year % 100).toNat := by
  have field : (Calendar.setTimeInMillis timeZone timestamp).year =
      BitVec.ofInt 32 (Calendar.civil timeZone timestamp).date.year := by
    rw [Calendar.setTimeInMillis, if_pos (by omega)]
  have value : (BitVec.ofInt 32 (Calendar.civil timeZone timestamp).date.year).toNat =
      (Calendar.civil timeZone timestamp).date.year.toNat := by
    rw [BitVec.toNat_ofInt]
    omega
  have nonneg : Nonneg (BitVec.ofInt 32 (Calendar.civil timeZone timestamp).date.year) := by
    rw [Nonneg, value]
    omega
  have hundred : (100 : JInt).toNat = 100 := rfl
  apply BitVec.eq_of_toNat_eq
  rw [field, nonneg.toNat_srem (by decide), value, hundred, BitVec.toNat_ofNat]
  omega

/-- Every octet is read back as the fields it is made of. -/
theorem spells_ofTimestamp (invalid : Bool)
    (positive : 1 ≤ (Calendar.civil timeZone timestamp).date.year)
    (small : (Calendar.civil timeZone timestamp).date.year < 2147483648) :
    Spells (ofTimestamp timestamp timeZone invalid) (Calendar.civil timeZone timestamp) invalid := by
  have parts := getV0V1Short_ofTimestamp timestamp timeZone invalid
  have millisecond := (Calendar.civil timeZone timestamp).millisecond_lt
  obtain ⟨minute, marked⟩ := minute_read ⟨_, (Calendar.civil timeZone timestamp).minute_lt⟩ invalid
  obtain ⟨hour, unmarked⟩ := hour_read ⟨_, (Calendar.civil timeZone timestamp).hour_lt⟩
  obtain ⟨day, weekday⟩ := day_read ⟨_, Nat.lt_succ_of_le (Calendar.civil timeZone timestamp).date.day_le⟩
    ⟨((Calendar.civil timeZone timestamp).date.toDays % 7).toNat, by omega⟩
  have first := (Calendar.civil timeZone timestamp).date.month_pos
  have last := (Calendar.civil timeZone timestamp).date.month_le
  have month := month_read ⟨(Calendar.civil timeZone timestamp).date.month - 1, by omega⟩
  have octet : (ofTimestamp timestamp timeZone invalid)[6] =
      toByte (BitVec.ofNat 32 ((Calendar.civil timeZone timestamp).date.year % 100).toNat) :=
    congrArg toByte (year_field positive small)
  obtain ⟨year, plain⟩ := year_read ⟨((Calendar.civil timeZone timestamp).date.year % 100).toNat, by omega⟩
  refine ⟨?_, ?_, minute, hour, ?_, ?_, ?_, ?_, marked, unmarked, ?_⟩
  · rw [getMillisecond_toNat, parts]
    omega
  · rw [getSecond_toNat, parts]
    omega
  · exact day
  · exact weekday
  · exact month.trans (Nat.sub_add_cancel first)
  · rw [getYear, octet, year]
    exact Int.toNat_of_nonneg (by omega)
  · rw [octet]
    exact plain

end Fields

section GetTimestamp

variable {value : Vector Octet LENGTH} {civil : Moment} {invalid : Bool} {startOfCentury : JInt}

theorem toInt_of_toNat {v : JInt} {n : Nat} (same : v.toNat = n) (small : n < 2147483648) : v.toInt = n := by
  rw [Nonneg.toInt (by rw [Nonneg]; omega), same]

/-- From the fields of a moment, in the century that starts there, its milliseconds are found. -/
theorem Spells.getTimestamp (spells : Spells value civil invalid) (timeZone : TimeZone)
    (nonneg : Nonneg startOfCentury) (least : startOfCentury.toNat ≤ civil.date.year)
    (most : civil.date.year ≤ startOfCentury.toNat + 99) (small : civil.date.year < 2147483648) :
    getTimestamp value startOfCentury timeZone =
      BitVec.ofInt 64 (civil.toMillis - timeZone.rawOffset.toInt) := by
  have year : (yearFor value startOfCentury).toInt = civil.date.year := by
    have digits : civil.date.year.toNat % 100 = (getYear value).toNat := by
      have same := spells.year
      omega
    have resolved : civil.date.year.toNat = resolvedYear (getYear value).toNat startOfCentury.toNat :=
      eq_resolvedYear (by omega) (by omega) digits
    have handed := (yearFor_of_plain nonneg spells.plain).trans resolved.symm
    rw [toInt_of_toNat handed (by omega)]
    omega
  have month : (getMonth value - 1).toInt = civil.date.month - 1 := by
    have first := civil.date.month_pos
    have last := civil.date.month_le
    have fewer : (getMonth value - 1).toNat = civil.date.month - 1 := by
      rw [BitVec.toNat_sub, spells.month]
      have one : (1 : JInt).toNat = 1 := rfl
      rw [one]
      omega
    rw [toInt_of_toNat fewer (by omega)]
    omega
  have days := civil.date.day_le
  have hours := civil.hour_lt
  have minutes := civil.minute_lt
  have seconds := civil.second_lt
  have milliseconds := civil.millisecond_lt
  have day := toInt_of_toNat spells.dayOfMonth (by omega)
  have hour := toInt_of_toNat spells.hour (by omega)
  have minute := toInt_of_toNat spells.minute (by omega)
  have second := toInt_of_toNat spells.second (by omega)
  have millisecond := toInt_of_toNat spells.millisecond (by omega)
  have standard : (0 : JInt).toInt = 0 := rfl
  rw [IeTime56.getTimestamp, spells.winter, Calendar.getTimeInMillis, year, month, day, hour, minute, second,
    millisecond, civil.lenientMillis_eq, if_neg Bool.false_ne_true, standard, Int.sub_zero]

/-- The civil fields of a timestamp are those of the one moment with its milliseconds. -/
theorem civil_eq_iff {timestamp : JLong} {timeZone : TimeZone} : Calendar.civil timeZone timestamp = civil ↔
    civil.toMillis = timestamp.toInt + timeZone.rawOffset.toInt :=
  Moment.equivMillis.symm_apply_eq.trans eq_comm

theorem civil_year_lt (timestamp : JLong) (timeZone : TimeZone) :
    (Calendar.civil timeZone timestamp).date.year < 2147483648 := by
  have time := timestamp.toInt_lt
  have offset := timeZone.rawOffset.toInt_lt
  have started := (yearOf_spec ((timestamp.toInt + timeZone.rawOffset.toInt) / 86400000 +
    Date.epoch.toDays)).1
  rw [yearStart, Date.epoch_toDays] at started
  change yearOf ((timestamp.toInt + timeZone.rawOffset.toInt) / 86400000 + Date.epoch.toDays) < _
  rw [Date.epoch_toDays]
  omega

/-- Whoever rebuilds the time from the seven octets, from a byte array or out of a stream, gets the
timestamp and its civil fields. -/
structure Restored (value : Vector Octet LENGTH) (timestamp : JLong) (timeZone : TimeZone) (invalid : Bool)
    (startOfCentury : JInt) : Prop where
  back : getTimestamp value startOfCentury timeZone = timestamp
  fields : Spells value (Calendar.civil timeZone timestamp) invalid

theorem ofTimestamp_restored {timestamp : JLong} {timeZone : TimeZone} (invalid : Bool)
    (least : 1583 ≤ startOfCentury.toInt)
    (started : startOfCentury.toInt ≤ (Calendar.civil timeZone timestamp).date.year)
    (inside : (Calendar.civil timeZone timestamp).date.year ≤ startOfCentury.toInt + 99) :
    Restored (ofTimestamp timestamp timeZone invalid) timestamp timeZone invalid startOfCentury := by
  have nonneg : Nonneg startOfCentury := nonneg_of_toInt (by omega)
  rw [nonneg.toInt] at least started inside
  have small := civil_year_lt timestamp timeZone
  have spells := spells_ofTimestamp invalid (by omega) small
  refine ⟨?_, spells⟩
  rw [spells.getTimestamp timeZone nonneg started inside small, civil_eq_iff.mp rfl, Int.add_sub_cancel,
    BitVec.ofInt_toInt]

theorem ofBytes_toList (value : Vector Octet LENGTH) : ofBytes value.toList = value := by
  ext1 i _
  simp [ofBytes]

/-- Encoded, the time is seven octets, and what is rebuilt from these has the timestamp, the flag
and the civil fields it was made from. -/
theorem timestamp_roundTrip {timestamp : JLong} {timeZone : TimeZone} (invalid : Bool)
    (least : 1583 ≤ startOfCentury.toInt)
    (started : startOfCentury.toInt ≤ (Calendar.civil timeZone timestamp).date.year)
    (inside : (Calendar.civil timeZone timestamp).date.year ≤ startOfCentury.toInt + 99) :
    ∃ octets : List Octet, octets.length = 7 ∧
      (∀ n, Lays (InformationElement.encode (n := n) (.ieTime56 (ofTimestamp timestamp timeZone invalid)))
        octets) ∧
      Restored (ofBytes octets) timestamp timeZone invalid startOfCentury ∧
      ∃ received, ElementClass.ieTime56.decode octets = .ok (.ieTime56 received, []) ∧
        Restored received timestamp timeZone invalid startOfCentury := by
  have restored := ofTimestamp_restored invalid least started inside
  refine ⟨(ofTimestamp timestamp timeZone invalid).toList, Vector.length_toList,
    fun n => InformationElement.lays_encode _ trivial, ?_, _, decode_time56 _, restored⟩
  rw [ofBytes_toList]
  exact restored

/-- The last millisecond of February 2024, an hour to the east. -/
theorem timestamp_roundTrip_sample :
    ∃ received, Restored received 1709247599999 ⟨3600000⟩ true 1970 ∧
      (getDayOfMonth received).toNat = 29 := by
  have started : (1970 : JInt).toInt ≤ (Calendar.civil ⟨3600000⟩ 1709247599999).date.year := by decide
  have inside : (Calendar.civil ⟨3600000⟩ 1709247599999).date.year ≤ (1970 : JInt).toInt + 99 := by decide
  obtain ⟨_, _, _, restored, _⟩ := timestamp_roundTrip true (by decide) started inside
  exact ⟨_, restored, restored.fields.dayOfMonth.trans (by decide)⟩

end GetTimestamp

end J60870.IeTime56
