import J60870.Ie.InformationElement
import J60870.Lib.Gregorian

namespace J60870

open Lib Gregorian

/-- A Java `long`. -/
abbrev JLong := BitVec 64

/-- An octet as the operand of an arithmetic operation: a Java `byte` is signed. -/
def widen (b : Octet) : JInt := b.signExtend 32

/-- A `java.util.TimeZone` of a fixed offset. -/
structure TimeZone where
  rawOffset : JInt

def TimeZone.inDaylightTime (_ : TimeZone) (_ : JLong) : Bool := false

/-- The fields of a `java.util.Calendar`, with its time and its zone. -/
structure Calendar where
  timeZone : TimeZone
  time : JLong
  /-- of the era -/
  year : JInt
  /-- counted from 0 -/
  month : JInt
  dayOfMonth : JInt
  /-- counted from 1, for Sunday -/
  dayOfWeek : JInt
  hourOfDay : JInt
  minute : JInt
  second : JInt
  millisecond : JInt

namespace Calendar

/-- The civil fields of a timestamp in a time zone. -/
def civil (timeZone : TimeZone) (timestamp : JLong) : Moment :=
  Moment.ofMillis (timestamp.toInt + timeZone.rawOffset.toInt)

/-- A calendar of the time zone, after `setTimeInMillis`. -/
def setTimeInMillis (timeZone : TimeZone) (timestamp : JLong) : Calendar :=
  let civil := civil timeZone timestamp
  { timeZone
    time := timestamp
    year := BitVec.ofInt 32 (if 0 < civil.date.year then civil.date.year else 1 - civil.date.year)
    month := BitVec.ofNat 32 (civil.date.month - 1)
    dayOfMonth := BitVec.ofNat 32 civil.date.day
    dayOfWeek := BitVec.ofNat 32 (civil.date.dayOfWeek % 7 + 1)
    hourOfDay := BitVec.ofNat 32 civil.hour
    minute := BitVec.ofNat 32 civil.minute
    second := BitVec.ofNat 32 civil.second
    millisecond := BitVec.ofNat 32 civil.millisecond }

/-- `getTimeInMillis` after the fields are set. The calendar is lenient: a field out of its range
counts on into the next. -/
def getTimeInMillis (timeZone : TimeZone) (dstOffset year month dayOfMonth hourOfDay minute second
    millisecond : JInt) : JLong :=
  BitVec.ofInt 64 (lenientMillis year.toInt month.toInt dayOfMonth.toInt hourOfDay.toInt minute.toInt
    second.toInt millisecond.toInt - timeZone.rawOffset.toInt - dstOffset.toInt)

end Calendar

namespace IeTime16

def ofTimeInMs (timeInMs : JInt) : Vector Octet 2 :=
  let ms := timeInMs.srem 60000
  #v[toByte ms, toByte (ms.sshiftRight 8)]

def getTimeInMs (value : Vector Octet 2) : JInt := toInt value[0] + (toInt value[1] <<< 8)

end IeTime16

namespace IeTime24

def ofTimeInMs (timeInMs : JInt) : Vector Octet 3 :=
  let ms := timeInMs.srem 60000
  #v[toByte ms, toByte (ms.sshiftRight 8), toByte (timeInMs.sdiv 60000)]

def getTimeInMs (value : Vector Octet 3) : JInt :=
  -- the minute octet is taken as it is, with its sign
  toInt value[0] + (toInt value[1] <<< 8) + widen value[2] * 60000

end IeTime24

namespace IeTime56

abbrev LENGTH : Nat := 7

def hourOfTheDay (calendar : Calendar) : Octet :=
  let hod := calendar.hourOfDay
  toByte (if calendar.timeZone.inDaylightTime calendar.time then hod ||| 0x80 else hod)

def minuteFor (invalid : Bool) (calendar : Calendar) : Octet :=
  let min := calendar.minute
  toByte (if invalid then min ||| 0x80 else min)

/-- `new IeTime56(long, TimeZone, boolean)` -/
def ofTimestamp (timestamp : JLong) (timeZone : TimeZone) (invalid : Bool) : Vector Octet LENGTH :=
  let calendar := Calendar.setTimeInMillis timeZone timestamp
  let ms : BitVec 16 := (calendar.millisecond + 1000 * calendar.second).setWidth 16
  let day := toByte (calendar.dayOfMonth + (((calendar.dayOfWeek + 5).srem 7 + 1) <<< 5))
  #v[ms.setWidth 8, (ms.sshiftRight 8).setWidth 8, minuteFor invalid calendar, hourOfTheDay calendar,
    day, toByte (calendar.month + 1), toByte (calendar.year.srem 100)]

/-- `new IeTime56(byte[])`: `Arrays.copyOf` cuts off, or fills up with zeros. -/
def ofBytes (value : List Octet) : Vector Octet LENGTH := Vector.ofFn fun i => value.getD i 0

variable (value : Vector Octet LENGTH)

def getV0V1Short : JInt := toInt value[0] + (toInt value[1] <<< 8)

def getMillisecond : JInt := (getV0V1Short value).srem 1000

def getSecond : JInt := (getV0V1Short value).sdiv 1000

def getMinute : JInt := widen value[2] &&& 0x3f

def getHour : JInt := widen value[3] &&& 0x1f

def getDayOfWeek : JInt := (widen value[4] &&& 0xe0).sshiftRight 5

def getDayOfMonth : JInt := widen value[4] &&& 0x1f

def getMonth : JInt := widen value[5] &&& 0x0f

def getYear : JInt := widen value[6] &&& 0x7f

def flagIsSet (arrIndex : Fin LENGTH) : Bool := hasMask (widen value[arrIndex]) 0x80

def isSummerTime : Bool := flagIsSet value 3

def isInvalid : Bool := flagIsSet value 2

/-- The century `getTimestamp` adds to the year in the century. -/
def centuryFor (startOfCentury : JInt) : JInt :=
  let century := startOfCentury.sdiv 100 * 100
  -- the whole octet is compared, not the seven bits of the year
  if (widen value[6]).slt (startOfCentury.srem 100) then century + 100 else century

/-- The year `getTimestamp` hands to the calendar. -/
def yearFor (startOfCentury : JInt) : JInt := getYear value + centuryFor value startOfCentury

def getTimestamp (startOfCentury : JInt) (timeZone : TimeZone) : JLong :=
  Calendar.getTimeInMillis timeZone (if isSummerTime value then 3600000 else 0)
    (yearFor value startOfCentury) (getMonth value - 1) (getDayOfMonth value) (getHour value)
    (getMinute value) (getSecond value) (getMillisecond value)

end IeTime56

end J60870
