import Telemetry.Text.Bytes
import Telemetry.Unicode.WhiteSpace

/-!
# Timestamps

An instant is kept as its date and time in UTC. `Timestamp.parse` reads RFC 3339 text leniently:
blanks may stand between the parts, numbers may be shorter than usual, a blank may stand for the
`T`, years may carry a sign, and `UTC` may stand for the offset. A sixtieth second is kept as it is.
`Timestamp.text` writes the canonical form.
-/

namespace Telemetry

/-- Why a text is not a timestamp. -/
inductive TimestampFault where
  | tooShort
  | invalid
  | outOfRange
  | trailing
  | impossible
  deriving DecidableEq, Repr

/-- The wording of a fault. -/
def TimestampFault.message : TimestampFault → String
  | .tooShort => "premature end of input"
  | .invalid => "input contains invalid characters"
  | .outOfRange => "input is out of range"
  | .trailing => "trailing input"
  | .impossible => "no possible date and time matching input"

/-- A date and time in UTC. The second 60 is a leap second. -/
structure Timestamp where
  year : Int
  month : Nat
  day : Nat
  hour : Nat
  minute : Nat
  second : Nat
  nanosecond : Nat
  deriving DecidableEq, Repr

namespace Timestamp

/-! ## Calendar -/

/-- The first and the last year of the calendar. -/
def minYear : Int := -262143

/-- The last year of the calendar. -/
def maxYear : Int := 262142

/-- Whether the year has a leap day. -/
def isLeapYear (year : Int) : Bool := year % 4 = 0 && (year % 100 ≠ 0 || year % 400 = 0)

/-- The number of days of a month. -/
def daysIn (year : Int) (month : Nat) : Nat :=
  if month = 2 then (if isLeapYear year then 29 else 28)
  else if month = 4 ∨ month = 6 ∨ month = 9 ∨ month = 11 then 30 else 31

/-- A date as year, month and day. -/
abbrev Date := Int × Nat × Nat

/-- The day after a date, if the calendar has one. -/
def nextDay? : Date → Option Date
  | (year, month, day) =>
    if day < daysIn year month then some (year, month, day + 1)
    else if month < 12 then some (year, month + 1, 1)
    else if year < maxYear then some (year + 1, 1, 1)
    else none

/-- The day before a date, if the calendar has one. -/
def previousDay? : Date → Option Date
  | (year, month, day) =>
    if 1 < day then some (year, month, day - 1)
    else if 1 < month then some (year, month - 1, daysIn year (month - 1))
    else if minYear < year then some (year - 1, 12, 31)
    else none

/-- The number of seconds of a day. -/
def secondsPerDay : Nat := 86400

/-! ## Reading -/

/-- Drops blanks in front. -/
def trimStart (text : List Char) : List Char := text.dropWhile Unicode.isBlank

/-- Reads a number of one to `width` digits. -/
def readNumber (width : Nat) (text : List Char) : Except TimestampFault (Nat × List Char) :=
  let digits := (text.take width).takeWhile Char.isDigit
  match text, digits with
  | [], _ => .error .tooShort
  | _, [] => .error .invalid
  | _, _ =>
    .ok (digits.foldl (fun n c => 10 * n + (c.toNat - 48)) 0, text.drop digits.length)

/-- Reads a number of at most two digits with blanks before it, which has to lie within bounds. -/
def readField (lo hi : Nat) (text : List Char) : Except TimestampFault (Nat × List Char) := do
  let (n, rest) ← readNumber 2 (trimStart text)
  if lo ≤ n ∧ n ≤ hi then return (n, rest) else .error .outOfRange

/-- Reads a separator with blanks before it. -/
def readSeparator (c : Char) (text : List Char) : Except TimestampFault (List Char) :=
  match trimStart text with
  | [] => .error .tooShort
  | d :: rest => if d = c then .ok rest else .error .invalid

/-- The greatest number that a year may be written as. -/
def maxWrittenYear : Nat := 0x7FFFFFFF

/-- Reads a year: four digits at most, or any number of them after a sign. -/
def readYear (text : List Char) : Except TimestampFault (Int × List Char) := do
  match trimStart text with
  | '-' :: rest =>
    let (n, left) ← readNumber rest.length rest
    if n ≤ maxWrittenYear + 1 then return (-(n : Int), left) else .error .outOfRange
  | '+' :: rest =>
    let (n, left) ← readNumber rest.length rest
    if n ≤ maxWrittenYear then return (n, left) else .error .outOfRange
  | rest =>
    let (n, left) ← readNumber 4 rest
    return (n, left)

/-- Reads the fraction of a second in nanoseconds, if there is one; digits after the ninth do not
count. -/
def readFraction (text : List Char) : Except TimestampFault (Nat × List Char) :=
  match text with
  | '.' :: rest => do
    let (n, left) ← readNumber 9 rest
    return (n * Nat.pow 10 (9 - (rest.length - left.length)), left.dropWhile Char.isDigit)
  | _ => .ok (0, text)

/-- Reads two digits, the first of which is at most `most`. -/
def readTwoDigits (most : Char) (text : List Char) : Except TimestampFault (Nat × List Char) :=
  match text with
  | a :: b :: rest =>
    if a.isDigit && b.isDigit then
      if a ≤ most then .ok (10 * (a.toNat - 48) + (b.toNat - 48), rest) else .error .outOfRange
    else .error .invalid
  | _ => if Text.byteLength text < 2 then .error .tooShort else .error .invalid

/-- Reads an offset from UTC in seconds: `Z`, `UTC`, or a sign with hours and minutes. -/
def readOffset (text : List Char) : Except TimestampFault (Int × List Char) := do
  match text with
  | [] => .error .tooShort
  | c :: rest =>
    if ((c :: rest).take 3).map Char.toUpper = ['U', 'T', 'C'] then return (0, rest.drop 2)
    else if c = 'Z' ∨ c = 'z' then return (0, rest)
    else if c = '+' ∨ c = '-' ∨ c = '−' then
      let (hours, rest) ← readTwoDigits '9' rest
      let (minutes, rest) ← readTwoDigits '5' (rest.dropWhile (fun c => c = ':' || Unicode.isBlank c))
      let seconds : Int := hours * 3600 + minutes * 60
      return (if c = '+' then seconds else -seconds, rest)
    else .error .invalid

/-- The instant of a local date and time at an offset from UTC in seconds. -/
def atOffset (date : Date) (hour minute second nanosecond : Nat) (offset : Int) :
    Except TimestampFault Timestamp :=
  -- a leap second keeps its place in the minute: offsets are whole minutes
  let leap := second - min second 59
  let seconds : Int := (hour * 3600 + minute * 60 + min second 59 : Nat) - offset
  let shifted :=
    if seconds < 0 then (previousDay? date).map (·, seconds + secondsPerDay)
    else if (secondsPerDay : Int) ≤ seconds then (nextDay? date).map (·, seconds - secondsPerDay)
    else some (date, seconds)
  match shifted with
  | none => .error .impossible
  | some ((year, month, day), seconds) =>
    let s := seconds.toNat
    .ok ⟨year, month, day, s / 3600, s / 60 % 60, s % 60 + leap, nanosecond⟩

/-- Reads a timestamp. -/
def parse (text : List Char) : Except TimestampFault Timestamp := do
  let (year, rest) ← readYear text
  let rest ← readSeparator '-' rest
  let (month, rest) ← readField 1 12 rest
  let rest ← readSeparator '-' rest
  let (day, rest) ← readField 1 31 rest
  let rest ← match rest with
    | [] => .error .tooShort
    | c :: rest => if c = 'T' ∨ c = 't' ∨ c = ' ' then .ok rest else .error .invalid
  let (hour, rest) ← readField 0 23 rest
  let rest ← readSeparator ':' rest
  let (minute, rest) ← readField 0 59 rest
  let rest ← readSeparator ':' rest
  let (second, rest) ← readField 0 60 rest
  let (nanosecond, rest) ← readFraction rest
  let (offset, rest) ← readOffset (trimStart rest)
  if !(trimStart rest).isEmpty then .error .trailing
  if year < minYear ∨ maxYear < year ∨ daysIn year month < day then .error .outOfRange
  if (secondsPerDay : Int) ≤ offset.natAbs then .error .outOfRange
  atOffset (year, month, day) hour minute second nanosecond offset

/-! ## Writing -/

/-- A number with zeros in front, up to the given width. -/
def padded (width n : Nat) : List Char :=
  let digits := Nat.toDigits 10 n
  List.replicate (width - digits.length) '0' ++ digits

/-- A year: four digits, with a sign outside of the years 0 to 9999. -/
def yearText (year : Int) : List Char :=
  if 0 ≤ year ∧ year ≤ 9999 then padded 4 year.toNat
  else (if year < 0 then '-' else '+') :: padded 4 year.natAbs

/-- The fraction of a second: none, or as many groups of three digits as it needs. -/
def fractionText (nanosecond : Nat) : List Char :=
  if nanosecond = 0 then []
  else if nanosecond % 1000000 = 0 then '.' :: padded 3 (nanosecond / 1000000)
  else if nanosecond % 1000 = 0 then '.' :: padded 6 (nanosecond / 1000)
  else '.' :: padded 9 nanosecond

/-- The canonical text of a timestamp, in UTC. -/
def text (t : Timestamp) : String :=
  String.ofList (yearText t.year ++ ['-'] ++ padded 2 t.month ++ ['-'] ++ padded 2 t.day ++ ['T'] ++
    padded 2 t.hour ++ [':'] ++ padded 2 t.minute ++ [':'] ++ padded 2 t.second ++
    fractionText t.nanosecond ++ ['Z'])

end Timestamp

end Telemetry
