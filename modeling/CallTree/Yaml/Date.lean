/-
# CallTree.Yaml.Date — dates in settings files.

A date is a year, a month and a day with hyphens between them. A time of day may follow, with parts
of a second and a time zone: a `Z`, or a shift in hours and possibly minutes. The spelling is read
first (`Spelling.read?`); whether the calendar and the clock have such a date is decided after that
(`Spelling.text`).
-/
import CallTree.Number.Reading
import CallTree.Text.Split

namespace CallTree.Yaml.Date

/-- Why there is no such date. -/
inductive Fault where
  | year
  | month
  | day
  | hour
  | minute
  | second
  /-- A time zone that is shifted by a day or more. -/
  | zone (seconds : Int)
  deriving DecidableEq, Repr

/-- The seconds of a day. -/
def daySeconds : Nat := 86400

/-- A span of time as a fault shows it: whole days, rounded down, and the seconds left. -/
def spanText (seconds : Int) : String :=
  let days := seconds.fdiv daySeconds
  let left := seconds.fmod daySeconds
  "datetime.timedelta(days=" ++ toString days ++
    (if left = 0 then "" else ", seconds=" ++ toString left) ++ ")"

/-- The sentence of a fault. -/
def Fault.message : Fault → String
  | .year => "year 0 is out of range"
  | .month => "month must be in 1..12"
  | .day => "day is out of range for month"
  | .hour => "hour must be in 0..23"
  | .minute => "minute must be in 0..59"
  | .second => "second must be in 0..59"
  | .zone seconds =>
    "offset must be a timedelta strictly between -timedelta(hours=24) and timedelta(hours=24), not "
      ++ spanText seconds ++ "."

/-- A time zone. -/
inductive Zone where
  | utc
  | shift (negative : Bool) (hours minutes : Nat)
  deriving DecidableEq, Repr

/-- A time of day as it is spelled. -/
structure Time where
  hour : Nat
  minute : Nat
  second : Nat
  /-- The digits of the parts of a second. -/
  fraction : List Char
  zone : Option Zone
  deriving DecidableEq, Repr

/-- A date as it is spelled. -/
structure Spelling where
  year : Nat
  month : Nat
  day : Nat
  time : Option Time
  deriving DecidableEq, Repr

/-! ## Reading -/

/-- The number of as many digits as given. -/
def number? (counts : List Nat) (cs : List Char) : Option Nat :=
  if counts.contains cs.length && cs.all Char.isDigit then some (Reading.natOf cs) else none

/-- Whether a character is a blank between the parts of a date. -/
def isBlank (c : Char) : Bool := c = ' ' || c = '\t'

/-- A time zone, which blanks may precede; there may be none. -/
def readZone? (cs : List Char) : Option (Option Zone) :=
  match cs.dropWhile isBlank with
  | [] => if cs.isEmpty then some none else none
  | ['Z'] => some (some .utc)
  | sign :: rest =>
    if sign = '+' || sign = '-' then
      match Text.split ':' rest with
      | [hours] => (number? [1, 2] hours).map fun h => some (.shift (sign = '-') h 0)
      | [hours, minutes] => do
        let h ← number? [1, 2] hours
        let m ← number? [2] minutes
        return some (.shift (sign = '-') h m)
      | _ => none
    else none

/-- A time of day. -/
def readTime? (cs : List Char) : Option Time := do
  let hour ← number? [1, 2] (cs.takeWhile Char.isDigit)
  match cs.dropWhile Char.isDigit with
  | ':' :: m1 :: m2 :: ':' :: s1 :: s2 :: rest =>
    let minute ← number? [2] [m1, m2]
    let second ← number? [2] [s1, s2]
    match rest with
    | '.' :: tail =>
      let zone ← readZone? (tail.dropWhile Char.isDigit)
      return { hour, minute, second, fraction := tail.takeWhile Char.isDigit, zone }
    | _ =>
      let zone ← readZone? rest
      return { hour, minute, second, fraction := [], zone }
  | _ => none

/-- **Read** the spelling of a date. -/
def Spelling.read? (cs : List Char) : Option Spelling := do
  let isDay (c : Char) : Bool := c.isDigit || c = '-'
  match Text.split '-' (cs.takeWhile isDay) with
  | [year, month, day] =>
    let date : Spelling :=
      { year := ← number? [4] year, month := ← number? [1, 2] month, day := ← number? [1, 2] day
        time := none }
    match cs.dropWhile isDay with
    | [] => return date
    | mark :: rest =>
      if mark = 'T' || mark = 't' then return { date with time := some (← readTime? rest) }
      else if isBlank mark then
        return { date with time := some (← readTime? (rest.dropWhile isBlank)) }
      else none
  | _ => none

/-- Whether a text is taken for a date unless it is in quotes: without a time, it has two digits for
the month and two for the day. -/
def isSpelled (cs : List Char) : Bool :=
  match Spelling.read? cs with
  | some s => s.time.isSome || cs.length = 10
  | none => false

/-! ## Calendar and clock -/

/-- The days of a month. -/
def monthDays (year month : Nat) : Nat :=
  let isLeap := (year % 4 = 0 && year % 100 ≠ 0) || year % 400 = 0
  if month = 2 then (if isLeap then 29 else 28) else if [4, 6, 9, 11].contains month then 30 else 31

/-- A number in decimal digits, padded with zeros to a width. -/
def padded (width n : Nat) : String :=
  let digits := Nat.toDigits 10 n
  String.ofList (List.replicate (width - digits.length) '0' ++ digits)

/-- The shift of a time zone in seconds. -/
def Zone.seconds : Zone → Int
  | .utc => 0
  | .shift negative hours minutes =>
    let n : Int := hours * 3600 + minutes * 60
    if negative then -n else n

/-- The text of a time zone. -/
def Zone.text (z : Zone) : String :=
  let minutes := z.seconds.natAbs / 60
  (if z.seconds < 0 then "-" else "+") ++ padded 2 (minutes / 60) ++ ":" ++ padded 2 (minutes % 60)

/-- The text of a time of day; parts of a second have six digits. -/
def Time.text (t : Time) : String :=
  let micros := Reading.natOf ((t.fraction ++ List.replicate 6 '0').take 6)
  padded 2 t.hour ++ ":" ++ padded 2 t.minute ++ ":" ++ padded 2 t.second ++
    (if micros = 0 then "" else "." ++ padded 6 micros) ++
    (match t.zone with
      | some z => z.text
      | none => "")

/-- What is wrong with a date without its time. -/
def Spelling.dayFault? (s : Spelling) : Option Fault :=
  if s.year = 0 then some .year
  else if s.month < 1 || 12 < s.month then some .month
  else if s.day < 1 || monthDays s.year s.month < s.day then some .day
  else none

/-- What is wrong with a time of day without its zone. -/
def Time.fault? (t : Time) : Option Fault :=
  if 23 < t.hour then some .hour
  else if 59 < t.minute then some .minute
  else if 59 < t.second then some .second
  else none

/-- What is wrong with a time zone. -/
def Zone.fault? (z : Zone) : Option Fault :=
  if daySeconds ≤ z.seconds.natAbs then some (.zone z.seconds) else none

/-- **The text of a date**, if calendar and clock have it. The time zone is looked at first. -/
def Spelling.text (s : Spelling) : Except Fault String :=
  let fault? := ((s.time.bind Time.zone).bind Zone.fault?).or
    (s.dayFault?.or (s.time.bind Time.fault?))
  match fault? with
  | some f => .error f
  | none =>
    let day := padded 4 s.year ++ "-" ++ padded 2 s.month ++ "-" ++ padded 2 s.day
    .ok (match s.time with
      | some t => day ++ " " ++ t.text
      | none => day)

end CallTree.Yaml.Date
