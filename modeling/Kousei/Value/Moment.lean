/-! # Dates and times

    A date, a time of day, or both, as settings files write them, and the
    two ways in which they are shown: as a text and in error messages.  Not
    all numbers make a date or a time, and what is wrong with them is told by
    the first number that is out of its range. -/

namespace Kousei

structure Date where
  year : Nat
  month : Nat
  day : Nat
  deriving DecidableEq, Repr

structure TimeOfDay where
  hour : Nat
  minute : Nat
  second : Nat := 0
  microsecond : Nat := 0
  deriving DecidableEq, Repr

/-- A date, a time, or both.  Both may have an offset from universal time, in
    minutes. -/
inductive Moment where
  | date (d : Date)
  | time (t : TimeOfDay)
  | both (d : Date) (t : TimeOfDay) (offset : Option Int)
  deriving DecidableEq, Repr

/-! ## Validity -/

/-- Is the year one with a day more? -/
def isLeap (year : Nat) : Bool := (year % 4 == 0 && year % 100 != 0) || year % 400 == 0

/-- The number of days of a month. -/
def daysInMonth (year month : Nat) : Nat :=
  if month = 2 then if isLeap year then 29 else 28
  else if month = 4 ∨ month = 6 ∨ month = 9 ∨ month = 11 then 30 else 31

/-- Why numbers make no date or no time. -/
inductive MomentFault where
  | year
  | month
  | day
  | hour
  | minute
  | second
  /-- The offset, in minutes, is a day or more. -/
  | offset (minutes : Int)
  deriving DecidableEq, Repr

/-- A stretch of time in minutes, its days counted on their own so that the
    seconds are not below zero. -/
def writtenMinutes (minutes : Int) : String :=
  let days := minutes.fdiv 1440
  let seconds := 60 * minutes.fmod 1440
  let parts :=
    (if days = 0 then [] else [s!"days={days}"]) ++
      (if seconds = 0 then [] else [s!"seconds={seconds}"])
  "datetime.timedelta(" ++ (if parts.isEmpty then "0" else ", ".intercalate parts) ++ ")"

def MomentFault.message : MomentFault → String
  | .year => "year 0 is out of range"
  | .month => "month must be in 1..12"
  | .day => "day is out of range for month"
  | .hour => "hour must be in 0..23"
  | .minute => "minute must be in 0..59"
  | .second => "second must be in 0..59"
  | .offset minutes =>
    "offset must be a timedelta strictly between -timedelta(hours=24) and timedelta(hours=24), not "
      ++ writtenMinutes minutes ++ "."

/-- What is wrong with a date. -/
def Date.fault? (d : Date) : Option MomentFault :=
  if d.year = 0 then some .year
  else if d.month = 0 ∨ 12 < d.month then some .month
  else if d.day = 0 ∨ daysInMonth d.year d.month < d.day then some .day
  else none

/-- What is wrong with a time. -/
def TimeOfDay.fault? (t : TimeOfDay) : Option MomentFault :=
  if 24 ≤ t.hour then some .hour
  else if 60 ≤ t.minute then some .minute
  else if 60 ≤ t.second then some .second
  else none

/-- What is wrong with an offset. -/
def offsetFault? (minutes : Int) : Option MomentFault :=
  if 1440 ≤ minutes.natAbs then some (.offset minutes) else none

/-- What is wrong with a moment: first its offset is looked at, then its date,
    then its time. -/
def Moment.fault? : Moment → Option MomentFault
  | .date d => d.fault?
  | .time t => t.fault?
  | .both d t offset => (offset.bind offsetFault?).or (d.fault?.or t.fault?)

/-- Is there such a day? -/
def Date.isValid (d : Date) : Bool := d.fault?.isNone

/-- Is there such a time? -/
def TimeOfDay.isValid (t : TimeOfDay) : Bool := t.fault?.isNone

/-! ## Equality -/

/-- The number of days before a year, counted from the year one. -/
def daysBeforeYear (year : Nat) : Nat :=
  let y := year - 1
  365 * y + y / 4 - y / 100 + y / 400

/-- The number of days before a month of a year. -/
def daysBeforeMonth (year month : Nat) : Nat :=
  (List.range (month - 1)).foldl (fun days m => days + daysInMonth year (m + 1)) 0

/-- The number of a day, counted from the first one of the year one. -/
def Date.number (d : Date) : Nat := daysBeforeYear d.year + daysBeforeMonth d.year d.month + d.day

/-- The minute of universal time in which a moment lies. -/
def universalMinute (d : Date) (t : TimeOfDay) (offset : Int) : Int :=
  (1440 * d.number + 60 * t.hour + t.minute : Nat) - offset

/-- Are two moments the same?  With offsets they are when they are at the same
    time, whatever the offsets; one with an offset is never the same as one
    without. -/
def Moment.same : Moment → Moment → Bool
  | .both d t (some n), .both d' t' (some n') =>
    universalMinute d t n == universalMinute d' t' n' && t.second == t'.second &&
      t.microsecond == t'.microsecond
  | m, m' => m == m'

namespace Moment

/-! ## As a text -/

/-- A number with zeros before it up to a width. -/
def padded (width n : Nat) : String :=
  let s := toString n
  String.ofList (List.replicate (width - s.length) '0') ++ s

def displayDate (d : Date) : String :=
  padded 4 d.year ++ "-" ++ padded 2 d.month ++ "-" ++ padded 2 d.day

def displayTime (t : TimeOfDay) : String :=
  padded 2 t.hour ++ ":" ++ padded 2 t.minute ++ ":" ++ padded 2 t.second ++
    (if t.microsecond = 0 then "" else "." ++ padded 6 t.microsecond)

def displayOffset (minutes : Int) : String :=
  let n := minutes.natAbs
  (if minutes < 0 then "-" else "+") ++ padded 2 (n / 60) ++ ":" ++ padded 2 (n % 60)

/-- A moment as it is put into a text. -/
def display : Moment → String
  | date d => displayDate d
  | time t => displayTime t
  | both d t offset =>
    displayDate d ++ " " ++ displayTime t ++ (offset.map displayOffset).getD ""

/-! ## In error messages -/

/-- The numbers of a time; seconds and smaller parts only where there are
    any. -/
def timeParts (t : TimeOfDay) : List Nat :=
  [t.hour, t.minute] ++
    (if t.microsecond ≠ 0 then [t.second, t.microsecond]
     else if t.second ≠ 0 then [t.second] else [])

def commas (parts : List String) : String := ", ".intercalate parts

def writtenOffset (minutes : Int) : String :=
  if minutes = 0 then "datetime.timezone.utc"
  else "datetime.timezone(" ++ writtenMinutes minutes ++ ")"

/-- A moment as error messages show it. -/
def written : Moment → String
  | date d => s!"datetime.date({d.year}, {d.month}, {d.day})"
  | time t => "datetime.time(" ++ commas ((timeParts t).map toString) ++ ")"
  | both d t offset =>
    let numbers := ([d.year, d.month, d.day] ++ timeParts t).map toString
    let zone := (offset.map fun n => "tzinfo=" ++ writtenOffset n).toList
    "datetime.datetime(" ++ commas (numbers ++ zone) ++ ")"

end Moment

end Kousei
