import PatternDispatch.Text.Display
import PatternDispatch.Value

/-!
Dates and times in writing. Hyphens and colons may be left out on reading and always stand on
writing; seconds are written also when they are zero, and a fraction of them only when it is not.
Inside other values a moment is written as the numbers it is made of.
-/

namespace PatternDispatch.Moment

private def digitsOf (t : Text) : Text := t.filter fun c => '0'.toNat ≤ c && c ≤ '9'.toNat

/-- The first digits of a text, with zeros for those that are missing. -/
def digitsUpTo (count : Nat) (t : Text) : Text :=
  let digits := (digitsOf t).take count
  digits ++ List.replicate (count - digits.length) '0'.toNat

def joined (separator : Char) (parts : List Text) : Text :=
  List.intercalate [separator.toNat] parts

/-- A day of the year, of which the year has four digits. -/
def dayText (t : Text) : Text :=
  let digits := digitsUpTo 8 t
  joined '-' [digits.take 4, (digits.drop 4).take 2, digits.drop 6]

/-- A time of day with a fraction of at most six digits. -/
def clockText (t : Text) : Text :=
  let isPoint (c : CodePoint) : Bool := c == '.'.toNat || c == ','.toNat
  let digits := digitsUpTo 6 (t.takeWhile (!isPoint ·))
  let fraction := digitsUpTo 6 (t.dropWhile (!isPoint ·))
  joined ':' [digits.take 2, (digits.drop 2).take 2, digits.drop 4] ++
    if fraction.all (· == '0'.toNat) then [] else '.'.toNat :: fraction

/-- The distance from universal time, with seconds only when there are some. A fraction of a second
alone is no distance. -/
def zoneText : Text → Text
  | [] => []
  | sign :: distance =>
    let least := clockText []
    let clock := if (clockText distance).take 8 = least then least else clockText distance
    (if clock = least ∨ sign = 'Z'.toNat then '+'.toNat else sign) ::
      (if clock.drop 5 = Text.ofString ":00" then clock.take 5 else clock)

def timeText (t : Text) : Text :=
  let isZone (c : CodePoint) : Bool := c == '+'.toNat || c == '-'.toNat || c == 'Z'.toNat
  clockText (t.takeWhile (!isZone ·)) ++ zoneText (t.dropWhile (!isZone ·))

/-- The text in which a moment is written. -/
def written (kind : Moment) (t : Text) : Text :=
  match kind with
  | .date => dayText t
  | .time => timeText t
  | .datetime =>
    let dayLength := if (t.drop 4).head? = some '-'.toNat then 10 else 8
    dayText (t.take dayLength) ++ 'T'.toNat :: timeText (t.drop (dayLength + 1))

/-- The runs of digits in a text as numbers. -/
def numbers (t : Text) : List Nat :=
  (t.splitOnP fun c => !('0'.toNat ≤ c && c ≤ '9'.toNat)).map Text.readDecimal

/-- The microseconds of a second. -/
def second : Nat := 1000000

/-- A length of time, of which the days may be negative and all else is not. -/
def lengthText (microseconds : Int) : Text :=
  let day : Int := 86400 * second
  let rest := microseconds.emod day
  let parts := [("days=", microseconds / day), ("seconds=", rest / second),
    ("microseconds=", rest % second)].filter fun part => part.2 ≠ 0
  Text.enclosed "datetime.timedelta(" ")"
    (parts.map fun part => Text.ofString part.1 ++ Text.ofInt part.2)

/-- The microseconds that hours, minutes, seconds and microseconds make. -/
def microseconds (t : Text) : Nat :=
  ((numbers t).zipWith (· * ·) [3600 * second, 60 * second, second, 1]).foldr (· + ·) 0

/-- The microseconds that a zone is ahead of universal time. -/
def zoneLength (zone : Text) : Int :=
  let size : Int := microseconds zone.tail
  if zone.head? = some '-'.toNat then -size else size

/-- A time of day and its zone, which may be empty. -/
def clockAndZone (t : Text) : Text × Text :=
  let isZone (c : CodePoint) : Bool := c == '+'.toNat || c == '-'.toNat
  (t.takeWhile (!isZone ·), t.dropWhile (!isZone ·))

/-- The zone that a distance from universal time stands for. -/
def zoneDisplayed (zone : Text) : Text :=
  if zoneLength zone = 0 then Text.ofString "datetime.timezone.utc"
  else Text.enclosed "datetime.timezone(" ")" [lengthText (zoneLength zone)]

/-- The numbers of a time of day and the zone; seconds are left out if they are zero. -/
def clockDisplayed (t : Text) : List Text :=
  let (clock, zone) := clockAndZone t
  let parts := numbers clock
  (if parts.drop 2 = [0] then parts.take 2 else parts).map Text.ofNat ++
    if zone.isEmpty then [] else [Text.ofString "tzinfo=" ++ zoneDisplayed zone]

/-- How many days a day of the calendar is away from a fixed one; a year begins in March. -/
def dayNumber (day : Text) : Int :=
  match numbers day with
  | [year, month, day] =>
    let year : Nat := if month < 3 then year - 1 else year
    let month := if month < 3 then month + 9 else month - 3
    (365 * year + year / 4 - year / 100 + year / 400 + (153 * month + 2) / 5 + day : Nat)
  | _ => 0

/-- The microseconds from a fixed point of universal time, for a moment that has a zone. -/
def instant? (kind : Moment) (t : Text) : Option Int :=
  let (day, rest) : Text × Text := match kind with
    | .date => (t, [])
    | .time => ([], t)
    | .datetime => (t.take 10, t.drop 11)
  let (clock, zone) := clockAndZone rest
  if zone.isEmpty then none
  else some (dayNumber day * 86400 * second + microseconds clock - zoneLength zone)

/-- The fraction of the second of a time of day, in microseconds. -/
def fraction (t : Text) : Nat := (numbers (clockAndZone t).1)[3]?.getD 0

/-- Whether two moments of a kind are the same: in writing or, in different zones, in universal
time; two times of day also have to have the same fraction. -/
def isSame (kind : Moment) (s t : Text) : Bool :=
  s == t || match kind.instant? s, kind.instant? t with
    | some m, some n => m == n && (kind == .datetime || fraction s == fraction t)
    | _, _ => false

/-- The text of a moment inside another value. -/
def displayed (kind : Moment) (t : Text) : Text :=
  let day := (numbers (t.take 10)).map Text.ofNat
  match kind with
  | .date => Text.enclosed "datetime.date(" ")" day
  | .time => Text.enclosed "datetime.time(" ")" (clockDisplayed t)
  | .datetime => Text.enclosed "datetime.datetime(" ")" (day ++ clockDisplayed (t.drop 11))

end PatternDispatch.Moment
