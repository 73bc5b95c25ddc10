/-
# Time patterns

A time is written after a pattern: a text in which a percent sign and a letter stand for a part of
the time.

| letters | part |
| --- | --- |
| `Y` `C` `y` `G` `g` `q` | year, century, year of the century; the first and last of these in the week calendar; quarter |
| `m` `b` `h` `B` | month, by number and by name |
| `d` `e` `j` `u` `w` `a` `A` | day of the month, of the year, of the week |
| `U` `W` `V` | week, from Sunday, from Monday, in the week calendar |
| `H` `k` `I` `l` `p` `P` `M` `S` `f` | hour, half of the day, minute, second, nanosecond |
| `z` `Z` `s` | distance from universal time, name of the zone, seconds since 1970 |
| `D` `F` `R` `T` `X` `c` `r` `v` `x` `+` | several parts at once |

A number is padded to a fixed width.  A sign before its letter says with what: `0` with zeros, `_`
with blanks, `-` with nothing.  A pattern with a percent sign that begins no part is refused.
-/

import ChatConsole.Calendar.Date

namespace ChatConsole
namespace Calendar

/-- What a number is padded with. -/
inductive Padding where
  | bare
  | zeros
  | blanks
  deriving DecidableEq, Repr

/-- A part of a time that is written as a number. -/
inductive Number where
  | year
  | century
  | yearOfCentury
  | weekYear
  | weekYearOfCentury
  | quarter
  | month
  | day
  | dayOfYear
  | sundayWeek
  | mondayWeek
  | week
  | dayFromSunday
  | dayFromMonday
  | hour
  | dialHour
  | minute
  | second
  | nanosecond
  | timestamp
  deriving DecidableEq, Repr

/-- How much of the distance from universal time is written. -/
inductive Precision where
  | hours
  | minutes
  | seconds
  deriving DecidableEq, Repr

/-- A piece of a pattern. -/
inductive Piece where
  | text (cs : List Char)
  | number (n : Number) (padding : Padding)
  | monthName (short : Bool)
  | dayName (short : Bool)
  /-- Forenoon or afternoon. -/
  | half (capital : Bool)
  /-- The passed part of the second in three, six or nine places. -/
  | fraction (places : Nat) (point : Bool)
  /-- The passed part of the second after a point, in as many of these places as it takes. -/
  | shortFraction
  | distance (precision : Precision) (colons : Bool)
  | zoneName
  deriving DecidableEq, Repr

namespace Piece

/-- A character of the text itself. -/
def char (c : Char) : Piece :=
  text [c]

/-- A number padded with zeros. -/
def zeros (n : Number) : Piece :=
  number n .zeros

/-- A number padded with blanks. -/
def blanks (n : Number) : Piece :=
  number n .blanks

/-- A number that is not padded. -/
def bare (n : Number) : Piece :=
  number n .bare

/-- Pieces with a character between them. -/
def joined (c : Char) : List Piece → List Piece
  | [] => []
  | [p] => [p]
  | p :: ps => p :: char c :: joined c ps

/-- Year, month and day. -/
def isoDate : List Piece :=
  joined '-' [zeros .year, zeros .month, zeros .day]

/-- Month, day and year of the century. -/
def slashDate : List Piece :=
  joined '/' [zeros .month, zeros .day, zeros .yearOfCentury]

/-- Hour and minute. -/
def shortTime : List Piece :=
  joined ':' [zeros .hour, zeros .minute]

/-- Hour, minute and second. -/
def fullTime : List Piece :=
  joined ':' [zeros .hour, zeros .minute, zeros .second]

/-- The pieces that a letter stands for. -/
def ofLetter? : Char → Option (List Piece)
  | 'A' => some [dayName false]
  | 'B' => some [monthName false]
  | 'C' => some [zeros .century]
  | 'D' => some slashDate
  | 'F' => some isoDate
  | 'G' => some [zeros .weekYear]
  | 'H' => some [zeros .hour]
  | 'I' => some [zeros .dialHour]
  | 'M' => some [zeros .minute]
  | 'P' => some [half false]
  | 'R' => some shortTime
  | 'S' => some [zeros .second]
  | 'T' => some fullTime
  | 'U' => some [zeros .sundayWeek]
  | 'V' => some [zeros .week]
  | 'W' => some [zeros .mondayWeek]
  | 'X' => some fullTime
  | 'Y' => some [zeros .year]
  | 'Z' => some [zoneName]
  | 'a' => some [dayName true]
  | 'b' => some [monthName true]
  | 'c' => some (joined ' ' [dayName true, monthName true, blanks .day] ++
      char ' ' :: fullTime ++ [char ' ', zeros .year])
  | 'd' => some [zeros .day]
  | 'e' => some [blanks .day]
  | 'f' => some [zeros .nanosecond]
  | 'g' => some [zeros .weekYearOfCentury]
  | 'h' => some [monthName true]
  | 'j' => some [zeros .dayOfYear]
  | 'k' => some [blanks .hour]
  | 'l' => some [blanks .dialHour]
  | 'm' => some [zeros .month]
  | 'n' => some [char '\n']
  | 'p' => some [half true]
  | 'q' => some [bare .quarter]
  | 'r' => some (joined ':' [zeros .dialHour, zeros .minute, zeros .second] ++
      [char ' ', half true])
  | 's' => some [bare .timestamp]
  | 't' => some [char '\t']
  | 'u' => some [bare .dayFromMonday]
  | 'v' => some (joined '-' [blanks .day, monthName true, zeros .year])
  | 'w' => some [bare .dayFromSunday]
  | 'x' => some slashDate
  | 'y' => some [zeros .yearOfCentury]
  | 'z' => some [distance .minutes false]
  | '+' => some (isoDate ++ char 'T' :: fullTime ++ [shortFraction, distance .minutes true])
  | '%' => some [char '%']
  | _ => none

/-- The number that a letter stands for, padded in another way.  Refused for all other pieces. -/
def padded? (padding : Padding) (c : Char) : Option (List Piece) :=
  match ofLetter? c with
  | some [number n _] => some [number n padding]
  | _ => none

/-- The pieces that a text after a percent sign begins with, and how many characters stand for
them. -/
def afterPercent? : List Char → Option (List Piece × Nat)
  | '-' :: c :: _ => (padded? .bare c).map (·, 2)
  | '0' :: c :: _ => (padded? .zeros c).map (·, 2)
  | '_' :: c :: _ => (padded? .blanks c).map (·, 2)
  | '.' :: 'f' :: _ => some ([shortFraction], 2)
  | '.' :: '3' :: 'f' :: _ => some ([fraction 3 true], 3)
  | '.' :: '6' :: 'f' :: _ => some ([fraction 6 true], 3)
  | '.' :: '9' :: 'f' :: _ => some ([fraction 9 true], 3)
  | '3' :: 'f' :: _ => some ([fraction 3 false], 2)
  | '6' :: 'f' :: _ => some ([fraction 6 false], 2)
  | '9' :: 'f' :: _ => some ([fraction 9 false], 2)
  | ':' :: 'z' :: _ => some ([distance .minutes true], 2)
  | ':' :: ':' :: 'z' :: _ => some ([distance .seconds true], 3)
  | ':' :: ':' :: ':' :: 'z' :: _ => some ([distance .hours false], 4)
  | c :: _ => (ofLetter? c).map (·, 1)
  | [] => none

end Piece

/-- The pieces of a pattern, if every percent sign begins one. -/
def pieces? : List Char → Option (List Piece)
  | [] => some []
  | c :: cs =>
    if c = '%' then
      match Piece.afterPercent? cs with
      | some (ps, length) => (pieces? (cs.drop length)).map (ps ++ ·)
      | none => none
    else (pieces? cs).map (.char c :: ·)
  termination_by cs => cs.length
  decreasing_by all_goals simp_wf; try omega

/-- The digits of a number. -/
def digits (n : Nat) : List Char :=
  (toString n).toList

/-- A number after a sign, padded to a width: zeros follow the sign, blanks stand before it. -/
def padTo (width : Nat) (padding : Padding) (sign : List Char) (n : Nat) : List Char :=
  let ds := digits n
  let missing := width - (sign.length + ds.length)
  match padding with
  | .bare => sign ++ ds
  | .zeros => sign ++ List.replicate missing '0' ++ ds
  | .blanks => List.replicate missing ' ' ++ sign ++ ds

/-- The sign of a number, where a positive number has one too. -/
def signOf (n : Int) : List Char :=
  if n < 0 then ['-'] else ['+']

/-- A number below 256 in two places.  The characters after the digits stand for ten and more
tens. -/
def twoPlaces (padding : Padding) (n : Nat) : List Char :=
  let tens :=
    match n / 10, padding with
    | 0, .bare => []
    | 0, .blanks => [' ']
    | t, _ => [Char.ofNat ('0'.toNat + t)]
  tens ++ digits (n % 10)

/-- A year in four places; with a sign, if it has more digits or comes before year 0. -/
def yearText (padding : Padding) (year : Int) : List Char :=
  if 0 ≤ year ∧ year < 10000 then padTo 4 padding [] year.toNat
  else padTo 5 padding (signOf year) year.natAbs

/-- The names of the months, of which three letters are the short form. -/
def monthNames : List String :=
  ["January", "February", "March", "April", "May", "June", "July", "August", "September",
    "October", "November", "December"]

/-- The names of the days of the week, from Monday, of which three letters are the short form. -/
def dayNames : List String :=
  ["Monday", "Tuesday", "Wednesday", "Thursday", "Friday", "Saturday", "Sunday"]

/-- A name in full or its short form. -/
def nameText (names : List String) (index : Nat) (short : Bool) : List Char :=
  let name := ((names[index]?).getD "").toList
  if short then name.take 3 else name

/-- The text of a part of a time that is a number. -/
def Number.write (m : Moment) (padding : Padding) : Number → List Char
  | year => yearText padding m.date.year
  | century => twoPlaces padding (m.date.year / 100 % 256).toNat
  | yearOfCentury => twoPlaces padding (m.date.year % 100).toNat
  | weekYear => yearText padding m.date.week.1
  | weekYearOfCentury => twoPlaces padding (m.date.week.1 % 100).toNat
  | quarter => digits m.date.quarter
  | month => twoPlaces padding m.date.month
  | day => twoPlaces padding m.date.day
  | dayOfYear => padTo 3 padding [] m.date.dayOfYear
  | sundayWeek => twoPlaces padding (m.date.weeksBegun m.date.daysSinceSunday)
  | mondayWeek => twoPlaces padding (m.date.weeksBegun m.date.weekday)
  | week => twoPlaces padding m.date.week.2
  | dayFromSunday => digits m.date.daysSinceSunday
  | dayFromMonday => digits (m.date.weekday + 1)
  | hour => twoPlaces padding m.hour
  | dialHour => twoPlaces padding m.dialHour
  | minute => twoPlaces padding m.minute
  | second => twoPlaces padding m.shownSecond
  | nanosecond => padTo 9 padding [] m.fraction
  | timestamp =>
    padTo 9 padding (if m.timestamp < 0 then ['-'] else []) m.timestamp.natAbs

/-- Numbers in two places each, with colons between them or not. -/
def clockText (colons : Bool) (ns : List Nat) : List Char :=
  (if colons then [':'] else []).intercalate (ns.map (twoPlaces .zeros))

/-- A distance from universal time; to the minute it is rounded, to the hour it is cut. -/
def distanceText (seconds : Int) (precision : Precision) (colons : Bool) : List Char :=
  let s := seconds.natAbs
  let rounded := (s + 30) / 60
  signOf seconds ++ clockText colons (match precision with
    | .hours => [s / 3600]
    | .minutes => [rounded / 60, rounded % 60]
    | .seconds => [s / 3600, s / 60 % 60, s % 60])

/-- The name of a zone: universal time has one, another zone its distance, to the second if need
be. -/
def Zone.name : Zone → List Char
  | universal => "UTC".toList
  | ahead s => distanceText s (if s % 60 = 0 then .minutes else .seconds) true

/-- The passed part of a second in three, six or nine places. -/
def fractionText (nanos places : Nat) : List Char :=
  padTo places .zeros [] (nanos / Nat.pow 10 (9 - places))

/-- The text of a piece. -/
def Piece.write (m : Moment) : Piece → List Char
  | text cs => cs
  | number n padding => n.write m padding
  | monthName short => nameText monthNames (m.date.month - 1) short
  | dayName short => nameText dayNames m.date.weekday short
  | half capital =>
    (match m.isAfternoon, capital with
      | true, true => "PM"
      | true, false => "pm"
      | false, true => "AM"
      | false, false => "am").toList
  | fraction places point => (if point then ['.'] else []) ++ fractionText m.fraction places
  | shortFraction =>
    if m.fraction = 0 then []
    else
      let places :=
        if m.fraction % 1000000 = 0 then 3 else if m.fraction % 1000 = 0 then 6 else 9
      '.' :: fractionText m.fraction places
  | distance precision colons => distanceText m.zone.seconds precision colons
  | zoneName => m.zone.name

/-- A time written after a pattern, or as hour and minute when the pattern is refused. -/
def Moment.format (m : Moment) (pattern : String) : String :=
  let ps := (pieces? pattern.toList).getD Piece.shortTime
  String.ofList (ps.flatMap (Piece.write m))

/-- A date as year, month and day. -/
def Date.text (d : Date) : String :=
  String.ofList (yearText .zeros d.year ++ '-' :: twoPlaces .zeros d.month ++
    '-' :: twoPlaces .zeros d.day)

end Calendar
end ChatConsole
