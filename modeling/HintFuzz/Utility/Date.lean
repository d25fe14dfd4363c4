import HintFuzz.Utility.Options

/-!
# Dates

Times are counted from the start of 1970; here they are read and shown as dates of the
calendar.
-/

namespace HintFuzz.Utility

open Kernel (ask)

/-! ### The calendar -/

/-- A time of the calendar. -/
structure Calendar where
  year : Int
  /-- From one on. -/
  month : Nat
  day : Nat
  hour : Nat
  minute : Nat
  second : Nat
deriving DecidableEq, Repr

namespace Calendar

/-- The days from the start of 1970 to a day.  Years are counted from March on, so that
the odd day is their last one. -/
def dayNumber (year : Int) (month day : Nat) : Int :=
  let year := if month ≤ 2 then year - 1 else year
  let era := year / 400
  let inEra := year - era * 400
  let inYear : Int := ((153 * ((month + 9) % 12) + 2) / 5 + day : Nat) - 1
  era * 146097 + inEra * 365 + inEra / 4 - inEra / 100 + inYear - 719468

/-- The year, the month and the day of a day. -/
def ofDayNumber (days : Int) : Int × Nat × Nat :=
  let days := days + 719468
  let era := days / 146097
  let inEra := (days - era * 146097).toNat
  let yearInEra := (inEra - inEra / 1460 + inEra / 36524 - inEra / 146096) / 365
  let inYear := inEra - (365 * yearInEra + yearInEra / 4 - yearInEra / 100)
  let shifted := (5 * inYear + 2) / 153
  let day := inYear - (153 * shifted + 2) / 5 + 1
  let month := if shifted < 10 then shifted + 3 else shifted - 9
  let year : Int := era * 400 + yearInEra
  (if month ≤ 2 then year + 1 else year, month, day)

/-- The seconds from the start of 1970 to a time. -/
def seconds (time : Calendar) : Int :=
  dayNumber time.year time.month time.day * 86400 +
    (time.hour * 3600 + time.minute * 60 + time.second : Nat)

/-- The time after so many seconds from the start of 1970. -/
def ofSeconds (seconds : Int) : Calendar :=
  let (year, month, day) := ofDayNumber (seconds / 86400)
  let rest := (seconds % 86400).toNat
  ⟨year, month, day, rest / 3600, rest / 60 % 60, rest % 60⟩

/-- Whether a year has a day more. -/
def isLong (year : Int) : Bool :=
  year % 4 = 0 && (year % 100 ≠ 0 || year % 400 = 0)

/-- The days of a month. -/
def monthLength (year : Int) (month : Nat) : Nat :=
  if month = 2 then (if isLong year then 29 else 28)
  else if [4, 6, 9, 11].contains month then 30
  else 31

/-- Whether there is such a time. -/
def isValid (time : Calendar) : Bool :=
  1 ≤ time.month && time.month ≤ 12 && 1 ≤ time.day &&
    time.day ≤ monthLength time.year time.month && time.hour ≤ 23 && time.minute ≤ 59 &&
    time.second ≤ 60

/-- The day of the week, from Sunday on. -/
def weekday (time : Calendar) : Nat :=
  ((dayNumber time.year time.month time.day + 4) % 7).toNat

/-- The day of the year, from one on. -/
def yearday (time : Calendar) : Nat :=
  (dayNumber time.year time.month time.day - dayNumber time.year 1 1).toNat + 1

end Calendar

/-! ### Reading -/

/-- The number that digits write, if there are so many of them. -/
def digitsOfLength? (lengths : List Nat) (digits : List Char) : Option Nat :=
  if lengths.contains digits.length ∧ digits.all Char.isDigit then (String.ofList digits).toNat?
  else none

/-- The time that a stamp writes: month, day, hour and minute in two digits each, with the
year in front and seconds behind a point if they are given. -/
def readStamp? (now : Calendar) (text : Octets) : Option Calendar :=
  let whole := text.toList.takeWhile (· ≠ '.')
  let second? : Option Nat := match text.toList.drop whole.length with
    | [] => some 0
    | _ :: digits => digitsOfLength? [2] digits
  let number? (first : Nat) : Option Nat := digitsOfLength? [2] ((whole.drop first).take 2)
  let year? : Option Int := match whole.length with
    | 8 => some now.year
    | 10 => (number? 0).map fun (year : Nat) => (year : Int) + if year < 69 then 2000 else 1900
    | 12 => (digitsOfLength? [4] (whole.take 4)).map fun (year : Nat) => (year : Int)
    | _ => none
  let start := whole.length - 8
  match year?, number? start, number? (start + 2), number? (start + 4), number? (start + 6),
      second? with
  | some year, some month, some day, some hour, some minute, some second =>
    some ⟨year, month, day, hour, minute, second⟩ |>.filter Calendar.isValid
  | _, _, _, _, _, _ => none

/-- The day that a word writes. -/
def readDay? (word : List Char) : Option (Int × Nat × Nat) :=
  let day? (parts : List Nat) : Option (Int × Nat × Nat) := match parts with
    | [year, month, day] =>
      if (Calendar.mk year month day 0 0 0).isValid then some (year, month, day) else none
    | _ => none
  match Text.stretches '-' word, Text.stretches '/' word with
  | [year, month, day], _ => do
    day? [← digitsOfLength? [4] year, ← digitsOfLength? [1, 2] month, ← digitsOfLength? [1, 2] day]
  | _, [first, second, third] =>
    if first.length = 4 then do
      day? [← digitsOfLength? [4] first, ← digitsOfLength? [1, 2] second,
        ← digitsOfLength? [1, 2] third]
    else do
      day? [← digitsOfLength? [4] third, ← digitsOfLength? [1, 2] first,
        ← digitsOfLength? [1, 2] second]
  | [digits], _ => do
    let _ ← digitsOfLength? [8] digits
    day? [← digitsOfLength? [4] (digits.take 4), ← digitsOfLength? [2] ((digits.drop 4).take 2),
      ← digitsOfLength? [2] (digits.drop 6)]
  | _, _ => none

/-- The time of the day that a word writes: hours, minutes and seconds. -/
def readTime? (word : List Char) : Option (Nat × Nat × Nat) :=
  let word := if word.getLast? = some 'Z' then word.dropLast else word
  let whole := word.takeWhile (· ≠ '.')
  let parts := (Text.stretches ':' whole).map (digitsOfLength? [1, 2])
  let valid (time : Nat × Nat × Nat) : Bool :=
    time.1 ≤ 23 && time.2.1 ≤ 59 && time.2.2 ≤ 60
  match parts with
  | [some hour, some minute] => some (hour, minute, 0) |>.filter valid
  | [some hour, some minute, some second] => some (hour, minute, second) |>.filter valid
  | _ => none

/-- The seconds of a unit of time. -/
def unitSeconds? (word : List Char) : Option Int :=
  let name := String.ofList (if word.getLast? = some 's' then word.dropLast else word)
  match name with
  | "sec" | "second" => some 1
  | "min" | "minute" => some 60
  | "hour" => some 3600
  | "day" => some 86400
  | "week" => some 604800
  | "fortnight" => some 1209600
  | _ => none

/-- The time that words write, given what was read of it: the time itself, and whether the
time of the day was set. -/
def readWords? : (fuel : Nat) → (time : Calendar) → (shift : Int) → (isTimed : Bool) →
    List (List Char) → Option Int
  | 0, _, _, _, _ => none
  | _, time, shift, _, [] => some (time.seconds + shift)
  | fuel + 1, time, shift, isTimed, word :: rest =>
    match String.ofList word with
    | "now" | "today" | "utc" | "gmt" | "z" => readWords? fuel time shift isTimed rest
    | "yesterday" => readWords? fuel time (shift - 86400) isTimed rest
    | "tomorrow" => readWords? fuel time (shift + 86400) isTimed rest
    | "midnight" =>
      readWords? fuel { time with hour := 0, minute := 0, second := 0 } shift true rest
    | _ =>
      match readDay? word, readTime? word with
      | some (year, month, day), _ =>
        let time := { time with year, month, day }
        let time := if isTimed then time else { time with hour := 0, minute := 0, second := 0 }
        readWords? fuel time shift isTimed rest
      | none, some (hour, minute, second) =>
        readWords? fuel { time with hour, minute, second } shift true rest
      | none, none =>
        let amount? : Option Int := match word with
          | '+' :: digits => (String.ofList digits).toNat?.map fun (n : Nat) => (n : Int)
          | '-' :: digits => (String.ofList digits).toNat?.map fun (n : Nat) => -(n : Int)
          | ['n', 'e', 'x', 't'] => some 1
          | ['l', 'a', 's', 't'] => some (-1)
          | digits => (String.ofList digits).toNat?.map fun (n : Nat) => (n : Int)
        match amount?, rest with
        | some amount, unit :: rest =>
          match unitSeconds? unit, rest with
          | none, _ => none
          | some length, ['a', 'g', 'o'] :: rest =>
            readWords? fuel time (shift - amount * length) isTimed rest
          | some length, rest => readWords? fuel time (shift + amount * length) isTimed rest
        | none, _ =>
          (unitSeconds? word).bind fun length =>
            match rest with
            | ['a', 'g', 'o'] :: rest => readWords? fuel time (shift - length) isTimed rest
            | rest => readWords? fuel time (shift + length) isTimed rest
        | some _, [] => none

/-- The seconds from the start of 1970 to the time that a text writes. -/
def readDate? (now : Int) (text : Octets) : Option Int :=
  match text.toList with
  | '@' :: digits =>
    let (negative, digits) := match digits with
      | '-' :: digits => (true, digits)
      | digits => (false, digits)
    (String.ofList (digits.takeWhile (· ≠ '.'))).toNat?.map fun (n : Nat) =>
      if negative then -(n : Int) else n
  | characters =>
    let spaced := characters.map fun c => if c = 'T' then ' ' else c.toLower
    let words := (Text.stretches ' ' spaced).filter fun word => !word.isEmpty
    let start := Calendar.ofSeconds now
    if words.isEmpty then
      some { start with hour := 0, minute := 0, second := 0 }.seconds
    else readWords? (words.length + 1) start 0 false words

/-! ### Showing -/

/-- The names of the days of the week. -/
def weekdayNames : List String :=
  ["Sunday", "Monday", "Tuesday", "Wednesday", "Thursday", "Friday", "Saturday"]

/-- The names of the months. -/
def monthNames : List String :=
  ["January", "February", "March", "April", "May", "June", "July", "August", "September",
   "October", "November", "December"]

/-- A number with something in front so that it is as wide as that. -/
def fieldText (flag : Option Char) (usual : Char) (width : Nat) (number : Int) : String :=
  let digits := toString number
  let filler := match flag with
    | some '-' => none
    | some '_' => some ' '
    | some '0' => some '0'
    | _ => some usual
  match filler with
  | none => digits
  | some c => String.ofList (List.replicate (width - digits.length) c) ++ digits

/-- What a letter in a format shows of a time, given the nanoseconds too. -/
def timeField (time : Calendar) (nanoseconds : Nat) (flag : Option Char) (letter : Char) : String :=
  let number (width : Nat) (value : Int) : String := fieldText flag '0' width value
  let blank (width : Nat) (value : Int) : String := fieldText flag ' ' width value
  let short (name : String) : String := String.ofList (name.toList.take 3)
  let weekday := (weekdayNames[time.weekday]?).getD ""
  let month := (monthNames[time.month - 1]?).getD ""
  let hour12 : Nat := if time.hour % 12 = 0 then 12 else time.hour % 12
  let clock := number 2 time.hour ++ ":" ++ number 2 time.minute
  match letter with
  | 'Y' => number 4 time.year
  | 'C' => number 2 (time.year / 100)
  | 'y' | 'g' => number 2 (time.year % 100)
  | 'm' => number 2 time.month
  | 'd' => number 2 time.day
  | 'e' => blank 2 time.day
  | 'H' => number 2 time.hour
  | 'k' => blank 2 time.hour
  | 'I' => number 2 hour12
  | 'l' => blank 2 hour12
  | 'M' => number 2 time.minute
  | 'S' => number 2 time.second
  | 'N' => number 9 nanoseconds
  | 's' => toString time.seconds
  | 'j' => number 3 time.yearday
  | 'u' => toString (if time.weekday = 0 then 7 else time.weekday)
  | 'w' => toString time.weekday
  | 'a' => short weekday
  | 'A' => weekday
  | 'b' | 'h' => short month
  | 'B' => month
  | 'p' => if time.hour < 12 then "AM" else "PM"
  | 'P' => if time.hour < 12 then "am" else "pm"
  | 'Z' => "UTC"
  | 'z' => "+0000"
  | 'F' => number 4 time.year ++ "-" ++ number 2 time.month ++ "-" ++ number 2 time.day
  | 'D' | 'x' =>
    number 2 time.month ++ "/" ++ number 2 time.day ++ "/" ++ number 2 (time.year % 100)
  | 'T' | 'X' => clock ++ ":" ++ number 2 time.second
  | 'R' => clock
  | 'r' =>
    number 2 hour12 ++ ":" ++ number 2 time.minute ++ ":" ++ number 2 time.second ++
      (if time.hour < 12 then " AM" else " PM")
  | 'c' =>
    short weekday ++ " " ++ short month ++ " " ++ blank 2 time.day ++ " " ++ clock ++ ":" ++
      number 2 time.second ++ " " ++ toString time.year
  | 'n' => "\n"
  | 't' => "\t"
  | '%' => "%"
  | letter => "%" ++ String.singleton letter

/-- A time in a format. -/
def formatTime (time : Calendar) (nanoseconds : Nat) : (fuel : Nat) → List Char → List Char
  | 0, text => text
  | _, [] => []
  | fuel + 1, '%' :: c :: rest =>
    match if ['-', '_', '0'].contains c then rest.head? else none with
    | some letter =>
      (timeField time nanoseconds (some c) letter).toList ++
        formatTime time nanoseconds fuel (rest.drop 1)
    | none => (timeField time nanoseconds none c).toList ++ formatTime time nanoseconds fuel rest
  | fuel + 1, c :: rest => c :: formatTime time nanoseconds fuel rest

/-- The nanoseconds of a second. -/
def secondLength : Nat := 1000000000

/-- `date`: shows the time. -/
def showDate (args : List Octets) : Act Unit := do
  let given ← given
    [.flag 'u' "utc", .wordFlag "universal", .valued 'd' "date", .valued 'r' "reference",
     .flag 'R' "rfc-email", ⟨some 'I', "iso-8601", .may⟩, .valued 's' "set"] args false
  let now ← ask .clock
  let (seconds, rest) : Int × Nat ← match given.last? ["date", "reference"] with
    | none => pure ((now / secondLength : Nat), now % secondLength)
    | some ("date", text) =>
      match readDate? (now / secondLength : Nat) text with
      | some seconds => pure (seconds, 0)
      | none => fail ("invalid date " ++ Text.quotedWord text)
    | some (_, path) =>
      match ← factsOf path true with
      | .ok facts => pure ((facts.modified / secondLength : Nat), facts.modified % secondLength)
      | .error fault => fail (shownPath path ++ ": " ++ fault.words)
  let usual := match given.last? ["rfc-email", "iso-8601"] with
    | some ("rfc-email", _) => "%a, %d %b %Y %H:%M:%S %z"
    | some (_, "seconds") => "%FT%T+00:00"
    | some (_, "minutes") => "%FT%R+00:00"
    | some (_, "hours") => "%FT%H+00:00"
    | some _ => "%F"
    | none => "%a %b %e %H:%M:%S %Z %Y"
  let format ← match given.operands with
    | [] => pure usual
    | _ :: extra :: _ => failExtra extra
    | [operand] =>
      match operand.toList with
      | '+' :: format => pure (String.ofList format)
      | _ =>
        if (given.last? ["date", "reference"]).isSome then
          failUsage ("the argument " ++ Text.quotedWord operand ++ " lacks a leading '+';\n" ++
            "when using an option to specify date(s), any non-option\n" ++
            "argument must be a format string beginning with '+'")
        else fail ("invalid date " ++ Text.quotedWord operand)
  printLine (String.ofList
    (formatTime (Calendar.ofSeconds seconds) rest (format.length + 1) format.toList))

end HintFuzz.Utility
