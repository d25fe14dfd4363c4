/-!
# Durations

A span of time in nanoseconds, written in the largest unit of which it has a
whole one: `1.5s`, `90.061s`, `1ms`.
-/

namespace HintFuzz

/-- A span of time. -/
structure Duration where
  nanoseconds : Nat
deriving DecidableEq, Repr

namespace Duration

/-- A number of milliseconds. -/
def ofMillis (count : Nat) : Duration := ⟨count * 1000000⟩

/-- A number of seconds. -/
def ofSeconds (count : Nat) : Duration := ⟨count * 1000000000⟩

/-- `total / 10 ^ places` in decimal, without zeros at the end of the fraction. -/
def decimal (total places : Nat) : String :=
  let unit := Nat.pow 10 places
  let digits := (Nat.toDigits 10 (unit + total % unit)).tail
  let shown := (digits.reverse.dropWhile (· = '0')).reverse
  toString (total / unit) ++
    if shown.isEmpty then "" else "." ++ String.ofList shown

/-- A duration in its largest unit. -/
def text (duration : Duration) : String :=
  let total := duration.nanoseconds
  if 1000000000 ≤ total then decimal total 9 ++ "s"
  else if 1000000 ≤ total then decimal total 6 ++ "ms"
  else if 1000 ≤ total then decimal total 3 ++ "µs"
  else decimal total 0 ++ "ns"

end Duration

end HintFuzz
