import CommandLink.Number.Scientific

/-!
# Points in time

Reading a date with its time of day and its distance from Greenwich, such as
`2024-02-29T23:59:59.5+01:00`, as milliseconds since the first day of 1970.
Any letter may stand between date and time. A minute may have one second more
than sixty, as the last of a month in Greenwich: it counts as the end of the
second before.
-/

namespace CommandLink.Text

/-- The number that the first `count` characters write, and what follows. -/
def digitsOf? (count : Nat) (chars : List Char) : Option (Nat × List Char) := do
  guard (count ≤ chars.length)
  return (← digits? 0 (chars.take count), chars.drop count)

/-- What follows a given character. -/
def after? (c : Char) : List Char → Option (List Char)
  | [] => none
  | first :: rest => if first = c then some rest else none

/-- The nanoseconds after a point, and what follows. Digits beyond the ninth
count for nothing. -/
def nanoseconds? : List Char → Option (Nat × List Char)
  | '.' :: chars => do
    let (digits, rest) := spanDigits chars
    guard (digits ≠ [])
    return (← digits? 0 ((digits ++ List.replicate 9 '0').take 9), rest)
  | chars => some (0, chars)

/-- How many minutes a place is ahead of Greenwich. Nothing may follow. -/
def minutesAhead? : List Char → Option Int
  | ['Z'] => some 0
  | ['z'] => some 0
  | sign :: chars => do
    guard (sign = '+' ∨ sign = '-')
    let (hours, rest) ← digitsOf? 2 chars
    let (minutes, rest) ← digitsOf? 2 (← after? ':' rest)
    guard (hours < 24 ∧ minutes < 60 ∧ rest = [])
    return (if sign = '-' then -1 else 1) * (60 * hours + minutes : Int)
  | [] => none

/-- Every fourth year has a leap day, but of the hundredth ones only every
fourth. -/
def isLeap (year : Nat) : Bool := year % 4 = 0 && (year % 100 ≠ 0 || year % 400 = 0)

/-- How many days a month has. -/
def daysIn (year month : Nat) : Nat :=
  if month = 2 then (if isLeap year then 29 else 28)
  else if month ∈ [4, 6, 9, 11] then 30
  else 31

/-- How many days the months before the given one have. -/
def daysBefore (year : Nat) : (month : Nat) → Nat
  | 0 => 0
  | 1 => 0
  | month + 2 => daysBefore year (month + 1) + daysIn year (month + 1)

/-- How many days lie between the first day of 1970 and the first of a month. -/
def monthStart (year month : Nat) : Int :=
  let leaps := (year + 3) / 4 + (year + 399) / 400 - (year + 99) / 100
  (365 * year + leaps + daysBefore year month : Int) - 719528

/-- How many seconds a day has. -/
def secondsInDay : Int := 86400

/-- The milliseconds up to the point in time that a text names, cut off toward
zero. -/
def instant? (text : String) : Option Int64 := do
  let (year, rest) ← digitsOf? 4 text.toList
  let (month, rest) ← digitsOf? 2 (← after? '-' rest)
  let (day, rest) ← digitsOf? 2 (← after? '-' rest)
  guard (rest.head?.any (·.toNat < 128))
  let (hour, rest) ← digitsOf? 2 rest.tail
  let (minute, rest) ← digitsOf? 2 (← after? ':' rest)
  let (second, rest) ← digitsOf? 2 (← after? ':' rest)
  let (nanoseconds, rest) ← nanoseconds? rest
  let ahead ← minutesAhead? rest
  guard (1 ≤ month ∧ month ≤ 12 ∧ 1 ≤ day ∧ day ≤ daysIn year month)
  guard (hour < 24 ∧ minute < 60 ∧ second ≤ 60)
  let start := monthStart year month
  let seconds := secondsInDay * (start + day - 1) +
    (3600 * hour + 60 * minute + min second 59 : Int) - 60 * ahead
  if second = 60 then
    guard ((seconds + 1) % secondsInDay = 0)
    guard ((seconds + 1) / secondsInDay ∈ [start, start + daysIn year month])
    return Int64.ofInt ((1000000000 * seconds + 999999999).tdiv 1000000)
  else
    return Int64.ofInt ((1000000000 * seconds + nanoseconds).tdiv 1000000)

end CommandLink.Text
