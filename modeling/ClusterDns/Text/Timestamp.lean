import ClusterDns.Text.Numeral

/-! Timestamps: a date, a time of day and the distance from universal time, as in
`2024-01-02T03:04:05.5+02:00`. A blank or a small letter may stand for the `T`, and the date must be
one of the calendar. -/

namespace ClusterDns.Text.Timestamp

def isLeap (year : Nat) : Bool := year % 4 == 0 && (year % 100 != 0 || year % 400 == 0)

def daysIn (year month : Nat) : Nat :=
  if month == 2 then if isLeap year then 29 else 28
  else if month == 4 || month == 6 || month == 9 || month == 11 then 30
  else 31

/-- A number of exactly as many digits as asked for. -/
def digits? (count : Nat) (s : List Char) : Option (Nat × List Char) :=
  let front := s.take count
  if front.length == count && front.all isDigit then (decimal? front).map (·, s.drop count)
  else none

def skip? (allowed : List Char) : List Char → Option (List Char)
  | c :: rest => if allowed.contains c then some rest else none
  | [] => none

def date? (s : List Char) : Option (List Char) := do
  let (year, s) ← digits? 4 s
  let (month, s) ← digits? 2 (← skip? ['-'] s)
  let (day, s) ← digits? 2 (← skip? ['-'] s)
  if 1 ≤ month && month ≤ 12 && 1 ≤ day && day ≤ daysIn year month then return s else none

/-- Digits of a second, of which nine count at most. -/
def fraction? (s : List Char) : Option (List Char) :=
  match skip? ['.', ','] s with
  | none => some s
  | some rest =>
    let count := (rest.takeWhile isDigit).length
    if 1 ≤ count && count ≤ 9 then some (rest.drop count) else none

/-- The time of day; a leap second may stand at the end of a minute. -/
def time? (s : List Char) : Option (List Char) := do
  let (hour, s) ← digits? 2 s
  let (minute, s) ← digits? 2 (← skip? [':'] s)
  let (second, s) ← digits? 2 (← skip? [':'] s)
  if hour ≤ 23 && minute ≤ 59 && second ≤ 60 then fraction? s else none

def offset? (s : List Char) : Option (List Char) :=
  match s with
  | 'Z' :: rest => some rest
  | 'z' :: rest => some rest
  | _ => do
    let (hour, s) ← digits? 2 (← skip? ['+', '-'] s)
    let (minute, s) ← digits? 2 (← skip? [':'] s)
    if hour ≤ 25 && minute ≤ 59 then return s else none

def isValid (s : String) : Bool :=
  (do offset? (← time? (← skip? ['T', 't', ' '] (← date? s.toList)))) == some []

end ClusterDns.Text.Timestamp
