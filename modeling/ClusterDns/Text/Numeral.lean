/-! Numerals: digits in a base, and the whole numbers they write. -/

namespace ClusterDns.Text

def isDigit (c : Char) : Bool := '0' ≤ c && c ≤ '9'

def hexValue? (c : Char) : Option Nat :=
  let n := c.toNat
  if '0' ≤ c && c ≤ '9' then some (n - 48)
  else if 'a' ≤ c && c ≤ 'f' then some (n - 87)
  else if 'A' ≤ c && c ≤ 'F' then some (n - 55)
  else none

def isHexDigit (c : Char) : Bool := (hexValue? c).isSome

/-- The digit with a value below 16. -/
def hexDigit (upper : Bool) (n : Nat) : Char :=
  Char.ofNat (if n < 10 then 48 + n else if upper then 55 + n else 87 + n)

/-- The number that digits write in a base, or nothing if there is no digit or one too large for
the base. -/
def numeral? (base : Nat) (digits : List Char) : Option Nat :=
  if digits.isEmpty then none
  else digits.foldlM (fun n c => (hexValue? c).bind fun d =>
    if d < base then some (n * base + d) else none) 0

def decimal? (digits : List Char) : Option Nat := numeral? 10 digits

/-- A whole number below a bound, with a plus sign allowed in front and zeros after it. -/
def unsigned? (bound : Nat) (s : List Char) : Option Nat :=
  let digits := match s with
    | '+' :: rest => rest
    | s => s
  (decimal? digits).filter (· < bound)

/-- The digits of a number in base 16, with no leading zero. -/
def hexText (upper : Bool) (n : Nat) : List Char :=
  if n < 16 then [hexDigit upper n] else hexText upper (n / 16) ++ [hexDigit upper (n % 16)]
termination_by n
decreasing_by omega

end ClusterDns.Text
