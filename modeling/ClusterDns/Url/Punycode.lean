import ClusterDns.Text.Numeral

/-! Labels outside ASCII, written in ASCII. The ASCII characters come first; then the places of the
others, from the smallest character up, as differences in digits of a base of 36 whose weights
adapt to the differences seen before. -/

namespace ClusterDns.Url.Punycode

def digit (d : Nat) : Char := Char.ofNat (if d < 26 then 0x61 + d else 0x16 + d)

def digitValue? (c : Char) : Option Nat :=
  if 'a' ≤ c && c ≤ 'z' then some (c.toNat - 0x61)
  else if 'A' ≤ c && c ≤ 'Z' then some (c.toNat - 0x41)
  else if '0' ≤ c && c ≤ '9' then some (c.toNat - 0x16)
  else none

/-- The least value a digit has at a place without ending its number there. -/
def threshold (place bias : Nat) : Nat := max 1 (min 26 (place - bias))

theorem one_le_threshold (place bias : Nat) : 1 ≤ threshold place bias := Nat.le_max_left ..

/-- Divides until a difference is small, and counts the places that takes. -/
def settle (delta place : Nat) : Nat :=
  if delta ≤ 455 then place + 36 * delta / (delta + 38) else settle (delta / 35) (place + 36)
termination_by delta
decreasing_by omega

/-- The bias after a difference, given how many characters there are now. -/
def adapt (delta count : Nat) (isFirst : Bool) : Nat :=
  let scaled := if isFirst then delta / 700 else delta / 2
  settle (scaled + scaled / count) 0

/-- The digits of a number, the one of the least weight first. -/
def digits (bias place q : Nat) : List Char :=
  let t := threshold place bias
  if q < t then [digit q]
  else digit (t + (q - t) % (36 - t)) :: digits bias (place + 36) ((q - t) / (36 - t))
termination_by q
decreasing_by
  have h := one_le_threshold place bias
  exact Nat.lt_of_le_of_lt (Nat.div_le_self ..) (by omega)

/-- The state between two characters: the difference so far, the bias, and how many characters have
been written. -/
structure Progress where
  delta : Nat
  bias : Nat := 72
  written : Nat
  text : List Char := []

/-- Passes one character of the label while the character `n` is written. -/
def pass (basic n : Nat) (p : Progress) (c : Char) : Progress :=
  if c.toNat < n then { p with delta := p.delta + 1 }
  else if c.toNat == n then
    { delta := 0, bias := adapt p.delta (p.written + 1) (p.written == basic),
      written := p.written + 1, text := p.text ++ digits p.bias 36 p.delta }
  else p

/-- The characters outside ASCII, each once, from the smallest up. -/
def foreign (label : List Char) : List Nat :=
  (((label.map Char.toNat).filter (0x80 ≤ ·)).mergeSort (· ≤ ·)).eraseReps

def encodeFrom (label : List Char) (basic : Nat) : Nat → List Nat → Progress → Progress
  | _, [], p => p
  | next, n :: rest, p =>
    let p := label.foldl (pass basic n) { p with delta := p.delta + (n - next) * (p.written + 1) }
    encodeFrom label basic (n + 1) rest { p with delta := p.delta + 1 }

def encode (label : List Char) : List Char :=
  let basic := label.filter (·.toNat < 0x80)
  let p :=
    encodeFrom label basic.length 0x80 (foreign label) { delta := 0, written := basic.length }
  basic ++ (if basic.isEmpty then [] else ['-']) ++ p.text

/-- Reads one number: its value and the digits after it. -/
def readNumber (bias : Nat) : Nat → Nat → Nat → List Char → Option (Nat × List Char)
  | _, _, _, [] => none
  | place, weight, sum, c :: rest =>
    match digitValue? c with
    | none => none
    | some d =>
      let t := threshold place bias
      let sum := sum + d * weight
      if d < t then some (sum, rest) else readNumber bias (place + 36) (weight * (36 - t)) sum rest

theorem length_of_readNumber {bias place weight sum n : Nat} {s rest : List Char}
    (h : readNumber bias place weight sum s = some (n, rest)) : rest.length < s.length := by
  induction s generalizing place weight sum with
  | nil => simp [readNumber] at h
  | cons c s ih =>
    simp only [readNumber] at h
    split at h
    · simp at h
    · split at h
      · simp only [Option.some.injEq, Prod.mk.injEq] at h
        simp [← h.2]
      · exact Nat.lt_succ_of_lt (ih h)

def isCharacter (n : Nat) : Bool := n < 0xD800 || (0xE000 ≤ n && n < 0x110000)

/-- Puts the characters that numbers tell to their places. -/
def decodeFrom (text : List Char) (bias i n : Nat) (s : List Char) : Option (List Char) :=
  if s.isEmpty then some text
  else
    match h : readNumber bias 36 1 0 s with
    | none => none
    | some (delta, rest) =>
      let count := text.length + 1
      let place := i + delta
      let n := n + place / count
      if isCharacter n then
        decodeFrom (text.take (place % count) ++ Char.ofNat n :: text.drop (place % count))
          (adapt delta count (i == 0)) (place % count + 1) n rest
      else none
termination_by s.length
decreasing_by exact length_of_readNumber h

/-- The label a text writes: the part before the last hyphen as it stands, which must be ASCII, and
the others put into it. -/
def decode? (s : List Char) : Option (List Char) :=
  let tail := (s.reverse.takeWhile (· != '-')).reverse
  let basic := s.take (s.length - tail.length - 1)
  if basic.all (·.toNat < 0x80) then decodeFrom basic 72 0 0x80 tail else none

end ClusterDns.Url.Punycode
