import ClusterDns.Json.Basic
import ClusterDns.Text.Numeral

/-! Reading JSON text. Blanks may stand around every value, and nothing else may follow the value of
a document. A number has no leading zero and digits on both sides of its point; a string holds no
control character, and its escapes name whole characters: the two halves of a character beyond
U+FFFF come together or not at all. -/

namespace ClusterDns.Json.Reader

def skipBlanks : List Char → List Char :=
  List.dropWhile fun c => c == ' ' || c == '\n' || c == '\t' || c == '\r'

/-- Four digits in base 16. -/
def unit? : List Char → Option (Nat × List Char)
  | a :: b :: c :: d :: rest => do
    let n ← [a, b, c, d].foldlM (fun n x => (Text.hexValue? x).map (n * 16 + ·)) 0
    return (n, rest)
  | _ => none

def isHighHalf (n : Nat) : Bool := 0xD800 ≤ n && n < 0xDC00

def isLowHalf (n : Nat) : Bool := 0xDC00 ≤ n && n < 0xE000

/-- The character a numeric escape names, after its `u`. -/
def numericEscape? (s : List Char) : Option (Char × List Char) := do
  let (n, rest) ← unit? s
  if isHighHalf n then
    match rest with
    | '\\' :: 'u' :: rest => do
      let (low, rest) ← unit? rest
      if isLowHalf low then
        return (Char.ofNat (0x10000 + (n - 0xD800) * 0x400 + (low - 0xDC00)), rest)
      else none
    | _ => none
  else if isLowHalf n then none
  else return (Char.ofNat n, rest)

def simpleEscape? (c : Char) : Option Char :=
  if c == '"' || c == '\\' || c == '/' then some c
  else if c == 'b' then some (Char.ofNat 8)
  else if c == 'f' then some (Char.ofNat 12)
  else if c == 'n' then some '\n'
  else if c == 'r' then some '\r'
  else if c == 't' then some '\t'
  else none

/-- The characters of a string up to its closing quote, last one first. Each step takes a character
of the text, so the length of the text is fuel enough. -/
def chars? : Nat → List Char → List Char → Option (List Char × List Char)
  | 0, _, _ => none
  | _, _, [] => none
  | _, read, '"' :: rest => some (read, rest)
  | fuel + 1, read, '\\' :: 'u' :: rest => do
    let (c, rest) ← numericEscape? rest
    chars? fuel (c :: read) rest
  | fuel + 1, read, '\\' :: c :: rest => do
    chars? fuel ((← simpleEscape? c) :: read) rest
  | fuel + 1, read, c :: rest => if c.toNat < 32 then none else chars? fuel (c :: read) rest

/-- A string after its opening quote. -/
def string? (s : List Char) : Option (String × List Char) :=
  (chars? (s.length + 1) [] s).map fun (read, rest) => (String.ofList read.reverse, rest)

def wholePart? : List Char → Option (List Char × List Char)
  | '0' :: rest => some (['0'], rest)
  | s => if (s.takeWhile Text.isDigit).isEmpty then none
    else some (s.takeWhile Text.isDigit, s.dropWhile Text.isDigit)

def digits? (s : List Char) : Option (List Char × List Char) :=
  if (s.takeWhile Text.isDigit).isEmpty then none
  else some (s.takeWhile Text.isDigit, s.dropWhile Text.isDigit)

def fraction? : List Char → Option (List Char × List Char)
  | '.' :: rest => (digits? rest).map fun (ds, rest) => ('.' :: ds, rest)
  | s => some ([], s)

def exponent? : List Char → Option (List Char × List Char)
  | c :: rest =>
    if c == 'e' || c == 'E' then
      match rest with
      | '+' :: rest => (digits? rest).map fun (ds, rest) => (c :: '+' :: ds, rest)
      | '-' :: rest => (digits? rest).map fun (ds, rest) => (c :: '-' :: ds, rest)
      | rest => (digits? rest).map fun (ds, rest) => (c :: ds, rest)
    else some ([], c :: rest)
  | [] => some ([], [])

def number? (s : List Char) : Option (String × List Char) := do
  let (sign, s) := match s with
    | '-' :: rest => (['-'], rest)
    | s => ([], s)
  let (whole, s) ← wholePart? s
  let (fraction, s) ← fraction? s
  let (exponent, s) ← exponent? s
  return (String.ofList (sign ++ whole ++ fraction ++ exponent), s)

def literal? (word : List Char) (value : Json) (s : List Char) : Option (Json × List Char) :=
  if word.isPrefixOf s then some (value, s.drop word.length) else none

mutual

/-- A value and the text after it. Each nested value is shorter than the text around it, so the
length of the text is fuel enough. -/
def value? : Nat → List Char → Option (Json × List Char)
  | 0, _ => none
  | fuel + 1, s =>
    match skipBlanks s with
    | '[' :: rest =>
      match skipBlanks rest with
      | ']' :: rest => some (.array [], rest)
      | rest => (items? fuel [] rest).map fun (items, rest) => (.array items, rest)
    | '\x7b' :: rest =>
      match skipBlanks rest with
      | '\x7d' :: rest => some (.object [], rest)
      | rest => (members? fuel [] rest).map fun (members, rest) => (.object members, rest)
    | '"' :: rest => (string? rest).map fun (s, rest) => (.string s, rest)
    | 't' :: rest => literal? "rue".toList (.bool true) rest
    | 'f' :: rest => literal? "alse".toList (.bool false) rest
    | 'n' :: rest => literal? "ull".toList .null rest
    | s => (number? s).map fun (literal, rest) => (.number literal, rest)

/-- Items up to the closing bracket, with the items read before them last first. -/
def items? : Nat → List Json → List Char → Option (List Json × List Char)
  | 0, _, _ => none
  | fuel + 1, read, s => do
    let (item, rest) ← value? fuel s
    match skipBlanks rest with
    | ',' :: rest => items? fuel (item :: read) rest
    | ']' :: rest => return ((item :: read).reverse, rest)
    | _ => none

/-- Members up to the closing brace, with the members read before them last first. -/
def members? : Nat → List (String × Json) → List Char →
    Option (List (String × Json) × List Char)
  | 0, _, _ => none
  | fuel + 1, read, s => do
    let rest ← match skipBlanks s with
      | '"' :: rest => some rest
      | _ => none
    let (name, rest) ← string? rest
    let rest ← match skipBlanks rest with
      | ':' :: rest => some rest
      | _ => none
    let (value, rest) ← value? fuel rest
    match skipBlanks rest with
    | ',' :: rest => members? fuel ((name, value) :: read) rest
    | '\x7d' :: rest => return (((name, value) :: read).reverse, rest)
    | _ => none

end

end Reader

/-- Reads a document. -/
def parse? (text : List Char) : Option Json := do
  let (value, rest) ← Reader.value? (text.length + 1) text
  if (Reader.skipBlanks rest).isEmpty then return value else none

end ClusterDns.Json
