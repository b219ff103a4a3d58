import ClusterDns.Text.Numeral

/-! Percent-encoding: a byte as a percent sign and two digits in base 16. Each part of a URL has a
set of characters that are written so; characters outside ASCII always are, byte for byte of their
UTF-8 form. -/

namespace ClusterDns.Url.Percent

/-- The characters that one part of a URL does not show as they are. -/
abbrev CharSet := Char → Bool

def controls : CharSet := fun c => c.toNat < 0x20 || 0x7F ≤ c.toNat

def fragment : CharSet := fun c =>
  controls c || c == ' ' || c == '"' || c == '<' || c == '>' || c == '`'

def query : CharSet := fun c =>
  controls c || c == ' ' || c == '"' || c == '#' || c == '<' || c == '>'

def specialQuery : CharSet := fun c => query c || c == '\''

def path : CharSet := fun c => fragment c || c == '#' || c == '?' || c == '{' || c == '}'

def userinfo : CharSet := fun c =>
  path c || c == '/' || c == ':' || c == ';' || c == '=' || c == '@' || c == '[' || c == '\\'
    || c == ']' || c == '^' || c == '|'

/-- What a single segment may not show, so that it stays one segment. -/
def segment : CharSet := fun c => path c || c == '/' || c == '%'

def specialSegment : CharSet := fun c => segment c || c == '\\'

def ofByte (b : UInt8) : List Char :=
  ['%', Text.hexDigit true (b.toNat / 16), Text.hexDigit true (b.toNat % 16)]

def encodeChar (set : CharSet) (c : Char) : List Char :=
  if set c then (String.utf8EncodeChar c).flatMap ofByte else [c]

def encode (set : CharSet) (s : List Char) : String := String.ofList (s.flatMap (encodeChar set))

/-- The bytes a text stands for; a percent sign without two digits stands for itself. -/
def decode : List Char → List UInt8
  | [] => []
  | '%' :: high :: low :: rest =>
    match Text.hexValue? high, Text.hexValue? low with
    | some h, some l => UInt8.ofNat (h * 16 + l) :: decode rest
    | _, _ => 0x25 :: decode (high :: low :: rest)
  | c :: rest => String.utf8EncodeChar c ++ decode rest

end ClusterDns.Url.Percent
