/-! UTF-8, written and read. Reading never fails: bytes that start no character stand as U+FFFD, one
for each maximal piece of a character that breaks off. -/

namespace ClusterDns.Text.Utf8

def encode (s : List Char) : List UInt8 := s.flatMap String.utf8EncodeChar

/-- What a first byte promises: how many bytes follow, the bounds of the one after it, and the bits
it carries itself. -/
def promise (lead : Nat) : Option (Nat × Nat × Nat × Nat) :=
  if lead < 0x80 then some (0, 0x80, 0xBF, lead)
  else if lead < 0xC2 then none
  else if lead < 0xE0 then some (1, 0x80, 0xBF, lead - 0xC0)
  else if lead == 0xE0 then some (2, 0xA0, 0xBF, 0)
  else if lead == 0xED then some (2, 0x80, 0x9F, 0xD)
  else if lead < 0xF0 then some (2, 0x80, 0xBF, lead - 0xE0)
  else if lead == 0xF0 then some (3, 0x90, 0xBF, 0)
  else if lead < 0xF4 then some (3, 0x80, 0xBF, lead - 0xF0)
  else if lead == 0xF4 then some (3, 0x80, 0x8F, 4)
  else none

/-- Collects the bytes that were promised, up to the first one out of bounds. -/
def collect : Nat → Nat → Nat → Nat → List UInt8 → Option Nat × List UInt8
  | 0, _, _, bits, rest => (some bits, rest)
  | _ + 1, _, _, _, [] => (none, [])
  | n + 1, low, high, bits, b :: rest =>
    if low ≤ b.toNat && b.toNat ≤ high then collect n 0x80 0xBF (bits * 64 + b.toNat % 64) rest
    else (none, b :: rest)

/-- The first character and the bytes after it, or the bytes after a piece that is none. -/
def first (lead : UInt8) (rest : List UInt8) : Option Nat × List UInt8 :=
  match promise lead.toNat with
  | none => (none, rest)
  | some (n, low, high, bits) => collect n low high bits rest

theorem length_collect_le (n low high bits : Nat) (bytes : List UInt8) :
    (collect n low high bits bytes).2.length ≤ bytes.length := by
  induction n generalizing low high bits bytes with
  | zero => simp [collect]
  | succ n ih =>
    cases bytes with
    | nil => simp [collect]
    | cons b rest =>
      simp only [collect]
      split
      · exact Nat.le_succ_of_le (ih ..)
      · simp

theorem length_first_le (lead : UInt8) (rest : List UInt8) :
    (first lead rest).2.length ≤ rest.length := by
  unfold first
  split
  · exact Nat.le_refl _
  · exact length_collect_le ..

/-- The characters of a text, with `none` for each piece that is no character. -/
def pieces : List UInt8 → List (Option Nat)
  | [] => []
  | lead :: rest => (first lead rest).1 :: pieces (first lead rest).2
termination_by bytes => bytes.length
decreasing_by exact Nat.lt_succ_of_le (length_first_le lead rest)

def decodeLossy (bytes : List UInt8) : List Char :=
  (pieces bytes).map fun piece => Char.ofNat (piece.getD 0xFFFD)

/-- Reads a text that must be well formed throughout. -/
def decode? (bytes : List UInt8) : Option (List Char) :=
  (pieces bytes).mapM fun piece => piece.map Char.ofNat

end ClusterDns.Text.Utf8
