import ClusterDns.Text.Split

/-! Blank characters, as Unicode's White_Space property lists them, with the two readings that
rest on them: a text without the blanks around it, and the fields of a line. -/

namespace ClusterDns.Text

def isBlank (c : Char) : Bool :=
  let n := c.toNat
  (9 ≤ n && n ≤ 13) || n == 0x20 || n == 0x85 || n == 0xA0 || n == 0x1680
    || (0x2000 ≤ n && n ≤ 0x200A) || n == 0x2028 || n == 0x2029 || n == 0x202F || n == 0x205F
    || n == 0x3000

def trim (s : List Char) : List Char :=
  ((s.dropWhile isBlank).reverse.dropWhile isBlank).reverse

/-- The runs of characters between blanks. -/
def fields (s : List Char) : List (List Char) :=
  (splitOn isBlank s).filter (!·.isEmpty)

def isBlankText (s : List Char) : Bool := s.all isBlank

end ClusterDns.Text
