/-! Bytes written in ASCII: three bytes as four characters of 6 bits each, with equals signs where
the last group is short. -/

namespace ClusterDns.Text.Base64

def digit (n : Nat) : Char :=
  Char.ofNat
    (if n < 26 then 65 + n else if n < 52 then 71 + n else if n < 62 then n - 4
      else if n == 62 then 43 else 47)

/-- The first digits of a group of three bytes. -/
def group (count a b c : Nat) : List Char :=
  let n := a * 65536 + b * 256 + c
  ([n / 262144, n / 4096 % 64, n / 64 % 64, n % 64].take count).map digit

def encode : List UInt8 → List Char
  | [] => []
  | [a] => group 2 a.toNat 0 0 ++ ['=', '=']
  | [a, b] => group 3 a.toNat b.toNat 0 ++ ['=']
  | a :: b :: c :: rest => group 4 a.toNat b.toNat c.toNat ++ encode rest

end ClusterDns.Text.Base64
