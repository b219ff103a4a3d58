import ClusterDns.Net.Ipv4

/-! IPv6 addresses: eight groups of 16 bits. A text may leave out one run of zero groups with `::`,
and may write the last two groups as an IPv4 address. -/

namespace ClusterDns.Net

structure Ipv6 where
  groups : List (Fin 65536)
  length_groups : groups.length = 8

namespace Ipv6

/-- One group: one to four digits in base 16. -/
def group? (digits : List Char) : Option (Fin 65536) :=
  if digits.length ≤ 4 then
    (Text.numeral? 16 digits).bind fun n => if h : n < 65536 then some ⟨n, h⟩ else none
  else none

/-- Groups between colons, the last one possibly an IPv4 address that stands for two. -/
def groups? (mayEndInIpv4 : Bool) : List (List Char) → Option (List (Fin 65536))
  | [] => some []
  | [last] =>
    match mayEndInIpv4, Ipv4.parse? last with
    | true, some v4 => some [Fin.ofNat 65536 (v4.toNat / 65536), Fin.ofNat 65536 v4.toNat]
    | _, _ => (group? last).map ([·])
  | piece :: rest => do return (← group? piece) :: (← groups? mayEndInIpv4 rest)

def colonGroups? (mayEndInIpv4 : Bool) (s : List Char) : Option (List (Fin 65536)) :=
  if s.isEmpty then some [] else groups? mayEndInIpv4 (Text.splitOn (· == ':') s)

/-- The text before the first `::` and the text after it. -/
def cutDouble : List Char → List Char × Option (List Char)
  | [] => ([], none)
  | ':' :: ':' :: rest => ([], some rest)
  | c :: rest => let (front, back) := cutDouble rest; (c :: front, back)

def ofGroups? (groups : List (Fin 65536)) : Option Ipv6 :=
  if h : groups.length = 8 then some ⟨groups, h⟩ else none

def parse? (s : List Char) : Option Ipv6 :=
  match cutDouble s with
  | (all, none) => if all.isEmpty then none else (colonGroups? true all).bind ofGroups?
  | (front, some back) => do
    let head ← colonGroups? false front
    let tail ← colonGroups? true back
    if head.length + tail.length < 8 then
      ofGroups? (head ++ List.replicate (8 - head.length - tail.length) 0 ++ tail)
    else none

/-- The longest run of at least two zero groups, the first of its length, as start and length. -/
def longestZeros (groups : List (Fin 65536)) : Nat × Nat :=
  let runs := (List.range groups.length).map fun i =>
    (i, ((groups.drop i).takeWhile (· == 0)).length)
  runs.foldl (fun best run => if 1 < run.2 && best.2 < run.2 then run else best) (0, 0)

def renderGroups (groups : List (Fin 65536)) : String :=
  ":".intercalate (groups.map fun g => String.ofList (Text.hexText false g.val))

/-- Groups in base 16, with the longest run of zeros left out. -/
def render (address : Ipv6) : String :=
  let (start, count) := longestZeros address.groups
  if count == 0 then renderGroups address.groups
  else renderGroups (address.groups.take start) ++ "::"
    ++ renderGroups (address.groups.drop (start + count))

/-- As `render`, with an IPv4 address inside the IPv6 space written in its own form. -/
def renderMapped (address : Ipv6) : String :=
  match address.groups with
  | [0, 0, 0, 0, 0, 65535, high, low] =>
    "::ffff:" ++ (Ipv4.ofNat (high.val * 65536 + low.val)).render
  | _ => address.render

end Ipv6

end ClusterDns.Net
