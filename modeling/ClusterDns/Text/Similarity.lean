/-! How alike two texts are: the share of the characters that they have in common at about the same
places, less half of those that stand in another order. -/

namespace ClusterDns.Text.Similarity

/-- A share, as a fraction. -/
structure Share where
  part : Nat
  whole : Nat

namespace Share

def isBelow (a b : Share) : Bool := a.part * b.whole < b.part * a.whole

end Share

/-- Finds a character among some, within the first few of them, and crosses it out there. Crossed
out characters are kept as `none`. -/
def crossOut (c : Char) : Nat → Nat → List (Option Char) → Option (List (Option Char))
  | _, 0, _ => none
  | _, _, [] => none
  | skip + 1, count + 1, d :: rest => (crossOut c skip count rest).map (d :: ·)
  | 0, count + 1, d :: rest =>
    if d = some c then some (none :: rest) else (crossOut c 0 count rest).map (d :: ·)

/-- The characters of the first text that are found near their place in the second one, and what is
left of the second one. -/
def matched (range : Nat) : Nat → List Char → List (Option Char) → List Char × List (Option Char)
  | _, [], b => ([], b)
  | i, c :: rest, b =>
    match crossOut c (i - range) (i + range + 1) b with
    | some b =>
      let (found, b) := matched range (i + 1) rest b
      (c :: found, b)
    | none => matched range (i + 1) rest b

/-- The characters that have been crossed out. -/
def crossedOut : List Char → List (Option Char) → List Char
  | c :: rest, none :: marks => c :: crossedOut rest marks
  | _ :: rest, some _ :: marks => crossedOut rest marks
  | _, _ => []

def share (a b : List Char) : Share :=
  let range := max a.length b.length / 2 - 1
  let (found, rest) := matched range 0 a (b.map some)
  let others := crossedOut b rest
  let common := found.length
  let moved := ((found.zip others).filter fun (c, d) => c ≠ d).length / 2
  if common = 0 then ⟨0, 1⟩
  else
    ⟨common * common * b.length + common * common * a.length
        + (common - moved) * a.length * b.length,
      3 * a.length * b.length * common⟩

/-- The last of the texts most like a given one, if they are more than 70 percent like it. -/
def closest? (s : String) (others : List String) : Option String :=
  (others.foldl (fun (best : Option (String × Share)) other =>
    let share := share s.toList other.toList
    if Share.isBelow ⟨7, 10⟩ share && !(best.any fun b => share.isBelow b.2)
    then some (other, share) else best) none).map (·.1)

end ClusterDns.Text.Similarity
