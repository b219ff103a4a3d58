import ClusterDns.Unicode.Composition

/-! The two joiners, which have no glyph of their own. A label may have one only where it changes
how its neighbours look. -/

namespace ClusterDns.Unicode

/-- How characters join their neighbours: on the right side (`R`), on the left (`L`), on both (`D`),
or not at all while letting the neighbours join (`T`). -/
def joiningTypes : List Run := Runs.ofLines [
  "300+70:T 113+7:T 107+2D:T 1:T 1+2:T 1+2:T 1:T 48+B:T 5:D 1+4:R :D :R :D :R +5:D +4:R +D:D :C",
  "+7:D :R +2:D +15:T E+2:D :T +3:R 5+F:D +12:R +26:D :R +2:D +9:R :D :R :D :R +2:D +2:R 1:R +7:T",
  "2+6:T 2+2:T 1+4:T +2:R A+3:D 2:D 10:R :T +3:D +5:R +4:D :R +9:D :R :D :R :D :R +2:D :R +1B:T",
  "2:R +B:D +3:R +F:D +2:R +4:D :R :D +2:R +3:D +2:R +6:D 26+B:T 19+21:D +9:T 6:C 2:T 18+4:T 1+9:T",
  "1+3:T 1+5:T 12:R +5:D +2:R :D :R +A:D :R :D +3:R +3:T 4:D 1+4:D 1:R :D +1A:R +3:C :D 2+5:D :R",
  "9+8:T +A:D +3:R 1:R +2:D +2:R +6:D :R +F:D 1+39:T 37:T 1:T 4+8:T 4:T 3+7:T A+2:T 1D:T 3A:T",
  "4+4:T 8:T 14+2:T 1A+5:T 39:T 4+11:T 1E+2:T 3:T B+2:T 39:T 4+8:T 4:T 14+2:T 16+8:T 3A:T 2:T",
  "1+4:T 8+A:T B+2:T 1E:T 3D:T C:T 32:T 3:T 37:T 1+3:T 5+11:T B+2:T 1D:T 3A:T 2:T 6:T 5+2:T 14+2:T",
  "1C+2:T 39+2:T 4+4:T 8:T 14+2:T 1D:T 48:T 7+5:T 5A:T 2+7:T C+8:T 62:T 2+9:T B+7:T 49+2:T 1B:T",
  "1:T 1:T 37+E:T 1+5:T 1+2:T 5+30:T 9:T 66+4:T 1+6:T 1+2:T 2+2:T 19+2:T 4+3:T 10+4:T D:T 2+2:T",
  "6:T F:T 2BF+3:T 3B2+3:T 1D+2:T 1E+2:T 1E+2:T 43+7:T 8:T 2+B:T 9:T 29:D 2:C 15+59:D C+2:T +22:D",
  ":T :D 75+3:T 4+2:T 9:T 6+3:T DB+2:T 2:T 3A:T 1+9:T 1:T 2+8:T 6+D:T 30+1F:T 31+4:T 30:T 1+5:T",
  "1:T 5:T 28+9:T C+2:T 20+4:T 2+2:T 1+3:T 38:T 1+2:T 3:T 1+3:T 3A+8:T 2+2:T 98+3:T 1+D:T 1+7:T",
  "4:T 6:T 3+2:T C6+40:T 20D:C C2+21:T BFE+3:T 8D:T 60+20:T 22A+4:T 6B+2:T 75D4+4:T 1+A:T 20+2:T",
  "50+2:T 110:T 3:T 4:T 19+2:T 5:T 13+32:D :L 51+2:T 1A+12:T D:T 26+8:T 19+B:T 2E+3:T 30:T 2+4:T",
  "2+2:T 27:T 43+6:T 2+2:T 2+2:T C:T 8:T 2F:T 33:T 1+3:T 2+2:T 5+2:T 1:T 2A+2:T 8:T EE:T 2:T 4:T",
  "4F30:T 301+10:T 3CD:T E2:T 95+5:T 686+F:T 28+8:T 80+5:D :R 1:R 1+2:R 2:L +5:R +4:D :L +5:D :R",
  "+3:D :R 2:R +2:T 4+4:D :R 90:D :R :D +3:R +3:D :R +2:D :R :D +2:R :D :R 17+4:R +2:D 151:L +21:D",
  ":R :D +4:T 183+2:T 50+3:T 30+3:D :R +11:D 1+B:T +3:D :R 1B+4:D +2:R +C:D +4:T 2A:D 1+2:D +3:R",
  "1:D +2:R +2:D :R +2:D 1:D +2:R :D 4:R :D :L 35:T 36+F:T 29:T 2+2:T A+3:T 31+4:T 2+2:T 7:T",
  "3D+3:T 24+5:T 1+8:T 3E:T C+2:T 34+9:T A+4:T 2:T 5F+3:T 2:T 1+2:T 6:T 2:T 9D:T 3+8:T 15+2:T",
  "39+2:T 3:T 25+F:T C3+8:T 2+3:T 1:T 17:T 54+6:T 1:T 4+2:T 1+2:T EE+4:T 6+2:T 1+2:T 1B+2:T 55+8:T",
  "2:T 1+2:T 6A:T 1:T 2+6:T 1:T 65+3:T 2+4:T 1+5:T 103+9:T 1+2:T 100+2:T 1:T 4:T 90+8:T 4:T 20+A:T",
  "28+6:T 2+4:T 8:T 9+6:T 2+3:T 2E+D:T 1+2:T 196+E:T 1:T 52+16:T 2+7:T 1+2:T 1+2:T 7A+15:T 1:T",
  "48+2:T 3:T 1:T 15B+2:T B+2:T 34+5:T 5:T 1:T 14FD:T 6+F:T 369A+5:T 3B+7:T 418:T 3F+4:T 51:T",
  "4CB8+2:T 1261+47:T 220+3:T 11+8:T 2+7:T 1E+4:T 94+3:T 7BB+37:T 4+32:T 8:T E:T 16+15:T 550+90:T",
  "A0+7:T 177:T 3D+4:T 1FC+4:T 3E0+7:T 4B+22:D +8:T"]

def hasJoining (types : List Char) (c : Char) : Bool :=
  match Runs.value? joiningTypes c with
  | some [':', t] => types.contains t
  | _ => false

/-- The sign that takes the vowel from a consonant. -/
def isVirama (c : Char) : Bool := combiningClass c == 9

/-- Whether the nearest character that does not let its neighbours join is of one of some types. -/
def nextJoins (types : List Char) (s : List Char) : Bool :=
  match s.dropWhile (hasJoining ['T']) with
  | c :: _ => hasJoining types c
  | [] => false

/-- Whether a character may stand after the ones in front of it, the last one first. -/
def joinerFits (before : List Char) (c : Char) (after : List Char) : Bool :=
  let afterVirama := match before with
    | v :: _ => isVirama v
    | [] => false
  if c.toNat == 0x200D then afterVirama
  else if c.toNat == 0x200C then
    afterVirama || (nextJoins ['L', 'D'] before && nextJoins ['R', 'D'] after)
  else true

def joinersFitAfter : List Char → List Char → Bool
  | _, [] => true
  | before, c :: rest => joinerFits before c rest && joinersFitAfter (c :: before) rest

def joinersFit (label : List Char) : Bool := joinersFitAfter [] label

end ClusterDns.Unicode
