import ClusterDns.Unicode.Runs

/-! The direction in which characters are written, and the rule that keeps labels readable where
both directions meet in one name. -/

namespace ClusterDns.Unicode

/-- Classes of characters by direction; letters written from left to right are in none. -/
def directions : List Run := Runs.ofLines [
  "+9:BN +5:ON +E:BN +7:ON +3:ET +5:ON :ES :CS :ES +2:CS +A:EN :CS +6:ON 1A+6:ON 1A+4:ON :BN 21:ON",
  "+4:ET +9:ON 1+2:ET 4+22:ON 1F:ON 1C1+2:ON 7+E:ON 2+1C:ON 1+11:ON +70:NSM 5:ON 80:ON 8C+7:NSM",
  "100+5:ON :ET 1+2D:NSM :R :NSM :R +2:NSM :R +2:NSM :R :NSM 8+25:R 11+2:ON :AL +2:ET :AL :CS :AL",
  "+2:ON +B:NSM +30:AL +15:NSM +A:AN :ET +2:AN +3:AL :NSM +65:AL +7:NSM 1:ON +6:NSM +2:AL +2:NSM",
  ":ON +4:NSM +2:AL +A:EN +17:AL :NSM +1E:AL +1B:NSM 2+59:AL +B:NSM :AL E+2B:R +9:NSM +2:R +4:ON",
  ":R 2:NSM +18:R +4:NSM :R +9:NSM :R +3:NSM :R +5:NSM 2+29:R +3:NSM 2:R 1+38:AL +8:NSM +2A:AL",
  "+39:NSM 37:NSM 1:NSM 4+8:NSM 4:NSM 3+7:NSM A+2:NSM 1D:NSM 3A:NSM 4+4:NSM 8:NSM 14+2:NSM E+2:ET",
  "7:ET 2+5:NSM 39:NSM 4+11:NSM 1E+2:NSM 3:NSM B+2:NSM 39:NSM 4+8:NSM 4:NSM 14+2:NSM D:ET 8+8:NSM",
  "3A:NSM 2:NSM 1+4:NSM 8+A:NSM B+2:NSM 1E:NSM 3D:NSM C:NSM 25+6:ON :ET :ON 5:NSM 3:NSM 37:NSM",
  "1+3:NSM 5+11:NSM B+2:NSM 14+7:ON 2:NSM 3A:NSM F+2:NSM 14+2:NSM 1C+2:NSM 39+2:NSM 4+4:NSM 8:NSM",
  "14+2:NSM 1D:NSM 48:NSM 7+5:NSM 5A:NSM 2+7:NSM 4:ET 7+8:NSM 62:NSM 2+9:NSM B+7:NSM 49+2:NSM",
  "1B:NSM 1:NSM 1:NSM +4:ON 33+E:NSM 1+5:NSM 1+2:NSM 5+30:NSM 9:NSM 66+4:NSM 1+6:NSM 1+2:NSM",
  "2+2:NSM 19+2:NSM 4+3:NSM 10+4:NSM D:NSM 2+2:NSM 6:NSM F:NSM 2BF+3:NSM 30+A:ON 66:ON 29A+2:ON",
  "75+3:NSM 1D+2:NSM 1E+2:NSM 1E+2:NSM 43+7:NSM 8:NSM 2+B:NSM 7:ET 1:NSM 12+1B:ON 7A+2:NSM 22:NSM",
  "76+3:NSM 4+2:NSM 9:NSM 6+3:NSM 4+6:ON 98+22:ON 17+2:NSM 2:NSM 3A:NSM 1+9:NSM 1:NSM 2+8:NSM",
  "6+D:NSM 30+1F:NSM 31+4:NSM 30:NSM 1+5:NSM 1:NSM 5:NSM 28+9:NSM C+2:NSM 20+4:NSM 2+2:NSM 1+3:NSM",
  "38:NSM 1+2:NSM 3:NSM 1+3:NSM 3A+8:NSM 2+2:NSM 98+3:NSM 1+D:NSM 1+7:NSM 4:NSM 6:NSM 3+2:NSM",
  "C6+40:NSM 20C+2:BN 2+18:ON 8+3:ET 2+F:ON :CS +1A:ON 41+22:ET E+21:NSM 13+26:ON 4:ET B+14:ON",
  "3C+88:ON :ES :ET +122:ON 45+1A:ON 1+91:ON 19+26C:ON 1+153:ON 100+296:ON 1+69:ON E5+6:ON 4+3:NSM",
  "7+7:ON 7F:NSM 60+20:NSM +205:ON 3+19:ON 9+4:NSM 2:ON 6:ON 5+3:ON 59+2:NSM 5:ON 5A:ON C4+24:ON",
  "1BDC+40:ON 5690+37:ON 146+3:ON 5F+4:NSM :ON +A:NSM +2:ON 1E+2:NSM 50+2:NSM E+22:ON 66:ON 79:NSM",
  "3:NSM 4:NSM 19+2:NSM 1+4:ON :NSM B+2:ET 3A+4:ON 4C+2:NSM 1A+12:NSM D:NSM 26+8:NSM 19+B:NSM",
  "2E+3:NSM 30:NSM 2+4:NSM 2+2:NSM 27:NSM 43+6:NSM 2+2:NSM 2+2:NSM C:NSM 8:NSM 2F:NSM 33:NSM",
  "1+3:NSM 2+2:NSM 5+2:NSM 1:NSM 2A+2:NSM 8:NSM 73+2:ON 79:NSM 2:NSM 4:NSM 4F30:NSM 93+21:AL",
  "16B+12:ON 40+3F:AL +31:ON 20+10:NSM 15+2:ON 2C:AL 28D:ON 3E+4D:ON 3+11:ON 5C:NSM E2:NSM +1B:EN",
  "7A+5:NSM 485+11C:R 3:ON +E1:R +F:NSM +26:R 2+8:NSM +A5:R +2:NSM 4+4B:R 3+7:ON +1C0:R +24:AL",
  "+4:NSM 8+A:AN 6+50:R D0+1F:AN 1+2A:R 1+2:NSM +5:R 10+3B:AL +3:NSM +28:R 8+16:AL +B:NSM +9:AL",
  "16+12:R +4:NSM +71:R A:NSM 36+F:NSM B+14:ON A:NSM 2+2:NSM A+3:NSM 31+4:NSM 2+2:NSM 7:NSM",
  "3D+3:NSM 24+5:NSM 1+8:NSM 3E:NSM C+2:NSM 34+9:NSM A+4:NSM 2:NSM 5F+3:NSM 2:NSM 1+2:NSM 6:NSM",
  "2:NSM 9D:NSM 3+8:NSM 15+2:NSM 39+2:NSM 3:NSM 25+F:NSM C3+8:NSM 2+3:NSM 1:NSM 17:NSM 54+6:NSM",
  "1:NSM 4+2:NSM 1+2:NSM EE+4:NSM 6+2:NSM 1+2:NSM 1B+2:NSM 55+8:NSM 2:NSM 1+2:NSM 1F+D:ON 3E:NSM",
  "1:NSM 2+6:NSM 1:NSM 65+3:NSM 2+4:NSM 1+5:NSM 103+9:NSM 1+2:NSM 100+2:NSM 1:NSM 4:NSM 90+8:NSM",
  "4:NSM 20+6:NSM 2+2:NSM 28+6:NSM 2+4:NSM 8:NSM 9+6:NSM 2+3:NSM 2E+D:NSM 1+2:NSM 196+E:NSM",
  "54+16:NSM 2+7:NSM 1+2:NSM 1+2:NSM 7A+15:NSM 1:NSM 48+2:NSM 3:NSM 1:NSM 15B+2:NSM B+2:NSM",
  "34+5:NSM 5:NSM 1:NSM 92+8:ON +4:ET +11:ON 144E:NSM 6+F:NSM 369A+5:NSM 3B+7:NSM 418:NSM 3F+4:NSM",
  "4F:ON 1:NSM 4CB8+2:NSM 1261+47:NSM 220+3:NSM 11+8:NSM 2+7:NSM 1E+4:NSM 3B+59:ON +3:NSM :ON",
  "BA+57:ON 6A9+37:NSM 4+32:NSM 8:NSM E:NSM 16+15:NSM 550+90:NSM A0+7:NSM 177:NSM 3D+4:NSM F:ET",
  "1EC+4:NSM 310+D0:R +7:NSM 4B+22:R +7:NSM +15:R 311+CD:AL 1B2+240:ON 3D+3:ON 3D:ON B2+478:ON",
  "4+9B:ON 4+137:ON 4E+154:ON C+29:ON 7+2E:ON 1+7:ON 8+E:ON 4+9:ON 7+DB:ON"]

inductive Direction where
  | leftToRight
  | rightToLeft
  | arabicLetter
  | arabicNumber
  | europeanNumber
  | europeanSeparator
  | commonSeparator
  | europeanTerminator
  | neutral
  | boundary
  | mark
  deriving DecidableEq

namespace Direction

def ofValue : String → Direction
  | ":R" => rightToLeft
  | ":AL" => arabicLetter
  | ":AN" => arabicNumber
  | ":EN" => europeanNumber
  | ":ES" => europeanSeparator
  | ":CS" => commonSeparator
  | ":ET" => europeanTerminator
  | ":ON" => neutral
  | ":BN" => boundary
  | ":NSM" => mark
  | _ => leftToRight

def of (c : Char) : Direction :=
  match Runs.value? directions c with
  | some value => ofValue (String.ofList value)
  | none => leftToRight

/-- Characters that make a name one of both directions. -/
def isRightward : Direction → Bool
  | rightToLeft | arabicLetter | arabicNumber => true
  | _ => false

/-- Characters that may stand in a label of either direction. -/
def isShared : Direction → Bool
  | europeanNumber | europeanSeparator | commonSeparator | europeanTerminator | neutral | boundary
  | mark => true
  | _ => false

end Direction

/-- A label written from left to right has no other letters and ends in a letter or a number. -/
def isLeftToRightLabel (classes : List Direction) : Bool :=
  classes.all (fun d => d = .leftToRight || d.isShared)
    && (match classes.reverse.dropWhile (· = .mark) with
      | d :: _ => d = .leftToRight || d = .europeanNumber
      | [] => false)

/-- A label written from right to left has no other letters, ends in a letter or a number, and has
numbers of one kind only. -/
def isRightToLeftLabel (classes : List Direction) : Bool :=
  classes.all (fun d => d.isRightward || d.isShared)
    && (match classes.reverse.dropWhile (· = .mark) with
      | d :: _ => d.isRightward || d = .europeanNumber
      | [] => false)
    && !(classes.contains .europeanNumber && classes.contains .arabicNumber)

/-- The rule for one label of a name of both directions. -/
def isDirected (label : List Char) : Bool :=
  match label.map Direction.of with
  | [] => true
  | .leftToRight :: rest => isLeftToRightLabel (.leftToRight :: rest)
  | .rightToLeft :: rest => isRightToLeftLabel (.rightToLeft :: rest)
  | .arabicLetter :: rest => isRightToLeftLabel (.arabicLetter :: rest)
  | _ => false

end ClusterDns.Unicode
