import ClusterDns.Unicode.Mapping

/-! Small letters. A capital sigma at the end of a word becomes the final sigma; all other letters
become the same small letter wherever they stand. -/

namespace ClusterDns.Unicode

/-- The small form of each character that has one. -/
def smallForms : List Run := Runs.ofLines [
  "41+1A>61 65+17>E0 1+7>F8 21+30^ =69.307 1+6^ 1+10^ 1+2E^ >FF +6^ 2>253 +4^ >254 >188 1+2>256",
  ">18C 2>1DD >259 >25B >192 1>260 >263 1>269 >268 >199 3>26F >272 1>275 +6^ >280 >1A8 1>283 2>1AD",
  "1>288 >1B0 1+2>28A +4^ >292 >1B9 3>1BD 7>1C6 >1C6 1>1C9 >1C9 1>1CC +12^ 1+12^ 1>1F3 +4^ >195",
  ">1BF +28^ >19E 1+12^ 6>2C65 >23C 1>19A >2C66 2>242 1>180 >289 >28C +A^ 120+4^ 2>377 8>3F3 6>3AC",
  "1+3>3AD 1>3CC 1+2>3CD 1+11>3B1 1+9>3C3 23>3D7 8+18^ 4>3B8 2>3F8 1>3F2 >3FB 2+3>37B +10>450",
  "+20>430 30+22^ 8+36^ >4CF +E^ 1+60^ 1+26>561 B49+26>2D00 1>2D27 5>2D2D 2D2+50>AB70 +6>13F8",
  "893>1C8A 6+2B>10D0 2+3>10FD 140+96^ 8>DF 1+60^ 8+8>1F00 8+6>1F10 A+8>1F20 8+8>1F30 8+6>1F40",
  "B>1F51 1>1F53 1>1F55 1>1F57 8+8>1F60 18+8>1F80 8+8>1F90 8+8>1FA0 8+2>1FB0 +2>1F70 >1FB3",
  "B+4>1F72 >1FC3 B+2>1FD0 +2>1F76 C+2>1FE0 +2>1F7A >1FE5 B+2>1F78 +2>1F7C >1FF3 129>3C9 3>6B >E5",
  "6>214E 2D+10>2170 13>2184 332+1A>24D0 730+30>2C30 30>2C61 1>26B >1D7D >27D 2+6^ >251 >271 >250",
  ">252 1>2C73 2>2C76 8+2>23F +64^ 7+4^ 3>2CF3 794D+2E^ 12+1C^ 86+E^ 2+3E^ 9+4^ >1D79 +A^ 3>A78C",
  "1>265 2+4^ 2+14^ >266 >25C >261 >26C >26A 1>29E >287 >29D >AB53 +10^ >A794 >282 >1D8E +4^ >264",
  "+10^ >19B 18>A7F6 572B+1A>FF41 4C5+28>10428 88+24>104D8 9C+B>10597 1+F>105A3 1+7>105B3",
  "1+2>105BB 6EA+33>10CC0 9D+16>10D70 B3A+20>118C0 5580+20>16E60 40+19>16EBB 7A47+22>1E922"]

/-- Letters that are capital, small or title letters. -/
def cased : List Run := Runs.ofLines [
  "41+1A 6+1A 2F A 4 5+17 1+1F 1+C3 1+4 4+D0 2+23 7+2 1E+5 60 2A+4 2+2 2+4 1 6 1+3 1 1+14 1+53",
  "1+8B 8+A6 1+26 9+29 B17+26 1 5 2+2B 1+4 2A0+56 2+6 882+B 5+2B 2+3 40+C0 40+116 2+6 2+26 2+6 2+8",
  "1 1 1 1+1F 2+35 1+7 1 3+3 1+7 3+4 2+6 4+D 5+3 1+7 74 D 10+D 65 4 2+A 1 3+5 6 1 1 1+4 1+6 4 2+4",
  "5+5 4 11+20 3+2 331+34 716+E5 6+4 3+2 C+26 1 5 7912+2E 12+1E 84+66 3+4 1+4D 14+6 1+3 335+2B 1+E",
  "6+50 4F40+7 C+5 409+1A 6+1A 4A5+50 60+24 4+24 74+B 1+F 1+7 1+2 1+B 1+F 1+7 1+2 1C3 2+3 1+2A 1+9",
  "4C5+33 D+33 5D+16 A+16 B1A+40 5560+40 20+19 2+19 652C+55 1+47 1+2 2 2+2 2+4 1+C 1 1+7 1+41 1+4",
  "2+8 1+7 1+1C 1+4 1+5 1 3+7 1+154 2+19 1+19 1+1F 1+19 1+1F 1+19 1+1F 1+19 1+1F 1+19 1+8 734+A",
  "1+14 6+6 105+3E 892+44 7EC+1A 6+1A 6+1A"]

/-- Characters that are passed over when the end of a word is looked for. -/
def passedOver : List Run := Runs.ofLines [
  "27 6 B 23 1 47 4 1 4 2+2 1F7+C0 4+2 4 9+2 1 FB+7 CF 5 31+2D 1 1+2 1+2 1 2C B+6 A+B 1 23 A+15 10",
  "65+8 1+A 1+4 21 1 1E+1B 5B+B 3A+B 4 2 18+18 2B+3 2C 7+2 5+9 29+3A 37 1 4+8 4 3+7 A+2 D F 3A 4+4",
  "8 14+2 1A 2+2 39 4+2 4+2 2+3 3 1E+2 3 B+2 39 4+5 1+2 4 14+2 16+6 1 3A 2 1+4 8 7+2 B+2 1E 3D C",
  "32 3 37 1+3 5+3 1+4 7+2 B+2 1D 3A 2 6 5+2 14+2 1C+2 39+2 4+4 8 14+2 1D 48 7+3 1 5A 2+7 B+9 62",
  "2+9 9 1+7 49+2 1B 1 1 37+E 1+5 1+2 5+B 1+24 9 66+4 1+6 1+2 2+2 19+2 4+3 10+4 D 2+2 6 F 5E 260+3",
  "3B2+3 1D+2 1E+2 1E+2 40+2 1+7 8 2+B 3 5 2D+5 33 41+2 22 76+3 4+2 9 6+3 DB+2 2 3A 1+7 1 1 2+8",
  "6+A 2 27 8+2E 2+C 14+4 30 1+5 1 5 28+9 C+2 20+4 2+2 1+3 38 1+2 3 1+3 3A+8 2+2 40+6 52+3 1+D 1+7",
  "4 6 3+2 32+3F D 22+65 1BD 1+3 B+3 D+3 D+3 D+2 C+5 8+2 A 2 2+5 31+5 1+A 1 D 10+D 33+21 B8B+2",
  "71+3 7D F 60+20 2F 1D5 24+4 3+5 5 5D+6 5D+3 6F16 4E2+6 10E 62+4 1+A 1 1C+4 50+2 E+22 4E 17+3",
  "66+4 3+2 8 3 4 19+2 5 97+2 1A+12 D 26+8 19+B 2E+3 30 2+4 2+2 11 15+2 42+6 2+2 2+2 C 8 23 B 33",
  "1+3 2+2 5+2 1 1B E+2 5+2 1 64+5 9+3 79 2 4 4F30 93+11 23D+10 3 C+10 22 2 A9 7 6 B 23 1 2F 2D+2",
  "43 15+3 201 E2 95+5 405+6 1+2A 1+9 246+3 1+2 5+4 28+3 4 A5+2 23D+4 26 1A+5 1 13B+2 18 34+6 46+B",
  "31+4 7B 36+F 29 2+2 A+3 31+4 2+2 2 4 A 32+3 24+5 1+8 3E C+2 34+9 A+4 2 5F+3 2 1+2 6 2 9D 3+8",
  "15+2 39+2 3 25+7 3+5 46+6 D 1 1 E+2 55+8 2+3 1 17 54+6 1 4+2 1+2 EE+4 6+2 1+2 1B+2 55+8 2 1+2",
  "6A 1 2+6 1 65 1 2+4 1+5 103+9 1+2 100+2 1 4 90+4 2+2 4 20+A 28+6 2+4 8 9+6 2+3 2E+D 1+2 C6 1+3",
  "1 C9+7 1+6 1 52+16 2+7 1+2 1+2 7A+6 3 1+2 1+7 1 48+2 3 1 41 119+2 B+2 34+5 5 1 17 14D5+11 6+F",
  "2CC8+C 3+3 9C0+5 3B+7 9+4 1FC+3 28+2 1E2 3F+11 40+2 1+2 D+2 3FFC+4 1+7 1+2 C9E+2 1+4 125C+2E",
  "2+17 220+3 9+10 2+7 1E+4 94+3 7BB+37 4+32 8 E 16+5 1+F 550+7 1+11 2+7 1+2 1+5 5+3E 21 A0+E 170",
  "3D+4 1FB+5 FE+2 F3 2 7+2 5 9 1D0+7 6D+8 AAF+5 C0C01 1E+60 80+F0"]

/-- Whether the next character that counts is a letter with case. -/
def meetsLetter (s : List Char) : Bool :=
  match s.dropWhile (Runs.contains passedOver) with
  | c :: _ => Runs.contains cased c
  | [] => false

/-- The small form of a character after the ones in front of it, the last one first. -/
def small (before : List Char) (c : Char) (after : List Char) : List Char :=
  if c == 'Σ' && meetsLetter before && !meetsLetter after then ['ς']
  else (mapped? smallForms c).getD [c]

def lowercaseAfter : List Char → List Char → List Char
  | _, [] => []
  | before, c :: rest => small before c rest ++ lowercaseAfter (c :: before) rest

def lowercase (s : String) : String := String.ofList (lowercaseAfter [] s.toList)

end ClusterDns.Unicode
