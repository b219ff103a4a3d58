import ClusterDns.Unicode.Runs

/-! Which characters can be seen on their own: those with a glyph of their own, and the blank. -/

namespace ClusterDns.Unicode

/-- Controls, formats, separators but for the blank, and code points without a character. -/
def invisible : List Run := Runs.ofLines [
  "+20 5F+22 C 2CA+2 6+4 7 1 14 18D 26+2 32+2 3 37+8 1B+4 6+11 16 C0 30+2 3B+2 65+E 3B+2 31+2 F",
  "1C+2 1 B+5 20+7 4B A1 8+2 2+2 16 7 1+3 4+2 9+2 2+2 4+8 1+4 2 5+2 19+2 3 6+4 2+2 16 7 2 2 2+2 1",
  "5+4 2+2 3+3 1+7 4 1+7 11+A 3 9 3 16 7 2 5+2 A 3 3+2 1+F 4+2 C+7 7 3 8+2 2+2 16 7 2 5+2 9+2 2+2",
  "3+7 3+4 2 5+2 12+A 2 6+3 3 4+3 2 1 2+3 2+3 3+3 C+4 5+3 3 4+2 1+6 1+E 15+5 D 3 17 10+2 9 3 4+7 2",
  "3 2+2 4+2 A+7 16 3 17 A 5+2 9 3 4+7 2+5 3 4+2 A 3+C D 3 33 3 6+4 10+2 1A 3 12+3 18 9 1+2 7+3",
  "1+4 6 1 8+6 A+2 3+C 3A+4 1D+25 2 1 5 18 1 17+2 5 1 7 A+2 4+20 48 24+4 27 24 F D+25 C6 1+5 1+2",
  "179 4+2 7 1 4+2 29 4+2 21 4+2 7 1 4+2 F 39 4+2 43+2 20+3 1A+6 56+2 6+2 280 1C+3 59+7 16+9 18+9",
  "14+C D 3 2+C 5E+2 A+6 A+6 E B+6 59+7 2B+5 46+A 1F C+4 C+4 1+3 2A+2 5+B 2C+4 1A+6 B+3 3E+2 41",
  "1D+2 B+6 A+6 E+2 2E+2 C+14 4D A6+8 3C+3 F+3 3E+5 2B+2 B+8 2B+5 216+2 6+2 26+2 6+2 8 1 1 1 1F+2",
  "35 F E+2 6 13+2 3 9+11 18+8 2F+11 2+2 1B D+3 22+E 21+F 8C+4 29A+16 B+15 714+2 17E+5 2D 1+5 1+2",
  "38+7 2+E 18+9 7 7 7 7 7 7 7 7 7E+22 1A 59+C D6+1A 10 3F 56+2 67+5 2B 5E 56+9 30 726D+3 37+9",
  "15C+14 B8+8 DD+14 3C+3 A+6 38+8 46+8 C+6 74+B 1E+3 4E B+4 21 37+9 E+2 A+2 67+18 1C+A 6+2 6+2",
  "6+9 7 7 3C+4 7E+2 A+6 2BA4+C 17+4 31+2104 16E+2 6A+26 7+C 5+5 1A 5 1 2 2 28A+20 2A+6 33 13 4+4",
  "5 87+4 BE+3 6+2 6+2 6+2 3+3 7 7+D 2+2 C 1A 13 2 F+2 E+22 7B+5 3+4 2D+3 58 D+3 1+2F 2E+82 1D+3",
  "31+F 1C+4 24+9 1E+5 2B+5 1E 25+4 E+2A 9E+2 A+6 24+4 24+4 28+8 34+B C F 7 2 B F 7 2+3 34+C 137+9",
  "16+A 8+18 6 2A 9+45 6+2 1 2C 2+3 1+2 17 48+8 9+30 13 2+5 21+3 1B+5 1B+26 38+4 14+2 32 2+5 8 3",
  "1D+2 3+4 A+7 9+7 40+20 27+4 C+9 36+3 1D+2 1B+5 1A+7 4+C 7+50 49+37 33+D 33+7 2E+8 A+6 26+3 1D+8",
  "2+D0 1F 2A 3+2 2+10 6+8 9+21 2E+8 2A+16 1A+26 1C+14 17+9 4E+4 24+9 3E 5+D 19+7 A+6 35 12+8 27+9",
  "60 14+B 12 2F+3E 7 1 4 F B+6 3B+5 A+6 4 8+2 2+2 16 7 2 5 A+2 2+2 3+2 1+6 1+5 7+2 7+3 5+B A 1+2",
  "1 26 A 1+2 1 4 A 2+8 2+1D 5C 5+1E 48+8 A+A6 36+2 26+22 45+B A+6 D+13 3A+6 A+6 14+1C 1B+2 F+4",
  "17+B9 3C+64 53+C 8+2 1+2 8 2 1E 2+2 C+9 A+46 8+2 2E+2 B+1B 48+8 53+D 49+7 A+56 8+58 22+E A+6 9",
  "2D E+A 1D+3 20+2 16 E+49 7 2 2C+3 1 2 9+8 A+6 6 2 25 2 6+7 A+6 2C+4 A+F6 19+7 11 29+3 1D+55 1+F",
  "32+D 39B+66 6F 5+B C4+A4C 63+D 430+10 16+A F9B+5 247+1AB9 3A+6C6 239+7 1F A+4 51 A+6 1E+2 6+A",
  "46+A A 7 15+5 13+1B0 3A+C6 5B+5 19+2 19+2C 4B+4 39+7 11+40 5+B 7+9 1CD6+29 20+61 73+21FD 4 7 2",
  "123+F 1+1D 3+2 1+E 4+8 18C+904 6B+5 D+3 9+7 A+2 4+F60 FD+3 1B4+6 17+F 11+F 2E+2 17+9 74+3C F6+A",
  "27+2 4A+8 70+15 46+7A 14+C 14+C 57+9 19+87 55 47 2+2 1+2 2+2 4 C 1 7 41 4+2 8 7 1C 4 5 1+3 7",
  "154+2 124+2 2BE+F 5 F+450 1F+6 6+D5 7 11+2 7 2 5+5 3E+21 1+70 2D+3 E+2 A+4 2+140 1F+11 3A+5",
  "1+1D0 2A+D6 2B+4 1+C0 1F 16+8 2+E0 7 4 2 F C5+2 10+29 4C+4 A+4 2+311 44+4C 3D+C2 4 1B 2 1+2 1 A",
  "4 1 1+6 1+4 1 1 1 3 2 1+2 1 1 1 1 1 2 1+2 4 7 4 4 1 A 11+5 3 5 11+34 2+10E 2C+4 64+C F+2 F F",
  "25+A AE+38 1D+D 2C+4 9+7 2+E 6+9A 3D9+3 11+3 D+3 DA+6 C+4 1+F C+4 38+8 A+6 28+8 1E+2 C+4 2+E",
  "9+27 158+8 E+2 D+3 B+3 39 1+4 10+2 C+4 A+7 93 67+405 A6E0+20 111E+2 168E+2 1D31+F 26E+9A2",
  "21E+5E2 134B+5 212A+ACC86 F0+2FE10"]

/-- Characters that join the one in front of them. -/
def extending : List Run := Runs.ofLines [
  "300+70 113+7 107+2D 1 1+2 1+2 1 48+B 30+15 10 65+7 2+6 2+2 1+4 23 1E+1B 5B+B 3A+9 9 18+4 1+9",
  "1+3 1+5 2B+3 3B+9 2A+18 1+20 37 1 4+8 4 3+7 A+2 1D 3A 1 2+4 8 9 A+2 1A 2+2 39 4+2 4+2 2+3 3",
  "1E+2 3 B+2 39 4+5 1+2 4 14+2 16+6 1 3A 1+2 1+4 8 7+3 A+2 1E 3B 1 C 9 28 3 37 1+3 5+3 1+4 7+2",
  "B+2 1D 3A 2+2 1 3+3 1+4 7+2 B+2 1C+2 39+2 1 2+4 8 9 A+2 1D 48 4 2+3 1 8 51 2+7 C+8 62 2+9 B+7",
  "49+2 1B 1 1 37+E 1+5 1+2 5+B 1+24 9 66+4 1+6 1+2 2+2 19+2 4+3 10+4 D 2+2 6 F 2BF+3 3B2+4 1C+3",
  "1D+2 1E+2 40+2 1+7 8 2+B 9 2D+3 1 75+2 22 76+3 4+2 9 6+3 DB+2 2 3A 1+7 1 1 2+8 6+A 2 30+2E 2+C",
  "14+4 30+A 4+3 26+9 C+2 20+4 2+6 38 1+2 3 1+5 38+8 2+2 98+3 1+D 1+7 4 6 3+2 C6+40 20C C3+21",
  "BFE+3 8D 60+20 22A+6 69+2 75D4+4 1+A 20+2 50+2 110 3 4 19+2 5 97+2 1A+12 D 26+8 19+B 1 2C+3 30",
  "2+4 2+2 2 24 43+6 2+2 2+2 C 8 2F 33 1+3 2+2 5+2 1 2A+2 8 EE 2 4 4F30 2E1+10 10+10 16E+2 25D E2",
  "95+5 686+3 1+2 5+4 28+3 4 A5+2 23D+4 41+5 13D+2 4D+6 46+B 31+4 7B 36+F 29 2+2 A+3 31+4 2+2 7",
  "3D+3 24+5 1+8 3E C+2 34+9 1 8+4 2 5F+3 2+4 6 2 9D 3+8 15+2 39+2 1 1 C 9 E+7 3+5 43 2+6 1 2 1+3",
  "4+3 1 E+2 55+8 2+3 1 17 51 2+6 1 2 1+2 1+2 EB 2+4 6+2 1+2 1B+2 55+8 2 1+2 6A 1 2+8 65 1 2+4 1+5",
  "103+9 1+2 F5 A+4 4 90+4 2+2 4 20+A 28+6 2+4 8 9+6 2+3 2E+D 1+2 C6 1+3 1 C9+7 1+6 1 52+16 2+7",
  "1+2 1+2 7A+6 3 1+2 1+7 1 48+2 3 1 15B+2 B+2 34+5 5+3 17 14E5 6+F 2CC8+C 3+3 9C0+5 3B+7 418 3F+4",
  "51 B+2 4CAB+2 1261+2E 2+17 21E+5 3+6 8+8 2+7 1E+4 94+3 7BB+37 4+32 8 E 16+5 1+F 550+7 1+11 2+7",
  "1+2 1+5 64 A0+7 177 3D+4 1FC+4 FE+2 F3 2 7+2 5 1DA+7 6D+7 C16D5+60 80+F0"]

def isPrintable (c : Char) : Bool :=
  if c.toNat < 0x7F then 0x20 ≤ c.toNat
  else !Runs.contains invisible c && !Runs.contains extending c

end ClusterDns.Unicode
