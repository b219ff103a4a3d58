import ClusterDns.Text.Numeral
import ClusterDns.Unicode.Printable

/-! Texts in quotes, for messages: whatever cannot be seen on its own is written out. -/

namespace ClusterDns.Text.Quoted

def escape (c : Char) : List Char :=
  if c.toNat == 0 then ['\\', '0']
  else if c == '\t' then ['\\', 't']
  else if c == '\r' then ['\\', 'r']
  else if c == '\n' then ['\\', 'n']
  else if c == '"' || c == '\\' then ['\\', c]
  else if Unicode.isPrintable c then [c]
  else ['\\', 'u', '{'] ++ hexText false c.toNat ++ ['}']

def quote (s : String) : String := String.ofList ('"' :: s.toList.flatMap escape ++ ['"'])

end ClusterDns.Text.Quoted
