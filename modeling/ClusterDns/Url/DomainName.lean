import ClusterDns.Text.Utf8
import ClusterDns.Unicode.Label
import ClusterDns.Url.Punycode

/-! Domain names. A name is read with all its spellings brought to one form, and written in ASCII:
labels that have other characters go behind the mark `xn--`. -/

namespace ClusterDns.Url.DomainName

/-- ASCII characters that no name may have, since they would end it or mean something else. -/
def isForbidden (c : Char) : Bool :=
  c.toNat ≤ 0x20 || c == '#' || c == '%' || c == '/' || c == ':' || c == '<' || c == '>' || c == '?'
    || c == '@' || c == '[' || c == '\\' || c == ']' || c == '^' || c == '|' || c.toNat == 0x7F

def isAscii (label : List Char) : Bool := label.all (·.toNat < 0x80)

def mark : List Char := "xn--".toList

/-- The characters a label stands for. A label behind the mark must stand for one that needs it. -/
def spelledOut? (label : List Char) : Option (List Char) :=
  if mark.isPrefixOf label then
    (Punycode.decode? (label.drop 4)).filter fun decoded => !isAscii decoded
  else some label

/-- A label and the characters it stands for. -/
def read? (label : List Char) : Option (List Char × List Char) :=
  (spelledOut? label).bind fun meant =>
    if Unicode.isLabel meant && !meant.any isForbidden then some (label, meant) else none

/-- A name that has or might have characters of both directions obeys the rule for them. -/
def isDirected (labels : List (List Char)) : Bool :=
  !(labels.any Unicode.isRightward) || labels.all Unicode.isDirected

def toAscii (label : List Char) : List Char :=
  if isAscii label then label else mark ++ Punycode.encode label

/-- The one form of a name, or nothing if it is none. -/
def normal? (name : List Char) : Option (List Char) := do
  let name ← Unicode.labelText? name
  let labels ← (Text.splitOn (· == '.') name).mapM read?
  if isDirected (labels.map (·.2)) then
    return ['.'].intercalate (labels.map fun label => toAscii label.1)
  else none

def ofBytes? (bytes : List UInt8) : Option (List Char) :=
  let name := Text.Utf8.decodeLossy bytes
  if name.all fun c => c.toNat < 0x80 && !c.isUpper && !(c == '-') && !isForbidden c then some name
  else normal? name

end ClusterDns.Url.DomainName
