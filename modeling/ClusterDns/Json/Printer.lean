import ClusterDns.Json.Basic
import ClusterDns.Text.Numeral

/-! JSON text without blanks. A string writes a quote, a backslash and the control characters as
escapes, and every other character as itself. -/

namespace ClusterDns.Json

def escape (c : Char) : List Char :=
  if c == '"' then ['\\', '"']
  else if c == '\\' then ['\\', '\\']
  else if c == '\n' then ['\\', 'n']
  else if c == '\r' then ['\\', 'r']
  else if c == '\t' then ['\\', 't']
  else if c.toNat == 8 then ['\\', 'b']
  else if c.toNat == 12 then ['\\', 'f']
  else if c.toNat < 32 then
    ['\\', 'u', '0', '0', Text.hexDigit false (c.toNat / 16), Text.hexDigit false (c.toNat % 16)]
  else [c]

def renderString (s : String) : String :=
  "\"" ++ String.ofList (s.toList.flatMap escape) ++ "\""

mutual

def render : Json → String
  | .null => "null"
  | .bool true => "true"
  | .bool false => "false"
  | .number literal => literal
  | .string s => renderString s
  | .array items => "[" ++ ",".intercalate (renderItems items) ++ "]"
  | .object members => "\x7b" ++ ",".intercalate (renderMembers members) ++ "\x7d"
termination_by structural json => json

def renderItems : List Json → List String
  | [] => []
  | item :: rest => render item :: renderItems rest
termination_by structural items => items

def renderMembers : List (String × Json) → List String
  | [] => []
  | member :: rest => renderMember member :: renderMembers rest
termination_by structural members => members

def renderMember : String × Json → String
  | (name, value) => renderString name ++ ":" ++ render value
termination_by structural member => member

end

end ClusterDns.Json
