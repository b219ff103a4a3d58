import ClusterDns.Json.Basic
import ClusterDns.Text.Timestamp

/-! Shapes of JSON values: which type a value has, and which types the fields of a record have. A
record may leave out any field it names and may have others, which do not count. -/

namespace ClusterDns.Cluster

inductive Shape where
  | anything
  | text
  | flag
  | timestamp
  /-- A whole number between two bounds. -/
  | whole (least greatest : Int)
  /-- One of some texts. -/
  | oneOf (texts : List String)
  | nullable (shape : Shape)
  | list (item : Shape)
  | map (value : Shape)
  | record (fields : List (String × Shape))

namespace Shape

def int32 : Shape := .whole (-2147483648) 2147483647

def int64 : Shape := .whole (-9223372036854775808) 9223372036854775807

def isWhole (least greatest : Int) (literal : String) : Bool :=
  match literal.toInt? with
  | some n => least ≤ n && n ≤ greatest
  | none => false

mutual

def accepts : Shape → Json → Bool
  | anything, _ => true
  | text, .string _ => true
  | flag, .bool _ => true
  | timestamp, .string s => Text.Timestamp.isValid s
  | whole least greatest, .number literal => isWhole least greatest literal
  | oneOf texts, .string s => texts.contains s
  | nullable shape, json => json.isNull || accepts shape json
  | list item, .array items => items.all (accepts item)
  | map value, .object members => members.all fun member => accepts value member.2
  | record fields, .object members => acceptsFields fields members
  | _, _ => false
termination_by structural shape => shape

def acceptsFields : List (String × Shape) → Json.Members → Bool
  | [], _ => true
  | field :: rest, members => acceptsField field members && acceptsFields rest members
termination_by structural fields => fields

def acceptsField : String × Shape → Json.Members → Bool
  | (name, shape), members =>
    match members.get? name with
    | none => true
    | some value => accepts shape value
termination_by structural field => field

end

/-- A record all of whose fields may also be null. -/
def optionals (fields : List (String × Shape)) : Shape :=
  .record (fields.map fun (name, shape) => (name, .nullable shape))

end Shape

end ClusterDns.Cluster
