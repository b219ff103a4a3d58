import ClusterDns.Journal
import ClusterDns.Json.Printer

/-! How an entry of the log is written on a line of its own: as a JSON object, in which the message
is one of the fields, or as plain text. -/

namespace ClusterDns.Journal

def Value.toJson : Value → Json
  | text s => .string s
  | number n => .ofNat n
  | flag b => .bool b

def Value.toText : Value → String
  | text s => s
  | number n => toString n
  | flag b => toString b

namespace Entry

def toJson (entry : Entry) : Json :=
  .object [
    ("level", .string entry.level.name),
    ("fields", .object (("message", .string entry.message) ::
      entry.fields.map fun (name, value) => (name, value.toJson)))]

def toText (entry : Entry) : String :=
  let fields := entry.fields.map fun (name, value) => s!"{name}={value.toText}"
  " ".intercalate (entry.level.name :: entry.message :: fields)

end Entry

end ClusterDns.Journal
