import ClusterDns.Json.Basic

/-! Records in JSON: values by name, or a list of the values in the order of the names. -/

namespace ClusterDns.Json

/-- The fields of a record. No name may come twice, and a list may leave out fields at its end. -/
def fields? (json : Json) (names : List String) : Option Members :=
  match json with
  | .object members =>
    if names.all fun name => (members.filter (·.1 = name)).length ≤ 1 then some members else none
  | .array items => if items.length ≤ names.length then some (names.zip items) else none
  | _ => none

end ClusterDns.Json
