import ClusterDns.Json.Basic

/-! JSON merge patches. A patch that is an object changes the members it names, the others stay:
null removes a member, an object patches it, and anything else replaces it. A patch that is no
object replaces the whole value. -/

namespace ClusterDns.Json

mutual

def mergePatch (target : Json) : Json → Json
  | .object patch => .object (mergeMembers target.members patch)
  | .null => .null
  | .bool b => .bool b
  | .number literal => .number literal
  | .string s => .string s
  | .array items => .array items
termination_by structural patch => patch

def mergeMembers (target : Members) : List (String × Json) → Members
  | [] => target
  | member :: rest => mergeMembers (mergeMember target member) rest
termination_by structural patch => patch

def mergeMember (target : Members) : String × Json → Members
  | (name, .null) => target.erase name
  | (name, patch) => target.set name (mergePatch ((target.get? name).getD .null) patch)
termination_by structural patch => patch

end

end ClusterDns.Json
