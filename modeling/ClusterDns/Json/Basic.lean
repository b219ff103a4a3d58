/-! JSON values. A number keeps the text it was written with, and an object keeps its members in the
order they were written in; a look-up finds the first member of a name. -/

namespace ClusterDns

inductive Json where
  | null
  | bool (value : Bool)
  | number (literal : String)
  | string (value : String)
  | array (items : List Json)
  | object (members : List (String × Json))
  deriving Inhabited

namespace Json

abbrev Members := List (String × Json)

def ofNat (n : Nat) : Json := .number (toString n)

def ofOption {α : Type} (f : α → Json) : Option α → Json
  | none => .null
  | some a => f a

/-- The members of an object; nothing else has any. -/
def members : Json → Members
  | .object members => members
  | _ => []

def items? : Json → Option (List Json)
  | .array items => some items
  | _ => none

def string? : Json → Option String
  | .string s => some s
  | _ => none

def bool? : Json → Option Bool
  | .bool b => some b
  | _ => none

def isNull : Json → Bool
  | .null => true
  | _ => false

/-- A whole number without sign, fraction or exponent. -/
def nat? : Json → Option Nat
  | .number literal => literal.toNat?
  | _ => none

namespace Members

def get? (members : Members) (name : String) : Option Json := members.lookup name

/-- Gives a member a value, in its old place if it has one. -/
def set : Members → String → Json → Members
  | [], name, value => [(name, value)]
  | (n, v) :: rest, name, value =>
    if n = name then (name, value) :: rest else (n, v) :: set rest name value

def erase : Members → String → Members
  | [], _ => []
  | (n, v) :: rest, name => if n = name then erase rest name else (n, v) :: erase rest name

@[simp] theorem get?_nil (name : String) : get? [] name = none := rfl

theorem get?_cons (n : String) (v : Json) (rest : Members) (name : String) :
    get? ((n, v) :: rest) name = if name = n then some v else get? rest name := by
  by_cases h : name = n
  · subst h; simp [get?]
  · simp [get?, List.lookup_cons, h, beq_false_of_ne h]

theorem get?_set (members : Members) (name other : String) (value : Json) :
    (members.set name value).get? other
      = if other = name then some value else members.get? other := by
  induction members with
  | nil => simp [set, get?_cons]
  | cons m rest ih =>
    obtain ⟨n, v⟩ := m
    by_cases h : n = name
    · subst h
      by_cases ho : other = n <;> simp [set, get?_cons, ho]
    · by_cases ho : other = n
      · subst ho; simp [set, get?_cons, h]
      · simp [set, get?_cons, h, ho, ih]

theorem get?_erase (members : Members) (name other : String) :
    (members.erase name).get? other = if other = name then none else members.get? other := by
  induction members with
  | nil => simp [erase]
  | cons m rest ih =>
    obtain ⟨n, v⟩ := m
    by_cases h : n = name
    · subst h
      by_cases ho : other = n
      · subst ho; simpa [erase] using ih
      · simp [erase, get?_cons, ho, ih]
    · by_cases ho : other = n
      · subst ho; simp [erase, get?_cons, h]
      · simp [erase, get?_cons, h, ho, ih]

end Members

/-- A member of an object. -/
def get? (json : Json) (name : String) : Option Json := json.members.get? name

/-- A member of an object, with null for one that is missing. -/
def get (json : Json) (name : String) : Json := (json.get? name).getD .null

end Json

end ClusterDns
