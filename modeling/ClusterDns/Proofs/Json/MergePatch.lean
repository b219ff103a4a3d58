import ClusterDns.Json.MergePatch

/-! Merge patches seen member by member: what a patch does to a member it names, and that it leaves
the others as they are. -/

namespace ClusterDns.Json

/-- What becomes of a member that a patch names. -/
def amended (old : Option Json) : Json → Option Json
  | .null => none
  | patch => some (mergePatch (old.getD .null) patch)

@[simp] theorem mergeMembers_nil (target : Members) : mergeMembers target [] = target := by
  simp [mergeMembers]

@[simp] theorem mergeMembers_cons (target : Members) (member : String × Json) (rest : Members) :
    mergeMembers target (member :: rest) = mergeMembers (mergeMember target member) rest := by
  simp [mergeMembers]

@[simp] theorem mergePatch_object (target : Json) (patch : Members) :
    mergePatch target (.object patch) = .object (mergeMembers target.members patch) := by
  simp [mergePatch]

theorem mergeMember_null (target : Members) (name : String) :
    mergeMember target (name, .null) = target.erase name := by
  simp [mergeMember]

theorem mergeMember_of_ne_null (target : Members) (name : String) {patch : Json}
    (h : patch ≠ .null) : mergeMember target (name, patch) =
      target.set name (mergePatch ((target.get? name).getD .null) patch) := by
  cases patch <;> simp [mergeMember] at h ⊢

theorem get?_mergeMember (target : Members) (name other : String) (patch : Json) :
    Members.get? (mergeMember target (name, patch)) other =
      if other = name then amended (target.get? name) patch else target.get? other := by
  by_cases h : patch = .null
  · subst h
    rw [mergeMember_null, Members.get?_erase]
    rfl
  · rw [mergeMember_of_ne_null _ _ h, Members.get?_set]
    cases patch <;> simp [amended] at h ⊢

@[simp] theorem amended_string (old : Option Json) (s : String) :
    amended old (.string s) = some (.string s) := by
  simp [amended, mergePatch]

@[simp] theorem amended_array (old : Option Json) (items : List Json) :
    amended old (.array items) = some (.array items) := by
  simp [amended, mergePatch]

@[simp] theorem amended_object (old : Option Json) (patch : Members) :
    amended old (.object patch) =
      some (.object (mergeMembers (old.getD .null).members patch)) := by
  simp [amended]

@[simp] theorem members_object (members : Members) : (Json.object members).members = members := rfl

/-! ## Erasing a member -/

namespace Members

theorem set_set (members : Members) (name : String) (value next : Json) :
    (members.set name value).set name next = members.set name next := by
  induction members with
  | nil => simp [set]
  | cons m rest ih =>
    obtain ⟨n, v⟩ := m
    by_cases h : n = name
    · simp [set, h]
    · simp [set, h, ih]

theorem erase_set (members : Members) (name : String) (value : Json) :
    (members.set name value).erase name = members.erase name := by
  induction members with
  | nil => simp [set, erase]
  | cons m rest ih =>
    obtain ⟨n, v⟩ := m
    by_cases h : n = name
    · simp [set, erase, h]
    · simp [set, erase, h, ih]

theorem erase_set_of_ne (members : Members) {name other : String} (h : other ≠ name)
    (value : Json) :
    (members.set other value).erase name = (members.erase name).set other value := by
  induction members with
  | nil => simp [set, erase, h]
  | cons m rest ih =>
    obtain ⟨n, v⟩ := m
    by_cases hn : n = other
    · subst hn
      simp [set, erase, h]
    · by_cases he : n = name
      · subst he
        simp [set, erase, hn, ih]
      · simp [set, erase, hn, he, ih]

theorem erase_erase (members : Members) (name : String) :
    (members.erase name).erase name = members.erase name := by
  induction members with
  | nil => simp [erase]
  | cons m rest ih =>
    obtain ⟨n, v⟩ := m
    by_cases h : n = name
    · simp [erase, h, ih]
    · simp [erase, h, ih]

theorem erase_comm (members : Members) (name other : String) :
    (members.erase other).erase name = (members.erase name).erase other := by
  induction members with
  | nil => simp [erase]
  | cons m rest ih =>
    obtain ⟨n, v⟩ := m
    by_cases hn : n = name
    · subst hn
      by_cases ho : n = other
      · simp [erase, ho]
      · simp [erase, ho, ih]
    · by_cases ho : n = other
      · subst ho
        simp [erase, hn, ih]
      · simp [erase, hn, ho, ih]

end Members

theorem erase_mergeMember (target : Members) {name other : String} (h : other ≠ name)
    (patch : Json) : Members.erase (mergeMember target (other, patch)) name =
      mergeMember (target.erase name) (other, patch) := by
  by_cases hp : patch = .null
  · subst hp
    rw [mergeMember_null, mergeMember_null, Members.erase_comm]
  · rw [mergeMember_of_ne_null _ _ hp, mergeMember_of_ne_null _ _ hp, Members.erase_set_of_ne _ h,
      Members.get?_erase, if_neg h]

/-- A patch that does not name a member works beside it. -/
theorem erase_mergeMembers (target patch : Members) {name : String}
    (h : ∀ m ∈ patch, m.1 ≠ name) : Members.erase (mergeMembers target patch) name =
      mergeMembers (target.erase name) patch := by
  induction patch generalizing target with
  | nil => simp
  | cons m rest ih =>
    obtain ⟨hm, hr⟩ := List.forall_mem_cons.mp h
    rw [mergeMembers_cons, mergeMembers_cons, ih _ hr, erase_mergeMember _ hm]

/-- A member that is erased after all may as well not be patched. -/
theorem erase_mergeMember_self (target : Members) (name : String) (patch : Json) :
    Members.erase (mergeMember target (name, patch)) name = target.erase name := by
  by_cases hp : patch = .null
  · subst hp
    rw [mergeMember_null, Members.erase_erase]
  · rw [mergeMember_of_ne_null _ _ hp, Members.erase_set]

theorem get_eq (json : Json) (name : String) :
    json.get name = (json.members.get? name).getD .null := rfl

end ClusterDns.Json
