import ClusterDns.Proofs.PiHole.Directory

/-! Deleting records from a list of hosts that others have written to, with whatever entries. The
client takes out the first entry of a name, if that entry is an address, one space and the name. Any
further entry of the name stays. -/

namespace ClusterDns.PiHole

open Rehearsal (recordsOf recordsOf_removeFirst removeFirst)

/-! ## Entries of a name -/

/-- The record of an entry is one of the name. -/
def isEntryOf (domain entry : String) : Bool := (Record.ofEntry? entry).any (·.domain = domain)

/-- An entry as the client writes the record it reads there. -/
def IsOwnSpelling (entry : String) : Prop :=
  (Record.ofEntry? entry).map Record.toEntry = some entry

instance (entry : String) : Decidable (IsOwnSpelling entry) :=
  inferInstanceAs (Decidable (_ = _))

section

variable {domain entry : String} {hosts : List String}

theorem isEntryOf_toEntry {r : Record} (h : r.IsSolid) : isEntryOf r.domain r.toEntry = true := by
  simp [isEntryOf, Record.ofEntry?_toEntry h]

theorem find?_recordsIn (domain : String) (hosts : List String) :
    (recordsIn hosts).find? (·.domain = domain) =
      (hosts.find? (isEntryOf domain)).bind Record.ofEntry? :=
  List.find?_filterMap ..

theorem find?_isEntryOf_eq_none :
    hosts.find? (isEntryOf domain) = none ↔ recordsOf domain (recordsIn hosts) = [] := by
  rw [List.find?_eq_none, recordsOf, List.filter_eq_nil_iff]
  constructor
  · intro h r hr
    obtain ⟨entry, he, hread⟩ := List.mem_filterMap.mp hr
    simpa [isEntryOf, hread] using h entry he
  · intro h entry he hentry
    cases hread : Record.ofEntry? entry with
    | none => simp [isEntryOf, hread] at hentry
    | some r =>
      refine h r (List.mem_filterMap.mpr ⟨entry, he, hread⟩) ?_
      simpa [isEntryOf, hread] using hentry

/-- The list without the first entry of a name. -/
def withoutFirst (domain : String) (hosts : List String) : List String :=
  hosts.eraseP (isEntryOf domain)

theorem recordsIn_withoutFirst (domain : String) (hosts : List String) :
    recordsIn (withoutFirst domain hosts) = removeFirst domain (recordsIn hosts) := by
  induction hosts with
  | nil => rfl
  | cons first rest ih =>
    cases hread : Record.ofEntry? first with
    | none =>
      have hother : ¬ isEntryOf domain first = true := by simp [isEntryOf, hread]
      rw [withoutFirst, List.eraseP_cons_of_neg hother, recordsIn, recordsIn,
        List.filterMap_cons_none hread, List.filterMap_cons_none hread]
      exact ih
    | some r =>
      rw [recordsIn, recordsIn, List.filterMap_cons_some hread, removeFirst]
      by_cases hdomain : r.domain = domain
      · have hentry : isEntryOf domain first = true := by simp [isEntryOf, hread, hdomain]
        rw [withoutFirst, List.eraseP_cons_of_pos hentry, if_pos hdomain]
      · have hother : ¬ isEntryOf domain first = true := by simp [isEntryOf, hread, hdomain]
        rw [withoutFirst, List.eraseP_cons_of_neg hother, if_neg hdomain,
          List.filterMap_cons_some hread]
        exact congrArg (r :: ·) ih

/-- The first entry of a name is the first of those that are spelt like it. -/
theorem erase_eq_withoutFirst (h : hosts.find? (isEntryOf domain) = some entry) :
    hosts.erase entry = withoutFirst domain hosts := by
  induction hosts with
  | nil => cases h
  | cons first rest ih =>
    rw [List.find?_cons] at h
    split at h
    · rename_i hfirst
      cases h
      rw [List.erase_cons_head, withoutFirst, List.eraseP_cons_of_pos hfirst]
    · rename_i hfirst
      have hne : first ≠ entry := by
        rintro rfl
        rw [List.find?_some h] at hfirst
        cases hfirst
      rw [List.erase_cons_tail (by simpa using hne), withoutFirst,
        List.eraseP_cons_of_neg (by simp [hfirst])]
      exact congrArg (first :: ·) (ih h)

end

/-! ## Deleting -/

theorem Call.outright_delete_of_spelling {domain : String} {hosts : List String}
    (spelling : ∀ entry ∈ hosts.find? (isEntryOf domain), IsOwnSpelling entry) :
    (delete domain).outright hosts = (.ok none, withoutFirst domain hosts) := by
  rw [outright_delete, keepHosts_delete, find?_recordsIn]
  cases hfind : hosts.find? (isEntryOf domain) with
  | none =>
    have hnone : withoutFirst domain hosts = hosts :=
      List.eraseP_of_forall_not (List.find?_eq_none.mp hfind)
    rw [hnone]
    rfl
  | some entry =>
    obtain ⟨r, hread, hspelt⟩ := Option.map_eq_some_iff.mp (spelling entry hfind)
    simp only [Option.bind_some, hread]
    rw [visibleText_toEntry (Record.isSolid_of_entry hread), hspelt,
      erase_eq_withoutFirst hfind]

/-- Deleting a name takes out its first entry, where that is spelt as the client spells it, and no
other. So the name is gone where it had one entry at the most. -/
theorem delete_takes_first {endpoint : Endpoint} (h : endpoint.Reaches) {hosts : List String}
    {s : Side} (ready : Ready endpoint hosts s.1) {domain : String}
    (spelling : ∀ entry ∈ hosts.find? (isEntryOf domain), IsOwnSpelling entry) :
    ∃ listed, recordsOf domain listed = (recordsOf domain (recordsIn hosts)).tail ∧
      (∀ other, other ≠ domain → recordsOf other listed = recordsOf other (recordsIn hosts)) ∧
      (∃ log last, Conversation endpoint s [.delete domain, .list] log last) ∧
      ∀ log last, Conversation endpoint s [.delete domain, .list] log last →
        log = [(.ok none, withoutFirst domain hosts),
          (.ok (some listed), withoutFirst domain hosts)] := by
  have htranscript : Call.transcript [.delete domain, .list] hosts =
      [(.ok none, withoutFirst domain hosts),
        (.ok (some (removeFirst domain (recordsIn hosts))), withoutFirst domain hosts)] := by
    simp only [Call.transcript, Call.outright_delete_of_spelling spelling, Call.outright_list,
      recordsIn_withoutFirst]
  refine ⟨removeFirst domain (recordsIn hosts), ?_, fun other hother => ?_,
    ⟨_, exists_conversation h ready _⟩, fun log last conversation => ?_⟩
  · rw [recordsOf_removeFirst, if_pos rfl]
  · rw [recordsOf_removeFirst, if_neg (Ne.symm hother)]
  · rw [conversation.log_eq h ready, htranscript]

/-- A name with two entries, and one with an entry that others have spelt. -/
def crowded : List String :=
  ["10.0.0.1 a.lan", "# by hand", "10.0.0.3\tb.lan www.b.lan", "10.0.0.2 a.lan", "10.0.0.4 c.lan"]

theorem delete_takes_first_of_crowded :
    (∀ entry ∈ crowded.find? (isEntryOf "a.lan"), IsOwnSpelling entry) ∧
    ∃ listed, recordsOf "a.lan" listed = [⟨"a.lan", "10.0.0.2"⟩] ∧
      ∀ log last, Conversation atHome (forgotten crowded) [.delete "a.lan", .list] log last →
        log = [(.ok none, withoutFirst "a.lan" crowded),
          (.ok (some listed), withoutFirst "a.lan" crowded)] := by
  have spelling : ∀ entry ∈ crowded.find? (isEntryOf "a.lan"), IsOwnSpelling entry := by
    decide +kernel
  obtain ⟨listed, hlisted, -, -, hlog⟩ :=
    delete_takes_first reaches_atHome (ready_forgotten crowded) spelling
  have htail : (recordsOf "a.lan" (recordsIn crowded)).tail = [⟨"a.lan", "10.0.0.2"⟩] := by
    decide +kernel
  exact ⟨spelling, listed, hlisted.trans htail, hlog⟩

/-- A name that is deleted with success is listed afterwards: by its second entry, or by one that is
spelt with two spaces. -/
theorem listed_after_delete :
    (∃ last, Conversation atHome (forgotten ["10.0.0.1 a.lan", "10.0.0.2 a.lan"])
      [.delete "a.lan", .list] [(.ok none, ["10.0.0.2 a.lan"]),
        (.ok (some [⟨"a.lan", "10.0.0.2"⟩]), ["10.0.0.2 a.lan"])] last) ∧
    ∃ last, Conversation atHome (forgotten ["10.0.0.1  a.lan"])
      [.delete "a.lan", .list] [(.ok none, ["10.0.0.1  a.lan"]),
        (.ok (some [⟨"a.lan", "10.0.0.1"⟩]), ["10.0.0.1  a.lan"])] last := by
  have hsecond : Call.transcript [.delete "a.lan", .list] ["10.0.0.1 a.lan", "10.0.0.2 a.lan"] =
      [(.ok none, ["10.0.0.2 a.lan"]),
        (.ok (some [⟨"a.lan", "10.0.0.2"⟩]), ["10.0.0.2 a.lan"])] := by decide +kernel
  have hspaces : Call.transcript [.delete "a.lan", .list] ["10.0.0.1  a.lan"] =
      [(.ok none, ["10.0.0.1  a.lan"]),
        (.ok (some [⟨"a.lan", "10.0.0.1"⟩]), ["10.0.0.1  a.lan"])] := by decide +kernel
  constructor
  · rw [← hsecond]
    exact exists_conversation reaches_atHome (ready_forgotten _) _
  · rw [← hspaces]
    exact exists_conversation reaches_atHome (ready_forgotten _) _

end ClusterDns.PiHole
