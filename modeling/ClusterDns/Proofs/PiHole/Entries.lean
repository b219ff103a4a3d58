import ClusterDns.PiHole.Record
import ClusterDns.Proofs.Rehearsal.Records
import ClusterDns.Proofs.Text.Word
import ClusterDns.Rehearsal.PiHoleServer

/-! Entries of a Pi-hole's list of hosts that are an address, one space and a name. Such an entry is
read as the record it was written for, and adding or removing one is a change of that record
alone. -/

namespace ClusterDns.PiHole

open Rehearsal (OnePerName PiHoleServer recordsOf mem_recordsOf mem_of_mem_removeFirst
  removeFirst)
open Text (IsWord)

/-! ## Entries -/

/-- A record that one entry can hold. -/
structure Record.IsSolid (r : Record) : Prop where
  domain : IsWord r.domain
  address : IsWord r.address

instance (r : Record) : Decidable r.IsSolid :=
  decidable_of_iff (IsWord r.domain ∧ IsWord r.address)
    ⟨fun h => ⟨h.1, h.2⟩, fun h => ⟨h.domain, h.address⟩⟩

theorem Record.fields_toEntry {r : Record} (h : r.IsSolid) :
    Text.fields r.toEntry.toList = [r.address.toList, r.domain.toList] := by
  have hentry : r.toEntry.toList = r.address.toList ++ ' ' :: r.domain.toList := by
    simp [Record.toEntry]
  rw [hentry, Text.fields_of_words h.address h.domain]

theorem Record.ofEntry?_toEntry {r : Record} (h : r.IsSolid) :
    Record.ofEntry? r.toEntry = some r := by
  rw [Record.ofEntry?, Record.fields_toEntry h]
  simp

/-- What is read from an entry is a record that an entry can hold. -/
theorem Record.isSolid_of_entry {entry : String} {r : Record}
    (h : Record.ofEntry? entry = some r) : r.IsSolid := by
  rw [Record.ofEntry?] at h
  split at h
  · rename_i address domain further hfields
    cases h
    have hword : ∀ field ∈ [address, domain], Text.IsWord (String.ofList field) := by
      intro field hf
      refine Text.isWord_of_mem_fields (s := entry.toList) ?_
      rw [hfields]
      exact List.mem_append_left further hf
    exact ⟨hword domain (by simp), hword address (by simp)⟩
  · cases h

theorem domainOf_toEntry {r : Record} (h : r.IsSolid) :
    PiHoleServer.domainOf r.toEntry = some r.domain.toList := by
  rw [PiHoleServer.domainOf, Record.fields_toEntry h]
  rfl

/-- The entries of some records. -/
def entriesOf (records : List Record) : List String := records.map Record.toEntry

/-- The records of a list of entries. -/
def recordsIn (entries : List String) : List Record := entries.filterMap Record.ofEntry?

theorem recordsIn_entriesOf {records : List Record} (h : ∀ r ∈ records, r.IsSolid) :
    recordsIn (entriesOf records) = records := by
  induction records with
  | nil => rfl
  | cons r rest ih =>
    obtain ⟨hr, hrest⟩ := List.forall_mem_cons.mp h
    rw [entriesOf, List.map_cons, recordsIn,
      List.filterMap_cons_some (Record.ofEntry?_toEntry hr)]
    exact congrArg (r :: ·) (ih hrest)

/-- Each entry is an address, one space and a name, and no name has two. -/
structure IsTidy (entries : List String) : Prop where
  written : ∃ records, (∀ r ∈ records, r.IsSolid) ∧ entries = entriesOf records
  single : OnePerName (recordsIn entries)

section

variable {entries : List String} {r : Record}

theorem IsTidy.eq (h : IsTidy entries) : entries = entriesOf (recordsIn entries) := by
  obtain ⟨records, hsolid, rfl⟩ := h.written
  rw [recordsIn_entriesOf hsolid]

theorem IsTidy.solid (h : IsTidy entries) : ∀ r ∈ recordsIn entries, r.IsSolid := by
  obtain ⟨records, hsolid, rfl⟩ := h.written
  rwa [recordsIn_entriesOf hsolid]

theorem isTidy_entriesOf {records : List Record} (solid : ∀ r ∈ records, r.IsSolid)
    (single : OnePerName records) : IsTidy (entriesOf records) := by
  refine ⟨⟨records, solid, rfl⟩, ?_⟩
  rwa [recordsIn_entriesOf solid]

/-! ## Requests -/

/-- An entry of a name is there if a record of the name is. -/
theorem any_domainOf {records : List Record} (solid : ∀ r ∈ records, r.IsSolid) (hr : r.IsSolid) :
    ((entriesOf records).any fun other =>
      PiHoleServer.domainOf other == PiHoleServer.domainOf r.toEntry) =
        records.any (·.domain = r.domain) := by
  induction records with
  | nil => rfl
  | cons first rest ih =>
    obtain ⟨hfirst, hrest⟩ := List.forall_mem_cons.mp solid
    have hsame : (PiHoleServer.domainOf first.toEntry == PiHoleServer.domainOf r.toEntry) =
        decide (first.domain = r.domain) := by
      rw [domainOf_toEntry hfirst, domainOf_toEntry hr]
      by_cases hd : first.domain = r.domain <;> simp [hd, String.toList_inj]
    rw [entriesOf, List.map_cons, ← entriesOf, List.any_cons, List.any_cons, hsame, ih hrest]

/-- The entry of a record of a free name is added at the end. -/
theorem put_toEntry {server : PiHoleServer} (h : IsTidy server.hosts) (hr : r.IsSolid)
    (free : recordsOf r.domain (recordsIn server.hosts) = []) :
    (server.put r.toEntry).1.status = 201 ∧
      (server.put r.toEntry).2.hosts = entriesOf (recordsIn server.hosts ++ [r]) := by
  have hnone : (server.hosts.any fun other =>
      PiHoleServer.domainOf other == PiHoleServer.domainOf r.toEntry) = false := by
    rw [h.eq, any_domainOf h.solid hr, List.any_eq_false]
    exact fun other ho => List.filter_eq_nil_iff.mp free other ho
  rw [PiHoleServer.put, if_neg (by simp [hnone])]
  refine ⟨rfl, ?_⟩
  rw [entriesOf, List.map_append, ← entriesOf, ← h.eq]
  rfl

theorem toEntry_injective {other : Record} (hr : r.IsSolid) (ho : other.IsSolid)
    (h : r.toEntry = other.toEntry) : r = other := by
  have hread := Record.ofEntry?_toEntry hr
  rw [h, Record.ofEntry?_toEntry ho] at hread
  exact (Option.some.inj hread).symm

theorem erase_entriesOf {records : List Record} (solid : ∀ r ∈ records, r.IsSolid)
    (single : OnePerName records) (hr : r ∈ records) :
    (entriesOf records).erase r.toEntry = entriesOf (removeFirst r.domain records) := by
  induction records with
  | nil => cases hr
  | cons first rest ih =>
    obtain ⟨hfirst, hrest⟩ := List.forall_mem_cons.mp solid
    by_cases he : r = first
    · subst he
      rw [entriesOf, List.map_cons, List.erase_cons_head, removeFirst, if_pos rfl, entriesOf]
    · have hin : r ∈ rest := (List.mem_cons.mp hr).resolve_left he
      have hdomain : first.domain ≠ r.domain := by
        intro hd
        have hlen := single r.domain
        rw [recordsOf, List.filter_cons_of_pos (by simpa using hd), List.length_cons] at hlen
        have hnil := List.length_eq_zero_iff.mp (Nat.le_zero.mp (Nat.le_of_succ_le_succ hlen))
        have hmem : r ∈ recordsOf r.domain rest := mem_recordsOf.mpr ⟨hin, rfl⟩
        rw [recordsOf, hnil] at hmem
        cases hmem
      have hentry : (first.toEntry == r.toEntry) = false :=
        beq_false_of_ne fun h => he (toEntry_injective hfirst (hrest r hin) h).symm
      rw [entriesOf, List.map_cons, List.erase_cons_tail (by simp [hentry]), removeFirst,
        if_neg hdomain, entriesOf, List.map_cons]
      exact congrArg (first.toEntry :: ·) (ih hrest single.of_cons hin)

/-- The entry of a record that is there is removed, and no other. -/
theorem delete_toEntry {server : PiHoleServer} (h : IsTidy server.hosts)
    (hr : r ∈ recordsIn server.hosts) : (server.delete r.toEntry).1.status = 204 ∧
      (server.delete r.toEntry).2.hosts =
        entriesOf (removeFirst r.domain (recordsIn server.hosts)) := by
  have hin : r.toEntry ∈ server.hosts := by
    rw [h.eq]
    exact List.mem_map_of_mem hr
  rw [PiHoleServer.delete, if_pos (List.contains_iff_mem.mpr hin)]
  refine ⟨rfl, ?_⟩
  show server.hosts.erase r.toEntry = _
  rw [← erase_entriesOf h.solid h.single hr, ← h.eq]

theorem IsTidy.put (h : IsTidy entries) (hr : r.IsSolid)
    (free : recordsOf r.domain (recordsIn entries) = []) :
    IsTidy (entriesOf (recordsIn entries ++ [r])) := by
  refine isTidy_entriesOf ?_ (h.single.create free)
  rw [List.forall_mem_append]
  exact ⟨h.solid, List.forall_mem_singleton.mpr hr⟩

theorem IsTidy.delete (h : IsTidy entries) (domain : String) :
    IsTidy (entriesOf (removeFirst domain (recordsIn entries))) :=
  isTidy_entriesOf (fun r hr => h.solid r (mem_of_mem_removeFirst hr)) (h.single.delete domain)

end

end ClusterDns.PiHole
