import ClusterDns.Proofs.PiHole.Removal
import ClusterDns.Proofs.Reconcile.Desired

/-! Names that objects ask for, on their way into a list of hosts and out of it again. A name without
blanks is listed as it is, and deleting it leaves no trace. One with a blank in it is cut there: it
is not listed, and its entry is not found any more. -/

namespace ClusterDns.PiHole

open Reconcile (Annotations isWord_of_target? ne_empty_of_mem_hosts)
open Rehearsal (mem_recordsOf recordsOf recordsOf_append)
open Text (IsWord isBlank)
open Url (visibleText)

/-- A record is made, looked for and deleted. -/
def roundTrip (record : Record) : List Call :=
  [.create record, .list, .delete record.domain]

/-- The record is listed, as the only one of its name, and deleting it leaves no trace. -/
def Returns (record : Record) (hosts : List String) (log : List (Ending × List String)) : Prop :=
  ∃ made listed, recordsOf record.domain listed = [record] ∧
    log = [(.ok none, made), (.ok (some listed), made), (.ok none, hosts)]

/-- The record is made and not listed, and its entry outlasts its deletion. -/
def IsStranded (record : Record) (hosts : List String) (log : List (Ending × List String)) : Prop :=
  ∃ made listed, recordsOf record.domain listed = [] ∧ made ≠ hosts ∧
    log = [(.ok none, made), (.ok (some listed), made), (.ok none, made)]

/-! ## Names without blanks -/

section

variable {record : Record} {hosts : List String}

theorem not_isTaken_of_free (h : record.IsSolid)
    (free : recordsOf record.domain (recordsIn hosts) = []) :
    isTaken record.toEntry hosts = false := by
  rw [isTaken, List.any_eq_false]
  intro other ho hsame
  rw [beq_iff_eq, domainOf_toEntry h, Rehearsal.PiHoleServer.domainOf] at hsame
  have hnone := List.find?_eq_none.mp (find?_isEntryOf_eq_none.mpr free) other ho
  cases hfields : Text.fields other.toList with
  | nil => simp [hfields] at hsame
  | cons address rest =>
    cases rest with
    | nil => simp [hfields] at hsame
    | cons domain further =>
      have hdomain : domain = record.domain.toList := by simpa [hfields] using hsame
      simp [isEntryOf, Record.ofEntry?, hfields, hdomain] at hnone

theorem transcript_roundTrip (h : record.IsSolid)
    (free : recordsOf record.domain (recordsIn hosts) = []) :
    Returns record hosts (Call.transcript (roundTrip record) hosts) := by
  have hlast : recordsIn [record.toEntry] = [record] := by
    simp [recordsIn, Record.ofEntry?_toEntry h]
  have hfind : (hosts ++ [record.toEntry]).find? (isEntryOf record.domain) =
      some record.toEntry := by
    rw [List.find?_append, find?_isEntryOf_eq_none.mpr free]
    simp [isEntryOf_toEntry h]
  have hspelling : ∀ entry ∈ (hosts ++ [record.toEntry]).find? (isEntryOf record.domain),
      IsOwnSpelling entry := by
    rintro entry he
    rw [hfind, Option.mem_some_iff] at he
    subst he
    simp [IsOwnSpelling, Record.ofEntry?_toEntry h]
  have hleft : withoutFirst record.domain (hosts ++ [record.toEntry]) = hosts := by
    have hnone := List.find?_eq_none.mp (find?_isEntryOf_eq_none.mpr free)
    rw [withoutFirst, List.eraseP_append_right _ hnone,
      List.eraseP_cons_of_pos (isEntryOf_toEntry h), List.append_nil]
  refine ⟨hosts ++ [record.toEntry], recordsIn hosts ++ [record], ?_, ?_⟩
  · rw [recordsOf_append, free]
    simp [recordsOf]
  · have hcreate : (Call.create record).outright hosts = (.ok none, hosts ++ [record.toEntry]) := by
      rw [Call.outright_create, visibleText_toEntry h, not_isTaken_of_free h free]
      rfl
    have hrecords : recordsIn (hosts ++ [record.toEntry]) = recordsIn hosts ++ [record] := by
      rw [recordsIn, List.filterMap_append]
      exact congrArg (recordsIn hosts ++ ·) hlast
    simp only [roundTrip, Call.transcript, hcreate, Call.outright_list, hrecords,
      Call.outright_delete_of_spelling hspelling, hleft]

/-! ## Names with blanks -/

/-- No entry is read as a record of a name with a blank. -/
theorem recordsOf_of_blank {domain : String} (blank : ∃ c ∈ domain.toList, isBlank c = true)
    (hosts : List String) : recordsOf domain (recordsIn hosts) = [] := by
  obtain ⟨c, hc, hblank⟩ := blank
  refine List.eq_nil_iff_forall_not_mem.mpr fun r hr => ?_
  obtain ⟨hin, rfl⟩ := mem_recordsOf.mp hr
  obtain ⟨entry, -, hread⟩ := List.mem_filterMap.mp hin
  rw [(Record.isSolid_of_entry hread).domain.solid c hc] at hblank
  cases hblank

theorem keepHosts_delete_of_free {domain : String}
    (free : recordsOf domain (recordsIn hosts) = []) :
    Call.keepHosts (.delete domain) hosts = (.ok (), hosts) := by
  rw [Call.keepHosts_delete, find?_recordsIn, find?_isEntryOf_eq_none.mpr free]
  rfl

theorem transcript_of_blank (blank : ∃ c ∈ record.domain.toList, isBlank c = true)
    (hosts : List String) :
    IsStranded record hosts (Call.transcript (roundTrip record) hosts) ∨
      (Call.transcript (roundTrip record) hosts).head? = some (.error refusal, hosts) := by
  by_cases htaken : isTaken (visibleText record.toEntry) hosts = true
  · right
    simp [roundTrip, Call.transcript, Call.outright_create, htaken]
  · left
    have hcreate : (Call.create record).outright hosts =
        (.ok none, hosts ++ [visibleText record.toEntry]) := by
      rw [Call.outright_create, if_neg htaken]
    refine ⟨hosts ++ [visibleText record.toEntry],
      recordsIn (hosts ++ [visibleText record.toEntry]), recordsOf_of_blank blank _, by simp, ?_⟩
    simp only [roundTrip, Call.transcript, hcreate, Call.outright_list, Call.outright_delete,
      keepHosts_delete_of_free (recordsOf_of_blank blank _)]

theorem not_returns_of_blank (blank : ∃ c ∈ record.domain.toList, isBlank c = true) :
    ¬ Returns record hosts (Call.transcript (roundTrip record) hosts) := by
  rintro ⟨made, listed, -, hlog⟩
  rcases transcript_of_blank blank hosts with ⟨made', listed', -, hne, hlog'⟩ | hrefused
  · rw [hlog] at hlog'
    simp only [List.cons.injEq, Prod.mk.injEq] at hlog'
    exact hne hlog'.2.2.1.2.symm
  · simp [hlog] at hrefused

end

/-- A name that an object asks for comes back from the list of hosts if and only if it has no blank
in it. One with a blank has an entry that is read as that of another name: it is refused if that name
is taken, and stranded otherwise. -/
theorem returns_iff_no_blank {endpoint : Endpoint} (h : endpoint.Reaches) {hosts : List String}
    {s : Side} (ready : Ready endpoint hosts s.1) {annotations : Annotations}
    {declared : List String} {host defaultTarget address : String}
    (asked : host ∈ annotations.hosts declared)
    (literal : Net.Ipv4.isLiteral defaultTarget = true)
    (target : annotations.target? defaultTarget = some address)
    (free : recordsOf host (recordsIn hosts) = []) :
    (∃ log last, Conversation endpoint s (roundTrip ⟨host, address⟩) log last) ∧
      ∀ log last, Conversation endpoint s (roundTrip ⟨host, address⟩) log last →
        (Returns ⟨host, address⟩ hosts log ↔ ∀ c ∈ host.toList, isBlank c = false) ∧
        ((∃ c ∈ host.toList, isBlank c = true) →
          IsStranded ⟨host, address⟩ hosts log ∨
            log.head? = some (.error refusal, hosts)) := by
  refine ⟨⟨_, exists_conversation h ready _⟩, fun log last conversation => ?_⟩
  rw [conversation.log_eq h ready]
  refine ⟨⟨fun returns c hc => ?_, fun solid => ?_⟩, fun blank => transcript_of_blank blank hosts⟩
  · by_contra hblank
    exact not_returns_of_blank ⟨c, hc, by simpa using hblank⟩ returns
  · exact transcript_roundTrip ⟨⟨ne_empty_of_mem_hosts asked, solid⟩,
      isWord_of_target? literal target⟩ free

/-- A space where a comma was meant. -/
def misspelt : Annotations := [("pihole.io/hosts", "app.lan api.lan, web.lan")]

theorem returns_iff_no_blank_of_misspelt :
    (∀ log last, Conversation atHome (forgotten ["10.0.0.1 a.lan"])
      (roundTrip ⟨"app.lan api.lan", "192.168.1.100"⟩) log last →
        ¬ Returns ⟨"app.lan api.lan", "192.168.1.100"⟩ ["10.0.0.1 a.lan"] log) ∧
    (∃ last, Conversation atHome (forgotten ["10.0.0.1 a.lan"])
      (roundTrip ⟨"app.lan api.lan", "192.168.1.100"⟩)
      [(.ok none, ["10.0.0.1 a.lan", "192.168.1.100 app.lan api.lan"]),
        (.ok (some [⟨"a.lan", "10.0.0.1"⟩, ⟨"app.lan", "192.168.1.100"⟩]),
          ["10.0.0.1 a.lan", "192.168.1.100 app.lan api.lan"]),
        (.ok none, ["10.0.0.1 a.lan", "192.168.1.100 app.lan api.lan"])] last) ∧
    ∀ log last, Conversation atHome (forgotten ["10.0.0.1 a.lan"])
      (roundTrip ⟨"web.lan", "192.168.1.100"⟩) log last →
        Returns ⟨"web.lan", "192.168.1.100"⟩ ["10.0.0.1 a.lan"] log := by
  have ready := ready_forgotten ["10.0.0.1 a.lan"]
  have literal : Net.Ipv4.isLiteral "192.168.1.100" = true := by decide
  have target : misspelt.target? "192.168.1.100" = some "192.168.1.100" := by decide
  have blank : "app.lan api.lan" ∈ misspelt.hosts [] := by decide +kernel
  have plain : "web.lan" ∈ misspelt.hosts [] := by decide +kernel
  have hstranded := (returns_iff_no_blank reaches_atHome ready blank literal target
    (by decide +kernel)).2
  have hreturned := (returns_iff_no_blank reaches_atHome ready plain literal target
    (by decide +kernel)).2
  refine ⟨fun log last conversation => ?_, ?_, fun log last conversation => ?_⟩
  · have hblank : ¬ IsWord "app.lan api.lan" := by decide
    rw [(hstranded log last conversation).1]
    exact fun solid => hblank ⟨by decide, solid⟩
  · have htranscript := exists_conversation reaches_atHome ready
      (roundTrip ⟨"app.lan api.lan", "192.168.1.100"⟩)
    have hlog : Call.transcript (roundTrip ⟨"app.lan api.lan", "192.168.1.100"⟩)
        ["10.0.0.1 a.lan"] =
      [(.ok none, ["10.0.0.1 a.lan", "192.168.1.100 app.lan api.lan"]),
        (.ok (some [⟨"a.lan", "10.0.0.1"⟩, ⟨"app.lan", "192.168.1.100"⟩]),
          ["10.0.0.1 a.lan", "192.168.1.100 app.lan api.lan"]),
        (.ok none, ["10.0.0.1 a.lan", "192.168.1.100 app.lan api.lan"])] := by decide +kernel
    rwa [hlog] at htranscript
  · have hword : IsWord "web.lan" := by decide
    exact (hreturned log last conversation).1.mpr hword.solid

end ClusterDns.PiHole
