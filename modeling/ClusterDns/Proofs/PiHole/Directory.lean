import ClusterDns.Proofs.PiHole.Conversation

/-! The client as a finite map. Where each entry of the list of hosts is an address, one space and a
name, and no name has two, the client's calls are those of a map from names to addresses that keeps
the order in which names were bound. -/

namespace ClusterDns.PiHole

open Rehearsal (OnePerName recordsOf removeFirst_eq_filter removeFirst_of_free)
open Url (visibleText)

/-! ## Calls on the list of hosts itself -/

namespace Call

theorem outright_list (hosts : List String) :
    list.outright hosts = (.ok (some (recordsIn hosts)), hosts) := rfl

theorem outright_create (record : Record) (hosts : List String) :
    (create record).outright hosts =
      if isTaken (visibleText record.toEntry) hosts then (.error refusal, hosts)
      else (.ok none, hosts ++ [visibleText record.toEntry]) := by
  have hkeep : keepHosts (.create record) hosts =
      if isTaken (visibleText record.toEntry) hosts then (.error refusal, hosts)
      else (.ok (), hosts ++ [visibleText record.toEntry]) := rfl
  refine (Program.run_ask ..).trans ?_
  rw [hkeep]
  split <;> rfl

theorem run_remove (domain : String) (found : Option Record) (hosts : List String) :
    (HostList.remove domain found).run.run HostList.answer hosts =
      (.ok (), match found with
        | none => hosts
        | some record => hosts.erase (visibleText record.toEntry)) := by
  cases found <;> rfl

theorem keepHosts_delete (domain : String) (hosts : List String) :
    keepHosts (.delete domain) hosts =
      (.ok (), match (recordsIn hosts).find? (·.domain = domain) with
        | none => hosts
        | some record => hosts.erase (visibleText record.toEntry)) :=
  (Program.run_ask ..).trans (run_remove domain _ hosts)

theorem outright_delete (domain : String) (hosts : List String) :
    (delete domain).outright hosts = (.ok none, (keepHosts (.delete domain) hosts).2) := by
  refine (Program.run_ask ..).trans ?_
  rw [keepHosts_delete]
  rfl

theorem outright_rebind_none (record : Record) (hosts : List String) :
    (rebind record none).outright hosts = (create record).outright hosts := rfl

theorem outright_rebind_some (record : Record) (address : String) (hosts : List String) :
    (rebind record (some address)).outright hosts =
      if address = record.address then (.ok none, hosts)
      else (create record).outright (keepHosts (.delete record.domain) hosts).2 := by
  by_cases hsame : address = record.address
  · simp only [outright, work, Store.rebind, hsame, if_true]
    rfl
  · simp only [outright, work, Store.rebind, hsame, if_false]
    refine (Program.run_ask ..).trans ?_
    rw [keepHosts_delete]
    rfl

end Call

/-! ## Finite maps -/

/-- A finite map from names to addresses, in the order in which the names were bound. -/
structure Directory where
  records : List Record
  single : OnePerName records

namespace Directory

def address? (d : Directory) (name : String) : Option String :=
  (d.records.find? (·.domain = name)).map (·.address)

variable {d : Directory} {name : String}

theorem address?_eq (d : Directory) (name : String) :
    d.address? name = (recordsOf name d.records).head?.map (·.address) := by
  rw [recordsOf, List.head?_filter]
  rfl

theorem address?_eq_none : d.address? name = none ↔ recordsOf name d.records = [] := by
  rw [address?_eq, Option.map_eq_none_iff, List.head?_eq_none_iff]

/-- Binds a free name, at the end. -/
def bind (d : Directory) (record : Record) (free : d.address? record.domain = none) :
    Directory where
  records := d.records ++ [record]
  single := d.single.create (address?_eq_none.mp free)

/-- Makes a name free. -/
def unbind (d : Directory) (name : String) : Directory where
  records := d.records.filter (·.domain ≠ name)
  single := by
    rw [← removeFirst_eq_filter (d.single name)]
    exact d.single.delete name

theorem address?_unbind_self (d : Directory) (name : String) :
    (d.unbind name).address? name = none := by
  simp [address?_eq, unbind, recordsOf]

/-- The list of hosts that holds the map. -/
def hosts (d : Directory) : List String := entriesOf d.records

/-- A call, and the map after it. A name that is bound is not bound again, and one that is free is
not freed; a name that has another address goes to the end. -/
def perform (d : Directory) : Call → Ending × Directory
  | .list => (.ok (some d.records), d)
  | .create record =>
    if free : d.address? record.domain = none then (.ok none, d.bind record free)
    else (.error refusal, d)
  | .delete name => (.ok none, d.unbind name)
  | .rebind record _ =>
    if d.address? record.domain = some record.address then (.ok none, d)
    else (.ok none, (d.unbind record.domain).bind record (d.address?_unbind_self record.domain))

def transcript : Directory → List Call → List (Ending × List String)
  | _, [] => []
  | d, call :: rest =>
    ((d.perform call).1, (d.perform call).2.hosts) :: transcript (d.perform call).2 rest

/-- Names and addresses can stand in an entry, and a name that is bound anew has the address it is
said to have. -/
def Fits (d : Directory) : Call → Prop
  | .create record => record.IsSolid
  | .rebind record current => record.IsSolid ∧ current = d.address? record.domain
  | .list | .delete _ => True

instance (d : Directory) : (call : Call) → Decidable (d.Fits call)
  | .create record => inferInstanceAs (Decidable record.IsSolid)
  | .rebind _ _ => inferInstanceAs (Decidable (_ ∧ _))
  | .list | .delete _ => inferInstanceAs (Decidable True)

/-- Each call fits what the calls before it have made of the map. -/
def FitsAll : Directory → List Call → Prop
  | _, [] => True
  | d, call :: rest => d.Fits call ∧ (d.perform call).2.FitsAll rest

def decFitsAll (d : Directory) : (calls : List Call) → Decidable (d.FitsAll calls)
  | [] => inferInstanceAs (Decidable True)
  | call :: rest =>
    have := (d.perform call).2.decFitsAll rest
    inferInstanceAs (Decidable (_ ∧ _))

instance (d : Directory) (calls : List Call) : Decidable (d.FitsAll calls) := d.decFitsAll calls

end Directory

/-! ## Entries of a map -/

theorem visibleText_toEntry {record : Record} (h : record.IsSolid) :
    visibleText record.toEntry = record.toEntry := by
  refine Url.visibleText_eq fun c hc => ?_
  have hblank : Text.isBlank c = false ∨ c = ' ' := by
    simp only [Record.toEntry, String.toList_append, List.mem_append] at hc
    rcases hc with (hc | hc) | hc
    · exact .inl (h.address.solid c hc)
    · exact .inr (by simpa using hc)
    · exact .inl (h.domain.solid c hc)
  rcases hblank with hblank | rfl
  · refine ⟨?_, ?_, ?_⟩ <;> (rintro rfl; revert hblank; decide)
  · decide

namespace Directory

variable {d : Directory} {record : Record}

theorem hosts_bind (free : d.address? record.domain = none) :
    (d.bind record free).hosts = d.hosts ++ [record.toEntry] := by
  simp [bind, hosts, entriesOf]

theorem unbind_of_free {name : String} (free : d.address? name = none) : d.unbind name = d := by
  have hkept : d.records.filter (·.domain ≠ name) = d.records := by
    rw [← removeFirst_eq_filter (d.single name), removeFirst_of_free (address?_eq_none.mp free)]
  obtain ⟨records, single⟩ := d
  simpa [unbind] using hkept

section

variable (solid : ∀ r ∈ d.records, r.IsSolid)

include solid

theorem isTaken_hosts (h : record.IsSolid) :
    isTaken record.toEntry d.hosts = (d.address? record.domain).isSome := by
  rw [isTaken, hosts, any_domainOf solid h, address?, Option.isSome_map, List.isSome_find?]

theorem recordsIn_hosts : recordsIn d.hosts = d.records := recordsIn_entriesOf solid

/-- Making a record is binding a name that is free. -/
theorem outright_create (h : record.IsSolid) :
    (Call.create record).outright d.hosts =
      ((d.perform (.create record)).1, (d.perform (.create record)).2.hosts) := by
  rw [Call.outright_create, visibleText_toEntry h, isTaken_hosts solid h, perform]
  by_cases free : d.address? record.domain = none
  · simp [free, hosts_bind]
  · simp [free, Option.isSome_iff_ne_none]

/-- Deleting a record is making its name free. -/
theorem keepHosts_delete (name : String) :
    Call.keepHosts (.delete name) d.hosts = (.ok (), (d.unbind name).hosts) := by
  rw [Call.keepHosts_delete, recordsIn_hosts solid]
  cases hfind : d.records.find? (·.domain = name) with
  | none =>
    have free : d.address? name = none := by simp [address?, hfind]
    rw [unbind_of_free free]
  | some record =>
    have hname : record.domain = name := by simpa using List.find?_some hfind
    have hin := List.mem_of_find?_eq_some hfind
    subst hname
    simp only [visibleText_toEntry (solid record hin)]
    rw [hosts, erase_entriesOf solid d.single hin, removeFirst_eq_filter (d.single _)]
    rfl

theorem unbind_solid (name : String) : ∀ r ∈ (d.unbind name).records, r.IsSolid :=
  fun r hr => solid r (List.mem_filter.mp hr).1

theorem bind_solid (h : record.IsSolid) (free : d.address? record.domain = none) :
    ∀ r ∈ (d.bind record free).records, r.IsSolid := by
  intro r hr
  rcases List.mem_append.mp hr with hr | hr
  · exact solid r hr
  · rwa [List.mem_singleton.mp hr]

/-- Binding a name anew is making it free, if it is not, and binding it. -/
theorem outright_rebind (h : record.IsSolid) :
    (Call.rebind record (d.address? record.domain)).outright d.hosts =
      ((d.perform (.rebind record none)).1, (d.perform (.rebind record none)).2.hosts) := by
  cases haddress : d.address? record.domain with
  | none =>
    rw [Call.outright_rebind_none, outright_create solid h, perform, perform]
    simp [haddress, hosts_bind, unbind_of_free haddress]
  | some address =>
    rw [Call.outright_rebind_some, perform, haddress]
    by_cases hsame : address = record.address
    · simp [hsame]
    · have free := d.address?_unbind_self record.domain
      rw [keepHosts_delete solid, outright_create (unbind_solid solid _) h, perform]
      simp [hsame, free]

variable {call : Call}

/-- A call on the list of hosts is the call on the map. -/
theorem outright_eq (fits : d.Fits call) :
    call.outright d.hosts = ((d.perform call).1, (d.perform call).2.hosts) := by
  cases call with
  | list => rw [Call.outright_list, recordsIn_hosts solid, perform]
  | create record => exact outright_create solid fits
  | delete name => rw [Call.outright_delete, keepHosts_delete solid, perform]
  | rebind record current =>
    obtain ⟨h, rfl⟩ := fits
    exact outright_rebind solid h

theorem perform_solid (fits : d.Fits call) : ∀ r ∈ (d.perform call).2.records, r.IsSolid := by
  cases call with
  | list => exact solid
  | create record =>
    rw [perform]
    split
    · rename_i free
      exact bind_solid solid fits free
    · exact solid
  | delete name => exact unbind_solid solid name
  | rebind record current =>
    rw [perform]
    split
    · exact solid
    · exact bind_solid (unbind_solid solid _) fits.1 (d.address?_unbind_self record.domain)

end

/-- Calls one after another. -/
theorem transcript_eq {calls : List Call} (solid : ∀ r ∈ d.records, r.IsSolid)
    (fits : d.FitsAll calls) : Call.transcript calls d.hosts = d.transcript calls := by
  induction calls generalizing d with
  | nil => rfl
  | cons call rest ih =>
    rw [Call.transcript, transcript, outright_eq solid fits.1,
      ih (perform_solid solid fits.1) fits.2]

/-- The map that a tidy list of hosts holds. -/
def ofTidy {hosts : List String} (h : IsTidy hosts) : Directory := ⟨recordsIn hosts, h.single⟩

theorem hosts_ofTidy {hosts : List String} (h : IsTidy hosts) : (ofTidy h).hosts = hosts :=
  h.eq.symm

end Directory

/-- The client is a finite map. Where each entry is an address, one space and a name, and no name
has two, calls with words for names and addresses end as they do on the map that the entries make,
and leave its entries behind. -/
theorem client_is_directory {endpoint : Endpoint} (h : endpoint.Reaches) {hosts : List String}
    (tidy : IsTidy hosts) {s : Side} (ready : Ready endpoint hosts s.1) {calls : List Call}
    (fits : (Directory.ofTidy tidy).FitsAll calls) :
    (∃ last, Conversation endpoint s calls ((Directory.ofTidy tidy).transcript calls) last) ∧
      ∀ log last, Conversation endpoint s calls log last →
        log = (Directory.ofTidy tidy).transcript calls := by
  have htranscript := Directory.transcript_eq tidy.solid fits
  rw [Directory.hosts_ofTidy tidy] at htranscript
  rw [← htranscript]
  exact ⟨exists_conversation h ready calls, fun _ _ conversation => conversation.log_eq h ready⟩

theorem tidy_pair : IsTidy ["10.0.0.1 a.lan", "10.0.0.2 b.lan"] := by
  have hpair : entriesOf [⟨"a.lan", "10.0.0.1"⟩, ⟨"b.lan", "10.0.0.2"⟩] =
      ["10.0.0.1 a.lan", "10.0.0.2 b.lan"] := by decide
  rw [← hpair]
  exact isTidy_entriesOf (by decide) (Rehearsal.onePerName_of_nodup (by decide))

/-- A name goes to another address, one that is bound is tried, and one of other letters is new. -/
def rearranging : List Call :=
  [.rebind ⟨"a.lan", "10.0.0.7"⟩ (some "10.0.0.1"), .create ⟨"b.lan", "10.0.0.3"⟩,
    .create ⟨"größe/%41?.lan", "fd00::1"⟩, .delete "b.lan", .list]

theorem client_is_directory_of_rearranging :
    (Directory.ofTidy tidy_pair).transcript rearranging =
      [(.ok none, ["10.0.0.2 b.lan", "10.0.0.7 a.lan"]),
        (.error refusal, ["10.0.0.2 b.lan", "10.0.0.7 a.lan"]),
        (.ok none, ["10.0.0.2 b.lan", "10.0.0.7 a.lan", "fd00::1 größe/%41?.lan"]),
        (.ok none, ["10.0.0.7 a.lan", "fd00::1 größe/%41?.lan"]),
        (.ok (some [⟨"a.lan", "10.0.0.7"⟩, ⟨"größe/%41?.lan", "fd00::1"⟩]),
          ["10.0.0.7 a.lan", "fd00::1 größe/%41?.lan"])] ∧
    ∃ last, Conversation atHome (forgotten ["10.0.0.1 a.lan", "10.0.0.2 b.lan"]) rearranging
      ((Directory.ofTidy tidy_pair).transcript rearranging) last :=
  ⟨by decide +kernel, (client_is_directory reaches_atHome tidy_pair (ready_forgotten _)
    (by decide +kernel)).1⟩

end ClusterDns.PiHole
