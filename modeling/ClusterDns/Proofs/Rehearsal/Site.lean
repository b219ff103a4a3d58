import ClusterDns.Proofs.PiHole.Entries
import ClusterDns.Proofs.PiHole.HostList
import ClusterDns.Proofs.Rehearsal.Estate

/-! Reconciles request by request. A record is deleted with two requests to the Pi-hole, and others
may send theirs in between. As long as these are about other objects and other hosts, the two
requests do what the deletion would do at once. -/

namespace ClusterDns

namespace Reconcile

/-- One request to the cluster or to a Pi-hole. -/
inductive Errand where
  | fetch (ref : Cluster.ObjectRef)
  | patch (ref : Cluster.ObjectRef) (body : Json)
  | hosts (request : PiHole.HostListRequest)
  | note (entry : Journal.Entry)
  | count (series : Metrics.Series)

abbrev Errand.Answer : Errand → Type
  | fetch _ => Except Error (Option Cluster.Object)
  | patch .. => Except Error (Option Cluster.Object)
  | hosts request => request.Answer
  | note _ => Unit
  | count _ => Unit

def Errands : Interface := ⟨Errand, Errand.Answer⟩

/-- The requests that a question is made of. -/
def errands : (q : Request) → Program Errands q.Answer
  | .fetch ref => .ask (I := Errands) (.fetch ref) .done
  | .patch ref body => .ask (I := Errands) (.patch ref body) .done
  | .dns q => (PiHole.HostList.keeper q).substitute fun request =>
      .ask (I := Errands) (.hosts request) .done
  | .note entry => .ask (I := Errands) (.note entry) .done
  | .count series => .ask (I := Errands) (.count series) .done

end Reconcile

namespace Rehearsal

open Cluster (Kind ObjectRef)
open PiHole (HostListRequest Record IsTidy recordsIn entriesOf)
open Reconcile
open Text (IsWord)

/-- Objects of every kind and one Pi-hole. -/
structure Site where
  servers : Kind → ApiServer
  piHole : PiHoleServer

namespace Site

def records (site : Site) : List Record := recordsIn site.piHole.hosts

def estate (site : Site) : Estate := ⟨site.servers, site.records⟩

def answerHosts : (q : HostListRequest) → PiHoleServer → q.Answer × PiHoleServer
  | .entries, server => (.ok server.hosts, server)
  | .add entry, server =>
    let (response, server) := server.put entry
    (if [200, 201, 204].contains response.status then .ok ()
      else .error (PiHole.Client.apiError response), server)
  | .remove entry, server =>
    let (response, server) := server.delete entry
    (if [200, 204, 404].contains response.status then .ok ()
      else .error (PiHole.Client.apiError response), server)
  | .note _, server => ((), server)

/-- Answers the requests of a reconcile of an object of a kind. -/
def answer (kind : Kind) : Program.Surroundings Errands Site
  | .fetch ref, site => ((site.estate.world kind).fetch kind ref, site)
  | .patch ref body, site =>
    let (reply, w) := (site.estate.world kind).patch kind ref body
    (reply, { site with servers := Function.update site.servers kind w.server })
  | .hosts q, site =>
    let (reply, piHole) := answerHosts q site.piHole
    (reply, { site with piHole })
  | .note _, site => ((), site)
  | .count _, site => ((), site)

end Site

/-! ## Requests about one object -/

/-- The object and the records of its hosts are as they were. -/
structure Undisturbed (kind : Kind) (origin : Json) (site next : Site) : Prop where
  stored : next.estate.find? (subjectOf kind origin) = site.estate.find? (subjectOf kind origin)
  records : ∀ host ∈ ownHosts kind origin,
    recordsOf host next.records = recordsOf host site.records

/-- A request about the object or its hosts alone. An entry is added for a free name only, and one
is removed only where it stands in the list. -/
def IsOwnErrand (kind : Kind) (origin : Json) (site : Site) : Errand → Prop
  | .fetch _ => True
  | .patch ref _ => ref = (subjectOf kind origin).ref
  | .hosts .entries => True
  | .hosts (.add entry) => ∃ r : Record, entry = r.toEntry ∧ r.IsSolid ∧
      r.domain ∈ ownHosts kind origin ∧ recordsOf r.domain site.records = []
  | .hosts (.remove entry) => ∃ r ∈ site.records, entry = r.toEntry ∧
      r.domain ∈ ownHosts kind origin
  | .hosts (.note _) => True
  | .note _ => True
  | .count _ => True

/-- What requests about one object leave alone. -/
structure Beside (kind : Kind) (origin : Json) (site next : Site) : Prop where
  objects : ∀ subject, subject ≠ subjectOf kind origin →
    next.estate.find? subject = site.estate.find? subject
  records : ∀ host, host ∉ ownHosts kind origin →
    recordsOf host next.records = recordsOf host site.records

/-- What a reconcile can rely on and has to keep while others send requests of their own. -/
abbrev amidOthers (kind : Kind) (origin : Json) : Contract Errands Site where
  drift := Undisturbed kind origin
  answers q site reply next := Site.answer kind q site = (reply, next)
  allowed q site := IsOwnErrand kind origin site q
  invariant site := IsTidy site.piHole.hosts

/-- The world of a reconcile is what it sees of the site. -/
def Shows (kind : Kind) (site : Site) (s : Moment) : Prop := s.1 = site.estate.world kind

section

variable {kind : Kind} {origin : Json} {defaultTarget : String} {site next : Site} {s : Moment}

theorem Undisturbed.refl (kind : Kind) (origin : Json) (site : Site) :
    Undisturbed kind origin site site := ⟨rfl, fun _ _ => rfl⟩

theorem Undisturbed.trans {last : Site} (h : Undisturbed kind origin site next)
    (h' : Undisturbed kind origin next last) : Undisturbed kind origin site last :=
  ⟨h'.stored.trans h.stored, fun host hh => (h'.records host hh).trans (h.records host hh)⟩

/-- What others do in the meantime is elsewhere for the reconcile, too. -/
theorem Undisturbed.drift (h : Undisturbed kind origin site next) (shows : Shows kind site s) :
    ∃ u, (elsewhere kind origin).Drift s u ∧ Shows kind next u := by
  refine ⟨(next.estate.world kind, .edited :: s.2), .single ⟨trivial, ?_, rfl⟩, rfl⟩
  rw [show s.1 = _ from shows]
  exact ⟨h.stored, h.records⟩

/-- A question answered as the world would answer it. -/
theorem answers_of_eq {q : Request} {u : Moment} {reply : q.Answer} (shows : Shows kind site u)
    (eq : World.answer kind q (site.estate.world kind) = (reply, next.estate.world kind))
    (fine : ¬ IsFailure q reply) : ∃ v,
      (sparing (separation kind origin defaultTarget)).answers q u reply v ∧
      Shows kind next v := by
  have hanswer : u.1.answer kind q = (reply, next.estate.world kind) := by
    rw [show u.1 = _ from shows]
    exact eq
  refine ⟨(next.estate.world kind, Occurrence.ofQuestion q .answered reply ++ u.2),
    ⟨⟨.answered, ?_, rfl⟩, fine⟩, rfl⟩
  have hanswered := @World.Answers.answered kind u.1 q
  rwa [hanswer] at hanswered

/-- A question is answered at one moment between its first request and its last. -/
def AnsweredAtOnce (kind : Kind) (origin : Json) (defaultTarget : String) (q : Request)
    (s : Moment) (reply : q.Answer) (next : Site) : Prop :=
  ∃ u v, (elsewhere kind origin).Drift s u ∧ OnePerName u.1.records ∧
    (sparing (separation kind origin defaultTarget)).answers q u reply v ∧ Shows kind next v

/-- What has to be known of a question when its requests begin. -/
def SoundLater (kind : Kind) (origin : Json) (defaultTarget : String) (q : Request) (s : Moment) :
    Prop :=
  ∀ u, (elsewhere kind origin).Drift s u → OnePerName u.1.records →
    IsSoundCall kind origin defaultTarget q u.1

theorem SoundLater.at {q : Request} (h : SoundLater kind origin defaultTarget q s)
    (shows : Shows kind site s) (hd : Undisturbed kind origin site next)
    (tidy : IsTidy next.piHole.hosts) :
    IsSoundCall kind origin defaultTarget q (next.estate.world kind) := by
  obtain ⟨u, hu, hshows⟩ := hd.drift shows
  have hworld : u.1 = next.estate.world kind := hshows
  have hsound := h u hu
  rw [hworld] at hsound
  exact hsound tidy.single

theorem answeredAtOnce {q : Request} {reply : q.Answer} {last : Site} (shows : Shows kind site s)
    (hd : Undisturbed kind origin site next) (tidy : IsTidy next.piHole.hosts)
    (sound : IsSoundCall kind origin defaultTarget q (next.estate.world kind))
    (eq : World.answer kind q (next.estate.world kind) = (reply, last.estate.world kind)) :
    AnsweredAtOnce kind origin defaultTarget q s reply last := by
  obtain ⟨u, hu, hshows⟩ := hd.drift shows
  have hworld : u.1 = next.estate.world kind := hshows
  have hfine : ¬ IsFailure q reply := by
    have hnot := sound.2
    rwa [eq] at hnot
  obtain ⟨v, hv, hlast⟩ := answers_of_eq hshows eq hfine
  refine ⟨u, v, hu, ?_, hv, hlast⟩
  rw [hworld]
  exact tidy.single

/-- A question that is one request. -/
theorem secures_single {q : Request} (errand : Errand) (read : errand.Answer → q.Answer)
    (shows : Shows kind site s) (sound : SoundLater kind origin defaultTarget q s)
    (own : ∀ next : Site, IsSoundCall kind origin defaultTarget q (next.estate.world kind) →
      IsOwnErrand kind origin next errand)
    (answered : ∀ (next : Site) reply last, IsTidy next.piHole.hosts →
      IsSoundCall kind origin defaultTarget q (next.estate.world kind) →
      Site.answer kind errand next = (reply, last) → IsTidy last.piHole.hosts ∧
        World.answer kind q (next.estate.world kind) = (read reply, last.estate.world kind)) :
    (amidOthers kind origin).Secures
      (.ask (I := Errands) errand fun reply => .done (read reply))
      (AnsweredAtOnce kind origin defaultTarget q s) site := by
  intro next hd tidy
  have hsound := sound.at shows hd tidy
  refine ⟨own next hsound, fun reply last heq => ?_⟩
  obtain ⟨htidy, hworld⟩ := answered next reply last tidy hsound heq
  exact ⟨htidy, answeredAtOnce shows hd tidy hsound hworld⟩

/-- A question that is one request, and one that changes nothing. -/
theorem secures_reading {q : Request} (errand : Errand) (read : errand.Answer → q.Answer)
    (shows : Shows kind site s) (sound : SoundLater kind origin defaultTarget q s)
    (own : ∀ next, IsOwnErrand kind origin next errand)
    (still : ∀ next, (Site.answer kind errand next).2 = next)
    (answered : ∀ next : Site, World.answer kind q (next.estate.world kind) =
      (read (Site.answer kind errand next).1, next.estate.world kind)) :
    (amidOthers kind origin).Secures
      (.ask (I := Errands) errand fun reply => .done (read reply))
      (AnsweredAtOnce kind origin defaultTarget q s) site := by
  refine secures_single errand read shows sound (fun next _ => own next) ?_
  intro next reply last tidy _ heq
  have hlast : last = next := (congrArg Prod.snd heq).symm.trans (still next)
  have hreply : (Site.answer kind errand next).1 = reply := congrArg Prod.fst heq
  subst hlast
  rw [← hreply]
  exact ⟨tidy, answered last⟩

/-! ## Requests to the Pi-hole -/

theorem estate_of_hosts {records : List Record} {server : PiHoleServer}
    (solid : ∀ r ∈ records, r.IsSolid) (h : server.hosts = entriesOf records) :
    ({ site with piHole := server } : Site).estate = { site.estate with records } := by
  rw [Site.estate, Site.records, h, PiHole.recordsIn_entriesOf solid]
  rfl

theorem answer_add {r : Record} (tidy : IsTidy site.piHole.hosts) (hr : r.IsSolid)
    (free : recordsOf r.domain site.records = []) :
    (Site.answer kind (.hosts (.add r.toEntry)) site).1 = .ok () ∧
      IsTidy (Site.answer kind (.hosts (.add r.toEntry)) site).2.piHole.hosts ∧
      (Site.answer kind (.hosts (.add r.toEntry)) site).2.estate =
        { site.estate with records := site.records ++ [r] } := by
  obtain ⟨hstatus, hhosts⟩ := PiHole.put_toEntry tidy hr free
  have hsolid : ∀ other ∈ site.records ++ [r], other.IsSolid := by
    rw [List.forall_mem_append]
    exact ⟨tidy.solid, List.forall_mem_singleton.mpr hr⟩
  refine ⟨?_, ?_, estate_of_hosts hsolid hhosts⟩
  · have hok : [200, 201, 204].contains (site.piHole.put r.toEntry).1.status = true := by
      rw [hstatus]
      decide
    exact if_pos hok
  · show IsTidy (site.piHole.put r.toEntry).2.hosts
    rw [hhosts]
    exact tidy.put hr free

theorem answer_remove {r : Record} (tidy : IsTidy site.piHole.hosts) (hr : r ∈ site.records) :
    (Site.answer kind (.hosts (.remove r.toEntry)) site).1 = .ok () ∧
      IsTidy (Site.answer kind (.hosts (.remove r.toEntry)) site).2.piHole.hosts ∧
      (Site.answer kind (.hosts (.remove r.toEntry)) site).2.estate =
        { site.estate with records := removeFirst r.domain site.records } := by
  obtain ⟨hstatus, hhosts⟩ := PiHole.delete_toEntry tidy hr
  have hsolid : ∀ other ∈ removeFirst r.domain site.records, other.IsSolid :=
    fun other ho => tidy.solid other (mem_of_mem_removeFirst ho)
  refine ⟨?_, ?_, estate_of_hosts hsolid hhosts⟩
  · have hok : [200, 204, 404].contains (site.piHole.delete r.toEntry).1.status = true := by
      rw [hstatus]
      decide
    exact if_pos hok
  · show IsTidy (site.piHole.delete r.toEntry).2.hosts
    rw [hhosts]
    exact tidy.delete r.domain

theorem errands_list : errands (.dns .list) = .ask (I := Errands) (.hosts .entries)
    fun reply => .done (reply.map recordsIn) := by
  show Program.ask _ _ = Program.ask _ _
  congr 1
  funext reply
  cases reply <;> rfl

/-- The second request of a deletion, once the records of the first one are there. -/
def deletion (domain : String) : Option Record → Program Errands (Except PiHole.Error Unit)
  | none =>
    .ask (I := Errands) (.hosts (.note
      ⟨.debug, "No Pi-hole record to delete", [("domain", .text domain)]⟩)) fun _ => .done (.ok ())
  | some r => .ask (I := Errands) (.hosts (.remove r.toEntry)) .done

theorem substitute_remove (domain : String) (found : Option Record) :
    (PiHole.HostList.remove domain found).run.substitute
      (fun request => .ask (I := Errands) (.hosts request) .done) = deletion domain found := by
  cases found <;> rfl

theorem errands_delete (domain : String) : errands (.dns (.delete domain)) =
    .ask (I := Errands) (.hosts .entries) fun
      | .error e => .done (.error e)
      | .ok entries => deletion domain ((recordsIn entries).find? (·.domain = domain)) := by
  show Program.ask _ _ = Program.ask _ _
  congr 1
  funext reply
  cases reply with
  | error e => rfl
  | ok entries => exact substitute_remove domain _

theorem secures_create {r : Record} (words : ∀ host ∈ ownHosts kind origin, IsWord host)
    (addresses : ∀ target, plan kind defaultTarget origin = .serve target → IsWord target)
    (shows : Shows kind site s)
    (sound : SoundLater kind origin defaultTarget (.dns (.create r)) s) :
    (amidOthers kind origin).Secures (errands (.dns (.create r)))
      (AnsweredAtOnce kind origin defaultTarget (.dns (.create r)) s) site := by
  have solid : ∀ next : Site, IsSoundCall kind origin defaultTarget (.dns (.create r))
      (next.estate.world kind) → r.IsSolid :=
    fun _ hsound => ⟨words _ hsound.1.1, addresses _ hsound.1.2.2⟩
  refine secures_single (.hosts (.add r.toEntry)) (fun reply => reply) shows sound
    (fun next hsound => ⟨r, rfl, solid next hsound, hsound.1.1, hsound.1.2.1⟩) ?_
  intro next reply last tidy hsound heq
  obtain ⟨hreply, htidy, hestate⟩ :=
    @answer_add kind next r tidy (solid next hsound) hsound.1.2.1
  rw [heq] at hreply htidy hestate
  refine ⟨htidy, ?_⟩
  obtain rfl : reply = .ok () := hreply
  rw [show last.estate = _ from hestate]
  rfl

/-- Nothing that others do between the two requests takes the entry away, and they do not add one
where there was none. -/
theorem secures_delete {domain : String} (shows : Shows kind site s)
    (sound : SoundLater kind origin defaultTarget (.dns (.delete domain)) s) :
    (amidOthers kind origin).Secures (errands (.dns (.delete domain)))
      (AnsweredAtOnce kind origin defaultTarget (.dns (.delete domain)) s) site := by
  rw [errands_delete]
  intro listed hd tidy
  have hown : domain ∈ ownHosts kind origin := (sound.at shows hd tidy).1
  refine ⟨trivial, fun reply last heq => ?_⟩
  cases heq
  refine ⟨tidy, ?_⟩
  show (amidOthers kind origin).Secures
    (deletion domain (listed.records.find? (·.domain = domain))) _ _
  cases hfind : listed.records.find? (·.domain = domain) with
  | none =>
    have hfree : recordsOf domain listed.records = [] := by
      rw [recordsOf, List.filter_eq_nil_iff]
      exact List.find?_eq_none.mp hfind
    intro later hlater tidy'
    refine ⟨trivial, fun reply last heq => ?_⟩
    cases heq
    refine ⟨tidy', answeredAtOnce shows (hd.trans hlater) tidy'
      (sound.at shows (hd.trans hlater) tidy') ?_⟩
    have hgone : removeFirst domain later.records = later.records :=
      removeFirst_of_free ((hlater.records domain hown).trans hfree)
    exact congrArg (fun records => (Except.ok (), { later.estate.world kind with records })) hgone
  | some r =>
    have hr : r.domain = domain := by simpa using List.find?_some hfind
    subst hr
    have hin : r ∈ recordsOf r.domain listed.records :=
      mem_recordsOf.mpr ⟨List.mem_of_find?_eq_some hfind, rfl⟩
    intro later hlater tidy'
    have hstill : r ∈ later.records := by
      rw [← hlater.records r.domain hown] at hin
      exact (mem_recordsOf.mp hin).1
    refine ⟨⟨r, hstill, rfl, hown⟩, fun reply last heq => ?_⟩
    obtain ⟨hreply, htidy, hestate⟩ := @answer_remove kind later r tidy' hstill
    rw [heq] at hreply htidy hestate
    refine ⟨htidy, answeredAtOnce shows (hd.trans hlater) tidy'
      (sound.at shows (hd.trans hlater) tidy') ?_⟩
    obtain rfl : reply = .ok () := hreply
    rw [show last.estate = _ from hestate]
    rfl

/-- A patch reaches the server of its kind and leaves the Pi-hole alone. -/
theorem world_patch (kind : Kind) (ref : ObjectRef) (body : Json) (site : Site) :
    (Site.answer kind (.patch ref body) site).2.estate.world kind =
      ((site.estate.world kind).patch kind ref body).2 := by
  show World.mk (Function.update site.servers kind _ kind) _ = _
  rw [Function.update_self]
  rfl

/-- Every question that concerns the object and its hosts alone is answered at one moment. -/
theorem secures_errands {q : Request} (words : ∀ host ∈ ownHosts kind origin, IsWord host)
    (addresses : ∀ target, plan kind defaultTarget origin = .serve target → IsWord target)
    (shows : Shows kind site s) (sound : SoundLater kind origin defaultTarget q s) :
    (amidOthers kind origin).Secures (errands q)
      (AnsweredAtOnce kind origin defaultTarget q s) site := by
  cases q with
  | fetch ref =>
    exact secures_reading (.fetch ref) (fun reply => reply) shows sound (fun _ => trivial)
      (fun _ => rfl) fun _ => rfl
  | patch ref body =>
    refine secures_single (.patch ref body) (fun reply => reply) shows sound
      (fun _ hsound => hsound.1) ?_
    intro next reply last tidy _ heq
    have hreply : ((next.estate.world kind).patch kind ref body).1 = reply := congrArg Prod.fst heq
    have hlast : (Site.answer kind (.patch ref body) next).2 = last := congrArg Prod.snd heq
    subst hlast
    exact ⟨tidy, Prod.ext hreply (world_patch kind ref body next).symm⟩
  | note entry =>
    exact secures_reading (.note entry) (fun reply => reply) shows sound (fun _ => trivial)
      (fun _ => rfl) fun _ => rfl
  | count series =>
    exact secures_reading (.count series) (fun reply => reply) shows sound (fun _ => trivial)
      (fun _ => rfl) fun _ => rfl
  | dns q =>
    cases q with
    | list =>
      rw [errands_list]
      exact secures_reading (.hosts .entries) (Except.map recordsIn) shows sound (fun _ => trivial)
        (fun _ => rfl) fun _ => rfl
    | create r => exact secures_create words addresses shows sound
    | delete domain => exact secures_delete shows sound

theorem IsOwnErrand.beside {errand : Errand} (h : IsOwnErrand kind origin site errand)
    (tidy : IsTidy site.piHole.hosts) :
    Beside kind origin site (Site.answer kind errand site).2 := by
  cases errand with
  | patch ref body =>
    obtain rfl : ref = (subjectOf kind origin).ref := h
    refine ⟨fun subject hne => ?_, fun _ _ => rfl⟩
    exact @Estate.find?_withWorld_of_ne site.estate (subjectOf kind origin) subject _
      (fun other ho => ApiServer.find?_applyPatch_of_ne ho body) hne
  | hosts request =>
    cases request with
    | add entry =>
      obtain ⟨r, rfl, hr, hown, hfree⟩ := h
      obtain ⟨-, -, hestate⟩ := @answer_add kind site r tidy hr hfree
      refine ⟨fun subject _ => ?_, fun host hh => ?_⟩
      · rw [hestate]
        rfl
      · have hne : r.domain ≠ host := fun he => hh (he ▸ hown)
        rw [show Site.records _ = _ from congrArg Estate.records hestate]
        exact (recordsOf_create host _ r).trans (if_neg hne)
    | remove entry =>
      obtain ⟨r, hr, rfl, hown⟩ := h
      obtain ⟨-, -, hestate⟩ := @answer_remove kind site r tidy hr
      refine ⟨fun subject _ => ?_, fun host hh => ?_⟩
      · rw [hestate]
        rfl
      · have hne : r.domain ≠ host := fun he => hh (he ▸ hown)
        rw [show Site.records _ = _ from congrArg Estate.records hestate]
        exact (recordsOf_removeFirst host _ _).trans (if_neg hne)
    | _ => exact ⟨fun _ _ => rfl, fun _ _ => rfl⟩
  | _ => exact ⟨fun _ _ => rfl, fun _ _ => rfl⟩

end

end Rehearsal

end ClusterDns
