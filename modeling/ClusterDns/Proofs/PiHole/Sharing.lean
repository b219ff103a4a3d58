import ClusterDns.Proofs.PiHole.Session

/-! Requests of one client at the same time. The calls share the session that is kept, and between
any two steps of one call others may read it, replace it or forget it. Whoever's turn it is, every
request carries the id of a session that was granted to this client, and each call asks for a
session once and tries its request twice at the most. -/

namespace ClusterDns.PiHole

open Http (Received)

/-! ## Calls step by step -/

/-- What becomes of a request that was sent. -/
abbrev Reply := Except Http.Failure Received

/-- What a call does that concerns its request or the session that is kept. -/
inductive Deed where
  /-- Looks at the session that is kept, at a time of the clock. -/
  | consulted (now : Time.Instant) (cache : Session.Cache)
  | kept (session : Session)
  | forgot
  | sent (request : Http.Request)
  | received (request : Http.Request) (reply : Reply)

namespace Deed

/-- A request for a session, which is the only one with a body. -/
@[simp] def asks : Deed → Bool
  | sent request => request.body.isSome
  | _ => false

/-- A request that uses a session. -/
@[simp] def uses : Deed → Bool
  | sent request => request.body.isNone
  | _ => false

/-- The Pi-hole grants the client a session. -/
def Grants (endpoint : Endpoint) (grant : Answer.Grant) (deed : Deed) : Prop :=
  ∃ received : Received, deed = .received (authRequest endpoint) (.ok received) ∧
    received.response.status = 200 ∧ Answer.grant? received.response.body = some grant

end Deed

/-- What a call has still to do. After it has sent a request it waits for the reply. -/
inductive Task where
  | working (rest : Program Wire (Except Error Received))
  | waiting (request : Http.Request) (next : Reply → Program Wire (Except Error Received))

/-- The next step of a call: what it does, the session that is kept after it, and what is left. -/
def Task.step (cache : Session.Cache) (now : Time.Instant) (reply : Reply) :
    Task → Option Deed × Session.Cache × Task
  | waiting request next => (some (.received request reply), cache, working (next reply))
  | working (.done result) => (none, cache, working (.done result))
  | working (.ask q next) =>
    match q, next with
    | .cachedId, next => (some (.consulted now cache), cache, working (next (cache.current now)))
    | .keep id validity, next =>
      (some (.kept (.issue id validity now)), some (.issue id validity now), working (next ()))
    | .forget, next => (some .forgot, none, working (next ()))
    | .exchange request, next => (some (.sent request), cache, waiting request next)
    | .note _, next => (none, cache, working (next ()))

/-- Calls of one client that are under way. -/
structure Traffic (ι : Type) where
  cache : Session.Cache
  tasks : ι → Task
  /-- What was done so far and by whom, the last first. -/
  log : List (ι × Deed)

/-- Whose turn it is. -/
structure Turn (ι : Type) where
  who : ι
  /-- The time, if the clock is read. Nothing is asked of it. -/
  now : Time.Instant
  /-- What comes back, if a reply is waited for. It may be anything. -/
  reply : Reply

/-- A request that is to be sent with a session. -/
structure Errand where
  method : Http.Method
  url : Url

namespace Errand

variable (endpoint : Endpoint) (errand : Errand)

/-- The request with the id of a session. -/
def request (id : String) : Http.Request :=
  sessionRequest endpoint errand.method errand.url id

def call : Program Wire (Except Error Received) :=
  (Client.sendWithSession endpoint errand.method errand.url).run

end Errand

namespace Traffic

variable {ι : Type} [DecidableEq ι]

def step (traffic : Traffic ι) (turn : Turn ι) : Traffic ι :=
  let (deed?, cache, task) := (traffic.tasks turn.who).step traffic.cache turn.now turn.reply
  { cache
    tasks := Function.update traffic.tasks turn.who task
    log := deed?.toList.map (turn.who, ·) ++ traffic.log }

def follow (turns : List (Turn ι)) (traffic : Traffic ι) : Traffic ι := turns.foldl step traffic

/-- A client that keeps no session yet, and all calls there will be. -/
def begun (endpoint : Endpoint) (errands : ι → Errand) : Traffic ι :=
  ⟨none, fun i => .working ((errands i).call endpoint), []⟩

/-- What one of the calls has done, the last first. -/
def deedsOf (i : ι) (log : List (ι × Deed)) : List Deed :=
  (log.filter (·.1 = i)).map (·.2)

end Traffic

/-! ## What is asked of the calls -/

section

variable (endpoint : Endpoint) (errand : Errand)

/-- A session of this id was granted. -/
def IsGranted (id : String) (deeds : List Deed) : Prop :=
  ∃ deed ∈ deeds, ∃ grant, deed.Grants endpoint grant ∧ grant.id = id

/-- The session is one that was granted, kept at some time. -/
def IsIssued (session : Session) (deeds : List Deed) : Prop :=
  ∃ deed ∈ deeds, ∃ grant now, deed.Grants endpoint grant ∧
    session = .issue grant.id grant.validity now

/-- The id is that of the session that was kept when the call looked. -/
def IsTaken (id : String) (deeds : List Deed) : Prop :=
  ∃ now cache, .consulted now cache ∈ deeds ∧ Session.Cache.current cache now = some id

/-- The request was refused with the session that was kept. -/
def IsTurnedAway (deeds : List Deed) : Prop :=
  ∃ id received, IsTaken id deeds ∧
    .received (errand.request endpoint id) (.ok received) ∈ deeds ∧ received.response.status = 401

/-- A session of this id was granted after the request had been refused. -/
def IsGrantedAnew (id : String) (deeds : List Deed) : Prop :=
  ∃ deed before grant, deed :: before <:+ deeds ∧ deed.Grants endpoint grant ∧ grant.id = id ∧
    IsTurnedAway endpoint errand before

/-- The Pi-hole refused the password. -/
def IsRejected (deeds : List Deed) : Prop :=
  ∃ received, .received (authRequest endpoint) (.ok received) ∈ deeds ∧
    received.response.status = 401

/-- What a call may send after what it has done. -/
inductive MaySend : Http.Request → List Deed → Prop
  | ask {deeds : List Deed} (first : deeds.countP Deed.asks = 0) :
    MaySend (authRequest endpoint) deeds
  | use {deeds : List Deed} {id : String} (first : deeds.countP Deed.uses = 0)
    (own : IsTaken id deeds ∨ IsGranted endpoint id deeds) :
    MaySend (errand.request endpoint id) deeds
  | again {deeds : List Deed} {id : String} (second : deeds.countP Deed.uses = 1)
    (anew : IsGrantedAnew endpoint errand id deeds) : MaySend (errand.request endpoint id) deeds

/-- What a call may do after what it has done. -/
def MayDo : Deed → List Deed → Prop
  | .sent request, deeds => MaySend endpoint errand request deeds
  | .kept session, deeds => IsIssued endpoint session deeds
  | _, _ => True

end

/-- Calls of one client that share its session as they should. -/
structure Orderly {ι : Type} [DecidableEq ι] (endpoint : Endpoint) (errands : ι → Errand)
    (traffic : Traffic ι) : Prop where
  /-- What is sent asks for a session, or has the id of one that was granted to this client before:
  the one that was kept when the call looked, or one that was granted to the call itself. -/
  sent : ∀ i request earlier, (i, .sent request) :: earlier <:+ traffic.log →
    request = authRequest endpoint ∨ ∃ id, request = (errands i).request endpoint id ∧
      IsGranted endpoint id (earlier.map (·.2)) ∧
      (IsTaken id (Traffic.deedsOf i earlier) ∨ IsGranted endpoint id (Traffic.deedsOf i earlier))
  /-- An id that is taken from the cache is not empty, and its session is not over then. -/
  taken : ∀ i now cache earlier, (i, .consulted now cache) :: earlier <:+ traffic.log →
    ∀ id, Session.Cache.current cache now = some id → id ≠ "" ∧
      ∃ session, cache = some session ∧ session.id = id ∧ now.nanos < session.validUntil.nanos
  asksOnce : ∀ i, (Traffic.deedsOf i traffic.log).countP Deed.asks ≤ 1
  usesTwice : ∀ i, (Traffic.deedsOf i traffic.log).countP Deed.uses ≤ 2
  /-- A second try comes after a refusal of the session that was kept, with one granted since. -/
  anew : ∀ i id earlier,
    .sent ((errands i).request endpoint id) :: earlier <:+ Traffic.deedsOf i traffic.log →
      0 < earlier.countP Deed.uses → IsGrantedAnew endpoint (errands i) id earlier
  /-- Who tells that the password was refused has seen it refused. -/
  rejected : ∀ i status, traffic.tasks i = .working (.done (.error (.passwordRejected status))) →
    IsRejected endpoint (Traffic.deedsOf i traffic.log)
  /-- The session that is kept was granted to this client. -/
  cache : ∀ session, traffic.cache = some session →
    IsIssued endpoint session (traffic.log.map (·.2))

/-! ## One call -/

/-- The conduct of one call. The others change nothing that it has done itself. -/
def conduct (endpoint : Endpoint) (errand : Errand) : Contract Wire (List Deed) where
  drift before after := before = after
  answers
    | .cachedId, deeds, id?, later => ∃ now cache, id? = Session.Cache.current cache now ∧
        later = .consulted now cache :: deeds
    | .keep id validity, deeds, _, later => ∃ now, later = .kept (.issue id validity now) :: deeds
    | .forget, deeds, _, later => later = .forgot :: deeds
    | .exchange request, deeds, reply, later =>
      later = .received request reply :: .sent request :: deeds
    | .note _, deeds, _, later => later = deeds
  allowed
    | .keep id validity, deeds => ∃ deed ∈ deeds, deed.Grants endpoint ⟨id, validity⟩
    | .exchange request, deeds => MaySend endpoint errand request deeds
    | .cachedId, _ | .forget, _ | .note _, _ => True
  invariant _ := True

section

variable {endpoint : Endpoint} {errand : Errand} {deeds : List Deed} {id : String} {α β : Type}

/-- Who ends with the password refused has seen it refused. -/
def Candid (endpoint : Endpoint) (result : Except Error α) (deeds : List Deed) : Prop :=
  ∀ status, result = .error (.passwordRejected status) → IsRejected endpoint deeds

/-- A part of a call, and what it relies on at its end. -/
def Conducts (endpoint : Endpoint) (errand : Errand) (x : Talk α) (post : α → List Deed → Prop)
    (deeds : List Deed) : Prop :=
  (conduct endpoint errand).Secures x.run
    (fun result later => Candid endpoint result later ∧ ∀ a, result = .ok a → post a later) deeds

theorem conducts_pure {a : α} {post : α → List Deed → Prop} (h : post a deeds) :
    Conducts endpoint errand (pure a) post deeds := by
  refine ⟨fun _ he => (nomatch he), fun b hb => ?_⟩
  cases hb
  exact h

theorem conducts_throw {e : Error} {post : α → List Deed → Prop}
    (h : ∀ status, e = .passwordRejected status → IsRejected endpoint deeds) :
    Conducts endpoint errand (throw e : Talk α) post deeds := by
  refine ⟨fun status he => h status (Except.error.inj he), fun _ hb => nomatch hb⟩

theorem Conducts.bind {x : Talk α} {f : α → Talk β} {mid : α → List Deed → Prop}
    {post : β → List Deed → Prop} (h : Conducts endpoint errand x mid deeds)
    (hf : ∀ a later, mid a later → Conducts endpoint errand (f a) post later) :
    Conducts endpoint errand (x >>= f) post deeds := by
  refine Contract.Secures.bind (Contract.Secures.mono h ?_)
  rintro (e | a) later ⟨hcandid, hmid⟩
  · refine ⟨fun status he => hcandid status ?_, fun _ hb => nomatch hb⟩
    rw [Except.error.inj he]
  · exact hf a later (hmid a rfl)

theorem Conducts.mono {x : Talk α} {post post' : α → List Deed → Prop}
    (h : Conducts endpoint errand x post deeds) (hp : ∀ a later, post a later → post' a later) :
    Conducts endpoint errand x post' deeds :=
  Contract.Secures.mono h fun _ _ hr => ⟨hr.1, fun a ha => hp a _ (hr.2 a ha)⟩

theorem conducts_ask {q : WireRequest} {post : q.Answer → List Deed → Prop}
    (allowed : (conduct endpoint errand).allowed q deeds)
    (h : ∀ r later, (conduct endpoint errand).answers q deeds r later → post r later) :
    Conducts endpoint errand (ExceptT.lift (Wire.ask q)) post deeds := by
  rintro _ rfl -
  refine ⟨allowed, fun r later hr => ⟨trivial, fun _ he => (nomatch he), fun a ha => ?_⟩⟩
  cases ha
  exact h r later hr

theorem conducts_note {level : Journal.Level} {message : String}
    {fields : List (String × String)} :
    Conducts endpoint errand (Wire.note level message fields) (fun _ later => later = deeds)
      deeds :=
  conducts_ask trivial fun _ _ h => h

theorem conducts_exchange {url : Url} {request : Http.Request}
    (may : MaySend endpoint errand request deeds) :
    Conducts endpoint errand (Wire.exchange url request)
      (fun received later => later = .received request (.ok received) :: .sent request :: deeds)
      deeds := by
  rintro _ rfl -
  refine ⟨may, fun reply later hlater => ⟨trivial, ?_, ?_⟩⟩
  · intro status he
    cases reply with
    | ok received => cases he
    | error failure => cases failure <;> cases he
  · intro received hr
    cases reply with
    | ok _ => cases hr; exact hlater
    | error failure => cases failure <;> cases hr

/-- A call that asks for a session keeps the one it is granted. -/
theorem conducts_authenticate (first : deeds.countP Deed.asks = 0) :
    Conducts endpoint errand (Client.authenticate endpoint)
      (fun id later => ∃ received session grant,
        (Deed.received (authRequest endpoint) (.ok received)).Grants endpoint grant ∧
        grant.id = id ∧ later = .kept session :: .received (authRequest endpoint) (.ok received) ::
          .sent (authRequest endpoint) :: deeds) deeds := by
  unfold Client.authenticate
  refine conducts_note.bind ?_
  rintro _ _ rfl
  refine (conducts_exchange (.ask first)).bind ?_
  rintro received _ rfl
  split
  · rename_i hrefused
    refine (conducts_ask (q := .forget) trivial fun _ _ h => h).bind ?_
    rintro _ _ rfl
    refine conducts_note.bind ?_
    rintro _ _ rfl
    exact conducts_throw fun _ _ => ⟨received, by simp, hrefused⟩
  · split
    · exact conducts_throw fun _ he => nomatch he
    · rename_i hstatus
      split
      · exact conducts_throw fun _ he => nomatch he
      · rename_i grant hgrant
        have hgrants : (Deed.received (authRequest endpoint) (.ok received)).Grants endpoint grant :=
          ⟨received, rfl, by simpa using hstatus, hgrant⟩
        refine (conducts_ask (q := .note _) trivial fun _ _ h => h).bind ?_
        rintro _ _ rfl
        refine (conducts_ask (q := .keep grant.id grant.validity)
          ⟨_, List.mem_cons_self, hgrants⟩ fun _ _ h => h).bind ?_
        rintro _ _ ⟨now, rfl⟩
        exact conducts_pure ⟨received, _, grant, hgrants, rfl, rfl⟩

theorem conducts_send (may : MaySend endpoint errand (errand.request endpoint id) deeds) :
    Conducts endpoint errand (Client.send endpoint errand.method errand.url id)
      (fun received later => later = .received (errand.request endpoint id) (.ok received) ::
        .sent (errand.request endpoint id) :: deeds) deeds := by
  unfold Client.send
  refine conducts_note.bind ?_
  rintro _ _ rfl
  exact conducts_exchange may

@[simp] theorem body_authRequest (endpoint : Endpoint) :
    (authRequest endpoint).body =
      some (.object [(endpoint.passwordField, .string endpoint.password)]) := rfl

@[simp] theorem body_request (id : String) : (errand.request endpoint id).body = none := by
  simp [Errand.request, sessionRequest, Http.Request.withHeader]

/-- A whole call. Where the session that is kept is refused, there is one more try. -/
theorem conducts_call (endpoint : Endpoint) (errand : Errand) :
    Conducts endpoint errand (Client.sendWithSession endpoint errand.method errand.url)
      (fun _ _ => True) [] := by
  unfold Client.sendWithSession
  refine (conducts_ask (q := .cachedId) trivial fun _ _ h => h).bind ?_
  rintro id? _ ⟨now, cache, hid, rfl⟩
  cases id? with
  | none =>
    refine (conducts_authenticate rfl).bind ?_
    rintro id _ ⟨received, session, grant, hgrants, hgrant, rfl⟩
    refine (conducts_send (.use (by simp) (.inr ?_))).mono fun _ _ _ => trivial
    exact ⟨_, by simp, grant, hgrants, hgrant⟩
  | some id =>
    have htaken : IsTaken id [.consulted now cache] := ⟨now, cache, by simp, hid.symm⟩
    refine (conducts_send (.use rfl (.inl htaken))).bind ?_
    rintro received _ rfl
    split
    · rename_i hrefused
      have haway : IsTurnedAway endpoint errand
          [.sent (authRequest endpoint), .received (errand.request endpoint id) (.ok received),
            .sent (errand.request endpoint id), .consulted now cache] :=
        ⟨id, received, ⟨now, cache, by simp, hid.symm⟩, by simp, hrefused⟩
      refine conducts_note.bind ?_
      rintro _ _ rfl
      refine (conducts_authenticate (by simp)).bind ?_
      rintro fresh _ ⟨granting, session, grant, hgrants, hgrant, rfl⟩
      refine (conducts_send (.again (by simp) ?_)).mono fun _ _ _ => trivial
      exact ⟨_, _, grant, List.suffix_cons _ _, hgrants, hgrant, haway⟩
    · exact conducts_pure trivial

end

/-! ## Many calls -/

/-- What a call has still to do goes with what it has done. -/
def Task.IsAhead (endpoint : Endpoint) (errand : Errand) (deeds : List Deed) : Task → Prop
  | working rest => (conduct endpoint errand).Secures rest (Candid endpoint) deeds
  | waiting request next => ∀ reply,
    (conduct endpoint errand).Secures (next reply) (Candid endpoint) (.received request reply :: deeds)

/-- A call that has done nothing but what it may do, and will not either. -/
structure Proper (endpoint : Endpoint) (errand : Errand) (task : Task) (deeds : List Deed) :
    Prop where
  ahead : task.IsAhead endpoint errand deeds
  past : ∀ deed earlier, deed :: earlier <:+ deeds → MayDo endpoint errand deed earlier

section

variable {endpoint : Endpoint} {errand : Errand} {deeds : List Deed} {id : String} {task : Task}

theorem Proper.cons {next : Task} (h : Proper endpoint errand task deeds) {deed : Deed}
    (may : MayDo endpoint errand deed deeds) (ahead : next.IsAhead endpoint errand (deed :: deeds)) :
    Proper endpoint errand next (deed :: deeds) := by
  refine ⟨ahead, fun other earlier hsuffix => ?_⟩
  rcases List.suffix_cons_iff.mp hsuffix with heq | hsuffix
  · cases heq
    exact may
  · exact h.past other earlier hsuffix

theorem IsIssued.mono {session : Session} {later : List Deed} (h : IsIssued endpoint session deeds)
    (hsub : deeds ⊆ later) : IsIssued endpoint session later := by
  obtain ⟨deed, hd, hissue⟩ := h
  exact ⟨deed, hsub hd, hissue⟩

theorem IsIssued.granted {session : Session} (h : IsIssued endpoint session deeds) :
    IsGranted endpoint session.id deeds := by
  obtain ⟨deed, hd, grant, now, hgrants, rfl⟩ := h
  exact ⟨deed, hd, grant, hgrants, rfl⟩

/-- Each step of a call is one it may take. -/
theorem Proper.step (h : Proper endpoint errand task deeds) (cache : Session.Cache)
    (now : Time.Instant) (reply : Reply) : Proper endpoint errand (task.step cache now reply).2.2
      ((task.step cache now reply).1.toList ++ deeds) := by
  cases task with
  | waiting request next => exact h.cons trivial (h.ahead reply)
  | working rest =>
    cases rest with
    | done result => exact h
    | ask q next =>
      obtain ⟨allowed, hnext⟩ := h.ahead deeds rfl trivial
      cases q with
      | cachedId => exact h.cons trivial (hnext _ _ ⟨now, cache, rfl, rfl⟩).2
      | keep id validity =>
        obtain ⟨deed, hd, hgrants⟩ := allowed
        exact h.cons ⟨deed, hd, _, now, hgrants, rfl⟩ (hnext _ _ ⟨now, rfl⟩).2
      | forget => exact h.cons trivial (hnext _ _ rfl).2
      | exchange request => exact h.cons allowed fun reply => (hnext reply _ rfl).2
      | note entry => exact ⟨(hnext _ _ rfl).2, h.past⟩

/-- A session comes into the cache by being kept. -/
theorem Task.kept_of_step {cache : Session.Cache} {now : Time.Instant} {reply : Reply}
    {session : Session} (h : (task.step cache now reply).2.1 = some session) :
    cache = some session ∨ (task.step cache now reply).1 = some (.kept session) := by
  cases task with
  | waiting request next => exact .inl h
  | working rest =>
    cases rest with
    | done result => exact .inl h
    | ask q next =>
      cases q with
      | keep id validity => exact .inr (congrArg (some ∘ Deed.kept) (Option.some.inj h))
      | forget => cases h
      | cachedId | exchange | note => exact .inl h

/-- A call looks at the session that is kept. -/
theorem Task.eq_of_consulted {cache seen : Session.Cache} {now time : Time.Instant} {reply : Reply}
    (h : (task.step cache now reply).1 = some (.consulted time seen)) : seen = cache := by
  cases task with
  | waiting request next => cases h
  | working rest =>
    cases rest with
    | done result => cases h
    | ask q next => cases q <;> cases h; rfl

/-- Deeds are few if each was done after fewer. -/
theorem countP_le {p : Deed → Bool} {bound : Nat} (h : ∀ deed earlier, deed :: earlier <:+ deeds →
    p deed = true → earlier.countP p < bound) : deeds.countP p ≤ bound := by
  induction deeds with
  | nil => exact Nat.zero_le bound
  | cons deed rest ih =>
    have hrest := ih fun other earlier hs => h other earlier (hs.trans (List.suffix_cons _ _))
    rw [List.countP_cons]
    split
    · rename_i hdeed
      exact h deed rest List.suffix_rfl hdeed
    · exact hrest

theorem MayDo.asks_lt {deed : Deed} (may : MayDo endpoint errand deed deeds)
    (asks : deed.asks = true) : deeds.countP Deed.asks < 1 := by
  cases deed with
  | sent request =>
    cases may with
    | ask first => omega
    | use | again => simp at asks
  | consulted | kept | forgot | received => cases asks

theorem MayDo.uses_lt {deed : Deed} (may : MayDo endpoint errand deed deeds)
    (uses : deed.uses = true) : deeds.countP Deed.uses < 2 := by
  cases deed with
  | sent request =>
    cases may with
    | ask first => simp at uses
    | use first own => omega
    | again second anew => omega
  | consulted | kept | forgot | received => cases uses

theorem request_injective {other : String}
    (h : errand.request endpoint id = errand.request endpoint other) : id = other := by
  have hheaders := congrArg Http.Request.headers h
  simpa [Errand.request, sessionRequest, Http.Request.withHeader] using hheaders

theorem exists_of_current {cache : Session.Cache} {now : Time.Instant}
    (h : cache.current now = some id) : id ≠ "" ∧
      ∃ session, cache = some session ∧ session.id = id ∧
        now.nanos < session.validUntil.nanos := by
  obtain ⟨session, hsession, rfl⟩ := Option.map_eq_some_iff.mp h
  obtain ⟨hcache, hvalid⟩ := Option.filter_eq_some_iff.mp hsession
  simp only [Session.isValidAt, Bool.and_eq_true, decide_eq_true_eq] at hvalid
  exact ⟨by simpa using hvalid.1, session, hcache, rfl, hvalid.2⟩

end

namespace Traffic

variable {ι : Type} [DecidableEq ι] {endpoint : Endpoint} {errands : ι → Errand}
  {traffic : Traffic ι}

theorem mem_deedsOf {i : ι} {deed : Deed} {log : List (ι × Deed)} :
    deed ∈ deedsOf i log ↔ (i, deed) ∈ log := by
  simp [deedsOf]

theorem deedsOf_subset (i : ι) (log : List (ι × Deed)) : deedsOf i log ⊆ log.map (·.2) :=
  fun _ hd => List.mem_map.mpr ⟨_, mem_deedsOf.mp hd, rfl⟩

theorem deedsOf_append (i : ι) (deeds : List Deed) (who : ι) (log : List (ι × Deed)) :
    deedsOf i (deeds.map (who, ·) ++ log) =
      if i = who then deeds ++ deedsOf i log else deedsOf i log := by
  simp only [deedsOf, List.filter_append, List.map_append]
  by_cases hi : i = who
  · subst hi
    simp [List.filter_map, Function.comp_def]
  · simp [List.filter_map, Function.comp_def, Ne.symm hi, hi]

theorem suffix_deedsOf {i : ι} {deed : Deed} {earlier log : List (ι × Deed)}
    (h : (i, deed) :: earlier <:+ log) : deed :: deedsOf i earlier <:+ deedsOf i log := by
  have hsuffix := (h.filter (·.1 = i)).map (·.2)
  simpa [deedsOf] using hsuffix

/-- What holds while calls are under way. -/
structure Sound (endpoint : Endpoint) (errands : ι → Errand) (traffic : Traffic ι) : Prop where
  proper : ∀ i, Proper endpoint (errands i) (traffic.tasks i) (deedsOf i traffic.log)
  cache : ∀ session, traffic.cache = some session →
    IsIssued endpoint session (traffic.log.map (·.2))
  consulted : ∀ i now cache earlier, (i, .consulted now cache) :: earlier <:+ traffic.log →
    ∀ session, cache = some session → IsIssued endpoint session (earlier.map (·.2))

theorem sound_begun (endpoint : Endpoint) (errands : ι → Errand) :
    Sound endpoint errands (begun endpoint errands) where
  proper i := ⟨Contract.Secures.mono (conducts_call endpoint (errands i)) fun _ _ h => h.1,
    fun _ _ hs => by simp [begun, deedsOf] at hs⟩
  cache _ h := nomatch h
  consulted _ _ _ _ hs := by simp [begun] at hs

/-- Whoever's turn it is, the others have done what they had done, and the session that is kept was
granted. -/
theorem Sound.step (h : Sound endpoint errands traffic) (turn : Turn ι) :
    Sound endpoint errands (traffic.step turn) := by
  have hproper := (h.proper turn.who).step traffic.cache turn.now turn.reply
  constructor
  · intro i
    dsimp only [Traffic.step]
    rw [deedsOf_append]
    by_cases hi : i = turn.who
    · subst hi
      simpa using hproper
    · simpa [hi] using h.proper i
  · intro session hsession
    rcases Task.kept_of_step hsession with hkept | hkept
    · refine (h.cache session hkept).mono ?_
      dsimp only [Traffic.step]
      rw [List.map_append]
      exact List.subset_append_right _ _
    · dsimp only [Traffic.step]
      rw [hkept] at hproper ⊢
      refine (hproper.past _ _ List.suffix_rfl : IsIssued _ _ _).mono fun deed hd => ?_
      exact List.mem_cons_of_mem _ (deedsOf_subset _ _ hd)
  · intro i now cache earlier hsuffix session hsession
    dsimp only [Traffic.step] at hsuffix
    cases hdeed : ((traffic.tasks turn.who).step traffic.cache turn.now turn.reply).1 with
    | none =>
      rw [hdeed] at hsuffix
      exact h.consulted i now cache earlier hsuffix session hsession
    | some deed =>
      rw [hdeed] at hsuffix
      rcases List.suffix_cons_iff.mp hsuffix with heq | hsuffix
      · cases heq
        rw [Task.eq_of_consulted hdeed] at hsession
        exact h.cache session hsession
      · exact h.consulted i now cache earlier hsuffix session hsession

theorem Sound.follow (h : Sound endpoint errands traffic) (turns : List (Turn ι)) :
    Sound endpoint errands (traffic.follow turns) := by
  induction turns generalizing traffic with
  | nil => exact h
  | cons turn rest ih => exact ih (h.step turn)

/-- An id that a call has taken from the cache was granted before. -/
theorem Sound.granted (h : Sound endpoint errands traffic) {i : ι} {earlier : List (ι × Deed)}
    (hsuffix : earlier <:+ traffic.log) {id : String} (taken : IsTaken id (deedsOf i earlier)) :
    IsGranted endpoint id (earlier.map (·.2)) := by
  obtain ⟨now, cache, hmem, hcurrent⟩ := taken
  obtain ⟨later, before, rfl⟩ := List.append_of_mem (mem_deedsOf.mp hmem)
  obtain ⟨-, session, hcache, rfl, -⟩ := exists_of_current hcurrent
  have hissued := h.consulted i now cache before ((List.suffix_append _ _).trans hsuffix)
    session hcache
  refine (hissued.mono fun deed hd => ?_).granted
  rw [List.map_append, List.map_cons]
  exact List.mem_append_right _ (List.mem_cons_of_mem _ hd)

theorem Sound.orderly (h : Sound endpoint errands traffic) : Orderly endpoint errands traffic where
  sent i request earlier hsuffix := by
    have hmay : MaySend endpoint (errands i) request (deedsOf i earlier) :=
      (h.proper i).past _ _ (suffix_deedsOf hsuffix)
    have hearlier := (List.suffix_cons _ _).trans hsuffix
    have hall : ∀ id, IsGranted endpoint id (deedsOf i earlier) →
        IsGranted endpoint id (earlier.map (·.2)) :=
      fun id ⟨deed, hd, hgrant⟩ => ⟨deed, deedsOf_subset i earlier hd, hgrant⟩
    cases hmay with
    | ask first => exact .inl rfl
    | @use _ id first own =>
      exact .inr ⟨id, rfl, own.elim (h.granted hearlier) (hall id), own⟩
    | @again _ id second anew =>
      obtain ⟨deed, before, grant, hbefore, hgrants, hid, -⟩ := anew
      have hown : IsGranted endpoint id (deedsOf i earlier) :=
        ⟨deed, hbefore.subset List.mem_cons_self, grant, hgrants, hid⟩
      exact .inr ⟨id, rfl, hall id hown, .inr hown⟩
  taken _ _ _ _ _ _ hcurrent := exists_of_current hcurrent
  asksOnce i := countP_le fun deed earlier hs => ((h.proper i).past deed earlier hs).asks_lt
  usesTwice i := countP_le fun deed earlier hs => ((h.proper i).past deed earlier hs).uses_lt
  anew i id earlier hsuffix hused := by
    have hmay : MaySend endpoint (errands i) ((errands i).request endpoint id) earlier :=
      (h.proper i).past _ _ hsuffix
    generalize hrequest : (errands i).request endpoint id = request at hmay
    cases hmay with
    | ask first =>
      have hbody := congrArg Http.Request.body hrequest
      simp at hbody
    | use first own => omega
    | again second anew => rwa [request_injective hrequest]
  rejected i status htask := by
    have hahead := (h.proper i).ahead
    rw [htask] at hahead
    exact hahead status rfl
  cache := h.cache

/-- Calls of one client share its session as they should, however many there are, in whatever order
they take their steps, whatever the clock shows, and whatever the Pi-hole replies. -/
theorem orderly_follow (endpoint : Endpoint) (errands : ι → Errand) (turns : List (Turn ι)) :
    Orderly endpoint errands ((begun endpoint errands).follow turns) :=
  ((sound_begun endpoint errands).follow turns).orderly

end Traffic

end ClusterDns.PiHole
