import ClusterDns.Http.Agent
import ClusterDns.Proofs.Program.Dialogue

/-! Chains of redirects. One exchange is a chain of requests: the first is the one that was made,
and each of the others is the one before it, moved to the place its answer told. What holds of the
first and is kept by every move holds of the whole chain, and every move that can be made is made
until the redirects are used up. -/

namespace ClusterDns.Http

/-- A request that was sent, and what came of it. -/
structure Hop where
  request : Request
  reply : Except Silence Response

/-- The hops of a dialogue with the network. -/
def hopsOf (log : List (Exchange Link)) : List Hop :=
  log.map fun ⟨request, reply⟩ => ⟨request, reply⟩

/-- The hop was answered by a redirect to a place a request can be sent to. -/
def SentOn (hop : Hop) (status : Nat) (place : Url) : Prop :=
  ∃ response, hop.reply = .ok response ∧ response.status = status ∧ isRedirect status = true ∧
    response.location?.map (Url.resolve hop.request.url) = some (.ok place) ∧
    isSupported place = true

namespace Request

variable {request next : Request} {response : Response} {status : Nat} {url : Url}

@[simp] theorem moved_url : (request.moved status url).url = url.withoutUserinfo := by
  unfold moved
  split <;> rfl

theorem mem_headers_moved {header : Header} :
    header ∈ (request.moved status url).headers ↔
      header ∈ request.headers ∧ request.resends status url header.name = true := by
  unfold moved
  split <;> exact List.mem_filter

theorem body_moved : (request.moved status url).body =
    if becomesGet status request.method then none else request.body := by
  unfold moved
  split <;> rfl

theorem method_moved : (request.moved status url).method =
    if becomesGet status request.method then .get else request.method := by
  unfold moved
  split <;> rfl

theorem isSupported_moved : isSupported (request.moved status url).url = isSupported url := by
  rw [moved_url]
  rfl

end Request

namespace SentOn

variable {hop : Hop} {status other : Nat} {place elsewhere : Url}

/-- What the answer says, if it is known. -/
theorem told (h : SentOn hop status place) {response : Response}
    (answered : hop.reply = .ok response) : response.status = status ∧ isRedirect status = true ∧
      response.location?.map (Url.resolve hop.request.url) = some (.ok place) ∧
      isSupported place = true := by
  obtain ⟨again, hagain, h⟩ := h
  rw [answered] at hagain
  cases hagain
  exact h

/-- A hop is sent on to one place. -/
theorem unique (h : SentOn hop status place) (h' : SentOn hop other elsewhere) :
    other = status ∧ elsewhere = place := by
  obtain ⟨response, answered, rfl, -, hplace, -⟩ := h
  obtain ⟨rfl, -, helsewhere, -⟩ := h'.told answered
  rw [hplace] at helsewhere
  cases helsewhere
  exact ⟨rfl, rfl⟩

theorem next? (h : SentOn hop status place) : ∃ response, hop.reply = .ok response ∧
    hop.request.next? response = some (hop.request.moved status place) := by
  obtain ⟨response, answered, rfl, hredirect, hplace, -⟩ := h
  refine ⟨response, answered, ?_⟩
  simp [Request.next?, hredirect, hplace]

theorem isRedirect (h : SentOn hop status place) : isRedirect status = true := by
  obtain ⟨-, -, -, hredirect, -⟩ := h
  exact hredirect

end SentOn

/-- The request an answer asks for is the one it is to, moved. -/
theorem Request.next?_eq_some {request next : Request} {response : Response}
    (h : request.next? response = some next) :
    ∃ place, next = request.moved response.status place ∧ isRedirect response.status = true ∧
      response.location?.map (Url.resolve request.url) = some (.ok place) := by
  unfold Request.next? at h
  split at h
  · rename_i hredirect
    split at h
    · rename_i place hplace
      exact ⟨place, (Option.some.inj h).symm, hredirect, hplace⟩
    · cases h
  · cases h

/-- The hops of an exchange that follows up to so many redirects. -/
inductive Chain : Nat → Request → List Hop → Prop
  | ended {n : Nat} {request : Request} {reply : Except Silence Response}
    (stays : ∀ status place, ¬ SentOn ⟨request, reply⟩ status place) :
    Chain n request [⟨request, reply⟩]
  /-- No redirect is left to follow. -/
  | spent {request : Request} {reply : Except Silence Response} : Chain 0 request [⟨request, reply⟩]
  | moved {n : Nat} {request : Request} {reply : Except Silence Response} {status : Nat}
    {place : Url} {rest : List Hop} (sent : SentOn ⟨request, reply⟩ status place)
    (chain : Chain n (request.moved status place) rest) :
    Chain (n + 1) request (⟨request, reply⟩ :: rest)

/-! ## Exchanges -/

theorem eq_nil_of_unsupported {n : Nat} {request : Request} {log : List (Exchange Link)}
    {outcome : Except Failure Received} (run : Dialogue (follow n request) log outcome)
    (unsupported : isSupported request.url = false) : log = [] := by
  cases n with
  | zero =>
    simp only [follow, sendOnce, unsupported] at run
    exact (Dialogue.of_done run).1
  | succ n =>
    simp only [follow, sendOnce, unsupported] at run
    exact (Dialogue.of_done run).1

/-- One request that can be sent. If its answer asks for another one, what follows is up to the
program that goes on with that. -/
theorem of_sendOnce {request : Request} {goOn : Request → Program Link (Except Failure Received)}
    {log : List (Exchange Link)} {outcome : Except Failure Received}
    (run : Dialogue (sendOnce request goOn) log outcome)
    (supported : isSupported request.url = true) :
    ∃ reply rest, log = ⟨request, reply⟩ :: rest ∧
      ((rest = [] ∧ ∀ response, reply = .ok response → request.next? response = none) ∨
        ∃ response next, reply = .ok response ∧ request.next? response = some next ∧
          Dialogue (goOn next) rest outcome) := by
  simp only [sendOnce, supported, if_true] at run
  obtain ⟨reply, rest, rfl, hrest⟩ := Dialogue.of_ask run
  refine ⟨reply, rest, rfl, ?_⟩
  match reply, hrest with
  | .error .dropped, hrest | .error .late, hrest =>
    exact .inl ⟨(Dialogue.of_done hrest).1, fun _ h => nomatch h⟩
  | .ok response, hrest =>
    cases hnext : request.next? response with
    | none =>
      simp only [hnext] at hrest
      refine .inl ⟨(Dialogue.of_done hrest).1, ?_⟩
      intro other h
      rw [← Except.ok.inj h, hnext]
    | some next =>
      simp only [hnext] at hrest
      exact .inr ⟨response, next, rfl, hnext, hrest⟩

theorem chain_of_follow {n : Nat} {request : Request} {log : List (Exchange Link)}
    {outcome : Except Failure Received} (run : Dialogue (follow n request) log outcome)
    (supported : isSupported request.url = true) : Chain n request (hopsOf log) := by
  induction n generalizing request log with
  | zero =>
    obtain ⟨reply, rest, rfl, hrest⟩ := of_sendOnce run supported
    have hlast : rest = [] := by
      rcases hrest with ⟨h, -⟩ | ⟨response, next, -, -, h⟩
      · exact h
      · exact (Dialogue.of_done h).1
    rw [hlast]
    exact .spent
  | succ n ih =>
    obtain ⟨reply, rest, rfl, hrest⟩ := of_sendOnce run supported
    rcases hrest with ⟨rfl, stays⟩ | ⟨response, next, rfl, hnext, hrest⟩
    · refine .ended ?_
      intro status place h
      obtain ⟨response, answered, hnext⟩ := h.next?
      simp [stays response answered] at hnext
    · obtain ⟨place, rfl, hredirect, hplace⟩ := Request.next?_eq_some hnext
      cases hsupported : isSupported place with
      | false =>
        -- the program goes on there all the same, but sends nothing
        rw [eq_nil_of_unsupported hrest (by rwa [Request.isSupported_moved])]
        refine .ended ?_
        intro status elsewhere h
        obtain ⟨-, -, helsewhere, supported⟩ := h.told rfl
        rw [hplace] at helsewhere
        cases helsewhere
        simp [hsupported] at supported
      | true =>
        exact .moved ⟨response, rfl, rfl, hredirect, hplace, hsupported⟩
          (ih hrest (by rwa [Request.isSupported_moved]))

/-- A request that cannot be written, or cannot be sent by its scheme, is not sent at all. -/
theorem chain_of_exchange {request : Request} {log : List (Exchange Link)}
    {outcome : Except Failure Received} (run : Dialogue (exchange request) log outcome) :
    log = [] ∨ Chain maxRedirects request (hopsOf log) := by
  unfold exchange at run
  split at run
  · cases hsupported : isSupported request.url with
    | false => exact .inl (eq_nil_of_unsupported run hsupported)
    | true => exact .inr (chain_of_follow run hsupported)
  · exact .inl (Dialogue.of_done run).1

namespace Chain

variable {n : Nat} {request : Request} {hops : List Hop}

/-- The request itself is sent. -/
theorem exists_mem (chain : Chain n request hops) : ∃ reply, ⟨request, reply⟩ ∈ hops := by
  cases chain with
  | ended stays => exact ⟨_, List.mem_singleton_self _⟩
  | spent => exact ⟨_, List.mem_singleton_self _⟩
  | moved sent chain => exact ⟨_, List.mem_cons_self⟩

theorem forall_mem (chain : Chain n request hops) {P : Request → Prop} (first : P request)
    (step : ∀ hop ∈ hops.take n, ∀ status place, SentOn hop status place → P hop.request →
      P (hop.request.moved status place)) : ∀ hop ∈ hops, P hop.request := by
  induction chain with
  | ended stays => simpa using first
  | spent => simpa using first
  | moved sent chain ih =>
    have hnext := step _ (by simp) _ _ sent first
    have hrest := ih hnext fun hop hmem => step hop (by simp [hmem])
    simpa using ⟨first, hrest⟩

theorem mem_of_sentOn (chain : Chain n request hops) {hop : Hop} (hmem : hop ∈ hops.take n)
    {status : Nat} {place : Url} (sent : SentOn hop status place) :
    ∃ reply, ⟨hop.request.moved status place, reply⟩ ∈ hops := by
  induction chain with
  | ended stays =>
    have hhop := List.mem_of_mem_take hmem
    rw [List.mem_singleton] at hhop
    subst hhop
    exact absurd sent (stays status place)
  | spent => simp at hmem
  | moved first chain ih =>
    rw [List.take_succ_cons, List.mem_cons] at hmem
    rcases hmem with rfl | hmem
    · obtain ⟨rfl, rfl⟩ := first.unique sent
      obtain ⟨reply, h⟩ := chain.exists_mem
      exact ⟨reply, List.mem_cons_of_mem _ h⟩
    · obtain ⟨reply, h⟩ := ih hmem
      exact ⟨reply, List.mem_cons_of_mem _ h⟩

end Chain

end ClusterDns.Http
