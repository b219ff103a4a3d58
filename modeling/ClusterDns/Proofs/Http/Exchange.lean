import ClusterDns.Rehearsal.Network

/-! A request that can be written and is not sent elsewhere is one exchange: it reaches whoever
answers once, and the answer is to that request. -/

namespace ClusterDns

namespace Text.Base64

/-- The characters that bytes are written with. -/
def IsWritten (c : Char) : Prop := c = '=' ∨ ∃ n < 64, c = digit n

theorem isWritten_of_mem_group {count : Nat} (a b c : UInt8) {ch : Char}
    (h : ch ∈ group count a.toNat b.toNat c.toNat) : IsWritten ch := by
  have ha := a.toNat_lt
  have hb := b.toNat_lt
  have hc := c.toNat_lt
  obtain ⟨n, hn, rfl⟩ := List.mem_map.mp h
  have hmem := List.mem_of_mem_take hn
  simp only [List.mem_cons, List.not_mem_nil, or_false] at hmem
  refine .inr ⟨n, ?_, rfl⟩
  rcases hmem with rfl | rfl | rfl | rfl <;> omega

theorem isWritten_of_mem_encode {bytes : List UInt8} {ch : Char} (h : ch ∈ encode bytes) :
    IsWritten ch := by
  induction bytes using encode.induct with
  | case1 => simp [encode] at h
  | case2 a =>
    rcases List.mem_append.mp h with h | h
    · exact isWritten_of_mem_group a 0 0 h
    · exact .inl (by simpa using h)
  | case3 a b =>
    rcases List.mem_append.mp h with h | h
    · exact isWritten_of_mem_group a b 0 h
    · exact .inl (by simpa using h)
  | case4 a b c rest ih =>
    rcases List.mem_append.mp h with h | h
    · exact isWritten_of_mem_group a b c h
    · exact ih h

end Text.Base64

namespace Http

/-- Characters that may stand in a header's value. -/
def isValueChar (c : Char) : Bool := (0x20 ≤ c.toNat && c.toNat ≠ 0x7F) || c == '\t'

theorem isValueChar_of_isWritten {c : Char} (h : Text.Base64.IsWritten c) :
    isValueChar c = true := by
  have hdigits : ∀ n < 64, isValueChar (Text.Base64.digit n) = true := by decide
  rcases h with rfl | ⟨n, hn, rfl⟩
  · decide
  · exact hdigits n hn

theorem isValueChar_of_isDigit {c : Char} (h : Text.isDigit c = true) : isValueChar c = true := by
  simp only [Text.isDigit, Bool.and_eq_true, decide_eq_true_eq] at h
  have hlow : 48 ≤ c.toNat := h.1
  have hhigh : c.toNat ≤ 57 := h.2
  simp [isValueChar]
  omega

theorem isHeaderValue_authorization {url : Url} {header : Header}
    (h : authorization? url = some header) : isHeaderValue header.value = true := by
  unfold authorization? at h
  split at h
  · cases h
  · obtain ⟨name, -, rfl⟩ := Option.map_eq_some_iff.mp h
    refine List.all_eq_true.mpr fun c hc => ?_
    rw [String.toList_append, List.mem_append] at hc
    rcases hc with hc | hc
    · have hbasic : ∀ c ∈ "Basic ".toList, isValueChar c = true := by simp [isValueChar]
      exact hbasic c hc
    · rw [String.toList_ofList] at hc
      exact isValueChar_of_isWritten (Text.Base64.isWritten_of_mem_encode hc)

theorem isSupported_congr {url other : Url} (h : url.scheme = other.scheme) :
    isSupported url = isSupported other := by
  unfold isSupported
  rw [h]

namespace Request

/-- Every header of the request can be written. -/
def IsWritable (request : Request) : Prop := ∀ header ∈ request.headers, isHeaderValue header.value

section

variable (method : Method) (url : Url)

@[simp] theorem ofUrl_method : (ofUrl method url).method = method := by
  unfold ofUrl
  split <;> rfl

@[simp] theorem ofUrl_body : (ofUrl method url).body = none := by
  unfold ofUrl
  split <;> rfl

@[simp] theorem ofUrl_path : (ofUrl method url).url.path = url.path := by
  unfold ofUrl
  split <;> rfl

@[simp] theorem ofUrl_scheme : (ofUrl method url).url.scheme = url.scheme := by
  unfold ofUrl
  split <;> rfl

@[simp] theorem isSupported_ofUrl : isSupported (ofUrl method url).url = isSupported url :=
  isSupported_congr (ofUrl_scheme method url)

theorem ofUrl_isWritable : (ofUrl method url).IsWritable := by
  intro header hmem
  unfold ofUrl at hmem
  split at hmem
  · rename_i hauth
    rw [List.mem_singleton.mp hmem]
    exact isHeaderValue_authorization hauth
  · cases hmem

end

variable {request : Request}

theorem IsWritable.withHeader (h : request.IsWritable) {header : Header}
    (hv : isHeaderValue header.value = true) : (request.withHeader header).IsWritable := by
  intro other hmem
  rcases List.mem_append.mp hmem with hmem | hmem
  · exact h other hmem
  · rwa [List.mem_singleton.mp hmem]

theorem IsWritable.withJson (h : request.IsWritable) (body : Json) :
    (request.withJson body).IsWritable := by
  intro other hmem
  rcases List.mem_append.mp hmem with hmem | hmem
  · exact h other hmem
  · rw [List.mem_singleton.mp hmem]
    decide

end Request

end Http

namespace Rehearsal.Network

/-- An answer as it arrives. -/
def arrived (response : Http.Response) : Http.Response :=
  if isBodiless response.status then { response with body := [] } else response

@[simp] theorem arrived_status (response : Http.Response) :
    (arrived response).status = response.status := by
  unfold arrived
  split <;> rfl

/-- The network is up, and a Pi-hole answers in whose place nobody else does. -/
structure Serves (network : Network) (server : PiHoleServer) : Prop where
  up : network.isUp = true
  responder : ∃ schedule, network.responder = .server server schedule ∧ schedule.planned = []

variable {network : Network} {server : PiHoleServer} {request : Http.Request}

theorem Serves.hosts_eq (h : network.Serves server) : network.responder.hosts = server.hosts := by
  obtain ⟨schedule, hresponder, -⟩ := h.responder
  rw [hresponder]
  rfl

theorem Serves.answer (h : network.Serves server) (request : Http.Request) :
    ∃ next, Network.answer request network = (.ok (arrived (server.handle request).1), next) ∧
      next.Serves (server.handle request).2 ∧ next.requests = request :: network.requests := by
  obtain ⟨schedule, hresponder, hplanned⟩ := h.responder
  have hmeet : (schedule.meet request.method.name).1 = none := by simp [Schedule.meet, hplanned]
  have hstill : (schedule.meet request.method.name).2.planned = [] := hplanned
  have hdeliver : network.responder.deliver request = (.answered (server.handle request).1,
      .server (server.handle request).2 (schedule.meet request.method.name).2) := by
    simp [hresponder, Responder.deliver, hmeet]
  refine ⟨{ network with
    responder := .server (server.handle request).2 (schedule.meet request.method.name).2
    requests := request :: network.requests }, ?_, ⟨h.up, _, rfl, hstill⟩, rfl⟩
  simp [Network.answer, h.up, hdeliver, arrived]

/-- One exchange, of which nothing else comes. -/
theorem Serves.exchange (h : network.Serves server) (supported : Http.isSupported request.url)
    (writable : request.IsWritable)
    (stays : Http.isRedirect (server.handle request).1.status = false) :
    ∃ next, (Http.exchange request).run Network.answer network =
        (.ok ⟨request.url, arrived (server.handle request).1⟩, next) ∧
      next.Serves (server.handle request).2 ∧ next.requests = request :: network.requests := by
  obtain ⟨next, hanswer, hnext⟩ := h.answer request
  have hwritable : (request.headers.all fun header => Http.isHeaderValue header.value) = true :=
    List.all_eq_true.mpr writable
  have hstays : request.next? (arrived (server.handle request).1) = none := by
    simp [Http.Request.next?, stays]
  refine ⟨next, ?_, hnext⟩
  rw [Http.exchange, if_pos hwritable, Http.maxRedirects, Http.follow, Http.sendOnce,
    if_pos supported]
  refine (Program.run_ask ..).trans ?_
  simp [hanswer, hstays]

end Rehearsal.Network

end ClusterDns
