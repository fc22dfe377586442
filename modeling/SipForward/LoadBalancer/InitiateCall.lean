import SipForward.Core.Json
import SipForward.LoadBalancer.Routing
import SipForward.LoadBalancer.Selection

/-!
# Requests for a call that fail

`InitiateCallHandler` selects a container, forwards the request to it and answers with what comes
back. The selection raises the container's count, and nothing takes it back when the request fails
afterwards; the next heartbeat replaces the count by the one the container reports.
-/

namespace LoadBalancer

open AList Core

/-! ### The handler -/

/-- The body of a container's answer. `object` is what `json.Unmarshal` reads into a map, if it
reads it without an error. -/
structure Body where
  text : String
  object : Option Json

/-- How `proxyClient.Post` ends. -/
inductive Upstream where
  | failed (err : String)
  | answered (statusCode : Int) (body : Body)

/-- An answer of the load balancer, by `SendResponse` or with the body as it came. -/
inductive Response where
  | api (status : Int) (message : String) (data : Option Json) (err : String)
  | data (status : Int) (contentType : String) (body : String)

def Response.status : Response → Int
  | .api status _ _ _ => status
  | .data status _ _  => status

/-- An error response. -/
def Response.isError (r : Response) : Prop := 400 ≤ r.status

/-- The URL that a request is forwarded to. -/
def initiateCallURL (md : ServerMetadata) : String :=
  "http://" ++ md.host ++ ":" ++ toString md.port ++ "/initiate-call"

/-- What is answered once the container has answered. -/
def upstreamResponse : Upstream → Response
  | .failed err               => .api 503 "Failed to connect to container" none err
  | .answered statusCode body =>
    if 400 ≤ statusCode then
      match body.object with
      | some object => .api statusCode "Upstream Error" (some object) "Container returned error"
      | none        => .api statusCode "Upstream Error" none body.text
    else
      match body.object with
      | some object => .api statusCode "Call initiated" (some object) ""
      | none        => .data statusCode "application/json" body.text

/-- `InitiateCallHandler`, for a payload that binds or does not, the order in which the keys of
`LSML` are visited and what forwarding a request to a URL comes to. -/
def initiateCallHandler (payload : Except String InitiateCallRequest) (order : List String)
    (post : String → InitiateCallRequest → Upstream) (s : State) : Response × State :=
  match payload with
  | .error err => (.api 400 "Invalid request payload" none err, s)
  | .ok req =>
    match selectOutbound req order s with
    | (.error err, s') => (.api 503 "No available containers" none err, s')
    | (.ok md, s')     => (upstreamResponse (post (initiateCallURL md) req), s')

/-! ### What it does to the counts -/

variable {s s' : State} {req : InitiateCallRequest} {order : List String}
  {payload : Except String InitiateCallRequest} {post : String → InitiateCallRequest → Upstream}
  {w : World}

/-- No server that the request may be sent to has a finite count. -/
def Unserved (req : InitiateCallRequest) (s : State) : Prop :=
  match typeOverride req with
  | some type =>
    ∀ n md c, s.lsml.lookup n = some md → s.lscs.lookup n = some c → contains n type = true →
      c = maxInt
  | none => ∀ n ∈ s.servers .outbound, ∀ c ∈ s.lscs.lookup n, maxInt ≤ c

/-- The count of one server is higher by one. -/
def RaisedAt (n : String) (s s' : State) : Prop :=
  ∃ c, s.lscs.lookup n = some c ∧
    ∀ m, s'.lscs.lookup m = if m = n then some (c + 1) else s.lscs.lookup m

lemma raisedAt_increment {n : String} {c : Int} (hc : s.lscs.lookup n = some c) :
    RaisedAt n s (s.increment n) :=
  ⟨c, hc, State.increment_lscs hc⟩

lemma RaisedAt.ne {n : String} (h : RaisedAt n s s') : s'.lscs.lookup n ≠ s.lscs.lookup n := by
  obtain ⟨c, hc, hs'⟩ := h
  rw [hs' n, hc]
  simp

/-- On each of the three paths: nothing is found and nothing changes, or the count of the server
that was found is raised. -/
lemma selectOutbound_spec (ha : Aligned s) (hunlisted : "" ∉ s.servers .outbound)
    (horder : order.Perm s.lsml.keys) (req : InitiateCallRequest) :
    (Unserved req s ∧ ∃ err, selectOutbound req order s = (.error err, s)) ∨
    (¬Unserved req s ∧ ∃ (n : String) (c : Int) (md : ServerMetadata), s.lscs.lookup n = some c ∧
      selectOutbound req order s = (.ok (md.withCalls (c + 1)), s.increment n)) := by
  cases htype : typeOverride req with
  | some type =>
    rw [selectOutbound_override htype, Unserved, htype]
    rcases findByType_cases type order s with
      ⟨⟨err, hres⟩, hall⟩ | ⟨n, md, c, -, hmd, hc, hcontains, hfinite, hres⟩
    · refine Or.inl ⟨fun n md c hmd hc hcontains => ?_, err, hres⟩
      have hmem : n ∈ order := horder.mem_iff.mpr (mem_keys.mp (mem_of_lookup_eq_some hmd))
      exact hall n hmem md hmd c hc hcontains
    · exact Or.inr ⟨fun hall => hfinite (hall n md c hmd hc hcontains), n, c, md, hc, hres⟩
  | none =>
    rw [selectOutbound_default htype, Unserved, htype]
    rcases findLowest_spec ha hunlisted with ⟨err, -, hres, hall⟩ | ⟨n, c, md, hlowest, -, hres⟩
    · exact Or.inl ⟨hall, err, hres⟩
    · exact Or.inr ⟨hlowest.not_exhausted, n, c, md, hlowest.count, hres⟩

/-- The request was sent to a container, which was not reached or has answered with an error. -/
def Response.FailedUpstream (r : Response) : Prop :=
  (∃ err, r = .api 503 "Failed to connect to container" none err) ∨
    ∃ status data err, 400 ≤ status ∧ r = .api status "Upstream Error" data err

lemma upstreamResponse_failed {u : Upstream} (h : (upstreamResponse u).isError) :
    (upstreamResponse u).FailedUpstream := by
  cases u with
  | failed err => exact Or.inl ⟨err, rfl⟩
  | answered statusCode body =>
    by_cases hstatus : 400 ≤ statusCode
    · refine Or.inr ⟨statusCode, body.object, ?_⟩
      cases hobject : body.object with
      | none => exact ⟨body.text, hstatus, by simp [upstreamResponse, hstatus, hobject]⟩
      | some object =>
        exact ⟨"Container returned error", hstatus, by simp [upstreamResponse, hstatus, hobject]⟩
    · have hcode : (upstreamResponse (.answered statusCode body)).status = statusCode := by
        cases hobject : body.object <;>
          simp [upstreamResponse, hstatus, hobject, Response.status]
      rw [Response.isError, hcode] at h
      exact absurd h hstatus

/-- In every state that the service can reach, a request that is answered with an error leaves the
counts alone if and only if its payload does not bind or no server that it may be sent to has a
finite count. Otherwise it was sent to a container and has failed there, and the count of one server
is higher by one afterwards. -/
theorem initiateCall_failed {es : List LifeEvent} (hr : run lifeStep .blank es = some w)
    (horder : order.Perm w.mem.lsml.keys)
    (herror : (initiateCallHandler payload order post w.mem).1.isError) :
    ((∀ n, (initiateCallHandler payload order post w.mem).2.lscs.lookup n =
        w.mem.lscs.lookup n) ↔ ∀ req, payload = .ok req → Unserved req w.mem) ∧
    ∀ req, payload = .ok req → ¬Unserved req w.mem →
      (initiateCallHandler payload order post w.mem).1.FailedUpstream ∧
      ∃ n, RaisedAt n w.mem (initiateCallHandler payload order post w.mem).2 := by
  have hw := named_of_life hr
  cases payload with
  | error err =>
    refine ⟨iff_of_true (fun n => rfl) (fun req h => by cases h), fun req h => ?_⟩
    cases h
  | ok req =>
    simp only [initiateCallHandler, Except.ok.injEq, forall_eq'] at herror ⊢
    rcases selectOutbound_spec hw.aligned (hw.unlisted .outbound) horder req with
      ⟨hunserved, err, hres⟩ | ⟨hserved, n, c, md, hc, hres⟩
    · rw [hres]
      exact ⟨iff_of_true (fun n => rfl) hunserved, fun hnot => absurd hunserved hnot⟩
    · rw [hres] at herror ⊢
      have hraised := raisedAt_increment hc
      exact ⟨iff_of_false (fun hall => hraised.ne (hall n)) hserved,
        fun _ => ⟨upstreamResponse_failed herror, n, hraised⟩⟩

/-- A request for the sample container, which does not answer. -/
def unreachable : String → InitiateCallRequest → Upstream :=
  fun _ _ => .failed "connection refused"

theorem initiateCall_failed_sample :
    ∃ w, run lifeStep .blank sampleLife = some w ∧
      ∃ n, RaisedAt n w.mem (initiateCallHandler (.ok (sampleRequest "")) ["media-1"] unreachable
        w.mem).2 := by
  obtain ⟨w, hr⟩ : ∃ w, run lifeStep .blank sampleLife = some w := ⟨_, rfl⟩
  refine ⟨w, hr, ?_⟩
  have hw : ["media-1"].Perm w.mem.lsml.keys ∧ "media-1" ∈ w.mem.servers .outbound ∧
      w.mem.lscs.lookup "media-1" = some 0 := by
    cases hr
    exact ⟨by decide, by decide, rfl⟩
  obtain ⟨horder, hmem, hcount⟩ := hw
  have herror : (initiateCallHandler (.ok (sampleRequest "")) ["media-1"] unreachable
      w.mem).1.isError := by
    cases hr
    show (400 : Int) ≤ 503
    decide
  refine ((initiateCall_failed hr horder herror).2 (sampleRequest "") rfl fun hunserved => ?_).2
  exact absurd (hunserved "media-1" hmem 0 hcount) (by decide)

/-- The sample container is not reached, and its count is 1 afterwards. -/
theorem initiateCall_unreachable :
    ¬∀ (es : List LifeEvent) (w : World) (payload : Except String InitiateCallRequest)
      (order : List String) (post : String → InitiateCallRequest → Upstream),
      run lifeStep .blank es = some w → order.Perm w.mem.lsml.keys →
      (initiateCallHandler payload order post w.mem).1.isError →
      ∀ n, (initiateCallHandler payload order post w.mem).2.lscs.lookup n =
        w.mem.lscs.lookup n := by
  intro hall
  obtain ⟨w, hr⟩ : ∃ w, run lifeStep .blank sampleLife = some w := ⟨_, rfl⟩
  have hw : ["media-1"].Perm w.mem.lsml.keys ∧ (initiateCallHandler (.ok (sampleRequest ""))
      ["media-1"] unreachable w.mem).1.status = 503 ∧ w.mem.lscs.lookup "media-1" = some 0 ∧
      (initiateCallHandler (.ok (sampleRequest "")) ["media-1"] unreachable
        w.mem).2.lscs.lookup "media-1" = some 1 := by
    cases hr
    exact ⟨by decide, rfl, rfl, rfl⟩
  obtain ⟨horder, hstatus, hbefore, hafter⟩ := hw
  have herror : (initiateCallHandler (.ok (sampleRequest "")) ["media-1"] unreachable
      w.mem).1.isError := by
    rw [Response.isError, hstatus]
    decide
  have hsame := hall sampleLife w _ _ _ hr horder herror "media-1"
  rw [hbefore, hafter] at hsame
  cases hsame

end LoadBalancer
