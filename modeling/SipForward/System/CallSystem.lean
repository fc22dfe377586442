import SipForward.LoadBalancer.InitiateCall
import SipForward.MediaServer.CallOutcomes
import SipForward.System.Registration
import Mathlib.Data.List.Sort

/-!
# The load balancer, its containers and their clients

A client gets two identifiers for a call that it has started: the one of the call, and the one of
the container. With these it may ask the load balancer to end the call. The load balancer keeps
nothing about calls; it reads an address off the second identifier. Requests are on their way, are
handled, and are answered or fail, in any order, among other clients, incoming calls, and containers
that start and stop.
-/

namespace LoadBalancer

open Core

/-! ### What the load balancer forwards and answers -/

/-- `models.EndCallRequest`. -/
structure EndCallRequest where
  callID : String
  containerID : String

def endCallRequest : Struct EndCallRequest where
  name := "models.EndCallRequest"
  zero := ⟨"", ""⟩
  fields :=
    [.string "call_id" (·.callID) fun x req => { req with callID := x },
      .string "container_id" (·.containerID) fun x req => { req with containerID := x }]

/-- `ShouldBindJSON` into `models.InitiateCallRequest`. -/
def bindInitiateCall (body : Text) : Except DecodeError InitiateCallRequest :=
  match GoJson.decodeFirst body with
  | none                   => .error .syntaxError
  | some .null             => .ok emptyRequest
  | some (.object members) => (shouldBindJSON members).mapError .typeError
  | some v                 => .error (.typeError ⟨kind v, "", "models.InitiateCallRequest"⟩)

/-- The URL that `EndCallHandler` posts to. -/
def endCallURL (ip port callID : String) : String :=
  "http://" ++ ip ++ ":" ++ port ++ "/end-call/" ++ callID

/-- The body of an answer, and what `json.Unmarshal` reads from it into a map. -/
def upstreamBody (t : Text) : Body where
  text := t.decode
  object :=
    match GoJson.parse t with
    | some (.object members) => some (.object members)
    | some .null             => some .null
    | _                      => none

/-- `gin.H{"status": "success"}`. -/
def endedObject : Json := .object [stringMember "status" "success"]

/-- What `EndCallHandler` answers once the container has answered. -/
def endCallResponse : Upstream → Response
  | .failed err               => .api 503 "Failed to connect to container" none err
  | .answered statusCode body =>
    if statusCode = 200 then
      .api 200 "Call end initiated" (some (body.object.getD endedObject)) ""
    else .api statusCode "Upstream error" none body.text

end LoadBalancer

namespace MediaServer.CallRequests

open Core

/-- The members of an object in the order of a `std::map`. -/
def inOrder (members : List Member) : List Member :=
  members.insertionSort fun a b => a.1.decode ≤ b.1.decode

/-- The text of a body; `what` describes an exception. -/
def bodyText (what : Failure → Text) : Body → Text
  | .text s          => Text.ofString s
  | .error message e => Text.ofString message ++ what e
  | .json members    => JsonText.Encoder.nlohmann.value (.object (inOrder members))

/-- A route of the container, and the parameter of `/end-call/:callId`. -/
inductive Route where
  | initiateCall
  | endCall (id : String)

/-- A manager without calls. -/
def Manager.new (initialized : Text → Bool) : Manager :=
  ⟨0, fun _ => none, fun _ => none, initialized⟩

/-- What else happens to a manager: the thread of a simulated call ends it, calls are counted off,
an endpoint is set up or fails. -/
inductive Change where
  | terminated (id : String)
  | counted (n : Int)
  | initialized (key : Text) (b : Bool)

def Change.apply (m : Manager) : Change → Manager
  | .terminated id     =>
    m.setSimulated id ((m.simulatedCalls id).map fun sim => { sim with terminated := true })
  | .counted n         => m.count n
  | .initialized key b => { m with initialized := Function.update m.initialized key b }

end MediaServer.CallRequests

namespace CallControl

open Core
open LoadBalancer (State Op InitiateCallRequest EndCallRequest Upstream endCallURL)
open MediaServer (HasString getEnvInt)
open MediaServer.CallRequests (Manager SipCall SimulatedCall RawEnv Failure Route Change Confirmed
  Initiated Ended)

/-! ### The system -/

/-- What stands outside: the settings of the containers, the conversion of doubles, the texts of
errors, the URLs that `http.NewRequest` parses, and the network with the router of a container. -/
structure Setting (ν : Type) where
  raw : ν → RawEnv
  ofDouble : Number → Int
  describe : LoadBalancer.DecodeError → String
  what : Failure → Text
  parses : String → Bool
  deliver : String → Option (ν × Route)

inductive Request where
  | initiateCall (req : InitiateCallRequest)
  | endCall (req : EndCallRequest)

/-- The body of the request that is forwarded. -/
def Request.body : Request → Text
  | .initiateCall req => JsonText.Encoder.go.value (.object (LoadBalancer.marshal req))
  | .endCall _        => []

def Request.respond : Request → Upstream → LoadBalancer.Response
  | .initiateCall _ => LoadBalancer.upstreamResponse
  | .endCall _      => LoadBalancer.endCallResponse

/-- A request of a client. One that is refused has no request to forward; one that is forwarded has
answers when a container has handled it, and a reply when the client has been answered. -/
structure Exchange where
  request : Option Request
  url : String
  answers : Option (List MediaServer.CallRequests.Response)
  reply : Option LoadBalancer.Response

/-- A call is listed, was ended by a request (of the load balancer, or of somebody else), or is gone
with its container. -/
inductive Fate where
  | active
  | ended (ender : Option ℕ)
  | lost

/-- What has become of a call, and the request of the load balancer that has placed it. -/
structure Record where
  source : Option ℕ
  call : SipCall
  fate : Fate

def Record.listed (r : Record) : Option SipCall :=
  match r.fate with
  | .active => some r.call
  | _       => none

/-- The service, the containers that run, the requests of the clients and the identifiers that were
drawn. `records` is ghost state: the history of all calls. -/
structure World (ν : Type) where
  service : State
  nodes : ν → Option Manager
  exchanges : ℕ → Option Exchange
  drawn : List String
  records : ν → String → Option Record

inductive Event (ν : Type) where
  | service (op : Op)
  | initiateCall (rid : ℕ) (body : Text) (order : List String)
  | endCall (rid : ℕ) (body : Text)
  | deliver (rid : ℕ) (cw : MediaServer.CallRequests.World)
  | answer (rid : ℕ)
  | fail (rid : ℕ) (err : String)
  | direct (n : ν) (route : Route) (body : Text) (cw : MediaServer.CallRequests.World)
  | incoming (n : ν) (id : String) (call : SipCall)
  | change (n : ν) (c : Change)
  | start (n : ν) (initialized : Text → Bool)
  | stop (n : ν)

/-- What `/proc/sys/kernel/random/uuid` gives. -/
def isUuid (id : String) : Bool :=
  decide (id.length = 36) &&
    id.toList.all fun c => c.isDigit || (decide ('a' ≤ c) && decide (c ≤ 'f')) || decide (c = '-')

def Manager.listed (m : Option Manager) (id : String) : Option SipCall := m.bind (·.activeCalls id)

/-- The history of a container whose manager has changed. -/
def note (source : Option ℕ) (before after : Option Manager) (records : String → Option Record)
    (id : String) : Option Record :=
  match Manager.listed before id, Manager.listed after id with
  | none, some call => some ⟨source, call, .active⟩
  | some _, none    =>
    (records id).map fun r => { r with fate := if after.isSome then .ended source else .lost }
  | _, _            => records id

variable {ν : Type}

def World.setExchange (w : World ν) (rid : ℕ) (e : Exchange) : World ν :=
  { w with exchanges := Function.update w.exchanges rid (some e) }

/-- An identifier is drawn once. -/
def World.fresh (w : World ν) (id : String) : Bool := isUuid id && decide (id ∉ w.drawn)

def World.listed (w : World ν) (n : ν) : String → Option SipCall := Manager.listed (w.nodes n)

/-- A request that was refused, or is on its way. -/
def Exchange.of : Except LoadBalancer.Response (Request × String) → Exchange
  | .error r        => ⟨none, "", none, some r⟩
  | .ok (req, url)  => ⟨some req, url, none, none⟩

/-- `InitiateCallHandler` up to the request that it forwards. -/
def Setting.initiateCall (σ : Setting ν) (body : Text) (order : List String) (s : State) :
    Except LoadBalancer.Response (InitiateCallRequest × String) × State :=
  match LoadBalancer.bindInitiateCall body with
  | .error e => (.error (.api 400 "Invalid request payload" none (σ.describe e)), s)
  | .ok req  =>
    match LoadBalancer.selectOutbound req order s with
    | (.error err, s') => (.error (.api 503 "No available containers" none err), s')
    | (.ok md, s')     => (.ok (req, LoadBalancer.initiateCallURL md), s')

/-- `EndCallHandler` up to the request that it forwards. -/
def Setting.endCall (σ : Setting ν) (body : Text) :
    Except LoadBalancer.Response (EndCallRequest × String) :=
  match LoadBalancer.endCallRequest.shouldBindJSON body with
  | .error e => .error (.api 400 "Invalid request payload" none (σ.describe e))
  | .ok req  =>
    match LoadBalancer.parseContainerID req.containerID with
    | .error err      => .error (.api 400 "Invalid container ID" none err)
    | .ok (ip, port) =>
      -- `Do` panics without a request, and the recovery of gin answers
      if σ.parses (endCallURL ip port req.callID) then .ok (req, endCallURL ip port req.callID)
      else .error (.data 500 "" "")

/-- The handler of a route. -/
def Setting.serve (σ : Setting ν) (n : ν) (cw : MediaServer.CallRequests.World) (body : Text) :
    Route → MediaServer.CallRequests.Handler Unit
  | .initiateCall =>
    MediaServer.CallRequests.initiateCall σ.ofDouble (σ.raw n) cw (JsonText.parse body)
  | .endCall id   => MediaServer.CallRequests.endCall cw id

/-- The first response of a container, as the load balancer gets it. -/
def Setting.upstream (σ : Setting ν) :
    List MediaServer.CallRequests.Response → Option Upstream
  | []     => none
  | r :: _ => some (.answered r.code
      (LoadBalancer.upstreamBody (MediaServer.CallRequests.bodyText σ.what r.body)))

/-- The client gets its reply. -/
def World.reply (w : World ν) (rid : ℕ) (e : Exchange) (u : Upstream) : Option (World ν) :=
  e.request.bind fun req =>
    if e.reply.isNone then some (w.setExchange rid { e with reply := some (req.respond u) })
    else none

/-- The service in some state, before any container has started. -/
def World.start (s : State) : World ν := ⟨s, fun _ => none, fun _ => none, [], fun _ _ => none⟩

section Steps

variable [DecidableEq ν]

/-- A container has another manager, after an identifier was drawn or not. -/
def World.put (w : World ν) (n : ν) (source : Option ℕ) (new : Option String)
    (after : Option Manager) : World ν :=
  { w with
    nodes := Function.update w.nodes n after
    drawn := new.toList ++ w.drawn
    records := Function.update w.records n (note source (w.nodes n) after (w.records n)) }

/-- A container has handled a request. One that does not get out of the handler is lost. -/
def World.handled (w : World ν) (n : ν) (source : Option ℕ) (id : String)
    (h : MediaServer.CallRequests.Handled) : World ν :=
  let w' := w.put n source (some id) (some h.manager)
  if h.returned then w' else w'.put n none none none

/-- A container handles a request, with an identifier that is drawn for it. -/
def Setting.handle (σ : Setting ν) (w : World ν) (n : ν) (source : Option ℕ) (route : Route)
    (body : Text) (cw : MediaServer.CallRequests.World) :
    Option (World ν × List MediaServer.CallRequests.Response) :=
  (w.nodes n).bind fun m =>
    if w.fresh cw.generateCallId then
      let h := MediaServer.CallRequests.handle cw (σ.serve n cw body route) m
      some (w.handled n source cw.generateCallId h, h.responses)
    else none

def step (σ : Setting ν) (w : World ν) : Event ν → Option (World ν)
  | .service op => some { w with service := op.apply w.service }
  | .initiateCall rid body order =>
    if (w.exchanges rid).isNone then
      let res := σ.initiateCall body order w.service
      some (({ w with service := res.2 } : World ν).setExchange rid
        (.of (res.1.map fun p => (.initiateCall p.1, p.2))))
    else none
  | .endCall rid body =>
    if (w.exchanges rid).isNone then
      some (w.setExchange rid (.of ((σ.endCall body).map fun p => (.endCall p.1, p.2))))
    else none
  | .deliver rid cw =>
    (w.exchanges rid).bind fun e => e.request.bind fun req =>
      if e.answers.isNone then
        (σ.deliver e.url).bind fun p =>
          (σ.handle w p.1 (some rid) p.2 req.body cw).map fun r =>
            r.1.setExchange rid { e with answers := some r.2 }
      else none
  | .answer rid =>
    (w.exchanges rid).bind fun e => (e.answers.bind σ.upstream).bind fun u => w.reply rid e u
  | .fail rid err => (w.exchanges rid).bind fun e => w.reply rid e (.failed err)
  | .direct n route body cw => (σ.handle w n none route body cw).map (·.1)
  | .incoming n id call =>
    (w.nodes n).bind fun m =>
      if w.fresh id then some (w.put n none (some id) (some (m.placed id call))) else none
  | .change n c => (w.nodes n).map fun m => w.put n none none (some (c.apply m))
  | .start n initialized =>
    if (w.nodes n).isNone then
      some (w.put n none none (some (MediaServer.CallRequests.Manager.new initialized)))
    else none
  | .stop n => some (w.put n none none none)

end Steps

/-! ### The texts between them -/

variable {σ : Setting ν} {id c k : String} {raw : RawEnv} {port : Int} {p : MediaServer.CallParams}
  {data members : List Member} {what : Failure → Text}

lemma writableMembers_iff : Json.writableMembers members = true ↔
    ∀ m ∈ members, m.1.wellFormed = true ∧ m.2.writable = true := by
  induction members with
  | nil => exact iff_of_true rfl (List.forall_mem_nil _)
  | cons m members ih =>
    obtain ⟨name, v⟩ := m
    rw [Json.writableMembers, Bool.and_eq_true, Bool.and_eq_true, ih, List.forall_mem_cons]

/-- What a container writes is an object for the load balancer. -/
lemma upstreamBody_json (h : Json.writableMembers members = true) :
    (LoadBalancer.upstreamBody (MediaServer.CallRequests.bodyText what (.json members))).object =
      some (.object (MediaServer.CallRequests.inOrder members)) := by
  have hwritable : (Json.object (MediaServer.CallRequests.inOrder members)).writable = true := by
    rw [Json.writable, writableMembers_iff]
    intro m hm
    exact writableMembers_iff.mp h m ((List.mem_insertionSort _).mp hm)
  simp only [LoadBalancer.upstreamBody, MediaServer.CallRequests.bodyText,
    GoJson.parse_value _ hwritable]

/-- The text of a confirmation is none. -/
lemma upstreamBody_confirmation : (LoadBalancer.upstreamBody
    (MediaServer.CallRequests.bodyText what (.text "Call end initiated"))).object = none := rfl

lemma writable_sipReply (h : raw.Dumps) :
    Json.writableMembers (MediaServer.CallRequests.sipReply raw port id p) = true := by
  obtain ⟨husername, hpublicIp, hportStart, hportEnd⟩ := h
  simp [MediaServer.CallRequests.sipReply, MediaServer.CallRequests.rtpRange,
    MediaServer.CallRequests.containerId, MediaServer.CallRequests.wellFormed_append,
    Json.writableMembers, Json.writable, husername, hpublicIp, hportStart, hportEnd]

lemma writable_simulatedReply :
    Json.writableMembers (MediaServer.CallRequests.simulatedReply id p) = true := by
  simp [MediaServer.CallRequests.simulatedReply, Json.writableMembers, Json.writable]

lemma hasString_mem {name v : String} (h : HasString data name v) :
    ∃ m ∈ data, m.1.decode = name ∧ ∃ t, m.2 = .string t ∧ t.decode = v := by
  obtain ⟨t, hlookup, ht⟩ := h
  obtain ⟨m, hm, hname, hv⟩ := Json.lookupLast_mem hlookup
  exact ⟨m, hm, hname, t, hv, ht⟩

/-- The two identifiers in the reply for a call. -/
lemma sipReply_ids (hc : HasString (MediaServer.CallRequests.inOrder
      (MediaServer.CallRequests.sipReply raw port id p)) "call_id" c)
    (hk : HasString (MediaServer.CallRequests.inOrder
      (MediaServer.CallRequests.sipReply raw port id p)) "container_id" k) :
    c = id ∧ k = (MediaServer.CallRequests.containerId raw port).decode := by
  obtain ⟨m, hm, hname, t, hv, rfl⟩ := hasString_mem hc
  obtain ⟨m', hm', hname', t', hv', rfl⟩ := hasString_mem hk
  have hm := (List.mem_insertionSort _).mp hm
  have hm' := (List.mem_insertionSort _).mp hm'
  simp only [MediaServer.CallRequests.sipReply, List.mem_cons, List.not_mem_nil, or_false] at hm hm'
  constructor
  · rcases hm with rfl | rfl | rfl | rfl | rfl | rfl | rfl <;>
      rw [Text.decode_ofString] at hname <;> cases hv <;>
      first | exact absurd hname (by decide) | exact Text.decode_ofString id
  · rcases hm' with rfl | rfl | rfl | rfl | rfl | rfl | rfl <;>
      rw [Text.decode_ofString] at hname' <;> cases hv' <;>
      first | exact absurd hname' (by decide) | rfl

/-- The reply for a simulated call does not name the container. -/
lemma simulatedReply_container : ¬HasString (MediaServer.CallRequests.inOrder
    (MediaServer.CallRequests.simulatedReply id p)) "container_id" k := by
  intro hk
  obtain ⟨m, hm, hname, -⟩ := hasString_mem hk
  have hm := (List.mem_insertionSort _).mp hm
  simp only [MediaServer.CallRequests.simulatedReply, List.mem_cons, List.not_mem_nil,
    or_false] at hm
  rcases hm with rfl | rfl | rfl | rfl | rfl <;> rw [Text.decode_ofString] at hname <;>
    exact absurd hname (by decide)

/-- The address in the identifier of a container. -/
lemma parse_containerId (hdash : '-' ∉ (raw.getEnvString "PUBLIC_IP" "3.108.51.244").decode.toList)
    (hport : 0 ≤ port) :
    LoadBalancer.parseContainerID (MediaServer.CallRequests.containerId raw port).decode =
      .ok ((raw.getEnvString "PUBLIC_IP" "3.108.51.244").decode, toString port) := by
  obtain ⟨v, rfl⟩ := Int.eq_ofNat_of_zero_le hport
  have hparse := LoadBalancer.parseContainerID_append
    (raw.getEnvString "SIP_USERNAME" "india_media").decode _ _ hdash
    (LoadBalancer.dash_notMem_toString v)
  rw [MediaServer.CallRequests.containerId]
  simp only [MediaServer.decode_append, Text.decode_ofString]
  rw [← hparse]
  simp only [String.append_assoc]

/-- The container reads the request that the load balancer forwards. -/
lemma parse_body (req : InitiateCallRequest) :
    JsonText.parse (Request.initiateCall req).body = some (.object (LoadBalancer.marshal req)) := by
  refine JsonText.parse_value _ ?_
  rw [Json.writable, LoadBalancer.marshal]
  split_ifs <;> simp [LoadBalancer.stringMember, Json.writableMembers, Json.writable]

end CallControl
