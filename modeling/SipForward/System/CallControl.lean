import SipForward.System.CallSystem

/-!
# Calls that are started and ended through the load balancer

Whoever is told the identifiers of a call has placed it, and can end it. The history of every call
is kept beside the tables of the containers: a call is listed until it is ended, once, or is gone
with its container. Every step of a container lets the histories go on, and so what was told of them
stays true.
-/

namespace CallControl

open Core
open LoadBalancer (State Op InitiateCallRequest EndCallRequest Upstream endCallURL)
open MediaServer (HasString getEnvInt)
open MediaServer.CallRequests (Manager SipCall SimulatedCall RawEnv Failure Route Change Confirmed
  Initiated Ended)

variable {ν : Type}

/-! ### What is promised -/

/-- The host in the identifier of a container. -/
def Setting.ip (σ : Setting ν) (n : ν) : String :=
  ((σ.raw n).getEnvString "PUBLIC_IP" "3.108.51.244").decode

/-- Every container is reached at the host and port of its settings. -/
structure Deployed (σ : Setting ν) : Prop where
  dash : ∀ n, '-' ∉ (σ.ip n).toList
  port : ∀ n port, getEnvInt (σ.raw n).env "HTTP_PORT" 8086 = .ok port → 0 ≤ port
  parses : ∀ n port id, getEnvInt (σ.raw n).env "HTTP_PORT" 8086 = .ok port → isUuid id = true →
    σ.parses (endCallURL (σ.ip n) (toString port) id) = true
  reached : ∀ n port id, getEnvInt (σ.raw n).env "HTTP_PORT" 8086 = .ok port → isUuid id = true →
    σ.deliver (endCallURL (σ.ip n) (toString port) id) = some (n, .endCall id)

/-- The client of a request was told the identifiers of its call and of a container. -/
def Receipt (w : World ν) (rid : ℕ) (req : InitiateCallRequest) (c k : String) : Prop :=
  ∃ e message data, w.exchanges rid = some e ∧ e.request = some (.initiateCall req) ∧
    e.reply = some (.api 200 message (some (.object data)) "") ∧ HasString data "call_id" c ∧
    HasString data "container_id" k

/-- A request to end a call gets from its two identifiers to a container. -/
def LeadsTo (σ : Setting ν) (c k : String) (n : ν) : Prop :=
  ∃ ip port, LoadBalancer.parseContainerID k = .ok (ip, port) ∧
    σ.parses (endCallURL ip port c) = true ∧
    σ.deliver (endCallURL ip port c) = some (n, .endCall c)

/-- The reply of a request has this status. -/
def RepliedWith (w : World ν) (rid : ℕ) (request : Request) (status : Int) : Prop :=
  ∃ e r, w.exchanges rid = some e ∧ e.request = some request ∧ e.reply = some r ∧ r.status = status

/-- The two identifiers belong to the call that the request has placed, and to no other; they lead
to the container that has it. It is ended once, by a request that leads there, and with them it can
be. -/
structure Controlled [DecidableEq ν] (σ : Setting ν) (w : World ν) (rid : ℕ)
    (req : InitiateCallRequest) (c k : String) (n : ν) (r : Record) : Prop where
  record : w.records n c = some r
  source : r.source = some rid
  call : ∃ p, MediaServer.CallRequests.readBody σ.ofDouble (σ.raw n).env
    (some (.object (LoadBalancer.marshal req))) = .ok p ∧
      r.call = MediaServer.CallRequests.newCall (σ.raw n) p
  listed : w.listed n c = r.listed
  leads : LeadsTo σ c k n
  once : ∀ rid', RepliedWith w rid' (.endCall ⟨c, k⟩) 200 → r.fate = .ended (some rid')
  ender : ∀ rid', r.fate = .ended (some rid') → ∃ e, w.exchanges rid' = some e ∧
    σ.deliver e.url = some (n, .endCall c)
  own : ∀ rid' req' k', Receipt w rid' req' c k' → rid' = rid
  ends : r.fate = .active → ∀ rid' body cw,
    LoadBalancer.endCallRequest.shouldBindJSON body = .ok ⟨c, k⟩ → w.exchanges rid' = none →
    cw.registerThread = .ok () → w.fresh cw.generateCallId = true →
    ∃ w', run (step σ) w [.endCall rid' body, .deliver rid' cw, .answer rid'] = some w' ∧
      RepliedWith w' rid' (.endCall ⟨c, k⟩) 200 ∧ w'.service = w.service ∧
      ∀ n' id, w'.listed n' id = if n' = n ∧ id = c then none else w.listed n' id

variable {σ : Setting ν} {w w' : World ν} {n : ν} {source : Option ℕ} {new : Option String}
  {before after : Option Manager} {m m' : Manager} {id c k : String} {call : SipCall} {port : Int}

/-! ### The histories of calls -/

/-- A container that runs lists a call as long as nobody has ended it; identifiers are not drawn
again, and no simulated call has the one of a call. -/
structure Tables (w : World ν) : Prop where
  active : ∀ n id, w.listed n id = (w.records n id).bind Record.listed
  known : ∀ n id, (w.records n id).isSome → id ∈ w.drawn
  simulated : ∀ n m id, w.nodes n = some m → (m.simulatedCalls id).isSome →
    id ∈ w.drawn ∧ w.records n id = none
  unique : ∀ n n' id, (w.records n id).isSome → (w.records n' id).isSome → n = n'

/-- What a step may do to the calls of a container: it takes some off, and adds those of a new
identifier. -/
structure Moves (w : World ν) (n : ν) (new : Option String) (after : Option Manager) : Prop where
  kept : ∀ id call call', w.listed n id = some call → Manager.listed after id = some call' →
    call = call'
  fresh : ∀ id, w.listed n id = none → (Manager.listed after id).isSome → id ∈ new ∧ id ∉ w.drawn
  simulated : ∀ m id, after = some m → (m.simulatedCalls id).isSome →
    (∃ m₀, w.nodes n = some m₀ ∧ (m₀.simulatedCalls id).isSome) ∨
      (id ∈ new ∧ id ∉ w.drawn ∧ m.activeCalls id = none)

/-- A record is not taken back, and its fate is settled once. -/
structure Kept (r r' : Record) : Prop where
  source : r'.source = r.source
  call : r'.call = r.call
  fate : r.fate ≠ .active → r'.fate = r.fate

/-- The histories go on. -/
structure Grows (w w' : World ν) : Prop where
  kept : ∀ n id r, w.records n id = some r → ∃ r', w'.records n id = some r' ∧ Kept r r'
  added : ∀ n id, w.records n id = none → (w'.records n id).isSome → id ∉ w.drawn
  drawn : ∀ id ∈ w.drawn, id ∈ w'.drawn

lemma Kept.refl (r : Record) : Kept r r := ⟨rfl, rfl, fun _ => rfl⟩

lemma Kept.trans {r₁ r₂ r₃ : Record} (h : Kept r₁ r₂) (h' : Kept r₂ r₃) : Kept r₁ r₃ where
  source := h'.source.trans h.source
  call := h'.call.trans h.call
  fate hfate := by
    have hsame := h.fate hfate
    rw [h'.fate (hsame ▸ hfate), hsame]

lemma Grows.of_eq (hrecords : w'.records = w.records) (hdrawn : w'.drawn = w.drawn) :
    Grows w w' where
  kept n id r hr := ⟨r, by rw [hrecords, hr], Kept.refl r⟩
  added n id hnone hsome := by
    rw [hrecords, hnone] at hsome
    cases hsome
  drawn id hid := by rwa [hdrawn]

lemma Grows.trans {w₁ w₂ w₃ : World ν} (h : Grows w₁ w₂) (h' : Grows w₂ w₃) : Grows w₁ w₃ where
  kept n id r hr := by
    obtain ⟨r', hr', hkept⟩ := h.kept n id r hr
    obtain ⟨r'', hr'', hkept'⟩ := h'.kept n id r' hr'
    exact ⟨r'', hr'', hkept.trans hkept'⟩
  added n id hnone hsome := by
    cases hmid : w₂.records n id with
    | none => exact fun hdrawn => h'.added n id hmid hsome (h.drawn id hdrawn)
    | some r => exact h.added n id hnone (Option.isSome_of_eq_some hmid)
  drawn id hid := h'.drawn id (h.drawn id hid)

/-- All that is noted of a call. -/
lemma note_cases (source : Option ℕ) (before after : Option Manager)
    (records : String → Option Record) (id : String) :
    (∃ call, Manager.listed before id = none ∧ Manager.listed after id = some call ∧
      note source before after records id = some ⟨source, call, .active⟩) ∨
    (∃ call, Manager.listed before id = some call ∧ Manager.listed after id = none ∧
      note source before after records id = (records id).map fun r =>
        { r with fate := if after.isSome then .ended source else .lost }) ∨
    (note source before after records id = records id ∧
      ((Manager.listed before id).isSome ↔ (Manager.listed after id).isSome)) := by
  rw [note]
  cases hbefore : Manager.listed before id with
  | none =>
    cases hafter : Manager.listed after id with
    | none => exact Or.inr (Or.inr ⟨rfl, Iff.rfl⟩)
    | some call => exact Or.inl ⟨call, rfl, rfl, rfl⟩
  | some call =>
    cases hafter : Manager.listed after id with
    | none => exact Or.inr (Or.inl ⟨call, rfl, rfl, rfl⟩)
    | some call' => exact Or.inr (Or.inr ⟨rfl, by simp⟩)

/-! ### What the containers do -/

lemma moves_gone : Moves w n new none where
  kept _ _ _ _ h := by cases h
  fresh _ _ h := by cases h
  simulated _ _ h := by cases h

lemma moves_new (w : World ν) (initialized : Text → Bool) :
    Moves w n new (some (MediaServer.CallRequests.Manager.new initialized)) where
  kept _ _ _ _ h := by cases h
  fresh _ _ h := by cases h
  simulated m id hm h := by
    cases hm
    cases h

lemma listed_of_node (hw : w.nodes n = some m) (id : String) :
    w.listed n id = m.activeCalls id := by
  rw [World.listed, hw]
  rfl

/-- The calls stay, and simulated calls are taken off or stay. -/
lemma moves_same (hw : w.nodes n = some m) (hactive : m'.activeCalls = m.activeCalls)
    (hsim : ∀ id, (m'.simulatedCalls id).isSome → (m.simulatedCalls id).isSome) :
    Moves w n new (some m') where
  kept id call call' hcall hcall' := by
    have hlisted : Manager.listed (some m') id = m.activeCalls id := congrFun hactive id
    rw [listed_of_node hw] at hcall
    rw [hlisted, hcall] at hcall'
    exact Option.some.inj hcall'
  fresh id hnone hsome := by
    have hlisted : Manager.listed (some m') id = m.activeCalls id := congrFun hactive id
    rw [listed_of_node hw] at hnone
    rw [hlisted, hnone] at hsome
    cases hsome
  simulated m₁ id hm h := by
    cases hm
    exact Or.inl ⟨m, hw, hsim id h⟩

lemma moves_taken (hw : w.nodes n = some m) (id : String) :
    Moves w n new (some (m.setActive id none)) where
  kept i call call' hcall hcall' := by
    have hlisted : Manager.listed (some (m.setActive id none)) i =
        Function.update m.activeCalls id none i := rfl
    rw [listed_of_node hw] at hcall
    rw [hlisted] at hcall'
    by_cases hi : i = id
    · rw [hi, Function.update_self] at hcall'
      cases hcall'
    · rw [Function.update_of_ne hi, hcall] at hcall'
      exact Option.some.inj hcall'
  fresh i hnone hsome := by
    have hlisted : Manager.listed (some (m.setActive id none)) i =
        Function.update m.activeCalls id none i := rfl
    rw [listed_of_node hw] at hnone
    rw [hlisted] at hsome
    by_cases hi : i = id
    · rw [hi, Function.update_self] at hsome
      cases hsome
    · rw [Function.update_of_ne hi, hnone] at hsome
      cases hsome
  simulated m₁ i hm h := by
    cases hm
    exact Or.inl ⟨m, hw, h⟩

/-- A new identifier is not listed. -/
lemma Tables.not_listed (ht : Tables w) (hid : id ∉ w.drawn) (n : ν) : w.listed n id = none := by
  rw [ht.active]
  cases hr : w.records n id with
  | none => rfl
  | some r => exact absurd (ht.known n id (Option.isSome_of_eq_some hr)) hid

lemma moves_placed (ht : Tables w) (hw : w.nodes n = some m) (hid : id ∉ w.drawn) (call : SipCall) :
    Moves w n (some id) (some (m.placed id call)) where
  kept i call₁ call₂ h₁ h₂ := by
    have hlisted : Manager.listed (some (m.placed id call)) i =
        Function.update m.activeCalls id (some call) i := rfl
    rw [hlisted] at h₂
    by_cases hi : i = id
    · rw [hi, ht.not_listed hid] at h₁
      cases h₁
    · rw [Function.update_of_ne hi, ← listed_of_node hw, h₁] at h₂
      exact Option.some.inj h₂
  fresh i hnone hsome := by
    have hlisted : Manager.listed (some (m.placed id call)) i =
        Function.update m.activeCalls id (some call) i := rfl
    rw [hlisted] at hsome
    by_cases hi : i = id
    · exact ⟨hi ▸ rfl, hi ▸ hid⟩
    · rw [Function.update_of_ne hi, ← listed_of_node hw, hnone] at hsome
      cases hsome
  simulated m₁ i hm h := by
    cases hm
    exact Or.inl ⟨m, hw, h⟩

lemma moves_simulated (ht : Tables w) (hw : w.nodes n = some m) (hid : id ∉ w.drawn)
    (sim : SimulatedCall) : Moves w n (some id) (some (m.simulated id sim)) where
  kept i call call' hcall hcall' := by
    have hlisted : Manager.listed (some (m.simulated id sim)) i = m.activeCalls i := rfl
    rw [hlisted, ← listed_of_node hw, hcall] at hcall'
    exact Option.some.inj hcall'
  fresh i hnone hsome := by
    have hlisted : Manager.listed (some (m.simulated id sim)) i = m.activeCalls i := rfl
    rw [hlisted, ← listed_of_node hw, hnone] at hsome
    cases hsome
  simulated m₁ i hm h := by
    cases hm
    by_cases hi : i = id
    · refine Or.inr ⟨hi ▸ rfl, hi ▸ hid, ?_⟩
      have hnone := ht.not_listed (hi ▸ hid : i ∉ w.drawn) n
      rwa [listed_of_node hw] at hnone
    · have hsame : (m.simulated id sim).simulatedCalls i = m.simulatedCalls i :=
        Function.update_of_ne hi _ _
      rw [hsame] at h
      exact Or.inl ⟨m, hw, h⟩

lemma moves_initiated {ofDouble : Number → Int} {raw : RawEnv} {cw : MediaServer.CallRequests.World}
    {body : Option Json} {res : MediaServer.CallRequests.Handled} (ht : Tables w)
    (hw : w.nodes n = some m) (hid : cw.generateCallId ∉ w.drawn)
    (h : Initiated ofDouble raw cw body m res) :
    Moves w n (some cw.generateCallId) (some res.manager) := by
  cases h with
  | placed hread hport hdumps => exact moves_placed ht hw hid _
  | unanswered hdeclined => exact moves_placed ht hw hid _
  | simulated => exact moves_simulated ht hw hid _
  | declined hactive hsimulated hdeclined =>
    exact moves_same hw hactive fun i hi => by rwa [hsimulated] at hi

lemma moves_ended {res : MediaServer.CallRequests.Handled} (hw : w.nodes n = some m)
    (h : Ended id m res) : Moves w n new (some res.manager) := by
  cases h with
  | simulated hsim hconfirmed =>
    refine moves_same hw rfl fun i hi => ?_
    have hsame : (m.setSimulated id none).simulatedCalls i =
        Function.update m.simulatedCalls id none i := rfl
    rw [hsame] at hi
    by_cases heq : i = id
    · rw [heq, Function.update_self] at hi
      cases hi
    · rwa [Function.update_of_ne heq] at hi
  | active hcall hconfirmed => exact moves_taken hw id
  | declined hdeclined => exact moves_same hw rfl fun i hi => hi

/-- No call is taken off when one is started. -/
lemma initiated_keeps {ofDouble : Number → Int} {raw : RawEnv}
    {cw : MediaServer.CallRequests.World} {body : Option Json}
    {res : MediaServer.CallRequests.Handled} (h : Initiated ofDouble raw cw body m res)
    (hcall : (m.activeCalls id).isSome) : (res.manager.activeCalls id).isSome := by
  have hplaced : ∀ call, ((m.placed cw.generateCallId call).activeCalls id).isSome := by
    intro call
    have hupdate : (m.placed cw.generateCallId call).activeCalls id =
        Function.update m.activeCalls cw.generateCallId (some call) id := rfl
    rw [hupdate]
    by_cases hid : id = cw.generateCallId
    · rw [hid, Function.update_self]
      rfl
    · rwa [Function.update_of_ne hid]
  cases h with
  | placed hread hport hdumps => exact hplaced _
  | unanswered hdeclined => exact hplaced _
  | simulated => exact hcall
  | declined hactive hsimulated hdeclined => rwa [hactive]

/-- Only the call of the route is taken off. -/
lemma ended_keeps {res : MediaServer.CallRequests.Handled} (h : Ended c m res) (hid : id ≠ c)
    (hcall : (m.activeCalls id).isSome) : (res.manager.activeCalls id).isSome := by
  cases h with
  | simulated hsim hconfirmed => exact hcall
  | active hfound hconfirmed =>
    have hupdate : (m.setActive c none).activeCalls id = Function.update m.activeCalls c none id :=
      rfl
    rwa [hupdate, Function.update_of_ne hid]
  | declined hdeclined => exact hcall

/-- The identifier of a call that is listed was drawn. -/
lemma Tables.drawn_of_listed (ht : Tables w) (hw : w.nodes n = some m)
    (hcall : (m.activeCalls id).isSome) : id ∈ w.drawn := by
  by_contra hid
  rw [← listed_of_node hw, ht.not_listed hid n] at hcall
  cases hcall

lemma moves_change (hw : w.nodes n = some m) (c : Change) : Moves w n none (some (c.apply m)) := by
  cases c with
  | terminated id =>
    refine moves_same hw rfl fun i h => ?_
    have hsim : ((Change.terminated id).apply m).simulatedCalls i = Function.update m.simulatedCalls
        id ((m.simulatedCalls id).map fun sim => { sim with terminated := true }) i := rfl
    rw [hsim] at h
    by_cases hi : i = id
    · subst hi
      rwa [Function.update_self, Option.isSome_map] at h
    · rwa [Function.update_of_ne hi] at h
  | counted k => exact moves_same hw rfl fun i h => h
  | initialized key b => exact moves_same hw rfl fun i h => h

/-! ### The requests -/

/-- What the first response of a container tells about the calls. -/
def Told (σ : Setting ν) (w : World ν) (source : Option ℕ) (n : ν) (text : Text)
    (body : MediaServer.CallRequests.Body) : Route → Prop
  | .initiateCall =>
    (∃ p port id r, MediaServer.CallRequests.readBody σ.ofDouble (σ.raw n).env
        (JsonText.parse text) = .ok p ∧ getEnvInt (σ.raw n).env "HTTP_PORT" 8086 = .ok port ∧
      (σ.raw n).Dumps ∧ isUuid id = true ∧
      body = .json (MediaServer.CallRequests.sipReply (σ.raw n) port id p) ∧
      w.records n id = some r ∧ r.source = source ∧
      r.call = MediaServer.CallRequests.newCall (σ.raw n) p) ∨
    ∃ p id, body = .json (MediaServer.CallRequests.simulatedReply id p)
  | .endCall id =>
    body = .text "Call end initiated" ∧ id ∈ w.drawn ∧ ∀ r ∈ w.records n id, r.fate = .ended source

/-- The URL of a request leads to a call. -/
def Targets (σ : Setting ν) (w : World ν) (rid : ℕ) (n : ν) (id : String) : Prop :=
  ∃ e, w.exchanges rid = some e ∧ σ.deliver e.url = some (n, .endCall id)

/-- A call was ended by this. -/
def EndedBy (w : World ν) (n : ν) (id : String) (ender : Option ℕ) : Prop :=
  ∃ r, w.records n id = some r ∧ r.fate = .ended ender

/-- What comes of a request that a container handles. -/
structure Handling (σ : Setting ν) (w w' : World ν) (source : Option ℕ) (n : ν) (route : Route)
    (text : Text) (responses : List MediaServer.CallRequests.Response) : Prop where
  tables : Tables w'
  grows : Grows w w'
  exchanges : w'.exchanges = w.exchanges
  told : ∀ a rest, responses = a :: rest → a.code = 200 → Told σ w' source n text a.body route
  ended : ∀ n' id ender, EndedBy w' n' id ender →
    EndedBy w n' id ender ∨ (n' = n ∧ ender = source ∧ route = .endCall id)

/-- What is known of a request of a client: of the calls, when a container has answered with 200; of
that answer, when the client is told 200; and of the URL, when it is to end a call. -/
structure Sound (σ : Setting ν) (w : World ν) (rid : ℕ) (e : Exchange) : Prop where
  answers : ∀ req a rest, e.request = some req → e.answers = some (a :: rest) → a.code = 200 →
    ∃ n route, σ.deliver e.url = some (n, route) ∧ Told σ w (some rid) n req.body a.body route
  reply : ∀ r, e.reply = some r → r.status = 200 → ∃ req a rest, e.request = some req ∧
    e.answers = some (a :: rest) ∧ a.code = 200 ∧ r = req.respond (.answered 200
      (LoadBalancer.upstreamBody (MediaServer.CallRequests.bodyText σ.what a.body)))
  url : ∀ req, e.request = some (.endCall req) → ∃ ip port,
    LoadBalancer.parseContainerID req.containerID = .ok (ip, port) ∧
      e.url = endCallURL ip port req.callID

structure Inv (σ : Setting ν) (w : World ν) : Prop where
  tables : Tables w
  exchanges : ∀ rid e, w.exchanges rid = some e → Sound σ w rid e
  enders : ∀ n id rid, EndedBy w n id (some rid) → Targets σ w rid n id

/-- What was told stays true. -/
lemma Told.mono {text : Text} {body : MediaServer.CallRequests.Body} {route : Route}
    (h : Told σ w source n text body route) (hg : Grows w w') :
    Told σ w' source n text body route := by
  cases route with
  | initiateCall =>
    rcases h with ⟨p, port, id, r, hread, hport, hdumps, huuid, hbody, hr, hsource, hcall⟩ | h
    · obtain ⟨r', hr', hkept⟩ := hg.kept n id r hr
      exact Or.inl ⟨p, port, id, r', hread, hport, hdumps, huuid, hbody, hr',
        hkept.source.trans hsource, hkept.call.trans hcall⟩
    · exact Or.inr h
  | endCall id =>
    obtain ⟨hbody, hdrawn, hfate⟩ := h
    refine ⟨hbody, hg.drawn id hdrawn, fun r' hr' => ?_⟩
    cases hr : w.records n id with
    | none => exact absurd hdrawn (hg.added n id hr (Option.isSome_of_eq_some hr'))
    | some r =>
      obtain ⟨r₁, hr₁, hkept⟩ := hg.kept n id r hr
      rw [Option.mem_def, hr₁] at hr'
      cases hr'
      have hended := hfate r hr
      rw [hkept.fate (by rw [hended]; exact nofun), hended]

lemma Sound.mono {rid : ℕ} {e : Exchange} (h : Sound σ w rid e) (hg : Grows w w') :
    Sound σ w' rid e where
  answers req a rest hreq hans hcode := by
    obtain ⟨n, route, hdeliver, htold⟩ := h.answers req a rest hreq hans hcode
    exact ⟨n, route, hdeliver, htold.mono hg⟩
  reply := h.reply
  url := h.url

lemma Inv.grow (hi : Inv σ w) (ht : Tables w') (hg : Grows w w')
    (hexchanges : w'.exchanges = w.exchanges)
    (henders : ∀ n id rid, EndedBy w' n id (some rid) →
      EndedBy w n id (some rid) ∨ Targets σ w rid n id) : Inv σ w' where
  tables := ht
  exchanges rid e he := (hi.exchanges rid e (hexchanges ▸ he)).mono hg
  enders n id rid h := by
    rw [Targets, hexchanges]
    rcases henders n id rid h with hold | htargets
    · exact hi.enders n id rid hold
    · exact htargets

lemma setExchange_self (w : World ν) (rid : ℕ) (e : Exchange) :
    (w.setExchange rid e).exchanges rid = some e := by
  rw [World.setExchange]
  exact Function.update_self rid (some e) w.exchanges

lemma Inv.set {rid : ℕ} {e : Exchange} (hi : Inv σ w) (hs : Sound σ w rid e)
    (hurl : ∀ e₀, w.exchanges rid = some e₀ → e.url = e₀.url) : Inv σ (w.setExchange rid e) where
  tables := ⟨hi.tables.active, hi.tables.known, hi.tables.simulated, hi.tables.unique⟩
  exchanges rid' e' he := by
    have hg : Grows w (w.setExchange rid e) := Grows.of_eq rfl rfl
    have he : Function.update w.exchanges rid (some e) rid' = some e' := he
    by_cases hrid : rid' = rid
    · subst hrid
      rw [Function.update_self] at he
      cases he
      exact hs.mono hg
    · rw [Function.update_of_ne hrid] at he
      exact (hi.exchanges rid' e' he).mono hg
  enders n id rid' h := by
    obtain ⟨e₀, he₀, hdeliver⟩ := hi.enders n id rid' h
    by_cases hrid : rid' = rid
    · subst hrid
      exact ⟨e, setExchange_self w rid' e, by rw [hurl e₀ he₀, hdeliver]⟩
    · exact ⟨e₀, (Function.update_of_ne hrid _ _).trans he₀, hdeliver⟩

lemma respond_answered (req : Request) (code : Int) (body : LoadBalancer.Body) :
    (req.respond (.answered code body)).status = code := by
  cases req with
  | initiateCall req =>
    simp only [Request.respond, LoadBalancer.upstreamResponse]
    split_ifs
    · cases body.object <;> rfl
    · cases body.object <;> rfl
  | endCall req =>
    simp only [Request.respond, LoadBalancer.endCallResponse]
    split_ifs with hcode
    · rw [hcode]
      rfl
    · rfl

lemma respond_failed (req : Request) (err : String) :
    (req.respond (.failed err)).status = 503 := by
  cases req <;> rfl

/-- A request that is refused, or forwarded. -/
lemma sound_of {rid : ℕ} {x : Except LoadBalancer.Response (Request × String)}
    (hrefused : ∀ r, x = .error r → r.status ≠ 200)
    (hurl : ∀ req url, x = .ok (.endCall req, url) → ∃ ip port,
      LoadBalancer.parseContainerID req.containerID = .ok (ip, port) ∧
        url = endCallURL ip port req.callID) : Sound σ w rid (.of x) := by
  cases x with
  | error r =>
    refine ⟨fun req a rest hreq => ?_, fun r' hr' hstatus => ?_, fun req hreq => ?_⟩
    · cases hreq
    · cases hr'
      exact absurd hstatus (hrefused r rfl)
    · cases hreq
  | ok p =>
    obtain ⟨req, url⟩ := p
    refine ⟨fun req' a rest hreq hans => ?_, fun r hr => ?_, fun req' hreq => ?_⟩
    · cases hans
    · cases hr
    · cases hreq
      exact hurl req' url rfl

lemma initiateCall_refused {body : Text} {order : List String} {s : State}
    {r : LoadBalancer.Response} (h : (σ.initiateCall body order s).1 = .error r) :
    r.status ≠ 200 := by
  simp only [Setting.initiateCall] at h
  split at h
  · cases h
    exact show (400 : Int) ≠ 200 by decide
  · split at h
    · cases h
      exact show (503 : Int) ≠ 200 by decide
    · cases h

lemma endCall_cases (σ : Setting ν) (body : Text) :
    (∃ r, σ.endCall body = .error r ∧ r.status ≠ 200) ∨
    ∃ req ip port, LoadBalancer.parseContainerID req.containerID = .ok (ip, port) ∧
      σ.endCall body = .ok (req, endCallURL ip port req.callID) := by
  simp only [Setting.endCall]
  split
  · exact Or.inl ⟨_, rfl, show (400 : Int) ≠ 200 by decide⟩
  · next req hreq =>
    split
    · exact Or.inl ⟨_, rfl, show (400 : Int) ≠ 200 by decide⟩
    · next ip port hparse =>
      split_ifs
      · exact Or.inr ⟨req, ip, port, hparse, rfl⟩
      · exact Or.inl ⟨_, rfl, show (500 : Int) ≠ 200 by decide⟩

/-- The load balancer answers a client. -/
lemma inv_reply {rid : ℕ} {e : Exchange} {u : Upstream} (hi : Inv σ w)
    (he : w.exchanges rid = some e)
    (hu : ∀ req : Request, (req.respond u).status = 200 → ∃ a rest,
      e.answers = some (a :: rest) ∧ a.code = 200 ∧ u = .answered 200
        (LoadBalancer.upstreamBody (MediaServer.CallRequests.bodyText σ.what a.body)))
    (h : w.reply rid e u = some w') : Inv σ w' := by
  obtain ⟨req, hreq, h⟩ := Option.bind_eq_some_iff.mp h
  split_ifs at h
  cases h
  have hs := hi.exchanges rid e he
  refine hi.set ⟨hs.answers, fun r hr hstatus => ?_, hs.url⟩ fun e₀ he₀ => ?_
  · cases hr
    obtain ⟨a, rest, hans, hcode, hupstream⟩ := hu req hstatus
    exact ⟨req, a, rest, hreq, hans, hcode, by rw [hupstream]⟩
  · rw [he] at he₀
    cases he₀
    rfl

/-- The identifier of a new request is not in use. -/
lemma taken {rid : ℕ} {e₀ : Exchange} {p : Prop} (hfree : (w.exchanges rid).isNone)
    (he₀ : w.exchanges rid = some e₀) : p := by
  rw [he₀] at hfree
  cases hfree

lemma inv_service (hi : Inv σ w) (s : State) : Inv σ { w with service := s } :=
  hi.grow ⟨hi.tables.active, hi.tables.known, hi.tables.simulated, hi.tables.unique⟩
    (Grows.of_eq rfl rfl) rfl fun _ _ _ h => Or.inl h

lemma inv_start (s : State) : Inv σ (World.start s : World ν) where
  tables := by
    refine ⟨fun n id => rfl, fun n id h => ?_, fun n m id h => ?_, fun n n' id h => ?_⟩ <;> cases h
  exchanges _ _ h := by cases h
  enders n id rid h := by
    obtain ⟨r, hr, -⟩ := h
    cases hr

/-! ### What a client was told -/

lemma upstreamResponse_object {message err : String} {object : Json} {body : LoadBalancer.Body}
    (h : .api 200 message (some object) err =
      LoadBalancer.upstreamResponse (.answered 200 body)) : body.object = some object := by
  have hcode : ¬(400 : Int) ≤ 200 := by decide
  rw [LoadBalancer.upstreamResponse, if_neg hcode] at h
  cases hobject : body.object with
  | none =>
    rw [hobject] at h
    cases h
  | some v =>
    rw [hobject] at h
    cases h
    rfl

/-- Who is told two identifiers has placed the call that they belong to. -/
lemma receipt_call {rid : ℕ} {req : InitiateCallRequest} (hi : Inv σ w)
    (h : Receipt w rid req c k) : ∃ n p port r,
      MediaServer.CallRequests.readBody σ.ofDouble (σ.raw n).env
        (some (.object (LoadBalancer.marshal req))) = .ok p ∧
      getEnvInt (σ.raw n).env "HTTP_PORT" 8086 = .ok port ∧ isUuid c = true ∧
      k = (MediaServer.CallRequests.containerId (σ.raw n) port).decode ∧
      w.records n c = some r ∧ r.source = some rid ∧
      r.call = MediaServer.CallRequests.newCall (σ.raw n) p := by
  obtain ⟨e, message, data, he, hreq, hreply, hc, hk⟩ := h
  have hs := hi.exchanges rid e he
  obtain ⟨req', a, rest, hreq', hans, hcode, hresponse⟩ := hs.reply _ hreply rfl
  rw [hreq] at hreq'
  cases hreq'
  have hobject := upstreamResponse_object hresponse
  obtain ⟨n, route, -, htold⟩ := hs.answers _ a rest hreq hans hcode
  cases route with
  | endCall id =>
    obtain ⟨hbody, -⟩ := htold
    rw [hbody, upstreamBody_confirmation] at hobject
    cases hobject
  | initiateCall =>
    rcases htold with ⟨p, port, id, r, hread, hport, hdumps, huuid, hbody, hr, hsource, hcall⟩ |
      ⟨p, id, hbody⟩
    · rw [hbody, upstreamBody_json (writable_sipReply hdumps)] at hobject
      cases hobject
      obtain ⟨rfl, rfl⟩ := sipReply_ids hc hk
      rw [parse_body] at hread
      exact ⟨n, p, port, r, hread, hport, huuid, rfl, hr, hsource, hcall⟩
    · rw [hbody, upstreamBody_json writable_simulatedReply] at hobject
      cases hobject
      exact absurd hk simulatedReply_container

/-- The identifiers lead to the container that has made them. -/
lemma leads_of_deployed (hd : Deployed σ)
    (hport : getEnvInt (σ.raw n).env "HTTP_PORT" 8086 = .ok port) (huuid : isUuid c = true) :
    LeadsTo σ c (MediaServer.CallRequests.containerId (σ.raw n) port).decode n :=
  ⟨σ.ip n, toString port, parse_containerId (hd.dash n) (hd.port n port hport),
    hd.parses n port c hport huuid, hd.reached n port c hport huuid⟩

/-- Who is told that a call is being ended has ended it. -/
lemma ended_of_reply {rid : ℕ} {r : Record} (hi : Inv σ w) (hl : LeadsTo σ c k n)
    (hr : w.records n c = some r) (h : RepliedWith w rid (.endCall ⟨c, k⟩) 200) :
    r.fate = .ended (some rid) := by
  obtain ⟨ip, port, hparse, -, hdeliver⟩ := hl
  obtain ⟨e, reply, he, hreq, hreply, hstatus⟩ := h
  have hs := hi.exchanges rid e he
  obtain ⟨req', a, rest, hreq', hans, hcode, -⟩ := hs.reply _ hreply hstatus
  obtain ⟨n', route, hdeliver', htold⟩ := hs.answers _ a rest hreq hans hcode
  obtain ⟨ip', port', hparse', hurl⟩ := hs.url _ hreq
  rw [hparse] at hparse'
  cases hparse'
  rw [hurl, hdeliver] at hdeliver'
  cases hdeliver'
  exact htold.2.2 r hr

/-! ### A step of a container -/

variable [DecidableEq ν]

lemma put_listed (n' : ν) (id : String) : (w.put n source new after).listed n' id =
    if n' = n then Manager.listed after id else w.listed n' id := by
  rw [World.listed, World.put]
  split_ifs with hn
  · rw [hn]
    exact congrArg (Manager.listed · id) (Function.update_self n after w.nodes)
  · exact congrArg (Manager.listed · id) (Function.update_of_ne hn after w.nodes)

lemma put_records (n' : ν) (id : String) : (w.put n source new after).records n' id =
    if n' = n then note source (w.nodes n) after (w.records n) id else w.records n' id := by
  rw [World.put]
  split_ifs with hn
  · rw [hn]
    exact congrFun (Function.update_self n _ w.records) id
  · exact congrFun (Function.update_of_ne hn _ w.records) id

lemma mem_put_drawn : id ∈ (w.put n source new after).drawn ↔ id ∈ new ∨ id ∈ w.drawn := by
  rw [World.put, List.mem_append, Option.mem_toList, Option.mem_def]

/-- A record stays, unless its call is listed and taken off now. -/
lemma grows_put (ht : Tables w) (hm : Moves w n new after) :
    Grows w (w.put n source new after) where
  kept n' id r hr := by
    rw [put_records]
    split_ifs with hn
    · subst hn
      rcases note_cases source (w.nodes n') after (w.records n') id with
        ⟨call, hbefore, hafter, -⟩ | ⟨call, hbefore, -, hnote⟩ | ⟨hnote, -⟩
      · have hnew := hm.fresh id hbefore (Option.isSome_of_eq_some hafter)
        exact absurd (ht.known n' id (Option.isSome_of_eq_some hr)) hnew.2
      · rw [hr, Option.map_some] at hnote
        refine ⟨_, hnote, rfl, rfl, fun hfate => absurd ?_ hfate⟩
        have hlisted := ht.active n' id
        rw [hr, World.listed, hbefore, Option.bind_some, Record.listed] at hlisted
        cases hf : r.fate with
        | active => rfl
        | ended ender =>
          rw [hf] at hlisted
          cases hlisted
        | lost =>
          rw [hf] at hlisted
          cases hlisted
      · exact ⟨r, by rw [hnote, hr], Kept.refl r⟩
    · exact ⟨r, hr, Kept.refl r⟩
  added n' id hnone hsome := by
    rw [put_records] at hsome
    split_ifs at hsome with hn
    · subst hn
      rcases note_cases source (w.nodes n') after (w.records n') id with
        ⟨call, hbefore, hafter, -⟩ | ⟨call, -, -, hnote⟩ | ⟨hnote, -⟩
      · exact (hm.fresh id hbefore (Option.isSome_of_eq_some hafter)).2
      · rw [hnote, hnone] at hsome
        cases hsome
      · rw [hnote, hnone] at hsome
        cases hsome
    · rw [hnone] at hsome
      cases hsome
  drawn id hid := mem_put_drawn.mpr (Or.inr hid)

/-- A call that has a record afterwards had one before, or is new. -/
lemma put_isSome (hm : Moves w n new after) {n' : ν}
    (h : ((w.put n source new after).records n' id).isSome) :
    (w.records n' id).isSome ∨ (n' = n ∧ id ∈ new ∧ id ∉ w.drawn) := by
  rw [put_records] at h
  split_ifs at h with hn
  · subst hn
    rcases note_cases source (w.nodes n') after (w.records n') id with
      ⟨call, hbefore, hafter, -⟩ | ⟨call, -, -, hnote⟩ | ⟨hnote, -⟩
    · exact Or.inr ⟨rfl, hm.fresh id hbefore (Option.isSome_of_eq_some hafter)⟩
    · rw [hnote, Option.isSome_map] at h
      exact Or.inl h
    · rw [hnote] at h
      exact Or.inl h
  · exact Or.inl h

lemma tables_put (ht : Tables w) (hm : Moves w n new after) :
    Tables (w.put n source new after) where
  active n' id := by
    rw [put_listed, put_records]
    split_ifs with hn
    · subst hn
      have hactive := ht.active n' id
      rw [World.listed] at hactive
      rcases note_cases source (w.nodes n') after (w.records n') id with
        ⟨call, -, hafter, hnote⟩ | ⟨call, hbefore, hafter, hnote⟩ | ⟨hnote, hiff⟩
      · rw [hafter, hnote]
        rfl
      · rw [hafter, hnote]
        cases hr : w.records n' id with
        | none => rfl
        | some r =>
          cases hsome : after.isSome <;> rfl
      · rw [hnote, ← hactive]
        cases hafter : Manager.listed after id with
        | none =>
          rw [hafter] at hiff
          exact (Option.not_isSome_iff_eq_none.mp fun h => by cases hiff.mp h).symm
        | some call' =>
          rw [hafter] at hiff
          obtain ⟨call, hbefore⟩ := Option.isSome_iff_exists.mp (hiff.mpr rfl)
          rw [hbefore, hm.kept id call call' hbefore hafter]
    · exact ht.active n' id
  known n' id h := by
    rcases put_isSome hm h with hsome | ⟨-, hnew, -⟩
    · exact mem_put_drawn.mpr (Or.inr (ht.known n' id hsome))
    · exact mem_put_drawn.mpr (Or.inl hnew)
  simulated n' m' id hnode hsim := by
    rw [mem_put_drawn]
    by_cases hn : n' = n
    · subst hn
      have hafter : after = some m' := by
        rw [← hnode]
        exact (Function.update_self n' after w.nodes).symm
      have hrecord : ∀ hnone : w.records n' id = none, Manager.listed after id = none →
          (w.put n' source new after).records n' id = none := by
        intro hnone hlisted
        by_contra hsome
        rcases put_isSome hm (Option.isSome_iff_ne_none.mpr hsome) with h | ⟨-, -, -⟩
        · rw [hnone] at h
          cases h
        · rw [put_records, if_pos rfl] at hsome
          rcases note_cases source (w.nodes n') after (w.records n') id with
            ⟨call, -, hcall, -⟩ | ⟨call, -, -, hnote⟩ | ⟨hnote, -⟩
          · rw [hlisted] at hcall
            cases hcall
          · rw [hnote, hnone] at hsome
            exact hsome rfl
          · exact hsome (hnote.trans hnone)
      rcases hm.simulated m' id hafter hsim with ⟨m₀, hm₀, hold⟩ | ⟨hnew, hfresh, hnone⟩
      · obtain ⟨hdrawn, hnone⟩ := ht.simulated n' m₀ id hm₀ hold
        refine ⟨Or.inr hdrawn, hrecord hnone ?_⟩
        by_contra hlisted
        have hbefore : w.listed n' id = none := by
          rw [ht.active, hnone]
          rfl
        exact (hm.fresh id hbefore (Option.isSome_iff_ne_none.mpr hlisted)).2 hdrawn
      · refine ⟨Or.inl hnew, hrecord ?_ ?_⟩
        · by_contra hsome
          exact hfresh (ht.known n' id (Option.isSome_iff_ne_none.mpr hsome))
        · rw [hafter]
          exact hnone
    · have hnode' : w.nodes n' = some m' := by
        rw [← hnode]
        exact (Function.update_of_ne hn after w.nodes).symm
      obtain ⟨hdrawn, hnone⟩ := ht.simulated n' m' id hnode' hsim
      exact ⟨Or.inr hdrawn, by rw [put_records, if_neg hn, hnone]⟩
  unique n₁ n₂ id h₁ h₂ := by
    rcases put_isSome hm h₁ with hsome₁ | ⟨rfl, -, hfresh⟩
    · rcases put_isSome hm h₂ with hsome₂ | ⟨rfl, -, hfresh⟩
      · exact ht.unique n₁ n₂ id hsome₁ hsome₂
      · exact absurd (ht.known n₁ id hsome₁) hfresh
    · rcases put_isSome hm h₂ with hsome₂ | ⟨rfl, -, -⟩
      · exact absurd (ht.known n₂ id hsome₂) hfresh
      · rfl

lemma put_placed (ht : Tables w) (hid : id ∉ w.drawn) (call : SipCall) :
    (w.put n source new (some (m.placed id call))).records n id = some ⟨source, call, .active⟩ := by
  have hbefore : Manager.listed (w.nodes n) id = none := ht.not_listed hid n
  have hafter : Manager.listed (some (m.placed id call)) id =
      Function.update m.activeCalls id (some call) id := rfl
  rw [Function.update_self] at hafter
  rw [put_records, if_pos rfl, note, hbefore, hafter]

lemma put_taken (hw : w.nodes n = some m) (hcall : (m.activeCalls id).isSome) :
    (w.put n source new (some (m.setActive id none))).records n id =
      (w.records n id).map fun r => { r with fate := .ended source } := by
  obtain ⟨call, hcall⟩ := Option.isSome_iff_exists.mp hcall
  have hbefore : Manager.listed (w.nodes n) id = some call := by
    rw [hw]
    exact hcall
  have hafter : Manager.listed (some (m.setActive id none)) id =
      Function.update m.activeCalls id none id := rfl
  rw [Function.update_self] at hafter
  rw [put_records, if_pos rfl, note, hbefore, hafter]
  rfl

lemma head_not_ok {responses rest : List MediaServer.CallRequests.Response}
    {a : MediaServer.CallRequests.Response} (h : MediaServer.CallRequests.Declined responses)
    (heq : responses = a :: rest) : a.code ≠ 200 := by
  rw [heq] at h
  exact h a rfl

lemma head_confirmed {responses rest : List MediaServer.CallRequests.Response}
    {a : MediaServer.CallRequests.Response} (h : Confirmed responses)
    (heq : responses = a :: rest) : a.body = .text "Call end initiated" := by
  rw [heq] at h
  rw [Option.some.inj h]
  rfl

/-- Whether or not the container gets out of the handler. -/
lemma settled (ht : Tables w) (source : Option ℕ) {h : MediaServer.CallRequests.Handled}
    (hm : Moves w n (some id) (some h.manager)) :
    Tables (w.handled n source id h) ∧ Grows w (w.handled n source id h) := by
  have hput : Tables (w.put n source (some id) (some h.manager)) := tables_put ht hm
  have hgrows : Grows w (w.put n source (some id) (some h.manager)) := grows_put ht hm
  rw [World.handled]
  split_ifs
  · exact ⟨hput, hgrows⟩
  · exact ⟨tables_put hput moves_gone, hgrows.trans (grows_put hput moves_gone)⟩

/-- A call that has ended was ended before, or is taken off now. -/
lemma put_ended {n' : ν} {ender : Option ℕ}
    (h : EndedBy (w.put n source new after) n' id ender) :
    EndedBy w n' id ender ∨ (n' = n ∧ ender = source ∧ (w.listed n id).isSome ∧
      Manager.listed after id = none ∧ after.isSome) := by
  obtain ⟨r, hr, hfate⟩ := h
  rw [put_records] at hr
  split_ifs at hr with hn
  · subst hn
    rcases note_cases source (w.nodes n') after (w.records n') id with
      ⟨call, -, -, hnote⟩ | ⟨call, hbefore, hafter, hnote⟩ | ⟨hnote, -⟩
    · rw [hnote] at hr
      cases hr
      cases hfate
    · rw [hnote] at hr
      obtain ⟨r₀, -, rfl⟩ := Option.map_eq_some_iff.mp hr
      cases hsome : after.isSome with
      | false =>
        rw [hsome] at hfate
        cases hfate
      | true =>
        rw [hsome] at hfate
        cases hfate
        exact Or.inr ⟨rfl, rfl, Option.isSome_of_eq_some hbefore, hafter, rfl⟩
    · exact Or.inl ⟨r, hnote ▸ hr, hfate⟩
  · exact Or.inl ⟨r, hr, hfate⟩

lemma handled_ended {n' : ν} {ender : Option ℕ} {drawn : String}
    {res : MediaServer.CallRequests.Handled}
    (h : EndedBy (w.handled n source drawn res) n' id ender) :
    EndedBy w n' id ender ∨ (n' = n ∧ ender = source ∧ (w.listed n id).isSome ∧
      res.manager.activeCalls id = none) := by
  have hput : ∀ h : EndedBy (w.put n source (some drawn) (some res.manager)) n' id ender,
      EndedBy w n' id ender ∨ (n' = n ∧ ender = source ∧ (w.listed n id).isSome ∧
        res.manager.activeCalls id = none) := by
    intro h
    rcases put_ended h with hold | ⟨hn, hender, hbefore, hafter, -⟩
    · exact Or.inl hold
    · exact Or.inr ⟨hn, hender, hbefore, hafter⟩
  rw [World.handled] at h
  split_ifs at h
  · exact hput h
  · -- what is lost with the container was not ended
    rcases put_ended h with hold | ⟨-, -, -, -, hsome⟩
    · exact hput hold
    · cases hsome

lemma handling {route : Route} {text : Text} {cw : MediaServer.CallRequests.World}
    {responses : List MediaServer.CallRequests.Response} (ht : Tables w)
    (h : σ.handle w n source route text cw = some (w', responses)) :
    Handling σ w w' source n route text responses := by
  obtain ⟨m, hw, h⟩ := Option.bind_eq_some_iff.mp h
  split_ifs at h with hfresh
  obtain ⟨huuid, hid⟩ := (Bool.and_eq_true _ _).mp hfresh
  have hid : cw.generateCallId ∉ w.drawn := of_decide_eq_true hid
  have hexchanges : ∀ res, (w.handled n source cw.generateCallId res).exchanges = w.exchanges := by
    intro res
    rw [World.handled]
    split_ifs <;> rfl
  cases route with
  | initiateCall =>
    have hnew : m.simulatedCalls cw.generateCallId = none := by
      by_contra hsome
      exact hid (ht.simulated n m _ hw (Option.isSome_iff_ne_none.mpr hsome)).1
    have hinitiated := @MediaServer.CallRequests.initiated σ.ofDouble (σ.raw n) cw m
      (JsonText.parse text) hnew
    simp only [Setting.serve] at h
    generalize MediaServer.CallRequests.handle cw (MediaServer.CallRequests.initiateCall σ.ofDouble
      (σ.raw n) cw (JsonText.parse text)) m = res at hinitiated h
    obtain ⟨htables, hgrows⟩ := settled ht source (moves_initiated ht hw hid hinitiated)
    cases h
    refine ⟨htables, hgrows, hexchanges res, fun a rest heq hcode => ?_, fun n' id ender h => ?_⟩
    swap
    · rcases handled_ended h with hold | ⟨-, -, hbefore, hafter⟩
      · exact Or.inl hold
      · rw [listed_of_node hw] at hbefore
        have hkept := initiated_keeps hinitiated hbefore
        rw [hafter] at hkept
        cases hkept
    cases hinitiated with
    | @placed p port hread hport hdumps =>
      cases heq
      exact Or.inl ⟨p, port, _, _, hread, hport, hdumps, huuid, rfl, put_placed ht hid _, rfl, rfl⟩
    | unanswered hdeclined => exact absurd hcode (head_not_ok hdeclined heq)
    | @simulated p sim =>
      cases heq
      exact Or.inr ⟨p, _, rfl⟩
    | declined hactive hsimulated hdeclined => exact absurd hcode (head_not_ok hdeclined heq)
  | endCall id =>
    have hended := MediaServer.CallRequests.ended cw id m
    simp only [Setting.serve] at h
    generalize MediaServer.CallRequests.handle cw (MediaServer.CallRequests.endCall cw id) m = res
      at hended h
    have hm : Moves w n (some cw.generateCallId) (some res.manager) := moves_ended hw hended
    obtain ⟨htables, hgrows⟩ := settled ht source hm
    cases h
    refine ⟨htables, hgrows, hexchanges res, fun a rest heq hcode => ?_, fun n' id' ender h => ?_⟩
    swap
    · rcases handled_ended h with hold | ⟨hn, hender, hbefore, hafter⟩
      · exact Or.inl hold
      · by_cases hid' : id' = id
        · exact Or.inr ⟨hn, hender, by rw [hid']⟩
        · rw [listed_of_node hw] at hbefore
          have hkept := ended_keeps hended hid' hbefore
          rw [hafter] at hkept
          cases hkept
    cases hended with
    | simulated hsim hconfirmed =>
      obtain ⟨hdrawn, hnone⟩ := ht.simulated n m id hw hsim
      refine ⟨head_confirmed hconfirmed heq, hgrows.drawn id hdrawn, fun r hr => ?_⟩
      exact absurd hdrawn (hgrows.added n id hnone (Option.isSome_of_eq_some hr))
    | @active responses hcall hconfirmed =>
      refine ⟨head_confirmed hconfirmed heq, hgrows.drawn id (ht.drawn_of_listed hw hcall),
        fun r hr => ?_⟩
      have hrecords : (w.handled n source cw.generateCallId
          ⟨m.setActive id none, responses, true⟩).records n id =
            (w.records n id).map fun r => { r with fate := .ended source } := put_taken hw hcall
      rw [hrecords] at hr
      obtain ⟨r₀, -, rfl⟩ := Option.map_eq_some_iff.mp hr
      rfl
    | declined hdeclined => exact absurd hcode (head_not_ok hdeclined heq)

/-! ### Runs -/

/-- A container does something of its own. -/
lemma inv_put (hi : Inv σ w) (hm : Moves w n new after) : Inv σ (w.put n none new after) := by
  refine hi.grow (tables_put hi.tables hm) (grows_put hi.tables hm) rfl fun n' id rid h => ?_
  rcases put_ended h with hold | ⟨-, hsource, -⟩
  · exact Or.inl hold
  · cases hsource

lemma Inv.step {e : Event ν} (hi : Inv σ w) (h : step σ w e = some w') : Inv σ w' := by
  cases e with
  | service op =>
    cases h
    exact inv_service hi _
  | initiateCall rid body order =>
    simp only [CallControl.step] at h
    split_ifs at h with hfree
    cases h
    have hservice : Inv σ { w with service := (σ.initiateCall body order w.service).2 } :=
      inv_service hi _
    refine hservice.set (sound_of (fun r hr => ?_) fun req url hreq => ?_)
      fun e₀ he₀ => taken hfree he₀
    · cases hres : (σ.initiateCall body order w.service).1 with
      | error r' =>
        rw [hres] at hr
        cases hr
        exact initiateCall_refused hres
      | ok p =>
        rw [hres] at hr
        cases hr
    · cases hres : (σ.initiateCall body order w.service).1 with
      | error r' =>
        rw [hres] at hreq
        cases hreq
      | ok p =>
        rw [hres] at hreq
        cases hreq
  | endCall rid body =>
    simp only [CallControl.step] at h
    split_ifs at h with hfree
    cases h
    rcases endCall_cases σ body with ⟨r, hres, hstatus⟩ | ⟨req, ip, port, hparse, hres⟩
    · rw [hres]
      refine hi.set (sound_of (fun r' hr' => ?_) fun req url hreq => by cases hreq)
        fun e₀ he₀ => taken hfree he₀
      cases hr'
      exact hstatus
    · rw [hres]
      refine hi.set (sound_of (fun r hr => by cases hr) fun req' url hreq => ?_)
        fun e₀ he₀ => taken hfree he₀
      cases hreq
      exact ⟨ip, port, hparse, rfl⟩
  | deliver rid cw =>
    obtain ⟨e, he, h⟩ := Option.bind_eq_some_iff.mp h
    obtain ⟨req, hreq, h⟩ := Option.bind_eq_some_iff.mp h
    split_ifs at h with hans
    obtain ⟨⟨n, route⟩, hdeliver, h⟩ := Option.bind_eq_some_iff.mp h
    obtain ⟨⟨w₁, responses⟩, hhandle, rfl⟩ := Option.map_eq_some_iff.mp h
    have hh := handling hi.tables hhandle
    have hs := (hi.exchanges rid e he).mono hh.grows
    have hgrown : Inv σ w₁ := by
      refine hi.grow hh.tables hh.grows hh.exchanges fun n' id rid' hended => ?_
      rcases hh.ended n' id (some rid') hended with hold | ⟨hn, hender, hroute⟩
      · exact Or.inl hold
      · cases hender
        have hroute : route = .endCall id := hroute
        exact Or.inr ⟨e, he, by rw [hdeliver, hn, hroute]⟩
    refine hgrown.set ⟨?_, fun r hr hstatus => ?_, hs.url⟩ fun e₀ he₀ => ?_
    rotate_right
    · rw [hh.exchanges, he] at he₀
      cases he₀
      rfl
    · intro req' a rest hreq' hans' hcode
      rw [hreq] at hreq'
      cases hreq'
      exact ⟨n, route, hdeliver, hh.told a rest (Option.some.inj hans') hcode⟩
    · -- nobody was told 200 before a container had answered
      obtain ⟨-, a, rest, -, hbefore, -⟩ := hs.reply r hr hstatus
      rw [hbefore] at hans
      cases hans
  | answer rid =>
    obtain ⟨e, he, h⟩ := Option.bind_eq_some_iff.mp h
    obtain ⟨u, hu, h⟩ := Option.bind_eq_some_iff.mp h
    obtain ⟨responses, hans, hu⟩ := Option.bind_eq_some_iff.mp hu
    cases responses with
    | nil => cases hu
    | cons a rest =>
      cases hu
      refine inv_reply hi he (fun req hstatus => ?_) h
      rw [respond_answered] at hstatus
      exact ⟨a, rest, hans, by exact_mod_cast hstatus, by rw [hstatus]⟩
  | fail rid err =>
    obtain ⟨e, he, h⟩ := Option.bind_eq_some_iff.mp h
    refine inv_reply hi he (fun req hstatus => ?_) h
    rw [respond_failed] at hstatus
    exact absurd hstatus (by decide)
  | direct n route body cw =>
    obtain ⟨⟨w₁, responses⟩, hhandle, rfl⟩ := Option.map_eq_some_iff.mp h
    have hh := handling hi.tables hhandle
    refine hi.grow hh.tables hh.grows hh.exchanges fun n' id rid hended => ?_
    rcases hh.ended n' id (some rid) hended with hold | ⟨-, hender, -⟩
    · exact Or.inl hold
    · cases hender
  | incoming n id call =>
    obtain ⟨m, hw, h⟩ := Option.bind_eq_some_iff.mp h
    split_ifs at h with hfresh
    cases h
    have hid : id ∉ w.drawn := of_decide_eq_true ((Bool.and_eq_true _ _).mp hfresh).2
    exact inv_put hi (moves_placed hi.tables hw hid call)
  | change n c =>
    obtain ⟨m, hw, rfl⟩ := Option.map_eq_some_iff.mp h
    exact inv_put hi (moves_change hw c)
  | start n initialized =>
    simp only [CallControl.step] at h
    split_ifs at h
    cases h
    exact inv_put hi (moves_new w initialized)
  | stop n =>
    cases h
    exact inv_put hi moves_gone

lemma inv_run {s : State} {es : List (Event ν)}
    (hr : run (CallControl.step σ) (World.start s) es = some w) : Inv σ w :=
  run_invariant' (fun _ _ _ hi he => hi.step he) (inv_start s) hr

/-! ### What a client can do -/

/-- A call that is listed is ended by a request for its two identifiers, and nothing else is. -/
lemma end_listed {rid : ℕ} {body : Text} {cw : MediaServer.CallRequests.World}
    (hl : LeadsTo σ c k n) (hw : w.nodes n = some m) (hcall : (m.activeCalls c).isSome)
    (hsim : m.simulatedCalls c = none)
    (hbind : LoadBalancer.endCallRequest.shouldBindJSON body = .ok ⟨c, k⟩)
    (hrid : w.exchanges rid = none) (hreg : cw.registerThread = .ok ())
    (hfresh : w.fresh cw.generateCallId = true) :
    ∃ w', run (step σ) w [.endCall rid body, .deliver rid cw, .answer rid] = some w' ∧
      RepliedWith w' rid (.endCall ⟨c, k⟩) 200 ∧ w'.service = w.service ∧
      ∀ n' id, w'.listed n' id = if n' = n ∧ id = c then none else w.listed n' id := by
  obtain ⟨ip, port, hparse, hparses, hdeliver⟩ := hl
  obtain ⟨responses, hconfirmed, hhandle⟩ :=
    MediaServer.CallRequests.endCall_active (w := cw) hreg hsim hcall
  obtain ⟨a, rest, rfl⟩ : ∃ a rest, responses = a :: rest := by
    cases responses with
    | nil => cases hconfirmed
    | cons a rest => exact ⟨a, rest, rfl⟩
  cases hconfirmed
  let request : Request := .endCall ⟨c, k⟩
  let e : Exchange := ⟨some request, endCallURL ip port c, none, none⟩
  let w₁ := w.setExchange rid e
  let w₂ := w₁.put n (some rid) (some cw.generateCallId) (some (m.setActive c none))
  let e₂ : Exchange := { e with answers := some (MediaServer.CallRequests.confirmation :: rest) }
  let u : Upstream := .answered 200 (LoadBalancer.upstreamBody
    (MediaServer.CallRequests.bodyText σ.what (.text "Call end initiated")))
  let e₃ : Exchange := { e₂ with reply := some (request.respond u) }
  have hend : σ.endCall body = .ok (⟨c, k⟩, endCallURL ip port c) := by
    simp only [Setting.endCall, hbind, hparse, hparses, if_true]
  have h₁ : step σ w (.endCall rid body) = some w₁ := by
    rw [step, hrid, hend]
    rfl
  have hexchange : w₁.exchanges rid = some e := setExchange_self w rid e
  have hserved : σ.handle w₁ n (some rid) (.endCall c) request.body cw =
      some (w₂, MediaServer.CallRequests.confirmation :: rest) := by
    have hw₁ : w₁.nodes n = some m := hw
    have hfresh₁ : w₁.fresh cw.generateCallId = true := hfresh
    rw [Setting.handle, hw₁, Option.bind_some, if_pos hfresh₁]
    simp only [Setting.serve, hhandle]
    rfl
  have h₂ : step σ w₁ (.deliver rid cw) = some (w₂.setExchange rid e₂) := by
    have hwaiting : e.answers.isNone = true := rfl
    have hurl : σ.deliver e.url = some (n, .endCall c) := hdeliver
    rw [step, hexchange, Option.bind_some, Option.bind_some, if_pos hwaiting, hurl,
      Option.bind_some, hserved]
    rfl
  have h₃ : step σ (w₂.setExchange rid e₂) (.answer rid) =
      some ((w₂.setExchange rid e₂).setExchange rid e₃) := by
    rw [step, setExchange_self]
    rfl
  refine ⟨(w₂.setExchange rid e₂).setExchange rid e₃, ?_, ?_, rfl, fun n' id => ?_⟩
  · rw [run_cons, h₁, Option.bind_some, run_cons, h₂, Option.bind_some, run_cons, h₃]
    rfl
  · exact ⟨e₃, _, setExchange_self _ rid e₃, rfl, rfl, respond_answered request 200 _⟩
  · have hput : w₂.listed n' id =
        if n' = n then Manager.listed (some (m.setActive c none)) id else w₁.listed n' id :=
      put_listed n' id
    have hlisted : ((w₂.setExchange rid e₂).setExchange rid e₃).listed n' id =
        if n' = n then Manager.listed (some (m.setActive c none)) id else w.listed n' id := hput
    have hupdate : Manager.listed (some (m.setActive c none)) id =
        Function.update m.activeCalls c none id := rfl
    rw [hlisted, hupdate]
    by_cases hn : n' = n
    · subst hn
      rw [if_pos rfl, listed_of_node hw]
      by_cases hid : id = c
      · rw [if_pos ⟨rfl, hid⟩, hid, Function.update_self]
      · rw [if_neg fun h => hid h.2, Function.update_of_ne hid]
    · rw [if_neg hn, if_neg fun h => hn h.1]

/-- In every run, for every client that was told the identifiers of a call and of a container. -/
theorem calls_controlled {rid : ℕ} {req : InitiateCallRequest} {s : State} {es : List (Event ν)}
    (hd : Deployed σ) (hr : run (step σ) (World.start s) es = some w)
    (hreceipt : Receipt w rid req c k) : ∃ n r, Controlled σ w rid req c k n r := by
  have hi := inv_run hr
  obtain ⟨n, p, port, r, hread, hport, huuid, rfl, hrecord, hsource, hcall⟩ :=
    receipt_call hi hreceipt
  have hl : LeadsTo σ c _ n := leads_of_deployed hd hport huuid
  have hlisted : w.listed n c = r.listed := by
    rw [hi.tables.active, hrecord, Option.bind_some]
  refine ⟨n, r, hrecord, hsource, ⟨p, hread, hcall⟩, hlisted, hl,
    fun rid' h => ended_of_reply hi hl hrecord h,
    fun rid' h => hi.enders n c rid' ⟨r, hrecord, h⟩, fun rid' req' k' h => ?_,
    fun hfate rid' body cw hbind hrid hreg hfresh => ?_⟩
  · obtain ⟨n', -, -, r', -, -, -, -, hrecord', hsource', -⟩ := receipt_call hi h
    have hn : n' = n := hi.tables.unique n' n c (Option.isSome_of_eq_some hrecord')
      (Option.isSome_of_eq_some hrecord)
    subst hn
    rw [hrecord] at hrecord'
    cases hrecord'
    rw [hsource] at hsource'
    exact (Option.some.inj hsource').symm
  · rw [Record.listed, hfate] at hlisted
    obtain ⟨m, hw, hactive⟩ := Option.bind_eq_some_iff.mp hlisted
    have hsim : m.simulatedCalls c = none := by
      by_contra hsome
      have hnone := (hi.tables.simulated n m c hw (Option.isSome_iff_ne_none.mpr hsome)).2
      rw [hrecord] at hnone
      cases hnone
    exact end_listed hl hw (Option.isSome_of_eq_some hactive) hsim hbind hrid hreg hfresh

/-! ### A container, and a call that is placed there -/

/-- The string under a name. -/
def stringAt (name : String) (data : List Member) : Option String :=
  match Json.lookupLast name data with
  | some (.string t) => some t.decode
  | _                => none

omit [DecidableEq ν] in
lemma hasString_of_stringAt {name v : String} (h : stringAt name data = some v) :
    HasString data name v := by
  rw [stringAt] at h
  split at h
  · next t hlookup => exact ⟨t, hlookup, Option.some.inj h⟩
  · cases h

/-- The identifiers that a client reads from its reply. -/
def World.told (w : World ν) (rid : ℕ) : Option (String × String) :=
  (w.exchanges rid).bind fun e =>
    match e.request, e.reply with
    | some (.initiateCall _), some (.api status _ (some (.object data)) err) =>
      if status = 200 ∧ err = "" then
        (stringAt "call_id" data).bind fun c => (stringAt "container_id" data).map fun k => (c, k)
      else none
    | _, _ => none

omit [DecidableEq ν] in
lemma receipt_of_told {rid : ℕ} (h : w.told rid = some (c, k)) : ∃ req, Receipt w rid req c k := by
  obtain ⟨e, he, h⟩ := Option.bind_eq_some_iff.mp h
  split at h
  · next req status message data err hreq hreply =>
    split_ifs at h with hstatus
    obtain ⟨rfl, rfl⟩ := hstatus
    obtain ⟨c', hc, h⟩ := Option.bind_eq_some_iff.mp h
    obtain ⟨k', hk, h⟩ := Option.map_eq_some_iff.mp h
    cases h
    exact ⟨req, e, message, data, he, hreq, hreply, hasString_of_stringAt hc,
      hasString_of_stringAt hk⟩
  · cases h

def sampleRaw : RawEnv := fun name =>
  if name = "PUBLIC_IP" then some (Text.ofString "203.0.113.5") else none

def endPrefix : String := endCallURL "203.0.113.5" "8086" ""

/-- The network of one container. -/
def sampleSetting : Setting Unit where
  raw _ := sampleRaw
  ofDouble _ := 0
  describe _ := ""
  what _ := []
  parses _ := true
  deliver url :=
    if endPrefix.toList.isPrefixOf url.toList then
      some ((), .endCall (String.ofList (url.toList.drop endPrefix.toList.length)))
    else if url = "http://203.0.113.5:8086/initiate-call" then some ((), .initiateCall)
    else none

lemma sampleSetting_deployed : Deployed sampleSetting where
  dash n := by
    cases n
    decide
  port _ port h := by
    cases h
    decide
  parses _ _ _ _ _ := rfl
  reached n port id h _ := by
    cases h
    have hurl : (endCallURL (sampleSetting.ip n) (toString (8086 : Int)) id).toList =
        endPrefix.toList ++ id.toList := by
      have hip : sampleSetting.ip n = "203.0.113.5" := by
        cases n
        decide
      have hport : toString (8086 : Int) = "8086" := by decide
      rw [hip, hport, ← String.toList_append]
      simp only [endPrefix, endCallURL, String.append_empty]
    have hprefix : endPrefix.toList.isPrefixOf (endPrefix.toList ++ id.toList) = true :=
      List.isPrefixOf_iff_prefix.mpr (List.prefix_append _ _)
    simp only [sampleSetting] at hurl ⊢
    rw [hurl, if_pos hprefix, List.drop_left, String.ofList_toList]

def sampleId : String := "0f8fad5b-d9cb-469f-a165-70867728950e"

/-- A service that knows the container. -/
def sampleService : State :=
  LoadBalancer.initServerArrays 0 LoadBalancer.sampleRedis [("container:media-1", true)]

def sampleEvents : List (Event Unit) :=
  [.service (.heartbeat 0 [⟨"media-1", .ok (LoadBalancer.getDefaultHealth 0)⟩]),
    .start () fun _ => true,
    .initiateCall 0 (Request.initiateCall (LoadBalancer.sampleRequest "")).body [],
    .deliver 0 ⟨.ok (), sampleId, .ok true, true, .ok ()⟩, .answer 0]

lemma sampleEvents_told :
    (run (step sampleSetting) (World.start sampleService) sampleEvents).bind (·.told 0) =
      some (sampleId, "india_media-203.0.113.5-8086") := by
  decide +kernel

theorem calls_controlled_sample : ∃ w req n r,
    run (step sampleSetting) (World.start sampleService) sampleEvents = some w ∧
      Controlled sampleSetting w 0 req sampleId "india_media-203.0.113.5-8086" n r := by
  obtain ⟨w, hr, htold⟩ := Option.bind_eq_some_iff.mp sampleEvents_told
  obtain ⟨req, hreceipt⟩ := receipt_of_told htold
  obtain ⟨n, r, h⟩ := calls_controlled sampleSetting_deployed hr hreceipt
  exact ⟨w, req, n, r, hr, h⟩

end CallControl
