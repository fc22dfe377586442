import SipForward.Core.Failing
import SipForward.System.Forwarding
import Mathlib.Data.List.Infix
import Mathlib.Logic.Function.Basic

/-!
# The requests that start and end a call

`initiateCall` and `endCall` are handed a writer and answer on it, also what they catch. What a
handler calls may fail, and what it has changed and sent before stays. A `SimulatedCall` takes the
lock of the manager when it is destroyed, and so the thread that destroys one under the lock does
not go on.
-/

namespace MediaServer.CallRequests

open Core

/-! ### Exceptions -/

/-- The `std::exception`s. -/
inductive Failure where
  | read (e : Exception)
  | typeError305 (actual : String)
  | typeError316                    -- a string that is dumped is not UTF-8
  | runtimeError (what : String)
  | systemError (what : String)     -- `std::thread` has started no thread

/-- How an operation ends that does not return. -/
inductive Thrown where
  | std (e : Failure)
  -- it waits for a lock of its own or aborts the process, or nothing is known of what it does
  | lost

/-! ### The state -/

/-- A `MyCall` with what it was created from. -/
structure SipCall where
  endpointKey : Text
  websocketURL : String
  webhookURL : String
  trunkName : String
  sampleRate : Int
  directCall : Bool

structure SimulatedCall where
  websocketURL : String
  webhookURL : String
  trunkName : String
  sampleRate : Int
  /-- Its thread has ended it. -/
  terminated : Bool

/-- The `CallManager`. Of `endpoints` it has the keys of those that are initialized. -/
structure Manager where
  currentCalls : Int
  activeCalls : String → Option SipCall
  simulatedCalls : String → Option SimulatedCall
  initialized : Text → Bool

inductive Body where
  | text (s : String)
  | error (message : String) (e : Failure)
  | json (members : List Member)

structure Response where
  code : ℕ
  body : Body

/-- The manager while a request is handled, whether its handler has the lock, and what was sent. -/
structure Session where
  manager : Manager
  locked : Bool
  responses : List Response

abbrev Handler := EStateM Thrown Session

/-- What the handler calls gives or does. -/
structure World where
  registerThread : Except Failure Unit
  generateCallId : String
  start : Except Failure Bool      -- of a `SimulatedCall`
  makeCall : Bool                  -- it returns; otherwise it throws a `pj::Error`
  thread : Except Failure Unit     -- the constructor of `std::thread`

/-- `std::getenv`, where a byte that is not UTF-8 is no character. -/
abbrev RawEnv := String → Option Text

def RawEnv.env (raw : RawEnv) : Env := fun name => (raw name).map Text.decode

/-- `CallManager::getEnvString`. -/
def RawEnv.getEnvString (raw : RawEnv) (name defaultValue : String) : Text :=
  match raw name with
  | some value => if value ≠ [] then value else Text.ofString defaultValue
  | none       => Text.ofString defaultValue

variable {α β : Type} {ofDouble : Number → Int} {raw : RawEnv} {w : World} {s s' : Session}
  {m m' : Manager} {p : CallParams} {body : Option Json} {id : String} {e : Failure}

/-! ### The pieces -/

/-- `catch (const std::exception& e)`. -/
def catchStd (x : Handler Unit) (handler : Failure → Handler Unit) : Handler Unit := fun s =>
  match x s with
  | .ok a s'            => .ok a s'
  | .error (.std e) s'  => handler e s'
  | .error .lost s'     => .error .lost s'

/-- The scope of a `std::lock_guard` on `calls_mutex`. -/
def lockGuard (x : Handler α) : Handler α := fun s =>
  if s.locked then .error .lost s
  else
    match x { s with locked := true } with
    | .ok a s'           => .ok a { s' with locked := false }
    | .error (.std e) s' => .error (.std e) { s' with locked := false }
    | .error .lost s'    => .error .lost s'

/-- What throws a `std::exception` or gives a value, and changes nothing. -/
def throwing (x : Except Failure α) : Handler α := fun s =>
  match x with
  | .ok a    => .ok a s
  | .error e => .error (.std e) s

def setting (x : Except String Int) : Except Failure Int := x.mapError fun _ => .read .stoi

/-- `response.send`. -/
def send (code : ℕ) (body : Body) : Handler Unit :=
  modify fun s => { s with responses := s.responses ++ [⟨code, body⟩] }

def update (f : Manager → Manager) : Handler Unit :=
  modify fun s => { s with manager := f s.manager }

def Manager.count (m : Manager) (n : Int) : Manager := { m with currentCalls := m.currentCalls + n }

def Manager.setActive (m : Manager) (id : String) (call : Option SipCall) : Manager :=
  { m with activeCalls := Function.update m.activeCalls id call }

def Manager.setSimulated (m : Manager) (id : String) (sim : Option SimulatedCall) : Manager :=
  { m with simulatedCalls := Function.update m.simulatedCalls id sim }

def decrementCallCounter : Handler Unit := lockGuard (update fun m => m.count (-1))

/-- The destructor. It terminates the call; one that has ended by itself has a thread that nobody
has joined, and this aborts the process. -/
def SimulatedCall.destroy (sim : SimulatedCall) : Handler Unit :=
  if sim.terminated then throw .lost else decrementCallCounter

/-- `response_body.dump()`, of strings and numbers. -/
def dump (members : List Member) : Except Failure Body :=
  if members.all fun m => match m.2 with
    | .string text => text.wellFormed
    | _            => true
  then .ok (.json members) else .error .typeError316

/-! ### The handlers -/

/-- The parse of the body and the reads of `initiateCall`; a body that is no JSON is `none`. -/
def readBody (ofDouble : Number → Int) (env : Env) : Option Json → Except Failure CallParams
  | none                   => .error (.read .parseError)
  | some (.object members) => (readParams ofDouble env members).mapError .read
  | some .null             => (readParams ofDouble env []).mapError .read
  | some v                 =>
    if v.readable then .error (.typeError305 v.typeName) else .error (.read .parseError)

def simulatedReply (id : String) (p : CallParams) : List Member :=
  [(Text.ofString "status", .string (Text.ofString "success")),
    (Text.ofString "call_id", .string (Text.ofString id)),
    (Text.ofString "message", .string (Text.ofString "Simulated call initiated")),
    (Text.ofString "sample_rate", .number (.integer p.sampleRate)),
    (Text.ofString "webhook_url", .string (Text.ofString p.webhookURL))]

/-- The scope of the lock for a simulated call. The assignment destroys what was stored under the
identifier. -/
def storeSimulated (id : String) (sim : SimulatedCall) : Handler Unit := lockGuard do
  let old := (← get).manager.simulatedCalls id
  update fun m => m.setSimulated id (some sim)
  match old with
  | some sim => sim.destroy
  | none     => pure ()
  update fun m => m.count 1

/-- `initiateCall` for the trunk `tata_byebye`. -/
def simulatedCall (w : World) (p : CallParams) : Handler Unit := do
  let sim : SimulatedCall := ⟨p.websocketURL, p.webhookURL, p.trunkName, p.sampleRate, false⟩
  match w.start with
  | .error e  =>
    sim.destroy
    throw (.std e)
  | .ok false =>
    send 500 (.text "Failed to start simulated call")
    sim.destroy
  | .ok true  =>
    storeSimulated w.generateCallId sim
    let reply ← throwing (dump (simulatedReply w.generateCallId p))
    send 200 reply

def endpointKey (raw : RawEnv) : Text :=
  raw.getEnvString "SIP_USERNAME" "india_media" ++ Text.ofString "@" ++
    raw.getEnvString "ASTERISK_IP" "100.28.249.26"

def containerId (raw : RawEnv) (httpPort : Int) : Text :=
  raw.getEnvString "SIP_USERNAME" "india_media" ++ Text.ofString "-" ++
    raw.getEnvString "PUBLIC_IP" "3.108.51.244" ++ Text.ofString ("-" ++ toString httpPort)

def rtpRange (raw : RawEnv) : Text :=
  raw.getEnvString "RTP_PORT_START" "4000" ++ Text.ofString "-" ++
    raw.getEnvString "RTP_PORT_END" "4999"

def sipReply (raw : RawEnv) (httpPort : Int) (id : String) (p : CallParams) : List Member :=
  [(Text.ofString "status", .string (Text.ofString "success")),
    (Text.ofString "call_id", .string (Text.ofString id)),
    (Text.ofString "message", .string (Text.ofString "Call initiated with direct RTP")),
    (Text.ofString "rtp_range", .string (rtpRange raw)),
    (Text.ofString "container_id", .string (containerId raw httpPort)),
    (Text.ofString "sample_rate", .number (.integer p.sampleRate)),
    (Text.ofString "webhook_url", .string (Text.ofString p.webhookURL))]

def newCall (raw : RawEnv) (p : CallParams) : SipCall :=
  ⟨endpointKey raw, p.websocketURL, p.webhookURL, p.trunkName, p.sampleRate,
    decide ("rupture".toList <:+: p.websocketURL.toList)⟩

/-- The scope of the lock in `initiateCall`; false when it has returned from the handler. -/
def placeCall (raw : RawEnv) (w : World) (p : CallParams) : Handler Bool := lockGuard do
  if (← get).manager.initialized (endpointKey raw) then
    if w.makeCall then
      update fun m => m.setActive w.generateCallId (some (newCall raw p))
      update fun m => m.count 1
      pure true
    else pure false
  else throw (.std (.runtimeError "Asterisk endpoint not initialized"))

/-- `initiateCall` for the other trunks. -/
def sipCall (raw : RawEnv) (w : World) (p : CallParams) : Handler Unit := do
  let httpPort ← throwing (setting (getEnvInt raw.env "HTTP_PORT" 8086))
  if ← placeCall raw w p then
    let reply ← throwing (dump (sipReply raw httpPort w.generateCallId p))
    send 200 reply
  else pure ()

/-- What `initiateCall` tries. -/
def tryCall (ofDouble : Number → Int) (raw : RawEnv) (w : World) (body : Option Json) :
    Handler Unit := do
  let maxCalls ← throwing (setting (getEnvInt raw.env "MAX_CONCURRENT_CALLS" 25))
  if (← get).manager.currentCalls ≥ maxCalls then
    send 503 (.text "Maximum concurrent calls reached")
  else
    let p ← throwing (readBody ofDouble raw.env body)
    match p.validate with
    | .badRequest message => send 400 (.text message)
    | _                   =>
      if p.trunkName = "tata_byebye" then simulatedCall w p else sipCall raw w p

def initiateCall (ofDouble : Number → Int) (raw : RawEnv) (w : World) (body : Option Json) :
    Handler Unit :=
  catchStd (tryCall ofDouble raw w body) fun e => send 500 (.error "Error initiating call: " e)

/-- `std::thread(..).detach()`. A thread that is not started destroys what it was to own. -/
def startThread (w : World) (destroy : Handler Unit) : Handler Unit :=
  match w.thread with
  | .ok _    => pure ()
  | .error e => do
    destroy
    throw (.std e)

/-- The scope of the first lock in `endCall`; true when it has returned from the handler. -/
def endSimulated (w : World) (id : String) : Handler Bool := lockGuard do
  match (← get).manager.simulatedCalls id with
  | some sim =>
    update fun m => m.setSimulated id none
    send 200 (.text "Call end initiated")
    startThread w sim.destroy
    pure true
  | none     => pure false

/-- The scope of the second lock; false when it has returned from the handler. -/
def takeActive (id : String) : Handler Bool := lockGuard do
  match (← get).manager.activeCalls id with
  | some _ =>
    update fun m => m.setActive id none
    pure true
  | none   =>
    send 404 (.text "Call not found")
    pure false

/-- What `endCall` tries. -/
def tryEnd (w : World) (id : String) : Handler Unit := do
  if ← endSimulated w id then pure ()
  else if ← takeActive id then
    send 200 (.text "Call end initiated")
    startThread w (pure ())
  else pure ()

def endCall (w : World) (id : String) : Handler Unit :=
  catchStd (tryEnd w id) fun e => send 500 (.error "Error ending call: " e)

/-- `handleRequest`. It has given its writer away when it answers what leaves the handler. -/
def handleRequest (w : World) (handler : Handler Unit) : Handler Unit := fun s =>
  match w.registerThread with
  | .error e => send 500 (.error "Internal error: " e) s
  | .ok _    =>
    match handler s with
    | .error (.std _) s' => .error .lost s'
    | r                  => r

/-- What has come of a request. -/
structure Handled where
  manager : Manager
  responses : List Response
  returned : Bool

def handle (w : World) (handler : Handler Unit) (m : Manager) : Handled :=
  match handleRequest w handler ⟨m, false, []⟩ with
  | .ok _ s    => ⟨s.manager, s.responses, true⟩
  | .error _ s => ⟨s.manager, s.responses, false⟩

/-! ### What should come of a request -/

/-- The request has placed a call. -/
structure Placed (id : String) (m m' : Manager) : Prop where
  stored : (m'.activeCalls id).isSome ∨ (m'.simulatedCalls id).isSome
  counted : m'.currentCalls = m.currentCalls + 1

def Handled.Ok (h : Handled) : Prop := ∃ r ∈ h.responses, r.code = 200

/-- One response, and it is 200 when the call is placed. -/
structure Handled.Proper (id : String) (m : Manager) (h : Handled) : Prop where
  one : h.responses.length = 1
  ok : h.Ok ↔ Placed id m h.manager

/-- The request gets to the trunks with what it asks for. -/
structure Admitted (ofDouble : Number → Int) (raw : RawEnv) (w : World) (body : Option Json)
    (m : Manager) (p : CallParams) : Prop where
  registered : w.registerThread = .ok ()
  below : ∃ maxCalls, getEnvInt raw.env "MAX_CONCURRENT_CALLS" 25 = .ok maxCalls ∧
    m.currentCalls < maxCalls
  read : readBody ofDouble raw.env body = .ok p
  valid : p.validate = .accepted p

/-- It gets to `makeCall`. -/
structure Dials (ofDouble : Number → Int) (raw : RawEnv) (w : World) (body : Option Json)
    (m : Manager) (p : CallParams) : Prop extends Admitted ofDouble raw w body m p where
  trunk : p.trunkName ≠ "tata_byebye"
  port : ∃ httpPort, getEnvInt raw.env "HTTP_PORT" 8086 = .ok httpPort
  endpoint : m.initialized (endpointKey raw) = true

/-- It gets to store a simulated call. -/
structure Simulates (ofDouble : Number → Int) (raw : RawEnv) (w : World) (body : Option Json)
    (m : Manager) (p : CallParams) : Prop extends Admitted ofDouble raw w body m p where
  trunk : p.trunkName = "tata_byebye"
  started : w.start = .ok true

/-- The settings that are dumped are UTF-8. -/
structure RawEnv.Dumps (raw : RawEnv) : Prop where
  username : (raw.getEnvString "SIP_USERNAME" "india_media").wellFormed = true
  publicIp : (raw.getEnvString "PUBLIC_IP" "3.108.51.244").wellFormed = true
  portStart : (raw.getEnvString "RTP_PORT_START" "4000").wellFormed = true
  portEnd : (raw.getEnvString "RTP_PORT_END" "4999").wellFormed = true

/-! ### Handling -/

/-- What the state at the end of a handler's `try` block makes of a request. -/
def settle (message : String) : EStateM.Result Thrown Session Unit → Handled
  | .ok _ s            => ⟨s.manager, s.responses, true⟩
  | .error (.std e) s  => ⟨s.manager, s.responses ++ [⟨500, .error message e⟩], true⟩
  | .error .lost s     => ⟨s.manager, s.responses, false⟩

/-- Nothing is left for `handleRequest` to catch. -/
lemma handle_catchStd (message : String) (x : Handler Unit) (h : w.registerThread = .ok ()) :
    handle w (catchStd x fun e => send 500 (.error message e)) m =
      settle message (x ⟨m, false, []⟩) := by
  simp only [handle, handleRequest, h, catchStd]
  rcases x ⟨m, false, []⟩ with ⟨a, s⟩ | ⟨_ | _, s⟩ <;> rfl

lemma handle_unregistered (handler : Handler Unit) (h : w.registerThread = .error e) :
    handle w handler m = ⟨m, [⟨500, .error "Internal error: " e⟩], true⟩ := by
  simp only [handle, handleRequest, h]
  rfl

/-- A refusal: one response, it is not 200, and nothing is counted. -/
structure Handled.Refused (m : Manager) (h : Handled) : Prop where
  response : ∃ r, h.responses = [r] ∧ r.code ≠ 200
  counted : h.manager.currentCalls ≤ m.currentCalls

lemma Handled.Refused.proper {h : Handled} (hrefused : h.Refused m) : h.Proper id m := by
  obtain ⟨⟨r, hr, hcode⟩, hcount⟩ := hrefused
  refine ⟨by rw [hr, List.length_singleton], ?_⟩
  constructor
  · rintro ⟨r', hmem, hok⟩
    rw [hr, List.mem_singleton] at hmem
    exact absurd (hmem ▸ hok) hcode
  · intro hplaced
    have hcounted := hplaced.counted
    omega

lemma refused_of_code {code : ℕ} {body : Body} {returned : Bool} (h : code ≠ 200) :
    Handled.Refused m ⟨m, [⟨code, body⟩], returned⟩ :=
  ⟨⟨_, rfl, h⟩, Int.le_refl _⟩

lemma Handled.proper_of_placed {body : Body} {returned : Bool} (h : Placed id m m') :
    Handled.Proper id m ⟨m', [⟨200, body⟩], returned⟩ := by
  refine ⟨rfl, ?_⟩
  constructor
  · exact fun _ => h
  · exact fun _ => ⟨⟨200, body⟩, List.mem_singleton_self _, rfl⟩

lemma throwing_bind_ok {x : Except Failure α} {a : α} (h : x = .ok a) (f : α → Handler β)
    (s : Session) : (throwing x >>= f) s = f a s := by
  subst h
  rfl

lemma throwing_bind_error {x : Except Failure α} (h : x = .error e) (f : α → Handler β)
    (s : Session) : (throwing x >>= f) s = .error (.std e) s := by
  subst h
  rfl

lemma setting_ok {x : Except String Int} {v : Int} (h : x = .ok v) : setting x = .ok v := by
  subst h
  rfl

lemma setting_error {x : Except String Int} {t : String} (h : x = .error t) :
    setting x = .error (.read .stoi) := by
  subst h
  rfl

lemma validate_cases (p : CallParams) :
    p.validate = .accepted p ∨ ∃ message, p.validate = .badRequest message := by
  by_cases hvalid : p.valid = true
  · by_cases hrate : p.validRate = true
    · exact .inl (by simp [CallParams.validate, hvalid, hrate])
    · exact .inr ⟨"Invalid sample rate. Must be 8000 or 16000", by
        simp [CallParams.validate, hvalid, hrate]⟩
  · exact .inr ⟨"Invalid or missing parameters", by simp [CallParams.validate, hvalid]⟩

/-- A request that is not admitted is refused. -/
lemma refused_of_not_admitted (h : ∀ p, ¬Admitted ofDouble raw w body m p) :
    (handle w (initiateCall ofDouble raw w body) m).Refused m := by
  cases hreg : w.registerThread with
  | error e =>
    rw [handle_unregistered _ hreg]
    exact refused_of_code (by decide)
  | ok _ =>
    rw [initiateCall, handle_catchStd _ _ hreg, tryCall]
    cases hmax : getEnvInt raw.env "MAX_CONCURRENT_CALLS" 25 with
    | error t =>
      rw [throwing_bind_error (setting_error rfl)]
      exact refused_of_code (by decide)
    | ok maxCalls =>
      rw [throwing_bind_ok (setting_ok rfl), get_bind_apply]
      split_ifs with hfull
      · exact refused_of_code (by decide)
      cases hread : readBody ofDouble raw.env body with
      | error e =>
        rw [throwing_bind_error rfl]
        exact refused_of_code (by decide)
      | ok p =>
        rw [throwing_bind_ok rfl]
        rcases validate_cases p with hvalid | ⟨message, hvalid⟩
        · exact absurd ⟨hreg, ⟨maxCalls, hmax, Int.not_le.mp hfull⟩, hread, hvalid⟩ (h p)
        · rw [hvalid]
          exact refused_of_code (by decide)

lemma tryCall_admitted (h : Admitted ofDouble raw w body m p) :
    tryCall ofDouble raw w body ⟨m, false, []⟩ =
      if p.trunkName = "tata_byebye" then simulatedCall w p ⟨m, false, []⟩
      else sipCall raw w p ⟨m, false, []⟩ := by
  obtain ⟨-, ⟨maxCalls, hmax, hlt⟩, hread, hvalid⟩ := h
  rw [tryCall, throwing_bind_ok (setting_ok hmax), get_bind_apply, if_neg (Int.not_le.mpr hlt),
    throwing_bind_ok hread, hvalid]
  split_ifs <;> rfl

/-- It is settled by what the trunk makes of it. -/
lemma handle_admitted (h : Admitted ofDouble raw w body m p) :
    handle w (initiateCall ofDouble raw w body) m = settle "Error initiating call: "
      (if p.trunkName = "tata_byebye" then simulatedCall w p ⟨m, false, []⟩
        else sipCall raw w p ⟨m, false, []⟩) := by
  rw [initiateCall, handle_catchStd _ _ h.registered, tryCall_admitted h]

/-! ### Simulated calls -/

lemma dump_simulatedReply (id : String) (p : CallParams) :
    dump (simulatedReply id p) = .ok (.json (simulatedReply id p)) := by
  simp [dump, simulatedReply]

/-- One that does not start is refused, and its destructor counts it off. -/
lemma simulatedCall_refused (h : w.start ≠ .ok true) (message : String) :
    (settle message (simulatedCall w p ⟨m, false, []⟩)).Refused m := by
  have hcount : m.currentCalls + (-1) ≤ m.currentCalls := by omega
  rw [simulatedCall]
  cases hstart : w.start with
  | error e => exact ⟨⟨_, rfl, by simp⟩, hcount⟩
  | ok started =>
    cases started with
    | true => exact absurd hstart h
    | false => exact ⟨⟨_, rfl, by simp⟩, hcount⟩

lemma storeSimulated_new {responses : List Response} (h : m.simulatedCalls id = none)
    (sim : SimulatedCall) : storeSimulated id sim ⟨m, false, responses⟩ =
      .ok () ⟨(m.setSimulated id (some sim)).count 1, false, responses⟩ := by
  simp only [storeSimulated, lockGuard, get_bind_apply, h]
  rfl

/-- A simulated call is not destroyed under the lock. -/
lemma destroy_locked {responses : List Response} (sim : SimulatedCall) :
    sim.destroy ⟨m, true, responses⟩ = .error .lost ⟨m, true, responses⟩ := by
  rw [SimulatedCall.destroy]
  split_ifs <;> rfl

/-- The thread that stores a call in the place of another one destroys that one under the lock. -/
lemma storeSimulated_lost {responses : List Response} (h : (m.simulatedCalls id).isSome)
    (sim : SimulatedCall) : ∃ m', storeSimulated id sim ⟨m, false, responses⟩ =
      .error .lost ⟨m', true, responses⟩ := by
  obtain ⟨old, hold⟩ := Option.isSome_iff_exists.mp h
  refine ⟨m.setSimulated id (some sim), ?_⟩
  have hdestroy := @destroy_locked (m.setSimulated id (some sim)) responses old
  simp only [storeSimulated, lockGuard, get_bind_apply, hold]
  rw [update, modify_bind_apply, bind_of_error hdestroy]
  rfl

/-- One that starts is placed, if its identifier is new. -/
lemma simulatedCall_placed (h : w.start = .ok true)
    (hnew : m.simulatedCalls w.generateCallId = none)
    (message : String) : ∃ m' reply, Placed w.generateCallId m m' ∧
      settle message (simulatedCall w p ⟨m, false, []⟩) = ⟨m', [⟨200, reply⟩], true⟩ := by
  let sim : SimulatedCall := ⟨p.websocketURL, p.webhookURL, p.trunkName, p.sampleRate, false⟩
  refine ⟨(m.setSimulated w.generateCallId (some sim)).count 1,
    .json (simulatedReply w.generateCallId p), ⟨.inr ?_, rfl⟩, ?_⟩
  · simp [Manager.count, Manager.setSimulated]
  · rw [simulatedCall, h]
    simp only []
    rw [bind_of_ok (storeSimulated_new hnew sim), throwing_bind_ok (dump_simulatedReply _ _)]
    rfl

/-- Otherwise nothing is sent. -/
lemma simulatedCall_lost (h : w.start = .ok true)
    (hold : (m.simulatedCalls w.generateCallId).isSome)
    (message : String) : (settle message (simulatedCall w p ⟨m, false, []⟩)).responses = [] := by
  rw [simulatedCall, h]
  obtain ⟨m', hlost⟩ := @storeSimulated_lost m w.generateCallId [] hold
    ⟨p.websocketURL, p.webhookURL, p.trunkName, p.sampleRate, false⟩
  simp only []
  rw [bind_of_error hlost]
  rfl

/-! ### Calls through Asterisk -/

lemma wellFormed_append (x y : Text) : (x ++ y).wellFormed = (x.wellFormed && y.wellFormed) :=
  List.all_append

/-- The settings decide whether the reply is dumped. -/
lemma dump_sipReply (httpPort : Int) (h : raw.Dumps) :
    dump (sipReply raw httpPort id p) = .ok (.json (sipReply raw httpPort id p)) := by
  obtain ⟨husername, hpublicIp, hportStart, hportEnd⟩ := h
  simp [dump, sipReply, rtpRange, containerId, wellFormed_append, husername, hpublicIp, hportStart,
    hportEnd]

lemma dump_sipReply_error (httpPort : Int) (h : ¬raw.Dumps) :
    dump (sipReply raw httpPort id p) = .error .typeError316 := by
  rw [dump, if_neg]
  intro hall
  simp only [sipReply, rtpRange, containerId, wellFormed_append, List.all_cons, List.all_nil,
    Text.wellFormed_ofString, Bool.and_true, Bool.true_and, Bool.and_eq_true] at hall
  obtain ⟨⟨hportStart, hportEnd⟩, husername, hpublicIp⟩ := hall
  exact h ⟨husername, hpublicIp, hportStart, hportEnd⟩

lemma placeCall_uninitialized (h : m.initialized (endpointKey raw) = false) :
    placeCall raw w p ⟨m, false, []⟩ =
      .error (.std (.runtimeError "Asterisk endpoint not initialized")) ⟨m, false, []⟩ := by
  simp only [placeCall, lockGuard, get_bind_apply, h]
  rfl

lemma placeCall_failed (h : m.initialized (endpointKey raw) = true) (hcall : w.makeCall = false) :
    placeCall raw w p ⟨m, false, []⟩ = .ok false ⟨m, false, []⟩ := by
  simp only [placeCall, lockGuard, get_bind_apply, h, hcall]
  rfl

lemma placeCall_placed (h : m.initialized (endpointKey raw) = true) (hcall : w.makeCall = true) :
    ∃ m', Placed w.generateCallId m m' ∧
      placeCall raw w p ⟨m, false, []⟩ = .ok true ⟨m', false, []⟩ := by
  refine ⟨(m.setActive w.generateCallId (some (newCall raw p))).count 1, ⟨.inl ?_, rfl⟩, ?_⟩
  · simp [Manager.count, Manager.setActive]
  · simp only [placeCall, lockGuard, get_bind_apply, h, hcall, if_true]
    rfl

/-- What is not dialled is refused. -/
lemma sipCall_refused (h : ¬((∃ httpPort, getEnvInt raw.env "HTTP_PORT" 8086 = .ok httpPort) ∧
    m.initialized (endpointKey raw) = true)) (message : String) :
    (settle message (sipCall raw w p ⟨m, false, []⟩)).Refused m := by
  rw [sipCall]
  cases hport : getEnvInt raw.env "HTTP_PORT" 8086 with
  | error t =>
    rw [throwing_bind_error (setting_error rfl)]
    exact refused_of_code (by decide)
  | ok httpPort =>
    have hkey : m.initialized (endpointKey raw) = false := by
      rw [← Bool.not_eq_true]
      exact fun hkey => h ⟨⟨httpPort, hport⟩, hkey⟩
    rw [throwing_bind_ok (setting_ok rfl), bind_of_error (placeCall_uninitialized hkey)]
    exact refused_of_code (by decide)

lemma sipCall_failed (h : Dials ofDouble raw w body m p) (hcall : w.makeCall = false)
    (message : String) : (settle message (sipCall raw w p ⟨m, false, []⟩)).responses = [] := by
  obtain ⟨httpPort, hport⟩ := h.port
  rw [sipCall, throwing_bind_ok (setting_ok hport), bind_of_ok (placeCall_failed h.endpoint hcall)]
  rfl

/-- When `makeCall` returns, the call is placed, and only the reply is left. -/
lemma sipCall_called (h : Dials ofDouble raw w body m p) (hcall : w.makeCall = true) :
    ∃ m' httpPort, Placed w.generateCallId m m' ∧ sipCall raw w p ⟨m, false, []⟩ =
      (throwing (dump (sipReply raw httpPort w.generateCallId p)) >>= send 200)
        ⟨m', false, []⟩ := by
  obtain ⟨httpPort, hport⟩ := h.port
  obtain ⟨m', hplaced, hcalled⟩ := placeCall_placed (p := p) h.endpoint hcall
  refine ⟨m', httpPort, hplaced, ?_⟩
  rw [sipCall, throwing_bind_ok (setting_ok hport), bind_of_ok hcalled]
  rfl

lemma sipCall_placed (h : Dials ofDouble raw w body m p) (hcall : w.makeCall = true)
    (hdump : raw.Dumps) (message : String) : ∃ m' reply, Placed w.generateCallId m m' ∧
      settle message (sipCall raw w p ⟨m, false, []⟩) = ⟨m', [⟨200, reply⟩], true⟩ := by
  obtain ⟨m', httpPort, hplaced, hreply⟩ := sipCall_called h hcall
  refine ⟨m', .json (sipReply raw httpPort w.generateCallId p), hplaced, ?_⟩
  rw [hreply, throwing_bind_ok (dump_sipReply httpPort hdump)]
  rfl

/-- The call is placed, and the reply is the one of a failure. -/
lemma sipCall_unanswered (h : Dials ofDouble raw w body m p) (hcall : w.makeCall = true)
    (hdump : ¬raw.Dumps) (message : String) : ∃ m' reply, Placed w.generateCallId m m' ∧
      settle message (sipCall raw w p ⟨m, false, []⟩) = ⟨m', [⟨500, reply⟩], true⟩ := by
  obtain ⟨m', httpPort, hplaced, hreply⟩ := sipCall_called h hcall
  refine ⟨m', .error message .typeError316, hplaced, ?_⟩
  rw [hreply, throwing_bind_error (dump_sipReply_error httpPort hdump)]
  rfl

/-! ### Ending a call -/

lemma endSimulated_none (h : m.simulatedCalls id = none) :
    endSimulated w id ⟨m, false, []⟩ = .ok false ⟨m, false, []⟩ := by
  simp only [endSimulated, lockGuard, get_bind_apply, h]
  rfl

lemma startThread_lost (h : w.thread = .error e) {responses : List Response} (sim : SimulatedCall) :
    startThread w sim.destroy ⟨m, true, responses⟩ = .error .lost ⟨m, true, responses⟩ := by
  rw [startThread, h]
  exact bind_of_error (destroy_locked sim)

/-- A simulated call that is found is answered once, though the thread does not go on when there is
no other to end the call. -/
lemma endSimulated_some (h : (m.simulatedCalls id).isSome) (message : String) :
    ∃ m' reply returned,
      settle message (tryEnd w id ⟨m, false, []⟩) = ⟨m', [⟨200, reply⟩], returned⟩ := by
  obtain ⟨sim, hsim⟩ := Option.isSome_iff_exists.mp h
  cases hthread : w.thread with
  | ok _ =>
    have hend : endSimulated w id ⟨m, false, []⟩ = .ok true
        ⟨m.setSimulated id none, false, [⟨200, .text "Call end initiated"⟩]⟩ := by
      simp only [endSimulated, lockGuard, get_bind_apply, hsim, startThread, hthread]
      rfl
    refine ⟨m.setSimulated id none, .text "Call end initiated", true, ?_⟩
    rw [tryEnd, bind_of_ok hend]
    rfl
  | error e =>
    have hstart := @startThread_lost w (m.setSimulated id none) e hthread
      [⟨200, .text "Call end initiated"⟩] sim
    have hend : endSimulated w id ⟨m, false, []⟩ = .error .lost
        ⟨m.setSimulated id none, true, [⟨200, .text "Call end initiated"⟩]⟩ := by
      simp only [endSimulated, lockGuard, get_bind_apply, hsim]
      rw [update, modify_bind_apply, send, modify_bind_apply]
      dsimp only [List.nil_append]
      rw [bind_of_error hstart]
      rfl
    refine ⟨m.setSimulated id none, .text "Call end initiated", false, ?_⟩
    rw [tryEnd, bind_of_error hend]
    rfl

lemma takeActive_none (h : m.activeCalls id = none) : takeActive id ⟨m, false, []⟩ =
    .ok false ⟨m, false, [⟨404, .text "Call not found"⟩]⟩ := by
  simp only [takeActive, lockGuard, get_bind_apply, h]
  rfl

lemma takeActive_some (h : (m.activeCalls id).isSome) :
    takeActive id ⟨m, false, []⟩ = .ok true ⟨m.setActive id none, false, []⟩ := by
  obtain ⟨call, hcall⟩ := Option.isSome_iff_exists.mp h
  simp only [takeActive, lockGuard, get_bind_apply, hcall]
  rfl

lemma tryEnd_absent (hsim : m.simulatedCalls id = none) (hcall : m.activeCalls id = none) :
    tryEnd w id ⟨m, false, []⟩ = .ok () ⟨m, false, [⟨404, .text "Call not found"⟩]⟩ := by
  rw [tryEnd, bind_of_ok (endSimulated_none hsim)]
  simp only [Bool.false_eq_true, if_false]
  rw [bind_of_ok (takeActive_none hcall)]
  rfl

/-- A call is answered before there is a thread to end it. -/
lemma tryEnd_active (hsim : m.simulatedCalls id = none) (hcall : (m.activeCalls id).isSome) :
    tryEnd w id ⟨m, false, []⟩ = startThread w (pure ())
      ⟨m.setActive id none, false, [⟨200, .text "Call end initiated"⟩]⟩ := by
  rw [tryEnd, bind_of_ok (endSimulated_none hsim)]
  simp only [Bool.false_eq_true, if_false]
  rw [bind_of_ok (takeActive_some hcall)]
  rfl

/-! ### One response -/

/-- `initiateCall` sends one response, and 200 for a call that is placed, when `makeCall` does not
throw and the settings in the reply are UTF-8, and no simulated call is stored under the new
identifier. -/
theorem initiateCall_proper_iff (ofDouble : Number → Int) (raw : RawEnv) (w : World)
    (body : Option Json) (m : Manager) :
    (handle w (initiateCall ofDouble raw w body) m).Proper w.generateCallId m ↔
    (∀ p, Dials ofDouble raw w body m p → w.makeCall = true ∧ raw.Dumps) ∧
    (∀ p, Simulates ofDouble raw w body m p → m.simulatedCalls w.generateCallId = none) := by
  constructor
  · intro hproper
    refine ⟨fun p hdials => ?_, fun p hsim => ?_⟩
    · rw [handle_admitted hdials.toAdmitted, if_neg hdials.trunk] at hproper
      cases hcall : w.makeCall with
      | false =>
        have hone := hproper.one
        rw [sipCall_failed hdials hcall] at hone
        cases hone
      | true =>
        refine ⟨rfl, ?_⟩
        by_contra hdump
        obtain ⟨m', reply, hplaced, hsettle⟩ :=
          sipCall_unanswered hdials hcall hdump "Error initiating call: "
        rw [hsettle] at hproper
        obtain ⟨r, hr, hcode⟩ := hproper.ok.mpr hplaced
        rw [List.mem_singleton.mp hr] at hcode
        cases hcode
    · rw [handle_admitted hsim.toAdmitted, if_pos hsim.trunk] at hproper
      by_contra hold
      have hone := hproper.one
      rw [simulatedCall_lost hsim.started (Option.isSome_iff_ne_none.mpr hold)] at hone
      cases hone
  · rintro ⟨hdials, hsims⟩
    by_cases hadmitted : ∃ p, Admitted ofDouble raw w body m p
    · obtain ⟨p, hp⟩ := hadmitted
      rw [handle_admitted hp]
      split_ifs with htrunk
      · by_cases hstart : w.start = .ok true
        · obtain ⟨m', reply, hplaced, hsettle⟩ :=
            simulatedCall_placed (p := p) hstart (hsims p ⟨hp, htrunk, hstart⟩)
              "Error initiating call: "
          rw [hsettle]
          exact Handled.proper_of_placed hplaced
        · exact (simulatedCall_refused hstart _).proper
      · by_cases hready : (∃ httpPort, getEnvInt raw.env "HTTP_PORT" 8086 = .ok httpPort) ∧
            m.initialized (endpointKey raw) = true
        · have hdial : Dials ofDouble raw w body m p := ⟨hp, htrunk, hready.1, hready.2⟩
          obtain ⟨hcall, hdump⟩ := hdials p hdial
          obtain ⟨m', reply, hplaced, hsettle⟩ :=
            sipCall_placed hdial hcall hdump "Error initiating call: "
          rw [hsettle]
          exact Handled.proper_of_placed hplaced
        · exact (sipCall_refused hready _).proper
    · exact (refused_of_not_admitted (not_exists.mp hadmitted)).proper

/-- `endCall` sends one response, unless it has found a call and no thread can be started to end
it. -/
theorem endCall_one_iff (w : World) (id : String) (m : Manager) :
    (handle w (endCall w id) m).responses.length = 1 ↔
    (w.registerThread = .ok () → m.simulatedCalls id = none → (m.activeCalls id).isSome →
      w.thread = .ok ()) := by
  cases hreg : w.registerThread with
  | error e =>
    rw [handle_unregistered _ hreg]
    exact iff_of_true rfl nofun
  | ok _ =>
    rw [endCall, handle_catchStd _ _ hreg]
    cases hsim : m.simulatedCalls id with
    | some sim =>
      obtain ⟨m', reply, returned, hsettle⟩ :=
        endSimulated_some (w := w) (Option.isSome_of_eq_some hsim) "Error ending call: "
      rw [hsettle]
      exact iff_of_true rfl nofun
    | none =>
      cases hcall : m.activeCalls id with
      | none =>
        rw [tryEnd_absent hsim hcall]
        exact iff_of_true rfl nofun
      | some call =>
        rw [tryEnd_active hsim (Option.isSome_of_eq_some hcall)]
        cases hthread : w.thread with
        | ok _ =>
          simp only [startThread, hthread]
          exact iff_of_true rfl fun _ _ _ => trivial
        | error e =>
          have hthrows (s : Session) : startThread w (pure ()) s = .error (.std e) s := by
            rw [startThread, hthread]
            rfl
          rw [hthrows]
          constructor
          · intro hone
            cases hone
          · intro hok
            cases hok rfl rfl rfl

/-- Both requests. -/
theorem responses_iff (ofDouble : Number → Int) (raw : RawEnv) (w : World) (body : Option Json)
    (id : String) (m : Manager) :
    ((handle w (initiateCall ofDouble raw w body) m).Proper w.generateCallId m ↔
      (∀ p, Dials ofDouble raw w body m p → w.makeCall = true ∧ raw.Dumps) ∧
      (∀ p, Simulates ofDouble raw w body m p → m.simulatedCalls w.generateCallId = none)) ∧
    ((handle w (endCall w id) m).responses.length = 1 ↔
      (w.registerThread = .ok () → m.simulatedCalls id = none → (m.activeCalls id).isSome →
        w.thread = .ok ())) :=
  ⟨initiateCall_proper_iff ofDouble raw w body m, endCall_one_iff w id m⟩

def sampleBody : Json := .object
  [(Text.ofString "phone_number", .string (Text.ofString "919484952308")),
    (Text.ofString "websocket_url", .string (Text.ofString "ws://agent")),
    (Text.ofString "webhook_url", .string (Text.ofString "http://hooks")),
    (Text.ofString "trunk_name", .string (Text.ofString "tata"))]

def sampleCall : SipCall :=
  ⟨endpointKey fun _ => none, "ws://agent", "http://hooks", "tata", 8000, false⟩

/-- A manager with its endpoint and one call. -/
def sampleManager : Manager where
  currentCalls := 1
  activeCalls := Function.update (fun _ => none) "a" (some sampleCall)
  simulatedCalls := fun _ => none
  initialized := fun _ => true

/-- `makeCall` throws, and nothing is sent; no thread is started, and two responses are. -/
theorem silence_and_two_responses :
    (handle ⟨.ok (), "b", .ok true, false, .ok ()⟩ (initiateCall (fun _ => 0) (fun _ => none)
      ⟨.ok (), "b", .ok true, false, .ok ()⟩ (some sampleBody))
        sampleManager).responses.length = 0 ∧
    (handle ⟨.ok (), "b", .ok true, true, .error (.systemError "")⟩ (endCall
      ⟨.ok (), "b", .ok true, true, .error (.systemError "")⟩ "a") sampleManager).responses.map
        (fun r => r.code) = [200, 500] := by
  decide +kernel

end MediaServer.CallRequests
