import SipForward.MediaServer.MessageHandler

/-!
# Transfers that fail

The thread of a transfer clears the queue, rings in a human transfer, closes the old socket, sets
the fields of the new session and connects. It can end early: by an exception anywhere before the
connection, by a URI in which it finds no call id, or by a connection that is not established.
-/

namespace MediaServer.Transfers

open Core
open MediaPort (RingingAudioProvider)

/-! ### The session -/

/-- The handler, as far as a transfer reads and changes it. -/
structure Session extends Messages.Session where
  sampleRate : Int
  wsUri : String
  currentAgentId : String
  sequenceNumber : ℕ
  streamId : String
  ringingProvider : RingingAudioProvider

/-- The two transfers to another WebSocket. -/
inductive Transfer where
  | agent (newAgentId : String)
  | human (humanId : String)
deriving DecidableEq

/-- How `connect` fares, once the thread before it is joined. -/
inductive Connection where
  | notCreated
  | timedOut
  | opened
deriving DecidableEq

/-- Where an exception can be thrown: as the queue is cleared, as the tone of a human transfer is
loaded, as the new URI is built, and as each of the fields of the new session is set. `connect`
catches its own. -/
inductive Place where
  | clear
  | ring
  | uri
  | wsUri
  | agentId
  | streamId
deriving DecidableEq

/-- What the thread meets: the environment, the samples of the files, the connection, the time at
which the stream id is drawn, and an exception. -/
structure Outside where
  env : Env
  files : String → Option (List Int16)
  connection : Connection
  now : String
  fault : Option Place

/-- The file of the ringback tone for a sample rate. -/
def ringingFile (sampleRate : Int) : Option String :=
  if sampleRate = 8000 then some "assets/queue_music_8k.wav"
  else if sampleRate = 16000 then some "assets/queue_music_16k.wav"
  else none

/-- The samples of the tone, if the file is there. -/
def Outside.ringing (o : Outside) (sampleRate : Int) : Option (List Int16) :=
  (ringingFile sampleRate).bind o.files

/-- The provider with the samples of a file. -/
def load (p : RingingAudioProvider) (samples : List Int16) : RingingAudioProvider :=
  if h : samples = [] then
    { p with ringingBuffer := [], inRange := fun hne => absurd rfl hne }
  else ⟨samples, 0, true, fun _ => List.length_pos_of_ne_nil h⟩

/-- The file is there and has samples, so that `loadRingingFile` returns true. -/
def Outside.rings (o : Outside) (sampleRate : Int) : Bool :=
  (o.ringing sampleRate).any (· ≠ [])

/-- `startRinging`. -/
def Session.startRinging (o : Outside) (s : Session) : Session :=
  match o.ringing s.sampleRate with
  | none         => s
  | some samples =>
    { s with
      ringingProvider := load s.ringingProvider samples
      ringingActive := s.ringingActive || samples ≠ [] }

/-- `stopRinging`. -/
def Session.stopRinging (s : Session) : Session :=
  { s with toSession := s.toSession.stopRinging }

/-- `clearAudioQueue`. -/
def Session.clearAudioQueue (s : Session) : Session :=
  { s with toSession := s.toSession.clearAudioQueue }

/-- `disconnect_callback`, if there is one. -/
def Session.disconnect (s : Session) : Session :=
  { s with toSession := s.toSession.disconnect }

def Session.connected (s : Session) : Bool := s.playback.connected

def Session.setConnected (s : Session) (b : Bool) : Session :=
  { s with playback := { s.playback with connected := b } }

/-- The transfer is over. -/
def Session.endTransfer (s : Session) : Session := { s with agentTransferInProgress := false }

/-! ### The thread -/

/-- The exceptions in the thread: `substr` past the end of the URI, and any other. -/
inductive Exception where
  | outOfRange
  | other
deriving DecidableEq

abbrev Transferring := EStateM Exception Session

def raise (o : Outside) (p : Place) : Transferring PUnit :=
  if o.fault = some p then throw .other else pure ⟨⟩

/-- `connect`. -/
def connect (o : Outside) (uri : String) : Transferring Bool :=
  if uri = "TEST_SIPP_RINGING" then do
    modify (Session.startRinging o)
    modify (Session.setConnected · true)
    pure true
  else
    match o.connection with
    | .notCreated => pure false
    | .timedOut   => do pure (← get).connected
    | .opened     => do
      modify (Session.setConnected · true)
      pure true

/-- From the close of the old socket to the connection to the new server. -/
def moveTo (o : Outside) (uri agentId : String) (realTimeAudio : Bool) (streamPrefix : String) :
    Transferring Bool := do
  modify (Session.setConnected · false)
  raise o .wsUri
  modify fun s =>
    { s with
      wsUri := uri
      playback := { s.playback with
        realTimeAudio := s.playback.realTimeAudio || realTimeAudio } }
  raise o .agentId
  modify fun s => { s with currentAgentId := agentId, sequenceNumber := 0 }
  raise o .streamId
  modify fun s => { s with streamId := streamPrefix ++ o.now }
  connect o uri

/-- What the thread does after `connect`. -/
def finish (connected : Bool) : Transferring Bool :=
  if connected then do
    modify Session.endTransfer
    pure true
  else do
    modify Session.stopRinging
    modify Session.endTransfer
    modify Session.disconnect
    pure false

/-- `performAgentTransfer` from the call id on. -/
def agentMove (o : Outside) (newAgentId : String) : Transferring Bool := do
  let s ← get
  match WebSocket.agentUri s.wsUri s.currentAgentId newAgentId with
  | none     => throw .outOfRange
  | some uri =>
    let connected ← moveTo o uri newAgentId (WebSocket.contains uri "rupture") "MZ"
    finish connected

/-- The thread of `performAgentTransfer`, inside its `try`; the value tells whether it has
connected. -/
def agentTransfer (o : Outside) (newAgentId : String) : Transferring Bool := do
  raise o .clear
  modify Session.clearAudioQueue
  raise o .uri
  agentMove o newAgentId

/-- `performHumanTransfer` from the call id on. -/
def humanMove (o : Outside) (humanId : String) : Transferring Bool := do
  let s ← get
  match WebSocket.humanUri o.env s.wsUri s.sampleRate with
  | none     => do
    modify Session.endTransfer
    pure false
  | some uri =>
    let connected ← moveTo o uri ("HUMAN_" ++ humanId) true "HT"
    finish connected

/-- The thread of `performHumanTransfer`, inside its `try`. -/
def humanTransfer (o : Outside) (humanId : String) : Transferring Bool := do
  raise o .clear
  modify Session.clearAudioQueue
  raise o .ring
  modify (Session.startRinging o)
  raise o .uri
  humanMove o humanId

/-- The `catch` of both threads. -/
def handleException : Transferring Bool := do
  modify Session.endTransfer
  modify Session.disconnect
  pure false

def transfer (o : Outside) : Transfer → Transferring Bool
  | .agent newAgentId => agentTransfer o newAgentId
  | .human humanId    => humanTransfer o humanId

/-- `performAgentTransfer` and `performHumanTransfer`, to the end of the thread. -/
def perform (o : Outside) (t : Transfer) (s : Session) : Bool × Session :=
  match tryCatch (transfer o t) (fun _ => handleException) s with
  | .ok connected s' => (connected, s')
  | .error _ s'      => (false, s')

/-! ### How a transfer ends -/

variable {o : Outside} {t : Transfer} {s s' : Session} {newUri agentId streamPrefix : String}
  {realTimeAudio : Bool}

/-- The URI of the new server, if it can be built from that of the session. -/
def Transfer.uri (o : Outside) (s : Session) : Transfer → Option String
  | .agent newAgentId => WebSocket.agentUri s.wsUri s.currentAgentId newAgentId
  | .human _          => WebSocket.humanUri o.env s.wsUri s.sampleRate

def Transfer.isHuman : Transfer → Bool
  | .agent _ => false
  | .human _ => true

/-- `connect` returns true for the URI. -/
def Outside.opens (o : Outside) (newUri : String) : Prop :=
  newUri = "TEST_SIPP_RINGING" ∨ o.connection = .opened

/-- The thread comes to where the exception is thrown: an agent transfer loads no tone. -/
def Transfer.Throws (o : Outside) (t : Transfer) : Prop :=
  o.fault ≠ none ∧ (t.isHuman ∨ o.fault ≠ some .ring)

/-- The exception is thrown after the old socket is closed. -/
def Outside.throwsLate (o : Outside) : Prop :=
  o.fault = some .wsUri ∨ o.fault = some .agentId ∨ o.fault = some .streamId

/-- The transfer ends with a connection to the new server. -/
def Connects (o : Outside) (t : Transfer) (s : Session) : Prop :=
  ¬t.Throws o ∧ ∃ newUri ∈ t.uri o s, o.opens newUri

/-- The session as the new URI is built: a human transfer rings. -/
def Session.prepare (o : Outside) (s : Session) (t : Transfer) : Session :=
  if t.isHuman then s.clearAudioQueue.startRinging o else s.clearAudioQueue

/-- What is left when the old socket is closed and no new one is connected. -/
structure Left (s s' : Session) : Prop where
  ringingActive : s'.ringingActive = s.ringingActive
  disconnectCallback : s'.disconnectCallback = s.disconnectCallback
  disconnects : s'.disconnects = s.disconnects
  connected : s'.connected = false

/-- The exits of a transfer. -/
inductive Exits (o : Outside) (t : Transfer) (s : Session) : Bool → Session → Prop
  | connected {s' : Session} : Connects o t s → Exits o t s true s'
  | cleared : o.fault = some .clear → Exits o t s false s.endTransfer.disconnect
  | unrung : t.isHuman → o.fault = some .ring →
      Exits o t s false s.clearAudioQueue.endTransfer.disconnect
  | thrown : o.fault = some .uri → Exits o t s false (s.prepare o t).endTransfer.disconnect
  | outOfRange : ¬t.isHuman → o.fault ≠ some .clear → o.fault ≠ some .uri → t.uri o s = none →
      Exits o t s false (s.prepare o t).endTransfer.disconnect
  | noCallId : t.isHuman → o.fault ≠ some .clear → o.fault ≠ some .ring → o.fault ≠ some .uri →
      t.uri o s = none → Exits o t s false (s.prepare o t).endTransfer
  | moved {newUri : String} {s' : Session} : o.throwsLate → t.uri o s = some newUri →
      Left (s.prepare o t) s' → Exits o t s false s'.endTransfer.disconnect
  | notConnected {newUri : String} {s' : Session} : ¬t.Throws o → t.uri o s = some newUri →
      ¬o.opens newUri → Left (s.prepare o t) s' →
      Exits o t s false s'.stopRinging.endTransfer.disconnect

lemma raise_of_ne {p : Place} (h : o.fault ≠ some p) (s : Session) : raise o p s = .ok ⟨⟩ s := by
  rw [raise, if_neg h]
  rfl

lemma raise_of_eq {p : Place} (h : o.fault = some p) (s : Session) :
    raise o p s = .error .other s := by
  rw [raise, if_pos h]
  rfl

lemma connect_of_opens (h : o.opens newUri) (s : Session) :
    ∃ s', connect o newUri s = .ok true s' := by
  unfold connect
  split_ifs with huri
  · exact ⟨_, rfl⟩
  · rw [h.resolve_left huri]
    exact ⟨_, rfl⟩

lemma connect_of_not_opens (h : ¬o.opens newUri) (hconnected : s.connected = false) :
    connect o newUri s = .ok false s := by
  obtain ⟨huri, hopened⟩ := not_or.mp h
  unfold connect
  rw [if_neg huri]
  cases hconnection : o.connection with
  | notCreated => rfl
  | timedOut => exact congrArg (EStateM.Result.ok · s) hconnected
  | opened => exact absurd hconnection hopened

lemma moveTo_of_throwsLate (newUri agentId : String) (realTimeAudio : Bool) (streamPrefix : String)
    (h : o.throwsLate) (s : Session) :
    ∃ s', moveTo o newUri agentId realTimeAudio streamPrefix s = .error .other s' ∧ Left s s' := by
  unfold moveTo
  rw [modify_bind_apply]
  by_cases h₁ : o.fault = some .wsUri
  · exact ⟨_, bind_of_error (raise_of_eq h₁ _), rfl, rfl, rfl, rfl⟩
  rw [bind_of_ok (raise_of_ne h₁ _), modify_bind_apply]
  by_cases h₂ : o.fault = some .agentId
  · exact ⟨_, bind_of_error (raise_of_eq h₂ _), rfl, rfl, rfl, rfl⟩
  rw [bind_of_ok (raise_of_ne h₂ _), modify_bind_apply]
  have h₃ : o.fault = some .streamId := (h.resolve_left h₁).resolve_left h₂
  exact ⟨_, bind_of_error (raise_of_eq h₃ _), rfl, rfl, rfl, rfl⟩

/-- Without an exception the thread comes to `connect`, with the old socket closed. -/
lemma moveTo_of_not_throwsLate (newUri agentId : String) (realTimeAudio : Bool)
    (streamPrefix : String) (h : ¬o.throwsLate) (s : Session) :
    ∃ s₁, moveTo o newUri agentId realTimeAudio streamPrefix s = connect o newUri s₁ ∧
      Left s s₁ := by
  obtain ⟨hwsUri, hlater⟩ := not_or.mp h
  obtain ⟨hagentId, hstreamId⟩ := not_or.mp hlater
  unfold moveTo
  rw [modify_bind_apply, bind_of_ok (raise_of_ne hwsUri _), modify_bind_apply,
    bind_of_ok (raise_of_ne hagentId _), modify_bind_apply, bind_of_ok (raise_of_ne hstreamId _),
    modify_bind_apply]
  exact ⟨_, rfl, rfl, rfl, rfl, rfl⟩

lemma perform_of_ok {connected : Bool} (h : transfer o t s = .ok connected s') :
    perform o t s = (connected, s') := by
  simp only [perform, tryCatch, tryCatchThe, MonadExceptOf.tryCatch, EStateM.tryCatch, h]

lemma perform_of_error {e : Exception} (h : transfer o t s = .error e s') :
    perform o t s = (false, s'.endTransfer.disconnect) := by
  simp only [perform, tryCatch, tryCatchThe, MonadExceptOf.tryCatch, EStateM.tryCatch, h]
  rfl

/-- The exits from the close of the old socket on. -/
lemma exits_of_moveTo (huri : t.uri o s = some newUri) (hclear : o.fault ≠ some .clear)
    (hring : t.isHuman → o.fault ≠ some .ring) (hbuild : o.fault ≠ some .uri)
    (h : transfer o t s =
      (moveTo o newUri agentId realTimeAudio streamPrefix >>= finish) (s.prepare o t)) :
    Exits o t s (perform o t s).1 (perform o t s).2 := by
  by_cases hlate : o.throwsLate
  · obtain ⟨s₁, hmove, hleft⟩ := moveTo_of_throwsLate newUri agentId realTimeAudio streamPrefix
      hlate (s.prepare o t)
    rw [perform_of_error (h.trans (bind_of_error hmove))]
    exact .moved hlate huri hleft
  have hthrows : ¬t.Throws o := by
    rintro ⟨hfault, hreached⟩
    cases hp : o.fault with
    | none => exact hfault hp
    | some p =>
      cases p with
      | clear => exact hclear hp
      | ring => exact hreached.elim (fun hhuman => hring hhuman hp) fun hne => hne hp
      | uri => exact hbuild hp
      | wsUri | agentId | streamId => exact hlate (by simp [Outside.throwsLate, hp])
  obtain ⟨s₁, hmove, hleft⟩ := moveTo_of_not_throwsLate newUri agentId realTimeAudio
    streamPrefix hlate (s.prepare o t)
  by_cases hopens : o.opens newUri
  · obtain ⟨s₂, hconnect⟩ := connect_of_opens hopens s₁
    rw [perform_of_ok (h.trans (bind_of_ok (hmove.trans hconnect)))]
    exact .connected ⟨hthrows, newUri, huri, hopens⟩
  · have hconnect := connect_of_not_opens hopens hleft.connected
    rw [perform_of_ok (h.trans (bind_of_ok (hmove.trans hconnect)))]
    exact .notConnected hthrows huri hopens hleft

lemma transfer_of_clear (hclear : o.fault = some .clear) : transfer o t s = .error .other s := by
  cases t <;> exact bind_of_error (raise_of_eq hclear s)

lemma transfer_of_ring (hhuman : t.isHuman) (hring : o.fault = some .ring) :
    transfer o t s = .error .other s.clearAudioQueue := by
  cases t with
  | agent newAgentId => cases hhuman
  | human humanId =>
    have hclear : o.fault ≠ some .clear := by simp [hring]
    rw [transfer, humanTransfer, bind_of_ok (raise_of_ne hclear s), modify_bind_apply]
    exact bind_of_error (raise_of_eq hring _)

lemma transfer_of_build (hbuild : o.fault = some .uri) :
    transfer o t s = .error .other (s.prepare o t) := by
  have hclear : o.fault ≠ some .clear := by simp [hbuild]
  have hring : o.fault ≠ some .ring := by simp [hbuild]
  cases t with
  | agent newAgentId =>
    rw [transfer, agentTransfer, bind_of_ok (raise_of_ne hclear s), modify_bind_apply]
    exact bind_of_error (raise_of_eq hbuild _)
  | human humanId =>
    rw [transfer, humanTransfer, bind_of_ok (raise_of_ne hclear s), modify_bind_apply,
      bind_of_ok (raise_of_ne hring _), modify_bind_apply]
    exact bind_of_error (raise_of_eq hbuild _)

lemma agentTransfer_eq (newAgentId : String) (hclear : o.fault ≠ some .clear)
    (hbuild : o.fault ≠ some .uri) :
    agentTransfer o newAgentId s = agentMove o newAgentId s.clearAudioQueue := by
  rw [agentTransfer, bind_of_ok (raise_of_ne hclear s), modify_bind_apply,
    bind_of_ok (raise_of_ne hbuild _)]

lemma humanTransfer_eq (humanId : String) (hclear : o.fault ≠ some .clear)
    (hring : o.fault ≠ some .ring) (hbuild : o.fault ≠ some .uri) :
    humanTransfer o humanId s = humanMove o humanId (s.clearAudioQueue.startRinging o) := by
  rw [humanTransfer, bind_of_ok (raise_of_ne hclear s), modify_bind_apply,
    bind_of_ok (raise_of_ne hring _), modify_bind_apply, bind_of_ok (raise_of_ne hbuild _)]

lemma Session.startRinging_uri (o : Outside) (s : Session) :
    (s.startRinging o).wsUri = s.wsUri ∧ (s.startRinging o).sampleRate = s.sampleRate := by
  unfold startRinging
  split <;> exact ⟨rfl, rfl⟩

/-- What a transfer can do. -/
lemma perform_spec (o : Outside) (t : Transfer) (s : Session) :
    Exits o t s (perform o t s).1 (perform o t s).2 := by
  by_cases hclear : o.fault = some .clear
  · rw [perform_of_error (transfer_of_clear hclear)]
    exact .cleared hclear
  by_cases hbuild : o.fault = some .uri
  · rw [perform_of_error (transfer_of_build hbuild)]
    exact .thrown hbuild
  cases t with
  | agent newAgentId =>
    have htransfer : transfer o (.agent newAgentId) s = agentMove o newAgentId s.clearAudioQueue :=
      agentTransfer_eq newAgentId hclear hbuild
    rw [agentMove, get_bind_apply] at htransfer
    cases huri : WebSocket.agentUri s.wsUri s.currentAgentId newAgentId with
    | none =>
      rw [show WebSocket.agentUri s.clearAudioQueue.wsUri s.clearAudioQueue.currentAgentId
        newAgentId = none from huri] at htransfer
      rw [perform_of_error htransfer]
      exact .outOfRange Bool.false_ne_true hclear hbuild huri
    | some newUri =>
      rw [show WebSocket.agentUri s.clearAudioQueue.wsUri s.clearAudioQueue.currentAgentId
        newAgentId = some newUri from huri] at htransfer
      exact exits_of_moveTo huri hclear nofun hbuild htransfer
  | human humanId =>
    by_cases hring : o.fault = some .ring
    · rw [perform_of_error (transfer_of_ring rfl hring)]
      exact .unrung rfl hring
    have htransfer : transfer o (.human humanId) s =
        humanMove o humanId (s.clearAudioQueue.startRinging o) :=
      humanTransfer_eq humanId hclear hring hbuild
    have hsame := s.clearAudioQueue.startRinging_uri o
    rw [humanMove, get_bind_apply, hsame.1, hsame.2] at htransfer
    cases huri : WebSocket.humanUri o.env s.wsUri s.sampleRate with
    | none =>
      rw [show WebSocket.humanUri o.env s.clearAudioQueue.wsUri s.clearAudioQueue.sampleRate =
        none from huri] at htransfer
      rw [perform_of_ok htransfer]
      exact .noCallId rfl hclear hring hbuild huri
    | some newUri =>
      rw [show WebSocket.humanUri o.env s.clearAudioQueue.wsUri s.clearAudioQueue.sampleRate =
        some newUri from huri] at htransfer
      exact exits_of_moveTo huri hclear (fun _ => hring) hbuild htransfer

/-! ### What is undone -/

/-- The session before the transfer is intact: the old socket is still connected. -/
structure Intact (s s' : Session) : Prop where
  wsUri : s'.wsUri = s.wsUri
  currentAgentId : s'.currentAgentId = s.currentAgentId
  streamId : s'.streamId = s.streamId
  connected : s'.connected

/-- A failed transfer is undone, or the call is taken down. -/
structure Undone (s s' : Session) : Prop where
  agentTransferInProgress : s'.agentTransferInProgress = false
  ringingActive : s'.ringingActive → s.ringingActive
  intact : Intact s s' ∨ s.disconnects < s'.disconnects

/-- The transfer has started a tone that it does not stop: only a failed connection does. -/
def LeavesTone (o : Outside) (t : Transfer) (s : Session) : Prop :=
  t.isHuman ∧ o.rings s.sampleRate ∧ o.fault ≠ some .clear ∧ o.fault ≠ some .ring ∧
    (o.fault ≠ none ∨ t.uri o s = none)

/-- The transfer ends before it closes the old socket. -/
def EndsEarly (o : Outside) (t : Transfer) (s : Session) : Prop :=
  o.fault = some .clear ∨ (t.isHuman ∧ o.fault = some .ring) ∨ o.fault = some .uri ∨
    t.uri o s = none

/-- A human transfer returns without a call of `disconnect_callback`. -/
def ReturnsEarly (o : Outside) (t : Transfer) (s : Session) : Prop :=
  t.isHuman ∧ o.fault ≠ some .clear ∧ o.fault ≠ some .ring ∧ o.fault ≠ some .uri ∧
    t.uri o s = none

/-- The transfer connects, or it leaves no tone of its own and either takes the call down or keeps a
session that is connected. -/
def Restores (o : Outside) (t : Transfer) (s : Session) : Prop :=
  Connects o t s ∨
    (LeavesTone o t s → s.ringingActive) ∧
      (s.disconnectCallback ∧ ¬ReturnsEarly o t s ∨ s.connected ∧ EndsEarly o t s)

@[simp] lemma Session.prepare_ringingActive (o : Outside) (s : Session) (t : Transfer) :
    (s.prepare o t).ringingActive = (s.ringingActive || t.isHuman && o.rings s.sampleRate) := by
  unfold prepare startRinging Outside.rings
  cases t.isHuman with
  | false => simp [clearAudioQueue, Messages.Session.clearAudioQueue]
  | true =>
    have hrate : s.clearAudioQueue.sampleRate = s.sampleRate := rfl
    rw [if_pos rfl, hrate]
    cases o.ringing s.sampleRate with
    | none => simp [clearAudioQueue, Messages.Session.clearAudioQueue]
    | some samples => simp [clearAudioQueue, Messages.Session.clearAudioQueue]

/-- The preparation leaves the connection and the callback alone. -/
lemma Session.prepare_frame (o : Outside) (s : Session) (t : Transfer) :
    (s.prepare o t).wsUri = s.wsUri ∧ (s.prepare o t).currentAgentId = s.currentAgentId ∧
      (s.prepare o t).streamId = s.streamId ∧ (s.prepare o t).connected = s.connected ∧
      (s.prepare o t).disconnectCallback = s.disconnectCallback ∧
      (s.prepare o t).disconnects = s.disconnects := by
  unfold prepare startRinging
  split_ifs
  · split <;> exact ⟨rfl, rfl, rfl, rfl, rfl, rfl⟩
  · exact ⟨rfl, rfl, rfl, rfl, rfl, rfl⟩

lemma Session.disconnect_eq (s : Session) :
    s.disconnect =
      if s.disconnectCallback then { s with disconnects := s.disconnects + 1 } else s := by
  unfold disconnect Messages.Session.disconnect
  split_ifs <;> rfl

variable {s₁ : Session}

lemma intact_endTransfer : Intact s s₁.endTransfer ↔ Intact s s₁ :=
  ⟨fun h => ⟨h.1, h.2, h.3, h.4⟩, fun h => ⟨h.1, h.2, h.3, h.4⟩⟩

/-- Without a call of the callback the session must be intact. -/
lemma undone_endTransfer_iff (hcount : s₁.disconnects = s.disconnects) :
    Undone s s₁.endTransfer ↔ (s₁.ringingActive → s.ringingActive) ∧ Intact s s₁ := by
  constructor
  · intro hu
    refine ⟨hu.ringingActive, intact_endTransfer.mp (hu.intact.resolve_right ?_)⟩
    exact fun hlt => absurd hlt (hcount ▸ Nat.lt_irrefl _)
  · rintro ⟨hringing, hintact⟩
    exact ⟨rfl, hringing, Or.inl (intact_endTransfer.mpr hintact)⟩

/-- With a callback the call is taken down, without one the session must be intact. -/
lemma undone_disconnect_iff (hcallback : s₁.disconnectCallback = s.disconnectCallback)
    (hcount : s₁.disconnects = s.disconnects) :
    Undone s s₁.endTransfer.disconnect ↔
      (s₁.ringingActive → s.ringingActive) ∧ (s.disconnectCallback ∨ Intact s s₁) := by
  rw [Session.disconnect_eq, show s₁.endTransfer.disconnectCallback = _ from hcallback]
  split_ifs with h
  · constructor
    · exact fun hu => ⟨hu.ringingActive, Or.inl h⟩
    · rintro ⟨hringing, -⟩
      exact ⟨rfl, hringing, Or.inr (hcount ▸ Nat.lt_succ_self _)⟩
  · rw [or_iff_right h]
    exact undone_endTransfer_iff hcount

lemma intact_self : Intact s s ↔ s.connected := ⟨Intact.connected, fun h => ⟨rfl, rfl, rfl, h⟩⟩

lemma intact_clearAudioQueue : Intact s s.clearAudioQueue ↔ s.connected :=
  ⟨Intact.connected, fun h => ⟨rfl, rfl, rfl, h⟩⟩

lemma intact_prepare : Intact s (s.prepare o t) ↔ s.connected := by
  obtain ⟨huri, hagent, hstream, hconnected, -, -⟩ := s.prepare_frame o t
  constructor
  · exact fun h => hconnected ▸ h.connected
  · exact fun h => ⟨huri, hagent, hstream, hconnected ▸ h⟩

/-- The tone of a transfer is heard after it, unless there was one before. -/
lemma prepare_quiet_iff : ((s.prepare o t).ringingActive → s.ringingActive) ↔
    (t.isHuman ∧ o.rings s.sampleRate → s.ringingActive) := by
  rw [Session.prepare_ringingActive, Bool.or_eq_true, Bool.and_eq_true]
  exact ⟨fun h htone => h (Or.inr htone), fun h hringing => hringing.elim id h⟩

lemma leavesTone_iff (hclear : o.fault ≠ some .clear) (hring : t.isHuman → o.fault ≠ some .ring)
    (hend : o.fault ≠ none ∨ t.uri o s = none) :
    LeavesTone o t s ↔ t.isHuman ∧ o.rings s.sampleRate := by
  unfold LeavesTone
  exact ⟨fun h => ⟨h.1, h.2.1⟩, fun h => ⟨h.1, h.2, hclear, hring h.1, hend⟩⟩

lemma not_connects_of_fault {p : Place} (h : o.fault = some p) (hp : t.isHuman ∨ p ≠ .ring) :
    ¬Connects o t s := by
  rintro ⟨hthrows, -⟩
  refine hthrows ⟨by simp [h], hp.imp_right fun hne hring => hne ?_⟩
  exact Option.some.inj (h.symm.trans hring)

/-- The only exception that a thread does not come to is that of the tone. -/
lemma Transfer.ring_of_not_throws (h : ¬t.Throws o) {p : Place} (hp : o.fault = some p) :
    ¬t.isHuman ∧ p = .ring := by
  have hreached : ¬(t.isHuman ∨ o.fault ≠ some .ring) := fun hreached => h ⟨by simp [hp], hreached⟩
  obtain ⟨hagent, hring⟩ := not_or.mp hreached
  exact ⟨hagent, Option.some.inj (hp.symm.trans (not_not.mp hring))⟩

lemma not_leavesTone_of_not_throws (h : ¬t.Throws o) (huri : t.uri o s = some newUri) :
    ¬LeavesTone o t s := by
  rintro ⟨hhuman, -, -, -, hfault | hnone⟩
  · obtain ⟨p, hp⟩ := Option.ne_none_iff_exists'.mp hfault
    exact (Transfer.ring_of_not_throws h hp).1 hhuman
  · rw [huri] at hnone
    cases hnone

lemma not_endsEarly_of_not_throws (h : ¬t.Throws o) (huri : t.uri o s = some newUri) :
    ¬EndsEarly o t s := by
  rintro (hclear | ⟨hhuman, hring⟩ | hbuild | hnone)
  · cases (Transfer.ring_of_not_throws h hclear).2
  · exact (Transfer.ring_of_not_throws h hring).1 hhuman
  · cases (Transfer.ring_of_not_throws h hbuild).2
  · rw [huri] at hnone
    cases hnone

lemma not_connects_of_uri (h : t.uri o s = none) : ¬Connects o t s := by
  rintro ⟨-, newUri, hnew, -⟩
  rw [h] at hnew
  cases hnew

lemma not_returnsEarly_of_uri (h : t.uri o s = some newUri) : ¬ReturnsEarly o t s := by
  rintro ⟨-, -, -, -, hnone⟩
  rw [h] at hnone
  cases hnone

lemma Left.not_intact (h : Left s s₁) {s₀ : Session} : ¬Intact s₀ s₁ := fun hintact =>
  Bool.false_ne_true (h.connected.symm.trans hintact.connected)

lemma Outside.throwsLate.exists_place (h : o.throwsLate) : ∃ p, o.fault = some p ∧
    p ≠ .ring ∧ o.fault ≠ some .clear ∧ o.fault ≠ some .ring ∧ o.fault ≠ some .uri := by
  rcases h with h | h | h <;> exact ⟨_, h, by simp, by simp [h], by simp [h], by simp [h]⟩

/-- The tone of an exit that does not stop it. -/
lemma prepare_tone_iff (hclear : o.fault ≠ some .clear) (hring : t.isHuman → o.fault ≠ some .ring)
    (hend : o.fault ≠ none ∨ t.uri o s = none) :
    ((s.prepare o t).ringingActive → s.ringingActive) ↔
      (LeavesTone o t s → s.ringingActive) := by
  rw [prepare_quiet_iff, leavesTone_iff hclear hring hend]

/-- An exit before the close of the old socket that calls `disconnect_callback`. -/
lemma undone_early_iff (hconnects : ¬Connects o t s) (hreturns : ¬ReturnsEarly o t s)
    (hends : EndsEarly o t s)
    (htone : (s₁.ringingActive → s.ringingActive) ↔ (LeavesTone o t s → s.ringingActive))
    (hintact : Intact s s₁ ↔ s.connected)
    (hcallback : s₁.disconnectCallback = s.disconnectCallback)
    (hcount : s₁.disconnects = s.disconnects) :
    Undone s s₁.endTransfer.disconnect ↔ Restores o t s := by
  rw [Restores, or_iff_right hconnects, undone_disconnect_iff hcallback hcount, htone, hintact,
    and_iff_left hreturns, and_iff_left hends]

/-- An exit after the close of the old socket. -/
lemma undone_late_iff (hconnects : ¬Connects o t s) (huri : t.uri o s = some newUri)
    (hends : ¬EndsEarly o t s)
    (htone : (s₁.ringingActive → s.ringingActive) ↔ (LeavesTone o t s → s.ringingActive))
    (hintact : ¬Intact s s₁) (hcallback : s₁.disconnectCallback = s.disconnectCallback)
    (hcount : s₁.disconnects = s.disconnects) :
    Undone s s₁.endTransfer.disconnect ↔ Restores o t s := by
  rw [Restores, or_iff_right hconnects, undone_disconnect_iff hcallback hcount, htone,
    or_iff_left hintact, and_iff_left (not_returnsEarly_of_uri huri),
    or_iff_left fun h => hends h.2]

/-- A failed transfer is undone, or the call is taken down, exactly where the transfer restores. -/
theorem failed_transfer_undone_iff (o : Outside) (t : Transfer) (s : Session) :
    ((perform o t s).1 = false → Undone s (perform o t s).2) ↔ Restores o t s := by
  have hexit := perform_spec o t s
  obtain ⟨-, -, -, -, hcallback, hcount⟩ := s.prepare_frame o t
  generalize perform o t s = r at hexit
  obtain ⟨connected, s'⟩ := r
  simp only at hexit ⊢
  cases hexit with
  | connected hconnects => exact iff_of_true (fun h => by cases h) (Or.inl hconnects)
  | cleared hclear =>
    rw [forall_prop_of_true rfl]
    exact undone_early_iff (not_connects_of_fault hclear (Or.inr (by simp)))
      (fun h => h.2.1 hclear) (Or.inl hclear) (iff_of_true id fun h => absurd hclear h.2.2.1)
      intact_self rfl rfl
  | unrung hhuman hring =>
    rw [forall_prop_of_true rfl]
    exact undone_early_iff (not_connects_of_fault hring (Or.inl hhuman))
      (fun h => h.2.2.1 hring) (Or.inr (Or.inl ⟨hhuman, hring⟩))
      (iff_of_true id fun h => absurd hring h.2.2.2.1) intact_clearAudioQueue rfl rfl
  | thrown hbuild =>
    rw [forall_prop_of_true rfl]
    have htone := prepare_tone_iff (o := o) (t := t) (s := s) (by simp [hbuild])
      (by simp [hbuild]) (by simp [hbuild])
    exact undone_early_iff (not_connects_of_fault hbuild (Or.inr (by simp)))
      (fun h => h.2.2.2.1 hbuild) (Or.inr (Or.inr (Or.inl hbuild))) htone intact_prepare
      hcallback hcount
  | outOfRange hagent hclear hbuild huri =>
    rw [forall_prop_of_true rfl]
    have htone := prepare_tone_iff hclear (fun hhuman => absurd hhuman hagent) (Or.inr huri)
    exact undone_early_iff (not_connects_of_uri huri) (fun h => hagent h.1)
      (Or.inr (Or.inr (Or.inr huri))) htone intact_prepare hcallback hcount
  | noCallId hhuman hclear hring hbuild huri =>
    -- the early return calls nobody, so that the session must be intact
    rw [forall_prop_of_true rfl, Restores, or_iff_right (not_connects_of_uri huri),
      undone_endTransfer_iff hcount, intact_prepare,
      prepare_tone_iff hclear (fun _ => hring) (Or.inr huri)]
    simp [ReturnsEarly, EndsEarly, huri, hhuman, hclear, hring, hbuild]
  | moved hlate huri hleft =>
    rw [forall_prop_of_true rfl]
    obtain ⟨p, hp, hne, hclear, hring, hbuild⟩ := hlate.exists_place
    have hends : ¬EndsEarly o t s := by simp [EndsEarly, hclear, hring, hbuild, huri]
    have htone := prepare_tone_iff (t := t) (s := s) hclear (fun _ => hring) (Or.inl (by simp [hp]))
    rw [← hleft.ringingActive] at htone
    exact undone_late_iff (not_connects_of_fault hp (Or.inr hne)) huri hends htone
      hleft.not_intact (hleft.disconnectCallback.trans hcallback)
      (hleft.disconnects.trans hcount)
  | @notConnected newUri s₁ hthrows huri hopens hleft =>
    rw [forall_prop_of_true rfl]
    have hconnects : ¬Connects o t s := by
      rintro ⟨-, newUri, hnew, hopen⟩
      rw [huri] at hnew
      cases hnew
      exact hopens hopen
    have hstopped : ¬Intact s s₁.stopRinging := fun h => hleft.not_intact ⟨h.1, h.2, h.3, h.4⟩
    have htone : (s₁.stopRinging.ringingActive → s.ringingActive) ↔
        (LeavesTone o t s → s.ringingActive) :=
      iff_of_true nofun fun h => absurd h (not_leavesTone_of_not_throws hthrows huri)
    exact undone_late_iff hconnects huri (not_endsEarly_of_not_throws hthrows huri) htone hstopped
      (hleft.disconnectCallback.trans hcallback) (hleft.disconnects.trans hcount)

/-- A session at a URI without an agent. -/
def sampleSession : Session where
  toSession := Messages.samplePlaying
  sampleRate := 8000
  wsUri := "wss://media/voice?call=7"
  currentAgentId := ""
  sequenceNumber := 12
  streamId := "MZ1"
  ringingProvider := ⟨[], 0, false, fun h => absurd rfl h⟩

/-- The file is there, and nothing goes wrong. -/
def sampleOutside : Outside where
  env := fun _ => none
  files := fun _ => some [1, 2]
  connection := .opened
  now := "2"
  fault := none

/-- A human transfer that finds no call id returns, and its tone goes on. -/
theorem tone_after_failed_transfer : ¬∀ (o : Outside) (t : Transfer) (s : Session),
    (perform o t s).1 = false → Undone s (perform o t s).2 := by
  intro h
  have hundone := h sampleOutside (.human "h1") sampleSession (by decide)
  exact absurd (hundone.ringingActive (by decide)) (by decide)

end MediaServer.Transfers
