import SipForward.Core.Run
import SipForward.MediaServer.Environment

/-!
# The WebSocket session of a call

`WebSocketAudioHandler` with the part of `MyAudioMediaPort` that connects it and takes it down. The
WebSocket thread runs the open, message and close handlers of one socket after the other. Reconnects
and transfers run on detached threads of their own, the media clock sends a frame every 20 ms, and
the SIP side tears the session down. They share their flags without a lock, so the steps of all of
them interleave.
-/

namespace MediaServer.WebSocket

open Core

/-! ### URIs -/

/-- `std::string::find`; `none` stands for `npos`. -/
def find (pattern : List Char) : List Char → Option ℕ
  | []      => if pattern = [] then some 0 else none
  | c :: cs => if pattern.isPrefixOf (c :: cs) then some 0 else (find pattern cs).map (· + 1)

def contains (text pattern : String) : Bool := (find pattern.toList text.toList).isSome

/-- `std::string::substr` to the end of the text; `none` stands for `std::out_of_range`. -/
def substr (text : List Char) (pos : ℕ) : Option (List Char) :=
  if pos ≤ text.length then some (text.drop pos) else none

/-- `WebSocketAudioHandler::setAgentId`, of a handler that is being constructed. -/
def setAgentId (wsUri : String) : String :=
  match find "agent=".toList wsUri.toList with
  | none          => ""
  | some agentPos =>
    let agentValue := wsUri.toList.drop (agentPos + 6)
    match find ['_'] agentValue with
    | none               => ""
    | some underscorePos => String.ofList (agentValue.take underscorePos)

/-- The URI of `attemptReconnect`. -/
def reconnectUri (wsUri : String) : String :=
  if contains wsUri "reconnect=" then wsUri
  else wsUri ++ (if contains wsUri "?" then "&reconnect=true" else "?reconnect=true")

/-- The URI of `performAgentTransfer`. Where `find` returns `npos` the addition wraps around. -/
def agentUri (wsUri currentAgentId newAgentId : String) : Option String := do
  let uri := wsUri.toList
  let callIdPos := match find currentAgentId.toList uri with
    | some pos => pos + currentAgentId.length + 1
    | none     => currentAgentId.length
  let callIdPart ← substr uri callIdPos
  let baseUrl := match find "agent=".toList uri with
    | some pos => uri.take (pos + 6)
    | none     => uri.take 5
  some (String.ofList (baseUrl ++ newAgentId.toList ++ '_' :: callIdPart))

/-- `HUMAN_TRANSFER_WS_URL` is set. -/
def isOverride (env : Env) : Bool :=
  match env "HUMAN_TRANSFER_WS_URL" with
  | some value => value ≠ ""
  | none       => false

/-- The call id in the URI of a human transfer; `none` where the transfer is given up. -/
def humanCallId (env : Env) (wsUri : String) : Option String :=
  let missing := if isOverride env then some "local" else none
  match find "agent=".toList wsUri.toList with
  | none          => missing
  | some agentPos =>
    let agentValue := wsUri.toList.drop (agentPos + 6)
    match find ['_'] agentValue with
    | none               => missing
    | some underscorePos =>
      let remaining := agentValue.drop (underscorePos + 1)
      some (String.ofList (remaining.take ((find ['_'] remaining).getD remaining.length)))

/-- The URI of `performHumanTransfer`. -/
def humanUri (env : Env) (wsUri : String) (sampleRate : Int) : Option String := do
  let humanBase := getEnvString env "HUMAN_TRANSFER_WS_URL" "wss://rupture2.chatwoot.store/ws"
  let callId ← humanCallId env wsUri
  let sep := if contains humanBase "?" then "&" else "?"
  some (humanBase ++ sep ++ "callId=" ++ callId ++ "&sampleRate=" ++ toString sampleRate)

/-! ### State -/

/-- A message sent to the server. -/
inductive Message where
  | start (streamId : ℕ)
  | media (streamId sequenceNumber : ℕ)
  | dtmf (streamId : ℕ)
  | playedStream
deriving DecidableEq, Repr

/-- How far the WebSocket thread is with its socket. -/
inductive Phase where
  | opening
  | opened      -- `connected` is set, `sendStartEvent` is next
  | running
  | closing     -- the close handler has cleared `connected`
  | dropped     -- it has neither returned silently nor hung up
  | scheduling  -- it has found budget for a reconnect
deriving DecidableEq, Repr

structure Socket where
  phase : Phase
  alive : Bool  -- messages are sent and received
  sent : List Message
deriving DecidableEq, Repr

/-- What a thread does: the connection loop of `initializeWebSocket`, with the attempts left after
the current one, or the detached thread of `attemptReconnect`, `performAgentTransfer`,
`performHumanTransfer` or `performHumanNumberTransfer`. -/
inductive Task where
  | initializeWebSocket (uri : String) (left : ℕ)
  | reconnect
  | agentTransfer (id : String)
  | humanTransfer (id : String)
  | humanNumberTransfer (number : String)
deriving DecidableEq, Repr

/-- What a thread does next. -/
inductive Point where
  | start
  | check (uri : String)            -- the sleep of a reconnect is over
  | closeOld (uri : Option String)  -- a phone transfer has no URI
  | setUri (uri : String)
  | resetSequence (uri : String)
  | resetStream (uri : String)
  | connect (uri : String)
  | poll                            -- `connect` waits for `connected`
  | succeeded
  | failed
  | retry                           -- budget is found for another reconnect
  | refer
  | hangUp
deriving DecidableEq, Repr

structure Thread where
  task : Task
  point : Point
deriving DecidableEq, Repr

/-- How far `disconnect` is. -/
inductive Teardown where
  | idle
  | marking  -- `connected` was read as true
  | joining
deriving DecidableEq, Repr

/-- The handler and its surroundings. Streams are numbered as their ids are drawn. -/
structure Handler where
  sampleRate : Int
  wsUri : String
  currentAgentId : String
  connected : Bool
  hangupReceived : Bool
  intentionalClose : Bool
  reconnectAttempts : ℕ
  agentTransferInProgress : Bool
  sequenceNumber : ℕ
  streamId : ℕ
  nextStream : ℕ
  socket : Option Socket
  threads : List Thread
  initialized : Bool
  legUp : Bool
  referSent : Bool
  hangupRequested : Bool
  teardown : Teardown
  returned : Bool               -- `disconnect` has returned
  history : List (List Message)  -- what was sent on the sockets before this one
  reconnectConnects : ℕ         -- the calls of `connect` by reconnect threads
deriving DecidableEq, Repr

/-- `WebSocketAudioHandler::MAX_RECONNECT_ATTEMPTS`. -/
def maxReconnectAttempts : ℕ := 3

/-- `MyAudioMediaPort::MAX_RETRIES`. -/
def maxRetries : ℕ := 3

/-- The handler that `initializeWebSocket` constructs, before the first connection. -/
def Handler.new (sampleRate : Int) (wsUri : String) : Handler where
  sampleRate := sampleRate
  wsUri := wsUri
  currentAgentId := setAgentId wsUri
  connected := false
  hangupReceived := false
  intentionalClose := false
  reconnectAttempts := 0
  agentTransferInProgress := false
  sequenceNumber := 0
  streamId := 0
  nextStream := 1
  socket := none
  threads := [⟨.initializeWebSocket wsUri (maxRetries - 1), .start⟩]
  initialized := false
  legUp := true
  referSent := false
  hangupRequested := false
  teardown := .idle
  returned := false
  history := []
  reconnectConnects := 0

def Task.isInitialize : Task → Bool
  | .initializeWebSocket _ _ => true
  | _                        => false

def Task.isTransfer : Task → Bool
  | .agentTransfer _ | .humanTransfer _ | .humanNumberTransfer _ => true
  | .initializeWebSocket _ _ | .reconnect                        => false

/-- What a call of `connect` adds to the count of those by reconnect threads. -/
def Task.reconnects : Task → ℕ
  | .reconnect => 1
  | _          => 0

/-- `current_agent_id` after the thread has set it. -/
def Task.newAgentId (current : String) : Task → String
  | .agentTransfer id => id
  | .humanTransfer id => "HUMAN_" ++ id
  | _                 => current

/-- The thread goes on with `p`. -/
def Handler.resume (s : Handler) (task : Task) (p : Point) : Handler :=
  { s with threads := ⟨task, p⟩ :: s.threads }

/-- The thread is created. -/
def Handler.spawn (s : Handler) (task : Task) : Handler := s.resume task .start

/-- The state without the thread that takes a step. -/
def Handler.without (s : Handler) (t : Thread) : Handler :=
  { s with threads := s.threads.erase t }

/-- `ws_client.send`; the message is lost where the connection is not open. -/
def Socket.send (m : Message) (k : Socket) : Socket :=
  if k.alive then { k with sent := k.sent ++ [m] } else k

def Handler.send (s : Handler) (m : Message) : Handler :=
  { s with socket := s.socket.map (Socket.send m) }

/-- `ws_client.close` acts on the connection that was opened last. -/
def Socket.close (k : Socket) : Socket :=
  if k.phase = .opening then k else { k with alive := false }

/-- The connection is no longer open, and the close handler will follow. -/
def Handler.cut (s : Handler) : Handler := { s with socket := s.socket.map Socket.close }

def Handler.close (s : Handler) : Handler := { s.cut with connected := false }

/-- The WebSocket thread is done with its socket. -/
def Handler.release (s : Handler) : Handler :=
  { s with socket := none, history := s.history ++ (s.socket.map Socket.sent).toList }

def Handler.setPhase (s : Handler) (p : Phase) : Handler :=
  { s with socket := s.socket.map fun k => { k with phase := p } }

def Handler.phase (s : Handler) : Option Phase := s.socket.map Socket.phase

/-- The socket sends and receives; otherwise `send` reports an error. -/
def Handler.alive (s : Handler) : Bool := s.socket.any Socket.alive

/-- Messages reach the server. -/
def Handler.onAir (s : Handler) : Bool := s.connected && s.alive

lemma Handler.onAir_iff {s : Handler} : s.onAir ↔ s.connected ∧ s.alive := by
  rw [onAir, Bool.and_eq_true]

@[simp] lemma Socket.close_phase (k : Socket) : k.close.phase = k.phase := by
  unfold close
  split_ifs <;> rfl

@[simp] lemma Socket.close_sent (k : Socket) : k.close.sent = k.sent := by
  unfold close
  split_ifs <;> rfl

lemma Socket.phase_of_close_alive {k : Socket} (h : k.close.alive) : k.phase = .opening := by
  unfold close at h
  split_ifs at h with hphase
  exact hphase

@[simp] lemma Socket.send_phase (m : Message) (k : Socket) : (k.send m).phase = k.phase := by
  unfold send
  split_ifs <;> rfl

@[simp] lemma Socket.send_alive (m : Message) (k : Socket) : (k.send m).alive = k.alive := by
  unfold send
  split_ifs <;> rfl

lemma Socket.send_of_alive {k : Socket} (h : k.alive) (m : Message) :
    k.send m = { k with sent := k.sent ++ [m] } :=
  if_pos h

@[simp] lemma Handler.cut_phase (s : Handler) : s.cut.phase = s.phase := by
  simp [cut, phase, Function.comp_def]

@[simp] lemma Handler.send_phase (s : Handler) (m : Message) : (s.send m).phase = s.phase := by
  simp [send, phase, Function.comp_def]

lemma Handler.release_phase (s : Handler) : s.release.phase = none := rfl

lemma Handler.setPhase_phase {s : Handler} {q : Phase} (h : s.phase = some q) (p : Phase) :
    (s.setPhase p).phase = some p := by
  obtain ⟨k, hk, -⟩ := Option.map_eq_some_iff.mp h
  simp [setPhase, phase, hk]

lemma Handler.alive_setPhase (s : Handler) (p : Phase) : (s.setPhase p).alive = s.alive := by
  cases h : s.socket <;> simp [alive, setPhase, h]

lemma Handler.alive_of_mem {s : Handler} {k : Socket} (hk : k ∈ s.socket) : s.alive = k.alive := by
  rw [alive, Option.mem_def.mp hk, Option.any_some]

/-- Without an open connection the message is lost. -/
lemma Handler.send_of_not_alive {s : Handler} (h : ¬s.alive) (m : Message) : s.send m = s := by
  have hsocket : s.socket.map (Socket.send m) = s.socket := by
    cases hk : s.socket with
    | none => rfl
    | some k =>
      rw [alive_of_mem hk] at h
      rw [Option.map_some, Socket.send, if_neg h]
  rw [send, hsocket]

lemma Handler.phase_of_mem {s : Handler} {k : Socket} (hk : k ∈ s.socket) :
    s.phase = some k.phase := by
  rw [phase, Option.mem_def.mp hk, Option.map_some]

lemma Handler.phase_eq_some {s : Handler} {p : Phase} :
    s.phase = some p ↔ ∃ k, s.socket = some k ∧ k.phase = p :=
  Option.map_eq_some_iff

/-! ### Threads -/

/-- After the sequence number and the stream id: a transfer has set the URI before them. -/
def Task.afterReset (uri : String) : Task → Point
  | .reconnect => .setUri uri
  | _          => .connect uri

def Task.afterSetUri (uri : String) : Task → Point
  | .reconnect => .connect uri
  | _          => .resetSequence uri

/-- A phone transfer refers the caller, the others set the URI after a sleep. -/
def afterClose : Option String → Point
  | some uri => .setUri uri
  | none     => .refer

/-- The first step of a thread; `s` is the state without it. -/
def Handler.begin (env : Env) (s : Handler) : Task → Handler
  | .initializeWebSocket uri left =>
    if uri = "" then s else s.resume (.initializeWebSocket uri left) (.connect uri)
  | .reconnect => s.resume .reconnect (.check (reconnectUri s.wsUri))
  | .agentTransfer id =>
    match agentUri s.wsUri s.currentAgentId id with
    | some uri => s.resume (.agentTransfer id) (.closeOld (some uri))
    | none     => s.resume (.agentTransfer id) .failed
  | .humanTransfer id =>
    match humanUri env s.wsUri s.sampleRate with
    | some uri => s.resume (.humanTransfer id) (.closeOld (some uri))
    | none     => { s with agentTransferInProgress := false }
  | .humanNumberTransfer number => s.resume (.humanNumberTransfer number) (.closeOld none)

/-- `connect` has returned true. -/
def Handler.succeed (s : Handler) : Task → Handler
  | .initializeWebSocket _ _ => { s with initialized := true }
  | .reconnect               => s
  | _                        => { s with agentTransferInProgress := false }

/-- `connect` has returned false, or the thread has caught an exception. -/
def Handler.fail (s : Handler) : Task → Handler
  | .initializeWebSocket _ 0 => s
  | .initializeWebSocket uri (left + 1) => s.resume (.initializeWebSocket uri left) (.connect uri)
  | .reconnect =>
    if ¬s.intentionalClose ∧ s.reconnectAttempts < maxReconnectAttempts then
      s.resume .reconnect .retry
    else s.resume .reconnect .hangUp
  | task => { s with agentTransferInProgress := false }.resume task .hangUp

/-- `CallManager::referCallerToHuman`; `ok` tells whether `xfer` succeeds. -/
def Handler.referCallerToHuman (s : Handler) (ok : Bool) (number : String) : Handler :=
  if ¬isValidPhoneNumber number then s
  else if ok then { s with referSent := true }
  else s.resume (.humanNumberTransfer number) .hangUp

/-- `WebSocketAudioHandler::connect`, as far as it starts the WebSocket thread, which has joined the
one before; `ok` is false where no connection could be created. -/
def Handler.connect (s : Handler) (ok : Bool) (task : Task) : Handler :=
  let counted := { s with reconnectConnects := s.reconnectConnects + task.reconnects }
  if ok then { counted with socket := some ⟨.opening, true, []⟩ }.resume task .poll
  else counted.resume task .failed

/-- One step of a thread; `s` is the state without it. -/
def Handler.advance (env : Env) (s : Handler) (ok : Bool) : Thread → Option Handler
  | ⟨task, .start⟩ => some (s.begin env task)
  | ⟨.reconnect, .check uri⟩ =>
    if s.intentionalClose then some s else some (s.resume .reconnect (.resetSequence uri))
  | ⟨task, .closeOld uri⟩ =>
    some ((if s.connected then s.close else s).resume task (afterClose uri))
  | ⟨task, .setUri uri⟩ =>
    some ({ s with wsUri := uri, currentAgentId := task.newAgentId s.currentAgentId }.resume task
      (task.afterSetUri uri))
  | ⟨task, .resetSequence uri⟩ =>
    some ({ s with sequenceNumber := 0 }.resume task (.resetStream uri))
  | ⟨task, .resetStream uri⟩ =>
    some ({ s with streamId := s.nextStream, nextStream := s.nextStream + 1 }.resume task
      (task.afterReset uri))
  | ⟨task, .connect _⟩ => if s.socket = none then some (s.connect ok task) else none
  | ⟨task, .poll⟩ => some (s.resume task (if s.connected then .succeeded else .failed))
  | ⟨task, .succeeded⟩ => some (s.succeed task)
  | ⟨task, .failed⟩ => some (s.fail task)
  | ⟨.reconnect, .retry⟩ =>
    some ({ s with reconnectAttempts := s.reconnectAttempts + 1 }.spawn .reconnect)
  | ⟨.humanNumberTransfer number, .refer⟩ => some (s.referCallerToHuman ok number)
  | ⟨_, .hangUp⟩ => some { s with hangupRequested := true }
  | ⟨_, .check _⟩ | ⟨_, .retry⟩ | ⟨_, .refer⟩ => none

/-! ### Steps -/

/-- An event message of the server, well formed. -/
inductive ServerMessage where
  | playAudio
  | clearAudio
  | checkpoint
  | sendDtmf
  | agentTransfer (agentId : Option String)
  | humanTransfer (humanNumber humanId : Option String)
  | hangup
deriving DecidableEq, Repr

/-- The message handler, as far as it goes beyond the audio queue. -/
def Handler.receive (s : Handler) : ServerMessage → Handler
  | .playAudio | .clearAudio | .checkpoint | .sendDtmf => s
  | .agentTransfer (some id) =>
    { s with agentTransferInProgress := true }.spawn (.agentTransfer id)
  | .humanTransfer (some number) _ =>
    { s with agentTransferInProgress := true }.spawn (.humanNumberTransfer number)
  | .humanTransfer none (some id) =>
    { s with agentTransferInProgress := true }.spawn (.humanTransfer id)
  | .agentTransfer none | .humanTransfer none none => { s with agentTransferInProgress := false }
  | .hangup => { s with hangupReceived := true, hangupRequested := true }

/-- `WebSocketAudioHandler::sendAudioFrame`; `connected` is cleared where the frame is not sent. -/
def Handler.sendAudioFrame (s : Handler) : Handler :=
  if s.connected then
    { s with sequenceNumber := s.sequenceNumber + 1, connected := s.alive }.send
      (.media s.streamId (s.sequenceNumber + 1))
  else s

/-- `WebSocketAudioHandler::sendDtmfEvent`. -/
def Handler.sendDtmfEvent (s : Handler) : Handler :=
  if s.connected then s.send (.dtmf s.streamId) else s

/-- `WebSocketAudioHandler::sendPlayedStreamEvent`. -/
def Handler.sendPlayedStreamEvent (s : Handler) : Handler :=
  if s.connected then s.send .playedStream else s

/-- `WebSocketAudioHandler::sendStartEvent`. -/
def Handler.sendStartEvent (s : Handler) : Handler :=
  if s.connected then s.send (.start s.streamId) else s

/-- The close handler up to the question of a reconnect. -/
def Handler.decideClose (s : Handler) : Handler :=
  if s.agentTransferInProgress then s.release
  else if s.hangupReceived ∨ s.intentionalClose then
    { s.release with hangupReceived := false, hangupRequested := true }
  else s.setPhase .dropped

/-- The close handler looks for a reconnect path. -/
def Handler.findReconnectPath (s : Handler) : Handler :=
  if ¬contains s.wsUri "rupture2" ∧ s.reconnectAttempts < maxReconnectAttempts then
    s.setPhase .scheduling
  else { s.release with hangupRequested := true }

/-- `initializeWebSocket` has returned false. -/
def Handler.gaveUp (s : Handler) : Prop :=
  ¬s.initialized ∧ ∀ t ∈ s.threads, ¬t.task.isInitialize

instance (s : Handler) : Decidable s.gaveUp := inferInstanceAs (Decidable (_ ∧ _))

inductive Event where
  | openHandler                       -- the open handler sets `connected`
  | openFailed
  | startEvent                        -- the open handler sends the start event
  | receive (m : ServerMessage)
  | drop                              -- the connection is lost
  | closeHandler                      -- the close handler clears `connected`
  | decideClose
  | findReconnectPath
  | scheduleReconnect
  | audioFrame
  | dtmf
  | playedStream
  | thread (t : Thread) (ok : Bool)
  | legDown
  | disconnect                        -- `disconnect` reads `connected`
  | markClose
  | joined                            -- `disconnect` has joined the WebSocket thread
deriving DecidableEq, Repr

/-- `none` where the event is not enabled. -/
def step (env : Env) (s : Handler) : Event → Option Handler
  | .openHandler =>
    if s.phase = some .opening then some { s.setPhase .opened with connected := true } else none
  | .openFailed => if s.phase = some .opening then some s.release else none
  | .startEvent =>
    if s.phase = some .opened then some (s.sendStartEvent.setPhase .running) else none
  | .receive m => if s.phase = some .running ∧ s.alive then some (s.receive m) else none
  | .drop =>
    if s.phase = some .opened ∨ s.phase = some .running then some s.cut else none
  | .closeHandler =>
    if s.phase = some .running ∧ ¬s.alive then
      some { s.setPhase .closing with connected := false }
    else none
  | .decideClose => if s.phase = some .closing then some s.decideClose else none
  | .findReconnectPath => if s.phase = some .dropped then some s.findReconnectPath else none
  | .scheduleReconnect =>
    if s.phase = some .scheduling then
      some ({ s.release with reconnectAttempts := s.reconnectAttempts + 1 }.spawn .reconnect)
    else none
  | .audioFrame => if s.initialized then some s.sendAudioFrame else none
  | .dtmf => if s.initialized then some s.sendDtmfEvent else none
  | .playedStream => if s.initialized then some s.sendPlayedStreamEvent else none
  | .thread t ok =>
    if t ∈ s.threads then (s.without t).advance env ok t else none
  | .legDown => some { s with legUp := false }
  | .disconnect =>
    if s.teardown = .idle ∧ (¬s.legUp ∨ s.gaveUp) then
      some { s with teardown := if s.connected then .marking else .joining }
    else none
  | .markClose =>
    if s.teardown = .marking then
      some { s.close with intentionalClose := true, teardown := .joining }
    else none
  | .joined =>
    if s.teardown = .joining ∧ s.socket = none then
      some { s with teardown := .idle, returned := true }
    else none

/-- The steps of a thread, from the state without it. -/
inductive Thread.Step (env : Env) (s : Handler) : Thread → Handler → Prop
  | emptyUri {left} : Step env s ⟨.initializeWebSocket "" left, .start⟩ s
  | firstConnect {uri left} :
      Step env s ⟨.initializeWebSocket uri left, .start⟩
        (s.resume (.initializeWebSocket uri left) (.connect uri))
  | initialized {uri left} :
      Step env s ⟨.initializeWebSocket uri left, .succeeded⟩ { s with initialized := true }
  | connectAgain {uri left} :
      Step env s ⟨.initializeWebSocket uri (left + 1), .failed⟩
        (s.resume (.initializeWebSocket uri left) (.connect uri))
  | giveUp {uri} : Step env s ⟨.initializeWebSocket uri 0, .failed⟩ s
  | wait : Step env s ⟨.reconnect, .start⟩ (s.resume .reconnect (.check (reconnectUri s.wsUri)))
  | abort {uri} : s.intentionalClose → Step env s ⟨.reconnect, .check uri⟩ s
  | proceed {uri} : ¬s.intentionalClose →
      Step env s ⟨.reconnect, .check uri⟩ (s.resume .reconnect (.resetSequence uri))
  | reconnected : Step env s ⟨.reconnect, .succeeded⟩ s
  | budget : ¬s.intentionalClose → s.reconnectAttempts < maxReconnectAttempts →
      Step env s ⟨.reconnect, .failed⟩ (s.resume .reconnect .retry)
  | exhausted : Step env s ⟨.reconnect, .failed⟩ (s.resume .reconnect .hangUp)
  | retry :
      Step env s ⟨.reconnect, .retry⟩
        ({ s with reconnectAttempts := s.reconnectAttempts + 1 }.spawn .reconnect)
  | transfer {task uri} : task.isTransfer →
      Step env s ⟨task, .start⟩ (s.resume task (.closeOld uri))
  | noUri {id} : Step env s ⟨.agentTransfer id, .start⟩ (s.resume (.agentTransfer id) .failed)
  | noCallId {id} : humanUri env s.wsUri s.sampleRate = none →
      Step env s ⟨.humanTransfer id, .start⟩ { s with agentTransferInProgress := false }
  | closed {task uri} : ¬s.connected →
      Step env s ⟨task, .closeOld uri⟩ (s.resume task (afterClose uri))
  | close {task uri} : s.connected →
      Step env s ⟨task, .closeOld uri⟩ (s.close.resume task (afterClose uri))
  | setUri {task uri} :
      Step env s ⟨task, .setUri uri⟩
        ({ s with wsUri := uri, currentAgentId := task.newAgentId s.currentAgentId }.resume task
          (task.afterSetUri uri))
  | resetSequence {task uri} :
      Step env s ⟨task, .resetSequence uri⟩
        ({ s with sequenceNumber := 0 }.resume task (.resetStream uri))
  | resetStream {task uri} :
      Step env s ⟨task, .resetStream uri⟩
        ({ s with streamId := s.nextStream, nextStream := s.nextStream + 1 }.resume task
          (task.afterReset uri))
  | connect {task uri} : s.socket = none →
      Step env s ⟨task, .connect uri⟩
        ({ s with
          reconnectConnects := s.reconnectConnects + task.reconnects
          socket := some ⟨.opening, true, []⟩ }.resume task .poll)
  | notConnected {task uri} : s.socket = none →
      Step env s ⟨task, .connect uri⟩
        ({ s with reconnectConnects := s.reconnectConnects + task.reconnects }.resume task .failed)
  | connected {task} : s.connected → Step env s ⟨task, .poll⟩ (s.resume task .succeeded)
  | timeout {task} : ¬s.connected → Step env s ⟨task, .poll⟩ (s.resume task .failed)
  | transferred {task} : task.isTransfer →
      Step env s ⟨task, .succeeded⟩ { s with agentTransferInProgress := false }
  | notTransferred {task} : task.isTransfer →
      Step env s ⟨task, .failed⟩ ({ s with agentTransferInProgress := false }.resume task .hangUp)
  | invalidNumber {number} : ¬isValidPhoneNumber number →
      Step env s ⟨.humanNumberTransfer number, .refer⟩ s
  | refer {number} :
      Step env s ⟨.humanNumberTransfer number, .refer⟩ { s with referSent := true }
  | notReferred {number} :
      Step env s ⟨.humanNumberTransfer number, .refer⟩
        (s.resume (.humanNumberTransfer number) .hangUp)
  | hangUp {task} : Step env s ⟨task, .hangUp⟩ { s with hangupRequested := true }

variable {env : Env} {s s' : Handler} {t : Thread} {ok : Bool} {e : Event}

lemma Handler.begin_spec (s : Handler) (task : Task) :
    Thread.Step env s ⟨task, .start⟩ (s.begin env task) := by
  cases task with
  | initializeWebSocket uri left =>
    simp only [begin]
    split_ifs with huri
    · rw [huri]
      exact .emptyUri
    · exact .firstConnect
  | reconnect => exact .wait
  | agentTransfer id =>
    simp only [begin]
    split
    · exact .transfer rfl
    · exact .noUri
  | humanTransfer id =>
    simp only [begin]
    split
    · exact .transfer rfl
    · next huri => exact .noCallId huri
  | humanNumberTransfer number => exact .transfer rfl

lemma Handler.succeed_spec (s : Handler) (task : Task) :
    Thread.Step env s ⟨task, .succeeded⟩ (s.succeed task) := by
  cases task with
  | initializeWebSocket uri left => exact .initialized
  | reconnect => exact .reconnected
  | agentTransfer id | humanTransfer id | humanNumberTransfer number => exact .transferred rfl

lemma Handler.fail_spec (s : Handler) (task : Task) :
    Thread.Step env s ⟨task, .failed⟩ (s.fail task) := by
  cases task with
  | initializeWebSocket uri left =>
    cases left with
    | zero => exact .giveUp
    | succ left => exact .connectAgain
  | reconnect =>
    simp only [fail]
    split_ifs with hbudget
    · exact .budget hbudget.1 hbudget.2
    · exact .exhausted
  | agentTransfer id | humanTransfer id | humanNumberTransfer number => exact .notTransferred rfl

lemma Handler.connect_spec (s : Handler) {task : Task} {uri : String} (hsocket : s.socket = none) :
    Thread.Step env s ⟨task, .connect uri⟩ (s.connect ok task) := by
  cases ok with
  | true => exact .connect hsocket
  | false => exact .notConnected hsocket

lemma Handler.referCallerToHuman_spec (s : Handler) (number : String) :
    Thread.Step env s ⟨.humanNumberTransfer number, .refer⟩ (s.referCallerToHuman ok number) := by
  simp only [referCallerToHuman]
  split_ifs with hnumber
  · exact .refer
  · exact .notReferred
  · exact .invalidNumber hnumber

/-- What a step of a thread can do. -/
lemma Handler.advance_spec (h : s.advance env ok t = some s') : Thread.Step env s t s' := by
  obtain ⟨task, point⟩ := t
  cases point with
  | start =>
    cases h
    exact s.begin_spec task
  | check uri =>
    cases task with
    | reconnect =>
      simp only [advance] at h
      split_ifs at h with hclose
      · cases h
        exact .abort hclose
      · cases h
        exact .proceed hclose
    | _ => cases h
  | closeOld uri =>
    simp only [advance] at h
    split_ifs at h with hconnected
    · cases h
      exact .close hconnected
    · cases h
      exact .closed hconnected
  | setUri uri =>
    cases h
    exact .setUri
  | resetSequence uri =>
    cases h
    exact .resetSequence
  | resetStream uri =>
    cases h
    exact .resetStream
  | connect uri =>
    simp only [advance] at h
    split_ifs at h with hsocket
    cases h
    exact s.connect_spec hsocket
  | poll =>
    simp only [advance] at h
    split_ifs at h with hconnected
    · cases h
      exact .connected hconnected
    · cases h
      exact .timeout hconnected
  | succeeded =>
    cases h
    exact s.succeed_spec task
  | failed =>
    cases h
    exact s.fail_spec task
  | retry =>
    cases task with
    | reconnect =>
      cases h
      exact .retry
    | _ => cases h
  | refer =>
    cases task with
    | humanNumberTransfer number =>
      cases h
      exact s.referCallerToHuman_spec number
    | _ => cases h
  | hangUp =>
    cases h
    exact .hangUp

/-- A thread leaves the teardown and the SIP leg alone. -/
lemma Thread.Step.frame (h : Thread.Step env s t s') :
    s'.intentionalClose = s.intentionalClose ∧ s'.teardown = s.teardown ∧
      s'.returned = s.returned ∧ s'.legUp = s.legUp := by
  cases h <;> exact ⟨rfl, rfl, rfl, rfl⟩

/-- The steps of the session. -/
inductive Handler.Step (env : Env) (s : Handler) : Event → Handler → Prop
  | openHandler : s.phase = some .opening →
      Step env s .openHandler { s.setPhase .opened with connected := true }
  | openFailed : s.phase = some .opening → Step env s .openFailed s.release
  | startEvent : s.phase = some .opened → s.connected →
      Step env s .startEvent ((s.send (.start s.streamId)).setPhase .running)
  | startUnsent : s.phase = some .opened → ¬s.connected →
      Step env s .startEvent (s.setPhase .running)
  | transferEvent {m task} : s.phase = some .running → s.alive → task.isTransfer →
      Step env s (.receive m) ({ s with agentTransferInProgress := true }.spawn task)
  | noTarget {m} : s.phase = some .running →
      Step env s (.receive m) { s with agentTransferInProgress := false }
  | hangupEvent : s.phase = some .running →
      Step env s (.receive .hangup) { s with hangupReceived := true, hangupRequested := true }
  | drop : s.phase = some .opened ∨ s.phase = some .running →
      Step env s .drop s.cut
  | closeHandler : s.phase = some .running → s.alive = false →
      Step env s .closeHandler { s.setPhase .closing with connected := false }
  | silent : s.phase = some .closing → s.agentTransferInProgress →
      Step env s .decideClose s.release
  | hangUp : s.phase = some .closing →
      Step env s .decideClose
        { s.release with hangupReceived := false, hangupRequested := true }
  | dropped : s.phase = some .closing → ¬s.intentionalClose →
      Step env s .decideClose (s.setPhase .dropped)
  | reconnectPath : s.phase = some .dropped →
      Step env s .findReconnectPath (s.setPhase .scheduling)
  | noReconnectPath : s.phase = some .dropped →
      Step env s .findReconnectPath { s.release with hangupRequested := true }
  | scheduleReconnect : s.phase = some .scheduling →
      Step env s .scheduleReconnect
        ({ s.release with reconnectAttempts := s.reconnectAttempts + 1 }.spawn .reconnect)
  | audioFrame : s.connected →
      Step env s .audioFrame
        ({ s with sequenceNumber := s.sequenceNumber + 1, connected := s.alive }.send
          (.media s.streamId (s.sequenceNumber + 1)))
  | dtmf : s.connected → Step env s .dtmf (s.send (.dtmf s.streamId))
  | playedStream : s.connected → Step env s .playedStream (s.send .playedStream)
  | idle {a : Event} : Step env s a s
  | thread {u : Thread} {b : Bool} {r : Handler} : u ∈ s.threads →
      Thread.Step env (s.without u) u r → Step env s (.thread u b) r
  | legDown : Step env s .legDown { s with legUp := false }
  | disconnect : s.teardown = .idle → ¬s.legUp ∨ s.gaveUp →
      Step env s .disconnect { s with teardown := if s.connected then .marking else .joining }
  | markClose : s.teardown = .marking →
      Step env s .markClose { s.close with intentionalClose := true, teardown := .joining }
  | joined : s.teardown = .joining → s.socket = none →
      Step env s .joined { s with teardown := .idle, returned := true }

lemma Handler.receive_spec (s : Handler) {m : ServerMessage} (hphase : s.phase = some .running)
    (halive : s.alive) : Handler.Step env s (.receive m) (s.receive m) := by
  cases m with
  | playAudio | clearAudio | checkpoint | sendDtmf => exact .idle
  | agentTransfer agentId =>
    cases agentId with
    | none => exact .noTarget hphase
    | some id => exact .transferEvent hphase halive rfl
  | humanTransfer humanNumber humanId =>
    cases humanNumber with
    | none =>
      cases humanId with
      | none => exact .noTarget hphase
      | some id => exact .transferEvent hphase halive rfl
    | some number => exact .transferEvent hphase halive rfl
  | hangup => exact .hangupEvent hphase

lemma Handler.sendStartEvent_spec (s : Handler) (hphase : s.phase = some .opened) :
    Handler.Step env s .startEvent (s.sendStartEvent.setPhase .running) := by
  unfold sendStartEvent
  split_ifs with hconnected
  · exact .startEvent hphase hconnected
  · exact .startUnsent hphase hconnected

lemma Handler.decideClose_spec (s : Handler) (hphase : s.phase = some .closing) :
    Handler.Step env s .decideClose s.decideClose := by
  unfold decideClose
  split_ifs with htransfer hhangup
  · exact .silent hphase htransfer
  · exact .hangUp hphase
  · exact .dropped hphase fun hclose => hhangup (Or.inr hclose)

lemma Handler.findReconnectPath_spec (s : Handler) (hphase : s.phase = some .dropped) :
    Handler.Step env s .findReconnectPath s.findReconnectPath := by
  unfold findReconnectPath
  split_ifs with hpath
  · exact .reconnectPath hphase
  · exact .noReconnectPath hphase

lemma Handler.sendAudioFrame_spec (s : Handler) :
    Handler.Step env s .audioFrame s.sendAudioFrame := by
  unfold sendAudioFrame
  split_ifs with hconnected
  · exact .audioFrame hconnected
  · exact .idle

lemma Handler.sendDtmfEvent_spec (s : Handler) : Handler.Step env s .dtmf s.sendDtmfEvent := by
  unfold sendDtmfEvent
  split_ifs with hconnected
  · exact .dtmf hconnected
  · exact .idle

lemma Handler.sendPlayedStreamEvent_spec (s : Handler) :
    Handler.Step env s .playedStream s.sendPlayedStreamEvent := by
  unfold sendPlayedStreamEvent
  split_ifs with hconnected
  · exact .playedStream hconnected
  · exact .idle

/-- What an event can do. -/
theorem step_spec (h : step env s e = some s') : Handler.Step env s e s' := by
  cases e with
  | openHandler =>
    obtain ⟨hphase, h⟩ := Option.ite_none_right_eq_some.mp h
    cases h
    exact .openHandler hphase
  | openFailed =>
    obtain ⟨hphase, h⟩ := Option.ite_none_right_eq_some.mp h
    cases h
    exact .openFailed hphase
  | startEvent =>
    obtain ⟨hphase, h⟩ := Option.ite_none_right_eq_some.mp h
    cases h
    exact s.sendStartEvent_spec hphase
  | receive m =>
    obtain ⟨⟨hphase, halive⟩, h⟩ := Option.ite_none_right_eq_some.mp h
    cases h
    exact s.receive_spec hphase halive
  | drop =>
    obtain ⟨hphase, h⟩ := Option.ite_none_right_eq_some.mp h
    cases h
    exact .drop hphase
  | closeHandler =>
    obtain ⟨⟨hphase, halive⟩, h⟩ := Option.ite_none_right_eq_some.mp h
    cases h
    exact .closeHandler hphase (by simpa using halive)
  | decideClose =>
    obtain ⟨hphase, h⟩ := Option.ite_none_right_eq_some.mp h
    cases h
    exact s.decideClose_spec hphase
  | findReconnectPath =>
    obtain ⟨hphase, h⟩ := Option.ite_none_right_eq_some.mp h
    cases h
    exact s.findReconnectPath_spec hphase
  | scheduleReconnect =>
    obtain ⟨hphase, h⟩ := Option.ite_none_right_eq_some.mp h
    cases h
    exact .scheduleReconnect hphase
  | audioFrame =>
    obtain ⟨-, h⟩ := Option.ite_none_right_eq_some.mp h
    cases h
    exact s.sendAudioFrame_spec
  | dtmf =>
    obtain ⟨-, h⟩ := Option.ite_none_right_eq_some.mp h
    cases h
    exact s.sendDtmfEvent_spec
  | playedStream =>
    obtain ⟨-, h⟩ := Option.ite_none_right_eq_some.mp h
    cases h
    exact s.sendPlayedStreamEvent_spec
  | disconnect =>
    obtain ⟨⟨hidle, hmay⟩, h⟩ := Option.ite_none_right_eq_some.mp h
    cases h
    exact .disconnect hidle hmay
  | markClose =>
    obtain ⟨hmarking, h⟩ := Option.ite_none_right_eq_some.mp h
    cases h
    exact .markClose hmarking
  | joined =>
    obtain ⟨⟨hjoining, hsocket⟩, h⟩ := Option.ite_none_right_eq_some.mp h
    cases h
    exact .joined hjoining hsocket
  | thread t ok =>
    obtain ⟨ht, h⟩ := Option.ite_none_right_eq_some.mp h
    exact .thread ht (Handler.advance_spec h)
  | legDown =>
    cases h
    exact .legDown

/-! ### Parts of runs -/

/-- The first connection of a session, up to `initialized`. -/
def connectEvents (uri : String) : List Event :=
  [.thread ⟨.initializeWebSocket uri 2, .start⟩ true,
    .thread ⟨.initializeWebSocket uri 2, .connect uri⟩ true, .openHandler, .startEvent,
    .thread ⟨.initializeWebSocket uri 2, .poll⟩ true,
    .thread ⟨.initializeWebSocket uri 2, .succeeded⟩ true]

/-- The connection is lost and the close handler schedules a reconnect. -/
def dropEvents : List Event :=
  [.drop, .closeHandler, .decideClose, .findReconnectPath, .scheduleReconnect]

/-- A reconnect thread up to its connection; `uri` has no query. -/
def reconnectEvents (uri : String) : List Event :=
  let newUri := uri ++ "?reconnect=true"
  [.thread ⟨.reconnect, .check newUri⟩ true, .thread ⟨.reconnect, .resetSequence newUri⟩ true,
    .thread ⟨.reconnect, .resetStream newUri⟩ true, .thread ⟨.reconnect, .setUri newUri⟩ true,
    .thread ⟨.reconnect, .connect newUri⟩ true]

end MediaServer.WebSocket
