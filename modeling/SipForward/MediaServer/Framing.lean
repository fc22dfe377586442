import SipForward.MediaServer.WebSocketHandler

/-!
# The framing of a session

What the server reads on one connection: a start event, then messages of the stream it announces,
whose media messages are numbered from 1. The open handler sets `connected` before it sends the
start event, and from then on the media clock sends frames.
-/

namespace MediaServer.WebSocket

open Core

/-! ### Framed logs -/

/-- A message after the start event of the stream. -/
def Message.inStream (id : ℕ) : Message → Bool
  | .start _      => false
  | .media i _    => i = id
  | .dtmf i       => i = id
  | .playedStream => true

def Message.mediaNumber : Message → Option ℕ
  | .media _ n => some n
  | _          => none

/-- The start event comes first, what follows belongs to its stream, and the media messages carry
the numbers 1, 2, 3, and so on. -/
def framed : List Message → Bool
  | []                => true
  | .start id :: rest =>
    let numbers := rest.filterMap Message.mediaNumber
    rest.all (Message.inStream id) && numbers = List.range' 1 numbers.length
  | _ :: _            => false

/-- A session of the stream `id` as it is built, after `n` media messages. -/
inductive Session (id : ℕ) : ℕ → List Message → Prop
  | start : Session id 0 [.start id]
  | media {n log} : Session id n log → Session id (n + 1) (log ++ [.media id (n + 1)])
  | dtmf {n log} : Session id n log → Session id n (log ++ [.dtmf id])
  | playedStream {n log} : Session id n log → Session id n (log ++ [.playedStream])

variable {env : Env} {sampleRate : Int} {wsUri : String} {s s' : Handler} {t : Thread}
  {e : Event} {es : List Event} {id n : ℕ} {log : List Message} {k : Socket}

/-- What is built that way, read from the front. -/
lemma Session.spec (h : Session id n log) :
    ∃ rest, log = .start id :: rest ∧ rest.all (Message.inStream id) ∧
      rest.filterMap Message.mediaNumber = List.range' 1 n := by
  induction h with
  | start => exact ⟨[], rfl, rfl, rfl⟩
  | @media n log h ih =>
    obtain ⟨rest, rfl, hstream, hnumbers⟩ := ih
    refine ⟨rest ++ [.media id (n + 1)], rfl, ?_, ?_⟩
    · simp [hstream, Message.inStream]
    · rw [List.filterMap_append, hnumbers, List.range'_1_concat, Nat.add_comm 1 n]
      rfl
  | dtmf h ih | playedStream h ih =>
    obtain ⟨rest, rfl, hstream, hnumbers⟩ := ih
    refine ⟨rest ++ [_], rfl, ?_, ?_⟩
    · simp [hstream, Message.inStream]
    · rw [List.filterMap_append, hnumbers]
      exact List.append_nil _

lemma Session.framed (h : Session id n log) : framed log := by
  obtain ⟨rest, rfl, hstream, hnumbers⟩ := h.spec
  simp [WebSocket.framed, hstream, hnumbers]

/-! ### Sessions of the handler -/

/-- The thread starts a new stream there. -/
def Point.resets : Point → Bool
  | .resetSequence _ | .resetStream _ => true
  | _                                 => false

/-- A connection is opened with no frame numbered since the reset, nothing is sent before its start
event, and no thread starts a new stream while it is in use. -/
def KeepsFraming (s : Handler) : Event → Prop
  | .openHandler => s.sequenceNumber = 0
  | .audioFrame | .dtmf | .playedStream => s.onAir → s.phase = some .running
  | .thread t _ => t.point.resets → ¬s.onAir
  | _ => True

instance decidableKeepsFraming (s : Handler) : ∀ e, Decidable (KeepsFraming s e)
  | .openHandler => inferInstanceAs (Decidable (s.sequenceNumber = 0))
  | .audioFrame | .dtmf | .playedStream =>
    inferInstanceAs (Decidable (s.onAir → s.phase = some .running))
  | .thread t _ => inferInstanceAs (Decidable (t.point.resets → ¬s.onAir))
  | .openFailed | .startEvent | .receive _ | .drop | .closeHandler | .decideClose
  | .findReconnectPath | .scheduleReconnect | .legDown | .disconnect | .markClose | .joined =>
    isTrue trivial

/-- What was sent on the sockets before this one and on this one is framed, and what is sent next on
this one will be. -/
structure Handler.InSession (s : Handler) : Prop where
  history : ∀ log ∈ s.history, framed log
  current : ∀ k ∈ s.socket, framed k.sent
  opening : ∀ k ∈ s.socket, k.phase = .opening → k.sent = []
  opened : s.onAir → ∀ k ∈ s.socket, k.phase = .opened → k.sent = [] ∧ s.sequenceNumber = 0
  running : s.onAir → ∀ k ∈ s.socket, k.phase = .running →
    Session s.streamId s.sequenceNumber k.sent

lemma Handler.InSession.new (sampleRate : Int) (wsUri : String) :
    (Handler.new sampleRate wsUri).InSession where
  history := by
    intro log hlog
    cases hlog
  current := by
    intro k hk
    cases hk
  opening := by
    intro k hk
    cases hk
  opened := by
    intro hair
    cases hair
  running := by
    intro hair
    cases hair

/-- The connection and what is sent on it stay as they are. -/
lemma Handler.InSession.keep (hs : s.InSession) (hhistory : s'.history = s.history)
    (hsocket : s'.socket = s.socket)
    (hstream : s'.onAir → s.onAir ∧ s'.streamId = s.streamId ∧
      s'.sequenceNumber = s.sequenceNumber) : s'.InSession := by
  refine ⟨?_, ?_, ?_, ?_, ?_⟩
  · rw [hhistory]
    exact hs.history
  · rw [hsocket]
    exact hs.current
  · rw [hsocket]
    exact hs.opening
  · intro hair
    obtain ⟨hair, -, hseq⟩ := hstream hair
    rw [hsocket, hseq]
    exact hs.opened hair
  · intro hair
    obtain ⟨hair, hid, hseq⟩ := hstream hair
    rw [hsocket, hid, hseq]
    exact hs.running hair

/-- The WebSocket thread is done with its socket. -/
lemma Handler.InSession.release (hs : s.InSession) : s.release.InSession where
  history := by
    intro log hlog
    rcases List.mem_append.mp hlog with hlog | hlog
    · exact hs.history log hlog
    · obtain ⟨k, hk, rfl⟩ := Option.map_eq_some_iff.mp (Option.mem_toList.mp hlog)
      exact hs.current k hk
  current := by
    intro k hk
    cases hk
  opening := by
    intro k hk
    cases hk
  opened := by
    intro _ k hk
    cases hk
  running := by
    intro _ k hk
    cases hk

/-- The socket has sent what it had, and nothing is to be sent on it for now. -/
lemma Handler.InSession.retire {f : Socket → Socket} (hs : s.InSession)
    (hhistory : s'.history = s.history) (hsocket : s'.socket = s.socket.map f)
    (hsent : ∀ k ∈ s.socket, (f k).sent = k.sent)
    (hphase : ∀ k ∈ s.socket, (f k).phase = .opening → k.phase = .opening)
    (hoff : s'.onAir → ∀ k ∈ s.socket, (f k).phase ≠ .opened ∧ (f k).phase ≠ .running) :
    s'.InSession := by
  refine ⟨?_, ?_, ?_, ?_, ?_⟩
  · rw [hhistory]
    exact hs.history
  · rw [hsocket]
    intro k' hk'
    obtain ⟨k, hk, rfl⟩ := Option.map_eq_some_iff.mp hk'
    rw [hsent k hk]
    exact hs.current k hk
  · rw [hsocket]
    intro k' hk' hopening
    obtain ⟨k, hk, rfl⟩ := Option.map_eq_some_iff.mp hk'
    rw [hsent k hk]
    exact hs.opening k hk (hphase k hk hopening)
  · rw [hsocket]
    intro hair k' hk' hopened
    obtain ⟨k, hk, rfl⟩ := Option.map_eq_some_iff.mp hk'
    exact absurd hopened (hoff hair k hk).1
  · rw [hsocket]
    intro hair k' hk' hrunning
    obtain ⟨k, hk, rfl⟩ := Option.map_eq_some_iff.mp hk'
    exact absurd hrunning (hoff hair k hk).2

lemma Handler.InSession.cut (hs : s.InSession) : s.cut.InSession := by
  refine hs.retire rfl rfl (fun k _ => k.close_sent) (fun k _ h => k.close_phase ▸ h) ?_
  intro hair k hk
  have halive := (Handler.onAir_iff.mp hair).2
  have hclose : k.close ∈ s.cut.socket := Option.mem_map_of_mem Socket.close hk
  rw [Handler.alive_of_mem hclose] at halive
  rw [k.close_phase, Socket.phase_of_close_alive halive]
  simp

lemma Handler.InSession.close (hs : s.InSession) : s.close.InSession :=
  hs.cut.keep rfl rfl fun hair => absurd (Handler.onAir_iff.mp hair).1 Bool.false_ne_true

/-- The close handler goes on. -/
lemma Handler.InSession.setPhase {p : Phase} (hs : s.InSession)
    (hp : p ≠ .opening ∧ p ≠ .opened ∧ p ≠ .running) : (s.setPhase p).InSession :=
  hs.retire rfl rfl (fun _ _ => rfl) (fun _ _ h => absurd h hp.1) fun _ _ _ => hp.2

/-- A socket in use: its phase and what it has sent. -/
lemma Handler.InSession.use (hhistory : ∀ log ∈ s.history, framed log) (hk : s.socket = some k)
    (hrunning : k.phase = .running) (hsession : Session s.streamId s.sequenceNumber k.sent) :
    s.InSession := by
  have hmem : ∀ j ∈ s.socket, j = k := fun j hj => Option.some.inj (hj.symm.trans hk)
  refine ⟨hhistory, ?_, ?_, ?_, ?_⟩
  · intro j hj
    rw [hmem j hj]
    exact hsession.framed
  · intro j hj hopening
    rw [hmem j hj, hrunning] at hopening
    cases hopening
  · intro _ j hj hopened
    rw [hmem j hj, hrunning] at hopened
    cases hopened
  · intro _ j hj _
    rw [hmem j hj]
    exact hsession

/-- A message is sent in a session whose start event is sent, or it is lost. -/
lemma Handler.InSession.send {m : Message} {c : Bool} (hs : s.InSession) (hconnected : s.connected)
    (hair : s.onAir → s.phase = some .running)
    (hnext : ∀ {log}, Session s.streamId s.sequenceNumber log →
      Session s.streamId n (log ++ [m])) :
    ({ s with sequenceNumber := n, connected := c }.send m).InSession := by
  by_cases halive : s.alive
  · have hon : s.onAir := Handler.onAir_iff.mpr ⟨hconnected, halive⟩
    obtain ⟨k, hk, hphase⟩ := Handler.phase_eq_some.mp (hair hon)
    have hsession := hnext (hs.running hon k hk hphase)
    rw [Handler.alive_of_mem hk] at halive
    have hsocket : s.socket.map (Socket.send m) = some { k with sent := k.sent ++ [m] } := by
      rw [hk, Option.map_some, Socket.send_of_alive halive]
    exact .use hs.history hsocket hphase hsession
  · have hlost : ¬({ s with sequenceNumber := n, connected := c } : Handler).alive := halive
    rw [Handler.send_of_not_alive hlost]
    exact hs.keep rfl rfl fun hair => absurd (Handler.onAir_iff.mp hair).2 halive

/-- The connection is opened, and no frame has been numbered since the reset. -/
lemma Handler.InSession.openHandler (hs : s.InSession) (hphase : s.phase = some .opening)
    (hseq : s.sequenceNumber = 0) :
    ({ s.setPhase .opened with connected := true } : Handler).InSession := by
  obtain ⟨k, hk, hopening⟩ := Handler.phase_eq_some.mp hphase
  have hsent : k.sent = [] := hs.opening k hk hopening
  have hmem : ∀ j ∈ (s.setPhase .opened).socket, j = { k with phase := .opened } := by
    intro j hj
    simp only [Handler.setPhase, hk, Option.map_some, Option.mem_some_iff] at hj
    exact hj.symm
  refine ⟨hs.history, ?_, ?_, ?_, ?_⟩
  · intro j hj
    rw [hmem j hj]
    exact hs.current k hk
  · intro j hj h
    rw [hmem j hj] at h
    cases h
  · intro _ j hj _
    rw [hmem j hj]
    exact ⟨hsent, hseq⟩
  · intro _ j hj h
    rw [hmem j hj] at h
    cases h

/-- The start event is not sent, and nothing will be sent on this connection. -/
lemma Handler.InSession.unsent (hs : s.InSession) (hair : ¬(s.setPhase .running).onAir) :
    (s.setPhase .running).InSession :=
  hs.retire rfl rfl (fun _ _ => rfl) (fun _ _ h => absurd h (by simp)) fun h => absurd h hair

/-- The start event is the first message of the connection, or it is lost. -/
lemma Handler.InSession.startEvent (hs : s.InSession) (hphase : s.phase = some .opened)
    (hconnected : s.connected) : ((s.send (.start s.streamId)).setPhase .running).InSession := by
  obtain ⟨k, hk, hopened⟩ := Handler.phase_eq_some.mp hphase
  have hsocket : ((s.send (.start s.streamId)).setPhase .running).socket =
      some { k.send (.start s.streamId) with phase := .running } := by
    rw [Handler.setPhase, Handler.send, hk, Option.map_some, Option.map_some]
  by_cases halive : k.alive
  · have hair : s.onAir :=
      Handler.onAir_iff.mpr ⟨hconnected, (Handler.alive_of_mem hk).trans halive⟩
    obtain ⟨hsent, hseq⟩ := hs.opened hair k hk hopened
    refine .use hs.history hsocket rfl ?_
    show Session s.streamId s.sequenceNumber (k.send (.start s.streamId)).sent
    rw [Socket.send_of_alive halive, hseq]
    show Session s.streamId 0 (k.sent ++ [.start s.streamId])
    rw [hsent]
    exact .start
  · have hlost : ¬s.alive := by
      rwa [Handler.alive_of_mem hk]
    rw [Handler.send_of_not_alive hlost]
    exact hs.unsent fun hair => absurd ((Handler.alive_setPhase s .running).symm.trans
      (Handler.onAir_iff.mp hair).2) hlost

lemma Thread.Step.inSession (h : Thread.Step env s t s') (hg : t.point.resets → ¬s.onAir)
    (hs : s.InSession) : s'.InSession := by
  cases h with
  | close => exact hs.close.keep rfl rfl fun hair => ⟨hair, rfl, rfl⟩
  | resetSequence | resetStream => exact hs.keep rfl rfl fun hair => absurd hair (hg rfl)
  | connect hsocket =>
    refine ⟨hs.history, ?_, ?_, ?_, ?_⟩
    · rintro k hk
      cases hk
      rfl
    · rintro k hk -
      cases hk
      rfl
    · rintro - k hk hopened
      cases hk
      cases hopened
    · rintro - k hk hrunning
      cases hk
      cases hrunning
  | _ => exact hs.keep rfl rfl fun hair => ⟨hair, rfl, rfl⟩

/-- Every step keeps the sessions framed. -/
lemma KeepsFraming.step (hg : KeepsFraming s e) (hs : s.InSession)
    (h : WebSocket.step env s e = some s') : s'.InSession := by
  cases step_spec h with
  | idle => exact hs
  | openHandler hphase => exact hs.openHandler hphase hg
  | openFailed => exact hs.release
  | silent | hangUp | noReconnectPath | scheduleReconnect =>
    exact hs.release.keep rfl rfl fun hair => ⟨hair, rfl, rfl⟩
  | startEvent hphase hconnected => exact hs.startEvent hphase hconnected
  | startUnsent hphase hconnected =>
    exact hs.unsent fun hair => hconnected (Handler.onAir_iff.mp hair).1
  | transferEvent | noTarget | hangupEvent | legDown | disconnect | joined =>
    exact hs.keep rfl rfl fun hair => ⟨hair, rfl, rfl⟩
  | drop => exact hs.cut
  | closeHandler =>
    have hclosing : (s.setPhase .closing).InSession := hs.setPhase (by simp)
    exact hclosing.keep rfl rfl fun hair =>
      absurd (Handler.onAir_iff.mp hair).1 Bool.false_ne_true
  | dropped | reconnectPath => exact hs.setPhase (by simp)
  | audioFrame hconnected => exact hs.send hconnected hg .media
  | dtmf hconnected => exact hs.send hconnected hg .dtmf
  | playedStream hconnected => exact hs.send hconnected hg .playedStream
  | @thread t ok r ht hstep =>
    exact hstep.inSession hg (hs.keep rfl rfl fun hair => ⟨hair, rfl, rfl⟩)
  | markClose => exact hs.close.keep rfl rfl fun hair => ⟨hair, rfl, rfl⟩

/-- What was sent on the connections, one log for each. -/
def Handler.logs (s : Handler) : List (List Message) :=
  s.history ++ (s.socket.map Socket.sent).toList

/-- In a run in which nothing is sent before the start event of a connection, no thread starts a new
stream while a connection is in use, and no frame is numbered between the reset and the opening of a
connection: what was sent on every connection is framed. -/
theorem logs_framed (hg : Guarded (step env) KeepsFraming (Handler.new sampleRate wsUri) es)
    (hr : run (step env) (Handler.new sampleRate wsUri) es = some s) :
    ∀ log ∈ s.logs, framed log := by
  have hs : s.InSession :=
    run_invariant (fun _ _ _ hs hg h => hg.step hs h) (.new sampleRate wsUri) hg hr
  intro log hlog
  rcases List.mem_append.mp hlog with hlog | hlog
  · exact hs.history log hlog
  · obtain ⟨k, hk, rfl⟩ := Option.map_eq_some_iff.mp (Option.mem_toList.mp hlog)
    exact hs.current k hk

/-- A connection with two frames, and its reconnect with one more. -/
theorem logs_framed_sample :
    ∃ s, run (step fun _ => none) (Handler.new 8000 "wss://host/ws")
        (connectEvents "wss://host/ws" ++ [.audioFrame, .dtmf, .audioFrame] ++ dropEvents ++
          [.thread ⟨.reconnect, .start⟩ true] ++ reconnectEvents "wss://host/ws" ++
          [.openHandler, .startEvent, .audioFrame]) = some s ∧
      s.logs = [[.start 0, .media 0 1, .dtmf 0, .media 0 2], [.start 1, .media 1 1]] ∧
      ∀ log ∈ s.logs, framed log := by
  have hg : Guarded (step fun _ => none) KeepsFraming (Handler.new 8000 "wss://host/ws")
      (connectEvents "wss://host/ws" ++ [.audioFrame, .dtmf, .audioFrame] ++ dropEvents ++
        [.thread ⟨.reconnect, .start⟩ true] ++ reconnectEvents "wss://host/ws" ++
        [.openHandler, .startEvent, .audioFrame]) := by
    decide +kernel
  exact ⟨_, rfl, rfl, logs_framed hg rfl⟩

/-- The media clock ticks after a reconnect has set `connected` and before the start event is
sent. -/
theorem frame_before_start :
    ¬∀ (env : Env) (sampleRate : Int) (wsUri : String) (es : List Event) (s : Handler),
      run (step env) (Handler.new sampleRate wsUri) es = some s → ∀ log ∈ s.logs, framed log := by
  intro h
  have hframed := h (fun _ => none) 8000 "wss://host/ws"
    (connectEvents "wss://host/ws" ++ dropEvents ++ [.thread ⟨.reconnect, .start⟩ true] ++
      reconnectEvents "wss://host/ws" ++ [.openHandler, .audioFrame, .startEvent]) _ rfl
      [.media 1 1, .start 1] (by decide)
  exact absurd hframed (by decide)

end MediaServer.WebSocket
