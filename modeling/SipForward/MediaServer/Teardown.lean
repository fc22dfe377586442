import SipForward.MediaServer.WebSocketHandler

/-!
# Teardown against reconnect

`disconnect` marks the close as intentional only where it finds `connected` set. A reconnect thread
reads the mark once after its sleep and once after a failed connection, and goes on for a while on
what it has read.
-/

namespace MediaServer.WebSocket

open Core

variable {env : Env} {sampleRate : Int} {wsUri : String} {s s' : Handler} {t : Thread}
  {task : Task} {p : Point} {e : Event} {es fs : List Event}

/-- A reconnect thread there tests `intentional_close` before it connects or reconnects again. -/
def Point.tests : Point → Bool
  | .start | .check _ | .poll | .succeeded | .failed | .hangUp => true
  | _                                                          => false

/-- A reconnect thread that will connect or reconnect again on what it has read. -/
def Thread.committed (t : Thread) : Bool := t.task = .reconnect && !t.point.tests

def Handler.uncommitted (s : Handler) : Prop := ∀ t ∈ s.threads, ¬t.committed

instance (s : Handler) : Decidable s.uncommitted :=
  inferInstanceAs (Decidable (∀ t ∈ s.threads, ¬t.committed))

/-- `disconnect` finds a connection to close, an earlier mark, or nothing that could open one; and
no reconnect thread is committed when the mark is set. -/
def MarksTeardown (s : Handler) : Event → Prop
  | .disconnect => s.connected ∨ s.intentionalClose ∨ (s.socket = none ∧ s.threads = [])
  | .markClose  => s.uncommitted
  | _           => True

instance decidableMarksTeardown (s : Handler) : ∀ e, Decidable (MarksTeardown s e)
  | .disconnect =>
    inferInstanceAs (Decidable (s.connected ∨ s.intentionalClose ∨
      (s.socket = none ∧ s.threads = [])))
  | .markClose => inferInstanceAs (Decidable s.uncommitted)
  | .openHandler | .openFailed | .startEvent | .receive _ | .drop | .closeHandler | .decideClose
  | .findReconnectPath | .scheduleReconnect | .audioFrame | .dtmf | .playedStream | .thread _ _
  | .legDown | .joined => isTrue trivial

/-! ### Threads after the mark -/

lemma Handler.uncommitted_without (hs : s.uncommitted) (t : Thread) : (s.without t).uncommitted :=
  fun u hu => hs u (List.mem_of_mem_erase hu)

/-- The thread goes on where it tests the mark. -/
lemma Handler.uncommitted_of_tests (hs : s.uncommitted) (hp : p.tests) :
    (s.resume task p).uncommitted := by
  refine List.forall_mem_cons.mpr ⟨?_, hs⟩
  simp [Thread.committed, hp]

/-- The thread is not a reconnect thread. -/
lemma Handler.uncommitted_of_ne (hs : s.uncommitted) (htask : task ≠ .reconnect) :
    (s.resume task p).uncommitted := by
  refine List.forall_mem_cons.mpr ⟨?_, hs⟩
  simp [Thread.committed, htask]

lemma Thread.ne_of_not_committed (ht : ¬Thread.committed ⟨task, p⟩) (hp : p.tests = false) :
    task ≠ .reconnect := by
  rintro rfl
  simp [committed, hp] at ht

lemma Task.ne_reconnect_of_isTransfer (h : task.isTransfer) : task ≠ .reconnect := by
  rintro rfl
  cases h

/-- Once the close is marked no thread becomes committed. -/
lemma Thread.Step.uncommitted (h : Thread.Step env s t s') (hclose : s.intentionalClose)
    (ht : ¬t.committed) (hs : s.uncommitted) : s'.uncommitted := by
  cases h with
  | emptyUri | initialized | giveUp | abort | reconnected | noCallId | transferred | invalidNumber
  | refer | hangUp => exact hs
  | firstConnect | connectAgain => exact Handler.uncommitted_of_ne hs (by simp)
  | wait | exhausted | noUri | notTransferred | notReferred | connect | notConnected | connected
  | timeout => exact Handler.uncommitted_of_tests hs rfl
  | proceed hopen | budget hopen => exact absurd hclose hopen
  | retry => exact absurd rfl ht
  | transfer htask =>
    exact Handler.uncommitted_of_ne hs (Task.ne_reconnect_of_isTransfer htask)
  | closed | close | setUri | resetSequence | resetStream =>
    exact Handler.uncommitted_of_ne hs (Thread.ne_of_not_committed ht rfl)

/-! ### The state of the teardown -/

/-- What holds of a teardown: under the mark nothing is committed; when `disconnect` only waits for
the WebSocket thread the close is marked, or there is nothing left that could connect; and when it
has returned no close handler is about to reconnect. -/
structure Handler.TornDown (s : Handler) : Prop where
  uncommitted : s.intentionalClose → s.uncommitted
  marked : s.teardown = .joining ∨ s.returned →
    s.intentionalClose ∨ (s.phase = none ∧ s.threads = [])
  undropped : s.returned → s.phase ≠ some .dropped ∧ s.phase ≠ some .scheduling

/-- A thread opens a connection and leaves the close handler alone. -/
lemma Thread.Step.phase (h : Thread.Step env s t s') :
    s'.phase = s.phase ∨ s'.phase = some .opening := by
  cases h with
  | connect => exact Or.inr rfl
  | close => exact Or.inl s.cut_phase
  | _ => exact Or.inl rfl

lemma Handler.TornDown.new (sampleRate : Int) (wsUri : String) :
    (Handler.new sampleRate wsUri).TornDown where
  uncommitted := by
    intro hclose
    cases hclose
  marked := by
    rintro (hjoining | hreturned)
    · cases hjoining
    · cases hreturned
  undropped := by
    intro hreturned
    cases hreturned

/-- While there is a socket a teardown that waits has marked the close. -/
lemma Handler.TornDown.marked_of_phase {q : Phase} (hs : s.TornDown) (hphase : s.phase = some q)
    (h : s.teardown = .joining ∨ s.returned) : s.intentionalClose := by
  rcases hs.marked h with hclose | ⟨hnone, -⟩
  · exact hclose
  · rw [hphase] at hnone
    cases hnone

/-- A step that leaves the teardown, the threads and the phase of the socket alone. -/
lemma Handler.TornDown.keep (hs : s.TornDown)
    (hframe : s'.intentionalClose = s.intentionalClose ∧ s'.teardown = s.teardown ∧
      s'.returned = s.returned)
    (hthreads : s'.threads = s.threads) (hphase : s'.phase = s.phase) : s'.TornDown := by
  obtain ⟨hclose, hteardown, hreturned⟩ := hframe
  refine ⟨?_, ?_, ?_⟩
  · rw [hclose, Handler.uncommitted, hthreads]
    exact hs.uncommitted
  · rw [hteardown, hreturned, hclose, hphase, hthreads]
    exact hs.marked
  · rw [hreturned, hphase]
    exact hs.undropped

/-- A step of the WebSocket thread. -/
lemma Handler.TornDown.socket {q : Phase} {r : Option Phase} (hs : s.TornDown)
    (hphase : s.phase = some q)
    (hframe : s'.intentionalClose = s.intentionalClose ∧ s'.teardown = s.teardown ∧
      s'.returned = s.returned)
    (hthreads : s.uncommitted → s'.uncommitted) (hnext : s'.phase = r)
    (hr : s.returned → r ≠ some .dropped ∧ r ≠ some .scheduling) : s'.TornDown := by
  obtain ⟨hclose, hteardown, hreturned⟩ := hframe
  refine ⟨?_, ?_, ?_⟩
  · intro hc
    exact hthreads (hs.uncommitted (hclose ▸ hc))
  · intro hj
    rw [hteardown, hreturned] at hj
    exact Or.inl (hclose.trans (hs.marked_of_phase hphase hj))
  · rw [hreturned, hnext]
    exact hr

lemma Handler.TornDown.thread (hs : s.TornDown) (ht : t ∈ s.threads)
    (h : Thread.Step env (s.without t) t s') : s'.TornDown := by
  obtain ⟨hclose, hteardown, hreturned, -⟩ := h.frame
  have hphase := h.phase
  refine ⟨?_, ?_, ?_⟩
  · intro hc
    have hunc := hs.uncommitted (hclose ▸ hc)
    exact h.uncommitted (hclose ▸ hc) (hunc t ht) (Handler.uncommitted_without hunc t)
  · intro hj
    rw [hteardown, hreturned] at hj
    rcases hs.marked hj with hc | ⟨-, hnil⟩
    · exact Or.inl (hclose.trans hc)
    · rw [hnil] at ht
      cases ht
  · intro hr
    rw [hreturned] at hr
    rcases hphase with heq | heq
    · rw [heq]
      exact hs.undropped hr
    · rw [heq]
      simp

/-- Every step keeps the state of the teardown. -/
lemma MarksTeardown.step (hg : MarksTeardown s e) (hs : s.TornDown)
    (h : WebSocket.step env s e = some s') : s'.TornDown := by
  cases step_spec h with
  | idle => exact hs
  | openHandler hphase =>
    exact hs.socket hphase ⟨rfl, rfl, rfl⟩ id (Handler.setPhase_phase hphase .opened) (by simp)
  | openFailed hphase | silent hphase | hangUp hphase | noReconnectPath hphase =>
    exact hs.socket hphase ⟨rfl, rfl, rfl⟩ id s.release_phase (by simp)
  | startEvent hphase hconnected =>
    have hsent := (s.send_phase (.start s.streamId)).trans hphase
    exact hs.socket hphase ⟨rfl, rfl, rfl⟩ id (Handler.setPhase_phase hsent .running) (by simp)
  | startUnsent hphase =>
    exact hs.socket hphase ⟨rfl, rfl, rfl⟩ id (Handler.setPhase_phase hphase .running) (by simp)
  | transferEvent hphase halive htask =>
    refine hs.socket hphase ⟨rfl, rfl, rfl⟩ (fun hunc => ?_) hphase (by simp)
    exact Handler.uncommitted_of_tests hunc rfl
  | noTarget | hangupEvent | legDown => exact hs.keep ⟨rfl, rfl, rfl⟩ rfl rfl
  | drop => exact hs.keep ⟨rfl, rfl, rfl⟩ rfl s.cut_phase
  | closeHandler hphase =>
    exact hs.socket hphase ⟨rfl, rfl, rfl⟩ id (Handler.setPhase_phase hphase .closing) (by simp)
  | dropped hphase hopen =>
    refine hs.socket hphase ⟨rfl, rfl, rfl⟩ id rfl fun hr => ?_
    exact absurd (hs.marked_of_phase hphase (Or.inr hr)) hopen
  | reconnectPath hphase =>
    refine hs.socket hphase ⟨rfl, rfl, rfl⟩ id rfl fun hr => ?_
    exact absurd hphase (hs.undropped hr).1
  | scheduleReconnect hphase =>
    refine hs.socket hphase ⟨rfl, rfl, rfl⟩ (fun hunc => ?_) s.release_phase (by simp)
    exact Handler.uncommitted_of_tests hunc rfl
  | audioFrame | dtmf | playedStream => exact hs.keep ⟨rfl, rfl, rfl⟩ rfl (s.send_phase _)
  | thread ht hstep => exact hs.thread ht hstep
  | disconnect hidle =>
    refine ⟨hs.uncommitted, ?_, hs.undropped⟩
    rintro (hjoining | hreturned)
    · rcases hg with hconnected | hclose | ⟨hsocket, hnil⟩
      · simp [hconnected] at hjoining
      · exact Or.inl hclose
      · exact Or.inr ⟨congrArg (Option.map Socket.phase) hsocket, hnil⟩
    · exact hs.marked (Or.inr hreturned)
  | markClose hmarking =>
    refine ⟨fun _ => hg, fun _ => Or.inl rfl, fun hr => ?_⟩
    show s.cut.phase ≠ _ ∧ s.cut.phase ≠ _
    rw [s.cut_phase]
    exact hs.undropped hr
  | joined hjoining hsocket =>
    have hphase : s.phase = none := congrArg (Option.map Socket.phase) hsocket
    refine ⟨hs.uncommitted, fun _ => hs.marked (Or.inl hjoining), fun _ => ?_⟩
    show s.phase ≠ _ ∧ s.phase ≠ _
    rw [hphase]
    simp

/-- The reconnects that were scheduled, and the connections that reconnect threads have asked
for. -/
def Handler.reconnects (s : Handler) : ℕ × ℕ := (s.reconnectAttempts, s.reconnectConnects)

lemma Thread.Step.reconnects (h : Thread.Step env s t s') (ht : ¬t.committed) :
    s'.reconnects = s.reconnects := by
  cases h with
  | retry => exact absurd rfl ht
  | @connect task | @notConnected task =>
    have htask : task ≠ .reconnect := Thread.ne_of_not_committed ht rfl
    cases task with
    | reconnect => exact absurd rfl htask
    | _ => rfl
  | _ => rfl

/-- After `disconnect` has returned a step neither schedules a reconnect nor connects for one. -/
lemma Handler.TornDown.reconnects (hs : s.TornDown) (hreturned : s.returned)
    (h : WebSocket.step env s e = some s') : s'.reconnects = s.reconnects := by
  cases step_spec h with
  | thread ht hstep =>
    refine hstep.reconnects ?_
    rcases hs.marked (Or.inr hreturned) with hclose | ⟨-, hnil⟩
    · exact hs.uncommitted hclose _ ht
    · rw [hnil] at ht
      cases ht
  | scheduleReconnect hphase => exact absurd hphase (hs.undropped hreturned).2
  | _ => rfl

lemma step_returned (h : step env s e = some s') (hreturned : s.returned) : s'.returned := by
  cases step_spec h with
  | thread ht hstep => exact hstep.frame.2.2.1.trans hreturned
  | joined => rfl
  | _ => exact hreturned

/-- In a run in which every call of `disconnect` marks the close or finds nothing that could
connect, and the mark is set while no reconnect thread is committed: once `disconnect` has returned,
no reconnect thread connects and no reconnect is scheduled. -/
theorem no_reconnect_after_disconnect
    (hg : Guarded (step env) MarksTeardown (Handler.new sampleRate wsUri) (es ++ fs))
    (hr : run (step env) (Handler.new sampleRate wsUri) es = some s) (hreturned : s.returned)
    (hlater : run (step env) s fs = some s') :
    s'.reconnectAttempts = s.reconnectAttempts ∧ s'.reconnectConnects = s.reconnectConnects := by
  obtain ⟨hbefore, hafter⟩ := (guarded_append _ es fs).mp hg
  have hs : s.TornDown :=
    run_invariant (fun _ _ _ hs hg h => hg.step hs h) (.new sampleRate wsUri) hbefore hr
  have hkept : s'.TornDown ∧ s'.returned ∧ s'.reconnects = s.reconnects := by
    refine run_invariant (I := fun r => r.TornDown ∧ r.returned ∧ r.reconnects = s.reconnects)
      (fun r e r' hr hg h => ?_) ⟨hs, hreturned, rfl⟩ (hafter s hr) hlater
    obtain ⟨htorn, hret, heq⟩ := hr
    exact ⟨hg.step htorn h, step_returned h hret, (htorn.reconnects hret h).trans heq⟩
  exact Prod.mk.inj hkept.2.2

/-! ### Two teardowns -/

/-- The caller hangs up, `cleanup` closes the connection, and the destructor finds it closed. -/
theorem no_reconnect_after_disconnect_sample :
    ∃ s s', run (step fun _ => none) (Handler.new 8000 "wss://host/ws")
        (connectEvents "wss://host/ws" ++
          [.legDown, .disconnect, .markClose, .closeHandler, .decideClose, .joined]) = some s ∧
      run (step fun _ => none) s [.disconnect, .joined] = some s' ∧
      s'.reconnectAttempts = s.reconnectAttempts ∧
        s'.reconnectConnects = s.reconnectConnects := by
  have hg : Guarded (step fun _ => none) MarksTeardown (Handler.new 8000 "wss://host/ws")
      ((connectEvents "wss://host/ws" ++
        [.legDown, .disconnect, .markClose, .closeHandler, .decideClose, .joined]) ++
          [.disconnect, .joined]) := by
    decide +kernel
  exact ⟨_, _, rfl, rfl, no_reconnect_after_disconnect hg rfl rfl rfl⟩

/-- The caller hangs up while a reconnect thread sleeps: `disconnect` finds `connected` cleared,
sets no mark, and returns; then the thread connects. -/
theorem reconnect_after_disconnect :
    ¬∀ (env : Env) (sampleRate : Int) (wsUri : String) (es fs : List Event) (s s' : Handler),
      run (step env) (Handler.new sampleRate wsUri) es = some s → s.returned →
        run (step env) s fs = some s' →
          s'.reconnectAttempts = s.reconnectAttempts ∧
            s'.reconnectConnects = s.reconnectConnects := by
  intro h
  have hconnects := (h (fun _ => none) 8000 "wss://host/ws"
    (connectEvents "wss://host/ws" ++ dropEvents ++
      [.thread ⟨.reconnect, .start⟩ true, .legDown, .disconnect, .joined])
    (reconnectEvents "wss://host/ws") _ _ rfl rfl rfl).2
  exact absurd hconnects (by decide)

end MediaServer.WebSocket
