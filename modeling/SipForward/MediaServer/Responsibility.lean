import SipForward.MediaServer.WebSocketHandler

/-!
# Who is responsible for the caller

The close handler stays silent while a transfer is in progress, a reconnect thread ends silently
when the close was intentional, and a transfer thread ends silently when it has succeeded, when it
finds no call id in the URI, or when the phone number is not valid. Each of them relies on somebody
else to reconnect, to refer or to hang up.
-/

namespace MediaServer.WebSocket

open Core

variable {env : Env} {sampleRate : Int} {wsUri : String} {s s' : Handler} {t u : Thread}
  {task : Task} {p : Point} {e : Event} {es : List Event}

/-! ### The connection and its flag -/

/-- The connection is established and its close handler has not begun. -/
def Phase.isOpen : Phase → Bool
  | .opened | .running => true
  | _                  => false

/-- `connected` is set for established connections only, and cleared only for those that were
lost. -/
structure Linked (connected : Bool) (socket : Option Socket) : Prop where
  isOpen : connected → ∃ k ∈ socket, k.phase.isOpen
  isConnected : ∀ k ∈ socket, k.phase.isOpen → k.alive → connected

def Handler.linked (s : Handler) : Prop := Linked s.connected s.socket

lemma Linked.none : Linked false none where
  isOpen := by
    intro h
    cases h
  isConnected := by
    intro k hk
    cases hk

/-- Nothing is established. -/
lemma Linked.of_not_open {socket : Option Socket} (h : ∀ k ∈ socket, ¬k.phase.isOpen) :
    Linked false socket where
  isOpen := by
    intro h
    cases h
  isConnected := by
    intro k hk hopen
    exact absurd hopen (h k hk)

lemma Linked.connected_eq_false {connected : Bool} {socket : Option Socket}
    (hl : Linked connected socket) (h : ∀ k ∈ socket, ¬k.phase.isOpen) : connected = false := by
  cases connected with
  | false => rfl
  | true =>
    obtain ⟨k, hk, hopen⟩ := hl.isOpen rfl
    exact absurd hopen (h k hk)

/-- The socket keeps its phase and comes to no life. -/
lemma Linked.map {connected : Bool} {socket : Option Socket} {f : Socket → Socket}
    (hl : Linked connected socket) (hphase : ∀ k ∈ socket, (f k).phase.isOpen = k.phase.isOpen)
    (halive : ∀ k ∈ socket, (f k).alive → k.alive) : Linked connected (socket.map f) where
  isOpen := by
    intro h
    obtain ⟨k, hk, hopen⟩ := hl.isOpen h
    exact ⟨f k, Option.mem_map_of_mem f hk, (hphase k hk).trans hopen⟩
  isConnected := by
    intro k' hk' hopen hlive
    obtain ⟨k, hk, rfl⟩ := Option.map_eq_some_iff.mp hk'
    exact hl.isConnected k hk ((hphase k hk).symm.trans hopen) (halive k hk hlive)

lemma Linked.cut {connected connected' : Bool} {socket : Option Socket}
    (hl : Linked connected socket) (h : connected' → connected) :
    Linked connected' (socket.map Socket.close) where
  isOpen := by
    intro h'
    obtain ⟨k, hk, hopen⟩ := hl.isOpen (h h')
    exact ⟨k.close, Option.mem_map_of_mem Socket.close hk, k.close_phase ▸ hopen⟩
  isConnected := by
    intro k' hk' hopen halive
    obtain ⟨k, hk, rfl⟩ := Option.map_eq_some_iff.mp hk'
    rw [k.close_phase, Socket.phase_of_close_alive halive] at hopen
    cases hopen

lemma Handler.forall_phase {q : Phase} (hphase : s.phase = some q) :
    ∀ k ∈ s.socket, k.phase = q := by
  intro k hk
  rw [Handler.phase_of_mem hk] at hphase
  exact Option.some.inj hphase

/-- The WebSocket thread moves on with its socket. -/
lemma Handler.linked.setPhase {q r : Phase} (hl : s.linked) (hphase : s.phase = some q)
    (h : r.isOpen = q.isOpen) : (s.setPhase r).linked := by
  refine Linked.map hl (fun k hk => ?_) fun _ _ h => h
  rw [Handler.forall_phase hphase k hk]
  exact h

/-- The WebSocket thread is done with a socket that is not open. -/
lemma Handler.linked.release {q : Phase} (hl : s.linked) (hphase : s.phase = some q)
    (h : q.isOpen = false) : s.release.linked := by
  have hconnected : s.connected = false := by
    refine Linked.connected_eq_false hl fun k hk => ?_
    rw [Handler.forall_phase hphase k hk, h]
    exact Bool.false_ne_true
  show Linked s.connected none
  rw [hconnected]
  exact .none

lemma Handler.linked.send (hl : s.linked) (m : Message) : (s.send m).linked :=
  Linked.map hl (fun k _ => by rw [k.send_phase]) fun k _ h => by rwa [k.send_alive] at h

lemma Thread.Step.linked (h : Thread.Step env s t s') (hl : s.linked) : s'.linked := by
  cases h with
  | close => exact Linked.cut hl fun h => absurd h Bool.false_ne_true
  | connect hsocket =>
    have hconnected : s.connected = false := by
      refine Linked.connected_eq_false hl fun k hk => ?_
      rw [hsocket] at hk
      cases hk
    show Linked s.connected (some ⟨.opening, true, []⟩)
    rw [hconnected]
    refine .of_not_open fun k hk => ?_
    cases hk
    exact Bool.false_ne_true
  | _ => exact hl

lemma Handler.linked.step (hl : s.linked) (h : WebSocket.step env s e = some s') : s'.linked := by
  cases step_spec h with
  | openHandler hphase =>
    obtain ⟨k, hk, -⟩ := Handler.phase_eq_some.mp hphase
    refine ⟨fun _ => ⟨{ k with phase := .opened }, ?_, rfl⟩, fun _ _ _ _ => rfl⟩
    exact Option.mem_map_of_mem _ hk
  | openFailed hphase | silent hphase | hangUp hphase | noReconnectPath hphase
  | scheduleReconnect hphase => exact hl.release hphase rfl
  | startEvent hphase =>
    exact (hl.send _).setPhase ((s.send_phase _).trans hphase) rfl
  | startUnsent hphase | dropped hphase | reconnectPath hphase => exact hl.setPhase hphase rfl
  | closeHandler =>
    refine .of_not_open fun k' hk' => ?_
    obtain ⟨k, hk, rfl⟩ := Option.map_eq_some_iff.mp hk'
    exact Bool.false_ne_true
  | drop => exact Linked.cut hl id
  | markClose => exact Linked.cut hl fun h => absurd h Bool.false_ne_true
  | audioFrame hconnected =>
    refine Handler.linked.send ?_ _
    refine ⟨fun _ => hl.isOpen hconnected, fun k hk _ halive => ?_⟩
    exact (Handler.alive_of_mem hk).trans halive
  | dtmf | playedStream => exact hl.send _
  | thread ht hstep => exact hstep.linked hl
  | _ => exact hl

/-! ### The connection loop of the media port -/

/-- 1 while `initializeWebSocket` runs and after it has succeeded, 0 after it has given up. -/
def Handler.port (s : Handler) : ℕ :=
  s.threads.countP (fun t => t.task.isInitialize) + s.initialized.toNat

lemma Handler.gaveUp_iff : s.gaveUp ↔ s.port = 0 := by
  simp [gaveUp, port, List.countP_eq_zero, and_comm]

lemma Handler.port_without (ht : t ∈ s.threads) :
    (s.without t).port + t.task.isInitialize.toNat = s.port := by
  have herase := (List.perm_cons_erase ht).countP_eq fun t => t.task.isInitialize
  rw [List.countP_cons] at herase
  simp only [port, without, herase]
  cases t.task.isInitialize <;> simp; omega

lemma Handler.port_resume (s : Handler) (task : Task) (p : Point) :
    (s.resume task p).port = s.port + task.isInitialize.toNat := by
  simp only [port, resume, List.countP_cons]
  cases task.isInitialize <;> simp; omega

lemma Thread.Step.port (h : Thread.Step env s t s') :
    s'.port ≤ s.port + t.task.isInitialize.toNat := by
  cases h with
  | emptyUri | giveUp | abort | reconnected | noCallId | transferred | invalidNumber | refer
  | hangUp => exact Nat.le_add_right _ _
  | initialized =>
    show s.threads.countP _ + 1 ≤ s.threads.countP _ + s.initialized.toNat + 1
    omega
  | _ => exact (Handler.port_resume _ _ _).le

lemma Task.isInitialize_of_isTransfer (h : task.isTransfer) : task.isInitialize = false := by
  cases task with
  | initializeWebSocket uri left => cases h
  | _ => rfl

/-- The loop runs once: after a step it is where it was, or further. -/
lemma step_port (h : step env s e = some s') : s'.port ≤ s.port := by
  cases step_spec h with
  | transferEvent hphase halive htask =>
    rw [Handler.spawn, Handler.port_resume, Task.isInitialize_of_isTransfer htask]
    exact Nat.le_refl _
  | scheduleReconnect hphase =>
    rw [Handler.spawn, Handler.port_resume]
    exact Nat.le_refl _
  | thread ht hstep =>
    rw [← Handler.port_without ht]
    exact hstep.port
  | _ => exact Nat.le_refl _

/-! ### Responsibility -/

/-- A REFER was sent or a hangup requested. -/
def Handler.handedOver (s : Handler) : Bool := s.referSent || s.hangupRequested

/-- There is a connection whose close handler has still to decide. -/
def Handler.undecided (s : Handler) : Bool := s.phase.any fun q => q ≠ .opening

/-- The thread connects, refers or hangs up, or ends its transfer. -/
def Thread.tends (t : Thread) : Bool := t.point ≠ .succeeded || t.task.isTransfer

/-- Somebody is responsible for the caller. -/
def Handler.tended (s : Handler) : Prop :=
  s.handedOver ∨ s.undecided ∨ ∃ t ∈ s.threads, t.tends

instance (s : Handler) : Decidable s.tended := inferInstanceAs (Decidable (_ ∨ _ ∨ _))

/-- Somebody ends the transfer, or nobody needs to. -/
def Handler.transferred (s : Handler) : Prop :=
  s.handedOver ∨ ∃ t ∈ s.threads, t.task.isTransfer

instance (s : Handler) : Decidable s.transferred := inferInstanceAs (Decidable (_ ∨ _))

/-- A thread that ends silently leaves somebody else who is responsible. `s` is the state without
it. -/
def Thread.leaves (env : Env) (s : Handler) (t : Thread) : Prop :=
  match t.point, t.task with
  | .succeeded, task                    => task.isTransfer → s.tended
  | .start, .humanTransfer _            => humanUri env s.wsUri s.sampleRate = none → s.tended
  | .refer, .humanNumberTransfer number => isValidPhoneNumber number ∨ s.transferred
  | _, _                                => True

instance decidableLeaves (env : Env) (s : Handler) : ∀ t, Decidable (Thread.leaves env s t)
  | ⟨task, .succeeded⟩ => inferInstanceAs (Decidable (task.isTransfer → s.tended))
  | ⟨.humanTransfer _, .start⟩ =>
    inferInstanceAs (Decidable (humanUri env s.wsUri s.sampleRate = none → s.tended))
  | ⟨.humanNumberTransfer number, .refer⟩ =>
    inferInstanceAs (Decidable (isValidPhoneNumber number ∨ s.transferred))
  | ⟨.initializeWebSocket _ _, .start⟩ | ⟨.reconnect, .start⟩ | ⟨.agentTransfer _, .start⟩
  | ⟨.humanNumberTransfer _, .start⟩ | ⟨.initializeWebSocket _ _, .refer⟩ | ⟨.reconnect, .refer⟩
  | ⟨.agentTransfer _, .refer⟩ | ⟨.humanTransfer _, .refer⟩ | ⟨_, .check _⟩ | ⟨_, .closeOld _⟩
  | ⟨_, .setUri _⟩ | ⟨_, .resetSequence _⟩ | ⟨_, .resetStream _⟩ | ⟨_, .connect _⟩ | ⟨_, .poll⟩
  | ⟨_, .failed⟩ | ⟨_, .retry⟩ | ⟨_, .hangUp⟩ => isTrue trivial

/-- Every thread that ends silently leaves somebody else who is responsible. -/
def LeavesResponsible (env : Env) (s : Handler) : Event → Prop
  | .thread t _ => t.leaves env (s.without t)
  | _           => True

instance decidableLeavesResponsible (env : Env) (s : Handler) :
    ∀ e, Decidable (LeavesResponsible env s e)
  | .thread t _ => decidableLeaves env (s.without t) t
  | .openHandler | .openFailed | .startEvent | .receive _ | .drop | .closeHandler | .decideClose
  | .findReconnectPath | .scheduleReconnect | .audioFrame | .dtmf | .playedStream | .legDown
  | .disconnect | .markClose | .joined => isTrue trivial

/-- What holds in every state: at most one connection loop, a teardown only for a leg that is down
or a port that has given up, somebody for a transfer in progress, and somebody for the caller. -/
structure Handler.Attended (s : Handler) : Prop where
  linked : s.linked
  once : s.port ≤ 1
  teardown : s.teardown ≠ .idle ∨ s.intentionalClose → ¬s.legUp ∨ s.port = 0
  transferring : s.agentTransferInProgress → s.transferred
  someone : s.legUp → s.port = 0 ∨ s.tended

lemma Handler.Attended.new (sampleRate : Int) (wsUri : String) :
    (Handler.new sampleRate wsUri).Attended where
  linked := .none
  once := Nat.le_refl 1
  teardown := by
    rintro (h | h)
    · exact absurd rfl h
    · cases h
  transferring := by
    intro h
    cases h
  someone := fun _ => Or.inr (Or.inr (Or.inr ⟨_, List.mem_cons_self, rfl⟩))

/-! ### Steps of a thread -/

lemma Handler.tended_resume (hp : p ≠ .succeeded) : (s.resume task p).tended :=
  Or.inr (Or.inr ⟨⟨task, p⟩, List.mem_cons_self, by simp [Thread.tends, hp]⟩)

lemma Handler.transferred_resume (htask : task.isTransfer) : (s.resume task p).transferred :=
  Or.inr ⟨⟨task, p⟩, List.mem_cons_self, htask⟩

lemma Handler.tended_of_transferred (h : s.transferred) : s.tended := by
  rcases h with hover | ⟨t, ht, htask⟩
  · exact Or.inl hover
  · exact Or.inr (Or.inr ⟨t, ht, by simp [Thread.tends, htask]⟩)

lemma Handler.tended_of_connected (hl : s.linked) (h : s.connected) : s.tended := by
  obtain ⟨k, hk, hopen⟩ := hl.isOpen h
  refine Or.inr (Or.inl ?_)
  rw [Handler.undecided, Handler.phase_of_mem hk, Option.any_some]
  refine decide_eq_true fun hopening => ?_
  rw [hopening] at hopen
  cases hopen

/-- No other thread goes away. -/
lemma Thread.Step.threads (h : Thread.Step env s t s') : s.threads ⊆ s'.threads := by
  cases h with
  | emptyUri | giveUp | abort | reconnected | noCallId | transferred | invalidNumber | refer
  | hangUp | initialized => exact fun _ hu => hu
  | _ => exact fun _ hu => List.mem_cons_of_mem _ hu

lemma Thread.Step.handedOver_mono (h : Thread.Step env s t s') (hs : s.handedOver) :
    s'.handedOver := by
  cases h with
  | refer => rfl
  | hangUp => exact Bool.or_true _
  | _ => exact hs

lemma Thread.Step.undecided_mono (h : Thread.Step env s t s') (hs : s.undecided) :
    s'.undecided := by
  cases h with
  | close =>
    show s.cut.undecided
    rw [Handler.undecided, s.cut_phase]
    exact hs
  | connect hsocket =>
    rw [Handler.undecided, Handler.phase, hsocket] at hs
    cases hs
  | _ => exact hs

lemma Thread.Step.tended_mono (h : Thread.Step env s t s') (hs : s.tended) : s'.tended := by
  rcases hs with hover | hsocket | ⟨u, hu, htends⟩
  · exact Or.inl (h.handedOver_mono hover)
  · exact Or.inr (Or.inl (h.undecided_mono hsocket))
  · exact Or.inr (Or.inr ⟨u, h.threads hu, htends⟩)

lemma Thread.Step.transferred_mono (h : Thread.Step env s t s') (hs : s.transferred) :
    s'.transferred := by
  rcases hs with hover | ⟨u, hu, htask⟩
  · exact Or.inl (h.handedOver_mono hover)
  · exact Or.inr ⟨u, h.threads hu, htask⟩

lemma afterClose_ne_succeeded (uri : Option String) : afterClose uri ≠ .succeeded := by
  cases uri <;> exact nofun

lemma Task.afterReset_ne_succeeded (uri : String) (task : Task) :
    task.afterReset uri ≠ .succeeded := by
  cases task <;> exact nofun

lemma Task.afterSetUri_ne_succeeded (uri : String) (task : Task) :
    task.afterSetUri uri ≠ .succeeded := by
  cases task <;> exact nofun

/-- A thread that was responsible leaves somebody who is, or gives up for good. -/
lemma Thread.Step.someone (h : Thread.Step env s t s') (hg : t.leaves env s) (hl : s.linked)
    (hport : t.task.isInitialize → s.port = 0) (ht : t.tends ∨ s.tended) :
    s.intentionalClose ∨ s'.port = 0 ∨ s'.tended := by
  rcases ht with ht | hs
  · cases h with
    | emptyUri | giveUp => exact Or.inr (Or.inl (hport rfl))
    | initialized | reconnected => cases ht
    | abort hclose => exact Or.inl hclose
    | noCallId huri => exact Or.inr (Or.inr (hg huri))
    | transferred htask => exact Or.inr (Or.inr (hg htask))
    | invalidNumber hnumber =>
      exact Or.inr (Or.inr (Handler.tended_of_transferred (hg.resolve_left hnumber)))
    | connected hconnected =>
      exact Or.inr (Or.inr (Handler.tended_of_connected hl hconnected))
    | refer => exact Or.inr (Or.inr (Or.inl rfl))
    | hangUp => exact Or.inr (Or.inr (Or.inl (Bool.or_true _)))
    | closed | close =>
      exact Or.inr (Or.inr (Handler.tended_resume (afterClose_ne_succeeded _)))
    | setUri => exact Or.inr (Or.inr (Handler.tended_resume (Task.afterSetUri_ne_succeeded _ _)))
    | resetStream =>
      exact Or.inr (Or.inr (Handler.tended_resume (Task.afterReset_ne_succeeded _ _)))
    | _ => exact Or.inr (Or.inr (Handler.tended_resume nofun))
  · exact Or.inr (Or.inr (h.tended_mono hs))

/-- A thread of a transfer goes on with it, hands the caller over, or ends the transfer. -/
lemma Thread.Step.transferring (h : Thread.Step env s t s') (hg : t.leaves env s)
    (hflag : s'.agentTransferInProgress) (ht : t.task.isTransfer ∨ s.transferred) :
    s'.transferred := by
  rcases ht with ht | hs
  · cases h with
    | emptyUri | giveUp | initialized | firstConnect | connectAgain | wait | abort | proceed
    | reconnected | budget | exhausted | retry => cases ht
    | noCallId | transferred | notTransferred => cases hflag
    | invalidNumber hnumber => exact hg.resolve_left hnumber
    | refer => exact Or.inl rfl
    | hangUp => exact Or.inl (Bool.or_true _)
    | _ => exact Handler.transferred_resume ht
  · exact h.transferred_mono hs

lemma Thread.Step.transferInProgress (h : Thread.Step env s t s')
    (hflag : s'.agentTransferInProgress) : s.agentTransferInProgress := by
  cases h with
  | noCallId | transferred | notTransferred => cases hflag
  | _ => exact hflag

lemma Handler.exists_without {P : Thread → Prop} (h : ∃ u ∈ s.threads, P u) (t : Thread) :
    P t ∨ ∃ u ∈ (s.without t).threads, P u := by
  obtain ⟨u, hu, hP⟩ := h
  by_cases heq : u = t
  · exact Or.inl (heq ▸ hP)
  · exact Or.inr ⟨u, (List.mem_erase_of_ne heq).mpr hu, hP⟩

lemma Handler.Attended.thread (hs : s.Attended) (hg : t.leaves env (s.without t))
    (ht : t ∈ s.threads) (h : Thread.Step env (s.without t) t s') : s'.Attended := by
  obtain ⟨hclose, hteardown, -, hleg⟩ := h.frame
  have hwithout := Handler.port_without ht
  have hport : s'.port ≤ s.port := hwithout ▸ h.port
  have hdown : s'.teardown ≠ .idle ∨ s'.intentionalClose → ¬s'.legUp ∨ s'.port = 0 := by
    rw [hteardown, hclose, hleg]
    intro hd
    exact (hs.teardown hd).imp_right fun hzero => Nat.le_zero.mp (hport.trans hzero.le)
  refine ⟨h.linked hs.linked, hport.trans hs.once, hdown, ?_, ?_⟩
  · intro hflag
    refine h.transferring hg hflag ?_
    rcases hs.transferring (h.transferInProgress hflag) with hover | hthread
    · exact Or.inr (Or.inl hover)
    · exact (Handler.exists_without hthread t).imp_right Or.inr
  · intro hup
    have hinit : t.task.isInitialize → (s.without t).port = 0 := by
      intro hinit
      have honce := hs.once
      rw [← hwithout, hinit] at honce
      exact Nat.le_zero.mp (Nat.le_of_succ_le_succ honce)
    have htends : s.tended → t.tends ∨ (s.without t).tended := by
      rintro (hover | hsocket | hthread)
      · exact Or.inr (Or.inl hover)
      · exact Or.inr (Or.inr (Or.inl hsocket))
      · exact (Handler.exists_without hthread t).imp_right fun h => Or.inr (Or.inr h)
    rcases hs.someone (hleg ▸ hup) with hzero | htended
    · exact Or.inl (Nat.le_zero.mp (hport.trans hzero.le))
    · rcases h.someone hg hs.linked hinit (htends htended) with hmark | hnext
      · have hdead := hdown (Or.inr (hclose.trans hmark))
        exact Or.inl (hdead.resolve_left (not_not_intro hup))
      · exact hnext

/-! ### Steps of the session -/

lemma Handler.undecided_setPhase {q r : Phase} (h : s.phase = some q) (hr : r ≠ .opening) :
    (s.setPhase r).undecided := by
  rw [undecided, setPhase_phase h, Option.any_some]
  exact decide_eq_true hr

lemma Handler.tended.keep (hs : s.tended) (hover : s'.handedOver = s.handedOver)
    (hphase : s'.phase = s.phase) (hthreads : s'.threads = s.threads) : s'.tended := by
  rw [tended, undecided, hover, hphase, hthreads]
  exact hs

/-- A step that neither begins a teardown nor takes the leg down. -/
lemma Handler.Attended.next (hs : s.Attended) (h : step env s e = some s')
    (hdown : s'.teardown = s.teardown ∧ s'.intentionalClose = s.intentionalClose)
    (hleg : s'.legUp = s.legUp) (htransfer : s'.agentTransferInProgress → s'.transferred)
    (htended : s.tended → s'.tended) : s'.Attended := by
  have hport := step_port h
  have hzero : s.port = 0 → s'.port = 0 := fun hzero => Nat.le_zero.mp (hport.trans hzero.le)
  refine ⟨hs.linked.step h, hport.trans hs.once, ?_, htransfer, ?_⟩
  · rw [hdown.1, hdown.2, hleg]
    intro hd
    exact (hs.teardown hd).imp_right hzero
  · rw [hleg]
    intro hup
    exact (hs.someone hup).imp hzero htended

/-- Every step leaves somebody who is responsible. -/
lemma LeavesResponsible.step (hg : LeavesResponsible env s e) (hs : s.Attended)
    (h : WebSocket.step env s e = some s') : s'.Attended := by
  cases step_spec h with
  | idle => exact hs
  | thread ht hstep => exact hs.thread hg ht hstep
  | openHandler hphase =>
    have hnext : (s.setPhase .opened).undecided := Handler.undecided_setPhase hphase nofun
    exact hs.next h ⟨rfl, rfl⟩ rfl hs.transferring fun _ => Or.inr (Or.inl hnext)
  | openFailed hphase =>
    refine hs.next h ⟨rfl, rfl⟩ rfl hs.transferring ?_
    rintro (hover | hsocket | hthread)
    · exact Or.inl hover
    · rw [Handler.undecided, hphase] at hsocket
      cases hsocket
    · exact Or.inr (Or.inr hthread)
  | startEvent hphase =>
    have hsent := (s.send_phase (.start s.streamId)).trans hphase
    have hnext : ((s.send (.start s.streamId)).setPhase .running).undecided :=
      Handler.undecided_setPhase hsent nofun
    exact hs.next h ⟨rfl, rfl⟩ rfl hs.transferring fun _ => Or.inr (Or.inl hnext)
  | startUnsent hphase | dropped hphase | reconnectPath hphase =>
    exact hs.next h ⟨rfl, rfl⟩ rfl hs.transferring fun _ =>
      Or.inr (Or.inl (Handler.undecided_setPhase hphase nofun))
  | transferEvent hphase halive htask =>
    exact hs.next h ⟨rfl, rfl⟩ rfl (fun _ => Handler.transferred_resume htask)
      fun _ => Handler.tended_resume nofun
  | noTarget => exact hs.next h ⟨rfl, rfl⟩ rfl (fun hflag => by cases hflag) id
  | hangupEvent =>
    exact hs.next h ⟨rfl, rfl⟩ rfl (fun _ => Or.inl (Bool.or_true _))
      fun _ => Or.inl (Bool.or_true _)
  | drop =>
    exact hs.next h ⟨rfl, rfl⟩ rfl hs.transferring fun ht => ht.keep rfl s.cut_phase rfl
  | closeHandler hphase =>
    have hnext : (s.setPhase .closing).undecided := Handler.undecided_setPhase hphase nofun
    exact hs.next h ⟨rfl, rfl⟩ rfl hs.transferring fun _ => Or.inr (Or.inl hnext)
  | silent hphase hflag =>
    exact hs.next h ⟨rfl, rfl⟩ rfl hs.transferring fun _ =>
      Handler.tended_of_transferred (hs.transferring hflag)
  | hangUp | noReconnectPath =>
    exact hs.next h ⟨rfl, rfl⟩ rfl (fun _ => Or.inl (Bool.or_true _))
      fun _ => Or.inl (Bool.or_true _)
  | scheduleReconnect =>
    refine hs.next h ⟨rfl, rfl⟩ rfl (fun hflag => ?_) fun _ => Handler.tended_resume nofun
    rcases hs.transferring hflag with hover | ⟨t, ht, htask⟩
    · exact Or.inl hover
    · exact Or.inr ⟨t, List.mem_cons_of_mem _ ht, htask⟩
  | audioFrame | dtmf | playedStream =>
    exact hs.next h ⟨rfl, rfl⟩ rfl hs.transferring fun ht => ht.keep rfl (s.send_phase _) rfl
  | legDown =>
    exact ⟨hs.linked, hs.once, fun _ => Or.inl Bool.false_ne_true, hs.transferring,
      fun hup => by cases hup⟩
  | disconnect hidle hmay =>
    have hdown : ¬s.legUp ∨ s.port = 0 := hmay.imp_right Handler.gaveUp_iff.mp
    exact ⟨hs.linked, hs.once, fun _ => hdown, hs.transferring, hs.someone⟩
  | markClose hmarking =>
    have hdown := hs.teardown (Or.inl (by simp [hmarking]))
    exact ⟨hs.linked.step h, hs.once, fun _ => hdown, hs.transferring,
      fun hup => (hs.someone hup).imp_right fun ht => ht.keep rfl s.cut_phase rfl⟩
  | joined hjoining =>
    have hdown := hs.teardown (Or.inl (by simp [hjoining]))
    exact ⟨hs.linked, hs.once, fun _ => hdown, hs.transferring, hs.someone⟩

/-- No reconnect or transfer thread runs, and no close handler runs or is due. -/
def Handler.atRest (s : Handler) : Prop :=
  s.threads = [] ∧ ∀ k ∈ s.socket, k.phase ≠ .opening → k.alive ∧ k.phase.isOpen

instance (s : Handler) : Decidable s.atRest :=
  inferInstanceAs (Decidable (s.threads = [] ∧ ∀ k ∈ s.socket, _))

lemma Handler.exists_of_undecided (h : s.undecided) : ∃ k ∈ s.socket, k.phase ≠ .opening := by
  rw [undecided, phase, Option.any_map] at h
  obtain ⟨k, hk, hphase⟩ := (Option.any_eq_true _ _).mp h
  exact ⟨k, hk, of_decide_eq_true hphase⟩

/-- A transfer to a phone number, up to `referCallerToHuman`, and the close handler. -/
def phoneTransferEvents (number : String) : List Event :=
  [.receive (.humanTransfer (some number) none), .thread ⟨.humanNumberTransfer number, .start⟩ true,
    .thread ⟨.humanNumberTransfer number, .closeOld none⟩ true,
    .thread ⟨.humanNumberTransfer number, .refer⟩ true, .closeHandler, .decideClose]

end MediaServer.WebSocket
