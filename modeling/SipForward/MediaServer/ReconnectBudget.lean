import SipForward.MediaServer.Teardown

/-!
# The budget of reconnects

A reconnect is started in two places: by the close handler and by a reconnect thread that did not
connect. Both read `reconnect_attempts` and count the reconnect in a later step, so that several of
them can find the same room. What is checked and not yet counted is pending.
-/

namespace MediaServer.WebSocket

open Core

variable {env : Env} {sampleRate : Int} {wsUri : String} {s s' : Handler} {t u : Thread}
  {e : Event} {es fs : List Event} {ok : Bool}

/-- The step in which a reconnect is counted and started. -/
def Event.startsReconnect : Event → Bool
  | .scheduleReconnect            => true
  | .thread ⟨.reconnect, .retry⟩ _ => true
  | _                             => false

/-- The reconnects that are checked and not yet counted. -/
def Handler.pending (s : Handler) : ℕ :=
  s.threads.count ⟨.reconnect, .retry⟩ + if s.phase = some .scheduling then 1 else 0

/-- The close handler finds a reconnect path. -/
def Handler.findsPath (s : Handler) : Prop :=
  ¬contains s.wsUri "rupture2" ∧ s.reconnectAttempts < maxReconnectAttempts

/-- A reconnect thread that did not connect will start another. -/
def Handler.retries (s : Handler) : Prop :=
  ¬s.intentionalClose ∧ s.reconnectAttempts < maxReconnectAttempts

/-- There is room beyond what is pending. -/
def Handler.hasRoom (s : Handler) : Prop :=
  s.reconnectAttempts + s.pending < maxReconnectAttempts

instance (s : Handler) : Decidable s.findsPath := inferInstanceAs (Decidable (_ ∧ _))

instance (s : Handler) : Decidable s.retries := inferInstanceAs (Decidable (_ ∧ _))

instance (s : Handler) : Decidable s.hasRoom := inferInstanceAs (Decidable (_ < _))

/-- A check that finds room is right about it, also with what is pending, and no URI with rupture2
is set between the check of the close handler and its reconnect. -/
def Unraced (s : Handler) : Event → Prop
  | .findReconnectPath              => s.findsPath → s.hasRoom
  | .thread ⟨.reconnect, .failed⟩ _  => s.retries → s.hasRoom
  | .thread ⟨_, .setUri uri⟩ _      => s.phase = some .scheduling → ¬contains uri "rupture2"
  | _                               => True

instance (s : Handler) (e : Event) : Decidable (Unraced s e) := by
  unfold Unraced
  split <;> infer_instance

/-! ### What a step counts -/

lemma Handler.count_resume {p : Point} (hp : p ≠ .retry) (s : Handler) (task : Task) :
    (s.resume task p).threads.count ⟨.reconnect, .retry⟩ =
      s.threads.count ⟨.reconnect, .retry⟩ :=
  List.count_cons_of_ne (by simp [hp])

lemma afterClose_ne_retry (uri : Option String) : afterClose uri ≠ .retry := by
  cases uri <;> simp [afterClose]

lemma Task.afterSetUri_ne_retry (uri : String) (task : Task) : task.afterSetUri uri ≠ .retry := by
  cases task <;> simp [afterSetUri]

lemma Task.afterReset_ne_retry (uri : String) (task : Task) : task.afterReset uri ≠ .retry := by
  cases task <;> simp [afterReset]

/-- A step of a thread counts a reconnect, checks for one, or leaves the budget alone. -/
lemma Thread.Step.counts (h : Thread.Step env s t s') :
    (t = ⟨.reconnect, .retry⟩ ∧ s'.reconnectAttempts = s.reconnectAttempts + 1 ∧
        s'.threads.count ⟨.reconnect, .retry⟩ = s.threads.count ⟨.reconnect, .retry⟩) ∨
      (t = ⟨.reconnect, .failed⟩ ∧ s.retries ∧ s'.reconnectAttempts = s.reconnectAttempts ∧
        s'.threads.count ⟨.reconnect, .retry⟩ = s.threads.count ⟨.reconnect, .retry⟩ + 1) ∨
      (t ≠ ⟨.reconnect, .retry⟩ ∧ s'.reconnectAttempts = s.reconnectAttempts ∧
        s'.threads.count ⟨.reconnect, .retry⟩ = s.threads.count ⟨.reconnect, .retry⟩) := by
  cases h with
  | retry => exact Or.inl ⟨rfl, rfl, Handler.count_resume (by simp) _ _⟩
  | budget hopen hroom => exact Or.inr (Or.inl ⟨rfl, ⟨hopen, hroom⟩, rfl, List.count_cons_self⟩)
  | emptyUri | initialized | giveUp | abort | reconnected | noCallId | transferred | invalidNumber
  | refer | hangUp => exact Or.inr (Or.inr ⟨by simp, rfl, rfl⟩)
  | closed | close =>
    exact Or.inr (Or.inr ⟨by simp, rfl, Handler.count_resume (afterClose_ne_retry _) _ _⟩)
  | setUri =>
    exact Or.inr (Or.inr ⟨by simp, rfl, Handler.count_resume (Task.afterSetUri_ne_retry _ _) _ _⟩)
  | resetStream =>
    exact Or.inr (Or.inr ⟨by simp, rfl, Handler.count_resume (Task.afterReset_ne_retry _ _) _ _⟩)
  | _ => exact Or.inr (Or.inr ⟨by simp, rfl, Handler.count_resume (by simp) _ _⟩)

/-- A thread sets the URI or leaves it as it is. -/
lemma Thread.Step.setsUri (h : Thread.Step env s t s') :
    (∃ task uri, t = ⟨task, .setUri uri⟩ ∧ s'.wsUri = uri) ∨ s'.wsUri = s.wsUri := by
  cases h with
  | @setUri task uri => exact Or.inl ⟨task, uri, rfl, rfl⟩
  | _ => exact Or.inr rfl

lemma Handler.count_without (ht : t ∈ s.threads) :
    s.threads.count ⟨.reconnect, .retry⟩ =
      (s.without t).threads.count ⟨.reconnect, .retry⟩ +
        if t = ⟨.reconnect, .retry⟩ then 1 else 0 := by
  rw [(List.perm_cons_erase ht).count_eq, List.count_cons]
  simp [without]

/-- What the WebSocket thread and the surroundings do, apart from the close handler that checks and
counts. -/
lemma step_frame (h : step env s e = some s') (hfind : e ≠ .findReconnectPath)
    (hschedule : e ≠ .scheduleReconnect) (hthread : ∀ t ok, e ≠ .thread t ok) :
    s'.reconnectAttempts = s.reconnectAttempts ∧ s'.wsUri = s.wsUri ∧
      s'.threads.count ⟨.reconnect, .retry⟩ = s.threads.count ⟨.reconnect, .retry⟩ ∧
        (s'.phase = some .scheduling → s.phase = some .scheduling) := by
  cases step_spec h with
  | reconnectPath | noReconnectPath => exact absurd rfl hfind
  | scheduleReconnect => exact absurd rfl hschedule
  | thread => exact absurd rfl (hthread _ _)
  | transferEvent => exact ⟨rfl, rfl, Handler.count_resume (by simp) _ _, id⟩
  | openHandler hphase | startUnsent hphase | closeHandler hphase | dropped hphase =>
    refine ⟨rfl, rfl, rfl, fun hscheduling => ?_⟩
    cases (Handler.setPhase_phase hphase _).symm.trans hscheduling
  | startEvent hphase =>
    refine ⟨rfl, rfl, rfl, fun hscheduling => ?_⟩
    cases (Handler.setPhase_phase ((s.send_phase _).trans hphase) _).symm.trans hscheduling
  | openFailed | silent | hangUp =>
    refine ⟨rfl, rfl, rfl, fun hscheduling => ?_⟩
    cases hscheduling
  | audioFrame | dtmf | playedStream =>
    exact ⟨rfl, rfl, rfl, fun hscheduling => (Handler.send_phase _ _).symm.trans hscheduling⟩
  | drop | markClose =>
    exact ⟨rfl, rfl, rfl, fun hscheduling => s.cut_phase.symm.trans hscheduling⟩
  | _ => exact ⟨rfl, rfl, rfl, id⟩

/-- The close handler checks or counts, a thread takes its step, or the budget is left alone. -/
lemma step_cases (h : step env s e = some s') :
    (e = .findReconnectPath ∧ s.phase = some .dropped ∧ s' = s.findReconnectPath) ∨
      (e = .scheduleReconnect ∧ s.phase = some .scheduling ∧
        s' = { s.release with
          reconnectAttempts := s.reconnectAttempts + 1 }.spawn .reconnect) ∨
      (∃ t ok, e = .thread t ok ∧ t ∈ s.threads ∧ Thread.Step env (s.without t) t s') ∨
      (e.startsReconnect = false ∧ s'.reconnectAttempts = s.reconnectAttempts ∧
        s'.wsUri = s.wsUri ∧
        s'.threads.count ⟨.reconnect, .retry⟩ = s.threads.count ⟨.reconnect, .retry⟩ ∧
        (s'.phase = some .scheduling → s.phase = some .scheduling)) := by
  by_cases hfind : e = .findReconnectPath
  · subst hfind
    obtain ⟨hphase, h⟩ := Option.ite_none_right_eq_some.mp h
    exact Or.inl ⟨rfl, hphase, (Option.some.inj h).symm⟩
  by_cases hschedule : e = .scheduleReconnect
  · subst hschedule
    obtain ⟨hphase, h⟩ := Option.ite_none_right_eq_some.mp h
    exact Or.inr (Or.inl ⟨rfl, hphase, (Option.some.inj h).symm⟩)
  by_cases hthread : ∃ t ok, e = .thread t ok
  · obtain ⟨t, ok, rfl⟩ := hthread
    obtain ⟨ht, h⟩ := Option.ite_none_right_eq_some.mp h
    exact Or.inr (Or.inr (Or.inl ⟨t, ok, rfl, ht, Handler.advance_spec h⟩))
  · refine Or.inr (Or.inr (Or.inr ⟨?_, step_frame h hfind hschedule fun t ok he =>
      hthread ⟨t, ok, he⟩⟩))
    cases e with
    | scheduleReconnect => exact absurd rfl hschedule
    | thread t ok => exact absurd ⟨t, ok, rfl⟩ hthread
    | _ => rfl

/-- A thread keeps the phase of the socket, or opens one. -/
lemma Thread.Step.scheduling (h : Thread.Step env s t s')
    (hscheduling : s'.phase = some .scheduling) : s.phase = some .scheduling := by
  rcases h.phase with hphase | hphase
  · exact hphase.symm.trans hscheduling
  · cases hphase.symm.trans hscheduling

/-! ### The invariant -/

/-- What was counted and what is pending fit the budget, and the close handler does not schedule a
reconnect to a URI with rupture2. -/
structure Handler.WithinBudget (s : Handler) : Prop where
  room : s.reconnectAttempts + s.pending ≤ maxReconnectAttempts
  path : s.phase = some .scheduling → ¬contains s.wsUri "rupture2"

lemma Handler.WithinBudget.new (sampleRate : Int) (wsUri : String) :
    (Handler.new sampleRate wsUri).WithinBudget where
  room := by simp [Handler.new, Handler.pending, Handler.phase]
  path := nofun

/-- Unless the close handler checks, what is pending changes with the threads. -/
lemma Handler.pending_le {m n : ℕ}
    (hcount : s'.threads.count ⟨.reconnect, .retry⟩ + m ≤
      s.threads.count ⟨.reconnect, .retry⟩ + n)
    (hphase : s'.phase = some .scheduling → s.phase = some .scheduling) :
    s'.pending + m ≤ s.pending + n := by
  unfold pending
  split_ifs with h h'
  · omega
  · exact absurd (hphase h) h'
  · omega
  · omega

lemma Handler.pending_setPhase {q : Phase} (hphase : s.phase = some q) :
    (s.setPhase .scheduling).pending ≤ s.pending + 1 := by
  unfold pending
  rw [Handler.setPhase_phase hphase, if_pos rfl]
  exact Nat.add_le_add_right (Nat.le_add_right _ _) 1

/-- The close handler checks. -/
lemma Handler.WithinBudget.findReconnectPath (hs : s.WithinBudget)
    (hphase : s.phase = some .dropped) (hg : s.findsPath → s.hasRoom) :
    s.findReconnectPath.WithinBudget := by
  unfold Handler.findReconnectPath
  split_ifs with hpath
  · have hroom : s.reconnectAttempts + s.pending < maxReconnectAttempts := hg hpath
    have hpending := Handler.pending_setPhase hphase
    exact ⟨by show s.reconnectAttempts + _ ≤ _; omega, fun _ => hpath.1⟩
  · have hpending : Handler.pending { s.release with hangupRequested := true } + 0 ≤
        s.pending + 0 := Handler.pending_le (Nat.le_refl _) nofun
    have hroom := hs.room
    exact ⟨by show s.reconnectAttempts + _ ≤ _; omega, nofun⟩

/-- The close handler counts. -/
lemma Handler.WithinBudget.schedule (hs : s.WithinBudget) (hphase : s.phase = some .scheduling) :
    ({ s.release with reconnectAttempts := s.reconnectAttempts + 1 }.spawn
      .reconnect).WithinBudget := by
  have hcount : ({ s.release with reconnectAttempts := s.reconnectAttempts + 1 }.spawn
      .reconnect).pending + 1 = s.pending := by
    unfold pending
    rw [if_pos hphase, if_neg nofun]
    exact congrArg (· + 1) (Handler.count_resume (p := .start) (by simp) s .reconnect)
  have hroom := hs.room
  exact ⟨by show s.reconnectAttempts + 1 + _ ≤ _; omega, nofun⟩

/-- A thread checks, counts, or sets the URI. -/
lemma Handler.WithinBudget.thread (hs : s.WithinBudget) (ht : t ∈ s.threads)
    (hg : Unraced s (.thread t ok)) (h : Thread.Step env (s.without t) t s') :
    s'.WithinBudget := by
  have hwithout := Handler.count_without ht
  have hphase : s'.phase = some .scheduling → s.phase = some .scheduling := h.scheduling
  have hroom := hs.room
  constructor
  · rcases h.counts with ⟨rfl, hattempts, hcount⟩ | ⟨rfl, hretries, hattempts, hcount⟩ |
      ⟨hother, hattempts, hcount⟩
    · rw [if_pos rfl, ← hcount] at hwithout
      have hpending := Handler.pending_le (m := 1) (n := 0) (le_of_eq hwithout.symm) hphase
      rw [hattempts]
      show s.reconnectAttempts + 1 + _ ≤ _
      omega
    · rw [if_neg (by simp), Nat.add_zero] at hwithout
      rw [← hwithout] at hcount
      have hpending := Handler.pending_le (m := 0) (n := 1) (le_of_eq hcount) hphase
      have hspace : s.reconnectAttempts + s.pending < maxReconnectAttempts := hg hretries
      rw [hattempts]
      show s.reconnectAttempts + _ ≤ _
      omega
    · rw [if_neg hother, Nat.add_zero, ← hcount] at hwithout
      have hpending := Handler.pending_le (m := 0) (n := 0) (le_of_eq hwithout.symm) hphase
      rw [hattempts]
      show s.reconnectAttempts + _ ≤ _
      omega
  · intro hscheduling
    rcases h.setsUri with ⟨task, uri, rfl, huri⟩ | huri
    · rw [huri]
      cases task <;> exact hg (hphase hscheduling)
    · rw [huri]
      exact hs.path (hphase hscheduling)

lemma Handler.WithinBudget.step (hs : s.WithinBudget) (hg : Unraced s e)
    (h : WebSocket.step env s e = some s') : s'.WithinBudget := by
  rcases step_cases h with ⟨rfl, hphase, rfl⟩ | ⟨rfl, hphase, rfl⟩ | ⟨t, ok, rfl, ht, hstep⟩ |
    ⟨-, hattempts, huri, hcount, hphase⟩
  · exact hs.findReconnectPath hphase hg
  · exact hs.schedule hphase
  · exact hs.thread ht hg hstep
  · have hpending := Handler.pending_le (m := 0) (n := 0) (le_of_eq hcount) hphase
    have hroom := hs.room
    refine ⟨by omega, fun hscheduling => ?_⟩
    rw [huri]
    exact hs.path (hphase hscheduling)

/-! ### What a run counts -/

lemma Handler.findReconnectPath_attempts (s : Handler) :
    s.findReconnectPath.reconnectAttempts = s.reconnectAttempts := by
  unfold findReconnectPath
  split_ifs <;> rfl

/-- A step counts a reconnect exactly where it starts one. -/
lemma step_attempts (h : step env s e = some s') :
    s'.reconnectAttempts = s.reconnectAttempts + if e.startsReconnect then 1 else 0 := by
  rcases step_cases h with ⟨rfl, -, rfl⟩ | ⟨rfl, -, rfl⟩ | ⟨t, ok, rfl, -, hstep⟩ |
    ⟨hstarts, hattempts, -⟩
  · exact s.findReconnectPath_attempts
  · rfl
  · rcases hstep.counts with ⟨rfl, hattempts, -⟩ | ⟨rfl, -, hattempts, -⟩ |
      ⟨hother, hattempts, -⟩
    · exact hattempts
    · exact hattempts
    · have hstarts : Event.startsReconnect (.thread t ok) = false := by
        obtain ⟨task, point⟩ := t
        cases task <;> cases point <;> first | rfl | exact absurd rfl hother
      rw [hstarts]
      exact hattempts
  · rw [hstarts]
    exact hattempts

/-- The counter is the number of reconnects that were started. -/
lemma run_attempts (h : run (step env) s es = some s') :
    s'.reconnectAttempts = s.reconnectAttempts + es.countP Event.startsReconnect := by
  induction es generalizing s with
  | nil =>
    cases h
    rfl
  | cons e es ih =>
    obtain ⟨s₁, h₁, h⟩ := Option.bind_eq_some_iff.mp h
    rw [ih h, step_attempts h₁, List.countP_cons]
    omega

/-! ### The hangup -/

/-- A thread stays where it is until it takes its step. -/
lemma step_mem_threads (h : step env s e = some s') (hu : u ∈ s.threads)
    (hother : ∀ ok, e ≠ .thread u ok) : u ∈ s'.threads := by
  cases step_spec h with
  | @thread t ok r ht hstep =>
    have hne : u ≠ t := by
      rintro rfl
      exact hother ok rfl
    have hwithout : u ∈ (s.without t).threads := (List.mem_erase_of_ne hne).mpr hu
    cases hstep <;> first | exact hwithout | exact List.mem_cons_of_mem _ hwithout
  | transferEvent | scheduleReconnect => exact List.mem_cons_of_mem _ hu
  | _ => exact hu

lemma step_hangupRequested (h : step env s e = some s') (hrequested : s.hangupRequested) :
    s'.hangupRequested := by
  cases step_spec h with
  | thread ht hstep => cases hstep <;> first | exact hrequested | rfl
  | _ => first | exact hrequested | rfl

lemma run_hangupRequested (h : run (step env) s es = some s') (hrequested : s.hangupRequested) :
    s'.hangupRequested :=
  run_invariant' (fun _ _ _ hs h => step_hangupRequested h hs) hrequested h

/-- `disconnect_callback` is the next step of a thread. -/
def HangsUp (env : Env) (s : Handler) (t : Thread) : Prop :=
  ∀ ok, ∃ s', step env s (.thread t ok) = some s' ∧ s'.hangupRequested

lemma hangsUp_of_mem {task : Task} (h : ⟨task, .hangUp⟩ ∈ s.threads) :
    HangsUp env s ⟨task, .hangUp⟩ := fun _ =>
  ⟨{ s.without ⟨task, .hangUp⟩ with hangupRequested := true }, if_pos h, rfl⟩

/-- A thread that is about to hang up does, unless the run ends before. -/
lemma run_hangsUp {task : Task} (h : run (step env) s es = some s')
    (hu : ⟨task, .hangUp⟩ ∈ s.threads) :
    ((∃ b, .thread ⟨task, .hangUp⟩ b ∈ es) ∧ s'.hangupRequested) ∨
      HangsUp env s' ⟨task, .hangUp⟩ := by
  induction es generalizing s with
  | nil =>
    cases h
    exact Or.inr (hangsUp_of_mem hu)
  | cons e es ih =>
    obtain ⟨s₁, h₁, h⟩ := Option.bind_eq_some_iff.mp h
    by_cases hown : ∃ ok, e = .thread ⟨task, .hangUp⟩ ok
    · obtain ⟨ok, rfl⟩ := hown
      have hhangs : HangsUp env s ⟨task, .hangUp⟩ := hangsUp_of_mem hu
      obtain ⟨r, hr, hrequested⟩ := hhangs ok
      obtain rfl : r = s₁ := Option.some.inj (hr.symm.trans h₁)
      exact Or.inl ⟨⟨ok, List.mem_cons_self⟩, run_hangupRequested h hrequested⟩
    · rcases ih h (step_mem_threads h₁ hu fun ok he => hown ⟨ok, he⟩) with
        ⟨⟨ok, hmem⟩, hrequested⟩ | hhangs
      · exact Or.inl ⟨⟨ok, List.mem_cons_of_mem _ hmem⟩, hrequested⟩
      · exact Or.inr hhangs

/-- A reconnect thread that did not connect, with the budget exhausted, is about to hang up. -/
lemma exhausted_hangsUp (h : step env s (.thread ⟨.reconnect, .failed⟩ ok) = some s')
    (hexhausted : maxReconnectAttempts ≤ s.reconnectAttempts) :
    ⟨.reconnect, .hangUp⟩ ∈ s'.threads := by
  obtain ⟨-, h⟩ := Option.ite_none_right_eq_some.mp h
  have hfail : (s.without ⟨.reconnect, .failed⟩).fail .reconnect = s' := Option.some.inj h
  have hbudget : ¬(¬(s.without ⟨.reconnect, .failed⟩).intentionalClose ∧
      (s.without ⟨.reconnect, .failed⟩).reconnectAttempts < maxReconnectAttempts) :=
    fun hroom => absurd hroom.2 (Nat.not_lt.mpr hexhausted)
  rw [Handler.fail, if_neg hbudget] at hfail
  rw [← hfail]
  exact List.mem_cons_self

/-- In a run in which no check is raced: at most as many reconnects are started as the budget has,
none by a close handler at a URI with rupture2, and a reconnect thread that did not connect, with
the budget exhausted, hangs up. -/
theorem reconnects_within_budget
    (hg : Guarded (step env) Unraced (Handler.new sampleRate wsUri) es)
    (hr : run (step env) (Handler.new sampleRate wsUri) es = some s) :
    es.countP Event.startsReconnect ≤ maxReconnectAttempts ∧
      (∀ pre post s₁, es = pre ++ .scheduleReconnect :: post →
        run (step env) (Handler.new sampleRate wsUri) pre = some s₁ →
          ¬contains s₁.wsUri "rupture2") ∧
      ∀ pre ok post s₁, es = pre ++ .thread ⟨.reconnect, .failed⟩ ok :: post →
        run (step env) (Handler.new sampleRate wsUri) pre = some s₁ →
        maxReconnectAttempts ≤ s₁.reconnectAttempts →
          ((∃ b, .thread ⟨.reconnect, .hangUp⟩ b ∈ post) ∧ s.hangupRequested) ∨
            HangsUp env s ⟨.reconnect, .hangUp⟩ := by
  have hstates : ∀ es s, Guarded (step env) Unraced (Handler.new sampleRate wsUri) es →
      run (step env) (Handler.new sampleRate wsUri) es = some s → s.WithinBudget :=
    fun es s hg hr =>
      run_invariant (fun _ _ _ hs hg h => hs.step hg h) (.new sampleRate wsUri) hg hr
  refine ⟨?_, ?_, ?_⟩
  · have hcount : s.reconnectAttempts = 0 + es.countP Event.startsReconnect := run_attempts hr
    have hroom := (hstates es s hg hr).room
    omega
  · rintro pre post s₁ rfl hpre
    rw [run_append, hpre, Option.bind_some] at hr
    obtain ⟨s₂, h₂, -⟩ := Option.bind_eq_some_iff.mp hr
    have hphase := (Option.ite_none_right_eq_some.mp h₂).1
    exact (hstates pre s₁ ((guarded_append _ _ _).mp hg).1 hpre).path hphase
  · rintro pre ok post s₁ rfl hpre hexhausted
    rw [run_append, hpre, Option.bind_some] at hr
    obtain ⟨s₂, h₂, hr⟩ := Option.bind_eq_some_iff.mp hr
    exact run_hangsUp hr (exhausted_hangsUp h₂ hexhausted)

/-! ### Two reconnects for one -/

/-- A reconnect thread up to its connection, which is not there in time. -/
def failedReconnectEvents (uri : String) : List Event :=
  .thread ⟨.reconnect, .start⟩ true ::
    (reconnectEvents uri ++ [.thread ⟨.reconnect, .poll⟩ true])

/-- It starts another, and its socket does not open. -/
def retryEvents : List Event :=
  [.thread ⟨.reconnect, .failed⟩ true, .thread ⟨.reconnect, .retry⟩ true, .openFailed]

/-- A drop and three reconnects, none of which connects. -/
def exhaustedEvents (uri : String) : List Event :=
  connectEvents uri ++ dropEvents ++ failedReconnectEvents uri ++ retryEvents ++
    failedReconnectEvents uri ++ retryEvents ++ failedReconnectEvents uri ++
    [.thread ⟨.reconnect, .failed⟩ true, .thread ⟨.reconnect, .hangUp⟩ true]

/-- The session hangs up after three reconnects. -/
theorem reconnects_within_budget_sample :
    ∃ s, run (step fun _ => none) (Handler.new 8000 "wss://host/ws")
        (exhaustedEvents "wss://host/ws") = some s ∧
      (exhaustedEvents "wss://host/ws").countP Event.startsReconnect ≤ maxReconnectAttempts := by
  have hg : Guarded (step fun _ => none) Unraced (Handler.new 8000 "wss://host/ws")
      (exhaustedEvents "wss://host/ws") := by
    decide +kernel
  exact ⟨_, rfl, (reconnects_within_budget hg rfl).1⟩

/-- The second reconnect times out, then its socket opens and drops at once: the close handler and
the reconnect thread both find room for the third. -/
def racedEvents (uri : String) : List Event :=
  connectEvents uri ++ dropEvents ++ failedReconnectEvents uri ++ retryEvents ++
    failedReconnectEvents uri ++
    [.openHandler, .startEvent, .drop, .closeHandler, .decideClose, .findReconnectPath,
      .thread ⟨.reconnect, .failed⟩ true, .scheduleReconnect, .thread ⟨.reconnect, .retry⟩ true]

/-- Four reconnects are started. -/
theorem four_reconnects : ¬∀ (env : Env) (sampleRate : Int) (wsUri : String) (es : List Event)
    (s : Handler), run (step env) (Handler.new sampleRate wsUri) es = some s →
      es.countP Event.startsReconnect ≤ maxReconnectAttempts ∧
        (∀ pre post s₁, es = pre ++ .scheduleReconnect :: post →
          run (step env) (Handler.new sampleRate wsUri) pre = some s₁ →
            ¬contains s₁.wsUri "rupture2") ∧
        ∀ pre ok post s₁, es = pre ++ .thread ⟨.reconnect, .failed⟩ ok :: post →
          run (step env) (Handler.new sampleRate wsUri) pre = some s₁ →
          maxReconnectAttempts ≤ s₁.reconnectAttempts →
            ((∃ b, .thread ⟨.reconnect, .hangUp⟩ b ∈ post) ∧ s.hangupRequested) ∨
              HangsUp env s ⟨.reconnect, .hangUp⟩ := by
  intro h
  have hcount := (h (fun _ => none) 8000 "wss://host/ws" (racedEvents "wss://host/ws") _ rfl).1
  exact absurd hcount (by decide)

end MediaServer.WebSocket
