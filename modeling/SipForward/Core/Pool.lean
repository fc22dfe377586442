import SipForward.Core.Monitor

/-!
# Pools of workers

Workers take what producers hand over from the queues of one or more monitors, until they are told
to end: a flag is cleared, all workers of every monitor are notified, and they are waited for. The
flag is cleared and the notifications are sent without a mutex. A program says what is queued where
and what the workers do with it.
-/

namespace Core

/-- What producers and workers do. -/
structure Program (ι α ω γ δ : Type*) where
  /-- The monitor and the element for what a producer hands over, after `n` others. -/
  accept : ℕ → ι → ℕ × α
  /-- The work that is to be done on an element. -/
  take : α → ω
  /-- Where a worker goes that finds no element, while the workers run or after that. -/
  empty : Bool → Option ω
  /-- A step of a worker that is away, while the workers run or after that: where it goes on, and
  what it has done. `γ` is what comes from outside. -/
  go : Bool → ω → γ → Option (Option ω × List δ)
  ended : ω → Bool

/-- A worker that has ended does nothing more. -/
def Program.Final {ι α ω γ δ : Type*} (prog : Program ι α ω γ δ) : Prop :=
  ∀ running w x, prog.ended w = true → prog.go running w x = none

/-- How far the shutdown has come; the next monitor to be notified is `k`. -/
inductive Stage where
  | running
  | notifying (k : ℕ)
  | stopped
deriving DecidableEq

structure Pool (α ω δ : Type*) where
  monitors : List (Monitor α ω)
  stage : Stage
  /-- What was handed over so far. -/
  pushed : List α
  /-- What the workers have done so far. -/
  log : List δ

/-- A step of a producer, of a worker `i` at the monitor `k`, or of the shutdown. -/
inductive PoolEvent (ι γ : Type*) where
  | push (x : ι)
  | notifyOne (k : ℕ) (target : Option ℕ)
  | check (k i : ℕ)
  | block (k i : ℕ)
  | wake (k i : ℕ)
  | leave (k i : ℕ)
  | go (k i : ℕ) (x : γ)
  | stop
  | notifyAll
  | join

def PoolEvent.map {ι γ γ' : Type*} (f : γ → γ') : PoolEvent ι γ → PoolEvent ι γ'
  | .push x             => .push x
  | .notifyOne k target => .notifyOne k target
  | .check k i          => .check k i
  | .block k i          => .block k i
  | .wake k i           => .wake k i
  | .leave k i          => .leave k i
  | .go k i x           => .go k i (f x)
  | .stop               => .stop
  | .notifyAll          => .notifyAll
  | .join               => .join

/-- What a producer hands over in a step. -/
def PoolEvent.submission {ι γ : Type*} : PoolEvent ι γ → Option ι
  | .push x => some x
  | _       => none

/-- The elements for what producers hand over, after `n` others. -/
def Program.accepted {ι α ω γ δ : Type*} (prog : Program ι α ω γ δ) (n : ℕ) (xs : List ι) :
    List α :=
  (xs.zipIdx n).map fun q => (prog.accept q.2 q.1).2

/-- A step in which a worker waits, or is notified by a producer. -/
def PoolEvent.waits {ι γ : Type*} : PoolEvent ι γ → Bool
  | .notifyOne .. => true
  | .check ..     => true
  | .block ..     => true
  | .wake ..      => true
  | _             => false

namespace Pool

variable {ι α ω γ δ : Type*}

/-- The flag that the workers look at. -/
def running (p : Pool α ω δ) : Bool := p.stage = .running

/-- One monitor takes a step. -/
def modify (p : Pool α ω δ) (k : ℕ) (f : Monitor α ω → Option (Monitor α ω)) :
    Option (Pool α ω δ) :=
  (p.monitors[k]?.bind f).map fun m => { p with monitors := p.monitors.set k m }

/-- The work of the worker `i` at the monitor `k`, if it is away. -/
def workAt (p : Pool α ω δ) (k i : ℕ) : Option ω :=
  ((p.monitors[k]?).bind fun m => m.threads[i]?).bind Place.hand

/-- All workers have ended. -/
def Ended (prog : Program ι α ω γ δ) (p : Pool α ω δ) : Prop :=
  ∀ m ∈ p.monitors, ∀ t ∈ m.threads, t.hand.any prog.ended = true

instance (prog : Program ι α ω γ δ) (p : Pool α ω δ) : Decidable (p.Ended prog) :=
  inferInstanceAs (Decidable (∀ m ∈ p.monitors, ∀ t ∈ m.threads, t.hand.any prog.ended = true))

def step (prog : Program ι α ω γ δ) (p : Pool α ω δ) : PoolEvent ι γ → Option (Pool α ω δ)
  | .push x             =>
    let (k, a) := prog.accept p.pushed.length x
    (p.modify k (·.push a)).map fun p => { p with pushed := p.pushed ++ [a] }
  | .notifyOne k target => p.modify k (·.notifyOne target)
  | .check k i          => p.modify k (·.check p.running i)
  | .block k i          => p.modify k (·.block i)
  | .wake k i           => p.modify k (·.wake i)
  | .leave k i          => p.modify k (·.leave prog.take (prog.empty p.running) i)
  | .go k i x           =>
    (p.workAt k i).bind fun w => (prog.go p.running w x).bind fun (w', out) =>
      (p.modify k fun m => some (m.put i (.next w'))).map fun p => { p with log := p.log ++ out }
  | .stop               =>
    if p.stage = .running then some { p with stage := .notifying 0 } else none
  | .notifyAll          =>
    match p.stage with
    | .notifying k =>
      (p.modify k fun m => some m.notifyAll).map fun p => { p with stage := .notifying (k + 1) }
    | _            => none
  | .join               =>
    if p.stage = .notifying p.monitors.length ∧ p.Ended prog then some { p with stage := .stopped }
    else none

/-- The monitor `k` was notified of the shutdown. -/
def Notified (p : Pool α ω δ) (k : ℕ) : Prop :=
  match p.stage with
  | .running     => False
  | .notifying j => k < j
  | .stopped     => True

/-- After the notification of a monitor more of its workers are blocked than are still to be
notified. -/
def Stranded (p : Pool α ω δ) : Prop :=
  ∃ k m, p.monitors[k]? = some m ∧ p.Notified k ∧ m.Stranded

/-- When the workers of a monitor are notified of the shutdown, none of them is between a predicate
that was false and its block. -/
def NoneParking (p : Pool α ω δ) : PoolEvent ι γ → Prop
  | .notifyAll =>
    ∀ k, p.stage = .notifying k → ∀ m, p.monitors[k]? = some m →
      ∀ t ∈ m.threads, t.isParking = false
  | _          => True

instance (p : Pool α ω δ) (k : ℕ) : Decidable (p.Notified k) :=
  match h : p.stage with
  | .running     => isFalse (by simp [Notified, h])
  | .notifying j => decidable_of_iff (k < j) (by simp [Notified, h])
  | .stopped     => isTrue (by simp [Notified, h])

instance (p : Pool α ω δ) : DecidablePred (p.NoneParking (ι := ι) (γ := γ))
  | .notifyAll =>
    match h : p.stage with
    | .notifying k =>
      decidable_of_iff (∀ m ∈ p.monitors[k]?, ∀ t ∈ m.threads, t.isParking = false)
        (by simp [NoneParking, h])
    | .running | .stopped => isTrue (by simp [NoneParking, h])
  | .push _ | .notifyOne .. | .check .. | .block .. | .wake .. | .leave .. | .go .. | .stop
  | .join      => isTrue trivial

variable {prog : Program ι α ω γ δ} {p p' : Pool α ω δ} {k i : ℕ} {m m' : Monitor α ω}
  {f : Monitor α ω → Option (Monitor α ω)} {e : PoolEvent ι γ}

lemma modify_eq_some : p.modify k f = some p' ↔
    ∃ m m', p.monitors[k]? = some m ∧ f m = some m' ∧
      p' = { p with monitors := p.monitors.set k m' } := by
  unfold modify
  constructor
  · intro h
    obtain ⟨m', hm', rfl⟩ := Option.map_eq_some_iff.mp h
    obtain ⟨m, hm, hf⟩ := Option.bind_eq_some_iff.mp hm'
    exact ⟨m, m', hm, hf, rfl⟩
  · rintro ⟨m, m', hm, hf, rfl⟩
    rw [hm, Option.bind_some, hf, Option.map_some]

lemma workAt_eq_some {w : ω} (h : p.workAt k i = some w) :
    ∃ m, p.monitors[k]? = some m ∧ m.threads[i]? = some (.away w) := by
  obtain ⟨t, ht, hw⟩ := Option.bind_eq_some_iff.mp h
  obtain ⟨m, hm, hi⟩ := Option.bind_eq_some_iff.mp ht
  cases t with
  | away w' =>
    cases hw
    exact ⟨m, hm, hi⟩
  | waiting | parking | blocked | entered => cases hw

lemma getElem?_set_of_some {m₁ m₂ : Monitor α ω} {j : ℕ} (hm : p.monitors[k]? = some m)
    (h : (p.monitors.set k m₁)[j]? = some m₂) :
    (j = k ∧ m₂ = m₁) ∨ (j ≠ k ∧ p.monitors[j]? = some m₂) := by
  by_cases hj : j = k
  · subst hj
    rw [List.getElem?_set_self (List.getElem?_eq_some_iff.mp hm).1] at h
    exact Or.inl ⟨rfl, (Option.some.inj h).symm⟩
  · rw [List.getElem?_set_ne (Ne.symm hj)] at h
    exact Or.inr ⟨hj, h⟩

/-! ### What a step does -/

/-- A step as far as the queues and the work in hand go. -/
inductive Stepped (prog : Program ι α ω γ δ) (p : Pool α ω δ) : PoolEvent ι γ → Pool α ω δ → Prop
  | push {x : ι} {k : ℕ} {a : α} {m : Monitor α ω}
      (haccept : prog.accept p.pushed.length x = (k, a)) (hm : p.monitors[k]? = some m) :
      Stepped prog p (.push x)
        { p with
          monitors := p.monitors.set k { m with queue := m.queue ++ [a], pending := m.pending + 1 }
          pushed := p.pushed ++ [a] }
  | idle {e : PoolEvent ι γ} {k : ℕ} {m m' : Monitor α ω} (he : e.waits = true)
      (hm : p.monitors[k]? = some m) (hidle : m.Idle m') :
      Stepped prog p e { p with monitors := p.monitors.set k m' }
  | found {k i : ℕ} {m : Monitor α ω} {a : α} {rest : List α} (hm : p.monitors[k]? = some m)
      (hi : m.threads[i]? = some .entered) (hqueue : m.queue = a :: rest) :
      Stepped prog p (.leave k i)
        { p with
          monitors := p.monitors.set k ({ m with queue := rest }.put i (.away (prog.take a))) }
  | empty {k i : ℕ} {m : Monitor α ω} (hm : p.monitors[k]? = some m)
      (hi : m.threads[i]? = some .entered) (hqueue : m.queue = []) :
      Stepped prog p (.leave k i)
        { p with monitors := p.monitors.set k (m.put i (.next (prog.empty p.running))) }
  | go {k i : ℕ} {m : Monitor α ω} {x : γ} {w : ω} {w' : Option ω} {out : List δ}
      (hm : p.monitors[k]? = some m) (hi : m.threads[i]? = some (.away w))
      (hgo : prog.go p.running w x = some (w', out)) :
      Stepped prog p (.go k i x)
        { p with monitors := p.monitors.set k (m.put i (.next w')), log := p.log ++ out }
  | stop (hstage : p.stage = .running) : Stepped prog p .stop { p with stage := .notifying 0 }
  | notifyAll {k : ℕ} {m : Monitor α ω} (hstage : p.stage = .notifying k)
      (hm : p.monitors[k]? = some m) :
      Stepped prog p .notifyAll
        { p with monitors := p.monitors.set k m.notifyAll, stage := .notifying (k + 1) }
  | join (hstage : p.stage = .notifying p.monitors.length) (hended : p.Ended prog) :
      Stepped prog p .join { p with stage := .stopped }

lemma Stepped.of_modify (he : e.waits = true) (h : p.modify k f = some p')
    (hf : ∀ m m', f m = some m' → m.Idle m') : Stepped prog p e p' := by
  obtain ⟨m, m', hm, hfm, rfl⟩ := modify_eq_some.mp h
  exact .idle he hm (hf m m' hfm)

lemma Stepped.of_step (h : step prog p e = some p') : Stepped prog p e p' := by
  cases e with
  | push x =>
    obtain ⟨q, hq, rfl⟩ := Option.map_eq_some_iff.mp h
    obtain ⟨m, m', hm, hpush, rfl⟩ := modify_eq_some.mp hq
    obtain rfl := Monitor.push_eq_some hpush
    exact .push rfl hm
  | notifyOne k target => exact .of_modify rfl h fun m m' hm => .notifyOne hm
  | check k i => exact .of_modify rfl h fun m m' hm => .check hm
  | block k i => exact .of_modify rfl h fun m m' hm => .block hm
  | wake k i => exact .of_modify rfl h fun m m' hm => .unblock hm
  | leave k i =>
    obtain ⟨m, m', hm, hleave, rfl⟩ := modify_eq_some.mp h
    obtain ⟨hi, ⟨hqueue, rfl⟩ | ⟨a, rest, hqueue, rfl⟩⟩ := Monitor.leave_eq_some hleave
    · exact .empty hm hi hqueue
    · exact .found hm hi hqueue
  | go k i x =>
    obtain ⟨w, hw, h⟩ := Option.bind_eq_some_iff.mp h
    obtain ⟨⟨w', out⟩, hgo, h⟩ := Option.bind_eq_some_iff.mp h
    obtain ⟨m, hm, hi⟩ := workAt_eq_some hw
    obtain ⟨q, hq, rfl⟩ := Option.map_eq_some_iff.mp h
    obtain ⟨m₁, m', hm₁, hput, rfl⟩ := modify_eq_some.mp hq
    obtain rfl : m = m₁ := Option.some.inj (hm.symm.trans hm₁)
    cases hput
    exact .go hm hi hgo
  | stop =>
    simp only [step] at h
    split_ifs at h with hstage
    cases h
    exact .stop hstage
  | notifyAll =>
    simp only [step] at h
    split at h
    · next k hstage =>
      obtain ⟨q, hq, rfl⟩ := Option.map_eq_some_iff.mp h
      obtain ⟨m, m', hm, hnotify, rfl⟩ := modify_eq_some.mp hq
      cases hnotify
      exact .notifyAll hstage hm
    · cases h
  | join =>
    simp only [step] at h
    split_ifs at h with hjoin
    cases h
    exact .join hjoin.1 hjoin.2

lemma Stepped.pushed (h : Stepped prog p e p') :
    p'.pushed = p.pushed ++ prog.accepted p.pushed.length e.submission.toList := by
  cases h with
  | push haccept hm =>
    have ha := congrArg Prod.snd haccept
    simp only [PoolEvent.submission, Option.toList_some, Program.accepted, List.zipIdx_singleton,
      List.map_singleton, ha]
  | idle he hm hidle =>
    cases e with
    | push x => cases he
    | notifyOne | check | block | wake | leave | go | stop | notifyAll | join =>
      exact (List.append_nil _).symm
  | found | empty | go | stop | notifyAll | join => exact (List.append_nil _).symm

/-- What was handed over in a run. -/
lemma pushed_run {es : List (PoolEvent ι γ)} (hr : run (step prog) p es = some p') :
    p'.pushed = p.pushed ++ prog.accepted p.pushed.length (es.filterMap PoolEvent.submission) := by
  induction es generalizing p with
  | nil =>
    cases hr
    exact (List.append_nil _).symm
  | cons e es ih =>
    obtain ⟨p₁, h₁, hr⟩ := Option.bind_eq_some_iff.mp hr
    have hfirst := (Stepped.of_step h₁).pushed
    rw [ih hr, hfirst]
    cases hx : e.submission with
    | none => simp [Program.accepted, hx]
    | some x => simp [Program.accepted, hx]

/-- The stage changes only in the steps of the shutdown. -/
lemma Stepped.stage (h : Stepped prog p e p') :
    p'.stage = p.stage ∨ e = .stop ∨ e = .notifyAll ∨ e = .join := by
  cases h with
  | push | idle | found | empty | go => exact Or.inl rfl
  | stop => exact Or.inr (Or.inl rfl)
  | notifyAll => exact Or.inr (Or.inr (Or.inl rfl))
  | join => exact Or.inr (Or.inr (Or.inr rfl))

/-- The flag stays cleared. -/
lemma Stepped.not_running (h : Stepped prog p e p') (hp : p.running = false) :
    p'.running = false := by
  cases h with
  | push | idle | found | empty | go => exact hp
  | stop | notifyAll | join => rfl

lemma Ended.of_hands (hp : p.Ended prog) (hm : p.monitors[k]? = some m)
    (hhands : m'.hands = m.hands) (hlength : m'.threads.length = m.threads.length) (stage : Stage)
    (pushed : List α) (log : List δ) : Ended prog ⟨p.monitors.set k m', stage, pushed, log⟩ := by
  intro m₁ hm₁
  rcases List.mem_or_eq_of_mem_set hm₁ with hm₁ | rfl
  · exact hp m₁ hm₁
  · have hended := Monitor.forall_away_iff.mp (hp m (List.mem_of_getElem? hm))
    rw [← hhands, ← hlength] at hended
    exact Monitor.forall_away_iff.mpr hended

lemma Ended.hand {t : Place ω} (hp : p.Ended prog) (hm : p.monitors[k]? = some m)
    (hi : m.threads[i]? = some t) : t.hand.any prog.ended = true :=
  hp m (List.mem_of_getElem? hm) t (List.mem_of_getElem? hi)

lemma Ended.stepped (hfinal : prog.Final) (hp : p.Ended prog) (h : Stepped prog p e p') :
    p'.Ended prog := by
  cases h with
  | @push x k a m haccept hm =>
    have hhands : ({ m with queue := m.queue ++ [a], pending := m.pending + 1 } :
        Monitor α ω).hands = m.hands := rfl
    exact hp.of_hands hm hhands rfl _ _ _
  | idle he hm hidle => exact hp.of_hands hm hidle.hands hidle.length _ _ _
  | found hm hi hqueue => cases hp.hand hm hi
  | empty hm hi hqueue => cases hp.hand hm hi
  | go hm hi hgo =>
    rw [hfinal _ _ _ (hp.hand hm hi)] at hgo
    cases hgo
  | stop => exact hp
  | notifyAll hstage hm =>
    exact hp.of_hands hm (Monitor.Idle.notifyAll _).hands (List.length_map _) _ _ _
  | join => exact hp

lemma Ended.log_eq (hfinal : prog.Final) (hp : p.Ended prog) (h : Stepped prog p e p') :
    p'.log = p.log := by
  cases h with
  | go hm hi hgo =>
    rw [hfinal _ _ _ (hp.hand hm hi)] at hgo
    cases hgo
  | push | idle | found | empty | stop | notifyAll | join => rfl

/-- After the shutdown its steps are over. -/
lemma Stepped.stopped (h : Stepped prog p e p') (hp : p.stage = .stopped) :
    p'.stage = .stopped := by
  cases h with
  | push | idle | found | empty | go => exact hp
  | stop hstage =>
    rw [hp] at hstage
    cases hstage
  | notifyAll hstage =>
    rw [hp] at hstage
    cases hstage
  | join => rfl

/-- When the shutdown is over, all workers have ended. -/
lemma ended_of_stopped (hfinal : prog.Final) (hp : p.stage = .stopped → p.Ended prog)
    (h : Stepped prog p e p') : p'.stage = .stopped → p'.Ended prog := by
  intro hstopped
  rcases h.stage with hsame | rfl | rfl | rfl
  · exact Ended.stepped hfinal (hp (hsame ▸ hstopped)) h
  · cases h with
    | idle he => cases he
    | stop => cases hstopped
  · cases h with
    | idle he => cases he
    | notifyAll => cases hstopped
  · cases h with
    | idle he => cases he
    | join hstage hended => exact hended

/-! ### The shutdown -/

/-- No worker of a notified monitor is blocked, or about to block. -/
def Calm (p : Pool α ω δ) : Prop :=
  ∀ k m, p.monitors[k]? = some m → p.Notified k → m.Quiet

lemma Notified.not_running (h : p.Notified k) : p.running = false := by
  unfold Notified at h
  split at h
  · cases h
  · next j hstage => simp [running, hstage]
  · next hstage => simp [running, hstage]

/-- Before the shutdown no monitor is notified. -/
lemma calm_of_running (hp : p.running = true) : p.Calm := by
  intro k m _ hnotified
  rw [hnotified.not_running] at hp
  cases hp

lemma Calm.modify (hp : p.Calm) (h : p.modify k f = some p')
    (hf : ∀ m m', p.running = false → m.Quiet → f m = some m' → m'.Quiet) : p'.Calm := by
  obtain ⟨m, m', hm, hfm, rfl⟩ := modify_eq_some.mp h
  intro j m₁ hj hnotified
  rcases getElem?_set_of_some hm hj with ⟨rfl, rfl⟩ | ⟨-, hj⟩
  · exact hf m m₁ (Notified.not_running (p := p) hnotified) (hp j m hm hnotified) hfm
  · exact hp j m₁ hj hnotified

lemma Calm.step (hp : p.Calm) (hguard : p.NoneParking e) (h : step prog p e = some p') :
    p'.Calm := by
  cases e with
  | push x =>
    obtain ⟨q, hq, rfl⟩ := Option.map_eq_some_iff.mp h
    have hcalm : q.Calm := by
      refine hp.modify hq fun m m' _ hm hpush => ?_
      obtain rfl := Monitor.push_eq_some hpush
      exact hm
    exact hcalm
  | notifyOne k target => exact hp.modify h fun m m' _ hm hstep => hm.notifyOne hstep
  | check k i =>
    refine hp.modify h fun m m' hrunning hm hstep => ?_
    rw [hrunning] at hstep
    exact hm.check hstep
  | block k i => exact hp.modify h fun m m' _ hm hstep => hm.block hstep
  | wake k i => exact hp.modify h fun m m' _ hm hstep => hm.unblock hstep
  | leave k i => exact hp.modify h fun m m' _ hm hstep => hm.leave hstep
  | go k i x =>
    obtain ⟨w, hw, h⟩ := Option.bind_eq_some_iff.mp h
    obtain ⟨⟨w', out⟩, hgo, h⟩ := Option.bind_eq_some_iff.mp h
    obtain ⟨q, hq, rfl⟩ := Option.map_eq_some_iff.mp h
    have hcalm : q.Calm := by
      refine hp.modify hq fun m m' _ hm hput => ?_
      cases hput
      cases w' with
      | none => exact hm.put ⟨rfl, rfl⟩
      | some w' => exact hm.put ⟨rfl, rfl⟩
    exact hcalm
  | stop =>
    cases Stepped.of_step h with
    | idle he => cases he
    | stop hstage =>
      intro k m _ hnotified
      exact absurd hnotified (Nat.not_lt_zero k)
  | notifyAll =>
    cases Stepped.of_step h with
    | idle he => cases he
    | @notifyAll k m hstage hm =>
      intro j m₁ hj hnotified
      rcases getElem?_set_of_some hm hj with ⟨rfl, rfl⟩ | ⟨hne, hj⟩
      · exact Monitor.quiet_notifyAll (hguard j hstage m hm)
      · refine hp j m₁ hj ?_
        have hlt : j < k + 1 := hnotified
        unfold Notified
        rw [hstage]
        exact Nat.lt_of_le_of_ne (Nat.le_of_lt_succ hlt) hne
  | join =>
    cases Stepped.of_step h with
    | idle he => cases he
    | join hstage hended =>
      intro j m₁ hj _
      refine hp j m₁ hj ?_
      unfold Notified
      rw [hstage]
      exact (List.getElem?_eq_some_iff.mp hj).1

/-- If every notification of the shutdown finds no worker about to block, no worker is left
behind. -/
theorem not_stranded_of_guarded (hp : p.Calm) {es : List (PoolEvent ι γ)}
    (hguard : Guarded (step prog) NoneParking p es) (hr : run (step prog) p es = some p') :
    ¬p'.Stranded := by
  have hcalm : p'.Calm :=
    run_invariant (I := Calm) (fun p e p' hp hguard h => hp.step hguard h) hp hguard hr
  rintro ⟨k, m, hm, hnotified, hstranded⟩
  exact (hcalm k m hm hnotified).not_stranded hstranded

lemma run_notifyOne {targets : List (Option ℕ)} (hm : p.monitors[k]? = some m)
    (hr : run Monitor.notifyOne m targets = some m') :
    run (step prog) p (targets.map (PoolEvent.notifyOne k)) =
      some { p with monitors := p.monitors.set k m' } := by
  induction targets generalizing p m with
  | nil =>
    cases hr
    obtain ⟨hlt, rfl⟩ := List.getElem?_eq_some_iff.mp hm
    rw [List.set_getElem_self hlt]
    rfl
  | cons target targets ih =>
    obtain ⟨m₁, h₁, hrest⟩ := Option.bind_eq_some_iff.mp hr
    have hstep : step prog p (.notifyOne k target) =
        some { p with monitors := p.monitors.set k m₁ } :=
      modify_eq_some.mpr ⟨m, m₁, hm, h₁, rfl⟩
    have hlt : k < p.monitors.length := (List.getElem?_eq_some_iff.mp hm).1
    rw [List.map_cons, run_cons, hstep, Option.bind_some,
      ih (p := { p with monitors := p.monitors.set k m₁ }) (List.getElem?_set_self hlt) hrest]
    simp only [List.set_set]

/-- If a notification of the shutdown finds a worker about to block, that worker may be left
behind. -/
theorem exists_stranded (hparking : ¬p.NoneParking (.notifyAll : PoolEvent ι γ)) :
    ∃ es p', run (step prog) p (.notifyAll :: es) = some p' ∧ p'.Stranded := by
  simp only [NoneParking, not_forall] at hparking
  obtain ⟨k, hstage, m, hm, t, ht, hparking⟩ := hparking
  obtain ⟨i, hi⟩ := List.mem_iff_getElem?.mp ht
  obtain rfl : t = .parking := by
    cases t with
    | parking => rfl
    | waiting | blocked | entered | away => exact absurd rfl hparking
  have hlt : k < p.monitors.length := (List.getElem?_eq_some_iff.mp hm).1
  have hnotified : m.notifyAll.threads[i]? = some .parking := by
    rw [Monitor.notifyAll, List.getElem?_map, hi]
    rfl
  obtain ⟨targets, m₁, hr₁, hpending, hi₁⟩ := Monitor.exists_notified hnotified
  obtain ⟨m₂, hblock, hstranded⟩ := Monitor.exists_stranded hi₁ hpending
  let q : Pool α ω δ :=
    { p with monitors := p.monitors.set k m.notifyAll, stage := .notifying (k + 1) }
  have hq : q.monitors[k]? = some m.notifyAll := List.getElem?_set_self hlt
  have hfirst : step prog p (.notifyAll : PoolEvent ι γ) = some q := by
    simp only [step, hstage]
    rw [modify_eq_some.mpr ⟨m, m.notifyAll, hm, rfl, rfl⟩]
    rfl
  have hnotifications : run (step prog) q (targets.map (PoolEvent.notifyOne k)) =
      some { q with monitors := q.monitors.set k m₁ } := run_notifyOne hq hr₁
  let q' : Pool α ω δ := { q with monitors := (q.monitors.set k m₁).set k m₂ }
  have hlast : step prog { q with monitors := q.monitors.set k m₁ } (.block k i) = some q' :=
    modify_eq_some.mpr ⟨m₁, m₂, List.getElem?_set_self (by simpa [q] using hlt), hblock, rfl⟩
  refine ⟨targets.map (PoolEvent.notifyOne k) ++ [.block k i], q', ?_, k, m₂, ?_, ?_, hstranded⟩
  · rw [run_cons, hfirst, Option.bind_some, run_concat, hnotifications, Option.bind_some, hlast]
  · exact List.getElem?_set_self (by simpa [q] using hlt)
  · exact Nat.lt_succ_self k

/-! ### One worker -/

/-- The work that the thread `i` of a monitor has in hand. -/
def handAt (m : Monitor α ω) (i : ℕ) : Option ω := (m.threads[i]?).bind Place.hand

variable {t t' : Place ω} {j : ℕ}

lemma handAt_put (hi : m.threads[i]? = some t) (t' : Place ω) (j : ℕ) :
    handAt (m.put i t') j = if j = i then t'.hand else handAt m j := by
  have hlt : i < m.threads.length := (List.getElem?_eq_some_iff.mp hi).1
  by_cases hj : j = i
  · subst hj
    rw [if_pos rfl, handAt, Monitor.put, List.getElem?_set_self hlt]
    rfl
  · rw [if_neg hj, handAt, Monitor.put, List.getElem?_set_ne (Ne.symm hj)]
    rfl

lemma handAt_move {f : Place ω → Option (Place ω)} (h : m.move i f = some m')
    (hf : ∀ t t', f t = some t' → t'.hand = t.hand) (j : ℕ) : handAt m' j = handAt m j := by
  obtain ⟨t, t', hi, hft, rfl⟩ := Monitor.move_eq_some.mp h
  rw [handAt_put hi]
  split_ifs with hj
  · rw [hj, handAt, hi, hf t t' hft]
    rfl
  · rfl

lemma handAt_unblock (h : m.move i Place.unblock = some m') (j : ℕ) :
    handAt m' j = handAt m j := by
  refine handAt_move h (fun t t' ht => ?_) j
  cases t with
  | blocked => exact (Option.some.inj ht) ▸ rfl
  | waiting | parking | entered | away => cases ht

lemma workAt_eq (p : Pool α ω δ) (k i : ℕ) :
    p.workAt k i = (p.monitors[k]?).bind fun m => handAt m i := by
  simp only [workAt, handAt, Option.bind_assoc]

lemma workAt_set {q : Pool α ω δ} (hm : p.monitors[k]? = some m)
    (hq : q.monitors = p.monitors.set k m') (k' i' : ℕ) :
    q.workAt k' i' = if k' = k then handAt m' i' else p.workAt k' i' := by
  have hlt : k < p.monitors.length := (List.getElem?_eq_some_iff.mp hm).1
  by_cases hk : k' = k
  · subst hk
    rw [if_pos rfl, workAt_eq, hq, List.getElem?_set_self hlt]
    rfl
  · rw [if_neg hk, workAt_eq, workAt_eq, hq, List.getElem?_set_ne (Ne.symm hk)]

lemma workAt_set_of_handAt {q : Pool α ω δ} (hm : p.monitors[k]? = some m)
    (hq : q.monitors = p.monitors.set k m') (hhand : ∀ j, handAt m' j = handAt m j) (k' i' : ℕ) :
    q.workAt k' i' = p.workAt k' i' := by
  rw [workAt_set hm hq, hhand]
  split_ifs with hk
  · rw [hk, workAt_eq, hm]
    rfl
  · rfl

/-- What a step means for the worker `i` at the monitor `k`: it goes on as before, it takes the
first element of the queue, it finds none, or the step is one of its own. -/
inductive Worked (prog : Program ι α ω γ δ) (p : Pool α ω δ) (e : PoolEvent ι γ) (p' : Pool α ω δ)
    (k i : ℕ) : Prop
  | same (h : p'.workAt k i = p.workAt k i)
  | took {m : Monitor α ω} {a : α} (hm : m ∈ p.monitors) (ha : a ∈ m.queue)
      (hnone : p.workAt k i = none) (h : p'.workAt k i = some (prog.take a))
  | found (hnone : p.workAt k i = none) (h : p'.workAt k i = prog.empty p.running)
  | went {x : γ} {w : ω} {w' : Option ω} {out : List δ} (he : e = .go k i x)
      (hw : p.workAt k i = some w) (hgo : prog.go p.running w x = some (w', out))
      (h : p'.workAt k i = w')

lemma workAt_modify {q : Pool α ω δ} (h : p.modify k f = some q)
    (hf : ∀ m m', f m = some m' → ∀ j, handAt m' j = handAt m j) (k' i' : ℕ) :
    q.workAt k' i' = p.workAt k' i' := by
  obtain ⟨m, m', hm, hfm, rfl⟩ := modify_eq_some.mp h
  exact workAt_set_of_handAt hm rfl (hf m m' hfm) k' i'

lemma workAt_of_entered (hm : p.monitors[k]? = some m) (hi : m.threads[i]? = some .entered) :
    p.workAt k i = none := by
  rw [workAt_eq, hm, Option.bind_some, handAt, hi]
  rfl

lemma Worked.of_step (h : step prog p e = some p') (k' i' : ℕ) : Worked prog p e p' k' i' := by
  cases e with
  | push x =>
    obtain ⟨q, hq, rfl⟩ := Option.map_eq_some_iff.mp h
    refine .same (workAt_modify hq (fun m m' hm j => ?_) k' i')
    rw [Monitor.push_eq_some hm]
    rfl
  | notifyOne k target =>
    refine .same (workAt_modify h (fun m m' hm j => ?_) k' i')
    rcases Monitor.notifyOne_eq_some hm with ⟨i, -, hmove⟩ | ⟨-, rfl⟩
    · rw [handAt_unblock hmove]
      rfl
    · rfl
  | check k i =>
    refine .same
      (workAt_modify h (fun m m' hm j => handAt_move (Monitor.check_eq_some hm) ?_ j) k' i')
    intro t t' ht
    cases t with
    | waiting =>
      cases ht
      split_ifs <;> rfl
    | blocked | parking | entered | away => cases ht
  | block k i =>
    refine .same (workAt_modify h (fun m m' hm j => handAt_move hm ?_ j) k' i')
    intro t t' ht
    cases t with
    | parking =>
      cases ht
      rfl
    | waiting | blocked | entered | away => cases ht
  | wake k i => exact .same (workAt_modify h (fun m m' hm j => handAt_unblock hm j) k' i')
  | leave k i =>
    obtain ⟨m, m', hm, hleave, rfl⟩ := modify_eq_some.mp h
    obtain ⟨hi, hcase⟩ := Monitor.leave_eq_some hleave
    have hnone := workAt_of_entered hm hi
    have hmem : m ∈ p.monitors := List.mem_of_getElem? hm
    by_cases hown : k' = k ∧ i' = i
    · obtain ⟨rfl, rfl⟩ := hown
      rcases hcase with ⟨-, rfl⟩ | ⟨a, rest, hqueue, rfl⟩
      · refine .found hnone ?_
        rw [workAt_set hm rfl, if_pos rfl, handAt_put hi, if_pos rfl, Place.hand_next]
      · refine .took hmem (hqueue ▸ List.mem_cons_self) hnone ?_
        rw [workAt_set hm rfl, if_pos rfl, handAt_put (m := { m with queue := rest }) hi,
          if_pos rfl]
        rfl
    · refine .same ?_
      rw [workAt_set hm rfl]
      split_ifs with hk
      · have hne : i' ≠ i := fun hi' => hown ⟨hk, hi'⟩
        rw [hk, workAt_eq, hm]
        rcases hcase with ⟨-, rfl⟩ | ⟨a, rest, -, rfl⟩
        · rw [handAt_put hi, if_neg hne]
          rfl
        · rw [handAt_put (m := { m with queue := rest }) hi, if_neg hne]
          rfl
      · rfl
  | go k i x =>
    obtain ⟨w, hw, h⟩ := Option.bind_eq_some_iff.mp h
    obtain ⟨⟨w', out⟩, hgo, h⟩ := Option.bind_eq_some_iff.mp h
    obtain ⟨m, hm, hi⟩ := workAt_eq_some hw
    obtain ⟨q, hq, rfl⟩ := Option.map_eq_some_iff.mp h
    obtain ⟨m₁, m', hm₁, hput, rfl⟩ := modify_eq_some.mp hq
    obtain rfl : m = m₁ := Option.some.inj (hm.symm.trans hm₁)
    cases hput
    by_cases hown : k' = k ∧ i' = i
    · obtain ⟨rfl, rfl⟩ := hown
      refine .went rfl hw hgo ?_
      rw [workAt_set hm rfl, if_pos rfl, handAt_put hi, if_pos rfl, Place.hand_next]
    · refine .same ?_
      rw [workAt_set hm rfl]
      split_ifs with hk
      · have hne : i' ≠ i := fun hi' => hown ⟨hk, hi'⟩
        rw [hk, workAt_eq, hm, handAt_put hi, if_neg hne]
        rfl
      · rfl
  | stop =>
    simp only [step] at h
    split_ifs at h with hstage
    cases h
    exact .same rfl
  | notifyAll =>
    simp only [step] at h
    split at h
    · next k hstage =>
      obtain ⟨q, hq, rfl⟩ := Option.map_eq_some_iff.mp h
      refine .same (workAt_modify hq (fun m m' hm j => ?_) k' i')
      cases hm
      simp [handAt, Monitor.notifyAll, Option.bind_map]
    · cases h
  | join =>
    simp only [step] at h
    split_ifs at h with hjoin
    cases h
    exact .same rfl

end Pool

/-! ### Logs -/

section Logs

variable {β δ : Type*} {g : δ → Option β} {q : β → Bool} {l : List δ} {b : β}

lemma filter_filterMap (g : δ → Option β) (q : β → Bool) (l : List δ) :
    (l.filterMap g).filter q = (l.filter fun e => (g e).any q).filterMap g := by
  induction l with
  | nil => rfl
  | cons e l ih =>
    cases hg : g e with
    | none => simp [hg, ih]
    | some c => cases hc : q c <;> simp [hg, hc, ih]

/-- A log from which one element is read has one entry for it. -/
lemma filter_eq_singleton (h : (l.filterMap g).filter q = [b]) :
    ∃ e, (l.filter fun e => (g e).any q) = [e] ∧ g e = some b := by
  rw [filter_filterMap] at h
  have hsome : ∀ e ∈ l.filter fun e => (g e).any q, (g e).isSome = true := by
    intro e he
    have hany := (List.mem_filter.mp he).2
    cases hg : g e with
    | none => simp [hg] at hany
    | some c => rfl
  have hlength := List.filterMap_length_eq_length.mpr hsome
  rw [h] at hlength
  obtain ⟨e, he⟩ := List.length_eq_one_iff.mp hlength.symm
  refine ⟨e, he, ?_⟩
  rw [he] at h
  cases hg : g e with
  | none => simp [hg] at h
  | some c => simpa [hg] using h

/-- Elements of different keys are found by their keys. -/
lemma filter_key_eq_singleton {κ : Type*} [DecidableEq κ] {f : β → κ} :
    ∀ {bs : List β}, (bs.map f).Nodup → b ∈ bs → (bs.filter fun c => f c = f b) = [b]
  | [], _, hb => by cases hb
  | c :: bs, hnodup, hb => by
    obtain ⟨hfresh, hrest⟩ := List.nodup_cons.mp hnodup
    rcases List.mem_cons.mp hb with rfl | hb
    · have hnone : (bs.filter fun c => f c = f b) = [] := by
        rw [List.filter_eq_nil_iff]
        intro c hc
        have hne : f c ≠ f b := fun hkey => hfresh (hkey ▸ List.mem_map_of_mem hc)
        simpa using hne
      rw [List.filter_cons_of_pos (by simp), hnone]
    · have hne : f c ≠ f b := fun hkey => hfresh (hkey ▸ List.mem_map_of_mem hb)
      rw [List.filter_cons_of_neg (by simpa using hne)]
      exact filter_key_eq_singleton hrest hb

end Logs

end Core
