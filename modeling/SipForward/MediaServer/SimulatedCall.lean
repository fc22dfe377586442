import SipForward.Core.Run

/-!
# The life of a simulated call

A `SimulatedCall` connects to a WebSocket and plays ringing from a thread of its own, the pump. It
ends when the socket disconnects, after 60 seconds, or when its owner calls `terminate()`, which the
destructor does too. The owner and the pump agree by an exchange of `terminated` on who cleans up
and sends the last webhook. The object has one owner: the handler that has created it, and after
`start()` has returned true whoever takes it out of its map. The manager counts such calls; its
model has them as far as that goes.
-/

namespace MediaServer.Simulated

open Core

inductive Status where
  | fail
  | ringing
  | completed
deriving DecidableEq

/-- What is sent to the webhooks under the identifier of the call. -/
structure Webhook where
  status : Status
  durationSec : ℕ
  hangupSource : String
deriving DecidableEq

/-- How far `start()` has come. -/
inductive Start where
  | created
  | connected  -- `running = true` is next
  | ready      -- the thread is created next
  | pumping    -- 'ringing' is sent next
  | started    -- 'ringing' was sent, it returns true
  | failing    -- 'fail' is sent next
  | refused    -- 'fail' was sent, it returns false
  | threw      -- an exception has left it
deriving DecidableEq

/-- How far `audioPumpLoop()` has come. -/
inductive Pump where
  | none
  | looping  -- before the condition of the loop
  | framing  -- in the body of the loop
  | leaving  -- the exchange is next
  | won      -- 'completed' is sent next
  | sent     -- `decrementCallCounter` is next
  | done
deriving DecidableEq

/-- How far the owner has come in `terminate()`. -/
inductive Owner where
  | idle
  | terminating  -- the exchange is won, `running = false` is next
  | joining
  | joined       -- 'completed' is sent next
  | sent         -- `decrementCallCounter` is next
deriving DecidableEq

inductive Life where
  | alive
  | destroyed
  | aborted  -- the destructor of a joinable thread has aborted the process
deriving DecidableEq

structure SimulatedCall where
  start : Start
  running : Bool
  terminated : Bool
  pump : Pump
  /-- `audio_pump_thread` is joinable. -/
  joinable : Bool
  owner : Owner
  /-- The destructor was called. -/
  destroying : Bool
  life : Life
  hangupSource : String
  webhooks : List Webhook
deriving DecidableEq

inductive Event where
  | connect (ok : Bool)
  | setRunning
  | startPump
  | sendRinging
  | sendFail
  /-- An exception leaves `start()`. -/
  | throws
  | disconnect
  | pumpCheck
  | pumpFrame
  /-- The pump sees that 60 seconds are over. -/
  | timeout
  | pumpExchange
  | pumpSend (durationSec : ℕ)
  | pumpDecrement
  | terminate
  | clearRunning
  | join
  | sendCompleted (durationSec : ℕ)
  | decrement
  /-- The destructor is called. -/
  | destroy
  /-- The destructors of the members are called. -/
  | free

/-- A step in which something is sent. -/
def Event.sends : Event → Bool
  | .sendRinging     => true
  | .sendFail        => true
  | .pumpSend _      => true
  | .sendCompleted _ => true
  | _                => false

/-- `start()` is over. -/
def Start.returned : Start → Bool
  | .started => true
  | .refused => true
  | .threw   => true
  | _        => false

/-- `start()` fails, or has failed. -/
def Start.failed : Start → Bool
  | .failing => true
  | .refused => true
  | .threw   => true
  | _        => false

namespace SimulatedCall

def new : SimulatedCall :=
  ⟨.created, false, false, .none, false, .idle, false, .alive, "user", []⟩

def send (s : SimulatedCall) (status : Status) (durationSec : ℕ) : SimulatedCall :=
  { s with webhooks := s.webhooks ++ [⟨status, durationSec, s.hangupSource⟩] }

/-- The exchange in `terminate()`, which returns at once if it is lost. -/
def exchange (s : SimulatedCall) : SimulatedCall :=
  { s with terminated := true, owner := if s.terminated then .idle else .terminating }

def act (s : SimulatedCall) : Event → Option SimulatedCall
  | .connect ok             =>
    if s.start = .created then some { s with start := if ok then .connected else .failing }
    else none
  | .setRunning             =>
    if s.start = .connected then some { s with start := .ready, running := true } else none
  | .startPump              =>
    if s.start = .ready then some { s with start := .pumping, pump := .looping, joinable := true }
    else none
  | .sendRinging            =>
    if s.start = .pumping then some ({ s with start := .started }.send .ringing 0) else none
  | .sendFail               =>
    if s.start = .failing then some ({ s with start := .refused }.send .fail 0) else none
  | .throws                 =>
    if s.start.returned = false then some { s with start := .threw } else none
  | .disconnect             => some { s with running := false }
  | .pumpCheck              =>
    if s.pump = .looping then
      some { s with pump := if s.running then .framing else .leaving }
    else none
  | .pumpFrame              =>
    if s.pump = .framing then some { s with pump := .looping } else none
  | .timeout                =>
    if s.pump = .framing then
      some { s with pump := .leaving, running := false, hangupSource := "timeout" }
    else none
  | .pumpExchange           =>
    if s.pump = .leaving then
      some { s with terminated := true, pump := if s.terminated then .done else .won }
    else none
  | .pumpSend durationSec   =>
    if s.pump = .won then some ({ s with pump := .sent }.send .completed durationSec) else none
  | .pumpDecrement          => if s.pump = .sent then some { s with pump := .done } else none
  | .terminate              =>
    if s.start = .started ∧ s.owner = .idle ∧ s.destroying = false then some s.exchange else none
  | .clearRunning           =>
    if s.owner = .terminating then some { s with owner := .joining, running := false } else none
  | .join                   =>
    if s.owner = .joining ∧ (s.joinable = true → s.pump = .done) then
      some { s with owner := .joined, joinable := false }
    else none
  | .sendCompleted durationSec =>
    if s.owner = .joined then some ({ s with owner := .sent }.send .completed durationSec) else none
  | .decrement              => if s.owner = .sent then some { s with owner := .idle } else none
  | .destroy                =>
    -- the owner has no pointer to the object before `start()` is over
    if s.start.returned = true ∧ s.owner = .idle ∧ s.destroying = false then
      some ({ s with destroying := true }.exchange)
    else none
  | .free                   =>
    if s.destroying = true ∧ s.owner = .idle then
      some { s with life := if s.joinable then .aborted else .destroyed }
    else none

def step (s : SimulatedCall) (e : Event) : Option SimulatedCall :=
  if s.life = .alive then s.act e else none

/-! ### What should be sent -/

def statuses (s : SimulatedCall) : List Status := s.webhooks.map Webhook.status

/-- The events of the whole life of a call. -/
def expected (s : SimulatedCall) : List Status :=
  if s.start = .failing ∨ s.start = .refused then [.fail] else [.ringing, .completed]

/-- What was sent so far is a beginning of what is expected, and all of it when the object, or the
process, is gone. -/
structure Lawful (s : SimulatedCall) : Prop where
  prefixed : s.statuses <+: s.expected
  complete : s.life ≠ .alive → s.statuses = s.expected

/-- The connection succeeds and nothing is thrown; the pump does not send before `start()` does, and
the object is not destroyed while the pump has still to send. -/
def Undisturbed (s : SimulatedCall) : Event → Prop
  | .connect ok => ok = true
  | .throws     => False
  | .pumpSend _ => s.start = .started
  | .free       => s.pump ≠ .won
  | _           => True

instance (s : SimulatedCall) : DecidablePred s.Undisturbed
  | .connect ok => inferInstanceAs (Decidable (ok = true))
  | .throws     => inferInstanceAs (Decidable False)
  | .pumpSend _ => inferInstanceAs (Decidable (s.start = .started))
  | .free       => inferInstanceAs (Decidable (s.pump ≠ .won))
  | .setRunning | .startPump | .sendRinging | .sendFail | .disconnect | .pumpCheck | .pumpFrame
  | .timeout | .pumpExchange | .pumpDecrement | .terminate | .clearRunning | .join
  | .sendCompleted _ | .decrement | .destroy => isTrue trivial

variable {s s' : SimulatedCall} {e : Event} {es : List Event}

/-! ### What a step does -/

inductive Stepped (s : SimulatedCall) : Event → SimulatedCall → Prop
  | connect {ok : Bool} (hstart : s.start = .created) :
      Stepped s (.connect ok) { s with start := if ok then .connected else .failing }
  | setRunning (hstart : s.start = .connected) :
      Stepped s .setRunning { s with start := .ready, running := true }
  | startPump (hstart : s.start = .ready) :
      Stepped s .startPump { s with start := .pumping, pump := .looping, joinable := true }
  | sendRinging (hstart : s.start = .pumping) :
      Stepped s .sendRinging ({ s with start := .started }.send .ringing 0)
  | sendFail (hstart : s.start = .failing) :
      Stepped s .sendFail ({ s with start := .refused }.send .fail 0)
  | throws (hstart : s.start.returned = false) : Stepped s .throws { s with start := .threw }
  | disconnect : Stepped s .disconnect { s with running := false }
  | pumpCheck (hpump : s.pump = .looping) :
      Stepped s .pumpCheck { s with pump := if s.running then .framing else .leaving }
  | pumpFrame (hpump : s.pump = .framing) : Stepped s .pumpFrame { s with pump := .looping }
  | timeout (hpump : s.pump = .framing) :
      Stepped s .timeout
        { s with pump := .leaving, running := false, hangupSource := "timeout" }
  | pumpExchange (hpump : s.pump = .leaving) :
      Stepped s .pumpExchange
        { s with terminated := true, pump := if s.terminated then .done else .won }
  | pumpSend {durationSec : ℕ} (hpump : s.pump = .won) :
      Stepped s (.pumpSend durationSec) ({ s with pump := .sent }.send .completed durationSec)
  | pumpDecrement (hpump : s.pump = .sent) : Stepped s .pumpDecrement { s with pump := .done }
  | terminate (hstart : s.start = .started) (howner : s.owner = .idle) :
      Stepped s .terminate s.exchange
  | clearRunning (howner : s.owner = .terminating) :
      Stepped s .clearRunning { s with owner := .joining, running := false }
  | join (howner : s.owner = .joining) (hjoin : s.joinable = true → s.pump = .done) :
      Stepped s .join { s with owner := .joined, joinable := false }
  | sendCompleted {durationSec : ℕ} (howner : s.owner = .joined) :
      Stepped s (.sendCompleted durationSec) ({ s with owner := .sent }.send .completed durationSec)
  | decrement (howner : s.owner = .sent) : Stepped s .decrement { s with owner := .idle }
  | destroy (hstart : s.start.returned = true) (howner : s.owner = .idle)
      (hdestroying : s.destroying = false) :
      Stepped s .destroy ({ s with destroying := true }.exchange)
  | free (hdestroying : s.destroying = true) (howner : s.owner = .idle) :
      Stepped s .free { s with life := if s.joinable then .aborted else .destroyed }

lemma Stepped.of_step (h : s.step e = some s') : s.life = .alive ∧ Stepped s e s' := by
  unfold step at h
  split_ifs at h with halive
  refine ⟨halive, ?_⟩
  cases e <;> simp only [act, Option.ite_none_right_eq_some, Option.some.injEq] at h
  case connect => exact h.2 ▸ .connect h.1
  case setRunning => exact h.2 ▸ .setRunning h.1
  case startPump => exact h.2 ▸ .startPump h.1
  case sendRinging => exact h.2 ▸ .sendRinging h.1
  case sendFail => exact h.2 ▸ .sendFail h.1
  case throws => exact h.2 ▸ .throws h.1
  case disconnect => exact h ▸ .disconnect
  case pumpCheck => exact h.2 ▸ .pumpCheck h.1
  case pumpFrame => exact h.2 ▸ .pumpFrame h.1
  case timeout => exact h.2 ▸ .timeout h.1
  case pumpExchange => exact h.2 ▸ .pumpExchange h.1
  case pumpSend => exact h.2 ▸ .pumpSend h.1
  case pumpDecrement => exact h.2 ▸ .pumpDecrement h.1
  case terminate => exact h.2 ▸ .terminate h.1.1 h.1.2.1
  case clearRunning => exact h.2 ▸ .clearRunning h.1
  case join => exact h.2 ▸ .join h.1.1 h.1.2
  case sendCompleted => exact h.2 ▸ .sendCompleted h.1
  case decrement => exact h.2 ▸ .decrement h.1
  case destroy => exact h.2 ▸ .destroy h.1.1 h.1.2.1 h.1.2.2
  case free => exact h.2 ▸ .free h.1.1 h.1.2

/-! ### Who sends the last event -/

/-- 'completed' was not sent yet. -/
def Pending (s : SimulatedCall) : Prop :=
  s.terminated = false ∨ s.pump = .won ∨ s.owner = .terminating ∨ s.owner = .joining ∨
    s.owner = .joined

/-- The flags and the places of the two threads. -/
structure Placed (s : SimulatedCall) : Prop where
  fresh : s.start.returned = false → s.start ≠ .pumping → s.terminated = false ∧ s.pump = .none
  refused : s.start = .refused → s.pump = .none
  won : s.pump = .won → s.terminated = true ∧ s.owner = .idle
  owner : s.owner ≠ .idle → s.terminated = true ∧ s.start.returned = true
  destroying : s.destroying = true → s.terminated = true ∧ s.start.returned = true
  gone : s.life ≠ .alive → s.destroying = true ∧ s.owner = .idle

lemma Placed.new : new.Placed where
  fresh _ _ := ⟨rfl, rfl⟩
  refused h := by cases h
  won h := by cases h
  owner h := absurd rfl h
  destroying h := by cases h
  gone h := absurd rfl h

/-- `start()` goes on. -/
lemma Placed.start (hs : s.Placed) (halive : s.life = .alive) (hreturned : s.start.returned = false)
    (t : Start) (hfresh : t.returned = false → t ≠ .pumping → s.terminated = false ∧ s.pump = .none)
    (hrefused : t = .refused → s.pump = .none) (running : Bool) (webhooks : List Webhook) :
    Placed { s with start := t, running := running, webhooks := webhooks } where
  fresh := hfresh
  refused := hrefused
  won := hs.won
  owner h := by
    have hbefore := (hs.owner h).2
    rw [hreturned] at hbefore
    cases hbefore
  destroying h := by
    have hbefore := (hs.destroying h).2
    rw [hreturned] at hbefore
    cases hbefore
  gone h := absurd halive h

/-- The pump goes on. -/
lemma Placed.pump (hs : s.Placed) (hpump : s.pump ≠ .none) (q : Pump) (hq : q ≠ .won)
    (running : Bool) (hangupSource : String) (webhooks : List Webhook) :
    Placed { s with
      pump := q
      running := running
      hangupSource := hangupSource
      webhooks := webhooks } where
  fresh h hne := absurd (hs.fresh h hne).2 hpump
  refused h := absurd (hs.refused h) hpump
  won h := absurd h hq
  owner := hs.owner
  destroying := hs.destroying
  gone := hs.gone

/-- The owner goes on. -/
lemma Placed.owned (hs : s.Placed) (halive : s.life = .alive) (howner : s.owner ≠ .idle) (o : Owner)
    (running joinable : Bool) (webhooks : List Webhook) :
    Placed { s with
      owner := o
      running := running
      joinable := joinable
      webhooks := webhooks } where
  fresh := hs.fresh
  refused := hs.refused
  won h := absurd (hs.won h).2 howner
  owner _ := hs.owner howner
  destroying := hs.destroying
  gone h := absurd halive h

lemma Placed.exchange (hs : s.Placed) (halive : s.life = .alive)
    (hreturned : s.start.returned = true) (destroying : Bool) :
    ({ s with destroying := destroying }.exchange).Placed where
  fresh h := by
    rw [show s.start.returned = false from h] at hreturned
    cases hreturned
  refused := hs.refused
  won h := by
    refine ⟨rfl, ?_⟩
    have hterminated : s.terminated = true := (hs.won h).1
    simp [SimulatedCall.exchange, hterminated]
  owner _ := ⟨rfl, hreturned⟩
  destroying _ := ⟨rfl, hreturned⟩
  gone h := absurd halive h

lemma Placed.pumpExchange (hs : s.Placed) (halive : s.life = .alive) (hpump : s.pump ≠ .none) :
    Placed { s with terminated := true, pump := if s.terminated then .done else .won } where
  fresh h hne := absurd (hs.fresh h hne).2 hpump
  refused h := absurd (hs.refused h) hpump
  won h := by
    refine ⟨rfl, ?_⟩
    by_contra howner
    have hterminated := (hs.owner howner).1
    simp [hterminated] at h
  owner h := ⟨rfl, (hs.owner h).2⟩
  destroying h := ⟨rfl, (hs.destroying h).2⟩
  gone h := absurd halive h

lemma Placed.step (hs : s.Placed) (h : s.step e = some s') : s'.Placed := by
  obtain ⟨halive, h⟩ := Stepped.of_step h
  have hnone : ∀ t, s.start = t → t.returned = false → t ≠ .pumping →
      s.terminated = false ∧ s.pump = .none := by
    rintro t rfl hreturned hne
    exact hs.fresh hreturned hne
  cases h with
  | connect hstart =>
    have hfresh := hnone _ hstart rfl (by simp)
    exact hs.start halive (by rw [hstart]; rfl) _ (fun _ _ => hfresh) (fun _ => hfresh.2) _ _
  | setRunning hstart =>
    have hfresh := hnone _ hstart rfl (by simp)
    exact hs.start halive (by rw [hstart]; rfl) _ (fun _ _ => hfresh) (fun _ => hfresh.2) _ _
  | startPump hstart =>
    refine ⟨fun _ h => absurd rfl h, fun h => ?_, fun h => ?_, fun h => ?_, fun h => ?_,
      fun h => absurd halive h⟩
    · cases h
    · cases h
    · have hreturned := (hs.owner h).2
      rw [hstart] at hreturned
      cases hreturned
    · have hreturned := (hs.destroying h).2
      rw [hstart] at hreturned
      cases hreturned
  | sendRinging hstart =>
    refine hs.start halive (by rw [hstart]; rfl) .started (fun h => ?_) (fun h => ?_) _ _
    · cases h
    · cases h
  | sendFail hstart =>
    have hfresh := hnone _ hstart rfl (by simp)
    exact hs.start halive (by rw [hstart]; rfl) .refused (fun _ _ => hfresh) (fun _ => hfresh.2) _ _
  | throws hstart =>
    refine hs.start halive hstart .threw (fun h => ?_) (fun h => ?_) _ _
    · cases h
    · cases h
  | disconnect => exact ⟨hs.fresh, hs.refused, hs.won, hs.owner, hs.destroying, hs.gone⟩
  | pumpCheck hpump => exact hs.pump (by simp [hpump]) _ (by split <;> simp) _ _ _
  | pumpFrame hpump => exact hs.pump (by simp [hpump]) .looping (by simp) _ _ _
  | timeout hpump => exact hs.pump (by simp [hpump]) .leaving (by simp) _ _ _
  | pumpExchange hpump => exact hs.pumpExchange halive (by simp [hpump])
  | pumpSend hpump => exact hs.pump (by simp [hpump]) .sent (by simp) _ _ _
  | pumpDecrement hpump => exact hs.pump (by simp [hpump]) .done (by simp) _ _ _
  | terminate hstart howner => exact hs.exchange halive (by rw [hstart]; rfl) s.destroying
  | clearRunning howner => exact hs.owned halive (by simp [howner]) .joining _ _ _
  | join howner hjoin => exact hs.owned halive (by simp [howner]) .joined _ _ _
  | sendCompleted howner => exact hs.owned halive (by simp [howner]) .sent _ _ _
  | decrement howner => exact hs.owned halive (by simp [howner]) .idle _ _ _
  | destroy hstart howner hdestroying => exact hs.exchange halive hstart true
  | free hdestroying howner =>
    exact ⟨hs.fresh, hs.refused, hs.won, hs.owner, hs.destroying, fun _ => ⟨hdestroying, howner⟩⟩

@[simp] lemma statuses_send (s : SimulatedCall) (status : Status) (durationSec : ℕ) :
    (s.send status durationSec).statuses = s.statuses ++ [status] := by
  simp [send, statuses]

/-- What `start()` has sent. -/
def started (s : SimulatedCall) : List Status :=
  match s.start with
  | .refused => [.fail]
  | .started => [.ringing]
  | _        => []

lemma started_of_not_returned (h : s.start.returned = false) : s.started = [] := by
  cases hstart : s.start with
  | refused | started | threw =>
    rw [hstart] at h
    cases h
  | created | connected | ready | pumping | failing => simp [started, hstart]

/-- 'completed' is sent once, after what `start()` sends or before it. -/
structure Sound (s : SimulatedCall) : Prop extends s.Placed where
  pending : s.Pending → s.statuses = s.started
  finished : ¬s.Pending →
    s.statuses = s.started ++ [.completed] ∨
      s.start = .started ∧ s.statuses = [.completed, .ringing]

lemma Sound.new : new.Sound where
  toPlaced := .new
  pending _ := rfl
  finished h := absurd (Or.inl rfl) h

/-- A step in which nothing is sent, as far as the events go. -/
structure Quiet (s s' : SimulatedCall) : Prop where
  webhooks : s'.webhooks = s.webhooks
  started : s'.started = s.started
  start : s'.start = .started ↔ s.start = .started
  pending : s'.Pending ↔ s.Pending

lemma Quiet.statuses (h : Quiet s s') : s'.statuses = s.statuses :=
  congrArg (List.map Webhook.status) h.webhooks

/-- `start()` goes on without sending anything. -/
lemma Quiet.of_start (hreturned : s.start.returned = false) (hstarted : s'.started = [])
    (hstart : s'.start ≠ .started) (hwebhooks : s'.webhooks = s.webhooks)
    (hpending : s'.Pending ↔ s.Pending) : Quiet s s' where
  webhooks := hwebhooks
  started := hstarted.trans (started_of_not_returned hreturned).symm
  start := by
    refine iff_of_false hstart fun h => ?_
    rw [h] at hreturned
    cases hreturned
  pending := hpending

lemma Quiet.of_pump (hpump : s.pump ≠ .won) (q : Pump) (hq : q ≠ .won) (running : Bool)
    (hangupSource : String) :
    Quiet s { s with pump := q, running := running, hangupSource := hangupSource } where
  webhooks := rfl
  started := rfl
  start := Iff.rfl
  pending := or_congr Iff.rfl (or_congr (iff_of_false hq hpump) Iff.rfl)

lemma Quiet.of_exchange (howner : s.owner = .idle) (destroying : Bool) :
    Quiet s ({ s with destroying := destroying }.exchange) where
  webhooks := rfl
  started := rfl
  start := Iff.rfl
  pending := by cases hterminated : s.terminated <;> simp [Pending, exchange, howner, hterminated]

lemma Stepped.quiet (h : Stepped s e s') (hs : s.Placed) (he : e.sends = false) : Quiet s s' := by
  cases h with
  | sendRinging | sendFail | pumpSend | sendCompleted => cases he
  | disconnect | free => exact ⟨rfl, rfl, Iff.rfl, Iff.rfl⟩
  | @connect ok hstart =>
    refine .of_start (by rw [hstart]; rfl) ?_ ?_ rfl Iff.rfl
    · cases ok <;> rfl
    · cases ok <;> simp
  | setRunning hstart => exact .of_start (by rw [hstart]; rfl) rfl (by simp) rfl Iff.rfl
  | startPump hstart =>
    refine .of_start (by rw [hstart]; rfl) rfl (by simp) rfl ?_
    have hpump : s.pump = .none := (hs.fresh (by rw [hstart]; rfl) (by simp [hstart])).2
    simp [Pending, hpump]
  | throws hstart => exact .of_start hstart rfl (by simp) rfl Iff.rfl
  | pumpCheck hpump => exact .of_pump (by simp [hpump]) _ (by split <;> simp) _ _
  | pumpFrame hpump => exact .of_pump (by simp [hpump]) .looping (by simp) _ _
  | timeout hpump => exact .of_pump (by simp [hpump]) .leaving (by simp) _ _
  | pumpDecrement hpump => exact .of_pump (by simp [hpump]) .done (by simp) _ _
  | pumpExchange hpump =>
    refine ⟨rfl, rfl, Iff.rfl, ?_⟩
    cases hterminated : s.terminated <;> simp [Pending, hpump, hterminated]
  | terminate hstart howner => exact .of_exchange howner s.destroying
  | destroy hstart howner hdestroying => exact .of_exchange howner true
  | clearRunning howner => exact ⟨rfl, rfl, Iff.rfl, by simp [Pending, howner]⟩
  | join howner hjoin => exact ⟨rfl, rfl, Iff.rfl, by simp [Pending, howner]⟩
  | decrement howner => exact ⟨rfl, rfl, Iff.rfl, by simp [Pending, howner]⟩

lemma Sound.quiet (hs : s.Sound) (hplaced : s'.Placed) (h : Quiet s s') : s'.Sound where
  toPlaced := hplaced
  pending hpending := by
    rw [h.statuses, h.started]
    exact hs.pending (h.pending.mp hpending)
  finished hfinished := by
    rw [h.statuses, h.started, h.start]
    exact hs.finished (h.pending.not.mp hfinished)

/-- A step in which 'completed' is sent. -/
structure Completes (s s' : SimulatedCall) : Prop where
  pending : s.Pending
  finished : ¬s'.Pending
  start : s'.start = s.start
  statuses : s'.statuses = s.statuses ++ [.completed]

lemma Placed.completes_pump (hs : s.Placed) (hpump : s.pump = .won) (durationSec : ℕ) :
    Completes s ({ s with pump := .sent }.send .completed durationSec) where
  pending := Or.inr (Or.inl hpump)
  finished := by
    have howner := hs.won hpump
    simp [Pending, send, howner]
  start := rfl
  statuses := statuses_send _ _ _

lemma Placed.completes_owner (hs : s.Placed) (howner : s.owner = .joined) (durationSec : ℕ) :
    Completes s ({ s with owner := .sent }.send .completed durationSec) where
  pending := by simp [Pending, howner]
  finished := by
    have hterminated : s.terminated = true := (hs.owner (by simp [howner])).1
    have hpump : s.pump ≠ .won := by
      intro hpump
      rw [(hs.won hpump).2] at howner
      cases howner
    simp [Pending, send, hterminated, hpump]
  start := rfl
  statuses := statuses_send _ _ _

lemma Sound.completes (hs : s.Sound) (hplaced : s'.Placed) (h : Completes s s') : s'.Sound where
  toPlaced := hplaced
  pending hpending := absurd hpending h.finished
  finished _ := by
    left
    rw [h.statuses, hs.pending h.pending, started, started, h.start]

/-- Before `start()` is over and without a pump, 'completed' was not sent. -/
lemma Placed.pending_of_failing (hs : s.Placed) (hstart : s.start = .failing) : s.Pending :=
  Or.inl (hs.fresh (by rw [hstart]; rfl) (by rw [hstart]; simp)).1

lemma Sound.step (hs : s.Sound) (h : s.step e = some s') : s'.Sound := by
  have hplaced := hs.toPlaced.step h
  obtain ⟨-, h⟩ := Stepped.of_step h
  cases he : e.sends with
  | false => exact hs.quiet hplaced (h.quiet hs.toPlaced he)
  | true =>
    cases h with
    | sendRinging hstart =>
      have hstarted : s.started = [] := by simp [started, hstart]
      refine ⟨hplaced, fun hpending => ?_, fun hfinished => ?_⟩
      · rw [statuses_send]
        exact congrArg (· ++ [.ringing]) ((hs.pending hpending).trans hstarted)
      · rw [statuses_send]
        rcases hs.finished hfinished with hstatuses | ⟨hother, -⟩
        · rw [hstarted, List.nil_append] at hstatuses
          exact Or.inr ⟨rfl, congrArg (· ++ [Status.ringing]) hstatuses⟩
        · rw [hstart] at hother
          cases hother
    | sendFail hstart =>
      have hstarted : s.started = [] := by simp [started, hstart]
      have hpending := hs.pending_of_failing hstart
      refine ⟨hplaced, fun _ => ?_, fun hfinished => absurd hpending hfinished⟩
      rw [statuses_send]
      exact congrArg (· ++ [.fail]) ((hs.pending hpending).trans hstarted)
    | pumpSend hpump => exact hs.completes hplaced (hs.completes_pump hpump _)
    | sendCompleted howner => exact hs.completes hplaced (hs.completes_owner howner _)
    | connect | setRunning | startPump | throws | disconnect | pumpCheck | pumpFrame | timeout
    | pumpExchange | pumpDecrement | terminate | clearRunning | join | decrement | destroy
    | free => cases he

/-! ### When the events are lawful -/

lemma started_prefix (s : SimulatedCall) : s.started <+: s.expected := by
  cases hstart : s.start <;> simp [started, expected, hstart]

/-- When the owner is through with `terminate()`, only the pump may still have to send it. -/
lemma pending_iff (hterminated : s.terminated = true) (howner : s.owner = .idle) :
    s.Pending ↔ s.pump = .won := by
  simp [Pending, hterminated, howner]

lemma Sound.alive_of_complete (hs : s.Sound) (hpending : s.Pending)
    (hcomplete : s.life ≠ .alive → s.statuses = s.expected) : s.life = .alive := by
  by_contra hgone
  obtain ⟨hdestroying, howner⟩ := hs.gone hgone
  obtain ⟨hterminated, hreturned⟩ := hs.destroying hdestroying
  have hwon := (pending_iff hterminated howner).mp hpending
  have hall := (hs.pending hpending).symm.trans (hcomplete hgone)
  cases hstart : s.start with
  | started => simp [started, expected, hstart] at hall
  | threw => simp [started, expected, hstart] at hall
  | refused =>
    rw [hs.refused hstart] at hwon
    cases hwon
  | created | connected | ready | pumping | failing =>
    rw [hstart] at hreturned
    cases hreturned

lemma Sound.lawful_iff (hs : s.Sound) :
    s.Lawful ↔ (s.Pending → s.life = .alive) ∧
      (¬s.Pending → s.start = .started ∧ s.statuses = [.ringing, .completed]) := by
  constructor
  · rintro ⟨hfront, hcomplete⟩
    refine ⟨fun hpending => hs.alive_of_complete hpending hcomplete, fun hfinished => ?_⟩
    rcases hs.finished hfinished with hstatuses | ⟨hstart, hstatuses⟩
    · rw [hstatuses] at hfront ⊢
      cases hstart : s.start <;> simp [started, expected, hstart] at hfront ⊢
    · rw [hstatuses] at hfront
      simp [expected, hstart] at hfront
  · rintro ⟨hpending, hfinished⟩
    by_cases h : s.Pending
    · refine ⟨?_, fun hgone => absurd (hpending h) hgone⟩
      rw [hs.pending h]
      exact started_prefix s
    · obtain ⟨hstart, hstatuses⟩ := hfinished h
      have hexpected : s.statuses = s.expected := by simp [hstatuses, expected, hstart]
      exact ⟨hexpected ▸ List.prefix_rfl, fun _ => hexpected⟩

lemma Sound.lawful_completes_iff (hs : s.Sound) (hs' : s'.Sound) (h : Completes s s') :
    s'.Lawful ↔ s.start = .started := by
  rw [hs'.lawful_iff, h.start, h.statuses, hs.pending h.pending]
  constructor
  · rintro ⟨-, hfinished⟩
    exact (hfinished h.finished).1
  · intro hstart
    refine ⟨fun hpending => absurd hpending h.finished, fun _ => ⟨hstart, ?_⟩⟩
    simp [started, hstart]

/-- 'completed' is sent after 'ringing', and the object is not destroyed while the pump has still to
send it. -/
def InTime (s : SimulatedCall) : Event → Prop
  | .pumpSend _      => s.start = .started
  | .sendCompleted _ => s.start = .started
  | .free            => s.pump ≠ .won
  | _                => True

/-- A step keeps the events lawful if and only if it is in time. -/
lemma Sound.lawful_step_iff (hs : s.Sound) (hlawful : s.Lawful) (h : s.step e = some s') :
    s'.Lawful ↔ s.InTime e := by
  have hs' := hs.step h
  obtain ⟨halive, h⟩ := Stepped.of_step h
  obtain ⟨-, hfinished⟩ := hs.lawful_iff.mp hlawful
  have hquiet : e.sends = false → s'.life = .alive → s'.Lawful := by
    intro he hlife
    have hq := h.quiet hs.toPlaced he
    refine hs'.lawful_iff.mpr ⟨fun _ => hlife, fun hf => ?_⟩
    rw [hq.start, hq.statuses]
    exact hfinished (hq.pending.not.mp hf)
  cases h with
  | pumpSend hpump => exact hs.lawful_completes_iff hs' (hs.completes_pump hpump _)
  | sendCompleted howner => exact hs.lawful_completes_iff hs' (hs.completes_owner howner _)
  | free hdestroying howner =>
    have hterminated := (hs.destroying hdestroying).1
    have hgone : (if s.joinable then Life.aborted else .destroyed) ≠ .alive := by
      split <;> simp
    rw [hs'.lawful_iff, InTime, ne_eq, ← pending_iff hterminated howner]
    constructor
    · rintro ⟨hp, -⟩ hpending
      exact hgone (hp hpending)
    · intro hnot
      exact ⟨fun hpending => absurd hpending hnot, fun _ => hfinished hnot⟩
  | sendRinging hstart =>
    refine iff_of_true (hs'.lawful_iff.mpr ⟨fun _ => halive, fun hf => ?_⟩) trivial
    have hstarted := (hfinished hf).1
    rw [hstart] at hstarted
    cases hstarted
  | sendFail hstart =>
    refine iff_of_true (hs'.lawful_iff.mpr ⟨fun _ => halive, fun hf => ?_⟩) trivial
    exact absurd (hs.pending_of_failing hstart) hf
  | connect | setRunning | startPump | throws | disconnect | pumpCheck | pumpFrame | timeout
  | pumpExchange | pumpDecrement | terminate | clearRunning | join | decrement | destroy =>
    exact iff_of_true (hquiet rfl halive) trivial

lemma Sound.not_lawful_step (hs : s.Sound) (hlawful : ¬s.Lawful) (h : s.step e = some s') :
    ¬s'.Lawful := by
  have hs' := hs.step h
  obtain ⟨halive, h⟩ := Stepped.of_step h
  have hfinished : ¬s.Pending := fun hpending =>
    hlawful (hs.lawful_iff.mpr ⟨fun _ => halive, fun hf => absurd hpending hf⟩)
  intro hlawful'
  have hlast := (hs'.lawful_iff.mp hlawful').2
  cases he : e.sends with
  | false =>
    have hq := h.quiet hs.toPlaced he
    rw [hq.start, hq.statuses, hq.pending] at hlast
    exact hlawful (hs.lawful_iff.mpr ⟨fun _ => halive, hlast⟩)
  | true =>
    cases h with
    | sendRinging hstart =>
      have hstatuses := (hlast hfinished).2
      rw [statuses_send] at hstatuses
      have hringing := congrArg List.getLast? hstatuses
      simp at hringing
    | sendFail hstart => exact hfinished (hs.pending_of_failing hstart)
    | pumpSend hpump => exact hfinished (hs.completes_pump hpump 0).pending
    | sendCompleted howner => exact hfinished (hs.completes_owner howner 0).pending
    | connect | setRunning | startPump | throws | disconnect | pumpCheck | pumpFrame | timeout
    | pumpExchange | pumpDecrement | terminate | clearRunning | join | decrement | destroy
    | free => cases he

/-! ### When `start()` fails -/

lemma Stepped.failed (h : Stepped s e s') (hs : s.start.failed = true) :
    s'.start.failed = true := by
  cases h with
  | connect hstart | setRunning hstart | startPump hstart | sendRinging hstart =>
    rw [hstart] at hs
    cases hs
  | sendFail | throws => rfl
  | disconnect | pumpCheck | pumpFrame | timeout | pumpExchange | pumpSend | pumpDecrement
  | terminate | clearRunning | join | sendCompleted | decrement | destroy | free => exact hs

/-- While `start()` has not failed, a step is undisturbed if and only if it is in time and `start()`
does not fail in it. -/
lemma Stepped.undisturbed_iff (h : Stepped s e s') (hs : s.Placed)
    (hstart : s.start.failed = false) :
    s.Undisturbed e ↔ s'.start.failed = false ∧ s.InTime e := by
  cases h with
  | @connect ok => cases ok <;> simp [Undisturbed, InTime, Start.failed]
  | throws => simp [Undisturbed, InTime, Start.failed]
  | sendFail hfailing =>
    rw [hfailing] at hstart
    cases hstart
  | pumpSend => exact (and_iff_right hstart).symm
  | free => exact (and_iff_right hstart).symm
  | sendCompleted howner =>
    refine iff_of_true trivial ⟨hstart, ?_⟩
    have hreturned := (hs.owner (by simp [howner])).2
    unfold InTime
    cases hstarted : s.start with
    | started => rfl
    | refused | threw | failing =>
      rw [hstarted] at hstart
      cases hstart
    | created | connected | ready | pumping =>
      rw [hstarted] at hreturned
      cases hreturned
  | setRunning | startPump | sendRinging => exact iff_of_true trivial ⟨rfl, trivial⟩
  | disconnect | pumpCheck | pumpFrame | timeout | pumpExchange | pumpDecrement | terminate
  | clearRunning | join | decrement | destroy => exact iff_of_true trivial ⟨hstart, trivial⟩

/-! ### Runs -/

lemma sound_of_run (hr : run SimulatedCall.step new es = some s) : s.Sound :=
  run_invariant' (I := Sound) (fun _ _ _ hs h => hs.step h) .new hr

/-- In every undisturbed run what was sent is lawful. A run at whose end the object is gone is
undisturbed if what was sent is lawful. -/
theorem lifecycle (hr : run SimulatedCall.step new es = some s) :
    (Guarded SimulatedCall.step Undisturbed new es → s.Lawful) ∧
      (s.life ≠ .alive → s.statuses = s.expected →
        Guarded SimulatedCall.step Undisturbed new es) := by
  have hs := sound_of_run hr
  have hiff : s.start.failed = false ∧ s.Lawful ↔
      Guarded SimulatedCall.step Undisturbed new es := by
    refine run_iff_guarded (I := Sound) (P := fun s => s.start.failed = false ∧ s.Lawful)
      (fun s e s' hs h => hs.step h) (fun s e s' hs hp h => ?_) (fun s e s' hs hp h => ?_)
      .new ?_ hr
    · rw [hs.lawful_step_iff hp.2 h]
      exact ((Stepped.of_step h).2.undisturbed_iff hs.toPlaced hp.1).symm
    · rintro ⟨hstart, hlawful⟩
      cases hfailed : s.start.failed with
      | true =>
        rw [(Stepped.of_step h).2.failed hfailed] at hstart
        cases hstart
      | false => exact hs.not_lawful_step (fun hl => hp ⟨hfailed, hl⟩) h hlawful
    · exact ⟨rfl, List.nil_prefix, fun h => absurd rfl h⟩
  refine ⟨fun hguard => (hiff.mpr hguard).2, fun hgone hall => hiff.mp ?_⟩
  have hlawful : s.Lawful := ⟨hall ▸ List.prefix_rfl, fun _ => hall⟩
  obtain ⟨hpending, hfinished⟩ := hs.lawful_iff.mp hlawful
  have hstarted := (hfinished fun h => hgone (hpending h)).1
  exact ⟨by rw [hstarted]; rfl, hlawful⟩

/-- A call that its owner ends. -/
def endedCall : List Event :=
  [.connect true, .setRunning, .startPump, .pumpCheck, .sendRinging, .pumpFrame, .terminate,
    .clearRunning, .pumpCheck, .pumpExchange, .join, .sendCompleted 30, .decrement, .destroy, .free]

theorem lifecycle_sample :
    ∃ s, run SimulatedCall.step new endedCall = some s ∧ s.life = .destroyed ∧
      s.statuses = [.ringing, .completed] ∧ s.Lawful := by
  have hrun : (run SimulatedCall.step new endedCall).map (fun s => (s.life, s.statuses)) =
      some (.destroyed, [.ringing, .completed]) := by decide
  obtain ⟨s, hr, hs⟩ := Option.map_eq_some_iff.mp hrun
  obtain ⟨hlife, hstatuses⟩ := Prod.mk.inj hs
  exact ⟨s, hr, hlife, hstatuses, (lifecycle hr).1 (by decide)⟩

/-- A call whose connection fails sends 'completed' after 'fail'. -/
theorem refused_not_lawful :
    ¬∀ (es : List Event) (s : SimulatedCall), run SimulatedCall.step new es = some s →
      s.Lawful := by
  intro hall
  have hrun : (run SimulatedCall.step new [.connect false, .sendFail, .destroy, .clearRunning,
      .join, .sendCompleted 0, .decrement, .free]).map (fun s => (s.statuses, s.expected)) =
      some ([.fail, .completed], [.fail]) := by decide
  obtain ⟨s, hr, hs⟩ := Option.map_eq_some_iff.mp hrun
  obtain ⟨hstatuses, hexpected⟩ := Prod.mk.inj hs
  have hfront := (hall _ s hr).prefixed
  rw [hstatuses, hexpected] at hfront
  simp at hfront

/-! ### Who joins the pump -/

/-- No thread is at work on the object, and none is left to be joined. -/
def Joined (s : SimulatedCall) : Prop :=
  s.joinable = false ∧ (s.pump = .none ∨ s.pump = .done)

instance (s : SimulatedCall) : Decidable s.Joined :=
  inferInstanceAs (Decidable (s.joinable = false ∧ (s.pump = .none ∨ s.pump = .done)))

/-- When the pump comes to its exchange, `terminate()` has been there before. -/
def PumpLoses (s : SimulatedCall) : Event → Prop
  | .pumpExchange => s.terminated = true
  | _             => True

instance (s : SimulatedCall) : DecidablePred s.PumpLoses
  | .pumpExchange => inferInstanceAs (Decidable (s.terminated = true))
  | .connect _ | .setRunning | .startPump | .sendRinging | .sendFail | .throws | .disconnect
  | .pumpCheck | .pumpFrame | .timeout | .pumpSend _ | .pumpDecrement | .terminate | .clearRunning
  | .join | .sendCompleted _ | .decrement | .destroy | .free => isTrue trivial

/-- Where the thread of the pump is. -/
structure Threaded (s : SimulatedCall) : Prop extends s.Placed where
  working : s.pump = .none ∨ s.pump = .done ∨ s.joinable = true
  destroyed : s.life = .destroyed → s.joinable = false
  aborted : s.life = .aborted → s.joinable = true

/-- Whoever has set `terminated` is about to join the pump, or nothing is left to be joined. -/
def Awaited (s : SimulatedCall) : Prop :=
  s.terminated = true → s.joinable = true → s.owner = .terminating ∨ s.owner = .joining

lemma Threaded.new : new.Threaded where
  toPlaced := .new
  working := Or.inl rfl
  destroyed h := by cases h
  aborted h := by cases h

/-- While the object is alive, only the place of the pump matters. -/
lemma Threaded.of_alive (hs : s.Placed) (halive : s.life = .alive)
    (hworking : s.pump = .none ∨ s.pump = .done ∨ s.joinable = true) : s.Threaded where
  toPlaced := hs
  working := hworking
  destroyed h := by
    rw [halive] at h
    cases h
  aborted h := by
    rw [halive] at h
    cases h

/-- Before its exchange the pump has a thread. -/
lemma Threaded.joinable (hs : s.Threaded) (hnone : s.pump ≠ .none) (hdone : s.pump ≠ .done) :
    s.joinable = true := by
  rcases hs.working with hpump | hpump | hjoinable
  · exact absurd hpump hnone
  · exact absurd hpump hdone
  · exact hjoinable

lemma Threaded.step (hs : s.Threaded) (h : s.step e = some s') : s'.Threaded := by
  have hplaced := hs.toPlaced.step h
  obtain ⟨halive, h⟩ := Stepped.of_step h
  cases h with
  | startPump => exact .of_alive hplaced halive (Or.inr (Or.inr rfl))
  | pumpCheck hpump | pumpFrame hpump | timeout hpump | pumpExchange hpump | pumpSend hpump
  | pumpDecrement hpump =>
    have hjoinable := hs.joinable (by simp [hpump]) (by simp [hpump])
    exact .of_alive hplaced halive (Or.inr (Or.inr hjoinable))
  | join howner hjoin =>
    refine .of_alive hplaced halive ?_
    rcases hs.working with hnone | hdone | hjoinable
    · exact Or.inl hnone
    · exact Or.inr (Or.inl hdone)
    · exact Or.inr (Or.inl (hjoin hjoinable))
  | free hdestroying howner =>
    refine ⟨hplaced, hs.working, fun hlife => ?_, fun hlife => ?_⟩ <;>
      cases hjoinable : s.joinable <;> simp [hjoinable] at hlife ⊢
  | connect | setRunning | sendRinging | sendFail | throws | disconnect | terminate | clearRunning
  | sendCompleted | decrement | destroy => exact .of_alive hplaced halive hs.working

/-- The exchange of the owner: it is lost only when nothing is left to be joined. -/
lemma Awaited.exchange (hs : s.Awaited) (howner : s.owner = .idle) (destroying : Bool) :
    ({ s with destroying := destroying }.exchange).Awaited := by
  intro _ hjoinable
  cases hterminated : s.terminated with
  | true =>
    have hother := hs hterminated hjoinable
    simp [howner] at hother
  | false => exact Or.inl (by simp [SimulatedCall.exchange])

/-- The pump wins the exchange if and only if nobody will join it. -/
lemma Threaded.awaited_step_iff (hs : s.Threaded) (hawaited : s.Awaited)
    (h : s.step e = some s') : s'.Awaited ↔ s.PumpLoses e := by
  obtain ⟨halive, h⟩ := Stepped.of_step h
  cases h with
  | startPump hstart =>
    refine iff_of_true (fun hterminated _ => ?_) trivial
    have hfresh := (hs.fresh (by rw [hstart]; rfl) (by simp [hstart])).1
    rw [show s.terminated = true from hterminated] at hfresh
    cases hfresh
  | pumpExchange hpump =>
    have hjoinable := hs.joinable (by simp [hpump]) (by simp [hpump])
    constructor
    · intro hafter
      by_contra hterminated
      have howner := hafter rfl hjoinable
      have hidle : s.owner ≠ .idle := by rcases howner with h | h <;> simp [show s.owner = _ from h]
      exact hterminated (hs.owner hidle).1
    · intro hterminated _ _
      exact hawaited hterminated hjoinable
  | terminate hstart howner => exact iff_of_true (hawaited.exchange howner s.destroying) trivial
  | destroy hstart howner hdestroying => exact iff_of_true (hawaited.exchange howner true) trivial
  | clearRunning => exact iff_of_true (fun _ _ => Or.inr rfl) trivial
  | join => exact iff_of_true (fun _ hjoinable => by cases hjoinable) trivial
  | sendCompleted howner | decrement howner =>
    refine iff_of_true (fun hterminated hjoinable => ?_) trivial
    have hother := hawaited hterminated hjoinable
    simp [howner] at hother
  | connect | setRunning | sendRinging | sendFail | throws | disconnect | pumpCheck | pumpFrame
  | timeout | pumpSend | pumpDecrement | free => exact iff_of_true hawaited trivial

/-- A pump that has won its exchange is never joined. -/
lemma Stepped.not_awaited (h : Stepped s e s') (hs : ¬s.Awaited) : ¬s'.Awaited := by
  unfold Awaited at hs
  push Not at hs
  obtain ⟨hterminated, hjoinable, hterminating, hjoining⟩ := hs
  intro hawaited
  cases h with
  | startPump => exact (hawaited hterminated rfl).elim hterminating hjoining
  | pumpExchange => exact (hawaited rfl hjoinable).elim hterminating hjoining
  | terminate hstart howner | destroy hstart howner hdestroying =>
    have hother := hawaited rfl hjoinable
    simp [SimulatedCall.exchange, hterminated] at hother
  | clearRunning howner => exact hterminating howner
  | join howner => exact hjoining howner
  | sendCompleted howner | decrement howner =>
    have hother := hawaited hterminated hjoinable
    simp [send] at hother
  | connect | setRunning | sendRinging | sendFail | throws | disconnect | pumpCheck | pumpFrame
  | timeout | pumpSend | pumpDecrement | free =>
    exact (hawaited hterminated hjoinable).elim hterminating hjoining

lemma threaded_of_run (hr : run SimulatedCall.step new es = some s) : s.Threaded :=
  run_invariant' (I := Threaded) (fun _ _ _ hs h => hs.step h) .new hr

/-- Once the members are destroyed, the pump was awaited if and only if it was joined. -/
lemma Threaded.awaited_iff (hs : s.Threaded) (hgone : s.life ≠ .alive) :
    s.Awaited ↔ s.Joined ∧ s.life = .destroyed := by
  obtain ⟨hdestroying, howner⟩ := hs.gone hgone
  have hterminated := (hs.destroying hdestroying).1
  constructor
  · intro hawaited
    have hjoinable : s.joinable = false := by
      by_contra hjoinable
      have hother := hawaited hterminated (by simpa using hjoinable)
      simp [howner] at hother
    refine ⟨⟨hjoinable, ?_⟩, ?_⟩
    · have hworking := hs.working
      simpa [hjoinable] using hworking
    · cases hlife : s.life with
      | alive => exact absurd hlife hgone
      | destroyed => rfl
      | aborted =>
        rw [hs.aborted hlife] at hjoinable
        cases hjoinable
  · rintro ⟨⟨hjoinable, -⟩, -⟩ _ hother
    rw [hjoinable] at hother
    cases hother

/-- The members are destroyed after the pump was joined, and the process goes on, in exactly those
runs in which the pump has lost its exchange whenever it has come to it. -/
theorem joined_iff (hr : run SimulatedCall.step new es = some s) (hgone : s.life ≠ .alive) :
    (s.Joined ∧ s.life = .destroyed) ↔ Guarded SimulatedCall.step PumpLoses new es := by
  rw [← (threaded_of_run hr).awaited_iff hgone]
  refine run_iff_guarded (I := Threaded) (P := Awaited) (fun s e s' hs h => hs.step h)
    (fun s e s' hs hawaited h => hs.awaited_step_iff hawaited h)
    (fun s e s' _ hnot h => (Stepped.of_step h).2.not_awaited hnot) .new ?_ hr
  intro hterminated
  cases hterminated

theorem joined_sample : ∃ s, run SimulatedCall.step new endedCall = some s ∧
    s.Joined ∧ s.life = .destroyed := by
  have hrun : (run SimulatedCall.step new endedCall).map SimulatedCall.life =
      some .destroyed := by decide
  obtain ⟨s, hr, hlife⟩ := Option.map_eq_some_iff.mp hrun
  exact ⟨s, hr, (joined_iff hr (by simp [hlife])).mpr (by decide)⟩

/-- A call that runs into its timeout and is destroyed afterwards. -/
def timedOutCall : List Event :=
  [.connect true, .setRunning, .startPump, .sendRinging, .pumpCheck, .timeout, .pumpExchange,
    .pumpSend 60, .pumpDecrement, .terminate, .destroy, .free]

/-- When the pump has ended by itself nobody joins it, and the process aborts. -/
theorem timed_out_not_joined :
    ¬∀ (es : List Event) (s : SimulatedCall), run SimulatedCall.step new es = some s →
      s.life ≠ .alive → s.Joined ∧ s.life = .destroyed := by
  intro hall
  have hrun : (run SimulatedCall.step new timedOutCall).map
      (fun s => (s.pump, s.joinable, s.life)) = some (.done, true, .aborted) := by decide
  obtain ⟨s, hr, hs⟩ := Option.map_eq_some_iff.mp hrun
  obtain ⟨-, hs⟩ := Prod.mk.inj hs
  obtain ⟨hjoinable, hlife⟩ := Prod.mk.inj hs
  have hjoined := (hall _ s hr (by simp [hlife])).1.1
  rw [hjoinable] at hjoined
  cases hjoined

end SimulatedCall

end MediaServer.Simulated
