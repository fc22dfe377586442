import SipForward.Core.Maps
import SipForward.Core.Run
import Mathlib.Tactic.Linarith

/-!
# The calls of the media server

`CallManager` counts the calls it has admitted in `current_calls`. A call is inserted into a map and
counted by the handler that admits it, under `calls_mutex`, and uncounted by `decrementCallCounter`,
under the same mutex: from the DISCONNECTED callback of a SIP call, and from the pump thread or from
`terminate()`, whichever comes first, of a simulated call. The steps of all handlers, callbacks and
threads interleave.
-/

namespace MediaServer.CallManager

open Core AList

/-! ### Calls -/

/-- The progress of the handler that admits a call. A SIP call goes from `checked` to `inserted`, a
simulated call is started in between. -/
inductive Stage where
  | checked      -- the limit check is passed
  | started      -- `SimulatedCall::start` has returned true
  | startFailed  -- it has returned false or thrown, and the object is about to be destroyed
  | inserted     -- the call is in its map, `current_calls++` is next
  | counted
deriving DecidableEq, Repr

/-- A SIP call: a placed call, an incoming call or the human leg of a bridge. -/
structure SipCall where
  stage : Stage
  released : Bool
  disconnected : Bool
deriving DecidableEq, Repr

/-- The thread of `audioPumpLoop`. -/
inductive Pump where
  | none
  | running
  | finishing  -- the loop is left, `terminated.exchange(true)` is next or was won
  | done
deriving DecidableEq, Repr

/-- Who has won `terminated.exchange(true)`, and how far it got. -/
inductive Ending where
  | none
  | pump
  | terminate  -- the pump thread is joined next
  | joined
  | done       -- the counter has been decremented
deriving DecidableEq, Repr

/-- A simulated call. It is released when `endCall` or the destructor of the manager takes it out of
its map, which leads to `terminate()`. Where the pump thread has won, the destructor of the joinable
thread aborts the process: such a run ends there, the model lets it go on. -/
structure SimulatedCall where
  stage : Stage
  released : Bool
  pump : Pump
  ending : Ending
deriving DecidableEq, Repr

inductive Call where
  | sip (c : SipCall)
  | sim (c : SimulatedCall)
deriving DecidableEq, Repr

def SipCall.new (stage : Stage) : SipCall := ⟨stage, false, false⟩

def SimulatedCall.new : SimulatedCall := ⟨.checked, false, .none, .none⟩

def Call.stage : Call → Stage
  | .sip c => c.stage
  | .sim c => c.stage

/-- The call was inserted and `current_calls` incremented for it. -/
def Call.counted (c : Call) : Bool := c.stage = .counted

/-- `decrementCallCounter` has been executed for the call. -/
def Call.ended : Call → Bool
  | .sip c => c.disconnected
  | .sim c => c.ending = .done

/-- An admitted call that has not ended. -/
def Call.live (c : Call) : Bool := c.counted && !c.ended

/-! ### Steps of a call -/

/-- The steps that concern a call that has passed the limit check. -/
inductive Action where
  | place                -- `makeCall` has succeeded, the call is inserted
  | start                -- `SimulatedCall::start` returns true
  | startFailed (pumping : Bool)  -- it returns false, or throws with or without a pump thread
  | insert               -- a simulated call is inserted
  | count                -- `current_calls++`
  | disconnected         -- the DISCONNECTED callback of a SIP call
  | endCall              -- the call is taken out of its map
  | destroy              -- the manager is destroyed, which takes another mutex
  | pumpStop             -- timeout, disconnect of the socket, or `running` cleared by `terminate()`
  | pumpExchange
  | pumpDecrement
  | terminate            -- the exchange at the start of `terminate()`
  | join
  | terminateDecrement
deriving DecidableEq, Repr

/-- A step of a SIP call, and the change of `current_calls`. -/
def SipCall.act (c : SipCall) : Action → Option (SipCall × Int)
  | .place => if c.stage = .checked then some ({ c with stage := .inserted }, 0) else none
  | .count => if c.stage = .inserted then some ({ c with stage := .counted }, 1) else none
  | .disconnected =>
    if c.stage = .counted ∧ c.disconnected = false then
      some ({ c with disconnected := true }, -1)
    else none
  | .endCall | .destroy =>
    if (c.stage = .inserted ∨ c.stage = .counted) ∧ c.released = false then
      some ({ c with released := true }, 0)
    else none
  | _ => none

/-- A step of a simulated call, and the change of `current_calls`. -/
def SimulatedCall.act (c : SimulatedCall) : Action → Option (SimulatedCall × Int)
  | .start =>
    if c.stage = .checked then some ({ c with stage := .started, pump := .running }, 0) else none
  | .startFailed pumping =>
    if c.stage = .checked then
      some ({ c with stage := .startFailed, pump := if pumping then .running else .none }, 0)
    else none
  | .insert => if c.stage = .started then some ({ c with stage := .inserted }, 0) else none
  | .count => if c.stage = .inserted then some ({ c with stage := .counted }, 1) else none
  | .endCall | .destroy =>
    if (c.stage = .inserted ∨ c.stage = .counted) ∧ c.released = false then
      some ({ c with released := true }, 0)
    else none
  | .pumpStop => if c.pump = .running then some ({ c with pump := .finishing }, 0) else none
  | .pumpExchange =>
    if c.pump = .finishing ∧ c.ending = .none then some ({ c with ending := .pump }, 0)
    else if c.pump = .finishing ∧ c.ending ≠ .pump then some ({ c with pump := .done }, 0)
    else none
  | .pumpDecrement =>
    if c.ending = .pump then some ({ c with pump := .done, ending := .done }, -1) else none
  | .terminate =>
    -- called for a call that was released, and by the destructor when the start failed
    if c.released = true ∨ c.stage = .startFailed then
      if c.ending = .none then some ({ c with ending := .terminate }, 0) else some (c, 0)
    else none
  | .join =>
    if c.ending = .terminate ∧ (c.pump = .none ∨ c.pump = .done) then
      some ({ c with ending := .joined }, 0)
    else none
  | .terminateDecrement =>
    if c.ending = .joined then some ({ c with ending := .done }, -1) else none
  | _ => none

def Call.act : Call → Action → Option (Call × Int)
  | .sip c, a => (c.act a).map fun r => (.sip r.1, r.2)
  | .sim c, a => (c.act a).map fun r => (.sim r.1, r.2)

/-! ### The manager -/

/-- `active_calls` and `simulated_calls` with the calls on their way into and out of them,
`current_calls`, and the call whose handler holds `calls_mutex` between insertion and increment. -/
structure World where
  calls : AList fun _ : ℕ => Call
  currentCalls : Int
  counting : Option ℕ

def World.init : World := ⟨∅, 0, none⟩

/-- A step. The identifiers of calls are UUIDs, so that a new call has a fresh one. -/
inductive Event where
  | initiateCall (id : ℕ) (simulated : Bool)
  | refuse (id : ℕ)
  | onIncomingCall (id : ℕ)
  | transferToHumanNumber (id : ℕ)
  | act (id : ℕ) (a : Action)
deriving DecidableEq, Repr

/-- The steps for which `calls_mutex` is taken. -/
def Action.locks : Action → Bool
  | .place | .insert | .disconnected | .endCall | .pumpDecrement | .terminateDecrement => true
  | .start | .startFailed _ | .count | .destroy | .pumpStop | .pumpExchange | .terminate
  | .join => false

/-- The holder of the mutex after a step of a call. -/
def Action.counting (id : ℕ) (counting : Option ℕ) : Action → Option ℕ
  | .place | .insert => some id
  | .count           => none
  | _                => counting

/-- A call is inserted without a limit check and without a step that can fail in between. -/
def World.admit (w : World) (id : ℕ) : Option World :=
  if id ∉ w.calls ∧ w.counting = none then
    some { w with
      calls := w.calls.insert id (.sip (SipCall.new .inserted))
      counting := some id }
  else none

def step (maxCalls : Int) (w : World) : Event → Option World
  | .initiateCall id simulated =>
    if id ∈ w.calls then none
    else if maxCalls ≤ w.currentCalls then some w
    else some { w with
      calls := w.calls.insert id (if simulated then .sim .new else .sip (.new .checked)) }
  | .refuse id =>
    -- invalid parameters, an endpoint that is not initialised, `makeCall` that throws
    (w.calls.lookup id).bind fun c =>
      if c.stage = .checked then some { w with calls := w.calls.erase id } else none
  | .onIncomingCall id => w.admit id
  | .transferToHumanNumber id => w.admit id
  | .act id a =>
    if (a.locks = true → w.counting = none) ∧ (a = .count → w.counting = some id) then
      (w.calls.lookup id).bind fun c => (c.act a).map fun r =>
        { calls := w.calls.insert id r.1
          currentCalls := w.currentCalls + r.2
          counting := a.counting id w.counting }
    else none

/-- The steps as a relation. -/
inductive Step (maxCalls : Int) (w : World) : Event → World → Prop
  | limitReached {id : ℕ} {simulated : Bool} (hmax : maxCalls ≤ w.currentCalls) :
      Step maxCalls w (.initiateCall id simulated) w
  | initiateCall {id : ℕ} {simulated : Bool} {c : Call} (hid : id ∉ w.calls)
      (hc : c = .sip (.new .checked) ∨ c = .sim .new) :
      Step maxCalls w (.initiateCall id simulated) { w with calls := w.calls.insert id c }
  | refuse {id : ℕ} {c : Call} (hid : w.calls.lookup id = some c) (hc : c.stage = .checked) :
      Step maxCalls w (.refuse id) { w with calls := w.calls.erase id }
  | onIncomingCall {id : ℕ} (hid : id ∉ w.calls) (hfree : w.counting = none) :
      Step maxCalls w (.onIncomingCall id)
        { w with calls := w.calls.insert id (.sip (.new .inserted)), counting := some id }
  | transferToHumanNumber {id : ℕ} (hid : id ∉ w.calls) (hfree : w.counting = none) :
      Step maxCalls w (.transferToHumanNumber id)
        { w with calls := w.calls.insert id (.sip (.new .inserted)), counting := some id }
  | act {id : ℕ} {a : Action} {c c' : Call} {d : Int} (hlock : a.locks = true → w.counting = none)
      (hcount : a = .count → w.counting = some id) (hid : w.calls.lookup id = some c)
      (hact : c.act a = some (c', d)) :
      Step maxCalls w (.act id a)
        { calls := w.calls.insert id c'
          currentCalls := w.currentCalls + d
          counting := a.counting id w.counting }

/-! ### Accounting -/

variable {maxCalls : Int} {w w' : World} {c c' : Call} {a : Action} {id : ℕ} {d : Int}

lemma World.admit_eq (h : w.admit id = some w') :
    id ∉ w.calls ∧ w.counting = none ∧
      w' = { w with
        calls := w.calls.insert id (.sip (SipCall.new .inserted))
        counting := some id } := by
  unfold World.admit at h
  split_ifs at h with hc
  cases h
  exact ⟨hc.1, hc.2, rfl⟩

lemma step_spec {e : Event} (h : step maxCalls w e = some w') : Step maxCalls w e w' := by
  cases e with
  | initiateCall id simulated =>
    simp only [step] at h
    split_ifs at h with hid hmax hsim
    · cases h
      exact .limitReached hmax
    · cases h
      exact .initiateCall hid (Or.inr rfl)
    · cases h
      exact .initiateCall hid (Or.inl rfl)
  | refuse id =>
    obtain ⟨c, hid, h⟩ := Option.bind_eq_some_iff.mp h
    split_ifs at h with hc
    cases h
    exact .refuse hid hc
  | onIncomingCall id =>
    obtain ⟨hid, hfree, rfl⟩ := World.admit_eq h
    exact .onIncomingCall hid hfree
  | transferToHumanNumber id =>
    obtain ⟨hid, hfree, rfl⟩ := World.admit_eq h
    exact .transferToHumanNumber hid hfree
  | act id a =>
    simp only [step] at h
    split_ifs at h with hmutex
    obtain ⟨c, hid, h⟩ := Option.bind_eq_some_iff.mp h
    obtain ⟨⟨c', d⟩, hact, rfl⟩ := Option.map_eq_some_iff.mp h
    exact .act hmutex.1 hmutex.2 hid hact

/-- The number of admitted calls that have not ended. -/
def World.liveCalls (w : World) : ℕ := w.calls.entries.countP (·.2.live)

/-- What a call has contributed to `current_calls`. -/
def Call.weight (c : Call) : Int :=
  (if c.counted then 1 else 0) - (if c.ended then 1 else 0)

/-- The steps that execute `decrementCallCounter`. -/
def Action.decrements : Action → Bool
  | .disconnected | .pumpDecrement | .terminateDecrement => true
  | _ => false

/-- The steps of a call as a relation, with the condition of each. -/
inductive Call.Step : Call → Action → Call → Int → Prop
  | place {c : SipCall} (hc : c.stage = .checked) :
      Step (.sip c) .place (.sip { c with stage := .inserted }) 0
  | countSip {c : SipCall} (hc : c.stage = .inserted) :
      Step (.sip c) .count (.sip { c with stage := .counted }) 1
  | disconnected {c : SipCall} (hc : c.stage = .counted) (hd : c.disconnected = false) :
      Step (.sip c) .disconnected (.sip { c with disconnected := true }) (-1)
  | endSip {c : SipCall} (hc : c.stage = .inserted ∨ c.stage = .counted) :
      Step (.sip c) .endCall (.sip { c with released := true }) 0
  | destroySip {c : SipCall} (hc : c.stage = .inserted ∨ c.stage = .counted) :
      Step (.sip c) .destroy (.sip { c with released := true }) 0
  | start {c : SimulatedCall} (hc : c.stage = .checked) :
      Step (.sim c) .start (.sim { c with stage := .started, pump := .running }) 0
  | startFailed {c : SimulatedCall} {pumping : Bool} (hc : c.stage = .checked) :
      Step (.sim c) (.startFailed pumping)
        (.sim { c with stage := .startFailed, pump := if pumping then .running else .none }) 0
  | insert {c : SimulatedCall} (hc : c.stage = .started) :
      Step (.sim c) .insert (.sim { c with stage := .inserted }) 0
  | count {c : SimulatedCall} (hc : c.stage = .inserted) :
      Step (.sim c) .count (.sim { c with stage := .counted }) 1
  | endCall {c : SimulatedCall} (hc : c.stage = .inserted ∨ c.stage = .counted) :
      Step (.sim c) .endCall (.sim { c with released := true }) 0
  | destroy {c : SimulatedCall} (hc : c.stage = .inserted ∨ c.stage = .counted) :
      Step (.sim c) .destroy (.sim { c with released := true }) 0
  | pumpStop {c : SimulatedCall} (hp : c.pump = .running) :
      Step (.sim c) .pumpStop (.sim { c with pump := .finishing }) 0
  | pumpWins {c : SimulatedCall} (hp : c.pump = .finishing) (he : c.ending = .none) :
      Step (.sim c) .pumpExchange (.sim { c with ending := .pump }) 0
  | pumpLoses {c : SimulatedCall} (hp : c.pump = .finishing) :
      Step (.sim c) .pumpExchange (.sim { c with pump := .done }) 0
  | pumpDecrement {c : SimulatedCall} (he : c.ending = .pump) :
      Step (.sim c) .pumpDecrement (.sim { c with pump := .done, ending := .done }) (-1)
  | terminateWins {c : SimulatedCall} (hc : c.released = true ∨ c.stage = .startFailed)
      (he : c.ending = .none) :
      Step (.sim c) .terminate (.sim { c with ending := .terminate }) 0
  | terminateLoses {c : SimulatedCall} : Step (.sim c) .terminate (.sim c) 0
  | join {c : SimulatedCall} (he : c.ending = .terminate) :
      Step (.sim c) .join (.sim { c with ending := .joined }) 0
  | terminateDecrement {c : SimulatedCall} (he : c.ending = .joined) :
      Step (.sim c) .terminateDecrement (.sim { c with ending := .done }) (-1)

lemma SipCall.act_step {c c' : SipCall} (h : c.act a = some (c', d)) :
    Call.Step (.sip c) a (.sip c') d := by
  cases a with
  | place =>
    simp only [SipCall.act] at h
    split_ifs at h with hc
    cases h
    exact .place hc
  | count =>
    simp only [SipCall.act] at h
    split_ifs at h with hc
    cases h
    exact .countSip hc
  | disconnected =>
    simp only [SipCall.act] at h
    split_ifs at h with hc
    cases h
    exact .disconnected hc.1 hc.2
  | endCall =>
    simp only [SipCall.act] at h
    split_ifs at h with hc
    cases h
    exact .endSip hc.1
  | destroy =>
    simp only [SipCall.act] at h
    split_ifs at h with hc
    cases h
    exact .destroySip hc.1
  | _ => cases h

lemma SimulatedCall.act_step {c c' : SimulatedCall} (h : c.act a = some (c', d)) :
    Call.Step (.sim c) a (.sim c') d := by
  cases a with
  | start =>
    simp only [SimulatedCall.act] at h
    split_ifs at h with hc
    cases h
    exact .start hc
  | startFailed pumping =>
    obtain ⟨hc, h⟩ := Option.ite_none_right_eq_some.mp h
    cases h
    exact .startFailed hc
  | insert =>
    simp only [SimulatedCall.act] at h
    split_ifs at h with hc
    cases h
    exact .insert hc
  | count =>
    simp only [SimulatedCall.act] at h
    split_ifs at h with hc
    cases h
    exact .count hc
  | endCall =>
    simp only [SimulatedCall.act] at h
    split_ifs at h with hc
    cases h
    exact .endCall hc.1
  | destroy =>
    simp only [SimulatedCall.act] at h
    split_ifs at h with hc
    cases h
    exact .destroy hc.1
  | pumpStop =>
    simp only [SimulatedCall.act] at h
    split_ifs at h with hc
    cases h
    exact .pumpStop hc
  | pumpExchange =>
    simp only [SimulatedCall.act] at h
    split_ifs at h with hc hc'
    · cases h
      exact .pumpWins hc.1 hc.2
    · cases h
      exact .pumpLoses hc'.1
  | pumpDecrement =>
    simp only [SimulatedCall.act] at h
    split_ifs at h with hc
    cases h
    exact .pumpDecrement hc
  | terminate =>
    simp only [SimulatedCall.act] at h
    split_ifs at h with hc hnone
    · cases h
      exact .terminateWins hc hnone
    · cases h
      exact .terminateLoses
  | join =>
    simp only [SimulatedCall.act] at h
    split_ifs at h with hc
    cases h
    exact .join hc.1
  | terminateDecrement =>
    simp only [SimulatedCall.act] at h
    split_ifs at h with hc
    cases h
    exact .terminateDecrement hc
  | _ => cases h

lemma Call.act_step (h : c.act a = some (c', d)) : c.Step a c' d := by
  cases c with
  | sip c =>
    obtain ⟨r, hr, heq⟩ := Option.map_eq_some_iff.mp h
    cases heq
    exact SipCall.act_step hr
  | sim c =>
    obtain ⟨r, hr, heq⟩ := Option.map_eq_some_iff.mp h
    cases heq
    exact SimulatedCall.act_step hr

/-- A step counts the call, ends it, or does neither. -/
lemma Call.Step.effect (h : c.Step a c' d) :
    (d = 0 ∧ c'.counted = c.counted ∧ c'.ended = c.ended) ∨
    (d = 1 ∧ c.counted = false ∧ c'.counted = true ∧ c'.ended = c.ended) ∨
    (a.decrements = true ∧ d = -1 ∧ c'.counted = c.counted ∧ c.ended = false ∧
      c'.ended = true) := by
  cases h with
  | place hc => exact Or.inl ⟨rfl, by simp [Call.counted, Call.stage, hc], rfl⟩
  | countSip hc =>
    exact Or.inr (Or.inl ⟨rfl, by simp [Call.counted, Call.stage, hc], rfl, rfl⟩)
  | disconnected hc hd => exact Or.inr (Or.inr ⟨rfl, rfl, rfl, hd, rfl⟩)
  | endSip hc | destroySip hc => exact Or.inl ⟨rfl, rfl, rfl⟩
  | start hc => exact Or.inl ⟨rfl, by simp [Call.counted, Call.stage, hc], rfl⟩
  | startFailed hc => exact Or.inl ⟨rfl, by simp [Call.counted, Call.stage, hc], rfl⟩
  | insert hc => exact Or.inl ⟨rfl, by simp [Call.counted, Call.stage, hc], rfl⟩
  | count hc =>
    exact Or.inr (Or.inl ⟨rfl, by simp [Call.counted, Call.stage, hc], rfl, rfl⟩)
  | endCall hc | destroy hc => exact Or.inl ⟨rfl, rfl, rfl⟩
  | pumpStop hp => exact Or.inl ⟨rfl, rfl, rfl⟩
  | pumpWins hp he => exact Or.inl ⟨rfl, rfl, by simp [Call.ended, he]⟩
  | pumpLoses hp => exact Or.inl ⟨rfl, rfl, rfl⟩
  | pumpDecrement he =>
    exact Or.inr (Or.inr ⟨rfl, rfl, rfl, by simp [Call.ended, he], rfl⟩)
  | terminateWins hc he => exact Or.inl ⟨rfl, rfl, by simp [Call.ended, he]⟩
  | terminateLoses => exact Or.inl ⟨rfl, rfl, rfl⟩
  | join he => exact Or.inl ⟨rfl, rfl, by simp [Call.ended, he]⟩
  | terminateDecrement he =>
    exact Or.inr (Or.inr ⟨rfl, rfl, rfl, by simp [Call.ended, he], rfl⟩)

/-- The counter changes by the change of the weight of the call. -/
lemma Call.Step.weight (h : c.Step a c' d) : c'.weight = c.weight + d := by
  simp only [Call.weight]
  rcases h.effect with ⟨rfl, hc, he⟩ | ⟨rfl, hc, hc', he⟩ | ⟨-, rfl, hc, he, he'⟩
  · rw [hc, he]
    omega
  · rw [hc, hc', he]
    simp
    omega
  · rw [hc, he, he']
    simp
    omega

/-! ### The counter

A call contributes its weight to the counter, in every run. The counter is the number of live calls
as long as no call ends before it is counted.
-/

/-- A call at the limit check is as it was created. -/
def Call.Fresh (c : Call) : Prop :=
  c.stage = .checked → c = .sip (.new .checked) ∨ c = .sim .new

lemma Call.Fresh.weight (h : c.Fresh) (hc : c.stage = .checked) : c.weight = 0 := by
  rcases h hc with rfl | rfl <;> rfl

lemma Call.Fresh.step (hf : c.Fresh) (h : c.Step a c' d) : c'.Fresh := by
  intro hc'
  cases h with
  | place hc => cases hc'
  | countSip hc => cases hc'
  | disconnected hc hd => exact absurd (hc'.symm.trans hc) (by simp)
  | endSip hc | destroySip hc =>
    have := hc.imp hc'.symm.trans hc'.symm.trans
    simp at this
  | start hc => cases hc'
  | startFailed hc => cases hc'
  | insert hc => cases hc'
  | count hc => cases hc'
  | endCall hc | destroy hc =>
    have := hc.imp hc'.symm.trans hc'.symm.trans
    simp at this
  | pumpStop hp =>
    rcases hf hc' with h | h <;> cases h
    cases hp
  | pumpWins hp he =>
    rcases hf hc' with h | h <;> cases h
    cases hp
  | pumpLoses hp =>
    rcases hf hc' with h | h <;> cases h
    cases hp
  | pumpDecrement he =>
    rcases hf hc' with h | h <;> cases h
    cases he
  | terminateWins hc he =>
    rcases hf hc' with h | h <;> cases h
    rcases hc with hc | hc <;> cases hc
  | terminateLoses => exact hf hc'
  | join he =>
    rcases hf hc' with h | h <;> cases h
    cases he
  | terminateDecrement he =>
    rcases hf hc' with h | h <;> cases h
    cases he

/-- `current_calls` is what the calls have contributed. -/
structure World.Accounted (w : World) : Prop where
  total : w.currentCalls = AList.total Call.weight w.calls
  fresh : ∀ id c, w.calls.lookup id = some c → c.Fresh

/-- The calls after a new call, and after a step of a call. -/
lemma forall_lookup_insert {P : ℕ → Call → Prop} {calls : AList fun _ : ℕ => Call}
    (hid : P id c) (h : ∀ x c, x ≠ id → calls.lookup x = some c → P x c) :
    ∀ x c', (calls.insert id c).lookup x = some c' → P x c' := by
  intro x c' hx
  rw [lookup_insert_ite] at hx
  split_ifs at hx with heq
  · cases hx
    rw [heq]
    exact hid
  · exact h x c' heq hx

lemma World.Accounted.insert (ha : w.Accounted) (hid : id ∉ w.calls) (hf : c.Fresh)
    (hw : c.weight = 0) (counting : Option ℕ) :
    World.Accounted ⟨w.calls.insert id c, w.currentCalls, counting⟩ where
  total := by
    show w.currentCalls = _
    rw [total_insert_of_notMem hid, hw, Int.zero_add]
    exact ha.total
  fresh := forall_lookup_insert hf fun x c _ => ha.fresh x c

/-- The counter follows the calls in every step. -/
lemma World.Accounted.step {e : Event} (ha : w.Accounted)
    (h : CallManager.step maxCalls w e = some w') : w'.Accounted := by
  cases step_spec h with
  | limitReached hmax => exact ha
  | initiateCall hid hc =>
    refine ha.insert hid (fun _ => hc) ?_ _
    rcases hc with rfl | rfl <;> rfl
  | @refuse id c hid hc =>
    constructor
    · show w.currentCalls = _
      rw [total_erase_of_lookup hid, (ha.fresh id c hid).weight hc, Int.sub_zero]
      exact ha.total
    · intro x c' hx
      rw [lookup_erase_ite] at hx
      split_ifs at hx
      exact ha.fresh x c' hx
  | onIncomingCall hid | transferToHumanNumber hid =>
    exact ha.insert hid (fun hc => by cases hc) rfl _
  | @act id a c c' d hlock hcount hid hact =>
    have hstep := Call.act_step hact
    constructor
    · show w.currentCalls + d = AList.total Call.weight (w.calls.insert id c')
      rw [total_insert_of_lookup hid, hstep.weight, ha.total]
      omega
    · exact forall_lookup_insert ((ha.fresh id c hid).step hstep) fun x c _ => ha.fresh x c

/-- No call has ended before it was counted. -/
def World.CountedFirst (w : World) : Prop :=
  ∀ id c, w.calls.lookup id = some c → c.ended = true → c.counted = true

lemma Call.weight_eq_live (h : c.ended = true → c.counted = true) :
    c.weight = if c.live then 1 else 0 := by
  unfold Call.weight Call.live
  cases he : c.ended with
  | false => simp
  | true => simp [h he]

/-- The counter is the number of live calls when no call has ended before it was counted. -/
lemma World.Accounted.eq_live (ha : w.Accounted) (hs : w.CountedFirst) :
    w.currentCalls = w.liveCalls := by
  rw [ha.total, World.liveCalls, ← total_indicator]
  exact total_congr fun id c hc => Call.weight_eq_live (hs id c hc)

/-! ### Calls that end after they were counted -/

/-- The steps in which a simulated call does not start. -/
def Action.startFails : Action → Bool
  | .startFailed _ => true
  | _              => false

/-- A simulated call starts, and its pump thread does not end it before it is counted. -/
def StartsAndCounts (w : World) : Event → Prop
  | .act id a =>
    a.startFails = false ∧
      (a = .pumpDecrement → ∀ c ∈ w.calls.lookup id, c.counted = true)
  | _ => True

instance decidableStartsAndCounts (w : World) : ∀ e, Decidable (StartsAndCounts w e)
  | .act id a =>
    inferInstanceAs (Decidable (a.startFails = false ∧
      (a = .pumpDecrement → ∀ c ∈ w.calls.lookup id, c.counted = true)))
  | .initiateCall _ _ => isTrue trivial
  | .refuse _ => isTrue trivial
  | .onIncomingCall _ => isTrue trivial
  | .transferToHumanNumber _ => isTrue trivial

/-- A simulated call that is released, or that `terminate()` is ending, has been inserted. -/
def Call.Orderly : Call → Prop
  | .sip _ => True
  | .sim c => c.stage ≠ .startFailed ∧
      (c.released = true ∨ c.ending = .terminate ∨ c.ending = .joined →
        c.stage = .inserted ∨ c.stage = .counted)

/-- What holds of a call, when the handler of `counting` holds the mutex. -/
structure Call.Sound (counting : Option ℕ) (id : ℕ) (c : Call) : Prop where
  inserted : c.stage = .inserted → counting = some id
  ended : c.ended = true → c.counted = true
  orderly : c.Orderly

def World.Sound (w : World) : Prop :=
  ∀ id c, w.calls.lookup id = some c → c.Sound w.counting id

variable {counting : Option ℕ}

/-- Before it is inserted, a call is neither released nor in the hands of `terminate()`. -/
lemma Call.Orderly.of_not_inserted {c : SimulatedCall} (h : Call.Orderly (.sim c))
    (hne : ¬(c.stage = .inserted ∨ c.stage = .counted)) :
    c.released = false ∧ c.ending ≠ .terminate ∧ c.ending ≠ .joined := by
  refine ⟨?_, fun he => hne (h.2 (Or.inr (Or.inl he))), fun he => hne (h.2 (Or.inr (Or.inr he)))⟩
  by_contra hrel
  exact hne (h.2 (Or.inl (by simpa using hrel)))

lemma Call.Sound.orderly_step (hs : c.Sound counting id) (h : c.Step a c' d)
    (hstart : a.startFails = false) : c'.Orderly := by
  cases h with
  | place | countSip | disconnected | endSip | destroySip => trivial
  | start hc =>
    obtain ⟨hrel, ht, hj⟩ := hs.orderly.of_not_inserted (by simp [hc])
    refine ⟨by simp, ?_⟩
    rintro (h | h | h)
    · exact absurd (hrel.symm.trans h) Bool.false_ne_true
    · exact absurd h ht
    · exact absurd h hj
  | startFailed hc => cases hstart
  | insert hc => exact ⟨by simp, fun _ => Or.inl rfl⟩
  | count hc => exact ⟨by simp, fun _ => Or.inr rfl⟩
  | endCall hc | destroy hc => exact ⟨hs.orderly.1, fun _ => hc⟩
  | pumpStop hp => exact hs.orderly
  | pumpWins hp he | pumpDecrement he =>
    refine ⟨hs.orderly.1, ?_⟩
    rintro (h | h | h)
    · exact hs.orderly.2 (Or.inl h)
    · cases h
    · cases h
  | pumpLoses hp => exact hs.orderly
  | terminateWins hc he =>
    exact ⟨hs.orderly.1, fun _ => hs.orderly.2 (Or.inl (hc.resolve_right hs.orderly.1))⟩
  | terminateLoses => exact hs.orderly
  | join he => exact ⟨hs.orderly.1, fun _ => hs.orderly.2 (Or.inr (Or.inl he))⟩
  | terminateDecrement he => exact ⟨hs.orderly.1, fun _ => hs.orderly.2 (Or.inr (Or.inr he))⟩

/-- Only a call that was counted is uncounted. -/
lemma Call.Sound.counted_of_decrements (hs : c.Sound counting id) (h : c.Step a c' d)
    (ha : a.decrements = true) (hlock : a.locks = true → counting = none)
    (hpump : a = .pumpDecrement → c.counted = true) : c.counted = true := by
  cases h with
  | disconnected hc hd => simp [Call.counted, Call.stage, hc]
  | pumpDecrement he => exact hpump rfl
  | terminateDecrement he =>
    -- `decrementCallCounter` waits for the handler that has inserted the call
    rcases hs.orderly.2 (Or.inr (Or.inr he)) with hins | hcnt
    · have := hs.inserted hins
      rw [hlock rfl] at this
      cases this
    · simp [Call.counted, Call.stage, hcnt]
  | _ => cases ha

/-- A call that is inserted and not counted is the one whose handler holds the mutex. -/
lemma Call.Sound.inserted_step (hs : c.Sound counting id) (h : c.Step a c' d) :
    c'.stage = .inserted → a.counting id counting = some id := by
  intro hc'
  cases h with
  | place | insert => rfl
  | countSip | start | startFailed | count => cases hc'
  | disconnected hc hd => exact absurd (hc'.symm.trans hc) (by simp)
  | _ => exact hs.inserted hc'

/-- The acting call. -/
lemma Call.Sound.step (hs : c.Sound counting id) (h : c.Step a c' d)
    (hlock : a.locks = true → counting = none) (hstart : a.startFails = false)
    (hpump : a = .pumpDecrement → c.counted = true) : c'.Sound (a.counting id counting) id where
  inserted := hs.inserted_step h
  ended := by
    intro hended
    rcases h.effect with ⟨-, hcounted, he⟩ | ⟨-, -, hcounted, -⟩ | ⟨hdec, -, hcounted, -, -⟩
    · rw [hcounted]
      exact hs.ended (he ▸ hended)
    · exact hcounted
    · rw [hcounted]
      exact hs.counted_of_decrements h hdec hlock hpump
  orderly := hs.orderly_step h hstart

/-- The other calls: the mutex was free, or stays with its holder until that one counts. -/
lemma Call.Sound.other {x : ℕ} (hs : c.Sound counting x) (hx : x ≠ id)
    (hlock : a.locks = true → counting = none) (hcount : a = .count → counting = some id) :
    c.Sound (a.counting id counting) x where
  inserted := by
    intro hins
    have := hs.inserted hins
    cases a with
    | place | insert =>
      rw [hlock rfl] at this
      cases this
    | count =>
      rw [hcount rfl] at this
      exact absurd (Option.some.inj this).symm hx
    | _ => exact this
  ended := hs.ended
  orderly := hs.orderly

/-- A call that the free mutex is taken for. -/
lemma Call.Sound.admit (hs : c.Sound none id) {x : ℕ} : c.Sound (some x) id where
  inserted := by
    intro hins
    cases hs.inserted hins
  ended := hs.ended
  orderly := hs.orderly

lemma World.Sound.step {e : Event} (hs : w.Sound) (hg : StartsAndCounts w e)
    (h : CallManager.step maxCalls w e = some w') : w'.Sound := by
  cases step_spec h with
  | limitReached hmax => exact hs
  | @initiateCall id _ c hid hc =>
    have hsound : c.Sound w.counting id := by
      rcases hc with rfl | rfl
      · exact ⟨nofun, nofun, trivial⟩
      · exact ⟨nofun, nofun, by simp [Call.Orderly, SimulatedCall.new]⟩
    exact forall_lookup_insert hsound fun x c _ => hs x c
  | refuse hid hc =>
    intro x c' hx
    rw [lookup_erase_ite] at hx
    split_ifs at hx
    exact hs x c' hx
  | onIncomingCall hid hfree | transferToHumanNumber hid hfree =>
    refine forall_lookup_insert ⟨fun _ => rfl, nofun, trivial⟩ fun x c _ hx => ?_
    have := hs x c hx
    rw [hfree] at this
    exact this.admit
  | @act id a c c' d hlock hcount hid hact =>
    refine forall_lookup_insert ?_ fun x c hne hx => ?_
    · exact (hs id c hid).step (Call.act_step hact) hlock hg.1 fun ha => hg.2 ha c hid
    · exact (hs x c hx).other hne hlock hcount

/-- In a run in which every simulated call starts, and is counted before its pump thread uncounts
it, `current_calls` is the number of admitted calls that have not ended, at every point. It is never
negative, and a request leaves it unchanged when it is taken and when it is refused. -/
theorem currentCalls_eq_live {es : List Event}
    (hg : Guarded (step maxCalls) StartsAndCounts World.init es)
    (hr : run (step maxCalls) World.init es = some w) :
    w.currentCalls = w.liveCalls ∧ 0 ≤ w.currentCalls ∧
      (∀ id simulated w', step maxCalls w (.initiateCall id simulated) = some w' →
        w'.currentCalls = w.currentCalls) ∧
      (∀ id w', step maxCalls w (.refuse id) = some w' → w'.currentCalls = w.currentCalls) := by
  have ha : w.Accounted := by
    refine run_invariant' (fun w e w' ha h => ha.step h) ?_ hr
    exact ⟨rfl, fun id c hc => by cases hc⟩
  have hs : w.Sound := by
    refine run_invariant (fun w e w' hs hg h => hs.step hg h) ?_ hg hr
    exact fun id c hc => by cases hc
  have hlive : w.currentCalls = w.liveCalls := ha.eq_live fun id c hc => (hs id c hc).ended
  refine ⟨hlive, by omega, fun id simulated w' h => ?_, fun id w' h => ?_⟩
  · cases step_spec h <;> rfl
  · cases step_spec h
    rfl

/-- A simulated call and a SIP call are admitted, and the simulated call is ended. -/
theorem currentCalls_eq_live_sample :
    ∃ w, run (step 25) World.init
        [.initiateCall 0 true, .act 0 .start, .act 0 .insert, .act 0 .count,
          .initiateCall 1 false, .act 1 .place, .act 1 .count, .act 0 .endCall, .act 0 .terminate,
          .act 0 .pumpStop, .act 0 .pumpExchange, .act 0 .join, .act 0 .terminateDecrement] =
        some w ∧
      w.currentCalls = 1 ∧ w.liveCalls = 1 ∧ w.currentCalls = w.liveCalls := by
  have hg : Guarded (step 25) StartsAndCounts World.init
      [.initiateCall 0 true, .act 0 .start, .act 0 .insert, .act 0 .count,
        .initiateCall 1 false, .act 1 .place, .act 1 .count, .act 0 .endCall, .act 0 .terminate,
        .act 0 .pumpStop, .act 0 .pumpExchange, .act 0 .join, .act 0 .terminateDecrement] := by
    decide
  exact ⟨_, rfl, rfl, rfl, (currentCalls_eq_live hg rfl).1⟩

/-- A simulated call that cannot connect is uncounted by its destructor, and was never counted. -/
theorem startFailed_negative :
    ¬∀ (es : List Event) (w : World), run (step 25) World.init es = some w → w.counting = none →
      w.currentCalls = w.liveCalls ∧ 0 ≤ w.currentCalls := by
  intro h
  have hneg := h [.initiateCall 0 true, .act 0 (.startFailed false), .act 0 .terminate,
    .act 0 .join, .act 0 .terminateDecrement] _ rfl rfl
  exact absurd hneg.2 (by decide)

end MediaServer.CallManager
