import SipForward.MediaServer.CallManager

/-!
# What the media server reports of its calls

`/health` reports how many calls there is room for, and `/get-all-calls` lists the entries of
`active_calls` and `simulated_calls`. The limit is checked without the lock, before the call is
counted, and only for calls that are requested; an entry is removed by `endCall` only.
-/

namespace MediaServer.CallManager

open Core AList

variable {maxCalls : Int} {w w' : World} {c c' : Call} {a : Action} {id : ℕ} {d : Int} {e : Event}
  {es : List Event}

/-! ### Capacity -/

/-- The answer of `/health`; `ok` is false for Service Unavailable. -/
structure Health where
  ok : Bool
  currentCalls : Int
  maxCalls : Int
  availableCapacity : Int
deriving DecidableEq, Repr

def healthCheck (maxCalls : Int) (w : World) : Health where
  ok := w.currentCalls < maxCalls
  currentCalls := w.currentCalls
  maxCalls := maxCalls
  availableCapacity := maxCalls - w.currentCalls

/-- The call is on its way to being counted. -/
def Call.pending (c : Call) : Bool :=
  match c.stage with
  | .checked | .started | .inserted => true
  | .startFailed | .counted         => false

/-- What a call takes of the capacity before it is counted. -/
def Call.claim (c : Call) : Int := if c.pending then 1 else 0

/-- The calls that are on their way to being counted. -/
def World.pendingCalls (w : World) : Int := AList.total Call.claim w.calls

/-- A call is let in when there is room for it and for all that are on their way. -/
def RoomForPending (maxCalls : Int) (w : World) : Event → Prop
  | .initiateCall _ _ =>
    w.currentCalls < maxCalls → w.currentCalls + w.pendingCalls < maxCalls
  | .onIncomingCall _ | .transferToHumanNumber _ => w.currentCalls + w.pendingCalls < maxCalls
  | .refuse _ | .act _ _ => True

instance decidableRoomForPending (maxCalls : Int) (w : World) :
    ∀ e, Decidable (RoomForPending maxCalls w e)
  | .initiateCall _ _ =>
    inferInstanceAs (Decidable (w.currentCalls < maxCalls →
      w.currentCalls + w.pendingCalls < maxCalls))
  | .onIncomingCall _ | .transferToHumanNumber _ =>
    inferInstanceAs (Decidable (w.currentCalls + w.pendingCalls < maxCalls))
  | .refuse _ | .act _ _ => isTrue trivial

/-- A step of a call moves its claim to the counter, gives it up, or leaves it. -/
lemma Call.Step.claim (h : c.Step a c' d) : d + c'.claim ≤ c.claim := by
  cases h with
  | place hc | countSip hc | start hc | startFailed hc | insert hc | count hc =>
    simp [Call.claim, Call.pending, Call.stage, hc]
  | disconnected hc hd =>
    simp [Call.claim, Call.pending, Call.stage, hc]
  | @pumpDecrement c he | @terminateDecrement c he =>
    show -1 + (Call.sim c).claim ≤ (Call.sim c).claim
    omega
  | _ => exact Int.le_of_eq (Int.zero_add _)

lemma Call.claim_nonneg (c : Call) : 0 ≤ c.claim := by
  unfold claim
  split_ifs <;> decide

/-- The calls that are counted and those on their way do not exceed the limit. -/
lemma RoomForPending.step (hroom : RoomForPending maxCalls w e)
    (hle : w.currentCalls + w.pendingCalls ≤ maxCalls)
    (h : CallManager.step maxCalls w e = some w') :
    w'.currentCalls + w'.pendingCalls ≤ maxCalls := by
  cases step_spec h with
  | limitReached hmax => exact hle
  | @initiateCall id simulated c hid hc =>
    have hclaim : c.claim = 1 := by rcases hc with rfl | rfl <;> rfl
    have hcheck : w.currentCalls < maxCalls := by
      by_contra hmax
      simp only [CallManager.step, if_neg hid, if_pos (Int.not_lt.mp hmax)] at h
      have hcalls : w.calls = w.calls.insert id c := congrArg World.calls (Option.some.inj h)
      have hmem : id ∈ w.calls.insert id c := (mem_insert _).mpr (Or.inl rfl)
      rw [← hcalls] at hmem
      exact hid hmem
    have hlt := hroom hcheck
    show w.currentCalls + AList.total Call.claim (w.calls.insert id c) ≤ maxCalls
    rw [total_insert_of_notMem hid, hclaim]
    unfold World.pendingCalls at hlt
    omega
  | @refuse id c hid hc =>
    have hnonneg := c.claim_nonneg
    show w.currentCalls + AList.total Call.claim (w.calls.erase id) ≤ maxCalls
    rw [total_erase_of_lookup hid]
    unfold World.pendingCalls at hle
    omega
  | @onIncomingCall id hid hfree | @transferToHumanNumber id hid hfree =>
    have hlt : w.currentCalls + w.pendingCalls < maxCalls := hroom
    show w.currentCalls + AList.total Call.claim (w.calls.insert id _) ≤ maxCalls
    rw [total_insert_of_notMem hid]
    unfold World.pendingCalls at hlt
    simp [Call.claim, Call.pending, Call.stage, SipCall.new]
    omega
  | @act id a c c' d hlock hcount hid hact =>
    have hclaim := (Call.act_step hact).claim
    show w.currentCalls + d + AList.total Call.claim (w.calls.insert id c') ≤ maxCalls
    rw [total_insert_of_lookup hid]
    unfold World.pendingCalls at hle
    omega

lemma World.pendingCalls_nonneg (w : World) : 0 ≤ w.pendingCalls := by
  refine List.sum_nonneg fun x hx => ?_
  obtain ⟨entry, -, rfl⟩ := List.mem_map.mp hx
  exact entry.2.claim_nonneg

/-- In a run in which every call that is let in finds room for itself and for all that are on their
way, the counter stays within the limit, and the capacity reported is not negative. -/
theorem availableCapacity_nonneg (hmax : 0 ≤ maxCalls)
    (hroom : Guarded (step maxCalls) (RoomForPending maxCalls) World.init es)
    (hr : run (step maxCalls) World.init es = some w) :
    w.currentCalls ≤ maxCalls ∧ 0 ≤ (healthCheck maxCalls w).availableCapacity := by
  have hle : w.currentCalls + w.pendingCalls ≤ maxCalls := by
    refine run_invariant (I := fun w => w.currentCalls + w.pendingCalls ≤ maxCalls)
      (fun w e w' hle hroom h => hroom.step hle h) ?_ hroom hr
    show (0 : Int) + 0 ≤ maxCalls
    omega
  have hpending := w.pendingCalls_nonneg
  refine ⟨by omega, ?_⟩
  simp only [healthCheck]
  omega

/-- A call is let in and counted, and the next one is refused at the limit. -/
theorem availableCapacity_nonneg_sample :
    ∃ w, run (step 1) World.init
      [.initiateCall 0 false, .act 0 .place, .act 0 .count, .initiateCall 1 false] = some w ∧
        w.currentCalls ≤ 1 ∧ 0 ≤ (healthCheck 1 w).availableCapacity := by
  have hroom : Guarded (step 1) (RoomForPending 1) World.init
      [.initiateCall 0 false, .act 0 .place, .act 0 .count, .initiateCall 1 false] := by
    decide
  exact ⟨_, rfl, availableCapacity_nonneg (by decide) hroom rfl⟩

/-- Two requests pass the check before either call is counted. -/
theorem limit_exceeded : ¬∀ (maxCalls : Int) (es : List Event) (w : World), 0 ≤ maxCalls →
    run (step maxCalls) World.init es = some w →
      w.currentCalls ≤ maxCalls ∧ 0 ≤ (healthCheck maxCalls w).availableCapacity := by
  intro h
  have hover := h 1 [.initiateCall 0 false, .initiateCall 1 false, .act 0 .place, .act 0 .count,
    .act 1 .place, .act 1 .count] _ (by decide) rfl
  exact absurd hover.1 (by decide)

/-! ### The list of calls -/

def Call.released : Call → Bool
  | .sip c => c.released
  | .sim c => c.released

/-- The call is an entry of `active_calls` or `simulated_calls`. -/
def Call.listed (c : Call) : Bool := (c.stage = .inserted || c.stage = .counted) && !c.released

/-- The answer of `/get-all-calls`. -/
def World.getAllCalls (w : World) : List ℕ × ℕ :=
  let entries := w.calls.entries.filter fun entry => entry.2.listed
  (entries.map (·.1), entries.length)

/-- The call was admitted, was not taken out by `endCall`, and has not ended on its own. -/
def Call.registered (c : Call) : Bool := c.counted && !c.released && !c.ended

/-- No handler is admitting the call, and no callback or thread is ending it. -/
def Call.Idle : Call → Prop
  | .sip c => c.stage = .counted
  | .sim c => (c.stage = .counted ∨ c.stage = .startFailed) ∧ c.pump ≠ .finishing ∧
      (c.ending = .none ∨ c.ending = .done)

instance decidableIdle : ∀ c : Call, Decidable c.Idle
  | .sip c => inferInstanceAs (Decidable (c.stage = .counted))
  | .sim c =>
    inferInstanceAs (Decidable ((c.stage = .counted ∨ c.stage = .startFailed) ∧
      c.pump ≠ .finishing ∧ (c.ending = .none ∨ c.ending = .done)))

/-- No handler or callback is running. -/
def World.Quiet (w : World) : Prop :=
  w.counting = none ∧ ∀ entry ∈ w.calls.entries, entry.2.Idle

instance decidableQuiet (w : World) : Decidable w.Quiet :=
  inferInstanceAs (Decidable (w.counting = none ∧ ∀ entry ∈ w.calls.entries, entry.2.Idle))

/-- What is listed and counted are the registered calls. -/
structure World.ListsRegistered (w : World) : Prop where
  ids : ∀ id, id ∈ w.getAllCalls.1 ↔ ∃ c, w.calls.lookup id = some c ∧ c.registered = true
  count : w.getAllCalls.2 = w.calls.entries.countP fun entry => entry.2.registered

/-- A call ends only after `endCall` has taken it out of its map, or because it did not start. -/
def EndsReleased (w : World) : Event → Prop
  | .act id a => a = .disconnected ∨ a = .pumpExchange →
      ∀ c ∈ w.calls.lookup id, c.released = true ∨ c.stage = .startFailed
  | _ => True

instance decidableEndsReleased (w : World) : ∀ e, Decidable (EndsReleased w e)
  | .act id a =>
    inferInstanceAs (Decidable (a = .disconnected ∨ a = .pumpExchange →
      ∀ c ∈ w.calls.lookup id, c.released = true ∨ c.stage = .startFailed))
  | .initiateCall _ _ => isTrue trivial
  | .refuse _ => isTrue trivial
  | .onIncomingCall _ => isTrue trivial
  | .transferToHumanNumber _ => isTrue trivial

/-- A call that ends is released, or was never inserted. -/
def Call.Retired : Call → Prop
  | .sip c => c.disconnected = true → c.released = true
  | .sim c => c.ending ≠ .none → c.released = true ∨ c.stage = .startFailed

lemma Call.Retired.step (hr : c.Retired) (h : c.Step a c' d)
    (hend : a = .disconnected ∨ a = .pumpExchange → c.released = true ∨ c.stage = .startFailed) :
    c'.Retired := by
  cases h with
  | place hc | countSip hc => exact hr
  | disconnected hc hd =>
    intro _
    refine (hend (Or.inl rfl)).resolve_right ?_
    show _ ≠ _
    simp [Call.stage, hc]
  | endSip hc | destroySip hc => exact fun _ => rfl
  | start hc | startFailed hc | insert hc | count hc =>
    intro he
    have := hr he
    simp only [hc, reduceCtorEq, or_false] at this
    exact Or.inl this
  | endCall hc | destroy hc => exact fun _ => Or.inl rfl
  | pumpStop hp => exact hr
  | pumpWins hp he => exact fun _ => hend (Or.inr rfl)
  | pumpLoses hp => exact hr
  | pumpDecrement he => exact fun _ => hr (by simp [he])
  | terminateWins hc he => exact fun _ => hc
  | terminateLoses => exact hr
  | join he => exact fun _ => hr (by simp [he])
  | terminateDecrement he => exact fun _ => hr (by simp [he])

lemma EndsReleased.step (hend : EndsReleased w e)
    (hr : ∀ id c, w.calls.lookup id = some c → c.Retired)
    (h : CallManager.step maxCalls w e = some w') :
    ∀ id c, w'.calls.lookup id = some c → c.Retired := by
  cases step_spec h with
  | limitReached hmax => exact hr
  | initiateCall hid hc =>
    refine forall_lookup_insert ?_ fun x c _ => hr x c
    rcases hc with rfl | rfl
    · exact nofun
    · exact fun he => absurd rfl he
  | refuse hid hc =>
    intro x c' hx
    rw [lookup_erase_ite] at hx
    split_ifs at hx
    exact hr x c' hx
  | onIncomingCall hid hfree | transferToHumanNumber hid hfree =>
    exact forall_lookup_insert nofun fun x c _ => hr x c
  | act hlock hcount hid hact =>
    refine forall_lookup_insert ?_ fun x c _ => hr x c
    exact (hr _ _ hid).step (Call.act_step hact) fun ha => hend ha _ hid

/-- An idle call is listed if and only if it is registered. -/
lemma Call.Idle.listed_eq (hi : c.Idle) (hr : c.Retired) : c.listed = c.registered := by
  cases c with
  | sip c =>
    have hstage : c.stage = .counted := hi
    cases hd : c.disconnected with
    | false => simp [Call.listed, registered, counted, released, ended, Call.stage, hstage, hd]
    | true =>
      have hrel : c.released = true := hr hd
      simp [Call.listed, registered, released, hrel]
  | sim c =>
    obtain ⟨hstage, -, hending⟩ := hi
    rcases hending with hending | hending
    · rcases hstage with hstage | hstage <;>
        simp [Call.listed, registered, counted, released, ended, Call.stage, hstage, hending]
    · rcases hr (by simp [hending]) with hrel | hfailed
      · simp [Call.listed, registered, released, hrel]
      · simp [Call.listed, registered, counted, Call.stage, hfailed]

lemma World.Quiet.listsRegistered (hq : w.Quiet)
    (hr : ∀ id c, w.calls.lookup id = some c → c.Retired) : w.ListsRegistered := by
  have heq : ∀ entry ∈ w.calls.entries, entry.2.listed = entry.2.registered := fun entry he =>
    (hq.2 entry he).listed_eq (hr _ _ (lookup_of_mem_entries he))
  constructor
  · intro id
    simp only [getAllCalls, List.mem_map, List.mem_filter]
    constructor
    · rintro ⟨entry, ⟨he, hl⟩, rfl⟩
      exact ⟨entry.2, lookup_of_mem_entries he, (heq entry he).symm.trans hl⟩
    · rintro ⟨c, hid, hreg⟩
      have he : ⟨id, c⟩ ∈ w.calls.entries := mem_lookup_iff.mp hid
      exact ⟨⟨id, c⟩, ⟨he, (heq _ he).trans hreg⟩, rfl⟩
  · rw [getAllCalls, ← List.countP_eq_length_filter]
    exact List.countP_congr fun entry he => by rw [heq entry he]

/-- In a run in which no call ends before `endCall` has taken it out of its map, the list of calls
is the list of the registered ones whenever no handler or callback is running. -/
theorem getAllCalls_registered (hend : Guarded (step maxCalls) EndsReleased World.init es)
    (hr : run (step maxCalls) World.init es = some w) (hq : w.Quiet) : w.ListsRegistered := by
  refine hq.listsRegistered (run_invariant (fun w e w' hr hend h => hend.step hr h) ?_ hend hr)
  intro id c hc
  cases hc

/-- Two calls are admitted, and one is ended by a request. -/
theorem getAllCalls_registered_sample :
    ∃ w, run (step 25) World.init
      [.initiateCall 0 false, .act 0 .place, .act 0 .count, .initiateCall 1 false, .act 1 .place,
        .act 1 .count, .act 0 .endCall, .act 0 .disconnected] = some w ∧ w.ListsRegistered := by
  have hend : Guarded (step 25) EndsReleased World.init
      [.initiateCall 0 false, .act 0 .place, .act 0 .count, .initiateCall 1 false, .act 1 .place,
        .act 1 .count, .act 0 .endCall, .act 0 .disconnected] := by
    decide
  exact ⟨_, rfl, getAllCalls_registered hend rfl (by decide)⟩

/-- A call that has disconnected is still listed. -/
theorem disconnected_listed : ¬∀ (maxCalls : Int) (es : List Event) (w : World),
    run (step maxCalls) World.init es = some w → w.Quiet → w.ListsRegistered := by
  intro h
  have hlists := h 25 [.initiateCall 0 false, .act 0 .place, .act 0 .count, .act 0 .disconnected] _
    rfl (by decide)
  exact absurd hlists.count (by decide)

end MediaServer.CallManager
