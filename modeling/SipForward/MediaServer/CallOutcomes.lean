import SipForward.MediaServer.CallRequests

/-!
# What comes of a request

All that `initiateCall` and `endCall` come to, with the manager that is left and the first response,
which is the one that a client gets.
-/

namespace MediaServer.CallRequests

open Core

variable {ofDouble : Number → Int} {raw : RawEnv} {w : World} {m : Manager} {p : CallParams}
  {body : Option Json} {id : String}

/-- The client gets no response or an error. -/
def Declined (responses : List Response) : Prop := ∀ r ∈ responses.head?, r.code ≠ 200

def confirmation : Response := ⟨200, .text "Call end initiated"⟩

/-- The client is told that the call is being ended. -/
def Confirmed (responses : List Response) : Prop := responses.head? = some confirmation

/-- The manager with a new call. -/
def Manager.placed (m : Manager) (id : String) (call : SipCall) : Manager :=
  (m.setActive id (some call)).count 1

/-- The manager with a new simulated call. -/
def Manager.simulated (m : Manager) (id : String) (sim : SimulatedCall) : Manager :=
  (m.setSimulated id (some sim)).count 1

/-- What comes of `initiateCall`. -/
inductive Initiated (ofDouble : Number → Int) (raw : RawEnv) (w : World) (body : Option Json)
    (m : Manager) : Handled → Prop where
  | placed {p : CallParams} {port : Int} (hread : readBody ofDouble raw.env body = .ok p)
      (hport : getEnvInt raw.env "HTTP_PORT" 8086 = .ok port) (hdumps : raw.Dumps) :
      Initiated ofDouble raw w body m ⟨m.placed w.generateCallId (newCall raw p),
        [⟨200, .json (sipReply raw port w.generateCallId p)⟩], true⟩
  | unanswered {p : CallParams} {responses : List Response} (hdeclined : Declined responses) :
      Initiated ofDouble raw w body m ⟨m.placed w.generateCallId (newCall raw p), responses, true⟩
  | simulated {p : CallParams} {sim : SimulatedCall} :
      Initiated ofDouble raw w body m ⟨m.simulated w.generateCallId sim,
        [⟨200, .json (simulatedReply w.generateCallId p)⟩], true⟩
  | declined {m' : Manager} {responses : List Response} (hactive : m'.activeCalls = m.activeCalls)
      (hsimulated : m'.simulatedCalls = m.simulatedCalls) (hdeclined : Declined responses) :
      Initiated ofDouble raw w body m ⟨m', responses, true⟩

/-- What comes of `endCall`. -/
inductive Ended (id : String) (m : Manager) : Handled → Prop where
  | simulated {responses : List Response} {returned : Bool} (hsim : (m.simulatedCalls id).isSome)
      (hconfirmed : Confirmed responses) : Ended id m ⟨m.setSimulated id none, responses, returned⟩
  | active {responses : List Response} (hcall : (m.activeCalls id).isSome)
      (hconfirmed : Confirmed responses) : Ended id m ⟨m.setActive id none, responses, true⟩
  | declined {responses : List Response} (hdeclined : Declined responses) :
      Ended id m ⟨m, responses, true⟩

/-! ### Starting a call -/

lemma declined_of_code {code : ℕ} {b : Body} (h : code ≠ 200) : Declined [⟨code, b⟩] := by
  rintro r ⟨⟩
  exact h

lemma declined_nil : Declined [] := by
  intro r hr
  cases hr

lemma initiated_of_code {code : ℕ} {b : Body} (h : code ≠ 200) :
    Initiated ofDouble raw w body m ⟨m, [⟨code, b⟩], true⟩ :=
  .declined rfl rfl (declined_of_code h)

lemma placeCall_eq (h : m.initialized (endpointKey raw) = true) (hcall : w.makeCall = true) :
    placeCall raw w p ⟨m, false, []⟩ =
      .ok true ⟨m.placed w.generateCallId (newCall raw p), false, []⟩ := by
  simp only [placeCall, lockGuard, get_bind_apply, h, hcall, if_true]
  rfl

lemma initiated_sipCall (hread : readBody ofDouble raw.env body = .ok p) (message : String) :
    Initiated ofDouble raw w body m (settle message (sipCall raw w p ⟨m, false, []⟩)) := by
  rw [sipCall]
  cases hport : getEnvInt raw.env "HTTP_PORT" 8086 with
  | error t =>
    rw [throwing_bind_error (setting_error rfl)]
    exact initiated_of_code (by decide)
  | ok port =>
    rw [throwing_bind_ok (setting_ok rfl)]
    cases hkey : m.initialized (endpointKey raw) with
    | false =>
      rw [bind_of_error (placeCall_uninitialized hkey)]
      exact initiated_of_code (by decide)
    | true =>
      cases hcall : w.makeCall with
      | false =>
        rw [bind_of_ok (placeCall_failed hkey hcall)]
        exact .declined rfl rfl declined_nil
      | true =>
        rw [bind_of_ok (placeCall_eq hkey hcall), if_pos rfl]
        by_cases hdumps : raw.Dumps
        · rw [throwing_bind_ok (dump_sipReply port hdumps)]
          exact .placed hread hport hdumps
        · rw [throwing_bind_error (dump_sipReply_error port hdumps)]
          exact .unanswered (declined_of_code (by decide))

lemma initiated_simulatedCall (hnew : m.simulatedCalls w.generateCallId = none) (message : String) :
    Initiated ofDouble raw w body m (settle message (simulatedCall w p ⟨m, false, []⟩)) := by
  rw [simulatedCall]
  cases hstart : w.start with
  | error e => exact .declined rfl rfl (declined_of_code (by decide))
  | ok started =>
    cases started with
    | false => exact .declined rfl rfl (declined_of_code (by decide))
    | true =>
      simp only []
      rw [bind_of_ok (storeSimulated_new hnew _), throwing_bind_ok (dump_simulatedReply _ _)]
      exact .simulated

/-- All that `initiateCall` comes to with an identifier that no simulated call has. -/
theorem initiated (hnew : m.simulatedCalls w.generateCallId = none) :
    Initiated ofDouble raw w body m (handle w (initiateCall ofDouble raw w body) m) := by
  cases hreg : w.registerThread with
  | error e =>
    rw [handle_unregistered _ hreg]
    exact initiated_of_code (by decide)
  | ok _ =>
    rw [initiateCall, handle_catchStd _ _ hreg, tryCall]
    cases hmax : getEnvInt raw.env "MAX_CONCURRENT_CALLS" 25 with
    | error t =>
      rw [throwing_bind_error (setting_error rfl)]
      exact initiated_of_code (by decide)
    | ok maxCalls =>
      rw [throwing_bind_ok (setting_ok rfl), get_bind_apply]
      split_ifs with hfull
      · exact initiated_of_code (by decide)
      cases hread : readBody ofDouble raw.env body with
      | error e =>
        rw [throwing_bind_error rfl]
        exact initiated_of_code (by decide)
      | ok p =>
        rw [throwing_bind_ok rfl]
        rcases validate_cases p with hvalid | ⟨message, hvalid⟩
        · rw [hvalid]
          simp only []
          split_ifs
          · exact initiated_simulatedCall hnew _
          · exact initiated_sipCall hread _
        · rw [hvalid]
          exact initiated_of_code (by decide)

/-! ### Ending a call -/

/-- A call that is found is taken off, and confirmed, before there is a thread to end it. -/
lemma endCall_active (hreg : w.registerThread = .ok ()) (hsim : m.simulatedCalls id = none)
    (hcall : (m.activeCalls id).isSome) : ∃ responses, Confirmed responses ∧
      handle w (endCall w id) m = ⟨m.setActive id none, responses, true⟩ := by
  rw [endCall, handle_catchStd _ _ hreg, tryEnd_active hsim hcall, startThread]
  cases w.thread with
  | ok _ => exact ⟨[confirmation], rfl, rfl⟩
  | error e => exact ⟨[confirmation, ⟨500, .error "Error ending call: " e⟩], rfl, rfl⟩

lemma endCall_simulated (hreg : w.registerThread = .ok ()) (hsim : (m.simulatedCalls id).isSome) :
    ∃ responses returned, Confirmed responses ∧
      handle w (endCall w id) m = ⟨m.setSimulated id none, responses, returned⟩ := by
  obtain ⟨sim, hfound⟩ := Option.isSome_iff_exists.mp hsim
  rw [endCall, handle_catchStd _ _ hreg]
  cases hthread : w.thread with
  | ok _ =>
    have hend : endSimulated w id ⟨m, false, []⟩ = .ok true
        ⟨m.setSimulated id none, false, [confirmation]⟩ := by
      simp only [endSimulated, lockGuard, get_bind_apply, hfound, startThread, hthread]
      rfl
    rw [tryEnd, bind_of_ok hend]
    exact ⟨[confirmation], true, rfl, rfl⟩
  | error e =>
    have hstart := @startThread_lost w (m.setSimulated id none) e hthread [confirmation] sim
    have hend : endSimulated w id ⟨m, false, []⟩ = .error .lost
        ⟨m.setSimulated id none, true, [confirmation]⟩ := by
      simp only [endSimulated, lockGuard, get_bind_apply, hfound]
      rw [update, modify_bind_apply, send, modify_bind_apply]
      dsimp only [List.nil_append]
      rw [← confirmation, bind_of_error hstart]
      rfl
    rw [tryEnd, bind_of_error hend]
    exact ⟨[confirmation], false, rfl, rfl⟩

/-- All that `endCall` comes to. -/
theorem ended (w : World) (id : String) (m : Manager) : Ended id m (handle w (endCall w id) m) := by
  cases hreg : w.registerThread with
  | error e =>
    rw [handle_unregistered _ hreg]
    exact .declined (declined_of_code (by decide))
  | ok _ =>
    cases hsim : m.simulatedCalls id with
    | some sim =>
      have hfound : (m.simulatedCalls id).isSome := Option.isSome_of_eq_some hsim
      obtain ⟨responses, returned, hconfirmed, heq⟩ := endCall_simulated (w := w) hreg hfound
      rw [heq]
      exact .simulated hfound hconfirmed
    | none =>
      cases hcall : m.activeCalls id with
      | none =>
        rw [endCall, handle_catchStd _ _ hreg, tryEnd_absent hsim hcall]
        exact .declined (declined_of_code (by decide))
      | some call =>
        have hfound : (m.activeCalls id).isSome := Option.isSome_of_eq_some hcall
        obtain ⟨responses, hconfirmed, heq⟩ := endCall_active (w := w) hreg hsim hfound
        rw [heq]
        exact .active hfound hconfirmed

end MediaServer.CallRequests
