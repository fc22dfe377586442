import SipForward.Core.Failing
import SipForward.Core.Run
import SipForward.MediaServer.WebSocketHandler

/-!
# The media of a call

PJSIP runs `onCallState` and `onCallMediaState` of a call one after the other, in any order. The
first of them that finds the call answered and an audio medium creates the media port, connects its
WebSocket and links it to the medium. Later ones find the port and leave it alone, whether or not it
was connected.
-/

namespace MediaServer.CallMedia

open Core

/-! ### The call -/

/-- `pjsip_inv_state`. -/
inductive InvState where
  | null
  | calling
  | incoming
  | early
  | connecting
  | confirmed
  | disconnected
deriving DecidableEq, Repr

/-- `pjmedia_type`. -/
inductive MediaType where
  | none
  | audio
  | video
  | application
  | unknown
deriving DecidableEq, Repr

/-- The media port: whether it has a handler, and whether its WebSocket was established. -/
structure Port where
  handler : Bool
  initialized : Bool
deriving DecidableEq, Repr

/-- A call that is no bridge leg, with what `getInfo` tells of it. -/
structure Call where
  wsUrl : String
  state : InvState
  media : List MediaType
  medPort : Option Port
  mediaConnected : Bool
  callAnswered : Bool
  hangupRequested : Bool
deriving DecidableEq, Repr

/-- The call that is constructed. -/
def Call.new (wsUrl : String) : Call where
  wsUrl := wsUrl
  state := .null
  media := []
  medPort := none
  mediaConnected := false
  callAnswered := false
  hangupRequested := false

/-- What a callback meets: the results of `connect` by attempt, and which calls of PJSUA2 return and
do not throw a `pj::Error`; `startTransmit` of the port, then of the medium. -/
structure Outcomes where
  connect : ℕ → Bool
  getInfo : Bool
  getAudioMedia : ℕ → Bool
  createPort : Bool
  startTransmit : Bool
  startTransmitBack : Bool

/-! ### The callbacks -/

/-- The connection loop, with the attempts that are left. -/
def connectLoop (connect : ℕ → Bool) (attempt : ℕ) : ℕ → Bool
  | 0        => false
  | left + 1 => connect attempt || connectLoop connect (attempt + 1) left

/-- `MyAudioMediaPort::initializeWebSocket`. -/
def Port.initializeWebSocket (p : Port) (wsUri : String) (connect : ℕ → Bool) : Port × Bool :=
  if p.initialized then (p, true)
  else if wsUri = "" then ({ p with handler := true }, false)
  else if connectLoop connect 1 WebSocket.maxRetries then (⟨true, true⟩, true)
  else ({ p with handler := false }, false)

/-- A callback that may throw a `pj::Error`. -/
abbrev Handling := EStateM Unit Call

/-- A call of PJSUA2. -/
def attempt (returns : Bool) : Handling PUnit := if returns then pure ⟨⟩ else throw ()

/-- A new port is given to the call, and its WebSocket is connected. -/
def openPort (o : Outcomes) : Handling Bool := do
  let s ← get
  let r := Port.initializeWebSocket ⟨false, false⟩ s.wsUrl o.connect
  modify fun s => { s with medPort := some r.1 }
  pure r.2

/-- The port and the medium are linked both ways. -/
def link (o : Outcomes) : Handling PUnit := do
  attempt o.startTransmit
  attempt o.startTransmitBack
  modify fun s => { s with mediaConnected := true }

/-- The loop of `setupMedia` over the media, from this one on. -/
def setupLoop (o : Outcomes) : ℕ → List MediaType → Handling PUnit
  | _, []              => pure ⟨⟩
  | i, .audio :: media => do
    attempt (o.getAudioMedia i)
    if (← get).medPort.isNone then
      if ← openPort o then
        attempt o.createPort
        link o
        setupLoop o (i + 1) media
      else pure ⟨⟩  -- the port stays, without a connection
    else setupLoop o (i + 1) media
  | i, _ :: media      => setupLoop o (i + 1) media

/-- `setupMedia`, inside its `try`. -/
def setupBody (o : Outcomes) : Handling PUnit := do
  attempt o.getInfo
  setupLoop o 0 (← get).media

/-- `setupMedia`. -/
def Call.setupMedia (o : Outcomes) (s : Call) : Call :=
  if s.callAnswered then caught (setupBody o) s else s

/-- The port of `bindMedia`, which is opened if there is none. -/
def portReady (o : Outcomes) : Handling Bool := do
  if (← get).medPort.isNone then
    if ← openPort o then
      attempt o.createPort
      pure true
    else pure false
  else pure true

/-- `bindMedia`; the exceptions of `stopTransmit` are ignored. -/
def bindMedia (o : Outcomes) : Handling PUnit := do
  if ← portReady o then link o
  else pure ⟨⟩

/-- `onCallMediaState` for media that were connected, inside its `try`: the first audio medium is
bound. -/
def rebind (o : Outcomes) : Handling PUnit := do
  attempt o.getInfo
  let s ← get
  if .audio ∈ s.media then
    attempt (o.getAudioMedia (s.media.findIdx (· = .audio)))
    bindMedia o
  else pure ⟨⟩

/-- `onCallMediaState`. -/
def Call.onCallMediaState (o : Outcomes) (s : Call) : Call :=
  if ¬s.mediaConnected then s.setupMedia o else caught (rebind o) s

/-- `onCallState`; on a disconnect the media port is cleaned up by another thread. -/
def Call.onCallState (o : Outcomes) (s : Call) : Call :=
  if s.state = .confirmed then { s with callAnswered := true }.setupMedia o
  else if s.state = .disconnected then { s with medPort := none }
  else s

/-- A callback with the state or the media that PJSIP has set before it, or the request of a hangup
by the handler, by the call manager or by the endpoint. -/
inductive Event where
  | onCallState (state : InvState) (media : List MediaType) (o : Outcomes)
  | onCallMediaState (media : List MediaType) (o : Outcomes)
  | hangup

/-- A call that is disconnected has no further state. -/
def step (s : Call) : Event → Option Call
  | .onCallState state media o =>
    if s.state = .disconnected then none
    else some ({ s with state := state, media := media }.onCallState o)
  | .onCallMediaState media o => some ({ s with media := media }.onCallMediaState o)
  | .hangup => some { s with hangupRequested := true }

/-! ### The set-up -/

variable {s s' : Call} {o : Outcomes} {e : Event} {es : List Event} {media : List MediaType}

/-- While no callback runs: a call that is confirmed, with an audio medium, has media connected to a
port whose WebSocket was established, or its hangup was requested. -/
def Call.Served (s : Call) : Prop :=
  s.state = .confirmed → .audio ∈ s.media →
    (s.mediaConnected ∧ ∃ p ∈ s.medPort, p.initialized) ∨ s.hangupRequested

/-- The set-up succeeds: there is no port yet, one of the attempts connects, and no call of PJSUA2
up to the link throws. -/
structure Provides (o : Outcomes) (s : Call) (media : List MediaType) : Prop where
  medPort : s.medPort = none
  wsUrl : s.wsUrl ≠ ""
  connect : ∃ n, 1 ≤ n ∧ n ≤ WebSocket.maxRetries ∧ o.connect n
  getInfo : o.getInfo
  getAudioMedia : o.getAudioMedia (media.findIdx (· = .audio))
  createPort : o.createPort
  startTransmit : o.startTransmit
  startTransmitBack : o.startTransmitBack

/-- Where a callback leaves the call confirmed with an audio medium, the hangup was requested, the
media were connected before, or this callback sets them up. -/
def SetUp (s : Call) : Event → Prop
  | .onCallState state media o => state = .confirmed → .audio ∈ media →
      s.hangupRequested ∨ s.mediaConnected ∨ Provides o s media
  | .onCallMediaState media o => s.state = .confirmed → .audio ∈ media →
      s.hangupRequested ∨ s.mediaConnected ∨ Provides o s media
  | .hangup => True

/-- The media are connected to a port whose WebSocket was established. -/
def Call.Linked (s : Call) : Prop := s.mediaConnected ∧ ∃ p ∈ s.medPort, p.initialized

lemma Call.Linked.medPort_ne_none (h : s.Linked) : s.medPort ≠ none := by
  obtain ⟨-, p, hp, -⟩ := h
  rw [Option.mem_def.mp hp]
  exact Option.some_ne_none p

lemma connectLoop_iff {connect : ℕ → Bool} {n left : ℕ} :
    connectLoop connect n left ↔ ∃ k, n ≤ k ∧ k < n + left ∧ connect k := by
  induction left generalizing n with
  | zero =>
    simp only [connectLoop, Bool.false_eq_true, false_iff]
    rintro ⟨k, hn, hk, -⟩
    omega
  | succ left ih =>
    rw [connectLoop, Bool.or_eq_true, ih]
    constructor
    · rintro (hn | ⟨k, hn, hk, hconnect⟩)
      · exact ⟨n, le_rfl, by omega, hn⟩
      · exact ⟨k, by omega, by omega, hconnect⟩
    · rintro ⟨k, hn, hk, hconnect⟩
      rcases Nat.eq_or_lt_of_le hn with rfl | hlt
      · exact Or.inl hconnect
      · exact Or.inr ⟨k, hlt, by omega, hconnect⟩

/-- A new port is established where one of the attempts connects. -/
lemma Port.initializeWebSocket_iff {wsUri : String} {connect : ℕ → Bool} :
    (Port.initializeWebSocket ⟨false, false⟩ wsUri connect).2 ↔
      wsUri ≠ "" ∧ ∃ n, 1 ≤ n ∧ n ≤ WebSocket.maxRetries ∧ connect n := by
  have hloop : connectLoop connect 1 WebSocket.maxRetries ↔
      ∃ n, 1 ≤ n ∧ n ≤ WebSocket.maxRetries ∧ connect n := by
    rw [connectLoop_iff]
    simp only [Nat.lt_one_add_iff]
  unfold initializeWebSocket
  rw [if_neg Bool.false_ne_true]
  split_ifs with huri hconnect
  · simp [huri]
  · simp [huri, hloop.mp hconnect]
  · simp [huri, ← hloop, hconnect]

lemma Port.initializeWebSocket_initialized (wsUri : String) (connect : ℕ → Bool) :
    (Port.initializeWebSocket ⟨false, false⟩ wsUri connect).1.initialized =
      (Port.initializeWebSocket ⟨false, false⟩ wsUri connect).2 := by
  unfold initializeWebSocket
  rw [if_neg Bool.false_ne_true]
  split_ifs <;> rfl

@[simp] lemma caught_attempt_bind {α : Type} (returns : Bool) (f : PUnit → Handling α) (s : Call) :
    caught (attempt returns >>= f) s = if returns then caught (f ⟨⟩) s else s := by
  cases returns <;> rfl

/-- The call with the new port of a callback. -/
def Call.open (o : Outcomes) (s : Call) : Call :=
  { s with medPort := some (Port.initializeWebSocket ⟨false, false⟩ s.wsUrl o.connect).1 }

@[simp] lemma caught_openPort_bind {α : Type} (f : Bool → Handling α) (s : Call) :
    caught (openPort o >>= f) s =
      caught (f (Port.initializeWebSocket ⟨false, false⟩ s.wsUrl o.connect).2) (s.open o) := rfl

lemma Call.isNone_medPort (hport : s.medPort ≠ none) : s.medPort.isNone = false := by
  rw [Option.isNone_eq_false_iff, Option.isSome_iff_ne_none]
  exact hport

/-- A port that is there is left alone. -/
lemma caught_setupLoop_of_port {i : ℕ} (hport : s.medPort ≠ none) :
    caught (setupLoop o i media) s = s := by
  induction media generalizing i with
  | nil => rfl
  | cons m media ih =>
    cases m with
    | audio =>
      rw [setupLoop, caught_attempt_bind, caught_get_bind, Call.isNone_medPort hport,
        if_neg Bool.false_ne_true, ih, ite_self]
    | _ => exact ih

/-- The loop comes to the first audio medium. -/
lemma setupLoop_eq {i : ℕ} (haudio : .audio ∈ media) :
    ∃ rest, setupLoop o i media =
      setupLoop o (i + media.findIdx (· = .audio)) (.audio :: rest) := by
  induction media generalizing i with
  | nil => cases haudio
  | cons m media ih =>
    cases m with
    | audio => exact ⟨media, by simp [List.findIdx_cons]⟩
    | none | video | application | unknown =>
      obtain ⟨rest, hrest⟩ := ih (i := i + 1) (by simpa using haudio)
      refine ⟨rest, hrest.trans ?_⟩
      rw [List.findIdx_cons, Nat.add_right_comm, Nat.add_assoc]
      rfl

lemma setupLoop_of_not_audio {i : ℕ} (haudio : .audio ∉ media) (s : Call) :
    caught (setupLoop o i media) s = s := by
  induction media generalizing i with
  | nil => rfl
  | cons m media ih =>
    cases m with
    | audio => exact absurd List.mem_cons_self haudio
    | _ => exact ih fun h => haudio (List.mem_cons_of_mem _ h)

/-- The links of a port that is there. -/
lemma caught_link_bind (f : PUnit → Handling PUnit) (s : Call) :
    caught (link o >>= f) s =
      if o.startTransmit ∧ o.startTransmitBack then caught (f ⟨⟩) { s with mediaConnected := true }
      else s := by
  cases hout : o.startTransmit <;> cases hback : o.startTransmitBack <;>
    simp [link, hout, hback]

/-- The new port is linked to the first audio medium. -/
def Outcomes.links (o : Outcomes) (s : Call) : Prop :=
  (Port.initializeWebSocket ⟨false, false⟩ s.wsUrl o.connect).2 ∧ o.createPort ∧
    o.startTransmit ∧ o.startTransmitBack

instance (o : Outcomes) (s : Call) : Decidable (o.links s) := inferInstanceAs (Decidable (_ ∧ _))

lemma caught_setupLoop {i : ℕ} (hport : s.medPort = none) (haudio : .audio ∈ media) :
    caught (setupLoop o i media) s =
      if o.getAudioMedia (i + media.findIdx (· = .audio)) then
        if o.links s then { s.open o with mediaConnected := true } else s.open o
      else s := by
  obtain ⟨rest, hrest⟩ := setupLoop_eq (o := o) (i := i) haudio
  have hnone : s.medPort.isNone := Option.isNone_iff_eq_none.mpr hport
  rw [hrest, setupLoop, caught_attempt_bind, caught_get_bind, if_pos hnone, caught_openPort_bind]
  refine if_congr Iff.rfl ?_ rfl
  by_cases hlinks : o.links s
  · rw [if_pos hlinks.1, caught_attempt_bind, if_pos hlinks.2.1, caught_link_bind,
      if_pos hlinks.2.2, if_pos hlinks]
    exact caught_setupLoop_of_port (Option.some_ne_none _)
  rw [if_neg hlinks]
  by_cases hopen : (Port.initializeWebSocket ⟨false, false⟩ s.wsUrl o.connect).2
  · rw [if_pos hopen, caught_attempt_bind, caught_link_bind]
    by_cases hcreate : o.createPort
    · rw [if_pos hcreate, if_neg fun htransmit => hlinks ⟨hopen, hcreate, htransmit⟩]
    · rw [if_neg hcreate]
  · rw [if_neg hopen]
    rfl

lemma Call.setupMedia_of_port (hport : s.medPort ≠ none) : s.setupMedia o = s := by
  unfold setupMedia setupBody
  rw [caught_attempt_bind, caught_get_bind, caught_setupLoop_of_port hport, ite_self, ite_self]

lemma Call.setupMedia_of_not_audio (haudio : .audio ∉ s.media) : s.setupMedia o = s := by
  unfold setupMedia setupBody
  rw [caught_attempt_bind, caught_get_bind, setupLoop_of_not_audio haudio, ite_self, ite_self]

/-- What `setupMedia` does with a call that is answered and has an audio medium but no port. -/
lemma Call.setupMedia_eq (hanswered : s.callAnswered) (hport : s.medPort = none)
    (haudio : .audio ∈ s.media) :
    s.setupMedia o =
      if o.getInfo ∧ o.getAudioMedia (s.media.findIdx (· = .audio)) then
        if o.links s then { s.open o with mediaConnected := true } else s.open o
      else s := by
  unfold setupMedia setupBody
  rw [if_pos hanswered, caught_attempt_bind, caught_get_bind, caught_setupLoop hport haudio,
    Nat.zero_add, ite_and]

/-- `setupMedia` changes the port and the connection only, and connects an established port. -/
structure Kept (s s' : Call) : Prop where
  state : s'.state = s.state
  media : s'.media = s.media
  callAnswered : s'.callAnswered = s.callAnswered
  hangupRequested : s'.hangupRequested = s.hangupRequested
  linked : (s.mediaConnected → s.Linked) → s'.mediaConnected → s'.Linked

lemma Kept.refl (s : Call) : Kept s s := ⟨rfl, rfl, rfl, rfl, id⟩

lemma Call.open_linked (hlinks : o.links s) : Linked { s.open o with mediaConnected := true } :=
  ⟨rfl, _, rfl, (Port.initializeWebSocket_initialized _ _).trans hlinks.1⟩

lemma Call.setupMedia_kept (o : Outcomes) (s : Call) : Kept s (s.setupMedia o) := by
  by_cases hport : s.medPort = none
  · by_cases haudio : .audio ∈ s.media
    · by_cases hanswered : s.callAnswered
      · rw [setupMedia_eq hanswered hport haudio]
        split_ifs with hget hlinks
        · exact ⟨rfl, rfl, rfl, rfl, fun _ _ => open_linked hlinks⟩
        · refine ⟨rfl, rfl, rfl, rfl, fun hlinked hconnected => ?_⟩
          obtain ⟨-, p, hp, -⟩ := hlinked hconnected
          rw [hport] at hp
          cases hp
        · exact .refl s
      · rw [setupMedia, if_neg hanswered]
        exact .refl s
    · rw [setupMedia_of_not_audio haudio]
      exact .refl s
  · rw [setupMedia_of_port hport]
    exact .refl s

/-- The set-up serves a call that was not connected, exactly where it provides a connection. -/
lemma Call.setupMedia_linked_iff (hanswered : s.callAnswered)
    (hconnected : s.mediaConnected = false) (haudio : .audio ∈ s.media) :
    (s.setupMedia o).Linked ↔ Provides o s s.media := by
  have hunlinked : ∀ r : Call, r.mediaConnected = s.mediaConnected → ¬r.Linked :=
    fun r hr hlinked => Bool.false_ne_true (hconnected.symm.trans (hr.symm.trans hlinked.1))
  by_cases hport : s.medPort = none
  · rw [setupMedia_eq hanswered hport haudio]
    split_ifs with hget hlinks
    · refine iff_of_true (open_linked hlinks) ?_
      obtain ⟨huri, hconnect⟩ := Port.initializeWebSocket_iff.mp hlinks.1
      exact ⟨hport, huri, hconnect, hget.1, hget.2, hlinks.2.1, hlinks.2.2.1, hlinks.2.2.2⟩
    · refine iff_of_false (hunlinked _ rfl) fun hprovides => hlinks ?_
      exact ⟨Port.initializeWebSocket_iff.mpr ⟨hprovides.wsUrl, hprovides.connect⟩,
        hprovides.createPort, hprovides.startTransmit, hprovides.startTransmitBack⟩
    · refine iff_of_false (hunlinked _ rfl) fun hprovides => hget ?_
      exact ⟨hprovides.getInfo, hprovides.getAudioMedia⟩
  · rw [setupMedia_of_port hport]
    exact iff_of_false (hunlinked s rfl) fun hprovides => hport hprovides.medPort

/-! ### Media that were connected -/

lemma caught_link (s : Call) : caught (link o) s =
    if o.startTransmit ∧ o.startTransmitBack then { s with mediaConnected := true } else s := by
  have hbind := caught_link_bind (o := o) pure s
  rwa [bind_pure] at hbind

lemma portReady_of_port (hport : s.medPort ≠ none) : portReady o s = .ok true s := by
  rw [portReady, get_bind_apply, Call.isNone_medPort hport]
  rfl

/-- A port that is there is linked again. -/
lemma caught_rebind_of_port (hport : s.medPort ≠ none) (hconnected : s.mediaConnected) :
    caught (rebind o) s = s := by
  have hbind : caught (bindMedia o) s = s := by
    rw [bindMedia, caught_bind_of_ok (portReady_of_port hport), if_pos rfl, caught_link,
      ← hconnected, ite_self]
  rw [rebind, caught_attempt_bind, caught_get_bind]
  split_ifs
  · rw [caught_attempt_bind, hbind, ite_self]
  · rfl
  · rfl

lemma portReady_state (o : Outcomes) (s : Call) : (caught (portReady o) s).state = s.state := by
  rw [portReady, caught_get_bind]
  split_ifs
  · rw [caught_openPort_bind]
    split_ifs
    · rw [caught_attempt_bind]
      split_ifs <;> rfl
    · rfl
  · rfl

lemma bindMedia_state (o : Outcomes) (s : Call) : (caught (bindMedia o) s).state = s.state := by
  refine caught_bind_keeps (P := fun r : Call => r.state = s.state) (portReady_state o s) ?_
  intro ready s₁ hstate
  split_ifs
  · rw [caught_link]
    split_ifs <;> exact hstate
  · exact hstate

lemma rebind_state (o : Outcomes) (s : Call) : (caught (rebind o) s).state = s.state := by
  rw [rebind, caught_attempt_bind, caught_get_bind]
  split_ifs
  · rw [caught_attempt_bind]
    split_ifs
    · exact bindMedia_state o s
    · rfl
  · rfl
  · rfl

/-! ### Runs -/

/-- A call that is confirmed was answered, and until it is disconnected its media are connected to
an established port. -/
structure Call.Sound (s : Call) : Prop where
  answered : s.state = .confirmed → s.callAnswered
  linked : s.state ≠ .disconnected → s.mediaConnected → s.Linked

lemma Call.Sound.new (wsUrl : String) : (Call.new wsUrl).Sound := ⟨nofun, fun _ => nofun⟩

/-- What `SetUp` asks of a callback, of the call as the callback finds it. -/
def Call.Fit (o : Outcomes) (s : Call) : Prop :=
  s.state = .confirmed → .audio ∈ s.media →
    s.hangupRequested ∨ s.mediaConnected ∨ Provides o s s.media

lemma Call.setupMedia_sound (o : Outcomes) (hanswered : s.state = .confirmed → s.callAnswered)
    (hlinked : s.mediaConnected → s.Linked) :
    (s.setupMedia o).Sound ∧ ((s.setupMedia o).Served ↔ s.Fit o) := by
  have hkept := s.setupMedia_kept o
  refine ⟨⟨?_, fun _ => hkept.linked hlinked⟩, ?_⟩
  · rw [hkept.state, hkept.callAnswered]
    exact hanswered
  unfold Served Fit
  rw [hkept.state, hkept.media, hkept.hangupRequested]
  refine forall_congr' fun hstate => forall_congr' fun haudio => ?_
  cases hconnected : s.mediaConnected with
  | true =>
    refine iff_of_true (Or.inl ?_) (Or.inr (Or.inl rfl))
    rw [setupMedia_of_port (hlinked hconnected).medPort_ne_none]
    exact hlinked hconnected
  | false =>
    have hiff := setupMedia_linked_iff (o := o) (hanswered hstate) hconnected haudio
    rw [← Linked, hiff]
    simp only [Bool.false_eq_true, false_or]
    exact or_comm

lemma Call.onCallMediaState_sound (o : Outcomes)
    (hanswered : s.state = .confirmed → s.callAnswered)
    (hlinked : s.state ≠ .disconnected → s.mediaConnected → s.Linked) :
    (s.onCallMediaState o).Sound ∧ ((s.onCallMediaState o).Served ↔ s.Fit o) := by
  unfold onCallMediaState
  by_cases hconnected : s.mediaConnected
  swap
  · rw [if_pos hconnected]
    exact setupMedia_sound o hanswered fun h => absurd h hconnected
  rw [if_neg (not_not.mpr hconnected)]
  by_cases hstate : s.state = .disconnected
  · have hafter : (caught (rebind o) s).state = .disconnected := (rebind_state o s).trans hstate
    refine ⟨⟨fun h => ?_, fun h => absurd hafter h⟩, iff_of_true (fun h => ?_) fun h => ?_⟩
    · cases hafter.symm.trans h
    · cases hafter.symm.trans h
    · cases hstate.symm.trans h
  · have hl := hlinked hstate hconnected
    rw [caught_rebind_of_port hl.medPort_ne_none hconnected]
    exact ⟨⟨hanswered, hlinked⟩,
      iff_of_true (fun _ _ => Or.inl hl) fun _ _ => Or.inr (Or.inl hconnected)⟩

/-- Of the call, the set-up needs the port and the URL only. -/
lemma Provides.congr (h : Provides o s media) (hport : s'.medPort = s.medPort)
    (hurl : s'.wsUrl = s.wsUrl) : Provides o s' media :=
  ⟨hport.trans h.medPort, hurl ▸ h.wsUrl, h.connect, h.getInfo, h.getAudioMedia, h.createPort,
    h.startTransmit, h.startTransmitBack⟩

/-- The set-up does not depend on the answer. -/
lemma Call.fit_answered {b : Bool} : { s with callAnswered := b }.Fit o ↔ s.Fit o := by
  unfold Fit
  refine forall_congr' fun _ => forall_congr' fun _ => or_congr Iff.rfl (or_congr Iff.rfl ?_)
  exact ⟨fun h => h.congr rfl rfl, fun h => h.congr rfl rfl⟩

lemma Call.onCallState_sound (o : Outcomes) (hlinked : s.mediaConnected → s.Linked) :
    (s.onCallState o).Sound ∧ ((s.onCallState o).Served ↔ s.Fit o) := by
  unfold onCallState
  split_ifs with hconfirmed hdisconnected
  · obtain ⟨hsound, hserved⟩ := setupMedia_sound (s := { s with callAnswered := true }) o
      (fun _ => rfl) hlinked
    exact ⟨hsound, hserved.trans fit_answered⟩
  · refine ⟨⟨fun h => absurd h hconfirmed, fun h => absurd hdisconnected h⟩, ?_⟩
    exact iff_of_true (fun h => absurd h hconfirmed) fun h => absurd h hconfirmed
  · refine ⟨⟨fun h => absurd h hconfirmed, fun _ => hlinked⟩, ?_⟩
    exact iff_of_true (fun h => absurd h hconfirmed) fun h => absurd h hconfirmed

/-- The condition on a callback, of the call before PJSIP sets its state and media. -/
lemma Call.fit_iff {state : InvState} :
    { s with state := state, media := media }.Fit o ↔
      (state = .confirmed → .audio ∈ media →
        s.hangupRequested ∨ s.mediaConnected ∨ Provides o s media) := by
  unfold Fit
  refine forall_congr' fun _ => forall_congr' fun _ => or_congr Iff.rfl (or_congr Iff.rfl ?_)
  exact ⟨fun h => h.congr rfl rfl, fun h => h.congr rfl rfl⟩

lemma Call.Sound.step (hs : s.Sound) (h : CallMedia.step s e = some s') :
    s'.Sound ∧ (s'.Served ↔ SetUp s e) := by
  cases e with
  | onCallState state media o =>
    obtain ⟨hstate, h⟩ := Option.ite_none_left_eq_some.mp h
    cases h
    obtain ⟨hsound, hserved⟩ := onCallState_sound
      (s := { s with state := state, media := media }) o (hs.linked hstate)
    exact ⟨hsound, hserved.trans fit_iff⟩
  | onCallMediaState media o =>
    cases h
    obtain ⟨hsound, hserved⟩ := onCallMediaState_sound
      (s := { s with media := media }) o hs.answered hs.linked
    exact ⟨hsound, hserved.trans fit_iff⟩
  | hangup =>
    cases h
    exact ⟨⟨hs.answered, hs.linked⟩, iff_of_true (fun _ _ => Or.inr rfl) trivial⟩

/-- Whenever no callback runs the call is served, exactly in the runs in which every callback that
leaves it confirmed with an audio medium sets up its media, unless they are connected or the hangup
was requested. -/
theorem call_served_iff {wsUrl : String} (hr : run step (Call.new wsUrl) es = some s) :
    (∀ pre s₁, pre <+: es → run step (Call.new wsUrl) pre = some s₁ → s₁.Served) ↔
      Guarded step SetUp (Call.new wsUrl) es :=
  forall_states_iff_guarded (I := Call.Sound) (P := Call.Served)
    (fun _ _ _ hs h => (hs.step h).1) (fun _ _ _ hs _ h => (hs.step h).2) (.new wsUrl) nofun hr

/-! ### A call that is answered -/

/-- Nothing throws, and the attempts connect as `connect` tells. -/
def sampleOutcomes (connect : ℕ → Bool) : Outcomes :=
  ⟨connect, true, fun _ => true, true, true, true⟩

/-- The call is answered, with its audio medium there. -/
def answeredEvents (connect : ℕ → Bool) : List Event :=
  [.onCallState .calling [] (sampleOutcomes connect),
    .onCallMediaState [.audio] (sampleOutcomes connect),
    .onCallState .confirmed [.audio] (sampleOutcomes connect)]

/-- The third attempt connects. -/
theorem call_served_sample : ∃ s,
    run step (Call.new "wss://host/ws") (answeredEvents (· = 3)) = some s ∧
      ∀ pre s₁, pre <+: answeredEvents (· = 3) →
        run step (Call.new "wss://host/ws") pre = some s₁ → s₁.Served := by
  refine ⟨⟨"wss://host/ws", .confirmed, [.audio], some ⟨true, true⟩, true, true, false⟩, rfl,
    (call_served_iff rfl).mpr ⟨nofun, ?_⟩⟩
  rintro _ ⟨⟩
  refine ⟨nofun, ?_⟩
  rintro _ ⟨⟩
  refine ⟨fun _ _ => Or.inr (Or.inr ?_), fun _ _ => trivial⟩
  exact ⟨rfl, by decide, ⟨3, by decide, by decide, rfl⟩, rfl, rfl, rfl, rfl, rfl⟩

/-- No attempt connects: the port stays, no later callback sets up the media, and nobody hangs
up. -/
theorem call_not_served : ¬∀ (wsUrl : String) (es : List Event) (s : Call),
    run step (Call.new wsUrl) es = some s → s.Served := by
  intro h
  have hserved := h "wss://host/ws" (answeredEvents fun _ => false) _ rfl
  have hsilent := hserved rfl (by decide)
  revert hsilent
  decide

end MediaServer.CallMedia
