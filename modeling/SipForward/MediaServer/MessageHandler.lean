import SipForward.Core.Failing
import SipForward.Core.Json
import SipForward.MediaServer.MediaPort
import SipForward.MediaServer.WebSocketHandler

/-!
# The messages of the server

The message handler changes flags and queues while it reads the fields of an event. A field that is
missing or of the wrong type throws, and one `catch` around all of it ends the message there. What
was changed before stays changed.
-/

namespace MediaServer.Messages

open Core
open Playback (SampleRate)

/-! ### Fields -/

/-- The exceptions of `nlohmann::json`: a text that is no JSON, a value converted to another type,
and a name looked up in a value without members. -/
inductive JsonError where
  | parseError
  | typeError302 (actual : String)
  | typeError305 (actual : String)
deriving DecidableEq

/-- The member of an object; `contains` asks whether there is one. -/
def member (name : String) : Json → Option Json
  | .object members => Json.lookupLast name members
  | _               => none

/-- `j[name]`, with the null that it inserts for a name that is missing. The inserted null reads as
the missing name does, so that the value itself stays as it is here. -/
def index (name : String) : Json → Except JsonError Json
  | .object members => .ok ((member name (.object members)).getD .null)
  | .null           => .ok .null
  | v               => .error (.typeError305 v.typeName)

/-- The conversion to `std::string`. -/
def toStdString : Json → Except JsonError String
  | .string s => .ok s.decode
  | v         => .error (.typeError302 v.typeName)

/-- `std::string s = j[name]`. -/
def field (name : String) (j : Json) : Except JsonError String := index name j >>= toStdString

/-- The string under a name. -/
def stringMember (name : String) (j : Json) : Option String :=
  match member name j with
  | some (.string s) => some s.decode
  | _                => none

/-- There is something under the name, and it is no string. -/
def Mistyped (name : String) (j : Json) : Prop :=
  (member name j).isSome ∧ stringMember name j = none

/-- The `media` of a message. -/
def media (j : Json) : Json := (member "media" j).getD .null

/-! ### The session -/

/-- The media port with what messages do to its call: the source of the hangup, and the digits sent
to the SIP provider. -/
structure Port where
  call : Bool
  hangupSource : String
  digits : List Char
deriving DecidableEq

/-- `getHangupSource`. -/
def Port.getHangupSource (p : Port) : String := if p.call then p.hangupSource else "none"

/-- `setHangupSource`. -/
def Port.setHangupSource (p : Port) (source : String) : Port :=
  if p.call then { p with hangupSource := source } else p

/-- `receiveDtmfFromWebsocket`. -/
def Port.receiveDtmfFromWebsocket (p : Port) (text : String) : Port :=
  if p.call then
    { p with digits := p.digits ++ text.toList.filter fun c => c.isDigit || c = '*' || c = '#' }
  else p

/-- The handler, as far as messages read and change it, with the calls of `disconnect_callback` and
the transfers it has started. -/
structure Session where
  playback : Playback.Handler
  ringingActive : Bool
  hangupReceived : Bool
  agentTransferInProgress : Bool
  medPort : Option Port
  disconnectCallback : Bool
  disconnects : ℕ
  transfers : List WebSocket.Task
deriving DecidableEq

/-- `stopRinging`. -/
def Session.stopRinging (s : Session) : Session := { s with ringingActive := false }

/-- `clearAudioQueue`. -/
def Session.clearAudioQueue (s : Session) : Session :=
  { s with playback := Playback.clearAudioQueue s.playback }

/-- `disconnect_callback`, if there is one. -/
def Session.disconnect (s : Session) : Session :=
  if s.disconnectCallback then { s with disconnects := s.disconnects + 1 } else s

/-- The conversions of audio: `base64_decode`, `ulaw_to_linear` and `adjustVolume`. -/
structure Codec where
  base64Decode : String → List UInt8
  ulawToLinear : UInt8 → Int16
  adjustVolume : List UInt8 → Number → List UInt8

/-- `convertFromMulaw`. -/
def Codec.convertFromMulaw (codec : Codec) (mulaw : List UInt8) : List UInt8 :=
  mulaw.flatMap fun sample => MediaPort.sampleBytes (codec.ulawToLinear sample)

/-- The volume of a message, if it has one that `get<float>` reads. -/
def volume (media : Json) : Option Number :=
  match member "volume" media with
  | some (.number v) => some v
  | some (.bool b)   => some (.integer (if b then 1 else 0))
  | _                => none

/-! ### The events -/

abbrev Handling := EStateM JsonError Session

/-- The branch for `playAudio`. An exception in the volume is caught there. -/
def playAudio (rate : SampleRate) (codec : Codec) (j : Json) : Handling PUnit := do
  let media ← ofExcept (index "media" j)
  modify fun s =>
    if s.ringingActive ∧ s.medPort.isSome then s.stopRinging.clearAudioQueue else s
  let payload ← ofExcept (field "payload" media)
  let contentType ← ofExcept (field "contentType" media)
  let decoded := codec.base64Decode payload
  let decoded := if contentType = "audio/x-mulaw" then codec.convertFromMulaw decoded else decoded
  let decoded := match volume media with
    | some v => codec.adjustVolume decoded v
    | none   => decoded
  modify fun s => { s with playback := Playback.enqueueAudio rate decoded s.playback }

/-- The branch for `hangup`. -/
def hangup (j : Json) : Handling PUnit := do
  modify fun s => { s with hangupReceived := true }
  match (← get).medPort with
  | none   => pure ⟨⟩
  | some p =>
    let hangupReason ← ofExcept (field "hangupType" j)
    if p.getHangupSource = "none" then
      modify fun s => { s with medPort := some (p.setHangupSource hangupReason) }
  modify Session.disconnect

/-- The branch for `sendDtmf`. -/
def sendDtmf (j : Json) : Handling PUnit :=
  if (member "text" j).isSome then do
    let dtmfText ← ofExcept (field "text" j)
    modify fun s => { s with medPort := s.medPort.map (·.receiveDtmfFromWebsocket dtmfText) }
  else pure ⟨⟩

/-- A field that is assigned if it is there. -/
def assign (name : String) (j : Json) (set : String → Playback.Handler → Playback.Handler) :
    Handling PUnit :=
  if (member name j).isSome then do
    let value ← ofExcept (field name j)
    modify fun s => { s with playback := set value s.playback }
  else pure ⟨⟩

/-- The branch for `checkpoint`. -/
def checkpoint (j : Json) : Handling PUnit := do
  modify fun s => { s with playback := { s.playback with checkpointReceived := true } }
  assign "streamId" j fun id h => { h with pendingStreamId := id }
  assign "name" j fun name h => { h with pendingStreamName := name }

/-- A transfer thread is started for the target under a name. -/
def startTransfer (name : String) (j : Json) (task : String → WebSocket.Task) :
    Handling PUnit := do
  let target ← ofExcept (field name j)
  modify fun s => { s with transfers := s.transfers ++ [task target] }

/-- The branch for `agentTransfer`. -/
def agentTransfer (j : Json) : Handling PUnit := do
  modify fun s => { s with agentTransferInProgress := true }
  if (member "agentId" j).isSome then startTransfer "agentId" j .agentTransfer
  else modify fun s => { s with agentTransferInProgress := false }

/-- The branch for `humanTransfer`. -/
def humanTransfer (j : Json) : Handling PUnit := do
  modify fun s => { s with agentTransferInProgress := true }
  if (member "humanNumber" j).isSome then startTransfer "humanNumber" j .humanNumberTransfer
  else if (member "humanId" j).isSome then startTransfer "humanId" j .humanTransfer
  else modify fun s => { s with agentTransferInProgress := false }

/-- The message handler on a value. -/
def handleEvent (rate : SampleRate) (codec : Codec) (j : Json) : Handling PUnit := do
  let event ← ofExcept (field "event" j)
  if event = "playAudio" then playAudio rate codec j
  else if event = "clearAudio" then modify Session.clearAudioQueue
  else if event = "hangup" then hangup j
  else if event = "sendDtmf" then sendDtmf j
  else if event = "checkpoint" then checkpoint j
  else if event = "agentTransfer" then agentTransfer j
  else if event = "humanTransfer" then humanTransfer j

/-- The message handler on a text frame, inside its `try`. -/
def messageHandler (parse : List UInt8 → Except JsonError Json) (rate : SampleRate) (codec : Codec)
    (payload : List UInt8) : Handling PUnit := do
  let j ← ofExcept (parse payload)
  handleEvent rate codec j

/-! ### What a failed message leaves -/

variable {name : String} {j : Json} {s s' : Session} {rate : SampleRate} {codec : Codec}

/-- The state of the session that a message must not change if it fails. -/
structure Untouched (s s' : Session) : Prop where
  agentTransferInProgress : s'.agentTransferInProgress = s.agentTransferInProgress
  hangupReceived : s'.hangupReceived = s.hangupReceived
  checkpointReceived : s'.playback.checkpointReceived = s.playback.checkpointReceived
  pendingStreamId : s'.playback.pendingStreamId = s.playback.pendingStreamId
  pendingStreamName : s'.playback.pendingStreamName = s.playback.pendingStreamName
  ringingActive : s'.ringingActive = s.ringingActive
  audioQueue : s'.playback.audioQueue = s.playback.audioQueue
  partialFrame : s'.playback.partialFrame = s.playback.partialFrame

lemma Untouched.refl (s : Session) : Untouched s s := ⟨rfl, rfl, rfl, rfl, rfl, rfl, rfl, rfl⟩

/-- What an event may be for the session to survive its failure. -/
@[mk_iff] structure Harmless (s : Session) (j : Json) : Prop where
  playAudio : stringMember "event" j = some "playAudio" → s.ringingActive → s.medPort.isSome →
    (stringMember "payload" (media j)).isSome ∧ (stringMember "contentType" (media j)).isSome
  hangup : stringMember "event" j = some "hangup" → s.medPort.isSome →
    stringMember "hangupType" j = none → s.hangupReceived
  checkpoint : stringMember "event" j = some "checkpoint" →
    Mistyped "streamId" j ∨ Mistyped "name" j →
      s.playback.checkpointReceived ∧
        ∀ id ∈ stringMember "streamId" j, id = s.playback.pendingStreamId
  agentTransfer : stringMember "event" j = some "agentTransfer" → Mistyped "agentId" j →
    s.agentTransferInProgress
  humanTransfer : stringMember "event" j = some "humanTransfer" →
    Mistyped "humanNumber" j ∨ (member "humanNumber" j = none ∧ Mistyped "humanId" j) →
      s.agentTransferInProgress

/-- A field is read exactly when there is a string under the name. -/
lemma field_eq_ok {value : String} :
    field name j = .ok value ↔ stringMember name j = some value := by
  cases j with
  | object members =>
    cases hv : member name (.object members) with
    | none => simp [field, index, stringMember, hv, bind, Except.bind, toStdString]
    | some v => cases v <;> simp [field, index, stringMember, hv, bind, Except.bind, toStdString]
  | _ => simp [field, index, stringMember, member, bind, Except.bind, toStdString]

lemma field_eq_error : (∃ e, field name j = .error e) ↔ stringMember name j = none := by
  cases h : field name j with
  | ok value => simp [field_eq_ok.mp h]
  | error e =>
    cases hm : stringMember name j with
    | none => simp
    | some value => simp [field_eq_ok.mpr hm] at h

lemma fails_field_bind {f : String → Handling PUnit} :
    Fails (ofExcept (field name j) >>= f) s s' ↔
      (s' = s ∧ stringMember name j = none) ∨
        ∃ value, stringMember name j = some value ∧ Fails (f value) s s' := by
  rw [fails_ofExcept_bind, field_eq_error]
  simp only [field_eq_ok]

lemma fails_field {f : String → Session → Session} :
    Fails (ofExcept (field name j) >>= fun value => modify (f value) : Handling PUnit) s s' ↔
      s' = s ∧ stringMember name j = none := by
  rw [fails_field_bind, or_iff_left]
  rintro ⟨value, -, h⟩
  exact not_fails_modify _ h

lemma object_of_stringMember {value : String} (h : stringMember name j = some value) :
    ∃ members, j = .object members := by
  cases j with
  | object members => exact ⟨members, rfl⟩
  | _ => simp [stringMember, member] at h

/-- The ringing stops before the payload is read. -/
lemma fails_playAudio (members : List Member) :
    Fails (playAudio rate codec (.object members)) s s' ↔
      s' = (if s.ringingActive ∧ s.medPort.isSome then s.stopRinging.clearAudioQueue else s) ∧
        (stringMember "payload" (media (.object members)) = none ∨
          stringMember "contentType" (media (.object members)) = none) := by
  have hindex : index "media" (.object members) = .ok (media (.object members)) := rfl
  simp only [playAudio]
  rw [hindex, fails_ofExcept_bind]
  simp only [fails_modify_bind, Except.ok.injEq, exists_eq_left', reduceCtorEq, exists_false,
    and_false, false_or]
  rw [fails_field_bind]
  simp only [fails_field]
  cases stringMember "payload" (media (.object members)) <;> simp

/-- The flag is set before the reason is read, which only a media port asks for. -/
lemma fails_hangup : Fails (hangup j) s s' ↔
    s' = { s with hangupReceived := true } ∧
      s.medPort.isSome ∧ stringMember "hangupType" j = none := by
  simp only [hangup, fails_modify_bind, fails_get_bind]
  cases s.medPort with
  | none => simp [not_fails_modify]
  | some p =>
    simp only
    rw [fails_field_bind, or_iff_left]
    · simp
    rintro ⟨hangupReason, -, h⟩
    split_ifs at h
    · exact not_fails_modify _ (fails_modify_bind.mp h)
    · exact not_fails_modify _ h

lemma fails_sendDtmf (h : Fails (sendDtmf j) s s') : s' = s := by
  unfold sendDtmf at h
  split_ifs at h
  · exact (fails_field.mp h).1
  · exact absurd h not_fails_pure

lemma fails_assign {set : String → Playback.Handler → Playback.Handler} :
    Fails (assign name j set) s s' ↔ s' = s ∧ Mistyped name j := by
  unfold assign Mistyped
  split_ifs with hmember
  · rw [fails_field]
    simp [hmember]
  · simp [hmember, not_fails_pure]

lemma returns_assign {set : String → Playback.Handler → Playback.Handler} {a : PUnit} :
    Returns (assign name j set) s a s' ↔ ¬Mistyped name j ∧
      s' = { s with playback := (stringMember name j).elim s.playback (set · s.playback) } := by
  unfold assign
  split_ifs with hmember
  · cases hvalue : stringMember name j with
    | none =>
      have hmistyped : Mistyped name j := ⟨hmember, hvalue⟩
      obtain ⟨e, he⟩ := field_eq_error.mpr hvalue
      rw [he]
      simp only [hmistyped, not_true_eq_false, false_and, iff_false]
      rintro ⟨⟩
    | some value =>
      rw [field_eq_ok.mpr hvalue]
      simp only [Mistyped, hvalue, reduceCtorEq, and_false, not_false_eq_true, true_and]
      constructor
      · rintro ⟨⟩
        rfl
      · rintro rfl
        rfl
  · have hvalue : stringMember name j = none := by
      rw [stringMember, Option.not_isSome_iff_eq_none.mp hmember]
    simp only [Mistyped, hmember, Bool.false_eq_true, false_and, not_false_eq_true, true_and,
      hvalue, Option.elim_none]
    constructor
    · rintro ⟨⟩
      rfl
    · rintro rfl
      rfl

/-- The stream id may be assigned before the name is read. -/
lemma fails_checkpoint : Fails (checkpoint j) s s' ↔
    s' = { s with playback := { s.playback with
        checkpointReceived := true
        pendingStreamId := (stringMember "streamId" j).getD s.playback.pendingStreamId } } ∧
      (Mistyped "streamId" j ∨ Mistyped "name" j) := by
  simp only [checkpoint, fails_modify_bind]
  rw [fails_bind, fails_assign]
  simp only [returns_assign, fails_assign]
  by_cases hid : Mistyped "streamId" j
  · simp [hid, hid.2]
  · cases hvalue : stringMember "streamId" j <;> simp [hid]

lemma fails_startTransfer {task : String → WebSocket.Task} :
    Fails (startTransfer name j task) s s' ↔ s' = s ∧ stringMember name j = none :=
  fails_field

lemma fails_agentTransfer : Fails (agentTransfer j) s s' ↔
    s' = { s with agentTransferInProgress := true } ∧ Mistyped "agentId" j := by
  simp only [agentTransfer, fails_modify_bind, Mistyped]
  split_ifs with hmember
  · rw [fails_startTransfer]
    simp [hmember]
  · simp [hmember, not_fails_modify]

lemma fails_humanTransfer : Fails (humanTransfer j) s s' ↔
    s' = { s with agentTransferInProgress := true } ∧
      (Mistyped "humanNumber" j ∨ (member "humanNumber" j = none ∧ Mistyped "humanId" j)) := by
  simp only [humanTransfer, fails_modify_bind, Mistyped]
  split_ifs with hnumber hid
  · rw [fails_startTransfer]
    simp [hnumber, Option.isSome_iff_ne_none.mp hnumber]
  · rw [fails_startTransfer]
    simp_all
  · simp_all [not_fails_modify]

/-! ### The handler -/

lemma playAudio_untouched (members : List Member) :
    (∀ s', Fails (playAudio rate codec (.object members)) s s' → Untouched s s') ↔
      (s.ringingActive → s.medPort.isSome →
        (stringMember "payload" (media (.object members))).isSome ∧
          (stringMember "contentType" (media (.object members))).isSome) := by
  simp only [fails_playAudio]
  constructor
  · intro h hringing hport
    by_contra hnot
    have hfields : stringMember "payload" (media (.object members)) = none ∨
        stringMember "contentType" (media (.object members)) = none := by
      simpa [-not_and, not_and_or] using hnot
    have hkept := (h _ ⟨rfl, hfields⟩).ringingActive
    rw [if_pos ⟨hringing, hport⟩, hringing] at hkept
    exact Bool.false_ne_true hkept
  · rintro h s' ⟨rfl, hfields⟩
    split_ifs with hringing
    · obtain ⟨hpayload, hcontentType⟩ := h hringing.1 hringing.2
      rcases hfields with hnone | hnone
      · simp [hnone] at hpayload
      · simp [hnone] at hcontentType
    · exact .refl s

lemma hangup_untouched :
    (∀ s', Fails (hangup j) s s' → Untouched s s') ↔
      (s.medPort.isSome → stringMember "hangupType" j = none → s.hangupReceived) := by
  simp only [fails_hangup]
  constructor
  · exact fun h hport hfield => (h _ ⟨rfl, hport, hfield⟩).hangupReceived.symm
  · rintro h s' ⟨rfl, hport, hfield⟩
    exact { Untouched.refl s with hangupReceived := (h hport hfield).symm }

lemma checkpoint_untouched :
    (∀ s', Fails (checkpoint j) s s' → Untouched s s') ↔
      (Mistyped "streamId" j ∨ Mistyped "name" j → s.playback.checkpointReceived ∧
        ∀ id ∈ stringMember "streamId" j, id = s.playback.pendingStreamId) := by
  simp only [fails_checkpoint]
  constructor
  · intro h hfield
    have hkept := h _ ⟨rfl, hfield⟩
    refine ⟨hkept.checkpointReceived.symm, fun id hid => ?_⟩
    have hpending := hkept.pendingStreamId
    rwa [Option.mem_def.mp hid] at hpending
  · rintro h s' ⟨rfl, hfield⟩
    obtain ⟨hreceived, hpending⟩ := h hfield
    refine { Untouched.refl s with
      checkpointReceived := hreceived.symm, pendingStreamId := ?_ }
    cases hid : stringMember "streamId" j with
    | none => rfl
    | some id => exact hpending id hid

/-- The exception of a transfer event comes after its flag is set. -/
lemma transfer_untouched {mistyped : Prop} :
    (∀ s', s' = { s with agentTransferInProgress := true } ∧ mistyped → Untouched s s') ↔
      (mistyped → s.agentTransferInProgress) := by
  constructor
  · exact fun h hfield => (h _ ⟨rfl, hfield⟩).agentTransferInProgress.symm
  · rintro h s' ⟨rfl, hfield⟩
    exact { Untouched.refl s with agentTransferInProgress := (h hfield).symm }

lemma agentTransfer_untouched :
    (∀ s', Fails (agentTransfer j) s s' → Untouched s s') ↔
      (Mistyped "agentId" j → s.agentTransferInProgress) := by
  simp only [fails_agentTransfer]
  exact transfer_untouched

lemma humanTransfer_untouched :
    (∀ s', Fails (humanTransfer j) s s' → Untouched s s') ↔
      (Mistyped "humanNumber" j ∨ (member "humanNumber" j = none ∧ Mistyped "humanId" j) →
        s.agentTransferInProgress) := by
  simp only [fails_humanTransfer]
  exact transfer_untouched

/-- Event by event. -/
lemma handleEvent_untouched :
    (∀ s', Fails (handleEvent rate codec j) s s' → Untouched s s') ↔ Harmless s j := by
  simp only [handleEvent, fails_field_bind, harmless_iff]
  cases hevent : stringMember "event" j with
  | none => simp [Untouched.refl]
  | some event =>
    obtain ⟨members, rfl⟩ := object_of_stringMember hevent
    simp only [reduceCtorEq, and_false, false_or, Option.some.injEq, exists_eq_left']
    split_ifs with h₁ h₂ h₃ h₄ h₅ h₆ h₇
    · subst h₁
      simp [playAudio_untouched]
    · subst h₂
      simp [not_fails_modify]
    · subst h₃
      simp [hangup_untouched]
    · subst h₄
      simpa using fun s' h => fails_sendDtmf h ▸ Untouched.refl s
    · subst h₅
      simp [checkpoint_untouched]
    · subst h₆
      simp [agentTransfer_untouched]
    · subst h₇
      simp [humanTransfer_untouched]
    · simp [h₁, h₃, h₅, h₆, h₇, not_fails_pure]

/-- A text frame whose processing throws leaves the session as it was, exactly where its event is
harmless in that session. -/
theorem failed_message_untouched_iff (parse : List UInt8 → Except JsonError Json)
    (rate : SampleRate) (codec : Codec) (payload : List UInt8) (s : Session) :
    ((∃ s', Fails (messageHandler parse rate codec payload) s s') →
        Untouched s (caught (messageHandler parse rate codec payload) s)) ↔
      ∀ j, parse payload = .ok j → Harmless s j := by
  rw [caught_of_fails (P := Untouched s)]
  simp only [messageHandler, fails_ofExcept_bind]
  cases parse payload with
  | error e => simp [Untouched.refl]
  | ok j => simp [handleEvent_untouched]

/-- A handler that plays, with a port and a callback. -/
def samplePlaying : Session where
  playback := Playback.Handler.new true false
  ringingActive := false
  hangupReceived := false
  agentTransferInProgress := false
  medPort := some ⟨true, "none", []⟩
  disconnectCallback := true
  disconnects := 0
  transfers := []

/-- An agent id that is a number. -/
def sampleTransfer : Json :=
  .object [(Text.ofString "event", .string (Text.ofString "agentTransfer")),
    (Text.ofString "agentId", .number (.integer 7))]

def sampleTransferText : List UInt8 :=
  "\x7b\"event\":\"agentTransfer\",\"agentId\":7\x7d".toUTF8.toList

/-- A parser that reads this text. -/
def sampleParse (text : List UInt8) : Except JsonError Json :=
  if text = sampleTransferText then .ok sampleTransfer else .error .parseError

def sampleCodec : Codec := ⟨fun _ => [], fun _ => 0, fun pcm _ => pcm⟩

/-- The flag of the transfer is stuck after the exception, and no transfer has started. -/
theorem failed_transfer_flagged : ¬∀ (parse : List UInt8 → Except JsonError Json)
    (rate : SampleRate) (codec : Codec) (payload : List UInt8) (s : Session),
    (∃ s', Fails (messageHandler parse rate codec payload) s s') →
      Untouched s (caught (messageHandler parse rate codec payload) s) := by
  intro h
  have hfails : Fails (messageHandler sampleParse ⟨8000, .inl rfl⟩ sampleCodec sampleTransferText)
      samplePlaying { samplePlaying with agentTransferInProgress := true } := by
    have hevent : stringMember "event" sampleTransfer = some "agentTransfer" := by
      simp [stringMember, member, sampleTransfer, Json.lookupLast]
    have hagentId : Mistyped "agentId" sampleTransfer := by
      simp [Mistyped, stringMember, member, sampleTransfer, Json.lookupLast]
    refine fails_ofExcept_bind.mpr (Or.inr ⟨sampleTransfer, if_pos rfl, ?_⟩)
    refine fails_field_bind.mpr (Or.inr ⟨_, hevent, ?_⟩)
    simpa using fails_agentTransfer.mpr ⟨rfl, hagentId⟩
  have hkept := h _ _ _ _ _ ⟨_, hfails⟩
  rw [hfails.caught] at hkept
  exact absurd hkept.agentTransferInProgress (by decide)

end MediaServer.Messages
