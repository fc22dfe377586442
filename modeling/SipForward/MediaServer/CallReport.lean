import SipForward.Core.Json
import SipForward.Core.Search
import SipForward.MediaServer.CallMedia

/-!
# The reports of a call

`onCallState` reports the states of a call to its webhook, and a simulated call reports its own. The
status comes from the code and the durations that PJSIP gives, the bill from the duration of the
connection; the ids are cut from the webhook URL, and the numbers from the URIs.
-/

namespace MediaServer.CallReport

open Core
open CallMedia (InvState)

/-! ### The status -/

/-- The texts that are assigned to `status`. -/
inductive CallStatus where
  | initiated
  | ringing
  | incoming
  | early
  | connecting
  | inProgress
  | completed
  | fail
  | busy
  | noAnswer
  | invalidNumber
  | unknown
deriving DecidableEq, Repr

def CallStatus.text : CallStatus → String
  | .initiated     => "initiated"
  | .ringing       => "ringing"
  | .incoming      => "incoming"
  | .early         => "early"
  | .connecting    => "connecting"
  | .inProgress    => "in-progress"
  | .completed     => "completed"
  | .fail          => "fail"
  | .busy          => "busy"
  | .noAnswer      => "no-answer"
  | .invalidNumber => "invalid-number"
  | .unknown       => "unknown"

/-- `pj::CallInfo`, as far as the report reads it; the durations in seconds. -/
structure CallInfo where
  state : InvState
  lastStatusCode : ℕ
  connectDuration : Int
  totalDuration : Int
  remoteUri : Text
  localUri : Text

/-- The case of `PJSIP_SC_NOT_FOUND`. -/
def notFound (totalDuration : Int) : CallStatus :=
  if 5 ≤ totalDuration then .invalidNumber else .fail

/-- The inner switch, over the codes of PJSIP. -/
def disconnectedStatus (ci : CallInfo) : CallStatus :=
  match ci.lastStatusCode with
  | 200 => .completed
  | 487 => if 0 < ci.connectDuration then .completed else .fail
  | 480 => if ci.totalDuration < 34 then .busy else .noAnswer
  | 403 => if ci.totalDuration ≤ 20 then .fail else .noAnswer
  | 410 => if 0 < ci.connectDuration then .completed else .busy
  | 603 => .busy
  | 486 => .busy
  | 503 => notFound ci.totalDuration  -- "busy" is assigned, and no `break` follows
  | 404 => notFound ci.totalDuration
  | 408 => .fail
  | 500 => .fail
  | _   => .unknown

/-- The outer switch. -/
def callStatus (ci : CallInfo) : CallStatus :=
  match ci.state with
  | .null         => .initiated
  | .calling      => .ringing
  | .incoming     => .incoming
  | .early        => .early
  | .connecting   => .connecting
  | .confirmed    => .inProgress
  | .disconnected => disconnectedStatus ci

/-! ### Numbers and times -/

/-- A conversion of whole doubles to `int`. What becomes of a value that is no `int` is open. -/
structure IntConversion where
  toInt : Int → Int
  exact : ∀ v, -2147483648 ≤ v → v ≤ 2147483647 → toInt v = v

/-- `std::ceil(seconds / 60.0) * 60`. -/
def wholeMinutes (seconds : Int) : Int := -(-seconds / 60) * 60

def decimal (n : ℕ) : List Char := Nat.toDigits 10 n

/-- Zeros in front, up to the width. -/
def padded (width n : ℕ) : List Char :=
  List.replicate (width - (decimal n).length) '0' ++ decimal n

/-- `std::to_string` of an `int`. -/
def intText (v : Int) : List Char := (if v < 0 then ['-'] else []) ++ decimal v.natAbs

/-- `std::to_string` of a double, which has six digits after the point; the value in millionths. -/
def doubleText (millionths : Int) : List Char :=
  (if millionths < 0 then ['-'] else []) ++ decimal (millionths.natAbs / 1000000) ++
    '.' :: padded 6 (millionths.natAbs % 1000000)

/-- `std::tm`, as `std::localtime` gives it. -/
structure Tm where
  year : ℕ
  month : ℕ
  day : ℕ
  hour : ℕ
  minute : ℕ
  second : ℕ

/-- `std::strftime` with `%Y-%m-%d %H:%M:%S`. -/
def Tm.strftime (t : Tm) : List Char :=
  decimal t.year ++ '-' :: padded 2 t.month ++ '-' :: padded 2 t.day ++
    ' ' :: padded 2 t.hour ++ ':' :: padded 2 t.minute ++ ':' :: padded 2 t.second

/-! ### What is cut out -/

def isDigit (c : Option Char) : Bool := c.any Char.isDigit

/-- `[1-9]\d{1,14}` at the front. -/
def nationalMatch : Text → Option Text
  | []     => none
  | c :: t =>
    if isDigit c ∧ c ≠ some '0' ∧ t.takeWhile isDigit ≠ [] then
      some (c :: (t.takeWhile isDigit).take 14)
    else none

/-- `\+?[1-9]\d{1,14}` at the front. -/
def phoneMatch : Text → Option Text
  | some '+' :: t => (nationalMatch t).map (some '+' :: ·)
  | t             => nationalMatch t

/-- The first number in the URI, or the whole URI. -/
def phoneNumber (uri : Text) : Text :=
  ((firstTail (fun t => (phoneMatch t).isSome) uri).bind phoneMatch).getD uri

/-- A search for `name=([^&]+)`, and `unknown` when there is no match. -/
def parameter (name : String) (webhookUrl : Text) : Text :=
  (capture (Text.ofString (name ++ "=")) (some '&') webhookUrl).getD (Text.ofString "unknown")

/-! ### Reports -/

/-- What is put together to a report. -/
structure Report where
  callUUID : Text
  callStatus : Text
  billDuration : Int
  duration : Int
  startTime : Tm
  endTime : Tm
  fromNumber : Text
  toNumber : Text
  agentId : Text
  callId : Text
  env : Text
  trunkName : Text
  hangupSource : Text

/-- The text of a report. The rate is 0.005, and the cost is the duration of the bill times that. -/
def Report.json (r : Report) : Text :=
  Text.ofString "\x7b\"CallUUID\": \"" ++ r.callUUID ++
  Text.ofString "\", \"CallStatus\": \"" ++ r.callStatus ++
  Text.ofString "\", \"BillDuration\": " ++ (intText r.billDuration).map some ++
  Text.ofString ", \"BillRate\": " ++ (doubleText 5000).map some ++
  Text.ofString ", \"TotalCost\": " ++ (doubleText (r.billDuration * 5000)).map some ++
  Text.ofString ", \"Direction\": \"outbound\"" ++
  Text.ofString ", \"Duration\": " ++ (intText r.duration).map some ++
  Text.ofString ", \"StartTime\": \"" ++ r.startTime.strftime.map some ++
  Text.ofString "\", \"EndTime\": \"" ++ r.endTime.strftime.map some ++
  Text.ofString "\", \"From\": \"" ++ r.fromNumber ++
  Text.ofString "\", \"To\": \"" ++ r.toNumber ++
  Text.ofString "\", \"agent_id\": \"" ++ r.agentId ++
  Text.ofString "\", \"call_id\": \"" ++ r.callId ++
  Text.ofString "\", \"env\": \"" ++ r.env ++
  Text.ofString "\", \"trunk_name\": \"" ++ r.trunkName ++
  Text.ofString "\", \"HangupSource\": \"" ++ r.hangupSource ++ Text.ofString "\"\x7d"

/-- What a call has for its reports. -/
structure MyCall where
  stringCallId : Text
  webhookUrl : Text
  trunkName : Text
  hangupSource : Text
  startTime : Tm

/-- A call that is disconnected and has no source of the hangup was hung up by the user. -/
def MyCall.hangupSourceAt (c : MyCall) (state : InvState) : Text :=
  if state = .disconnected ∧ c.hangupSource = Text.ofString "none" then Text.ofString "user"
  else c.hangupSource

/-- `MyCall::onCallState` for a call that is no bridge leg, as far as the report; there is none for
an early call. -/
def MyCall.onCallState (conv : IntConversion) (c : MyCall) (endTime : Tm) (ci : CallInfo) :
    Option Report :=
  let duration := conv.toInt ci.connectDuration
  if callStatus ci = .early then none
  else some
    { callUUID := c.stringCallId
      callStatus := Text.ofString (callStatus ci).text
      billDuration := conv.toInt (wholeMinutes duration)
      duration := duration
      startTime := c.startTime
      endTime := endTime
      fromNumber := phoneNumber ci.remoteUri
      toNumber := phoneNumber ci.localUri
      agentId := parameter "agent_id" c.webhookUrl
      callId := parameter "call_id" c.webhookUrl
      env := parameter "env" c.webhookUrl
      trunkName := c.trunkName
      hangupSource := c.hangupSourceAt ci.state }

/-- What a simulated call has for its reports. -/
structure SimulatedCall where
  callId : Text
  webhookUrl : Text
  trunkName : Text
  hangupSource : Text
  startTime : Tm

/-- `SimulatedCall::buildWebhookJson`, before the text is put together. -/
def SimulatedCall.buildWebhookJson (conv : IntConversion) (c : SimulatedCall) (endTime : Tm)
    (status : Text) (durationSec : Int) : Report where
  callUUID := c.callId
  callStatus := status
  billDuration := conv.toInt (wholeMinutes durationSec)
  duration := durationSec
  startTime := c.startTime
  endTime := endTime
  fromNumber := Text.ofString "simulated"
  toNumber := Text.ofString "simulated"
  agentId := parameter "agent_id" c.webhookUrl
  callId := parameter "call_id" c.webhookUrl
  env := parameter "env" c.webhookUrl
  trunkName := c.trunkName
  hangupSource := c.hangupSource

/-! ### The final report -/

variable {conv : IntConversion} {c : MyCall} {endTime : Tm} {ci : CallInfo} {r : Report}

/-- The statuses that are reported late, so that they do not overtake `ringing`. -/
def CallStatus.isFailure : CallStatus → Bool
  | .fail | .unknown | .busy | .invalidNumber | .noAnswer => true
  | _                                                     => false

/-- The status goes with the duration, the bill and the code. -/
structure Coherent (ci : CallInfo) (r : Report) : Prop where
  completed : 0 < ci.connectDuration → r.callStatus = Text.ofString "completed"
  billed : 0 < r.billDuration →
    ∀ status : CallStatus, r.callStatus = Text.ofString status.text → status.isFailure = false
  invalidNumber : r.callStatus = Text.ofString "invalid-number" → ci.lastStatusCode = 404
  unavailable : ci.lastStatusCode = 503 → r.callStatus = Text.ofString "busy"

lemma Text.ofString_injective : Function.Injective Text.ofString := by
  intro s t h
  rw [← Text.decode_ofString s, h, Text.decode_ofString]

lemma CallStatus.text_injective : Function.Injective CallStatus.text := by
  intro s t h
  cases s <;> cases t <;> first | rfl | exact absurd h (by decide)

lemma reported_eq_iff {s t : CallStatus} :
    Text.ofString s.text = Text.ofString t.text ↔ s = t :=
  (Text.ofString_injective.comp CallStatus.text_injective).eq_iff

lemma notFound_cases (totalDuration : Int) :
    notFound totalDuration = .invalidNumber ∨ notFound totalDuration = .fail := by
  unfold notFound
  split_ifs
  · exact Or.inl rfl
  · exact Or.inr rfl

/-- The codes under which a call that was connected is reported as completed. -/
lemma completed_iff (hconnect : 0 < ci.connectDuration) :
    disconnectedStatus ci = .completed ↔
      ci.lastStatusCode = 200 ∨ ci.lastStatusCode = 487 ∨ ci.lastStatusCode = 410 := by
  have hnotFound : notFound ci.totalDuration ≠ .completed := by
    rcases notFound_cases ci.totalDuration with h | h <;> simp [h]
  unfold disconnectedStatus
  split <;> simp_all <;> split_ifs <;> simp

lemma code_of_invalidNumber (h : disconnectedStatus ci = .invalidNumber) :
    ci.lastStatusCode = 404 ∨ ci.lastStatusCode = 503 := by
  unfold disconnectedStatus at h
  split at h
  all_goals first
    | exact Or.inl ‹_›
    | exact Or.inr ‹_›
    | (split_ifs at h)
    | cases h

lemma disconnected_not_early (ci : CallInfo) : disconnectedStatus ci ≠ .early := by
  have hnotFound : notFound ci.totalDuration ≠ .early := by
    rcases notFound_cases ci.totalDuration with h | h <;> simp [h]
  unfold disconnectedStatus
  split <;> first | exact hnotFound | (split_ifs <;> simp) | simp

/-- The code falls through to the case of the number that was not found. -/
lemma unavailable_not_busy (hcode : ci.lastStatusCode = 503) : disconnectedStatus ci ≠ .busy := by
  have hfalls : disconnectedStatus ci = notFound ci.totalDuration := by
    simp only [disconnectedStatus, hcode]
  rw [hfalls]
  rcases notFound_cases ci.totalDuration with h | h <;> simp [h]

/-- Only a call that was connected has a bill. -/
lemma connected_of_billed (hconnect : 0 ≤ ci.connectDuration)
    (hbilled : 0 < conv.toInt (wholeMinutes (conv.toInt ci.connectDuration))) :
    0 < ci.connectDuration := by
  by_contra hnot
  obtain hzero : ci.connectDuration = 0 := by omega
  have hexact : conv.toInt 0 = 0 := conv.exact 0 (by decide) (by decide)
  rw [hzero, hexact] at hbilled
  exact absurd hbilled (by rw [show wholeMinutes 0 = 0 from rfl, hexact]; decide)

/-- The final report of a call is coherent if and only if the code is not 503, and is 200, 487 or
410 when the call was connected. -/
theorem report_coherent_iff (conv : IntConversion) (c : MyCall) (endTime : Tm)
    (hstate : ci.state = .disconnected) (hconnect : 0 ≤ ci.connectDuration) :
    ∃ r, c.onCallState conv endTime ci = some r ∧
      (Coherent ci r ↔ ci.lastStatusCode ≠ 503 ∧ (0 < ci.connectDuration →
        ci.lastStatusCode = 200 ∨ ci.lastStatusCode = 487 ∨ ci.lastStatusCode = 410)) := by
  have hstatus : callStatus ci = disconnectedStatus ci := by simp only [callStatus, hstate]
  refine ⟨_, if_neg (hstatus ▸ disconnected_not_early ci),
    fun h => ⟨fun hcode => ?_, fun hpos => ?_⟩, fun h => ?_⟩
  · have hbusy := (reported_eq_iff (t := .busy)).mp (h.unavailable hcode)
    exact unavailable_not_busy hcode (hstatus.symm.trans hbusy)
  · rw [← completed_iff hpos, ← hstatus]
    exact (reported_eq_iff (t := .completed)).mp (h.completed hpos)
  · obtain ⟨hcode, hcompleted⟩ := h
    have hdone (hpos : 0 < ci.connectDuration) : callStatus ci = .completed := by
      rw [hstatus]
      exact (completed_iff hpos).mpr (hcompleted hpos)
    constructor
    case completed =>
      intro hpos
      simp only [hdone hpos, CallStatus.text]
    case billed =>
      intro hbilled status hreport
      have hpos := connected_of_billed hconnect hbilled
      rw [← reported_eq_iff.mp hreport, hdone hpos]
      rfl
    case invalidNumber =>
      intro hreport
      have hinvalid : disconnectedStatus ci = .invalidNumber :=
        hstatus.symm.trans ((reported_eq_iff (t := .invalidNumber)).mp hreport)
      exact (code_of_invalidNumber hinvalid).resolve_right hcode
    case unavailable => exact fun h => absurd h hcode

/-- A call of a minute that the callee ended. -/
theorem report_coherent_sample :
    ∃ r, (MyCall.mk [] [] [] [] ⟨2024, 1, 1, 0, 0, 0⟩).onCallState ⟨id, fun _ _ _ => rfl⟩
        ⟨2024, 1, 1, 0, 1, 10⟩ ⟨.disconnected, 200, 60, 70, [], []⟩ = some r ∧
      Coherent ⟨.disconnected, 200, 60, 70, [], []⟩ r := by
  have hstate : (CallInfo.mk .disconnected 200 60 70 [] []).state = .disconnected := rfl
  obtain ⟨r, hr, hiff⟩ := report_coherent_iff ⟨id, fun _ _ _ => rfl⟩
    ⟨[], [], [], [], ⟨2024, 1, 1, 0, 0, 0⟩⟩ ⟨2024, 1, 1, 0, 1, 10⟩ hstate (by decide)
  exact ⟨r, hr, hiff.mpr ⟨by decide, fun _ => Or.inl rfl⟩⟩

/-- After half a minute of 503 the number is reported as invalid. -/
theorem unavailable_reported_invalid : ¬∀ (conv : IntConversion) (c : MyCall) (endTime : Tm)
    (ci : CallInfo) (r : Report), ci.state = .disconnected → 0 ≤ ci.connectDuration →
      0 ≤ ci.totalDuration → c.onCallState conv endTime ci = some r → Coherent ci r := by
  intro h
  have hcoherent := h ⟨id, fun _ _ _ => rfl⟩ ⟨[], [], [], [], ⟨2024, 1, 1, 0, 0, 0⟩⟩
    ⟨2024, 1, 1, 0, 0, 30⟩ ⟨.disconnected, 503, 0, 30, [], []⟩ _ rfl (by decide) (by decide) rfl
  exact absurd (hcoherent.unavailable rfl) (by decide)

end MediaServer.CallReport
