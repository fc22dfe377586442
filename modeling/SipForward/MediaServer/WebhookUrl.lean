import SipForward.MediaServer.CallReport
import Mathlib.Data.List.Flatten

/-!
# The parameters of a webhook URL

The ids of a report are cut from the webhook URL with patterns that may match anywhere in it: at the
end of a longer name, inside a value, or before the query. What is cut is the value of the parameter
if and only if nothing that matches stands in front of it.
-/

namespace MediaServer.CallReport

open Core

/-! ### URLs with a query -/

/-- A parameter as it is written. -/
def pair (p : Text × Text) : Text := p.1 ++ some '=' :: p.2

/-- A URL without a fragment, whose query is a list of parameters. -/
structure QueryUrl where
  base : Text
  params : List (Text × Text)
  basePlain : some '?' ∉ base ∧ some '#' ∉ base
  names : ∀ p ∈ params, some '=' ∉ p.1 ∧ some '&' ∉ p.1 ∧ some '#' ∉ p.1
  values : ∀ p ∈ params, some '&' ∉ p.2 ∧ some '#' ∉ p.2

def QueryUrl.text (u : QueryUrl) : Text :=
  u.base ++ some '?' :: [some '&'].intercalate (u.params.map pair)

/-- The parameter has this name exactly, and a value. -/
def Named (name : String) (p : Text × Text) : Prop := p.1 = Text.ofString name ∧ p.2 ≠ []

instance (name : String) : DecidablePred (Named name) :=
  fun _ => inferInstanceAs (Decidable (_ ∧ _))

/-- The value of the first parameter of the name. -/
def QueryUrl.due (u : QueryUrl) (name : String) : Text :=
  ((u.params.find? (Named name ·)).map (·.2)).getD (Text.ofString "unknown")

/-- What is written before the first parameter of the name. -/
def QueryUrl.before (u : QueryUrl) (name : String) : Text :=
  u.base ++ some '?' :: (u.params.takeWhile (¬Named name ·)).flatMap fun p => pair p ++ [some '&']

/-- The place of the first parameter of the name, or the end of the URL when there is none. -/
def QueryUrl.place (u : QueryUrl) (name : String) : ℕ :=
  if ∃ p ∈ u.params, Named name p then (u.before name).length else u.text.length

/-- When the name and `=` stand before the first parameter of the name, with a character other than
`&` behind them, then the value of the parameter follows where they stand first. -/
def QueryUrl.Undisturbed (u : QueryUrl) (name : String) : Prop :=
  ∀ front value, StandsFirst (Text.ofString (name ++ "=")) (some '&') u.text front value →
    front.length < u.place name → value = u.due name

/-- The ids of the report are those of the URL. -/
structure Report.ByName (r : Report) (u : QueryUrl) : Prop where
  agentId : r.agentId = u.due "agent_id"
  callId : r.callId = u.due "call_id"
  env : r.env = u.due "env"

/-! ### The first parameter of a name -/

variable {u : QueryUrl} {name : String} {params pre post : List (Text × Text)} {p : Text × Text}

lemma intercalate_split (pre : List (Text × Text)) (p : Text × Text) (post : List (Text × Text)) :
    ∃ back, [some '&'].intercalate ((pre ++ p :: post).map pair) =
        (pre.flatMap fun q => pair q ++ [some '&']) ++ (pair p ++ back) ∧
      back.head?.all (· = some '&') := by
  induction pre with
  | nil =>
    cases post with
    | nil => exact ⟨[], by simp, rfl⟩
    | cons q post =>
      refine ⟨some '&' :: [some '&'].intercalate ((q :: post).map pair), ?_, rfl⟩
      simp [List.intercalate_cons_cons]
  | cons q pre ih =>
    obtain ⟨back, hback, hhead⟩ := ih
    refine ⟨back, ?_, hhead⟩
    obtain ⟨r, rest, hrest⟩ : ∃ r rest, pre ++ p :: post = r :: rest := by
      cases pre with
      | nil => exact ⟨p, post, rfl⟩
      | cons r pre => exact ⟨r, pre ++ p :: post, rfl⟩
    rw [hrest, List.map_cons] at hback
    rw [List.cons_append, hrest, List.map_cons, List.map_cons, List.intercalate_cons_cons, hback]
    simp

/-- The first parameter of the name, and its value behind what is written before it. -/
lemma QueryUrl.stands (h : ∃ p ∈ u.params, Named name p) :
    Stands (Text.ofString (name ++ "=")) (some '&') u.text (u.before name) (u.due name) := by
  obtain ⟨p, hp⟩ := Option.isSome_iff_exists.mp
    (List.find?_isSome.mpr (by simpa using h) : (u.params.find? (Named name ·)).isSome)
  obtain ⟨hnamed, pre, post, hsplit, hpre⟩ := List.find?_eq_some_iff_append.mp hp
  have hnamed : Named name p := by simpa using hnamed
  have htake : u.params.takeWhile (¬Named name ·) = pre := by
    rw [hsplit, List.takeWhile_append_of_pos fun q hq => by simpa using hpre q hq,
      List.takeWhile_cons_of_neg (by simpa using hnamed), List.append_nil]
  have hdue : u.due name = p.2 := by rw [QueryUrl.due, hp, Option.map_some, Option.getD_some]
  obtain ⟨back, hback, hhead⟩ := intercalate_split pre p post
  rw [hdue]
  refine ⟨⟨back, ?_, hhead⟩, hnamed.2, (u.values p ?_).1⟩
  · rw [QueryUrl.text, QueryUrl.before, htake, hsplit, hback, pair, hnamed.1]
    simp [Text.ofString]
  · rw [hsplit]
    exact List.mem_append_right _ List.mem_cons_self

/-- What is cut for the name is the value of its first parameter if and only if nothing in front of
it gets in the way. -/
lemma parameter_eq_iff (u : QueryUrl) (name : String) :
    parameter name u.text = u.due name ↔ u.Undisturbed name := by
  constructor
  · intro h front value hfirst _
    rw [parameter, capture_eq_some_iff.mpr ⟨front, hfirst⟩, Option.getD_some] at h
    exact h
  · intro h
    cases hcut : capture (Text.ofString (name ++ "=")) (some '&') u.text with
    | none =>
      have hnone : ¬∃ p ∈ u.params, Named name p := fun hsome =>
        capture_eq_none_iff.mp hcut _ _ (QueryUrl.stands hsome)
      have hfind : u.params.find? (Named name ·) = none := by
        rw [List.find?_eq_none]
        exact fun p hp hnamed => hnone ⟨p, hp, by simpa using hnamed⟩
      rw [parameter, hcut, QueryUrl.due, hfind]
      rfl
    | some value =>
      obtain ⟨front, hfirst⟩ := capture_eq_some_iff.mp hcut
      rw [parameter, hcut, Option.getD_some]
      by_cases hsome : ∃ p ∈ u.params, Named name p
      · have hown := QueryUrl.stands hsome
        rcases Nat.lt_or_eq_of_le (hfirst.first _ _ hown) with hlt | heq
        · exact h front value hfirst (by rwa [QueryUrl.place, if_pos hsome])
        · exact hfirst.value_unique hown heq
      · refine h front value hfirst ?_
        rw [QueryUrl.place, if_neg hsome]
        exact hfirst.length_lt

/-- Nothing gets in the way of the three ids. -/
def QueryUrl.Clear (u : QueryUrl) : Prop :=
  u.Undisturbed "agent_id" ∧ u.Undisturbed "call_id" ∧ u.Undisturbed "env"

variable {conv : IntConversion} {c : MyCall} {s : SimulatedCall} {endTime : Tm} {ci : CallInfo}
  {r : Report} {status : Text} {durationSec : Int}

lemma Report.byName_iff (hagentId : r.agentId = parameter "agent_id" u.text)
    (hcallId : r.callId = parameter "call_id" u.text) (henv : r.env = parameter "env" u.text) :
    r.ByName u ↔ u.Clear := by
  rw [QueryUrl.Clear, ← parameter_eq_iff, ← parameter_eq_iff, ← parameter_eq_iff, ← hagentId,
    ← hcallId, ← henv]
  exact ⟨fun h => ⟨h.agentId, h.callId, h.env⟩, fun ⟨h₁, h₂, h₃⟩ => ⟨h₁, h₂, h₃⟩⟩

/-- The ids that a call and a simulated call report are those of the URL if and only if nothing gets
in their way. -/
theorem ids_by_name_iff (u : QueryUrl) (hc : c.webhookUrl = u.text) (hs : s.webhookUrl = u.text)
    (hr : c.onCallState conv endTime ci = some r) :
    (r.ByName u ↔ u.Clear) ∧
      ((s.buildWebhookJson conv endTime status durationSec).ByName u ↔ u.Clear) := by
  constructor
  · rw [MyCall.onCallState] at hr
    split_ifs at hr
    cases hr
    rw [hc]
    exact Report.byName_iff rfl rfl rfl
  · unfold SimulatedCall.buildWebhookJson
    rw [hs]
    exact Report.byName_iff rfl rfl rfl

/-- A URL in which nothing gets in the way. -/
theorem ids_by_name_sample :
    let u : QueryUrl := ⟨Text.ofString "https://h/hook",
      [(Text.ofString "agent_id", Text.ofString "7"), (Text.ofString "call_id", Text.ofString "8"),
        (Text.ofString "env", Text.ofString "prod")], by decide, by decide, by decide⟩
    let t : Tm := ⟨2024, 1, 1, 0, 0, 0⟩
    let conv : IntConversion := ⟨id, fun _ _ _ => rfl⟩
    ∃ r, (MyCall.mk [] u.text [] [] t).onCallState conv t ⟨.disconnected, 200, 60, 70, [], []⟩ =
        some r ∧
      r.ByName u ∧
        ((SimulatedCall.mk [] u.text [] [] t).buildWebhookJson conv t [] 0).ByName u := by
  intro u t conv
  obtain ⟨r, hr⟩ : ∃ r, (MyCall.mk [] u.text [] [] t).onCallState conv t
      ⟨.disconnected, 200, 60, 70, [], []⟩ = some r := ⟨_, rfl⟩
  have hiff : (r.ByName u ↔ u.Clear) ∧
      (((SimulatedCall.mk [] u.text [] [] t).buildWebhookJson conv t [] 0).ByName u ↔ u.Clear) :=
    ids_by_name_iff u rfl rfl hr
  have hclear : u.Clear :=
    ⟨(parameter_eq_iff u _).mp (by decide +kernel), (parameter_eq_iff u _).mp (by decide +kernel),
      (parameter_eq_iff u _).mp (by decide +kernel)⟩
  exact ⟨r, hr, hiff.1.mpr hclear, hiff.2.mpr hclear⟩

/-- A longer name ends in the name that is searched for. -/
theorem longer_name_taken : ¬∀ (u : QueryUrl) (conv : IntConversion) (c : MyCall)
    (s : SimulatedCall) (endTime : Tm) (ci : CallInfo) (r : Report) (status : Text)
    (durationSec : Int), c.webhookUrl = u.text → s.webhookUrl = u.text →
      c.onCallState conv endTime ci = some r →
        r.ByName u ∧ (s.buildWebhookJson conv endTime status durationSec).ByName u := by
  intro h
  let u : QueryUrl := ⟨Text.ofString "https://h/hook",
    [(Text.ofString "sub_agent_id", Text.ofString "9"), (Text.ofString "agent_id",
      Text.ofString "7")], by decide, by decide, by decide⟩
  let t : Tm := ⟨2024, 1, 1, 0, 0, 0⟩
  obtain ⟨hreport, -⟩ := h u ⟨id, fun _ _ _ => rfl⟩ ⟨[], u.text, [], [], t⟩
    ⟨[], u.text, [], [], t⟩ t ⟨.disconnected, 200, 60, 70, [], []⟩ _ [] 0 rfl rfl rfl
  have htaken : parameter "agent_id" u.text ≠ u.due "agent_id" := by decide +kernel
  exact htaken hreport.agentId

end MediaServer.CallReport
