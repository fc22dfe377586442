import SipForward.Core.JsonAssembly
import SipForward.MediaServer.WebhookUrl

/-!
# The bodies of the webhooks

The text of a report is put together without escapes. It is read as it is meant if and only if none
of its strings has a character that would need one.
-/

namespace MediaServer.CallReport

open Core Core.JsonText

/-! ### What a report says -/

/-- The strings of a report, with the names of their members. -/
def Report.strings (r : Report) : List (String × Text) :=
  [("CallUUID", r.callUUID), ("CallStatus", r.callStatus), ("From", r.fromNumber),
    ("To", r.toNumber), ("agent_id", r.agentId), ("call_id", r.callId), ("env", r.env),
    ("trunk_name", r.trunkName), ("HangupSource", r.hangupSource)]

/-- The text of the report is an object that has the strings of the report. -/
def Report.Decodes (r : Report) : Prop :=
  ∃ members, parse r.json = some (.object members) ∧
    ∀ p ∈ r.strings, Json.lookupLast p.1 members = some (.string p.2)

/-! ### Numbers and times -/

variable {r : Report} {s t : Text} {n : ℕ} {c : Char} {l l' : List Char}

lemma isPlain_of_isDigit (h : c.isDigit = true) : isPlain c = true := by
  rw [Char.isDigit_iff_toNat] at h
  have hzero : '0'.toNat = 48 := rfl
  have hnine : '9'.toNat = 57 := rfl
  refine isPlain_iff.mpr ⟨?_, ?_, by omega⟩
  · rintro rfl
    exact absurd h (by decide)
  · rintro rfl
    exact absurd h (by decide)

/-- All characters stand for themselves. -/
def AllPlain (l : List Char) : Prop := ∀ c ∈ l, isPlain c = true

lemma AllPlain.append (h : AllPlain l) (h' : AllPlain l') : AllPlain (l ++ l') :=
  fun c hc => (List.mem_append.mp hc).elim (h c) (h' c)

lemma AllPlain.cons (hc : isPlain c = true) (h : AllPlain l) : AllPlain (c :: l) :=
  List.forall_mem_cons.mpr ⟨hc, h⟩

lemma AllPlain.plain (h : AllPlain l) : Plain (l.map some) := by
  intro c hc
  obtain ⟨a, ha, rfl⟩ := List.mem_map.mp hc
  exact h a ha

lemma isDigit_of_mem_decimal (hc : c ∈ decimal n) : c.isDigit = true :=
  Nat.isDigit_of_mem_toDigits (by decide) (by decide) hc

lemma isDigit_of_mem_padded {width : ℕ} (hc : c ∈ padded width n) : c.isDigit = true := by
  rcases List.mem_append.mp hc with hc | hc
  · rw [List.eq_of_mem_replicate hc]
    rfl
  · exact isDigit_of_mem_decimal hc

lemma allPlain_decimal (n : ℕ) : AllPlain (decimal n) :=
  fun _ hc => isPlain_of_isDigit (isDigit_of_mem_decimal hc)

lemma allPlain_padded (width n : ℕ) : AllPlain (padded width n) :=
  fun _ hc => isPlain_of_isDigit (isDigit_of_mem_padded hc)

/-- A time has only digits and separators. -/
lemma allPlain_strftime (tm : Tm) : AllPlain tm.strftime := by
  refine AllPlain.append ?_ (.cons (by decide) (allPlain_padded 2 tm.second))
  refine AllPlain.append ?_ (.cons (by decide) (allPlain_padded 2 tm.minute))
  refine AllPlain.append ?_ (.cons (by decide) (allPlain_padded 2 tm.hour))
  refine AllPlain.append ?_ (.cons (by decide) (allPlain_padded 2 tm.day))
  exact (allPlain_decimal tm.year).append (.cons (by decide) (allPlain_padded 2 tm.month))

/-- A number has a zero in front only if it is zero. -/
lemma head_decimal (h : (decimal n).head? = some '0') : n = 0 := by
  induction n using Nat.strongRecOn with
  | ind n ih =>
    unfold decimal at ih h
    by_cases hn : n < 10
    · rw [Nat.toDigits_of_lt_base hn] at h
      exact Nat.digitChar_eq_zero.mp (Option.some.inj h)
    · rw [Nat.toDigits_of_base_le (by decide) (by omega), List.head?_append_of_ne_nil _
        Nat.toDigits_ne_nil] at h
      have := ih (n / 10) (by omega) h
      omega

lemma isInteger_decimal (n : ℕ) : IsInteger (decimal n) := by
  refine ⟨Nat.toDigits_ne_nil, fun c hc => isDigit_of_mem_decimal hc, fun h => ?_⟩
  rw [head_decimal h]
  rfl

lemma intText_eq (v : Int) : (intText v).map some = numberText (v < 0) (decimal v.natAbs) [] := by
  by_cases hneg : v < 0 <;> simp [intText, numberText, hneg]

lemma doubleText_eq (millionths : Int) :
    (doubleText millionths).map some = numberText (millionths < 0)
      (decimal (millionths.natAbs / 1000000)) (padded 6 (millionths.natAbs % 1000000)) := by
  have hne : padded 6 (millionths.natAbs % 1000000) ≠ [] := by
    rw [padded, ne_eq, List.append_eq_nil_iff, not_and]
    exact fun _ => Nat.toDigits_ne_nil
  by_cases hneg : millionths < 0 <;> simp [doubleText, numberText, hne, hneg]

lemma reads_intText (v : Int) : ∃ number, Reads ((intText v).map some) (.number number) := by
  rw [intText_eq]
  exact reads_number _ (isInteger_decimal _) (by simp)

lemma reads_doubleText (millionths : Int) :
    ∃ number, Reads ((doubleText millionths).map some) (.number number) := by
  rw [doubleText_eq]
  exact reads_number _ (isInteger_decimal _) fun c hc => isDigit_of_mem_padded hc

/-! ### The text as an object -/

/-- A quoted string. -/
def quoted (s : Text) : Text := some '"' :: s ++ [some '"']

/-- The members as they are written. -/
def Report.written (r : Report) : List (String × Text) :=
  [("CallUUID", quoted r.callUUID), ("CallStatus", quoted r.callStatus),
    ("BillDuration", (intText r.billDuration).map some),
    ("BillRate", (doubleText 5000).map some),
    ("TotalCost", (doubleText (r.billDuration * 5000)).map some),
    ("Direction", quoted (Text.ofString "outbound")), ("Duration", (intText r.duration).map some),
    ("StartTime", quoted (r.startTime.strftime.map some)),
    ("EndTime", quoted (r.endTime.strftime.map some)), ("From", quoted r.fromNumber),
    ("To", quoted r.toNumber), ("agent_id", quoted r.agentId), ("call_id", quoted r.callId),
    ("env", quoted r.env), ("trunk_name", quoted r.trunkName),
    ("HangupSource", quoted r.hangupSource)]

set_option maxRecDepth 4000 in
lemma Report.json_eq_encode (r : Report) : r.json = some '{' :: encode r.written := by
  unfold Report.json Report.written
  -- the digits are not to be computed
  generalize (doubleText 5000).map some = billRate
  generalize (doubleText (r.billDuration * 5000)).map some = totalCost
  simp only [encode, quoted, List.append_assoc, List.cons_append, List.nil_append]
  rfl

/-- The text of a report with plain strings is read as it is meant. -/
lemma Report.decodes_of_plain (h : ∀ p ∈ r.strings, Plain p.2) : r.Decodes := by
  simp only [Report.strings, List.forall_mem_cons] at h
  obtain ⟨h₁, h₂, h₃, h₄, h₅, h₆, h₇, h₈, h₉, -⟩ := h
  obtain ⟨billDuration, hbillDuration⟩ := reads_intText r.billDuration
  obtain ⟨billRate, hbillRate⟩ := reads_doubleText 5000
  obtain ⟨totalCost, htotalCost⟩ := reads_doubleText (r.billDuration * 5000)
  obtain ⟨duration, hduration⟩ := reads_intText r.duration
  have hparse := @parse_encode
    [⟨"CallUUID", _, _, by decide, reads_string h₁⟩,
      ⟨"CallStatus", _, _, by decide, reads_string h₂⟩,
      ⟨"BillDuration", _, _, by decide, hbillDuration⟩,
      ⟨"BillRate", _, _, by decide, hbillRate⟩,
      ⟨"TotalCost", _, _, by decide, htotalCost⟩,
      ⟨"Direction", _, _, by decide, reads_string (s := Text.ofString "outbound") (by decide)⟩,
      ⟨"Duration", _, _, by decide, hduration⟩,
      ⟨"StartTime", _, _, by decide, reads_string (allPlain_strftime r.startTime).plain⟩,
      ⟨"EndTime", _, _, by decide, reads_string (allPlain_strftime r.endTime).plain⟩,
      ⟨"From", _, _, by decide, reads_string h₃⟩, ⟨"To", _, _, by decide, reads_string h₄⟩,
      ⟨"agent_id", _, _, by decide, reads_string h₅⟩,
      ⟨"call_id", _, _, by decide, reads_string h₆⟩, ⟨"env", _, _, by decide, reads_string h₇⟩,
      ⟨"trunk_name", _, _, by decide, reads_string h₈⟩,
      ⟨"HangupSource", _, _, by decide, reads_string h₉⟩] (by simp)
  refine ⟨_, (congrArg parse r.json_eq_encode).trans hparse, ?_⟩
  simp [Report.strings, Json.lookupLast]

/-! ### The text as strings with fixed texts in between -/

/-- The fixed text between the quote behind a string and the string of the member that follows. -/
def gap (name : String) : Text :=
  Text.ofString ", \"" ++ (Text.ofString name ++ Text.ofString "\": \"")

/-- What there is between the quote behind the status and the number of the caller. -/
def Report.numbers (r : Report) : Text :=
  Text.ofString ", \"BillDuration\": " ++ ((intText r.billDuration).map some ++
  (Text.ofString ", \"BillRate\": " ++ ((doubleText 5000).map some ++
  (Text.ofString ", \"TotalCost\": " ++ ((doubleText (r.billDuration * 5000)).map some ++
  (Text.ofString ", \"Direction\": \"outbound\"" ++
  (Text.ofString ", \"Duration\": " ++ ((intText r.duration).map some ++
  (Text.ofString ", \"StartTime\": \"" ++ (r.startTime.strftime.map some ++
  (Text.ofString "\", \"EndTime\": \"" ++ (r.endTime.strftime.map some ++
  Text.ofString "\", \"From\": \""))))))))))))

def Report.pieces (r : Report) : Pieces :=
  [(r.callUUID, some '"' :: gap "CallStatus"), (r.callStatus, some '"' :: r.numbers),
    (r.fromNumber, some '"' :: gap "To"), (r.toNumber, some '"' :: gap "agent_id"),
    (r.agentId, some '"' :: gap "call_id"), (r.callId, some '"' :: gap "env"),
    (r.env, some '"' :: gap "trunk_name"), (r.trunkName, some '"' :: gap "HangupSource"),
    (r.hangupSource, [some '"', some '}'])]

set_option maxRecDepth 4000 in
lemma Report.json_eq_join (r : Report) :
    r.json = Text.ofString "\x7b\"CallUUID\": \"" ++ join r.pieces := by
  unfold Report.json Report.pieces Report.numbers
  generalize (doubleText 5000).map some = billRate
  generalize (doubleText (r.billDuration * 5000)).map some = totalCost
  simp only [join, gap, List.flatMap_cons, List.flatMap_nil, List.append_assoc, List.cons_append,
    List.nil_append]
  rfl

lemma isGap_gap {name : String} (hbackslash : some '\\' ∉ gap name)
    (hlast : (gap name).getLast? = some (some '"')) {a : Option Char} {rest : Text}
    (hname : Text.ofString name = a :: rest) (ha : isBlank a = false)
    (hne : a ≠ some ',' ∧ a ≠ some '}') : IsGap (gap name) := by
  refine ⟨hbackslash, hlast, Text.ofString ", ", a, rest ++ Text.ofString "\": \"", ?_, by decide,
    ha, hne⟩
  rw [gap, hname]
  rfl

lemma not_backslash_of_plain (h : Plain t) : some '\\' ∉ t :=
  fun hmem => not_plain_of_backslash hmem h

lemma allPlain_sign (negative : Prop) [Decidable negative] :
    AllPlain (if negative then ['-'] else []) := by
  split_ifs
  · exact .cons (by decide) fun _ hc => by cases hc
  · exact fun _ hc => by cases hc

lemma allPlain_intText (v : Int) : AllPlain (intText v) :=
  (allPlain_sign _).append (allPlain_decimal _)

lemma allPlain_doubleText (millionths : Int) : AllPlain (doubleText millionths) :=
  ((allPlain_sign _).append (allPlain_decimal _)).append (.cons (by decide) (allPlain_padded 6 _))

lemma Report.isGap_numbers (r : Report) : IsGap r.numbers := by
  refine ⟨?_, ?_, Text.ofString ", ", some 'B', _, rfl, by decide, by decide, by decide⟩
  · have hbillRate := not_backslash_of_plain (allPlain_doubleText 5000).plain
    have htotalCost := not_backslash_of_plain (allPlain_doubleText (r.billDuration * 5000)).plain
    simp only [Report.numbers, List.mem_append, not_or]
    exact ⟨by decide, not_backslash_of_plain (allPlain_intText _).plain, by decide, hbillRate,
      by decide, htotalCost, by decide, by decide,
      not_backslash_of_plain (allPlain_intText _).plain, by decide,
      not_backslash_of_plain (allPlain_strftime _).plain, by decide,
      not_backslash_of_plain (allPlain_strftime _).plain, by decide⟩
  · have hlast : (Text.ofString "\", \"From\": \"").getLast? = some (some '"') := by decide
    simp only [Report.numbers, List.getLast?_append, hlast, Option.some_or]

lemma Report.separated (r : Report) : Separated r.pieces := by
  refine .gap (isGap_gap (by decide) (by decide) rfl (by decide) (by decide)) _ ?_
  refine .gap r.isGap_numbers _ ?_
  refine .gap (isGap_gap (by decide) (by decide) rfl (by decide) (by decide)) _ ?_
  refine .gap (isGap_gap (by decide) (by decide) rfl (by decide) (by decide)) _ ?_
  refine .gap (isGap_gap (by decide) (by decide) rfl (by decide) (by decide)) _ ?_
  refine .gap (isGap_gap (by decide) (by decide) rfl (by decide) (by decide)) _ ?_
  refine .gap (isGap_gap (by decide) (by decide) rfl (by decide) (by decide)) _ ?_
  refine .gap (isGap_gap (by decide) (by decide) rfl (by decide) (by decide)) _ ?_
  exact separated_last _

lemma Report.strings_eq_pieces (r : Report) : r.strings.map (·.2) = r.pieces.map (·.1) := rfl

/-- The text of a report is read as it is meant if and only if its strings are plain. -/
lemma Report.decodes_iff (r : Report) : r.Decodes ↔ ∀ p ∈ r.strings, Plain p.2 := by
  refine ⟨fun h => ?_, r.decodes_of_plain⟩
  obtain ⟨members, hparse, hmembers⟩ := h
  rw [r.json_eq_join] at hparse
  have hfront : Harmless (Text.ofString "\x7b\"CallUUID\": \"") (join r.pieces) :=
    harmless_of_quote (by decide) (by decide)
  have hplain : ∀ p ∈ r.pieces, Plain p.1 := by
    refine r.separated.plain_of_origin hfront fun p hp => ?_
    have hstring : p.1 ∈ r.strings.map (·.2) := r.strings_eq_pieces ▸ List.mem_map_of_mem hp
    obtain ⟨q, hq, hvalue⟩ := List.mem_map.mp hstring
    obtain ⟨⟨name, v⟩, hmem, -, rfl⟩ := Json.lookupLast_mem (hmembers q hq)
    exact origin_of_parse hparse (hvalue ▸ hmem)
  intro p hp
  have hpiece : p.2 ∈ r.pieces.map (·.1) := r.strings_eq_pieces ▸ List.mem_map_of_mem hp
  obtain ⟨q, hq, hvalue⟩ := List.mem_map.mp hpiece
  exact hvalue ▸ hplain q hq

/-! ### What is put into a report -/

/-- What is cut from the URL for an id is plain. -/
def PlainIds (webhookUrl : Text) : Prop :=
  ∀ name ∈ ["agent_id", "call_id", "env"], ∀ front value,
    StandsFirst (Text.ofString (name ++ "=")) (some '&') webhookUrl front value → Plain value

/-- There are two digits in a row, the first of them not zero. -/
def HasNumber (uri : Text) : Prop :=
  ∃ front d e back, uri = front ++ some d :: some e :: back ∧ d.isDigit = true ∧ d ≠ '0' ∧
    e.isDigit = true

/-- Nothing that is put into the report of a call would need an escape. A URI with a number is not
put in. -/
structure MyCall.Clean (c : MyCall) (ci : CallInfo) : Prop where
  stringCallId : Plain c.stringCallId
  trunkName : Plain c.trunkName
  hangupSource : Plain c.hangupSource
  ids : PlainIds c.webhookUrl
  remoteUri : HasNumber ci.remoteUri ∨ Plain ci.remoteUri
  localUri : HasNumber ci.localUri ∨ Plain ci.localUri

/-- Nothing that is put into the report of a simulated call would need an escape. -/
structure SimulatedCall.Clean (c : SimulatedCall) (status : Text) : Prop where
  callId : Plain c.callId
  status : Plain status
  trunkName : Plain c.trunkName
  hangupSource : Plain c.hangupSource
  ids : PlainIds c.webhookUrl

lemma plain_parameter_iff (name : String) (url : Text) :
    Plain (parameter name url) ↔
      ∀ front value, StandsFirst (Text.ofString (name ++ "=")) (some '&') url front value →
        Plain value := by
  rw [parameter]
  cases hcut : capture (Text.ofString (name ++ "=")) (some '&') url with
  | none =>
    refine iff_of_true (by decide) fun front value hfirst => ?_
    exact absurd hfirst.toStands (capture_eq_none_iff.mp hcut front value)
  | some cut =>
    rw [Option.getD_some]
    constructor
    · intro hplain front value hfirst
      rw [← Option.some.inj (hcut.symm.trans (capture_eq_some_iff.mpr ⟨front, hfirst⟩))]
      exact hplain
    · intro h
      obtain ⟨front, hfirst⟩ := capture_eq_some_iff.mp hcut
      exact h front cut hfirst

lemma plainIds_iff (url : Text) :
    PlainIds url ↔ Plain (parameter "agent_id" url) ∧ Plain (parameter "call_id" url) ∧
      Plain (parameter "env" url) := by
  rw [plain_parameter_iff, plain_parameter_iff, plain_parameter_iff]
  simp [PlainIds]

lemma plain_of_isDigit (h : ∀ c ∈ t, CallReport.isDigit c = true) : Plain t := by
  intro c hc
  have hdigit := h c hc
  cases c with
  | none => cases hdigit
  | some c => exact isPlain_of_isDigit hdigit

lemma isDigit_iff {a : Option Char} :
    CallReport.isDigit a = true ↔ ∃ d, a = some d ∧ d.isDigit = true := by
  cases a <;> simp [CallReport.isDigit]

lemma HasNumber.append (h : HasNumber t) (front : Text) : HasNumber (front ++ t) := by
  obtain ⟨front', d, e, back, rfl, hdigits⟩ := h
  exact ⟨front ++ front', d, e, back, by rw [List.append_assoc], hdigits⟩

/-- A match is plain, and has two digits. -/
lemma nationalMatch_some {m : Text} (h : nationalMatch t = some m) : Plain m ∧ HasNumber t := by
  cases t with
  | nil => cases h
  | cons c t =>
    rw [nationalMatch] at h
    split_ifs at h with hmatch
    cases h
    obtain ⟨hc, hzero, hdigits⟩ := hmatch
    constructor
    · refine plain_of_isDigit (List.forall_mem_cons.mpr ⟨hc, fun a ha => ?_⟩)
      exact List.mem_takeWhile_imp (List.mem_of_mem_take ha)
    · obtain ⟨d, rfl, hd⟩ := isDigit_iff.mp hc
      cases t with
      | nil => exact absurd rfl hdigits
      | cons a t =>
        have ha : CallReport.isDigit a = true := by
          by_contra hnot
          exact hdigits (List.takeWhile_cons_of_neg hnot)
        obtain ⟨e, rfl, he⟩ := isDigit_iff.mp ha
        exact ⟨[], d, e, t, rfl, hd, fun heq => hzero (by rw [heq]), he⟩

lemma phoneMatch_some {m : Text} (h : phoneMatch t = some m) : Plain m ∧ HasNumber t := by
  rw [phoneMatch.eq_def] at h
  split at h
  · next t' =>
    obtain ⟨m', hm', rfl⟩ := Option.map_eq_some_iff.mp h
    obtain ⟨hplain, hnumber⟩ := nationalMatch_some hm'
    exact ⟨plain_cons.mpr ⟨by decide, hplain⟩, hnumber.append [some '+']⟩
  · exact nationalMatch_some h

/-- Two digits match where they stand. -/
lemma phoneMatch_digits {d e : Char} (hd : d.isDigit = true) (hzero : d ≠ '0')
    (he : e.isDigit = true) (back : Text) :
    (phoneMatch (some d :: some e :: back)).isSome = true := by
  have hplus : d ≠ '+' := by
    rintro rfl
    cases hd
  have hmatch : CallReport.isDigit (some d) = true ∧ some d ≠ some '0' ∧
      (some e :: back).takeWhile CallReport.isDigit ≠ [] := by
    refine ⟨hd, fun heq => hzero (Option.some.inj heq), ?_⟩
    rw [List.takeWhile_cons_of_pos (show CallReport.isDigit (some e) = true from he)]
    exact List.cons_ne_nil _ _
  rw [phoneMatch.eq_def]
  split
  · next heq =>
    cases heq
    exact absurd rfl hplus
  · rw [nationalMatch, if_pos hmatch]
    rfl

lemma plain_phoneNumber_iff (uri : Text) :
    Plain (phoneNumber uri) ↔ HasNumber uri ∨ Plain uri := by
  rw [phoneNumber]
  cases hfirst : firstTail (fun t => (phoneMatch t).isSome) uri with
  | none =>
    have hnone : ¬HasNumber uri := by
      rintro ⟨front, d, e, back, hsplit, hd, hzero, he⟩
      exact firstTail_eq_none_iff.mp hfirst front _ hsplit (phoneMatch_digits hd hzero he back)
    rw [Option.bind_none, Option.getD_none]
    exact ⟨Or.inr, fun h => h.resolve_left hnone⟩
  | some tail =>
    obtain ⟨front, hsplit, hmatch, -⟩ := firstTail_eq_some_iff.mp hfirst
    obtain ⟨m, hm⟩ := Option.isSome_iff_exists.mp hmatch
    obtain ⟨hplain, hnumber⟩ := phoneMatch_some hm
    rw [Option.bind_some, hm, Option.getD_some]
    exact iff_of_true hplain (Or.inl (hsplit ▸ hnumber.append front))

lemma plain_status (status : CallStatus) : Plain (Text.ofString status.text) := by
  cases status <;> decide

lemma plain_hangupSourceAt_iff (c : MyCall) (state : CallMedia.InvState) :
    Plain (c.hangupSourceAt state) ↔ Plain c.hangupSource := by
  rw [MyCall.hangupSourceAt]
  split_ifs with hnone
  · rw [hnone.2]
    exact iff_of_true (by decide) (by decide)
  · rfl

/-! ### Both encoders -/

variable {conv : IntConversion} {c : MyCall} {sim : SimulatedCall} {endTime : Tm} {ci : CallInfo}
  {status : Text} {durationSec : Int}

/-- The body that is sent for a call, and likewise that of a simulated call, is read as it is meant
if and only if nothing that is put into it would need an escape. -/
theorem bodies_decode_iff (hr : c.onCallState conv endTime ci = some r) :
    (r.Decodes ↔ c.Clean ci) ∧
      ((sim.buildWebhookJson conv endTime status durationSec).Decodes ↔ sim.Clean status) := by
  constructor
  · rw [MyCall.onCallState] at hr
    split_ifs at hr
    cases hr
    rw [Report.decodes_iff]
    simp only [Report.strings, List.forall_mem_cons, plain_hangupSourceAt_iff,
      plain_phoneNumber_iff]
    constructor
    · rintro ⟨hcallUUID, -, hfrom, hto, hagent, hcall, henv, htrunk, hhangup, -⟩
      exact ⟨hcallUUID, htrunk, hhangup, (plainIds_iff _).mpr ⟨hagent, hcall, henv⟩, hfrom, hto⟩
    · intro h
      obtain ⟨hagent, hcall, henv⟩ := (plainIds_iff _).mp h.ids
      exact ⟨h.stringCallId, plain_status _, h.remoteUri, h.localUri, hagent, hcall, henv,
        h.trunkName, h.hangupSource, fun _ hp => by cases hp⟩
  · rw [Report.decodes_iff]
    simp only [Report.strings, SimulatedCall.buildWebhookJson, List.forall_mem_cons]
    constructor
    · rintro ⟨hcallId, hstatus, -, -, hagent, hcall, henv, htrunk, hhangup, -⟩
      exact ⟨hcallId, hstatus, htrunk, hhangup, (plainIds_iff _).mpr ⟨hagent, hcall, henv⟩⟩
    · intro h
      obtain ⟨hagent, hcall, henv⟩ := (plainIds_iff _).mp h.ids
      exact ⟨h.callId, h.status, by decide, by decide, hagent, hcall, henv, h.trunkName,
        h.hangupSource, fun _ hp => by cases hp⟩

/-- A call with ordinary strings. -/
theorem bodies_decode_sample :
    let url := Text.ofString "https://h/hook?agent_id=7&call_id=8&env=prod"
    let t : Tm := ⟨2024, 1, 1, 0, 0, 0⟩
    let conv : IntConversion := ⟨id, fun _ _ _ => rfl⟩
    let c : MyCall := ⟨Text.ofString "id-1", url, Text.ofString "tata", Text.ofString "none", t⟩
    let sim : SimulatedCall :=
      ⟨Text.ofString "id-2", url, Text.ofString "tata", Text.ofString "none", t⟩
    ∃ r, c.onCallState conv t ⟨.disconnected, 200, 60, 70, Text.ofString "sip:15551234567@h",
        Text.ofString "sip:agent@h"⟩ = some r ∧
      r.Decodes ∧ (sim.buildWebhookJson conv t (Text.ofString "completed") 61).Decodes := by
  intro url t conv c sim
  obtain ⟨r, hr⟩ : ∃ r, c.onCallState conv t ⟨.disconnected, 200, 60, 70,
      Text.ofString "sip:15551234567@h", Text.ofString "sip:agent@h"⟩ = some r := ⟨_, rfl⟩
  have hids : PlainIds url :=
    (plainIds_iff url).mpr ⟨by decide +kernel, by decide +kernel, by decide +kernel⟩
  have hnumber : HasNumber (Text.ofString "sip:15551234567@h") :=
    ⟨Text.ofString "sip:", '1', '5', Text.ofString "551234567@h", rfl, rfl, by decide, rfl⟩
  have hiff : _ ∧ ((sim.buildWebhookJson conv t (Text.ofString "completed") 61).Decodes ↔ _) :=
    bodies_decode_iff hr
  exact ⟨r, hr, hiff.1.mpr ⟨by decide, by decide, by decide, hids, Or.inl hnumber,
    Or.inr (by decide)⟩, hiff.2.mpr ⟨by decide, by decide, by decide, by decide, hids⟩⟩

/-- A quote in the name of the trunk. -/
theorem quote_in_trunk_name : ¬∀ (conv : IntConversion) (c : MyCall) (sim : SimulatedCall)
    (endTime : Tm) (ci : CallInfo) (r : Report) (status : Text) (durationSec : Int),
      c.onCallState conv endTime ci = some r →
        r.Decodes ∧ (sim.buildWebhookJson conv endTime status durationSec).Decodes := by
  intro h
  obtain ⟨hdecodes, -⟩ := h ⟨id, fun _ _ _ => rfl⟩
    ⟨Text.ofString "id-1", [], Text.ofString "a\"b", Text.ofString "none", ⟨2024, 1, 1, 0, 0, 0⟩⟩
    ⟨[], [], [], [], ⟨2024, 1, 1, 0, 0, 0⟩⟩ ⟨2024, 1, 1, 0, 0, 0⟩
    ⟨.disconnected, 200, 60, 70, [], []⟩ _ [] 0 rfl
  have htrunk := (Report.decodes_iff _).mp hdecodes ("trunk_name", Text.ofString "a\"b")
    (by simp [Report.strings])
  exact absurd htrunk (by decide)

end MediaServer.CallReport
