import SipForward.Core.Dialplan

/-!
# The dialplan of the Asterisk server

`extensions.conf`, extension by extension, and what it does with the calls of the media servers,
with the calls that come in from a trunk and with the calls that are handed to a second human.
-/

namespace Asterisk

open Core.Dialplan

/-! ### Writing steps -/

def text (s : String) : Piece := .word (.text s)

/-- `${name}`. -/
def var (name : String) : Piece := .word (.var name)

def run (app : App) : Step := ⟨none, app⟩

def labelled (label : String) (app : App) : Step := ⟨some label, app⟩

/-- `$["${name}" != ""]`. -/
def isSet (name : String) : Condition := .ne [var name] []

/-- `$["${name}" = ""]`. -/
def isEmpty (name : String) : Condition := .eq [var name] []

/-! ### `[internal]` -/

/-- `8000000001`. -/
def testCaller : List Step :=
  [run .noOp, run .answer, run (.wait 120), run (.hangup none)]

/-- `_[x]fer.`. -/
def humanTransfer : List Step :=
  [run .noOp,
    run (.gotoIf (isSet "REFERPROVIDER") (.label "go")),
    run (.set .none "REFERPROVIDER" [text "synchrovox_out"]),
    run (.set .none "REFERDID" [text "00919240292847"]),
    labelled "go" (.setCaller .num [var "REFERDID"]),
    run (.setCaller .name [var "REFERDID"]),
    run (.dial [text "PJSIP/", .word (.drop "EXTEN" 4), text "@", var "REFERPROVIDER"] 120 none),
    run (.hangup none)]

/-- `_X.`. -/
def internalCall : List Step :=
  [run .noOp,
    run (.set .none "TRUNK" [.pjsipHeader "X-Trunk"]),
    run (.gotoIf (isSet "TRUNK") (.exten "default" (.var "EXTEN"))),
    run (.dial [text "PJSIP/", var "EXTEN"] 30 none),
    run (.hangup none)]

/-- `pjsip_client` and `india_media`. -/
def dialMedia (name : String) : List Step :=
  [run .noOp, run (.dial [text ("PJSIP/" ++ name)] 30 none), run (.hangup none)]

def internal : List Exten :=
  [⟨.exact "8000000001", testCaller⟩,
    ⟨.parts [.oneOf [('x', 'x')], .literal 'f', .literal 'e', .literal 'r', .rest], humanTransfer⟩,
    ⟨.parts [.digit, .rest], internalCall⟩,
    ⟨.exact "pjsip_client", dialMedia "pjsip_client"⟩,
    ⟨.exact "india_media", dialMedia "india_media"⟩]

/-! ### `[from-trunk]` -/

/-- `_[0-9#].`. -/
def incomingCall : List Step :=
  [run .noOp,
    run (.gotoIf (.eq [.word (.take "EXTEN" 3)] [text "10#"]) (.label "striphash")),
    run (.set .once "INBOUND_KEY" [var "EXTEN"]),
    run (.goto (.label "normalized")),
    labelled "striphash" (.set .once "INBOUND_KEY" [.word (.drop "EXTEN" 3)]),
    labelled "normalized" .noOp,
    run (.set .once "CLEAN_TRUNK"
      [.realtimeField "ps_provider_dids" "did" (.var "INBOUND_KEY") "id"]),
    run (.set .once "RESOLVED_DID" [var "INBOUND_KEY"]),
    run (.gotoIf (isSet "CLEAN_TRUNK") (.label "routed")),
    run (.set .once "PROVIDER"
      [.realtimeField "ps_registrations" "contact_user" (.var "INBOUND_KEY") "endpoint"]),
    run (.gotoIf (isEmpty "PROVIDER") (.label "notfound")),
    run (.set .once "CLEAN_TRUNK"
      [.realtimeField "ps_provider_dids" "provider_id" (.var "PROVIDER") "id"]),
    run (.set .once "RESOLVED_DID"
      [.realtimeField "ps_provider_dids" "provider_id" (.var "PROVIDER") "did"]),
    run (.gotoIf (isEmpty "CLEAN_TRUNK") (.label "notfound")),
    labelled "routed" (.set .once "ORIGINAL_EXTEN" [var "RESOLVED_DID"]),
    run (.setCaller .dnid [var "RESOLVED_DID"]),
    run .noOp,
    run (.set .none "TARGET_URI" [.curl "http://localhost:8000/get-inbound-contact/asterisk"]),
    run (.gotoIf (isEmpty "TARGET_URI") (.label "lb_failed")),
    run .noOp,
    run (.dial [var "TARGET_URI"] 60 (some ("headers", "add"))),
    run (.hangup none),
    labelled "notfound" .noOp,
    run (.hangup (some 1)),
    labelled "lb_failed" .noOp,
    run (.hangup (some 41))]

def fromTrunk : List Exten := [⟨.parts [.oneOf [('0', '9'), ('#', '#')], .rest], incomingCall⟩]

/-! ### `[headers]` -/

/-- `add`. -/
def addHeaders : List Step :=
  [run .noOp,
    run (.addHeader "X-To-Number" [var "ORIGINAL_EXTEN"]),
    run (.addHeader "X-Trunk" [var "CLEAN_TRUNK"]),
    run .ret]

/-- `add_uuid`. -/
def addUuid : List Step :=
  [run .noOp,
    run (.gotoIf (isEmpty "CALL_UUID") (.label "done")),
    run (.addHeader "X-Call-UUID" [var "CALL_UUID"]),
    labelled "done" .ret]

def headers : List Exten := [⟨.exact "add", addHeaders⟩, ⟨.exact "add_uuid", addUuid⟩]

/-! ### `[default]` -/

/-- `_X.`. -/
def defaultCall : List Step :=
  [run .noOp,
    run (.set .none "TRUNK" [.pjsipHeader "X-Trunk"]),
    run (.gotoIf (isSet "TRUNK") (.label "outbound")),
    run (.gotoIf (.or (.eq [var "EXTEN"] [text "pjsip_client"])
      (.eq [.word (.take "EXTEN" 11)] [text "india_media"])) (.exten "internal" (.var "EXTEN"))),
    run (.goto (.exten "from-trunk" (.var "EXTEN"))),
    labelled "outbound" .noOp,
    run (.set .once "CALL_UUID" [.pjsipHeader "X-Call-UUID"]),
    run (.mixMonitor [text "/var/spool/asterisk/monitor/human-", var "CALL_UUID", text ".wav"]),
    run (.set .none "PROVIDER"
      [.realtimeField "ps_provider_dids" "id" (.var "TRUNK") "provider_id"]),
    run (.set .none "DID_NUMBER" [.realtimeField "ps_provider_dids" "id" (.var "TRUNK") "did"]),
    run (.set .always "REFERPROVIDER" [var "PROVIDER"]),
    run (.set .always "REFERDID" [var "DID_NUMBER"]),
    run (.gotoIf (isEmpty "PROVIDER") (.label "legacy")),
    run .noOp,
    run (.setCaller .num [var "DID_NUMBER"]),
    run (.setCaller .name [var "DID_NUMBER"]),
    run (.dial [text "PJSIP/", var "EXTEN", text "@", var "PROVIDER"] 60
      (some ("headers", "add_uuid"))),
    run (.hangup none),
    labelled "legacy" .noOp,
    run (.dial [text "PJSIP/", var "EXTEN", text "@", var "TRUNK"] 60
      (some ("headers", "add_uuid"))),
    run (.hangup none)]

def defaultExtens : List Exten := [⟨.parts [.digit, .rest], defaultCall⟩]

/-! ### `[softphone-out]` -/

/-- `*43`. -/
def echoTest : List Step := [run .noOp, run .answer, run .echo, run (.hangup none)]

/-- `_X.`. -/
def softphoneCall : List Step :=
  [run .noOp,
    run (.setCaller .num [text "00919240292847"]),
    run (.setCaller .name [text "00919240292847"]),
    run (.dial [text "PJSIP/", var "EXTEN", text "@synchrovox_out"] 60 none),
    run (.hangup none)]

def softphoneOut : List Exten :=
  [⟨.exact "*43", echoTest⟩, ⟨.parts [.digit, .rest], softphoneCall⟩]

/-- The contexts of `extensions.conf`. -/
def extensions : Plan :=
  [("internal", internal), ("from-trunk", fromTrunk), ("headers", headers),
    ("default", defaultExtens), ("softphone-out", softphoneOut)]

/-! ### Numbers and extensions -/

variable {n m t u : Chars} {w : World} {c : Channel}

/-- At least two digits. -/
structure Number (n : Chars) : Prop where
  digits : n.all Char.isDigit = true
  length : 2 ≤ n.length

lemma Number.exists_cons (h : Number n) : ∃ a b l, n = a :: b :: l ∧ a.isDigit = true := by
  obtain ⟨hdigits, hlength⟩ := h
  match n, hlength with
  | a :: b :: l, _ => exact ⟨a, b, l, rfl, (Bool.and_eq_true _ _ ▸ hdigits).1⟩

lemma Number.plain (h : Number n) : Plain n := plain_of_isDigit h.digits

lemma ne_of_isDigit {a b : Char} (ha : a.isDigit = true) (hb : b.isDigit = false) : a ≠ b := by
  rintro rfl
  cases ha.symm.trans hb

lemma find_internal_number (h : Number n) (htest : n ≠ "8000000001".toList) :
    extensions.find "internal" n = some internalCall := by
  obtain ⟨a, b, l, rfl, ha⟩ := h.exists_cons
  have hp : a ≠ 'p' := ne_of_isDigit ha rfl
  have hi : a ≠ 'i' := ne_of_isDigit ha rfl
  have hx : 'x' ≤ a → ¬a ≤ 'x' := fun h₁ h₂ =>
    ne_of_isDigit ha (b := 'x') rfl (Char.le_antisymm h₂ h₁)
  show findExten internal (a :: b :: l) = _
  have hexact : internal.find? (fun e => e.pattern.isExact (a :: b :: l)) = none := by
    simp [internal, Pattern.isExact, hp, hi] at htest ⊢
    exact htest
  have hfilter : (internal.filter fun e => e.pattern.accepts (a :: b :: l)) =
      [⟨.parts [.digit, .rest], internalCall⟩] := by
    simp [internal, List.filter_cons, Pattern.accepts, matchesParts, PatternPart.accepts, ha]
    exact fun h₁ h₂ => absurd h₂ (hx h₁)
  rw [findExten, hexact, hfilter]

lemma find_default_number (h : Number n) : extensions.find "default" n = some defaultCall := by
  obtain ⟨a, b, l, rfl, ha⟩ := h.exists_cons
  show findExten defaultExtens (a :: b :: l) = _
  have hexact : defaultExtens.find? (fun e => e.pattern.isExact (a :: b :: l)) = none := by
    simp [defaultExtens, Pattern.isExact]
  have hfilter : (defaultExtens.filter fun e => e.pattern.accepts (a :: b :: l)) =
      [⟨.parts [.digit, .rest], defaultCall⟩] := by
    simp [defaultExtens, Pattern.accepts, matchesParts, PatternPart.accepts, ha]
  rw [findExten, hexact, hfilter]

/-- The user part of a `Refer-To` for a human. -/
def xfer (m : Chars) : Chars := "xfer".toList ++ m

lemma find_xfer (h : m ≠ []) : extensions.find "internal" (xfer m) = some humanTransfer := by
  obtain ⟨a, l, rfl⟩ := List.exists_cons_of_ne_nil h
  show findExten internal ('x' :: 'f' :: 'e' :: 'r' :: a :: l) = _
  have hexact : internal.find?
      (fun e => e.pattern.isExact ('x' :: 'f' :: 'e' :: 'r' :: a :: l)) = none := by
    simp [internal, Pattern.isExact]
  have hfilter : (internal.filter fun e => e.pattern.accepts ('x' :: 'f' :: 'e' :: 'r' :: a :: l)) =
      [⟨.parts [.oneOf [('x', 'x')], .literal 'f', .literal 'e', .literal 'r', .rest],
        humanTransfer⟩] := by
    simp [internal, Pattern.accepts, matchesParts, PatternPart.accepts]
  rw [findExten, hexact, hfilter]

/-! ### Values -/

variable {e v : Chars} {name : String}

lemma eval_var (hname : name ≠ "EXTEN") : evalTemplate w c e [var name] = some (c.get name) := by
  simp [evalTemplate, var, Piece.eval, Word.eval, hname]

lemma eval_nil : evalTemplate w c e [] = some [] := rfl

lemma free_nil (special : String) : free special [] = some [] := rfl

lemma isSet_eval (name : String) (hname : name ≠ "EXTEN") (h : Plain (c.get name)) :
    (isSet name).eval w c e = some (c.get name != []) := by
  have hfree : free "\"" (c.get name) = some (c.get name) := h.free (by decide)
  simp [isSet, Condition.eval, eval_var hname, eval_nil, hfree, free_nil]

lemma isEmpty_eval (name : String) (hname : name ≠ "EXTEN") (h : Plain (c.get name)) :
    (isEmpty name).eval w c e = some (c.get name == []) := by
  have hfree : free "\"" (c.get name) = some (c.get name) := h.free (by decide)
  simp [isEmpty, Condition.eval, eval_var hname, eval_nil, hfree, free_nil]

lemma eval_header : evalTemplate w c e [.pjsipHeader name] = some ((c.received name).getD []) := by
  simp [evalTemplate, Piece.eval]

lemma eval_realtime {family field column : String} (hname : name ≠ "EXTEN")
    (h : Plain (c.get name)) :
    evalTemplate w c e [.realtimeField family field (.var name) column] =
      some (((w.realtime family field (c.get name)).map fun row => row column).getD []) := by
  have hfree : free ",()[]\"\\" (c.get name) = some (c.get name) := h.free (by decide)
  simp [evalTemplate, Piece.eval, Word.eval, hname, hfree]

lemma eval_recording {a b : String} (hname : name ≠ "EXTEN") :
    evalTemplate w c e [text a, var name, text b] = some (a.toList ++ c.get name ++ b.toList) := by
  simp only [evalTemplate, text, var, Piece.eval, Word.eval, if_neg hname, Option.bind_eq_bind,
    Option.bind_some, List.append_nil, List.append_assoc]

lemma eval_destination {a b : String} (hname : name ≠ "EXTEN") :
    evalTemplate w c e [text a, var "EXTEN", text b, var name] =
      some (a.toList ++ e ++ b.toList ++ c.get name) := by
  simp only [evalTemplate, text, var, Piece.eval, Word.eval, if_neg hname, if_true,
    Option.bind_eq_bind, Option.bind_some, List.append_nil, List.append_assoc]

/-! ### Calls of a media server -/

/-- The column of the row that a trunk is. -/
def trunkColumn (w : World) (t : Chars) (column : String) : Chars :=
  ((w.realtime "ps_provider_dids" "id" t).map fun row => row column).getD []

/-- The subroutine that hands on the identifier of a call. -/
lemma addUuid_runs (hu : Plain (c.get "CALL_UUID")) :
    Runs extensions w ⟨"add_uuid".toList, addUuid⟩ addUuid c
      ⟨[], .returned, if c.get "CALL_UUID" = [] then c
        else c.addHeader "X-Call-UUID" (c.get "CALL_UUID")⟩ := by
  have hcond := isEmpty_eval (w := w) (e := "add_uuid".toList) _ (by decide) hu
  refine Runs.noOp ?_
  by_cases hempty : c.get "CALL_UUID" = []
  · rw [if_pos hempty]
    exact Runs.gotoIf_true (by rw [hcond, hempty]; rfl) rfl Runs.ret
  · rw [if_neg hempty]
    refine Runs.gotoIf_false (by rw [hcond]; simpa using hempty) ?_
    exact Runs.addHeader (eval_var (by decide)) Runs.ret

/-- Where the recording of a call is. -/
def recording (u : Chars) : Chars :=
  "/var/spool/asterisk/monitor/human-".toList ++ u ++ ".wav".toList

/-- A call that goes out for a number over a trunk: what is dialed and for whom, and what the
channel that is dialed has for its INVITE and for a later transfer. -/
structure GoesOut (w : World) (c : Channel) (n t u : Chars) (d : Dialed) : Prop where
  destination : d.destination = "PJSIP/".toList ++ n ++ "@".toList ++
    (if trunkColumn w t "provider_id" = [] then t else trunkColumn w t "provider_id")
  timeout : d.timeout = 60
  caller : d.caller = if trunkColumn w t "provider_id" = [] then c.caller
    else { c.caller with num := trunkColumn w t "did", name := trunkColumn w t "did" }
  headers : d.callee.added = if u = [] then [] else [("X-Call-UUID", u)]
  provider : d.callee.get "REFERPROVIDER" = trunkColumn w t "provider_id"
  did : d.callee.get "REFERDID" = trunkColumn w t "did"

/-- What is known of the values in a call that goes out. -/
structure PlainCall (w : World) (c : Channel) (n t u : Chars) : Prop where
  number : Number n
  trunk : c.received "X-Trunk" = some t
  nonempty : t ≠ []
  uuid : (c.received "X-Call-UUID").getD [] = u
  plainTrunk : Plain t
  plainUuid : Plain u
  plainProvider : Plain (trunkColumn w t "provider_id")

/-- The channel when the row of the trunk has been read. -/
def resolved (w : World) (c : Channel) (t u : Chars) : Channel :=
  ((((((c.set .none "TRUNK" t).set .once "CALL_UUID" u).set .none "PROVIDER"
    (trunkColumn w t "provider_id")).set .none "DID_NUMBER" (trunkColumn w t "did")).set .always
      "REFERPROVIDER" (trunkColumn w t "provider_id")).set .always "REFERDID"
        (trunkColumn w t "did"))

lemma jump_outbound (c : Channel) : extensions.jump ⟨n, defaultCall⟩ c (.label "outbound") =
    some (⟨n, defaultCall⟩, defaultCall.drop 5) := rfl

lemma jump_legacy (c : Channel) : extensions.jump ⟨n, defaultCall⟩ c (.label "legacy") =
    some (⟨n, defaultCall⟩, defaultCall.drop 18) := rfl

lemma PlainCall.runs_resolved (h : PlainCall w c n t u) {r : Result} (hr : Runs extensions w
      ⟨n, defaultCall⟩ (defaultCall.drop 12) (resolved w c t u) r) :
    Runs extensions w ⟨n, defaultCall⟩ defaultCall c (r.after (.recorded (recording u))) := by
  refine Runs.noOp (Runs.set (v := t) ?_ ?_)
  · rw [eval_header, h.trunk]
    rfl
  have htrunk : (c.set .none "TRUNK" t).get "TRUNK" = t := by simp
  refine Runs.gotoIf_true ?_ (jump_outbound _) (Runs.noOp (Runs.set (v := u) ?_ ?_))
  · rw [isSet_eval _ (by decide) (by rw [htrunk]; exact h.plainTrunk), htrunk]
    simpa using h.nonempty
  · rw [eval_header, Channel.received_set, h.uuid]
  refine Runs.mixMonitor (v := recording u) ?_ ?_
  · have hplain : Plain (recording u) :=
      (Plain.append (by decide) h.plainUuid).append (by decide)
    have hget : ((c.set .none "TRUNK" t).set .once "CALL_UUID" u).get "CALL_UUID" = u := by simp
    rw [eval_recording (by decide), hget]
    exact hplain.free (by decide)
  have hget : ((c.set .none "TRUNK" t).set .once "CALL_UUID" u).get "TRUNK" = t := by simp
  refine Runs.set (v := trunkColumn w t "provider_id") ?_ (Runs.set (v := trunkColumn w t "did") ?_
    (Runs.set (v := trunkColumn w t "provider_id") ?_
      (Runs.set (v := trunkColumn w t "did") ?_ ?_)))
  · rw [eval_realtime (by decide) (by rw [hget]; exact h.plainTrunk), hget]
    rfl
  · rw [eval_realtime (by decide) (by simpa using h.plainTrunk)]
    simp [trunkColumn]
  · rw [eval_var (by decide)]
    simp
  · rw [eval_var (by decide)]
    simp
  · exact hr

/-- A channel that is dialed with the identifier of a call. -/
def withUuid (c : Channel) (u : Chars) : Channel :=
  if u = [] then c else c.addHeader "X-Call-UUID" u

@[simp] lemma withUuid_get (c : Channel) (u : Chars) (b : String) :
    (withUuid c u).get b = c.get b := by
  rw [withUuid]
  split_ifs
  · rfl
  · exact Channel.get_addHeader c _ u b

lemma withUuid_added (c : Channel) (u : Chars) : (withUuid c.callee u).added =
    if u = [] then [] else [("X-Call-UUID", u)] := by
  rw [withUuid]
  split_ifs <;> rfl

lemma predialed_uuid (hu : c.callee.get "CALL_UUID" = u) (hplain : Plain u) :
    Predialed extensions w c (some ("headers", "add_uuid")) (withUuid c.callee u) := by
  subst hu
  exact .sub rfl (addUuid_runs hplain)

lemma plain_destination (hn : Number n) (ht : Plain t) :
    free ",&()[]\"\\" ("PJSIP/".toList ++ n ++ "@".toList ++ t) =
      some ("PJSIP/".toList ++ n ++ "@".toList ++ t) := by
  have hplain : Plain ("PJSIP/".toList ++ n ++ "@".toList ++ t) :=
    ((Plain.append (by decide) hn.plain).append (by decide)).append ht
  exact hplain.free (by decide)

/-- The call goes out, to the provider of the trunk if there is one. -/
lemma PlainCall.runs_default (h : PlainCall w c n t u) : ∃ d r, GoesOut w c n t u d ∧
    Runs extensions w ⟨n, defaultCall⟩ (defaultCall.drop 12) (resolved w c t u) r ∧
    r.actions = [.dialed d] ∧
    r.ending = if w.answers d.destination then .talked else .hungUp none := by
  have hprovider : (resolved w c t u).get "PROVIDER" = trunkColumn w t "provider_id" := by
    simp [resolved]
  have hcond := isEmpty_eval (w := w) (c := resolved w c t u) (e := n) "PROVIDER" (by decide)
    (by rw [hprovider]; exact h.plainProvider)
  rw [hprovider] at hcond
  by_cases hempty : trunkColumn w t "provider_id" = []
  · have hdest : (evalTemplate w (resolved w c t u) n
        [text "PJSIP/", var "EXTEN", text "@", var "TRUNK"]).bind (free ",&()[]\"\\") =
          some ("PJSIP/".toList ++ n ++ "@".toList ++ t) := by
      have htrunk : (resolved w c t u).get "TRUNK" = t := by simp [resolved]
      rw [eval_destination (by decide), htrunk]
      exact plain_destination h.number h.plainTrunk
    have huuid : (resolved w c t u).callee.get "CALL_UUID" = u := by simp [resolved]
    obtain ⟨r, hr, hactions, hending⟩ := Runs.dial_hangup ⟨n, defaultCall⟩
      (defaultCall.drop 19) rfl hdest (predialed_uuid huuid h.plainUuid)
    refine ⟨_, r, ?_, Runs.gotoIf_true (by rw [hcond, hempty]; rfl) (jump_legacy _)
      (Runs.noOp hr), hactions, hending⟩
    exact
      { destination := by rw [if_pos hempty]
        timeout := rfl
        caller := by rw [if_pos hempty]; rfl
        headers := withUuid_added _ u
        provider := by simp [resolved]
        did := by simp [resolved] }
  · have hdid : ((resolved w c t u).setCaller .num (trunkColumn w t "did")).get "DID_NUMBER" =
        trunkColumn w t "did" := by simp [resolved]
    have hdest : (evalTemplate w
        (((resolved w c t u).setCaller .num (trunkColumn w t "did")).setCaller
          .name (trunkColumn w t "did")) n
        [text "PJSIP/", var "EXTEN", text "@", var "PROVIDER"]).bind (free ",&()[]\"\\") =
          some ("PJSIP/".toList ++ n ++ "@".toList ++ trunkColumn w t "provider_id") := by
      rw [eval_destination (by decide), Channel.get_setCaller, Channel.get_setCaller, hprovider]
      exact plain_destination h.number h.plainProvider
    have huuid : (((resolved w c t u).setCaller .num (trunkColumn w t "did")).setCaller
        .name (trunkColumn w t "did")).callee.get "CALL_UUID" = u := by simp [resolved]
    obtain ⟨r, hr, hactions, hending⟩ := Runs.dial_hangup ⟨n, defaultCall⟩
      (defaultCall.drop 16) rfl hdest (predialed_uuid huuid h.plainUuid)
    refine ⟨_, r, ?_, Runs.gotoIf_false (by rw [hcond]; simpa using hempty) (Runs.noOp
      (Runs.setCaller (v := trunkColumn w t "did") ?_
        (Runs.setCaller (v := trunkColumn w t "did") ?_ hr))), hactions, hending⟩
    · exact
        { destination := by rw [if_neg hempty]
          timeout := rfl
          caller := by rw [if_neg hempty]; rfl
          headers := withUuid_added _ u
          provider := by simp [resolved]
          did := by simp [resolved] }
    · rw [eval_var (by decide)]
      simp [resolved]
    · rw [eval_var (by decide), hdid]

lemma PlainCall.runs_internal (h : PlainCall w c n t u) : ∃ d r, GoesOut w c n t u d ∧
    Runs extensions w ⟨n, internalCall⟩ internalCall c r ∧
    r.actions = [.recorded (recording u), .dialed d] ∧
    r.ending = if w.answers d.destination then .talked else .hungUp none := by
  have htrunk : (c.set .none "TRUNK" t).get "TRUNK" = t := by simp
  have hset : PlainCall w (c.set .none "TRUNK" t) n t u :=
    ⟨h.number, h.trunk, h.nonempty, h.uuid, h.plainTrunk, h.plainUuid, h.plainProvider⟩
  obtain ⟨d, r, hd, hr, hactions, hending⟩ := hset.runs_default
  have hjump : extensions.jump ⟨n, internalCall⟩ (c.set .none "TRUNK" t)
      (.exten "default" (.var "EXTEN")) = some (⟨n, defaultCall⟩, defaultCall) := by
    have hfree : free ",:?()[]\"\\" n = some n :=
      free_of_isDigit h.number.digits (by decide)
    simp [Plan.jump, Word.eval, hfree, find_default_number h.number]
  refine ⟨d, _, ⟨hd.destination, hd.timeout, hd.caller, hd.headers, hd.provider, hd.did⟩,
    Runs.noOp (Runs.set (v := t) ?_ (Runs.gotoIf_true ?_ hjump (hset.runs_resolved hr))), ?_,
    hending⟩
  · rw [eval_header, h.trunk]
    rfl
  · rw [isSet_eval _ (by decide) (by rw [htrunk]; exact h.plainTrunk), htrunk]
    simpa using h.nonempty
  · simp [Result.after, hactions]

/-- A call that a media server places goes out once, to the provider of its trunk with the number of
the DID as the caller, or to what its trunk names if there is no such row. -/
theorem outbound_call (h : PlainCall w c n t u) (htest : n ≠ "8000000001".toList) :
    ∃ d r k, (∀ m, k ≤ m → extensions.run w m "internal" n c = some r) ∧ GoesOut w c n t u d ∧
      r.actions = [.recorded (recording u), .dialed d] ∧
      r.ending = if w.answers d.destination then .talked else .hungUp none := by
  obtain ⟨d, r, hd, ⟨m, hrun⟩, hactions, hending⟩ := h.runs_internal
  obtain ⟨k, hk⟩ := eventually_run (find_internal_number h.number htest) hrun
  exact ⟨d, r, k, hk, hd, hactions, hending⟩

/-- The columns of a row. -/
def sampleRow (l : List (String × String)) (column : String) : Chars :=
  ((l.lookup column).getD "").toList

/-- The rows of a provider with one DID, to which it registers. -/
def sampleRows : List (String × List (String × String)) :=
  [("ps_provider_dids", [("id", "7"), ("provider_id", "tata"), ("did", "00919240292847")]),
    ("ps_registrations", [("endpoint", "tata"), ("contact_user", "919240")])]

def sampleWorld : World where
  realtime family field value :=
    (sampleRows.find? fun r => r.1 = family && sampleRow r.2 field = value).map fun r =>
      sampleRow r.2
  curl _ := "PJSIP/media-1/sip:media-1@10.0.0.1:5060".toList
  answers _ := true

def sampleUuid : Chars := "0f8fad5b-d9cb".toList

/-- The channel of a call that a media server places over the DID of `sampleWorld`. -/
def sampleChannel : Channel where
  vars := []
  caller := ⟨[], [], []⟩
  received name :=
    if name = "X-Trunk" then some "7".toList
    else if name = "X-Call-UUID" then some sampleUuid
    else none
  added := []

lemma plain_sample :
    PlainCall sampleWorld sampleChannel "8005550100".toList "7".toList sampleUuid :=
  ⟨⟨by decide, by decide⟩, rfl, by decide, rfl, by decide, by decide, by decide⟩

theorem outbound_call_sample : ∃ d r k,
    (∀ m, k ≤ m →
      extensions.run sampleWorld m "internal" "8005550100".toList sampleChannel = some r) ∧
    GoesOut sampleWorld sampleChannel "8005550100".toList "7".toList sampleUuid d ∧
    r.actions = [.recorded (recording sampleUuid), .dialed d] ∧
    r.ending = if sampleWorld.answers d.destination then .talked else .hungUp none :=
  outbound_call plain_sample (by decide)

/-! ### Transfers to a human -/

/-- The provider that a transfer takes. -/
def transferProvider (provider : Chars) : Chars :=
  if provider = [] then "synchrovox_out".toList else provider

/-- The caller of a transfer. -/
def transferCaller (provider did : Chars) : Chars :=
  if provider = [] then "00919240292847".toList else did

lemma jump_go (e : Chars) (c : Channel) : extensions.jump ⟨e, humanTransfer⟩ c (.label "go") =
    some (⟨e, humanTransfer⟩, humanTransfer.drop 4) := rfl

lemma runs_go {e : Chars} (he : (e.drop 4).all Char.isDigit = true)
    (hplain : Plain (c.get "REFERPROVIDER")) : ∃ d r,
    Runs extensions w ⟨e, humanTransfer⟩ (humanTransfer.drop 4) c r ∧
    r.actions = [.dialed d] ∧
    r.ending = (if w.answers d.destination then .talked else .hungUp none) ∧
    d.destination = "PJSIP/".toList ++ e.drop 4 ++ "@".toList ++ c.get "REFERPROVIDER" ∧
    d.timeout = 120 ∧
    d.caller = { c.caller with num := c.get "REFERDID", name := c.get "REFERDID" } := by
  have hdest : (evalTemplate w ((c.setCaller .num (c.get "REFERDID")).setCaller .name
      (c.get "REFERDID")) e [text "PJSIP/", .word (.drop "EXTEN" 4), text "@",
        var "REFERPROVIDER"]).bind (free ",&()[]\"\\") =
      some ("PJSIP/".toList ++ e.drop 4 ++ "@".toList ++ c.get "REFERPROVIDER") := by
    have hvalue : Plain ("PJSIP/".toList ++ e.drop 4 ++ "@".toList ++ c.get "REFERPROVIDER") :=
      ((Plain.append (by decide) (plain_of_isDigit he)).append (by decide)).append hplain
    have heval : evalTemplate w ((c.setCaller .num (c.get "REFERDID")).setCaller .name
        (c.get "REFERDID")) e [text "PJSIP/", .word (.drop "EXTEN" 4), text "@",
          var "REFERPROVIDER"] =
        some ("PJSIP/".toList ++ e.drop 4 ++ "@".toList ++ c.get "REFERPROVIDER") := by
      simp only [evalTemplate, text, var, Piece.eval, Word.eval, if_true, Option.bind_eq_bind,
        Option.bind_some, List.append_nil, List.append_assoc, Channel.get_setCaller]
      rfl
    rw [heval]
    exact hvalue.free (by decide)
  obtain ⟨r, hr, hactions, hending⟩ := Runs.dial_hangup ⟨e, humanTransfer⟩
    (humanTransfer.drop 6) rfl hdest Predialed.none
  refine ⟨_, r, Runs.setCaller (v := c.get "REFERDID") (eval_var (by decide))
    (Runs.setCaller (v := c.get "REFERDID") ?_ hr), hactions, hending, rfl, rfl, rfl⟩
  rw [eval_var (by decide), Channel.get_setCaller]

/-- A transfer dials the second human over the trunk that the channel brings along, or over a fixed
one. -/
lemma runs_transfer {e : Chars} (he : (e.drop 4).all Char.isDigit = true)
    (hplain : Plain (c.get "REFERPROVIDER")) : ∃ d r,
    Runs extensions w ⟨e, humanTransfer⟩ humanTransfer c r ∧
    r.actions = [.dialed d] ∧
    r.ending = (if w.answers d.destination then .talked else .hungUp none) ∧
    d.destination = "PJSIP/".toList ++ e.drop 4 ++ "@".toList ++
      transferProvider (c.get "REFERPROVIDER") ∧
    d.timeout = 120 ∧
    d.caller = { c.caller with
      num := transferCaller (c.get "REFERPROVIDER") (c.get "REFERDID")
      name := transferCaller (c.get "REFERPROVIDER") (c.get "REFERDID") } := by
  have hcond := isSet_eval (w := w) (c := c) (e := e) "REFERPROVIDER" (by decide) hplain
  by_cases hempty : c.get "REFERPROVIDER" = []
  · have hset := @runs_go w ((c.set .none "REFERPROVIDER" "synchrovox_out".toList).set .none
      "REFERDID" "00919240292847".toList) e he (by
        rw [Channel.get_set, if_neg (by decide), Channel.get_set, if_pos rfl]
        decide)
    obtain ⟨d, r, hr, hactions, hending, hdest, htime, hcaller⟩ := hset
    refine ⟨d, r, Runs.noOp (Runs.gotoIf_false (by rw [hcond, hempty]; rfl)
      (Runs.set (v := "synchrovox_out".toList) rfl
        (Runs.set (v := "00919240292847".toList) rfl hr))), hactions, hending, ?_, htime, ?_⟩
    · rw [hdest, transferProvider, if_pos hempty, Channel.get_set, if_neg (by decide),
        Channel.get_set, if_pos rfl]
    · rw [hcaller, transferCaller, if_pos hempty, Channel.get_set, if_pos rfl]
      rfl
  · obtain ⟨d, r, hr, hactions, hending, hdest, htime, hcaller⟩ := runs_go (w := w) he hplain
    refine ⟨d, r, Runs.noOp (Runs.gotoIf_true (by rw [hcond]; simpa using hempty) (jump_go e c) hr),
      hactions, hending, ?_, htime, ?_⟩
    · rw [hdest, transferProvider, if_neg hempty]
    · rw [hcaller, transferCaller, if_neg hempty]

/-- The channel of a first human who was called over a trunk takes the provider and the number of
that trunk to the second one, whatever the tables hold by then; a trunk without a row does not. -/
theorem transfer_over_trunk (h : PlainCall w c n t u) (htest : n ≠ "8000000001".toList)
    (hm : m.all Char.isDigit = true) (hne : m ≠ []) (w' : World) :
    ∃ d r k d' r' k', (∀ i, k ≤ i → extensions.run w i "internal" n c = some r) ∧
      r.actions = [.recorded (recording u), .dialed d] ∧
      (∀ i, k' ≤ i → extensions.run w' i "internal" (xfer m) d.callee = some r') ∧
      r'.actions = [.dialed d'] ∧
      d'.destination = "PJSIP/".toList ++ m ++ "@".toList ++
        transferProvider (trunkColumn w t "provider_id") ∧
      d'.caller.num = transferCaller (trunkColumn w t "provider_id") (trunkColumn w t "did") ∧
      d'.caller.name = transferCaller (trunkColumn w t "provider_id") (trunkColumn w t "did") := by
  obtain ⟨d, r, hd, ⟨j, hrun⟩, hactions, -⟩ := h.runs_internal
  obtain ⟨k, hk⟩ := eventually_run (find_internal_number h.number htest) hrun
  have hplain : Plain (d.callee.get "REFERPROVIDER") := by
    rw [hd.provider]
    exact h.plainProvider
  have hdrop : (xfer m).drop 4 = m := rfl
  obtain ⟨d', r', ⟨j', hrun'⟩, hactions', -, hdest, -, hcaller⟩ :=
    runs_transfer (w := w') (e := xfer m) (by rw [hdrop]; exact hm) hplain
  obtain ⟨k', hk'⟩ := eventually_run (find_xfer hne) hrun'
  rw [hd.provider, hd.did] at hcaller
  rw [hd.provider, hdrop] at hdest
  exact ⟨d, r, k, d', r', k', hk, hactions, hk', hactions', hdest, by rw [hcaller], by rw [hcaller]⟩

theorem transfer_over_trunk_sample : ∃ d r k d' r' k',
    (∀ i, k ≤ i →
      extensions.run sampleWorld i "internal" "8005550100".toList sampleChannel = some r) ∧
    r.actions = [.recorded (recording sampleUuid), .dialed d] ∧
    (∀ i, k' ≤ i → extensions.run sampleWorld i "internal" (xfer "8005550199".toList) d.callee =
      some r') ∧
    r'.actions = [.dialed d'] ∧
    d'.destination = "PJSIP/".toList ++ "8005550199".toList ++ "@".toList ++
      transferProvider (trunkColumn sampleWorld "7".toList "provider_id") ∧
    d'.caller.num = transferCaller (trunkColumn sampleWorld "7".toList "provider_id")
      (trunkColumn sampleWorld "7".toList "did") ∧
    d'.caller.name = transferCaller (trunkColumn sampleWorld "7".toList "provider_id")
      (trunkColumn sampleWorld "7".toList "did") :=
  transfer_over_trunk plain_sample (by decide) (by decide) (by decide) sampleWorld

/-! ### Calls from a trunk -/

/-- A column of the first row of a family with a value in a field; empty without such a row. -/
def column (w : World) (family field : String) (value : Chars) (name : String) : Chars :=
  ((w.realtime family field value).map fun row => row name).getD []

/-- What a number is looked up as. -/
def inboundKey (e : Chars) : Chars := if e.take 3 = "10#".toList then e.drop 3 else e

/-- The provider of the registration with a name. -/
def registered (w : World) (key : Chars) : Chars :=
  column w "ps_registrations" "contact_user" key "endpoint"

/-- The trunk and the DID of the first row of a provider. -/
def sharedRow (w : World) (provider : Chars) : Option (Chars × Chars) :=
  if provider = [] ∨ column w "ps_provider_dids" "provider_id" provider "id" = [] then none
  else some (column w "ps_provider_dids" "provider_id" provider "id",
    column w "ps_provider_dids" "provider_id" provider "did")

/-- The trunk and the DID of a key: its own row if it is a DID, the row of its provider if it is the
name of a registration. -/
def inboundRow (w : World) (key : Chars) : Option (Chars × Chars) :=
  if column w "ps_provider_dids" "did" key "id" ≠ [] then
    some (column w "ps_provider_dids" "did" key "id", key)
  else sharedRow w (registered w key)

/-- An extension of `[from-trunk]`. -/
structure FromTrunk (e : Chars) : Prop where
  first : ∃ a b l, e = a :: b :: l ∧ (a.isDigit = true ∨ a = '#')
  plain : Plain e

lemma find_fromTrunk (h : FromTrunk e) : extensions.find "from-trunk" e = some incomingCall := by
  obtain ⟨⟨a, b, l, rfl, ha⟩, -⟩ := h
  show findExten fromTrunk (a :: b :: l) = _
  have hexact : fromTrunk.find? (fun x => x.pattern.isExact (a :: b :: l)) = none := rfl
  have hfirst : PatternPart.accepts a (.oneOf [('0', '9'), ('#', '#')]) = true := by
    rcases ha with ha | rfl
    · simp only [Char.isDigit, Bool.and_eq_true, decide_eq_true_eq] at ha
      simp only [PatternPart.accepts, List.any_cons, Char.le_def, ha.1, ha.2, decide_true,
        Bool.and_self, Bool.true_or]
    · decide
  have hfilter : (fromTrunk.filter fun x => x.pattern.accepts (a :: b :: l)) =
      [⟨.parts [.oneOf [('0', '9'), ('#', '#')], .rest], incomingCall⟩] := by
    simp [fromTrunk, Pattern.accepts, matchesParts, hfirst]
  rw [findExten, hexact, hfilter]

/-- What is asked for a container. -/
def contactUrl : String := "http://localhost:8000/get-inbound-contact/asterisk"

/-- What is known of the values in a call from a trunk. -/
structure PlainInbound (w : World) (e : Chars) : Prop where
  exten : FromTrunk e
  own : Plain (column w "ps_provider_dids" "did" (inboundKey e) "id")
  provider : Plain (registered w (inboundKey e))
  shared : Plain (column w "ps_provider_dids" "provider_id" (registered w (inboundKey e)) "id")
  target : Plain (w.curl contactUrl)

lemma jump_striphash (c : Channel) : extensions.jump ⟨e, incomingCall⟩ c (.label "striphash") =
    some (⟨e, incomingCall⟩, incomingCall.drop 4) := rfl

lemma jump_normalized (c : Channel) : extensions.jump ⟨e, incomingCall⟩ c (.label "normalized") =
    some (⟨e, incomingCall⟩, incomingCall.drop 5) := rfl

lemma jump_routed (c : Channel) : extensions.jump ⟨e, incomingCall⟩ c (.label "routed") =
    some (⟨e, incomingCall⟩, incomingCall.drop 14) := rfl

lemma jump_notfound (c : Channel) : extensions.jump ⟨e, incomingCall⟩ c (.label "notfound") =
    some (⟨e, incomingCall⟩, incomingCall.drop 22) := rfl

lemma jump_lbFailed (c : Channel) : extensions.jump ⟨e, incomingCall⟩ c (.label "lb_failed") =
    some (⟨e, incomingCall⟩, incomingCall.drop 24) := rfl

variable {r : Result} {trunk did : Chars}

lemma plain_take (h : Plain e) (k : ℕ) : Plain (e.take k) :=
  fun x hx => h x (List.mem_of_mem_take hx)

lemma plain_drop (h : Plain e) (k : ℕ) : Plain (e.drop k) :=
  fun x hx => h x (List.mem_of_mem_drop hx)

lemma plain_inboundKey (h : Plain e) : Plain (inboundKey e) := by
  rw [inboundKey]
  split_ifs
  · exact plain_drop h 3
  · exact h

/-- The prefix is taken off. -/
lemma runs_key (he : Plain e) (hr : Runs extensions w ⟨e, incomingCall⟩ (incomingCall.drop 5)
      (c.set .once "INBOUND_KEY" (inboundKey e)) r) :
    Runs extensions w ⟨e, incomingCall⟩ incomingCall c r := by
  have hfree : free "\"" (e.take 3) = some (e.take 3) := (plain_take he 3).free (by decide)
  have hcond : Condition.eval w c e (.eq [.word (.take "EXTEN" 3)] [text "10#"]) =
      some (e.take 3 == "10#".toList) := by
    have hword : evalTemplate w c e [.word (.take "EXTEN" 3)] = some (e.take 3) := by
      simp [evalTemplate, Piece.eval, Word.eval]
    have htext : (evalTemplate w c e [text "10#"]).bind (free "\"") = some "10#".toList := rfl
    rw [Condition.eval, hword, htext, Option.bind_some, hfree]
    rfl
  by_cases hprefix : e.take 3 = "10#".toList
  · rw [inboundKey, if_pos hprefix] at hr
    refine Runs.noOp (Runs.gotoIf_true (by rw [hcond, hprefix]; rfl) (jump_striphash c)
      (Runs.set (v := e.drop 3) ?_ hr))
    simp [evalTemplate, Piece.eval, Word.eval]
  · rw [inboundKey, if_neg hprefix] at hr
    refine Runs.noOp (Runs.gotoIf_false (by rw [hcond]; simpa using hprefix)
      (Runs.set (v := e) ?_ (Runs.goto (jump_normalized _) hr)))
    simp [evalTemplate, var, Piece.eval, Word.eval]

/-- The headers of the INVITE to a container. -/
lemma addHeaders_runs : Runs extensions w ⟨"add".toList, addHeaders⟩ addHeaders c
    ⟨[], .returned, (c.addHeader "X-To-Number" (c.get "ORIGINAL_EXTEN")).addHeader "X-Trunk"
      (c.get "CLEAN_TRUNK")⟩ :=
  Runs.noOp (Runs.addHeader (eval_var (by decide)) (Runs.addHeader (eval_var (by decide)) Runs.ret))

/-- A call that comes in: what is dialed, and what its INVITE says of the call. -/
structure ComesIn (w : World) (c : Channel) (trunk did : Chars) (d : Dialed) : Prop where
  destination : d.destination = w.curl contactUrl
  timeout : d.timeout = 60
  caller : d.caller = { c.caller with dnid := did }
  headers : d.callee.added = [("X-To-Number", did), ("X-Trunk", trunk)]

/-- What is done with a call whose trunk and DID are known. -/
def Routed (w : World) (c : Channel) (trunk did : Chars) (r : Result) : Prop :=
  if w.curl contactUrl = [] then r.actions = [] ∧ r.ending = .hungUp (some 41)
  else ∃ d, ComesIn w c trunk did d ∧ r.actions = [.dialed d] ∧
    r.ending = if w.answers d.destination then .talked else .hungUp none

lemma runs_routed (c' : Channel) (trunk did : Chars) (hcaller : c'.caller = c.caller)
    (htarget : Plain (w.curl contactUrl)) (hdid : c'.get "RESOLVED_DID" = did)
    (htrunk : c'.callee.get "CLEAN_TRUNK" = trunk) : ∃ r,
    Runs extensions w ⟨e, incomingCall⟩ (incomingCall.drop 14) c' r ∧ Routed w c trunk did r := by
  have hurl : evalTemplate w (((c'.set .once "ORIGINAL_EXTEN" did).setCaller .dnid did)) e
      [.curl contactUrl] = some (w.curl contactUrl) := by
    simp [evalTemplate, Piece.eval]
  have hget : ((((c'.set .once "ORIGINAL_EXTEN" did).setCaller .dnid did).set .none "TARGET_URI"
      (w.curl contactUrl))).get "TARGET_URI" = w.curl contactUrl := by simp
  have hcond := isEmpty_eval (w := w) (e := e) "TARGET_URI" (by decide)
    (by rw [hget]; exact htarget)
  rw [hget] at hcond
  have hstart : ∀ r, Runs extensions w ⟨e, incomingCall⟩ (incomingCall.drop 18)
      (((c'.set .once "ORIGINAL_EXTEN" did).setCaller .dnid did).set .none "TARGET_URI"
        (w.curl contactUrl)) r →
      Runs extensions w ⟨e, incomingCall⟩ (incomingCall.drop 14) c' r := by
    intro r hr
    refine Runs.set (v := did) (by rw [eval_var (by decide), hdid]) (Runs.setCaller (v := did) ?_
      (Runs.noOp (Runs.set hurl hr)))
    rw [eval_var (by decide), Channel.get_set, if_neg (by decide), hdid]
  by_cases hempty : w.curl contactUrl = []
  · refine ⟨_, hstart _ (Runs.gotoIf_true (by rw [hcond, hempty]; rfl) (jump_lbFailed _)
      (Runs.noOp Runs.hangup)), ?_⟩
    rw [Routed, if_pos hempty]
    exact ⟨rfl, rfl⟩
  · have hdest : (evalTemplate w (((c'.set .once "ORIGINAL_EXTEN" did).setCaller .dnid did).set
        .none "TARGET_URI" (w.curl contactUrl)) e [var "TARGET_URI"]).bind (free ",&()[]\"\\") =
        some (w.curl contactUrl) := by
      rw [eval_var (by decide), hget]
      exact htarget.free (by decide)
    obtain ⟨r, hr, hactions, hending⟩ := Runs.dial_hangup ⟨e, incomingCall⟩
      (incomingCall.drop 20) rfl hdest (.sub rfl addHeaders_runs)
    refine ⟨r, hstart r (Runs.gotoIf_false (by rw [hcond]; simpa using hempty) (Runs.noOp hr)), ?_⟩
    rw [Routed, if_neg hempty]
    refine ⟨_, ⟨rfl, rfl, ?_, ?_⟩, hactions, hending⟩
    · simp only [Channel.set, Channel.setCaller, hcaller]
    · simp [Channel.addHeader, htrunk]
      rfl

lemma runs_notfound : Runs extensions w ⟨e, incomingCall⟩ (incomingCall.drop 22) c
    ⟨[], .hungUp (some 1), c⟩ := Runs.noOp Runs.hangup

/-- The channel when its key has been looked up as a DID. -/
def lookedUp (w : World) (c : Channel) (key : Chars) : Channel :=
  ((c.set .once "INBOUND_KEY" key).set .once "CLEAN_TRUNK"
    (column w "ps_provider_dids" "did" key "id")).set .once "RESOLVED_DID" key

lemma runs_lookedUp (hkey : Plain (inboundKey e))
    (hr : Runs extensions w ⟨e, incomingCall⟩ (incomingCall.drop 8)
      (lookedUp w c (inboundKey e)) r) :
    Runs extensions w ⟨e, incomingCall⟩ (incomingCall.drop 5)
      (c.set .once "INBOUND_KEY" (inboundKey e)) r := by
  have hget : (c.set .once "INBOUND_KEY" (inboundKey e)).get "INBOUND_KEY" = inboundKey e := by simp
  refine Runs.noOp (Runs.set (v := column w "ps_provider_dids" "did" (inboundKey e) "id") ?_
    (Runs.set (v := inboundKey e) ?_ hr))
  · rw [eval_realtime (by decide) (by rw [hget]; exact hkey), hget]
    rfl
  · rw [eval_var (by decide)]
    simp

/-- What is done with a call. -/
def Handled (w : World) (c : Channel) (row : Option (Chars × Chars)) (r : Result) : Prop :=
  match row with
  | none              => r.actions = [] ∧ r.ending = .hungUp (some 1)
  | some (trunk, did) => Routed w c trunk did r

/-- A key that is no DID: the row of the provider of a registration. -/
lemma runs_registration (h : PlainInbound w e) : ∃ r,
    Runs extensions w ⟨e, incomingCall⟩ (incomingCall.drop 9) (lookedUp w c (inboundKey e)) r ∧
    Handled w c (sharedRow w (registered w (inboundKey e))) r := by
  have hprovider := h.provider
  have hshared := h.shared
  have hkey : (lookedUp w c (inboundKey e)).get "INBOUND_KEY" = inboundKey e := by simp [lookedUp]
  have hset : evalTemplate w (lookedUp w c (inboundKey e)) e
      [.realtimeField "ps_registrations" "contact_user" (.var "INBOUND_KEY") "endpoint"] =
        some (registered w (inboundKey e)) := by
    rw [eval_realtime (by decide) (by rw [hkey]; exact plain_inboundKey h.exten.plain), hkey]
    rfl
  generalize registered w (inboundKey e) = provider at hprovider hshared hset ⊢
  have hget : ((lookedUp w c (inboundKey e)).set .once "PROVIDER" provider).get "PROVIDER" =
      provider := by simp
  have hcond := isEmpty_eval (w := w) (e := e) "PROVIDER" (by decide)
    (by rw [hget]; exact hprovider)
  rw [hget] at hcond
  by_cases hempty : provider = []
  · refine ⟨_, Runs.set hset (Runs.gotoIf_true (by rw [hcond, hempty]; rfl) (jump_notfound _)
      runs_notfound), ?_⟩
    rw [sharedRow, if_pos (Or.inl hempty)]
    exact ⟨rfl, rfl⟩
  · have hid : evalTemplate w ((lookedUp w c (inboundKey e)).set .once "PROVIDER" provider) e
        [.realtimeField "ps_provider_dids" "provider_id" (.var "PROVIDER") "id"] =
          some (column w "ps_provider_dids" "provider_id" provider "id") := by
      rw [eval_realtime (by decide) (by rw [hget]; exact hprovider), hget]
      rfl
    generalize htrunk : column w "ps_provider_dids" "provider_id" provider "id" = trunk
      at hid hshared
    have hdid : evalTemplate w (((lookedUp w c (inboundKey e)).set .once "PROVIDER" provider).set
        .once "CLEAN_TRUNK" trunk) e
        [.realtimeField "ps_provider_dids" "provider_id" (.var "PROVIDER") "did"] =
          some (column w "ps_provider_dids" "provider_id" provider "did") := by
      rw [eval_realtime (by decide) (by simpa using hprovider)]
      simp [column]
    have hclean : ((((lookedUp w c (inboundKey e)).set .once "PROVIDER" provider).set .once
        "CLEAN_TRUNK" trunk).set .once "RESOLVED_DID"
          (column w "ps_provider_dids" "provider_id" provider "did")).get "CLEAN_TRUNK" =
        trunk := by
      simp
    have hcond' := isEmpty_eval (w := w) (e := e) "CLEAN_TRUNK" (by decide)
      (by rw [hclean]; exact hshared)
    rw [hclean] at hcond'
    by_cases hnone : trunk = []
    · refine ⟨_, Runs.set hset (Runs.gotoIf_false (by rw [hcond]; simpa using hempty)
        (Runs.set hid (Runs.set hdid (Runs.gotoIf_true (by rw [hcond', hnone]; rfl)
          (jump_notfound _) runs_notfound)))), ?_⟩
      rw [sharedRow, if_pos (Or.inr (by rw [htrunk, hnone]))]
      exact ⟨rfl, rfl⟩
    · obtain ⟨r, hr, hrouted⟩ := runs_routed (w := w) (c := c) (e := e)
        ((((lookedUp w c (inboundKey e)).set .once "PROVIDER" provider).set .once
          "CLEAN_TRUNK" trunk).set .once "RESOLVED_DID"
            (column w "ps_provider_dids" "provider_id" provider "did")) trunk
        (column w "ps_provider_dids" "provider_id" provider "did") rfl h.target (by simp) (by simp)
      refine ⟨r, Runs.set hset (Runs.gotoIf_false (by rw [hcond]; simpa using hempty)
        (Runs.set hid (Runs.set hdid (Runs.gotoIf_false (by rw [hcond']; simpa using hnone)
          hr)))), ?_⟩
      rw [sharedRow, htrunk, if_neg (by simp [hempty, hnone])]
      exact hrouted

/-- A key that is a DID, or not. -/
lemma runs_fromTrunk (h : PlainInbound w e) (c : Channel) : ∃ r,
    Runs extensions w ⟨e, incomingCall⟩ incomingCall c r ∧
      Handled w c (inboundRow w (inboundKey e)) r := by
  have hkey := plain_inboundKey h.exten.plain
  have hget : (lookedUp w c (inboundKey e)).get "CLEAN_TRUNK" =
      column w "ps_provider_dids" "did" (inboundKey e) "id" := by simp [lookedUp]
  have hcond := isSet_eval (w := w) (e := e) "CLEAN_TRUNK" (by decide)
    (by rw [hget]; exact h.own)
  rw [hget] at hcond
  rw [inboundRow]
  split_ifs with hown
  · have hdid : (lookedUp w c (inboundKey e)).get "RESOLVED_DID" = inboundKey e := by
      simp [lookedUp]
    have htrunk : (lookedUp w c (inboundKey e)).callee.get "CLEAN_TRUNK" =
        column w "ps_provider_dids" "did" (inboundKey e) "id" := by simp [lookedUp]
    obtain ⟨r, hr, hrouted⟩ := runs_routed (w := w) (c := c) (e := e)
      (lookedUp w c (inboundKey e)) _ _ rfl h.target hdid htrunk
    exact ⟨r, runs_key h.exten.plain (runs_lookedUp hkey
      (Runs.gotoIf_true (by rw [hcond]; simpa using hown) (jump_routed _) hr)), hrouted⟩
  · obtain ⟨r, hr, hhandled⟩ := runs_registration (c := c) h
    exact ⟨r, runs_key h.exten.plain (runs_lookedUp hkey
      (Runs.gotoIf_false (by rw [hcond]; simpa using hown) hr)), hhandled⟩

/-- A call from a trunk goes to the container that is asked for, with the trunk and the DID that its
number stands for in the headers; a number that stands for nothing is hung up and nothing is
dialed. -/
theorem inbound_call (h : PlainInbound w e) (c : Channel) : ∃ r k,
    (∀ m, k ≤ m → extensions.run w m "from-trunk" e c = some r) ∧
      Handled w c (inboundRow w (inboundKey e)) r := by
  obtain ⟨r, ⟨m, hrun⟩, hhandled⟩ := runs_fromTrunk h c
  obtain ⟨k, hk⟩ := eventually_run (find_fromTrunk h.exten) hrun
  exact ⟨r, k, hk, hhandled⟩

lemma plain_inbound_sample : PlainInbound sampleWorld "10#919240".toList :=
  ⟨⟨⟨'1', '0', "#919240".toList, rfl, Or.inl rfl⟩, by decide⟩, by decide +kernel,
    by decide +kernel, by decide +kernel, by decide +kernel⟩

theorem inbound_call_sample : ∃ r k,
    (∀ m, k ≤ m → extensions.run sampleWorld m "from-trunk" "10#919240".toList
      sampleChannel = some r) ∧
    Handled sampleWorld sampleChannel (inboundRow sampleWorld (inboundKey "10#919240".toList)) r :=
  inbound_call plain_inbound_sample sampleChannel

end Asterisk
