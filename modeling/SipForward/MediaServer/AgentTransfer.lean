import SipForward.MediaServer.WebSocketHandler

/-!
# The URI of an agent transfer

A transfer keeps the part of the URI up to `agent=` and the part after the id of the current agent,
and puts the id of the new agent between them. It looks for the current id in the whole URI, and
takes the first place where it finds it.
-/

namespace MediaServer.WebSocket

open Core

/-! ### The first occurrence -/

variable {pattern text rest : List Char} {n : ℕ}

lemma find_cons_of_match {c : Char} {cs : List Char} (h : pattern <+: c :: cs) :
    find pattern (c :: cs) = some 0 := by
  rw [find, if_pos (List.isPrefixOf_iff_prefix.mpr h)]

lemma find_cons_of_no_match {c : Char} {cs : List Char} (h : ¬pattern <+: c :: cs) :
    find pattern (c :: cs) = (find pattern cs).map (· + 1) := by
  rw [find, if_neg (mt List.isPrefixOf_iff_prefix.mp h)]

/-- `find` gives the first place at which the pattern stands. -/
lemma find_eq_some_iff (hpattern : pattern ≠ []) :
    find pattern text = some n ↔
      pattern <+: text.drop n ∧ ∀ m < n, ¬pattern <+: text.drop m := by
  induction text generalizing n with
  | nil => simp [find, hpattern]
  | cons c cs ih =>
    by_cases hhead : pattern <+: c :: cs
    · rw [find_cons_of_match hhead]
      constructor
      · rintro ⟨⟩
        exact ⟨hhead, fun m hm => absurd hm (Nat.not_lt_zero m)⟩
      · rintro ⟨-, hfirst⟩
        cases n with
        | zero => rfl
        | succ n => exact absurd hhead (hfirst 0 (Nat.succ_pos n))
    · rw [find_cons_of_no_match hhead]
      cases n with
      | zero => simp [hhead]
      | succ n =>
        rw [Option.map_eq_some_iff]
        constructor
        · rintro ⟨k, hk, hkn⟩
          obtain rfl : k = n := Nat.succ.inj hkn
          obtain ⟨hplace, hfirst⟩ := ih.mp hk
          refine ⟨hplace, fun m hm => ?_⟩
          cases m with
          | zero => exact hhead
          | succ m => exact hfirst m (Nat.lt_of_succ_lt_succ hm)
        · rintro ⟨hplace, hfirst⟩
          refine ⟨n, ih.mpr ⟨hplace, fun m hm => ?_⟩, rfl⟩
          exact hfirst (m + 1) (Nat.succ_lt_succ hm)

lemma find_le (hpattern : pattern ≠ []) (h : find pattern text = some n) :
    n + pattern.length ≤ text.length := by
  obtain ⟨hplace, -⟩ := (find_eq_some_iff hpattern).mp h
  have hlength := hplace.length_le
  have hpos := List.length_pos_of_ne_nil hpattern
  rw [List.length_drop] at hlength
  omega

/-- A text that is longer has its first occurrence at the same place. -/
lemma find_append (hpattern : pattern ≠ []) (h : find pattern text = some n)
    (rest : List Char) : find pattern (text ++ rest) = some n := by
  have hle := find_le hpattern h
  obtain ⟨hplace, hfirst⟩ := (find_eq_some_iff hpattern).mp h
  rw [find_eq_some_iff hpattern]
  constructor
  · rw [List.drop_append_of_le_length (by omega)]
    exact hplace.trans (List.prefix_append _ _)
  · intro m hm hplace'
    refine hfirst m hm ?_
    rw [List.drop_append_of_le_length (by omega)] at hplace'
    refine List.prefix_of_prefix_length_le hplace' (List.prefix_append _ _) ?_
    rw [List.length_drop]
    omega

/-- What is not found does not stand anywhere. -/
lemma not_prefix_of_find_eq_none (hpattern : pattern ≠ []) (h : find pattern text = none) (m : ℕ) :
    ¬pattern <+: text.drop m := by
  induction m using Nat.strongRecOn with
  | ind m ih =>
    intro hplace
    have hfound := (find_eq_some_iff hpattern).mpr ⟨hplace, ih⟩
    rw [h] at hfound
    cases hfound

/-- A text that ends with the pattern has an occurrence. -/
lemma exists_find (hpattern : pattern ≠ []) (text : List Char) :
    ∃ n ≤ text.length, find pattern (text ++ pattern) = some n := by
  cases h : find pattern (text ++ pattern) with
  | none => exact absurd (by simp) (not_prefix_of_find_eq_none hpattern h text.length)
  | some n =>
    have hle := find_le hpattern h
    rw [List.length_append] at hle
    exact ⟨n, by omega, rfl⟩

/-! ### The parts of the URI -/

/-- The URI of an agent. -/
def agentWsUri (front agentId rest : String) : String :=
  front ++ "agent=" ++ agentId ++ "_" ++ rest

lemma agentWsUri_toList (front agentId rest : String) :
    (agentWsUri front agentId rest).toList =
      (front.toList ++ "agent=".toList ++ agentId.toList) ++ '_' :: rest.toList := by
  simp [agentWsUri]

lemma agentWsUri_front (front agentId rest : String) :
    (agentWsUri front agentId rest).toList.take (front.toList.length + 6) =
      front.toList ++ "agent=".toList := by
  rw [agentWsUri_toList, List.append_assoc, List.take_append_of_le_length (by simp)]
  exact List.take_of_length_le (by simp)

lemma length_agentWsUri (front agentId rest : String) :
    (agentWsUri front agentId rest).toList.length =
      front.toList.length + 6 + agentId.length + 1 + rest.toList.length := by
  rw [agentWsUri_toList, ← String.length_toList (s := agentId)]
  simp
  omega

lemma agentWsUri_rest (front agentId rest : String) :
    (agentWsUri front agentId rest).toList.drop
      (front.toList.length + 6 + agentId.length + 1) = rest.toList := by
  have hhead : (front.toList ++ "agent=".toList ++ agentId.toList).length =
      front.toList.length + 6 + agentId.length := by
    rw [← String.length_toList (s := agentId)]
    simp
    omega
  rw [agentWsUri_toList, ← hhead, List.drop_length_add_append]
  rfl

/-- `agent=` does not overlap itself, so that it is found where it stands. -/
lemma find_agent {front : List Char} (hfront : find "agent=".toList front = none)
    (rest : List Char) : find "agent=".toList (front ++ "agent=".toList ++ rest) =
      some front.length := by
  have hpattern : "agent=".toList ≠ [] := by decide
  rw [find_eq_some_iff hpattern]
  refine ⟨by simp, fun m hm hplace => ?_⟩
  rw [List.append_assoc, List.drop_append_of_le_length hm.le] at hplace
  have hnot := not_prefix_of_find_eq_none hpattern hfront m
  have hlength : 0 < (front.drop m).length := by
    rw [List.length_drop]
    omega
  generalize front.drop m = tail at hplace hnot hlength
  match tail with
  | [] => simp at hlength
  | [a] | [a, b] | [a, b, c] | [a, b, c, d] | [a, b, c, d, e] => simp at hplace
  | a :: b :: c :: d :: e :: f :: tail =>
    refine hnot ?_
    simpa using hplace

/-- The id of an agent ends at the underscore. -/
lemma find_underscore {agentId : List Char} (hagent : '_' ∉ agentId) (rest : List Char) :
    find ['_'] (agentId ++ '_' :: rest) = some agentId.length := by
  rw [find_eq_some_iff (by simp)]
  refine ⟨by simp, fun m hm hplace => hagent ?_⟩
  rw [List.drop_append_of_le_length hm.le, List.drop_eq_getElem_cons hm, List.cons_append,
    List.cons_prefix_cons] at hplace
  exact hplace.1 ▸ List.getElem_mem hm

variable {env : Env} {front agentId newAgentId nextAgentId rest' : String} {s s' : Handler}

lemma setAgentId_agentWsUri (hfront : find "agent=".toList front.toList = none)
    (hagent : '_' ∉ agentId.toList) : setAgentId (agentWsUri front agentId rest') = agentId := by
  have hfind := find_agent hfront (agentId.toList ++ '_' :: rest'.toList)
  rw [← List.append_assoc] at hfind
  have hdrop : (agentWsUri front agentId rest').toList.drop (front.toList.length + 6) =
      agentId.toList ++ '_' :: rest'.toList := by
    rw [agentWsUri_toList, List.append_assoc, List.drop_append_of_le_length (by simp)]
    simp
  rw [setAgentId, agentWsUri_toList, hfind, ← agentWsUri_toList]
  simp only [hdrop, find_underscore hagent]
  simp

/-- The first place of an agent's id, in the URI up to its end, is the one after `agent=`. -/
def FirstAt (front agentId : String) : Prop :=
  find agentId.toList (front.toList ++ "agent=".toList ++ agentId.toList) =
    some (front.toList.length + 6)

/-- The URI of a transfer is that of the new agent if and only if the id of the current one is found
at its place. -/
lemma agentUri_iff (hfront : find "agent=".toList front.toList = none) (hagent : agentId ≠ "")
    (newAgentId : String) :
    agentUri (agentWsUri front agentId rest') agentId newAgentId =
      some (agentWsUri front newAgentId rest') ↔ FirstAt front agentId := by
  have hpattern : agentId.toList ≠ [] := by simpa using hagent
  obtain ⟨n, hn, hfind⟩ := exists_find hpattern (front.toList ++ "agent=".toList)
  have hlong := find_append hpattern hfind ('_' :: rest'.toList)
  have hbase := find_agent hfront (agentId.toList ++ '_' :: rest'.toList)
  rw [← List.append_assoc] at hbase
  rw [← agentWsUri_toList] at hlong hbase
  have hlength := length_agentWsUri front agentId rest'
  have hn' : n ≤ front.toList.length + 6 := by simpa using hn
  have huri : agentUri (agentWsUri front agentId rest') agentId newAgentId =
      some (String.ofList (front.toList ++ "agent=".toList ++ newAgentId.toList ++
        '_' :: (agentWsUri front agentId rest').toList.drop (n + agentId.length + 1))) := by
    have hle : n + agentId.length + 1 ≤ (agentWsUri front agentId rest').toList.length := by
      omega
    simp only [agentUri, hlong, hbase, agentWsUri_front, substr, if_pos hle]
    rfl
  rw [huri, FirstAt, hfind, Option.some_inj, Option.some_inj, ← String.toList_inj,
    String.toList_ofList, agentWsUri_toList front newAgentId, List.append_cancel_left_eq,
    List.cons.injEq, and_iff_right rfl]
  constructor
  · intro hrest
    have hlast := congrArg List.length hrest
    rw [List.length_drop, hlength] at hlast
    omega
  · rintro rfl
    exact agentWsUri_rest front agentId rest'

/-! ### Transfers -/

/-- Only the thread of a transfer runs. -/
def Handler.solo (s : Handler) (id : String) (p : Point) : Handler :=
  { s with threads := [⟨.agentTransfer id, p⟩] }

def transferStep (id : String) (p : Point) : Event := .thread ⟨.agentTransfer id, p⟩ true

/-- The steps of a transfer from its first one up to its call of `connect`. -/
def transferSteps (id uri : String) : List Event :=
  [transferStep id .start, transferStep id (.closeOld (some uri)), transferStep id (.setUri uri),
    transferStep id (.resetSequence uri), transferStep id (.resetStream uri)]

/-- `performAgentTransfer` comes to `connect` with the URI, undisturbed by other threads. -/
def ConnectsTo (env : Env) (s : Handler) (id uri : String) (s' : Handler) : Prop :=
  run (step env) (s.solo id .start) (transferSteps id uri) = some (s'.solo id (.connect uri))

variable {id uri : String} {p q : Point}

lemma step_solo (env : Env) (s : Handler) (id : String) (p : Point) :
    step env (s.solo id p) (transferStep id p) =
      Handler.advance env { s with threads := [] } true ⟨.agentTransfer id, p⟩ := by
  simp [step, transferStep, Handler.solo, Handler.without]

lemma step_solo_of_ne (env : Env) (s : Handler) (id : String) (h : q ≠ p) :
    step env (s.solo id p) (transferStep id q) = none := by
  simp [step, transferStep, Handler.solo, h]

/-- The handler when a transfer calls `connect`. -/
def Handler.settled (s : Handler) (id uri : String) : Handler :=
  { (if s.connected then s.close else s) with
    wsUri := uri
    currentAgentId := id
    sequenceNumber := 0
    streamId := s.nextStream
    nextStream := s.nextStream + 1 }

lemma start_solo (env : Env) (s : Handler) (id : String) :
    step env (s.solo id .start) (transferStep id .start) =
      some (match agentUri s.wsUri s.currentAgentId id with
        | some uri => s.solo id (.closeOld (some uri))
        | none     => s.solo id .failed) := by
  rw [step_solo, Handler.advance, Handler.begin]
  cases agentUri s.wsUri s.currentAgentId id <;> rfl

lemma closeOld_solo (env : Env) (s : Handler) (id uri : String) :
    step env (s.solo id (.closeOld (some uri))) (transferStep id (.closeOld (some uri))) =
      some ((if s.connected then s.close else s).solo id (.setUri uri)) := by
  rw [step_solo, Handler.advance]
  show some ((if s.connected then _ else _ : Handler).resume _ _) = _
  split_ifs <;> rfl

/-- The transfer goes on alone after it has closed the old connection. -/
lemma run_setUri (env : Env) (s : Handler) (id uri : String) :
    run (step env) (s.solo id (.setUri uri)) [transferStep id (.setUri uri),
      transferStep id (.resetSequence uri), transferStep id (.resetStream uri)] =
      some (Handler.solo { s with
        wsUri := uri
        currentAgentId := id
        sequenceNumber := 0
        streamId := s.nextStream
        nextStream := s.nextStream + 1 } id (.connect uri)) := by
  have hset : step env (s.solo id (.setUri uri)) (transferStep id (.setUri uri)) = some
      (Handler.solo { s with wsUri := uri, currentAgentId := id } id (.resetSequence uri)) := by
    rw [step_solo]
    rfl
  have hreset : ∀ s : Handler, step env (s.solo id (.resetSequence uri))
      (transferStep id (.resetSequence uri)) =
      some (Handler.solo { s with sequenceNumber := 0 } id (.resetStream uri)) := by
    intro s
    rw [step_solo]
    rfl
  rw [run_cons, hset, Option.bind_some, run_cons, hreset, Option.bind_some, run_cons, step_solo]
  rfl

lemma connectsTo_iff :
    ConnectsTo env s id uri s' ↔ agentUri s.wsUri s.currentAgentId id = some uri ∧
      (s.settled id uri).solo id (.connect uri) = s'.solo id (.connect uri) := by
  rw [ConnectsTo, transferSteps, run_cons, start_solo, Option.bind_some]
  cases hagent : agentUri s.wsUri s.currentAgentId id with
  | none => simp [step_solo_of_ne]
  | some uri' =>
    by_cases huri : uri' = uri
    · subst huri
      have hnext : (if s.connected then s.close else s).nextStream = s.nextStream := by
        split_ifs <;> rfl
      dsimp only
      rw [run_cons, closeOld_solo, Option.bind_some, run_setUri, hnext]
      simp [Handler.settled]
    · have hne : Point.closeOld (some uri) ≠ .closeOld (some uri') := by
        simpa using Ne.symm huri
      dsimp only
      rw [run_cons, step_solo_of_ne env s id hne, Option.bind_none]
      simp [huri]

/-- For a URI of an agent that is preceded by no other `agent=`: a transfer and one after it
connect to the URIs of the new agents if and only if the ids of the agents that are left are found
at their places. -/
theorem transfers_iff (env : Env) {front agentId rest newAgentId : String} (nextAgentId : String)
    (hfront : ¬contains front "agent=") (hagent : agentId ≠ "") (hdelimiter : '_' ∉ agentId.toList)
    (hnew : newAgentId ≠ "") (huri : s.wsUri = agentWsUri front agentId rest)
    (hcurrent : s.currentAgentId = setAgentId s.wsUri) :
    (∃ s', ConnectsTo env s newAgentId (agentWsUri front newAgentId rest) s' ∧
      ∀ t : Handler, t.wsUri = s'.wsUri → t.currentAgentId = s'.currentAgentId →
        ∃ t', ConnectsTo env t nextAgentId (agentWsUri front nextAgentId rest) t') ↔
      FirstAt front agentId ∧ FirstAt front newAgentId := by
  have hnone : find "agent=".toList front.toList = none := by
    simpa [contains] using hfront
  rw [huri, setAgentId_agentWsUri hnone hdelimiter] at hcurrent
  constructor
  · rintro ⟨s', hconnects, hnext⟩
    rw [connectsTo_iff, huri, hcurrent, agentUri_iff hnone hagent] at hconnects
    obtain ⟨hfirst, hsolo⟩ := hconnects
    obtain ⟨t', ht'⟩ := hnext s' rfl rfl
    have hs' : s'.wsUri = agentWsUri front newAgentId rest ∧ s'.currentAgentId = newAgentId :=
      ⟨(congrArg Handler.wsUri hsolo).symm, (congrArg Handler.currentAgentId hsolo).symm⟩
    rw [connectsTo_iff, hs'.1, hs'.2, agentUri_iff hnone hnew] at ht'
    exact ⟨hfirst, ht'.1⟩
  · rintro ⟨hfirst, hsecond⟩
    refine ⟨s.settled newAgentId (agentWsUri front newAgentId rest), ?_, ?_⟩
    · rw [connectsTo_iff, huri, hcurrent, agentUri_iff hnone hagent]
      exact ⟨hfirst, rfl⟩
    · intro t ht htagent
      refine ⟨t.settled nextAgentId (agentWsUri front nextAgentId rest), ?_⟩
      rw [connectsTo_iff, ht, htagent]
      exact ⟨(agentUri_iff hnone hnew nextAgentId).mpr hsecond, rfl⟩

/-- Two transfers of a session whose ids stand nowhere else. -/
theorem transfers_iff_sample :
    ∃ s', ConnectsTo (fun _ => none)
        (Handler.new 8000 (agentWsUri "wss://media/voice?" "7f3a" "call-1_8000")) "9c1e"
        (agentWsUri "wss://media/voice?" "9c1e" "call-1_8000") s' ∧
      ∀ t : Handler, t.wsUri = s'.wsUri → t.currentAgentId = s'.currentAgentId →
        ∃ t', ConnectsTo (fun _ => none) t "5d2b"
          (agentWsUri "wss://media/voice?" "5d2b" "call-1_8000") t' :=
  (transfers_iff (fun _ => none) "5d2b" (by decide) (by decide) (by decide) (by decide) rfl
    rfl).mpr ⟨by unfold FirstAt; decide, by unfold FirstAt; decide⟩

/-- The id of an agent that is found in the scheme of the URI. -/
theorem transfer_to_wrong_uri :
    ¬∀ (env : Env) (front agentId rest newAgentId nextAgentId : String) (s : Handler),
      ¬contains front "agent=" → agentId ≠ "" → '_' ∉ agentId.toList → newAgentId ≠ "" →
      nextAgentId ≠ "" → s.wsUri = agentWsUri front agentId rest →
      s.currentAgentId = setAgentId s.wsUri →
      ∃ s', ConnectsTo env s newAgentId (agentWsUri front newAgentId rest) s' ∧
        ∀ t : Handler, t.wsUri = s'.wsUri → t.currentAgentId = s'.currentAgentId →
          ∃ t', ConnectsTo env t nextAgentId (agentWsUri front nextAgentId rest) t' := by
  intro hall
  obtain ⟨s', hconnects, -⟩ := hall (fun _ => none) "wss://media/voice?" "ws" "call-1_8000" "9c1e"
    "5d2b" (Handler.new 8000 (agentWsUri "wss://media/voice?" "ws" "call-1_8000")) (by decide)
    (by decide) (by decide) (by decide) (by decide) rfl rfl
  have huri := (connectsTo_iff.mp hconnects).1
  have hagent : setAgentId (agentWsUri "wss://media/voice?" "ws" "call-1_8000") = "ws" :=
    setAgentId_agentWsUri (by decide) (by decide)
  rw [Handler.new, hagent, agentUri_iff (by decide) (by decide)] at huri
  revert huri
  unfold FirstAt
  decide

end MediaServer.WebSocket
