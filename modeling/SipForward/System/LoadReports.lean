import SipForward.LoadBalancer.Heartbeat
import SipForward.System.Records

/-!
# What the load balancer knows of the load

A container reads its counters one after the other into the JSON of `/health`, and answers with an
error when it is full. The heartbeat reads the report back; until the next one the load balancer
adds the calls that it routes there. Containers come, go and change their counters at any time.
-/

namespace MediaServer

open Core

/-! ### The report of a container -/

/-- A value of a C++ `int`. -/
def IsInt32 (v : Int) : Prop := -2147483648 ≤ v ∧ v ≤ 2147483647

/-- `answered_calls_count`, `current_calls` and `MAX_CONCURRENT_CALLS`. -/
structure Counters where
  answeredCalls : Int
  currentCalls : Int
  maxCalls : Int
  answered32 : IsInt32 answeredCalls
  current32 : IsInt32 currentCalls
  max32 : IsInt32 maxCalls

/-- The counters when `healthCheck` reads the answered calls, the current ones, those that are
subtracted for the capacity and those that decide the status, and the time. -/
structure Loads where
  answered : Counters
  current : Counters
  capacity : Counters
  status : Counters
  timestamp : Int
  time64 : IsInt64 timestamp

def intMember (name : String) (v : Int) : Member := (Text.ofString name, .number (.integer v))

/-- `health_response`, in the order in which it is dumped. -/
def healthResponse (l : Loads) : List Member :=
  [intMember "answered_calls" l.answered.answeredCalls,
    intMember "available_capacity" (l.capacity.maxCalls - l.capacity.currentCalls),
    intMember "current_calls" l.current.currentCalls,
    intMember "max_calls" l.capacity.maxCalls,
    LoadBalancer.stringMember "status" "healthy",
    intMember "timestamp" l.timestamp]

/-- `CallManager::healthCheck`: the code and the body. -/
def healthCheck (l : Loads) : ℕ × Text :=
  (if l.status.maxCalls ≤ l.status.currentCalls then 503 else 200,
    JsonText.Encoder.nlohmann.value (.object (healthResponse l)))

end MediaServer

namespace LoadBalancer

open Core MediaServer

/-! ### What a probe reads -/

def statusField : StructField HealthData :=
  .string "status" (·.status) fun x h => { h with status := x }

def answeredCallsField : StructField HealthData :=
  .int "answered_calls" (·.answeredCalls) fun x h => { h with answeredCalls := x }

def currentCallsField : StructField HealthData :=
  .int "current_calls" (·.currentCalls) fun x h => { h with currentCalls := x }

def maxCallsField : StructField HealthData :=
  .int "max_calls" (·.maxCalls) fun x h => { h with maxCalls := x }

def availableCapacityField : StructField HealthData :=
  .int "available_capacity" (·.availableCapacity) fun x h => { h with availableCapacity := x }

def timestampField : StructField HealthData :=
  .int "timestamp" (·.timestamp) fun x h => { h with timestamp := x }

def errorField : StructField HealthData :=
  .string "error" (·.error) fun x h => { h with error := x }

/-- `utils.HealthData`. -/
def healthData : Struct HealthData where
  name := "utils.HealthData"
  zero := ⟨"", 0, 0, 0, 0, 0, ""⟩
  fields :=
    [statusField, answeredCallsField, currentCallsField, maxCallsField, availableCapacityField,
      timestampField, errorField]

/-- What a probe makes of the answer of a container; a decoder describes its errors. -/
def readHealth (describe : DecodeError → String) (answer : ℕ × Text) : Except String HealthData :=
  if answer.1 ≠ 200 then .error ("status " ++ toString answer.1)
  else (healthData.shouldBindJSON answer.2).mapError fun e => "invalid json: " ++ describe e

/-- What is reported. -/
def reported (l : Loads) : HealthData where
  status := "healthy"
  answeredCalls := l.answered.answeredCalls
  currentCalls := l.current.currentCalls
  maxCalls := l.capacity.maxCalls
  availableCapacity := l.capacity.maxCalls - l.capacity.currentCalls
  timestamp := l.timestamp
  error := ""

/-- A container that has room when it decides the status. -/
def HasRoom (l : Loads) : Prop := l.status.currentCalls < l.status.maxCalls

variable {describe : DecodeError → String} {l : Loads}

lemma healthData_lawful : healthData.Lawful where
  find := by
    simp only [healthData, List.forall_mem_cons, List.not_mem_nil, false_imp_iff, implies_true,
      and_true]
    exact ⟨rfl, rfl, rfl, rfl, rfl, rfl, rfl⟩
  copy _ := rfl

/-- The fields of a report in the order in which a container writes them. -/
def reportFields : List (StructField HealthData) :=
  [answeredCallsField, availableCapacityField, currentCallsField, maxCallsField, statusField,
    timestampField]

lemma members_reportFields (l : Loads) :
    reportFields.map (·.member (reported l)) = healthResponse l := rfl

lemma isInt64_of_isInt32 {v : Int} (h : IsInt32 v) : IsInt64 v := by
  obtain ⟨hlow, hhigh⟩ := h
  exact ⟨by omega, by omega⟩

lemma fits_reportFields (l : Loads) :
    ∀ f ∈ reportFields, f ∈ healthData.fields ∧ f.Fits (reported l) := by
  have hcapacity : IsInt64 (l.capacity.maxCalls - l.capacity.currentCalls) := by
    obtain ⟨hlow, hhigh⟩ := l.capacity.max32
    obtain ⟨hlow', hhigh'⟩ := l.capacity.current32
    exact ⟨by omega, by omega⟩
  have hmem : ∀ f ∈ reportFields, f ∈ healthData.fields := by
    simp [reportFields, healthData]
  have hfits : ∀ f ∈ reportFields, f.Fits (reported l) := by
    simp only [reportFields, List.forall_mem_cons, List.not_mem_nil, false_imp_iff, implies_true,
      and_true]
    exact ⟨isInt64_of_isInt32 l.answered.answered32, hcapacity,
      isInt64_of_isInt32 l.current.current32, isInt64_of_isInt32 l.capacity.max32, trivial,
      l.time64⟩
  exact fun f hf => ⟨hmem f hf, hfits f hf⟩

/-- A report is read as it was written, unless the container is full. -/
lemma readHealth_healthCheck : readHealth describe (healthCheck l) =
    if l.status.maxCalls ≤ l.status.currentCalls then .error "status 503"
    else .ok (reported l) := by
  have htext : "status " ++ toString (503 : ℕ) = "status 503" := by decide
  have h200 : ¬(200 : ℕ) ≠ 200 := by decide
  have h503 : (503 : ℕ) ≠ 200 := by decide
  rw [readHealth, healthCheck]
  by_cases hfull : l.status.maxCalls ≤ l.status.currentCalls
  · rw [if_pos hfull, if_pos hfull]
    exact (if_pos h503).trans (congrArg Except.error htext)
  · have hdecoded : healthData.shouldBindJSON
        (JsonText.Encoder.nlohmann.value (.object (healthResponse l))) = .ok (reported l) := by
      rw [Struct.shouldBindJSON, ← members_reportFields,
        GoJson.decodeFirst_value _ (Struct.writable_members reportFields (reported l)),
        Struct.decode, Struct.foldlM_members healthData_lawful (fits_reportFields l)]
      rfl
    rw [if_neg hfull, if_neg hfull, if_neg h200, hdecoded]
    rfl

/-! ### What is shown -/

/-- `GetAllServerMetadata`, ranging over the keys of `LSML` in the order given: the count of `LSCS`
is laid over the one in the health, unless it is infinite. -/
def getAllServerMetadata (order : List String) (s : State) : List ServerMetadata :=
  order.filterMap fun n => (s.lsml.lookup n).map fun md =>
    match s.lscs.lookup md.name with
    | some count => if count < maxInt then md.withCalls count else md
    | none       => md

/-- A row of `/get-all-calls`. -/
structure CallsRow where
  container : String
  activeCount : Int
  status : String
deriving DecidableEq

/-- The rows of `GetAllCallsHandler`. -/
def getAllCalls (order : List String) (s : State) : List CallsRow :=
  (getAllServerMetadata order s).map fun md =>
    ⟨md.name, md.health.currentCalls, md.health.status⟩

end LoadBalancer

namespace LoadBalancer.Fleet

open AList Core MediaServer
open Heartbeat (Probe NamesNodup)

/-! ### The containers and the service -/

/-- The service, the containers by the addresses they listen at, and what the handler of a probe has
loaded so far. `answers`, `reports` and `selections` are ghost state: what a probe has been answered
with, if it was a report; the report that was last applied since a server was added, if the last
probe has brought one; and the calls that were routed to it since. -/
structure World where
  service : Heartbeat.World
  containers : String × Int → Option Counters
  loads : String → List Counters
  answers : String → Option Loads
  reports : String → Option Loads
  selections : String → ℕ

inductive Event where
  | service (e : Heartbeat.Event)
  | container (address : String × Int) (c : Option Counters)
  | load (name : String)
  | respond (name : String) (timestamp : {t : Int // IsInt64 t})
  | fail (name : String) (err : String)

/-- The container that the probe of a server has been sent to. -/
def World.probed (w : World) (name : String) : Option Counters :=
  (w.service.probes.find? fun p => decide (p.name = name) && p.phase.isSent).bind fun p =>
    w.containers (p.host, p.port)

/-- What a handler has loaded when it has loaded everything. -/
def loaded (l : List Counters) (timestamp : {t : Int // IsInt64 t}) : Option Loads :=
  match l with
  | [answered, current, capacity, status] =>
    some ⟨answered, current, capacity, status, timestamp.1, timestamp.2⟩
  | _ => none

def isAnswer : Heartbeat.Event → Bool
  | .answer _ _ => true
  | _           => false

/-- The reports after an access: a new server has none. -/
def noteReports (s : State) (reports : String → Option Loads) : Op → String → Option Loads
  | .register _ reg => if reg.name ∈ s.lsml then reports else Function.update reports reg.name none
  | _               => reports

/-- The selections after an access. -/
def noteSelections (selected : Option String) (selections : String → ℕ) (n : String) : ℕ :=
  if selected = some n then selections n + 1 else selections n

/-- The names in a round. -/
def World.names (w : World) : List String := w.service.probes.map (·.name)

/-- After a step of the service. -/
def World.note (w : World) (service : Heartbeat.World) : Heartbeat.Event → World
  | .access op =>
    { w with
      service := service
      reports := noteReports w.service.mem w.reports op
      selections := noteSelections (Heartbeat.selects w.service.mem op) w.selections }
  | .send name => { w with service := service, loads := Function.update w.loads name [] }
  | .apply _   =>
    { w with
      service := service
      reports := fun n => if n ∈ w.names then w.answers n else w.reports n
      selections := fun n => if n ∈ w.names then 0 else w.selections n }
  | _          => { w with service := service }

/-- After an answer to a probe. -/
def World.answered (w : World) (name : String) (service : Heartbeat.World) (l : Option Loads) :
    World :=
  { w with service := service, answers := Function.update w.answers name l }

def step (describe : DecodeError → String) (w : World) : Event → Option World
  | .service e => if isAnswer e then none else (Heartbeat.step w.service e).map fun s => w.note s e
  | .container address c => some { w with containers := Function.update w.containers address c }
  | .load name =>
    if (w.loads name).length < 4 then
      (w.probed name).map fun c =>
        { w with loads := Function.update w.loads name (w.loads name ++ [c]) }
    else none
  | .respond name timestamp =>
    (loaded (w.loads name) timestamp).bind fun l =>
      (Heartbeat.step w.service (.answer name (readHealth describe (healthCheck l)))).map fun s =>
        w.answered name s (if l.status.currentCalls < l.status.maxCalls then some l else none)
  | .fail name err =>
    (Heartbeat.step w.service (.answer name (.error err))).map fun s => w.answered name s none

/-- A service that has just started, among any containers. -/
def World.start (now : Int) (redis : Redis) (scan : List (String × Bool))
    (containers : String × Int → Option Counters) : World where
  service := Heartbeat.World.start now redis scan
  containers := containers
  loads _ := []
  answers _ := none
  reports _ := none
  selections _ := 0

/-- The count that a server should have. -/
def World.count (w : World) (n : String) : Int :=
  match w.reports n with
  | some l => l.current.currentCalls + w.selections n
  | none   => maxInt

/-- The health that belongs to a report, or to none. -/
def Shows (health : HealthData) : Option Loads → Prop
  | some l => health = reported l
  | none   => health.status ≠ "healthy" ∧ health.currentCalls = 0

/-- The service knows what a server has last reported, which had room then, and what was routed to
it since. -/
structure Known (w : World) (n : String) (md : ServerMetadata) : Prop where
  count : w.service.mem.lscs.lookup n = some (w.count n)
  health : Shows md.health (w.reports n)
  room : ∀ l ∈ w.reports n, HasRoom l

variable {describe : DecodeError → String} {s : State} {w w' : World} {service : Heartbeat.World}
  {n name : String} {op : Op} {md : ServerMetadata} {health : Except String HealthData}
  {results : List HealthResult} {r : HealthResult} {now : Int} {p : Probe} {l : Loads}

/-! ### Accesses of the handlers -/

/-- A routing call finds nothing and changes nothing, or raises a finite count. -/
def Selects (s : State) (op : Op) : Prop :=
  (op.apply s = s ∧ Heartbeat.selects s op = none) ∨
    ∃ n c, s.lscs.lookup n = some c ∧ c ≠ maxInt ∧ Heartbeat.selects s op = some n ∧
      op.apply s = s.increment n

lemma selects_findLowest (ha : Aligned s) (d : Direction) : Selects s (.findLowest d) := by
  rcases findLowest_cases d s with ⟨e, heq⟩ | ⟨n, c, -, -, hn, hc, -, hres⟩
  · exact Or.inl ⟨by rw [Op.apply, heq], by rw [Heartbeat.selects, heq]⟩
  · rcases hres with ⟨hnone, -⟩ | ⟨md, hmd, heq⟩
    · exact absurd ((ha.keys n).mpr (mem_of_lookup_eq_some hn)) (lookup_eq_none.mp hnone)
    · have hname : (md.withCalls (c + 1)).name = n := ha.name n md hmd
      refine Or.inr ⟨n, c, hn, hc.ne, ?_, by rw [Op.apply, heq]⟩
      rw [Heartbeat.selects, heq]
      exact congrArg some hname

lemma selects_findByType (ha : Aligned s) (type : String) (order : List String) :
    Selects s (.findByType type order) := by
  rcases findByType_cases type order s with ⟨⟨e, heq⟩, -⟩ | ⟨n, md, c, -, hmd, hn, -, hc, heq⟩
  · exact Or.inl ⟨by rw [Op.apply, heq], by rw [Heartbeat.selects, heq]⟩
  · have hname : (md.withCalls (c + 1)).name = n := ha.name n md hmd
    refine Or.inr ⟨n, c, hn, hc, ?_, by rw [Op.apply, heq]⟩
    rw [Heartbeat.selects, heq]
    exact congrArg some hname

/-- Of a server that nothing happens to, as much is known as before. -/
lemma Known.frame (h : Known w n md) {md' : ServerMetadata}
    (hcount : w'.service.mem.lscs.lookup n = w.service.mem.lscs.lookup n)
    (hhealth : md'.health = md.health) (hreports : w'.reports n = w.reports n)
    (hselections : w'.selections n = w.selections n) : Known w' n md' where
  count := by rw [hcount, h.count, World.count, World.count, hreports, hselections]
  health := by rw [hhealth, hreports]; exact h.health
  room := by rw [hreports]; exact h.room

lemma noteSelections_none (selections : String → ℕ) :
    noteSelections none selections = selections := by
  funext n
  exact if_neg (fun h => by cases h)

lemma known_selects (hs : Selects w.service.mem op)
    (hreports : noteReports w.service.mem w.reports op = w.reports)
    (hknown : ∀ n md, w.service.mem.lsml.lookup n = some md → Known w n md)
    (hservice : service.mem = op.apply w.service.mem) :
    ∀ n md, service.mem.lsml.lookup n = some md → Known (w.note service (.access op)) n md := by
  intro n md hmd
  rcases hs with ⟨hsame, hnone⟩ | ⟨m, c, hm, hc, hselected, hinc⟩
  · rw [hservice, hsame] at hmd
    refine (hknown n md hmd).frame ?_ rfl (congrFun hreports n) ?_
    · show service.mem.lscs.lookup n = _
      rw [hservice, hsame]
    · show noteSelections (Heartbeat.selects w.service.mem op) w.selections n = _
      rw [hnone, noteSelections_none]
  · rw [hservice, hinc, State.increment_lsml] at hmd
    have hold := hknown n md hmd
    have hlscs : service.mem.lscs.lookup n =
        if n = m then some (c + 1) else w.service.mem.lscs.lookup n := by
      rw [hservice, hinc, State.increment_lscs hm]
    have hsel : (w.note service (.access op)).selections n =
        if m = n then w.selections n + 1 else w.selections n := by
      show noteSelections (Heartbeat.selects w.service.mem op) w.selections n = _
      rw [hselected, noteSelections]
      simp only [Option.some.injEq]
    by_cases hn : n = m
    · subst hn
      -- a server with a finite count has a report
      have hcount : c = w.count n := Option.some.inj (hm.symm.trans hold.count)
      have hreport : (w.note service (.access op)).reports n = w.reports n := congrFun hreports n
      refine ⟨?_, by rw [hreport]; exact hold.health, by rw [hreport]; exact hold.room⟩
      show service.mem.lscs.lookup n = _
      rw [hlscs, if_pos rfl, World.count, hreport, hsel, if_pos rfl]
      rw [World.count] at hcount
      cases hl : w.reports n with
      | none =>
        rw [hl] at hcount
        exact absurd hcount hc
      | some l =>
        rw [hl] at hcount
        rw [hcount]
        simp only [Nat.cast_add, Nat.cast_one, Int.add_assoc]
    · refine hold.frame ?_ rfl (congrFun hreports n) ?_
      · exact hlscs.trans (if_neg hn)
      · exact hsel.trans (if_neg (Ne.symm hn))

/-- An access leaves what is known true: a server that is new is not known, and what is routed is
counted. -/
lemma known_access (ha : Aligned w.service.mem) (hop : Heartbeat.isHandlerAccess op = true)
    (hknown : ∀ n md, w.service.mem.lsml.lookup n = some md → Known w n md)
    (hservice : service.mem = op.apply w.service.mem) :
    ∀ n md, service.mem.lsml.lookup n = some md → Known (w.note service (.access op)) n md := by
  have hquiet : Heartbeat.selects w.service.mem op = none →
      (w.note service (.access op)).selections = w.selections := by
    intro hnone
    show noteSelections (Heartbeat.selects w.service.mem op) w.selections = _
    rw [hnone, noteSelections_none]
  cases op with
  | register now reg =>
    intro n md' hmd
    rw [hservice, Op.apply, registerServer_lsml] at hmd
    have hlscs : service.mem.lscs.lookup n =
        if n = reg.name ∧ w.service.mem.lsml.lookup reg.name = none then some maxInt
        else w.service.mem.lscs.lookup n := by
      rw [hservice, Op.apply, registerServer_lscs]
    have hreports : (w.note service (.access (.register now reg))).reports =
        if reg.name ∈ w.service.mem.lsml then w.reports
        else Function.update w.reports reg.name none := rfl
    by_cases hn : n = reg.name
    · subst hn
      rw [if_pos rfl] at hmd
      cases hold : w.service.mem.lsml.lookup reg.name with
      | none =>
        rw [hold] at hmd
        rw [if_pos ⟨rfl, hold⟩] at hlscs
        cases hmd
        rw [if_neg (lookup_eq_none.mp hold)] at hreports
        have hreport : (w.note service (.access (.register now reg))).reports reg.name = none := by
          rw [hreports, Function.update_self]
        refine ⟨?_, ?_, ?_⟩
        · rw [World.count, hreport]
          exact hlscs
        · rw [hreport]
          have hstatus : ("unknown" : String) ≠ "healthy" := by decide
          exact ⟨hstatus, rfl⟩
        · rw [hreport]
          exact fun l hl => by cases hl
      | some md =>
        rw [hold] at hmd
        cases hmd
        rw [if_neg (by rw [hold]; rintro ⟨-, h⟩; cases h)] at hlscs
        rw [if_pos (mem_of_lookup_eq_some hold)] at hreports
        exact (hknown _ md hold).frame hlscs rfl (congrFun hreports _) (congrFun (hquiet rfl) _)
    · rw [if_neg hn] at hmd
      rw [if_neg (fun h => hn h.1)] at hlscs
      refine (hknown n md' hmd).frame hlscs rfl ?_ (congrFun (hquiet rfl) n)
      rw [hreports]
      split_ifs
      · rfl
      · exact Function.update_of_ne hn _ _
  | unregister name =>
    intro n md' hmd
    rw [hservice, Op.apply, unregisterServer_lsml] at hmd
    split_ifs at hmd with hn
    refine (hknown n md' hmd).frame ?_ rfl rfl (congrFun (hquiet rfl) n)
    show service.mem.lscs.lookup n = _
    rw [hservice, Op.apply, unregisterServer_lscs, if_neg hn]
  | toggle name req =>
    intro n md' hmd
    have hlscs : service.mem.lscs.lookup n = w.service.mem.lscs.lookup n := by
      rw [hservice, Op.apply, toggleServer_lscs]
    rw [hservice, Op.apply] at hmd
    cases hold : w.service.mem.lsml.lookup name with
    | none =>
      rw [toggleServer_none req hold] at hmd
      exact (hknown n md' hmd).frame hlscs rfl rfl (congrFun (hquiet rfl) n)
    | some md =>
      rw [toggleServer_lsml req hold] at hmd
      split_ifs at hmd with hn
      · subst hn
        cases hmd
        exact (hknown n md hold).frame hlscs rfl rfl (congrFun (hquiet rfl) n)
      · exact (hknown n md' hmd).frame hlscs rfl rfl (congrFun (hquiet rfl) n)
  | findLowest d => exact known_selects (selects_findLowest ha d) rfl hknown hservice
  | findByType type order =>
    exact known_selects (selects_findByType ha type order) rfl hknown hservice
  | heartbeat now results => cases hop

/-! ### Rounds -/

lemma applyResult_lsml (r : HealthResult) (s : State) (n : String) :
    (applyResult now s r).lsml.lookup n =
      (s.lsml.lookup n).map fun md =>
        if n = r.name then { md with health := (r.outcome now).1 } else md := by
  cases hmd : s.lsml.lookup r.name with
  | none =>
    rw [applyResult_none hmd]
    by_cases hn : n = r.name
    · rw [hn, hmd]
      rfl
    · simp [hn]
  | some md =>
    rw [applyResult_some hmd]
    simp only [lookup_insert_ite]
    by_cases hn : n = r.name
    · rw [if_pos hn, hn, hmd]
      simp
    · simp [hn]

/-- Results for other names leave a server alone. -/
lemma applyResults_lsml_of_notMem (h : ∀ r ∈ results, r.name ≠ n) (s : State) :
    (applyResults now results s).lsml.lookup n = s.lsml.lookup n := by
  induction results generalizing s with
  | nil => rfl
  | cons r results ih =>
    refine (ih (fun r' hr' => h r' (List.mem_cons_of_mem r hr')) _).trans ?_
    rw [applyResult_lsml]
    have hn : n ≠ r.name := (h r List.mem_cons_self).symm
    simp [hn]

/-- The health of a server after a round is the one its own result stands for. -/
lemma applyResults_lsml (hnodup : (results.map (·.name)).Nodup) (hr : r ∈ results) (s : State) :
    (applyResults now results s).lsml.lookup r.name =
      (s.lsml.lookup r.name).map fun md => { md with health := (r.outcome now).1 } := by
  induction results generalizing s with
  | nil => cases hr
  | cons r' results ih =>
    rw [List.map_cons, List.nodup_cons] at hnodup
    rw [applyResults, List.foldl_cons]
    rcases List.mem_cons.mp hr with rfl | hr
    · refine (applyResults_lsml_of_notMem (fun r'' hr'' hname => ?_) _).trans ?_
      · exact hnodup.1 (hname ▸ List.mem_map_of_mem hr'')
      · rw [applyResult_lsml]
        simp
    · have hne : r.name ≠ r'.name := by
        intro hname
        exact hnodup.1 (hname ▸ List.mem_map_of_mem hr)
      refine (ih hnodup.2 hr _).trans ?_
      rw [applyResult_lsml, Option.map_map]
      congr 1
      funext md
      simp [hne]

/-- What a probe was answered with. -/
def Answers (health : Except String HealthData) : Option Loads → Prop
  | some l => health = .ok (reported l) ∧ HasRoom l
  | none   => ∃ e, health = .error e

structure Inv (w : World) : Prop where
  aligned : Aligned w.service.mem
  nodup : NamesNodup w.service
  answered : ∀ p ∈ w.service.probes, ∀ health k, p.phase = .answered health k →
    Answers health (w.answers p.name)
  known : ∀ n md, w.service.mem.lsml.lookup n = some md → Known w n md

/-- A result that is applied becomes what is known of its server. -/
lemma known_outcome (hn : n ∈ w.names) (hanswers : Answers health (w.answers n))
    (hlscs : service.mem.lscs.lookup n = some (HealthResult.outcome now ⟨n, health⟩).2)
    (hhealth : md.health = (HealthResult.outcome now ⟨n, health⟩).1) :
    Known (w.note service (.apply now)) n md := by
  have hreport : (w.note service (.apply now)).reports n = w.answers n := if_pos hn
  have hselections : (w.note service (.apply now)).selections n = 0 := if_pos hn
  cases hl : w.answers n with
  | some l =>
    rw [hl] at hanswers hreport
    obtain ⟨rfl, hroom⟩ := hanswers
    refine ⟨?_, ?_, ?_⟩
    · rw [World.count, hreport]
      simp only [hselections, Nat.cast_zero, Int.add_zero]
      exact hlscs
    · rw [hreport]
      exact hhealth
    · rw [hreport]
      rintro l' ⟨⟩
      exact hroom
  | none =>
    rw [hl] at hanswers hreport
    obtain ⟨e, rfl⟩ := hanswers
    refine ⟨?_, ?_, ?_⟩
    · rw [World.count, hreport]
      exact hlscs
    · rw [hreport, hhealth]
      have hstatus : ("unhealthy" : String) ≠ "healthy" := by decide
      exact ⟨hstatus, rfl⟩
    · rw [hreport]
      exact fun l hl => by cases hl

lemma apply_spec (he : Heartbeat.step w.service (.apply now) = some service) :
    ∃ probes, w.service.round = some probes ∧ (∀ p ∈ probes, ∃ r, p.result = some r) ∧
      service.round = none ∧
      service.mem = applyResults now (probes.filterMap (·.result)) w.service.mem := by
  obtain ⟨probes, hr, he⟩ := Option.bind_eq_some_iff.mp he
  split_ifs at he with hall
  cases he
  refine ⟨probes, hr, fun p hp => ?_, rfl, rfl⟩
  exact Option.isSome_iff_exists.mp (List.all_eq_true.mp hall p hp)

lemma result_eq (h : p.result = some r) :
    r.name = p.name ∧ ∃ k, p.phase = .answered r.health k := by
  obtain ⟨name, host, port, phase⟩ := p
  cases phase with
  | pending => cases h
  | sent a => cases h
  | answered health k =>
    cases h
    exact ⟨rfl, k, rfl⟩

lemma Inv.apply (hi : Inv w) (he : Heartbeat.step w.service (.apply now) = some service) :
    Inv (w.note service (.apply now)) := by
  obtain ⟨probes, hround, hresults, hnone, hmem⟩ := apply_spec he
  have hprobes : w.service.probes = probes := by rw [Heartbeat.World.probes, hround]; rfl
  have hnodup : ((probes.filterMap (·.result)).map (·.name)).Nodup := by
    refine (Heartbeat.names_results probes).nodup ?_
    have hn := hi.nodup
    rwa [NamesNodup, hprobes] at hn
  refine ⟨Heartbeat.step_aligned hi.aligned he, hi.nodup.step he, ?_, ?_⟩
  · intro p hp
    rw [show (w.note service (.apply now)).service.probes = [] from
      congrArg (fun r : Option (List Probe) => r.getD []) hnone] at hp
    cases hp
  · intro n md' hmd
    have hmd' : (applyResults now (probes.filterMap (·.result)) w.service.mem).lsml.lookup n =
        some md' := hmem ▸ hmd
    by_cases hn : n ∈ w.names
    · obtain ⟨p, hp, rfl⟩ := List.mem_map.mp hn
      rw [hprobes] at hp
      obtain ⟨r, hr⟩ := hresults p hp
      obtain ⟨hname, k, hphase⟩ := result_eq hr
      have hrmem : r ∈ probes.filterMap (·.result) := List.mem_filterMap.mpr ⟨p, hp, hr⟩
      have hanswers := hi.answered p (hprobes ▸ hp) r.health k hphase
      rw [← hname, applyResults_lsml hnodup hrmem] at hmd'
      obtain ⟨md, hold, rfl⟩ := Option.map_eq_some_iff.mp hmd'
      have hlscs := Heartbeat.applyResults_lscs now w.service.mem hnodup hrmem
      rw [if_pos (mem_of_lookup_eq_some hold), ← hmem] at hlscs
      rw [← hname] at hanswers hn ⊢
      exact known_outcome hn hanswers hlscs rfl
    · have hother : ∀ r ∈ probes.filterMap (·.result), r.name ≠ n := by
        intro r hr hname
        obtain ⟨p, hp, hresult⟩ := List.mem_filterMap.mp hr
        refine hn (List.mem_map.mpr ⟨p, hprobes ▸ hp, ?_⟩)
        rw [← (result_eq hresult).1, hname]
      rw [applyResults_lsml_of_notMem hother] at hmd'
      refine (hi.known n md' hmd').frame ?_ rfl (if_neg hn) (if_neg hn)
      show service.mem.lscs.lookup n = _
      rw [hmem, Heartbeat.applyResults_lscs_of_notMem now w.service.mem hother]

lemma select_phase {k : ℕ} (h : p.select.phase = .answered health k) :
    ∃ k', p.phase = .answered health k' := by
  obtain ⟨name, host, port, phase⟩ := p
  cases phase with
  | answered health' k' =>
    cases h
    exact ⟨k', rfl⟩
  | pending => cases h
  | sent a => cases h

lemma Inv.access (hi : Inv w) (he : Heartbeat.step w.service (.access op) = some service) :
    Inv (w.note service (.access op)) := by
  have haligned := Heartbeat.step_aligned hi.aligned he
  have hnodup := hi.nodup.step he
  simp only [Heartbeat.step] at he
  split_ifs at he with hop
  cases he
  refine ⟨haligned, hnodup, ?_, known_access hi.aligned hop hi.known rfl⟩
  intro q hq health k hphase
  have hq' : q ∈ (w.service.round.map
      (Heartbeat.noteSelection (Heartbeat.selects w.service.mem op))).getD [] := hq
  cases hround : w.service.round with
  | none =>
    rw [hround] at hq'
    cases hq'
  | some probes =>
    rw [hround] at hq'
    obtain ⟨p, hp, hsame⟩ := Heartbeat.mem_noteSelection hq'
    have hp' : p ∈ w.service.probes := by
      rw [Heartbeat.World.probes, hround]
      exact hp
    rcases hsame with rfl | rfl
    · exact hi.answered q hp' health k hphase
    · obtain ⟨k', hphase'⟩ := select_phase hphase
      rw [Heartbeat.select_name]
      exact hi.answered p hp' health k' hphase'

lemma Inv.snapshot (hi : Inv w) {order : List String}
    (he : Heartbeat.step w.service (.snapshot order) = some service) :
    Inv (w.note service (.snapshot order)) := by
  have hnodup := hi.nodup.step he
  simp only [Heartbeat.step] at he
  split_ifs at he
  cases he
  refine ⟨hi.aligned, hnodup, ?_, fun n md hmd => (hi.known n md hmd).frame rfl rfl rfl rfl⟩
  intro p hp health k hphase
  obtain ⟨name, -, hname⟩ := List.mem_filterMap.mp hp
  obtain ⟨a, -, rfl⟩ := Option.map_eq_some_iff.mp hname
  cases hphase

lemma Inv.send (hi : Inv w) (he : Heartbeat.step w.service (.send name) = some service) :
    Inv (w.note service (.send name)) := by
  have hnodup := hi.nodup.step he
  obtain ⟨probes, hround, he⟩ := Option.bind_eq_some_iff.mp he
  split_ifs at he
  cases he
  refine ⟨hi.aligned, hnodup, ?_, fun n md hmd => (hi.known n md hmd).frame rfl rfl rfl rfl⟩
  intro q hq health k hphase
  obtain ⟨p, hp, hsame⟩ := Heartbeat.mem_updateProbe hq
  have hp' : p ∈ w.service.probes := by
    rw [Heartbeat.World.probes, hround]
    exact hp
  rcases hsame with ⟨-, rfl⟩ | ⟨-, rfl⟩
  · rw [Heartbeat.send_name]
    obtain ⟨pname, host, port, phase⟩ := p
    cases phase with
    | answered health' k' => exact hi.answered _ hp' health k hphase
    | pending => cases hphase
    | sent a => cases hphase
  · exact hi.answered q hp' health k hphase

/-- The one probe of a server is answered. -/
lemma Inv.answer (hi : Inv w) (he : Heartbeat.step w.service (.answer name health) = some service)
    {answer : Option Loads} (hanswer : Answers health answer) :
    Inv (w.answered name service answer) := by
  have hnodup := hi.nodup.step he
  obtain ⟨probes, hround, he⟩ := Option.bind_eq_some_iff.mp he
  split_ifs at he with hsent
  cases he
  have hprobes : w.service.probes = probes := by rw [Heartbeat.World.probes, hround]; rfl
  refine ⟨hi.aligned, hnodup, ?_, fun n md hmd => (hi.known n md hmd).frame rfl rfl rfl rfl⟩
  intro q hq health' k hphase
  obtain ⟨p, hp, hsame⟩ := Heartbeat.mem_updateProbe hq
  obtain ⟨p', hp', hany⟩ := List.any_eq_true.mp hsent
  obtain ⟨hname', hphase'⟩ : p'.name = name ∧ p'.phase.isSent = true := by simpa using hany
  show Answers health' (Function.update w.answers name answer q.name)
  rcases hsame with ⟨hname, rfl⟩ | ⟨hname, rfl⟩
  · -- names are different, so this is the probe that was sent
    have hsame : p' = p := by
      refine List.inj_on_of_nodup_map ?_ hp' hp (hname'.trans hname.symm)
      rw [← hprobes]
      exact hi.nodup
    subst hsame
    rw [Heartbeat.answer_name, hname, Function.update_self]
    obtain ⟨pname, host, port, phase⟩ := p'
    cases phase with
    | sent a =>
      cases hphase
      exact hanswer
    | pending => cases hphase'
    | answered health'' k'' => cases hphase'
  · rw [Function.update_of_ne hname]
    exact hi.answered q (hprobes ▸ hp) health' k hphase

/-! ### Runs -/

lemma Inv.step {e : Event} (hi : Inv w) (he : step describe w e = some w') : Inv w' := by
  cases e with
  | service e =>
    simp only [Fleet.step] at he
    split_ifs at he
    obtain ⟨service, hservice, rfl⟩ := Option.map_eq_some_iff.mp he
    cases e with
    | access op => exact hi.access hservice
    | snapshot order => exact hi.snapshot hservice
    | send name => exact hi.send hservice
    | apply now => exact hi.apply hservice
    | answer name health => contradiction
  | container address c =>
    cases he
    exact ⟨hi.aligned, hi.nodup, hi.answered,
      fun n md hmd => (hi.known n md hmd).frame rfl rfl rfl rfl⟩
  | load name =>
    simp only [Fleet.step] at he
    split_ifs at he
    obtain ⟨c, -, rfl⟩ := Option.map_eq_some_iff.mp he
    exact ⟨hi.aligned, hi.nodup, hi.answered,
      fun n md hmd => (hi.known n md hmd).frame rfl rfl rfl rfl⟩
  | respond name timestamp =>
    obtain ⟨l, -, he⟩ := Option.bind_eq_some_iff.mp he
    obtain ⟨service, hservice, rfl⟩ := Option.map_eq_some_iff.mp he
    refine hi.answer hservice ?_
    rw [readHealth_healthCheck]
    by_cases hroom : l.status.currentCalls < l.status.maxCalls
    · rw [if_pos hroom, if_neg (Int.not_le.mpr hroom)]
      exact ⟨rfl, hroom⟩
    · rw [if_neg hroom, if_pos (Int.not_lt.mp hroom)]
      exact ⟨_, rfl⟩
  | fail name err =>
    obtain ⟨service, hservice, rfl⟩ := Option.map_eq_some_iff.mp he
    exact hi.answer hservice ⟨err, rfl⟩

variable {redis : Redis} {scan : List (String × Bool)}
  {containers : String × Int → Option Counters} {es : List Event}

lemma inv_start (hw : WrittenByService redis) (now : Int) (scan : List (String × Bool))
    (containers : String × Int → Option Counters) :
    Inv (World.start now redis scan containers) where
  aligned := init_aligned hw now
  nodup := List.nodup_nil
  answered p hp := by cases hp
  known n md hmd := by
    have hlsml : (initServerArrays now redis scan).lsml.lookup n = some md := hmd
    rw [init_lsml hw] at hlsml
    obtain ⟨reg, hreg, rfl⟩ := Option.map_eq_some_iff.mp hlsml
    have hlscs : (initServerArrays now redis scan).lscs.lookup n = some maxInt := by
      rw [init_lscs hw, hreg]
      rfl
    have hstatus : ("unknown" : String) ≠ "healthy" := by decide
    exact ⟨hlscs, ⟨hstatus, rfl⟩, fun l hl => by cases hl⟩

lemma inv_run (hw : WrittenByService redis) {now : Int}
    (hr : run (step describe) (World.start now redis scan containers) es = some w) : Inv w :=
  run_invariant' (fun _ _ _ hi he => hi.step he) (inv_start hw now scan containers) hr

/-- What `/get-all-calls` shows of a server. -/
structure Tells (w : World) (row : CallsRow) : Prop where
  healthy : row.status = "healthy" ↔ (w.reports row.container).isSome
  count : w.count row.container < maxInt → row.activeCount = w.count row.container
  none : w.reports row.container = none → row.activeCount = 0

lemma getAllCalls_cons (n : String) (order : List String) (s : State) {md : ServerMetadata}
    (hmd : s.lsml.lookup n = some md) :
    getAllCalls (n :: order) s = getAllCalls [n] s ++ getAllCalls order s := by
  simp [getAllCalls, getAllServerMetadata, hmd]

/-- The row of a server that is known. -/
lemma getAllCalls_singleton (ha : Aligned w.service.mem)
    (hmd : w.service.mem.lsml.lookup n = some md) (hknown : Known w n md) :
    ∃ row, getAllCalls [n] w.service.mem = [row] ∧ row.container = n ∧ Tells w row := by
  have hname : md.name = n := ha.name n md hmd
  have hcount : w.service.mem.lscs.lookup md.name = some (w.count n) := by
    rw [hname]
    exact hknown.count
  have hrow : getAllCalls [n] w.service.mem =
      [if w.count n < maxInt then ⟨n, w.count n, md.health.status⟩
        else ⟨n, md.health.currentCalls, md.health.status⟩] := by
    simp only [getAllCalls, getAllServerMetadata, List.filterMap_cons, hmd, Option.map_some,
      hcount, List.filterMap_nil, List.map_cons, List.map_nil]
    split_ifs
    · simp [ServerMetadata.withCalls, hname]
    · simp [hname]
  have hstatus : md.health.status = "healthy" ↔ (w.reports n).isSome := by
    have hhealth := hknown.health
    cases hl : w.reports n with
    | none =>
      rw [hl] at hhealth
      simp [hhealth.1]
    | some l =>
      rw [hl] at hhealth
      rw [hhealth]
      simp [reported]
  have hnone : w.reports n = none → ¬w.count n < maxInt ∧ md.health.currentCalls = 0 := by
    intro hl
    have hhealth := hknown.health
    rw [hl] at hhealth
    rw [World.count, hl]
    exact ⟨Int.lt_irrefl _, hhealth.2⟩
  refine ⟨_, hrow, ?_, ?_⟩
  · split_ifs <;> rfl
  · split_ifs with hlt
    · exact ⟨hstatus, fun _ => rfl, fun hl => absurd hlt (hnone hl).1⟩
    · exact ⟨hstatus, fun h => absurd h hlt, fun hl => (hnone hl).2⟩

lemma getAllCalls_rows (ha : Aligned w.service.mem)
    (hknown : ∀ n md, w.service.mem.lsml.lookup n = some md → Known w n md) {order : List String}
    (horder : ∀ n ∈ order, n ∈ w.service.mem.lsml) :
    (getAllCalls order w.service.mem).map (·.container) = order ∧
      ∀ row ∈ getAllCalls order w.service.mem, Tells w row := by
  induction order with
  | nil => exact ⟨rfl, fun row hrow => by cases hrow⟩
  | cons n order ih =>
    obtain ⟨md, hmd⟩ := Option.isSome_iff_exists.mp
      (lookup_isSome.mpr (horder n List.mem_cons_self))
    obtain ⟨row, hrow, hcontainer, htells⟩ := getAllCalls_singleton ha hmd (hknown n md hmd)
    obtain ⟨hnames, hrows⟩ := ih fun m hm => horder m (List.mem_cons_of_mem n hm)
    rw [getAllCalls_cons n order _ hmd, hrow]
    constructor
    · rw [List.map_append, hnames, List.map_singleton, hcontainer]
      rfl
    · intro row' hrow'
      rcases List.mem_append.mp hrow' with hrow' | hrow'
      · rw [List.mem_singleton.mp hrow']
        exact htells
      · exact hrows row' hrow'

/-- In every run, the count of a server is that of the report that was last applied under its name
and what was routed to it since it was applied; it is infinite if the last probe that was applied
has brought no report. A report comes from a container that has room, so none that was full is
routed to before another report is applied. What is shown of the calls is one row for each server,
with that count, or with 0 if it is infinite. -/
theorem load_known (hw : WrittenByService redis)
    (hr : run (step describe) (World.start now redis scan containers) es = some w) :
    (∀ n md, w.service.mem.lsml.lookup n = some md → Known w n md) ∧
    (∀ n, Heartbeat.Routed w.service.mem n → ∃ l, w.reports n = some l ∧ HasRoom l) ∧
    ∀ order, order.Perm w.service.mem.lsml.keys →
      (getAllCalls order w.service.mem).map (·.container) = order ∧
        ∀ row ∈ getAllCalls order w.service.mem, Tells w row := by
  have hi := inv_run hw hr
  refine ⟨hi.known, fun n hrouted => ?_, fun order horder => ?_⟩
  · obtain ⟨c, hc, hne⟩ := hrouted.finite hi.aligned
    obtain ⟨md, hmd⟩ := Option.isSome_iff_exists.mp
      (lookup_isSome.mpr ((hi.aligned.keys n).mpr (mem_of_lookup_eq_some hc)))
    have hknown := hi.known n md hmd
    cases hl : w.reports n with
    | none =>
      have hcount := hknown.count
      rw [World.count, hl, hc] at hcount
      exact absurd (Option.some.inj hcount) hne
    | some l => exact ⟨l, rfl, hknown.room l hl⟩
  · exact getAllCalls_rows hi.aligned hi.known fun n hn => mem_keys.mpr (horder.mem_iff.mp hn)

/-- A container with three calls. -/
def sampleCounters : Counters :=
  ⟨7, 3, 25, ⟨by decide, by decide⟩, ⟨by decide, by decide⟩, ⟨by decide, by decide⟩⟩

def sampleContainers (address : String × Int) : Option Counters :=
  if address = ("203.0.113.5", 8086) then some sampleCounters else none

/-- One probe, and one call that is routed after it. -/
def sampleEvents : List Event :=
  [.service (.snapshot ["media-1"]), .service (.send "media-1"), .load "media-1", .load "media-1",
    .load "media-1", .load "media-1", .respond "media-1" ⟨0, by decide, by decide⟩,
    .service (.apply 0), .service (.access (.findLowest .inbound))]

/-- The container reports three calls, and a fourth one is routed to it. -/
theorem load_known_sample : ∃ w, run (step fun _ => "")
      (World.start 0 sampleRedis [("container:media-1", true)] sampleContainers) sampleEvents =
        some w ∧
    (w.reports "media-1").map (·.current.currentCalls) = some 3 ∧ w.selections "media-1" = 1 ∧
    w.service.mem.lscs.lookup "media-1" = some 4 ∧
    (∀ n md, w.service.mem.lsml.lookup n = some md → Known w n md) ∧
    (∀ n, Heartbeat.Routed w.service.mem n → ∃ l, w.reports n = some l ∧ HasRoom l) ∧
    ∀ order, order.Perm w.service.mem.lsml.keys →
      (getAllCalls order w.service.mem).map (·.container) = order ∧
        ∀ row ∈ getAllCalls order w.service.mem, Tells w row := by
  obtain ⟨w, hr⟩ : ∃ w, run (step fun _ => "") (World.start 0 sampleRedis
      [("container:media-1", true)] sampleContainers) sampleEvents = some w := ⟨_, rfl⟩
  have hreport : (run (step fun _ => "") (World.start 0 sampleRedis
      [("container:media-1", true)] sampleContainers) sampleEvents).map (fun w =>
        ((w.reports "media-1").map (·.current.currentCalls), w.selections "media-1",
          w.service.mem.lscs.lookup "media-1")) = some (some 3, 1, some 4) := by
    decide +kernel
  rw [hr] at hreport
  obtain ⟨hcalls, hrest⟩ := Prod.mk.inj (Option.some.inj hreport)
  obtain ⟨hselections, hcount⟩ := Prod.mk.inj hrest
  exact ⟨w, hr, hcalls, hselections, hcount, load_known sampleRedis_written hr⟩

end LoadBalancer.Fleet
