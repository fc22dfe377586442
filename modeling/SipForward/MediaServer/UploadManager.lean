import SipForward.Core.Pool
import SipForward.MediaServer.Environment
import Mathlib.Tactic.Abel
import Mathlib.Data.List.Range

/-!
# Uploads

`UploadManager` has one queue of recordings, and several workers that upload them. A caller gets the
future of a promise that the worker keeps after the upload.
-/

namespace MediaServer.Uploads

open Core

/-! ### Jobs and workers -/

structure Job where
  callId : String
  wavData : List UInt8
  folder : String
  /-- The promise of the caller, by its number. -/
  result : ℕ
deriving DecidableEq

/-- What a caller of `submit` hands over. -/
structure Submission where
  callId : String
  wavData : List UInt8
  folder : String

/-- What comes of `uploadWithHandle`; with `false` the retries are exhausted. -/
inductive Outcome where
  | returned (ok : Bool)
  | threw
deriving DecidableEq

/-- The value for the promise. -/
def Outcome.ok : Outcome → Bool
  | .returned ok => ok
  | .threw       => false

inductive Work where
  | uploading (job : Job)
  | uploaded (job : Job) (ok : Bool)
  | ended

inductive Effect where
  | upload (job : Job) (outcome : Outcome)
  | setValue (promise : ℕ) (ok : Bool)
deriving DecidableEq

/-- `processJobs`. The workers drain the queue before they end. -/
def processJobs : Bool → Work → Option Outcome → Option (Option Work × List Effect)
  | _, .uploading job, some outcome =>
    some (some (.uploaded job outcome.ok), [.upload job outcome])
  | _, .uploaded job ok, none       => some (none, [.setValue job.result ok])
  | _, _, _                         => none

def program : Program Submission Job Work (Option Outcome) Effect where
  accept n x := (0, ⟨x.callId, x.wavData, x.folder, n⟩)
  take := .uploading
  empty running := if running then none else some .ended
  go := processJobs
  ended
    | .ended => true
    | _      => false

abbrev UploadManager := Pool Job Work Effect

abbrev Event := PoolEvent Submission (Option Outcome)

def UploadManager.new (env : Env) : UploadManager where
  monitors := [⟨[], List.replicate (numWorkers env "UPLOAD_THREADS") .waiting, 0⟩]
  stage := .running
  pushed := []
  log := []

abbrev step : UploadManager → Event → Option UploadManager := Pool.step program

/-! ### What should come of them -/

/-- The job that a worker is to upload, or is uploading. -/
def Work.job : Work → Option Job
  | .uploading job => some job
  | _              => none

/-- The promise that a worker is to set, and its value. -/
def Work.promise : Work → Option (ℕ × Bool)
  | .uploaded job ok => some (job.result, ok)
  | _                => none

def Effect.job : Effect → Option Job
  | .upload job _ => some job
  | _             => none

/-- The promise of a job that was uploaded, and the value for it. -/
def Effect.outcome : Effect → Option (ℕ × Bool)
  | .upload job outcome => some (job.result, outcome.ok)
  | _                   => none

/-- The promise that was set, and its value. -/
def Effect.value : Effect → Option (ℕ × Bool)
  | .setValue promise ok => some (promise, ok)
  | _                    => none

/-- A step is no submission, once `stop` was called. -/
def SubmittedBefore (s : UploadManager) : Event → Prop
  | .push _ => s.running = true
  | _       => True

/-- The jobs for what was submitted, each with its promise. -/
def jobsOf (submissions : List Submission) : List Job :=
  submissions.zipIdx.map fun p => ⟨p.1.callId, p.1.wavData, p.1.folder, p.2⟩

/-- No job is left; every job was uploaded once, and its promise was set once, to the outcome; and
nothing else was uploaded. -/
structure Drained (s : UploadManager) (jobs : List Job) : Prop where
  empty : ∀ m ∈ s.monitors, m.queue = []
  once : ∀ job ∈ jobs, ∃ outcome,
    (s.log.filter fun e => e.job.any fun j => j.result = job.result) = [.upload job outcome] ∧
      (s.log.filter fun e => e.value.any fun v => v.1 = job.result) =
        [.setValue job.result outcome.ok]
  only : ∀ job outcome, .upload job outcome ∈ s.log → job ∈ jobs

variable {env : Env} {s s' : UploadManager} {e : Event} {es : List Event} {k i : ℕ}
  {m m' : Monitor Job Work} {p : Place Work}

/-- Every job is in the queue, with a worker, or uploaded; every outcome of an upload is with a
worker or was given to its promise; and a worker ends with an empty queue only. -/
structure Inv (s : UploadManager) (m : Monitor Job Work) : Prop where
  jobs : (s.pushed : Multiset Job) = (m.queue : Multiset Job) + m.held Work.job +
    (s.log.filterMap Effect.job : Multiset Job)
  outcomes : (s.log.filterMap Effect.outcome : Multiset (ℕ × Bool)) =
    m.held Work.promise + (s.log.filterMap Effect.value : Multiset (ℕ × Bool))
  promises : s.pushed.map (·.result) = List.range s.pushed.length
  ended : .ended ∈ m.hands → m.queue = [] ∧ s.running = false

/-- The manager has one monitor, with all workers, for which the invariant holds. -/
def Sound (env : Env) (s : UploadManager) : Prop :=
  ∃ m, s.monitors = [m] ∧ m.threads.length = numWorkers env "UPLOAD_THREADS" ∧ Inv s m

lemma Inv.new : Inv (UploadManager.new env)
    ⟨[], List.replicate (numWorkers env "UPLOAD_THREADS") .waiting, 0⟩ := by
  have hhands : Monitor.hands (α := Job) ⟨[], List.replicate
      (numWorkers env "UPLOAD_THREADS") (.waiting : Place Work), 0⟩ = [] := by
    simp [Monitor.hands, Place.hand]
  constructor
  · simp [UploadManager.new, Monitor.held, hhands]
  · simp [UploadManager.new, Monitor.held, hhands]
  · rfl
  · intro h
    rw [hhands] at h
    cases h

/-! ### Steps -/

lemma eq_of_getElem? {m₁ : Monitor Job Work} (hmon : s.monitors = [m])
    (hm : s.monitors[k]? = some m₁) : k = 0 ∧ m₁ = m := by
  rw [hmon, List.getElem?_singleton] at hm
  split_ifs at hm with hk
  exact ⟨hk, (Option.some.inj hm).symm⟩

/-- A job is submitted while the workers run, so that none of them has ended. -/
lemma Inv.push {x : Submission} {a : Job} (hs : Inv s m) (hrunning : s.running = true)
    (haccept : program.accept s.pushed.length x = (k, a)) (monitors : List (Monitor Job Work)) :
    Inv ⟨monitors, s.stage, s.pushed ++ [a], s.log⟩
      { m with queue := m.queue ++ [a], pending := m.pending + 1 } := by
  cases haccept
  constructor
  · have hheld : Monitor.held Work.job { m with
        queue := m.queue ++ [⟨x.callId, x.wavData, x.folder, s.pushed.length⟩]
        pending := m.pending + 1 } = m.held Work.job := rfl
    rw [hheld, ← Multiset.coe_add, ← Multiset.coe_add, hs.jobs]
    abel
  · exact hs.outcomes
  · rw [List.map_append, hs.promises, List.length_append, List.length_singleton, List.range_succ]
    rfl
  · intro hended
    rw [(hs.ended hended).2] at hrunning
    cases hrunning

lemma Inv.idle (hs : Inv s m) (hidle : m.Idle m') (monitors : List (Monitor Job Work)) :
    Inv { s with monitors := monitors } m' := by
  constructor
  · rw [hidle.queue, hidle.held]
    exact hs.jobs
  · rw [hidle.held]
    exact hs.outcomes
  · exact hs.promises
  · rw [hidle.hands, hidle.queue]
    exact hs.ended

/-- The first job goes from the queue into the hands of a worker. -/
lemma Inv.found {a : Job} {rest : List Job} (hs : Inv s m) (hi : m.threads[i]? = some .entered)
    (hqueue : m.queue = a :: rest) (monitors : List (Monitor Job Work)) :
    Inv { s with monitors := monitors }
      ({ m with queue := rest }.put i (.away (.uploading a))) := by
  constructor
  · rw [Monitor.held_put_of_none (m := { m with queue := rest }) hi rfl]
    have hjobs := hs.jobs
    rw [hqueue, ← List.singleton_append, ← Multiset.coe_add] at hjobs
    change (s.pushed : Multiset Job) = (rest : Multiset Job) + (([a] : Multiset Job) +
      m.held Work.job) + _
    rw [hjobs]
    abel
  · rw [Monitor.held_put_of_none (m := { m with queue := rest }) hi rfl]
    change _ = 0 + m.held Work.promise + _
    rw [zero_add]
    exact hs.outcomes
  · exact hs.promises
  · intro hended
    rcases Monitor.mem_hands_put (m := { m with queue := rest }) hended with hended | hhand
    · rw [(hs.ended hended).1] at hqueue
      cases hqueue
    · cases hhand

/-- A worker that finds no job ends if the manager was stopped. -/
lemma Inv.empty (hs : Inv s m) (hi : m.threads[i]? = some .entered) (hqueue : m.queue = [])
    (monitors : List (Monitor Job Work)) :
    Inv { s with monitors := monitors } (m.put i (.next (program.empty s.running))) := by
  have hnothing : ∀ {β : Type} (g : Work → Option β), g .ended = none →
      (m.put i (.next (program.empty s.running))).held g = m.held g := by
    intro β g hg
    rw [Monitor.held_put_of_none hi rfl, Place.hand_next]
    cases hrunning : s.running with
    | true => simp [program]
    | false => simp [program, hg]
  constructor
  · rw [hnothing Work.job rfl]
    exact hs.jobs
  · rw [hnothing Work.promise rfl]
    exact hs.outcomes
  · exact hs.promises
  · intro hended
    refine ⟨hqueue, ?_⟩
    rcases Monitor.mem_hands_put hended with hended | hhand
    · exact (hs.ended hended).2
    · rw [Place.hand_next] at hhand
      cases hrunning : s.running with
      | true =>
        rw [hrunning] at hhand
        cases hhand
      | false => exact hrunning

/-- A worker that has uploaded its job is to set the promise. -/
lemma Inv.upload {job : Job} {outcome : Outcome} (hs : Inv s m)
    (hi : m.threads[i]? = some (.away (.uploading job))) (monitors : List (Monitor Job Work)) :
    Inv { s with monitors := monitors, log := s.log ++ [.upload job outcome] }
      (m.put i (.away (.uploaded job outcome.ok))) := by
  have hjob : (([job] : List Job) : Multiset Job) +
      (m.put i (.away (.uploaded job outcome.ok))).held Work.job = m.held Work.job :=
    Monitor.held_put_to_none hi rfl
  have hpromise : (m.put i (.away (.uploaded job outcome.ok))).held Work.promise =
      (([(job.result, outcome.ok)] : List (ℕ × Bool)) : Multiset (ℕ × Bool)) +
        m.held Work.promise :=
    Monitor.held_put_of_none hi rfl
  constructor
  · have hlog : (s.log ++ [Effect.upload job outcome]).filterMap Effect.job =
        s.log.filterMap Effect.job ++ [job] := List.filterMap_append
    rw [hlog, ← Multiset.coe_add, hs.jobs, ← hjob]
    change _ = (m.queue : Multiset Job) + _ + _
    abel
  · have hlog : (s.log ++ [Effect.upload job outcome]).filterMap Effect.outcome =
        s.log.filterMap Effect.outcome ++ [(job.result, outcome.ok)] := List.filterMap_append
    have hvalues : (s.log ++ [Effect.upload job outcome]).filterMap Effect.value =
        s.log.filterMap Effect.value ++ [] := List.filterMap_append
    rw [hlog, hvalues, List.append_nil, ← Multiset.coe_add, hs.outcomes, hpromise]
    abel
  · exact hs.promises
  · intro hended
    rcases Monitor.mem_hands_put hended with hended | hhand
    · exact hs.ended hended
    · cases hhand

/-- A worker that has set the promise goes back to the queue. -/
lemma Inv.setValue {job : Job} {ok : Bool} (hs : Inv s m)
    (hi : m.threads[i]? = some (.away (.uploaded job ok))) (monitors : List (Monitor Job Work)) :
    Inv { s with monitors := monitors, log := s.log ++ [.setValue job.result ok] }
      (m.put i .waiting) := by
  have hjob : (m.put i .waiting).held Work.job = m.held Work.job :=
    (Monitor.held_put_of_none hi rfl).trans (zero_add _)
  have hpromise : (([(job.result, ok)] : List (ℕ × Bool)) : Multiset (ℕ × Bool)) +
      (m.put i .waiting).held Work.promise = m.held Work.promise :=
    Monitor.held_put_to_none hi rfl
  constructor
  · have hlog : (s.log ++ [Effect.setValue job.result ok]).filterMap Effect.job =
        s.log.filterMap Effect.job ++ [] := List.filterMap_append
    rw [hlog, List.append_nil, hjob]
    exact hs.jobs
  · have hlog : (s.log ++ [Effect.setValue job.result ok]).filterMap Effect.outcome =
        s.log.filterMap Effect.outcome ++ [] := List.filterMap_append
    have hvalues : (s.log ++ [Effect.setValue job.result ok]).filterMap Effect.value =
        s.log.filterMap Effect.value ++ [(job.result, ok)] := List.filterMap_append
    rw [hlog, hvalues, List.append_nil, ← Multiset.coe_add, hs.outcomes, ← hpromise]
    abel
  · exact hs.promises
  · intro hended
    rcases Monitor.mem_hands_put hended with hended | hhand
    · exact hs.ended hended
    · cases hhand

lemma Inv.go {w : Work} {w' : Option Work} {x : Option Outcome} {out : List Effect} (hs : Inv s m)
    (hi : m.threads[i]? = some (.away w)) (hgo : processJobs s.running w x = some (w', out))
    (monitors : List (Monitor Job Work)) :
    Inv { s with monitors := monitors, log := s.log ++ out } (m.put i (.next w')) := by
  cases w with
  | uploading job =>
    cases x with
    | none => cases hgo
    | some outcome =>
      cases hgo
      exact hs.upload hi monitors
  | uploaded job ok =>
    cases x with
    | none =>
      cases hgo
      exact hs.setValue hi monitors
    | some outcome => cases hgo
  | ended => cases x <;> cases hgo

/-- The shutdown does not touch jobs. -/
lemma Inv.shutdown {stage : Stage} (hs : Inv s m) (hstage : stage ≠ .running) :
    Inv { s with stage := stage } m :=
  ⟨hs.jobs, hs.outcomes, hs.promises, fun hended =>
    ⟨(hs.ended hended).1, decide_eq_false hstage⟩⟩

lemma Sound.step (hs : Sound env s) (hguard : SubmittedBefore s e)
    (h : step s e = some s') : Sound env s' := by
  obtain ⟨m, hmon, hlength, hinv⟩ := hs
  have hset : ∀ m', s.monitors.set 0 m' = [m'] := by
    intro m'
    rw [hmon]
    rfl
  cases Pool.Stepped.of_step h with
  | push haccept hm =>
    obtain ⟨rfl, rfl⟩ := eq_of_getElem? hmon hm
    exact ⟨_, hset _, hlength, hinv.push hguard haccept _⟩
  | idle he hm hidle =>
    obtain ⟨rfl, rfl⟩ := eq_of_getElem? hmon hm
    exact ⟨_, hset _, hidle.length.trans hlength, hinv.idle hidle _⟩
  | found hm hi hqueue =>
    obtain ⟨rfl, rfl⟩ := eq_of_getElem? hmon hm
    exact ⟨_, hset _, List.length_set.trans hlength, hinv.found hi hqueue _⟩
  | empty hm hi hqueue =>
    obtain ⟨rfl, rfl⟩ := eq_of_getElem? hmon hm
    exact ⟨_, hset _, List.length_set.trans hlength, hinv.empty hi hqueue _⟩
  | go hm hi hgo =>
    obtain ⟨rfl, rfl⟩ := eq_of_getElem? hmon hm
    exact ⟨_, hset _, List.length_set.trans hlength, hinv.go hi hgo _⟩
  | stop hstage => exact ⟨m, hmon, hlength, hinv.shutdown (by simp)⟩
  | notifyAll hstage hm =>
    obtain ⟨rfl, rfl⟩ := eq_of_getElem? hmon hm
    refine ⟨_, hset _, (List.length_map _).trans hlength, ?_⟩
    exact (hinv.shutdown (by simp)).idle (.notifyAll _) _
  | join hstage hended => exact ⟨m, hmon, hlength, hinv.shutdown (by simp)⟩

/-! ### After the shutdown -/

lemma Sound.new : Sound env (UploadManager.new env) :=
  ⟨_, rfl, List.length_replicate, .new⟩

lemma final_program : program.Final := by
  intro running w x hended
  cases w with
  | ended => cases x <;> rfl
  | uploading job => cases hended
  | uploaded job ok => cases hended

/-- With nothing left in the queue and in the hands of the workers, all promises are kept. -/
lemma Inv.drained (hs : Inv s m) (hmon : s.monitors = [m]) (hqueue : m.queue = [])
    (hjob : m.held Work.job = 0) (hpromise : m.held Work.promise = 0) : Drained s s.pushed := by
  have hjobs : (s.log.filterMap Effect.job).Perm s.pushed := by
    have := hs.jobs
    rw [hqueue, hjob, Multiset.coe_nil, zero_add, zero_add] at this
    exact Multiset.coe_eq_coe.mp this.symm
  have hvalues : (s.log.filterMap Effect.value).Perm (s.log.filterMap Effect.outcome) := by
    have := hs.outcomes
    rw [hpromise, zero_add] at this
    exact Multiset.coe_eq_coe.mp this.symm
  have hnodup : (s.pushed.map (·.result)).Nodup := by
    rw [hs.promises]
    exact List.nodup_range
  constructor
  · intro m₁ hm₁
    rw [hmon, List.mem_singleton] at hm₁
    rw [hm₁, hqueue]
  · intro job hmem
    have hupload :
        (s.log.filterMap Effect.job).filter (fun j => j.result = job.result) = [job] := by
      have hperm := hjobs.filter fun j => j.result = job.result
      rw [filter_key_eq_singleton hnodup hmem] at hperm
      exact List.perm_singleton.mp hperm
    obtain ⟨e, he, hejob⟩ := filter_eq_singleton hupload
    cases e with
    | setValue promise ok => cases hejob
    | upload job' outcome =>
      obtain rfl : job' = job := Option.some.inj hejob
      refine ⟨outcome, he, ?_⟩
      have houtcome : (s.log.filterMap Effect.outcome).filter (fun v => v.1 = job'.result) =
          [(job'.result, outcome.ok)] := by
        rw [filter_filterMap]
        have hsame : ∀ e : Effect, e.outcome.any (fun v => decide (v.1 = job'.result)) =
            e.job.any fun j => decide (j.result = job'.result) := by
          intro e
          cases e with
          | upload | setValue => rfl
        rw [List.filter_congr fun e _ => hsame e, he]
        rfl
      have hvalue : (s.log.filterMap Effect.value).filter (fun v => v.1 = job'.result) =
          [(job'.result, outcome.ok)] := by
        have hperm := hvalues.filter fun v => v.1 = job'.result
        rw [houtcome] at hperm
        exact List.perm_singleton.mp hperm
      obtain ⟨e, hset, hevalue⟩ := filter_eq_singleton hvalue
      rw [hset]
      cases e with
      | upload => cases hevalue
      | setValue promise ok =>
        obtain ⟨rfl, rfl⟩ := Prod.mk.inj (Option.some.inj hevalue)
        rfl
  · intro job outcome hmem
    exact hjobs.subset (List.mem_filterMap.mpr ⟨_, hmem, rfl⟩)

lemma pushed_eq (hr : run step (UploadManager.new env) es = some s) :
    s.pushed = jobsOf (es.filterMap PoolEvent.submission) :=
  Pool.pushed_run hr

/-- When `stop` returns, after submissions that came before it, the job of every submission was
uploaded exactly once and its promise set exactly once. -/
theorem stop_drains (hr : run step (UploadManager.new env) es = some s)
    (hbefore : Guarded step SubmittedBefore (UploadManager.new env) es)
    (hstopped : s.stage = .stopped) :
    Drained s (jobsOf (es.filterMap PoolEvent.submission)) := by
  obtain ⟨m, hmon, hlength, hinv⟩ :=
    run_invariant (I := Sound env) (fun s e s' hs hguard h => hs.step hguard h) .new hbefore hr
  have hended : s.Ended program :=
    run_invariant' (I := fun s : UploadManager => s.stage = .stopped → s.Ended program)
      (fun s e s' hs h => Pool.ended_of_stopped final_program hs (.of_step h))
      (fun h => by cases h) hr hstopped
  obtain ⟨hcount, hall⟩ := Monitor.forall_away_iff.mp (hended m (hmon ▸ List.mem_singleton_self m))
  have hends : ∀ w ∈ m.hands, w = .ended := by
    intro w hw
    have := hall w hw
    cases w with
    | ended => rfl
    | uploading | uploaded => cases this
  have hempty : m.queue = [] := by
    obtain ⟨w, hw⟩ := List.exists_mem_of_length_pos (l := m.hands) (by
      rw [hcount, hlength]
      exact numWorkers_pos env _)
    exact (hinv.ended (hends w hw ▸ hw)).1
  have hnothing : ∀ {β : Type} (g : Work → Option β), g .ended = none → m.held g = 0 := by
    intro β g hg
    have hnil : m.hands.filterMap g = [] := List.filterMap_eq_nil_iff.mpr fun w hw => by
      rw [hends w hw, hg]
    rw [Monitor.held, hnil]
    rfl
  rw [← pushed_eq hr]
  exact hinv.drained hmon hempty (hnothing _ rfl) (hnothing _ rfl)

instance (s : UploadManager) : DecidablePred (SubmittedBefore s)
  | .push _ => inferInstanceAs (Decidable (s.running = true))
  | .notifyOne .. | .check .. | .block .. | .wake .. | .leave .. | .go .. | .stop | .notifyAll
  | .join   => isTrue trivial

def twoThreads : Env := fun name => if name = "UPLOAD_THREADS" then some "2" else none

/-- Two jobs; the second upload throws, and comes after `stop` was called. -/
def twoUploads : List Event :=
  [.check 0 0, .block 0 0, .push ⟨"call-1", [0, 1], "mixed"⟩, .notifyOne 0 (some 0), .check 0 0,
    .leave 0 0, .push ⟨"call-1", [2, 3], "user"⟩, .check 0 1, .leave 0 1,
    .go 0 0 (some (.returned true)), .notifyOne 0 none, .stop, .go 0 1 (some .threw), .notifyAll,
    .go 0 0 none, .go 0 1 none, .check 0 0, .leave 0 0, .check 0 1, .leave 0 1, .join]

theorem stop_drains_sample : ∃ s, run step (UploadManager.new twoThreads) twoUploads = some s ∧
    s.log = [.upload ⟨"call-1", [0, 1], "mixed", 0⟩ (.returned true),
      .upload ⟨"call-1", [2, 3], "user", 1⟩ .threw, .setValue 0 true, .setValue 1 false] ∧
    Drained s [⟨"call-1", [0, 1], "mixed", 0⟩, ⟨"call-1", [2, 3], "user", 1⟩] := by
  have hrun : (run step (UploadManager.new twoThreads) twoUploads).map (fun s =>
      (s.stage, s.log)) = some (.stopped, [.upload ⟨"call-1", [0, 1], "mixed", 0⟩ (.returned true),
        .upload ⟨"call-1", [2, 3], "user", 1⟩ .threw, .setValue 0 true, .setValue 1 false]) := by
    decide +kernel
  obtain ⟨s, hr, hrun⟩ := Option.map_eq_some_iff.mp hrun
  obtain ⟨hstopped, hlog⟩ := Prod.mk.inj hrun
  exact ⟨s, hr, hlog, stop_drains hr (by decide +kernel) hstopped⟩

end MediaServer.Uploads
