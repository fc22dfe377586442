import SipForward.LoadBalancer.Handlers

/-!
# Agreement of Redis and memory

A handler that has written to Redis owes an update of the in-memory state. As long as the updates
of one container are made in the order of the writes, a toggle writes back what is stored, and every
write reports what it did, Redis is ahead of memory by the updates that are owed: both agree once no
handler runs.
-/

namespace LoadBalancer

open AList Core

variable {s : State} {w w' : World} {n : String} {h : Handler} {redis redis' : Redis}
  {reply : Reply} {next : Option Handler} {scan : List (String × Bool)}

/-! ### Registrations in memory -/

/-- The registration of a server as memory has it. -/
def State.registration (s : State) (n : String) : Option ContainerRegistration :=
  (s.lsml.lookup n).map (·.registration)

@[simp] lemma toggle_registration (md : ServerMetadata) (req : ToggleContainerRequest) :
    (md.toggle req).registration = md.registration.toggle req := rfl

@[simp] lemma ContainerRegistration.toggle_name (reg : ContainerRegistration)
    (req : ToggleContainerRequest) : (reg.toggle req).name = reg.name := rfl

lemma registerServer_registration (hs : Aligned s) (now : Int) (reg : ContainerRegistration)
    (n : String) : (registerServer now reg s).registration n =
      if n = reg.name then some reg else s.registration n := by
  simp only [State.registration]
  rw [registerServer_lsml]
  split_ifs
  · rw [Option.map_some, registered_registration]
    intro md hmd
    exact hs.name reg.name md hmd
  · rfl

lemma unregisterServer_registration (name : String) (s : State) (n : String) :
    (unregisterServer name s).registration n = if n = name then none else s.registration n := by
  simp only [State.registration]
  rw [unregisterServer_lsml]
  split_ifs <;> rfl

lemma toggleServer_registration (name : String) (req : ToggleContainerRequest) (s : State)
    (n : String) : (toggleServer name req s).2.registration n =
      if n = name then (s.registration name).map (·.toggle req) else s.registration n := by
  simp only [State.registration]
  cases hmd : s.lsml.lookup name with
  | none =>
    rw [toggleServer_none req hmd]
    split_ifs with hn
    · rw [hn, hmd]
      rfl
    · rfl
  | some md =>
    rw [toggleServer_lsml req hmd]
    split_ifs <;> rfl

lemma applyResult_registration (now : Int) (s : State) (r : HealthResult) (n : String) :
    (applyResult now s r).registration n = s.registration n := by
  simp only [State.registration]
  cases hmd : s.lsml.lookup r.name with
  | none => rw [applyResult_none hmd]
  | some md =>
    rw [applyResult_some hmd]
    simp only [lookup_insert_ite]
    split_ifs with hn
    · rw [hn, hmd]
      rfl
    · rfl

/-- Routing and the heartbeat leave the registrations alone. -/
lemma background_registration {op : Op} (hop : op.isBackground = true) (s : State) (n : String) :
    (op.apply s).registration n = s.registration n := by
  cases op with
  | register now reg => cases hop
  | unregister name => cases hop
  | toggle name req => cases hop
  | findLowest d =>
    rw [Op.apply]
    rcases findLowest_state d s with heq | ⟨m, c, -, -, heq⟩ <;> rw [heq]
    rfl
  | findByType type order =>
    rw [Op.apply]
    rcases findByType_state type order s with heq | ⟨m, c, -, -, heq⟩ <;> rw [heq]
    rfl
  | heartbeat now results =>
    exact List.foldlRecOn (motive := fun s' => s'.registration n = s.registration n) results _ rfl
      fun s' hs' r _ => (applyResult_registration now s' r n).trans hs'

/-! ### What a handler does to a registration -/

/-- The record of a container in Redis. -/
def World.stored (w : World) (n : String) : Option ContainerRegistration :=
  w.redis.lookup (containerKey n)

/-- The registration of a container in memory. -/
def World.loaded (w : World) (n : String) : Option ContainerRegistration := w.mem.registration n

/-- A write reports what it did: `RegisterContainerHandler` and `UnregisterContainerHandler` take
a reported error for a write that was not executed, `ToggleContainerHandler` takes every SET for
one that was. -/
def Handler.reported (reply : Reply) : Handler → Bool
  | .registerSet _ | .unregisterDel _ => reply ≠ .lost
  | .toggleSet _ _ _ => reply ≠ .failed
  | _ => true

/-- What a handler's memory update makes of the registration of its container. -/
def Handler.effect : Handler → Option ContainerRegistration → Option ContainerRegistration
  | .registerServer reg   => fun _ => some reg
  | .unregisterServer _   => fun _ => none
  | .toggleServer _ req   => Option.map (·.toggle req)
  | _                     => id

/-- A toggle about to write holds what it would make of the record that is stored now. -/
def Handler.Fresh (stored : Option ContainerRegistration) : Handler → Prop
  | .toggleSet _ req reg => some reg = stored.map (·.toggle req)
  | _                    => True

instance decidableFresh (stored : Option ContainerRegistration) :
    ∀ h : Handler, Decidable (h.Fresh stored)
  | .toggleSet _ req reg => inferInstanceAs (Decidable (some reg = stored.map (·.toggle req)))
  | .registerGet _ => isTrue trivial
  | .registerSet _ => isTrue trivial
  | .registerServer _ => isTrue trivial
  | .unregisterDel _ => isTrue trivial
  | .unregisterServer _ => isTrue trivial
  | .toggleGet _ _ => isTrue trivial
  | .toggleServer _ _ => isTrue trivial

lemma Redis.lookup_set (redis : Redis) (name : String) (reg : ContainerRegistration) (n : String) :
    (redis.set name reg).lookup (containerKey n) =
      if n = name then some reg else redis.lookup (containerKey n) := by
  simp [Redis.set, lookup_insert_ite]

lemma Redis.lookup_del (redis : Redis) (name : String) (n : String) :
    (redis.del name).lookup (containerKey n) =
      if n = name then none else redis.lookup (containerKey n) := by
  simp [Redis.del, lookup_erase_ite]

/-- A memory update is what its handler owes. -/
lemma update_registration {now : Int} {op : Op} (hu : h.update now = some op) (hs : Aligned s)
    (n : String) : (op.apply s).registration n =
      if n = h.name then h.effect (s.registration n) else s.registration n := by
  cases h with
  | registerServer reg =>
    cases hu
    exact registerServer_registration hs now reg n
  | unregisterServer name =>
    cases hu
    exact unregisterServer_registration name s n
  | toggleServer name req =>
    cases hu
    simp only [Op.apply, toggleServer_registration, Handler.effect, Handler.name]
    by_cases hn : n = name
    · simp only [hn, if_true]
    · simp only [hn, if_false]
  | _ => cases hu

/-- What a reported Redis command can do: leave Redis as it is and move on to a step that owes
nothing, or bring Redis forward by the update that is then owed. -/
lemma Handler.Command.cases (hc : h.Command redis reply redis' next)
    (hreply : h.reported reply = true) (hfresh : h.Fresh (redis.lookup (containerKey h.name))) :
    (redis' = redis ∧ ∀ h' ∈ next, h'.owes = false) ∨
    ∃ h', next = some h' ∧ h'.name = h.name ∧ h'.owes = true ∧
      ∀ n, redis'.lookup (containerKey n) =
        if n = h.name then h'.effect (redis.lookup (containerKey n))
        else redis.lookup (containerKey n) := by
  cases hc with
  | registerGet | toggleGet | registerFailed | unregisterRefused | toggleRefused =>
    exact Or.inl ⟨rfl, by simp [Handler.owes]⟩
  | registerLost | unregisterLost | toggleFailed => cases hreply
  | @registerSet reg =>
    right
    exact ⟨_, rfl, rfl, rfl, Redis.lookup_set redis reg.name reg⟩
  | @unregisterDel name =>
    right
    exact ⟨_, rfl, rfl, rfl, Redis.lookup_del redis name⟩
  | @toggleSet _ name req reg =>
    right
    refine ⟨_, rfl, rfl, rfl, fun n => ?_⟩
    rw [Redis.lookup_set]
    by_cases hn : n = name
    · subst hn
      exact (if_pos rfl).trans (hfresh.trans (if_pos rfl).symm)
    · exact (if_neg hn).trans (if_neg hn).symm

/-! ### The invariant -/

/-- Redis is ahead of memory by the updates that are owed for the container. -/
def Settled (w : World) (n : String) : Prop :=
  w.stored n = (w.owed n).foldl (fun stored h => h.effect stored) (w.loaded n)

/-- A Redis command reports what it did, a toggle writes back the record that is stored with the
toggle applied, and a container's handlers update memory in the order in which they wrote. -/
def InOrder (w : World) : Event → Prop
  | .command id reply =>
    ∀ h ∈ w.handlers.lookup id, h.reported reply = true ∧ h.Fresh (w.stored h.name)
  | .update id _ => ∀ h ∈ w.handlers.lookup id, ∀ k ∈ w.before id, k.name ≠ h.name
  | _ => True

instance decidableInOrder (w : World) : ∀ e, Decidable (InOrder w e)
  | .command id reply =>
    inferInstanceAs (Decidable
      (∀ h ∈ w.handlers.lookup id, h.reported reply = true ∧ h.Fresh (w.stored h.name)))
  | .update id _ =>
    inferInstanceAs (Decidable (∀ h ∈ w.handlers.lookup id, ∀ k ∈ w.before id, k.name ≠ h.name))
  | .request _ _ => isTrue trivial
  | .background _ => isTrue trivial

lemma Settled.request (hs : Settled w n) {id : ℕ} (hid : id ∉ w.pending) (r : Request) :
    Settled { w with handlers := advance w.handlers id r.start } n := by
  have howed : World.owed { w with handlers := advance w.handlers id r.start } n = w.owed n := by
    simp only [World.owed]
    rw [filterMap_advance hid]
  show w.stored n = (World.owed { w with handlers := advance w.handlers id r.start } n).foldl _ _
  rw [howed]
  exact hs

lemma Settled.command (hs : Settled w n) {id : ℕ} (hid : id ∉ w.pending)
    (hc : h.Command w.redis reply redis' next) (hreply : h.reported reply = true)
    (hfresh : h.Fresh (w.stored h.name)) :
    Settled { w with
      redis := redis'
      handlers := advance w.handlers id next
      pending := enqueue w.pending id next } n := by
  show redis'.lookup (containerKey n) = (World.owed _ n).foldl _ (w.loaded n)
  rw [owed_advance hid, List.foldl_append, ← hs]
  rcases hc.cases hreply hfresh with ⟨rfl, hnext⟩ | ⟨h', rfl, hname, ho, hlook⟩
  · rw [queue_eq_nil fun k hk _ => hnext k hk]
    rfl
  · rw [hlook n]
    split_ifs with hn
    · rw [queue_eq_singleton ho (hname.trans hn.symm)]
      rfl
    · rw [queue_eq_nil]
      · rfl
      · rintro k ⟨⟩ hkn
        exact absurd (hkn.symm.trans hname) hn

lemma Settled.update (hs : Settled w n) (ha : Aligned w.mem) (hq : w.Queued) {id : ℕ} {now : Int}
    {op : Op} (hid : w.handlers.lookup id = some h) (hu : h.update now = some op)
    (hfirst : ∀ k ∈ w.before id, k.name ≠ h.name)
    (done : List (String × ToggleContainerRequest)) :
    Settled { w with
      mem := op.apply w.mem
      handlers := advance w.handlers id none
      pending := w.pending.erase id
      toggled := done } n := by
  obtain ⟨after, howed⟩ := hq.owed_update hid (Handler.owes_of_update hu) (op.apply w.mem) done
  obtain ⟨hbefore, hafter⟩ := howed n
  have hloaded := update_registration hu ha n
  show w.stored n = (World.owed _ n).foldl _ ((op.apply w.mem).registration n)
  rw [hafter, hloaded, hs, hbefore]
  by_cases hn : n = h.name
  · subst hn
    -- nobody of the container is ahead of the handler
    have hnone : (w.before id).filter (·.name = h.name) = [] := by
      simpa [List.filter_eq_nil_iff] using hfirst
    rw [hnone, if_pos rfl, if_pos rfl]
    rfl
  · rw [if_neg (Ne.symm hn), if_neg hn]
    rfl

lemma Settled.background (hs : Settled w n) {op : Op} (hop : op.isBackground = true) :
    Settled { w with mem := op.apply w.mem } n := by
  show w.stored n = (w.owed n).foldl _ ((op.apply w.mem).registration n)
  rw [background_registration hop]
  exact hs

/-- A command writes no record under a key that is not the record's own. -/
lemma WrittenByService.command (hw : WrittenByService redis)
    (hc : h.Command redis reply redis' next)
    (hfresh : h.Fresh (redis.lookup (containerKey h.name))) : WrittenByService redis' := by
  have hset : ∀ reg : ContainerRegistration, WrittenByService (redis.set reg.name reg) := by
    intro reg key reg' h'
    rw [Redis.set, lookup_insert_ite] at h'
    split_ifs at h' with hkey
    · cases h'
      exact hkey
    · exact hw key reg' h'
  have hdel : ∀ name, WrittenByService (redis.del name) := by
    intro name key reg' h'
    rw [Redis.del, lookup_erase_ite] at h'
    split_ifs at h'
    exact hw key reg' h'
  cases hc with
  | @registerSet reg | @registerLost reg => exact hset reg
  | @unregisterDel name | @unregisterLost name => exact hdel name
  | @toggleSet _ name req reg =>
    -- the record that is written back has the name of the one that was read
    obtain ⟨raw, hraw, rfl⟩ := Option.map_eq_some_iff.mp hfresh.symm
    obtain rfl : name = raw.name := containerKey_inj.mp (hw (containerKey name) raw hraw)
    exact hset (raw.toggle req)
  | _ => exact hw

/-- The invariant of a run whose handlers keep in order. -/
structure Synced (w : World) : Prop where
  aligned : Aligned w.mem
  written : WrittenByService w.redis
  queued : w.Queued
  settled : ∀ n, Settled w n

lemma Synced.step {e : Event} (hs : Synced w) (hord : InOrder w e) (he : step w e = some w') :
    Synced w' := by
  have hq' := hs.queued.step he
  cases step_spec he with
  | @request id r hid =>
    exact ⟨hs.aligned, hs.written, hq',
      fun n => (hs.settled n).request (hs.queued.not_mem_of_new hid) r⟩
  | @command id _ h _ _ hid hc =>
    obtain ⟨hreply, hfresh⟩ := hord h hid
    have hpending := hs.queued.not_mem_pending hid hc.not_owes
    exact ⟨hs.aligned, hs.written.command hc hfresh, hq',
      fun n => (hs.settled n).command hpending hc hreply hfresh⟩
  | @update id _ h _ hid hu =>
    exact ⟨hs.aligned.apply _, hs.written, hq',
      fun n => (hs.settled n).update hs.aligned hs.queued hid hu (hord h hid) _⟩
  | background hop =>
    exact ⟨hs.aligned.apply _, hs.written, hq', fun n => (hs.settled n).background hop⟩

/-! ### Start-up and restart -/

lemma init_registration (hw : WrittenByService redis) (hall : ScanComplete redis scan) (now : Int)
    (n : String) :
    (initServerArrays now redis scan).registration n = redis.lookup (containerKey n) := by
  rw [State.registration, init_lsml hw, Option.map_map, readRecord]
  split_ifs with hscan
  · cases redis.lookup (containerKey n) <;> rfl
  · by_contra hne
    refine hscan (hall _ ?_)
    rw [← lookup_isSome, ← Option.ne_none_iff_isSome]
    exact fun h => hne h.symm

/-- A service that has just started. -/
def World.start (now : Int) (redis : Redis) (scan : List (String × Bool)) : World :=
  .idle (initServerArrays now redis scan) redis

lemma idle_queued (mem : State) (redis : Redis) : (World.idle mem redis).Queued where
  nodup := List.nodup_nil
  owes id := by simp [World.idle]

lemma start_synced (hw : WrittenByService redis) (hall : ScanComplete redis scan) (now : Int) :
    Synced (World.start now redis scan) where
  aligned := init_aligned hw now
  written := hw
  queued := idle_queued _ redis
  settled n := (init_registration hw hall now n).symm

lemma Consistent.mem_servers (hs : Consistent s) (d : Direction) (n : String) :
    n ∈ s.servers d ↔ ∃ reg, s.registration n = some reg ∧ reg.enabled d = true := by
  rw [hs.listed, State.registration]
  constructor
  · rintro ⟨md, hmd, hen⟩
    exact ⟨md.registration, by rw [hmd]; rfl, by rw [ServerMetadata.registration_enabled, hen]⟩
  · rintro ⟨reg, hreg, hen⟩
    obtain ⟨md, hmd, rfl⟩ := Option.map_eq_some_iff.mp hreg
    exact ⟨md, hmd, by rw [← ServerMetadata.registration_enabled, hen]⟩

/-- Redis and memory agree on every container, and so does a restart, whatever SCAN yields then. -/
structure Agree (mem : State) (redis : Redis) : Prop where
  keys : ∀ key reg, redis.lookup key = some reg → key = containerKey reg.name
  registration : ∀ n, mem.registration n = redis.lookup (containerKey n)
  restart : ∀ now scan, ScanComplete redis scan → ∀ n,
    (initServerArrays now redis scan).registration n = mem.registration n
  servers : ∀ now scan, ScanComplete redis scan → ∀ d n,
    n ∈ (initServerArrays now redis scan).servers d ↔ n ∈ mem.servers d

lemma agree_of_registration {mem : State} (hw : WrittenByService redis) (hs : Consistent mem)
    (hreg : ∀ n, mem.registration n = redis.lookup (containerKey n)) : Agree mem redis where
  keys := hw
  registration := hreg
  restart now scan hall n := by rw [init_registration hw hall, hreg]
  servers now scan hall d n := by
    have hinit := init_registration hw hall now n
    rw [mem_init_servers hw, hs.mem_servers, hreg, ← hinit, State.registration]
    constructor
    · rintro ⟨md, hmd, hen⟩
      exact ⟨md.registration, by rw [hmd]; rfl, by rw [ServerMetadata.registration_enabled, hen]⟩
    · rintro ⟨reg, hr, hen⟩
      obtain ⟨md, hmd, rfl⟩ := Option.map_eq_some_iff.mp hr
      exact ⟨md, hmd, by rw [← ServerMetadata.registration_enabled, hen]⟩

/-- After a start-up that read every record and listed no container twice, and as long as every
Redis write reports what it did, toggles write back what is stored and memory is updated in the
order of the writes, Redis and memory agree whenever no handler runs. -/
theorem idle_agree (hw : WrittenByService redis) (hall : ScanComplete redis scan)
    (hscan : ScanOnce redis scan) (now : Int) (es : List Event)
    (hord : Guarded step InOrder (World.start now redis scan) es)
    (hrun : run step (World.start now redis scan) es = some w) (hidle : w.handlers = ∅) :
    Agree w.mem w.redis := by
  have hs : Synced w :=
    run_invariant (fun _ _ _ hs hi he => hs.step hi he) (start_synced hw hall now) hord hrun
  have hc : Consistent w.mem :=
    run_invariant' (fun _ _ _ hs he => step_consistent hs he)
      ((init_consistent_iff hw now).mpr hscan) hrun
  refine agree_of_registration hs.written hc fun n => ?_
  have hnone : w.owed n = [] := by
    refine List.eq_nil_iff_forall_not_mem.mpr fun h hmem => ?_
    obtain ⟨id, hid, -⟩ := hs.queued.mem_owed.mp hmem
    rw [hidle] at hid
    cases hid
  have hsettled := hs.settled n
  rw [Settled, hnone] at hsettled
  exact hsettled.symm

/-- A toggle whose SET fails is applied in memory and answered with 200; Redis keeps the old
flags. -/
theorem toggleSet_failed_disagree :
    ∃ w, run step (World.start 0 sampleRedis [("container:media-1", true)])
        [.request 0 (.toggle "media-1" ⟨none, some false⟩), .command 0 .ok, .command 0 .failed,
          .update 0 0] = some w ∧ w.handlers = ∅ ∧ ¬ Agree w.mem w.redis := by
  refine ⟨_, rfl, rfl, fun h => ?_⟩
  exact absurd (h.registration "media-1") (by decide)

theorem idle_agree_sample :
    ∃ w, run step (World.start 0 sampleRedis [("container:media-1", true)])
        [.request 0 (.toggle "media-1" ⟨none, some false⟩), .request 1 (.unregister "media-1"),
          .command 0 .ok, .command 0 .ok, .command 1 .ok, .update 0 0, .update 1 0] = some w ∧
      Agree w.mem w.redis :=
  ⟨_, rfl, idle_agree sampleRedis_written (sampleRedis_complete (by decide)) sampleRedis_once
    0 [.request 0 (.toggle "media-1" ⟨none, some false⟩), .request 1 (.unregister "media-1"),
      .command 0 .ok, .command 0 .ok, .command 1 .ok, .update 0 0, .update 1 0]
    (by decide) rfl rfl⟩

end LoadBalancer
