import SipForward.Core.Run
import SipForward.LoadBalancer.Invariant

/-!
# The registration handlers

`RegisterContainerHandler`, `UnregisterContainerHandler` and `ToggleContainerHandler` as small
steps: each Redis command and each access to the in-memory state is a step of its own, and the
steps of concurrent handlers interleave in any order. A handler that runs is represented by what it
is about to do next.
-/

namespace LoadBalancer

open AList Core

/-! ### Handlers -/

/-- How a Redis command ends. A command that is `lost` was executed, but its reply did not arrive,
so that the client reports an error. -/
inductive Reply where
  | ok
  | failed
  | lost
deriving DecidableEq, Repr

/-- A request to one of the three endpoints. A payload that does not bind is refused before the
first step and is not a request here. -/
inductive Request where
  | register (req : ContainerRegisterRequest)
  | unregister (name : String)
  | toggle (name : String) (req : ToggleContainerRequest)
deriving DecidableEq, Repr

/-- A handler that runs, with the local variables its next step reads. -/
inductive Handler where
  | registerGet (req : ContainerRegisterRequest)
  | registerSet (reg : ContainerRegistration)
  | registerServer (reg : ContainerRegistration)
  | unregisterDel (name : String)
  | unregisterServer (name : String)
  | toggleGet (name : String) (req : ToggleContainerRequest)
  | toggleSet (name : String) (req : ToggleContainerRequest) (reg : ContainerRegistration)
  | toggleServer (name : String) (req : ToggleContainerRequest)
deriving DecidableEq, Repr

/-- The container a handler is about. -/
def Handler.name : Handler → String
  | .registerGet req      => req.name
  | .registerSet reg      => reg.name
  | .registerServer reg   => reg.name
  | .unregisterDel name   => name
  | .unregisterServer name => name
  | .toggleGet name _     => name
  | .toggleSet name _ _   => name
  | .toggleServer name _  => name

/-- The handler's first step; `none` when the request is refused for its empty name. -/
def Request.start : Request → Option Handler
  | .register req    => some (.registerGet req)
  | .unregister name => if name = "" then none else some (.unregisterDel name)
  | .toggle name req => if name = "" then none else some (.toggleGet name req)

/-- `IsDockerInternalIP`. -/
def isDockerInternalIP (host : String) : Bool :=
  decide ("172.".toList <+: host.toList) || decide ("10.".toList <+: host.toList) ||
    decide ("192.168.".toList <+: host.toList)

/-- The port of a registration, with the correction for Docker internal addresses. -/
def ContainerRegisterRequest.finalPort (req : ContainerRegisterRequest) : Int :=
  if isDockerInternalIP req.host then 8086 else req.port

/-- The record `RegisterContainerHandler` builds. The flags are those of the existing record; with
none, or when it could not be read, both are off. -/
def ContainerRegisterRequest.build (req : ContainerRegisterRequest)
    (existing : Option ContainerRegistration) : ContainerRegistration where
  name := req.name
  host := req.host
  port := req.finalPort
  aor := req.aor
  contactURI := req.contactURI
  inboundEnabled := existing.any (·.inboundEnabled)
  outboundEnabled := existing.any (·.outboundEnabled)

/-- The toggles of a request applied to a record. -/
def ContainerRegistration.toggle (reg : ContainerRegistration) (req : ToggleContainerRequest) :
    ContainerRegistration :=
  { reg with
    inboundEnabled := req.inboundEnabled.getD reg.inboundEnabled
    outboundEnabled := req.outboundEnabled.getD reg.outboundEnabled }

/-- Redis after SET. -/
def Redis.set (redis : Redis) (name : String) (reg : ContainerRegistration) : Redis :=
  redis.insert (containerKey name) reg

/-- Redis after DEL. -/
def Redis.del (redis : Redis) (name : String) : Redis := redis.erase (containerKey name)

/-- A handler's Redis command: the contents of Redis after it, and the handler's next step unless it
has ended. `none` for a handler whose next step is not a command. -/
def Handler.command (reply : Reply) (redis : Redis) : Handler → Option (Redis × Option Handler)
  | .registerGet req =>
    let existing := if reply = .ok then redis.lookup (containerKey req.name) else none
    some (redis, some (.registerSet (req.build existing)))
  | .registerSet reg =>
    match reply with
    | .ok     => some (redis.set reg.name reg, some (.registerServer reg))
    | .failed => some (redis, none)
    | .lost   => some (redis.set reg.name reg, none)
  | .unregisterDel name =>
    match reply with
    | .ok =>
      -- a container that is not stored is answered with 404
      if containerKey name ∈ redis then some (redis.del name, some (.unregisterServer name))
      else some (redis, none)
    | .failed => some (redis, none)
    | .lost   => some (redis.del name, none)
  | .toggleGet name req =>
    match reply, redis.lookup (containerKey name) with
    | .ok, some reg => some (redis, some (.toggleSet name req (reg.toggle req)))
    | _, _          => some (redis, none)
  | .toggleSet name req reg =>
    -- the error of this SET is not looked at
    match reply with
    | .failed => some (redis, some (.toggleServer name req))
    | _       => some (redis.set name reg, some (.toggleServer name req))
  | _ => none

/-- A handler's update of the in-memory state, its last step. -/
def Handler.update (now : Int) : Handler → Option Op
  | .registerServer reg    => some (.register now reg)
  | .unregisterServer name => some (.unregister name)
  | .toggleServer name req => some (.toggle name req)
  | _                      => none

/-- Whether a handler's next step is its update of the in-memory state. -/
def Handler.owes : Handler → Bool
  | .registerServer _ | .unregisterServer _ | .toggleServer _ _ => true
  | _ => false

/-! ### The service -/

/-- The service with its Redis. `pending` and `toggled` are ghost state: the handlers that have
written to Redis and not yet updated memory, in the order of their writes, and the toggles that have
been answered with 200, oldest first. -/
structure World where
  mem : State
  redis : Redis
  handlers : AList fun _ : ℕ => Handler
  pending : List ℕ
  toggled : List (String × ToggleContainerRequest)

/-- A service whose handlers have all ended. -/
def World.idle (mem : State) (redis : Redis) : World := ⟨mem, redis, ∅, [], []⟩

/-- Routing and the heartbeat, which do not take part in registration. -/
def Op.isBackground : Op → Bool
  | .register _ _ | .unregister _ | .toggle _ _ => false
  | .findLowest _ | .findByType _ _ | .heartbeat _ _ => true

/-- A step: a request comes in, a handler executes its Redis command or its update of the
in-memory state, or another part of the service accesses that state. -/
inductive Event where
  | request (id : ℕ) (r : Request)
  | command (id : ℕ) (reply : Reply)
  | update (id : ℕ) (now : Int)
  | background (op : Op)

/-- The handlers after one of them has taken a step. -/
def advance (handlers : AList fun _ : ℕ => Handler) (id : ℕ) :
    Option Handler → AList fun _ : ℕ => Handler
  | some h => handlers.insert id h
  | none   => handlers.erase id

/-- The pending handlers after a Redis command of one of the handlers. -/
def enqueue (pending : List ℕ) (id : ℕ) (next : Option Handler) : List ℕ :=
  if next.any (·.owes) then pending ++ [id] else pending

/-- The toggle a handler's update completes. -/
def Handler.completed : Handler → List (String × ToggleContainerRequest)
  | .toggleServer name req => [(name, req)]
  | _                      => []

def step (w : World) : Event → Option World
  | .request id r =>
    if id ∈ w.handlers then none
    else some { w with handlers := advance w.handlers id r.start }
  | .command id reply =>
    (w.handlers.lookup id).bind fun h => (h.command reply w.redis).map fun res =>
      { w with
        redis := res.1
        handlers := advance w.handlers id res.2
        pending := enqueue w.pending id res.2 }
  | .update id now =>
    (w.handlers.lookup id).bind fun h => (h.update now).map fun op =>
      { w with
        mem := op.apply w.mem
        handlers := advance w.handlers id none
        pending := w.pending.erase id
        toggled := w.toggled ++ h.completed }
  | .background op => if op.isBackground then some { w with mem := op.apply w.mem } else none

/-! ### What a step can be -/

/-- The Redis commands as a relation, with one constructor for each way a command can end. -/
inductive Handler.Command (redis : Redis) : Handler → Reply → Redis → Option Handler → Prop
  | registerGet {reply : Reply} {req : ContainerRegisterRequest}
      {existing : Option ContainerRegistration}
      (hex : existing = if reply = .ok then redis.lookup (containerKey req.name) else none) :
      Command redis (.registerGet req) reply redis (some (.registerSet (req.build existing)))
  | registerSet {reg : ContainerRegistration} :
      Command redis (.registerSet reg) .ok (redis.set reg.name reg) (some (.registerServer reg))
  | registerFailed {reg : ContainerRegistration} :
      Command redis (.registerSet reg) .failed redis none
  | registerLost {reg : ContainerRegistration} :
      Command redis (.registerSet reg) .lost (redis.set reg.name reg) none
  | unregisterDel {name : String} :
      Command redis (.unregisterDel name) .ok (redis.del name) (some (.unregisterServer name))
  | unregisterRefused {reply : Reply} {name : String} :
      Command redis (.unregisterDel name) reply redis none
  | unregisterLost {name : String} : Command redis (.unregisterDel name) .lost (redis.del name) none
  | toggleGet {reply : Reply} {name : String} {req : ToggleContainerRequest}
      {reg : ContainerRegistration} (hreg : redis.lookup (containerKey name) = some reg) :
      Command redis (.toggleGet name req) reply redis
        (some (.toggleSet name req (reg.toggle req)))
  | toggleRefused {reply : Reply} {name : String} {req : ToggleContainerRequest} :
      Command redis (.toggleGet name req) reply redis none
  | toggleSet {reply : Reply} {name : String} {req : ToggleContainerRequest}
      {reg : ContainerRegistration} :
      Command redis (.toggleSet name req reg) reply (redis.set name reg)
        (some (.toggleServer name req))
  | toggleFailed {name : String} {req : ToggleContainerRequest} {reg : ContainerRegistration} :
      Command redis (.toggleSet name req reg) .failed redis (some (.toggleServer name req))

/-- The steps as a relation. -/
inductive Step (w : World) : Event → World → Prop
  | request {id : ℕ} {r : Request} (hid : id ∉ w.handlers) :
      Step w (.request id r) { w with handlers := advance w.handlers id r.start }
  | command {id : ℕ} {reply : Reply} {h : Handler} {redis : Redis} {next : Option Handler}
      (hid : w.handlers.lookup id = some h) (hc : h.Command w.redis reply redis next) :
      Step w (.command id reply)
        { w with
          redis := redis
          handlers := advance w.handlers id next
          pending := enqueue w.pending id next }
  | update {id : ℕ} {now : Int} {h : Handler} {op : Op} (hid : w.handlers.lookup id = some h)
      (hu : h.update now = some op) :
      Step w (.update id now)
        { w with
          mem := op.apply w.mem
          handlers := advance w.handlers id none
          pending := w.pending.erase id
          toggled := w.toggled ++ h.completed }
  | background {op : Op} (hop : op.isBackground = true) :
      Step w (.background op) { w with mem := op.apply w.mem }

variable {w w' : World} {e : Event} {h : Handler} {redis redis' : Redis} {reply : Reply}
  {next : Option Handler}

lemma Request.start_cases {r : Request} (hr : r.start = some h) :
    (∃ req, r = .register req ∧ h = .registerGet req) ∨
      (∃ name, r = .unregister name ∧ h = .unregisterDel name) ∨
      ∃ name req, r = .toggle name req ∧ h = .toggleGet name req := by
  cases r with
  | register req =>
    cases hr
    exact Or.inl ⟨req, rfl, rfl⟩
  | unregister name =>
    simp only [Request.start] at hr
    split_ifs at hr
    cases hr
    exact Or.inr (Or.inl ⟨name, rfl, rfl⟩)
  | toggle name req =>
    simp only [Request.start] at hr
    split_ifs at hr
    cases hr
    exact Or.inr (Or.inr ⟨name, req, rfl, rfl⟩)

lemma Request.start_not_owes {r : Request} (hr : r.start = some h) : h.owes = false := by
  rcases Request.start_cases hr with ⟨req, -, rfl⟩ | ⟨name, -, rfl⟩ | ⟨name, req, -, rfl⟩ <;> rfl

lemma Handler.Command.not_owes (hc : h.Command redis reply redis' next) : h.owes = false := by
  cases hc <;> rfl

lemma Handler.owes_of_update {now : Int} {op : Op} (hu : h.update now = some op) :
    h.owes = true := by
  cases h with
  | registerServer reg | unregisterServer name | toggleServer name req => rfl
  | _ => cases hu

lemma Handler.command_spec (hc : h.command reply redis = some (redis', next)) :
    h.Command redis reply redis' next := by
  cases h with
  | registerGet req =>
    cases hc
    exact .registerGet rfl
  | registerSet reg =>
    cases reply with
    | ok =>
      cases hc
      exact .registerSet
    | failed =>
      cases hc
      exact .registerFailed
    | lost =>
      cases hc
      exact .registerLost
  | unregisterDel name =>
    cases reply with
    | ok =>
      simp only [Handler.command] at hc
      split_ifs at hc
      · cases hc
        exact .unregisterDel
      · cases hc
        exact .unregisterRefused
    | failed =>
      cases hc
      exact .unregisterRefused
    | lost =>
      cases hc
      exact .unregisterLost
  | toggleGet name req =>
    simp only [Handler.command] at hc
    split at hc
    · next _ _ reg hreg =>
      cases hc
      exact .toggleGet hreg
    · cases hc
      exact .toggleRefused
  | toggleSet name req reg =>
    cases reply with
    | ok =>
      cases hc
      exact .toggleSet
    | failed =>
      cases hc
      exact .toggleFailed
    | lost =>
      cases hc
      exact .toggleSet
  | _ => cases hc

lemma step_spec (he : step w e = some w') : Step w e w' := by
  cases e with
  | request id r =>
    simp only [step] at he
    split_ifs at he with hid
    cases he
    exact .request hid
  | command id reply =>
    obtain ⟨h, hid, he⟩ := Option.bind_eq_some_iff.mp he
    obtain ⟨⟨redis', next⟩, hc, rfl⟩ := Option.map_eq_some_iff.mp he
    exact .command hid (Handler.command_spec hc)
  | update id now =>
    obtain ⟨h, hid, he⟩ := Option.bind_eq_some_iff.mp he
    obtain ⟨op, hu, rfl⟩ := Option.map_eq_some_iff.mp he
    exact .update hid hu
  | background op =>
    simp only [step] at he
    split_ifs at he with hop
    cases he
    exact .background hop

/-- A step is at most one access to the in-memory state. -/
lemma step_mem (he : step w e = some w') : w'.mem = w.mem ∨ ∃ op : Op, w'.mem = op.apply w.mem := by
  cases step_spec he with
  | request hid => exact Or.inl rfl
  | command hid hc => exact Or.inl rfl
  | update hid hu => exact Or.inr ⟨_, rfl⟩
  | background hop => exact Or.inr ⟨_, rfl⟩

lemma step_aligned (ha : Aligned w.mem) (he : step w e = some w') : Aligned w'.mem := by
  rcases step_mem he with heq | ⟨op, heq⟩
  · rw [heq]
    exact ha
  · rw [heq]
    exact ha.apply op

lemma step_consistent (hs : Consistent w.mem) (he : step w e = some w') : Consistent w'.mem := by
  rcases step_mem he with heq | ⟨op, heq⟩
  · rw [heq]
    exact hs
  · rw [heq]
    exact hs.apply op

/-! ### Pending updates -/

variable {n : String} {id : ℕ}

/-- The handlers of a container that owe an update of memory, in the order of their writes. -/
def World.owed (w : World) (n : String) : List Handler :=
  (w.pending.filterMap w.handlers.lookup).filter (·.name = n)

/-- The handlers that wrote to Redis before another one and still owe their update. -/
def World.before (w : World) (id : ℕ) : List Handler :=
  (w.pending.takeWhile (· ≠ id)).filterMap w.handlers.lookup

/-- `pending` lists, once, the handlers that owe an update. -/
structure World.Queued (w : World) : Prop where
  nodup : w.pending.Nodup
  owes : ∀ id, id ∈ w.pending ↔ ∃ h, w.handlers.lookup id = some h ∧ h.owes = true

lemma lookup_advance (handlers : AList fun _ : ℕ => Handler) (id : ℕ) (next : Option Handler)
    (j : ℕ) : (advance handlers id next).lookup j = if j = id then next else handlers.lookup j := by
  cases next with
  | none => exact lookup_erase_ite handlers id j
  | some h => exact lookup_insert_ite handlers id j h

lemma filterMap_advance {l : List ℕ} (hid : id ∉ l) (handlers : AList fun _ : ℕ => Handler)
    (next : Option Handler) :
    l.filterMap (advance handlers id next).lookup = l.filterMap handlers.lookup := by
  refine List.filterMap_congr fun j hj => ?_
  rw [lookup_advance, if_neg]
  rintro rfl
  exact hid hj

/-- Removing an element that occurs in a list. -/
lemma exists_takeWhile_erase {l : List ℕ} (hid : id ∈ l) :
    ∃ l', l = l.takeWhile (· ≠ id) ++ id :: l' ∧ l.erase id = l.takeWhile (· ≠ id) ++ l' := by
  induction l with
  | nil => cases hid
  | cons j l ih =>
    by_cases hj : j = id
    · subst hj
      exact ⟨l, by simp, by simp⟩
    · obtain ⟨l', hl, herase⟩ := ih ((List.mem_cons.mp hid).resolve_left (Ne.symm hj))
      refine ⟨l', ?_, ?_⟩
      · rw [List.takeWhile_cons_of_pos (by simpa using hj), List.cons_append, ← hl]
      · rw [List.takeWhile_cons_of_pos (by simpa using hj), List.cons_append, ← herase,
          List.erase_cons_tail (by simpa using hj)]

lemma World.Queued.not_mem_pending (hq : w.Queued) (hid : w.handlers.lookup id = some h)
    (ho : h.owes = false) : id ∉ w.pending := by
  intro hmem
  obtain ⟨k, hk, hko⟩ := (hq.owes id).mp hmem
  cases Option.some.inj (hk.symm.trans hid)
  exact Bool.false_ne_true (ho.symm.trans hko)

lemma World.Queued.not_mem_of_new (hq : w.Queued) (hid : id ∉ w.handlers) : id ∉ w.pending := by
  intro hmem
  obtain ⟨k, hk, -⟩ := (hq.owes id).mp hmem
  rw [lookup_eq_none.mpr hid] at hk
  cases hk

lemma mem_enqueue {pending : List ℕ} {j : ℕ} :
    j ∈ enqueue pending id next ↔ j ∈ pending ∨ j = id ∧ next.any (·.owes) = true := by
  unfold enqueue
  split_ifs with ho <;> simp [ho]

lemma enqueue_of_not_owes (hno : ∀ k ∈ next, k.owes = false) (pending : List ℕ) :
    enqueue pending id next = pending := by
  refine if_neg ?_
  rw [Option.any_eq_true]
  rintro ⟨k, hk, ho⟩
  exact Bool.false_ne_true ((hno k hk).symm.trans ho)

/-- A handler that takes a step without having owed an update. -/
lemma World.Queued.advance (hq : w.Queued) (hid : id ∉ w.pending) (next : Option Handler)
    (mem : State) (redis : Redis) (toggled : List (String × ToggleContainerRequest)) :
    World.Queued ⟨mem, redis, LoadBalancer.advance w.handlers id next, enqueue w.pending id next,
      toggled⟩ where
  nodup := by
    show (enqueue w.pending id next).Nodup
    unfold enqueue
    split_ifs
    · exact hq.nodup.append (List.nodup_singleton id) (by simpa using hid)
    · exact hq.nodup
  owes j := by
    show j ∈ enqueue w.pending id next ↔ _
    rw [mem_enqueue]
    simp only [lookup_advance]
    by_cases hj : j = id
    · subst hj
      simp [hid, Option.any_eq_true]
    · simp [hj, hq.owes]

lemma World.Queued.update (hq : w.Queued) (mem : State)
    (toggled : List (String × ToggleContainerRequest)) :
    World.Queued ⟨mem, w.redis, LoadBalancer.advance w.handlers id none, w.pending.erase id,
      toggled⟩ where
  nodup := hq.nodup.erase id
  owes j := by
    show j ∈ w.pending.erase id ↔ _
    rw [hq.nodup.mem_erase_iff]
    simp only [lookup_advance]
    by_cases hj : j = id
    · simp [hj]
    · simp [hj, hq.owes]

lemma World.Queued.step (hq : w.Queued) (he : LoadBalancer.step w e = some w') : w'.Queued := by
  cases step_spec he with
  | @request id r hid =>
    have := hq.advance (hq.not_mem_of_new hid) r.start w.mem w.redis w.toggled
    rw [enqueue_of_not_owes fun h hr => Request.start_not_owes hr] at this
    exact this
  | command hid hc => exact hq.advance (hq.not_mem_pending hid hc.not_owes) _ _ _ _
  | update hid hu => exact hq.update _ _
  | background hop => exact ⟨hq.nodup, hq.owes⟩

lemma World.Queued.mem_owed (hq : w.Queued) :
    h ∈ w.owed n ↔ ∃ id, w.handlers.lookup id = some h ∧ h.owes = true ∧ h.name = n := by
  simp only [World.owed, List.mem_filter, List.mem_filterMap, decide_eq_true_eq]
  constructor
  · rintro ⟨⟨id, hmem, hid⟩, hn⟩
    obtain ⟨k, hk, ho⟩ := (hq.owes id).mp hmem
    cases Option.some.inj (hk.symm.trans hid)
    exact ⟨id, hid, ho, hn⟩
  · rintro ⟨id, hid, ho, hn⟩
    exact ⟨⟨id, (hq.owes id).mpr ⟨h, hid, ho⟩, hid⟩, hn⟩

/-- A handler that takes a step without having owed an update queues up behind the others. -/
lemma owed_advance (hid : id ∉ w.pending) (next : Option Handler) (mem : State) (redis : Redis)
    (toggled : List (String × ToggleContainerRequest)) (n : String) :
    World.owed ⟨mem, redis, advance w.handlers id next, enqueue w.pending id next, toggled⟩ n =
      w.owed n ++ next.toList.filter fun k => k.owes ∧ k.name = n := by
  simp only [World.owed, enqueue]
  split_ifs with ho
  · obtain ⟨k, rfl, hk⟩ := (Option.any_eq_true _ _).mp ho
    rw [List.filterMap_append, filterMap_advance hid, List.filter_append]
    simp [lookup_advance, List.filter_cons, hk]
  · rw [filterMap_advance hid]
    cases next with
    | none => simp
    | some k =>
      have : k.owes = false := by simpa using ho
      simp [this]

lemma queue_eq_nil (hno : ∀ k ∈ next, k.name = n → k.owes = false) :
    (next.toList.filter fun k => k.owes ∧ k.name = n) = [] := by
  rw [List.filter_eq_nil_iff]
  intro k hk hand
  obtain ⟨ho, hn⟩ : k.owes = true ∧ k.name = n := by simpa using hand
  exact Bool.false_ne_true ((hno k (by simpa using hk) hn).symm.trans ho)

lemma queue_eq_singleton (ho : h.owes = true) (hn : h.name = n) :
    ((some h).toList.filter fun k => k.owes ∧ k.name = n) = [h] := by
  simp [ho, hn]

/-- A handler that updates memory leaves the queue. -/
lemma World.Queued.owed_update (hq : w.Queued) (hid : w.handlers.lookup id = some h)
    (ho : h.owes = true) (mem : State) (toggled : List (String × ToggleContainerRequest)) :
    ∃ after : List Handler, ∀ n,
      w.owed n = (w.before id).filter (·.name = n) ++
        (if h.name = n then h :: after.filter (·.name = n) else after.filter (·.name = n)) ∧
      World.owed ⟨mem, w.redis, LoadBalancer.advance w.handlers id none, w.pending.erase id,
        toggled⟩ n = (w.before id).filter (·.name = n) ++ after.filter (·.name = n) := by
  obtain ⟨l, hl, herase⟩ := exists_takeWhile_erase ((hq.owes id).mpr ⟨h, hid, ho⟩)
  have hnodup := hq.nodup
  rw [hl, List.nodup_append, List.nodup_cons] at hnodup
  have hbefore : id ∉ w.pending.takeWhile (· ≠ id) := fun hmem =>
    hnodup.2.2 id hmem id List.mem_cons_self rfl
  refine ⟨l.filterMap w.handlers.lookup, fun n => ⟨?_, ?_⟩⟩
  · rw [World.owed, World.before]
    nth_rewrite 1 [hl]
    rw [List.filterMap_append, List.filter_append,
      List.filterMap_cons_some (f := fun j => w.handlers.lookup j) hid, List.filter_cons]
    simp
  · simp only [World.owed, World.before]
    rw [herase, List.filterMap_append, List.filter_append, filterMap_advance hbefore,
      filterMap_advance hnodup.2.1.1]

end LoadBalancer
