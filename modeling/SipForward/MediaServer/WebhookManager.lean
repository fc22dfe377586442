import SipForward.Core.Pool
import SipForward.MediaServer.Environment

/-!
# Webhooks

`WebhookManager` has a shard for each worker, with a queue, a mutex and a condition variable of its
own. The events of a call have the call's identifier as their key, and go to the shard that the hash
of the key says. A worker posts an event up to three times before it takes the next one.
-/

namespace MediaServer.Webhooks

open Core

/-! ### Events and workers -/

structure WebhookData where
  url : String
  json : String
deriving DecidableEq

/-- An event in a queue, with its key and its place among all events that were sent. -/
structure Sent where
  number : ℕ
  shardKey : String
  data : WebhookData
deriving DecidableEq

/-- The arguments of `send`. -/
structure Send where
  shardKey : String
  url : String
  json : String

/-- What comes of a POST: whether the transfer succeeded, and the code of the response. -/
structure Response where
  ok : Bool
  code : ℕ

def Response.success (r : Response) : Bool := r.ok && r.code == 200

/-- A POST that was made. -/
structure Post where
  sent : Sent
  success : Bool
deriving DecidableEq

/-- A worker is before its outer loop, before its inner loop, about to post, or it has ended. -/
inductive Work where
  | outer
  | inner (e : Sent) (attempts : ℕ) (success : Bool)
  | posting (e : Sent) (attempts : ℕ)
  | ended

def maxRetries : ℕ := 3

/-- `processRequests`. Both loops look at the flag. -/
def processRequests (running : Bool) : Work → Option Response → Option (Option Work × List Post)
  | .outer, none                    => some (if running then none else some .ended, [])
  | .inner e attempts success, none =>
    if e.data.url ≠ "" ∧ success = false ∧ attempts < maxRetries ∧ running = true then
      some (some (.posting e attempts), [])
    else some (some .outer, [])
  | .posting e attempts, some r     =>
    some (some (.inner e (attempts + 1) r.success), [⟨e, r.success⟩])
  | _, _                            => none

/-- `hash` is the hash function of the library. -/
def program (hash : String → ℕ) (numWorkers : ℕ) :
    Program Send Sent Work (Option Response) Post where
  accept n x := (hash x.shardKey % numWorkers, ⟨n, x.shardKey, ⟨x.url, x.json⟩⟩)
  take e := .inner e 0 false
  empty running := some (if running then .outer else .ended)
  go := processRequests
  ended
    | .ended => true
    | _      => false

abbrev WebhookManager := Pool Sent Work Post

abbrev Event := PoolEvent Send (Option Response)

/-- The number of workers, and of shards. -/
def numWorkers (env : Env) : ℕ := MediaServer.numWorkers env "WEBHOOK_THREADS"

def WebhookManager.new (env : Env) : WebhookManager where
  monitors := List.replicate (numWorkers env) ⟨[], [.away .outer], 0⟩
  stage := .running
  pushed := []
  log := []

abbrev step (hash : String → ℕ) (env : Env) : WebhookManager → Event → Option WebhookManager :=
  Pool.step (program hash (numWorkers env))

/-! ### What should come of them -/

/-- The POSTs for the events with a key, in the order in which they were made. -/
def posts (s : WebhookManager) (key : String) : List Post :=
  s.log.filter fun post => post.sent.shardKey = key

/-- The POSTs for a key are those for its first event, those for its second event, and so on, in the
order in which the events were sent: at most three for one event, of which only the last
succeeds. -/
structure Ordered (s : WebhookManager) (key : String) : Prop where
  sent : ∀ post ∈ posts s key, s.pushed[post.sent.number]? = some post.sent
  blocks : (posts s key).Pairwise fun a b =>
    a.sent.number < b.sent.number ∨ a.sent.number = b.sent.number ∧ a.success = false
  attempts : ∀ n, ((posts s key).filter fun post => post.sent.number = n).length ≤ maxRetries

variable {hash : String → ℕ} {env : Env} {n : ℕ} {s s' : WebhookManager} {ev : Event}
  {es : List Event} {k i : ℕ} {m m' : Monitor Sent Work} {e : Sent} {attempts : ℕ} {success : Bool}
  {pushed : List Sent} {log : List Post}

/-- The POSTs for the events of a shard. -/
def shardPosts (hash : String → ℕ) (n k : ℕ) (log : List Post) : List Post :=
  log.filter fun post => hash post.sent.shardKey % n = k

/-- A worker has an event in hand: those that were posted before it were sent before it, and those
in the queue after it. -/
structure Held (hash : String → ℕ) (n k : ℕ) (pushed : List Sent) (log : List Post)
    (queue : List Sent) (e : Sent) (attempts : ℕ) (success : Bool) : Prop where
  mine : hash e.shardKey % n = k
  sent : pushed[e.number]? = some e
  next : ∀ q ∈ queue, e.number < q.number
  earlier : ∀ post ∈ shardPosts hash n k log, post.sent.number < e.number ∨
    post.sent.number = e.number ∧ (post.success = true → success = true)
  count : ((shardPosts hash n k log).filter fun post => post.sent.number = e.number).length =
    attempts
  bound : attempts ≤ maxRetries

def Work.Sound (hash : String → ℕ) (n k : ℕ) (pushed : List Sent) (log : List Post)
    (queue : List Sent) : Work → Prop
  | .inner e attempts success => Held hash n k pushed log queue e attempts success
  | .posting e attempts       =>
    Held hash n k pushed log queue e attempts false ∧ attempts < maxRetries
  | _                         => True

/-- The shard `k`: its queue is in the order of sending, after everything that was posted. -/
structure Shard (hash : String → ℕ) (n k : ℕ) (pushed : List Sent) (log : List Post)
    (m : Monitor Sent Work) : Prop where
  worker : m.threads.length = 1
  queued : ∀ e ∈ m.queue, hash e.shardKey % n = k ∧ pushed[e.number]? = some e
  sorted : m.queue.Pairwise fun a b => a.number < b.number
  later : ∀ post ∈ shardPosts hash n k log, ∀ e ∈ m.queue, post.sent.number < e.number
  hand : ∀ w ∈ m.hands, w.Sound hash n k pushed log m.queue
  blocks : (shardPosts hash n k log).Pairwise fun a b =>
    a.sent.number < b.sent.number ∨ a.sent.number = b.sent.number ∧ a.success = false
  attempts : ∀ number, ((shardPosts hash n k log).filter fun post =>
    post.sent.number = number).length ≤ maxRetries

/-- The shards of a manager. -/
structure Sound (hash : String → ℕ) (n : ℕ) (s : WebhookManager) : Prop where
  length : s.monitors.length = n
  shards : ∀ k m, s.monitors[k]? = some m → Shard hash n k s.pushed s.log m
  sent : ∀ post ∈ s.log, s.pushed[post.sent.number]? = some post.sent

/-! ### One shard -/

lemma getElem?_append_of_some {a : Sent} {number : ℕ} (h : pushed[number]? = some e) :
    (pushed ++ [a])[number]? = some e := by
  rw [List.getElem?_append_left (List.getElem?_eq_some_iff.mp h).1]
  exact h

lemma Work.Sound.append {w : Work} {queue : List Sent} (h : w.Sound hash n k pushed log queue)
    (a : Sent) : w.Sound hash n k (pushed ++ [a]) log queue := by
  cases w with
  | outer | ended => trivial
  | inner e attempts success => exact { h with sent := getElem?_append_of_some h.sent }
  | posting e attempts => exact ⟨{ h.1 with sent := getElem?_append_of_some h.1.sent }, h.2⟩

/-- An event was sent to another shard. -/
lemma Shard.append (h : Shard hash n k pushed log m) (a : Sent) :
    Shard hash n k (pushed ++ [a]) log m :=
  { h with
    queued := fun e he => ⟨(h.queued e he).1, getElem?_append_of_some (h.queued e he).2⟩
    hand := fun w hw => (h.hand w hw).append a }

lemma number_lt (h : pushed[e.number]? = some e) : e.number < pushed.length :=
  (List.getElem?_eq_some_iff.mp h).1

/-- An event goes to the end of the queue, after everything that was sent before. -/
lemma Shard.push {a : Sent} (h : Shard hash n k pushed log m) (hmine : hash a.shardKey % n = k)
    (hnumber : a.number = pushed.length)
    (hposts : ∀ post ∈ log, pushed[post.sent.number]? = some post.sent) (pending : ℕ) :
    Shard hash n k (pushed ++ [a]) log ⟨m.queue ++ [a], m.threads, pending⟩ := by
  have hnext : ∀ {e : Sent}, pushed[e.number]? = some e → (∀ q ∈ m.queue, e.number < q.number) →
      ∀ q ∈ m.queue ++ [a], e.number < q.number := by
    intro e he hqueue q hq
    rcases List.mem_append.mp hq with hq | hq
    · exact hqueue q hq
    · rw [List.mem_singleton.mp hq, hnumber]
      exact number_lt he
  have hlast : (pushed ++ [a])[a.number]? = some a := by
    rw [hnumber, List.getElem?_concat_length]
  constructor
  · exact h.worker
  · intro e he
    rcases List.mem_append.mp he with he | he
    · exact ⟨(h.queued e he).1, getElem?_append_of_some (h.queued e he).2⟩
    · rw [List.mem_singleton.mp he]
      exact ⟨hmine, hlast⟩
  · refine List.pairwise_append.mpr ⟨h.sorted, List.pairwise_singleton _ _, ?_⟩
    intro e he q hq
    rw [List.mem_singleton.mp hq, hnumber]
    exact number_lt (h.queued e he).2
  · intro post hpost
    exact hnext (hposts post (List.mem_filter.mp hpost).1) (h.later post hpost)
  · intro w hw
    have hsound := (h.hand w hw).append a
    cases w with
    | outer | ended => trivial
    | inner e attempts success => exact { hsound with next := hnext (h.hand _ hw).sent hsound.next }
    | posting e attempts =>
      exact ⟨{ hsound.1 with next := hnext (h.hand _ hw).1.sent hsound.1.next }, hsound.2⟩
  · exact h.blocks
  · exact h.attempts

lemma Shard.idle (h : Shard hash n k pushed log m) (hidle : m.Idle m') :
    Shard hash n k pushed log m' where
  worker := hidle.length.trans h.worker
  queued := hidle.queue ▸ h.queued
  sorted := hidle.queue ▸ h.sorted
  later := hidle.queue ▸ h.later
  hand := hidle.queue ▸ hidle.hands ▸ h.hand
  blocks := h.blocks
  attempts := h.attempts

/-- With one worker, the hands are its own. -/
lemma hands_eq {p : Place Work} (hlength : m.threads.length = 1) (hi : m.threads[i]? = some p) :
    m.hands = p.hand.toList := by
  obtain ⟨t, ht⟩ := List.length_eq_one_iff.mp hlength
  rw [ht, List.getElem?_singleton] at hi
  split_ifs at hi
  obtain rfl := Option.some.inj hi
  rw [Monitor.hands, ht]
  cases hhand : t.hand with
  | none => simp [hhand]
  | some w => simp [hhand]

lemma hands_unique {w w' : Work} (hlength : m.threads.length = 1) (hw : w ∈ m.hands)
    (hw' : w' ∈ m.hands) : w = w' := by
  obtain ⟨t, ht, hhand⟩ := List.mem_filterMap.mp hw
  obtain ⟨i, hi⟩ := List.mem_iff_getElem?.mp ht
  rw [hands_eq hlength hi, hhand] at hw'
  exact (List.mem_singleton.mp hw').symm

lemma hands_put {p p' : Place Work} (hlength : m.threads.length = 1)
    (hi : m.threads[i]? = some p) : (m.put i p').hands = p'.hand.toList :=
  hands_eq (List.length_set.trans hlength)
    (List.getElem?_set_self (List.getElem?_eq_some_iff.mp hi).1)

/-- The worker takes the first event. -/
lemma Shard.found {rest : List Sent} (h : Shard hash n k pushed log m)
    (hi : m.threads[i]? = some .entered) (hqueue : m.queue = e :: rest) :
    Shard hash n k pushed log ({ m with queue := rest }.put i (.away (.inner e 0 false))) := by
  have hmem : e ∈ m.queue := hqueue ▸ List.mem_cons_self
  have hrest : ∀ q ∈ rest, q ∈ m.queue := fun q hq => hqueue ▸ List.mem_cons_of_mem e hq
  have hsorted := h.sorted
  rw [hqueue, List.pairwise_cons] at hsorted
  constructor
  · exact List.length_set.trans h.worker
  · exact fun q hq => h.queued q (hrest q hq)
  · exact hsorted.2
  · exact fun post hpost q hq => h.later post hpost q (hrest q hq)
  · intro w hw
    rw [hands_put (m := { m with queue := rest }) h.worker hi] at hw
    obtain rfl := List.mem_singleton.mp hw
    refine ⟨(h.queued e hmem).1, (h.queued e hmem).2, hsorted.1, ?_, ?_, Nat.zero_le _⟩
    · exact fun post hpost => Or.inl (h.later post hpost e hmem)
    · rw [List.length_eq_zero_iff, List.filter_eq_nil_iff]
      intro post hpost
      have := h.later post hpost e hmem
      simp only [decide_eq_true_eq]
      omega
  · exact h.blocks
  · exact h.attempts

/-- The worker goes on with what is sound for it. -/
lemma Shard.put {p p' : Place Work} (h : Shard hash n k pushed log m)
    (hi : m.threads[i]? = some p)
    (hp : ∀ w, p'.hand = some w → w.Sound hash n k pushed log m.queue) :
    Shard hash n k pushed log (m.put i p') :=
  { h with
    worker := List.length_set.trans h.worker
    hand := fun w hw => hp w (Option.mem_toList.mp (hands_put h.worker hi ▸ hw)) }

lemma shardPosts_append (post : Post) : shardPosts hash n k (log ++ [post]) =
    shardPosts hash n k log ++ if hash post.sent.shardKey % n = k then [post] else [] := by
  unfold shardPosts
  rw [List.filter_append]
  split_ifs with hmine
  · rw [List.filter_cons_of_pos (by simpa using hmine), List.filter_nil]
  · rw [List.filter_cons_of_neg (by simpa using hmine), List.filter_nil]

/-- A POST for another shard. -/
lemma Shard.other (h : Shard hash n k pushed log m) {post : Post}
    (hother : hash post.sent.shardKey % n ≠ k) : Shard hash n k pushed (log ++ [post]) m := by
  have hsame : shardPosts hash n k (log ++ [post]) = shardPosts hash n k log := by
    rw [shardPosts_append, if_neg hother, List.append_nil]
  constructor
  · exact h.worker
  · exact h.queued
  · exact h.sorted
  · rw [hsame]
    exact h.later
  · intro w hw
    have hsound := h.hand w hw
    cases w with
    | outer | ended => trivial
    | inner e attempts success =>
      exact { hsound with earlier := hsame ▸ hsound.earlier, count := hsame ▸ hsound.count }
    | posting e attempts =>
      exact ⟨{ hsound.1 with earlier := hsame ▸ hsound.1.earlier, count := hsame ▸ hsound.1.count },
        hsound.2⟩
  · rw [hsame]
    exact h.blocks
  · rw [hsame]
    exact h.attempts

/-- The worker posts its event once more. -/
lemma Shard.post (h : Shard hash n k pushed log m)
    (hi : m.threads[i]? = some (.away (.posting e attempts))) (success : Bool) :
    Shard hash n k pushed (log ++ [⟨e, success⟩])
      (m.put i (.away (.inner e (attempts + 1) success))) := by
  have hmem : .posting e attempts ∈ m.hands :=
    List.mem_filterMap.mpr ⟨_, List.mem_of_getElem? hi, rfl⟩
  obtain ⟨hheld, hlt⟩ := h.hand _ hmem
  have hposts : shardPosts hash n k (log ++ [⟨e, success⟩]) =
      shardPosts hash n k log ++ [⟨e, success⟩] := by
    rw [shardPosts_append, if_pos hheld.mine]
  -- an earlier POST for the event has failed
  have hfailed : ∀ post ∈ shardPosts hash n k log, post.sent.number < e.number ∨
      post.sent.number = e.number ∧ post.success = false := by
    intro post hpost
    rcases hheld.earlier post hpost with hlt | ⟨heq, hsuccess⟩
    · exact Or.inl hlt
    · refine Or.inr ⟨heq, ?_⟩
      cases hs : post.success with
      | false => rfl
      | true => cases hsuccess hs
  have hcount : ((shardPosts hash n k log ++ [(⟨e, success⟩ : Post)]).filter
      fun post => post.sent.number = e.number).length = attempts + 1 := by
    rw [List.filter_append, List.length_append, hheld.count,
      List.filter_cons_of_pos (by simp), List.filter_nil, List.length_singleton]
  constructor
  · exact List.length_set.trans h.worker
  · exact h.queued
  · exact h.sorted
  · rw [hposts]
    intro post hpost q hq
    rcases List.mem_append.mp hpost with hpost | hpost
    · exact h.later post hpost q hq
    · rw [List.mem_singleton.mp hpost]
      exact hheld.next q hq
  · intro w hw
    rw [hands_put h.worker hi] at hw
    obtain rfl := List.mem_singleton.mp hw
    refine ⟨hheld.mine, hheld.sent, hheld.next, ?_, ?_, hlt⟩
    · rw [hposts]
      intro post hpost
      rcases List.mem_append.mp hpost with hpost | hpost
      · rcases hfailed post hpost with hbefore | ⟨heq, hfail⟩
        · exact Or.inl hbefore
        · refine Or.inr ⟨heq, fun hsuccess => ?_⟩
          rw [hfail] at hsuccess
          cases hsuccess
      · rw [List.mem_singleton.mp hpost]
        exact Or.inr ⟨rfl, id⟩
    · rw [hposts]
      exact hcount
  · rw [hposts]
    refine List.pairwise_append.mpr ⟨h.blocks, List.pairwise_singleton _ _, ?_⟩
    intro post hpost last hlast
    rw [List.mem_singleton.mp hlast]
    exact hfailed post hpost
  · intro number
    rw [hposts]
    by_cases hnumber : number = e.number
    · subst hnumber
      rw [hcount]
      exact hlt
    · rw [List.filter_append, List.filter_cons_of_neg (by simpa using Ne.symm hnumber),
        List.filter_nil, List.append_nil]
      exact h.attempts number

/-! ### All shards -/

/-- A step at one shard. -/
lemma Sound.set {log : List Post} (hs : Sound hash n s) (hm : s.monitors[k]? = some m)
    (hk : Shard hash n k pushed log m')
    (hother : ∀ j m, j ≠ k → Shard hash n j s.pushed s.log m → Shard hash n j pushed log m)
    (hsent : ∀ post ∈ log, pushed[post.sent.number]? = some post.sent) (stage : Stage) :
    Sound hash n ⟨s.monitors.set k m', stage, pushed, log⟩ := by
  refine ⟨List.length_set.trans hs.length, fun j m₁ hj => ?_, hsent⟩
  rcases Pool.getElem?_set_of_some hm hj with ⟨rfl, rfl⟩ | ⟨hne, hj⟩
  · exact hk
  · exact hother j m₁ hne (hs.shards j m₁ hj)

/-- The worker goes on without a POST. -/
lemma Sound.put {p p' : Place Work} (hs : Sound hash n s) (hm : s.monitors[k]? = some m)
    (hi : m.threads[i]? = some p)
    (hp : ∀ w, p'.hand = some w → w.Sound hash n k s.pushed s.log m.queue) :
    Sound hash n { s with monitors := s.monitors.set k (m.put i p') } :=
  hs.set hm ((hs.shards k m hm).put hi hp) (fun _ _ _ h => h) hs.sent s.stage

lemma Sound.go {w : Work} {w' : Option Work} {x : Option Response} {out : List Post}
    (hs : Sound hash n s) (hm : s.monitors[k]? = some m) (hi : m.threads[i]? = some (.away w))
    (hgo : processRequests s.running w x = some (w', out)) :
    Sound hash n { s with monitors := s.monitors.set k (m.put i (.next w')),
                          log := s.log ++ out } := by
  have hmem : w ∈ m.hands := List.mem_filterMap.mpr ⟨_, List.mem_of_getElem? hi, rfl⟩
  have hshard := hs.shards k m hm
  have hsound := hshard.hand w hmem
  cases w with
  | outer =>
    cases x with
    | some r => cases hgo
    | none =>
      cases hgo
      rw [List.append_nil]
      refine hs.put hm hi fun w hw => ?_
      cases hrunning : s.running with
      | true => simp [hrunning] at hw
      | false =>
        obtain rfl : Work.ended = w := by simpa [hrunning] using hw
        trivial
  | inner e attempts success =>
    cases x with
    | some r => cases hgo
    | none =>
      simp only [processRequests] at hgo
      split_ifs at hgo with hretry
      · cases hgo
        rw [List.append_nil]
        refine hs.put hm hi fun w hw => ?_
        cases hw
        obtain ⟨-, rfl, hlt, -⟩ := hretry
        exact ⟨hsound, hlt⟩
      · cases hgo
        rw [List.append_nil]
        refine hs.put hm hi fun w hw => ?_
        cases hw
        trivial
  | posting e attempts =>
    cases x with
    | none => cases hgo
    | some r =>
      cases hgo
      refine hs.set hm (hshard.post hi r.success) (fun j m₁ hne h => h.other ?_) ?_ s.stage
      · rw [hsound.1.mine]
        exact Ne.symm hne
      · intro post hpost
        rcases List.mem_append.mp hpost with hpost | hpost
        · exact hs.sent post hpost
        · rw [List.mem_singleton.mp hpost]
          exact hsound.1.sent
  | ended => cases x <;> cases hgo

lemma Sound.step (hs : Sound hash (numWorkers env) s) (h : step hash env s ev = some s') :
    Sound hash (numWorkers env) s' := by
  cases Pool.Stepped.of_step h with
  | @push x k a m haccept hm =>
    obtain ⟨rfl, rfl⟩ := Prod.mk.inj haccept
    refine hs.set hm ((hs.shards _ m hm).push rfl rfl hs.sent _) (fun j m₁ _ h => h.append _) ?_ _
    exact fun post hpost => getElem?_append_of_some (hs.sent post hpost)
  | idle he hm hidle =>
    exact hs.set hm ((hs.shards _ _ hm).idle hidle) (fun _ _ _ h => h) hs.sent _
  | found hm hi hqueue =>
    exact hs.set hm ((hs.shards _ _ hm).found hi hqueue) (fun _ _ _ h => h) hs.sent _
  | empty hm hi hqueue =>
    refine hs.put hm hi fun w hw => ?_
    rw [Place.hand_next] at hw
    cases hw
    cases s.running with
    | true => trivial
    | false => trivial
  | go hm hi hgo => exact hs.go hm hi hgo
  | stop hstage => exact ⟨hs.length, hs.shards, hs.sent⟩
  | notifyAll hstage hm =>
    exact hs.set hm ((hs.shards _ _ hm).idle (.notifyAll _)) (fun _ _ _ h => h) hs.sent _
  | join hstage hended => exact ⟨hs.length, hs.shards, hs.sent⟩

lemma Sound.new : Sound hash (numWorkers env) (WebhookManager.new env) := by
  refine ⟨List.length_replicate, fun k m hm => ?_, fun post hpost => by cases hpost⟩
  obtain rfl := List.eq_of_mem_replicate (List.mem_of_getElem? hm)
  constructor
  · rfl
  · exact fun e he => by cases he
  · exact List.Pairwise.nil
  · exact fun post hpost => by cases hpost
  · intro w hw
    obtain rfl := List.mem_singleton.mp hw
    trivial
  · exact List.Pairwise.nil
  · exact fun number => Nat.zero_le _

lemma sound_of_run (hr : run (step hash env) (WebhookManager.new env) es = some s) :
    Sound hash (numWorkers env) s :=
  run_invariant' (I := Sound hash (numWorkers env)) (fun _ _ _ hs h => hs.step h) .new hr

/-- The POSTs for a key are among those of its shard. -/
lemma posts_sublist (s : WebhookManager) (key : String) (n : ℕ) :
    (posts s key).Sublist (shardPosts hash n (hash key % n) s.log) := by
  have hfilter : posts s key =
      (shardPosts hash n (hash key % n) s.log).filter fun post => post.sent.shardKey = key := by
    unfold posts shardPosts
    rw [List.filter_filter]
    refine List.filter_congr fun post _ => ?_
    by_cases hkey : post.sent.shardKey = key
    · simp [hkey]
    · simp [hkey]
  rw [hfilter]
  exact List.filter_sublist

/-- The events with one key are posted in the order in which they were sent, each up to three times
and until it succeeds, whatever the workers, the producers and the shutdown do. -/
theorem posts_ordered (hr : run (step hash env) (WebhookManager.new env) es = some s)
    (key : String) : Ordered s key := by
  have hs := sound_of_run hr
  have hlt : hash key % numWorkers env < s.monitors.length := by
    rw [hs.length]
    exact Nat.mod_lt _ (numWorkers_pos env _)
  have hshard := hs.shards _ _ (List.getElem?_eq_getElem hlt)
  have hsublist : (posts s key).Sublist
      (shardPosts hash (numWorkers env) (hash key % numWorkers env) s.log) :=
    posts_sublist s key (numWorkers env)
  constructor
  · exact fun post hpost => hs.sent post (List.mem_filter.mp hpost).1
  · exact hshard.blocks.sublist hsublist
  · intro number
    exact (hsublist.filter _).length_le.trans (hshard.attempts number)

/-- Two events of one call; the first POST fails. -/
def twoEvents : List Event :=
  [.push ⟨"call-1", "https://backend/webhook", "ringing"⟩,
    .push ⟨"call-1", "https://backend/webhook", "completed"⟩, .notifyOne 2 none, .go 2 0 none,
    .check 2 0, .leave 2 0, .go 2 0 none, .go 2 0 (some ⟨true, 500⟩), .go 2 0 none,
    .go 2 0 (some ⟨true, 200⟩), .go 2 0 none, .go 2 0 none, .check 2 0, .leave 2 0, .go 2 0 none,
    .go 2 0 (some ⟨true, 200⟩)]

theorem posts_ordered_sample :
    ∃ s, run (step String.length fun _ => none) (WebhookManager.new fun _ => none) twoEvents =
        some s ∧
      (posts s "call-1").map (fun post => (post.sent.data.json, post.success)) =
        [("ringing", false), ("ringing", true), ("completed", true)] ∧
      Ordered s "call-1" := by
  have hposts : (run (step String.length fun _ => none) (WebhookManager.new fun _ => none)
      twoEvents).map (fun s => (posts s "call-1").map fun post =>
        (post.sent.data.json, post.success)) =
      some [("ringing", false), ("ringing", true), ("completed", true)] := by decide +kernel
  obtain ⟨s, hr, hposts⟩ := Option.map_eq_some_iff.mp hposts
  exact ⟨s, hr, hposts, posts_ordered hr "call-1"⟩

end MediaServer.Webhooks
