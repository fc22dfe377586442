import SipForward.MediaServer.UploadManager
import SipForward.MediaServer.WebhookManager

/-!
# The shutdown of the media server

Both managers clear a flag and notify their workers without the mutex. The workers of the
`UploadManager` drain the queue before they end; those of the `WebhookManager` do not, and the
destructor of `CallManager` stops them before it terminates the calls that are simulated.
-/

namespace MediaServer.Shutdown

open Core

/-! ### The destructor -/

/-- A simulated call, as far as its end goes. -/
structure Simulated where
  callId : String
  webhookUrl : String
  terminated : Bool
deriving DecidableEq

/-- The destructor of `CallManager`: the simulated calls that it has still to
terminate, and the numbers of the events `completed` that it has sent for the others. -/
structure Destructor where
  webhooks : Webhooks.WebhookManager
  simulatedCalls : List Simulated
  completed : List ℕ

inductive Step where
  /-- A step of the webhooks; `stop` is called first of all. -/
  | webhook (e : Webhooks.Event)
  /-- The pump of the call `i` ends the call by itself. -/
  | finish (i : ℕ)
  /-- The next call is terminated, with the text for its event. -/
  | terminate (json : String)

namespace Destructor

def new (env : Env) (calls : List Simulated) : Destructor := ⟨.new env, calls, []⟩

/-- `terminate()`, which does nothing for a call that was terminated before. -/
def terminate (hash : String → ℕ) (env : Env) (s : Destructor) (json : String) :
    Option Destructor :=
  match s.simulatedCalls with
  | []         => none
  | c :: calls =>
    if c.terminated then some { s with simulatedCalls := calls }
    else
      (Webhooks.step hash env s.webhooks (.push ⟨c.callId, c.webhookUrl, json⟩)).map fun w =>
        ⟨w, calls, s.completed ++ [s.webhooks.pushed.length]⟩

def step (hash : String → ℕ) (env : Env) (s : Destructor) : Step → Option Destructor
  | .webhook e      =>
    (Webhooks.step hash env s.webhooks e).map fun w => { s with webhooks := w }
  | .finish i       =>
    some { s with
      simulatedCalls := s.simulatedCalls.modify i fun c => { c with terminated := true } }
  | .terminate json => if s.webhooks.stage = .stopped then s.terminate hash env json else none

/-- The destructor has stopped the webhooks and terminated all calls. -/
def Destroyed (s : Destructor) : Prop := s.webhooks.stage = .stopped ∧ s.simulatedCalls = []

instance (s : Destructor) : Decidable s.Destroyed := inferInstanceAs (Decidable (_ ∧ _))

end Destructor

/-- What is sent in a step of the webhooks. -/
def Step.send : Step → Option Webhooks.Send
  | .webhook e   => e.submission
  | .finish _    => none
  | .terminate _ => none

/-- The events that are sent in steps of the webhooks, each with its number. -/
def sentIn (steps : List Step) : List Webhooks.Sent :=
  (steps.filterMap Step.send).zipIdx.map fun p => ⟨p.2, p.1.shardKey, ⟨p.1.url, p.1.json⟩⟩

/-- An event was posted. -/
def Posted (s : Webhooks.WebhookManager) (e : Webhooks.Sent) : Prop :=
  ∃ post ∈ s.log, post.sent = e

/-- The event of a worker before its first attempt. -/
def fresh : Webhooks.Work → Option Webhooks.Sent
  | .inner e 0 false => some e
  | _                => none

/-- No event with a URL waits in a queue, or in the hands of a worker before its first attempt. -/
def Settled (s : Webhooks.WebhookManager) : Prop :=
  ∀ m ∈ s.monitors, (∀ e ∈ m.queue, e.data.url = "") ∧
    ∀ work ∈ m.hands, ∀ e ∈ fresh work, e.data.url = ""

instance (s : Webhooks.WebhookManager) : Decidable (Settled s) :=
  inferInstanceAs (Decidable (∀ m ∈ s.monitors, (∀ e ∈ m.queue, e.data.url = "") ∧
    ∀ work ∈ m.hands, ∀ e ∈ fresh work, e.data.url = ""))

/-- The destructor finds the next simulated call terminated. -/
def Terminated (s : Destructor) : Step → Prop
  | .terminate _ => ∀ c ∈ s.simulatedCalls.head?, c.terminated = true
  | _            => True

instance (s : Destructor) : DecidablePred (Terminated s)
  | .terminate _          =>
    inferInstanceAs (Decidable (∀ c ∈ s.simulatedCalls.head?, c.terminated = true))
  | .webhook _ | .finish _ => isTrue trivial

open Webhooks

variable {hash : String → ℕ} {env : Env} {w w' : WebhookManager} {ev : Webhooks.Event}
  {es : List Webhooks.Event} {e : Sent} {k i : ℕ} {m m' : Monitor Sent Work}

/-! ### Events on their way -/

/-- A worker is about to post the event. -/
def InPost (m : Monitor Sent Work) (e : Sent) : Prop := ∃ attempts, .posting e attempts ∈ m.hands

/-- The event waits in the queue, or in the hands of the worker before its first attempt. -/
def Waits (m : Monitor Sent Work) (e : Sent) : Prop :=
  e ∈ m.queue ∨ .inner e 0 false ∈ m.hands

/-- The event was posted, or is about to be. -/
def Attempted (w : WebhookManager) (e : Sent) : Prop :=
  Posted w e ∨ ∃ (k : ℕ) (m : Monitor Sent Work), w.monitors[k]? = some m ∧ InPost m e

lemma posted_append {out : List Post} {monitors : List (Monitor Sent Work)} {stage : Stage}
    {pushed : List Sent} :
    Posted ⟨monitors, stage, pushed, w.log ++ out⟩ e ↔
      Posted w e ∨ ∃ post ∈ out, post.sent = e := by
  simp only [Posted, List.mem_append, or_and_right, exists_or]

/-- A step at one monitor that does not change what is asked of it. -/
lemma exists_set_iff {Q : Monitor Sent Work → Prop} (hm : w.monitors[k]? = some m)
    (hQ : Q m' ↔ Q m) :
    (∃ (j : ℕ) (m₁ : Monitor Sent Work), (w.monitors.set k m')[j]? = some m₁ ∧ Q m₁) ↔
      ∃ (j : ℕ) (m₁ : Monitor Sent Work), w.monitors[j]? = some m₁ ∧ Q m₁ := by
  constructor
  · rintro ⟨j, m₁, hj, hm₁⟩
    rcases Pool.getElem?_set_of_some hm hj with ⟨rfl, rfl⟩ | ⟨-, hj⟩
    · exact ⟨j, m, hm, hQ.mp hm₁⟩
    · exact ⟨j, m₁, hj, hm₁⟩
  · rintro ⟨j, m₁, hj, hm₁⟩
    by_cases hjk : j = k
    · subst hjk
      obtain rfl : m = m₁ := Option.some.inj (hm.symm.trans hj)
      exact ⟨j, m', List.getElem?_set_self (List.getElem?_eq_some_iff.mp hm).1, hQ.mpr hm₁⟩
    · exact ⟨j, m₁, by rw [List.getElem?_set_ne (Ne.symm hjk)]; exact hj, hm₁⟩

lemma attempted_set (hm : w.monitors[k]? = some m) (hpost : InPost m' e ↔ InPost m e)
    (stage : Stage) (pushed : List Sent) :
    Attempted ⟨w.monitors.set k m', stage, pushed, w.log⟩ e ↔ Attempted w e :=
  or_congr Iff.rfl (exists_set_iff hm hpost)

lemma inPost_of_hands {o : Option Work} (hhands : m.hands = o.toList) :
    InPost m e ↔ ∃ attempts, o = some (.posting e attempts) := by
  simp only [InPost, hhands, Option.mem_toList]

lemma inPost_congr (hhands : m'.hands = m.hands) : InPost m' e ↔ InPost m e := by
  rw [InPost, InPost, hhands]

lemma not_inPost_of_hands {o : Option Work} (hhands : m.hands = o.toList)
    (ho : ∀ attempts, o ≠ some (.posting e attempts)) : ¬InPost m e := by
  rw [inPost_of_hands hhands]
  rintro ⟨attempts, h⟩
  exact ho attempts h

/-- A worker that has just taken the mutex posts nothing. -/
lemma not_inPost_of_entered (hworker : m.threads.length = 1)
    (hi : m.threads[i]? = some .entered) : ¬InPost m e :=
  not_inPost_of_hands (hands_eq hworker hi) fun _ h => by cases h

/-- A worker that goes on, once the workers are to end: it posts what it was about to post. -/
lemma attempted_go_iff {x : Option Response} {work : Work} {next : Option Work} {out : List Post}
    (hs : Sound hash (Webhooks.numWorkers env) w) (hrunning : w.running = false)
    (hm : w.monitors[k]? = some m) (hi : m.threads[i]? = some (.away work))
    (hgo : (program hash (Webhooks.numWorkers env)).go w.running work x = some (next, out)) :
    Attempted { w with
      monitors := w.monitors.set k (m.put i (.next next)), log := w.log ++ out } e ↔
      Attempted w e := by
  have hbefore := hands_eq (hs.shards _ _ hm).worker hi
  have hafter : (m.put i (.next next)).hands = (Place.next next).hand.toList :=
    hands_put (hs.shards _ _ hm).worker hi
  rw [Place.hand_next] at hafter
  have hquiet : (∀ attempts, some work ≠ some (.posting e attempts)) →
      (∀ attempts, next ≠ some (.posting e attempts)) → (InPost (m.put i (.next next)) e ↔
        InPost m e) := fun hwork hnext =>
    iff_of_false (not_inPost_of_hands hafter hnext) (not_inPost_of_hands hbefore hwork)
  cases work with
  | outer =>
    cases x with
    | some r => cases hgo
    | none =>
      rw [hrunning] at hgo
      cases hgo
      rw [List.append_nil]
      exact attempted_set hm (hquiet (fun _ h => by cases h) fun _ h => by cases h) _ _
  | inner e₀ attempts success =>
    cases x with
    | some r => cases hgo
    | none =>
      rw [hrunning] at hgo
      have hgo : some (some Work.outer, []) = some (next, out) := by
        simpa [program, processRequests] using hgo
      cases hgo
      rw [List.append_nil]
      exact attempted_set hm (hquiet (fun _ h => by cases h) fun _ h => by cases h) _ _
  | posting e₀ attempts =>
    cases x with
    | none => cases hgo
    | some r =>
      cases hgo
      by_cases he : e₀ = e
      · subst he
        refine iff_of_true (Or.inl (posted_append.mpr (Or.inr ?_)))
          (Or.inr ⟨k, m, hm, attempts, ?_⟩)
        · exact ⟨_, List.mem_singleton_self _, rfl⟩
        · rw [hbefore]
          exact List.mem_singleton_self _
      · have hlog : Posted ⟨w.monitors.set k (m.put i (.next (some (.inner e₀ (attempts + 1)
            r.success)))), w.stage, w.pushed, w.log ++ [⟨e₀, r.success⟩]⟩ e ↔ Posted w e := by
          rw [posted_append]
          simp [he]
        refine or_congr hlog (exists_set_iff hm (hquiet ?_ fun _ h => by cases h))
        rintro attempts' h
        cases h
        exact he rfl
  | ended => cases x <;> cases hgo

/-- Once the workers are to end, none begins with an event: what is posted is what was about to
be. -/
lemma attempted_step_iff (hs : Sound hash (Webhooks.numWorkers env) w)
    (hrunning : w.running = false) (h : Webhooks.step hash env w ev = some w') :
    Attempted w' e ↔ Attempted w e := by
  cases Pool.Stepped.of_step h with
  | push haccept hm =>
    refine attempted_set hm ?_ _ _
    exact Iff.rfl
  | idle he hm hidle =>
    refine attempted_set hm ?_ _ _
    exact inPost_congr hidle.hands
  | found hm hi hqueue =>
    refine attempted_set hm (iff_of_false ?_ ?_) _ _
    · refine not_inPost_of_hands (hands_put (hs.shards _ _ hm).worker hi) fun attempts h => ?_
      cases h
    · exact not_inPost_of_entered (hs.shards _ _ hm).worker hi
  | empty hm hi hqueue =>
    refine attempted_set hm (iff_of_false ?_ ?_) _ _
    · refine not_inPost_of_hands (hands_put (hs.shards _ _ hm).worker hi) fun attempts h => ?_
      rw [Place.hand_next, hrunning] at h
      cases h
    · exact not_inPost_of_entered (hs.shards _ _ hm).worker hi
  | go hm hi hgo => exact attempted_go_iff hs hrunning hm hi hgo
  | stop hstage => exact Iff.rfl
  | notifyAll hstage hm =>
    refine attempted_set hm ?_ _ _
    exact inPost_congr (Monitor.Idle.notifyAll _).hands
  | join hstage hended => exact Iff.rfl

lemma final_program (hash : String → ℕ) (n : ℕ) : (program hash n).Final := by
  intro running w x hended
  cases w with
  | ended => cases x <;> rfl
  | outer | inner | posting => cases hended

/-- The state of the webhooks while they are stopped. -/
structure Stopping (hash : String → ℕ) (env : Env) (w : WebhookManager) : Prop where
  sound : Sound hash (Webhooks.numWorkers env) w
  ended : w.stage = .stopped → w.Ended (program hash (Webhooks.numWorkers env))
  running : w.running = false

lemma Stopping.step (hs : Stopping hash env w) (h : Webhooks.step hash env w ev = some w') :
    Stopping hash env w' where
  sound := hs.sound.step h
  ended := Pool.ended_of_stopped (final_program _ _) hs.ended (.of_step h)
  running := (Pool.Stepped.of_step h).not_running hs.running

/-- When all workers have ended, none is about to post. -/
lemma Stopping.posted_iff (hs : Stopping hash env w) (hstopped : w.stage = .stopped) :
    Attempted w e ↔ Posted w e := by
  refine or_iff_left ?_
  rintro ⟨k, m, hm, attempts, hmem⟩
  have haway := Monitor.forall_away_iff.mp (hs.ended hstopped m (List.mem_of_getElem? hm))
  cases haway.2 _ hmem

/-! ### Events before the shutdown -/

/-- While the workers run, an event with a URL is not dropped. -/
def Alive (w : WebhookManager) (e : Sent) : Prop :=
  Attempted w e ∨ ∃ (k : ℕ) (m : Monitor Sent Work), w.monitors[k]? = some m ∧ Waits m e

lemma alive_set {stage : Stage} {pushed : List Sent} {log : List Post} (h : Alive w e)
    (hm : w.monitors[k]? = some m) (hlog : Posted w e → Posted ⟨w.monitors, stage, pushed, log⟩ e)
    (hpost : InPost m e → InPost m' e ∨ Posted ⟨w.monitors, stage, pushed, log⟩ e)
    (hwaits : Waits m e → Waits m' e ∨ InPost m' e) :
    Alive ⟨w.monitors.set k m', stage, pushed, log⟩ e := by
  have hlt := (List.getElem?_eq_some_iff.mp hm).1
  have hself : (w.monitors.set k m')[k]? = some m' := List.getElem?_set_self hlt
  have hother : ∀ {j m₁}, w.monitors[j]? = some m₁ → j ≠ k →
      (w.monitors.set k m')[j]? = some m₁ := by
    intro j m₁ hj hne
    rw [List.getElem?_set_ne (Ne.symm hne)]
    exact hj
  rcases h with (hposted | ⟨j, m₁, hj, hm₁⟩) | ⟨j, m₁, hj, hm₁⟩
  · exact Or.inl (Or.inl (hlog hposted))
  · by_cases hjk : j = k
    · subst hjk
      obtain rfl : m = m₁ := Option.some.inj (hm.symm.trans hj)
      rcases hpost hm₁ with hpost | hposted
      · exact Or.inl (Or.inr ⟨j, m', hself, hpost⟩)
      · exact Or.inl (Or.inl hposted)
    · exact Or.inl (Or.inr ⟨j, m₁, hother hj hjk, hm₁⟩)
  · by_cases hjk : j = k
    · subst hjk
      obtain rfl : m = m₁ := Option.some.inj (hm.symm.trans hj)
      rcases hwaits hm₁ with hwaits | hpost
      · exact Or.inr ⟨j, m', hself, hwaits⟩
      · exact Or.inl (Or.inr ⟨j, m', hself, hpost⟩)
    · exact Or.inr ⟨j, m₁, hother hj hjk, hm₁⟩

lemma waits_of_hands {o : Option Work} (hhands : m.hands = o.toList) :
    Waits m e ↔ e ∈ m.queue ∨ o = some (.inner e 0 false) := by
  rw [Waits, hhands, Option.mem_toList]

lemma Alive.idle {stage : Stage} (h : Alive w e) (hm : w.monitors[k]? = some m)
    (hidle : m.Idle m') : Alive ⟨w.monitors.set k m', stage, w.pushed, w.log⟩ e := by
  refine alive_set h hm id ?_ ?_
  · exact fun hpost => Or.inl ((inPost_congr hidle.hands).mpr hpost)
  · intro hwaits
    rw [Waits, hidle.hands, hidle.queue]
    exact Or.inl hwaits

lemma Alive.go {work : Work} {next : Option Work} {x : Option Response} {out : List Post}
    (h : Alive w e) (hs : Sound hash (Webhooks.numWorkers env) w) (hrunning : w.running = true)
    (hurl : e.data.url ≠ "") (hm : w.monitors[k]? = some m)
    (hi : m.threads[i]? = some (.away work))
    (hgo : processRequests w.running work x = some (next, out)) :
    Alive { w with monitors := w.monitors.set k (m.put i (.next next)), log := w.log ++ out }
      e := by
  have hbefore := hands_eq (hs.shards _ _ hm).worker hi
  have hafter : (m.put i (.next next)).hands = (Place.next next).hand.toList :=
    hands_put (hs.shards _ _ hm).worker hi
  rw [Place.hand_next] at hafter
  refine alive_set h hm (fun hposted => posted_append.mpr (Or.inl hposted)) ?_ ?_
  · rw [inPost_of_hands hbefore]
    rintro ⟨attempts, hwork⟩
    cases hwork
    cases x with
    | none => cases hgo
    | some r =>
      cases hgo
      exact Or.inr (posted_append.mpr (Or.inr ⟨_, List.mem_singleton_self _, rfl⟩))
  · rw [waits_of_hands hbefore, waits_of_hands hafter, inPost_of_hands hafter]
    rintro (hqueue | hwork)
    · exact Or.inl (Or.inl hqueue)
    · cases hwork
      refine Or.inr ⟨0, ?_⟩
      cases x with
      | some r => cases hgo
      | none =>
        rw [hrunning] at hgo
        have hgo : some (some (Work.posting e 0), []) = some (next, out) := by
          simpa [processRequests, hurl, maxRetries] using hgo
        cases hgo
        rfl

/-- While the workers run, every event with a URL that was sent is on its way or was posted. -/
lemma alive_step (hs : Sound hash (Webhooks.numWorkers env) w) (hrunning : w.running = true)
    (halive : ∀ e ∈ w.pushed, e.data.url ≠ "" → Alive w e)
    (h : Webhooks.step hash env w ev = some w') :
    ∀ e ∈ w'.pushed, e.data.url ≠ "" → Alive w' e := by
  cases Pool.Stepped.of_step h with
  | @push x k a m haccept hm =>
    intro e he hurl
    rcases List.mem_append.mp he with he | he
    · refine alive_set (halive e he hurl) hm id Or.inl ?_
      rintro (hqueue | hhand)
      · exact Or.inl (Or.inl (List.mem_append_left _ hqueue))
      · exact Or.inl (Or.inr hhand)
    · refine Or.inr ⟨k, _, List.getElem?_set_self (List.getElem?_eq_some_iff.mp hm).1, Or.inl ?_⟩
      exact List.mem_append_right _ he
  | idle he hm hidle => exact fun e he hurl => (halive e he hurl).idle hm hidle
  | @found k i m a rest hm hi hqueue =>
    intro e he hurl
    have hafter : ({ m with queue := rest }.put i (.away (.inner a 0 false))).hands =
        (some (Work.inner a 0 false)).toList := hands_put (hs.shards _ _ hm).worker hi
    have hbefore := hands_eq (hs.shards _ _ hm).worker hi
    refine alive_set (halive e he hurl) hm id ?_ ?_
    · exact fun hpost => absurd hpost (not_inPost_of_entered (hs.shards _ _ hm).worker hi)
    · rw [waits_of_hands hbefore, hqueue]
      rintro (hmem | hwork)
      · refine Or.inl ((waits_of_hands hafter).mpr ?_)
        rcases List.mem_cons.mp hmem with rfl | hmem
        · exact Or.inr rfl
        · exact Or.inl hmem
      · cases hwork
  | @empty k i m hm hi hqueue =>
    intro e he hurl
    have hbefore := hands_eq (hs.shards _ _ hm).worker hi
    refine alive_set (halive e he hurl) hm id ?_ ?_
    · exact fun hpost => absurd hpost (not_inPost_of_entered (hs.shards _ _ hm).worker hi)
    · rw [waits_of_hands hbefore, hqueue]
      rintro (hmem | hwork)
      · cases hmem
      · cases hwork
  | go hm hi hgo =>
    exact fun e he hurl => (halive e he hurl).go hs hrunning hurl hm hi hgo
  | stop hstage => exact halive
  | notifyAll hstage hm => exact fun e he hurl => (halive e he hurl).idle hm (.notifyAll _)
  | join hstage hended => exact halive

/-- The state of the webhooks before they are stopped. -/
structure Flowing (hash : String → ℕ) (env : Env) (w : WebhookManager) : Prop where
  sound : Sound hash (Webhooks.numWorkers env) w
  alive : w.running = true → ∀ e ∈ w.pushed, e.data.url ≠ "" → Alive w e

lemma Flowing.new : Flowing hash env (.new env) where
  sound := .new
  alive _ e he := by cases he

lemma Flowing.step (hw : Flowing hash env w) (h : Webhooks.step hash env w ev = some w') :
    Flowing hash env w' := by
  refine ⟨hw.sound.step h, fun hrunning => ?_⟩
  have hbefore : w.running = true := by
    by_contra hnot
    have hstays := (Pool.Stepped.of_step h).not_running (by simpa using hnot)
    rw [hstays] at hrunning
    cases hrunning
  exact alive_step hw.sound hbefore (hw.alive hbefore) h

/-- What waits was not attempted. -/
lemma Waits.not_attempted (hwaits : Waits m e) (hs : Sound hash (Webhooks.numWorkers env) w)
    (hm : w.monitors[k]? = some m) : ¬Attempted w e := by
  have hshard := hs.shards k m hm
  have hmine : hash e.shardKey % Webhooks.numWorkers env = k := by
    rcases hwaits with hqueue | hhand
    · exact (hshard.queued e hqueue).1
    · exact (hshard.hand _ hhand).mine
  rintro (⟨post, hpost, rfl⟩ | ⟨j, m₁, hj, attempts, hposting⟩)
  · have hpost : post ∈ shardPosts hash (Webhooks.numWorkers env) k w.log :=
      List.mem_filter.mpr ⟨hpost, by simpa using hmine⟩
    rcases hwaits with hqueue | hhand
    · exact absurd (hshard.later post hpost post.sent hqueue) (Nat.lt_irrefl _)
    · have hnone := List.length_eq_zero_iff.mp (hshard.hand _ hhand).count
      exact absurd (List.mem_filter.mpr ⟨hpost, by simp⟩) (hnone ▸ List.not_mem_nil)
  · have hheld := ((hs.shards j m₁ hj).hand _ hposting).1
    obtain rfl : j = k := hheld.mine.symm.trans hmine
    obtain rfl : m = m₁ := Option.some.inj (hm.symm.trans hj)
    rcases hwaits with hqueue | hhand
    · exact absurd (hheld.next e hqueue) (Nat.lt_irrefl _)
    · cases hands_unique hshard.worker hhand hposting

lemma Waits.mem_pushed (hwaits : Waits m e) (hs : Sound hash (Webhooks.numWorkers env) w)
    (hm : w.monitors[k]? = some m) : e ∈ w.pushed := by
  rcases hwaits with hqueue | hhand
  · exact List.mem_of_getElem? ((hs.shards k m hm).queued e hqueue).2
  · exact List.mem_of_getElem? ((hs.shards k m hm).hand _ hhand).sent

lemma settled_iff (hs : Sound hash (Webhooks.numWorkers env) w)
    (halive : ∀ e ∈ w.pushed, e.data.url ≠ "" → Alive w e) :
    Settled w ↔ ∀ e ∈ w.pushed, e.data.url ≠ "" → Attempted w e := by
  constructor
  · intro hsettled e he hurl
    refine (halive e he hurl).resolve_right ?_
    rintro ⟨k, m, hm, hqueue | hhand⟩
    · exact hurl ((hsettled m (List.mem_of_getElem? hm)).1 e hqueue)
    · exact hurl ((hsettled m (List.mem_of_getElem? hm)).2 _ hhand e rfl)
  · intro hattempted m hmem
    obtain ⟨k, hm⟩ := List.mem_iff_getElem?.mp hmem
    have hempty : ∀ e, Waits m e → e.data.url = "" := by
      intro e hwaits
      by_contra hurl
      exact hwaits.not_attempted hs hm (hattempted e (hwaits.mem_pushed hs hm) hurl)
    refine ⟨fun e he => hempty e (Or.inl he), fun work hwork e he => hempty e (Or.inr ?_)⟩
    obtain rfl : work = .inner e 0 false := by
      unfold fresh at he
      split at he
      · cases he
        rfl
      · cases he
    exact hwork

/-! ### Events after the shutdown -/

section Destructor

variable {calls : List Simulated} {s s' s₀ : Destructor} {x : Step} {pre post : List Step}

/-- The steps of the destructor. -/
inductive Stepped (hash : String → ℕ) (env : Env) (s : Destructor) : Step → Destructor → Prop
  | webhook {ev : Webhooks.Event} {w : WebhookManager}
      (hw : Webhooks.step hash env s.webhooks ev = some w) :
      Stepped hash env s (.webhook ev) { s with webhooks := w }
  | finish {i : ℕ} {calls : List Simulated} :
      Stepped hash env s (.finish i) { s with simulatedCalls := calls }
  | skip {json : String} {c : Simulated} {calls : List Simulated}
      (hcalls : s.simulatedCalls = c :: calls) (hterminated : c.terminated = true) :
      Stepped hash env s (.terminate json) { s with simulatedCalls := calls }
  | terminate {json : String} {c : Simulated} {calls : List Simulated} {w : WebhookManager}
      (hstopped : s.webhooks.stage = .stopped) (hcalls : s.simulatedCalls = c :: calls)
      (hterminated : ¬c.terminated = true)
      (hw : Webhooks.step hash env s.webhooks (.push ⟨c.callId, c.webhookUrl, json⟩) = some w) :
      Stepped hash env s (.terminate json)
        ⟨w, calls, s.completed ++ [s.webhooks.pushed.length]⟩

lemma Stepped.of_step (h : s.step hash env x = some s') : Stepped hash env s x s' := by
  cases x with
  | webhook ev =>
    obtain ⟨w, hw, rfl⟩ := Option.map_eq_some_iff.mp h
    exact .webhook hw
  | finish i =>
    cases h
    exact .finish
  | terminate json =>
    simp only [Destructor.step, Destructor.terminate] at h
    split_ifs at h with hstopped
    split at h
    · cases h
    · next c calls hcalls =>
      split_ifs at h with hterminated
      · cases h
        exact .skip hcalls hterminated
      · obtain ⟨w, hw, rfl⟩ := Option.map_eq_some_iff.mp h
        exact .terminate hstopped hcalls hterminated hw

/-- The webhooks take steps of their own. -/
lemma Stepped.webhooks (h : Stepped hash env s x s') : s'.webhooks = s.webhooks ∨
    ∃ ev, Webhooks.step hash env s.webhooks ev = some s'.webhooks := by
  cases h with
  | webhook hw => exact Or.inr ⟨_, hw⟩
  | finish | skip => exact Or.inl rfl
  | terminate hstopped hcalls hterminated hw => exact Or.inr ⟨_, hw⟩

/-- What the steps of the webhooks keep is kept by those of the destructor. -/
lemma webhooks_invariant {I : WebhookManager → Prop}
    (hI : ∀ w ev w', I w → Webhooks.step hash env w ev = some w' → I w')
    (hs : I s.webhooks) (hr : run (Destructor.step hash env) s post = some s') : I s'.webhooks := by
  refine run_invariant' (I := fun s => I s.webhooks) (fun s x s' hs h => ?_) hs hr
  rcases (Stepped.of_step h).webhooks with hsame | ⟨ev, hstep⟩
  · rw [hsame]
    exact hs
  · exact hI _ _ _ hs hstep

/-- The events of the calls that the destructor terminates come after the end of all workers. -/
structure Consistent (hash : String → ℕ) (env : Env) (s : Destructor) : Prop where
  sound : Sound hash (Webhooks.numWorkers env) s.webhooks
  ended : s.webhooks.stage = .stopped →
    s.webhooks.Ended (program hash (Webhooks.numWorkers env))
  late : s.completed ≠ [] → s.webhooks.stage = .stopped
  unposted : ∀ number ∈ s.completed, ∀ post ∈ s.webhooks.log, post.sent.number ≠ number

lemma Consistent.new : Consistent hash env (.new env calls) where
  sound := .new
  ended h := by cases h
  late h := absurd rfl h
  unposted number h := by cases h

lemma Consistent.webhook (hs : Consistent hash env s)
    (h : Webhooks.step hash env s.webhooks ev = some w) :
    Consistent hash env { s with webhooks := w } where
  sound := hs.sound.step h
  ended := Pool.ended_of_stopped (final_program _ _) hs.ended (.of_step h)
  late hne := (Pool.Stepped.of_step h).stopped (hs.late hne)
  unposted number hnumber post hpost := by
    have hstopped := hs.late (List.ne_nil_of_mem hnumber)
    have hlog : w.log = s.webhooks.log :=
      (hs.ended hstopped).log_eq (final_program _ _) (.of_step h)
    exact hs.unposted number hnumber post (hlog ▸ hpost)

lemma Consistent.step (hs : Consistent hash env s) (h : s.step hash env x = some s') :
    Consistent hash env s' := by
  cases Stepped.of_step h with
  | webhook hw => exact hs.webhook hw
  | finish | skip => exact ⟨hs.sound, hs.ended, hs.late, hs.unposted⟩
  | terminate hstopped hcalls hterminated hw =>
    have hpushed := hs.webhook hw
    have hlog := (hs.ended hstopped).log_eq (final_program _ _) (.of_step hw)
    refine ⟨hpushed.sound, hpushed.ended, fun _ => (Pool.Stepped.of_step hw).stopped hstopped, ?_⟩
    intro number hnumber post hpost
    rcases List.mem_append.mp hnumber with hnumber | hnumber
    · exact hpushed.unposted number hnumber post hpost
    · rw [List.mem_singleton.mp hnumber]
      exact Nat.ne_of_lt (number_lt (hs.sound.sent post (hlog ▸ hpost)))

/-- The destructor sends an event for a call if and only if it does not find it terminated. -/
lemma completed_step_iff (hs : s.completed = []) (h : s.step hash env x = some s') :
    s'.completed = [] ↔ Terminated s x := by
  cases Stepped.of_step h with
  | webhook | finish => exact iff_of_true hs trivial
  | skip hcalls hterminated =>
    refine iff_of_true hs fun c hc => ?_
    rw [hcalls] at hc
    cases hc
    exact hterminated
  | terminate hstopped hcalls hterminated hw =>
    refine iff_of_false (by simp) fun hall => hterminated (hall _ ?_)
    rw [hcalls]
    rfl

lemma completed_ne_nil (hs : s.completed ≠ []) (h : s.step hash env x = some s') :
    s'.completed ≠ [] := by
  cases Stepped.of_step h with
  | webhook | finish | skip => exact hs
  | terminate => simp

/-- Before `stop` is called, events are sent in steps of the webhooks only. -/
lemma pushed_run (hpre : run (Destructor.step hash env) s pre = some s₀)
    (hrunning : s₀.webhooks.running = true) :
    s₀.webhooks.pushed = s.webhooks.pushed ++
      (program hash (Webhooks.numWorkers env)).accepted s.webhooks.pushed.length
        (pre.filterMap Step.send) := by
  induction pre generalizing s with
  | nil =>
    cases hpre
    exact (List.append_nil _).symm
  | cons x pre ih =>
    obtain ⟨s₁, h₁, hpre⟩ := Option.bind_eq_some_iff.mp hpre
    have hrest := ih hpre
    cases Stepped.of_step h₁ with
    | @webhook ev w hw =>
      have hfirst := (Pool.Stepped.of_step hw).pushed
      rw [hrest, hfirst]
      cases hx : ev.submission with
      | none => simp [Program.accepted, Step.send, hx]
      | some y => simp [Program.accepted, Step.send, hx]
    | finish | skip => exact hrest
    | terminate hstopped hcalls hterminated hw =>
      -- no event is sent so before `stop`
      have hstage := (Pool.Stepped.of_step hw).stopped hstopped
      have hnot := webhooks_invariant (I := fun w => w.running = false)
        (fun w ev w' hw h => (Pool.Stepped.of_step h).not_running hw)
        (decide_eq_false (by rw [hstage]; decide)) hpre
      rw [hrunning] at hnot
      cases hnot

lemma pushed_eq (hpre : run (Destructor.step hash env) (.new env calls) pre = some s₀)
    (hrunning : s₀.webhooks.running = true) : s₀.webhooks.pushed = sentIn pre :=
  pushed_run hpre hrunning

/-- The events that were sent before `stop` with a URL, and the events of the calls that the
destructor terminated, were posted when it is done, if and only if nothing waited when `stop` was
called and every call had terminated before. -/
theorem events_posted_iff (hpre : run (Destructor.step hash env) (.new env calls) pre = some s₀)
    (hpost : run (Destructor.step hash env) s₀ (.webhook .stop :: post) = some s)
    (hdone : s.Destroyed) :
    ((∀ e ∈ sentIn pre, e.data.url ≠ "" → Posted s.webhooks e) ∧
        ∀ number ∈ s.completed, ∃ post ∈ s.webhooks.log, post.sent.number = number) ↔
      Settled s₀.webhooks ∧
        Guarded (Destructor.step hash env) Terminated s₀ (.webhook .stop :: post) := by
  have hconsistent : Consistent hash env s₀ :=
    run_invariant' (I := Consistent hash env) (fun s x s' hs h => hs.step h) .new hpre
  have hflowing : Flowing hash env s₀.webhooks :=
    webhooks_invariant (fun w ev w' hw h => hw.step h) .new hpre
  obtain ⟨s₁, hstop, hlater⟩ := Option.bind_eq_some_iff.mp hpost
  obtain ⟨w₁, hw₁, rfl⟩ := Option.map_eq_some_iff.mp hstop
  obtain ⟨hrunning, rfl⟩ : s₀.webhooks.stage = .running ∧
      w₁ = { s₀.webhooks with stage := .notifying 0 } := by
    cases Pool.Stepped.of_step hw₁ with
    | idle he => cases he
    | stop hstage => exact ⟨hstage, rfl⟩
  have hconsistent' := run_invariant' (I := Consistent hash env)
    (fun s x s' hs h => hs.step h) hconsistent hpost
  have hattempted : ∀ e, Posted s.webhooks e ↔ Attempted s₀.webhooks e := by
    intro e
    let I (w : WebhookManager) : Prop :=
      Stopping hash env w ∧ (Attempted w e ↔ Attempted s₀.webhooks e)
    have hstopping : I { s₀.webhooks with stage := .notifying 0 } := by
      refine ⟨⟨hflowing.sound.step hw₁, fun h => ?_, rfl⟩, Iff.rfl⟩
      cases h
    have hboth : I s.webhooks :=
      webhooks_invariant (fun w ev w' hw h => ⟨hw.1.step h,
        (attempted_step_iff hw.1.sound hw.1.running h).trans hw.2⟩) hstopping hlater
    exact (hboth.1.posted_iff hdone.1).symm.trans hboth.2
  have hnone : s₀.completed = [] := by
    by_contra hne
    rw [hconsistent.late hne] at hrunning
    cases hrunning
  have hguard : s.completed = [] ↔
      Guarded (Destructor.step hash env) Terminated s₀ (.webhook .stop :: post) :=
    run_iff_guarded (I := fun _ => True) (P := fun s => s.completed = [])
      (fun _ _ _ _ _ => trivial) (fun s x s' _ hs h => completed_step_iff hs h)
      (fun s x s' _ hs h => completed_ne_nil hs h) trivial hnone hpost
  rw [settled_iff hflowing.sound (hflowing.alive (decide_eq_true hrunning)), ← hguard,
    ← pushed_eq hpre (decide_eq_true hrunning)]
  refine and_congr ?_ ?_
  · exact forall_congr' fun e => forall_congr' fun _ => forall_congr' fun _ => hattempted e
  · constructor
    · intro hall
      refine List.eq_nil_iff_forall_not_mem.mpr fun number hnumber => ?_
      obtain ⟨post, hmem, hsent⟩ := hall number hnumber
      exact hconsistent'.unposted number hnumber post hmem hsent
    · intro hempty number hnumber
      rw [hempty] at hnumber
      cases hnumber

/-- The shutdown of four workers that are before their outer loops. -/
def endWorkers : List Step :=
  [.webhook .notifyAll, .webhook .notifyAll, .webhook .notifyAll, .webhook .notifyAll,
    .webhook (.go 0 0 none), .webhook (.go 1 0 none), .webhook (.go 2 0 none),
    .webhook (.go 3 0 none), .webhook .join]

/-- An event is posted before `stop` is called, and the simulated call has ended by itself. -/
def eventPosted : List Step :=
  [.webhook (.push ⟨"call-1", "https://backend/webhook", "ringing"⟩), .webhook (.notifyOne 2 none),
    .webhook (.go 2 0 none), .webhook (.check 2 0), .webhook (.leave 2 0),
    .webhook (.go 2 0 none), .webhook (.go 2 0 (some ⟨true, 200⟩)), .webhook (.go 2 0 none),
    .finish 0]

theorem events_posted_sample :
    ∃ s₀ s, run (Destructor.step String.length fun _ => none)
        (.new (fun _ => none) [⟨"call-2", "https://backend/webhook", false⟩]) eventPosted =
          some s₀ ∧
      run (Destructor.step String.length fun _ => none) s₀
        (.webhook .stop :: (endWorkers ++ [.terminate "completed"])) = some s ∧
      s.webhooks.log = [⟨⟨0, "call-1", ⟨"https://backend/webhook", "ringing"⟩⟩, true⟩] ∧
      (∀ e ∈ sentIn eventPosted, e.data.url ≠ "" → Posted s.webhooks e) ∧
        ∀ number ∈ s.completed, ∃ post ∈ s.webhooks.log, post.sent.number = number := by
  have hrun : ((run (Destructor.step String.length fun _ => none)
      (.new (fun _ => none) [⟨"call-2", "https://backend/webhook", false⟩]) eventPosted).bind
        fun s₀ => (run (Destructor.step String.length fun _ => none) s₀
          (.webhook .stop :: (endWorkers ++ [.terminate "completed"]))).map fun s =>
            decide (s.Destroyed ∧ s.webhooks.log =
              [⟨⟨0, "call-1", ⟨"https://backend/webhook", "ringing"⟩⟩, true⟩] ∧
              Settled s₀.webhooks ∧
              Guarded (Destructor.step String.length fun _ => none) Terminated s₀
                (.webhook .stop :: (endWorkers ++ [.terminate "completed"])))) = some true := by
    decide +kernel
  obtain ⟨s₀, hpre, hrun⟩ := Option.bind_eq_some_iff.mp hrun
  obtain ⟨s, hpost, hrun⟩ := Option.map_eq_some_iff.mp hrun
  obtain ⟨hdone, hlog, hsettled, hguard⟩ := of_decide_eq_true hrun
  exact ⟨s₀, s, hpre, hpost, hlog, (events_posted_iff hpre hpost hdone).mpr ⟨hsettled, hguard⟩⟩

/-- An event that waits when `stop` is called is never posted. -/
theorem event_abandoned : ¬∀ (hash : String → ℕ) (env : Env) (calls : List Simulated)
    (pre post : List Step) (s₀ s : Destructor),
    run (Destructor.step hash env) (.new env calls) pre = some s₀ →
    run (Destructor.step hash env) s₀ (.webhook .stop :: post) = some s → s.Destroyed →
      (∀ e ∈ sentIn pre, e.data.url ≠ "" → Posted s.webhooks e) ∧
        ∀ number ∈ s.completed, ∃ post ∈ s.webhooks.log, post.sent.number = number := by
  intro hall
  have hrun : ((run (Destructor.step String.length fun _ => none) (.new (fun _ => none) [])
      [.webhook (.push ⟨"call-1", "https://backend/webhook", "ringing"⟩)]).bind fun s₀ =>
        (run (Destructor.step String.length fun _ => none) s₀ (.webhook .stop :: endWorkers)).map
          fun s => (decide s.Destroyed, s.webhooks.log)) = some (true, []) := by
    decide +kernel
  obtain ⟨s₀, hpre, hrun⟩ := Option.bind_eq_some_iff.mp hrun
  obtain ⟨s, hpost, hrun⟩ := Option.map_eq_some_iff.mp hrun
  obtain ⟨hdone, hlog⟩ := Prod.mk.inj hrun
  obtain ⟨post, hmem, -⟩ := (hall String.length (fun _ => none) [] _ _ s₀ s hpre hpost
    (of_decide_eq_true hdone)).1 ⟨0, "call-1", ⟨"https://backend/webhook", "ringing"⟩⟩
      (List.mem_singleton_self _) (by decide)
  rw [hlog] at hmem
  cases hmem

end Destructor

/-! ### Workers that are left behind -/

/-- In every run in which the notifications of the shutdown find no worker between a predicate that
was false and its block, no worker is left blocked without a notification to come. Where a
notification does find one, the worker may be left so. -/
theorem workers_notified (hash : String → ℕ) (env : Env) :
    (∀ (es : List Uploads.Event) (s : Uploads.UploadManager),
      run Uploads.step (.new env) es = some s →
        (Guarded Uploads.step Pool.NoneParking (.new env) es → ¬s.Stranded) ∧
          (¬s.NoneParking (.notifyAll : Uploads.Event) →
            ∃ fs s', run Uploads.step s (.notifyAll :: fs) = some s' ∧ s'.Stranded)) ∧
    ∀ (es : List Webhooks.Event) (s : Webhooks.WebhookManager),
      run (Webhooks.step hash env) (.new env) es = some s →
        (Guarded (Webhooks.step hash env) Pool.NoneParking (.new env) es → ¬s.Stranded) ∧
          (¬s.NoneParking (.notifyAll : Webhooks.Event) →
            ∃ fs s', run (Webhooks.step hash env) s (.notifyAll :: fs) = some s' ∧
              s'.Stranded) := by
  refine ⟨fun es s hr => ⟨fun hguard => ?_, Pool.exists_stranded⟩,
    fun es s hr => ⟨fun hguard => ?_, Pool.exists_stranded⟩⟩
  · exact Pool.not_stranded_of_guarded (Pool.calm_of_running rfl) hguard hr
  · exact Pool.not_stranded_of_guarded (Pool.calm_of_running rfl) hguard hr

/-- Two of the workers are blocked when they are notified. -/
def blockedFirst : List Uploads.Event :=
  [.check 0 0, .block 0 0, .check 0 1, .block 0 1, .stop, .notifyAll]

/-- The first worker of the webhooks is blocked when it is notified. -/
def shardBlockedFirst : List Webhooks.Event :=
  [.go 0 0 none, .check 0 0, .block 0 0, .stop, .notifyAll]

theorem workers_notified_sample :
    (∃ s, run Uploads.step (.new fun _ => none) blockedFirst = some s ∧ ¬s.Stranded) ∧
    (∃ s, run Uploads.step (.new fun _ => none) [.check 0 0, .stop] = some s ∧
      ∃ fs s', run Uploads.step s (.notifyAll :: fs) = some s' ∧ s'.Stranded) ∧
    (∃ s, run (Webhooks.step String.length fun _ => none) (.new fun _ => none)
      shardBlockedFirst = some s ∧ ¬s.Stranded) ∧
    ∃ s, run (Webhooks.step String.length fun _ => none) (.new fun _ => none)
        [.go 0 0 none, .check 0 0, .stop] = some s ∧
      ∃ fs s', run (Webhooks.step String.length fun _ => none) s (.notifyAll :: fs) = some s' ∧
        s'.Stranded := by
  obtain ⟨huploads, hwebhooks⟩ := workers_notified String.length fun _ => none
  refine ⟨?_, ?_, ?_, ?_⟩
  · obtain ⟨s, hr⟩ := Option.isSome_iff_exists.mp (show (run Uploads.step (.new fun _ => none)
      blockedFirst).isSome by decide +kernel)
    exact ⟨s, hr, (huploads _ s hr).1 (by decide +kernel)⟩
  · have hparking : ((run Uploads.step (.new fun _ => none) [.check 0 0, .stop]).map fun s =>
        decide (s.NoneParking (.notifyAll : Uploads.Event))) = some false := by decide +kernel
    obtain ⟨s, hr, hparking⟩ := Option.map_eq_some_iff.mp hparking
    exact ⟨s, hr, (huploads _ s hr).2 (of_decide_eq_false hparking)⟩
  · obtain ⟨s, hr⟩ := Option.isSome_iff_exists.mp (show (run (Webhooks.step String.length
      fun _ => none) (.new fun _ => none) shardBlockedFirst).isSome by decide +kernel)
    exact ⟨s, hr, (hwebhooks _ s hr).1 (by decide +kernel)⟩
  · have hparking : ((run (Webhooks.step String.length fun _ => none) (.new fun _ => none)
        [.go 0 0 none, .check 0 0, .stop]).map fun s =>
          decide (s.NoneParking (.notifyAll : Webhooks.Event))) = some false := by decide +kernel
    obtain ⟨s, hr, hparking⟩ := Option.map_eq_some_iff.mp hparking
    exact ⟨s, hr, (hwebhooks _ s hr).2 (of_decide_eq_false hparking)⟩

/-- A worker that evaluates its predicate before `stop` and blocks after the notification is left
blocked, in both managers. -/
theorem worker_stranded :
    (¬∀ (env : Env) (es : List Uploads.Event) (s : Uploads.UploadManager),
      run Uploads.step (.new env) es = some s → ¬s.Stranded) ∧
    ¬∀ (hash : String → ℕ) (env : Env) (es : List Webhooks.Event) (s : Webhooks.WebhookManager),
      run (Webhooks.step hash env) (.new env) es = some s → ¬s.Stranded := by
  refine ⟨fun hall => ?_, fun hall => ?_⟩
  · have hstranded : (run Uploads.step (.new fun _ => none)
        [.check 0 0, .stop, .notifyAll, .block 0 0]).map (fun s =>
          decide (s.Notified 0 ∧ ∃ m ∈ s.monitors[0]?, m.Stranded)) = some true := by
      decide +kernel
    obtain ⟨s, hr, hs⟩ := Option.map_eq_some_iff.mp hstranded
    obtain ⟨hnotified, m, hm, hstranded⟩ := of_decide_eq_true hs
    exact hall _ _ s hr ⟨0, m, hm, hnotified, hstranded⟩
  · have hstranded : (run (Webhooks.step String.length fun _ => none) (.new fun _ => none)
        [.go 0 0 none, .check 0 0, .stop, .notifyAll, .block 0 0]).map (fun s =>
          decide (s.Notified 0 ∧ ∃ m ∈ s.monitors[0]?, m.Stranded)) = some true := by
      decide +kernel
    obtain ⟨s, hr, hs⟩ := Option.map_eq_some_iff.mp hstranded
    obtain ⟨hnotified, m, hm, hstranded⟩ := of_decide_eq_true hs
    exact hall _ _ _ s hr ⟨0, m, hm, hnotified, hstranded⟩

end MediaServer.Shutdown
