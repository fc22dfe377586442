import SipForward.Core.Run
import Mathlib.Data.List.Basic
import Mathlib.Data.List.Count
import Mathlib.Algebra.Order.Group.Multiset
import Mathlib.Tactic.Lemma
import Mathlib.Tactic.SplitIfs

/-!
# Threads that wait at a queue

A monitor is a queue with a mutex and a condition variable. A thread that wants an element takes the
mutex and evaluates its predicate: there is an element, or the threads are to end. If it is false
the thread releases the mutex and blocks until it is notified, which is a step of its own; a
notification that comes in between does not reach it. A blocked thread may also wake up by itself.
A producer takes the mutex, adds an element, releases the mutex, and then notifies one thread.
-/

namespace Core

/-- Where a thread is: it needs the mutex for its predicate, it has the mutex and found the
predicate false, it is blocked, it has the mutex and found the predicate true, or it is away with
some work. -/
inductive Place (ω : Type*) where
  | waiting
  | parking
  | blocked
  | entered
  | away (w : ω)

namespace Place

variable {ω : Type*}

/-- The thread has the mutex. -/
def holds : Place ω → Bool
  | .parking => true
  | .entered => true
  | _        => false

def isParking : Place ω → Bool
  | .parking => true
  | _        => false

def isBlocked : Place ω → Bool
  | .blocked => true
  | _        => false

/-- The work of a thread that is away. -/
def hand : Place ω → Option ω
  | .away w => some w
  | _       => none

/-- Where a thread goes on: to the queue, or away. -/
def next : Option ω → Place ω
  | none   => .waiting
  | some w => .away w

/-- The thread evaluates the predicate. -/
def check (found : Bool) : Place ω → Option (Place ω)
  | .waiting => some (if found then .entered else .parking)
  | _        => none

def block : Place ω → Option (Place ω)
  | .parking => some .blocked
  | _        => none

def unblock : Place ω → Option (Place ω)
  | .blocked => some .waiting
  | _        => none

def leave (p' : Place ω) : Place ω → Option (Place ω)
  | .entered => some p'
  | _        => none

/-- The thread is unblocked if it is blocked. -/
def notified : Place ω → Place ω
  | .blocked => .waiting
  | p        => p

@[simp] lemma hand_next (w : Option ω) : (next w).hand = w := by
  cases w <;> rfl

@[simp] lemma hand_notified (p : Place ω) : p.notified.hand = p.hand := by
  cases p <;> rfl

end Place

structure Monitor (α ω : Type*) where
  queue : List α
  threads : List (Place ω)
  /-- The notifications of one thread that are still to come. -/
  pending : ℕ

namespace Monitor

variable {α ω : Type*}

/-- No thread has the mutex. -/
def Free (m : Monitor α ω) : Prop := ∀ p ∈ m.threads, p.holds = false

instance (m : Monitor α ω) : Decidable m.Free :=
  inferInstanceAs (Decidable (∀ p ∈ m.threads, p.holds = false))

/-- A monitor whose thread `i` is elsewhere. -/
def put (m : Monitor α ω) (i : ℕ) (p : Place ω) : Monitor α ω :=
  { m with threads := m.threads.set i p }

/-- The thread `i` goes where `f` says. -/
def move (m : Monitor α ω) (i : ℕ) (f : Place ω → Option (Place ω)) : Option (Monitor α ω) :=
  (m.threads[i]?.bind f).map (m.put i)

/-- A producer adds an element; its notification is still to come. -/
def push (m : Monitor α ω) (a : α) : Option (Monitor α ω) :=
  if m.Free then some { m with queue := m.queue ++ [a], pending := m.pending + 1 } else none

/-- A notification of one thread, which is a blocked one if there is one. -/
def notifyOne (m : Monitor α ω) (target : Option ℕ) : Option (Monitor α ω) :=
  if m.pending = 0 then none
  else
    match target with
    | some i => { m with pending := m.pending - 1 }.move i Place.unblock
    | none   =>
      if m.threads.any Place.isBlocked then none else some { m with pending := m.pending - 1 }

def notifyAll (m : Monitor α ω) : Monitor α ω := { m with threads := m.threads.map Place.notified }

/-- The thread `i` takes the mutex and evaluates the predicate. -/
def check (m : Monitor α ω) (running : Bool) (i : ℕ) : Option (Monitor α ω) :=
  if m.Free then m.move i (Place.check (!m.queue.isEmpty || !running)) else none

def block (m : Monitor α ω) (i : ℕ) : Option (Monitor α ω) := m.move i Place.block

/-- The thread `i` wakes up by itself. -/
def wake (m : Monitor α ω) (i : ℕ) : Option (Monitor α ω) := m.move i Place.unblock

/-- The thread `i` takes the first element, or goes where it should if there is none, and releases
the mutex. -/
def leave (m : Monitor α ω) (take : α → ω) (empty : Option ω) (i : ℕ) : Option (Monitor α ω) :=
  match m.queue with
  | []        => m.move i (Place.leave (.next empty))
  | a :: rest => { m with queue := rest }.move i (Place.leave (.away (take a)))

/-- More threads are blocked than are still to be notified. -/
def Stranded (m : Monitor α ω) : Prop := m.pending < m.threads.countP Place.isBlocked

instance (m : Monitor α ω) : Decidable m.Stranded :=
  inferInstanceAs (Decidable (m.pending < m.threads.countP Place.isBlocked))

/-- No thread is blocked, or about to block. -/
def Quiet (m : Monitor α ω) : Prop :=
  ∀ p ∈ m.threads, p.isBlocked = false ∧ p.isParking = false

/-- What the threads that are away have in hand. -/
def hands (m : Monitor α ω) : List ω := m.threads.filterMap Place.hand

variable {m m' : Monitor α ω} {i : ℕ} {p p' : Place ω} {f : Place ω → Option (Place ω)} {a : α}
  {running : Bool} {target : Option ℕ}

lemma move_eq_some : m.move i f = some m' ↔
    ∃ p p', m.threads[i]? = some p ∧ f p = some p' ∧ m' = m.put i p' := by
  unfold move
  constructor
  · intro h
    obtain ⟨p', hp', rfl⟩ := Option.map_eq_some_iff.mp h
    obtain ⟨p, hp, hf⟩ := Option.bind_eq_some_iff.mp hp'
    exact ⟨p, p', hp, hf, rfl⟩
  · rintro ⟨p, p', hp, hf, rfl⟩
    rw [hp, Option.bind_some, hf, Option.map_some]

lemma push_eq_some (h : m.push a = some m') :
    m' = { m with queue := m.queue ++ [a], pending := m.pending + 1 } := by
  unfold push at h
  split_ifs at h
  exact (Option.some.inj h).symm

lemma mem_put {q : Place ω} (hq : q ∈ (m.put i p).threads) : q ∈ m.threads ∨ q = p :=
  List.mem_or_eq_of_mem_set hq

lemma notifyOne_eq_some (h : m.notifyOne target = some m') :
    (∃ i, target = some i ∧ { m with pending := m.pending - 1 }.move i Place.unblock = some m') ∨
      (target = none ∧ m' = { m with pending := m.pending - 1 }) := by
  unfold notifyOne at h
  by_cases hpending : m.pending = 0
  · rw [if_pos hpending] at h
    cases h
  · rw [if_neg hpending] at h
    cases target with
    | some i => exact Or.inl ⟨i, rfl, h⟩
    | none =>
      dsimp only at h
      split_ifs at h
      exact Or.inr ⟨rfl, (Option.some.inj h).symm⟩

/-- A thread leaves with the first element, or without one. -/
lemma leave_eq_some {take : α → ω} {empty : Option ω} (h : m.leave take empty i = some m') :
    m.threads[i]? = some .entered ∧
      ((m.queue = [] ∧ m' = m.put i (.next empty)) ∨
        ∃ a rest, m.queue = a :: rest ∧ m' = { m with queue := rest }.put i (.away (take a))) := by
  have hplace : ∀ {p p' q : Place ω}, Place.leave p' p = some q → p = .entered ∧ q = p' := by
    intro p p' q hleave
    cases p with
    | entered => exact ⟨rfl, (Option.some.inj hleave).symm⟩
    | waiting | parking | blocked | away => cases hleave
  unfold leave at h
  split at h
  · next hqueue =>
    obtain ⟨p, p', hp, hleave, rfl⟩ := move_eq_some.mp h
    obtain ⟨rfl, rfl⟩ := hplace hleave
    exact ⟨hp, Or.inl ⟨hqueue, rfl⟩⟩
  · next a rest hqueue =>
    obtain ⟨p, p', hp, hleave, rfl⟩ := move_eq_some.mp h
    obtain ⟨rfl, rfl⟩ := hplace hleave
    exact ⟨hp, Or.inr ⟨a, rest, hqueue, rfl⟩⟩

lemma check_eq_some (h : m.check running i = some m') :
    m.move i (Place.check (!m.queue.isEmpty || !running)) = some m' := by
  unfold check at h
  split_ifs at h
  exact h

/-! ### Notifications -/

/-- The notification of all threads leaves none blocked. Only a thread that is about to block can
still do so. -/
lemma quiet_notifyAll (h : ∀ p ∈ m.threads, p.isParking = false) : m.notifyAll.Quiet := by
  intro p hp
  obtain ⟨q, hq, rfl⟩ := List.mem_map.mp hp
  cases q with
  | parking => cases h _ hq
  | waiting | blocked | entered | away => exact ⟨rfl, rfl⟩

lemma Quiet.put (hm : m.Quiet) (hp : p.isBlocked = false ∧ p.isParking = false) :
    (m.put i p).Quiet := by
  intro q hq
  rcases mem_put hq with hq | rfl
  · exact hm q hq
  · exact hp

lemma Quiet.of_move (hm : m.Quiet) (h : m.move i f = some m')
    (hf : ∀ p p', f p = some p' → p.isBlocked = false ∧ p.isParking = false →
      p'.isBlocked = false ∧ p'.isParking = false) : m'.Quiet := by
  obtain ⟨p, p', hp, hfp, rfl⟩ := move_eq_some.mp h
  exact hm.put (hf p p' hfp (hm p (List.mem_of_getElem? hp)))

lemma Quiet.unblock (hm : m.Quiet) (h : m.move i Place.unblock = some m') : m'.Quiet := by
  refine hm.of_move h fun p p' hp hquiet => ?_
  cases p with
  | blocked => cases hquiet.1
  | waiting | parking | entered | away => cases hp

lemma Quiet.notifyOne (hm : m.Quiet) (h : m.notifyOne target = some m') : m'.Quiet := by
  rcases notifyOne_eq_some h with ⟨i, -, h⟩ | ⟨-, rfl⟩
  · exact Quiet.unblock (m := { m with pending := m.pending - 1 }) hm h
  · exact hm

/-- Once the threads are to end, none finds the predicate false. -/
lemma Quiet.check (hm : m.Quiet) (h : m.check false i = some m') : m'.Quiet := by
  refine hm.of_move (check_eq_some h) fun p p' hp hquiet => ?_
  cases p with
  | waiting =>
    obtain rfl : Place.entered = p' := by simpa [Place.check] using hp
    exact ⟨rfl, rfl⟩
  | parking | blocked | entered | away => cases hp

lemma Quiet.block (hm : m.Quiet) (h : m.block i = some m') : m'.Quiet := by
  refine hm.of_move h fun p p' hp hquiet => ?_
  cases p with
  | parking => cases hquiet.2
  | waiting | blocked | entered | away => cases hp

lemma Quiet.leave {take : α → ω} {empty : Option ω} (hm : m.Quiet)
    (h : m.leave take empty i = some m') : m'.Quiet := by
  obtain ⟨-, ⟨-, rfl⟩ | ⟨a, rest, -, rfl⟩⟩ := leave_eq_some h
  · cases empty with
    | none => exact hm.put ⟨rfl, rfl⟩
    | some w => exact hm.put ⟨rfl, rfl⟩
  · exact Quiet.put (m := { m with queue := rest }) hm ⟨rfl, rfl⟩

lemma Quiet.not_stranded (hm : m.Quiet) : ¬m.Stranded := by
  have hnone : m.threads.countP Place.isBlocked = 0 :=
    List.countP_eq_zero.mpr fun p hp => by simp [(hm p hp).1]
  unfold Stranded
  rw [hnone]
  exact Nat.not_lt_zero _

/-- The notifications that are still to come may all come before a thread blocks. -/
lemma exists_notified (hi : m.threads[i]? = some .parking) :
    ∃ targets m', run notifyOne m targets = some m' ∧ m'.pending = 0 ∧
      m'.threads[i]? = some .parking := by
  induction hn : m.pending generalizing m with
  | zero => exact ⟨[], m, rfl, hn, hi⟩
  | succ n ih =>
    have hpending : m.pending ≠ 0 := by omega
    by_cases hblocked : m.threads.any Place.isBlocked = true
    · obtain ⟨p, hp, hisBlocked⟩ := List.any_eq_true.mp hblocked
      obtain ⟨j, hj⟩ := List.mem_iff_getElem?.mp hp
      obtain rfl : p = .blocked := by
        cases p with
        | blocked => rfl
        | waiting | parking | entered | away => cases hisBlocked
      have hne : j ≠ i := by
        rintro rfl
        cases hj.symm.trans hi
      have hstep : m.notifyOne (some j) =
          some ({ m with pending := m.pending - 1 }.put j .waiting) := by
        rw [notifyOne, if_neg hpending]
        exact move_eq_some.mpr ⟨.blocked, .waiting, hj, rfl, rfl⟩
      obtain ⟨targets, m', hr, hm'⟩ := ih
        (m := { m with pending := m.pending - 1 }.put j .waiting)
        (by rw [put, List.getElem?_set_ne hne]; exact hi) (by simp only [put]; omega)
      exact ⟨some j :: targets, m', by rw [run_cons, hstep, Option.bind_some, hr], hm'⟩
    · have hstep : m.notifyOne none = some { m with pending := m.pending - 1 } := by
        rw [notifyOne, if_neg hpending]
        exact if_neg hblocked
      obtain ⟨targets, m', hr, hm'⟩ := ih (m := { m with pending := m.pending - 1 }) hi
        (by simp only; omega)
      exact ⟨none :: targets, m', by rw [run_cons, hstep, Option.bind_some, hr], hm'⟩

/-- A thread that blocks when no notification is to come is stranded. -/
lemma exists_stranded (hi : m.threads[i]? = some .parking) (hpending : m.pending = 0) :
    ∃ m', m.block i = some m' ∧ m'.Stranded := by
  refine ⟨m.put i .blocked, move_eq_some.mpr ⟨.parking, .blocked, hi, rfl, rfl⟩, ?_⟩
  have hlt : i < m.threads.length := (List.getElem?_eq_some_iff.mp hi).1
  unfold Stranded
  simp only [put, hpending]
  exact List.countP_pos_iff.mpr ⟨.blocked, List.mem_set hlt _, rfl⟩

/-! ### Work in hand -/

lemma filterMap_set_of_eq {β γ : Type*} {g : β → Option γ} :
    ∀ {l : List β} {i : ℕ} {b b' : β}, l[i]? = some b → g b' = g b →
      (l.set i b').filterMap g = l.filterMap g
  | [], i, b, b', h, _ => rfl
  | c :: l, 0, b, b', h, hg => by
    obtain rfl : c = b := by simpa using h
    rw [List.set_cons_zero, List.filterMap_cons, List.filterMap_cons, hg]
  | c :: l, i + 1, b, b', h, hg => by
    rw [List.set_cons_succ, List.filterMap_cons, List.filterMap_cons,
      filterMap_set_of_eq (by simpa using h) hg]

/-- What one element gives is exchanged. -/
lemma filterMap_set_perm {β γ : Type*} {g : β → Option γ} :
    ∀ {l : List β} {i : ℕ} {b b' : β}, l[i]? = some b →
      ((g b).toList ++ (l.set i b').filterMap g).Perm ((g b').toList ++ l.filterMap g)
  | [], i, b, b', h => by cases h
  | c :: l, 0, b, b', h => by
    obtain rfl : c = b := by simpa using h
    rw [List.set_cons_zero, List.filterMap_cons, List.filterMap_cons]
    cases hb : g c with
    | none => cases hb' : g b' <;> simp
    | some x => cases hb' : g b' <;> simp [List.Perm.swap]
  | c :: l, i + 1, b, b', h => by
    have ih : ((g b).toList ++ (l.set i b').filterMap g).Perm ((g b').toList ++ l.filterMap g) :=
      filterMap_set_perm (by simpa using h)
    rw [List.set_cons_succ, List.filterMap_cons, List.filterMap_cons]
    cases hc : g c with
    | none => exact ih
    | some x =>
      refine (List.perm_middle).trans ((ih.cons x).trans List.perm_middle.symm)

/-- A thread that has nothing in hand before and after. -/
lemma hands_put_of_eq (hi : m.threads[i]? = some p) (hp : p'.hand = p.hand) :
    (m.put i p').hands = m.hands := filterMap_set_of_eq hi hp

lemma hands_put_perm (hi : m.threads[i]? = some p) :
    (p.hand.toList ++ (m.put i p').hands).Perm (p'.hand.toList ++ m.hands) :=
  filterMap_set_perm hi

lemma mem_hands_put {w : ω} (h : w ∈ (m.put i p').hands) : w ∈ m.hands ∨ p'.hand = some w := by
  obtain ⟨t, ht, hw⟩ := List.mem_filterMap.mp h
  rcases mem_put ht with ht | rfl
  · exact Or.inl (List.mem_filterMap.mpr ⟨t, ht, hw⟩)
  · exact Or.inr hw

/-- What `g` finds in the hands of the threads. -/
def held {β : Type*} (g : ω → Option β) (m : Monitor α ω) : Multiset β :=
  (m.hands.filterMap g : Multiset β)

/-- What one thread holds is exchanged. -/
lemma held_put {β : Type*} {g : ω → Option β} (hi : m.threads[i]? = some p) :
    ((p.hand.bind g).toList : Multiset β) + (m.put i p').held g =
      ((p'.hand.bind g).toList : Multiset β) + m.held g := by
  have htoList : ∀ o : Option ω, o.toList.filterMap g = (o.bind g).toList := by
    intro o
    cases o with
    | none => rfl
    | some w => cases hw : g w <;> simp [hw]
  have hperm : ((p.hand.toList ++ (m.put i p').hands).filterMap g).Perm
      ((p'.hand.toList ++ m.hands).filterMap g) := (hands_put_perm hi).filterMap g
  rw [List.filterMap_append, List.filterMap_append, htoList, htoList] at hperm
  rw [held, held, Multiset.coe_add, Multiset.coe_add, Multiset.coe_eq_coe]
  exact hperm

/-- A thread that held nothing. -/
lemma held_put_of_none {β : Type*} {g : ω → Option β} (hi : m.threads[i]? = some p)
    (hp : p.hand.bind g = none) :
    (m.put i p').held g = ((p'.hand.bind g).toList : Multiset β) + m.held g := by
  rw [← held_put hi, hp]
  exact (zero_add _).symm

/-- A thread that holds nothing afterwards. -/
lemma held_put_to_none {β : Type*} {g : ω → Option β} (hi : m.threads[i]? = some p)
    (hp : p'.hand.bind g = none) :
    ((p.hand.bind g).toList : Multiset β) + (m.put i p').held g = m.held g := by
  rw [held_put hi, hp]
  exact zero_add _

/-- All threads are away, with work that satisfies `q`. -/
lemma forall_away_iff {q : ω → Bool} : (∀ t ∈ m.threads, t.hand.any q = true) ↔
    m.hands.length = m.threads.length ∧ ∀ w ∈ m.hands, q w = true := by
  constructor
  · intro h
    refine ⟨List.filterMap_length_eq_length.mpr fun t ht => ?_, fun w hw => ?_⟩
    · have haway := h t ht
      cases hhand : t.hand with
      | none =>
        rw [hhand] at haway
        cases haway
      | some w => rfl
    · obtain ⟨t, ht, hhand⟩ := List.mem_filterMap.mp hw
      simpa [hhand] using h t ht
  · rintro ⟨hlength, hall⟩ t ht
    obtain ⟨w, hw⟩ := Option.isSome_iff_exists.mp (List.filterMap_length_eq_length.mp hlength t ht)
    rw [hw]
    exact hall w (List.mem_filterMap.mpr ⟨t, ht, hw⟩)

/-- Nothing changes but where threads without work are, and the notifications to come. -/
structure Idle (m m' : Monitor α ω) : Prop where
  queue : m'.queue = m.queue
  hands : m'.hands = m.hands
  length : m'.threads.length = m.threads.length

lemma Idle.held {β : Type*} {g : ω → Option β} (h : Idle m m') : m'.held g = m.held g := by
  rw [Monitor.held, Monitor.held, h.hands]

lemma Idle.of_move (h : m.move i f = some m') (hf : ∀ p p', f p = some p' → p'.hand = p.hand) :
    Idle m m' := by
  obtain ⟨p, p', hp, hfp, rfl⟩ := move_eq_some.mp h
  exact ⟨rfl, hands_put_of_eq hp (hf p p' hfp), List.length_set⟩

lemma Idle.unblock (h : m.move i Place.unblock = some m') : Idle m m' := by
  refine .of_move h fun p p' hp => ?_
  cases p with
  | blocked =>
    cases hp
    rfl
  | waiting | parking | entered | away => cases hp

lemma Idle.notifyOne (h : m.notifyOne target = some m') : Idle m m' := by
  rcases notifyOne_eq_some h with ⟨i, -, h⟩ | ⟨-, rfl⟩
  · have hidle := Idle.unblock h
    exact ⟨hidle.queue, hidle.hands, hidle.length⟩
  · exact ⟨rfl, rfl, rfl⟩

lemma Idle.check (h : m.check running i = some m') : Idle m m' := by
  refine .of_move (check_eq_some h) fun p p' hp => ?_
  cases p with
  | waiting =>
    cases hp
    split_ifs
    · rfl
    · rfl
  | parking | blocked | entered | away => cases hp

lemma Idle.block (h : m.block i = some m') : Idle m m' := by
  refine .of_move h fun p p' hp => ?_
  cases p with
  | parking =>
    cases hp
    rfl
  | waiting | blocked | entered | away => cases hp

lemma Idle.notifyAll (m : Monitor α ω) : Idle m m.notifyAll := by
  refine ⟨rfl, ?_, List.length_map _⟩
  change (m.threads.map Place.notified).filterMap Place.hand = m.threads.filterMap Place.hand
  rw [List.filterMap_map]
  exact List.filterMap_congr fun p _ => Place.hand_notified p

end Monitor

end Core
