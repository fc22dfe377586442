import SipForward.LoadBalancer.Agreement

/-!
# Toggles under re-registration

A re-registration reads the flags of a container, writes the whole record back and writes it a third
time into memory. The flags survive this, and no toggle is lost, as long as no toggle stores its
record between the GET and the SET of another handler of the container, and toggles reach memory in
the order in which they and the others were stored.
-/

namespace LoadBalancer

open AList Core

variable {s : State} {w w' : World} {n : String} {h : Handler} {redis redis' : Redis}
  {reply : Reply} {next : Option Handler}

/-! ### Flags -/

/-- The inbound and the outbound flag. -/
abbrev Flags := Bool × Bool

def ContainerRegistration.flags (reg : ContainerRegistration) : Flags :=
  (reg.inboundEnabled, reg.outboundEnabled)

/-- A toggle request applied to the flags. -/
def ToggleContainerRequest.apply (f : Flags) (req : ToggleContainerRequest) : Flags :=
  (req.inboundEnabled.getD f.1, req.outboundEnabled.getD f.2)

@[simp] lemma ContainerRegistration.toggle_flags (reg : ContainerRegistration)
    (req : ToggleContainerRequest) : (reg.toggle req).flags = req.apply reg.flags := rfl

/-- The flags of a container in Redis. -/
def World.storedFlags (w : World) (n : String) : Option Flags := (w.stored n).map (·.flags)

/-- The flags of a container in memory. -/
def World.loadedFlags (w : World) (n : String) : Option Flags := (w.loaded n).map (·.flags)

/-- A handler that runs for a container. -/
def World.Running (w : World) (n : String) (id : ℕ) (h : Handler) : Prop :=
  w.handlers.lookup id = some h ∧ h.name = n

/-- The toggles of one container among those answered with 200. -/
def togglesOf (n : String) (toggled : List (String × ToggleContainerRequest)) :
    List ToggleContainerRequest :=
  (toggled.filter (·.1 = n)).map (·.2)

lemma build_flags (req : ContainerRegisterRequest) (existing : Option ContainerRegistration) :
    (req.build existing).flags = (existing.map (·.flags)).getD (false, false) := by
  cases existing <;> rfl

/-! ### Requests for one container -/

/-- Whether a handler is about to write to Redis. -/
def Handler.writes : Handler → Bool
  | .registerSet _ | .unregisterDel _ | .toggleSet _ _ _ => true
  | _ => false

/-- Only register and toggle requests come in for the container, and its writes succeed. -/
def OneContainer (n : String) (w : World) : Event → Prop
  | .request _ r => r ≠ .unregister n
  | .command id reply => ∀ h ∈ w.handlers.lookup id, h.name = n → h.writes = true → reply = .ok
  | _ => True

/-- Whether a handler is between its GET and its SET. -/
def Handler.drafting : Handler → Bool
  | .registerSet _ | .toggleSet _ _ _ => true
  | _ => false

/-- Whether a handler has stored a toggle that memory does not have yet. -/
def Handler.toggling : Handler → Bool
  | .toggleServer _ _ => true
  | _ => false

/-- The condition on a command of a handler: a registration whose read fails finds the flags off,
and a toggle is stored while no other handler of the container is between its GET and its SET. -/
def Handler.CommandApart (w : World) (id : ℕ) (reply : Reply) : Handler → Prop
  | .registerGet req => reply = .ok ∨ w.storedFlags req.name = some (false, false)
  | .toggleSet name _ _ =>
    ∀ e ∈ w.handlers.entries, e.1 ≠ id → e.2.name = name → e.2.drafting = false
  | _ => True

/-- The condition on an update of a handler: it does not overtake a toggle of the container, and a
toggle overtakes nobody. -/
def Handler.UpdateApart (w : World) (id : ℕ) (h : Handler) : Prop :=
  ∀ k ∈ w.before id, k.name = h.name → k.toggling = false ∧ h.toggling = false

/-- The steps of the handlers of a container keep its toggles apart from its registrations. -/
def TogglesApart (n : String) (w : World) : Event → Prop
  | .command id reply => ∀ h ∈ w.handlers.lookup id, h.name = n → h.CommandApart w id reply
  | .update id _ => ∀ h ∈ w.handlers.lookup id, h.name = n → h.UpdateApart w id
  | _ => True

instance decidableCommandApart (w : World) (id : ℕ) (reply : Reply) :
    ∀ h : Handler, Decidable (h.CommandApart w id reply)
  | .registerGet req =>
    inferInstanceAs (Decidable (reply = .ok ∨ w.storedFlags req.name = some (false, false)))
  | .toggleSet name _ _ =>
    inferInstanceAs (Decidable
      (∀ e ∈ w.handlers.entries, e.1 ≠ id → e.2.name = name → e.2.drafting = false))
  | .registerSet _ => isTrue trivial
  | .registerServer _ => isTrue trivial
  | .unregisterDel _ => isTrue trivial
  | .unregisterServer _ => isTrue trivial
  | .toggleGet _ _ => isTrue trivial
  | .toggleServer _ _ => isTrue trivial

instance decidableUpdateApart (w : World) (id : ℕ) (h : Handler) : Decidable (h.UpdateApart w id) :=
  inferInstanceAs (Decidable
    (∀ k ∈ w.before id, k.name = h.name → k.toggling = false ∧ h.toggling = false))

instance decidableOneContainer (n : String) (w : World) : ∀ e, Decidable (OneContainer n w e)
  | .request _ r => inferInstanceAs (Decidable (r ≠ .unregister n))
  | .command id reply =>
    inferInstanceAs (Decidable
      (∀ h ∈ w.handlers.lookup id, h.name = n → h.writes = true → reply = .ok))
  | .update _ _ => isTrue trivial
  | .background _ => isTrue trivial

instance decidableTogglesApart (n : String) (w : World) : ∀ e, Decidable (TogglesApart n w e)
  | .command id reply =>
    inferInstanceAs (Decidable
      (∀ h ∈ w.handlers.lookup id, h.name = n → h.CommandApart w id reply))
  | .update id _ =>
    inferInstanceAs (Decidable (∀ h ∈ w.handlers.lookup id, h.name = n → h.UpdateApart w id))
  | .request _ _ => isTrue trivial
  | .background _ => isTrue trivial

/-! ### The invariant -/

/-- What a handler has read, when the flags in Redis are `f`. -/
def Handler.Drafts (f : Flags) : Handler → Prop
  | .registerSet reg => reg.flags = f
  | .toggleSet _ req reg => reg.flags = req.apply f
  | .unregisterDel _ | .unregisterServer _ => False
  | _ => True

/-- The updates that are owed, oldest first, bring the flags from `g` to `f`. A registration among
them has the flags that memory has by then. -/
def Lined : Flags → List Handler → Flags → Prop
  | g, [], f => f = g
  | g, .registerServer reg :: rest, f => reg.flags = g ∧ Lined g rest f
  | g, .toggleServer _ req :: rest, f => Lined (req.apply g) rest f
  | _, _ :: _, _ => False

variable {f g : Flags} {l l' : List Handler}

lemma Lined.concat_register {reg : ContainerRegistration} (hl : Lined g l f)
    (hreg : reg.flags = f) : Lined g (l ++ [.registerServer reg]) f := by
  induction l generalizing g with
  | nil =>
    obtain rfl : f = g := hl
    exact ⟨hreg, rfl⟩
  | cons h l ih =>
    cases h with
    | registerServer reg => exact ⟨hl.1, ih hl.2⟩
    | toggleServer name req => exact ih (g := req.apply g) hl
    | _ => exact False.elim hl

lemma Lined.concat_toggle {name : String} {req : ToggleContainerRequest} (hl : Lined g l f) :
    Lined g (l ++ [.toggleServer name req]) (req.apply f) := by
  induction l generalizing g with
  | nil =>
    obtain rfl : f = g := hl
    rfl
  | cons h l ih =>
    cases h with
    | registerServer reg => exact ⟨hl.1, ih hl.2⟩
    | toggleServer name req => exact ih (g := req.apply g) hl
    | _ => exact False.elim hl

/-- A registration with no toggle before it has the flags of memory and can be left out. -/
lemma Lined.remove_register {reg : ContainerRegistration}
    (hl : Lined g (l ++ .registerServer reg :: l') f) (hno : ∀ h ∈ l, h.toggling = false) :
    reg.flags = g ∧ Lined g (l ++ l') f := by
  induction l with
  | nil => exact hl
  | cons h l ih =>
    cases h with
    | registerServer first =>
      obtain ⟨hreg, hrest⟩ := ih hl.2 fun h hh => hno h (List.mem_cons_of_mem _ hh)
      exact ⟨hreg, hl.1, hrest⟩
    | toggleServer name req => exact absurd (hno _ List.mem_cons_self) (by simp [Handler.toggling])
    | _ => exact False.elim hl

/-- The flags are `f` in Redis and `g` in memory, and differ by the toggles that are owed. -/
structure FlagsAt (n : String) (f g : Flags) (w : World) : Prop where
  stored : w.storedFlags n = some f
  loaded : w.loadedFlags n = some g
  drafts : ∀ id h, w.Running n id h → h.Drafts f
  lined : Lined g (w.owed n) f

/-- A handler that owed nothing takes a step: what it drafts and owes next fits the flags that are
then in Redis, and so do the drafts of the other handlers. -/
lemma FlagsAt.advance (hf : FlagsAt n f g w) {id : ℕ} {f' : Flags} (hid : id ∉ w.pending)
    (hnext : ∀ h ∈ next, h.name = n → h.Drafts f')
    (hother : ∀ j h, w.Running n j h → j ≠ id → h.Drafts f → h.Drafts f')
    (hstored : (redis'.lookup (containerKey n)).map (·.flags) = some f')
    (hlined : Lined g (w.owed n ++ next.toList.filter fun k => k.owes ∧ k.name = n) f') :
    FlagsAt n f' g { w with
      redis := redis'
      handlers := LoadBalancer.advance w.handlers id next
      pending := enqueue w.pending id next } where
  stored := hstored
  loaded := hf.loaded
  drafts := by
    rintro j k ⟨hk, hkn⟩
    simp only [lookup_advance] at hk
    split_ifs at hk with hj
    · exact hnext k hk hkn
    · exact hother j k ⟨hk, hkn⟩ hj (hf.drafts j k ⟨hk, hkn⟩)
  lined := by
    rw [owed_advance hid]
    exact hlined

/-- A step that stores nothing and owes nothing for the container. -/
lemma FlagsAt.advance_free (hf : FlagsAt n f g w) {id : ℕ} (hid : id ∉ w.pending)
    (hnext : ∀ h ∈ next, h.name = n → h.owes = false ∧ h.Drafts f)
    (hstored : (redis'.lookup (containerKey n)).map (·.flags) = some f) :
    FlagsAt n f g { w with
      redis := redis'
      handlers := LoadBalancer.advance w.handlers id next
      pending := enqueue w.pending id next } := by
  refine hf.advance hid (fun h hh hn => (hnext h hh hn).2) (fun _ _ _ _ hd => hd) hstored ?_
  rw [queue_eq_nil fun k hk hn => (hnext k hk hn).1, List.append_nil]
  exact hf.lined

/-- A command stays with its container. -/
lemma Handler.Command.frame (hc : h.Command redis reply redis' next) :
    (∀ h' ∈ next, h'.name = h.name) ∧
      ∀ n, n ≠ h.name → redis'.lookup (containerKey n) = redis.lookup (containerKey n) := by
  have hset : ∀ name reg n, n ≠ name →
      (redis.set name reg).lookup (containerKey n) = redis.lookup (containerKey n) :=
    fun name reg n hn => (Redis.lookup_set redis name reg n).trans (if_neg hn)
  have hdel : ∀ name n, n ≠ name →
      (redis.del name).lookup (containerKey n) = redis.lookup (containerKey n) :=
    fun name n hn => (Redis.lookup_del redis name n).trans (if_neg hn)
  cases hc with
  | registerGet hex =>
    exact ⟨by simp [Handler.name, ContainerRegisterRequest.build], fun _ _ => rfl⟩
  | @registerSet reg => exact ⟨by simp [Handler.name], hset reg.name reg⟩
  | @registerLost reg => exact ⟨by simp, hset reg.name reg⟩
  | @unregisterDel name => exact ⟨by simp [Handler.name], hdel name⟩
  | @unregisterLost name => exact ⟨by simp, hdel name⟩
  | @toggleSet _ name req reg => exact ⟨by simp [Handler.name], hset name reg⟩
  | _ => exact ⟨by simp [Handler.name], fun _ _ => rfl⟩

/-- What a handler's command makes of the flags in Redis. -/
def Handler.stores (f : Flags) : Handler → Flags
  | .toggleSet _ req _ => req.apply f
  | _                  => f

/-- A handler that is not between its GET and its SET does not mind a change of the flags. -/
lemma Handler.Drafts.of_not_drafting (hd : h.Drafts f) (hno : h.drafting = false) {f' : Flags} :
    h.Drafts f' := by
  cases h with
  | registerSet reg => cases hno
  | toggleSet name req reg => cases hno
  | unregisterDel name => exact hd
  | unregisterServer name => exact hd
  | _ => trivial

/-- A command of a handler of the container: only a toggle's SET changes the flags in Redis. -/
lemma FlagsAt.command (hf : FlagsAt n f g w) {id : ℕ} (hpending : id ∉ w.pending)
    (hid : w.handlers.lookup id = some h) (hn : h.name = n)
    (hc : h.Command w.redis reply redis' next) (hone : OneContainer n w (.command id reply))
    (hapart : TogglesApart n w (.command id reply)) :
    FlagsAt n (h.stores f) g { w with
      redis := redis'
      handlers := LoadBalancer.advance w.handlers id next
      pending := enqueue w.pending id next } := by
  have hdraft : h.Drafts f := hf.drafts id h ⟨hid, hn⟩
  have hstored : (w.redis.lookup (containerKey n)).map (·.flags) = some f := hf.stored
  cases hc with
  | @registerGet _ req existing hex =>
    obtain rfl : req.name = n := hn
    refine hf.advance_free hpending ?_ hstored
    rintro _ ⟨⟩ -
    refine ⟨rfl, (build_flags req existing).trans ?_⟩
    rw [hex]
    -- a read that fails finds the flags off, which they are
    rcases hapart _ hid rfl with hok | hoff
    · rw [if_pos hok, hstored, Option.getD_some]
    · obtain rfl := Option.some.inj (hf.stored.symm.trans hoff)
      split_ifs
      · rw [hstored, Option.getD_some]
      · rfl
  | @registerSet reg =>
    obtain rfl : reg.name = n := hn
    refine hf.advance hpending ?_ (fun _ _ _ _ hd => hd) ?_ ?_
    · rintro _ ⟨⟩ -
      trivial
    · rw [Redis.lookup_set, if_pos rfl, Option.map_some]
      exact congrArg some hdraft
    · rw [queue_eq_singleton (h := .registerServer reg) (n := reg.name) rfl rfl]
      exact hf.lined.concat_register hdraft
  | registerFailed | registerLost | toggleFailed => cases hone _ hid hn rfl
  | unregisterDel | unregisterRefused | unregisterLost => exact False.elim hdraft
  | @toggleGet _ name req reg hreg =>
    obtain rfl : name = n := hn
    refine hf.advance_free hpending ?_ hstored
    rintro _ ⟨⟩ -
    refine ⟨rfl, ?_⟩
    rw [hreg] at hstored
    exact congrArg req.apply (Option.some.inj hstored)
  | toggleRefused => exact hf.advance_free hpending (by simp) hstored
  | @toggleSet _ name req reg =>
    obtain rfl : name = n := hn
    refine hf.advance hpending ?_ ?_ ?_ ?_
    · rintro _ ⟨⟩ -
      trivial
    · rintro j k ⟨hk, hkn⟩ hj hd
      exact hd.of_not_drafting (hapart _ hid rfl ⟨j, k⟩ (mem_lookup_iff.mp hk) hj hkn)
    · rw [Redis.lookup_set, if_pos rfl, Option.map_some]
      exact congrArg some hdraft
    · rw [queue_eq_singleton (h := .toggleServer name req) (n := name) rfl rfl]
      exact hf.lined.concat_toggle

/-- An update that overtakes no toggle, and nobody if it is a toggle: a registration leaves the
flags in memory alone, and a toggle is applied to them. -/
lemma Lined.update {now : Int} {op : Op} {loaded : Option ContainerRegistration}
    (hl : Lined g (l ++ h :: l') f) (hu : h.update now = some op) (hd : h.Drafts f)
    (hapart : ∀ k ∈ l, k.toggling = false ∧ h.toggling = false)
    (hloaded : loaded.map (·.flags) = some g) :
    (h.effect loaded).map (·.flags) =
        some ((togglesOf h.name h.completed).foldl ToggleContainerRequest.apply g) ∧
      Lined ((togglesOf h.name h.completed).foldl ToggleContainerRequest.apply g) (l ++ l') f := by
  cases h with
  | registerServer reg =>
    obtain ⟨hreg, hrest⟩ := hl.remove_register fun k hk => (hapart k hk).1
    exact ⟨congrArg some hreg, hrest⟩
  | unregisterServer name => exact False.elim hd
  | toggleServer name req =>
    have hdone : togglesOf name (Handler.toggleServer name req).completed = [req] := by
      simp [togglesOf, Handler.completed]
    have hnil : l = [] := by
      refine List.eq_nil_iff_forall_not_mem.mpr fun k hk => ?_
      exact Bool.false_ne_true (hapart k hk).2.symm
    subst hnil
    obtain ⟨reg, rfl, rfl⟩ := Option.map_eq_some_iff.mp hloaded
    simp only [Handler.name, hdone, List.foldl_cons, List.foldl_nil]
    exact ⟨rfl, hl⟩
  | _ => cases hu

lemma togglesOf_completed_of_ne (hn : h.name ≠ n) : togglesOf n h.completed = [] := by
  cases h with
  | toggleServer name req =>
    have : name ≠ n := hn
    simp [togglesOf, Handler.completed, this]
  | _ => rfl

/-- Only a completed toggle of the container changes the flags in memory. -/
lemma FlagsAt.update (hf : FlagsAt n f g w) (ha : Aligned w.mem) (hq : w.Queued) {id : ℕ}
    {now : Int} {op : Op} (hid : w.handlers.lookup id = some h) (hu : h.update now = some op)
    (hapart : TogglesApart n w (.update id now)) :
    FlagsAt n f ((togglesOf n h.completed).foldl ToggleContainerRequest.apply g)
      { w with
        mem := op.apply w.mem
        handlers := LoadBalancer.advance w.handlers id none
        pending := w.pending.erase id
        toggled := w.toggled ++ h.completed } := by
  obtain ⟨after, howed⟩ :=
    hq.owed_update hid (Handler.owes_of_update hu) (op.apply w.mem) (w.toggled ++ h.completed)
  obtain ⟨hbefore, hafter⟩ := howed n
  have hlined := hf.lined
  have hloaded : (w.mem.registration n).map (·.flags) = some g := hf.loaded
  have hreg := update_registration hu ha n
  suffices hkey : ((op.apply w.mem).registration n).map (·.flags) =
        some ((togglesOf n h.completed).foldl ToggleContainerRequest.apply g) ∧
      Lined ((togglesOf n h.completed).foldl ToggleContainerRequest.apply g)
        (World.owed _ n) f by
    refine ⟨hf.stored, hkey.1, ?_, hkey.2⟩
    rintro j k ⟨hk, hkn⟩
    simp only [lookup_advance] at hk
    split_ifs at hk
    exact hf.drafts j k ⟨hk, hkn⟩
  rw [hafter, hreg]
  rw [hbefore] at hlined
  by_cases hn : h.name = n
  · subst hn
    rw [if_pos rfl] at hlined ⊢
    refine hlined.update hu (hf.drafts id h ⟨hid, rfl⟩) (fun k hk => ?_) hloaded
    obtain ⟨hmem, hkn⟩ := List.mem_filter.mp hk
    exact hapart h hid rfl k hmem (of_decide_eq_true hkn)
  · rw [if_neg hn] at hlined
    rw [if_neg (Ne.symm hn), togglesOf_completed_of_ne hn]
    exact ⟨hloaded, hlined⟩

/-- What a step makes of the flags in Redis. -/
def Event.stores (n : String) (w : World) (f : Flags) : Event → Flags
  | .command id _ => (w.handlers.lookup id).elim f fun h => if h.name = n then h.stores f else f
  | _             => f

/-- The toggles a step completes. -/
def Event.completed (w : World) : Event → List (String × ToggleContainerRequest)
  | .update id _ => (w.handlers.lookup id).elim [] (·.completed)
  | _            => []

/-- A request that is not an unregistration starts on a step that has read nothing. -/
lemma Request.start_free {r : Request} (hone : r ≠ .unregister n) (hr : r.start = some h)
    (hn : h.name = n) : h.owes = false ∧ h.Drafts f := by
  rcases Request.start_cases hr with ⟨req, -, rfl⟩ | ⟨name, rfl, rfl⟩ | ⟨name, req, -, rfl⟩
  · exact ⟨rfl, trivial⟩
  · exact absurd (congrArg Request.unregister hn) hone
  · exact ⟨rfl, trivial⟩

lemma FlagsAt.step (hf : FlagsAt n f g w) (ha : Aligned w.mem) (hq : w.Queued) {e : Event}
    (hone : OneContainer n w e) (hapart : TogglesApart n w e) (he : step w e = some w') :
    w'.toggled = w.toggled ++ e.completed w ∧
      FlagsAt n (e.stores n w f)
        ((togglesOf n (e.completed w)).foldl ToggleContainerRequest.apply g) w' := by
  cases step_spec he with
  | @request id r hid =>
    refine ⟨(List.append_nil _).symm, ?_⟩
    have hadvance : FlagsAt n f g { w with
        handlers := LoadBalancer.advance w.handlers id r.start
        pending := enqueue w.pending id r.start } :=
      hf.advance_free (hq.not_mem_of_new hid) (fun h hr hn => Request.start_free hone hr hn)
        hf.stored
    rw [enqueue_of_not_owes fun h hr => Request.start_not_owes hr] at hadvance
    exact hadvance
  | @command id reply h redis' next hid hc =>
    refine ⟨(List.append_nil _).symm, ?_⟩
    have hpending := hq.not_mem_pending hid hc.not_owes
    have hstores : Event.stores n w f (.command id reply) =
        if h.name = n then h.stores f else f := by
      simp [Event.stores, hid]
    rw [hstores]
    split_ifs with hn
    · exact hf.command hpending hid hn hc hone hapart
    · obtain ⟨hname, hframe⟩ := hc.frame
      refine hf.advance_free hpending ?_ ?_
      · intro k hk hkn
        exact absurd ((hname k hk).symm.trans hkn) hn
      · rw [hframe n (Ne.symm hn)]
        exact hf.stored
  | @update id now h op hid hu =>
    have hdone : Event.completed w (.update id now) = h.completed := by
      simp [Event.completed, hid]
    rw [hdone]
    exact ⟨rfl, hf.update ha hq hid hu hapart⟩
  | background hop =>
    refine ⟨(List.append_nil _).symm, hf.stored, ?_, hf.drafts, hf.lined⟩
    simp only [World.loadedFlags, World.loaded]
    rw [background_registration hop]
    exact hf.loaded

/-! ### Runs -/

/-- A step of `RegisterContainerHandler`. -/
def Event.isRegistration (w : World) : Event → Bool
  | .command id _ | .update id _ => (w.handlers.lookup id).any fun h => match h with
    | .registerGet _ | .registerSet _ | .registerServer _ => true
    | _ => false
  | _ => false

lemma registration_flags {e : Event} (he : e.isRegistration w = true) (f : Flags) :
    e.stores n w f = f ∧ e.completed w = [] := by
  cases e with
  | request id r => cases he
  | background op => cases he
  | command id reply =>
    refine ⟨?_, rfl⟩
    obtain ⟨h, hid, hh⟩ := (Option.any_eq_true _ _).mp he
    rw [Event.stores, hid]
    cases h with
    | toggleSet name req reg => cases hh
    | _ =>
      simp only [Option.elim_some, Handler.stores]
      split_ifs <;> rfl
  | update id now =>
    refine ⟨rfl, ?_⟩
    obtain ⟨h, hid, hh⟩ := (Option.any_eq_true _ _).mp he
    rw [Event.completed, hid]
    cases h with
    | toggleServer name req => cases hh
    | _ => rfl

/-- The toggles answered so far have been applied to the initial flags in memory, and Redis is ahead
by those that are still owed. -/
structure FlagsKept (n : String) (f₀ : Flags) (w : World) : Prop where
  aligned : Aligned w.mem
  queued : w.Queued
  flags : ∃ f, FlagsAt n f ((togglesOf n w.toggled).foldl ToggleContainerRequest.apply f₀) w

lemma FlagsKept.step {f₀ : Flags} (hk : FlagsKept n f₀ w) {e : Event} (hone : OneContainer n w e)
    (hapart : TogglesApart n w e) (he : step w e = some w') : FlagsKept n f₀ w' := by
  obtain ⟨f, hf⟩ := hk.flags
  obtain ⟨htoggled, hf'⟩ := hf.step hk.aligned hk.queued hone hapart he
  refine ⟨step_aligned hk.aligned he, hk.queued.step he, e.stores n w f, ?_⟩
  rw [htoggled]
  simpa [togglesOf, List.foldl_append] using hf'

/-- For a container that is registered with the same flags in Redis and in memory, and a run of
register and toggle requests for it whose toggles stay apart from its registrations: once the
requests have completed, both stores have the initial flags with the toggles answered with 200
applied in some order, and no step of a registration has changed a flag. -/
theorem toggles_kept {redis₀ : Redis} (hw : WrittenByService redis₀) (now : Int)
    (scan : List (String × Bool)) (ops : List Op) (redis : Redis) (n : String) (f₀ : Flags)
    (hstored : (redis.lookup (containerKey n)).map (·.flags) = some f₀)
    (hloaded : ((serve now redis₀ scan ops).registration n).map (·.flags) = some f₀)
    (es : List Event)
    (hone : Guarded step (OneContainer n) (World.idle (serve now redis₀ scan ops) redis) es)
    (hapart : Guarded step (TogglesApart n) (World.idle (serve now redis₀ scan ops) redis) es)
    (hrun : run step (World.idle (serve now redis₀ scan ops) redis) es = some w) :
    ((∀ id h, ¬ w.Running n id h) → ∃ order : List ToggleContainerRequest,
      order.Perm (togglesOf n w.toggled) ∧
      w.storedFlags n = some (order.foldl ToggleContainerRequest.apply f₀) ∧
      w.loadedFlags n = some (order.foldl ToggleContainerRequest.apply f₀)) ∧
    ∀ e w', OneContainer n w e → TogglesApart n w e → step w e = some w' →
      e.isRegistration w = true →
      w'.storedFlags n = w.storedFlags n ∧ w'.loadedFlags n = w.loadedFlags n := by
  have hinv : FlagsKept n f₀ w := by
    refine run_invariant (fun _ _ _ hk hg he => hk.step hg.1 hg.2 he) ?_ (hone.and hapart) hrun
    refine ⟨aligned_serve hw now scan ops, idle_queued _ redis, f₀, hstored, hloaded, ?_, rfl⟩
    rintro id h ⟨hr, -⟩
    cases hr
  obtain ⟨f, hf⟩ := hinv.flags
  constructor
  · intro hidle
    have hnone : w.owed n = [] := by
      refine List.eq_nil_iff_forall_not_mem.mpr fun h hmem => ?_
      obtain ⟨id, hid, -, hn⟩ := hinv.queued.mem_owed.mp hmem
      exact hidle id h ⟨hid, hn⟩
    have hlined := hf.lined
    rw [hnone] at hlined
    obtain rfl : f = _ := hlined
    exact ⟨togglesOf n w.toggled, List.Perm.refl _, hf.stored, hf.loaded⟩
  · intro e w' hone hapart he hreg
    obtain ⟨-, hf'⟩ := hf.step hinv.aligned hinv.queued hone hapart he
    obtain ⟨hst, hco⟩ := registration_flags hreg f
    rw [hst, hco] at hf'
    exact ⟨hf'.stored.trans hf.stored.symm, hf'.loaded.trans hf.loaded.symm⟩

/-- The request of the sample container to register again. -/
def sampleRegister : ContainerRegisterRequest where
  name := "media-1"
  host := "203.0.113.5"
  port := 8086
  aor := "media"
  contactURI := "sip:media@203.0.113.5:5060;ob"

/-- A toggle that completes between the GET and the SET of a registration is answered with 200 and
undone. -/
theorem toggle_lost :
    ∃ w, Guarded step (OneContainer "media-1")
        (World.idle (serve 0 sampleRedis [("container:media-1", true)] []) sampleRedis)
        [.request 0 (.register sampleRegister), .command 0 .ok,
          .request 1 (.toggle "media-1" ⟨none, some false⟩), .command 1 .ok, .command 1 .ok,
          .update 1 0, .command 0 .ok, .update 0 0] ∧
      run step (World.idle (serve 0 sampleRedis [("container:media-1", true)] []) sampleRedis)
        [.request 0 (.register sampleRegister), .command 0 .ok,
          .request 1 (.toggle "media-1" ⟨none, some false⟩), .command 1 .ok, .command 1 .ok,
          .update 1 0, .command 0 .ok, .update 0 0] = some w ∧
      w.handlers = ∅ ∧
      ∀ order : List ToggleContainerRequest, order.Perm (togglesOf "media-1" w.toggled) →
        w.storedFlags "media-1" ≠ some (order.foldl ToggleContainerRequest.apply (true, true)) := by
  refine ⟨_, by decide, rfl, rfl, fun order hperm => ?_⟩
  have horder : order = [⟨none, some false⟩] := List.perm_singleton.mp hperm
  rw [horder]
  decide

theorem toggles_kept_sample :
    ∃ w, run step (World.idle (serve 0 sampleRedis [("container:media-1", true)] []) sampleRedis)
        [.request 0 (.register sampleRegister), .request 1 (.toggle "media-1" ⟨none, some false⟩),
          .command 0 .ok, .command 0 .ok, .command 1 .ok, .command 1 .ok, .update 0 0,
          .update 1 0] = some w ∧
      ∃ order : List ToggleContainerRequest, order.Perm (togglesOf "media-1" w.toggled) ∧
        w.storedFlags "media-1" = some (order.foldl ToggleContainerRequest.apply (true, true)) ∧
        w.loadedFlags "media-1" = some (order.foldl ToggleContainerRequest.apply (true, true)) :=
  ⟨_, rfl, (toggles_kept sampleRedis_written 0 [("container:media-1", true)] [] sampleRedis
    "media-1" (true, true) (by decide) (by decide)
    [.request 0 (.register sampleRegister), .request 1 (.toggle "media-1" ⟨none, some false⟩),
      .command 0 .ok, .command 0 .ok, .command 1 .ok, .command 1 .ok, .update 0 0,
      .update 1 0] (by decide) (by decide) rfl).1 (by rintro id h ⟨hr, -⟩; cases hr)⟩

end LoadBalancer
