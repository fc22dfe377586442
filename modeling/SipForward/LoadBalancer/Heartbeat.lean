import SipForward.LoadBalancer.Agreement
import SipForward.LoadBalancer.Routing

/-!
# Heartbeat rounds

`performHealthChecks` copies the names and addresses of all servers under the lock, probes them
without it, and applies the results, matched by name, under the lock again. Registrations and
routing calls fall anywhere in between.

`additions` and `succeeded` are ghost state: how often a name has been newly added to `LSML`, and
which probes have succeeded, each with the addition in force when it was sent. Only probes count
whose address was that of the server when they were sent and when they were answered.
-/

namespace LoadBalancer.Heartbeat

open AList Core

/-- The progress of a probe. A probe that is sent carries the addition it may vouch for. The
counter of an answered probe is ghost state: the routing calls that selected the server since. -/
inductive Phase where
  | pending
  | sent (addition : Option ℕ)
  | answered (health : Except String HealthData) (selected : ℕ)

/-- A `checkTarget` and the state of its probe. -/
structure Probe where
  name : String
  host : String
  port : Int
  phase : Phase

/-- The service and its heartbeat; `round` is empty between two rounds. -/
structure World where
  mem : State
  round : Option (List Probe)
  additions : String → ℕ
  succeeded : List (String × ℕ)

/-- An access by a handler, or a step of the round. -/
inductive Event where
  | access (op : Op)
  | snapshot (order : List String)
  | send (name : String)
  | answer (name : String) (health : Except String HealthData)
  | apply (now : Int)

/-! ### Steps -/

/-- The address of a server. -/
def address (s : State) (name : String) : Option (String × Int) :=
  (s.lsml.lookup name).map fun md => (md.host, md.port)

/-- The target for a key that the range statement over `LSML` visits. -/
def target (s : State) (name : String) : Option Probe :=
  (address s name).map fun a => ⟨name, a.1, a.2, .pending⟩

/-- The addition a probe vouches for when it is sent now: none if the server is gone or has moved
since the snapshot. -/
def Probe.vouches (w : World) (p : Probe) : Option ℕ :=
  if address w.mem p.name = some (p.host, p.port) then some (w.additions p.name) else none

def Phase.isPending : Phase → Bool
  | .pending => true
  | _        => false

def Phase.isSent : Phase → Bool
  | .sent _ => true
  | _       => false

/-- The probe is sent. -/
def Probe.send (w : World) (p : Probe) : Probe :=
  match p.phase with
  | .pending => { p with phase := .sent (p.vouches w) }
  | _        => p

/-- The probe is answered: with a health report, or with the error of a failed request, a status
other than 200 or a body that does not decode. -/
def Probe.answer (health : Except String HealthData) (p : Probe) : Probe :=
  match p.phase with
  | .sent _ => { p with phase := .answered health 0 }
  | _       => p

/-- What a successful answer proves: nothing if the server has moved since the probe was sent. -/
def Probe.credit (w : World) (p : Probe) : List (String × ℕ) :=
  match p.phase with
  | .sent (some a) => if address w.mem p.name = some (p.host, p.port) then [(p.name, a)] else []
  | _              => []

/-- The result of an answered probe. -/
def Probe.result (p : Probe) : Option HealthResult :=
  match p.phase with
  | .answered health _ => some ⟨p.name, health⟩
  | _                  => none

/-- One more selection after the answer. -/
def Probe.select (p : Probe) : Probe :=
  match p.phase with
  | .answered health k => { p with phase := .answered health (k + 1) }
  | _                  => p

/-- The round after a step of the probe of one name. -/
def updateProbe (name : String) (f : Probe → Probe) (probes : List Probe) : List Probe :=
  probes.map fun p => if p.name = name then f p else p

/-- The server an access selects for a call. -/
def selects (s : State) : Op → Option String
  | .findLowest d =>
    match (findLowestLoadContainer d s).1 with
    | .ok md   => some md.name
    | .error _ => none
  | .findByType type order =>
    match (findContainerByType type order s).1 with
    | .ok md   => some md.name
    | .error _ => none
  | _ => none

/-- The round after an access. -/
def noteSelection (selected : Option String) (probes : List Probe) : List Probe :=
  match selected with
  | some name => updateProbe name Probe.select probes
  | none      => probes

/-- The number of additions after an access. -/
def noteAddition (s : State) (additions : String → ℕ) : Op → String → ℕ
  | .register _ reg =>
    if reg.name ∈ s.lsml then additions
    else Function.update additions reg.name (additions reg.name + 1)
  | _ => additions

/-- The successful probes after an answer. -/
def noteSuccess (w : World) (probes : List Probe) (name : String) :
    Except String HealthData → List (String × ℕ)
  | .ok _    => w.succeeded ++ (probes.filter (·.name = name)).flatMap (Probe.credit w)
  | .error _ => w.succeeded

/-- Whether an access belongs to a handler, as opposed to the heartbeat. -/
def isHandlerAccess : Op → Bool
  | .heartbeat _ _ => false
  | _ => true

def step (w : World) : Event → Option World
  | .access op =>
    if isHandlerAccess op then
      some { w with
        mem := op.apply w.mem
        round := w.round.map (noteSelection (selects w.mem op))
        additions := noteAddition w.mem w.additions op }
    else none
  | .snapshot order =>
    if w.round.isNone ∧ order.Perm w.mem.lsml.keys ∧ order ≠ [] then
      some { w with round := some (order.filterMap (target w.mem)) }
    else none
  | .send name =>
    w.round.bind fun probes =>
      if probes.any (fun p => p.name = name ∧ p.phase.isPending) then
        some { w with round := some (updateProbe name (Probe.send w) probes) }
      else none
  | .answer name health =>
    w.round.bind fun probes =>
      if probes.any (fun p => p.name = name ∧ p.phase.isSent) then
        some { w with
          round := some (updateProbe name (Probe.answer health) probes)
          succeeded := noteSuccess w probes name health }
      else none
  | .apply now =>
    w.round.bind fun probes =>
      if probes.all (·.result.isSome) then
        some { w with
          mem := applyResults now (probes.filterMap (·.result)) w.mem
          round := none }
      else none

/-- The steps as a relation. -/
inductive Step (w : World) : Event → World → Prop
  | access {op : Op} (hop : isHandlerAccess op = true) :
      Step w (.access op)
        { w with
          mem := op.apply w.mem
          round := w.round.map (noteSelection (selects w.mem op))
          additions := noteAddition w.mem w.additions op }
  | snapshot {order : List String} (hperm : order.Perm w.mem.lsml.keys) :
      Step w (.snapshot order) { w with round := some (order.filterMap (target w.mem)) }
  | send {name : String} {probes : List Probe} (hr : w.round = some probes) :
      Step w (.send name) { w with round := some (updateProbe name (Probe.send w) probes) }
  | answer {name : String} {health : Except String HealthData} {probes : List Probe}
      (hr : w.round = some probes) :
      Step w (.answer name health)
        { w with
          round := some (updateProbe name (Probe.answer health) probes)
          succeeded := noteSuccess w probes name health }
  | apply {now : Int} {probes : List Probe} (hr : w.round = some probes) :
      Step w (.apply now)
        { w with
          mem := applyResults now (probes.filterMap (·.result)) w.mem
          round := none }

lemma step_spec {w w' : World} {e : Event} (he : step w e = some w') : Step w e w' := by
  cases e with
  | access op =>
    simp only [step] at he
    split_ifs at he with hop
    cases he
    exact .access hop
  | snapshot order =>
    simp only [step] at he
    split_ifs at he with hcond
    cases he
    exact .snapshot hcond.2.1
  | send name =>
    obtain ⟨probes, hr, he⟩ := Option.bind_eq_some_iff.mp he
    split_ifs at he
    cases he
    exact .send hr
  | answer name health =>
    obtain ⟨probes, hr, he⟩ := Option.bind_eq_some_iff.mp he
    split_ifs at he
    cases he
    exact .answer hr
  | apply now =>
    obtain ⟨probes, hr, he⟩ := Option.bind_eq_some_iff.mp he
    split_ifs at he
    cases he
    exact .apply hr

lemma step_aligned {w w' : World} {e : Event} (ha : Aligned w.mem) (he : step w e = some w') :
    Aligned w'.mem := by
  cases step_spec he with
  | access hop => exact ha.apply _
  | apply hr => exact ha.apply (.heartbeat _ _)
  | _ => exact ha

/-- A service that has just started. -/
def World.start (now : Int) (redis : Redis) (scan : List (String × Bool)) : World where
  mem := initServerArrays now redis scan
  round := none
  additions := fun _ => 0
  succeeded := []

/-- The probes under way. -/
def World.probes (w : World) : List Probe := w.round.getD []

/-! ### Addresses and counts -/

variable {s : State} {w w' : World} {n : String} {op : Op} {probes : List Probe}
  {redis : Redis} {scan : List (String × Bool)}

lemma address_eq (s : State) (n : String) :
    address s n = (s.registration n).map fun reg => (reg.host, reg.port) := by
  rw [address, State.registration, Option.map_map]
  rfl

/-- Only a registration and an unregistration change the address of a server. -/
lemma address_apply (hs : Aligned s) (op : Op) (n : String) : address (op.apply s) n =
    match op with
    | .register _ reg  => if n = reg.name then some (reg.host, reg.port) else address s n
    | .unregister name => if n = name then none else address s n
    | _ => address s n := by
  have hback : op.isBackground = true → address (op.apply s) n = address s n := by
    intro hop
    rw [address_eq, address_eq, background_registration hop]
  cases op with
  | register now reg =>
    simp only [address_eq, Op.apply, registerServer_registration hs]
    split_ifs <;> rfl
  | unregister name =>
    simp only [address_eq, Op.apply, unregisterServer_registration]
    split_ifs <;> rfl
  | toggle name req =>
    simp only [address_eq, Op.apply, toggleServer_registration]
    split_ifs with hn
    · rw [hn, Option.map_map]
      rfl
    · rfl
  | findLowest d => exact hback rfl
  | findByType type order => exact hback rfl
  | heartbeat now results => exact hback rfl

/-- No access of a handler makes an infinite count finite. -/
lemma finite_apply (hop : isHandlerAccess op = true) {c : Int}
    (h : (op.apply s).lscs.lookup n = some c) (hc : c ≠ maxInt) :
    ∃ c', s.lscs.lookup n = some c' ∧ c' ≠ maxInt := by
  have hinc : ∀ {m : String} {c₀ : Int}, s.lscs.lookup m = some c₀ → c₀ ≠ maxInt →
      (s.increment m).lscs.lookup n = some c → ∃ c', s.lscs.lookup n = some c' ∧ c' ≠ maxInt := by
    intro m c₀ hm hc₀ h
    rw [State.increment_lscs hm] at h
    split_ifs at h with hn
    · exact ⟨c₀, by rw [hn, hm], hc₀⟩
    · exact ⟨c, h, hc⟩
  cases op with
  | register now reg =>
    rw [Op.apply, registerServer_lscs] at h
    split_ifs at h
    · exact absurd (Option.some.inj h).symm hc
    · exact ⟨c, h, hc⟩
  | unregister name =>
    rw [Op.apply, unregisterServer_lscs] at h
    split_ifs at h
    exact ⟨c, h, hc⟩
  | toggle name req =>
    rw [Op.apply, toggleServer_lscs] at h
    exact ⟨c, h, hc⟩
  | findLowest d =>
    rw [Op.apply] at h
    rcases findLowest_state d s with heq | ⟨m, c₀, hm, hc₀, heq⟩ <;> rw [heq] at h
    · exact ⟨c, h, hc⟩
    · exact hinc hm hc₀ h
  | findByType type order =>
    rw [Op.apply] at h
    rcases findByType_state type order s with heq | ⟨m, c₀, hm, hc₀, heq⟩ <;> rw [heq] at h
    · exact ⟨c, h, hc⟩
    · exact hinc hm hc₀ h
  | heartbeat now results => cases hop

lemma applyResult_lsml_mem (now : Int) (s : State) (r : HealthResult) (n : String) :
    n ∈ (applyResult now s r).lsml ↔ n ∈ s.lsml := by
  cases hmd : s.lsml.lookup r.name with
  | none => rw [applyResult_none hmd]
  | some md =>
    rw [applyResult_some hmd, mem_insert]
    constructor
    · rintro (rfl | hn)
      · exact mem_of_lookup_eq_some hmd
      · exact hn
    · exact Or.inr

lemma applyResult_lscs (now : Int) (s : State) (r : HealthResult) (n : String) :
    (applyResult now s r).lscs.lookup n =
      if n = r.name ∧ n ∈ s.lsml then some (r.outcome now).2 else s.lscs.lookup n := by
  cases hmd : s.lsml.lookup r.name with
  | none =>
    rw [applyResult_none hmd, if_neg]
    rintro ⟨rfl, hn⟩
    exact lookup_eq_none.mp hmd hn
  | some md =>
    have hmem := mem_of_lookup_eq_some hmd
    rw [applyResult_some hmd]
    simp only [lookup_insert_ite]
    by_cases hn : n = r.name
    · subst hn
      rw [if_pos rfl, if_pos ⟨rfl, hmem⟩]
    · rw [if_neg hn, if_neg (fun h => hn h.1)]

/-- Results for other names leave a count alone. -/
lemma applyResults_lscs_of_notMem (now : Int) {results : List HealthResult} (s : State)
    (h : ∀ r ∈ results, r.name ≠ n) :
    (applyResults now results s).lscs.lookup n = s.lscs.lookup n := by
  induction results generalizing s with
  | nil => rfl
  | cons r results ih =>
    rw [applyResults, List.foldl_cons]
    refine (ih _ fun r' hr' => h r' (List.mem_cons_of_mem r hr')).trans ?_
    rw [applyResult_lscs, if_neg]
    rintro ⟨hn, -⟩
    exact h r List.mem_cons_self hn.symm

/-- The count of a registered server after a round is the one its own result stands for. -/
lemma applyResults_lscs (now : Int) {results : List HealthResult} (s : State)
    (hnodup : (results.map (·.name)).Nodup) {r : HealthResult} (hr : r ∈ results) :
    (applyResults now results s).lscs.lookup r.name =
      if r.name ∈ s.lsml then some (r.outcome now).2 else s.lscs.lookup r.name := by
  induction results generalizing s with
  | nil => cases hr
  | cons r' results ih =>
    rw [List.map_cons, List.nodup_cons] at hnodup
    rw [applyResults, List.foldl_cons]
    rcases List.mem_cons.mp hr with rfl | hr
    · refine (applyResults_lscs_of_notMem now _ fun r'' hr'' hname => ?_).trans ?_
      · exact hnodup.1 (hname ▸ List.mem_map_of_mem hr'')
      · rw [applyResult_lscs]
        simp only [true_and]
    · have hne : r.name ≠ r'.name := by
        intro hname
        exact hnodup.1 (hname ▸ List.mem_map_of_mem hr)
      have hkeep : (applyResult now s r').lscs.lookup r.name = s.lscs.lookup r.name := by
        rw [applyResult_lscs, if_neg (fun h => hne h.1)]
      refine (ih _ hnodup.2 hr).trans ?_
      rw [hkeep]
      simp only [applyResult_lsml_mem]

/-! ### The invariant -/

/-- A probe of this address, at this point, will not credit the server with the answer of another
one: it is not sent yet, or it was sent for the addition in force, or it has failed. -/
def Phase.Sound (same : Prop) (addition : ℕ) : Phase → Prop
  | .pending               => same
  | .sent a                => a = some addition ∧ same
  | .answered (.ok _) _    => False
  | .answered (.error _) _ => True

/-- A server that is registered and has a probe under way has been probed since it was added, or
the probe is sound. -/
def Probe.Valid (w : World) (p : Probe) : Prop :=
  p.name ∈ w.mem.lsml → (p.name, w.additions p.name) ∈ w.succeeded ∨
    p.phase.Sound (address w.mem p.name = some (p.host, p.port)) (w.additions p.name)

/-- A server with a finite count has been probed since it was added, and so has one that will get a
finite count from the round under way. -/
structure Inv (w : World) : Prop where
  aligned : Aligned w.mem
  counts : ∀ n c, w.mem.lscs.lookup n = some c → c ≠ maxInt → (n, w.additions n) ∈ w.succeeded
  valid : ∀ p ∈ w.probes, p.Valid w

/-- A registration leaves a probe of its server valid: the server was there and has been probed
since it was added, or the probe has the address that is registered and is not sent yet, or it has
that address and was sent to a server that was there, or it has failed. -/
def Probe.Survives (registered probed : Bool) (reg : ContainerRegistration) (p : Probe) : Bool :=
  registered && probed || match p.phase with
  | .pending               => p.host = reg.host ∧ p.port = reg.port
  | .sent _                => registered ∧ p.host = reg.host ∧ p.port = reg.port
  | .answered (.ok _) _    => false
  | .answered (.error _) _ => true

/-- Every registration during a round leaves the probes of its server valid. -/
def SameTarget (w : World) : Event → Prop
  | .access (.register _ reg) =>
    ∀ p ∈ w.probes, p.name = reg.name →
      p.Survives (reg.name ∈ w.mem.lsml) ((reg.name, w.additions reg.name) ∈ w.succeeded) reg = true
  | _ => True

instance decidableSameTarget (w : World) : ∀ e, Decidable (SameTarget w e)
  | .access (.register _ reg) =>
    inferInstanceAs (Decidable (∀ p ∈ w.probes, p.name = reg.name →
      p.Survives (reg.name ∈ w.mem.lsml) ((reg.name, w.additions reg.name) ∈ w.succeeded) reg =
        true))
  | .access (.unregister _) => isTrue trivial
  | .access (.toggle _ _) => isTrue trivial
  | .access (.findLowest _) => isTrue trivial
  | .access (.findByType _ _) => isTrue trivial
  | .access (.heartbeat _ _) => isTrue trivial
  | .snapshot _ => isTrue trivial
  | .send _ => isTrue trivial
  | .answer _ _ => isTrue trivial
  | .apply _ => isTrue trivial

lemma mem_updateProbe {f : Probe → Probe} {name : String} {q : Probe}
    (h : q ∈ updateProbe name f probes) :
    ∃ p ∈ probes, (p.name = name ∧ q = f p) ∨ (p.name ≠ name ∧ q = p) := by
  obtain ⟨p, hp, rfl⟩ := List.mem_map.mp h
  split_ifs with hname
  · exact ⟨p, hp, Or.inl ⟨hname, rfl⟩⟩
  · exact ⟨p, hp, Or.inr ⟨hname, rfl⟩⟩

/-- Noting a selection changes a counter at most. -/
lemma mem_noteSelection {selected : Option String} {q : Probe}
    (h : q ∈ noteSelection selected probes) :
    ∃ p ∈ probes, q = p ∨ q = p.select := by
  cases selected with
  | none => exact ⟨q, h, Or.inl rfl⟩
  | some name =>
    obtain ⟨p, hp, ⟨-, rfl⟩ | ⟨-, rfl⟩⟩ := mem_updateProbe h
    · exact ⟨_, hp, Or.inr rfl⟩
    · exact ⟨_, hp, Or.inl rfl⟩

lemma valid_select {p : Probe} (h : p.Valid w) : p.select.Valid w := by
  obtain ⟨name, host, port, phase⟩ := p
  cases phase with
  | pending => exact h
  | sent a => exact h
  | answered health k =>
    cases health with
    | ok health => exact h
    | error e => exact fun _ => Or.inr trivial

/-- An access that leaves the address and the addition of a server alone keeps its probes valid. -/
lemma Probe.Valid.frame {p : Probe} (h : p.Valid w)
    (haddr : p.name ∈ w'.mem.lsml → address w'.mem p.name = address w.mem p.name)
    (hadd : w'.additions p.name = w.additions p.name)
    (hsucc : ∀ x ∈ w.succeeded, x ∈ w'.succeeded) : p.Valid w' := by
  intro hmem
  have heq := haddr hmem
  have hmem' : p.name ∈ w.mem.lsml := by
    have : (address w'.mem p.name).isSome := by
      rw [address, Option.isSome_map, lookup_isSome]
      exact hmem
    rwa [heq, address, Option.isSome_map, lookup_isSome] at this
  rw [heq, hadd]
  exact (h hmem').imp_left (hsucc _)

/-- A registration leaves a probe of its server valid if it survives it. -/
lemma Probe.Valid.register {p : Probe} (h : p.Valid w) (ha : Aligned w.mem) {now : Int}
    {reg : ContainerRegistration} {round : Option (List Probe)}
    (hg : p.name = reg.name → p.Survives (reg.name ∈ w.mem.lsml)
      ((reg.name, w.additions reg.name) ∈ w.succeeded) reg = true) :
    p.Valid { w with
      mem := registerServer now reg w.mem
      round := round
      additions := noteAddition w.mem w.additions (.register now reg) } := by
  have haddr := address_apply ha (.register now reg) p.name
  by_cases hname : p.name = reg.name
  · intro _
    have hsurv := hg hname
    rw [Op.apply] at haddr
    simp only [hname, if_true] at haddr
    obtain ⟨name, host, port, phase⟩ := p
    obtain rfl : name = reg.name := hname
    simp only [Probe.Survives, Bool.or_eq_true, Bool.and_eq_true, decide_eq_true_eq] at hsurv
    rcases hsurv with ⟨hmem, hprobed⟩ | hsurv
    · simp only [noteAddition, if_pos hmem]
      exact Or.inl hprobed
    · cases phase with
      | pending =>
        obtain ⟨rfl, rfl⟩ : host = reg.host ∧ port = reg.port := by simpa using hsurv
        exact Or.inr haddr
      | sent a =>
        obtain ⟨hmem, rfl, rfl⟩ :
            reg.name ∈ w.mem.lsml ∧ host = reg.host ∧ port = reg.port := by simpa using hsurv
        simp only [noteAddition, if_pos hmem]
        exact (h hmem).imp_right fun hv => ⟨hv.1, haddr⟩
      | answered health k =>
        cases health with
        | ok health => cases hsurv
        | error e => exact Or.inr trivial
  · refine h.frame (fun _ => ?_) ?_ fun _ hx => hx
    · exact haddr.trans (if_neg hname)
    · simp only [noteAddition]
      split_ifs
      · rfl
      · exact Function.update_of_ne hname _ _

lemma Inv.access (hi : Inv w) (hop : isHandlerAccess op = true)
    (hg : SameTarget w (.access op)) :
    Inv { w with
      mem := op.apply w.mem
      round := w.round.map (noteSelection (selects w.mem op))
      additions := noteAddition w.mem w.additions op } where
  aligned := hi.aligned.apply op
  counts n c h hc := by
    obtain ⟨c', hc', hfin⟩ := finite_apply hop h hc
    have hsucc := hi.counts n c' hc' hfin
    have hadd : noteAddition w.mem w.additions op n = w.additions n := by
      cases op with
      | register now reg =>
        simp only [noteAddition]
        split_ifs with hmem
        · rfl
        · refine Function.update_of_ne ?_ _ _
          rintro rfl
          -- a server that is newly added has an infinite count
          exact hmem ((hi.aligned.keys reg.name).mpr (mem_of_lookup_eq_some hc'))
      | _ => rfl
    simp only [hadd]
    exact hsucc
  valid q hq := by
    obtain ⟨p, hp, hq⟩ : ∃ p ∈ w.probes, q = p ∨ q = p.select := by
      simp only [World.probes] at hq ⊢
      cases hr : w.round with
      | none =>
        rw [hr] at hq
        cases hq
      | some probes =>
        rw [hr] at hq
        exact mem_noteSelection hq
    suffices hv : p.Valid _ by
      rcases hq with rfl | rfl
      · exact hv
      · exact valid_select hv
    have hv := hi.valid p hp
    have haddr := address_apply hi.aligned op p.name
    cases op with
    | register now reg => exact hv.register hi.aligned (hg p hp)
    | unregister name =>
      refine hv.frame (fun hmem => ?_) rfl fun _ hx => hx
      refine haddr.trans (if_neg ?_)
      rintro rfl
      have : (unregisterServer p.name w.mem).lsml.lookup p.name = none := by
        rw [unregisterServer_lsml, if_pos rfl]
      exact lookup_eq_none.mp this hmem
    | toggle name req => exact hv.frame (fun _ => haddr) rfl fun _ hx => hx
    | findLowest d => exact hv.frame (fun _ => haddr) rfl fun _ hx => hx
    | findByType type order => exact hv.frame (fun _ => haddr) rfl fun _ hx => hx
    | heartbeat now results => cases hop

lemma Inv.snapshot (hi : Inv w) (order : List String) :
    Inv { w with round := some (order.filterMap (target w.mem)) } where
  aligned := hi.aligned
  counts := hi.counts
  valid q hq := by
    obtain ⟨name, -, hname⟩ := List.mem_filterMap.mp hq
    obtain ⟨a, haddr, rfl⟩ := Option.map_eq_some_iff.mp hname
    exact fun _ => Or.inr haddr

lemma Inv.send (hi : Inv w) (hr : w.round = some probes) (name : String) :
    Inv { w with round := some (updateProbe name (Probe.send w) probes) } where
  aligned := hi.aligned
  counts := hi.counts
  valid q hq := by
    obtain ⟨p, hp, hq⟩ := mem_updateProbe hq
    have hv : p.Valid w := hi.valid p (by rw [World.probes, hr]; exact hp)
    rcases hq with ⟨-, rfl⟩ | ⟨-, rfl⟩
    · obtain ⟨name, host, port, phase⟩ := p
      cases phase with
      | pending =>
        intro hmem
        rcases hv hmem with hprobed | haddr
        · exact Or.inl hprobed
        · exact Or.inr ⟨if_pos haddr, haddr⟩
      | sent a => exact hv
      | answered health k => exact hv
    · exact hv

lemma mem_noteSuccess {x : String × ℕ} (h : x ∈ w.succeeded) (probes : List Probe)
    (name : String) (health : Except String HealthData) :
    x ∈ noteSuccess w probes name health := by
  cases health with
  | ok health => exact List.mem_append_left _ h
  | error e => exact h

lemma Inv.answer (hi : Inv w) (hr : w.round = some probes) (name : String)
    (health : Except String HealthData) :
    Inv { w with
      round := some (updateProbe name (Probe.answer health) probes)
      succeeded := noteSuccess w probes name health } where
  aligned := hi.aligned
  counts n c h hc := mem_noteSuccess (hi.counts n c h hc) probes name health
  valid q hq := by
    obtain ⟨p, hp, hq⟩ := mem_updateProbe hq
    have hv : p.Valid w := hi.valid p (by rw [World.probes, hr]; exact hp)
    have hv' : p.Valid { w with
        round := some (updateProbe name (Probe.answer health) probes)
        succeeded := noteSuccess w probes name health } :=
      hv.frame (fun _ => rfl) rfl fun _ hx => mem_noteSuccess hx probes name health
    rcases hq with ⟨hname, rfl⟩ | ⟨-, rfl⟩
    · obtain ⟨pname, host, port, phase⟩ := p
      cases phase with
      | pending => exact hv'
      | answered health' k => exact hv'
      | sent a =>
        cases health with
        | error e => exact fun _ => Or.inr trivial
        | ok health =>
          intro hmem
          left
          rcases hv hmem with hprobed | ⟨hsent, haddr⟩
          · exact mem_noteSuccess hprobed probes name (.ok health)
          · obtain rfl : a = some (w.additions pname) := hsent
            have hcredit : (pname, w.additions pname) ∈
                Probe.credit w ⟨pname, host, port, .sent (some (w.additions pname))⟩ := by
              simp only [Probe.credit]
              rw [if_pos haddr]
              exact List.mem_singleton_self _
            refine List.mem_append_right _ (List.mem_flatMap.mpr ⟨_, ?_, hcredit⟩)
            exact List.mem_filter.mpr ⟨hp, decide_eq_true hname⟩
    · exact hv'

/-- A count after a round was there before or was reported for a registered server. -/
lemma applyResults_lscs_cases (now : Int) (results : List HealthResult) (s : State) {c : Int}
    (h : (applyResults now results s).lscs.lookup n = some c) :
    s.lscs.lookup n = some c ∨
      n ∈ s.lsml ∧ ∃ r ∈ results, r.name = n ∧ (r.outcome now).2 = c := by
  induction results generalizing s with
  | nil => exact Or.inl h
  | cons r results ih =>
    rw [applyResults, List.foldl_cons] at h
    rcases ih _ h with h | ⟨hmem, r', hr', hname, hc⟩
    · rw [applyResult_lscs] at h
      split_ifs at h with hn
      · exact Or.inr ⟨hn.2, r, List.mem_cons_self, hn.1.symm, Option.some.inj h⟩
      · exact Or.inl h
    · exact Or.inr ⟨(applyResult_lsml_mem now s r n).mp hmem, r', List.mem_cons_of_mem r hr',
        hname, hc⟩

lemma mem_results {r : HealthResult} (h : r ∈ probes.filterMap (·.result)) :
    ∃ host port k, (⟨r.name, host, port, .answered r.health k⟩ : Probe) ∈ probes := by
  obtain ⟨⟨name, host, port, phase⟩, hp, hr⟩ := List.mem_filterMap.mp h
  cases phase with
  | pending => cases hr
  | sent a => cases hr
  | answered health k =>
    cases hr
    exact ⟨host, port, k, hp⟩

lemma Inv.apply (hi : Inv w) (hr : w.round = some probes) (now : Int) :
    Inv { w with
      mem := applyResults now (probes.filterMap (·.result)) w.mem
      round := none } where
  aligned := hi.aligned.apply (.heartbeat now _)
  counts n c h hc := by
    rcases applyResults_lscs_cases now _ w.mem h with h | ⟨hmem, r, hr', rfl, rfl⟩
    · exact hi.counts n c h hc
    · obtain ⟨host, port, k, hp⟩ := mem_results hr'
      have hv := hi.valid _ (by rw [World.probes, hr]; exact hp) hmem
      cases hh : r.health with
      | ok health =>
        simp only [hh, Phase.Sound, or_false] at hv
        exact hv
      | error e => exact absurd (by simp [HealthResult.outcome, hh]) hc
  valid q hq := by cases hq

/-- Every step keeps the invariant, as long as registrations meet the guard. -/
lemma Inv.step {e : Event} (hi : Inv w) (hg : SameTarget w e) (he : step w e = some w') :
    Inv w' := by
  cases step_spec he with
  | access hop => exact hi.access hop hg
  | snapshot hperm => exact hi.snapshot _
  | send hr => exact hi.send hr _
  | answer hr => exact hi.answer hr _ _
  | apply hr => exact hi.apply hr _

lemma start_inv (hw : WrittenByService redis) (now : Int) (scan : List (String × Bool)) :
    Inv (World.start now redis scan) where
  aligned := init_aligned hw now
  counts n c h hc := by
    simp only [World.start, init_lscs hw] at h
    obtain ⟨reg, -, rfl⟩ := Option.map_eq_some_iff.mp h
    exact absurd rfl hc
  valid q hq := by cases hq

/-! ### Routing during rounds -/

/-- A routing function can return the server. -/
def Routed (s : State) (n : String) : Prop :=
  ∃ md : ServerMetadata, md.name = n ∧
    ((∃ d, (findLowestLoadContainer d s).1 = .ok md) ∨
      ∃ type order, (findContainerByType type order s).1 = .ok md)

lemma Routed.finite (hs : Aligned s) (h : Routed s n) :
    ∃ c, s.lscs.lookup n = some c ∧ c ≠ maxInt := by
  obtain ⟨md, rfl, ⟨d, hd⟩ | ⟨type, order, ht⟩⟩ := h
  · obtain ⟨c, hc, hlt, -⟩ := findLowest_ok hs (Prod.ext hd rfl)
    exact ⟨c, hc, hlt.ne⟩
  · obtain ⟨-, c, -, hc, hne, -⟩ := findByType_ok hs ht
    exact ⟨c, hc, hne⟩

/-- In a run whose registrations leave the probes under way valid, every server that a routing
function can return has been probed since it was last added: a probe that was sent to its address
has succeeded while it had that address. -/
theorem routed_probed (hw : WrittenByService redis) (now : Int) (scan : List (String × Bool))
    (es : List Event) (hg : Guarded step SameTarget (World.start now redis scan) es)
    (hr : run step (World.start now redis scan) es = some w) (n : String) (h : Routed w.mem n) :
    (n, w.additions n) ∈ w.succeeded := by
  have hi : Inv w :=
    run_invariant (fun _ _ _ hi hg he => hi.step hg he) (start_inv hw now scan) hg hr
  obtain ⟨c, hc, hne⟩ := h.finite hi.aligned
  exact hi.counts n c hc hne

/-- The sample container, registered again from another address. -/
def movedContainer : ContainerRegistration :=
  { sampleContainer with
    host := "198.51.100.7"
    inboundEnabled := false
    outboundEnabled := false }

/-- A container that unregisters and registers from another address while its probe is under way is
credited with the answer of the old address. -/
theorem moved_not_probed :
    ∃ w, run step (World.start 0 sampleRedis [("container:media-1", true)])
        [.snapshot ["media-1"], .send "media-1", .access (.unregister "media-1"),
          .access (.register 0 movedContainer), .answer "media-1" (.ok sampleHealth),
          .apply 0] = some w ∧
      Routed w.mem "media-1" ∧ ("media-1", w.additions "media-1") ∉ w.succeeded :=
  ⟨_, rfl, ⟨_, rfl, Or.inr ⟨"media", ["media-1"], rfl⟩⟩, by decide⟩

theorem routed_probed_sample :
    ∃ w, run step (World.start 0 sampleRedis [("container:media-1", true)])
        [.access (.unregister "media-1"), .access (.register 0 sampleContainer),
          .snapshot ["media-1"], .send "media-1", .access (.register 0 sampleContainer),
          .answer "media-1" (.ok sampleHealth), .access (.register 0 movedContainer),
          .apply 0] = some w ∧
      Routed w.mem "media-1" ∧ ("media-1", w.additions "media-1") ∈ w.succeeded :=
  ⟨_, rfl, ⟨_, rfl, Or.inr ⟨"media", ["media-1"], rfl⟩⟩, routed_probed sampleRedis_written 0
    [("container:media-1", true)]
    [.access (.unregister "media-1"), .access (.register 0 sampleContainer),
      .snapshot ["media-1"], .send "media-1", .access (.register 0 sampleContainer),
      .answer "media-1" (.ok sampleHealth), .access (.register 0 movedContainer), .apply 0]
    (by decide) rfl "media-1" ⟨_, rfl, Or.inr ⟨"media", ["media-1"], rfl⟩⟩⟩

/-! ### Routing between an answer and its application -/

/-- The probes of a round are for different servers. -/
def NamesNodup (w : World) : Prop := (w.probes.map (·.name)).Nodup

lemma names_updateProbe {f : Probe → Probe} (hf : ∀ p, (f p).name = p.name) (name : String)
    (probes : List Probe) : (updateProbe name f probes).map (·.name) = probes.map (·.name) := by
  rw [updateProbe, List.map_map]
  refine List.map_congr_left fun p _ => ?_
  simp only [Function.comp_apply]
  split_ifs
  · exact hf p
  · rfl

lemma send_name (w : World) (p : Probe) : (p.send w).name = p.name := by
  simp only [Probe.send]
  split <;> rfl

lemma answer_name (health : Except String HealthData) (p : Probe) :
    (p.answer health).name = p.name := by
  simp only [Probe.answer]
  split <;> rfl

lemma select_name (p : Probe) : p.select.name = p.name := by
  simp only [Probe.select]
  split <;> rfl

lemma names_snapshot (s : State) (order : List String) :
    ((order.filterMap (target s)).map (·.name)).Sublist order := by
  induction order with
  | nil => exact List.Sublist.refl _
  | cons name order ih =>
    cases ht : target s name with
    | none =>
      rw [List.filterMap_cons_none ht]
      exact ih.cons name
    | some p =>
      have hname : p.name = name := by
        obtain ⟨a, -, rfl⟩ := Option.map_eq_some_iff.mp ht
        rfl
      rw [List.filterMap_cons_some ht, List.map_cons, hname]
      exact ih.cons_cons name

lemma names_noteSelection (selected : Option String) (probes : List Probe) :
    (noteSelection selected probes).map (·.name) = probes.map (·.name) := by
  cases selected with
  | none => rfl
  | some name => exact names_updateProbe select_name name probes

lemma NamesNodup.of_names (hn : NamesNodup w)
    (h : w'.probes.map (·.name) = w.probes.map (·.name)) : NamesNodup w' := by
  rw [NamesNodup, h]
  exact hn

lemma NamesNodup.step {e : Event} (hn : NamesNodup w) (he : step w e = some w') :
    NamesNodup w' := by
  cases step_spec he with
  | access hop =>
    refine hn.of_names ?_
    simp only [World.probes]
    cases w.round with
    | none => rfl
    | some probes => exact names_noteSelection _ probes
  | snapshot hperm =>
    exact (names_snapshot w.mem _).nodup (hperm.nodup_iff.mpr w.mem.lsml.keys_nodup)
  | send hr =>
    refine hn.of_names ?_
    simp only [World.probes, hr, Option.getD_some]
    exact names_updateProbe (send_name w) _ _
  | answer hr =>
    refine hn.of_names ?_
    simp only [World.probes, hr, Option.getD_some]
    exact names_updateProbe (answer_name _) _ _
  | apply hr => exact List.nodup_nil

lemma names_results (probes : List Probe) :
    ((probes.filterMap (·.result)).map (·.name)).Sublist (probes.map (·.name)) := by
  induction probes with
  | nil => exact List.Sublist.refl _
  | cons p probes ih =>
    obtain ⟨name, host, port, phase⟩ := p
    cases phase with
    | pending => exact ih.cons name
    | sent a => exact ih.cons name
    | answered health k => exact ih.cons_cons name

/-- The application of a round, for a server that has answered. -/
lemma Step.apply_reported (ha : Aligned w.mem) (hn : NamesNodup w) {p : Probe} (hp : p ∈ w.probes)
    {health : HealthData} {k : ℕ} (hphase : p.phase = .answered (.ok health) k) {now : Int}
    (he : Step w (.apply now) w') :
    (p.name ∈ w.mem.lsml → w'.mem.lscs.lookup p.name = some health.currentCalls) ∧
      (p.name ∉ w.mem.lsml → w'.mem.lscs.lookup p.name = none) := by
  cases he with
  | @apply _ probes hr =>
    rw [NamesNodup, World.probes, hr] at hn
    rw [World.probes, hr] at hp
    have hres : (⟨p.name, .ok health⟩ : HealthResult) ∈ probes.filterMap (·.result) :=
      List.mem_filterMap.mpr ⟨p, hp, by rw [Probe.result, hphase]⟩
    have hcount := applyResults_lscs now w.mem ((names_results probes).nodup hn) hres
    constructor
    · intro hmem
      rw [if_pos hmem] at hcount
      exact hcount
    · intro hmem
      rw [if_neg hmem] at hcount
      refine hcount.trans (lookup_eq_none.mpr ?_)
      rw [← ha.keys]
      exact hmem

/-- The application of a round sets the count of every server that is still registered to what the
server reported. The routing calls that selected it since its answer, `k` of them, are overwritten:
the count covers them exactly when there were none. -/
theorem apply_sets_reported (hw : WrittenByService redis) (now₀ : Int)
    (scan : List (String × Bool)) (es : List Event)
    (hr : run step (World.start now₀ redis scan) es = some w) (p : Probe) (hp : p ∈ w.probes)
    (health : HealthData) (k : ℕ) (hphase : p.phase = .answered (.ok health) k) (now : Int)
    (w' : World) (happly : step w (.apply now) = some w') :
    (p.name ∈ w.mem.lsml → w'.mem.lscs.lookup p.name = some health.currentCalls ∧
      (health.currentCalls + k ≤ w'.mem.count p.name ↔ k = 0)) ∧
    (p.name ∉ w.mem.lsml → w'.mem.lscs.lookup p.name = none) := by
  have ha : Aligned w.mem :=
    run_invariant' (fun _ _ _ ha he => step_aligned ha he) (init_aligned hw now₀) hr
  have hstart : NamesNodup (World.start now₀ redis scan) := List.nodup_nil
  have hn : NamesNodup w := run_invariant' (fun _ _ _ hn he => hn.step he) hstart hr
  obtain ⟨hin, hout⟩ := (step_spec happly).apply_reported ha hn hp hphase
  refine ⟨fun hmem => ⟨hin hmem, ?_⟩, hout⟩
  rw [State.count_of_lookup (hin hmem)]
  omega

/-- A routing call that falls between the answer of a probe and its application is not in the count
that the application leaves. -/
theorem selection_overwritten :
    ∃ w w' p, run step (World.start 0 sampleRedis [("container:media-1", true)])
        [.snapshot ["media-1"], .send "media-1", .answer "media-1" (.ok sampleHealth), .apply 0,
          .snapshot ["media-1"], .send "media-1", .answer "media-1" (.ok sampleHealth),
          .access (.findLowest .inbound)] = some w ∧
      p ∈ w.probes ∧ p.name = "media-1" ∧ p.phase = .answered (.ok sampleHealth) 1 ∧
      step w (.apply 0) = some w' ∧ ¬ sampleHealth.currentCalls + 1 ≤ w'.mem.count "media-1" :=
  ⟨_, _, _, rfl, List.mem_singleton.mpr rfl, rfl, rfl, rfl, by decide⟩

theorem apply_sets_reported_sample :
    ∃ w w', run step (World.start 0 sampleRedis [("container:media-1", true)])
        [.snapshot ["media-1"], .send "media-1", .answer "media-1" (.ok sampleHealth)] = some w ∧
      step w (.apply 0) = some w' ∧ w'.mem.lscs.lookup "media-1" = some 0 :=
  ⟨_, _, rfl, rfl, ((apply_sets_reported sampleRedis_written 0 [("container:media-1", true)]
    [.snapshot ["media-1"], .send "media-1", .answer "media-1" (.ok sampleHealth)] rfl
    ⟨"media-1", "203.0.113.5", 8086, .answered (.ok sampleHealth) 0⟩
    (List.mem_singleton.mpr rfl) sampleHealth 0 rfl 0 _ rfl).1 (by decide)).1⟩

end LoadBalancer.Heartbeat
