import SipForward.Core.Maps
import SipForward.LoadBalancer.State

/-!
# What each operation does to the state

One specification lemma for each function of `State`: the lookups in `LSML` and `LSCS` and the IOSL
arrays after it. The later modules use these and do not unfold the functions.
-/

namespace LoadBalancer

open AList

variable {s : State} {n m name : String} {d : Direction} {now : Int}

/-! ### IOSL -/

lemma updateServers_true (l : List String) (n : String) :
    updateServers l n true = if n ∈ l then l else l ++ [n] := by
  by_cases hn : n ∈ l <;> simp [updateServers, hn]

lemma updateServers_false (l : List String) (n : String) : updateServers l n false = l.erase n := by
  by_cases hn : n ∈ l
  · simp [updateServers, hn]
  · simp [updateServers, hn, List.erase_of_not_mem hn]

lemma updateServers_nodup {l : List String} (h : l.Nodup) (n : String) (e : Bool) :
    (updateServers l n e).Nodup := by
  cases e with
  | false =>
    rw [updateServers_false]
    exact h.erase n
  | true =>
    rw [updateServers_true]
    split_ifs with hn
    · exact h
    · exact List.nodup_append.mpr ⟨h, List.nodup_singleton n, by
        rintro a ha b hb rfl
        exact hn (List.mem_singleton.mp hb ▸ ha)⟩

/-- Whatever the array, an enabled name is listed afterwards and nothing is removed. -/
lemma mem_updateServers_of_enabled (l : List String) (n m : String) :
    m ∈ updateServers l n true ↔ m = n ∨ m ∈ l := by
  rw [updateServers_true]
  split_ifs with hn
  · constructor
    · exact Or.inr
    · rintro (rfl | hm)
      · exact hn
      · exact hm
  · simp [or_comm]

lemma mem_updateServers_of_ne (l : List String) (e : Bool) (h : m ≠ n) :
    m ∈ updateServers l n e ↔ m ∈ l := by
  cases e with
  | true => simp [mem_updateServers_of_enabled, h]
  | false => rw [updateServers_false, List.mem_erase_of_ne h]

/-- In an array without duplicates a name is listed afterwards exactly when it is enabled. -/
lemma mem_updateServers {l : List String} (h : l.Nodup) (n m : String) (e : Bool) :
    m ∈ updateServers l n e ↔ if m = n then e = true else m ∈ l := by
  split_ifs with hm
  · subst hm
    cases e with
    | true => simp [mem_updateServers_of_enabled]
    | false => simp [updateServers_false, h.mem_erase_iff]
  · exact mem_updateServers_of_ne l e hm

/-- An array that already says whether a name is enabled stays as it is. -/
lemma updateServers_of_iff {l : List String} {e : Bool} (h : n ∈ l ↔ e = true) :
    updateServers l n e = l := by
  cases e with
  | true => rw [updateServers_true, if_pos (h.mpr rfl)]
  | false =>
    rw [updateServers_false, List.erase_of_not_mem]
    intro hn
    exact Bool.false_ne_true (h.mp hn)

@[simp] lemma updateIOSL_lsml (s : State) (n : String) (i o : Bool) :
    (updateIOSL s n i o).lsml = s.lsml := rfl

@[simp] lemma updateIOSL_lscs (s : State) (n : String) (i o : Bool) :
    (updateIOSL s n i o).lscs = s.lscs := rfl

/-! ### Registration -/

@[simp] lemma ServerMetadata.reregister_name (md : ServerMetadata) (reg : ContainerRegistration) :
    (md.reregister reg).name = md.name := rfl

@[simp] lemma ServerMetadata.reregister_enabled (md : ServerMetadata)
    (reg : ContainerRegistration) (d : Direction) :
    (md.reregister reg).enabled d = reg.enabled d := by
  cases d <;> rfl

lemma ServerMetadata.reregister_registration {md : ServerMetadata} {reg : ContainerRegistration}
    (h : md.name = reg.name) : (md.reregister reg).registration = reg := by
  cases reg
  simpa [ServerMetadata.reregister, ServerMetadata.registration] using h

/-- The metadata `RegisterServer` leaves under the name of the registration. -/
def registered (now : Int) (reg : ContainerRegistration) : Option ServerMetadata → ServerMetadata
  | some existing => existing.reregister reg
  | none          => reg.toServer now

@[simp] lemma registered_enabled (now : Int) (reg : ContainerRegistration)
    (old : Option ServerMetadata) (d : Direction) :
    (registered now reg old).enabled d = reg.enabled d := by
  cases old <;> simp [registered]

lemma registered_registration {reg : ContainerRegistration} {old : Option ServerMetadata}
    (h : ∀ md ∈ old, md.name = reg.name) : (registered now reg old).registration = reg := by
  cases old with
  | none => rfl
  | some md => exact ServerMetadata.reregister_registration (h md rfl)

lemma registerServer_lsml (now : Int) (reg : ContainerRegistration) (s : State) (n : String) :
    (registerServer now reg s).lsml.lookup n =
      if n = reg.name then some (registered now reg (s.lsml.lookup reg.name))
      else s.lsml.lookup n := by
  simp only [registerServer]
  cases h : s.lsml.lookup reg.name <;> simp [registered, lookup_insert_ite]

/-- A registration leaves the call counts alone unless the server is new. -/
lemma registerServer_lscs (now : Int) (reg : ContainerRegistration) (s : State) (n : String) :
    (registerServer now reg s).lscs.lookup n =
      if n = reg.name ∧ s.lsml.lookup reg.name = none then some maxInt
      else s.lscs.lookup n := by
  simp only [registerServer]
  cases h : s.lsml.lookup reg.name <;> simp [lookup_insert_ite]

lemma registerServer_servers (now : Int) (reg : ContainerRegistration) (s : State)
    (d : Direction) :
    (registerServer now reg s).servers d =
      updateServers (s.servers d) reg.name (reg.enabled d) := by
  simp only [registerServer]
  cases s.lsml.lookup reg.name <;> cases d <;> rfl

lemma unregisterServer_lsml (name : String) (s : State) (n : String) :
    (unregisterServer name s).lsml.lookup n = if n = name then none else s.lsml.lookup n := by
  simp [unregisterServer, lookup_erase_ite]

lemma unregisterServer_lscs (name : String) (s : State) (n : String) :
    (unregisterServer name s).lscs.lookup n = if n = name then none else s.lscs.lookup n := by
  simp [unregisterServer, lookup_erase_ite]

lemma unregisterServer_servers (name : String) (s : State) (d : Direction) :
    (unregisterServer name s).servers d = updateServers (s.servers d) name false := by
  cases d <;> rfl

@[simp] lemma ServerMetadata.toggle_name (md : ServerMetadata) (req : ToggleContainerRequest) :
    (md.toggle req).name = md.name := rfl

/-- A toggle of an unknown server changes nothing. -/
lemma toggleServer_none (req : ToggleContainerRequest) (h : s.lsml.lookup name = none) :
    (toggleServer name req s).2 = s := by
  simp [toggleServer, h]

lemma toggleServer_lsml {md : ServerMetadata} (req : ToggleContainerRequest)
    (h : s.lsml.lookup name = some md) (n : String) :
    (toggleServer name req s).2.lsml.lookup n =
      if n = name then some (md.toggle req) else s.lsml.lookup n := by
  simp [toggleServer, h, lookup_insert_ite]

@[simp] lemma toggleServer_lscs (name : String) (req : ToggleContainerRequest) (s : State) :
    (toggleServer name req s).2.lscs = s.lscs := by
  simp only [toggleServer]
  cases s.lsml.lookup name <;> rfl

lemma toggleServer_servers {md : ServerMetadata} (req : ToggleContainerRequest)
    (h : s.lsml.lookup name = some md) (d : Direction) :
    (toggleServer name req s).2.servers d =
      updateServers (s.servers d) name ((md.toggle req).enabled d) := by
  cases d <;> simp [toggleServer, h, updateIOSL, State.servers, ServerMetadata.enabled]

/-! ### Routing -/

@[simp] lemma State.increment_lsml (s : State) (n : String) : (s.increment n).lsml = s.lsml := rfl

@[simp] lemma State.increment_servers (s : State) (n : String) (d : Direction) :
    (s.increment n).servers d = s.servers d := by
  cases d <;> rfl

lemma State.increment_lscs {c : Int} (h : s.lscs.lookup name = some c) (n : String) :
    (s.increment name).lscs.lookup n = if n = name then some (c + 1) else s.lscs.lookup n := by
  simp [State.increment, h, lookup_insert_ite]

/-- The scan ends on the first of the contenders with the least count, or, when no contender has a
count below the value it starts from, where it started. -/
lemma scanLowest_spec (lscs : GoMap Int) (l : List String) (minName : String) (minVal : Int) :
    (scanLowest lscs l minName minVal = (minName, minVal) ∧
      ∀ x ∈ l, ∀ c ∈ lscs.lookup x, minVal ≤ c) ∨
    ∃ l₁ n l₂ v, l = l₁ ++ n :: l₂ ∧ scanLowest lscs l minName minVal = (n, v) ∧
      lscs.lookup n = some v ∧ v < minVal ∧ (∀ x ∈ l₁, ∀ c ∈ lscs.lookup x, v < c) ∧
      ∀ x ∈ l₂, ∀ c ∈ lscs.lookup x, v ≤ c := by
  induction l generalizing minName minVal with
  | nil => exact Or.inl ⟨rfl, by simp⟩
  | cons y l ih =>
    cases hy : lscs.lookup y with
    | none =>
      simp only [scanLowest, hy]
      rcases ih minName minVal with ⟨heq, hle⟩ | ⟨l₁, n, l₂, v, rfl, heq, hn, hv, h₁, h₂⟩
      · refine Or.inl ⟨heq, ?_⟩
        simpa [hy] using hle
      · refine Or.inr ⟨y :: l₁, n, l₂, v, rfl, heq, hn, hv, ?_, h₂⟩
        simpa [hy] using h₁
    | some count =>
      simp only [scanLowest, hy]
      split_ifs with hlt
      · -- `y` becomes the candidate; it stays the result unless the rest goes below it
        rcases ih y count with ⟨heq, hle⟩ | ⟨l₁, n, l₂, v, rfl, heq, hn, hv, h₁, h₂⟩
        · exact Or.inr ⟨[], y, l, count, rfl, heq, hy, hlt, by simp, hle⟩
        · refine Or.inr ⟨y :: l₁, n, l₂, v, rfl, heq, hn, hv.trans hlt, ?_, h₂⟩
          simpa [hy] using ⟨hv, h₁⟩
      · rcases ih minName minVal with ⟨heq, hle⟩ | ⟨l₁, n, l₂, v, rfl, heq, hn, hv, h₁, h₂⟩
        · refine Or.inl ⟨heq, ?_⟩
          simpa [hy] using ⟨not_lt.mp hlt, hle⟩
        · refine Or.inr ⟨y :: l₁, n, l₂, v, rfl, heq, hn, hv, ?_, h₂⟩
          simpa [hy] using ⟨by omega, h₁⟩

/-- What a call of `FindLowestLoadContainer` can do: fail without a change, or select a contender
of least, finite count and increment it. -/
lemma findLowest_cases (d : Direction) (s : State) :
    (∃ e, findLowestLoadContainer d s = (.error e, s)) ∨
    ∃ n c, n ∈ s.servers d ∧ n ≠ "" ∧ s.lscs.lookup n = some c ∧ c < maxInt ∧
      (∀ x ∈ s.servers d, ∀ c' ∈ s.lscs.lookup x, c ≤ c') ∧
      ((s.lsml.lookup n = none ∧ ∃ e, findLowestLoadContainer d s = (.error e, s.increment n)) ∨
        ∃ md, s.lsml.lookup n = some md ∧
          findLowestLoadContainer d s = (.ok (md.withCalls (c + 1)), s.increment n)) := by
  simp only [findLowestLoadContainer]
  by_cases hnil : s.servers d = []
  · exact Or.inl ⟨"no available containers", if_pos hnil⟩
  · simp only [hnil, if_false]
    rcases scanLowest_spec s.lscs (s.servers d) "" maxInt with
      ⟨heq, -⟩ | ⟨l₁, n, l₂, v, hl, heq, hn, hv, h₁, h₂⟩
    · exact Or.inl ⟨"no healthy containers available", by simp [heq]⟩
    · rw [heq]
      by_cases hempty : n = ""
      · exact Or.inl ⟨"no healthy containers available", if_pos (Or.inl hempty)⟩
      · have hc : ¬ (n = "" ∨ v = maxInt) := not_or.mpr ⟨hempty, hv.ne⟩
        have hmin : ∀ x ∈ s.servers d, ∀ c' ∈ s.lscs.lookup x, v ≤ c' := by
          intro x hx c' hc'
          rw [hl, List.mem_append, List.mem_cons] at hx
          rcases hx with hx | rfl | hx
          · exact (h₁ x hx c' hc').le
          · rw [hn] at hc'
            exact le_of_eq (Option.some.inj hc')
          · exact h₂ x hx c' hc'
        refine Or.inr ⟨n, v, by simp [hl], hempty, hn, hv, hmin, ?_⟩
        dsimp only
        rw [if_neg hc]
        cases hmd : s.lsml.lookup n with
        | none => exact Or.inl ⟨rfl, _, rfl⟩
        | some md =>
          refine Or.inr ⟨md, rfl, ?_⟩
          simp [State.increment_lscs hn]

/-- What a call of `FindContainerByType` can do: fail without a change when no key it ranges over
matches and is healthy, or select one that does and increment it. -/
lemma findByType_cases (type : String) (order : List String) (s : State) :
    ((∃ e, findContainerByType type order s = (.error e, s)) ∧
      ∀ n ∈ order, ∀ md ∈ s.lsml.lookup n, ∀ c ∈ s.lscs.lookup n,
        contains n type = true → c = maxInt) ∨
    ∃ n md c, n ∈ order ∧ s.lsml.lookup n = some md ∧ s.lscs.lookup n = some c ∧
      contains n type = true ∧ c ≠ maxInt ∧
      findContainerByType type order s = (.ok (md.withCalls (c + 1)), s.increment n) := by
  induction order with
  | nil => exact Or.inl ⟨⟨_, rfl⟩, by simp⟩
  | cons y order ih =>
    -- a key that is passed over leaves the question to the rest of the order
    have hskip : findContainerByType type (y :: order) s = findContainerByType type order s →
        (∀ md ∈ s.lsml.lookup y, ∀ c ∈ s.lscs.lookup y, contains y type = true → c = maxInt) →
        ((∃ e, findContainerByType type (y :: order) s = (.error e, s)) ∧
          ∀ n ∈ y :: order, ∀ md ∈ s.lsml.lookup n, ∀ c ∈ s.lscs.lookup n,
            contains n type = true → c = maxInt) ∨
        ∃ n md c, n ∈ y :: order ∧ s.lsml.lookup n = some md ∧ s.lscs.lookup n = some c ∧
          contains n type = true ∧ c ≠ maxInt ∧
          findContainerByType type (y :: order) s =
            (.ok (md.withCalls (c + 1)), s.increment n) := by
      intro heq hy
      rw [heq]
      rcases ih with ⟨herr, hno⟩ | ⟨n, md, c, hn, h⟩
      · exact Or.inl ⟨herr, List.forall_mem_cons.mpr ⟨hy, hno⟩⟩
      · exact Or.inr ⟨n, md, c, List.mem_cons_of_mem y hn, h⟩
    cases hmd : s.lsml.lookup y with
    | none => exact hskip (by simp [findContainerByType, hmd]) (by simp [hmd])
    | some md =>
      cases hc : s.lscs.lookup y with
      | none => exact hskip (by simp [findContainerByType, hmd, hc]) (by simp [hc])
      | some c =>
        by_cases hok : contains y type = true ∧ c ≠ maxInt
        · refine Or.inr ⟨y, md, c, List.mem_cons_self, hmd, hc, hok.1, hok.2, ?_⟩
          simp [findContainerByType, hmd, hc, hok, State.increment_lscs hc]
        · refine hskip (by simp only [findContainerByType, hmd, hc, hok, if_false]) ?_
          intro _ _ c' hc' hcont
          rw [hc] at hc'
          obtain rfl := Option.some.inj hc'
          by_contra hne
          exact hok ⟨hcont, hne⟩

/-- A routing call leaves the state as it is or increments a finite count. -/
lemma findLowest_state (d : Direction) (s : State) :
    (findLowestLoadContainer d s).2 = s ∨ ∃ n c, s.lscs.lookup n = some c ∧ c ≠ maxInt ∧
      (findLowestLoadContainer d s).2 = s.increment n := by
  rcases findLowest_cases d s with ⟨e, heq⟩ | ⟨n, c, -, -, hn, hc, -, hres⟩
  · exact Or.inl (by rw [heq])
  · refine Or.inr ⟨n, c, hn, hc.ne, ?_⟩
    rcases hres with ⟨-, e, heq⟩ | ⟨md, -, heq⟩ <;> rw [heq]

lemma findByType_state (type : String) (order : List String) (s : State) :
    (findContainerByType type order s).2 = s ∨ ∃ n c, s.lscs.lookup n = some c ∧ c ≠ maxInt ∧
      (findContainerByType type order s).2 = s.increment n := by
  rcases findByType_cases type order s with ⟨⟨e, heq⟩, -⟩ | ⟨n, md, c, -, -, hn, -, hc, heq⟩
  · exact Or.inl (by rw [heq])
  · exact Or.inr ⟨n, c, hn, hc, by rw [heq]⟩

/-! ### Heartbeat -/

lemma applyResult_none {r : HealthResult} (h : s.lsml.lookup r.name = none) :
    applyResult now s r = s := by
  simp [applyResult, h]

/-- The health and the call count a probe result stands for. -/
def HealthResult.outcome (now : Int) (r : HealthResult) : HealthData × Int :=
  match r.health with
  | .error err => (unhealthy now err, maxInt)
  | .ok health => (health, health.currentCalls)

/-- A result replaces the health and the call count of a registered server, and nothing else. -/
lemma applyResult_some {r : HealthResult} {md : ServerMetadata}
    (h : s.lsml.lookup r.name = some md) :
    applyResult now s r =
      { s with
        lsml := s.lsml.insert r.name { md with health := (r.outcome now).1 }
        lscs := s.lscs.insert r.name (r.outcome now).2 } := by
  cases hr : r.health <;> simp [applyResult, h, hr, HealthResult.outcome]

end LoadBalancer
