import SipForward.LoadBalancer.Spec

/-!
# The state invariant

`LSML`, `LSCS` and the IOSL arrays are kept in step by six operations. Two of the four parts of
the invariant, `Aligned`, hold after every start-up. The other two are about the IOSL arrays: every
operation keeps them, but start-up appends to the arrays without a membership check, so that they
hold from the start exactly when SCAN yields no key of an enabled container twice.
-/

namespace LoadBalancer

open AList

variable {s : State} {redis : Redis} {scan : List (String × Bool)} {ops : List Op}

/-- `LSML` and `LSCS` have the same keys, and every server is stored under its own name. -/
structure Aligned (s : State) : Prop where
  keys : ∀ n, n ∈ s.lsml ↔ n ∈ s.lscs
  name : ∀ n md, s.lsml.lookup n = some md → md.name = n

/-- The state invariant: moreover the IOSL arrays list, once, exactly the enabled servers. -/
structure Consistent (s : State) : Prop extends Aligned s where
  nodup : ∀ d, (s.servers d).Nodup
  listed : ∀ d n, n ∈ s.servers d ↔ ∃ md, s.lsml.lookup n = some md ∧ md.enabled d = true

/-- Every stored key is returned by SCAN, and its record is read. -/
def ScanComplete (redis : Redis) (scan : List (String × Bool)) : Prop :=
  ∀ key ∈ redis, (key, true) ∈ scan

/-- SCAN yields no key of an enabled container twice. -/
def ScanOnce (redis : Redis) (scan : List (String × Bool)) : Prop :=
  ∀ key reg, redis.lookup key = some reg →
    reg.inboundEnabled = true ∨ reg.outboundEnabled = true → scan.count (key, true) ≤ 1

/-! ### Start-up -/

lemma mem_readKeys (hw : WrittenByService redis) {reg : ContainerRegistration} :
    reg ∈ readKeys redis scan ↔
      (containerKey reg.name, true) ∈ scan ∧ redis.lookup (containerKey reg.name) = some reg := by
  simp only [readKeys, List.mem_filterMap, readKey]
  constructor
  · rintro ⟨⟨key, ok⟩, hmem, hreg⟩
    cases ok with
    | false => simp at hreg
    | true =>
      have hreg : redis.lookup key = some reg := by simpa using hreg
      obtain rfl := hw key reg hreg
      exact ⟨hmem, hreg⟩
  · rintro ⟨hmem, hreg⟩
    exact ⟨_, hmem, by simpa using hreg⟩

lemma foldl_load_servers (now : Int) (regs : List ContainerRegistration) (s : State)
    (d : Direction) :
    (regs.foldl (loadRegistration now) s).servers d =
      s.servers d ++ (regs.filter (·.enabled d)).map (·.name) := by
  induction regs generalizing s with
  | nil => simp
  | cons reg regs ih =>
    rw [List.foldl_cons, ih]
    have hload : (loadRegistration now s reg).servers d =
        if reg.enabled d then s.servers d ++ [reg.name] else s.servers d := by
      cases d <;> rfl
    rw [hload]
    cases h : reg.enabled d <;> simp [h]

/-- What is stored under a name at start-up is determined by the records read for that name. -/
lemma foldl_load_lookup {β : Type} (now : Int) (proj : State → GoMap β)
    (val : ContainerRegistration → β)
    (hproj : ∀ s reg, proj (loadRegistration now s reg) = (proj s).insert reg.name (val reg))
    (n : String) (r : Option ContainerRegistration) (regs : List ContainerRegistration)
    (hr : ∀ reg ∈ regs, reg.name = n → r = some reg) (s : State)
    (hs : (∃ reg ∈ regs, reg.name = n) ∨ (proj s).lookup n = r.map val) :
    (proj (regs.foldl (loadRegistration now) s)).lookup n = r.map val := by
  induction regs generalizing s with
  | nil => simpa using hs
  | cons reg regs ih =>
    rw [List.foldl_cons]
    refine ih (fun reg' h => hr reg' (List.mem_cons_of_mem _ h)) _ ?_
    rw [hproj, lookup_insert_ite]
    split_ifs with hn
    · right
      rw [hr reg List.mem_cons_self hn.symm]
      rfl
    · rcases hs with ⟨reg', hmem, hname⟩ | hs
      · rcases List.mem_cons.mp hmem with rfl | hmem
        · exact absurd hname.symm hn
        · exact Or.inl ⟨reg', hmem, hname⟩
      · exact Or.inr hs

/-- The record start-up reads for a name. -/
def readRecord (redis : Redis) (scan : List (String × Bool)) (n : String) :
    Option ContainerRegistration :=
  if (containerKey n, true) ∈ scan then redis.lookup (containerKey n) else none

lemma readRecord_of_mem (hw : WrittenByService redis) {reg : ContainerRegistration}
    (h : reg ∈ readKeys redis scan) : readRecord redis scan reg.name = some reg := by
  obtain ⟨hmem, hreg⟩ := (mem_readKeys hw).mp h
  rw [readRecord, if_pos hmem, hreg]

lemma init_lookup {β : Type} (hw : WrittenByService redis) (now : Int) (proj : State → GoMap β)
    (val : ContainerRegistration → β)
    (hproj : ∀ s reg, proj (loadRegistration now s reg) = (proj s).insert reg.name (val reg))
    (hempty : proj State.empty = ∅) (n : String) :
    (proj (initServerArrays now redis scan)).lookup n = (readRecord redis scan n).map val := by
  apply foldl_load_lookup now proj val hproj
  · rintro reg hmem rfl
    exact readRecord_of_mem hw hmem
  · rw [hempty]
    cases hr : readRecord redis scan n with
    | none => exact Or.inr rfl
    | some reg =>
      left
      unfold readRecord at hr
      split_ifs at hr with hscan
      have hname : n = reg.name := containerKey_inj.mp (hw _ _ hr)
      subst hname
      exact ⟨reg, (mem_readKeys hw).mpr ⟨hscan, hr⟩, rfl⟩

lemma init_lsml (hw : WrittenByService redis) (now : Int) (n : String) :
    (initServerArrays now redis scan).lsml.lookup n =
      (readRecord redis scan n).map (·.toServer now) :=
  init_lookup hw now (·.lsml) _ (fun _ _ => rfl) rfl n

lemma init_lscs (hw : WrittenByService redis) (now : Int) (n : String) :
    (initServerArrays now redis scan).lscs.lookup n =
      (readRecord redis scan n).map fun _ => maxInt :=
  init_lookup hw now (·.lscs) _ (fun _ _ => rfl) rfl n

lemma init_servers (now : Int) (d : Direction) :
    (initServerArrays now redis scan).servers d =
      ((readKeys redis scan).filter (·.enabled d)).map (·.name) := by
  rw [initServerArrays, foldl_load_servers]
  cases d <;> rfl

/-- A name is listed at start-up as often as SCAN yields its key, if its record is enabled. -/
lemma count_init_servers (hw : WrittenByService redis) (now : Int) (d : Direction) (n : String) :
    ((initServerArrays now redis scan).servers d).count n =
      if (redis.lookup (containerKey n)).any (·.enabled d) then
        scan.count (containerKey n, true) else 0 := by
  rw [init_servers, readKeys]
  induction scan with
  | nil => simp
  | cons item scan ih =>
    obtain ⟨key, ok⟩ := item
    cases hr : readKey redis (key, ok) with
    | none =>
      rw [List.filterMap_cons_none hr, ih]
      split_ifs with hany
      · rw [List.count_cons_of_ne]
        rintro ⟨⟩
        simp only [readKey, if_true] at hr
        simp [hr] at hany
      · rfl
    | some reg =>
      have hok : ok = true ∧ redis.lookup key = some reg := by
        cases ok with
        | true => exact ⟨rfl, by simpa [readKey] using hr⟩
        | false => simp [readKey] at hr
      obtain ⟨rfl, hreg⟩ := hok
      obtain rfl := hw key reg hreg
      rw [List.filterMap_cons_some hr, List.filter_cons]
      by_cases hn : reg.name = n
      · subst hn
        rw [hreg] at ih ⊢
        cases he : reg.enabled d with
        | true => simp_all
        | false => simp_all
      · have hkey : (containerKey reg.name, true) ≠ (containerKey n, true) := by simpa using hn
        rw [List.count_cons_of_ne hkey, ← ih]
        cases he : reg.enabled d with
        | true => simp [List.count_cons_of_ne hn]
        | false => simp

lemma init_aligned (hw : WrittenByService redis) (now : Int) :
    Aligned (initServerArrays now redis scan) where
  keys n := by
    rw [← lookup_isSome, ← lookup_isSome, init_lsml hw, init_lscs hw]
    simp
  name n md h := by
    rw [init_lsml hw] at h
    obtain ⟨reg, hreg, rfl⟩ := Option.map_eq_some_iff.mp h
    unfold readRecord at hreg
    split_ifs at hreg
    exact (containerKey_inj.mp (hw _ _ hreg)).symm

/-- A name is listed at start-up exactly when it was read and is enabled. -/
lemma mem_init_servers (hw : WrittenByService redis) (now : Int) (d : Direction) (n : String) :
    n ∈ (initServerArrays now redis scan).servers d ↔
      ∃ md, (initServerArrays now redis scan).lsml.lookup n = some md ∧ md.enabled d = true := by
  rw [← List.count_pos_iff, count_init_servers hw, init_lsml hw, readRecord]
  by_cases hscan : (containerKey n, true) ∈ scan
  · have := List.count_pos_iff.mpr hscan
    rw [if_pos hscan]
    cases hr : redis.lookup (containerKey n) with
    | none => simp
    | some reg => by_cases he : reg.enabled d = true <;> simp [he, this]
  · have := List.count_eq_zero_of_not_mem hscan
    simp [hscan, this]

lemma init_nodup_iff (hw : WrittenByService redis) (now : Int) :
    (∀ d, ((initServerArrays now redis scan).servers d).Nodup) ↔ ScanOnce redis scan := by
  simp only [List.nodup_iff_count_le_one, count_init_servers hw]
  constructor
  · intro h key reg hreg hen
    obtain rfl := hw key reg hreg
    rcases hen with hen | hen
    · have := h .inbound reg.name
      rwa [hreg, if_pos (by simpa [ContainerRegistration.enabled] using hen)] at this
    · have := h .outbound reg.name
      rwa [hreg, if_pos (by simpa [ContainerRegistration.enabled] using hen)] at this
  · intro h d n
    split_ifs with hany
    · obtain ⟨reg, hreg, hen⟩ := (Option.any_eq_true _ _).mp hany
      refine h _ reg hreg ?_
      cases d with
      | inbound => exact Or.inl hen
      | outbound => exact Or.inr hen
    · exact Nat.zero_le 1

lemma init_consistent_iff (hw : WrittenByService redis) (now : Int) :
    Consistent (initServerArrays now redis scan) ↔ ScanOnce redis scan := by
  rw [← init_nodup_iff hw now]
  constructor
  · exact fun h => h.nodup
  · exact fun h => ⟨init_aligned hw now, h, mem_init_servers hw now⟩

/-! ### The operations -/

/-- Replacing the entry of one server, in both maps, keeps the maps aligned. -/
lemma Aligned.of_update {s' : State} (h : Aligned s) (n : String) (new : Option ServerMetadata)
    (hname : ∀ md ∈ new, md.name = n)
    (hlsml : ∀ m, s'.lsml.lookup m = if m = n then new else s.lsml.lookup m)
    (hlscs : ∀ m, (s'.lscs.lookup m).isSome =
      if m = n then new.isSome else (s.lscs.lookup m).isSome) : Aligned s' where
  keys m := by
    rw [← lookup_isSome, ← lookup_isSome, hlsml, hlscs]
    split_ifs
    · rfl
    · rw [lookup_isSome, lookup_isSome]
      exact h.keys m
  name m md hm := by
    rw [hlsml] at hm
    split_ifs at hm with hmn
    · rw [hmn]
      exact hname md hm
    · exact h.name m md hm

/-- Replacing the entry of one server and updating the IOSL arrays for it keeps the invariant. -/
lemma Consistent.of_update {s' : State} (h : Consistent s) (n : String)
    (new : Option ServerMetadata) (ha : Aligned s')
    (hlsml : ∀ m, s'.lsml.lookup m = if m = n then new else s.lsml.lookup m)
    (hservers : ∀ d, s'.servers d = updateServers (s.servers d) n (new.any (·.enabled d))) :
    Consistent s' where
  toAligned := ha
  nodup d := by
    rw [hservers]
    exact updateServers_nodup (h.nodup d) n _
  listed d m := by
    rw [hservers, mem_updateServers (h.nodup d), hlsml]
    split_ifs
    · rw [Option.any_eq_true]
    · exact h.listed d m

lemma Aligned.increment (h : Aligned s) {n : String} {c : Int}
    (hn : s.lscs.lookup n = some c) : Aligned (s.increment n) where
  keys m := by
    rw [State.increment_lsml, h.keys, ← lookup_isSome, ← lookup_isSome, State.increment_lscs hn]
    split_ifs with hm
    · rw [hm, hn]
      rfl
    · rfl
  name := h.name

lemma Consistent.increment (h : Consistent s) {n : String} {c : Int}
    (hn : s.lscs.lookup n = some c) : Consistent (s.increment n) where
  toAligned := h.toAligned.increment hn
  nodup d := by
    rw [State.increment_servers]
    exact h.nodup d
  listed d m := by
    rw [State.increment_servers]
    exact h.listed d m

lemma Aligned.register (h : Aligned s) (now : Int) (reg : ContainerRegistration) :
    Aligned (registerServer now reg s) := by
  refine h.of_update reg.name _ ?_ (registerServer_lsml now reg s) fun m => ?_
  · rintro md ⟨⟩
    cases hold : s.lsml.lookup reg.name with
    | none => rfl
    | some old => exact h.name _ old hold
  · rw [registerServer_lscs]
    by_cases hm : m = reg.name
    · subst hm
      cases hold : s.lsml.lookup reg.name with
      | none => simp
      | some old =>
        have := (h.keys reg.name).mp (mem_of_lookup_eq_some hold)
        simpa using lookup_isSome.mpr this
    · simp [hm]

lemma Consistent.register (h : Consistent s) (now : Int) (reg : ContainerRegistration) :
    Consistent (registerServer now reg s) := by
  refine h.of_update reg.name _ (h.toAligned.register now reg) (registerServer_lsml now reg s)
    fun d => ?_
  rw [registerServer_servers]
  simp

lemma Aligned.unregister (h : Aligned s) (name : String) : Aligned (unregisterServer name s) := by
  refine h.of_update name none (by simp) (unregisterServer_lsml name s) fun m => ?_
  rw [unregisterServer_lscs]
  split_ifs <;> rfl

lemma Consistent.unregister (h : Consistent s) (name : String) :
    Consistent (unregisterServer name s) :=
  h.of_update name none (h.toAligned.unregister name) (unregisterServer_lsml name s)
    (unregisterServer_servers name s)

lemma Aligned.toggle (h : Aligned s) (name : String) (req : ToggleContainerRequest) :
    Aligned (toggleServer name req s).2 := by
  cases hmd : s.lsml.lookup name with
  | none =>
    rw [toggleServer_none req hmd]
    exact h
  | some md =>
    refine h.of_update name _ ?_ (toggleServer_lsml req hmd) fun m => ?_
    · rintro _ ⟨⟩
      exact h.name name md hmd
    · rw [toggleServer_lscs]
      split_ifs with hm
      · rw [hm]
        exact lookup_isSome.mpr ((h.keys name).mp (mem_of_lookup_eq_some hmd))
      · rfl

lemma Consistent.toggle (h : Consistent s) (name : String) (req : ToggleContainerRequest) :
    Consistent (toggleServer name req s).2 := by
  have ha := h.toAligned.toggle name req
  cases hmd : s.lsml.lookup name with
  | none =>
    rw [toggleServer_none req hmd]
    exact h
  | some md =>
    exact h.of_update name _ ha (toggleServer_lsml req hmd) fun d => by
      rw [toggleServer_servers req hmd]
      simp

lemma Aligned.findLowest (h : Aligned s) (d : Direction) :
    Aligned (findLowestLoadContainer d s).2 := by
  rcases findLowest_state d s with heq | ⟨n, c, hn, -, heq⟩ <;> rw [heq]
  · exact h
  · exact h.increment hn

lemma Consistent.findLowest (h : Consistent s) (d : Direction) :
    Consistent (findLowestLoadContainer d s).2 := by
  rcases findLowest_state d s with heq | ⟨n, c, hn, -, heq⟩ <;> rw [heq]
  · exact h
  · exact h.increment hn

lemma Aligned.findByType (h : Aligned s) (type : String) (order : List String) :
    Aligned (findContainerByType type order s).2 := by
  rcases findByType_state type order s with heq | ⟨n, c, hn, -, heq⟩ <;> rw [heq]
  · exact h
  · exact h.increment hn

lemma Consistent.findByType (h : Consistent s) (type : String) (order : List String) :
    Consistent (findContainerByType type order s).2 := by
  rcases findByType_state type order s with heq | ⟨n, c, hn, -, heq⟩ <;> rw [heq]
  · exact h
  · exact h.increment hn

lemma Aligned.applyResult (h : Aligned s) (now : Int) (r : HealthResult) :
    Aligned (applyResult now s r) := by
  cases hmd : s.lsml.lookup r.name with
  | none =>
    rw [applyResult_none hmd]
    exact h
  | some md =>
    rw [applyResult_some hmd]
    refine h.of_update r.name _ ?_ (lookup_insert_ite _ _ · _) fun m => ?_
    · rintro _ ⟨⟩
      exact h.name r.name md hmd
    · rw [lookup_insert_ite]
      split_ifs <;> rfl

lemma Consistent.applyResult (h : Consistent s) (now : Int) (r : HealthResult) :
    Consistent (applyResult now s r) := by
  have ha := h.toAligned.applyResult now r
  cases hmd : s.lsml.lookup r.name with
  | none =>
    rw [applyResult_none hmd]
    exact h
  | some md =>
    rw [applyResult_some hmd] at ha ⊢
    refine h.of_update r.name _ ha (lookup_insert_ite _ _ · _) fun d => ?_
    -- the flags of the server are as before, and so is its place in the array
    rw [updateServers_of_iff]
    · cases d <;> rfl
    · rw [h.listed d r.name, hmd]
      cases d <;> simp [ServerMetadata.enabled]

lemma Aligned.apply (h : Aligned s) (op : Op) : Aligned (op.apply s) := by
  cases op with
  | register now reg => exact h.register now reg
  | unregister name => exact h.unregister name
  | toggle name req => exact h.toggle name req
  | findLowest d => exact h.findLowest d
  | findByType type order => exact h.findByType type order
  | heartbeat now results =>
    exact List.foldlRecOn results _ h fun _ hs r _ => hs.applyResult now r

/-- Every operation keeps the state invariant. -/
lemma Consistent.apply (h : Consistent s) (op : Op) : Consistent (op.apply s) := by
  cases op with
  | register now reg => exact h.register now reg
  | unregister name => exact h.unregister name
  | toggle name req => exact h.toggle name req
  | findLowest d => exact h.findLowest d
  | findByType type order => exact h.findByType type order
  | heartbeat now results =>
    exact List.foldlRecOn results _ h fun _ hs r _ => hs.applyResult now r

lemma aligned_serve (hw : WrittenByService redis) (now : Int) (scan : List (String × Bool))
    (ops : List Op) : Aligned (serve now redis scan ops) :=
  List.foldlRecOn ops _ (init_aligned hw now) fun _ hs op _ => hs.apply op

lemma consistent_serve (hw : WrittenByService redis) (hscan : ScanOnce redis scan) (now : Int)
    (ops : List Op) : Consistent (serve now redis scan ops) :=
  List.foldlRecOn ops _ ((init_consistent_iff hw now).mpr hscan) fun _ hs op _ => hs.apply op

/-- The state invariant holds in every state that can follow a start-up exactly when SCAN yielded
no key of an enabled container twice. -/
theorem consistent_serve_iff (hw : WrittenByService redis) (now : Int)
    (scan : List (String × Bool)) :
    (∀ ops, Consistent (serve now redis scan ops)) ↔ ScanOnce redis scan := by
  constructor
  · intro h
    exact (init_consistent_iff hw now).mp (h [])
  · intro h ops
    exact consistent_serve hw h now ops

/-! ### A start-up whose SCAN repeats a key -/

/-- A container that takes calls in both directions. -/
def sampleContainer : ContainerRegistration where
  name := "media-1"
  host := "203.0.113.5"
  port := 8086
  aor := "media"
  contactURI := "sip:media@203.0.113.5:5060;ob"
  inboundEnabled := true
  outboundEnabled := true

def sampleRedis : Redis := (∅ : Redis).insert (containerKey "media-1") sampleContainer

/-- Redis documents that SCAN may return an element more than once. -/
def scanTwice : List (String × Bool) := [("container:media-1", true), ("container:media-1", true)]

lemma sampleRedis_lookup {key : String} {reg : ContainerRegistration}
    (h : sampleRedis.lookup key = some reg) :
    key = containerKey "media-1" ∧ reg = sampleContainer := by
  rw [sampleRedis, lookup_insert_ite] at h
  split_ifs at h with hkey
  · exact ⟨hkey, (Option.some.inj h).symm⟩
  · simp at h

lemma sampleRedis_written : WrittenByService sampleRedis := by
  intro key reg h
  obtain ⟨rfl, rfl⟩ := sampleRedis_lookup h
  rfl

lemma sampleRedis_complete {scan : List (String × Bool)}
    (h : ("container:media-1", true) ∈ scan) : ScanComplete sampleRedis scan := by
  intro key hkey
  obtain ⟨reg, hreg⟩ := Option.isSome_iff_exists.mp (lookup_isSome.mpr hkey)
  obtain ⟨rfl, -⟩ := sampleRedis_lookup hreg
  exact h

lemma sampleRedis_once : ScanOnce sampleRedis [("container:media-1", true)] := by
  intro key reg hreg _
  obtain ⟨rfl, -⟩ := sampleRedis_lookup hreg
  decide

/-- The name of a container whose key SCAN yields twice is listed twice from the start. -/
theorem scanTwice_not_consistent :
    WrittenByService sampleRedis ∧ ScanComplete sampleRedis scanTwice ∧
      ¬ Consistent (serve 0 sampleRedis scanTwice []) := by
  refine ⟨sampleRedis_written, sampleRedis_complete (by decide), fun h => ?_⟩
  exact absurd (h.nodup .inbound) (by decide)

theorem consistent_serve_iff_sample :
    Consistent (serve 0 sampleRedis [("container:media-1", true)]
      [.toggle "media-1" ⟨some false, none⟩, .unregister "media-1"]) :=
  (consistent_serve_iff sampleRedis_written 0 [("container:media-1", true)]).mpr
    sampleRedis_once _

end LoadBalancer
