import Mathlib
import SipForward.Core.WaterFilling
import SipForward.LoadBalancer.Invariant

/-!
# Routing

Which servers the routing functions select, and how successive calls spread over them. A call of
`FindLowestLoadContainer` places one unit of load on a least loaded server of the IOSL array, so
that successive calls are an instance of water filling.
-/

namespace LoadBalancer

open AList Core

variable {s s' : State} {redis : Redis} {scan : List (String × Bool)} {ops : List Op}
  {d : Direction} {k : ℕ} {ns : List String}

/-- A server that may be handed out for a direction: registered, enabled for it, with a finite
call count. -/
def Eligible (s : State) (d : Direction) (n : String) : Prop :=
  ∃ md c, s.lsml.lookup n = some md ∧ md.enabled d = true ∧
    s.lscs.lookup n = some c ∧ c ≠ maxInt

/-! ### Enablement and health -/

/-- The container `InitiateCallHandler` selects. The order is the one in which the range statement
of `FindContainerByType` visits `LSML`. -/
def selectOutbound (req : InitiateCallRequest) (order : List String) (s : State) :
    Except String ServerMetadata × State :=
  if req.trunkName = "bsnl_bcp" then findContainerByType "india_media3" order s
  else if req.type ≠ "" then findContainerByType req.type order s
  else findLowestLoadContainer .outbound s

/-- The container `GetInboundContactHandler` selects. -/
def selectInbound (s : State) : Except String ServerMetadata × State :=
  findLowestLoadContainer .inbound s

/-- The type a request is routed by, if it does not take the default path. -/
def typeOverride (req : InitiateCallRequest) : Option String :=
  if req.trunkName = "bsnl_bcp" then some "india_media3"
  else if req.type ≠ "" then some req.type
  else none

lemma selectOutbound_override {req : InitiateCallRequest} {type : String}
    (h : typeOverride req = some type) (order : List String) (s : State) :
    selectOutbound req order s = findContainerByType type order s := by
  unfold typeOverride at h
  simp only [selectOutbound]
  split_ifs at h ⊢ <;> cases h <;> rfl

lemma selectOutbound_default {req : InitiateCallRequest} (h : typeOverride req = none)
    (order : List String) (s : State) :
    selectOutbound req order s = findLowestLoadContainer .outbound s := by
  unfold typeOverride at h
  simp only [selectOutbound]
  split_ifs at h ⊢
  rfl

/-- A selection by least load is the `LSML` entry of an eligible server. -/
lemma findLowest_eligible (hs : Consistent s) {md : ServerMetadata}
    (h : (findLowestLoadContainer d s).1 = .ok md) : Eligible s d md.name := by
  rcases findLowest_cases d s with ⟨e, heq⟩ | ⟨n, c, hmem, -, hn, hc, -, hres⟩
  · rw [heq] at h
    cases h
  · rcases hres with ⟨-, e, heq⟩ | ⟨old, hold, heq⟩
    · rw [heq] at h
      cases h
    · rw [heq] at h
      cases h
      obtain ⟨md', hmd', hen⟩ := (hs.listed d n).mp hmem
      have hname : (old.withCalls (c + 1)).name = n := hs.name n old hold
      rw [hname]
      exact ⟨md', c, hmd', hen, hn, hc.ne⟩

/-- A selection by type is registered, matches and is healthy. Its flags are not looked at. -/
lemma findByType_ok (hs : Aligned s) {type : String} {order : List String} {md : ServerMetadata}
    (h : (findContainerByType type order s).1 = .ok md) :
    ∃ old c, s.lsml.lookup md.name = some old ∧ s.lscs.lookup md.name = some c ∧ c ≠ maxInt ∧
      contains md.name type = true := by
  rcases findByType_cases type order s with
    ⟨⟨e, heq⟩, -⟩ | ⟨n, old, c, -, hold, hn, hcont, hc, heq⟩
  · rw [heq] at h
    cases h
  · rw [heq] at h
    cases h
    have hname : (old.withCalls (c + 1)).name = n := hs.name n old hold
    rw [hname]
    exact ⟨old, c, hold, hn, hc, hcont⟩

/-- A healthy match is selected when the range statement visits it first. -/
lemma findByType_first {type n : String} {md : ServerMetadata} {c : Int} {order : List String}
    (hmd : s.lsml.lookup n = some md) (hn : s.lscs.lookup n = some c)
    (hcont : contains n type = true) (hc : c ≠ maxInt) :
    (findContainerByType type (n :: order) s).1 = .ok (md.withCalls (c + 1)) := by
  simp [findContainerByType, hmd, hn, hcont, hc, State.increment_lscs hn]

/-- In every state that can follow a start-up whose SCAN yielded no enabled container's key twice,
an inbound contact is always eligible. An outbound container is eligible, in whatever order the
range statement visits the servers, exactly when the request takes the default path or every
healthy server that matches its type is enabled. -/
theorem routing_eligible_iff (hw : WrittenByService redis) (hscan : ScanOnce redis scan) (now : Int)
    (ops : List Op) :
    (∀ md, (selectInbound (serve now redis scan ops)).1 = .ok md →
      Eligible (serve now redis scan ops) .inbound md.name) ∧
    ∀ req,
      (∀ order, order.Perm (serve now redis scan ops).lsml.keys → ∀ md,
        (selectOutbound req order (serve now redis scan ops)).1 = .ok md →
        Eligible (serve now redis scan ops) .outbound md.name) ↔
      ∀ type ∈ typeOverride req, ∀ n md c, (serve now redis scan ops).lsml.lookup n = some md →
        (serve now redis scan ops).lscs.lookup n = some c → c ≠ maxInt →
        contains n type = true → md.outboundEnabled = true := by
  have hs := consistent_serve hw hscan now ops
  generalize serve now redis scan ops = s at hs ⊢
  refine ⟨fun md h => findLowest_eligible hs h, fun req => ?_⟩
  cases htype : typeOverride req with
  | none =>
    constructor
    · intro _ type h
      cases h
    · intro _ order _ md h
      rw [selectOutbound_default htype] at h
      exact findLowest_eligible hs h
  | some type =>
    constructor
    · rintro h _ ⟨⟩ n md c hmd hn hc hcont
      have hmem : n ∈ s.lsml.keys := mem_keys.mp (mem_of_lookup_eq_some hmd)
      have hsel := h (n :: s.lsml.keys.erase n) (List.perm_cons_erase hmem).symm
        (md.withCalls (c + 1))
      rw [selectOutbound_override htype] at hsel
      obtain ⟨md', _, hmd', hen, -⟩ := hsel (findByType_first hmd hn hcont hc)
      have hname : (md.withCalls (c + 1)).name = n := hs.name n md hmd
      rw [hname, hmd] at hmd'
      obtain rfl := Option.some.inj hmd'
      exact hen
    · intro h order _ md hsel
      rw [selectOutbound_override htype] at hsel
      obtain ⟨old, c, hold, hn, hc, hcont⟩ := findByType_ok hs.toAligned hsel
      exact ⟨old, c, hold, h type rfl _ old c hold hn hc hcont, hn, hc⟩

/-- A health report with no calls. -/
def sampleHealth : HealthData where
  status := "healthy"
  answeredCalls := 0
  currentCalls := 0
  maxCalls := 25
  availableCapacity := 25
  timestamp := 0
  error := ""

/-- A request that names a type. -/
def sampleRequest (type : String) : InitiateCallRequest where
  phoneNumber := "919876543210"
  websocketURL := "wss://agent/voice"
  webhookURL := "https://backend/status"
  trunkName := "trunk-1"
  sampleRate := 8000
  ambientAudio := ""
  type := type

/-- The sample container after a successful probe, switched off for outbound calls. -/
def switchedOff (scan : List (String × Bool)) : State :=
  serve 0 sampleRedis scan
    [.heartbeat 0 [⟨"media-1", .ok sampleHealth⟩], .toggle "media-1" ⟨none, some false⟩]

/-- A request by type gets a container that was switched off for outbound calls. -/
theorem selectOutbound_switchedOff :
    ["media-1"].Perm (switchedOff [("container:media-1", true)]).lsml.keys ∧
    ∃ md, (selectOutbound (sampleRequest "media") ["media-1"]
        (switchedOff [("container:media-1", true)])).1 = .ok md ∧
      ¬ Eligible (switchedOff [("container:media-1", true)]) .outbound md.name := by
  refine ⟨by decide, _, rfl, ?_⟩
  rintro ⟨md, c, hmd, hen, -⟩
  obtain rfl := Option.some.inj hmd
  exact Bool.false_ne_true hen

theorem routing_eligible_iff_sample :
    ∃ md, (selectInbound (serve 0 sampleRedis [("container:media-1", true)]
        [.heartbeat 0 [⟨"media-1", .ok sampleHealth⟩]])).1 = .ok md ∧
      Eligible (serve 0 sampleRedis [("container:media-1", true)]
        [.heartbeat 0 [⟨"media-1", .ok sampleHealth⟩]]) .inbound md.name :=
  ⟨_, rfl, (routing_eligible_iff sampleRedis_written sampleRedis_once 0
    [.heartbeat 0 [⟨"media-1", .ok sampleHealth⟩]]).1 _ rfl⟩

/-! ### Successive calls -/

/-- The call count of a server. -/
def State.count (s : State) (n : String) : ℤ := (s.lscs.lookup n).getD 0

/-- `k` successive successful calls of `FindLowestLoadContainer`: the servers selected, and the
state after the last call. -/
def routeCalls (d : Direction) : ℕ → State → Option (List String × State)
  | 0, s => some ([], s)
  | k + 1, s =>
    match findLowestLoadContainer d s with
    | (.error _, _) => none
    | (.ok md, s')  => (routeCalls d k s').map fun r => (md.name :: r.1, r.2)

/-- A way of placing `k` calls on eligible servers. -/
structure Assignment (s : State) (d : Direction) (k : ℕ) where
  calls : String →₀ ℕ
  eligible : ∀ n ∈ calls.support, Eligible s d n
  total : calls.sum (fun _ => id) = k

/-- The largest final count among the servers that received a call. -/
def Assignment.peak (a : Assignment s d k) : WithBot ℤ :=
  a.calls.support.sup fun n => ((s.count n + a.calls n : ℤ) : WithBot ℤ)

/-- What `k` successive calls that went to the servers `ns` and ended in `s'` have done to the
counts. -/
structure Balanced (s : State) (d : Direction) (k : ℕ) (ns : List String) (s' : State) :
    Prop where
  total : AList.total id s'.lscs = AList.total id s.lscs + k
  grown : ∀ n, s'.lscs.lookup n ≠ s.lscs.lookup n → s.count n < s'.count n ∧ Eligible s d n
  level : ∀ n ∈ ns, ∀ m, Eligible s d m → s'.count n ≤ s'.count m + 1
  optimal : ∃ a : Assignment s d k, (∀ n, a.calls n = ns.count n) ∧
    (∀ n, s'.count n = s.count n + a.calls n) ∧ ∀ b : Assignment s d k, a.peak ≤ b.peak

lemma State.count_of_lookup {n : String} {c : Int} (h : s.lscs.lookup n = some c) :
    s.count n = c := by
  simp [State.count, h]

lemma State.count_increment (s : State) (n : String) :
    (s.increment n).count = Function.update s.count n (s.count n + 1) := by
  funext m
  by_cases h : m = n
  · subst h
    simp [State.count, State.increment]
  · simp [State.count, State.increment, lookup_insert_ne h, Function.update_of_ne h]

lemma Eligible.of_increment {n m : String} {c : Int} (hn : s.lscs.lookup n = some c)
    (hc : c ≠ maxInt) (h : Eligible (s.increment n) d m) : Eligible s d m := by
  obtain ⟨md, c', hmd, hen, hm, hc'⟩ := h
  rw [State.increment_lscs hn] at hm
  split_ifs at hm with hmn
  · subst hmn
    exact ⟨md, c, hmd, hen, hn, hc⟩
  · exact ⟨md, c', hmd, hen, hm, hc'⟩

/-- A contender of `FindLowestLoadContainer`. -/
def Contender (s : State) (d : Direction) (n : String) : Prop :=
  n ∈ s.servers d ∧ n ∈ s.lscs

lemma Eligible.contender (hs : Consistent s) {n : String} (h : Eligible s d n) :
    Contender s d n := by
  obtain ⟨md, c, hmd, hen, hn, -⟩ := h
  exact ⟨(hs.listed d n).mpr ⟨md, hmd, hen⟩, mem_of_lookup_eq_some hn⟩

/-- A successful call selects and increments a contender of least count. -/
lemma findLowest_ok (hs : Aligned s) {md : ServerMetadata}
    (h : findLowestLoadContainer d s = (.ok md, s')) :
    ∃ c, s.lscs.lookup md.name = some c ∧ c < maxInt ∧ Contender s d md.name ∧
      (∀ m, Contender s d m → s.count md.name ≤ s.count m) ∧ s' = s.increment md.name := by
  rcases findLowest_cases d s with ⟨e, heq⟩ | ⟨n, c, hmem, -, hn, hc, hmin, hres⟩
  · rw [heq] at h
    cases h
  · rcases hres with ⟨-, e, heq⟩ | ⟨old, hold, heq⟩
    · rw [heq] at h
      cases h
    · rw [heq] at h
      cases h
      have hname : (old.withCalls (c + 1)).name = n := hs.name n old hold
      rw [hname]
      refine ⟨c, hn, hc, ⟨hmem, mem_of_lookup_eq_some hn⟩, ?_, rfl⟩
      rintro m ⟨hm, hlscs⟩
      obtain ⟨c', hc'⟩ := Option.isSome_iff_exists.mp (lookup_isSome.mpr hlscs)
      rw [State.count_of_lookup hn, State.count_of_lookup hc']
      exact hmin m hm c' hc'

lemma contender_increment {n : String} {c : Int} (hn : s.lscs.lookup n = some c) :
    Contender (s.increment n) d = Contender s d := by
  funext m
  simp only [Contender]
  rw [State.increment_servers, ← lookup_isSome, ← lookup_isSome, State.increment_lscs hn]
  split_ifs with hm
  · rw [hm, hn]
    rfl
  · rfl

/-- Successive calls are a run of water filling over the contenders. -/
lemma routeCalls_fill (hs : Aligned s) (h : routeCalls d k s = some (ns, s')) :
    Fill (Contender s d) s.count ns s'.count ∧ ns.length = k := by
  induction k generalizing s ns with
  | zero =>
    cases h
    exact ⟨.nil _, rfl⟩
  | succ k ih =>
    unfold routeCalls at h
    split at h
    · cases h
    · next md s₁ hcall =>
      obtain ⟨⟨ns', s₂⟩, hrest, heq⟩ := Option.map_eq_some_iff.mp h
      cases heq
      obtain ⟨c, hn, -, hcont, hmin, rfl⟩ := findLowest_ok hs hcall
      obtain ⟨hfill, hlen⟩ := ih (hs.increment hn) hrest
      rw [contender_increment hn, State.count_increment] at hfill
      exact ⟨.cons hcont hmin hfill, by simp [hlen]⟩

/-- What else a run of calls leaves behind: the sum of the counts, and which counts may differ. -/
lemma routeCalls_lscs (hs : Consistent s) (h : routeCalls d k s = some (ns, s')) :
    AList.total id s'.lscs = AList.total id s.lscs + k ∧ (∀ n ∈ ns, Eligible s d n) ∧
      ∀ n, n ∉ ns → s'.lscs.lookup n = s.lscs.lookup n := by
  induction k generalizing s ns with
  | zero =>
    cases h
    simp
  | succ k ih =>
    unfold routeCalls at h
    split at h
    · cases h
    · next md s₁ hcall =>
      obtain ⟨⟨ns', s₂⟩, hrest, heq⟩ := Option.map_eq_some_iff.mp h
      cases heq
      obtain ⟨c, hn, hc, -, -, rfl⟩ := findLowest_ok hs.toAligned hcall
      obtain ⟨htotal, helig, hsame⟩ := ih (hs.increment hn) hrest
      have hsel : Eligible s d md.name := findLowest_eligible hs (by rw [hcall])
      refine ⟨?_, ?_, ?_⟩
      · rw [htotal, State.increment, hn, total_insert_of_lookup hn]
        simp
        ring
      · intro n hmem
        rcases List.mem_cons.mp hmem with rfl | hmem
        · exact hsel
        · exact (helig n hmem).of_increment hn hc.ne
      · intro n hmem
        obtain ⟨hne, hmem⟩ := not_or.mp (mt List.mem_cons.mpr hmem)
        rw [hsame n hmem, State.increment_lscs hn, if_neg hne]

lemma routeCalls_balanced (hs : Consistent s) (h : routeCalls d k s = some (ns, s')) :
    Balanced s d k ns s' := by
  obtain ⟨hfill, hlen⟩ := routeCalls_fill hs.toAligned h
  obtain ⟨htotal, helig, hsame⟩ := routeCalls_lscs hs h
  refine ⟨htotal, ?_, ?_, ?_⟩
  · intro n hn
    have hmem : n ∈ ns := by
      by_contra hmem
      exact hn (hsame n hmem)
    have hpos := List.count_pos_iff.mpr hmem
    have hload := hfill.load n
    exact ⟨by omega, helig n hmem⟩
  · intro n hn m hm
    exact hfill.level hn (hm.contender hs)
  · let a : Assignment s d k :=
      { calls := Multiset.toFinsupp (ns : Multiset String)
        eligible := by
          intro n hn
          rw [Multiset.toFinsupp_support, Multiset.mem_toFinset, Multiset.mem_coe] at hn
          exact helig n hn
        total := by rw [Multiset.toFinsupp_sum_eq, Multiset.coe_card, hlen] }
    have hcalls : ∀ n, a.calls n = ns.count n := by
      intro n
      rw [Multiset.toFinsupp_apply, Multiset.coe_count]
    refine ⟨a, hcalls, fun n => by rw [hcalls, hfill.load n], fun b => ?_⟩
    apply Finset.sup_le
    intro n hn
    have hmem : n ∈ ns := by
      rw [Multiset.toFinsupp_support, Multiset.mem_toFinset, Multiset.mem_coe] at hn
      exact hn
    obtain ⟨m, hm, hle⟩ := hfill.optimal (f := b.calls) (T := b.calls.support)
      (fun i hi => (b.eligible i hi).contender hs)
      (fun i hi => Finsupp.mem_support_iff.mpr hi.ne') (b.total.trans hlen.symm) hmem
    have hle' : s.count n + a.calls n ≤ s.count m + b.calls m := by
      rw [hcalls, ← hfill.load n]
      exact hle
    exact (WithBot.coe_le_coe.mpr hle').trans
      (Finset.le_sup (f := fun n => ((s.count n + b.calls n : ℤ) : WithBot ℤ))
        (Finsupp.mem_support_iff.mpr hm.ne'))

/-- In every state that can follow a start-up whose SCAN yielded no enabled container's key twice,
any number of successive calls for a direction go to eligible servers, level their counts and keep
the largest count among the servers used as small as any placement of the calls can. -/
theorem routeCalls_serve_balanced (hw : WrittenByService redis) (hscan : ScanOnce redis scan)
    (now : Int) (ops : List Op) (d : Direction) (k : ℕ) (ns : List String) (s' : State)
    (h : routeCalls d k (serve now redis scan ops) = some (ns, s')) :
    Balanced (serve now redis scan ops) d k ns s' :=
  routeCalls_balanced (consistent_serve hw hscan now ops) h

/-- After a start-up that listed a container twice, switching it off removes one of the two entries
and the next call still goes to it. -/
theorem routeCalls_scanTwice :
    ∃ s', routeCalls .outbound 1 (switchedOff scanTwice) = some (["media-1"], s') ∧
      ¬ Balanced (switchedOff scanTwice) .outbound 1 ["media-1"] s' := by
  refine ⟨_, rfl, fun h => ?_⟩
  obtain ⟨-, md, c, hmd, hen, -⟩ := h.grown "media-1" (by decide)
  obtain rfl := Option.some.inj hmd
  exact Bool.false_ne_true hen

theorem routeCalls_serve_balanced_sample :
    ∃ s', Balanced (serve 0 sampleRedis [("container:media-1", true)]
      [.heartbeat 0 [⟨"media-1", .ok sampleHealth⟩]]) .inbound 2 ["media-1", "media-1"] s' :=
  ⟨_, routeCalls_serve_balanced sampleRedis_written sampleRedis_once 0
    [.heartbeat 0 [⟨"media-1", .ok sampleHealth⟩]] .inbound 2 ["media-1", "media-1"] _ rfl⟩

end LoadBalancer
