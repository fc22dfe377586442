import SipForward.LoadBalancer.Agreement

/-!
# What `FindLowestLoadContainer` selects

The function marks 'none found' by the empty name, and it increments a count before it looks the
server up in `LSML`. Both are harmless because of what the handlers keep up over all lives of the
service, restarts included: a record without a name is never enabled, and `LSML` and `LSCS` have
the same keys.
-/

namespace LoadBalancer

open AList Core

/-! ### Lives of the service -/

/-- A step of the service, or a restart: memory is built from Redis again, and the handlers that
were running are gone. -/
inductive LifeEvent where
  | step (e : Event)
  | restart (now : Int) (scan : List (String × Bool))

def lifeStep (w : World) : LifeEvent → Option World
  | .step e           => step w e
  | .restart now scan => some (World.start now w.redis scan)

/-- A service that was never started, with an empty Redis. -/
def World.blank : World := .idle .empty ∅

variable {w w' : World} {s : State} {h : Handler} {redis redis' : Redis} {reply : Reply}
  {next : Option Handler} {d : Direction}

/-! ### The empty name -/

/-- A record without a name is off in both directions. -/
def ContainerRegistration.Named (reg : ContainerRegistration) : Prop :=
  reg.name = "" → ∀ d, reg.enabled d = false

/-- The records are stored under the keys of their names, and those without a name are off. -/
def Redis.Named (redis : Redis) : Prop :=
  ∀ key reg, redis.lookup key = some reg → key = containerKey reg.name ∧ reg.Named

/-- What a handler writes next has a name or is off; a toggle has a name. -/
def Handler.Named : Handler → Prop
  | .registerGet _          => True
  | .registerSet reg        => reg.Named
  | .registerServer reg     => reg.Named
  | .unregisterDel _        => True
  | .unregisterServer _     => True
  | .toggleGet name _       => name ≠ ""
  | .toggleSet name _ reg   => name ≠ "" ∧ reg.name = name
  | .toggleServer name _    => name ≠ ""

/-- The invariant of all lives: the empty name is not listed, and nothing can list it. -/
structure World.Named (w : World) : Prop where
  aligned : Aligned w.mem
  stored : w.redis.Named
  drafts : ∀ id h, w.handlers.lookup id = some h → h.Named
  unlisted : ∀ d, "" ∉ w.mem.servers d

lemma Redis.Named.written (hr : redis.Named) : WrittenByService redis :=
  fun key reg h => (hr key reg h).1

lemma Redis.Named.set (hr : redis.Named) {reg : ContainerRegistration} (hreg : reg.Named) :
    (redis.set reg.name reg).Named := by
  intro key reg' h
  rw [Redis.set, lookup_insert_ite] at h
  split_ifs at h with hkey
  · cases h
    exact ⟨hkey, hreg⟩
  · exact hr key reg' h

lemma Redis.Named.del (hr : redis.Named) (name : String) : (redis.del name).Named := by
  intro key reg h
  rw [Redis.del, lookup_erase_ite] at h
  split_ifs at h
  exact hr key reg h

lemma ContainerRegisterRequest.build_enabled (req : ContainerRegisterRequest)
    (existing : Option ContainerRegistration) (d : Direction) :
    (req.build existing).enabled d = existing.any (·.enabled d) := by
  cases d <;> rfl

/-- A registration takes over the flags of the stored record, so that without a name it is off. -/
lemma Redis.Named.build (hr : redis.Named) (req : ContainerRegisterRequest) (reply : Reply) :
    (req.build (if reply = .ok then redis.lookup (containerKey req.name) else none)).Named := by
  intro hname d
  rw [ContainerRegisterRequest.build_enabled]
  split_ifs
  · cases hreg : redis.lookup (containerKey req.name) with
    | none => rfl
    | some reg =>
      obtain ⟨hkey, hnamed⟩ := hr _ reg hreg
      have hempty : reg.name = "" := (containerKey_inj.mp hkey).symm.trans hname
      exact hnamed hempty d
  · rfl

lemma Request.start_named {r : Request} (hr : r.start = some h) : h.Named := by
  cases r with
  | register req =>
    cases hr
    trivial
  | unregister name =>
    simp only [Request.start] at hr
    split_ifs at hr
    cases hr
    trivial
  | toggle name req =>
    simp only [Request.start] at hr
    split_ifs at hr with hname
    cases hr
    exact hname

lemma Handler.Command.named (hc : h.Command redis reply redis' next) (hr : redis.Named)
    (hh : h.Named) : redis'.Named ∧ ∀ k ∈ next, k.Named := by
  cases hc with
  | registerGet hex =>
    subst hex
    refine ⟨hr, ?_⟩
    rintro k ⟨⟩
    exact hr.build _ reply
  | registerSet =>
    refine ⟨hr.set hh, ?_⟩
    rintro k ⟨⟩
    exact hh
  | registerFailed | unregisterRefused | toggleRefused => exact ⟨hr, by simp⟩
  | registerLost => exact ⟨hr.set hh, by simp⟩
  | unregisterDel =>
    refine ⟨hr.del _, ?_⟩
    rintro k ⟨⟩
    trivial
  | unregisterLost => exact ⟨hr.del _, by simp⟩
  | toggleGet hreg =>
    refine ⟨hr, ?_⟩
    rintro k ⟨⟩
    exact ⟨hh, (containerKey_inj.mp (hr _ _ hreg).1).symm⟩
  | @toggleSet reply name req reg =>
    obtain ⟨hname, rfl⟩ := hh
    refine ⟨hr.set fun hempty => absurd hempty hname, ?_⟩
    rintro k ⟨⟩
    exact hname
  | toggleFailed =>
    refine ⟨hr, ?_⟩
    rintro k ⟨⟩
    exact hh.1

/-- Routing and the heartbeat leave the IOSL arrays alone. -/
lemma background_servers {op : Op} (hop : op.isBackground = true) (s : State) (d : Direction) :
    (op.apply s).servers d = s.servers d := by
  cases op with
  | register | unregister | toggle => cases hop
  | findLowest d' =>
    rcases findLowest_state d' s with heq | ⟨n, c, -, -, heq⟩ <;> rw [Op.apply, heq]
    exact s.increment_servers n d
  | findByType type order =>
    rcases findByType_state type order s with heq | ⟨n, c, -, -, heq⟩ <;> rw [Op.apply, heq]
    exact s.increment_servers n d
  | heartbeat now results =>
    have hresult : ∀ (s' : State) (r : HealthResult), (applyResult now s' r).servers d =
        s'.servers d := by
      intro s' r
      cases hmd : s'.lsml.lookup r.name with
      | none => rw [applyResult_none hmd]
      | some md =>
        rw [applyResult_some hmd]
        cases d <;> rfl
    refine List.foldlRecOn (motive := fun s' : State => s'.servers d = s.servers d) results _ rfl
      fun s' hs r _ => ?_
    rw [hresult, hs]

/-- An update that is about another name, or switches its own off, does not list the empty name. -/
lemma not_mem_updateServers {l : List String} (hl : "" ∉ l) {name : String} {e : Bool}
    (h : name = "" → e = false) : "" ∉ updateServers l name e := by
  by_cases hname : name = ""
  · rw [h hname, updateServers_false]
    exact fun hmem => hl (List.mem_of_mem_erase hmem)
  · rwa [mem_updateServers_of_ne l e (Ne.symm hname)]

lemma Handler.Named.unlisted (hh : h.Named) {now : Int} {op : Op} (hu : h.update now = some op)
    (hs : ∀ d, "" ∉ s.servers d) (d : Direction) : "" ∉ (op.apply s).servers d := by
  cases h with
  | registerServer reg =>
    cases hu
    rw [Op.apply, registerServer_servers]
    exact not_mem_updateServers (hs d) fun hname => hh hname d
  | unregisterServer name =>
    cases hu
    rw [Op.apply, unregisterServer_servers]
    exact not_mem_updateServers (hs d) fun _ => rfl
  | toggleServer name req =>
    cases hu
    rw [Op.apply]
    cases hmd : s.lsml.lookup name with
    | none =>
      rw [toggleServer_none req hmd]
      exact hs d
    | some md =>
      rw [toggleServer_servers req hmd]
      exact not_mem_updateServers (hs d) fun hname => absurd hname hh
  | registerGet | registerSet | unregisterDel | toggleGet | toggleSet => cases hu

/-- A start-up lists no name that is off. -/
lemma Redis.Named.init_unlisted (hr : redis.Named) (now : Int) (scan : List (String × Bool))
    (d : Direction) : "" ∉ (initServerArrays now redis scan).servers d := by
  rw [init_servers, List.mem_map]
  rintro ⟨reg, hreg, hname⟩
  rw [List.mem_filter, mem_readKeys hr.written] at hreg
  obtain ⟨⟨-, hlookup⟩, henabled⟩ := hreg
  rw [(hr _ reg hlookup).2 hname d] at henabled
  cases henabled

lemma Redis.Named.start (hr : redis.Named) (now : Int) (scan : List (String × Bool)) :
    (World.start now redis scan).Named where
  aligned := init_aligned hr.written now
  stored := hr
  drafts id h hid := by cases hid
  unlisted := hr.init_unlisted now scan

lemma World.Named.blank : World.blank.Named where
  aligned := by
    have hempty : WrittenByService (∅ : Redis) := fun key reg h => by cases h
    show Aligned (initServerArrays 0 ∅ [])
    exact init_aligned hempty 0
  stored key reg h := by cases h
  drafts id h hid := by cases hid
  unlisted d := by cases d <;> exact List.not_mem_nil

/-- The handlers after one of them has taken a step. -/
lemma World.Named.advance (hw : w.Named) (id : ℕ) (hnext : ∀ k ∈ next, k.Named) (j : ℕ)
    (k : Handler) (hk : (LoadBalancer.advance w.handlers id next).lookup j = some k) :
    k.Named := by
  rw [lookup_advance] at hk
  split_ifs at hk
  · exact hnext k hk
  · exact hw.drafts j k hk

lemma World.Named.step (hw : w.Named) {e : Event} (he : LoadBalancer.step w e = some w') :
    w'.Named := by
  have haligned := step_aligned hw.aligned he
  cases step_spec he with
  | request hid =>
    exact ⟨haligned, hw.stored, hw.advance _ fun k hk => Request.start_named hk, hw.unlisted⟩
  | command hid hc =>
    obtain ⟨hstored, hnext⟩ := hc.named hw.stored (hw.drafts _ _ hid)
    exact ⟨haligned, hstored, hw.advance _ hnext, hw.unlisted⟩
  | update hid hu =>
    exact ⟨haligned, hw.stored, hw.advance _ (by simp),
      (hw.drafts _ _ hid).unlisted hu hw.unlisted⟩
  | background hop =>
    refine ⟨haligned, hw.stored, hw.drafts, fun d => ?_⟩
    rw [background_servers hop]
    exact hw.unlisted d

lemma World.Named.life {e : LifeEvent} (hw : w.Named) (he : lifeStep w e = some w') :
    w'.Named := by
  cases e with
  | step e => exact hw.step he
  | restart now scan =>
    cases he
    exact hw.stored.start now scan

lemma named_of_life {es : List LifeEvent} (hr : run lifeStep .blank es = some w) : w.Named :=
  run_invariant' (I := World.Named) (fun _ _ _ hw he => hw.life he) .blank hr

/-! ### Selection -/

/-- The first name in the array of a direction among those with the least count, which is finite. -/
structure Lowest (s : State) (d : Direction) (n : String) (c : Int) : Prop where
  count : s.lscs.lookup n = some c
  finite : c < maxInt
  first : ∃ before after, s.servers d = before ++ n :: after ∧
    (∀ m ∈ before, ∀ c' ∈ s.lscs.lookup m, c < c') ∧
    ∀ m ∈ after, ∀ c' ∈ s.lscs.lookup m, c ≤ c'

lemma Lowest.mem {n : String} {c : Int} (hl : Lowest s d n c) : n ∈ s.servers d := by
  obtain ⟨before, after, hservers, -⟩ := hl.first
  simp [hservers]

lemma findLowest_nil (h : s.servers d = []) :
    findLowestLoadContainer d s = (.error "no available containers", s) := by
  simp [findLowestLoadContainer, h]

lemma findLowest_unhealthy (h : s.servers d ≠ [])
    (hscan : scanLowest s.lscs (s.servers d) "" maxInt = ("", maxInt)) :
    findLowestLoadContainer d s = (.error "no healthy containers available", s) := by
  simp [findLowestLoadContainer, h, hscan]

lemma findLowest_found {n : String} {c : Int} {md : ServerMetadata} (hname : n ≠ "")
    (hmem : n ∈ s.servers d) (hc : s.lscs.lookup n = some c) (hfinite : c < maxInt)
    (hscan : scanLowest s.lscs (s.servers d) "" maxInt = (n, c))
    (hmd : s.lsml.lookup n = some md) :
    findLowestLoadContainer d s = (.ok (md.withCalls (c + 1)), s.increment n) := by
  have hne : s.servers d ≠ [] := List.ne_nil_of_mem hmem
  have hnone : ¬(n = "" ∨ c = maxInt) := not_or.mpr ⟨hname, hfinite.ne⟩
  simp only [findLowestLoadContainer, hne, if_false]
  rw [hscan]
  dsimp only
  rw [if_neg hnone, hmd]
  simp [State.increment_lscs hc]

/-- Either no listed name has a finite count and nothing changes, or the first of least count is
selected and its entry is found. -/
lemma findLowest_spec (ha : Aligned s) (hunlisted : "" ∉ s.servers d) :
    (∃ err ∈ ["no available containers", "no healthy containers available"],
      findLowestLoadContainer d s = (.error err, s) ∧
      ∀ n ∈ s.servers d, ∀ c ∈ s.lscs.lookup n, maxInt ≤ c) ∨
    ∃ n c md, Lowest s d n c ∧ s.lsml.lookup n = some md ∧
      findLowestLoadContainer d s = (.ok (md.withCalls (c + 1)), s.increment n) := by
  by_cases hnil : s.servers d = []
  · exact Or.inl ⟨_, by simp, findLowest_nil hnil, by simp [hnil]⟩
  · rcases scanLowest_spec s.lscs (s.servers d) "" maxInt with
      ⟨hscan, hall⟩ | ⟨before, n, after, c, hservers, hscan, hc, hfinite, hbefore, hafter⟩
    · exact Or.inl ⟨_, by simp, findLowest_unhealthy hnil hscan, hall⟩
    · have hlowest : Lowest s d n c :=
        ⟨hc, hfinite, before, after, hservers, hbefore, hafter⟩
      have hname : n ≠ "" := by
        rintro rfl
        exact hunlisted hlowest.mem
      have hlsml : n ∈ s.lsml := (ha.keys n).mpr (mem_of_lookup_eq_some hc)
      obtain ⟨md, hmd⟩ := Option.isSome_iff_exists.mp (lookup_isSome.mpr hlsml)
      exact Or.inr ⟨n, c, md, hlowest, hmd,
        findLowest_found hname hlowest.mem hc hfinite hscan hmd⟩

lemma Lowest.not_exhausted {n : String} {c : Int} (hl : Lowest s d n c) :
    ¬∀ m ∈ s.servers d, ∀ c' ∈ s.lscs.lookup m, maxInt ≤ c' := by
  intro hall
  exact absurd (hall n hl.mem c hl.count) (not_le.mpr hl.finite)

/-- In every state that the service can reach, `FindLowestLoadContainer` fails if and only if no
listed name has a finite count. It then changes nothing, and its error is not that of a server
missing from `LSML`. Otherwise it returns the entry of the first listed name of least count, with
the count that it has raised by one, and changes nothing else. -/
theorem findLowest_selects {es : List LifeEvent} (hr : run lifeStep .blank es = some w)
    (d : Direction) :
    ((∃ err, (findLowestLoadContainer d w.mem).1 = .error err) ↔
      ∀ n ∈ w.mem.servers d, ∀ c ∈ w.mem.lscs.lookup n, ¬c < maxInt) ∧
    (∀ err s', findLowestLoadContainer d w.mem = (.error err, s') →
      s' = w.mem ∧ ∀ n, err ≠ "server " ++ n ++ " missing from LSML") ∧
    ∀ md s', findLowestLoadContainer d w.mem = (.ok md, s') →
      ∃ n c old, Lowest w.mem d n c ∧ w.mem.lsml.lookup n = some old ∧
        md = old.withCalls (c + 1) ∧ s'.lsml = w.mem.lsml ∧
        (∀ d', s'.servers d' = w.mem.servers d') ∧
        ∀ m, s'.lscs.lookup m = if m = n then some (c + 1) else w.mem.lscs.lookup m := by
  have hw := named_of_life hr
  simp only [not_lt]
  rcases findLowest_spec hw.aligned (hw.unlisted d) with
    ⟨err, herr, hres, hall⟩ | ⟨n, c, old, hlowest, hold, hres⟩
  · rw [hres]
    refine ⟨iff_of_true ⟨err, rfl⟩ hall, ?_, fun md s' h => by cases h⟩
    rintro _ _ ⟨⟩
    refine ⟨rfl, fun n hn => ?_⟩
    have hlist := congrArg String.toList hn
    rcases List.mem_pair.mp herr with rfl | rfl <;> simp at hlist
  · rw [hres]
    refine ⟨iff_of_false ?_ hlowest.not_exhausted, ?_, ?_⟩
    · rintro ⟨err, h⟩
      cases h
    · rintro err s' h
      cases h
    · rintro _ _ ⟨⟩
      exact ⟨n, c, old, hlowest, hold, rfl, rfl, State.increment_servers _ _,
        State.increment_lscs hlowest.count⟩

/-- The sample container registers, is switched on and found healthy after a restart. -/
def sampleLife : List LifeEvent :=
  [.step (.request 0 (.register ⟨"media-1", "203.0.113.5", 8086, "media", "sip:media@1:5060"⟩)),
    .step (.command 0 .ok), .step (.command 0 .ok), .step (.update 0 0),
    .step (.request 1 (.toggle "media-1" ⟨some true, some true⟩)), .step (.command 1 .ok),
    .step (.command 1 .ok), .step (.update 1 0), .restart 0 [("container:media-1", true)],
    .step (.background (.heartbeat 0 [⟨"media-1", .ok (getDefaultHealth 0)⟩]))]

theorem findLowest_selects_sample :
    ∃ w, run lifeStep .blank sampleLife = some w ∧ ∃ n c, Lowest w.mem .inbound n c := by
  obtain ⟨w, hr⟩ : ∃ w, run lifeStep .blank sampleLife = some w := ⟨_, rfl⟩
  refine ⟨w, hr, ?_⟩
  have hok : ∃ md s', findLowestLoadContainer .inbound w.mem = (.ok md, s') := by
    cases hr
    exact ⟨_, _, rfl⟩
  obtain ⟨md, s', hres⟩ := hok
  obtain ⟨n, c, old, hlowest, -⟩ := (findLowest_selects hr .inbound).2.2 md s' hres
  exact ⟨n, c, hlowest⟩

end LoadBalancer
