import SipForward.MediaServer.CallRequests
import SipForward.System.Address
import SipForward.System.Records

/-!
# The registration of a container

From the SIP registration of a media server to what the load balancer keeps of it. While no other
handler of the container takes a step, the record that the settings of the media server give ends up
in memory and, as a text, in Redis, whatever the handlers of other containers, the routing and the
heartbeat do in between; a restart finds it there.
-/

namespace MediaServer

open Core CallRequests

variable {raw : RawEnv} {body : Text}

/-! ### The request of the media server -/

/-- `LoadBalancer::getLocalIP`, with bytes that are not UTF-8. -/
def localIPText (raw : RawEnv) : Text :=
  match raw "PUBLIC_IP" with
  | some ip => if ip ≠ [] then ip else Text.ofString "127.0.0.1"
  | none    => Text.ofString "127.0.0.1"

/-- `LoadBalancer::extractContactFromSipResponse`. -/
def contactText (raw : RawEnv) : Text :=
  let sipClientName := (raw "SIP_USERNAME").getD (Text.ofString "pjsip_client")
  let sipPort := (raw "SIP_PORT").getD (Text.ofString "5060")
  Text.ofString "sip:" ++ sipClientName ++ Text.ofString "@" ++ localIPText raw ++
    Text.ofString ":" ++ sipPort ++ Text.ofString ";ob"

/-- The payload of `LoadBalancer::notifyLoadBalancerWithResponse`; an `nlohmann::json` object keeps
its members in the order of their names. -/
def notifyMembers (raw : RawEnv) : List Member :=
  let sipClientName := (raw "SIP_USERNAME").getD (Text.ofString "pjsip_client")
  let httpPort := (raw "HTTP_PORT").getD (Text.ofString "8086")
  let publicIP := (raw "PUBLIC_IP").getD (Text.ofString "34.21.21.165")
  let contactURI := contactText raw
  [(Text.ofString "aor", .string sipClientName),
    (Text.ofString "contact_uri", .string
      (if contactURI = [] then
        Text.ofString "sip:" ++ sipClientName ++ Text.ofString "@" ++ publicIP ++
          Text.ofString ":" ++ httpPort
      else contactURI)),
    (Text.ofString "host", .string publicIP),
    (Text.ofString "name", .string
      (sipClientName ++ Text.ofString "-" ++ publicIP ++ Text.ofString "-" ++ httpPort)),
    (Text.ofString "port", .number (.integer (atoi httpPort.decode)))]

/-- The body that is posted to `/register-container`; `dump` throws on a malformed byte, and
nothing is sent. -/
def notifyBody (raw : RawEnv) : Option Text :=
  let payload := Json.object (notifyMembers raw)
  if payload.writable then some (JsonText.Encoder.nlohmann.value payload) else none

/-- `MyAccount::onRegState`: what is posted, if anything. `info` is the flag `regIsActive` of
`getInfo()`, `none` when that throws. -/
def onRegState (raw : RawEnv) (code : Int) (info : Option Bool) (wholeMsg : Text) : Option Text :=
  if code = 0 then none
  else info.bind fun regIsActive =>
    if regIsActive = false ∧ code ≠ 200 then none
    else if regIsActive then
      if code = 200 ∧ wholeMsg ≠ [] then notifyBody raw else none
    else none

/-! ### The payload arrives -/

lemma decode_append (s t : Text) : (s ++ t).decode = s.decode ++ t.decode := by
  simp [Text.decode, List.map_append, String.ofList_append]

lemma ofString_decode {s : Text} (h : s.wellFormed = true) : Text.ofString s.decode = s := by
  obtain ⟨l, rfl⟩ := JsonText.exists_map_some h
  simp [Text.ofString, Text.decode]

lemma decode_eq_empty {s : Text} : s.decode = "" ↔ s = [] := by
  constructor
  · intro h
    have hlist := congrArg String.toList h
    simpa [Text.decode] using hlist
  · rintro rfl
    rfl

lemma decode_getD (raw : RawEnv) (name default : String) :
    ((raw name).getD (Text.ofString default)).decode = (raw.env name).getD default := by
  rw [RawEnv.env]
  cases raw name with
  | none => exact Text.decode_ofString default
  | some value => rfl

lemma decode_localIPText (raw : RawEnv) : (localIPText raw).decode = getLocalIP raw.env := by
  rw [localIPText, getLocalIP, RawEnv.env]
  cases raw "PUBLIC_IP" with
  | none => exact Text.decode_ofString _
  | some ip =>
    simp only [Option.map_some, ne_eq, decode_eq_empty]
    split_ifs
    · exact Text.decode_ofString _
    · rfl

lemma decode_contactText (raw : RawEnv) :
    (contactText raw).decode = extractContactFromSipResponse raw.env := by
  simp only [contactText, extractContactFromSipResponse, decode_append, decode_getD,
    decode_localIPText, Text.decode_ofString]

end MediaServer

namespace LoadBalancer

open Core AList
open MediaServer (notifyMembers notifyBody notifyPayload IsInt64)
open MediaServer.CallRequests (RawEnv)

variable {raw : RawEnv} {body : Text}

lemma string_member {s : Text} {x : String} (h : s.decode = x) (hs : s.wellFormed = true) :
    Json.string s = .string (Text.ofString x) := by
  rw [← h, MediaServer.ofString_decode hs]

/-- The members of the payload are the fields of the request. -/
lemma notifyMembers_eq (h : (Json.object (notifyMembers raw)).writable = true) :
    ∃ l : List (StructField ContainerRegisterRequest),
      (∀ f ∈ l, f ∈ containerRegisterRequest.fields) ∧
      notifyMembers raw = l.map (·.member (notifyPayload raw.env)) ∧
      l.foldl (fun t f => f.copy (notifyPayload raw.env) t) containerRegisterRequest.zero =
        notifyPayload raw.env := by
  simp only [notifyMembers, Json.writable, Json.writableMembers, Bool.and_eq_true,
    Text.wellFormed_ofString, true_and, and_true] at h
  obtain ⟨haor, hcontact, hhost, hname⟩ := h
  refine ⟨[.string "aor" (·.aor) fun x req => { req with aor := x },
    .string "contact_uri" (·.contactURI) fun x req => { req with contactURI := x },
    .string "host" (·.host) fun x req => { req with host := x },
    .string "name" (·.name) fun x req => { req with name := x },
    .int "port" (·.port) fun x req => { req with port := x }], ?_, ?_, rfl⟩
  · simp [containerRegisterRequest]
  · simp only [notifyMembers, List.map_cons, List.map_nil, StructField.member, StructField.tag,
      StructField.encode]
    rw [string_member (MediaServer.decode_getD _ _ _) haor, string_member ?_ hcontact,
      string_member (MediaServer.decode_getD _ _ _) hhost, string_member ?_ hname,
      MediaServer.decode_getD]
    · rfl
    · simp only [MediaServer.decode_append, MediaServer.decode_getD, Text.decode_ofString]
      rfl
    · rw [apply_ite Text.decode, MediaServer.decode_contactText]
      simp only [← MediaServer.decode_eq_empty, MediaServer.decode_contactText,
        MediaServer.decode_append, MediaServer.decode_getD, Text.decode_ofString]
      rfl

lemma fields_fit {req : ContainerRegisterRequest} (h : IsInt64 req.port) :
    ∀ f ∈ containerRegisterRequest.fields, f.Fits req := by
  simp only [containerRegisterRequest, List.forall_mem_cons, List.not_mem_nil, false_imp_iff,
    implies_true, and_true]
  exact ⟨trivial, trivial, h, trivial, trivial⟩

/-- What the media server posts is bound to the request it meant. -/
lemma notifyBody_bound (h : notifyBody raw = some body)
    (hport : IsInt64 (notifyPayload raw.env).port) :
    containerRegisterRequest.shouldBindJSON body = .ok (notifyPayload raw.env) := by
  rw [notifyBody] at h
  split_ifs at h with hwritable
  cases h
  obtain ⟨l, hl, hmembers, hcopy⟩ := notifyMembers_eq hwritable
  rw [Struct.shouldBindJSON, GoJson.decodeFirst_value _ hwritable, Struct.decode, hmembers,
    Struct.foldlM_members containerRegisterRequest_lawful
      fun f hf => ⟨hl f hf, fields_fit hport f (hl f hf)⟩, hcopy]
  rfl

/-! ### Records under their own names -/

variable {w w' : World} {e : Event} {h : Handler} {redis redis' : Redis} {reply : Reply}
  {next : Option Handler} {n : String} {id : ℕ} {req : ContainerRegisterRequest}
  {old : Option ContainerRegistration}

/-- Every record is stored under the key of its own name, and a toggle that is about to write holds
a record of the container it is for. -/
structure Named (w : World) : Prop where
  written : WrittenByService w.redis
  toggles : ∀ id name req reg, w.handlers.lookup id = some (.toggleSet name req reg) →
    reg.name = name

lemma WrittenByService.set (hw : WrittenByService redis) (reg : ContainerRegistration) :
    WrittenByService (redis.set reg.name reg) := by
  intro key reg' h
  rw [Redis.set, lookup_insert_ite] at h
  split_ifs at h with hkey
  · cases h
    exact hkey
  · exact hw key reg' h

lemma WrittenByService.del (hw : WrittenByService redis) (name : String) :
    WrittenByService (redis.del name) := by
  intro key reg h
  rw [Redis.del, lookup_erase_ite] at h
  split_ifs at h
  exact hw key reg h

lemma Named.command (hn : Named w) (hid : w.handlers.lookup id = some h)
    (hc : h.Command w.redis reply redis' next) : WrittenByService redis' ∧
      ∀ name req reg, next = some (.toggleSet name req reg) → reg.name = name := by
  cases hc with
  | @registerSet reg | @registerLost reg => exact ⟨hn.written.set reg, nofun⟩
  | @unregisterDel name | @unregisterLost name => exact ⟨hn.written.del name, nofun⟩
  | @toggleGet _ name req reg hreg =>
    refine ⟨hn.written, ?_⟩
    rintro _ _ _ ⟨⟩
    exact (containerKey_inj.mp (hn.written _ reg hreg)).symm
  | @toggleSet _ name req reg =>
    obtain rfl := hn.toggles id name req reg hid
    exact ⟨hn.written.set reg, nofun⟩
  | _ => exact ⟨hn.written, nofun⟩

lemma Named.step (hn : Named w) (he : step w e = some w') : Named w' := by
  cases step_spec he with
  | @request j r hj =>
    refine ⟨hn.written, fun k name req reg hk => ?_⟩
    simp only [lookup_advance] at hk
    split_ifs at hk
    · rcases Request.start_cases hk with ⟨_, _, h⟩ | ⟨_, _, h⟩ | ⟨_, _, _, h⟩ <;> cases h
    · exact hn.toggles k name req reg hk
  | @command j reply h redis' next hj hc =>
    obtain ⟨hwritten, hnext⟩ := hn.command hj hc
    refine ⟨hwritten, fun k name req reg hk => ?_⟩
    simp only [lookup_advance] at hk
    split_ifs at hk
    · exact hnext name req reg hk
    · exact hn.toggles k name req reg hk
  | @update j now h op hj hu =>
    refine ⟨hn.written, fun k name req reg hk => ?_⟩
    simp only [lookup_advance] at hk
    split_ifs at hk
    exact hn.toggles k name req reg hk
  | background hop => exact ⟨hn.written, hn.toggles⟩

/-! ### A registration among the steps of others -/

/-- The handler `id` goes on with commands that succeed, and no other handler of the container takes
a step. -/
def Aside (n : String) (id : ℕ) (handlers : AList fun _ : ℕ => Handler) : Event → Prop
  | .request j _ => j ≠ id
  | .command j reply =>
    (j = id → reply = .ok) ∧ ∀ h ∈ handlers.lookup j, j ≠ id → h.name ≠ n
  | .update j _ => ∀ h ∈ handlers.lookup j, j ≠ id → h.name ≠ n
  | .background _ => True

/-- How far the registration has come. -/
inductive Registering (req : ContainerRegisterRequest) (id : ℕ)
    (old : Option ContainerRegistration) (w : World) : Prop where
  | get (hid : w.handlers.lookup id = some (.registerGet req)) (hstored : w.stored req.name = old)
  | set (hid : w.handlers.lookup id = some (.registerSet (req.build old)))
  | server (hid : w.handlers.lookup id = some (.registerServer (req.build old)))
      (hstored : w.stored req.name = some (req.build old))
  | done (hid : w.handlers.lookup id = none) (hstored : w.stored req.name = some (req.build old))
      (hloaded : w.loaded req.name = some (req.build old))

lemma Handler.Command.stored_of_ne (hc : h.Command redis reply redis' next) (hn : h.name ≠ n) :
    redis'.lookup (containerKey n) = redis.lookup (containerKey n) := by
  cases hc with
  | @registerSet reg | @registerLost reg =>
    rw [Redis.lookup_set]
    exact if_neg (Ne.symm hn)
  | @unregisterDel name | @unregisterLost name =>
    rw [Redis.lookup_del]
    exact if_neg (Ne.symm hn)
  | @toggleSet _ name req reg =>
    rw [Redis.lookup_set]
    exact if_neg (Ne.symm hn)
  | _ => rfl

/-- What a step of others leaves: the handler, and the container's records. -/
lemma Registering.of_eq (hr : Registering req id old w)
    (hid : w'.handlers.lookup id = w.handlers.lookup id)
    (hstored : w'.stored req.name = w.stored req.name)
    (hloaded : w'.loaded req.name = w.loaded req.name) : Registering req id old w' := by
  cases hr with
  | get h hs => exact .get (hid.trans h) (hstored.trans hs)
  | set h => exact .set (hid.trans h)
  | server h hs => exact .server (hid.trans h) (hstored.trans hs)
  | done h hs hl => exact .done (hid.trans h) (hstored.trans hs) (hloaded.trans hl)

/-- A command of the registration itself. -/
lemma Registering.command (hr : Registering req id old w) (hid : w.handlers.lookup id = some h)
    (hc : h.Command w.redis .ok redis' next) :
    Registering req id old { w with
      redis := redis'
      handlers := advance w.handlers id next
      pending := enqueue w.pending id next } := by
  have hnext : (advance w.handlers id next).lookup id = next := by rw [lookup_advance, if_pos rfl]
  cases hr with
  | get h' hs =>
    cases hid.symm.trans h'
    cases hc with
    | registerGet hex =>
      refine .set (hnext.trans ?_)
      rw [hex, if_pos rfl, ← hs]
      rfl
  | set h' =>
    cases hid.symm.trans h'
    cases hc with
    | registerSet => exact .server hnext ((Redis.lookup_set _ _ _ _).trans (if_pos rfl))
  | server h' hs =>
    cases hid.symm.trans h'
    cases hc
  | done h' => cases hid.symm.trans h'

/-- The update of memory by the registration itself. -/
lemma Registering.update (hr : Registering req id old w) (ha : Aligned w.mem)
    (hid : w.handlers.lookup id = some h) {now : Int} {op : Op} (hu : h.update now = some op)
    (toggled : List (String × ToggleContainerRequest)) :
    Registering req id old { w with
      mem := op.apply w.mem
      handlers := advance w.handlers id none
      pending := w.pending.erase id
      toggled := toggled } := by
  have hnext : (advance w.handlers id none).lookup id = none := by rw [lookup_advance, if_pos rfl]
  cases hr with
  | get h' hs =>
    cases hid.symm.trans h'
    cases hu
  | set h' =>
    cases hid.symm.trans h'
    cases hu
  | server h' hs =>
    cases hid.symm.trans h'
    exact .done hnext hs ((update_registration hu ha req.name).trans (if_pos rfl))
  | done h' => cases hid.symm.trans h'

lemma Registering.step (hr : Registering req id old w) (ha : Aligned w.mem)
    (hguard : Aside req.name id w.handlers e) (he : step w e = some w') :
    Registering req id old w' := by
  cases step_spec he with
  | @request j r hj =>
    exact hr.of_eq ((lookup_advance _ _ _ _).trans (if_neg (Ne.symm hguard))) rfl rfl
  | @command j reply h redis' next hj hc =>
    obtain ⟨hok, hother⟩ := hguard
    by_cases hjid : j = id
    · subst hjid
      obtain rfl := hok rfl
      exact hr.command hj hc
    · exact hr.of_eq ((lookup_advance _ _ _ _).trans (if_neg (Ne.symm hjid)))
        (hc.stored_of_ne (hother h hj hjid)) rfl
  | @update j now h op hj hu =>
    by_cases hjid : j = id
    · subst hjid
      exact hr.update ha hj hu _
    · exact hr.of_eq ((lookup_advance _ _ _ _).trans (if_neg (Ne.symm hjid))) rfl
        ((update_registration hu ha req.name).trans (if_neg (Ne.symm (hguard h hj hjid))))
  | background hop => exact hr.of_eq rfl rfl (background_registration hop w.mem req.name)

/-! ### From the media server to a restart -/

variable {store : Store} {t t₀ t₁ t' : TextWorld} {scan : List (String × Bool)}

/-- The steps of a service on texts, beside a registration. -/
def AsideText (n : String) (id : ℕ) (t : TextWorld) (e : TextEvent) : Prop :=
  ∀ e' ∈ e.events, Aside n id t.handlers e'

/-- A record that is in memory and in Redis, and that a restart reads. -/
structure Arrived (reg : ContainerRegistration) (t : TextWorld) : Prop where
  memory : t.mem.registration reg.name = some reg
  stored : t.store.load (containerKey reg.name) = some reg
  restart : ∀ now scan, (∀ key ∈ t.store, (key, true) ∈ scan) →
    (initServerTexts now t.store scan).registration reg.name = some reg

/-- The record-level side of a service on texts. -/
structure Sound (t : TextWorld) (w : World) : Prop where
  simulates : Simulates t w
  aligned : Aligned w.mem
  named : Named w

lemma events_cases (e : TextEvent) : e.events = [] ∨ ∃ e', e.events = [e'] := by
  cases e with
  | request id r =>
    simp only [TextEvent.events]
    cases r.bound with
    | none => exact Or.inl rfl
    | some r => exact Or.inr ⟨_, rfl⟩
  | _ => exact Or.inr ⟨_, rfl⟩

/-- A step on texts is a step on records, or none. -/
lemma Sound.step {e : TextEvent} (hs : Sound t w) (he : stepText t e = some t') :
    ∃ w', Sound t' w' ∧ (e.events = [] ∧ w' = w ∨
      ∃ e', e.events = [e'] ∧ LoadBalancer.step w e' = some w') := by
  have hrel := step_rel e hs.simulates
  rw [he] at hrel
  obtain ⟨w', hw', hsim⟩ : ∃ w', run LoadBalancer.step w e.events = some w' ∧ Simulates t' w' := by
    generalize run LoadBalancer.step w e.events = y at hrel
    cases hrel with
    | @some _ w' h => exact ⟨w', rfl, h⟩
  rcases events_cases e with hnil | ⟨e', hone⟩
  · rw [hnil] at hw'
    cases hw'
    exact ⟨w, ⟨hsim, hs.aligned, hs.named⟩, Or.inl ⟨hnil, rfl⟩⟩
  · rw [hone, run_cons] at hw'
    obtain ⟨w₁, hw₁, hnil⟩ := Option.bind_eq_some_iff.mp hw'
    cases hnil
    exact ⟨w', ⟨hsim, step_aligned hs.aligned hw₁, hs.named.step hw₁⟩, Or.inr ⟨e', hone, hw₁⟩⟩

lemma start_sound (hv : Views store redis) (hw : WrittenByService redis) (now : Int)
    (scan : List (String × Bool)) :
    Sound (TextWorld.start now store scan) (World.start now redis scan) where
  simulates := start_simulates hv now scan
  aligned := init_aligned hw now
  named := ⟨hw, nofun⟩

lemma run_sound {es : List TextEvent} (hs : Sound t w) (hrun : run stepText t es = some t') :
    ∃ w', Sound t' w' := by
  refine run_invariant' (I := fun t => ∃ w, Sound t w) ?_ ⟨w, hs⟩ hrun
  rintro t e t' ⟨w, hs⟩ he
  obtain ⟨w', hs', -⟩ := hs.step he
  exact ⟨w', hs'⟩

lemma run_registering {es : List TextEvent} (hs : Sound t w) (hr : Registering req id old w)
    (haside : Guarded stepText (AsideText req.name id) t es)
    (hrun : run stepText t es = some t') : ∃ w', Sound t' w' ∧ Registering req id old w' := by
  refine run_invariant (I := fun t => ∃ w, Sound t w ∧ Registering req id old w) ?_ ⟨w, hs, hr⟩
    haside hrun
  rintro t e t' ⟨w, hs, hr⟩ hguard he
  obtain ⟨w', hs', ⟨-, rfl⟩ | ⟨e', hone, he'⟩⟩ := hs.step he
  · exact ⟨w', hs', hr⟩
  · refine ⟨w', hs', hr.step hs.aligned ?_ he'⟩
    rw [← hs.simulates.handlers]
    exact hguard e' (by rw [hone]; exact List.mem_singleton_self e')

/-- A registration whose handler has ended. -/
lemma Registering.arrived (hr : Registering req id old w) (hs : Sound t w) (hid : id ∉ t.handlers) :
    Arrived (req.build old) t := by
  have hnone : w.handlers.lookup id = none := by
    rw [← hs.simulates.handlers]
    exact lookup_eq_none.mpr hid
  cases hr with
  | get h _ => cases hnone.symm.trans h
  | set h => cases hnone.symm.trans h
  | server h _ => cases hnone.symm.trans h
  | done _ hstored hloaded =>
    refine ⟨?_, ?_, fun now scan hscan => ?_⟩
    · rw [hs.simulates.mem]
      exact hloaded
    · rw [hs.simulates.views.load]
      exact hstored
    · rw [initServerTexts_eq hs.simulates.views]
      have hall : ScanComplete w.redis scan := fun key hkey =>
        hscan key ((hs.simulates.views.mem key).mpr hkey)
      rw [init_registration hs.named.written hall]
      exact hstored

lemma onRegState_body {code : Int} {info : Option Bool} {msg : Text}
    (h : MediaServer.onRegState raw code info msg = some body) : notifyBody raw = some body := by
  by_cases hcode : code = 0
  · rw [MediaServer.onRegState, if_pos hcode] at h
    cases h
  · rw [MediaServer.onRegState, if_neg hcode] at h
    obtain ⟨regIsActive, -, h⟩ := Option.bind_eq_some_iff.mp h
    split_ifs at h
    exact h

/-- Once its handler has ended, the registration that a media server posts when Asterisk has
accepted it is in memory and in Redis, with the flags the container had, and a restart reads it,
whatever else the load balancer does in between for other containers. -/
theorem registration_arrives (hv : Views store redis) (hw : WrittenByService redis) (now : Int)
    (before : List TextEvent)
    (hbefore : run stepText (TextWorld.start now store scan) before = some t₀)
    {code : Int} {info : Option Bool} {msg : Text}
    (hbody : MediaServer.onRegState raw code info msg = some body)
    (hport : IsInt64 (notifyPayload raw.env).port)
    (hrequest : stepText t₀ (.request id (.register body)) = some t₁) (es : List TextEvent)
    (haside : Guarded stepText (AsideText (notifyPayload raw.env).name id) t₁ es)
    (hrun : run stepText t₁ es = some t) (hdone : id ∉ t.handlers) :
    Arrived ((notifyPayload raw.env).build
      (t₀.store.load (containerKey (notifyPayload raw.env).name))) t := by
  obtain ⟨w₀, hs₀⟩ := run_sound (start_sound hv hw now scan) hbefore
  have hbound := notifyBody_bound (onRegState_body hbody) hport
  have hevents : (TextEvent.request id (.register body)).events =
      [.request id (.register (notifyPayload raw.env))] := by
    simp only [TextEvent.events, TextRequest.bound, hbound]
    rfl
  obtain ⟨w₁, hs₁, hstep⟩ := hs₀.step hrequest
  have hr : Registering (notifyPayload raw.env) id
      (t₀.store.load (containerKey (notifyPayload raw.env).name)) w₁ := by
    rw [hs₀.simulates.views.load]
    rcases hstep with ⟨hnil, -⟩ | ⟨e', hone, he'⟩
    · rw [hevents] at hnil
      cases hnil
    · rw [hevents] at hone
      cases hone
      cases step_spec he' with
      | request hid => exact .get ((lookup_advance _ _ _ _).trans (if_pos rfl)) rfl
  obtain ⟨w, hs, hr⟩ := run_registering hs₁ hr haside hrun
  exact hr.arrived hs hdone

lemma asideText_command (n : String) (id : ℕ) (t : TextWorld) :
    AsideText n id t (.command id .ok) := by
  rintro e' he'
  cases List.mem_singleton.mp he'
  exact ⟨fun _ => rfl, fun _ _ hne => absurd rfl hne⟩

lemma asideText_update (n : String) (id : ℕ) (t : TextWorld) (now : Int) :
    AsideText n id t (.update id now) := by
  rintro e' he'
  cases List.mem_singleton.mp he'
  exact fun _ _ hne => absurd rfl hne

/-- A media server with the default settings. -/
theorem registration_arrives_sample :
    ∃ t, Arrived ((notifyPayload (RawEnv.env fun _ => none)).build none) t := by
  have hwritable : (Json.object (notifyMembers fun _ => none)).writable = true := by decide
  obtain ⟨body, hnotify⟩ : ∃ body, notifyBody (fun _ => none) = some body := by
    simp only [notifyBody, hwritable, if_true, Option.some.injEq, exists_eq']
  have hbody : MediaServer.onRegState (fun _ => none) 200 (some true)
      (Text.ofString "SIP/2.0 200 OK") = some body := hnotify
  have hport : IsInt64 (notifyPayload (RawEnv.env fun _ => none)).port := ⟨by decide, by decide⟩
  obtain ⟨t₁, hrequest, hhandlers, hstore⟩ : ∃ t₁,
      stepText (TextWorld.start 0 ∅ []) (.request 0 (.register body)) = some t₁ ∧
        t₁.handlers = (∅ : AList fun _ : ℕ => Handler).insert 0
          (.registerGet (notifyPayload (RawEnv.env fun _ => none))) ∧ t₁.store = ∅ := by
    simp only [stepText, TextRequest.bound, notifyBody_bound hnotify hport]
    exact ⟨_, rfl, rfl, rfl⟩
  obtain ⟨mem, store, handlers⟩ := t₁
  cases hhandlers
  cases hstore
  obtain ⟨t, hrun, hdone⟩ : ∃ t, run stepText
      ⟨mem, ∅, (∅ : AList fun _ : ℕ => Handler).insert 0
        (.registerGet (notifyPayload (RawEnv.env fun _ => none)))⟩
      [.command 0 .ok, .command 0 .ok, .update 0 0] = some t ∧ 0 ∉ t.handlers :=
    ⟨_, rfl, lookup_eq_none.mp rfl⟩
  have hload : ∀ key, (TextWorld.start 0 ∅ []).store.load key = none := fun _ => rfl
  have hviews : Views ∅ ∅ := fun _ => rfl
  have harrived := registration_arrives hviews (fun _ _ h => by cases h) 0 [] rfl hbody
    hport hrequest [.command 0 .ok, .command 0 .ok, .update 0 0]
    ⟨asideText_command _ 0 _, fun _ _ => ⟨asideText_command _ 0 _, fun _ _ =>
      ⟨asideText_update _ 0 _ 0, fun _ _ => trivial⟩⟩⟩ hrun hdone
  rw [hload] at harrived
  exact ⟨t, harrived⟩

end LoadBalancer
