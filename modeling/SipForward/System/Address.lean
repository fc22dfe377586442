import SipForward.LoadBalancer.Heartbeat
import SipForward.MediaServer.Environment
import Mathlib.Data.List.GetD

/-!
# The address of a container

A container states its address twice, in its registration and in the `container_id` of a call. The
load balancer sends `/health` and `/initiate-call` to the first and `/end-call` to the second. They
are the same unless the host is a Docker internal address, for which the load balancer replaces the
port by 8086.
-/

namespace MediaServer

open LoadBalancer (ContainerRegisterRequest)

/-! ### What the container states -/

/-- `LoadBalancer::getLocalIP`. -/
def getLocalIP (env : Env) : String :=
  match env "PUBLIC_IP" with
  | some ip => if ip ≠ "" then ip else "127.0.0.1"
  | none    => "127.0.0.1"

/-- `LoadBalancer::extractContactFromSipResponse`, which does not look at the response. -/
def extractContactFromSipResponse (env : Env) : String :=
  let sipClientName := (env "SIP_USERNAME").getD "pjsip_client"
  let sipPort := (env "SIP_PORT").getD "5060"
  "sip:" ++ sipClientName ++ "@" ++ getLocalIP env ++ ":" ++ sipPort ++ ";ob"

/-- The payload of `LoadBalancer::notifyLoadBalancerWithResponse`. -/
def notifyPayload (env : Env) : ContainerRegisterRequest :=
  let sipClientName := (env "SIP_USERNAME").getD "pjsip_client"
  let httpPort := (env "HTTP_PORT").getD "8086"
  let publicIP := (env "PUBLIC_IP").getD "34.21.21.165"
  let contactURI := extractContactFromSipResponse env
  { name := sipClientName ++ "-" ++ publicIP ++ "-" ++ httpPort
    host := publicIP
    port := atoi httpPort
    aor := sipClientName
    contactURI :=
      if contactURI = "" then "sip:" ++ sipClientName ++ "@" ++ publicIP ++ ":" ++ httpPort
      else contactURI }

/-- The `container_id` in the answer of `CallManager::initiateCall`. -/
def containerID (env : Env) : Except String String :=
  let sipUsername := getEnvString env "SIP_USERNAME" "india_media"
  let publicIP := getEnvString env "PUBLIC_IP" "3.108.51.244"
  (getEnvInt env "HTTP_PORT" 8086).map fun httpPort =>
    sipUsername ++ "-" ++ publicIP ++ "-" ++ toString httpPort

/-- The port of the HTTP endpoint, a 16-bit number. -/
def listenPort (env : Env) : Except String Int :=
  (getEnvInt env "HTTP_PORT" 8086).map (· % 65536)

end MediaServer

namespace LoadBalancer

open AList MediaServer

/-! ### Where the load balancer sends requests -/

/-- The host and port of a request URL, as text. -/
structure Target where
  host : String
  port : String
deriving DecidableEq

/-- `ParseContainerID`. -/
def parseContainerID (containerID : String) : Except String (String × String) :=
  let parts := containerID.toList.splitOn '-'
  let length := parts.length
  if length < 3 then .error "invalid container_id format"
  else .ok (String.ofList (parts.getD (length - 2) []), String.ofList (parts.getD (length - 1) []))

/-- The target of `EndCallHandler`. -/
def endCallTarget (containerID : String) : Except String Target :=
  (parseContainerID containerID).map fun p => ⟨p.1, p.2⟩

/-- The target of `/initiate-call` for a container that was selected. -/
def ServerMetadata.target (md : ServerMetadata) : Target := ⟨md.host, toString md.port⟩

/-- The requests the load balancer sends to a container in a state: the probes of a round that
starts there, and the calls that are routed there. -/
inductive SendsTo (s : State) (name : String) : Target → Prop where
  | health {p : Heartbeat.Probe} (h : Heartbeat.target s name = some p) :
      SendsTo s name ⟨p.host, toString p.port⟩
  | initiateCall {req : InitiateCallRequest} {order : List String} {md : ServerMetadata}
      (h : (selectOutbound req order s).1 = .ok md) (hname : md.name = name) :
      SendsTo s name md.target

variable {s : State} {name : String} {redis : Redis} {scan : List (String × Bool)}

/-- A selected container has the address of its `LSML` entry. -/
lemma findLowest_address (hs : Aligned s) {d : Direction} {md : ServerMetadata}
    (h : (findLowestLoadContainer d s).1 = .ok md) :
    Heartbeat.address s md.name = some (md.host, md.port) := by
  rcases findLowest_cases d s with
    ⟨e, heq⟩ | ⟨n, c, -, -, hn, -, -, ⟨-, e, heq⟩ | ⟨old, hold, heq⟩⟩
  · rw [heq] at h
    cases h
  · rw [heq] at h
    cases h
  · rw [heq] at h
    cases h
    have hname : (old.withCalls (c + 1)).name = n := hs.name n old hold
    rw [hname, Heartbeat.address, hold]
    rfl

lemma findByType_address (hs : Aligned s) {type : String} {order : List String}
    {md : ServerMetadata} (h : (findContainerByType type order s).1 = .ok md) :
    Heartbeat.address s md.name = some (md.host, md.port) := by
  rcases findByType_cases type order s with
    ⟨⟨e, heq⟩, -⟩ | ⟨n, old, c, -, hold, -, -, -, heq⟩
  · rw [heq] at h
    cases h
  · rw [heq] at h
    cases h
    have hname : (old.withCalls (c + 1)).name = n := hs.name n old hold
    rw [hname, Heartbeat.address, hold]
    rfl

/-- Every request goes to the address in `LSML`. -/
lemma SendsTo.address (hs : Aligned s) {t : Target} (h : SendsTo s name t) :
    ∃ port, Heartbeat.address s name = some (t.host, port) ∧ t.port = toString port := by
  cases h with
  | health h =>
    obtain ⟨a, ha, rfl⟩ := Option.map_eq_some_iff.mp h
    exact ⟨a.2, ha, rfl⟩
  | @initiateCall req order md h hname =>
    subst hname
    refine ⟨md.port, ?_, rfl⟩
    cases htype : typeOverride req with
    | none =>
      rw [selectOutbound_default htype] at h
      exact findLowest_address hs h
    | some type =>
      rw [selectOutbound_override htype] at h
      exact findByType_address hs h

/-- Only registrations under its name give a container an address. -/
lemma address_foldl (hs : Aligned s) {a : String × Int} (ops : List Op)
    (haddr : ∀ b ∈ Heartbeat.address s name, b = a)
    (hops : ∀ now reg, Op.register now reg ∈ ops → reg.name = name → (reg.host, reg.port) = a) :
    ∀ b ∈ Heartbeat.address (ops.foldl Op.apply s) name, b = a := by
  induction ops generalizing s with
  | nil => exact haddr
  | cons op ops ih =>
    refine ih (hs.apply op) (fun b hb => ?_)
      fun now reg hreg => hops now reg (List.mem_cons_of_mem op hreg)
    rw [Heartbeat.address_apply hs] at hb
    cases op with
    | register now reg =>
      simp only at hb
      split_ifs at hb with hname
      · cases hb
        exact hops now reg List.mem_cons_self hname.symm
      · exact haddr b hb
    | unregister m =>
      simp only at hb
      split_ifs at hb
      · cases hb
      · exact haddr b hb
    | toggle m req => exact haddr b hb
    | findLowest d => exact haddr b hb
    | findByType type order => exact haddr b hb
    | heartbeat now results => exact haddr b hb

/-! ### The identifier -/

lemma splitOn_append_cons (xs ys : List Char) :
    (xs ++ '-' :: ys).splitOn '-' = xs.splitOn '-' ++ ys.splitOn '-' := by
  simp only [List.splitOn_eq_splitOnP]
  exact List.splitOnP_append_cons xs ys (by decide)

lemma splitOn_of_notMem {xs : List Char} (h : '-' ∉ xs) : xs.splitOn '-' = [xs] := by
  simp only [List.splitOn_eq_splitOnP]
  refine List.splitOnP_eq_singleton fun x hx => ?_
  rw [beq_eq_false_iff_ne]
  rintro rfl
  exact h hx

/-- The last two parts of an identifier are found whatever the name before them contains. -/
lemma parseContainerID_append (u h p : String) (hh : '-' ∉ h.toList) (hp : '-' ∉ p.toList) :
    parseContainerID (u ++ "-" ++ h ++ "-" ++ p) = .ok (h, p) := by
  have hparts : (u ++ "-" ++ h ++ "-" ++ p).toList.splitOn '-' =
      u.toList.splitOn '-' ++ [h.toList, p.toList] := by
    have htext : (u ++ "-" ++ h ++ "-" ++ p).toList =
        u.toList ++ '-' :: (h.toList ++ '-' :: p.toList) := by
      simp
    rw [htext, splitOn_append_cons, splitOn_append_cons, splitOn_of_notMem hh,
      splitOn_of_notMem hp]
    rfl
  have hpos : 0 < (u.toList.splitOn '-').length := by
    rw [List.splitOn_eq_splitOnP]
    exact List.length_pos_iff.mpr (List.splitOnP_ne_nil _ _)
  simp only [parseContainerID, hparts, List.length_append, List.length_cons, List.length_nil]
  generalize u.toList.splitOn '-' = parts at hpos ⊢
  rw [if_neg (by omega), List.getD_append_right _ _ _ _ (by omega),
    List.getD_append_right _ _ _ _ (by omega)]
  have h₂ : parts.length + (0 + 1 + 1) - 2 - parts.length = 0 := by omega
  have h₁ : parts.length + (0 + 1 + 1) - 1 - parts.length = 1 := by omega
  rw [h₁, h₂]
  simp

lemma dash_notMem_toString (v : ℕ) : '-' ∉ (toString (v : Int)).toList := by
  intro h
  have hrepr : (toString (v : Int)).toList = Nat.toDigits 10 v := by
    change (Nat.repr v).toList = _
    rw [Nat.repr, String.toList_ofList]
  rw [hrepr] at h
  have := Nat.isDigit_of_mem_toDigits (by omega) (by omega) h
  cases this

/-! ### One address -/

variable {env : Env} {h p : String} {v : ℕ}

lemma notifyPayload_host (hh : env "PUBLIC_IP" = some h) : (notifyPayload env).host = h := by
  simp only [notifyPayload, hh, Option.getD_some]

lemma notifyPayload_finalPort (hh : env "PUBLIC_IP" = some h) (hp : env "HTTP_PORT" = some p)
    (hv : IsDecimal p v) :
    (notifyPayload env).finalPort = if isDockerInternalIP h then 8086 else (v : Int) := by
  have hport : (notifyPayload env).port = v := by
    simp only [notifyPayload, hp, Option.getD_some, hv.atoi]
  rw [ContainerRegisterRequest.finalPort, notifyPayload_host hh, hport]

lemma containerID_target (hh : env "PUBLIC_IP" = some h) (hne : h ≠ "") (hdash : '-' ∉ h.toList)
    (hp : env "HTTP_PORT" = some p) (hv : IsDecimal p v) (hle : v ≤ 65535) :
    (containerID env).bind endCallTarget = .ok ⟨h, toString (v : Int)⟩ := by
  rw [containerID, getEnvString_of_some hh hne, getEnvInt_of_some hp hv.nonempty, hv.stoi hle]
  simp only [Except.map, Except.bind, endCallTarget,
    parseContainerID_append _ _ _ hdash (dash_notMem_toString v)]

lemma listenPort_eq (hp : env "HTTP_PORT" = some p) (hv : IsDecimal p v) (hle : v ≤ 65535) :
    listenPort env = .ok (v : Int) := by
  rw [listenPort, getEnvInt_of_some hp hv.nonempty, hv.stoi hle]
  simp only [Except.map]
  congr 1
  omega

/-- From its registration on, as long as nobody else registers under its name, a container listens
on the port of its configuration and is sent `/end-call` there; `/health` and `/initiate-call` are
sent there too, unless its host is a Docker internal address, for which they go to port 8086. -/
theorem container_address (hw : WrittenByService redis) (now : Int) (scan : List (String × Bool))
    (ops : List Op) (env : Env) (hh : env "PUBLIC_IP" = some h) (hne : h ≠ "")
    (hdash : '-' ∉ h.toList) (hp : env "HTTP_PORT" = some p) (hv : IsDecimal p v) (hle : v ≤ 65535)
    (existing : Option ContainerRegistration) (now' : Int) (later : List Op)
    (hlater : ∀ now reg, Op.register now reg ∈ later → reg.name = (notifyPayload env).name →
      ∃ existing, reg = (notifyPayload env).build existing) :
    listenPort env = .ok (v : Int) ∧
    (containerID env).bind endCallTarget = .ok ⟨h, toString (v : Int)⟩ ∧
    Heartbeat.address (registerServer now' ((notifyPayload env).build existing)
      (serve now redis scan ops)) (notifyPayload env).name =
        some (h, if isDockerInternalIP h then 8086 else (v : Int)) ∧
    ∀ t, SendsTo (later.foldl Op.apply (registerServer now' ((notifyPayload env).build existing)
        (serve now redis scan ops))) (notifyPayload env).name t →
      t = ⟨h, if isDockerInternalIP h then "8086" else toString (v : Int)⟩ := by
  have hs : Aligned (serve now redis scan ops) := aligned_serve hw now scan ops
  have hbuild : ∀ existing, (((notifyPayload env).build existing).host,
      ((notifyPayload env).build existing).port) =
        (h, if isDockerInternalIP h then 8086 else (v : Int)) := by
    intro existing
    rw [← notifyPayload_finalPort hh hp hv, ← notifyPayload_host hh]
    rfl
  have haddr : Heartbeat.address (registerServer now' ((notifyPayload env).build existing)
      (serve now redis scan ops)) (notifyPayload env).name =
        some (h, if isDockerInternalIP h then 8086 else (v : Int)) := by
    rw [← hbuild existing]
    exact (Heartbeat.address_apply hs (.register now' ((notifyPayload env).build existing))
      (notifyPayload env).name).trans (if_pos rfl)
  refine ⟨listenPort_eq hp hv hle, containerID_target hh hne hdash hp hv hle, haddr, ?_⟩
  intro t ht
  have hs' : Aligned (registerServer now' ((notifyPayload env).build existing)
      (serve now redis scan ops)) := hs.register now' _
  obtain ⟨port, hport, htext⟩ :=
    ht.address (List.foldlRecOn later _ hs' fun _ hs op _ => hs.apply op)
  have hfinal := address_foldl hs' later (by
      rw [haddr]
      rintro b ⟨⟩
      rfl)
    (by
      intro now reg hreg hname
      obtain ⟨existing', rfl⟩ := hlater now reg hreg hname
      exact hbuild existing') _ hport
  obtain ⟨thost, tport⟩ := t
  obtain ⟨rfl, rfl⟩ := Prod.mk.injEq .. ▸ hfinal
  simp only at htext
  rw [htext]
  split_ifs <;> rfl

/-- A container with a Docker internal address that does not listen on port 8086. -/
def dockerEnv : Env := fun name =>
  if name = "SIP_USERNAME" then some "media"
  else if name = "PUBLIC_IP" then some "10.0.0.5"
  else if name = "HTTP_PORT" then some "9000"
  else none

/-- The container is probed at a port it does not listen on. -/
theorem dockerEnv_port :
    ∃ t, SendsTo (registerServer 0 ((notifyPayload dockerEnv).build none)
        (serve 0 ∅ [] [])) (notifyPayload dockerEnv).name t ∧
      t = ⟨"10.0.0.5", "8086"⟩ ∧ listenPort dockerEnv = .ok 9000 ∧
      (containerID dockerEnv).bind endCallTarget = .ok ⟨"10.0.0.5", "9000"⟩ :=
  ⟨_, .health rfl, by decide, by rfl, by rfl⟩

/-- A container whose name contains a dash. -/
def publicEnv : Env := fun name =>
  if name = "SIP_USERNAME" then some "india-media"
  else if name = "PUBLIC_IP" then some "203.0.113.5"
  else if name = "HTTP_PORT" then some "9000"
  else none

theorem container_address_sample :
    ∃ t, SendsTo (registerServer 0 ((notifyPayload publicEnv).build none)
        (serve 0 sampleRedis [("container:media-1", true)] [])) (notifyPayload publicEnv).name t ∧
      t = ⟨"203.0.113.5", toString (9000 : Int)⟩ :=
  ⟨_, .health rfl, (container_address sampleRedis_written 0 [("container:media-1", true)] []
    publicEnv rfl (by decide) (by decide) rfl ⟨by decide, by simp, rfl⟩ (by decide) none
    0 [] (by simp)).2.2.2 _ (.health rfl)⟩

end LoadBalancer
