import SipForward.LoadBalancer.Models
import Mathlib.Data.List.Infix

/-!
# In-memory state of the load balancer

`LSML`, `LSCS` and the two IOSL arrays of `services/helpers.go`, and the functions that read and
write them. Each function holds `stateMu` from its first to its last access, so that it is one
atomic step here.
-/

namespace LoadBalancer

/-- The four structures behind `stateMu`. -/
structure State where
  lsml : GoMap ServerMetadata
  lscs : GoMap Int
  inboundServers : List String
  outboundServers : List String

def State.empty : State := ⟨∅, ∅, [], []⟩

/-- The IOSL array of a direction. -/
def State.servers (s : State) : Direction → List String
  | .inbound  => s.inboundServers
  | .outbound => s.outboundServers

/-! ### Start-up -/

/-- The Redis key of a container. -/
def containerKey (name : String) : String := "container:" ++ name

@[simp] lemma containerKey_inj {n m : String} : containerKey n = containerKey m ↔ n = m := by
  simp [containerKey]

/-- The `container:*` records. -/
abbrev Redis := GoMap ContainerRegistration

/-- The contents this service writes: every record is stored under the key of its own name. -/
def WrittenByService (redis : Redis) : Prop :=
  ∀ key reg, redis.lookup key = some reg → key = containerKey reg.name

/-- The body of the loop of `InitServerArrays` for a record that was read. -/
def loadRegistration (now : Int) (s : State) (reg : ContainerRegistration) : State where
  lsml := s.lsml.insert reg.name (reg.toServer now)
  lscs := s.lscs.insert reg.name maxInt
  inboundServers :=
    if reg.inboundEnabled then s.inboundServers ++ [reg.name] else s.inboundServers
  outboundServers :=
    if reg.outboundEnabled then s.outboundServers ++ [reg.name] else s.outboundServers

/-- The record read for one key that SCAN yields. The flag says whether GET succeeded; a key that
is gone by then, or whose GET failed, is skipped. -/
def readKey (redis : Redis) (item : String × Bool) : Option ContainerRegistration :=
  if item.2 then redis.lookup item.1 else none

/-- The records `InitServerArrays` reads, in the order in which SCAN yields their keys. -/
def readKeys (redis : Redis) (scan : List (String × Bool)) : List ContainerRegistration :=
  scan.filterMap (readKey redis)

/-- `InitServerArrays`, for the keys that SCAN yields. -/
def initServerArrays (now : Int) (redis : Redis) (scan : List (String × Bool)) : State :=
  (readKeys redis scan).foldl (loadRegistration now) State.empty

/-! ### Registration -/

/-- One half of `updateIOSL`: add `name` if enabled and not present, remove its first occurrence
if disabled and present. -/
def updateServers (servers : List String) (name : String) (enabled : Bool) : List String :=
  if enabled ∧ name ∉ servers then servers ++ [name]
  else if ¬ enabled ∧ name ∈ servers then servers.erase name
  else servers

/-- `updateIOSL`. -/
def updateIOSL (s : State) (name : String) (inbound outbound : Bool) : State :=
  { s with
    inboundServers := updateServers s.inboundServers name inbound
    outboundServers := updateServers s.outboundServers name outbound }

/-- A re-registration overwrites the metadata and keeps name and health. -/
def ServerMetadata.reregister (existing : ServerMetadata) (reg : ContainerRegistration) :
    ServerMetadata :=
  { existing with
    host := reg.host
    port := reg.port
    aor := reg.aor
    contactURI := reg.contactURI
    inboundEnabled := reg.inboundEnabled
    outboundEnabled := reg.outboundEnabled }

/-- `RegisterServer`. -/
def registerServer (now : Int) (reg : ContainerRegistration) (s : State) : State :=
  let s' := match s.lsml.lookup reg.name with
    | some existing => { s with lsml := s.lsml.insert reg.name (existing.reregister reg) }
    | none =>
      { s with
        lsml := s.lsml.insert reg.name (reg.toServer now)
        lscs := s.lscs.insert reg.name maxInt }
  updateIOSL s' reg.name reg.inboundEnabled reg.outboundEnabled

/-- `UnregisterServer`. -/
def unregisterServer (name : String) (s : State) : State :=
  updateIOSL { s with lsml := s.lsml.erase name, lscs := s.lscs.erase name } name false false

/-- The toggles of a request applied to a server's flags. -/
def ServerMetadata.toggle (md : ServerMetadata) (req : ToggleContainerRequest) :
    ServerMetadata :=
  { md with
    inboundEnabled := req.inboundEnabled.getD md.inboundEnabled
    outboundEnabled := req.outboundEnabled.getD md.outboundEnabled }

/-- `ToggleServer`. -/
def toggleServer (name : String) (req : ToggleContainerRequest) (s : State) :
    Except String Unit × State :=
  match s.lsml.lookup name with
  | none => (.error "server not found in memory", s)
  | some md =>
    let md := md.toggle req
    (.ok (), updateIOSL { s with lsml := s.lsml.insert name md } name md.inboundEnabled
      md.outboundEnabled)

/-! ### Routing -/

/-- The loop of `FindLowestLoadContainer` over the contenders, from `minName` and `minVal`. -/
def scanLowest (lscs : GoMap Int) : List String → String → Int → String × Int
  | [], minName, minVal => (minName, minVal)
  | name :: rest, minName, minVal =>
    match lscs.lookup name with
    | none => scanLowest lscs rest minName minVal
    | some count =>
      if count < minVal then scanLowest lscs rest name count
      else scanLowest lscs rest minName minVal

/-- A copy of the metadata with the call count of `LSCS`. -/
def ServerMetadata.withCalls (md : ServerMetadata) (count : Int) : ServerMetadata :=
  { md with health := { md.health with currentCalls := count } }

/-- `LSCS[name]++`. A count is only ever incremented below `maxInt`, so it does not wrap. -/
def State.increment (s : State) (name : String) : State :=
  { s with lscs := s.lscs.insert name ((s.lscs.lookup name).getD 0 + 1) }

/-- `FindLowestLoadContainer`. -/
def findLowestLoadContainer (direction : Direction) (s : State) :
    Except String ServerMetadata × State :=
  let targetArray := s.servers direction
  if targetArray = [] then (.error "no available containers", s)
  else
    match scanLowest s.lscs targetArray "" maxInt with
    | (minName, minVal) =>
      if minName = "" ∨ minVal = maxInt then (.error "no healthy containers available", s)
      else
        -- the increment comes before the lookup in `LSML`
        let s' := s.increment minName
        match s.lsml.lookup minName with
        | none => (.error ("server " ++ minName ++ " missing from LSML"), s')
        | some md => (.ok (md.withCalls ((s'.lscs.lookup minName).getD 0)), s')

/-- `strings.Contains`. -/
def contains (s sub : String) : Bool := decide (sub.toList <:+: s.toList)

/-- `FindContainerByType`, ranging over the keys of `LSML` in the order given. -/
def findContainerByType (containerType : String) :
    List String → State → Except String ServerMetadata × State
  | [], s => (.error ("no container found with type " ++ containerType), s)
  | name :: rest, s =>
    match s.lsml.lookup name, s.lscs.lookup name with
    | some md, some count =>
      if contains name containerType = true ∧ count ≠ maxInt then
        let s' := s.increment name
        (.ok (md.withCalls ((s'.lscs.lookup name).getD 0)), s')
      else findContainerByType containerType rest s
    | _, _ => findContainerByType containerType rest s

/-! ### Heartbeat -/

/-- What a health probe found: the health a container reported, or an error text. -/
structure HealthResult where
  name : String
  health : Except String HealthData

/-- The health recorded for a server whose probe failed. -/
def unhealthy (now : Int) (err : String) : HealthData where
  status := "unhealthy"
  answeredCalls := 0
  currentCalls := 0
  maxCalls := 0
  availableCapacity := 0
  timestamp := now
  error := err

/-- The body of the last loop of `performHealthChecks`. -/
def applyResult (now : Int) (s : State) (r : HealthResult) : State :=
  match s.lsml.lookup r.name with
  | none => s  -- server was unregistered while we were checking
  | some md =>
    match r.health with
    | .error err =>
      { s with
        lsml := s.lsml.insert r.name { md with health := unhealthy now err }
        lscs := s.lscs.insert r.name maxInt }
    | .ok health =>
      { s with
        lsml := s.lsml.insert r.name { md with health := health }
        lscs := s.lscs.insert r.name health.currentCalls }

/-- The last loop of `performHealthChecks`, under one lock. -/
def applyResults (now : Int) (results : List HealthResult) (s : State) : State :=
  results.foldl (applyResult now) s

/-! ### Operations on the state -/

/-- One access to the state by a handler or by the heartbeat. -/
inductive Op where
  | register (now : Int) (reg : ContainerRegistration)
  | unregister (name : String)
  | toggle (name : String) (req : ToggleContainerRequest)
  | findLowest (direction : Direction)
  | findByType (containerType : String) (order : List String)
  | heartbeat (now : Int) (results : List HealthResult)

/-- The state after an access. -/
def Op.apply (s : State) : Op → State
  | .register now reg => registerServer now reg s
  | .unregister name => unregisterServer name s
  | .toggle name req => (toggleServer name req s).2
  | .findLowest direction => (findLowestLoadContainer direction s).2
  | .findByType containerType order => (findContainerByType containerType order s).2
  | .heartbeat now results => applyResults now results s

/-- A state of the service: start-up on the given Redis contents and SCAN replies, followed by
accesses in any order. -/
def serve (now : Int) (redis : Redis) (scan : List (String × Bool)) (ops : List Op) : State :=
  ops.foldl Op.apply (initServerArrays now redis scan)

end LoadBalancer
