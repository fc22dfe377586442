import Mathlib.Data.List.AList
import Mathlib.Tactic.Lemma

/-!
# Data of the load balancer

The records of `load_balancer/models` and `load_balancer/utils/common.go`, field by field. A Go map
keyed by server names is an `AList`; its iteration order is never read off the model, the functions
that range over a map take the order as an argument.
-/

namespace LoadBalancer

/-- A Go map with string keys. -/
abbrev GoMap (β : Type) := AList fun _ : String => β

/-- `math.MaxInt`, the call count of a server that is unhealthy or not probed yet. -/
def maxInt : Int := 9223372036854775807

/-- `utils.HealthData`. -/
structure HealthData where
  status : String
  answeredCalls : Int
  currentCalls : Int
  maxCalls : Int
  availableCapacity : Int
  timestamp : Int
  error : String
deriving DecidableEq, Repr

/-- `utils.GetDefaultHealth`, at the time `now`. -/
def getDefaultHealth (now : Int) : HealthData where
  status := "unknown"
  answeredCalls := 0
  currentCalls := 0
  maxCalls := 0
  availableCapacity := 0
  timestamp := now
  error := ""

/-- `models.ContainerRegistration`, the record kept in Redis. -/
structure ContainerRegistration where
  name : String
  host : String
  port : Int
  aor : String
  contactURI : String
  inboundEnabled : Bool
  outboundEnabled : Bool
deriving DecidableEq, Repr

/-- `models.ServerMetadata`, a value of `LSML`. -/
structure ServerMetadata where
  name : String
  host : String
  port : Int
  aor : String
  contactURI : String
  health : HealthData
  inboundEnabled : Bool
  outboundEnabled : Bool
deriving DecidableEq, Repr

/-- `models.ContainerRegisterRequest`. -/
structure ContainerRegisterRequest where
  name : String
  host : String
  port : Int
  aor : String
  contactURI : String
deriving DecidableEq, Repr

/-- `models.ToggleContainerRequest`: a flag that is `none` stays as it is. -/
structure ToggleContainerRequest where
  inboundEnabled : Option Bool
  outboundEnabled : Option Bool
deriving DecidableEq, Repr

/-- `models.InitiateCallRequest`. -/
structure InitiateCallRequest where
  phoneNumber : String
  websocketURL : String
  webhookURL : String
  trunkName : String
  sampleRate : Int
  ambientAudio : String
  type : String
deriving DecidableEq, Repr

/-- The direction of a call, `"inbound"` or `"outbound"` in the source. -/
inductive Direction where
  | inbound
  | outbound
deriving DecidableEq, Repr

/-- The flag of a registration for one direction. -/
def ContainerRegistration.enabled (reg : ContainerRegistration) : Direction → Bool
  | .inbound  => reg.inboundEnabled
  | .outbound => reg.outboundEnabled

/-- The flag of a server for one direction. -/
def ServerMetadata.enabled (md : ServerMetadata) : Direction → Bool
  | .inbound  => md.inboundEnabled
  | .outbound => md.outboundEnabled

/-- The part of a server's metadata that is also kept in Redis. -/
def ServerMetadata.registration (md : ServerMetadata) : ContainerRegistration where
  name := md.name
  host := md.host
  port := md.port
  aor := md.aor
  contactURI := md.contactURI
  inboundEnabled := md.inboundEnabled
  outboundEnabled := md.outboundEnabled

/-- A server as it enters `LSML`: the registration with default health. -/
def ContainerRegistration.toServer (now : Int) (reg : ContainerRegistration) :
    ServerMetadata where
  name := reg.name
  host := reg.host
  port := reg.port
  aor := reg.aor
  contactURI := reg.contactURI
  health := getDefaultHealth now
  inboundEnabled := reg.inboundEnabled
  outboundEnabled := reg.outboundEnabled

@[simp] lemma ContainerRegistration.toServer_registration (now : Int)
    (reg : ContainerRegistration) : (reg.toServer now).registration = reg := rfl

@[simp] lemma ContainerRegistration.toServer_name (now : Int) (reg : ContainerRegistration) :
    (reg.toServer now).name = reg.name := rfl

@[simp] lemma ContainerRegistration.toServer_enabled (now : Int) (reg : ContainerRegistration)
    (d : Direction) : (reg.toServer now).enabled d = reg.enabled d := by
  cases d <;> rfl

@[simp] lemma ServerMetadata.registration_name (md : ServerMetadata) :
    md.registration.name = md.name := rfl

@[simp] lemma ServerMetadata.registration_enabled (md : ServerMetadata) (d : Direction) :
    md.registration.enabled d = md.enabled d := by
  cases d <;> rfl

end LoadBalancer
