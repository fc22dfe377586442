import SipForward.Core.Json
import SipForward.LoadBalancer.Models
import SipForward.MediaServer.Environment
import Mathlib.Data.Int.DivMod

/-!
# An initiate-call body through the load balancer

`InitiateCallHandler` decodes the body into a Go struct and forwards the encoding of that struct;
`CallManager::initiateCall` reads the body with its own lookups and defaults. The two agree on a
body exactly when the container would read the same from it as the load balancer does.
-/

namespace LoadBalancer

open Core

/-! ### The load balancer -/

/-- Case folding of a rune, as far as it decides equality with the ASCII names of the fields. -/
def foldRune (c : Char) : Char :=
  if c = '\u017f' then 's'
  else if c = '\u212a' then 'k'
  else c.toLower

/-- The name by which `encoding/json` finds a field. -/
def foldName (name : String) : String := String.ofList (name.toList.map foldRune)

/-- `json.UnmarshalTypeError`: the kind of the value, and the field it does not go into with its Go
type. The offset and the literal of a number are left out. -/
structure UnmarshalTypeError where
  value : String
  field : String
  type : String

/-- The kind of a value in an `UnmarshalTypeError`. -/
def kind : Json → String
  | .null     => "null"
  | .bool _   => "bool"
  | .number _ => "number"
  | .string _ => "string"
  | .array _  => "array"
  | .object _ => "object"

/-- A value decoded into a string field: null leaves the field as it is. -/
def decodeString (field old : String) : Json → Except UnmarshalTypeError String
  | .null     => .ok old
  | .string s => .ok s.decode
  | v         => .error ⟨kind v, field, "string"⟩

/-- A value decoded into an int field: null leaves the field as it is, a number must be written as
an integer and fit 64 bits. -/
def decodeInt (field : String) (old : Int) : Json → Except UnmarshalTypeError Int
  | .null => .ok old
  | .number (.integer v) =>
    if -9223372036854775808 ≤ v ∧ v ≤ 9223372036854775807 then .ok v
    else .error ⟨"number", field, "int"⟩
  | v => .error ⟨kind v, field, "int"⟩

/-- One member of the body decoded into the request; a member that is no field is skipped. -/
def decodeMember (req : InitiateCallRequest) (m : Member) :
    Except UnmarshalTypeError InitiateCallRequest :=
  let name := foldName m.1.decode
  if name = "phone_number" then
    (decodeString name req.phoneNumber m.2).map fun s => { req with phoneNumber := s }
  else if name = "websocket_url" then
    (decodeString name req.websocketURL m.2).map fun s => { req with websocketURL := s }
  else if name = "webhook_url" then
    (decodeString name req.webhookURL m.2).map fun s => { req with webhookURL := s }
  else if name = "trunk_name" then
    (decodeString name req.trunkName m.2).map fun s => { req with trunkName := s }
  else if name = "sample_rate" then
    (decodeInt name req.sampleRate m.2).map fun v => { req with sampleRate := v }
  else if name = "ambient_audio" then
    (decodeString name req.ambientAudio m.2).map fun s => { req with ambientAudio := s }
  else if name = "type" then
    (decodeString name req.type m.2).map fun s => { req with type := s }
  else .ok req

/-- The zero value of the struct. -/
def emptyRequest : InitiateCallRequest := ⟨"", "", "", "", 0, "", ""⟩

/-- `ShouldBindJSON` into `InitiateCallRequest`. -/
def shouldBindJSON (members : List Member) : Except UnmarshalTypeError InitiateCallRequest :=
  members.foldlM decodeMember emptyRequest

/-- The string a value is, otherwise what there was before. -/
def stringOr (old : String) : Json → String
  | .string s => s.decode
  | _         => old

/-- The integer a value is, otherwise what there was before. -/
def integerOr (old : Int) : Json → Int
  | .number (.integer v) => v
  | _                    => old

/-- The last string under a name that may be written in any case; empty if there is none. -/
def lastString (name : String) (members : List Member) : String :=
  members.foldl (fun old m => if foldName m.1.decode = name then stringOr old m.2 else old) ""

/-- The last integer under a name that may be written in any case; 0 if there is none. -/
def lastInteger (name : String) (members : List Member) : Int :=
  members.foldl (fun old m => if foldName m.1.decode = name then integerOr old m.2 else old) 0

def stringMember (name value : String) : Member :=
  (Text.ofString name, .string (Text.ofString value))

/-- `json.Marshal` of the request. -/
def marshal (req : InitiateCallRequest) : List Member :=
  [stringMember "phone_number" req.phoneNumber,
    stringMember "websocket_url" req.websocketURL,
    stringMember "webhook_url" req.webhookURL,
    stringMember "trunk_name" req.trunkName,
    (Text.ofString "sample_rate", .number (.integer req.sampleRate)),
    stringMember "ambient_audio" req.ambientAudio] ++
  if req.type = "" then [] else [stringMember "type" req.type]

end LoadBalancer

namespace MediaServer

open Core

/-! ### The container -/

/-- What `initiateCall` reads from the body. -/
structure CallParams where
  phoneNumber : String
  websocketURL : String
  webhookURL : String
  trunkName : String
  sampleRate : Int
deriving DecidableEq

/-- An exception that `initiateCall` answers with 500. -/
inductive Exception where
  | parseError
  | typeError (expected actual : String)
  | stoi
deriving DecidableEq

/-- How a body fares until it has passed validation or not. -/
inductive Outcome where
  | internalError (e : Exception)
  | badRequest (message : String)
  | accepted (params : CallParams)
deriving DecidableEq

/-- `std::string s = body[name]`. A name that is missing reads as null. -/
def getString (members : List Member) (name : String) : Except Exception String :=
  match Json.lookupLast name members with
  | some (.string s) => .ok s.decode
  | some v           => .error (.typeError "string" v.typeName)
  | none             => .error (.typeError "string" "null")

/-- `static_cast<int>` of a number; `ofDouble` is the conversion of one that is kept as a double. -/
def castInt (ofDouble : Number → Int) : Number → Int
  | .integer v =>
    if -9223372036854775808 ≤ v ∧ v ≤ 18446744073709551615 then v.bmod 4294967296
    else ofDouble (.integer v)
  | n => ofDouble n

/-- `body.value(name, default)` for an `int`. -/
def getInt (ofDouble : Number → Int) (members : List Member) (name : String)
    (defaultValue : Int) : Except Exception Int :=
  match Json.lookupLast name members with
  | none             => .ok defaultValue
  | some (.number n) => .ok (castInt ofDouble n)
  | some (.bool b)   => .ok (if b then 1 else 0)
  | some v           => .error (.typeError "number" v.typeName)

/-- The reads of `initiateCall`, in its order. -/
def readParams (ofDouble : Number → Int) (env : Env) (members : List Member) :
    Except Exception CallParams :=
  if Json.readableMembers members then do
    let phoneNumber ← getString members "phone_number"
    let websocketURL ← getString members "websocket_url"
    let webhookURL ← getString members "webhook_url"
    let trunkName ← getString members "trunk_name"
    let defaultRate ← (getEnvInt env "SAMPLE_RATE" 8000).mapError fun _ => Exception.stoi
    let sampleRate ← getInt ofDouble members "sample_rate" defaultRate
    pure ⟨phoneNumber, websocketURL, webhookURL, trunkName, sampleRate⟩
  else .error .parseError

/-- The first check of `initiateCall`. -/
def CallParams.valid (p : CallParams) : Bool :=
  isValidPhoneNumber p.phoneNumber && decide (p.trunkName ≠ "")

/-- The second check of `initiateCall`. -/
def CallParams.validRate (p : CallParams) : Bool :=
  decide (p.sampleRate = 8000 ∨ p.sampleRate = 16000)

/-- The checks of `initiateCall`. -/
def CallParams.validate (p : CallParams) : Outcome :=
  if ¬ p.valid then .badRequest "Invalid or missing parameters"
  else if ¬ p.validRate then .badRequest "Invalid sample rate. Must be 8000 or 16000"
  else .accepted p

/-- The parse and validation of `initiateCall` on the members of a body. -/
def initiateCall (ofDouble : Number → Int) (env : Env) (members : List Member) : Outcome :=
  match readParams ofDouble env members with
  | .error e => .internalError e
  | .ok p    => p.validate

end MediaServer

namespace MediaServer

open Core LoadBalancer

variable {ofDouble : Number → Int} {env : Env} {members : List Member} {req : InitiateCallRequest}

/-! ### What is forwarded -/

/-- A value of Go's `int`. -/
def IsInt64 (v : Int) : Prop := -9223372036854775808 ≤ v ∧ v ≤ 9223372036854775807

lemma except_map_ok {ε α β : Type} {x : Except ε α} {f : α → β} {b : β}
    (h : x.map f = .ok b) : ∃ a, x = .ok a ∧ f a = b := by
  cases x with
  | error e => cases h
  | ok a => exact ⟨a, rfl, Except.ok.inj h⟩

lemma decodeInt_ok {field : String} {old v : Int} {j : Json}
    (h : decodeInt field old j = .ok v) :
    j = .null ∧ v = old ∨ j = .number (.integer v) ∧ IsInt64 v := by
  cases j with
  | null =>
    cases h
    exact Or.inl ⟨rfl, rfl⟩
  | number n =>
    cases n with
    | integer u =>
      simp only [decodeInt] at h
      split_ifs at h with hu
      cases h
      exact Or.inr ⟨rfl, hu⟩
    | decimal m e => cases h
  | _ => cases h

lemma decodeString_ok {field old s : String} {j : Json} (h : decodeString field old j = .ok s) :
    s = stringOr old j := by
  cases j with
  | null =>
    cases h
    rfl
  | string t =>
    cases h
    rfl
  | _ => cases h

lemma decodeInt_integerOr {field : String} {old v : Int} {j : Json}
    (h : decodeInt field old j = .ok v) : v = integerOr old j := by
  rcases decodeInt_ok h with ⟨rfl, rfl⟩ | ⟨rfl, -⟩ <;> rfl

/-- A member that decodes changes the field it is called, in any case, and no other. -/
lemma decodeMember_fields {req' : InitiateCallRequest} {m : Member}
    (h : decodeMember req m = .ok req') :
    req'.phoneNumber = (if foldName m.1.decode = "phone_number" then stringOr req.phoneNumber m.2
      else req.phoneNumber) ∧
    req'.websocketURL = (if foldName m.1.decode = "websocket_url" then stringOr req.websocketURL m.2
      else req.websocketURL) ∧
    req'.webhookURL = (if foldName m.1.decode = "webhook_url" then stringOr req.webhookURL m.2
      else req.webhookURL) ∧
    req'.trunkName = (if foldName m.1.decode = "trunk_name" then stringOr req.trunkName m.2
      else req.trunkName) ∧
    req'.sampleRate = (if foldName m.1.decode = "sample_rate" then integerOr req.sampleRate m.2
      else req.sampleRate) := by
  simp only [decodeMember] at h
  generalize foldName m.1.decode = name at h ⊢
  split_ifs at h with h₁ h₂ h₃ h₄ h₅ h₆ h₇
  · obtain ⟨s, hs, rfl⟩ := except_map_ok h
    simp [h₁, decodeString_ok hs]
  · obtain ⟨s, hs, rfl⟩ := except_map_ok h
    simp [h₂, decodeString_ok hs]
  · obtain ⟨s, hs, rfl⟩ := except_map_ok h
    simp [h₃, decodeString_ok hs]
  · obtain ⟨s, hs, rfl⟩ := except_map_ok h
    simp [h₄, decodeString_ok hs]
  · obtain ⟨v, hv, rfl⟩ := except_map_ok h
    simp [h₅, decodeInt_integerOr hv]
  · obtain ⟨s, -, rfl⟩ := except_map_ok h
    simp [h₆]
  · obtain ⟨s, -, rfl⟩ := except_map_ok h
    simp [h₇]
  · cases h
    simp [h₁, h₂, h₃, h₄, h₅]

/-- A member called `sample_rate`, in any case, that decodes is null or an integer that fits 64
bits. -/
lemma decodeMember_rate {req' : InitiateCallRequest} {m : Member}
    (h : decodeMember req m = .ok req') (hname : foldName m.1.decode = "sample_rate") :
    m.2 = .null ∨ ∃ v, m.2 = .number (.integer v) ∧ IsInt64 v := by
  simp only [decodeMember, hname] at h
  obtain ⟨v, hv, -⟩ := except_map_ok (by simpa using h)
  rcases decodeInt_ok hv with ⟨hnull, -⟩ | ⟨hint, hrange⟩
  · exact Or.inl hnull
  · exact Or.inr ⟨v, hint, hrange⟩

lemma decodeMember_int64 {req' : InitiateCallRequest} {m : Member}
    (h : decodeMember req m = .ok req') (hreq : IsInt64 req.sampleRate) :
    IsInt64 req'.sampleRate := by
  obtain ⟨-, -, -, -, hrate⟩ := decodeMember_fields h
  rw [hrate]
  split_ifs with hname
  · rcases decodeMember_rate h hname with hnull | ⟨v, hv, hrange⟩
    · rw [hnull]
      exact hreq
    · rw [hv]
      exact hrange
  · exact hreq

lemma foldlM_decode_rate {req' : InitiateCallRequest}
    (h : members.foldlM decodeMember req = .ok req') (hreq : IsInt64 req.sampleRate) :
    IsInt64 req'.sampleRate ∧ ∀ m ∈ members, foldName m.1.decode = "sample_rate" →
      m.2 = .null ∨ ∃ v, m.2 = .number (.integer v) ∧ IsInt64 v := by
  induction members generalizing req with
  | nil =>
    cases h
    exact ⟨hreq, by simp⟩
  | cons m members ih =>
    rw [List.foldlM_cons] at h
    cases hm : decodeMember req m with
    | error e =>
      rw [hm] at h
      cases h
    | ok req₁ =>
      rw [hm] at h
      obtain ⟨hint, hmem⟩ := ih h (decodeMember_int64 hm hreq)
      exact ⟨hint, List.forall_mem_cons.mpr ⟨decodeMember_rate hm, hmem⟩⟩

/-- The rate of a request that was bound fits 64 bits, and so does every rate in its body. -/
lemma shouldBindJSON_rate (h : shouldBindJSON members = .ok req) :
    IsInt64 req.sampleRate ∧ ∀ m ∈ members, foldName m.1.decode = "sample_rate" →
      m.2 = .null ∨ ∃ v, m.2 = .number (.integer v) ∧ IsInt64 v :=
  foldlM_decode_rate h ⟨by decide, by decide⟩

/-- What the load balancer reads from a body, as the container reads it from the forwarded one. -/
def readByLoadBalancer (members : List Member) : CallParams where
  phoneNumber := lastString "phone_number" members
  websocketURL := lastString "websocket_url" members
  webhookURL := lastString "webhook_url" members
  trunkName := lastString "trunk_name" members
  sampleRate := (lastInteger "sample_rate" members).bmod 4294967296

lemma foldlM_decode_fields {req' : InitiateCallRequest}
    (h : members.foldlM decodeMember req = .ok req') :
    req'.phoneNumber = members.foldl (fun old m =>
      if foldName m.1.decode = "phone_number" then stringOr old m.2 else old) req.phoneNumber ∧
    req'.websocketURL = members.foldl (fun old m =>
      if foldName m.1.decode = "websocket_url" then stringOr old m.2 else old) req.websocketURL ∧
    req'.webhookURL = members.foldl (fun old m =>
      if foldName m.1.decode = "webhook_url" then stringOr old m.2 else old) req.webhookURL ∧
    req'.trunkName = members.foldl (fun old m =>
      if foldName m.1.decode = "trunk_name" then stringOr old m.2 else old) req.trunkName ∧
    req'.sampleRate = members.foldl (fun old m =>
      if foldName m.1.decode = "sample_rate" then integerOr old m.2 else old) req.sampleRate := by
  induction members generalizing req with
  | nil =>
    cases h
    simp
  | cons m members ih =>
    rw [List.foldlM_cons] at h
    cases hm : decodeMember req m with
    | error e =>
      rw [hm] at h
      cases h
    | ok req₁ =>
      rw [hm] at h
      obtain ⟨h₁, h₂, h₃, h₄, h₅⟩ := decodeMember_fields hm
      obtain ⟨hp, hws, hwh, ht, hr⟩ := ih h
      simp only [List.foldl_cons]
      rw [hp, hws, hwh, ht, hr, h₁, h₂, h₃, h₄, h₅]
      exact ⟨rfl, rfl, rfl, rfl, rfl⟩

/-- The rate under the exact name of a body that decodes. -/
lemma lookup_rate (h : shouldBindJSON members = .ok req) {v : Json}
    (hv : Json.lookupLast "sample_rate" members = some v) :
    v = .null ∨ ∃ u, v = .number (.integer u) ∧ IsInt64 u := by
  obtain ⟨m, hm, hname, rfl⟩ := Json.lookupLast_mem hv
  refine (shouldBindJSON_rate h).2 m hm ?_
  rw [hname]
  decide

lemma castInt_of_int64 {v : Int} (h : IsInt64 v) :
    castInt ofDouble (.integer v) = v.bmod 4294967296 :=
  if_pos ⟨h.1, by have := h.2; omega⟩

/-- What the container reads from the forwarded body. -/
def forwarded (req : InitiateCallRequest) : CallParams where
  phoneNumber := req.phoneNumber
  websocketURL := req.websocketURL
  webhookURL := req.webhookURL
  trunkName := req.trunkName
  sampleRate := req.sampleRate.bmod 4294967296

lemma forwarded_eq (h : shouldBindJSON members = .ok req) :
    forwarded req = readByLoadBalancer members := by
  obtain ⟨h₁, h₂, h₃, h₄, h₅⟩ := foldlM_decode_fields h
  simp only [forwarded, readByLoadBalancer, lastString, lastInteger, h₁, h₂, h₃, h₄, h₅]
  rfl

lemma integer_not_overflows {v : Int} (h : IsInt64 v) : (Number.integer v).overflows = false := by
  have hlt := Number.int64_lt_doubleLimit
  have habs : v.natAbs ≤ 2 ^ 63 := by
    obtain ⟨h₁, h₂⟩ := h
    omega
  simp only [Number.overflows, decide_eq_false_iff_not, not_le]
  omega

lemma marshal_readable (h : IsInt64 req.sampleRate) :
    Json.readableMembers (marshal req) = true := by
  have hrate := integer_not_overflows h
  simp only [marshal]
  split_ifs <;> simp [Json.readableMembers, stringMember, Json.readable, hrate]

lemma marshal_strings (req : InitiateCallRequest) :
    getString (marshal req) "phone_number" = .ok req.phoneNumber ∧
    getString (marshal req) "websocket_url" = .ok req.websocketURL ∧
    getString (marshal req) "webhook_url" = .ok req.webhookURL ∧
    getString (marshal req) "trunk_name" = .ok req.trunkName := by
  simp only [marshal]
  split_ifs <;> simp [getString, Json.lookupLast, stringMember]

lemma marshal_rate (h : IsInt64 req.sampleRate) (defaultValue : Int) :
    getInt ofDouble (marshal req) "sample_rate" defaultValue =
      .ok (req.sampleRate.bmod 4294967296) := by
  have hcast : castInt ofDouble (.integer req.sampleRate) = _ := castInt_of_int64 h
  rw [← hcast]
  simp only [marshal]
  split_ifs <;> simp [getInt, Json.lookupLast, stringMember]

/-- The container on the forwarded body. -/
lemma initiateCall_marshal (h : IsInt64 req.sampleRate) :
    initiateCall ofDouble env (marshal req) =
      match getEnvInt env "SAMPLE_RATE" 8000 with
      | .error _ => .internalError .stoi
      | .ok _    => (forwarded req).validate := by
  obtain ⟨h₁, h₂, h₃, h₄⟩ := marshal_strings req
  simp only [initiateCall, readParams, marshal_readable h, if_true, h₁, h₂, h₃, h₄, bind,
    Except.bind]
  cases getEnvInt env "SAMPLE_RATE" 8000 with
  | error e => rfl
  | ok d =>
    simp only [Except.mapError, marshal_rate h]
    rfl

/-! ### When the two agree -/

/-- The last member of a name is a string of this value. -/
def HasString (members : List Member) (name s : String) : Prop :=
  ∃ text, Json.lookupLast name members = some (.string text) ∧ text.decode = s

/-- The rate under the exact name: the default if there is none, otherwise a number. -/
def HasRate (members : List Member) (defaultValue rate : Int) : Prop :=
  Json.lookupLast "sample_rate" members = none ∧ rate = defaultValue ∨
    ∃ v, Json.lookupLast "sample_rate" members = some (.number (.integer v)) ∧
      rate = v.bmod 4294967296

/-- Validation treats both alike: it refuses both at the same check, or they are the same. -/
def SameVerdict (p q : CallParams) : Prop :=
  p.valid = false ∧ q.valid = false ∨
    (p.valid = true ∧ q.valid = true ∧ p.validRate = false ∧ q.validRate = false) ∨ p = q

/-- The container can read the body, which gives the four strings under their exact names, and with
the rate under its exact name, or the container's default, it comes to the same verdict as on what
the load balancer reads, which takes the last value under a name in any case. -/
def ReadsAlike (env : Env) (members : List Member) : Prop :=
  Json.readableMembers members = true ∧
    ∃ phoneNumber websocketURL webhookURL trunkName,
      HasString members "phone_number" phoneNumber ∧
      HasString members "websocket_url" websocketURL ∧
      HasString members "webhook_url" webhookURL ∧ HasString members "trunk_name" trunkName ∧
      ∀ defaultRate, getEnvInt env "SAMPLE_RATE" 8000 = .ok defaultRate →
        ∃ rate, HasRate members defaultRate rate ∧
          SameVerdict ⟨phoneNumber, websocketURL, webhookURL, trunkName, rate⟩
            (readByLoadBalancer members)

lemma getString_ok_iff {name s : String} :
    getString members name = .ok s ↔ HasString members name s := by
  simp only [getString, HasString]
  cases Json.lookupLast name members with
  | none => simp
  | some v => cases v <;> simp

lemma getString_ne_stoi (members : List Member) (name : String) :
    getString members name ≠ .error .stoi := by
  simp only [getString]
  cases Json.lookupLast name members with
  | none => simp
  | some v => cases v <;> simp

lemma getInt_ne_stoi (ofDouble : Number → Int) (members : List Member) (name : String)
    (defaultValue : Int) : getInt ofDouble members name defaultValue ≠ .error .stoi := by
  simp only [getInt]
  cases Json.lookupLast name members with
  | none => simp
  | some v => cases v <;> simp

/-- On a body that the load balancer accepts, the container reads a rate from an integer or takes
the default. -/
lemma getInt_ok_iff (h : shouldBindJSON members = .ok req) {defaultValue rate : Int} :
    getInt ofDouble members "sample_rate" defaultValue = .ok rate ↔
      HasRate members defaultValue rate := by
  simp only [getInt, HasRate]
  cases hv : Json.lookupLast "sample_rate" members with
  | none => simp [eq_comm]
  | some v =>
    rcases lookup_rate h hv with rfl | ⟨u, rfl, hu⟩
    · simp
    · simp [castInt_of_int64 hu, eq_comm]

lemma except_bind_ok_iff {α β : Type} {x : Except Exception α} {f : α → Except Exception β}
    {b : β} : x.bind f = .ok b ↔ ∃ a, x = .ok a ∧ f a = .ok b := by
  cases x <;> simp [Except.bind]

lemma except_bind_error_iff {α β : Type} {x : Except Exception α} {f : α → Except Exception β}
    {e : Exception} : x.bind f = .error e ↔ x = .error e ∨ ∃ a, x = .ok a ∧ f a = .error e := by
  cases x <;> simp [Except.bind]

lemma mapError_ok_iff {x : Except String Int} {v : Int} :
    (x.mapError fun _ => Exception.stoi) = .ok v ↔ x = .ok v := by
  cases x <;> simp [Except.mapError]

lemma mapError_stoi_iff {x : Except String Int} :
    (x.mapError fun _ => Exception.stoi) = .error .stoi ↔ ∃ e, x = .error e := by
  cases x <;> simp [Except.mapError]

lemma readParams_ok_iff (h : shouldBindJSON members = .ok req) {p : CallParams} :
    readParams ofDouble env members = .ok p ↔
      Json.readableMembers members = true ∧
      HasString members "phone_number" p.phoneNumber ∧
      HasString members "websocket_url" p.websocketURL ∧
      HasString members "webhook_url" p.webhookURL ∧
      HasString members "trunk_name" p.trunkName ∧
      ∃ defaultRate, getEnvInt env "SAMPLE_RATE" 8000 = .ok defaultRate ∧
        HasRate members defaultRate p.sampleRate := by
  obtain ⟨phoneNumber, websocketURL, webhookURL, trunkName, sampleRate⟩ := p
  simp only [readParams]
  split_ifs with hread
  · simp only [bind, pure, except_bind_ok_iff, getString_ok_iff, mapError_ok_iff, getInt_ok_iff h]
    constructor
    · rintro ⟨_, h₁, _, h₂, _, h₃, _, h₄, d, hd, r, hr, heq⟩
      cases heq
      exact ⟨hread, h₁, h₂, h₃, h₄, d, hd, hr⟩
    · rintro ⟨-, h₁, h₂, h₃, h₄, d, hd, hr⟩
      exact ⟨_, h₁, _, h₂, _, h₃, _, h₄, d, hd, _, hr, rfl⟩
  · simp [hread]

lemma readParams_stoi_iff :
    readParams ofDouble env members = .error .stoi ↔
      Json.readableMembers members = true ∧
      (∃ s, HasString members "phone_number" s) ∧ (∃ s, HasString members "websocket_url" s) ∧
      (∃ s, HasString members "webhook_url" s) ∧ (∃ s, HasString members "trunk_name" s) ∧
      ∃ e, getEnvInt env "SAMPLE_RATE" 8000 = .error e := by
  simp only [readParams]
  split_ifs with hread
  · simp only [bind, pure, except_bind_error_iff, getString_ne_stoi, getInt_ne_stoi, false_or,
      getString_ok_iff, mapError_stoi_iff, mapError_ok_iff, hread, true_and]
    constructor
    · rintro ⟨s₁, h₁, s₂, h₂, s₃, h₃, s₄, h₄, he | ⟨d, -, r, -, heq⟩⟩
      · exact ⟨⟨s₁, h₁⟩, ⟨s₂, h₂⟩, ⟨s₃, h₃⟩, ⟨s₄, h₄⟩, he⟩
      · cases heq
    · rintro ⟨⟨s₁, h₁⟩, ⟨s₂, h₂⟩, ⟨s₃, h₃⟩, ⟨s₄, h₄⟩, he⟩
      exact ⟨s₁, h₁, s₂, h₂, s₃, h₃, s₄, h₄, Or.inl he⟩
  · simp [hread]

lemma validate_eq_iff (p q : CallParams) : p.validate = q.validate ↔ SameVerdict p q := by
  simp only [CallParams.validate, SameVerdict]
  constructor
  · intro h
    cases hp : p.valid <;> cases hq : q.valid <;> cases hpr : p.validRate <;>
      cases hqr : q.validRate <;> simp_all
  · rintro (⟨hp, hq⟩ | ⟨hp, hq, hpr, hqr⟩ | rfl)
    · simp [hp, hq]
    · simp [hp, hq, hpr, hqr]
    · rfl

lemma validate_ne_internalError (p : CallParams) (e : Exception) :
    p.validate ≠ .internalError e := by
  simp only [CallParams.validate]
  split_ifs <;> simp

/-- For every body that the load balancer accepts, the container comes to the same outcome on what
is forwarded as on the body itself exactly when it reads the two alike. -/
theorem forward_same_iff (h : shouldBindJSON members = .ok req) (ofDouble : Number → Int)
    (env : Env) :
    initiateCall ofDouble env (marshal req) = initiateCall ofDouble env members ↔
      ReadsAlike env members := by
  have hint : IsInt64 req.sampleRate := (shouldBindJSON_rate h).1
  rw [initiateCall_marshal hint, forwarded_eq h]
  simp only [ReadsAlike]
  cases henv : getEnvInt env "SAMPLE_RATE" 8000 with
  | error e =>
    have hdirect : initiateCall ofDouble env members = .internalError .stoi ↔
        readParams ofDouble env members = .error .stoi := by
      simp only [initiateCall]
      cases readParams ofDouble env members with
      | error e => simp
      | ok p => simp [validate_ne_internalError]
    rw [eq_comm, hdirect, readParams_stoi_iff, henv]
    constructor
    · rintro ⟨hread, ⟨s₁, h₁⟩, ⟨s₂, h₂⟩, ⟨s₃, h₃⟩, ⟨s₄, h₄⟩, -⟩
      exact ⟨hread, s₁, s₂, s₃, s₄, h₁, h₂, h₃, h₄, by simp⟩
    · rintro ⟨hread, s₁, s₂, s₃, s₄, h₁, h₂, h₃, h₄, -⟩
      exact ⟨hread, ⟨s₁, h₁⟩, ⟨s₂, h₂⟩, ⟨s₃, h₃⟩, ⟨s₄, h₄⟩, e, rfl⟩
  | ok d =>
    constructor
    · intro heq
      unfold initiateCall at heq
      cases hp : readParams ofDouble env members with
      | error e =>
        rw [hp] at heq
        exact absurd heq (validate_ne_internalError _ e)
      | ok p =>
        rw [hp] at heq
        obtain ⟨hread, h₁, h₂, h₃, h₄, d', hd', hrate⟩ := (readParams_ok_iff h).mp hp
        rw [henv] at hd'
        cases hd'
        refine ⟨hread, _, _, _, _, h₁, h₂, h₃, h₄, ?_⟩
        rintro _ ⟨⟩
        exact ⟨_, hrate, (validate_eq_iff _ _).mp heq.symm⟩
    · rintro ⟨hread, s₁, s₂, s₃, s₄, h₁, h₂, h₃, h₄, hd⟩
      obtain ⟨rate, hrate, hsame⟩ := hd d rfl
      have hp : readParams ofDouble env members = .ok ⟨s₁, s₂, s₃, s₄, rate⟩ :=
        (readParams_ok_iff h).mpr ⟨hread, h₁, h₂, h₃, h₄, d, henv, hrate⟩
      simp only [initiateCall]
      rw [hp]
      exact ((validate_eq_iff _ _).mpr hsame).symm

/-- A body without the optional `sample_rate`. -/
def bodyWithoutRate : List Member :=
  [stringMember "phone_number" "919876543210", stringMember "websocket_url" "wss://agent/voice",
    stringMember "webhook_url" "https://backend/status", stringMember "trunk_name" "trunk-1"]

/-- What the load balancer reads from it. -/
def requestWithoutRate : InitiateCallRequest :=
  ⟨"919876543210", "wss://agent/voice", "https://backend/status", "trunk-1", 0, "", ""⟩

/-- The container takes its default rate when asked directly, and refuses the rate 0 that the load
balancer forwards. -/
theorem bodyWithoutRate_differs :
    shouldBindJSON bodyWithoutRate = .ok requestWithoutRate ∧
    initiateCall (fun _ => 0) (fun _ => none) bodyWithoutRate =
      .accepted ⟨"919876543210", "wss://agent/voice", "https://backend/status", "trunk-1", 8000⟩ ∧
    initiateCall (fun _ => 0) (fun _ => none) (marshal requestWithoutRate) =
      .badRequest "Invalid sample rate. Must be 8000 or 16000" := by
  refine ⟨rfl, rfl, ?_⟩
  rw [initiateCall_marshal ⟨by decide, by decide⟩]
  rfl

/-- A body with all five fields. -/
def bodyWithRate : List Member :=
  bodyWithoutRate ++ [(Text.ofString "sample_rate", .number (.integer 16000))]

theorem forward_same_iff_sample :
    initiateCall (fun _ => 0) (fun _ => none)
        (marshal { requestWithoutRate with sampleRate := 16000 }) =
      initiateCall (fun _ => 0) (fun _ => none) bodyWithRate :=
  (forward_same_iff (show shouldBindJSON bodyWithRate =
      .ok { requestWithoutRate with sampleRate := 16000 } from rfl) (fun _ => 0) fun _ => none).mpr
    ⟨by decide +kernel, _, _, _, _, ⟨_, rfl, rfl⟩, ⟨_, rfl, rfl⟩, ⟨_, rfl, rfl⟩, ⟨_, rfl, rfl⟩,
      fun _ _ => ⟨_, Or.inr ⟨_, rfl, rfl⟩, Or.inr (Or.inr rfl)⟩⟩

end MediaServer
