import SipForward.Core.GoJson
import SipForward.LoadBalancer.Agreement
import SipForward.System.Forwarding

/-!
# Registrations as texts

Redis holds the registrations as JSON texts, and the requests about them arrive as texts. The
service that reads and writes texts takes the same steps as the one that keeps the records
themselves, whatever the texts are, as long as every one that was stored before decodes.
-/

namespace LoadBalancer

open Core AList

/-! ### Go structs -/

/-- A field of a struct with its tag. -/
inductive StructField (σ : Type) where
  | string (tag : String) (get : σ → String) (set : String → σ → σ)
  | int (tag : String) (get : σ → Int) (set : Int → σ → σ)
  | bool (tag : String) (get : σ → Bool) (set : Bool → σ → σ)
  | boolPointer (tag : String) (get : σ → Option Bool) (set : Option Bool → σ → σ)

/-- A struct type, its zero value and its fields in their order. -/
structure Struct (σ : Type) where
  name : String
  zero : σ
  fields : List (StructField σ)

/-- A value decoded into a bool field: null leaves the field as it is. -/
def decodeBool (field : String) (old : Bool) : Json → Except UnmarshalTypeError Bool
  | .null   => .ok old
  | .bool b => .ok b
  | v       => .error ⟨kind v, field, "bool"⟩

/-- A value decoded into a field of a pointer to a bool: null is the nil pointer. -/
def decodeBoolPointer (field : String) : Json → Except UnmarshalTypeError (Option Bool)
  | .null   => .ok none
  | .bool b => .ok (some b)
  | v       => .error ⟨kind v, field, "bool"⟩

/-- Why a text does not decode. -/
inductive DecodeError where
  | syntaxError
  | typeError (e : UnmarshalTypeError)

namespace StructField

variable {σ : Type}

def tag : StructField σ → String
  | .string tag _ _ | .int tag _ _ | .bool tag _ _ | .boolPointer tag _ _ => tag

/-- A value decoded into the field. -/
def decode (s : σ) (v : Json) : StructField σ → Except UnmarshalTypeError σ
  | .string tag get set    => (decodeString tag (get s) v).map fun x => set x s
  | .int tag get set       => (decodeInt tag (get s) v).map fun x => set x s
  | .bool tag get set      => (decodeBool tag (get s) v).map fun x => set x s
  | .boolPointer tag _ set => (decodeBoolPointer tag v).map fun x => set x s

def encode (s : σ) : StructField σ → Json
  | .string _ get _      => .string (Text.ofString (get s))
  | .int _ get _         => .number (.integer (get s))
  | .bool _ get _        => .bool (get s)
  | .boolPointer _ get _ => (get s).elim .null .bool

/-- The field with its tag. -/
def member (s : σ) (f : StructField σ) : Member := (Text.ofString f.tag, f.encode s)

/-- The field of `s` in a copy of `t`. -/
def copy (s t : σ) : StructField σ → σ
  | .string _ get set      => set (get s) t
  | .int _ get set         => set (get s) t
  | .bool _ get set        => set (get s) t
  | .boolPointer _ get set => set (get s) t

/-- An int field of 64 bits. -/
def Fits (s : σ) : StructField σ → Prop
  | .int _ get _ => MediaServer.IsInt64 (get s)
  | _            => True

/-- What is set through the field leaves a property of the struct. -/
def Keeps (P : σ → Prop) : StructField σ → Prop
  | .string _ _ set      => ∀ x s, P s → P (set x s)
  | .int _ get set       => ∀ x s, MediaServer.IsInt64 x ∨ x = get s → P s → P (set x s)
  | .bool _ _ set        => ∀ x s, P s → P (set x s)
  | .boolPointer _ _ set => ∀ x s, P s → P (set x s)

end StructField

namespace Struct

variable {σ : Type}

/-- One member decoded into the struct; a member that is no field is skipped. -/
def decodeMember (d : Struct σ) (s : σ) (m : Member) : Except UnmarshalTypeError σ :=
  match d.fields.find? fun f => f.tag = foldName m.1.decode with
  | some f => f.decode s m.2
  | none   => .ok s

/-- A value decoded into the struct: null leaves it as it is. -/
def decode (d : Struct σ) : Option Json → Except DecodeError σ
  | none                   => .error .syntaxError
  | some .null             => .ok d.zero
  | some (.object members) => (members.foldlM d.decodeMember d.zero).mapError .typeError
  | some v                 => .error (.typeError ⟨kind v, "", d.name⟩)

/-- `json.Unmarshal` into a struct that has its zero value. -/
def unmarshal (d : Struct σ) (t : Text) : Except DecodeError σ := d.decode (GoJson.parse t)

/-- `ShouldBindJSON`, which does not look at what follows the first value of a body. -/
def shouldBindJSON (d : Struct σ) (body : Text) : Except DecodeError σ :=
  d.decode (GoJson.decodeFirst body)

def members (d : Struct σ) (s : σ) : List Member := d.fields.map (·.member s)

/-- `json.Marshal`. -/
def marshal (d : Struct σ) (s : σ) : Text := JsonText.Encoder.go.value (.object (d.members s))

/-- Every tag is found as itself, and a struct is all of its fields. -/
structure Lawful (d : Struct σ) : Prop where
  find : ∀ f ∈ d.fields, d.fields.find? (fun g => g.tag = foldName f.tag) = some f
  copy : ∀ s, d.fields.foldl (fun t f => f.copy s t) d.zero = s

end Struct

/-! ### The structs of the load balancer -/

/-- `models.ContainerRegistration`. -/
def containerRegistration : Struct ContainerRegistration where
  name := "models.ContainerRegistration"
  zero := ⟨"", "", 0, "", "", false, false⟩
  fields :=
    [.string "name" (·.name) fun x reg => { reg with name := x },
      .string "host" (·.host) fun x reg => { reg with host := x },
      .int "port" (·.port) fun x reg => { reg with port := x },
      .string "aor" (·.aor) fun x reg => { reg with aor := x },
      .string "contact_uri" (·.contactURI) fun x reg => { reg with contactURI := x },
      .bool "inbound_enabled" (·.inboundEnabled) fun x reg => { reg with inboundEnabled := x },
      .bool "outbound_enabled" (·.outboundEnabled) fun x reg => { reg with outboundEnabled := x }]

/-- `models.ContainerRegisterRequest`. -/
def containerRegisterRequest : Struct ContainerRegisterRequest where
  name := "models.ContainerRegisterRequest"
  zero := ⟨"", "", 0, "", ""⟩
  fields :=
    [.string "name" (·.name) fun x req => { req with name := x },
      .string "host" (·.host) fun x req => { req with host := x },
      .int "port" (·.port) fun x req => { req with port := x },
      .string "aor" (·.aor) fun x req => { req with aor := x },
      .string "contact_uri" (·.contactURI) fun x req => { req with contactURI := x }]

/-- `models.ToggleContainerRequest`. -/
def toggleContainerRequest : Struct ToggleContainerRequest where
  name := "models.ToggleContainerRequest"
  zero := ⟨none, none⟩
  fields :=
    [.boolPointer "inbound_enabled" (·.inboundEnabled)
        fun x req => { req with inboundEnabled := x },
      .boolPointer "outbound_enabled" (·.outboundEnabled)
        fun x req => { req with outboundEnabled := x }]

/-! ### The service on texts -/

/-- The `container:*` keys of Redis with what is stored under them. -/
abbrev Store := GoMap Text

/-- A payload as it arrives, or the name in the path of a request. -/
inductive TextRequest where
  | register (body : Text)
  | unregister (name : String)
  | toggle (name : String) (body : Text)

/-- The request that is taken up. `none` when its payload is answered with 400. -/
def TextRequest.bound : TextRequest → Option Request
  | .register body    => (containerRegisterRequest.shouldBindJSON body).toOption.map .register
  | .unregister name  => some (.unregister name)
  | .toggle name body => (toggleContainerRequest.shouldBindJSON body).toOption.map (.toggle name)

/-- `json.Unmarshal` of what is stored under a key. -/
def Store.load (store : Store) (key : String) : Option ContainerRegistration :=
  (store.lookup key).bind fun val => (containerRegistration.unmarshal val).toOption

def Store.set (store : Store) (name : String) (reg : ContainerRegistration) : Store :=
  store.insert (containerKey name) (containerRegistration.marshal reg)

def Store.del (store : Store) (name : String) : Store := store.erase (containerKey name)

/-- The flags of a registration that is to be replaced; an empty text counts as none. -/
def Store.existing (store : Store) (key : String) : Option ContainerRegistration :=
  if store.lookup key = some [] then none else store.load key

/-- A handler's Redis command. -/
def Handler.commandText (reply : Reply) (store : Store) : Handler → Option (Store × Option Handler)
  | .registerGet req =>
    let existing := if reply = .ok then store.existing (containerKey req.name) else none
    some (store, some (.registerSet (req.build existing)))
  | .registerSet reg =>
    match reply with
    | .ok     => some (store.set reg.name reg, some (.registerServer reg))
    | .failed => some (store, none)
    | .lost   => some (store.set reg.name reg, none)
  | .unregisterDel name =>
    match reply with
    | .ok =>
      -- a container that is not stored is answered with 404
      if containerKey name ∈ store then some (store.del name, some (.unregisterServer name))
      else some (store, none)
    | .failed => some (store, none)
    | .lost   => some (store.del name, none)
  | .toggleGet name req =>
    -- 404 without the key, 500 if its text does not decode
    match reply, store.load (containerKey name) with
    | .ok, some reg => some (store, some (.toggleSet name req (reg.toggle req)))
    | _, _          => some (store, none)
  | .toggleSet name req reg =>
    -- the error of this SET is not looked at
    match reply with
    | .failed => some (store, some (.toggleServer name req))
    | _       => some (store.set name reg, some (.toggleServer name req))
  | _ => none

/-- The record `InitServerArrays` reads for one key that SCAN yields. -/
def Store.readKey (store : Store) (item : String × Bool) : Option ContainerRegistration :=
  if item.2 then store.load item.1 else none

/-- `InitServerArrays` on texts. -/
def initServerTexts (now : Int) (store : Store) (scan : List (String × Bool)) : State :=
  (scan.filterMap store.readKey).foldl (loadRegistration now) State.empty

/-- The service with the texts in its Redis. -/
structure TextWorld where
  mem : State
  store : Store
  handlers : AList fun _ : ℕ => Handler

inductive TextEvent where
  | request (id : ℕ) (r : TextRequest)
  | command (id : ℕ) (reply : Reply)
  | update (id : ℕ) (now : Int)
  | background (op : Op)

/-- A service that has just started. -/
def TextWorld.start (now : Int) (store : Store) (scan : List (String × Bool)) : TextWorld :=
  ⟨initServerTexts now store scan, store, ∅⟩

def stepText (w : TextWorld) : TextEvent → Option TextWorld
  | .request id r =>
    match r.bound with
    | none   => some w
    | some r =>
      if id ∈ w.handlers then none
      else some { w with handlers := advance w.handlers id r.start }
  | .command id reply =>
    (w.handlers.lookup id).bind fun h => (h.commandText reply w.store).map fun res =>
      { w with store := res.1, handlers := advance w.handlers id res.2 }
  | .update id now =>
    (w.handlers.lookup id).bind fun h => (h.update now).map fun op =>
      { w with mem := op.apply w.mem, handlers := advance w.handlers id none }
  | .background op => if op.isBackground then some { w with mem := op.apply w.mem } else none

/-- The steps on records that a step on texts is: none for a payload that does not bind. -/
def TextEvent.events : TextEvent → List Event
  | .request id r     => (r.bound.map (Event.request id)).toList
  | .command id reply => [.command id reply]
  | .update id now    => [.update id now]
  | .background op    => [.background op]

/-! ### Round trips -/

variable {σ : Type} {d : Struct σ} {f : StructField σ} {s s' t : σ} {P : σ → Prop}

lemma StructField.decode_encode (h : f.Fits s) (t : σ) :
    f.decode t (f.encode s) = .ok (f.copy s t) := by
  cases f with
  | string tag get set => simp [StructField.decode, encode, copy, decodeString, Except.map]
  | int tag get set =>
    have hrange : -9223372036854775808 ≤ get s ∧ get s ≤ 9223372036854775807 := h
    simp only [StructField.decode, encode, copy, decodeInt, if_pos hrange]
    rfl
  | bool tag get set => rfl
  | boolPointer tag get set =>
    simp only [StructField.decode, encode, copy]
    cases get s <;> rfl

lemma StructField.decode_keeps (hf : f.Keeps P) {v : Json} (h : f.decode s v = .ok s')
    (hs : P s) : P s' := by
  cases f with
  | string tag get set =>
    obtain ⟨x, -, rfl⟩ := MediaServer.except_map_ok h
    exact hf x s hs
  | int tag get set =>
    obtain ⟨x, hx, rfl⟩ := MediaServer.except_map_ok h
    rcases MediaServer.decodeInt_ok hx with ⟨-, rfl⟩ | ⟨-, hx⟩
    · exact hf _ s (Or.inr rfl) hs
    · exact hf x s (Or.inl hx) hs
  | bool tag get set =>
    obtain ⟨x, -, rfl⟩ := MediaServer.except_map_ok h
    exact hf x s hs
  | boolPointer tag get set =>
    obtain ⟨x, -, rfl⟩ := MediaServer.except_map_ok h
    exact hf x s hs

lemma Struct.decodeMember_keeps (hd : ∀ f ∈ d.fields, f.Keeps P) {m : Member}
    (h : d.decodeMember s m = .ok s') (hs : P s) : P s' := by
  rw [Struct.decodeMember] at h
  split at h
  · next f hf => exact StructField.decode_keeps (hd f (List.mem_of_find?_eq_some hf)) h hs
  · cases h
    exact hs

lemma Struct.foldlM_keeps (hd : ∀ f ∈ d.fields, f.Keeps P) {members : List Member}
    (h : members.foldlM d.decodeMember s = .ok s') (hs : P s) : P s' := by
  induction members generalizing s with
  | nil =>
    cases h
    exact hs
  | cons m members ih =>
    rw [List.foldlM_cons] at h
    cases hm : d.decodeMember s m with
    | error e =>
      rw [hm] at h
      cases h
    | ok s₁ =>
      rw [hm] at h
      exact ih h (Struct.decodeMember_keeps hd hm hs)

/-- What the zero value has and every field leaves is true of all that decodes. -/
lemma Struct.decode_keeps (hd : ∀ f ∈ d.fields, f.Keeps P) (hzero : P d.zero) {v : Option Json}
    (h : d.decode v = .ok s) : P s := by
  match v, h with
  | some .null, h =>
    cases h
    exact hzero
  | some (.object members), h =>
    rw [Struct.decode] at h
    cases hm : members.foldlM d.decodeMember d.zero with
    | error e =>
      rw [hm] at h
      cases h
    | ok s' =>
      rw [hm] at h
      cases h
      exact Struct.foldlM_keeps hd hm hzero

/-- Members of a struct, in any order, are copied into the struct that is decoded. -/
lemma Struct.foldlM_members (hd : d.Lawful) {l : List (StructField σ)}
    (hl : ∀ f ∈ l, f ∈ d.fields ∧ f.Fits s) (t : σ) :
    (l.map (·.member s)).foldlM d.decodeMember t = .ok (l.foldl (fun t f => f.copy s t) t) := by
  induction l generalizing t with
  | nil => rfl
  | cons f l ih =>
    obtain ⟨hmem, hfits⟩ := hl f List.mem_cons_self
    have hf : d.decodeMember t (f.member s) = .ok (f.copy s t) := by
      rw [Struct.decodeMember, StructField.member, Text.decode_ofString, hd.find f hmem]
      exact StructField.decode_encode hfits t
    rw [List.map_cons, List.foldlM_cons, hf]
    exact ih (fun g hg => hl g (List.mem_cons_of_mem f hg)) _

lemma Struct.writable_members (l : List (StructField σ)) (s : σ) :
    (Json.object (l.map (·.member s))).writable = true := by
  have hencode : ∀ f : StructField σ, (f.encode s).writable = true := by
    intro f
    cases f with
    | string tag get set => exact Text.wellFormed_ofString _
    | boolPointer tag get set =>
      simp only [StructField.encode]
      cases get s <;> rfl
    | _ => rfl
  rw [Json.writable]
  induction l with
  | nil => rfl
  | cons f l ih =>
    rw [List.map_cons, StructField.member, Json.writableMembers, Text.wellFormed_ofString,
      hencode, ih]
    rfl

/-- What `json.Marshal` wrote is decoded as it was. -/
theorem Struct.unmarshal_marshal (hd : d.Lawful) (hs : ∀ f ∈ d.fields, f.Fits s) :
    d.unmarshal (d.marshal s) = .ok s := by
  rw [Struct.unmarshal, Struct.marshal, Struct.members,
    GoJson.parse_value _ (Struct.writable_members d.fields s), Struct.decode,
    Struct.foldlM_members hd (fun f hf => ⟨hf, hs f hf⟩), hd.copy]
  rfl

/-! ### What is stored -/

variable {store : Store} {redis : Redis} {reg : ContainerRegistration} {h : Handler} {reply : Reply}

lemma containerRegistration_lawful : containerRegistration.Lawful where
  find := by
    simp only [containerRegistration, List.forall_mem_cons, List.not_mem_nil, false_imp_iff,
      implies_true, and_true]
    exact ⟨rfl, rfl, rfl, rfl, rfl, rfl, rfl⟩
  copy _ := rfl

lemma containerRegisterRequest_lawful : containerRegisterRequest.Lawful where
  find := by
    simp only [containerRegisterRequest, List.forall_mem_cons, List.not_mem_nil, false_imp_iff,
      implies_true, and_true]
    exact ⟨rfl, rfl, rfl, rfl, rfl⟩
  copy _ := rfl

lemma unmarshal_marshal (h : MediaServer.IsInt64 reg.port) :
    containerRegistration.unmarshal (containerRegistration.marshal reg) = .ok reg := by
  refine Struct.unmarshal_marshal containerRegistration_lawful ?_
  simp only [containerRegistration, List.forall_mem_cons, List.not_mem_nil, false_imp_iff,
    implies_true, and_true]
  exact ⟨trivial, trivial, h, trivial, trivial, trivial, trivial⟩

/-- A port that was decoded fits 64 bits. -/
lemma unmarshal_port {t : Text} (h : containerRegistration.unmarshal t = .ok reg) :
    MediaServer.IsInt64 reg.port := by
  refine Struct.decode_keeps (P := fun reg => MediaServer.IsInt64 reg.port) ?_
    ⟨by decide, by decide⟩ h
  simp only [containerRegistration, List.forall_mem_cons, List.not_mem_nil, false_imp_iff,
    implies_true, and_true]
  refine ⟨fun _ _ h => h, fun _ _ h => h, ?_, fun _ _ h => h, fun _ _ h => h, fun _ _ h => h,
    fun _ _ h => h⟩
  rintro x s (hx | rfl) hs
  · exact hx
  · exact hs

lemma shouldBindJSON_port {body : Text} {req : ContainerRegisterRequest}
    (h : containerRegisterRequest.shouldBindJSON body = .ok req) :
    MediaServer.IsInt64 req.port := by
  refine Struct.decode_keeps (P := fun req => MediaServer.IsInt64 req.port) ?_
    ⟨by decide, by decide⟩ h
  simp only [containerRegisterRequest, List.forall_mem_cons, List.not_mem_nil, false_imp_iff,
    implies_true, and_true]
  refine ⟨fun _ _ h => h, fun _ _ h => h, ?_, fun _ _ h => h, fun _ _ h => h⟩
  rintro x s (hx | rfl) hs
  · exact hx
  · exact hs

/-- The texts that are stored decode into the records. -/
def Views (store : Store) (redis : Redis) : Prop :=
  ∀ key, (store.lookup key).map (fun val => (containerRegistration.unmarshal val).toOption) =
    (redis.lookup key).map some

lemma Views.load (hv : Views store redis) (key : String) : store.load key = redis.lookup key := by
  have hkey := hv key
  rw [Store.load]
  cases hval : store.lookup key with
  | none =>
    rw [hval] at hkey
    cases hreg : redis.lookup key with
    | none => rfl
    | some reg =>
      rw [hreg] at hkey
      cases hkey
  | some val =>
    rw [hval] at hkey
    cases hreg : redis.lookup key with
    | none =>
      rw [hreg] at hkey
      cases hkey
    | some reg =>
      rw [hreg] at hkey
      exact Option.some.inj hkey

lemma Views.mem (hv : Views store redis) (key : String) : key ∈ store ↔ key ∈ redis := by
  rw [← lookup_isSome, ← lookup_isSome]
  have hkey := congrArg Option.isSome (hv key)
  simpa only [Option.isSome_map] using Iff.of_eq (congrArg (· = true) hkey)

lemma unmarshal_nil : containerRegistration.unmarshal [] = .error .syntaxError := rfl

/-- An empty text does not decode. -/
lemma Views.existing (hv : Views store redis) (key : String) :
    store.existing key = redis.lookup key := by
  rw [Store.existing]
  split_ifs with hempty
  · rw [← hv.load key, Store.load, hempty, Option.bind_some, unmarshal_nil]
    rfl
  · exact hv.load key

lemma Views.set (hv : Views store redis) (name : String) (h : MediaServer.IsInt64 reg.port) :
    Views (store.set name reg) (redis.set name reg) := by
  intro key
  rw [Store.set, Redis.set, lookup_insert_ite, lookup_insert_ite]
  split_ifs
  · rw [Option.map_some, unmarshal_marshal h]
    rfl
  · exact hv key

lemma Views.del (hv : Views store redis) (name : String) :
    Views (store.del name) (redis.del name) := by
  intro key
  rw [Store.del, Redis.del, lookup_erase_ite, lookup_erase_ite]
  split_ifs
  · rfl
  · exact hv key

/-- What is in Redis decodes, so its ports fit 64 bits. -/
lemma Views.port (hv : Views store redis) {key : String} (h : redis.lookup key = some reg) :
    MediaServer.IsInt64 reg.port := by
  rw [← hv.load key, Store.load, Option.bind_eq_some_iff] at h
  obtain ⟨val, -, hval⟩ := h
  cases hdecode : containerRegistration.unmarshal val with
  | error e =>
    rw [hdecode] at hval
    cases hval
  | ok reg' =>
    rw [hdecode] at hval
    cases hval
    exact unmarshal_port hdecode

/-- Start-up from the texts. -/
lemma initServerTexts_eq (hv : Views store redis) (now : Int) (scan : List (String × Bool)) :
    initServerTexts now store scan = initServerArrays now redis scan := by
  rw [initServerTexts, initServerArrays, readKeys]
  congr 1
  refine List.filterMap_congr fun item _ => ?_
  rw [Store.readKey, readKey, hv.load]

/-! ### The steps -/

/-- The port that a handler is about to write fits 64 bits. -/
def Handler.Fits : Handler → Prop
  | .registerGet req     => MediaServer.IsInt64 req.port
  | .registerSet reg     => MediaServer.IsInt64 reg.port
  | .toggleSet _ _ reg   => MediaServer.IsInt64 reg.port
  | _                    => True

lemma build_port {req : ContainerRegisterRequest} (h : MediaServer.IsInt64 req.port)
    (existing : Option ContainerRegistration) : MediaServer.IsInt64 (req.build existing).port := by
  simp only [ContainerRegisterRequest.build, ContainerRegisterRequest.finalPort]
  split_ifs
  · exact ⟨by decide, by decide⟩
  · exact h

lemma fits_none : ∀ h ∈ (none : Option Handler), h.Fits := by
  rintro h ⟨⟩

/-- The states that correspond after a command. -/
def Corresponds (x : Store × Option Handler) (y : Redis × Option Handler) : Prop :=
  Views x.1 y.1 ∧ x.2 = y.2 ∧ ∀ h ∈ x.2, h.Fits

lemma commandText_rel (hv : Views store redis) (hfits : h.Fits) (reply : Reply) :
    Option.Rel Corresponds (h.commandText reply store) (h.command reply redis) := by
  cases h with
  | registerGet req =>
    refine .some ⟨hv, ?_, ?_⟩
    · simp only [hv.existing]
    · rintro h ⟨⟩
      exact build_port hfits _
  | registerSet reg =>
    cases reply with
    | ok => exact .some ⟨hv.set reg.name hfits, rfl, by rintro h ⟨⟩; trivial⟩
    | failed => exact .some ⟨hv, rfl, fits_none⟩
    | lost => exact .some ⟨hv.set reg.name hfits, rfl, fits_none⟩
  | unregisterDel name =>
    cases reply with
    | ok =>
      simp only [Handler.commandText, Handler.command, hv.mem]
      split_ifs
      · exact .some ⟨hv.del name, rfl, by rintro h ⟨⟩; trivial⟩
      · exact .some ⟨hv, rfl, fits_none⟩
    | failed => exact .some ⟨hv, rfl, fits_none⟩
    | lost => exact .some ⟨hv.del name, rfl, fits_none⟩
  | toggleGet name req =>
    simp only [Handler.commandText, Handler.command, hv.load]
    cases hreg : redis.lookup (containerKey name) with
    | none => cases reply <;> exact .some ⟨hv, rfl, fits_none⟩
    | some reg =>
      cases reply with
      | ok =>
        refine .some ⟨hv, rfl, ?_⟩
        rintro h ⟨⟩
        exact (hv.port hreg : MediaServer.IsInt64 reg.port)
      | _ => exact .some ⟨hv, rfl, fits_none⟩
  | toggleSet name req reg =>
    cases reply with
    | failed => exact .some ⟨hv, rfl, by rintro h ⟨⟩; trivial⟩
    | ok => exact .some ⟨hv.set name hfits, rfl, by rintro h ⟨⟩; trivial⟩
    | lost => exact .some ⟨hv.set name hfits, rfl, by rintro h ⟨⟩; trivial⟩
  | _ => exact .none

/-- The service on texts and the one on records are in the same state. -/
structure Simulates (w : TextWorld) (v : World) : Prop where
  mem : w.mem = v.mem
  handlers : w.handlers = v.handlers
  views : Views w.store v.redis
  fits : ∀ id, ∀ h ∈ w.handlers.lookup id, h.Fits

lemma fits_advance {handlers : AList fun _ : ℕ => Handler} {next : Option Handler} {id : ℕ}
    (h : ∀ j, ∀ k ∈ handlers.lookup j, k.Fits) (hnext : ∀ k ∈ next, k.Fits) :
    ∀ j, ∀ k ∈ (advance handlers id next).lookup j, k.Fits := by
  intro j k hk
  rw [lookup_advance] at hk
  split_ifs at hk
  · exact hnext k hk
  · exact h j k hk

/-- A request that was bound has a port that fits 64 bits. -/
lemma start_fits {r : TextRequest} {req : Request} (hr : r.bound = some req) :
    ∀ h ∈ req.start, h.Fits := by
  intro h hstart
  cases r with
  | register body =>
    obtain ⟨x, hx, rfl⟩ := Option.map_eq_some_iff.mp hr
    cases hbind : containerRegisterRequest.shouldBindJSON body with
    | error e =>
      rw [hbind] at hx
      cases hx
    | ok y =>
      rw [hbind] at hx
      cases hx
      cases hstart
      exact shouldBindJSON_port hbind
  | unregister name =>
    cases hr
    rcases Request.start_cases hstart with ⟨_, h, _⟩ | ⟨_, _, rfl⟩ | ⟨_, _, h, _⟩
    · cases h
    · trivial
    · cases h
  | toggle name body =>
    obtain ⟨x, -, rfl⟩ := Option.map_eq_some_iff.mp hr
    rcases Request.start_cases hstart with ⟨_, h, _⟩ | ⟨_, h, _⟩ | ⟨_, _, _, rfl⟩
    · cases h
    · cases h
    · trivial

lemma step_rel {w : TextWorld} {v : World} (e : TextEvent) (hs : Simulates w v) :
    Option.Rel Simulates (stepText w e) (run step v e.events) := by
  obtain ⟨mem, store, handlers⟩ := w
  obtain ⟨mem', redis, handlers', pending, toggled⟩ := v
  obtain ⟨rfl, rfl, hviews, hfits⟩ := hs
  cases e with
  | request id r =>
    simp only [stepText, TextEvent.events]
    cases hr : r.bound with
    | none => exact .some ⟨rfl, rfl, hviews, hfits⟩
    | some req =>
      simp only [Option.map_some, Option.toList_some, run_cons, run_nil, step]
      split_ifs
      · exact .none
      · exact .some ⟨rfl, rfl, hviews, fits_advance hfits (start_fits hr)⟩
  | command id reply =>
    simp only [stepText, TextEvent.events, run_cons, run_nil, step, Option.bind_fun_some]
    cases hid : handlers.lookup id with
    | none => exact .none
    | some h =>
      have hrel := commandText_rel hviews (hfits id h hid) reply
      simp only [Option.bind_some]
      generalize h.commandText reply store = x, h.command reply redis = y at hrel ⊢
      cases hrel with
      | none => exact .none
      | @some x y hxy =>
        obtain ⟨hviews', hnext, hfits'⟩ := hxy
        exact .some ⟨rfl, by simp only [hnext], hviews', fits_advance hfits hfits'⟩
  | update id now =>
    simp only [stepText, TextEvent.events, run_cons, run_nil, step, Option.bind_fun_some]
    cases handlers.lookup id with
    | none => exact .none
    | some h =>
      simp only [Option.bind_some]
      cases h.update now with
      | none => exact .none
      | some op => exact .some ⟨rfl, rfl, hviews, fits_advance hfits fits_none⟩
  | background op =>
    simp only [stepText, TextEvent.events, run_cons, run_nil, step]
    split_ifs
    · exact .some ⟨rfl, rfl, hviews, hfits⟩
    · exact .none

/-! ### Runs -/

/-- The two services are in the same state, and so they are after a restart. -/
structure SameService (w : TextWorld) (v : World) : Prop extends Simulates w v where
  restart : ∀ now scan, initServerTexts now w.store scan = initServerArrays now v.redis scan

lemma start_simulates (hv : Views store redis) (now : Int) (scan : List (String × Bool)) :
    Simulates (TextWorld.start now store scan) (World.start now redis scan) where
  mem := initServerTexts_eq hv now scan
  handlers := rfl
  views := hv
  fits _ _ hk := by cases hk

lemma run_simulates {w : TextWorld} {v : World} (es : List TextEvent) (hs : Simulates w v) :
    Option.Rel Simulates (run stepText w es) (run step v (es.flatMap TextEvent.events)) :=
  run_rel (fun _ _ e hs => step_rel e hs) es hs

/-- The service that keeps texts takes the same steps as the one that keeps records, from the start
and through every interleaving of its handlers, and both load the same at a restart. -/
theorem run_texts (hv : Views store redis) (now : Int) (scan : List (String × Bool))
    (es : List TextEvent) :
    Option.Rel SameService (run stepText (TextWorld.start now store scan) es)
      (run step (World.start now redis scan) (es.flatMap TextEvent.events)) := by
  have hrun := run_simulates es (start_simulates hv now scan)
  generalize run stepText (TextWorld.start now store scan) es = x,
    run step (World.start now redis scan) (es.flatMap TextEvent.events) = y at hrun ⊢
  cases hrun with
  | none => exact .none
  | some hs => exact .some ⟨hs, initServerTexts_eq hs.views⟩

def sampleStore : Store := (∅ : Store).set "media-1" sampleContainer

lemma views_sampleStore : Views sampleStore sampleRedis :=
  Views.set (fun _ => rfl) "media-1" ⟨by decide, by decide⟩

theorem run_texts_sample :
    ∃ w v, run stepText (TextWorld.start 0 sampleStore [("container:media-1", true)])
        [.request 0 (.unregister "media-1"), .command 0 .ok, .update 0 0] = some w ∧
      SameService w v := by
  have hrun := run_texts views_sampleStore 0 [("container:media-1", true)]
    [.request 0 (.unregister "media-1"), .command 0 .ok, .update 0 0]
  obtain ⟨v, hv⟩ : ∃ v, run step (World.start 0 sampleRedis [("container:media-1", true)])
      [.request 0 (.unregister "media-1"), .command 0 .ok, .update 0 0] = some v := ⟨_, rfl⟩
  have hevents : [TextEvent.request 0 (.unregister "media-1"), .command 0 .ok,
      .update 0 0].flatMap TextEvent.events =
    [.request 0 (.unregister "media-1"), .command 0 .ok, .update 0 0] := rfl
  rw [hevents, hv] at hrun
  generalize hw : run stepText (TextWorld.start 0 sampleStore [("container:media-1", true)])
    [.request 0 (.unregister "media-1"), .command 0 .ok, .update 0 0] = x at hrun
  cases hrun with
  | @some w v hs => exact ⟨w, v, rfl, hs⟩

end LoadBalancer
