import SipForward.Core.Search
import Mathlib.Data.List.Basic

/-!
# Signed requests

Requests of HTTP that carry a signature, and the receiver that checks it: from the lines of the
header as they arrive it puts together what the sender should have signed, derives the key of the
day from the secret that it shares with the sender, and compares. The hashes are any functions.
-/

namespace Core.Signed

abbrev Chars := List Char

abbrev Bytes := List UInt8

/-! ### Bytes as text -/

/-- A character stands for a byte. -/
def octets (s : Chars) : Bytes := s.map fun c => c.toNat.toUInt8

def hex (l : Bytes) : Chars :=
  l.flatMap fun b => [Nat.digitChar (b.toNat / 16), Nat.digitChar (b.toNat % 16)]

def base64Char (n : ℕ) : Char :=
  "ABCDEFGHIJKLMNOPQRSTUVWXYZabcdefghijklmnopqrstuvwxyz0123456789+/".toList.getD n '='

/-- Three bytes become four characters. -/
def base64 : Bytes → Chars
  | a :: b :: c :: l =>
    base64Char (a.toNat / 4) :: base64Char (a.toNat % 4 * 16 + b.toNat / 16) ::
      base64Char (b.toNat % 16 * 4 + c.toNat / 64) :: base64Char (c.toNat % 64) :: base64 l
  | [a, b]           =>
    [base64Char (a.toNat / 4), base64Char (a.toNat % 4 * 16 + b.toNat / 16),
      base64Char (b.toNat % 16 * 4), '=']
  | [a]              => [base64Char (a.toNat / 4), base64Char (a.toNat % 4 * 16), '=', '=']
  | []               => []

/-! ### Header lines -/

def isBlank (c : Char) : Bool := c = ' ' || c = '\t'

def lower (s : Chars) : Chars := s.map Char.toLower

/-- A line of a header, as it is sent. -/
def line (name : String) (value : Chars) : Chars := name.toList ++ ": ".toList ++ value

/-- Names are read in any case. -/
def lineName (l : Chars) : Chars := lower (l.takeWhile (· ≠ ':'))

def lineValue (l : Chars) : Chars := strip isBlank ((l.dropWhile (· ≠ ':')).drop 1)

/-- A request. The path is the one before its characters are encoded. -/
structure Request where
  method : Chars
  path : Chars
  headers : List Chars
  body : Bytes

def Request.value (r : Request) (name : Chars) : Option Chars :=
  (r.headers.find? fun l => lineName l = name).map lineValue

/-! ### What is signed -/

def isUnreserved (c : Char) : Bool :=
  c.isAlphanum || c = '-' || c = '.' || c = '_' || c = '~'

/-- The path in a request that is to be signed. -/
def uriEncode (path : Chars) : Chars :=
  path.flatMap fun c =>
    if isUnreserved c || c = '/' then [c] else '%' :: (hex (octets [c])).map Char.toUpper

/-- The request in the form that is signed; there is no query. -/
def canonicalRequest (method uri : Chars) (signed : List (Chars × Chars)) (payload : Chars) :
    Chars :=
  method ++ '\n' :: uri ++ '\n' :: '\n' ::
    (signed.flatMap fun h => h.1 ++ ':' :: h.2 ++ ['\n']) ++
    '\n' :: [';'].intercalate (signed.map (·.1)) ++ '\n' :: payload

structure Hashes where
  sha256 : Bytes → Bytes
  /-- The key comes first. -/
  hmac : Bytes → Bytes → Bytes
  md5 : Bytes → Bytes

/-- Where and when a signature is valid. -/
structure Scope where
  date : Chars
  region : Chars
  service : Chars
deriving DecidableEq

def Scope.text (s : Scope) : Chars :=
  ['/'].intercalate [s.date, s.region, s.service, "aws4_request".toList]

def stringToSign (h : Hashes) (time : Chars) (s : Scope) (canonical : Chars) : Chars :=
  "AWS4-HMAC-SHA256".toList ++ '\n' :: time ++ '\n' :: s.text ++ '\n' ::
    hex (h.sha256 (octets canonical))

def signingKey (h : Hashes) (secret : Chars) (s : Scope) : Bytes :=
  h.hmac (h.hmac (h.hmac (h.hmac (octets ("AWS4".toList ++ secret)) (octets s.date))
    (octets s.region)) (octets s.service)) (octets "aws4_request".toList)

def signature (h : Hashes) (secret time : Chars) (s : Scope) (canonical : Chars) : Chars :=
  hex (h.hmac (signingKey h secret s) (octets (stringToSign h time s canonical)))

/-! ### The receiver -/

structure Authorization where
  accessKey : Chars
  scope : Scope
  signed : List Chars
  signature : Chars
deriving DecidableEq

/-- What stands behind a prefix. -/
def after (pre s : Chars) : Option Chars := if pre <+: s then some (s.drop pre.length) else none

/-- The parts of a credential. -/
def readCredential (s : Chars) : Option (Chars × Scope) :=
  match s.splitOn '/' with
  | [accessKey, date, region, service, last] =>
    if last = "aws4_request".toList then some (accessKey, ⟨date, region, service⟩) else none
  | _ => none

def Authorization.read (s : Chars) : Option Authorization := do
  match (← after "AWS4-HMAC-SHA256 ".toList s).splitOn ',' with
  | [credential, signed, signature] =>
    let (accessKey, scope) ←
      readCredential (← after "Credential=".toList (strip isBlank credential))
    some
      { accessKey, scope
        signed := (← after "SignedHeaders=".toList (strip isBlank signed)).splitOn ';'
        signature := ← after "Signature=".toList (strip isBlank signature) }
  | _ => none

/-- A receiver for one region and service, with the secrets of its senders. -/
structure Receiver where
  hashes : Hashes
  secrets : Chars → Option Chars
  region : Chars
  service : Chars

/-- The signature that a receiver expects. -/
def Receiver.expected (v : Receiver) (r : Request) (a : Authorization) : Option Chars := do
  let secret ← v.secrets a.accessKey
  let time ← r.value "x-amz-date".toList
  let payload ← r.value "x-amz-content-sha256".toList
  let signed ← a.signed.mapM fun name => (r.value name).map fun value => (name, value)
  some (signature v.hashes secret time a.scope
    (canonicalRequest r.method (uriEncode r.path) signed payload))

/-- The scope is that of the receiver and of the day of the request, the host is signed, and the
signature is the expected one. -/
structure Receiver.Verifies (v : Receiver) (r : Request) (a : Authorization) : Prop where
  read : (r.value "authorization".toList).bind Authorization.read = some a
  region : a.scope.region = v.region
  service : a.scope.service = v.service
  date : (r.value "x-amz-date".toList).map (·.take 8) = some a.scope.date
  host : "host".toList ∈ a.signed
  signature : v.expected r a = some a.signature

def Receiver.Authentic (v : Receiver) (r : Request) : Prop := ∃ a, v.Verifies r a

instance (v : Receiver) (r : Request) (a : Authorization) : Decidable (v.Verifies r a) :=
  decidable_of_iff ((r.value "authorization".toList).bind Authorization.read = some a ∧
      a.scope.region = v.region ∧ a.scope.service = v.service ∧
      (r.value "x-amz-date".toList).map (·.take 8) = some a.scope.date ∧
      "host".toList ∈ a.signed ∧ v.expected r a = some a.signature)
    ⟨fun ⟨h₁, h₂, h₃, h₄, h₅, h₆⟩ => ⟨h₁, h₂, h₃, h₄, h₅, h₆⟩,
      fun h => ⟨h.read, h.region, h.service, h.date, h.host, h.signature⟩⟩

instance (v : Receiver) (r : Request) : Decidable (v.Authentic r) :=
  match h : (r.value "authorization".toList).bind Authorization.read with
  | none   => isFalse fun ⟨_, ha⟩ => by cases h.symm.trans ha.read
  | some a => decidable_of_iff (v.Verifies r a)
      ⟨fun ha => ⟨a, ha⟩, fun ⟨b, hb⟩ => Option.some.inj (h.symm.trans hb.read) ▸ hb⟩

/-! ### Reading what was written -/

variable {v : Receiver} {r : Request} {a : Authorization} {name : String} {s value : Chars}

lemma strip_of_forall (h : ∀ c ∈ s, isBlank c = false) : strip isBlank s = s := by
  have hhead : ∀ l : Chars, (∀ c ∈ l, isBlank c = false) → l.dropWhile isBlank = l := by
    intro l hl
    cases l with
    | nil => rfl
    | cons c l => rw [List.dropWhile_cons_of_neg (by rw [hl c List.mem_cons_self]; decide)]
  rw [strip, hhead s h, List.rdropWhile, hhead s.reverse fun c hc => h c (List.mem_reverse.mp hc),
    List.reverse_reverse]

lemma strip_blank_cons (h : ∀ c ∈ s, isBlank c = false) : strip isBlank (' ' :: s) = s := by
  have hfront : ∀ c ∈ [' '], isBlank c = true := by
    intro c hc
    rw [List.mem_singleton.mp hc]
    rfl
  have happend : strip isBlank ([' '] ++ (s ++ [])) = strip isBlank s :=
    strip_append hfront fun _ hc => by cases hc
  rw [List.append_nil, strip_of_forall h] at happend
  exact happend

lemma line_eq (name : String) (value : Chars) :
    line name value = name.toList ++ ':' :: ' ' :: value := by
  simp [line]

lemma takeWhile_line (h : ':' ∉ name.toList) :
    (line name value).takeWhile (· ≠ ':') = name.toList ∧
      (line name value).dropWhile (· ≠ ':') = ':' :: ' ' :: value := by
  have hname : ∀ c ∈ name.toList, decide (c ≠ ':') = true := by
    intro c hc
    simpa using fun heq : c = ':' => h (heq ▸ hc)
  rw [line_eq, List.takeWhile_append_of_pos hname, List.dropWhile_append_of_pos hname]
  exact ⟨List.append_nil _, rfl⟩

lemma lineName_line (h : ':' ∉ name.toList) : lineName (line name value) = lower name.toList := by
  rw [lineName, (takeWhile_line h).1]

lemma lineValue_line (h : ':' ∉ name.toList) (hvalue : strip isBlank value = value) :
    lineValue (line name value) = value := by
  have hfront : ∀ c ∈ [' '], isBlank c = true := by
    intro c hc
    rw [List.mem_singleton.mp hc]
    rfl
  have happend : strip isBlank ([' '] ++ (value ++ [])) = strip isBlank value :=
    strip_append hfront fun _ hc => by cases hc
  rw [List.append_nil, hvalue] at happend
  rw [lineValue, (takeWhile_line h).2]
  exact happend

lemma find_line_pos {l : List Chars} {key : Chars} (h : ':' ∉ name.toList)
    (hkey : lower name.toList = key) :
    (line name value :: l).find? (fun x => lineName x = key) = some (line name value) :=
  List.find?_cons_of_pos (by rw [lineName_line h, hkey]; exact decide_eq_true rfl)

lemma find_line_neg {l : List Chars} {key : Chars} (h : ':' ∉ name.toList)
    (hkey : lower name.toList ≠ key) :
    (line name value :: l).find? (fun x => lineName x = key) =
      l.find? fun x => lineName x = key :=
  List.find?_cons_of_neg (by rw [lineName_line h]; simpa using hkey)

/-! ### Tokens -/

/-- Without a character that separates the parts of an authorization. -/
def isToken (c : Char) : Bool := c.isAlphanum || c = '-' || c = '_'

def Token (s : Chars) : Prop := s.all isToken = true

instance : DecidablePred Token := fun s => inferInstanceAs (Decidable (s.all isToken = true))

lemma Token.ne (h : Token s) {c : Char} (hc : isToken c = false) : c ∉ s := fun hmem =>
  Bool.false_ne_true (hc.symm.trans (List.all_eq_true.mp h c hmem))

lemma Token.append {t : Chars} (hs : Token s) (ht : Token t) : Token (s ++ t) := by
  rw [Token, List.all_append, hs, ht]
  rfl

lemma isBlank_of_isToken {c : Char} (h : isToken c = true) : isBlank c = false := by
  have hspace : c ≠ ' ' := by
    rintro rfl
    cases h
  have htab : c ≠ '\t' := by
    rintro rfl
    cases h
  simp [isBlank, hspace, htab]

lemma Token.strip (h : Token s) : strip isBlank s = s :=
  strip_of_forall fun c hc => isBlank_of_isToken (List.all_eq_true.mp h c hc)

lemma isAlphanum_digitChar {n : ℕ} (h : n < 16) : (Nat.digitChar n).isAlphanum = true := by
  have hall : ∀ m : Fin 16, (Nat.digitChar m).isAlphanum = true := by decide
  exact hall ⟨n, h⟩

lemma token_hex (l : Bytes) : Token (hex l) := by
  induction l with
  | nil => rfl
  | cons b l ih =>
    have hb : b.toNat < 256 := b.toNat_lt
    have hhigh := isAlphanum_digitChar (n := b.toNat / 16) (by omega)
    have hlow := isAlphanum_digitChar (n := b.toNat % 16) (by omega)
    have hcons : hex (b :: l) = [Nat.digitChar (b.toNat / 16), Nat.digitChar (b.toNat % 16)] ++
      hex l := rfl
    rw [hcons]
    refine Token.append ?_ ih
    simp [Token, isToken, hhigh, hlow]

lemma isBlank_base64Char (n : ℕ) : isBlank (base64Char n) = false := by
  have hall : "ABCDEFGHIJKLMNOPQRSTUVWXYZabcdefghijklmnopqrstuvwxyz0123456789+/".toList.all
      (fun c => !isBlank c) = true := by decide +kernel
  rw [base64Char]
  by_cases hn : n < "ABCDEFGHIJKLMNOPQRSTUVWXYZabcdefghijklmnopqrstuvwxyz0123456789+/".toList.length
  · rw [← List.getElem_eq_getD (h := hn)]
    simpa using List.all_eq_true.mp hall _ (List.getElem_mem hn)
  · rw [List.getD_eq_getElem?_getD, List.getElem?_eq_none (by omega)]
    rfl

lemma isBlank_base64 (l : Bytes) : ∀ c ∈ base64 l, isBlank c = false := by
  have hpad : isBlank '=' = false := rfl
  induction l using base64.induct with
  | case1 a b c l ih => simpa [base64, isBlank_base64Char] using ih
  | case2 a b => simp [base64, isBlank_base64Char, hpad]
  | case3 a => simp [base64, isBlank_base64Char, hpad]
  | case4 => simp [base64]

/-! ### What a sender writes -/

/-- The header as a sender writes it. -/
def Authorization.text (a : Authorization) : Chars :=
  "AWS4-HMAC-SHA256 Credential=".toList ++ a.accessKey ++ '/' :: a.scope.text ++
    ", SignedHeaders=".toList ++ [';'].intercalate a.signed ++ ", Signature=".toList ++ a.signature

structure Authorization.Plain (a : Authorization) : Prop where
  accessKey : Token a.accessKey
  date : Token a.scope.date
  region : Token a.scope.region
  service : Token a.scope.service
  signed : ∀ n ∈ a.signed, Token n
  nonempty : a.signed ≠ []
  signature : Token a.signature

def Authorization.credential (a : Authorization) : List Chars :=
  [a.accessKey, a.scope.date, a.scope.region, a.scope.service, "aws4_request".toList]

/-- The three parts of an authorization. -/
def Authorization.parts (a : Authorization) : List Chars :=
  ["Credential=".toList ++ ['/'].intercalate a.credential,
    ' ' :: ("SignedHeaders=".toList ++ [';'].intercalate a.signed),
    ' ' :: ("Signature=".toList ++ a.signature)]

/-- A text that is put together from three parts between commas. -/
lemma parts_append (p c k t h l g s : Chars) :
    p ++ c ++ k ++ '/' :: t ++ ',' :: ' ' :: h ++ l ++ ',' :: ' ' :: g ++ s =
      p ++ [','].intercalate [c ++ (k ++ '/' :: t), ' ' :: (h ++ l), ' ' :: (g ++ s)] := by
  simp [List.intercalate]

lemma Authorization.text_eq (a : Authorization) :
    a.text = "AWS4-HMAC-SHA256 ".toList ++ [','].intercalate a.parts :=
  parts_append "AWS4-HMAC-SHA256 ".toList "Credential=".toList a.accessKey a.scope.text
    "SignedHeaders=".toList ([';'].intercalate a.signed) "Signature=".toList a.signature

lemma after_append (pre s : Chars) : after pre (pre ++ s) = some s := by
  rw [after, if_pos (List.prefix_append pre s), List.drop_left]

lemma token_intercalate {c : Char} {l : List Chars} (hl : ∀ s ∈ l, Token s) {x : Char}
    (hx : x ≠ c) (htoken : isToken x = false) : x ∉ [c].intercalate l := by
  induction l with
  | nil => exact List.not_mem_nil
  | cons s l ih =>
    have hs : x ∉ s := (hl s List.mem_cons_self).ne htoken
    cases l with
    | nil => simpa [List.intercalate] using hs
    | cons t l =>
      have hrest := ih fun u hu => hl u (List.mem_cons_of_mem s hu)
      have hcons : [c].intercalate (s :: t :: l) = s ++ c :: [c].intercalate (t :: l) := by
        simp [List.intercalate]
      rw [hcons]
      simp only [List.mem_append, List.mem_cons, not_or]
      exact ⟨hs, hx, hrest⟩

lemma Authorization.Plain.credential (h : a.Plain) : ∀ s ∈ a.credential, Token s := by
  have hlast : Token "aws4_request".toList := by decide
  simp only [Authorization.credential, List.mem_cons, List.not_mem_nil, or_false,
    forall_eq_or_imp, forall_eq]
  exact ⟨h.accessKey, h.date, h.region, h.service, hlast⟩

lemma readCredential_text (h : a.Plain) :
    readCredential (['/'].intercalate a.credential) = some (a.accessKey, a.scope) := by
  have hsplit := List.splitOn_intercalate '/' (fun s hs => (h.credential s hs).ne rfl)
    (List.cons_ne_nil a.accessKey _)
  rw [readCredential, hsplit]
  exact if_pos rfl

lemma isBlank_intercalate {pre : Chars} (hpre : pre.all (fun c => !isBlank c) = true) {c : Char}
    (hc : isBlank c = false) {l : List Chars} (hl : ∀ s ∈ l, Token s) :
    ∀ x ∈ pre ++ [c].intercalate l, isBlank x = false := by
  intro x hx
  rcases List.mem_append.mp hx with hx | hx
  · simpa using List.all_eq_true.mp hpre x hx
  · by_contra hblank
    have hne : x ≠ c := by
      rintro rfl
      exact hblank hc
    have htoken : isToken x = false := by
      by_contra htoken
      exact hblank (isBlank_of_isToken (by simpa using htoken))
    exact token_intercalate hl hne htoken hx

lemma comma_notMem (h : a.Plain) : ∀ s ∈ a.parts, ',' ∉ s := by
  have hcredential := token_intercalate (c := '/') (x := ',') h.credential (by decide) rfl
  have hsigned := token_intercalate (c := ';') (x := ',') h.signed (by decide) rfl
  have hsignature : ',' ∉ a.signature := h.signature.ne rfl
  simp only [Authorization.parts, List.mem_cons, List.not_mem_nil, or_false, forall_eq_or_imp,
    forall_eq, List.mem_append, not_or]
  exact ⟨⟨by decide, hcredential⟩, ⟨by decide, by decide, hsigned⟩, by decide, by decide,
    hsignature⟩

/-- What a sender writes is read by the receiver. -/
lemma Authorization.read_text (h : a.Plain) : Authorization.read a.text = some a := by
  have hsplit := List.splitOn_intercalate ',' (comma_notMem h) (List.cons_ne_nil _ _)
  have hcredential : strip isBlank ("Credential=".toList ++ ['/'].intercalate a.credential) =
      "Credential=".toList ++ ['/'].intercalate a.credential :=
    strip_of_forall (isBlank_intercalate (by decide) rfl h.credential)
  have hsigned : strip isBlank (' ' :: ("SignedHeaders=".toList ++ [';'].intercalate a.signed)) =
      "SignedHeaders=".toList ++ [';'].intercalate a.signed :=
    strip_blank_cons (isBlank_intercalate (by decide) rfl h.signed)
  have hsignature : strip isBlank (' ' :: ("Signature=".toList ++ a.signature)) =
      "Signature=".toList ++ a.signature := by
    refine strip_blank_cons fun c hc => ?_
    rcases List.mem_append.mp hc with hc | hc
    · have hall : "Signature=".toList.all (fun c => !isBlank c) = true := by decide
      simpa using List.all_eq_true.mp hall c hc
    · exact isBlank_of_isToken (List.all_eq_true.mp h.signature c hc)
  have hnames := List.splitOn_intercalate ';' (fun s hs => (h.signed s hs).ne rfl) h.nonempty
  rw [Authorization.read, Authorization.text_eq, after_append]
  simp only [Option.bind_eq_bind, Option.bind_some, hsplit]
  simp only [Authorization.parts, hcredential, hsigned, hsignature, after_append, Option.bind_some,
    readCredential_text h, hnames]

/-- A value with no blank at its ends. -/
lemma strip_of_ends {c d : Char} {front back : Chars} (hc : isBlank c = false)
    (hd : isBlank d = false) (hback : ∀ x ∈ back, isBlank x = false) :
    strip isBlank (c :: (front ++ d :: back)) = c :: (front ++ d :: back) := by
  have hlast : ∀ x ∈ d :: back, isBlank x = false := by
    intro x hx
    rcases List.mem_cons.mp hx with rfl | hx
    · exact hd
    · exact hback x hx
  rw [strip, List.dropWhile_cons_of_neg (by rw [hc]; decide), List.rdropWhile_eq_self_iff]
  intro hne
  have hmem : (c :: (front ++ d :: back)).getLast hne ∈ d :: back := by
    have happend : c :: (front ++ d :: back) = (c :: front) ++ d :: back := rfl
    rw [List.getLast_congr hne (by simp) happend,
      List.getLast_append_of_ne_nil _ (List.cons_ne_nil d back)]
    exact List.getLast_mem _
  rw [hlast _ hmem]
  decide

/-- The first and the last fixed character of a text. -/
lemma ends_append (x y : Char) (p k t e l g s : Chars) :
    (x :: p) ++ k ++ t ++ e ++ l ++ (g ++ [y]) ++ s =
      x :: ((p ++ k ++ t ++ e ++ l ++ g) ++ y :: s) := by
  simp

lemma strip_authorization (h : a.Plain) : strip isBlank a.text = a.text := by
  have hsignature : ∀ x ∈ a.signature, isBlank x = false := fun x hx =>
    isBlank_of_isToken (List.all_eq_true.mp h.signature x hx)
  have htext := ends_append 'A' '=' "WS4-HMAC-SHA256 Credential=".toList a.accessKey
    ('/' :: a.scope.text) ", SignedHeaders=".toList ([';'].intercalate a.signed)
    ", Signature".toList a.signature
  exact (congrArg (strip isBlank) htext).trans
    ((strip_of_ends rfl rfl hsignature).trans htext.symm)

/-- A request that is signed for its receiver. -/
structure Signs (v : Receiver) (r : Request) (a : Authorization) : Prop where
  header : r.value "authorization".toList = some a.text
  plain : a.Plain
  region : a.scope.region = v.region
  service : a.scope.service = v.service
  date : (r.value "x-amz-date".toList).map (·.take 8) = some a.scope.date
  host : "host".toList ∈ a.signed
  signature : v.expected r a = some a.signature

lemma Signs.authentic (h : Signs v r a) : v.Authentic r :=
  ⟨a, by rw [h.header, Option.bind_some, Authorization.read_text h.plain], h.region, h.service,
    h.date, h.host, h.signature⟩

end Core.Signed
