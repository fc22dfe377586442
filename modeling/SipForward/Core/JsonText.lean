import SipForward.Core.Json
import Mathlib.Data.List.Infix
import Mathlib.Data.List.TakeWhile

/-!
# JSON texts

A reader of JSON texts that refuses lone surrogates, control characters and malformed bytes in
strings. Every function takes what it reads from the front of the text and gives the rest.
-/

namespace Core.JsonText

/-! ### Strings -/

/-- The value of a hexadecimal digit. -/
def hexDigit : Option Char → Option ℕ
  | none   => none
  | some c =>
    if c.isDigit then some (c.toNat - 48)
    else if 'a' ≤ c ∧ c ≤ 'f' then some (c.toNat - 87)
    else if 'A' ≤ c ∧ c ≤ 'F' then some (c.toNat - 55)
    else none

/-- Four hexadecimal digits. -/
def readHex : Text → Option (ℕ × Text)
  | a :: b :: c :: d :: t => do
    let a ← hexDigit a
    let b ← hexDigit b
    let c ← hexDigit c
    let d ← hexDigit d
    some (((a * 16 + b) * 16 + c) * 16 + d, t)
  | _ => none

/-- The second half of a surrogate pair. -/
def readLow (high : ℕ) (t : Text) : Option (Char × Text) :=
  if t.head? = some (some '\\') ∧ t.tail.head? = some (some 'u') then do
    let (low, t) ← readHex t.tail.tail
    if 0xDC00 ≤ low ∧ low < 0xE000 then
      some (Char.ofNat (0x10000 + (high - 0xD800) * 0x400 + (low - 0xDC00)), t)
    else none
  else none

/-- What follows `\u`. -/
def readUnicode (t : Text) : Option (Char × Text) := do
  let (unit, t) ← readHex t
  if 0xD800 ≤ unit ∧ unit < 0xDC00 then readLow unit t
  else if 0xDC00 ≤ unit ∧ unit < 0xE000 then none
  else some (Char.ofNat unit, t)

/-- The character that a backslash and a letter stand for. -/
def escaped : Char → Option Char
  | '"'  => some '"'
  | '\\' => some '\\'
  | '/'  => some '/'
  | 'b'  => some '\x08'
  | 'f'  => some '\x0c'
  | 'n'  => some '\n'
  | 'r'  => some '\r'
  | 't'  => some '\t'
  | _    => none

/-- What follows a backslash. -/
def readEscape : Text → Option (Char × Text)
  | some c :: t => if c = 'u' then readUnicode t else (escaped c).map (·, t)
  | _           => none

/-- One character of a string. -/
def readChar : Text → Option (Char × Text)
  | some c :: t =>
    if c = '\\' then readEscape t
    else if c.toNat < 0x20 then none
    else some (c, t)
  | _ => none

/-- The characters of a string, with as many at most. -/
def readChars : ℕ → Text → Option (List Char × Text)
  | 0, _     => none
  | n + 1, t =>
    if t.head? = some (some '"') then some ([], t.tail)
    else do
      let (c, t) ← readChar t
      let (s, t) ← readChars n t
      some (c :: s, t)

/-- What follows the opening quote of a string. -/
def readString (t : Text) : Option (Text × Text) :=
  (readChars (t.length + 1) t).map fun r => (r.1.map some, r.2)

/-! ### Numbers -/

def isDigit (c : Option Char) : Bool := c.any Char.isDigit

/-- Digits, and their number and value. -/
def readDigits (t : Text) : Option (List Char × Text) :=
  let digits := (t.takeWhile isDigit).filterMap id
  if digits = [] then none else some (digits, t.dropWhile isDigit)

/-- The part of a number before the point: no zeros in front. -/
def readInteger (t : Text) : Option (List Char × Text) :=
  if t.head? = some (some '0') then some (['0'], t.tail) else readDigits t

/-- The digits behind the point, if there is one. -/
def readFraction (t : Text) : Option (List Char × Text) :=
  if t.head? = some (some '.') then readDigits t.tail else some ([], t)

def value (digits : List Char) : Int := (Nat.ofDigitChars 10 digits 0 : ℕ)

/-- The exponent, if there is one. -/
def readExponent (t : Text) : Option (Option Int × Text) :=
  if t.head? = some (some 'e') ∨ t.head? = some (some 'E') then
    let (sign, t) : Int × Text :=
      if t.tail.head? = some (some '-') then (-1, t.tail.tail)
      else if t.tail.head? = some (some '+') then (1, t.tail.tail)
      else (1, t.tail)
    (readDigits t).map fun r => (some (sign * value r.1), r.2)
  else some (none, t)

def readNumber (t : Text) : Option (Number × Text) := do
  let (sign, t) : Int × Text := if t.head? = some (some '-') then (-1, t.tail) else (1, t)
  let (integer, t) ← readInteger t
  let (fraction, t) ← readFraction t
  let (exponent, t) ← readExponent t
  if fraction = [] ∧ exponent = none then some (.integer (sign * value integer), t)
  else some (.decimal (sign * value (integer ++ fraction)) (exponent.getD 0 - fraction.length), t)

/-! ### Values -/

def isBlank (c : Option Char) : Bool :=
  c = some ' ' || c = some '\t' || c = some '\n' || c = some '\r'

def skip (t : Text) : Text := t.dropWhile isBlank

/-- The character stands at the front, behind white space. -/
def expect (c : Char) (t : Text) : Option Text :=
  if (skip t).head? = some (some c) then some (skip t).tail else none

/-- A word with its value. -/
def readWord (word : String) (v : Json) (t : Text) : Option (Json × Text) :=
  if (Text.ofString word).isPrefixOf t then some (v, t.drop word.length) else none

mutual

/-- A value, with as many levels and members at most. -/
def readValue : ℕ → Text → Option (Json × Text)
  | 0, _     => none
  | n + 1, t =>
    match (skip t).head? with
    | some (some '"') => (readString (skip t).tail).map fun r => (.string r.1, r.2)
    | some (some '{') =>
      match expect '}' (skip t).tail with
      | some t => some (.object [], t)
      | none   => (readMembers n (skip t).tail).map fun r => (.object r.1, r.2)
    | some (some '[') =>
      match expect ']' (skip t).tail with
      | some t => some (.array [], t)
      | none   => (readElements n (skip t).tail).map fun r => (.array r.1, r.2)
    | some (some 't') => readWord "true" (.bool true) (skip t)
    | some (some 'f') => readWord "false" (.bool false) (skip t)
    | some (some 'n') => readWord "null" .null (skip t)
    | _               => (readNumber (skip t)).map fun r => (.number r.1, r.2)

/-- The members of an object up to the closing brace, at least one. -/
def readMembers : ℕ → Text → Option (List Member × Text)
  | 0, _     => none
  | n + 1, t => do
    let t ← expect '"' t
    let (name, t) ← readString t
    let t ← expect ':' t
    let (v, t) ← readValue n t
    match expect ',' t with
    | some t => do
      let (members, t) ← readMembers n t
      some ((name, v) :: members, t)
    | none   => (expect '}' t).map fun t => ([(name, v)], t)

/-- The elements of an array up to the closing bracket, at least one. -/
def readElements : ℕ → Text → Option (List Json × Text)
  | 0, _     => none
  | n + 1, t => do
    let (v, t) ← readValue n t
    match expect ',' t with
    | some t => do
      let (values, t) ← readElements n t
      some (v :: values, t)
    | none   => (expect ']' t).map fun t => ([v], t)

end

/-- The value of a text. -/
def parse (t : Text) : Option Json := do
  let (v, rest) ← readValue (t.length + 1) t
  if skip rest = [] then some v else none

/-! ### The rest is a tail -/

variable {t rest : Text} {n : ℕ}

lemma readHex_suffix {u : ℕ} (h : readHex t = some (u, rest)) : rest <:+ t := by
  match t, h with
  | a :: b :: c :: d :: t, h =>
    simp only [readHex, Option.bind_eq_bind, Option.bind_eq_some_iff, Option.some.injEq,
      Prod.mk.injEq] at h
    obtain ⟨-, -, -, -, -, -, -, -, -, rfl⟩ := h
    exact ⟨[a, b, c, d], rfl⟩

lemma readLow_suffix {high : ℕ} {c : Char} (h : readLow high t = some (c, rest)) : rest <:+ t := by
  rw [readLow] at h
  split_ifs at h
  rw [Option.bind_eq_bind, Option.bind_eq_some_iff] at h
  obtain ⟨⟨low, t'⟩, hlow, h⟩ := h
  dsimp only at h
  split_ifs at h
  obtain ⟨-, rfl⟩ := Prod.mk.inj (Option.some.inj h)
  exact (readHex_suffix hlow).trans ((List.tail_suffix _).trans (List.tail_suffix t))

lemma readUnicode_suffix {c : Char} (h : readUnicode t = some (c, rest)) : rest <:+ t := by
  rw [readUnicode, Option.bind_eq_bind, Option.bind_eq_some_iff] at h
  obtain ⟨⟨unit, t'⟩, hunit, h⟩ := h
  dsimp only at h
  split_ifs at h
  · exact (readLow_suffix h).trans (readHex_suffix hunit)
  · cases h
    exact readHex_suffix hunit

lemma readEscape_suffix {c : Char} (h : readEscape t = some (c, rest)) : rest <:+ t := by
  match t, h with
  | some a :: t, h =>
    rw [readEscape] at h
    split_ifs at h
    · exact (readUnicode_suffix h).trans (List.suffix_cons _ _)
    · obtain ⟨b, -, hb⟩ := Option.map_eq_some_iff.mp h
      cases hb
      exact List.suffix_cons _ _

lemma readChar_suffix {c : Char} (h : readChar t = some (c, rest)) : rest <:+ t := by
  match t, h with
  | some a :: t, h =>
    rw [readChar] at h
    split_ifs at h
    · exact (readEscape_suffix h).trans (List.suffix_cons _ _)
    · cases h
      exact List.suffix_cons _ _

lemma readChars_suffix {s : List Char} (h : readChars n t = some (s, rest)) : rest <:+ t := by
  induction n generalizing t s with
  | zero => cases h
  | succ n ih =>
    rw [readChars] at h
    split_ifs at h
    · cases h
      exact List.tail_suffix t
    · simp only [Option.bind_eq_bind, Option.bind_eq_some_iff] at h
      obtain ⟨⟨c, t₁⟩, hc, ⟨s₁, t₂⟩, hs, h⟩ := h
      cases h
      exact (ih hs).trans (readChar_suffix hc)

lemma readString_suffix {s : Text} (h : readString t = some (s, rest)) : rest <:+ t := by
  obtain ⟨⟨s', t'⟩, hs, h⟩ := Option.map_eq_some_iff.mp h
  cases h
  exact readChars_suffix hs

lemma readDigits_suffix {digits : List Char} (h : readDigits t = some (digits, rest)) :
    rest <:+ t := by
  simp only [readDigits] at h
  split_ifs at h
  cases h
  exact List.dropWhile_suffix _

lemma readInteger_suffix {digits : List Char} (h : readInteger t = some (digits, rest)) :
    rest <:+ t := by
  rw [readInteger] at h
  split_ifs at h
  · cases h
    exact List.tail_suffix t
  · exact readDigits_suffix h

lemma readFraction_suffix {digits : List Char} (h : readFraction t = some (digits, rest)) :
    rest <:+ t := by
  rw [readFraction] at h
  split_ifs at h
  · exact (readDigits_suffix h).trans (List.tail_suffix t)
  · cases h
    exact List.suffix_rfl

lemma readExponent_suffix {e : Option Int} (h : readExponent t = some (e, rest)) :
    rest <:+ t := by
  have htail : t.tail.tail <:+ t := (List.tail_suffix _).trans (List.tail_suffix t)
  rw [readExponent] at h
  split_ifs at h
  · obtain ⟨⟨digits, t'⟩, hdigits, h⟩ := Option.map_eq_some_iff.mp h
    cases h
    exact (readDigits_suffix hdigits).trans htail
  · obtain ⟨⟨digits, t'⟩, hdigits, h⟩ := Option.map_eq_some_iff.mp h
    cases h
    exact (readDigits_suffix hdigits).trans htail
  · obtain ⟨⟨digits, t'⟩, hdigits, h⟩ := Option.map_eq_some_iff.mp h
    cases h
    exact (readDigits_suffix hdigits).trans (List.tail_suffix t)
  · cases h
    exact List.suffix_rfl

lemma readNumber_suffix {v : Number} (h : readNumber t = some (v, rest)) : rest <:+ t := by
  have hsign : ∀ t' : Text, ∀ sign : Int, (if t.head? = some (some '-') then ((-1 : Int), t.tail)
      else (1, t)) = (sign, t') → t' <:+ t := by
    intro t' sign h
    split_ifs at h
    · cases h
      exact List.tail_suffix t
    · cases h
      exact List.suffix_rfl
  rw [readNumber] at h
  generalize (if t.head? = some (some '-') then ((-1 : Int), t.tail) else (1, t)) = signed
    at h hsign
  obtain ⟨sign, t'⟩ := signed
  simp only [Option.bind_eq_bind, Option.bind_eq_some_iff] at h
  obtain ⟨⟨integer, t₁⟩, h₁, ⟨fraction, t₂⟩, h₂, ⟨exponent, t₃⟩, h₃, h⟩ := h
  have hrest : t₃ = rest := by
    dsimp only at h
    split_ifs at h <;> cases h <;> rfl
  rw [← hrest]
  exact (readExponent_suffix h₃).trans ((readFraction_suffix h₂).trans
    ((readInteger_suffix h₁).trans (hsign t' sign rfl)))

lemma skip_suffix (t : Text) : skip t <:+ t := List.dropWhile_suffix _

lemma expect_suffix {c : Char} (h : expect c t = some rest) : rest <:+ t := by
  rw [expect] at h
  split_ifs at h
  cases h
  exact (List.tail_suffix _).trans (skip_suffix t)

lemma readWord_suffix {word : String} {v w : Json} (h : readWord word v t = some (w, rest)) :
    rest <:+ t := by
  rw [readWord] at h
  split_ifs at h
  cases h
  exact List.drop_suffix _ _

lemma values_suffix (n : ℕ) :
    (∀ t v rest, readValue n t = some (v, rest) → rest <:+ t) ∧
    (∀ t members rest, readMembers n t = some (members, rest) → rest <:+ t) ∧
    ∀ t values rest, readElements n t = some (values, rest) → rest <:+ t := by
  induction n with
  | zero => exact ⟨nofun, nofun, nofun⟩
  | succ n ih =>
    obtain ⟨ihvalue, ihmembers, ihelements⟩ := ih
    refine ⟨fun t v rest h => ?_, fun t members rest h => ?_, fun t values rest h => ?_⟩
    · have htail : (skip t).tail <:+ t := (List.tail_suffix _).trans (skip_suffix t)
      rw [readValue] at h
      split at h
      · obtain ⟨⟨s, t'⟩, hs, h⟩ := Option.map_eq_some_iff.mp h
        cases h
        exact (readString_suffix hs).trans htail
      · split at h
        · next hclose =>
          cases h
          exact (expect_suffix hclose).trans htail
        · obtain ⟨⟨members, t'⟩, hmembers, h⟩ := Option.map_eq_some_iff.mp h
          cases h
          exact (ihmembers _ _ _ hmembers).trans htail
      · split at h
        · next hclose =>
          cases h
          exact (expect_suffix hclose).trans htail
        · obtain ⟨⟨values, t'⟩, hvalues, h⟩ := Option.map_eq_some_iff.mp h
          cases h
          exact (ihelements _ _ _ hvalues).trans htail
      · exact (readWord_suffix h).trans (skip_suffix t)
      · exact (readWord_suffix h).trans (skip_suffix t)
      · exact (readWord_suffix h).trans (skip_suffix t)
      · obtain ⟨⟨v, t'⟩, hnumber, h⟩ := Option.map_eq_some_iff.mp h
        cases h
        exact (readNumber_suffix hnumber).trans (skip_suffix t)
    · simp only [readMembers, Option.bind_eq_bind, Option.bind_eq_some_iff] at h
      obtain ⟨t₁, h₁, ⟨name, t₂⟩, h₂, t₃, h₃, ⟨v, t₄⟩, h₄, h⟩ := h
      have htail : t₄ <:+ t := (ihvalue _ _ _ h₄).trans ((expect_suffix h₃).trans
        ((readString_suffix h₂).trans (expect_suffix h₁)))
      dsimp only at h
      split at h
      · next t₅ h₅ =>
        obtain ⟨⟨members, t₆⟩, h₆, h⟩ := Option.bind_eq_some_iff.mp h
        cases h
        exact (ihmembers _ _ _ h₆).trans ((expect_suffix h₅).trans htail)
      · obtain ⟨t₅, h₅, h⟩ := Option.map_eq_some_iff.mp h
        cases h
        exact (expect_suffix h₅).trans htail
    · simp only [readElements, Option.bind_eq_bind, Option.bind_eq_some_iff] at h
      obtain ⟨⟨v, t₁⟩, h₁, h⟩ := h
      dsimp only at h
      split at h
      · next t₂ h₂ =>
        obtain ⟨⟨values, t₃⟩, h₃, h⟩ := Option.bind_eq_some_iff.mp h
        cases h
        exact (ihelements _ _ _ h₃).trans ((expect_suffix h₂).trans (ihvalue _ _ _ h₁))
      · obtain ⟨t₂, h₂, h⟩ := Option.map_eq_some_iff.mp h
        cases h
        exact (expect_suffix h₂).trans (ihvalue _ _ _ h₁)

/-! ### Where the strings of an object come from -/

/-- What may follow a member of an object. -/
def Follows (t : Text) : Prop := (expect ',' t).isSome ∨ (expect '}' t).isSome

/-- A string is a value of a member: it was read from a tail of the text, up to the end of the
member. -/
structure Origin (t s : Text) : Prop where
  read : ∃ front rest, front <:+ t ∧ readString front = some (s, rest) ∧ Follows rest

lemma Origin.mono {t' s : Text} (h : Origin t s) (ht : t <:+ t') : Origin t' s := by
  obtain ⟨front, rest, hfront, hread, hfollows⟩ := h.read
  exact ⟨front, rest, hfront.trans ht, hread, hfollows⟩

lemma readWord_value {word : String} {v w : Json} (h : readWord word v t = some (w, rest)) :
    w = v := by
  rw [readWord] at h
  split_ifs at h
  cases h
  rfl

/-- A value that is a string starts with a quote. -/
lemma readValue_string {s : Text} (h : readValue n t = some (.string s, rest)) :
    readString (skip t).tail = some (s, rest) := by
  cases n with
  | zero => cases h
  | succ n =>
    rw [readValue] at h
    split at h
    · obtain ⟨⟨s', t'⟩, hs, h⟩ := Option.map_eq_some_iff.mp h
      cases h
      exact hs
    · split at h
      · cases h
      · obtain ⟨members, -, h⟩ := Option.map_eq_some_iff.mp h
        cases h
    · split at h
      · cases h
      · obtain ⟨values, -, h⟩ := Option.map_eq_some_iff.mp h
        cases h
    · cases readWord_value h
    · cases readWord_value h
    · cases readWord_value h
    · obtain ⟨v, -, h⟩ := Option.map_eq_some_iff.mp h
      cases h

lemma origin_of_readMembers {members : List Member} {name s : Text}
    (h : readMembers n t = some (members, rest)) (hmem : (name, .string s) ∈ members) :
    Origin t s := by
  induction n generalizing t members with
  | zero => cases h
  | succ n ih =>
    simp only [readMembers, Option.bind_eq_bind, Option.bind_eq_some_iff] at h
    obtain ⟨t₁, h₁, ⟨name', t₂⟩, h₂, t₃, h₃, ⟨v, t₄⟩, h₄, h⟩ := h
    have htail : t₃ <:+ t := (expect_suffix h₃).trans
      ((readString_suffix h₂).trans (expect_suffix h₁))
    have hhead (hs : Json.string s = v) (hfollows : Follows t₄) : Origin t s := by
      subst hs
      exact ⟨(skip t₃).tail, t₄, ((List.tail_suffix _).trans (skip_suffix t₃)).trans htail,
        readValue_string h₄, hfollows⟩
    dsimp only at h
    split at h
    · next t₅ h₅ =>
      obtain ⟨⟨members', t₆⟩, h₆, h⟩ := Option.bind_eq_some_iff.mp h
      cases h
      rcases List.mem_cons.mp hmem with heq | hmem
      · exact hhead (Prod.mk.inj heq).2 (Or.inl (by rw [h₅]; rfl))
      · exact (ih h₆ hmem).mono ((expect_suffix h₅).trans
          (((values_suffix n).1 _ _ _ h₄).trans htail))
    · obtain ⟨t₅, h₅, h⟩ := Option.map_eq_some_iff.mp h
      cases h
      exact hhead (Prod.mk.inj (List.mem_singleton.mp hmem)).2 (Or.inr (by rw [h₅]; rfl))

/-- A value that is an object is empty or has its members behind the brace. -/
lemma readValue_object {members : List Member} (h : readValue n t = some (.object members, rest)) :
    members = [] ∨ ∃ m rest, readMembers m (skip t).tail = some (members, rest) := by
  cases n with
  | zero => cases h
  | succ n =>
    rw [readValue] at h
    split at h
    · obtain ⟨s, -, h⟩ := Option.map_eq_some_iff.mp h
      cases h
    · split at h
      · cases h
        exact Or.inl rfl
      · obtain ⟨⟨members', t'⟩, hmembers, h⟩ := Option.map_eq_some_iff.mp h
        cases h
        exact Or.inr ⟨n, t', hmembers⟩
    · split at h
      · cases h
      · obtain ⟨values, -, h⟩ := Option.map_eq_some_iff.mp h
        cases h
    · cases readWord_value h
    · cases readWord_value h
    · cases readWord_value h
    · obtain ⟨v, -, h⟩ := Option.map_eq_some_iff.mp h
      cases h

/-- A string that is a member of the object that is the value of a text. -/
lemma origin_of_parse {members : List Member} {name s : Text}
    (h : parse t = some (.object members)) (hmem : (name, .string s) ∈ members) : Origin t s := by
  rw [parse, Option.bind_eq_bind, Option.bind_eq_some_iff] at h
  obtain ⟨⟨v, rest⟩, hv, h⟩ := h
  dsimp only at h
  split_ifs at h
  cases h
  rcases readValue_object hv with rfl | ⟨m, rest', hmembers⟩
  · cases hmem
  · exact (origin_of_readMembers hmembers hmem).mono
      ((List.tail_suffix _).trans (skip_suffix t))

end Core.JsonText
