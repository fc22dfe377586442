import SipForward.Core.JsonAssembly

/-!
# Writing JSON

Texts as the encoders of several languages write them: without white space, in the order of the
members, with the short escapes where there is one. They differ in which other characters they write
with a number. Whichever these are, what is written is read as it was.
-/

namespace Core.JsonText

/-! ### Escapes -/

/-- The letter behind the backslash, of a character that has one. -/
def shortEscape : Char → Option Char
  | '"'    => some '"'
  | '\\'   => some '\\'
  | '\x08' => some 'b'
  | '\x0c' => some 'f'
  | '\n'   => some 'n'
  | '\r'   => some 'r'
  | '\t'   => some 't'
  | _      => none

def hexChar (n : ℕ) : Char := if n < 10 then Char.ofNat (48 + n) else Char.ofNat (87 + n)

/-- `\u` with four digits. -/
def unicodeUnit (n : ℕ) : List Char :=
  ['\\', 'u', hexChar (n / 4096), hexChar (n / 256 % 16), hexChar (n / 16 % 16), hexChar (n % 16)]

/-- The number of a character, or the two of its surrogates. -/
def unicodeEscape (c : Char) : List Char :=
  if c.toNat < 0x10000 then unicodeUnit c.toNat
  else unicodeUnit (0xD800 + (c.toNat - 0x10000) / 0x400) ++
    unicodeUnit (0xDC00 + (c.toNat - 0x10000) % 0x400)

/-- An encoder, by the characters that it writes with a number if they have no short escape. -/
structure Encoder where
  numbered : Char → Bool
  control : ∀ c, c.toNat < 0x20 → numbered c = true

namespace Encoder

/-- `encoding/json`, with the characters that HTML gives a meaning. -/
def go : Encoder where
  numbered c := c.toNat < 0x20 || c = '<' || c = '>' || c = '&' || c = '\u2028' || c = '\u2029'
  control c h := by simp [h]

/-- `nlohmann::json::dump`. -/
def nlohmann : Encoder where
  numbered c := c.toNat < 0x20
  control _ h := decide_eq_true h

/-! ### Values -/

def char (w : Encoder) (c : Char) : List Char :=
  match shortEscape c with
  | some letter => ['\\', letter]
  | none        => if w.numbered c then unicodeEscape c else [c]

/-- What is written for the characters of a string; a malformed byte stays. -/
def chars (w : Encoder) (s : Text) : Text :=
  s.flatMap fun c => c.elim [none] fun c => (w.char c).map some

def string (w : Encoder) (s : Text) : Text := some '"' :: (w.chars s ++ [some '"'])

/-- An integer; no other number is written by the services. -/
def number : Number → Text
  | .integer v   => numberText (v < 0) (Nat.toDigits 10 v.natAbs) []
  | .decimal _ _ => []

mutual

def value (w : Encoder) : Json → Text
  | .null           => Text.ofString "null"
  | .bool b         => Text.ofString (if b then "true" else "false")
  | .number n       => number n
  | .string s       => w.string s
  | .array values   => some '[' :: (w.elements values ++ [some ']'])
  | .object members => some '{' :: (w.members members ++ [some '}'])

def elements (w : Encoder) : List Json → Text
  | []        => []
  | v :: rest => w.value v ++ if rest.isEmpty then [] else some ',' :: w.elements rest

def members (w : Encoder) : List Member → Text
  | []             => []
  | (k, v) :: rest =>
    w.string k ++ some ':' :: (w.value v ++ if rest.isEmpty then [] else some ',' :: w.members rest)

end

end Encoder

end Core.JsonText

namespace Core.Json

mutual

/-- Strings are well-formed and numbers are integers. -/
def writable : Json → Bool
  | .null           => true
  | .bool _         => true
  | .number n       => match n with
    | .integer _   => true
    | .decimal _ _ => false
  | .string s       => s.wellFormed
  | .array values   => writableElements values
  | .object members => writableMembers members

def writableElements : List Json → Bool
  | []        => true
  | v :: rest => v.writable && writableElements rest

def writableMembers : List Member → Bool
  | []             => true
  | (k, v) :: rest => k.wellFormed && v.writable && writableMembers rest

end

end Core.Json

namespace Core.JsonText

variable {s t rest : Text} {n : ℕ} {c : Char} {w : Encoder} {v : Json} {values : List Json}
  {members : List Member}

/-! ### Reading a character that was written -/

lemma hexDigit_hexChar (h : n < 16) : hexDigit (some (hexChar n)) = some n := by
  have hall : ∀ i : Fin 16, hexDigit (some (hexChar i)) = some i.val := by decide
  exact hall ⟨n, h⟩

lemma readHex_unicodeUnit (h : n < 0x10000) (t : Text) :
    readHex (((unicodeUnit n).drop 2).map some ++ t) = some (n, t) := by
  have hvalue : ((n / 4096 * 16 + n / 256 % 16) * 16 + n / 16 % 16) * 16 + n % 16 = n := by omega
  simp only [unicodeUnit, List.drop_succ_cons, List.drop_zero, List.map_cons, List.map_nil,
    List.cons_append, List.nil_append, readHex, hexDigit_hexChar (show n / 4096 < 16 by omega),
    hexDigit_hexChar (show n / 256 % 16 < 16 by omega),
    hexDigit_hexChar (show n / 16 % 16 < 16 by omega),
    hexDigit_hexChar (show n % 16 < 16 by omega), Option.bind_eq_bind, Option.bind_some, hvalue]

lemma unicodeUnit_eq (n : ℕ) : unicodeUnit n = '\\' :: 'u' :: (unicodeUnit n).drop 2 := rfl

lemma toNat_valid (c : Char) : c.toNat < 0xD800 ∨ 0xDFFF < c.toNat ∧ c.toNat < 0x110000 := c.valid

lemma readUnicode_unit (hn : n < 0x10000) (hvalid : n < 0xD800 ∨ 0xDFFF < n) (t : Text) :
    readUnicode (((unicodeUnit n).drop 2).map some ++ t) = some (Char.ofNat n, t) := by
  rw [readUnicode, readHex_unicodeUnit hn, Option.bind_eq_bind, Option.bind_some]
  dsimp only
  rw [if_neg (by omega), if_neg (by omega)]

/-- The second of two surrogates. -/
lemma readLow_unit {high low : ℕ} (hlow : 0xDC00 ≤ low ∧ low < 0xE000) (t : Text) :
    readLow high ((unicodeUnit low).map some ++ t) =
      some (Char.ofNat (0x10000 + (high - 0xD800) * 0x400 + (low - 0xDC00)), t) := by
  have hhex := readHex_unicodeUnit (show low < 0x10000 by omega) t
  rw [readLow, unicodeUnit_eq low]
  simp only [List.map_cons, List.cons_append, List.head?_cons, List.tail_cons, and_self, if_true,
    hhex, Option.bind_eq_bind, Option.bind_some]
  rw [if_pos hlow]

lemma readUnicode_surrogates {high low : ℕ} (hhigh : 0xD800 ≤ high ∧ high < 0xDC00)
    (hlow : 0xDC00 ≤ low ∧ low < 0xE000) (t : Text) :
    readUnicode (((unicodeUnit high).drop 2 ++ unicodeUnit low).map some ++ t) =
      some (Char.ofNat (0x10000 + (high - 0xD800) * 0x400 + (low - 0xDC00)), t) := by
  rw [List.map_append, List.append_assoc, readUnicode, readHex_unicodeUnit (by omega),
    Option.bind_eq_bind, Option.bind_some]
  dsimp only
  rw [if_pos hhigh, readLow_unit hlow]

/-- What stands behind the backslash of a character with a number. -/
lemma readUnicode_unicodeEscape (c : Char) (t : Text) :
    readUnicode (((unicodeEscape c).drop 2).map some ++ t) = some (c, t) := by
  have hvalid := toNat_valid c
  rw [unicodeEscape]
  split_ifs with hsmall
  · rw [readUnicode_unit hsmall (hvalid.imp_right And.left), Char.ofNat_toNat]
  · have hvalue : 0x10000 + (0xD800 + (c.toNat - 0x10000) / 0x400 - 0xD800) * 0x400 +
        (0xDC00 + (c.toNat - 0x10000) % 0x400 - 0xDC00) = c.toNat := by omega
    have hread := @readUnicode_surrogates (0xD800 + (c.toNat - 0x10000) / 0x400)
      (0xDC00 + (c.toNat - 0x10000) % 0x400) (by omega) (by omega) t
    rw [hvalue, Char.ofNat_toNat] at hread
    exact hread

lemma escaped_shortEscape {letter : Char} (h : shortEscape c = some letter) :
    escaped letter = some c ∧ letter ≠ 'u' := by
  unfold shortEscape at h
  split at h <;> first | (cases h; exact ⟨rfl, by decide⟩) | cases h

lemma shortEscape_quote : shortEscape '"' = some '"' := rfl

lemma shortEscape_backslash : shortEscape '\\' = some '\\' := rfl

lemma unicodeEscape_eq (c : Char) :
    unicodeEscape c = '\\' :: 'u' :: (unicodeEscape c).drop 2 := by
  rw [unicodeEscape]
  split_ifs <;> rfl

/-- A character is read from what was written for it. -/
lemma readChar_char (w : Encoder) (c : Char) (t : Text) :
    readChar ((w.char c).map some ++ t) = some (c, t) := by
  cases hshort : shortEscape c with
  | some letter =>
    obtain ⟨hescaped, hu⟩ := escaped_shortEscape hshort
    simp only [Encoder.char, hshort, List.map_cons, List.map_nil, List.cons_append,
      List.nil_append, readChar, if_true, readEscape, if_neg hu, hescaped, Option.map_some]
  | none =>
    simp only [Encoder.char, hshort]
    split_ifs with hnumbered
    · rw [unicodeEscape_eq]
      simp only [List.map_cons, List.cons_append, readChar, if_true, readEscape,
        readUnicode_unicodeEscape]
    · have hbackslash : c ≠ '\\' := by
        rintro rfl
        cases shortEscape_backslash.symm.trans hshort
      have hcontrol : ¬c.toNat < 0x20 := fun h => hnumbered (w.control c h)
      simp only [List.map_cons, List.map_nil, List.cons_append, List.nil_append, readChar,
        if_neg hbackslash, if_neg hcontrol]

/-- It does not look like the end of the string. -/
lemma char_ne_quote (w : Encoder) (c : Char) :
    ∃ a more, w.char c = a :: more ∧ a ≠ '"' := by
  cases hshort : shortEscape c with
  | some letter => exact ⟨'\\', [letter], by simp only [Encoder.char, hshort], by decide⟩
  | none =>
    by_cases hnumbered : w.numbered c = true
    · refine ⟨'\\', 'u' :: (unicodeEscape c).drop 2, ?_, by decide⟩
      rw [← unicodeEscape_eq]
      simp only [Encoder.char, hshort, hnumbered, if_true]
    · refine ⟨c, [], by simp [Encoder.char, hshort, hnumbered], ?_⟩
      rintro rfl
      cases shortEscape_quote.symm.trans hshort

/-! ### Reading a string that was written -/

lemma readChars_chars {l : List Char} (hn : l.length < n) (rest : Text) :
    readChars n (w.chars (l.map some) ++ some '"' :: rest) = some (l, rest) := by
  induction l generalizing n with
  | nil =>
    obtain ⟨n, rfl⟩ := Nat.exists_eq_succ_of_ne_zero (Nat.ne_zero_of_lt hn)
    exact readChars_quote n rest
  | cons c l ih =>
    obtain ⟨n, rfl⟩ := Nat.exists_eq_succ_of_ne_zero (Nat.ne_zero_of_lt hn)
    obtain ⟨a, more, hchar, hquote⟩ := char_ne_quote w c
    have htext : w.chars ((c :: l).map some) ++ some '"' :: rest =
        (w.char c).map some ++ (w.chars (l.map some) ++ some '"' :: rest) := by
      simp [Encoder.chars]
    have hread := readChar_char w c (w.chars (l.map some) ++ some '"' :: rest)
    rw [htext]
    rw [hchar, List.map_cons, List.cons_append] at hread ⊢
    exact (readChars_cons_iff (by simpa using hquote)).mpr
      ⟨c, _, l, hread, ih (Nat.lt_of_succ_lt_succ hn), rfl⟩

lemma exists_map_some (h : s.wellFormed = true) : ∃ l : List Char, s = l.map some := by
  refine ⟨s.filterMap id, ?_⟩
  rw [Text.wellFormed, List.all_eq_true] at h
  induction s with
  | nil => rfl
  | cons c s ih =>
    obtain ⟨c, rfl⟩ := Option.isSome_iff_exists.mp (h c List.mem_cons_self)
    have hcons : (some c :: s).filterMap id = c :: s.filterMap id := List.filterMap_cons_some rfl
    rw [hcons, List.map_cons, ← ih fun d hd => h d (List.mem_cons_of_mem _ hd)]

lemma length_le_chars (w : Encoder) (l : List Char) :
    l.length ≤ (w.chars (l.map some)).length := by
  induction l with
  | nil => exact Nat.le_refl _
  | cons c l ih =>
    obtain ⟨a, more, hchar, -⟩ := char_ne_quote w c
    simp only [Encoder.chars, List.map_cons, List.flatMap_cons, Option.elim_some, hchar,
      List.length_append, List.length_cons, List.length_map] at ih ⊢
    omega

/-- Behind its opening quote a string is read as it was. -/
lemma readString_string (h : s.wellFormed = true) (rest : Text) :
    readString (w.chars s ++ some '"' :: rest) = some (s, rest) := by
  obtain ⟨l, rfl⟩ := exists_map_some h
  have hlength := length_le_chars w l
  rw [readString, readChars_chars (by simp only [List.length_append]; omega)]
  rfl

/-! ### Reading a value that was written -/

/-- The value ends here. -/
def Stops (rest : Text) : Prop :=
  ∀ c ∈ rest.head?, c = some ',' ∨ c = some '}' ∨ c = some ']'

lemma stops_nil : Stops [] := nofun

lemma stops_comma (rest : Text) : Stops (some ',' :: rest) := by
  rintro c ⟨⟩
  exact Or.inl rfl

lemma stops_brace (rest : Text) : Stops (some '}' :: rest) := by
  rintro c ⟨⟩
  exact Or.inr (Or.inl rfl)

lemma stops_bracket (rest : Text) : Stops (some ']' :: rest) := by
  rintro c ⟨⟩
  exact Or.inr (Or.inr rfl)

lemma Stops.head_ne (h : Stops rest) {a : Char} (ha : a ≠ ',' ∧ a ≠ '}' ∧ a ≠ ']') :
    rest.head? ≠ some (some a) := by
  intro heq
  rcases h (some a) heq with h | h | h <;> cases h <;> simp at ha

lemma Stops.noDigit (h : Stops rest) : NoDigit rest := by
  intro c hc
  rcases h c hc with rfl | rfl | rfl <;> rfl

/-- A number has a zero in front only if it is zero. -/
lemma head_toDigits (h : (Nat.toDigits 10 n).head? = some '0') : n = 0 := by
  induction n using Nat.strongRecOn with
  | ind n ih =>
    by_cases hn : n < 10
    · rw [Nat.toDigits_of_lt_base hn] at h
      exact Nat.digitChar_eq_zero.mp (Option.some.inj h)
    · rw [Nat.toDigits_of_base_le (by decide) (by omega), List.head?_append_of_ne_nil _
        Nat.toDigits_ne_nil] at h
      have := ih (n / 10) (by omega) h
      omega

lemma isInteger_toDigits (n : ℕ) : IsInteger (Nat.toDigits 10 n) where
  nonempty := Nat.toDigits_ne_nil
  all _ hc := Nat.isDigit_of_mem_toDigits (by decide) (by decide) hc
  noZero h := by rw [head_toDigits h]; rfl

lemma value_toDigits (n : ℕ) : value (Nat.toDigits 10 n) = n := by
  rw [value, Nat.ofDigitChars_ten_toDigits]

lemma readNumber_integer (v : Int) (h : Stops rest) :
    readNumber (Encoder.number (.integer v) ++ rest) = some (.integer v, rest) := by
  have hinteger := readInteger_append (isInteger_toDigits v.natAbs) h.noDigit
  have hfraction : readFraction rest = some ([], rest) := if_neg (h.head_ne (by decide))
  have hexponent : readExponent rest = some (none, rest) := by
    rw [readExponent, if_neg]
    rintro (heq | heq)
    · exact h.head_ne (by decide) heq
    · exact h.head_ne (by decide) heq
  have hminus : ((Nat.toDigits 10 v.natAbs).map some ++ rest).head? ≠ some (some '-') := by
    obtain ⟨c, digits, hdigits⟩ := List.exists_cons_of_ne_nil (isInteger_toDigits v.natAbs).nonempty
    have hdigit := (isInteger_toDigits v.natAbs).all c (by rw [hdigits]; exact List.mem_cons_self)
    rw [hdigits]
    intro heq
    have hc : c = '-' := by simpa using heq
    rw [hc] at hdigit
    cases hdigit
  by_cases hneg : v < 0
  · have hvalue : -1 * (v.natAbs : Int) = v := by omega
    rw [Encoder.number, numberText, if_pos (by simpa using hneg), readNumber]
    simp only [if_true, List.append_nil, List.nil_append, List.cons_append, List.head?_cons,
      List.tail_cons, hinteger, hfraction, hexponent, Option.bind_eq_bind, Option.bind_some,
      and_self, value_toDigits, hvalue]
  · have hvalue : 1 * (v.natAbs : Int) = v := by omega
    rw [Encoder.number, numberText, if_neg (by simpa using hneg), if_pos rfl, List.append_nil,
      List.nil_append, readNumber, if_neg hminus]
    simp only [hinteger, hfraction, hexponent, Option.bind_eq_bind, Option.bind_some, and_self,
      if_true, value_toDigits, hvalue]

lemma number_head (v : Int) : ∃ c t, Encoder.number (.integer v) = some c :: t ∧
    isBlank (some c) = false ∧ (c = '-' ∨ c.isDigit = true) := by
  rw [Encoder.number, numberText, if_pos rfl, List.append_nil]
  by_cases hneg : v < 0
  · exact ⟨'-', _, by rw [if_pos (by simpa using hneg)]; rfl, by decide, Or.inl rfl⟩
  · obtain ⟨c, digits, hdigits⟩ :=
      List.exists_cons_of_ne_nil (isInteger_toDigits v.natAbs).nonempty
    have hc : c.isDigit = true :=
      (isInteger_toDigits v.natAbs).all c (by rw [hdigits]; exact List.mem_cons_self)
    refine ⟨c, digits.map some, by simp [hdigits, hneg], ?_, Or.inr hc⟩
    by_contra hblank
    simp only [isBlank, Bool.not_eq_false, Bool.or_eq_true, decide_eq_true_eq,
      Option.some.injEq] at hblank
    rcases hblank with ((rfl | rfl) | rfl) | rfl <;> revert hc <;> decide

/-- A number does not start like another value. -/
lemma readValue_integer (v : Int) (h : Stops rest) :
    readValue (n + 1) (Encoder.number (.integer v) ++ rest) =
      some (.number (.integer v), rest) := by
  obtain ⟨c, t, ht, hblank, hc⟩ := number_head v
  have hnumber := readNumber_integer v h
  rw [ht, List.cons_append] at hnumber ⊢
  rw [readValue, skip_cons hblank]
  split
  all_goals first
    | (rw [hnumber]; rfl)
    | (next hhead => cases hhead; exact absurd hc (by decide))

/-- A value that is written starts with a character that is no white space and closes nothing. -/
lemma value_head (w : Encoder) (h : v.writable = true) :
    ∃ a t, w.value v = a :: t ∧ isBlank a = false ∧ a ≠ some ']' := by
  cases v with
  | null => exact ⟨_, _, rfl, by decide, by decide⟩
  | bool b =>
    cases b with
    | true => exact ⟨_, _, rfl, by decide, by decide⟩
    | false => exact ⟨_, _, rfl, by decide, by decide⟩
  | number n =>
    cases n with
    | decimal m e => cases h
    | integer v =>
      obtain ⟨c, t, ht, hblank, hc⟩ := number_head v
      refine ⟨some c, t, ht, hblank, ?_⟩
      rintro ⟨⟩
      revert hc
      decide
  | string s => exact ⟨_, _, rfl, by decide, by decide⟩
  | array values => exact ⟨_, _, rfl, by decide, by decide⟩
  | object members => exact ⟨_, _, rfl, by decide, by decide⟩

lemma length_value_pos (w : Encoder) (h : v.writable = true) : 0 < (w.value v).length := by
  obtain ⟨a, t, ht, -, -⟩ := value_head w h
  rw [ht]
  exact Nat.succ_pos _

lemma elements_cons (w : Encoder) (v v' : Json) (values : List Json) :
    w.elements (v :: v' :: values) = w.value v ++ some ',' :: w.elements (v' :: values) := rfl

lemma elements_singleton (w : Encoder) (v : Json) : w.elements [v] = w.value v :=
  List.append_nil _

lemma members_cons (w : Encoder) (k : Text) (v : Json) (m : Member) (members : List Member) :
    w.members ((k, v) :: m :: members) =
      w.string k ++ some ':' :: (w.value v ++ some ',' :: w.members (m :: members)) := rfl

lemma members_singleton (w : Encoder) (k : Text) (v : Json) :
    w.members [(k, v)] = w.string k ++ some ':' :: w.value v := by
  simp [Encoder.members]

lemma string_append (w : Encoder) (s t : Text) :
    w.string s ++ t = some '"' :: (w.chars s ++ some '"' :: t) := by
  simp [Encoder.string]

mutual

/-- A value is read from what was written for it. -/
lemma readValue_value (w : Encoder) : ∀ v : Json, v.writable = true → ∀ n rest,
    (w.value v).length ≤ n → Stops rest → readValue n (w.value v ++ rest) = some (v, rest) := by
  intro v h n rest hn hrest
  obtain ⟨n, rfl⟩ : ∃ m, n = m + 1 := ⟨n - 1, by have := length_value_pos w h; omega⟩
  match v, h, hn with
  | .null, _, _ => rfl
  | .bool true, _, _ => rfl
  | .bool false, _, _ => rfl
  | .number (.integer v), _, _ => exact readValue_integer v hrest
  | .string s, h, _ =>
    rw [Encoder.value, string_append, readValue, skip_cons (by decide)]
    simp [readString_string h]
  | .array [], _, _ => rfl
  | .array (v :: values), h, hn =>
    obtain ⟨a, t, ht, hblank, hclose⟩ := value_head w (Bool.and_eq_true _ _ ▸ h).1
    have htext : w.value (.array (v :: values)) ++ rest =
        some '[' :: (w.elements (v :: values) ++ some ']' :: rest) := by
      simp [Encoder.value]
    have hnone : expect ']' (w.elements (v :: values) ++ some ']' :: rest) = none := by
      rw [Encoder.elements, ht, List.cons_append, List.cons_append]
      exact expect_ne hblank hclose _
    have hlength : (w.elements (v :: values)).length < n := by
      simp only [Encoder.value, List.length_cons, List.length_append, List.length_nil] at hn
      omega
    rw [htext, readValue, skip_cons (by decide)]
    simp only [List.head?_cons, List.tail_cons, hnone,
      readElements_elements w (v :: values) (List.cons_ne_nil _ _) h n rest hlength,
      Option.map_some]
  | .object [], _, _ => rfl
  | .object ((k, v) :: members), h, hn =>
    have htext : w.value (.object ((k, v) :: members)) ++ rest =
        some '{' :: (w.members ((k, v) :: members) ++ some '}' :: rest) := by
      simp [Encoder.value]
    have hnone : expect '}' (w.members ((k, v) :: members) ++ some '}' :: rest) = none := by
      rw [Encoder.members, List.append_assoc, string_append]
      exact expect_ne (by decide) (by decide) _
    have hlength : (w.members ((k, v) :: members)).length < n := by
      simp only [Encoder.value, List.length_cons, List.length_append, List.length_nil] at hn
      omega
    rw [htext, readValue, skip_cons (by decide)]
    simp only [List.head?_cons, List.tail_cons, hnone,
      readMembers_members w ((k, v) :: members) (List.cons_ne_nil _ _) h n rest hlength,
      Option.map_some]

lemma readElements_elements (w : Encoder) : ∀ values : List Json, values ≠ [] →
    Json.writableElements values = true → ∀ n rest, (w.elements values).length < n →
      readElements n (w.elements values ++ some ']' :: rest) = some (values, rest) := by
  intro values hne h n rest hn
  obtain ⟨n, rfl⟩ := Nat.exists_eq_succ_of_ne_zero (Nat.ne_zero_of_lt hn)
  match values, hne, h, hn with
  | [v], _, h, hn =>
    rw [elements_singleton] at hn ⊢
    rw [readElements, readValue_value w v (Bool.and_eq_true _ _ ▸ h).1 n _ (by omega)
      (stops_bracket rest), Option.bind_eq_bind, Option.bind_some]
    rfl
  | v :: v' :: values, _, h, hn =>
    obtain ⟨hv, hvalues⟩ := Bool.and_eq_true _ _ ▸ h
    rw [elements_cons, List.length_append, List.length_cons] at hn
    rw [elements_cons, List.append_assoc, List.cons_append, readElements,
      readValue_value w v hv n _ (by omega) (stops_comma _), Option.bind_eq_bind, Option.bind_some]
    dsimp only
    rw [expect_cons (by decide)]
    dsimp only
    rw [readElements_elements w (v' :: values) (List.cons_ne_nil _ _) hvalues n rest (by omega)]
    rfl

lemma readMembers_members (w : Encoder) : ∀ members : List Member, members ≠ [] →
    Json.writableMembers members = true → ∀ n rest, (w.members members).length < n →
      readMembers n (w.members members ++ some '}' :: rest) = some (members, rest) := by
  intro members hne h n rest hn
  obtain ⟨n, rfl⟩ := Nat.exists_eq_succ_of_ne_zero (Nat.ne_zero_of_lt hn)
  match members, hne, h, hn with
  | [(k, v)], _, h, hn =>
    obtain ⟨hk, hv⟩ := Bool.and_eq_true _ _ ▸ (Bool.and_eq_true _ _ ▸ h).1
    rw [members_singleton, List.length_append, List.length_cons] at hn
    rw [members_singleton, List.append_assoc, List.cons_append, string_append, readMembers,
      expect_cons (by decide), Option.bind_eq_bind, Option.bind_some, readString_string hk,
      Option.bind_eq_bind, Option.bind_some]
    dsimp only
    rw [expect_cons (by decide), Option.bind_eq_bind, Option.bind_some,
      readValue_value w v hv n _ (by omega) (stops_brace rest), Option.bind_eq_bind,
      Option.bind_some]
    rfl
  | (k, v) :: m :: members, _, h, hn =>
    obtain ⟨hkv, hmembers⟩ := Bool.and_eq_true _ _ ▸ h
    obtain ⟨hk, hv⟩ := Bool.and_eq_true _ _ ▸ hkv
    rw [members_cons, List.length_append, List.length_cons, List.length_append,
      List.length_cons] at hn
    rw [members_cons, List.append_assoc, List.cons_append, List.append_assoc, List.cons_append,
      string_append, readMembers, expect_cons (by decide), Option.bind_eq_bind, Option.bind_some,
      readString_string hk, Option.bind_eq_bind, Option.bind_some]
    dsimp only
    rw [expect_cons (by decide), Option.bind_eq_bind, Option.bind_some,
      readValue_value w v hv n _ (by omega) (stops_comma _), Option.bind_eq_bind, Option.bind_some]
    dsimp only
    rw [expect_cons (by decide)]
    dsimp only
    rw [readMembers_members w (m :: members) (List.cons_ne_nil _ _) hmembers n rest (by omega)]
    rfl

end

/-- What is written is read as it was. -/
theorem parse_value (w : Encoder) (h : v.writable = true) : parse (w.value v) = some v := by
  have hread := readValue_value w v h ((w.value v).length + 1) [] (by omega) stops_nil
  rw [List.append_nil] at hread
  rw [parse, hread, Option.bind_eq_bind, Option.bind_some]
  exact if_pos rfl

end Core.JsonText
