import SipForward.Core.JsonText
import Mathlib.Data.List.MinMax

/-!
# JSON texts put together by hand

A text is written as fixed pieces with strings in between, each in quotes and none of them escaped.
The text has the strings as the values of its members if and only if every one of them is plain: of
the strings that are not, a longest one cannot be the value of anything in the text, since it would
have to be written with an escape, inside a string that is longer still.
-/

namespace Core.JsonText

/-! ### Plain strings -/

/-- The character stands for itself in a string. -/
def isPlain (c : Char) : Bool := c ≠ '"' && c ≠ '\\' && 0x20 ≤ c.toNat

/-- A text without quotes, backslashes, control characters and malformed bytes. -/
def Plain (t : Text) : Prop := ∀ c ∈ t, c.any isPlain = true

instance (t : Text) : Decidable (Plain t) := inferInstanceAs (Decidable (∀ c ∈ t, _))

variable {s t u w rest more front : Text} {v : List Char} {n : ℕ} {c : Char} {name : String}

@[simp] lemma plain_nil : Plain [] := fun _ h => by cases h

lemma plain_cons {c : Option Char} : Plain (c :: t) ↔ c.any isPlain = true ∧ Plain t :=
  List.forall_mem_cons

lemma isPlain_iff : isPlain c = true ↔ c ≠ '"' ∧ c ≠ '\\' ∧ 0x20 ≤ c.toNat := by
  simp [isPlain, and_assoc]

lemma not_plain_of_backslash (h : some '\\' ∈ t) : ¬Plain t := fun hplain =>
  absurd (hplain _ h) (by decide)

lemma readChar_of_isPlain (hc : isPlain c = true) (t : Text) :
    readChar (some c :: t) = some (c, t) := by
  obtain ⟨-, hbackslash, hcontrol⟩ := isPlain_iff.mp hc
  rw [readChar, if_neg hbackslash, if_neg (by omega)]

@[simp] lemma readChars_quote (n : ℕ) (t : Text) :
    readChars (n + 1) (some '"' :: t) = some ([], t) := if_pos rfl

/-- A string that does not end here has a character, and goes on behind it. -/
lemma readChars_cons_iff {a : Option Char} (ha : a ≠ some '"') :
    readChars (n + 1) (a :: t) = some (v, rest) ↔ ∃ c t' v', readChar (a :: t) = some (c, t') ∧
      readChars n t' = some (v', rest) ∧ c :: v' = v := by
  rw [readChars, if_neg (by simpa using ha)]
  constructor
  · intro h
    obtain ⟨⟨c, t'⟩, hc, h⟩ := Option.bind_eq_some_iff.mp h
    obtain ⟨⟨v', t''⟩, hv', h⟩ := Option.bind_eq_some_iff.mp h
    cases h
    exact ⟨c, t', v', hc, hv', rfl⟩
  · rintro ⟨c, t', v', hc, hv', rfl⟩
    rw [hc, Option.bind_eq_bind, Option.bind_some]
    exact Option.bind_eq_some_iff.mpr ⟨_, hv', rfl⟩

/-- A plain string is read up to the quote behind it. -/
lemma readChars_of_plain (hv : Plain (v.map some)) (hn : v.length < n) (rest : Text) :
    readChars n (v.map some ++ some '"' :: rest) = some (v, rest) := by
  induction v generalizing n with
  | nil =>
    obtain ⟨n, rfl⟩ := Nat.exists_eq_succ_of_ne_zero (Nat.ne_zero_of_lt hn)
    exact readChars_quote n rest
  | cons c v ih =>
    obtain ⟨n, rfl⟩ := Nat.exists_eq_succ_of_ne_zero (Nat.ne_zero_of_lt hn)
    obtain ⟨hc, hv⟩ := plain_cons.mp hv
    have hquote : some c ≠ some '"' := fun h => (isPlain_iff.mp hc).1 (Option.some.inj h)
    rw [List.map_cons, List.cons_append, readChars_cons_iff hquote]
    exact ⟨c, _, v, readChar_of_isPlain hc _, ih hv (Nat.lt_of_succ_lt_succ hn), rfl⟩

lemma exists_chars (hs : Plain s) : ∃ v : List Char, s = v.map some := by
  induction s with
  | nil => exact ⟨[], rfl⟩
  | cons c s ih =>
    obtain ⟨hc, hs⟩ := plain_cons.mp hs
    obtain ⟨v, rfl⟩ := ih hs
    cases c with
    | none => cases hc
    | some c => exact ⟨c :: v, rfl⟩

lemma readString_of_plain (hs : Plain s) (rest : Text) :
    readString (s ++ some '"' :: rest) = some (s, rest) := by
  obtain ⟨v, rfl⟩ := exists_chars hs
  have hlength : v.length ≤ (v.map some ++ some '"' :: rest).length := by
    rw [List.length_append, List.length_map]
    exact Nat.le_add_right _ _
  rw [readString, readChars_of_plain hs (by omega)]
  rfl

/-! ### Reading what was written -/

/-- A member or the object ends here. -/
def Ends (rest : Text) : Prop := rest.head? = some (some ',') ∨ rest.head? = some (some '}')

/-- The value is read from its text. -/
def Reads (value : Text) (v : Json) : Prop :=
  ∀ n rest, Ends rest → readValue (n + 1) (value ++ rest) = some (v, rest)

lemma skip_cons {a : Option Char} (ha : isBlank a = false) (t : Text) : skip (a :: t) = a :: t := by
  rw [skip, List.dropWhile_cons, ha]
  rfl

lemma expect_cons (hc : isBlank (some c) = false) (t : Text) : expect c (some c :: t) = some t := by
  rw [expect, skip_cons hc]
  exact if_pos rfl

lemma expect_ne {a : Option Char} (ha : isBlank a = false) (hne : a ≠ some c) (t : Text) :
    expect c (a :: t) = none := by
  rw [expect, skip_cons ha, if_neg (by simpa using hne)]

lemma reads_string (hs : Plain s) : Reads (some '"' :: s ++ [some '"']) (.string s) := by
  intro n rest _
  have hskip : skip (some '"' :: s ++ [some '"'] ++ rest) =
      some '"' :: (s ++ some '"' :: rest) := by
    rw [List.append_assoc, List.cons_append, skip_cons (by decide), List.singleton_append]
  rw [readValue, hskip]
  simp [readString_of_plain hs]

/-- Digits without a zero in front. -/
structure IsInteger (digits : List Char) : Prop where
  nonempty : digits ≠ []
  all : ∀ c ∈ digits, c.isDigit = true
  noZero : digits.head? = some '0' → digits = ['0']

/-- A sign, digits, and more digits behind a point if there are any. -/
def numberText (negative : Bool) (integer fraction : List Char) : Text :=
  (if negative then [some '-'] else []) ++ (integer.map some ++
    if fraction = [] then [] else some '.' :: fraction.map some)

/-- The number does not go on here. -/
def NoDigit (rest : Text) : Prop := ∀ c ∈ rest.head?, isDigit c = false

lemma readDigits_append {digits : List Char} (hne : digits ≠ [])
    (hdigits : ∀ c ∈ digits, c.isDigit = true) (hrest : NoDigit rest) :
    readDigits (digits.map some ++ rest) = some (digits, rest) := by
  have hall : ∀ c ∈ digits.map some, isDigit c = true := by
    intro c hc
    obtain ⟨d, hd, rfl⟩ := List.mem_map.mp hc
    exact hdigits d hd
  have htake : rest.takeWhile isDigit = [] := by
    cases rest with
    | nil => rfl
    | cons a rest => exact List.takeWhile_cons_of_neg (by simp [hrest a rfl])
  have hdrop : rest.dropWhile isDigit = rest := by
    cases rest with
    | nil => rfl
    | cons a rest => exact List.dropWhile_cons_of_neg (by simp [hrest a rfl])
  have hmap : (digits.map some).filterMap id = digits := by simp
  rw [readDigits, List.takeWhile_append_of_pos hall, htake, List.append_nil, hmap, if_neg hne,
    List.dropWhile_append_of_pos hall, hdrop]

lemma readInteger_append {digits : List Char} (h : IsInteger digits) (hrest : NoDigit rest) :
    readInteger (digits.map some ++ rest) = some (digits, rest) := by
  obtain ⟨c, digits', rfl⟩ := List.exists_cons_of_ne_nil h.nonempty
  rw [readInteger]
  split_ifs with hzero
  · have hc : c = '0' := by simpa using hzero
    rw [h.noZero (by rw [hc]; rfl)]
    rfl
  · exact readDigits_append h.nonempty h.all hrest

lemma Ends.noDigit (h : Ends rest) : NoDigit rest := by
  intro c hc
  rcases h with h | h <;> rw [h] at hc <;> cases hc <;> rfl

lemma readExponent_of_ends (h : Ends rest) : readExponent rest = some (none, rest) := by
  rw [readExponent, if_neg (by rcases h with h | h <;> rw [h] <;> decide)]

/-- The digits behind the point. -/
lemma readFraction_append {fraction : List Char} (hfraction : ∀ c ∈ fraction, c.isDigit = true)
    (hrest : Ends rest) :
    readFraction ((if fraction = [] then [] else some '.' :: fraction.map some) ++ rest) =
      some (fraction, rest) := by
  split_ifs with hnil
  · rw [List.nil_append, readFraction, hnil,
      if_neg (by rcases hrest with h | h <;> rw [h] <;> decide)]
  · exact readDigits_append hnil hfraction hrest.noDigit

lemma readNumber_append {integer fraction : List Char} (negative : Bool) (h : IsInteger integer)
    (hfraction : ∀ c ∈ fraction, c.isDigit = true) :
    ∃ v, ∀ rest, Ends rest →
      readNumber (numberText negative integer fraction ++ rest) = some (v, rest) := by
  refine ⟨if fraction = [] then .integer ((if negative then -1 else 1) * value integer)
    else .decimal ((if negative then -1 else 1) * value (integer ++ fraction))
      (0 - fraction.length), fun rest hrest => ?_⟩
  have hnoDigit :
      NoDigit ((if fraction = [] then [] else some '.' :: fraction.map some) ++ rest) := by
    split_ifs with hnil
    · exact hrest.noDigit
    · rintro c ⟨⟩
      rfl
  have hsign : ∀ t : Text, (integer.map some ++ t).head? ≠ some (some '-') := by
    obtain ⟨c, digits, rfl⟩ := List.exists_cons_of_ne_nil h.nonempty
    rintro t heq
    have hc : c = '-' := by simpa using heq
    have hdigit := h.all c List.mem_cons_self
    rw [hc] at hdigit
    cases hdigit
  have hinteger := readInteger_append h hnoDigit
  have hread := readFraction_append hfraction hrest
  have hexponent := readExponent_of_ends hrest
  cases negative with
  | true =>
    rw [numberText, if_pos rfl, List.append_assoc, List.singleton_append, List.append_assoc,
      readNumber]
    simp only [List.head?_cons, if_true, List.tail_cons, hinteger, hread, hexponent,
      Option.bind_eq_bind, Option.bind_some]
    split_ifs <;> simp_all
  | false =>
    rw [numberText, if_neg (by decide), List.nil_append, List.append_assoc, readNumber,
      if_neg (hsign _)]
    simp only [hinteger, hread, hexponent, Option.bind_eq_bind, Option.bind_some]
    split_ifs <;> simp_all

lemma reads_number {integer fraction : List Char} (negative : Bool) (h : IsInteger integer)
    (hfraction : ∀ c ∈ fraction, c.isDigit = true) :
    ∃ v, Reads (numberText negative integer fraction) (.number v) := by
  obtain ⟨v, hv⟩ := readNumber_append negative h hfraction
  refine ⟨v, fun n rest hrest => ?_⟩
  obtain ⟨c, t, ht, hc⟩ : ∃ c t, numberText negative integer fraction ++ rest = some c :: t ∧
      (c = '-' ∨ c.isDigit = true) := by
    cases negative with
    | true => exact ⟨'-', _, rfl, Or.inl rfl⟩
    | false =>
      obtain ⟨c, digits, rfl⟩ := List.exists_cons_of_ne_nil h.nonempty
      exact ⟨c, _, rfl, Or.inr (h.all c List.mem_cons_self)⟩
  have hblank : isBlank (some c) = false := by
    by_contra hblank
    simp only [isBlank, Bool.not_eq_false, Bool.or_eq_true, decide_eq_true_eq,
      Option.some.injEq] at hblank
    rcases hblank with ((rfl | rfl) | rfl) | rfl <;> revert hc <;> decide
  have hnumber := hv rest hrest
  rw [ht] at hnumber ⊢
  rw [readValue, skip_cons hblank]
  split
  all_goals first
    | (rw [hnumber]; rfl)
    | (next hhead => cases hhead; exact absurd hc (by decide))

/-- The members of an object as they are written, up to the brace. -/
def encode : List (String × Text) → Text
  | []                            => []
  | [(name, value)]               =>
    some '"' :: Text.ofString name ++ some '"' :: some ':' :: some ' ' :: value ++ [some '}']
  | (name, value) :: m :: members =>
    some '"' :: Text.ofString name ++ some '"' :: some ':' :: some ' ' :: value ++
      some ',' :: some ' ' :: encode (m :: members)

/-- A member whose text is read as its value. -/
structure Entry where
  name : String
  text : Text
  value : Json
  plain : Plain (Text.ofString name)
  reads : Reads text value

variable {e : Entry} {entries : List Entry}

lemma readValue_blank (n : ℕ) (t : Text) : readValue n (some ' ' :: t) = readValue n t := by
  cases n <;> rfl

lemma readMembers_blank (n : ℕ) (t : Text) : readMembers n (some ' ' :: t) = readMembers n t := by
  cases n <;> rfl

/-- A member that is written is read, and what follows its value is looked at. -/
lemma readMembers_entry (e : Entry) (n : ℕ) (hrest : Ends rest) :
    readMembers (n + 2) (some '"' :: Text.ofString e.name ++
        some '"' :: some ':' :: some ' ' :: (e.text ++ rest)) =
      match expect ',' rest with
      | some t => (readMembers (n + 1) t).map fun r => ((Text.ofString e.name, e.value) :: r.1, r.2)
      | none   => (expect '}' rest).map fun t => ([(Text.ofString e.name, e.value)], t) := by
  rw [readMembers, List.cons_append, expect_cons (by decide), Option.bind_eq_bind, Option.bind_some,
    readString_of_plain e.plain, Option.bind_eq_bind, Option.bind_some]
  dsimp only
  rw [expect_cons (by decide), Option.bind_eq_bind, Option.bind_some, readValue_blank,
    e.reads n rest hrest]
  rcases hrest with hrest | hrest <;> rcases rest with _ | ⟨a, rest⟩ <;> cases hrest
  · have hcomma : expect ',' (some ',' :: rest) = some rest := expect_cons (by decide) rest
    simp only [Option.bind_some, hcomma]
    cases readMembers (n + 1) rest <;> rfl
  · rfl

lemma readMembers_encode (hne : entries ≠ []) (hn : entries.length < n) (rest : Text) :
    readMembers n (encode (entries.map fun e => (e.name, e.text)) ++ rest) =
      some (entries.map fun e => (Text.ofString e.name, e.value), rest) := by
  induction entries generalizing n with
  | nil => exact absurd rfl hne
  | cons e entries ih =>
    obtain ⟨n, rfl⟩ : ∃ m, n = m + 2 := ⟨n - 2, by rw [List.length_cons] at hn; omega⟩
    cases entries with
    | nil =>
      have htext : encode ([e].map fun e => (e.name, e.text)) ++ rest = some '"' ::
          Text.ofString e.name ++ some '"' :: some ':' :: some ' ' ::
            (e.text ++ some '}' :: rest) := by
        simp [encode]
      rw [htext, readMembers_entry e n (Or.inr rfl)]
      rfl
    | cons e' entries =>
      have htext : encode ((e :: e' :: entries).map fun e => (e.name, e.text)) ++ rest = some '"' ::
          Text.ofString e.name ++ some '"' :: some ':' :: some ' ' :: (e.text ++ some ',' ::
            some ' ' :: (encode ((e' :: entries).map fun e => (e.name, e.text)) ++ rest)) := by
        simp [encode]
      rw [htext, readMembers_entry e n (Or.inl rfl), expect_cons (by decide)]
      dsimp only
      rw [readMembers_blank, ih (by simp) (Nat.lt_of_succ_lt_succ hn)]
      rfl

lemma length_le_encode (members : List (String × Text)) :
    members.length ≤ (encode members).length := by
  induction members using encode.induct with
  | case1 => exact Nat.le_refl _
  | case2 name value =>
    simp only [encode, List.length_append, List.length_cons]
    omega
  | case3 name value m members ih =>
    simp only [encode, List.length_append, List.length_cons] at ih ⊢
    omega

/-- An object that is written with all its names and strings plain is read as it is meant. -/
lemma parse_encode (hne : entries ≠ []) :
    parse (some '{' :: encode (entries.map fun e => (e.name, e.text))) =
      some (.object (entries.map fun e => (Text.ofString e.name, e.value))) := by
  have hlength := length_le_encode (entries.map fun e => (e.name, e.text))
  rw [List.length_map] at hlength
  have hquote : ∃ t, encode (entries.map fun e => (e.name, e.text)) = some '"' :: t := by
    rcases entries with _ | ⟨e, _ | ⟨e', entries⟩⟩
    · exact absurd rfl hne
    · exact ⟨_, rfl⟩
    · exact ⟨_, rfl⟩
  have hread := readMembers_encode hne (Nat.lt_succ_of_le hlength) []
  obtain ⟨t, ht⟩ := hquote
  have hbrace : expect '}' (encode (entries.map fun e => (e.name, e.text))) = none := by
    rw [ht]
    exact expect_ne (by decide) (by decide) t
  rw [List.append_nil] at hread
  have hvalue : readValue ((some '{' :: encode (entries.map fun e => (e.name, e.text))).length + 1)
      (some '{' :: encode (entries.map fun e => (e.name, e.text))) =
        some (.object (entries.map fun e => (Text.ofString e.name, e.value)), []) := by
    rw [readValue, skip_cons (by decide)]
    simp [hbrace, hread]
  rw [parse, hvalue]
  rfl

/-! ### Reading from the middle of a text -/

/-- What is read up to a quote without a backslash in front is plain. -/
lemma readChars_of_quote (hquote : some '"' ∉ u) (hbackslash : some '\\' ∉ u)
    (h : readChars n (u ++ some '"' :: more) = some (v, rest)) :
    Plain (v.map some) ∧ rest = more := by
  induction u generalizing n v with
  | nil =>
    cases n with
    | zero => cases h
    | succ n =>
      rw [List.nil_append, readChars_quote] at h
      cases h
      exact ⟨plain_nil, rfl⟩
  | cons a u ih =>
    simp only [List.mem_cons, not_or] at hquote hbackslash
    cases n with
    | zero => cases h
    | succ n =>
      rw [List.cons_append, readChars_cons_iff (Ne.symm hquote.1)] at h
      obtain ⟨c, t, v', hc, hv', rfl⟩ := h
      cases a with
      | none => cases hc
      | some a =>
        rw [readChar, if_neg fun heq => hbackslash.1 (by rw [heq])] at hc
        split_ifs at hc with hcontrol
        cases hc
        obtain ⟨hplain, hrest⟩ := ih hquote.2 hbackslash.2 hv'
        have hc : isPlain c = true := isPlain_iff.mpr
          ⟨fun heq => hquote.1 (by rw [heq]), fun heq => hbackslash.1 (by rw [heq]), by omega⟩
        exact ⟨plain_cons.mpr ⟨hc, hplain⟩, hrest⟩

/-- A quote is no hexadecimal digit. -/
lemma readHex_of_quote {unit : ℕ} (h : readHex (s ++ some '"' :: more) = some (unit, rest)) :
    ∃ s', s'.length ≤ s.length ∧ rest = s' ++ some '"' :: more := by
  have hdigit : hexDigit (some '"') = none := rfl
  match s, h with
  | a :: b :: c :: d :: s, h =>
    simp only [List.cons_append, readHex, Option.bind_eq_bind, Option.bind_eq_some_iff,
      Option.some.injEq, Prod.mk.injEq] at h
    obtain ⟨-, -, -, -, -, -, -, -, -, rfl⟩ := h
    exact ⟨s, by simp only [List.length_cons]; omega, rfl⟩
  | [a, b, c], h => simp [readHex, hdigit] at h
  | [a, b], h => rcases more with _ | ⟨x, more⟩ <;> simp [readHex, hdigit] at h
  | [a], h => rcases more with _ | ⟨x, _ | ⟨y, more⟩⟩ <;> simp [readHex, hdigit] at h
  | [], h => rcases more with _ | ⟨x, _ | ⟨y, _ | ⟨z, more⟩⟩⟩ <;> simp [readHex, hdigit] at h

lemma readLow_of_quote {high : ℕ} (h : readLow high (s ++ some '"' :: more) = some (c, rest)) :
    ∃ s', s'.length ≤ s.length ∧ rest = s' ++ some '"' :: more := by
  match s, h with
  | [], h => simp [readLow] at h
  | [a], h => simp [readLow] at h
  | a :: b :: s, h =>
    rw [readLow] at h
    split at h
    · obtain ⟨⟨low, t⟩, hlow, h⟩ := Option.bind_eq_some_iff.mp h
      dsimp only at h
      split at h
      · obtain ⟨-, rfl⟩ := Prod.mk.inj (Option.some.inj h)
        obtain ⟨s', hs', hrest⟩ := readHex_of_quote hlow
        exact ⟨s', by simp only [List.length_cons]; omega, hrest⟩
      · cases h
    · cases h

/-- An escape that starts before the quote ends before it, or it is the quote that is escaped. -/
lemma readEscape_of_quote (h : readEscape (s ++ some '"' :: more) = some (c, rest)) :
    rest = more ∨ ∃ s', s'.length < s.length ∧ rest = s' ++ some '"' :: more := by
  match s, h with
  | [], h =>
    rw [List.nil_append, readEscape, if_neg (by decide)] at h
    cases h
    exact Or.inl rfl
  | none :: s, h => cases h
  | some a :: s, h =>
    rw [List.cons_append, readEscape] at h
    refine Or.inr ?_
    rw [List.length_cons]
    split_ifs at h
    · rw [readUnicode, Option.bind_eq_bind, Option.bind_eq_some_iff] at h
      obtain ⟨⟨unit, t⟩, hunit, h⟩ := h
      obtain ⟨s', hs', rfl⟩ := readHex_of_quote hunit
      dsimp only at h
      split_ifs at h
      · obtain ⟨s'', hs'', hrest⟩ := readLow_of_quote h
        exact ⟨s'', by omega, hrest⟩
      · cases h
        exact ⟨s', by omega, rfl⟩
    · obtain ⟨b, -, hb⟩ := Option.map_eq_some_iff.mp h
      cases hb
      exact ⟨s, Nat.lt_succ_self _, rfl⟩

/-- A string whose reading starts in `s`: it ends in `s` or at the quote behind it, and is shorter
than `s` unless it is plain; or that quote is escaped, and reading goes on behind it. -/
lemma readChars_before_quote (h : readChars n (s ++ some '"' :: more) = some (v, rest)) :
    (v.length ≤ s.length ∧ (¬Plain (v.map some) → v.length < s.length ∧ some '\\' ∈ s)) ∨
      ∃ m v', readChars m more = some (v', rest) := by
  induction n generalizing s v with
  | zero => cases h
  | succ n ih =>
    cases s with
    | nil =>
      rw [List.nil_append, readChars_quote] at h
      cases h
      exact Or.inl ⟨Nat.le_refl _, fun hnot => absurd plain_nil hnot⟩
    | cons a s =>
      by_cases hquote : a = some '"'
      · rw [hquote, List.cons_append, readChars_quote] at h
        cases h
        exact Or.inl ⟨Nat.zero_le _, fun hnot => absurd plain_nil hnot⟩
      · rw [List.cons_append, readChars_cons_iff hquote] at h
        obtain ⟨c, t, v', hc, hv', rfl⟩ := h
        simp only [List.length_cons]
        cases a with
        | none => cases hc
        | some a =>
          rw [readChar] at hc
          split_ifs at hc with hbackslash hcontrol
          · rcases readEscape_of_quote hc with rfl | ⟨s', hs', rfl⟩
            · exact Or.inr ⟨n, v', hv'⟩
            · refine (ih hv').imp_left fun hleft => ⟨by omega, fun _ => ⟨by omega, ?_⟩⟩
              rw [hbackslash]
              exact List.mem_cons_self
          · cases hc
            refine (ih hv').imp_left fun hleft => ⟨by omega, fun hnot => ?_⟩
            have hplain : isPlain c = true := isPlain_iff.mpr
              ⟨fun heq => hquote (by rw [heq]), hbackslash, by omega⟩
            obtain ⟨hlt, hmem⟩ := hleft.2 fun h => hnot (plain_cons.mpr ⟨hplain, h⟩)
            exact ⟨by omega, List.mem_cons_of_mem _ hmem⟩

/-! ### Pieces -/

/-- Strings, each with the fixed text behind it. -/
abbrev Pieces := List (Text × Text)

def join (pieces : Pieces) : Text := pieces.flatMap fun p => p.1 ++ p.2

/-- What is read from a place inside the fixed text is plain. -/
def Harmless (w more : Text) : Prop :=
  ∀ w', w' <:+ w → w' ≠ [] → ∀ n v rest, readChars n (w' ++ more) = some (v, rest) →
    Plain (v.map some)

/-- What is read from here is not the value of a member. -/
def Sealed (t : Text) : Prop := ∀ n v rest, readChars n t = some (v, rest) → ¬Follows rest

/-- Every fixed text starts with the quote of the string in front of it. -/
inductive Separated : Pieces → Prop
  | nil : Separated []
  | cons {s gap : Text} {pieces : Pieces} (hharmless : Harmless (some '"' :: gap) (join pieces))
      (hsealed : Sealed (gap ++ join pieces)) (hrest : Separated pieces) :
      Separated ((s, some '"' :: gap) :: pieces)

variable {pieces : Pieces}

lemma suffix_append_cases (h : t <:+ u ++ w) :
    t <:+ w ∨ ∃ u', u' <:+ u ∧ u' ≠ [] ∧ t = u' ++ w := by
  rcases List.suffix_or_suffix_of_suffix h (List.suffix_append u w) with h' | ⟨u', rfl⟩
  · exact Or.inl h'
  · by_cases hnil : u' = []
    · rw [hnil, List.nil_append]
      exact Or.inl List.suffix_rfl
    · exact Or.inr ⟨u', List.suffix_append_self_iff.mp h, hnil, rfl⟩

/-- A value that is not plain is shorter than a string that is not plain. -/
lemma Separated.lt_of_read (hsep : Separated pieces) (ht : t <:+ join pieces)
    (hread : readChars n t = some (v, rest)) (hfollows : Follows rest)
    (hv : ¬Plain (v.map some)) : ∃ p ∈ pieces, v.length < p.1.length ∧ ¬Plain p.1 := by
  induction hsep with
  | nil =>
    obtain rfl := List.suffix_nil.mp ht
    cases n <;> cases hread
  | @cons s gap pieces hharmless hsealed _ ih =>
    rw [join, List.flatMap_cons, List.append_assoc] at ht
    rcases suffix_append_cases ht with ht | ⟨s', hs', -, rfl⟩
    · rcases suffix_append_cases ht with ht | ⟨w', hw', hne, rfl⟩
      · obtain ⟨p, hp, hlt⟩ := ih ht
        exact ⟨p, List.mem_cons_of_mem _ hp, hlt⟩
      · exact absurd (hharmless w' hw' hne n v rest hread) hv
    · rcases readChars_before_quote hread with ⟨-, hlt⟩ | ⟨m, v', hread'⟩
      · obtain ⟨hlt, hmem⟩ := hlt hv
        exact ⟨_, List.mem_cons_self, Nat.lt_of_lt_of_le hlt hs'.length_le,
          not_plain_of_backslash (hs'.subset hmem)⟩
      · exact absurd hfollows (hsealed m v' rest hread')

/-- A value of the text that is not plain is shorter than a string that is not plain. -/
lemma Separated.lt_of_origin (hsep : Separated pieces) (hharmless : Harmless front (join pieces))
    (horigin : Origin (front ++ join pieces) s) (hs : ¬Plain s) :
    ∃ p ∈ pieces, s.length < p.1.length ∧ ¬Plain p.1 := by
  obtain ⟨t, rest, ht, hread, hfollows⟩ := horigin
  obtain ⟨⟨v, rest'⟩, hchars, hv⟩ := Option.map_eq_some_iff.mp hread
  cases hv
  rw [List.length_map]
  rcases suffix_append_cases ht with ht | ⟨w, hw, hne, rfl⟩
  · exact hsep.lt_of_read ht hchars hfollows hs
  · exact absurd (hharmless w hw hne _ _ _ hchars) hs

/-- Strings that are all values of the text are plain: a longest one that is not would be shorter
than another one. -/
lemma Separated.plain_of_origin (hsep : Separated pieces) (hharmless : Harmless front (join pieces))
    (horigin : ∀ p ∈ pieces, Origin (front ++ join pieces) p.1) : ∀ p ∈ pieces, Plain p.1 := by
  let bad := pieces.filter fun p => ¬Plain p.1
  have hmem {p : Text × Text} : p ∈ bad ↔ p ∈ pieces ∧ ¬Plain p.1 := by simp [bad]
  cases hlongest : bad.argmax fun p => p.1.length with
  | none =>
    have hnone : bad = [] := List.argmax_eq_none.mp hlongest
    intro p hp
    by_contra hnot
    have hbad := hmem.mpr ⟨hp, hnot⟩
    rw [hnone] at hbad
    cases hbad
  | some longest =>
    obtain ⟨hin, hnot⟩ := hmem.mp (List.argmax_mem hlongest)
    obtain ⟨p, hp, hlt, hplain⟩ := hsep.lt_of_origin hharmless (horigin longest hin) hnot
    have hle := List.le_of_mem_argmax (hmem.mpr ⟨hp, hplain⟩) hlongest
    exact absurd hle (Nat.not_le_of_lt hlt)

/-! ### Fixed texts -/

lemma not_read_brace (n : ℕ) (v : List Char) (rest : Text) :
    readChars n [some '}'] ≠ some (v, rest) := by
  intro h
  cases n with
  | zero => cases h
  | succ n =>
    obtain ⟨c, t, v', hc, hv', -⟩ := (readChars_cons_iff (by decide)).mp h
    cases hc
    cases n <;> cases hv'

lemma sealed_brace : Sealed [some '}'] := fun n v rest h => absurd h (not_read_brace n v rest)

/-- A fixed text without a backslash that ends with a quote. -/
lemma harmless_of_quote (hbackslash : some '\\' ∉ w) (hend : w.getLast? = some (some '"')) :
    Harmless w more := by
  intro w' hw' hne n v rest hread
  have hquote : some '"' ∈ w' := by
    obtain ⟨u, rfl⟩ := hw'
    rw [List.getLast?_append_of_ne_nil _ hne] at hend
    exact List.mem_of_getLast? hend
  obtain ⟨u, r, rfl, hfirst⟩ := List.eq_append_cons_of_mem hquote
  rw [List.append_assoc, List.cons_append] at hread
  exact (readChars_of_quote hfirst
    (fun hmem => hbackslash (hw'.subset (List.mem_append_left _ hmem))) hread).1

/-- The first quote of the fixed text, without a backslash in front, is followed by a character that
does not follow a member. -/
lemma sealed_of_quote {a : Option Char} (hquote : some '"' ∉ u) (hbackslash : some '\\' ∉ u)
    (ha : isBlank a = false) (hne : a ≠ some ',' ∧ a ≠ some '}') :
    Sealed (u ++ some '"' :: a :: more) := by
  intro n v rest hread
  obtain rfl := (readChars_of_quote hquote hbackslash hread).2
  have hskip : skip (a :: more) = a :: more := by rw [skip, List.dropWhile_cons, ha]; rfl
  simp [Follows, expect, hskip, hne.1, hne.2]

/-- A fixed text that goes from the end of a string to the start of another one, with the name of a
member in between. -/
structure IsGap (gap : Text) : Prop where
  backslash : some '\\' ∉ gap
  last : gap.getLast? = some (some '"')
  name : ∃ u a rest, gap = u ++ some '"' :: a :: rest ∧ some '"' ∉ u ∧ isBlank a = false ∧
    a ≠ some ',' ∧ a ≠ some '}'

lemma Separated.gap {gap : Text} (hgap : IsGap gap) (s : Text) (h : Separated pieces) :
    Separated ((s, some '"' :: gap) :: pieces) := by
  obtain ⟨u, a, rest, hsplit, hquote, ha, hne⟩ := hgap.name
  have hu : some '\\' ∉ u := fun hmem =>
    hgap.backslash (hsplit ▸ List.mem_append_left _ hmem)
  refine .cons (harmless_of_quote ?_ ?_) ?_ h
  · simpa using hgap.backslash
  · rw [List.getLast?_cons, hgap.last]
    rfl
  · rw [hsplit, List.append_assoc]
    exact sealed_of_quote hquote hu ha hne

/-- The text ends behind the last member. -/
lemma harmless_brace : Harmless [some '"', some '}'] [] := by
  intro w' hw' hne n v rest hread
  rw [List.append_nil] at hread
  rcases List.suffix_cons_iff.mp hw' with rfl | hw'
  · exact (readChars_of_quote (u := []) (by simp) (by simp) hread).1
  · rcases List.suffix_cons_iff.mp hw' with rfl | hw'
    · exact absurd hread (not_read_brace n v rest)
    · exact absurd (List.suffix_nil.mp hw') hne

lemma separated_last (s : Text) : Separated [(s, [some '"', some '}'])] :=
  .cons harmless_brace sealed_brace .nil

end Core.JsonText
