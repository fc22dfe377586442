import SipForward.Core.JsonPrint

/-!
# Reading JSON with U+FFFD

`encoding/json` refuses no string for its characters: a malformed byte and a lone surrogate read as
U+FFFD. Its texts are the texts of the strict reader with both replaced before they are read.
-/

namespace Core.GoJson

open JsonText

/-! ### Replacement -/

/-- An escape with a number, from behind its `u`, and what follows it; a lone surrogate is
replaced. `none` where there are no four digits, which every reader refuses. -/
def repairUnicode (t : Text) : Option (Text × Text) :=
  match readUnicode t, readHex t with
  | some (_, rest), _    => some (some '\\' :: some 'u' :: t.take (t.length - rest.length), rest)
  | none, some (_, rest) => some ([some '\ufffd'], rest)
  | none, none           => none

/-- The text with U+FFFD for what is malformed, up to as many characters. What follows a backslash
and is no character stays, and is refused. -/
def repairChars : ℕ → Text → Text
  | 0, t          => t
  | _ + 1, []     => []
  | n + 1, c :: t =>
    if c = some '\\' then
      if t.head? = some (some 'u') then
        match repairUnicode t.tail with
        | some (escape, rest) => escape ++ repairChars n rest
        | none                => c :: t
      else c :: (t.take 1 ++ repairChars n t.tail)
    else some (c.getD '\ufffd') :: repairChars n t

def repair (t : Text) : Text := repairChars t.length t

/-- What `json.Unmarshal` reads; it refuses a text that goes on behind the value. -/
def parse (t : Text) : Option Json := JsonText.parse (repair t)

/-- What `json.Decoder` reads first. -/
def decodeFirst (t : Text) : Option Json :=
  (readValue ((repair t).length + 1) (repair t)).map (·.1)

/-! ### Texts that stay -/

variable {s t rest : Text} {c : Char} {w : Encoder} {v : Json}

/-- Nothing is replaced in `s`, whatever follows it. -/
def Kept (s : Text) : Prop :=
  ∀ n rest, (s ++ rest).length ≤ n →
    ∃ m, rest.length ≤ m ∧ repairChars n (s ++ rest) = s ++ repairChars m rest

lemma kept_nil : Kept [] := fun n _ h => ⟨n, h, rfl⟩

lemma Kept.append (hs : Kept s) (ht : Kept t) : Kept (s ++ t) := by
  intro n rest h
  rw [List.append_assoc] at h ⊢
  obtain ⟨m, hm, heq⟩ := hs n (t ++ rest) h
  obtain ⟨k, hk, heq'⟩ := ht m rest hm
  exact ⟨k, hk, by rw [heq, heq', List.append_assoc]⟩

lemma kept_plain (h : c ≠ '\\') : Kept [some c] := by
  intro n rest hn
  obtain ⟨n, rfl⟩ : ∃ m, n = m + 1 := ⟨n - 1, by simp at hn; omega⟩
  refine ⟨n, by simp at hn; omega, ?_⟩
  simp [repairChars, h]

lemma Kept.cons (h : c ≠ '\\') (ht : Kept t) : Kept (some c :: t) := (kept_plain h).append ht

lemma kept_shortEscape {letter : Char} (h : letter ≠ 'u') :
    Kept [some '\\', some letter] := by
  intro n rest hn
  obtain ⟨n, rfl⟩ : ∃ m, n = m + 1 := ⟨n - 1, by simp at hn; omega⟩
  refine ⟨n, by simp at hn; omega, ?_⟩
  simp [repairChars, h]

lemma kept_unicodeEscape (c : Char) : Kept ((unicodeEscape c).map some) := by
  intro n rest hn
  obtain ⟨n, rfl⟩ : ∃ m, n = m + 1 := ⟨n - 1, by
    rw [unicodeEscape_eq] at hn
    simp at hn
    omega⟩
  refine ⟨n, by
    rw [unicodeEscape_eq] at hn
    simp at hn
    omega, ?_⟩
  have hread := readUnicode_unicodeEscape c rest
  rw [unicodeEscape_eq]
  have hlength : (((unicodeEscape c).drop 2).map some ++ rest).length - rest.length =
      (((unicodeEscape c).drop 2).map some).length := by
    rw [List.length_append]
    omega
  simp only [List.map_cons, List.cons_append, repairChars, if_true, List.head?_cons,
    List.tail_cons, repairUnicode, hread, hlength, List.take_left']

lemma kept_char (w : Encoder) (c : Char) : Kept ((w.char c).map some) := by
  cases hshort : shortEscape c with
  | some letter =>
    simp only [Encoder.char, hshort]
    exact kept_shortEscape (escaped_shortEscape hshort).2
  | none =>
    simp only [Encoder.char, hshort]
    split_ifs
    · exact kept_unicodeEscape c
    · refine kept_plain ?_
      rintro rfl
      cases shortEscape_backslash.symm.trans hshort

lemma kept_map {l : List Char} (h : ∀ c ∈ l, c ≠ '\\') : Kept (l.map some) := by
  induction l with
  | nil => exact kept_nil
  | cons c l ih =>
    exact Kept.cons (h c List.mem_cons_self) (ih fun d hd => h d (List.mem_cons_of_mem c hd))

/-! ### What an encoder writes stays -/

lemma kept_string (w : Encoder) (h : s.wellFormed = true) : Kept (w.string s) := by
  obtain ⟨l, rfl⟩ := exists_map_some h
  have hchars : Kept (w.chars (l.map some)) := by
    clear h
    induction l with
    | nil => exact kept_nil
    | cons c l ih => exact (kept_char w c).append ih
  exact Kept.cons (by decide) (hchars.append (kept_plain (by decide)))

lemma kept_integer (v : Int) : Kept (Encoder.number (.integer v)) := by
  have hdigits : Kept ((Nat.toDigits 10 v.natAbs).map some) := by
    refine kept_map fun c hc => ?_
    have hdigit := Nat.isDigit_of_mem_toDigits (by decide) (by decide) hc
    rintro rfl
    cases hdigit
  rw [Encoder.number, numberText, if_pos rfl, List.append_nil]
  by_cases hneg : v < 0
  · rw [if_pos (by simpa using hneg)]
    exact Kept.cons (by decide) hdigits
  · rw [if_neg (by simpa using hneg)]
    exact hdigits

mutual

lemma kept_value (w : Encoder) : ∀ v : Json, v.writable = true → Kept (w.value v)
  | .null, _ => kept_map (by simp)
  | .bool true, _ => kept_map (by simp)
  | .bool false, _ => kept_map (by simp)
  | .number (.integer v), _ => kept_integer v
  | .string _, h => kept_string w h
  | .array values, h =>
    Kept.cons (by decide) ((kept_elements w values h).append (kept_plain (by decide)))
  | .object members, h =>
    Kept.cons (by decide) ((kept_members w members h).append (kept_plain (by decide)))

lemma kept_elements (w : Encoder) : ∀ values : List Json,
    Json.writableElements values = true → Kept (w.elements values)
  | [], _ => kept_nil
  | v :: rest, h => by
    obtain ⟨hv, hrest⟩ := Bool.and_eq_true _ _ ▸ h
    rw [Encoder.elements]
    refine (kept_value w v hv).append ?_
    split_ifs
    · exact kept_nil
    · exact Kept.cons (by decide) (kept_elements w rest hrest)

lemma kept_members (w : Encoder) : ∀ members : List Member,
    Json.writableMembers members = true → Kept (w.members members)
  | [], _ => kept_nil
  | (k, v) :: rest, h => by
    obtain ⟨hkv, hrest⟩ := Bool.and_eq_true _ _ ▸ h
    obtain ⟨hk, hv⟩ := Bool.and_eq_true _ _ ▸ hkv
    rw [Encoder.members]
    refine (kept_string w hk).append (Kept.cons (by decide) ((kept_value w v hv).append ?_))
    split_ifs
    · exact kept_nil
    · exact Kept.cons (by decide) (kept_members w rest hrest)

end

lemma repair_value (w : Encoder) (h : v.writable = true) : repair (w.value v) = w.value v := by
  obtain ⟨m, -, heq⟩ := kept_value w v h (w.value v).length [] (by rw [List.append_nil])
  rw [List.append_nil] at heq
  rw [repair, heq]
  cases m <;> exact List.append_nil _

/-- What any encoder writes is read as it was. -/
theorem parse_value (w : Encoder) (h : v.writable = true) : parse (w.value v) = some v := by
  rw [parse, repair_value w h, JsonText.parse_value w h]

theorem decodeFirst_value (w : Encoder) (h : v.writable = true) :
    decodeFirst (w.value v) = some v := by
  have hread := readValue_value w v h ((w.value v).length + 1) [] (by omega) stops_nil
  rw [List.append_nil] at hread
  rw [decodeFirst, repair_value w h, hread]
  rfl

end Core.GoJson
