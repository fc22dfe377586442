import Mathlib.Data.List.Basic
import Mathlib.Data.List.Count
import Mathlib.Data.List.TakeWhile
import Mathlib.Tactic.Lemma

/-!
# Texts with quoted literals

A text is code with literals between single quotes. Inside a literal two quotes stand for one, and a
backslash gives the character after it another meaning, as in SQL. When a text is put together from
pieces, the literals in it are read back as they were meant if and only if each of them is plain.
A character stands for a byte.
-/

namespace Core.Quoting

/-! ### Reading a text -/

inductive Token where
  | char (c : Char)
  | literal (value : List Char)
deriving DecidableEq

/-- What a backslash makes of the character after it. It stays where a pattern would need it. -/
def escaped (c : Char) : List Char :=
  if c = '0' then ['\x00']
  else if c = 'b' then ['\x08']
  else if c = 'n' then ['\n']
  else if c = 'r' then ['\r']
  else if c = 't' then ['\t']
  else if c = 'Z' then ['\x1a']
  else if c = '%' ∨ c = '_' then ['\\', c]
  else [c]

/-- Where a reader stands: outside of literals, in one, after a backslash in one, or after a quote
that ends one unless it is doubled. -/
inductive Mode where
  | code
  | literal (value : List Char)
  | escape (value : List Char)
  | quote (value : List Char)

def Mode.next : Mode → Char → List Token × Mode
  | .code, c          => if c = '\'' then ([], .literal []) else ([.char c], .code)
  | .literal value, c =>
    if c = '\'' then ([], .quote value)
    else if c = '\\' then ([], .escape value)
    else ([], .literal (value ++ [c]))
  | .escape value, c  => ([], .literal (value ++ escaped c))
  | .quote value, c   =>
    if c = '\'' then ([], .literal (value ++ [c])) else ([.literal value, .char c], .code)

/-- The tokens of a text; `none` when a literal does not end. -/
def read : Mode → List Char → Option (List Token)
  | .code, []        => some []
  | .quote value, [] => some [.literal value]
  | _, []            => none
  | mode, c :: cs    => (read (mode.next c).2 cs).map ((mode.next c).1 ++ ·)

/-- A text that is passed on as a C string ends before its first zero. -/
def cString (text : List Char) : List Char := text.takeWhile (· ≠ '\x00')

/-! ### Putting a text together -/

inductive Piece where
  | code (text : List Char)
  | literal (content : List Char)

def Piece.text : Piece → List Char
  | .code text       => text
  | .literal content => '\'' :: content ++ ['\'']

/-- What a piece is meant to be. -/
def Piece.tokens : Piece → List Token
  | .code text       => text.map .char
  | .literal content => [.literal content]

/-- Neither a quote nor a backslash. -/
def Ordinary (c : Char) : Prop := c ≠ '\'' ∧ c ≠ '\\'

instance (c : Char) : Decidable (Ordinary c) := inferInstanceAs (Decidable (_ ∧ _))

/-- A text that begins with an ordinary character, if it is not empty. -/
def Follows (text : List Char) : Prop := ∀ c ∈ text.head?, Ordinary c

/-- No piece of code has a quote or a zero, and what follows a literal is ordinary. -/
def Separated : List Piece → Prop
  | []                       => True
  | .code text :: pieces     => (∀ c ∈ text, c ≠ '\'' ∧ c ≠ '\x00') ∧ Separated pieces
  | .literal _ :: pieces     => Follows (pieces.flatMap Piece.text) ∧ Separated pieces

/-- Every character stands for itself: there is no quote and no zero, and every backslash is before
a percent sign or an underscore. -/
def Plain : List Char → Prop
  | '\\' :: c :: cs => (c = '%' ∨ c = '_') ∧ Plain cs
  | c :: cs         => c ≠ '\\' ∧ c ≠ '\'' ∧ c ≠ '\x00' ∧ Plain cs
  | []              => True

variable {s v t w : List Char} {c : Char} {toks : List Token} {pieces : List Piece}

lemma plain_cons (hc : c ≠ '\\') :
    Plain (c :: s) ↔ c ≠ '\'' ∧ c ≠ '\x00' ∧ Plain s := by
  rw [Plain]
  · simp [hc]
  · intro c' cs h
    cases h
    exact absurd rfl hc

lemma plain_of_ordinary (h : ∀ c ∈ s, Ordinary c ∧ c ≠ '\x00') : Plain s := by
  induction s with
  | nil => trivial
  | cons c s ih =>
    have hc := h c List.mem_cons_self
    exact (plain_cons hc.1.2).mpr
      ⟨hc.1.1, hc.2, ih fun d hd => h d (List.mem_cons_of_mem c hd)⟩

/-- What stands for itself still does so before something else. -/
lemma Plain.append : ∀ {s : List Char}, Plain s → Plain t → Plain (s ++ t)
  | [], _, ht => ht
  | [c], hs, ht => by
    by_cases hc : c = '\\'
    · subst hc
      simp [Plain] at hs
    · have := (plain_cons hc).mp hs
      exact (plain_cons hc).mpr ⟨this.1, this.2.1, ht⟩
  | c :: d :: s, hs, ht => by
    by_cases hc : c = '\\'
    · subst hc
      obtain ⟨hpattern, hs⟩ : (d = '%' ∨ d = '_') ∧ Plain s := hs
      exact ⟨hpattern, hs.append ht⟩
    · have := (plain_cons hc).mp hs
      exact (plain_cons hc).mpr ⟨this.1, this.2.1, this.2.2.append ht⟩

instance decidablePlain : ∀ s : List Char, Decidable (Plain s)
  | []          => isTrue trivial
  | [c]         =>
    if hc : c = '\\' then isFalse (by subst hc; simp [Plain])
    else decidable_of_iff (c ≠ '\'' ∧ c ≠ '\x00') (by simp [plain_cons hc, Plain])
  | c :: d :: s =>
    have := decidablePlain s
    have := decidablePlain (d :: s)
    if hc : c = '\\' then
      decidable_of_iff ((d = '%' ∨ d = '_') ∧ Plain s) (by subst hc; rfl)
    else decidable_of_iff _ (plain_cons hc).symm

/-! ### What a literal stands for -/

/-- The characters of a literal, and its value. -/
inductive Decodes : List Char → List Char → Prop
  | nil : Decodes [] []
  | pair {s v : List Char} (h : Decodes s v) : Decodes ('\'' :: '\'' :: s) ('\'' :: v)
  | escape {s v : List Char} (c : Char) (h : Decodes s v) :
      Decodes ('\\' :: c :: s) (escaped c ++ v)
  | char {s v : List Char} {c : Char} (hc : Ordinary c) (h : Decodes s v) :
      Decodes (c :: s) (c :: v)

/-- How many characters are ordinary. -/
def ordinaries (s : List Char) : ℕ := s.countP (Ordinary ·)

@[simp] lemma ordinaries_nil : ordinaries [] = 0 := rfl

lemma ordinaries_cons (c : Char) (s : List Char) :
    ordinaries (c :: s) = ordinaries s + if Ordinary c then 1 else 0 := by
  simp only [ordinaries, List.countP_cons, decide_eq_true_eq]

lemma ordinaries_append (s t : List Char) : ordinaries (s ++ t) = ordinaries s + ordinaries t :=
  List.countP_append

lemma ordinaries_escaped (c : Char) : ordinaries (escaped c) = ordinaries [c] := by
  unfold escaped
  split_ifs with h0 hb hn hr ht hz hp
  · subst h0; rfl
  · subst hb; rfl
  · subst hn; rfl
  · subst hr; rfl
  · subst ht; rfl
  · subst hz; rfl
  · rcases hp with rfl | rfl <;> rfl
  · rfl

lemma length_escaped_le (c : Char) : (escaped c).length ≤ 2 := by
  unfold escaped
  split_ifs <;> simp

lemma pattern_of_length_escaped (h : (escaped c).length = 2) : c = '%' ∨ c = '_' := by
  unfold escaped at h
  split_ifs at h with h0 hb hn hr ht hz hp
  · cases h
  · cases h
  · cases h
  · cases h
  · cases h
  · cases h
  · exact hp
  · cases h

/-- Doubling and escaping need quotes and backslashes only. -/
lemma Decodes.ordinaries (h : Decodes s v) : ordinaries s = ordinaries v := by
  have hquote : ¬Ordinary '\'' := by decide
  have hescape : ¬Ordinary '\\' := by decide
  induction h with
  | nil => rfl
  | pair h ih => simp only [ordinaries_cons, if_neg hquote, ih, Nat.add_zero]
  | @escape s v c h ih =>
    have hc := ordinaries_escaped c
    simp only [ordinaries_cons, ordinaries_nil] at hc
    simp only [ordinaries_cons, ordinaries_append, if_neg hescape, ih, hc]
    omega
  | char hc h ih => simp only [ordinaries_cons, ih]

lemma Decodes.length_le (h : Decodes s v) : v.length ≤ s.length := by
  induction h with
  | nil => exact Nat.le_refl _
  | pair h ih =>
    simp only [List.length_cons]
    omega
  | @escape s v c h ih =>
    have := length_escaped_le c
    simp only [List.length_cons, List.length_append]
    omega
  | char hc h ih =>
    simp only [List.length_cons]
    omega

/-- A literal as long as its value. -/
lemma Decodes.plain (h : Decodes s v) (hlen : v.length = s.length) (hzero : '\x00' ∉ s) :
    Plain s := by
  induction h with
  | nil => trivial
  | pair h ih =>
    have := h.length_le
    simp only [List.length_cons] at hlen
    omega
  | @escape s v c h ih =>
    have hle := h.length_le
    have hc := length_escaped_le c
    simp only [List.length_cons, List.length_append] at hlen
    simp only [List.mem_cons, not_or] at hzero
    exact ⟨pattern_of_length_escaped (by omega), ih (by omega) hzero.2.2⟩
  | char hc h ih =>
    simp only [List.length_cons] at hlen
    simp only [List.mem_cons, not_or] at hzero
    exact (plain_cons hc.2).mpr ⟨hc.1, Ne.symm hzero.1, ih (by omega) hzero.2⟩

/-! ### Steps of a reader -/

@[simp] lemma read_literal_quote (v s : List Char) :
    read (.literal v) ('\'' :: s) = read (.quote v) s := by
  simp [read, Mode.next]

@[simp] lemma read_literal_escape (v s : List Char) (c : Char) :
    read (.literal v) ('\\' :: c :: s) = read (.literal (v ++ escaped c)) s := by
  simp [read, Mode.next]

lemma read_literal_ordinary (hc : Ordinary c) (v s : List Char) :
    read (.literal v) (c :: s) = read (.literal (v ++ [c])) s := by
  simp [read, Mode.next, hc.1, hc.2]

@[simp] lemma read_quote_quote (v s : List Char) :
    read (.quote v) ('\'' :: s) = read (.literal (v ++ ['\''])) s := by
  simp [read, Mode.next]

lemma read_quote (hs : s.head? ≠ some '\'') (v : List Char) :
    read (.quote v) s = (read .code s).map (.literal v :: ·) := by
  cases s with
  | nil => rfl
  | cons c s =>
    have hc : c ≠ '\'' := by simpa using hs
    simp [read, Mode.next, hc, Function.comp_def]

lemma read_code (ht : ∀ c ∈ t, c ≠ '\'') (s : List Char) :
    read .code (t ++ s) = (read .code s).map (t.map Token.char ++ ·) := by
  induction t with
  | nil => simp
  | cons c t ih =>
    have hc := ht c List.mem_cons_self
    have := ih fun d hd => ht d (List.mem_cons_of_mem c hd)
    simp [read, Mode.next, hc, this, Function.comp_def]

/-- What a reader in a literal has read when it comes to its end. -/
lemma read_literal : ∀ (t v : List Char) {toks : List Token},
    read (.literal v) t = some toks → ∃ s w rest toks', t = s ++ '\'' :: rest ∧ Decodes s w ∧
      rest.head? ≠ some '\'' ∧ read .code rest = some toks' ∧ toks = .literal (v ++ w) :: toks'
  | [], v, toks, h => by cases h
  | c :: t, v, toks, h => by
    by_cases hquote : c = '\''
    · subst hquote
      rw [read_literal_quote] at h
      by_cases hpair : t.head? = some '\''
      · obtain ⟨t, rfl⟩ := List.head?_eq_some_iff.mp hpair
        rw [read_quote_quote] at h
        obtain ⟨s, w, rest, toks', rfl, hdec, hrest, hread, rfl⟩ := read_literal t _ h
        exact ⟨_, _, rest, toks', rfl, .pair hdec, hrest, hread, by simp⟩
      · rw [read_quote hpair, Option.map_eq_some_iff] at h
        obtain ⟨toks', hread, rfl⟩ := h
        exact ⟨[], [], t, toks', rfl, .nil, hpair, hread, by simp⟩
    · by_cases hescape : c = '\\'
      · subst hescape
        cases t with
        | nil => cases h
        | cons d t =>
          rw [read_literal_escape] at h
          obtain ⟨s, w, rest, toks', rfl, hdec, hrest, hread, rfl⟩ := read_literal t _ h
          exact ⟨_, _, rest, toks', rfl, .escape d hdec, hrest, hread, by simp⟩
      · rw [read_literal_ordinary ⟨hquote, hescape⟩] at h
        obtain ⟨s, w, rest, toks', rfl, hdec, hrest, hread, rfl⟩ := read_literal t _ h
        exact ⟨_, _, rest, toks', rfl, .char ⟨hquote, hescape⟩ hdec, hrest, hread, by simp⟩

/-! ### Reading pieces -/

/-- A plain literal is read as it is. -/
lemma read_plain : ∀ (w v s : List Char), Plain w →
    read (.literal v) (w ++ '\'' :: s) = read (.quote (v ++ w)) s
  | [], v, s, h => by simp
  | [c], v, s, h => by
    by_cases hescape : c = '\\'
    · subst hescape
      simp [Plain] at h
    · have hc := (plain_cons hescape).mp h
      rw [List.cons_append, read_literal_ordinary ⟨hc.1, hescape⟩]
      simp
  | c :: d :: w, v, s, h => by
    by_cases hescape : c = '\\'
    · subst hescape
      obtain ⟨hpattern, hw⟩ : (d = '%' ∨ d = '_') ∧ Plain w := h
      have hd : escaped d = ['\\', d] := by
        rcases hpattern with rfl | rfl <;> rfl
      rw [List.cons_append, List.cons_append, read_literal_escape, hd, read_plain w _ s hw]
      simp
    · have hc := (plain_cons hescape).mp h
      rw [List.cons_append, read_literal_ordinary ⟨hc.1, hescape⟩,
        read_plain (d :: w) _ s hc.2.2]
      simp

lemma Plain.ne_zero : ∀ {w : List Char}, Plain w → ∀ c ∈ w, c ≠ '\x00'
  | [], _, c, hc => by cases hc
  | [d], h, c, hc => by
    obtain rfl := List.mem_singleton.mp hc
    by_cases hescape : c = '\\'
    · subst hescape
      decide
    · exact ((plain_cons hescape).mp h).2.1
  | d :: e :: w, h, c, hc => by
    by_cases hescape : d = '\\'
    · subst hescape
      obtain ⟨hpattern, hw⟩ : (e = '%' ∨ e = '_') ∧ Plain w := h
      rcases List.mem_cons.mp hc with rfl | hc
      · decide
      rcases List.mem_cons.mp hc with rfl | hc
      · rcases hpattern with rfl | rfl <;> decide
      · exact hw.ne_zero c hc
    · have hd := (plain_cons hescape).mp h
      rcases List.mem_cons.mp hc with rfl | hc
      · exact hd.2.1
      · exact hd.2.2.ne_zero c hc

lemma cString_append (ht : ∀ c ∈ t, c ≠ '\x00') (s : List Char) :
    cString (t ++ s) = t ++ cString s := by
  simp only [cString]
  rw [List.takeWhile_append_of_pos]
  simpa using ht

/-- A text is cut within a piece that has a zero. -/
lemma length_cString_lt (ht : '\x00' ∈ t) (s : List Char) :
    (cString (t ++ s)).length < t.length := by
  have hcut : (t.takeWhile (· ≠ '\x00')).length < t.length := by
    refine lt_of_le_of_ne (List.takeWhile_prefix _).length_le fun hlen => ?_
    have hall := List.takeWhile_eq_self_iff.mp
      ((List.takeWhile_prefix fun c : Char => decide (c ≠ '\x00')).eq_of_length hlen)
    simpa using hall _ ht
  simp only [cString]
  rw [List.takeWhile_append, if_neg (Nat.ne_of_lt hcut)]
  exact hcut

lemma follows_cString (h : Follows s) : Follows (cString s) := by
  cases s with
  | nil => exact h
  | cons c s =>
    intro d hd
    simp only [cString, List.takeWhile_cons] at hd
    split_ifs at hd
    · exact h d (by simpa using hd)
    · simp at hd

/-- A literal that is read as it was meant is plain, and was read up to its end. -/
lemma plain_of_read (hs : Follows s)
    (h : read (.literal []) (cString (w ++ '\'' :: s)) = some (.literal w :: toks)) :
    Plain w ∧ read .code (cString s) = some toks := by
  obtain ⟨t, v, rest, toks', htext, hdec, hrest, hread, htoks⟩ := read_literal _ _ h
  simp only [List.nil_append, List.cons.injEq, Token.literal.injEq] at htoks
  obtain ⟨rfl, rfl⟩ := htoks
  have hle := hdec.length_le
  by_cases hzero : '\x00' ∈ w
  · -- the text ends before the literal has as many characters as its value
    have hlt := length_cString_lt hzero ('\'' :: s)
    rw [htext, List.length_append] at hlt
    omega
  · have hne : ∀ c ∈ w, c ≠ '\x00' := fun c hc hc' => hzero (hc' ▸ hc)
    have hclose : cString ('\'' :: s) = '\'' :: cString s :=
      cString_append (t := ['\'']) (by simp) s
    rw [cString_append hne, hclose] at htext
    obtain ⟨u, rfl, hu⟩ : ∃ u, t = w ++ u ∧ '\'' :: cString s = u ++ '\'' :: rest := by
      rcases List.append_eq_append_iff.mp htext with ⟨u, hu, hrest⟩ | ⟨u, hu, hrest⟩
      · exact ⟨u, hu, hrest⟩
      · have hlen := congrArg List.length hu
        rw [List.length_append] at hlen
        obtain rfl : u = [] := List.length_eq_zero_iff.mp (by omega)
        exact ⟨[], by simpa using hu.symm, by simpa using hrest.symm⟩
    cases u with
    | nil =>
      obtain rfl : cString s = rest := by simpa using hu
      rw [List.append_nil] at hdec
      exact ⟨hdec.plain rfl hzero, hread⟩
    | cons d u =>
      -- the closing quote was read as a part of the literal, and so was what follows it
      exfalso
      have hord := hdec.ordinaries
      simp only [ordinaries_append, ordinaries_cons] at hord
      simp only [List.cons_append, List.cons.injEq] at hu
      obtain ⟨rfl, hu⟩ := hu
      have hfollows := follows_cString hs
      rw [hu] at hfollows
      cases u with
      | nil => exact (hfollows '\'' (by simp)).1 rfl
      | cons e u =>
        have he : Ordinary e := hfollows e (by simp)
        rw [ordinaries_cons, if_pos he] at hord
        omega

/-- A text put together from pieces is read as it was meant if and only if its literals are
plain. -/
theorem read_pieces_iff (h : Separated pieces) :
    read .code (cString (pieces.flatMap Piece.text)) = some (pieces.flatMap Piece.tokens) ↔
      ∀ w, .literal w ∈ pieces → Plain w := by
  induction pieces with
  | nil => simp [cString, read]
  | cons piece pieces ih =>
    cases piece with
    | code text =>
      obtain ⟨htext, hsep⟩ := h
      have hquote : ∀ c ∈ text, c ≠ '\'' := fun c hc => (htext c hc).1
      simp only [List.flatMap_cons, Piece.text, Piece.tokens]
      rw [cString_append fun c hc => (htext c hc).2, read_code hquote]
      simp [ih hsep]
    | literal w =>
      obtain ⟨hfollows, hsep⟩ := h
      simp only [List.flatMap_cons, Piece.text, Piece.tokens, List.append_assoc, List.cons_append,
        List.nil_append]
      have hopen : ∀ s, cString ('\'' :: s) = '\'' :: cString s := fun s =>
        cString_append (t := ['\'']) (by simp) s
      have hread : ∀ s, read .code ('\'' :: s) = read (.literal []) s := fun s => by
        simp [read, Mode.next]
      rw [hopen, hread]
      constructor
      · intro hr v hv
        obtain ⟨hw, hrest⟩ := plain_of_read hfollows hr
        rcases List.mem_cons.mp hv with hv | hv
        · cases hv
          exact hw
        · exact (ih hsep).mp hrest v hv
      · intro hplain
        have hw := hplain w List.mem_cons_self
        have hrest := (ih hsep).mpr fun v hv => hplain v (List.mem_cons_of_mem _ hv)
        rw [cString_append hw.ne_zero, hopen, read_plain w [] _ hw, read_quote, hrest]
        · rfl
        · intro hhead
          exact (follows_cString hfollows _ hhead).1 rfl

end Core.Quoting
