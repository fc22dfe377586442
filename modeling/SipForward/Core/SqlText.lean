import SipForward.Core.Quoting
import SipForward.Core.Sql

/-!
# The texts of statements

How a service puts the text of a statement together from code and literals, and what a server reads
in it.
-/

namespace Core.Sql

open Quoting

variable {T : Type*} {S : Schema T} {t : T} {stmt : Statement T}

/-! ### Putting a statement together -/

def Value.pieces : Value → List Piece
  | .null  => [.code "NULL".toList]
  | .str s => [.literal s.toList]
  | .num n => [.code (toString n).toList]

def commaSeparated (items : List (List Piece)) : List Piece :=
  List.intercalate [.code ", ".toList] items

variable (S) in
def insertPieces (t : T) (values : List (String × Value)) : List Piece :=
  .code ("INSERT INTO ".toList ++ (S.name t).toList ++ " (".toList ++
      List.intercalate ", ".toList (values.map (·.1.toList)) ++ ") VALUES (".toList) ::
    commaSeparated (values.map (·.2.pieces)) ++ [.code ")".toList]

variable (S) in
/-- How a statement is put together from code and literals. -/
def Statement.pieces : Statement T → List Piece
  | .insert t values   => insertPieces S t values
  | .upsert t values c => insertPieces S t values ++
      [.code (" ON DUPLICATE KEY UPDATE ".toList ++ c.toList ++ " = VALUES(".toList ++ c.toList ++
        ")".toList)]
  | .delete t c value  =>
      [.code ("DELETE FROM ".toList ++ (S.name t).toList ++ " WHERE ".toList ++ c.toList ++
        " = ".toList), .literal value.toList]

variable (S) in
def Statement.text (stmt : Statement T) : List Char := (stmt.pieces S).flatMap Piece.text

variable (S) in
/-- The statement that is meant: its words, and its literals with their values. -/
def Statement.tokens (stmt : Statement T) : List Token := (stmt.pieces S).flatMap Piece.tokens

def Value.literals : Value → List String
  | .str s => [s]
  | _      => []

/-- The values of the literals. -/
def Statement.literals : Statement T → List String
  | .insert _ values   => values.flatMap (·.2.literals)
  | .upsert _ values _ => values.flatMap (·.2.literals)
  | .delete _ _ value  => [value]

/-- A word without quotes and zeros. -/
def Clean (word : List Char) : Prop := ∀ c ∈ word, c ≠ '\'' ∧ c ≠ '\x00'

instance (word : List Char) : Decidable (Clean word) :=
  List.decidableBAll (fun c => c ≠ '\'' ∧ c ≠ '\x00') word

variable (S) in
/-- The names in a statement are clean. -/
def Statement.Clean : Statement T → Prop
  | .insert t values   => Sql.Clean (S.name t).toList ∧ ∀ v ∈ values, Sql.Clean v.1.toList
  | .upsert t values c => (Sql.Clean (S.name t).toList ∧ ∀ v ∈ values, Sql.Clean v.1.toList) ∧
      Sql.Clean c.toList
  | .delete t c _      => Sql.Clean (S.name t).toList ∧ Sql.Clean c.toList

variable {u v : List Char} {pieces : List Piece} {values : List (String × Value)}

lemma Clean.append (hu : Clean u) (hv : Clean v) : Clean (u ++ v) := by
  intro c hc
  rcases List.mem_append.mp hc with hc | hc
  · exact hu c hc
  · exact hv c hc

lemma clean_intercalate (hu : Clean u) :
    ∀ {words : List (List Char)}, (∀ w ∈ words, Clean w) → Clean (List.intercalate u words)
  | [], _ => by
    intro c hc
    cases hc
  | [w], h => by
    rw [List.intercalate_singleton]
    exact h w List.mem_cons_self
  | w :: w' :: words, h => by
    rw [List.intercalate_cons_cons]
    refine ((h w List.mem_cons_self).append hu).append ?_
    exact clean_intercalate hu fun w hw => h w (List.mem_cons_of_mem _ hw)

/-- The characters of a number are digits, but for its sign. -/
lemma mem_toString {n : Int} {c : Char} (h : c ∈ (toString n).toList) :
    c.isDigit = true ∨ c = '-' := by
  have hdigits : ∀ (m : ℕ) (c : Char), c ∈ m.repr.toList → c.isDigit = true := by
    intro m c hc
    rw [Nat.repr, String.toList_ofList] at hc
    exact Nat.isDigit_of_mem_toDigits (by decide) (by decide) hc
  cases n with
  | ofNat m => exact Or.inl (hdigits m c h)
  | negSucc m =>
    have hc : c ∈ ("-" ++ (m + 1).repr).toList := h
    rw [String.toList_append, List.mem_append] at hc
    rcases hc with hc | hc
    · exact Or.inr (List.mem_singleton.mp hc)
    · exact Or.inl (hdigits _ c hc)

lemma ordinary_of_mem_toString {n : Int} {c : Char} (h : c ∈ (toString n).toList) :
    Ordinary c ∧ c ≠ '\x00' := by
  have hne : ∀ d : Char, d.isDigit = false → d ≠ '-' → c ≠ d := by
    rintro d hdigit hsign rfl
    rcases mem_toString h with hc | hc
    · rw [hdigit] at hc
      cases hc
    · exact hsign hc
  exact ⟨⟨hne _ (by decide) (by decide), hne _ (by decide) (by decide)⟩,
    hne _ (by decide) (by decide)⟩

/-! ### Reading the text of a statement -/

lemma separated_value (v : Value) (hfollows : Follows (pieces.flatMap Piece.text))
    (h : Separated pieces) : Separated (v.pieces ++ pieces) := by
  cases v with
  | null => exact ⟨by simp, h⟩
  | str s => exact ⟨hfollows, h⟩
  | num n =>
    refine ⟨fun c hc => ?_, h⟩
    have := ordinary_of_mem_toString hc
    exact ⟨this.1.1, this.2⟩

/-- What comes after values begins with an ordinary character. -/
lemma separated_values (hfollows : Follows (pieces.flatMap Piece.text)) (h : Separated pieces) :
    ∀ values : List Value, Separated (commaSeparated (values.map Value.pieces) ++ pieces)
  | []            => h
  | [v]           => by
    simp only [commaSeparated, List.map_cons, List.map_nil, List.intercalate_singleton]
    exact separated_value v hfollows h
  | v :: w :: values => by
    have ih := separated_values hfollows h (w :: values)
    simp only [commaSeparated, List.map_cons, List.intercalate_cons_cons, List.append_assoc,
      List.cons_append, List.nil_append] at ih ⊢
    refine separated_value v ?_ ⟨by simp, ih⟩
    intro c hc
    obtain rfl : ',' = c := by simpa [Piece.text] using hc
    decide

lemma separated_insert (hname : Clean (S.name t).toList)
    (hcolumns : ∀ v ∈ values, Clean v.1.toList) (h : Separated pieces) :
    Separated (insertPieces S t values ++ pieces) := by
  simp only [insertPieces, List.cons_append, List.append_assoc, List.nil_append]
  refine ⟨?_, ?_⟩
  · have hwords : Clean (List.intercalate ", ".toList (values.map (·.1.toList))) := by
      refine clean_intercalate (by decide) fun w hw => ?_
      obtain ⟨v, hv, rfl⟩ := List.mem_map.mp hw
      exact hcolumns v hv
    refine Clean.append ?_ (hname.append (Clean.append ?_ (hwords.append ?_)))
    · decide
    · decide
    · decide
  · have hfollows : Follows ((.code ")".toList :: pieces).flatMap Piece.text) := by
      intro c hc
      obtain rfl : ')' = c := by simpa [Piece.text] using hc
      decide
    have hvalues := separated_values hfollows ⟨by simp, h⟩ (values.map (·.2))
    rwa [List.map_map] at hvalues

lemma Statement.separated (h : stmt.Clean S) : Separated (stmt.pieces S) := by
  cases stmt with
  | insert t values =>
    have hinsert : Separated (insertPieces S t values ++ []) := separated_insert h.1 h.2 trivial
    rwa [List.append_nil] at hinsert
  | upsert t values c =>
    refine separated_insert h.1.1 h.1.2 ⟨?_, trivial⟩
    refine (((Clean.append ?_ h.2).append ?_).append h.2).append ?_
    · decide
    · decide
    · decide
  | delete t c value =>
    refine ⟨?_, fun c hc => ?_, trivial⟩
    · refine (((Clean.append ?_ h.1).append ?_).append h.2).append ?_
      · decide
      · decide
      · decide
    · cases hc

lemma mem_commaSeparated {w : List Char} : ∀ {values : List Value},
    .literal w ∈ commaSeparated (values.map Value.pieces) ↔
      ∃ s ∈ values.flatMap Value.literals, s.toList = w
  | []            => by simp [commaSeparated]
  | [v]           => by
    cases v <;> simp [commaSeparated, Value.pieces, Value.literals, eq_comm]
  | v :: v' :: values => by
    have ih : .literal w ∈ commaSeparated ((v' :: values).map Value.pieces) ↔
        ∃ s ∈ (v' :: values).flatMap Value.literals, s.toList = w := mem_commaSeparated
    simp only [commaSeparated, List.map_cons, List.intercalate_cons_cons, List.mem_append,
      List.flatMap_cons] at ih ⊢
    rw [ih]
    cases v <;> simp [Value.pieces, Value.literals, eq_comm]

lemma Statement.mem_pieces {w : List Char} :
    .literal w ∈ stmt.pieces S ↔ ∃ s ∈ stmt.literals, s.toList = w := by
  have hinsert : ∀ t values, .literal w ∈ insertPieces S t values ↔
      ∃ s ∈ values.flatMap (·.2.literals), s.toList = w := by
    intro t values
    have hvalues : .literal w ∈ commaSeparated ((values.map (·.2)).map Value.pieces) ↔
        ∃ s ∈ (values.map (·.2)).flatMap Value.literals, s.toList = w := mem_commaSeparated
    rw [List.map_map, List.flatMap_map] at hvalues
    simpa [insertPieces, Function.comp_def] using hvalues
  cases stmt with
  | insert t values => exact hinsert t values
  | upsert t values c => simpa [Statement.pieces, Statement.literals] using hinsert t values
  | delete t c value => simp [Statement.pieces, Statement.literals, eq_comm]

/-- A server that reads the text of a statement finds the statement that is meant if and only if
every literal stands for itself. -/
theorem Statement.read_text_iff (h : stmt.Clean S) :
    read .code (cString (stmt.text S)) = some (stmt.tokens S) ↔
      ∀ s ∈ stmt.literals, Plain s.toList := by
  rw [text, tokens, read_pieces_iff (separated h)]
  constructor
  · intro hplain s hs
    exact hplain _ (mem_pieces.mpr ⟨s, hs, rfl⟩)
  · intro hplain w hw
    obtain ⟨s, hs, rfl⟩ := mem_pieces.mp hw
    exact hplain s hs

end Core.Sql
