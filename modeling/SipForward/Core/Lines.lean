import Mathlib.Data.List.Basic
import Mathlib.Data.Nat.Notation
import Mathlib.Tactic.Lemma
import Mathlib.Tactic.SplitIfs

/-!
# Lines of a stream

A buffered reader takes lines from a connection, which delivers a stream in pieces. What is read
depends on the stream alone.
-/

namespace Core.Lines

abbrev Bytes := List UInt8

def newline : UInt8 := 10

/-- The first line with its newline, and what follows it. -/
def cutLine : Bytes → Option (Bytes × Bytes)
  | []     => none
  | b :: s => if b = newline then some ([b], s) else (cutLine s).map fun (l, t) => (b :: l, t)

/-- A line, with its newline. -/
def IsLine (l : Bytes) : Prop := ∃ s, newline ∉ s ∧ l = s ++ [newline]

/-! ### Readers -/

/-- What was received and is not read yet, and the pieces that are still to be received. -/
structure Reader where
  buffer : Bytes
  arriving : List Bytes

/-- The rest of the stream. -/
def Reader.rest (r : Reader) : Bytes := r.buffer ++ r.arriving.flatten

/-- More pieces are to be received. -/
def Reader.expect (r : Reader) (pieces : List Bytes) : Reader :=
  { r with arriving := r.arriving ++ pieces }

/-- Receives until there is a line in the buffer. What is left without a newline is given up. -/
def receiveLine : Bytes → List Bytes → Option Bytes × Reader
  | buffer, [] =>
    match cutLine buffer with
    | some (line, rest) => (some line, ⟨rest, []⟩)
    | none              => (none, ⟨[], []⟩)
  | buffer, piece :: arriving =>
    match cutLine buffer with
    | some (line, rest) => (some line, ⟨rest, piece :: arriving⟩)
    | none              => receiveLine (buffer ++ piece) arriving

def Reader.readLine (r : Reader) : Option Bytes × Reader := receiveLine r.buffer r.arriving

/-- The lines that a loop reads. -/
structure LinesRead where
  /-- Those before the one at which it stops. -/
  lines : List Bytes
  /-- Whether there was such a line. -/
  stopped : Bool
  reader : Reader

/-- Reads lines until there is one at which to stop; `n` bounds their number. -/
def Reader.readUntil (stop : Bytes → Bool) : ℕ → Reader → LinesRead
  | 0, r     => ⟨[], false, r⟩
  | n + 1, r =>
    match r.readLine with
    | (none, r')      => ⟨[], false, r'⟩
    | (some line, r') =>
      if stop line then ⟨[], true, r'⟩
      else
        let more := readUntil stop n r'
        { more with lines := line :: more.lines }

/-- More than all lines. -/
def Reader.bound (r : Reader) : ℕ := r.rest.length + 1

variable {l s t buffer : Bytes} {ls pieces : List Bytes} {r r' : Reader} {n : ℕ}
  {stop : Bytes → Bool}

/-! ### The first line -/

lemma cutLine_append (s t : Bytes) : cutLine (s ++ t) =
    match cutLine s with
    | some (l, rest) => some (l, rest ++ t)
    | none           => (cutLine t).map fun (l, rest) => (s ++ l, rest) := by
  induction s with
  | nil => simp [cutLine]
  | cons b s ih =>
    rw [List.cons_append, cutLine, cutLine, ih]
    by_cases hb : b = newline
    · simp [hb]
    · simp only [hb, if_false]
      cases cutLine s with
      | none => simp [Option.map_map, Function.comp_def]
      | some p => rfl

lemma cutLine_of_notMem (h : newline ∉ s) : cutLine s = none := by
  induction s with
  | nil => rfl
  | cons b s ih =>
    obtain ⟨hb, hs⟩ := List.ne_and_not_mem_of_not_mem_cons h
    rw [cutLine, if_neg fun heq => hb heq.symm, ih hs]
    rfl

lemma IsLine.cutLine (h : IsLine l) (s : Bytes) : cutLine (l ++ s) = some (l, s) := by
  obtain ⟨t, ht, rfl⟩ := h
  rw [List.append_assoc, cutLine_append, cutLine_of_notMem ht]
  rfl

lemma cutLine_some (h : cutLine s = some (l, t)) : IsLine l ∧ s = l ++ t := by
  induction s generalizing l with
  | nil => cases h
  | cons b s ih =>
    rw [Lines.cutLine] at h
    split_ifs at h with hb
    · cases h
      exact ⟨⟨[], List.not_mem_nil, by rw [hb]; rfl⟩, rfl⟩
    · obtain ⟨⟨l', t'⟩, hcut, heq⟩ := Option.map_eq_some_iff.mp h
      cases heq
      obtain ⟨⟨s', hs', rfl⟩, rfl⟩ := ih hcut
      refine ⟨⟨b :: s', ?_, rfl⟩, rfl⟩
      simpa using ⟨fun heq => hb heq.symm, hs'⟩

lemma isLine_iff : IsLine l ↔ cutLine l = some (l, []) := by
  constructor
  · intro h
    have hcut := h.cutLine []
    rwa [List.append_nil] at hcut
  · intro h
    exact (cutLine_some h).1

instance : DecidablePred IsLine := fun _ => decidable_of_iff _ isLine_iff.symm

lemma IsLine.length_pos (h : IsLine l) : 0 < l.length := by
  obtain ⟨t, -, rfl⟩ := h
  rw [List.length_append, List.length_singleton]
  omega

/-! ### What is read -/

/-- One line is read from the stream, however it is cut. -/
lemma receiveLine_eq (buffer : Bytes) (pieces : List Bytes) :
    match cutLine (buffer ++ pieces.flatten) with
    | some (line, rest) => ∃ r, receiveLine buffer pieces = (some line, r) ∧ r.rest = rest
    | none              => receiveLine buffer pieces = (none, ⟨[], []⟩) := by
  induction pieces generalizing buffer with
  | nil =>
    rw [List.flatten_nil, List.append_nil, receiveLine]
    cases cutLine buffer with
    | none => rfl
    | some p => exact ⟨_, rfl, List.append_nil _⟩
  | cons piece pieces ih =>
    rw [List.flatten_cons, receiveLine]
    cases hcut : cutLine buffer with
    | none =>
      rw [← List.append_assoc]
      exact ih (buffer ++ piece)
    | some p =>
      rw [cutLine_append, hcut]
      exact ⟨_, rfl, rfl⟩

lemma readLine_some (h : cutLine r.rest = some (l, t)) :
    ∃ r', r.readLine = (some l, r') ∧ r'.rest = t := by
  have hline := receiveLine_eq r.buffer r.arriving
  rw [Reader.rest] at h
  rwa [h] at hline

lemma readLine_none (h : cutLine r.rest = none) : r.readLine = (none, ⟨[], []⟩) := by
  have hline := receiveLine_eq r.buffer r.arriving
  rw [Reader.rest] at h
  rwa [h] at hline

lemma rest_expect (r : Reader) (pieces : List Bytes) :
    (r.expect pieces).rest = r.rest ++ pieces.flatten := by
  rw [Reader.rest, Reader.rest, Reader.expect, List.flatten_append, List.append_assoc]

/-- Two readers with the same rest of the stream read the same lines. -/
lemma readUntil_congr (h : r.rest = r'.rest) :
    (r.readUntil stop n).lines = (r'.readUntil stop n).lines ∧
      (r.readUntil stop n).stopped = (r'.readUntil stop n).stopped ∧
      (r.readUntil stop n).reader.rest = (r'.readUntil stop n).reader.rest := by
  induction n generalizing r r' with
  | zero => exact ⟨rfl, rfl, h⟩
  | succ n ih =>
    cases hcut : cutLine r.rest with
    | none =>
      simp only [Reader.readUntil, readLine_none hcut, readLine_none (h ▸ hcut)]
      exact ⟨trivial, trivial, trivial⟩
    | some p =>
      obtain ⟨r₁, hread, hrest⟩ := readLine_some hcut
      obtain ⟨r₂, hread', hrest'⟩ := readLine_some (h ▸ hcut)
      simp only [Reader.readUntil, hread, hread']
      split_ifs
      · exact ⟨rfl, rfl, hrest.trans hrest'.symm⟩
      · obtain ⟨hlines, hstopped, hreader⟩ := ih (hrest.trans hrest'.symm)
        exact ⟨congrArg (p.1 :: ·) hlines, hstopped, hreader⟩

/-- The loop reads the lines before the one at which it stops. -/
lemma readUntil_stops (hrest : r.rest = ls.flatten ++ (l ++ t)) (hn : ls.length < n)
    (hlines : ∀ x ∈ ls, IsLine x) (hgo : ∀ x ∈ ls, stop x = false) (hline : IsLine l)
    (hstop : stop l = true) :
    (r.readUntil stop n).lines = ls ∧ (r.readUntil stop n).stopped = true ∧
      (r.readUntil stop n).reader.rest = t := by
  induction ls generalizing r n with
  | nil =>
    obtain ⟨n, rfl⟩ := Nat.exists_eq_succ_of_ne_zero (Nat.ne_of_gt hn)
    obtain ⟨r', hread, hrest'⟩ := readLine_some (hrest ▸ hline.cutLine t)
    simp only [Reader.readUntil, hread, hstop, if_true]
    exact ⟨trivial, trivial, hrest'⟩
  | cons x ls ih =>
    obtain ⟨n, rfl⟩ := Nat.exists_eq_succ_of_ne_zero (Nat.ne_of_gt (Nat.zero_lt_of_lt hn))
    obtain ⟨hx, hls⟩ := List.forall_mem_cons.mp hlines
    obtain ⟨hxgo, hlsgo⟩ := List.forall_mem_cons.mp hgo
    have hcut : cutLine r.rest = some (x, ls.flatten ++ (l ++ t)) := by
      rw [hrest, List.flatten_cons, List.append_assoc]
      exact hx.cutLine _
    obtain ⟨r', hread, hrest'⟩ := readLine_some hcut
    obtain ⟨hmore, hstopped, hreader⟩ := ih hrest' (Nat.lt_of_succ_lt_succ hn) hls hlsgo
    simp only [Reader.readUntil, hread, hxgo, Bool.false_eq_true, if_false]
    exact ⟨congrArg (x :: ·) hmore, hstopped, hreader⟩

lemma length_le_flatten (hlines : ∀ x ∈ ls, IsLine x) : ls.length ≤ ls.flatten.length := by
  induction ls with
  | nil => exact Nat.le_refl 0
  | cons x ls ih =>
    obtain ⟨hx, hls⟩ := List.forall_mem_cons.mp hlines
    have hpos := hx.length_pos
    have hle := ih hls
    rw [List.flatten_cons, List.length_append, List.length_cons]
    omega

/-- The bound leaves no line out. -/
lemma lt_bound (hrest : r.rest = ls.flatten ++ s) (hlines : ∀ x ∈ ls, IsLine x) :
    ls.length < r.bound := by
  have hle := length_le_flatten hlines
  rw [Reader.bound, hrest, List.length_append]
  omega

end Core.Lines
