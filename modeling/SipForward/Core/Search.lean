import Mathlib.Data.List.DropRight
import Mathlib.Data.List.Infix
import Mathlib.Data.List.TakeWhile
import Mathlib.Data.Nat.Notation
import Mathlib.Tactic.Lemma
import Mathlib.Tactic.SplitIfs

/-!
# Searching and stripping a text

A search goes along a list and stops at the first tail that has a property: a pattern stands at its
front, or a key with a value behind it. To strip a list is to take away what has a property at both
of its ends.
-/

namespace Core

variable {α : Type*}

/-! ### The first tail -/

/-- The first tail with the property. -/
def firstTail (p : List α → Prop) [DecidablePred p] : List α → Option (List α)
  | []     => if p [] then some [] else none
  | a :: l => if p (a :: l) then some (a :: l) else firstTail p l

/-- The list is split in front of its first tail with the property. -/
structure IsFirst (p : List α → Prop) (l front tail : List α) : Prop where
  split : l = front ++ tail
  holds : p tail
  first : ∀ front' tail', l = front' ++ tail' → p tail' → front.length ≤ front'.length

variable {p : List α → Prop} {a : α} {l front front' tail tail' : List α}

lemma isFirst_nil (h : p l) : IsFirst p l [] l := ⟨rfl, h, fun _ _ _ _ => Nat.zero_le _⟩

lemma IsFirst.cons (h : IsFirst p l front tail) (hhead : ¬p (a :: l)) :
    IsFirst p (a :: l) (a :: front) tail := by
  refine ⟨by rw [h.split, List.cons_append], h.holds, fun front' tail' hsplit hp => ?_⟩
  cases front' with
  | nil => exact absurd (show p (a :: l) from hsplit ▸ hp) hhead
  | cons b front' =>
    obtain ⟨-, hrest⟩ := List.cons.inj hsplit
    exact Nat.succ_le_succ (h.first front' tail' hrest hp)

/-- There is only one first tail. -/
lemma IsFirst.unique (h : IsFirst p l front tail) (h' : IsFirst p l front' tail') :
    front = front' ∧ tail = tail' := by
  have hlength := Nat.le_antisymm (h.first _ _ h'.split h'.holds) (h'.first _ _ h.split h.holds)
  exact List.append_inj (h.split.symm.trans h'.split) hlength

variable [DecidablePred p]

/-- The search finds the first tail with the property. -/
lemma firstTail_eq_some_iff : firstTail p l = some tail ↔ ∃ front, IsFirst p l front tail := by
  induction l with
  | nil =>
    rw [firstTail]
    constructor
    · intro h
      split_ifs at h with hp
      cases h
      exact ⟨[], isFirst_nil hp⟩
    · rintro ⟨front, h⟩
      obtain ⟨rfl, rfl⟩ := List.append_eq_nil_iff.mp h.split.symm
      exact if_pos h.holds
  | cons a l ih =>
    rw [firstTail]
    constructor
    · intro h
      split_ifs at h with hp
      · cases h
        exact ⟨[], isFirst_nil hp⟩
      · obtain ⟨front, hfront⟩ := ih.mp h
        exact ⟨a :: front, hfront.cons hp⟩
    · rintro ⟨front, h⟩
      split_ifs with hp
      · rw [((isFirst_nil hp).unique h).2]
      · obtain ⟨hsplit, hholds, hfirst⟩ := h
        cases front with
        | nil => exact absurd (show p (a :: l) from hsplit ▸ hholds) hp
        | cons b front =>
          obtain ⟨rfl, hrest⟩ := List.cons.inj hsplit
          refine ih.mpr ⟨front, hrest, hholds, fun front' tail' hsplit' hp' => ?_⟩
          exact Nat.le_of_succ_le_succ
            (hfirst (a :: front') tail' (by rw [hsplit', List.cons_append]) hp')

lemma firstTail_eq_none_iff :
    firstTail p l = none ↔ ∀ front tail, l = front ++ tail → ¬p tail := by
  induction l with
  | nil =>
    rw [firstTail]
    constructor
    · intro h front tail hsplit
      obtain ⟨rfl, rfl⟩ := List.append_eq_nil_iff.mp hsplit.symm
      intro hp
      rw [if_pos hp] at h
      cases h
    · intro h
      exact if_neg (h [] [] rfl)
  | cons a l ih =>
    rw [firstTail]
    constructor
    · intro h front tail hsplit
      split_ifs at h with hp
      cases front with
      | nil => exact fun hp' => hp (hsplit ▸ hp')
      | cons b front => exact ih.mp h front tail (List.cons.inj hsplit).2
    · intro h
      rw [if_neg (h [] _ rfl)]
      exact ih.mpr fun front tail hsplit => h (a :: front) tail (by rw [hsplit, List.cons_append])

/-- What stands in front of the first tail with the property; everything when there is none. -/
def before (p : List α → Prop) [DecidablePred p] : List α → List α
  | []     => []
  | a :: l => if p (a :: l) then [] else a :: before p l

lemma before_eq_self (h : ∀ front tail, l = front ++ tail → ¬p tail) : before p l = l := by
  induction l with
  | nil => rfl
  | cons a l ih =>
    rw [before, if_neg (h [] _ rfl)]
    rw [ih fun front tail hsplit => h (a :: front) tail (by rw [hsplit, List.cons_append])]

lemma IsFirst.before_eq (h : IsFirst p l front tail) : before p l = front := by
  induction l generalizing front with
  | nil =>
    rw [(List.append_eq_nil_iff.mp h.split.symm).1]
    rfl
  | cons a l ih =>
    rw [before]
    cases front with
    | nil =>
      have hhead : p (a :: l) := h.split ▸ h.holds
      rw [if_pos hhead]
    | cons b front =>
      obtain ⟨hsplit, hholds, hfirst⟩ := h
      have hhead : ¬p (a :: l) := fun hp =>
        absurd (hfirst [] _ rfl hp) (by rw [List.length_cons]; exact Nat.not_succ_le_zero _)
      obtain ⟨rfl, hrest⟩ := List.cons.inj hsplit
      rw [if_neg hhead]
      rw [ih ⟨hrest, hholds, fun front' tail' hsplit' hp => Nat.le_of_succ_le_succ
        (hfirst (a :: front') tail' (by rw [hsplit', List.cons_append]) hp)⟩]

/-! ### A pattern -/

section Pattern

variable {pat : List α}

omit [DecidablePred p]

/-- A pattern that is found stays found when something is put behind it. -/
lemma IsFirst.append (h : IsFirst (pat <+: ·) l front tail) (back : List α) :
    IsFirst (pat <+: ·) (l ++ back) front (tail ++ back) := by
  obtain ⟨hsplit, hholds, hfirst⟩ := h
  refine ⟨by rw [hsplit, List.append_assoc], hholds.trans (List.prefix_append tail back), ?_⟩
  intro front' tail' hsplit' hpat
  by_contra hlt
  -- a place further to the front has the pattern within `l`
  obtain ⟨rest, rfl⟩ := hpat
  have hlen : pat.length ≤ tail.length := hholds.length_le
  have hpre : front' ++ pat <+: l := by
    refine @List.prefix_of_prefix_length_le _ _ _ (l ++ back) ⟨rest, ?_⟩ ⟨back, rfl⟩ ?_
    · rw [hsplit', List.append_assoc]
    · rw [hsplit, List.length_append, List.length_append]
      omega
  obtain ⟨rest', hrest'⟩ := hpre
  refine hlt (hfirst front' (pat ++ rest') ?_ ⟨rest', rfl⟩)
  rw [← hrest', List.append_assoc]

/-- A pattern that has nothing of what is put behind is found without it. -/
lemma IsFirst.of_append {back : List α} (h : IsFirst (pat <+: ·) (l ++ back) front tail)
    (hne : pat ≠ []) (hback : ∀ a ∈ pat, a ∉ back) :
    ∃ tail', tail = tail' ++ back ∧ IsFirst (pat <+: ·) l front tail' := by
  obtain ⟨hsplit, ⟨rest, rfl⟩, hfirst⟩ := h
  rw [← List.append_assoc] at hsplit
  rcases List.append_eq_append_iff.mp hsplit with ⟨excess, hexcess, hback'⟩ | ⟨more, hl, hrest⟩
  · -- what of the pattern is not in `l` is in what is behind it
    rcases List.eq_nil_or_concat excess with rfl | ⟨excess, a, rfl⟩
    · rw [List.append_nil] at hexcess
      refine ⟨pat, by rw [hback', List.nil_append], hexcess.symm, List.prefix_rfl, ?_⟩
      intro front' tail' hsplit' hpat
      refine hfirst front' (tail' ++ back) ?_ (hpat.trans (List.prefix_append tail' back))
      rw [hsplit', List.append_assoc]
    · obtain ⟨pat', b, rfl⟩ := (List.eq_nil_or_concat pat).resolve_left hne
      rw [List.concat_eq_append, List.concat_eq_append, ← List.append_assoc,
        ← List.append_assoc] at hexcess
      obtain ⟨-, hlast⟩ := List.append_inj' hexcess rfl
      cases hlast
      exact absurd (by simp [hback']) (hback a (by simp))
  · refine ⟨pat ++ more, by rw [hrest, List.append_assoc], ?_, List.prefix_append pat more, ?_⟩
    · rw [hl, List.append_assoc]
    · intro front' tail' hsplit' hpat
      refine hfirst front' (tail' ++ back) ?_ (hpat.trans (List.prefix_append tail' back))
      rw [hsplit', List.append_assoc]

lemma firstTail_prefix_eq_none_iff [DecidableEq α] :
    firstTail (pat <+: ·) l = none ↔ ¬pat <:+: l := by
  rw [firstTail_eq_none_iff]
  constructor
  · rintro h ⟨front, back, rfl⟩
    exact h front (pat ++ back) (List.append_assoc _ _ _) (List.prefix_append _ _)
  · rintro h front tail rfl ⟨back, rfl⟩
    exact h ⟨front, back, List.append_assoc _ _ _⟩

/-- Nothing is found where the pattern cannot begin. -/
lemma firstTail_append [DecidableEq α] (h : a ∉ front) :
    firstTail (a :: pat <+: ·) (front ++ l) = firstTail (a :: pat <+: ·) l := by
  induction front with
  | nil => rfl
  | cons b front ih =>
    obtain ⟨hne, hrest⟩ := not_or.mp (List.mem_cons.not.mp h)
    have hhead : ¬a :: pat <+: b :: (front ++ l) :=
      fun hpre => hne (List.cons_prefix_cons.mp hpre).1
    rw [List.cons_append, firstTail, if_neg hhead, ih hrest]

lemma before_append [DecidableEq α] (h : a ∉ front) :
    before (a :: pat <+: ·) (front ++ l) = front ++ before (a :: pat <+: ·) l := by
  induction front with
  | nil => rfl
  | cons b front ih =>
    obtain ⟨hne, hrest⟩ := not_or.mp (List.mem_cons.not.mp h)
    have hhead : ¬a :: pat <+: b :: (front ++ l) :=
      fun hpre => hne (List.cons_prefix_cons.mp hpre).1
    rw [List.cons_append, before, if_neg hhead, ih hrest, List.cons_append]

end Pattern

/-! ### Stripping -/

section Strip

variable {q r : α → Bool} {back : List α}

omit [DecidablePred p]

/-- The list without what has the property at its ends. -/
def strip (q : α → Bool) (l : List α) : List α := (l.dropWhile q).rdropWhile q

lemma exists_strip (q : α → Bool) (l : List α) : ∃ front back, l = front ++ (strip q l ++ back) ∧
    (∀ a ∈ front, q a = true) ∧ ∀ a ∈ back, q a = true := by
  refine ⟨l.takeWhile q, (l.dropWhile q).rtakeWhile q, ?_, ?_, ?_⟩
  · rw [strip, List.rdropWhile_append_rtakeWhile, List.takeWhile_append_dropWhile]
  · exact fun a ha => List.mem_takeWhile_imp ha
  · exact fun a ha => List.mem_rtakeWhile_imp ha

lemma rdropWhile_append_of_forall (h : ∀ a ∈ back, q a = true) :
    (l ++ back).rdropWhile q = l.rdropWhile q := by
  rw [List.rdropWhile, List.reverse_append, List.dropWhile_append_of_pos, ← List.rdropWhile]
  exact fun a ha => h a (List.mem_reverse.mp ha)

lemma strip_append (hfront : ∀ a ∈ front, q a = true) (hback : ∀ a ∈ back, q a = true) :
    strip q (front ++ (l ++ back)) = strip q l := by
  rw [strip, strip, List.dropWhile_append_of_pos hfront, List.dropWhile_append]
  split_ifs with hempty
  · have hnil : back.dropWhile q = [] := List.dropWhile_eq_nil_iff.mpr hback
    rw [hnil, List.isEmpty_iff.mp hempty]
  · exact rdropWhile_append_of_forall hback

/-- To strip more comes to the same as to strip less before. -/
lemma strip_strip (h : ∀ a, q a = true → r a = true) (l : List α) :
    strip r (strip q l) = strip r l := by
  obtain ⟨front, back, hsplit, hfront, hback⟩ := exists_strip q l
  conv_rhs => rw [hsplit]
  exact (strip_append (fun a ha => h a (hfront a ha)) fun a ha => h a (hback a ha)).symm

/-- What a filter does not keep may be stripped before. -/
lemma filter_strip (h : ∀ a, q a = true → r a = false) (l : List α) :
    (strip q l).filter r = l.filter r := by
  obtain ⟨front, back, hsplit, hfront, hback⟩ := exists_strip q l
  have hnone {l : List α} (hl : ∀ a ∈ l, q a = true) : l.filter r = [] := by
    rw [List.filter_eq_nil_iff]
    intro a ha hkeep
    rw [h a (hl a ha)] at hkeep
    cases hkeep
  conv_rhs => rw [hsplit, List.filter_append, List.filter_append, hnone hfront, hnone hback]
  rw [List.nil_append, List.append_nil]

end Strip

/-! ### A key with its value -/

section Capture

variable [DecidableEq α]

/-- The key is at the front, and what follows is not a separator. -/
def Opens (key : List α) (sep : α) (l : List α) : Prop :=
  key <+: l ∧ ∃ a ∈ (l.drop key.length).head?, a ≠ sep

instance (key : List α) (sep : α) : DecidablePred (Opens key sep) := fun _ =>
  inferInstanceAs (Decidable (_ ∧ _))

/-- The value behind the first key that has one: what follows up to the next separator. -/
def capture (key : List α) (sep : α) (l : List α) : Option (List α) :=
  (firstTail (Opens key sep) l).map fun tail => (tail.drop key.length).takeWhile (· ≠ sep)

/-- The key stands behind `front`, with a value that goes up to a separator or to the end. -/
structure Stands (key : List α) (sep : α) (l front value : List α) : Prop where
  split : ∃ back, l = front ++ (key ++ (value ++ back)) ∧ back.head?.all (· = sep)
  nonempty : value ≠ []
  noSep : sep ∉ value

/-- No key with a value stands further to the front. -/
structure StandsFirst (key : List α) (sep : α) (l front value : List α) : Prop
    extends Stands key sep l front value where
  first : ∀ front' value', Stands key sep l front' value' → front.length ≤ front'.length

variable {key value value' : List α} {sep : α}

lemma takeWhile_append_of_sep {back : List α} (hvalue : sep ∉ value)
    (hback : back.head?.all (· = sep)) : (value ++ back).takeWhile (· ≠ sep) = value := by
  have hall : ∀ a ∈ value, decide (a ≠ sep) = true := fun a ha =>
    decide_eq_true fun heq => hvalue (heq ▸ ha)
  rw [List.takeWhile_append_of_pos hall]
  cases back with
  | nil => simp
  | cons b back =>
    obtain rfl : b = sep := by simpa using hback
    simp

lemma Stands.opens (h : Stands key sep l front value) :
    ∃ tail, l = front ++ tail ∧ Opens key sep tail ∧
      (tail.drop key.length).takeWhile (· ≠ sep) = value := by
  obtain ⟨⟨back, rfl, hback⟩, hnonempty, hnoSep⟩ := h
  refine ⟨_, rfl, ⟨List.prefix_append _ _, ?_⟩, ?_⟩
  · obtain ⟨a, rest, rfl⟩ := List.exists_cons_of_ne_nil hnonempty
    refine ⟨a, by simp, ?_⟩
    rintro rfl
    exact hnoSep List.mem_cons_self
  · rw [List.drop_left]
    exact takeWhile_append_of_sep hnoSep hback

lemma Opens.stands (h : Opens key sep tail) (hsplit : l = front ++ tail) :
    Stands key sep l front ((tail.drop key.length).takeWhile (· ≠ sep)) := by
  obtain ⟨⟨rest, rfl⟩, a, ha, hne⟩ := h
  rw [List.drop_left] at ha ⊢
  obtain ⟨rest, rfl⟩ : ∃ rest', rest = a :: rest' := by
    cases rest with
    | nil => cases ha
    | cons b rest =>
      cases ha
      exact ⟨rest, rfl⟩
  refine ⟨⟨(a :: rest).dropWhile (· ≠ sep), ?_, ?_⟩, ?_, ?_⟩
  · rw [List.takeWhile_append_dropWhile, hsplit]
  · have hback := List.head?_dropWhile_not (fun x => decide (x ≠ sep)) (a :: rest)
    cases hrest : (a :: rest).dropWhile (· ≠ sep) with
    | nil => rfl
    | cons b back =>
      rw [hrest] at hback
      simpa using hback
  · simp [hne]
  · intro hmem
    simpa using List.mem_takeWhile_imp hmem

/-- The value is what stands behind the first key that has one. -/
lemma capture_eq_some_iff :
    capture key sep l = some value ↔ ∃ front, StandsFirst key sep l front value := by
  rw [capture, Option.map_eq_some_iff]
  constructor
  · rintro ⟨tail, htail, rfl⟩
    obtain ⟨front, h⟩ := firstTail_eq_some_iff.mp htail
    refine ⟨front, h.holds.stands h.split, fun front' value' hstands => ?_⟩
    obtain ⟨tail', hsplit, hopens, -⟩ := hstands.opens
    exact h.first front' tail' hsplit hopens
  · rintro ⟨front, h⟩
    obtain ⟨tail, hsplit, hopens, hvalue⟩ := h.opens
    refine ⟨tail, firstTail_eq_some_iff.mpr ⟨front, hsplit, hopens, ?_⟩, hvalue⟩
    exact fun front' tail' hsplit' hopens' => h.first front' _ (hopens'.stands hsplit')

lemma capture_eq_none_iff :
    capture key sep l = none ↔ ∀ front value, ¬Stands key sep l front value := by
  rw [capture, Option.map_eq_none_iff, firstTail_eq_none_iff]
  constructor
  · intro h front value hstands
    obtain ⟨tail, hsplit, hopens, -⟩ := hstands.opens
    exact h front tail hsplit hopens
  · exact fun h front tail hsplit hopens => h front _ (hopens.stands hsplit)

/-- What stands at a place is determined by it. -/
lemma Stands.value_unique (h : Stands key sep l front value)
    (h' : Stands key sep l front' value') (hlength : front.length = front'.length) :
    value = value' := by
  obtain ⟨tail, hsplit, -, hvalue⟩ := h.opens
  obtain ⟨tail', hsplit', -, hvalue'⟩ := h'.opens
  obtain ⟨-, rfl⟩ := List.append_inj (hsplit.symm.trans hsplit') hlength
  exact hvalue.symm.trans hvalue'

lemma Stands.length_lt (h : Stands key sep l front value) : front.length < l.length := by
  obtain ⟨⟨back, rfl, -⟩, hnonempty, -⟩ := h
  have hpos := List.length_pos_of_ne_nil hnonempty
  simp only [List.length_append]
  omega

end Capture

end Core
