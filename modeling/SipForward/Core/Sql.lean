import Mathlib.Tactic.Lemma
import Mathlib.Tactic.SplitIfs
import Mathlib.Logic.Function.Basic
import Mathlib.Data.List.Nodup

/-!
# Tables with primary and foreign keys

The statements that a service uses to write its tables: an insertion, an insertion that updates one
column of the row with the same key, and a deletion of the rows with a given value in one column. A
statement takes effect as a whole or is rejected. Values are compared by their weights, so that a
collation may take different texts for the same.
-/

namespace Core.Sql

inductive Value where
  | null
  | str (s : String)
  | num (n : Int)
deriving DecidableEq

/-- The values of a row by column. A column that has no value is NULL. -/
abbrev Row := String → Value

def Row.of (values : List (String × Value)) : Row := fun c => (values.lookup c).getD .null

/-- A column refers to the primary key of a table. -/
structure ForeignKey (T : Type*) where
  table : T
  column : String
  references : T
  cascade : Bool

/-- No table with a cascading key is referred to by another one. Values of one weight are the
same. -/
structure Schema (T : Type*) where
  name : T → String
  primaryKey : T → String
  foreignKeys : List (ForeignKey T)
  weight : Value → Value

inductive Statement (T : Type*) where
  | insert (table : T) (values : List (String × Value))
  | upsert (table : T) (values : List (String × Value)) (update : String)
  | delete (table : T) (column value : String)

/-- In every table the primary keys are different. -/
@[ext] structure Database {T : Type*} (S : Schema T) where
  rows : T → List Row
  unique : ∀ t, ((rows t).map fun r => S.weight (r (S.primaryKey t))).Nodup

variable {T : Type*} {S : Schema T}

/-! ### Statements -/

def Database.HasKey (db : Database S) (t : T) (key : Value) : Prop :=
  ∃ r ∈ db.rows t, S.weight (r (S.primaryKey t)) = S.weight key

instance (db : Database S) (t : T) (key : Value) : Decidable (db.HasKey t key) :=
  inferInstanceAs (Decidable (∃ r ∈ db.rows t, S.weight (r (S.primaryKey t)) = S.weight key))

/-- Some of the rows. -/
def Database.filter (db : Database S) (keep : T → Row → Bool) : Database S where
  rows t := (db.rows t).filter (keep t)
  unique t := (db.unique t).sublist (List.Sublist.map _ List.filter_sublist)

@[simp] lemma Database.rows_filter (db : Database S) (keep : T → Row → Bool) (t : T) :
    (db.filter keep).rows t = (db.rows t).filter (keep t) := rfl

/-- The tables without some of their rows. -/
def Database.without (db : Database S) (mine : T → Row → Bool) : Database S :=
  db.filter fun t r => !mine t r

lemma Database.mem_without {db : Database S} {mine : T → Row → Bool} {t : T} {r : Row} :
    r ∈ (db.without mine).rows t ↔ r ∈ db.rows t ∧ mine t r = false := by
  simp [without]

lemma Database.HasKey.of_without {db : Database S} {mine : T → Row → Bool} {t : T} {key : Value}
    (h : (db.without mine).HasKey t key) :
    db.HasKey t key := by
  obtain ⟨r, hr, hkey⟩ := h
  exact ⟨r, (mem_without.mp hr).1, hkey⟩

variable (S) in
/-- A row with one value replaced, if it has the given key. -/
def overwritten (t : T) (key : Value) (c : String) (v : Value) (r : Row) : Row :=
  if S.weight (r (S.primaryKey t)) = S.weight key then Function.update r c v else r

lemma overwritten_key {t : T} {c : String} (hc : c ≠ S.primaryKey t) (key v : Value) (r : Row) :
    overwritten S t key c v r (S.primaryKey t) = r (S.primaryKey t) := by
  unfold overwritten
  split_ifs
  · exact Function.update_of_ne (Ne.symm hc) _ _
  · rfl

lemma overwritten_twice {t : T} {c : String} (hc : c ≠ S.primaryKey t) (key v : Value) (r : Row) :
    overwritten S t key c v (overwritten S t key c v r) = overwritten S t key c v r := by
  by_cases hkey : S.weight (r (S.primaryKey t)) = S.weight key
  · have hsame : overwritten S t key c v r = Function.update r c v := if_pos hkey
    have hkey' := overwritten_key hc key v r
    rw [hsame] at hkey' ⊢
    unfold overwritten
    rw [hkey', if_pos hkey, Function.update_idem]
  · have hsame : overwritten S t key c v r = r := if_neg hkey
    rw [hsame, hsame]

variable [DecidableEq T]

/-- What the foreign keys of a row refer to is there. -/
def Database.Admits (db : Database S) (t : T) (row : Row) : Prop :=
  ∀ fk ∈ S.foreignKeys, fk.table = t →
    row fk.column = .null ∨ db.HasKey fk.references (row fk.column)

instance (db : Database S) (t : T) (row : Row) : Decidable (db.Admits t row) :=
  inferInstanceAs (Decidable (∀ fk ∈ S.foreignKeys, fk.table = t →
    row fk.column = .null ∨ db.HasKey fk.references (row fk.column)))

def Database.add (db : Database S) (t : T) (row : Row)
    (hnew : ¬db.HasKey t (row (S.primaryKey t))) : Database S where
  rows := Function.update db.rows t (db.rows t ++ [row])
  unique t' := by
    by_cases ht : t' = t
    · subst ht
      rw [Function.update_self, List.map_append, List.nodup_append]
      refine ⟨db.unique t', List.nodup_singleton _, ?_⟩
      rintro _ hr _ hrow rfl
      obtain ⟨r, hr, hkey⟩ := List.mem_map.mp hr
      exact hnew ⟨r, hr, hkey.trans (List.mem_singleton.mp hrow)⟩
    · rw [Function.update_of_ne ht]
      exact db.unique t'

def Database.overwrite (db : Database S) (t : T) (key : Value) (c : String) (v : Value)
    (hc : c ≠ S.primaryKey t) : Database S where
  rows := Function.update db.rows t
    ((db.rows t).map (overwritten S t key c v))
  unique t' := by
    by_cases ht : t' = t
    · subst ht
      rw [Function.update_self, List.map_map]
      simpa only [Function.comp_def, overwritten_key hc] using db.unique t'
    · rw [Function.update_of_ne ht]
      exact db.unique t'

def Database.insert (db : Database S) (t : T) (row : Row) : Option (Database S) :=
  if h : row (S.primaryKey t) ≠ .null ∧ ¬db.HasKey t (row (S.primaryKey t)) ∧ db.Admits t row then
    some (db.add t row h.2.1)
  else none

/-- Updating the key itself is not covered. -/
def Database.upsert (db : Database S) (t : T) (row : Row) (c : String) : Option (Database S) :=
  if h : db.HasKey t (row (S.primaryKey t)) ∧ c ≠ S.primaryKey t then
    some (db.overwrite t (row (S.primaryKey t)) c (row c) h.2)
  else db.insert t row

/-- The foreign key refers to a row that is deleted. -/
def Database.Orphaned (db : Database S) (t : T) (c value : String) (fk : ForeignKey T) (r : Row) :
    Prop :=
  fk.references = t ∧ ∃ gone ∈ db.rows t, S.weight (gone c) = S.weight (.str value) ∧
    S.weight (gone (S.primaryKey t)) = S.weight (r fk.column)

instance (db : Database S) (t : T) (c value : String) (fk : ForeignKey T) (r : Row) :
    Decidable (db.Orphaned t c value fk r) :=
  inferInstanceAs (Decidable (fk.references = t ∧
    ∃ gone ∈ db.rows t, S.weight (gone c) = S.weight (.str value) ∧
      S.weight (gone (S.primaryKey t)) = S.weight (r fk.column)))

/-- A row that goes with a deletion: it is deleted, or a cascading key of it is orphaned. -/
def Database.Goes (db : Database S) (t : T) (c value : String) (t' : T) (r : Row) : Prop :=
  (t' = t ∧ S.weight (r c) = S.weight (.str value)) ∨
    ∃ fk ∈ S.foreignKeys, fk.table = t' ∧ fk.cascade = true ∧ db.Orphaned t c value fk r

instance (db : Database S) (t : T) (c value : String) (t' : T) (r : Row) :
    Decidable (db.Goes t c value t' r) :=
  inferInstanceAs (Decidable ((t' = t ∧ S.weight (r c) = S.weight (.str value)) ∨
    ∃ fk ∈ S.foreignKeys, fk.table = t' ∧ fk.cascade = true ∧ db.Orphaned t c value fk r))

/-- A key that does not cascade would be orphaned. -/
def Database.Restricted (db : Database S) (t : T) (c value : String) : Prop :=
  ∃ fk ∈ S.foreignKeys, fk.cascade = false ∧ ∃ r ∈ db.rows fk.table, db.Orphaned t c value fk r

instance (db : Database S) (t : T) (c value : String) : Decidable (db.Restricted t c value) :=
  inferInstanceAs (Decidable (∃ fk ∈ S.foreignKeys, fk.cascade = false ∧
    ∃ r ∈ db.rows fk.table, db.Orphaned t c value fk r))

def Database.delete (db : Database S) (t : T) (c value : String) : Option (Database S) :=
  if db.Restricted t c value then none
  else some (db.filter fun t' r => !decide (db.Goes t c value t' r))

def Statement.exec (db : Database S) : Statement T → Option (Database S)
  | .insert t values   => db.insert t (Row.of values)
  | .upsert t values c => db.upsert t (Row.of values) c
  | .delete t c value  => db.delete t c value

variable {db db' : Database S} {t t' : T} {row : Row} {c value : String} {stmt : Statement T}
  {mine : T → Row → Bool}

/-! ### What a statement has done -/

lemma Database.insert_spec (h : db.insert t row = some db') :
    ∃ hnew : ¬db.HasKey t (row (S.primaryKey t)),
      row (S.primaryKey t) ≠ .null ∧ db.Admits t row ∧ db' = db.add t row hnew := by
  unfold insert at h
  split_ifs at h with hrow
  cases h
  exact ⟨hrow.2.1, hrow.1, hrow.2.2, rfl⟩

lemma Database.upsert_spec (h : db.upsert t row c = some db') :
    (db.HasKey t (row (S.primaryKey t)) ∧ ∃ hc : c ≠ S.primaryKey t,
      db' = db.overwrite t (row (S.primaryKey t)) c (row c) hc) ∨
    db.insert t row = some db' := by
  unfold upsert at h
  split_ifs at h with hkey
  · cases h
    exact Or.inl ⟨hkey.1, hkey.2, rfl⟩
  · exact Or.inr h

lemma Database.delete_spec (h : db.delete t c value = some db') :
    ¬db.Restricted t c value ∧
      db' = db.filter fun t' r => !decide (db.Goes t c value t' r) := by
  unfold delete at h
  split_ifs at h with hrestricted
  cases h
  exact ⟨hrestricted, rfl⟩

lemma Database.rows_add_self (db : Database S) (t : T) (row : Row)
    (hnew : ¬db.HasKey t (row (S.primaryKey t))) :
    (db.add t row hnew).rows t = db.rows t ++ [row] :=
  Function.update_self _ _ _

lemma Database.rows_add_of_ne (ht : t' ≠ t)
    (hnew : ¬db.HasKey t (row (S.primaryKey t))) : (db.add t row hnew).rows t' = db.rows t' :=
  Function.update_of_ne ht _ _

lemma Database.hasKey_add (hnew : ¬db.HasKey t (row (S.primaryKey t))) :
    (db.add t row hnew).HasKey t (row (S.primaryKey t)) :=
  ⟨row, by rw [rows_add_self]; exact List.mem_append_right _ (List.mem_singleton_self row), rfl⟩

lemma Database.rows_overwrite_self (db : Database S) (key v : Value) (hc : c ≠ S.primaryKey t) :
    (db.overwrite t key c v hc).rows t = (db.rows t).map (overwritten S t key c v) :=
  Function.update_self _ _ _

lemma Database.rows_overwrite_of_ne (ht : t' ≠ t) (key v : Value)
    (hc : c ≠ S.primaryKey t) : (db.overwrite t key c v hc).rows t' = db.rows t' :=
  Function.update_of_ne ht _ _

lemma Database.hasKey_overwrite {key v : Value} (hc : c ≠ S.primaryKey t) (h : db.HasKey t key) :
    (db.overwrite t key c v hc).HasKey t key := by
  obtain ⟨r, hr, hkey⟩ := h
  refine ⟨overwritten S t key c v r, ?_, ?_⟩
  · rw [rows_overwrite_self]
    exact List.mem_map_of_mem hr
  · rw [overwritten_key hc, hkey]

/-! ### The same statement again -/

lemma Database.insert_twice (h : db.insert t row = some db') : db'.insert t row = none := by
  obtain ⟨hnew, -, -, rfl⟩ := insert_spec h
  unfold insert
  exact dif_neg fun hrow => hrow.2.1 (hasKey_add hnew)

lemma Database.upsert_twice (hc : c ≠ S.primaryKey t) (h : db.upsert t row c = some db') :
    db'.upsert t row c = some db' := by
  rcases upsert_spec h with ⟨hkey, hc, rfl⟩ | h
  · unfold upsert
    rw [dif_pos ⟨hasKey_overwrite hc hkey, hc⟩]
    congr 1
    ext1
    funext t'
    by_cases ht : t' = t
    · subst ht
      rw [rows_overwrite_self, rows_overwrite_self, List.map_map]
      exact List.map_congr_left fun r _ => overwritten_twice hc _ _ r
    · rw [rows_overwrite_of_ne ht]
  · obtain ⟨hnew, -, -, rfl⟩ := insert_spec h
    unfold upsert
    rw [dif_pos ⟨hasKey_add hnew, hc⟩]
    congr 1
    ext1
    funext t'
    by_cases ht : t' = t
    · subst ht
      rw [rows_overwrite_self, rows_add_self]
      refine (List.map_congr_left fun r hr => ?_).trans (List.map_id _)
      unfold overwritten
      split_ifs with hkey
      · rcases List.mem_append.mp hr with hr | hr
        · exact absurd ⟨r, hr, hkey⟩ hnew
        · obtain rfl := List.mem_singleton.mp hr
          exact Function.update_eq_self _ _
      · rfl
    · rw [rows_overwrite_of_ne ht]

/-- Nothing is left that goes with the deletion. -/
lemma Database.not_orphaned_of_delete (h : db.delete t c value = some db') (fk : ForeignKey T)
    (r : Row) : ¬db'.Orphaned t c value fk r := by
  obtain ⟨-, rfl⟩ := delete_spec h
  rintro ⟨-, gone, hgone, hvalue, -⟩
  rw [rows_filter, List.mem_filter] at hgone
  have : db.Goes t c value t gone := Or.inl ⟨rfl, hvalue⟩
  simp [this] at hgone

lemma Database.delete_twice (h : db.delete t c value = some db') :
    db'.delete t c value = some db' := by
  have hnone := not_orphaned_of_delete h
  have hfree : ¬db'.Restricted t c value := by
    rintro ⟨fk, -, -, r, -, horphaned⟩
    exact hnone fk r horphaned
  unfold delete
  rw [if_neg hfree]
  congr 1
  ext1
  funext t'
  rw [rows_filter, List.filter_eq_self]
  intro r hr
  have hstays : ¬db'.Goes t c value t' r := by
    rintro (⟨rfl, hvalue⟩ | ⟨fk, -, -, -, horphaned⟩)
    · obtain ⟨-, rfl⟩ := delete_spec h
      rw [rows_filter, List.mem_filter] at hr
      have : db.Goes t' c value t' r := Or.inl ⟨rfl, hvalue⟩
      simp [this] at hr
    · exact hnone fk r horphaned
  simp [hstays]

/-- A statement that is sent again is rejected or changes nothing. -/
lemma Statement.exec_twice (h : stmt.exec db = some db') :
    stmt.exec db' = none ∨ stmt.exec db' = some db' := by
  cases stmt with
  | insert t values => exact Or.inl (Database.insert_twice h)
  | upsert t values c =>
    by_cases hc : c = S.primaryKey t
    · have hinsert : ∀ db : Database S,
          db.upsert t (Row.of values) c = db.insert t (Row.of values) :=
        fun db => dif_neg fun hkey => hkey.2 hc
      have hfirst : db.insert t (Row.of values) = some db' := (hinsert db).symm.trans h
      exact Or.inl ((hinsert db').trans (Database.insert_twice hfirst))
    · exact Or.inr (Database.upsert_twice hc h)
  | delete t c value => exact Or.inr (Database.delete_twice h)

/-! ### Frames -/

variable (S) in
/-- A statement that neither writes rows of mine nor needs them. -/
def Statement.Apart (mine : T → Row → Bool) : Statement T → Prop
  | .insert t values   => mine t (Row.of values) = false ∧
      ∀ fk ∈ S.foreignKeys, fk.table = t → ∀ r : Row,
        S.weight (r (S.primaryKey fk.references)) = S.weight (Row.of values fk.column) →
          mine fk.references r = false
  | .upsert t values c => mine t (Row.of values) = false ∧
      (∀ fk ∈ S.foreignKeys, fk.table = t → ∀ r : Row,
        S.weight (r (S.primaryKey fk.references)) = S.weight (Row.of values fk.column) →
          mine fk.references r = false) ∧
      ∀ r : Row, S.weight (r (S.primaryKey t)) = S.weight (Row.of values (S.primaryKey t)) →
        mine t r = false ∧ mine t (Function.update r c (Row.of values c)) = false
  | .delete t c value  => ∀ fk ∈ S.foreignKeys, fk.references = t → fk.cascade = true →
      ∀ gone r : Row, S.weight (gone c) = S.weight (.str value) → mine t gone = true →
        S.weight (gone (S.primaryKey t)) = S.weight (r fk.column) → mine fk.table r = true

variable (S) in
/-- A statement that writes rows of mine only. -/
def Statement.Within (mine : T → Row → Bool) : Statement T → Prop
  | .insert t values   => mine t (Row.of values) = true
  | .upsert t values c => mine t (Row.of values) = true ∧
      ∀ r : Row, S.weight (r (S.primaryKey t)) = S.weight (Row.of values (S.primaryKey t)) →
        mine t r = true ∧ mine t (Function.update r c (Row.of values c)) = true
  | .delete t c value  =>
      (∀ r : Row, S.weight (r c) = S.weight (.str value) → mine t r = true) ∧
      ∀ fk ∈ S.foreignKeys, fk.references = t → fk.cascade = true →
        ∀ gone r : Row, S.weight (gone c) = S.weight (.str value) →
          S.weight (gone (S.primaryKey t)) = S.weight (r fk.column) → mine fk.table r = true

lemma Database.insert_apart (hmine : mine t row = false)
    (hrefs : ∀ fk ∈ S.foreignKeys, fk.table = t → ∀ r : Row,
      S.weight (r (S.primaryKey fk.references)) = S.weight (row fk.column) →
        mine fk.references r = false)
    (h : db.insert t row = some db') :
    (db.without mine).insert t row = some (db'.without mine) := by
  obtain ⟨hnew, hnull, hadmits, rfl⟩ := insert_spec h
  have hnew' : ¬(db.without mine).HasKey t (row (S.primaryKey t)) := fun hkey =>
    hnew hkey.of_without
  have hadmits' : (db.without mine).Admits t row := by
    intro fk hfk ht
    rcases hadmits fk hfk ht with hcolumn | ⟨r, hr, hkey⟩
    · exact Or.inl hcolumn
    · exact Or.inr ⟨r, mem_without.mpr ⟨hr, hrefs fk hfk ht r hkey⟩, hkey⟩
  unfold insert
  rw [dif_pos ⟨hnull, hnew', hadmits'⟩]
  congr 1
  ext1
  funext t'
  by_cases ht : t' = t
  · subst ht
    simp [without, rows_add_self, hmine]
  · simp [without, rows_add_of_ne ht]

/-- Overwriting a row outside of the filtered ones. -/
lemma Database.overwrite_without {key v : Value} (hc : c ≠ S.primaryKey t)
    (hrow : ∀ r : Row, S.weight (r (S.primaryKey t)) = S.weight key →
      mine t r = mine t (Function.update r c v)) :
    (db.overwrite t key c v hc).without mine = (db.without mine).overwrite t key c v hc := by
  ext1
  funext t'
  by_cases ht : t' = t
  · subst ht
    rw [without, rows_filter, rows_overwrite_self, rows_overwrite_self, without, rows_filter,
      List.filter_map]
    congr 1
    refine List.filter_congr fun r _ => ?_
    simp only [Function.comp_apply, overwritten]
    split_ifs with hkey
    · rw [hrow r hkey]
    · rfl
  · rw [without, rows_filter, rows_overwrite_of_ne ht, rows_overwrite_of_ne ht, without,
      rows_filter]

/-- A statement that has nothing to do with my rows does the same without them. -/
lemma Statement.exec_apart (ha : stmt.Apart S mine) (h : stmt.exec db = some db') :
    stmt.exec (db.without mine) = some (db'.without mine) := by
  cases stmt with
  | insert t values => exact Database.insert_apart ha.1 ha.2 h
  | upsert t values c =>
    obtain ⟨hmine, hrefs, hrow⟩ := ha
    rcases Database.upsert_spec h with ⟨⟨r, hr, hkey⟩, hc, rfl⟩ | hinsert
    · have hkey' : (db.without mine).HasKey t (Row.of values (S.primaryKey t)) :=
        ⟨r, Database.mem_without.mpr ⟨hr, (hrow r hkey).1⟩, hkey⟩
      rw [Database.overwrite_without hc fun r hkey => (hrow r hkey).1.trans (hrow r hkey).2.symm]
      exact dif_pos ⟨hkey', hc⟩
    · obtain ⟨hnew, -, -, -⟩ := Database.insert_spec hinsert
      have hinsert' := Database.insert_apart hmine hrefs hinsert
      show (db.without mine).upsert t (Row.of values) c = _
      unfold Database.upsert
      rw [dif_neg fun hkey => hnew hkey.1.of_without]
      exact hinsert'
  | delete t c value =>
    obtain ⟨hfree, rfl⟩ := Database.delete_spec h
    have hless : ∀ fk r, (db.without mine).Orphaned t c value fk r →
        db.Orphaned t c value fk r := by
      rintro fk r ⟨hfk, gone, hgone, hvalue, hkey⟩
      exact ⟨hfk, gone, (Database.mem_without.mp hgone).1, hvalue, hkey⟩
    have hfree' : ¬(db.without mine).Restricted t c value := by
      rintro ⟨fk, hfk, hcascade, r, hr, horphaned⟩
      exact hfree ⟨fk, hfk, hcascade, r, (Database.mem_without.mp hr).1, hless fk r horphaned⟩
    have hgoes : ∀ t' r, mine t' r = false →
        ((db.without mine).Goes t c value t' r ↔ db.Goes t c value t' r) := by
      intro t' r hr
      constructor
      · rintro (hdeleted | ⟨fk, hfk, ht, hcascade, horphaned⟩)
        · exact Or.inl hdeleted
        · exact Or.inr ⟨fk, hfk, ht, hcascade, hless fk r horphaned⟩
      · rintro (hdeleted | ⟨fk, hfk, rfl, hcascade, hrefs, gone, hgone, hvalue, hkey⟩)
        · exact Or.inl hdeleted
        · refine Or.inr ⟨fk, hfk, rfl, hcascade, hrefs, gone, ?_, hvalue, hkey⟩
          refine Database.mem_without.mpr ⟨hgone, ?_⟩
          by_contra hnot
          have := ha fk hfk hrefs hcascade gone r hvalue (by simpa using hnot) hkey
          rw [hr] at this
          cases this
    show (db.without mine).delete t c value = _
    unfold Database.delete
    rw [if_neg hfree']
    congr 1
    ext1
    funext t'
    simp only [Database.without, Database.rows_filter, List.filter_filter]
    refine List.filter_congr fun r _ => ?_
    cases hr : mine t' r with
    | true => simp
    | false =>
      have := hgoes t' r hr
      simp only [Database.without] at this
      simp [this]

lemma Database.insert_within (hmine : mine t row = true) (h : db.insert t row = some db') :
    db'.without mine = db.without mine := by
  obtain ⟨hnew, -, -, rfl⟩ := insert_spec h
  ext1
  funext t'
  by_cases ht : t' = t
  · subst ht
    simp [without, rows_add_self, hmine]
  · simp [without, rows_add_of_ne ht]

/-- A statement that writes my rows only leaves the others as they are. -/
lemma Statement.exec_within (hw : stmt.Within S mine) (h : stmt.exec db = some db') :
    db'.without mine = db.without mine := by
  cases stmt with
  | insert t values => exact Database.insert_within hw h
  | upsert t values c =>
    obtain ⟨hmine, hrow⟩ := hw
    rcases Database.upsert_spec h with ⟨-, hc, rfl⟩ | hinsert
    · rw [Database.overwrite_without hc fun r hkey => (hrow r hkey).1.trans (hrow r hkey).2.symm]
      ext1
      funext t'
      by_cases ht : t' = t
      · subst ht
        rw [Database.rows_overwrite_self]
        refine (List.map_congr_left fun r hr => ?_).trans (List.map_id _)
        have hnot := (Database.mem_without.mp hr).2
        unfold overwritten
        split_ifs with hkey
        · rw [(hrow r hkey).1] at hnot
          cases hnot
        · rfl
      · rw [Database.rows_overwrite_of_ne ht]
    · exact Database.insert_within hmine hinsert
  | delete t c value =>
    obtain ⟨hrows, hcascades⟩ := hw
    obtain ⟨-, rfl⟩ := Database.delete_spec h
    ext1
    funext t'
    simp only [Database.without, Database.rows_filter, List.filter_filter]
    refine List.filter_congr fun r _ => ?_
    cases hr : mine t' r with
    | true => simp
    | false =>
      have hstays : ¬db.Goes t c value t' r := by
        rintro (⟨rfl, hvalue⟩ | ⟨fk, hfk, rfl, hcascade, hrefs, gone, -, hvalue, hkey⟩)
        · rw [hrows r hvalue] at hr
          cases hr
        · rw [hcascades fk hfk hrefs hcascade gone r hvalue hkey] at hr
          cases hr
      simp [hstays]

/-! ### What every row satisfies -/

variable (S) in
/-- The rows of one table that a statement writes satisfy `P`. -/
def Statement.Writes (t : T) (P : Row → Prop) : Statement T → Prop
  | .insert t' values   => t' = t → P (Row.of values)
  | .upsert t' values c => t' = t → P (Row.of values) ∧
      ∀ r : Row, S.weight (r (S.primaryKey t')) = S.weight (Row.of values (S.primaryKey t')) →
        P r → P (Function.update r c (Row.of values c))
  | .delete _ _ _       => True

variable {P : Row → Prop}

lemma Database.insert_forall (hrow : t' = t → P row) (h : db.insert t' row = some db')
    (hdb : ∀ r ∈ db.rows t, P r) : ∀ r ∈ db'.rows t, P r := by
  intro r hr
  obtain ⟨hnew, -, -, rfl⟩ := insert_spec h
  by_cases ht : t = t'
  · subst ht
    rw [rows_add_self] at hr
    rcases List.mem_append.mp hr with hr | hr
    · exact hdb r hr
    · obtain rfl := List.mem_singleton.mp hr
      exact hrow rfl
  · rw [rows_add_of_ne ht] at hr
    exact hdb r hr

lemma Statement.exec_forall (hw : stmt.Writes S t P) (h : stmt.exec db = some db')
    (hdb : ∀ r ∈ db.rows t, P r) : ∀ r ∈ db'.rows t, P r := by
  cases stmt with
  | insert t' values => exact Database.insert_forall hw h hdb
  | upsert t' values c =>
    rcases Database.upsert_spec h with ⟨-, hc, rfl⟩ | h
    · intro r hr
      by_cases ht : t = t'
      · subst ht
        rw [Database.rows_overwrite_self] at hr
        obtain ⟨r₀, hr₀, rfl⟩ := List.mem_map.mp hr
        unfold overwritten
        split_ifs with hkey
        · exact (hw rfl).2 r₀ hkey (hdb r₀ hr₀)
        · exact hdb r₀ hr₀
      · rw [Database.rows_overwrite_of_ne ht] at hr
        exact hdb r hr
    · exact Database.insert_forall (fun ht => (hw ht).1) h hdb
  | delete t' c value =>
    obtain ⟨-, rfl⟩ := Database.delete_spec h
    exact fun r hr => hdb r (List.mem_of_mem_filter hr)

end Core.Sql
