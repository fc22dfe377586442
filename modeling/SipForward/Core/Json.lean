import Mathlib.Algebra.Group.Nat.Defs
import Mathlib.Tactic.Lemma
import Mathlib.Tactic.SplitIfs

/-!
# JSON values

Syntax trees of JSON texts, with what two decoders may disagree on kept apart: a string may contain
an escaped lone surrogate or bytes that are not UTF-8, an object may repeat a name, a number keeps
the form in which it was written.
-/

namespace Core

/-- The characters of a JSON string; `none` stands for a lone surrogate or a malformed byte. -/
abbrev Text := List (Option Char)

/-- A JSON number, as written: without fraction and exponent, or as a multiple of a power of ten. -/
inductive Number where
  | integer (v : Int)
  | decimal (mantissa exponent : Int)

/-- A JSON value. -/
inductive Json where
  | null
  | bool (b : Bool)
  | number (n : Number)
  | string (s : Text)
  | array (values : List Json)
  | object (members : List (Text × Json))

/-- A member of an object. -/
abbrev Member := Text × Json

namespace Text

/-- The text with U+FFFD in place of what is malformed. -/
def decode (s : Text) : String := String.ofList (s.map fun c => c.getD '\ufffd')

/-- A text without anything malformed. -/
def ofString (s : String) : Text := s.toList.map some

def wellFormed (s : Text) : Bool := s.all Option.isSome

@[simp] lemma decode_ofString (s : String) : decode (ofString s) = s := by
  have hchars : (s.toList.map some).map (fun c => c.getD '\ufffd') = s.toList := by
    rw [List.map_map]
    exact List.map_id' s.toList
  rw [decode, ofString, hchars, String.ofList_toList]

@[simp] lemma wellFormed_ofString (s : String) : wellFormed (ofString s) = true := by
  simp [wellFormed, ofString]

end Text

namespace Number

/-- Half a unit in the last place above the largest double: what is written as this much or more
is not a finite double. -/
def doubleLimit : ℕ := 2 ^ 1024 - 2 ^ 970

lemma int64_lt_doubleLimit : 2 ^ 63 < doubleLimit := by decide +kernel

/-- The value is not a finite double after rounding. -/
def overflows : Number → Bool
  | .integer v   => doubleLimit ≤ v.natAbs
  | .decimal m e =>
    if 0 ≤ e then doubleLimit ≤ m.natAbs * 10 ^ e.toNat
    else doubleLimit * 10 ^ (-e).toNat ≤ m.natAbs

end Number

namespace Json

mutual

/-- A decoder that rejects malformed strings and numbers beyond the doubles reads the value. -/
def readable : Json → Bool
  | .null           => true
  | .bool _         => true
  | .number n       => !n.overflows
  | .string s       => s.wellFormed
  | .array values   => readableValues values
  | .object members => readableMembers members

def readableValues : List Json → Bool
  | []        => true
  | v :: rest => v.readable && readableValues rest

def readableMembers : List Member → Bool
  | []             => true
  | (k, v) :: rest => k.wellFormed && v.readable && readableMembers rest

end

/-- The value of the last member with a name. -/
def lookupLast (name : String) (members : List Member) : Option Json :=
  members.foldl (fun found m => if m.1.decode = name then some m.2 else found) none

lemma foldl_lookup_mem {name : String} {members : List Member} {found : Option Json} {v : Json}
    (h : members.foldl (fun found m => if m.1.decode = name then some m.2 else found) found =
      some v) : found = some v ∨ ∃ m ∈ members, m.1.decode = name ∧ m.2 = v := by
  induction members generalizing found with
  | nil => exact Or.inl h
  | cons m members ih =>
    rcases ih h with h | ⟨m', hm', hname, hv⟩
    · simp only at h
      split_ifs at h with hname
      · exact Or.inr ⟨m, List.mem_cons_self, hname, Option.some.inj h⟩
      · exact Or.inl h
    · exact Or.inr ⟨m', List.mem_cons_of_mem m hm', hname, hv⟩

/-- A value that is found belongs to a member of that name. -/
lemma lookupLast_mem {name : String} {members : List Member} {v : Json}
    (h : lookupLast name members = some v) : ∃ m ∈ members, m.1.decode = name ∧ m.2 = v := by
  rcases foldl_lookup_mem h with h | h
  · cases h
  · exact h

/-- `json::type_name`. -/
def typeName : Json → String
  | .null     => "null"
  | .bool _   => "boolean"
  | .number _ => "number"
  | .string _ => "string"
  | .array _  => "array"
  | .object _ => "object"

end Json

end Core
