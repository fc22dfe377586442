import Mathlib.Data.List.TakeWhile
import Mathlib.Data.Nat.Notation

/-!
# The environment of the media server

`std::getenv`, the number parsers of the C++ library as far as the media server uses them,
and `getEnvString`, `getEnvInt` and `isValidPhoneNumber` of `call_manager.cpp`.
-/

namespace MediaServer

/-- `std::getenv`. -/
abbrev Env := String → Option String

/-! ### Numbers -/

/-- `isspace` in the C locale. -/
def isSpace (c : Char) : Bool :=
  c = ' ' || c = '\t' || c = '\n' || c = '\x0b' || c = '\x0c' || c = '\r'

/-- The value of the digits a text starts with; `none` if there are none. -/
def readDigits (s : List Char) : Option Int :=
  let digits := s.takeWhile Char.isDigit
  if digits = [] then none else some ((Nat.ofDigitChars 10 digits 0 : ℕ) : Int)

/-- The number `strtol` reads in base 10: white space, an optional sign, digits. What follows the
digits is not looked at. -/
def strtol (s : String) : Option Int :=
  match s.toList.dropWhile isSpace with
  | '-' :: rest => (readDigits rest).map fun v => -v
  | '+' :: rest => readDigits rest
  | rest        => readDigits rest

/-- `std::atoi`. A value beyond the range of `int`, for which C++ defines nothing, is returned as it
is. -/
def atoi (s : String) : Int := (strtol s).getD 0

/-- `std::stoi`; the error stands for the exception. -/
def stoi (s : String) : Except String Int :=
  match strtol s with
  | none   => .error "stoi"
  | some v => if -2147483648 ≤ v ∧ v ≤ 2147483647 then .ok v else .error "stoi"

/-- `CallManager::isValidPhoneNumber`. -/
def isValidPhoneNumber (number : String) : Bool :=
  number.toList.all Char.isDigit && decide (10 ≤ number.length) && decide (number.length ≤ 15)

/-! ### Settings -/

/-- `CallManager::getEnvString`. -/
def getEnvString (env : Env) (name defaultValue : String) : String :=
  match env name with
  | some value => if value ≠ "" then value else defaultValue
  | none       => defaultValue

/-- `CallManager::getEnvInt`. -/
def getEnvInt (env : Env) (name : String) (defaultValue : Int) : Except String Int :=
  match env name with
  | some value => if value ≠ "" then stoi value else .ok defaultValue
  | none       => .ok defaultValue

/-- The number of threads that `UploadManager` and `WebhookManager` start: 4 if it is not set, and
from 1 to 16. A negative number is a large one after its conversion to `size_t`. -/
def numWorkers (env : Env) (name : String) : ℕ :=
  let n := match env name with
    | some value => (atoi value % 18446744073709551616).toNat
    | none       => 4
  if n < 1 then 1 else if n > 16 then 16 else n

lemma numWorkers_pos (env : Env) (name : String) : 0 < numWorkers env name := by
  unfold numWorkers
  dsimp only
  split_ifs <;> omega

/-- A decimal without sign, and its value. -/
structure IsDecimal (s : String) (v : ℕ) : Prop where
  nonempty : s ≠ ""
  digits : ∀ c ∈ s.toList, c.isDigit = true
  value : Nat.ofDigitChars 10 s.toList 0 = v

lemma isSpace_of_isDigit {c : Char} (h : c.isDigit = true) : isSpace c = false := by
  by_contra hs
  rw [Bool.not_eq_false] at hs
  simp only [isSpace, Bool.or_eq_true, decide_eq_true_eq] at hs
  rcases hs with ((((rfl | rfl) | rfl) | rfl) | rfl) | rfl <;> cases h

lemma readDigits_of_digits {s : List Char} (hne : s ≠ []) (h : ∀ c ∈ s, c.isDigit = true) :
    readDigits s = some ((Nat.ofDigitChars 10 s 0 : ℕ) : Int) := by
  have htake : s.takeWhile Char.isDigit = s := List.takeWhile_eq_self_iff.mpr h
  simp only [readDigits, htake, hne, if_false]

lemma IsDecimal.strtol {s : String} {v : ℕ} (h : IsDecimal s v) : strtol s = some (v : Int) := by
  have hne : s.toList ≠ [] := by
    intro hnil
    exact h.nonempty (String.toList_eq_nil_iff.mp hnil)
  have hread := readDigits_of_digits hne h.digits
  rw [h.value] at hread
  simp only [MediaServer.strtol]
  cases hs : s.toList with
  | nil => exact absurd hs hne
  | cons c rest =>
    have hc := h.digits c (by rw [hs]; exact List.mem_cons_self)
    rw [hs] at hread
    rw [List.dropWhile_cons_of_neg (by rw [isSpace_of_isDigit hc]; exact Bool.false_ne_true)]
    split
    · next heq =>
      cases heq
      cases hc
    · next heq =>
      cases heq
      cases hc
    · exact hread

lemma IsDecimal.atoi {s : String} {v : ℕ} (h : IsDecimal s v) : atoi s = v := by
  rw [MediaServer.atoi, h.strtol, Option.getD_some]

lemma IsDecimal.stoi {s : String} {v : ℕ} (h : IsDecimal s v) (hv : v ≤ 65535) :
    stoi s = .ok (v : Int) := by
  rw [MediaServer.stoi, h.strtol]
  exact if_pos (by omega)

lemma getEnvString_of_some {env : Env} {name value : String} (h : env name = some value)
    (hne : value ≠ "") (defaultValue : String) : getEnvString env name defaultValue = value := by
  simp only [getEnvString, h, if_pos hne]

lemma getEnvInt_of_some {env : Env} {name value : String} (h : env name = some value)
    (hne : value ≠ "") (defaultValue : Int) : getEnvInt env name defaultValue = stoi value := by
  simp only [getEnvInt, h, if_pos hne]

end MediaServer
