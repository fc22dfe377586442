import Mathlib.Data.List.Basic
import Mathlib.Tactic.Lemma

/-!
# WAVE files

A reader of RIFF files with PCM samples. The file is one chunk that holds the others; a chunk has a
name of four bytes, the length of its data in four bytes, and the data, with a byte of padding where
the length is odd. Numbers have their low byte first.
-/

namespace Core.Riff

/-! ### Numbers -/

/-- The number that the bytes stand for. -/
def littleEndian : List UInt8 → ℕ
  | []           => 0
  | byte :: rest => byte.toNat + 256 * littleEndian rest

/-- A 16-bit number in memory. -/
def bytes16 (v : UInt16) : List UInt8 := [v.toUInt8, (v >>> 8).toUInt8]

/-- A 32-bit number in memory. -/
def bytes32 (v : UInt32) : List UInt8 :=
  [v.toUInt8, (v >>> 8).toUInt8, (v >>> 16).toUInt8, (v >>> 24).toUInt8]

@[simp] lemma length_bytes16 (v : UInt16) : (bytes16 v).length = 2 := rfl

@[simp] lemma length_bytes32 (v : UInt32) : (bytes32 v).length = 4 := rfl

@[simp] lemma littleEndian_bytes16 (v : UInt16) : littleEndian (bytes16 v) = v.toNat := by
  have hlt : v.toNat < 65536 := v.toNat_lt
  simp only [littleEndian, bytes16, UInt16.toNat_toUInt8, UInt16.toNat_shiftRight,
    Nat.shiftRight_eq_div_pow, UInt16.toNat_ofNat, Nat.reducePow, Nat.reduceMod]
  omega

@[simp] lemma littleEndian_bytes32 (v : UInt32) : littleEndian (bytes32 v) = v.toNat := by
  have hlt : v.toNat < 4294967296 := v.toNat_lt
  simp only [littleEndian, bytes32, UInt32.toNat_toUInt8, UInt32.toNat_shiftRight,
    Nat.shiftRight_eq_div_pow, UInt32.toNat_ofNat, Nat.reducePow, Nat.reduceMod]
  omega

/-! ### Chunks -/

/-- The four bytes of a name. -/
def tag (name : String) : List UInt8 := name.toList.map fun c => c.toNat.toUInt8

structure Chunk where
  id : List UInt8
  data : List UInt8
deriving DecidableEq

/-- The chunks one after the other; `none` when one of them ends early. -/
def chunks (bytes : List UInt8) : Option (List Chunk) :=
  if bytes = [] then some []
  else
    let size := littleEndian ((bytes.drop 4).take 4)
    let stored := 8 + size + size % 2
    if bytes.length < stored then none
    else
      (chunks (bytes.drop stored)).map (⟨bytes.take 4, (bytes.drop 8).take size⟩ :: ·)
termination_by bytes.length
decreasing_by
  have := List.length_pos_of_ne_nil ‹bytes ≠ []›
  rw [List.length_drop]
  omega

/-- The first chunk of a name. -/
def lookup (name : String) (cs : List Chunk) : Option (List UInt8) :=
  (cs.find? (·.id = tag name)).map Chunk.data

@[simp] lemma chunks_nil : chunks [] = some [] := by
  rw [chunks, if_pos rfl]

/-- A chunk of even length before the others. -/
lemma chunks_cons {id size data : List UInt8} (hid : id.length = 4) (hsize : size.length = 4)
    (hdata : littleEndian size = data.length) (heven : data.length % 2 = 0) (rest : List UInt8) :
    chunks (id ++ (size ++ (data ++ rest))) = (chunks rest).map (⟨id, data⟩ :: ·) := by
  have hne : id ++ (size ++ (data ++ rest)) ≠ [] := by
    intro hnil
    rw [List.append_eq_nil_iff] at hnil
    rw [hnil.1] at hid
    cases hid
  have hsizeAt : ((id ++ (size ++ (data ++ rest))).drop 4).take 4 = size := by
    rw [← hid, List.drop_left, hid, ← hsize, List.take_left]
  have hdataAt : (id ++ (size ++ (data ++ rest))).drop 8 = data ++ rest := by
    rw [show 8 = id.length + 4 by omega, List.drop_length_add_append, ← hsize, List.drop_left]
  have hrest : (id ++ (size ++ (data ++ rest))).drop (8 + data.length) = rest := by
    rw [← List.drop_drop, hdataAt, List.drop_left]
  rw [chunks, if_neg hne]
  simp only [hsizeAt, hdata, heven, Nat.add_zero, hdataAt, hrest, List.take_left]
  rw [if_neg (by simp only [List.length_append]; omega), ← hid, List.take_left]

/-! ### Files -/

/-- What the chunk `fmt ` of a PCM file says. -/
structure Format where
  audioFormat : ℕ
  numChannels : ℕ
  sampleRate : ℕ
  byteRate : ℕ
  blockAlign : ℕ
  bitDepth : ℕ
deriving DecidableEq

def readFormat (data : List UInt8) : Format where
  audioFormat := littleEndian (data.take 2)
  numChannels := littleEndian ((data.drop 2).take 2)
  sampleRate := littleEndian ((data.drop 4).take 4)
  byteRate := littleEndian ((data.drop 8).take 4)
  blockAlign := littleEndian ((data.drop 12).take 2)
  bitDepth := littleEndian ((data.drop 14).take 2)

structure Wave where
  riffSize : ℕ
  format : Format
  data : List UInt8
deriving DecidableEq

/-- The numbers agree with each other, and the data is a number of whole blocks. -/
structure Wave.Consistent (w : Wave) : Prop where
  pcm : w.format.audioFormat = 1
  blockAlign : w.format.blockAlign * 8 = w.format.numChannels * w.format.bitDepth
  byteRate : w.format.byteRate = w.format.sampleRate * w.format.blockAlign
  whole : w.data.length % w.format.blockAlign = 0

instance (w : Wave) : Decidable w.Consistent :=
  decidable_of_iff (w.format.audioFormat = 1 ∧
      w.format.blockAlign * 8 = w.format.numChannels * w.format.bitDepth ∧
      w.format.byteRate = w.format.sampleRate * w.format.blockAlign ∧
      w.data.length % w.format.blockAlign = 0)
    ⟨fun ⟨h₁, h₂, h₃, h₄⟩ => ⟨h₁, h₂, h₃, h₄⟩, fun ⟨h₁, h₂, h₃, h₄⟩ => ⟨h₁, h₂, h₃, h₄⟩⟩

/-- The PCM file that the bytes are. -/
def parse (bytes : List UInt8) : Option Wave := do
  let riffSize := littleEndian ((bytes.drop 4).take 4)
  guard (bytes.take 4 = tag "RIFF" ∧ riffSize + 8 = bytes.length ∧
    (bytes.drop 8).take 4 = tag "WAVE")
  let cs ← chunks (bytes.drop 12)
  let format ← lookup "fmt " cs
  guard (format.length = 16)
  let data ← lookup "data" cs
  let wave : Wave := ⟨riffSize, readFormat format, data⟩
  guard wave.Consistent
  some wave

lemma guard_of {p : Prop} [Decidable p] (h : p) : (guard p : Option Unit) = some () := if_pos h

/-- A file whose chunks are known. -/
lemma parse_eq {size body format data : List UInt8} {cs : List Chunk} {w : Wave}
    (hsize : size.length = 4) (hlength : littleEndian size = body.length + 4)
    (hcs : chunks body = some cs) (hformat : lookup "fmt " cs = some format)
    (hsixteen : format.length = 16) (hdata : lookup "data" cs = some data)
    (hw : w = ⟨littleEndian size, readFormat format, data⟩) (hc : w.Consistent) :
    parse (tag "RIFF" ++ (size ++ (tag "WAVE" ++ body))) = some w := by
  have hriff : (tag "RIFF").length = 4 := by decide
  have hwave : (tag "WAVE").length = 4 := by decide
  have hafter : (tag "RIFF" ++ (size ++ (tag "WAVE" ++ body))).drop 8 = tag "WAVE" ++ body := by
    rw [show 8 = (tag "RIFF").length + 4 by rw [hriff], List.drop_length_add_append, ← hsize,
      List.drop_left]
  have hbody : (tag "RIFF" ++ (size ++ (tag "WAVE" ++ body))).drop 12 = body := by
    rw [show 12 = 8 + 4 by rfl, ← List.drop_drop, hafter, ← hwave, List.drop_left]
  have hsizeAt : ((tag "RIFF" ++ (size ++ (tag "WAVE" ++ body))).drop 4).take 4 = size := by
    rw [← hriff, List.drop_left, hriff, ← hsize, List.take_left]
  have hname : (tag "RIFF" ++ (size ++ (tag "WAVE" ++ body))).take 4 = tag "RIFF" := by
    rw [← hriff, List.take_left]
  have htype : (tag "WAVE" ++ body).take 4 = tag "WAVE" := by
    rw [← hwave, List.take_left]
  have hfits : littleEndian size + 8 =
      (tag "RIFF" ++ (size ++ (tag "WAVE" ++ body))).length := by
    simp only [List.length_append, hriff, hwave]
    omega
  subst hw
  rw [parse, hsizeAt, hafter, hbody, guard_of ⟨hname, hfits, htype⟩, hcs, Option.bind_eq_bind,
    Option.bind_some, Option.bind_eq_bind, Option.bind_some, hformat, Option.bind_eq_bind,
    Option.bind_some, guard_of hsixteen, hdata]
  exact congrArg (fun x : Option Unit => x.bind fun _ => some _) (guard_of hc)

end Core.Riff
