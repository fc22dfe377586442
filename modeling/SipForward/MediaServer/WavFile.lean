import SipForward.Core.Riff
import SipForward.MediaServer.Ringing

/-!
# Recordings as WAVE files

`convertToWav` puts a header of 44 bytes in front of the samples. What it writes is read back by a
reader of WAVE files, and by `loadRingingFile`, which skips the header without looking at it.
-/

namespace MediaServer.WavFile

open Core.Riff
open MediaPort (sampleBytes readSamples RingingAudioProvider)
open Recording (toSamples)
open Transfers (ringingFile load)

/-! ### The encoder -/

/-- `WavHeader`, laid out without padding. -/
structure WavHeader where
  riffHeader : List UInt8 := tag "RIFF"
  wavSize : UInt32
  waveHeader : List UInt8 := tag "WAVE"
  fmtHeader : List UInt8 := tag "fmt "
  fmtChunkSize : UInt32 := 16
  audioFormat : UInt16 := 1
  numChannels : UInt16 := 1
  sampleRate : UInt32
  byteRate : UInt32
  blockAlign : UInt16
  bitDepth : UInt16 := 16
  dataHeader : List UInt8 := tag "data"
  dataBytes : UInt32

/-- The header in memory. -/
def WavHeader.bytes (h : WavHeader) : List UInt8 :=
  h.riffHeader ++ bytes32 h.wavSize ++ h.waveHeader ++
  h.fmtHeader ++ bytes32 h.fmtChunkSize ++ bytes16 h.audioFormat ++ bytes16 h.numChannels ++
    bytes32 h.sampleRate ++ bytes32 h.byteRate ++ bytes16 h.blockAlign ++ bytes16 h.bitDepth ++
  h.dataHeader ++ bytes32 h.dataBytes

/-- `sizeof(WavHeader)`. -/
def sizeofWavHeader : ℕ := 44

/-- The header for this many samples. -/
def header (samples sampleRate : ℕ) : WavHeader :=
  let numChannels : UInt16 := 1
  let bitDepth : UInt16 := 16
  let blockAlign := numChannels * (bitDepth / 8)
  let dataBytes := UInt32.ofNat (samples * 2)
  { sampleRate := UInt32.ofNat sampleRate
    blockAlign := blockAlign
    byteRate := UInt32.ofNat sampleRate * blockAlign.toUInt32
    dataBytes := dataBytes
    wavSize := UInt32.ofNat (dataBytes.toNat + sizeofWavHeader - 8) }

/-- `R2Uploader::convertToWav`. -/
def convertToWav (rawData : List Int16) (sampleRate : ℕ) : List UInt8 :=
  let h := header rawData.length sampleRate
  h.bytes ++ (rawData.flatMap sampleBytes).take h.dataBytes.toNat

/-! ### Reading it back -/

variable {rawData : List Int16} {sampleRate : ℕ}

/-- The data of the chunk `fmt `. -/
def WavHeader.format (h : WavHeader) : List UInt8 :=
  bytes16 h.audioFormat ++ (bytes16 h.numChannels ++ (bytes32 h.sampleRate ++
    (bytes32 h.byteRate ++ (bytes16 h.blockAlign ++ bytes16 h.bitDepth))))

lemma header_dataBytes (hsize : 44 + 2 * rawData.length < 2 ^ 32) (sampleRate : ℕ) :
    (header rawData.length sampleRate).dataBytes.toNat = 2 * rawData.length := by
  have hmod : rawData.length * 2 % 2 ^ 32 = rawData.length * 2 := Nat.mod_eq_of_lt (by omega)
  simp only [header, UInt32.toNat_ofNat', hmod]
  omega

lemma header_wavSize (hsize : 44 + 2 * rawData.length < 2 ^ 32) (sampleRate : ℕ) :
    (header rawData.length sampleRate).wavSize.toNat = 36 + 2 * rawData.length := by
  have hdata := header_dataBytes hsize sampleRate
  simp only [header, sizeofWavHeader, UInt32.toNat_ofNat'] at hdata ⊢
  rw [hdata, Nat.mod_eq_of_lt] <;> omega

lemma header_sampleRate (samples : ℕ) (hrate : sampleRate < 2 ^ 31) :
    (header samples sampleRate).sampleRate.toNat = sampleRate := by
  simp only [header, UInt32.toNat_ofNat']
  exact Nat.mod_eq_of_lt (by omega)

lemma header_byteRate (samples : ℕ) (hrate : sampleRate < 2 ^ 31) :
    (header samples sampleRate).byteRate.toNat = 2 * sampleRate := by
  have hrate' := header_sampleRate samples hrate
  have hblock : ((1 : UInt16) * (16 / 8)).toUInt32.toNat = 2 := by decide
  simp only [header, UInt32.toNat_mul] at hrate' ⊢
  rw [hrate', hblock, Nat.mod_eq_of_lt] <;> omega

/-- The samples are copied whole. -/
lemma convertToWav_eq (hsize : 44 + 2 * rawData.length < 2 ^ 32) (sampleRate : ℕ) :
    convertToWav rawData sampleRate =
      (header rawData.length sampleRate).bytes ++ rawData.flatMap sampleBytes := by
  simp only [convertToWav, header_dataBytes hsize]
  rw [List.take_of_length_le]
  rw [MediaPort.length_flatMap_sampleBytes]

/-- The file, chunk by chunk. -/
lemma bytes_eq (samples sampleRate : ℕ) (data : List UInt8) :
    (header samples sampleRate).bytes ++ data =
      tag "RIFF" ++ (bytes32 (header samples sampleRate).wavSize ++ (tag "WAVE" ++
        (tag "fmt " ++ (bytes32 16 ++ ((header samples sampleRate).format ++
          (tag "data" ++ (bytes32 (header samples sampleRate).dataBytes ++ (data ++ [])))))))) := by
  simp only [WavHeader.bytes, WavHeader.format, header, List.append_assoc, List.append_nil]

@[simp] lemma length_bytes (samples sampleRate : ℕ) :
    (header samples sampleRate).bytes.length = sizeofWavHeader := rfl

@[simp] lemma length_format (samples sampleRate : ℕ) :
    (header samples sampleRate).format.length = 16 := rfl

lemma readFormat_header (samples : ℕ) (hrate : sampleRate < 2 ^ 31) :
    readFormat (header samples sampleRate).format =
      ⟨1, 1, sampleRate, 2 * sampleRate, 2, 16⟩ := by
  rw [Format.mk.injEq]
  refine ⟨littleEndian_bytes16 1, littleEndian_bytes16 1, ?_, ?_, littleEndian_bytes16 2,
    littleEndian_bytes16 16⟩
  · exact (littleEndian_bytes32 _).trans (header_sampleRate samples hrate)
  · exact (littleEndian_bytes32 _).trans (header_byteRate samples hrate)

/-- What the reader finds in a file of these samples. -/
def wave (rawData : List Int16) (sampleRate : ℕ) : Wave where
  riffSize := 36 + 2 * rawData.length
  format := ⟨1, 1, sampleRate, 2 * sampleRate, 2, 16⟩
  data := rawData.flatMap sampleBytes

lemma parse_convertToWav (hsize : 44 + 2 * rawData.length < 2 ^ 32)
    (hrate : sampleRate < 2 ^ 31) :
    parse (convertToWav rawData sampleRate) = some (wave rawData sampleRate) := by
  have hlength := MediaPort.length_flatMap_sampleBytes rawData
  have hdata := (littleEndian_bytes32 _).trans (header_dataBytes hsize sampleRate)
  have hriff := (littleEndian_bytes32 _).trans (header_wavSize hsize sampleRate)
  have hchunk : chunks (tag "data" ++ (bytes32 (header rawData.length sampleRate).dataBytes ++
      (rawData.flatMap sampleBytes ++ []))) =
        some [⟨tag "data", rawData.flatMap sampleBytes⟩] := by
    rw [chunks_cons (by decide) (length_bytes32 _) (by omega) (by omega), chunks_nil]
    rfl
  rw [convertToWav_eq hsize, bytes_eq]
  refine @parse_eq _ _ _ _ [⟨tag "fmt ", (header rawData.length sampleRate).format⟩,
    ⟨tag "data", rawData.flatMap sampleBytes⟩] _ (length_bytes32 _) ?_ ?_ rfl
      (length_format _ _) rfl ?_ ?_
  · rw [hriff]
    simp only [List.length_append, length_bytes32, length_format, hlength, List.length_nil]
    have : (tag "fmt ").length = 4 := rfl
    have : (tag "data").length = 4 := rfl
    omega
  · have hsixteen := (littleEndian_bytes32 16).trans (length_format rawData.length sampleRate).symm
    rw [chunks_cons (by decide) (length_bytes32 _) hsixteen (by rw [length_format]), hchunk]
    rfl
  · rw [hriff, readFormat_header _ hrate]
    rfl
  · constructor
    · rfl
    · rfl
    · exact Nat.mul_comm 2 sampleRate
    · simp only [wave, hlength]
      omega

/-- A recording is a PCM file with one channel of 16 bits at the given rate, and its samples are
read back from it, by a reader of WAVE files and by `loadRingingFile`. -/
theorem wav_round_trip (rawData : List Int16) (sampleRate : ℕ)
    (hsize : 44 + 2 * rawData.length < 2 ^ 32) (hrate : sampleRate < 2 ^ 31) :
    (convertToWav rawData sampleRate).length = 44 + 2 * rawData.length ∧
    (∃ w, parse (convertToWav rawData sampleRate) = some w ∧
      w.format.numChannels = 1 ∧ w.format.bitDepth = 16 ∧ w.format.sampleRate = sampleRate ∧
      w.format.byteRate = 2 * sampleRate ∧ w.format.blockAlign = 2 ∧
      w.riffSize = (convertToWav rawData sampleRate).length - 8 ∧
      w.data.length = 2 * rawData.length ∧ toSamples w.data = rawData) ∧
    ∀ (p : RingingAudioProvider) (rate : Int) (files : String → Option (List UInt8))
      (filePath : String), ringingFile rate = some filePath →
        files filePath = some (convertToWav rawData sampleRate) →
          (p.loadRingingFile rate files).2.ringingBuffer = rawData := by
  have hlength : (convertToWav rawData sampleRate).length = 44 + 2 * rawData.length := by
    rw [convertToWav_eq hsize, List.length_append, length_bytes,
      MediaPort.length_flatMap_sampleBytes]
    rfl
  refine ⟨hlength, ⟨wave rawData sampleRate, parse_convertToWav hsize hrate, rfl, rfl, rfl, rfl,
    rfl, ?_, MediaPort.length_flatMap_sampleBytes rawData, MediaPort.toSamples_flatMap rawData⟩, ?_⟩
  · simp only [hlength, wave]
    omega
  · intro p rate files filePath hpath hfile
    have hread : readSamples (convertToWav rawData sampleRate) = rawData := by
      have hheader : (header rawData.length sampleRate).bytes.length = 44 := length_bytes _ _
      rw [readSamples, convertToWav_eq hsize, ← hheader, List.drop_left,
        MediaPort.toSamples_flatMap]
    simp only [RingingAudioProvider.loadRingingFile, hpath, hfile, hread, load]
    split_ifs with hempty
    · exact hempty.symm
    · rfl

/-- Three samples at 8000 Hz. -/
theorem wav_round_trip_sample : (convertToWav [1, -2, 300] 8000).length = 44 + 2 * 3 :=
  (wav_round_trip [1, -2, 300] 8000 (by decide) (by decide)).1

end MediaServer.WavFile
