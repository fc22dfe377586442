import SipForward.MediaServer.AudioMixer
import SipForward.MediaServer.Transfers
import Mathlib.Algebra.GroupWithZero.Nat
import Mathlib.Data.List.GetD
import Mathlib.Data.Stream.Init

/-!
# The ringback tone

The samples of a file are played over and over. The position is kept between the calls of
`getRingingFrame`, which ask for frames of any size, and the samples may be replaced or lost between
two calls. `buffer_mutex` makes each of the operations one step.
-/

namespace MediaServer.MediaPort

open Recording (toSamples)
open Transfers (ringingFile load)

/-! ### Operations -/

lemma inRange_nil (h : ([] : List Int16) ≠ []) : 0 < ([] : List Int16).length := absurd rfl h

/-- A new provider. -/
def RingingAudioProvider.new : RingingAudioProvider := ⟨[], 0, false, inRange_nil⟩

/-- The header of 44 bytes is skipped, then samples are read until the file ends. -/
def readSamples (file : List UInt8) : List Int16 := toSamples (file.drop 44)

/-- `loadRingingFile`, with the files that can be opened. -/
def RingingAudioProvider.loadRingingFile (p : RingingAudioProvider) (sampleRate : Int)
    (files : String → Option (List UInt8)) : Bool × RingingAudioProvider :=
  match ringingFile sampleRate with
  | none          => (false, p)
  | some filePath =>
    match files filePath with
    | none      => (false, p)
    | some file => (decide (readSamples file ≠ []), load p (readSamples file))

def RingingAudioProvider.isReady (p : RingingAudioProvider) : Bool :=
  p.loaded && decide (p.ringingBuffer ≠ [])

def RingingAudioProvider.reset (p : RingingAudioProvider) : RingingAudioProvider :=
  { p with currentPosition := 0, inRange := List.length_pos_of_ne_nil }

/-- The positions at which the loop of `getRingingFrame` reads the buffer. -/
def readPositions (buffer : List Int16) : ℕ → ℕ → List ℕ
  | 0, _                        => []
  | samplesNeeded + 1, position =>
    position :: readPositions buffer samplesNeeded (nextPosition buffer position)

/-- The positions at which a call of `getRingingFrame` reads the buffer. -/
def RingingAudioProvider.reads (p : RingingAudioProvider) (frameSize : ℕ) : List ℕ :=
  if p.isReady then readPositions p.ringingBuffer (frameSize / 2) p.currentPosition else []

/-- A call of one of the operations. -/
inductive RingingOp where
  | loadRingingFile (sampleRate : Int) (files : String → Option (List UInt8))
  | getRingingFrame (frameSize : ℕ)
  | reset

/-- The provider after a call, and the frame that it returns. -/
def RingingAudioProvider.step (p : RingingAudioProvider) :
    RingingOp → RingingAudioProvider × List (List UInt8)
  | .loadRingingFile sampleRate files => ((p.loadRingingFile sampleRate files).2, [])
  | .getRingingFrame frameSize        =>
    ((p.getRingingFrame frameSize).2, [(p.getRingingFrame frameSize).1])
  | .reset                            => (p.reset, [])

/-- The provider after calls. -/
def RingingAudioProvider.after (p : RingingAudioProvider) (ops : List RingingOp) :
    RingingAudioProvider := ops.foldl (fun p op => (p.step op).1) p

/-- The frames that calls return. -/
def RingingAudioProvider.heard (p : RingingAudioProvider) : List RingingOp → List (List UInt8)
  | []        => []
  | op :: ops => (p.step op).2 ++ (p.step op).1.heard ops

/-- The call loads a file, which has these samples. -/
def RingingOp.Loads (samples : List Int16) : RingingOp → Prop
  | .loadRingingFile sampleRate files =>
    ∃ filePath file, ringingFile sampleRate = some filePath ∧ files filePath = some file ∧
      readSamples file = samples
  | _ => False

/-- The call is for a frame, or for a file that there is not. -/
def RingingOp.Continues : RingingOp → Prop
  | .loadRingingFile sampleRate files =>
    ∀ filePath, ringingFile sampleRate = some filePath → files filePath = none
  | .getRingingFrame _ => True
  | .reset             => False

/-- The sizes of the frames that are asked for. -/
def frameSizes (ops : List RingingOp) : List ℕ :=
  ops.filterMap fun
    | .getRingingFrame frameSize => some frameSize
    | _                          => none

/-! ### An endless list -/

section Cycle

open Stream'

variable {α : Type*} {l : List α} {n : ℕ}

/-- The element at a place of the list comes first in the cycle from that place on. -/
lemma head_drop_cycle (h : l ≠ []) (hn : n < l.length) :
    ((cycle l h).drop n).head = l[n] := by
  rw [head_drop, cycle_eq, get_append_left n l (cycle l h) hn]

/-- After the last place comes the first. -/
lemma tail_drop_cycle (h : l ≠ []) (hn : n < l.length) :
    ((cycle l h).drop n).tail = (cycle l h).drop (if l.length ≤ n + 1 then 0 else n + 1) := by
  rw [tail_drop']
  split_ifs with hlast
  · obtain hlength : n + 1 = l.length := Nat.le_antisymm hn hlast
    rw [hlength, drop_zero]
    nth_rewrite 1 [cycle_eq]
    exact drop_append_stream l (cycle l h)
  · rfl

end Cycle

/-! ### Frames -/

/-- A sample is read back from its two bytes. -/
lemma joined_bytes (u : UInt16) :
    u.toUInt8.toUInt16 ||| ((u >>> 8).toUInt8.toUInt16 <<< 8) = u := by
  have hlt : u.toNat < 65536 := u.toNat_lt
  have hlow : u.toNat % 256 < 2 ^ 8 := Nat.mod_lt _ (by decide)
  apply UInt16.toNat_inj.mp
  simp only [UInt16.toNat_or, UInt8.toNat_toUInt16, UInt16.toNat_toUInt8, UInt16.toNat_shiftLeft,
    UInt16.toNat_shiftRight, Nat.shiftRight_eq_div_pow, UInt16.toNat_ofNat, Nat.reducePow,
    Nat.reduceMod]
  rw [Nat.mod_eq_of_lt (a := _ <<< 8) (by rw [Nat.shiftLeft_eq]; omega), Nat.or_comm,
    ← Nat.shiftLeft_add_eq_or_of_lt hlow, Nat.shiftLeft_eq]
  omega

lemma toSamples_sampleBytes (sample : Int16) (rest : List UInt8) :
    toSamples (sampleBytes sample ++ rest) = sample :: toSamples rest := by
  rw [sampleBytes, List.cons_append, List.cons_append, List.nil_append, toSamples, joined_bytes]
  rfl

lemma toSamples_append (samples : List Int16) (rest : List UInt8) :
    toSamples (samples.flatMap sampleBytes ++ rest) = samples ++ toSamples rest := by
  induction samples with
  | nil => rfl
  | cons sample samples ih =>
    rw [List.flatMap_cons, List.append_assoc, toSamples_sampleBytes, ih, List.cons_append]

lemma toSamples_flatMap (samples : List Int16) :
    toSamples (samples.flatMap sampleBytes) = samples := by
  simpa [toSamples] using toSamples_append samples []

lemma length_flatMap_sampleBytes (samples : List Int16) :
    (samples.flatMap sampleBytes).length = 2 * samples.length := by
  induction samples with
  | nil => rfl
  | cons sample samples ih =>
    rw [List.flatMap_cons, List.length_append, ih, List.length_cons, sampleBytes,
      List.length_cons, List.length_singleton]
    omega

variable {p : RingingAudioProvider} {buffer samples : List Int16} {position n : ℕ}
  {tone : Stream' Int16} {op : RingingOp} {ops : List RingingOp}

/-- The bytes of the loop are those of the samples at the positions that it reads. -/
lemma ringingLoop_eq (buffer : List Int16) (n position : ℕ) :
    (ringingLoop buffer n position).1 =
      (readPositions buffer n position).flatMap fun i => sampleBytes (buffer.getD i 0) := by
  induction n generalizing position with
  | zero => rfl
  | succ n ih => rw [ringingLoop, readPositions, List.flatMap_cons, ih]

lemma readPositions_lt (hpos : position < buffer.length) :
    ∀ i ∈ readPositions buffer n position, i < buffer.length := by
  induction n generalizing position with
  | zero => simp [readPositions]
  | succ n ih =>
    have hne : buffer ≠ [] := List.ne_nil_of_length_pos (by omega)
    rw [readPositions, List.forall_mem_cons]
    exact ⟨hpos, ih (nextPosition_lt hne position)⟩

/-- The samples at these positions go along their cycle. -/
lemma readPositions_cycle (h : buffer ≠ []) (hpos : position < buffer.length) :
    (readPositions buffer n position).map (fun i => buffer.getD i 0) =
      ((Stream'.cycle buffer h).drop position).take n := by
  induction n generalizing position with
  | zero => rfl
  | succ n ih =>
    have hrest := ih (nextPosition_lt h position)
    rw [nextPosition, ← tail_drop_cycle h hpos] at hrest
    rw [readPositions, List.map_cons, nextPosition, hrest, Stream'.take_succ,
      head_drop_cycle h hpos, List.getD_eq_getElem _ _ hpos]

lemma ringingLoop_position (h : buffer ≠ []) (hpos : position < buffer.length) :
    (Stream'.cycle buffer h).drop (ringingLoop buffer n position).2 =
      ((Stream'.cycle buffer h).drop position).drop n := by
  induction n generalizing position with
  | zero => rfl
  | succ n ih =>
    have hrest := ih (nextPosition_lt h position)
    rw [nextPosition, ← tail_drop_cycle h hpos] at hrest
    rw [ringingLoop, nextPosition, hrest, Stream'.drop_succ]

/-- The loop goes along the cycle of the samples. -/
lemma ringingLoop_cycle (h : buffer ≠ []) (hpos : position < buffer.length) :
    (ringingLoop buffer n position).1 =
        (((Stream'.cycle buffer h).drop position).take n).flatMap sampleBytes ∧
      (Stream'.cycle buffer h).drop (ringingLoop buffer n position).2 =
        ((Stream'.cycle buffer h).drop position).drop n := by
  refine ⟨?_, ringingLoop_position h hpos⟩
  rw [ringingLoop_eq, ← readPositions_cycle h hpos, List.flatMap_map]

/-! ### The tone -/

/-- What is still to come when the provider has samples. -/
def RingingAudioProvider.Plays (p : RingingAudioProvider) (tone : Stream' Int16) : Prop :=
  p.loaded = true ∧ ∃ h : p.ringingBuffer ≠ [],
    tone = (Stream'.cycle p.ringingBuffer h).drop p.currentPosition

/-- There are no samples. -/
def RingingAudioProvider.Silent (p : RingingAudioProvider) : Prop :=
  p.loaded = false ∨ p.ringingBuffer = []

/-- The frames have as many whole samples as were asked for, and are the tone without a gap. -/
structure Continue (tone : Stream' Int16) (sizes : List ℕ) (frames : List (List UInt8)) :
    Prop where
  lengths : frames.map List.length = sizes.map fun size => 2 * (size / 2)
  samples : toSamples frames.flatten = tone.take (sizes.map (· / 2)).sum

lemma RingingAudioProvider.Plays.frame (hp : p.Plays tone) (frameSize : ℕ) :
    (p.getRingingFrame frameSize).1 = (tone.take (frameSize / 2)).flatMap sampleBytes ∧
      (p.getRingingFrame frameSize).2.Plays (tone.drop (frameSize / 2)) := by
  obtain ⟨hloaded, h, rfl⟩ := hp
  obtain ⟨hbytes, hrest⟩ := ringingLoop_cycle (n := frameSize / 2) h (p.inRange h)
  have hready : ¬(p.loaded = false ∨ p.ringingBuffer = []) := by simp [hloaded, h]
  simp only [getRingingFrame, if_neg hready]
  exact ⟨hbytes, hloaded, h, hrest.symm⟩

lemma RingingAudioProvider.Silent.frame (hp : p.Silent) (frameSize : ℕ) :
    p.getRingingFrame frameSize = (List.replicate frameSize 0, p) := if_pos hp

/-- A file that is not there leaves the provider as it is. -/
lemma RingingAudioProvider.step_continues {sampleRate : Int}
    {files : String → Option (List UInt8)}
    (hop : (RingingOp.loadRingingFile sampleRate files).Continues) :
    p.step (.loadRingingFile sampleRate files) = (p, []) := by
  simp only [step, loadRingingFile]
  cases hpath : ringingFile sampleRate with
  | none => rfl
  | some filePath => simp only [hop filePath hpath]

/-- A file that is loaded gives the provider its samples. -/
lemma RingingAudioProvider.step_loads (hop : op.Loads samples) :
    p.step op = (load p samples, []) := by
  cases op with
  | loadRingingFile sampleRate files =>
    obtain ⟨filePath, file, hpath, hfile, rfl⟩ := hop
    simp only [step, loadRingingFile, hpath, hfile]
  | getRingingFrame frameSize => exact hop.elim
  | reset => exact hop.elim

lemma load_plays (p : RingingAudioProvider) (h : samples ≠ []) :
    (load p samples).Plays (Stream'.cycle samples h) := by
  rw [load, dif_neg h]
  exact ⟨rfl, h, rfl⟩

lemma load_silent (p : RingingAudioProvider) : (load p []).Silent := by
  rw [load, dif_pos rfl]
  exact Or.inr rfl

lemma RingingAudioProvider.reset_plays (hp : p.isReady = true) :
    ∃ h : p.ringingBuffer ≠ [], p.reset.Plays (Stream'.cycle p.ringingBuffer h) := by
  rw [isReady, Bool.and_eq_true, decide_eq_true_eq] at hp
  exact ⟨hp.2, hp.1, hp.2, rfl⟩

/-- Frames follow each other in the tone, across any number of calls. -/
lemma RingingAudioProvider.Plays.heard (hp : p.Plays tone) (hops : ∀ op ∈ ops, op.Continues) :
    Continue tone (frameSizes ops) (p.heard ops) := by
  induction ops generalizing p tone with
  | nil => exact ⟨rfl, rfl⟩
  | cons op ops ih =>
    rw [List.forall_mem_cons] at hops
    cases op with
    | loadRingingFile sampleRate files =>
      rw [RingingAudioProvider.heard, step_continues hops.1]
      exact ih hp hops.2
    | getRingingFrame frameSize =>
      obtain ⟨hframe, hnext⟩ := hp.frame frameSize
      obtain ⟨hlengths, hsamples⟩ := ih hnext hops.2
      constructor
      · rw [RingingAudioProvider.heard, step, List.singleton_append, List.map_cons, hlengths,
          hframe, length_flatMap_sampleBytes, Stream'.length_take]
        rfl
      · rw [RingingAudioProvider.heard, step, List.singleton_append, List.flatten_cons, hframe,
          toSamples_append, hsamples, ← Stream'.take_add]
        rfl
    | reset => exact hops.1.elim

lemma RingingAudioProvider.Silent.heard (hp : p.Silent) (hops : ∀ op ∈ ops, op.Continues) :
    p.heard ops = (frameSizes ops).map fun size => List.replicate size 0 := by
  induction ops with
  | nil => rfl
  | cons op ops ih =>
    rw [List.forall_mem_cons] at hops
    cases op with
    | loadRingingFile sampleRate files =>
      rw [RingingAudioProvider.heard, step_continues hops.1]
      exact ih hops.2
    | getRingingFrame frameSize =>
      rw [RingingAudioProvider.heard, step, hp.frame, ih hops.2]
      rfl
    | reset => exact hops.1.elim

/-- After any calls, `getRingingFrame` reads the buffer only where there is a sample. From a file
that is loaded, and from a reset, the tone goes round the samples without a gap, whatever sizes of
frames are asked for and whether or not files are missing in between. A file without samples leaves
silence. -/
theorem ringing_seamless (history later : List RingingOp)
    (hlater : ∀ op ∈ later, op.Continues) :
    let p := RingingAudioProvider.new.after history
    (∀ frameSize, ∀ i ∈ p.reads frameSize, i < p.ringingBuffer.length) ∧
    (∀ op samples, ∀ h : samples ≠ [], op.Loads samples →
      Continue (Stream'.cycle samples h) (frameSizes later) ((p.step op).1.heard later)) ∧
    (p.isReady → ∃ h : p.ringingBuffer ≠ [],
      Continue (Stream'.cycle p.ringingBuffer h) (frameSizes later) (p.reset.heard later)) ∧
    (∀ op, op.Loads [] → (p.step op).1.heard later =
      (frameSizes later).map fun size => List.replicate size 0) := by
  intro p
  refine ⟨fun frameSize i hi => ?_, fun op samples h hop => ?_, fun hready => ?_, fun op hop => ?_⟩
  · rw [RingingAudioProvider.reads] at hi
    split_ifs at hi with hready
    · rw [RingingAudioProvider.isReady, Bool.and_eq_true, decide_eq_true_eq] at hready
      exact readPositions_lt (p.inRange hready.2) i hi
    · cases hi
  · rw [RingingAudioProvider.step_loads hop]
    exact (load_plays p h).heard hlater
  · obtain ⟨h, hplays⟩ := p.reset_plays hready
    exact ⟨h, hplays.heard hlater⟩
  · rw [RingingAudioProvider.step_loads hop]
    exact (load_silent p).heard hlater

/-- Two frames of a file with two samples, with a missing file in between. -/
theorem ringing_seamless_sample :
    Continue (Stream'.cycle [1, 2] (by simp)) [6, 5]
      ((RingingAudioProvider.new.step (.loadRingingFile 8000 fun _ =>
        some (List.replicate 44 0 ++ [1, 0, 2, 0]))).1.heard
          [.getRingingFrame 6, .loadRingingFile 16000 fun _ => none, .getRingingFrame 5]) :=
  (ringing_seamless [] [.getRingingFrame 6, .loadRingingFile 16000 fun _ => none,
    .getRingingFrame 5] (by simp [RingingOp.Continues])).2.1 _ [1, 2] (by simp)
    ⟨_, _, rfl, rfl, by decide⟩

end MediaServer.MediaPort
