import SipForward.MediaServer.Playback

/-!
# Frames for PJSIP

PJSIP copies as many bytes as `frame.size` says into a buffer of a fixed size, so that
`onFrameRequested` must leave exactly the size that it was asked for, whatever it finds: no handler,
the ringback tone, a frame in the queue of any length, or an exception.
-/

namespace MediaServer.MediaPort

open Playback (Frame evenCut getAudioFrame)

/-! ### The ringback tone -/

/-- The samples of the file and the place up to which they were played. -/
structure RingingAudioProvider where
  ringingBuffer : List Int16
  currentPosition : ℕ
  loaded : Bool
  inRange : ringingBuffer ≠ [] → currentPosition < ringingBuffer.length

/-- The low byte of a sample, then its high byte. -/
def sampleBytes (sample : Int16) : List UInt8 :=
  [sample.toUInt16.toUInt8, (sample.toUInt16 >>> 8).toUInt8]

/-- The position after the sample at this one; the tone starts again at its end. -/
def nextPosition (buffer : List Int16) (position : ℕ) : ℕ :=
  if buffer.length ≤ position + 1 then 0 else position + 1

/-- The loop of `getRingingFrame`: the bytes, and the position after them. -/
def ringingLoop (buffer : List Int16) : ℕ → ℕ → List UInt8 × ℕ
  | 0, position                 => ([], position)
  | samplesNeeded + 1, position =>
    let rest := ringingLoop buffer samplesNeeded (nextPosition buffer position)
    (sampleBytes (buffer.getD position 0) ++ rest.1, rest.2)

lemma nextPosition_lt {buffer : List Int16} (h : buffer ≠ []) (position : ℕ) :
    nextPosition buffer position < buffer.length := by
  have hpos := List.length_pos_of_ne_nil h
  unfold nextPosition
  split_ifs <;> omega

lemma ringingLoop_lt {buffer : List Int16} {position : ℕ} (hpos : position < buffer.length)
    (samplesNeeded : ℕ) : (ringingLoop buffer samplesNeeded position).2 < buffer.length := by
  induction samplesNeeded generalizing position with
  | zero => exact hpos
  | succ n ih => exact ih (nextPosition_lt (List.ne_nil_of_length_pos (by omega)) position)

/-- `RingingAudioProvider::getRingingFrame`. -/
def RingingAudioProvider.getRingingFrame (p : RingingAudioProvider) (frameSize : ℕ) :
    List UInt8 × RingingAudioProvider :=
  if p.loaded = false ∨ p.ringingBuffer = [] then (List.replicate frameSize 0, p)
  else
    let samplesNeeded := frameSize / 2
    ((ringingLoop p.ringingBuffer samplesNeeded p.currentPosition).1,
      { p with
        currentPosition := (ringingLoop p.ringingBuffer samplesNeeded p.currentPosition).2
        inRange := fun hne => ringingLoop_lt (p.inRange hne) samplesNeeded })

/-! ### The port -/

inductive FrameType where
  | none
  | audio
deriving DecidableEq

/-- `pj::MediaFrame`. -/
structure MediaFrame where
  type : FrameType
  buf : List UInt8
  size : ℕ
deriving DecidableEq

/-- The handler, with what the media clock reads of it. -/
structure Handler where
  playback : Playback.Handler
  ringingActive : Bool
  ringingProvider : RingingAudioProvider

/-- The media port, with a recorder of any kind. -/
structure Port (ρ : Type*) where
  initialized : Bool
  handler : Option Handler
  recorder : Option ρ

/-- Where an exception is thrown. `getAudioFrame` throws, if at all, before it takes a frame: what
may be thrown in `sendPlayedStreamEvent` is caught there. -/
structure Faults where
  getRingingFrame : Bool
  getAudioFrame : Bool
deriving DecidableEq

/-- `fit`: an odd byte at the end is dropped, then the data is cut or filled up. -/
def fit (expected : ℕ) (data : List UInt8) : List UInt8 :=
  let data := evenCut data
  if expected < data.length then data.take expected
  else data ++ List.replicate (expected - data.length) 0

/-- `emit_silence`. -/
def emitSilence (expected : ℕ) : MediaFrame := ⟨.audio, List.replicate expected 0, expected⟩

variable {ρ : Type*}

/-- `onFrameRequested`. `writeFrame` gives the recorder as it is after it was given a frame, be it
with an exception, which is ignored. -/
def onFrameRequested (writeFrame : ρ → MediaFrame → ρ) (faults : Faults) (p : Port ρ)
    (frame : MediaFrame) : Port ρ × MediaFrame :=
  let expected := frame.size
  match p.initialized, p.handler with
  | true, some h =>
    if h.ringingActive then
      if faults.getRingingFrame then (p, emitSilence expected)
      else
        let ringing := h.ringingProvider.getRingingFrame expected
        ({ p with handler := some { h with ringingProvider := ringing.2 } },
          ⟨.audio, fit expected ringing.1, expected⟩)
    else if faults.getAudioFrame then (p, emitSilence expected)
    else
      match getAudioFrame h.playback with
      | (playback, ⟨some audioData, _⟩) =>
        let frame : MediaFrame := ⟨.audio, fit expected audioData, expected⟩
        ({ p with
            handler := some { h with playback := playback }
            recorder := p.recorder.map (writeFrame · frame) }, frame)
      | (playback, ⟨none, _⟩) =>
        ({ p with handler := some { h with playback := playback } }, emitSilence expected)
  | _, _ => (p, emitSilence expected)

/-! ### Sizes -/

variable {faults : Faults} {p : Port ρ}

@[simp] lemma length_fit (expected : ℕ) (data : List UInt8) :
    (fit expected data).length = expected := by
  simp only [fit]
  split_ifs with h
  · rw [List.length_take]
    omega
  · rw [List.length_append, List.length_replicate]
    omega

@[simp] lemma length_emitSilence (expected : ℕ) :
    (emitSilence expected).buf.length = expected := List.length_replicate

/-- The data, cut or filled up at its end. -/
def padded (expected : ℕ) (data : List UInt8) : List UInt8 :=
  (data ++ List.replicate (expected - data.length) 0).take expected

lemma fit_of_even {data : List UInt8} (h : data.length % 2 = 0) (expected : ℕ) :
    fit expected data = padded expected data := by
  have heven : evenCut data = data := if_neg (by omega)
  simp only [fit, padded, heven]
  split_ifs with hlong
  · rw [List.take_append_of_le_length (Nat.le_of_lt hlong)]
  · have hlength : (data ++ List.replicate (expected - data.length) 0).length = expected := by
      rw [List.length_append, List.length_replicate]
      omega
    exact (List.take_of_length_le (Nat.le_of_eq hlength)).symm

/-! ### Requests -/

/-- The frames that wait in the queue. -/
def Port.queue (p : Port ρ) : List Frame :=
  match p.handler with
  | some h => h.playback.audioQueue
  | none   => []

/-- The port is initialised and the tone is off, and the handler does not throw: a frame is taken
from the queue if there is one. -/
def Port.Playing (p : Port ρ) (faults : Faults) : Prop :=
  p.initialized = true ∧ faults.getAudioFrame = false ∧
    ∃ h, p.handler = some h ∧ h.ringingActive = false

lemma getAudioFrame_nil {h : Playback.Handler} (hq : h.audioQueue = []) :
    getAudioFrame h = (h, ⟨none, none⟩) := by
  simp [getAudioFrame, hq]

lemma getAudioFrame_cons {h : Playback.Handler} {f : Frame} {rest : List Frame}
    (hq : h.audioQueue = f :: rest) :
    ∃ h' event, getAudioFrame h = (h', ⟨some f, event⟩) ∧ h'.audioQueue = rest := by
  simp only [getAudioFrame, hq]
  split_ifs
  · refine ⟨_, _, rfl, ?_⟩
    unfold Playback.sendPlayedStreamEvent
    split_ifs <;> rfl
  · exact ⟨_, _, rfl, rfl⟩

/-- A frame that waits is taken. -/
lemma onFrameRequested_taken (writeFrame : ρ → MediaFrame → ρ) (frame : MediaFrame)
    (hp : p.Playing faults) {f : Frame} {rest : List Frame} (hq : p.queue = f :: rest) :
    ∃ playback, playback.audioQueue = rest ∧ onFrameRequested writeFrame faults p frame =
      (⟨true, p.handler.map fun h => { h with playback := playback },
        p.recorder.map (writeFrame · ⟨.audio, fit frame.size f, frame.size⟩)⟩,
        ⟨.audio, fit frame.size f, frame.size⟩) := by
  obtain ⟨hinitialized, hfault, h, hhandler, hringing⟩ := hp
  simp only [Port.queue, hhandler] at hq
  obtain ⟨playback, event, htaken, hrest⟩ := getAudioFrame_cons hq
  refine ⟨playback, hrest, ?_⟩
  simp [onFrameRequested, hinitialized, hhandler, hringing, hfault, htaken]

/-- Otherwise the queue and the recorder are left alone. -/
lemma onFrameRequested_untaken (writeFrame : ρ → MediaFrame → ρ) (frame : MediaFrame)
    (hp : ¬(p.Playing faults ∧ p.queue ≠ [])) :
    (onFrameRequested writeFrame faults p frame).1.queue = p.queue ∧
      (onFrameRequested writeFrame faults p frame).1.recorder = p.recorder ∧
      (onFrameRequested writeFrame faults p frame).2.buf.length = frame.size ∧
      (onFrameRequested writeFrame faults p frame).2.size = frame.size := by
  cases hinitialized : p.initialized with
  | false => simp [onFrameRequested, hinitialized, emitSilence]
  | true =>
    cases hhandler : p.handler with
    | none => simp [onFrameRequested, hinitialized, hhandler, emitSilence]
    | some h =>
      cases hringing : h.ringingActive with
      | true =>
        cases hfault : faults.getRingingFrame <;>
          simp [onFrameRequested, hinitialized, hhandler, hringing, hfault, emitSilence, Port.queue]
      | false =>
        cases hfault : faults.getAudioFrame with
        | true =>
          simp [onFrameRequested, hinitialized, hhandler, hringing, hfault, emitSilence]
        | false =>
          have hempty : h.playback.audioQueue = [] := by
            by_contra hne
            refine hp ⟨⟨hinitialized, hfault, h, hhandler, hringing⟩, ?_⟩
            simpa [Port.queue, hhandler] using hne
          simp [onFrameRequested, hinitialized, hhandler, hringing, hfault, emitSilence,
            Port.queue, getAudioFrame_nil hempty]

/-- Whatever the port finds, the frame has the size that was requested. The oldest frame of the
queue is taken if and only if the port is playing and there is one; the buffer is then that frame,
without an odd byte at its end, cut or filled up to the requested size, and the recorder is given
that buffer. -/
theorem onFrameRequested_exact (writeFrame : ρ → MediaFrame → ρ) (faults : Faults) (p : Port ρ)
    (frame : MediaFrame) :
    (onFrameRequested writeFrame faults p frame).2.buf.length = frame.size ∧
    (onFrameRequested writeFrame faults p frame).2.size = frame.size ∧
    (∀ f rest, p.Playing faults → p.queue = f :: rest →
      (onFrameRequested writeFrame faults p frame).1.queue = rest ∧
      (onFrameRequested writeFrame faults p frame).2.buf = fit frame.size f ∧
      (f.length % 2 = 0 → fit frame.size f = padded frame.size f) ∧
      (onFrameRequested writeFrame faults p frame).1.recorder =
        p.recorder.map (writeFrame · (onFrameRequested writeFrame faults p frame).2)) ∧
    (¬(p.Playing faults ∧ p.queue ≠ []) →
      (onFrameRequested writeFrame faults p frame).1.queue = p.queue ∧
      (onFrameRequested writeFrame faults p frame).1.recorder = p.recorder) := by
  by_cases hp : p.Playing faults ∧ p.queue ≠ []
  · obtain ⟨hplaying, hne⟩ := hp
    obtain ⟨f, rest, hq⟩ := List.exists_cons_of_ne_nil hne
    obtain ⟨playback, hrest, hres⟩ := onFrameRequested_taken writeFrame frame hplaying hq
    obtain ⟨-, -, h, hhandler, -⟩ := id hplaying
    rw [hres]
    refine ⟨length_fit _ _, rfl, fun f' rest' _ hq' => ?_, fun hnot => absurd ⟨hplaying, hne⟩ hnot⟩
    obtain ⟨rfl, rfl⟩ := List.cons.inj (hq.symm.trans hq')
    exact ⟨by simp [Port.queue, hhandler, hrest], rfl, fun heven => fit_of_even heven _, rfl⟩
  · obtain ⟨hqueue, hrecorder, hlength, hsize⟩ := onFrameRequested_untaken writeFrame frame hp
    refine ⟨hlength, hsize, fun f rest hplaying hq => ?_, fun _ => ⟨hqueue, hrecorder⟩⟩
    exact absurd ⟨hplaying, by simp [hq]⟩ hp

end MediaServer.MediaPort
