import SipForward.MediaServer.MixedTrack
import SipForward.MediaServer.Ringing

/-!
# The frames that reach the mixer

Three functions write frames to a recorder: `onFrameRequested` the frames of the agent,
`onFrameReceived` those of the caller, and the pump of a simulated call both. Each of them has its
own formula for the size of a frame, and the mixer checks none. They run in threads of their own,
next to the thread of the WebSocket, which cuts the audio of the agent into frames.
-/

namespace MediaServer.Feeders

open Core
open MediaPort (MediaFrame Port Faults RingingAudioProvider RingingOp onFrameRequested)
open Playback (SampleRate)
open Recording (Recorder Mixer Segment Arrival AudioFrame frameDurationMs)

/-! ### Sizes -/

/-- `pj::MediaFormatAudio`. -/
structure MediaFormatAudio where
  clockRate : ℕ
  channelCount : ℕ
  frameTimeUsec : ℕ
  bitsPerSample : ℕ

/-- The bytes of a frame of the format. -/
def MediaFormatAudio.frameSize (fmt : MediaFormatAudio) : ℕ :=
  fmt.frameTimeUsec * fmt.clockRate * fmt.channelCount / 1000000 * fmt.bitsPerSample / 8

/-- The format that is passed to `createPort`. -/
def portFormat (rate : SampleRate) : MediaFormatAudio := ⟨rate.hz, 1, 20000, 16⟩

/-- `frame_size` of `audioPumpLoop`. -/
def pumpFrameSize (rate : SampleRate) : ℕ := rate.hz / 1000 * 20 * 2

/-- `samples_per_frame` of the mixer. -/
def samplesPerFrame (rate : SampleRate) : ℕ := rate.hz * frameDurationMs / 1000

/-- The samples of the frame are whole, and as many as `mix_buffer` has room for. -/
def Fits (rate : SampleRate) (buf : List UInt8) : Prop :=
  buf.length % 2 = 0 ∧ buf.length / 2 ≤ samplesPerFrame rate

/-! ### The recorder of a rate -/

/-- `writeFrame` hands the frame to `AudioMixer::addFrame`. -/
def Adds (r : Recorder) (buf : List UInt8) : Prop :=
  r.isRecording = true ∧ r.mixer.isSome ∧ buf ≠ []

instance (r : Recorder) (buf : List UInt8) : Decidable (Adds r buf) :=
  inferInstanceAs (Decidable (_ ∧ _))

/-- The indices of `mix_buffer` that `mixFrames` writes for a piece of the mixed track. -/
def writes : Segment → List ℕ
  | .single _       => []
  | .mix agent user => List.range (min agent.samples.length user.samples.length)

/-! ### The threads -/

/-- A frame that a thread is about to write, and whether it is the agent's. -/
abbrev InHand := List UInt8 × Bool

/-- The port or the simulated call with its handler and recorder, the frames on their way to the
recorder, and those that have reached the mixer. -/
structure World where
  initialized : Bool
  handler : Option MediaPort.Handler
  inHand : List InHand
  recorder : Recorder
  added : List (List UInt8)

def World.new (rate : SampleRate) (now : Int) : World :=
  ⟨false, none, [], .new now rate.hz, []⟩

/-- A step of one of the threads. What the pump does with a frame, and what `onFrameRequested` does
with one, are two steps: the frame is taken, and it is written. -/
inductive Event where
  | openHandler (connected realTimeAudio : Bool)
  | closeHandler
  | initialized (b : Bool)
  | playback (op : Playback.Op)    -- a message of the WebSocket, with a chunk of any size
  | ringing (op : RingingOp)
  | ringingActive (b : Bool)
  | onFrameRequested (faults : Faults)
  | onFrameReceived (buf : List UInt8)
  | pumpRinging
  | pumpReceived
  | writeFrame (i : ℕ) (seen stamp now : Int) (ordered : seen ≤ stamp ∧ stamp ≤ now)
  | startRecording (now : Int)
  | stopRecording
  | discardBufferedAudio

/-- The port, with the frames in hand in place of the recorder that they go to. -/
def World.port (w : World) : Port (List InHand) := ⟨w.initialized, w.handler, some w.inHand⟩

/-- A frame of this size is requested. -/
def World.request (w : World) (faults : Faults) (size : ℕ) : World :=
  let r := onFrameRequested (fun inHand frame => inHand ++ [(frame.buf, true)]) faults w.port
    ⟨.none, [], size⟩
  { w with handler := r.1.handler, inHand := r.1.recorder.getD [] }

/-- The `record` function of the pump drops empty data. -/
def World.record (w : World) (data : List UInt8) (isAgent : Bool) : World :=
  if data = [] then w else { w with inHand := w.inHand ++ [(data, isAgent)] }

/-- The ringing part of `audioPumpLoop`. -/
def World.pumpRinging (rate : SampleRate) (w : World) : World :=
  match w.handler with
  | none   => w
  | some h =>
    if h.ringingActive then
      let ringing := h.ringingProvider.getRingingFrame (pumpFrameSize rate)
      { w with handler := some { h with ringingProvider := ringing.2 } }.record ringing.1 false
    else w

/-- An iteration of the inner loop of `audioPumpLoop`. -/
def World.pumpReceived (w : World) : World :=
  match w.handler with
  | none   => w
  | some h =>
    let r := Playback.getAudioFrame h.playback
    { w with handler := some { h with playback := r.1 } }.record (r.2.frame.getD []) true

/-- A frame in hand is written. -/
def World.writeFrame (w : World) (i : ℕ) (frame : InHand) (seen stamp now : Int)
    (ordered : seen ≤ stamp ∧ stamp ≤ now) : World :=
  { w with
    inHand := w.inHand.eraseIdx i
    recorder := w.recorder.writeFrame ⟨frame.1, frame.2, seen, stamp, now, ordered⟩
    added := if Adds w.recorder frame.1 then w.added ++ [frame.1] else w.added }

def step (rate : SampleRate) (w : World) : Event → Option World
  | .openHandler connected realTimeAudio =>
    some { w with handler := some ⟨.new connected realTimeAudio, false, .new⟩ }
  | .closeHandler     => some { w with handler := none, initialized := false }
  | .initialized b    => some { w with initialized := b }
  | .playback op      =>
    some { w with handler := w.handler.map fun h =>
      { h with playback := (h.playback.apply rate op).1 } }
  | .ringing op       =>
    some { w with handler := w.handler.map fun h =>
      { h with ringingProvider := (h.ringingProvider.step op).1 } }
  | .ringingActive b  =>
    some { w with handler := w.handler.map fun h => { h with ringingActive := b } }
  | .onFrameRequested faults => some (w.request faults (portFormat rate).frameSize)
  | .onFrameReceived buf     =>
    -- PJSIP delivers frames of the size of the port's format
    if buf.length = (portFormat rate).frameSize then
      if w.initialized ∧ w.handler.isSome ∧ buf ≠ [] then
        some { w with inHand := w.inHand ++ [(buf, false)] }
      else some w
    else none
  | .pumpRinging      => some (w.pumpRinging rate)
  | .pumpReceived     => some w.pumpReceived
  | .writeFrame i seen stamp now ordered =>
    (w.inHand[i]?).map fun frame => w.writeFrame i frame seen stamp now ordered
  | .startRecording now   => some { w with recorder := w.recorder.startRecording now rate.hz }
  | .stopRecording        => some { w with recorder := w.recorder.stopRecording.1 }
  | .discardBufferedAudio => some { w with recorder := w.recorder.discardBufferedAudio }

/-! ### Every frame fits -/

variable {rate : SampleRate} {w w' : World} {e : Event} {es : List Event} {m m' : Mixer}
  {buf : List UInt8} {h : Playback.Handler} {now : Int}

/-- The formulas agree. -/
lemma sizes_eq (rate : SampleRate) :
    (portFormat rate).frameSize = 2 * samplesPerFrame rate ∧
      pumpFrameSize rate = 2 * samplesPerFrame rate ∧
      rate.bytesPerFrame = 2 * samplesPerFrame rate := by
  rcases rate.accepted with hz | hz <;>
    simp [MediaFormatAudio.frameSize, portFormat, pumpFrameSize, SampleRate.bytesPerFrame,
      samplesPerFrame, frameDurationMs, hz]

lemma fits_of_length (hlength : buf.length = 2 * samplesPerFrame rate) : Fits rate buf := by
  rw [Fits, hlength]
  omega

/-- The frames that wait in the queue of the handler are whole. -/
def Whole (rate : SampleRate) (h : Playback.Handler) : Prop :=
  ∀ f ∈ h.audioQueue, f.length = rate.bytesPerFrame

/-- Nothing was written beyond the end of `mix_buffer`, and what waits fits into it. -/
structure Tight (rate : SampleRate) (m : Mixer) : Prop extends m.Roomy rate.hz where
  written : ∀ segment ∈ m.mixed, ∀ i ∈ writes segment, i < samplesPerFrame rate

/-- All frames on their way to the mixer fit. -/
structure Inv (rate : SampleRate) (w : World) : Prop where
  queue : ∀ h ∈ w.handler, Whole rate h.playback
  inHand : ∀ frame ∈ w.inHand, Fits rate frame.1
  added : ∀ buf ∈ w.added, Fits rate buf
  mixer : ∀ m ∈ w.recorder.mixer, Tight rate m

lemma tight_new (rate : SampleRate) (now : Int) : Tight rate (.new now rate.hz) :=
  ⟨Mixer.roomy_new now rate.hz, by simp [Mixer.new]⟩

lemma inv_new (rate : SampleRate) (now : Int) : Inv rate (.new rate now) where
  queue _ hh := by cases hh
  inHand _ hframe := by cases hframe
  added _ hbuf := by cases hbuf
  mixer m hm := by
    cases hm
    exact tight_new rate now

/-! #### The queue -/

/-- The frames are blocks, so that they have one size, whatever the chunks were. -/
lemma Whole.enqueueAudio (hw : Whole rate h) (pcm : List UInt8) :
    Whole rate (Playback.enqueueAudio rate pcm h) := by
  have hnew : ∀ f ∈ Core.blocks rate.bytesPerFrame (h.partialFrame ++ Playback.evenCut pcm),
      f.length = rate.bytesPerFrame := fun f hf => length_of_mem_blocks hf
  intro f hf
  cases hmode : h.realTimeAudio with
  | true =>
    rw [(Playback.enqueueAudio_realTime rate pcm hmode).1] at hf
    obtain ⟨dropped, hsplit⟩ := Playback.foldl_pushRupture_suffix
      (Core.blocks rate.bytesPerFrame (h.partialFrame ++ Playback.evenCut pcm)) h.audioQueue
    have hmem := List.mem_append_right dropped hf
    rw [← hsplit, List.mem_append] at hmem
    exact hmem.elim (hw f) (hnew f)
  | false =>
    rw [(Playback.enqueueAudio_default rate pcm hmode).1, List.mem_append] at hf
    exact hf.elim (hw f) fun hf => hnew f (List.mem_of_mem_take hf)

lemma Whole.getAudioFrame (hw : Whole rate h) :
    Whole rate (Playback.getAudioFrame h).1 ∧
      ∀ f ∈ (Playback.getAudioFrame h).2.frame, f.length = rate.bytesPerFrame := by
  cases hq : h.audioQueue with
  | nil =>
    rw [MediaPort.getAudioFrame_nil hq]
    exact ⟨hw, fun f hf => by cases hf⟩
  | cons frame queue =>
    obtain ⟨h', event, htaken, hrest⟩ := MediaPort.getAudioFrame_cons hq
    rw [Whole, hq, List.forall_mem_cons] at hw
    rw [htaken]
    refine ⟨?_, ?_⟩
    · rw [Whole, hrest]
      exact hw.2
    · rintro f ⟨⟩
      exact hw.1

lemma Whole.apply (hw : Whole rate h) (op : Playback.Op) : Whole rate (h.apply rate op).1 := by
  cases op with
  | enqueueAudio pcm => exact hw.enqueueAudio pcm
  | getAudioFrame => exact hw.getAudioFrame.1
  | clearAudioQueue =>
    intro f hf
    cases hf
  | checkpoint streamId name => exact hw
  | realTimeAudio => exact hw

/-! #### The feeders -/

/-- A handler whose queue is whole takes the place of the handler. -/
lemma Inv.withHandler (hi : Inv rate w) {h : MediaPort.Handler} (hh : Whole rate h.playback) :
    Inv rate { w with handler := some h } := by
  refine ⟨fun h' hh' => ?_, hi.inHand, hi.added, hi.mixer⟩
  cases hh'
  exact hh

/-- A requested frame has the requested size. -/
lemma Inv.request (hi : Inv rate w) (faults : Faults) {size : ℕ}
    (hsize : size = 2 * samplesPerFrame rate) : Inv rate (w.request faults size) := by
  have hwaiting : ∀ f ∈ w.port.queue, f.length = rate.bytesPerFrame := by
    cases hh : w.handler with
    | none => simp [World.port, Port.queue, hh]
    | some h => simpa [World.port, Port.queue, hh, Whole] using hi.queue h hh
  by_cases hp : w.port.Playing faults ∧ w.port.queue ≠ []
  · obtain ⟨hplaying, hne⟩ := hp
    obtain ⟨f, rest, hq⟩ := List.exists_cons_of_ne_nil hne
    obtain ⟨playback, hrest, htaken⟩ := MediaPort.onFrameRequested_taken
      (fun inHand frame => inHand ++ [(frame.buf, true)]) ⟨.none, [], size⟩ hplaying hq
    rw [hq, List.forall_mem_cons] at hwaiting
    constructor
    case queue =>
      intro h' hh'
      simp only [World.request, htaken] at hh'
      obtain ⟨h, -, rfl⟩ := Option.map_eq_some_iff.mp hh'
      rw [Whole, hrest]
      exact hwaiting.2
    case inHand =>
      simp only [World.request, htaken]
      intro frame hframe
      rcases List.mem_append.mp hframe with hframe | hframe
      · exact hi.inHand frame hframe
      · obtain rfl := List.mem_singleton.mp hframe
        exact fits_of_length ((MediaPort.length_fit _ _).trans hsize)
    case added => exact hi.added
    case mixer => exact hi.mixer
  · obtain ⟨hqueue, hrecorder, -, -⟩ := MediaPort.onFrameRequested_untaken
      (fun inHand frame => inHand ++ [(frame.buf, true)]) ⟨.none, [], size⟩ hp
    constructor
    case queue =>
      intro h' hh'
      have hhandler : (onFrameRequested (fun inHand frame => inHand ++ [(frame.buf, true)]) faults
          w.port ⟨.none, [], size⟩).1.handler = some h' := hh'
      rw [← hqueue] at hwaiting
      simpa only [Port.queue, hhandler, Whole] using hwaiting
    case inHand =>
      simp only [World.request, hrecorder]
      exact hi.inHand
    case added => exact hi.added
    case mixer => exact hi.mixer

lemma Inv.record (hi : Inv rate w) {data : List UInt8} (hdata : data ≠ [] → Fits rate data)
    (isAgent : Bool) : Inv rate (w.record data isAgent) := by
  unfold World.record
  split_ifs with hempty
  · exact hi
  · refine ⟨hi.queue, fun frame hframe => ?_, hi.added, hi.mixer⟩
    rcases List.mem_append.mp hframe with hframe | hframe
    · exact hi.inHand frame hframe
    · obtain rfl := List.mem_singleton.mp hframe
      exact hdata hempty

/-- The tone has as many bytes as whole samples were asked for, and silence as many as that. -/
lemma fits_getRingingFrame (p : RingingAudioProvider) {size : ℕ}
    (hsize : size = 2 * samplesPerFrame rate) : Fits rate (p.getRingingFrame size).1 := by
  have hhalf : 2 * (size / 2) = size := by omega
  refine fits_of_length (hsize ▸ ?_)
  unfold RingingAudioProvider.getRingingFrame
  split_ifs with hready
  · exact List.length_replicate
  · obtain ⟨hloaded, hne⟩ := not_or.mp hready
    rw [(MediaPort.ringingLoop_cycle hne (p.inRange hne)).1, MediaPort.length_flatMap_sampleBytes,
      Stream'.length_take, hhalf]

lemma Inv.pumpRinging (hi : Inv rate w) : Inv rate (w.pumpRinging rate) := by
  unfold World.pumpRinging
  cases hh : w.handler with
  | none => exact hi
  | some h =>
    dsimp only
    split_ifs with hactive
    · have hnext : Inv rate { w with handler := some { h with
          ringingProvider := (h.ringingProvider.getRingingFrame (pumpFrameSize rate)).2 } } :=
        hi.withHandler (hi.queue h hh)
      exact hnext.record (fun _ => fits_getRingingFrame _ (sizes_eq rate).2.1) false
    · exact hi

lemma Inv.pumpReceived (hi : Inv rate w) : Inv rate w.pumpReceived := by
  unfold World.pumpReceived
  cases hh : w.handler with
  | none => exact hi
  | some h =>
    obtain ⟨hqueue, hframe⟩ := (hi.queue h hh).getAudioFrame
    refine Inv.record (hi.withHandler hqueue) (fun hne => ?_) true
    cases htaken : (Playback.getAudioFrame h.playback).2.frame with
    | none => exact absurd (by rw [htaken]; rfl) hne
    | some f => exact fits_of_length ((hframe f htaken).trans (sizes_eq rate).2.2)

/-! #### The mixer -/

/-- Two frames that are mixed have room, since the agent's frame had. -/
lemma Tight.iteration (hm : Tight rate m) (hiter : m.Iteration m') : Tight rate m' := by
  obtain ⟨segment, agents, users, hw⟩ := hiter.appends hm.toRoomy
  refine ⟨hiter.roomy hm.toRoomy, fun s hs i hi => ?_⟩
  rw [hw.mixed, List.mem_append, List.mem_singleton] at hs
  rcases hs with hs | rfl
  · exact hm.written s hs i hi
  · cases s with
    | single f => cases hi
    | mix a u =>
      obtain ⟨rfl, rfl⟩ := hw.pair a u rfl
      have hagent := hm.agent a (by simp [hw.agent])
      rw [writes, List.mem_range] at hi
      exact Nat.lt_of_lt_of_le hi (Nat.le_trans (Nat.min_le_left _ _) hagent)

lemma Tight.addFrame {call : Arrival} (hm : Tight rate m) (hfits : Fits rate call.buf) :
    Tight rate (m.addFrame call) := by
  unfold Mixer.addFrame
  split_ifs
  · exact hm
  · refine Mixer.iterations_invariant (fun hiter h => Tight.iteration h hiter)
      (Mixer.processBuffers_iteration _) ⟨hm.toRoomy.receive hfits, ?_⟩
    have hmixed : (m.receive call).mixed = m.mixed := by
      cases hcall : call.isAgent with
      | true =>
        obtain ⟨active, hreceive⟩ := Mixer.receive_agent (m := m) hcall
        rw [hreceive]
      | false => rw [Mixer.receive_user hcall]
    rw [hmixed]
    exact hm.written

lemma Inv.writeFrame (hi : Inv rate w) {i : ℕ} {frame : InHand} (hframe : w.inHand[i]? = some frame)
    {seen stamp now : Int} (ordered : seen ≤ stamp ∧ stamp ≤ now) :
    Inv rate (w.writeFrame i frame seen stamp now ordered) := by
  have hfits : Fits rate frame.1 := hi.inHand frame (List.mem_of_getElem? hframe)
  constructor
  case queue => exact hi.queue
  case inHand => exact fun f hf => hi.inHand f (List.mem_of_mem_eraseIdx hf)
  case added =>
    intro buf hbuf
    simp only [World.writeFrame] at hbuf
    split_ifs at hbuf
    · rcases List.mem_append.mp hbuf with hbuf | hbuf
      · exact hi.added buf hbuf
      · obtain rfl := List.mem_singleton.mp hbuf
        exact hfits
    · exact hi.added buf hbuf
  case mixer =>
    intro m hm
    simp only [World.writeFrame, Recorder.writeFrame] at hm
    split_ifs at hm
    · obtain ⟨m₀, hm₀, rfl⟩ := Option.map_eq_some_iff.mp hm
      exact (hi.mixer m₀ hm₀).addFrame hfits
    · exact hi.mixer m hm

/-- The recorder is replaced by one whose mixer is tight. -/
lemma Inv.withRecorder (hi : Inv rate w) {r : Recorder} (hr : ∀ m ∈ r.mixer, Tight rate m) :
    Inv rate { w with recorder := r } :=
  ⟨hi.queue, hi.inHand, hi.added, hr⟩

lemma Inv.startRecording (hi : Inv rate w) (now : Int) :
    Inv rate { w with recorder := w.recorder.startRecording now rate.hz } := by
  refine hi.withRecorder fun m hm => ?_
  unfold Recorder.startRecording at hm
  split_ifs at hm
  · exact hi.mixer m hm
  · cases hm
    exact tight_new rate now

lemma Inv.stopRecording (hi : Inv rate w) :
    Inv rate { w with recorder := w.recorder.stopRecording.1 } := by
  refine hi.withRecorder fun m hm => ?_
  unfold Recorder.stopRecording at hm
  split_ifs at hm
  · cases hmixer : w.recorder.mixer with
    | none => simp [hmixer] at hm
    | some m₀ => simp [hmixer] at hm
  · exact hi.mixer m hm

lemma Inv.discardBufferedAudio (hi : Inv rate w) :
    Inv rate { w with recorder := w.recorder.discardBufferedAudio } := by
  refine hi.withRecorder fun m hm => ?_
  unfold Recorder.discardBufferedAudio at hm
  split_ifs at hm
  · obtain ⟨m₀, hm₀, rfl⟩ := Option.map_eq_some_iff.mp hm
    have hlength := (hi.mixer m₀ hm₀).length
    exact ⟨⟨hlength, by simp [Mixer.clearBuffers], by simp [Mixer.clearBuffers]⟩,
      by simp [Mixer.clearBuffers]⟩
  · exact hi.mixer m hm

/-! #### Runs -/

/-- A change of the handler that leaves its queue whole. -/
lemma Inv.mapHandler (hi : Inv rate w) {f : MediaPort.Handler → MediaPort.Handler}
    (hf : ∀ h, Whole rate h.playback → Whole rate (f h).playback) :
    Inv rate { w with handler := w.handler.map f } := by
  refine ⟨fun h' hh' => ?_, hi.inHand, hi.added, hi.mixer⟩
  obtain ⟨h, hh, rfl⟩ := Option.map_eq_some_iff.mp hh'
  exact hf h (hi.queue h hh)

lemma Inv.step (hi : Inv rate w) (hs : step rate w e = some w') : Inv rate w' := by
  cases e with
  | openHandler connected realTimeAudio =>
    cases hs
    refine hi.withHandler fun f hf => ?_
    cases hf
  | closeHandler =>
    cases hs
    refine ⟨fun _ hh => ?_, hi.inHand, hi.added, hi.mixer⟩
    cases hh
  | initialized b =>
    cases hs
    exact ⟨hi.queue, hi.inHand, hi.added, hi.mixer⟩
  | playback op =>
    cases hs
    exact hi.mapHandler fun h hh => hh.apply op
  | ringing op =>
    cases hs
    exact hi.mapHandler fun h hh => hh
  | ringingActive b =>
    cases hs
    exact hi.mapHandler fun h hh => hh
  | onFrameRequested faults =>
    cases hs
    exact hi.request faults (sizes_eq rate).1
  | onFrameReceived buf =>
    simp only [Feeders.step] at hs
    split_ifs at hs with hlength hready
    · cases hs
      refine ⟨hi.queue, fun frame hframe => ?_, hi.added, hi.mixer⟩
      rcases List.mem_append.mp hframe with hframe | hframe
      · exact hi.inHand frame hframe
      · obtain rfl := List.mem_singleton.mp hframe
        exact fits_of_length (hlength.trans (sizes_eq rate).1)
    · cases hs
      exact hi
  | pumpRinging =>
    cases hs
    exact hi.pumpRinging
  | pumpReceived =>
    cases hs
    exact hi.pumpReceived
  | writeFrame i seen stamp now ordered =>
    obtain ⟨frame, hframe, rfl⟩ := Option.map_eq_some_iff.mp hs
    exact hi.writeFrame hframe ordered
  | startRecording now =>
    cases hs
    exact hi.startRecording now
  | stopRecording =>
    cases hs
    exact hi.stopRecording
  | discardBufferedAudio =>
    cases hs
    exact hi.discardBufferedAudio

/-- In every run of the feeders, every frame that reaches the mixer has whole samples, and no more
than the mixer has room for, so that the copy stays within the vector of the samples; and everything
that was mixed was written inside `mix_buffer`, which has the samples of one frame. -/
theorem mixer_in_range (hr : run (step rate) (.new rate now) es = some w) :
    (∀ buf ∈ w.added, buf.length % 2 = 0 ∧ buf.length / 2 ≤ samplesPerFrame rate ∧
      buf.length ≤ 2 * (Recording.toSamples buf).length) ∧
    ∀ m ∈ w.recorder.mixer, m.mixBuffer.length = samplesPerFrame rate ∧
      ∀ segment ∈ m.mixed, ∀ i ∈ writes segment, i < samplesPerFrame rate := by
  have hi : Inv rate w := run_invariant' (fun _ _ _ hi hs => Inv.step hi hs) (inv_new rate now) hr
  refine ⟨fun buf hbuf => ?_, fun m hm => ⟨(hi.mixer m hm).length, (hi.mixer m hm).written⟩⟩
  obtain ⟨heven, hroom⟩ := hi.added buf hbuf
  refine ⟨heven, hroom, ?_⟩
  rw [Recording.length_toSamples]
  omega

/-- A frame of each side at 8000 Hz; they are mixed. -/
theorem mixer_in_range_sample :
    let rate : SampleRate := ⟨8000, Or.inl rfl⟩
    ∃ w m, run (step rate) (.new rate 0)
      [.openHandler true false, .initialized true, .startRecording 0,
        .playback (.enqueueAudio (List.replicate 320 1)), .onFrameRequested ⟨false, false⟩,
        .onFrameReceived (List.replicate 320 2), .writeFrame 0 1 1 1 (by decide),
        .writeFrame 0 2 2 2 (by decide)] = some w ∧
      w.recorder.mixer = some m ∧ w.added.length = 2 ∧ m.mixed.length = 1 ∧
      m.mixBuffer.length = samplesPerFrame rate ∧
      ∀ segment ∈ m.mixed, ∀ i ∈ writes segment, i < samplesPerFrame rate := by
  intro rate
  have hlengths : ((run (step rate) (.new rate 0)
      [.openHandler true false, .initialized true, .startRecording 0,
        .playback (.enqueueAudio (List.replicate 320 1)), .onFrameRequested ⟨false, false⟩,
        .onFrameReceived (List.replicate 320 2), .writeFrame 0 1 1 1 (by decide),
        .writeFrame 0 2 2 2 (by decide)]).bind fun w => w.recorder.mixer.map fun m =>
          (w.added.length, m.mixed.length)) = some (2, 1) := by
    decide +kernel
  obtain ⟨w, hr, hlengths⟩ := Option.bind_eq_some_iff.mp hlengths
  obtain ⟨m, hm, hlengths⟩ := Option.map_eq_some_iff.mp hlengths
  obtain ⟨hadded, hmixed⟩ := Prod.mk.inj hlengths
  exact ⟨w, m, hr, hm, hadded, hmixed, (mixer_in_range hr).2 m hm⟩

end MediaServer.Feeders
