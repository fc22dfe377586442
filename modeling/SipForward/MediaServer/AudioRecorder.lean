import SipForward.MediaServer.AudioMixer
import Mathlib.Data.List.Perm.Subperm

/-!
# From the start of a recording to its upload

`AudioRecorder` makes a mixer when the recording starts, hands it the frames of both streams, lets
it discard what was recorded before a transfer, and hands the two tracks to the uploader when the
recording stops. Frames that still wait in the mixer are not written then.
-/

namespace MediaServer.Recording

open Core Relation

/-! ### The recorder -/

/-- The tracks that are handed to the uploader, and written to local files. -/
structure Upload where
  mixed : Option (List Int16)
  userOnly : Option (List Int16)
deriving DecidableEq

structure Recorder where
  isRecording : Bool
  mixer : Option Mixer

def Recorder.new (now : Int) (sampleRate : ℕ := 8000) : Recorder :=
  ⟨false, some (.new now sampleRate)⟩

/-- The recorder keeps its sample rate for the new mixer. -/
def Recorder.startRecording (r : Recorder) (now : Int) (sampleRate : ℕ := 8000) : Recorder :=
  if r.isRecording then r else ⟨true, some (.new now sampleRate)⟩

def Recorder.writeFrame (r : Recorder) (call : Arrival) : Recorder :=
  if r.isRecording ∧ call.buf ≠ [] then { r with mixer := r.mixer.map fun m => m.addFrame call }
  else r

def Recorder.discardBufferedAudio (r : Recorder) : Recorder :=
  if r.isRecording then { r with mixer := r.mixer.map Mixer.clearBuffers } else r

/-- An empty track is not uploaded. -/
def track (samples : List Int16) : Option (List Int16) :=
  if samples = [] then none else some samples

def Recorder.stopRecording (r : Recorder) : Recorder × Upload :=
  if r.isRecording then
    match r.mixer with
    | none   => ({ r with isRecording := false }, ⟨none, none⟩)
    | some m => (⟨false, none⟩, ⟨track m.audioBuffer, track m.userOnlyBuffer⟩)
  else (r, ⟨none, none⟩)

/-- What happens to a recorder between its start and its stop. -/
inductive Event where
  | writeFrame (call : Arrival)
  | discardBufferedAudio

/-- The clock does not run backwards. -/
def Recorder.step (r : Recorder) : Event → Option Recorder
  | .writeFrame call =>
    if ∀ m ∈ r.mixer, m.clock ≤ call.seen then some (r.writeFrame call) else none
  | .discardBufferedAudio => some r.discardBufferedAudio

/-! ### Nothing is lost -/

/-- The calls that bring a frame, numbered from `n` on. -/
def numberedFrom (n : ℕ) (calls : List Arrival) : List (Arrival × ℕ) :=
  (calls.filter fun call => call.buf ≠ []).zipIdx n

/-- The frames of both streams that calls bring. -/
def framesOf (calls : List Arrival) : List AudioFrame :=
  (numberedFrom 0 calls).map fun p => p.1.frame p.2

def userFramesOf (calls : List Arrival) : List AudioFrame :=
  ((numberedFrom 0 calls).filter fun p => !p.1.isAgent).map fun p => p.1.frame p.2

/-- The uploaded tracks are the tracks of the mixer, the user-only track has every user frame that
the calls have brought, and every frame of theirs is audible in the mixed track. -/
structure Mixer.Complete (m : Mixer) (calls : List Arrival) (upload : Upload) : Prop where
  userTrack : upload.userOnly.getD [] = m.userWritten.flatMap (·.samples)
  user : ∀ f ∈ userFramesOf calls, f ∈ m.userWritten
  mixedTrack : upload.mixed.getD [] = m.mixed.flatMap Segment.samples
  both : ∀ f ∈ framesOf calls, ∃ segment ∈ m.mixed, f ∈ segment.frames ∧ segment.samples ≠ []

/-- Nothing that the calls have brought is missing in what is uploaded when the recording stops
now. -/
def Recorder.Complete (r : Recorder) (calls : List Arrival) : Prop :=
  ∃ m, r.mixer = some m ∧ m.Complete calls r.stopRecording.2

/-- No frame waits. -/
def Recorder.Drained (r : Recorder) : Prop :=
  ∃ m, r.mixer = some m ∧ m.agentBuffer = [] ∧ m.userBuffer = []

/-- The buffer of the stream has room for the frame. -/
def Mixer.HasRoom (m : Mixer) (call : Arrival) : Prop :=
  call.buf ≠ [] →
    (if call.isAgent then m.agentBuffer else m.userBuffer).length < maxBufferSize

def Recorder.HasRoom (r : Recorder) : Event → Prop
  | .writeFrame call      => ∀ m ∈ r.mixer, m.HasRoom call
  | .discardBufferedAudio => True

instance decidableHasRoom (r : Recorder) : ∀ e, Decidable (r.HasRoom e)
  | .writeFrame call =>
    have : ∀ m : Mixer, Decidable (m.HasRoom call) := fun m =>
      inferInstanceAs (Decidable (call.buf ≠ [] →
        (if call.isAgent then m.agentBuffer else m.userBuffer).length < maxBufferSize))
    inferInstanceAs (Decidable (∀ m ∈ r.mixer, m.HasRoom call))
  | .discardBufferedAudio => isTrue trivial

variable {m m₀ m' : Mixer} {call : Arrival} {calls : List Arrival} {f : AudioFrame}
  {r r₀ : Recorder} {pre : List Event} {now : Int} {sampleRate n : ℕ}

/-- The frames in the mixed track. -/
def Mixer.contributed (m : Mixer) : List AudioFrame := m.mixed.flatMap Segment.frames

/-- The frames in the mixed track and those that wait. -/
def Mixer.held (m : Mixer) : List AudioFrame := m.contributed ++ (m.agentBuffer ++ m.userBuffer)

/-- How many of the accepted frames are neither in the mixed track nor waiting. -/
def Mixer.lost (m : Mixer) : Int := m.accepted.length - m.held.length

/-- The iterations move frames from the buffers to the mixed track. -/
lemma Mixer.Iteration.held (h : m.Iteration m') : m'.held.Perm m.held := by
  cases h with
  | late ha hu =>
    simp [Mixer.held, contributed, popAgent, writeSingleStream, writeUserOnlyStream, ha,
      Segment.frames]
  | prompt h =>
    cases h with
    | agentAlone ha =>
      simp [Mixer.held, contributed, popAgent, writeSingleStream, ha, Segment.frames]
    | userAlone hu =>
      simp only [Mixer.held, contributed, popUser, writeSingleStream, writeUserOnlyStream, hu,
        Segment.frames, List.flatMap_append, List.flatMap_singleton, List.tail_cons,
        List.append_assoc, List.singleton_append]
      exact List.Perm.append_left _ List.perm_middle.symm
    | mix ha hu =>
      simp only [Mixer.held, contributed, popUser, popAgent, mixFrames, writeUserOnlyStream, ha, hu,
        Segment.frames, List.flatMap_append, List.flatMap_singleton, List.tail_cons,
        List.append_assoc, List.cons_append, List.nil_append]
      exact List.Perm.append_left _ (List.Perm.cons _ List.perm_middle.symm)

lemma Mixer.lost_processBuffers (m : Mixer) : m.processBuffers.lost = m.lost := by
  refine iterations_invariant (I := fun m' => m'.lost = m.lost) (fun h hlost => ?_)
    (processBuffers_iteration m) rfl
  rw [← hlost, lost, lost, h.fixed.2.2.1, h.held.length_eq]

lemma length_pushFrame_of_lt {buffer : List AudioFrame} (h : buffer.length < maxBufferSize) :
    pushFrame buffer f = buffer ++ [f] := by
  rw [pushFrame, Nat.sub_eq_zero_of_le h, List.drop_zero]

/-- A frame that finds no room drives out an older one. -/
lemma length_pushFrame (buffer : List AudioFrame) (f : AudioFrame) :
    (pushFrame buffer f).length =
      if buffer.length < maxBufferSize then buffer.length + 1 else maxBufferSize := by
  simp only [pushFrame, List.length_drop, List.length_append, List.length_singleton]
  split_ifs <;> omega

lemma Mixer.length_held (m : Mixer) :
    m.held.length = m.contributed.length + (m.agentBuffer.length + m.userBuffer.length) := by
  simp [held]

lemma Mixer.lost_receive_le (m : Mixer) (call : Arrival) : m.lost ≤ (m.receive call).lost := by
  cases hcall : call.isAgent with
  | true =>
    obtain ⟨active, hreceive⟩ := receive_agent (m := m) hcall
    simp only [hreceive, lost, length_held, contributed, length_pushFrame, List.length_append,
      List.length_singleton]
    split_ifs <;> omega
  | false =>
    simp only [receive_user hcall, lost, length_held, contributed, length_pushFrame,
      List.length_append, List.length_singleton]
    split_ifs <;> omega

/-- A frame that drives out an older one is a loss. -/
lemma Mixer.lost_receive_lt (hroom : ¬m.HasRoom call) : m.lost < (m.receive call).lost := by
  have hfull : ¬(if call.isAgent then m.agentBuffer else m.userBuffer).length < maxBufferSize :=
    fun h => hroom fun _ => h
  cases hcall : call.isAgent with
  | true =>
    obtain ⟨active, hreceive⟩ := receive_agent (m := m) hcall
    simp only [hcall, if_true] at hfull
    simp only [hreceive, lost, length_held, contributed, length_pushFrame, List.length_append,
      List.length_singleton, if_neg hfull]
    omega
  | false =>
    simp only [hcall, Bool.false_eq_true, if_false] at hfull
    simp only [receive_user hcall, lost, length_held, contributed, length_pushFrame,
      List.length_append, List.length_singleton, if_neg hfull]
    omega

lemma Mixer.lost_addFrame_le (m : Mixer) (call : Arrival) : m.lost ≤ (m.addFrame call).lost := by
  unfold addFrame
  split_ifs
  · exact Int.le_refl _
  · rw [lost_processBuffers]
    exact lost_receive_le m call

lemma Mixer.lost_addFrame_lt (hroom : ¬m.HasRoom call) : m.lost < (m.addFrame call).lost := by
  unfold addFrame
  split_ifs with hbuf
  · exact absurd (fun hne => absurd hbuf hne) hroom
  · rw [lost_processBuffers]
    exact lost_receive_lt hroom

/-! ### Frames that are kept -/

/-- The accepted frames are numbered in the order of their arrival. -/
structure Mixer.Numbered (m : Mixer) : Prop where
  ordered : m.accepted.Pairwise fun f g => f.arrival < g.arrival
  below : ∀ f ∈ m.accepted, f.arrival < m.arrivals

/-- Every frame that was accepted is in the mixed track or waits, and every user frame is in the
user-only track or waits. -/
structure Mixer.Kept (m : Mixer) : Prop where
  both : ∀ f ∈ m.accepted, f ∈ m.held
  user : ∀ f ∈ m.userAccepted, f ∈ m.userWritten ∨ f ∈ m.userBuffer

/-- Every piece of the mixed track has samples, and so has every frame that waits. -/
structure Mixer.Audible (m : Mixer) : Prop where
  mixed : ∀ segment ∈ m.mixed, segment.samples ≠ []
  agent : ∀ f ∈ m.agentBuffer, f.samples ≠ []
  user : ∀ f ∈ m.userBuffer, f.samples ≠ []
  track : m.audioBuffer = m.mixed.flatMap Segment.samples

lemma Mixer.Iteration.numbered (h : m.Iteration m') (hn : m.Numbered) : m'.Numbered := by
  obtain ⟨-, harrivals, haccepted, -⟩ := h.fixed
  constructor
  · rw [haccepted]
    exact hn.ordered
  · rw [haccepted, harrivals]
    exact hn.below

lemma Mixer.Iteration.kept (h : m.Iteration m') (hk : m.Kept) : m'.Kept := by
  have hheld := h.held
  obtain ⟨-, -, haccepted, huser⟩ := h.fixed
  constructor
  · rw [haccepted]
    exact fun f hf => hheld.mem_iff.mpr (hk.both f hf)
  · rw [huser]
    intro f hf
    cases h with
    | late ha hu =>
      exact (hk.user f hf).imp_left fun hw => List.mem_append_left _ hw
    | prompt h =>
      cases h with
      | agentAlone ha => exact hk.user f hf
      | userAlone hu | mix ha hu =>
        rcases hk.user f hf with hw | hw
        · exact Or.inl (List.mem_append_left _ hw)
        · rw [hu, List.mem_cons] at hw
          rcases hw with rfl | hw
          · exact Or.inl (List.mem_append_right _ (List.mem_singleton_self _))
          · refine Or.inr ?_
            simpa [popUser, popAgent, writeSingleStream, mixFrames, writeUserOnlyStream, hu]
              using hw

/-- The common part of two frames that have samples is not empty. -/
lemma Segment.samples_mix {a u : AudioFrame} (ha : a.samples ≠ []) (hu : u.samples ≠ []) :
    (Segment.mix a u).samples ≠ [] := by
  simp [Segment.samples, List.zipWith_eq_nil_iff, ha, hu]

lemma Mixer.Audible.write (hm : m.Audible) (segment : Segment) (hs : segment.samples ≠ []) :
    ∀ s ∈ m.mixed ++ [segment], s.samples ≠ [] := by
  intro s hmem
  rcases List.mem_append.mp hmem with hmem | hmem
  · exact hm.mixed s hmem
  · obtain rfl := List.mem_singleton.mp hmem
    exact hs

lemma Mixer.Iteration.audible (h : m.Iteration m') (hroom : m.Roomy sampleRate)
    (hm : m.Audible) : m'.Audible := by
  have hagent : ∀ f ∈ m.agentBuffer.tail, f.samples ≠ [] :=
    fun f hf => hm.agent f (List.mem_of_mem_tail hf)
  have huser : ∀ f ∈ m.userBuffer.tail, f.samples ≠ [] :=
    fun f hf => hm.user f (List.mem_of_mem_tail hf)
  cases h with
  | @late a u _ _ ha hu =>
    refine ⟨hm.write (.single a) (hm.agent a (by simp [ha])), hagent, hm.user, ?_⟩
    simp [popAgent, writeSingleStream, writeUserOnlyStream, hm.track, Segment.samples]
  | prompt h =>
    cases h with
    | @agentAlone a _ ha =>
      refine ⟨hm.write (.single a) (hm.agent a (by simp [ha])), hagent, hm.user, ?_⟩
      simp [popAgent, writeSingleStream, hm.track, Segment.samples]
    | @userAlone u _ hu =>
      refine ⟨hm.write (.single u) (hm.user u (by simp [hu])), hm.agent, huser, ?_⟩
      simp [popUser, writeSingleStream, writeUserOnlyStream, hm.track, Segment.samples]
    | @mix a u _ _ ha hu =>
      have hmix : (Segment.mix a u).samples ≠ [] :=
        Segment.samples_mix (hm.agent a (by simp [ha])) (hm.user u (by simp [hu]))
      have hwhole : ((m.writeUserOnlyStream u).mixFrames a u).audioBuffer =
          m.audioBuffer ++ (Segment.mix a u).samples :=
        hroom.writeUserOnlyStream.mixFrames_audioBuffer (by simp [writeUserOnlyStream, ha]) u
      refine ⟨hm.write (.mix a u) hmix, hagent, huser, hwhole.trans ?_⟩
      simp [popUser, popAgent, mixFrames, writeUserOnlyStream, hm.track]

lemma Mixer.Numbered.receive (hn : m.Numbered) : (m.receive call).Numbered := by
  have hfields : (m.receive call).accepted = m.accepted ++ [m.arriving call] ∧
      (m.receive call).arrivals = m.arrivals + 1 := by
    cases hcall : call.isAgent with
    | true =>
      obtain ⟨active, hreceive⟩ := receive_agent (m := m) hcall
      rw [hreceive]
      exact ⟨rfl, rfl⟩
    | false =>
      rw [receive_user hcall]
      exact ⟨rfl, rfl⟩
  obtain ⟨haccepted, harrivals⟩ := hfields
  constructor
  · rw [haccepted]
    refine List.pairwise_append.mpr ⟨hn.ordered, List.pairwise_singleton _ _, ?_⟩
    intro f hf g hg
    obtain rfl := List.mem_singleton.mp hg
    exact hn.below f hf
  · rw [haccepted, harrivals]
    intro f hf
    rcases List.mem_append.mp hf with hf | hf
    · exact Nat.lt_succ_of_lt (hn.below f hf)
    · obtain rfl := List.mem_singleton.mp hf
      exact Nat.lt_succ_self _

lemma Mixer.Numbered.addFrame (hn : m.Numbered) : (m.addFrame call).Numbered := by
  unfold Mixer.addFrame
  split_ifs
  · exact hn
  · exact iterations_invariant (fun h => h.numbered) (processBuffers_iteration _) hn.receive

/-- A frame that finds room is kept with all others. -/
lemma Mixer.Kept.receive (hk : m.Kept) (hbuf : call.buf ≠ []) (hroom : m.HasRoom call) :
    (m.receive call).Kept := by
  have hlt := hroom hbuf
  cases hcall : call.isAgent with
  | true =>
    obtain ⟨active, hreceive⟩ := receive_agent (m := m) hcall
    simp only [hcall, if_true] at hlt
    rw [hreceive, length_pushFrame_of_lt hlt]
    refine ⟨fun f hf => ?_, hk.user⟩
    rcases List.mem_append.mp hf with hf | hf
    · have := hk.both f hf
      simp only [held, contributed, List.mem_append] at this ⊢
      tauto
    · obtain rfl := List.mem_singleton.mp hf
      simp [held]
  | false =>
    simp only [hcall, Bool.false_eq_true, if_false] at hlt
    rw [receive_user hcall, length_pushFrame_of_lt hlt]
    refine ⟨fun f hf => ?_, fun f hf => ?_⟩
    · rcases List.mem_append.mp hf with hf | hf
      · have := hk.both f hf
        simp only [held, contributed, List.mem_append] at this ⊢
        tauto
      · obtain rfl := List.mem_singleton.mp hf
        simp [held]
    · rcases List.mem_append.mp hf with hf | hf
      · exact (hk.user f hf).imp_right fun hw => List.mem_append_left _ hw
      · exact Or.inr (List.mem_append_right _ hf)

lemma Mixer.Kept.addFrame (hk : m.Kept) (hroom : m.HasRoom call) : (m.addFrame call).Kept := by
  unfold Mixer.addFrame
  split_ifs with hbuf
  · exact hk
  · exact iterations_invariant (fun h => h.kept) (processBuffers_iteration _)
      (hk.receive hbuf hroom)

/-- Two bytes make a sample. -/
lemma toSamples_ne_nil {buf : List UInt8} (hbuf : buf ≠ []) (heven : buf.length % 2 = 0) :
    toSamples buf ≠ [] := by
  match buf with
  | []                 => exact absurd rfl hbuf
  | [_]                => simp at heven
  | low :: high :: buf => simp [toSamples]

/-- A frame that fits keeps the room for what is mixed. -/
lemma Mixer.Roomy.receive (hm : m.Roomy sampleRate) (hfits : call.Fits sampleRate) :
    (m.receive call).Roomy sampleRate := by
  have hpush : ∀ buffer : List AudioFrame,
      (∀ f ∈ buffer, f.samples.length ≤ sampleRate * frameDurationMs / 1000) →
      ∀ f ∈ pushFrame buffer (m.arriving call),
        f.samples.length ≤ sampleRate * frameDurationMs / 1000 := by
    intro buffer hbuffer f hf
    rcases List.mem_append.mp ((pushFrame_sublist _ _).subset hf) with hf | hf
    · exact hbuffer f hf
    · obtain rfl := List.mem_singleton.mp hf
      rw [arriving, Arrival.frame, length_toSamples]
      exact hfits.2
  cases hcall : call.isAgent with
  | true =>
    obtain ⟨active, hreceive⟩ := receive_agent (m := m) hcall
    rw [hreceive]
    exact ⟨hm.length, hpush _ hm.agent, hm.user⟩
  | false =>
    rw [receive_user hcall]
    exact ⟨hm.length, hm.agent, hpush _ hm.user⟩

lemma Mixer.Roomy.addFrame (hm : m.Roomy sampleRate) (hfits : call.Fits sampleRate) :
    (m.addFrame call).Roomy sampleRate := by
  unfold Mixer.addFrame
  split_ifs
  · exact hm
  · exact iterations_invariant (fun h => h.roomy) (processBuffers_iteration _) (hm.receive hfits)

lemma Mixer.Audible.addFrame (hm : m.Audible) (hroom : m.Roomy sampleRate)
    (hfits : call.Fits sampleRate) : (m.addFrame call).Audible := by
  unfold Mixer.addFrame
  split_ifs with hbuf
  · exact hm
  · refine (iterations_invariant (I := fun m => m.Roomy sampleRate ∧ m.Audible)
      (fun h hm => ⟨h.roomy hm.1, h.audible hm.1 hm.2⟩) (processBuffers_iteration _)
      ⟨hroom.receive hfits, ?_⟩).2
    have hpush : ∀ buffer : List AudioFrame, (∀ f ∈ buffer, f.samples ≠ []) →
        ∀ f ∈ pushFrame buffer (m.arriving call), f.samples ≠ [] := by
      intro buffer hbuffer f hf
      rcases List.mem_append.mp ((pushFrame_sublist _ _).subset hf) with hf | hf
      · exact hbuffer f hf
      · obtain rfl := List.mem_singleton.mp hf
        exact toSamples_ne_nil hbuf hfits.1
    cases hcall : call.isAgent with
    | true =>
      obtain ⟨active, hreceive⟩ := receive_agent (m := m) hcall
      rw [hreceive]
      exact ⟨hm.mixed, hpush _ hm.agent, hm.user, hm.track⟩
    | false =>
      rw [receive_user hcall]
      exact ⟨hm.mixed, hm.agent, hpush _ hm.user, hm.track⟩

/-! ### From a start or a discard to the stop -/

/-- A mixer as it is at the start of a recording and after a discard. -/
structure Mixer.Blank (m : Mixer) : Prop where
  agentBuffer : m.agentBuffer = []
  userBuffer : m.userBuffer = []
  audioBuffer : m.audioBuffer = []
  userOnlyBuffer : m.userOnlyBuffer = []
  accepted : m.accepted = []
  userAccepted : m.userAccepted = []
  userWritten : m.userWritten = []
  userProcessed : m.userProcessed = []
  mixed : m.mixed = []
  arrivals : m.arrivals = 0

lemma Mixer.blank_new (now : Int) (sampleRate : ℕ) : (Mixer.new now sampleRate).Blank :=
  ⟨rfl, rfl, rfl, rfl, rfl, rfl, rfl, rfl, rfl, rfl⟩

lemma Mixer.blank_clearBuffers (m : Mixer) : m.clearBuffers.Blank :=
  ⟨rfl, rfl, rfl, rfl, rfl, rfl, rfl, rfl, rfl, rfl⟩

/-- The frames are all there if and only if none was lost and none waits. -/
lemma Mixer.Numbered.lost_le_of_subset (hn : m.Numbered)
    (hsub : ∀ f ∈ m.accepted, f ∈ m.contributed) :
    m.lost + m.agentBuffer.length + m.userBuffer.length ≤ 0 := by
  have hnodup : m.accepted.Nodup := hn.ordered.imp fun hlt heq => by
    rw [heq] at hlt
    exact Nat.lt_irrefl _ hlt
  have hlen := (List.subperm_of_subset hnodup hsub).length_le
  rw [lost, length_held]
  omega

/-- What holds of a mixer that was blank and has received frames. -/
structure Mixer.Recorded (m : Mixer) (sampleRate : ℕ) : Prop where
  sound : m.Sound
  numbered : m.Numbered
  audible : m.Audible
  roomy : m.Roomy sampleRate

lemma Mixer.Blank.roomy (hb : m.Blank)
    (hlength : m.mixBuffer.length = sampleRate * frameDurationMs / 1000) : m.Roomy sampleRate :=
  ⟨hlength, by simp [hb.agentBuffer], by simp [hb.userBuffer]⟩

lemma Mixer.Blank.recorded (hb : m.Blank)
    (hlength : m.mixBuffer.length = sampleRate * frameDurationMs / 1000) :
    m.Recorded sampleRate where
  sound :=
    { stamped := by simp [hb.userBuffer]
      ordered := by simp [userStream, hb.userProcessed, hb.userBuffer]
      numbered := by simp [userStream, hb.userProcessed, hb.userBuffer]
      track := by simp [hb.userOnlyBuffer, hb.userWritten]
      oneEmpty := Or.inl hb.agentBuffer }
  numbered := ⟨by simp [hb.accepted], by simp [hb.accepted]⟩
  audible :=
    ⟨by simp [hb.mixed], by simp [hb.agentBuffer], by simp [hb.userBuffer],
      by simp [hb.audioBuffer, hb.mixed]⟩
  roomy := hb.roomy hlength

lemma Mixer.Blank.kept (hb : m.Blank) : m.Kept :=
  ⟨by simp [hb.accepted], by simp [hb.userAccepted]⟩

lemma Mixer.Blank.lost (hb : m.Blank) : m.lost = 0 := by
  simp [Mixer.lost, held, contributed, hb.accepted, hb.mixed, hb.agentBuffer, hb.userBuffer]

/-- The frames of a stretch without a discard. -/
def AllFit (calls : List Arrival) (sampleRate : ℕ) : Prop := ∀ call ∈ calls, call.Fits sampleRate

/-- What a call has brought. -/
lemma Mixer.accepted_addFrame (m : Mixer) (call : Arrival) :
    let brought := (numberedFrom m.arrivals [call])
    (m.addFrame call).accepted = m.accepted ++ brought.map (fun p => p.1.frame p.2) ∧
      (m.addFrame call).userAccepted =
        m.userAccepted ++ (brought.filter fun p => !p.1.isAgent).map (fun p => p.1.frame p.2) ∧
      (m.addFrame call).arrivals = m.arrivals + brought.length := by
  by_cases hbuf : call.buf = []
  · simp [addFrame, numberedFrom, hbuf]
  · have hfixed : ∀ {m' : Mixer}, ReflTransGen Iteration (m.receive call) m' →
        m'.accepted = (m.receive call).accepted ∧
          m'.userAccepted = (m.receive call).userAccepted ∧
            m'.arrivals = (m.receive call).arrivals := by
      intro m' hiters
      refine iterations_invariant (I := fun m' => m'.accepted = (m.receive call).accepted ∧
        m'.userAccepted = (m.receive call).userAccepted ∧
          m'.arrivals = (m.receive call).arrivals) (fun h hm => ?_) hiters ⟨rfl, rfl, rfl⟩
      obtain ⟨-, harrivals, haccepted, huser⟩ := h.fixed
      exact ⟨haccepted.trans hm.1, huser.trans hm.2.1, harrivals.trans hm.2.2⟩
    obtain ⟨haccepted, huser, harrivals⟩ := hfixed (processBuffers_iteration _)
    rw [addFrame, if_neg hbuf, haccepted, huser, harrivals]
    cases hcall : call.isAgent with
    | true =>
      obtain ⟨active, hreceive⟩ := receive_agent (m := m) hcall
      simp [hreceive, numberedFrom, hbuf, hcall, arriving]
    | false => simp [receive_user hcall, numberedFrom, hbuf, hcall, arriving]

lemma numberedFrom_cons (n : ℕ) (call : Arrival) (calls : List Arrival) :
    numberedFrom n (call :: calls) =
      numberedFrom n [call] ++ numberedFrom (n + (numberedFrom n [call]).length) calls := by
  by_cases hbuf : call.buf = [] <;> simp [numberedFrom, hbuf]

/-- What the calls of a run have brought. -/
lemma Mixer.accepted_run (hr : run Recording.step m₀ calls = some m) :
    let brought := numberedFrom m₀.arrivals calls
    m.accepted = m₀.accepted ++ brought.map (fun p => p.1.frame p.2) ∧
      m.userAccepted =
        m₀.userAccepted ++ (brought.filter fun p => !p.1.isAgent).map (fun p => p.1.frame p.2) := by
  induction calls generalizing m₀ with
  | nil =>
    cases hr
    simp [numberedFrom]
  | cons call calls ih =>
    obtain ⟨m₁, h₁, hr⟩ := Option.bind_eq_some_iff.mp hr
    obtain ⟨-, rfl⟩ := step_eq h₁
    obtain ⟨haccepted, huser, harrivals⟩ := m₀.accepted_addFrame call
    obtain ⟨haccepted', huser'⟩ := ih hr
    rw [harrivals] at haccepted' huser'
    intro brought
    have hbrought : brought = _ := numberedFrom_cons m₀.arrivals call calls
    constructor
    · rw [haccepted', haccepted, hbrought, List.map_append, List.append_assoc]
    · rw [huser', huser, hbrought, List.filter_append, List.map_append, List.append_assoc]

lemma Mixer.Blank.accepted_run (hb : m₀.Blank) (hr : run Recording.step m₀ calls = some m) :
    m.accepted = framesOf calls ∧ m.userAccepted = userFramesOf calls := by
  have h := Mixer.accepted_run hr
  rw [hb.accepted, hb.userAccepted, hb.arrivals] at h
  exact h

lemma Mixer.Recorded.run (hb : m₀.Recorded sampleRate) (hfits : AllFit calls sampleRate)
    (hr : run Recording.step m₀ calls = some m) : m.Recorded sampleRate := by
  induction calls generalizing m₀ with
  | nil =>
    cases hr
    exact hb
  | cons call calls ih =>
    obtain ⟨m₁, h₁, hr⟩ := Option.bind_eq_some_iff.mp hr
    obtain ⟨hclock, rfl⟩ := step_eq h₁
    have hfirst := hfits call (List.mem_cons_self ..)
    refine ih ⟨hb.sound.addFrame hclock, hb.numbered.addFrame,
      hb.audible.addFrame hb.roomy hfirst, hb.roomy.addFrame hfirst⟩ ?_ hr
    exact fun c hc => hfits c (List.mem_cons_of_mem _ hc)

lemma mem_contributed_iff (hm : m.Audible) :
    f ∈ m.contributed ↔ ∃ segment ∈ m.mixed, f ∈ segment.frames ∧ segment.samples ≠ [] := by
  simp only [Mixer.contributed, List.mem_flatMap]
  constructor
  · rintro ⟨segment, hmem, hf⟩
    exact ⟨segment, hmem, hf, hm.mixed segment hmem⟩
  · rintro ⟨segment, hmem, hf, -⟩
    exact ⟨segment, hmem, hf⟩

/-- Every frame is in its tracks at the end of a run if and only if every frame found room and none
waits. -/
lemma Mixer.Blank.all_iff (hb : m₀.Blank) (hnumbered : m.Numbered)
    (hr : run Recording.step m₀ calls = some m) :
    ((∀ f ∈ m.userAccepted, f ∈ m.userWritten) ∧ ∀ f ∈ m.accepted, f ∈ m.contributed) ↔
      Guarded Recording.step HasRoom m₀ calls ∧ m.agentBuffer = [] ∧ m.userBuffer = [] := by
  constructor
  · rintro ⟨-, hboth⟩
    have hle := hnumbered.lost_le_of_subset hboth
    obtain ⟨hguard, hmono⟩ := guarded_of_measure (G := HasRoom) (I := fun _ => True) Mixer.lost
      (fun _ _ _ _ _ => trivial)
      (fun m call m' _ hm' => by
        obtain ⟨-, rfl⟩ := step_eq hm'
        exact lost_addFrame_le m call)
      (fun m call m' _ hm' hroom => by
        obtain ⟨-, rfl⟩ := step_eq hm'
        exact lost_addFrame_lt hroom)
      trivial hr (by rw [hb.lost]; omega)
    rw [hb.lost] at hmono
    exact ⟨hguard, List.length_eq_zero_iff.mp (by omega), List.length_eq_zero_iff.mp (by omega)⟩
  · rintro ⟨hguard, hagent, huser⟩
    have hk : m.Kept := by
      refine run_invariant (fun m call m' hk hroom hm' => ?_) hb.kept hguard hr
      obtain ⟨-, rfl⟩ := step_eq hm'
      exact hk.addFrame hroom
    constructor
    · intro f hf
      simpa [huser] using hk.user f hf
    · intro f hf
      simpa [held, hagent, huser] using hk.both f hf

/-! ### The tracks of the recorder -/

lemma Recorder.step_writeFrame (m : Mixer) (call : Arrival) :
    Recorder.step ⟨true, some m⟩ (.writeFrame call) =
      (Recording.step m call).map fun m' => ⟨true, some m'⟩ := by
  simp only [Recorder.step, Recording.step, Recorder.writeFrame, Mixer.addFrame, Option.mem_some]
  by_cases hclock : m.clock ≤ call.seen
  · by_cases hbuf : call.buf = [] <;> simp [hclock, hbuf]
  · simp [hclock]

/-- A recorder that records runs as its mixer does. -/
lemma Recorder.run_writeFrame (m : Mixer) (calls : List Arrival) :
    run Recorder.step ⟨true, some m⟩ (calls.map .writeFrame) =
      (run Recording.step m calls).map fun m' => ⟨true, some m'⟩ := by
  induction calls generalizing m with
  | nil => rfl
  | cons call calls ih =>
    simp only [List.map_cons, run_cons, step_writeFrame]
    cases Recording.step m call with
    | none => rfl
    | some m' => exact ih m'

lemma Recorder.guarded_writeFrame (m : Mixer) (calls : List Arrival) :
    Guarded Recorder.step Recorder.HasRoom ⟨true, some m⟩ (calls.map .writeFrame) ↔
      Guarded Recording.step Mixer.HasRoom m calls := by
  induction calls generalizing m with
  | nil => rfl
  | cons call calls ih =>
    simp only [List.map_cons, Guarded, step_writeFrame]
    refine and_congr ?_ ?_
    · simp [Recorder.HasRoom]
    · cases hstep : Recording.step m call with
      | none => simp
      | some m' => simpa using ih m'

/-- A recorder that records, with a mixer that mixes so many samples at once. -/
def Recorder.Records (r : Recorder) (size : ℕ) : Prop :=
  r.isRecording = true ∧ ∃ m, r.mixer = some m ∧ m.mixBuffer.length = size

lemma Recorder.recording_step {e : Event} {size : ℕ} (hrec : r.Records size)
    {r' : Recorder} (h : r.step e = some r') : r'.Records size := by
  obtain ⟨hon, m, hm, hlength⟩ := hrec
  obtain ⟨on, mixer⟩ := r
  cases hon
  cases hm
  cases e with
  | writeFrame call =>
    rw [step_writeFrame] at h
    obtain ⟨m', hm', rfl⟩ := Option.map_eq_some_iff.mp h
    obtain ⟨-, rfl⟩ := step_eq hm'
    exact ⟨rfl, _, rfl, (m.length_mixBuffer_addFrame call).trans hlength⟩
  | discardBufferedAudio =>
    cases h
    exact ⟨rfl, m.clearBuffers, rfl, hlength⟩

/-- The recorder after its start or a discard. -/
lemma Recorder.blank_of_discard (hpre : pre = [] ∨ ∃ es, pre = es ++ [.discardBufferedAudio])
    (hr : run Recorder.step ⟨true, some (.new now sampleRate)⟩ pre = some r) :
    ∃ m, r = ⟨true, some m⟩ ∧ m.Blank ∧
      m.mixBuffer.length = sampleRate * frameDurationMs / 1000 := by
  rcases hpre with rfl | ⟨es, rfl⟩
  · cases hr
    exact ⟨_, rfl, Mixer.blank_new now sampleRate, List.length_replicate⟩
  · rw [run_concat] at hr
    obtain ⟨⟨on, mixer⟩, hr₁, hstep⟩ := Option.bind_eq_some_iff.mp hr
    obtain ⟨hon, m, hm, hlength⟩ := run_invariant'
      (fun r e r' hrec h => recording_step hrec h) ⟨rfl, _, rfl, List.length_replicate⟩ hr₁
    cases hon
    cases hm
    cases hstep
    exact ⟨_, rfl, Mixer.blank_clearBuffers m, hlength⟩

lemma track_getD (samples : List Int16) : (track samples).getD [] = samples := by
  unfold track
  split_ifs with h
  · exact h.symm
  · rfl

/-- Every frame that a recording was given since its start or the last discard is in its tracks if
and only if each found room in its buffer and none waits at the stop. The frames are of even length,
and no longer than what `mix_buffer` has room for. -/
theorem recording_complete_iff {created : Int}
    (hpre : pre = [] ∨ ∃ es, pre = es ++ [.discardBufferedAudio]) (hfits : AllFit calls sampleRate)
    (hr₀ : run Recorder.step ((Recorder.new created sampleRate).startRecording now sampleRate) pre =
      some r₀)
    (hr : run Recorder.step r₀ (calls.map .writeFrame) = some r) :
    r.Complete calls ↔
      Guarded Recorder.step Recorder.HasRoom r₀ (calls.map .writeFrame) ∧ r.Drained := by
  obtain ⟨m₀, rfl, hb, hlength⟩ := Recorder.blank_of_discard hpre hr₀
  rw [Recorder.run_writeFrame] at hr
  obtain ⟨m, hm, rfl⟩ := Option.map_eq_some_iff.mp hr
  have hrec := (hb.recorded hlength).run hfits hm
  obtain ⟨haccepted, huser⟩ := hb.accepted_run hm
  have hcomplete : Recorder.Complete ⟨true, some m⟩ calls ↔
      (∀ f ∈ m.userAccepted, f ∈ m.userWritten) ∧ ∀ f ∈ m.accepted, f ∈ m.contributed := by
    rw [haccepted, huser]
    constructor
    · rintro ⟨m', hm', hc⟩
      cases hm'
      exact ⟨hc.user, fun f hf => (mem_contributed_iff hrec.audible).mpr (hc.both f hf)⟩
    · rintro ⟨huser, hboth⟩
      refine ⟨m, rfl, ?_, huser, ?_, fun f hf => (mem_contributed_iff hrec.audible).mp (hboth f hf)⟩
      · exact (track_getD _).trans hrec.sound.track
      · exact (track_getD _).trans hrec.audible.track
  have hdrained : Recorder.Drained ⟨true, some m⟩ ↔ m.agentBuffer = [] ∧ m.userBuffer = [] := by
    simp [Recorder.Drained]
  rw [hcomplete, hdrained, Recorder.guarded_writeFrame]
  exact hb.all_iff hrec.numbered hm

/-- A user frame, and an agent's frame that waits for the user frame it is mixed with. -/
theorem recording_complete_sample : ∃ r,
    run Recorder.step ((Recorder.new 0).startRecording 0)
      ([.at 0 false, .at 10 true, .at 20 false].map .writeFrame) = some r ∧
    r.Complete [.at 0 false, .at 10 true, .at 20 false] := by
  have hempty : ((run Recorder.step ((Recorder.new 0).startRecording 0)
      ([.at 0 false, .at 10 true, .at 20 false].map .writeFrame)).bind (·.mixer)).map
        (fun m => (m.agentBuffer, m.userBuffer)) = some ([], []) := by
    decide +kernel
  obtain ⟨m, hm, hempty⟩ := Option.map_eq_some_iff.mp hempty
  obtain ⟨r, hr, hm⟩ := Option.bind_eq_some_iff.mp hm
  obtain ⟨hagent, huser⟩ := Prod.mk.inj hempty
  refine ⟨r, hr, (recording_complete_iff (Or.inl rfl) ?_ rfl hr).mpr ⟨?_, m, hm, hagent, huser⟩⟩
  · simp [AllFit, Arrival.Fits, Arrival.at, frameDurationMs]
  · decide +kernel

/-- The first user frame waits for the agent's next frame, and the recording stops. -/
theorem waiting_frame_lost : ¬∀ (created now : Int) (calls : List Arrival) (r : Recorder),
    AllFit calls 8000 →
    run Recorder.step ((Recorder.new created).startRecording now) (calls.map .writeFrame) = some r →
      r.Complete calls := by
  intro h
  have hlost : ((run Recorder.step ((Recorder.new 0).startRecording 0)
      ([.at 0 true, .at 10 false].map .writeFrame)).bind (·.mixer)).map
        (fun m => m.userWritten) = some [] := by
    decide +kernel
  obtain ⟨m, hm, hlost⟩ := Option.map_eq_some_iff.mp hlost
  obtain ⟨r, hr, hm⟩ := Option.bind_eq_some_iff.mp hm
  have hfits : AllFit [.at 0 true, .at 10 false] 8000 := by
    simp [AllFit, Arrival.Fits, Arrival.at, frameDurationMs]
  obtain ⟨m', hm', hcomplete⟩ := h 0 0 _ r hfits hr
  cases hm.symm.trans hm'
  have hwritten := hcomplete.user ((Arrival.at 10 false).frame 1) (by decide +kernel)
  rw [hlost] at hwritten
  cases hwritten

end MediaServer.Recording
