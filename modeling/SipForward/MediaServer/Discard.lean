import SipForward.MediaServer.AudioMixer
import Mathlib.Data.List.Forall2

/-!
# A mixer that was cleared

`clearBuffers` does not reset every field of the mixer. Two mixers are alike when no later call of
`addFrame` tells them apart; a mixer that was cleared is like a new one, and calls keep mixers
alike.
-/

namespace MediaServer.Recording

open List

/-! ### Mixers that are alike -/

/-- The same frame, but for its number. -/
def AudioFrame.Alike (f f' : AudioFrame) : Prop :=
  f.samples = f'.samples ∧ f.timestamp = f'.timestamp

/-- Two mixers with the same frames and the same tracks. The time of the agent's last frame is read
for an active agent only; of `mix_buffer` only the length matters, since it is written before it is
read, and nothing reads the fields about the user's silence. -/
structure Mixer.Alike (m m' : Mixer) : Prop where
  agentBuffer : Forall₂ AudioFrame.Alike m.agentBuffer m'.agentBuffer
  userBuffer : Forall₂ AudioFrame.Alike m.userBuffer m'.userBuffer
  audioBuffer : m.audioBuffer = m'.audioBuffer
  userOnlyBuffer : m.userOnlyBuffer = m'.userOnlyBuffer
  agentSilenceCount : m.agentSilenceCount = m'.agentSilenceCount
  agentStreamActive : m.agentStreamActive = m'.agentStreamActive
  userStreamActive : m.userStreamActive = m'.userStreamActive
  lastAgentFrame : m.agentStreamActive = true → m.lastAgentFrame = m'.lastAgentFrame
  room : m.mixBuffer.length = m'.mixBuffer.length

variable {m m' : Mixer} {a a' u u' f f' : AudioFrame}

lemma Mixer.alike_clearBuffers {sampleRate : ℕ} (now : Int)
    (hlength : m.mixBuffer.length = (Mixer.new now sampleRate).mixBuffer.length) :
    m.clearBuffers.Alike (.new now sampleRate) where
  agentBuffer := .nil
  userBuffer := .nil
  audioBuffer := rfl
  userOnlyBuffer := rfl
  agentSilenceCount := rfl
  agentStreamActive := rfl
  userStreamActive := rfl
  lastAgentFrame := by
    intro hactive
    cases hactive
  room := hlength

/-! ### Writing and mixing -/

lemma Mixer.Alike.writeSingleStream (h : m.Alike m') (hf : f.Alike f') :
    (m.writeSingleStream f).Alike (m'.writeSingleStream f') :=
  { h with
    audioBuffer := by
      show m.audioBuffer ++ f.samples = m'.audioBuffer ++ f'.samples
      rw [h.audioBuffer, hf.1] }

lemma Mixer.Alike.writeUserOnlyStream (h : m.Alike m') (hf : f.Alike f') :
    (m.writeUserOnlyStream f).Alike (m'.writeUserOnlyStream f') :=
  { h with
    userOnlyBuffer := by
      show m.userOnlyBuffer ++ f.samples = m'.userOnlyBuffer ++ f'.samples
      rw [h.userOnlyBuffer, hf.1] }

/-- What was in `mix_buffer` is not heard. -/
lemma Mixer.Alike.mixFrames (h : m.Alike m') (ha : a.Alike a') (hu : u.Alike u') :
    (m.mixFrames a u).Alike (m'.mixFrames a' u') :=
  { h with
    audioBuffer := by
      rw [mixFrames_audioBuffer, mixFrames_audioBuffer, Segment.samples, Segment.samples, ha.1,
        hu.1, h.audioBuffer, h.room]
    room := by rw [length_mixFrames, length_mixFrames, h.room] }

lemma Mixer.Alike.popAgent (h : m.Alike m') : m.popAgent.Alike m'.popAgent :=
  { h with
    agentBuffer := by
      show Forall₂ AudioFrame.Alike m.agentBuffer.tail m'.agentBuffer.tail
      simpa only [List.drop_one] using forall₂_drop 1 h.agentBuffer }

lemma Mixer.Alike.popUser (h : m.Alike m') : m.popUser.Alike m'.popUser :=
  { h with
    userBuffer := by
      show Forall₂ AudioFrame.Alike m.userBuffer.tail m'.userBuffer.tail
      simpa only [List.drop_one] using forall₂_drop 1 h.userBuffer }

/-! ### The loops -/

lemma Mixer.agentLoop_of_nil (h : m.agentBuffer = []) : m.agentLoop = m := by
  rw [agentLoop]
  split
  · rfl
  · next hcons => simp [h] at hcons

lemma Mixer.agentLoop_cons {agents : List AudioFrame} (h : m.agentBuffer = a :: agents) :
    m.agentLoop = ((m.writeSingleStream a).popAgent).agentLoop := by
  rw [agentLoop]
  split
  · next hnil => simp [h] at hnil
  · next a₁ agents₁ hcons =>
    rw [h] at hcons
    cases hcons
    rfl

lemma Mixer.userLoop_of_nil (h : m.userBuffer = []) : m.userLoop = m := by
  rw [userLoop]
  split
  · rfl
  · next hcons => simp [h] at hcons

lemma Mixer.userLoop_cons {users : List AudioFrame} (h : m.userBuffer = u :: users) :
    m.userLoop = (((m.writeUserOnlyStream u).writeSingleStream u).popUser).userLoop := by
  rw [userLoop]
  split
  · next hnil => simp [h] at hnil
  · next u₁ users₁ hcons =>
    rw [h] at hcons
    cases hcons
    rfl

lemma Mixer.Alike.agentLoop (h : m.Alike m') : m.agentLoop.Alike m'.agentLoop := by
  induction hlist : m.agentBuffer generalizing m m' with
  | nil =>
    have hlist' := h.agentBuffer
    rw [hlist, forall₂_nil_left_iff] at hlist'
    rw [agentLoop_of_nil hlist, agentLoop_of_nil hlist']
    exact h
  | cons a agents ih =>
    have hlist' := h.agentBuffer
    rw [hlist, forall₂_cons_left_iff] at hlist'
    obtain ⟨a', agents', ha, -, hlist'⟩ := hlist'
    rw [agentLoop_cons hlist, agentLoop_cons hlist']
    refine ih (h.writeSingleStream ha).popAgent ?_
    simp [Mixer.popAgent, Mixer.writeSingleStream, hlist]

lemma Mixer.Alike.userLoop (h : m.Alike m') : m.userLoop.Alike m'.userLoop := by
  induction hlist : m.userBuffer generalizing m m' with
  | nil =>
    have hlist' := h.userBuffer
    rw [hlist, forall₂_nil_left_iff] at hlist'
    rw [userLoop_of_nil hlist, userLoop_of_nil hlist']
    exact h
  | cons u users ih =>
    have hlist' := h.userBuffer
    rw [hlist, forall₂_cons_left_iff] at hlist'
    obtain ⟨u', users', hu, -, hlist'⟩ := hlist'
    rw [userLoop_cons hlist, userLoop_cons hlist']
    refine ih ((h.writeUserOnlyStream hu).writeSingleStream hu).popUser ?_
    simp [Mixer.popUser, Mixer.writeSingleStream, Mixer.writeUserOnlyStream, hlist]

/-- The loop looks at the timestamps of the frames only. -/
lemma timeDiff_alike (ha : a.Alike a') (hu : u.Alike u') : timeDiff a u = timeDiff a' u' := by
  unfold timeDiff
  rw [ha.2, hu.2]

lemma Mixer.Alike.mixLoop {m m' : Mixer} (h : m.Alike m') : m.mixLoop.Alike m'.mixLoop := by
  induction m using iteration_induction generalizing m' with
  | step m ih =>
    cases hagents : m.agentBuffer with
    | nil =>
      have hagents' := h.agentBuffer
      rw [hagents, forall₂_nil_left_iff] at hagents'
      rw [mixLoop_of_nil (Or.inl hagents), mixLoop_of_nil (Or.inl hagents')]
      exact h
    | cons a agents =>
      cases husers : m.userBuffer with
      | nil =>
        have husers' := h.userBuffer
        rw [husers, forall₂_nil_left_iff] at husers'
        rw [mixLoop_of_nil (Or.inr husers), mixLoop_of_nil (Or.inr husers')]
        exact h
      | cons u users =>
        have hagents' := h.agentBuffer
        have husers' := h.userBuffer
        rw [hagents, forall₂_cons_left_iff] at hagents'
        rw [husers, forall₂_cons_left_iff] at husers'
        obtain ⟨a', agents', ha, -, hagents'⟩ := hagents'
        obtain ⟨u', users', hu, -, husers'⟩ := husers'
        rw [mixLoop_cons hagents husers, mixLoop_cons hagents' husers', timeDiff_alike ha hu]
        have hwrite := h.writeUserOnlyStream hu
        split_ifs
        · exact ih _ (.prompt (.userAlone husers)) (hwrite.writeSingleStream hu).popUser
        · exact ih _ (.late hagents husers) (hwrite.writeSingleStream ha).popAgent
        · exact ih _ (.prompt (.mix hagents husers)) (hwrite.mixFrames ha hu).popAgent.popUser

lemma Mixer.Alike.processBuffers (h : m.Alike m') : m.processBuffers.Alike m'.processBuffers := by
  unfold Mixer.processBuffers
  rw [h.agentStreamActive, h.userStreamActive]
  split_ifs
  · exact h.agentLoop
  · exact h.userLoop
  · exact h.mixLoop

/-! ### A call -/

/-- The clock matters for an active agent only. -/
lemma Mixer.Alike.checkStreamActivity (h : m.Alike m') (now : Int) :
    (m.checkStreamActivity now).Alike (m'.checkStreamActivity now) := by
  cases hactive : m.agentStreamActive with
  | true =>
    have hquiet : maxSilenceFrames < m.agentSilenceCount ∨
          1000 < milliseconds (now - m.lastAgentFrame) ↔
        maxSilenceFrames < m'.agentSilenceCount ∨
          1000 < milliseconds (now - m'.lastAgentFrame) := by
      rw [h.agentSilenceCount, h.lastAgentFrame hactive]
    unfold Mixer.checkStreamActivity
    by_cases hm : maxSilenceFrames < m.agentSilenceCount ∨
        1000 < milliseconds (now - m.lastAgentFrame)
    · rw [if_pos hm, if_pos (hquiet.mp hm)]
      exact
        { h with
          agentStreamActive := rfl
          lastAgentFrame := fun hfalse => by cases hfalse }
    · rw [if_neg hm, if_neg (mt hquiet.mpr hm)]
      exact h
  | false =>
    have hidle : ∀ m : Mixer, m.agentStreamActive = false → m.checkStreamActivity now = m := by
      intro m hfalse
      unfold Mixer.checkStreamActivity
      split_ifs
      · rw [← hfalse]
      · rfl
    rw [hidle m hactive, hidle m' (h.agentStreamActive ▸ hactive)]
    exact h

lemma forall₂_pushFrame {buffer buffer' : List AudioFrame}
    (h : Forall₂ AudioFrame.Alike buffer buffer') (hf : f.Alike f') :
    Forall₂ AudioFrame.Alike (pushFrame buffer f) (pushFrame buffer' f') := by
  unfold pushFrame
  rw [h.length_eq]
  exact forall₂_drop _ (rel_append h (.cons hf .nil))

lemma Mixer.Alike.receive (h : m.Alike m') (call : Arrival) :
    (m.receive call).Alike (m'.receive call) := by
  have hf : (m.arriving call).Alike (m'.arriving call) := ⟨rfl, rfl⟩
  unfold Mixer.receive
  refine checkStreamActivity ?_ call.now
  cases hcall : call.isAgent with
  | true =>
    exact
      { h with
        agentBuffer := forall₂_pushFrame h.agentBuffer hf
        agentSilenceCount := by
          show (if _ then m.agentSilenceCount + 1 else 0) =
            if _ then m'.agentSilenceCount + 1 else 0
          rw [h.agentSilenceCount]
        agentStreamActive := rfl
        lastAgentFrame := fun _ => rfl }
  | false =>
    exact
      { h with
        userBuffer := forall₂_pushFrame h.userBuffer hf
        userStreamActive := rfl }

lemma Mixer.Alike.addFrame (h : m.Alike m') (call : Arrival) :
    (m.addFrame call).Alike (m'.addFrame call) := by
  unfold Mixer.addFrame
  split_ifs
  · exact h
  · exact (h.receive call).processBuffers

/-! ### A continuation -/

lemma Mixer.length_mixBuffer_addFrames (calls : List Arrival) :
    (calls.foldl Mixer.addFrame m).mixBuffer.length = m.mixBuffer.length := by
  induction calls generalizing m with
  | nil => rfl
  | cons call calls ih => exact ih.trans (m.length_mixBuffer_addFrame call)

lemma Mixer.Alike.addFrames (h : m.Alike m') (calls : List Arrival) :
    (calls.foldl Mixer.addFrame m).Alike (calls.foldl Mixer.addFrame m') := by
  induction calls generalizing m m' with
  | nil => exact h
  | cons call calls ih => exact ih (h.addFrame call)

/-- After `clearBuffers` the tracks of a mixer are those of a new one, whatever it was given
before. -/
theorem tracks_after_clearBuffers (start start' : Int) (sampleRate : ℕ)
    (history calls : List Arrival) :
    let cleared := (history.foldl Mixer.addFrame (.new start sampleRate)).clearBuffers
    let fresh := Mixer.new start' sampleRate
    (calls.foldl Mixer.addFrame cleared).audioBuffer =
        (calls.foldl Mixer.addFrame fresh).audioBuffer ∧
      (calls.foldl Mixer.addFrame cleared).userOnlyBuffer =
        (calls.foldl Mixer.addFrame fresh).userOnlyBuffer := by
  intro cleared fresh
  have h : cleared.Alike fresh :=
    Mixer.alike_clearBuffers start' (Mixer.length_mixBuffer_addFrames history)
  exact ⟨(h.addFrames calls).audioBuffer, (h.addFrames calls).userOnlyBuffer⟩

end MediaServer.Recording
