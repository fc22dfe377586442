import SipForward.Core.Blocks
import SipForward.Core.Run
import Mathlib.Data.List.Induction

/-!
# Playback of the server's audio

The audio of `playAudio` messages is cut into frames of 20 ms. Frames wait in `audio_queue` until
the media clock takes them, and the bytes after the last whole frame wait in `partial_frame` for the
next message. A `checkpoint` message is acknowledged with `playedStream` when the queue runs empty.
Messages and calls are taken whole, one after the other: the checkpoint branch reads the queue
without `queue_mutex`.
-/

namespace MediaServer.Playback

open Core

/-! ### The handler -/

/-- A sample rate that `initiateCall` accepts. -/
structure SampleRate where
  hz : ℕ
  accepted : hz = 8000 ∨ hz = 16000

/-- Bytes in 20 ms of 16-bit samples. -/
def SampleRate.bytesPerFrame (rate : SampleRate) : ℕ := rate.hz * 20 * 2 / 1000

lemma SampleRate.bytesPerFrame_pos (rate : SampleRate) : 0 < rate.bytesPerFrame := by
  unfold bytesPerFrame
  rcases rate.accepted with h | h <;> simp [h]

def maxQueueSizeRupture : ℕ := 15

def maxQueueSizeDefault : ℕ := 3000

abbrev Frame := List UInt8

/-- The acknowledgement of a checkpoint. -/
structure PlayedStream where
  streamId : String
  name : String
deriving DecidableEq, Repr

/-- The fields of the handler that playback reads and writes. -/
structure Handler where
  connected : Bool
  realTimeAudio : Bool
  audioQueue : List Frame
  partialFrame : List UInt8
  checkpointReceived : Bool
  clearAudioCalled : Bool
  pendingStreamId : String
  pendingStreamName : String
deriving DecidableEq

/-- A new handler; `realTimeAudio` is set when the URI contains "rupture". -/
def Handler.new (connected realTimeAudio : Bool) : Handler where
  connected := connected
  realTimeAudio := realTimeAudio
  audioQueue := []
  partialFrame := []
  checkpointReceived := false
  clearAudioCalled := false
  pendingStreamId := ""
  pendingStreamName := ""

/-- 16-bit PCM must be even-length: the odd byte at the end is dropped. -/
def evenCut (pcm : List UInt8) : List UInt8 :=
  if pcm.length % 2 = 1 then pcm.dropLast else pcm

/-- The loop over the whole frames of the carry-over. It gives the queue and the offset up to which
the carry-over is erased. -/
def enqueueLoop (rate : SampleRate) (realTime : Bool) (carry : List UInt8) (queue : List Frame)
    (offset : ℕ) : List Frame × ℕ :=
  if rate.bytesPerFrame ≤ carry.length - offset then
    let frame := (carry.drop offset).take rate.bytesPerFrame
    if realTime then
      let queue := if maxQueueSizeRupture ≤ queue.length then queue.tail else queue
      enqueueLoop rate realTime carry (queue ++ [frame]) (offset + rate.bytesPerFrame)
    else if queue.length < maxQueueSizeDefault then
      enqueueLoop rate realTime carry (queue ++ [frame]) (offset + rate.bytesPerFrame)
    else
      -- the frame is gone, the offset is past it
      (queue, offset + rate.bytesPerFrame)
  else (queue, offset)
termination_by carry.length - offset
decreasing_by
  all_goals
    have := rate.bytesPerFrame_pos
    omega

def enqueueAudio (rate : SampleRate) (pcm : List UInt8) (h : Handler) : Handler :=
  if rate.bytesPerFrame = 0 then h
  else
    let carry := h.partialFrame ++ evenCut pcm
    let r := enqueueLoop rate h.realTimeAudio carry h.audioQueue 0
    { h with audioQueue := r.1, partialFrame := carry.drop r.2 }

def resetCheckpointState (h : Handler) : Handler :=
  { h with
    checkpointReceived := false
    clearAudioCalled := false
    pendingStreamName := ""
    pendingStreamId := "" }

def clearAudioQueue (h : Handler) : Handler :=
  resetCheckpointState { h with audioQueue := [], partialFrame := [], clearAudioCalled := true }

/-- The message is handed to the socket, which is taken to send it. -/
def sendPlayedStreamEvent (h : Handler) : Handler × Option PlayedStream :=
  if h.connected = false ∨ h.pendingStreamId = "" then (h, none)
  else (resetCheckpointState h, some ⟨h.pendingStreamId, h.pendingStreamName⟩)

/-- What an operation gives to the media port and to the socket. -/
structure Output where
  frame : Option Frame
  playedStream : Option PlayedStream

def getAudioFrame (h : Handler) : Handler × Output :=
  match h.audioQueue with
  | []             => (h, ⟨none, none⟩)
  | frame :: queue =>
    if h.checkpointReceived = true ∧ queue = [] ∧ h.clearAudioCalled = false then
      ((sendPlayedStreamEvent { h with audioQueue := queue }).1,
        ⟨some frame, (sendPlayedStreamEvent { h with audioQueue := queue }).2⟩)
    else ({ h with audioQueue := queue }, ⟨some frame, none⟩)

/-- The branch of the message handler for `checkpoint`; both fields are optional. -/
def checkpoint (streamId name : Option String) (h : Handler) : Handler :=
  { h with
    checkpointReceived := true
    pendingStreamId := streamId.getD h.pendingStreamId
    pendingStreamName := name.getD h.pendingStreamName }

/-- An operation. A `playAudio` message is `enqueueAudio`, after `clearAudioQueue` when it ends the
ringback tone. -/
inductive Op where
  | enqueueAudio (pcm : List UInt8)
  | getAudioFrame
  | clearAudioQueue
  | checkpoint (streamId name : Option String)
  | realTimeAudio  -- a transfer switches the mode on

def Handler.apply (rate : SampleRate) (h : Handler) : Op → Handler × Output
  | .enqueueAudio pcm         => (enqueueAudio rate pcm h, ⟨none, none⟩)
  | .getAudioFrame            => getAudioFrame h
  | .clearAudioQueue          => (clearAudioQueue h, ⟨none, none⟩)
  | .checkpoint streamId name => (checkpoint streamId name h, ⟨none, none⟩)
  | .realTimeAudio            => ({ h with realTimeAudio := true }, ⟨none, none⟩)

/-- A handler and the frames it has given to the media clock. -/
structure Session where
  handler : Handler
  dequeued : List Frame

def Session.start (h : Handler) : Session := ⟨h, []⟩

def step (rate : SampleRate) (s : Session) (op : Op) : Option Session :=
  some {
    handler := (s.handler.apply rate op).1
    dequeued := s.dequeued ++ (s.handler.apply rate op).2.frame.toList }

/-! ### The loop -/

variable {rate : SampleRate} {carry pcm : List UInt8} {queue : List Frame} {offset : ℕ}

/-- A frame is queued in real-time mode: it takes the place of the oldest one. -/
def pushRupture (queue : List Frame) (frame : Frame) : List Frame :=
  (if maxQueueSizeRupture ≤ queue.length then queue.tail else queue) ++ [frame]

/-- The loop ends at the tail of the carry-over. -/
lemma enqueueLoop_of_lt {realTime : Bool} (h : carry.length - offset < rate.bytesPerFrame) :
    enqueueLoop rate realTime carry queue offset = (queue, offset) := by
  rw [enqueueLoop, if_neg (by omega)]

lemma enqueueLoop_rupture (h : rate.bytesPerFrame ≤ carry.length - offset) :
    enqueueLoop rate true carry queue offset =
      enqueueLoop rate true carry
        (pushRupture queue ((carry.drop offset).take rate.bytesPerFrame))
        (offset + rate.bytesPerFrame) := by
  rw [enqueueLoop, if_pos h]
  rfl

lemma enqueueLoop_default (h : rate.bytesPerFrame ≤ carry.length - offset)
    (hq : queue.length < maxQueueSizeDefault) :
    enqueueLoop rate false carry queue offset =
      enqueueLoop rate false carry (queue ++ [(carry.drop offset).take rate.bytesPerFrame])
        (offset + rate.bytesPerFrame) := by
  rw [enqueueLoop, if_pos h]
  simp [hq]

lemma enqueueLoop_break (h : rate.bytesPerFrame ≤ carry.length - offset)
    (hq : maxQueueSizeDefault ≤ queue.length) :
    enqueueLoop rate false carry queue offset = (queue, offset + rate.bytesPerFrame) := by
  rw [enqueueLoop, if_pos h]
  simp [Nat.not_lt.mpr hq]

/-- In real-time mode every whole frame is queued, and the tail is carried over. -/
lemma enqueueLoop_realTime (rate : SampleRate) (carry : List UInt8) (queue : List Frame)
    (offset : ℕ) :
    (enqueueLoop rate true carry queue offset).1 =
        (blocks rate.bytesPerFrame (carry.drop offset)).foldl pushRupture queue ∧
      carry.drop (enqueueLoop rate true carry queue offset).2 =
        rest rate.bytesPerFrame (carry.drop offset) := by
  by_cases h : rate.bytesPerFrame ≤ carry.length - offset
  · have hle : rate.bytesPerFrame ≤ (carry.drop offset).length := by rwa [List.length_drop]
    rw [enqueueLoop_rupture h, blocks_of_le rate.bytesPerFrame_pos hle,
      rest_of_le rate.bytesPerFrame_pos hle, List.foldl_cons, List.drop_drop]
    exact enqueueLoop_realTime _ _ _ _
  · have hlt : (carry.drop offset).length < rate.bytesPerFrame := by
      rw [List.length_drop]
      omega
    rw [enqueueLoop_of_lt (by omega), blocks_of_lt hlt, rest_of_lt hlt]
    exact ⟨rfl, rfl⟩
termination_by carry.length - offset
decreasing_by
  have := rate.bytesPerFrame_pos
  omega

/-- In default mode the frames are queued up to the limit. The frame at which the loop breaks is
neither queued nor carried over, and what comes after it stays in the carry-over. -/
lemma enqueueLoop_default_spec (rate : SampleRate) (carry : List UInt8) (queue : List Frame)
    (offset : ℕ) :
    (enqueueLoop rate false carry queue offset).1 =
        queue ++ (blocks rate.bytesPerFrame (carry.drop offset)).take
          (maxQueueSizeDefault - queue.length) ∧
      carry.drop (enqueueLoop rate false carry queue offset).2 =
        if (carry.drop offset).length / rate.bytesPerFrame ≤ maxQueueSizeDefault - queue.length
        then rest rate.bytesPerFrame (carry.drop offset)
        else (carry.drop offset).drop
          ((maxQueueSizeDefault - queue.length + 1) * rate.bytesPerFrame) := by
  by_cases h : rate.bytesPerFrame ≤ carry.length - offset
  · have hle : rate.bytesPerFrame ≤ (carry.drop offset).length := by rwa [List.length_drop]
    by_cases hq : queue.length < maxQueueSizeDefault
    · obtain ⟨k, hk⟩ : ∃ k, maxQueueSizeDefault - queue.length = k + 1 :=
        ⟨maxQueueSizeDefault - queue.length - 1, by omega⟩
      have hk' : maxQueueSizeDefault -
          (queue ++ [(carry.drop offset).take rate.bytesPerFrame]).length = k := by
        rw [List.length_append, List.length_singleton]
        omega
      obtain ⟨hqueue, hcarry⟩ := enqueueLoop_default_spec rate carry
        (queue ++ [(carry.drop offset).take rate.bytesPerFrame]) (offset + rate.bytesPerFrame)
      rw [hk', ← List.drop_drop] at hqueue hcarry
      rw [enqueueLoop_default h hq, hqueue, hcarry, hk, blocks_of_le rate.bytesPerFrame_pos hle,
        rest_of_le rate.bytesPerFrame_pos hle, length_div_of_le rate.bytesPerFrame_pos hle,
        List.take_succ_cons, List.append_assoc, List.singleton_append]
      refine ⟨rfl, ?_⟩
      simp only [Nat.add_le_add_iff_right]
      congr 1
      rw [List.drop_drop]
      congr 1
      rw [Nat.succ_mul (k + 1)]
      omega
    · have hzero : maxQueueSizeDefault - queue.length = 0 := by omega
      have hpos := Nat.div_pos hle rate.bytesPerFrame_pos
      rw [enqueueLoop_break h (by omega), hzero, if_neg (by omega)]
      simp
  · have hlt : (carry.drop offset).length < rate.bytesPerFrame := by
      rw [List.length_drop]
      omega
    rw [enqueueLoop_of_lt (by omega), blocks_of_lt hlt, rest_of_lt hlt, Nat.div_eq_of_lt hlt]
    simp
termination_by carry.length - offset
decreasing_by
  have := rate.bytesPerFrame_pos
  omega

/-! ### Chunks

The frames do not depend on how the server cuts its audio into messages.
-/

variable {h : Handler} {s s' : Session} {op : Op} {ops : List Op}

lemma enqueueAudio_eq (rate : SampleRate) (pcm : List UInt8) (h : Handler) :
    enqueueAudio rate pcm h =
      { h with
        audioQueue :=
          (enqueueLoop rate h.realTimeAudio (h.partialFrame ++ evenCut pcm) h.audioQueue 0).1
        partialFrame := (h.partialFrame ++ evenCut pcm).drop
          (enqueueLoop rate h.realTimeAudio (h.partialFrame ++ evenCut pcm)
            h.audioQueue 0).2 } := by
  rw [enqueueAudio, if_neg (Nat.ne_of_gt rate.bytesPerFrame_pos)]

lemma enqueueAudio_realTime (rate : SampleRate) (pcm : List UInt8)
    (hmode : h.realTimeAudio = true) :
    (enqueueAudio rate pcm h).audioQueue =
        (blocks rate.bytesPerFrame (h.partialFrame ++ evenCut pcm)).foldl pushRupture h.audioQueue ∧
      (enqueueAudio rate pcm h).partialFrame =
        rest rate.bytesPerFrame (h.partialFrame ++ evenCut pcm) := by
  have hloop := enqueueLoop_realTime rate (h.partialFrame ++ evenCut pcm) h.audioQueue 0
  rw [List.drop_zero] at hloop
  rw [enqueueAudio_eq, hmode]
  exact hloop

lemma enqueueAudio_default (rate : SampleRate) (pcm : List UInt8)
    (hmode : h.realTimeAudio = false) :
    (enqueueAudio rate pcm h).audioQueue =
        h.audioQueue ++ (blocks rate.bytesPerFrame (h.partialFrame ++ evenCut pcm)).take
          (maxQueueSizeDefault - h.audioQueue.length) ∧
      (enqueueAudio rate pcm h).partialFrame =
        if (h.partialFrame ++ evenCut pcm).length / rate.bytesPerFrame ≤
            maxQueueSizeDefault - h.audioQueue.length
        then rest rate.bytesPerFrame (h.partialFrame ++ evenCut pcm)
        else (h.partialFrame ++ evenCut pcm).drop
          ((maxQueueSizeDefault - h.audioQueue.length + 1) * rate.bytesPerFrame) := by
  have hloop := enqueueLoop_default_spec rate (h.partialFrame ++ evenCut pcm) h.audioQueue 0
  rw [List.drop_zero] at hloop
  rw [enqueueAudio_eq, hmode]
  exact hloop

/-- Real-time mode drops frames at the head only. -/
lemma foldl_pushRupture_suffix (frames queue : List Frame) :
    ∃ dropped, queue ++ frames = dropped ++ frames.foldl pushRupture queue := by
  induction frames generalizing queue with
  | nil => exact ⟨[], by simp⟩
  | cons frame frames ih =>
    obtain ⟨dropped, hdropped⟩ := ih (pushRupture queue frame)
    rw [List.foldl_cons]
    by_cases hfull : maxQueueSizeRupture ≤ queue.length
    · cases queue with
      | nil => cases hfull
      | cons oldest queue =>
        have hpush : pushRupture (oldest :: queue) frame = queue ++ [frame] := by
          rw [pushRupture, if_pos hfull, List.tail_cons]
        refine ⟨oldest :: dropped, ?_⟩
        rw [hpush] at hdropped ⊢
        simp only [List.cons_append, ← hdropped, List.append_assoc, List.nil_append]
    · have hpush : pushRupture queue frame = queue ++ [frame] := by
        rw [pushRupture, if_neg hfull]
      refine ⟨dropped, ?_⟩
      rw [← hdropped, hpush, List.append_assoc, List.singleton_append]

/-- The bytes that a run has been given, in the order of the messages. -/
def received (ops : List Op) : List UInt8 :=
  ops.flatMap fun op => match op with
    | .enqueueAudio pcm => evenCut pcm
    | _                 => []

lemma received_concat (ops : List Op) (op : Op) :
    received (ops ++ [op]) = received ops ++ received [op] := by
  simp [received]

/-- The operation neither clears the queue nor switches the mode. -/
def Op.plays : Op → Bool
  | .clearAudioQueue | .realTimeAudio => false
  | _                                 => true

/-- The queue and the carry-over are the end of the stream `bytes`, and the frames dequeued so far
are from before it: all of them in default mode. -/
structure Session.Plays (rate : SampleRate) (s : Session) (bytes : List UInt8) : Prop where
  carry : s.handler.partialFrame = rest rate.bytesPerFrame bytes
  queue : ∃ before, blocks rate.bytesPerFrame bytes = before ++ s.handler.audioQueue ∧
    s.dequeued.Sublist before ∧ (s.handler.realTimeAudio = false → s.dequeued = before)

lemma step_realTimeAudio (hop : op.plays = true) (hs : step rate s op = some s') :
    s'.handler.realTimeAudio = s.handler.realTimeAudio := by
  cases hs
  cases op with
  | enqueueAudio pcm => simp [Handler.apply, enqueueAudio_eq]
  | getAudioFrame =>
    simp only [Handler.apply, getAudioFrame, sendPlayedStreamEvent, resetCheckpointState]
    split
    · rfl
    · split_ifs <;> rfl
  | clearAudioQueue => cases hop
  | checkpoint streamId name => rfl
  | realTimeAudio => cases hop

/-- The oldest frame is given out; what happens to the checkpoint does not concern the audio. -/
lemma getAudioFrame_cons {frame : Frame} (hq : h.audioQueue = frame :: queue) :
    (getAudioFrame h).1.audioQueue = queue ∧ (getAudioFrame h).1.partialFrame = h.partialFrame ∧
      (getAudioFrame h).2.frame = some frame := by
  simp only [getAudioFrame, hq, sendPlayedStreamEvent, resetCheckpointState]
  split_ifs <;> exact ⟨rfl, rfl, rfl⟩

lemma getAudioFrame_nil (hq : h.audioQueue = []) : getAudioFrame h = (h, ⟨none, none⟩) := by
  simp [getAudioFrame, hq]

lemma Session.Plays.enqueueAudio {bytes : List UInt8} (hp : s.Plays rate bytes)
    (hfree : s.handler.realTimeAudio = false →
      (Playback.enqueueAudio rate pcm s.handler).audioQueue.length < maxQueueSizeDefault)
    (hs : step rate s (.enqueueAudio pcm) = some s') : s'.Plays rate (bytes ++ evenCut pcm) := by
  cases hs
  obtain ⟨before, hblocks, hsub, hall⟩ := hp.queue
  have hnew := blocks_append rate.bytesPerFrame_pos bytes (evenCut pcm)
  have hrest := rest_append rate.bytesPerFrame_pos bytes (evenCut pcm)
  rw [← hp.carry] at hnew hrest
  cases hmode : s.handler.realTimeAudio with
  | true =>
    obtain ⟨hqueue, hcarry⟩ := enqueueAudio_realTime rate pcm hmode
    obtain ⟨dropped, hdropped⟩ := foldl_pushRupture_suffix
      (blocks rate.bytesPerFrame (s.handler.partialFrame ++ evenCut pcm)) s.handler.audioQueue
    refine ⟨by simp only [Handler.apply, hcarry, hrest], before ++ dropped, ?_, ?_, ?_⟩
    · simp only [Handler.apply]
      rw [hnew, hblocks, List.append_assoc, hdropped, hqueue, List.append_assoc]
    · simpa [Handler.apply] using hsub.trans (List.sublist_append_left _ _)
    · simp [Handler.apply, enqueueAudio_eq, hmode]
  | false =>
    obtain ⟨hqueue, hcarry⟩ := enqueueAudio_default rate pcm hmode
    -- the loop has not reached its `break`
    have hroom : (s.handler.partialFrame ++ evenCut pcm).length / rate.bytesPerFrame ≤
        maxQueueSizeDefault - s.handler.audioQueue.length := by
      have := hfree hmode
      rw [hqueue, List.length_append, List.length_take, length_blocks] at this
      omega
    rw [if_pos hroom] at hcarry
    rw [List.take_of_length_le (by rwa [length_blocks])] at hqueue
    refine ⟨by simp only [Handler.apply, hcarry, hrest], before, ?_, ?_, ?_⟩
    · simp only [Handler.apply]
      rw [hnew, hblocks, hqueue, List.append_assoc]
    · simpa [Handler.apply] using hsub
    · simpa [Handler.apply] using fun _ => hall hmode

lemma Session.Plays.getAudioFrame {bytes : List UInt8} (hp : s.Plays rate bytes)
    (hs : step rate s .getAudioFrame = some s') : s'.Plays rate bytes := by
  have hmode := step_realTimeAudio rfl hs
  cases hs
  obtain ⟨before, hblocks, hsub, hall⟩ := hp.queue
  cases hq : s.handler.audioQueue with
  | nil =>
    simp only [Handler.apply, getAudioFrame_nil hq, Option.toList_none, List.append_nil]
    exact hp
  | cons frame queue =>
    obtain ⟨hqueue, hcarry, hframe⟩ := getAudioFrame_cons hq
    refine ⟨by simp only [Handler.apply, hcarry, hp.carry], before ++ [frame], ?_, ?_, ?_⟩
    · simp only [Handler.apply]
      rw [hblocks, hq, hqueue, List.append_assoc, List.singleton_append]
    · simp only [Handler.apply, hframe, Option.toList_some]
      exact hsub.append_right [frame]
    · intro hdefault
      simp only [Handler.apply, hframe, Option.toList_some]
      rw [hall (hmode ▸ hdefault)]

lemma Session.Plays.step {bytes : List UInt8} (hp : s.Plays rate bytes) (hop : op.plays = true)
    (hs : Playback.step rate s op = some s')
    (hfree : s.handler.realTimeAudio = false →
      s'.handler.audioQueue.length < maxQueueSizeDefault) :
    s'.Plays rate (bytes ++ received [op]) := by
  cases op with
  | enqueueAudio pcm =>
    have := hp.enqueueAudio (fun hmode => by
      cases hs
      exact hfree hmode) hs
    simpa [received] using this
  | getAudioFrame => simpa [received] using hp.getAudioFrame hs
  | clearAudioQueue => cases hop
  | checkpoint streamId name =>
    cases hs
    simpa [received, Handler.apply] using ⟨hp.carry, hp.queue⟩
  | realTimeAudio => cases hop

lemma Session.Plays.run (hqueue : h.audioQueue = []) (hcarry : h.partialFrame = [])
    (hops : ∀ op ∈ ops, op.plays = true)
    (hfree : h.realTimeAudio = false → ∀ pre s', pre <+: ops →
      run (Playback.step rate) (.start h) pre = some s' →
        s'.handler.audioQueue.length < maxQueueSizeDefault)
    (hr : run (Playback.step rate) (.start h) ops = some s) :
    s.Plays rate (received ops) ∧ s.handler.realTimeAudio = h.realTimeAudio := by
  induction ops using List.reverseRecOn generalizing s with
  | nil =>
    cases hr
    refine ⟨⟨?_, [], ?_, ?_, ?_⟩, rfl⟩
    · simp [received, rest, Session.start, hcarry]
    · simp [received, blocks, Session.start, hqueue]
    · simp [Session.start]
    · simp [Session.start]
  | append_singleton ops op ih =>
    have hr' := hr
    rw [run_concat] at hr
    obtain ⟨s₁, h₁, hs⟩ := Option.bind_eq_some_iff.mp hr
    obtain ⟨hp, hmode⟩ := ih (fun op hop => hops op (List.mem_append_left _ hop))
      (fun hm pre s' hpre => hfree hm pre s' (hpre.trans (List.prefix_append _ _))) h₁
    have hop : op.plays = true := hops op (by simp)
    rw [received_concat]
    refine ⟨hp.step hop hs fun hm => ?_, (step_realTimeAudio hop hs).trans hmode⟩
    exact hfree (hmode ▸ hm) _ s List.prefix_rfl hr'

/-- In default mode, as long as the queue stays below its limit, the frames that have been dequeued
and those in the queue are the blocks of the bytes received, and the tail is carried over. In
real-time mode the queue is the end of these blocks, and the dequeued frames are from before it, in
order. -/
theorem playback_in_order (hqueue : h.audioQueue = []) (hcarry : h.partialFrame = [])
    (hops : ∀ op ∈ ops, op.plays = true)
    (hr : run (step rate) (.start h) ops = some s) :
    (h.realTimeAudio = false →
      (∀ pre s', pre <+: ops → run (step rate) (.start h) pre = some s' →
        s'.handler.audioQueue.length < maxQueueSizeDefault) →
      s.dequeued ++ s.handler.audioQueue = blocks rate.bytesPerFrame (received ops) ∧
        s.handler.partialFrame = rest rate.bytesPerFrame (received ops) ∧
        s.handler.partialFrame.length < rate.bytesPerFrame) ∧
    (h.realTimeAudio = true →
      ∃ before, blocks rate.bytesPerFrame (received ops) = before ++ s.handler.audioQueue ∧
        s.dequeued.Sublist before) := by
  constructor
  · intro hmode hfree
    obtain ⟨hp, hmode'⟩ := Session.Plays.run hqueue hcarry hops (fun _ => hfree) hr
    obtain ⟨before, hblocks, -, hall⟩ := hp.queue
    refine ⟨?_, hp.carry, ?_⟩
    · rw [hall (hmode'.trans hmode), hblocks]
    · rw [hp.carry]
      exact length_rest_lt rate.bytesPerFrame_pos _
  · intro hmode
    have hnot : h.realTimeAudio = false → ∀ pre s', pre <+: ops →
        run (step rate) (.start h) pre = some s' →
          s'.handler.audioQueue.length < maxQueueSizeDefault := by
      intro hm
      rw [hmode] at hm
      cases hm
    obtain ⟨before, hblocks, hsub, -⟩ :=
      (Session.Plays.run hqueue hcarry hops hnot hr).1.queue
    exact ⟨before, hblocks, hsub⟩

/-- A frame and a quarter of silence and an odd byte arrive, and the frame is played. -/
theorem playback_in_order_sample :
    ∃ s, run (step ⟨8000, Or.inl rfl⟩) (.start (.new true false))
        [.enqueueAudio (List.replicate 401 0), .getAudioFrame] = some s ∧
      s.dequeued ++ s.handler.audioQueue =
        blocks (SampleRate.bytesPerFrame ⟨8000, Or.inl rfl⟩)
          (received [.enqueueAudio (List.replicate 401 0), .getAudioFrame]) := by
  obtain ⟨pcm, hpcm⟩ : ∃ pcm : List UInt8, pcm = List.replicate 401 0 := ⟨_, rfl⟩
  have hlen : (evenCut pcm).length ≤ 401 := by
    have : pcm.length = 401 := by rw [hpcm, List.length_replicate]
    rw [evenCut]
    split_ifs
    · rw [List.length_dropLast]
      omega
    · omega
  have hone : (enqueueAudio ⟨8000, Or.inl rfl⟩ pcm (.new true false)).audioQueue.length ≤ 1 := by
    rw [(enqueueAudio_default _ _ rfl).1, List.length_append, List.length_take, length_blocks]
    simp only [Handler.new, List.length_nil, List.nil_append, SampleRate.bytesPerFrame]
    omega
  have hlimit : 1 < maxQueueSizeDefault := by decide
  rw [← hpcm]
  refine ⟨_, rfl, ((playback_in_order (h := .new true false) rfl rfl ?_ rfl).1 rfl ?_).1⟩
  · simp [Op.plays]
  · intro pre s hpre hr
    simp only [List.prefix_cons_iff, List.prefix_nil] at hpre
    rcases hpre with rfl | ⟨_, rfl, rfl | ⟨_, rfl, rfl⟩⟩
    · cases hr
      exact Nat.lt_of_le_of_lt (Nat.zero_le 1) hlimit
    · cases hr
      exact Nat.lt_of_le_of_lt hone hlimit
    · cases hr
      refine Nat.lt_of_le_of_lt ?_ hlimit
      simp only [Session.start, Handler.apply]
      cases hq : (enqueueAudio ⟨8000, Or.inl rfl⟩ pcm (.new true false)).audioQueue with
      | nil => simp [getAudioFrame_nil hq, hq]
      | cons frame queue =>
        rw [(getAudioFrame_cons hq).1]
        rw [hq, List.length_cons] at hone
        omega

/-! ### Limits -/

/-- The buffers after a message are within their limits. -/
structure Handler.Bounded (rate : SampleRate) (h : Handler) : Prop where
  carry : h.partialFrame.length < rate.bytesPerFrame
  default : h.realTimeAudio = false → h.audioQueue.length ≤ maxQueueSizeDefault
  rupture : h.realTimeAudio = true → h.audioQueue.length ≤ maxQueueSizeRupture

/-- The buffers are within their limits after the operation, when it is `enqueueAudio`. -/
def BoundedAfter (rate : SampleRate) (op : Op) (s : Session) : Prop :=
  ∀ pcm, op = .enqueueAudio pcm → s.handler.Bounded rate

/-- A chunk fits: in default mode it holds at most one frame more than there is room for, and in
real-time mode the queue is not longer than that mode allows. -/
def Fits (rate : SampleRate) (s : Session) : Op → Prop
  | .enqueueAudio pcm =>
    if s.handler.realTimeAudio = true then
      s.handler.audioQueue.length ≤ maxQueueSizeRupture
    else
      s.handler.audioQueue.length +
        (s.handler.partialFrame ++ evenCut pcm).length / rate.bytesPerFrame ≤
          maxQueueSizeDefault + 1
  | _ => True

lemma length_foldl_pushRupture (frames queue : List Frame) :
    (frames.foldl pushRupture queue).length =
      max queue.length (min maxQueueSizeRupture (queue.length + frames.length)) := by
  induction frames generalizing queue with
  | nil =>
    simp only [List.foldl_nil, List.length_nil]
    omega
  | cons frame frames ih =>
    have hpush : (pushRupture queue frame).length =
        if maxQueueSizeRupture ≤ queue.length then queue.length - 1 + 1 else queue.length + 1 := by
      simp only [pushRupture, List.length_append, List.length_singleton]
      split_ifs <;> simp
    have hpos : 0 < maxQueueSizeRupture := by decide
    rw [List.foldl_cons, ih, List.length_cons, hpush]
    split_ifs <;> omega

/-- A real-time queue that is too long stays too long. -/
lemma enqueueAudio_bounded_realTime (hmode : h.realTimeAudio = true) :
    (enqueueAudio rate pcm h).Bounded rate ↔ h.audioQueue.length ≤ maxQueueSizeRupture := by
  obtain ⟨hqueue, hcarry⟩ := enqueueAudio_realTime rate pcm hmode
  have hmode' : (enqueueAudio rate pcm h).realTimeAudio = true := by
    simpa [enqueueAudio_eq] using hmode
  have hlen := length_foldl_pushRupture
    (blocks rate.bytesPerFrame (h.partialFrame ++ evenCut pcm)) h.audioQueue
  rw [← hqueue] at hlen
  constructor
  · intro hb
    have := hb.rupture hmode'
    omega
  · intro hle
    refine ⟨?_, ?_, fun _ => by omega⟩
    · rw [hcarry]
      exact length_rest_lt rate.bytesPerFrame_pos _
    · intro hdefault
      rw [hmode'] at hdefault
      cases hdefault

/-- The bytes after the frame at which the loop breaks are fewer than a frame only when that frame
is the last one. -/
lemma enqueueAudio_bounded_default (rate : SampleRate) (pcm : List UInt8)
    (hmode : h.realTimeAudio = false)
    (hle : h.audioQueue.length ≤ maxQueueSizeDefault) :
    (enqueueAudio rate pcm h).Bounded rate ↔
      h.audioQueue.length + (h.partialFrame ++ evenCut pcm).length / rate.bytesPerFrame ≤
        maxQueueSizeDefault + 1 := by
  obtain ⟨hqueue, hcarry⟩ := enqueueAudio_default rate pcm hmode
  have hmode' : (enqueueAudio rate pcm h).realTimeAudio = false := by
    simpa [enqueueAudio_eq] using hmode
  have hlen : (enqueueAudio rate pcm h).audioQueue.length ≤ maxQueueSizeDefault := by
    rw [hqueue, List.length_append, List.length_take]
    omega
  have hcarry_iff : (enqueueAudio rate pcm h).partialFrame.length < rate.bytesPerFrame ↔
      h.audioQueue.length + (h.partialFrame ++ evenCut pcm).length / rate.bytesPerFrame ≤
        maxQueueSizeDefault + 1 := by
    rw [hcarry]
    split_ifs with hroom
    · simp only [length_rest_lt rate.bytesPerFrame_pos, true_iff]
      omega
    · have hdiv : (h.partialFrame ++ evenCut pcm).length / rate.bytesPerFrame <
            maxQueueSizeDefault - h.audioQueue.length + 2 ↔
          (h.partialFrame ++ evenCut pcm).length <
            (maxQueueSizeDefault - h.audioQueue.length + 1) * rate.bytesPerFrame +
              rate.bytesPerFrame := by
        rw [Nat.div_lt_iff_lt_mul rate.bytesPerFrame_pos, ← Nat.succ_mul]
      have hpos := rate.bytesPerFrame_pos
      rw [List.length_drop]
      constructor
      · intro hlt
        have := hdiv.mpr (by omega)
        omega
      · intro hfits
        have := hdiv.mp (by omega)
        omega
  constructor
  · intro hb
    exact hcarry_iff.mp hb.carry
  · intro hfits
    refine ⟨hcarry_iff.mpr hfits, fun _ => hlen, fun hrupture => ?_⟩
    rw [hmode'] at hrupture
    cases hrupture

lemma boundedAfter_iff_fits (rate : SampleRate) (op : Op)
    (hle : s.handler.audioQueue.length ≤ maxQueueSizeDefault) :
    (∀ s' ∈ step rate s op, BoundedAfter rate op s') ↔ Fits rate s op := by
  cases op with
  | enqueueAudio pcm =>
    have hiff : (∀ s' ∈ step rate s (.enqueueAudio pcm), BoundedAfter rate (.enqueueAudio pcm) s') ↔
        (enqueueAudio rate pcm s.handler).Bounded rate := by
      simp [step, BoundedAfter, Handler.apply]
    rw [hiff, Fits]
    split_ifs with hmode
    · exact enqueueAudio_bounded_realTime hmode
    · exact enqueueAudio_bounded_default _ _ (by simpa using hmode) hle
  | _ => simp [BoundedAfter, Fits]

/-- The default limit is kept in both modes. -/
lemma step_queue_le (hle : s.handler.audioQueue.length ≤ maxQueueSizeDefault)
    (hs : step rate s op = some s') : s'.handler.audioQueue.length ≤ maxQueueSizeDefault := by
  have hmodes : maxQueueSizeRupture ≤ maxQueueSizeDefault := by decide
  cases hs
  cases op with
  | enqueueAudio pcm =>
    simp only [Handler.apply]
    cases hmode : s.handler.realTimeAudio with
    | true =>
      rw [(enqueueAudio_realTime _ _ hmode).1, length_foldl_pushRupture]
      omega
    | false =>
      rw [(enqueueAudio_default _ _ hmode).1, List.length_append, List.length_take]
      omega
  | getAudioFrame =>
    simp only [Handler.apply]
    cases hq : s.handler.audioQueue with
    | nil =>
      rw [getAudioFrame_nil hq, hq]
      simp
    | cons frame queue =>
      rw [(getAudioFrame_cons hq).1]
      rw [hq, List.length_cons] at hle
      omega
  | clearAudioQueue => simp [Handler.apply, clearAudioQueue, resetCheckpointState]
  | checkpoint streamId name => exact hle
  | realTimeAudio => exact hle

/-- In a run of a new handler the buffers are within their limits after every message if and only if
every chunk fits when it arrives. -/
theorem bounded_iff_fits (rate : SampleRate) (connected realTimeAudio : Bool) (ops : List Op) :
    (∀ pre pcm s, pre ++ [.enqueueAudio pcm] <+: ops →
      run (step rate) (.start (.new connected realTimeAudio)) (pre ++ [.enqueueAudio pcm]) =
        some s → s.handler.Bounded rate) ↔
      Guarded (step rate) (Fits rate) (.start (.new connected realTimeAudio)) ops := by
  have hcongr := guarded_congr (I := fun s => s.handler.audioQueue.length ≤ maxQueueSizeDefault)
    (fun s op s' hle (hs : step rate s op = some s') => step_queue_le hle hs)
    (fun _ op hle => boundedAfter_iff_fits rate op hle)
    (s := .start (.new connected realTimeAudio)) (by simp [Session.start, Handler.new]) ops
  rw [← hcongr, ← forall_prefix_iff_guarded]
  constructor
  · rintro h pre op s hpre hr pcm rfl
    exact h pre pcm s hpre hr
  · intro h pre pcm s hpre hr
    exact h pre (.enqueueAudio pcm) s hpre hr pcm rfl

/-- A chunk of a little over a minute of audio: two frames more than the queue takes. -/
theorem overflow_stays : ¬∀ (rate : SampleRate) (ops : List Op) (pcm : List UInt8) (s : Session),
    run (step rate) (.start (.new true false)) (ops ++ [.enqueueAudio pcm]) = some s →
      s.handler.Bounded rate := by
  intro h
  let rate : SampleRate := ⟨8000, Or.inl rfl⟩
  let pcm : List UInt8 := List.replicate (3002 * 320) 0
  have hb := h rate [] pcm _ rfl
  have hfits := (enqueueAudio_bounded_default rate pcm (h := .new true false) rfl
    (by simp [Handler.new])).mp hb
  have hlen : (evenCut pcm).length = 3002 * 320 := by
    rw [evenCut, if_neg (by rw [List.length_replicate]; decide), List.length_replicate]
  rw [List.length_append, hlen] at hfits
  exact absurd hfits (by decide)

end MediaServer.Playback
