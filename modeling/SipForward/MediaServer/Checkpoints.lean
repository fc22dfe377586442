import SipForward.MediaServer.Playback

/-!
# Checkpoints of the server

The server marks a point of its audio with a checkpoint and waits for the `playedStream` that
acknowledges it. The handler keeps one pending checkpoint only; the ledger below keeps all of them,
and takes each acknowledgement for the oldest checkpoint that it can be meant for.
-/

namespace MediaServer.Playback

open Core

/-! ### The ledger -/

/-- A checkpoint that was not acknowledged yet, and the number of frames that were enqueued before
it and are still in the queue. -/
structure Outstanding where
  stream : PlayedStream
  ahead : ℕ
deriving DecidableEq, Repr

/-- The outstanding checkpoints, and the acknowledgements that were sent for no checkpoint or before
the frames ahead of it were gone. -/
structure Ledger where
  outstanding : List Outstanding
  unasked : List PlayedStream

def Ledger.empty : Ledger := ⟨[], []⟩

/-- Frames leave the queue. -/
def Ledger.advance (l : Ledger) (frames : ℕ) : Ledger :=
  { l with outstanding := l.outstanding.map fun o => { o with ahead := o.ahead - frames } }

def Ledger.acknowledge (l : Ledger) (stream : PlayedStream) : Ledger :=
  if ⟨stream, 0⟩ ∈ l.outstanding then { l with outstanding := l.outstanding.erase ⟨stream, 0⟩ }
  else { l with unasked := l.unasked ++ [stream] }

/-- The frames that real-time mode drops at the head of the queue for a chunk. -/
def evicted (rate : SampleRate) (h : Handler) (pcm : List UInt8) : ℕ :=
  if h.realTimeAudio = true then
    h.audioQueue.length + (h.partialFrame ++ evenCut pcm).length / rate.bytesPerFrame -
      (enqueueAudio rate pcm h).audioQueue.length
  else 0

/-- The ledger after an operation of the handler `h`. A checkpoint without a stream id asks for no
acknowledgement, and a clear discards the outstanding ones. -/
def Ledger.record (rate : SampleRate) (l : Ledger) (h : Handler) : Op → Ledger
  | .enqueueAudio pcm => l.advance (evicted rate h pcm)
  | .getAudioFrame =>
    let output := (getAudioFrame h).2
    output.playedStream.toList.foldl Ledger.acknowledge
      (l.advance output.frame.toList.length)
  | .clearAudioQueue => { l with outstanding := [] }
  | .checkpoint streamId name =>
    if streamId.getD "" = "" then l
    else { l with
      outstanding :=
        l.outstanding ++ [⟨⟨streamId.getD "", name.getD ""⟩, h.audioQueue.length⟩] }
  | .realTimeAudio => l

/-- The handler and the ledger of its server. -/
structure Conversation where
  handler : Handler
  ledger : Ledger

/-- A new handler on a connected socket. -/
def Conversation.start (realTimeAudio : Bool) : Conversation :=
  ⟨.new true realTimeAudio, .empty⟩

def converse (rate : SampleRate) (c : Conversation) (op : Op) : Option Conversation :=
  some ⟨(c.handler.apply rate op).1, c.ledger.record rate c.handler op⟩

/-- Every acknowledgement was for a checkpoint of its own whose frames were gone, and no checkpoint
waits any longer when the queue is empty. -/
structure Conversation.Settled (c : Conversation) : Prop where
  asked : c.ledger.unasked = []
  answered : c.handler.audioQueue = [] → c.ledger.outstanding = []

/-! ### One checkpoint at a time -/

/-- A checkpoint with a stream id arrives while frames are queued, with no other one pending, and
has a name unless the slot for the name is empty. One without leaves a pending one as it is. -/
def Timely (h : Handler) : Op → Prop
  | .checkpoint streamId name =>
    if streamId.getD "" = "" then
      h.pendingStreamId = "" ∨ streamId = none ∧ name.getD h.pendingStreamName = h.pendingStreamName
    else
      h.audioQueue ≠ [] ∧ h.pendingStreamId = "" ∧ (name = none → h.pendingStreamName = "")
  | _ => True

/-- The slot of the handler and the ledger agree: nothing is outstanding, or the one checkpoint in
the slot is, and frames are queued. -/
inductive Conversation.Slot (c : Conversation) : Prop
  | free (hid : c.handler.pendingStreamId = "") (hnone : c.ledger.outstanding = [])
  | taken {n : ℕ} (hid : c.handler.pendingStreamId ≠ "")
      (hreceived : c.handler.checkpointReceived = true)
      (hone : c.ledger.outstanding =
        [⟨⟨c.handler.pendingStreamId, c.handler.pendingStreamName⟩, n⟩])
      (hahead : n ≤ c.handler.audioQueue.length) (hqueue : c.handler.audioQueue ≠ [])

structure Conversation.Sound (c : Conversation) : Prop where
  connected : c.handler.connected = true
  notCleared : c.handler.clearAudioCalled = false
  asked : c.ledger.unasked = []
  slot : c.Slot

variable {rate : SampleRate} {pcm : List UInt8} {h : Handler} {c c' : Conversation} {op : Op}
  {ops : List Op} {streamId name : Option String}

lemma Conversation.Sound.settled (hs : c.Sound) : c.Settled where
  asked := hs.asked
  answered := by
    intro hempty
    cases hs.slot with
    | free hid hnone => exact hnone
    | taken hid hreceived hone hahead hqueue => exact absurd hempty hqueue

/-- A chunk lengthens the queue by what it does not evict. -/
lemma length_sub_evicted_le (rate : SampleRate) (pcm : List UInt8) (h : Handler) :
    h.audioQueue.length - evicted rate h pcm ≤ (enqueueAudio rate pcm h).audioQueue.length ∧
      h.audioQueue.length ≤ (enqueueAudio rate pcm h).audioQueue.length := by
  unfold evicted
  cases hmode : h.realTimeAudio with
  | true =>
    have hlen := length_foldl_pushRupture
      (blocks rate.bytesPerFrame (h.partialFrame ++ evenCut pcm)) h.audioQueue
    rw [← (enqueueAudio_realTime _ _ hmode).1, length_blocks] at hlen
    simp only [if_true]
    omega
  | false =>
    rw [(enqueueAudio_default _ _ hmode).1, List.length_append]
    simp

lemma Conversation.Sound.enqueueAudio (hs : c.Sound)
    (hc : converse rate c (.enqueueAudio pcm) = some c') : c'.Sound := by
  cases hc
  obtain ⟨hevicted, hlen⟩ := length_sub_evicted_le rate pcm c.handler
  have hfields := enqueueAudio_eq rate pcm c.handler
  refine ⟨?_, ?_, hs.asked, ?_⟩
  · simpa [Handler.apply, hfields] using hs.connected
  · simpa [Handler.apply, hfields] using hs.notCleared
  · cases hs.slot with
    | free hid hnone =>
      refine .free (by simpa [Handler.apply, hfields] using hid) ?_
      simp [Ledger.record, Ledger.advance, hnone]
    | @taken ahead hid hreceived hone hahead hqueue =>
      refine .taken (n := ahead - evicted rate c.handler pcm) ?_ ?_ ?_ ?_ ?_
      · simpa [Handler.apply, hfields] using hid
      · simpa [Handler.apply, hfields] using hreceived
      · simp [Ledger.record, Ledger.advance, hone, Handler.apply, hfields]
      · simp only [Handler.apply]
        omega
      · have := List.length_pos_iff.mpr hqueue
        refine List.length_pos_iff.mp ?_
        simp only [Handler.apply]
        omega

/-- The queue does not run empty: nothing is sent. -/
lemma getAudioFrame_of_ne {frame : Frame} {queue : List Frame}
    (hq : h.audioQueue = frame :: queue) (hne : queue ≠ []) :
    getAudioFrame h = ({ h with audioQueue := queue }, ⟨some frame, none⟩) := by
  simp [getAudioFrame, hq, hne]

/-- The queue runs empty with no checkpoint in the slot: nothing is sent. -/
lemma getAudioFrame_of_free {frame : Frame} {queue : List Frame}
    (hq : h.audioQueue = frame :: queue) (hid : h.pendingStreamId = "") :
    getAudioFrame h = ({ h with audioQueue := queue }, ⟨some frame, none⟩) := by
  simp [getAudioFrame, hq, sendPlayedStreamEvent, hid]

/-- The queue runs empty with a checkpoint in the slot. -/
lemma getAudioFrame_of_taken {frame : Frame} (hq : h.audioQueue = [frame])
    (hconnected : h.connected = true) (hcleared : h.clearAudioCalled = false)
    (hreceived : h.checkpointReceived = true) (hid : h.pendingStreamId ≠ "") :
    getAudioFrame h = (resetCheckpointState { h with audioQueue := [] },
      ⟨some frame, some ⟨h.pendingStreamId, h.pendingStreamName⟩⟩) := by
  simp [getAudioFrame, hq, sendPlayedStreamEvent, hconnected, hcleared, hreceived, hid]

lemma Conversation.Sound.getAudioFrame (hs : c.Sound)
    (hc : converse rate c .getAudioFrame = some c') : c'.Sound := by
  cases hc
  simp only [Handler.apply, Ledger.record]
  cases hq : c.handler.audioQueue with
  | nil =>
    rw [getAudioFrame_nil hq]
    cases hs.slot with
    | free hid hnone =>
      refine ⟨hs.connected, hs.notCleared, hs.asked, .free hid ?_⟩
      simp [Ledger.advance, hnone]
    | taken hid hreceived hone hahead hqueue => exact absurd hq hqueue
  | cons frame queue =>
    cases hs.slot with
    | free hid hnone =>
      rw [getAudioFrame_of_free hq hid]
      refine ⟨hs.connected, hs.notCleared, hs.asked, .free hid ?_⟩
      simp [Ledger.advance, hnone]
    | @taken ahead hid hreceived hone hahead hqueue =>
      rw [hq, List.length_cons] at hahead
      by_cases hempty : queue = []
      · subst hempty
        -- the frames ahead of the checkpoint are gone, and it is acknowledged
        have hzero : ahead - 1 = 0 := by
          simp only [List.length_nil] at hahead
          omega
        rw [getAudioFrame_of_taken hq hs.connected hs.notCleared hreceived hid]
        refine ⟨hs.connected, rfl, ?_, .free rfl ?_⟩
        · simp [Ledger.acknowledge, Ledger.advance, hone, hzero, hs.asked]
        · simp [Ledger.acknowledge, Ledger.advance, hone, hzero]
      · rw [getAudioFrame_of_ne hq hempty]
        refine ⟨hs.connected, hs.notCleared, hs.asked, ?_⟩
        refine .taken (n := ahead - 1) hid hreceived ?_ ?_ hempty
        · simp [Ledger.advance, hone]
        · show ahead - 1 ≤ queue.length
          omega

lemma Conversation.Sound.checkpoint (hs : c.Sound)
    (ht : Timely c.handler (.checkpoint streamId name))
    (hc : converse rate c (.checkpoint streamId name) = some c') : c'.Sound := by
  cases hc
  simp only [Handler.apply, Ledger.record, Playback.checkpoint]
  by_cases hid : streamId.getD "" = ""
  · rw [Timely, if_pos hid] at ht
    rw [if_pos hid]
    refine ⟨hs.connected, hs.notCleared, hs.asked, ?_⟩
    cases hs.slot with
    | free hfree hnone =>
      refine .free ?_ hnone
      cases streamId with
      | none => exact hfree
      | some id => exact hid
    | taken htaken hreceived hone hahead hqueue =>
      obtain ⟨rfl, hname⟩ := ht.resolve_left htaken
      exact .taken htaken rfl (by simpa [hname] using hone) hahead hqueue
  · rw [Timely, if_neg hid] at ht
    rw [if_neg hid]
    obtain ⟨hqueue, hfree, hname⟩ := ht
    obtain ⟨id, rfl⟩ : ∃ id, streamId = some id := by
      cases streamId with
      | none => exact absurd rfl hid
      | some id => exact ⟨id, rfl⟩
    have hnone : c.ledger.outstanding = [] := by
      cases hs.slot with
      | free hfree hnone => exact hnone
      | taken htaken hreceived hone hahead hqueue => exact absurd hfree htaken
    refine ⟨hs.connected, hs.notCleared, hs.asked, .taken hid rfl ?_ (Nat.le_refl _) hqueue⟩
    cases name with
    | none => simp [hnone, hname rfl]
    | some name => simp [hnone]

lemma Conversation.Sound.step (hs : c.Sound) (ht : Timely c.handler op)
    (hc : converse rate c op = some c') : c'.Sound := by
  cases op with
  | enqueueAudio pcm => exact hs.enqueueAudio hc
  | getAudioFrame => exact hs.getAudioFrame hc
  | clearAudioQueue =>
    cases hc
    exact ⟨hs.connected, rfl, hs.asked, .free rfl rfl⟩
  | checkpoint streamId name => exact hs.checkpoint ht hc
  | realTimeAudio =>
    cases hc
    refine ⟨hs.connected, hs.notCleared, hs.asked, ?_⟩
    cases hs.slot with
    | free hid hnone => exact .free hid hnone
    | taken hid hreceived hone hahead hqueue => exact .taken hid hreceived hone hahead hqueue

/-- In a run in which every checkpoint is timely, each one that is not cleared is acknowledged once,
with its own stream id and name, after the frames before it and before the queue is next empty, and
nothing else is acknowledged. -/
theorem checkpoints_settled {realTimeAudio : Bool}
    (ht : Guarded (converse rate) (fun c op => Timely c.handler op) (.start realTimeAudio) ops)
    (hr : run (converse rate) (.start realTimeAudio) ops = some c) : c.Settled := by
  have hs : c.Sound := by
    refine run_invariant (fun c op c' hs ht hc => hs.step ht hc) ?_ ht hr
    exact ⟨rfl, rfl, rfl, .free rfl rfl⟩
  exact hs.settled

/-- A checkpoint after a frame of silence, which is then played. -/
theorem checkpoints_settled_sample :
    ∃ c, run (converse ⟨8000, Or.inl rfl⟩) (.start false)
      [.enqueueAudio (List.replicate 320 0), .checkpoint (some "stream") none, .getAudioFrame] =
        some c ∧ c.Settled := by
  obtain ⟨pcm, hpcm⟩ : ∃ pcm : List UInt8, pcm = List.replicate 320 0 := ⟨_, rfl⟩
  have hlen : pcm.length = 320 := by rw [hpcm, List.length_replicate]
  have hqueue : (enqueueAudio ⟨8000, Or.inl rfl⟩ pcm (.new true false)).audioQueue.length = 1 := by
    rw [(enqueueAudio_default _ _ rfl).1, List.length_append, List.length_take, length_blocks,
      evenCut, if_neg (by omega)]
    simp only [Handler.new, List.length_nil, List.nil_append, SampleRate.bytesPerFrame, hlen]
    decide
  rw [← hpcm]
  have ht : Guarded (converse ⟨8000, Or.inl rfl⟩) (fun c op => Timely c.handler op) (.start false)
      [.enqueueAudio pcm, .checkpoint (some "stream") none, .getAudioFrame] := by
    refine ⟨trivial, ?_⟩
    rintro _ ⟨⟩
    refine ⟨?_, ?_⟩
    · simp only [Timely]
      rw [if_neg (by decide)]
      refine ⟨List.length_pos_iff.mp (by simp [Conversation.start, Handler.apply, hqueue]), ?_, ?_⟩
      · simp [Conversation.start, Handler.apply, enqueueAudio_eq, Handler.new]
      · simp [Conversation.start, Handler.apply, enqueueAudio_eq, Handler.new]
    · rintro _ ⟨⟩
      exact ⟨trivial, fun _ _ => trivial⟩
  exact ⟨_, rfl, checkpoints_settled ht rfl⟩

/-- A checkpoint that arrives on an empty queue is not acknowledged when the queue is next found
empty. -/
theorem checkpoint_on_empty_queue : ¬∀ (rate : SampleRate) (ops : List Op) (c : Conversation),
    run (converse rate) (.start false) ops = some c → c.Settled := by
  intro h
  have hs := h ⟨8000, Or.inl rfl⟩ [.checkpoint (some "stream") (some "turn"), .getAudioFrame] _ rfl
  exact absurd (hs.answered rfl) (by decide)

end MediaServer.Playback
