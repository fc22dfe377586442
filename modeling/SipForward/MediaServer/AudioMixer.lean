import SipForward.Core.Run
import Mathlib.Logic.Relation

/-!
# The recording of a call

`AudioMixer` receives the frames of the agent and of the user, in the order in which the media port
has them, and writes two tracks: the user alone, and both mixed. A frame waits in the buffer of its
stream until there is a frame of the other stream to mix it with. Every call of `addFrame` reads the
clock three times.
-/

namespace MediaServer.Recording

open Core Relation

/-! ### Frames and tracks -/

def frameDurationMs : ℕ := 20

def maxBufferSize : ℕ := 50

def maxSilenceFrames : ℕ := 250

/-- 16-bit samples, the low byte first. -/
def toSamples : List UInt8 → List Int16
  | low :: high :: bytes =>
    (low.toUInt16 ||| (high.toUInt16 <<< 8)).toInt16 :: toSamples bytes
  | _ => []

def isFrameSilent (buf : List UInt8) : Bool :=
  (toSamples buf).all fun sample => sample.toInt.natAbs ≤ 50

/-- Whole milliseconds of a difference between two readings of the clock, which counts nanoseconds;
`duration_cast` rounds towards zero. -/
def milliseconds (nanoseconds : Int) : Int := nanoseconds.tdiv 1000000

/-- A frame in a buffer. The frames of a mixer are numbered in the order of their arrival; the
program has no such number. -/
structure AudioFrame where
  samples : List Int16
  timestamp : Int
  arrival : ℕ
deriving DecidableEq

/-- How much younger the agent's frame is. -/
def timeDiff (agent user : AudioFrame) : Int := milliseconds (agent.timestamp - user.timestamp)

/-- Addition in 32 bits, cut to the range of 16 bits; both gains are 1. -/
def mixSample (agent user : Int16) : Int16 :=
  Int16.ofInt (min (max (agent.toInt + user.toInt) (-32768)) 32767)

/-- A piece of the mixed track: one frame, or the common part of two. -/
inductive Segment where
  | single (frame : AudioFrame)
  | mix (agent user : AudioFrame)
deriving DecidableEq

def Segment.frames : Segment → List AudioFrame
  | .single frame   => [frame]
  | .mix agent user => [agent, user]

def Segment.samples : Segment → List Int16
  | .single frame   => frame.samples
  | .mix agent user => List.zipWith mixSample agent.samples user.samples

/-- A call of `addFrame`, with what the clock shows for `last_agent_frame` or `last_user_frame`, for
the timestamp of the frame, and in `checkStreamActivity`. -/
structure Arrival where
  buf : List UInt8
  isAgent : Bool
  seen : Int
  stamp : Int
  now : Int
  ordered : seen ≤ stamp ∧ stamp ≤ now

/-- The frame that a call brings, with its number. -/
def Arrival.frame (call : Arrival) (number : ℕ) : AudioFrame :=
  ⟨toSamples call.buf, call.stamp, number⟩

/-- One sample arrives at a time in milliseconds. -/
def Arrival.at (ms : Int) (isAgent : Bool) : Arrival where
  buf := [1, 0]
  isAgent := isAgent
  seen := ms * 1000000
  stamp := ms * 1000000
  now := ms * 1000000
  ordered := ⟨Int.le_refl _, Int.le_refl _⟩

/-- The fields from `accepted` on are not in the program: the frames accepted, the user frames
written to the user-only track and those that left their buffer through `processBuffers`, the pieces
of the mixed track, the number of arrivals, and the last reading of the clock. -/
structure Mixer where
  agentBuffer : List AudioFrame
  userBuffer : List AudioFrame
  audioBuffer : List Int16
  userOnlyBuffer : List Int16
  mixBuffer : List Int16
  agentSilenceCount : ℕ
  userSilenceCount : ℕ
  agentStreamActive : Bool
  userStreamActive : Bool
  lastAgentFrame : Int
  lastUserFrame : Int
  accepted : List AudioFrame
  userAccepted : List AudioFrame
  userWritten : List AudioFrame
  userProcessed : List AudioFrame
  mixed : List Segment
  arrivals : ℕ
  clock : Int

/-- The buffer for mixed samples holds a frame at the given rate. -/
def Mixer.new (now : Int) (sampleRate : ℕ := 8000) : Mixer where
  agentBuffer := []
  userBuffer := []
  audioBuffer := []
  userOnlyBuffer := []
  mixBuffer := List.replicate (sampleRate * frameDurationMs / 1000) 0
  agentSilenceCount := 0
  userSilenceCount := 0
  agentStreamActive := false
  userStreamActive := false
  lastAgentFrame := now
  lastUserFrame := now
  accepted := []
  userAccepted := []
  userWritten := []
  userProcessed := []
  mixed := []
  arrivals := 0
  clock := now

/-! ### The mixer -/

def Mixer.writeSingleStream (m : Mixer) (f : AudioFrame) : Mixer :=
  { m with
    audioBuffer := m.audioBuffer ++ f.samples
    mixed := m.mixed ++ [.single f] }

def Mixer.writeUserOnlyStream (m : Mixer) (f : AudioFrame) : Mixer :=
  { m with
    userOnlyBuffer := m.userOnlyBuffer ++ f.samples
    userWritten := m.userWritten ++ [f] }

/-- The mixed samples are written over the start of `mix_buffer`, and read back from it. The vector
keeps its length: behind its end nothing is written or read here, where the program has no defined
behaviour. -/
def Mixer.mixFrames (m : Mixer) (agent user : AudioFrame) : Mixer :=
  let samples := List.zipWith mixSample agent.samples user.samples
  let mixBuffer := (samples ++ m.mixBuffer.drop samples.length).take m.mixBuffer.length
  { m with
    mixBuffer := mixBuffer
    audioBuffer := m.audioBuffer ++ mixBuffer.take samples.length
    mixed := m.mixed ++ [.mix agent user] }

def Mixer.popAgent (m : Mixer) : Mixer := { m with agentBuffer := m.agentBuffer.tail }

def Mixer.popUser (m : Mixer) : Mixer :=
  { m with
    userBuffer := m.userBuffer.tail
    userProcessed := m.userProcessed ++ m.userBuffer.take 1 }

/-- The loop when only the agent is active. -/
def Mixer.agentLoop (m : Mixer) : Mixer :=
  match _h : m.agentBuffer with
  | []     => m
  | a :: _ => ((m.writeSingleStream a).popAgent).agentLoop
termination_by m.agentBuffer.length
decreasing_by simp [popAgent, writeSingleStream, _h]

/-- The loop when only the user is active. -/
def Mixer.userLoop (m : Mixer) : Mixer :=
  match _h : m.userBuffer with
  | []     => m
  | u :: _ => (((m.writeUserOnlyStream u).writeSingleStream u).popUser).userLoop
termination_by m.userBuffer.length
decreasing_by simp [popUser, writeSingleStream, writeUserOnlyStream, _h]

/-- The loop when both streams are active, or none. -/
def Mixer.mixLoop (m : Mixer) : Mixer :=
  match _ha : m.agentBuffer, _hu : m.userBuffer with
  | a :: _, u :: _ =>
    let m := m.writeUserOnlyStream u
    if frameDurationMs * 2 < (timeDiff a u).natAbs then
      if 0 < timeDiff a u then
        ((m.writeSingleStream u).popUser).mixLoop
      else
        ((m.writeSingleStream a).popAgent).mixLoop
    else
      ((m.mixFrames a u).popAgent.popUser).mixLoop
  | _, _ => m
termination_by m.agentBuffer.length + m.userBuffer.length
decreasing_by
  · simp [popUser, writeSingleStream, writeUserOnlyStream, _ha, _hu]
  · simp [popAgent, writeSingleStream, writeUserOnlyStream, _ha, _hu]
  · simp [popAgent, popUser, mixFrames, writeUserOnlyStream, _ha, _hu]
    omega

def Mixer.processBuffers (m : Mixer) : Mixer :=
  if m.agentStreamActive = true ∧ m.userStreamActive = false then m.agentLoop
  else if m.agentStreamActive = false ∧ m.userStreamActive = true then m.userLoop
  else m.mixLoop

def Mixer.checkStreamActivity (m : Mixer) (now : Int) : Mixer :=
  if maxSilenceFrames < m.agentSilenceCount ∨ 1000 < milliseconds (now - m.lastAgentFrame) then
    { m with agentStreamActive := false }
  else m

/-- A buffer with a frame more; the oldest ones are dropped when it is too long. -/
def pushFrame (buffer : List AudioFrame) (f : AudioFrame) : List AudioFrame :=
  (buffer ++ [f]).drop (buffer.length + 1 - maxBufferSize)

/-- `addFrame` up to the call of `processBuffers`. -/
def Mixer.receive (m : Mixer) (call : Arrival) : Mixer :=
  let f := call.frame m.arrivals
  let m := { m with
    accepted := m.accepted ++ [f]
    arrivals := m.arrivals + 1
    clock := call.now }
  let m :=
    if call.isAgent then
      { m with
        agentSilenceCount := if isFrameSilent call.buf then m.agentSilenceCount + 1 else 0
        lastAgentFrame := call.seen
        agentStreamActive := true
        agentBuffer := pushFrame m.agentBuffer f }
    else
      { m with
        userSilenceCount := if isFrameSilent call.buf then m.userSilenceCount + 1 else 0
        lastUserFrame := call.seen
        userStreamActive := true
        userBuffer := pushFrame m.userBuffer f
        userAccepted := m.userAccepted ++ [f] }
  m.checkStreamActivity call.now

def Mixer.addFrame (m : Mixer) (call : Arrival) : Mixer :=
  if call.buf = [] then m else (m.receive call).processBuffers

def Mixer.clearBuffers (m : Mixer) : Mixer :=
  { m with
    agentBuffer := []
    userBuffer := []
    audioBuffer := []
    userOnlyBuffer := []
    agentSilenceCount := 0
    userSilenceCount := 0
    agentStreamActive := false
    userStreamActive := false
    accepted := []
    userAccepted := []
    userWritten := []
    userProcessed := []
    mixed := []
    arrivals := 0 }

/-- A call of `addFrame`; the clock does not run backwards. -/
def step (m : Mixer) (call : Arrival) : Option Mixer :=
  if m.clock ≤ call.seen then some (m.addFrame call) else none

/-! ### One iteration

Every loop of `processBuffers` makes iterations of four kinds.
-/

/-- An iteration in which a user frame that is written is taken out of its buffer. -/
inductive Mixer.Prompt (m : Mixer) : Mixer → Prop
  | agentAlone {a : AudioFrame} {agents : List AudioFrame} (ha : m.agentBuffer = a :: agents) :
      Prompt m (m.writeSingleStream a).popAgent
  | userAlone {u : AudioFrame} {users : List AudioFrame} (hu : m.userBuffer = u :: users) :
      Prompt m ((m.writeUserOnlyStream u).writeSingleStream u).popUser
  | mix {a u : AudioFrame} {agents users : List AudioFrame} (ha : m.agentBuffer = a :: agents)
      (hu : m.userBuffer = u :: users) :
      Prompt m ((m.writeUserOnlyStream u).mixFrames a u).popAgent.popUser

/-- An iteration. The user frame is written and stays when the agent's frame is much older. -/
inductive Mixer.Iteration (m : Mixer) : Mixer → Prop
  | prompt {m' : Mixer} (h : m.Prompt m') : Iteration m m'
  | late {a u : AudioFrame} {agents users : List AudioFrame} (ha : m.agentBuffer = a :: agents)
      (hu : m.userBuffer = u :: users) :
      Iteration m ((m.writeUserOnlyStream u).writeSingleStream a).popAgent

variable {m m' : Mixer} {call : Arrival} {calls : List Arrival} {a u f : AudioFrame}
  {agents users : List AudioFrame}

/-- The agent's frame is older than the user's by more than two frames. -/
def Late (a u : AudioFrame) : Prop := timeDiff a u < -40

/-- Every iteration takes a frame out of a buffer. -/
lemma Mixer.Iteration.length_lt (h : m.Iteration m') :
    m'.agentBuffer.length + m'.userBuffer.length <
      m.agentBuffer.length + m.userBuffer.length := by
  cases h with
  | late ha hu => simp [popAgent, writeSingleStream, writeUserOnlyStream, ha]
  | prompt h =>
    cases h with
    | agentAlone ha => simp [popAgent, writeSingleStream, ha]
    | userAlone hu => simp [popUser, writeSingleStream, writeUserOnlyStream, hu]
    | mix ha hu =>
      simp only [popAgent, popUser, mixFrames, writeUserOnlyStream, ha, hu, List.tail_cons,
        List.length_cons]
      omega

/-- Induction along the iterations. -/
@[elab_as_elim] lemma Mixer.iteration_induction {motive : Mixer → Prop}
    (step : ∀ m : Mixer, (∀ m', m.Iteration m' → motive m') → motive m) (m : Mixer) :
    motive m := by
  induction hlength : m.agentBuffer.length + m.userBuffer.length using Nat.strongRecOn
    generalizing m with
  | ind n ih =>
    subst hlength
    exact step m fun m' h => ih _ h.length_lt m' rfl

lemma Mixer.agentLoop_prompt (m : Mixer) : ReflTransGen Prompt m m.agentLoop := by
  induction m using iteration_induction with
  | step m ih =>
    rw [agentLoop]
    split
    · exact .refl
    · next a agents ha => exact .head (.agentAlone ha) (ih _ (.prompt (.agentAlone ha)))

lemma Mixer.userLoop_prompt (m : Mixer) : ReflTransGen Prompt m m.userLoop := by
  induction m using iteration_induction with
  | step m ih =>
    rw [userLoop]
    split
    · exact .refl
    · next u users hu => exact .head (.userAlone hu) (ih _ (.prompt (.userAlone hu)))

lemma Mixer.mixLoop_of_nil (h : m.agentBuffer = [] ∨ m.userBuffer = []) : m.mixLoop = m := by
  rw [mixLoop]
  split
  · next ha hu => simp [ha, hu] at h
  · rfl

lemma Mixer.mixLoop_cons (ha : m.agentBuffer = a :: agents) (hu : m.userBuffer = u :: users) :
    m.mixLoop =
      if frameDurationMs * 2 < (timeDiff a u).natAbs then
        if 0 < timeDiff a u then
          (((m.writeUserOnlyStream u).writeSingleStream u).popUser).mixLoop
        else
          (((m.writeUserOnlyStream u).writeSingleStream a).popAgent).mixLoop
      else
        (((m.writeUserOnlyStream u).mixFrames a u).popAgent.popUser).mixLoop := by
  rw [mixLoop]
  split
  · next a' agents' u' users' ha' hu' =>
    rw [ha] at ha'
    rw [hu] at hu'
    cases ha'
    cases hu'
    rfl
  · next hne => exact absurd hu (hne a agents u users ha)

/-- The iterations of the loop, and its first one. -/
lemma Mixer.mixLoop_iteration (m : Mixer) : ReflTransGen Iteration m m.mixLoop := by
  induction m using iteration_induction with
  | step m ih =>
    cases ha : m.agentBuffer with
    | nil =>
      rw [mixLoop_of_nil (Or.inl ha)]
    | cons a agents =>
      cases hu : m.userBuffer with
      | nil => rw [mixLoop_of_nil (Or.inr hu)]
      | cons u users =>
        rw [mixLoop_cons ha hu]
        split_ifs
        · exact .head (.prompt (.userAlone hu)) (ih _ (.prompt (.userAlone hu)))
        · exact .head (.late ha hu) (ih _ (.late ha hu))
        · exact .head (.prompt (.mix ha hu)) (ih _ (.prompt (.mix ha hu)))

lemma not_late_iff (hfar : frameDurationMs * 2 < (timeDiff a u).natAbs) :
    ¬Late a u ↔ 0 < timeDiff a u := by
  have : frameDurationMs = 20 := rfl
  unfold Late
  omega

/-- No agent's frame is late for any user frame that waits. -/
lemma Mixer.mixLoop_prompt (m : Mixer)
    (h : ∀ a ∈ m.agentBuffer, ∀ u ∈ m.userBuffer, ¬Late a u) :
    ReflTransGen Prompt m m.mixLoop := by
  induction m using iteration_induction with
  | step m ih =>
    cases ha : m.agentBuffer with
    | nil =>
      rw [mixLoop_of_nil (Or.inl ha)]
    | cons a agents =>
      cases hu : m.userBuffer with
      | nil => rw [mixLoop_of_nil (Or.inr hu)]
      | cons u users =>
        rw [mixLoop_cons ha hu]
        split_ifs with hfar hyounger
        · refine .head (.userAlone hu) (ih _ (.prompt (.userAlone hu)) fun a' ha' u' hu' => ?_)
          exact h a' ha' u' (List.mem_of_mem_tail hu')
        · have hnot := h a (by simp [ha]) u (by simp [hu])
          exact absurd ((not_late_iff hfar).mp hnot) hyounger
        · refine .head (.mix ha hu) (ih _ (.prompt (.mix ha hu)) fun a' ha' u' hu' => ?_)
          exact h a' (List.mem_of_mem_tail ha') u' (List.mem_of_mem_tail hu')

lemma Mixer.processBuffers_iteration (m : Mixer) : ReflTransGen Iteration m m.processBuffers := by
  unfold processBuffers
  split_ifs
  · exact ReflTransGen.mono (fun _ _ h => Iteration.prompt h) _ _ (agentLoop_prompt m)
  · exact ReflTransGen.mono (fun _ _ h => Iteration.prompt h) _ _ (userLoop_prompt m)
  · exact mixLoop_iteration m

/-! ### What the iterations keep -/

/-- What every iteration keeps is kept by a loop. -/
lemma Mixer.iterations_invariant {I : Mixer → Prop}
    (hstep : ∀ {m m'}, Iteration m m' → I m → I m') (hiters : ReflTransGen Iteration m m')
    (h : I m) : I m' := by
  induction hiters with
  | refl => exact h
  | tail _ hiter ih => exact hstep hiter ih

/-- How many user frames more were written than have left their buffer. -/
def Mixer.surplus (m : Mixer) : Int := m.userWritten.length - m.userProcessed.length

/-- The user frames that have left their buffer, and those in it. -/
def Mixer.userStream (m : Mixer) : List AudioFrame := m.userProcessed ++ m.userBuffer

lemma Mixer.surplus_writeUserOnlyStream (m : Mixer) (f : AudioFrame) :
    (m.writeUserOnlyStream f).surplus = m.surplus + 1 := by
  simp only [surplus, writeUserOnlyStream, List.length_append, List.length_singleton,
    Int.natCast_add]
  omega

lemma Mixer.surplus_popUser (hu : m.userBuffer ≠ []) : m.popUser.surplus = m.surplus - 1 := by
  obtain ⟨u, us, hu⟩ := List.exists_cons_of_ne_nil hu
  simp only [surplus, popUser, hu, List.take_succ_cons, List.take_zero, List.length_append,
    List.length_singleton, Int.natCast_add]
  omega

lemma Mixer.Prompt.surplus (h : m.Prompt m') : m'.surplus = m.surplus := by
  cases h with
  | agentAlone ha => rfl
  | @userAlone u us hu =>
    have hpop := surplus_popUser (m := (m.writeUserOnlyStream u).writeSingleStream u)
      (List.ne_nil_of_mem (hu ▸ List.mem_cons_self))
    exact hpop.trans (Int.sub_eq_iff_eq_add.mpr (m.surplus_writeUserOnlyStream u))
  | @mix a u as us ha hu =>
    have hpop := surplus_popUser (m := ((m.writeUserOnlyStream u).mixFrames a u).popAgent)
      (List.ne_nil_of_mem (hu ▸ List.mem_cons_self))
    exact hpop.trans (Int.sub_eq_iff_eq_add.mpr (m.surplus_writeUserOnlyStream u))

lemma Mixer.Prompt.once (h : m.Prompt m') (honce : m.userWritten = m.userProcessed) :
    m'.userWritten = m'.userProcessed := by
  cases h with
  | agentAlone ha => exact honce
  | userAlone hu | mix ha hu =>
    simp [popUser, popAgent, writeSingleStream, mixFrames, writeUserOnlyStream, hu, honce]

lemma Mixer.Iteration.surplus_le (h : m.Iteration m') : m.surplus ≤ m'.surplus := by
  cases h with
  | prompt h => exact Int.le_of_eq h.surplus.symm
  | @late a u as us ha hu =>
    have hwrite := m.surplus_writeUserOnlyStream u
    show m.surplus ≤ (m.writeUserOnlyStream u).surplus
    omega

lemma Mixer.Iteration.userStream (h : m.Iteration m') : m'.userStream = m.userStream := by
  cases h with
  | late ha hu => rfl
  | prompt h =>
    cases h with
    | agentAlone ha => rfl
    | userAlone hu | mix ha hu =>
      simp [Mixer.userStream, popUser, popAgent, writeSingleStream, mixFrames,
        writeUserOnlyStream, hu]

/-- The fields that `processBuffers` does not write. -/
lemma Mixer.Iteration.fixed (h : m.Iteration m') :
    m'.clock = m.clock ∧ m'.arrivals = m.arrivals ∧ m'.accepted = m.accepted ∧
      m'.userAccepted = m.userAccepted := by
  cases h with
  | late ha hu => exact ⟨rfl, rfl, rfl, rfl⟩
  | prompt h => cases h <;> exact ⟨rfl, rfl, rfl, rfl⟩

lemma Mixer.agentLoop_empty (m : Mixer) : m.agentLoop.agentBuffer = [] := by
  induction m using iteration_induction with
  | step m ih =>
    rw [agentLoop]
    split
    · next ha => exact ha
    · next a agents ha => exact ih _ (.prompt (.agentAlone ha))

lemma Mixer.userLoop_empty (m : Mixer) : m.userLoop.userBuffer = [] := by
  induction m using iteration_induction with
  | step m ih =>
    rw [userLoop]
    split
    · next hu => exact hu
    · next u users hu => exact ih _ (.prompt (.userAlone hu))

lemma Mixer.mixLoop_empty (m : Mixer) :
    m.mixLoop.agentBuffer = [] ∨ m.mixLoop.userBuffer = [] := by
  induction m using iteration_induction with
  | step m ih =>
    cases ha : m.agentBuffer with
    | nil =>
      rw [mixLoop_of_nil (Or.inl ha)]
      exact Or.inl ha
    | cons a agents =>
      cases hu : m.userBuffer with
      | nil =>
        rw [mixLoop_of_nil (Or.inr hu)]
        exact Or.inr hu
      | cons u users =>
        rw [mixLoop_cons ha hu]
        split_ifs
        · exact ih _ (.prompt (.userAlone hu))
        · exact ih _ (.late ha hu)
        · exact ih _ (.prompt (.mix ha hu))

/-- Between two calls, frames of one stream wait at most. -/
lemma Mixer.processBuffers_empty (m : Mixer) :
    m.processBuffers.agentBuffer = [] ∨ m.processBuffers.userBuffer = [] := by
  unfold processBuffers
  split_ifs
  · exact Or.inl (agentLoop_empty m)
  · exact Or.inr (userLoop_empty m)
  · exact mixLoop_empty m

/-! ### The buffer for mixed samples -/

/-- The samples of a call are whole, and as many as `mix_buffer` has room for. -/
def Arrival.Fits (call : Arrival) (sampleRate : ℕ) : Prop :=
  call.buf.length % 2 = 0 ∧ call.buf.length / 2 ≤ sampleRate * frameDurationMs / 1000

/-- Mixed samples have room in `mix_buffer`. -/
structure Mixer.Roomy (m : Mixer) (sampleRate : ℕ) : Prop where
  length : m.mixBuffer.length = sampleRate * frameDurationMs / 1000
  agent : ∀ f ∈ m.agentBuffer, f.samples.length ≤ sampleRate * frameDurationMs / 1000
  user : ∀ f ∈ m.userBuffer, f.samples.length ≤ sampleRate * frameDurationMs / 1000

lemma Mixer.mixFrames_audioBuffer (m : Mixer) (a u : AudioFrame) :
    (m.mixFrames a u).audioBuffer =
      m.audioBuffer ++ (Segment.mix a u).samples.take m.mixBuffer.length := by
  simp only [mixFrames, Segment.samples]
  rw [List.take_take, Nat.min_comm, ← List.take_take, List.take_left]

lemma Mixer.length_mixFrames (m : Mixer) (a u : AudioFrame) :
    (m.mixFrames a u).mixBuffer.length = m.mixBuffer.length := by
  simp only [mixFrames, List.length_take, List.length_append, List.length_drop]
  omega

lemma Mixer.Iteration.length_mixBuffer (h : m.Iteration m') :
    m'.mixBuffer.length = m.mixBuffer.length := by
  cases h with
  | late ha hu => rfl
  | prompt h =>
    cases h with
    | agentAlone ha => rfl
    | userAlone hu => rfl
    | mix ha hu => exact length_mixFrames _ _ _

/-- The buffer of a stream only gets shorter. -/
lemma Mixer.Iteration.suffix (h : m.Iteration m') :
    m'.agentBuffer <:+ m.agentBuffer ∧ m'.userBuffer <:+ m.userBuffer := by
  cases h with
  | late ha hu => exact ⟨List.tail_suffix _, List.suffix_refl _⟩
  | prompt h =>
    cases h with
    | agentAlone ha => exact ⟨List.tail_suffix _, List.suffix_refl _⟩
    | userAlone hu => exact ⟨List.suffix_refl _, List.tail_suffix _⟩
    | mix ha hu => exact ⟨List.tail_suffix _, List.tail_suffix _⟩

lemma Mixer.Roomy.writeUserOnlyStream {sampleRate : ℕ} (hm : m.Roomy sampleRate) :
    (m.writeUserOnlyStream f).Roomy sampleRate :=
  ⟨hm.length, hm.agent, hm.user⟩

lemma Mixer.Iteration.roomy {sampleRate : ℕ} (h : m.Iteration m') (hm : m.Roomy sampleRate) :
    m'.Roomy sampleRate where
  length := h.length_mixBuffer.trans hm.length
  agent f hf := hm.agent f (h.suffix.1.subset hf)
  user f hf := hm.user f (h.suffix.2.subset hf)

/-- What is mixed with a frame that waits is read back whole. -/
lemma Mixer.Roomy.mixFrames_audioBuffer {sampleRate : ℕ} (hm : m.Roomy sampleRate)
    (ha : a ∈ m.agentBuffer) (u : AudioFrame) :
    (m.mixFrames a u).audioBuffer = m.audioBuffer ++ (Segment.mix a u).samples := by
  have hlength : (Segment.mix a u).samples.length ≤ m.mixBuffer.length := by
    rw [hm.length, Segment.samples, List.length_zipWith]
    exact Nat.le_trans (Nat.min_le_left _ _) (hm.agent a ha)
  rw [Mixer.mixFrames_audioBuffer, List.take_of_length_le hlength]

lemma Mixer.roomy_new (now : Int) (sampleRate : ℕ) : (Mixer.new now sampleRate).Roomy sampleRate :=
  ⟨List.length_replicate, by simp [Mixer.new], by simp [Mixer.new]⟩

lemma length_toSamples (buf : List UInt8) : (toSamples buf).length = buf.length / 2 := by
  induction buf using toSamples.induct with
  | case1 low high buf ih =>
    simp only [toSamples, List.length_cons, ih]
    omega
  | case2 buf hshort =>
    cases buf with
    | nil => rfl
    | cons low rest =>
      cases rest with
      | nil => simp [toSamples]
      | cons high rest => exact absurd rfl (hshort low high rest)

/-! ### The user-only track -/

/-- The user-only track is made of different user frames in the order of their arrival, each written
when it leaves its buffer. -/
structure Mixer.Exact (m : Mixer) : Prop where
  once : m.userWritten = m.userProcessed
  inOrder : m.userWritten.Pairwise fun f g => f.arrival < g.arrival
  track : m.userOnlyBuffer = m.userWritten.flatMap (·.samples)

/-- A user frame finds no frame of an active agent at the head of its buffer that is older by more
than 40 ms. -/
def InStep (m : Mixer) (call : Arrival) : Prop :=
  call.buf ≠ [] → call.isAgent = false →
    (m.checkStreamActivity call.now).agentStreamActive = true →
      ∀ a ∈ m.agentBuffer.head?, -40 ≤ milliseconds (a.timestamp - call.stamp)

instance decidableInStep (m : Mixer) (call : Arrival) : Decidable (InStep m call) :=
  inferInstanceAs (Decidable (call.buf ≠ [] → call.isAgent = false →
    (m.checkStreamActivity call.now).agentStreamActive = true →
      ∀ a ∈ m.agentBuffer.head?, -40 ≤ milliseconds (a.timestamp - call.stamp)))

/-- What holds of the user's frames. -/
structure Mixer.Ordered (m : Mixer) : Prop where
  stamped : ∀ u ∈ m.userBuffer, u.timestamp ≤ m.clock
  ordered : m.userStream.Pairwise fun f g => f.arrival < g.arrival
  numbered : ∀ f ∈ m.userStream, f.arrival < m.arrivals
  track : m.userOnlyBuffer = m.userWritten.flatMap (·.samples)

/-- What holds between two calls. -/
structure Mixer.Sound (m : Mixer) : Prop extends m.Ordered where
  oneEmpty : m.agentBuffer = [] ∨ m.userBuffer = []

lemma pushFrame_sublist (buffer : List AudioFrame) (f : AudioFrame) :
    (pushFrame buffer f).Sublist (buffer ++ [f]) :=
  List.drop_sublist _ _

lemma pushFrame_nil (f : AudioFrame) : pushFrame [] f = [f] := rfl

/-- `checkStreamActivity` concerns one flag. -/
lemma Mixer.checkStreamActivity_eq (m : Mixer) (now : Int) :
    m.checkStreamActivity now =
      { m with agentStreamActive := (m.checkStreamActivity now).agentStreamActive } := by
  unfold checkStreamActivity
  split_ifs <;> rfl

/-- The frame that a call brings. -/
def Mixer.arriving (m : Mixer) (call : Arrival) : AudioFrame := call.frame m.arrivals

lemma Mixer.receive_user (hcall : call.isAgent = false) :
    m.receive call =
      { m with
        accepted := m.accepted ++ [m.arriving call]
        arrivals := m.arrivals + 1
        clock := call.now
        userSilenceCount := if isFrameSilent call.buf then m.userSilenceCount + 1 else 0
        lastUserFrame := call.seen
        userStreamActive := true
        userBuffer := pushFrame m.userBuffer (m.arriving call)
        userAccepted := m.userAccepted ++ [m.arriving call]
        agentStreamActive := (m.checkStreamActivity call.now).agentStreamActive } := by
  unfold receive
  simp only [hcall, Bool.false_eq_true, if_false]
  rw [checkStreamActivity_eq]
  simp only [checkStreamActivity, arriving]
  split_ifs <;> rfl

lemma Mixer.receive_agent (hcall : call.isAgent = true) :
    ∃ active, m.receive call =
      { m with
        accepted := m.accepted ++ [m.arriving call]
        arrivals := m.arrivals + 1
        clock := call.now
        agentSilenceCount := if isFrameSilent call.buf then m.agentSilenceCount + 1 else 0
        lastAgentFrame := call.seen
        agentStreamActive := active
        agentBuffer := pushFrame m.agentBuffer (m.arriving call) } := by
  unfold receive
  simp only [hcall, if_true]
  rw [checkStreamActivity_eq]
  exact ⟨_, rfl⟩

lemma Mixer.length_mixBuffer_addFrame (m : Mixer) (call : Arrival) :
    (m.addFrame call).mixBuffer.length = m.mixBuffer.length := by
  unfold addFrame
  split_ifs
  · rfl
  · refine iterations_invariant (I := fun m' => m'.mixBuffer.length = m.mixBuffer.length)
      (fun h hm => h.length_mixBuffer.trans hm) (processBuffers_iteration _) ?_
    cases hcall : call.isAgent with
    | true =>
      obtain ⟨active, hreceive⟩ := receive_agent (m := m) hcall
      rw [hreceive]
    | false => rw [receive_user hcall]

lemma Mixer.Iteration.ordered (h : m.Iteration m') (ho : m.Ordered) : m'.Ordered := by
  obtain ⟨hclock, harrivals, -, -⟩ := h.fixed
  have hstream := h.userStream
  refine ⟨?_, hstream ▸ ho.ordered, ?_, ?_⟩
  · rw [hclock]
    cases h with
    | late ha hu => exact ho.stamped
    | prompt h =>
      cases h with
      | agentAlone ha => exact ho.stamped
      | userAlone hu | mix ha hu => exact fun u hu => ho.stamped u (List.mem_of_mem_tail hu)
  · rw [hstream, harrivals]
    exact ho.numbered
  · cases h with
    | late ha hu => simp [popAgent, writeSingleStream, writeUserOnlyStream, ho.track]
    | prompt h =>
      cases h with
      | agentAlone ha => exact ho.track
      | userAlone hu | mix ha hu =>
        simp [popUser, popAgent, writeSingleStream, mixFrames, writeUserOnlyStream, ho.track]

lemma Mixer.Ordered.receive (ho : m.Ordered) (hclock : m.clock ≤ call.seen) :
    (m.receive call).Ordered := by
  have hnow : m.clock ≤ call.now := by
    have := call.ordered
    omega
  have hstamped : ∀ u ∈ m.userBuffer, u.timestamp ≤ call.now := fun u hu =>
    Int.le_trans (ho.stamped u hu) hnow
  cases hcall : call.isAgent with
  | true =>
    obtain ⟨active, hreceive⟩ := receive_agent (m := m) hcall
    rw [hreceive]
    exact ⟨hstamped, ho.ordered, fun f hf => Nat.lt_succ_of_lt (ho.numbered f hf), ho.track⟩
  | false =>
    rw [receive_user hcall]
    have hsub := pushFrame_sublist m.userBuffer (m.arriving call)
    refine ⟨?_, ?_, ?_, ho.track⟩
    · intro u hu
      rcases List.mem_append.mp (hsub.subset hu) with hu | hu
      · exact hstamped u hu
      · obtain rfl := List.mem_singleton.mp hu
        exact call.ordered.2
    · have hstream := hsub.append_left m.userProcessed
      rw [← List.append_assoc] at hstream
      refine List.Pairwise.sublist hstream (List.pairwise_append.mpr ⟨ho.ordered, ?_, ?_⟩)
      · exact List.pairwise_singleton _ _
      · intro f hf g hg
        obtain rfl := List.mem_singleton.mp hg
        exact ho.numbered f hf
    · intro f hf
      rcases List.mem_append.mp hf with hf | hf
      · exact Nat.lt_succ_of_lt (ho.numbered f (List.mem_append_left _ hf))
      · rcases List.mem_append.mp (hsub.subset hf) with hf | hf
        · exact Nat.lt_succ_of_lt (ho.numbered f (List.mem_append_right _ hf))
        · obtain rfl := List.mem_singleton.mp hf
          exact Nat.lt_succ_self _

lemma Mixer.Sound.addFrame (hs : m.Sound) (hclock : m.clock ≤ call.seen) :
    (m.addFrame call).Sound := by
  unfold Mixer.addFrame
  split_ifs
  · exact hs
  · have ho := iterations_invariant (fun h => h.ordered) (processBuffers_iteration _)
      (hs.toOrdered.receive hclock)
    exact ⟨ho, processBuffers_empty _⟩

lemma step_eq (h : step m call = some m') : m.clock ≤ call.seen ∧ m' = m.addFrame call := by
  unfold step at h
  split_ifs at h with hclock
  cases h
  exact ⟨hclock, rfl⟩

lemma milliseconds_nonneg {nanoseconds : Int} (h : 0 ≤ nanoseconds) :
    0 ≤ milliseconds nanoseconds :=
  Int.tdiv_nonneg h (by decide)

/-- An agent's frame that arrives is not late for the user frames that wait. -/
lemma Mixer.Sound.agent_prompt (hs : m.Sound) (hclock : m.clock ≤ call.seen)
    (hcall : call.isAgent = true) :
    ReflTransGen Prompt (m.receive call) (m.receive call).mixLoop := by
  obtain ⟨active, hreceive⟩ := receive_agent (m := m) hcall
  refine mixLoop_prompt _ fun a ha u hu => ?_
  rw [hreceive] at ha hu
  have hnil : m.agentBuffer = [] := hs.oneEmpty.resolve_right (List.ne_nil_of_mem hu)
  rw [hnil, pushFrame_nil] at ha
  obtain rfl := List.mem_singleton.mp ha
  have hstamp := hs.stamped u hu
  have hordered := call.ordered
  have hpos : 0 ≤ timeDiff (m.arriving call) u :=
    milliseconds_nonneg (by simp only [arriving, Arrival.frame]; omega)
  unfold Late
  omega

lemma Mixer.receive_user_agentBuffer (hcall : call.isAgent = false) :
    (m.receive call).agentBuffer = m.agentBuffer := by
  rw [receive_user hcall]

/-- A user frame that finds frames of the agent waiting is the only one in its buffer. -/
lemma Mixer.Sound.user_alone (hs : m.Sound) (hcall : call.isAgent = false)
    (hagent : m.agentBuffer = a :: agents) :
    (m.receive call).agentBuffer = a :: agents ∧
      (m.receive call).userBuffer = [m.arriving call] := by
  have hnil : m.userBuffer = [] := hs.oneEmpty.resolve_left (by simp [hagent])
  rw [receive_user hcall]
  exact ⟨hagent, by rw [hnil, pushFrame_nil]⟩

/-- A user frame that is in step is written once. -/
lemma Mixer.Sound.user_prompt (hs : m.Sound) (hcall : call.isAgent = false)
    (hin : ∀ a ∈ m.agentBuffer.head?, ¬Late a (m.arriving call)) :
    ReflTransGen Prompt (m.receive call) (m.receive call).mixLoop := by
  cases hagent : m.agentBuffer with
  | nil => rw [mixLoop_of_nil (Or.inl ((receive_user_agentBuffer hcall).trans hagent))]
  | cons a agents =>
    obtain ⟨ha, hu⟩ := hs.user_alone hcall hagent
    have hnot := hin a (by simp [hagent])
    rw [mixLoop_cons ha hu]
    split_ifs with hfar hyounger
    · rw [mixLoop_of_nil (Or.inr (by simp [popUser, writeSingleStream, writeUserOnlyStream, hu]))]
      exact .single (.userAlone hu)
    · exact absurd ((not_late_iff hfar).mp hnot) hyounger
    · rw [mixLoop_of_nil (Or.inr (by simp [popUser, popAgent, mixFrames, writeUserOnlyStream, hu]))]
      exact .single (.mix ha hu)

lemma inStep_iff (hbuf : call.buf ≠ []) (hcall : call.isAgent = false)
    (hactive : (m.checkStreamActivity call.now).agentStreamActive = true) :
    InStep m call ↔ ∀ a ∈ m.agentBuffer.head?, ¬Late a (m.arriving call) := by
  unfold InStep Late timeDiff
  simp only [hbuf, hcall, hactive, ne_eq, not_false_iff, true_imp_iff, Mixer.arriving,
    Arrival.frame, Int.not_lt]

/-- A call in step writes the user frames that leave their buffer. -/
lemma Mixer.Sound.addFrame_once (hs : m.Sound) (hclock : m.clock ≤ call.seen)
    (hin : InStep m call) (honce : m.userWritten = m.userProcessed) :
    (m.addFrame call).userWritten = (m.addFrame call).userProcessed := by
  unfold Mixer.addFrame
  split_ifs with hbuf
  · exact honce
  · have honce' : (m.receive call).userWritten = (m.receive call).userProcessed := by
      cases hcall : call.isAgent with
      | true =>
        obtain ⟨active, hreceive⟩ := receive_agent (m := m) hcall
        rw [hreceive]
        exact honce
      | false =>
        rw [receive_user hcall]
        exact honce
    have hprompt : ReflTransGen Prompt (m.receive call) (m.receive call).processBuffers := by
      unfold processBuffers
      split_ifs with hagent huser
      · exact agentLoop_prompt _
      · exact userLoop_prompt _
      · cases hcall : call.isAgent with
        | true => exact hs.agent_prompt hclock hcall
        | false =>
          have huserActive : (m.receive call).userStreamActive = true := by
            rw [receive_user hcall]
          have hactive : (m.checkStreamActivity call.now).agentStreamActive = true := by
            rw [huserActive, receive_user hcall] at huser
            simpa using huser
          exact hs.user_prompt hcall ((inStep_iff hbuf hcall hactive).mp hin)
    generalize (m.receive call).processBuffers = m' at hprompt ⊢
    induction hprompt with
    | refl => exact honce'
    | tail _ hiter ih => exact hiter.once ih

lemma Mixer.surplus_le_of_iterations (h : ReflTransGen Iteration m m') : m.surplus ≤ m'.surplus :=
  iterations_invariant (I := fun m' => m.surplus ≤ m'.surplus)
    (fun h hle => Int.le_trans hle h.surplus_le) h (Int.le_refl _)

lemma Mixer.surplus_receive (m : Mixer) (call : Arrival) :
    (m.receive call).surplus = m.surplus := by
  cases hcall : call.isAgent with
  | true =>
    obtain ⟨active, hreceive⟩ := receive_agent (m := m) hcall
    rw [hreceive]
    rfl
  | false =>
    rw [receive_user hcall]
    rfl

lemma Mixer.surplus_addFrame_le (m : Mixer) (call : Arrival) :
    m.surplus ≤ (m.addFrame call).surplus := by
  unfold addFrame
  split_ifs
  · exact Int.le_refl _
  · rw [← surplus_receive m call]
    exact surplus_le_of_iterations (processBuffers_iteration _)

/-- A call out of step writes a user frame that stays in its buffer. -/
lemma Mixer.Sound.surplus_lt (hs : m.Sound) (hin : ¬InStep m call) :
    m.surplus < (m.addFrame call).surplus := by
  have hbuf : call.buf ≠ [] := fun h => hin fun hne => absurd h hne
  have hcall : call.isAgent = false := by
    by_contra h
    exact hin fun _ h' => absurd h' h
  have hactive : (m.checkStreamActivity call.now).agentStreamActive = true := by
    by_contra h
    exact hin fun _ _ h' => absurd h' h
  rw [inStep_iff hbuf hcall hactive] at hin
  cases hagent : m.agentBuffer with
  | nil => simp [hagent] at hin
  | cons a agents =>
    obtain ⟨ha, hu⟩ := hs.user_alone hcall hagent
    have hlate : Late a (m.arriving call) := by simpa [hagent] using hin
    have hfar : frameDurationMs * 2 < (timeDiff a (m.arriving call)).natAbs := by
      have : frameDurationMs = 20 := rfl
      unfold Late at hlate
      omega
    have hloop : m.addFrame call = (m.receive call).mixLoop := by
      rw [Mixer.addFrame, if_neg hbuf, processBuffers, if_neg, if_neg]
      · simp [receive_user hcall, hactive]
      · simp [receive_user hcall]
    rw [hloop, mixLoop_cons ha hu, if_pos hfar,
      if_neg (mt (not_late_iff hfar).mpr (not_not.mpr hlate))]
    calc m.surplus = (m.receive call).surplus := (surplus_receive m call).symm
      _ < (((m.receive call).writeUserOnlyStream (m.arriving call)).writeSingleStream
            a).popAgent.surplus := by
          have hwrite := (m.receive call).surplus_writeUserOnlyStream (m.arriving call)
          show _ < ((m.receive call).writeUserOnlyStream (m.arriving call)).surplus
          omega
      _ ≤ _ := surplus_le_of_iterations (mixLoop_iteration _)

lemma Mixer.sound_new (now : Int) (sampleRate : ℕ) : (Mixer.new now sampleRate).Sound where
  stamped := by simp [Mixer.new]
  ordered := by simp [Mixer.new, userStream]
  numbered := by simp [Mixer.new, userStream]
  track := by simp [Mixer.new]
  oneEmpty := Or.inl rfl

/-- In every run from a new mixer the user-only track is exact if and only if every call is in
step. -/
theorem userOnly_exact_iff {now : Int} (hr : run step (.new now) calls = some m) :
    m.Exact ↔ Guarded step InStep (.new now) calls := by
  constructor
  · intro hexact
    -- a surplus is never made up for
    refine (guarded_of_measure (I := Mixer.Sound) Mixer.surplus (fun m call m' hs hm' => ?_)
      (fun m call m' hs hm' => ?_) (fun m call m' hs hm' hin => ?_) (Mixer.sound_new now _) hr ?_).1
    · obtain ⟨hclock, rfl⟩ := step_eq hm'
      exact hs.addFrame hclock
    · obtain ⟨-, rfl⟩ := step_eq hm'
      exact Mixer.surplus_addFrame_le m call
    · obtain ⟨-, rfl⟩ := step_eq hm'
      exact hs.surplus_lt hin
    · have : m.surplus = 0 := by simp [Mixer.surplus, hexact.once]
      rw [this]
      exact Int.le_refl 0
  · intro hin
    have hinv : m.Sound ∧ m.userWritten = m.userProcessed := by
      refine run_invariant (I := fun m => m.Sound ∧ m.userWritten = m.userProcessed)
        (fun m call m' h hin hm' => ?_) ⟨Mixer.sound_new now _, rfl⟩ hin hr
      obtain ⟨hclock, rfl⟩ := step_eq hm'
      exact ⟨h.1.addFrame hclock, h.1.addFrame_once hclock hin h.2⟩
    obtain ⟨hs, honce⟩ := hinv
    refine ⟨honce, ?_, hs.track⟩
    rw [honce]
    exact hs.ordered.sublist (List.sublist_append_left _ _)

/-- A user frame, an agent's frame and the user frame it is mixed with. -/
theorem userOnly_exact_sample :
    ∃ m, run step (.new 0) [.at 0 false, .at 10 true, .at 20 false] = some m ∧ m.Exact := by
  obtain ⟨m, hr⟩ := Option.isSome_iff_exists.mp (show (run step (.new 0)
    [.at 0 false, .at 10 true, .at 20 false]).isSome = true by decide +kernel)
  exact ⟨m, hr, (userOnly_exact_iff hr).mpr (by decide +kernel)⟩

/-- An agent's frame waits for 50 ms. The user frame that it finds is written when the agent's frame
leaves, and again when it is mixed with the next one. -/
theorem user_frame_written_twice : ¬∀ (now : Int) (calls : List Arrival) (m : Mixer),
    run step (.new now) calls = some m → m.Exact := by
  intro h
  have htwice : (run step (.new 0) [.at 0 false, .at 10 true, .at 60 false, .at 70 true]).map
      (fun m => m.userWritten.map (·.arrival)) = some [0, 2, 2] := by
    decide +kernel
  obtain ⟨m, hr, hwritten⟩ := Option.map_eq_some_iff.mp htwice
  have horder := List.pairwise_map.mpr (h _ _ m hr).inOrder
  rw [hwritten] at horder
  exact absurd horder (by decide)

end MediaServer.Recording
