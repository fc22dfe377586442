import SipForward.MediaServer.AudioRecorder

/-!
# The mixed track

Every iteration of `processBuffers` appends one piece to the mixed track: the oldest frame of one
buffer, or the oldest frames of both, mixed. So the track merges the two streams in their order, and
a frame that was added is in the track, waits in its buffer, or was the oldest in a buffer that had
become too long.
-/

namespace MediaServer.Recording

open Core Relation

variable {m m' : Mixer} {call : Arrival} {calls : List Arrival} {f : AudioFrame}
  {segment : Segment} {agents users dropped : List AudioFrame} {sampleRate : ℕ} {now : Int}

/-! ### What is dropped -/

/-- What a call drops: the oldest frames of the buffer that the new frame makes too long. -/
def Mixer.dropping (m : Mixer) (call : Arrival) : List AudioFrame :=
  if call.buf = [] then []
  else
    let buffer := (if call.isAgent then m.agentBuffer else m.userBuffer) ++ [m.arriving call]
    buffer.take (buffer.length - maxBufferSize)

/-- What successive calls drop. -/
def Mixer.droppings : Mixer → List Arrival → List AudioFrame
  | _, []            => []
  | m, call :: calls => m.dropping call ++ (m.addFrame call).droppings calls

/-! ### The two streams -/

/-- The frames of the agent in the mixed track. -/
def Mixer.agentUsed (m : Mixer) : List AudioFrame :=
  m.contributed.filter fun f => f ∉ m.userAccepted

/-- The frames of the user in the mixed track. -/
def Mixer.userUsed (m : Mixer) : List AudioFrame :=
  m.contributed.filter fun f => f ∈ m.userAccepted

/-- The mixed track merges the two streams of the frames that the calls have brought. -/
structure Mixer.Merged (m : Mixer) (calls : List Arrival) (dropped : List AudioFrame) : Prop where
  accepted : m.accepted = framesOf calls
  userAccepted : m.userAccepted = userFramesOf calls
  track : m.audioBuffer = m.mixed.flatMap Segment.samples
  mixed : ∀ a u, .mix a u ∈ m.mixed → a ∉ m.userAccepted ∧ u ∈ m.userAccepted
  agentOrder : m.agentUsed.Pairwise fun f g => f.arrival < g.arrival
  userOrder : m.userUsed.Pairwise fun f g => f.arrival < g.arrival
  once : m.contributed.Nodup
  all : m.accepted.Perm (m.contributed ++ (m.agentBuffer ++ m.userBuffer) ++ dropped)
  bounded : m.agentBuffer.length ≤ maxBufferSize ∧ m.userBuffer.length ≤ maxBufferSize

/-- The invariant: a stream is used from its oldest frame on. -/
structure Mixer.Lined (m : Mixer) (dropped : List AudioFrame) (sampleRate : ℕ) : Prop
    extends m.Numbered, m.Roomy sampleRate where
  track : m.audioBuffer = m.mixed.flatMap Segment.samples
  mixed : ∀ a u, .mix a u ∈ m.mixed → a ∉ m.userAccepted ∧ u ∈ m.userAccepted
  agents : (m.agentUsed ++ m.agentBuffer).Pairwise fun f g => f.arrival < g.arrival
  users : (m.userUsed ++ m.userBuffer).Pairwise fun f g => f.arrival < g.arrival
  agentWaiting : ∀ f ∈ m.agentBuffer, f ∉ m.userAccepted
  userWaiting : ∀ f ∈ m.userBuffer, f ∈ m.userAccepted
  userBelow : ∀ f ∈ m.userAccepted, f.arrival < m.arrivals
  all : m.accepted.Perm (m.held ++ dropped)
  bounded : m.agentBuffer.length ≤ maxBufferSize ∧ m.userBuffer.length ≤ maxBufferSize

/-! ### One iteration -/

/-- A piece made of the oldest frames is appended to the track. -/
structure Mixer.Appends (m m' : Mixer) (segment : Segment) (agents users : List AudioFrame) :
    Prop where
  track : m'.audioBuffer = m.audioBuffer ++ segment.samples
  mixed : m'.mixed = m.mixed ++ [segment]
  agent : m.agentBuffer = agents ++ m'.agentBuffer
  user : m.userBuffer = users ++ m'.userBuffer
  frames : segment.frames = agents ++ users
  pair : ∀ a u, segment = .mix a u → agents = [a] ∧ users = [u]

lemma Mixer.Iteration.appends (h : m.Iteration m') (hroom : m.Roomy sampleRate) :
    ∃ segment agents users, m.Appends m' segment agents users := by
  cases h with
  | @late a u agents users ha hu =>
    exact ⟨.single a, [a], [], rfl, rfl, by simp [popAgent, writeSingleStream,
      writeUserOnlyStream, ha], rfl, rfl, fun _ _ h => by cases h⟩
  | prompt h =>
    cases h with
    | @agentAlone a agents ha =>
      exact ⟨.single a, [a], [], rfl, rfl, by simp [popAgent, writeSingleStream, ha], rfl, rfl,
        fun _ _ h => by cases h⟩
    | @userAlone u users hu =>
      exact ⟨.single u, [], [u], rfl, rfl, rfl, by simp [popUser, writeSingleStream,
        writeUserOnlyStream, hu], rfl, fun _ _ h => by cases h⟩
    | @mix a u agents users ha hu =>
      refine ⟨.mix a u, [a], [u], ?_, rfl, ?_, ?_, rfl, ?_⟩
      · exact hroom.writeUserOnlyStream.mixFrames_audioBuffer (by simp [writeUserOnlyStream, ha]) u
      · simp [popUser, popAgent, mixFrames, writeUserOnlyStream, ha]
      · simp [popUser, popAgent, mixFrames, writeUserOnlyStream, hu]
      · rintro _ _ ⟨⟩
        exact ⟨rfl, rfl⟩

lemma Mixer.Appends.contributed (h : m.Appends m' segment agents users) :
    m'.contributed = m.contributed ++ (agents ++ users) := by
  simp [Mixer.contributed, h.mixed, h.frames]

/-- A frame moves from the head of its buffer to the end of the track. -/
lemma Mixer.Appends.lines (h : m.Appends m' segment agents users)
    (huser : m'.userAccepted = m.userAccepted) (hagents : ∀ f ∈ m.agentBuffer, f ∉ m.userAccepted)
    (husers : ∀ f ∈ m.userBuffer, f ∈ m.userAccepted) :
    m'.agentUsed ++ m'.agentBuffer = m.agentUsed ++ m.agentBuffer ∧
      m'.userUsed ++ m'.userBuffer = m.userUsed ++ m.userBuffer := by
  have hagent : ∀ f ∈ agents, f ∉ m.userAccepted := fun f hf =>
    hagents f (h.agent ▸ List.mem_append_left _ hf)
  have huser' : ∀ f ∈ users, f ∈ m.userAccepted := fun f hf =>
    husers f (h.user ▸ List.mem_append_left _ hf)
  have hkept : agents.filter (fun f => f ∉ m.userAccepted) = agents :=
    List.filter_eq_self.mpr (by simpa using hagent)
  have hgone : users.filter (fun f => f ∉ m.userAccepted) = [] :=
    List.filter_eq_nil_iff.mpr (by simpa using huser')
  have hgone' : agents.filter (fun f => f ∈ m.userAccepted) = [] :=
    List.filter_eq_nil_iff.mpr (by simpa using hagent)
  have hkept' : users.filter (fun f => f ∈ m.userAccepted) = users :=
    List.filter_eq_self.mpr (by simpa using huser')
  constructor
  · rw [agentUsed, agentUsed, h.contributed, huser, h.agent, List.filter_append,
      List.filter_append, hkept, hgone, List.append_nil, List.append_assoc]
  · rw [userUsed, userUsed, h.contributed, huser, h.user, List.filter_append,
      List.filter_append, hkept', hgone', List.nil_append, List.append_assoc]

lemma Mixer.Iteration.lined (h : m.Iteration m') (hl : m.Lined dropped sampleRate) :
    m'.Lined dropped sampleRate := by
  obtain ⟨-, harrivals, haccepted, huser⟩ := h.fixed
  have hheld := h.held
  have hnumbered := h.numbered hl.toNumbered
  have hroomy := h.roomy hl.toRoomy
  obtain ⟨segment, agents, users, hw⟩ := h.appends hl.toRoomy
  obtain ⟨hagents, husers⟩ := hw.lines huser hl.agentWaiting hl.userWaiting
  have hagent : ∀ f ∈ m'.agentBuffer, f ∈ m.agentBuffer := fun f hf =>
    hw.agent ▸ List.mem_append_right _ hf
  have hwaiting : ∀ f ∈ m'.userBuffer, f ∈ m.userBuffer := fun f hf =>
    hw.user ▸ List.mem_append_right _ hf
  constructor
  case toNumbered => exact hnumbered
  case toRoomy => exact hroomy
  case track => rw [hw.track, hw.mixed, hl.track, List.flatMap_append, List.flatMap_singleton]
  case mixed =>
    intro a u hmem
    rw [hw.mixed, List.mem_append, List.mem_singleton] at hmem
    rw [huser]
    rcases hmem with hmem | hmem
    · exact hl.mixed a u hmem
    · obtain ⟨rfl, rfl⟩ := hw.pair a u hmem.symm
      exact ⟨hl.agentWaiting a (by simp [hw.agent]), hl.userWaiting u (by simp [hw.user])⟩
  case agents => exact hagents ▸ hl.agents
  case users => exact husers ▸ hl.users
  case agentWaiting => exact fun f hf => huser ▸ hl.agentWaiting f (hagent f hf)
  case userWaiting => exact fun f hf => huser ▸ hl.userWaiting f (hwaiting f hf)
  case userBelow => rw [huser, harrivals]; exact hl.userBelow
  case all =>
    rw [haccepted]
    exact hl.all.trans (hheld.symm.append_right dropped)
  case bounded =>
    have hagentLength := congrArg List.length hw.agent
    have huserLength := congrArg List.length hw.user
    rw [List.length_append] at hagentLength huserLength
    have hbounded := hl.bounded
    omega

lemma Mixer.Lined.processBuffers (hl : m.Lined dropped sampleRate) :
    m.processBuffers.Lined dropped sampleRate :=
  iterations_invariant (fun h => h.lined) (processBuffers_iteration m) hl

/-! ### A new frame -/

/-- The frames in the track and in the buffers were accepted. -/
lemma Mixer.Lined.held_below (hl : m.Lined dropped sampleRate) (hf : f ∈ m.held) :
    f.arrival < m.arrivals :=
  hl.toNumbered.below f (hl.all.mem_iff.mpr (List.mem_append_left _ hf))

lemma Mixer.Lined.agent_below (hl : m.Lined dropped sampleRate)
    (hf : f ∈ m.agentUsed ++ m.agentBuffer) :
    f.arrival < m.arrivals := by
  refine hl.held_below ?_
  rcases List.mem_append.mp hf with hf | hf
  · exact List.mem_append_left _ (List.mem_of_mem_filter hf)
  · exact List.mem_append_right _ (List.mem_append_left _ hf)

lemma Mixer.Lined.user_below (hl : m.Lined dropped sampleRate)
    (hf : f ∈ m.userUsed ++ m.userBuffer) :
    f.arrival < m.arrivals := by
  refine hl.held_below ?_
  rcases List.mem_append.mp hf with hf | hf
  · exact List.mem_append_left _ (List.mem_of_mem_filter hf)
  · exact List.mem_append_right _ (List.mem_append_right _ hf)

/-- A stream that is used in order stays so with the frame that arrives. -/
lemma pairwise_pushFrame {used buffer : List AudioFrame}
    (hline : (used ++ buffer).Pairwise fun f g => f.arrival < g.arrival)
    (hbelow : ∀ g ∈ used ++ buffer, g.arrival < f.arrival) :
    (used ++ pushFrame buffer f).Pairwise fun f g => f.arrival < g.arrival := by
  have hsub := (pushFrame_sublist buffer f).append_left used
  rw [← List.append_assoc] at hsub
  refine List.Pairwise.sublist hsub (List.pairwise_append.mpr ⟨hline, ?_, ?_⟩)
  · exact List.pairwise_singleton _ _
  · intro g hg g' hg'
    obtain rfl := List.mem_singleton.mp hg'
    exact hbelow g hg

/-- What is dropped and what stays. -/
lemma pushFrame_perm (buffer : List AudioFrame) (f : AudioFrame) :
    (buffer ++ [f]).Perm (pushFrame buffer f ++
      (buffer ++ [f]).take ((buffer ++ [f]).length - maxBufferSize)) := by
  have hsplit := List.take_append_drop (buffer.length + 1 - maxBufferSize) (buffer ++ [f])
  have hlength : (buffer ++ [f]).length = buffer.length + 1 := by simp
  rw [hlength, pushFrame]
  nth_rewrite 1 [← hsplit]
  exact List.perm_append_comm

/-- A frame is added to one of the buffers: what leaves the buffer is dropped. -/
lemma perm_pushFrame {accepted before buffer after dropped : List AudioFrame}
    (hall : accepted.Perm (before ++ (buffer ++ after) ++ dropped)) (f : AudioFrame) :
    (accepted ++ [f]).Perm (before ++ (pushFrame buffer f ++ after) ++
      (dropped ++ (buffer ++ [f]).take ((buffer ++ [f]).length - maxBufferSize))) := by
  have hpush := pushFrame_perm buffer f
  rw [List.perm_iff_count] at hall hpush ⊢
  intro g
  have hcount := hall g
  have hcount' := hpush g
  simp only [List.count_append] at hcount hcount' ⊢
  omega

lemma length_pushFrame_le (buffer : List AudioFrame) (f : AudioFrame) :
    (pushFrame buffer f).length ≤ maxBufferSize := by
  rw [length_pushFrame]
  split_ifs with hroom
  · exact hroom
  · exact Nat.le_refl _

lemma mem_pushFrame {buffer : List AudioFrame} {g : AudioFrame} (hg : g ∈ pushFrame buffer f) :
    g ∈ buffer ∨ g = f := by
  rcases List.mem_append.mp ((pushFrame_sublist buffer f).subset hg) with hg | hg
  · exact Or.inl hg
  · exact Or.inr (List.mem_singleton.mp hg)

lemma Mixer.Lined.receive_agent (hl : m.Lined dropped sampleRate) (hbuf : call.buf ≠ [])
    (hfits : call.Fits sampleRate) (hcall : call.isAgent = true) :
    (m.receive call).Lined (dropped ++ m.dropping call) sampleRate := by
  obtain ⟨active, hreceive⟩ := Mixer.receive_agent (m := m) hcall
  have hnew : m.arriving call ∉ m.userAccepted := fun hmem =>
    Nat.lt_irrefl _ (hl.userBelow _ hmem)
  have hnumbered : (m.receive call).Numbered := hl.toNumbered.receive
  have hroomy : (m.receive call).Roomy sampleRate := hl.toRoomy.receive hfits
  rw [hreceive] at hnumbered hroomy ⊢
  constructor
  case toNumbered => exact hnumbered
  case toRoomy => exact hroomy
  case track => exact hl.track
  case mixed => exact hl.mixed
  case agents => exact pairwise_pushFrame hl.agents fun g hg => hl.agent_below hg
  case users => exact hl.users
  case agentWaiting =>
    intro g hg
    rcases mem_pushFrame hg with hg | rfl
    · exact hl.agentWaiting g hg
    · exact hnew
  case userWaiting => exact hl.userWaiting
  case userBelow => exact fun g hg => Nat.lt_succ_of_lt (hl.userBelow g hg)
  case all =>
    have hdropping : m.dropping call = (m.agentBuffer ++ [m.arriving call]).take
        ((m.agentBuffer ++ [m.arriving call]).length - maxBufferSize) := by
      simp [dropping, hbuf, hcall]
    rw [hdropping]
    exact perm_pushFrame hl.all (m.arriving call)
  case bounded => exact ⟨length_pushFrame_le _ _, hl.bounded.2⟩

/-- The arriving frame, which counts among the user's, is not in the track. -/
lemma Mixer.Lined.filter_contributed (hl : m.Lined dropped sampleRate) (call : Arrival) :
    (m.contributed.filter fun f => f ∉ m.userAccepted ++ [m.arriving call]) = m.agentUsed ∧
      (m.contributed.filter fun f => f ∈ m.userAccepted ++ [m.arriving call]) = m.userUsed := by
  have hmem : ∀ f ∈ m.contributed,
      f ∈ m.userAccepted ++ [m.arriving call] ↔ f ∈ m.userAccepted := by
    intro f hf
    rw [List.mem_append, List.mem_singleton, or_iff_left]
    rintro rfl
    exact Nat.lt_irrefl _ (hl.held_below (List.mem_append_left _ hf))
  exact ⟨List.filter_congr fun f hf => by rw [decide_eq_decide, hmem f hf],
    List.filter_congr fun f hf => by rw [decide_eq_decide, hmem f hf]⟩

lemma Mixer.Lined.receive_user (hl : m.Lined dropped sampleRate) (hbuf : call.buf ≠ [])
    (hfits : call.Fits sampleRate) (hcall : call.isAgent = false) :
    (m.receive call).Lined (dropped ++ m.dropping call) sampleRate := by
  have hnumbered : (m.receive call).Numbered := hl.toNumbered.receive
  have hroomy : (m.receive call).Roomy sampleRate := hl.toRoomy.receive hfits
  obtain ⟨hagentUsed, huserUsed⟩ := hl.filter_contributed call
  have hnew : ∀ f ∈ m.held, f ≠ m.arriving call := by
    rintro f hf rfl
    exact Nat.lt_irrefl _ (hl.held_below hf)
  rw [Mixer.receive_user hcall] at hnumbered hroomy ⊢
  constructor
  case toNumbered => exact hnumbered
  case toRoomy => exact hroomy
  case track => exact hl.track
  case mixed =>
    intro a u hmem
    obtain ⟨ha, hu⟩ := hl.mixed a u hmem
    have hcontributed : a ∈ m.contributed :=
      List.mem_flatMap.mpr ⟨.mix a u, hmem, by simp [Segment.frames]⟩
    refine ⟨?_, List.mem_append_left _ hu⟩
    rw [List.mem_append, List.mem_singleton, not_or]
    exact ⟨ha, hnew a (List.mem_append_left _ hcontributed)⟩
  case agents =>
    show (List.filter _ m.contributed ++ m.agentBuffer).Pairwise _
    rw [hagentUsed]
    exact hl.agents
  case users =>
    show (List.filter _ m.contributed ++ pushFrame m.userBuffer (m.arriving call)).Pairwise _
    rw [huserUsed]
    exact pairwise_pushFrame hl.users fun g hg => hl.user_below hg
  case agentWaiting =>
    intro g hg
    rw [List.mem_append, List.mem_singleton, not_or]
    exact ⟨hl.agentWaiting g hg,
      hnew g (List.mem_append_right _ (List.mem_append_left _ hg))⟩
  case userWaiting =>
    intro g hg
    rcases mem_pushFrame hg with hg | rfl
    · exact List.mem_append_left _ (hl.userWaiting g hg)
    · exact List.mem_append_right _ (List.mem_singleton_self _)
  case userBelow =>
    intro g hg
    rcases List.mem_append.mp hg with hg | hg
    · exact Nat.lt_succ_of_lt (hl.userBelow g hg)
    · obtain rfl := List.mem_singleton.mp hg
      exact Nat.lt_succ_self _
  case all =>
    have hdropping : m.dropping call = (m.userBuffer ++ [m.arriving call]).take
        ((m.userBuffer ++ [m.arriving call]).length - maxBufferSize) := by
      simp [dropping, hbuf, hcall]
    have hall : m.accepted.Perm
        (m.contributed ++ m.agentBuffer ++ (m.userBuffer ++ []) ++ dropped) := by
      simpa [held] using hl.all
    rw [hdropping]
    simpa [held, contributed] using perm_pushFrame hall (m.arriving call)
  case bounded => exact ⟨hl.bounded.1, length_pushFrame_le _ _⟩

lemma Mixer.Lined.addFrame (hl : m.Lined dropped sampleRate) (hfits : call.Fits sampleRate) :
    (m.addFrame call).Lined (dropped ++ m.dropping call) sampleRate := by
  by_cases hbuf : call.buf = []
  · simpa [Mixer.addFrame, dropping, hbuf] using hl
  · rw [Mixer.addFrame, if_neg hbuf]
    cases hcall : call.isAgent with
    | true => exact (hl.receive_agent hbuf hfits hcall).processBuffers
    | false => exact (hl.receive_user hbuf hfits hcall).processBuffers

/-! ### Runs -/

lemma Mixer.lined_new (now : Int) (sampleRate : ℕ) :
    (Mixer.new now sampleRate).Lined [] sampleRate where
  toRoomy := roomy_new now sampleRate
  ordered := List.Pairwise.nil
  below _ hf := by cases hf
  track := rfl
  mixed _ _ hmem := by cases hmem
  agents := List.Pairwise.nil
  users := List.Pairwise.nil
  agentWaiting _ hf := by cases hf
  userWaiting _ hf := by cases hf
  userBelow _ hf := by cases hf
  all := List.Perm.refl _
  bounded := ⟨Nat.zero_le _, Nat.zero_le _⟩

lemma Mixer.Lined.run (hl : m.Lined dropped sampleRate) (hfits : AllFit calls sampleRate)
    (hr : run step m calls = some m') : m'.Lined (dropped ++ m.droppings calls) sampleRate := by
  induction calls generalizing m dropped with
  | nil =>
    cases hr
    simpa [droppings] using hl
  | cons call calls ih =>
    obtain ⟨m₁, h₁, hr⟩ := Option.bind_eq_some_iff.mp hr
    obtain ⟨-, rfl⟩ := step_eq h₁
    have hrest := ih (hl.addFrame (hfits call List.mem_cons_self))
      (fun c hc => hfits c (List.mem_cons_of_mem _ hc)) hr
    rwa [List.append_assoc] at hrest

lemma Mixer.Lined.merged (hl : m.Lined dropped sampleRate) (haccepted : m.accepted = framesOf calls)
    (huser : m.userAccepted = userFramesOf calls) : m.Merged calls dropped where
  accepted := haccepted
  userAccepted := huser
  track := hl.track
  mixed := hl.mixed
  agentOrder := hl.agents.sublist (List.sublist_append_left _ _)
  userOrder := hl.users.sublist (List.sublist_append_left _ _)
  once := by
    have haccepted : m.accepted.Nodup := hl.toNumbered.ordered.imp fun hlt heq =>
      Nat.ne_of_lt hlt (congrArg AudioFrame.arrival heq)
    have hall : (m.held ++ dropped).Nodup := hl.all.nodup_iff.mp haccepted
    exact (List.nodup_append.mp (List.nodup_append.mp hall).1).1
  all := hl.all
  bounded := hl.bounded

end MediaServer.Recording
