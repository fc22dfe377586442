import Mathlib.Data.List.Infix
import Mathlib.Data.Nat.Notation
import Mathlib.Tactic.Lemma
import Mathlib.Tactic.SplitIfs

/-!
# The manager interface of Asterisk

`loginToAMI` takes what one `recv` gives for the banner and what the next one gives for the answer
to the login. `sendAMICommand` collects what up to three of them give. TCP may cut what Asterisk
sends anywhere, so that a piece is not an answer.
-/

namespace MediaServer.Ami

abbrev Bytes := List UInt8

/-- What `recv` gives; when there is nothing to give, it waits. -/
inductive Recv where
  | data (piece : Bytes)
  | closed
  | again      -- `EAGAIN` or `EWOULDBLOCK`
  | failed
deriving DecidableEq

/-- What `recv` gives: up to the login, up to the command, and after it. -/
structure Script where
  banner : List Recv
  login : List Recv
  command : List Recv

/-- An ASCII text. -/
def bytes (s : String) : Bytes := s.toList.map fun c => UInt8.ofNat c.toNat

def loginBuffer : ℕ := 1024

def commandBuffer : ℕ := 4096

/-! ### The exchange -/

/-- The buffer as a C string: up to its first NUL. A buffer that is full has none, and what stands
behind it in memory is read as well. -/
def cString (beyond piece : Bytes) : Bytes :=
  (piece ++ List.replicate (loginBuffer - piece.length) 0 ++ beyond).takeWhile (· ≠ 0)

/-- The piece is taken for a login that was accepted. -/
def Accepts (beyond piece : Bytes) : Prop :=
  bytes "Authentication accepted" <:+: cString beyond piece

instance (beyond piece : Bytes) : Decidable (Accepts beyond piece) :=
  inferInstanceAs (Decidable (_ <:+: _))

/-- The answer to the login, and what is still to be received; `none` when a `recv` waits for
ever. -/
def loginResponse (beyond : Bytes) : List Recv → Option (Bool × List Recv)
  | []                  => none
  | .data piece :: rest => some (decide (Accepts beyond piece), rest)
  | _ :: rest           => some (false, rest)

/-- `loginToAMI`. -/
def loginToAMI (beyond : Bytes) (x : Script) : Option (Bool × List Recv) :=
  match x.banner with
  | []              => none
  | .data _ :: rest => loginResponse beyond (rest ++ x.login)
  | _ :: rest       => some (false, rest)

/-- `full_response` has the mark of a success. -/
def Success (full : Bytes) : Prop := bytes "Response: Success" <:+: full

instance (full : Bytes) : Decidable (Success full) := inferInstanceAs (Decidable (_ <:+: _))

/-- `full_response` is the whole answer. -/
def Complete (full : Bytes) : Prop := Success full ∧ bytes "Output: Objects found:" <:+: full

instance (full : Bytes) : Decidable (Complete full) := inferInstanceAs (Decidable (_ ∧ _))

/-- The loop of `sendAMICommand`, with the retries that are left. -/
def receiveLoop : ℕ → Bytes → List Recv → Option Bool
  | 0, full, _                               => some (decide (Success full))
  | _ + 1, _, []                             => none
  | retries + 1, full, .data piece :: rest   =>
    if Complete (full ++ piece) then some true else receiveLoop retries (full ++ piece) rest
  | _ + 1, full, .again :: _                 => some (decide (Success full))
  | _ + 1, _, .closed :: _                   => some false
  | _ + 1, _, .failed :: _                   => some false

/-- `sendAMICommand`. -/
def sendAMICommand (received : List Recv) : Option Bool := receiveLoop 3 [] received

/-- What comes of the login, and of the command if it is sent; `none` when a `recv` waits for
ever. -/
structure Outcome where
  login : Option Bool
  command : Option (Option Bool)
deriving DecidableEq

/-- `triggerRegistrationCheck`, on a connection. -/
def triggerRegistrationCheck (beyond : Bytes) (x : Script) : Outcome :=
  match loginToAMI beyond x with
  | some (true, rest)  => ⟨some true, some (sendAMICommand (rest ++ x.command))⟩
  | some (false, _)    => ⟨some false, none⟩
  | none               => ⟨none, none⟩

/-! ### Segments -/

/-- What Asterisk sends: before the login, before the command, and after it. -/
structure Streams where
  banner : Bytes
  login : Bytes
  command : Bytes

/-- The pieces are the stream. -/
structure IsCut (stream : Bytes) (pieces : List Bytes) : Prop where
  flatten : pieces.flatten = stream
  nonempty : ∀ piece ∈ pieces, piece ≠ []

/-- The streams, cut into pieces that fit into the buffers. The first two are received in
`loginToAMI`. -/
structure Segments (s : Streams) where
  banner : List Bytes
  login : List Bytes
  command : List Bytes
  cutBanner : IsCut s.banner banner
  cutLogin : IsCut s.login login
  cutCommand : IsCut s.command command
  loginFits : ∀ piece ∈ (banner ++ login).take 2, piece.length ≤ loginBuffer
  restFits : ∀ piece ∈ (banner ++ login).drop 2 ++ command, piece.length ≤ commandBuffer

def Segments.script {s : Streams} (x : Segments s) : Script where
  banner := x.banner.map .data
  login := x.login.map .data
  command := x.command.map .data

/-- The piece may be what the second `recv` gives. -/
structure Second (s : Streams) (piece : Bytes) : Prop where
  nonempty : piece ≠ []
  fits : piece.length ≤ loginBuffer
  place : (∃ first, first ≠ [] ∧ first.length ≤ loginBuffer ∧ first ++ piece <+: s.banner) ∨
    (s.banner ≠ [] ∧ s.banner.length ≤ loginBuffer ∧ piece <+: s.login)

variable {s : Streams} {stream stream' : Bytes} {pieces pieces' : List Bytes} {piece first : Bytes}
  {beyond full : Bytes} {n : ℕ}

/-! ### Cuts -/

/-- Every byte is a piece. -/
def singles (stream : Bytes) : List Bytes := stream.map fun b => [b]

lemma isCut_singles (stream : Bytes) : IsCut stream (singles stream) := by
  refine ⟨?_, fun piece hpiece => ?_⟩
  · induction stream with
    | nil => rfl
    | cons b stream ih => simpa [singles] using ih
  · obtain ⟨b, -, rfl⟩ := List.mem_map.mp hpiece
    exact List.cons_ne_nil b []

lemma length_of_mem_singles (h : piece ∈ singles stream) : piece.length = 1 := by
  obtain ⟨b, -, rfl⟩ := List.mem_map.mp h
  rfl

lemma IsCut.cons (h : IsCut stream pieces) (hpiece : piece ≠ []) :
    IsCut (piece ++ stream) (piece :: pieces) := by
  refine ⟨by rw [List.flatten_cons, h.flatten], ?_⟩
  exact List.forall_mem_cons.mpr ⟨hpiece, h.nonempty⟩

lemma isCut_nil : IsCut [] [] := ⟨rfl, fun _ h => by cases h⟩

lemma IsCut.of_cons (h : IsCut stream (piece :: pieces)) :
    piece ≠ [] ∧ IsCut pieces.flatten pieces ∧ stream = piece ++ pieces.flatten := by
  obtain ⟨hpiece, hrest⟩ := List.forall_mem_cons.mp h.nonempty
  exact ⟨hpiece, ⟨rfl, hrest⟩, h.flatten.symm⟩

lemma IsCut.eq_nil_iff (h : IsCut stream pieces) : pieces = [] ↔ stream = [] := by
  constructor
  · rintro rfl
    exact h.flatten.symm
  · rintro rfl
    cases pieces with
    | nil => rfl
    | cons piece pieces =>
      obtain ⟨hpiece, -, hsplit⟩ := h.of_cons
      exact absurd (List.append_eq_nil_iff.mp hsplit.symm).1 hpiece

lemma IsCut.length_le (h : IsCut stream pieces) : pieces.length ≤ stream.length := by
  induction pieces generalizing stream with
  | nil => exact Nat.zero_le _
  | cons piece pieces ih =>
    obtain ⟨hpiece, hrest, rfl⟩ := h.of_cons
    have hpos := List.length_pos_of_ne_nil hpiece
    have hle := ih hrest
    rw [List.length_cons, List.length_append]
    omega

/-! ### The login -/

lemma loginToAMI_nil (x : Segments s) (h : x.banner = []) :
    loginToAMI beyond x.script = none := by
  simp only [loginToAMI, Segments.script, h, List.map_nil]

lemma loginToAMI_waits (x : Segments s) (h : x.banner = [first]) (hlogin : x.login = []) :
    loginToAMI beyond x.script = none := by
  simp only [loginToAMI, Segments.script, h, hlogin, List.map_cons, List.map_nil, List.append_nil,
    loginResponse]

/-- The second piece decides. -/
lemma loginToAMI_second (beyond : Bytes) (x : Segments s) (h : x.banner = first :: pieces)
    (hrest : pieces ++ x.login = piece :: pieces') :
    loginToAMI beyond x.script = some (decide (Accepts beyond piece), pieces'.map .data) := by
  have hmap : pieces.map Recv.data ++ x.login.map Recv.data =
      .data piece :: pieces'.map Recv.data := by
    rw [← List.map_append, hrest, List.map_cons]
  simp only [loginToAMI, Segments.script, h, List.map_cons, hmap, loginResponse]

lemma trigger_of_none {x : Script} (h : loginToAMI beyond x = none) :
    triggerRegistrationCheck beyond x = ⟨none, none⟩ := by
  simp only [triggerRegistrationCheck, h]

lemma trigger_of_refused {x : Script} {rest : List Recv}
    (h : loginToAMI beyond x = some (false, rest)) :
    triggerRegistrationCheck beyond x = ⟨some false, none⟩ := by
  simp only [triggerRegistrationCheck, h]

lemma trigger_login {x : Script} {accepted : Bool} {rest : List Recv}
    (h : loginToAMI beyond x = some (accepted, rest)) :
    (triggerRegistrationCheck beyond x).login = some accepted := by
  cases accepted with
  | false => rw [trigger_of_refused h]
  | true => simp only [triggerRegistrationCheck, h]

lemma cString_length_le (beyond : Bytes) (h : piece.length < loginBuffer) :
    (cString beyond piece).length ≤ piece.length := by
  obtain ⟨k, hk⟩ : ∃ k, loginBuffer - piece.length = k + 1 :=
    ⟨loginBuffer - piece.length - 1, by omega⟩
  rw [cString, hk, List.replicate_succ, List.append_assoc, List.cons_append]
  clear hk h
  induction piece with
  | nil => simp
  | cons b piece ih =>
    rw [List.cons_append, List.takeWhile_cons]
    split_ifs
    · exact Nat.succ_le_succ ih
    · exact Nat.zero_le _

/-- One byte is no acceptance. -/
lemma not_accepts_of_length_one (h : piece.length = 1) : ¬Accepts beyond piece := by
  intro haccepts
  have hfits : piece.length < loginBuffer := by rw [h]; decide
  have hmark : (bytes "Authentication accepted").length = 23 := by decide
  have hle := haccepts.length_le
  have hshort := cString_length_le beyond hfits
  omega

/-! ### What may be received second -/

lemma length_le_of_mem_singles {rest : Bytes} (h : piece ∈ singles stream ++ singles rest) :
    piece.length ≤ commandBuffer := by
  have hone : piece.length = 1 := by
    rcases List.mem_append.mp h with hmem | hmem
    · exact length_of_mem_singles hmem
    · exact length_of_mem_singles hmem
  rw [hone]
  decide

/-- What a cut makes the second piece is one that may be. -/
lemma Segments.second (x : Segments s) (h : x.banner = first :: pieces)
    (hrest : pieces ++ x.login = piece :: pieces') : Second s piece := by
  have hfits := x.loginFits
  rw [h, List.cons_append, hrest] at hfits
  have hpiece := hfits piece (by simp)
  have hfirst := hfits first (by simp)
  have hcut := x.cutBanner
  rw [h] at hcut
  obtain ⟨hne, hcutRest, hbanner⟩ := hcut.of_cons
  cases pieces with
  | nil =>
    have hlogin := x.cutLogin
    rw [List.nil_append] at hrest
    rw [hrest] at hlogin
    obtain ⟨hne', -, hsplit⟩ := hlogin.of_cons
    rw [List.flatten_nil, List.append_nil] at hbanner
    refine ⟨hne', hpiece, .inr ⟨hbanner ▸ hne, hbanner ▸ hfirst, ?_⟩⟩
    exact hsplit ▸ List.prefix_append _ _
  | cons piece' pieces =>
    obtain ⟨rfl, -⟩ := List.cons_eq_cons.mp hrest
    obtain ⟨hne', -, -⟩ := hcutRest.of_cons
    refine ⟨hne', hpiece, .inl ⟨first, hne, hfirst, pieces.flatten, ?_⟩⟩
    rw [hbanner, List.flatten_cons, List.append_assoc]

/-- What may be received second is received second in some cut. -/
lemma Second.segments (h : Second s piece) : ∃ (x : Segments s) (first : Bytes)
    (pieces pieces' : List Bytes),
    x.banner = first :: pieces ∧ pieces ++ x.login = piece :: pieces' := by
  obtain ⟨hne, hfits, ⟨first, hfirst, hfirstFits, t, hbanner⟩ |
    ⟨hfirst, hfirstFits, t, hlogin⟩⟩ := h
  · rw [List.append_assoc] at hbanner
    refine ⟨⟨first :: piece :: singles t, singles s.login, singles s.command, ?_, isCut_singles _,
      isCut_singles _, ?_, ?_⟩, first, piece :: singles t, singles t ++ singles s.login, rfl, rfl⟩
    · exact hbanner ▸ ((isCut_singles t).cons hne).cons hfirst
    · simp [hfits, hfirstFits]
    · intro p hp
      rcases List.mem_append.mp hp with hmem | hmem
      · exact length_le_of_mem_singles hmem
      · exact length_le_of_mem_singles (List.mem_append_left (singles []) hmem)
  · refine ⟨⟨[s.banner], piece :: singles t, singles s.command, ?_, ?_, isCut_singles _, ?_, ?_⟩,
      s.banner, [], singles t, rfl, rfl⟩
    · have hcut := isCut_nil.cons hfirst
      rwa [List.append_nil] at hcut
    · exact hlogin ▸ (isCut_singles t).cons hne
    · simp [hfits, hfirstFits]
    · intro p hp
      exact length_le_of_mem_singles hp

/-- Its first byte may be received second as well. -/
lemma Second.take_one (h : Second s piece) :
    Second s (piece.take 1) ∧ (piece.take 1).length = 1 := by
  obtain ⟨hne, hfits, hplace⟩ := h
  have hpos := List.length_pos_of_ne_nil hne
  have hlen : (piece.take 1).length = 1 := by rw [List.length_take]; omega
  have hpre : piece.take 1 <+: piece := List.take_prefix 1 piece
  refine ⟨⟨List.ne_nil_of_length_pos (by omega), by omega, ?_⟩, hlen⟩
  rcases hplace with ⟨first, hfirst, hfirstFits, hbanner⟩ | ⟨hbanner, hbannerFits, hlogin⟩
  · refine .inl ⟨first, hfirst, hfirstFits, .trans ?_ hbanner⟩
    exact (List.prefix_append_right_inj first).mpr hpre
  · exact .inr ⟨hbanner, hbannerFits, hpre.trans hlogin⟩

/-! ### Waiting for ever -/

/-- There is no second piece. -/
def Segments.Waits (x : Segments s) : Prop :=
  x.banner = [] ∨ (∃ first, x.banner = [first]) ∧ x.login = []

/-- Whether there is one depends on the cut. -/
def MayWait (s : Streams) : Prop :=
  s.login = [] ∧ 2 ≤ s.banner.length ∧ s.banner.length ≤ loginBuffer

lemma Segments.Waits.trigger {x : Segments s} (h : x.Waits) :
    triggerRegistrationCheck beyond x.script = ⟨none, none⟩ := by
  rcases h with hbanner | ⟨⟨first, hbanner⟩, hlogin⟩
  · exact trigger_of_none (loginToAMI_nil x hbanner)
  · exact trigger_of_none (loginToAMI_waits x hbanner hlogin)

lemma Segments.exists_second {x : Segments s} (h : ¬x.Waits) : ∃ first pieces piece pieces',
    x.banner = first :: pieces ∧ pieces ++ x.login = piece :: pieces' := by
  rw [Waits, not_or] at h
  obtain ⟨hbanner, hwait⟩ := h
  obtain ⟨first, pieces, hcons⟩ := List.exists_cons_of_ne_nil hbanner
  have hne : pieces ++ x.login ≠ [] := by
    intro hnil
    obtain ⟨rfl, hlogin⟩ := List.append_eq_nil_iff.mp hnil
    exact hwait ⟨⟨first, hcons⟩, hlogin⟩
  obtain ⟨piece, pieces', hpiece⟩ := List.exists_cons_of_ne_nil hne
  exact ⟨first, pieces, piece, pieces', hcons, hpiece⟩

lemma mayWait_of_waits {x y : Segments s} (hx : x.Waits) (hy : ¬y.Waits) : MayWait s := by
  obtain ⟨first, pieces, piece, pieces', hbanner, hpiece⟩ := y.exists_second hy
  have hnonempty : s.banner ≠ [] := by
    rw [Ne, ← y.cutBanner.eq_nil_iff, hbanner]
    exact List.cons_ne_nil first pieces
  rcases hx with hnil | ⟨⟨whole, hwhole⟩, hlogin⟩
  · exact absurd (x.cutBanner.eq_nil_iff.mp hnil) hnonempty
  have hlogin' : s.login = [] := x.cutLogin.eq_nil_iff.mp hlogin
  have hfits := x.loginFits whole (by simp [hwhole])
  have hflat := x.cutBanner.flatten
  rw [hwhole, List.flatten_singleton] at hflat
  have hlen := y.cutBanner.length_le
  rw [y.cutLogin.eq_nil_iff.mpr hlogin', List.append_nil] at hpiece
  rw [hbanner, hpiece, List.length_cons, List.length_cons] at hlen
  refine ⟨hlogin', by omega, hflat ▸ hfits⟩

lemma MayWait.exists_waits (h : MayWait s) : ∃ x : Segments s, x.Waits := by
  obtain ⟨hlogin, hlong, hfits⟩ := h
  have hne : s.banner ≠ [] := List.ne_nil_of_length_pos (by omega)
  have hcut := isCut_nil.cons hne
  rw [List.append_nil] at hcut
  refine ⟨⟨[s.banner], [], singles s.command, hcut, hlogin ▸ isCut_nil, isCut_singles _, ?_, ?_⟩,
    .inr ⟨⟨s.banner, rfl⟩, rfl⟩⟩
  · simp [hfits]
  · intro piece hpiece
    exact length_le_of_mem_singles (List.mem_append_left (singles []) hpiece)

lemma MayWait.exists_second (h : MayWait s) : ∃ piece, Second s piece := by
  obtain ⟨-, hlong, hfits⟩ := h
  have htake : (s.banner.take 1).length = 1 := by rw [List.length_take]; omega
  have hdrop : (s.banner.drop 1).length = s.banner.length - 1 := List.length_drop
  refine ⟨s.banner.drop 1, List.ne_nil_of_length_pos (by omega), by omega,
    .inl ⟨s.banner.take 1, List.ne_nil_of_length_pos (by omega), ?_, ?_⟩⟩
  · rw [htake]
    decide
  · rw [List.take_append_drop]

/-! ### The command -/

lemma Success.append (h : Success full) (more : Bytes) : Success (full ++ more) :=
  h.trans (List.prefix_append full more).isInfix

/-- As many pieces as there are retries are an answer. -/
lemma receiveLoop_of_le (h : n ≤ pieces.length) : receiveLoop n full (pieces.map .data) =
    some (decide (Success (full ++ (pieces.take n).flatten))) := by
  induction n generalizing full pieces with
  | zero => simp [receiveLoop]
  | succ n ih =>
    cases pieces with
    | nil => exact absurd h (Nat.not_succ_le_zero n)
    | cons piece pieces =>
      rw [List.take_succ_cons, List.flatten_cons, ← List.append_assoc]
      rw [List.map_cons, receiveLoop]
      split_ifs with hcomplete
      · rw [decide_eq_true (hcomplete.1.append _)]
      · exact ih (Nat.le_of_succ_le_succ h)

/-- Fewer are one only when it is complete. -/
lemma receiveLoop_of_lt (h : pieces.length < n) :
    receiveLoop n full (pieces.map .data) = none ∨
      receiveLoop n full (pieces.map .data) = some true := by
  induction n generalizing full pieces with
  | zero => exact absurd h (Nat.not_lt_zero _)
  | succ n ih =>
    cases pieces with
    | nil => exact .inl rfl
    | cons piece pieces =>
      rw [List.map_cons, receiveLoop]
      split_ifs with hcomplete
      · exact .inr rfl
      · exact ih (Nat.lt_of_succ_lt_succ h)

lemma receiveLoop_eq_none (h : pieces.length < n) (hfull : ¬Success (full ++ pieces.flatten)) :
    receiveLoop n full (pieces.map .data) = none := by
  induction n generalizing full pieces with
  | zero => exact absurd h (Nat.not_lt_zero _)
  | succ n ih =>
    cases pieces with
    | nil => rfl
    | cons piece pieces =>
      rw [List.flatten_cons, ← List.append_assoc] at hfull
      rw [List.map_cons, receiveLoop, if_neg fun hcomplete => hfull (hcomplete.1.append _)]
      exact ih (Nat.lt_of_succ_lt_succ h) hfull

lemma not_success_of_length_le (h : full.length ≤ 3) : ¬Success full := by
  intro hsuccess
  have hmark : (bytes "Response: Success").length = 17 := by decide
  have hle := hsuccess.length_le
  omega

/-- A reply to the command, cut into pieces that fit into the buffer. -/
structure IsReply (reply : Bytes) (pieces : List Bytes) : Prop extends IsCut reply pieces where
  fits : ∀ piece ∈ pieces, piece.length ≤ commandBuffer

lemma isReply_nil : IsReply [] [] := ⟨isCut_nil, fun _ h => by cases h⟩

lemma IsReply.cons (h : IsReply stream pieces) (hpiece : piece ≠ [])
    (hfits : piece.length ≤ commandBuffer) : IsReply (piece ++ stream) (piece :: pieces) :=
  ⟨h.toIsCut.cons hpiece, List.forall_mem_cons.mpr ⟨hfits, h.fits⟩⟩

lemma isReply_singles (reply : Bytes) : IsReply reply (singles reply) := by
  refine ⟨isCut_singles reply, fun piece hpiece => ?_⟩
  rw [length_of_mem_singles hpiece]
  decide

lemma length_flatten_le (h : ∀ piece ∈ pieces, piece.length ≤ commandBuffer) :
    pieces.flatten.length ≤ pieces.length * commandBuffer := by
  induction pieces with
  | nil => exact Nat.zero_le _
  | cons piece pieces ih =>
    obtain ⟨hpiece, hrest⟩ := List.forall_mem_cons.mp h
    have hle := ih hrest
    rw [List.flatten_cons, List.length_append, List.length_cons, Nat.succ_mul]
    omega

/-- The first three pieces are at most what three full buffers hold. -/
lemma IsReply.flatten_take_prefix (h : IsReply stream pieces) :
    (pieces.take 3).flatten <+: stream.take (3 * commandBuffer) := by
  have hfits : (pieces.take 3).flatten.length ≤ (pieces.take 3).length * commandBuffer :=
    length_flatten_le fun piece hpiece => h.fits piece (List.mem_of_mem_take hpiece)
  have hcount : (pieces.take 3).length * commandBuffer ≤ 3 * commandBuffer :=
    Nat.mul_le_mul_right _ (List.length_take_le 3 pieces)
  have hpre : (pieces.take 3).flatten <+: stream := by
    refine ⟨(pieces.drop 3).flatten, ?_⟩
    rw [← List.flatten_append, List.take_append_drop, h.flatten]
  exact List.prefix_take_iff.mpr ⟨hpre, by omega⟩

/-- A reply of at most two buffers can be received at twice. -/
lemma exists_isReply_two (h : stream.length ≤ 2 * commandBuffer) :
    ∃ pieces, IsReply stream pieces ∧ pieces.length < 3 := by
  rcases eq_or_ne stream [] with rfl | hne
  · exact ⟨[], isReply_nil, by decide⟩
  have hpos := List.length_pos_of_ne_nil hne
  have htake : (stream.take commandBuffer).length = min commandBuffer stream.length :=
    List.length_take
  have hbuffer : commandBuffer = 4096 := rfl
  have hfirst : stream.take commandBuffer ≠ [] := List.ne_nil_of_length_pos (by omega)
  have hdrop : (stream.drop commandBuffer).length = stream.length - commandBuffer :=
    List.length_drop
  rcases eq_or_ne (stream.drop commandBuffer) [] with hnil | hrest
  · refine ⟨[stream.take commandBuffer], ?_, by simp⟩
    have hcut := isReply_nil.cons hfirst (by omega)
    rwa [← hnil, List.take_append_drop] at hcut
  · refine ⟨[stream.take commandBuffer, stream.drop commandBuffer], ?_, by simp⟩
    have hcut := (isReply_nil.cons hrest (by omega)).cons hfirst (by omega)
    rwa [List.append_nil, List.take_append_drop] at hcut

/-- A longer one can fill them all. -/
lemma exists_isReply_full (h : n * commandBuffer < stream.length + commandBuffer) :
    ∃ pieces, IsReply stream pieces ∧ n ≤ pieces.length ∧
      (pieces.take n).flatten = stream.take (n * commandBuffer) := by
  induction n generalizing stream with
  | zero => exact ⟨singles stream, isReply_singles stream, Nat.zero_le _, by simp⟩
  | succ n ih =>
    have hbuffer : commandBuffer = 4096 := rfl
    rw [Nat.succ_mul] at h
    have hdrop : (stream.drop commandBuffer).length = stream.length - commandBuffer :=
      List.length_drop
    have htake : (stream.take commandBuffer).length = min commandBuffer stream.length :=
      List.length_take
    obtain ⟨pieces, hreply, hcount, hflat⟩ := @ih (stream.drop commandBuffer) (by omega)
    have hcut := hreply.cons (List.ne_nil_of_length_pos (by omega)) (htake ▸ Nat.min_le_left _ _)
    rw [List.take_append_drop] at hcut
    refine ⟨_, hcut, Nat.succ_le_succ hcount, ?_⟩
    rw [List.take_succ_cons, List.flatten_cons, hflat, Nat.succ_mul, Nat.add_comm, List.take_add]

lemma sendAMICommand_singles (h : 3 ≤ stream.length) :
    sendAMICommand ((singles stream).map .data) = some false := by
  have hlen : (singles stream).length = stream.length := List.length_map _
  have htake : (singles stream).take 3 = singles (stream.take 3) := List.map_take.symm
  rw [sendAMICommand, receiveLoop_of_le (hlen ▸ h), htake, (isCut_singles _).flatten,
    List.nil_append]
  rw [decide_eq_false (not_success_of_length_le (List.length_take_le 3 stream))]

/-- The outcome of the command does not depend on the cut of its reply when the reply is too short
for three pieces, or too long for two and without the mark of a success in what three buffers
hold. -/
theorem sendAMICommand_cut_iff (reply : Bytes) :
    (∀ x y, IsReply reply x → IsReply reply y →
      sendAMICommand (x.map .data) = sendAMICommand (y.map .data)) ↔
    reply.length ≤ 2 ∨
      (2 * commandBuffer < reply.length ∧ ¬Success (reply.take (3 * commandBuffer))) := by
  constructor
  · intro hsame
    by_contra hcon
    obtain ⟨hlong, hsuccess⟩ := not_or.mp hcon
    have hsingles : ∀ x, IsReply reply x → sendAMICommand (x.map .data) = some false := by
      intro x hx
      rw [hsame x _ hx (isReply_singles reply), sendAMICommand_singles (by omega)]
    by_cases hfits : reply.length ≤ 2 * commandBuffer
    · obtain ⟨x, hx, hcount⟩ := exists_isReply_two hfits
      rcases @receiveLoop_of_lt x [] 3 hcount with hwait | htrue
      · cases hwait.symm.trans (hsingles x hx)
      · cases htrue.symm.trans (hsingles x hx)
    · have hfull : Success (reply.take (3 * commandBuffer)) := by
        by_contra hfail
        exact hsuccess ⟨by omega, hfail⟩
      obtain ⟨x, hx, hcount, hflat⟩ := @exists_isReply_full reply 3 (by omega)
      have hfalse := hsingles x hx
      rw [sendAMICommand, receiveLoop_of_le hcount, hflat, List.nil_append,
        decide_eq_true hfull] at hfalse
      cases hfalse
  · rintro (hshort | ⟨hlong, hfail⟩)
    · have hnone : ∀ x, IsReply reply x → sendAMICommand (x.map .data) = none := by
        intro x hx
        refine receiveLoop_eq_none (by have := hx.length_le; omega) ?_
        rw [List.nil_append, hx.flatten]
        exact not_success_of_length_le (by omega)
      intro x y hx hy
      rw [hnone x hx, hnone y hy]
    · have hfalse : ∀ x, IsReply reply x → sendAMICommand (x.map .data) = some false := by
        intro x hx
        have hlen := length_flatten_le hx.fits
        rw [hx.flatten] at hlen
        have hcount : 3 ≤ x.length := by
          by_contra hlt
          have hle : x.length * commandBuffer ≤ 2 * commandBuffer :=
            Nat.mul_le_mul_right _ (by omega)
          omega
        rw [sendAMICommand, receiveLoop_of_le hcount, List.nil_append, decide_eq_false]
        exact fun hsuccess => hfail (hsuccess.trans hx.flatten_take_prefix.isInfix)
      intro x y hx hy
      rw [hfalse x hx, hfalse y hy]

/-! ### The exchange, however it is cut -/

/-- The outcomes of an exchange do not depend on its cut when no piece that may be received second
is taken for an accepted login, and no other cut leaves none to be received. -/
theorem exchange_cut_iff (beyond : Bytes) (s : Streams) :
    (∀ x y : Segments s,
      triggerRegistrationCheck beyond x.script = triggerRegistrationCheck beyond y.script) ↔
    (∀ piece, Second s piece → ¬Accepts beyond piece) ∧ ¬MayWait s := by
  constructor
  · intro hsame
    refine ⟨fun piece hsecond haccepts => ?_, fun hwait => ?_⟩
    · obtain ⟨hone, hlen⟩ := hsecond.take_one
      obtain ⟨x, first, pieces, pieces', hbanner, hpiece⟩ := hsecond.segments
      obtain ⟨y, first', rest, rest', hbanner', hpiece'⟩ := hone.segments
      have hx := loginToAMI_second beyond x hbanner hpiece
      have hy := loginToAMI_second beyond y hbanner' hpiece'
      rw [decide_eq_true haccepts] at hx
      rw [decide_eq_false (not_accepts_of_length_one hlen)] at hy
      have hlogin := trigger_login hx
      rw [hsame x y, trigger_of_refused hy] at hlogin
      cases hlogin
    · obtain ⟨x, hx⟩ := hwait.exists_waits
      obtain ⟨piece, hsecond⟩ := hwait.exists_second
      obtain ⟨y, first, pieces, pieces', hbanner, hpiece⟩ := hsecond.segments
      have hy := loginToAMI_second beyond y hbanner hpiece
      have hlogin := trigger_login hy
      rw [← hsame x y, hx.trigger] at hlogin
      cases hlogin
  · rintro ⟨hrefused, hwait⟩ x y
    have houtcome : ∀ z : Segments s, ¬z.Waits →
        triggerRegistrationCheck beyond z.script = ⟨some false, none⟩ := by
      intro z hz
      obtain ⟨first, pieces, piece, pieces', hbanner, hpiece⟩ := z.exists_second hz
      have hlogin := loginToAMI_second beyond z hbanner hpiece
      rw [decide_eq_false (hrefused piece (z.second hbanner hpiece))] at hlogin
      exact trigger_of_refused hlogin
    by_cases hx : x.Waits
    · have hy : y.Waits := by
        by_contra hy
        exact hwait (mayWait_of_waits hx hy)
      rw [hx.trigger, hy.trigger]
    · have hy : ¬y.Waits := fun hy => hwait (mayWait_of_waits hy hx)
      rw [houtcome x hx, houtcome y hy]

/-- Both, for one exchange. -/
theorem segmentation_iff (beyond : Bytes) (s : Streams) :
    ((∀ x y : Segments s,
      triggerRegistrationCheck beyond x.script = triggerRegistrationCheck beyond y.script) ↔
    (∀ piece, Second s piece → ¬Accepts beyond piece) ∧ ¬MayWait s) ∧
    ((∀ x y, IsReply s.command x → IsReply s.command y →
      sendAMICommand (x.map .data) = sendAMICommand (y.map .data)) ↔
    s.command.length ≤ 2 ∨
      (2 * commandBuffer < s.command.length ∧
        ¬Success (s.command.take (3 * commandBuffer)))) :=
  ⟨exchange_cut_iff beyond s, sendAMICommand_cut_iff s.command⟩

def banner : Bytes := bytes "Asterisk Call Manager/5.0.2\r\n"

def accepted : List Bytes :=
  [bytes "Response: Success\r\n", bytes "Message: Authentication accepted\r\n\r\n"]

def registrations : Bytes := bytes "Response: Success\r\nOutput: Objects found: 1\r\n\r\n"

/-- The first line of the reply to the login comes on its own, and the login is taken for
refused. -/
theorem accepted_login_refused : ∃ s : Streams, ∃ x y : Segments s,
    triggerRegistrationCheck [] x.script = ⟨some true, some (some true)⟩ ∧
    triggerRegistrationCheck [] y.script = ⟨some false, none⟩ := by
  refine ⟨⟨banner, accepted.flatten, registrations⟩,
    ⟨[banner], [accepted.flatten], [registrations], ⟨?_, ?_⟩, ⟨?_, ?_⟩, ⟨?_, ?_⟩, ?_, ?_⟩,
    ⟨[banner], accepted, [registrations], ⟨?_, ?_⟩, ⟨?_, ?_⟩, ⟨?_, ?_⟩, ?_, ?_⟩, ?_, ?_⟩
  all_goals decide +kernel

end MediaServer.Ami
