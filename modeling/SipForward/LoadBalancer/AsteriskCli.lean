import SipForward.Core.Lines
import SipForward.Core.Search

/-!
# Commands for Asterisk

`runAsteriskCLIViaAMI` logs in to the manager interface, sends a command, and collects the lines of
the answer up to the end mark. Two handlers give the output to their callers, one of them only the
lines with a name.
-/

namespace LoadBalancer.Cli

open Core Core.Lines

/-- An ASCII text. -/
def ascii (s : String) : Bytes := s.toList.map fun c => UInt8.ofNat c.toNat

/-- `strings.Contains`. -/
def contains (s sub : Bytes) : Bool := decide (sub <:+: s)

/-- `strings.HasPrefix`. -/
def hasPrefix (s pre : Bytes) : Bool := decide (pre <+: s)

/-- The white space of `unicode.IsSpace`, in UTF-8. -/
def spaces : List Bytes :=
  (ascii "\t\n\x0b\x0c\r ").map ([·]) ++ [[0xc2, 0x85], [0xc2, 0xa0], [0xe1, 0x9a, 0x80]] ++
    [0x80, 0x81, 0x82, 0x83, 0x84, 0x85, 0x86, 0x87, 0x88, 0x89, 0x8a, 0xa8, 0xa9, 0xaf].map
      ([0xe2, 0x80, ·]) ++
    [[0xe2, 0x81, 0x9f], [0xe3, 0x80, 0x80]]

/-- At most `n` of the words are taken from the front. -/
def trimLeft (words : List Bytes) : ℕ → Bytes → Bytes
  | 0, s     => s
  | n + 1, s =>
    match words.find? (· <+: s) with
    | some word => trimLeft words n (s.drop word.length)
    | none      => s

/-- `strings.TrimSpace`. -/
def trimSpace (s : Bytes) : Bytes :=
  let s := trimLeft spaces s.length s
  (trimLeft (spaces.map List.reverse) s.length s.reverse).reverse

example : trimSpace (ascii " \tno \r\n" ++ [0xc2, 0xa0]) = ascii "no" := by decide

/-! ### The exchange -/

structure Ami where
  host : Bytes
  port : Bytes
  user : Bytes
  secret : Bytes

/-- `utils.GetEnv`. -/
def getEnv (env : String → Bytes) (key : String) (defaultValue : String) : Bytes :=
  if env key = [] then ascii defaultValue else env key

def Ami.read (env : String → Bytes) : Ami where
  host := getEnv env "AMI_HOST" "127.0.0.1"
  port := getEnv env "AMI_PORT" "5038"
  user := getEnv env "AMI_USER" "admin"
  secret := getEnv env "AMI_SECRET" "admin"

/-- `net.JoinHostPort`. -/
def joinHostPort (host port : Bytes) : Bytes :=
  if contains host (ascii ":") then ascii "[" ++ host ++ ascii "]:" ++ port
  else host ++ ascii ":" ++ port

/-- What comes over a connection: the pieces before the login, after it, and after the command; and
the errors of the writes, and of a read when nothing more comes. -/
structure Connection where
  banner : List Bytes
  login : List Bytes
  command : List Bytes
  loginWrite : Option Bytes
  commandWrite : Option Bytes
  readError : Bytes

/-- What was sent, and what comes of it. -/
structure Exchange where
  sent : List Bytes
  result : Except Bytes Bytes

def loginReq (cfg : Ami) : Bytes :=
  ascii "Action: Login\r\nUsername: " ++ cfg.user ++ ascii "\r\nSecret: " ++ cfg.secret ++
    ascii "\r\n\r\n"

def cmdReq (command : Bytes) : Bytes :=
  ascii "Action: Command\r\nCommand: " ++ command ++ ascii "\r\n\r\n"

def logoff : Bytes := ascii "Action: Logoff\r\n\r\n"

def isBlank (line : Bytes) : Bool := line = ascii "\r\n" || line = ascii "\n"

def isEnd (line : Bytes) : Bool := hasPrefix line (ascii "--END COMMAND--")

/-- A line that is left out before the body has started. -/
def isHeader (line : Bytes) : Bool :=
  let trimmed := line.rdropWhile (· ∈ ascii "\r\n")
  hasPrefix trimmed (ascii "Response:") || hasPrefix trimmed (ascii "Privilege:") ||
    hasPrefix trimmed (ascii "ActionID:") || trimmed = []

/-- What the loop writes to `output`. -/
def collect : Bool → List Bytes → Bytes
  | _, []                      => []
  | bodyStarted, line :: lines =>
    if !bodyStarted && isHeader line then collect false lines else line ++ collect true lines

/-- The command, after the login. -/
def sendCommand (cfg : Ami) (conn : Connection) (command : Bytes) (r : Reader) : Exchange :=
  match conn.commandWrite with
  | some e => ⟨[loginReq cfg], .error (ascii "AMI command write failed: " ++ e)⟩
  | none   =>
    let r := r.expect conn.command
    ⟨[loginReq cfg, cmdReq command, logoff],
      .ok (collect false (r.readUntil isEnd r.bound).lines)⟩

/-- The login, after the banner. -/
def login (cfg : Ami) (conn : Connection) (command : Bytes) (r : Reader) : Exchange :=
  match conn.loginWrite with
  | some e => ⟨[], .error (ascii "AMI login write failed: " ++ e)⟩
  | none   =>
    let r := r.expect conn.login
    let answer := r.readUntil isBlank r.bound
    let loginResp := answer.lines.flatten
    if !answer.stopped then
      ⟨[loginReq cfg], .error (ascii "AMI login read failed: " ++ conn.readError)⟩
    else if !contains loginResp (ascii "Response: Success") then
      ⟨[loginReq cfg], .error (ascii "AMI login rejected: " ++ trimSpace loginResp)⟩
    else sendCommand cfg conn command answer.reader

def runAsteriskCLIViaAMI (cfg : Ami) (dial : Bytes → Except Bytes Connection) (command : Bytes) :
    Exchange :=
  match dial (joinHostPort cfg.host cfg.port) with
  | .error e => ⟨[], .error (ascii "AMI dial failed: " ++ e)⟩
  | .ok conn =>
    match (Reader.mk [] conn.banner).readLine with
    | (none, _)   => ⟨[], .error (ascii "AMI banner read failed: " ++ conn.readError)⟩
    | (some _, r) => login cfg conn command r

/-! ### The handlers -/

/-- What `SendResponse` is given. -/
structure Answer where
  status : ℕ
  message : String
  data : List (String × Bytes)
  err : Bytes

def listPjsipEndpoints (cfg : Ami) (dial : Bytes → Except Bytes Connection) : Answer :=
  match (runAsteriskCLIViaAMI cfg dial (ascii "pjsip list endpoints")).result with
  | .error e => ⟨500, "Failed to execute pjsip list endpoints", [], e⟩
  | .ok out  => ⟨200, "pjsip endpoints", [("output", out)], []⟩

/-- The lines with the name. -/
def grep (name out : Bytes) : List Bytes := (out.splitOn newline).filter fun l => contains l name

def showPjsipEndpoint (cfg : Ami) (dial : Bytes → Except Bytes Connection) (name : Bytes) :
    Answer :=
  if name = [] then ⟨400, "Endpoint name is required", [], []⟩
  else
    match (runAsteriskCLIViaAMI cfg dial (ascii "pjsip show endpoints")).result with
    | .error e => ⟨500, "Failed to execute pjsip show endpoints", [], e⟩
    | .ok out  =>
      let matched := grep name out
      if matched = [] then
        ⟨404, "Endpoint not found", [("endpoint", name), ("output", [])], []⟩
      else
        ⟨200, "pjsip endpoint status",
          [("endpoint", name), ("output", [newline].intercalate matched)], []⟩

/-! ### Cuts do not matter -/

variable {cfg : Ami} {conn conn' : Connection} {command name : Bytes} {out ls hs : List Bytes}
  {r r' : Reader}

/-- The two connections carry the same streams, and have the same errors. -/
structure SameStreams (c c' : Connection) : Prop where
  banner : c.banner.flatten = c'.banner.flatten
  login : c.login.flatten = c'.login.flatten
  command : c.command.flatten = c'.command.flatten
  loginWrite : c.loginWrite = c'.loginWrite
  commandWrite : c.commandWrite = c'.commandWrite
  readError : c.readError = c'.readError

lemma expect_congr {pieces pieces' : List Bytes} (h : r.rest = r'.rest)
    (hpieces : pieces.flatten = pieces'.flatten) :
    (r.expect pieces).rest = (r'.expect pieces').rest ∧
      (r.expect pieces).bound = (r'.expect pieces').bound := by
  have hrest : (r.expect pieces).rest = (r'.expect pieces').rest := by
    rw [rest_expect, rest_expect, h, hpieces]
  exact ⟨hrest, by rw [Reader.bound, Reader.bound, hrest]⟩

lemma sendCommand_congr (hs : SameStreams conn conn') (h : r.rest = r'.rest) :
    sendCommand cfg conn command r = sendCommand cfg conn' command r' := by
  obtain ⟨hrest, hbound⟩ := expect_congr h hs.command
  have hlines : ((r.expect conn.command).readUntil isEnd (r.expect conn.command).bound).lines =
      ((r'.expect conn'.command).readUntil isEnd (r'.expect conn'.command).bound).lines := by
    rw [hbound]
    exact (readUntil_congr hrest).1
  simp only [sendCommand, hs.commandWrite, hlines]

lemma login_congr (hs : SameStreams conn conn') (h : r.rest = r'.rest) :
    login cfg conn command r = login cfg conn' command r' := by
  obtain ⟨hrest, hbound⟩ := expect_congr h hs.login
  generalize hx : (r.expect conn.login).readUntil isBlank (r.expect conn.login).bound = x
  generalize hy : (r'.expect conn'.login).readUntil isBlank (r'.expect conn'.login).bound = y
  obtain ⟨hlines, hstopped, hreader⟩ : x.lines = y.lines ∧ x.stopped = y.stopped ∧
      x.reader.rest = y.reader.rest := by
    rw [← hx, ← hy, hbound]
    exact readUntil_congr hrest
  simp only [login, hx, hy, hs.loginWrite, hs.readError, hlines, hstopped,
    sendCommand_congr hs hreader]

/-- What is sent and what comes of it do not depend on how the streams are cut into pieces. -/
theorem exchange_cut (hs : SameStreams conn conn') (cfg : Ami) (command : Bytes) :
    runAsteriskCLIViaAMI cfg (fun _ => .ok conn) command =
      runAsteriskCLIViaAMI cfg (fun _ => .ok conn') command := by
  have hrest : (Reader.mk [] conn.banner).rest = (Reader.mk [] conn'.banner).rest := hs.banner
  simp only [runAsteriskCLIViaAMI]
  cases hcut : cutLine (Reader.mk [] conn.banner).rest with
  | none => rw [readLine_none hcut, readLine_none (hrest ▸ hcut), hs.readError]
  | some p =>
    obtain ⟨r, hread, hr⟩ := readLine_some hcut
    obtain ⟨r', hread', hr'⟩ := readLine_some (hrest ▸ hcut)
    rw [hread, hread']
    exact login_congr hs (hr.trans hr'.symm)

/-- Two ways to cut the same answers. -/
def sampleConnection (pieces : Bytes → List Bytes) : Connection where
  banner := pieces (ascii "Asterisk Call Manager/9.0.0\r\n")
  login := pieces (ascii "Response: Success\r\nMessage: Authentication accepted\r\n\r\n")
  command := pieces (ascii "Response: Follows\r\nPrivilege: Command\r\n Endpoint:  kiwi  2\n" ++
    ascii " Endpoint:  fig  0\n\n Objects found: 2\n--END COMMAND--\r\n\r\n")
  loginWrite := none
  commandWrite := none
  readError := ascii "i/o timeout"

def bytewise (s : Bytes) : List Bytes := s.map fun b => [b]

lemma sameStreams_sample {pieces pieces' : Bytes → List Bytes}
    (h : ∀ s, (pieces s).flatten = (pieces' s).flatten) :
    SameStreams (sampleConnection pieces) (sampleConnection pieces') :=
  ⟨h _, h _, h _, rfl, rfl, rfl⟩

theorem exchange_cut_sample :
    runAsteriskCLIViaAMI (.read fun _ => []) (fun _ => .ok (sampleConnection fun s => [s]))
        (ascii "pjsip show endpoints") =
      runAsteriskCLIViaAMI (.read fun _ => []) (fun _ => .ok (sampleConnection bytewise))
        (ascii "pjsip show endpoints") := by
  refine exchange_cut (sameStreams_sample fun s => ?_) _ _
  rw [bytewise, ← List.flatMap_def, List.flatMap_singleton', List.flatten_singleton]

/-! ### What the callers get -/

def terminated (l : Bytes) : Bytes := l ++ [newline]

/-- Asterisk accepts the login; its answer to the command has the header lines, the lines of a
text, and the end mark. -/
structure Spoken (conn : Connection) (out : List Bytes) : Prop where
  banner : IsLine conn.banner.flatten
  login : ∃ (ls : List Bytes) (blank : Bytes), (∀ l ∈ ls, IsLine l) ∧
    (∀ l ∈ ls, isBlank l = false) ∧
    contains ls.flatten (ascii "Response: Success") = true ∧ isBlank blank = true ∧
    conn.login.flatten = ls.flatten ++ blank
  command : ∃ (hs : List Bytes) (mark rest : Bytes), (∀ l ∈ hs, IsLine l) ∧
    (∀ l ∈ hs, isEnd l = false) ∧ (∀ l ∈ hs, isHeader l = true) ∧ IsLine mark ∧ isEnd mark = true ∧
    conn.command.flatten = hs.flatten ++ ((out.map terminated).flatten ++ (mark ++ rest))
  lines : ∀ l ∈ out, newline ∉ l
  going : ∀ l ∈ out, isEnd (terminated l) = false
  start : ∀ l ∈ out.head?, isHeader (terminated l) = false
  loginWrite : conn.loginWrite = none
  commandWrite : conn.commandWrite = none

lemma collect_headers (h : ∀ l ∈ hs, isHeader l = true) (ls : List Bytes) :
    collect false (hs ++ ls) = collect false ls := by
  induction hs with
  | nil => rfl
  | cons l hs ih =>
    obtain ⟨hl, hrest⟩ := List.forall_mem_cons.mp h
    simp only [List.cons_append, collect, hl, Bool.not_false, Bool.and_self, if_true]
    exact ih hrest

lemma collect_started (ls : List Bytes) : collect true ls = ls.flatten := by
  induction ls with
  | nil => rfl
  | cons l ls ih => simp [collect, ih]

lemma collect_body (h : ∀ l ∈ ls.head?, isHeader l = false) : collect false ls = ls.flatten := by
  cases ls with
  | nil => rfl
  | cons l ls => simp [collect, h l rfl, collect_started]

lemma isLine_of_isBlank {l : Bytes} (h : isBlank l = true) : IsLine l := by
  rcases Bool.or_eq_true_iff.mp h with h | h
  · exact ⟨ascii "\r", by decide, of_decide_eq_true h⟩
  · exact ⟨[], by decide, of_decide_eq_true h⟩

lemma isLine_terminated {l : Bytes} (h : newline ∉ l) : IsLine (terminated l) := ⟨l, h, rfl⟩

/-- The output is the text, and three requests are sent. -/
lemma Spoken.run (h : Spoken conn out) (cfg : Ami) (command : Bytes) :
    runAsteriskCLIViaAMI cfg (fun _ => .ok conn) command =
      ⟨[loginReq cfg, cmdReq command, logoff], .ok (out.map terminated).flatten⟩ := by
  obtain ⟨ls, blank, hls, hgo, hsuccess, hblank, hlogin⟩ := h.login
  obtain ⟨hs, mark, rest, hhs, hhsgo, hheader, hmark, hend, hcommand⟩ := h.command
  have hbanner : cutLine (Reader.mk [] conn.banner).rest = some (conn.banner.flatten, []) :=
    isLine_iff.mp h.banner
  obtain ⟨r, hread, hrest⟩ := readLine_some hbanner
  have hrlogin : (r.expect conn.login).rest = ls.flatten ++ (blank ++ []) := by
    rw [rest_expect, hrest, hlogin, List.nil_append, List.append_nil]
  obtain ⟨hlines, hstopped, hreader⟩ := readUntil_stops hrlogin (lt_bound hrlogin hls) hls hgo
    (isLine_of_isBlank hblank) hblank
  have hall : ∀ l ∈ hs ++ out.map terminated, IsLine l ∧ isEnd l = false := by
    intro l hl
    rcases List.mem_append.mp hl with hl | hl
    · exact ⟨hhs l hl, hhsgo l hl⟩
    · obtain ⟨l', hl', rfl⟩ := List.mem_map.mp hl
      exact ⟨isLine_terminated (h.lines l' hl'), h.going l' hl'⟩
  have hbody : ∀ l ∈ (out.map terminated).head?, isHeader l = false := by
    intro l hl
    rw [List.head?_map] at hl
    obtain ⟨l', hl', rfl⟩ := Option.map_eq_some_iff.mp hl
    exact h.start l' hl'
  simp only [runAsteriskCLIViaAMI, hread, Cli.login, h.loginWrite, hlines, hstopped, hsuccess,
    Bool.not_true, Bool.false_eq_true, if_false]
  generalize ((r.expect conn.login).readUntil isBlank (r.expect conn.login).bound).reader = r'
    at hreader ⊢
  have hrcommand : (r'.expect conn.command).rest =
      (hs ++ out.map terminated).flatten ++ (mark ++ rest) := by
    rw [rest_expect, hreader, hcommand, List.nil_append, List.flatten_append, List.append_assoc]
  have hread' := (readUntil_stops hrcommand (lt_bound hrcommand fun l hl => (hall l hl).1)
    (fun l hl => (hall l hl).1) (fun l hl => (hall l hl).2) hmark hend).1
  simp only [sendCommand, h.commandWrite, hread', collect_headers hheader, collect_body hbody]

/-- The lines are read back, with the empty piece behind the last newline. -/
lemma splitOn_terminated (h : ∀ l ∈ out, newline ∉ l) :
    (out.map terminated).flatten.splitOn newline = out ++ [[]] := by
  have hjoin : ∀ out : List Bytes,
      (out.map terminated).flatten = [newline].intercalate (out ++ [[]]) := by
    intro out
    induction out with
    | nil => rfl
    | cons l out ih =>
      obtain ⟨l', rest, heq⟩ := List.exists_cons_of_ne_nil
        (List.append_ne_nil_of_right_ne_nil out (List.cons_ne_nil [] []))
      rw [List.map_cons, List.flatten_cons, ih, List.cons_append, heq]
      simp [List.intercalate, terminated]
  rw [hjoin]
  refine List.splitOn_intercalate newline (fun l hl => ?_) (by simp)
  rcases List.mem_append.mp hl with hl | hl
  · exact h l hl
  · rw [List.mem_singleton.mp hl]
    exact List.not_mem_nil

lemma grep_terminated (h : ∀ l ∈ out, newline ∉ l) (hname : name ≠ []) :
    grep name (out.map terminated).flatten = out.filter fun l => contains l name := by
  have hempty : contains [] name = false := by
    simpa [contains] using hname
  rw [grep, splitOn_terminated h, List.filter_append]
  simp [hempty]

/-- However TCP cuts what Asterisk sends: one caller gets the whole text, and the other one the
lines of it that have the name, and no others; without one, there is no such endpoint. -/
theorem endpoints_shown (h : Spoken conn out) (cfg : Ami) (hname : name ≠ []) :
    listPjsipEndpoints cfg (fun _ => .ok conn) =
        ⟨200, "pjsip endpoints", [("output", (out.map terminated).flatten)], []⟩ ∧
      showPjsipEndpoint cfg (fun _ => .ok conn) name =
        if ∃ l ∈ out, contains l name = true then
          ⟨200, "pjsip endpoint status", [("endpoint", name),
            ("output", [newline].intercalate (out.filter fun l => contains l name))], []⟩
        else ⟨404, "Endpoint not found", [("endpoint", name), ("output", [])], []⟩ := by
  have hmatched : (out.filter fun l => contains l name) = [] ↔
      ¬∃ l ∈ out, contains l name = true := by
    simp [List.filter_eq_nil_iff]
  constructor
  · simp only [listPjsipEndpoints, h.run]
  · simp only [showPjsipEndpoint, if_neg hname, h.run, grep_terminated h.lines hname, hmatched,
      ite_not]

def sampleText : List Bytes :=
  [ascii " Endpoint:  kiwi  2", ascii " Endpoint:  fig  0", [], ascii " Objects found: 2"]

lemma spoken_sample : Spoken (sampleConnection bytewise) sampleText where
  banner := by decide +kernel
  login := ⟨[ascii "Response: Success\r\n", ascii "Message: Authentication accepted\r\n"],
    ascii "\r\n", by decide +kernel⟩
  command := ⟨[ascii "Response: Follows\r\n", ascii "Privilege: Command\r\n"],
    ascii "--END COMMAND--\r\n", ascii "\r\n", by decide +kernel⟩
  lines := by decide +kernel
  going := by decide +kernel
  start := by decide +kernel
  loginWrite := rfl
  commandWrite := rfl

/-- One endpoint of two. -/
theorem endpoints_shown_sample :
    (showPjsipEndpoint (.read fun _ => []) (fun _ => .ok (sampleConnection bytewise))
      (ascii "kiwi")).data =
        [("endpoint", ascii "kiwi"), ("output", ascii " Endpoint:  kiwi  2")] := by
  rw [(endpoints_shown spoken_sample _ (by decide)).2]
  decide +kernel

end LoadBalancer.Cli
