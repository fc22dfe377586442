import SipForward.Core.Search
import SipForward.MediaServer.Environment

/-!
# Routing an incoming call

`onIncomingCall` looks for the names of three headers anywhere in the text of an INVITE and takes
what stands behind them. What the headers of these names say is read from the structure of the
message, in which a name stands at the start of a line, in any case, and a value may go on in
further lines.
-/

namespace MediaServer.Incoming

open Core

abbrev Chars := List Char

def crlf : Chars := ['\r', '\n']

/-! ### The code -/

/-- `" \t\r\n"`. -/
def isBlank (c : Char) : Bool := c = ' ' || c = '\t' || c = '\r' || c = '\n'

def trim (s : Chars) : Chars := strip isSpace s

def isNumberChar (c : Char) : Bool := c.isDigit || c = '+'

def cleanPhoneNumber (number : Chars) : Chars := (strip isBlank number).filter isNumberChar

/-- `msg.find(pat, pos)`: what stands from there on. -/
def find (pat msg : Chars) : Option Chars := firstTail (pat <+: ·) msg

/-- `msg.substr(pos + pat.size(), end - (pos + pat.size()))`, where `end` is the first place from
`pos` on with the other pattern. -/
def stretch (pat stop msg : Chars) : Chars := (before (stop <+: ·) msg).drop pat.length

def xTrunk : Chars := "X-Trunk".toList

def xToNumber : Chars := "X-To-Number".toList

def pAssertedIdentity : Chars := "P-Asserted-Identity".toList

/-- What is looked for. -/
def key (name : Chars) : Chars := name ++ [':']

def sip : Chars := "sip:".toList

/-- What stands behind the name and a colon, up to the end of the line. -/
def headerLine (name msg : Chars) : Option Chars :=
  (find (key name) msg).map (stretch (key name) crlf)

def trunkName (msg : Chars) : Chars :=
  (headerLine xTrunk msg).elim [] fun line => trim (strip isBlank line)

def toNumber (msg : Chars) : Option Chars := (headerLine xToNumber msg).map cleanPhoneNumber

/-- What stands between `sip:` and the next `@`. -/
def userPart (msg : Chars) : Option Chars :=
  (find sip msg).bind fun user => (find ['@'] user).map fun _ => stretch sip ['@'] user

def fromNumber (msg : Chars) : Chars :=
  ((find (key pAssertedIdentity) msg).bind userPart).elim [] cleanPhoneNumber

structure Routing where
  trunkName : Chars
  toNumber : Chars
  fromNumber : Chars
deriving DecidableEq

/-- The numbers are there, or an exception rejects the call. -/
def accept (trunkName : Chars) (toNumber : Option Chars) (fromNumber : Chars) :
    Except String Routing :=
  match toNumber with
  | some toNumber =>
    if fromNumber = [] ∨ toNumber = [] then .error "Failed to get valid phone numbers"
    else .ok ⟨trunkName, toNumber, fromNumber⟩
  | none          => .error "Missing X-To-Number header"

/-- `onIncomingCall`, up to the check of the numbers. -/
def onIncomingCall (msg : Chars) : Except String Routing :=
  accept (trunkName msg) (toNumber msg) (fromNumber msg)

/-! ### Messages -/

def isLws (c : Char) : Bool := c = ' ' || c = '\t'

/-- A character of a token. -/
def isToken (c : Char) : Bool := c.isAlphanum || "-.!%*_+`'~".toList.contains c

def isText (c : Char) : Bool := c ≠ '\r' && c ≠ '\n'

/-- A header with white space in front of its colon, and with the lines in which it goes on. -/
structure Header where
  name : Chars
  space : Chars
  line : Chars
  folds : List Chars
  token : name ≠ [] ∧ name.all isToken
  blank : space.all isLws
  text : line.all isText
  folded : ∀ fold ∈ folds, fold.head?.any isLws ∧ fold.all isText
deriving DecidableEq

def Header.raw (h : Header) : Chars :=
  h.name ++ (h.space ++ (':' :: (h.line ++ (h.folds.flatMap (crlf ++ ·) ++ crlf))))

/-- The value, with a space for the end of a line. -/
def Header.value (h : Header) : Chars :=
  strip isLws (List.intercalate [' '] ((h.line :: h.folds).map (strip isLws)))

def lower (s : Chars) : Chars := s.map Char.toLower

/-- Names are the same in any case. -/
def Header.Named (name : Chars) (h : Header) : Prop := lower h.name = lower name

instance (name : Chars) : DecidablePred (Header.Named name) := fun _ =>
  inferInstanceAs (Decidable (_ = _))

/-- The headers of every INVITE, with their short names. -/
def mandatory : List (List Chars) :=
  [["Via".toList, "v".toList], ["From".toList, "f".toList], ["To".toList, "t".toList],
    ["Call-ID".toList, "i".toList], ["CSeq".toList], ["Max-Forwards".toList],
    ["Contact".toList, "m".toList]]

structure Invite where
  uri : Chars
  headers : List Header
  body : Chars
  target : uri ≠ [] ∧ uri.all fun c => isText c && !isLws c
  complete : ∀ names ∈ mandatory, ∃ h ∈ headers, ∃ name ∈ names, h.Named name

def requestLine (uri : Chars) : Chars :=
  "INVITE ".toList ++ (uri ++ (" SIP/2.0".toList ++ crlf))

/-- `wholeMsg`. -/
def Invite.msg (m : Invite) : Chars :=
  requestLine m.uri ++ (m.headers.flatMap Header.raw ++ (crlf ++ m.body))

/-- The headers of a name. -/
def Invite.named (m : Invite) (name : Chars) : List Header :=
  m.headers.filter fun h => h.Named name

def Invite.values (m : Invite) (name : Chars) : List Chars := (m.named name).map Header.value

/-- What is derived from the message. -/
def Invite.routing (m : Invite) : Option Routing := (onIncomingCall m.msg).toOption

/-- What is derived from the values of its own headers. -/
def Invite.ownRouting (m : Invite) : Option Routing :=
  (accept ((m.values xTrunk).head?.elim [] trim) ((m.values xToNumber).head?.map cleanPhoneNumber)
    (((m.values pAssertedIdentity).head?.bind userPart).elim [] cleanPhoneNumber)).toOption

/-- The messages carry the same values of the three headers. -/
structure SameOwn (m m' : Invite) : Prop where
  trunk : m.values xTrunk = m'.values xTrunk
  toNumber : m.values xToNumber = m'.values xToNumber
  identity : m.values pAssertedIdentity = m'.values pAssertedIdentity

/-! ### What stands behind the names -/

/-- The front goes up to the first place with the pattern, or to the end. -/
def UpTo (pat l front : Chars) : Prop :=
  (∃ tail, IsFirst (pat <+: ·) l front tail) ∨ (front = l ∧ ¬pat <:+: l)

/-- The line stands behind the first place that has the name and a colon. -/
def Line (name msg line : Chars) : Prop :=
  ∃ front tail, IsFirst (key name <+: ·) msg front (key name ++ tail) ∧ UpTo crlf tail line

/-- The user stands between the first `sip:` and the first `@` behind it. -/
def User (msg user : Chars) : Prop :=
  ∃ front tail back, IsFirst (sip <+: ·) msg front (sip ++ tail) ∧
    IsFirst (['@'] <+: ·) tail user back

/-- The user stands behind the first place that has the name and a colon, in its line or not. -/
def Caller (msg user : Chars) : Prop :=
  ∃ front tail, IsFirst (key pAssertedIdentity <+: ·) msg front tail ∧ User tail user

/-- There is no header of the name, and nothing that looks like one. -/
structure Absent (m : Invite) (name : Chars) : Prop where
  missing : m.named name = []
  nowhere : ¬key name <:+: m.msg

/-- The first header of the name is written plainly, and the first place that has the name and a
colon reads like it. -/
structure Leads (m : Invite) (name : Chars) (h : Header) (rest : Chars) : Prop where
  head : (m.named name).head? = some h
  exact : h.name = name
  tight : h.space = []
  unfolded : h.folds = []
  found : ∃ front, IsFirst (key name <+: ·) m.msg front (h.raw ++ rest)

/-- The three headers are where their names are found, and the caller is in its header. -/
structure Clean (m : Invite) : Prop where
  trunk : Absent m xTrunk ∨ ∃ h rest, Leads m xTrunk h rest
  toNumber : Absent m xToNumber ∨ ∃ h rest, Leads m xToNumber h rest
  identity : Absent m pAssertedIdentity ∨ ∃ h rest, Leads m pAssertedIdentity h rest ∧
    ((∃ user, User h.line user) ∨ ∀ user, ¬User (h.raw ++ rest) user)

variable {m m' : Invite} {h : Header} {name msg line user front tail rest pat stop l : Chars}

/-! ### What the code finds -/

lemma find_eq_some_iff : find pat msg = some tail ↔ ∃ front, IsFirst (pat <+: ·) msg front tail :=
  firstTail_eq_some_iff

lemma upTo_iff : UpTo pat l front ↔ before (pat <+: ·) l = front := by
  constructor
  · rintro (⟨tail, h⟩ | ⟨rfl, h⟩)
    · exact h.before_eq
    · exact before_eq_self (firstTail_eq_none_iff.mp (firstTail_prefix_eq_none_iff.mpr h))
  · rintro rfl
    cases hfind : firstTail (pat <+: ·) l with
    | some tail =>
      obtain ⟨front, h⟩ := firstTail_eq_some_iff.mp hfind
      exact .inl ⟨tail, h.before_eq.symm ▸ h⟩
    | none =>
      exact .inr ⟨before_eq_self (firstTail_eq_none_iff.mp hfind),
        firstTail_prefix_eq_none_iff.mp hfind⟩

lemma stretch_append {c : Char} (h : c ∉ pat) :
    stretch pat (c :: stop) (pat ++ l) = before (c :: stop <+: ·) l := by
  rw [stretch, before_append h, List.drop_left]

lemma not_mem_key {c : Char} (h : c ∉ name) (hcolon : c ≠ ':') : c ∉ key name := by
  simp [key, h, hcolon]

/-- What is found behind a name is the line that stands there. -/
lemma headerLine_eq_some_iff (h : '\r' ∉ name) :
    headerLine name msg = some line ↔ Line name msg line := by
  have hkey : '\r' ∉ key name := not_mem_key h (by decide)
  rw [headerLine, Option.map_eq_some_iff]
  constructor
  · rintro ⟨found, hfound, rfl⟩
    obtain ⟨front, hfirst⟩ := find_eq_some_iff.mp hfound
    obtain ⟨tail, rfl⟩ := hfirst.holds
    exact ⟨front, tail, hfirst, upTo_iff.mpr (stretch_append hkey).symm⟩
  · rintro ⟨front, tail, hfirst, hline⟩
    refine ⟨key name ++ tail, find_eq_some_iff.mpr ⟨front, hfirst⟩, ?_⟩
    rw [crlf, stretch_append hkey]
    exact upTo_iff.mp hline

lemma headerLine_eq_none_iff : headerLine name msg = none ↔ ¬key name <:+: msg := by
  rw [headerLine, Option.map_eq_none_iff, find, firstTail_prefix_eq_none_iff]

lemma userPart_eq_some_iff : userPart msg = some user ↔ User msg user := by
  have hat : '@' ∉ sip := by decide
  rw [userPart, Option.bind_eq_some_iff]
  constructor
  · rintro ⟨found, hfound, hat'⟩
    obtain ⟨front, hfirst⟩ := find_eq_some_iff.mp hfound
    obtain ⟨tail, rfl⟩ := hfirst.holds
    rw [Option.map_eq_some_iff] at hat'
    obtain ⟨back, hback, rfl⟩ := hat'
    rw [find, firstTail_append hat] at hback
    obtain ⟨user, huser⟩ := firstTail_eq_some_iff.mp hback
    refine ⟨front, tail, back, hfirst, ?_⟩
    rwa [stretch_append hat, huser.before_eq]
  · rintro ⟨front, tail, back, hfirst, huser⟩
    refine ⟨sip ++ tail, find_eq_some_iff.mpr ⟨front, hfirst⟩, ?_⟩
    have hback : find ['@'] (sip ++ tail) = some back := by
      rw [find, firstTail_append hat]
      exact firstTail_eq_some_iff.mpr ⟨user, huser⟩
    rw [hback, Option.map_some, stretch_append hat, huser.before_eq]

lemma caller_eq_some_iff :
    (find (key pAssertedIdentity) msg).bind userPart = some user ↔ Caller msg user := by
  rw [Option.bind_eq_some_iff]
  constructor
  · rintro ⟨tail, htail, huser⟩
    obtain ⟨front, hfirst⟩ := find_eq_some_iff.mp htail
    exact ⟨front, tail, hfirst, userPart_eq_some_iff.mp huser⟩
  · rintro ⟨front, tail, hfirst, huser⟩
    exact ⟨tail, find_eq_some_iff.mpr ⟨front, hfirst⟩, userPart_eq_some_iff.mpr huser⟩

lemma isSpace_of_isBlank {c : Char} (hc : isBlank c = true) : isSpace c = true := by
  simp only [isBlank, Bool.or_eq_true, decide_eq_true_eq] at hc
  rcases hc with ((rfl | rfl) | rfl) | rfl <;> decide

lemma isBlank_of_isLws {c : Char} (hc : isLws c = true) : isBlank c = true := by
  simp only [isLws, Bool.or_eq_true, decide_eq_true_eq] at hc
  rcases hc with rfl | rfl <;> decide

lemma isNumberChar_of_isBlank {c : Char} (hc : isBlank c = true) : isNumberChar c = false := by
  simp only [isBlank, Bool.or_eq_true, decide_eq_true_eq] at hc
  rcases hc with ((rfl | rfl) | rfl) | rfl <;> decide

lemma trim_strip (line : Chars) : trim (strip isBlank line) = trim line :=
  strip_strip (fun _ hc => isSpace_of_isBlank hc) line

/-- The white space goes with everything else that is no part of a number. -/
lemma cleanPhoneNumber_eq_filter (number : Chars) :
    cleanPhoneNumber number = number.filter isNumberChar :=
  filter_strip (fun _ hc => isNumberChar_of_isBlank hc) number

/-! ### When there are two numbers -/

lemma accept_eq_some_iff {trunk caller : Chars} {number : Option Chars} {r : Routing} :
    (accept trunk number caller).toOption = some r ↔
      (trunk = r.trunkName ∧ number = some r.toNumber ∧ caller = r.fromNumber) ∧
        r.fromNumber ≠ [] ∧ r.toNumber ≠ [] := by
  cases number with
  | none => simp [accept, Except.toOption]
  | some number =>
    rw [accept]
    split_ifs with hempty
    · constructor
      · intro h
        cases h
      · rintro ⟨⟨-, ⟨⟩, rfl⟩, hfrom, hto⟩
        exact absurd hempty (not_or.mpr ⟨hfrom, hto⟩)
    · constructor
      · rintro ⟨⟩
        exact ⟨⟨rfl, rfl, rfl⟩, not_or.mp hempty⟩
      · rintro ⟨⟨rfl, ⟨⟩, rfl⟩, -⟩
        rfl

lemma toNumber_eq_some_iff {number : Chars} : toNumber msg = some number ↔
    ∃ line, Line xToNumber msg line ∧ cleanPhoneNumber line = number := by
  have hname : '\r' ∉ xToNumber := by decide
  simp only [toNumber, Option.map_eq_some_iff, headerLine_eq_some_iff hname]

lemma fromNumber_eq_iff {number : Chars} (h : number ≠ []) : fromNumber msg = number ↔
    ∃ user, Caller msg user ∧ cleanPhoneNumber user = number := by
  simp only [← caller_eq_some_iff, fromNumber]
  cases (find (key pAssertedIdentity) msg).bind userPart with
  | some user => simp
  | none => simp [h.symm]

/-! ### Clean messages -/

lemma Header.not_mem_line (h : Header) : '\r' ∉ h.line := by
  intro hmem
  have htext := List.all_eq_true.mp h.text _ hmem
  cases htext

lemma Leads.raw_eq (hl : Leads m name h rest) : h.raw = key name ++ (h.line ++ crlf) := by
  rw [Header.raw, hl.exact, hl.tight, hl.unfolded, key, List.append_assoc]
  rfl

/-- Its line is what stands behind the name. -/
lemma Leads.line_found (hl : Leads m name h rest) : Line name m.msg h.line := by
  obtain ⟨front, hfirst⟩ := hl.found
  rw [hl.raw_eq, List.append_assoc] at hfirst
  refine ⟨front, h.line ++ crlf ++ rest, hfirst, upTo_iff.mpr ?_⟩
  rw [List.append_assoc, crlf, before_append h.not_mem_line]
  simp [before]

/-- The value is the line without the white space around it. -/
lemma Leads.value_eq (hl : Leads m name h rest) :
    (m.values name).head? = some (strip isLws h.line) := by
  rw [Invite.values, List.head?_map, hl.head, Option.map_some, Header.value, hl.unfolded]
  simp [List.intercalate, strip_strip]

lemma Absent.values (ha : Absent m name) : (m.values name).head? = none := by
  rw [Invite.values, ha.missing]
  rfl

lemma trim_value (line : Chars) : trim (strip isLws line) = trim line :=
  strip_strip (fun _ hc => isSpace_of_isBlank (isBlank_of_isLws hc)) line

lemma cleanPhoneNumber_value (line : Chars) :
    cleanPhoneNumber (strip isLws line) = cleanPhoneNumber line := by
  rw [cleanPhoneNumber_eq_filter, cleanPhoneNumber_eq_filter]
  exact filter_strip (fun _ hc => isNumberChar_of_isBlank (isBlank_of_isLws hc)) line

lemma User.append (hu : User l user) (back : Chars) : User (l ++ back) user := by
  obtain ⟨front, tail, after, hsip, hat⟩ := hu
  have hsip' := hsip.append back
  rw [List.append_assoc] at hsip'
  exact ⟨front, tail ++ back, after ++ back, hsip', hat.append back⟩

/-- White space behind it has no part in the user. -/
lemma User.of_append {back : Chars} (hu : User (l ++ back) user)
    (hback : ∀ c ∈ back, isLws c = true) : User l user := by
  have hnot {s : Chars} (hs : s.any isLws = false) : ∀ c ∈ s, c ∉ back := by
    intro c hc hmem
    exact List.any_eq_false.mp hs c hc (hback c hmem)
  obtain ⟨front, tail, after, hsip, hat⟩ := hu
  obtain ⟨tail', htail, hsip'⟩ := hsip.of_append (List.cons_ne_nil _ _) (hnot rfl)
  obtain ⟨tail', rfl⟩ := hsip'.holds
  rw [List.append_assoc, List.append_cancel_left_eq] at htail
  rw [htail] at hat
  obtain ⟨after', -, hat'⟩ := hat.of_append (List.cons_ne_nil _ _) (hnot rfl)
  exact ⟨front, tail', after', hsip', hat'⟩

lemma userPart_append (hfront : 's' ∉ front) : userPart (front ++ l) = userPart l := by
  have hfind : find sip (front ++ l) = find sip l := firstTail_append hfront
  rw [userPart, userPart, hfind]

/-- Nor has the name of the header. -/
lemma userPart_key (l : Chars) : userPart (key pAssertedIdentity ++ l) = userPart l := by
  have hfind : find sip (key pAssertedIdentity ++ l) = find sip l := by
    rfl
  rw [userPart, userPart, hfind]

/-- The value has the user of the line. -/
lemma userPart_value (line : Chars) : userPart (strip isLws line) = userPart line := by
  obtain ⟨front, back, hsplit, hfront, hback⟩ := exists_strip isLws line
  have hs : 's' ∉ front := fun hmem => by cases hfront _ hmem
  conv_rhs => rw [hsplit, userPart_append hs]
  ext user
  rw [userPart_eq_some_iff, userPart_eq_some_iff]
  exact ⟨fun hu => hu.append back, fun hu => hu.of_append hback⟩

lemma Absent.headerLine (ha : Absent m name) : headerLine name m.msg = none :=
  headerLine_eq_none_iff.mpr ha.nowhere

lemma Clean.trunkName_eq (hm : Clean m) :
    trunkName m.msg = (m.values xTrunk).head?.elim [] trim := by
  rcases hm.trunk with ha | ⟨h, rest, hl⟩
  · rw [trunkName, ha.headerLine, ha.values]
    rfl
  · rw [trunkName, (headerLine_eq_some_iff (by decide)).mpr hl.line_found, hl.value_eq]
    rw [Option.elim_some, Option.elim_some, trim_strip, trim_value]

lemma Clean.toNumber_eq (hm : Clean m) :
    Incoming.toNumber m.msg = (m.values xToNumber).head?.map cleanPhoneNumber := by
  rcases hm.toNumber with ha | ⟨h, rest, hl⟩
  · rw [Incoming.toNumber, ha.headerLine, ha.values, Option.map_none]
  · rw [Incoming.toNumber, (headerLine_eq_some_iff (by decide)).mpr hl.line_found, hl.value_eq]
    rw [Option.map_some, Option.map_some, cleanPhoneNumber_value]

/-- The caller is the one in its header, if there is one. -/
lemma Clean.fromNumber_eq (hm : Clean m) : fromNumber m.msg =
    ((m.values pAssertedIdentity).head?.bind userPart).elim [] cleanPhoneNumber := by
  rw [fromNumber]
  rcases hm.identity with ha | ⟨h, rest, hl, huser⟩
  · have hfind : find (key pAssertedIdentity) m.msg = none :=
      firstTail_prefix_eq_none_iff.mpr ha.nowhere
    rw [hfind, ha.values]
  · have hfind : find (key pAssertedIdentity) m.msg = some (h.raw ++ rest) :=
      find_eq_some_iff.mpr hl.found
    rw [hfind, hl.value_eq, Option.bind_some, Option.bind_some, userPart_value]
    congr 1
    -- what the line has, the text from the header on has
    have hmono {user : Chars} (hu : User h.line user) : User (h.raw ++ rest) user := by
      rw [← userPart_eq_some_iff, hl.raw_eq, List.append_assoc, userPart_key,
        userPart_eq_some_iff, List.append_assoc]
      exact hu.append (crlf ++ rest)
    rcases huser with ⟨user, hu⟩ | hnone
    · rw [userPart_eq_some_iff.mpr hu, userPart_eq_some_iff.mpr (hmono hu)]
    · have hline : userPart h.line = none :=
        Option.eq_none_iff_forall_ne_some.mpr fun user hu =>
          hnone user (hmono (userPart_eq_some_iff.mp hu))
      rw [hline, Option.eq_none_iff_forall_ne_some]
      exact fun user hu => hnone user (userPart_eq_some_iff.mp hu)

/-- From a clean message the code derives what its own headers give. -/
lemma Clean.routing (hm : Clean m) : m.routing = m.ownRouting := by
  rw [Invite.routing, onIncomingCall, hm.trunkName_eq, hm.toNumber_eq, hm.fromNumber_eq]
  rfl

lemma SameOwn.ownRouting (h : SameOwn m m') : m.ownRouting = m'.ownRouting := by
  rw [Invite.ownRouting, Invite.ownRouting, h.trunk, h.toNumber, h.identity]

/-! ### A header that is read in their place -/

lemma isText_of_isNumberChar {c : Char} (h : isNumberChar c = true) : isText c = true := by
  rw [isText, Bool.and_eq_true, decide_eq_true_eq, decide_eq_true_eq]
  constructor
  · rintro rfl
    cases h
  · rintro rfl
    cases h

def subjectText : Chars := " P-Asserted-Identity:sip:1@ X-To-Number:".toList

/-- A subject with the names of two headers in it. -/
def subject (number : Chars) (h : ∀ c ∈ number, isNumberChar c = true) : Header where
  name := "Subject".toList
  space := []
  line := subjectText ++ number
  folds := []
  token := by decide
  blank := rfl
  text := by
    rw [List.all_append, Bool.and_eq_true, List.all_eq_true (l := number)]
    exact ⟨by decide, fun c hc => isText_of_isNumberChar (h c hc)⟩
  folded := nofun

/-- The message to another target, with the subject in front of its headers. -/
def Invite.withSubject (m : Invite) (number : Chars) (h : ∀ c ∈ number, isNumberChar c = true) :
    Invite where
  uri := "sip:a@b".toList
  headers := subject number h :: m.headers
  body := m.body
  target := by decide
  complete := by
    intro names hnames
    obtain ⟨g, hg, hname⟩ := m.complete names hnames
    exact ⟨g, List.mem_cons_of_mem _ hg, hname⟩

lemma sameOwn_withSubject {number : Chars} (h : ∀ c ∈ number, isNumberChar c = true) :
    SameOwn m (m.withSubject number h) := by
  have hvalues {name : Chars} (hname : lower "Subject".toList ≠ lower name) :
      m.values name = (m.withSubject number h).values name := by
    have hnot : ¬(subject number h).Named name := hname
    have hcons : (m.withSubject number h).headers = subject number h :: m.headers := rfl
    rw [Invite.values, Invite.values, Invite.named, Invite.named, hcons,
      List.filter_cons_of_neg (by rw [decide_eq_true_eq]; exact hnot)]
  exact ⟨hvalues (by decide), hvalues (by decide), hvalues (by decide)⟩

/-- What stands in front of the number. -/
def lead : Chars :=
  requestLine "sip:a@b".toList ++ ("Subject".toList ++ (':' :: subjectText))

lemma raw_subject {number : Chars} (h : ∀ c ∈ number, isNumberChar c = true) :
    (subject number h).raw = "Subject".toList ++ (':' :: (subjectText ++ (number ++ crlf))) := by
  rw [← List.append_assoc subjectText]
  rfl

lemma msg_withSubject {number : Chars} (h : ∀ c ∈ number, isNumberChar c = true) :
    ∃ rest, (m.withSubject number h).msg = lead ++ (number ++ (crlf ++ rest)) := by
  refine ⟨m.headers.flatMap Header.raw ++ (crlf ++ m.body), ?_⟩
  have hcons : (m.withSubject number h).headers.flatMap Header.raw =
      (subject number h).raw ++ m.headers.flatMap Header.raw := List.flatMap_cons
  rw [Invite.msg, hcons, raw_subject, lead]
  simp only [List.append_assoc, List.cons_append]
  rfl

/-- The numbers are taken from the subject. -/
lemma routing_withSubject {number : Chars} (h : ∀ c ∈ number, isNumberChar c = true)
    (hne : number ≠ []) : ∃ trunk,
    (m.withSubject number h).routing = some ⟨trunk, number, ['1']⟩ := by
  obtain ⟨rest, hmsg⟩ := @msg_withSubject m number h
  refine ⟨trunkName (m.withSubject number h).msg,
    accept_eq_some_iff.mpr ⟨⟨rfl, ?_, ?_⟩, by simp, hne⟩⟩
  · have hlead : find (key xToNumber) lead = some (key xToNumber) := by decide +kernel
    obtain ⟨front, hfirst⟩ := find_eq_some_iff.mp hlead
    have hreturn : '\r' ∉ number := fun hmem => by cases h _ hmem
    refine toNumber_eq_some_iff.mpr ⟨number, ⟨front, number ++ (crlf ++ rest), ?_, ?_⟩, ?_⟩
    · rw [hmsg]
      exact hfirst.append _
    · rw [upTo_iff, crlf, before_append hreturn]
      simp [before]
    · rw [cleanPhoneNumber_eq_filter, List.filter_eq_self]
      exact h
  · have hlead : find (key pAssertedIdentity) lead =
        some "P-Asserted-Identity:sip:1@ X-To-Number:".toList := by decide +kernel
    have huser : userPart "P-Asserted-Identity:sip:1@ X-To-Number:".toList = some ['1'] := by
      decide +kernel
    obtain ⟨front, hfirst⟩ := find_eq_some_iff.mp hlead
    have huser' := (userPart_eq_some_iff.mp huser).append (number ++ (crlf ++ rest))
    refine (fromNumber_eq_iff (by simp)).mpr ⟨['1'], ⟨front, _, ?_, huser'⟩, rfl⟩
    rw [hmsg]
    exact hfirst.append _

/-- What is derived from a message is a number. -/
lemma isNumberChar_of_routing {r : Routing} (h : m.routing = some r) :
    ∀ c ∈ r.toNumber, isNumberChar c = true := by
  obtain ⟨⟨-, hto, -⟩, -⟩ := accept_eq_some_iff.mp h
  obtain ⟨line, -, hline⟩ := toNumber_eq_some_iff.mp hto
  rw [← hline, cleanPhoneNumber_eq_filter]
  exact fun c hc => (List.mem_filter.mp hc).2

/-- For every message there is one with the same headers and one more that is routed otherwise. -/
theorem exists_routed_otherwise (m : Invite) : ∃ m', SameOwn m m' ∧ m.routing ≠ m'.routing := by
  cases hrouting : m.routing with
  | none =>
    have hone : ∀ c ∈ ['1'], isNumberChar c = true := by
      intro c hc
      rw [List.mem_singleton.mp hc]
      rfl
    obtain ⟨trunk, hsome⟩ := routing_withSubject (m := m) hone (List.cons_ne_nil _ _)
    refine ⟨_, sameOwn_withSubject hone, ?_⟩
    rw [hsome]
    exact nofun
  | some r =>
    have hnumber : ∀ c ∈ r.toNumber ++ ['1'], isNumberChar c = true := by
      intro c hc
      rcases List.mem_append.mp hc with hmem | hmem
      · exact isNumberChar_of_routing hrouting c hmem
      · rw [List.mem_singleton.mp hmem]
        rfl
    obtain ⟨trunk, hsome⟩ := routing_withSubject (m := m) hnumber (by simp)
    refine ⟨_, sameOwn_withSubject hnumber, ?_⟩
    rw [hsome]
    intro heq
    have hlength := congrArg (fun r : Routing => r.toNumber.length) (Option.some.inj heq)
    simp at hlength

/-- Two clean messages with the same values of the three headers are routed alike, and as these say.
Around every message there is one with the same values that is routed otherwise. -/
theorem routing_eq_of_clean (m : Invite) :
    (∀ m', SameOwn m m' → Clean m → Clean m' →
      m.routing = m'.routing ∧ m.routing = m.ownRouting) ∧
    ∃ m', SameOwn m m' ∧ m.routing ≠ m'.routing := by
  refine ⟨fun m' hsame hm hm' => ⟨?_, hm.routing⟩, exists_routed_otherwise m⟩
  rw [hm.routing, hm'.routing, hsame.ownRouting]

def plain (name line : String) (hname : name.toList ≠ [] ∧ name.toList.all isToken)
    (hline : line.toList.all isText) : Header :=
  ⟨name.toList, [], line.toList, [], hname, rfl, hline, nofun⟩

def trunkHeader : Header := plain "X-Trunk" " tata" (by decide) (by decide)

def toNumberHeader : Header := plain "X-To-Number" " +918888800000" (by decide) (by decide)

def identityHeader : Header :=
  plain "P-Asserted-Identity" " <sip:+919999900000@a>" (by decide) (by decide)

/-- The headers that have nothing to do with the routing, but `From`. -/
def otherHeaders : List Header :=
  [plain "v" " SIP/2.0/UDP a;branch=z9hG4bK1" (by decide) (by decide),
    plain "Max-Forwards" " 70" (by decide) (by decide),
    plain "t" " <sip:m@b>" (by decide) (by decide),
    plain "i" " c1" (by decide) (by decide),
    plain "CSeq" " 1 INVITE" (by decide) (by decide),
    plain "m" " <sip:a>" (by decide) (by decide)]

def sampleInvite : Invite where
  uri := "sip:m@b".toList
  headers := plain "From" " \"B\" <sip:b@a>;tag=x" (by decide) (by decide) ::
    ([trunkHeader, toNumberHeader, identityHeader] ++ otherHeaders)
  body := []
  target := by decide
  complete := by decide +kernel

/-- Its own headers come last. -/
def otherInvite : Invite where
  uri := "sip:m@b".toList
  headers := plain "From" " <sip:c@b>;tag=y" (by decide) (by decide) ::
    (otherHeaders ++ [identityHeader, toNumberHeader, trunkHeader])
  body := "v=0\r\n".toList
  target := by decide
  complete := by decide +kernel

lemma clean_sampleInvite : Clean sampleInvite where
  trunk := .inr ⟨trunkHeader,
    toNumberHeader.raw ++ (identityHeader.raw ++ (otherHeaders.flatMap Header.raw ++ crlf)),
    by decide +kernel, rfl, rfl, rfl, find_eq_some_iff.mp (by decide +kernel)⟩
  toNumber := .inr ⟨toNumberHeader,
    identityHeader.raw ++ (otherHeaders.flatMap Header.raw ++ crlf),
    by decide +kernel, rfl, rfl, rfl, find_eq_some_iff.mp (by decide +kernel)⟩
  identity := .inr ⟨identityHeader, otherHeaders.flatMap Header.raw ++ crlf,
    ⟨by decide +kernel, rfl, rfl, rfl, find_eq_some_iff.mp (by decide +kernel)⟩,
    .inl ⟨"+919999900000".toList, userPart_eq_some_iff.mp (by decide +kernel)⟩⟩

lemma clean_otherInvite : Clean otherInvite where
  trunk := .inr ⟨trunkHeader, crlf ++ otherInvite.body,
    by decide +kernel, rfl, rfl, rfl, find_eq_some_iff.mp (by decide +kernel)⟩
  toNumber := .inr ⟨toNumberHeader, trunkHeader.raw ++ (crlf ++ otherInvite.body),
    by decide +kernel, rfl, rfl, rfl, find_eq_some_iff.mp (by decide +kernel)⟩
  identity := .inr ⟨identityHeader,
    toNumberHeader.raw ++ (trunkHeader.raw ++ (crlf ++ otherInvite.body)),
    ⟨by decide +kernel, rfl, rfl, rfl, find_eq_some_iff.mp (by decide +kernel)⟩,
    .inl ⟨"+919999900000".toList, userPart_eq_some_iff.mp (by decide +kernel)⟩⟩

/-- Two INVITEs with other headers in another order are routed alike. -/
theorem routing_eq_of_clean_sample : SameOwn sampleInvite otherInvite ∧
    sampleInvite.routing = otherInvite.routing ∧
    sampleInvite.routing =
      some ⟨"tata".toList, "+918888800000".toList, "+919999900000".toList⟩ := by
  have hsame : SameOwn sampleInvite otherInvite := by
    constructor <;> decide +kernel
  obtain ⟨halike, hown⟩ := (routing_eq_of_clean sampleInvite).1 otherInvite hsame
    clean_sampleInvite clean_otherInvite
  exact ⟨hsame, halike, hown.trans (by decide +kernel)⟩

/-- The caller has chosen the display name. -/
def quotingInvite : Invite where
  uri := "sip:m@b".toList
  headers :=
    plain "From" " \"X-To-Number: 15550001111\" <sip:b@a>;tag=x" (by decide) (by decide) ::
    ([trunkHeader, toNumberHeader, identityHeader] ++ otherHeaders)
  body := []
  target := by decide
  complete := by decide +kernel

/-- The number in the display name is the one that is called. -/
theorem display_name_called : SameOwn sampleInvite quotingInvite ∧
    sampleInvite.routing = some ⟨"tata".toList, "+918888800000".toList, "+919999900000".toList⟩ ∧
    quotingInvite.routing = some ⟨"tata".toList, "15550001111".toList, "+919999900000".toList⟩ := by
  refine ⟨⟨?_, ?_, ?_⟩, ?_, ?_⟩
  all_goals decide +kernel

end MediaServer.Incoming
