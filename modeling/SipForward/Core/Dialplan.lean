import Mathlib.Data.List.Basic
import Mathlib.Data.Nat.Notation
import Mathlib.Tactic.Lemma
import Mathlib.Tactic.SplitIfs

/-!
# Dialplans

The part of the language of Asterisk's `extensions.conf` in which calls are routed: extensions with
patterns, variables that are inherited by the channels that are dialed, conditional jumps,
subroutines on a channel before it is dialed. Execution has a bound on its steps; with a higher
bound it gives the same. It gives nothing where what it does is not described here: two patterns
that match, a value with a character that has a meaning where the value is put.
-/

namespace Core.Dialplan

abbrev Chars := List Char

/-! ### Syntax -/

/-- What a pattern says about the next characters. -/
inductive PatternPart where
  | digit
  | oneOf (ranges : List (Char × Char))
  | literal (c : Char)
  | rest
deriving DecidableEq

inductive Pattern where
  | exact (exten : String)
  | parts (l : List PatternPart)
deriving DecidableEq

/-- A word of a text, a variable, or a part of its value. -/
inductive Word where
  | text (s : String)
  | var (name : String)
  | drop (name : String) (offset : ℕ)
  | take (name : String) (length : ℕ)
deriving DecidableEq

/-- A word, or a function. -/
inductive Piece where
  | word (r : Word)
  | pjsipHeader (name : String)
  | realtimeField (family field : String) (value : Word) (column : String)
  | curl (url : String)
deriving DecidableEq

abbrev Template := List Piece

/-- A comparison of two texts in quotes. -/
inductive Condition where
  | eq (a b : Template)
  | ne (a b : Template)
  | or (p q : Condition)
deriving DecidableEq

/-- Whether a variable passes to a channel that is dialed: `X`, `_X` and `__X`. -/
inductive Inheritance where
  | none
  | once
  | always
deriving DecidableEq

inductive CallerField where
  | num
  | name
  | dnid
deriving DecidableEq

/-- A label in the same extension, or the first priority of another. -/
inductive Target where
  | label (name : String)
  | exten (context : String) (exten : Word)
deriving DecidableEq

inductive App where
  | noOp
  | set (inheritance : Inheritance) (name : String) (value : Template)
  | setCaller (field : CallerField) (value : Template)
  | addHeader (name : String) (value : Template)
  | gotoIf (condition : Condition) (target : Target)
  | goto (target : Target)
  | dial (destination : Template) (timeout : ℕ) (predial : Option (String × String))
  | mixMonitor (file : Template)
  | answer
  | wait (seconds : ℕ)
  | echo
  | hangup (cause : Option ℕ)
  | ret
deriving DecidableEq

structure Step where
  label : Option String
  app : App
deriving DecidableEq

structure Exten where
  pattern : Pattern
  steps : List Step
deriving DecidableEq

abbrev Plan := List (String × List Exten)

/-! ### Extensions -/

def PatternPart.accepts (c : Char) : PatternPart → Bool
  | .digit        => c.isDigit
  | .oneOf ranges => ranges.any fun r => r.1 ≤ c && c ≤ r.2
  | .literal d    => c == d
  | .rest         => true

/-- The rest is at least one character. -/
def matchesParts : List PatternPart → Chars → Bool
  | [], s                 => s.isEmpty
  | .rest :: _, s         => !s.isEmpty
  | _ :: _, []            => false
  | part :: parts, c :: s => part.accepts c && matchesParts parts s

def Pattern.isExact (s : Chars) : Pattern → Bool
  | .exact exten => s == exten.toList
  | .parts _     => false

def Pattern.accepts (s : Chars) : Pattern → Bool
  | .exact _ => false
  | .parts l => matchesParts l s

/-- An extension that is written out comes before the patterns. -/
def findExten (extens : List Exten) (s : Chars) : Option (List Step) :=
  match extens.find? fun e => e.pattern.isExact s with
  | some e => some e.steps
  | none   =>
    match extens.filter fun e => e.pattern.accepts s with
    | [e] => some e.steps
    | _   => none

def Plan.find (p : Plan) (context : String) (exten : Chars) : Option (List Step) :=
  (p.lookup context).bind fun extens => findExten extens exten

/-! ### Channels -/

structure Var where
  inheritance : Inheritance
  name : String
  value : Chars
deriving DecidableEq

structure CallerId where
  num : Chars
  name : Chars
  dnid : Chars
deriving DecidableEq

/-- A channel with the headers that its INVITE had, or is to have if it is dialed. -/
structure Channel where
  vars : List Var
  caller : CallerId
  received : String → Option Chars
  added : List (String × Chars)

/-- A variable is found whatever its inheritance; one that is not set is empty. -/
def Channel.get (c : Channel) (name : String) : Chars :=
  ((c.vars.find? fun v => v.name = name).map (·.value)).getD []

/-- A variable replaces one of the same name. -/
def Channel.set (c : Channel) (inheritance : Inheritance) (name : String) (value : Chars) :
    Channel :=
  { c with vars := ⟨inheritance, name, value⟩ :: c.vars.filter fun v => v.name ≠ name }

def Channel.setCaller (c : Channel) (field : CallerField) (value : Chars) : Channel :=
  match field with
  | .num  => { c with caller := { c.caller with num := value } }
  | .name => { c with caller := { c.caller with name := value } }
  | .dnid => { c with caller := { c.caller with dnid := value } }

def Channel.addHeader (c : Channel) (name : String) (value : Chars) : Channel :=
  { c with added := c.added ++ [(name, value)] }

def Var.inherited (v : Var) : Option Var :=
  match v.inheritance with
  | .none   => none
  | .once   => some { v with inheritance := .none }
  | .always => some v

/-- A channel that is about to be dialed. -/
def Channel.callee (c : Channel) : Channel where
  vars := c.vars.filterMap Var.inherited
  caller := c.caller
  received _ := none
  added := []

/-! ### Values -/

/-- What is outside of the dialplan: the first row of a realtime family with a value in a field, the
answer to a request, and whether a destination takes the call. -/
structure World where
  realtime : String → String → Chars → Option (String → Chars)
  curl : String → Chars
  answers : Chars → Bool

/-- Without the characters that have a meaning where the value is put. -/
def free (special : String) (s : Chars) : Option Chars :=
  if s.all fun c => !special.toList.contains c then some s else none

def Word.eval (c : Channel) (exten : Chars) : Word → Chars
  | .text s           => s.toList
  | .var name         => if name = "EXTEN" then exten else c.get name
  | .drop name offset => (if name = "EXTEN" then exten else c.get name).drop offset
  | .take name length => (if name = "EXTEN" then exten else c.get name).take length

/-- The value is an argument of a function. -/
def Piece.eval (w : World) (c : Channel) (exten : Chars) : Piece → Option Chars
  | .word r                                   => some (r.eval c exten)
  | .pjsipHeader name                         => some ((c.received name).getD [])
  | .realtimeField family field value column =>
    (free ",()[]\"\\" (value.eval c exten)).map fun v =>
      ((w.realtime family field v).map fun row => row column).getD []
  | .curl url                                 => some (w.curl url)

def evalTemplate (w : World) (c : Channel) (exten : Chars) : Template → Option Chars
  | []          => some []
  | piece :: ps => do some ((← piece.eval w c exten) ++ (← evalTemplate w c exten ps))

/-- The values stand in quotes. -/
def Condition.eval (w : World) (c : Channel) (exten : Chars) : Condition → Option Bool
  | .eq a b => do
    let x ← (evalTemplate w c exten a).bind (free "\"")
    let y ← (evalTemplate w c exten b).bind (free "\"")
    some (x == y)
  | .ne a b => do
    let x ← (evalTemplate w c exten a).bind (free "\"")
    let y ← (evalTemplate w c exten b).bind (free "\"")
    some (x != y)
  | .or p q => do some ((← p.eval w c exten) || (← q.eval w c exten))

/-! ### Execution -/

/-- A channel is dialed for the caller of another one. -/
structure Dialed where
  destination : Chars
  timeout : ℕ
  caller : CallerId
  callee : Channel

inductive Action where
  | dialed (d : Dialed)
  | recorded (file : Chars)
  | answered
  | waited (seconds : ℕ)
  | echoed

inductive Ending where
  | hungUp (cause : Option ℕ)
  | talked
  | returned
deriving DecidableEq

structure Result where
  actions : List Action
  ending : Ending
  channel : Channel

def Result.after (a : Action) (r : Result) : Result := { r with actions := a :: r.actions }

/-- The extension in which a channel is. -/
structure Place where
  exten : Chars
  steps : List Step

/-- The place and the steps from which it goes on. -/
def Plan.jump (p : Plan) (pl : Place) (c : Channel) : Target → Option (Place × List Step)
  | .label name          => some (pl, pl.steps.dropWhile fun s => s.label ≠ some name)
  | .exten context exten =>
    (free ",:?()[]\"\\" (exten.eval c pl.exten)).bind fun s =>
      (p.find context s).map fun steps => (⟨s, steps⟩, steps)

/-- The channel that is to be dialed, once the subroutine on it has returned. -/
def predialed (p : Plan) (run : Place → List Step → Channel → Option Result) (c : Channel) :
    Option (String × String) → Option Channel
  | none                  => some c.callee
  | some (context, exten) => do
    let steps ← p.find context exten.toList
    let r ← run ⟨exten.toList, steps⟩ steps c.callee
    if r.ending = .returned then some r.channel else none

/-- With as many steps at most. A channel whose steps are over is hung up, and one whose call was
answered stays with it to the end. -/
def exec (p : Plan) (w : World) : ℕ → Place → List Step → Channel → Option Result
  | 0, _, _, _           => none
  | _ + 1, _, [], c      => some ⟨[], .hungUp none, c⟩
  | n + 1, pl, s :: l, c =>
    match s.app with
    | .noOp                => exec p w n pl l c
    | .set i name value    => do exec p w n pl l (c.set i name (← evalTemplate w c pl.exten value))
    | .setCaller f value   => do exec p w n pl l (c.setCaller f (← evalTemplate w c pl.exten value))
    | .addHeader name value => do
      exec p w n pl l (c.addHeader name (← evalTemplate w c pl.exten value))
    | .gotoIf cond target  => do
      if ← cond.eval w c pl.exten then
        let (pl, l) ← p.jump pl c target
        exec p w n pl l c
      else exec p w n pl l c
    | .goto target         => do
      let (pl, l) ← p.jump pl c target
      exec p w n pl l c
    | .dial dest time predial => do
      let d ← (evalTemplate w c pl.exten dest).bind (free ",&()[]\"\\")
      let callee ← predialed p (exec p w n) c predial
      let a := Action.dialed ⟨d, time, c.caller, callee⟩
      if w.answers d then some ⟨[a], .talked, c⟩ else (exec p w n pl l c).map (·.after a)
    | .mixMonitor file     => do
      let f ← (evalTemplate w c pl.exten file).bind (free ",()[]\"\\")
      (exec p w n pl l c).map (·.after (.recorded f))
    | .answer              => (exec p w n pl l c).map (·.after .answered)
    | .wait seconds        => (exec p w n pl l c).map (·.after (.waited seconds))
    | .echo                => (exec p w n pl l c).map (·.after .echoed)
    | .hangup cause        => some ⟨[], .hungUp cause, c⟩
    | .ret                 => some ⟨[], .returned, c⟩

/-- From the first step of an extension. -/
def Plan.run (p : Plan) (w : World) (n : ℕ) (context : String) (exten : Chars) (c : Channel) :
    Option Result :=
  (p.find context exten).bind fun steps => exec p w n ⟨exten, steps⟩ steps c

/-! ### Variables and values -/

variable {c : Channel} {i : Inheritance} {a b special : String} {v s t : Chars}

@[simp] lemma Channel.get_set (c : Channel) (i : Inheritance) (a b : String) (v : Chars) :
    (c.set i a v).get b = if a = b then v else c.get b := by
  simp only [Channel.get, Channel.set, List.find?_cons]
  by_cases hab : a = b
  · simp [hab]
  · have hfilter : (c.vars.filter fun v => v.name ≠ a).find? (fun v => v.name = b) =
        c.vars.find? fun v => v.name = b := by
      rw [List.find?_filter]
      congr 1
      funext v
      by_cases hv : v.name = b
      · simp [hv, Ne.symm hab]
      · simp [hv]
    simp only [hab, decide_false, hfilter, if_false]

@[simp] lemma Channel.get_setCaller (c : Channel) (f : CallerField) (v : Chars) (b : String) :
    (c.setCaller f v).get b = c.get b := by
  cases f <;> rfl

@[simp] lemma Channel.get_addHeader (c : Channel) (name : String) (v : Chars) (b : String) :
    (c.addHeader name v).get b = c.get b := rfl

@[simp] lemma Channel.received_set (c : Channel) (i : Inheritance) (a : String) (v : Chars) :
    (c.set i a v).received = c.received := rfl

@[simp] lemma Channel.callee_setCaller (c : Channel) (f : CallerField) (v : Chars) (b : String) :
    (c.setCaller f v).callee.get b = c.callee.get b := by
  cases f <;> rfl

lemma Var.inherited_name {x y : Var} (h : x.inherited = some y) : y.name = x.name := by
  rw [Var.inherited] at h
  split at h <;> cases h <;> rfl

/-- What a channel that is dialed has of a variable that was set. -/
@[simp] lemma Channel.callee_set (c : Channel) (i : Inheritance) (a b : String) (v : Chars) :
    (c.set i a v).callee.get b =
      if a = b then (if i = .none then [] else v) else c.callee.get b := by
  have hrest : ∀ l : List Var, a ≠ b →
      ((l.filter fun v => v.name ≠ a).filterMap Var.inherited).find? (fun v => v.name = b) =
        (l.filterMap Var.inherited).find? fun v => v.name = b := by
    intro l hab
    induction l with
    | nil => rfl
    | cons x l ih =>
      by_cases hx : x.name = a
      · rw [List.filter_cons_of_neg (by simpa using hx), ih]
        cases hy : x.inherited with
        | none => rw [List.filterMap_cons_none hy]
        | some y =>
          have hname : y.name ≠ b := by rwa [Var.inherited_name hy, hx]
          rw [List.filterMap_cons_some hy, List.find?_cons_of_neg (by simpa using hname)]
      · rw [List.filter_cons_of_pos (by simpa using hx)]
        cases hy : x.inherited with
        | none => rw [List.filterMap_cons_none hy, List.filterMap_cons_none hy, ih]
        | some y =>
          rw [List.filterMap_cons_some hy, List.filterMap_cons_some hy, List.find?_cons,
            List.find?_cons, ih]
  have hnone : ((c.vars.filter fun v => v.name ≠ a).filterMap Var.inherited).find?
      (fun v => v.name = a) = none := by
    rw [List.find?_eq_none]
    intro y hy
    obtain ⟨x, hx, hxy⟩ := List.mem_filterMap.mp hy
    rw [Var.inherited_name hxy]
    simpa using (List.mem_filter.mp hx).2
  have hget : (c.set i a v).callee.get b = (((Var.inherited ⟨i, a, v⟩).toList ++
      (c.vars.filter fun v => v.name ≠ a).filterMap Var.inherited).find?
        (fun v => v.name = b) |>.map (·.value)).getD [] := by
    cases i <;> rfl
  rw [hget]
  by_cases hab : a = b
  · subst hab
    rw [if_pos rfl]
    cases i with
    | none => exact congrArg (fun x => (x.map Var.value).getD []) hnone
    | _ => simp [Var.inherited]
  · rw [if_neg hab]
    have htail := congrArg (fun x => (x.map Var.value).getD []) (hrest c.vars hab)
    cases i with
    | none => exact htail
    | _ =>
      rw [Var.inherited, Option.toList_some, List.singleton_append,
        List.find?_cons_of_neg (by simpa using hab)]
      exact htail

/-- A value without any of the characters that have a meaning in an argument. -/
def Plain (s : Chars) : Prop := ∀ c ∈ s, c ∉ ",&()[]\"\\".toList

lemma plain_iff : Plain s ↔ s.all (fun c => !",&()[]\"\\".toList.contains c) = true := by
  simp [Plain]

instance : DecidablePred Plain := fun _ => decidable_of_iff _ plain_iff.symm

lemma Plain.append (hs : Plain s) (ht : Plain t) : Plain (s ++ t) := by
  intro c hc
  rcases List.mem_append.mp hc with hc | hc
  · exact hs c hc
  · exact ht c hc

lemma plain_of_isDigit (h : s.all Char.isDigit = true) : Plain s := by
  have hspecial : ",&()[]\"\\".toList.any Char.isDigit = false := by decide
  intro c hc hmem
  exact Bool.false_ne_true (hspecial.symm.trans
    (List.any_eq_true.mpr ⟨c, hmem, List.all_eq_true.mp h c hc⟩))

lemma free_of_isDigit (hs : s.all Char.isDigit = true)
    (h : special.toList.any Char.isDigit = false) : Dialplan.free special s = some s := by
  refine if_pos (List.all_eq_true.mpr fun c hc => ?_)
  have hdigit := List.all_eq_true.mp hs c hc
  have hnot : c ∉ special.toList := fun hmem =>
    Bool.false_ne_true (h.symm.trans (List.any_eq_true.mpr ⟨c, hmem, hdigit⟩))
  simpa using hnot

lemma Plain.free (hs : Plain s)
    (h : special.toList.all (fun c => ",&()[]\"\\".toList.contains c) = true) :
    Dialplan.free special s = some s := by
  refine if_pos (List.all_eq_true.mpr fun c hc => ?_)
  have hspecial : c ∈ special.toList → c ∈ ",&()[]\"\\".toList := fun hmem =>
    List.contains_iff_mem.mp (List.all_eq_true.mp h c hmem)
  simpa using fun hmem => hs c hc (hspecial hmem)

/-! ### More steps -/

variable {p : Plan} {w : World} {n m : ℕ} {pl pl' : Place} {l l' : List Step} {r : Result}

/-- What follows once the channel was dialed. -/
def afterDial (p : Plan) (w : World) (n : ℕ) (pl : Place) (l : List Step) (c : Channel)
    (d : Dialed) : Option Result :=
  if w.answers d.destination then some ⟨[.dialed d], .talked, c⟩
  else (exec p w n pl l c).map (·.after (.dialed d))

lemma exec_dial {label : Option String} {dest : Template} {time : ℕ}
    {predial : Option (String × String)} :
    exec p w (n + 1) pl (⟨label, .dial dest time predial⟩ :: l) c = some r ↔
      ∃ d, (evalTemplate w c pl.exten dest).bind (free ",&()[]\"\\") = some d ∧
        ∃ callee, predialed p (exec p w n) c predial = some callee ∧
          afterDial p w n pl l c ⟨d, time, c.caller, callee⟩ = some r := by
  have hexec : exec p w (n + 1) pl (⟨label, .dial dest time predial⟩ :: l) c =
      ((evalTemplate w c pl.exten dest).bind (free ",&()[]\"\\")).bind fun d =>
        (predialed p (exec p w n) c predial).bind fun callee =>
          afterDial p w n pl l c ⟨d, time, c.caller, callee⟩ := by
    rfl
  simp only [hexec, Option.bind_eq_some_iff]

lemma predialed_of_imp
    (hexec : ∀ pl l c r, exec p w n pl l c = some r → exec p w m pl l c = some r)
    {predial : Option (String × String)} {callee : Channel}
    (h : predialed p (exec p w n) c predial = some callee) :
    predialed p (exec p w m) c predial = some callee := by
  match predial, h with
  | none, h => exact h
  | some (context, exten), h =>
    obtain ⟨steps, hsteps, hrun⟩ := Option.bind_eq_some_iff.mp h
    obtain ⟨r', hr', hrun⟩ := Option.bind_eq_some_iff.mp hrun
    exact Option.bind_eq_some_iff.mpr ⟨steps, hsteps,
      Option.bind_eq_some_iff.mpr ⟨r', hexec _ _ _ _ hr', hrun⟩⟩

/-- With a higher bound a run is the same. -/
lemma exec_succ (h : exec p w n pl l c = some r) : exec p w (n + 1) pl l c = some r := by
  induction n generalizing pl l c r with
  | zero => cases h
  | succ n ih =>
    match l, h with
    | [], h => exact h
    | ⟨label, .noOp⟩ :: l, h => exact ih (show exec p w n pl l c = some r from h)
    | ⟨label, .set i name value⟩ :: l, h | ⟨label, .setCaller f value⟩ :: l, h
    | ⟨label, .addHeader name value⟩ :: l, h =>
      rw [exec] at h ⊢
      obtain ⟨v, hv, h⟩ := Option.bind_eq_some_iff.mp h
      exact Option.bind_eq_some_iff.mpr ⟨v, hv, ih h⟩
    | ⟨label, .gotoIf cond target⟩ :: l, h =>
      rw [exec] at h ⊢
      obtain ⟨b, hb, h⟩ := Option.bind_eq_some_iff.mp h
      refine Option.bind_eq_some_iff.mpr ⟨b, hb, ?_⟩
      split_ifs at h ⊢
      · obtain ⟨x, hx, h⟩ := Option.bind_eq_some_iff.mp h
        exact Option.bind_eq_some_iff.mpr ⟨x, hx, ih h⟩
      · exact ih h
    | ⟨label, .goto target⟩ :: l, h =>
      rw [exec] at h ⊢
      obtain ⟨x, hx, h⟩ := Option.bind_eq_some_iff.mp h
      exact Option.bind_eq_some_iff.mpr ⟨x, hx, ih h⟩
    | ⟨label, .dial dest time predial⟩ :: l, h =>
      obtain ⟨d, hd, callee, hcallee, h⟩ := exec_dial.mp h
      refine exec_dial.mpr ⟨d, hd, callee, ?_, ?_⟩
      · exact predialed_of_imp (fun _ _ _ _ => ih) hcallee
      · rw [afterDial] at h ⊢
        split_ifs at h ⊢
        · exact h
        · obtain ⟨r', hr', h⟩ := Option.map_eq_some_iff.mp h
          exact Option.map_eq_some_iff.mpr ⟨r', ih hr', h⟩
    | ⟨label, .mixMonitor file⟩ :: l, h =>
      rw [exec] at h ⊢
      obtain ⟨v, hv, h⟩ := Option.bind_eq_some_iff.mp h
      obtain ⟨r', hr', h⟩ := Option.map_eq_some_iff.mp h
      exact Option.bind_eq_some_iff.mpr ⟨v, hv, Option.map_eq_some_iff.mpr ⟨r', ih hr', h⟩⟩
    | ⟨label, .answer⟩ :: l, h | ⟨label, .wait seconds⟩ :: l, h | ⟨label, .echo⟩ :: l, h =>
      rw [exec] at h ⊢
      obtain ⟨r', hr', h⟩ := Option.map_eq_some_iff.mp h
      exact Option.map_eq_some_iff.mpr ⟨r', ih hr', h⟩
    | ⟨label, .hangup cause⟩ :: l, h => exact h
    | ⟨label, .ret⟩ :: l, h => exact h

lemma exec_mono (hle : n ≤ m) (h : exec p w n pl l c = some r) : exec p w m pl l c = some r := by
  induction hle with
  | refl => exact h
  | step _ ih => exact exec_succ ih

/-- With every bound that is high enough a run gives the same. -/
lemma eventually_run {context : String} {exten : Chars} {steps : List Step}
    (hfind : p.find context exten = some steps) (h : exec p w n ⟨exten, steps⟩ steps c = some r) :
    ∃ n, ∀ m, n ≤ m → p.run w m context exten c = some r :=
  ⟨n, fun _ hm => Option.bind_eq_some_iff.mpr ⟨steps, hfind, exec_mono hm h⟩⟩

/-! ### Rules -/

/-- A run, with some bound on its steps. -/
def Runs (p : Plan) (w : World) (pl : Place) (l : List Step) (c : Channel) (r : Result) : Prop :=
  ∃ n, exec p w n pl l c = some r

lemma Runs.noOp {label : Option String} (h : Runs p w pl l c r) :
    Runs p w pl (⟨label, .noOp⟩ :: l) c r := by
  obtain ⟨n, h⟩ := h
  exact ⟨n + 1, h⟩

lemma Runs.set {label : Option String} {i : Inheritance} {name : String} {t : Template} {v : Chars}
    (hv : evalTemplate w c pl.exten t = some v) (h : Runs p w pl l (c.set i name v) r) :
    Runs p w pl (⟨label, .set i name t⟩ :: l) c r := by
  obtain ⟨n, h⟩ := h
  exact ⟨n + 1, Option.bind_eq_some_iff.mpr ⟨v, hv, h⟩⟩

lemma Runs.setCaller {label : Option String} {f : CallerField} {t : Template} {v : Chars}
    (hv : evalTemplate w c pl.exten t = some v) (h : Runs p w pl l (c.setCaller f v) r) :
    Runs p w pl (⟨label, .setCaller f t⟩ :: l) c r := by
  obtain ⟨n, h⟩ := h
  exact ⟨n + 1, Option.bind_eq_some_iff.mpr ⟨v, hv, h⟩⟩

lemma Runs.addHeader {label : Option String} {name : String} {t : Template} {v : Chars}
    (hv : evalTemplate w c pl.exten t = some v) (h : Runs p w pl l (c.addHeader name v) r) :
    Runs p w pl (⟨label, .addHeader name t⟩ :: l) c r := by
  obtain ⟨n, h⟩ := h
  exact ⟨n + 1, Option.bind_eq_some_iff.mpr ⟨v, hv, h⟩⟩

lemma Runs.gotoIf_true {label : Option String} {cond : Condition} {target : Target}
    (hb : cond.eval w c pl.exten = some true) (hj : p.jump pl c target = some (pl', l'))
    (h : Runs p w pl' l' c r) : Runs p w pl (⟨label, .gotoIf cond target⟩ :: l) c r := by
  obtain ⟨n, h⟩ := h
  refine ⟨n + 1, Option.bind_eq_some_iff.mpr ⟨true, hb, ?_⟩⟩
  rw [if_pos rfl]
  exact Option.bind_eq_some_iff.mpr ⟨(pl', l'), hj, h⟩

lemma Runs.gotoIf_false {label : Option String} {cond : Condition} {target : Target}
    (hb : cond.eval w c pl.exten = some false) (h : Runs p w pl l c r) :
    Runs p w pl (⟨label, .gotoIf cond target⟩ :: l) c r := by
  obtain ⟨n, h⟩ := h
  exact ⟨n + 1, Option.bind_eq_some_iff.mpr ⟨false, hb, h⟩⟩

lemma Runs.goto {label : Option String} {target : Target}
    (hj : p.jump pl c target = some (pl', l')) (h : Runs p w pl' l' c r) :
    Runs p w pl (⟨label, .goto target⟩ :: l) c r := by
  obtain ⟨n, h⟩ := h
  exact ⟨n + 1, Option.bind_eq_some_iff.mpr ⟨(pl', l'), hj, h⟩⟩

lemma Runs.mixMonitor {label : Option String} {t : Template} {v : Chars}
    (hv : (evalTemplate w c pl.exten t).bind (free ",()[]\"\\") = some v) (h : Runs p w pl l c r) :
    Runs p w pl (⟨label, .mixMonitor t⟩ :: l) c (r.after (.recorded v)) := by
  obtain ⟨n, h⟩ := h
  exact ⟨n + 1, Option.bind_eq_some_iff.mpr ⟨v, hv, Option.map_eq_some_iff.mpr ⟨r, h, rfl⟩⟩⟩

lemma Runs.hangup {label : Option String} {cause : Option ℕ} :
    Runs p w pl (⟨label, .hangup cause⟩ :: l) c ⟨[], .hungUp cause, c⟩ := ⟨1, rfl⟩

lemma Runs.ret {label : Option String} :
    Runs p w pl (⟨label, .ret⟩ :: l) c ⟨[], .returned, c⟩ := ⟨1, rfl⟩

/-- The subroutine in front of a dial has made the channel of the one that is to be dialed. -/
inductive Predialed (p : Plan) (w : World) (c : Channel) : Option (String × String) → Channel → Prop
  | none : Predialed p w c none c.callee
  | sub {context exten : String} {steps : List Step} {actions : List Action} {callee : Channel}
      (hfind : p.find context exten.toList = some steps)
      (hrun : Runs p w ⟨exten.toList, steps⟩ steps c.callee ⟨actions, .returned, callee⟩) :
      Predialed p w c (some (context, exten)) callee

/-- A dial that is answered ends the run; after another one it goes on. -/
lemma Runs.dial {label : Option String} {t : Template} {time : ℕ}
    {predial : Option (String × String)} {d : Chars} {callee : Channel}
    (hd : (evalTemplate w c pl.exten t).bind (free ",&()[]\"\\") = some d)
    (hcallee : Predialed p w c predial callee) (h : Runs p w pl l c r) :
    Runs p w pl (⟨label, .dial t time predial⟩ :: l) c
      (if w.answers d then ⟨[.dialed ⟨d, time, c.caller, callee⟩], .talked, c⟩
        else r.after (.dialed ⟨d, time, c.caller, callee⟩)) := by
  obtain ⟨n, h⟩ := h
  obtain ⟨m, hm⟩ : ∃ m, predialed p (exec p w m) c predial = some callee := by
    cases hcallee with
    | none => exact ⟨0, rfl⟩
    | sub hfind hrun =>
      obtain ⟨m, hm⟩ := hrun
      exact ⟨m, Option.bind_eq_some_iff.mpr ⟨_, hfind,
        Option.bind_eq_some_iff.mpr ⟨_, hm, if_pos rfl⟩⟩⟩
  refine ⟨max n m + 1, exec_dial.mpr ⟨d, hd, callee,
    predialed_of_imp (fun _ _ _ _ => exec_mono (Nat.le_max_right n m)) hm, ?_⟩⟩
  rw [afterDial]
  split_ifs
  · rfl
  · exact Option.map_eq_some_iff.mpr ⟨r, exec_mono (Nat.le_max_left n m) h, rfl⟩

/-- A dial that is the last thing an extension tries. -/
lemma Runs.dial_hangup (pl : Place) (steps : List Step) {label label' : Option String}
    {t : Template} {time : ℕ} {predial : Option (String × String)} {cause : Option ℕ} {d : Chars}
    {callee : Channel}
    (hsteps : steps = ⟨label, .dial t time predial⟩ :: ⟨label', .hangup cause⟩ :: l)
    (hd : (evalTemplate w c pl.exten t).bind (free ",&()[]\"\\") = some d)
    (hcallee : Predialed p w c predial callee) :
    ∃ r, Runs p w pl steps c r ∧
      r.actions = [.dialed ⟨d, time, c.caller, callee⟩] ∧
      r.ending = if w.answers d then .talked else .hungUp cause := by
  subst hsteps
  refine ⟨_, Runs.dial hd hcallee Runs.hangup, ?_, ?_⟩
  · split_ifs <;> rfl
  · split_ifs <;> rfl

end Core.Dialplan
