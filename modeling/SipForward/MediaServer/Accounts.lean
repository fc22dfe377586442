import SipForward.MediaServer.Providers
import Mathlib.Data.List.Infix

/-!
# The accounts that are shown

`getRegisteredAccounts` reads the endpoints with their webhooks and registrations, on a server with
any collation. What it should report is kept beside the tables: the providers that were added, with
their user names, and the numbers that were added to them.
-/

namespace MediaServer.Db

open Core Sql

/-! ### Expressions -/

/-- The text of a column, NULL excepted. -/
def columnText : Value → Option String
  | .null  => none
  | .str s => some s
  | .num n => some (toString n)

/-- `CONCAT`: NULL when one of its arguments is. -/
def concat (values : List Value) : Option String := (values.mapM columnText).map String.join

/-- A text matches a pattern, character by character. -/
def like (κ : Collation) : List Char → List Char → Bool
  | [], text                  => text.isEmpty
  | '%' :: pattern, text      => text.tails.any (like κ pattern)
  | '_' :: pattern, text      =>
    match text with
    | []        => false
    | _ :: text => like κ pattern text
  | '\\' :: c :: pattern, text =>
    match text with
    | []        => false
    | d :: text => κ.char d = κ.char c && like κ pattern text
  | c :: pattern, text        =>
    match text with
    | []        => false
    | d :: text => κ.char d = κ.char c && like κ pattern text

/-- `LIKE`: NULL when one of its arguments is. -/
def valueLike (κ : Collation) (v : Value) (pattern : Option String) : Option Bool :=
  match columnText v, pattern with
  | some text, some pattern => some (like κ pattern.toList text.toList)
  | _, _                    => none

/-- Equality: NULL when one of its arguments is. -/
def equal (κ : Collation) (v w : Value) : Option Bool :=
  if v = .null ∨ w = .null then none else some (κ.weight v = κ.weight w)

/-- The rows that are joined to one on the left: those that match, or one of NULLs. -/
def leftJoin (rows : List Row) (on : Row → Option Bool) : List Row :=
  match rows.filter fun r => on r = some true with
  | []   => [fun _ => .null]
  | rows => rows

/-! ### The query -/

structure SipAccountInfo where
  trunkName : String
  username : String
  domain : String
  answerWebhookUrl : String
  status : String
deriving DecidableEq

/-- The `CASE` of the query. -/
def status (κ : Collation) (e r : Row) : String :=
  if r "id" ≠ .null ∧ valueLike κ (r "client_uri")
      (concat [.str "sip:", e "from_user", .str "@", e "from_domain", .str "%"]) = some true then
    "registered"
  else "configured"

/-- NULL is shown as an empty string. -/
def shown (v : Value) : String := (columnText v).getD ""

/-- A row of the result. The status is never NULL. -/
def account (κ : Collation) (e w r : Row) : SipAccountInfo where
  trunkName := shown (e "id")
  username := shown (e "from_user")
  domain := shown (e "from_domain")
  answerWebhookUrl := shown (w "answer_webhook_url")
  status := status κ e r

variable {κ : Collation}

/-- The rows of the result that belong to one endpoint. -/
def accountsOf (db : Tables (collated κ)) (e : Row) : List SipAccountInfo :=
  if (valueLike κ (e "id") (some "pjsip%")).map not = some true then
    (leftJoin (db.rows .trunkWebhooks) fun w => equal κ (e "id") (w "trunk_id")).flatMap fun w =>
      (leftJoin (db.rows .psRegistrations) fun r => equal κ (r "endpoint") (e "id")).map fun r =>
        account κ e w r
  else []

def registeredAccounts (db : Tables (collated κ)) : List SipAccountInfo :=
  (db.rows .psEndpoints).flatMap (accountsOf db)

def getRegisteredAccounts (s : Session (collated κ)) (f : Fault) : List SipAccountInfo :=
  (executeSelectQuery s registeredAccounts f).1.getD []

/-! ### What should be reported -/

structure Provider where
  name : String
  username : String
  domain : String
  withRegistration : Bool

/-- The providers that are present, and the numbers that are, each with its provider. -/
structure Ledger where
  providers : List Provider
  dids : List (String × String)

variable (κ) in
/-- A removal is of all names that are the same under the collation. -/
def Ledger.record (l : Ledger) : Call → Ledger
  | .addProvider name username _ domain _ withRegistration =>
    { l with providers := l.providers ++ [⟨name, username, domain, withRegistration⟩] }
  | .addDid trunkName _ providerId _ => { l with dids := l.dids ++ [(trunkName, providerId)] }
  | .removeProvider trunkName        =>
    { providers := l.providers.filter fun p => κ.text p.name ≠ κ.text trunkName
      dids := l.dids.filter fun d => κ.text d.2 ≠ κ.text trunkName }
  | .removeDid didId                 =>
    { l with dids := l.dids.filter fun d => κ.text d.1 ≠ κ.text didId }

variable (κ) in
/-- Every provider has one row, and every row is that of a provider. -/
structure Reported (accounts : List SipAccountInfo) (l : Ledger) : Prop where
  once : ∀ p ∈ l.providers, (accounts.map (·.trunkName)).count p.name = 1
  only : ∀ a ∈ accounts, ∃ p ∈ l.providers, a.trunkName = p.name ∧ a.username = p.username ∧
    a.domain = p.domain ∧ a.status = (if p.withRegistration then "registered" else "configured") ∧
      (a.answerWebhookUrl ≠ "" → ∃ d ∈ l.dids, κ.text d.2 = κ.text p.name)

/-- A name of an endpoint that the service does not make. -/
def Static (name : String) : Prop := "pjsip".toList <+: name.toList

instance (name : String) : Decidable (Static name) :=
  inferInstanceAs (Decidable ("pjsip".toList <+: name.toList))

variable (κ) in
/-- A name that the query leaves out: under the collation it begins with `pjsip`. -/
def Hidden (name : String) : Prop := "pjsip".toList.map κ.char <+: name.toList.map κ.char

instance (name : String) : Decidable (Hidden κ name) :=
  inferInstanceAs (Decidable ("pjsip".toList.map κ.char <+: name.toList.map κ.char))

variable (κ) in
/-- The service with what it should report. -/
structure History where
  session : Session (collated κ)
  ledger : Ledger

def Call.Admissible : Call → Prop
  | .addProvider name .. => ¬Static name
  | _                    => True

instance : DecidablePred Call.Admissible
  | .addProvider name .. => inferInstanceAs (Decidable (¬Static name))
  | .addDid ..           => isTrue trivial
  | .removeProvider _    => isTrue trivial
  | .removeDid _         => isTrue trivial

/-- A call that succeeds. -/
def History.step (h : History κ) (call : Call × (ℕ → Fault)) : Option (History κ) :=
  if call.1.Admissible then
    (Db.step h.session call).map fun s => ⟨s, h.ledger.record κ call.1⟩
  else none

/-- A column that names an endpoint that is there, or none. -/
def Belongs (db : Tables (collated κ)) (v : Value) : Prop := v = .null ∨ db.HasKey .psEndpoints v

/-- Tables without rows that the service has made: their endpoints are not shown, and the rows that
would be joined belong to these. -/
structure Unserved (db : Tables (collated κ)) : Prop where
  endpoints : ∀ e ∈ db.rows .psEndpoints, ∃ name, e "id" = .str name ∧ Hidden κ name
  webhooks : ∀ w ∈ db.rows .trunkWebhooks, Belongs db (w "trunk_id")
  registrations : ∀ r ∈ db.rows .psRegistrations, Belongs db (r "endpoint")

/-- A call after which a provider is reported as it was added: it is not left out, and has no user
name and no registration, and no provider keeps the address of a webhook without a number. -/
def Harmless (h : History κ) (call : Call × (ℕ → Fault)) : Prop :=
  match call.1 with
  | .addProvider name username _ _ _ withRegistration =>
    ¬Hidden κ name ∧ username = "" ∧ withRegistration = false
  | .removeDid didId => ∀ p ∈ h.ledger.providers,
      (∃ d ∈ h.ledger.dids, κ.text d.1 ≠ κ.text didId ∧ κ.text d.2 = κ.text p.name) ∨
        ∀ w ∈ h.session.tables.rows .trunkWebhooks,
          κ.weight (w "trunk_id") = κ.weight (.str p.name) → shown (w "answer_webhook_url") = ""
  | _ => True

variable {h h' : History κ} {db db' : Tables (collated κ)} {l : Ledger} {e w r : Row}
  {name q : String} {query : Query} {t t' : Table} {call : Call × (ℕ → Fault)}

/-! ### Joins -/

lemma weight_str_iff {a b : String} :
    κ.weight (.str a) = κ.weight (.str b) ↔ κ.text a = κ.text b := by
  simp [Collation.weight]

lemma not_belongs {v : Value} (hnew : ¬db.HasKey .psEndpoints (.str q)) (hv : Belongs db v) :
    κ.weight v ≠ κ.weight (.str q) := by
  intro hsame
  rcases hv with rfl | ⟨e, he, hid⟩
  · simp [Collation.weight] at hsame
  · exact hnew ⟨e, he, hid.trans hsame⟩

lemma like_cons {c : Char} (hc : c ≠ '%' ∧ c ≠ '_' ∧ c ≠ '\\') (pattern text : List Char) :
    like κ (c :: pattern) text = true ↔
      ∃ d rest, text = d :: rest ∧ κ.char d = κ.char c ∧ like κ pattern rest = true := by
  obtain ⟨h1, h2, h3⟩ := hc
  cases text with
  | nil =>
    have hnil : like κ (c :: pattern) [] = false := by
      rw [like]
      · exact h1
      · exact h2
      · intro d rest hescape
        exact absurd hescape h3
    simp [hnil]
  | cons d text =>
    have hcons : like κ (c :: pattern) (d :: text) =
        (decide (κ.char d = κ.char c) && like κ pattern text) := by
      rw [like]
      · exact h1
      · exact h2
      · intro d rest hescape
        exact absurd hescape h3
    simp [hcons]

/-- A pattern that ends in `%` is a pattern for the beginning. -/
lemma like_append (pattern : List Char) (hplain : ∀ c ∈ pattern, c ≠ '%' ∧ c ≠ '_' ∧ c ≠ '\\')
    (text : List Char) :
    like κ (pattern ++ ['%']) text = true ↔ pattern.map κ.char <+: text.map κ.char := by
  induction pattern generalizing text with
  | nil =>
    have hall : like κ ['%'] text = true := by
      simp [like, List.any_eq_true]
    simp [hall]
  | cons c pattern ih =>
    have ih := ih fun d hd => hplain d (List.mem_cons_of_mem c hd)
    rw [List.cons_append, like_cons (hplain c List.mem_cons_self), List.map_cons]
    constructor
    · rintro ⟨d, rest, rfl, hd, hrest⟩
      rw [List.map_cons, hd]
      exact List.cons_prefix_cons.mpr ⟨rfl, (ih rest).mp hrest⟩
    · intro hprefix
      cases text with
      | nil => simp at hprefix
      | cons d text =>
        obtain ⟨hd, hrest⟩ := List.cons_prefix_cons.mp hprefix
        exact ⟨d, text, rfl, hd.symm, (ih text).mpr hrest⟩

/-- The endpoints that the query leaves out. -/
lemma shown_iff (name : String) :
    (valueLike κ (.str name) (some "pjsip%")).map not = some true ↔ ¬Hidden κ name := by
  have hplain : ∀ c ∈ "pjsip".toList, c ≠ '%' ∧ c ≠ '_' ∧ c ≠ '\\' := by simp
  have hlike : like κ ("pjsip".toList ++ ['%']) name.toList = true ↔ _ :=
    like_append "pjsip".toList hplain name.toList
  have hpattern : "pjsip%".toList = "pjsip".toList ++ ['%'] := rfl
  simp only [valueLike, columnText, hpattern, Option.map_some, Option.some.injEq, Bool.not_eq_true',
    Hidden, ← hlike, Bool.not_eq_true]

/-- A row that matches is the only one. -/
lemma leftJoin_of_mem {rows : List Row} {on : Row → Option Bool} (hrows : rows.Nodup)
    (honce : ∀ r ∈ rows, ∀ r' ∈ rows, on r = some true → on r' = some true → r = r')
    (hr : r ∈ rows) (hmatch : on r = some true) : leftJoin rows on = [r] := by
  have hfilter : rows.filter (fun r => on r = some true) = [r] := by
    refine List.perm_singleton.mp ((List.perm_ext_iff_of_nodup (hrows.filter _)
      (List.nodup_singleton r)).mpr fun r' => ?_)
    rw [List.mem_filter, List.mem_singleton, decide_eq_true_eq]
    constructor
    · rintro ⟨hr', hmatch'⟩
      exact honce r' hr' r hr hmatch' hmatch
    · rintro rfl
      exact ⟨hr, hmatch⟩
  unfold leftJoin
  rw [hfilter]

/-- At most one row matches, so one row is joined. -/
lemma leftJoin_eq_singleton {rows : List Row} {on : Row → Option Bool} (hrows : rows.Nodup)
    (honce : ∀ r ∈ rows, ∀ r' ∈ rows, on r = some true → on r' = some true → r = r') :
    ∃ r, leftJoin rows on = [r] ∧ (r = (fun _ => .null) ∨ r ∈ rows ∧ on r = some true) := by
  by_cases hsome : ∃ r ∈ rows, on r = some true
  · obtain ⟨r, hr, hmatch⟩ := hsome
    exact ⟨r, leftJoin_of_mem hrows honce hr hmatch, Or.inr ⟨hr, hmatch⟩⟩
  · have hnone : rows.filter (fun r => on r = some true) = [] := by
      rw [List.filter_eq_nil_iff]
      intro r hr hmatch
      exact hsome ⟨r, hr, by simpa using hmatch⟩
    refine ⟨_, ?_, Or.inl rfl⟩
    unfold leftJoin
    rw [hnone]

lemma equal_str {v : Value} :
    equal κ (.str name) v = some true ↔ κ.weight v = κ.weight (.str name) := by
  cases v with
  | null | num n => simp [equal, Collation.weight]
  | str s => simp [equal, Collation.weight, eq_comm]

lemma equal_comm (v w : Value) : equal κ v w = equal κ w v := by
  unfold equal
  simp only [or_comm, eq_comm]

lemma nodup_rows (db : Tables (collated κ)) (t : Table) : (db.rows t).Nodup :=
  (db.unique t).of_map

/-! ### What is shown -/

variable (κ) in
/-- An endpoint that is not shown, or one that was added. -/
def Ledger.Knows (l : Ledger) (e : Row) : Prop :=
  (∃ name, e "id" = .str name ∧ Hidden κ name) ∨
    ∃ p ∈ l.providers, e "id" = .str p.name ∧ e "from_user" = .null ∧
      e "from_domain" = .str p.domain

variable (κ) in
/-- An endpoint has at most one registration. -/
def Single (rows : List Row) (name : String) : Prop :=
  ∀ r ∈ rows, ∀ v ∈ rows, κ.weight (r "endpoint") = κ.weight (.str name) →
    κ.weight (v "endpoint") = κ.weight (.str name) → r = v

/-- What holds after every call. -/
structure Sound (db : Tables (collated κ)) (l : Ledger) : Prop where
  endpoints : ∀ e ∈ db.rows .psEndpoints, l.Knows κ e
  webhooks : ∀ w ∈ db.rows .trunkWebhooks, Belongs db (w "trunk_id")
  registrations : ∀ r ∈ db.rows .psRegistrations, Belongs db (r "endpoint")
  single : ∀ p ∈ l.providers, Single κ (db.rows .psRegistrations) p.name
  present : ∀ p ∈ l.providers, ∃ e ∈ db.rows .psEndpoints, e "id" = .str p.name
  names : (l.providers.map fun p => κ.text p.name).Nodup

/-- The providers as they are shown: not left out, without a user name and not registered, and a
webhook means a number. -/
def Kept (db : Tables (collated κ)) (l : Ledger) : Prop :=
  ∀ p ∈ l.providers, (¬Hidden κ p.name ∧ p.username = "" ∧ p.withRegistration = false) ∧
    ∀ w ∈ db.rows .trunkWebhooks, κ.weight (w "trunk_id") = κ.weight (.str p.name) →
      shown (w "answer_webhook_url") ≠ "" → ∃ d ∈ l.dids, κ.text d.2 = κ.text p.name

lemma accountsOf_hidden (db : Tables (collated κ)) (hid : e "id" = .str name)
    (hname : Hidden κ name) : accountsOf db e = [] := by
  unfold accountsOf
  rw [hid, if_neg (mt (shown_iff name).mp (not_not.mpr hname))]

/-- An endpoint that was added has one row. -/
lemma accountsOf_eq (hid : e "id" = .str name) (hname : ¬Hidden κ name)
    (hsingle : Single κ (db.rows .psRegistrations) name) :
    ∃ w r, accountsOf db e = [account κ e w r] ∧
      (w = (fun _ => .null) ∨
        w ∈ db.rows .trunkWebhooks ∧ κ.weight (w "trunk_id") = κ.weight (.str name)) ∧
      ∀ v ∈ db.rows .trunkWebhooks, κ.weight (v "trunk_id") = κ.weight (.str name) → w = v := by
  have honw : ∀ w : Row, equal κ (e "id") (w "trunk_id") = some true ↔
      κ.weight (w "trunk_id") = κ.weight (.str name) := by
    intro w
    rw [hid, equal_str]
  have honcew : ∀ w ∈ db.rows .trunkWebhooks, ∀ v ∈ db.rows .trunkWebhooks,
      equal κ (e "id") (w "trunk_id") = some true →
        equal κ (e "id") (v "trunk_id") = some true → w = v := by
    intro w hw w' hw' hmatch hmatch'
    exact List.inj_on_of_nodup_map (db.unique .trunkWebhooks) hw hw'
      (((honw w).mp hmatch).trans ((honw w').mp hmatch').symm)
  have honcer : ∀ r ∈ db.rows .psRegistrations, ∀ v ∈ db.rows .psRegistrations,
      equal κ (r "endpoint") (e "id") = some true →
        equal κ (v "endpoint") (e "id") = some true → r = v := by
    intro r hr r' hr' hmatch hmatch'
    rw [equal_comm, hid, equal_str] at hmatch hmatch'
    exact hsingle r hr r' hr' hmatch hmatch'
  obtain ⟨w, hw, hw'⟩ := leftJoin_eq_singleton (nodup_rows db .trunkWebhooks) honcew
  obtain ⟨r, hr, -⟩ := leftJoin_eq_singleton (nodup_rows db .psRegistrations) honcer
  refine ⟨w, r, ?_, ?_, ?_⟩
  · unfold accountsOf
    rw [if_pos (by rw [hid]; exact (shown_iff name).mpr hname), hw, List.flatMap_singleton, hr]
    rfl
  · exact hw'.imp_right fun hmatch => ⟨hmatch.1, (honw w).mp hmatch.2⟩
  · intro v hv htrunk
    have honly := leftJoin_of_mem (nodup_rows db .trunkWebhooks) honcew hv ((honw v).mpr htrunk)
    rw [hw] at honly
    exact (List.cons.inj honly).1

variable (κ) in
/-- The name under which an endpoint is shown. -/
def shownName : Value → Option String
  | .str name => if Hidden κ name then none else some name
  | _         => none

lemma shownName_eq_some {v : Value} (h : shownName κ v = some name) :
    v = .str name ∧ ¬Hidden κ name := by
  cases v with
  | null => cases h
  | num n => cases h
  | str s =>
    simp only [shownName] at h
    split_ifs at h with hname
    cases h
    exact ⟨rfl, hname⟩

namespace Sound

variable (hs : Sound db l)

include hs

lemma map_trunkName : (registeredAccounts db).map (·.trunkName) =
    (db.rows .psEndpoints).filterMap fun e => shownName κ (e "id") := by
  unfold registeredAccounts
  rw [List.map_flatMap, List.filterMap_eq_flatMap_toList]
  refine List.flatMap_congr fun e he => ?_
  have hname : ∃ name, e "id" = .str name ∧
      (Hidden κ name ∨ Single κ (db.rows .psRegistrations) name) := by
    rcases hs.endpoints e he with ⟨name, hid, hhidden⟩ | ⟨p, hp, hid, -, -⟩
    · exact ⟨name, hid, Or.inl hhidden⟩
    · exact ⟨p.name, hid, Or.inr (hs.single p hp)⟩
  obtain ⟨name, hid, hname⟩ := hname
  by_cases hhidden : Hidden κ name
  · rw [accountsOf_hidden _ hid hhidden, hid]
    simp [shownName, hhidden]
  · obtain ⟨w, r, heq, -, -⟩ := accountsOf_eq hid hhidden (hname.resolve_left hhidden)
    rw [heq]
    simp [account, shown, columnText, hid, shownName, hhidden]

lemma nodup_trunkName : ((registeredAccounts db).map (·.trunkName)).Nodup := by
  rw [hs.map_trunkName]
  have hweights : (((db.rows .psEndpoints).map fun e => e "id").map κ.weight).Nodup := by
    rw [List.map_map]
    exact db.unique .psEndpoints
  rw [show (db.rows .psEndpoints).filterMap (fun e => shownName κ (e "id")) =
    ((db.rows .psEndpoints).map fun e => e "id").filterMap (shownName κ) by
      rw [List.filterMap_map]; rfl]
  refine List.Nodup.filterMap (fun v v' name hv hv' => ?_) hweights.of_map
  rw [(shownName_eq_some hv).1, (shownName_eq_some hv').1]

/-- A provider that is reported is not left out. -/
lemma not_hidden (hreported : Reported κ (registeredAccounts db) l) {p : Provider}
    (hp : p ∈ l.providers) : ¬Hidden κ p.name := by
  have hmem : p.name ∈ (registeredAccounts db).map (·.trunkName) := by
    rw [← List.count_pos_iff, hreported.once p hp]
    exact Nat.one_pos
  rw [hs.map_trunkName, List.mem_filterMap] at hmem
  obtain ⟨e, -, hshown⟩ := hmem
  exact (shownName_eq_some hshown).2

/-- An endpoint that was added is shown without a user name, and as not registered. -/
lemma account_eq {p : Provider} (hp : p ∈ l.providers) (hname : ¬Hidden κ p.name) :
    ∃ e w r, e ∈ db.rows .psEndpoints ∧ e "id" = .str p.name ∧
      accountsOf db e = [account κ e w r] ∧
      (account κ e w r).trunkName = p.name ∧ (account κ e w r).username = "" ∧
      (account κ e w r).domain = p.domain ∧ (account κ e w r).status = "configured" ∧
      (w = (fun _ => .null) ∨
        w ∈ db.rows .trunkWebhooks ∧ κ.weight (w "trunk_id") = κ.weight (.str p.name)) ∧
      ∀ v ∈ db.rows .trunkWebhooks,
        κ.weight (v "trunk_id") = κ.weight (.str p.name) → w = v := by
  obtain ⟨e, he, hid⟩ := hs.present p hp
  obtain ⟨w, r, heq, hw, honly⟩ := accountsOf_eq hid hname (hs.single p hp)
  obtain ⟨huser, hdomain⟩ : e "from_user" = .null ∧ e "from_domain" = .str p.domain := by
    rcases hs.endpoints e he with ⟨name, hid', hhidden⟩ | ⟨p', hp', hid', huser, hdomain⟩
    · rw [hid] at hid'
      obtain rfl : p.name = name := Value.str.inj hid'
      exact absurd hhidden hname
    · rw [hid] at hid'
      obtain rfl : p = p' := List.inj_on_of_nodup_map hs.names hp hp'
        (congrArg κ.text (Value.str.inj hid'))
      exact ⟨huser, hdomain⟩
  -- the pattern is NULL when the user name is
  have hconcat :
      concat [.str "sip:", e "from_user", .str "@", e "from_domain", .str "%"] = none := by
    simp [concat, columnText, huser]
  have hlike : valueLike κ (r "client_uri") none = none := by
    unfold valueLike
    split
    · next hnone => cases hnone
    · rfl
  refine ⟨e, w, r, he, hid, heq, ?_, ?_, ?_, ?_, hw, honly⟩
  · simp [account, shown, columnText, hid]
  · simp [account, shown, columnText, huser]
  · simp [account, shown, columnText, hdomain]
  · simp [account, status, hconcat, hlike]

/-- The accounts are reported as they were added if and only if every provider that is present is
shown, and has no user name, no registration, and no webhook without a number. -/
lemma reported_iff : Reported κ (registeredAccounts db) l ↔ Kept db l := by
  constructor
  · intro hreported p hp
    have hshown := hs.not_hidden hreported hp
    obtain ⟨e, w, r, he, hid, heq, hname, huser, -, hstatus, -, honly⟩ := hs.account_eq hp hshown
    have hmem : account κ e w r ∈ registeredAccounts db :=
      List.mem_flatMap.mpr ⟨e, he, by rw [heq]; exact List.mem_singleton_self _⟩
    obtain ⟨p', hp', hname', huser', -, hstatus', hurl⟩ := hreported.only _ hmem
    obtain rfl : p = p' := List.inj_on_of_nodup_map hs.names hp hp'
      (congrArg κ.text (hname.symm.trans hname'))
    refine ⟨⟨hshown, huser'.symm.trans huser, ?_⟩, ?_⟩
    · by_contra hreg
      rw [Bool.not_eq_false] at hreg
      rw [hstatus, hreg, if_pos rfl] at hstatus'
      exact absurd hstatus' (by decide)
    · intro w' hw' htrunk hne
      obtain rfl := honly w' hw' htrunk
      exact hurl hne
  · intro hkept
    refine ⟨fun p hp => ?_, fun a ha => ?_⟩
    · refine List.count_eq_one_of_mem hs.nodup_trunkName ?_
      obtain ⟨e, w, r, he, -, heq, hname, -⟩ := hs.account_eq hp (hkept p hp).1.1
      refine List.mem_map.mpr ⟨account κ e w r, ?_, hname⟩
      exact List.mem_flatMap.mpr ⟨e, he, by rw [heq]; exact List.mem_singleton_self _⟩
    · obtain ⟨e, he, ha⟩ := List.mem_flatMap.mp ha
      rcases hs.endpoints e he with ⟨name, hid, hhidden⟩ | ⟨p, hp, hid, -, -⟩
      · rw [accountsOf_hidden _ hid hhidden] at ha
        cases ha
      obtain ⟨⟨hshown, huser', hreg⟩, hdids⟩ := hkept p hp
      obtain ⟨e', w, r, he', hid', heq, hname, huser, hdomain, hstatus, hw, -⟩ :=
        hs.account_eq hp hshown
      obtain rfl : e = e' := List.inj_on_of_nodup_map (db.unique .psEndpoints) he he'
        (congrArg κ.weight (hid.trans hid'.symm))
      rw [heq] at ha
      obtain rfl := List.mem_singleton.mp ha
      refine ⟨p, hp, hname, huser.trans huser'.symm, hdomain, ?_, fun hurl => ?_⟩
      · rw [hstatus, hreg]
        rfl
      · rcases hw with rfl | ⟨hw, htrunk⟩
        · exact absurd rfl hurl
        · exact hdids w hw htrunk hurl

end Sound

/-! ### Queries -/

lemma rows_insert {values : List (String × Value)}
    (h : (Statement.insert t values : Query).exec db = some db') (t' : Table) :
    db'.rows t' = db.rows t' ++ if t' = t then [Row.of values] else [] := by
  obtain ⟨hnew, -, -, rfl⟩ := Database.insert_spec h
  by_cases ht : t' = t
  · subst ht
    rw [Database.rows_add_self, if_pos rfl]
  · rw [Database.rows_add_of_ne ht, if_neg ht, List.append_nil]

/-- The rows that an upsert leaves: they have its key and its value, or were there. -/
lemma mem_upsert {values : List (String × Value)} {c : String}
    (h : (Statement.upsert t values c : Query).exec db = some db') (hr : r ∈ db'.rows t') :
    t' = t ∧ κ.weight (r ((collated κ).primaryKey t)) =
        κ.weight (Row.of values ((collated κ).primaryKey t)) ∨
      r ∈ db.rows t' := by
  rcases Database.upsert_spec h with ⟨-, hc, rfl⟩ | hinsert
  · by_cases ht : t' = t
    · subst ht
      rw [Database.rows_overwrite_self] at hr
      obtain ⟨r₀, hr₀, rfl⟩ := List.mem_map.mp hr
      by_cases hkey : κ.weight (r₀ ((collated κ).primaryKey t')) =
          κ.weight (Row.of values ((collated κ).primaryKey t'))
      · refine Or.inl ⟨rfl, ?_⟩
        rw [overwritten_key hc]
        exact hkey
      · refine Or.inr ?_
        rw [show overwritten (collated κ) t' _ c _ r₀ = r₀ from if_neg hkey]
        exact hr₀
    · rw [Database.rows_overwrite_of_ne ht] at hr
      exact Or.inr hr
  · have hexec : (Statement.insert t values : Query).exec db = some db' := hinsert
    rw [rows_insert hexec t'] at hr
    rcases List.mem_append.mp hr with hr | hr
    · exact Or.inr hr
    · split_ifs at hr with ht
      · obtain rfl := List.mem_singleton.mp hr
        exact Or.inl ⟨ht, rfl⟩
      · cases hr

lemma rows_upsert_of_ne {values : List (String × Value)} {c : String} (ht : t' ≠ t)
    (h : (Statement.upsert t values c : Query).exec db = some db') : db'.rows t' = db.rows t' := by
  rcases Database.upsert_spec h with ⟨-, hc, rfl⟩ | hinsert
  · exact Database.rows_overwrite_of_ne ht _ _ hc
  · have hexec : (Statement.insert t values : Query).exec db = some db' := hinsert
    rw [rows_insert hexec t', if_neg ht, List.append_nil]

lemma mem_delete {c value : String} (h : (Statement.delete t c value : Query).exec db = some db') :
    r ∈ db'.rows t' ↔ r ∈ db.rows t' ∧ ¬db.Goes t c value t' r := by
  obtain ⟨-, rfl⟩ := Database.delete_spec h
  rw [Database.rows_filter, List.mem_filter]
  simp

/-- Only endpoints are referred to. -/
lemma goes_of_ne {c value : String} (ht : t ≠ .psEndpoints) :
    db.Goes t c value t' r ↔ t' = t ∧ κ.weight (r c) = κ.weight (.str value) := by
  refine or_iff_left ?_
  rintro ⟨fk, hfk, -, -, hreferences, -⟩
  have hall : ∀ fk ∈ schema.foreignKeys, fk.references = .psEndpoints :=
    forall_foreignKeys.mpr ⟨rfl, rfl⟩
  exact ht (hreferences.symm.trans (hall fk hfk))

lemma rows_delete_of_ne {c value : String} (ht : t ≠ .psEndpoints) (ht' : t' ≠ t)
    (h : (Statement.delete t c value : Query).exec db = some db') : db'.rows t' = db.rows t' := by
  obtain ⟨-, rfl⟩ := Database.delete_spec h
  rw [Database.rows_filter, List.filter_eq_self]
  intro r _
  simp [goes_of_ne ht, ht']

/-- Endpoints refer to nothing. -/
lemma goes_endpoints :
    db.Goes .psEndpoints "id" q .psEndpoints r ↔ κ.weight (r "id") = κ.weight (.str q) := by
  refine (or_iff_left ?_).trans (and_iff_right rfl)
  rintro ⟨fk, hfk, htable, -⟩
  have hall : ∀ fk ∈ schema.foreignKeys, fk.table ≠ .psEndpoints :=
    forall_foreignKeys.mpr ⟨by decide, by decide⟩
  exact hall fk hfk htable

/-! ### Calls -/

lemma Belongs.mono {v : Value} (hv : Belongs db v)
    (hsub : ∀ e ∈ db.rows .psEndpoints, e ∈ db'.rows .psEndpoints) : Belongs db' v := by
  rcases hv with hnull | ⟨e, he, hid⟩
  · exact Or.inl hnull
  · exact Or.inr ⟨e, hsub e he, hid⟩

lemma Ledger.Knows.mono {l' : Ledger} (hk : l.Knows κ e)
    (hsub : ∀ p ∈ l.providers, p ∈ l'.providers) : l'.Knows κ e := by
  rcases hk with hhidden | ⟨p, hp, hrow⟩
  · exact Or.inl hhidden
  · exact Or.inr ⟨p, hsub p hp, hrow⟩

/-- The endpoints and the registrations stay, and so do the providers. -/
lemma Sound.same (hs : Sound db l) (dids : List (String × String))
    (hendpoints : db'.rows .psEndpoints = db.rows .psEndpoints)
    (hregistrations : db'.rows .psRegistrations = db.rows .psRegistrations)
    (hwebhooks : ∀ w ∈ db'.rows .trunkWebhooks, Belongs db (w "trunk_id")) :
    Sound db' ⟨l.providers, dids⟩ := by
  have hsub : ∀ e ∈ db.rows .psEndpoints, e ∈ db'.rows .psEndpoints := by
    rw [hendpoints]
    exact fun e he => he
  refine ⟨?_, fun w hw => (hwebhooks w hw).mono hsub, ?_, ?_, ?_, hs.names⟩
  · rw [hendpoints]
    exact hs.endpoints
  · rw [hregistrations]
    exact fun r hr => (hs.registrations r hr).mono hsub
  · rw [hregistrations]
    exact hs.single
  · rw [hendpoints]
    exact hs.present

section AddProvider

variable {username password domain : String} {port : Int} {withRegistration : Bool}

/-- What adding a provider does: its endpoint is new, and it has at most one registration. -/
structure Adds (db db' : Tables (collated κ)) (q domain : String) (e : Row) (more : List Row) :
    Prop where
  new : ¬db.HasKey .psEndpoints (.str q)
  row : e "id" = .str q ∧ e "from_user" = .null ∧ e "from_domain" = .str domain
  endpoints : db'.rows .psEndpoints = db.rows .psEndpoints ++ [e]
  webhooks : db'.rows .trunkWebhooks = db.rows .trunkWebhooks
  registration : (∀ r ∈ more, ∀ r' ∈ more, r = r') ∧ ∀ r ∈ more, r "endpoint" = .str q
  registrations : db'.rows .psRegistrations = db.rows .psRegistrations ++ more

lemma adds
    (h : executeAll db (Call.addProvider q username password domain port withRegistration).queries =
      some db') : ∃ e more, Adds db db' q domain e more := by
  rw [Call.queries, executeAll_append] at h
  obtain ⟨db₃, h, hlast⟩ := Option.bind_eq_some_iff.mp h
  obtain ⟨db₁, hauth, h⟩ := Option.bind_eq_some_iff.mp h
  obtain ⟨db₂, haor, h⟩ := Option.bind_eq_some_iff.mp h
  obtain ⟨db₃, hendpoint, h⟩ := Option.bind_eq_some_iff.mp h
  cases h
  obtain ⟨values, hquery, hrow⟩ : ∃ values, endpointQuery q username domain =
      .insert .psEndpoints values ∧ Row.of values "id" = .str q ∧
        Row.of values "from_user" = .null ∧ Row.of values "from_domain" = .str domain :=
    ⟨_, rfl, rfl, rfl, rfl⟩
  rw [hquery] at hendpoint
  have hmore : ∃ more : List Row,
      ((∀ r ∈ more, ∀ r' ∈ more, r = r') ∧ ∀ r ∈ more, r "endpoint" = .str q) ∧
      ∀ t, db'.rows t = db₃.rows t ++ if t = .psRegistrations then more else [] := by
    cases withRegistration with
    | true =>
      obtain ⟨db₄, hreg, h⟩ := Option.bind_eq_some_iff.mp hlast
      cases h
      refine ⟨_, ⟨fun r hr r' hr' => ?_, List.forall_mem_singleton.mpr rfl⟩, rows_insert hreg⟩
      rw [List.mem_singleton.mp hr, List.mem_singleton.mp hr']
    | false =>
      cases hlast
      exact ⟨[], ⟨fun r hr => (by cases hr), fun r hr => (by cases hr)⟩, fun t => by simp⟩
  obtain ⟨more, hregistration, hrows⟩ := hmore
  have hbefore : ∀ t, t ≠ .psAuths → t ≠ .psAors → db₂.rows t = db.rows t := by
    intro t h₁ h₂
    rw [rows_insert haor, rows_insert hauth, if_neg h₁, if_neg h₂, List.append_nil, List.append_nil]
  refine ⟨Row.of values, more, ?_, hrow, ?_, ?_, hregistration, ?_⟩
  · rintro ⟨e, he, hid⟩
    obtain ⟨hnew, -⟩ := Database.insert_spec hendpoint
    refine hnew ⟨e, ?_, hid.trans (congrArg κ.weight hrow.1.symm)⟩
    rw [hbefore _ (by decide) (by decide)]
    exact he
  · rw [hrows, rows_insert hendpoint, hbefore _ (by decide) (by decide)]
    simp
  · rw [hrows, rows_insert hendpoint, hbefore _ (by decide) (by decide)]
    simp
  · rw [hrows, rows_insert hendpoint, hbefore _ (by decide) (by decide)]
    simp

/-- A name that was there is not the new one. -/
lemma Adds.ne {more : List Row} (ha : Adds db db' q domain e more) (hs : Sound db l) {p : Provider}
    (hp : p ∈ l.providers) : κ.text p.name ≠ κ.text q := by
  intro hsame
  obtain ⟨e', he, hid⟩ := hs.present p hp
  exact ha.new ⟨e', he, (congrArg κ.weight hid).trans (weight_str_iff.mpr hsame)⟩

lemma Sound.addProvider (hs : Sound db l)
    (h : executeAll db (Call.addProvider q username password domain port withRegistration).queries =
      some db') :
    Sound db' (l.record κ (.addProvider q username password domain port withRegistration)) := by
  obtain ⟨e, more, ha⟩ := adds h
  have hsub : ∀ e ∈ db.rows .psEndpoints, e ∈ db'.rows .psEndpoints := by
    rw [ha.endpoints]
    exact fun e he => List.mem_append_left _ he
  have he : e ∈ db'.rows .psEndpoints := by
    rw [ha.endpoints]
    exact List.mem_append_right _ (List.mem_singleton_self e)
  refine ⟨?_, ?_, ?_, ?_, ?_, ?_⟩
  · intro e' he'
    rw [ha.endpoints] at he'
    rcases List.mem_append.mp he' with he' | he'
    · exact (hs.endpoints e' he').mono fun p hp => List.mem_append_left _ hp
    · obtain rfl := List.mem_singleton.mp he'
      exact Or.inr ⟨⟨q, username, domain, withRegistration⟩, by simp [Ledger.record], ha.row⟩
  · rw [ha.webhooks]
    exact fun w hw => (hs.webhooks w hw).mono hsub
  · rw [ha.registrations]
    intro r hr
    rcases List.mem_append.mp hr with hr | hr
    · exact (hs.registrations r hr).mono hsub
    · refine Or.inr ⟨e, he, ?_⟩
      rw [ha.registration.2 r hr]
      exact congrArg κ.weight ha.row.1
  · -- a new provider has no old registration, and an old one no new registration
    rw [ha.registrations]
    have hold : ∀ r ∈ db.rows .psRegistrations, κ.weight (r "endpoint") ≠ κ.weight (.str q) :=
      fun r hr => not_belongs ha.new (hs.registrations r hr)
    intro p hp r hr r' hr' hname hname'
    rcases List.mem_append.mp hp with hp | hp
    · have hne : ∀ r ∈ more, κ.weight (r "endpoint") ≠ κ.weight (.str p.name) := by
        intro r hr hsame
        rw [ha.registration.2 r hr] at hsame
        exact ha.ne hs hp (weight_str_iff.mp hsame).symm
      have hr := (List.mem_append.mp hr).resolve_right fun hr => hne r hr hname
      have hr' := (List.mem_append.mp hr').resolve_right fun hr' => hne r' hr' hname'
      exact hs.single p hp r hr r' hr' hname hname'
    · obtain rfl := List.mem_singleton.mp hp
      have hr := (List.mem_append.mp hr).resolve_left fun hr => hold r hr hname
      have hr' := (List.mem_append.mp hr').resolve_left fun hr' => hold r' hr' hname'
      exact ha.registration.1 r hr r' hr'
  · intro p hp
    rcases List.mem_append.mp hp with hp | hp
    · obtain ⟨e', he', hid⟩ := hs.present p hp
      exact ⟨e', hsub e' he', hid⟩
    · obtain rfl := List.mem_singleton.mp hp
      exact ⟨e, he, ha.row.1⟩
  · show ((l.providers ++ [(⟨q, username, domain, withRegistration⟩ : Provider)]).map
      fun p => κ.text p.name).Nodup
    rw [List.map_append, List.nodup_append]
    refine ⟨hs.names, List.nodup_singleton _, ?_⟩
    rintro _ hmem _ hq rfl
    obtain ⟨p, hp, hname⟩ := List.mem_map.mp hmem
    exact ha.ne hs hp (hname.trans (List.mem_singleton.mp hq))

/-- A new provider has no webhook yet. -/
lemma Sound.kept_addProvider_iff (hs : Sound db l)
    (h : executeAll db (Call.addProvider q username password domain port withRegistration).queries =
      some db') :
    Kept db' (l.record κ (.addProvider q username password domain port withRegistration)) ↔
      Kept db l ∧ ¬Hidden κ q ∧ username = "" ∧ withRegistration = false := by
  obtain ⟨e, more, ha⟩ := adds h
  unfold Kept
  rw [ha.webhooks]
  constructor
  · intro hkept
    refine ⟨fun p hp => hkept p (List.mem_append_left _ hp), ?_⟩
    exact (hkept ⟨q, username, domain, withRegistration⟩ (by simp [Ledger.record])).1
  · rintro ⟨hkept, hnew⟩ p hp
    rcases List.mem_append.mp hp with hp | hp
    · exact hkept p hp
    · obtain rfl := List.mem_singleton.mp hp
      exact ⟨hnew, fun w hw htrunk => absurd htrunk (not_belongs ha.new (hs.webhooks w hw))⟩

end AddProvider

section AddDid

variable {trunkName did answerWebhookUrl : String}

/-- A number is added to an endpoint that is there, and its webhook is that of the endpoint. -/
lemma addDid_spec
    (h : executeAll db (Call.addDid trunkName did q answerWebhookUrl).queries = some db') :
    db.HasKey .psEndpoints (.str q) ∧
      (∀ t, t ≠ .psProviderDids → t ≠ .trunkWebhooks → db'.rows t = db.rows t) ∧
      ∀ w ∈ db'.rows .trunkWebhooks, κ.weight (w "trunk_id") = κ.weight (.str q) ∨
        w ∈ db.rows .trunkWebhooks := by
  obtain ⟨db₁, hdid, h⟩ := Option.bind_eq_some_iff.mp h
  obtain ⟨db₂, hwebhook, h⟩ := Option.bind_eq_some_iff.mp h
  cases h
  refine ⟨?_, ?_, ?_⟩
  · obtain ⟨-, -, hadmits, -⟩ := Database.insert_spec hdid
    have hkey := (forall_foreignKeys.mp hadmits).2 rfl
    exact hkey.resolve_left (by simp [Row.of, List.lookup_cons])
  · intro t hdids hwebhooks
    rw [rows_upsert_of_ne hwebhooks hwebhook, rows_insert hdid, if_neg hdids, List.append_nil]
  · intro w hw
    rcases mem_upsert hwebhook hw with ⟨-, hkey⟩ | hw
    · exact Or.inl hkey
    · rw [rows_insert hdid, if_neg (by decide), List.append_nil] at hw
      exact Or.inr hw

lemma Sound.addDid (hs : Sound db l)
    (h : executeAll db (Call.addDid trunkName did q answerWebhookUrl).queries = some db') :
    Sound db' (l.record κ (.addDid trunkName did q answerWebhookUrl)) := by
  obtain ⟨hkey, hrows, hwebhooks⟩ := addDid_spec h
  refine hs.same _ (hrows _ (by decide) (by decide)) (hrows _ (by decide) (by decide)) ?_
  intro w hw
  rcases hwebhooks w hw with htrunk | hw
  · obtain ⟨e, he, hid⟩ := hkey
    exact Or.inr ⟨e, he, hid.trans htrunk.symm⟩
  · exact hs.webhooks w hw

lemma Kept.addDid (hk : Kept db l)
    (h : executeAll db (Call.addDid trunkName did q answerWebhookUrl).queries = some db') :
    Kept db' (l.record κ (.addDid trunkName did q answerWebhookUrl)) := by
  obtain ⟨-, -, hwebhooks⟩ := addDid_spec h
  intro p hp
  refine ⟨(hk p hp).1, fun w hw htrunk hurl => ?_⟩
  rcases hwebhooks w hw with hq | hw
  · exact ⟨(trunkName, q), List.mem_append_right _ (List.mem_singleton_self _),
      weight_str_iff.mp (hq.symm.trans htrunk)⟩
  · obtain ⟨d, hd, hname⟩ := (hk p hp).2 w hw htrunk hurl
    exact ⟨d, List.mem_append_left _ hd, hname⟩

end AddDid

section RemoveProvider

/-- What stays was there, and belongs to others. -/
lemma removeProvider_spec (h : executeAll db (Call.removeProvider q).queries = some db') :
    (∀ e, e ∈ db'.rows .psEndpoints ↔
      e ∈ db.rows .psEndpoints ∧ κ.weight (e "id") ≠ κ.weight (.str q)) ∧
    (∀ w ∈ db'.rows .trunkWebhooks,
      w ∈ db.rows .trunkWebhooks ∧ κ.weight (w "trunk_id") ≠ κ.weight (.str q)) ∧
    ∀ r ∈ db'.rows .psRegistrations,
      r ∈ db.rows .psRegistrations ∧ κ.weight (r "endpoint") ≠ κ.weight (.str q) := by
  obtain ⟨db₁, hdids, h⟩ := Option.bind_eq_some_iff.mp h
  obtain ⟨db₂, hwebhooks, h⟩ := Option.bind_eq_some_iff.mp h
  obtain ⟨db₃, hregs, h⟩ := Option.bind_eq_some_iff.mp h
  obtain ⟨db₄, haors, h⟩ := Option.bind_eq_some_iff.mp h
  obtain ⟨db₅, hauths, h⟩ := Option.bind_eq_some_iff.mp h
  obtain ⟨db₆, hendpoints, h⟩ := Option.bind_eq_some_iff.mp h
  cases h
  have hlater : ∀ t, t ≠ .psAors → t ≠ .psAuths → db₅.rows t = db₃.rows t := by
    intro t h₁ h₂
    rw [rows_delete_of_ne (by decide) h₂ hauths, rows_delete_of_ne (by decide) h₁ haors]
  refine ⟨fun e => ?_, fun w hw => ?_, fun r hr => ?_⟩
  · rw [mem_delete hendpoints, hlater _ (by decide) (by decide),
      rows_delete_of_ne (by decide) (by decide) hregs,
      rows_delete_of_ne (by decide) (by decide) hwebhooks,
      rows_delete_of_ne (by decide) (by decide) hdids, goes_endpoints]
  · have hw := ((mem_delete hendpoints).mp hw).1
    rw [hlater _ (by decide) (by decide), rows_delete_of_ne (by decide) (by decide) hregs,
      mem_delete hwebhooks, goes_of_ne (by decide),
      rows_delete_of_ne (by decide) (by decide) hdids] at hw
    exact ⟨hw.1, fun hsame => hw.2 ⟨rfl, hsame⟩⟩
  · have hr := ((mem_delete hendpoints).mp hr).1
    rw [hlater _ (by decide) (by decide), mem_delete hregs, goes_of_ne (by decide),
      rows_delete_of_ne (by decide) (by decide) hwebhooks,
      rows_delete_of_ne (by decide) (by decide) hdids] at hr
    exact ⟨hr.1, fun hsame => hr.2 ⟨rfl, hsame⟩⟩

lemma mem_removeProvider {p : Provider} (hp : p ∈ l.providers) (hne : κ.text p.name ≠ κ.text q) :
    p ∈ (l.record κ (.removeProvider q)).providers :=
  List.mem_filter.mpr ⟨hp, decide_eq_true hne⟩

lemma Sound.removeProvider (hs : Sound db l)
    (h : executeAll db (Call.removeProvider q).queries = some db') :
    Sound db' (l.record κ (.removeProvider q)) := by
  obtain ⟨hendpoints, hwebhooks, hregistrations⟩ := removeProvider_spec h
  -- the endpoint of a row that stays has stayed
  have hbelongs : ∀ v, κ.weight v ≠ κ.weight (.str q) → Belongs db v → Belongs db' v := by
    rintro v hne (hnull | ⟨e, he, hid⟩)
    · exact Or.inl hnull
    · exact Or.inr ⟨e, (hendpoints e).mpr ⟨he, fun hq => hne (hid.symm.trans hq)⟩, hid⟩
  refine ⟨?_, ?_, ?_, ?_, ?_, ?_⟩
  · intro e he
    obtain ⟨he, hne⟩ := (hendpoints e).mp he
    rcases hs.endpoints e he with hhidden | ⟨p, hp, hid, hrow⟩
    · exact Or.inl hhidden
    · refine Or.inr ⟨p, mem_removeProvider hp fun hsame => hne ?_, hid, hrow⟩
      rw [hid]
      exact weight_str_iff.mpr hsame
  · intro w hw
    obtain ⟨hw, hne⟩ := hwebhooks w hw
    exact hbelongs _ hne (hs.webhooks w hw)
  · intro r hr
    obtain ⟨hr, hne⟩ := hregistrations r hr
    exact hbelongs _ hne (hs.registrations r hr)
  · intro p hp r hr r' hr' hname hname'
    exact hs.single p (List.mem_of_mem_filter hp) r (hregistrations r hr).1 r'
      (hregistrations r' hr').1 hname hname'
  · intro p hp
    obtain ⟨hp, hne⟩ := List.mem_filter.mp hp
    replace hne : κ.text p.name ≠ κ.text q := by simpa using hne
    obtain ⟨e, he, hid⟩ := hs.present p hp
    refine ⟨e, (hendpoints e).mpr ⟨he, fun hsame => hne ?_⟩, hid⟩
    rw [hid] at hsame
    exact weight_str_iff.mp hsame
  · exact (List.filter_sublist.map _).nodup hs.names

lemma Kept.removeProvider (hk : Kept db l)
    (h : executeAll db (Call.removeProvider q).queries = some db') :
    Kept db' (l.record κ (.removeProvider q)) := by
  obtain ⟨-, hwebhooks, -⟩ := removeProvider_spec h
  intro p hp
  obtain ⟨hp, hne⟩ := List.mem_filter.mp hp
  refine ⟨(hk p hp).1, fun w hw htrunk hurl => ?_⟩
  obtain ⟨d, hd, hname⟩ := (hk p hp).2 w (hwebhooks w hw).1 htrunk hurl
  refine ⟨d, List.mem_filter.mpr ⟨hd, ?_⟩, hname⟩
  rw [hname]
  exact hne

end RemoveProvider

section RemoveDid

variable {didId : String}

lemma rows_removeDid (ht : t ≠ .psProviderDids)
    (h : executeAll db (Call.removeDid didId).queries = some db') : db'.rows t = db.rows t := by
  obtain ⟨db₁, hdid, h⟩ := Option.bind_eq_some_iff.mp h
  cases h
  exact rows_delete_of_ne (by decide) ht hdid

lemma Sound.removeDid (hs : Sound db l)
    (h : executeAll db (Call.removeDid didId).queries = some db') :
    Sound db' (l.record κ (.removeDid didId)) := by
  refine hs.same _ (rows_removeDid (by decide) h) (rows_removeDid (by decide) h) ?_
  rw [rows_removeDid (by decide) h]
  exact hs.webhooks

/-- The webhook of a provider stays when a number of it is removed. -/
lemma kept_removeDid_iff (hk : Kept db l)
    (h : executeAll db (Call.removeDid didId).queries = some db') :
    Kept db' (l.record κ (.removeDid didId)) ↔
      ∀ p ∈ l.providers,
        (∃ d ∈ l.dids, κ.text d.1 ≠ κ.text didId ∧ κ.text d.2 = κ.text p.name) ∨
          ∀ w ∈ db.rows .trunkWebhooks, κ.weight (w "trunk_id") = κ.weight (.str p.name) →
            shown (w "answer_webhook_url") = "" := by
  unfold Kept
  rw [rows_removeDid (by decide) h]
  constructor
  · intro hkept p hp
    by_cases hsome : ∃ d ∈ l.dids, κ.text d.1 ≠ κ.text didId ∧ κ.text d.2 = κ.text p.name
    · exact Or.inl hsome
    · refine Or.inr fun w hw htrunk => ?_
      by_contra hurl
      obtain ⟨d, hd, hname⟩ := (hkept p hp).2 w hw htrunk hurl
      obtain ⟨hd, hid⟩ := List.mem_filter.mp hd
      exact hsome ⟨d, hd, by simpa using hid, hname⟩
  · intro hharmless p hp
    refine ⟨(hk p hp).1, fun w hw htrunk hurl => ?_⟩
    rcases hharmless p hp with ⟨d, hd, hid, hname⟩ | hnone
    · exact ⟨d, List.mem_filter.mpr ⟨hd, decide_eq_true hid⟩, hname⟩
    · exact absurd (hnone w hw htrunk) hurl

end RemoveDid

/-! ### Histories -/

lemma History.step_spec (hstep : h.step call = some h') :
    executeAll h.session.tables call.1.queries = some h'.session.tables ∧
      h'.ledger = h.ledger.record κ call.1 := by
  unfold History.step at hstep
  split_ifs at hstep
  obtain ⟨s, hs, rfl⟩ := Option.map_eq_some_iff.mp hstep
  exact ⟨Db.step_spec hs, rfl⟩

lemma Sound.step (hs : Sound h.session.tables h.ledger) (hstep : h.step call = some h') :
    Sound h'.session.tables h'.ledger := by
  obtain ⟨hexec, hledger⟩ := History.step_spec hstep
  rw [hledger]
  obtain ⟨c, fs⟩ := call
  cases c with
  | addProvider q username password domain port withRegistration => exact hs.addProvider hexec
  | addDid trunkName did q answerWebhookUrl => exact hs.addDid hexec
  | removeProvider q => exact hs.removeProvider hexec
  | removeDid didId => exact hs.removeDid hexec

/-- A harmless call keeps what is reported, and no other one does. -/
lemma Sound.kept_step_iff (hs : Sound h.session.tables h.ledger)
    (hk : Kept h.session.tables h.ledger) (hstep : h.step call = some h') :
    Kept h'.session.tables h'.ledger ↔ Harmless h call := by
  obtain ⟨hexec, hledger⟩ := History.step_spec hstep
  rw [hledger]
  obtain ⟨c, fs⟩ := call
  cases c with
  | addProvider q username password domain port withRegistration =>
    rw [hs.kept_addProvider_iff hexec]
    exact and_iff_right hk
  | addDid trunkName did q answerWebhookUrl => exact iff_of_true (hk.addDid hexec) trivial
  | removeProvider q => exact iff_of_true (hk.removeProvider hexec) trivial
  | removeDid didId => exact kept_removeDid_iff hk hexec

lemma Unserved.sound (hu : Unserved db) : Sound db ⟨[], []⟩ where
  endpoints e he := Or.inl (hu.endpoints e he)
  webhooks := hu.webhooks
  registrations := hu.registrations
  single p hp := by cases hp
  present p hp := by cases hp
  names := List.nodup_nil

lemma getRegisteredAccounts_eq (s : Session (collated κ)) :
    getRegisteredAccounts s Fault.none = registeredAccounts s.tables := by
  simp [getRegisteredAccounts, executeSelectQuery, Fault.none]

/-- In a run of calls that succeed, from tables without rows of the service and under any collation,
every account is reported as it was added after every call, if and only if every call is
harmless. -/
theorem accounts_reported_iff {s : Session (collated κ)} {calls : List (Call × (ℕ → Fault))}
    (hu : Unserved s.tables) (hr : run History.step ⟨s, ⟨[], []⟩⟩ calls = some h') :
    (∀ pre h₁, pre <+: calls → run History.step ⟨s, ⟨[], []⟩⟩ pre = some h₁ →
        Reported κ (getRegisteredAccounts h₁.session Fault.none) h₁.ledger) ↔
      Guarded History.step Harmless ⟨s, ⟨[], []⟩⟩ calls := by
  have hkept : Kept s.tables ⟨[], []⟩ := fun p hp => by cases hp
  have hstates := forall_states_iff_guarded (G := Harmless)
    (I := fun h : History κ => Sound h.session.tables h.ledger)
    (P := fun h => Kept h.session.tables h.ledger) (fun h call h' hs hstep => hs.step hstep)
    (fun h call h' hs hk hstep => hs.kept_step_iff hk hstep) hu.sound hkept hr
  rw [← hstates]
  refine forall_congr' fun pre => forall_congr' fun h₁ => forall_congr' fun _ => ?_
  refine forall_congr' fun hpre => ?_
  have hs : Sound h₁.session.tables h₁.ledger :=
    run_invariant' (I := fun h : History κ => Sound h.session.tables h.ledger)
      (fun h call h' hs hstep => hs.step hstep) hu.sound hpre
  rw [getRegisteredAccounts_eq]
  exact hs.reported_iff

instance decidableHarmless (h : History κ) : ∀ call, Decidable (Harmless h call)
  | (.addProvider name username _ _ _ withRegistration, _) =>
    inferInstanceAs (Decidable (¬Hidden κ name ∧ username = "" ∧ withRegistration = false))
  | (.addDid .., _)        => isTrue trivial
  | (.removeProvider _, _) => isTrue trivial
  | (.removeDid didId, _)  =>
    inferInstanceAs (Decidable (∀ p ∈ h.ledger.providers,
      (∃ d ∈ h.ledger.dids, κ.text d.1 ≠ κ.text didId ∧ κ.text d.2 = κ.text p.name) ∨
        ∀ w ∈ h.session.tables.rows .trunkWebhooks,
          κ.weight (w "trunk_id") = κ.weight (.str p.name) →
            shown (w "answer_webhook_url") = ""))

/-- The collation of the tables on ASCII: the case of a letter does not matter. -/
def ignoringCase : Collation where
  text s := String.ofList (s.toList.map Char.toLower)
  char := Char.toLower

lemma unserved_noRows : Unserved (noRows (collated ignoringCase)) where
  endpoints e he := by cases he
  webhooks w hw := by cases hw
  registrations r hr := by cases hr

/-- A provider without a user name and two numbers, of which one is removed. -/
theorem accounts_reported_sample :
    let start : History ignoringCase := ⟨⟨noRows (collated ignoringCase), true⟩, ⟨[], []⟩⟩
    let calls : List (Call × (ℕ → Fault)) :=
      [(.addProvider "acme" "" "secret" "sip.acme.example" 5060 false, fun _ => Fault.none),
        (.addDid "trunk-1" "4930123456" "acme" "https://backend/answer", fun _ => Fault.none),
        (.addDid "trunk-2" "4930654321" "Acme" "https://backend/answer", fun _ => Fault.none),
        (.removeDid "TRUNK-1", fun _ => Fault.none)]
    ∀ pre h₁, pre <+: calls → run History.step start pre = some h₁ →
      Reported ignoringCase (getRegisteredAccounts h₁.session Fault.none) h₁.ledger := by
  intro start calls
  obtain ⟨h', hr⟩ := Option.isSome_iff_exists.mp
    (show (run History.step start calls).isSome = true by decide +kernel)
  exact (accounts_reported_iff unserved_noRows hr).mpr (by decide +kernel)

/-- A provider with a user name and a registration is shown without either. -/
theorem account_not_reported : ¬∀ (s : Session (collated ignoringCase))
    (calls : List (Call × (ℕ → Fault))) (h : History ignoringCase),
    Unserved s.tables → run History.step ⟨s, ⟨[], []⟩⟩ calls = some h →
      Reported ignoringCase (getRegisteredAccounts h.session Fault.none) h.ledger := by
  intro hall
  have hshown : (run History.step
      (⟨⟨noRows (collated ignoringCase), true⟩, ⟨[], []⟩⟩ : History ignoringCase)
      [(.addProvider "acme" "user" "secret" "sip.acme.example" 5060 true, fun _ => Fault.none)]).map
        (fun h => (getRegisteredAccounts h.session Fault.none,
          h.ledger.providers.map (·.username))) =
      some ([⟨"acme", "", "sip.acme.example", "", "configured"⟩], ["user"]) := by
    decide +kernel
  obtain ⟨h, hr, hshown⟩ := Option.map_eq_some_iff.mp hshown
  obtain ⟨haccounts, husers⟩ := Prod.mk.inj hshown
  have hreported := hall _ _ h unserved_noRows hr
  rw [haccounts] at hreported
  obtain ⟨p, hp, -, hname, -⟩ := hreported.only _ (List.mem_singleton_self _)
  have hmem : p.username ∈ ["user"] := husers ▸ List.mem_map_of_mem hp
  rw [← hname] at hmem
  exact absurd hmem (by decide)

end MediaServer.Db
