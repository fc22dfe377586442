import SipForward.Core.Run
import SipForward.Core.SqlText

/-!
# Providers and their numbers in the database

`DbManager` writes the tables that Asterisk reads: a provider is an endpoint with its credentials,
its address and, if it wants one, its registration; a number of a provider carries the address of a
webhook. Every statement is committed by itself. The connection to the server may be lost with a
statement that has already been applied. By default texts are compared exactly; `collated` is for a
server whose collation takes different texts for the same.
-/

namespace MediaServer.Db

open Core Sql

/-! ### Tables -/

inductive Table where
  | psEndpoints
  | psAors
  | psAuths
  | trunkWebhooks
  | psRegistrations
  | psProviderDids
deriving DecidableEq

def schema : Schema Table where
  name
    | .psEndpoints     => "ps_endpoints"
    | .psAors          => "ps_aors"
    | .psAuths         => "ps_auths"
    | .trunkWebhooks   => "trunk_webhooks"
    | .psRegistrations => "ps_registrations"
    | .psProviderDids  => "ps_provider_dids"
  primaryKey
    | .trunkWebhooks => "trunk_id"
    | _              => "id"
  foreignKeys :=
    [⟨.trunkWebhooks, "trunk_id", .psEndpoints, true⟩,
      ⟨.psProviderDids, "provider_id", .psEndpoints, false⟩]
  weight := id

/-- How the server compares texts, and characters in `LIKE`: by their weights. -/
structure Collation where
  text : String → String
  char : Char → Char

def Collation.weight (κ : Collation) : Value → Value
  | .str s => .str (κ.text s)
  | v      => v

/-- The tables of a server with a collation. -/
def collated (κ : Collation) : Schema Table := { schema with weight := κ.weight }

abbrev Tables (S : Schema Table := schema) := Database S

abbrev Query := Statement Table

def noRows (S : Schema Table := schema) : Tables S where
  rows _ := []
  unique _ := List.nodup_nil

/-! ### Queries -/

def authQuery (providerName username password : String) : Query :=
  .insert .psAuths
    [("id", .str (providerName ++ "_auth")), ("auth_type", .str "userpass"),
      ("username", .str username), ("password", .str password), ("realm", .str "")]

def aorQuery (providerName domain : String) (port : Int) : Query :=
  .insert .psAors
    [("id", .str (providerName ++ "_aor")),
      ("contact", .str ("sip:" ++ domain ++ ":" ++ toString port)),
      ("qualify_frequency", .num 60), ("max_contacts", .num 1), ("remove_existing", .str "yes")]

def endpointQuery (providerName username domain : String) : Query :=
  .insert .psEndpoints
    [("id", .str providerName), ("transport", .str "transport-udp"),
      ("aors", .str (providerName ++ "_aor")), ("context", .str "from-trunk"),
      ("disallow", .str "all"), ("allow", .str "ulaw"), ("direct_media", .str "yes"),
      ("force_rport", .str "yes"), ("rewrite_contact", .str "yes"), ("rtp_symmetric", .str "yes"),
      ("ice_support", .str "no"), ("from_user", .null), ("from_domain", .str domain),
      ("outbound_auth", .str (providerName ++ "_auth")),
      ("mailboxes", .str (username ++ "@" ++ domain)),
      ("incoming_mwi_mailbox", .str ("sip:" ++ username ++ "@" ++ domain)),
      ("mwi_subscribe_replaces_unsolicited", .str "yes"), ("message_context", .str "from-trunk"),
      ("mwi_from_user", .str username), ("mwi_max_messages", .num 100), ("send_pai", .str "yes"),
      ("send_rpid", .str "yes"), ("direct_media_method", .str "reinvite"),
      ("connected_line_method", .str "reinvite"), ("timers", .str "no")]

def regQuery (providerName username domain : String) (port : Int) : Query :=
  .insert .psRegistrations
    [("id", .str (providerName ++ "_registration")),
      ("client_uri", .str ("sip:" ++ username ++ "@" ++ domain ++ ":" ++ toString port)),
      ("contact_user", .str username), ("expiration", .num 3600), ("retry_interval", .num 60),
      ("forbidden_retry_interval", .num 300), ("max_retries", .num 100000),
      ("fatal_retry_interval", .num 600),
      ("server_uri", .str ("sip:" ++ domain ++ ":" ++ toString port)),
      ("transport", .str "transport-udp"), ("outbound_auth", .str (providerName ++ "_auth")),
      ("support_path", .str "yes"), ("line", .str "yes"), ("endpoint", .str providerName)]

def didQuery (trunkName did providerId answerWebhookUrl : String) : Query :=
  .insert .psProviderDids
    [("id", .str trunkName), ("did", .str did), ("provider_id", .str providerId),
      ("answer_webhook_url", .str answerWebhookUrl)]

def webhookQuery (providerId answerWebhookUrl : String) : Query :=
  .upsert .trunkWebhooks
    [("trunk_id", .str providerId), ("answer_webhook_url", .str answerWebhookUrl)]
    "answer_webhook_url"

/-- `ps_provider_dids` refers to `ps_endpoints`, so what depends on an endpoint is deleted first. -/
def removeProviderQueries (trunkName : String) : List Query :=
  [.delete .psProviderDids "provider_id" trunkName,
    .delete .trunkWebhooks "trunk_id" trunkName,
    .delete .psRegistrations "endpoint" trunkName,
    .delete .psAors "id" (trunkName ++ "_aor"),
    .delete .psAuths "id" (trunkName ++ "_auth"),
    .delete .psEndpoints "id" trunkName]

/-! ### The connection -/

/-- What comes of a query that is sent: the server answers it, or refuses it for a reason outside of
the tables, or the connection is lost before or after the query was applied. -/
inductive Outcome where
  | answered
  | refused
  | lost (applied : Bool)
deriving DecidableEq

/-- What happens to one call of `executeSqlQuery`: whether a connection can be made if there is
none, what comes of the query, whether a lost connection can be made again, and what comes of the
query that is sent again. -/
structure Fault where
  connects : Bool
  first : Outcome
  reconnects : Bool
  second : Outcome

def Fault.none : Fault := ⟨true, .answered, true, .answered⟩

/-- The connection was lost with a query that had been applied. -/
def Fault.Lost (f : Fault) : Prop := f.first = .lost true ∨ f.second = .lost true

structure Session (S : Schema Table := schema) where
  tables : Tables S
  connected : Bool

inductive Reply where
  | ok
  | error
  | gone
deriving DecidableEq

variable {S : Schema Table}

/-- `mysql_query`: the tables after it, and its error. -/
def mysqlQuery (db : Tables S) (query : Query) : Outcome → Tables S × Reply
  | .answered     =>
    match query.exec db with
    | some db => (db, .ok)
    | none    => (db, .error)
  | .refused      => (db, .error)
  | .lost applied => (if applied then (query.exec db).getD db else db, .gone)

/-- The error codes 2006 and 2013 are those of a lost connection. -/
def executeSqlQuery (s : Session S) (query : Query) (f : Fault) : Bool × Session S :=
  if s.connected = false ∧ f.connects = false then (false, s)
  else
    match mysqlQuery s.tables query f.first with
    | (db, .ok)    => (true, ⟨db, true⟩)
    | (db, .error) => (false, ⟨db, true⟩)
    | (db, .gone)  =>
      if f.reconnects then
        let (db, reply) := mysqlQuery db query f.second
        (reply == .ok, ⟨db, true⟩)
      else (false, ⟨db, false⟩)

/-- A query that only reads. -/
def executeSelectQuery {α : Type*} (s : Session S) (select : Tables S → α) (f : Fault) :
    Option α × Session S :=
  if s.connected = false ∧ f.connects = false then (none, s)
  else
    match f.first with
    | .answered => (some (select s.tables), ⟨s.tables, true⟩)
    | .refused  => (none, ⟨s.tables, true⟩)
    | .lost _   =>
      if f.reconnects then
        (if f.second = .answered then some (select s.tables) else none, ⟨s.tables, true⟩)
      else (none, ⟨s.tables, false⟩)

/-! ### Calls -/

/-- Queries one after the other, up to the first that fails; each has its own fault. -/
def executeSqlQueries (s : Session S) : List Query → (ℕ → Fault) → Bool × Session S
  | [], _                => (true, s)
  | query :: queries, fs =>
    match executeSqlQuery s query (fs 0) with
    | (true, s)  => executeSqlQueries s queries fun n => fs (n + 1)
    | (false, s) => (false, s)

def addProvider (s : Session S) (providerName username password domain : String) (port : Int)
    (withRegistration : Bool) (fs : ℕ → Fault) : Bool × Session S :=
  executeSqlQueries s
    ([authQuery providerName username password, aorQuery providerName domain port,
        endpointQuery providerName username domain] ++
      if withRegistration then [regQuery providerName username domain port] else []) fs

def addDid (s : Session S) (trunkName did providerId answerWebhookUrl : String) (fs : ℕ → Fault) :
    Bool × Session S :=
  executeSqlQueries s
    [didQuery trunkName did providerId answerWebhookUrl,
      webhookQuery providerId answerWebhookUrl] fs

def removeProvider (s : Session S) (trunkName : String) (fs : ℕ → Fault) : Bool × Session S :=
  executeSqlQueries s (removeProviderQueries trunkName) fs

def removeDid (s : Session S) (didId : String) (fs : ℕ → Fault) : Bool × Session S :=
  executeSqlQueries s [.delete .psProviderDids "id" didId] fs

/-- A call that writes. -/
inductive Call where
  | addProvider (providerName username password domain : String) (port : Int)
      (withRegistration : Bool)
  | addDid (trunkName did providerId answerWebhookUrl : String)
  | removeProvider (trunkName : String)
  | removeDid (didId : String)

def Call.perform (s : Session S) (fs : ℕ → Fault) : Call → Bool × Session S
  | .addProvider providerName username password domain port withRegistration =>
    Db.addProvider s providerName username password domain port withRegistration fs
  | .addDid trunkName did providerId answerWebhookUrl =>
    Db.addDid s trunkName did providerId answerWebhookUrl fs
  | .removeProvider trunkName => Db.removeProvider s trunkName fs
  | .removeDid didId => Db.removeDid s didId fs

/-- The queries of a call. -/
def Call.queries : Call → List Query
  | .addProvider providerName username password domain port withRegistration =>
    [authQuery providerName username password, aorQuery providerName domain port,
        endpointQuery providerName username domain] ++
      if withRegistration then [regQuery providerName username domain port] else []
  | .addDid trunkName did providerId answerWebhookUrl =>
    [didQuery trunkName did providerId answerWebhookUrl, webhookQuery providerId answerWebhookUrl]
  | .removeProvider trunkName => removeProviderQueries trunkName
  | .removeDid didId => [.delete .psProviderDids "id" didId]

example : String.ofList ((authQuery "acme" "user" "secret").text schema) =
    "INSERT INTO ps_auths (id, auth_type, username, password, realm) VALUES " ++
      "('acme_auth', 'userpass', 'user', 'secret', '')" := by decide +kernel

example : String.ofList ((webhookQuery "acme" "https://backend").text schema) =
    "INSERT INTO trunk_webhooks (trunk_id, answer_webhook_url) VALUES " ++
      "('acme', 'https://backend') " ++
      "ON DUPLICATE KEY UPDATE answer_webhook_url = VALUES(answer_webhook_url)" := by decide +kernel

variable {s s' : Session S} {query : Query} {queries : List Query} {f : Fault} {fs : ℕ → Fault}
  {db db' : Tables S} {c : Call}

lemma Call.perform_eq (c : Call) (s : Session S) (fs : ℕ → Fault) :
    c.perform s fs = executeSqlQueries s c.queries fs := by
  cases c with
  | addProvider | addDid | removeProvider | removeDid => rfl

/-! ### What a query has done -/

/-- Queries that the server executes one after the other. -/
def executeAll (db : Tables S) : List Query → Option (Tables S)
  | []               => some db
  | query :: queries => (query.exec db).bind fun db => executeAll db queries

/-- What every query keeps is kept by all of them. -/
lemma executeAll_invariant {I : Tables S → Prop} (h : executeAll db queries = some db') (hdb : I db)
    (hstep : ∀ query ∈ queries, ∀ {db db' : Tables S}, query.exec db = some db' → I db → I db') :
    I db' := by
  induction queries generalizing db with
  | nil =>
    cases h
    exact hdb
  | cons query queries ih =>
    obtain ⟨db₁, h₁, h⟩ := Option.bind_eq_some_iff.mp h
    exact ih h (hstep query List.mem_cons_self h₁ hdb) fun q hq =>
      hstep q (List.mem_cons_of_mem query hq)

lemma executeAll_append (db : Tables S) (before after : List Query) :
    executeAll db (before ++ after) =
      (executeAll db before).bind fun db => executeAll db after := by
  induction before generalizing db with
  | nil => rfl
  | cons query before ih => simp only [List.cons_append, executeAll, ih, Option.bind_assoc]

/-- What was executed before and after one of the queries. -/
lemma executeAll_around (h : executeAll db queries = some db') (hmem : query ∈ queries) :
    ∃ before after db₁ db₂, queries = before ++ query :: after ∧
      executeAll db before = some db₁ ∧ query.exec db₁ = some db₂ ∧
      executeAll db₂ after = some db' := by
  obtain ⟨before, after, rfl⟩ := List.append_of_mem hmem
  rw [executeAll_append] at h
  obtain ⟨db₁, hbefore, h⟩ := Option.bind_eq_some_iff.mp h
  obtain ⟨db₂, hexec, hafter⟩ := Option.bind_eq_some_iff.mp h
  exact ⟨before, after, db₁, db₂, rfl, hbefore, hexec, hafter⟩

lemma executeAll_within {mine : Table → Row → Bool}
    (hw : ∀ query ∈ queries, query.Within S mine) (h : executeAll db queries = some db') :
    db'.without mine = db.without mine :=
  executeAll_invariant (I := fun db₁ => db₁.without mine = db.without mine) h rfl
    fun query hq _ _ hexec hsame => (Statement.exec_within (hw query hq) hexec).trans hsame

lemma executeAll_forall {t : Table} {P : Row → Prop}
    (hw : ∀ query ∈ queries, query.Writes S t P) (h : executeAll db queries = some db')
    (hdb : ∀ r ∈ db.rows t, P r) : ∀ r ∈ db'.rows t, P r :=
  executeAll_invariant (I := fun db => ∀ r ∈ db.rows t, P r) h hdb
    fun query hq _ _ hexec => Statement.exec_forall (hw query hq) hexec

/-- A query that is answered was executed, or rejected. -/
lemma mysqlQuery_ok {o : Outcome} {db' : Tables S} (h : mysqlQuery db query o = (db', .ok)) :
    query.exec db = some db' := by
  cases o with
  | answered =>
    simp only [mysqlQuery] at h
    split at h
    · next db₁ hexec =>
      cases h
      exact hexec
    · cases h
  | refused => cases h
  | lost applied => cases h

/-- A query that is not answered may have been executed. -/
lemma mysqlQuery_not_ok {o : Outcome} {db' : Tables S} {reply : Reply}
    (h : mysqlQuery db query o = (db', reply)) (hne : reply ≠ .ok) :
    db' = db ∨ o = .lost true ∧ query.exec db = some db' := by
  cases o with
  | answered =>
    simp only [mysqlQuery] at h
    split at h
    · cases h
      exact absurd rfl hne
    · cases h
      exact Or.inl rfl
  | refused =>
    cases h
    exact Or.inl rfl
  | lost applied =>
    cases h
    cases applied with
    | false => exact Or.inl rfl
    | true =>
      cases hexec : query.exec db with
      | none => exact Or.inl (by simp)
      | some db' => exact Or.inr ⟨rfl, by simp⟩

/-- A query that is sent again has been executed once, or twice without a difference. -/
lemma exec_again (h : db' = db ∨ query.exec db = some db') {db₂ : Tables S}
    (hagain : query.exec db' = some db₂) : query.exec db = some db₂ := by
  rcases h with rfl | hexec
  · exact hagain
  · rcases Statement.exec_twice hexec with hnone | hsame
    · rw [hagain] at hnone
      cases hnone
    · rw [hexec, ← hsame, hagain]

/-- The ways of a query: it is not sent, it is sent once, or it is lost and sent again. -/
lemma executeSqlQuery_spec {ok : Bool} (h : executeSqlQuery s query f = (ok, s')) :
    (ok = false ∧ s' = s) ∨
      (∃ reply, mysqlQuery s.tables query f.first = (s'.tables, reply) ∧ ok = (reply == .ok)) ∨
      ∃ db reply, mysqlQuery s.tables query f.first = (db, .gone) ∧
        mysqlQuery db query f.second = (s'.tables, reply) ∧ ok = (reply == .ok) := by
  unfold executeSqlQuery at h
  by_cases hoffline : s.connected = false ∧ f.connects = false
  · rw [if_pos hoffline] at h
    cases h
    exact Or.inl ⟨rfl, rfl⟩
  · rw [if_neg hoffline] at h
    split at h
    · next db hq =>
      cases h
      exact Or.inr (Or.inl ⟨_, hq, rfl⟩)
    · next db hq =>
      cases h
      exact Or.inr (Or.inl ⟨_, hq, rfl⟩)
    · next db hq =>
      by_cases hagain : f.reconnects = true
      · rw [if_pos hagain] at h
        cases h
        exact Or.inr (Or.inr ⟨db, _, hq, rfl, rfl⟩)
      · rw [if_neg hagain] at h
        cases h
        exact Or.inr (Or.inl ⟨_, hq, rfl⟩)

/-- A successful query has been executed. -/
lemma executeSqlQuery_true (h : executeSqlQuery s query f = (true, s')) :
    query.exec s.tables = some s'.tables := by
  rcases executeSqlQuery_spec h with ⟨hok, -⟩ | ⟨reply, hq, hok⟩ | ⟨db, reply, hfirst, hq, hok⟩
  · cases hok
  · obtain rfl : reply = .ok := by simpa using hok.symm
    exact mysqlQuery_ok hq
  · obtain rfl : reply = .ok := by simpa using hok.symm
    have hlost := mysqlQuery_not_ok hfirst (by decide)
    exact exec_again (hlost.imp_right And.right) (mysqlQuery_ok hq)

/-- A failed query has been executed only if the connection was lost with it. -/
lemma executeSqlQuery_false (h : executeSqlQuery s query f = (false, s')) :
    s'.tables = s.tables ∨ f.Lost ∧ query.exec s.tables = some s'.tables := by
  rcases executeSqlQuery_spec h with ⟨-, rfl⟩ | ⟨reply, hq, hok⟩ | ⟨db, reply, hfirst, hq, hok⟩
  · exact Or.inl rfl
  · have hreply : reply ≠ .ok := by simpa using hok.symm
    exact (mysqlQuery_not_ok hq hreply).imp_right fun hlost => ⟨Or.inl hlost.1, hlost.2⟩
  · have hreply : reply ≠ .ok := by simpa using hok.symm
    have hlost := mysqlQuery_not_ok hfirst (by decide)
    rcases mysqlQuery_not_ok hq hreply with hsame | ⟨hagain, hexec⟩
    · rw [hsame]
      exact hlost.imp_right fun hlost => ⟨Or.inl hlost.1, hlost.2⟩
    · exact Or.inr ⟨Or.inr hagain, exec_again (hlost.imp_right And.right) hexec⟩

/-- A successful call has executed its queries. -/
lemma executeSqlQueries_true (h : executeSqlQueries s queries fs = (true, s')) :
    executeAll s.tables queries = some s'.tables := by
  induction queries generalizing s fs with
  | nil =>
    cases h
    rfl
  | cons query queries ih =>
    unfold executeSqlQueries at h
    split at h
    · next s₁ hq => rw [executeAll, executeSqlQuery_true hq, Option.bind_some, ih h]
    · cases h

/-- A failed call has executed some of its queries, and possibly the one that failed. -/
lemma executeSqlQueries_false (h : executeSqlQueries s queries fs = (false, s')) :
    ∃ done query rest db, queries = done ++ query :: rest ∧ executeAll s.tables done = some db ∧
      (s'.tables = db ∨ (fs done.length).Lost ∧ query.exec db = some s'.tables) := by
  induction queries generalizing s fs with
  | nil => cases h
  | cons query queries ih =>
    unfold executeSqlQueries at h
    split at h
    · next s₁ hq =>
      obtain ⟨done, query', rest, db, rfl, hdone, hlast⟩ := ih h
      refine ⟨query :: done, query', rest, db, rfl, ?_, hlast⟩
      rw [executeAll, executeSqlQuery_true hq, Option.bind_some, hdone]
    · next s₁ hq =>
      cases h
      exact ⟨[], query, queries, s.tables, rfl, rfl, executeSqlQuery_false hq⟩

end MediaServer.Db
