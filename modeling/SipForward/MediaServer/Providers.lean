import SipForward.MediaServer.DbManager

/-!
# Adding and removing providers

A call that fails leaves the tables as some of its queries have made them. A call that succeeds has
executed all of them, so the tables after calls that succeed do not depend on the faults on the way;
and a provider that is removed leaves the tables as if it had never been there.
-/

namespace MediaServer.Db

open Core Sql

variable {s s' : Session} {query : Query} {queries : List Query} {fs : ℕ → Fault}
  {db db' : Tables} {c : Call} {p q : String} {t : Table}

/-! ### The queries of a call -/

lemma forall_addProvider {P : Query → Prop} {username password domain : String} {port : Int}
    {withRegistration : Bool} (hauth : P (authQuery p username password))
    (haor : P (aorQuery p domain port)) (hendpoint : P (endpointQuery p username domain))
    (hreg : P (regQuery p username domain port)) :
    ∀ query ∈ (Call.addProvider p username password domain port withRegistration).queries,
      P query := by
  intro query hquery
  simp only [Call.queries, List.mem_append, List.mem_cons, List.not_mem_nil, or_false] at hquery
  rcases hquery with (rfl | rfl | rfl) | hquery
  · exact hauth
  · exact haor
  · exact hendpoint
  · split_ifs at hquery
    · obtain rfl := List.mem_singleton.mp hquery
      exact hreg
    · cases hquery

lemma forall_addDid {P : Query → Prop} {trunkName did answerWebhookUrl : String}
    (hdid : P (didQuery trunkName did p answerWebhookUrl))
    (hwebhook : P (webhookQuery p answerWebhookUrl)) :
    ∀ query ∈ (Call.addDid trunkName did p answerWebhookUrl).queries, P query := by
  intro query hquery
  simp only [Call.queries, List.mem_cons, List.not_mem_nil, or_false] at hquery
  rcases hquery with rfl | rfl
  · exact hdid
  · exact hwebhook

lemma forall_removeProvider {P : Query → Prop}
    (hdids : P (.delete .psProviderDids "provider_id" p))
    (hwebhooks : P (.delete .trunkWebhooks "trunk_id" p))
    (hregs : P (.delete .psRegistrations "endpoint" p))
    (haors : P (.delete .psAors "id" (p ++ "_aor")))
    (hauths : P (.delete .psAuths "id" (p ++ "_auth")))
    (hendpoints : P (.delete .psEndpoints "id" p)) :
    ∀ query ∈ (Call.removeProvider p).queries, P query := by
  intro query hquery
  simp only [Call.queries, removeProviderQueries, List.mem_cons, List.not_mem_nil, or_false]
    at hquery
  rcases hquery with rfl | rfl | rfl | rfl | rfl | rfl
  · exact hdids
  · exact hwebhooks
  · exact hregs
  · exact haors
  · exact hauths
  · exact hendpoints

lemma forall_removeDid {P : Query → Prop} {didId : String}
    (hdid : P (.delete .psProviderDids "id" didId)) :
    ∀ query ∈ (Call.removeDid didId).queries, P query := by
  intro query hquery
  obtain rfl := List.mem_singleton.mp hquery
  exact hdid

/-! ### Calls that fail -/

/-- A call that adds rows; its first query inserts one. -/
def Call.adds : Call → Bool
  | .addProvider .. => true
  | .addDid ..      => true
  | _               => false

lemma length_rows_add {row : Row} (hnew : ¬db.HasKey t (row (schema.primaryKey t))) (t' : Table) :
    ((db.add t row hnew).rows t').length =
      (db.rows t').length + if t' = t then 1 else 0 := by
  by_cases ht : t' = t
  · subst ht
    simp [Database.rows_add_self]
  · simp [Database.rows_add_of_ne ht, ht]

lemma length_rows_insert {row : Row} (h : db.insert t row = some db') (t' : Table) :
    (db'.rows t').length = (db.rows t').length + if t' = t then 1 else 0 := by
  obtain ⟨hnew, -, -, rfl⟩ := Database.insert_spec h
  exact length_rows_add hnew t'

/-- A query that inserts. -/
def Inserts : Query → Bool
  | .delete .. => false
  | _          => true

lemma length_rows_le (hq : Inserts query = true) (h : query.exec db = some db') (t : Table) :
    (db.rows t).length ≤ (db'.rows t).length := by
  cases query with
  | insert t' values =>
    rw [length_rows_insert h t]
    exact Nat.le_add_right _ _
  | upsert t' values c =>
    rcases Database.upsert_spec h with ⟨-, hc, rfl⟩ | hinsert
    · by_cases ht : t = t'
      · subst ht
        rw [Database.rows_overwrite_self, List.length_map]
      · rw [Database.rows_overwrite_of_ne ht]
    · rw [length_rows_insert hinsert t]
      exact Nat.le_add_right _ _
  | delete t' c value => cases hq

lemma length_rows_executeAll_le (hq : ∀ query ∈ queries, Inserts query = true)
    (h : executeAll db queries = some db') (t : Table) :
    (db.rows t).length ≤ (db'.rows t).length :=
  executeAll_invariant (I := fun db₁ => (db.rows t).length ≤ (db₁.rows t).length) h
    (Nat.le_refl _) fun query hquery _ _ hexec hle =>
      Nat.le_trans hle (length_rows_le (hq query hquery) hexec t)

/-- A deletion leaves some of the rows. -/
lemma sublist_rows_of_delete (hq : Inserts query = false) (h : query.exec db = some db')
    (t : Table) : (db'.rows t).Sublist (db.rows t) := by
  cases query with
  | insert t' values => cases hq
  | upsert t' values c => cases hq
  | delete t' c value =>
    obtain ⟨-, rfl⟩ := Database.delete_spec h
    exact List.filter_sublist

lemma sublist_rows_executeAll (hq : ∀ query ∈ queries, Inserts query = false)
    (h : executeAll db queries = some db') (t : Table) : (db'.rows t).Sublist (db.rows t) :=
  executeAll_invariant (I := fun db₁ => (db₁.rows t).Sublist (db.rows t)) h (List.Sublist.refl _)
    fun query hquery _ _ hexec hsub =>
      (sublist_rows_of_delete (hq query hquery) hexec t).trans hsub

/-- Deletions that come back to the same tables have each changed nothing. -/
lemma exec_of_executeAll_deletes (hq : ∀ query ∈ queries, Inserts query = false)
    (h : executeAll db queries = some db) : ∀ query ∈ queries, query.exec db = some db := by
  intro query hmem
  obtain ⟨before, after, db₁, db₂, rfl, hbefore, hexec, hafter⟩ := executeAll_around h hmem
  have hhead := sublist_rows_executeAll (fun q hq' => hq q (by simp [hq'])) hbefore
  have hquery := sublist_rows_of_delete (hq query hmem) hexec
  have htail := sublist_rows_executeAll (fun q hq' => hq q (by simp [hq'])) hafter
  have hsame₁ : db₁ = db := by
    ext1
    funext t
    exact (hhead t).antisymm ((htail t).trans (hquery t))
  have hsame₂ : db₂ = db := by
    ext1
    funext t
    exact ((hquery t).trans (hhead t)).antisymm (htail t)
  rwa [hsame₁, hsame₂] at hexec

lemma executeAll_of_exec (h : ∀ query ∈ queries, query.exec db = some db) :
    executeAll db queries = some db := by
  induction queries with
  | nil => rfl
  | cons query queries ih =>
    rw [executeAll, h query List.mem_cons_self, Option.bind_some]
    exact ih fun q hq => h q (List.mem_cons_of_mem query hq)

lemma inserts_of_adds (hc : c.adds = true) : ∀ query ∈ c.queries, Inserts query = true := by
  cases c with
  | addProvider => exact forall_addProvider rfl rfl rfl rfl
  | addDid => exact forall_addDid rfl rfl
  | removeProvider => cases hc
  | removeDid => cases hc

lemma not_inserts_of_not_adds (hc : c.adds = false) :
    ∀ query ∈ c.queries, Inserts query = false := by
  cases c with
  | addProvider => cases hc
  | addDid => cases hc
  | removeProvider => exact forall_removeProvider rfl rfl rfl rfl rfl rfl
  | removeDid => exact forall_removeDid rfl

/-- The first query of a call that adds rows. -/
lemma head_of_adds (hc : c.adds = true) :
    ∃ t values rest, c.queries = .insert t values :: rest := by
  cases c with
  | addProvider | addDid => exact ⟨_, _, _, rfl⟩
  | removeProvider trunkName => cases hc
  | removeDid didId => cases hc

/-- The first of the queries inserts a row and none of them deletes one: the tables are as before if
and only if none was executed, the last one included. -/
lemma same_iff_of_inserts {done rest : List Query} {db₁ : Tables} {values : List (String × Value)}
    (hq : ∀ q ∈ query :: done, Inserts q = true)
    (hhead : done ++ query :: rest = .insert t values :: queries)
    (hdone : executeAll db done = some db₁) (hlast : db' = db₁ ∨ query.exec db₁ = some db') :
    db' = db ↔ done = [] ∧ db' = db₁ := by
  constructor
  · intro hsame
    cases done with
    | nil =>
      cases hdone
      exact ⟨rfl, hsame⟩
    | cons first done =>
      exfalso
      obtain rfl : first = .insert t values := (List.cons.inj hhead).1
      obtain ⟨db₂, h₂, hdone⟩ := Option.bind_eq_some_iff.mp hdone
      have hfirst := length_rows_insert h₂ t
      have hrest := length_rows_executeAll_le (fun q hq' => hq q (by simp [hq'])) hdone t
      have hend : (db₁.rows t).length ≤ (db'.rows t).length := by
        rcases hlast with hdb | hexec
        · rw [hdb]
        · exact length_rows_le (hq query List.mem_cons_self) hexec t
      rw [hsame] at hend
      rw [if_pos rfl] at hfirst
      omega
  · rintro ⟨rfl, hdb⟩
    cases hdone
    exact hdb

/-- None of the queries inserts a row: the tables are as before if and only if those that were
executed changed nothing, the last one included. -/
lemma same_iff_of_deletes {done : List Query} {db₁ : Tables}
    (hq : ∀ q ∈ query :: done, Inserts q = false) (hdone : executeAll db done = some db₁)
    (hlast : db' = db₁ ∨ query.exec db₁ = some db') :
    db' = db ↔ (∀ q ∈ done, q.exec db = some db) ∧ db' = db₁ := by
  have hdeletes : ∀ q ∈ done, Inserts q = false := fun q hq' => hq q (List.mem_cons_of_mem _ hq')
  constructor
  · intro hsame
    have hall : ∀ t, (db.rows t).Sublist (db₁.rows t) := by
      intro t
      rw [← hsame]
      rcases hlast with hdb | hexec
      · rw [hdb]
      · exact sublist_rows_of_delete (hq query List.mem_cons_self) hexec t
    have hdb : db₁ = db := by
      ext1
      funext t
      exact (sublist_rows_executeAll hdeletes hdone t).antisymm (hall t)
    subst hdb
    exact ⟨exec_of_executeAll_deletes hdeletes hdone, hsame⟩
  · rintro ⟨hkept, hdb⟩
    rw [executeAll_of_exec hkept] at hdone
    cases hdone
    exact hdb

/-- A call that fails has executed a first part of its queries, and the query after it if the
connection was lost with it. The tables are as before if and only if nothing that was executed
changed them; a call that adds rows must have executed nothing. -/
theorem failed_call (h : c.perform s fs = (false, s')) :
    ∃ done query rest db, c.queries = done ++ query :: rest ∧
      executeAll s.tables done = some db ∧
      (s'.tables = db ∨ (fs done.length).Lost ∧ query.exec db = some s'.tables) ∧
      (s'.tables = s.tables ↔
        (if c.adds then done = [] else ∀ q ∈ done, q.exec s.tables = some s.tables) ∧
          s'.tables = db) := by
  rw [Call.perform_eq] at h
  obtain ⟨done, query, rest, db, hqueries, hdone, hlast⟩ := executeSqlQueries_false h
  refine ⟨done, query, rest, db, hqueries, hdone, hlast, ?_⟩
  have hmem : ∀ q ∈ query :: done, q ∈ c.queries := by
    intro q hq
    rw [hqueries]
    rcases List.mem_cons.mp hq with rfl | hq
    · exact List.mem_append_right _ List.mem_cons_self
    · exact List.mem_append_left _ hq
  have hlast' : s'.tables = db ∨ query.exec db = some s'.tables := hlast.imp_right And.right
  cases hadds : c.adds with
  | true =>
    obtain ⟨t, values, queries, hhead⟩ := head_of_adds hadds
    rw [if_pos rfl]
    exact same_iff_of_inserts (fun q hq => inserts_of_adds hadds q (hmem q hq))
      (hqueries.symm.trans hhead) hdone hlast'
  | false =>
    rw [if_neg Bool.false_ne_true]
    exact same_iff_of_deletes (fun q hq => not_inserts_of_not_adds hadds q (hmem q hq)) hdone
      hlast'

/-- The second query is refused. -/
def secondRefused (n : ℕ) : Fault :=
  if n = 1 then { Fault.none with first := .refused } else Fault.none

theorem failed_call_sample :
    let acme := Call.addProvider "acme" "user" "secret" "sip.acme.example" 5060 false
    let s' := (acme.perform ⟨noRows, true⟩ secondRefused).2
    ∃ done query rest db, acme.queries = done ++ query :: rest ∧
      executeAll noRows done = some db ∧
      (s'.tables = db ∨ (secondRefused done.length).Lost ∧ query.exec db = some s'.tables) ∧
      (s'.tables = noRows ↔
        (if acme.adds then done = [] else ∀ q ∈ done, q.exec noRows = some noRows) ∧
          s'.tables = db) :=
  failed_call (s := ⟨noRows, true⟩) (Prod.ext (by decide +kernel) rfl)

/-- The credentials of a provider stay when its address is refused. -/
theorem provider_half_added : ¬∀ (s s' : Session)
    (providerName username password domain : String) (port : Int) (withRegistration : Bool)
    (fs : ℕ → Fault),
    addProvider s providerName username password domain port withRegistration fs = (false, s') →
      s'.tables = s.tables := by
  intro h
  have hsame := h ⟨noRows, true⟩ _ "acme" "user" "secret" "sip.acme.example" 5060 false
    secondRefused (Prod.ext (by decide +kernel) rfl)
  have hrows : ((addProvider ⟨noRows, true⟩ "acme" "user" "secret" "sip.acme.example" 5060 false
      secondRefused).2.tables.rows .psAuths).length = 1 := by
    decide +kernel
  exact absurd ((congrArg (fun db : Tables => (db.rows .psAuths).length) hsame).symm.trans hrows)
    (by decide)

/-! ### Calls that succeed -/

/-- A call that succeeds. -/
def step {S : Schema Table} (s : Session S) (call : Call × (ℕ → Fault)) : Option (Session S) :=
  match call.1.perform s call.2 with
  | (true, s)  => some s
  | (false, _) => none

/-- The tables after calls without faults. -/
def performAll (db : Tables) : List Call → Option Tables
  | []         => some db
  | c :: calls => (executeAll db c.queries).bind fun db => performAll db calls

lemma step_spec {S : Schema Table} {s s' : Session S} {call : Call × (ℕ → Fault)}
    (h : step s call = some s') :
    executeAll s.tables call.1.queries = some s'.tables := by
  unfold step at h
  split at h
  · next s₁ hc =>
    cases h
    rw [Call.perform_eq] at hc
    exact executeSqlQueries_true hc
  · cases h

/-! ### The rows of a provider -/

/-- A row of the provider `p`. -/
def rowOf (p : String) : Table → Row → Bool
  | .psEndpoints, r     => r "id" = .str p
  | .psAors, r          => r "id" = .str (p ++ "_aor")
  | .psAuths, r         => r "id" = .str (p ++ "_auth")
  | .trunkWebhooks, r   => r "trunk_id" = .str p
  | .psRegistrations, r => r "endpoint" = .str p ∨ r "id" = .str (p ++ "_registration")
  | .psProviderDids, r  => r "provider_id" = .str p

/-- A call for the provider `p`. A number is removed without its provider being named. -/
def Call.on (p : String) : Call → Bool
  | .addProvider providerName .. => providerName = p
  | .addDid _ _ providerId _     => providerId = p
  | .removeProvider trunkName    => trunkName = p
  | .removeDid _                 => false

lemma forall_foreignKeys {P : ForeignKey Table → Prop} :
    (∀ fk ∈ schema.foreignKeys, P fk) ↔
      P ⟨.trunkWebhooks, "trunk_id", .psEndpoints, true⟩ ∧
        P ⟨.psProviderDids, "provider_id", .psEndpoints, false⟩ := by
  simp [schema]

lemma ne_of_eq_str {v : Value} (hq : q ≠ p) (hv : v = .str q) : v ≠ .str p := by
  rintro rfl
  exact hq (Value.str.inj hv).symm

/-- Most tables have no foreign key. -/
lemma apart_insert {values : List (String × Value)}
    (ht : ∀ fk ∈ schema.foreignKeys, fk.table ≠ t) (hrow : rowOf p t (Row.of values) = false) :
    Statement.Apart schema (rowOf p) (.insert t values) :=
  ⟨hrow, fun fk hfk h => absurd h (ht fk hfk)⟩

lemma apart_delete {column value : String} (ht : t ≠ .psEndpoints) :
    Statement.Apart schema (rowOf p) (.delete t column value) :=
  forall_foreignKeys.mpr ⟨fun h => absurd h.symm ht, fun h => absurd h.symm ht⟩

/-- Of the rows of an endpoint of another name none is of `p`. -/
lemma refers_apart {r : Row} (hq : q ≠ p) (hr : r "id" = .str q) :
    rowOf p .psEndpoints r = false :=
  decide_eq_false (ne_of_eq_str hq hr)

/-- The queries for another provider are apart from the rows of `p`. -/
lemma apart_of_not_on (hc : c.on p = false) :
    ∀ query ∈ c.queries, query.Apart schema (rowOf p) := by
  cases c with
  | addProvider q username password domain port withRegistration =>
    have hq : q ≠ p := by simpa [Call.on] using hc
    refine forall_addProvider (apart_insert (by decide) ?_) (apart_insert (by decide) ?_)
      (apart_insert (by decide) ?_) (apart_insert (by decide) ?_)
    · simpa [rowOf, Row.of, List.lookup_cons] using hq
    · simpa [rowOf, Row.of, List.lookup_cons] using hq
    · simpa [rowOf, Row.of, List.lookup_cons] using hq
    · simpa [rowOf, Row.of, List.lookup_cons] using hq
  | addDid trunkName did q answerWebhookUrl =>
    have hq : q ≠ p := by simpa [Call.on] using hc
    refine forall_addDid ⟨?_, ?_⟩ ⟨?_, ?_, ?_⟩
    · simpa [rowOf, Row.of, List.lookup_cons] using hq
    · exact forall_foreignKeys.mpr ⟨fun h => (by cases h), fun _ r hr => refers_apart hq hr⟩
    · simpa [rowOf, Row.of, List.lookup_cons] using hq
    · exact forall_foreignKeys.mpr ⟨fun _ r hr => refers_apart hq hr, fun h => (by cases h)⟩
    · intro r hr
      have hne : r "trunk_id" ≠ .str p := ne_of_eq_str hq hr
      refine ⟨decide_eq_false hne, decide_eq_false ?_⟩
      rw [Function.update_of_ne (by decide)]
      exact hne
  | removeProvider q =>
    have hq : q ≠ p := by simpa [Call.on] using hc
    refine forall_removeProvider (apart_delete (by decide)) (apart_delete (by decide))
      (apart_delete (by decide)) (apart_delete (by decide)) (apart_delete (by decide)) ?_
    refine forall_foreignKeys.mpr ⟨fun _ _ gone r hgone hmine _ => ?_, fun _ hcascade => ?_⟩
    · rw [refers_apart hq hgone] at hmine
      cases hmine
    · cases hcascade
  | removeDid didId => exact forall_removeDid (apart_delete (by decide))

lemma within_delete {mine : Table → Row → Bool} {column value : String} (ht : t ≠ .psEndpoints)
    (hrows : ∀ r : Row, r column = .str value → mine t r = true) :
    Statement.Within schema mine (.delete t column value) :=
  ⟨hrows, forall_foreignKeys.mpr ⟨fun h => absurd h.symm ht, fun h => absurd h.symm ht⟩⟩

/-- The queries for `p` are about the rows of `p`. -/
lemma within_of_on (hc : c.on p = true) : ∀ query ∈ c.queries, query.Within schema (rowOf p) := by
  cases c with
  | addProvider q username password domain port withRegistration =>
    obtain rfl : q = p := by simpa [Call.on] using hc
    refine forall_addProvider ?_ ?_ ?_ ?_
    · exact decide_eq_true rfl
    · exact decide_eq_true rfl
    · exact decide_eq_true rfl
    · exact decide_eq_true (Or.inl rfl)
  | addDid trunkName did q answerWebhookUrl =>
    obtain rfl : q = p := by simpa [Call.on] using hc
    refine forall_addDid ?_ ⟨?_, ?_⟩
    · exact decide_eq_true rfl
    · exact decide_eq_true rfl
    · intro r hr
      refine ⟨decide_eq_true hr, decide_eq_true ?_⟩
      rw [Function.update_of_ne (by decide)]
      exact hr
  | removeProvider q =>
    obtain rfl : q = p := by simpa [Call.on] using hc
    refine forall_removeProvider (within_delete (by decide) ?_) (within_delete (by decide) ?_)
      (within_delete (by decide) ?_) (within_delete (by decide) ?_) (within_delete (by decide) ?_)
      ⟨?_, ?_⟩
    · exact fun r hr => decide_eq_true hr
    · exact fun r hr => decide_eq_true hr
    · exact fun r hr => decide_eq_true (Or.inl hr)
    · exact fun r hr => decide_eq_true hr
    · exact fun r hr => decide_eq_true hr
    · exact fun r hr => decide_eq_true hr
    · refine forall_foreignKeys.mpr ⟨fun _ _ gone r hgone hkey => ?_, fun _ hcascade => ?_⟩
      · exact decide_eq_true (hkey.symm.trans hgone)
      · cases hcascade
  | removeDid didId => cases hc

/-! ### Without the rows of a provider -/

lemma executeAll_apart {mine : Table → Row → Bool}
    (ha : ∀ query ∈ queries, query.Apart schema mine) (h : executeAll db queries = some db') :
    executeAll (db.without mine) queries = some (db'.without mine) := by
  induction queries generalizing db with
  | nil =>
    cases h
    rfl
  | cons query queries ih =>
    obtain ⟨db₁, h₁, h⟩ := Option.bind_eq_some_iff.mp h
    rw [executeAll, Statement.exec_apart (ha query List.mem_cons_self) h₁, Option.bind_some]
    exact ih (fun q hq => ha q (List.mem_cons_of_mem query hq)) h

/-- Without the rows of `p`, calls that succeed do the same as those of them that are not for
`p`. -/
lemma run_without {calls : List (Call × (ℕ → Fault))} (hr : run step s calls = some s') :
    performAll (s.tables.without (rowOf p)) ((calls.map (·.1)).filter fun c => !c.on p) =
      some (s'.tables.without (rowOf p)) := by
  induction calls generalizing s with
  | nil =>
    cases hr
    rfl
  | cons call calls ih =>
    obtain ⟨s₁, h₁, hr⟩ := Option.bind_eq_some_iff.mp hr
    have hexec := step_spec h₁
    rw [List.map_cons, List.filter_cons]
    cases hon : call.1.on p with
    | true =>
      simp only [Bool.not_true, Bool.false_eq_true, if_false]
      rw [← executeAll_within (within_of_on hon) hexec]
      exact ih hr
    | false =>
      simp only [Bool.not_false, if_true]
      rw [performAll, executeAll_apart (apart_of_not_on hon) hexec, Option.bind_some]
      exact ih hr

lemma without_eq_self {mine : Table → Row → Bool}
    (h : ∀ t, ∀ r ∈ db.rows t, mine t r = false) : db.without mine = db := by
  ext1
  funext t
  rw [Database.without, Database.rows_filter, List.filter_eq_self]
  intro r hr
  rw [h t r hr]
  rfl

/-! ### Nothing is left -/

/-- A registration has the name of its endpoint. -/
def Named (p : String) (r : Row) : Prop :=
  r "id" = .str (p ++ "_registration") → r "endpoint" = .str p

lemma namesRegistration (c : Call) (p : String) :
    ∀ query ∈ c.queries, query.Writes schema .psRegistrations (Named p) := by
  cases c with
  | addProvider q username password domain port withRegistration =>
    refine forall_addProvider ?_ ?_ ?_ ?_
    · intro ht
      cases ht
    · intro ht
      cases ht
    · intro ht
      cases ht
    · intro _ hid
      have hname : q ++ "_registration" = p ++ "_registration" := Value.str.inj hid
      obtain rfl : q = p := by simpa using hname
      rfl
  | addDid trunkName did q answerWebhookUrl =>
    refine forall_addDid ?_ ?_
    · intro ht
      cases ht
    · intro ht
      cases ht
  | removeProvider q => exact forall_removeProvider trivial trivial trivial trivial trivial trivial
  | removeDid didId => exact forall_removeDid trivial

/-- A deletion leaves no row with the value. -/
lemma ne_of_delete {column value : String}
    (h : (Statement.delete t column value : Query).exec db = some db') :
    ∀ r ∈ db'.rows t, r column ≠ .str value := by
  intro r hr hvalue
  obtain ⟨-, rfl⟩ := Database.delete_spec h
  have hgoes : db.Goes t column value t r := Or.inl ⟨rfl, hvalue⟩
  have hkept := (List.mem_filter.mp hr).2
  simp [hgoes] at hkept

/-- Nor do the deletions after it bring one back. -/
lemma ne_of_executeAll (hq : ∀ query ∈ queries, Inserts query = false)
    (h : executeAll db queries = some db') {column value : String}
    (hmem : .delete t column value ∈ queries) : ∀ r ∈ db'.rows t, r column ≠ .str value := by
  obtain ⟨before, after, db₁, db₂, rfl, -, hexec, hafter⟩ := executeAll_around h hmem
  have htail := sublist_rows_executeAll (fun q hq' => hq q (by simp [hq'])) hafter t
  exact fun r hr => ne_of_delete hexec r (htail.subset hr)

/-- After its removal a provider has no rows. -/
lemma no_rows_of_removeProvider (h : executeAll db (removeProviderQueries p) = some db')
    (hnamed : ∀ r ∈ db.rows .psRegistrations, Named p r) :
    ∀ t, ∀ r ∈ db'.rows t, rowOf p t r = false := by
  have hdeletes : ∀ query ∈ removeProviderQueries p, Inserts query = false :=
    not_inserts_of_not_adds (c := .removeProvider p) rfl
  intro t r hr
  cases t with
  | psEndpoints =>
    exact decide_eq_false (ne_of_executeAll hdeletes h (by simp [removeProviderQueries]) r hr)
  | psAors =>
    exact decide_eq_false (ne_of_executeAll hdeletes h (by simp [removeProviderQueries]) r hr)
  | psAuths =>
    exact decide_eq_false (ne_of_executeAll hdeletes h (by simp [removeProviderQueries]) r hr)
  | trunkWebhooks =>
    exact decide_eq_false (ne_of_executeAll hdeletes h (by simp [removeProviderQueries]) r hr)
  | psProviderDids =>
    exact decide_eq_false (ne_of_executeAll hdeletes h (by simp [removeProviderQueries]) r hr)
  | psRegistrations =>
    have hendpoint : r "endpoint" ≠ .str p :=
      ne_of_executeAll hdeletes h (by simp [removeProviderQueries]) r hr
    have hnamed' := executeAll_forall (namesRegistration (.removeProvider p) p) h hnamed r hr
    exact decide_eq_false (not_or.mpr ⟨hendpoint, fun hid => hendpoint (hnamed' hid)⟩)

lemma named_run {calls : List (Call × (ℕ → Fault))} (hr : run step s calls = some s')
    (hs : ∀ r ∈ s.tables.rows .psRegistrations, Named p r) :
    ∀ r ∈ s'.tables.rows .psRegistrations, Named p r := by
  refine run_invariant' (I := fun s => ∀ r ∈ s.tables.rows .psRegistrations, Named p r)
    (fun s call s' hs h => ?_) hs hr
  exact executeAll_forall (namesRegistration call.1 p) (step_spec h) hs

/-- A provider that had no rows is removed after any calls that succeed, for itself and for others,
whatever faults they came through. It has no rows then, and the tables are those that the other
calls alone give. -/
theorem removeProvider_undoes {calls : List (Call × (ℕ → Fault))}
    (hfresh : ∀ t, ∀ r ∈ s.tables.rows t, rowOf p t r = false)
    (hr : run step s (calls ++ [(.removeProvider p, fs)]) = some s') :
    (∀ t, ∀ r ∈ s'.tables.rows t, rowOf p t r = false) ∧
      performAll s.tables ((calls.map (·.1)).filter fun c => !c.on p) = some s'.tables := by
  have hnone : ∀ t, ∀ r ∈ s'.tables.rows t, rowOf p t r = false := by
    rw [run_concat] at hr
    obtain ⟨s₁, h₁, hlast⟩ := Option.bind_eq_some_iff.mp hr
    refine no_rows_of_removeProvider (step_spec hlast) (named_run h₁ ?_)
    intro r hrow hid
    have := hfresh .psRegistrations r hrow
    simp [rowOf, hid] at this
  refine ⟨hnone, ?_⟩
  have hwithout := run_without (p := p) hr
  rw [without_eq_self hfresh, without_eq_self hnone, List.map_append,
    List.filter_append] at hwithout
  simpa [Call.on] using hwithout

/-- A provider with a registration and a number, and another one that is added in between. -/
theorem removeProvider_undoes_sample :
    let calls : List (Call × (ℕ → Fault)) :=
      [(.addProvider "acme" "user" "secret" "sip.acme.example" 5060 true, fun _ => Fault.none),
        (.addProvider "bell" "line" "word" "sip.bell.example" 5080 false, fun _ => Fault.none),
        (.addDid "trunk-1" "4930123456" "acme" "https://backend/answer", fun _ => Fault.none),
        (.addDid "trunk-2" "4930654321" "bell" "https://backend/answer", fun _ => Fault.none)]
    ∃ s', run step ⟨noRows, true⟩ (calls ++ [(.removeProvider "acme", fun _ => Fault.none)]) =
        some s' ∧
      (∀ t, ∀ r ∈ s'.tables.rows t, rowOf "acme" t r = false) ∧
      performAll noRows ((calls.map (·.1)).filter fun c => !c.on "acme") = some s'.tables := by
  intro calls
  obtain ⟨s', hr⟩ := Option.isSome_iff_exists.mp (show (run step ⟨noRows, true⟩
    (calls ++ [(.removeProvider "acme", fun _ => Fault.none)])).isSome = true by decide +kernel)
  exact ⟨s', hr, removeProvider_undoes (s := ⟨noRows, true⟩) (fun t r hrow => by cases hrow) hr⟩

end MediaServer.Db
