import SipForward.MediaServer.Providers
import SipForward.System.Forwarding

/-!
# The endpoints for providers and their numbers

An endpoint reads its arguments from the body of a request, checks that they are not empty, and
hands them to `DbManager`, which puts them into the texts of its queries as they are. What a call
removes is stated for ids that are compared exactly.
-/

namespace MediaServer.Db

open Core Quoting Sql LoadBalancer

/-! ### Reading a request -/

/-- How an endpoint fares with a body: an exception or a check answers it, or a call is made. -/
inductive Answer where
  | internalError (message : String) (e : Exception)
  | badRequest (message : String)
  | call (c : Call)

/-- `json::parse` of a body that is an object. -/
def parse (members : List Member) : Except Exception Unit :=
  if Json.readableMembers members then .ok () else .error .parseError

/-- `body.value(name, std::string())`. -/
def valueString (members : List Member) (name : String) : Except Exception String :=
  match Json.lookupLast name members with
  | none   => .ok ""
  | some _ => getString members name

def parseYesNoBool (v : Json) (defaultValue : Bool) : Bool :=
  match v with
  | .bool b   => b
  | .string s =>
    let s := s.decode.toLower
    if s = "yes" ∨ s = "true" ∨ s = "1" then true
    else if s = "no" ∨ s = "false" ∨ s = "0" then false
    else defaultValue
  | _         => defaultValue

/-- The member `registration`, or `register` if there is none. -/
def withRegistration (members : List Member) : Bool :=
  match Json.lookupLast "registration" members with
  | some v => parseYesNoBool v false
  | none   =>
    match Json.lookupLast "register" members with
    | some v => parseYesNoBool v false
    | none   => false

/-- The text with which an endpoint refuses the arguments of a call. -/
def Call.refusal : Call → Option String
  | .addProvider providerName username password domain port _ =>
    if providerName = "" ∨ username = "" ∨ password = "" ∨ domain = "" then
      some "Missing required fields"
    else if port ≤ 0 ∨ port > 65535 then
      some "Invalid port number (must be between 1 and 65535)"
    else none
  | .addDid trunkName did providerId answerWebhookUrl =>
    if trunkName = "" ∨ did = "" ∨ providerId = "" ∨ answerWebhookUrl = "" then
      some "Missing required fields"
    else none
  | .removeProvider trunkName => if trunkName = "" then some "Missing trunk_name" else none
  | .removeDid didId => if didId = "" then some "Missing provider_id" else none

/-- What comes of the call that was read, or of the exception on the way to it. -/
def respond (message : String) : Except Exception Call → Answer
  | .error e => .internalError message e
  | .ok c    =>
    match c.refusal with
    | some text => .badRequest text
    | none      => .call c

def addProviderEndpoint (ofDouble : Number → Int) (env : Env) (members : List Member) : Answer :=
  respond "Error adding provider: " do
    parse members
    let providerName ← valueString members "provider_name"
    let username ← getString members "username"
    let password ← getString members "password"
    let domain ← getString members "domain"
    let port ← getInt ofDouble members "port" (atoi ((env "ASTERISK_PORT").getD "5060"))
    pure (.addProvider providerName username password domain port (withRegistration members))

def addDidEndpoint (members : List Member) : Answer :=
  respond "Error adding DID: " do
    parse members
    let trunkName ← getString members "trunk_name"
    let did ← getString members "did"
    let providerId ← getString members "provider_id"
    let answerWebhookUrl ← getString members "answer_webhook_url"
    pure (.addDid trunkName did providerId answerWebhookUrl)

def removeProviderEndpoint (members : List Member) : Answer :=
  respond "Error removing provider: " do
    parse members
    let trunkName ← getString members "trunk_name"
    pure (.removeProvider trunkName)

/-- The member is called `provider_id`, but it is the id of a number. -/
def removeDidEndpoint (members : List Member) : Answer :=
  respond "Error removing DID: " do
    parse members
    let didId ← getString members "provider_id"
    pure (.removeDid didId)

/-- A request to an endpoint, with the members of its body. -/
inductive Request where
  | addProvider (members : List Member)
  | addDid (members : List Member)
  | removeProvider (members : List Member)
  | removeDid (members : List Member)

def Request.handle (ofDouble : Number → Int) (env : Env) : Request → Answer
  | .addProvider members    => addProviderEndpoint ofDouble env members
  | .addDid members         => addDidEndpoint members
  | .removeProvider members => removeProviderEndpoint members
  | .removeDid members      => removeDidEndpoint members

/-! ### What a call should mean -/

/-- The strings that are put into the queries of a call. -/
def Call.arguments : Call → List String
  | .addProvider providerName username password domain _ _ =>
    [providerName, username, password, domain]
  | .addDid trunkName did providerId answerWebhookUrl =>
    [trunkName, did, providerId, answerWebhookUrl]
  | .removeProvider trunkName => [trunkName]
  | .removeDid didId => [didId]

/-- The rows that a call that removes is about. -/
def Call.removes : Call → Table → Row → Bool
  | .removeProvider trunkName, t, r => rowOf trunkName t r
  | .removeDid didId, t, r          => t = .psProviderDids ∧ r "id" = .str didId
  | _, _, _                         => false

/-- The server finds in every text the statement that is meant, with the arguments in its literals;
and nothing but what a call is about is removed. -/
structure Call.Meant (c : Call) : Prop where
  read : ∀ query ∈ c.queries, Quoting.read .code (cString (query.text schema)) =
    some (query.tokens schema)
  removed : c.adds = false → ∀ db db' : Tables, executeAll db c.queries = some db' →
    ∀ t, ∀ r ∈ db.rows t, r ∉ db'.rows t → c.removes t r = true

variable {c : Call} {query : Query} {p username password domain : String} {port : Int}
  {trunkName did answerWebhookUrl message : String} {db db' : Tables}

/-! ### What a server reads in the queries -/

lemma plain_append {s t : String} (hs : Plain s.toList) (ht : Plain t.toList) :
    Plain (s ++ t).toList := by
  rw [String.toList_append]
  exact hs.append ht

lemma plain_toString (n : Int) : Plain (toString n).toList :=
  plain_of_ordinary fun _ hc => ordinary_of_mem_toString hc

/-- The names of the columns are all that matters in the values of an insertion. -/
lemma clean_insert {t : Table} {values : List (String × Value)}
    (ht : Sql.Clean (schema.name t).toList)
    (hnames : ∀ name ∈ values.map Prod.fst, Sql.Clean name.toList) :
    Statement.Clean schema (.insert t values) :=
  ⟨ht, fun v hv => hnames v.1 (List.mem_map_of_mem hv)⟩

lemma clean_queries (c : Call) : ∀ query ∈ c.queries, query.Clean schema := by
  cases c with
  | addProvider p username password domain port withRegistration =>
    refine forall_addProvider ?_ ?_ ?_ ?_
    · refine clean_insert (by decide) ?_
      simp only [List.map_cons, List.map_nil]
      decide
    · refine clean_insert (by decide) ?_
      simp only [List.map_cons, List.map_nil]
      decide
    · refine clean_insert (by decide) ?_
      simp only [List.map_cons, List.map_nil]
      decide
    · refine clean_insert (by decide) ?_
      simp only [List.map_cons, List.map_nil]
      decide
  | addDid trunkName did p answerWebhookUrl =>
    refine forall_addDid ?_ ⟨?_, by decide⟩
    · refine clean_insert (by decide) ?_
      simp only [List.map_cons, List.map_nil]
      decide
    · refine clean_insert (by decide) ?_
      simp only [List.map_cons, List.map_nil]
      decide
  | removeProvider p =>
    refine forall_removeProvider ?_ ?_ ?_ ?_ ?_ ?_
    · exact ⟨by decide, by decide⟩
    · exact ⟨by decide, by decide⟩
    · exact ⟨by decide, by decide⟩
    · exact ⟨by decide, by decide⟩
    · exact ⟨by decide, by decide⟩
    · exact ⟨by decide, by decide⟩
  | removeDid didId => exact forall_removeDid ⟨by decide, by decide⟩

/-- The literals of a query stand for themselves. -/
def Faithful (query : Query) : Prop := ∀ s ∈ query.literals, Plain s.toList

lemma faithful_iff {literals : List String} (h : query.literals = literals) :
    Faithful query ↔ ∀ s ∈ literals, Plain s.toList := by
  rw [Faithful, h]

lemma faithful_authQuery (hp : Plain p.toList) (husername : Plain username.toList)
    (hpassword : Plain password.toList) : Faithful (authQuery p username password) := by
  have hliterals : (authQuery p username password).literals =
      [p ++ "_auth", "userpass", username, password, ""] := rfl
  rw [faithful_iff hliterals]
  simp only [List.forall_mem_cons]
  exact ⟨plain_append hp (by decide), by decide, husername, hpassword, by decide, by simp⟩

lemma plain_address (hdomain : Plain domain.toList) (port : Int) :
    Plain ("sip:" ++ domain ++ ":" ++ toString port).toList := by
  refine plain_append (plain_append (plain_append ?_ hdomain) ?_) (plain_toString port)
  · decide
  · decide

lemma plain_mailbox (husername : Plain username.toList) (hdomain : Plain domain.toList) :
    Plain (username ++ "@" ++ domain).toList :=
  plain_append (plain_append husername (by decide)) hdomain

lemma plain_uri (husername : Plain username.toList) (hdomain : Plain domain.toList) :
    Plain ("sip:" ++ username ++ "@" ++ domain).toList :=
  plain_append (plain_append (plain_append (by decide) husername) (by decide)) hdomain

lemma faithful_aorQuery (hp : Plain p.toList) (hdomain : Plain domain.toList) (port : Int) :
    Faithful (aorQuery p domain port) := by
  have hliterals : (aorQuery p domain port).literals =
      [p ++ "_aor", "sip:" ++ domain ++ ":" ++ toString port, "yes"] := rfl
  rw [faithful_iff hliterals]
  simp only [List.forall_mem_cons]
  exact ⟨plain_append hp (by decide), plain_address hdomain port, by decide, by simp⟩

lemma literals_endpointQuery (p username domain : String) :
    (endpointQuery p username domain).literals =
      [p, "transport-udp", p ++ "_aor", "from-trunk", "all", "ulaw", "yes", "yes", "yes", "yes",
        "no", domain, p ++ "_auth", username ++ "@" ++ domain,
        "sip:" ++ username ++ "@" ++ domain, "yes", "from-trunk", username, "yes", "yes",
        "reinvite", "reinvite", "no"] := rfl

lemma faithful_endpointQuery (hp : Plain p.toList) (husername : Plain username.toList)
    (hdomain : Plain domain.toList) : Faithful (endpointQuery p username domain) := by
  rw [faithful_iff (literals_endpointQuery p username domain)]
  simp only [List.forall_mem_cons]
  exact ⟨hp, by decide, plain_append hp (by decide), by decide, by decide, by decide, by decide,
    by decide, by decide, by decide, by decide, hdomain, plain_append hp (by decide),
    plain_mailbox husername hdomain, plain_uri husername hdomain, by decide, by decide, husername,
    by decide, by decide, by decide, by decide, by decide, by simp⟩

lemma faithful_regQuery (hp : Plain p.toList) (husername : Plain username.toList)
    (hdomain : Plain domain.toList) (port : Int) : Faithful (regQuery p username domain port) := by
  have hliterals : (regQuery p username domain port).literals =
      [p ++ "_registration", "sip:" ++ username ++ "@" ++ domain ++ ":" ++ toString port, username,
        "sip:" ++ domain ++ ":" ++ toString port, "transport-udp", p ++ "_auth", "yes", "yes",
        p] := rfl
  have hclient : Plain ("sip:" ++ username ++ "@" ++ domain ++ ":" ++ toString port).toList :=
    plain_append (plain_append (plain_uri husername hdomain) (by decide)) (plain_toString port)
  rw [faithful_iff hliterals]
  simp only [List.forall_mem_cons]
  exact ⟨plain_append hp (by decide), hclient, husername, plain_address hdomain port, by decide,
    plain_append hp (by decide), by decide, by decide, hp, by simp⟩

/-- An argument is put into literals with nothing but plain text around it. -/
lemma faithful_of_arguments (h : ∀ s ∈ c.arguments, Plain s.toList) :
    ∀ query ∈ c.queries, Faithful query := by
  cases c with
  | addProvider p username password domain port withRegistration =>
    simp only [Call.arguments, List.forall_mem_cons] at h
    obtain ⟨hp, husername, hpassword, hdomain, -⟩ := h
    refine forall_addProvider ?_ ?_ ?_ ?_
    · exact faithful_authQuery hp husername hpassword
    · exact faithful_aorQuery hp hdomain port
    · exact faithful_endpointQuery hp husername hdomain
    · exact faithful_regQuery hp husername hdomain port
  | addDid trunkName did p answerWebhookUrl =>
    refine forall_addDid h ?_
    intro s hs
    refine h s (List.mem_cons_of_mem _ (List.mem_cons_of_mem _ ?_))
    exact hs
  | removeProvider p =>
    have hp : Plain p.toList := h p List.mem_cons_self
    refine forall_removeProvider ?_ ?_ ?_ ?_ ?_ ?_
    · exact h
    · exact h
    · exact h
    · exact List.forall_mem_singleton.mpr (plain_append hp (by decide))
    · exact List.forall_mem_singleton.mpr (plain_append hp (by decide))
    · exact h
  | removeDid didId => exact forall_removeDid h

/-- Every argument is also a literal by itself. -/
lemma arguments_of_faithful (h : ∀ query ∈ c.queries, Faithful query) :
    ∀ s ∈ c.arguments, Plain s.toList := by
  cases c with
  | addProvider p username password domain port withRegistration =>
    have hauth := h (authQuery p username password) (by simp [Call.queries])
    have hendpoint := h (endpointQuery p username domain) (by simp [Call.queries])
    rw [faithful_iff (literals_endpointQuery p username domain)] at hendpoint
    simp only [Call.arguments, List.forall_mem_cons]
    refine ⟨hendpoint p (by simp), hauth username ?_, hauth password ?_, hendpoint domain ?_, ?_⟩
    · simp [authQuery, Statement.literals, Value.literals]
    · simp [authQuery, Statement.literals, Value.literals]
    · simp
    · simp
  | addDid trunkName did p answerWebhookUrl =>
    exact h (didQuery trunkName did p answerWebhookUrl) (by simp [Call.queries])
  | removeProvider p =>
    exact h (.delete .psProviderDids "provider_id" p)
      (by simp [Call.queries, removeProviderQueries])
  | removeDid didId => exact h (.delete .psProviderDids "id" didId) (by simp [Call.queries])

/-! ### What is removed -/

/-- A call that removes is about its own rows. -/
lemma within_removes (hadds : c.adds = false) :
    ∀ query ∈ c.queries, query.Within schema c.removes := by
  cases c with
  | addProvider | addDid => cases hadds
  | removeProvider p => exact within_of_on (decide_eq_true rfl)
  | removeDid didId =>
    exact forall_removeDid (within_delete (by decide) fun r hr => decide_eq_true ⟨rfl, hr⟩)

lemma removed_of_within {mine : Table → Row → Bool} {queries : List Query}
    (hw : ∀ query ∈ queries, query.Within schema mine) (h : executeAll db queries = some db')
    {t : Table} {r : Row} (hr : r ∈ db.rows t) (hgone : r ∉ db'.rows t) : mine t r = true := by
  by_contra hnot
  have hkept : r ∈ (db.without mine).rows t := Database.mem_without.mpr ⟨hr, by simpa using hnot⟩
  rw [← executeAll_within hw h] at hkept
  exact hgone (Database.mem_without.mp hkept).1

/-! ### The requests that are accepted -/

lemma respond_call {read : Except Exception Call} (h : respond message read = .call c) :
    c.refusal = none := by
  unfold respond at h
  split at h
  · cases h
  · next c' =>
    split at h
    · cases h
    · next hrefusal =>
      cases h
      exact hrefusal

/-- A body with the arguments of a call. -/
def Call.request : Call → Request
  | .addProvider providerName username password domain port withRegistration =>
    .addProvider
      [stringMember "provider_name" providerName, stringMember "username" username,
        stringMember "password" password, stringMember "domain" domain,
        (Text.ofString "port", .number (.integer port)),
        (Text.ofString "registration", .bool withRegistration)]
  | .addDid trunkName did providerId answerWebhookUrl =>
    .addDid
      [stringMember "trunk_name" trunkName, stringMember "did" did,
        stringMember "provider_id" providerId,
        stringMember "answer_webhook_url" answerWebhookUrl]
  | .removeProvider trunkName => .removeProvider [stringMember "trunk_name" trunkName]
  | .removeDid didId          => .removeDid [stringMember "provider_id" didId]

lemma respond_ok (message : String) (h : c.refusal = none) : respond message (.ok c) = .call c := by
  simp only [respond, h]

lemma castInt_port {ofDouble : Number → Int} (h : 0 < port ∧ port ≤ 65535) :
    castInt ofDouble (.integer port) = port := by
  have hrange : -9223372036854775808 ≤ port ∧ port ≤ 18446744073709551615 := by omega
  rw [castInt, if_pos hrange]
  exact Int.bmod_eq_of_le (by omega) (by omega)

/-- An endpoint makes every call that has nothing to refuse, and no other. -/
theorem accepted_iff (ofDouble : Number → Int) (env : Env) (c : Call) :
    (∃ request : Request, request.handle ofDouble env = .call c) ↔ c.refusal = none := by
  constructor
  · rintro ⟨request, h⟩
    cases request with
    | addProvider | addDid | removeProvider | removeDid => exact respond_call h
  · intro h
    refine ⟨c.request, ?_⟩
    cases c with
    | addProvider p username password domain port registered =>
      have hport : 0 < port ∧ port ≤ 65535 := by
        simp only [Call.refusal] at h
        split_ifs at h
        omega
      have hfinite : (Number.integer port).overflows = false :=
        integer_not_overflows ⟨by omega, by omega⟩
      refine (congrArg (respond _) ?_).trans (respond_ok _ h)
      simp [parse, valueString, getString, getInt, withRegistration, parseYesNoBool, stringMember,
        Json.lookupLast, Json.readableMembers, Json.readable, hfinite,
        castInt_port hport]
      rfl
    | addDid trunkName did p answerWebhookUrl =>
      refine (congrArg (respond _) ?_).trans (respond_ok _ h)
      simp [parse, getString, stringMember, Json.lookupLast, Json.readableMembers, Json.readable]
      rfl
    | removeProvider p =>
      refine (congrArg (respond _) ?_).trans (respond_ok _ h)
      simp [parse, getString, stringMember, Json.lookupLast, Json.readableMembers, Json.readable]
      rfl
    | removeDid didId =>
      refine (congrArg (respond _) ?_).trans (respond_ok _ h)
      simp [parse, getString, stringMember, Json.lookupLast, Json.readableMembers, Json.readable]
      rfl

/-- The queries of a call are read as they are meant if and only if every argument stands for
itself. -/
theorem meant_iff (c : Call) : c.Meant ↔ ∀ s ∈ c.arguments, Plain s.toList := by
  have hread : ∀ query ∈ c.queries,
      (Quoting.read .code (cString (query.text schema)) = some (query.tokens schema) ↔
        Faithful query) :=
    fun query hquery => Statement.read_text_iff (clean_queries c query hquery)
  constructor
  · intro hmeant
    exact arguments_of_faithful fun query hquery =>
      (hread query hquery).mp (hmeant.read query hquery)
  · intro hplain
    refine ⟨fun query hquery => ?_, fun hadds db db' hexec t r hr hgone => ?_⟩
    · exact (hread query hquery).mpr (faithful_of_arguments hplain query hquery)
    · exact removed_of_within (within_removes hadds) hexec hr hgone

/-- The name of a number may end its literal. -/
theorem number_not_meant : ¬∀ (ofDouble : Number → Int) (env : Env) (request : Request) (c : Call),
    request.handle ofDouble env = .call c → c.Meant := by
  intro hall
  have hmeant := hall (fun _ => 0) (fun _ => none)
    (.removeDid [stringMember "provider_id" "x' OR '1'='1"]) (.removeDid "x' OR '1'='1") rfl
  have hread := hmeant.read _ (List.mem_singleton_self _)
  have hother : Quoting.read .code (cString ((Statement.delete Table.psProviderDids "id"
      "x' OR '1'='1").text schema)) ≠
        some ((Statement.delete Table.psProviderDids "id" "x' OR '1'='1").tokens schema) := by
    decide +kernel
  exact hother hread

end MediaServer.Db
