import SipForward.MediaServer.AnswerWebhook
import SipForward.MediaServer.Providers
import SipForward.System.Inbound

/-!
# From a number that was added to the webhook that is told of its calls

`/add-did` writes a row that two others read: Asterisk, to find the trunk of a call that comes in
for the number, and the media server that gets the call, to find the webhook that answers it. In
between the number goes through the headers of an INVITE.
-/

/-! ### The row of a number -/

namespace MediaServer.Db

open Core Sql

/-- The row that `/add-did` writes. -/
def didRow (trunkName did providerId answerWebhookUrl : String) : Row :=
  Row.of [("id", .str trunkName), ("did", .str did), ("provider_id", .str providerId),
    ("answer_webhook_url", .str answerWebhookUrl)]

/-- The row is the only one of its number. -/
def OnlyRow (row : Row) (db : Tables) : Prop :=
  (db.rows .psProviderDids).filter (fun r => r "did" = row "did") = [row]

/-- A query that neither adds a row of the same number nor deletes the row. -/
def Spares (row : Row) : Query → Prop
  | .insert t values  => t = .psProviderDids → Row.of values "did" ≠ row "did"
  | .upsert t _ _     => t ≠ .psProviderDids
  | .delete t c value => t = .psProviderDids → row c ≠ .str value

/-- A call that neither adds the number again nor removes it or its provider. -/
def Call.Spares (trunkName did providerId : String) : Call → Prop
  | .addProvider ..           => True
  | .addDid _ did' _ _        => did' ≠ did
  | .removeProvider trunkName' => trunkName' ≠ providerId
  | .removeDid didId          => didId ≠ trunkName

/-- Calls one after the other, whether they succeed or not. -/
def performs (s : Session) : List (Call × (ℕ → Fault)) → Session
  | []            => s
  | call :: calls => performs (call.1.perform s call.2).2 calls

variable {s s' : Session} {query : Query} {queries : List Query} {f : Fault} {fs : ℕ → Fault}
  {db db' : Tables} {c : Call} {row : Row} {calls : List (Call × (ℕ → Fault))} {ok : Bool}
  {trunkName did providerId answerWebhookUrl : String}

lemma OnlyRow.exec (hq : Spares row query) (h : query.exec db = some db') (hdb : OnlyRow row db) :
    OnlyRow row db' := by
  have hadd : ∀ {t : Table} {new : Row}, (t = .psProviderDids → new "did" ≠ row "did") →
      db.insert t new = some db' → OnlyRow row db' := by
    intro t new hnew h
    obtain ⟨hkey, -, -, rfl⟩ := Database.insert_spec h
    by_cases ht : Table.psProviderDids = t
    · subst ht
      rw [OnlyRow, Database.rows_add_self, List.filter_append, hdb]
      simp [hnew rfl]
    · rw [OnlyRow, Database.rows_add_of_ne ht]
      exact hdb
  cases query with
  | insert t values => exact hadd hq h
  | upsert t values column =>
    rcases Database.upsert_spec h with ⟨-, hcolumn, rfl⟩ | hinsert
    · rw [OnlyRow, Database.rows_overwrite_of_ne (Ne.symm hq)]
      exact hdb
    · exact hadd (fun ht => absurd ht hq) hinsert
  | delete t column value =>
    obtain ⟨-, rfl⟩ := Database.delete_spec h
    have hstays : ¬db.Goes t column value .psProviderDids row := by
      rintro (⟨rfl, hvalue⟩ | ⟨fk, hfk, htable, hcascade, -⟩)
      · exact hq rfl hvalue
      · -- the key of this table does not cascade
        simp only [schema, List.mem_cons, List.not_mem_nil, or_false] at hfk
        rcases hfk with rfl | rfl
        · cases htable
        · cases hcascade
    rw [OnlyRow] at hdb ⊢
    rw [Database.rows_filter, List.filter_filter]
    have hswap : ∀ p q : Row → Bool, ((db.rows .psProviderDids).filter fun r => p r && q r) =
        ((db.rows .psProviderDids).filter p).filter q := by
      intro p q
      simp only [List.filter_filter, Bool.and_comm]
    rw [hswap, hdb]
    simp [hstays]

lemma spares_webhookQuery : Spares row (webhookQuery providerId answerWebhookUrl) := by
  intro ht
  cases ht

/-- A query leaves the tables or has been executed. -/
lemma executeSqlQuery_or (h : executeSqlQuery s query f = (ok, s')) :
    s'.tables = s.tables ∨ query.exec s.tables = some s'.tables := by
  cases ok with
  | true => exact Or.inr (executeSqlQuery_true h)
  | false => exact (executeSqlQuery_false h).imp_right And.right

lemma OnlyRow.executes (hq : ∀ query ∈ queries, Spares row query) (hs : OnlyRow row s.tables) :
    OnlyRow row (executeSqlQueries s queries fs).2.tables := by
  induction queries generalizing s fs with
  | nil => exact hs
  | cons query queries ih =>
    rw [executeSqlQueries]
    have hone : ∀ ok s', executeSqlQuery s query (fs 0) = (ok, s') → OnlyRow row s'.tables := by
      intro ok s' h
      rcases executeSqlQuery_or h with hsame | hexec
      · rw [hsame]
        exact hs
      · exact hs.exec (hq query List.mem_cons_self) hexec
    split
    · next s' h => exact ih (fun q hmem => hq q (List.mem_cons_of_mem _ hmem)) (hone _ _ h)
    · next s' h => exact hone _ _ h

lemma Call.Spares.forall_queries (hc : c.Spares trunkName did providerId) :
    ∀ query ∈ c.queries, Db.Spares (didRow trunkName did providerId answerWebhookUrl) query := by
  have hother : ∀ {t : Table}, t ≠ .psProviderDids → ∀ {P : Prop}, t = .psProviderDids → P :=
    fun hne _ ht => absurd ht hne
  cases c with
  | addProvider =>
    exact forall_addProvider (hother (by decide)) (hother (by decide)) (hother (by decide))
      (hother (by decide))
  | addDid trunkName' did' providerId' answerWebhookUrl' =>
    refine forall_addDid (fun _ hsame => ?_) spares_webhookQuery
    exact hc (Value.str.inj hsame)
  | removeProvider trunkName' =>
    refine forall_removeProvider (fun _ hsame => ?_) (hother (by decide)) (hother (by decide))
      (hother (by decide)) (hother (by decide)) (hother (by decide))
    exact hc (Value.str.inj hsame).symm
  | removeDid didId =>
    refine forall_removeDid (fun _ hsame => ?_)
    exact hc (Value.str.inj hsame).symm

/-- The row stays through all other calls, and through their faults. -/
lemma OnlyRow.performs (hcalls : ∀ call ∈ calls, call.1.Spares trunkName did providerId)
    (hs : OnlyRow (didRow trunkName did providerId answerWebhookUrl) s.tables) :
    OnlyRow (didRow trunkName did providerId answerWebhookUrl) (Db.performs s calls).tables := by
  induction calls generalizing s with
  | nil => exact hs
  | cons call calls ih =>
    refine ih (fun other hmem => hcalls other (List.mem_cons_of_mem _ hmem)) ?_
    rw [Call.perform_eq]
    exact hs.executes (hcalls call List.mem_cons_self).forall_queries

/-- A number that was not there has one row when it has been added. -/
lemma onlyRow_addDid (hnew : ∀ r ∈ s.tables.rows .psProviderDids, r "did" ≠ .str did)
    (h : addDid s trunkName did providerId answerWebhookUrl fs = (true, s')) :
    OnlyRow (didRow trunkName did providerId answerWebhookUrl) s'.tables := by
  obtain ⟨db, hinsert, hrest⟩ := Option.bind_eq_some_iff.mp (executeSqlQueries_true h)
  obtain ⟨db', hupsert, hend⟩ := Option.bind_eq_some_iff.mp hrest
  cases hend
  have hdb : OnlyRow (didRow trunkName did providerId answerWebhookUrl) db := by
    obtain ⟨hkey, -, -, rfl⟩ := Database.insert_spec hinsert
    have hold : (s.tables.rows .psProviderDids).filter (fun r => r "did" = Value.str did) = [] := by
      simpa using hnew
    rw [OnlyRow, Database.rows_add_self, List.filter_append]
    refine (congrArg (· ++ _) hold).trans ?_
    simp [didRow]
  exact hdb.exec spares_webhookQuery hupsert

lemma OnlyRow.find (hdb : OnlyRow row db) :
    (db.rows .psProviderDids).find? (fun r => r "did" = row "did") = some row := by
  rw [← List.head?_filter, hdb]
  rfl

end MediaServer.Db

/-! ### A call for the number -/

namespace Asterisk

open Core LoadBalancer
open Core.Dialplan (Channel)
open MediaServer.Db (Session Call Fault Tables Table schema OnlyRow addDid didRow performs
  onlyRow_addDid)
open MediaServer.Incoming

variable {w : Core.Dialplan.World} {e : Chars} {redis : Redis} {scan : List (String × Bool)}
  {best : ServerMetadata} {m : Invite} {r : Routing} {o : Outside} {srv : Server}
  {s s₁ : Session} {fs : ℕ → Fault} {calls later : List (Call × (ℕ → Fault))} {db : Tables}
  {trunkName did providerId answerWebhookUrl : String}

def tables : List Table :=
  [.psEndpoints, .psAors, .psAuths, .trunkWebhooks, .psRegistrations, .psProviderDids]

/-- The tables as the dialplan sees them: the first row with a value in a field. -/
def realtimeOf (db : Tables) (family field : String) (value : Chars) : Option (String → Chars) := do
  let t ← tables.find? fun t => schema.name t = family
  let row ← (db.rows t).find? fun row => row field = .str (String.ofList value)
  some fun column => columnText (row column)

/-- A callback that gets to the webhook: libcurl and the database are there, with these tables. -/
structure Reaches (o : Outside) (srv : Server) (db : Tables) : Prop where
  tables : srv.db.tables = db
  curl : o.curl = true
  database : o.database = true
  connected : srv.db.connected = true ∨ o.fault.connects = true
  answered : o.fault.first = .answered

/-- The webhook at the URL, and no other, is told of the call, and the call is connected as it
responds. -/
def Told (o : Outside) (srv : Server) (r : Routing) (url : Chars)
    (res : MediaServer.Incoming.Result) : Prop :=
  ∃ body, res.posts = [(url, body)] ∧
    JsonText.parse body = some (.object (payload o.callId r)) ∧
    ∀ response websocketUrl webhookUrl, o.post url body = some response →
      Responds response websocketUrl webhookUrl → Answers o srv r websocketUrl webhookUrl res

lemma getWebhookUrl_eq (hreaches : Reaches o srv db)
    (hdb : OnlyRow (didRow trunkName did providerId answerWebhookUrl) db) :
    (getWebhookUrl srv.db did.toList o.fault).1 = answerWebhookUrl.toList := by
  have hoffline : ¬(srv.db.connected = false ∧ o.fault.connects = false) := by
    rintro ⟨hconnected, hconnects⟩
    rcases hreaches.connected with h | h
    · rw [hconnected] at h
      cases h
    · rw [hconnects] at h
      cases h
  have hrow : (srv.db.tables.rows .psProviderDids).find?
      (fun row => row "did" = .str (String.ofList did.toList)) =
        some (didRow trunkName did providerId answerWebhookUrl) := by
    rw [hreaches.tables, String.ofList_toList]
    exact hdb.find
  simp only [getWebhookUrl, MediaServer.Db.executeSelectQuery, if_neg hoffline, hreaches.answered,
    hrow]
  rfl

/-- A call with the number goes to the webhook of the row. -/
lemma told_of_routing (hrouting : onIncomingCall m.msg = .ok r) (hr : r.toNumber = did.toList)
    (htest : r.trunkName ≠ "test_sipp".toList) (hreaches : Reaches o srv db)
    (hdb : OnlyRow (didRow trunkName did providerId answerWebhookUrl) db) :
    Told o srv r (answerUrl answerWebhookUrl.toList) (MyAccount.onIncomingCall o srv m.msg) := by
  have hurl : (getWebhookUrl srv.db r.toNumber o.fault).1 = answerWebhookUrl.toList := by
    rw [hr]
    exact getWebhookUrl_eq hreaches hdb
  have hposts : (lookup o srv.db r).posts = [(answerUrl answerWebhookUrl.toList,
      JsonText.Encoder.nlohmann.value (.object (payload o.callId r)))] := by
    rw [lookup, if_neg htest, if_neg (by simp [hreaches.curl]),
      if_neg (by simp [hreaches.database]), ← hurl]
    simp only
    split <;> rfl
  have hres : ∀ found, (lookup o srv.db r).found = found →
      (MyAccount.onIncomingCall o srv m.msg).posts = (lookup o srv.db r).posts := by
    intro found hfound
    rw [MyAccount.onIncomingCall, hrouting]
    cases found with
    | error e => simp only [hfound, reject]
    | ok urls => simp only [hfound]
  refine ⟨_, (hres _ rfl).trans hposts, parse_payload o.callId r, ?_⟩
  intro response websocketUrl webhookUrl hresponse hresponds
  have hconnects : Connects o srv.db r websocketUrl webhookUrl := by
    rw [Connects, if_neg htest, hurl]
    exact ⟨hreaches.curl, hreaches.database, response, hresponse, hresponds⟩
  have hfound := lookup_ok_iff.mpr hconnects
  rw [MyAccount.onIncomingCall, hrouting]
  simp only [hfound]
  exact ⟨rfl, rfl, rfl⟩

/-- The row of the number is what the dialplan finds. -/
lemma inboundRow_did (hdb : OnlyRow (didRow trunkName did providerId answerWebhookUrl) db)
    (hw : w.realtime = realtimeOf db) (htrunk : trunkName ≠ "") :
    inboundRow w did.toList = some (trunkName.toList, did.toList) := by
  have hcolumn : column w "ps_provider_dids" "did" did.toList "id" = trunkName.toList := by
    have hrow : (db.rows .psProviderDids).find?
        (fun row => row "did" = .str (String.ofList did.toList)) =
          some (didRow trunkName did providerId answerWebhookUrl) := by
      rw [String.ofList_toList]
      exact hdb.find
    have htable : tables.find? (fun t => schema.name t = "ps_provider_dids") =
        some .psProviderDids := by decide
    rw [column, hw, realtimeOf, htable]
    simp only [Option.bind_eq_bind, Option.bind_some, hrow]
    rfl
  have hne : trunkName.toList ≠ [] := fun h => htrunk (String.toList_eq_nil_iff.mp h)
  rw [inboundRow, hcolumn, if_pos hne]

/-- The tables with a provider, before its number is added. -/
def sampleProvider : Session :=
  (MediaServer.Db.addProvider ⟨MediaServer.Db.noRows, true⟩ "tata" "919240" "secret" "sip.example"
    5060 true fun _ => Fault.none).2

/-- The tables with its number. -/
def sampleNumber : Session :=
  (addDid sampleProvider "7" "00919240292847" "tata" "https://answer.example" fun _ => Fault.none).2

/-- Another number is removed. -/
def sampleCalls : List (Call × (ℕ → Fault)) := [(.removeDid "8", fun _ => Fault.none)]

/-- What the dialplan is answered then. -/
def sampleLookups : Core.Dialplan.World where
  realtime := realtimeOf (performs sampleNumber sampleCalls).tables
  curl _ := inboundContact sampleService
  answers _ := true

lemma plain_lookups : PlainInbound sampleLookups "00919240292847".toList :=
  ⟨⟨⟨'0', '0', "919240292847".toList, rfl, Or.inl rfl⟩, by decide⟩, by decide +kernel,
    by decide +kernel, by decide +kernel, by decide +kernel⟩

end Asterisk
