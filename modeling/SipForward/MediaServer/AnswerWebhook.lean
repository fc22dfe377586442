import SipForward.Core.JsonPrint
import SipForward.MediaServer.CallRequests
import SipForward.MediaServer.Endpoints
import SipForward.MediaServer.IncomingCall

/-!
# The answer to an incoming call

After the check of the numbers `onIncomingCall` looks up the answer webhook of the number that was
called, posts the call to it, and reads from the response where the call is connected to. Then it is
answered; what throws before that rejects it.
-/

namespace MediaServer.Incoming

open Core JsonText
open CallRequests (Failure Manager SipCall)

/-! ### The webhook -/

/-- A column of a row as `mysql_fetch_row` gives it; NULL reads as empty. -/
def columnText : Sql.Value → Chars
  | .null  => []
  | .str s => s.toList
  | .num n => (toString n).toList

/-- The query of `getWebhookUrl`. -/
def webhookQuery (number : Chars) : List Quoting.Piece :=
  [.code "SELECT answer_webhook_url FROM ps_provider_dids WHERE did = ".toList, .literal number]

/-- `DbManager::getWebhookUrl`, with the session after it. -/
def getWebhookUrl (s : Db.Session) (number : Chars) (f : Db.Fault) : Chars × Db.Session :=
  let select (db : Db.Tables) : Option Sql.Row :=
    (db.rows .psProviderDids).find? fun row => row "did" = .str (String.ofList number)
  match Db.executeSelectQuery s select f with
  | (some (some row), s) => (columnText (row "answer_webhook_url"), s)
  | (_, s)               => ([], s)

/-- `ans_webhook_url`. -/
def answerUrl (found : Chars) : Chars :=
  if found = [] then "https://api.vocallabs.ai/sip-answer-webhook".toList else found

/-- The members of `payload`. -/
def payload (callId : String) (r : Routing) : List Member :=
  [(Text.ofString "call_id", .string (Text.ofString callId)),
    (Text.ofString "from_number", .string (r.fromNumber.map some)),
    (Text.ofString "to_number", .string (r.toNumber.map some)),
    (Text.ofString "trunk_name", .string (r.trunkName.map some))]

/-- `json::parse`, of any text. -/
def parseJson (body : Text) : Except Failure Json :=
  match parse body with
  | some v => if v.readable then .ok v else .error (.read .parseError)
  | none   => .error (.read .parseError)

/-- `websocket_url` and `webhook_url` in the response. -/
def readResponse (body : Text) : Except Failure (String × String) :=
  match parseJson body with
  | .error e               => .error e
  | .ok (.object members)  => do
    let websocketUrl ← (Db.valueString members "websocket_url").mapError .read
    let webhookUrl ← (Db.valueString members "webhook_url").mapError .read
    if websocketUrl = "" then .error (.runtimeError "Empty websocket_url in response")
    else .ok (websocketUrl, webhookUrl)
  | .ok v                  => .error (.read (.typeError "object" v.typeName))

/-! ### The callback -/

/-- What comes from outside: the identifier of the call, whether libcurl and the manager of the
database are there, what happens to the query, what a URL responds to a body, and whether the call
can be answered and rejected. -/
structure Outside where
  callId : String
  curl : Bool
  database : Bool
  fault : Db.Fault
  post : Chars → Text → Option Text
  answers : Bool
  rejects : Bool

structure Server where
  manager : Manager
  db : Db.Session

/-- Where a call is to be connected to, what was posted, and the session with the database. -/
structure Lookup where
  found : Except Failure (String × String)
  posts : List (Chars × Text)
  db : Db.Session

def lookup (o : Outside) (db : Db.Session) (r : Routing) : Lookup :=
  if r.trunkName = "test_sipp".toList then
    ⟨.ok ("wss://call-in.vocallabs.ai/wstest", ""), [], db⟩
  else if o.curl = false then ⟨.error (.runtimeError "Failed to initialize CURL"), [], db⟩
  else if o.database = false then
    ⟨.error (.runtimeError "Failed to connect to MySQL database"), [], db⟩
  else
    let (found, db) := getWebhookUrl db r.toNumber o.fault
    let body := Encoder.nlohmann.value (.object (payload o.callId r))
    match o.post (answerUrl found) body with
    | none          =>
      ⟨.error (.runtimeError "Curl request failed"), [(answerUrl found, body)], db⟩
    | some response => ⟨readResponse response, [(answerUrl found, body)], db⟩

/-- What has come of a callback: the final responses to the INVITE, and whether an exception that is
no `std::exception` has left it. -/
structure Result where
  server : Server
  posts : List (Chars × Text)
  responses : List ℕ
  escaped : Bool

/-- The temporary call; what it throws is caught. -/
def reject (o : Outside) (s : Server) (posts : List (Chars × Text)) : Result :=
  ⟨s, posts, if o.rejects then [500] else [], false⟩

def newCall (r : Routing) (websocketUrl webhookUrl : String) : SipCall :=
  ⟨[], websocketUrl, webhookUrl, String.ofList r.trunkName, 8000, false⟩

/-- `MyAccount::onIncomingCall`. -/
def MyAccount.onIncomingCall (o : Outside) (s : Server) (msg : Chars) : Result :=
  match Incoming.onIncomingCall msg with
  | .error _ => reject o s []
  | .ok r    =>
    let l := lookup o s.db r
    match l.found with
    | .error _                        => reject o ⟨s.manager, l.db⟩ l.posts
    | .ok (websocketUrl, webhookUrl) =>
      let manager :=
        (s.manager.setActive o.callId (some (newCall r websocketUrl webhookUrl))).count 1
      ⟨⟨manager, l.db⟩, l.posts, if o.answers then [200] else [], !o.answers⟩

/-! ### When a call is answered -/

variable {o : Outside} {s : Server} {db : Db.Session} {f : Db.Fault} {r : Routing} {msg : Chars}
  {body : Text} {members : List Member} {name v websocketUrl webhookUrl : String}

/-- The response is an object with the URL to connect to; the other URL may be left out. -/
def Responds (body : Text) (websocketUrl webhookUrl : String) : Prop :=
  ∃ members, parse body = some (.object members) ∧ (Json.object members).readable = true ∧
    HasString members "websocket_url" websocketUrl ∧ websocketUrl ≠ "" ∧
    ((Json.lookupLast "webhook_url" members = none ∧ webhookUrl = "") ∨
      HasString members "webhook_url" webhookUrl)

/-- Where a call is connected to: as the webhook of its number responds, unless it is a test. -/
def Connects (o : Outside) (db : Db.Session) (r : Routing) (websocketUrl webhookUrl : String) :
    Prop :=
  if r.trunkName = "test_sipp".toList then
    websocketUrl = "wss://call-in.vocallabs.ai/wstest" ∧ webhookUrl = ""
  else
    o.curl = true ∧ o.database = true ∧ ∃ response,
      o.post (answerUrl (getWebhookUrl db r.toNumber o.fault).1)
        (Encoder.nlohmann.value (.object (payload o.callId r))) = some response ∧
      Responds response websocketUrl webhookUrl

/-- The call is listed and counted, and answered if it can be. An exception of the answer leaves the
callback with the call on the list. -/
structure Answers (o : Outside) (s : Server) (r : Routing) (websocketUrl webhookUrl : String)
    (res : Result) : Prop where
  manager : res.server.manager =
    (s.manager.setActive o.callId (some (newCall r websocketUrl webhookUrl))).count 1
  responses : res.responses = if o.answers then [200] else []
  escaped : res.escaped = !o.answers

/-- The manager is as before, and the call is rejected if it can be. -/
structure Refuses (o : Outside) (s : Server) (res : Result) : Prop where
  manager : res.server.manager = s.manager
  responses : res.responses = if o.rejects then [500] else []
  escaped : res.escaped = false

/-- What a callback asks of others. The query has the number as its one literal, whatever the
message is; at most one webhook is told of the call, in a body that reads as its payload; and the
tables stay as they are. -/
structure Asks (o : Outside) (s : Server) (msg : Chars) (res : Result) : Prop where
  query : ∀ r, Incoming.onIncomingCall msg = .ok r →
    Quoting.read .code (Quoting.cString ((webhookQuery r.toNumber).flatMap Quoting.Piece.text)) =
      some ((webhookQuery r.toNumber).flatMap Quoting.Piece.tokens)
  once : res.posts.length ≤ 1
  told : ∀ post ∈ res.posts, ∃ r, Incoming.onIncomingCall msg = .ok r ∧
    post.1 = answerUrl (getWebhookUrl s.db r.toNumber o.fault).1 ∧
    parse post.2 = some (.object (payload o.callId r))
  tables : res.server.db.tables = s.db.tables

lemma ok_of_bind {ε α β : Type} {x : Except ε α} {g : α → Except ε β} {b : β}
    (h : x >>= g = .ok b) : ∃ a, x = .ok a ∧ g a = .ok b := by
  cases x with
  | error e => cases h
  | ok a => exact ⟨a, rfl, h⟩

lemma valueString_ok_iff : Db.valueString members name = .ok v ↔
    (Json.lookupLast name members = none ∧ v = "") ∨ HasString members name v := by
  rw [Db.valueString]
  cases hfound : Json.lookupLast name members with
  | none => simp [HasString, hfound, eq_comm]
  | some w => simp [getString_ok_iff]

lemma parseJson_ok_iff {w : Json} :
    parseJson body = .ok w ↔ parse body = some w ∧ w.readable = true := by
  rw [parseJson]
  cases parse body with
  | none => simp
  | some w' =>
    by_cases hw : w'.readable = true
    · simp only [hw, if_true, Except.ok.injEq, Option.some.injEq]
      constructor
      · rintro rfl
        exact ⟨rfl, hw⟩
      · exact fun h => h.1
    · simp only [hw, if_false, reduceCtorEq, Option.some.injEq, false_iff]
      rintro ⟨rfl, hreadable⟩
      exact hw hreadable

lemma readResponse_ok_iff :
    readResponse body = .ok (websocketUrl, webhookUrl) ↔ Responds body websocketUrl webhookUrl := by
  have hread : ∀ {name v : String} {members : List Member},
      (Db.valueString members name).mapError Failure.read = .ok v ↔
        Db.valueString members name = .ok v := by
    intro name v members
    cases Db.valueString members name <;> simp [Except.mapError]
  constructor
  · intro h
    rw [readResponse] at h
    split at h
    · cases h
    · next members hparse =>
      obtain ⟨hmembers, hreadable⟩ := parseJson_ok_iff.mp hparse
      obtain ⟨u, hu, h⟩ := ok_of_bind h
      obtain ⟨w, hw, h⟩ := ok_of_bind h
      split_ifs at h with hempty
      cases h
      rcases valueString_ok_iff.mp (hread.mp hu) with ⟨-, rfl⟩ | hstring
      · exact absurd rfl hempty
      · exact ⟨members, hmembers, hreadable, hstring, hempty,
          valueString_ok_iff.mp (hread.mp hw)⟩
    · cases h
  · rintro ⟨members, hmembers, hreadable, hstring, hempty, hother⟩
    rw [readResponse, parseJson_ok_iff.mpr ⟨hmembers, hreadable⟩]
    show ((Db.valueString members "websocket_url").mapError Failure.read).bind _ = _
    rw [hread.mpr (valueString_ok_iff.mpr (Or.inr hstring))]
    show ((Db.valueString members "webhook_url").mapError Failure.read).bind _ = _
    rw [hread.mpr (valueString_ok_iff.mpr hother)]
    exact if_neg hempty

lemma lookup_ok_iff : (lookup o db r).found = .ok (websocketUrl, webhookUrl) ↔
    Connects o db r websocketUrl webhookUrl := by
  rw [lookup, Connects]
  split_ifs with htest hcurl hdatabase
  · simp [eq_comm]
  · simp [hcurl]
  · simp [hdatabase]
  · simp only [Bool.not_eq_false] at hcurl hdatabase
    simp only [hcurl, hdatabase, true_and]
    cases o.post (answerUrl (getWebhookUrl db r.toNumber o.fault).1)
        (Encoder.nlohmann.value (.object (payload o.callId r))) with
    | none => simp
    | some response => simp [readResponse_ok_iff]

/-! ### What is asked -/

lemma isNumberChar_of_accept {trunk caller : Chars} {number : Option Chars}
    (hnumber : ∀ n ∈ number, ∀ c ∈ n, isNumberChar c = true)
    (h : accept trunk number caller = .ok r) : ∀ c ∈ r.toNumber, isNumberChar c = true := by
  cases number with
  | none => cases h
  | some n =>
    rw [accept] at h
    split_ifs at h
    cases h
    exact hnumber n rfl

lemma isNumberChar_toNumber (h : Incoming.onIncomingCall msg = .ok r) :
    ∀ c ∈ r.toNumber, isNumberChar c = true := by
  refine isNumberChar_of_accept (fun n hn c hc => ?_) h
  obtain ⟨line, -, rfl⟩ := Option.map_eq_some_iff.mp hn
  exact (List.mem_filter.mp hc).2

lemma ordinary_of_isNumberChar {c : Char} (h : isNumberChar c = true) :
    Quoting.Ordinary c ∧ c ≠ '\x00' := by
  have hne : ∀ d : Char, isNumberChar d = false → c ≠ d := by
    rintro d hd rfl
    rw [h] at hd
    cases hd
  exact ⟨⟨hne _ (by decide), hne _ (by decide)⟩, hne _ (by decide)⟩

/-- Nothing in a message can change the meaning of the query. -/
lemma read_webhookQuery {number : Chars} (h : ∀ c ∈ number, isNumberChar c = true) :
    Quoting.read .code (Quoting.cString ((webhookQuery number).flatMap Quoting.Piece.text)) =
      some ((webhookQuery number).flatMap Quoting.Piece.tokens) := by
  have hcode : Sql.Clean "SELECT answer_webhook_url FROM ps_provider_dids WHERE did = ".toList := by
    decide
  have hsep : Quoting.Separated (webhookQuery number) :=
    ⟨hcode, by simp [Quoting.Follows], trivial⟩
  refine (Quoting.read_pieces_iff hsep).mpr fun w hw => ?_
  have hw' : w = number := by simpa [webhookQuery] using hw
  rw [hw']
  exact Quoting.plain_of_ordinary fun c hc => ordinary_of_isNumberChar (h c hc)

lemma tables_getWebhookUrl (db : Db.Session) (number : Chars) (f : Db.Fault) :
    (getWebhookUrl db number f).2.tables = db.tables := by
  have hselect : ∀ select : Db.Tables → Option Sql.Row,
      (Db.executeSelectQuery db select f).2.tables = db.tables := by
    intro select
    rw [Db.executeSelectQuery]
    cases f.first with
    | answered | refused => split_ifs <;> rfl
    | lost applied => split_ifs <;> rfl
  rw [← hselect fun db : Db.Tables =>
    (db.rows .psProviderDids).find? fun row => row "did" = .str (String.ofList number)]
  rw [getWebhookUrl]
  split
  · next h => rw [h]
  · next h => rw [h]

lemma parse_payload (callId : String) (r : Routing) :
    parse (Encoder.nlohmann.value (.object (payload callId r))) =
      some (.object (payload callId r)) := by
  have hchars : ∀ l : Chars, Text.wellFormed (l.map some) = true := by simp [Text.wellFormed]
  refine JsonText.parse_value _ ?_
  simp [payload, Json.writable, Json.writableMembers, hchars]

lemma posts_lookup : (lookup o db r).posts.length ≤ 1 ∧
    (∀ post ∈ (lookup o db r).posts, post.1 = answerUrl (getWebhookUrl db r.toNumber o.fault).1 ∧
      parse post.2 = some (.object (payload o.callId r))) ∧
    (lookup o db r).db.tables = db.tables := by
  rw [lookup]
  split_ifs
  · simp
  · simp
  · simp
  · simp only
    cases o.post (answerUrl (getWebhookUrl db r.toNumber o.fault).1)
      (Encoder.nlohmann.value (.object (payload o.callId r))) <;>
    simp [parse_payload, tables_getWebhookUrl]

lemma asks (o : Outside) (s : Server) (msg : Chars) :
    Asks o s msg (MyAccount.onIncomingCall o s msg) := by
  have hquery : ∀ r, Incoming.onIncomingCall msg = .ok r → Quoting.read .code
      (Quoting.cString ((webhookQuery r.toNumber).flatMap Quoting.Piece.text)) =
        some ((webhookQuery r.toNumber).flatMap Quoting.Piece.tokens) :=
    fun r hr => read_webhookQuery (isNumberChar_toNumber hr)
  rw [MyAccount.onIncomingCall]
  cases hrouting : Incoming.onIncomingCall msg with
  | error e => exact ⟨hquery, Nat.zero_le 1, (fun _ h => by cases h), rfl⟩
  | ok r =>
    obtain ⟨honce, htold, htables⟩ := @posts_lookup o s.db r
    have htold' : ∀ post ∈ (lookup o s.db r).posts,
        ∃ r', (.ok r : Except String Routing) = .ok r' ∧
        post.1 = answerUrl (getWebhookUrl s.db r'.toNumber o.fault).1 ∧
        parse post.2 = some (.object (payload o.callId r')) :=
      fun post hpost => ⟨r, rfl, htold post hpost⟩
    cases hfound : (lookup o s.db r).found with
    | error e =>
      simp only [hfound]
      exact ⟨hquery, honce, hrouting ▸ htold', htables⟩
    | ok urls =>
      simp only [hfound]
      exact ⟨hquery, honce, hrouting ▸ htold', htables⟩

/-- An incoming call is answered, listed and counted exactly when its numbers are there and the
webhook of its number responds with a URL; otherwise it is rejected and the manager is as before.
Only that webhook is told of the call, and what it is told is what was read from the message. -/
theorem incoming_answered (o : Outside) (s : Server) (msg : Chars) :
    Asks o s msg (MyAccount.onIncomingCall o s msg) ∧
    ((∃ r websocketUrl webhookUrl, Incoming.onIncomingCall msg = .ok r ∧
      Connects o s.db r websocketUrl webhookUrl ∧
      Answers o s r websocketUrl webhookUrl (MyAccount.onIncomingCall o s msg)) ∨
    ((∀ r websocketUrl webhookUrl, Incoming.onIncomingCall msg = .ok r →
      ¬Connects o s.db r websocketUrl webhookUrl) ∧
      Refuses o s (MyAccount.onIncomingCall o s msg))) := by
  refine ⟨asks o s msg, ?_⟩
  rw [MyAccount.onIncomingCall]
  cases hrouting : Incoming.onIncomingCall msg with
  | error e =>
    right
    exact ⟨(fun _ _ _ h => by cases h), rfl, rfl, rfl⟩
  | ok r =>
    cases hfound : (lookup o s.db r).found with
    | error e =>
      right
      simp only [hfound]
      refine ⟨fun r' u w hr hconnects => ?_, rfl, rfl, rfl⟩
      cases hr
      rw [lookup_ok_iff.mpr hconnects] at hfound
      cases hfound
    | ok urls =>
      left
      simp only [hfound]
      exact ⟨r, urls.1, urls.2, rfl, lookup_ok_iff.mp hfound, rfl, rfl, rfl⟩

end MediaServer.Incoming
