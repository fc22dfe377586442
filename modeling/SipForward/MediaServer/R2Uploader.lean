import SipForward.Core.Maps
import SipForward.Core.SignedRequest
import SipForward.MediaServer.CallReport
import SipForward.MediaServer.UploadManager
import SipForward.MediaServer.WavFile

/-!
# Uploads to the bucket

`uploadWithHandle` signs a PUT of the recording and tries it up to three times. libcurl reads the
body in pieces of its choice, the server stores what is signed and complete, and the answer may not
arrive. The attempts of all workers interleave.
-/

namespace MediaServer.R2

open Core Core.Signed
open MediaServer.CallReport (Tm decimal padded)
open Uploads (Job Submission Outcome Work UploadManager Effect)

/-! ### The server -/

abbrev Store := AList fun _ : Chars => Bytes

/-- What comes from outside in one attempt. -/
structure Attempt where
  now : Tm
  /-- The sizes of the buffers that libcurl has filled. -/
  reads : List ℕ
  /-- Whether the server takes a request that is in order. -/
  willing : Bool
  /-- The status for a request that it does not take. -/
  refusal : {status : ℤ // status ≠ 200}
  /-- Whether the response arrives. -/
  arrives : Bool

/-- The request is signed, complete, and has the digest of what it brings. -/
structure InOrder (v : Receiver) (r : Request) : Prop where
  authentic : v.Authentic r
  length : r.value "content-length".toList = some (decimal r.body.length)
  md5 : r.value "content-md5".toList = some (base64 (v.hashes.md5 r.body))

instance (v : Receiver) (r : Request) : Decidable (InOrder v r) :=
  decidable_of_iff (v.Authentic r ∧ r.value "content-length".toList = some (decimal r.body.length) ∧
      r.value "content-md5".toList = some (base64 (v.hashes.md5 r.body)))
    ⟨fun ⟨h₁, h₂, h₃⟩ => ⟨h₁, h₂, h₃⟩, fun h => ⟨h.authentic, h.length, h.md5⟩⟩

/-- The server, and the path that libcurl sends to it for that of a URL. The server stores the whole
body of a request that it takes, and any other one changes nothing. -/
structure Remote extends Receiver where
  sent : Chars → Chars
  put : Store → Request → Attempt → Store × ℤ
  takes : ∀ (store : Store) (r : Request) (a : Attempt), a.willing = true → InOrder toReceiver r →
    put store r a = (store.insert r.path r.body, 200)
  refuses : ∀ (store : Store) (r : Request) (a : Attempt),
    ¬(a.willing = true ∧ InOrder toReceiver r) → put store r a = (store, a.refusal.1)

/-! ### The request -/

/-- The configuration of the bucket. -/
structure Config where
  region : Chars
  accessKey : Chars
  secretKey : Chars
  bucketName : Chars

/-- `getEnvVar`. -/
def getEnvVar (env : Env) (key : String) : Chars := ((env key).getD "").toList

def Config.read (env : Env) : Config where
  region := getEnvVar env "AWS_REGION"
  accessKey := getEnvVar env "AWS_ACCESS_KEY"
  secretKey := getEnvVar env "AWS_SECRET_KEY"
  bucketName := getEnvVar env "AWS_BUCKET_NAME"

/-- `std::strftime` with `%Y%m%dT%H%M%SZ`, of `gmtime`. -/
def getAmzDate (now : Tm) : Chars :=
  decimal now.year ++ padded 2 now.month ++ padded 2 now.day ++ 'T' :: padded 2 now.hour ++
    padded 2 now.minute ++ padded 2 now.second ++ ['Z']

def getCanonicalRequest (method canonicalUri host amzDate contentMd5 : Chars) : Chars :=
  method ++ "\n".toList ++ canonicalUri ++ "\n".toList ++ "".toList ++ "\n".toList ++
    "content-md5:".toList ++ contentMd5 ++ "\n".toList ++ "host:".toList ++ host ++ "\n".toList ++
    "x-amz-content-sha256:UNSIGNED-PAYLOAD\n".toList ++ "x-amz-date:".toList ++ amzDate ++
    "\n".toList ++ "".toList ++ "\n".toList ++
    "content-md5;host;x-amz-content-sha256;x-amz-date\n".toList ++ "UNSIGNED-PAYLOAD".toList

def getSigningKey (h : Hashes) (secretKey dateStamp region service : Chars) : Bytes :=
  let kDate := h.hmac (octets ("AWS4".toList ++ secretKey)) (octets dateStamp)
  let kRegion := h.hmac kDate (octets region)
  let kService := h.hmac kRegion (octets service)
  h.hmac kService (octets "aws4_request".toList)

def host (cfg : Config) : Chars := "s3.".toList ++ cfg.region ++ ".amazonaws.com".toList

def canonicalUri (cfg : Config) (job : Job) : Chars :=
  "/".toList ++ cfg.bucketName ++ "/".toList ++ job.folder.toList ++ "/".toList ++
    job.callId.toList ++ ".wav".toList

/-- The signature of a request, in hexadecimal. -/
def signatureText (h : Hashes) (cfg : Config) (job : Job) (now : Tm) : Chars :=
  let contentMd5 := base64 (h.md5 job.wavData)
  let amzDate := getAmzDate now
  let dateStamp := amzDate.take 8
  let canonicalRequestHash := hex (h.sha256 (octets (getCanonicalRequest "PUT".toList
    (canonicalUri cfg job) (host cfg) amzDate contentMd5)))
  let stringToSign := "AWS4-HMAC-SHA256\n".toList ++ amzDate ++ "\n".toList ++ dateStamp ++
    "/".toList ++ cfg.region ++ "/s3/aws4_request\n".toList ++ canonicalRequestHash
  hex (h.hmac (getSigningKey h cfg.secretKey dateStamp cfg.region "s3".toList)
    (octets stringToSign))

/-- The value of the header `Authorization`. -/
def authHeader (h : Hashes) (cfg : Config) (job : Job) (now : Tm) : Chars :=
  let credential := cfg.accessKey ++ "/".toList ++ (getAmzDate now).take 8 ++ "/".toList ++
    cfg.region ++ "/s3/aws4_request".toList
  "AWS4-HMAC-SHA256 ".toList ++ "Credential=".toList ++ credential ++ ", ".toList ++
    "SignedHeaders=content-md5;host;x-amz-content-sha256;x-amz-date, ".toList ++
    "Signature=".toList ++ signatureText h cfg job now

/-- The path of the object that a job becomes. -/
def objectPath (v : Remote) (cfg : Config) (job : Job) : Chars := v.sent (canonicalUri cfg job)

/-- The request of an attempt, with the part of the recording that is sent. -/
def request (v : Remote) (cfg : Config) (job : Job) (now : Tm) (body : Bytes) : Request where
  method := "PUT".toList
  path := objectPath v cfg job
  headers :=
    [line "Content-MD5" (base64 (v.hashes.md5 job.wavData)), line "Host" (host cfg),
      line "X-Amz-Content-SHA256" "UNSIGNED-PAYLOAD".toList, line "X-Amz-Date" (getAmzDate now),
      line "Authorization" (authHeader v.hashes cfg job now),
      line "Content-Length" (decimal job.wavData.length), line "Expect" "100-continue".toList]
  body := body

/-! ### The body -/

structure UploadContext where
  data : Bytes
  offset : ℕ

/-- `ReadCallback`, for a buffer of this size. -/
def readCallback (c : UploadContext) (size : ℕ) : Bytes × UploadContext :=
  let bytesToCopy := min size (c.data.length - c.offset)
  ((c.data.drop c.offset).take bytesToCopy, { c with offset := c.offset + bytesToCopy })

/-- What is read into buffers of these sizes. -/
def readBody : UploadContext → List ℕ → Bytes
  | _, []        => []
  | c, size :: l => (readCallback c size).1 ++ readBody (readCallback c size).2 l

/-! ### Attempts -/

/-- The request of an attempt to upload a job. -/
def Attempt.request (v : Remote) (cfg : Config) (job : Job) (a : Attempt) : Request :=
  R2.request v cfg job a.now (readBody ⟨job.wavData, 0⟩ a.reads)

/-! ### The workers -/

/-- `max_retries`. -/
def maxRetries : ℕ := 3

/-- The manager and the bucket; what each worker has tried for the job that it uploads, and what was
tried for the jobs that are done, unless there was no handle. -/
structure Uploading where
  manager : UploadManager
  store : Store
  tries : ℕ → ℕ → List Attempt
  finished : List (Job × Option (List Attempt) × Outcome)

def Uploading.start (env : Env) (store : Store) : Uploading where
  manager := .new env
  store := store
  tries _ _ := []
  finished := []

/-- A step of the queue and the threads, or a step of the worker `i` in `uploadWithHandle`. -/
inductive Event where
  | pool (e : PoolEvent Submission Unit)
  | attempt (k i : ℕ) (a : Attempt)
  /-- There is no handle to upload with. -/
  | noHandle (k i : ℕ)
  | throws (k i : ℕ)

/-- The job that a worker uploads. -/
def Uploading.jobAt (s : Uploading) (k i : ℕ) : Option Job := (s.manager.workAt k i).bind Work.job

def Uploading.setTries (s : Uploading) (k i : ℕ) (l : List Attempt) : ℕ → ℕ → List Attempt :=
  fun k' i' => if k' = k ∧ i' = i then l else s.tries k' i'

/-- `uploadWithHandle` returns or throws. -/
def Uploading.finish (s : Uploading) (k i : ℕ) (job : Job) (l : Option (List Attempt))
    (store : Store) (outcome : Outcome) : Option Uploading :=
  (Uploads.step s.manager (.go k i (some outcome))).map fun m =>
    ⟨m, store, s.setTries k i [], s.finished ++ [(job, l, outcome)]⟩

/-- The response is there, with the status 200. -/
def Attempt.succeeds (v : Remote) (cfg : Config) (job : Job) (store : Store) (a : Attempt) :
    Bool :=
  a.arrives && (v.put store (a.request v cfg job) a).2 = 200

def Uploading.step (v : Remote) (cfg : Config) (s : Uploading) : Event → Option Uploading
  | .pool e        =>
    (Uploads.step s.manager (e.map fun _ => none)).map fun m => { s with manager := m }
  | .attempt k i a => do
    let job ← s.jobAt k i
    let store := (v.put s.store (a.request v cfg job) a).1
    let l := s.tries k i ++ [a]
    if a.succeeds v cfg job s.store then s.finish k i job (some l) store (.returned true)
    else if l.length < maxRetries then some { s with store, tries := s.setTries k i l }
    else s.finish k i job (some l) store (.returned false)
  | .noHandle k i  => do
    let job ← s.jobAt k i
    if s.tries k i = [] then s.finish k i job none s.store (.returned false) else none
  | .throws k i    => do
    let job ← s.jobAt k i
    s.finish k i job (some (s.tries k i)) s.store .threw

/-- `R2Uploader::uploadAsync`. -/
def uploadAsync (callId : String) (rawData : List Int16) (sampleRate : ℕ) (folder : String) :
    Submission :=
  ⟨callId, WavFile.convertToWav rawData sampleRate, folder⟩

/-! ### Every request is signed for its server -/

variable {v : Remote} {cfg : Config} {job : Job} {h : Hashes} {now : Tm} {body : Bytes}

/-- Nothing in a path is encoded, and no part of it is left out. -/
def PlainPath (path : Chars) : Prop :=
  path.all (fun c => isUnreserved c || c = '/') = true ∧
    ((path.splitOn '/').all fun s => s ≠ ['.'] && s ≠ ['.', '.']) = true

instance : DecidablePred PlainPath := fun path =>
  inferInstanceAs (Decidable (path.all _ = true ∧ (path.splitOn '/').all _ = true))

/-- The server knows the sender and has the region, and plain paths are sent as they are. -/
structure Configured (v : Remote) (cfg : Config) : Prop where
  sent : ∀ path, PlainPath path → v.sent path = path
  secret : v.secrets cfg.accessKey = some cfg.secretKey
  region : v.region = cfg.region
  service : v.service = "s3".toList
  accessKey : Token cfg.accessKey
  plain : Token cfg.region

lemma value_md5 : (request v cfg job now body).value "content-md5".toList =
    some (base64 (v.hashes.md5 job.wavData)) := by
  rw [Request.value, request, find_line_pos (by decide) (by decide), Option.map_some,
    lineValue_line (by decide) (strip_of_forall (isBlank_base64 _))]

lemma token_host (hregion : Token cfg.region) : strip isBlank (host cfg) = host cfg := by
  refine strip_of_forall fun c hc => ?_
  have hfixed : ("s3.".toList ++ ".amazonaws.com".toList).all (fun c => !isBlank c) = true := by
    decide
  rcases List.mem_append.mp hc with hc | hc
  · rcases List.mem_append.mp hc with hc | hc
    · simpa using List.all_eq_true.mp hfixed c (List.mem_append_left _ hc)
    · exact isBlank_of_isToken (List.all_eq_true.mp hregion c hc)
  · simpa using List.all_eq_true.mp hfixed c (List.mem_append_right _ hc)

lemma value_host (hregion : Token cfg.region) :
    (request v cfg job now body).value "host".toList = some (host cfg) := by
  rw [Request.value, request, find_line_neg (by decide) (by decide),
    find_line_pos (by decide) (by decide), Option.map_some,
    lineValue_line (by decide) (token_host hregion)]

lemma value_payload : (request v cfg job now body).value "x-amz-content-sha256".toList =
    some "UNSIGNED-PAYLOAD".toList := by
  rw [Request.value, request, find_line_neg (by decide) (by decide),
    find_line_neg (by decide) (by decide), find_line_pos (by decide) (by decide), Option.map_some,
    lineValue_line (by decide) (Token.strip (by decide))]

lemma token_decimal (n : ℕ) : Token (decimal n) := by
  refine List.all_eq_true.mpr fun c hc => ?_
  have hdigit := Nat.isDigit_of_mem_toDigits (by decide) (by decide) hc
  simp [isToken, Char.isAlphanum, hdigit]

lemma token_padded (width n : ℕ) : Token (padded width n) := by
  refine Token.append (List.all_eq_true.mpr fun c hc => ?_) (token_decimal n)
  rw [(List.mem_replicate.mp hc).2]
  rfl

lemma token_amzDate (now : Tm) : Token (getAmzDate now) := by
  have hT : Token ['T'] := by decide
  have hZ : Token ['Z'] := by decide
  have hdate : Token (decimal now.year ++ padded 2 now.month ++ padded 2 now.day) :=
    ((token_decimal _).append (token_padded _ _)).append (token_padded _ _)
  have htime : Token (padded 2 now.hour ++ padded 2 now.minute ++ padded 2 now.second) :=
    ((token_padded _ _).append (token_padded _ _)).append (token_padded _ _)
  have hall := (hdate.append (hT.append htime)).append hZ
  rw [getAmzDate]
  simpa only [List.append_assoc, List.cons_append, List.nil_append] using hall

lemma value_date : (request v cfg job now body).value "x-amz-date".toList =
    some (getAmzDate now) := by
  rw [Request.value, request, find_line_neg (by decide) (by decide),
    find_line_neg (by decide) (by decide), find_line_neg (by decide) (by decide),
    find_line_pos (by decide) (by decide), Option.map_some,
    lineValue_line (by decide) (token_amzDate now).strip]

/-- The lines of a canonical request with four headers. -/
lemma canonical_append (m u a b c d digest ho payload time : Chars) :
    m ++ ['\n'] ++ u ++ ['\n'] ++ [] ++ ['\n'] ++ (a ++ [':']) ++ digest ++ ['\n'] ++
        (b ++ [':']) ++ ho ++ ['\n'] ++ (c ++ ':' :: payload ++ ['\n']) ++ (d ++ [':']) ++ time ++
        ['\n'] ++ [] ++ ['\n'] ++ (a ++ ';' :: b ++ ';' :: c ++ ';' :: d ++ ['\n']) ++ payload =
      canonicalRequest m u [(a, digest), (b, ho), (c, payload), (d, time)] payload := by
  simp [canonicalRequest, List.intercalate]

lemma canonicalRequest_eq (method uri ho time digest : Chars) :
    getCanonicalRequest method uri ho time digest = canonicalRequest method uri
      [("content-md5".toList, digest), ("host".toList, ho),
        ("x-amz-content-sha256".toList, "UNSIGNED-PAYLOAD".toList), ("x-amz-date".toList, time)]
      "UNSIGNED-PAYLOAD".toList :=
  canonical_append method uri "content-md5".toList "host".toList "x-amz-content-sha256".toList
    "x-amz-date".toList digest ho "UNSIGNED-PAYLOAD".toList time

def signedHeaders : List Chars :=
  ["content-md5".toList, "host".toList, "x-amz-content-sha256".toList, "x-amz-date".toList]

/-- The authorization of a request. -/
def authorization (h : Hashes) (cfg : Config) (job : Job) (now : Tm) : Authorization :=
  let scope : Scope := ⟨(getAmzDate now).take 8, cfg.region, "s3".toList⟩
  { accessKey := cfg.accessKey
    scope
    signed := signedHeaders
    signature := signature h cfg.secretKey (getAmzDate now) scope
      (getCanonicalRequest "PUT".toList (canonicalUri cfg job) (host cfg) (getAmzDate now)
        (base64 (h.md5 job.wavData))) }

lemma stringToSign_eq (time region hash : Chars) : "AWS4-HMAC-SHA256\n".toList ++ time ++
    "\n".toList ++ time.take 8 ++ "/".toList ++ region ++ "/s3/aws4_request\n".toList ++ hash =
      "AWS4-HMAC-SHA256".toList ++ '\n' :: time ++ '\n' ::
        (⟨time.take 8, region, "s3".toList⟩ : Scope).text ++ '\n' :: hash := by
  simp [Scope.text, List.intercalate]

lemma signatureText_eq :
    signatureText h cfg job now = (authorization h cfg job now).signature := by
  simp only [signatureText, stringToSign_eq]
  rfl

/-- The parts of an authorization. -/
lemma auth_append (p c k d r s w e l g sig : Chars) :
    p ++ c ++ (k ++ ['/'] ++ d ++ ['/'] ++ r ++ ('/' :: s ++ '/' :: w)) ++ [',', ' '] ++
        (e ++ l ++ [',', ' ']) ++ g ++ sig =
      (p ++ c) ++ k ++ '/' :: ['/'].intercalate [d, r, s, w] ++ (',' :: ' ' :: e) ++ l ++
        (',' :: ' ' :: g) ++ sig := by
  simp [List.intercalate]

lemma authHeader_eq : authHeader h cfg job now = (authorization h cfg job now).text := by
  refine (auth_append "AWS4-HMAC-SHA256 ".toList "Credential=".toList cfg.accessKey
    ((getAmzDate now).take 8) cfg.region "s3".toList "aws4_request".toList "SignedHeaders=".toList
    ([';'].intercalate signedHeaders) "Signature=".toList (signatureText h cfg job now)).trans ?_
  rw [signatureText_eq]
  rfl

lemma Configured.authorization (hcfg : Configured v cfg) :
    (authorization h cfg job now).Plain where
  accessKey := hcfg.accessKey
  date := by
    refine List.all_eq_true.mpr fun c hc => ?_
    exact List.all_eq_true.mp (token_amzDate now) c (List.mem_of_mem_take hc)
  region := hcfg.plain
  service := (by decide : Token "s3".toList)
  signed n hn := by
    have hall : signedHeaders.all (·.all isToken) = true := by decide
    exact List.all_eq_true.mp hall n hn
  nonempty := List.cons_ne_nil _ _
  signature := token_hex _

lemma value_authorization (hcfg : Configured v cfg) :
    (request v cfg job now body).value "authorization".toList =
      some (authorization v.hashes cfg job now).text := by
  rw [Request.value, request, find_line_neg (by decide) (by decide),
    find_line_neg (by decide) (by decide), find_line_neg (by decide) (by decide),
    find_line_neg (by decide) (by decide), find_line_pos (by decide) (by decide), Option.map_some,
    authHeader_eq, lineValue_line (by decide) (strip_authorization hcfg.authorization)]

lemma value_length : (request v cfg job now body).value "content-length".toList =
    some (decimal job.wavData.length) := by
  rw [Request.value, request, find_line_neg (by decide) (by decide),
    find_line_neg (by decide) (by decide), find_line_neg (by decide) (by decide),
    find_line_neg (by decide) (by decide), find_line_neg (by decide) (by decide),
    find_line_pos (by decide) (by decide), Option.map_some,
    lineValue_line (by decide) (token_decimal _).strip]

lemma uriEncode_of_all {path : Chars}
    (hpath : path.all (fun c => isUnreserved c || c = '/') = true) : uriEncode path = path := by
  induction path with
  | nil => rfl
  | cons c path ih =>
    rw [List.all_cons, Bool.and_eq_true] at hpath
    have hrest := ih hpath.2
    rw [uriEncode] at hrest ⊢
    rw [List.flatMap_cons, if_pos hpath.1, hrest]
    rfl

/-- What is signed is what is sent. -/
lemma request_signs (hcfg : Configured v cfg) (hpath : PlainPath (canonicalUri cfg job))
    (now : Tm) (body : Bytes) :
    Signs v.toReceiver (request v cfg job now body) (authorization v.hashes cfg job now) := by
  refine ⟨value_authorization hcfg, hcfg.authorization, hcfg.region.symm, hcfg.service.symm, ?_, ?_,
    ?_⟩
  · rw [value_date]
    rfl
  · exact List.mem_cons_of_mem _ List.mem_cons_self
  · have hsigned : (authorization v.hashes cfg job now).signed.mapM (fun name =>
        ((request v cfg job now body).value name).map fun value => (name, value)) =
        some [("content-md5".toList, base64 (v.hashes.md5 job.wavData)),
          ("host".toList, host cfg), ("x-amz-content-sha256".toList, "UNSIGNED-PAYLOAD".toList),
          ("x-amz-date".toList, getAmzDate now)] := by
      simp only [authorization, signedHeaders, List.mapM_cons, List.mapM_nil, value_md5,
        value_host hcfg.plain, value_payload, value_date, Option.map_some, Option.bind_eq_bind,
        Option.bind_some, Option.pure_def]
    have hsecret : v.secrets (authorization v.hashes cfg job now).accessKey = some cfg.secretKey :=
      hcfg.secret
    rw [Receiver.expected, hsigned, hsecret, value_date, value_payload]
    simp only [Option.bind_eq_bind, Option.bind_some]
    have hcanonical : canonicalRequest (request v cfg job now body).method
        (uriEncode (request v cfg job now body).path)
          [("content-md5".toList, base64 (v.hashes.md5 job.wavData)), ("host".toList, host cfg),
            ("x-amz-content-sha256".toList, "UNSIGNED-PAYLOAD".toList),
            ("x-amz-date".toList, getAmzDate now)] "UNSIGNED-PAYLOAD".toList =
        getCanonicalRequest "PUT".toList (canonicalUri cfg job) (host cfg) (getAmzDate now)
          (base64 (v.hashes.md5 job.wavData)) := by
      rw [canonicalRequest_eq]
      simp only [request, objectPath, hcfg.sent _ hpath, uriEncode_of_all hpath.1]
    rw [hcanonical]
    rfl

/-- Every request is one that the server accepts as signed by the owner of the key, whatever the
time, the recording, and the part of it that is sent. -/
theorem request_authentic (hcfg : Configured v cfg) (hpath : PlainPath (canonicalUri cfg job))
    (now : Tm) (body : Bytes) : v.Authentic (request v cfg job now body) :=
  (request_signs hcfg hpath now body).authentic

def sampleConfig : Config :=
  ⟨"eu-west-1".toList, "AK01".toList, "a/secret+key".toList, "recordings".toList⟩

/-- A server that knows one key. The hashes are short, and depend on all that is hashed. -/
def sampleReceiver : Receiver where
  hashes :=
    { sha256 := fun l => [(l.map UInt8.toNat).sum.toUInt8]
      hmac := fun key l => [((key ++ l).map UInt8.toNat).sum.toUInt8, 7]
      md5 := fun l => [(l.map UInt8.toNat).sum.toUInt8, l.length.toUInt8] }
  secrets key := if key = "AK01".toList then some "a/secret+key".toList else none
  region := "eu-west-1".toList
  service := "s3".toList

def sampleRemote : Remote where
  toReceiver := sampleReceiver
  sent path := path
  put store r a := if a.willing = true ∧ InOrder sampleReceiver r then
    (store.insert r.path r.body, 200) else (store, a.refusal.1)
  takes _ _ _ hwilling horder := if_pos ⟨hwilling, horder⟩
  refuses _ _ _ h := if_neg h

def sampleJob : Job := ⟨"7f-03", WavFile.convertToWav [1, -2, 300] 16000, "calls/2024", 0⟩

lemma configured_sample : Configured sampleRemote sampleConfig :=
  ⟨fun _ _ => rfl, rfl, rfl, rfl, by decide, by decide⟩

/-- Only the first bytes of the recording are sent. -/
theorem request_authentic_sample : sampleRemote.Authentic
    (request sampleRemote sampleConfig sampleJob ⟨2024, 5, 6, 7, 8, 9⟩
      (sampleJob.wavData.take 10)) := by
  have hpath : PlainPath (canonicalUri sampleConfig sampleJob) := by decide
  exact request_authentic configured_sample hpath _ _

/-! ### What an attempt does -/

variable {a : Attempt} {store : Store}

lemma readBody_eq (c : UploadContext) (l : List ℕ) :
    readBody c l = (c.data.drop c.offset).take l.sum := by
  induction l generalizing c with
  | nil => simp [readBody]
  | cons size l ih =>
    rw [readBody, ih, List.sum_cons, List.take_add]
    simp only [readCallback]
    by_cases hsize : size ≤ c.data.length - c.offset
    · rw [Nat.min_eq_left hsize, List.drop_drop]
    · have hmin : min size (c.data.length - c.offset) = c.data.length - c.offset := by omega
      have hall : (c.data.drop c.offset).length ≤ size := by
        rw [List.length_drop]
        omega
      have hread : c.data.drop (c.offset + (c.data.length - c.offset)) = [] :=
        List.drop_eq_nil_of_le (by omega)
      have hrest : (c.data.drop c.offset).drop size = [] := List.drop_eq_nil_of_le hall
      rw [hmin, hread, hrest, List.take_of_length_le hall,
        List.take_of_length_le (by rw [List.length_drop])]

/-- The body is all of the recording, or shorter. -/
lemma body_eq_iff (wav : Bytes) (l : List ℕ) :
    decimal wav.length = decimal (readBody ⟨wav, 0⟩ l).length ↔ wav.length ≤ l.sum := by
  have hlength : (readBody ⟨wav, 0⟩ l).length = min l.sum wav.length := by
    rw [readBody_eq, List.length_take, List.drop_zero]
  rw [hlength]
  constructor
  · intro h
    have hnum := congrArg (Nat.ofDigitChars 10 · 0) h
    simp only [decimal, Nat.ofDigitChars_ten_toDigits] at hnum
    omega
  · intro h
    rw [Nat.min_eq_right h]

/-- The server can take the request, and answers. -/
structure Attempt.GoesThrough (job : Job) (a : Attempt) : Prop where
  willing : a.willing = true
  arrives : a.arrives = true
  complete : job.wavData.length ≤ a.reads.sum

/-- An attempt in which all is read brings the whole recording. -/
lemma body_request (h : job.wavData.length ≤ a.reads.sum) :
    (a.request v cfg job).body = job.wavData := by
  have hread := readBody_eq ⟨job.wavData, 0⟩ a.reads
  rw [List.drop_zero, List.take_of_length_le h] at hread
  exact hread

/-- The server stores the recording, or nothing. -/
lemma put_cases (v : Remote) (cfg : Config) (job : Job) (a : Attempt) (store : Store) :
    (job.wavData.length ≤ a.reads.sum ∧ a.willing = true ∧
      v.put store (a.request v cfg job) a =
        (store.insert (objectPath v cfg job) job.wavData, 200)) ∨
    v.put store (a.request v cfg job) a = (store, a.refusal.1) := by
  by_cases h : a.willing = true ∧ InOrder v.toReceiver (a.request v cfg job)
  · left
    have hcomplete : job.wavData.length ≤ a.reads.sum :=
      (body_eq_iff _ _).mp (Option.some.inj (value_length.symm.trans h.2.length))
    refine ⟨hcomplete, h.1, ?_⟩
    rw [v.takes store _ a h.1 h.2, body_request hcomplete]
    rfl
  · right
    exact v.refuses store _ a h

/-- An attempt succeeds if and only if nothing comes in between. -/
lemma succeeds_iff (hcfg : Configured v cfg) (hpath : PlainPath (canonicalUri cfg job))
    (store : Store) :
    a.succeeds v cfg job store = true ↔ a.GoesThrough job := by
  rw [Attempt.succeeds, Bool.and_eq_true, decide_eq_true_eq]
  constructor
  · rintro ⟨harrives, hstatus⟩
    rcases put_cases v cfg job a store with ⟨hc, hw, -⟩ | h
    · exact ⟨hw, harrives, hc⟩
    · rw [h] at hstatus
      exact absurd hstatus a.refusal.2
  · rintro ⟨hwilling, harrives, hcomplete⟩
    have horder : InOrder v.toReceiver (a.request v cfg job) := by
      refine ⟨(request_signs hcfg hpath _ _).authentic, ?_, ?_⟩
      · rw [body_request hcomplete]
        exact value_length
      · rw [body_request hcomplete]
        exact value_md5
    exact ⟨harrives, by rw [v.takes store _ a hwilling horder]⟩

/-! ### What the manager knows -/

variable {m m' : UploadManager} {e : Uploads.Event} {k i : ℕ}

/-- What a step adds to the log. -/
lemma log_cases (h : Uploads.step m e = some m') : (m'.log = m.log ∧ ∀ k i x, e ≠ .go k i x) ∨
    (∃ k i job outcome, e = .go k i (some outcome) ∧ m.workAt k i = some (.uploading job) ∧
      m'.log = m.log ++ [.upload job outcome]) ∨
    ∃ k i job ok, e = .go k i none ∧ m.workAt k i = some (.uploaded job ok) ∧
      m'.log = m.log ++ [.setValue job.result ok] := by
  cases Pool.Stepped.of_step h with
  | @go k i mon x w w' out hm hi hgo =>
    right
    have hw : m.workAt k i = some w := by
      rw [Pool.workAt_eq, hm, Option.bind_some, Pool.handAt, hi]
      rfl
    cases w with
    | uploading job =>
      cases x with
      | none => cases hgo
      | some outcome =>
        cases hgo
        exact Or.inl ⟨k, i, job, outcome, rfl, hw, rfl⟩
    | uploaded job ok =>
      cases x with
      | none =>
        cases hgo
        exact Or.inr ⟨k, i, job, ok, rfl, hw, rfl⟩
      | some outcome => cases hgo
    | ended => cases x <;> cases hgo
  | idle he hm hidle =>
    refine Or.inl ⟨rfl, ?_⟩
    rintro k i x rfl
    cases he
  | push | found | empty | stop | notifyAll | join =>
    refine Or.inl ⟨rfl, ?_⟩
    rintro k i x ⟨⟩

lemma pushed_subset (h : Uploads.step m e = some m') : m.pushed ⊆ m'.pushed := by
  cases Pool.Stepped.of_step h with
  | push haccept hm => exact List.subset_append_left _ _
  | idle | go | found | empty | stop | notifyAll | join => exact List.Subset.refl _

/-- Jobs and outcomes do not come from nowhere. -/
structure Known (m : UploadManager) : Prop where
  queue : ∀ mon ∈ m.monitors, ∀ job ∈ mon.queue, job ∈ m.pushed
  hands : ∀ k i job, (m.workAt k i).bind Work.job = some job → job ∈ m.pushed
  uploaded : ∀ k i job ok, m.workAt k i = some (.uploaded job ok) →
    ∃ outcome, .upload job outcome ∈ m.log ∧ outcome.ok = ok
  logged : ∀ job outcome, .upload job outcome ∈ m.log → job ∈ m.pushed
  values : ∀ promise ok, .setValue promise ok ∈ m.log →
    ∃ job outcome, .upload job outcome ∈ m.log ∧ job.result = promise ∧ outcome.ok = ok

lemma Known.new (env : Env) : Known (.new env) := by
  have hwork : ∀ k i, (UploadManager.new env).workAt k i = none := by
    intro k i
    rw [Pool.workAt_eq, Option.bind_eq_none_iff]
    intro mon hmon
    have hthreads : ∀ t ∈ mon.threads, t = .waiting := by
      intro t ht
      have hmem := List.mem_of_getElem? hmon
      rw [UploadManager.new, List.mem_singleton] at hmem
      subst hmem
      exact List.eq_of_mem_replicate ht
    rw [Pool.handAt, Option.bind_eq_none_iff]
    intro t ht
    rw [hthreads t (List.mem_of_getElem? ht)]
    rfl
  constructor
  · intro mon hmon job hjob
    rw [UploadManager.new, List.mem_singleton] at hmon
    subst hmon
    cases hjob
  · intro k i job hjob
    rw [hwork] at hjob
    cases hjob
  · intro k i job ok hw
    rw [hwork] at hw
    cases hw
  · intro job outcome h
    cases h
  · intro promise ok h
    cases h

/-- An element of a queue was there before, or is the one that is handed over. -/
lemma Known.queue_step (hm : Known m) (h : Uploads.step m e = some m') :
    ∀ mon ∈ m'.monitors, ∀ job ∈ mon.queue, job ∈ m'.pushed := by
  have hset : ∀ {k : ℕ} {mon mon' : Monitor Job Work}, m.monitors[k]? = some mon →
      (∀ job ∈ mon'.queue, job ∈ m'.pushed) → ∀ q ∈ m.monitors.set k mon', ∀ job ∈ q.queue,
        job ∈ m'.pushed := by
    intro k mon mon' _ hqueue q hq
    rcases List.mem_or_eq_of_mem_set hq with hq | rfl
    · exact fun job hjob => pushed_subset h (hm.queue q hq job hjob)
    · exact hqueue
  have hold : ∀ {k : ℕ} {mon : Monitor Job Work}, m.monitors[k]? = some mon →
      ∀ job ∈ mon.queue, job ∈ m'.pushed := fun hmon job hjob =>
    pushed_subset h (hm.queue _ (List.mem_of_getElem? hmon) job hjob)
  cases Pool.Stepped.of_step h with
  | push haccept hmon =>
    refine hset hmon fun job hjob => ?_
    rcases List.mem_append.mp hjob with hjob | hjob
    · exact hold hmon job hjob
    · exact List.mem_append_right _ hjob
  | idle he hmon hidle => exact hset hmon (hidle.queue ▸ hold hmon)
  | found hmon hi hqueue =>
    exact hset hmon fun job hjob => hold hmon job (hqueue ▸ List.mem_cons_of_mem _ hjob)
  | empty hmon hi hqueue => exact hset hmon fun job hjob => hold hmon job hjob
  | go hmon hi hgo => exact hset hmon fun job hjob => hold hmon job hjob
  | notifyAll hstage hmon => exact hset hmon fun job hjob => hold hmon job hjob
  | stop | join => exact hm.queue

lemma log_subset (h : Uploads.step m e = some m') : m.log ⊆ m'.log := by
  rcases log_cases h with ⟨hlog, -⟩ | ⟨k, i, job, outcome, -, -, hlog⟩ | ⟨k, i, job, ok, -, -, hlog⟩
  · rw [hlog]
    exact List.Subset.refl _
  all_goals
    rw [hlog]
    exact List.subset_append_left _ _

/-- What a worker has in hand after a step. -/
lemma work_cases (h : Uploads.step m e = some m') (k i : ℕ) :
    m'.workAt k i = m.workAt k i ∨
    (∃ mon ∈ m.monitors, ∃ job ∈ mon.queue, m.workAt k i = none ∧
      m'.workAt k i = some (.uploading job)) ∨
    (m.workAt k i = none ∧ (m'.workAt k i).bind Work.job = none ∧
      ∀ job ok, m'.workAt k i ≠ some (.uploaded job ok)) ∨
    (∃ job outcome, e = .go k i (some outcome) ∧ m.workAt k i = some (.uploading job) ∧
      m'.workAt k i = some (.uploaded job outcome.ok) ∧
      m'.log = m.log ++ [.upload job outcome]) ∨
    ∃ job ok, e = .go k i none ∧ m.workAt k i = some (.uploaded job ok) ∧
      m'.workAt k i = none := by
  cases Pool.Worked.of_step h k i with
  | same heq => exact Or.inl heq
  | @took mon job hmon hjob hnone heq =>
    exact Or.inr (Or.inl ⟨mon, hmon, job, hjob, hnone, heq⟩)
  | found hnone heq =>
    refine Or.inr (Or.inr (Or.inl ⟨hnone, ?_, ?_⟩))
    all_goals
      rw [heq]
      simp only [Uploads.program]
      split_ifs
    · rfl
    · rfl
    · rintro job ok ⟨⟩
    · rintro job ok ⟨⟩
  | @went x w w' out he hw hgo heq =>
    subst he
    rcases log_cases h with ⟨-, hne⟩ | ⟨k₁, i₁, job, outcome, hgo', hw', hlog⟩ |
      ⟨k₁, i₁, job, ok, hgo', hw', -⟩
    · exact absurd rfl (hne k i x)
    · cases hgo'
      obtain rfl := Option.some.inj (hw.symm.trans hw')
      cases hgo
      exact Or.inr (Or.inr (Or.inr (Or.inl ⟨job, outcome, rfl, hw, heq, hlog⟩)))
    · cases hgo'
      obtain rfl := Option.some.inj (hw.symm.trans hw')
      cases hgo
      exact Or.inr (Or.inr (Or.inr (Or.inr ⟨job, ok, rfl, hw, heq⟩)))

lemma Known.step (hm : Known m) (h : Uploads.step m e = some m') : Known m' where
  queue := hm.queue_step h
  hands k i job hjob := by
    rcases work_cases h k i with heq | ⟨mon, hmon, job', hqueue, -, heq⟩ | ⟨-, hnone, -⟩ |
      ⟨job', outcome, -, -, heq, -⟩ | ⟨job', ok, -, -, heq⟩
    · rw [heq] at hjob
      exact pushed_subset h (hm.hands k i job hjob)
    · rw [heq] at hjob
      cases hjob
      exact pushed_subset h (hm.queue mon hmon job hqueue)
    · rw [hnone] at hjob
      cases hjob
    · rw [heq] at hjob
      cases hjob
    · rw [heq] at hjob
      cases hjob
  uploaded k i job ok hw := by
    rcases work_cases h k i with heq | ⟨mon, hmon, job', hqueue, -, heq⟩ | ⟨-, -, hnone⟩ |
      ⟨job', outcome, -, -, heq, hlog⟩ | ⟨job', ok', -, -, heq⟩
    · rw [heq] at hw
      obtain ⟨outcome, hmem, hok⟩ := hm.uploaded k i job ok hw
      exact ⟨outcome, log_subset h hmem, hok⟩
    · rw [heq] at hw
      cases hw
    · exact absurd hw (hnone job ok)
    · rw [heq] at hw
      cases hw
      exact ⟨outcome, by rw [hlog]; exact List.mem_append_right _ (List.mem_singleton_self _), rfl⟩
    · rw [heq] at hw
      cases hw
  logged job outcome hmem := by
    rcases log_cases h with ⟨hlog, -⟩ | ⟨k, i, job', outcome', -, hw, hlog⟩ |
      ⟨k, i, job', ok, -, -, hlog⟩
    · rw [hlog] at hmem
      exact pushed_subset h (hm.logged job outcome hmem)
    · rw [hlog] at hmem
      rcases List.mem_append.mp hmem with hmem | hmem
      · exact pushed_subset h (hm.logged job outcome hmem)
      · cases List.mem_singleton.mp hmem
        exact pushed_subset h (hm.hands k i job (by rw [hw]; rfl))
    · rw [hlog] at hmem
      rcases List.mem_append.mp hmem with hmem | hmem
      · exact pushed_subset h (hm.logged job outcome hmem)
      · cases List.mem_singleton.mp hmem
  values promise ok hmem := by
    have hold : .setValue promise ok ∈ m.log → ∃ job outcome, .upload job outcome ∈ m'.log ∧
        job.result = promise ∧ outcome.ok = ok := fun hmem => by
      obtain ⟨job, outcome, hupload, hrest⟩ := hm.values promise ok hmem
      exact ⟨job, outcome, log_subset h hupload, hrest⟩
    rcases log_cases h with ⟨hlog, -⟩ | ⟨k, i, job', outcome', -, -, hlog⟩ |
      ⟨k, i, job', ok', -, hw, hlog⟩
    · rw [hlog] at hmem
      exact hold hmem
    · rw [hlog] at hmem
      rcases List.mem_append.mp hmem with hmem | hmem
      · exact hold hmem
      · cases List.mem_singleton.mp hmem
    · rw [hlog] at hmem
      rcases List.mem_append.mp hmem with hmem | hmem
      · exact hold hmem
      · cases List.mem_singleton.mp hmem
        obtain ⟨outcome, hupload, hok⟩ := hm.uploaded k i job' ok hw
        exact ⟨job', outcome, log_subset h hupload, rfl, hok⟩

/-! ### Steps -/

variable {s s' : Uploading} {ev : Event} {es : List Event} {l : Option (List Attempt)}
  {outcome : Outcome} {env : Env} {store₀ : Store}

/-- A worker has finished with its job. -/
structure Finishes (s s' : Uploading) (k i : ℕ) (job : Job) (l : Option (List Attempt))
    (store : Store) (outcome : Outcome) : Prop where
  manager : Uploads.step s.manager (.go k i (some outcome)) = some s'.manager
  store : s'.store = store
  tries : s'.tries = s.setTries k i []
  finished : s'.finished = s.finished ++ [(job, l, outcome)]

lemma finishes_of_finish (h : s.finish k i job l store outcome = some s') :
    Finishes s s' k i job l store outcome := by
  obtain ⟨m, hm, rfl⟩ := Option.map_eq_some_iff.mp h
  exact ⟨hm, rfl, rfl, rfl⟩

/-- What a step does. -/
inductive Stepped (v : Remote) (cfg : Config) (s s' : Uploading) : Prop
  | pool {e : PoolEvent Submission Unit}
      (hstep : Uploads.step s.manager (e.map fun _ => none) = some s'.manager)
      (hrest : s' = { s with manager := s'.manager })
  | success {k i : ℕ} {job : Job} {a : Attempt} (hjob : s.jobAt k i = some job)
      (hsuccess : a.succeeds v cfg job s.store = true)
      (h : Finishes s s' k i job (some (s.tries k i ++ [a]))
        (v.put s.store (a.request v cfg job) a).1 (.returned true))
  | again {k i : ℕ} {job : Job} {a : Attempt} (hjob : s.jobAt k i = some job)
      (hfailed : a.succeeds v cfg job s.store = false)
      (hroom : (s.tries k i ++ [a]).length < maxRetries)
      (h : s' = { s with
        store := (v.put s.store (a.request v cfg job) a).1
        tries := s.setTries k i (s.tries k i ++ [a]) })
  | gaveUp {k i : ℕ} {job : Job} {a : Attempt} (hjob : s.jobAt k i = some job)
      (hfailed : a.succeeds v cfg job s.store = false)
      (hfull : maxRetries ≤ (s.tries k i ++ [a]).length)
      (h : Finishes s s' k i job (some (s.tries k i ++ [a]))
        (v.put s.store (a.request v cfg job) a).1 (.returned false))
  | noHandle {k i : ℕ} {job : Job} (hjob : s.jobAt k i = some job)
      (h : Finishes s s' k i job none s.store (.returned false))
  | threw {k i : ℕ} {job : Job} (hjob : s.jobAt k i = some job)
      (h : Finishes s s' k i job (some (s.tries k i)) s.store .threw)

lemma Stepped.of_step (h : s.step v cfg ev = some s') : Stepped v cfg s s' := by
  cases ev with
  | pool e =>
    obtain ⟨m, hm, rfl⟩ := Option.map_eq_some_iff.mp h
    exact .pool hm rfl
  | attempt k i a =>
    obtain ⟨job, hjob, h⟩ := Option.bind_eq_some_iff.mp h
    simp only at h
    split_ifs at h with hsuccess hroom
    · exact .success hjob hsuccess (finishes_of_finish h)
    · cases h
      exact .again hjob (by simpa using hsuccess) hroom rfl
    · exact .gaveUp hjob (by simpa using hsuccess) (by omega) (finishes_of_finish h)
  | noHandle k i =>
    obtain ⟨job, hjob, h⟩ := Option.bind_eq_some_iff.mp h
    split_ifs at h
    exact .noHandle hjob (finishes_of_finish h)
  | throws k i =>
    obtain ⟨job, hjob, h⟩ := Option.bind_eq_some_iff.mp h
    exact .threw hjob (finishes_of_finish h)

lemma Stepped.known (h : Stepped v cfg s s') (hm : Known s.manager) : Known s'.manager := by
  cases h with
  | pool hstep _ => exact hm.step hstep
  | again _ _ _ h =>
    rw [h]
    exact hm
  | success _ _ h | gaveUp _ _ _ h => exact hm.step h.manager
  | noHandle _ h | threw _ h => exact hm.step h.manager

lemma Stepped.pushed (h : Stepped v cfg s s') : s.manager.pushed ⊆ s'.manager.pushed := by
  cases h with
  | pool hstep _ => exact pushed_subset hstep
  | again _ _ _ h =>
    rw [h]
    exact List.Subset.refl _
  | success _ _ h | gaveUp _ _ _ h => exact pushed_subset h.manager
  | noHandle _ h | threw _ h => exact pushed_subset h.manager

/-! ### What the bucket holds -/

/-- The object of a path is that of a job. -/
def Holds (v : Remote) (cfg : Config) (s : Uploading) (path : Chars) (obj : Bytes) : Prop :=
  ∃ job ∈ s.manager.pushed, objectPath v cfg job = path ∧ job.wavData = obj

/-- Every object is from before, or the whole recording of a job with its path; and there is one for
every upload that was successful. -/
structure Stored (v : Remote) (cfg : Config) (store₀ : Store) (s : Uploading) : Prop where
  known : Known s.manager
  contents : ∀ path obj, s.store.lookup path = some obj →
    store₀.lookup path = some obj ∨ Holds v cfg s path obj
  stored : ∀ job, .upload job (.returned true) ∈ s.manager.log →
    ∃ obj, s.store.lookup (objectPath v cfg job) = some obj ∧
      Holds v cfg s (objectPath v cfg job) obj

lemma Holds.mono {path : Chars} {obj : Bytes} (h : Holds v cfg s path obj)
    (hsub : s.manager.pushed ⊆ s'.manager.pushed) : Holds v cfg s' path obj := by
  obtain ⟨job, hjob, hrest⟩ := h
  exact ⟨job, hsub hjob, hrest⟩

/-- The store after an attempt. -/
lemma Stored.put (hs : Stored v cfg store₀ s) (hjob : s.jobAt k i = some job) (a : Attempt) :
    (∀ path obj, (v.put s.store (a.request v cfg job) a).1.lookup path = some obj →
      store₀.lookup path = some obj ∨ Holds v cfg s path obj) ∧
    ∀ path obj, s.store.lookup path = some obj → Holds v cfg s path obj →
      ∃ obj', (v.put s.store (a.request v cfg job) a).1.lookup path = some obj' ∧
        Holds v cfg s path obj' := by
  have hown : Holds v cfg s (objectPath v cfg job) job.wavData :=
    ⟨job, hs.known.hands k i job hjob, rfl, rfl⟩
  rcases put_cases v cfg job a s.store with ⟨-, -, hput⟩ | hput
  · rw [hput]
    constructor
    · intro path obj hlookup
      rw [AList.lookup_insert_ite] at hlookup
      split_ifs at hlookup with hpath
      · cases hlookup
        rw [hpath]
        exact Or.inr hown
      · exact hs.contents path obj hlookup
    · intro path obj hlookup hholds
      rw [AList.lookup_insert_ite]
      split_ifs with hpath
      · rw [hpath]
        exact ⟨job.wavData, rfl, hown⟩
      · exact ⟨obj, hlookup, hholds⟩
  · rw [hput]
    exact ⟨hs.contents, fun path obj hlookup hholds => ⟨obj, hlookup, hholds⟩⟩

/-- After a successful attempt the recording is there. -/
lemma lookup_of_succeeds (h : a.succeeds v cfg job store = true) :
    (v.put store (a.request v cfg job) a).1.lookup (objectPath v cfg job) = some job.wavData := by
  rw [Attempt.succeeds, Bool.and_eq_true, decide_eq_true_eq] at h
  rcases put_cases v cfg job a store with ⟨-, -, hput⟩ | hput
  · rw [hput]
    exact AList.lookup_insert _
  · rw [hput] at h
    exact absurd h.2 a.refusal.2

/-- The uploads in the log after a worker has finished with its job. -/
lemma Finishes.upload {job' : Job} {outcome' : Outcome} (hjob : s.jobAt k i = some job)
    (h : Finishes s s' k i job l store outcome) (hlog : .upload job' outcome' ∈ s'.manager.log) :
    .upload job' outcome' ∈ s.manager.log ∨ (job' = job ∧ outcome' = outcome) := by
  rcases log_cases h.manager with ⟨-, hne⟩ | ⟨k₁, i₁, job₁, outcome₁, hgo, hw, heq⟩ |
    ⟨k₁, i₁, job₁, ok, hgo, -, -⟩
  · exact absurd rfl (hne k i (some outcome))
  · cases hgo
    rw [Uploading.jobAt, hw] at hjob
    cases hjob
    rw [heq] at hlog
    rcases List.mem_append.mp hlog with hlog | hlog
    · exact Or.inl hlog
    · cases List.mem_singleton.mp hlog
      exact Or.inr ⟨rfl, rfl⟩
  · cases hgo

lemma Stored.start : Stored v cfg store₀ (.start env store₀) where
  known := .new env
  contents _ _ h := Or.inl h
  stored _ h := by cases h

lemma Stored.step (hs : Stored v cfg store₀ s) (h : Stepped v cfg s s') :
    Stored v cfg store₀ s' := by
  have hsub := h.pushed
  -- What a worker leaves behind when it has finished.
  have hfinish : ∀ {k i : ℕ} {job : Job} {l : Option (List Attempt)} {store : Store}
      {outcome : Outcome}, s.jobAt k i = some job → Finishes s s' k i job l store outcome →
      (∀ path obj, store.lookup path = some obj →
        store₀.lookup path = some obj ∨ Holds v cfg s path obj) →
      (∀ path obj, s.store.lookup path = some obj → Holds v cfg s path obj →
        ∃ obj', store.lookup path = some obj' ∧ Holds v cfg s path obj') →
      (outcome = .returned true → ∃ obj, store.lookup (objectPath v cfg job) = some obj ∧
        Holds v cfg s (objectPath v cfg job) obj) → Stored v cfg store₀ s' := by
    intro k i job l store outcome hjob hf hcontents hkept hnew
    refine ⟨h.known hs.known, fun path obj hlookup => ?_, fun job' hlog => ?_⟩
    · rw [hf.store] at hlookup
      exact (hcontents path obj hlookup).imp_right fun hholds => hholds.mono hsub
    · rw [hf.store]
      rcases hf.upload hjob hlog with hold | ⟨rfl, rfl⟩
      · obtain ⟨obj, hlookup, hholds⟩ := hs.stored job' hold
        obtain ⟨obj', hlookup', hholds'⟩ := hkept _ obj hlookup hholds
        exact ⟨obj', hlookup', hholds'.mono hsub⟩
      · obtain ⟨obj, hlookup, hholds⟩ := hnew rfl
        exact ⟨obj, hlookup, hholds.mono hsub⟩
  have hsame : ∀ path obj, s.store.lookup path = some obj → Holds v cfg s path obj →
      ∃ obj', s.store.lookup path = some obj' ∧ Holds v cfg s path obj' :=
    fun path obj hlookup hholds => ⟨obj, hlookup, hholds⟩
  cases h with
  | @pool e hstep hrest =>
    have hknown := hs.known.step hstep
    refine ⟨hknown, fun path obj hlookup => ?_, fun job hlog => ?_⟩
    · rw [hrest] at hlookup
      exact (hs.contents path obj hlookup).imp_right fun hholds => hholds.mono hsub
    · have hold : .upload job (.returned true) ∈ s.manager.log := by
        rcases log_cases hstep with ⟨hlog', -⟩ | ⟨k, i, job', outcome, hgo, -, -⟩ |
          ⟨k, i, job', ok, -, -, hlog'⟩
        · exact hlog' ▸ hlog
        · cases e <;> cases hgo
        · rw [hlog'] at hlog
          rcases List.mem_append.mp hlog with hlog | hlog
          · exact hlog
          · cases List.mem_singleton.mp hlog
      obtain ⟨obj, hlookup, hholds⟩ := hs.stored job hold
      rw [hrest]
      exact ⟨obj, hlookup, hholds.mono (hrest ▸ hsub)⟩
  | @success k i job a hjob hsuccess hf =>
    obtain ⟨hcontents, hkept⟩ := hs.put (v := v) hjob a
    exact hfinish hjob hf hcontents hkept fun _ =>
      ⟨job.wavData, lookup_of_succeeds hsuccess, job, hs.known.hands k i job hjob, rfl, rfl⟩
  | @again k i job a hjob hfailed hroom hrest =>
    obtain ⟨hcontents, hkept⟩ := hs.put (v := v) hjob a
    rw [hrest]
    refine ⟨hs.known, hcontents, fun job' hlog => ?_⟩
    obtain ⟨obj, hlookup, hholds⟩ := hs.stored job' hlog
    exact hkept _ obj hlookup hholds
  | @gaveUp k i job a hjob hfailed hfull hf =>
    obtain ⟨hcontents, hkept⟩ := hs.put (v := v) hjob a
    exact hfinish hjob hf hcontents hkept (by rintro ⟨⟩)
  | noHandle hjob hf => exact hfinish hjob hf hs.contents hsame (by rintro ⟨⟩)
  | threw hjob hf => exact hfinish hjob hf hs.contents hsame (by rintro ⟨⟩)

/-! ### Recordings in the bucket -/

/-- A submission of recordings only. -/
def Recorded (P : Submission → Prop) : Uploading → Event → Prop
  | _, .pool (.push x) => P x
  | _, _               => True

/-- What a submitted job hands over. -/
def submission (job : Job) : Submission := ⟨job.callId, job.wavData, job.folder⟩

lemma pushed_cases (h : Uploads.step m e = some m') : m'.pushed = m.pushed ∨
    ∃ x, e = .push x ∧
      m'.pushed = m.pushed ++ [⟨x.callId, x.wavData, x.folder, m.pushed.length⟩] := by
  cases Pool.Stepped.of_step h with
  | @push x k job mon haccept hm =>
    cases haccept
    exact Or.inr ⟨x, rfl, rfl⟩
  | idle | go | found | empty | stop | notifyAll | join => exact Or.inl rfl

lemma forall_pushed_step {P : Submission → Prop} (hs : ∀ job ∈ s.manager.pushed, P (submission job))
    (hguard : Recorded P s ev) (h : s.step v cfg ev = some s') :
    ∀ job ∈ s'.manager.pushed, P (submission job) := by
  have hfinish : ∀ {k i : ℕ} {job : Job} {l : Option (List Attempt)} {store : Store}
      {outcome : Outcome},
      s.finish k i job l store outcome = some s' → s'.manager.pushed = s.manager.pushed := by
    intro k i job l store outcome hf
    rcases pushed_cases (finishes_of_finish hf).manager with heq | ⟨x, hx, -⟩
    · exact heq
    · cases hx
  cases ev with
  | pool e =>
    obtain ⟨m, hm, rfl⟩ := Option.map_eq_some_iff.mp h
    rcases pushed_cases hm with heq | ⟨x, hx, heq⟩
    · rwa [heq]
    · rw [heq]
      intro job hjob
      rcases List.mem_append.mp hjob with hjob | hjob
      · exact hs job hjob
      · cases e <;> cases hx
        rw [List.mem_singleton.mp hjob]
        exact hguard
  | attempt k i a =>
    obtain ⟨job, -, h⟩ := Option.bind_eq_some_iff.mp h
    simp only at h
    split_ifs at h
    · rwa [hfinish h]
    · cases h
      exact hs
    · rwa [hfinish h]
  | noHandle k i =>
    obtain ⟨job, -, h⟩ := Option.bind_eq_some_iff.mp h
    split_ifs at h
    rwa [hfinish h]
  | throws k i =>
    obtain ⟨job, -, h⟩ := Option.bind_eq_some_iff.mp h
    rwa [hfinish h]

lemma returned_of_ok (h : outcome.ok = true) : outcome = .returned true := by
  cases outcome with
  | returned ok => rw [show ok = true from h]
  | threw => cases h

/-- A recording that is handed over. -/
def IsRecording (x : Submission) : Prop := ∃ rawData sampleRate,
  x.wavData = WavFile.convertToWav rawData sampleRate ∧ 44 + 2 * rawData.length < 2 ^ 32 ∧
    sampleRate < 2 ^ 31

/-- A file from which samples and their rate are read back. -/
def IsFile (obj : Bytes) : Prop := ∃ rawData sampleRate,
  obj = WavFile.convertToWav rawData sampleRate ∧
    ∃ w, Riff.parse obj = some w ∧ w.format.sampleRate = sampleRate ∧
      Recording.toSamples w.data = rawData

lemma IsRecording.isFile (h : IsRecording (submission job)) : IsFile job.wavData := by
  obtain ⟨rawData, sampleRate, hwav, hsize, hrate⟩ := h
  have hwav' : job.wavData = WavFile.convertToWav rawData sampleRate := hwav
  refine ⟨rawData, sampleRate, hwav', WavFile.wave rawData sampleRate, ?_, rfl,
    MediaPort.toSamples_flatMap rawData⟩
  rw [hwav']
  exact WavFile.parse_convertToWav hsize hrate

lemma forall_pushed {P : Submission → Prop}
    (hguard : Guarded (Uploading.step v cfg) (Recorded P) (.start env store₀) es)
    (hr : run (Uploading.step v cfg) (.start env store₀) es = some s) :
    ∀ job ∈ s.manager.pushed, P (submission job) :=
  run_invariant (I := fun s : Uploading => ∀ job ∈ s.manager.pushed, P (submission job))
    (fun _ _ _ hs hg h => forall_pushed_step hs hg h) (fun _ h => by cases h) hguard hr

/-- In every run, whichever attempts fail and however they interleave, the bucket gets nothing but
whole recordings under their own names: an object is from before, or the file of a recording that
was handed over with its name, and its samples are read back from it. When a caller is told that its
upload was successful, there is such an object. -/
theorem bucket_holds_recordings
    (hguard : Guarded (Uploading.step v cfg) (Recorded IsRecording) (.start env store₀) es)
    (hr : run (Uploading.step v cfg) (.start env store₀) es = some s) :
    (∀ path obj, s.store.lookup path = some obj →
      store₀.lookup path = some obj ∨ (Holds v cfg s path obj ∧ IsFile obj)) ∧
    ∀ promise, .setValue promise true ∈ s.manager.log → ∃ job ∈ s.manager.pushed,
      job.result = promise ∧ ∃ obj, s.store.lookup (objectPath v cfg job) = some obj ∧
        Holds v cfg s (objectPath v cfg job) obj ∧ IsFile obj := by
  have hstored : Stored v cfg store₀ s :=
    run_invariant' (I := Stored v cfg store₀) (fun s e s' hs h => hs.step (.of_step h)) .start hr
  have hfile : ∀ {path : Chars} {obj : Bytes}, Holds v cfg s path obj → IsFile obj := by
    rintro path obj ⟨job, hjob, -, rfl⟩
    exact (forall_pushed hguard hr job hjob).isFile
  constructor
  · intro path obj hlookup
    exact (hstored.contents path obj hlookup).imp_right fun hholds => ⟨hholds, hfile hholds⟩
  · intro promise hvalue
    obtain ⟨job, outcome, hupload, hresult, hok⟩ := hstored.known.values promise true hvalue
    obtain rfl := returned_of_ok hok
    obtain ⟨obj, hlookup, hholds⟩ := hstored.stored job hupload
    exact ⟨job, hstored.known.logged job _ hupload, hresult, obj, hlookup, hholds, hfile hholds⟩

/-- The first attempt is broken off, the second one is refused, and the third one goes through. -/
def sampleEvents : List Event :=
  let now : Tm := ⟨2024, 5, 6, 7, 8, 9⟩
  [.pool (.push (uploadAsync "7f-03" [1, -2, 300] 16000 "calls/2024")), .pool (.check 0 0),
    .pool (.leave 0 0), .attempt 0 0 ⟨now, [10], true, ⟨0, by decide⟩, false⟩,
    .attempt 0 0 ⟨now, [16, 64], false, ⟨503, by decide⟩, true⟩,
    .attempt 0 0 ⟨now, [16, 16, 16, 16], true, ⟨503, by decide⟩, true⟩, .pool (.go 0 0 ())]

lemma run_sample : ∃ s,
    run (Uploading.step sampleRemote sampleConfig) (.start (fun _ => none) ∅) sampleEvents =
      some s ∧ s.manager.log.any (fun e => e.value = some (0, true)) = true ∧
      s.finished.map (fun f => f.2.1.map List.length) = [some 3] := by
  have hrun : (run (Uploading.step sampleRemote sampleConfig) (.start (fun _ => none) ∅)
      sampleEvents).any (fun s => s.manager.log.any (fun e => e.value = some (0, true)) ∧
        s.finished.map (fun f => f.2.1.map List.length) = [some 3]) = true := by
    decide +kernel
  obtain ⟨s, hr, hs⟩ := (Option.any_eq_true _ _).mp hrun
  exact ⟨s, hr, of_decide_eq_true hs⟩

/-- The caller is told of the success. -/
lemma logged_sample {s : Uploading}
    (hvalue : s.manager.log.any (fun e => e.value = some (0, true)) = true) :
    .setValue 0 true ∈ s.manager.log := by
  obtain ⟨e, he, hvalue⟩ := List.any_eq_true.mp hvalue
  cases e with
  | upload job outcome => cases of_decide_eq_true hvalue
  | setValue promise ok =>
    cases of_decide_eq_true hvalue
    exact he

/-- The caller is told of the success. -/
theorem bucket_holds_recordings_sample : ∃ s,
    run (Uploading.step sampleRemote sampleConfig) (.start (fun _ => none) ∅) sampleEvents =
      some s ∧ .setValue 0 true ∈ s.manager.log ∧ ∃ job ∈ s.manager.pushed, job.result = 0 ∧
        ∃ obj, s.store.lookup (objectPath sampleRemote sampleConfig job) = some obj ∧
          IsFile obj := by
  obtain ⟨s, hr, hvalue, -⟩ := run_sample
  have hguard : Guarded (Uploading.step sampleRemote sampleConfig) (Recorded IsRecording)
      (.start (fun _ => none) ∅) sampleEvents :=
    ⟨⟨[1, -2, 300], 16000, rfl, by decide, by decide⟩, fun _ _ => ⟨trivial, fun _ _ => ⟨trivial,
      fun _ _ => ⟨trivial, fun _ _ => ⟨trivial, fun _ _ => ⟨trivial, fun _ _ => ⟨trivial,
        fun _ _ => trivial⟩⟩⟩⟩⟩⟩⟩
  have hlog := logged_sample hvalue
  obtain ⟨job, hjob, hresult, obj, hlookup, -, hfile⟩ :=
    (bucket_holds_recordings hguard hr).2 0 hlog
  exact ⟨s, hr, hlog, job, hjob, hresult, obj, hlookup, hfile⟩

/-! ### Attempts at an upload -/

/-- What was tried for a job: at most three attempts, and success if and only if one of them could
not fail. Where the upload returns without success, it has made all of them, or there was no handle
to make one with. -/
structure Tried (job : Job) (l : Option (List Attempt)) (outcome : Outcome) : Prop where
  bounded : ∀ tried ∈ l, tried.length ≤ maxRetries
  success : outcome = .returned true ↔ ∃ tried ∈ l, ∃ a ∈ tried, a.GoesThrough job
  gaveUp : outcome = .returned false → ∀ tried ∈ l, tried.length = maxRetries
  noHandle : l = none → outcome = .returned false

structure Retried (s : Uploading) : Prop where
  working : ∀ k i job, s.jobAt k i = some job →
    (s.tries k i).length < maxRetries ∧ ∀ a ∈ s.tries k i, ¬a.GoesThrough job
  idle : ∀ k i, s.jobAt k i = none → s.tries k i = []
  finished : ∀ job l outcome, (job, l, outcome) ∈ s.finished → Tried job l outcome
  logged : ∀ job outcome, .upload job outcome ∈ s.manager.log → ∃ l, (job, l, outcome) ∈ s.finished

lemma Retried.start : Retried (.start env store₀) where
  working k i job hjob := ⟨Nat.zero_lt_succ 2, fun _ h => by cases h⟩
  idle _ _ _ := rfl
  finished _ _ _ h := by cases h
  logged _ _ h := by cases h

lemma workAt_go (h : Uploads.step m (.go k i (some outcome)) = some m')
    (hw : m.workAt k i = some (.uploading job)) :
    m'.workAt k i = some (.uploaded job outcome.ok) := by
  cases Pool.Stepped.of_step h with
  | idle he => cases he
  | @go _ _ mon _ w w' out hm hi hgo =>
    rw [Pool.workAt_eq, hm, Option.bind_some, Pool.handAt, hi] at hw
    cases hw
    cases hgo
    rw [Pool.workAt_set hm rfl, if_pos rfl, Pool.handAt_put hi, if_pos rfl]
    rfl

lemma jobAt_eq_some (h : s.jobAt k i = some job) :
    s.manager.workAt k i = some (.uploading job) := by
  obtain ⟨w, hw, hjob⟩ := Option.bind_eq_some_iff.mp h
  cases w with
  | uploading job' =>
    cases hjob
    exact hw
  | uploaded | ended => cases hjob

/-- What the worker has tried, when its attempts are over. -/
lemma Retried.finish (hs : Retried s) (hjob : s.jobAt k i = some job)
    (hf : Finishes s s' k i job l store outcome) (htried : Tried job l outcome) : Retried s' := by
  have hgo := workAt_go hf.manager (jobAt_eq_some hjob)
  have hown : s'.jobAt k i = none := by
    rw [Uploading.jobAt, hgo]
    rfl
  have htries : ∀ k' i', ¬(k' = k ∧ i' = i) → s'.tries k' i' = s.tries k' i' := by
    intro k' i' hne
    rw [hf.tries, Uploading.setTries, if_neg hne]
  have hother : ∀ k' i', ¬(k' = k ∧ i' = i) → s'.jobAt k' i' = s.jobAt k' i' ∨
      (s.jobAt k' i' = none) := by
    intro k' i' hne
    rcases work_cases hf.manager k' i' with heq | ⟨-, -, job', -, hnone, -⟩ | ⟨hnone, -, -⟩ |
      ⟨job', outcome', hgo', -, -, -⟩ | ⟨job', ok, hgo', -, -⟩
    · exact Or.inl (by rw [Uploading.jobAt, Uploading.jobAt, heq])
    · exact Or.inr (by rw [Uploading.jobAt, hnone]; rfl)
    · exact Or.inr (by rw [Uploading.jobAt, hnone]; rfl)
    · cases hgo'
      exact absurd ⟨rfl, rfl⟩ hne
    · cases hgo'
  refine ⟨fun k' i' job' hjob' => ?_, fun k' i' hnone => ?_, fun job' l' outcome' hmem => ?_,
    fun job' outcome' hlog => ?_⟩
  · have hne : ¬(k' = k ∧ i' = i) := by
      rintro ⟨rfl, rfl⟩
      rw [hown] at hjob'
      cases hjob'
    rw [htries k' i' hne]
    rcases hother k' i' hne with heq | hnone
    · exact hs.working k' i' job' (heq ▸ hjob')
    · rw [hs.idle k' i' hnone]
      exact ⟨by decide, fun _ h => by cases h⟩
  · by_cases hne : k' = k ∧ i' = i
    · rw [hf.tries, Uploading.setTries, if_pos hne]
    · rw [htries k' i' hne]
      rcases hother k' i' hne with heq | hnone'
      · exact hs.idle k' i' (heq ▸ hnone)
      · exact hs.idle k' i' hnone'
  · rw [hf.finished] at hmem
    rcases List.mem_append.mp hmem with hmem | hmem
    · exact hs.finished job' l' outcome' hmem
    · cases List.mem_singleton.mp hmem
      exact htried
  · rw [hf.finished]
    rcases hf.upload hjob hlog with hold | ⟨rfl, rfl⟩
    · obtain ⟨l', hmem⟩ := hs.logged job' outcome' hold
      exact ⟨l', List.mem_append_left _ hmem⟩
    · exact ⟨l, List.mem_append_right _ (List.mem_singleton_self _)⟩

/-- A submission with a plain path. -/
def Sendable (cfg : Config) (x : Submission) : Prop :=
  PlainPath (canonicalUri cfg ⟨x.callId, x.wavData, x.folder, 0⟩)

lemma Retried.pool {e : PoolEvent Submission Unit} (hs : Retried s)
    (hstep : Uploads.step s.manager (e.map fun _ => none) = some s'.manager)
    (hrest : s' = { s with manager := s'.manager }) : Retried s' := by
  have hjobs : ∀ k i, s'.jobAt k i = s.jobAt k i ∨
      (s.jobAt k i = none ∧ ∃ job, s'.jobAt k i = some job) := by
    intro k i
    rcases work_cases hstep k i with heq | ⟨-, -, job, -, hnone, heq⟩ | ⟨hnone, hnone', -⟩ |
      ⟨job, outcome, hgo, -, -, -⟩ | ⟨job, ok, -, hw, heq⟩
    · exact Or.inl (by rw [Uploading.jobAt, Uploading.jobAt, heq])
    · exact Or.inr ⟨by rw [Uploading.jobAt, hnone]; rfl, job, by rw [Uploading.jobAt, heq]; rfl⟩
    · exact Or.inl (by rw [Uploading.jobAt, Uploading.jobAt, hnone', hnone]; rfl)
    · cases e <;> cases hgo
    · exact Or.inl (by rw [Uploading.jobAt, Uploading.jobAt, hw, heq]; rfl)
  have htries : s'.tries = s.tries := by rw [hrest]
  have hfinished : s'.finished = s.finished := by rw [hrest]
  refine ⟨fun k i job hjob => ?_, fun k i hnone => ?_, ?_, fun job outcome hlog => ?_⟩
  · rw [htries]
    rcases hjobs k i with heq | ⟨hnone, -⟩
    · exact hs.working k i job (heq ▸ hjob)
    · rw [hs.idle k i hnone]
      exact ⟨by decide, fun _ h => by cases h⟩
  · rw [htries]
    rcases hjobs k i with heq | ⟨hnone', -⟩
    · exact hs.idle k i (heq ▸ hnone)
    · exact hs.idle k i hnone'
  · rw [hfinished]
    exact hs.finished
  · rw [hfinished]
    rcases log_cases hstep with ⟨hlog', -⟩ | ⟨k, i, job', outcome', hgo, -, -⟩ |
      ⟨k, i, job', ok, -, -, hlog'⟩
    · exact hs.logged job outcome (hlog' ▸ hlog)
    · cases e <;> cases hgo
    · rw [hlog'] at hlog
      rcases List.mem_append.mp hlog with hlog | hlog
      · exact hs.logged job outcome hlog
      · cases List.mem_singleton.mp hlog

lemma Retried.step (hcfg : Configured v cfg) (hknown : Known s.manager)
    (hpath : ∀ job ∈ s.manager.pushed, Sendable cfg (submission job)) (hs : Retried s)
    (h : Stepped v cfg s s') : Retried s' := by
  have hgoes : ∀ {k i : ℕ} {job : Job} {a : Attempt}, s.jobAt k i = some job →
      (a.succeeds v cfg job s.store = true ↔ a.GoesThrough job) := by
    intro k i job a hjob
    have hplain : PlainPath (canonicalUri cfg job) := hpath job (hknown.hands k i job hjob)
    exact succeeds_iff hcfg hplain s.store
  have hfailed : ∀ {k i : ℕ} {job : Job} {a : Attempt}, s.jobAt k i = some job →
      a.succeeds v cfg job s.store = false → ∀ b ∈ s.tries k i ++ [a], ¬b.GoesThrough job := by
    intro k i job a hjob hfailed b hb hthrough
    rcases List.mem_append.mp hb with hb | hb
    · exact (hs.working k i job hjob).2 b hb hthrough
    · rw [List.mem_singleton.mp hb] at hthrough
      rw [(hgoes hjob).mpr hthrough] at hfailed
      cases hfailed
  have hnone : ∀ {job : Job} {l : List Attempt} {outcome : Outcome}, outcome ≠ .returned true →
      (∀ b ∈ l, ¬b.GoesThrough job) →
        (outcome = .returned true ↔ ∃ tried ∈ some l, ∃ a ∈ tried, a.GoesThrough job) := by
    intro job l outcome hne hl
    refine iff_of_false hne ?_
    rintro ⟨_, ⟨⟩, a, ha, hthrough⟩
    exact hl a ha hthrough
  cases h with
  | pool hstep hrest => exact hs.pool hstep hrest
  | @success k i job a hjob hsuccess hf =>
    have hbound := (hs.working k i job hjob).1
    have hthrough : ∃ b ∈ s.tries k i ++ [a], b.GoesThrough job :=
      ⟨a, List.mem_append_right _ (List.mem_singleton_self a), (hgoes hjob).mp hsuccess⟩
    refine hs.finish hjob hf ⟨?_, iff_of_true rfl ⟨_, rfl, hthrough⟩, by rintro ⟨⟩, by rintro ⟨⟩⟩
    rintro _ ⟨⟩
    rw [List.length_append, List.length_singleton]
    omega
  | @again k i job a hjob hfail hroom hrest =>
    have htries : s'.tries = s.setTries k i (s.tries k i ++ [a]) := by rw [hrest]
    have hjobs : ∀ k' i', s'.jobAt k' i' = s.jobAt k' i' := by
      intro k' i'
      rw [hrest]
      rfl
    refine ⟨fun k' i' job' hjob' => ?_, fun k' i' hnone' => ?_, ?_, ?_⟩
    · rw [hjobs] at hjob'
      rw [htries, Uploading.setTries]
      split_ifs with hown
      · obtain ⟨rfl, rfl⟩ := hown
        obtain rfl := Option.some.inj (hjob.symm.trans hjob')
        exact ⟨hroom, hfailed hjob hfail⟩
      · exact hs.working k' i' job' hjob'
    · rw [hjobs] at hnone'
      rw [htries, Uploading.setTries, if_neg]
      · exact hs.idle k' i' hnone'
      · rintro ⟨rfl, rfl⟩
        rw [hjob] at hnone'
        cases hnone'
    · rw [hrest]
      exact hs.finished
    · rw [hrest]
      exact hs.logged
  | @gaveUp k i job a hjob hfail hfull hf =>
    have hbound := (hs.working k i job hjob).1
    have hlength : (s.tries k i ++ [a]).length = maxRetries := by
      rw [List.length_append, List.length_singleton] at hfull ⊢
      omega
    refine hs.finish hjob hf
      ⟨?_, hnone (by rintro ⟨⟩) (hfailed hjob hfail), fun _ => ?_, by rintro ⟨⟩⟩
    · rintro _ ⟨⟩
      exact hlength.le
    · rintro _ ⟨⟩
      exact hlength
  | noHandle hjob hf =>
    refine hs.finish hjob hf ⟨?_, iff_of_false (by rintro ⟨⟩) ?_, fun _ => ?_, fun _ => rfl⟩
    · rintro _ ⟨⟩
    · rintro ⟨_, ⟨⟩, -⟩
    · rintro _ ⟨⟩
  | @threw k i job hjob hf =>
    obtain ⟨hbound, hall⟩ := hs.working k i job hjob
    refine hs.finish hjob hf ⟨?_, hnone (by rintro ⟨⟩) hall, by rintro ⟨⟩, by rintro ⟨⟩⟩
    rintro _ ⟨⟩
    exact hbound.le

/-- In every run, every upload was tried at most three times, and was successful if and only if the
server took one of the attempts and answered. -/
theorem uploads_retried (hcfg : Configured v cfg)
    (hguard : Guarded (Uploading.step v cfg) (Recorded (Sendable cfg)) (.start env store₀) es)
    (hr : run (Uploading.step v cfg) (.start env store₀) es = some s) :
    ∀ job outcome, .upload job outcome ∈ s.manager.log →
      ∃ l, (job, l, outcome) ∈ s.finished ∧ Tried job l outcome := by
  have hretried : (Known s.manager ∧ Retried s) ∧
      ∀ job ∈ s.manager.pushed, Sendable cfg (submission job) :=
    run_invariant (I := fun s : Uploading => (Known s.manager ∧ Retried s) ∧
        ∀ job ∈ s.manager.pushed, Sendable cfg (submission job))
      (fun s e s' hs hg h => ⟨⟨(Stepped.of_step h).known hs.1.1,
        hs.1.2.step hcfg hs.1.1 hs.2 (.of_step h)⟩, forall_pushed_step hs.2 hg h⟩)
      ⟨⟨.new env, .start⟩, fun _ h => by cases h⟩ hguard hr
  intro job outcome hlog
  obtain ⟨l, hmem⟩ := hretried.1.2.logged job outcome hlog
  exact ⟨l, hmem, hretried.1.2.finished job l outcome hmem⟩

/-- The upload took three attempts. -/
theorem uploads_retried_sample : ∃ s,
    run (Uploading.step sampleRemote sampleConfig) (.start (fun _ => none) ∅) sampleEvents =
      some s ∧ ∃ job tried, .upload job (.returned true) ∈ s.manager.log ∧ job.result = 0 ∧
        (job, some tried, .returned true) ∈ s.finished ∧ tried.length = 3 ∧
        Tried job (some tried) (.returned true) := by
  obtain ⟨s, hr, hvalue, hlengths⟩ := run_sample
  have hpath : Sendable sampleConfig (uploadAsync "7f-03" [1, -2, 300] 16000 "calls/2024") :=
    (by decide : PlainPath (canonicalUri sampleConfig sampleJob))
  have hguard : Guarded (Uploading.step sampleRemote sampleConfig)
      (Recorded (Sendable sampleConfig)) (.start (fun _ => none) ∅) sampleEvents :=
    ⟨hpath, fun _ _ => ⟨trivial, fun _ _ => ⟨trivial, fun _ _ => ⟨trivial, fun _ _ => ⟨trivial,
      fun _ _ => ⟨trivial, fun _ _ => ⟨trivial, fun _ _ => trivial⟩⟩⟩⟩⟩⟩⟩
  have hknown : Known s.manager := (run_invariant' (I := Stored sampleRemote sampleConfig ∅)
    (fun s e s' hs h => hs.step (.of_step h)) .start hr).known
  obtain ⟨job, outcome, hupload, hresult, hok⟩ := hknown.values 0 true (logged_sample hvalue)
  obtain rfl := returned_of_ok hok
  obtain ⟨l, hfinished, htried⟩ := uploads_retried configured_sample hguard hr job _ hupload
  have hlength : l.map List.length = some 3 := by
    have hmem := List.mem_map_of_mem (f := fun f => f.2.1.map List.length) hfinished
    rw [hlengths] at hmem
    exact List.mem_singleton.mp hmem
  obtain ⟨tried, rfl, hthree⟩ := Option.map_eq_some_iff.mp hlength
  exact ⟨s, hr, job, tried, hupload, hresult, hfinished, hthree, htried⟩

end MediaServer.R2
