import SipForward.Core.GoJson
import SipForward.LoadBalancer.Routing
import SipForward.MediaServer.IncomingCall
import SipForward.System.Extensions

/-!
# A call from a trunk to a media server

The dialplan asks the load balancer for a container and sends it an INVITE with the trunk and the
DID of the call; the media server reads both from the text of that INVITE.
-/

namespace LoadBalancer

open Core

/-- The body of `GetInboundContactHandler` for `/get-inbound-contact/asterisk`. Without a container
it is that of an error. -/
def inboundContact (s : State) : List Char :=
  match (selectInbound s).1 with
  | .ok best => "PJSIP/".toList ++ best.aor.toList ++ "/".toList ++ best.contactURI.toList
  | .error e =>
    (JsonText.Encoder.go.value (.object
      [(Text.ofString "status", .number (.integer 503)),
        (Text.ofString "message", .string (Text.ofString "No available inbound containers")),
        (Text.ofString "error", .string (Text.ofString e))])).filterMap id

end LoadBalancer

namespace Asterisk

open Core.Dialplan LoadBalancer
open MediaServer.Incoming (Invite Clean Routing accept trim cleanPhoneNumber userPart xTrunk
  xToNumber pAssertedIdentity)

variable {w : Core.Dialplan.World} {e trunk did : Chars} {c : Channel} {m : Invite} {redis : Redis}
  {scan : List (String × Bool)} {best : ServerMetadata}

/-- An INVITE with the headers that were added to a channel. -/
def Carries (m : Invite) (c : Channel) : Prop := ∀ h ∈ c.added, m.values h.1.toList = [h.2]

/-- The number of the caller that an INVITE asserts. -/
def asserted (m : Invite) : Chars :=
  ((m.values pAssertedIdentity).head?.bind userPart).elim [] cleanPhoneNumber

/-- What a media server derives from an INVITE of the dialplan. -/
lemma carries_routing (hadded : c.added = [("X-To-Number", did), ("X-Trunk", trunk)])
    (hm : Carries m c) (hclean : Clean m) :
    m.routing = (accept (trim trunk) (some (cleanPhoneNumber did)) (asserted m)).toOption := by
  have hdid : m.values xToNumber = [did] := hm ("X-To-Number", did) (by rw [hadded]; simp)
  have htrunk : m.values xTrunk = [trunk] := hm ("X-Trunk", trunk) (by rw [hadded]; simp)
  rw [hclean.routing, Invite.ownRouting, hdid, htrunk]
  rfl

/-- No contender for a direction has fewer calls. -/
def LeastLoaded (s : State) (d : Direction) (n : String) : Prop :=
  ∃ count, s.lscs.lookup n = some count ∧
    ∀ x ∈ s.servers d, ∀ other ∈ s.lscs.lookup x, count ≤ other

lemma selectInbound_least (hs : Consistent s) (h : (selectInbound s).1 = .ok best) :
    LeastLoaded s .inbound best.name := by
  rcases findLowest_cases .inbound s with ⟨e, heq⟩ | ⟨n, count, -, -, hn, -, hmin, hres⟩
  · rw [selectInbound, heq] at h
    cases h
  · rcases hres with ⟨-, e, heq⟩ | ⟨old, hold, heq⟩
    · rw [selectInbound, heq] at h
      cases h
    · rw [selectInbound, heq] at h
      cases h
      have hname : (old.withCalls (count + 1)).name = n := hs.name n old hold
      rw [hname]
      exact ⟨count, hn, hmin⟩

/-- What is dialed for a call whose number has a row, when there is a container for it. -/
lemma dialed_best (hcurl : w.curl contactUrl =
      "PJSIP/".toList ++ best.aor.toList ++ "/".toList ++ best.contactURI.toList)
    (h : PlainInbound w e) (hrow : inboundRow w (inboundKey e) = some (trunk, did)) (c : Channel) :
    ∃ d r k, (∀ i, k ≤ i → extensions.run w i "from-trunk" e c = some r) ∧
      r.actions = [.dialed d] ∧ ComesIn w c trunk did d := by
  obtain ⟨r, ⟨n, hrun⟩, hhandled⟩ := runs_fromTrunk h c
  obtain ⟨k, hk⟩ := eventually_run (find_fromTrunk h.exten) hrun
  rw [hrow] at hhandled
  have hne : w.curl contactUrl ≠ [] := by
    rw [hcurl]
    simp
  have hrouted : Routed w c trunk did r := hhandled
  rw [Routed, if_neg hne] at hrouted
  obtain ⟨d, hd, hactions, -⟩ := hrouted
  exact ⟨d, r, k, hk, hactions, hd⟩

/-- A call from a trunk whose number has a row is sent once, to a container that is registered,
takes inbound calls, is healthy and has the fewest calls of those; and the media server reads the
trunk and the number of that row from every clean INVITE with the headers it is sent with. -/
theorem inbound_routed (hw : WrittenByService redis) (hscan : ScanOnce redis scan) (now : Int)
    (ops : List Op) (hcurl : w.curl contactUrl = inboundContact (serve now redis scan ops))
    (hbest : (selectInbound (serve now redis scan ops)).1 = .ok best) (h : PlainInbound w e)
    (hrow : inboundRow w (inboundKey e) = some (trunk, did)) (c : Channel) :
    ∃ d r k, (∀ i, k ≤ i → extensions.run w i "from-trunk" e c = some r) ∧
      r.actions = [.dialed d] ∧
      d.destination =
        "PJSIP/".toList ++ best.aor.toList ++ "/".toList ++ best.contactURI.toList ∧
      Eligible (serve now redis scan ops) .inbound best.name ∧
      LeastLoaded (serve now redis scan ops) .inbound best.name ∧
      ∀ m, Carries m d.callee → Clean m →
        m.routing = (accept (trim trunk) (some (cleanPhoneNumber did)) (asserted m)).toOption := by
  have hs := consistent_serve hw hscan now ops
  have hcontact : w.curl contactUrl =
      "PJSIP/".toList ++ best.aor.toList ++ "/".toList ++ best.contactURI.toList := by
    rw [hcurl, inboundContact, hbest]
  obtain ⟨d, r, k, hk, hactions, hd⟩ := dialed_best hcontact h hrow c
  exact ⟨d, r, k, hk, hactions, hd.destination.trans hcontact, findLowest_eligible hs hbest,
    selectInbound_least hs hbest, fun m hm hclean => carries_routing hd.headers hm hclean⟩

/-- The service after a successful probe of its container. -/
def sampleService : State :=
  serve 0 sampleRedis [("container:media-1", true)] [.heartbeat 0 [⟨"media-1", .ok sampleHealth⟩]]

/-- `sampleWorld`, with the answers of that service. -/
def sampleAnswers : Core.Dialplan.World :=
  { sampleWorld with curl _ := inboundContact sampleService }

lemma plain_answers : PlainInbound sampleAnswers "10#919240".toList :=
  ⟨plain_inbound_sample.exten, plain_inbound_sample.own, plain_inbound_sample.provider,
    plain_inbound_sample.shared, by decide +kernel⟩

theorem inbound_routed_sample : ∃ (best : ServerMetadata) (d : Dialed) (r : Result) (k : ℕ),
    (∀ i, k ≤ i → extensions.run sampleAnswers i "from-trunk" "10#919240".toList
      sampleChannel = some r) ∧
    r.actions = [.dialed d] ∧
    d.destination = "PJSIP/".toList ++ best.aor.toList ++ "/".toList ++ best.contactURI.toList ∧
    Eligible sampleService .inbound best.name ∧ LeastLoaded sampleService .inbound best.name ∧
    ∀ m, Carries m d.callee → Clean m → m.routing = (accept (trim "7".toList)
      (some (cleanPhoneNumber "00919240292847".toList)) (asserted m)).toOption :=
  ⟨_, inbound_routed sampleRedis_written sampleRedis_once 0
    [.heartbeat 0 [⟨"media-1", .ok sampleHealth⟩]] rfl rfl plain_answers rfl sampleChannel⟩

end Asterisk
