import IndexSearch.Proofs.Digits
import IndexSearch.Proofs.JsonReading
import IndexSearch.Proofs.Utf8Texts
import IndexSearch.Service.Exchange
import Mathlib.Data.List.TakeWhile

namespace IndexSearch

open Number Text

/-!
# What becomes of a failed exchange

A request that is sent can fail in three ways: the network fails, something else goes wrong on the
way, or the service answers with another status than success. Each has an error of its own, and the
body of an answer has no say in which. It is read only for what the service reports in it, and a
body that reports nothing, for whatever reason, changes nothing. One of the reasons is that a whole
number in it is too long to be read. The network is relied on to answer only what has a scheme.

* `Service.Reports` — what a body reports, `Service.reportedPart?_eq_some_iff` — what is read of it;
* `Service.exchange_of_sent` — what comes of an exchange once its request is sent;
* `Service.refusal_spec` — the error for an answer with another status than success;
* `Reply.KeepsToSchemes` — what is relied on of the network;
* `Connection.failed_exchange` — the three ways to fail.
-/

namespace Service

/-! ### What a body reports -/

/-- **What a body reports** under a name: the body is an object, with an object under `error`, and
    this has the value under the name. A value that does not count as present is not reported. -/
def Reports (body : List UInt8) (name : String) (v : Value) : Prop :=
  ∃ fields reported j, Json.ofBytes body = .ok (.object fields)
    ∧ Json.field? "error" fields = some (.object reported)
    ∧ Json.field? name reported = some j ∧ j.toValue = v ∧ v.truthy = true

variable {body : List UInt8} {name : String} {v : Value}

/-- An error is reported by an object with an object under `error`, and by nothing else. -/
theorem reportedError?_eq_some_iff {e : Json} : reportedError? body = some e ↔
    ∃ fields reported, Json.ofBytes body = .ok (.object fields)
      ∧ Json.field? "error" fields = some (.object reported) ∧ e = .object reported := by
  unfold reportedError?
  constructor
  · intro h
    cases hread : Json.ofBytes body with
    | error cause =>
      -- the body is no JSON
      rw [hread] at h
      cases h
    | ok j =>
      rw [hread] at h
      obtain ⟨k, hk, hkind⟩ := Option.bind_eq_some_iff.mp h
      cases j with
      | object fields =>
        cases k with
        | object reported => exact ⟨fields, reported, rfl, hk, (Option.some.inj hkind).symm⟩
        | _ => cases hkind
      | _ => cases hk
  · rintro ⟨fields, reported, hread, herror, rfl⟩
    rw [hread]
    show (Json.field? "error" fields).bind _ = _
    rw [herror]
    rfl

/-- What is read of a body is what it reports. -/
theorem reportedPart?_eq_some_iff : reportedPart? name body = some v ↔ Reports body name v := by
  unfold reportedPart?
  constructor
  · intro h
    obtain ⟨j, hj, hpresent⟩ := Option.bind_eq_some_iff.mp h
    obtain ⟨e, he, hmember⟩ := Option.bind_eq_some_iff.mp hj
    obtain ⟨fields, reported, hread, herror, rfl⟩ := reportedError?_eq_some_iff.mp he
    -- a part that is there and empty is not reported
    by_cases htruthy : j.toValue.truthy = true
    · rw [if_pos htruthy] at hpresent
      obtain rfl := Option.some.inj hpresent
      exact ⟨fields, reported, j, hread, herror, hmember, rfl, htruthy⟩
    · rw [if_neg htruthy] at hpresent
      cases hpresent
  · rintro ⟨fields, reported, j, hread, herror, hmember, rfl, htruthy⟩
    rw [reportedError?_eq_some_iff.mpr ⟨fields, reported, hread, herror, rfl⟩]
    show (Json.field? name reported).bind _ = _
    rw [hmember]
    exact if_pos htruthy

/-- Nothing is read of a body exactly if it reports nothing. -/
theorem reportedPart?_eq_none_iff :
    reportedPart? name body = none ↔ ∀ v, ¬ Reports body name v := by
  rw [Option.eq_none_iff_forall_ne_some]
  simp only [ne_eq, reportedPart?_eq_some_iff]

/-- How the error for a refused search begins. -/
def refusalSummary (index : Value) (status : Nat) : String :=
  "Search on index " ++ index.plain ++ " failed with status " ++ toString status

/-- **The error for an answer with another status than success** has the status and the index. Its
    message is followed by the one that the service reports, and its values by the code that the
    service reports; nothing else of the body is in it. -/
theorem refusal_spec (index : Value) (status : Nat) (body : List UInt8) :
    ∃ message details, refusal index status body = .refused message status details
      ∧ (∀ v, Reports body "message" v →
        message = refusalSummary index status ++ ": " ++ v.plain)
      ∧ ((∀ v, ¬ Reports body "message" v) → message = refusalSummary index status)
      ∧ Json.field? "index" details = some index
      ∧ (∀ v, Json.field? "code" details = some v ↔ Reports body "code" v)
      ∧ ∀ name, name ≠ "index" → name ≠ "code" → Json.field? name details = none := by
  refine ⟨_, _, rfl, fun v hv => ?_, fun hnone => ?_, rfl, fun v => ?_, fun name hindex hcode => ?_⟩
  · rw [reportedPart?_eq_some_iff.mpr hv]
    rfl
  · rw [reportedPart?_eq_none_iff.mpr hnone]
    rfl
  · rw [← reportedPart?_eq_some_iff]
    cases reportedPart? "code" body with
    | none => exact iff_of_false (fun h => by cases h) (fun h => by cases h)
    | some c => exact Iff.rfl
  · -- the index and the code are the only details
    have hnames : ∀ code : List (String × Value), (∀ f ∈ code, f.1 = "code") →
        Json.field? name (("index", index) :: code) = none := by
      intro code hall
      rw [Json.field?_eq_none_iff]
      intro f hf
      rcases List.mem_cons.mp hf with rfl | hf
      · exact hindex.symm
      · rw [hall f hf]
        exact hcode.symm
    apply hnames
    cases reportedPart? "code" body <;> simp

/-! ### Requests that are sent -/

variable {s : Service} {index : Value} {r : SearchRequest} {reply : Reply}

/-- Once its request is sent, what comes of an exchange is what comes of the reply. -/
theorem exchange_of_sent (h : (s.exchange index r reply).sent ≠ []) :
    ∃ (url : Url) (q : SentRequest), (s.exchange index r reply).sent = [q]
      ∧ q.url = String.ofList url.toChars
      ∧ (s.exchange index r reply).outcome = s.receive index url reply := by
  unfold exchange at h ⊢
  split
  · rename_i e hc
    simp only [hc, ne_eq, not_true_eq_false] at h
  · rename_i c hc
    split
    · rename_i e hurl
      simp only [hc, hurl, ne_eq, not_true_eq_false] at h
    · rename_i url hurl
      exact ⟨url, _, rfl, rfl, rfl⟩

/-- What is sent does not depend on the reply. -/
theorem sent_eq (reply reply' : Reply) :
    (s.exchange index r reply).sent = (s.exchange index r reply').sent := by
  unfold exchange
  split
  · rfl
  · split <;> rfl

/-- An answer with another status than success is a refusal. -/
theorem receive_of_refused {url : Url} {status : Nat} {body : List UInt8}
    (hnamed : url.isNamed = true) (hstatus : ¬ (200 ≤ status ∧ status < 300)) :
    s.receive index url (.answered status body) = .error (refusal index status body) := by
  have hrefused : isSuccess status = false := by simpa [isSuccess] using hstatus
  simp only [receive, hnamed, hrefused, Bool.not_true, Bool.false_eq_true, if_false]

end Service

/-- Whether a text begins with a name and a colon, as a URL with a scheme does. -/
def BeginsWithName (s : String) : Prop :=
  ∃ name rest, s.toList = name ++ ':' :: rest ∧ name ≠ [] ∧ ∀ c ∈ name, c ≠ '/' ∧ c ≠ ':'

/-- Whether a URL is named can be seen from its text. -/
theorem Url.isNamed_iff (u : Url) :
    u.isNamed = true ↔ BeginsWithName (String.ofList u.toChars) := by
  unfold Url.isNamed BeginsWithName
  rw [String.toList_ofList]
  generalize u.toChars = cs
  simp only [Bool.and_eq_true, Bool.not_eq_true', List.isEmpty_eq_false_iff, decide_eq_true_eq]
  constructor
  · rintro ⟨hname, hcolon⟩
    obtain ⟨rest, hrest⟩ := List.head?_eq_some_iff.mp hcolon
    refine ⟨_, rest, ?_, hname, fun c hc => ?_⟩
    · rw [← hrest]
      exact (List.takeWhile_append_dropWhile).symm
    · simpa using List.mem_takeWhile_imp hc
  · rintro ⟨name, rest, rfl, hname, hchars⟩
    have hrun : ∀ c ∈ name, (c ≠ '/' && c ≠ ':') = true := fun c hc => by simpa using hchars c hc
    -- the colon is the first character that no name has
    have hstop : ∀ c ∈ (':' :: rest).head?, (c ≠ '/' && c ≠ ':') = false := by simp
    have htake := Number.takeWhile_append_stop hrun hstop
    have hdrop := Number.dropWhile_append_stop hrun hstop
    rw [htake, hdrop]
    exact ⟨hname, rfl⟩

/-- What is relied on of the network: it answers a request only if its URL begins with a scheme. For
    any other it has no way to the service, so the exchange fails. -/
def Reply.KeepsToSchemes (reply : Reply) (sent : List SentRequest) : Prop :=
  ∀ status body, reply = .answered status body → ∀ q ∈ sent, BeginsWithName q.url

namespace Connection

variable {c : Connection} {index : Value} {r : SearchRequest} {reply : Reply}

/-- **A failed exchange has the error of its failure.** Once a request is sent, a failure of the
    network is one to reach the service, and the error has the base URL; whatever else goes wrong on
    the way is passed on as it is; and an answer with another status than success is a refusal with
    that status, whatever its body is. A refusal has the index, and the message and the code that
    the body reports if it can be read. -/
theorem failed_exchange (hsent : (c.search index r reply).1.sent ≠ [])
    (hschemes : reply.KeepsToSchemes (c.search index r reply).1.sent) :
    let outcome := (c.search index r reply).1.outcome
    (∀ reason, reply = .failed reason → ∃ e, outcome = .error e
        ∧ e = .unreachable reason c.service.baseUrl
        ∧ e.details? = some [("base_url", .text c.service.baseUrl)])
      ∧ (∀ kind message, reply = .interrupted kind message →
        outcome = .error (.interrupted kind message))
      ∧ ∀ status body, reply = .answered status body → ¬ (200 ≤ status ∧ status < 300) →
        ∃ message details, outcome = .error (.refused message status details)
          ∧ (∀ v, Service.Reports body "message" v →
            message = Service.refusalSummary index status ++ ": " ++ v.plain)
          ∧ ((∀ v, ¬ Service.Reports body "message" v) →
            message = Service.refusalSummary index status)
          ∧ Json.field? "index" details = some index
          ∧ (∀ v, Json.field? "code" details = some v ↔ Service.Reports body "code" v)
          ∧ ∀ name, name ≠ "index" → name ≠ "code" → Json.field? name details = none := by
  intro outcome
  obtain ⟨url, q, hq, hurl, houtcome⟩ := Service.exchange_of_sent hsent
  have hreceive : outcome = c.service.receive index url reply := houtcome
  refine ⟨?_, ?_, ?_⟩
  · rintro reason rfl
    exact ⟨_, hreceive, rfl, rfl⟩
  · rintro kind message rfl
    exact hreceive
  · rintro status body rfl hstatus
    -- the address that was asked begins with a name, as every address that is answered does
    have hname : url.isNamed = true := by
      rw [Url.isNamed_iff, ← hurl]
      apply hschemes status body rfl
      show q ∈ (c.service.exchange index r (.answered status body)).sent
      rw [hq]
      exact List.mem_singleton.mpr rfl
    have herror : outcome = .error (Service.refusal index status body) :=
      hreceive.trans (Service.receive_of_refused hname hstatus)
    obtain ⟨message, details, hrefusal, hspec⟩ := Service.refusal_spec index status body
    exact ⟨message, details, herror.trans (congrArg Except.error hrefusal), hspec⟩

/-! ### A service with a host -/

/-- A service with a host. -/
def hosted : Connection :=
  ofService ⟨"https://docs.search.windows.net", .null, .text "2020-06-30", .int 30⟩

/-- A request for everything. -/
def everything : SearchRequest := ⟨none, none, [], none, none, [], false⟩

/-- A request to a service with a host is sent, to a URL with a scheme. -/
theorem sent_hosted (reply : Reply) :
    (hosted.search (.text "docs") everything reply).1.sent ≠ []
      ∧ ∀ q ∈ (hosted.search (.text "docs") everything reply).1.sent, BeginsWithName q.url := by
  have hurls : (hosted.search (.text "docs") everything reply).1.sent.map SentRequest.url
      = ["https://docs.search.windows.net/indexes/docs/docs/search?api-version=2020-06-30"] := by
    show (hosted.service.exchange (.text "docs") everything reply).sent.map SentRequest.url = _
    -- the address does not depend on the reply
    rw [Service.sent_eq reply (.failed "")]
    decide +kernel
  constructor
  · intro hnone
    rw [hnone] at hurls
    cases hurls
  · intro q hq
    have hurl := List.mem_map_of_mem (f := SentRequest.url) hq
    rw [hurls, List.mem_singleton] at hurl
    rw [hurl]
    exact ⟨['h', 't', 't', 'p', 's'], _, rfl, by simp, by simp⟩

/-- A service that does not have the index says so in a message. The code that it gives is empty and
    does not count. -/
theorem failed_exchange_not_found :
    let body := "\x7b\"error\": \x7b\"message\": \"gone\", \"code\": \"\"\x7d\x7d".toUTF8.toList
    let x := (hosted.search (.text "docs") everything (.answered 404 body)).1
    (x.sent ≠ [] ∧ Reply.KeepsToSchemes (.answered 404 body) x.sent)
      ∧ ∃ details,
        x.outcome
            = .error (.refused "Search on index docs failed with status 404: gone" 404 details)
          ∧ Json.field? "index" details = some (.text "docs")
          ∧ Json.field? "code" details = none := by
  intro body x
  obtain ⟨hsent, hnamed⟩ := sent_hosted (.answered 404 body)
  have hgone : (Service.reportedPart? "message" body).map Value.plain = some "gone" := by
    decide +kernel
  -- an empty code is not taken over
  have hempty : Service.reportedPart? "code" body = none :=
    Option.isNone_iff_eq_none.mp (by decide +kernel)
  obtain ⟨message, details, houtcome, hsays, -, hindex, hcode, -⟩ :=
    (failed_exchange hsent fun _ _ _ => hnamed).2.2 404 body rfl (by decide)
  obtain ⟨v, hv, hplain⟩ := Option.map_eq_some_iff.mp hgone
  have hmessage := hsays v (Service.reportedPart?_eq_some_iff.mp hv)
  rw [hplain] at hmessage
  subst hmessage
  refine ⟨⟨hsent, fun _ _ _ => hnamed⟩, details, houtcome, hindex, ?_⟩
  rw [Option.eq_none_iff_forall_ne_some]
  intro w hw
  exact Service.reportedPart?_eq_none_iff.mp hempty w ((hcode w).mp hw)

/-- The message that something is gone, next to a number. -/
def report (n : Int) : Json := .object [("error", .object [("message", .text "gone")]), ("n", .int n)]

/-- The bytes of the report. -/
def reportBody (n : Int) : List UInt8 := Utf8.encode (Json.chars Json.compact (report n))

/-- However long the number is, it could be read if it were not for its length. -/
theorem readable_report (n : Int) : (report n).Readable fun _ => true := by
  simp [report, Json.Readable, Json.ReadableFields]

/-- Nothing is reported by bytes that are not read, and they are not if the number is too long. -/
theorem reportedPart?_reportBody {n : Int} (hn : isShort n = false) (name : String) :
    Service.reportedPart? name (reportBody n) = none := by
  have hlong : ¬ (report n).Readable isShort := by
    simp [report, Json.Readable, Json.ReadableFields, hn]
  obtain ⟨e, hread⟩ :=
    Json.ofChars_of_not_readable Json.separates_compact (readable_report n) hlong
  -- the bytes are decoded to the text, but the text is not read
  have hbytes : Json.ofBytes (reportBody n) = .error (.malformed e) := by
    have hdetect : Json.detect (reportBody n) = (.utf8, 0) := rfl
    have hdecode : decodeFrom true .utf8 0 (reportBody n)
        = .ok (Json.chars Json.compact (report n)) :=
      decodeFrom_surrogates (decodeFrom_eq_ok_iff.mpr rfl)
    simp only [Json.ofBytes, hdetect, if_true, List.drop_zero, hdecode, hread]
    rfl
  rw [Service.reportedPart?, Service.reportedError?, hbytes]
  rfl

/-- A service says what is wrong, next to a number of 4301 digits: without a limit for numbers the
    body is one that reports a message, but it is not read, and the error is without one. -/
theorem failed_exchange_of_long :
    Json.readChars (fun _ => true) (Json.chars Json.compact (report (10 ^ 4300)))
        = .ok (report (10 ^ 4300))
      ∧ (hosted.search (.text "docs") everything (.answered 500 (reportBody (10 ^ 4300)))).1.outcome
        = .error (.refused "Search on index docs failed with status 500" 500
          [("index", .text "docs")]) := by
  refine ⟨Json.readChars_chars Json.separates_compact (readable_report _), ?_⟩
  obtain ⟨hsent, hnamed⟩ := sent_hosted (.answered 500 (reportBody (10 ^ 4300)))
  obtain ⟨url, q, hq, hurl, houtcome⟩ := Service.exchange_of_sent hsent
  have hname : url.isNamed = true := by
    rw [Url.isNamed_iff, ← hurl]
    exact hnamed q (hq ▸ List.mem_singleton.mpr rfl)
  have hrefused : hosted.service.receive (.text "docs") url (.answered 500 (reportBody (10 ^ 4300)))
      = .error (Service.refusal (.text "docs") 500 (reportBody (10 ^ 4300))) :=
    Service.receive_of_refused hname (by decide)
  -- the body is read by the bound on digits, so nothing is found in it
  rw [Service.refusal, reportedPart?_reportBody isShort_ten_pow,
    reportedPart?_reportBody isShort_ten_pow] at hrefused
  exact houtcome.trans hrefused

end Connection

end IndexSearch
