import IndexSearch.Proofs.FailedExchanges

namespace IndexSearch

/-!
# Errors that a search declares

A search declares two errors: that the service refused it, and that the service could not be
reached. Whatever is wrong with the request itself comes to another error. And so does the answer of
a service that reports success with a body that is no JSON: the body of a refusal may be anything,
that of a success is read without a look at what comes of it.

* `SearchError.IsDeclared`, `SearchError.IsOfRequest` — the errors that are declared, and those for
  which nothing that a service answers matters;
* `Service.Exchange.IsRead` — whether the answer is looked at;
* `Service.outcome_of_isRead`, `Service.outcome_of_not_isRead` — what comes of an answer then, and
  otherwise;
* `Connection.declared_iff` — which answers come to JSON or a declared error.
-/

namespace SearchError

/-- Whether the error is one that a search declares. -/
def IsDeclared : SearchError → Prop
  | refused .. | unreachable .. => True
  | _ => False

/-- Whether the error is one of the request, be it found before it is sent or after. -/
def IsOfRequest : SearchError → Prop
  | url _ | schemeless _ | keyKind _ | keyChars .. | timeoutParts => True
  | _ => False

/-- An error in making a request is none of the two that are declared. -/
theorem not_isDeclared_of_isOfRequest {e : SearchError} (h : e.IsOfRequest) : ¬ e.IsDeclared := by
  cases e with
  | refused _ _ _ | unreachable _ _ => exact h.elim
  | _ => exact id

end SearchError

namespace Service

variable {s : Service} {index : Value} {r : SearchRequest} {reply : Reply}

/-! ### Before a request is sent -/

/-- A time limit that is none is an error in making a request. -/
theorem isOfRequest_of_readTimeout {e : SearchError} (h : s.readTimeout = .error e) :
    e.IsOfRequest := by
  unfold readTimeout at h
  split at h
  · cases h
  · cases h
    trivial
  · cases h

/-- A key that cannot stand in a header is an error in making a request. -/
theorem isOfRequest_of_keyHeader {e : SearchError} (h : s.keyHeader = .error e) :
    e.IsOfRequest := by
  unfold keyHeader at h
  split at h
  · cases h
  · split at h
    · cases h
    · dsimp only at h
      split at h
      · cases h
      · cases h
        trivial
    · cases h
      trivial

/-- What is wrong before anything is sent is wrong with the request. -/
theorem isOfRequest_of_channel {e : SearchError} (h : s.channel = .error e) : e.IsOfRequest := by
  unfold channel at h
  -- a channel is made of three readings in a row, each with errors of its own
  cases htimeout : s.readTimeout with
  | error d =>
    rw [htimeout] at h
    cases h
    exact isOfRequest_of_readTimeout htimeout
  | ok timeout =>
    rw [htimeout] at h
    cases hbase : s.base with
    | error d =>
      rw [hbase] at h
      cases h
      trivial
    | ok base =>
      rw [hbase] at h
      cases hkey : s.keyHeader with
      | error d =>
        rw [hkey] at h
        cases h
        exact isOfRequest_of_keyHeader hkey
      | ok keyHeader =>
        rw [hkey] at h
        cases h

/-- Where no request is sent, the outcome is an error of the request. -/
theorem outcome_of_not_sent (h : (s.exchange index r reply).sent = []) :
    ∃ e, (s.exchange index r reply).outcome = .error e ∧ e.IsOfRequest := by
  unfold exchange at h ⊢
  split
  · rename_i e hc
    exact ⟨e, rfl, isOfRequest_of_channel hc⟩
  · rename_i c hc
    split
    · exact ⟨_, rfl, trivial⟩
    · rename_i url hurl
      simp only [hc, hurl, List.cons_ne_nil] at h

/-! ### After an answer has come -/

/-- Whether the answer to a request is looked at: the request is sent, to a URL that begins with a
    name as URLs with a scheme do. -/
def Exchange.IsRead (x : Exchange) : Prop := x.sent ≠ [] ∧ ∀ q ∈ x.sent, BeginsWithName q.url

/-- Whether the outcome is JSON or a declared error. -/
def Exchange.IsDeclared (x : Exchange) : Prop :=
  (∃ j, x.outcome = .ok j) ∨ ∃ e, x.outcome = .error e ∧ e.IsDeclared

variable {status : Nat} {body : List UInt8}

/-- An answer that is looked at is what its body is as JSON if the status is one of success, and a
    refusal otherwise. -/
theorem outcome_of_isRead (h : (s.exchange index r (.answered status body)).IsRead) :
    (s.exchange index r (.answered status body)).outcome =
      if 200 ≤ status ∧ status < 300 then (Json.ofBytes body).mapError .body
      else .error (refusal index status body) := by
  obtain ⟨url, q, hsent, hurl, houtcome⟩ := exchange_of_sent h.1
  have hnamed : url.isNamed = true := by
    rw [Url.isNamed_iff, ← hurl]
    exact h.2 q (hsent ▸ List.mem_singleton.mpr rfl)
  rw [houtcome]
  by_cases hsuccess : 200 ≤ status ∧ status < 300
  · have hstatus : isSuccess status = true := by simpa [isSuccess] using hsuccess
    rw [if_pos hsuccess, receive, hnamed, hstatus]
    rfl
  · rw [if_neg hsuccess, receive_of_refused hnamed hsuccess]

/-- An answer that is not looked at makes no difference: the error is one of the request. -/
theorem outcome_of_not_isRead (h : ¬ (s.exchange index r (.answered status body)).IsRead) :
    ∃ e, (s.exchange index r (.answered status body)).outcome = .error e ∧ e.IsOfRequest := by
  by_cases hsent : (s.exchange index r (.answered status body)).sent = []
  · exact outcome_of_not_sent hsent
  · obtain ⟨url, q, hq, hurl, houtcome⟩ := exchange_of_sent hsent
    have hnamed : url.isNamed = false := by
      rw [← Bool.not_eq_true, Url.isNamed_iff, ← hurl]
      intro hname
      refine h ⟨hsent, fun p hp => ?_⟩
      rw [hq, List.mem_singleton] at hp
      rwa [hp]
    refine ⟨.schemeless (String.ofList url.toChars), ?_, trivial⟩
    rw [houtcome, receive, hnamed]
    rfl

end Service

namespace Connection

/-- **Which answers come to JSON or a declared error.** Those that are looked at, unless they report
    success with a body that is no JSON. A search comes to JSON exactly if the answer is looked at
    and is one of success with a body of that JSON; where the body is none, the error is that of
    reading it; and where the answer is not looked at, the error is one of the request. -/
theorem declared_iff (c : Connection) (index : Value) (r : SearchRequest) (status : Nat)
    (body : List UInt8) :
    let x := (c.search index r (.answered status body)).1
    (x.IsDeclared ↔
        x.IsRead ∧ (200 ≤ status ∧ status < 300 → ∃ j, Json.ofBytes body = .ok j))
      ∧ (∀ j, x.outcome = .ok j ↔
        x.IsRead ∧ (200 ≤ status ∧ status < 300) ∧ Json.ofBytes body = .ok j)
      ∧ (∀ e, x.outcome = .error (.body e) ↔
        x.IsRead ∧ (200 ≤ status ∧ status < 300) ∧ Json.ofBytes body = .error e)
      ∧ ((∃ e, x.outcome = .error e ∧ e.IsOfRequest) ↔ ¬ x.IsRead) := by
  intro x
  -- whether the answer is read at all is decided before its status is looked at
  by_cases hread : x.IsRead
  · have houtcome := Service.outcome_of_isRead hread
    change x.outcome = _ at houtcome
    by_cases hsuccess : 200 ≤ status ∧ status < 300
    · rw [if_pos hsuccess] at houtcome
      cases hbody : Json.ofBytes body with
      | ok j =>
        have hok : x.outcome = .ok j := by rw [houtcome, hbody]; rfl
        simp [Service.Exchange.IsDeclared, hread, hsuccess, hok]
      | error e =>
        have herror : x.outcome = .error (.body e) := by rw [houtcome, hbody]; rfl
        simp [Service.Exchange.IsDeclared, SearchError.IsDeclared, SearchError.IsOfRequest, hread,
          hsuccess, herror]
    · rw [if_neg hsuccess] at houtcome
      simp [Service.Exchange.IsDeclared, SearchError.IsDeclared, SearchError.IsOfRequest, hread,
        hsuccess, houtcome, Service.refusal]
  · obtain ⟨e, houtcome, he⟩ := Service.outcome_of_not_isRead hread
    change x.outcome = _ at houtcome
    have hundeclared := SearchError.not_isDeclared_of_isOfRequest he
    have hbody : ∀ d, e ≠ .body d := by
      rintro d rfl
      exact he
    simp [Service.Exchange.IsDeclared, hread, houtcome, hundeclared, hbody, he]

/-- A service that reports success with a body that is no JSON: the answer is looked at, but the
    error is that of reading the body, which is not declared. -/
theorem undeclared_of_no_json :
    let c := ofService ⟨"https://docs.search.windows.net", .null, .text "2020-06-30", .int 30⟩
    let r : SearchRequest := ⟨none, none, [], none, none, [], false⟩
    let x := (c.search (.text "docs") r (.answered 200 "not json".toUTF8.toList)).1
    x.sent.length = 1 ∧ x.outcome = .error (.body (.malformed ⟨.value, 1, 1, 0⟩))
      ∧ ¬ x.IsDeclared := by
  intro c r x
  -- JSON has no decidable equality, an error of reading it has
  have herror : (match x.outcome with
      | .error (.body e) => some e
      | _ => none) = some (.malformed ⟨.value, 1, 1, 0⟩) := by decide +kernel
  have houtcome : x.outcome = .error (.body (.malformed ⟨.value, 1, 1, 0⟩)) := by
    split at herror
    · rename_i e hx
      rw [hx, Option.some.inj herror]
    · cases herror
  refine ⟨by decide +kernel, houtcome, ?_⟩
  rw [Service.Exchange.IsDeclared, houtcome]
  rintro (⟨j, hj⟩ | ⟨e, he, hdeclared⟩)
  · cases hj
  · cases he
    exact hdeclared

end Connection

end IndexSearch
