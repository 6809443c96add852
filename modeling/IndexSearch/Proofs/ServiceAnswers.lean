import IndexSearch.Proofs.StoredValues
import IndexSearch.Searcher

namespace IndexSearch

open Number

/-!
# Answers of a service

When a service answers a search, and with what. A request has to be sent for it, which some indexes
have no URL for; the service has to answer with success and JSON; and null is no answer to keep.

* `Service.answer?` — the JSON that the service answers with, unless it is null;
* `Service.outcome_eq_ok_iff` — when there is an answer, `Service.answer?_eq_some_iff_outcome` — when
  it is one to keep;
* `Service.decode_write` — what is kept of an answer is read as the answer;
* `Service.sent_exchange` — when a request is sent.
-/

namespace Service

variable (s : Service) (index : String) (r : SearchRequest) (reply : Reply)

/-- Whether requests to an index can be sent: the key and the time limit are in order, and there is
    a URL. -/
def Reaches : Prop := ∃ c url, s.channel = .ok c ∧ s.searchUrl c.base index = .ok url

/-- The JSON that the service answers a search with, unless it is null. -/
def answer? : Option Json :=
  match (s.exchange (.text index) r reply).outcome with
  | .ok .null => none
  | .ok j => some j
  | .error _ => none

variable {s index r reply}

/-- There is an answer to keep if the outcome is JSON that is not null. -/
theorem answer?_eq_some_iff_outcome {j : Json} :
    s.answer? index r reply = some j ↔
      (s.exchange (.text index) r reply).outcome = .ok j ∧ j ≠ .null := by
  unfold answer?
  -- null is no answer, and an error is none either
  split
  · rename_i h
    rw [h]
    constructor
    · intro hnone
      cases hnone
    · rintro ⟨hnull, hne⟩
      exact absurd (Except.ok.inj hnull).symm hne
  · rename_i k hne h
    rw [h, Option.some.injEq, Except.ok.injEq]
    exact ⟨fun heq => ⟨heq, fun hnull => hne (heq.trans hnull)⟩, And.left⟩
  · rename_i h
    rw [h]
    constructor
    · intro hnone
      cases hnone
    · rintro ⟨hok, -⟩
      cases hok

/-- **The outcome of an exchange is JSON if the service answers with success and JSON.** The request
    has to be sent for it, and its URL must begin with a scheme. -/
theorem outcome_eq_ok_iff {index : Value} {j : Json} :
    (s.exchange index r reply).outcome = .ok j ↔ ∃ c url status bytes,
      s.channel = .ok c ∧ s.searchUrl c.base index.plain = .ok url ∧ url.isNamed = true
        ∧ reply = .answered status bytes ∧ isSuccess status = true
        ∧ Json.ofBytes bytes = .ok j := by
  constructor
  · intro h
    -- each step on the way to the answer has to go well
    unfold exchange at h
    split at h
    · cases h
    · rename_i c hc
      split at h
      · cases h
      · rename_i url hurl
        have hreceive : s.receive index url reply = .ok j := h
        unfold receive at hreceive
        split at hreceive
        · cases hreceive
        · cases hreceive
        · rename_i status bytes
          split at hreceive
          · cases hreceive
          · rename_i hnamed
            split at hreceive
            · rename_i hsuccess
              refine ⟨c, url, status, bytes, hc, hurl, by simpa using hnamed, rfl, hsuccess, ?_⟩
              cases hread : Json.ofBytes bytes with
              | error e =>
                rw [hread] at hreceive
                cases hreceive
              | ok k =>
                rw [hread] at hreceive
                exact congrArg Except.ok (Except.ok.inj hreceive)
            · cases hreceive
  · rintro ⟨c, url, status, bytes, hc, hurl, hnamed, rfl, hsuccess, hread⟩
    simp only [exchange, hc, hurl, receive, hnamed, hsuccess, hread, Bool.not_true,
      Bool.false_eq_true, if_false, if_true]
    rfl

/-- An answer is as it was read, so no whole number in it is too long. -/
theorem readable_of_outcome {index : Value} {j : Json}
    (h : (s.exchange index r reply).outcome = .ok j) : j.Readable isShort := by
  obtain ⟨c, url, status, bytes, -, -, -, -, -, hread⟩ := outcome_eq_ok_iff.mp h
  exact Json.readable_of_ofBytes hread

/-- What is kept of an answer is read as the answer. -/
theorem decode_write {index : Value} {j : Json} (h : (s.exchange index r reply).outcome = .ok j) :
    Link.decode (j.write Json.spaced) = .ok j.toValue :=
  Link.decode_of_read (Json.read_write Json.separates_spaced (readable_of_outcome h))

/-- An answer is one to a request that was sent, to the URL that the index has on the service. -/
theorem sent_of_outcome {index : Value} {j : Json}
    (h : (s.exchange index r reply).outcome = .ok j) :
    ∃ c url, s.channel = .ok c ∧ s.searchUrl c.base index.plain = .ok url
      ∧ (s.exchange index r reply).sent
        = [⟨String.ofList url.toChars, sentHeaders c, r.sentText, c.timeout⟩] := by
  obtain ⟨c, url, status, bytes, hc, hurl, -⟩ := outcome_eq_ok_iff.mp h
  refine ⟨c, url, hc, hurl, ?_⟩
  simp only [exchange, hc, hurl]

/-- **A request is sent exactly if it can be**, to the URL that the index has on the service. -/
theorem mem_sent_iff {index : Value} {q : SentRequest} : q ∈ (s.exchange index r reply).sent ↔
    ∃ c url, s.channel = .ok c ∧ s.searchUrl c.base index.plain = .ok url
      ∧ q = ⟨String.ofList url.toChars, sentHeaders c, r.sentText, c.timeout⟩ := by
  constructor
  · intro hq
    unfold exchange at hq
    split at hq
    · cases hq
    · rename_i c hc
      split at hq
      · cases hq
      · rename_i url hurl
        exact ⟨c, url, hc, hurl, List.mem_singleton.mp hq⟩
  · rintro ⟨c, url, hc, hurl, rfl⟩
    simp only [exchange, hc, hurl, List.mem_singleton]

/-- Requests are sent below the base URL of the service. -/
theorem base_of_channel {c : Channel} (h : s.channel = .ok c) : s.base = .ok c.base := by
  rw [channel] at h
  obtain ⟨timeout, -, h⟩ := bind_eq_ok_iff.mp h
  obtain ⟨base, hbase, h⟩ := bind_eq_ok_iff.mp h
  obtain ⟨keyHeader, -, h⟩ := bind_eq_ok_iff.mp h
  rw [← Except.ok.inj h]
  exact mapError_eq_ok_iff.mp hbase

/-- A request is sent if it can be, and it is the only one. -/
theorem exists_sent_of_reaches {index : Value} (h : s.Reaches index.plain) :
    ∃ q : SentRequest, (s.exchange index r reply).sent = [q] ∧ q.body = r.sentText := by
  obtain ⟨c, url, hc, hurl⟩ := h
  simp only [exchange, hc, hurl]
  exact ⟨_, rfl, rfl⟩

/-- No request is sent that cannot be. -/
theorem sent_of_not_reaches {index : Value} (h : ¬ s.Reaches index.plain) :
    (s.exchange index r reply).sent = [] := by
  unfold exchange
  split
  · rfl
  · rename_i c hc
    split
    · rfl
    · rename_i url hurl
      exact absurd ⟨c, url, hc, hurl⟩ h

/-- Whether a request is sent depends on nothing but the service and the index. -/
theorem sent_exchange : (s.Reaches index → ∃ q : SentRequest,
      (s.exchange (.text index) r reply).sent = [q] ∧ q.body = r.sentText)
    ∧ (¬ s.Reaches index → (s.exchange (.text index) r reply).sent = []) :=
  ⟨fun h => exists_sent_of_reaches h, fun h => sent_of_not_reaches h⟩

end Service

end IndexSearch
