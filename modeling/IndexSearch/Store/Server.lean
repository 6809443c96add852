import IndexSearch.Text.Pattern
import IndexSearch.Value.Basic

namespace IndexSearch

open Text

/-!
# The key-value server

A `Server` keeps texts under keys, each with an expiry, and may be out of order: for some or all of
its commands it answers with an error. A command that fails changes nothing. How it reads patterns
is its own matter, so what lists keys takes a `Matcher`.

* `Store.get?`, `Store.put`, `Store.erase` — the texts under keys;
* `Server.get`, `Server.set`, `Server.scan`, `Server.delete` — the commands.
-/

/-- A text with the time after which it expires. -/
structure StoredText where
  /-- The text. -/
  text : String
  /-- The time to live as it was given, null if it was not. -/
  expiry : Value

/-- Texts under distinct keys. -/
abbrev Store := List (String × StoredText)

namespace Store

/-- The text under a key. -/
def get? (key : String) : Store → Option StoredText
  | [] => none
  | (k, t) :: r => if k = key then some t else get? key r

/-- Puts a text under a key, in the place of an earlier one. -/
def put (key : String) (t : StoredText) : Store → Store
  | [] => [(key, t)]
  | (k, u) :: r => if k = key then (key, t) :: r else (k, u) :: put key t r

/-- Removes the text under a key. -/
def erase (key : String) (s : Store) : Store := s.filter fun e => e.1 ≠ key

/-- The keys that match a pattern in a reading of it. -/
def matching (pattern : String) (s : Store) (m : Matcher) : List String :=
  (s.map Prod.fst).filter fun k => m pattern.toList k.toList

/-! ### What is under a key afterwards -/

/-- A text that is put under a key is there. -/
theorem get?_put_self (key : String) (t : StoredText) (s : Store) :
    get? key (put key t s) = some t := by
  induction s with
  | nil => simp [put, get?]
  | cons e r ih => by_cases h : e.1 = key <;> simp [put, get?, h, ih]

/-- Putting a text leaves other keys alone. -/
theorem get?_put_of_ne {key other : String} (h : other ≠ key) (t : StoredText) (s : Store) :
    get? other (put key t s) = get? other s := by
  induction s with
  | nil => simp [put, get?, h.symm]
  | cons e r ih =>
    by_cases he : e.1 = key
    · simp [put, get?, he, h.symm]
    · by_cases ho : e.1 = other <;> simp [put, get?, he, ho, h, ih]

/-- Nothing is left under a key that is removed. -/
theorem get?_erase_self (key : String) (s : Store) : get? key (erase key s) = none := by
  induction s with
  | nil => rfl
  | cons e r ih =>
    by_cases h : e.1 = key
    · simpa [erase, h] using ih
    · simpa [erase, get?, h] using ih

/-- Removing a key leaves other keys alone. -/
theorem get?_erase_of_ne {key other : String} (h : other ≠ key) (s : Store) :
    get? other (erase key s) = get? other s := by
  induction s with
  | nil => rfl
  | cons e r ih =>
    by_cases he : e.1 = key
    · have ho : e.1 ≠ other := fun hc => h (hc.symm.trans he)
      simpa [erase, get?, he, h.symm] using ih
    · by_cases ho : e.1 = other
      · simp [erase, get?, ho, h]
      · simpa [erase, get?, he, ho] using ih

end Store

/-- What a server can be asked to do. -/
inductive Command where
  /-- To answer at all. -/
  | ping
  /-- To give the text under a key. -/
  | get
  /-- To put a text under a key. -/
  | set
  /-- To list keys. -/
  | scan
  /-- To remove a key. -/
  | delete
deriving DecidableEq

/-- An error of the server. -/
structure ServerError where
  /-- The name of the kind of error. -/
  kind : String
  /-- The wording of the error. -/
  message : String
deriving DecidableEq

/-- A state in which commands fail. -/
structure Outage where
  /-- The command that fails; all of them if none is named. -/
  command : Option Command
  /-- The error. -/
  error : ServerError

/-- A key-value server. -/
structure Server where
  /-- The texts. -/
  store : Store
  /-- The state in which commands fail, if there is one. -/
  outage : Option Outage

namespace Server

/-- The error with which a command fails, if it does. -/
def failure? (s : Server) (c : Command) : Option ServerError :=
  match s.outage with
  | none => none
  | some o => if o.command = none || o.command = some c then some o.error else none

/-- A server that is not out of order fails at no command. -/
theorem failure?_eq_none {s : Server} (h : s.outage = none) (c : Command) :
    s.failure? c = none := by
  rw [failure?, h]

/-- Asks the server to answer. -/
def ping (s : Server) : Except ServerError Unit :=
  match s.failure? .ping with
  | some e => .error e
  | none => .ok ()

/-- The text under a key. -/
def get (s : Server) (key : String) : Except ServerError (Option String) :=
  match s.failure? .get with
  | some e => .error e
  | none => .ok ((Store.get? key s.store).map StoredText.text)

/-- Puts a text under a key. -/
def set (s : Server) (key text : String) (expiry : Value) : Except ServerError Server :=
  match s.failure? .set with
  | some e => .error e
  | none => .ok { s with store := Store.put key ⟨text, expiry⟩ s.store }

/-- The keys that match a pattern in a reading of it. -/
def scan (s : Server) (pattern : String) (m : Matcher) : Except ServerError (List String) :=
  match s.failure? .scan with
  | some e => .error e
  | none => .ok (Store.matching pattern s.store m)

/-- Removes a key; the number is that of the keys removed. -/
def delete (s : Server) (key : String) : Except ServerError (Nat × Server) :=
  match s.failure? .delete with
  | some e => .error e
  | none =>
    let n := if (Store.get? key s.store).isSome then 1 else 0
    .ok (n, { s with store := Store.erase key s.store })

end Server

end IndexSearch
