import IndexSearch.Value.Basic

namespace IndexSearch

/-!
# Remembered results

`remembered` answers from memory if it can: it looks a result up, and only if there is none computes
it and stores it. Null is no result; it is neither found nor stored. The steps may have effects of
any kind.

A `MemoTable` is the plainest memory: a table that lists what was asked of it.
-/

/-- The result that is stored, or else the result of computing it, which is then stored. -/
def remembered {m : Type → Type} [Monad m] (lookUp : m Value) (compute : m Value)
    (store : Value → m Unit) : m Value := do
  let known ← lookUp
  if !known.isNull then return known
  let v ← compute
  if !v.isNull then store v
  return v

/-- The time to live of a result in seconds if nobody gives one. -/
def defaultTtl : Nat := 300

/-- One use of a table. -/
inductive Access where
  /-- A look-up. -/
  | get (key : String)
  /-- The storing of a value for a time. -/
  | set (key : String) (v ttl : Value)

/-- A table of values. -/
structure MemoTable where
  /-- The values. -/
  entries : List (String × Value) := []
  /-- The uses of the table, the latest first. -/
  uses : List Access := []

namespace MemoTable

/-- Looks a key up; null if nothing is stored there. -/
def get (key : String) (t : MemoTable) : Value × MemoTable :=
  (((t.entries.find? fun e => e.1 = key).map Prod.snd).getD .null,
    { t with uses := .get key :: t.uses })

/-- Stores a value for a time. -/
def set (key : String) (v ttl : Value) (t : MemoTable) : MemoTable :=
  { entries := (key, v) :: t.entries.filter (fun e => e.1 ≠ key)
    uses := .set key v ttl :: t.uses }

/-- Recalls a result from the table, if there is one; the truth value says whether the result was
    computed. -/
def recallIn (table : Option MemoTable) (key : String) (ttl result : Value) :
    (Value × Bool) × Option MemoTable :=
  match table with
  | none => ((result, true), none)
  | some t =>
    let steps : StateM (Bool × MemoTable) Value :=
      remembered
        (fun (computed, t) => let (v, t) := t.get key; (v, computed, t))
        (fun (_, t) => (result, true, t))
        (fun v (computed, t) => ((), computed, t.set key v ttl))
    let (v, computed, t) := steps.run (false, t)
    ((v, computed), some t)

end MemoTable

end IndexSearch
