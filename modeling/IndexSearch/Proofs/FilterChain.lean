import IndexSearch.Filter.Basic
import Mathlib.Data.List.Basic

namespace IndexSearch

/-!
# Filters as chains

A filter is written without parentheses, so its text shows no tree but a **chain**: the leaves from
left to right with a combiner between each two neighbours.

* `Chain` — things in order with combiners between them;
* `Filter.inOrder` — the chain of the leaves of a filter;
* `Filter.compile_eq_chain` — writing a filter out is writing out the leaves of its chain, one after
  the other, and joining the texts.
-/

/-- Things in order, at least one, with a combiner between each two neighbours. -/
structure Chain (α : Type) where
  /-- The first thing. -/
  first : α
  /-- The other things, each with the combiner before it. -/
  rest : List (Combiner × α)
deriving DecidableEq

namespace Chain

variable {α β : Type}

/-- A chain of one thing. -/
def single (a : α) : Chain α := ⟨a, []⟩

/-- Two chains, one after the other, with a combiner between them. -/
def append (s : Chain α) (c : Combiner) (t : Chain α) : Chain α :=
  ⟨s.first, s.rest ++ (c, t.first) :: t.rest⟩

/-- The chain of what a function makes of the things. -/
def map (g : α → β) (s : Chain α) : Chain β := ⟨g s.first, s.rest.map fun p => (p.1, g p.2)⟩

/-- The things without the combiners. -/
def links (s : Chain α) : List α := s.first :: s.rest.map Prod.snd

/-- The chain of the results of a function that may fail, or its first failure. -/
def traverse {ε : Type} (g : α → Except ε β) (s : Chain α) : Except ε (Chain β) := do
  let b ← g s.first
  let r ← s.rest.mapM fun p => do return (p.1, ← g p.2)
  return ⟨b, r⟩

/-- Texts on one line, each after the word of its combiner. -/
def restText : List (Combiner × String) → String
  | [] => ""
  | (c, t) :: r => " " ++ c.word ++ " " ++ t ++ restText r

/-- The texts of a chain on one line, with the words of the combiners between them. -/
def text (s : Chain String) : String := s.first ++ restText s.rest

/-- What stands after a combiner is a link of the chain. -/
theorem mem_links_of_mem_rest {s : Chain α} {p : Combiner × α} (hp : p ∈ s.rest) :
    p.2 ∈ s.links :=
  List.mem_cons_of_mem s.first (List.mem_map_of_mem hp)

/-- The links of two chains joined are those of the first and then those of the second. -/
@[simp] theorem links_append (s t : Chain α) (c : Combiner) :
    (s.append c t).links = s.links ++ t.links := by
  simp [links, append]

/-- Two chains are mapped and joined in either order. -/
@[simp] theorem map_append (g : α → β) (s t : Chain α) (c : Combiner) :
    (s.append c t).map g = (s.map g).append c (t.map g) := by
  simp [map, append]

/-- Three chains in a row are one chain, whichever two are put together first. -/
theorem append_assoc (s t u : Chain α) (c d : Combiner) :
    (s.append c t).append d u = s.append c (t.append d u) := by
  simp [append]

/-- The text of links one after the other is the one text after the other. -/
theorem restText_append (r r' : List (Combiner × String)) :
    restText (r ++ r') = restText r ++ restText r' := by
  induction r with
  | nil => simp [restText]
  | cons p r ih => simp only [List.cons_append, restText, ih, String.append_assoc]

/-- The text of a single link is that of the chain. -/
@[simp] theorem text_single (s : String) : (single s).text = s := by
  simp [text, single, restText]

/-- The text of two chains in a row is that of the first, the combiner, and that of the second. -/
theorem text_append (s t : Chain String) (c : Combiner) :
    (s.append c t).text = s.text ++ " " ++ c.word ++ " " ++ t.text := by
  simp only [text, append, restText_append, restText, String.append_assoc]

/-- To go through a single link is to go through the chain. -/
theorem traverse_single {ε : Type} (g : α → Except ε β) (a : α) :
    (single a).traverse g = (g a).map single := by
  simp only [traverse, single, List.mapM_nil]
  cases g a <;> rfl

/-- The text of a chain of one thing is the text of the thing. -/
theorem map_text_traverse_single {ε : Type} (g : α → Except ε String) (a : α) :
    ((single a).traverse g).map text = g a := by
  rw [traverse_single]
  cases g a with
  | error e => rfl
  | ok s => exact congrArg Except.ok (text_single s)

/-- The results for two chains in a row: those for the first, then those for the second. -/
theorem traverse_append {ε : Type} (g : α → Except ε β) (s t : Chain α) (c : Combiner) :
    (s.append c t).traverse g = do
      let a ← s.traverse g
      let b ← t.traverse g
      return a.append c b := by
  simp [traverse, append, List.mapM_append]

end Chain

namespace Filter

/-- The leaves of a filter from left to right, with the combiners between them. -/
def inOrder : Filter → Chain Filter
  | joined left combiner right => left.inOrder.append combiner right.inOrder
  | f => .single f

/-- **Filters are written as chains.** The text of a filter is made of the texts of its leaves from
    left to right; if a leaf has no text, the error is that of the first such leaf. -/
theorem compile_eq_chain (f : Filter) :
    f.compile = (f.inOrder.traverse compile).map Chain.text := by
  -- induction on the filter: the leaves of a tree are those of the left operand, then those of the
  -- right one
  induction f with
  | joined l c r ihl ihr =>
    rw [compile, inOrder, Chain.traverse_append, ihl, ihr]
    cases hl : l.inOrder.traverse compile with
    | error e => rfl
    | ok a =>
      cases hr : r.inOrder.traverse compile with
      | error e => rfl
      | ok b =>
        show Except.ok _ = Except.ok _
        rw [Chain.text_append]
  | field f => exact (Chain.map_text_traverse_single compile (field f)).symm
  | distance g => exact (Chain.map_text_traverse_single compile (distance g)).symm
  | sortKey k => exact (Chain.map_text_traverse_single compile (sortKey k)).symm
  | value v => exact (Chain.map_text_traverse_single compile (value v)).symm

end Filter

end IndexSearch
