import IndexSearch.Proofs.PercentEscapes
import IndexSearch.Url.Basic
import Mathlib.Data.List.Infix
import Mathlib.Data.List.TakeWhile

namespace IndexSearch

open Text

/-!
# Segments of paths

A path falls into segments at its slashes. Two of them are not names: a single dot stands for
nothing, and two dots take the segment before them away. A path is sent with these carried out,
unless it belongs to no place, and with its segments escaped. What is sent is sent again as it is.

* `Text.segments_joinSegments` — pieces without separators are the segments of the joined text;
* `Url.exists_resolveSegments` — what is left of segments is some of those before, then some of them;
* `Url.segments_sentPath` — the segments of a path as it is sent;
* `Url.sentPath_sentPath` — a path as it is sent stays as it is.
-/

namespace Text

variable {sep : Char}

/-- A separator in front adds an empty segment. -/
theorem segments_cons_sep (r : List Char) : segments sep (sep :: r) = [] :: segments sep r := by
  rw [segments, if_pos rfl]

/-- Any other character in front goes to the first segment. -/
theorem segments_cons_of_ne {c : Char} (h : c ≠ sep) {r s : List Char} {ss : List (List Char)}
    (hr : segments sep r = s :: ss) : segments sep (c :: r) = (c :: s) :: ss := by
  rw [segments, if_neg h, hr]

/-- Characters in front that are no separators belong to the first segment. -/
theorem segments_append_of_notMem {a : List Char} (h : sep ∉ a) {r s : List Char}
    {ss : List (List Char)} (hr : segments sep r = s :: ss) :
    segments sep (a ++ r) = (a ++ s) :: ss := by
  induction a with
  | nil => exact hr
  | cons c a ih =>
    rw [List.mem_cons, not_or] at h
    exact segments_cons_of_ne (Ne.symm h.1) (ih h.2)

/-- Without a separator there is one segment. -/
theorem segments_of_notMem {a : List Char} (h : sep ∉ a) : segments sep a = [a] := by
  have hsegments := segments_append_of_notMem h (r := []) rfl
  rwa [List.append_nil] at hsegments

/-- A separator ends a segment. -/
theorem segments_append_sep (a b : List Char) :
    segments sep (a ++ sep :: b) = segments sep a ++ segments sep b := by
  induction a with
  | nil => exact segments_cons_sep b
  | cons c a ih =>
    by_cases hc : c = sep
    · subst hc
      rw [List.cons_append, segments_cons_sep, segments_cons_sep, ih]
      rfl
    · obtain ⟨s, ss, hs⟩ := List.exists_cons_of_ne_nil (segments_ne_nil sep a)
      rw [hs] at ih
      rw [segments_cons_of_ne hc hs]
      exact segments_cons_of_ne hc ih

/-- What follows a separator at the end of a text has segments of its own. -/
theorem segments_append_of_concat {a : List Char} {front : List (List Char)}
    (h : segments sep a = front ++ [[]]) (b : List Char) :
    segments sep (a ++ b) = front ++ segments sep b := by
  -- induction on the first text; its last segment is the empty one, so the second text begins a
  -- segment of its own
  induction a generalizing front with
  | nil =>
    obtain ⟨rfl, -⟩ := List.append_inj' (h.symm.trans (List.nil_append [[]]).symm) rfl
    rfl
  | cons c a ih =>
    obtain ⟨s, ss, hs⟩ := List.exists_cons_of_ne_nil (segments_ne_nil sep a)
    by_cases hc : c = sep
    · subst hc
      rw [segments_cons_sep] at h
      cases front with
      | nil => exact absurd (List.cons.inj h).2 (segments_ne_nil _ a)
      | cons f front =>
        obtain ⟨rfl, ha⟩ := List.cons.inj h
        rw [List.cons_append, segments_cons_sep, ih ha]
        rfl
    · rw [segments_cons_of_ne hc hs] at h
      cases front with
      | nil => cases (List.cons.inj h).1
      | cons f front =>
        obtain ⟨rfl, rfl⟩ := List.cons.inj h
        have hsplit : segments sep (a ++ b) = (s :: front) ++ segments sep b := ih hs
        exact segments_cons_of_ne hc hsplit

/-- There is no separator in a segment. -/
theorem sep_notMem_of_mem_segments {cs s : List Char} (h : s ∈ segments sep cs) : sep ∉ s := by
  -- induction on the text: a separator begins a new segment and is in none of them
  induction cs generalizing s with
  | nil =>
    rw [List.mem_singleton.mp h]
    exact List.not_mem_nil
  | cons c r ih =>
    by_cases hc : c = sep
    · subst hc
      rw [segments_cons_sep, List.mem_cons] at h
      rcases h with rfl | h
      · exact List.not_mem_nil
      · exact ih h
    · obtain ⟨t, ts, ht⟩ := List.exists_cons_of_ne_nil (segments_ne_nil sep r)
      rw [segments_cons_of_ne hc ht, List.mem_cons] at h
      rcases h with rfl | h
      · rw [List.mem_cons, not_or]
        exact ⟨Ne.symm hc, ih (ht ▸ List.mem_cons_self)⟩
      · exact ih (ht ▸ List.mem_cons_of_mem t h)

/-- The first segment is a front of the text. -/
theorem isPrefix_of_segments_eq_cons {cs s : List Char} {ss : List (List Char)}
    (h : segments sep cs = s :: ss) : s <+: cs := by
  rw [← joinSegments_segments sep cs, h]
  cases ss with
  | nil => exact List.prefix_rfl
  | cons t ts => exact List.prefix_append s _

/-- A segment is a part of the text. -/
theorem isInfix_of_mem_segments {cs s : List Char} (h : s ∈ segments sep cs) : s <:+: cs := by
  obtain ⟨front, back, hsplit⟩ := List.append_of_mem h
  have hjoined := joinSegments_segments sep cs
  rw [hsplit] at hjoined
  clear hsplit h
  -- induction on the segments before it, with the whole text left general
  induction front generalizing cs with
  | nil =>
    rw [← hjoined]
    cases back with
    | nil => exact List.infix_rfl
    | cons t ts => exact (List.prefix_append _ _).isInfix
  | cons t front ih =>
    obtain ⟨t', ts, hts⟩ := List.exists_cons_of_ne_nil (List.append_ne_nil_of_right_ne_nil front
      (List.cons_ne_nil s back))
    rw [List.cons_append, hts, joinSegments, ← hts] at hjoined
    · rw [← hjoined]
      exact (ih rfl).trans ⟨t ++ [sep], [], by simp⟩
    · exact List.cons_ne_nil _ _

/-- **Pieces without separators are the segments of the text that they are joined to.** -/
theorem segments_joinSegments {pieces : List (List Char)} (hne : pieces ≠ [])
    (h : ∀ s ∈ pieces, sep ∉ s) : segments sep (joinSegments sep pieces) = pieces := by
  induction pieces with
  | nil => exact absurd rfl hne
  | cons s ss ih =>
    obtain ⟨hs, hss⟩ := List.forall_mem_cons.mp h
    cases ss with
    | nil => exact segments_of_notMem hs
    | cons t ts =>
      rw [joinSegments, segments_append_sep, segments_of_notMem hs,
        ih (List.cons_ne_nil t ts) hss]
      · rfl
      · exact List.cons_ne_nil t ts

/-- Texts with the same segments are the same. -/
theorem segments_inj {a b : List Char} : segments sep a = segments sep b ↔ a = b := by
  constructor
  · intro h
    rw [← joinSegments_segments sep a, h, joinSegments_segments]
  · exact congrArg (segments sep)

/-- What stands before the cut has no separator. -/
theorem cutAtFirst_fst (cs : List Char) :
    (cutAtFirst sep cs).1 = cs.takeWhile (· ≠ sep) := by
  rw [cutAtFirst]
  split
  · rename_i h
    rw [List.dropWhile_eq_nil_iff] at h
    exact (List.takeWhile_eq_self_iff.mpr h).symm
  · rfl

/-- Where there is nothing to cut all is before it. -/
theorem cutAtFirst_of_none {cs : List Char} (h : (cutAtFirst sep cs).2 = none) :
    (cutAtFirst sep cs).1 = cs := by
  rw [cutAtFirst] at h ⊢
  split
  · rfl
  · rename_i hdrop
    rw [hdrop] at h
    cases h

end Text

namespace Url

/-! ### Dots -/

/-- Whether a segment stands for a step in the path, and not for a name. -/
def IsDots (s : List Char) : Prop := s = ['.'] ∨ s = ['.', '.']

/-- Without dots nothing is carried out. -/
theorem resolveSegments_of_noDots {l : List (List Char)} (h : ∀ s ∈ l, ¬ IsDots s)
    (done : List (List Char)) : resolveSegments done l = done.reverse ++ l := by
  induction l generalizing done with
  | nil => exact (List.append_nil _).symm
  | cons s l ih =>
    obtain ⟨hs, hl⟩ := List.forall_mem_cons.mp h
    rw [resolveSegments, if_neg (fun hdot => hs (.inl hdot)), if_neg (fun hdots => hs (.inr hdots)),
      ih hl, List.reverse_cons, List.append_assoc]
    rfl

/-- One set of segments is carried out after the other. -/
theorem resolveSegments_append (done a b : List (List Char)) :
    resolveSegments done (a ++ b) = resolveSegments (resolveSegments done a).reverse b := by
  induction a generalizing done with
  | nil => rw [resolveSegments, List.reverse_reverse, List.nil_append]
  | cons s a ih =>
    rw [List.cons_append, resolveSegments, resolveSegments]
    split
    · exact ih done
    · split
      · exact ih _
      · exact ih _

/-- **What is left of segments** is a front of those done before, and after it some of the segments,
    none of which is of dots. -/
theorem exists_resolveSegments (done l : List (List Char)) :
    ∃ kept added, resolveSegments done l = kept ++ added ∧ kept <+: done.reverse
      ∧ ∀ s ∈ added, s ∈ l ∧ ¬ IsDots s := by
  induction l generalizing done with
  | nil => exact ⟨done.reverse, [], (List.append_nil _).symm, List.prefix_rfl, by simp⟩
  | cons s l ih =>
    -- whatever is added later is one of the other segments
    have hlater : ∀ {added : List (List Char)}, (∀ t ∈ added, t ∈ l ∧ ¬ IsDots t)
        → ∀ t ∈ added, t ∈ s :: l ∧ ¬ IsDots t :=
      fun h t ht => ⟨List.mem_cons_of_mem s (h t ht).1, (h t ht).2⟩
    rw [resolveSegments]
    by_cases hdot : s = ['.']
    · obtain ⟨kept, added, heq, hkept, hadded⟩ := ih done
      rw [if_pos hdot]
      exact ⟨kept, added, heq, hkept, hlater hadded⟩
    by_cases hdots : s = ['.', '.']
    · obtain ⟨kept, added, heq, hkept, hadded⟩ := ih (if done = [[]] then done else done.tail)
      rw [if_neg hdot, if_pos hdots]
      refine ⟨kept, added, heq, hkept.trans ?_, hlater hadded⟩
      split
      · exact List.prefix_rfl
      · rw [List.reverse_prefix]
        exact List.tail_suffix done
    · obtain ⟨kept, added, heq, hkept, hadded⟩ := ih (s :: done)
      rw [if_neg hdot, if_neg hdots, heq]
      rw [List.reverse_cons, List.prefix_concat_iff] at hkept
      rcases hkept with rfl | hkept
      · refine ⟨done.reverse, s :: added, by simp, List.prefix_rfl, ?_⟩
        rw [List.forall_mem_cons]
        exact ⟨⟨List.mem_cons_self, not_or.mpr ⟨hdot, hdots⟩⟩, hlater hadded⟩
      · exact ⟨kept, added, rfl, hkept, hlater hadded⟩

/-- What comes after the place of those kept in front is one of those added. -/
theorem mem_added_of_append_eq {kept added front back : List (List Char)} {a b : List Char}
    (heq : kept ++ added = front ++ a :: b :: back) (hkept : kept.length ≤ front.length + 1) :
    b ∈ added := by
  have hright : (front ++ a :: b :: back).drop (front.length + 1) = b :: back := by
    rw [List.drop_append, List.drop_eq_nil_of_le (by omega), Nat.add_sub_cancel_left]
    rfl
  rw [← heq, List.drop_append, List.drop_eq_nil_of_le hkept, List.nil_append] at hright
  exact List.mem_of_mem_drop (hright ▸ List.mem_cons_self)

/-! ### Escaped segments -/

/-- An escaped character has no slash. -/
theorem slash_notMem_escapeChar (c : Char) : '/' ∉ escapeChar c := by
  intro h
  rcases eq_or_isHex_of_mem_escapeChar h with h | h
  · cases h
  · exact absurd h (by decide)

/-- **Escaping works on each segment by itself.** -/
theorem segments_encodePart (cs : List Char) :
    segments '/' (encodePart pathSafe cs) = (segments '/' cs).map (encodePart pathSafe) := by
  induction cs using escape_induction with
  | nil => rfl
  | escape a b r ha hb ih =>
    obtain ⟨s, ss, hs⟩ := List.exists_cons_of_ne_nil (segments_ne_nil '/' r)
    have hnotMem : '/' ∉ ['%', a, b] := by
      intro h
      simp only [List.mem_cons, List.not_mem_nil, or_false] at h
      rcases h with h | rfl | rfl
      · cases h
      · exact absurd ha (by decide)
      · exact absurd hb (by decide)
    rw [hs, List.map_cons] at ih
    rw [encodePart_escape pathSafe ha hb]
    show segments '/' (['%', a, b] ++ encodePart pathSafe r)
      = (segments '/' (['%', a, b] ++ r)).map (encodePart pathSafe)
    rw [segments_append_of_notMem hnotMem ih, segments_append_of_notMem hnotMem hs, List.map_cons]
    show _ = encodePart pathSafe ('%' :: a :: b :: s) :: _
    rw [encodePart_escape pathSafe ha hb]
    rfl
  | plain c r hc ih =>
    rw [encodePart_plain pathSafe hc]
    by_cases hslash : c = '/'
    · subst hslash
      rw [if_pos (by decide), List.singleton_append, segments_cons_sep, segments_cons_sep, ih]
      rfl
    · obtain ⟨s, ss, hs⟩ := List.exists_cons_of_ne_nil (segments_ne_nil '/' r)
      have hescaped : '/' ∉ if pathSafe c = true then [c] else escapeChar c := by
        split
        · exact fun h => hslash (List.mem_singleton.mp h).symm
        · exact slash_notMem_escapeChar c
      -- the segment begins like the text
      have hplain : startsEscape (c :: s) = false := by
        obtain ⟨t, rfl⟩ := isPrefix_of_segments_eq_cons hs
        exact startsEscape_of_append hc
      rw [hs, List.map_cons] at ih
      rw [segments_append_of_notMem hescaped ih, segments_cons_of_ne hslash hs, List.map_cons]
      show _ = encodePart pathSafe (c :: s) :: _
      rw [encodePart_plain pathSafe hplain]

/-- Escaping makes no dots. -/
theorem isDots_encodePart {s : List Char} : IsDots (encodePart pathSafe s) ↔ IsDots s := by
  have hkept : ∀ t : List Char, '%' ∉ t → encodePart pathSafe t = t →
      (encodePart pathSafe s = t ↔ s = t) := by
    intro t hsign ht
    constructor
    · intro h
      rw [← h] at hsign
      rw [← h, encodePart_eq_self hsign]
    · rintro rfl
      exact ht
  exact or_congr (hkept _ (by decide) (by decide)) (hkept _ (by decide) (by decide))

/-! ### Paths as they are sent -/

/-- The segments of a path that are left to be sent, given whether the path has a place. -/
def resolved (rooted : Bool) (l : List (List Char)) : List (List Char) :=
  if rooted then resolveSegments [] l else l

/-- A path as it is sent, given whether it has a place. -/
def sentPath (rooted : Bool) (path : List Char) : List Char :=
  encodePart pathSafe (if rooted then resolvePath path else path)

variable {rooted : Bool}

/-- What is left of segments are some of them; dots are left only where there is no place. -/
theorem of_mem_resolved {l : List (List Char)} {s : List Char} (h : s ∈ resolved rooted l) :
    s ∈ l ∧ (rooted = true → ¬ IsDots s) := by
  cases rooted with
  | false => exact ⟨h, fun h => by cases h⟩
  | true =>
    obtain ⟨kept, added, heq, hkept, hadded⟩ := exists_resolveSegments [] l
    rw [List.reverse_nil, List.prefix_nil] at hkept
    rw [resolved, if_pos rfl, heq, hkept, List.nil_append] at h
    exact ⟨(hadded s h).1, fun _ => (hadded s h).2⟩

/-- Segments without dots are resolved to themselves. -/
theorem resolved_of_noDots {l : List (List Char)} (h : rooted = true → ∀ s ∈ l, ¬ IsDots s) :
    resolved rooted l = l := by
  cases rooted with
  | false => rfl
  | true => exact resolveSegments_of_noDots (h rfl) []

/-- **The segments of a path as it is sent** are those that are left, each escaped. -/
theorem segments_sentPath {path : List Char} (h : resolved rooted (segments '/' path) ≠ []) :
    segments '/' (sentPath rooted path)
      = (resolved rooted (segments '/' path)).map (encodePart pathSafe) := by
  have hnotMem : ∀ s ∈ resolved rooted (segments '/' path), '/' ∉ s :=
    fun s hs => sep_notMem_of_mem_segments (of_mem_resolved hs).1
  rw [sentPath, segments_encodePart]
  cases rooted with
  | false => rfl
  | true => exact congrArg (List.map _) (segments_joinSegments h hnotMem)

/-- A path that is resolved to nothing is sent as nothing. -/
theorem sentPath_eq_nil {path : List Char} (h : resolved rooted (segments '/' path) = []) :
    sentPath rooted path = [] := by
  cases rooted with
  | false => exact absurd h (segments_ne_nil '/' path)
  | true =>
    have hnil : resolveSegments [] (segments '/' path) = [] := h
    rw [sentPath, if_pos rfl, resolvePath, hnil]
    rfl

/-- A segment of a path as it is sent needs no escapes, and is not of dots in a place. -/
theorem of_mem_segments_sentPath {path s : List Char}
    (h : s ∈ segments '/' (sentPath rooted path)) :
    encodePart pathSafe s = s ∧ (rooted = true → ¬ IsDots s) := by
  by_cases hnil : resolved rooted (segments '/' path) = []
  · rw [sentPath_eq_nil hnil] at h
    rw [List.mem_singleton.mp h]
    refine ⟨rfl, fun _ => ?_⟩
    rintro (h | h) <;> cases h
  · rw [segments_sentPath hnil, List.mem_map] at h
    obtain ⟨t, ht, rfl⟩ := h
    exact ⟨encodePart_encodePart pathSafe t,
      fun hrooted => mt isDots_encodePart.mp ((of_mem_resolved ht).2 hrooted)⟩

/-- Segments that need no escapes are kept by escaping. -/
theorem map_encodePart_eq_self {l : List (List Char)} (h : ∀ s ∈ l, encodePart pathSafe s = s) :
    l.map (encodePart pathSafe) = l :=
  (List.map_congr_left h).trans (List.map_id' l)

/-- **A path as it is sent stays as it is**, also if it is then taken for one that has no place. -/
theorem sentPath_sentPath {again : Bool} (h : again = true → rooted = true) (path : List Char) :
    sentPath again (sentPath rooted path) = sentPath rooted path := by
  have hkept : resolved again (segments '/' (sentPath rooted path))
      = segments '/' (sentPath rooted path) :=
    resolved_of_noDots fun hagain s hs => (of_mem_segments_sentPath hs).2 (h hagain)
  have hne : resolved again (segments '/' (sentPath rooted path)) ≠ [] := by
    rw [hkept]
    exact segments_ne_nil '/' _
  rw [← @segments_inj '/', segments_sentPath hne, hkept]
  exact map_encodePart_eq_self fun s hs => (of_mem_segments_sentPath hs).1

end Url

end IndexSearch
