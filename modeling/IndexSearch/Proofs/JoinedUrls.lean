import IndexSearch.Proofs.Outcomes
import IndexSearch.Proofs.PathSegments
import IndexSearch.Service.Exchange

namespace IndexSearch

open Text

/-!
# Joining URLs

A URL is put together of parts, each of which is brought into the form to be sent. Giving a URL
another path and query takes it apart and puts it together again, and leaves it in its place. A base
URL is one with a slash at its end: what is joined below it begins a segment of its own, unless the
base URL has a query, which takes it in.

* `Url.exists_of_ofParts` — what a URL is put together of;
* `Url.IsMovedTo` — what becomes of a URL that is given another path and query;
* `Url.SamePlace.of_isMovedTo` — it stays in its place;
* `Url.IsBase`, `Service.isBase` — what is known of a base URL.
-/

namespace Url

/-! ### How a URL is put together -/

/-- Whether a URL has a place: a scheme, or a part of an authority. -/
def isRooted (u : Url) : Bool :=
  !u.scheme.isEmpty || (!u.userInfo.isEmpty || !u.host.isEmpty || u.port.isSome)

/-- The user information, the host and the port that a scheme and an authority stand for. -/
def placeOf (scheme authority : List Char) :
    Except UrlError (List Char × List Char × Option Int) := do
  let (user, place) := cutAtLast '@' authority
  let (hostText, portText) := splitHost place
  let host ← (encodeHost hostText).mapError .host
  let port ← portOf scheme portText
  return (encodePart userSafe (user.getD []), host, port)

variable {scheme authority path : List Char} {query fragment : Option (List Char)} {u v : Url}

/-- **What a URL is put together of.** The place depends on the scheme and the authority alone, and
    each other part on the part that it is made of. -/
theorem exists_of_ofParts (h : ofParts scheme authority path query fragment = .ok u) :
    ∃ user host port, placeOf scheme authority = .ok (user, host, port)
      ∧ u = ⟨scheme.map Char.toLower, user, host, port, sentPath u.isRooted path,
        query.map (encodePart querySafe), fragment.map (encodePart fragmentSafe)⟩ := by
  simp only [ofParts, bind_eq_ok_iff] at h
  obtain ⟨host, hhost, port, hport, -, -, h⟩ := h
  have hplace : placeOf scheme authority
      = .ok (encodePart userSafe ((cutAtLast '@' authority).1.getD []), host, port) :=
    bind_eq_ok_iff.mpr ⟨host, hhost, bind_eq_ok_iff.mpr ⟨port, hport, rfl⟩⟩
  refine ⟨_, host, port, hplace, ?_⟩
  rw [← Except.ok.inj h]
  simp only [isRooted, sentPath, List.isEmpty_map]

/-- Without a scheme and an authority a URL has no root. -/
theorem isRooted_of_ofParts_nil (h : ofParts [] [] path query fragment = .ok u) :
    u.isRooted = false := by
  obtain ⟨user, host, port, hplace, hu⟩ := exists_of_ofParts h
  have hnil : placeOf [] [] = .ok ([], [], none) := by decide +kernel
  obtain ⟨rfl, hrest⟩ := Prod.mk.inj (Except.ok.inj (hnil.symm.trans hplace))
  obtain ⟨rfl, rfl⟩ := Prod.mk.inj hrest
  rw [hu]
  rfl

/-- Without a place there is nothing that a place could be made of. -/
theorem eq_nil_of_not_rooted (h : u.isRooted = false) : u.scheme = [] ∧ u.authority = [] := by
  simp only [isRooted, Bool.or_eq_false_iff, Bool.not_eq_false', List.isEmpty_iff,
    Option.isSome_eq_false_iff, Option.isNone_iff_eq_none] at h
  obtain ⟨hscheme, ⟨huser, hhost⟩, hport⟩ := h
  refine ⟨hscheme, ?_⟩
  rw [authority, huser, hhost, hport]
  rfl

/-- What becomes of a URL that is given another path and query. -/
structure IsMovedTo (u : Url) (path : List Char) (query : Option (List Char)) (v : Url) : Prop where
  /-- The new URL is put together of the place of the old one. -/
  made : ofParts u.scheme u.authority path query u.fragment = .ok v
  /-- It has the new path. -/
  path_eq : v.path = sentPath v.isRooted path
  /-- It has the new query. -/
  query_eq : v.query = query.map (encodePart querySafe)
  /-- It has a place only if the old one had. -/
  rooted : v.isRooted = true → u.isRooted = true
  /-- It has a scheme if the old one had. -/
  scheme_ne : u.scheme ≠ [] → v.scheme ≠ []

/-- A URL with another path and query differs in nothing else. -/
theorem isMovedTo_of_withPath (h : u.withPath path query = .ok v) : u.IsMovedTo path query v := by
  -- what is made passes the two checks and is made of its parts
  have hmade : ofParts u.scheme u.authority path query u.fragment = .ok v := by
    simp only [withPath, bind, Except.bind, throw, throwThe, MonadExceptOf.throw] at h
    split at h
    · cases h
    split at h
    · cases h
    exact h
  obtain ⟨user, host, port, -, hv⟩ := exists_of_ofParts hmade
  refine ⟨hmade, congrArg Url.path hv, congrArg Url.query hv, ?_, ?_⟩
  · -- a path that is rooted without a scheme would stand behind an empty authority
    intro hrooted
    by_contra hnot
    obtain ⟨hscheme, hauthority⟩ := eq_nil_of_not_rooted (Bool.not_eq_true _ ▸ hnot)
    rw [hscheme, hauthority] at hmade
    rw [isRooted_of_ofParts_nil hmade] at hrooted
    cases hrooted
  · intro hscheme
    rw [congrArg Url.scheme hv]
    exact mt List.map_eq_nil_iff.mp hscheme

/-- A URL with a scheme has a root. -/
theorem isRooted_of_scheme_ne (h : u.scheme ≠ []) : u.isRooted = true := by
  rw [isRooted, List.isEmpty_eq_false_iff.mpr h]
  rfl

/-- A URL with another target has its path and its query from there. -/
theorem isMovedTo_of_withTarget {target : List Char} (h : u.withTarget target = .ok v) :
    u.IsMovedTo (cutAtFirst '?' target).1 (cutAtFirst '?' target).2 v :=
  isMovedTo_of_withPath h

/-- Reading a URL takes it apart first. -/
theorem ofParts_of_parse {cs : List Char} (h : parse cs = .ok u) :
    let r := splitAuthority (splitScheme cs).2
    let parts := splitPath r.2
    ofParts (splitScheme cs).1 r.1 parts.1 parts.2.1 parts.2.2 = .ok u := by
  simp only [parse, bind, Except.bind, throw, throwThe, MonadExceptOf.throw] at h
  split at h
  · cases h
  split at h
  · cases h
  exact h

/-- Whether two URLs differ in path and query alone. -/
structure SamePlace (u v : Url) : Prop where
  /-- They have the same scheme. -/
  scheme : u.scheme = v.scheme
  /-- They have the same authority. -/
  authority : u.authority = v.authority
  /-- They have the same fragment. -/
  fragment : u.fragment = v.fragment

/-- **A URL stays in its place** when it is given another path and query. -/
theorem SamePlace.of_isMovedTo {u' v' : Url} {p p' : List Char} {q q' : Option (List Char)}
    (h : u.SamePlace v) (hu : u.IsMovedTo p q u') (hv : v.IsMovedTo p' q' v') :
    u'.SamePlace v' := by
  obtain ⟨user, host, port, hplace, hu'⟩ := exists_of_ofParts hu.made
  obtain ⟨user', host', port', hplace', hv'⟩ := exists_of_ofParts hv.made
  rw [h.scheme, h.authority] at hplace
  obtain ⟨rfl, hrest⟩ := Prod.mk.inj (Except.ok.inj (hplace.symm.trans hplace'))
  obtain ⟨rfl, rfl⟩ := Prod.mk.inj hrest
  rw [hu', hv']
  exact ⟨congrArg (List.map Char.toLower) h.scheme, rfl,
    congrArg (Option.map (encodePart fragmentSafe)) h.fragment⟩

/-- Of URLs of one place the path can be told from the text. -/
theorem SamePlace.path_eq (h : u.SamePlace v) (hquery : u.query = v.query)
    (hchars : u.toChars = v.toChars) : u.path = v.path := by
  simp only [toChars, h.scheme, h.authority, h.fragment, hquery] at hchars
  simpa using hchars

/-! ### Base URLs -/

/-- The path of a URL, which is a slash at least. -/
def slashPath (u : Url) : List Char := if u.path.isEmpty then ['/'] else u.path

/-- The segments above the path of a URL, those below which other paths are joined. -/
def folder (u : Url) : List (List Char) := (segments '/' u.slashPath).dropLast

/-- What is known of a URL that others are joined below. -/
structure IsBase (base : Url) : Prop where
  /-- Its path is one as it is sent. -/
  sent : ∃ path, base.path = sentPath base.isRooted path
  /-- Its path ends in a slash, unless it has a query that does. -/
  slash : base.query = none → segments '/' base.slashPath = base.folder ++ [[]]

/-- The path of a text that ends in a slash has an empty segment at its end. -/
theorem folder_of_slash (h : ∃ front, segments '/' u.slashPath = front ++ [[]]) :
    segments '/' u.slashPath = u.folder ++ [[]] := by
  obtain ⟨front, hfront⟩ := h
  rw [folder, hfront, List.dropLast_concat]

/-- A slash at the end adds an empty segment. -/
theorem segments_concat_slash (cs : List Char) :
    segments '/' (cs ++ ['/']) = segments '/' cs ++ [[]] :=
  segments_append_sep cs []

/-- A path that ends in a slash is sent as one that does. -/
theorem segments_sentPath_slash (rooted : Bool) (cs : List Char) :
    ∃ front, segments '/' (sentPath rooted (cs ++ ['/'])) = front ++ [[]] := by
  -- the last segment is empty before the dots are taken out, and the dots leave it there
  have hresolved : ∃ front, resolved rooted (segments '/' (cs ++ ['/'])) = front ++ [[]] := by
    rw [segments_concat_slash]
    cases rooted with
    | false => exact ⟨_, rfl⟩
    | true =>
      refine ⟨resolveSegments [] (segments '/' cs), ?_⟩
      show resolveSegments [] _ = _
      rw [resolveSegments_append]
      show ([] :: (resolveSegments [] (segments '/' cs)).reverse).reverse = _
      rw [List.reverse_cons, List.reverse_reverse]
  obtain ⟨front, hfront⟩ := hresolved
  have hne : resolved rooted (segments '/' (cs ++ ['/'])) ≠ [] := by
    rw [hfront]
    exact List.append_ne_nil_of_right_ne_nil front (List.cons_ne_nil _ _)
  rw [segments_sentPath hne, hfront, List.map_append]
  exact ⟨_, rfl⟩

/-- **A URL with a slash at its end can be a base.** -/
theorem isBase_of_withSlash (hsent : ∃ path, u.path = sentPath u.isRooted path)
    (h : u.withSlash = .ok v) : v.IsBase := by
  rw [withSlash] at h
  split at h
  · rename_i hlast
    obtain rfl := Except.ok.inj h
    refine ⟨hsent, fun hquery => folder_of_slash ?_⟩
    rw [target, hquery] at hlast
    obtain ⟨front, hfront⟩ := List.getLast?_eq_some_iff.mp hlast
    have hslash : u.slashPath = front ++ ['/'] := (List.append_nil _).symm.trans hfront
    rw [hslash, segments_concat_slash]
    exact ⟨_, rfl⟩
  · -- a slash is put behind the path, which is then made anew
    have hmoved := isMovedTo_of_withTarget h
    refine ⟨⟨_, hmoved.path_eq⟩, fun hquery => folder_of_slash ?_⟩
    rw [hmoved.query_eq, Option.map_eq_none_iff] at hquery
    have hpath := hmoved.path_eq
    rw [cutAtFirst_of_none hquery] at hpath
    rw [slashPath]
    split
    · exact ⟨[[]], rfl⟩
    · rw [hpath]
      exact segments_sentPath_slash _ _

end Url

/-- The base URL of a service is one below which searches are made. -/
theorem Service.isBase {s : Service} {base : Url} (h : s.base = .ok base) : base.IsBase := by
  rw [Service.base] at h
  obtain ⟨u, hparse, h⟩ := bind_eq_ok_iff.mp h
  obtain ⟨user, host, port, -, hu⟩ := Url.exists_of_ofParts (Url.ofParts_of_parse hparse)
  exact Url.isBase_of_withSlash ⟨_, congrArg Url.path hu⟩ h

namespace Url

variable {base u v : Url} {name s : List Char}

/-- A segment above the path of a base URL needs no escapes, and is not of dots in a place. -/
theorem IsBase.of_mem_slashPath (h : base.IsBase) (hs : s ∈ segments '/' base.slashPath) :
    encodePart pathSafe s = s ∧ (base.isRooted = true → ¬ IsDots s) := by
  obtain ⟨path, hpath⟩ := h.sent
  rw [slashPath] at hs
  split at hs
  · have hnil : s = [] := by
      simpa [segments] using hs
    rw [hnil]
    exact ⟨rfl, fun _ => by rintro (h | h) <;> cases h⟩
  · rw [hpath] at hs
    exact of_mem_segments_sentPath hs

/-- The segments of a base URL are sent as they are. -/
theorem IsBase.of_mem_folder (h : base.IsBase) (hs : s ∈ base.folder) :
    encodePart pathSafe s = s ∧ (base.isRooted = true → ¬ IsDots s) :=
  h.of_mem_slashPath (List.dropLast_subset _ hs)

/-- The path of a base URL has no question mark. -/
theorem IsBase.mark_notMem_slashPath (h : base.IsBase) : '?' ∉ base.slashPath := by
  obtain ⟨path, hpath⟩ := h.sent
  rw [slashPath]
  split
  · decide
  · rw [hpath]
    exact notMem_encodePart (by decide) (by decide) (by decide) _

end Url

end IndexSearch
