import IndexSearch.Proofs.Digits
import IndexSearch.Proofs.JoinedUrls
import IndexSearch.Proofs.ServiceAnswers

namespace IndexSearch

open Number Text

/-!
# Where searches are sent

The URL of a search is put together of the base URL of the service, the name of the index and the
version of the interface. The version is escaped, so it is one parameter whatever it is. The name is
not: it is a part of a relative URL that is read like any other. If it reads as one segment that
stands for itself, the search is sent to the index of that name below the base URL, and to nothing
else. A slash, a question mark, a number sign, an escape, or dots alone change the path that the
search is sent to.

* `Url.IsPlainName` — the names that read as one segment that stands for itself;
* `Url.exists_path_of_searchUrl`, `Url.segments_searchPathBelow` — the path of a search;
* `Url.isSearchBelow_of_isPlainName`, `Url.isPlainName_of_isSearchBelow` — which names are reached;
* `Connection.search_reaches` — where the searches on a connection are sent.
-/

namespace Url

variable {base u v : Url} {name s : List Char}

/-! ### The name of an index in a path -/

/-- Whether a character is none of those that end the path of a URL. -/
def isOfPath (c : Char) : Bool := c ≠ '#' && c ≠ '?'

/-- What the path of a search on an index of the given name ends in, if it is not cut off. -/
def nameInPath (name : List Char) : List Char :=
  (name ++ "/docs/search".toList).takeWhile isOfPath

/-- Whether a name reads as one segment of a path that stands for itself. -/
structure IsPlainName (name : List Char) : Prop where
  /-- The name is not divided. -/
  noSlash : '/' ∉ name
  /-- No query begins in the name. -/
  noMark : '?' ∉ name
  /-- No fragment begins in the name. -/
  noSign : '#' ∉ name
  /-- Nothing in the name stands for something else. -/
  noEscape : ¬ HasEscape name
  /-- The name is no step in the path. -/
  noDots : ¬ IsDots name

instance (name : List Char) : Decidable (IsDots name) := inferInstanceAs (Decidable (_ ∨ _))

instance (name : List Char) : Decidable (IsPlainName name) :=
  decidable_of_iff ('/' ∉ name ∧ '?' ∉ name ∧ '#' ∉ name ∧ ¬ HasEscape name ∧ ¬ IsDots name)
    ⟨fun ⟨hslash, hmark, hsign, hescape, hdots⟩ => ⟨hslash, hmark, hsign, hescape, hdots⟩,
      fun h => ⟨h.noSlash, h.noMark, h.noSign, h.noEscape, h.noDots⟩⟩

/-- The path ends at a hash or a question mark. -/
theorem isOfPath_iff {c : Char} : isOfPath c = true ↔ c ≠ '#' ∧ c ≠ '?' := by
  simp [isOfPath]

/-- A plain name is a segment, and two segments follow it. -/
theorem IsPlainName.segments_nameInPath (h : IsPlainName name) :
    segments '/' (nameInPath name) = [name, "docs".toList, "search".toList] := by
  have hname : ∀ c ∈ name, isOfPath c = true := by
    intro c hc
    rw [isOfPath_iff]
    refine ⟨?_, ?_⟩
    · rintro rfl
      exact h.noSign hc
    · rintro rfl
      exact h.noMark hc
  rw [nameInPath, List.takeWhile_append_of_pos hname]
  show segments '/' (name ++ '/' :: "docs/search".toList) = _
  rw [segments_append_sep, segments_of_notMem h.noSlash]
  rfl

/-- Whatever the name, a segment is one of those that should follow it or a part of the name in
    which no other part of a URL begins. -/
theorem of_mem_nameInPath (h : s ∈ segments '/' (nameInPath name)) :
    s = "docs".toList ∨ s = "search".toList
      ∨ s <:+: name ∧ '/' ∉ s ∧ '?' ∉ s ∧ '#' ∉ s := by
  -- a segment is a piece of the path, so it holds no sign that ends one
  have hslash := sep_notMem_of_mem_segments h
  have hinside : ∀ c ∈ s, isOfPath c = true := fun c hc =>
    List.mem_takeWhile_imp ((isInfix_of_mem_segments h).subset hc)
  have hmark : '?' ∉ s := fun hc => (isOfPath_iff.mp (hinside _ hc)).2 rfl
  have hsign : '#' ∉ s := fun hc => (isOfPath_iff.mp (hinside _ hc)).1 rfl
  by_cases hname : ∀ c ∈ name, isOfPath c = true
  · rw [nameInPath, List.takeWhile_append_of_pos hname] at h
    have hsplit : segments '/' (name ++ '/' :: "docs/search".toList)
        = segments '/' name ++ ["docs".toList, "search".toList] := segments_append_sep _ _
    rw [show List.takeWhile isOfPath "/docs/search".toList = '/' :: "docs/search".toList from rfl,
      hsplit, List.mem_append] at h
    rcases h with h | h
    · exact .inr (.inr ⟨isInfix_of_mem_segments h, hslash, hmark, hsign⟩)
    · simp only [List.mem_cons, List.not_mem_nil, or_false] at h
      rcases h with rfl | rfl
      · exact .inl rfl
      · exact .inr (.inl rfl)
  · -- the path ends inside the name
    have hcut : nameInPath name <+: name := by
      have hlength : ¬ (name.takeWhile isOfPath).length = name.length := fun hlength =>
        hname (List.takeWhile_eq_self_iff.mp
          ((List.takeWhile_prefix isOfPath).eq_of_length hlength))
      rw [nameInPath, List.takeWhile_append, if_neg hlength]
      exact List.takeWhile_prefix isOfPath
    exact .inr (.inr ⟨(isInfix_of_mem_segments h).trans hcut.isInfix, hslash, hmark, hsign⟩)

/-! ### The path of a search -/

/-- The URL of a search path, read by itself, has all that is left of the path, escaped. -/
theorem path_of_parse_searchPath {index : String}
    (h : parse (Service.searchPath index).toList = .ok u) :
    u.path = "/indexes/".toList ++ encodePart pathSafe (nameInPath index.toList) := by
  have hchars : (Service.searchPath index).toList
      = "/indexes/".toList ++ (index.toList ++ "/docs/search".toList) := by
    simp [Service.searchPath]
  have hpath : ∀ cs : List Char, (splitPath ("/indexes/".toList ++ cs)).1
      = "/indexes/".toList ++ cs.takeWhile isOfPath := by
    intro cs
    show (cutAtFirst '?' (cutAtFirst '#' _).1).1 = _
    rw [cutAtFirst_fst, cutAtFirst_fst, List.takeWhile_takeWhile,
      List.takeWhile_append_of_pos (List.all_eq_true.mp (by decide))]
    congr 2
    funext c
    simp [isOfPath, Bool.and_comm]
  -- there is neither a scheme nor an authority before the path
  have hmade : ∃ query fragment,
      ofParts [] [] (splitPath (Service.searchPath index).toList).1 query fragment = .ok u := by
    have hparts := ofParts_of_parse h
    rw [hchars] at hparts ⊢
    exact ⟨_, _, hparts⟩
  obtain ⟨query, fragment, hmade⟩ := hmade
  obtain ⟨user, host, port, -, hu⟩ := exists_of_ofParts hmade
  have hu' := congrArg Url.path hu
  rw [hchars, hpath, isRooted_of_ofParts_nil hmade] at hu'
  rw [hu']
  exact encodePart_append (List.all_iff_forall_prop.mp (by decide)) _

/-- The path that a search asks for below a base URL, before it is brought into the form to be
    sent. -/
def searchPathBelow (base : Url) (name : List Char) : List Char :=
  if base.query.isSome then base.slashPath
  else base.slashPath ++ ("indexes/".toList ++ encodePart pathSafe (nameInPath name))

/-- The path of a relative URL that is joined ends where a query begins. -/
theorem cutAtFirst_target (hbase : base.IsBase) (name : List Char) (query : Option (List Char)) :
    (cutAtFirst '?' (base.target ++ ("indexes/".toList
      ++ encodePart pathSafe (nameInPath name) ++ queryChars query))).1
        = searchPathBelow base name := by
  -- up to the first question mark there is nothing but what is written before the query
  have hmarks : ∀ {cs : List Char}, '?' ∉ cs →
      ∀ c ∈ cs, (fun d : Char => decide (d ≠ '?')) c = true := by
    intro cs hcs c hc
    rw [decide_eq_true_eq]
    rintro rfl
    exact hcs hc
  rw [cutAtFirst_fst, target, ← slashPath, searchPathBelow]
  -- a base with a query has its question mark before the name is reached
  cases base.query with
  | some q =>
    rw [List.append_assoc]
    exact takeWhile_append_stop (hmarks hbase.mark_notMem_slashPath) (by simp [queryChars])
  | none =>
    have hmark : '?' ∉ base.slashPath
        ++ ("indexes/".toList ++ encodePart pathSafe (nameInPath name)) := by
      rw [List.mem_append, List.mem_append, not_or, not_or]
      exact ⟨hbase.mark_notMem_slashPath, by decide,
        notMem_encodePart (by decide) (by decide) (by decide) _⟩
    rw [queryChars, List.append_nil, ← List.append_assoc]
    apply takeWhile_append_stop (hmarks hmark)
    cases query <;> simp [queryChars]

/-- **The URL of a search.** Its path is the one that the name of the index gives it, and its query
    is the one that asks for the version. -/
theorem exists_of_searchUrl {s : Service} {index : String} (hbase : base.IsBase)
    (h : s.searchUrl base index = .ok u) :
    ∃ below query, base.IsMovedTo (searchPathBelow base index.toList) query below
      ∧ below.IsMovedTo below.path (some s.versionQuery) u := by
  rw [Service.searchUrl] at h
  obtain ⟨relative, hparse, h⟩ := bind_eq_ok_iff.mp h
  obtain ⟨below, hjoin, h⟩ := bind_eq_ok_iff.mp h
  have htarget : relative.target.dropWhile (· = '/') = "indexes/".toList
      ++ encodePart pathSafe (nameInPath index.toList) ++ queryChars relative.query := by
    rw [target, path_of_parse_searchPath hparse]
    rfl
  have hmoved : base.IsMovedTo _ _ below := isMovedTo_of_withTarget hjoin
  rw [htarget, cutAtFirst_target hbase] at hmoved
  exact ⟨below, _, hmoved, isMovedTo_of_withPath h⟩

/-- The segments that a search asks for are those of the base URL, then `indexes`, and those of the
    name and of what follows it. -/
theorem segments_searchPathBelow (hbase : base.IsBase) (hquery : base.query = none) :
    segments '/' (searchPathBelow base name) = base.folder ++ "indexes".toList
      :: (segments '/' (nameInPath name)).map (encodePart pathSafe) := by
  have hsplit : segments '/' ("indexes".toList ++ '/' :: encodePart pathSafe (nameInPath name))
      = segments '/' "indexes".toList ++ segments '/' (encodePart pathSafe (nameInPath name)) :=
    segments_append_sep _ _
  rw [searchPathBelow, hquery, if_neg (by simp),
    segments_append_of_concat (hbase.slash hquery)]
  show base.folder ++ segments '/'
    ("indexes".toList ++ '/' :: encodePart pathSafe (nameInPath name)) = _
  rw [hsplit, segments_encodePart]
  rfl

/-- The path of a search is brought into the form to be sent once, with a place only if the base URL
    has one, and with one if that has a scheme. -/
theorem exists_path_of_searchUrl {s : Service} {index : String} (hbase : base.IsBase)
    (h : s.searchUrl base index = .ok u) :
    ∃ rooted, u.path = sentPath rooted (searchPathBelow base index.toList)
      ∧ (rooted = true → base.isRooted = true) ∧ (base.scheme ≠ [] → rooted = true) := by
  obtain ⟨below, query, hbelow, hu⟩ := exists_of_searchUrl hbase h
  refine ⟨below.isRooted, ?_, hbelow.rooted,
    fun hscheme => isRooted_of_scheme_ne (hbelow.scheme_ne hscheme)⟩
  rw [hu.path_eq, hbelow.path_eq, sentPath_sentPath hu.rooted]

/-! ### Searches on an index -/

/-- Whether the path of a URL names the searches on an index below a base URL. -/
def IsSearchBelow (u base : Url) (name : List Char) : Prop :=
  ∃ a b c d, segments '/' u.path = base.folder ++ [a, b, c, d]
    ∧ decodePart a = Utf8.encode "indexes".toList ∧ decodePart b = Utf8.encode name
    ∧ decodePart c = Utf8.encode "docs".toList ∧ decodePart d = Utf8.encode "search".toList

/-- Whether the query of a URL is one parameter, and that one asks for the version. -/
def AsksFor (u : Url) (version : String) : Prop :=
  ∃ value, u.query = some ("api-version=".toList ++ value) ∧ '&' ∉ value
    ∧ decodeForm value = Utf8.encode version.toList

/-- The URL of a search asks for the version of the service. -/
theorem asksFor_of_searchUrl {s : Service} {index version : String} (hbase : base.IsBase)
    (hversion : s.apiVersion = .text version) (h : s.searchUrl base index = .ok u) :
    u.AsksFor version := by
  obtain ⟨below, query, -, hu⟩ := exists_of_searchUrl hbase h
  have hquery : s.versionQuery = "api-version=".toList ++ encodeForm version.toList := by
    rw [Service.versionQuery, hversion]
    rfl
  refine ⟨encodeForm version.toList, ?_, and_notMem_encodeForm _, decodeForm_encodeForm _⟩
  rw [hu.query_eq, hquery, Option.map_some,
    encodePart_append (List.all_iff_forall_prop.mp (by decide)), encodePart_encodeForm]

/-- **A plain name is reached.** -/
theorem isSearchBelow_of_isPlainName {s : Service} {index : String} (hbase : base.IsBase)
    (hquery : base.query = none) (hname : IsPlainName index.toList)
    (h : s.searchUrl base index = .ok u) : u.IsSearchBelow base index.toList := by
  obtain ⟨rooted, hpath, hrooted, -⟩ := exists_path_of_searchUrl hbase h
  have hsegments : segments '/' (searchPathBelow base index.toList) = base.folder
      ++ ["indexes".toList, encodePart pathSafe index.toList, "docs".toList, "search".toList] := by
    rw [segments_searchPathBelow hbase hquery, hname.segments_nameInPath]
    rfl
  -- none of the segments is taken out for its dots
  have hkept : resolved rooted (segments '/' (searchPathBelow base index.toList))
      = segments '/' (searchPathBelow base index.toList) := by
    apply resolved_of_noDots
    intro hplace s hs
    rw [hsegments, List.mem_append] at hs
    rcases hs with hs | hs
    · exact (hbase.of_mem_folder hs).2 (hrooted hplace)
    · simp only [List.mem_cons, List.not_mem_nil, or_false] at hs
      rcases hs with rfl | rfl | rfl | rfl
      · decide
      · exact mt isDots_encodePart.mp hname.noDots
      · decide
      · decide
  refine ⟨"indexes".toList, encodePart pathSafe index.toList, "docs".toList, "search".toList,
    ?_, by decide, ?_, by decide, by decide⟩
  · rw [hpath, segments_sentPath (by rw [hkept]; exact segments_ne_nil _ _), hkept, hsegments,
      List.map_append, map_encodePart_eq_self fun f hf => (hbase.of_mem_folder hf).1]
    show base.folder ++ [_, encodePart pathSafe (encodePart pathSafe index.toList), _, _] = _
    rw [encodePart_encodePart]
    rfl
  · rw [decodePart_encodePart, decodePart_of_not_hasEscape hname.noEscape]

/-- A segment after the name that stands for the name is all of it, unless the name is that of one of
    the segments that follow. -/
theorem isPlainName_of_mem_nameInPath (hs : s ∈ segments '/' (nameInPath name))
    (hdots : ¬ IsDots s) (h : decodePart s = Utf8.encode name) : IsPlainName name := by
  rcases of_mem_nameInPath hs with rfl | rfl | ⟨hpart, hslash, hmark, hsign⟩
  · rw [← Utf8.encode_inj.mp (show Utf8.encode "docs".toList = _ from h)]
    decide
  · rw [← Utf8.encode_inj.mp (show Utf8.encode "search".toList = _ from h)]
    decide
  · obtain ⟨rfl, hescape⟩ := eq_of_decodePart_eq hpart h
    exact ⟨hslash, hmark, hsign, hescape, hdots⟩

/-- The second segment below those of the base URL comes from the name, or from what follows it. -/
theorem exists_mem_nameInPath (hbase : base.IsBase) (hplace : base.isRooted = true)
    (hquery : base.query = none) {a b : List Char} {back : List (List Char)}
    (h : (resolved true (segments '/' (searchPathBelow base name))).map (encodePart pathSafe)
      = base.folder ++ a :: b :: back) :
    ∃ s ∈ segments '/' (nameInPath name), ¬ IsDots s ∧ decodePart b = decodePart s := by
  -- the front of the path is kept, since none of its segments is made of dots
  have hfront : ∀ f ∈ base.folder ++ ["indexes".toList], ¬ IsDots f := by
    intro f hf
    rcases List.mem_append.mp hf with hf | hf
    · exact (hbase.of_mem_folder hf).2 hplace
    · rw [List.mem_singleton.mp hf]
      decide
  -- of the name's own segments some are added, and of the front some are taken away
  obtain ⟨kept, added, hleft, hkept, hadded⟩ := exists_resolveSegments
    (base.folder ++ ["indexes".toList]).reverse
    ((segments '/' (nameInPath name)).map (encodePart pathSafe))
  have hresolved : resolved true (segments '/' (searchPathBelow base name)) = kept ++ added := by
    rw [segments_searchPathBelow hbase hquery, ← List.singleton_append, ← List.append_assoc]
    show resolveSegments [] _ = _
    rw [resolveSegments_append, resolveSegments_of_noDots hfront, List.reverse_nil,
      List.nil_append, hleft]
  rw [List.reverse_reverse] at hkept
  have hlength := hkept.length_le
  rw [List.length_append, List.length_singleton] at hlength
  rw [hresolved, List.map_append] at h
  obtain ⟨t, ht, rfl⟩ := List.mem_map.mp (mem_added_of_append_eq h (by rwa [List.length_map]))
  obtain ⟨hmem, hdots⟩ := hadded t ht
  obtain ⟨s, hs, rfl⟩ := List.mem_map.mp hmem
  refine ⟨s, hs, mt isDots_encodePart.mpr hdots, ?_⟩
  rw [decodePart_encodePart, decodePart_encodePart]

/-- With a query in the base URL, the name is a part of it that is not kept. -/
theorem resolved_searchPathBelow_of_query (hbase : base.IsBase) (hplace : base.isRooted = true)
    {query : List Char} (hquery : base.query = some query) :
    resolved true (segments '/' (searchPathBelow base name)) = segments '/' base.slashPath := by
  rw [searchPathBelow, hquery]
  exact resolved_of_noDots fun _ s hs => (hbase.of_mem_slashPath hs).2 hplace

/-- **Only a plain name is reached**, and only below a base URL without a query. -/
theorem isPlainName_of_isSearchBelow {s : Service} {index : String} (hbase : base.IsBase)
    (hscheme : base.scheme ≠ []) (h : s.searchUrl base index = .ok u)
    (hbelow : u.IsSearchBelow base index.toList) :
    base.query = none ∧ IsPlainName index.toList := by
  obtain ⟨rooted, hpath, -, hrooted⟩ := exists_path_of_searchUrl hbase h
  obtain rfl := hrooted hscheme
  have hplace : base.isRooted = true := isRooted_of_scheme_ne hscheme
  obtain ⟨a, b, c, d, hsegments, -, hb, -⟩ := hbelow
  rw [hpath] at hsegments
  -- something is left of the path, since there are four segments at least
  have hne : resolved true (segments '/' (searchPathBelow base index.toList)) ≠ [] := by
    intro hnil
    have hlength := congrArg List.length hsegments
    rw [sentPath_eq_nil hnil, List.length_append] at hlength
    simp [segments] at hlength
  rw [segments_sentPath hne] at hsegments
  cases hquery : base.query with
  | some query =>
    have hlength := congrArg List.length hsegments
    rw [resolved_searchPathBelow_of_query hbase hplace hquery, List.length_map, List.length_append,
      folder, List.length_dropLast] at hlength
    simp at hlength
    omega
  | none =>
    obtain ⟨s, hs, hdots, hsame⟩ := exists_mem_nameInPath hbase hplace hquery hsegments
    exact ⟨rfl, isPlainName_of_mem_nameInPath hs hdots (hsame.symm.trans hb)⟩

/-- Names that are both reached under one URL are the same. -/
theorem IsSearchBelow.eq_of_path_eq {m n : List Char} (hu : u.IsSearchBelow base m)
    (hv : v.IsSearchBelow base n) (h : u.path = v.path) : m = n := by
  obtain ⟨a, b, c, d, hsegments, -, hb, -⟩ := hu
  obtain ⟨a', b', c', d', hsegments', -, hb', -⟩ := hv
  rw [h, hsegments'] at hsegments
  obtain ⟨-, hsame, -⟩ := by simpa using hsegments
  rw [← Utf8.encode_inj, ← hb, ← hb', hsame]

/-- Searches below one base URL are all sent to one place. -/
theorem samePlace_of_searchUrl {s : Service} {index index' : String} (hbase : base.IsBase)
    (hu : s.searchUrl base index = .ok u) (hv : s.searchUrl base index' = .ok v) :
    u.SamePlace v ∧ u.query = v.query := by
  obtain ⟨below, query, hbelow, hu⟩ := exists_of_searchUrl hbase hu
  obtain ⟨below', query', hbelow', hv⟩ := exists_of_searchUrl hbase hv
  have hplace : below.SamePlace below' :=
    SamePlace.of_isMovedTo ⟨rfl, rfl, rfl⟩ hbelow hbelow'
  exact ⟨hplace.of_isMovedTo hu hv, hu.query_eq.trans hv.query_eq.symm⟩

end Url

namespace Connection

open Url

/-- A request that is sent goes to the URL of the search below the base URL. -/
theorem exists_url_of_sent {c : Connection} {index : String} {r : SearchRequest} {reply : Reply}
    {q : SentRequest} (h : q ∈ (c.search (.text index) r reply).1.sent) :
    ∃ base u, c.service.base = .ok base ∧ c.service.searchUrl base index = .ok u
      ∧ q.url = String.ofList u.toChars := by
  obtain ⟨channel, u, hchannel, hu, rfl⟩ := Service.mem_sent_iff.mp h
  exact ⟨channel.base, u, Service.base_of_channel hchannel, hu, rfl⟩

/-- **Where the searches on a connection are sent.** The query of the URL is always the one
    parameter that asks for the version. If the name of the index reads as one segment that stands
    for itself, and the base URL has no query, the path names the searches on that index below the
    base URL, and no other such name reaches the URL. With a scheme in the base URL these are the
    only names for which it does. -/
theorem search_reaches {c : Connection} {index version : String} {r : SearchRequest}
    {reply : Reply} {q : SentRequest} (hversion : c.service.apiVersion = .text version)
    (hsent : q ∈ (c.search (.text index) r reply).1.sent) :
    ∃ base u, c.service.base = .ok base ∧ c.service.searchUrl base index = .ok u
      ∧ q.url = String.ofList u.toChars
      ∧ u.AsksFor version
      ∧ (base.query = none → IsPlainName index.toList → u.IsSearchBelow base index.toList)
      ∧ (base.scheme ≠ [] → u.IsSearchBelow base index.toList →
        base.query = none ∧ IsPlainName index.toList)
      ∧ (base.query = none → IsPlainName index.toList →
        ∀ (index' : String) (r' : SearchRequest) (reply' : Reply), IsPlainName index'.toList →
          ∀ q' ∈ (c.search (.text index') r' reply').1.sent, q'.url = q.url → index' = index) := by
  obtain ⟨base, u, hbase, hu, hurl⟩ := exists_url_of_sent hsent
  have hisBase := Service.isBase hbase
  refine ⟨base, u, hbase, hu, hurl, asksFor_of_searchUrl hisBase hversion hu,
    fun hquery hname => isSearchBelow_of_isPlainName hisBase hquery hname hu,
    fun hscheme => isPlainName_of_isSearchBelow hisBase hscheme hu, ?_⟩
  -- two plain names below one base: the places are read off the same address
  intro hquery hname index' r' reply' hname' q' hsent' hsame
  obtain ⟨base', u', hbase', hu', hurl'⟩ := exists_url_of_sent hsent'
  obtain rfl := Except.ok.inj (hbase.symm.trans hbase')
  obtain ⟨hplace, hqueries⟩ := samePlace_of_searchUrl hisBase hu' hu
  have hchars : u'.toChars = u.toChars := by
    rw [hurl, hurl'] at hsame
    exact String.ofList_inj.mp hsame
  have hbelow := isSearchBelow_of_isPlainName hisBase hquery hname hu
  have hbelow' := isSearchBelow_of_isPlainName hisBase hquery hname' hu'
  exact String.toList_inj.mp (hbelow'.eq_of_path_eq hbelow (hplace.path_eq hqueries hchars))

/-- In a name, a blank and a letter beyond ASCII are escaped, and a percent sign that begins no escape
    is kept. In a version, all but a few characters are escaped. -/
theorem search_reaches_percent_sign :
    let c := ofService
      ⟨"https://docs.search.windows.net/v1", .null, .text "2020 &api-version=?", .int 30⟩
    let r : SearchRequest := ⟨none, none, [], none, none, [], false⟩
    let x := (c.search (.text "50% é") r (.answered 404 [])).1
    c.service.apiVersion = .text "2020 &api-version=?"
      ∧ x.sent.map SentRequest.url = ["https://docs.search.windows.net/v1/indexes/"
        ++ "50%%20%C3%A9/docs/search?api-version=2020+%26api-version%3D%3F"]
      ∧ ∃ base u, c.service.base = .ok base ∧ c.service.searchUrl base "50% é" = .ok u
        ∧ u.AsksFor "2020 &api-version=?" ∧ u.IsSearchBelow base "50% é".toList := by
  intro c r x
  have hurls : x.sent.map SentRequest.url = ["https://docs.search.windows.net/v1/indexes/"
      ++ "50%%20%C3%A9/docs/search?api-version=2020+%26api-version%3D%3F"] := by
    decide +kernel
  obtain ⟨q, hq, -⟩ := List.mem_map.mp (hurls ▸ List.mem_singleton_self _)
  obtain ⟨base, u, hbase, hu, -, hasks, hreaches, -⟩ := search_reaches (c := c) rfl hq
  have hquery : (c.service.base.toOption.bind Url.query) = none := by decide +kernel
  rw [hbase] at hquery
  exact ⟨rfl, hurls, base, u, hbase, hu, hasks, hreaches hquery (by decide +kernel)⟩

/-- The name of an index reaches into the rest of the URL: after a question mark or a number sign
    nothing of the path is left, two dots lead to another path, and different names share a URL. -/
theorem search_redirected :
    let c := ofService
      ⟨"https://docs.search.windows.net", .null, .text "2020-06-30", .int 30⟩
    let r : SearchRequest := ⟨none, none, [], none, none, [], false⟩
    let urls := fun index : String =>
      (c.search (.text index) r (.answered 404 [])).1.sent.map SentRequest.url
    urls "a?b" = ["https://docs.search.windows.net/indexes/a?api-version=2020-06-30"]
      ∧ urls "a#b" = urls "a?b" ∧ urls "../indexes/a?" = urls "a?b"
      ∧ ∀ base u, c.service.base = .ok base → c.service.searchUrl base "a?b" = .ok u →
        ¬ u.IsSearchBelow base "a?b".toList := by
  intro c r urls
  refine ⟨by decide +kernel, by decide +kernel, by decide +kernel, ?_⟩
  intro base u hbase hu hbelow
  -- the base has a scheme, so reaching the place would make the name a plain one
  have hscheme : c.service.base.toOption.map Url.scheme = some "https".toList := by
    decide +kernel
  rw [hbase] at hscheme
  have hne : base.scheme ≠ [] := by
    rw [Option.some.inj hscheme]
    decide
  obtain ⟨-, hname⟩ := isPlainName_of_isSearchBelow (Service.isBase hbase) hne hu hbelow
  exact hname.noMark (by decide)

end Connection

end IndexSearch
