import IndexSearch.Proofs.SessionHistory

namespace IndexSearch

/-!
# What is left open of a session

To close a session closes the connection and the link that it has then. A session that is entered
once more before it is closed has others afterwards, and nothing closes those from before: a
connection that had been opened and a link that had been connected by then are left open. Nothing
else is, so a session that is closed whenever it has been entered leaves nothing open.

* `Session.EnteredWhen` — whether a session has been entered in a state of a given kind;
* `Session.exists_former_iff` — what is left of the searchers that a session had;
* `Session.left_open_iff` — what is left open right after a session was closed.
-/

namespace Session

/-- Whether a session has been entered at a time when the calls before were of a given kind. -/
def EnteredWhen (s : Session) (p : List SessionTurn → Prop) (turns : List SessionTurn) : Prop :=
  ∃ earlier t later, turns = earlier ++ t :: later ∧ s.Enters earlier t ∧ p earlier

variable {s : Session} {p : List SessionTurn → Prop} {turns : List SessionTurn} {t : SessionTurn}

/-- At first nothing has been entered. -/
theorem not_enteredWhen_nil : ¬ s.EnteredWhen p [] := by
  rintro ⟨earlier, t, later, hnil, -⟩
  cases earlier <;> cases hnil

/-- A session was entered at a time if it was by the last turn or by an earlier one. -/
theorem enteredWhen_concat : s.EnteredWhen p (turns ++ [t])
    ↔ (s.Enters turns t ∧ p turns) ∨ s.EnteredWhen p turns := by
  have hconcat := exists_since_concat (p := fun earlier t => s.Enters earlier t ∧ p earlier)
    (q := fun _ => False) turns t
  simpa [EnteredWhen] using hconcat

/-- What was so at an entry may be weakened. -/
theorem EnteredWhen.imp {p' : List SessionTurn → Prop} (h : s.EnteredWhen p turns)
    (himp : ∀ earlier, p earlier → p' earlier) : s.EnteredWhen p' turns := by
  obtain ⟨earlier, t, later, heq, henters, hp⟩ := h
  exact ⟨earlier, t, later, heq, henters, himp earlier hp⟩

/-- What was so at an entry may be worded anew. -/
theorem enteredWhen_congr {p' : List SessionTurn → Prop} (h : ∀ earlier, p earlier ↔ p' earlier) :
    s.EnteredWhen p turns ↔ s.EnteredWhen p' turns :=
  ⟨fun hp => hp.imp fun earlier => (h earlier).mp, fun hp => hp.imp fun earlier => (h earlier).mpr⟩

/-! ### Searchers that a session had -/

variable {P : Searcher → Prop}

/-- What one call leaves of the searchers before: one that is entered over is left as it is. -/
theorem exists_former_afterTurn (hclosed : ∀ x : Searcher, ¬ P x.close) :
    (∃ x ∈ (s.afterTurn t).former, P x) ↔
      ((t.call = .enter ∧ s.settings.CanEnter) ∧ ∃ x, s.searcher = some x ∧ P x)
        ∨ ∃ x ∈ s.former, P x := by
  unfold afterTurn
  cases hcall : t.call with
  | enter =>
    by_cases hcan : s.settings.CanEnter
    · obtain ⟨⟨level, hlevel⟩, service, hservice⟩ := id hcan
      simp only [enter_eq hlevel hservice, hcan, true_and, List.mem_append, Option.mem_toList,
        or_and_right, exists_or]
    · cases hresult : (s.enter t.server t.level).1 with
      | error e => simp [(enter_of_error hresult).1, hcan]
      | ok u => exact absurd (enter_eq_ok_iff.mp hresult) hcan
  | exit | close =>
    -- the searcher that is closed has nothing open
    have hnone : ¬ ∃ x ∈ s.searcher.toList.map Searcher.close, P x := by
      rintro ⟨x, hx, hP⟩
      obtain ⟨y, -, rfl⟩ := List.mem_map.mp hx
      exact hclosed y hP
    simp only [close, List.mem_append, or_and_right, exists_or, hnone, false_or, reduceCtorEq,
      false_and]
  | search c =>
    show (∃ x ∈ (s.search _ _ _ _ _).session.former, P x) ↔ _
    rw [former_search]
    simp
  | invalidate index => simp

/-- **What is left of the searchers before**, apart from those that were closed: those that the
    session had when it was entered once more. -/
theorem exists_former_iff (hnew : s.former = []) (hclosed : ∀ x : Searcher, ¬ P x.close) :
    (∃ x ∈ (s.afterTurns turns).former, P x) ↔
      s.EnteredWhen (fun earlier => ∃ x, (s.afterTurns earlier).searcher = some x ∧ P x) turns := by
  induction turns using List.reverseRecOn with
  | nil =>
    refine iff_of_false ?_ not_enteredWhen_nil
    show ¬ ∃ x ∈ s.former, P x
    simp [hnew]
  | append_singleton turns t ih =>
    rw [afterTurns_concat, exists_former_afterTurn hclosed, enteredWhen_concat, ih, enters_iff,
      (s.sameSource_afterTurns turns).1]

/-! ### What a session has while it is entered -/

/-- Whether the session is entered and its connection has been opened. -/
def HasConnection (s : Session) (turns : List SessionTurn) : Prop :=
  ∃ service e during, s.settings.service = .ok service ∧ s.IsInUse turns e during
    ∧ ∃ u ∈ during, Opens (s.enteredSearcher service e.server) u

/-- Whether the session is entered and linked to the key-value server. -/
def HasLink (s : Session) (turns : List SessionTurn) : Prop :=
  ∃ e during url, s.IsInUse turns e during ∧ s.Links e.server url

variable {x : Searcher} {l : Link} {server : Server}

/-- A session with a searcher was entered last by some call, and has the searcher since then. -/
theorem exists_isInUse_of_searcher (hnew : s.searcher = none)
    (h : (s.afterTurns turns).searcher = some x) :
    ∃ service e during, s.settings.service = .ok service ∧ s.IsInUse turns e during
      ∧ x.link = s.openLink e.server
      ∧ (x.connection.isOpen = true ↔ ∃ u ∈ during, Opens (s.enteredSearcher service e.server) u) := by
  have hentered : s.EnteredSinceClosed turns := by
    by_contra hnot
    cases (searcher_of_not_entered hnew hnot).symm.trans h
  obtain ⟨-, service, hservice⟩ := canEnter_of_enteredSinceClosed hentered
  obtain ⟨e, during, huse⟩ := exists_isInUse hentered
  obtain ⟨isOpen, hsearcher, hopen⟩ := searcher_of_isInUse huse hservice
  obtain rfl := Option.some.inj (h.symm.trans hsearcher)
  exact ⟨service, e, during, hservice, huse, rfl, hopen⟩

/-- A link is opened exactly if the settings have an address and the server answers there. -/
theorem openLink_eq_some_iff :
    s.openLink server = some l ↔ ∃ url, s.Links server url ∧ l = ⟨.text url, true⟩ := by
  constructor
  · intro h
    by_cases hlinks : ∃ url, s.Links server url
    · obtain ⟨url, hurl⟩ := hlinks
      exact ⟨url, hurl, Option.some.inj (h.symm.trans (openLink_of_links hurl))⟩
    · cases h.symm.trans (openLink_of_not_links (not_exists.mp hlinks))
  · rintro ⟨url, hurl, rfl⟩
    exact openLink_of_links hurl

/-- A searcher that is entered over such a server is linked to it. -/
theorem isLinked_enteredSearcher {url : String} (h : s.Links server url) (service : Service) :
    (s.enteredSearcher service server).IsLinked :=
  ⟨_, openLink_of_links h, rfl⟩

/-- The searcher of a session has an open connection exactly if it was used since it was entered. -/
theorem exists_isOpen_iff (hnew : s.searcher = none) :
    (∃ x, (s.afterTurns turns).searcher = some x ∧ x.connection.isOpen = true)
      ↔ s.HasConnection turns := by
  constructor
  · rintro ⟨x, hx, hopen⟩
    obtain ⟨service, e, during, hservice, huse, -, hiff⟩ := exists_isInUse_of_searcher hnew hx
    exact ⟨service, e, during, hservice, huse, hiff.mp hopen⟩
  · rintro ⟨service, e, during, hservice, huse, hopens⟩
    obtain ⟨isOpen, hsearcher, hopen⟩ := searcher_of_isInUse huse hservice
    exact ⟨_, hsearcher, hopen.mpr hopens⟩

/-- The searcher of a session is linked exactly if it was when it was entered. -/
theorem exists_isLinked_iff (hnew : s.searcher = none) :
    (∃ x, (s.afterTurns turns).searcher = some x ∧ x.IsLinked) ↔ s.HasLink turns := by
  constructor
  · rintro ⟨x, hx, l, hlink, -⟩
    obtain ⟨service, e, during, -, huse, hopened, -⟩ := exists_isInUse_of_searcher hnew hx
    obtain ⟨url, hurl, -⟩ := openLink_eq_some_iff.mp (hopened.symm.trans hlink)
    exact ⟨e, during, url, huse, hurl⟩
  · rintro ⟨e, during, url, huse, hurl⟩
    obtain ⟨-, service, hservice⟩ :=
      canEnter_of_enteredSinceClosed (enteredSinceClosed_of_isInUse huse)
    obtain ⟨isOpen, hsearcher, -⟩ := searcher_of_isInUse huse hservice
    exact ⟨_, hsearcher, isLinked_enteredSearcher hurl service⟩

/-! ### After a session was closed -/

/-- Without a searcher the open connections are those of former ones. -/
theorem openConnections_ne_nil_iff (h : s.searcher = none) :
    s.openConnections ≠ [] ↔ ∃ x ∈ s.former, x.connection.isOpen = true := by
  rw [openConnections, h, ne_eq, List.filter_eq_nil_iff]
  simp

/-- Without a searcher the open links are those of former ones. -/
theorem openLinks_ne_nil_iff (h : s.searcher = none) :
    s.openLinks ≠ [] ↔ ∃ x ∈ s.former, x.IsLinked := by
  rw [openLinks, h, ne_eq, List.filter_eq_nil_iff]
  simp only [Option.toList_none, List.nil_append, List.mem_filterMap, not_forall, not_not]
  constructor
  · rintro ⟨l, ⟨x, hx, hlink⟩, hconnected⟩
    exact ⟨x, hx, l, hlink, hconnected⟩
  · rintro ⟨x, hx, l, hlink, hconnected⟩
    exact ⟨l, ⟨x, hx, hlink⟩, hconnected⟩

/-- A searcher that is closed is not linked. -/
theorem not_isLinked_close (x : Searcher) : ¬ x.close.IsLinked := by
  rintro ⟨l, hlink, hconnected⟩
  obtain ⟨k, -, rfl⟩ := Option.map_eq_some_iff.mp hlink
  cases hconnected

/-- A session that is closed has no searcher. -/
theorem searcher_of_isClosing (ht : t.call.IsClosing) :
    (s.afterTurns (turns ++ [t])).searcher = none := by
  rw [afterTurns_concat, afterTurn]
  cases hcall : t.call with
  | exit | close => rfl
  | _ =>
    rw [hcall] at ht
    exact ht.elim

/-- To close a session is not to enter it. -/
theorem enteredWhen_of_isClosing (ht : t.call.IsClosing) :
    s.EnteredWhen p (turns ++ [t]) ↔ s.EnteredWhen p turns := by
  rw [enteredWhen_concat, or_iff_right]
  rintro ⟨⟨hcall, -⟩, -⟩
  rw [hcall] at ht
  exact ht

/-- Connections are left open by a session that was entered once more while it had one. -/
theorem openConnections_of_isClosing (hsearcher : s.searcher = none) (hformer : s.former = [])
    (ht : t.call.IsClosing) : (s.afterTurns (turns ++ [t])).openConnections ≠ []
      ↔ s.EnteredWhen s.HasConnection turns := by
  rw [openConnections_ne_nil_iff (searcher_of_isClosing ht),
    exists_former_iff hformer fun _ => Bool.false_ne_true, enteredWhen_of_isClosing ht]
  exact enteredWhen_congr fun earlier => exists_isOpen_iff hsearcher

/-- Links are left connected by a session that was entered once more while it had one. -/
theorem openLinks_of_isClosing (hsearcher : s.searcher = none) (hformer : s.former = [])
    (ht : t.call.IsClosing) :
    (s.afterTurns (turns ++ [t])).openLinks ≠ [] ↔ s.EnteredWhen s.HasLink turns := by
  rw [openLinks_ne_nil_iff (searcher_of_isClosing ht),
    exists_former_iff hformer not_isLinked_close, enteredWhen_of_isClosing ht]
  exact enteredWhen_congr fun earlier => exists_isLinked_iff hsearcher

/-- **What is left open right after a session was closed.** A connection is left open exactly if the
    session was once entered while it was entered already and its connection had been opened; and a
    link is left connected exactly if the session was once entered while it was entered already and
    linked to the server. So nothing is left open of a session that was never entered while it was
    entered already. -/
theorem left_open_iff (settings : Settings) (keepsAnswers : Bool) (turns : List SessionTurn)
    (ht : t.call.IsClosing) :
    let new := ofSettings settings keepsAnswers
    let closed := new.afterTurns (turns ++ [t])
    (closed.openConnections ≠ [] ↔ new.EnteredWhen new.HasConnection turns)
      ∧ (closed.openLinks ≠ [] ↔ new.EnteredWhen new.HasLink turns)
      ∧ (¬ new.EnteredWhen new.EnteredSinceClosed turns →
        closed.openConnections = [] ∧ closed.openLinks = []) := by
  intro new closed
  have hconnections : closed.openConnections ≠ [] ↔ new.EnteredWhen new.HasConnection turns :=
    openConnections_of_isClosing rfl rfl ht
  have hlinks : closed.openLinks ≠ [] ↔ new.EnteredWhen new.HasLink turns :=
    openLinks_of_isClosing rfl rfl ht
  refine ⟨hconnections, hlinks, fun hnever => ⟨?_, ?_⟩⟩
  · -- what is left open was in use when a later enter put another in its place
    by_contra hopen
    apply hnever
    exact (hconnections.mp hopen).imp fun earlier ⟨_, _, _, _, huse, _⟩ =>
      enteredSinceClosed_of_isInUse huse
  · by_contra hlinked
    apply hnever
    exact (hlinks.mp hlinked).imp fun earlier ⟨_, _, _, huse, _⟩ =>
      enteredSinceClosed_of_isInUse huse

/-- A session that is entered, used and left, and then entered once more and closed: nothing is left
    open of it. -/
theorem left_open_iff_nothing :
    let second : Number.Binary64 := .finite false Number.leastFull 1022 (by decide)
    let settings : Settings := ⟨some "docs", none, none, "2020-06-30", second,
      some "redis://localhost:6379/0", 300, false, "INFO"⟩
    let call : SearchCall := ⟨.text "docs", ⟨none, none, [], none, none, [], false⟩, .plain,
      .answered 200 "\x7b\"value\": []\x7d".toUTF8.toList⟩
    let turn (call : SessionCall) : SessionTurn := ⟨call, ⟨[], none⟩, .info⟩
    let closed := (ofSettings settings true).afterTurns
      ([turn .enter, turn (.search call), turn .exit, turn .enter] ++ [turn .close])
    closed.openConnections = [] ∧ closed.openLinks = [] := by
  intro second settings call turn closed
  obtain ⟨-, -, hnothing⟩ := left_open_iff settings true
    [turn .enter, turn (.search call), turn .exit, turn .enter] (t := turn .close) trivial
  apply hnothing
  have hturns : [turn .enter, turn (.search call), turn .exit, turn .enter]
      = ((([] ++ [turn .enter]) ++ [turn (.search call)]) ++ [turn .exit]) ++ [turn .enter] := rfl
  rw [hturns]
  simp only [enteredWhen_concat, enteredSinceClosed_concat]
  -- it is entered twice: after it was left, and at first as new
  rintro (⟨-, hexit | ⟨hleft, -⟩⟩ | ⟨hexit, -⟩ | ⟨hsearch, -⟩ | ⟨-, hnew⟩ | hnew)
  · cases hexit.1
  · exact hleft trivial
  · cases hexit.1
  · cases hsearch.1
  · exact not_enteredSinceClosed_nil hnew
  · exact not_enteredWhen_nil hnew

/-- A session that is entered and used, and entered once more before it is closed: the connection
    and the link that it had at first are left open. -/
theorem left_open_of_entered_twice :
    let second : Number.Binary64 := .finite false Number.leastFull 1022 (by decide)
    let url := "redis://localhost:6379/0"
    let settings : Settings :=
      ⟨some "docs", none, none, "2020-06-30", second, some url, 300, false, "INFO"⟩
    let call : SearchCall := ⟨.text "docs", ⟨none, none, [], none, none, [], false⟩, .plain,
      .answered 200 "\x7b\"value\": []\x7d".toUTF8.toList⟩
    let turn (call : SessionCall) : SessionTurn := ⟨call, ⟨[], none⟩, .info⟩
    let closed := (ofSettings settings true).afterTurns
      ([turn .enter, turn (.search call), turn .enter] ++ [turn .close])
    closed.openConnections ≠ [] ∧ closed.openLinks ≠ [] := by
  intro second url settings call turn closed
  let new := ofSettings settings true
  let before := [turn .enter, turn (.search call)]
  -- the settings give a service, and the service a channel
  obtain ⟨service, hservice, hchannel⟩ :
      ∃ service, settings.service = .ok service ∧ ∃ ch, service.channel = .ok ch := by
    have hready : (settings.service.toOption.any fun service =>
        service.channel.toOption.isSome) = true := by decide +kernel
    cases hservice : settings.service with
    | error e =>
      rw [hservice] at hready
      cases hready
    | ok service =>
      cases hchannel : service.channel with
      | error e => simp [hservice, hchannel, Except.toOption] at hready
      | ok ch => exact ⟨service, rfl, ch, hchannel⟩
  have hcan : settings.CanEnter := ⟨⟨.info, Settings.level_of_info rfl rfl⟩, _, hservice⟩
  have henters (earlier : List SessionTurn) : new.Enters earlier (turn .enter) :=
    enters_iff.mpr ⟨rfl, hcan⟩
  have huse : new.IsInUse before (turn .enter) [turn (.search call)] := by
    refine ⟨[], rfl, henters [], fun u hu => ?_⟩
    rw [List.mem_singleton.mp hu]
    trivial
  have hlinks : new.Links ⟨[], none⟩ url := ⟨rfl, rfl, by decide +kernel, rfl⟩
  have hlinked : (new.enteredSearcher service ⟨[], none⟩).IsLinked :=
    isLinked_enteredSearcher hlinks service
  -- the search asks the service, as nothing is known yet
  have hopens : Opens (new.enteredSearcher service ⟨[], none⟩) (turn (.search call)) := by
    refine ⟨call, rfl, ?_, hchannel⟩
    rw [Searcher.lookUp_of_linked hlinked]
    rfl
  have hcloses : (turn .close).call.IsClosing := trivial
  -- the second enter comes after the search
  have hagain {p : List SessionTurn → Prop} (hp : p before) :
      new.EnteredWhen p (before ++ [turn .enter]) :=
    ⟨before, turn .enter, [], rfl, henters before, hp⟩
  constructor
  · show (new.afterTurns ((before ++ [turn .enter]) ++ [turn .close])).openConnections ≠ []
    rw [openConnections_of_isClosing rfl rfl hcloses]
    exact hagain ⟨service, _, _, hservice, huse, _, List.mem_singleton.mpr rfl, hopens⟩
  · show (new.afterTurns ((before ++ [turn .enter]) ++ [turn .close])).openLinks ≠ []
    rw [openLinks_of_isClosing rfl rfl hcloses]
    exact hagain ⟨_, _, url, huse, hlinks⟩

end Session

end IndexSearch
