import IndexSearch.Proofs.ClientHistory
import IndexSearch.Proofs.DeclaredErrors
import IndexSearch.Proofs.UncachedSearches

namespace IndexSearch

/-!
# Sessions and their history

A session can be entered, used and closed in any order and any number of times, over a server that
may answer at one time and not at another. What it can be used for depends on the last time that it
was entered and on nothing before: it refuses all uses unless it has been entered since it was last
closed, and otherwise it is a searcher over the service of its settings, which has a link to the
server exactly if there is to be one and the server answered when the session was entered.

* `SessionCall`, `SessionTurn`, `Session.afterTurns` — what can be asked of a session;
* `Session.EnteredSinceClosed`, `Session.IsInUse` — what counts of its history;
* `Session.enteredSearcher`, `Session.searcher_of_isInUse` — what an entered session has;
* `Session.RefusesSearch`, `Session.RefusesInvalidation` — uses that touch nothing;
* `Session.usable_while_entered` — a session is usable exactly while it is entered.
-/

/-! ### Searchers and their connections -/

namespace Searcher

/-- What comes of looking for the body of an answer, apart from the connection. -/
def gathered (s : Searcher) (call : SearchCall) (server : Server) :
    Except SearchFailure Value × Server × List SentRequest :=
  let key := call.request.key call.index.plain
  let x := s.connection.service.exchange call.index call.request call.reply
  match s.lookUp server key with
  | .error e => (.error (.memory e), server, [])
  | .ok v =>
    if !v.isNull then (.ok v, server, [])
    else match x.outcome with
      | .error e => (.error (.exchange e), server, x.sent)
      | .ok j =>
        if j.toValue.isNull then (.ok .null, server, x.sent)
        else match s.keep server key j.toValue with
          | .error e => (.error (.memory e), server, x.sent)
          | .ok server' => (.ok j.toValue, server', x.sent)

/-- What a searcher fetches can be told without the steps: the connection, what is known and what is
    answered tell it. -/
theorem fetch_eq_gathered (s : Searcher) (call : SearchCall) (server : Server) :
    let o := s.fetch call.index call.request call.reply server
    (o.result, o.server, o.sent) = s.gathered call server := by
  have hcourse := fetch_course s call.index call.request call.reply server
  generalize s.fetch call.index call.request call.reply server = o at hcourse ⊢
  unfold gathered
  -- for each course, both sides are the same
  cases hcourse with
  | unread hlookUp => simp only [hlookUp]
  | known hlookUp hv => simp only [hlookUp, hv, Bool.not_false, if_true]
  | unanswered hlookUp hx =>
    simp only [hlookUp, hx]
    rfl
  | null hlookUp hx =>
    simp only [hlookUp, hx]
    rfl
  | unkept hlookUp hx hj hkeep | kept hlookUp hx hj hkeep =>
    simp only [hlookUp, hx, hkeep, Json.isNull_toValue_of_ne hj]
    rfl

/-- What is found does not depend on whether the connection is open. -/
theorem find_eq_of_isOpen (service : Service) (isOpen : Bool) (link : Option Link) (ttl : Value)
    (call : SearchCall) (server : Server) : (Searcher.mk ⟨service, isOpen⟩ link ttl).find call server
      = (Searcher.mk (.ofService service) link ttl).find call server := by
  have hgathered (isOpen : Bool) := fetch_eq_gathered ⟨⟨service, isOpen⟩, link, ttl⟩ call server
  have hsame := (hgathered isOpen).trans (hgathered false).symm
  obtain ⟨hresult, hrest⟩ := Prod.mk.inj hsame
  obtain ⟨hserver, hsent⟩ := Prod.mk.inj hrest
  simp only [find, search_eq, Connection.ofService, hresult, hserver, hsent]

/-- Whether a search asks the service and opens the connection for it, if it is not open: nothing is
    known under its key, and the service is in order. -/
def IsOpenedBy (s : Searcher) (call : SearchCall) (server : Server) : Prop :=
  s.lookUp server (call.request.key call.index.plain) = .ok .null
    ∧ ∃ ch, s.connection.service.channel = .ok ch

/-- A search stays with the service, and leaves the connection open if it was or is opened for it. -/
theorem connection_search (s : Searcher) (call : SearchCall) (server : Server) :
    let c := (s.search call.index call.request call.form call.reply server).connection
    c.service = s.connection.service
      ∧ (c.isOpen = true ↔ s.connection.isOpen = true ∨ s.IsOpenedBy call server) := by
  have hcourse := fetch_course s call.index call.request call.reply server
  rw [search_eq]
  unfold IsOpenedBy
  -- an asked connection is open where it was, or where its channel can be made
  have hasks : (s.connection.search call.index call.request call.reply).2.isOpen = true
      ↔ s.connection.isOpen = true ∨ ∃ ch, s.connection.service.channel = .ok ch := by
    rw [← Service.opened_exchange s.connection.service call.index call.request call.reply,
      ← Bool.or_eq_true]
    rfl
  generalize s.fetch call.index call.request call.reply server = o at hcourse ⊢
  -- the courses that ask are those where nothing was found
  cases hcourse with
  | unread hlookUp =>
    refine ⟨rfl, ?_⟩
    simp [hlookUp]
  | known hlookUp hv =>
    refine ⟨rfl, ?_⟩
    have hne (w : Value) (hw : w.isNull = false) : w ≠ .null := by
      rintro rfl
      cases hw
    simp [hlookUp, hne _ hv]
  | unanswered hlookUp _ | null hlookUp _ | unkept hlookUp _ _ _ | kept hlookUp _ _ _ =>
    refine ⟨rfl, ?_⟩
    rw [hlookUp, hasks]
    simp only [true_and]

end Searcher

/-! ### Calls -/

/-- What can be asked of a session. -/
inductive SessionCall where
  /-- To begin the work. -/
  | enter
  /-- To end the work. -/
  | exit
  /-- To close. -/
  | close
  /-- To search. -/
  | search (call : SearchCall)
  /-- To remove the kept answers of an index. -/
  | invalidate (index : Value)

namespace SessionCall

/-- Whether the session is closed by the call. -/
def IsClosing : SessionCall → Prop
  | exit | close => True
  | _ => False

/-- Whether the call is a use of the session. -/
def IsUse : SessionCall → Prop
  | search _ | invalidate _ => True
  | _ => False

/-- To use a session is not to close it. -/
theorem not_isClosing_of_isUse {call : SessionCall} (h : call.IsUse) : ¬ call.IsClosing := by
  cases call with
  | search _ | invalidate _ => exact id
  | _ => exact h.elim

end SessionCall

/-- A call, with the key-value server and the log level as they are then. -/
structure SessionTurn where
  /-- The call. -/
  call : SessionCall
  /-- The server. -/
  server : Server
  /-- The log level. -/
  level : LogLevel

/-- Whether a failure is a run-time error: the one of sessions that are not entered, or one that is
    called so and comes from the network or from the server. -/
def Failure.IsRuntimeError : Failure → Prop
  | notEntered => True
  | exchange (.interrupted kind _) => kind = "RuntimeError"
  | memory (.server e) => e.kind = "RuntimeError"
  | _ => False

namespace Session

/-- The session after a call. -/
def afterTurn (s : Session) (t : SessionTurn) : Session :=
  match t.call with
  | .enter => (s.enter t.server t.level).2.1
  | .exit | .close => s.close
  | .search c => (s.search c.index c.request c.form c.reply t.server).session
  | .invalidate _ => s

/-- The session after calls. -/
def afterTurns (s : Session) (turns : List SessionTurn) : Session := turns.foldl afterTurn s

/-- Whether a call enters the session, after some others. -/
def Enters (s : Session) (earlier : List SessionTurn) (t : SessionTurn) : Prop :=
  t.call = .enter ∧ ((s.afterTurns earlier).enter t.server t.level).1 = .ok ()

/-- Whether the session has been entered, and not been closed since. -/
def EnteredSinceClosed (s : Session) (turns : List SessionTurn) : Prop :=
  ∃ earlier t later, turns = earlier ++ t :: later ∧ s.Enters earlier t
    ∧ ∀ u ∈ later, ¬ u.call.IsClosing

/-- Whether the session was entered last by a call, and has only been used since. -/
def IsInUse (s : Session) (turns : List SessionTurn) (e : SessionTurn)
    (during : List SessionTurn) : Prop :=
  ∃ earlier, turns = earlier ++ e :: during ∧ s.Enters earlier e ∧ ∀ u ∈ during, u.call.IsUse

end Session

/-! ### Settings to enter with -/

namespace Settings

/-- Whether a session can be entered with the settings: they know a log level and name a service. -/
def CanEnter (settings : Settings) : Prop :=
  (∃ level, settings.level = .ok level) ∧ ∃ service, settings.service = .ok service

/-- Whether the settings have neither a name nor a URL for the service. -/
def IsUnnamed (settings : Settings) : Prop :=
  (optionalText settings.serviceName).truthy = false
    ∧ (optionalText settings.endpoint).truthy = false

/-- Settings have no log level if no level has the name that they give. -/
theorem unknown_of_level {settings : Settings} {e : Failure} (h : settings.level = .error e) :
    ∃ name, e = .level name ∧ LogLevel.ofName? name = none := by
  unfold level at h
  dsimp only at h
  split at h
  · cases h
  · rename_i hunknown
    cases h
    exact ⟨_, rfl, hunknown⟩

/-- Nothing but the lack of a name and a URL is wrong with the service that settings name. -/
theorem unnamed_of_service {settings : Settings} {e : ServiceConfigError}
    (h : settings.service = .error e) : e = .unnamed ∧ settings.IsUnnamed := by
  have hbase : Service.baseUrlOf (optionalText settings.serviceName)
      (optionalText settings.endpoint) = .error e := by
    rw [service, Service.ofParts] at h
    cases hurl : Service.baseUrlOf (optionalText settings.serviceName)
        (optionalText settings.endpoint) with
    | error d =>
      rw [hurl] at h
      cases h
      rfl
    | ok url =>
      rw [hurl] at h
      cases h
  unfold Service.baseUrlOf at hbase
  cases hendpoint : (optionalText settings.endpoint).truthy with
  | true =>
    -- a URL that is present is a text
    rw [hendpoint] at hbase
    unfold optionalText at hbase hendpoint
    cases hgiven : settings.endpoint with
    | none =>
      rw [hgiven] at hendpoint
      cases hendpoint
    | some url =>
      rw [hgiven] at hbase
      cases hbase
  | false =>
    rw [hendpoint] at hbase
    cases hname : (optionalText settings.serviceName).truthy with
    | true =>
      rw [hname] at hbase
      cases hbase
    | false =>
      rw [hname] at hbase
      cases hbase
      exact ⟨rfl, hname, hendpoint⟩

end Settings

namespace Session

variable {s : Session} {turns during : List SessionTurn} {t e : SessionTurn} {server : Server}
  {level : LogLevel}

/-- **What comes of entering a session**: there is no log level, or there is no service, or the
    session has a new searcher. -/
theorem enter_cases (s : Session) (server : Server) (level : LogLevel) :
    (∃ e, s.settings.level = .error e ∧ s.enter server level = (.error e, s, level))
      ∨ (∃ known e, s.settings.level = .ok known ∧ s.settings.service = .error e
        ∧ s.enter server level = (.error (.config e), s, known))
      ∨ ∃ known service, s.settings.level = .ok known ∧ s.settings.service = .ok service
        ∧ s.enter server level = (.ok (), ⟨s.settings, s.keepsAnswers,
          some ⟨.ofService service, s.openLink server, .int s.settings.cacheTtl⟩,
          s.searcher.toList ++ s.former⟩, known) := by
  cases hlevel : s.settings.level with
  | error e => exact .inl ⟨e, rfl, by rw [enter, hlevel]⟩
  | ok known =>
    cases hservice : s.settings.service with
    | error e => exact .inr (.inl ⟨known, e, rfl, rfl, by rw [enter, hlevel, hservice]⟩)
    | ok service => exact .inr (.inr ⟨known, service, rfl, rfl, enter_eq hlevel hservice _ _⟩)

/-- A session is entered exactly if its settings are in order. -/
theorem enter_eq_ok_iff : (s.enter server level).1 = .ok () ↔ s.settings.CanEnter := by
  rcases s.enter_cases server level with ⟨e, hlevel, henter⟩ | ⟨known, e, -, hservice, henter⟩
    | ⟨known, service, hlevel, hservice, henter⟩
  · rw [henter]
    refine iff_of_false (fun h => by cases h) ?_
    rintro ⟨⟨known, hknown⟩, -⟩
    cases hlevel.symm.trans hknown
  · rw [henter]
    refine iff_of_false (fun h => by cases h) ?_
    rintro ⟨-, service, hnamed⟩
    cases hservice.symm.trans hnamed
  · rw [henter]
    exact iff_of_true rfl ⟨⟨known, hlevel⟩, service, hservice⟩

/-- A session that cannot be entered stays as it was. -/
theorem enter_of_error {e : Failure} (h : (s.enter server level).1 = .error e) :
    (s.enter server level).2.1 = s
      ∧ ((∃ name, e = .level name ∧ LogLevel.ofName? name = none)
        ∨ (e = .config .unnamed ∧ s.settings.IsUnnamed)) := by
  -- entering fails at the level or at the service, and changes nothing before
  rcases s.enter_cases server level with ⟨d, hlevel, henter⟩ | ⟨known, d, -, hservice, henter⟩
    | ⟨known, service, -, -, henter⟩
  · rw [henter] at h ⊢
    cases h
    exact ⟨rfl, .inl (Settings.unknown_of_level hlevel)⟩
  · rw [henter] at h ⊢
    cases h
    obtain ⟨rfl, hunnamed⟩ := Settings.unnamed_of_service hservice
    exact ⟨rfl, .inr ⟨rfl, hunnamed⟩⟩
  · rw [henter] at h
    cases h

/-! ### Histories -/

/-- One more turn is taken by the session as the earlier ones left it. -/
theorem afterTurns_concat : s.afterTurns (turns ++ [t]) = (s.afterTurns turns).afterTurn t := by
  rw [afterTurns, List.foldl_append]
  rfl

/-- Whether sessions have the same settings, and keep answers or not. -/
def SameSource (s s' : Session) : Prop :=
  s.settings = s'.settings ∧ s.keepsAnswers = s'.keepsAnswers

/-- A turn changes nothing of what a session is made from. -/
theorem sameSource_afterTurn (s : Session) (t : SessionTurn) : (s.afterTurn t).SameSource s := by
  unfold afterTurn
  split
  · rcases s.enter_cases t.server t.level with ⟨e, -, henter⟩ | ⟨known, e, -, -, henter⟩
      | ⟨known, service, -, -, henter⟩ <;> rw [henter] <;> exact ⟨rfl, rfl⟩
  · exact ⟨rfl, rfl⟩
  · exact ⟨rfl, rfl⟩
  · unfold search
    split <;> exact ⟨rfl, rfl⟩
  · exact ⟨rfl, rfl⟩

/-- Turns change nothing of what a session is made from. -/
theorem sameSource_afterTurns (s : Session) (turns : List SessionTurn) :
    (s.afterTurns turns).SameSource s := by
  induction turns using List.reverseRecOn with
  | nil => exact ⟨rfl, rfl⟩
  | append_singleton turns t ih =>
    obtain ⟨hsettings, hkeeps⟩ := (s.afterTurns turns).sameSource_afterTurn t
    rw [afterTurns_concat]
    exact ⟨hsettings.trans ih.1, hkeeps.trans ih.2⟩

/-- A turn enters a session if it is an entry and the settings are in order. -/
theorem enters_iff : s.Enters turns t ↔ t.call = .enter ∧ s.settings.CanEnter := by
  rw [Enters, enter_eq_ok_iff, (s.sameSource_afterTurns turns).1]

/-- The last call decides whether a session has been entered, unless it is a use. -/
theorem enteredSinceClosed_concat : s.EnteredSinceClosed (turns ++ [t])
    ↔ s.Enters turns t ∨ (¬ t.call.IsClosing ∧ s.EnteredSinceClosed turns) :=
  exists_since_concat (p := s.Enters) (q := fun u => u.call.IsClosing) turns t

/-- At first a session has not been entered. -/
theorem not_enteredSinceClosed_nil : ¬ s.EnteredSinceClosed [] := by
  rintro ⟨earlier, t, later, hnil, -⟩
  cases earlier <;> cases hnil

/-- A session that has been entered can be. -/
theorem canEnter_of_enteredSinceClosed (h : s.EnteredSinceClosed turns) : s.settings.CanEnter := by
  obtain ⟨earlier, t, later, -, henters, -⟩ := h
  exact (enters_iff.mp henters).2

/-- A session in use that is used once more is in use. -/
theorem IsInUse.concat (h : s.IsInUse turns e during) (ht : t.call.IsUse) :
    s.IsInUse (turns ++ [t]) e (during ++ [t]) := by
  obtain ⟨earlier, rfl, henters, huses⟩ := h
  refine ⟨earlier, by simp, henters, fun u hu => ?_⟩
  rcases List.mem_append.mp hu with hu | hu
  · exact huses u hu
  · rw [List.mem_singleton.mp hu]
    exact ht

/-- A session that has been entered since it was closed was entered last by some call. -/
theorem exists_isInUse (h : s.EnteredSinceClosed turns) : ∃ e during, s.IsInUse turns e during := by
  have hcan := canEnter_of_enteredSinceClosed h
  -- induction on the turns, the last one first: it enters, leaves, or uses what was entered
  induction turns using List.reverseRecOn with
  | nil => exact absurd h not_enteredSinceClosed_nil
  | append_singleton turns t ih =>
    have hstays := enteredSinceClosed_concat.mp h
    cases hcall : t.call with
    | enter => exact ⟨t, [], turns, rfl, enters_iff.mpr ⟨hcall, hcan⟩, by simp⟩
    | exit | close =>
      rcases hstays with henters | ⟨hnot, -⟩
      · cases hcall.symm.trans henters.1
      · rw [hcall] at hnot
        exact absurd trivial hnot
    | search c | invalidate index =>
      rcases hstays with henters | ⟨-, hbefore⟩
      · cases hcall.symm.trans henters.1
      · obtain ⟨e, during, huse⟩ := ih hbefore
        exact ⟨e, during ++ [t], huse.concat (by rw [hcall]; trivial)⟩

/-- A session in use has been entered and not been closed since. -/
theorem enteredSinceClosed_of_isInUse (h : s.IsInUse turns e during) :
    s.EnteredSinceClosed turns := by
  obtain ⟨earlier, heq, henters, huses⟩ := h
  exact ⟨earlier, e, during, heq, henters,
    fun u hu => SessionCall.not_isClosing_of_isUse (huses u hu)⟩

/-- A session that has not been entered since it was closed has no searcher. -/
theorem searcher_of_not_entered (hnew : s.searcher = none)
    (h : ¬ s.EnteredSinceClosed turns) : (s.afterTurns turns).searcher = none := by
  induction turns using List.reverseRecOn with
  | nil => exact hnew
  | append_singleton turns t ih =>
    rw [enteredSinceClosed_concat, not_or, not_and] at h
    obtain ⟨hfails, hbefore⟩ := h
    rw [afterTurns_concat, afterTurn]
    cases hcall : t.call with
    | enter =>
      -- the session cannot be entered, so it has never been
      have hcannot : ¬ s.settings.CanEnter := fun hcan => hfails (enters_iff.mpr ⟨hcall, hcan⟩)
      have hnot : ¬ s.EnteredSinceClosed turns :=
        fun hentered => hcannot (canEnter_of_enteredSinceClosed hentered)
      cases hresult : ((s.afterTurns turns).enter t.server t.level).1 with
      | error e => rw [(enter_of_error hresult).1, ih hnot]
      | ok u =>
        rw [enter_eq_ok_iff, (s.sameSource_afterTurns turns).1] at hresult
        exact absurd hresult hcannot
    | exit | close => rfl
    | search c =>
      have hnone := ih (hbefore (by rw [hcall]; exact id))
      show ((s.afterTurns turns).search _ _ _ _ _).session.searcher = none
      rw [search, hnone]
      exact hnone
    | invalidate index => exact ih (hbefore (by rw [hcall]; exact id))

/-! ### What an entered session has -/

/-- What searches in a session that is entered over a server. -/
def enteredSearcher (s : Session) (service : Service) (server : Server) : Searcher :=
  ⟨.ofService service, s.openLink server, .int s.settings.cacheTtl⟩

/-- Whether a session searches with a searcher, whose connection may have been opened since. -/
def Serves (s : Session) (x : Searcher) : Prop :=
  ∃ isOpen, s.searcher = some ⟨⟨x.connection.service, isOpen⟩, x.link, x.ttl⟩

/-- Whether a session does what a searcher does. -/
def ActsAs (s : Session) (x : Searcher) : Prop :=
  (∀ call server, s.find call server = x.find call server)
    ∧ ∀ index server, s.invalidate index server =
      ((x.invalidate index server).1.mapError .memory, (x.invalidate index server).2)

/-- Whether a session that is entered over a server keeps answers there: it is to keep answers, its
    settings have a URL of a server, and the server at this URL answers. -/
def Links (s : Session) (server : Server) (url : String) : Prop :=
  s.keepsAnswers = true ∧ s.settings.storeUrl = some url
    ∧ StoreAddress.check (.text url) = .ok () ∧ server.ping = .ok ()

/-- A link is opened if the settings have an address and the server answers there. -/
theorem openLink_of_links {url : String} (h : s.Links server url) :
    s.openLink server = some ⟨.text url, true⟩ := by
  obtain ⟨hkeeps, hurl, haddress, hping⟩ := h
  simp only [openLink, hkeeps, hurl, Link.connect, Link.ofUrl, haddress, hping]

/-- No link is opened otherwise. -/
theorem openLink_of_not_links (h : ∀ url, ¬ s.Links server url) : s.openLink server = none := by
  unfold openLink
  split
  · rename_i url hkeeps hurl
    split
    · rename_i l hconnect
      -- a link is connected only where the server answers
      unfold Link.connect at hconnect
      split at hconnect
      · cases hconnect
      · rename_i haddress
        split at hconnect
        · cases hconnect
        · rename_i hping
          exact absurd ⟨hkeeps, hurl, haddress, hping⟩ (h url)
    · rfl
  · rfl

/-- Sessions made from the same enter with the same searcher. -/
theorem enteredSearcher_of_sameSource {s' : Session} (h : s.SameSource s') (service : Service)
    (server : Server) : s.enteredSearcher service server = s'.enteredSearcher service server := by
  simp only [enteredSearcher, openLink, h.1, h.2]

/-- Whether a searcher's connection is opened in a turn. -/
def Opens (x : Searcher) (t : SessionTurn) : Prop :=
  ∃ call, t.call = .search call ∧ x.IsOpenedBy call t.server

/-- A use leaves a session with its searcher, whose connection may be opened. -/
theorem searcher_afterTurn {service : Service} {isOpen : Bool} {link : Option Link} {ttl : Value}
    (h : s.searcher = some ⟨⟨service, isOpen⟩, link, ttl⟩) (ht : t.call.IsUse) :
    ∃ isOpen', (s.afterTurn t).searcher = some ⟨⟨service, isOpen'⟩, link, ttl⟩
      ∧ (isOpen' = true ↔ isOpen = true ∨ Opens ⟨.ofService service, link, ttl⟩ t) := by
  unfold afterTurn Opens
  cases hcall : t.call with
  | search c =>
    obtain ⟨hservice, hopen⟩ := Searcher.connection_search ⟨⟨service, isOpen⟩, link, ttl⟩ c t.server
    simp only [search, h, SessionCall.search.injEq, exists_eq_left']
    exact ⟨_, congrArg (fun service => some (Searcher.mk ⟨service, _⟩ link ttl)) hservice, hopen⟩
  | invalidate index => exact ⟨isOpen, h, by simp⟩
  | _ =>
    rw [hcall] at ht
    exact ht.elim

/-- **A session that is in use searches with what it had when it was entered last.** The connection
    is open if one of the uses since then has opened it. -/
theorem searcher_of_isInUse (h : s.IsInUse turns e during) {service : Service}
    (hservice : s.settings.service = .ok service) :
    let x := s.enteredSearcher service e.server
    ∃ isOpen, (s.afterTurns turns).searcher = some ⟨⟨service, isOpen⟩, x.link, x.ttl⟩
      ∧ (isOpen = true ↔ ∃ u ∈ during, Opens x u) := by
  obtain ⟨earlier, rfl, henters, huses⟩ := h
  intro x
  -- induction on the turns since the entering one: each of them keeps the searcher and can only
  -- open its connection
  induction during using List.reverseRecOn with
  | nil =>
    obtain ⟨hcall, ⟨level, hlevel⟩, -⟩ := enters_iff.mp henters
    have hsource := s.sameSource_afterTurns earlier
    have hx : (s.afterTurns earlier).enteredSearcher service e.server = x :=
      enteredSearcher_of_sameSource hsource service e.server
    rw [← hsource.1] at hlevel hservice
    refine ⟨false, ?_, by simp⟩
    rw [afterTurns_concat, afterTurn, hcall, ← hx]
    show ((s.afterTurns earlier).enter e.server e.level).2.1.searcher = _
    rw [enter_eq hlevel hservice]
    rfl
  | append_singleton during t ih =>
    obtain ⟨isOpen, hsearcher, hopen⟩ := ih fun u hu => huses u (List.mem_append_left _ hu)
    obtain ⟨isOpen', hsearcher', hopen'⟩ := searcher_afterTurn hsearcher
      (huses t (List.mem_append_right _ List.mem_cons_self))
    rw [← List.cons_append, ← List.append_assoc, afterTurns_concat]
    refine ⟨isOpen', hsearcher', ?_⟩
    rw [hopen', hopen]
    simp only [List.mem_append, List.mem_singleton, or_and_right, exists_or, exists_eq_left]
    rfl

/-- A session in use serves as the searcher it was entered with. -/
theorem serves_of_isInUse (h : s.IsInUse turns e during) {service : Service}
    (hservice : s.settings.service = .ok service) :
    (s.afterTurns turns).Serves (s.enteredSearcher service e.server) := by
  obtain ⟨isOpen, hsearcher, -⟩ := searcher_of_isInUse h hservice
  exact ⟨isOpen, hsearcher⟩

/-- A session does what the searcher does that it searches with. -/
theorem Serves.actsAs {x : Searcher} (h : s.Serves x) : s.ActsAs x := by
  obtain ⟨isOpen, hsearcher⟩ := h
  obtain ⟨⟨service, isOpen'⟩, link, ttl⟩ := x
  constructor
  · intro call server
    rw [Searcher.find_eq_of_isOpen service isOpen',
      ← Searcher.find_eq_of_isOpen service isOpen link ttl call server, find, search, hsearcher]
    rfl
  · intro index server
    rw [invalidate, hsearcher]
    rfl

/-! ### Uses that are refused -/

/-- Whether a session refuses a search: there is a run-time error whatever the key-value server is
    like, which has no part in it and stays as it is, and no request is sent. -/
def RefusesSearch (s : Session) (call : SearchCall) : Prop :=
  ∃ e : Failure, e.IsRuntimeError ∧ ∀ server, s.find call server = ⟨.error e, server, []⟩

/-- Whether a session refuses to remove the answers of an index: there is a run-time error whatever
    the key-value server is like, which has no part in it and stays as it is. -/
def RefusesInvalidation (s : Session) (index : Value) : Prop :=
  ∃ e : Failure, e.IsRuntimeError ∧ ∀ server, s.invalidate index server = (.error e, server)

/-- A session without a searcher refuses all uses. -/
theorem refuses_of_searcher (h : s.searcher = none) :
    (∀ call, s.RefusesSearch call) ∧ ∀ index, s.RefusesInvalidation index := by
  refine ⟨fun call => ⟨.notEntered, trivial, fun server => ?_⟩,
    fun index => ⟨.notEntered, trivial, fun server => ?_⟩⟩
  · rw [find, search, h]
  · rw [invalidate, h]

/-- An error of the request is no run-time error. -/
theorem not_isRuntimeError_of_isOfRequest {e : SearchError} (h : e.IsOfRequest) :
    ¬ (Failure.exchange e).IsRuntimeError := by
  cases e with
  | interrupted _ _ => exact h.elim
  | _ => exact id

/-- A session that has a searcher refuses no search: with a link the server is asked first, and its
    error is the outcome if it has one; without a link the service is asked, and if no request can
    be sent to it, the error is one of the request. -/
theorem Serves.not_refusesSearch {x : Searcher} (h : s.Serves x) (call : SearchCall) :
    ¬ s.RefusesSearch call := by
  rintro ⟨e, herror, hfind⟩
  simp only [h.actsAs.1] at hfind
  -- a server that refuses to look up tells a linked searcher from one that is refused
  by_cases hlinked : x.IsLinked
  · let server : Server := ⟨[], some ⟨some .get, ⟨"ConnectionError", ""⟩⟩⟩
    have hlookUp : x.lookUp server (call.request.key call.index.plain)
        = .error (.server ⟨"ConnectionError", ""⟩) := Searcher.lookUp_of_linked hlinked _
    have hgathered := x.fetch_eq_gathered call server
    rw [Searcher.gathered, hlookUp] at hgathered
    have hresult := congrArg Finding.result (hfind server)
    rw [Searcher.find, Searcher.search_eq, (Prod.mk.inj hgathered).1] at hresult
    cases hresult
    exact absurd (show "ConnectionError" = "RuntimeError" from herror) (by decide)
  · -- without a link nothing is looked up, and the search fails only as the service does
    have hoff := hfind ⟨[], none⟩
    rw [Searcher.find_of_not_linked hlinked] at hoff
    obtain ⟨d, houtcome, hrequest⟩ := Service.outcome_of_not_sent (congrArg Finding.sent hoff)
    have hresult := congrArg Finding.result hoff
    rw [Service.find, houtcome] at hresult
    cases hresult
    exact not_isRuntimeError_of_isOfRequest hrequest herror

/-- A session that has a searcher does not refuse to remove answers: from an empty server that
    answers there are none to remove. -/
theorem Serves.not_refusesInvalidation {x : Searcher} (h : s.Serves x) (index : Value) :
    ¬ s.RefusesInvalidation index := by
  rintro ⟨e, -, hinvalidate⟩
  have hempty := congrArg Prod.fst (hinvalidate ⟨[], none⟩)
  rw [h.actsAs.2] at hempty
  have hnone : (x.invalidate index ⟨[], none⟩).1 = .ok 0 := by
    unfold Searcher.invalidate Searcher.invalidateBy Link.deleteMatchingBy
    split
    · rfl
    · split <;> rfl
  rw [hnone] at hempty
  cases hempty

/-- **A session is usable exactly while it is entered**, in whatever order it has been entered, used
    and closed, over a server that was different at each time. It refuses searches and the removal of
    answers exactly if it has not been entered since it was last closed. To enter it fails if the log
    level is not known or there is neither a name nor a URL for the service, and leaves it as it was.
    While it is entered it does what a searcher over the service of its settings does, which is
    linked to the server if answers are to be kept there and the server answered when the session
    was entered last, and which has no link otherwise. -/
theorem usable_while_entered (settings : Settings) (keepsAnswers : Bool)
    (turns : List SessionTurn) :
    let new := ofSettings settings keepsAnswers
    let now := new.afterTurns turns
    (∀ call, now.RefusesSearch call ↔ ¬ new.EnteredSinceClosed turns)
      ∧ (∀ index, now.RefusesInvalidation index ↔ ¬ new.EnteredSinceClosed turns)
      ∧ (∀ server level e, (now.enter server level).1 = .error e →
        (now.enter server level).2.1 = now ∧ ¬ new.EnteredSinceClosed turns
          ∧ ((∃ name, e = .level name ∧ LogLevel.ofName? name = none)
            ∨ (e = .config .unnamed ∧ settings.IsUnnamed)))
      ∧ (new.EnteredSinceClosed turns ↔ ∃ e during, new.IsInUse turns e during)
      ∧ ∀ e during, new.IsInUse turns e during → ∃ service, settings.service = .ok service
        ∧ (∀ url, new.Links e.server url →
          now.ActsAs ⟨.ofService service, some ⟨.text url, true⟩, .int settings.cacheTtl⟩)
        ∧ ((∀ url, ¬ new.Links e.server url) →
          now.ActsAs ⟨.ofService service, none, .int settings.cacheTtl⟩) := by
  intro new now
  -- while it is in use, the session acts as the searcher that was made when it was entered
  have hserves {e : SessionTurn} {during : List SessionTurn} (h : new.IsInUse turns e during) :
      ∃ service, settings.service = .ok service
        ∧ now.Serves (new.enteredSearcher service e.server) := by
    obtain ⟨-, service, hservice⟩ :=
      canEnter_of_enteredSinceClosed (enteredSinceClosed_of_isInUse h)
    exact ⟨service, hservice, serves_of_isInUse h hservice⟩
  have hrefuses (h : ¬ new.EnteredSinceClosed turns) := refuses_of_searcher
    (searcher_of_not_entered (s := new) rfl h)
  have hsource := new.sameSource_afterTurns turns
  refine ⟨fun call => ⟨fun hrefused hentered => ?_, fun hnot => (hrefuses hnot).1 call⟩,
    fun index => ⟨fun hrefused hentered => ?_, fun hnot => (hrefuses hnot).2 index⟩,
    fun server level e herror => ?_,
    ⟨exists_isInUse, fun ⟨e, during, h⟩ => enteredSinceClosed_of_isInUse h⟩,
    fun e during h => ?_⟩
  · obtain ⟨e, during, h⟩ := exists_isInUse hentered
    obtain ⟨service, -, hsession⟩ := hserves h
    exact hsession.not_refusesSearch call hrefused
  · obtain ⟨e, during, h⟩ := exists_isInUse hentered
    obtain ⟨service, -, hsession⟩ := hserves h
    exact hsession.not_refusesInvalidation index hrefused
  · obtain ⟨hsame, hreason⟩ := enter_of_error herror
    rw [hsource.1] at hreason
    refine ⟨hsame, fun hentered => ?_, hreason⟩
    -- a session that was entered once can be entered again
    have hcan := canEnter_of_enteredSinceClosed hentered
    rw [← hsource.1] at hcan
    cases herror.symm.trans (enter_eq_ok_iff.mpr hcan)
  · obtain ⟨service, hservice, hsession⟩ := hserves h
    refine ⟨service, hservice, fun url hlinks => ?_, fun hlinks => ?_⟩
    · have hacts := hsession.actsAs
      rw [enteredSearcher, openLink_of_links hlinks] at hacts
      exact hacts
    · have hacts := hsession.actsAs
      rw [enteredSearcher, openLink_of_not_links hlinks] at hacts
      exact hacts

/-- A session that was entered while the server did not answer keeps no answers, also once the server
    answers; entered again it does, and once it is left it refuses to search. -/
theorem usable_while_entered_again :
    let second : Number.Binary64 := .finite false Number.leastFull 1022 (by decide)
    let url := "redis://localhost:6379/0"
    let settings : Settings :=
      ⟨some "docs", none, none, "2020-06-30", second, some url, 300, false, "INFO"⟩
    let up : Server := ⟨[], none⟩
    let down : Server := ⟨[], some ⟨some .ping, ⟨"ConnectionError", "down"⟩⟩⟩
    let turn (call : SessionCall) (server : Server) : SessionTurn := ⟨call, server, .info⟩
    let new := ofSettings settings true
    let once := [turn .enter down, turn (.invalidate (.text "docs")) up]
    let again := once ++ [turn .enter up]
    ∃ service, settings.service = .ok service
      ∧ (new.afterTurns once).ActsAs ⟨.ofService service, none, .int 300⟩
      ∧ (new.afterTurns again).ActsAs ⟨.ofService service, some ⟨.text url, true⟩, .int 300⟩
      ∧ ∀ call, (new.afterTurns (again ++ [turn .exit up])).RefusesSearch call := by
  intro second url settings up down turn new once again
  obtain ⟨service, hservice⟩ : ∃ service, settings.service = .ok service := ⟨_, rfl⟩
  have hcan : settings.CanEnter := ⟨⟨.info, Settings.level_of_info rfl rfl⟩, _, hservice⟩
  have honce : new.IsInUse once (turn .enter down) [turn (.invalidate (.text "docs")) up] := by
    refine ⟨[], rfl, enters_iff.mpr ⟨rfl, hcan⟩, fun u hu => ?_⟩
    rw [List.mem_singleton.mp hu]
    trivial
  have hagain : new.IsInUse again (turn .enter up) [] :=
    ⟨once, rfl, enters_iff.mpr ⟨rfl, hcan⟩, by simp⟩
  have hleft : ¬ new.EnteredSinceClosed (again ++ [turn .exit up]) := by
    rw [enteredSinceClosed_concat]
    rintro (henters | ⟨hstays, -⟩)
    · cases henters.1
    · exact hstays trivial
  -- a server that does not answer the ping is not linked to
  have hsilent : ∀ url, ¬ new.Links down url := by
    rintro url ⟨-, -, -, hping⟩
    cases hping
  have hlinks : new.Links up url := ⟨rfl, rfl, by decide +kernel, rfl⟩
  obtain ⟨-, -, -, -, hacts⟩ := usable_while_entered settings true once
  obtain ⟨-, -, -, -, hactsAgain⟩ := usable_while_entered settings true again
  obtain ⟨hrefuses, -⟩ := usable_while_entered settings true (again ++ [turn .exit up])
  obtain ⟨service', hservice', -, hunlinked⟩ := hacts _ _ honce
  obtain ⟨service'', hservice'', hlinked, -⟩ := hactsAgain _ _ hagain
  obtain rfl : service = service' := Except.ok.inj (hservice.symm.trans hservice')
  obtain rfl : service = service'' := Except.ok.inj (hservice.symm.trans hservice'')
  exact ⟨service, hservice, hunlinked hsilent, hlinked url hlinks,
    fun call => (hrefuses call).mpr hleft⟩

end Session

end IndexSearch
