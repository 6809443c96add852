import IndexSearch.Proofs.SearchSteps
import IndexSearch.Session

namespace IndexSearch

/-!
# Searches without a memory

There are several ways to search a service without a memory: over a connection alone, with a
searcher that has no link or one that was never connected, and in a session that keeps no answers,
or could not connect to the server for them, or is made for the one search. They take the results
from the answer at different places and are given the service in different ways, but they all come
to the same: one exchange with the service, and the results in its answer.

* `Service.find` — the exchange with the service, and the results in its answer;
* `EntryPoint`, `EntryPoint.search` — the ways to search without a memory;
* `Session.Forgets` — what all sessions have in common that are entered without a memory;
* `EntryPoint.search_eq` — every way comes to the exchange with the service;
* `EntryPoint.searches_agree` — all ways agree, whatever the server is like.
-/

/-- What a search asks for, and what the network replies to it. -/
structure SearchCall where
  /-- The index. -/
  index : Value
  /-- The request. -/
  request : SearchRequest
  /-- The form of the documents. -/
  form : DocumentForm
  /-- The reply, if a request is sent. -/
  reply : Reply

/-- What comes of a search, apart from what it was made with. -/
structure Finding where
  /-- The results, or why there are none. -/
  result : Except Failure SearchResults
  /-- The key-value server afterwards. -/
  server : Server
  /-- The requests sent. -/
  sent : List SentRequest

/-! ### One exchange with the service -/

/-- What comes of an exchange with a service that leaves the key-value server alone. -/
def Service.find (s : Service) (call : SearchCall) (server : Server) : Finding :=
  let x := s.exchange call.index call.request call.reply
  ⟨(shaped call.form x.outcome).mapError .ofSearch, server, x.sent⟩

/-- A search over a connection takes the results from the answer. It does not matter that the answer
    is checked first and brought into its form afterwards. -/
theorem Connection.searchOnce_eq (c : Connection) (index : Value) (r : SearchRequest)
    (form : DocumentForm) (reply : Reply) :
    c.searchOnce index r form reply =
      (shaped form (c.service.exchange index r reply).outcome, c.service.exchange index r reply,
        (c.search index r reply).2) := by
  rcases hx : c.service.exchange index r reply with ⟨e | j, sent, opened⟩
  · simp only [searchOnce, envelope, search, hx]
    rfl
  · simp only [searchOnce, envelope, search, hx, shaped, SearchResults.ofValue]
    cases henvelope : Envelope.ofValue j.toValue <;>
      simp only [Except.mapError, bind, Except.bind, henvelope]

/-- What comes of a search over a connection. -/
def Connection.find (c : Connection) (call : SearchCall) (server : Server) : Finding :=
  let (result, x, _) := c.searchOnce call.index call.request call.form call.reply
  ⟨result.mapError .ofSearch, server, x.sent⟩

/-- A search over a connection comes to one exchange with its service. -/
theorem Connection.find_eq (c : Connection) (call : SearchCall) (server : Server) :
    c.find call server = c.service.find call server := by
  rw [find, searchOnce_eq]
  rfl

/-- Searches with the service that the settings name, if they name one. -/
def Settings.findWith (settings : Settings) (server : Server) (find : Service → Finding) :
    Finding :=
  match settings.service with
  | .error e => ⟨.error (.config e), server, []⟩
  | .ok s => find s

/-- What comes of an exchange with the service that the settings name. -/
def Settings.find (settings : Settings) (call : SearchCall) (server : Server) : Finding :=
  settings.findWith server fun s => s.find call server

/-- The key-value server has no part in it. -/
theorem Settings.find_over (settings : Settings) (call : SearchCall) (server server' : Server) :
    (settings.find call server).result = (settings.find call server').result
      ∧ (settings.find call server).sent = (settings.find call server').sent
      ∧ (settings.find call server).server = server := by
  unfold find findWith
  cases settings.service with
  | error e => exact ⟨rfl, rfl, rfl⟩
  | ok s => exact ⟨rfl, rfl, rfl⟩

/-- Whether the settings name a service that requests to an index can be sent to. -/
def Settings.Reaches (settings : Settings) (index : Value) : Prop :=
  ∃ s, settings.service = .ok s ∧ s.Reaches index.plain

/-- One request is sent if the service that the settings name can be reached, and none otherwise. -/
theorem Settings.sent_find (settings : Settings) (call : SearchCall) (server : Server) :
    (settings.Reaches call.index → ∃ q : SentRequest,
        (settings.find call server).sent = [q] ∧ q.body = call.request.sentText)
      ∧ (¬ settings.Reaches call.index → (settings.find call server).sent = []) := by
  unfold find findWith
  constructor
  · -- a service that can be reached is sent one request, with the body of the call
    rintro ⟨s, hs, hreaches⟩
    rw [hs]
    exact Service.exists_sent_of_reaches hreaches
  · intro hnot
    cases hs : settings.service with
    | error e => rfl
    | ok s =>
      apply Service.sent_of_not_reaches
      exact fun hreaches => hnot ⟨s, hs, hreaches⟩

/-! ### Searchers without a memory -/

namespace Searcher

/-- What comes of a search with a searcher. -/
def find (s : Searcher) (call : SearchCall) (server : Server) : Finding :=
  let o := s.search call.index call.request call.form call.reply server
  ⟨o.result.mapError .ofSearch, o.server, o.sent⟩

variable {s : Searcher}

/-- A searcher that is not linked to the server comes to one exchange with its service. -/
theorem find_of_not_linked (h : ¬ s.IsLinked) (call : SearchCall) (server : Server) :
    s.find call server = s.connection.service.find call server := by
  rw [find, search_of_not_linked h]
  rfl

/-- A link that was never connected is none. -/
theorem not_isLinked_of_ofUrl {url : Value} (hlink : s.link = some (.ofUrl url)) :
    ¬ s.IsLinked := by
  rintro ⟨l, hl, hconnected⟩
  cases hlink.symm.trans hl
  cases hconnected

end Searcher

/-! ### Sessions without a memory -/

namespace Session

/-- What comes of a search in a session. -/
def find (s : Session) (call : SearchCall) (server : Server) : Finding :=
  let o := s.search call.index call.request call.form call.reply server
  ⟨o.result, o.server, o.sent⟩

/-- The session after some searches, each over a server as it is then. -/
def after (s : Session) : List (SearchCall × Server) → Session
  | [] => s
  | (call, server) :: later =>
    (s.search call.index call.request call.form call.reply server).session.after later

/-- Enters a session over a server as it is then, searches in it, and searches once more. -/
def findAfter (s : Session) (entered : Server) (level : LogLevel)
    (earlier : List (SearchCall × Server)) (call : SearchCall) (server : Server) : Finding :=
  match s.enter entered level with
  | (.error e, _, _) => ⟨.error e, server, []⟩
  | (.ok (), s, _) => (s.after earlier).find call server

/-- Whether a session is entered and searches a service without a memory. -/
def Forgets (s : Session) (service : Service) : Prop :=
  ∃ x, s.searcher = some x ∧ x.connection.service = service ∧ ¬ x.IsLinked

variable {s : Session} {service : Service}

/-- A session that keeps no answers has no link to the server for them. -/
theorem openLink_of_not_keeps (h : s.keepsAnswers = false) (server : Server) :
    s.openLink server = none := by
  rw [openLink, h]

/-- There is no link to a server that does not answer. -/
theorem openLink_of_silent {server : Server} (h : server.failure? .ping ≠ none) :
    s.openLink server = none := by
  obtain ⟨e, he⟩ := Option.ne_none_iff_exists'.mp h
  unfold openLink
  split
  · rename_i url _ _
    -- the ping fails before anything is known of the link
    have hconnect : ∃ e l, (Link.ofUrl (.text url)).connect server = (.error e, l) := by
      unfold Link.connect Server.ping
      rw [he]
      split
      · exact ⟨_, _, rfl⟩
      · exact ⟨_, _, rfl⟩
    obtain ⟨e, l, hconnect⟩ := hconnect
    rw [hconnect]
  · rfl

/-- A session is entered with a new searcher, if the level is known and there is a service. -/
theorem enter_eq {level : LogLevel} (hlevel : s.settings.level = .ok level)
    (hservice : s.settings.service = .ok service) (server : Server) (before : LogLevel) :
    s.enter server before = (.ok (), ⟨s.settings, s.keepsAnswers,
      some ⟨.ofService service, s.openLink server, .int s.settings.cacheTtl⟩,
      s.searcher.toList ++ s.former⟩, level) := by
  rw [enter, hlevel, hservice]

/-- A session without a memory comes to one exchange with its service. -/
theorem Forgets.find_eq (h : s.Forgets service) (call : SearchCall) (server : Server) :
    s.find call server = service.find call server := by
  obtain ⟨x, hx, rfl, hlinked⟩ := h
  rw [← Searcher.find_of_not_linked hlinked, find, search, hx]
  rfl

/-- A search leaves a session without a memory. -/
theorem Forgets.search (h : s.Forgets service) (call : SearchCall) (server : Server) :
    (s.search call.index call.request call.form call.reply server).session.Forgets service := by
  obtain ⟨x, hx, hservice, hlinked⟩ := h
  rw [Session.search, hx]
  refine ⟨_, rfl, ?_, ?_⟩
  · -- a search may open the connection, which is still one to the service
    show (x.search call.index call.request call.form call.reply server).connection.service = _
    rw [Searcher.search_of_not_linked hlinked]
    exact hservice
  · rintro ⟨l, hlink, hconnected⟩
    exact hlinked ⟨l, hlink, hconnected⟩

/-- So do any number of searches. -/
theorem Forgets.after (h : s.Forgets service) (earlier : List (SearchCall × Server)) :
    (s.after earlier).Forgets service := by
  induction earlier generalizing s with
  | nil => exact h
  | cons e later ih => exact ih (h.search e.1 e.2)

/-- A session that is entered without a link comes to one exchange with the service that its
    settings name, whatever was searched for in it before. -/
theorem findAfter_eq {entered : Server} {level : LogLevel} (hlevel : s.settings.level = .ok level)
    (hlink : s.openLink entered = none) (before : LogLevel) (earlier : List (SearchCall × Server))
    (call : SearchCall) (server : Server) :
    s.findAfter entered before earlier call server = s.settings.find call server := by
  cases hservice : s.settings.service with
  | error e =>
    rw [findAfter, enter, hlevel, hservice, Settings.find, Settings.findWith, hservice]
  | ok service =>
    rw [findAfter, enter_eq hlevel hservice, Settings.find, Settings.findWith, hservice, hlink]
    apply Forgets.find_eq
    apply Forgets.after
    exact ⟨_, rfl, rfl, Searcher.not_isLinked_of_none rfl⟩

/-- A session is not entered if the level is not known. -/
theorem findAfter_of_level_error {e : Failure} (h : s.settings.level = .error e) (entered : Server)
    (before : LogLevel) (earlier : List (SearchCall × Server)) (call : SearchCall)
    (server : Server) :
    s.findAfter entered before earlier call server = ⟨.error e, server, []⟩ := by
  rw [findAfter, enter, h]

end Session

/-- What comes of a search in a session of its own. -/
def Settings.findOnce (settings : Settings) (call : SearchCall) (server : Server)
    (level : LogLevel) : Finding :=
  let o := (settings.searchOnce call.index call.request call.form call.reply server level).1
  ⟨o.result, o.server, o.sent⟩

/-- A search in a session of its own is one in a session that keeps no answers. -/
theorem Settings.findOnce_eq (settings : Settings) (call : SearchCall) (server : Server)
    (level : LogLevel) : settings.findOnce call server level =
      (Session.ofSettings settings false).findAfter server level [] call server := by
  unfold findOnce searchOnce Session.findAfter
  rcases (Session.ofSettings settings false).enter server level with ⟨_ | _, s, level⟩
  · rfl
  · rfl

namespace Session

variable {s : Session}

/-- A session that is entered for the first time has had no searcher before. -/
theorem former_enter (h : s.searcher = none) (server : Server) (level : LogLevel) :
    (s.enter server level).2.1.former = s.former := by
  unfold enter
  split
  · rfl
  · split
    · rfl
    · rw [h]
      rfl

/-- A search takes no other searcher. -/
theorem former_search (call : SearchCall) (server : Server) :
    (s.search call.index call.request call.form call.reply server).session.former = s.former := by
  unfold search
  split
  · rfl
  · rfl

/-- A session that has had no other searcher leaves nothing open when it is closed. -/
theorem openConnections_close (h : s.former = []) :
    s.close.openConnections = [] ∧ s.close.openLinks = [] := by
  rw [openConnections, openLinks, close, h]
  cases s.searcher with
  | none => exact ⟨rfl, rfl⟩
  | some x =>
    refine ⟨rfl, ?_⟩
    cases hlink : x.link with
    | none => simp [Searcher.close, Searcher.closeLink, hlink]
    | some l => simp [Searcher.close, Searcher.closeLink, hlink, Link.close]

end Session

/-- Nothing is left open of a session that was made for one search. -/
theorem Settings.openConnections_searchOnce (settings : Settings) (call : SearchCall)
    (server : Server) (level : LogLevel) :
    let s :=
      (settings.searchOnce call.index call.request call.form call.reply server level).1.session
    s.openConnections = [] ∧ s.openLinks = [] := by
  have hformer := (Session.ofSettings settings false).former_enter rfl server level
  unfold searchOnce
  generalize (Session.ofSettings settings false).enter server level = entered at hformer ⊢
  rcases entered with ⟨_ | _, s, level⟩
  · exact Session.openConnections_close hformer
  · apply Session.openConnections_close
    rw [Session.former_search call]
    exact hformer

/-! ### All ways -/

/-- The log level of settings is known or not. -/
theorem Settings.level_cases (settings : Settings) :
    (∃ level, settings.level = .ok level) ∨ ∃ name, settings.level = .error (.level name) := by
  unfold level
  generalize (if settings.debug then "DEBUG" else Text.upper settings.logLevel) = name
  cases hname : LogLevel.ofName? name with
  | none => exact .inr ⟨name, by simp only [hname]⟩
  | some known => exact .inl ⟨known, by simp only [hname]⟩

/-- The log level that settings have if nothing is said about it. -/
theorem Settings.level_of_info {settings : Settings} (hdebug : settings.debug = false)
    (hname : settings.logLevel = "INFO") : settings.level = .ok .info := by
  have hinfo : LogLevel.ofName? (Text.upper "INFO") = some .info := by decide +kernel
  simp [level, hdebug, hname, hinfo]

/-- A way to search without a memory. -/
inductive EntryPoint where
  /-- Over a connection alone. -/
  | connection (isOpen : Bool)
  /-- With a searcher without a link. -/
  | searcher (isOpen : Bool) (ttl : Value)
  /-- With a searcher whose link was never connected. -/
  | unconnected (isOpen : Bool) (url ttl : Value)
  /-- In a session that keeps no answers, after some searches there. -/
  | session (entered : Server) (earlier : List (SearchCall × Server))
  /-- In a session that is to keep answers, but was entered while the server for them did not
      answer; after some searches there. -/
  | silent (entered : Server) (hsilent : entered.failure? .ping ≠ none)
    (earlier : List (SearchCall × Server))
  /-- In a session of its own. -/
  | once

namespace EntryPoint

/-- Searches the service that the settings name, while the given log level is set. -/
def search (p : EntryPoint) (settings : Settings) (level : LogLevel) (call : SearchCall)
    (server : Server) : Finding :=
  match p with
  | connection isOpen =>
    settings.findWith server fun s => (Connection.mk s isOpen).find call server
  | searcher isOpen ttl =>
    settings.findWith server fun s => (Searcher.mk ⟨s, isOpen⟩ none ttl).find call server
  | unconnected isOpen url ttl =>
    settings.findWith server fun s =>
      (Searcher.mk ⟨s, isOpen⟩ (some (.ofUrl url)) ttl).find call server
  | session entered earlier =>
    (Session.ofSettings settings false).findAfter entered level earlier call server
  | silent entered _ earlier =>
    (Session.ofSettings settings true).findAfter entered level earlier call server
  | once => settings.findOnce call server level

/-- Whether a way leads through a session. -/
def isSession : EntryPoint → Bool
  | connection _ => false
  | searcher _ _ => false
  | unconnected _ _ _ => false
  | session _ _ => true
  | silent _ _ _ => true
  | once => true

/-- Whether a way is open with some settings: a session is only entered with a known log level. -/
def IsPassable (p : EntryPoint) (settings : Settings) : Prop :=
  p.isSession = true → ∃ level, settings.level = .ok level

variable {p : EntryPoint} {settings : Settings}

/-- **Every way to search without a memory** that is open comes to one exchange with the service
    that the settings name. -/
theorem search_eq (h : p.IsPassable settings) (level : LogLevel) (call : SearchCall)
    (server : Server) : p.search settings level call server = settings.find call server := by
  -- each way to search comes down to what the settings find
  cases p with
  | connection isOpen =>
    apply congrArg (settings.findWith server)
    funext s
    exact Connection.find_eq _ call server
  | searcher isOpen ttl =>
    apply congrArg (settings.findWith server)
    funext s
    exact Searcher.find_of_not_linked (Searcher.not_isLinked_of_none rfl) call server
  | unconnected isOpen url ttl =>
    apply congrArg (settings.findWith server)
    funext s
    exact Searcher.find_of_not_linked (Searcher.not_isLinked_of_ofUrl rfl) call server
  | session entered earlier =>
    obtain ⟨known, hknown⟩ := h rfl
    apply Session.findAfter_eq hknown
    exact Session.openLink_of_not_keeps rfl entered
  | silent entered hsilent earlier =>
    obtain ⟨known, hknown⟩ := h rfl
    apply Session.findAfter_eq hknown
    exact Session.openLink_of_silent hsilent
  | once =>
    obtain ⟨known, hknown⟩ := h rfl
    show settings.findOnce call server level = _
    rw [Settings.findOnce_eq]
    apply Session.findAfter_eq hknown
    exact Session.openLink_of_not_keeps rfl server

/-- A way that is not open ends at the log level, before a request is sent. -/
theorem search_of_not_passable (h : ¬ p.IsPassable settings) :
    ∃ name, settings.level = .error (.level name) ∧ ∀ level call server,
      p.search settings level call server = ⟨.error (.level name), server, []⟩ := by
  obtain ⟨hsession, hunknown⟩ := Classical.not_imp.mp h
  obtain ⟨name, hname⟩ := settings.level_cases.resolve_left hunknown
  refine ⟨name, hname, fun level call server => ?_⟩
  -- only the ways that enter a session look at the level
  cases p with
  | connection isOpen => cases hsession
  | searcher isOpen ttl => cases hsession
  | unconnected isOpen url ttl => cases hsession
  | session entered earlier => exact Session.findAfter_of_level_error hname _ _ _ _ _
  | silent entered hsilent earlier => exact Session.findAfter_of_level_error hname _ _ _ _ _
  | once =>
    show settings.findOnce call server level = _
    rw [Settings.findOnce_eq]
    exact Session.findAfter_of_level_error hname _ _ _ _ _

/-- **All ways to search without a memory agree**, whatever the key-value server is like, whose
    commands may fail. They give the same results or the same error and send the same requests: one
    if the service that the settings name can be reached, and none otherwise. A session that is not
    entered since the log level is not known sends none either. All ways leave the server as it is,
    and nothing is left open of a session that was made for the search. -/
theorem searches_agree (settings : Settings) (call : SearchCall) :
    (∀ (p p' : EntryPoint) (level level' : LogLevel) (server server' : Server),
      p.IsPassable settings → p'.IsPassable settings →
        let f := p.search settings level call server
        let f' := p'.search settings level' call server'
        f.result = f'.result ∧ f.sent = f'.sent ∧ f.server = server)
      ∧ (∀ (p : EntryPoint) (level : LogLevel) (server : Server), p.IsPassable settings →
        let f := p.search settings level call server
        (settings.Reaches call.index → ∃ q, f.sent = [q] ∧ q.body = call.request.sentText)
          ∧ (¬ settings.Reaches call.index → f.sent = []))
      ∧ (∀ (p : EntryPoint) (level : LogLevel) (server : Server), ¬ p.IsPassable settings →
        ∃ name, settings.level = .error (.level name)
          ∧ p.search settings level call server = ⟨.error (.level name), server, []⟩)
      ∧ ∀ (level : LogLevel) (server : Server),
        let s :=
          (settings.searchOnce call.index call.request call.form call.reply server level).1.session
        s.openConnections = [] ∧ s.openLinks = [] := by
  refine ⟨fun p p' level level' server server' hp hp' => ?_, fun p level server hp => ?_,
    fun p level server hp => ?_,
    fun level server => settings.openConnections_searchOnce call server level⟩
  · rw [search_eq hp, search_eq hp']
    exact settings.find_over call server server'
  · rw [search_eq hp]
    exact settings.sent_find call server
  · obtain ⟨name, hname, hsearch⟩ := search_of_not_passable hp
    exact ⟨name, hname, hsearch level call server⟩

/-- A session that was entered while the server did not answer, and has searched since then, and a
    session that is made for the search: both send one request and come to the same, although no
    command of the server succeeds in the meantime. -/
theorem searches_agree_after_outage :
    let second : Number.Binary64 := .finite false Number.leastFull 1022 (by decide)
    let settings : Settings :=
      ⟨some "docs", none, none, "2020-06-30", second, none, 300, false, "INFO"⟩
    let down : Server := ⟨[], some ⟨none, ⟨"ConnectionError", "down"⟩⟩⟩
    let call : SearchCall := ⟨.text "docs", ⟨none, none, [], none, none, [], false⟩, .plain,
      .answered 200 "\x7b\"value\": []\x7d".toUTF8.toList⟩
    let silent : EntryPoint := .silent down (by decide) [(call, ⟨[], none⟩)]
    let f := silent.search settings .info call down
    let f' := EntryPoint.once.search settings .info call ⟨[], none⟩
    (silent.IsPassable settings ∧ EntryPoint.once.IsPassable settings)
      ∧ f.result = f'.result ∧ f.sent = f'.sent ∧ f.sent.length = 1 := by
  intro second settings down call silent f f'
  have hpassable (p : EntryPoint) : p.IsPassable settings :=
    fun _ => ⟨.info, Settings.level_of_info rfl rfl⟩
  obtain ⟨hagree, hsends, -, -⟩ := searches_agree settings call
  -- something is sent by one of the ways, so the index can be reached
  have hreaches : settings.Reaches call.index := by
    by_contra hnot
    have hnone := (hsends (.connection false) .info down (hpassable _)).2 hnot
    exact absurd (congrArg List.isEmpty hnone) (by decide +kernel)
  obtain ⟨hresult, hsent, -⟩ := hagree silent .once .info .info down ⟨[], none⟩ (hpassable _)
    (hpassable _)
  obtain ⟨q, hq, -⟩ := (hsends silent .info down (hpassable _)).1 hreaches
  exact ⟨⟨hpassable _, hpassable _⟩, hresult, hsent, congrArg List.length hq⟩

/-- An index without a URL: no way sends a request. And a log level that is not known: it ends a
    session before it sends a request, but a connection by itself does not look at it. -/
theorem no_single_request :
    let second : Number.Binary64 := .finite false Number.leastFull 1022 (by decide)
    let settings : Settings :=
      ⟨some "docs", none, none, "2020-06-30", second, none, 300, false, "INFO"⟩
    let r : SearchRequest := ⟨none, none, [], none, none, [], false⟩
    let reply : Reply := .answered 200 "\x7b\"value\": []\x7d".toUTF8.toList
    let f (settings : Settings) (p : EntryPoint) (index : String) :=
      p.search settings .info ⟨.text index, r, .plain, reply⟩ ⟨[], none⟩
    (∀ p : EntryPoint, (f settings p "a\nb").sent = [])
      ∧ (f { settings with logLevel := "LOUD" } .once "docs").sent = []
      ∧ (f { settings with logLevel := "LOUD" } (.connection false) "docs").sent ≠ [] := by
  have hloud : LogLevel.ofName? (Text.upper "LOUD") = none := by decide +kernel
  intro second settings r reply f
  have hlevel : settings.level = .ok .info := Settings.level_of_info rfl rfl
  have hunknown : { settings with logLevel := "LOUD" }.level
      = .error (.level (Text.upper "LOUD")) := by
    simp [Settings.level, settings, hloud]
  refine ⟨fun p => ?_, ?_, ?_⟩
  · -- a line break in the name leaves no address to be asked
    show (p.search settings _ _ _).sent = []
    rw [search_eq fun _ => ⟨.info, hlevel⟩]
    exact List.isEmpty_iff.mp (by decide +kernel)
  · show (Settings.findOnce _ _ _ _).sent = []
    have hentered : (Session.ofSettings { settings with logLevel := "LOUD" } false).settings.level
        = .error (.level (Text.upper "LOUD")) := hunknown
    rw [Settings.findOnce_eq, Session.findAfter_of_level_error hentered]
  · -- without a session the level is not looked at
    show ((EntryPoint.connection false).search _ _ _ _).sent ≠ []
    have hpassable :
        (EntryPoint.connection false).IsPassable { settings with logLevel := "LOUD" } := by
      intro h
      cases h
    rw [search_eq hpassable]
    exact List.isEmpty_eq_false_iff.mp (by decide +kernel)

end EntryPoint

end IndexSearch
