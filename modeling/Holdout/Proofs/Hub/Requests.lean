import Holdout.Proofs.Hub.Streaming

/-!
# The requests that paging makes

A hub is asked for no more than is needed, and no sooner. Opening asks for the splits of a dataset
unless a configuration is given, and then for the first rows. A call for the next row asks for
further ones only when all rows received so far have been delivered, once at most, and only if the
pages received so far may be followed by others. Each request begins where the pages before it
ended.

The requests are read off the journal of a server that writes them down. What has been received
determines the next request and whether it is made, so a stream is described by its pages and by
whether its last request has failed.
-/

namespace Holdout

/-- Settings that were made from the standard ones. -/
inductive LoaderConfig.Built : LoaderConfig → Prop
  | standard : Built .standard
  | withHubEndpoint {config : LoaderConfig} (endpoint : String) :
      Built config → Built (config.withHubEndpoint endpoint)
  | withHubConfig {config : LoaderConfig} (name : String) :
      Built config → Built (config.withHubConfig name)
  | withPageSize {config : LoaderConfig} (size : Nat) :
      Built config → Built (config.withPageSize size)
  | withTimeout {config : LoaderConfig} (timeout : Duration) :
      Built config → Built (config.withTimeout timeout)

/-- Pages have at least one row, and no more than a hub hands out at once. -/
theorem LoaderConfig.Built.pageSize_bounds {config : LoaderConfig} (built : config.Built) :
    1 ≤ config.pageSize ∧ config.pageSize ≤ 100 := by
  induction built with
  | standard => decide
  | withHubEndpoint _ _ inductionHypothesis => exact inductionHypothesis
  | withHubConfig _ _ inductionHypothesis => exact inductionHypothesis
  | withPageSize size _ _ =>
    simp only [LoaderConfig.withPageSize, LoaderConfig.maxPageSize]
    omega
  | withTimeout _ _ inductionHypothesis => exact inductionHypothesis

namespace Hub

/-- A request to a hub. -/
inductive Request
  | splits (dataset : String)
  | rows (request : RowsRequest)

/-- The server that answers likewise, and of which a journal shows the requests and nothing else. -/
def Server.recording (server : Server) (written : Request → List Event) : Server where
  splits dataset := ⟨(server.splits dataset).value, written (.splits dataset)⟩
  rows asked request := ⟨(server.rows asked request).value, written (.rows request)⟩

/-- What a journal shows of a request for which an address is fetched. -/
def fetches (endpoint : Endpoint) : Request → List Event
  | .splits dataset =>
    match endpoint.splitsUrl dataset with
    | .error _ => []
    | .ok url => [.fetched url.text]
  | .rows request =>
    match endpoint.rowsUrl request with
    | .error _ => []
    | .ok url =>
      [.paging request.offset (request.offset + request.length) request.dataset,
        .fetched url.text]

theorem events_answer_ofDocuments
    (documents : NameMap Body)
    (url : Url)
    (read : Json.Tree → Option α) :
    (Server.answer (.ofDocuments documents) url read).events = [.fetched url.text] := by
  have fetched : ((Fetcher.ofDocuments documents).fetch url.text).events = [.fetched url.text] := by
    simp only [Fetcher.ofDocuments, Logged.events_bind]
    split
    · rfl
    · rfl
  rw [Server.answer, Logged.events_bind, fetched]
  split
  · rfl
  · split
    · rfl
    · rfl

/-- The hub behind registered documents is one of those that show their requests. -/
theorem recording_ofDocuments (documents : NameMap Body) (endpoint : Endpoint) :
    (Server.ofFetcher (.ofDocuments documents) endpoint).recording (fetches endpoint) =
      Server.ofFetcher (.ofDocuments documents) endpoint := by
  rw [Server.recording, Server.ofFetcher, Server.mk.injEq]
  constructor
  · funext dataset
    simp only [fetches]
    cases endpoint.splitsUrl dataset with
    | error cause => rfl
    | ok url => exact congrArg (Logged.mk _) (events_answer_ofDocuments documents url _).symm
  · funext asked request
    simp only [fetches]
    cases endpoint.rowsUrl request with
    | error cause => rfl
    | ok url =>
      apply congrArg (Logged.mk _)
      simp [events_answer_ofDocuments, Logged.note]

/-- How many rows there are in all, as the pages have told it last. -/
def lastTotal? (pages : List Page) : Option Nat := (pages.filterMap Page.total).getLast?

/-- None of the pages is empty, and they have fewer rows than they have told last. -/
def GoesOn (pages : List Page) : Prop :=
  (∀ page ∈ pages, page.rows ≠ []) ∧
    ∀ total ∈ lastTotal? pages, (pages.flatMap Page.rows).length < total

theorem goesOn_nil : GoesOn [] := ⟨nofun, nofun⟩

/-- The request for the rows behind those of the pages. -/
def requestBehind (dataset config split : String) (length : Nat) (pages : List Page) :
    RowsRequest :=
  ⟨dataset, config, split, (pages.flatMap Page.rows).length, length⟩

/-- The first so many requests for rows, of which each is the one behind the pages that come
before it. -/
def requestsAlong (ask : List Page → RowsRequest) (pages : List Page) (count : Nat) :
    List RowsRequest :=
  (List.range count).map fun before => ask (pages.take before)

section Along

variable (ask : List Page → RowsRequest) (pages : List Page)

theorem requestsAlong_succ (count : Nat) :
    requestsAlong ask pages (count + 1) =
      requestsAlong ask pages count ++ [ask (pages.take count)] := by
  rw [requestsAlong, List.range_succ, List.map_append]
  rfl

/-- A further page is behind the requests made before. -/
theorem requestsAlong_concat (page : Page) {count : Nat} (within : count ≤ pages.length + 1) :
    requestsAlong ask (pages ++ [page]) count = requestsAlong ask pages count := by
  apply List.map_congr_left
  intro before among
  rw [List.mem_range] at among
  rw [List.take_append_of_le_length (by omega)]

theorem requestsAlong_length_succ :
    requestsAlong ask pages (pages.length + 1) =
      requestsAlong ask pages pages.length ++ [ask pages] := by
  rw [requestsAlong_succ, List.take_length]

end Along

theorem lastTotal?_concat (pages : List Page) (page : Page) :
    lastTotal? (pages ++ [page]) = page.total.or (lastTotal? pages) := by
  rw [lastTotal?, List.filterMap_append, List.getLast?_append, lastTotal?]
  cases told : page.total with
  | none => simp [told]
  | some total => simp [told]

/-- The requests for rows of a stream: pages have answered all of them, or all but the last. -/
structure Asked
    (server : Server)
    (ask : List Page → RowsRequest)
    (pages : List Page)
    (failed : Bool) : Prop where
  answered : server.answered? (requestsAlong ask pages pages.length).reverse = some pages
  failure : failed = true → ∃ cause,
    (server.rows (requestsAlong ask pages pages.length).reverse (ask pages)).value = .error cause
  /-- Each request was made behind pages that go on. -/
  goesOn : ∀ count < pages.length + failed.toNat, GoesOn (pages.take count)

/-- The requests that a stream has made. -/
def requestsMade (ask : List Page → RowsRequest) (pages : List Page) (failed : Bool) :
    List RowsRequest :=
  requestsAlong ask pages (pages.length + failed.toNat)

section Asked

variable {server : Server} {ask : List Page → RowsRequest} {pages : List Page}

/-- Before the first request. -/
theorem asked_nil (server : Server) (ask : List Page → RowsRequest) :
    Asked server ask [] false where
  answered := rfl
  failure := nofun
  goesOn count within := absurd within (Nat.not_lt_zero count)

/-- If the pages go on, so did all of their beginnings. -/
theorem Asked.goesOn_take
    (asked : Asked server ask pages false)
    (more : GoesOn pages)
    {count : Nat}
    (within : count < pages.length + 1) :
    GoesOn (pages.take count) := by
  by_cases all : count = pages.length
  · rw [all, List.take_length]
    exact more
  · apply asked.goesOn
    rw [Bool.toNat_false]
    omega

theorem Asked.fail
    (asked : Asked server ask pages false)
    (more : GoesOn pages)
    {cause : Failure}
    (fails : (server.rows (requestsAlong ask pages pages.length).reverse (ask pages)).value =
      .error cause) :
    Asked server ask pages true where
  answered := asked.answered
  failure _ := ⟨cause, fails⟩
  goesOn _ within := asked.goesOn_take more within

theorem Asked.answer
    (asked : Asked server ask pages false)
    (more : GoesOn pages)
    {page : Page}
    (answers : (server.rows (requestsAlong ask pages pages.length).reverse (ask pages)).value =
      .ok page) :
    Asked server ask (pages ++ [page]) false where
  answered := by
    rw [List.length_append, List.length_singleton, requestsAlong_concat _ _ _ (Nat.le_refl _),
      requestsAlong_length_succ, List.reverse_append, List.reverse_singleton,
      List.singleton_append]
    exact Server.answered?_cons_of_ok asked.answered answers
  failure := nofun
  goesOn count within := by
    rw [List.length_append, List.length_singleton, Bool.toNat_false, Nat.add_zero] at within
    rw [List.take_append_of_le_length (Nat.le_of_lt_succ within)]
    exact asked.goesOn_take more within

end Asked

namespace Paging

/-- The search for the next row: pages are fetched until one has a row, the hub fails or no further
page is to be fetched. -/
def seek (server : Server) (paging : Paging) : Option (Logged (Option ItemResult × Paging)) :=
  match paging.page with
  | row :: rest => some (pure (some (.ok (.row row)), { paging with page := rest }))
  | [] =>
    if paging.hasMore then
      let fetched := paging.fetchPage server
      match fetched.value with
      | .error cause => some ⟨(some (.error cause), { paging with done := true }), fetched.events⟩
      | .ok received => do
        let sought ← received |>.seek server
        return ⟨sought.value, fetched.events ++ sought.events⟩
    else some (pure (none, paging))
partial_fixpoint

section Next

variable {server : Server} {paging : Paging}

/-- Nothing is fetched while a row is at hand, or when no further page is to be fetched. -/
theorem next_of_still
    (still : ¬(paging.page.isEmpty ∧ paging.hasMore)) :
    next server paging = pure paging.deliver := by
  rw [next, if_neg still]

/-- A page is fetched when it is needed. -/
theorem next_of_fetching
    (fetching : paging.page.isEmpty ∧ paging.hasMore) :
    next server paging =
      ⟨match (paging.fetchPage server).value with
        | .error cause => (some (.error cause), { paging with done := true })
        | .ok received => received.deliver,
        (paging.fetchPage server).events⟩ := by
  rw [next, if_pos fetching]
  cases fetched : (paging.fetchPage server).value with
  | error cause => simp [bind, Logged.andThen, fetched]
  | ok received => simp [bind, Logged.andThen, fetched]

/-- A page that was fetched has a row, or it is the last. -/
theorem not_fetching_of_fetchPage
    {received : Paging}
    (fetched : (paging.fetchPage server).value = .ok received) :
    ¬(received.page.isEmpty ∧ received.hasMore) := by
  rintro ⟨empty, more⟩
  cases answer : (server.rows paging.asked paging.request).value with
  | error cause =>
    rw [fetchPage_of_error answer] at fetched
    cases fetched
  | ok page =>
    rw [fetchPage_of_ok answer, Except.ok.injEq] at fetched
    rw [← fetched] at empty more
    have noRows : page.rows.isEmpty = true := empty
    simp [hasMore, answeredBy, receive, noRows] at more

theorem seek_of_still
    (still : ¬(paging.page.isEmpty ∧ paging.hasMore)) :
    paging.seek server = some (pure paging.deliver) := by
  rw [seek, deliver]
  cases atHand : paging.page with
  | nil =>
    have noMore : paging.hasMore = false := by simpa [atHand] using still
    simp [noMore]
  | cons row rest => rfl

/-- The search ends, with at most one page fetched for it. -/
theorem seek_eq_next (server : Server) (paging : Paging) :
    paging.seek server = some (next server paging) := by
  by_cases fetching : paging.page.isEmpty ∧ paging.hasMore
  · rw [next_of_fetching fetching, seek, List.isEmpty_iff.mp fetching.1]
    simp only [fetching.2, if_true]
    cases fetched : (paging.fetchPage server).value with
    | error cause => rfl
    | ok received =>
      simp only [seek_of_still (not_fetching_of_fetchPage fetched)]
      simp
  · rw [next_of_still fetching, seek_of_still fetching]

end Next

section Recording

variable (server : Server) (written : Request → List Event) (paging : Paging)

theorem fetchPage_recording :
    paging.fetchPage (server.recording written) =
      ⟨(paging.fetchPage server).value, written (.rows paging.request)⟩ := by
  rw [fetchPage, fetchPage]
  cases answer : (server.rows paging.asked paging.request).value with
  | error cause => simp [bind, Logged.andThen, Server.recording, answer]
  | ok page => simp [bind, Logged.andThen, Server.recording, answer]

/-- Recording does not change what a call for the next row does. -/
theorem value_next_recording :
    (next (server.recording written) paging).value = (next server paging).value := by
  by_cases fetching : paging.page.isEmpty ∧ paging.hasMore
  · rw [next_of_fetching fetching, next_of_fetching fetching, fetchPage_recording]
  · rw [next_of_still fetching, next_of_still fetching]

theorem events_next_recording_of_fetching
    (fetching : paging.page.isEmpty ∧ paging.hasMore) :
    (next (server.recording written) paging).events = written (.rows paging.request) := by
  rw [next_of_fetching fetching, fetchPage_recording]

theorem events_next_recording_of_still
    (still : ¬(paging.page.isEmpty ∧ paging.hasMore)) :
    (next (server.recording written) paging).events = [] := by
  rw [next_of_still still]
  rfl

end Recording

/-- The rows among what calls have brought. -/
def rowsOf (results : List (Option ItemResult)) : List Json :=
  results.filterMap fun
    | some (.ok (.row row)) => some row
    | _ => none

@[simp] theorem rowsOf_concat_row (results : List (Option ItemResult)) (row : Json) :
    rowsOf (results ++ [some (.ok (.row row))]) = rowsOf results ++ [row] :=
  List.filterMap_append

@[simp] theorem rowsOf_concat_none (results : List (Option ItemResult)) :
    rowsOf (results ++ [none]) = rowsOf results := by
  rw [rowsOf, List.filterMap_append]
  exact List.append_nil _

@[simp] theorem rowsOf_concat_error (results : List (Option ItemResult)) (cause : Failure) :
    rowsOf (results ++ [some (.error cause)]) = rowsOf results := by
  rw [rowsOf, List.filterMap_append]
  exact List.append_nil _

/-- Paging as it stands when these pages were received and these rows delivered. -/
structure Follows
    (server : Server)
    (ask : List Page → RowsRequest)
    (pages : List Page)
    (failed : Bool)
    (delivered : List Json)
    (paging : Paging) : Prop extends Asked server ask pages failed where
  asked_eq : paging.asked = (requestsAlong ask pages pages.length).reverse
  request_eq : paging.request = ask pages
  offset_eq : paging.offset = (pages.flatMap Page.rows).length
  total_eq : paging.total = lastTotal? pages
  done_iff : paging.done = true ↔ failed = true ∨ ∃ page ∈ pages, page.rows = []
  /-- The rows at hand are those that have not been delivered. -/
  rows_eq : delivered ++ paging.page = pages.flatMap Page.rows

section Follows

variable {server : Server} {ask : List Page → RowsRequest} {pages : List Page} {failed : Bool}
  {delivered : List Json} {paging : Paging}

/-- A further page is to be fetched just if none has failed and the pages go on. -/
theorem Follows.hasMore_iff (follows : Follows server ask pages failed delivered paging) :
    paging.hasMore = true ↔ failed = false ∧ GoesOn pages := by
  rw [hasMore, follows.total_eq, follows.offset_eq, Bool.and_eq_true, Bool.not_eq_true',
    ← Bool.not_eq_true, follows.done_iff, GoesOn]
  cases lastTotal? pages with
  | none => simp
  | some total => simp [and_assoc]

/-- A page is fetched just if all rows have been delivered and there may be others. -/
theorem Follows.fetching_iff (follows : Follows server ask pages failed delivered paging) :
    (paging.page.isEmpty ∧ paging.hasMore) ↔
      delivered = pages.flatMap Page.rows ∧ failed = false ∧ GoesOn pages := by
  have all : paging.page.isEmpty = true ↔ delivered = pages.flatMap Page.rows := by
    rw [← follows.rows_eq, List.isEmpty_iff, List.self_eq_append_right]
  rw [all, follows.hasMore_iff]

/-- Delivering a row at hand receives nothing. -/
theorem Follows.deliverRow
    (follows : Follows server ask pages failed delivered paging)
    {row : Json}
    {rest : List Json}
    (atHand : paging.page = row :: rest) :
    Follows server ask pages failed (delivered ++ [row]) { paging with page := rest } where
  toAsked := follows.toAsked
  asked_eq := follows.asked_eq
  request_eq := follows.request_eq
  offset_eq := follows.offset_eq
  total_eq := follows.total_eq
  done_iff := follows.done_iff
  rows_eq := by
    rw [← follows.rows_eq, atHand, List.append_assoc]
    rfl

/-- Nothing is received when a request fails, and nothing will be. -/
theorem Follows.fail
    (follows : Follows server ask pages false delivered paging)
    (more : GoesOn pages)
    {cause : Failure}
    (fails : (server.rows paging.asked paging.request).value = .error cause) :
    Follows server ask pages true delivered { paging with done := true } where
  toAsked := by
    rw [follows.asked_eq, follows.request_eq] at fails
    exact follows.toAsked.fail more fails
  asked_eq := follows.asked_eq
  request_eq := follows.request_eq
  offset_eq := follows.offset_eq
  total_eq := follows.total_eq
  done_iff := by simp
  rows_eq := follows.rows_eq

end Follows

section Behind

variable {server : Server} {dataset hubConfig split : String} {length : Nat} {pages : List Page}
  {failed : Bool} {delivered : List Json} {paging : Paging}

/-- A page that answers its request is received behind the others. -/
theorem Follows.answer
    (follows : Follows server (requestBehind dataset hubConfig split length) pages false delivered
      paging)
    (more : GoesOn pages)
    (nothing : paging.page = [])
    {page : Page}
    (answers : (server.rows paging.asked paging.request).value = .ok page) :
    Follows server (requestBehind dataset hubConfig split length) (pages ++ [page]) false delivered
      (paging.answeredBy page) where
  toAsked := by
    rw [follows.asked_eq, follows.request_eq] at answers
    exact follows.toAsked.answer more answers
  asked_eq := by
    have asked : (paging.answeredBy page).asked = paging.request :: paging.asked := rfl
    rw [asked, follows.asked_eq, follows.request_eq, List.length_append, List.length_singleton,
      requestsAlong_concat _ _ _ (Nat.le_refl _), requestsAlong_length_succ, List.reverse_append]
    rfl
  request_eq := by
    have request : (paging.answeredBy page).request =
        { paging.request with offset := paging.request.offset + page.rows.length } := rfl
    rw [request, follows.request_eq, requestBehind, requestBehind, List.flatMap_append,
      List.length_append, List.flatMap_singleton]
  offset_eq := by
    rw [List.flatMap_append, List.length_append, ← follows.offset_eq, List.flatMap_singleton]
    rfl
  total_eq := by
    rw [lastTotal?_concat, ← follows.total_eq]
    rfl
  done_iff := by
    have isDone : (paging.answeredBy page).done = (paging.done || page.rows.isEmpty) := rfl
    rw [isDone, Bool.or_eq_true, follows.done_iff, List.isEmpty_iff]
    simp [or_and_right, exists_or]
  rows_eq := by
    have rows := follows.rows_eq
    rw [nothing, List.append_nil] at rows
    rw [List.flatMap_append, ← rows, List.flatMap_singleton]
    rfl

/-- Before the first request nothing has been received. -/
theorem follows_start (server : Server) (dataset hubConfig split : String) (length : Nat) :
    Follows server (requestBehind dataset hubConfig split length) [] false []
      (start dataset hubConfig split length) where
  toAsked := asked_nil server _
  asked_eq := rfl
  request_eq := rfl
  offset_eq := rfl
  total_eq := rfl
  done_iff := by simp [start]
  rows_eq := rfl

/-- A call for the next row makes the request behind the pages received so far if all rows have been
delivered and there may be others, and otherwise none. What it brings is accounted for. -/
theorem Follows.next
    {results : List (Option ItemResult)}
    (follows : Follows server (requestBehind dataset hubConfig split length) pages failed
      (rowsOf results) paging)
    (written : Request → List Event) :
    ∃ pagesAfter failedAfter,
      Follows server (requestBehind dataset hubConfig split length) pagesAfter failedAfter
        (rowsOf (results ++ [(next (server.recording written) paging).value.1]))
        (next (server.recording written) paging).value.2 ∧
      (requestsMade (requestBehind dataset hubConfig split length) pagesAfter failedAfter).flatMap
          (fun request => written (.rows request)) =
        (requestsMade (requestBehind dataset hubConfig split length) pages failed).flatMap
            (fun request => written (.rows request)) ++
          (next (server.recording written) paging).events := by
  rw [value_next_recording]
  by_cases fetching : paging.page.isEmpty ∧ paging.hasMore
  · rw [events_next_recording_of_fetching _ _ _ fetching, follows.request_eq]
    obtain ⟨-, sound, more⟩ := follows.fetching_iff.mp fetching
    have nothing : paging.page = [] := List.isEmpty_iff.mp fetching.1
    rw [sound] at follows ⊢
    rcases next_cases server paging with
      ⟨row, rest, atHand, -⟩ | ⟨isOver, -⟩ | ⟨-, -, cause, fails, same⟩ |
        ⟨-, -, page, answers, same⟩
    · rw [nothing] at atHand
      cases atHand
    · rw [isOver.2] at fetching
      cases fetching.2
    · rw [same]
      refine ⟨pages, true, ?_, ?_⟩
      · rw [rowsOf_concat_error]
        exact follows.fail more fails
      · rw [requestsMade, Bool.toNat_true, requestsAlong_length_succ, List.flatMap_append,
          List.flatMap_singleton]
        rfl
    · rw [same]
      have received := follows.answer more nothing answers
      refine ⟨pages ++ [page], false, ?_, ?_⟩
      · rw [deliver_eq]
        cases rows : page.rows with
        | nil =>
          have empty : (paging.answeredBy page).page = [] := rows
          rw [empty, List.head?_nil, Option.map_none, rowsOf_concat_none, List.tail_nil, ← empty]
          exact received
        | cons row rest =>
          have atHand : (paging.answeredBy page).page = row :: rest := rows
          rw [atHand, List.head?_cons, Option.map_some, rowsOf_concat_row, List.tail_cons]
          exact received.deliverRow atHand
      · rw [requestsMade, Bool.toNat_false, Nat.add_zero, List.length_append,
          List.length_singleton, requestsAlong_concat _ _ _ (Nat.le_refl _),
          requestsAlong_length_succ, List.flatMap_append,
          List.flatMap_singleton]
        rfl
  · rw [events_next_recording_of_still _ _ _ fetching, next_of_still fetching, Logged.value_pure,
      List.append_nil]
    refine ⟨pages, failed, ?_, rfl⟩
    rw [deliver_eq]
    cases atHand : paging.page with
    | nil =>
      rw [List.head?_nil, Option.map_none, rowsOf_concat_none, List.tail_nil, ← atHand]
      exact follows
    | cons row rest =>
      rw [List.head?_cons, Option.map_some, rowsOf_concat_row, List.tail_cons]
      exact follows.deliverRow atHand

/-- Any number of calls for the next row are accounted for. -/
theorem Follows.pullTimes
    (follows : Follows server (requestBehind dataset hubConfig split length) pages failed []
      paging)
    (written : Request → List Event)
    (count : Nat) :
    ∃ pagesAfter failedAfter,
      Follows server (requestBehind dataset hubConfig split length) pagesAfter failedAfter
        (rowsOf (pullTimes (Paging.next (server.recording written)) count paging).value.1)
        (pullTimes (Paging.next (server.recording written)) count paging).value.2 ∧
      (requestsMade (requestBehind dataset hubConfig split length) pagesAfter failedAfter).flatMap
          (fun request => written (.rows request)) =
        (requestsMade (requestBehind dataset hubConfig split length) pages failed).flatMap
            (fun request => written (.rows request)) ++
          (pullTimes (Paging.next (server.recording written)) count paging).events := by
  induction count with
  | zero => exact ⟨pages, failed, follows, (List.append_nil _).symm⟩
  | succ count inductionHypothesis =>
    obtain ⟨pagesBefore, failedBefore, followsBefore, before⟩ := inductionHypothesis
    obtain ⟨pagesAfter, failedAfter, followsAfter, after⟩ := followsBefore.next written
    rw [pullTimes_concat]
    refine ⟨pagesAfter, failedAfter, followsAfter, ?_⟩
    rw [after, before, List.append_assoc]

end Behind

/-- The request for splits that opening makes: one if no configuration is given. -/
def splitsRequests (config : Option String) (dataset : String) : List Request :=
  match config with
  | some _ => []
  | none => [.splits dataset]

/-- The configuration that is paged through: the given one, or else that of the first split of this
name among those that the hub lists. -/
def Chosen (server : Server) (config : Option String) (dataset split hubConfig : String) : Prop :=
  config = some hubConfig ∨
    config = none ∧ ∃ before entry after,
      (server.splits dataset).value = .ok (before ++ entry :: after) ∧
      (∀ other ∈ before, other.split ≠ split) ∧ entry.split = split ∧ entry.config = hubConfig

theorem findConfig_eq_ok_iff {dataset split hubConfig : String} {splits : List SplitEntry} :
    findConfig dataset split splits = .ok hubConfig ↔
      ∃ before entry after, splits = before ++ entry :: after ∧
        (∀ other ∈ before, other.split ≠ split) ∧ entry.split = split ∧
        entry.config = hubConfig := by
  rw [findConfig]
  constructor
  · intro found
    cases first : splits.find? fun entry => entry.split = split with
    | none =>
      rw [first] at found
      cases found
    | some entry =>
      rw [first, Except.ok.injEq] at found
      obtain ⟨isSplit, before, after, same, others⟩ := List.find?_eq_some_iff_append.mp first
      refine ⟨before, entry, after, same, ?_, of_decide_eq_true isSplit, found⟩
      intro other among
      simpa using others other among
  · rintro ⟨before, entry, after, same, others, isSplit, isConfig⟩
    have first : (splits.find? fun entry => entry.split = split) = some entry := by
      rw [List.find?_eq_some_iff_append]
      refine ⟨decide_eq_true isSplit, before, after, same, ?_⟩
      intro other among
      simpa using others other among
    rw [first, ← isConfig]

theorem chooseConfig_eq_ok_iff {server : Server} {config : Option String}
    {dataset split hubConfig : String} :
    (chooseConfig server config dataset split).value = .ok hubConfig ↔
      Chosen server config dataset split hubConfig := by
  cases config with
  | some given =>
    have chosen : (chooseConfig server (some given) dataset split).value = .ok given := rfl
    rw [chosen, Chosen]
    simp
  | none =>
    rw [chooseConfig, Logged.value_bind, Chosen]
    cases answer : (server.splits dataset).value with
    | error cause => simp
    | ok splits => simp [findConfig_eq_ok_iff]

theorem chooseConfig_recording
    (server : Server)
    (written : Request → List Event)
    (config : Option String)
    (dataset split : String) :
    chooseConfig (server.recording written) config dataset split =
      ⟨(chooseConfig server config dataset split).value,
        (splitsRequests config dataset).flatMap written⟩ := by
  cases config with
  | some given => rfl
  | none =>
    rw [chooseConfig, chooseConfig]
    cases answer : (server.splits dataset).value with
    | error cause => simp [bind, Logged.andThen, Server.recording, answer, splitsRequests]
    | ok splits => simp [bind, Logged.andThen, Server.recording, answer, splitsRequests]

/-- Open a hosted dataset at a hub of which the journal shows the requests and nothing else. -/
def openRecorded
    (connect : Endpoint → Server)
    (written : Endpoint → Request → List Event)
    (config : LoaderConfig)
    (dataset split : String) : Logged (Except Failure (Server × Paging)) :=
  openHosted (fun endpoint => (connect endpoint).recording (written endpoint)) config dataset split

/-- Registered documents are such a hub. -/
theorem openRecorded_ofDocuments
    (documents : NameMap Body)
    (config : LoaderConfig)
    (dataset split : String) :
    openRecorded (Server.ofFetcher (.ofDocuments documents)) fetches config dataset split =
      openHosted (Server.ofFetcher (.ofDocuments documents)) config dataset split := by
  rw [openRecorded, funext (recording_ofDocuments documents)]

section Opening

variable {connect : Endpoint → Server} {written : Endpoint → Request → List Event}
  {config : LoaderConfig} {dataset split hubConfig : String} {endpoint : Endpoint}

/-- Without a configuration to page through there is nothing to ask rows for. -/
theorem openRecorded_of_unchosen
    (addressed : Endpoint.read config.hubEndpoint = .ok endpoint)
    {cause : Failure}
    (unchosen :
      (chooseConfig (connect endpoint) config.hubConfig dataset split).value = .error cause) :
    openRecorded connect written config dataset split =
      ⟨.error cause,
        (splitsRequests config.hubConfig dataset).flatMap (written endpoint)⟩ := by
  simp [openRecorded, openHosted, addressed, openSplit, chooseConfig_recording, unchosen, bind,
    Logged.andThen, Except.map]

/-- Opening asks for the first rows in the configuration that is chosen. -/
theorem openRecorded_of_chosen
    (addressed : Endpoint.read config.hubEndpoint = .ok endpoint)
    (chosen :
      (chooseConfig (connect endpoint) config.hubConfig dataset split).value = .ok hubConfig) :
    openRecorded connect written config dataset split =
      ⟨((start dataset hubConfig split config.pageSize).fetchPage (connect endpoint)).value.map
        fun paging => ((connect endpoint).recording (written endpoint), paging),
        (splitsRequests config.hubConfig dataset ++
          [Request.rows ⟨dataset, hubConfig, split, 0, config.pageSize⟩]).flatMap
            (written endpoint)⟩ := by
  simp only [openRecorded, openHosted, addressed, openSplit, bind, Logged.andThen,
    chooseConfig_recording, chosen, fetchPage_recording]
  simp [pure, start, request]

/-- A stream that was opened has received the page that answers the first request. -/
theorem follows_of_opened
    (addressed : Endpoint.read config.hubEndpoint = .ok endpoint)
    (chosen :
      (chooseConfig (connect endpoint) config.hubConfig dataset split).value = .ok hubConfig)
    {server : Server}
    {paging : Paging}
    (opened : (openRecorded connect written config dataset split).value = .ok (server, paging)) :
    server = (connect endpoint).recording (written endpoint) ∧
      ∃ first, Follows (connect endpoint)
        (requestBehind dataset hubConfig split config.pageSize) [first] false [] paging := by
  rw [openRecorded_of_chosen addressed chosen] at opened
  have begun := follows_start (connect endpoint) dataset hubConfig split config.pageSize
  cases answer : ((connect endpoint).rows []
      ⟨dataset, hubConfig, split, 0, config.pageSize⟩).value with
  | error cause =>
    have unfetched : ((start dataset hubConfig split config.pageSize).fetchPage
        (connect endpoint)).value = .error cause := fetchPage_of_error answer
    rw [unfetched] at opened
    cases opened
  | ok first =>
    have fetched : ((start dataset hubConfig split config.pageSize).fetchPage
        (connect endpoint)).value =
          .ok ((start dataset hubConfig split config.pageSize).answeredBy first) :=
      fetchPage_of_ok answer
    rw [fetched, Except.map, Except.ok.injEq, Prod.mk.injEq] at opened
    rw [← opened.1, ← opened.2]
    exact ⟨rfl, first, begun.answer goesOn_nil rfl answer⟩

end Opening

/-- A hub is asked in order, for no more than is needed, and no sooner.

Opening asks for splits if no configuration is given, and then for the first rows in the
configuration that is chosen. After any calls for the next row the requests for rows are one for
each page received, and possibly one that has failed. All name the same rows to page through, each
begins where the pages before it ended, and each was made behind pages that go on. The next call
makes the request behind all pages if their rows have been delivered, none has failed and the pages
go on; otherwise it makes no request. So the search for the next row always ends. -/
theorem openRecorded_asks_when_needed
    (connect : Endpoint → Server)
    (written : Endpoint → Request → List Event)
    (config : LoaderConfig)
    (built : config.Built)
    (dataset split : String) :
    (1 ≤ config.pageSize ∧ config.pageSize ≤ 100) ∧
    (∀ cause, Endpoint.read config.hubEndpoint = .error cause →
      openRecorded connect written config dataset split = ⟨.error cause, []⟩) ∧
    (∀ endpoint, Endpoint.read config.hubEndpoint = .ok endpoint →
      ((∀ hubConfig, ¬Chosen (connect endpoint) config.hubConfig dataset split hubConfig) →
        ∃ cause, openRecorded connect written config dataset split =
          ⟨.error cause,
            (splitsRequests config.hubConfig dataset).flatMap (written endpoint)⟩) ∧
      (∀ hubConfig, Chosen (connect endpoint) config.hubConfig dataset split hubConfig →
        (openRecorded connect written config dataset split).events =
          (splitsRequests config.hubConfig dataset ++
            [Request.rows ⟨dataset, hubConfig, split, 0, config.pageSize⟩]).flatMap
              (written endpoint) ∧
        ∀ server paging,
          (openRecorded connect written config dataset split).value = .ok (server, paging) →
          ∀ count, ∃ results left events pages failed,
            pullTimes (next server) count paging = ⟨(results, left), events⟩ ∧
            Asked (connect endpoint) (requestBehind dataset hubConfig split config.pageSize) pages
              failed ∧
            (openRecorded connect written config dataset split).events ++ events =
              (splitsRequests config.hubConfig dataset ++
                (requestsMade (requestBehind dataset hubConfig split config.pageSize) pages
                  failed).map Request.rows).flatMap (written endpoint) ∧
            rowsOf results <+: pages.flatMap Page.rows ∧
            (rowsOf results = pages.flatMap Page.rows ∧ failed = false ∧ GoesOn pages →
              (next server left).events = written endpoint
                (.rows (requestBehind dataset hubConfig split config.pageSize pages))) ∧
            (¬(rowsOf results = pages.flatMap Page.rows ∧ failed = false ∧ GoesOn pages) →
              (next server left).events = []))) ∧
    ∀ server paging, seek server paging = some (next server paging) := by
  refine ⟨built.pageSize_bounds, ?_, ?_, seek_eq_next⟩
  · intro cause unreadable
    rw [openRecorded, openHosted, unreadable]
    rfl
  · intro endpoint addressed
    refine ⟨?_, ?_⟩
    · intro unchosen
      cases choice : (chooseConfig (connect endpoint) config.hubConfig dataset split).value with
      | error cause => exact ⟨cause, openRecorded_of_unchosen addressed choice⟩
      | ok hubConfig => exact absurd (chooseConfig_eq_ok_iff.mp choice) (unchosen hubConfig)
    · intro hubConfig isChosen
      have chosen := chooseConfig_eq_ok_iff.mpr isChosen
      rw [openRecorded_of_chosen addressed chosen]
      refine ⟨rfl, ?_⟩
      intro server paging opened count
      rw [← openRecorded_of_chosen addressed chosen] at opened
      obtain ⟨isServer, first, received⟩ := follows_of_opened addressed chosen opened
      obtain ⟨pages, failed, follows, requests⟩ := received.pullTimes (written endpoint) count
      have firstRequest : requestsMade (requestBehind dataset hubConfig split config.pageSize)
          [first] false = [⟨dataset, hubConfig, split, 0, config.pageSize⟩] := rfl
      rw [firstRequest, List.flatMap_singleton] at requests
      rw [isServer]
      refine ⟨_, _, _, pages, failed, rfl, follows.toAsked, ?_, ⟨_, follows.rows_eq⟩, ?_, ?_⟩
      · rw [List.flatMap_append, List.flatMap_append, List.flatMap_map, requests,
          List.flatMap_singleton, List.append_assoc]
      · intro needed
        rw [events_next_recording_of_fetching _ _ _ (follows.fetching_iff.mpr needed),
          follows.request_eq]
      · intro needless
        exact events_next_recording_of_still _ _ _ fun fetching =>
          needless (follows.fetching_iff.mp fetching)

/-- Pages of one row at a local address. -/
def rowByRow : LoaderConfig :=
  ((LoaderConfig.standard.withHubEndpoint "http://[::1]:8000/api").withHubConfig
    "plain").withPageSize 0

/-- Where the rows from an offset on are found, one at a time. -/
def rowLocation (offset : String) : String :=
  "http://[::1]:8000/api/rows?dataset=squad&config=plain&split=validation&offset=" ++ offset ++
    "&length=1"

/-- The documents of a page with one row and of an empty page. -/
def twoPages : NameMap Body :=
  (NameMap.empty.insert (rowLocation "0") (.ofBytes "\x7b\"rows\":[[7]]\x7d".toUTF8)).insert
    (rowLocation "1") (.ofBytes "\x7b\"rows\":[]\x7d".toUTF8)

/-- The first page is fetched by opening, and the second when its row has been delivered; four calls
fetch nothing else. -/
theorem openHosted_fetches_two_pages :
    rowByRow.Built ∧
      (openHosted (Server.ofFetcher (.ofDocuments twoPages)) rowByRow "squad" "validation").events =
        [.paging 0 1 "squad", .fetched (rowLocation "0")] ∧
      ∃ server paging results left events, ∃ pages : List Page,
        (openHosted (Server.ofFetcher (.ofDocuments twoPages)) rowByRow "squad"
          "validation").value = .ok (server, paging) ∧
        pullTimes (next server) 4 paging = ⟨(results, left), events⟩ ∧
        events = [.paging 1 2 "squad", .fetched (rowLocation "1")] ∧
        rowsOf results <+: pages.flatMap Page.rows := by
  have built : rowByRow.Built :=
    .withPageSize 0 (.withHubConfig "plain" (.withHubEndpoint "http://[::1]:8000/api" .standard))
  have parsed : Url.parse? "http://[::1]:8000/api" =
      some ⟨"http", some ⟨"", none, .ipv6 [0, 0, 0, 0, 0, 0, 0, 1], some 8000⟩,
        .segments ["api"], none, none⟩ := by
    decide +kernel
  obtain ⟨begins, goesOn⟩ := ((openRecorded_asks_when_needed
    (Server.ofFetcher (.ofDocuments twoPages)) fetches rowByRow built "squad" "validation").2.2.1
      _ (Endpoint.read_eq_ok parsed)).2 "plain" (Or.inl rfl)
  rw [openRecorded_ofDocuments] at begins goesOn
  have asked : (match (openHosted (Server.ofFetcher (.ofDocuments twoPages)) rowByRow "squad"
      "validation").value with
    | .error _ => false
    | .ok (server, paging) => (pullTimes (next server) 4 paging).events =
      [.paging 1 2 "squad", .fetched (rowLocation "1")]) = true := by
    decide +kernel
  refine ⟨built, ?_, ?_⟩
  · rw [begins]
    decide +kernel
  · cases opened : (openHosted (Server.ofFetcher (.ofDocuments twoPages)) rowByRow "squad"
        "validation").value with
    | error cause =>
      rw [opened] at asked
      cases asked
    | ok stream =>
      obtain ⟨server, paging⟩ := stream
      obtain ⟨results, left, events, pages, failed, calls, -, -, delivered, -⟩ :=
        goesOn server paging opened 4
      rw [opened] at asked
      refine ⟨server, paging, results, left, events, pages, rfl, calls, ?_, delivered⟩
      have events_eq := of_decide_eq_true asked
      rw [calls] at events_eq
      exact events_eq

end Paging
end Hub
end Holdout
