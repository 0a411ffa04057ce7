import Holdout.Proofs.Hub.Delivery

/-!
# Paging against any server

A hub may answer as it likes: with pages longer than were asked for or empty ones, with a number of
rows that changes from page to page, or not at all. Whatever it does, paging delivers the rows of the
pages that it has received, in order, and stops for good at the first failure or at the end.

The proof keeps account of what was received: the rows delivered and those at hand are the rows of all
pages with which the server has answered. Once paging is over it stays where it is.
-/

namespace Holdout
namespace Hub

/-- The pages with which a server has answered requests, of which the last comes first; none if it
has failed to answer one of them. -/
def Server.answered? (server : Server) : List RowsRequest → Option (List Page)
  | [] => some []
  | request :: earlier => do
    let pages ← server.answered? earlier
    let page ← (server.rows earlier request).value.toOption
    return pages ++ [page]

theorem Server.answered?_cons_of_ok
    {server : Server}
    {earlier : List RowsRequest}
    {pages : List Page}
    (answered : server.answered? earlier = some pages)
    {request : RowsRequest}
    {page : Page}
    (answers : (server.rows earlier request).value = .ok page) :
    server.answered? (request :: earlier) = some (pages ++ [page]) := by
  rw [answered?, answered, answers]
  rfl

namespace Paging

/-- There is nothing at hand, and nothing more is to be fetched. -/
def IsOver (paging : Paging) : Prop := paging.page = [] ∧ paging.hasMore = false

/-- The paging after a page that answers its request. -/
def answeredBy (paging : Paging) (page : Page) : Paging :=
  { paging with asked := paging.request :: paging.asked }.receive page

theorem fetchPage_of_ok
    {server : Server}
    {paging : Paging}
    {page : Page}
    (answers : (server.rows paging.asked paging.request).value = .ok page) :
    (paging.fetchPage server).value = .ok (paging.answeredBy page) := by
  rw [fetchPage, Logged.value_bind, answers]
  rfl

theorem fetchPage_of_error
    {server : Server}
    {paging : Paging}
    {cause : Failure}
    (fails : (server.rows paging.asked paging.request).value = .error cause) :
    (paging.fetchPage server).value = .error cause := by
  rw [fetchPage, Logged.value_bind, fails]
  rfl

/-- All that a call for the next row can do: deliver a row at hand, tell the end, pass on the failure
of a request, or deliver what a page brings that answers the request. -/
theorem next_cases (server : Server) (paging : Paging) :
    (∃ row rest, paging.page = row :: rest ∧
      (next server paging).value = (some (.ok (.row row)), { paging with page := rest })) ∨
    (paging.IsOver ∧ (next server paging).value = (none, paging)) ∨
    (paging.page = [] ∧ paging.hasMore = true ∧ ∃ cause,
      (server.rows paging.asked paging.request).value = .error cause ∧
      (next server paging).value = (some (.error cause), { paging with done := true })) ∨
    (paging.page = [] ∧ paging.hasMore = true ∧ ∃ page,
      (server.rows paging.asked paging.request).value = .ok page ∧
      (next server paging).value = (paging.answeredBy page).deliver) := by
  rw [next]
  cases atHand : paging.page with
  | cons row rest =>
    left
    refine ⟨row, rest, rfl, ?_⟩
    rw [if_neg (by simp), Logged.value_pure, deliver, atHand]
  | nil =>
    right
    cases more : paging.hasMore with
    | false =>
      left
      refine ⟨⟨atHand, more⟩, ?_⟩
      rw [if_neg (by simp), Logged.value_pure, deliver, atHand]
    | true =>
      right
      rw [if_pos (by simp), Logged.value_bind]
      cases answer : (server.rows paging.asked paging.request).value with
      | error cause =>
        left
        refine ⟨rfl, rfl, cause, rfl, ?_⟩
        rw [fetchPage_of_error answer]
        rfl
      | ok page =>
        right
        refine ⟨rfl, rfl, page, rfl, ?_⟩
        rw [fetchPage_of_ok answer]
        rfl

/-- Paging that is over tells so and stays over. -/
theorem next_of_isOver {paging : Paging} (isOver : paging.IsOver) (server : Server) :
    (next server paging).value = (none, paging) := by
  obtain ⟨nothing, noMore⟩ := isOver
  rcases next_cases server paging with
    ⟨row, rest, atHand, -⟩ | ⟨-, same⟩ | ⟨-, more, -⟩ | ⟨-, more, -⟩
  · rw [nothing] at atHand
    cases atHand
  · exact same
  · rw [noMore] at more
    cases more
  · rw [noMore] at more
    cases more

theorem pullTimes_of_isOver {paging : Paging} (isOver : paging.IsOver) (server : Server)
    (count : Nat) :
    (pullTimes (next server) count paging).value = (List.replicate count none, paging) := by
  induction count with
  | zero => rfl
  | succ count inductionHypothesis =>
    rw [pullTimes_succ, next_of_isOver isOver, inductionHypothesis]
    rfl

/-- The rows delivered so far and those at hand are all rows of the pages received, of which this was
the first. -/
def Received (server : Server) (first : Page) (delivered : List Json) (paging : Paging) : Prop :=
  ∃ later, server.answered? paging.asked = some (first :: later) ∧
    delivered ++ paging.page = (first :: later).flatMap Page.rows

section Received

variable {server : Server} {first : Page} {delivered : List Json} {paging : Paging}

/-- A page that answers a request made with nothing at hand adds its rows to those received. -/
theorem Received.answeredBy
    (received : Received server first delivered paging)
    (nothing : paging.page = [])
    {page : Page}
    (answers : (server.rows paging.asked paging.request).value = .ok page) :
    Received server first delivered (paging.answeredBy page) := by
  obtain ⟨later, answered, rows⟩ := received
  refine ⟨later ++ [page], Server.answered?_cons_of_ok answered answers, ?_⟩
  rw [nothing, List.append_nil] at rows
  rw [← List.cons_append, List.flatMap_append, ← rows, List.flatMap_singleton]
  rfl

/-- The first row at hand is one of those received. -/
theorem Received.deliverRow
    (received : Received server first delivered paging)
    {row : Json}
    {rest : List Json}
    (atHand : paging.page = row :: rest) :
    Received server first (delivered ++ [row]) { paging with page := rest } := by
  obtain ⟨later, answered, rows⟩ := received
  refine ⟨later, answered, ?_⟩
  rw [atHand] at rows
  rw [List.append_assoc, List.singleton_append]
  exact rows

/-- A call for the next row delivers a row of those received, or paging is over after it. -/
theorem Received.next (received : Received server first delivered paging) :
    (∃ row, (next server paging).value.1 = some (.ok (.row row)) ∧
      Received server first (delivered ++ [row]) (next server paging).value.2) ∨
    (Received server first delivered (next server paging).value.2 ∧
      (next server paging).value.2.IsOver ∧
      ((next server paging).value.1 = none ∨
        ∃ cause, (next server paging).value.1 = some (.error cause))) := by
  rcases next_cases server paging with
    ⟨row, rest, atHand, same⟩ | ⟨isOver, same⟩ | ⟨nothing, more, cause, fails, same⟩ |
    ⟨nothing, more, page, answers, same⟩
  · rw [same]
    exact Or.inl ⟨row, rfl, received.deliverRow atHand⟩
  · rw [same]
    exact Or.inr ⟨received, isOver, Or.inl rfl⟩
  · rw [same]
    refine Or.inr ⟨received, ⟨nothing, ?_⟩, Or.inr ⟨cause, rfl⟩⟩
    simp [hasMore]
  · rw [same]
    have receivedPage := received.answeredBy nothing answers
    cases rows : page.rows with
    | nil =>
      right
      have empty : (paging.answeredBy page).page = [] := rows
      have isDone : (paging.answeredBy page).done = true := by
        simp [Paging.answeredBy, receive, rows]
      have told : (paging.answeredBy page).deliver = (none, paging.answeredBy page) := by
        rw [deliver, empty]
      rw [told]
      refine ⟨receivedPage, ⟨empty, ?_⟩, Or.inl rfl⟩
      simp [hasMore, isDone]
    | cons row rest =>
      left
      have atHand : (paging.answeredBy page).page = row :: rest := rows
      rw [deliver_eq, atHand]
      exact ⟨row, rfl, receivedPage.deliverRow atHand⟩

/-- Any number of calls deliver rows of those received, then at most one failure, and then nothing. -/
theorem Received.pullTimes (received : Received server first delivered paging) (count : Nat) :
    ∃ (rows : List Json) (causes : List Failure) (silent : Nat),
      (pullTimes (Paging.next server) count paging).value.1 =
        (rows.map fun row => some (.ok (.row row))) ++
          (causes.map fun cause => some (.error cause)) ++ List.replicate silent none ∧
      causes.length ≤ 1 ∧
      Received server first (delivered ++ rows)
        (pullTimes (Paging.next server) count paging).value.2 ∧
      (0 < causes.length + silent →
        (pullTimes (Paging.next server) count paging).value.2.IsOver) := by
  induction count generalizing delivered paging with
  | zero => exact ⟨[], [], 0, rfl, Nat.zero_le 1, by simpa using received, by simp⟩
  | succ count inductionHypothesis =>
    rw [pullTimes_succ]
    rcases received.next with ⟨row, told, kept⟩ | ⟨kept, isOver, told⟩
    · obtain ⟨rows, causes, silent, results, single, keptAll, ended⟩ := inductionHypothesis kept
      rw [List.append_assoc, List.singleton_append] at keptAll
      refine ⟨row :: rows, causes, silent, ?_, single, keptAll, ended⟩
      rw [told, results]
      rfl
    · rw [pullTimes_of_isOver isOver]
      rcases told with none | ⟨cause, failed⟩
      · refine ⟨[], [], count + 1, ?_, Nat.zero_le 1, by simpa using kept, fun _ => isOver⟩
        rw [none, List.replicate_succ]
        rfl
      · refine ⟨[], [cause], count, ?_, Nat.le_refl 1, by simpa using kept, fun _ => isOver⟩
        rw [failed]
        rfl

end Received

/-- A split whose first page was fetched has received that page. -/
theorem received_start
    {server : Server}
    {dataset config split : String}
    {pageSize : Nat}
    {first : Page}
    (answers : (server.rows [] ⟨dataset, config, split, 0, pageSize⟩).value = .ok first) :
    Received server first [] ((start dataset config split pageSize).answeredBy first) := by
  have none : server.answered? (start dataset config split pageSize).asked = some [] := rfl
  refine ⟨[], Server.answered?_cons_of_ok none answers, ?_⟩
  rw [List.nil_append, List.flatMap_singleton]
  rfl

section Opening

variable {connect : Endpoint → Server} {config : LoaderConfig} {dataset split hubConfig : String}
  {endpoint : Endpoint}

theorem openHosted_of_unchosen
    (addressed : Endpoint.read config.hubEndpoint = .ok endpoint)
    {cause : Failure}
    (unchosen :
      (chooseConfig (connect endpoint) config.hubConfig dataset split).value = .error cause) :
    (openHosted connect config dataset split).value = .error cause := by
  simp only [openHosted, addressed, openSplit, Logged.value_bind, unchosen]
  rfl

/-- Opening fetches the first page of the split in the configuration that is chosen. -/
theorem openHosted_of_chosen
    (addressed : Endpoint.read config.hubEndpoint = .ok endpoint)
    (chosen :
      (chooseConfig (connect endpoint) config.hubConfig dataset split).value = .ok hubConfig) :
    (openHosted connect config dataset split).value =
      ((start dataset hubConfig split config.pageSize).fetchPage (connect endpoint)).value.map
        fun paging => (connect endpoint, paging) := by
  simp only [openHosted, addressed, openSplit, Logged.value_bind, chosen]
  rfl

end Opening

/-- A hub may answer as it likes. If the configuration cannot be found or the first page cannot be
fetched, nothing is opened. Otherwise calls for the next row deliver the rows of the pages received so
far, in order of receipt: all of them, if the end or a failure has been told, and else all but those
that are still at hand. There is at most one failure, and nothing comes behind it or behind the end. -/
theorem openHosted_delivers_received_rows
    (connect : Endpoint → Server)
    (config : LoaderConfig)
    (dataset split : String)
    (endpoint : Endpoint)
    (addressed : Endpoint.read config.hubEndpoint = .ok endpoint) :
    (∀ cause,
      (chooseConfig (connect endpoint) config.hubConfig dataset split).value = .error cause →
      (openHosted connect config dataset split).value = .error cause) ∧
    (∀ hubConfig cause,
      (chooseConfig (connect endpoint) config.hubConfig dataset split).value = .ok hubConfig →
      ((connect endpoint).rows [] ⟨dataset, hubConfig, split, 0, config.pageSize⟩).value =
        .error cause →
      (openHosted connect config dataset split).value = .error cause) ∧
    (∀ hubConfig first,
      (chooseConfig (connect endpoint) config.hubConfig dataset split).value = .ok hubConfig →
      ((connect endpoint).rows [] ⟨dataset, hubConfig, split, 0, config.pageSize⟩).value =
        .ok first →
      ∃ paging,
        (openHosted connect config dataset split).value = .ok (connect endpoint, paging) ∧
        ∀ count, ∃ later left, ∃ rows atHand : List Json, ∃ causes : List Failure, ∃ silent,
          (Holdout.pullTimes (next (connect endpoint)) count paging).value =
            ((rows.map fun row => some (.ok (.row row))) ++
              (causes.map fun cause => some (.error cause)) ++ List.replicate silent none, left) ∧
          (connect endpoint).answered? left.asked = some (first :: later) ∧
          rows ++ atHand = (first :: later).flatMap Page.rows ∧
          causes.length ≤ 1 ∧
          (0 < causes.length + silent → atHand = [])) := by
  refine ⟨?_, ?_, ?_⟩
  · intro cause unchosen
    exact openHosted_of_unchosen addressed unchosen
  · intro hubConfig cause chosen fails
    rw [openHosted_of_chosen addressed chosen]
    have unfetched : ((start dataset hubConfig split config.pageSize).fetchPage
        (connect endpoint)).value = .error cause := fetchPage_of_error fails
    rw [unfetched]
    rfl
  · intro hubConfig first chosen answers
    have fetched : ((start dataset hubConfig split config.pageSize).fetchPage
        (connect endpoint)).value =
          .ok ((start dataset hubConfig split config.pageSize).answeredBy first) :=
      fetchPage_of_ok answers
    refine ⟨(start dataset hubConfig split config.pageSize).answeredBy first, ?_, ?_⟩
    · rw [openHosted_of_chosen addressed chosen, fetched]
      rfl
    · intro count
      obtain ⟨rows, causes, silent, results, single, ⟨later, answered, all⟩, isOver⟩ :=
        (received_start answers).pullTimes count
      refine ⟨later, _, rows, _, causes, silent, Prod.ext results rfl, answered, all, single, ?_⟩
      intro ended
      exact (isOver ended).1

/-- A server that hands out more than it was asked for, tells numbers of rows that are not true, and
then fails. -/
def moodyServer : Server where
  splits _ := pure (.ok [⟨"other", "train"⟩, ⟨"plain", "validation"⟩])
  rows asked _ :=
    match asked with
    | [] => pure (.ok ⟨[.integer 7, .string "b"], some 9⟩)
    | [_] => pure (.ok ⟨[.null], some 4⟩)
    | _ => pure (.error .breakdown)

/-- Its three rows are delivered, and its failure behind them. -/
theorem openHosted_delivers_rows_of_moody :
    ∃ paging,
      (openHosted (fun _ => moodyServer)
        ((LoaderConfig.standard.withHubEndpoint "http://[::1]:8000/api").withPageSize 1)
        "squad" "validation").value = .ok (moodyServer, paging) ∧
      (Holdout.pullTimes (next moodyServer) 6 paging).value.1 =
        [some (.ok (.row (.integer 7))), some (.ok (.row (.string "b"))), some (.ok (.row .null)),
          some (.error .breakdown), none, none] ∧
      ∃ later left, ∃ rows atHand : List Json,
        (Holdout.pullTimes (next moodyServer) 6 paging).value.2 = left ∧
        moodyServer.answered? left.asked = some (⟨[.integer 7, .string "b"], some 9⟩ :: later) ∧
        rows ++ atHand = [.integer 7, .string "b"] ++ later.flatMap Page.rows := by
  have parsed : Url.parse? "http://[::1]:8000/api" =
      some ⟨"http", some ⟨"", none, .ipv6 [0, 0, 0, 0, 0, 0, 0, 1], some 8000⟩,
        .segments ["api"], none, none⟩ := by
    decide +kernel
  have addressed : Endpoint.read ((LoaderConfig.standard.withHubEndpoint
      "http://[::1]:8000/api").withPageSize 1).hubEndpoint = .ok ⟨Url.library.closed _⟩ :=
    Endpoint.read_eq_ok parsed
  have chosen : (chooseConfig moodyServer none "squad" "validation").value = .ok "plain" := rfl
  have fetched : ((start "squad" "plain" "validation" 1).fetchPage moodyServer).value =
      .ok ((start "squad" "plain" "validation" 1).answeredBy
        ⟨[.integer 7, .string "b"], some 9⟩) := fetchPage_of_ok rfl
  obtain ⟨paging, opened, delivers⟩ := (openHosted_delivers_received_rows (fun _ => moodyServer)
    ((LoaderConfig.standard.withHubEndpoint "http://[::1]:8000/api").withPageSize 1)
    "squad" "validation" _ addressed).2.2 "plain" ⟨[.integer 7, .string "b"], some 9⟩ chosen rfl
  obtain ⟨later, left, rows, atHand, causes, silent, results, answered, all, -⟩ := delivers 6
  refine ⟨paging, opened, ?_, later, left, rows, atHand, congrArg Prod.snd results, answered, all⟩
  have begun := @openHosted_of_chosen (fun _ => moodyServer)
    ((LoaderConfig.standard.withHubEndpoint "http://[::1]:8000/api").withPageSize 1)
    "squad" "validation" "plain" _ addressed chosen
  have same : (start "squad" "plain" "validation" 1).answeredBy
      ⟨[.integer 7, .string "b"], some 9⟩ = paging := by
    change _ = (((start "squad" "plain" "validation" 1).fetchPage moodyServer).value.map
      fun paging => (moodyServer, paging)) at begun
    rw [opened, fetched] at begun
    exact (congrArg Prod.snd (Except.ok.inj begun)).symm
  rw [← same]
  rfl

end Paging
end Hub
end Holdout
