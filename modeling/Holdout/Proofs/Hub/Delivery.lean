import Holdout.Hub.Paging
import Holdout.Proofs.Pulling

/-!
# Paging delivers every row

A hub that holds the rows of a split answers each request with some of them: as few as it
likes but at least one while any are left, and with or without their number in all. Paging
through such a hub delivers all rows once and in order, and then nothing more.

The proof follows the rows that are still to come: those of the page at hand, and behind
them those from the offset on. Each call delivers the first of them and keeps the others.
-/

namespace Holdout
namespace Hub

/-- A page with which a hub that holds these rows may answer a request. -/
structure Page.Answers
    (page : Page)
    (rows : List Json)
    (request : RowsRequest) : Prop where
  /-- The page has the rows from the offset on, or the first of them. -/
  isPrefix : page.rows <+: rows.drop request.offset
  /-- The page has no more rows than were asked for. -/
  atMost : page.rows.length ≤ request.length
  /-- While rows are left, the page has one. -/
  nonempty : request.offset < rows.length → page.rows ≠ []
  /-- The number of rows in all is told truly, if it is told. -/
  total : page.total = none ∨ page.total = some rows.length

/-- A server that holds these rows of a split in a configuration of a dataset: whatever it was
asked before, it answers each request for at least one row. -/
def Server.Holds
    (server : Server)
    (dataset config split : String)
    (rows : List Json) : Prop :=
  ∀ (asked : List RowsRequest) (offset length : Nat), 1 ≤ length →
    ∃ page,
      (server.rows asked ⟨dataset, config, split, offset, length⟩).value = .ok page ∧
        page.Answers rows ⟨dataset, config, split, offset, length⟩

/-- An address that can be read is the base of a hub once its path ends in a slash. -/
theorem Endpoint.read_eq_ok
    {base : String}
    {url : Url}
    (parsed : Url.parse? base = some url) :
    Endpoint.read base = .ok ⟨Url.library.closed url⟩ := by
  have parses : Url.library.parse? base = some url := parsed
  rw [Endpoint.read, readBase, parses]
  rfl

namespace Paging

/-- The rows still to come, when a hub holds these rows. -/
def toCome (rows : List Json) (paging : Paging) : List Json :=
  paging.page ++ rows.drop paging.offset

/-- The results that hand out rows. -/
def handed (rows : List Json) : List ItemResult := rows.map fun row => .ok (.row row)

/-- Paging through a split that has these rows, as it stands before or after a call. -/
structure Tracks
    (dataset config split : String)
    (rows : List Json)
    (paging : Paging) : Prop where
  dataset_eq : paging.dataset = dataset
  config_eq : paging.config = config
  split_eq : paging.split = split
  pageSize_pos : 1 ≤ paging.pageSize
  /-- No more rows were received than there are. -/
  offset_le : paging.offset ≤ rows.length
  /-- The number of rows in all is the true one, if it was told. -/
  total : paging.total = none ∨ paging.total = some rows.length
  /-- Paging is done only when all rows were received. -/
  complete : paging.done = true → rows.length ≤ paging.offset

variable {dataset config split : String} {rows : List Json}

/-- Nothing has been fetched, so everything is still to come. -/
theorem tracks_start
    {pageSize : Nat}
    (sizePositive : 1 ≤ pageSize) :
    Tracks dataset config split rows (start dataset config split pageSize) where
  dataset_eq := rfl
  config_eq := rfl
  split_eq := rfl
  pageSize_pos := sizePositive
  offset_le := Nat.zero_le _
  total := Or.inl rfl
  complete := by simp [start]

@[simp] theorem toCome_start (pageSize : Nat) :
    (start dataset config split pageSize).toCome rows = rows := by
  simp [start, toCome]

namespace Tracks

/-- The request for the next page asks for rows of the split that is paged through. -/
theorem request_eq
    {paging : Paging}
    (tracks : Tracks dataset config split rows paging) :
    paging.request = ⟨dataset, config, split, paging.offset, paging.pageSize⟩ := by
  rw [request, tracks.dataset_eq, tracks.config_eq, tracks.split_eq]

/-- Once the hub need not be asked again, no rows are left there. -/
theorem offset_eq_of_hasMore_eq_false
    {paging : Paging}
    (tracks : Tracks dataset config split rows paging)
    (noMore : paging.hasMore = false) :
    paging.offset = rows.length := by
  apply Nat.le_antisymm tracks.offset_le
  cases finished : paging.done with
  | true => exact tracks.complete finished
  | false =>
    rcases tracks.total with untold | told
    · simp [hasMore, finished, untold] at noMore
    · simpa [hasMore, finished, told] using noMore

/-- Neither the page at hand nor the requests made are tracked. -/
theorem setPageAsked
    {paging : Paging}
    (tracks : Tracks dataset config split rows paging)
    (page : List Json)
    (asked : List RowsRequest) :
    Tracks dataset config split rows { paging with page := page, asked := asked } :=
  ⟨tracks.dataset_eq, tracks.config_eq, tracks.split_eq, tracks.pageSize_pos,
    tracks.offset_le, tracks.total, tracks.complete⟩

/-- A page that answers the request is followed by the rows behind it. -/
theorem drop_offset_eq_append
    {paging : Paging}
    (tracks : Tracks dataset config split rows paging)
    {page : Page}
    (answers : page.Answers rows paging.request) :
    rows.drop paging.offset =
      page.rows ++ rows.drop (paging.offset + page.rows.length) := by
  obtain ⟨behind, split⟩ := answers.isPrefix
  have offsets : paging.request.offset = paging.offset := by rw [tracks.request_eq]
  rw [offsets] at split
  rw [← List.drop_drop, ← split, List.drop_left]

/-- Taking in a page that answers the request keeps what is tracked. -/
theorem receive
    {paging : Paging}
    (tracks : Tracks dataset config split rows paging)
    {page : Page}
    (answers : page.Answers rows paging.request) :
    Tracks dataset config split rows (paging.receive page) where
  dataset_eq := tracks.dataset_eq
  config_eq := tracks.config_eq
  split_eq := tracks.split_eq
  pageSize_pos := tracks.pageSize_pos
  offset_le := by
    have lengths := congrArg List.length (tracks.drop_offset_eq_append answers)
    rw [List.length_append, List.length_drop, List.length_drop] at lengths
    have within := tracks.offset_le
    simp only [Paging.receive]
    omega
  total := by
    rcases answers.total with untold | told
    · simpa [Paging.receive, untold] using tracks.total
    · simp [Paging.receive, told]
  complete := by
    intro finished
    simp only [Paging.receive, Bool.or_eq_true, List.isEmpty_iff] at finished ⊢
    rcases finished with before | empty
    · exact Nat.le_add_right_of_le (tracks.complete before)
    · have offsets : paging.request.offset = paging.offset := by rw [tracks.request_eq]
      apply Nat.le_of_not_lt
      intro left
      apply answers.nonempty _ empty
      rw [offsets]
      omega

/-- Taking in a page does not change which rows are still to come, if none were at hand. -/
theorem toCome_receive
    {paging : Paging}
    (tracks : Tracks dataset config split rows paging)
    (nothing : paging.page = [])
    {page : Page}
    (answers : page.Answers rows paging.request) :
    (paging.receive page).toCome rows = paging.toCome rows := by
  rw [toCome, toCome, nothing, List.nil_append, tracks.drop_offset_eq_append answers]
  rfl

end Tracks

/-- From a server that holds the rows a page can be fetched. It keeps what is tracked and what is
still to come, and it is empty only when nothing is. -/
theorem exists_fetchPage
    {server : Server}
    (holds : server.Holds dataset config split rows)
    {paging : Paging}
    (tracks : Tracks dataset config split rows paging)
    (nothing : paging.page = []) :
    ∃ fetched, (paging.fetchPage server).value = .ok fetched ∧
      Tracks dataset config split rows fetched ∧
      fetched.toCome rows = paging.toCome rows ∧
      (fetched.page = [] → fetched.toCome rows = []) := by
  obtain ⟨page, answered, answers⟩ :=
    holds paging.asked paging.offset paging.pageSize tracks.pageSize_pos
  rw [← tracks.request_eq] at answered answers
  have received := tracks.receive answers
  refine ⟨{ paging with asked := paging.request :: paging.asked }.receive page,
    ?_, received.setPageAsked _ _, tracks.toCome_receive nothing answers, ?_⟩
  · rw [fetchPage, Logged.value_bind, answered]
    rfl
  · intro empty
    have finished : (paging.receive page).done = true := by
      simp only [receive] at empty ⊢
      simp [empty]
    rw [toCome, empty, List.nil_append]
    exact List.drop_eq_nil_of_le (received.complete finished)

/-- Delivery hands out the first row of the page at hand. -/
theorem deliver_eq (paging : Paging) :
    paging.deliver =
      (paging.page.head?.map fun row => .ok (.row row),
        { paging with page := paging.page.tail }) := by
  cases paging with
  | mk dataset config split pageSize offset total page done asked =>
    cases page with
    | nil => rfl
    | cons row behind => rfl

/-- When a page is at hand unless all rows have come, delivery hands out the first row to come. -/
theorem deliver_of_tracks
    {paging : Paging}
    (tracks : Tracks dataset config split rows paging)
    (exhausted : paging.page = [] → paging.toCome rows = []) :
    paging.deliver.1 = (handed (paging.toCome rows)).head? ∧
      handed (paging.deliver.2.toCome rows) = (handed (paging.toCome rows)).tail ∧
      Tracks dataset config split rows paging.deliver.2 := by
  rw [deliver_eq]
  refine ⟨?_, ?_, tracks.setPageAsked _ _⟩
  · cases present : paging.page with
    | nil => simp [handed, exhausted present]
    | cons row behind => simp [handed, toCome, present]
  · cases present : paging.page with
    | nil =>
      have gone := exhausted present
      simp only [toCome, present, List.nil_append] at gone
      simp [handed, toCome, present, gone]
    | cons row behind => simp [handed, toCome, present]

/-- With a server that holds the rows, calls for the next row hand out those that are still to
come. -/
theorem next_handsOut
    {server : Server}
    (holds : server.Holds dataset config split rows) :
    HandsOut (next server) (Tracks dataset config split rows)
      fun paging => handed (paging.toCome rows) := by
  intro paging tracks
  rw [next]
  by_cases fetching : paging.page.isEmpty ∧ paging.hasMore
  · have nothing : paging.page = [] := List.isEmpty_iff.mp fetching.1
    obtain ⟨fetched, isFetched, kept, same, exhausted⟩ := exists_fetchPage holds tracks nothing
    have delivered := deliver_of_tracks kept exhausted
    rw [same] at delivered
    rw [if_pos fetching, Logged.value_bind, isFetched]
    exact delivered
  · rw [if_neg fetching]
    apply deliver_of_tracks tracks
    intro empty
    have noMore : paging.hasMore = false := by simpa [empty] using fetching
    rw [toCome, empty, List.nil_append, tracks.offset_eq_of_hasMore_eq_false noMore,
      List.drop_length]

/-- Paging through a hub that holds the rows of a split succeeds to open, delivers each row once
and in order, and has nothing more to deliver on any later call. -/
theorem openHosted_delivers_rows
    (connect : Endpoint → Server)
    (config : LoaderConfig)
    (hubConfig dataset split : String)
    (rows : List Json)
    (endpoint : Endpoint)
    (addressed : Endpoint.read config.hubEndpoint = .ok endpoint)
    (configured : config.hubConfig = some hubConfig)
    (sizePositive : 1 ≤ config.pageSize)
    (holds : (connect endpoint).Holds dataset hubConfig split rows) :
    ∃ paging,
      (openHosted connect config dataset split).value = .ok (connect endpoint, paging) ∧
        ∀ count, (pullTimes (next (connect endpoint)) count paging).value.1 =
          (List.range count).map fun call => rows[call]?.map fun row => .ok (.row row) := by
  have begun : Tracks dataset hubConfig split rows
      (start dataset hubConfig split config.pageSize) := tracks_start sizePositive
  obtain ⟨paging, fetched, tracks, same, -⟩ := exists_fetchPage holds begun rfl
  have opened : (openSplit (connect endpoint) config.hubConfig config.pageSize
      dataset split).value = .ok paging := by
    rw [configured]
    exact fetched
  refine ⟨paging, ?_, ?_⟩
  · simp only [openHosted, addressed, Logged.value_bind, opened]
    rfl
  · intro count
    rw [(next_handsOut holds).pullTimes_eq count tracks, same, toCome_start]
    simp only [handed, List.getElem?_map]

/-- A server that hands out one row at a time and tells their number at every other request. -/
def sparingServer (rows : List Json) : Server where
  splits _ := pure (.error .breakdown)
  rows asked request :=
    pure (.ok ⟨(rows.drop request.offset).take 1,
      if asked.length % 2 = 0 then none else some rows.length⟩)

/-- A sparing server holds its rows, under whatever names they are asked for. -/
theorem sparingServer_holds (dataset config split : String) (rows : List Json) :
    (sparingServer rows).Holds dataset config split rows := by
  intro asked offset length lengthPositive
  refine ⟨_, rfl, List.take_prefix _ _, ?_, ?_, ?_⟩
  · exact Nat.le_trans (List.length_take_le _ _) lengthPositive
  · intro left empty
    have lengths := congrArg List.length empty
    simp only [List.length_take, List.length_drop, List.length_nil] at lengths left
    omega
  · by_cases even : asked.length % 2 = 0
    · simp [even]
    · simp [even]

/-- Three rows behind a local address, one to a page, come one after the other. -/
theorem openHosted_delivers_rows_sparingly :
    1 ≤ (LoaderConfig.standard.withPageSize 2).pageSize ∧
      (sparingServer [.integer 7, .string "b", .null]).Holds "squad" "plain" "validation"
        [.integer 7, .string "b", .null] ∧
      ∃ paging,
        (openHosted (fun _ => sparingServer [.integer 7, .string "b", .null])
          (((LoaderConfig.standard.withHubEndpoint "http://[::1]:8000/api").withHubConfig
            "plain").withPageSize 2) "squad" "validation").value =
            .ok (sparingServer [.integer 7, .string "b", .null], paging) ∧
          ∀ count,
            (pullTimes (next (sparingServer [.integer 7, .string "b", .null])) count
              paging).value.1 = (List.range count).map fun call =>
                [.integer 7, .string "b", .null][call]?.map fun row => .ok (.row row) := by
  have parsed : Url.parse? "http://[::1]:8000/api" =
      some ⟨"http", some ⟨"", none, .ipv6 [0, 0, 0, 0, 0, 0, 0, 1], some 8000⟩,
        .segments ["api"], none, none⟩ := by
    decide +kernel
  have holds := sparingServer_holds "squad" "plain" "validation" [.integer 7, .string "b", .null]
  refine ⟨by decide, holds, ?_⟩
  exact openHosted_delivers_rows (fun _ => sparingServer [.integer 7, .string "b", .null])
    (((LoaderConfig.standard.withHubEndpoint "http://[::1]:8000/api").withHubConfig
      "plain").withPageSize 2) "plain" "squad" "validation"
    [.integer 7, .string "b", .null] _ (Endpoint.read_eq_ok parsed) rfl (by decide) holds

end Paging

end Hub
end Holdout
