import WebhookWise.JsonColumns
import WebhookWise.KeysetPages
import Mathlib.Data.List.Infix

/-!
# The list of events, page by page

A request selects the events of a filter, in descending order of their keys, below the cursor of the
page before, and fetches one row more than the page shows.  The filter for stuck events compares a
row with the clock of each request.
-/

namespace WebhookWise

namespace EventLists

open KeysetPages JsonColumns

/-- What the filters read of a row of `webhook_events`. -/
structure WebhookEvent where
  id : Nat
  requestId : Option String
  source : String
  timestamp : DateTime
  parsedData : Option Json
  aiAnalysis : Option Json
  importance : Option String
  processingStatus : String
  updatedAt : Option DateTime

/-! ## Cursor windows -/

section Windows

variable {Row : Type}

/-- A query of rows that have a key. -/
structure Query (Row : Type) where
  selects : Row → Bool
  offset : Nat
  limit : Option Nat

def Query.execute (query : Query Row) (id : Row → Nat) (table : List Row) : List Row :=
  let rows := (descending id (table.filter query.selects)).drop query.offset
  match query.limit with
  | none => rows
  | some limit => rows.take limit

def applyCursorWindow (query : Query Row) (id : Row → Nat) (page pageSize : Nat)
    (cursor : Option Nat) : Query Row :=
  let query :=
    match cursor with
    | some cursor => { query with selects := fun row => query.selects row && id row < cursor }
    | none => { query with offset := (page - 1) * pageSize }
  { query with limit := some (pageSize + 1) }

structure CursorWindow (Row : Type) where
  rows : List Row
  hasMore : Bool
  nextCursor : Option Nat

def trimCursorWindow (rows : List Row) (pageSize : Nat) (cursorGetter : Row → Nat) :
    CursorWindow Row :=
  let hasMore := decide (pageSize < rows.length)
  let visibleRows := if hasMore then rows.take pageSize else rows
  { rows := visibleRows
    hasMore := hasMore
    nextCursor := if hasMore then visibleRows.getLast?.map cursorGetter else none }

def CursorWindow.toPage (window : CursorWindow Row) : Page Row Nat :=
  ⟨window.rows, window.nextCursor⟩

theorem trimCursorWindow_take (rows : List Row) (pageSize : Nat) (cursorGetter : Row → Nat) :
    (trimCursorWindow (rows.take (pageSize + 1)) pageSize cursorGetter).toPage =
      ⟨rows.take pageSize,
        if pageSize < rows.length then (rows.take pageSize).getLast?.map cursorGetter
        else none⟩ := by
  by_cases more : pageSize < rows.length
  · have extra : pageSize < (rows.take (pageSize + 1)).length := by
      rw [List.length_take]
      omega
    have visible : (rows.take (pageSize + 1)).take pageSize = rows.take pageSize := by
      rw [List.take_take, Nat.min_eq_left (Nat.le_succ pageSize)]
    unfold trimCursorWindow CursorWindow.toPage
    simp only [decide_eq_true extra, if_pos, visible, more]
  · have fits : ¬ pageSize < (rows.take (pageSize + 1)).length := by
      rw [List.length_take]
      omega
    have visible : rows.take (pageSize + 1) = rows.take pageSize := by
      rw [List.take_of_length_le (by omega), List.take_of_length_le (by omega)]
    rw [visible] at fits ⊢
    unfold trimCursorWindow CursorWindow.toPage
    simp only [decide_eq_false fits, Bool.false_eq_true, if_false, more]

theorem toPage_trimCursorWindow (id : Row → Nat) (selects : Row → Bool) (pageSize : Nat)
    (cursor : Option Nat) (table : List Row) :
    (trimCursorWindow ((applyCursorWindow ⟨selects, 0, none⟩ id 1 pageSize cursor).execute id table)
        pageSize id).toPage = page id selects pageSize cursor table := by
  have executed : (applyCursorWindow ⟨selects, 0, none⟩ id 1 pageSize cursor).execute id table =
      (rest id selects cursor table).take (pageSize + 1) := by
    cases cursor with
    | none | some => simp [applyCursorWindow, Query.execute, rest, Below]
  rw [executed, trimCursorWindow_take]
  rfl

end Windows

/-! ## Filters -/

/-- The parameters of the list. -/
structure SummaryFilter where
  importance : String
  source : String
  processingStatus : String
  timeFrom : Option DateTime
  search : String

def stuckStatuses : List String :=
  ["received", "analyzing", "retry"]

/-- `STUCK_THRESHOLD`, in minutes. -/
def stuckThreshold : Int := 15

/-- `value.replace(mark, "\\" + mark)`, for one character. -/
def escaped (mark : Char) (value : List Char) : List Char :=
  value.flatMap fun character => if character = mark then ['\\', mark] else [character]

def escapeLike (value : List Char) : List Char :=
  escaped '_' (escaped '%' (escaped '\\' value))

/-- `text LIKE pattern ESCAPE '\'`. -/
def likeMatches : List Char → List Char → Bool
  | [], text => text.isEmpty
  | '%' :: pattern, text => text.tails.any (likeMatches pattern)
  | '_' :: pattern, text =>
      match text with
      | [] => false
      | _ :: text => likeMatches pattern text
  | '\\' :: literal :: pattern, text =>
      match text with
      | [] => false
      | character :: text => character = literal && likeMatches pattern text
  | literal :: pattern, text =>
      match text with
      | [] => false
      | character :: text => character = literal && likeMatches pattern text

section Filters

variable (python : PythonRuntime) (postgres : PostgresText)

def searchFields (event : WebhookEvent) : List (Option String) :=
  [astext postgres event.parsedData "RuleName", astext postgres event.parsedData "AlertName",
    astext postgres event.parsedData "alert_name", astext postgres event.aiAnalysis "summary",
    some event.source, event.requestId]

def searchPredicate (search : String) (event : WebhookEvent) : Bool :=
  let pattern := '%' :: (escapeLike (python.lower search).toList ++ ['%'])
  (searchFields postgres event).any fun field =>
    field.any fun text => likeMatches pattern (postgres.lower text).toList

/-- The condition on `processing_status`, at the clock of the request. -/
def statusSelects (processingStatus : String) (now : DateTime) (event : WebhookEvent) : Bool :=
  if processingStatus = "stuck" then
    event.processingStatus ∈ stuckStatuses &&
      event.updatedAt.any fun updatedAt => updatedAt < now.addMinutes (-stuckThreshold)
  else processingStatus = "" || event.processingStatus = processingStatus

def applySummaryFilters (filter : SummaryFilter) (now : DateTime) (event : WebhookEvent) : Bool :=
  (filter.importance = "" || event.importance = some filter.importance) &&
    (filter.source = "" || event.source = filter.source) &&
    statusSelects filter.processingStatus now event &&
    filter.timeFrom.all (fun timeFrom => timeFrom ≤ event.timestamp) &&
    (filter.search = "" || searchPredicate python postgres filter.search event)

def listWebhookSummaries (filter : SummaryFilter) (cursor : Option Nat) (page pageSize : Nat)
    (now : DateTime) (table : List WebhookEvent) : CursorWindow WebhookEvent :=
  let query := applyCursorWindow ⟨applySummaryFilters python postgres filter now, 0, none⟩
    WebhookEvent.id page pageSize cursor
  trimCursorWindow (query.execute WebhookEvent.id table) pageSize WebhookEvent.id

def escapedCharacter (character : Char) : List Char :=
  if character = '\\' ∨ character = '%' ∨ character = '_' then ['\\', character] else [character]

theorem escapeLike_eq_flatMap (value : List Char) :
    escapeLike value = value.flatMap escapedCharacter := by
  induction value with
  | nil => rfl
  | cons character value ih =>
      rw [List.flatMap_cons, ← ih]
      by_cases backslash : character = '\\'
      · subst backslash
        rfl
      · by_cases percent : character = '%'
        · subst percent
          rfl
        · by_cases underscore : character = '_'
          · subst underscore
            rfl
          · simp [escapeLike, escaped, escapedCharacter, backslash, percent, underscore]

theorem likeMatches_escapedCharacter (character : Char) (pattern text : List Char) :
    likeMatches (escapedCharacter character ++ pattern) text = true ↔
      ∃ others, text = character :: others ∧ likeMatches pattern others = true := by
  have step : likeMatches (escapedCharacter character ++ pattern) text =
      match text with
      | [] => false
      | first :: text => first = character && likeMatches pattern text := by
    by_cases special : character = '\\' ∨ character = '%' ∨ character = '_'
    · rw [escapedCharacter, if_pos special]
      cases text with
      | nil | cons => rfl
    · rw [escapedCharacter, if_neg special]
      obtain ⟨notBackslash, notPercent, notUnderscore⟩ :
          character ≠ '\\' ∧ character ≠ '%' ∧ character ≠ '_' := by
        simpa only [not_or] using special
      cases text with
      | nil =>
          exact likeMatches.eq_7 character pattern notPercent notUnderscore
            fun _ _ isBackslash _ => notBackslash isBackslash
      | cons first text =>
          exact likeMatches.eq_8 character pattern first text notPercent notUnderscore
            fun _ _ isBackslash _ => notBackslash isBackslash
  rw [step]
  cases text with
  | nil => simp
  | cons first text =>
      rw [Bool.and_eq_true, decide_eq_true_iff]
      constructor
      · rintro ⟨rfl, matched⟩
        exact ⟨text, rfl, matched⟩
      · rintro ⟨others, same, matched⟩
        obtain ⟨rfl, rfl⟩ := List.cons.inj same
        exact ⟨rfl, matched⟩

theorem likeMatches_escapeLike_append (search pattern text : List Char) :
    likeMatches (escapeLike search ++ pattern) text = true ↔
      ∃ others, text = search ++ others ∧ likeMatches pattern others = true := by
  rw [escapeLike_eq_flatMap]
  induction search generalizing text with
  | nil => simp
  | cons character search ih =>
      rw [List.flatMap_cons, List.append_assoc, likeMatches_escapedCharacter]
      constructor
      · rintro ⟨text, rfl, matched⟩
        obtain ⟨others, rfl, remaining⟩ := (ih text).1 matched
        exact ⟨others, rfl, remaining⟩
      · rintro ⟨others, rfl, matched⟩
        exact ⟨search ++ others, rfl, (ih _).2 ⟨others, rfl, matched⟩⟩

theorem likeMatches_percent (pattern text : List Char) :
    likeMatches ('%' :: pattern) text = true ↔
      ∃ suffix, suffix <:+ text ∧ likeMatches pattern suffix = true := by
  rw [likeMatches, List.any_eq_true]
  simp only [List.mem_tails]

/-- An escaped search term matches where it occurs. -/
theorem likeMatches_escapeLike_iff (search text : List Char) :
    likeMatches ('%' :: (escapeLike search ++ ['%'])) text = true ↔ search <:+: text := by
  have everything : ∀ text, likeMatches ['%'] text = true := fun text =>
    (likeMatches_percent [] text).2 ⟨[], List.nil_suffix, rfl⟩
  rw [likeMatches_percent, List.infix_iff_prefix_suffix]
  apply exists_congr
  intro suffix
  rw [likeMatches_escapeLike_append, and_comm]
  apply and_congr_left
  intro _
  constructor
  · rintro ⟨others, rfl, -⟩
    exact List.prefix_append search others
  · rintro ⟨others, rfl⟩
    exact ⟨others, rfl, everything others⟩

end Filters

/-! ## Reading the list to its end -/

section Reading

variable {python : PythonRuntime} {postgres : PostgresText}

/-- What a request of the list finds: the events, and the clock. -/
structure Request where
  table : List WebhookEvent
  now : DateTime

/-- The page that a request gets. -/
def fetch (python : PythonRuntime) (postgres : PostgresText) (filter : SummaryFilter)
    (pageSize : Nat) (requests : Nat → Request) (request : Nat) (cursor : Option Nat) :
    Page WebhookEvent Nat :=
  (listWebhookSummaries python postgres filter cursor 1 pageSize (requests request).now
    (requests request).table).toPage

/-- From one request to the next, nothing happens to the table but that events with larger keys
are inserted. -/
structure OnlyInserts (requests : Nat → Request) : Prop where
  distinct : ∀ request, ((requests request).table.map WebhookEvent.id).Nodup
  larger : ∀ request, ∃ added,
    (requests (request + 1)).table.Perm ((requests request).table ++ added) ∧
      ∀ new ∈ added, ∀ old ∈ (requests request).table, old.id < new.id

/-- The clock does not go back between requests. -/
def ClockAdvances (requests : Nat → Request) : Prop :=
  ∀ request, (requests request).now ≤ (requests (request + 1)).now

theorem statusSelects_mono {processingStatus : String} {earlier later : DateTime}
    (advances : earlier ≤ later) {event : WebhookEvent}
    (selected : statusSelects processingStatus earlier event = true) :
    statusSelects processingStatus later event = true := by
  unfold statusSelects at selected ⊢
  by_cases stuck : processingStatus = "stuck"
  · rw [if_pos stuck] at selected ⊢
    rw [Bool.and_eq_true, Option.any_eq_true] at selected ⊢
    obtain ⟨waiting, updatedAt, isUpdated, old⟩ := selected
    have older : updatedAt < earlier.addMinutes (-stuckThreshold) := of_decide_eq_true old
    exact ⟨waiting, updatedAt, isUpdated,
      decide_eq_true (lt_of_lt_of_le older (DateTime.addSeconds_le_addSeconds advances _))⟩
  · rw [if_neg stuck] at selected ⊢
    exact selected

theorem applySummaryFilters_of_ne {filter : SummaryFilter}
    (other : filter.processingStatus ≠ "stuck")
    (first second : DateTime) :
    applySummaryFilters python postgres filter first =
      applySummaryFilters python postgres filter second := by
  funext event
  simp [applySummaryFilters, statusSelects, other]

def presentAtFirst (python : PythonRuntime) (postgres : PostgresText) (filter : SummaryFilter)
    (requests : Nat → Request) : List WebhookEvent :=
  descending WebhookEvent.id ((requests 0).table.filter
    (applySummaryFilters python postgres filter (requests 0).now))

variable {filter : SummaryFilter} {requests : Nat → Request} {pageSize : Nat}

theorem fetch_eq (request : Nat) (cursor : Option Nat) :
    fetch python postgres filter pageSize requests request cursor =
      page WebhookEvent.id (applySummaryFilters python postgres filter (requests request).now)
        pageSize cursor (requests request).table :=
  toPage_trimCursorWindow _ _ _ _ _

theorem grows (inserts : OnlyInserts requests)
    (clock : filter.processingStatus = "stuck" → ClockAdvances requests) :
    Grows WebhookEvent.id (fun request => (requests request).table)
      fun request => applySummaryFilters python postgres filter (requests request).now where
  distinct := inserts.distinct
  larger := inserts.larger
  selected := by
    intro request event selected
    by_cases stuck : filter.processingStatus = "stuck"
    · simp only [applySummaryFilters, Bool.and_eq_true] at selected ⊢
      obtain ⟨⟨⟨others, waiting⟩, recent⟩, found⟩ := selected
      exact ⟨⟨⟨others, statusSelects_mono (clock stuck request) waiting⟩, recent⟩, found⟩
    · rw [applySummaryFilters_of_ne stuck _ (requests request).now]
      exact selected

/-- Reading the list to its end, the client gets the events of the filter that were there at the
first request, each once, in descending order of their keys.  The filter for stuck events also
gives those that were there at the first request and became stuck before their page. -/
theorem walk_enumerates (python : PythonRuntime) (postgres : PostgresText)
    (filter : SummaryFilter) (pageSize : Nat) (positive : 0 < pageSize) (requests : Nat → Request)
    (inserts : OnlyInserts requests)
    (clock : filter.processingStatus = "stuck" → ClockAdvances requests) :
    ∃ fuel events, walk (fetch python postgres filter pageSize requests) fuel 0 none = some events ∧
      (filter.processingStatus ≠ "stuck" →
        events = presentAtFirst python postgres filter requests) ∧
      events.Pairwise (fun first second => second.id < first.id) ∧
      (∀ event ∈ presentAtFirst python postgres filter requests, event ∈ events) ∧
      ∀ event ∈ events, event ∈ (requests 0).table ∧
        ∃ request, applySummaryFilters python postgres filter (requests request).now event := by
  have fetchEq : fetch python postgres filter pageSize requests = fun request cursor =>
      page WebhookEvent.id (applySummaryFilters python postgres filter (requests request).now)
        pageSize cursor (requests request).table := by
    funext request cursor
    exact fetch_eq request cursor
  rw [fetchEq]
  obtain ⟨events, reads, sorted, sound, complete⟩ :=
    walk_reads (grows inserts clock) positive
      (unread WebhookEvent.id none (requests 0).table + 1) 0 none (Nat.lt_succ_self _)
      fun event _ => Iff.rfl
  have mem_present : ∀ event, event ∈ presentAtFirst python postgres filter requests ↔
      event ∈ (requests 0).table ∧
        applySummaryFilters python postgres filter (requests 0).now event = true := by
    intro event
    rw [presentAtFirst, (descending_perm _).mem_iff, List.mem_filter]
  have contains : ∀ event ∈ presentAtFirst python postgres filter requests, event ∈ events := by
    intro event member
    obtain ⟨inTable, selected⟩ := (mem_present event).1 member
    exact complete event inTable (fun _ none => absurd none (by simp)) selected
  refine ⟨_, events, reads, ?_, sorted, contains, ?_⟩
  · intro other
    apply sorted.eq_of_mem_iff
    · apply descending_of_nodup
      exact List.Nodup.sublist (List.Sublist.map _ List.filter_sublist) (inserts.distinct 0)
    · intro event
      refine ⟨fun member => ?_, contains event⟩
      obtain ⟨inTable, -, request, -, selected⟩ := sound event member
      rw [applySummaryFilters_of_ne other _ (requests 0).now] at selected
      exact (mem_present event).2 ⟨inTable, selected⟩
  · intro event member
    obtain ⟨inTable, -, request, -, selected⟩ := sound event member
    exact ⟨inTable, request, selected⟩

end Reading

/-! ## An event that becomes stuck meanwhile -/

def waitingEvent (id : Nat) (updatedAt : Int) : WebhookEvent where
  id := id
  requestId := none
  source := "grafana"
  timestamp := 0
  parsedData := none
  aiAnalysis := none
  importance := some "high"
  processingStatus := "received"
  updatedAt := some (DateTime.addSeconds 0 updatedAt)

def stuckFilter : SummaryFilter :=
  ⟨"", "", "stuck", none, ""⟩

def stuckRequests : Nat → Request
  | 0 => ⟨[waitingEvent 1 60, waitingEvent 2 0, waitingEvent 3 0], DateTime.addSeconds 0 930⟩
  | _ + 1 => ⟨[waitingEvent 1 60, waitingEvent 2 0, waitingEvent 3 0], DateTime.addSeconds 0 990⟩

private theorem stuckRequests_table (request : Nat) :
    (stuckRequests request).table = [waitingEvent 1 60, waitingEvent 2 0, waitingEvent 3 0] := by
  cases request with
  | zero | succ => rfl

private theorem stuckRequests_inserts : OnlyInserts stuckRequests where
  distinct := by
    intro request
    rw [stuckRequests_table]
    decide
  larger := by
    intro request
    refine ⟨[], ?_, fun new member => absurd member (by simp)⟩
    rw [stuckRequests_table, stuckRequests_table, List.append_nil]

private theorem stuckRequests_clock : ClockAdvances stuckRequests := by
  intro request
  cases request with
  | zero => decide
  | succ request => exact Int.le_refl _

/-- The walk gives the events of the first request and the one that became stuck. -/
theorem walk_enumerates_stuck :
    ∃ fuel events,
      walk (fetch .plain .plain stuckFilter 1 stuckRequests) fuel 0 none = some events ∧
        (stuckFilter.processingStatus ≠ "stuck" →
          events = presentAtFirst .plain .plain stuckFilter stuckRequests) ∧
        events.Pairwise (fun first second => second.id < first.id) ∧
        (∀ event ∈ presentAtFirst .plain .plain stuckFilter stuckRequests, event ∈ events) ∧
        ∀ event ∈ events, event ∈ (stuckRequests 0).table ∧
          ∃ request,
            applySummaryFilters .plain .plain stuckFilter (stuckRequests request).now event :=
  walk_enumerates .plain .plain stuckFilter 1 (by decide) stuckRequests stuckRequests_inserts
    fun _ => stuckRequests_clock

/-- An event that becomes stuck while the list is read is read with the others. -/
theorem stuck_event_appears :
    ¬ ∀ (filter : SummaryFilter) (pageSize : Nat) (requests : Nat → Request), 0 < pageSize →
      OnlyInserts requests → ClockAdvances requests →
        ∃ fuel, walk (fetch .plain .plain filter pageSize requests) fuel 0 none =
          some (presentAtFirst .plain .plain filter requests) := by
  intro enumerates
  obtain ⟨fuel, reads⟩ :=
    enumerates stuckFilter 1 stuckRequests (by decide) stuckRequests_inserts stuckRequests_clock
  have three : (walk (fetch .plain .plain stuckFilter 1 stuckRequests) 3 0 none).map
      (List.map WebhookEvent.id) = some [3, 2, 1] := by
    decide +kernel
  obtain ⟨events, readsThree, ids⟩ := Option.map_eq_some_iff.1 three
  rw [walk_unique readsThree reads] at ids
  exact absurd ids (by decide +kernel)

end EventLists

end WebhookWise
