import WebhookWise.WebhookLinks

/-!
# The age of a reused analysis

The alerts of one identity arrive one after another.  Each is resolved, saved and
remembered before the next arrives, and Redis keeps what it is told until it expires.
-/

namespace WebhookWise

open SqlTable

namespace WebhookReuse

open WebhookIngest WebhookDedup WebhookLinks

/-! ## Arrivals -/

/-- What an alert is given if no analysis is reused. -/
inductive FreshAnalysis where
  /-- By `_run_fresh_analysis`. -/
  | analyzed (analysis : JsonObject)
  /-- By `_handle_silenced_skip`, without a run. -/
  | silenced

def FreshAnalysis.content : FreshAnalysis → JsonObject
  | .analyzed analysis => analysis
  | .silenced => unknownAnalysisResult

def FreshAnalysis.producedAt (now : DateTime) : FreshAnalysis → Option DateTime
  | .analyzed _ => some now
  | .silenced => none

/-- An alert of the identity.  What the pipeline writes over an analysis, such as its
route, a capped importance and a digest window, leaves its quality marks alone. -/
structure Arrival where
  /-- The microseconds since the arrival before. -/
  after : Nat
  requestId : Option String
  payload : SaveWebhookInput
  fresh : FreshAnalysis
  annotations : JsonObject
  noise : Json
  named : requestId ≠ some ""
  unmarked : ∀ entry ∈ annotations, entry.1 ≠ "_degraded" ∧ entry.1 ≠ "_pending"

/-- The analysis that is saved and remembered: `_mark_rule_digest` drops the marker of an
earlier alert, and `build_final_analysis` adds the noise. -/
def Arrival.finalAnalysis (arrival : Arrival) (analysis : JsonObject) : JsonObject :=
  ((PyDict.without analysis "_digest").updated arrival.annotations).set "noise_reduction"
    arrival.noise

/-- The database and Redis, and when runs have produced the analyses in them. -/
structure ReuseState where
  now : DateTime
  events : EventTable
  remembered : Option DedupEntry
  rememberedProducedAt : Option DateTime
  storedProducedAt : Nat → Option DateTime

def ReuseState.initial : ReuseState :=
  ⟨0, .empty, none, none, fun _ => none⟩

section Steps

variable (env : SaveEnvironment) (windows : DedupWindows) (dedupKey : String)

/-- What `resolve_dedup` answers an arrival. -/
def resolution (state : ReuseState) (arrival : Arrival) : DedupResult :=
  let now := state.now + arrival.after
  resolveDedup now windows (getDedupState now state.remembered) dedupKey state.events

/-- When a run has produced the analysis that an arrival is given. -/
def producedAt (state : ReuseState) (arrival : Arrival) : Option DateTime :=
  let answer := resolution windows dedupKey state arrival
  if answer.action = .new then arrival.fresh.producedAt (state.now + arrival.after)
  else if answer.routeType = "db_reuse" then answer.originalEventId.bind state.storedProducedAt
  else state.rememberedProducedAt

def givenAnalysis (state : ReuseState) (arrival : Arrival) : JsonObject :=
  let answer := resolution windows dedupKey state arrival
  arrival.finalAnalysis
    (if answer.action = .new then arrival.fresh.content else answer.analysis.getD [])

def arrivalRequest (state : ReuseState) (arrival : Arrival) : SaveRequest :=
  finalizeRequest ⟨dedupKey, resolution windows dedupKey state arrival, .resolved⟩
    arrival.requestId
    { arrival.payload with aiAnalysis := some (givenAnalysis windows dedupKey state arrival) }

def rememberedDuring (state : ReuseState) (arrival : Arrival) : Option DedupEntry :=
  let answer := resolution windows dedupKey state arrival
  match answer.action, arrival.fresh with
  | .new, .analyzed _ =>
      some (rememberDedupState (state.now + arrival.after) (dedupTtlSeconds windows.dedup) 0
        pendingDedupPlaceholder answer.resetChain state.remembered)
  | _, _ => state.remembered

/-- One alert, from `resolve_dedup` to `remember_dedup_state`. -/
def arrive (state : ReuseState) (arrival : Arrival) : ReuseState :=
  let now := state.now + arrival.after
  let answer := resolution windows dedupKey state arrival
  let request := arrivalRequest windows dedupKey state arrival
  let produced := producedAt windows dedupKey state arrival
  match saveWebhookDataInSession (withWindow env windows.dedup) ⟨now, now, now⟩ request
    state.events with
  | some (events, result) =>
      { now := now
        events := events
        remembered := some (rememberDedupState now (dedupTtlSeconds windows.dedup)
          result.webhookId (givenAnalysis windows dedupKey state arrival)
          (answer.resetChain || answer.action = .rechain)
          (rememberedDuring windows dedupKey state arrival))
        rememberedProducedAt := produced
        storedProducedAt := fun eventId =>
          if eventId = result.webhookId && !alreadyCompleted request state.events then produced
          else state.storedProducedAt eventId }
  | none =>
      { state with
        now := now
        remembered := rememberedDuring windows dedupKey state arrival }

/-- The oldest instant at which a reused analysis may have been produced. -/
def oldestReusable (now : DateTime) : DateTime :=
  now.addSeconds (-max windows.dedup windows.analysisReuse)

/-- An arrival that reuses an analysis is given one that a run has produced recently. -/
def AnswersFresh (state : ReuseState) (arrival : Arrival) : Prop :=
  (resolution windows dedupKey state arrival).action ≠ .new →
    ∃ produced ∈ producedAt windows dedupKey state arrival,
      oldestReusable windows (state.now + arrival.after) ≤ produced

end Steps

/-! ## Series -/

/-- The arrivals up to now that each came within the dedup window of the one before.  The
analysis is known from the first reusable one on; no run has produced it if it is the
stub of a silence. -/
structure Series where
  now : DateTime
  analysis : Option (Option DateTime)

def Series.initial : Series :=
  ⟨0, none⟩

section Series

variable (windows : DedupWindows)

def Series.continued (series : Series) (arrival : Arrival) : Option (Option DateTime) :=
  if within windows.dedup series.now (series.now + arrival.after) then series.analysis else none

def extend (series : Series) (arrival : Arrival) : Series where
  now := series.now + arrival.after
  analysis :=
    match series.continued windows arrival with
    | some known => some known
    | none =>
        if hasReusableAnalysis (some (arrival.finalAnalysis arrival.fresh.content)) then
          some (arrival.fresh.producedAt (series.now + arrival.after))
        else none

/-- The analysis of the series has been produced recently, by a run. -/
def SeriesFresh (series : Series) (arrival : Arrival) : Prop :=
  ∀ known ∈ series.continued windows arrival, ∃ produced ∈ known,
    oldestReusable windows (series.now + arrival.after) ≤ produced

end Series

/-! ## Answers -/

variable (arrival : Arrival)

theorem Arrival.truthyAt_finalAnalysis (analysis : JsonObject) {mark : String}
    (unmarked : ∀ entry ∈ arrival.annotations, entry.1 ≠ mark) (notNoise : mark ≠ "noise_reduction")
    (notDigest : mark ≠ "_digest") :
    (arrival.finalAnalysis analysis).truthyAt mark = analysis.truthyAt mark := by
  unfold JsonObject.truthyAt Arrival.finalAnalysis
  rw [PyDict.get?_set, if_neg notNoise, PyDict.get?_updated_of_forall_ne unmarked,
    PyDict.get?_without_of_ne notDigest]

theorem Arrival.hasReusableAnalysis_finalAnalysis (analysis : JsonObject) :
    hasReusableAnalysis (some (arrival.finalAnalysis analysis)) =
      (!analysis.truthyAt "_degraded" && !analysis.truthyAt "_pending") := by
  have present : presentAnalysis (some (arrival.finalAnalysis analysis)) =
      some (arrival.finalAnalysis analysis) := by
    have nonempty : arrival.finalAnalysis analysis ≠ [] := PyDict.set_ne_nil _ _ _
    simp [presentAnalysis, nonempty]
  unfold hasReusableAnalysis
  simp only [present]
  rw [arrival.truthyAt_finalAnalysis analysis (fun entry member => (arrival.unmarked entry member).1)
      (by decide) (by decide),
    arrival.truthyAt_finalAnalysis analysis (fun entry member => (arrival.unmarked entry member).2)
      (by decide) (by decide)]

theorem Arrival.reusable_finalAnalysis {analysis : JsonObject}
    (reusable : hasReusableAnalysis (some analysis) = true) :
    hasReusableAnalysis (some (arrival.finalAnalysis analysis)) = true := by
  rw [arrival.hasReusableAnalysis_finalAnalysis]
  unfold hasReusableAnalysis at reusable
  split at reusable
  · rename_i present
    obtain rfl := Option.some.inj (Option.filter_eq_some_iff.1 present).1
    exact reusable
  · contradiction

/-- Redis remembers the last arrival of the series, with its analysis, and the table has no
analysis that the dedup window could still reach but the one of the series. -/
structure Represents (windows : DedupWindows) (state : ReuseState) (series : Series) : Prop where
  now : state.now = series.now
  blank : state.remembered = none → series.analysis = none
  seen : ∀ entry ∈ state.remembered, entry.state.lastSeenAt = series.now
  lasts : ∀ entry ∈ state.remembered, series.now.addSeconds windows.dedup < entry.expiresAt
  known : ∀ entry ∈ state.remembered,
    hasReusableAnalysis entry.state.analysis = series.analysis.isSome
  produced : ∀ known ∈ series.analysis, state.rememberedProducedAt = known
  past : ∀ row ∈ state.events.rows, row.timestamp ≤ series.now
  stale : series.analysis = none → ∀ row ∈ state.events.rows, row.isDuplicate = false →
    hasReusableAnalysis row.aiAnalysis = true →
      row.timestamp.addSeconds windows.dedup < series.now

section Answers

variable {windows : DedupWindows} {dedupKey : String} {state : ReuseState} {series : Series}
variable {arrival : Arrival}

theorem resolution_of_continued (dedupKey : String) (represents : Represents windows state series)
    {known : Option DateTime} (continued : series.continued windows arrival = some known) :
    ∃ entry, state.remembered = some entry ∧ hasReusableAnalysis entry.state.analysis = true ∧
      (resolution windows dedupKey state arrival).action ≠ .new ∧
      (resolution windows dedupKey state arrival).routeType ≠ "db_reuse" ∧
      (resolution windows dedupKey state arrival).analysis = entry.state.analysis := by
  unfold Series.continued at continued
  split at continued
  · rename_i recent
    cases remembered : state.remembered with
    | none =>
        rw [represents.blank remembered] at continued
        contradiction
    | some entry =>
        have reusable : hasReusableAnalysis entry.state.analysis = true := by
          rw [represents.known entry remembered, continued]
          rfl
        have unexpired : state.now + arrival.after < entry.expiresAt := by
          rw [represents.now]
          exact lt_of_le_of_lt (within_iff.1 recent) (represents.lasts entry remembered)
        have read : getDedupState (state.now + arrival.after) (some entry) = some entry.state := by
          simp [getDedupState, unexpired]
        rw [← represents.now] at recent
        have seen : entry.state.lastSeenAt = state.now :=
          (represents.seen entry remembered).trans represents.now.symm
        refine ⟨entry, rfl, reusable, ?_⟩
        unfold resolution resolveDedup
        simp only [remembered, read, Option.bind_some, answerFromState, reusable, seen, recent, if_true,
          Bool.and_true]
        split
        · rename_i answered
          split at answered
          all_goals
            obtain rfl := Option.some.inj answered
            exact ⟨by simp, by simp, rfl⟩
        · rename_i unanswered
          split at unanswered
          all_goals contradiction
  · contradiction

theorem findOriginalByDedupKey_eq_none (represents : Represents windows state series)
    (discontinued : series.continued windows arrival = none) :
    findOriginalByDedupKey (state.now + arrival.after) windows.dedup dedupKey state.events =
      none := by
  cases found : findOriginalByDedupKey (state.now + arrival.after) windows.dedup dedupKey
      state.events with
  | none => rfl
  | some original =>
      obtain ⟨member, _, isOriginal, recent, reusable⟩ := findOriginalByDedupKey_spec found
      have reached := DateTime.addSeconds_neg_le_iff.1 recent
      unfold Series.continued at discontinued
      split at discontinued
      · have stale := represents.stale discontinued original member isOriginal reusable
        rw [← represents.now] at stale
        have later : state.now ≤ state.now + arrival.after :=
          Int.le_add_of_nonneg_right (Int.natCast_nonneg _)
        exact absurd (later.trans reached) (not_le_of_gt stale)
      · rename_i apart
        rw [within_iff, ← represents.now] at apart
        have past := represents.past original member
        rw [← represents.now] at past
        exact absurd (reached.trans (DateTime.addSeconds_le_addSeconds past _)) apart

theorem resolution_of_discontinued (represents : Represents windows state series)
    (discontinued : series.continued windows arrival = none) :
    (resolution windows dedupKey state arrival).action = .new := by
  have unanswered : (getDedupState (state.now + arrival.after) state.remembered).bind
      (answerFromState (state.now + arrival.after) windows) = none := by
    rw [Option.bind_eq_none_iff]
    intro known isKnown
    cases answered : answerFromState (state.now + arrival.after) windows known with
    | none => rfl
    | some result =>
        obtain ⟨_, _, _, reusable, recent⟩ := answerFromState_spec answered
        obtain ⟨entry, unexpired, rfl⟩ := Option.map_eq_some_iff.1 isKnown
        have remembered := (Option.filter_eq_some_iff.1 unexpired).1
        rw [represents.seen entry remembered, represents.now] at recent
        rw [represents.known entry remembered] at reusable
        unfold Series.continued at discontinued
        rw [if_pos recent] at discontinued
        rw [discontinued] at reusable
        contradiction
  unfold resolution resolveDedup
  simp only [unanswered, findOriginalByDedupKey_eq_none represents discontinued]

theorem answersFresh_iff (represents : Represents windows state series) (arrival : Arrival) :
    AnswersFresh windows dedupKey state arrival ↔ SeriesFresh windows series arrival := by
  unfold AnswersFresh SeriesFresh
  cases continued : series.continued windows arrival with
  | none => simp [resolution_of_discontinued represents continued]
  | some known =>
      obtain ⟨entry, _, _, answered, notStored, _⟩ :=
        resolution_of_continued dedupKey represents continued
      have isKnown : series.analysis = some known := by
        unfold Series.continued at continued
        split at continued
        · exact continued
        · contradiction
      have produced : producedAt windows dedupKey state arrival = known := by
        unfold producedAt
        simp only [if_neg answered, if_neg notStored]
        exact represents.produced known isKnown
      simp [answered, produced, represents.now]

end Answers

/-! ## Arrivals keep what the series says -/

section Arrivals

variable {env : SaveEnvironment} {windows : DedupWindows} {dedupKey : String} {state : ReuseState}
  {series : Series} {arrival : Arrival}

theorem givenAnalysis_of_represents (dedupKey : String)
    (represents : Represents windows state series) :
    hasReusableAnalysis (some (givenAnalysis windows dedupKey state arrival)) =
      (extend windows series arrival).analysis.isSome := by
  unfold givenAnalysis extend
  cases continued : series.continued windows arrival with
  | none =>
      simp only [resolution_of_discontinued represents continued, if_true]
      split <;> simp_all
  | some known =>
      obtain ⟨entry, _, reusable, answered, _, sameAnalysis⟩ :=
        resolution_of_continued dedupKey represents continued
      simp only [if_neg answered, sameAnalysis, Option.isSome_some]
      cases isAnalysis : entry.state.analysis with
      | none =>
          rw [isAnalysis] at reusable
          contradiction
      | some analysis =>
          rw [isAnalysis] at reusable
          exact arrival.reusable_finalAnalysis reusable

theorem producedAt_of_represents (represents : Represents windows state series)
    {known : Option DateTime} (isKnown : (extend windows series arrival).analysis = some known) :
    producedAt windows dedupKey state arrival = known := by
  unfold producedAt
  unfold extend at isKnown
  cases continued : series.continued windows arrival with
  | none =>
      simp only [continued] at isKnown
      split at isKnown
      · simp only [resolution_of_discontinued represents continued, if_true, represents.now]
        exact Option.some.inj isKnown
      · contradiction
  | some before =>
      simp only [continued] at isKnown
      obtain rfl := Option.some.inj isKnown
      obtain ⟨entry, _, _, answered, notStored, _⟩ :=
        resolution_of_continued dedupKey represents continued
      simp only [if_neg answered, if_neg notStored]
      apply represents.produced
      unfold Series.continued at continued
      split at continued
      · exact continued
      · contradiction

theorem stale_of_discontinued (represents : Represents windows state series)
    (unknown : (extend windows series arrival).analysis = none) {row : WebhookEvent}
    (member : row ∈ state.events.rows) (isOriginal : row.isDuplicate = false)
    (reusable : hasReusableAnalysis row.aiAnalysis = true) :
    row.timestamp.addSeconds windows.dedup < series.now + arrival.after := by
  unfold extend at unknown
  cases continued : series.continued windows arrival with
  | some known => simp [continued] at unknown
  | none =>
      unfold Series.continued at continued
      split at continued
      · exact lt_of_lt_of_le (represents.stale continued row member isOriginal reusable)
          (Int.le_add_of_nonneg_right (Int.natCast_nonneg _))
      · rename_i apart
        rw [within_iff, not_le] at apart
        exact lt_of_le_of_lt
          (DateTime.addSeconds_le_addSeconds (represents.past row member) _) apart

theorem lasts_rememberDedupState {now : DateTime} {eventId : Nat} {analysis : JsonObject}
    {resetChain : Bool} {entry : Option DedupEntry} :
    now.addSeconds windows.dedup < (rememberDedupState now (dedupTtlSeconds windows.dedup) eventId
      analysis resetChain entry).expiresAt := by
  have longer : windows.dedup < max 60 (dedupTtlSeconds windows.dedup) := by
    unfold dedupTtlSeconds
    omega
  exact Int.add_lt_add_left
    (Int.mul_lt_mul_of_pos_right longer (by decide)) now

theorem rows_of_saved (represents : Represents windows state series) {events : EventTable}
    {result : SaveWebhookResult} {times : SaveTimes}
    (saved : saveWebhookDataInSession env times (arrivalRequest windows dedupKey state arrival)
      state.events = some (events, result))
    (filledAt : times.filledAt = series.now + arrival.after) :
    (∀ row ∈ events.rows, row.timestamp ≤ series.now + arrival.after) ∧
      ((extend windows series arrival).analysis = none → ∀ row ∈ events.rows,
        row.isDuplicate = false → hasReusableAnalysis row.aiAnalysis = true →
          row.timestamp.addSeconds windows.dedup < series.now + arrival.after) := by
  have later : series.now ≤ series.now + arrival.after :=
    Int.le_add_of_nonneg_right (Int.natCast_nonneg _)
  have past {row : WebhookEvent} (member : row ∈ state.events.rows) :
      row.timestamp ≤ series.now + arrival.after := (represents.past row member).trans later
  rcases saveWebhookDataInSession_spec saved with ⟨rfl, _⟩ | ⟨written, _⟩
  · exact ⟨fun row member => past member, fun unknown row member isOriginal reusable =>
      stale_of_discontinued represents unknown member isOriginal reusable⟩
  · -- Every row but the written one is as it was, but for its count of duplicates.
    constructor
    · intro row member
      by_cases own : row.id = (savedEvent env times
          (arrivalRequest windows dedupKey state arrival) state.events).id
      · rw [Table.eq_of_key_eq member written.stored own, savedEvent_timestamp, filledAt]
        cases isExisting : existingEvent (arrivalRequest windows dedupKey state arrival)
            state.events with
        | none => exact le_refl _
        | some existing => exact past (existingEvent_spec isExisting).1
      · obtain ⟨old, oldMember, _, linked⟩ := written.others row member own
        rw [linked.timestamp_eq]
        exact past oldMember
    · intro unknown row member isOriginal reusable
      by_cases own : row.id = (savedEvent env times
          (arrivalRequest windows dedupKey state arrival) state.events).id
      · rw [Table.eq_of_key_eq member written.stored own] at isOriginal reusable
        rw [savedEvent_aiAnalysis isOriginal] at reusable
        change hasReusableAnalysis (some (givenAnalysis windows dedupKey state arrival)) = true
          at reusable
        rw [givenAnalysis_of_represents dedupKey represents, unknown] at reusable
        contradiction
      · obtain ⟨old, oldMember, _, linked⟩ := written.others row member own
        rw [linked.isDuplicate_eq] at isOriginal
        rw [SameLinks.aiAnalysis_eq linked] at reusable
        rw [linked.timestamp_eq]
        exact stale_of_discontinued represents unknown oldMember isOriginal reusable

theorem represents_arrive (represents : Represents windows state series) :
    Represents windows (arrive env windows dedupKey state arrival)
      (extend windows series arrival) := by
  have named : (arrivalRequest windows dedupKey state arrival).requestId ≠ some "" :=
    arrival.named
  obtain ⟨⟨events, result⟩, saved⟩ := exists_saveWebhookDataInSession
    (withWindow env windows.dedup) ⟨state.now + arrival.after, state.now + arrival.after,
      state.now + arrival.after⟩ state.events named
  have present : presentAnalysis (some (givenAnalysis windows dedupKey state arrival)) =
      some (givenAnalysis windows dedupKey state arrival) := by
    have nonempty : givenAnalysis windows dedupKey state arrival ≠ [] := PyDict.set_ne_nil _ _ _
    simp [presentAnalysis, nonempty]
  obtain ⟨past, stale⟩ := rows_of_saved represents saved (by rw [← represents.now])
  have sameNow : state.now + arrival.after = (extend windows series arrival).now := by
    rw [represents.now]
    rfl
  unfold arrive
  simp only [saved]
  refine ⟨sameNow, nofun, ?_, ?_, ?_, ?_, past, stale⟩
  · intro entry isEntry
    obtain rfl := Option.some.inj isEntry
    exact sameNow
  · intro entry isEntry
    obtain rfl := Option.some.inj isEntry
    rw [← sameNow]
    exact lasts_rememberDedupState
  · intro entry isEntry
    obtain rfl := Option.some.inj isEntry
    rw [← givenAnalysis_of_represents dedupKey represents, ← present]
    rfl
  · intro known isKnown
    exact producedAt_of_represents represents isKnown

theorem represents_initial : Represents windows .initial .initial where
  now := rfl
  blank _ := rfl
  seen := nofun
  lasts := nofun
  known := nofun
  produced := nofun
  past row member := by simp [ReuseState.initial, Table.empty] at member
  stale _ row member := by simp [ReuseState.initial, Table.empty] at member

end Arrivals

/-! ## Runs -/

instance (windows : DedupWindows) (dedupKey : String) (state : ReuseState) (arrival : Arrival) :
    Decidable (AnswersFresh windows dedupKey state arrival) :=
  inferInstanceAs (Decidable (_ → ∃ produced ∈ producedAt windows dedupKey state arrival, _))

def returningAlert (requestId : String) (named : some requestId ≠ some "") : Arrival where
  after := 50000000
  requestId := some requestId
  payload := sampleSave
  fresh := .analyzed [("summary", .str "disk full")]
  annotations := []
  noise := .null
  named := named
  unmarked := by simp

def shortWindows : DedupWindows :=
  ⟨60, 120⟩

end WebhookReuse

end WebhookWise
