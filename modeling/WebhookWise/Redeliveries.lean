import WebhookWise.AlertFinalization

/-!
# Another delivery of a request that is completed

A save recognizes a request and writes nothing, but the stages after it decide the alert again: the
status is set, a trace added, and records are filed.  Another delivery changes nothing where it
never comes to the transaction, or its trace is lost and its decision finds everything in place.
-/

namespace WebhookWise

open SqlTable

/-! ## Filing records again -/

namespace ForwardOutboxRecords

section Filing

variable (python : PythonRuntime) (now : DateTime) (policy : ForwardDeliveryPolicy)
  (request : OutboxRequest) (window : Option (DateTime × DateTime)) (excluded : Bool)

theorem mem_foldl_tableAfterRule {table : OutboxTable} {row : ForwardOutbox}
    (member : row ∈ table.rows) (rules : List ForwardRuleSnapshot) :
    row ∈ (rules.foldl (tableAfterRule python now policy request window excluded) table).rows := by
  induction rules generalizing table with
  | nil => exact member
  | cons rule rules ih =>
      apply ih
      rw [tableAfterRule_eq]
      split
      · exact Table.mem_insert.2 (Or.inl member)
      · exact member

theorem creates_nothing_iff (table : OutboxTable) (rules : List ForwardRuleSnapshot) :
    (∀ row ∈ (fileRules python now policy request window excluded table rules).1.rows,
        row ∈ table.rows) ↔
      ∀ rule ∈ rules, filesRow python now policy request window excluded table rule = false := by
  rw [fileRules_table]
  induction rules with
  | nil => simp
  | cons rule rules ih =>
      rw [List.foldl_cons, List.forall_mem_cons]
      cases files : filesRow python now policy request window excluded table rule with
      | false =>
          have unchanged : tableAfterRule python now policy request window excluded table rule =
              table := by
            rw [tableAfterRule_eq, files]
            rfl
          rw [unchanged, ih]
          exact (and_iff_right rfl).symm
      | true =>
          have filed : tableAfterRule python now policy request window excluded table rule =
              table.insert (newRecord python now policy request window rule) fun _ => rfl := by
            rw [tableAfterRule_eq, files]
            rfl
          constructor
          · intro old
            have inserted : newRecord python now policy request window rule table.nextKey ∈
                (tableAfterRule python now policy request window excluded table rule).rows := by
              rw [filed]
              exact Table.mem_insert.2 (Or.inr rfl)
            have known := table.keys_lt _ (old _ (mem_foldl_tableAfterRule python now policy
              request window excluded inserted rules))
            exact absurd known (lt_irrefl _)
          · rintro ⟨idle, -⟩
            cases idle

end Filing

end ForwardOutboxRecords

namespace Redeliveries

open WebhookIngest AlertFinalization ForwardOutboxRecords

def traceCount (tables : FinalizedTables) (eventId : Nat) : Nat :=
  tables.traces.rows.countP fun trace => trace.webhookEventId = eventId

/-- A delivery leaves the event, every count of duplicates and the number of traces as they
were, and creates no outbox row. -/
structure NoOp (eventId : Nat) (before after : FinalizedTables) : Prop where
  event : after.events.lookup eventId = before.events.lookup eventId
  duplicateCounts : after.events.rows.map (fun event => (event.id, event.duplicateCount)) =
    before.events.rows.map fun event => (event.id, event.duplicateCount)
  traces : traceCount after eventId = traceCount before eventId
  outbox : ∀ row ∈ after.outbox.rows, row ∈ before.outbox.rows

theorem NoOp.refl (eventId : Nat) (tables : FinalizedTables) : NoOp eventId tables tables :=
  ⟨rfl, rfl, rfl, fun _ member => member⟩

section Redelivery

variable (settings : FinalizeSettings) (context : ProcessContext) (findings : AlertFindings)
  (readings : FinalizeReadings) (tables : FinalizedTables)

def filesAgain (event : WebhookEvent) (decision : ForwardDecision) (rule : ForwardRuleSnapshot) :
    Bool :=
  let delivery := deliveryOf readings event.id event.duplicateOf decision
  let request := InboundRules.outboxRequest settings.runtime readings.inboundRules
    context.inboundAlert (some (buildFinalAnalysis findings)) delivery
  filesRow settings.python readings.now readings.deliveryPolicy request
    (digestWindow settings.python readings.now request)
    (aiExcluded settings.python request delivery.matchedRules) tables.outbox rule

/-- The delivery is stopped before the transaction. -/
def StoppedAtGate (gate : GateResult) : Prop :=
  gate ≠ .admitted false

def redecided (event : WebhookEvent) : ForwardDecision :=
  resolveForwardDecision settings context findings readings tables.events event.isDuplicate
    event.duplicateOf

/-- The trace is lost, and everything that the decision asks for is in place. -/
structure InPlace (event : WebhookEvent) : Prop where
  untraced : readings.traceWritten = false
  status : event.forwardStatus =
    some (forwardStatusOf (redecided settings context findings readings tables event))
  filed : (redecided settings context findings readings tables event).shouldForward = true →
    ∀ rule ∈ (redecided settings context findings readings tables event).matchedRules,
      filesAgain settings context findings readings tables event
        (redecided settings context findings readings tables event)
        rule.toForwardRuleSnapshot = false

variable {settings context findings readings tables} {event : WebhookEvent}

theorem finalizeAnalysisTransaction_of_completed
    (found : findByRequestId tables.events context.requestId = some event)
    (completed : event.processingStatus = .completed) :
    finalizeAnalysisTransaction settings context findings readings tables =
      some (afterSave settings context findings readings tables
        ⟨event.id, event.isDuplicate, event.duplicateOf⟩) := by
  have recognized : (findByRequestId tables.events context.requestId).filter
      (fun row => row.processingStatus = .completed) = some event := by
    rw [found]
    exact Option.filter_eq_some_iff.2 ⟨rfl, decide_eq_true completed⟩
  unfold finalizeAnalysisTransaction saveWebhookDataInSession
  dsimp only [saveRequest]
  rw [recognized]
  rfl

theorem mem_of_findByRequestId {events : EventTable} {requestId : Option String}
    (found : findByRequestId events requestId = some event) : event ∈ events.rows := by
  unfold findByRequestId at found
  split at found
  · exact List.mem_of_find?_eq_some found
  · cases found

theorem countP_insert (traces : TraceTable) (build : Nat → DecisionTrace)
    (keyed : ∀ id, (build id).id = id) {eventId : Nat}
    (own : ∀ id, (build id).webhookEventId = eventId) :
    (traces.insert build keyed).rows.countP (fun trace => trace.webhookEventId = eventId) =
      traces.rows.countP (fun trace => trace.webhookEventId = eventId) + 1 := by
  change (traces.rows ++ [build traces.nextKey]).countP _ = _
  rw [List.countP_append]
  simp [own]

theorem traceCount_afterSave (saved : SaveWebhookResult) :
    traceCount (afterSave settings context findings readings tables saved).1 saved.webhookId =
      traceCount tables saved.webhookId + if readings.traceWritten then 1 else 0 := by
  unfold traceCount afterSave
  dsimp only
  cases readings.traceWritten with
  | true => exact countP_insert _ _ (fun _ => rfl) fun _ => rfl
  | false => rfl

theorem lookup_withForwardStatus {events : EventTable} (member : event ∈ events.rows)
    (now : DateTime) (status : String) :
    (events.update (fun row => row.id = event.id) (withForwardStatus now status)
        (withForwardStatus_id now status)).lookup event.id =
      some (withForwardStatus now status event) := by
  rw [Table.lookup_update, Table.mem_rows_iff_lookup.1 member]
  simp

theorem withForwardStatus_eq_self_iff (now : DateTime) (status : String) :
    withForwardStatus now status event = event ↔ event.forwardStatus = some status := by
  constructor
  · intro same
    by_contra other
    rw [withForwardStatus, if_neg other] at same
    exact other (congrArg WebhookEvent.forwardStatus same).symm
  · intro same
    rw [withForwardStatus, if_pos same]

theorem duplicateCount_withForwardStatus (now : DateTime) (status : String)
    (row : WebhookEvent) :
    (withForwardStatus now status row).duplicateCount = row.duplicateCount := by
  unfold withForwardStatus
  split <;> rfl

theorem creates_nothing_resolveAndForward_iff (decision : ForwardDecision) :
    (∀ row ∈ (resolveAndForward settings context findings readings event.id event.duplicateOf
        decision tables.outbox).1.rows, row ∈ tables.outbox.rows) ↔
      (decision.shouldForward = true → ∀ rule ∈ decision.matchedRules,
        filesAgain settings context findings readings tables event decision
          rule.toForwardRuleSnapshot = false) := by
  unfold resolveAndForward
  cases forwards : decision.shouldForward with
  | false => simp
  | true =>
      rw [if_pos rfl]
      unfold createOutboxRecords
      rw [creates_nothing_iff]
      constructor
      · intro none _ rule member
        exact none _ (List.mem_map_of_mem member)
      · intro none rule member
        obtain ⟨route, routeMember, rfl⟩ := List.mem_map.1 member
        exact none rfl route routeMember

theorem afterSave_noOp_iff (member : event ∈ tables.events.rows) :
    NoOp event.id tables (afterSave settings context findings readings tables
        ⟨event.id, event.isDuplicate, event.duplicateOf⟩).1 ↔
      InPlace settings context findings readings tables event := by
  have looked := lookup_withForwardStatus member readings.now
    (forwardStatusOf (redecided settings context findings readings tables event))
  have current := Table.mem_rows_iff_lookup.1 member
  constructor
  · intro noOp
    refine ⟨?_, ?_, ?_⟩
    · by_contra traced
      have written : readings.traceWritten = true := Bool.of_not_eq_false traced
      have counted := (@traceCount_afterSave settings context findings readings tables
        ⟨event.id, event.isDuplicate, event.duplicateOf⟩).symm.trans noOp.traces
      rw [written, if_pos rfl] at counted
      exact absurd counted (Nat.succ_ne_self _)
    · have unchanged := noOp.event
      rw [current] at unchanged
      exact (withForwardStatus_eq_self_iff _ _).1
        (Option.some.inj (looked.symm.trans unchanged))
    · exact (creates_nothing_resolveAndForward_iff _).1 noOp.outbox
  · intro inPlace
    refine ⟨?_, ?_, ?_, ?_⟩
    · rw [current]
      exact looked.trans
        (congrArg some ((withForwardStatus_eq_self_iff _ _).2 inPlace.status))
    · change (tables.events.rows.map _).map _ = _
      rw [List.map_map]
      apply List.map_congr_left
      intro row _
      simp only [Function.comp_apply]
      split
      · rw [withForwardStatus_id, duplicateCount_withForwardStatus]
      · rfl
    · have counted := @traceCount_afterSave settings context findings readings tables
        ⟨event.id, event.isDuplicate, event.duplicateOf⟩
      rw [inPlace.untraced] at counted
      exact counted
    · exact (creates_nothing_resolveAndForward_iff _).2 inPlace.filed

/-- Another delivery of a completed request changes nothing exactly when it is stopped
before the transaction, or its trace is lost and the rest is in place. -/
theorem redelivery_noOp_iff (settings : FinalizeSettings) (context : ProcessContext)
    (findings : AlertFindings) (readings : FinalizeReadings) (gate : GateResult)
    (tables : FinalizedTables) (event : WebhookEvent)
    (found : findByRequestId tables.events context.requestId = some event)
    (completed : event.processingStatus = .completed) :
    NoOp event.id tables
        (runProcessingPipeline settings context findings readings gate tables).1 ↔
      StoppedAtGate gate ∨ InPlace settings context findings readings tables event := by
  unfold StoppedAtGate
  cases gate with
  | suppressed reason =>
      exact iff_of_true (NoOp.refl _ _) (Or.inl (nomatch ·))
  | admitted lockLost =>
      cases lockLost with
      | true => exact iff_of_true (NoOp.refl _ _) (Or.inl (nomatch ·))
      | false =>
          rw [or_iff_right (not_not_intro rfl), ← afterSave_noOp_iff (mem_of_findByRequestId found)]
          unfold runProcessingPipeline
          rw [finalizeAnalysisTransaction_of_completed found completed]

end Redelivery

/-! ## An alert that is delivered twice -/

private def deliver (tables : FinalizedTables) : FinalizedTables :=
  (runProcessingPipeline sampleSettings (sampleContext "delivery-7") sampleFindings
    (sampleReadings [] 0) (.admitted false) tables).1

private theorem isSome_completed : ((findByRequestId (deliver ⟨.empty, .empty, .empty⟩).events
    (some "delivery-7")).filter fun event => event.processingStatus = .completed).isSome = true := by
  decide

theorem redelivery_noOp_iff_second : ∃ event,
    (NoOp event.id (deliver ⟨.empty, .empty, .empty⟩)
        (deliver (deliver ⟨.empty, .empty, .empty⟩)) ↔
      StoppedAtGate (.admitted false) ∨
        InPlace sampleSettings (sampleContext "delivery-7") sampleFindings (sampleReadings [] 0)
          (deliver ⟨.empty, .empty, .empty⟩) event) := by
  obtain ⟨event, found⟩ := Option.isSome_iff_exists.1 isSome_completed
  obtain ⟨foundEvent, completed⟩ := Option.filter_eq_some_iff.1 found
  exact ⟨event, redelivery_noOp_iff sampleSettings (sampleContext "delivery-7") sampleFindings
    (sampleReadings [] 0) (.admitted false) _ event foundEvent (of_decide_eq_true completed)⟩

/-- The request is completed by its first delivery, and traced again by its second. -/
theorem second_delivery_traces_again :
    ((findByRequestId (deliver ⟨.empty, .empty, .empty⟩).events (some "delivery-7")).map
        fun event => (event.id, event.processingStatus)) = some (1, .completed) ∧
      ¬ NoOp 1 (deliver ⟨.empty, .empty, .empty⟩) (deliver (deliver ⟨.empty, .empty, .empty⟩)) := by
  refine ⟨by decide, fun noOp => ?_⟩
  exact absurd noOp.traces (by decide)

end Redeliveries

end WebhookWise
