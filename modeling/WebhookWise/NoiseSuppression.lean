import WebhookWise.CommitOrders
import WebhookWise.GuardedRuns
import WebhookWise.NoiseReduction
import WebhookWise.WebhookSaves
import Mathlib.Algebra.Order.Field.Rat

/-!
# Alerts that are withheld as consequences of others

Workers compare their alerts with the stored events, and commit their own later.  An event names the
alert whose consequence it was taken for: one that was completed before the comparison, so that the
names lead back through the commits to an alert that was not withheld.
-/

namespace WebhookWise

open GuardedRuns SqlTable CommitOrders

namespace NoiseSuppression

open WebhookIngest WebhookDedup AlertFinalization NoiseReduction

/-! ## What is stored with an event -/

def noiseReductionOf (analysis : Option JsonObject) : JsonObject :=
  dictOrEmpty (analysis.bind fun entries => PyDict.get? entries "noise_reduction")

/-- `value == text`. -/
def isText (text : String) : Option Json → Bool
  | some (.str found) => found = text
  | _ => false

def isTrue : Option Json → Bool
  | some (.bool value) => value
  | _ => false

def idOf : Option Json → Option Nat
  | some (.int id) => some id.toNat
  | _ => none

def saysDerived (analysis : Option JsonObject) : Bool :=
  isText "derived" (PyDict.get? (noiseReductionOf analysis) "relation") &&
    isTrue (PyDict.get? (noiseReductionOf analysis) "suppress_forward")

/-- The event is stored as suppressed, derived from another. -/
def SuppressedAsDerived (event : WebhookEvent) : Prop :=
  saysDerived event.aiAnalysis = true

/-- `root_cause_event_id` of an event that is suppressed as derived. -/
def suppressedRoot (analysis : Option JsonObject) : Option Nat :=
  if saysDerived analysis then
    idOf (PyDict.get? (noiseReductionOf analysis) "root_cause_event_id")
  else none

def rootOf (events : EventTable) (id : Nat) : Option Nat :=
  (events.lookup id).bind fun event => suppressedRoot event.aiAnalysis

/-! ## The workers -/

variable {Score : Type} [Field Score] [LinearOrder Score]

/-- The settings of the transaction and of the scores, on one Python. -/
structure Settings (Score : Type) where
  finalize : FinalizeSettings
  scores : ScoreRuntime Score
  samePython : scores.toPythonRuntime = finalize.python

inductive Worker where
  | idle
  | analysed (context : ProcessContext) (findings : AlertFindings)

structure System where
  tables : FinalizedTables
  suppressedRecords : List SuppressedRecord
  workers : Nat → Worker
  /-- The events that were completed, in the order of their commits. -/
  completions : List Nat

/-- The ways out of `_resolve_noise_context`.  A comparison comes with its reading; `recorded`
says that the record of a suppression is written. -/
inductive AnalysisPath (Score : Type) where
  | reused
  | silenced
  | compared (reading : NoiseReading Score) (recorded : Bool)

inductive Event (Score : Type) where
  /-- An alert is analysed.  The analysis is stored as the ceiling and the digest of its rule
  leave it. -/
  | analyse (worker : Nat) (context : ProcessContext) (dedup : DedupResult)
      (analysis marked : JsonObject) (path : AnalysisPath Score)
  /-- `finalize_analysis_transaction` of what the worker has found. -/
  | commit (worker : Nat) (readings : FinalizeReadings)
  /-- The attempt ends without a commit. -/
  | abandon (worker : Nat)
  /-- A transaction of the recorders of failed attempts. -/
  | record (attempt : Attempt) (now : DateTime)

variable (settings : Settings Score)

/-- `_resolve_noise_context`, and the record of a suppression. -/
def resolveNoiseContext (context : ProcessContext) (analysis : JsonObject) (events : EventTable) :
    AnalysisPath Score → NoiseFindings × List SuppressedRecord
  | .reused => (standalone "Cache reuse path", [])
  | .silenced => (standalone "Silenced: analysis skipped", [])
  | .compared reading recorded =>
      let noise := computeNoise settings.scores reading context.alertHash context.source
        context.parsedData analysis context.sourceConnectionId events
      (noise, if recorded then
          (suppressedRecord reading.now context.alertHash context.source noise).toList
        else [])

def step (system : System) : Event Score → System
  | .analyse worker context dedup analysis marked path =>
      let (noise, records) :=
        resolveNoiseContext settings context analysis system.tables.events path
      { system with
        suppressedRecords := system.suppressedRecords ++ records
        workers := Function.update system.workers worker
          (.analysed context { dedup, analysis := marked, noise }) }
  | .commit worker readings =>
      match system.workers worker with
      | .idle => system
      | .analysed context findings =>
          let idled := Function.update system.workers worker .idle
          match finalizeAnalysisTransaction settings.finalize context findings readings
            system.tables with
          | some (tables, result) =>
              { system with
                tables := tables
                workers := idled
                completions :=
                  if alreadyCompleted (saveRequest context findings) system.tables.events then
                    system.completions
                  else system.completions ++ [result.saveResult.webhookId] }
          | none => { system with workers := idled }
  | .abandon worker => { system with workers := Function.update system.workers worker .idle }
  | .record attempt now =>
      { system with
        tables := { system.tables with
          events := (recordNext settings.finalize.python now attempt system.tables.events).1 } }

def initial : System where
  tables := ⟨.empty, .empty, .empty⟩
  suppressedRecords := []
  workers := fun _ => .idle
  completions := []

/-! ## What is stored with an event that is completed -/

variable {analysis : JsonObject}

theorem noiseReductionOf_buildFinalAnalysis (findings : AlertFindings) :
    .dict (noiseReductionOf (some (buildFinalAnalysis findings))) =
      NoiseFindings.asDict findings.noise := by
  rw [noiseReductionOf, Option.bind_some, buildFinalAnalysis, PyDict.get?_set, if_pos rfl]
  rfl

theorem suppressed_of_saysDerived {findings : AlertFindings}
    (derived : saysDerived (some (buildFinalAnalysis findings)) = true) :
    findings.noise.suppressForward = true ∧
      suppressedRoot (some (buildFinalAnalysis findings)) = findings.noise.rootCauseEventId := by
  have stored := Json.dict.inj (noiseReductionOf_buildFinalAnalysis findings)
  rw [suppressedRoot, if_pos derived, stored]
  rw [saysDerived, stored, Bool.and_eq_true] at derived
  refine ⟨derived.2, ?_⟩
  cases findings.noise.rootCauseEventId with
  | none | some => simp [PyDict.get?, idOf]

/-- A row whose analysis and alert hash are as they were. -/
def SameAnalysis (old row : WebhookEvent) : Prop :=
  row.id = old.id ∧ row.aiAnalysis = old.aiAnalysis ∧ row.alertHash = old.alertHash

/-- A row that no save has filled. -/
def Unanalysed (row : WebhookEvent) : Prop :=
  row.aiAnalysis = none ∧ row.alertHash = none

theorem SameAnalysis.refl (row : WebhookEvent) : SameAnalysis row row :=
  ⟨rfl, rfl, rfl⟩

theorem SameAnalysis.trans {first second third : WebhookEvent} (early : SameAnalysis first second)
    (late : SameAnalysis second third) : SameAnalysis first third :=
  ⟨late.1.trans early.1, late.2.1.trans early.2.1, late.2.2.trans early.2.2⟩

theorem evolves_recordNext (python : PythonRuntime) (now : DateTime) (attempt : Attempt)
    (events : EventTable) :
    Table.Evolves SameAnalysis Unanalysed events (recordNext python now attempt events).1 := by
  have inserts (data : WebhookEventInput) (plain : data.aiAnalysis = none ∧ data.alertHash = none)
      {after : EventTable} (inserted : insertEvent now data events = some after) :
      Table.Evolves SameAnalysis Unanalysed events after := by
    unfold insertEvent at inserted
    split at inserted
    · cases inserted
    · obtain rfl := Option.some.inj inserted
      exact Table.Evolves.of_insert _ SameAnalysis.refl plain
  have deadLetters (failure : Failure) : Table.Evolves SameAnalysis Unanalysed events
      (updateExistingDeadLetter now attempt.delivery failure events) :=
    Table.Evolves.of_update _ SameAnalysis.refl fun row _ _ => ⟨rfl, rfl, rfl⟩
  have retries (failure : Failure) (nextRetryAt : DateTime) :
      Table.Evolves SameAnalysis Unanalysed events
        (updateExistingRetry now attempt.delivery failure nextRetryAt events) :=
    Table.Evolves.of_update _ SameAnalysis.refl fun row _ _ => ⟨rfl, rfl, rfl⟩
  have stays : Table.Evolves SameAnalysis Unanalysed events events :=
    Table.Evolves.refl SameAnalysis.refl events
  unfold recordNext
  cases attempt.phase with
  | retryInsert | deadLetterInsert =>
      simp only
      split
      · exact inserts _ ⟨rfl, rfl⟩ ‹_›
      · exact stays
  | retryUpdate failure nextRetryAt => exact retries failure nextRetryAt
  | deadLetterUpdate failure | deadLetterReupdate failure => exact deadLetters failure
  | processing | saving | afterSave | scheduling => exact stays

/-- The row of an event that was just completed with an analysis. -/
def Filled (id : Nat) (analysis : JsonObject) (row : WebhookEvent) : Prop :=
  row.id = id ∧ row.aiAnalysis = some analysis

theorem Filled.of_moves {id : Nat} {row moved : WebhookEvent} (filled : Filled id analysis row)
    (moves : SameAnalysis row moved ∨ Filled id analysis moved) : Filled id analysis moved := by
  rcases moves with same | again
  · exact ⟨same.1.trans filled.1, same.2.1.trans filled.2⟩
  · exact again

theorem moves_trans {id : Nat} {first second third : WebhookEvent}
    (early : SameAnalysis first second ∨ Filled id analysis second)
    (late : SameAnalysis second third ∨ Filled id analysis third) :
    SameAnalysis first third ∨ Filled id analysis third := by
  rcases early with same | filled
  · exact late.imp_left same.trans
  · exact Or.inr (filled.of_moves late)

theorem savedEvent_analysis {env : SaveEnvironment} {times : SaveTimes} {request : SaveRequest}
    {events : EventTable} (analysed : request.payload.aiAnalysis = some analysis)
    (notEmpty : analysis ≠ []) :
    (savedEvent env times request events).aiAnalysis = some analysis := by
  have present : presentAnalysis (some analysis) = some analysis := by
    simp [presentAnalysis, notEmpty]
  have forDuplicate (original : WebhookEvent) :
      (analysisForDuplicate (env.prepared request.payload) original).1 = analysis := by
    unfold analysisForDuplicate
    rw [show (env.prepared request.payload).aiAnalysis = some analysis from analysed, present]
  unfold savedEvent savedInput
  cases repeatedEvent (savedStatus env times request events) events with
  | some original =>
      cases existingEvent request events <;> exact congrArg some (forDuplicate original)
  | none => cases existingEvent request events <;> exact analysed

theorem sameAnalysis_of_sameLinks {old row : WebhookEvent} (sameId : row.id = old.id)
    (linked : SameLinks false old row) : SameAnalysis old row := by
  refine ⟨sameId, linked.aiAnalysis_eq, ?_⟩
  rw [linked]

theorem evolves_of_saved {events after : EventTable} {written : WebhookEvent}
    (saved : Saved false events after written) (analysed : written.aiAnalysis = some analysis) :
    Table.Evolves (fun old row => SameAnalysis old row ∨ Filled written.id analysis row)
      (Filled written.id analysis) events after where
  kept old member := by
    by_cases isWritten : old.id = written.id
    · exact ⟨written, saved.stored, isWritten.symm, Or.inr ⟨rfl, analysed⟩⟩
    · obtain ⟨row, rowMember, sameId, linked⟩ := saved.kept old member isWritten
      exact ⟨row, rowMember, sameId, Or.inl (sameAnalysis_of_sameLinks sameId linked)⟩
  origin row member := by
    by_cases isWritten : row.id = written.id
    · obtain rfl := Table.eq_of_key_eq member saved.stored isWritten
      exact Or.inr ⟨rfl, analysed⟩
    · obtain ⟨old, oldMember, sameId, linked⟩ := saved.others row member isWritten
      exact Or.inl ⟨old, oldMember, sameId.symm,
        Or.inl (sameAnalysis_of_sameLinks sameId.symm linked)⟩

theorem sameAnalysis_withForwardStatus (now : DateTime) (status : String) (row : WebhookEvent) :
    SameAnalysis row (withForwardStatus now status row) := by
  unfold withForwardStatus
  split <;> exact ⟨rfl, rfl, rfl⟩

section Commits

variable {finalize : FinalizeSettings} {context : ProcessContext} {findings : AlertFindings}
  {readings : FinalizeReadings} {tables after : FinalizedTables} {result : FinalizeAnalysisResult}

/-- A commit finds its event completed, or it completes it with its findings. -/
theorem finalizeAnalysisTransaction_spec
    (finalized : finalizeAnalysisTransaction finalize context findings readings tables =
      some (after, result)) :
    (alreadyCompleted (saveRequest context findings) tables.events = true ∧
      Table.Evolves SameAnalysis Unanalysed tables.events after.events) ∨
    (alreadyCompleted (saveRequest context findings) tables.events = false ∧
      (∃ row ∈ after.events.rows,
        Filled result.saveResult.webhookId (buildFinalAnalysis findings) row) ∧
      Table.Evolves
        (fun old row => SameAnalysis old row ∨
          Filled result.saveResult.webhookId (buildFinalAnalysis findings) row)
        (Filled result.saveResult.webhookId (buildFinalAnalysis findings))
        tables.events after.events) := by
  unfold finalizeAnalysisTransaction at finalized
  obtain ⟨⟨saved, saveResult⟩, saves, same⟩ := Option.map_eq_some_iff.1 finalized
  have isResult : result.saveResult = saveResult := by
    rw [← (Prod.mk.inj same).2]
  have statusChange : Table.Evolves SameAnalysis (fun _ => False) saved after.events := by
    rw [← (Prod.mk.inj same).1]
    exact Table.Evolves.of_update (withForwardStatus_id _ _) SameAnalysis.refl
      fun row _ _ => sameAnalysis_withForwardStatus _ _ row
  rcases saveWebhookDataInSession_spec saves with ⟨rfl, row, found, completed, _⟩ | ⟨written, isSaved⟩
  · refine Or.inl ⟨?_, statusChange.mono (fun _ _ same => same) fun _ => False.elim⟩
    unfold alreadyCompleted
    rw [found]
    exact decide_eq_true completed
  · have analysed : (savedEvent finalize.saveEnvironment readings.times
        (saveRequest context findings) tables.events).aiAnalysis =
          some (buildFinalAnalysis findings) :=
      savedEvent_analysis rfl (PyDict.set_ne_nil findings.analysis "noise_reduction" _)
    have sameId : result.saveResult.webhookId = (savedEvent finalize.saveEnvironment
        readings.times (saveRequest context findings) tables.events).id := by
      rw [isResult, isSaved]
    refine Or.inr ⟨alreadyCompleted_eq_false written, ?_, ?_⟩
    · obtain ⟨row, member, rowId, same⟩ := statusChange.kept _ written.stored
      exact ⟨row, member, rowId.trans sameId.symm, same.2.1.trans analysed⟩
    · rw [sameId]
      exact (evolves_of_saved written analysed).trans
        (fun _ _ _ => moves_trans) (fun _ _ => Filled.of_moves)
        (statusChange.mono (fun _ _ => Or.inl) fun _ => False.elim)

end Commits

/-! ## The order of the commits -/

/-- What is stored, and what the workers have found, names events that were completed before. -/
structure Sound (system : System) : Prop where
  logged : ∀ row ∈ system.tables.events.rows, row.alertHash.isSome = true →
    row.id ∈ system.completions
  stored : ∀ id ∈ system.completions, ∃ row ∈ system.tables.events.rows, row.id = id
  rooted : ∀ row ∈ system.tables.events.rows, SuppressedAsDerived row →
    ∃ root, suppressedRoot row.aiAnalysis = some root
  pointsBack : PointsBack system.completions (rootOf system.tables.events)
  analysed : ∀ worker context findings, system.workers worker = .analysed context findings →
    findings.noise.suppressForward = true →
      ∃ root ∈ system.completions, findings.noise.rootCauseEventId = some root

theorem rootOf_of_mem {events : EventTable} {row : WebhookEvent} (member : row ∈ events.rows) :
    rootOf events row.id = suppressedRoot row.aiAnalysis := by
  rw [rootOf, Table.mem_rows_iff_lookup.1 member, Option.bind_some]

theorem rootOf_evolves {Filling : WebhookEvent → Prop} {before after : EventTable}
    (evolves : Table.Evolves (fun old row => SameAnalysis old row ∨ Filling row)
      (fun row => Unanalysed row ∨ Filling row) before after)
    {id : Nat} (elsewhere : ∀ row, Filling row → row.id ≠ id) :
    rootOf after id = rootOf before id := by
  unfold rootOf
  cases found : before.lookup id with
  | some old =>
      obtain ⟨row, isRow, same | filled⟩ := evolves.lookup found
      · rw [isRow, Option.bind_some, Option.bind_some, same.2.1]
      · exact absurd (Table.lookup_eq_some_iff.1 isRow).2 (elsewhere row filled)
  | none =>
      cases isRow : after.lookup id with
      | none => rfl
      | some row =>
          obtain ⟨member, sameId⟩ := Table.lookup_eq_some_iff.1 isRow
          rcases evolves.origin row member with ⟨old, oldMember, oldId, _⟩ | unanalysed | filled
          · have present := Table.lookup_eq_some_iff.2 ⟨oldMember, oldId.symm.trans sameId⟩
            rw [found] at present
            cases present
          · rw [Option.bind_some, unanalysed.1]
            rfl
          · exact absurd sameId (elsewhere row filled)

variable {system : System}

theorem Sound.of_unfilled (sound : Sound system) {tables : FinalizedTables}
    (evolves : Table.Evolves SameAnalysis Unanalysed system.tables.events tables.events)
    {workers : Nat → Worker} {records : List SuppressedRecord}
    (analysed : ∀ worker context findings, workers worker = .analysed context findings →
      findings.noise.suppressForward = true →
        ∃ root ∈ system.completions, findings.noise.rootCauseEventId = some root) :
    Sound ⟨tables, records, workers, system.completions⟩ where
  logged := evolves.forall_mem
    (fun old row same logged filled => by
      rw [same.1]
      exact logged (same.2.2 ▸ filled))
    (fun row unanalysed filled => by
      rw [unanalysed.2] at filled
      cases filled)
    sound.logged
  stored id logged := by
    obtain ⟨old, oldMember, rfl⟩ := sound.stored id logged
    obtain ⟨row, member, sameId, _⟩ := evolves.kept old oldMember
    exact ⟨row, member, sameId⟩
  rooted := evolves.forall_mem
    (fun old row same rooted derived => by
      unfold SuppressedAsDerived at derived rooted
      rw [same.2.1] at derived ⊢
      exact rooted derived)
    (fun row unanalysed derived => by
      unfold SuppressedAsDerived at derived
      rw [unanalysed.1] at derived
      cases derived)
    sound.rooted
  pointsBack := sound.pointsBack.congr fun id =>
    rootOf_evolves (evolves.mono (fun _ _ => Or.inl) fun _ => Or.inl)
      (fun _ (nothing : False) => nothing.elim)
  analysed := analysed

theorem Sound.of_filled (sound : Sound system) {tables : FinalizedTables} {fresh : Nat}
    {findings : AlertFindings} (absent : fresh ∉ system.completions)
    (present : ∃ row ∈ tables.events.rows, Filled fresh (buildFinalAnalysis findings) row)
    (evolves : Table.Evolves
      (fun old row => SameAnalysis old row ∨ Filled fresh (buildFinalAnalysis findings) row)
      (Filled fresh (buildFinalAnalysis findings)) system.tables.events tables.events)
    (own : findings.noise.suppressForward = true →
      ∃ root ∈ system.completions, findings.noise.rootCauseEventId = some root)
    {workers : Nat → Worker} {records : List SuppressedRecord}
    (analysed : ∀ worker context findings, workers worker = .analysed context findings →
      findings.noise.suppressForward = true →
        ∃ root ∈ system.completions, findings.noise.rootCauseEventId = some root) :
    Sound ⟨tables, records, workers, system.completions ++ [fresh]⟩ where
  logged := evolves.forall_mem
    (fun old row moves logged filled => by
      rcases moves with same | new
      · rw [same.1]
        exact logged (same.2.2 ▸ filled)
      · rw [new.1]
        exact List.mem_append_right _ (List.mem_singleton_self fresh))
    (fun row new _ => by
      rw [new.1]
      exact List.mem_append_right _ (List.mem_singleton_self fresh))
    fun row member filled => List.mem_append_left _ (sound.logged row member filled)
  stored id logged := by
    rcases List.mem_append.1 logged with earlier | last
    · obtain ⟨old, oldMember, rfl⟩ := sound.stored id earlier
      obtain ⟨row, member, sameId, _⟩ := evolves.kept old oldMember
      exact ⟨row, member, sameId⟩
    · obtain ⟨row, member, new⟩ := present
      exact ⟨row, member, new.1.trans (List.mem_singleton.1 last).symm⟩
  rooted := by
    have ofNew (row : WebhookEvent) (new : Filled fresh (buildFinalAnalysis findings) row)
        (derived : SuppressedAsDerived row) : ∃ root, suppressedRoot row.aiAnalysis = some root := by
      unfold SuppressedAsDerived at derived
      rw [new.2] at derived ⊢
      obtain ⟨suppressed, isRoot⟩ := suppressed_of_saysDerived derived
      obtain ⟨root, _, named⟩ := own suppressed
      exact ⟨root, isRoot.trans named⟩
    refine evolves.forall_mem (fun old row moves rooted derived => ?_) ofNew sound.rooted
    rcases moves with same | new
    · unfold SuppressedAsDerived at derived rooted
      rw [same.2.1] at derived ⊢
      exact rooted derived
    · exact ofNew row new derived
  pointsBack := by
    refine sound.pointsBack.append absent (fun id other => ?_) fun root isRoot => ?_
    · exact rootOf_evolves (evolves.mono (fun _ _ moves => moves) fun _ => Or.inr)
        fun row new same => other (same.symm.trans new.1)
    · obtain ⟨row, member, rfl, analysis⟩ := present
      rw [rootOf_of_mem member, analysis] at isRoot
      have derived : saysDerived (some (buildFinalAnalysis findings)) = true := by
        by_contra plain
        rw [suppressedRoot, if_neg plain] at isRoot
        cases isRoot
      obtain ⟨suppressed, named⟩ := suppressed_of_saysDerived derived
      obtain ⟨cause, logged, isCause⟩ := own suppressed
      rw [named, isCause] at isRoot
      obtain rfl := Option.some.inj isRoot
      exact logged
  analysed worker context findings isAnalysed suppressed := by
    obtain ⟨root, logged, isRoot⟩ := analysed worker context findings isAnalysed suppressed
    exact ⟨root, List.mem_append_left _ logged, isRoot⟩

variable {settings}

theorem resolveNoiseContext_suppressed (sound : Sound system) {context : ProcessContext}
    {path : AnalysisPath Score}
    (suppressed : (resolveNoiseContext settings context analysis system.tables.events
      path).1.suppressForward = true) :
    ∃ root ∈ system.completions,
      (resolveNoiseContext settings context analysis system.tables.events
        path).1.rootCauseEventId = some root := by
  cases path with
  | reused | silenced => exact absurd suppressed (by simp [resolveNoiseContext, standalone])
  | compared reading recorded =>
      obtain ⟨row, member, filled, isRoot⟩ := computeNoise_suppressed suppressed
      exact ⟨row.id, sound.logged row member filled, isRoot⟩

theorem completions_prefix_step (system : System) (event : Event Score) :
    system.completions <+: (step settings system event).completions := by
  cases event with
  | analyse worker context dedup analysis marked path => exact List.prefix_refl _
  | commit worker readings =>
      simp only [step]
      split
      · exact List.prefix_refl _
      · split
        · dsimp only
          split
          · exact List.prefix_refl _
          · exact List.prefix_append _ _
        · exact List.prefix_refl _
  | abandon | record => exact List.prefix_refl _

theorem Sound.analysed_update (sound : Sound system) (worker : Nat) (state : Worker)
    (own : ∀ context findings, state = .analysed context findings →
      findings.noise.suppressForward = true →
        ∃ root ∈ system.completions, findings.noise.rootCauseEventId = some root) :
    ∀ other context findings,
      Function.update system.workers worker state other = .analysed context findings →
      findings.noise.suppressForward = true →
        ∃ root ∈ system.completions, findings.noise.rootCauseEventId = some root := by
  intro other context findings isAnalysed suppressed
  by_cases isWorker : other = worker
  · subst isWorker
    rw [Function.update_self] at isAnalysed
    exact own context findings isAnalysed suppressed
  · rw [Function.update_of_ne isWorker] at isAnalysed
    exact sound.analysed other context findings isAnalysed suppressed

theorem Sound.step (sound : Sound system) (event : Event Score)
    (once : (step settings system event).completions.Nodup) :
    Sound (step settings system event) := by
  have stays : Table.Evolves SameAnalysis Unanalysed system.tables.events system.tables.events :=
    Table.Evolves.refl SameAnalysis.refl system.tables.events
  have idles (worker : Nat) := sound.analysed_update worker .idle fun _ _ nothing => by
    cases nothing
  cases event with
  | analyse worker context dedup analysis marked path =>
      refine sound.of_unfilled stays (sound.analysed_update worker _ ?_)
      intro _ findings isState suppressed
      obtain ⟨rfl, rfl⟩ := Worker.analysed.inj isState
      exact resolveNoiseContext_suppressed sound suppressed
  | commit worker readings =>
      cases state : system.workers worker with
      | idle =>
          simp only [NoiseSuppression.step, state]
          exact sound
      | analysed context findings =>
          cases finalized : finalizeAnalysisTransaction settings.finalize context findings readings
              system.tables with
          | none =>
              simp only [NoiseSuppression.step, state, finalized]
              exact sound.of_unfilled stays (idles worker)
          | some outcome =>
              obtain ⟨tables, result⟩ := outcome
              simp only [NoiseSuppression.step, state, finalized] at once ⊢
              rcases finalizeAnalysisTransaction_spec finalized with
                ⟨completed, evolves⟩ | ⟨notCompleted, present, evolves⟩
              · rw [if_pos completed]
                exact sound.of_unfilled evolves (idles worker)
              · rw [if_neg (by rw [notCompleted]; exact Bool.false_ne_true)] at once ⊢
                have absent : result.saveResult.webhookId ∉ system.completions := by
                  intro logged
                  exact List.disjoint_of_nodup_append once logged (List.mem_singleton_self _)
                exact sound.of_filled absent present evolves
                  (sound.analysed worker context findings state) (idles worker)
  | abandon worker => exact sound.of_unfilled stays (idles worker)
  | record attempt now =>
      exact sound.of_unfilled (evolves_recordNext _ now attempt _) sound.analysed

/-! ## Chains of root causes -/

theorem sound_initial : Sound initial where
  logged row member := by cases member
  stored id logged := by cases logged
  rooted row member := by cases member
  pointsBack := pointsBack_nil fun _ => rfl
  analysed worker context findings isAnalysed := by cases isAnalysed

theorem sound_run {events : List (Event Score)}
    (once : (run (step settings) initial events).completions.Nodup) :
    Sound (run (step settings) initial events) := by
  refine run_invariant (fun state => state.completions.Nodup → Sound state)
    (fun _ => sound_initial) (fun state event sound once => ?_) events once
  exact (sound (once.sublist (completions_prefix_step state event).sublist)).step event once

/-- From every stored event the root causes lead, one after the other, to an event that is not
suppressed as derived, and no two events are suppressed as derived from each other. -/
def NeverMutesAGroup (events : EventTable) : Prop :=
  (∀ event ∈ events.rows, ∃ last ∈ events.rows, ¬ SuppressedAsDerived last ∧
    Relation.ReflTransGen (RefersTo (rootOf events)) event.id last.id) ∧
  ∀ first second, rootOf events first = some second → rootOf events second ≠ some first

theorem Sound.neverMutesAGroup (sound : Sound system) : NeverMutesAGroup system.tables.events := by
  have free {row : WebhookEvent} (member : row ∈ system.tables.events.rows)
      (rootless : rootOf system.tables.events row.id = none) : ¬ SuppressedAsDerived row := by
    intro derived
    obtain ⟨root, isRoot⟩ := sound.rooted row member derived
    rw [rootOf_of_mem member, isRoot] at rootless
    cases rootless
  constructor
  · intro event member
    cases root : rootOf system.tables.events event.id with
    | none => exact ⟨event, member, free member root, .refl⟩
    | some earlier =>
        have logged := (sound.pointsBack event.id earlier root).1
        obtain ⟨last, lastLogged, rootless, path⟩ := sound.pointsBack.exists_end logged
        obtain ⟨row, rowMember, rfl⟩ := sound.stored last lastLogged
        exact ⟨row, rowMember, free rowMember rootless, path⟩
  · intro first second refers back
    exact sound.pointsBack.acyclic first (.tail (.single refers) back)

/-- For every policy, every scoring and every interleaving of the workers in which each event is
completed once, noise reduction never mutes a whole group of alerts. -/
theorem noise_never_mutes_a_group (settings : Settings Score) (events : List (Event Score))
    (once : (run (step settings) initial events).completions.Nodup) :
    NeverMutesAGroup (run (step settings) initial events).tables.events :=
  (sound_run once).neverMutesAGroup

/-! ## A database behind a full disk -/

def sampleSettings : Settings ℚ where
  finalize := AlertFinalization.sampleSettings
  scores :=
    { toPythonRuntime := AlertFinalization.sampleSettings.python
      floatValue := fun _ => 0
      sqrt := fun score => score
      roundFour := fun _ => "0.9"
      formatTwo := fun _ => "0.90" }
  samePython := rfl

def samplePolicy : NoiseReductionPolicy ℚ where
  enabled := true
  windowMinutes := 5
  rootCauseMinConfidence := 13 / 20
  suppressDerivedForward := true
  scoringConfig := ⟨3 / 20, 9 / 20, 1 / 4, 1 / 10, 1 / 5, 3 / 100, 7 / 20⟩

def hostContext (name : String) : ProcessContext :=
  { sampleContext name with
    parsedData := [("host", .str "db-1"), ("alert_name", .str name)]
    alertHash := name
    dedupKey := name }

def comparison (now : DateTime) : AnalysisPath ℚ :=
  .compared ⟨samplePolicy, now, id, true⟩ true

/-- Two workers compare their alerts and commit them, the second after the first has. -/
def derivedRun : List (Event ℚ) :=
  [.analyse 0 (hostContext "disk") sampleFindings.dedup sampleFindings.analysis
      sampleFindings.analysis (comparison 0),
    .commit 0 (sampleReadings [] 0),
    .analyse 1 (hostContext "query") sampleFindings.dedup sampleFindings.analysis
      sampleFindings.analysis (comparison 1000000),
    .commit 1 (sampleReadings [] 1000000)]

theorem derivedRun_names_the_disk :
    rootOf (run (step sampleSettings) initial derivedRun).tables.events 2 = some 1 ∧
      NeverMutesAGroup (run (step sampleSettings) initial derivedRun).tables.events :=
  ⟨by decide +kernel, noise_never_mutes_a_group sampleSettings derivedRun (by decide +kernel)⟩

end NoiseSuppression

end WebhookWise
