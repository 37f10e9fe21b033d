import WebhookWise.DeepAnalysisPolls

/-!
# The life of a deep-analysis record

A record is created for a run submitted to a gateway; polls and operator retries act on it, and
others may come between the steps of a poll.  Beside the row and its stability key the state keeps
the token map and the answers of the run, and every completion stored.
-/

namespace WebhookWise

open DeepAnalysisPolls

namespace DeepAnalysisRuns

inductive PollPhase where
  | claimed
  | answered (reply : PollReply) (stability : Option PollStability)
  | decided (result : PollResult)

/-- A poll on its way, with the row as it was claimed. -/
structure InFlightPoll where
  record : DeepAnalysis
  policy : DeepAnalysisPollPolicy
  phase : PollPhase

/-- The run that is being collected: the tokens its prompt was masked with, and the texts
the gateway has returned for it. -/
structure GatewayRun where
  pseudonymMap : Option JsonObject
  texts : List String

/-- A result that a poll has stored with the status COMPLETED. -/
structure Completion where
  run : GatewayRun
  runId : String
  result : JsonObject

structure RecordState where
  record : DeepAnalysis
  stability : Option PollStability
  inFlight : List InFlightPoll
  run : GatewayRun
  completions : List Completion

/-! ## Submissions -/

/-- `result.get("pseudonym_map")`, where that is a dict. -/
def submittedMap (result : JsonObject) : Option JsonObject :=
  match result.get? "pseudonym_map" with
  | some (.dict entries) => some entries
  | _ => none

def isPendingResult (result : JsonObject) : Bool :=
  result.truthyAt "_pending"

def newRun (result : JsonObject) : GatewayRun :=
  ⟨submittedMap result, []⟩

inductive RecordSource where
  /-- The follow-up of an outbox row that was delivered to a gateway. -/
  | outbox
  /-- `POST /deep-analyze/{webhook_id}`. -/
  | manual
deriving DecidableEq

/-- What a new record is made of: the result of the submission, and who answered. -/
structure Submission where
  id : Nat
  webhookEventId : Nat
  engine : String
  gatewayName : String
  promptVersion : String
  result : JsonObject
  createdAt : DateTime
  nextPollAt : DateTime

variable (env : PollEnvironment)

/-- The record of a submission.  The manual request keeps the whole result and does not
set the column for the pseudonym map. -/
def newRecord (source : RecordSource) (submission : Submission) : DeepAnalysis :=
  let isPending := source = .outbox ∨ isPendingResult submission.result = true
  { id := submission.id
    webhookEventId := submission.webhookEventId
    engine := submission.engine
    gatewayName := submission.gatewayName
    gatewayRunId := some (submission.result.strAt env.python "_gateway_run_id" "")
    gatewaySessionKey := some (submission.result.strAt env.python "_gateway_session_key" "")
    promptVersion := submission.promptVersion
    pseudonymMap :=
      match source with
      | .outbox => submittedMap submission.result
      | .manual => none
    status := if isPending then .pending else .completed
    analysisResult :=
      match source with
      | .outbox => none
      | .manual => some submission.result
    durationSeconds := 0
    pollAttempts := 0
    nextPollAt := if isPending then some submission.nextPollAt else none
    lastPolledAt := none
    createdAt := some submission.createdAt }

def initial (source : RecordSource) (submission : Submission) : RecordState where
  record := newRecord env source submission
  stability := none
  inFlight := []
  run := newRun submission.result
  completions := []

/-! ## Retries -/

/-- What `run_deep_analysis` returns for a retry. -/
structure AnalysisReply where
  result : JsonObject
  engine : String
  gatewayName : String

/-- A retry of a record that has a session: `reset_deep_analysis_for_background_poll`. -/
def resetForBackgroundPoll (now : DateTime) (record : DeepAnalysis) : DeepAnalysis :=
  { record with
    status := .pending
    analysisResult := some [("_manual_retry_started_at", .str now.utcIsoformat)]
    durationSeconds := 0
    pollAttempts := 0
    lastPolledAt := none
    nextPollAt := some now }

def resubmitted (now : DateTime) (pollDelay : Int) (reply : AnalysisReply) (record : DeepAnalysis) :
    DeepAnalysis :=
  { record with
    status := .pending
    analysisResult := some (PyDict.set reply.result "_manual_retry_started_at" (.str now.utcIsoformat))
    gatewayRunId := some (reply.result.strAt env.python "_gateway_run_id" "")
    gatewaySessionKey := some (reply.result.strAt env.python "_gateway_session_key" "")
    gatewayName := reply.gatewayName
    durationSeconds := 0
    pollAttempts := 0
    lastPolledAt := none
    nextPollAt := some (now.addSeconds pollDelay) }

def answeredAtOnce (reply : AnalysisReply) (record : DeepAnalysis) : DeepAnalysis :=
  { record with
    status := .completed
    engine := reply.engine
    analysisResult := some reply.result
    durationSeconds := 0 }

/-! ## Steps -/

inductive RecordEvent where
  /-- `_claim_deep_analysis_poll`. -/
  | claim (now : DateTime) (policy : DeepAnalysisPollPolicy)
  /-- The poll at this index gives up early, or gets this reply and reads the stability
  key if it needs it. -/
  | fetch (index : Nat) (now : DateTime) (reply : PollReply)
  /-- The poll at this index handles its reply. -/
  | decide (index : Nat) (now : DateTime)
  /-- The last transaction of the poll at this index. -/
  | store (index : Nat) (now : DateTime)
  /-- `retry_deep_analysis_record`.  A record without a session is submitted again; there
  is no reply when that fails. -/
  | retry (now : DateTime) (pollDelay : Int) (reply : Option AnalysisReply)
  /-- The stability key expires, or is deleted after a retry. -/
  | stabilityLost

def replyText : PollReply → Option String
  | .completed text _ _ => some text
  | _ => none

def completionOf (run : GatewayRun) (record : DeepAnalysis) : PollResult → List Completion
  | .update fields =>
      if record.status = .pending ∧ fields.status = .completed then
        [⟨run, record.gatewayRunId.getD "", fields.analysisResult⟩]
      else []
  | .skip => []

/-- `retry_deep_analysis_record`; every status may be retried. -/
def retry (now : DateTime) (pollDelay : Int) (reply : Option AnalysisReply) (state : RecordState) :
    RecordState :=
  if lacksSessionKey state.record then
    match reply with
    | none => state
    | some reply =>
        if isPendingResult reply.result then
          { state with
            record := resubmitted env now pollDelay reply state.record
            run := newRun reply.result }
        else { state with record := answeredAtOnce reply state.record }
  else { state with record := resetForBackgroundPoll now state.record }

def step (state : RecordState) (event : RecordEvent) : RecordState :=
  match event with
  | .claim now policy =>
      if isPollable now state.record then
        let record := pollClaimed policy now state.record
        { state with
          record := record
          inFlight := state.inFlight ++ [⟨record, policy, .claimed⟩] }
      else state
  | .fetch index now reply =>
      match state.inFlight[index]? with
      | some ⟨record, policy, .claimed⟩ =>
          match handleBeforeFetch env policy now record with
          | some (result, write) =>
              { state with
                stability := write.apply state.stability
                inFlight := state.inFlight.set index ⟨record, policy, .decided result⟩ }
          | none =>
              { state with
                inFlight :=
                  state.inFlight.set index ⟨record, policy, .answered reply state.stability⟩
                run := { state.run with texts := state.run.texts ++ (replyText reply).toList } }
      | _ => state
  | .decide index now =>
      match state.inFlight[index]? with
      | some ⟨record, policy, .answered reply stability⟩ =>
          let (result, write) := handlePollResult env policy now record stability reply
          { state with
            stability := write.apply state.stability
            inFlight := state.inFlight.set index ⟨record, policy, .decided result⟩ }
      | _ => state
  | .store index now =>
      match state.inFlight[index]? with
      | some ⟨record, policy, .decided result⟩ =>
          { state with
            record :=
              match result with
              | .skip => scheduleNextPoll env policy now record state.record
              | .update fields => storePollUpdate fields state.record
            inFlight := state.inFlight.eraseIdx index
            completions := state.completions ++ completionOf state.run state.record result }
      | _ => state
  | .retry now pollDelay reply => retry env now pollDelay reply state
  | .stabilityLost => { state with stability := none }

/-- The stored result is built from a text the gateway returned for the run, with every
token of the run replaced by its real value. -/
def IsUnmasked (completion : Completion) : Prop :=
  ∃ text ∈ completion.run.texts,
    completion.result = buildAnalysisResultFromGatewayText env
      (unmasked env completion.run.pseudonymMap text) completion.runId

end DeepAnalysisRuns

end WebhookWise
