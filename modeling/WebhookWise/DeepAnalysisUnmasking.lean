import WebhookWise.DeepAnalysisPollGateways
import WebhookWise.DeepAnalysisRuns
import WebhookWise.GuardedRuns

/-!
# Completed analyses are unmasked

A poll unmasks a completed text with the token map in the column of the row it claimed.  That is the
map of the run only if every submission fills the column and no completion empties it while answers
are still collected; and a degraded completion does not unmask at all.
-/

namespace WebhookWise

open DeepAnalysisPolls

namespace DeepAnalysisRuns

variable (env : PollEnvironment)

/-- Two columns hold the same tokens; an empty map and none do. -/
def SameTokens (first second : Option JsonObject) : Prop :=
  pseudonymMapping env first = pseudonymMapping env second

instance (first second : Option JsonObject) : Decidable (SameTokens env first second) :=
  inferInstanceAs (Decidable (_ = _))

/-- Handling its reply, the poll completes the record with the first text it remembers. -/
def DegradesTo (poll : InFlightPoll) (text : String) : Prop :=
  ∃ message retryable previous,
    poll.phase = .answered (.error message retryable) (some previous) ∧
      previous.firstResult = some text ∧ degrades poll.policy previous = true

/-- The event keeps the identifiers of the run: the column holds the tokens of the run
that a retry goes on collecting or starts, and the text of a degraded completion holds no
token of the run. -/
def KeepsIdentifiers (state : RecordState) : RecordEvent → Prop
  | .decide index _ => ∀ poll ∈ state.inFlight[index]?, ∀ text, DegradesTo poll text →
      unmasked env state.run.pseudonymMap text = text
  | .retry _ _ reply =>
      if lacksSessionKey state.record then
        ∀ reply' ∈ reply, isPendingResult reply'.result = true →
          SameTokens env state.record.pseudonymMap (submittedMap reply'.result)
      else SameTokens env state.record.pseudonymMap state.run.pseudonymMap
  | _ => True

/-! ## The invariant -/

variable {runId : String}

/-- A remembered first text is a text of the run. -/
def Remembers (texts : List String) (stability : Option PollStability) : Prop :=
  ∀ previous text, stability = some previous → previous.firstResult = some text → text ∈ texts

/-- A result ends the run, and one that completes the record is built from an unmasked
text of the run. -/
def ResultUnmasked (run : GatewayRun) (runId : String) (result : PollResult) : Prop :=
  ∀ fields, result = .update fields → fields.status ≠ .pending ∧
    (fields.status = .completed → IsUnmasked env ⟨run, runId, fields.analysisResult⟩)

/-- What is known of a poll in its phase.  Without a session it asks no gateway and
completes nothing. -/
def PhaseSound (run : GatewayRun) (runId : String) (hasSession : Bool) : PollPhase → Prop
  | .claimed => True
  | .answered reply stability =>
      hasSession = true ∧ (∀ text, replyText reply = some text → text ∈ run.texts) ∧
        Remembers run.texts stability
  | .decided result =>
      ResultUnmasked env run runId result ∧
        (hasSession = false → ∀ fields, result = .update fields → fields.status ≠ .completed)

/-- What is known of a poll on its way: with a session, it collects the current run and
has its tokens. -/
structure PollSound (record : DeepAnalysis) (run : GatewayRun) (poll : InFlightPoll) : Prop where
  phase : PhaseSound env run (record.gatewayRunId.getD "") (!lacksSessionKey poll.record) poll.phase
  submitted : lacksSessionKey poll.record = false → lacksSessionKey record = false ∧
    poll.record.gatewayRunId.getD "" = record.gatewayRunId.getD "" ∧
      SameTokens env poll.record.pseudonymMap run.pseudonymMap

/-- The invariant of the life of a record. -/
structure Collecting (state : RecordState) : Prop where
  tokens : state.record.status = .pending →
    SameTokens env state.record.pseudonymMap state.run.pseudonymMap
  polls : ∀ poll ∈ state.inFlight, PollSound env state.record state.run poll
  remembers : Remembers state.run.texts state.stability
  unsubmitted : lacksSessionKey state.record = true → state.stability = none
  completions : ∀ completion ∈ state.completions, IsUnmasked env completion

variable {env}

theorem unmasked_congr {first second : Option JsonObject} (same : SameTokens env first second)
    (text : String) : unmasked env first text = unmasked env second text := by
  unfold unmasked
  rw [same]

theorem remembers_none (texts : List String) : Remembers texts none := by
  simp [Remembers]

theorem Remembers.mono {texts more : List String} {stability : Option PollStability}
    (remembers : Remembers texts stability) : Remembers (texts ++ more) stability :=
  fun previous text found first => List.mem_append_left _ (remembers previous text found first)

theorem IsUnmasked.mono {run : GatewayRun} {result : JsonObject} (more : List String)
    (unmasked : IsUnmasked env ⟨run, runId, result⟩) :
    IsUnmasked env ⟨{ run with texts := run.texts ++ more }, runId, result⟩ := by
  obtain ⟨text, member, built⟩ := unmasked
  exact ⟨text, List.mem_append_left _ member, built⟩

/-! ## Handling a reply -/

variable {write : StabilityWrite}

section Handling

variable {policy : DeepAnalysisPollPolicy} {now : DateTime} {record : DeepAnalysis}
  {run : GatewayRun} {stability : Option PollStability}

/-- What is handled soundly: the result is unmasked, and what is stored is remembered. -/
def Handled (env : PollEnvironment) (run : GatewayRun) (runId : String)
    (handled : PollResult × StabilityWrite) : Prop :=
  ResultUnmasked env run runId handled.1 ∧
    ∀ stored, handled.2 = .stored stored → Remembers run.texts (some stored)

private theorem handled_skip
    (stores : ∀ stored, write = .stored stored → Remembers run.texts (some stored)) :
    Handled env run runId (.skip, write) :=
  ⟨fun _ updates => by simp at updates, stores⟩

private theorem handled_failure {analysisResult : JsonObject}
    (stores : ∀ stored, write ≠ .stored stored) :
    Handled env run runId (.update (failureUpdate analysisResult), write) := by
  refine ⟨?_, fun stored same => absurd same (stores stored)⟩
  intro fields updates
  obtain rfl : _ = fields := by simpa using updates
  simp [failureUpdate]

theorem handled_completed {text : String} (member : text ∈ run.texts)
    (same : SameTokens env record.pseudonymMap run.pseudonymMap) :
    Handled env run (record.gatewayRunId.getD "")
      (.update (completedUpdate env record text now), .cleared) := by
  refine ⟨?_, fun _ stores => by simp at stores⟩
  intro fields updates
  obtain rfl : _ = fields := by simpa using updates
  refine ⟨by simp [completedUpdate], fun _ => ⟨text, member, ?_⟩⟩
  rw [completedUpdate, unmasked_congr same]

theorem handleCompletedPollResult_handled {text : String} {messageCount : Int} {isFinal : Bool}
    (member : text ∈ run.texts) (same : SameTokens env record.pseudonymMap run.pseudonymMap) :
    Handled env run (record.gatewayRunId.getD "")
      (handleCompletedPollResult env policy now record stability text messageCount isFinal) := by
  have completes : Handled env run (record.gatewayRunId.getD "")
      (.update (completedUpdate env record text now), .cleared) := handled_completed member same
  have remembersText (messageCount hitCount : Int) :
      Remembers run.texts (some (pollSnapshot env text messageCount hitCount (some text))) := by
    rintro previous first ⟨⟩ firstEq
    obtain rfl : text = first := by simpa [pollSnapshot] using firstEq
    exact member
  have forgetsText (messageCount hitCount : Int) :
      Remembers run.texts (some (pollSnapshot env text messageCount hitCount none)) := by
    rintro previous first ⟨⟩ firstEq
    simp [pollSnapshot] at firstEq
  unfold handleCompletedPollResult
  generalize (if isFinal then 1 else policy.stabilityRequiredHits) = requiredHits
  simp only
  split
  · exact completes
  · split
    · split
      · split
        · exact handled_skip fun stored same => by
            obtain rfl : _ = stored := by simpa using same
            exact forgetsText _ _
        · exact completes
      · exact handled_skip fun stored same => by
          obtain rfl : _ = stored := by simpa using same
          exact remembersText _ _
    · exact handled_skip fun stored same => by
        obtain rfl : _ = stored := by simpa using same
        exact remembersText _ _

theorem handleErrorPollResult_handled {message : String} {retryable : Bool}
    (remembers : Remembers run.texts stability)
    (masksNothing : ∀ previous text, stability = some previous →
      previous.firstResult = some text → degrades policy previous = true →
        unmasked env run.pseudonymMap text = text) :
    Handled env run (record.gatewayRunId.getD "")
      (handleErrorPollResult env policy record stability message retryable) := by
  unfold handleErrorPollResult
  split
  · rename_i previous text found
    obtain ⟨snapshot, snapshotEq, pair⟩ := Option.bind_eq_some_iff.1 found
    obtain ⟨first, firstEq, same⟩ := Option.map_eq_some_iff.1 pair
    obtain ⟨rfl, rfl⟩ := Prod.mk.inj same
    split
    · rename_i degrading
      refine ⟨?_, fun _ stores => by simp at stores⟩
      intro fields updates
      obtain rfl : _ = fields := by simpa using updates
      refine ⟨by simp [degradedUpdate], fun _ =>
        ⟨first, remembers snapshot first snapshotEq firstEq, ?_⟩⟩
      rw [masksNothing snapshot first snapshotEq firstEq degrading]
      rfl
    · apply handled_skip
      rintro stored stores kept text ⟨⟩ textEq
      obtain rfl : _ = stored := by simpa using stores
      exact remembers snapshot text snapshotEq textEq
  · split
    · exact handled_skip fun stored same => by simp at same
    · exact handled_failure fun stored => by simp

theorem handlePollResult_handled {reply : PollReply}
    (texts : ∀ text, replyText reply = some text → text ∈ run.texts)
    (remembers : Remembers run.texts stability)
    (same : SameTokens env record.pseudonymMap run.pseudonymMap)
    (masksNothing : ∀ message retryable previous text, reply = .error message retryable →
      stability = some previous → previous.firstResult = some text →
        degrades policy previous = true → unmasked env run.pseudonymMap text = text) :
    Handled env run (record.gatewayRunId.getD "")
      (handlePollResult env policy now record stability reply) := by
  cases reply with
  | completed text messageCount isFinal =>
      exact handleCompletedPollResult_handled (texts text rfl) same
  | pending => exact handled_skip fun stored same => by simp at same
  | error message retryable =>
      exact handleErrorPollResult_handled remembers
        fun previous text => masksNothing message retryable previous text rfl
  | raised message => exact handled_failure fun stored => by simp

theorem handleBeforeFetch_spec {result : PollResult}
    (ended : handleBeforeFetch env policy now record = some (result, write)) :
    (∀ fields, result = .update fields → fields.status = .failed) ∧
      (write = .none ∨ write = .cleared) := by
  unfold handleBeforeFetch at ended
  split at ended
  · rename_i update timedOut
    obtain ⟨rfl, rfl⟩ : .update update = result ∧ .cleared = write := by simpa using ended
    refine ⟨?_, Or.inr rfl⟩
    intro fields updates
    obtain rfl : update = fields := by simpa using updates
    unfold handlePollTimeout at timedOut
    split at timedOut
    · contradiction
    · split at timedOut
      · contradiction
      · obtain rfl := Option.some.inj timedOut
        simp [failureUpdate]
  · obtain ⟨missing, missingEq, same⟩ := Option.map_eq_some_iff.1 ended
    obtain ⟨rfl, rfl⟩ := Prod.mk.inj same
    unfold handleMissingSessionKey at missingEq
    split at missingEq
    · contradiction
    · simp only at missingEq
      split at missingEq
      · obtain rfl := Option.some.inj missingEq
        exact ⟨fun fields updates => by simp at updates, Or.inl rfl⟩
      · obtain rfl := Option.some.inj missingEq
        refine ⟨fun fields updates => ?_, Or.inr rfl⟩
        obtain rfl : _ = fields := by simpa using updates
        simp [failureUpdate]

theorem hasSession_of_handleBeforeFetch_none
    (continues : handleBeforeFetch env policy now record = none) :
    lacksSessionKey record = false := by
  unfold handleBeforeFetch at continues
  split at continues
  · simp at continues
  · have present : handleMissingSessionKey env policy now record = none := by
      simpa using continues
    by_contra lacks
    simp only [Bool.not_eq_false] at lacks
    unfold handleMissingSessionKey at present
    simp only [lacks, Bool.not_true, Bool.false_eq_true, if_false] at present
    split at present <;> simp at present

end Handling

/-! ## What one step preserves -/

variable {poll : InFlightPoll}

section Steps

variable {state : RecordState} {record : DeepAnalysis} {run : GatewayRun}

theorem ResultUnmasked.mono {runId : String} {result : PollResult} (more : List String)
    (sound : ResultUnmasked env run runId result) :
    ResultUnmasked env { run with texts := run.texts ++ more } runId result :=
  fun fields updates =>
    ⟨(sound fields updates).1, fun completed => ((sound fields updates).2 completed).mono more⟩

theorem PollSound.mono {poll : InFlightPoll} (more : List String)
    (sound : PollSound env record run poll) :
    PollSound env record { run with texts := run.texts ++ more } poll := by
  refine ⟨?_, sound.submitted⟩
  have phase := sound.phase
  cases phaseEq : poll.phase with
  | claimed => trivial
  | answered reply stability =>
      rw [phaseEq] at phase
      obtain ⟨hasSession, texts, remembers⟩ := phase
      exact ⟨hasSession, fun text same => List.mem_append_left _ (texts text same),
        remembers.mono⟩
  | decided result =>
      rw [phaseEq] at phase
      exact ⟨phase.1.mono more, phase.2⟩

theorem PollSound.of_sameSession {other : DeepAnalysis} (sound : PollSound env record run poll)
    (sessionKey : other.gatewaySessionKey = record.gatewaySessionKey)
    (runId : other.gatewayRunId = record.gatewayRunId) : PollSound env other run poll := by
  have lacks : lacksSessionKey other = lacksSessionKey record := by
    simp only [lacksSessionKey, sessionKey]
  refine ⟨?_, ?_⟩
  · rw [runId]
    exact sound.phase
  · rw [runId, lacks]
    exact sound.submitted

theorem PollSound.of_lacksSessionKey {other : DeepAnalysis} {otherRun : GatewayRun}
    (sound : PollSound env record run poll) (lacks : lacksSessionKey poll.record = true) :
    PollSound env other otherRun poll := by
  refine ⟨?_, fun present => ?_⟩
  · have phase := sound.phase
    cases phaseEq : poll.phase with
    | claimed => trivial
    | answered reply stability =>
        rw [phaseEq] at phase
        simp [PhaseSound, lacks] at phase
    | decided result =>
        rw [phaseEq] at phase
        have completesNothing := phase.2 (by simp [lacks])
        refine ⟨fun fields updates => ⟨(phase.1 fields updates).1, fun completed => ?_⟩,
          phase.2⟩
        exact absurd completed (completesNothing fields updates)
  · rw [lacks] at present
    contradiction

theorem polls_set {polls : List InFlightPoll} {index : Nat}
    (sound : ∀ other ∈ polls, PollSound env record run other)
    (replacing : PollSound env record run poll) :
    ∀ other ∈ polls.set index poll, PollSound env record run other := by
  intro other member
  rcases List.mem_or_eq_of_mem_set member with member | rfl
  · exact sound other member
  · exact replacing

variable {index : Nat} {now : DateTime}

theorem collecting_claim {policy : DeepAnalysisPollPolicy} (collecting : Collecting env state) :
    Collecting env (step env state (.claim now policy)) := by
  simp only [step]
  split
  · rename_i pollable
    have pending : state.record.status = .pending := by
      have both := pollable
      simp only [isPollable, Bool.and_eq_true, decide_eq_true_eq] at both
      exact both.1
    refine ⟨fun _ => collecting.tokens pending, ?_, collecting.remembers,
      collecting.unsubmitted, collecting.completions⟩
    intro poll member
    rcases List.mem_append.1 member with member | member
    · exact (collecting.polls poll member).of_sameSession rfl rfl
    · obtain rfl := List.mem_singleton.1 member
      exact ⟨trivial, fun present => ⟨present, rfl, collecting.tokens pending⟩⟩
  · exact collecting

theorem collecting_fetch {reply : PollReply} (collecting : Collecting env state) :
    Collecting env (step env state (.fetch index now reply)) := by
  simp only [step]
  split
  · rename_i record policy found
    have sound := collecting.polls _ (List.mem_of_getElem? found)
    split
    · rename_i result write ended
      obtain ⟨fails, writes⟩ := handleBeforeFetch_spec ended
      have decided : PollSound env state.record state.run ⟨record, policy, .decided result⟩ := by
        refine ⟨⟨fun fields updates => ?_, fun _ fields updates => ?_⟩, sound.submitted⟩
        · simp [fails fields updates]
        · simp [fails fields updates]
      refine ⟨collecting.tokens, polls_set collecting.polls decided, ?_, ?_,
        collecting.completions⟩
      · rcases writes with rfl | rfl
        · exact collecting.remembers
        · exact remembers_none _
      · intro lacks
        rcases writes with rfl | rfl
        · exact collecting.unsubmitted lacks
        · rfl
    · rename_i continues
      have hasSession := hasSession_of_handleBeforeFetch_none continues
      have answered : PollSound env state.record
          { state.run with texts := state.run.texts ++ (replyText reply).toList }
          ⟨record, policy, .answered reply state.stability⟩ := by
        refine ⟨⟨by simp [hasSession], fun text same => ?_, collecting.remembers.mono⟩,
          sound.submitted⟩
        rw [same]
        simp
      exact ⟨collecting.tokens,
        polls_set (fun poll member => (collecting.polls poll member).mono _) answered,
        collecting.remembers.mono, collecting.unsubmitted, collecting.completions⟩
  · exact collecting

theorem collecting_decide (collecting : Collecting env state)
    (keeps : KeepsIdentifiers env state (.decide index now)) :
    Collecting env (step env state (.decide index now)) := by
  simp only [step]
  split
  · rename_i record policy reply stability found
    have sound := collecting.polls _ (List.mem_of_getElem? found)
    obtain ⟨hasSession, texts, remembers⟩ := sound.phase
    have hasSession : lacksSessionKey record = false := by simpa using hasSession
    obtain ⟨present, sameRunId, sameTokens⟩ := sound.submitted hasSession
    have masksNothing : ∀ message retryable previous text, reply = .error message retryable →
        stability = some previous → previous.firstResult = some text →
          degrades policy previous = true →
            unmasked env state.run.pseudonymMap text = text := by
      rintro message retryable previous text rfl rfl first degrading
      exact keeps _ found text ⟨message, retryable, previous, rfl, first, degrading⟩
    have handled : Handled env state.run (record.gatewayRunId.getD "")
        (handlePollResult env policy now record stability reply) :=
      handlePollResult_handled texts remembers sameTokens masksNothing
    have decided : PollSound env state.record state.run
        ⟨record, policy, .decided (handlePollResult env policy now record stability reply).1⟩ := by
      refine ⟨⟨?_, fun absent => ?_⟩, sound.submitted⟩
      · rw [← sameRunId]
        exact handled.1
      · simp [hasSession] at absent
    refine ⟨collecting.tokens, polls_set collecting.polls decided, ?_, ?_,
      collecting.completions⟩
    · cases write : (handlePollResult env policy now record stability reply).2 with
      | none => simpa [StabilityWrite.apply, write] using collecting.remembers
      | cleared => simpa [StabilityWrite.apply, write] using remembers_none state.run.texts
      | stored stored => simpa [StabilityWrite.apply, write] using handled.2 stored write
    · intro lacks
      simp [present] at lacks
  · exact collecting

theorem collecting_store (collecting : Collecting env state) :
    Collecting env (step env state (.store index now)) := by
  simp only [step]
  split
  · rename_i record policy result found
    obtain ⟨unmasked, -⟩ := (collecting.polls _ (List.mem_of_getElem? found)).phase
    have rest (other : DeepAnalysis)
        (sessionKey : other.gatewaySessionKey = state.record.gatewaySessionKey)
        (runId : other.gatewayRunId = state.record.gatewayRunId) :
        ∀ poll ∈ state.inFlight.eraseIdx index, PollSound env other state.run poll :=
      fun poll member => (collecting.polls poll (List.mem_of_mem_eraseIdx member)).of_sameSession
        sessionKey runId
    cases result with
    | skip =>
        simp only [completionOf, List.append_nil, scheduleNextPoll]
        split
        · exact ⟨collecting.tokens, rest _ rfl rfl, collecting.remembers,
            collecting.unsubmitted, collecting.completions⟩
        · exact ⟨collecting.tokens, rest _ rfl rfl, collecting.remembers,
            collecting.unsubmitted, collecting.completions⟩
    | update fields =>
        obtain ⟨ended, completedUnmasked⟩ := unmasked fields rfl
        have completions : ∀ completion ∈ state.completions ++
            completionOf state.run state.record (.update fields), IsUnmasked env completion := by
          intro completion member
          rcases List.mem_append.1 member with member | member
          · exact collecting.completions completion member
          · simp only [completionOf] at member
            split at member
            · rename_i completes
              obtain rfl := List.mem_singleton.1 member
              exact completedUnmasked completes.2
            · simp at member
        simp only [storePollUpdate]
        split
        · exact ⟨fun pending => absurd pending ended, rest _ rfl rfl, collecting.remembers,
            collecting.unsubmitted, completions⟩
        · exact ⟨collecting.tokens, rest _ rfl rfl, collecting.remembers,
            collecting.unsubmitted, completions⟩
  · exact collecting

theorem collecting_resubmitted {pollDelay : Int} {reply : AnalysisReply}
    (collecting : Collecting env state) (lacks : lacksSessionKey state.record = true)
    (same : SameTokens env state.record.pseudonymMap (submittedMap reply.result)) :
    Collecting env { state with
      record := resubmitted env now pollDelay reply state.record
      run := newRun reply.result } := by
  have forgotten : state.stability = none := collecting.unsubmitted lacks
  refine ⟨fun _ => same, fun poll member => ?_, ?_, fun _ => forgotten, collecting.completions⟩
  · have sound := collecting.polls poll member
    apply sound.of_lacksSessionKey
    by_contra hasSession
    have present := (sound.submitted (by simpa using hasSession)).1
    rw [lacks] at present
    contradiction
  · rw [forgotten]
    exact remembers_none _

theorem collecting_retry {pollDelay : Int} {reply : Option AnalysisReply}
    (collecting : Collecting env state)
    (keeps : KeepsIdentifiers env state (.retry now pollDelay reply)) :
    Collecting env (step env state (.retry now pollDelay reply)) := by
  simp only [KeepsIdentifiers] at keeps
  simp only [step, retry]
  split
  · rename_i lacks
    rw [if_pos lacks] at keeps
    cases reply with
    | none => exact collecting
    | some reply =>
        simp only
        split
        · rename_i pending
          exact collecting_resubmitted collecting lacks (keeps reply rfl pending)
        · exact ⟨fun pending => by simp [answeredAtOnce] at pending,
            fun poll member => (collecting.polls poll member).of_sameSession rfl rfl,
            collecting.remembers, collecting.unsubmitted, collecting.completions⟩
  · rename_i hasSession
    rw [if_neg hasSession] at keeps
    exact ⟨fun _ => keeps,
      fun poll member => (collecting.polls poll member).of_sameSession rfl rfl,
      collecting.remembers, collecting.unsubmitted, collecting.completions⟩

theorem collecting_step {event : RecordEvent} (collecting : Collecting env state)
    (keeps : KeepsIdentifiers env state event) : Collecting env (step env state event) := by
  cases event with
  | claim now policy => exact collecting_claim collecting
  | fetch index now reply => exact collecting_fetch collecting
  | decide index now => exact collecting_decide collecting keeps
  | store index now => exact collecting_store collecting
  | retry now pollDelay reply => exact collecting_retry collecting keeps
  | stabilityLost =>
      exact ⟨collecting.tokens, collecting.polls, remembers_none _, fun _ => rfl,
        collecting.completions⟩

end Steps

/-! ## Whole runs -/

/-- The column of the new record holds the tokens of the run. -/
def StartsWithIdentifiers (env : PollEnvironment) (source : RecordSource)
    (submission : Submission) : Prop :=
  SameTokens env (newRecord env source submission).pseudonymMap (submittedMap submission.result)

theorem collecting_initial {source : RecordSource} {submission : Submission}
    (starts : StartsWithIdentifiers env source submission) :
    Collecting env (initial env source submission) where
  tokens _ := starts
  polls poll member := by simp [initial] at member
  remembers := remembers_none _
  unsubmitted _ := rfl
  completions completion member := by simp [initial] at member

/-- Every completion of a run that keeps the identifiers is unmasked, whoever created
the record and however polls and retries come between one another. -/
theorem completions_unmasked (env : PollEnvironment) (source : RecordSource)
    (submission : Submission) (events : List RecordEvent)
    (starts : StartsWithIdentifiers env source submission)
    (keeps : GuardedRuns.Along (step env) (KeepsIdentifiers env)
      (initial env source submission) events) :
    ∀ completion ∈ (GuardedRuns.run (step env) (initial env source submission)
      events).completions, IsUnmasked env completion :=
  (keeps.invariant (Collecting env) (collecting_initial starts)
    fun _ _ collecting keeps => collecting_step collecting keeps).completions

def maskedSubmission : Submission where
  id := 1
  webhookEventId := 7
  engine := "hookprobe"
  gatewayName := "default"
  promptVersion := ""
  result := [("_pending", .bool true), ("_gateway_run_id", .str "run-1"),
    ("_gateway_session_key", .str "session-1"),
    ("pseudonym_map", .dict [("anon-host-1", .str "db-7.corp.example")])]
  createdAt := 0
  nextPollAt := 0

def maskedText : String :=
  "anon-host-1 is down"

def hastyPolicy : DeepAnalysisPollPolicy :=
  { defaultPolicy sampleEnvironment with maxConsecutiveErrors := 1 }

def pollEvents (now : DateTime) (reply : PollReply) : List RecordEvent :=
  [.claim now hastyPolicy, .fetch 0 now reply, .decide 0 now, .store 0 now]

theorem final_text_unmasked :
    (GuardedRuns.run (step sampleEnvironment) (initial sampleEnvironment .outbox maskedSubmission)
        (pollEvents 0 (.completed maskedText 2 true))).completions.length = 1 ∧
      ∀ completion ∈ (GuardedRuns.run (step sampleEnvironment)
          (initial sampleEnvironment .outbox maskedSubmission)
          (pollEvents 0 (.completed maskedText 2 true))).completions,
        IsUnmasked sampleEnvironment completion := by
  refine ⟨rfl, completions_unmasked sampleEnvironment .outbox maskedSubmission _ rfl ?_⟩
  refine ⟨trivial, trivial, ?_, trivial, trivial⟩
  intro poll found text degrading
  obtain rfl := Option.some.inj found
  obtain ⟨message, retryable, previous, answered, -⟩ := degrading
  cases answered

/-- The text a degraded completion stores still has the token in it. -/
theorem degraded_text_stays_masked :
    ¬ ∀ (env : PollEnvironment) (source : RecordSource) (submission : Submission)
        (events : List RecordEvent),
      ∀ completion ∈ (GuardedRuns.run (step env) (initial env source submission)
        events).completions, IsUnmasked env completion := by
  intro unmasks
  have stored : (GuardedRuns.run (step sampleEnvironment)
      (initial sampleEnvironment .outbox maskedSubmission)
      (pollEvents 0 (.completed maskedText 2 false) ++
        pollEvents 60000000 (.error "HTTP 500" false))).completions =
      [⟨⟨some [("anon-host-1", .str "db-7.corp.example")], [maskedText]⟩, "run-1",
        [("root_cause", .str maskedText), ("_gateway_text", .str maskedText)]⟩] :=
    rfl
  obtain ⟨text, member, built⟩ := unmasks _ _ _ _ _ (by rw [stored]; exact List.mem_singleton_self _)
  obtain rfl := List.mem_singleton.1 member
  have unchanged : maskedText = unmasked sampleEnvironment
      (some [("anon-host-1", .str "db-7.corp.example")]) maskedText := by
    simpa [buildAnalysisResultFromGatewayText, sampleEnvironment] using built
  exact absurd unchanged (by decide)

end DeepAnalysisRuns

end WebhookWise
