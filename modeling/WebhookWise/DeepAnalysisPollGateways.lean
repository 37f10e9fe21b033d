import WebhookWise.DeepAnalysisPolls

/-!
# Which gateway a poll asks

A session key means something only to the gateway which issued it, and a row records that gateway.
The scheduled task gives `_poll_single_record` the policy of the default gateway, so the gateway of
the record is asked only when it is reached like the default one.
-/

namespace WebhookWise

open DeepAnalysisGateways

namespace DeepAnalysisPolls

variable (env : PollEnvironment)

def endpointOf (gateway : GatewayInstance) : GatewayEndpoint :=
  (DeepAnalysisPollPolicy.forGateway env.settings gateway).endpoint

def gatewayOf (record : DeepAnalysis) : Except UnknownGatewayError GatewayInstance :=
  resolveGateway env.python env.gateways (some record.gatewayName)

/-- The row has failed because its gateway is not configured. -/
def FailedAsUnknownGateway (record : DeepAnalysis) : Prop :=
  record.status = .failed ∧
    (record.analysisResult.getD []).get? "failure_reason" = some (.str "unknown_gateway")

/-- Every request goes to the gateway the record names; and if that is not configured,
none is sent and a row that is polled fails. -/
structure CollectedFromItsGateway (now : DateTime) (record : DeepAnalysis)
    (polled : PolledRecord) : Prop where
  known : ∀ gateway, gatewayOf env record = .ok gateway →
    ∀ request ∈ polled.requests, request.endpoint = endpointOf env gateway
  unknown : ∀ error, gatewayOf env record = .error error → isPollable now record = true →
    polled.requests = [] ∧ FailedAsUnknownGateway polled.record

/-- The poll has no gateway to ask: the run has timed out, or has no session. -/
def AsksNoGateway (now : DateTime) (record : DeepAnalysis) : Prop :=
  lacksSessionKey record = true ∨ ∃ startedAt, pollTimeoutStartedAt env record = some startedAt ∧
    env.settings.timeoutSeconds * DateTime.microsecondsPerSecond < now - startedAt

/-! ## Requests -/

variable (policy : DeepAnalysisPollPolicy)

theorem pollGatewayFinal_sent_pos (python : PythonRuntime) (answer : Nat → FinalResponse)
    (left attempt : Nat) (lastError : String) (transportFailed : Bool) :
    0 < (pollGatewayFinal python answer (left + 1) attempt lastError transportFailed).2 := by
  simp only [pollGatewayFinal]
  split
  · exact Nat.one_pos
  · exact Nat.succ_pos _

theorem fetchPollResult_requests (answers : GatewayAnswers) (sessionKey : String)
    (policy : DeepAnalysisPollPolicy) :
    (fetchPollResult env answers sessionKey policy).2 ≠ [] ∧
      ∀ request ∈ (fetchPollResult env answers sessionKey policy).2,
        request.endpoint = policy.endpoint := by
  simp only [fetchPollResult]
  split
  · have sent := pollGatewayFinal_sent_pos env.python
      (answers.final ⟨policy.endpoint, sessionKey⟩) 2 0 "" false
    constructor
    · simpa [List.replicate_eq_nil_iff] using Nat.pos_iff_ne_zero.1 sent
    · intro request member
      rw [List.eq_of_mem_replicate member]
  · simp

/-! ## What ends a poll before a gateway is asked -/

variable {env}
variable {record : DeepAnalysis} {now : DateTime}

theorem handlePollTimeout_isSome_iff {policy : DeepAnalysisPollPolicy} :
    (handlePollTimeout env policy now record).isSome = true ↔
      ∃ startedAt, pollTimeoutStartedAt env record = some startedAt ∧
        policy.timeoutSeconds * DateTime.microsecondsPerSecond < now - startedAt := by
  unfold handlePollTimeout
  cases pollTimeoutStartedAt env record with
  | none => simp
  | some startedAt =>
      simp only [Option.some.injEq, exists_eq_left']
      split
      case isTrue inTime => exact iff_of_false Bool.false_ne_true (not_lt.2 inTime)
      case isFalse overdue => exact iff_of_true rfl (not_le.1 overdue)

theorem handleMissingSessionKey_isSome_iff {policy : DeepAnalysisPollPolicy} :
    (handleMissingSessionKey env policy now record).isSome = true ↔
      lacksSessionKey record = true := by
  unfold handleMissingSessionKey
  split
  · simp_all
  · simp only
    split <;> simp_all

theorem handleBeforeFetch_isSome_iff
    (sameTimeout : policy.timeoutSeconds = env.settings.timeoutSeconds) :
    (handleBeforeFetch env policy now record).isSome = true ↔ AsksNoGateway env now record := by
  have timesOut : (handlePollTimeout env policy now record).isSome = true ↔ _ :=
    handlePollTimeout_isSome_iff
  have missesKey : (handleMissingSessionKey env policy now record).isSome = true ↔ _ :=
    handleMissingSessionKey_isSome_iff
  unfold handleBeforeFetch AsksNoGateway
  rw [← sameTimeout, ← timesOut, ← missesKey]
  cases handlePollTimeout env policy now record with
  | none | some => simp

theorem reason_of_handleBeforeFetch {policy : DeepAnalysisPollPolicy} {fields : PollUpdate}
    {write : StabilityWrite}
    (ended : handleBeforeFetch env policy now record = some (.update fields, write)) :
    fields.analysisResult.get? "failure_reason" ≠ some (.str "unknown_gateway") := by
  unfold handleBeforeFetch at ended
  split at ended
  · rename_i update timedOut
    obtain ⟨rfl, _⟩ : update = fields ∧ _ := by simpa using ended
    unfold handlePollTimeout at timedOut
    split at timedOut
    · contradiction
    · split at timedOut
      · contradiction
      · obtain rfl := Option.some.inj timedOut
        simp [failureUpdate, PyDict.get?]
  · obtain ⟨result, missing, same⟩ := Option.map_eq_some_iff.1 ended
    obtain ⟨rfl, _⟩ := Prod.mk.inj same
    unfold handleMissingSessionKey at missing
    split at missing
    · contradiction
    · simp only at missing
      split at missing
      · simp at missing
      · obtain rfl : _ = fields := by simpa using missing
        simp [failureUpdate, PyDict.get?]

/-! ## The policy of the scheduled task -/

def defaultPolicy (env : PollEnvironment) : DeepAnalysisPollPolicy :=
  .forGateway env.settings (defaultInstance env.python env.gateways)

theorem fromConfig_none : DeepAnalysisPollPolicy.fromConfig env none = .ok (defaultPolicy env) := by
  rw [DeepAnalysisPollPolicy.fromConfig, resolveGateway_none]
  rfl

section Call

variable {answers : GatewayAnswers} {clock : PollClock} {record : DeepAnalysis}
  {stability : Option PollStability}

theorem pollDeepAnalysisOnce_of_not_isPollable (waits : isPollable clock.claimed record = false) :
    pollDeepAnalysisOnce env answers clock record stability none = ⟨record, stability, []⟩ := by
  simp [pollDeepAnalysisOnce, fromConfig_none, waits]

theorem asksNoGateway_pollClaimed (now claimedAt : DateTime) :
    AsksNoGateway env now (pollClaimed policy claimedAt record) ↔ AsksNoGateway env now record :=
  Iff.rfl

theorem pollDeepAnalysisOnce_of_asksNoGateway (pollable : isPollable clock.claimed record = true)
    (asksNone : AsksNoGateway env clock.started record) :
    (pollDeepAnalysisOnce env answers clock record stability none).requests = [] ∧
      ¬ FailedAsUnknownGateway
        (pollDeepAnalysisOnce env answers clock record stability none).record := by
  have isPending : record.status = .pending := by
    simp only [isPollable, Bool.and_eq_true, decide_eq_true_eq] at pollable
    exact pollable.1
  have claimedPending :
      (pollClaimed (defaultPolicy env) clock.claimed record).status = .pending := isPending
  obtain ⟨⟨result, write⟩, ended⟩ := Option.isSome_iff_exists.1
    ((handleBeforeFetch_isSome_iff (defaultPolicy env) rfl).2
      ((asksNoGateway_pollClaimed (defaultPolicy env) clock.started clock.claimed).2 asksNone))
  simp only [pollDeepAnalysisOnce, fromConfig_none, pollable, pollSingleRecord, ended, Option.elim]
  refine ⟨rfl, ?_⟩
  rintro ⟨failed, reason⟩
  cases result with
  | skip => simp [scheduleNextPoll, claimedPending] at failed
  | update fields =>
      have other := reason_of_handleBeforeFetch ended
      simp only [storePollUpdate, claimedPending, if_true, Option.getD_some] at reason
      exact other reason

theorem pollDeepAnalysisOnce_requests (pollable : isPollable clock.claimed record = true)
    (asks : ¬ AsksNoGateway env clock.started record) :
    (pollDeepAnalysisOnce env answers clock record stability none).requests ≠ [] ∧
      ∀ request ∈ (pollDeepAnalysisOnce env answers clock record stability none).requests,
        request.endpoint = (defaultPolicy env).endpoint := by
  have goesOn : handleBeforeFetch env (defaultPolicy env) clock.started
      (pollClaimed (defaultPolicy env) clock.claimed record) = none := by
    rw [← Option.not_isSome_iff_eq_none, handleBeforeFetch_isSome_iff (defaultPolicy env) rfl,
      asksNoGateway_pollClaimed]
    exact asks
  have requests :
      (pollDeepAnalysisOnce env answers clock record stability none).requests =
        (fetchPollResult env answers (record.gatewaySessionKey.getD "") (defaultPolicy env)).2 := by
    simp only [pollDeepAnalysisOnce, fromConfig_none, pollable, pollSingleRecord, goesOn,
      Option.elim, if_true]
    rfl
  rw [requests]
  exact fetchPollResult_requests env answers (record.gatewaySessionKey.getD "") (defaultPolicy env)

/-- A poll of the scheduled task asks the gateway of the record, or fails the row because
that gateway is unknown, if and only if the row is not due, or its gateway is known and is
reached like the default one or need not be asked. -/
theorem collectedFromItsGateway_iff (env : PollEnvironment) (answers : GatewayAnswers)
    (clock : PollClock) (record : DeepAnalysis) (stability : Option PollStability) :
    CollectedFromItsGateway env clock.claimed record
        (pollDeepAnalysisOnce env answers clock record stability none) ↔
      isPollable clock.claimed record = false ∨
        ∃ gateway, gatewayOf env record = .ok gateway ∧
          (AsksNoGateway env clock.started record ∨
            endpointOf env gateway = endpointOf env (defaultInstance env.python env.gateways)) := by
  constructor
  · intro collected
    by_cases pollable : isPollable clock.claimed record = true
    · right
      by_cases asksNone : AsksNoGateway env clock.started record
      · obtain ⟨_, notFailed⟩ := pollDeepAnalysisOnce_of_asksNoGateway pollable asksNone
        cases named : gatewayOf env record with
        | ok gateway => exact ⟨gateway, rfl, Or.inl asksNone⟩
        | error error => exact absurd (collected.unknown error named pollable).2 notFailed
      · obtain ⟨sent, toDefault⟩ := pollDeepAnalysisOnce_requests pollable asksNone
        cases named : gatewayOf env record with
        | ok gateway =>
            obtain ⟨request, member⟩ := List.exists_mem_of_ne_nil _ sent
            refine ⟨gateway, rfl, Or.inr ?_⟩
            calc
              endpointOf env gateway = request.endpoint :=
                (collected.known gateway named request member).symm
              _ = (defaultPolicy env).endpoint := toDefault request member
        | error error => exact absurd (collected.unknown error named pollable).1 sent
    · exact Or.inl (by simpa using pollable)
  · rintro (waits | ⟨gateway, named, reached⟩)
    · rw [pollDeepAnalysisOnce_of_not_isPollable waits]
      exact ⟨fun _ _ _ member => by simp at member, fun _ _ pollable => by simp [waits] at pollable⟩
    · constructor
      · intro other otherNamed request member
        obtain rfl : gateway = other := by simpa [named] using otherNamed
        by_cases pollable : isPollable clock.claimed record = true
        · by_cases asksNone : AsksNoGateway env clock.started record
          · rw [(pollDeepAnalysisOnce_of_asksNoGateway pollable asksNone).1] at member
            simp at member
          · rw [(pollDeepAnalysisOnce_requests pollable asksNone).2 request member,
              reached.resolve_left asksNone]
            rfl
        · rw [pollDeepAnalysisOnce_of_not_isPollable (by simpa using pollable)] at member
          simp at member
      · intro error unknown
        simp [named] at unknown

end Call

/-! ## A run collected from another gateway -/

/-- The setting that adds a gateway called `lab`. -/
def labGatewaySetting : String :=
  "[\x7b\"name\": \"lab\", \"url\": \"http://lab:8088\"\x7d]"

/-- A default gateway and one called `lab`. -/
def sampleEnvironment : PollEnvironment where
  python := .ascii
    ⟨[], [], [(labGatewaySetting,
      .list [.dict [("name", .str "lab"), ("url", .str "http://lab:8088")]])], []⟩
  tables := .ascii
  gateways := {
    platform := "hookprobe"
    gatewayUrl := "http://hookprobe:8088"
    httpApiUrl := "http://hookprobe:8088"
    hooksToken := "secret"
    gatewayToken := ""
    gateways := labGatewaySetting }
  settings := {
    timeoutSeconds := 600
    pollTimeoutSeconds := 30
    delayForAttempt := fun _ => 10
    stabilityRequiredHits := 2
    maxConsecutiveErrors := 3
    enableDegradation := true }
  parseGatewayPayload _ := none

def sampleRecord (gatewayName : String) : DeepAnalysis where
  id := 1
  webhookEventId := 7
  engine := "hookprobe"
  gatewayName := gatewayName
  gatewayRunId := some "run-1"
  gatewaySessionKey := some "session-1"
  promptVersion := ""
  pseudonymMap := none
  status := .pending
  analysisResult := none
  durationSeconds := 0
  pollAttempts := 0
  nextPollAt := none
  lastPolledAt := none
  createdAt := some 0

def noAnswer : GatewayAnswers where
  final _ _ := .status 202
  history _ := .pending

def sampleClock : PollClock :=
  ⟨0, 0, 0, 0⟩

/-- Not every pending record is collected from its gateway: the scheduled task asks the
default gateway for the answer of a run that was submitted to another one. -/
theorem lab_run_polled_at_default :
    ¬ ∀ (env : PollEnvironment) (answers : GatewayAnswers) (clock : PollClock)
        (record : DeepAnalysis) (stability : Option PollStability),
      record.status = .pending →
        CollectedFromItsGateway env clock.claimed record
          (pollDeepAnalysisOnce env answers clock record stability none) := by
  intro collects
  have collected := collects sampleEnvironment noAnswer sampleClock (sampleRecord "lab") none rfl
  have asked := collected.known
    ⟨"lab", "hookprobe", "http://lab:8088", "http://lab:8088", "secret"⟩ rfl
    ⟨.http "http://hookprobe:8088" "secret", "session-1"⟩ (by decide)
  exact absurd asked (by decide)

end DeepAnalysisPolls

end WebhookWise
