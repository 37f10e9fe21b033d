import WebhookWise.DeepAnalysisPollGateways
import WebhookWise.GuardedRuns

/-!
# The text that a polled gateway has already shown

A run of poll results of one record, none of them final, with its stability key kept in Redis.
The snapshot under the key holds the text that errors fall back on.  A result that repeats the
snapshot while more hits are required rewrites it without the text: from then on an error finds
none.
-/

namespace WebhookWise

open DeepAnalysisPolls GuardedRuns

namespace PolledTexts

/-- A poll result that is not marked final. -/
inductive InterimReply where
  | completed (text : String) (messageCount : Int)
  | pending
  | error (message : String) (retryable : Bool)
deriving DecidableEq

def InterimReply.reply : InterimReply → PollReply
  | completed text messageCount => .completed text messageCount false
  | pending => .pending
  | error message retryable => .error message retryable

structure InterimPoll where
  answered : DateTime
  reply : InterimReply

/-- The stability key and the outcome of a record, with what the run has seen: the last text,
and the errors since. -/
structure PollState where
  stability : Option PollStability
  outcome : Option PollUpdate
  lastText : Option String
  errors : Nat

def PollState.initial : PollState where
  stability := none
  outcome := none
  lastText := none
  errors := 0

variable (env : PollEnvironment) (policy : DeepAnalysisPollPolicy) (record : DeepAnalysis)

def handled (state : PollState) (poll : InterimPoll) : PollResult × StabilityWrite :=
  handlePollResult env policy poll.answered record state.stability poll.reply.reply

def step (state : PollState) (poll : InterimPoll) : PollState :=
  if state.outcome.isSome then state
  else
    let handled := handled env policy record state poll
    { stability := handled.2.apply state.stability
      outcome :=
        match handled.1 with
        | .skip => none
        | .update fields => some fields
      lastText :=
        match poll.reply with
        | .completed text _ => some text
        | _ => state.lastText
      errors :=
        match poll.reply with
        | .completed _ _ => 0
        | .pending => state.errors
        | .error _ _ => state.errors + 1 }

/-- An error after a text does not fail the record, and the last that is allowed completes it
with the text. -/
def KeepsText (state : PollState) (poll : InterimPoll) : Prop :=
  ∀ text message retryable, state.outcome = none → state.lastText = some text →
    poll.reply = .error message retryable →
      (∀ fields ∈ (step env policy record state poll).outcome, fields.status ≠ .failed) ∧
        ((state.errors + 1 : Int) = policy.maxConsecutiveErrors →
          (step env policy record state poll).outcome = some (degradedUpdate env record text))

/-- A result repeats the snapshot while more hits are required than it has. -/
def RepeatsShort (state : PollState) (poll : InterimPoll) : Prop :=
  ∃ text messageCount, poll.reply = .completed text messageCount ∧
    ∃ previous ∈ state.stability, isSamePollSnapshot env previous text messageCount ∧
      previous.hitCount + 1 < policy.stabilityRequiredHits

/-- The snapshot of a record that goes on holds the last text and the errors since. -/
def Remembers (state : PollState) : Prop :=
  state.outcome = none →
    match state.lastText with
    | none => state.stability = none
    | some text => ∃ previous, state.stability = some previous ∧
        previous.firstResult = some text ∧ previous.errorCount = state.errors

theorem remembers_initial : Remembers .initial :=
  fun _ => rfl

variable {env policy record} {state : PollState} {poll : InterimPoll}

private theorem step_of_outcome (ended : state.outcome.isSome) :
    step env policy record state poll = state :=
  if_pos ended

private theorem remembers_of_outcome (ended : state.outcome.isSome) : Remembers state := by
  intro goesOn
  rw [goesOn] at ended
  cases ended

theorem handled_completed (several : 1 < policy.stabilityRequiredHits) {text : String}
    {messageCount : Int} (isReply : poll.reply = .completed text messageCount)
    (notShort : ¬ RepeatsShort env policy state poll) :
    handled env policy record state poll =
        (.update (completedUpdate env record text poll.answered), .cleared) ∨
      handled env policy record state poll =
        (.skip, .stored (pollSnapshot env text messageCount 1 (some text))) := by
  have notFirst : ¬ policy.stabilityRequiredHits ≤ 1 := by omega
  rw [handled, isReply]
  simp only [InterimReply.reply, handlePollResult, handleCompletedPollResult, if_neg notFirst,
    Bool.false_eq_true, if_false]
  cases isStability : state.stability with
  | none => exact Or.inr rfl
  | some previous =>
      by_cases same : isSamePollSnapshot env previous text messageCount = true
      · have enough : ¬ previous.hitCount + 1 < policy.stabilityRequiredHits := fun short =>
          notShort ⟨text, messageCount, isReply, previous, isStability, same, short⟩
        left
        simp only [if_pos same, if_neg enough]
      · right
        simp only [if_neg same]

theorem handled_error_none {message : String} {retryable : Bool}
    (isReply : poll.reply = .error message retryable) (noText : state.stability = none) :
    handled env policy record state poll = (.skip, .none) ∨
      ∃ fields, handled env policy record state poll = (.update fields, .cleared) := by
  rw [handled, isReply, noText]
  simp only [InterimReply.reply, handlePollResult, handleErrorPollResult, Option.bind_none]
  split
  · exact Or.inl rfl
  · exact Or.inr ⟨_, rfl⟩

theorem handled_error_some {message text : String} {retryable : Bool} {previous : PollStability}
    (isReply : poll.reply = .error message retryable)
    (isStability : state.stability = some previous) (isText : previous.firstResult = some text) :
    handled env policy record state poll =
      if degrades policy previous then (.update (degradedUpdate env record text), .cleared)
      else (.skip, .stored { previous with errorCount := previous.errorCount + 1 }) := by
  rw [handled, isReply, isStability]
  simp only [InterimReply.reply, handlePollResult, handleErrorPollResult, Option.bind_some, isText,
    Option.map_some]

theorem Remembers.step (several : 1 < policy.stabilityRequiredHits) (remembers : Remembers state)
    (notShort : ¬ RepeatsShort env policy state poll) :
    Remembers (step env policy record state poll) := by
  by_cases ended : state.outcome.isSome
  · rw [step_of_outcome ended]
    exact remembers
  have goesOn : state.outcome = none := by
    rwa [Option.not_isSome_iff_eq_none] at ended
  have held := remembers goesOn
  unfold PolledTexts.step
  rw [if_neg ended]
  dsimp only
  cases isReply : poll.reply with
  | completed text messageCount =>
      rcases handled_completed several isReply notShort with isHandled | isHandled
      · rw [isHandled]
        exact remembers_of_outcome rfl
      · rw [isHandled]
        exact fun _ => ⟨_, rfl, rfl, rfl⟩
  | pending =>
      have isHandled : handled env policy record state poll = (.skip, .none) := by
        rw [handled, isReply]
        rfl
      rw [isHandled]
      exact fun _ => held
  | error message retryable =>
      cases isText : state.lastText with
      | none =>
          rw [isText] at held
          rcases handled_error_none isReply held with isHandled | ⟨fields, isHandled⟩
          · rw [isHandled]
            exact fun _ => held
          · rw [isHandled]
            exact remembers_of_outcome rfl
      | some text =>
          rw [isText] at held
          obtain ⟨previous, isStability, isFirst, isCount⟩ := held
          rw [handled_error_some isReply isStability isFirst]
          split
          · exact remembers_of_outcome rfl
          · refine fun _ => ⟨_, rfl, isFirst, ?_⟩
            rw [isCount]
            rfl

theorem Remembers.keepsText (degradation : policy.enableDegradation = true)
    (remembers : Remembers state) : KeepsText env policy record state poll := by
  intro text message retryable goesOn isText isReply
  have held := remembers goesOn
  rw [isText] at held
  obtain ⟨previous, isStability, isFirst, isCount⟩ := held
  have notEnded : ¬ state.outcome.isSome = true := by
    rw [goesOn]
    decide
  unfold PolledTexts.step
  rw [if_neg notEnded]
  dsimp only
  rw [handled_error_some isReply isStability isFirst]
  constructor
  · intro fields isOutcome
    by_cases tooMany : degrades policy previous = true
    · rw [if_pos tooMany] at isOutcome
      cases isOutcome
      intro failed
      cases failed
    · rw [if_neg tooMany] at isOutcome
      cases isOutcome
  · intro isLast
    have tooMany : degrades policy previous = true := by
      rw [degrades, degradation, isCount, isLast]
      simp
    rw [if_pos tooMany]

/-! ## Samples -/

def samplePolicy (hits : Int) : DeepAnalysisPollPolicy where
  timeoutSeconds := 600
  pollTimeoutSeconds := 30
  delayForAttempt _ := 10
  httpApiUrl := "http://hookprobe:8088"
  gatewayUrl := "http://hookprobe:8088"
  gatewayToken := ""
  hooksToken := "secret"
  stabilityRequiredHits := hits
  maxConsecutiveErrors := 3
  enableDegradation := true
  gatewayName := "default"

/-- A text, a second one, and three errors. -/
def degradedRun : List InterimPoll :=
  [⟨0, .completed "disk" 1⟩, ⟨0, .completed "disk full" 2⟩, ⟨0, .error "HTTP 500" false⟩,
    ⟨0, .pending⟩, ⟨0, .error "HTTP 500" true⟩, ⟨0, .error "HTTP 500" false⟩]

/-- A text twice, and an error. -/
def forgetfulRun : List InterimPoll :=
  [⟨0, .completed "disk full" 2⟩, ⟨0, .completed "disk full" 2⟩, ⟨0, .error "HTTP 500" false⟩]

/-! ## Runs -/

end PolledTexts

end WebhookWise
