import WebhookWise.DeepAnalysisPollGateways
import WebhookWise.GuardedRuns
import Mathlib.Logic.Function.Basic

/-!
# How a deep-analysis record ends

Any number of calls of `poll_deep_analysis_once` work on one record, and a call may outlive its
lease.  At the end a call reads whether the row is still pending, and then writes it without asking
again; a failure is announced before that, a success after the commit.
-/

namespace WebhookWise

open DeepAnalysisPolls GuardedRuns

namespace DeepAnalysisEndings

/-! ## Calls -/

/-- The policy of a call, and the row as it was claimed. -/
structure PollAttempt where
  policy : DeepAnalysisPollPolicy
  record : DeepAnalysis

inductive PollPhase where
  | waiting
  | claimed (attempt : PollAttempt)
  | answered (attempt : PollAttempt) (reply : PollReply) (stability : Option PollStability)
  | decided (attempt : PollAttempt) (result : PollResult)
  /-- The row was pending when it was read; the update is flushed next. -/
  | ending (fields : PollUpdate)
  | postponing (nextPollAt : DateTime)
  /-- The update is committed; the success notification is sent next. -/
  | succeeded
  | ended

def PollPhase.attempt : PollPhase → Option PollAttempt
  | claimed attempt | answered attempt _ _ | decided attempt _ => some attempt
  | waiting | ending _ | postponing _ | succeeded | ended => none

/-- The row and its stability key, the calls, the calls that have read the row to end it and
have not written it, and what was written and announced, the last first. -/
structure RecordState where
  record : DeepAnalysis
  stability : Option PollStability
  phases : Nat → PollPhase
  writers : List Nat
  endings : List (Nat × DeepAnalysisStatus)
  failureNotices : List Nat
  successNotices : List Nat

def RecordState.setPhase (state : RecordState) (call : Nat) (phase : PollPhase) : RecordState :=
  { state with phases := Function.update state.phases call phase }

/-- Before the first call. -/
def RecordState.initial (record : DeepAnalysis) (stability : Option PollStability) : RecordState :=
  ⟨record, stability, fun _ => .waiting, [], [], [], []⟩

/-- Whether a notification goes out: there is somewhere to send it, and that works. -/
abbrev Delivers := Bool

inductive PollEvent where
  /-- `_claim_deep_analysis_poll`. -/
  | claim (call : Nat) (now : DateTime) (policy : DeepAnalysisPollPolicy)
  /-- The gateway replies, and the stability key is read. -/
  | fetch (call : Nat) (now : DateTime) (reply : PollReply)
  /-- The call decides what becomes of the row, and announces a failure. -/
  | decide (call : Nat) (now : DateTime) (delivers : Delivers)
  /-- The last transaction reads whether the row is pending. -/
  | select (call : Nat) (now : DateTime)
  /-- The last transaction is flushed and committed. -/
  | write (call : Nat)
  | announceSuccess (call : Nat) (delivers : Delivers)
  /-- The call crashes, or ends with an exception. -/
  | crash (call : Nat)

/-! ## Steps -/

variable (env : PollEnvironment)

def outcome (state : RecordState) (call : Nat) (now : DateTime) :
    Option (PollResult × StabilityWrite) :=
  match state.phases call with
  | .claimed attempt => handleBeforeFetch env attempt.policy now attempt.record
  | .answered attempt reply stability =>
      some (handlePollResult env attempt.policy now attempt.record stability reply)
  | _ => none

/-- The failures of `_failure_update_with_notification`; it clears the stability key, and no
other failure does. -/
def notifiesFailure : PollResult × StabilityWrite → Bool
  | (.update fields, .cleared) => fields.status = .failed
  | _ => false

/-- `now + delay` of `_schedule_next_deep_analysis_poll`. -/
def nextPollAt (now : DateTime) (attempt : PollAttempt) : DateTime :=
  now.addSeconds (attempt.policy.clampDelayToTimeout now
    (attempt.policy.delayForAttempt attempt.record.pollAttempts)
    (pollTimeoutStartedAt env attempt.record))

/-- The UPDATE of a row that was pending when it was read.  Of the columns besides the status
the session leaves out those that do not change. -/
def flushed (fields : PollUpdate) (record : DeepAnalysis) : DeepAnalysis :=
  { record with
    status := fields.status
    analysisResult := some fields.analysisResult
    durationSeconds := fields.durationSeconds.getD record.durationSeconds
    pseudonymMap := if fields.clearsPseudonymMap then none else record.pseudonymMap
    nextPollAt := none }

def step (state : RecordState) : PollEvent → RecordState
  | .claim call now policy =>
      match state.phases call with
      | .waiting =>
          if isPollable now state.record then
            let record := pollClaimed policy now state.record
            { state.setPhase call (.claimed ⟨policy, record⟩) with record := record }
          else state.setPhase call .ended
      | _ => state
  | .fetch call now reply =>
      match state.phases call, outcome env state call now with
      | .claimed attempt, none =>
          state.setPhase call (.answered attempt reply state.stability)
      | _, _ => state
  | .decide call now delivers =>
      match (state.phases call).attempt, outcome env state call now with
      | some attempt, some (result, write) =>
          { state.setPhase call (.decided attempt result) with
            stability := write.apply state.stability
            failureNotices :=
              if delivers && notifiesFailure (result, write) then call :: state.failureNotices
              else state.failureNotices }
      | _, _ => state
  | .select call now =>
      match state.phases call with
      | .decided attempt result =>
          if state.record.status = .pending then
            match result with
            | .skip => state.setPhase call (.postponing (nextPollAt env now attempt))
            | .update fields =>
                { state.setPhase call (.ending fields) with writers := call :: state.writers }
          else state.setPhase call .ended
      | _ => state
  | .write call =>
      match state.phases call with
      | .ending fields =>
          { state.setPhase call (if fields.needSuccessNotify then .succeeded else .ended) with
            record := flushed fields state.record
            writers := state.writers.erase call
            endings := (call, fields.status) :: state.endings }
      | .postponing nextPollAt =>
          { state.setPhase call .ended with
            record := { state.record with nextPollAt := some nextPollAt } }
      | _ => state
  | .announceSuccess call delivers =>
      match state.phases call with
      | .succeeded =>
          { state.setPhase call .ended with
            successNotices :=
              if delivers then call :: state.successNotices else state.successNotices }
      | _ => state
  | .crash call =>
      { state.setPhase call .ended with writers := state.writers.erase call }

/-! ## Endings -/

/-- The call has decided that the record has failed, and has not written it yet. -/
def PollPhase.IsFailing : PollPhase → Prop
  | decided _ (.update fields) | ending fields => fields.status = .failed
  | _ => False

/-- One terminal status is written at most, one success is announced, and a failure only by
the call that writes it. -/
structure EndsOnce (state : RecordState) : Prop where
  once : state.endings.length ≤ 1
  succeedsOnce : state.successNotices.length ≤ 1
  failedBy : ∀ call ∈ state.failureNotices, (call, .failed) ∈ state.endings ∨
    state.record.status = .pending ∧ (state.phases call).IsFailing
  notCompleted : state.record.status = .completed → state.failureNotices = []

/-- The call is about to read whether the row is pending, in order to end it. -/
def PollPhase.Ends : PollPhase → Bool
  | decided _ (.update _) => true
  | _ => false

/-- No call announces a failure or reads the row to end it while another call has done so and
has not written the row; no failure is announced of a row that has ended; and none is lost
after it was announced. -/
def Undisturbed (state : RecordState) : PollEvent → Prop
  | .decide call now delivers =>
      ∀ decision ∈ outcome env state call now, (delivers && notifiesFailure decision) = true →
        state.record.status = .pending ∧ state.writers = [] ∧ state.failureNotices = []
  | .select call _ =>
      (state.phases call).Ends = true → state.record.status = .pending →
        state.writers = [] ∧ ∀ other ∈ state.failureNotices, other = call
  | .crash call => call ∈ state.failureNotices → (call, .failed) ∈ state.endings
  | .claim _ _ _ | .fetch _ _ _ | .write _ | .announceSuccess _ _ => True

instance (state : RecordState) (event : PollEvent) : Decidable (Undisturbed env state event) :=
  match event with
  | .decide call now _ =>
      inferInstanceAs (Decidable (∀ decision ∈ outcome env state call now, _ → _))
  | .select _ _ => inferInstanceAs (Decidable (_ → _ → _))
  | .crash call =>
      inferInstanceAs (Decidable (call ∈ state.failureNotices → (call, .failed) ∈ state.endings))
  | .claim _ _ _ | .fetch _ _ _ | .write _ | .announceSuccess _ _ =>
      inferInstanceAs (Decidable True)

/-! ## What a call decides -/

/-- The status is terminal, and the success notification is asked for where it is COMPLETED. -/
def IsTerminal (fields : PollUpdate) : Prop :=
  fields.status = .completed ∧ fields.needSuccessNotify = true ∨
    fields.status = .failed ∧ fields.needSuccessNotify = false

section Decisions

variable {env : PollEnvironment} {policy : DeepAnalysisPollPolicy} {now : DateTime}
  {record : DeepAnalysis} {stability : Option PollStability} {fields : PollUpdate}

theorem isTerminal_failureUpdate (analysisResult : JsonObject) :
    IsTerminal (failureUpdate analysisResult) :=
  Or.inr ⟨rfl, rfl⟩

theorem isTerminal_completedUpdate (text : String) :
    IsTerminal (completedUpdate env record text now) :=
  Or.inl ⟨rfl, rfl⟩

theorem isTerminal_degradedUpdate (text : String) :
    IsTerminal (degradedUpdate env record text) :=
  Or.inl ⟨rfl, rfl⟩

theorem isTerminal_of_handleBeforeFetch {write : StabilityWrite}
    (decided : handleBeforeFetch env policy now record = some (.update fields, write)) :
    IsTerminal fields := by
  unfold handleBeforeFetch at decided
  split at decided
  · rename_i update timedOut
    unfold handlePollTimeout at timedOut
    split at timedOut
    · cases timedOut
    · split at timedOut
      · cases timedOut
      · cases timedOut
        cases decided
        exact isTerminal_failureUpdate _
  · obtain ⟨result, missing, same⟩ := Option.map_eq_some_iff.1 decided
    obtain ⟨rfl, _⟩ := Prod.mk.inj same
    unfold handleMissingSessionKey at missing
    split at missing
    · cases missing
    · dsimp only at missing
      split at missing
      · cases missing
      · cases missing
        exact isTerminal_failureUpdate _

theorem isTerminal_of_handleCompletedPollResult {text : String} {messageCount : Int}
    {isFinal : Bool} {write : StabilityWrite}
    (decided : handleCompletedPollResult env policy now record stability text messageCount isFinal =
      (.update fields, write)) : IsTerminal fields := by
  unfold handleCompletedPollResult at decided
  dsimp only at decided
  generalize (if isFinal then 1 else policy.stabilityRequiredHits) = requiredHits at decided
  split at decided
  · cases decided
    exact isTerminal_completedUpdate text
  · split at decided
    · split at decided
      · split at decided
        · cases decided
        · cases decided
          exact isTerminal_completedUpdate text
      · cases decided
    · cases decided

theorem isTerminal_of_handleErrorPollResult {message : String} {retryable : Bool}
    {write : StabilityWrite}
    (decided : handleErrorPollResult env policy record stability message retryable =
      (.update fields, write)) : IsTerminal fields := by
  unfold handleErrorPollResult at decided
  split at decided
  · split at decided
    · cases decided
      exact isTerminal_degradedUpdate _
    · cases decided
  · split at decided
    · cases decided
    · cases decided
      exact isTerminal_failureUpdate _

theorem isTerminal_of_handlePollResult {reply : PollReply} {write : StabilityWrite}
    (decided : handlePollResult env policy now record stability reply = (.update fields, write)) :
    IsTerminal fields := by
  cases reply with
  | completed text messageCount isFinal => exact isTerminal_of_handleCompletedPollResult decided
  | error message retryable => exact isTerminal_of_handleErrorPollResult decided
  | pending => cases decided
  | raised message =>
      cases decided
      exact isTerminal_failureUpdate _

theorem isTerminal_of_outcome {state : RecordState} {call : Nat} {write : StabilityWrite}
    (decided : outcome env state call now = some (.update fields, write)) : IsTerminal fields := by
  unfold outcome at decided
  split at decided
  · exact isTerminal_of_handleBeforeFetch decided
  · exact isTerminal_of_handlePollResult (Option.some.inj decided)
  · cases decided

end Decisions

/-! ## Steps keep the endings sound -/

variable {now : DateTime}

/-- `EndsOnce`, with what the calls on their way will do. -/
structure EndingsSound (state : RecordState) : Prop where
  endsOnce : EndsOnce state
  pending : state.record.status = .pending → state.endings = [] ∧ state.successNotices = []
  terminal : ∀ call fields, (∃ attempt, state.phases call = .decided attempt (.update fields)) ∨
    state.phases call = .ending fields → IsTerminal fields
  ending : ∀ call fields, state.phases call = .ending fields →
    state.record.status = .pending ∧ state.writers = [call] ∧
      ∀ other ∈ state.failureNotices, other = call
  succeeded : ∀ call, state.phases call = .succeeded →
    (call, .completed) ∈ state.endings ∧ state.successNotices = []

section Steps

variable {env : PollEnvironment} {state : RecordState} {call : Nat}

theorem EndingsSound.failed_of_not_isFailing (sound : EndingsSound state)
    (notFailing : ¬ (state.phases call).IsFailing) (announced : call ∈ state.failureNotices) :
    (call, .failed) ∈ state.endings :=
  (sound.endsOnce.failedBy call announced).resolve_right fun failing => notFailing failing.2

theorem EndingsSound.advance (sound : EndingsSound state) {after : RecordState} {phase : PollPhase}
    (phases : after.phases = Function.update state.phases call phase)
    (status : after.record.status = state.record.status)
    (endings : after.endings = state.endings)
    (failures : after.failureNotices = state.failureNotices)
    (successes : after.successNotices = state.successNotices)
    (writers : ∀ other fields, other ≠ call → state.phases other = .ending fields →
      after.writers = state.writers)
    (failing : call ∈ state.failureNotices → (call, .failed) ∈ state.endings ∨
      state.record.status = .pending ∧ phase.IsFailing)
    (terminal : ∀ fields, (∃ attempt, phase = .decided attempt (.update fields)) ∨
      phase = .ending fields → IsTerminal fields)
    (ending : ∀ fields, phase = .ending fields → state.record.status = .pending ∧
      after.writers = [call] ∧ ∀ other ∈ state.failureNotices, other = call)
    (notSucceeded : phase ≠ .succeeded) : EndingsSound after := by
  constructor
  · constructor
    · rw [endings]
      exact sound.endsOnce.once
    · rw [successes]
      exact sound.endsOnce.succeedsOnce
    · intro other announced
      rw [failures] at announced
      rw [endings, status, phases, Function.update_apply]
      split
      · rename_i own
        subst own
        exact failing announced
      · exact sound.endsOnce.failedBy other announced
    · rw [status, failures]
      exact sound.endsOnce.notCompleted
  · rw [status, endings, successes]
    exact sound.pending
  · intro other fields decides
    rw [phases, Function.update_apply] at decides
    split at decides
    · exact terminal fields decides
    · exact sound.terminal other fields decides
  · intro other fields isEnding
    rw [phases, Function.update_apply] at isEnding
    rw [status, failures]
    split at isEnding
    · rename_i own
      subst own
      exact ending fields isEnding
    · rename_i different
      rw [writers other fields different isEnding]
      exact sound.ending other fields isEnding
  · intro other isSucceeded
    rw [phases, Function.update_apply] at isSucceeded
    rw [endings, successes]
    split at isSucceeded
    · exact absurd isSucceeded notSucceeded
    · exact sound.succeeded other isSucceeded

theorem EndingsSound.wait (sound : EndingsSound state) {after : RecordState} {phase : PollPhase}
    (notFailing : ¬ (state.phases call).IsFailing)
    (phases : after.phases = Function.update state.phases call phase)
    (status : after.record.status = state.record.status)
    (endings : after.endings = state.endings)
    (failures : after.failureNotices = state.failureNotices)
    (successes : after.successNotices = state.successNotices)
    (writers : after.writers = state.writers)
    (terminal : ∀ fields, (∃ attempt, phase = .decided attempt (.update fields)) → IsTerminal fields)
    (notEnding : ∀ fields, phase ≠ .ending fields)
    (notSucceeded : phase ≠ .succeeded) : EndingsSound after :=
  sound.advance phases status endings failures successes (fun _ _ _ _ => writers)
    (fun announced => Or.inl (sound.failed_of_not_isFailing notFailing announced))
    (fun fields decides => decides.elim (terminal fields) fun same => absurd same (notEnding fields))
    (fun fields same => absurd same (notEnding fields)) notSucceeded

theorem EndingsSound.claim (sound : EndingsSound state) (now : DateTime)
    (policy : DeepAnalysisPollPolicy) :
    EndingsSound (step env state (.claim call now policy)) := by
  dsimp only [step]
  split
  · rename_i waiting
    have notFailing : ¬ (state.phases call).IsFailing := by
      rw [waiting]
      exact not_false
    split
    · exact sound.wait notFailing rfl rfl rfl rfl rfl rfl (by simp) (by simp) (by simp)
    · exact sound.wait notFailing rfl rfl rfl rfl rfl rfl (by simp) (by simp) (by simp)
  · exact sound

theorem EndingsSound.fetch (sound : EndingsSound state) (now : DateTime) (reply : PollReply) :
    EndingsSound (step env state (.fetch call now reply)) := by
  dsimp only [step]
  split
  · rename_i claimed _
    have notFailing : ¬ (state.phases call).IsFailing := by
      rw [claimed]
      exact not_false
    exact sound.wait notFailing rfl rfl rfl rfl rfl rfl (by simp) (by simp) (by simp)
  · exact sound

theorem not_isFailing_of_outcome {decision : PollResult × StabilityWrite}
    (decided : outcome env state call now = some decision) : ¬ (state.phases call).IsFailing := by
  unfold outcome at decided
  split at decided
  · rename_i claimed
    rw [claimed]
    exact not_false
  · rename_i answered
    rw [answered]
    exact not_false
  · cases decided

theorem isFailing_of_notifiesFailure {result : PollResult} {write : StabilityWrite}
    (attempt : PollAttempt) (notifies : notifiesFailure (result, write) = true) :
    (PollPhase.decided attempt result).IsFailing := by
  cases result with
  | skip => cases notifies
  | update fields =>
      cases write with
      | cleared =>
          change fields.status = .failed
          simpa [notifiesFailure] using notifies
      | none | stored _ => cases notifies

theorem EndingsSound.announceFailure (sound : EndingsSound state)
    (pending : state.record.status = .pending) (noWriters : state.writers = [])
    (noNotices : state.failureNotices = []) (failing : (state.phases call).IsFailing) :
    EndingsSound { state with failureNotices := call :: state.failureNotices } := by
  rw [noNotices]
  refine ⟨⟨sound.endsOnce.once, sound.endsOnce.succeedsOnce, ?_, ?_⟩, sound.pending,
    sound.terminal, ?_, sound.succeeded⟩
  · intro other announced
    rw [List.mem_singleton.1 announced]
    exact Or.inr ⟨pending, failing⟩
  · intro completed
    rw [pending] at completed
    cases completed
  · intro other fields isEnding
    have writers := (sound.ending other fields isEnding).2.1
    rw [noWriters] at writers
    cases writers

theorem EndingsSound.decide (sound : EndingsSound state) {delivers : Delivers}
    (undisturbed : Undisturbed env state (.decide call now delivers)) :
    EndingsSound (step env state (.decide call now delivers)) := by
  dsimp only [step]
  split
  · rename_i attempt result write _ decided
    have notFailing := not_isFailing_of_outcome decided
    have terminal (fields : PollUpdate)
        (decides : ∃ other, PollPhase.decided attempt result = .decided other (.update fields)) :
        IsTerminal fields := by
      obtain ⟨other, same⟩ := decides
      cases same
      exact isTerminal_of_outcome decided
    have quiet : EndingsSound
        { state.setPhase call (.decided attempt result) with
          stability := write.apply state.stability } :=
      sound.wait notFailing rfl rfl rfl rfl rfl rfl terminal (by simp) (by simp)
    split
    · rename_i announces
      obtain ⟨pending, noWriters, noNotices⟩ := undisturbed _ decided announces
      refine quiet.announceFailure pending noWriters noNotices ?_
      change (Function.update state.phases call _ call).IsFailing
      rw [Function.update_self]
      exact isFailing_of_notifiesFailure attempt (Bool.and_eq_true_iff.1 announces).2
    · exact quiet
  · exact sound

theorem EndingsSound.select (sound : EndingsSound state)
    (undisturbed : Undisturbed env state (.select call now)) :
    EndingsSound (step env state (.select call now)) := by
  dsimp only [step]
  split
  · rename_i attempt result decided
    split
    · rename_i pending
      cases result with
      | skip =>
          have notFailing : ¬ (state.phases call).IsFailing := by
            rw [decided]
            exact not_false
          exact sound.wait notFailing rfl rfl rfl rfl rfl rfl (by simp) (by simp) (by simp)
      | update fields =>
          have ends : (state.phases call).Ends = true := by
            rw [decided]
            rfl
          obtain ⟨noWriters, own⟩ := undisturbed ends pending
          have stillFailing : (state.phases call).IsFailing → (PollPhase.ending fields).IsFailing := by
            rw [decided]
            exact id
          refine sound.advance rfl rfl rfl rfl rfl ?_ ?_ ?_ ?_ (by simp)
          · intro other otherFields _ isEnding
            have writers := (sound.ending other otherFields isEnding).2.1
            rw [noWriters] at writers
            cases writers
          · intro announced
            exact (sound.endsOnce.failedBy call announced).imp_right (And.imp_right stillFailing)
          · intro others decides
            rcases decides with ⟨_, same⟩ | same
            · cases same
            · cases same
              exact sound.terminal call fields (Or.inl ⟨attempt, decided⟩)
          · intro others same
            cases same
            exact ⟨pending, congrArg (call :: ·) noWriters, own⟩
    · rename_i notPending
      have written (announced : call ∈ state.failureNotices) : (call, .failed) ∈ state.endings :=
        (sound.endsOnce.failedBy call announced).resolve_right fun failing =>
          notPending failing.1
      exact sound.advance rfl rfl rfl rfl rfl (fun _ _ _ _ => rfl)
        (fun announced => Or.inl (written announced)) (by simp) (by simp) (by simp)
  · exact sound

theorem EndingsSound.writeEnding (sound : EndingsSound state) {fields : PollUpdate}
    (isEnding : state.phases call = .ending fields) :
    EndingsSound
      { state.setPhase call (if fields.needSuccessNotify then .succeeded else .ended) with
        record := flushed fields state.record
        writers := state.writers.erase call
        endings := (call, fields.status) :: state.endings } := by
  obtain ⟨pending, writers, own⟩ := sound.ending call fields isEnding
  obtain ⟨noEndings, noSuccesses⟩ := sound.pending pending
  have terminal := sound.terminal call fields (Or.inr isEnding)
  have failing (other : Nat) (announced : other ∈ state.failureNotices) :
      other = call ∧ fields.status = .failed := by
    obtain rfl := own other announced
    refine ⟨rfl, ?_⟩
    rcases sound.endsOnce.failedBy other announced with written | ⟨_, isFailing⟩
    · rw [noEndings] at written
      cases written
    · rw [isEnding] at isFailing
      exact isFailing
  have phaseOf (other : Nat) {phase : PollPhase}
      (current : Function.update state.phases call
        (if fields.needSuccessNotify then .succeeded else .ended) other = phase) :
      (other = call ∧ phase = if fields.needSuccessNotify then .succeeded else .ended) ∨
        other ≠ call ∧ state.phases other = phase := by
    rw [Function.update_apply] at current
    split at current
    · rename_i same
      exact Or.inl ⟨same, current.symm⟩
    · rename_i different
      exact Or.inr ⟨different, current⟩
  rw [noEndings]
  refine ⟨⟨Nat.le_refl 1, ?_, ?_, ?_⟩, ?_, ?_, ?_, ?_⟩
  · exact sound.endsOnce.succeedsOnce
  · intro other announced
    obtain ⟨rfl, failed⟩ := failing other announced
    exact Or.inl (List.mem_singleton.2 (by rw [failed]))
  · intro completed
    refine List.eq_nil_iff_forall_not_mem.2 fun other announced => ?_
    have failed := (failing other announced).2
    change fields.status = .completed at completed
    rw [failed] at completed
    cases completed
  · intro stillPending
    change fields.status = .pending at stillPending
    rcases terminal with ⟨completed, _⟩ | ⟨failed, _⟩
    · rw [completed] at stillPending
      cases stillPending
    · rw [failed] at stillPending
      cases stillPending
  · intro other otherFields decides
    rcases decides with ⟨attempt, current⟩ | current
    · rcases phaseOf other current with ⟨_, same⟩ | ⟨_, same⟩
      · split at same <;> cases same
      · exact sound.terminal other otherFields (Or.inl ⟨attempt, same⟩)
    · rcases phaseOf other current with ⟨_, same⟩ | ⟨_, same⟩
      · split at same <;> cases same
      · exact sound.terminal other otherFields (Or.inr same)
  · intro other otherFields current
    rcases phaseOf other current with ⟨_, same⟩ | ⟨different, same⟩
    · split at same <;> cases same
    · have otherWriters := (sound.ending other otherFields same).2.1
      rw [writers] at otherWriters
      exact absurd (List.cons.inj otherWriters).1.symm different
  · intro other current
    rcases phaseOf other current with ⟨rfl, same⟩ | ⟨_, same⟩
    · split at same
      · rename_i notifies
        rcases terminal with ⟨completed, _⟩ | ⟨_, silent⟩
        · exact ⟨List.mem_singleton.2 (by rw [completed]), noSuccesses⟩
        · rw [silent] at notifies
          cases notifies
      · cases same
    · have written := (sound.succeeded other same).1
      rw [noEndings] at written
      cases written

theorem EndingsSound.write (sound : EndingsSound state) :
    EndingsSound (step env state (.write call)) := by
  dsimp only [step]
  split
  · rename_i fields isEnding
    exact sound.writeEnding isEnding
  · rename_i postponing
    have notFailing : ¬ (state.phases call).IsFailing := by
      rw [postponing]
      exact not_false
    exact sound.wait notFailing rfl rfl rfl rfl rfl rfl (by simp) (by simp) (by simp)
  · exact sound

theorem EndingsSound.announceSuccess (sound : EndingsSound state) (delivers : Delivers) :
    EndingsSound (step env state (.announceSuccess call delivers)) := by
  dsimp only [step]
  split
  · rename_i isSucceeded
    obtain ⟨written, noSuccesses⟩ := sound.succeeded call isSucceeded
    have notFailing : ¬ (state.phases call).IsFailing := by
      rw [isSucceeded]
      exact not_false
    have ended : EndingsSound (state.setPhase call .ended) :=
      sound.wait notFailing rfl rfl rfl rfl rfl rfl (by simp) (by simp) (by simp)
    cases delivers with
    | false => exact ended
    | true =>
        rw [noSuccesses]
        refine ⟨⟨ended.endsOnce.once, Nat.le_refl 1, ended.endsOnce.failedBy,
          ended.endsOnce.notCompleted⟩, ?_, ended.terminal, ended.ending, ?_⟩
        · intro pending
          have noEndings := (sound.pending pending).1
          rw [noEndings] at written
          cases written
        · intro other current
          change Function.update state.phases call .ended other = .succeeded at current
          rw [Function.update_apply] at current
          split at current
          · cases current
          · rename_i different
            have otherWritten := (sound.succeeded other current).1
            obtain ⟨ending, single⟩ := List.length_eq_one_iff.1
              (Nat.le_antisymm sound.endsOnce.once (List.length_pos_of_mem written))
            rw [single, List.mem_singleton] at written otherWritten
            exact absurd (congrArg Prod.fst (otherWritten.trans written.symm)) different
  · exact sound

theorem EndingsSound.crash (sound : EndingsSound state)
    (undisturbed : Undisturbed env state (.crash call)) :
    EndingsSound (step env state (.crash call)) := by
  refine sound.advance rfl rfl rfl rfl rfl ?_ (fun announced => Or.inl (undisturbed announced))
    (by simp) (by simp) (by simp)
  intro other fields different isEnding
  have writers := (sound.ending other fields isEnding).2.1
  change state.writers.erase call = state.writers
  rw [writers, List.erase_of_not_mem (by simpa using different.symm)]

theorem EndingsSound.step (sound : EndingsSound state) {event : PollEvent}
    (undisturbed : Undisturbed env state event) : EndingsSound (step env state event) := by
  cases event with
  | claim call now policy => exact sound.claim now policy
  | fetch call now reply => exact sound.fetch now reply
  | decide call now delivers => exact sound.decide undisturbed
  | select call now => exact sound.select undisturbed
  | write call => exact sound.write
  | announceSuccess call delivers => exact sound.announceSuccess delivers
  | crash call => exact sound.crash undisturbed

end Steps

/-! ## Runs -/

theorem endingsSound_initial (record : DeepAnalysis) (stability : Option PollStability) :
    EndingsSound (.initial record stability) := by
  refine ⟨⟨Nat.zero_le 1, Nat.zero_le 1, nofun, fun _ => rfl⟩, fun _ => ⟨rfl, rfl⟩, ?_, nofun,
    nofun⟩
  rintro call fields (⟨attempt, current⟩ | current)
  · cases current
  · cases current

/-- A record ends once, in every run in which no call is disturbed at its end. -/
theorem endsOnce_of_undisturbed (record : DeepAnalysis) (stability : Option PollStability)
    (events : List PollEvent)
    (undisturbed : Along (step env) (Undisturbed env) (.initial record stability) events) :
    EndsOnce (run (step env) (.initial record stability) events) := by
  have sound : EndingsSound (run (step env) (.initial record stability) events) :=
    undisturbed.invariant EndingsSound (endingsSound_initial record stability)
      fun _ _ sound admitted => sound.step admitted
  exact sound.endsOnce

def leaseEnd : DateTime :=
  DateTime.addSeconds 0 (defaultPolicy sampleEnvironment).pollClaimLeaseSeconds

def overlappingClaims : List PollEvent :=
  [.claim 1 0 (defaultPolicy sampleEnvironment), .claim 2 leaseEnd (defaultPolicy sampleEnvironment)]

/-- The first call has seen a text once, the second fails and announces it, and then the first
finds the row failed. -/
theorem announced_failure_stays :
    EndsOnce (run (step sampleEnvironment) (.initial (sampleRecord "default") none)
      (overlappingClaims ++ [.fetch 1 leaseEnd (.completed "done" 2 false),
        .decide 1 leaseEnd true, .fetch 2 leaseEnd (.error "HTTP 500" false),
        .decide 2 leaseEnd true, .select 2 leaseEnd, .write 2, .select 1 leaseEnd])) :=
  endsOnce_of_undisturbed sampleEnvironment (sampleRecord "default") none _ (by decide)

/-- Both calls read the row while it is pending, and the failure that was announced overwrites
the completed analysis. -/
theorem completion_overwritten :
    ¬ ∀ (env : PollEnvironment) (record : DeepAnalysis) (stability : Option PollStability)
      (events : List PollEvent), EndsOnce (run (step env) (.initial record stability) events) := by
  intro endsOnce
  have once := (endsOnce sampleEnvironment (sampleRecord "default") none
    (overlappingClaims ++ [.fetch 1 leaseEnd (.error "HTTP 500" false), .decide 1 leaseEnd true,
      .fetch 2 leaseEnd (.completed "done" 2 true), .decide 2 leaseEnd true, .select 1 leaseEnd,
      .select 2 leaseEnd, .write 2, .announceSuccess 2 true, .write 1])).once
  exact absurd once (by decide)

end DeepAnalysisEndings

end WebhookWise
