import WebhookWise.PythonValues
import WebhookWise.GuardedRuns

/-!
# Manual runbook executions

An execution records an operator's progress through the list items of a published
runbook.  `update_runbook_execution` is given here together with the object it mutates:
its result is what it raises or returns, and the object as it is at that moment.
-/

namespace WebhookWise

open GuardedRuns

namespace Runbooks

/-! ## The steps of a runbook -/

structure RunbookStep where
  index : Nat
  text : String
  completed : Bool
  completedAt : Option String
  completedBy : Option String
deriving DecidableEq

/-- `" ".join(text.split())`, with the word read so far. -/
def joinedWords : List Char → List Char → List (List Char)
  | word, [] => if word.isEmpty then [] else [word.reverse]
  | word, next :: rest =>
      if isPythonSpace next then
        if word.isEmpty then joinedWords [] rest else word.reverse :: joinedWords [] rest
      else joinedWords (next :: word) rest

def normalizedText (text : List Char) : String :=
  " ".intercalate ((joinedWords [] text).map String.ofList)

/-- `\s+(?P<text>.+?)\s*$` against what follows a marker: the text with its blanks
normalized. -/
def textAfterMarker : List Char → Option String
  | blank :: first :: rest =>
      if isPythonSpace blank then some (normalizedText (first :: rest)) else none
  | _ => none

/-- `[-*+]`. -/
def isBullet (character : Char) : Bool :=
  character = '-' || character = '*' || character = '+'

/-- `_CHECKBOX_STEP_RE`. -/
def checkboxStep (line : List Char) : Option String :=
  match line.dropWhile isPythonSpace with
  | bullet :: blank :: rest =>
      if isBullet bullet && isPythonSpace blank then
        match rest.dropWhile isPythonSpace with
        | '[' :: mark :: ']' :: after =>
            if mark = ' ' || mark = 'x' || mark = 'X' then textAfterMarker after else none
        | _ => none
      else none
  | _ => none

/-- `_ORDERED_STEP_RE`; `isDecimal` is what `\d` matches. -/
def orderedStep (isDecimal : Char → Bool) (line : List Char) : Option String :=
  let (digits, after) := (line.dropWhile isPythonSpace).span isDecimal
  if 1 ≤ digits.length && digits.length ≤ 4 then
    match after with
    | mark :: rest => if mark = '.' || mark = ')' then textAfterMarker rest else none
    | [] => none
  else none

/-- `_UNORDERED_STEP_RE`. -/
def unorderedStep (line : List Char) : Option String :=
  match line.dropWhile isPythonSpace with
  | bullet :: rest => if isBullet bullet then textAfterMarker rest else none
  | [] => none

def maxRunbookSteps : Nat := 30
def maxStepTextLength : Nat := 1000

/-- The loop of `extract_manual_runbook_steps`. -/
def extractSteps (isDecimal : Char → Bool) :
    Option (List Char) → List RunbookStep → List (List Char) → List RunbookStep
  | _, steps, [] => steps
  | fence, steps, line :: lines =>
      let marker := (line.dropWhile isPythonSpace).take 3
      if marker = "```".toList ∨ marker = "~~~".toList then
        let fence :=
          match fence with
          | none => some marker
          | some opened => if marker = opened then none else some opened
        extractSteps isDecimal fence steps lines
      else if fence.isSome then extractSteps isDecimal fence steps lines
      else
        match (checkboxStep line).or ((orderedStep isDecimal line).or (unorderedStep line)) with
        | none => extractSteps isDecimal fence steps lines
        | some text =>
            if text = "" then extractSteps isDecimal fence steps lines
            else
              let steps := steps ++
                [{ index := steps.length
                   text := truncated text maxStepTextLength
                   completed := false
                   completedAt := none
                   completedBy := none }]
              if maxRunbookSteps ≤ steps.length then steps
              else extractSteps isDecimal fence steps lines

def extractManualRunbookSteps (isDecimal : Char → Bool) (contents : String) : List RunbookStep :=
  extractSteps isDecimal none [] (splitlines contents.toList)

example : (extractManualRunbookSteps Char.isDigit
    "# Restart\n- [x] drain  the node\n```\n- not a step\n```\n12. restart it\n* \n+ verify").map
      (fun step => (step.index, step.text, step.completed)) =
    [(0, "drain the node", false), (1, "restart it", false), (2, "verify", false)] := by
  decide

/-! ## Executions -/

inductive RunbookStatus where
  | inProgress
  | completed
  | failed
  | abandoned
deriving DecidableEq

namespace RunbookStatus

def text : RunbookStatus → String
  | inProgress => "in_progress"
  | completed => "completed"
  | failed => "failed"
  | abandoned => "abandoned"

def ofText? (wanted : String) : Option RunbookStatus :=
  [inProgress, completed, failed, abandoned].find? (·.text = wanted)

@[simp]
theorem ofText?_text (status : RunbookStatus) : ofText? status.text = some status := by
  cases status <;> decide

/-- `_TERMINAL_STATUSES`. -/
def Terminal (status : RunbookStatus) : Prop :=
  status = completed ∨ status = failed ∨ status = abandoned

instance (status : RunbookStatus) : Decidable status.Terminal :=
  inferInstanceAs (Decidable (_ ∨ _))

theorem terminal_iff {status : RunbookStatus} : status.Terminal ↔ status ≠ inProgress := by
  cases status <;> decide

def allowedTransitions : RunbookStatus → List RunbookStatus
  | inProgress => [inProgress, completed, failed, abandoned]
  | failed => [failed, inProgress, abandoned]
  | completed => [completed]
  | abandoned => [abandoned]

end RunbookStatus

structure RunbookExecution where
  id : Nat
  incidentId : Nat
  candidateRef : String
  title : String
  status : RunbookStatus
  steps : List RunbookStep
  effectiveness : Option String
  notes : Option String
  actor : String
  startedAt : DateTime
  completedAt : Option DateTime
  updatedAt : DateTime
deriving DecidableEq

/-- `str(actor).strip()[:100] or "operator"`. -/
def normalizedActor (actor : String) : String :=
  let name := truncated (strip actor) 100
  if name = "" then "operator" else name

theorem normalizedActor_ne_empty (actor : String) : normalizedActor actor ≠ "" := by
  simp only [normalizedActor]
  split
  · decide
  · assumption

/-- A published runbook, as `_load_published_runbook` returns it. -/
structure PublishedRunbook where
  title : String
  contents : List String

/-- The row `start_runbook_execution` inserts for an incident and a runbook that have none. -/
def startRunbookExecution (isDecimal : Char → Bool) (id incidentId : Nat) (candidateRef : String)
    (runbook : PublishedRunbook) (actor : String) (now : DateTime) : RunbookExecution where
  id := id
  incidentId := incidentId
  candidateRef := candidateRef
  title := runbook.title
  status := .inProgress
  steps := extractManualRunbookSteps isDecimal ("\n\n".intercalate runbook.contents)
  effectiveness := none
  notes := none
  actor := normalizedActor actor
  startedAt := now
  completedAt := none
  updatedAt := now

/-! ## Updates -/

inductive RunbookError where
  | notFound (message : String)
  | conflict (message : String)
deriving DecidableEq

/-- The mapping `changes`; `notes` is `some` when the key is present. -/
structure RunbookChanges where
  status : Option String
  stepIndex : Option Int
  stepCompleted : Option Bool
  effectiveness : Option String
  notes : Option (Option String)

structure RunbookUpdate where
  incidentId : Nat
  executionId : Nat
  changes : RunbookChanges
  actor : String
  now : DateTime

inductive ChangedField where
  | step
  | effectiveness
  | notes
  | status
deriving DecidableEq

/-- What `add_audit` is given. -/
structure RunbookAudit where
  action : String
  message : String
  actor : String
deriving DecidableEq

/-- `_validate_transition`, with the status the text names. -/
def validateTransition (current : RunbookStatus) (target : String) :
    Except RunbookError RunbookStatus :=
  let refused := RunbookError.conflict
    ("Runbook execution cannot transition from " ++ current.text ++ " to " ++ target)
  match RunbookStatus.ofText? target with
  | none => .error refused
  | some status => if status ∈ current.allowedTransitions then .ok status else .error refused

def auditAction (current target : RunbookStatus) (changedFields : List ChangedField) : String :=
  if current ≠ target then
    match target with
    | .completed => "runbook_completed"
    | .failed => "runbook_failed"
    | .abandoned => "runbook_abandoned"
    | .inProgress => "runbook_resumed"
  else if .effectiveness ∈ changedFields then "runbook_reviewed"
  else if .step ∈ changedFields then "runbook_step"
  else "runbook_updated"

/-- The fields changed so far, and the summaries of the changes. -/
abbrev Changed := List (ChangedField × String)

def RunbookStep.marked (step : RunbookStep) (completed : Bool) (actor : String) (now : DateTime) :
    RunbookStep :=
  { step with
    completed := completed
    completedAt := if completed then some now.utcIsoformat else none
    completedBy := if completed then some actor else none }

/-- The steps an update asks for: nothing is assigned to the execution yet. -/
def requestedSteps (target : RunbookStatus) (changes : RunbookChanges) (actor : String)
    (now : DateTime) (steps : List RunbookStep) :
    Except RunbookError (List RunbookStep × Changed) :=
  match changes.stepIndex, changes.stepCompleted with
  | none, none => .ok (steps, [])
  | some index, some completed =>
      if target ≠ .inProgress then
        .error (.conflict "Runbook steps can only be changed while execution is in progress")
      else
        match if 0 ≤ index then steps[index.toNat]? else none with
        | none =>
            .error (.conflict ("Runbook step index " ++ toString index ++ " is out of range"))
        | some step =>
            if step.completed ≠ completed then
              .ok (steps.set index.toNat (step.marked completed actor now),
                [(.step, "step " ++ toString (index + 1) ++
                  (if completed then " completed" else " reopened"))])
            else .ok (steps, [])
  | _, _ => .error (.conflict "step_index and step_completed must be provided together")

def effectivenessValues : List String := ["effective", "ineffective", "unknown"]

/-- A verdict that judges the runbook. -/
def Rated (effectiveness : String) : Prop :=
  effectiveness = "effective" ∨ effectiveness = "ineffective"

instance (effectiveness : String) : Decidable (Rated effectiveness) :=
  inferInstanceAs (Decidable (_ ∨ _))

def assignEffectiveness (target : RunbookStatus) (changes : RunbookChanges)
    (execution : RunbookExecution) : Except RunbookError (RunbookExecution × Changed) :=
  match changes.effectiveness with
  | none => .ok (execution, [])
  | some effectiveness =>
      if effectiveness ∉ effectivenessValues then
        .error (.conflict "Unsupported runbook effectiveness value")
      else if Rated effectiveness ∧ ¬ target.Terminal then
        .error (.conflict
          "Runbook effectiveness can only be rated after the execution reaches a terminal status")
      else if execution.effectiveness ≠ some effectiveness then
        .ok ({ execution with effectiveness := some effectiveness },
          [(.effectiveness, "effectiveness=" ++ effectiveness)])
      else .ok (execution, [])

def assignNotes (changes : RunbookChanges) (execution : RunbookExecution) :
    RunbookExecution × Changed :=
  match changes.notes with
  | none => (execution, [])
  | some notes =>
      if execution.notes ≠ notes then
        ({ execution with notes := notes }, [(.notes, "notes updated")])
      else (execution, [])

/-- A change of status stamps or clears `completed_at`; a resumed execution loses its
effectiveness. -/
def assignStatus (target : RunbookStatus) (now : DateTime) (execution : RunbookExecution) :
    RunbookExecution × Changed :=
  if execution.status = target then (execution, [])
  else
    let moved : Changed :=
      [(.status, "status " ++ execution.status.text ++ "->" ++ target.text)]
    let left := { execution with
      status := target
      completedAt := if target.Terminal then some now else none }
    if target = .inProgress ∧ execution.effectiveness.isSome then
      ({ left with effectiveness := none },
        (.effectiveness, "effectiveness reset after resume") :: moved)
    else (left, moved)

/-- `update_runbook_execution` on the execution it selects for update: the audit entry it
commits, if anything changed, or the error it raises; and the execution afterwards. -/
def updateRunbookExecution (execution : RunbookExecution) (update : RunbookUpdate) :
    Except RunbookError (Option RunbookAudit) × RunbookExecution :=
  let actor := normalizedActor update.actor
  if execution.id ≠ update.executionId ∨ execution.incidentId ≠ update.incidentId then
    (.error (.notFound ("Runbook execution " ++ toString update.executionId ++
      " not found for incident " ++ toString update.incidentId)), execution)
  else
    let current := execution.status
    match validateTransition current (update.changes.status.getD current.text) with
    | .error refused => (.error refused, execution)
    | .ok target =>
        match requestedSteps target update.changes actor update.now execution.steps with
        | .error refused => (.error refused, execution)
        | .ok (steps, stepChange) =>
            match assignEffectiveness target update.changes execution with
            | .error refused => (.error refused, execution)
            | .ok (rated, ratingChange) =>
                let (noted, notesChange) := assignNotes update.changes rated
                -- The steps are assigned only after all validation has succeeded.
                let stepped := if stepChange = [] then noted else { noted with steps := steps }
                let (moved, statusChange) := assignStatus target update.now stepped
                let changed := stepChange ++ ratingChange ++ notesChange ++ statusChange
                if changed = [] then (.ok none, moved)
                else
                  (.ok (some
                    { action := auditAction current target (changed.map Prod.fst)
                      message := "Runbook execution updated for incident #" ++
                        toString update.incidentId ++ ": " ++
                        "; ".intercalate (changed.map Prod.snd)
                      actor := actor }),
                    { moved with updatedAt := update.now })

/-! ## What an accepted update does -/

variable {change : Changed}

section Accepted

variable {execution rated after : RunbookExecution} {target : RunbookStatus}
  {changes : RunbookChanges} {actor : String} {now : DateTime}

theorem mem_allowedTransitions_of_validateTransition {current : RunbookStatus} {wanted : String}
    (valid : validateTransition current wanted = .ok target) :
    target ∈ current.allowedTransitions := by
  simp only [validateTransition] at valid
  cases named : RunbookStatus.ofText? wanted with
  | none => simp only [named, reduceCtorEq] at valid
  | some status =>
      by_cases allowed : status ∈ current.allowedTransitions
      · simp only [named, if_pos allowed, Except.ok.injEq] at valid
        exact valid ▸ allowed
      · simp only [named, if_neg allowed, reduceCtorEq] at valid

theorem requestedSteps_ok {steps newSteps : List RunbookStep}
    (requested : requestedSteps target changes actor now steps = .ok (newSteps, change)) :
    (newSteps = steps ∧ change = []) ∨
      target = .inProgress ∧ ∃ index step completed,
        newSteps = steps.set index (RunbookStep.marked step completed actor now) := by
  unfold requestedSteps at requested
  split at requested
  · cases requested
    exact Or.inl ⟨rfl, rfl⟩
  · rename_i index completed _ _
    by_cases closed : target ≠ .inProgress
    · simp only [if_pos closed, reduceCtorEq] at requested
    rw [if_neg closed] at requested
    split at requested
    · cases requested
    · rename_i step _
      by_cases differs : step.completed ≠ completed
      · rw [if_pos differs] at requested
        cases requested
        exact Or.inr ⟨not_not.1 closed, _, _, _, rfl⟩
      · rw [if_neg differs] at requested
        cases requested
        exact Or.inl ⟨rfl, rfl⟩
  · cases requested

theorem assignEffectiveness_ok
    (assigned : assignEffectiveness target changes execution = .ok (rated, change)) :
    ∃ effectiveness, rated = { execution with effectiveness := effectiveness } ∧
      (effectiveness = execution.effectiveness ∨
        ∀ verdict, effectiveness = some verdict → Rated verdict → target.Terminal) := by
  unfold assignEffectiveness at assigned
  split at assigned
  · cases assigned
    exact ⟨_, rfl, Or.inl rfl⟩
  rename_i effectiveness _
  by_cases unknown : effectiveness ∉ effectivenessValues
  · simp only [if_pos unknown, reduceCtorEq] at assigned
  rw [if_neg unknown] at assigned
  by_cases early : Rated effectiveness ∧ ¬ target.Terminal
  · simp only [if_pos early, reduceCtorEq] at assigned
  rw [if_neg early] at assigned
  by_cases differs : execution.effectiveness ≠ some effectiveness
  · rw [if_pos differs] at assigned
    cases assigned
    refine ⟨_, rfl, Or.inr fun verdict same isVerdict => ?_⟩
    cases same
    exact not_not.1 fun open_ => early ⟨isVerdict, open_⟩
  · rw [if_neg differs] at assigned
    cases assigned
    exact ⟨_, rfl, Or.inl rfl⟩

theorem assignNotes_eq (changes : RunbookChanges) (execution : RunbookExecution) :
    ∃ notes, (assignNotes changes execution).1 = { execution with notes := notes } := by
  unfold assignNotes
  split
  · exact ⟨_, rfl⟩
  · split <;> exact ⟨_, rfl⟩

theorem assignStatus_eq (target : RunbookStatus) (now : DateTime) (execution : RunbookExecution) :
    (assignStatus target now execution).1 = { execution with
      status := target
      completedAt :=
        if execution.status = target then execution.completedAt
        else if target.Terminal then some now else none
      effectiveness :=
        if execution.status ≠ target ∧ target = .inProgress then none
        else execution.effectiveness } := by
  unfold assignStatus
  by_cases same : execution.status = target
  · subst same
    simp
  · by_cases resumed : target = .inProgress
    · subst resumed
      cases rating : execution.effectiveness <;> simp [same]
    · simp [same, resumed]

structure Applied (actor : String) (now : DateTime) (execution after : RunbookExecution) :
    Prop where
  allowed : after.status ∈ execution.status.allowedTransitions
  steps : after.steps = execution.steps ∨
    after.status = .inProgress ∧ ∃ index step completed,
      after.steps = execution.steps.set index (RunbookStep.marked step completed actor now)
  completedAt : after.completedAt =
    if execution.status = after.status then execution.completedAt
    else if after.status.Terminal then some now else none
  verdict : ∀ verdict, after.effectiveness = some verdict → Rated verdict →
    after.status.Terminal ∨
      execution.status = after.status ∧ execution.effectiveness = some verdict

theorem applied_assignStatus {steps : List RunbookStep} {effectiveness : Option String}
    (notes : Option String) (allowed : target ∈ execution.status.allowedTransitions)
    (requested : requestedSteps target changes actor now execution.steps = .ok (steps, change))
    (verdict : effectiveness = execution.effectiveness ∨
      ∀ verdict, effectiveness = some verdict → Rated verdict → target.Terminal) :
    Applied actor now execution (assignStatus target now
      { execution with
        effectiveness := effectiveness
        notes := notes
        steps := if change = [] then execution.steps else steps }).1 := by
  rw [assignStatus_eq]
  refine ⟨allowed, ?_, rfl, ?_⟩
  · rcases requestedSteps_ok requested with ⟨-, rfl⟩ | ⟨inProgress, marked⟩
    · exact Or.inl rfl
    · by_cases unchanged : change = []
      · exact Or.inl (if_pos unchanged)
      · exact Or.inr ⟨inProgress, by simpa only [if_neg unchanged] using marked⟩
  · intro wanted present isVerdict
    by_cases resumed : execution.status ≠ target ∧ target = .inProgress
    · simp only [if_pos resumed, reduceCtorEq] at present
    · simp only [if_neg resumed] at present
      by_cases terminal : target.Terminal
      · exact Or.inl terminal
      · have inProgress : target = .inProgress :=
          not_not.1 fun other => terminal (RunbookStatus.terminal_iff.2 other)
        have same : execution.status = target := by
          by_contra moved
          exact resumed ⟨moved, inProgress⟩
        rcases verdict with kept | rated
        · exact Or.inr ⟨same, by rw [← kept, present]⟩
        · exact Or.inl (rated wanted present isVerdict)

theorem Applied.committed (applied : Applied actor now execution after) (changed : Changed)
    (entry : RunbookAudit) :
    ∃ (audit : Option RunbookAudit) (left : RunbookExecution),
      (if changed = [] then
          ((.ok none, after) :
            Except RunbookError (Option RunbookAudit) × RunbookExecution)
        else (.ok (some entry), { after with updatedAt := now })) = (.ok audit, left) ∧
        Applied actor now execution left := by
  by_cases unchanged : changed = []
  · exact ⟨none, after, if_pos unchanged, applied⟩
  · exact ⟨some entry, _, if_neg unchanged, applied.allowed, applied.steps, applied.completedAt,
      applied.verdict⟩

theorem updateRunbookExecution_cases (execution : RunbookExecution) (update : RunbookUpdate) :
    (∃ refused, updateRunbookExecution execution update = (.error refused, execution)) ∨
      ∃ audit after, updateRunbookExecution execution update = (.ok audit, after) ∧
        Applied (normalizedActor update.actor) update.now execution after := by
  unfold updateRunbookExecution
  dsimp only
  by_cases missing : execution.id ≠ update.executionId ∨ execution.incidentId ≠ update.incidentId
  · exact Or.inl ⟨_, if_pos missing⟩
  rw [if_neg missing]
  cases valid : validateTransition execution.status
      (update.changes.status.getD execution.status.text) with
  | error refused => exact Or.inl ⟨refused, rfl⟩
  | ok target =>
      dsimp only
      cases requested : requestedSteps target update.changes (normalizedActor update.actor)
          update.now execution.steps with
      | error refused => exact Or.inl ⟨refused, rfl⟩
      | ok stepResult =>
          dsimp only
          cases assigned : assignEffectiveness target update.changes execution with
          | error refused => exact Or.inl ⟨refused, rfl⟩
          | ok ratingResult =>
              obtain ⟨effectiveness, rated, verdict⟩ := assignEffectiveness_ok assigned
              obtain ⟨notes, noted⟩ := assignNotes_eq update.changes ratingResult.1
              have stepped : (if stepResult.2 = [] then (assignNotes update.changes ratingResult.1).1
                  else { (assignNotes update.changes ratingResult.1).1 with
                    steps := stepResult.1 }) =
                  { execution with
                    effectiveness := effectiveness
                    notes := notes
                    steps := if stepResult.2 = [] then execution.steps else stepResult.1 } := by
                rw [noted, rated]
                split <;> rfl
              have applied := applied_assignStatus notes
                (mem_allowedTransitions_of_validateTransition valid) requested verdict
              right
              dsimp only
              rw [stepped]
              exact applied.committed _ _

end Accepted

/-! ## Every reachable execution -/

/-- A completed step says when and by whom. -/
def RunbookStep.Stamped (step : RunbookStep) : Prop :=
  ∃ (time : DateTime) (actor : String), step.completedAt = some time.utcIsoformat ∧
    step.completedBy = some actor ∧ actor ≠ ""

/-- What holds of an execution after any updates. -/
structure WellFormed (execution : RunbookExecution) : Prop where
  completedAt : execution.completedAt.isSome ↔ execution.status.Terminal
  verdict : ∀ verdict, execution.effectiveness = some verdict → Rated verdict →
    execution.status.Terminal
  stamped : ∀ step ∈ execution.steps, step.completed = true → step.Stamped

structure LawfulUpdate (execution : RunbookExecution)
    (result : Except RunbookError (Option RunbookAudit) × RunbookExecution) : Prop where
  closed : execution.status = .completed ∨ execution.status = .abandoned →
    result.2.status = execution.status
  steps : result.2.steps ≠ execution.steps → result.2.status = .inProgress
  rejected : ∀ refused, result.1 = .error refused → result.2 = execution

theorem RunbookStep.marked_stamped (step : RunbookStep) (completed : Bool) {actor : String}
    (now : DateTime) (named : actor ≠ "")
    (isCompleted : (step.marked completed actor now).completed = true) :
    (step.marked completed actor now).Stamped := by
  have done : completed = true := isCompleted
  exact ⟨now, actor, by simp [marked, done], by simp [marked, done], named⟩

theorem Applied.wellFormed {actor : String} {now : DateTime} {execution after : RunbookExecution}
    (applied : Applied actor now execution after) (named : actor ≠ "")
    (wellFormed : WellFormed execution) :
    WellFormed after where
  completedAt := by
    rw [applied.completedAt]
    by_cases same : execution.status = after.status
    · rw [if_pos same, ← same]
      exact wellFormed.completedAt
    · rw [if_neg same]
      by_cases terminal : after.status.Terminal <;> simp [terminal]
  verdict := by
    intro verdict present isVerdict
    rcases applied.verdict verdict present isVerdict with terminal | ⟨same, before⟩
    · exact terminal
    · exact same ▸ wellFormed.verdict verdict before isVerdict
  stamped := by
    intro step member completed
    rcases applied.steps with same | ⟨-, index, marked, done, steps⟩
    · exact wellFormed.stamped step (same ▸ member) completed
    · rw [steps] at member
      rcases List.mem_or_eq_of_mem_set member with old | rfl
      · exact wellFormed.stamped step old completed
      · exact marked.marked_stamped done now named completed

theorem lawfulUpdate (execution : RunbookExecution) (update : RunbookUpdate) :
    LawfulUpdate execution (updateRunbookExecution execution update) := by
  rcases updateRunbookExecution_cases execution update with
    ⟨refused, rejected⟩ | ⟨audit, after, accepted, applied⟩
  · rw [rejected]
    exact ⟨fun _ => rfl, fun changed => absurd rfl changed, fun _ _ => rfl⟩
  · rw [accepted]
    refine ⟨fun closed => ?_, fun changed => ?_, fun refused isError => by cases isError⟩
    · have allowed := applied.allowed
      rcases closed with completed | abandoned
      · rw [completed] at allowed ⊢
        exact List.mem_singleton.1 allowed
      · rw [abandoned] at allowed ⊢
        exact List.mem_singleton.1 allowed
    · rcases applied.steps with same | ⟨inProgress, -⟩
      · exact absurd same changed
      · exact inProgress

def updated (execution : RunbookExecution) (update : RunbookUpdate) : RunbookExecution :=
  (updateRunbookExecution execution update).2

theorem WellFormed.updated {execution : RunbookExecution} (wellFormed : WellFormed execution)
    (update : RunbookUpdate) :
    WellFormed (updated execution update) := by
  rw [Runbooks.updated]
  rcases updateRunbookExecution_cases execution update with
    ⟨refused, rejected⟩ | ⟨audit, after, accepted, applied⟩
  · rwa [rejected]
  · rw [accepted]
    exact applied.wellFormed (normalizedActor_ne_empty _) wellFormed

theorem extractSteps_uncompleted {isDecimal : Char → Bool} {lines : List (List Char)} :
    ∀ {fence : Option (List Char)} {steps : List RunbookStep},
      (∀ step ∈ steps, step.completed = false) →
        ∀ step ∈ extractSteps isDecimal fence steps lines, step.completed = false := by
  induction lines with
  | nil =>
      intro fence steps initially
      exact initially
  | cons line lines ih =>
      intro fence steps initially
      unfold extractSteps
      dsimp only
      split
      · exact ih initially
      split
      · exact ih initially
      split
      · exact ih initially
      split
      · exact ih initially
      have extended (text : String) : ∀ step ∈ steps ++ [RunbookStep.mk steps.length
          (truncated text maxStepTextLength) false none none], step.completed = false := by
        intro step member
        rcases List.mem_append.1 member with old | new
        · exact initially step old
        · rw [List.mem_singleton.1 new]
      split
      · exact extended _
      · exact ih (extended _)

theorem startRunbookExecution_wellFormed (isDecimal : Char → Bool) (id incidentId : Nat)
    (candidateRef : String) (runbook : PublishedRunbook) (actor : String) (now : DateTime) :
    WellFormed (startRunbookExecution isDecimal id incidentId candidateRef runbook actor now) where
  completedAt := by simp [startRunbookExecution, RunbookStatus.terminal_iff]
  verdict := by simp [startRunbookExecution]
  stamped := by
    intro step member completed
    have fresh : step.completed = false :=
      extractSteps_uncompleted (by simp) step member
    rw [fresh] at completed
    cases completed

/-- After any updates of a started execution it is well formed, and any further update is
lawful. -/
theorem runbookExecution_wellFormed_and_lawful (isDecimal : Char → Bool) (id incidentId : Nat)
    (candidateRef : String) (runbook : PublishedRunbook) (actor : String) (now : DateTime)
    (updates : List RunbookUpdate) :
    WellFormed (run updated
        (startRunbookExecution isDecimal id incidentId candidateRef runbook actor now) updates) ∧
      ∀ update, LawfulUpdate
        (run updated
          (startRunbookExecution isDecimal id incidentId candidateRef runbook actor now) updates)
        (updateRunbookExecution
          (run updated
            (startRunbookExecution isDecimal id incidentId candidateRef runbook actor now) updates)
          update) :=
  ⟨run_invariant WellFormed
      (startRunbookExecution_wellFormed isDecimal id incidentId candidateRef runbook actor now)
      (fun _ update wellFormed => wellFormed.updated update) updates,
    fun update => lawfulUpdate _ update⟩

end Runbooks

end WebhookWise
