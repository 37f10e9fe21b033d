import WebhookWise.ForwardOutboxRowSteps

/-!
# Where digest messages go

The rows of a digest group share a key, which names a forward rule, a target kind and a window but
not the target; the message goes to the target of the row whose worker leads the group.  After an
edit of the rule a digest settles rows whose own target never received it.
-/

namespace WebhookWise

open SqlTable ForwardChannels ForwardOutboxRecords ForwardOutboxStatements

namespace ForwardOutboxLifecycle

def leads (workers : List Worker) (outboxId : Nat) : Bool :=
  workers.any fun worker =>
    match worker with
    | .holding _ record => record.id = outboxId
    | _ => false

/-- A digest group may still include the row, as a sibling or as its leader. -/
def stillGrouped (workers : List Worker) (row : ForwardOutbox) : Bool :=
  row.status ≠ .sent || leads workers row.id

/-- If the rule files a digest row, the row goes where the rows go which share its
digest key and may still be grouped. -/
def KeepsDigestTarget (env : OutboxEnvironment) (now : DateTime) (policy : ForwardDeliveryPolicy)
    (request : OutboxRequest) (matchedRules : List ForwardRuleSnapshot) (workers : List Worker)
    (table : OutboxTable) (rule : ForwardRuleSnapshot) : Prop :=
  let window := digestWindow env.python now request
  filesRow env.python now policy request window (aiExcluded env.python request matchedRules) table
      rule = true →
    ∀ row ∈ table.rows, row.digestKey.isSome = true →
      row.digestKey = (ruleDigest env.python window rule).map Prod.fst →
      stillGrouped workers row = true → row.targetUrl = rule.targetUrl

instance (env : OutboxEnvironment) (now : DateTime) (policy : ForwardDeliveryPolicy)
    (request : OutboxRequest) (matchedRules : List ForwardRuleSnapshot) (workers : List Worker)
    (table : OutboxTable) (rule : ForwardRuleSnapshot) :
    Decidable (KeepsDigestTarget env now policy request matchedRules workers table rule) :=
  inferInstanceAs (Decidable (_ = true → ∀ row ∈ table.rows, _))

/-- Every row which the event files keeps the target of its digest key. -/
def KeepsDigestTargets (env : OutboxEnvironment) (state : OutboxState) : OutboxEvent → Prop
  | .create now policy request matchedRules =>
      GuardedRuns.Along
        (tableAfterRule env.python now policy request (digestWindow env.python now request)
          (aiExcluded env.python request matchedRules))
        (KeepsDigestTarget env now policy request matchedRules state.workers)
        state.database.outboxes matchedRules
  | _ => True

instance (env : OutboxEnvironment) (state : OutboxState) (event : OutboxEvent) :
    Decidable (KeepsDigestTargets env state event) := by
  unfold KeepsDigestTargets
  split <;> infer_instance

/-! ## The invariant -/

variable {outboxId : Nat}

/-- Rows which share a digest key and may still be grouped have one target. -/
def TargetsAgree (workers : List Worker) (table : OutboxTable) : Prop :=
  ∀ first ∈ table.rows, ∀ second ∈ table.rows,
    first.digestKey.isSome = true → first.digestKey = second.digestKey →
    stillGrouped workers first = true → stillGrouped workers second = true →
    first.targetUrl = second.targetUrl

/-- The table has the row of a snapshot, with the target and key of the snapshot. -/
def Tracked (table : OutboxTable) (record : ForwardOutbox) : Prop :=
  ∃ row ∈ table.rows, row.id = record.id ∧ row.targetUrl = record.targetUrl ∧
    row.digestKey = record.digestKey

def FinalizeTask.records : FinalizeTask → List ForwardOutbox
  | .success record _ _ => [record]
  | _ => []

def Worker.records : Worker → List ForwardOutbox
  | .holding _ record => [record]
  | .grouped _ leader siblings => leader :: siblings
  | .finishing tasks => tasks.flatMap FinalizeTask.records

/-- A digest message went to the target of the row it settles. -/
def FinalizeTask.SendsHome : FinalizeTask → Prop
  | .success record _ (some message) => record.targetUrl = message.targetUrl
  | _ => True

/-- What the worker sends or has sent as a digest goes to the target of each row. -/
def Worker.SendsHome : Worker → Prop
  | .holding _ _ => True
  | .grouped _ leader siblings => ∀ sibling ∈ siblings, sibling.targetUrl = leader.targetUrl
  | .finishing tasks => ∀ task ∈ tasks, task.SendsHome

/-- What keeps digests on their way, in every reachable state. -/
structure RoutingInvariant (state : OutboxState) : Prop where
  agree : TargetsAgree state.workers state.database.outboxes
  tracked : ∀ worker ∈ state.workers, ∀ record ∈ worker.records,
    Tracked state.database.outboxes record
  home : ∀ worker ∈ state.workers, worker.SendsHome
  marks : ∀ mark ∈ state.digestMarks, mark.targetUrl = mark.sentTo

variable {env : OutboxEnvironment}

theorem leads_iff {workers : List Worker} :
    leads workers outboxId = true ↔
      ∃ entry record, Worker.holding entry record ∈ workers ∧ record.id = outboxId := by
  unfold leads
  rw [List.any_eq_true]
  constructor
  · rintro ⟨worker, member, isLeader⟩
    cases worker with
    | holding entry record => exact ⟨entry, record, member, of_decide_eq_true isLeader⟩
    | grouped | finishing => simp at isLeader
  · rintro ⟨entry, record, member, rfl⟩
    exact ⟨_, member, by simp⟩

/-! ## Snapshots stay tracked -/

variable {state : OutboxState} {now : DateTime} {table : OutboxTable}
  {policy : ForwardDeliveryPolicy}

theorem Tracked.of_mem {row : ForwardOutbox} (member : row ∈ table.rows) : Tracked table row :=
  ⟨row, member, rfl, rfl, rfl⟩

theorem Tracked.step {state : OutboxState} {record : ForwardOutbox} (event : OutboxEvent)
    (tracked : Tracked state.database.outboxes record) :
    Tracked (step env state event).database.outboxes record := by
  obtain ⟨row, member, sameId, sameUrl, sameKey⟩ := tracked
  obtain ⟨moved, movedMember, _, steps⟩ := (step_evolves_all env state event).kept row member
  obtain ⟨movedId, movedUrl, movedKey, _⟩ := steps.sameIntent
  exact ⟨moved, movedMember, movedId.trans sameId, movedUrl.trans sameUrl, movedKey.trans sameKey⟩

theorem mem_claimOutbox {record : ForwardOutbox}
    (claims : (claimOutbox policy now outboxId table).2 = some record) :
    record ∈ (claimOutbox policy now outboxId table).1.rows ∧
      ∃ row ∈ table.rows, row.id = record.id ∧ row.status.isQueued = true := by
  unfold claimOutbox at claims ⊢
  split at claims
  · contradiction
  · have returned := List.mem_of_head? claims
    refine ⟨Table.mem_update_of_mem_returning (claimed_id now) returned, ?_⟩
    obtain ⟨row, member, guarded, rfl⟩ := Table.mem_returning.1 returned
    simp only [isClaimable, Bool.and_eq_true] at guarded
    exact ⟨row, member, rfl, guarded.1.2⟩

theorem mem_claimDigestSiblings {leader record : ForwardOutbox}
    (claims : record ∈ (claimDigestSiblings now leader table).2) :
    record ∈ (claimDigestSiblings now leader table).1.rows ∧
      ∃ row ∈ table.rows, isDueSibling now leader row = true ∧
        row.targetUrl = record.targetUrl := by
  have returned := (List.mem_insertionSort _).1 claims
  refine ⟨Table.mem_update_of_mem_returning (claimed_id now) returned, ?_⟩
  obtain ⟨row, member, listed, rfl⟩ := Table.mem_returning.1 returned
  exact ⟨row, member, isDueSibling_of_mem_dueSiblings member (List.contains_iff_mem.1 listed), rfl⟩

theorem gathered_targets {entry : DeliveryEntry} {leader record : ForwardOutbox}
    (invariant : RoutingInvariant state) (member : Worker.holding entry leader ∈ state.workers)
    (claims : record ∈ (claimDigestSiblings now leader state.database.outboxes).2) :
    record.targetUrl = leader.targetUrl := by
  obtain ⟨_, row, rowMember, due, sameUrl⟩ := mem_claimDigestSiblings claims
  obtain ⟨leaderRow, leaderMember, leaderId, leaderUrl, leaderKey⟩ :=
    invariant.tracked _ member leader (by simp [Worker.records])
  simp only [isDueSibling, Bool.and_eq_true, decide_eq_true_eq] at due
  obtain ⟨⟨⟨⟨hasKey, sameKey⟩, _⟩, queued⟩, _⟩ := due
  have leaderGrouped : leader.groupKey = leader.digestKey := by
    unfold ForwardOutbox.groupKey at hasKey ⊢
    cases key : leader.digestKey with
    | none => rfl
    | some text =>
        rw [key] at hasKey
        by_cases empty : text = ""
        · simp [empty] at hasKey
        · simp [empty]
  rw [leaderGrouped] at hasKey sameKey
  rw [← sameUrl, ← leaderUrl]
  refine invariant.agree row rowMember leaderRow leaderMember ?_ ?_ ?_ ?_
  · rwa [sameKey]
  · rw [sameKey, leaderKey]
  · have unsettled := ForwardOutboxStatus.isTerminal_eq_false_of_isQueued queued
    simp [stillGrouped, ForwardOutboxStatus.ne_sent_of_not_isTerminal unsettled]
  · simp only [stillGrouped, Bool.or_eq_true]
    exact Or.inr (leads_iff.2 ⟨entry, leader, member, leaderId.symm⟩)

/-! ## Deliveries -/

theorem records_tasksAfterDelivery {worker : Worker} {outcome : DeliveryOutcome}
    {tasks : List FinalizeTask}
    (delivers : tasksAfterDelivery env now worker outcome = some tasks) :
    ∀ record ∈ tasks.flatMap FinalizeTask.records, record ∈ worker.records := by
  have single (label : String) (message : Option DigestMessage) (held : ForwardOutbox) :
      ∀ record ∈ (tasksAfterSingle env label message held outcome).flatMap FinalizeTask.records,
        record = held := by
    cases outcome with
    | raised error => simp [tasksAfterSingle, FinalizeTask.records]
    | returned result =>
        simp only [tasksAfterSingle]
        split <;> simp [FinalizeTask.records]
  have digest (sentAt : DateTime) (leader : ForwardOutbox) (siblings : List ForwardOutbox) :
      ∀ record ∈ (tasksAfterDigest env sentAt leader siblings outcome).flatMap FinalizeTask.records,
        record ∈ leader :: siblings := by
    cases outcome with
    | raised error => simp [tasksAfterDigest, FinalizeTask.records]
    | returned result =>
        simp only [tasksAfterDigest]
        split
        · intro record member
          simpa [List.flatMap_map, FinalizeTask.records] using member
        · simp [FinalizeTask.records]
  cases worker with
  | holding entry held =>
      simp only [tasksAfterDelivery] at delivers
      intro record member
      split at delivers
      · obtain rfl := Option.some.inj delivers
        simp [Worker.records, single _ _ _ record member]
      · split at delivers
        · contradiction
        · obtain rfl := Option.some.inj delivers
          simpa [Worker.records] using digest _ _ _ record member
  | grouped claimedAt leader siblings =>
      obtain rfl := Option.some.inj delivers
      exact digest _ _ _
  | finishing earlier => contradiction

theorem sendsHome_tasksAfterDelivery {worker : Worker} {outcome : DeliveryOutcome}
    {tasks : List FinalizeTask} (home : worker.SendsHome)
    (delivers : tasksAfterDelivery env now worker outcome = some tasks) :
    ∀ task ∈ tasks, task.SendsHome := by
  have digest (sentAt : DateTime) (leader : ForwardOutbox) (siblings : List ForwardOutbox)
      (agrees : ∀ sibling ∈ siblings, sibling.targetUrl = leader.targetUrl) :
      ∀ task ∈ tasksAfterDigest env sentAt leader siblings outcome, task.SendsHome := by
    cases outcome with
    | raised error => simp [tasksAfterDigest, FinalizeTask.SendsHome]
    | returned result =>
        simp only [tasksAfterDigest]
        split
        · simpa [FinalizeTask.SendsHome, digestMessage] using agrees
        · simp [FinalizeTask.SendsHome]
  cases worker with
  | holding entry held =>
      simp only [tasksAfterDelivery] at delivers
      split at delivers
      · obtain rfl := Option.some.inj delivers
        cases outcome with
        | raised error => simp [tasksAfterSingle, FinalizeTask.SendsHome]
        | returned result =>
            simp only [tasksAfterSingle]
            split <;> simp [FinalizeTask.SendsHome]
      · split at delivers
        · contradiction
        · obtain rfl := Option.some.inj delivers
          exact digest _ _ [] (by simp)
  | grouped claimedAt leader siblings =>
      obtain rfl := Option.some.inj delivers
      exact digest _ _ _ home
  | finishing earlier => contradiction

theorem marksOfTask_home {task : FinalizeTask} {database : Database} (home : task.SendsHome)
    (tracked : ∀ record ∈ task.records, Tracked database.outboxes record) :
    ∀ mark ∈ marksOfTask task (runTask env policy now task database).settled,
      mark.targetUrl = mark.sentTo := by
  cases task with
  | failure | park => simp [marksOfTask]
  | success record result message =>
      cases message with
      | none => simp [marksOfTask]
      | some message =>
          cases ended : finalizeOutboxSuccess env now record result database with
          | alreadySettled | rolledBack => simp [runTask, ended, marksOfTask]
          | settled settledDatabase current =>
              obtain ⟨row, member, rowId, _, rfl⟩ :=
                unsettled_of_returning_sent (settled_outboxes ended).1
              obtain ⟨tracking, trackingMember, sameId, sameUrl, _⟩ :=
                tracked record (by simp [FinalizeTask.records])
              have same : row = tracking :=
                Table.eq_of_key_eq member trackingMember (rowId.trans sameId.symm)
              have rowUrl : row.targetUrl = record.targetUrl := by rw [same, sameUrl]
              simp only [runTask, ended, marksOfTask, List.mem_singleton, forall_eq]
              exact rowUrl.trans home

/-! ## What an event does to the workers -/

variable {event : OutboxEvent}

/-- A worker that stands elsewhere after an event than before it. -/
inductive MovedWorker (env : OutboxEnvironment) (state : OutboxState) : OutboxEvent → Worker → Prop
    where
  | claimed {now : DateTime} {policy : ForwardDeliveryPolicy} {entry : DeliveryEntry}
      {outboxId : Nat} {record : ForwardOutbox}
      (claims : (claimOutbox policy now outboxId state.database.outboxes).2 = some record) :
      MovedWorker env state (.claim now policy entry outboxId) (.holding entry record)
  | gathered {now : DateTime} {worker : Nat} {entry : DeliveryEntry} {leader : ForwardOutbox}
      (member : .holding entry leader ∈ state.workers)
      (gathers : gathersSiblings env leader = true)
      (atWorker : state.workers[worker]? = some (.holding entry leader)) :
      MovedWorker env state (.claimSiblings now worker)
        (.grouped now leader (claimDigestSiblings now leader state.database.outboxes).2)
  | delivered {now : DateTime} {worker : Nat} {outcome : DeliveryOutcome} {current : Worker}
      {tasks : List FinalizeTask} (member : current ∈ state.workers)
      (delivers : tasksAfterDelivery env now current outcome = some tasks) :
      MovedWorker env state (.deliver now worker outcome) (.finishing tasks)
  | finalized {now : DateTime} {policy : ForwardDeliveryPolicy} {worker : Nat}
      {task : FinalizeTask} {tasks left : List FinalizeTask}
      (member : .finishing (task :: tasks) ∈ state.workers) (fewer : left ⊆ tasks) :
      MovedWorker env state (.finalize now policy worker) (.finishing left)

theorem step_workers {worker : Worker} (member : worker ∈ (step env state event).workers) :
    worker ∈ state.workers ∨ MovedWorker env state event worker := by
  cases event with
  | create | scan | requeue => exact Or.inl member
  | claim now policy entry outboxId =>
      simp only [step, List.mem_append, List.mem_map, Option.mem_toList] at member
      rcases member with old | ⟨record, claims, rfl⟩
      · exact Or.inl old
      · exact Or.inr (.claimed claims)
  | claimSiblings now index =>
      simp only [step] at member
      split at member
      · rename_i entry leader atWorker
        split at member
        · rename_i gathers
          rcases List.mem_or_eq_of_mem_set member with old | rfl
          · exact Or.inl old
          · exact Or.inr (.gathered (List.mem_of_getElem? atWorker) gathers atWorker)
        · exact Or.inl member
      · exact Or.inl member
  | deliver now index outcome =>
      simp only [step] at member
      split at member
      · rename_i current atWorker
        split at member
        · rename_i tasks delivers
          rcases List.mem_or_eq_of_mem_set member with old | rfl
          · exact Or.inl old
          · exact Or.inr (.delivered (List.mem_of_getElem? atWorker) delivers)
        · exact Or.inl member
      · exact Or.inl member
  | finalize now policy index =>
      simp only [step] at member
      split at member
      · rename_i task tasks atWorker
        rcases List.mem_or_eq_of_mem_set member with old | rfl
        · exact Or.inl old
        · refine Or.inr (.finalized (List.mem_of_getElem? atWorker) ?_)
          split
          · exact List.nil_subset tasks
          · exact List.Subset.refl tasks
      · exact Or.inl member

theorem leads_step (leading : leads (step env state event).workers outboxId = true) :
    leads state.workers outboxId = true ∨
      ∃ row ∈ state.database.outboxes.rows, row.id = outboxId ∧ row.status ≠ .sent := by
  obtain ⟨entry, record, member, rfl⟩ := leads_iff.1 leading
  rcases step_workers member with old | moved
  · exact Or.inl (leads_iff.2 ⟨entry, record, old, rfl⟩)
  · cases moved with
    | claimed claims =>
        obtain ⟨_, row, rowMember, sameId, queued⟩ := mem_claimOutbox claims
        have unsettled := ForwardOutboxStatus.isTerminal_eq_false_of_isQueued queued
        exact Or.inr
          ⟨row, rowMember, sameId, ForwardOutboxStatus.ne_sent_of_not_isTerminal unsettled⟩

theorem stillGrouped_of_step {row moved : ForwardOutbox}
    (member : row ∈ state.database.outboxes.rows)
    (steps : EventSteps env state event (fun _ => True) row moved)
    (grouped : stillGrouped (step env state event).workers moved = true) :
    stillGrouped state.workers row = true := by
  simp only [stillGrouped, Bool.or_eq_true, ne_eq, decide_not, Bool.not_eq_true',
    decide_eq_false_iff_not] at grouped ⊢
  rcases grouped with notSent | leading
  · exact Or.inl fun isSent => notSent (steps.sent isSent)
  · rw [steps.sameIntent.1] at leading
    rcases leads_step leading with led | ⟨other, otherMember, sameId, notSent⟩
    · exact Or.inr led
    · rw [← Table.eq_of_key_eq otherMember member sameId]
      exact Or.inl notSent

/-! ## The step lemma -/

theorem targetsAgree_fileRules {request : OutboxRequest} {workers : List Worker}
    (matchedRules rules : List ForwardRuleSnapshot) (agree : TargetsAgree workers table)
    (along : GuardedRuns.Along
      (tableAfterRule env.python now policy request (digestWindow env.python now request)
        (aiExcluded env.python request matchedRules))
      (KeepsDigestTarget env now policy request matchedRules workers) table rules) :
    TargetsAgree workers (GuardedRuns.run
      (tableAfterRule env.python now policy request (digestWindow env.python now request)
        (aiExcluded env.python request matchedRules)) table rules) := by
  refine along.invariant (TargetsAgree workers) agree ?_
  intro current rule agrees keeps
  rw [tableAfterRule_eq]
  split
  · rename_i files
    have keepsRule := keeps files
    intro first firstMember second secondMember hasKey sameKey firstGrouped secondGrouped
    rcases Table.mem_insert.1 firstMember with firstOld | rfl <;>
      rcases Table.mem_insert.1 secondMember with secondOld | rfl
    · exact agrees first firstOld second secondOld hasKey sameKey firstGrouped secondGrouped
    · exact keepsRule first firstOld hasKey sameKey firstGrouped
    · exact (keepsRule second secondOld (sameKey ▸ hasKey) sameKey.symm secondGrouped).symm
    · rfl
  · exact agrees

theorem targetsAgree_step (agree : TargetsAgree state.workers state.database.outboxes)
    (keeps : KeepsDigestTargets env state event) :
    TargetsAgree (step env state event).workers (step env state event).database.outboxes := by
  cases creates : event.isCreate with
  | true =>
      cases event with
      | create now policy request matchedRules =>
          simp only [step, createOutboxRecords, fileRules_table]
          exact targetsAgree_fileRules matchedRules matchedRules agree keeps
      | _ => contradiction
  | false =>
      have moves : Table.Evolves (EventSteps env state event fun _ => True) (fun _ => False)
          state.database.outboxes (step env state event).database.outboxes :=
        step_rowsMove env state event creates fun _ _ => trivial
      intro first firstMember second secondMember hasKey sameKey firstGrouped secondGrouped
      obtain ⟨firstOld, firstOldMember, _, firstSteps⟩ :=
        (moves.origin first firstMember).resolve_right id
      obtain ⟨secondOld, secondOldMember, _, secondSteps⟩ :=
        (moves.origin second secondMember).resolve_right id
      obtain ⟨_, firstUrl, firstKey, _⟩ := firstSteps.sameIntent
      obtain ⟨_, secondUrl, secondKey, _⟩ := secondSteps.sameIntent
      rw [firstKey] at hasKey
      rw [firstKey, secondKey] at sameKey
      rw [firstUrl, secondUrl]
      exact agree firstOld firstOldMember secondOld secondOldMember hasKey sameKey
        (stillGrouped_of_step firstOldMember firstSteps firstGrouped)
        (stillGrouped_of_step secondOldMember secondSteps secondGrouped)

theorem tracked_step (invariant : RoutingInvariant state) :
    ∀ worker ∈ (step env state event).workers, ∀ record ∈ worker.records,
      Tracked (step env state event).database.outboxes record := by
  intro worker member record held
  rcases step_workers member with old | moved
  · exact (invariant.tracked worker old record held).step event
  · cases moved with
    | claimed claims =>
        rw [List.mem_singleton.1 held]
        exact Tracked.of_mem (mem_claimOutbox claims).1
    | gathered leaderMember gathers atWorker =>
        rcases List.mem_cons.1 held with rfl | sibling
        · exact (invariant.tracked _ leaderMember record (by simp [Worker.records])).step _
        · have inTable := (mem_claimDigestSiblings sibling).1
          exact Tracked.of_mem (by simpa [step, atWorker, gathers] using inTable)
    | delivered current delivers =>
        exact (invariant.tracked _ current record
          (records_tasksAfterDelivery delivers record held)).step _
    | finalized current fewer =>
        obtain ⟨task, taskMember, recordMember⟩ := List.mem_flatMap.1 held
        refine (invariant.tracked _ current record ?_).step _
        exact List.mem_flatMap.2 ⟨task, List.mem_cons_of_mem _ (fewer taskMember), recordMember⟩

theorem home_step (invariant : RoutingInvariant state) :
    ∀ worker ∈ (step env state event).workers, worker.SendsHome := by
  intro worker member
  rcases step_workers member with old | moved
  · exact invariant.home worker old
  · cases moved with
    | claimed claims => trivial
    | gathered leaderMember gathers atWorker =>
        exact fun sibling claims => gathered_targets invariant leaderMember claims
    | delivered current delivers =>
        exact sendsHome_tasksAfterDelivery (invariant.home _ current) delivers
    | finalized current fewer =>
        exact fun task taskMember =>
          invariant.home _ current task (List.mem_cons_of_mem _ (fewer taskMember))

theorem marks_step (invariant : RoutingInvariant state) :
    ∀ mark ∈ (step env state event).digestMarks, mark.targetUrl = mark.sentTo := by
  intro mark member
  cases event with
  | finalize now policy worker =>
      simp only [step] at member
      split at member
      · rename_i task tasks atWorker
        have current := List.mem_of_getElem? atWorker
        rcases List.mem_append.1 member with old | new
        · exact invariant.marks mark old
        · refine marksOfTask_home (invariant.home _ current task (by simp)) ?_ mark new
          intro record held
          refine invariant.tracked _ current record ?_
          exact List.mem_flatMap.2 ⟨task, by simp, held⟩
      · exact invariant.marks mark member
  | claimSiblings | deliver =>
      refine invariant.marks mark ?_
      simp only [step] at member
      repeat' split at member
      all_goals exact member
  | create | claim | scan | requeue => exact invariant.marks mark member

theorem step_routing (state : OutboxState) (event : OutboxEvent)
    (invariant : RoutingInvariant state) (keeps : KeepsDigestTargets env state event) :
    RoutingInvariant (step env state event) where
  agree := targetsAgree_step invariant.agree keeps
  tracked := tracked_step invariant
  home := home_step invariant
  marks := marks_step invariant

/-- In every run in which filed rows keep the targets of their digest keys, each
row which a digest settles got its message at its own target, and each group in
flight has one target. -/
theorem digests_reach_their_targets (env : OutboxEnvironment)
    (webhookEvents : Table WebhookEventNotice.id) (forwardRules : Table ForwardRule.id)
    (events : List OutboxEvent)
    (along : GuardedRuns.Along (step env) (KeepsDigestTargets env)
      (initial webhookEvents forwardRules) events) :
    let state := GuardedRuns.run (step env) (initial webhookEvents forwardRules) events
    (∀ mark ∈ state.digestMarks, mark.targetUrl = mark.sentTo) ∧
      ∀ claimedAt leader siblings, Worker.grouped claimedAt leader siblings ∈ state.workers →
        ∀ sibling ∈ siblings, sibling.targetUrl = leader.targetUrl := by
  have initially : RoutingInvariant (initial webhookEvents forwardRules) := by
    constructor <;> simp [initial, Table.empty, TargetsAgree]
  have invariant := along.invariant RoutingInvariant initially step_routing
  exact ⟨invariant.marks, fun claimedAt leader siblings member => invariant.home _ member⟩

/-! ## A rule edited inside a digest window -/

def digestedRequest (webhookId : Nat) : OutboxRequest :=
  { sampleRequest with
    webhookId := some webhookId
    analysisResult := some [("_digest", .dict [("window_minutes", .int 60), ("rule", .str "cpu")])] }

def chatRule (targetUrl : String) : ForwardRuleSnapshot where
  id := some 1
  name := "on call"
  targetType := "feishu_app"
  targetUrl := targetUrl
  targetName := ""
  targetGateway := ""

/-- Two alerts of one window are filed under the rule, which has these targets at
the time; after the window their digest is delivered and settled. -/
def digestRun (firstTarget secondTarget : String) : List OutboxEvent :=
  let windowEnd := sampleTime.addSeconds 2800
  [.create sampleTime samplePolicy (digestedRequest 1) [chatRule firstTarget],
    .create (sampleTime.addSeconds 60) samplePolicy (digestedRequest 2) [chatRule secondTarget],
    .claim windowEnd samplePolicy .scheduled 1,
    .claimSiblings windowEnd 0,
    .deliver windowEnd 0 (.returned [("status", .str "success")]),
    .finalize (windowEnd.addSeconds 1) samplePolicy 0,
    .finalize (windowEnd.addSeconds 2) samplePolicy 0]

/-- Digests do not go to the targets of their rows in all runs: the rule is edited
between two alerts of a window. -/
theorem edited_rule_redirects_digest :
    ¬ ∀ (env : OutboxEnvironment) (webhookEvents : Table WebhookEventNotice.id)
        (forwardRules : Table ForwardRule.id) (events : List OutboxEvent),
      ∀ mark ∈ (GuardedRuns.run (step env) (initial webhookEvents forwardRules)
        events).digestMarks, mark.targetUrl = mark.sentTo := by
  intro sendsHome
  have home := sendsHome sampleEnvironment Table.empty Table.empty
    (digestRun "feishu-app://oc_team_a" "feishu-app://oc_team_b")
  exact absurd home (by decide)

/-- When the rule is not edited, the digest settles both rows at their target. -/
theorem digests_reach_their_targets_unedited :
    let state := GuardedRuns.run (step sampleEnvironment) (initial Table.empty Table.empty)
      (digestRun "feishu-app://oc_team_a" "feishu-app://oc_team_a")
    state.digestMarks.length = 2 ∧
      (∀ mark ∈ state.digestMarks, mark.targetUrl = mark.sentTo) ∧
      ∀ claimedAt leader siblings, Worker.grouped claimedAt leader siblings ∈ state.workers →
        ∀ sibling ∈ siblings, sibling.targetUrl = leader.targetUrl :=
  ⟨by decide, digests_reach_their_targets sampleEnvironment Table.empty Table.empty
    (digestRun "feishu-app://oc_team_a" "feishu-app://oc_team_a") (by decide)⟩

end ForwardOutboxLifecycle

end WebhookWise
