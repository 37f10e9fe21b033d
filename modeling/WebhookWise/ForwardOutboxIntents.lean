import WebhookWise.ForwardOutboxRowSteps

/-!
# Which intents share an outbox row

A caller of `create_outbox_records` means something by each rule it passes: an event to
be delivered to the target of a rule, under an event type, perhaps in a digest, perhaps
told apart by an extra text.  The idempotency key is to make equal intents end on one
row and different ones on different rows.
-/

namespace WebhookWise

open SqlTable ForwardOutboxRecords

structure DeliveryIntent where
  webhookId : Option Nat
  ruleId : Option Nat
  targetType : String
  targetUrl : String
  eventType : String
  digestKey : Option String
  idempotencyExtra : String
deriving DecidableEq

variable (python : PythonRuntime)

/-- An intent that was filed, and the row it ended on. -/
structure FiledIntent where
  intent : DeliveryIntent
  isPeriodicReminder : Bool
  outboxId : Nat
deriving DecidableEq

namespace ForwardOutboxIntents

/-! ## Key texts -/

/-- `rule_id or 'default'` in the key text. -/
def keyRule : Option Nat → String
  | none | some 0 => "default"
  | some id => toString id

/-- `target_type|target_url|reminder|extra`, the end of the key text. -/
def keyTail (filed : FiledIntent) : String :=
  filed.intent.targetType ++ "|" ++ filed.intent.targetUrl ++ "|" ++
    (if filed.isPeriodicReminder then "1" else "0") ++ "|" ++ filed.intent.idempotencyExtra

def keyText (filed : FiledIntent) : String :=
  toString (filed.intent.webhookId.getD 0) ++ "|" ++ keyRule filed.intent.ruleId ++ "|" ++
    keyTail filed

def keyDigest (filed : FiledIntent) : String :=
  truncated (python.sha256Hexdigest (keyText filed)) 32

def filedKey (filed : FiledIntent) : String :=
  "forward:" ++ toString (filed.intent.webhookId.getD 0) ++ ":" ++ keyDigest python filed

/-- Two intents which the key text does not tell apart. -/
structure SharesKey (first second : FiledIntent) : Prop where
  webhookId : first.intent.webhookId.getD 0 = second.intent.webhookId.getD 0
  ruleId : first.intent.ruleId.getD 0 = second.intent.ruleId.getD 0
  tail : keyTail first = keyTail second

instance (first second : FiledIntent) : Decidable (SharesKey first second) :=
  decidable_of_iff (first.intent.webhookId.getD 0 = second.intent.webhookId.getD 0 ∧
      first.intent.ruleId.getD 0 = second.intent.ruleId.getD 0 ∧ keyTail first = keyTail second)
    ⟨fun shared => ⟨shared.1, shared.2.1, shared.2.2⟩,
      fun shared => ⟨shared.webhookId, shared.ruleId, shared.tail⟩⟩

theorem bar_not_mem_keyRule (ruleId : Option Nat) : '|' ∉ (keyRule ruleId).toList := by
  unfold keyRule
  split
  · decide
  · decide
  · exact not_mem_toString (by decide) _

theorem repr_ne_default (number : Nat) : number.repr ≠ "default" := by
  intro same
  apply @not_mem_toString 'd' (by decide) number
  change 'd' ∈ number.repr.toList
  rw [same]
  decide

theorem keyRule_inj {first second : Option Nat} :
    keyRule first = keyRule second ↔ first.getD 0 = second.getD 0 := by
  rcases first with _ | _ | first <;> rcases second with _ | _ | second <;>
    simp [keyRule, repr_ne_default, (repr_ne_default _).symm]

theorem keyText_eq_iff (first second : FiledIntent) :
    keyText first = keyText second ↔ SharesKey first second := by
  have split (filed : FiledIntent) : (keyText filed).toList =
      (toString (filed.intent.webhookId.getD 0)).toList ++
        '|' :: ((keyRule filed.intent.ruleId).toList ++ '|' :: (keyTail filed).toList) := by
    simp [keyText]
  rw [← String.toList_inj, split, split,
    joined_inj (not_mem_toString (by decide) _) (not_mem_toString (by decide) _),
    joined_inj (bar_not_mem_keyRule _) (bar_not_mem_keyRule _)]
  simp only [String.toList_inj]
  constructor
  · rintro ⟨webhookId, ruleId, tail⟩
    exact ⟨Nat.repr_injective webhookId, keyRule_inj.1 ruleId, tail⟩
  · rintro ⟨webhookId, ruleId, tail⟩
    exact ⟨congrArg toString webhookId, keyRule_inj.2 ruleId, tail⟩

theorem sameReminder_of_keyTail {first second : FiledIntent}
    (sameIntent : first.intent = second.intent) (sameTail : keyTail first = keyTail second) :
    first.isPeriodicReminder = second.isPeriodicReminder := by
  have characters := congrArg String.toList sameTail
  simp only [keyTail, sameIntent, String.toList_append, List.append_assoc,
    List.append_cancel_left_eq] at characters
  cases firstFlag : first.isPeriodicReminder <;> cases secondFlag : second.isPeriodicReminder <;>
    simp [firstFlag, secondFlag] at characters ⊢

/-! ## Filing one rule -/

/-- No idempotency key is used twice: the unique index of the table. -/
def KeysUnique (table : OutboxTable) : Prop :=
  ∀ first ∈ table.rows, ∀ second ∈ table.rows,
    first.idempotencyKey = second.idempotencyKey → first.id = second.id

section Filing

variable {python : PythonRuntime} {now : DateTime} {policy : ForwardDeliveryPolicy}
  {request : OutboxRequest} {window : Option (DateTime × DateTime)} {excluded : Bool}
  {table : OutboxTable} {rule : ForwardRuleSnapshot}

def ruleKey (python : PythonRuntime) (request : OutboxRequest) (rule : ForwardRuleSnapshot) :
    String :=
  idempotencyKey python (request.webhookId.getD 0) rule.id (ruleTargetType rule) rule.targetUrl
    request.isPeriodicReminder request.idempotencyExtra

/-- What filing a rule can do: skip it, find its row, or insert its row. -/
inductive Files (python : PythonRuntime) (now : DateTime) (policy : ForwardDeliveryPolicy)
    (request : OutboxRequest) (window : Option (DateTime × DateTime)) (excluded : Bool)
    (table : OutboxTable) (rule : ForwardRuleSnapshot) : OutboxTable × Option Nat → Prop where
  | skipped (skips : skipsRule python window excluded request rule = true) :
      Files python now policy request window excluded table rule (table, none)
  | found (kept : skipsRule python window excluded request rule = false) (row : ForwardOutbox)
      (member : row ∈ table.rows) (sameKey : row.idempotencyKey = ruleKey python request rule) :
      Files python now policy request window excluded table rule (table, some row.id)
  | inserted (kept : skipsRule python window excluded request rule = false)
      (fresh : ∀ row ∈ table.rows, row.idempotencyKey ≠ ruleKey python request rule) :
      Files python now policy request window excluded table rule
        (table.insert (newRecord python now policy request window rule) fun _ => rfl,
          some table.nextKey)

theorem fileRule_files :
    Files python now policy request window excluded table rule
      (fileRule python now policy request window excluded table rule) := by
  unfold fileRule
  split
  · rename_i skips
    exact .skipped skips
  · rename_i kept
    have kept := Bool.eq_false_of_not_eq_true kept
    change Files _ _ _ _ _ _ _ _ (_, some _)
    unfold insertOutboxOrExisting
    split
    · rename_i existing found
      obtain ⟨row, first, rfl⟩ := Option.map_eq_some_iff.1 found
      have sameKey : row.idempotencyKey =
          (newRecord python now policy request window rule table.nextKey).idempotencyKey := by
        simpa using List.find?_some first
      exact .found kept row (List.mem_of_find?_eq_some first) sameKey
    · rename_i missing
      refine .inserted kept fun row member sameKey => ?_
      have absent := List.find?_eq_none.1 (Option.map_eq_none_iff.1 missing) row member
      exact absent (decide_eq_true sameKey)

def keptRules (python : PythonRuntime) (request : OutboxRequest)
    (window : Option (DateTime × DateTime)) (excluded : Bool) (rules : List ForwardRuleSnapshot) :
    List ForwardRuleSnapshot :=
  rules.filter fun rule => !skipsRule python window excluded request rule

/-- What filing the rules of a call leaves behind: the rows of before, unique keys, and
for each kept rule a row under its key, whose id is returned. -/
structure FilesAll (python : PythonRuntime) (request : OutboxRequest)
    (kept : List ForwardRuleSnapshot) (before : OutboxTable) (result : OutboxTable × List Nat) :
    Prop where
  keeps : ∀ row ∈ before.rows, row ∈ result.1.rows
  keysUnique : KeysUnique result.1
  recorded : List.Forall₂ (fun rule id => ∃ row ∈ result.1.rows,
    row.id = id ∧ row.idempotencyKey = ruleKey python request rule) kept result.2

theorem keysUnique_insert {build : Nat → ForwardOutbox} {keyed : ∀ id, (build id).id = id}
    (unique : KeysUnique table)
    (fresh : ∀ row ∈ table.rows, row.idempotencyKey ≠ (build table.nextKey).idempotencyKey) :
    KeysUnique (table.insert build keyed) := by
  intro first firstMember second secondMember sameKey
  rcases Table.mem_insert.1 firstMember with firstOld | rfl
  · rcases Table.mem_insert.1 secondMember with secondOld | rfl
    · exact unique first firstOld second secondOld sameKey
    · exact absurd sameKey (fresh first firstOld)
  · rcases Table.mem_insert.1 secondMember with secondOld | rfl
    · exact absurd sameKey.symm (fresh second secondOld)
    · rfl

theorem fileRules_filesAll (rules : List ForwardRuleSnapshot) (unique : KeysUnique table) :
    FilesAll python request (keptRules python request window excluded rules) table
      (fileRules python now policy request window excluded table rules) := by
  induction rules generalizing table with
  | nil => exact ⟨fun _ member => member, unique, .nil⟩
  | cons rule rules ih =>
      have files : Files python now policy request window excluded table rule
          (fileRule python now policy request window excluded table rule) := fileRule_files
      simp only [fileRules]
      generalize fileRule python now policy request window excluded table rule = filed at files ⊢
      cases files with
      | skipped skips =>
          have rest := ih unique
          refine ⟨rest.keeps, rest.keysUnique, ?_⟩
          rw [keptRules, List.filter_cons_of_neg (by simp [skips])]
          exact rest.recorded
      | found kept row member sameKey =>
          have rest := ih unique
          refine ⟨rest.keeps, rest.keysUnique, ?_⟩
          rw [keptRules, List.filter_cons_of_pos (by simp [kept])]
          exact .cons ⟨row, rest.keeps row member, rfl, sameKey⟩ rest.recorded
      | inserted kept fresh =>
          have insertedUnique : KeysUnique (table.insert
              (newRecord python now policy request window rule) fun _ => rfl) :=
            keysUnique_insert unique fresh
          have rest := ih insertedUnique
          have new := rest.keeps _ (Table.mem_insert.2 (Or.inr rfl))
          refine ⟨fun row member => rest.keeps row (Table.mem_insert.2 (Or.inl member)),
            rest.keysUnique, ?_⟩
          rw [keptRules, List.filter_cons_of_pos (by simp [kept])]
          exact .cons ⟨_, new, rfl, rfl⟩ rest.recorded

end Filing

/-! ## Runs of the outbox -/

def intentOf (request : OutboxRequest) (window : Option (DateTime × DateTime))
    (rule : ForwardRuleSnapshot) : DeliveryIntent where
  webhookId := request.webhookId
  ruleId := rule.id
  targetType := ruleTargetType rule
  targetUrl := rule.targetUrl
  eventType := request.eventType
  digestKey := (ruleDigest python window rule).map Prod.fst
  idempotencyExtra := request.idempotencyExtra

/-- The intents which a call of `create_outbox_records` files, and where they end. -/
def filedIntents (now : DateTime) (policy : ForwardDeliveryPolicy) (request : OutboxRequest)
    (rules : List ForwardRuleSnapshot) (table : OutboxTable) : List FiledIntent :=
  let window := digestWindow python now request
  ((keptRules python request window (aiExcluded python request rules) rules).zip
    (createOutboxRecords python now policy request rules table).2).map fun filed =>
      ⟨intentOf python request window filed.1, request.isPeriodicReminder, filed.2⟩

open ForwardOutboxLifecycle

/-- The outbox, and the intents filed so far. -/
structure IntentHistory where
  outbox : OutboxState
  filed : List FiledIntent

/-- One event of the outbox.  Besides filing, rows are claimed, delivered, recovered and
requeued in between. -/
def historyStep (env : OutboxEnvironment) (history : IntentHistory) (event : OutboxEvent) :
    IntentHistory where
  outbox := step env history.outbox event
  filed := history.filed ++
    match event with
    | .create now policy request rules =>
        filedIntents env.python now policy request rules history.outbox.database.outboxes
    | _ => []

def filedInRun (env : OutboxEnvironment) (webhookEvents : Table WebhookEventNotice.id)
    (forwardRules : Table ForwardRule.id) (events : List OutboxEvent) : List FiledIntent :=
  (GuardedRuns.run (historyStep env) ⟨initial webhookEvents forwardRules, []⟩ events).filed

/-- Two intents end on one row if and only if they are the same. -/
def IdempotencyExact (filed : List FiledIntent) : Prop :=
  ∀ first ∈ filed, ∀ second ∈ filed,
    first.outboxId = second.outboxId ↔ first.intent = second.intent

/-- Different key texts have different digests. -/
def NoCollision (filed : List FiledIntent) : Prop :=
  ∀ first ∈ filed, ∀ second ∈ filed,
    keyDigest python first = keyDigest python second → keyText first = keyText second

/-- What the key text says of the intents is what makes them the same. -/
structure KeysTellIntents (filed : List FiledIntent) : Prop where
  /-- An intent is not filed both as a reminder and otherwise. -/
  sameReminder : ∀ first ∈ filed, ∀ second ∈ filed,
    first.intent = second.intent → first.isPeriodicReminder = second.isPeriodicReminder
  /-- No two intents of one key text differ in the event type or the digest key, in a
  missing id and a zero one, or in where their joined fields end. -/
  sameIntent : ∀ first ∈ filed, ∀ second ∈ filed,
    SharesKey first second → first.intent = second.intent

/-- The rows of the table are those on which the intents ended, told apart by their keys. -/
structure HistoryRecorded (python : PythonRuntime) (history : IntentHistory) : Prop where
  keysUnique : KeysUnique history.outbox.database.outboxes
  recorded : ∀ filed ∈ history.filed, ∃ row ∈ history.outbox.database.outboxes.rows,
    row.id = filed.outboxId ∧ row.idempotencyKey = filedKey python filed

section Runs

variable {env : OutboxEnvironment} {history : IntentHistory}

theorem RowSteps.idempotencyKey {requeuedId sentId : Option Nat}
    {Returned : ForwardOutbox → Prop} {row moved : ForwardOutbox}
    (steps : RowSteps requeuedId sentId Returned row moved) :
    moved.idempotencyKey = row.idempotencyKey := by
  refine RowSteps.keep (fun current => current.idempotencyKey = row.idempotencyKey) steps ?_ rfl
  rintro before after write same
  cases write <;> exact same

theorem createOutboxRecords_filesAll (now : DateTime) (policy : ForwardDeliveryPolicy)
    (request : OutboxRequest) (rules : List ForwardRuleSnapshot) {table : OutboxTable}
    (unique : KeysUnique table) :
    FilesAll python request
      (keptRules python request (digestWindow python now request)
        (aiExcluded python request rules) rules)
      table (createOutboxRecords python now policy request rules table) :=
  fileRules_filesAll rules unique

theorem ruleKey_eq_filedKey (request : OutboxRequest) (window : Option (DateTime × DateTime))
    (rule : ForwardRuleSnapshot) (id : Nat) :
    ruleKey python request rule =
      filedKey python ⟨intentOf python request window rule, request.isPeriodicReminder, id⟩ := by
  have sameText : toString (request.webhookId.getD 0) ++ "|" ++ keyRule rule.id ++ "|" ++
      ruleTargetType rule ++ "|" ++ rule.targetUrl ++ "|" ++
      (if request.isPeriodicReminder then "1" else "0") ++ "|" ++ request.idempotencyExtra =
        keyText ⟨intentOf python request window rule, request.isPeriodicReminder, id⟩ := by
    simp only [keyText, keyTail, intentOf, String.append_assoc]
  rw [filedKey, keyDigest, ← sameText]
  rfl

theorem filedIntents_recorded {python : PythonRuntime} {now : DateTime}
    {policy : ForwardDeliveryPolicy} {request : OutboxRequest} {rules : List ForwardRuleSnapshot}
    {table : OutboxTable} (unique : KeysUnique table) {filed : FiledIntent}
    (member : filed ∈ filedIntents python now policy request rules table) :
    ∃ row ∈ (createOutboxRecords python now policy request rules table).1.rows,
      row.id = filed.outboxId ∧ row.idempotencyKey = filedKey python filed := by
  obtain ⟨⟨rule, id⟩, paired, rfl⟩ := List.mem_map.1 member
  have files := createOutboxRecords_filesAll python now policy request rules unique
  obtain ⟨row, rowMember, sameId, sameKey⟩ := (List.forall₂_iff_zip.1 files.recorded).2 paired
  exact ⟨row, rowMember, sameId, sameKey.trans (ruleKey_eq_filedKey ..)⟩

theorem historyRecorded_step (recorded : HistoryRecorded env.python history)
    (event : OutboxEvent) : HistoryRecorded env.python (historyStep env history event) := by
  cases creates : event.isCreate with
  | true =>
      cases event with
      | create now policy request rules =>
          have files := createOutboxRecords_filesAll env.python now policy request rules
            recorded.keysUnique
          refine ⟨files.keysUnique, ?_⟩
          intro filed member
          rcases List.mem_append.1 member with earlier | new
          · obtain ⟨row, rowMember, sameId, sameKey⟩ := recorded.recorded filed earlier
            exact ⟨row, files.keeps row rowMember, sameId, sameKey⟩
          · exact filedIntents_recorded recorded.keysUnique new
      | _ => contradiction
  | false =>
      have moves : Table.Evolves (EventSteps env history.outbox event fun _ => True)
          (fun _ => False) history.outbox.database.outboxes
          (step env history.outbox event).database.outboxes :=
        step_rowsMove env history.outbox event creates fun _ _ => trivial
      constructor
      · intro first firstMember second secondMember sameKey
        obtain ⟨firstOld, firstOldMember, firstId, firstSteps⟩ :=
          (moves.origin first firstMember).resolve_right id
        obtain ⟨secondOld, secondOldMember, secondId, secondSteps⟩ :=
          (moves.origin second secondMember).resolve_right id
        rw [RowSteps.idempotencyKey firstSteps, RowSteps.idempotencyKey secondSteps] at sameKey
        rw [firstId, secondId]
        exact recorded.keysUnique firstOld firstOldMember secondOld secondOldMember sameKey
      · intro filed member
        have nothing : (historyStep env history event).filed = history.filed := by
          cases event with
          | create => contradiction
          | _ => exact List.append_nil _
        rw [nothing] at member
        obtain ⟨row, rowMember, sameId, sameKey⟩ := recorded.recorded filed member
        obtain ⟨moved, movedMember, movedId, steps⟩ := moves.kept row rowMember
        exact ⟨moved, movedMember, movedId.trans sameId,
          (RowSteps.idempotencyKey steps).trans sameKey⟩

theorem historyRecorded_run (env : OutboxEnvironment)
    (webhookEvents : Table WebhookEventNotice.id) (forwardRules : Table ForwardRule.id)
    (events : List OutboxEvent) :
    HistoryRecorded env.python
      (GuardedRuns.run (historyStep env) ⟨initial webhookEvents forwardRules, []⟩ events) := by
  apply GuardedRuns.run_invariant (HistoryRecorded env.python)
  · constructor
    · intro first member
      cases member
    · intro filed member
      cases member
  · intro history event recorded
    exact historyRecorded_step recorded event

theorem outboxId_eq_iff (recorded : HistoryRecorded env.python history) {first second : FiledIntent}
    (firstMember : first ∈ history.filed) (secondMember : second ∈ history.filed) :
    first.outboxId = second.outboxId ↔ filedKey env.python first = filedKey env.python second := by
  obtain ⟨firstRow, firstIn, firstId, firstKey⟩ := recorded.recorded first firstMember
  obtain ⟨secondRow, secondIn, secondId, secondKey⟩ := recorded.recorded second secondMember
  rw [← firstId, ← secondId, ← firstKey, ← secondKey]
  constructor
  · intro sameId
    rw [Table.eq_of_key_eq firstIn secondIn sameId]
  · intro sameKey
    exact recorded.keysUnique firstRow firstIn secondRow secondIn sameKey

theorem filedKey_eq_iff {python : PythonRuntime} {filed : List FiledIntent}
    (noCollision : NoCollision python filed) {first second : FiledIntent}
    (firstMember : first ∈ filed) (secondMember : second ∈ filed) :
    filedKey python first = filedKey python second ↔ SharesKey first second := by
  rw [← keyText_eq_iff]
  constructor
  · intro sameKey
    apply noCollision first firstMember second secondMember
    have characters := congrArg String.toList sameKey
    simp only [filedKey, String.toList_append, List.append_assoc, List.append_cancel_left_eq]
      at characters
    have digests := (joined_inj (not_mem_toString (by decide) _)
      (not_mem_toString (by decide) _)).1 characters
    exact String.toList_inj.1 digests.2
  · intro sameText
    have sameId := ((keyText_eq_iff first second).1 sameText).webhookId
    rw [filedKey, filedKey, keyDigest, keyDigest, sameText, sameId]

/-- Idempotency is exact in a run just when its key texts tell its intents apart, and
nothing else: no two intents of one key text differ in the event type or the digest key. -/
theorem idempotencyExact_iff (env : OutboxEnvironment)
    (webhookEvents : Table WebhookEventNotice.id) (forwardRules : Table ForwardRule.id)
    (events : List OutboxEvent)
    (noCollision : NoCollision env.python
      (filedInRun env webhookEvents forwardRules events)) :
    IdempotencyExact (filedInRun env webhookEvents forwardRules events) ↔
      KeysTellIntents (filedInRun env webhookEvents forwardRules events) := by
  have recorded := historyRecorded_run env webhookEvents forwardRules events
  have sameRow {first second : FiledIntent}
      (firstMember : first ∈ filedInRun env webhookEvents forwardRules events)
      (secondMember : second ∈ filedInRun env webhookEvents forwardRules events) :
      first.outboxId = second.outboxId ↔ SharesKey first second :=
    (outboxId_eq_iff recorded firstMember secondMember).trans
      (filedKey_eq_iff noCollision firstMember secondMember)
  constructor
  · intro exact
    refine ⟨?_, ?_⟩
    · intro first firstMember second secondMember sameIntent
      have shared := (sameRow firstMember secondMember).1
        ((exact first firstMember second secondMember).2 sameIntent)
      exact sameReminder_of_keyTail sameIntent shared.tail
    · intro first firstMember second secondMember shared
      exact (exact first firstMember second secondMember).1
        ((sameRow firstMember secondMember).2 shared)
  · intro tells first firstMember second secondMember
    rw [sameRow firstMember secondMember]
    constructor
    · exact tells.sameIntent first firstMember second secondMember
    · intro sameIntent
      have sameReminder := tells.sameReminder first firstMember second secondMember sameIntent
      refine ⟨by rw [sameIntent], by rw [sameIntent], ?_⟩
      rw [keyTail, keyTail, sameIntent, sameReminder]

end Runs

instance (filed : List FiledIntent) : Decidable (IdempotencyExact filed) :=
  inferInstanceAs (Decidable (∀ first ∈ filed, ∀ second ∈ filed,
    first.outboxId = second.outboxId ↔ first.intent = second.intent))

instance (python : PythonRuntime) (filed : List FiledIntent) :
    Decidable (NoCollision python filed) :=
  inferInstanceAs (Decidable (∀ first ∈ filed, ∀ second ∈ filed,
    keyDigest python first = keyDigest python second → keyText first = keyText second))

private def sampleFiled (events : List OutboxEvent) : List FiledIntent :=
  filedInRun sampleEnvironment Table.empty Table.empty events

private def feishuRule : ForwardRuleSnapshot where
  id := some 1
  name := "team a"
  targetType := "feishu_app"
  targetUrl := "feishu-app://oc_team_a"
  targetName := ""
  targetGateway := ""

private def filesAgain : List OutboxEvent :=
  [.create sampleTime samplePolicy sampleRequest [sampleWebhookRule, feishuRule],
    .create sampleTime samplePolicy sampleRequest [feishuRule]]

theorem idempotencyExact_iff_filed_again : IdempotencyExact (sampleFiled filesAgain) :=
  (idempotencyExact_iff sampleEnvironment Table.empty Table.empty filesAgain
    (by decide +kernel)).2 ⟨by decide +kernel, by decide +kernel⟩

private def filesNotification : List OutboxEvent :=
  [.create sampleTime samplePolicy sampleRequest [sampleWebhookRule],
    .create sampleTime samplePolicy { sampleRequest with eventType := "deep_analysis" }
      [sampleWebhookRule]]

/-- An alert and the notification about its finished investigation, for one event and one
rule: the notification ends on the row of the alert. -/
theorem notification_ends_on_alert_row :
    NoCollision sampleEnvironment.python (sampleFiled filesNotification) ∧
      ¬ IdempotencyExact (sampleFiled filesNotification) := by
  decide +kernel

end ForwardOutboxIntents

end WebhookWise
