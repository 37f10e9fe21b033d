import WebhookWise.GuardedRuns
import WebhookWise.SlaBreaches

/-!
# Which breaches are ever notified

The page of a scan holds the earliest breaches of a kind, notified or not, and a notified breach
stays on it until somebody acts.  While nothing else changes every scan therefore serves the
same breaches: those with fewer than fifty of their kind before them.  The rest wait for ever.
-/

namespace WebhookWise

namespace SlaBreaches

open ForwardOutboxRecords GuardedRuns IncidentGrouping PagedBacklogs SqlTable

namespace SlaStore

/-! ## What a scan leaves as it is -/

theorem overdue_file (store : SlaStore) (scan : BreachScan) (breach : Breach) :
    (store.file scan breach).overdue = store.overdue := by
  funext now kind
  cases kind <;> rfl

theorem overdue_escalate (store : SlaStore) (moment : DateTime) (breach : Breach) :
    (store.escalate moment breach).overdue = store.overdue := by
  funext now kind
  cases kind with
  | incident =>
      unfold overdue escalate Table.update
      dsimp only
      rw [List.filterMap_map]
      apply List.filterMap_congr
      intro incident _
      simp only [Function.comp_apply]
      split
      · rfl
      · rfl
  | alert => rfl

theorem overdue_queueAll (scan : BreachScan) (alreadyQueued : List String)
    (breaches : List Breach) (store : SlaStore) :
    (queueAll scan alreadyQueued breaches store).1.overdue = store.overdue := by
  induction breaches generalizing store with
  | nil => rfl
  | cons breach rest induction =>
      unfold queueAll
      split
      · exact induction store
      · dsimp only
        rw [induction, overdue_escalate, overdue_file]

theorem keysOf_queueAll (scan : BreachScan) {alreadyQueued : List String} (breaches : List Breach)
    (store : SlaStore) (queued : ∀ key ∈ alreadyQueued, key ∈ keysOf store.outbox) :
    keysOf (queueAll scan alreadyQueued breaches store).1.outbox =
      enrolled (keysOf store.outbox) (breaches.map Breach.key) := by
  induction breaches generalizing store with
  | nil => rfl
  | cons breach rest induction =>
      unfold queueAll
      rw [List.map_cons, ← List.singleton_append, enrolled_append]
      split
      · rename_i skipped
        rw [induction store queued, enrolled_cons, enrolled_nil, if_pos (queued _ skipped)]
      · have filed : keysOf ((store.file scan breach).escalate scan.now breach).outbox =
            enrolled (keysOf store.outbox) [breach.key] := keysOf_insert store scan breach
        dsimp only
        rw [induction, filed]
        intro key member
        rw [filed]
        exact mem_enrolled.2 (Or.inl (queued key member))

end SlaStore

section Scans

variable (store : SlaStore) (scan : BreachScan)

/-- A target is configured for the scan. -/
def BreachScan.HasTarget (scan : BreachScan) : Prop :=
  scan.target.url ≠ ""

@[simp]
theorem overdue_queue : (queueSlaBreachNotifications store scan).1.overdue = store.overdue := by
  unfold queueSlaBreachNotifications
  split
  · rfl
  · exact SlaStore.overdue_queueAll _ _ _ _

theorem keysOf_queue (hasTarget : scan.HasTarget) :
    keysOf (queueSlaBreachNotifications store scan).1.outbox =
      enrolled (keysOf store.outbox) ((store.resources scan.now).map Breach.key) := by
  unfold queueSlaBreachNotifications
  rw [if_neg hasTarget]
  exact SlaStore.keysOf_queueAll scan _ store fun key member => (List.mem_filter.1 member).1

end Scans

/-! ## The keys of notifications -/

theorem not_mem_resourceType_text (resourceType : ResourceType) :
    ':' ∉ resourceType.text.toList := by
  cases resourceType <;> decide

theorem resourcePrefix_toList (resourceType : ResourceType) (resourceId : Nat) :
    (resourcePrefix resourceType resourceId).toList =
      "sla-breached:".toList ++ (resourceType.text.toList ++ ':' ::
        ((toString resourceId).toList ++ [':'])) := by
  unfold resourcePrefix
  simp only [String.toList_append, List.append_assoc]
  rfl

theorem ResourceType.text_inj {first second : ResourceType}
    (same : first.text.toList = second.text.toList) : first = second := by
  cases first <;> cases second <;> first | rfl | exact absurd same (by decide)

theorem isPrefixOf_key_iff {resourceType otherType : ResourceType} {resourceId otherId : Nat}
    {dueAt : DateTime} :
    (resourcePrefix resourceType resourceId).toList.isPrefixOf
        (breachKey otherType otherId dueAt).toList = true ↔
      resourceType = otherType ∧ resourceId = otherId := by
  rw [List.isPrefixOf_iff_prefix, breachKey, String.toList_append]
  constructor
  · rintro ⟨rest, same⟩
    rw [resourcePrefix_toList, resourcePrefix_toList] at same
    simp only [List.append_assoc, List.append_cancel_left_eq, List.cons_append] at same
    obtain ⟨types, afterType⟩ := (joined_inj (not_mem_resourceType_text _)
      (not_mem_resourceType_text _)).1 same
    obtain ⟨ids, -⟩ := (joined_inj (not_mem_toString (by decide) _)
      (not_mem_toString (by decide) _)).1 afterType
    refine ⟨ResourceType.text_inj types, ?_⟩
    have sameDigits : toString resourceId = toString otherId := String.toList_injective ids
    exact Nat.repr_injective sameDigits
  · rintro ⟨rfl, rfl⟩
    exact List.prefix_append _ _

theorem breachKey_inj {resourceType : ResourceType} {resourceId : Nat} {first second : DateTime}
    (firstInRange : DateTime.minimum ≤ first) (secondInRange : DateTime.minimum ≤ second) :
    breachKey resourceType resourceId first = breachKey resourceType resourceId second ↔
      first = second := by
  unfold breachKey
  rw [← DateTime.isoformat_inj firstInRange secondInRange]
  constructor
  · intro same
    have characters := congrArg String.toList same
    rw [String.toList_append, String.toList_append, List.append_cancel_left_eq] at characters
    exact String.toList_injective characters
  · intro same
    rw [same]

/-! ## The backlog of a kind -/

theorem overdueBreach_eq_some_iff {now : DateTime} {slaDueAt acknowledgedAt : Option DateTime}
    {workflowStatus : WorkflowStatus} {build : DateTime → Breach} {breach : Breach} :
    overdueBreach now slaDueAt acknowledgedAt workflowStatus build = some breach ↔
      ∃ dueAt, slaDueAt = some dueAt ∧ (dueAt ≤ now ∧ workflowStatus ≠ .resolved ∧
        workflowStatus ≠ .ignored ∧ acknowledgedAt = none) ∧ build dueAt = breach := by
  cases slaDueAt with
  | none | some => simp [overdueBreach]

theorem overdueBreach_earlier {earlier now : DateTime} (le : earlier ≤ now)
    {slaDueAt acknowledgedAt : Option DateTime} {workflowStatus : WorkflowStatus}
    {build : DateTime → Breach} (dueOf : ∀ dueAt, (build dueAt).dueAt = dueAt) :
    overdueBreach earlier slaDueAt acknowledgedAt workflowStatus build =
      (overdueBreach now slaDueAt acknowledgedAt workflowStatus build).filter
        (·.dueAt ≤ earlier) := by
  cases slaDueAt with
  | none => rfl
  | some dueAt =>
      unfold overdueBreach
      dsimp only
      by_cases dueThen : dueAt ≤ earlier
      · have dueNow : dueAt ≤ now := Int.le_trans dueThen le
        simp only [dueThen, dueNow, true_and]
        split
        · simp [Option.filter, dueOf, dueThen]
        · rfl
      · rw [if_neg fun admitted => dueThen admitted.1]
        split
        · simp [Option.filter, dueOf, dueThen]
        · rfl

namespace SlaStore

variable {store : SlaStore} {now earlier : DateTime} {breach other : Breach}

theorem overdue_earlier (store : SlaStore) (le : earlier ≤ now) (kind : ResourceType) :
    store.overdue earlier kind = (store.overdue now kind).filter (·.dueAt ≤ earlier) := by
  cases kind with
  | incident =>
      unfold overdue
      dsimp only
      rw [List.filter_filterMap]
      exact List.filterMap_congr fun incident _ => overdueBreach_earlier le fun _ => rfl
  | alert =>
      unfold overdue
      dsimp only
      rw [List.filter_filterMap]
      exact List.filterMap_congr fun event _ => overdueBreach_earlier le fun _ => rfl

theorem dueAt_le_of_mem_overdue {kind : ResourceType} (member : breach ∈ store.overdue now kind) :
    breach.dueAt ≤ now := by
  rw [overdue_earlier store le_rfl kind] at member
  simpa using (List.mem_filter.1 member).2

theorem resourceType_of_mem_overdue {kind : ResourceType}
    (member : breach ∈ store.overdue now kind) : breach.resourceType = kind := by
  cases kind with
  | incident =>
      obtain ⟨incident, -, found⟩ := List.mem_filterMap.1 member
      obtain ⟨dueAt, -, -, rfl⟩ := overdueBreach_eq_some_iff.1 found
      rfl
  | alert =>
      obtain ⟨event, -, found⟩ := List.mem_filterMap.1 member
      obtain ⟨dueAt, -, -, rfl⟩ := overdueBreach_eq_some_iff.1 found
      rfl

private theorem sublist_filterMap {Row Result Key : Type} {key : Row → Key} {keyOf : Result → Key}
    {select : Row → Option Result}
    (keeps : ∀ row result, select row = some result → keyOf result = key row) (rows : List Row) :
    ((rows.filterMap select).map keyOf).Sublist (rows.map key) := by
  induction rows with
  | nil => simp
  | cons row rows induction =>
      cases selected : select row with
      | none =>
          rw [List.filterMap_cons_none selected]
          exact induction.cons _
      | some result =>
          rw [List.filterMap_cons_some selected, List.map_cons, List.map_cons,
            keeps row result selected]
          exact induction.cons_cons _

theorem nodup_resourceId (store : SlaStore) (now : DateTime) (kind : ResourceType) :
    ((store.overdue now kind).map Breach.resourceId).Nodup := by
  cases kind with
  | incident =>
      refine store.incidents.keys_nodup.sublist (sublist_filterMap ?_ _)
      intro incident breach found
      obtain ⟨dueAt, -, -, rfl⟩ := overdueBreach_eq_some_iff.1 found
      rfl
  | alert =>
      refine store.events.keys_nodup.sublist (sublist_filterMap ?_ _)
      intro event breach found
      obtain ⟨dueAt, -, -, rfl⟩ := overdueBreach_eq_some_iff.1 found
      rfl

theorem nodup_place (store : SlaStore) (now : DateTime) (kind : ResourceType) :
    ((store.overdue now kind).map Breach.place).Nodup := by
  refine List.Nodup.of_map (fun place => (ofLex place).2) ?_
  rw [List.map_map]
  exact nodup_resourceId store now kind

theorem eq_of_resourceId_eq {kind : ResourceType} (member : breach ∈ store.overdue now kind)
    (otherMember : other ∈ store.overdue now kind)
    (sameResource : breach.resourceId = other.resourceId) : breach = other :=
  List.inj_on_of_nodup_map (nodup_resourceId store now kind) member otherMember sameResource

def breaches (store : SlaStore) (now : DateTime) : List Breach :=
  store.overdue now .incident ++ store.overdue now .alert

theorem mem_breaches_iff :
    breach ∈ store.breaches now ↔ breach ∈ store.overdue now breach.resourceType := by
  rw [breaches, List.mem_append]
  constructor
  · rintro (member | member)
    all_goals rwa [resourceType_of_mem_overdue member]
  · intro member
    cases kindEq : breach.resourceType with
    | incident => exact Or.inl (kindEq ▸ member)
    | alert => exact Or.inr (kindEq ▸ member)

def ahead (store : SlaStore) (now : DateTime) (breach : Breach) : Nat :=
  PagedBacklogs.ahead Breach.place (store.overdue now breach.resourceType) breach

theorem mem_resources_iff :
    breach ∈ store.resources now ↔
      breach ∈ store.breaches now ∧ store.ahead now breach < pageSize := by
  rw [mem_breaches_iff, resources, List.mem_append, mem_page_iff (nodup_place _ _ _),
    mem_page_iff (nodup_place _ _ _), ahead]
  constructor
  · rintro (⟨member, onPage⟩ | ⟨member, onPage⟩)
    all_goals rw [resourceType_of_mem_overdue member]
    all_goals exact ⟨member, onPage⟩
  · rintro ⟨member, onPage⟩
    cases kindEq : breach.resourceType with
    | incident => exact Or.inl (kindEq ▸ ⟨member, onPage⟩)
    | alert => exact Or.inr (kindEq ▸ ⟨member, onPage⟩)

theorem ahead_later (le : earlier ≤ now) (member : breach ∈ store.breaches earlier) :
    store.ahead now breach = store.ahead earlier breach := by
  unfold ahead PagedBacklogs.ahead
  rw [overdue_earlier store le, List.countP_filter]
  apply List.countP_congr
  intro other _
  have dueThen := dueAt_le_of_mem_overdue (mem_breaches_iff.1 member)
  simp only [decide_eq_true_eq, Bool.and_eq_true]
  constructor
  · intro before
    refine ⟨before, ?_⟩
    rcases Prod.Lex.toLex_lt_toLex.1 before with due | ⟨due, -⟩
    · exact Int.le_trans (Int.le_of_lt due) dueThen
    · exact Int.le_trans (Int.le_of_eq due) dueThen
  · exact And.left

theorem mem_breaches_later (le : earlier ≤ now) (member : breach ∈ store.breaches earlier) :
    breach ∈ store.breaches now := by
  rw [mem_breaches_iff] at member ⊢
  rw [overdue_earlier store le] at member
  exact (List.mem_filter.1 member).1

theorem mem_resources_later (le : earlier ≤ now) (member : breach ∈ store.breaches earlier) :
    breach ∈ store.resources now ↔ store.ahead earlier breach < pageSize := by
  rw [mem_resources_iff, ahead_later le member]
  exact and_iff_right (mem_breaches_later le member)

theorem eq_of_isPrefixOf (le : earlier ≤ now) (member : breach ∈ store.breaches earlier)
    (onPage : other ∈ store.resources now)
    (isPrefix : (resourcePrefix breach.resourceType breach.resourceId).toList.isPrefixOf
      other.key.toList = true) : other = breach := by
  obtain ⟨sameType, sameId⟩ := isPrefixOf_key_iff.1 isPrefix
  have isOpen := mem_breaches_iff.1 (mem_resources_iff.1 onPage).1
  rw [← sameType] at isOpen
  exact eq_of_resourceId_eq isOpen (mem_breaches_iff.1 (mem_breaches_later le member)) sameId.symm

/-! ## Scans in turn -/

/-- The rows after some scans, while nothing else changes. -/
def afterScans (store : SlaStore) (scans : List BreachScan) : SlaStore :=
  run (fun store scan => (queueSlaBreachNotifications store scan).1) store scans

theorem keysOf_afterScans (store : SlaStore) (scans : List BreachScan)
    (haveTarget : ∀ scan ∈ scans, scan.HasTarget) :
    keysOf (store.afterScans scans).outbox = enrolled (keysOf store.outbox)
      (scans.flatMap fun scan => (store.resources scan.now).map Breach.key) := by
  unfold afterScans
  induction scans generalizing store with
  | nil => rfl
  | cons scan scans induction =>
      have sameResources :
          (queueSlaBreachNotifications store scan).1.resources = store.resources := by
        funext now
        unfold resources
        rw [overdue_queue]
      have laterTargets : ∀ later ∈ scans, later.HasTarget := fun later member =>
        haveTarget later (List.mem_cons_of_mem _ member)
      rw [run_cons, induction _ laterTargets, sameResources, keysOf_queue _ _ (haveTarget scan (by simp)), List.flatMap_cons,
        enrolled_append]

def notifications (store : SlaStore) (breach : Breach) : Nat :=
  store.outbox.rows.countP fun row => row.idempotencyKey = breach.key

def resourceNotifications (store : SlaStore) (breach : Breach) : Nat :=
  store.outbox.rows.countP fun row =>
    (resourcePrefix breach.resourceType breach.resourceId).toList.isPrefixOf
      row.idempotencyKey.toList

/-- Whatever notified the resource of a breach before did so at another due time. -/
def NotifiedAtOthers (store : SlaStore) (breach : Breach) : Prop :=
  DateTime.minimum ≤ breach.dueAt ∧ ∀ row ∈ store.outbox.rows,
    (resourcePrefix breach.resourceType breach.resourceId).toList.isPrefixOf
        row.idempotencyKey.toList = true →
      ∃ dueAt, DateTime.minimum ≤ dueAt ∧ dueAt ≠ breach.dueAt ∧
        row.idempotencyKey = breachKey breach.resourceType breach.resourceId dueAt

/-- Scans as many as the pages of all open breaches, with a target and while nothing else
changes, leave one notification of each breach; a resource which was notified at other due
times only has got one more. -/
def QueuesEachOnce (store : SlaStore) (now : DateTime) : Prop :=
  ∀ scans : List BreachScan, (∀ scan ∈ scans, now ≤ scan.now ∧ scan.HasTarget) →
    ((store.breaches now).length + (pageSize - 1)) / pageSize ≤ scans.length →
    ∀ breach ∈ store.breaches now,
      (store.afterScans scans).notifications breach = 1 ∧
      (store.NotifiedAtOthers breach →
        (store.afterScans scans).resourceNotifications breach =
          store.resourceNotifications breach + 1)

/-- Fewer than fifty open breaches of its kind come before each open breach, unless it was
notified. -/
def NoneCrowdedOut (store : SlaStore) (now : DateTime) : Prop :=
  ∀ breach ∈ store.breaches now,
    store.ahead now breach < pageSize ∨ breach.key ∈ keysOf store.outbox

theorem notifications_eq_count (store : SlaStore) (breach : Breach) :
    store.notifications breach = (keysOf store.outbox).count breach.key := by
  unfold notifications keysOf
  rw [List.count, List.countP_map]
  apply List.countP_congr
  intro row _
  simp

theorem resourceNotifications_eq_countP (store : SlaStore) (breach : Breach) :
    store.resourceNotifications breach = (keysOf store.outbox).countP fun key =>
      (resourcePrefix breach.resourceType breach.resourceId).toList.isPrefixOf key.toList := by
  unfold resourceNotifications keysOf
  rw [List.countP_map]
  rfl

theorem key_mem_afterScans_iff {scans : List BreachScan}
    (later : ∀ scan ∈ scans, earlier ≤ scan.now ∧ scan.HasTarget) (some_scan : scans ≠ [])
    (member : breach ∈ store.breaches earlier) :
    breach.key ∈ keysOf (store.afterScans scans).outbox ↔
      store.ahead earlier breach < pageSize ∨ breach.key ∈ keysOf store.outbox := by
  rw [keysOf_afterScans store scans fun scan scanMember => (later scan scanMember).2, mem_enrolled,
    or_comm]
  refine or_congr_left ?_
  constructor
  · intro wanted
    obtain ⟨scan, scanMember, isKey⟩ := List.mem_flatMap.1 wanted
    obtain ⟨other, onPage, sameKey⟩ := List.mem_map.1 isKey
    have le := (later scan scanMember).1
    have same : other = breach := by
      refine eq_of_isPrefixOf le member onPage ?_
      rw [sameKey]
      exact isPrefixOf_key_iff.2 ⟨rfl, rfl⟩
    exact (mem_resources_later le member).1 (same ▸ onPage)
  · intro near
    obtain ⟨scan, scanMember⟩ := List.exists_mem_of_ne_nil scans some_scan
    have onPage := (mem_resources_later (later scan scanMember).1 member).2 near
    exact List.mem_flatMap.2 ⟨scan, scanMember, List.mem_map_of_mem onPage⟩

theorem notifications_afterScans {scans : List BreachScan}
    (notified : breach.key ∈ keysOf (store.afterScans scans).outbox) :
    (store.afterScans scans).notifications breach = 1 := by
  rw [notifications_eq_count]
  exact List.count_eq_one_of_mem (store.afterScans scans).keys_nodup notified

theorem resourceNotifications_afterScans {scans : List BreachScan}
    (later : ∀ scan ∈ scans, earlier ≤ scan.now ∧ scan.HasTarget) (some_scan : scans ≠ [])
    (member : breach ∈ store.breaches earlier) (near : store.ahead earlier breach < pageSize)
    (new : breach.key ∉ keysOf store.outbox) :
    (store.afterScans scans).resourceNotifications breach =
      store.resourceNotifications breach + 1 := by
  rw [resourceNotifications_eq_countP, resourceNotifications_eq_countP,
    keysOf_afterScans store scans fun scan scanMember => (later scan scanMember).2]
  have isOwn : (resourcePrefix breach.resourceType breach.resourceId).toList.isPrefixOf
      breach.key.toList = true := isPrefixOf_key_iff.2 ⟨rfl, rfl⟩
  refine countP_enrolled isOwn ?_ ?_ new
  · intro key wanted isPrefix
    obtain ⟨scan, scanMember, isKey⟩ := List.mem_flatMap.1 wanted
    obtain ⟨other, onPage, rfl⟩ := List.mem_map.1 isKey
    rw [eq_of_isPrefixOf (later scan scanMember).1 member onPage isPrefix]
  · obtain ⟨scan, scanMember⟩ := List.exists_mem_of_ne_nil scans some_scan
    have onPage := (mem_resources_later (later scan scanMember).1 member).2 near
    exact List.mem_flatMap.2 ⟨scan, scanMember, List.mem_map_of_mem onPage⟩

theorem NotifiedAtOthers.key_not_mem (others : store.NotifiedAtOthers breach) :
    breach.key ∉ keysOf store.outbox := by
  intro present
  obtain ⟨row, rowMember, isRow⟩ := List.mem_map.1 present
  obtain ⟨inRange, elsewhere⟩ := others
  obtain ⟨dueAt, dueInRange, differs, isKey⟩ := elsewhere row rowMember (by
    rw [isRow]
    exact isPrefixOf_key_iff.2 ⟨rfl, rfl⟩)
  exact differs ((breachKey_inj dueInRange inRange).1 (isKey.symm.trans isRow))

/-! ## Due times which move -/

def move (store : SlaStore) (resourceType : ResourceType) (resourceId : Nat) (dueAt : DateTime) :
    SlaStore where
  incidents := store.incidents.update
    (fun incident => resourceType = .incident ∧ incident.id = resourceId)
    (fun incident => { incident with slaDueAt := some dueAt }) fun _ => rfl
  events := store.events.update (fun event => resourceType = .alert ∧ event.id = resourceId)
    (fun event => { event with slaDueAt := some dueAt }) fun _ => rfl
  outbox := store.outbox
  keys_nodup := store.keys_nodup

/-- A resource that the scans notify for the first time and whose due time then moves has been
notified at other due times only. -/
def MovedAreElsewhere (store : SlaStore) (now : DateTime) : Prop :=
  ∀ scans : List BreachScan, (∀ scan ∈ scans, now ≤ scan.now ∧ scan.HasTarget) →
    ∀ breach ∈ store.breaches now, store.resourceNotifications breach = 0 →
      DateTime.minimum ≤ breach.dueAt → ∀ dueAt, DateTime.minimum ≤ dueAt → breach.dueAt ≠ dueAt →
        ((store.afterScans scans).move breach.resourceType breach.resourceId dueAt).NotifiedAtOthers
          { breach with dueAt := dueAt }

theorem movedAreElsewhere (store : SlaStore) (now : DateTime) : store.MovedAreElsewhere now := by
  intro scans later breach member unnotified inRange dueAt newInRange moved
  refine ⟨newInRange, fun row rowMember isPrefix => ⟨breach.dueAt, inRange, moved, ?_⟩⟩
  have isKey : row.idempotencyKey ∈ keysOf (store.afterScans scans).outbox :=
    List.mem_map_of_mem rowMember
  rw [keysOf_afterScans store scans fun scan scanMember => (later scan scanMember).2,
    mem_enrolled] at isKey
  rcases isKey with old | wanted
  · rw [resourceNotifications_eq_countP, List.countP_eq_zero] at unnotified
    exact absurd isPrefix (unnotified _ old)
  · obtain ⟨scan, scanMember, onPage⟩ := List.mem_flatMap.1 wanted
    obtain ⟨other, otherMember, sameKey⟩ := List.mem_map.1 onPage
    rw [← sameKey] at isPrefix ⊢
    rw [eq_of_isPrefixOf (later scan scanMember).1 member otherMember isPrefix]
    rfl

end SlaStore

open SlaStore

def plainScan (now : DateTime) : BreachScan where
  now := now
  matchedRules := []
  slaBreachFeishuWebhook := "https://open.feishu.cn/hook"
  deepAnalysisFeishuWebhook := ""
  weeklyReportFeishuWebhook := ""
  mentionAll := false
  dashboardUrl := ""
  policy :=
    { maxAttempts := 3
      maxAttempts_pos := by decide
      delayForAttempt := fun _ => 60
      staleProcessingThresholdSeconds := 300
      maxDeliveryAgeSeconds := 86400 }

theorem plainScan_hasTarget (now : DateTime) : (plainScan now).HasTarget := by
  have configured : (plainScan now).target.url = "https://open.feishu.cn/hook" := by
    change strip "https://open.feishu.cn/hook" = "https://open.feishu.cn/hook"
    decide
  unfold BreachScan.HasTarget
  rw [configured]
  decide

theorem key_mem_of_queuesEachOnce {store : SlaStore} {now : DateTime}
    (once : store.QueuesEachOnce now) {breach : Breach} (member : breach ∈ store.breaches now) :
    store.ahead now breach < pageSize ∨ breach.key ∈ keysOf store.outbox := by
  let scans := List.replicate ((store.breaches now).length + 1) (plainScan now)
  have later : ∀ scan ∈ scans, now ≤ scan.now ∧ scan.HasTarget := by
    intro scan scanMember
    rw [List.eq_of_mem_replicate scanMember]
    exact ⟨le_rfl, plainScan_hasTarget now⟩
  have enough : ((store.breaches now).length + (pageSize - 1)) / pageSize ≤ scans.length := by
    rw [List.length_replicate]
    unfold pageSize
    omega
  have notified := (once scans later enough breach member).1
  rw [notifications_eq_count] at notified
  refine (key_mem_afterScans_iff later (by simp [scans]) member).1 ?_
  exact List.count_pos_iff.1 (notified ▸ Nat.one_pos)

/-- Every open breach is notified once, and a resource whose due time has moved once more,
exactly when no breach has fifty open ones of its kind before it. -/
theorem queuesEachOnce_iff_noneCrowdedOut (store : SlaStore) (now : DateTime) :
    (store.QueuesEachOnce now ↔ store.NoneCrowdedOut now) ∧ store.MovedAreElsewhere now := by
  refine ⟨?_, store.movedAreElsewhere now⟩
  constructor
  · intro once breach member
    exact key_mem_of_queuesEachOnce once member
  · intro near scans later enough breach member
    have some_scan : scans ≠ [] := by
      rintro rfl
      have some_breach : 0 < (store.breaches now).length := List.length_pos_of_mem member
      unfold pageSize at enough
      simp only [List.length_nil] at enough
      omega
    have notified := (key_mem_afterScans_iff later some_scan member).2 (near breach member)
    refine ⟨notifications_afterScans notified, fun others => ?_⟩
    have new := others.key_not_mem
    exact resourceNotifications_afterScans later some_scan member
      ((near breach member).resolve_right new) new

/-! ## Fifty-one incidents -/

/-- An incident that was due at a quarter past ten on 14 November 2023. -/
def openIncident (id : Nat) : TrackedIncident where
  id := id
  title := "Disk almost full"
  workflowStatus := .opened
  acknowledgedAt := none
  slaDueAt := some 1699956900000000
  escalatedAt := none
  assignee := none

theorem openIncidents_keys : ((List.range' 1 51).map openIncident).map TrackedIncident.id =
    List.range' 1 51 := by
  rw [List.map_map]
  exact List.map_id _

theorem openIncidents_lt :
    ∀ incident ∈ (List.range' 1 51).map openIncident, incident.id < 52 := by
  intro incident member
  obtain ⟨id, inRange, rfl⟩ := List.mem_map.1 member
  exact (List.mem_range'_1.1 inRange).2

theorem openIncidents_nodup :
    (((List.range' 1 51).map openIncident).map TrackedIncident.id).Nodup := by
  rw [openIncidents_keys]
  exact List.nodup_range'

theorem keysOf_empty_nodup : (keysOf Table.empty).Nodup :=
  List.nodup_nil

def crowdedStore : SlaStore where
  incidents :=
    { rows := (List.range' 1 51).map openIncident
      nextKey := 52
      keys_lt := openIncidents_lt
      keys_nodup := openIncidents_nodup }
  events := Table.empty
  outbox := Table.empty
  keys_nodup := keysOf_empty_nodup

def lastBreach : Breach where
  resourceType := .incident
  resourceId := 51
  title := "Disk almost full"
  workflowStatus := .opened
  dueAt := 1699956900000000
  assignee := ""

/-- However often the scan runs, the fifty-first incident is not notified. -/
theorem crowdedStore_starves : ¬ crowdedStore.QueuesEachOnce 1699960000000000 := by
  intro once
  have isOpen : lastBreach ∈ crowdedStore.breaches 1699960000000000 := by decide
  have fiftyAhead : crowdedStore.ahead 1699960000000000 lastBreach = 50 := by decide
  rcases key_mem_of_queuesEachOnce once isOpen with near | queued
  · rw [fiftyAhead] at near
    exact absurd near (by decide)
  · exact absurd queued (by decide)

end SlaBreaches

end WebhookWise
