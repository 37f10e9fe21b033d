import WebhookWise.LiteDecisions

/-!
# The gates of the Lite edition under concurrency

The dedup gate reads the events and the cooldown reads the deliveries; what a call adds to either
comes later, after other calls have moved.  Beside the tables a run keeps which events have passed
the dedup gate, and for which rule each delivery was queued, which the outbox says by name only.
-/

namespace WebhookWise

open SqlTable GuardedRuns

namespace LiteGates

open LitePipeline LiteDecisions

/-! ## What a run shows -/

variable (clock : DateTime)

/-- Two moments are not less than so many seconds apart. -/
def Apart (seconds : Int) (first second : DateTime) : Prop :=
  first.addSeconds seconds ≤ second ∨ second.addSeconds seconds ≤ first

/-- An event that has passed the dedup gate. -/
structure Passage where
  alertHash : String
  receivedAt : DateTime
deriving DecidableEq

/-- A row of the outbox, with the rule it was queued for and the arrival of its event. -/
structure Delivered where
  ruleId : Nat
  ruleName : String
  alertHash : String
  receivedAt : DateTime

structure Watched where
  state : State
  clock : DateTime
  passages : List Passage
  deliveries : List Delivered

/-- A call has passed the dedup gate, and its event is not stored yet. -/
def passing : Stage → Bool
  | .gated none => true
  | .quieted _ _ => true
  | .analysing _ => true
  | _ => false

/-- The rules that a call has found due, and has queued no delivery for yet. -/
def pendingFor : Stage → List LiteRule
  | .cooling _ _ _ _ due _ => due
  | .enqueueing _ _ _ rest => rest
  | _ => []

def arrival (store : LiteStore) (stage : Stage) : DateTime :=
  (((ownedBy stage).bind store.events.lookup).map LiteEvent.receivedAt).getD 0

section Runs

variable (settings : LiteSettings)

/-- The event that a step of a call stores, if it has passed the dedup gate. -/
def passageOf (now : DateTime) (alert : LiteAlert) : Stage → List Passage
  | .quieted _ silences =>
      if (silencedBy settings alert silences).isSome then [⟨alert.alertHash, now⟩] else []
  | .analysing _ => [⟨alert.alertHash, now⟩]
  | _ => []

def queuedRule : Stage → Option LiteRule
  | .routed _ _ (rule :: _) _ => if settings.cooldownSeconds ≤ 0 then some rule else none
  | .cooling _ _ _ [] due _ => due.head?
  | .enqueueing _ _ _ rest => rest.head?
  | _ => none

def deliveryOf (store : LiteStore) (alert : LiteAlert) (stage : Stage) : List Delivered :=
  ((queuedRule settings stage).map fun rule =>
    ⟨rule.id, rule.name, alert.alertHash, arrival store stage⟩).toList

def moved (watched : Watched) : Event → Option (Call × DateTime)
  | .advance index now _ => watched.state.calls[index]?.map (·, now)
  | _ => none

def watch (watched : Watched) (event : Event) : Watched where
  state := step settings watched.state event
  clock := ((moved watched event).map Prod.snd).getD watched.clock
  passages := watched.passages ++ ((moved watched event).map fun move =>
    passageOf settings move.2 move.1.alert move.1.stage).getD []
  deliveries := watched.deliveries ++ ((moved watched event).map fun move =>
    deliveryOf settings watched.state.store move.1.alert move.1.stage).getD []

def watchedFrom : Watched where
  state := opened
  clock := clock
  passages := []
  deliveries := []

def checks (now : DateTime) : Stage → Option (LiteRule × DateTime)
  | .routed _ _ (rule :: _) _ => if settings.cooldownSeconds ≤ 0 then none else some (rule, now)
  | .cooling _ _ checkedAt (rule :: _) _ _ => some (rule, checkedAt)
  | _ => none

/-! ## What the gates promise -/

structure GatesHold (watched : Watched) (event : Event) : Prop where
  deduplicated : (watch settings watched event).passages.Pairwise fun first second =>
    first.alertHash = second.alertHash →
      Apart settings.dedupWindowSeconds first.receivedAt second.receivedAt
  paced : (watch settings watched event).deliveries.Pairwise fun first second =>
    first.ruleId = second.ruleId → first.alertHash = second.alertHash →
      Apart settings.cooldownSeconds first.receivedAt second.receivedAt
  ownCooldown : ∀ call now, moved watched event = some (call, now) →
    ∀ rule checkedAt, checks settings now call.stage = some (rule, checkedAt) →
      (heldBack settings watched.state.store call.alert checkedAt rule = true ↔
        ∃ delivery ∈ watched.deliveries, delivery.ruleId = rule.id ∧
          delivery.alertHash = call.alert.alertHash ∧
            checkedAt < delivery.receivedAt.addSeconds settings.cooldownSeconds)

/-! ## When they hold -/

def OnTime (watched : Watched) : Event → Prop
  | .advance _ now _ => watched.clock ≤ now
  | _ => True

/-- No other call of the alert has passed the dedup gate and not stored its event yet. -/
def PassesAlone (watched : Watched) (index : Nat) (now : DateTime) (call : Call) : Prop :=
  call.stage = .arrived →
    watched.state.store.recentDuplicate now call.alert.alertHash settings.dedupWindowSeconds = none →
      ∀ (position : Nat) other, position ≠ index → watched.state.calls[position]? = some other →
        other.alert.alertHash = call.alert.alertHash → passing other.stage = false

structure CheckAdmitted (watched : Watched) (index : Nat) (call : Call) (rule : LiteRule)
    (checkedAt : DateTime) : Prop where
  /-- No other call of the alert has found the rule due and not queued its delivery yet. -/
  alone : heldBack settings watched.state.store call.alert checkedAt rule = false →
    ∀ (position : Nat) other, position ≠ index → watched.state.calls[position]? = some other →
      other.alert.alertHash = call.alert.alertHash →
        rule.id ∉ (pendingFor other.stage).map LiteRule.id
  /-- The name of the rule is its own among the deliveries of the alert that have not run out. -/
  named : ∀ delivery ∈ watched.deliveries, delivery.alertHash = call.alert.alertHash →
    checkedAt < delivery.receivedAt.addSeconds settings.cooldownSeconds →
      (delivery.ruleName = rule.name ↔ delivery.ruleId = rule.id)
  /-- No cooldown has run out only because time has passed since the arrival. -/
  arrived : heldBack settings watched.state.store call.alert checkedAt rule = false →
    ∀ delivery ∈ watched.deliveries, delivery.alertHash = call.alert.alertHash →
      delivery.ruleId = rule.id →
        Apart settings.cooldownSeconds delivery.receivedAt (arrival watched.state.store call.stage)

def Admitted (watched : Watched) : Event → Prop
  | .advance index now _ => ∀ call, watched.state.calls[index]? = some call →
      PassesAlone settings watched index now call ∧
        ∀ rule checkedAt, checks settings now call.stage = some (rule, checkedAt) →
          CheckAdmitted settings watched index call rule checkedAt
  | _ => True

end Runs

/-! ## What the gates read -/

variable {event : LiteEvent} {checkedAt : DateTime} {seconds : Int}
variable {rule : LiteRule} {deliveries : List Delivered}

section Reads

variable {settings : LiteSettings} {store : LiteStore}

theorem apart_of_nonpos (none : seconds ≤ 0) (first second : DateTime) :
    Apart seconds first second := by
  have back (instant : DateTime) : instant.addSeconds seconds ≤ instant := by
    have shift : seconds * DateTime.microsecondsPerSecond ≤ 0 :=
      Int.mul_nonpos_of_nonpos_of_nonneg none (by decide)
    calc
      instant.addSeconds seconds ≤ instant + 0 := Int.add_le_add_left shift instant
      _ = instant := Int.add_zero instant
  exact (le_total first second).imp (back first).trans (back second).trans

theorem addSeconds_le_of_recentDuplicate {now : DateTime} {alertHash : String}
    (none : store.recentDuplicate now alertHash seconds = none) (member : event ∈ store.events.rows)
    (same : event.alertHash = alertHash) : event.receivedAt.addSeconds seconds ≤ now := by
  by_contra recent
  have inside : now.addSeconds (-seconds) < event.receivedAt := by
    rw [← not_le, ← DateTime.addSeconds_neg_le_iff, Int.neg_neg]
    exact recent
  obtain ⟨first, found⟩ := @Table.exists_selectFirst _ _ store.events
    (fun first second => second.id ≤ first.id) _
    (fun event => event.alertHash = alertHash && now.addSeconds (-seconds) < event.receivedAt)
    event member (by simp [same, inside])
  unfold LiteStore.recentDuplicate at none
  rw [found] at none
  cases none

theorem any_latest_iff {holds : DateTime → Bool}
    (later : ∀ first second, first ≤ second → holds first = true → holds second = true)
    (instants : List DateTime) :
    (LiteStore.latest instants).any holds = true ↔ ∃ instant ∈ instants, holds instant = true := by
  induction instants with
  | nil => simp [LiteStore.latest]
  | cons instant instants ih =>
      rw [LiteStore.latest, List.exists_mem_cons_iff, ← ih]
      cases LiteStore.latest instants with
      | none => simp
      | some other =>
          simp only [Option.any_some]
          split
          · rename_i le
            exact ⟨Or.inr, fun either => either.elim (later _ _ le) id⟩
          · rename_i notLe
            exact ⟨Or.inl, fun either => either.elim id (later _ _ (not_le.1 notLe).le)⟩

theorem heldBack_iff {alert : LiteAlert} :
    heldBack settings store alert checkedAt rule = true ↔
      ∃ instant ∈ store.deliveredAt alert.alertHash rule.name,
        checkedAt < instant.addSeconds settings.cooldownSeconds := by
  unfold heldBack LiteStore.lastForwardAt
  rw [any_latest_iff]
  · simp
  · intro first second le holds
    rw [decide_eq_true_eq] at holds ⊢
    exact holds.trans_le (DateTime.addSeconds_le_addSeconds le _)

/-- The deliveries that a run has seen are the rows of the outbox. -/
def Recorded (store : LiteStore) (deliveries : List Delivered) : Prop :=
  store.outbox.rows.map (fun row => (row.ruleName,
      (store.events.lookup row.eventId).map fun event => (event.alertHash, event.receivedAt))) =
    deliveries.map fun delivery =>
      (delivery.ruleName, some (delivery.alertHash, delivery.receivedAt))

theorem Recorded.mem_deliveredAt_iff (recorded : Recorded store deliveries)
    {alertHash ruleName : String} {instant : DateTime} :
    instant ∈ store.deliveredAt alertHash ruleName ↔ ∃ delivery ∈ deliveries,
      delivery.ruleName = ruleName ∧ delivery.alertHash = alertHash ∧
        delivery.receivedAt = instant := by
  have entries : instant ∈ store.deliveredAt alertHash ruleName ↔
      (ruleName, some (alertHash, instant)) ∈ store.outbox.rows.map (fun row => (row.ruleName,
        (store.events.lookup row.eventId).map fun event =>
          (event.alertHash, event.receivedAt))) := by
    unfold LiteStore.deliveredAt
    rw [List.mem_filterMap, List.mem_map]
    refine exists_congr fun row => and_congr_right fun _ => ?_
    cases store.events.lookup row.eventId with
    | none => by_cases named : row.ruleName = ruleName <;> simp [named]
    | some event =>
        by_cases named : row.ruleName = ruleName
        · by_cases same : event.alertHash = alertHash
          · simp [named, same]
          · simp [named, same]
        · simp [named]
  rw [entries, recorded, List.mem_map]
  simp [Prod.ext_iff]

end Reads

/-! ## One step of a call -/

variable (steps : List JsonObject) (eventId : Nat) (due : List LiteRule) (checkedAt : DateTime)
variable (cooled : List String)

section Steps

variable {settings : LiteSettings} {store after : LiteStore} {now : DateTime}
  {analysis : Analysis} {alert : LiteAlert} {stage next : Stage}

theorem lookup_of_advances (advances : Advances store alert stage after next) {eventId : Nat}
    {event : LiteEvent} (found : store.events.lookup eventId = some event) :
    after.events.lookup eventId = some event := by
  cases advances with
  | stores now analysis outside owned sent underway =>
      exact @Table.lookup_insert_of_some _ _ store.events _ (LiteStore.eventRow_id now alert analysis)
        _ _ found
  | _ => exact found

theorem mem_events_of_advances (advances : Advances store alert stage after next)
    (member : event ∈ store.events.rows) : event ∈ after.events.rows :=
  (Table.lookup_eq_some_iff.1
    (lookup_of_advances advances (Table.mem_rows_iff_lookup.1 member))).1

/-- What a step of a call does at the dedup gate. -/
inductive Passes (settings : LiteSettings) (store : LiteStore) (now : DateTime) (alert : LiteAlert)
    (stage : Stage) (after : LiteStore) (next : Stage) : Prop
  | enters (isArrived : stage = .arrived)
      (unseen : store.recentDuplicate now alert.alertHash settings.dedupWindowSeconds = none)
      (isPassing : passing next = true) (unstored : passageOf settings now alert stage = [])
  | waits (wasPassing : passing stage = true) (isPassing : passing next = true)
      (unstored : passageOf settings now alert stage = [])
  | stores (wasPassing : passing stage = true) (isPassing : passing next = false)
      (stored : passageOf settings now alert stage = [⟨alert.alertHash, now⟩])
      (shown : ∃ event ∈ after.events.rows,
        event.alertHash = alert.alertHash ∧ event.receivedAt = now)
  | stays (isPassing : passing next = false) (wasPassing : passing stage = false)
      (unstored : passageOf settings now alert stage = [])

theorem passing_deliver (sent rest : List LiteRule) :
    passing (deliver store now steps eventId sent rest).2 = false := by
  cases rest with
  | nil | cons => rfl

theorem passing_afterCooldown :
    passing (afterCooldown settings store now steps eventId due cooled).2 = false := by
  unfold afterCooldown
  split
  · rfl
  · exact passing_deliver _ eventId [] due

variable (rule : LiteRule)

theorem passing_checkCooldown (rest due : List LiteRule) (cooled : List String) :
    passing (checkCooldown settings store alert steps eventId checkedAt rule rest due cooled) =
      false := by
  unfold checkCooldown
  split
  · rfl
  · rfl

theorem passes_advance (stage : Stage) :
    Passes settings store now alert stage (advance settings store now analysis alert stage).1
      (advance settings store now analysis alert stage).2 := by
  have shown (analysis : Option Analysis) : ∃ event ∈
      (store.insertEvent now alert analysis).events.rows,
      event.alertHash = alert.alertHash ∧ event.receivedAt = now :=
    ⟨_, List.mem_append_right _ List.mem_cons_self, rfl, rfl⟩
  cases stage with
  | arrived =>
      cases unseen : store.recentDuplicate now alert.alertHash settings.dedupWindowSeconds with
      | none =>
          refine .enters rfl unseen ?_ rfl
          simp only [advance, unseen]
          rfl
      | some duplicate =>
          refine .stays ?_ rfl rfl
          simp only [advance, unseen]
          rfl
  | gated duplicate =>
      cases duplicate with
      | none => exact .waits rfl rfl rfl
      | some duplicate => exact .stays rfl rfl rfl
  | quieted steps silences =>
      cases silenced : silencedBy settings alert silences with
      | some silence =>
          refine .stores rfl ?_ (by simp [passageOf, silenced]) ?_
          · simp only [advance, silenced]
            rfl
          · simp only [advance, silenced]
            exact shown none
      | none =>
          refine .waits rfl ?_ (by simp [passageOf, silenced])
          simp only [advance, silenced]
          rfl
  | analysing steps => exact .stores rfl rfl rfl (shown (some analysis))
  | skipped | stored => exact .stays rfl rfl rfl
  | routed steps eventId matched stoppedBy =>
      refine .stays ?_ rfl rfl
      cases matched with
      | nil => rfl
      | cons rule rules =>
          simp only [advance]
          split
          · exact passing_afterCooldown _ eventId (rule :: rules) []
          · exact passing_checkCooldown _ eventId now rule rules [] []
  | cooling steps eventId checkedAt rest due cooled =>
      refine .stays ?_ rfl rfl
      cases rest with
      | nil => exact passing_afterCooldown steps eventId due cooled
      | cons rule rest => exact passing_checkCooldown steps eventId checkedAt rule rest due cooled
  | enqueueing steps eventId sent rest =>
      exact .stays (passing_deliver steps eventId sent rest) rfl rfl
  | finished => exact .stays rfl rfl rfl

def upcoming : Stage → List LiteRule
  | .routed _ _ matched _ => matched
  | .cooling _ _ _ rest due _ => due ++ rest
  | .enqueueing _ _ _ rest => rest
  | _ => []

/-- A step of a call queues the delivery of `queuedRule`, or none. -/
inductive Queues (settings : LiteSettings) (store : LiteStore) (now : DateTime) (stage : Stage)
    (after : LiteStore) : Prop
  | none (unqueued : queuedRule settings stage = none) (outbox : after.outbox = store.outbox)
  | one (rule : LiteRule) (eventId : Nat) (isQueued : queuedRule settings stage = some rule)
      (owner : ownedBy stage = some eventId)
      (queued : after = store.enqueueDelivery now eventId rule)

theorem queues_deliver (sent rest : List LiteRule) (owner : ownedBy stage = some eventId)
    (isQueued : queuedRule settings stage = rest.head?) :
    Queues settings store now stage (deliver store now steps eventId sent rest).1 := by
  cases rest with
  | nil => exact .none isQueued rfl
  | cons rule rest => exact .one rule eventId isQueued owner rfl

theorem queues_afterCooldown (owner : ownedBy stage = some eventId)
    (isQueued : queuedRule settings stage = due.head?) :
    Queues settings store now stage
      (afterCooldown settings store now steps eventId due cooled).1 := by
  unfold afterCooldown
  split
  · rename_i isEmpty
    rw [List.isEmpty_iff.1 isEmpty] at isQueued
    exact .none isQueued rfl
  · exact queues_deliver _ eventId [] due owner isQueued

theorem queues_advance (stage : Stage) :
    Queues settings store now stage (advance settings store now analysis alert stage).1 := by
  cases stage with
  | arrived => exact .none rfl rfl
  | gated duplicate =>
      cases duplicate with
      | none | some => exact .none rfl rfl
  | quieted steps silences =>
      simp only [advance]
      cases silencedBy settings alert silences with
      | some | none => exact .none rfl rfl
  | analysing | skipped | stored => exact .none rfl rfl
  | routed steps eventId matched stoppedBy =>
      cases matched with
      | nil => exact .none rfl rfl
      | cons rule rules =>
          simp only [advance]
          split
          · rename_i off
            exact queues_afterCooldown _ eventId (rule :: rules) [] rfl (if_pos off)
          · rename_i positive
            exact .none (if_neg positive) rfl
  | cooling steps eventId checkedAt rest due cooled =>
      cases rest with
      | nil => exact queues_afterCooldown steps eventId due cooled rfl rfl
      | cons rule rest => exact .none rfl rfl
  | enqueueing steps eventId sent rest => exact queues_deliver steps eventId sent rest rfl rfl
  | finished => exact .none rfl rfl

/-- What a step of a call does about the rules that are due, where there is a cooldown. -/
inductive Paces (settings : LiteSettings) (store : LiteStore) (now : DateTime) (alert : LiteAlert)
    (stage next : Stage) : Prop
  | keeps (same : pendingFor next = pendingFor stage) (unqueued : queuedRule settings stage = none)
  | finds (rule : LiteRule) (checkedAt : DateTime)
      (isChecked : checks settings now stage = some (rule, checkedAt))
      (isDue : heldBack settings store alert checkedAt rule = false)
      (found : pendingFor next = pendingFor stage ++ [rule])
      (unqueued : queuedRule settings stage = none)
  | queues (rule : LiteRule) (isQueued : queuedRule settings stage = some rule)
      (wasPending : pendingFor stage = rule :: pendingFor next)

theorem paces_afterCooldown (isPending : pendingFor stage = due)
    (isQueued : queuedRule settings stage = due.head?) :
    Paces settings store now alert stage
      (afterCooldown settings store now steps eventId due cooled).2 := by
  cases due with
  | nil => exact .keeps isPending.symm isQueued
  | cons rule due => exact .queues rule isQueued isPending

theorem paces_checkCooldown (rest due : List LiteRule) (cooled : List String)
    (isPending : pendingFor stage = due) (unqueued : queuedRule settings stage = none)
    (isChecked : checks settings now stage = some (rule, checkedAt)) :
    Paces settings store now alert stage
      (checkCooldown settings store alert steps eventId checkedAt rule rest due cooled) := by
  unfold checkCooldown
  split
  · exact .keeps isPending.symm unqueued
  · rename_i isDue
    refine .finds rule checkedAt isChecked (Bool.eq_false_of_not_eq_true isDue) ?_ unqueued
    rw [isPending]
    rfl

theorem paces_advance (positive : 0 < settings.cooldownSeconds) (stage : Stage) :
    Paces settings store now alert stage
      (advance settings store now analysis alert stage).2 := by
  cases stage with
  | arrived => exact .keeps rfl rfl
  | gated duplicate =>
      cases duplicate with
      | none | some => exact .keeps rfl rfl
  | quieted steps silences =>
      simp only [advance]
      cases silencedBy settings alert silences with
      | some | none => exact .keeps rfl rfl
  | analysing | skipped | stored => exact .keeps rfl rfl
  | routed steps eventId matched stoppedBy =>
      cases matched with
      | nil => exact .keeps rfl rfl
      | cons rule rules =>
          simp only [advance, if_neg positive.not_ge]
          exact paces_checkCooldown _ eventId now rule rules [] [] rfl
            (if_neg positive.not_ge) (if_neg positive.not_ge)
  | cooling steps eventId checkedAt rest due cooled =>
      cases rest with
      | nil => exact paces_afterCooldown steps eventId due cooled rfl rfl
      | cons rule rest =>
          exact paces_checkCooldown steps eventId checkedAt rule rest due cooled rfl rfl rfl
  | enqueueing steps eventId sent rest =>
      cases rest with
      | nil => exact .keeps rfl rfl
      | cons rule rest => exact .queues rule rfl rfl
  | finished => exact .keeps rfl rfl

theorem upcoming_deliver (sent rest : List LiteRule) :
    (upcoming (deliver store now steps eventId sent rest).2).Sublist rest := by
  cases rest with
  | nil => exact List.Sublist.refl []
  | cons rule rest => exact List.sublist_cons_self rule rest

theorem upcoming_afterCooldown :
    (upcoming (afterCooldown settings store now steps eventId due cooled).2).Sublist due := by
  unfold afterCooldown
  split
  · exact List.nil_sublist due
  · exact upcoming_deliver _ eventId [] due

theorem upcoming_checkCooldown (rest due : List LiteRule) (cooled : List String) :
    (upcoming (checkCooldown settings store alert steps eventId checkedAt rule rest due
      cooled)).Sublist (due ++ rule :: rest) := by
  unfold checkCooldown
  split
  · exact (List.Sublist.refl due).append (List.sublist_cons_self rule rest)
  · simp [upcoming]

theorem scanRules_sublist (isMatch : LiteRule → Bool) (rules : List LiteRule) :
    (scanRules isMatch rules).1.Sublist rules := by
  induction rules with
  | nil => exact List.Sublist.refl []
  | cons rule rules ih =>
      unfold scanRules
      split
      · split
        · exact (List.nil_sublist rules).cons_cons rule
        · exact ih.cons_cons rule
      · exact ih.cons rule

theorem activeRules_ids_nodup (store : LiteStore) :
    (store.activeRules.map LiteRule.id).Nodup := by
  have enabledIds : ((store.rules.rows.filter LiteRule.enabled).map LiteRule.id).Nodup :=
    store.rules.keys_nodup.sublist (List.filter_sublist.map LiteRule.id)
  exact ((List.perm_insertionSort _ _).map LiteRule.id).nodup_iff.2 enabledIds

theorem upcoming_advance (distinct : ((upcoming stage).map LiteRule.id).Nodup) :
    ((upcoming (advance settings store now analysis alert stage).2).map LiteRule.id).Nodup := by
  have of_sublist {rules : List LiteRule} (sublist : rules.Sublist (upcoming stage)) :
      (rules.map LiteRule.id).Nodup :=
    distinct.sublist (sublist.map LiteRule.id)
  cases stage with
  | arrived => exact List.nodup_nil
  | gated duplicate =>
      cases duplicate with
      | none | some => exact List.nodup_nil
  | quieted steps silences =>
      simp only [advance]
      cases silencedBy settings alert silences with
      | some | none => exact List.nodup_nil
  | analysing | skipped => exact List.nodup_nil
  | stored steps eventId importance =>
      exact (activeRules_ids_nodup store).sublist
        ((scanRules_sublist _ store.activeRules).map LiteRule.id)
  | routed steps eventId matched stoppedBy =>
      cases matched with
      | nil => exact List.nodup_nil
      | cons rule rules =>
          simp only [advance]
          split
          · exact of_sublist (upcoming_afterCooldown _ eventId (rule :: rules) [])
          · exact of_sublist (upcoming_checkCooldown _ eventId now rule rules [] [])
  | cooling steps eventId checkedAt rest due cooled =>
      cases rest with
      | nil =>
          refine of_sublist ((upcoming_afterCooldown steps eventId due cooled).trans ?_)
          exact List.sublist_append_left due []
      | cons rule rest =>
          exact of_sublist (upcoming_checkCooldown steps eventId checkedAt rule rest due cooled)
  | enqueueing steps eventId sent rest =>
      exact of_sublist (upcoming_deliver steps eventId sent rest)
  | finished => exact List.nodup_nil

theorem pendingFor_sublist_upcoming (stage : Stage) :
    (pendingFor stage).Sublist (upcoming stage) := by
  cases stage with
  | cooling steps eventId checkedAt rest due cooled => exact List.sublist_append_left due rest
  | enqueueing steps eventId sent rest => exact List.Sublist.refl rest
  | _ => exact List.nil_sublist _

theorem exists_owner_of_pending {rule : LiteRule} (isPending : rule ∈ pendingFor stage) :
    ∃ eventId, ownedBy stage = some eventId := by
  cases stage with
  | cooling steps eventId checkedAt rest due cooled => exact ⟨eventId, rfl⟩
  | enqueueing steps eventId sent rest => exact ⟨eventId, rfl⟩
  | _ => cases isPending

theorem exists_owner_of_checks {rule : LiteRule} {checkedAt : DateTime}
    (isChecked : checks settings now stage = some (rule, checkedAt)) :
    ∃ eventId, ownedBy stage = some eventId := by
  cases stage with
  | routed steps eventId matched stoppedBy => exact ⟨eventId, rfl⟩
  | cooling steps eventId checkedAt rest due cooled => exact ⟨eventId, rfl⟩
  | _ => cases isChecked

theorem owner_of_advances (advances : Advances store alert stage after next) {eventId nextId : Nat}
    (owner : ownedBy stage = some eventId) (nextOwner : ownedBy next = some nextId) :
    nextId = eventId := by
  cases advances with
  | reads owned sent underway => exact Option.some.inj (nextOwner.symm.trans (owned.trans owner))
  | stores now analysis outside owned sent underway =>
      rw [outside] at owner
      cases owner
  | queues now otherId rule isOwner owned sent underway =>
      have same : eventId = otherId := Option.some.inj (owner.symm.trans isOwner)
      rw [same]
      exact Option.some.inj (nextOwner.symm.trans owned)
  | decides now otherId outcome skipCode steps isOwner outcomeIff => cases nextOwner

end Steps

/-! ## One step of a run -/

section Moves

variable {settings : LiteSettings} {watched : Watched} {event : Event}

theorem watch_of_moved {index : Nat} {now : DateTime} {analysis : Analysis} {call : Call}
    (found : watched.state.calls[index]? = some call) :
    watch settings watched (.advance index now analysis) =
      ⟨⟨(advance settings watched.state.store now analysis call.alert call.stage).1,
          watched.state.calls.set index ⟨call.alert,
            (advance settings watched.state.store now analysis call.alert call.stage).2⟩⟩, now,
        watched.passages ++ passageOf settings now call.alert call.stage,
        watched.deliveries ++ deliveryOf settings watched.state.store call.alert call.stage⟩ := by
  simp [watch, moved, step, found]

/-- An event that advances no call leaves the log as it is, and every call that stands was there
or has just arrived. -/
structure Unmoved (settings : LiteSettings) (watched : Watched) (event : Event) : Prop where
  clock : (watch settings watched event).clock = watched.clock
  passages : (watch settings watched event).passages = watched.passages
  deliveries : (watch settings watched event).deliveries = watched.deliveries
  events : (watch settings watched event).state.store.events = watched.state.store.events
  outbox : (watch settings watched event).state.store.outbox = watched.state.store.outbox
  calls : ∀ (position : Nat) call,
    (watch settings watched event).state.calls[position]? = some call →
      watched.state.calls[position]? = some call ∨ call.stage = .arrived

theorem unmoved_of_moved_eq_none (still : moved watched event = none) :
    Unmoved settings watched event := by
  have same : (watch settings watched event).clock = watched.clock ∧
      (watch settings watched event).passages = watched.passages ∧
      (watch settings watched event).deliveries = watched.deliveries := by
    simp [watch, still]
  have kept : (step settings watched.state event).store.events = watched.state.store.events ∧
      (step settings watched.state event).store.outbox = watched.state.store.outbox ∧
      ∀ (position : Nat) call, (step settings watched.state event).calls[position]? = some call →
        watched.state.calls[position]? = some call ∨ call.stage = .arrived := by
    cases event with
    | arrive alert =>
        refine ⟨rfl, rfl, fun position call found => ?_⟩
        have split_ : (watched.state.calls ++ [⟨alert, .arrived⟩])[position]? = some call := found
        rw [List.getElem?_append] at split_
        split at split_
        · exact Or.inl split_
        · rw [List.mem_singleton.1 (List.mem_of_getElem? split_)]
          exact Or.inr rfl
    | advance index now analysis =>
        have none : watched.state.calls[index]? = none := by simpa [moved] using still
        have unchanged : step settings watched.state (.advance index now analysis) =
            watched.state := by
          simp only [step, none]
        rw [unchanged]
        exact ⟨rfl, rfl, fun position call found => Or.inl found⟩
    | crash =>
        refine ⟨rfl, rfl, fun position call found => ?_⟩
        simp [step] at found
    | rulesEdited | silencesEdited => exact ⟨rfl, rfl, fun position call found => Or.inl found⟩
  exact ⟨same.1, same.2.1, same.2.2, kept.1, kept.2.1, kept.2.2⟩

theorem moved_cases (watched : Watched) (event : Event) :
    moved watched event = none ∨ ∃ (index : Nat) (now : DateTime) (analysis : Analysis)
      (call : Call), event = .advance index now analysis ∧
        watched.state.calls[index]? = some call := by
  cases event with
  | advance index now analysis =>
      cases found : watched.state.calls[index]? with
      | none => exact Or.inl (by simp [moved, found])
      | some call => exact Or.inr ⟨index, now, analysis, call, rfl, found⟩
  | _ => exact Or.inl rfl

end Moves

/-! ## The log that the gates read -/

variable {after : LiteStore} {next : Stage}
variable {store : LiteStore}

structure Kept (watched : Watched) : Prop where
  sound : Sound watched.state
  recorded : Recorded watched.state.store watched.deliveries
  owners : ∀ (index : Nat) call eventId, watched.state.calls[index]? = some call →
    ownedBy call.stage = some eventId → ∃ event,
      watched.state.store.events.lookup eventId = some event ∧
        event.alertHash = call.alert.alertHash
  shown : ∀ passage ∈ watched.passages, ∃ event ∈ watched.state.store.events.rows,
    event.alertHash = passage.alertHash ∧ event.receivedAt = passage.receivedAt

theorem arrival_of_lookup {stage : Stage} {eventId : Nat} (owner : ownedBy stage = some eventId)
    (found : store.events.lookup eventId = some event) :
    arrival store stage = event.receivedAt := by
  simp [arrival, owner, found]

section Kept

variable {settings : LiteSettings} {watched : Watched} {event : Event} {index : Nat}
  {now : DateTime} {analysis : Analysis} {call : Call}

theorem kept_watchedFrom : Kept (watchedFrom clock) where
  sound := sound_opened
  recorded := rfl
  owners index call eventId none := by simp [watchedFrom, opened] at none
  shown passage none := by cases none

variable {eventId : Nat}

theorem Kept.arrival_eq (kept : Kept watched) {position : Nat} {other : Call}
    (found : watched.state.calls[position]? = some other)
    (owner : ownedBy other.stage = some eventId)
    (lookups : ∀ event, watched.state.store.events.lookup eventId = some event →
      after.events.lookup eventId = some event) :
    arrival after other.stage = arrival watched.state.store other.stage := by
  obtain ⟨event, before, _⟩ := kept.owners position other eventId found owner
  rw [arrival_of_lookup owner before, arrival_of_lookup owner (lookups event before)]

theorem Recorded.of_lookups (recorded : Recorded store deliveries)
    (outbox : after.outbox = store.outbox)
    (lookups : ∀ eventId event, store.events.lookup eventId = some event →
      after.events.lookup eventId = some event) : Recorded after deliveries := by
  unfold Recorded at recorded ⊢
  rw [← recorded, outbox]
  refine List.map_congr_left fun row member => ?_
  have entry : (row.ruleName, (store.events.lookup row.eventId).map fun event =>
      (event.alertHash, event.receivedAt)) ∈ store.outbox.rows.map fun row => (row.ruleName,
        (store.events.lookup row.eventId).map fun event => (event.alertHash, event.receivedAt)) :=
    List.mem_map.2 ⟨row, member, rfl⟩
  rw [recorded, List.mem_map] at entry
  obtain ⟨delivery, _, entryEq⟩ := entry
  cases found : store.events.lookup row.eventId with
  | none => simp [found] at entryEq
  | some event => rw [lookups _ event found]

theorem Recorded.enqueue (recorded : Recorded store deliveries) {event : LiteEvent}
    (found : store.events.lookup eventId = some event) :
    Recorded (store.enqueueDelivery now eventId rule)
      (deliveries ++ [⟨rule.id, rule.name, event.alertHash, event.receivedAt⟩]) := by
  unfold Recorded at recorded ⊢
  rw [List.map_append, ← recorded]
  simp [LiteStore.enqueueDelivery, LiteStore.deliveryRow, Table.insert, found]

theorem owners_of_advances {alert : LiteAlert} {stage : Stage}
    (advances : Advances store alert stage after next)
    (owners : ∀ eventId, ownedBy stage = some eventId → ∃ event,
      store.events.lookup eventId = some event ∧ event.alertHash = alert.alertHash)
    (owner : ownedBy next = some eventId) :
    ∃ event, after.events.lookup eventId = some event ∧ event.alertHash = alert.alertHash := by
  cases advances with
  | reads owned sent underway => exact owners eventId (owned.symm.trans owner)
  | stores now analysis outside owned sent underway =>
      rw [owned] at owner
      obtain rfl := Option.some.inj owner
      exact ⟨_, @Table.lookup_insert_self _ _ store.events _
        (LiteStore.eventRow_id now alert analysis), rfl⟩
  | queues now otherId rule isOwner owned sent underway =>
      rw [owned] at owner
      obtain rfl := Option.some.inj owner
      exact owners _ isOwner
  | decides now otherId outcome skipCode steps isOwner outcomeIff => cases owner

theorem Kept.of_moved (kept : Kept watched) (found : watched.state.calls[index]? = some call) :
    Kept (watch settings watched (.advance index now analysis)) := by
  have advances : Advances watched.state.store call.alert call.stage
      (advance settings watched.state.store now analysis call.alert call.stage).1
      (advance settings watched.state.store now analysis call.alert call.stage).2 :=
    advances_advance (kept.sound.underway index call found)
  have lookups := fun eventId event =>
    @lookup_of_advances _ _ _ _ _ advances eventId event
  rw [watch_of_moved found]
  refine ⟨kept.sound.advance found advances, ?_, ?_, ?_⟩
  · have queues : Queues settings watched.state.store now call.stage
        (advance settings watched.state.store now analysis call.alert call.stage).1 :=
      queues_advance call.stage
    cases queues with
    | none unqueued outbox =>
        simp only [deliveryOf, unqueued, Option.map_none, Option.toList_none, List.append_nil]
        exact kept.recorded.of_lookups outbox lookups
    | one rule eventId isQueued owner queued =>
        obtain ⟨event, stored, sameHash⟩ := kept.owners index call eventId found owner
        rw [queued]
        simp only [deliveryOf, isQueued, Option.map_some, Option.toList_some,
          arrival_of_lookup owner stored, ← sameHash]
        exact kept.recorded.enqueue stored
  · intro position other eventId otherFound owner
    rcases getElem?_set_cases otherFound with ⟨_, rfl⟩ | ⟨_, old⟩
    · exact owners_of_advances advances (fun ownId => kept.owners index call ownId found) owner
    · obtain ⟨event, stored, sameHash⟩ := kept.owners position other eventId old owner
      exact ⟨event, lookups eventId event stored, sameHash⟩
  · intro passage member
    rcases List.mem_append.1 member with old | new
    · obtain ⟨event, stored, isShown⟩ := kept.shown passage old
      exact ⟨event, mem_events_of_advances advances stored, isShown⟩
    · have passes : Passes settings watched.state.store now call.alert call.stage
          (advance settings watched.state.store now analysis call.alert call.stage).1
          (advance settings watched.state.store now analysis call.alert call.stage).2 :=
        passes_advance call.stage
      cases passes with
      | enters isArrived unseen isPassing unstored =>
          rw [unstored] at new
          cases new
      | waits wasPassing isPassing unstored =>
          rw [unstored] at new
          cases new
      | stores wasPassing isPassing stored shown =>
          rw [stored, List.mem_singleton] at new
          rw [new]
          exact shown
      | stays isPassing wasPassing unstored =>
          rw [unstored] at new
          cases new

theorem Kept.step (kept : Kept watched) (event : Event) : Kept (watch settings watched event) := by
  rcases moved_cases watched event with still | ⟨index, now, analysis, call, rfl, found⟩
  · have unmoved : Unmoved settings watched event := unmoved_of_moved_eq_none still
    refine ⟨kept.sound.step event, ?_, ?_, ?_⟩
    · rw [unmoved.deliveries]
      exact kept.recorded.of_lookups unmoved.outbox fun eventId event => by
        rw [unmoved.events]
        exact id
    · intro position other eventId found owner
      rw [unmoved.events]
      rcases unmoved.calls position other found with old | new
      · exact kept.owners position other eventId old owner
      · rw [new] at owner
        cases owner
    · rw [unmoved.passages, unmoved.events]
      exact kept.shown
  · exact kept.of_moved found

end Kept

/-! ## The dedup gate -/

structure Deduplicated (settings : LiteSettings) (watched : Watched) : Prop where
  pairwise : watched.passages.Pairwise fun first second =>
    first.alertHash = second.alertHash →
      Apart settings.dedupWindowSeconds first.receivedAt second.receivedAt
  /-- What has been stored is out of the window of a call that is passing. -/
  waiting : ∀ (index : Nat) call, watched.state.calls[index]? = some call →
    passing call.stage = true → ∀ passage ∈ watched.passages,
      passage.alertHash = call.alert.alertHash →
        passage.receivedAt.addSeconds settings.dedupWindowSeconds ≤ watched.clock
  alone : ∀ (first second : Nat) call other, watched.state.calls[first]? = some call →
    watched.state.calls[second]? = some other → passing call.stage = true →
      passing other.stage = true → call.alert.alertHash = other.alert.alertHash → first = second

section Deduplicated

variable {settings : LiteSettings} {watched : Watched} {event : Event} {index : Nat}
  {now : DateTime} {analysis : Analysis} {call : Call}

theorem deduplicated_watchedFrom :
    Deduplicated settings (watchedFrom clock) where
  pairwise := List.Pairwise.nil
  waiting index call none := by simp [watchedFrom, opened] at none
  alone first second call other none := by simp [watchedFrom, opened] at none

theorem Deduplicated.of_unmoved (deduplicated : Deduplicated settings watched)
    (unmoved : Unmoved settings watched event) :
    Deduplicated settings (watch settings watched event) := by
  refine ⟨?_, ?_, ?_⟩
  · rw [unmoved.passages]
    exact deduplicated.pairwise
  · intro position other found isPassing
    rw [unmoved.passages, unmoved.clock]
    rcases unmoved.calls position other found with old | new
    · exact deduplicated.waiting position other old isPassing
    · rw [new] at isPassing
      cases isPassing
  · intro first second here there firstFound secondFound firstPassing secondPassing same
    rcases unmoved.calls first here firstFound with firstOld | new
    · rcases unmoved.calls second there secondFound with secondOld | new
      · exact deduplicated.alone first second here there firstOld secondOld firstPassing
          secondPassing same
      · rw [new] at secondPassing
        cases secondPassing
    · rw [new] at firstPassing
      cases firstPassing

theorem Deduplicated.with_call (deduplicated : Deduplicated settings watched)
    (onTime : watched.clock ≤ now) (found : watched.state.calls[index]? = some call)
    {stored : List Passage} (deliveries : List Delivered)
    (pairwise : (watched.passages ++ stored).Pairwise fun first second =>
      first.alertHash = second.alertHash →
        Apart settings.dedupWindowSeconds first.receivedAt second.receivedAt)
    (own : passing next = true → ∀ passage ∈ watched.passages ++ stored,
      passage.alertHash = call.alert.alertHash →
        passage.receivedAt.addSeconds settings.dedupWindowSeconds ≤ now)
    (others : ∀ (position : Nat) other, position ≠ index →
      watched.state.calls[position]? = some other → passing other.stage = true →
        other.alert.alertHash = call.alert.alertHash → passing next = false ∧ stored = [])
    (hashes : ∀ passage ∈ stored, passage.alertHash = call.alert.alertHash) :
    Deduplicated settings ⟨⟨after, watched.state.calls.set index ⟨call.alert, next⟩⟩, now,
      watched.passages ++ stored, deliveries⟩ := by
  refine ⟨pairwise, ?_, ?_⟩
  · intro position other otherFound isPassing passage member same
    rcases getElem?_set_cases otherFound with ⟨_, rfl⟩ | ⟨different, old⟩
    · exact own isPassing passage member same
    · rcases List.mem_append.1 member with oldPassage | new
      · exact (deduplicated.waiting position other old isPassing passage oldPassage same).trans onTime
      · have sameHash : other.alert.alertHash = call.alert.alertHash :=
          same.symm.trans (hashes passage new)
        rw [(others position other different old isPassing sameHash).2] at new
        cases new
  · intro first second here there firstFound secondFound firstPassing secondPassing same
    rcases getElem?_set_cases firstFound with ⟨rfl, rfl⟩ | ⟨firstOther, firstOld⟩
    · rcases getElem?_set_cases secondFound with ⟨rfl, _⟩ | ⟨secondOther, secondOld⟩
      · rfl
      · have notPassing := (others second there secondOther secondOld secondPassing same.symm).1
        rw [notPassing] at firstPassing
        cases firstPassing
    · rcases getElem?_set_cases secondFound with ⟨rfl, rfl⟩ | ⟨_, secondOld⟩
      · have notPassing := (others first here firstOther firstOld firstPassing same).1
        rw [notPassing] at secondPassing
        cases secondPassing
      · exact deduplicated.alone first second here there firstOld secondOld firstPassing
          secondPassing same

theorem Deduplicated.of_moved (deduplicated : Deduplicated settings watched) (kept : Kept watched)
    (onTime : watched.clock ≤ now) (found : watched.state.calls[index]? = some call)
    (alone : PassesAlone settings watched index now call) :
    Deduplicated settings (watch settings watched (.advance index now analysis)) := by
  -- While a call is passing, no other call of the alert is.
  have noOther (wasPassing : passing call.stage = true) (position : Nat) (other : Call)
      (different : position ≠ index) (old : watched.state.calls[position]? = some other)
      (otherPassing : passing other.stage = true)
      (same : other.alert.alertHash = call.alert.alertHash) : False :=
    different (deduplicated.alone position index other call old found otherPassing wasPassing same)
  rw [watch_of_moved found]
  have passes : Passes settings watched.state.store now call.alert call.stage
      (advance settings watched.state.store now analysis call.alert call.stage).1
      (advance settings watched.state.store now analysis call.alert call.stage).2 :=
    passes_advance call.stage
  cases passes with
  | enters isArrived unseen isPassing unstored =>
      rw [unstored]
      refine deduplicated.with_call onTime found _ ?_ ?_ ?_ (fun _ none => by cases none)
      · rw [List.append_nil]
        exact deduplicated.pairwise
      · intro _ passage member same
        rw [List.append_nil] at member
        obtain ⟨event, stored, eventHash, receivedAt⟩ := kept.shown passage member
        rw [← receivedAt]
        exact addSeconds_le_of_recentDuplicate unseen stored (eventHash.trans same)
      · intro position other different old otherPassing same
        rw [alone isArrived unseen position other different old same] at otherPassing
        cases otherPassing
  | waits wasPassing isPassing unstored =>
      rw [unstored]
      refine deduplicated.with_call onTime found _ ?_ ?_ ?_ (fun _ none => by cases none)
      · rw [List.append_nil]
        exact deduplicated.pairwise
      · intro _ passage member same
        rw [List.append_nil] at member
        exact (deduplicated.waiting index call found wasPassing passage member same).trans onTime
      · intro position other different old otherPassing same
        exact (noOther wasPassing position other different old otherPassing same).elim
  | stores wasPassing isPassing stored shown =>
      rw [stored]
      refine deduplicated.with_call onTime found _ ?_ ?_ ?_ ?_
      · rw [List.pairwise_append]
        refine ⟨deduplicated.pairwise, List.pairwise_singleton _ _, ?_⟩
        intro passage member fresh freshMember same
        rw [List.mem_singleton.1 freshMember] at same ⊢
        exact Or.inl ((deduplicated.waiting index call found wasPassing passage member same).trans
          onTime)
      · intro notPassing
        rw [isPassing] at notPassing
        cases notPassing
      · intro position other different old otherPassing same
        exact (noOther wasPassing position other different old otherPassing same).elim
      · intro passage member
        rw [List.mem_singleton.1 member]
  | stays isPassing wasPassing unstored =>
      rw [unstored]
      refine deduplicated.with_call onTime found _ ?_ ?_ ?_ (fun _ none => by cases none)
      · rw [List.append_nil]
        exact deduplicated.pairwise
      · intro notPassing
        rw [isPassing] at notPassing
        cases notPassing
      · exact fun _ _ _ _ _ _ => ⟨isPassing, rfl⟩

theorem Deduplicated.step (deduplicated : Deduplicated settings watched) (kept : Kept watched)
    (onTime : OnTime watched event) (admitted : Admitted settings watched event) :
    Deduplicated settings (watch settings watched event) := by
  rcases moved_cases watched event with still | ⟨index, now, analysis, call, rfl, found⟩
  · exact deduplicated.of_unmoved (unmoved_of_moved_eq_none still)
  · exact deduplicated.of_moved kept onTime found (admitted call found).1

end Deduplicated

/-! ## The cooldown -/

structure Paced (settings : LiteSettings) (watched : Watched) : Prop where
  pairwise : watched.deliveries.Pairwise fun first second =>
    first.ruleId = second.ruleId → first.alertHash = second.alertHash →
      Apart settings.cooldownSeconds first.receivedAt second.receivedAt
  /-- What has been delivered for a rule is apart from the event of a call that found it due. -/
  due : ∀ (index : Nat) call, watched.state.calls[index]? = some call →
    ∀ rule ∈ pendingFor call.stage, ∀ delivery ∈ watched.deliveries, delivery.ruleId = rule.id →
      delivery.alertHash = call.alert.alertHash →
        Apart settings.cooldownSeconds delivery.receivedAt
          (arrival watched.state.store call.stage)
  alone : ∀ (first second : Nat) call other, first ≠ second →
    watched.state.calls[first]? = some call → watched.state.calls[second]? = some other →
      call.alert.alertHash = other.alert.alertHash → ∀ rule ∈ pendingFor call.stage,
        rule.id ∉ (pendingFor other.stage).map LiteRule.id
  distinct : ∀ (index : Nat) call, watched.state.calls[index]? = some call →
    ((upcoming call.stage).map LiteRule.id).Nodup

section Paced

variable {settings : LiteSettings} {watched : Watched} {event : Event} {index : Nat}
  {now : DateTime} {analysis : Analysis} {call : Call}

theorem paced_watchedFrom : Paced settings (watchedFrom clock) where
  pairwise := List.Pairwise.nil
  due index call none := by simp [watchedFrom, opened] at none
  alone first second call other _ none := by simp [watchedFrom, opened] at none
  distinct index call none := by simp [watchedFrom, opened] at none

theorem arrival_congr {first second : LiteStore} (events : first.events = second.events)
    (stage : Stage) : arrival first stage = arrival second stage := by
  unfold arrival
  rw [events]

theorem Paced.of_unmoved (paced : Paced settings watched) (unmoved : Unmoved settings watched event) :
    Paced settings (watch settings watched event) := by
  refine ⟨?_, ?_, ?_, ?_⟩
  · rw [unmoved.deliveries]
    exact paced.pairwise
  · intro position other found rule isPending
    rw [unmoved.deliveries, arrival_congr unmoved.events]
    rcases unmoved.calls position other found with old | new
    · exact paced.due position other old rule isPending
    · rw [new] at isPending
      cases isPending
  · intro first second here there different firstFound secondFound same rule isPending
    rcases unmoved.calls first here firstFound with firstOld | new
    · rcases unmoved.calls second there secondFound with secondOld | new
      · exact paced.alone first second here there different firstOld secondOld same rule isPending
      · rw [new]
        exact List.not_mem_nil
    · rw [new] at isPending
      cases isPending
  · intro position other found
    rcases unmoved.calls position other found with old | new
    · exact paced.distinct position other old
    · rw [new]
      exact List.nodup_nil

theorem heldBack_iff_of_admitted (kept : Kept watched) {rule : LiteRule} {checkedAt : DateTime}
    (admitted : CheckAdmitted settings watched index call rule checkedAt) :
    heldBack settings watched.state.store call.alert checkedAt rule = true ↔
      ∃ delivery ∈ watched.deliveries, delivery.ruleId = rule.id ∧
        delivery.alertHash = call.alert.alertHash ∧
          checkedAt < delivery.receivedAt.addSeconds settings.cooldownSeconds := by
  rw [heldBack_iff]
  constructor
  · rintro ⟨instant, member, cooling⟩
    obtain ⟨delivery, delivered, sameName, sameHash, rfl⟩ :=
      kept.recorded.mem_deliveredAt_iff.1 member
    exact ⟨delivery, delivered, (admitted.named delivery delivered sameHash cooling).1 sameName,
      sameHash, cooling⟩
  · rintro ⟨delivery, delivered, sameRule, sameHash, cooling⟩
    have sameName := (admitted.named delivery delivered sameHash cooling).2 sameRule
    exact ⟨delivery.receivedAt,
      kept.recorded.mem_deliveredAt_iff.2 ⟨delivery, delivered, sameName, sameHash, rfl⟩, cooling⟩

theorem Kept.arrival_own (kept : Kept watched) {eventId nextId : Nat}
    (found : watched.state.calls[index]? = some call)
    (advances : Advances watched.state.store call.alert call.stage after next)
    (owner : ownedBy call.stage = some eventId) (nextOwner : ownedBy next = some nextId) :
    arrival after next = arrival watched.state.store call.stage := by
  obtain ⟨event, stored, _⟩ := kept.owners index call eventId found owner
  have sameEvent : nextId = eventId := owner_of_advances advances owner nextOwner
  rw [sameEvent] at nextOwner
  rw [arrival_of_lookup owner stored,
    arrival_of_lookup nextOwner (lookup_of_advances advances stored)]

theorem Paced.with_call (paced : Paced settings watched) (kept : Kept watched)
    (advances : Advances watched.state.store call.alert call.stage after next)
    (passages : List Passage) {queued : List Delivered}
    (distinct : ((upcoming next).map LiteRule.id).Nodup)
    (pairwise : (watched.deliveries ++ queued).Pairwise fun first second =>
      first.ruleId = second.ruleId → first.alertHash = second.alertHash →
        Apart settings.cooldownSeconds first.receivedAt second.receivedAt)
    (own : ∀ rule ∈ pendingFor next, ∀ delivery ∈ watched.deliveries ++ queued,
      delivery.ruleId = rule.id → delivery.alertHash = call.alert.alertHash →
        Apart settings.cooldownSeconds delivery.receivedAt (arrival after next))
    (others : ∀ (position : Nat) other, position ≠ index →
      watched.state.calls[position]? = some other →
        other.alert.alertHash = call.alert.alertHash →
          (∀ rule ∈ pendingFor next, rule.id ∉ (pendingFor other.stage).map LiteRule.id) ∧
            ∀ delivery ∈ queued, delivery.ruleId ∉ (pendingFor other.stage).map LiteRule.id)
    (hashes : ∀ delivery ∈ queued, delivery.alertHash = call.alert.alertHash) :
    Paced settings ⟨⟨after, watched.state.calls.set index ⟨call.alert, next⟩⟩, now,
      passages, watched.deliveries ++ queued⟩ := by
  refine ⟨pairwise, ?_, ?_, ?_⟩
  · intro position other otherFound rule isPending delivery member sameRule sameHash
    rcases getElem?_set_cases otherFound with ⟨_, rfl⟩ | ⟨different, old⟩
    · exact own rule isPending delivery member sameRule sameHash
    · obtain ⟨eventId, owner⟩ := exists_owner_of_pending isPending
      rw [kept.arrival_eq old owner fun event => lookup_of_advances advances]
      rcases List.mem_append.1 member with oldDelivery | new
      · exact paced.due position other old rule isPending delivery oldDelivery sameRule sameHash
      · have sameAlert : other.alert.alertHash = call.alert.alertHash :=
          sameHash.symm.trans (hashes delivery new)
        have unqueued := (others position other different old sameAlert).2 delivery new
        rw [sameRule] at unqueued
        exact absurd (List.mem_map_of_mem isPending) unqueued
  · intro first second here there different firstFound secondFound same rule isPending
    rcases getElem?_set_cases firstFound with ⟨rfl, rfl⟩ | ⟨firstOther, firstOld⟩
    · rcases getElem?_set_cases secondFound with ⟨sameCall, _⟩ | ⟨secondOther, secondOld⟩
      · exact absurd sameCall.symm different
      · exact (others second there secondOther secondOld same.symm).1 rule isPending
    · rcases getElem?_set_cases secondFound with ⟨rfl, rfl⟩ | ⟨_, secondOld⟩
      · intro also
        obtain ⟨sibling, siblingPending, sameRule⟩ := List.mem_map.1 also
        have apart := (others first here firstOther firstOld same).1 sibling siblingPending
        rw [sameRule] at apart
        exact apart (List.mem_map_of_mem isPending)
      · exact paced.alone first second here there different firstOld secondOld same rule isPending
  · intro position other otherFound
    rcases getElem?_set_cases otherFound with ⟨_, rfl⟩ | ⟨_, old⟩
    · exact distinct
    · exact paced.distinct position other old

theorem Paced.of_moved (paced : Paced settings watched) (kept : Kept watched)
    (positive : 0 < settings.cooldownSeconds) (found : watched.state.calls[index]? = some call)
    (admitted : ∀ rule checkedAt, checks settings now call.stage = some (rule, checkedAt) →
      CheckAdmitted settings watched index call rule checkedAt) :
    Paced settings (watch settings watched (.advance index now analysis)) := by
  have advances : Advances watched.state.store call.alert call.stage
      (advance settings watched.state.store now analysis call.alert call.stage).1
      (advance settings watched.state.store now analysis call.alert call.stage).2 :=
    advances_advance (kept.sound.underway index call found)
  have distinct := @upcoming_advance settings watched.state.store now analysis call.alert
    call.stage (paced.distinct index call found)
  have paces : Paces settings watched.state.store now call.alert call.stage
      (advance settings watched.state.store now analysis call.alert call.stage).2 :=
    paces_advance positive call.stage
  rw [watch_of_moved found]
  generalize (advance settings watched.state.store now analysis call.alert call.stage).1 = after
    at advances ⊢
  generalize (advance settings watched.state.store now analysis call.alert call.stage).2 = next
    at advances distinct paces ⊢
  -- What was due and is still due, is due of the same event.
  have own {rule : LiteRule} (wasPending : rule ∈ pendingFor call.stage)
      (isPending : rule ∈ pendingFor next) : ∀ delivery ∈ watched.deliveries,
      delivery.ruleId = rule.id → delivery.alertHash = call.alert.alertHash →
        Apart settings.cooldownSeconds delivery.receivedAt (arrival after next) := by
    obtain ⟨eventId, owner⟩ := exists_owner_of_pending wasPending
    obtain ⟨nextId, nextOwner⟩ := exists_owner_of_pending isPending
    rw [kept.arrival_own found advances owner nextOwner]
    exact paced.due index call found rule wasPending
  cases paces with
  | keeps same unqueued =>
      simp only [deliveryOf, unqueued, Option.map_none, Option.toList_none]
      refine paced.with_call kept advances _ distinct ?_ ?_ ?_ (fun _ none => by cases none)
      · rw [List.append_nil]
        exact paced.pairwise
      · intro rule isPending delivery member
        rw [List.append_nil] at member
        exact own (same ▸ isPending) isPending delivery member
      · intro position other different old sameHash
        refine ⟨?_, fun _ none => by cases none⟩
        rw [same]
        exact paced.alone index position call other (Ne.symm different) found old sameHash.symm
  | finds rule checkedAt isChecked isDue pending unqueued =>
      have check := admitted rule checkedAt isChecked
      simp only [deliveryOf, unqueued, Option.map_none, Option.toList_none]
      refine paced.with_call kept advances _ distinct ?_ ?_ ?_ (fun _ none => by cases none)
      · rw [List.append_nil]
        exact paced.pairwise
      · intro other isPending delivery member
        rw [List.append_nil] at member
        have wasOrNew := isPending
        rw [pending, List.mem_append, List.mem_singleton] at wasOrNew
        rcases wasOrNew with was | rfl
        · exact own was isPending delivery member
        · intro sameRule sameHash
          obtain ⟨eventId, owner⟩ := exists_owner_of_checks isChecked
          obtain ⟨nextId, nextOwner⟩ := exists_owner_of_pending isPending
          rw [kept.arrival_own found advances owner nextOwner]
          exact check.arrived isDue delivery member sameHash sameRule
      · intro position other different old sameHash
        refine ⟨?_, fun _ none => by cases none⟩
        intro pendingRule isPending
        rw [pending, List.mem_append, List.mem_singleton] at isPending
        rcases isPending with was | rfl
        · exact paced.alone index position call other (Ne.symm different) found old sameHash.symm
            pendingRule was
        · exact check.alone isDue position other different old sameHash
  | queues rule isQueued wasPending =>
      have pendingIds : ((rule :: pendingFor next).map LiteRule.id).Nodup := by
        rw [← wasPending]
        exact (paced.distinct index call found).sublist
          ((pendingFor_sublist_upcoming call.stage).map LiteRule.id)
      have first : rule ∈ pendingFor call.stage := by
        rw [wasPending]
        exact List.mem_cons_self
      simp only [deliveryOf, isQueued, Option.map_some, Option.toList_some]
      refine paced.with_call kept advances _ distinct ?_ ?_ ?_ ?_
      · rw [List.pairwise_append]
        refine ⟨paced.pairwise, List.pairwise_singleton _ _, ?_⟩
        intro delivery member fresh freshMember
        rw [List.mem_singleton.1 freshMember]
        exact paced.due index call found rule first delivery member
      · intro pendingRule isPending delivery member sameRule
        rcases List.mem_append.1 member with old | new
        · have was : pendingRule ∈ pendingFor call.stage := by
            rw [wasPending]
            exact List.mem_cons_of_mem rule isPending
          exact own was isPending delivery old sameRule
        · rw [List.mem_singleton.1 new] at sameRule
          have repeated : rule.id ∈ (pendingFor next).map LiteRule.id :=
            List.mem_map.2 ⟨pendingRule, isPending, sameRule.symm⟩
          exact absurd repeated (List.nodup_cons.1 pendingIds).1
      · intro position other different old sameHash
        have alone := paced.alone index position call other (Ne.symm different) found old
          sameHash.symm
        refine ⟨fun pendingRule isPending => alone pendingRule ?_, ?_⟩
        · rw [wasPending]
          exact List.mem_cons_of_mem rule isPending
        · intro delivery member
          rw [List.mem_singleton.1 member]
          exact alone rule first
      · intro delivery member
        rw [List.mem_singleton.1 member]

theorem Paced.step (paced : Paced settings watched) (kept : Kept watched)
    (positive : 0 < settings.cooldownSeconds) (admitted : Admitted settings watched event) :
    Paced settings (watch settings watched event) := by
  rcases moved_cases watched event with still | ⟨index, now, analysis, call, rfl, found⟩
  · exact paced.of_unmoved (unmoved_of_moved_eq_none still)
  · exact paced.of_moved kept positive found (admitted call found).2

end Paced

/-! ## Runs -/

section Runs

variable {settings : LiteSettings} {watched : Watched} {event : Event}

theorem GatesHold.of_invariants (kept : Kept watched)
    (deduplicated : Deduplicated settings (watch settings watched event))
    (paced : 0 < settings.cooldownSeconds → Paced settings (watch settings watched event))
    (admitted : Admitted settings watched event) : GatesHold settings watched event := by
  refine ⟨deduplicated.pairwise, ?_, ?_⟩
  · rcases lt_or_ge 0 settings.cooldownSeconds with positive | off
    · exact (paced positive).pairwise
    · exact List.pairwise_of_forall fun first second _ _ =>
        apart_of_nonpos off first.receivedAt second.receivedAt
  · intro call now isMoved rule checkedAt isChecked
    rcases moved_cases watched event with still | ⟨index, moment, analysis, other, rfl, found⟩
    · rw [still] at isMoved
      cases isMoved
    · have same : some (other, moment) = some (call, now) := by
        rw [← isMoved]
        simp [moved, found]
      obtain ⟨rfl, rfl⟩ := Prod.mk.inj (Option.some.inj same)
      exact heldBack_iff_of_admitted kept ((admitted other found).2 rule checkedAt isChecked)

/-- The gates hold along every run whose checks are admitted. -/
theorem gates_hold (settings : LiteSettings) (clock : DateTime) (events : List Event)
    (along : Along (watch settings)
      (fun watched event => OnTime watched event ∧ Admitted settings watched event)
      (watchedFrom clock) events) :
    Along (watch settings) (GatesHold settings) (watchedFrom clock) events := by
  have preserved (watched : Watched) (event : Event)
      (held : Kept watched ∧ Deduplicated settings watched ∧
        (0 < settings.cooldownSeconds → Paced settings watched))
      (guard : OnTime watched event ∧ Admitted settings watched event) :
      Kept (watch settings watched event) ∧ Deduplicated settings (watch settings watched event) ∧
        (0 < settings.cooldownSeconds → Paced settings (watch settings watched event)) :=
    ⟨held.1.step event, held.2.1.step held.1 guard.1 guard.2,
      fun positive => (held.2.2 positive).step held.1 positive guard.2⟩
  refine along.of_invariant (fun watched => Kept watched ∧ Deduplicated settings watched ∧
    (0 < settings.cooldownSeconds → Paced settings watched)) ?_ preserved ?_
  · exact ⟨kept_watchedFrom clock, deduplicated_watchedFrom clock,
      fun _ => paced_watchedFrom clock⟩
  · intro watched event held guard
    have after := preserved watched event held guard
    exact .of_invariants held.1 after.2.1 after.2.2 guard.2

end Runs

/-! ## Two alerts of one identity -/

instance (watched : Watched) (event : Event) : Decidable (OnTime watched event) := by
  cases event <;> unfold OnTime <;> infer_instance

theorem forall_other_iff {calls : List Call} {index : Nat} {holds : Call → Prop} :
    (∀ other ∈ calls.eraseIdx index, holds other) ↔
      ∀ (position : Nat) other, position ≠ index → calls[position]? = some other → holds other := by
  simp only [List.mem_eraseIdx_iff_getElem?]
  exact ⟨fun all position other different found => all other ⟨position, different, found⟩,
    fun all other ⟨position, different, found⟩ => all position other different found⟩

instance (seconds : Int) (first second : DateTime) : Decidable (Apart seconds first second) :=
  inferInstanceAs (Decidable (_ ∨ _))

instance (stage : Stage) : Decidable (stage = .arrived) := by
  cases stage <;> first | exact isTrue rfl | exact isFalse nofun

section Checking

variable {settings : LiteSettings} {watched : Watched} {index : Nat} {now : DateTime} {call : Call}

instance : Decidable (PassesAlone settings watched index now call) :=
  decidable_of_iff
    (call.stage = .arrived →
      watched.state.store.recentDuplicate now call.alert.alertHash
          settings.dedupWindowSeconds = none →
        ∀ other ∈ watched.state.calls.eraseIdx index,
          other.alert.alertHash = call.alert.alertHash → passing other.stage = false)
    (forall_congr' fun _ => forall_congr' fun _ => forall_other_iff)

instance {rule : LiteRule} {checkedAt : DateTime} :
    Decidable (CheckAdmitted settings watched index call rule checkedAt) :=
  decidable_of_iff
    ((heldBack settings watched.state.store call.alert checkedAt rule = false →
        ∀ other ∈ watched.state.calls.eraseIdx index,
          other.alert.alertHash = call.alert.alertHash →
            rule.id ∉ (pendingFor other.stage).map LiteRule.id) ∧
      (∀ delivery ∈ watched.deliveries, delivery.alertHash = call.alert.alertHash →
        checkedAt < delivery.receivedAt.addSeconds settings.cooldownSeconds →
          (delivery.ruleName = rule.name ↔ delivery.ruleId = rule.id)) ∧
      (heldBack settings watched.state.store call.alert checkedAt rule = false →
        ∀ delivery ∈ watched.deliveries, delivery.alertHash = call.alert.alertHash →
          delivery.ruleId = rule.id → Apart settings.cooldownSeconds delivery.receivedAt
            (arrival watched.state.store call.stage)))
    ⟨fun ⟨alone, named, arrived⟩ => ⟨fun due => forall_other_iff.1 (alone due), named, arrived⟩,
      fun admitted => ⟨fun due => forall_other_iff.2 (admitted.alone due), admitted.named,
        admitted.arrived⟩⟩

instance (event : Event) : Decidable (Admitted settings watched event) :=
  match event with
  | .advance index now _ =>
      decidable_of_iff
        (∀ call ∈ watched.state.calls[index]?, PassesAlone settings watched index now call ∧
          ∀ check ∈ checks settings now call.stage,
            CheckAdmitted settings watched index call check.1 check.2)
        (forall₂_congr fun _ _ => and_congr_right fun _ => Prod.forall)
  | .arrive _ | .crash | .rulesEdited _ | .silencesEdited _ => isTrue trivial

end Checking

def deliveredRun : List Event :=
  .rulesEdited (rulesNamed ["pager"]) :: .arrive diskAlert ::
    List.replicate 7 (.advance 0 0 mediumAnalysis)

/-- An hour after a delivery two calls overlap with its alert, the second a duplicate of the first. -/
def repeatedRun : List Event :=
  let later := DateTime.addSeconds 0 3600
  deliveredRun ++ [.advance 0 0 mediumAnalysis, .arrive diskAlert, .arrive diskAlert] ++
    List.replicate 4 (.advance 1 later mediumAnalysis) ++
    (List.replicate 6 [.advance 2 later mediumAnalysis, .advance 1 later mediumAnalysis]).flatten

theorem gates_hold_repeatedRun :
    Along (watch plainLite) (GatesHold plainLite) (watchedFrom 0) repeatedRun :=
  gates_hold plainLite 0 repeatedRun (by decide)

/-- Two calls with an alert, one always a step behind the other. -/
def overlappingRun (steps : Nat) : List Event :=
  .rulesEdited (rulesNamed ["pager"]) :: .arrive diskAlert :: .arrive diskAlert ::
    (List.replicate steps [.advance 0 0 mediumAnalysis, .advance 1 0 mediumAnalysis]).flatten

/-- A rule was delivered to, and another of its name has taken its place. -/
def namesakeRun : List Event :=
  deliveredRun ++ .advance 0 0 mediumAnalysis ::
    .rulesEdited ((rulesNamed ["pager", "pager"]).delete (·.id = 1)) :: .arrive diskAlert ::
      List.replicate 6 (.advance 1 (DateTime.addSeconds 0 600) mediumAnalysis)

theorem not_apart_self (positive : 0 < seconds) (instant : DateTime) :
    ¬ Apart seconds instant instant := by
  have forward : instant < instant.addSeconds seconds := by
    have shift : 0 < seconds * DateTime.microsecondsPerSecond :=
      Int.mul_pos positive (by decide)
    exact Int.lt_add_of_pos_right instant shift
  rintro (back | back)
  · exact absurd back forward.not_ge
  · exact absurd back forward.not_ge

/-- Both calls pass the dedup gate and both deliver; and the new rule is held back though nothing
was ever delivered for it. -/
theorem gates_fail :
    (Along (watch plainLite) OnTime (watchedFrom 0) (overlappingRun 7) ∧
        ¬ Along (watch plainLite) (GatesHold plainLite) (watchedFrom 0) (overlappingRun 7)) ∧
      Along (watch plainLite) OnTime (watchedFrom 0) namesakeRun ∧
        ¬ Along (watch plainLite) (GatesHold plainLite) (watchedFrom 0) namesakeRun := by
  refine ⟨⟨by decide, fun along => ?_⟩, by decide, fun along => ?_⟩
  · rw [along_iff_forall] at along
    have holds := along (overlappingRun 7).dropLast (.advance 1 0 mediumAnalysis) [] rfl
    have twice : (watch plainLite (run (watch plainLite) (watchedFrom 0) (overlappingRun 7).dropLast)
        (.advance 1 0 mediumAnalysis)).passages = [⟨"disk", 0⟩, ⟨"disk", 0⟩] := by
      decide
    have pairwise := holds.deduplicated
    rw [twice] at pairwise
    exact not_apart_self (by decide) 0 (List.rel_of_pairwise_cons pairwise List.mem_cons_self rfl)
  · rw [along_iff_forall] at along
    have holds := along namesakeRun.dropLast
      (.advance 1 (DateTime.addSeconds 0 600) mediumAnalysis) [] rfl
    generalize reached : run (watch plainLite) (watchedFrom 0) namesakeRun.dropLast = watched
      at holds
    have heldBackAlone : watched.state.calls[1]?.any (fun call =>
        (checks plainLite (DateTime.addSeconds 0 600) call.stage).any fun check =>
          heldBack plainLite watched.state.store call.alert check.2 check.1 &&
            watched.deliveries.all (·.ruleId ≠ check.1.id)) = true := by
      subst reached
      decide
    obtain ⟨call, found, checked⟩ := (Option.any_eq_true _ _).1 heldBackAlone
    obtain ⟨⟨rule, checkedAt⟩, isChecked, held⟩ := (Option.any_eq_true _ _).1 checked
    rw [Bool.and_eq_true, List.all_eq_true] at held
    obtain ⟨delivery, member, sameRule, _⟩ := (holds.ownCooldown call _ (by simp [moved, found])
      rule checkedAt isChecked).1 held.1
    exact of_decide_eq_true (held.2 delivery member) sameRule

end LiteGates

end WebhookWise
