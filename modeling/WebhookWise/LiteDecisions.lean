import WebhookWise.GuardedRuns
import WebhookWise.LitePipeline

/-!
# One decision for each alert of the Lite edition

A call stores the event, queues a delivery for each rule that is due, and writes the decision
last.  What a step does to the log of one event is one of four things: nothing, the event itself,
one more delivery, or the decision that names all of them.
-/

namespace WebhookWise

open SqlTable GuardedRuns

namespace LiteDecisions

open LitePipeline

/-! ## What the log says of an event -/

def decisionsOf (store : LiteStore) (eventId : Nat) : List LiteDecision :=
  store.decisions.rows.filter fun decision => decision.eventId = eventId

def queuedFor (store : LiteStore) (eventId : Nat) : List String :=
  (store.outbox.rows.filter fun delivery => delivery.eventId = eventId).map LiteDelivery.ruleName

/-- An event has exactly one decision; there are deliveries just when that is to forward, and then
one for each rule that it names. -/
def Explained (store : LiteStore) (eventId : Nat) : Prop :=
  ∃ decision, decisionsOf store eventId = [decision] ∧
    (queuedFor store eventId ≠ [] ↔ decision.outcome = .forwarded) ∧
    (decision.outcome = .forwarded → queuedFor store eventId = decision.matched)

def AllExplained (store : LiteStore) : Prop :=
  ∀ event ∈ store.events.rows, Explained store event.id

/-- The event whose decision a call has still to write. -/
def ownedBy : Stage → Option Nat
  | .skipped _ eventId _ => some eventId
  | .stored _ eventId _ => some eventId
  | .routed _ eventId _ _ => some eventId
  | .cooling _ eventId _ _ _ _ => some eventId
  | .enqueueing _ eventId _ _ => some eventId
  | _ => none

def sentBy : Stage → List LiteRule
  | .enqueueing _ _ sent _ => sent
  | _ => []

/-- A call that queues deliveries has queued one. -/
def Underway : Stage → Prop
  | .enqueueing _ _ sent _ => sent ≠ []
  | _ => True

def isFinished : Stage → Bool
  | .finished => true
  | _ => false

/-- No call is under way. -/
def AtRest (state : State) : Prop :=
  ∀ call ∈ state.calls, isFinished call.stage = true

/-- No crash comes between an event and its decision. -/
def CrashesOutside (state : State) : Event → Prop
  | .crash => ∀ call ∈ state.calls, ownedBy call.stage = none
  | _ => True

/-! ## One step -/

variable (steps : List JsonObject) (eventId : Nat)

section Steps

variable {settings : LiteSettings} {store after : LiteStore} {now : DateTime}
  {analysis : Analysis} {alert : LiteAlert} {stage next : Stage}

/-- What a call does in one step: nothing to the log, or it stores its event, queues a delivery
for it, or writes its decision. -/
inductive Advances (store : LiteStore) (alert : LiteAlert) (stage : Stage) :
    LiteStore → Stage → Prop
  | reads {next : Stage} (owned : ownedBy next = ownedBy stage) (sent : sentBy next = sentBy stage)
      (underway : Underway next) : Advances store alert stage store next
  | stores {next : Stage} (now : DateTime) (analysis : Option Analysis)
      (outside : ownedBy stage = none) (owned : ownedBy next = some store.events.nextKey)
      (sent : sentBy next = []) (underway : Underway next) :
      Advances store alert stage (store.insertEvent now alert analysis) next
  | queues {next : Stage} (now : DateTime) (eventId : Nat) (rule : LiteRule)
      (owner : ownedBy stage = some eventId) (owned : ownedBy next = some eventId)
      (sent : sentBy next = sentBy stage ++ [rule]) (underway : Underway next) :
      Advances store alert stage (store.enqueueDelivery now eventId rule) next
  | decides (now : DateTime) (eventId : Nat) (outcome : Outcome) (skipCode : SkipCode)
      (steps : List JsonObject) (owner : ownedBy stage = some eventId)
      (outcomeIff : sentBy stage ≠ [] ↔ outcome = .forwarded) :
      Advances store alert stage (store.insertDecision now eventId outcome skipCode steps
        ((sentBy stage).map LiteRule.name)) .finished

theorem advances_deliver (sent rest : List LiteRule) (owner : ownedBy stage = some eventId)
    (sentEq : sentBy stage = sent) (some_ : sent ++ rest ≠ []) :
    Advances store alert stage (deliver store now steps eventId sent rest).1
      (deliver store now steps eventId sent rest).2 := by
  cases rest with
  | nil =>
      rw [List.append_nil] at some_
      subst sentEq
      exact .decides now eventId .forwarded .none _ owner (iff_of_true some_ rfl)
  | cons rule rest =>
      refine .queues now eventId rule owner rfl ?_ ?_
      · rw [sentEq]
        rfl
      · exact List.append_ne_nil_of_right_ne_nil _ (List.cons_ne_nil _ _)

theorem advances_afterCooldown (due : List LiteRule) (cooled : List String)
    (owner : ownedBy stage = some eventId) (sentEq : sentBy stage = []) :
    Advances store alert stage (afterCooldown settings store now steps eventId due cooled).1
      (afterCooldown settings store now steps eventId due cooled).2 := by
  unfold afterCooldown
  split
  · have outcomeIff : sentBy stage ≠ [] ↔ Outcome.skipped = .forwarded := by simp [sentEq]
    have decided := @Advances.decides store alert stage now eventId .skipped .cooldown
      (steps ++ [recorded "cooldown" "cooling" [("cooled", names cooled)]]) owner outcomeIff
    rw [sentEq] at decided
    exact decided
  · rename_i some_
    exact advances_deliver _ eventId [] due owner sentEq (by simpa using some_)

theorem advances_checkCooldown (checkedAt : DateTime) (rule : LiteRule) (rest due : List LiteRule)
    (cooled : List String) (owner : ownedBy stage = some eventId) (sentEq : sentBy stage = []) :
    Advances store alert stage store
      (checkCooldown settings store alert steps eventId checkedAt rule rest due cooled) := by
  unfold checkCooldown
  split
  · exact .reads owner.symm sentEq.symm trivial
  · exact .reads owner.symm sentEq.symm trivial

theorem advances_skip (skipCode : SkipCode) (steps : List JsonObject)
    (owner : ownedBy stage = some eventId) (sentEq : sentBy stage = []) :
    Advances store alert stage (store.insertDecision now eventId .skipped skipCode steps [])
      .finished := by
  have decided := @Advances.decides store alert stage now eventId .skipped skipCode steps owner
    (by simp [sentEq])
  rw [sentEq] at decided
  exact decided

theorem advances_advance (underway : Underway stage) :
    Advances store alert stage (advance settings store now analysis alert stage).1
      (advance settings store now analysis alert stage).2 := by
  cases stage with
  | arrived | stored | finished => exact .reads rfl rfl trivial
  | gated duplicate =>
      cases duplicate with
      | none => exact .reads rfl rfl trivial
      | some duplicate => exact .stores now none rfl rfl rfl trivial
  | quieted steps silences =>
      simp only [advance]
      cases silencedBy settings alert silences with
      | some silence => exact .stores now none rfl rfl rfl trivial
      | none => exact .reads rfl rfl trivial
  | analysing steps => exact .stores now (some analysis) rfl rfl rfl trivial
  | skipped steps eventId skipCode => exact advances_skip eventId skipCode steps rfl rfl
  | routed steps eventId matched stoppedBy =>
      cases matched with
      | nil => exact advances_skip eventId .noMatch _ rfl rfl
      | cons rule rules =>
          simp only [advance]
          split
          · exact advances_afterCooldown _ eventId (rule :: rules) [] rfl rfl
          · exact advances_checkCooldown _ eventId now rule rules [] [] rfl rfl
  | cooling steps eventId checkedAt rest due cooled =>
      cases rest with
      | nil => exact advances_afterCooldown steps eventId due cooled rfl rfl
      | cons rule rest =>
          exact advances_checkCooldown steps eventId checkedAt rule rest due cooled rfl rfl
  | enqueueing steps eventId sent rest =>
      exact advances_deliver steps eventId sent rest rfl rfl
        (List.append_ne_nil_of_left_ne_nil underway rest)

end Steps

/-! ## What a write says of one event -/

section Writes

variable {store : LiteStore} {now : DateTime} {eventId other : Nat}

@[simp]
theorem queuedFor_enqueueDelivery (rule : LiteRule) :
    queuedFor (store.enqueueDelivery now eventId rule) eventId =
      queuedFor store eventId ++ [rule.name] := by
  simp [queuedFor, LiteStore.enqueueDelivery, Table.insert, LiteStore.deliveryRow]

theorem queuedFor_enqueueDelivery_of_ne (apart : eventId ≠ other) (rule : LiteRule) :
    queuedFor (store.enqueueDelivery now eventId rule) other = queuedFor store other := by
  simp [queuedFor, LiteStore.enqueueDelivery, Table.insert, LiteStore.deliveryRow, apart]

theorem decisionsOf_insertDecision (outcome : Outcome) (skipCode : SkipCode)
    (steps : List JsonObject) (matched : List String) :
    decisionsOf (store.insertDecision now eventId outcome skipCode steps matched) eventId =
      decisionsOf store eventId ++
        [LiteStore.decisionRow now eventId outcome skipCode steps matched
          store.decisions.nextKey] := by
  simp [decisionsOf, LiteStore.insertDecision, Table.insert, LiteStore.decisionRow]

theorem decisionsOf_insertDecision_of_ne (apart : eventId ≠ other) (outcome : Outcome)
    (skipCode : SkipCode) (steps : List JsonObject) (matched : List String) :
    decisionsOf (store.insertDecision now eventId outcome skipCode steps matched) other =
      decisionsOf store other := by
  simp [decisionsOf, LiteStore.insertDecision, Table.insert, LiteStore.decisionRow, apart]

theorem Explained.of_eq {after : LiteStore} (explained : Explained store eventId)
    (decisions : decisionsOf after eventId = decisionsOf store eventId)
    (queued : queuedFor after eventId = queuedFor store eventId) : Explained after eventId := by
  unfold Explained
  rw [decisions, queued]
  exact explained

end Writes

/-! ## The invariant -/

/-- What the log says of an event whose decision a call has still to write. -/
structure Owned (store : LiteStore) (stage : Stage) (eventId : Nat) : Prop where
  stored : ∃ event ∈ store.events.rows, event.id = eventId
  undecided : decisionsOf store eventId = []
  queued : queuedFor store eventId = (sentBy stage).map LiteRule.name

theorem Owned.lt_nextKey {store : LiteStore} {stage : Stage} {eventId : Nat}
    (owned : Owned store stage eventId) : eventId < store.events.nextKey := by
  obtain ⟨event, member, rfl⟩ := owned.stored
  exact store.events.keys_lt event member

theorem Owned.not_explained {store : LiteStore} {stage : Stage} {eventId : Nat}
    (owned : Owned store stage eventId) : ¬ Explained store eventId := by
  rintro ⟨decision, only, _⟩
  rw [owned.undecided] at only
  cases only

structure Sound (state : State) : Prop where
  underway : ∀ (index : Nat) call, state.calls[index]? = some call → Underway call.stage
  owned : ∀ (index : Nat) call eventId, state.calls[index]? = some call →
    ownedBy call.stage = some eventId → Owned state.store call.stage eventId
  apart : ∀ (first second : Nat) call other eventId, state.calls[first]? = some call →
    state.calls[second]? = some other → ownedBy call.stage = some eventId →
      ownedBy other.stage = some eventId → first = second
  decided : ∀ decision ∈ state.store.decisions.rows, decision.eventId < state.store.events.nextKey
  queued : ∀ delivery ∈ state.store.outbox.rows, delivery.eventId < state.store.events.nextKey

/-- Every event is explained, or a call will explain it. -/
def Accounted (state : State) : Prop :=
  ∀ event ∈ state.store.events.rows, Explained state.store event.id ∨
    ∃ (index : Nat) (call : Call), state.calls[index]? = some call ∧
      ownedBy call.stage = some event.id

theorem getElem?_set_cases {calls : List Call} {index position : Nat} {next other : Call}
    (found : (calls.set index next)[position]? = some other) :
    (position = index ∧ other = next) ∨ (position ≠ index ∧ calls[position]? = some other) := by
  rw [List.getElem?_set] at found
  split at found
  · rename_i same
    split at found
    · exact Or.inl ⟨same.symm, (Option.some.inj found).symm⟩
    · cases found
  · rename_i different
    exact Or.inr ⟨Ne.symm different, found⟩

section Invariant

variable {settings : LiteSettings} {state : State} {index : Nat} {call : Call}
  {after : LiteStore} {next : Stage}

theorem sound_opened : Sound opened where
  underway index call none := by simp [opened] at none
  owned index call eventId none := by simp [opened] at none
  apart first second call other eventId none := by simp [opened] at none
  decided decision member := by cases member
  queued delivery member := by cases member

theorem Sound.with_call (sound : Sound state)
    (underway : Underway next)
    (events : state.store.events.nextKey ≤ after.events.nextKey)
    (others : ∀ (position : Nat) other eventId, position ≠ index →
      state.calls[position]? = some other → ownedBy other.stage = some eventId →
        Owned after other.stage eventId ∧ ownedBy next ≠ some eventId)
    (own : ∀ eventId, ownedBy next = some eventId → Owned after next eventId)
    (decided : ∀ decision ∈ after.decisions.rows, decision ∈ state.store.decisions.rows ∨
      decision.eventId < after.events.nextKey)
    (queued : ∀ delivery ∈ after.outbox.rows, delivery ∈ state.store.outbox.rows ∨
      delivery.eventId < after.events.nextKey) :
    Sound ⟨after, state.calls.set index ⟨call.alert, next⟩⟩ where
  underway position other found := by
    rcases getElem?_set_cases found with ⟨_, rfl⟩ | ⟨_, old⟩
    · exact underway
    · exact sound.underway position other old
  owned position other eventId found owner := by
    rcases getElem?_set_cases found with ⟨_, rfl⟩ | ⟨different, old⟩
    · exact own eventId owner
    · exact (others position other eventId different old owner).1
  apart first second here there eventId firstFound secondFound firstOwner secondOwner := by
    rcases getElem?_set_cases firstFound with ⟨rfl, rfl⟩ | ⟨firstOther, firstOld⟩
    · rcases getElem?_set_cases secondFound with ⟨rfl, _⟩ | ⟨secondOther, secondOld⟩
      · rfl
      · exact absurd firstOwner
          (others second there eventId secondOther secondOld secondOwner).2
    · rcases getElem?_set_cases secondFound with ⟨rfl, rfl⟩ | ⟨_, secondOld⟩
      · exact absurd secondOwner (others first here eventId firstOther firstOld firstOwner).2
      · exact sound.apart first second here there eventId firstOld secondOld firstOwner secondOwner
  decided decision member := by
    rcases decided decision member with old | new
    · exact (sound.decided decision old).trans_le events
    · exact new
  queued delivery member := by
    rcases queued delivery member with old | new
    · exact (sound.queued delivery old).trans_le events
    · exact new

theorem Sound.advance (sound : Sound state) (found : state.calls[index]? = some call)
    (advances : Advances state.store call.alert call.stage after next) :
    Sound ⟨after, state.calls.set index ⟨call.alert, next⟩⟩ := by
  -- No other call owns the event of this one.
  have elsewhere : ∀ (position : Nat) other eventId otherId, position ≠ index →
      state.calls[position]? = some other → ownedBy other.stage = some otherId →
        ownedBy call.stage = some eventId → eventId ≠ otherId := by
    rintro position other eventId otherId different old otherOwner owner rfl
    exact different (sound.apart position index other call eventId old found otherOwner owner)
  cases advances with
  | reads owned sent underway =>
      refine sound.with_call underway le_rfl ?_ ?_ (fun _ => Or.inl) fun _ => Or.inl
      · intro position other otherId different old otherOwner
        refine ⟨sound.owned position other otherId old otherOwner, ?_⟩
        rw [owned]
        exact fun owner => elsewhere position other otherId otherId different old otherOwner owner rfl
      · intro eventId owner
        rw [owned] at owner
        have before := sound.owned index call eventId found owner
        exact ⟨before.stored, before.undecided, by rw [sent]; exact before.queued⟩
  | stores now analysis outside owned sent underway =>
      refine sound.with_call underway (Nat.le_succ _) ?_ ?_ (fun _ => Or.inl) fun _ => Or.inl
      · intro position other otherId _ old otherOwner
        have before := sound.owned position other otherId old otherOwner
        obtain ⟨event, member, isEvent⟩ := before.stored
        refine ⟨⟨⟨event, List.mem_append_left _ member, isEvent⟩, before.undecided, before.queued⟩, ?_⟩
        rw [owned]
        intro same
        exact before.lt_nextKey.ne (Option.some.inj same).symm
      · intro eventId owner
        rw [owned] at owner
        obtain rfl := Option.some.inj owner
        refine ⟨⟨_, List.mem_append_right _ List.mem_cons_self, rfl⟩, ?_, ?_⟩
        · apply List.filter_eq_nil_iff.2
          intro decision member isOwn
          exact (sound.decided decision member).ne (of_decide_eq_true isOwn)
        · rw [sent]
          unfold queuedFor
          rw [List.map_nil, List.map_eq_nil_iff, List.filter_eq_nil_iff]
          intro delivery member isOwn
          exact (sound.queued delivery member).ne (of_decide_eq_true isOwn)
  | queues now eventId rule owner owned sent underway =>
      have before := sound.owned index call eventId found owner
      refine sound.with_call underway le_rfl ?_ ?_ (fun _ => Or.inl) ?_
      · intro position other otherId different old otherOwner
        have apart := elsewhere position other eventId otherId different old otherOwner owner
        have otherBefore := sound.owned position other otherId old otherOwner
        refine ⟨⟨otherBefore.stored, otherBefore.undecided, ?_⟩, ?_⟩
        · rw [queuedFor_enqueueDelivery_of_ne apart]
          exact otherBefore.queued
        · rw [owned]
          exact fun same => apart (Option.some.inj same)
      · intro ownId ownerNext
        rw [owned] at ownerNext
        obtain rfl := Option.some.inj ownerNext
        refine ⟨before.stored, before.undecided, ?_⟩
        rw [queuedFor_enqueueDelivery, before.queued, sent, List.map_append]
        rfl
      · intro delivery member
        rcases List.mem_append.1 member with old | new
        · exact Or.inl old
        · rw [List.mem_singleton.1 new]
          exact Or.inr before.lt_nextKey
  | decides now eventId outcome skipCode steps owner outcomeIff =>
      have before := sound.owned index call eventId found owner
      refine sound.with_call trivial le_rfl ?_ (fun _ none => by cases none) ?_ fun _ => Or.inl
      · intro position other otherId different old otherOwner
        have apart := elsewhere position other eventId otherId different old otherOwner owner
        have otherBefore := sound.owned position other otherId old otherOwner
        refine ⟨⟨otherBefore.stored, ?_, otherBefore.queued⟩, fun none => by cases none⟩
        rw [decisionsOf_insertDecision_of_ne apart]
        exact otherBefore.undecided
      · intro decision member
        rcases List.mem_append.1 member with old | new
        · exact Or.inl old
        · rw [List.mem_singleton.1 new]
          exact Or.inr before.lt_nextKey

theorem Accounted.advance (accounted : Accounted state) (sound : Sound state)
    (found : state.calls[index]? = some call)
    (advances : Advances state.store call.alert call.stage after next) :
    Accounted ⟨after, state.calls.set index ⟨call.alert, next⟩⟩ := by
  have inside : index < state.calls.length := (List.getElem?_eq_some_iff.1 found).1
  have self : (state.calls.set index ⟨call.alert, next⟩)[index]? = some ⟨call.alert, next⟩ :=
    List.getElem?_set_self inside
  have elsewhere {position : Nat} {other : Call} (different : position ≠ index)
      (old : state.calls[position]? = some other) :
      (state.calls.set index ⟨call.alert, next⟩)[position]? = some other :=
    (List.getElem?_set_ne (Ne.symm different)).trans old
  -- An owner is this call, or it stands where it stood.
  have owner_cases {eventId : Nat} (owners : ∃ (position : Nat) (other : Call),
      state.calls[position]? = some other ∧ ownedBy other.stage = some eventId) :
      ownedBy call.stage = some eventId ∨ ∃ (position : Nat) (other : Call),
        (state.calls.set index ⟨call.alert, next⟩)[position]? = some other ∧
          ownedBy other.stage = some eventId := by
    obtain ⟨position, other, old, owner⟩ := owners
    by_cases same : position = index
    · subst same
      rw [found] at old
      obtain rfl := Option.some.inj old
      exact Or.inl owner
    · exact Or.inr ⟨position, other, elsewhere same old, owner⟩
  intro event member
  cases advances with
  | reads owned sent underway =>
      refine (accounted event member).imp_right fun owners => ?_
      rcases owner_cases owners with owner | owners
      · exact ⟨index, _, self, owned.trans owner⟩
      · exact owners
  | stores now analysis outside owned sent underway =>
      rcases List.mem_append.1 member with old | new
      · refine (accounted event old).imp (fun explained => explained.of_eq rfl rfl)
          fun owners => (owner_cases owners).resolve_left ?_
        rw [outside]
        exact fun none => by cases none
      · rw [List.mem_singleton.1 new]
        exact Or.inr ⟨index, _, self, owned⟩
  | queues now eventId rule owner owned sent underway =>
      by_cases own : eventId = event.id
      · exact Or.inr ⟨index, _, self, own ▸ owned⟩
      · refine (accounted event member).imp (fun explained => explained.of_eq rfl
          (queuedFor_enqueueDelivery_of_ne own rule)) fun owners =>
            (owner_cases owners).resolve_left ?_
        rw [owner]
        exact fun same => own (Option.some.inj same)
  | decides now eventId outcome skipCode steps owner outcomeIff =>
      by_cases own : eventId = event.id
      · subst own
        have before := sound.owned index call event.id found owner
        have queued : queuedFor (state.store.insertDecision now event.id outcome skipCode steps
            ((sentBy call.stage).map LiteRule.name)) event.id =
              (sentBy call.stage).map LiteRule.name := before.queued
        refine Or.inl ⟨LiteStore.decisionRow now event.id outcome skipCode steps
          ((sentBy call.stage).map LiteRule.name) state.store.decisions.nextKey, ?_, ?_, ?_⟩
        · rw [decisionsOf_insertDecision, before.undecided]
          rfl
        · rw [queued, Ne, List.map_eq_nil_iff]
          exact outcomeIff
        · intro _
          exact queued
      · refine (accounted event member).imp (fun explained => explained.of_eq
          (decisionsOf_insertDecision_of_ne own outcome skipCode steps _) rfl) fun owners =>
            (owner_cases owners).resolve_left ?_
        rw [owner]
        exact fun same => own (Option.some.inj same)

/-! ## Runs -/

theorem Sound.step (sound : Sound state) (event : Event) : Sound (step settings state event) := by
  cases event with
  | arrive alert =>
      have cases_ {position : Nat} {other : Call}
          (found : (state.calls ++ [⟨alert, .arrived⟩])[position]? = some other) :
          state.calls[position]? = some other ∨ other.stage = .arrived := by
        rw [List.getElem?_append] at found
        split at found
        · exact Or.inl found
        · have member := List.mem_of_getElem? found
          rw [List.mem_singleton.1 member]
          exact Or.inr rfl
      constructor
      · intro position other found
        rcases cases_ found with old | new
        · exact sound.underway position other old
        · rw [new]
          trivial
      · intro position other eventId found owner
        rcases cases_ found with old | new
        · exact sound.owned position other eventId old owner
        · rw [new] at owner
          cases owner
      · intro first second here there eventId firstFound secondFound firstOwner secondOwner
        rcases cases_ firstFound with firstOld | new
        · rcases cases_ secondFound with secondOld | new
          · exact sound.apart first second here there eventId firstOld secondOld firstOwner
              secondOwner
          · rw [new] at secondOwner
            cases secondOwner
        · rw [new] at firstOwner
          cases firstOwner
      · exact sound.decided
      · exact sound.queued
  | advance index now analysis =>
      cases found : state.calls[index]? with
      | none =>
          simp only [LitePipeline.step, found]
          exact sound
      | some call =>
          simp only [LitePipeline.step, found]
          exact sound.advance found (advances_advance (sound.underway index call found))
  | crash =>
      exact ⟨fun _ _ none => by simp [LitePipeline.step] at none,
        fun _ _ _ none => by simp [LitePipeline.step] at none,
        fun _ _ _ _ _ none => by simp [LitePipeline.step] at none, sound.decided, sound.queued⟩
  | rulesEdited | silencesEdited =>
      refine ⟨sound.underway, fun position other eventId found owner => ?_, sound.apart,
        sound.decided, sound.queued⟩
      have before := sound.owned position other eventId found owner
      exact ⟨before.stored, before.undecided, before.queued⟩

theorem Accounted.step (accounted : Accounted state) (sound : Sound state) {event : Event}
    (outside : CrashesOutside state event) : Accounted (step settings state event) := by
  cases event with
  | arrive alert =>
      intro event member
      refine (accounted event member).imp_right ?_
      rintro ⟨position, other, found, owner⟩
      have within : position < state.calls.length := (List.getElem?_eq_some_iff.1 found).1
      exact ⟨position, other, (List.getElem?_append_left within).trans found, owner⟩
  | advance index now analysis =>
      cases found : state.calls[index]? with
      | none =>
          simp only [LitePipeline.step, found]
          exact accounted
      | some call =>
          simp only [LitePipeline.step, found]
          exact accounted.advance sound found (advances_advance (sound.underway index call found))
  | crash =>
      intro event member
      rcases accounted event member with explained | ⟨position, other, found, owner⟩
      · exact Or.inl explained
      · have free := outside other (List.mem_of_getElem? found)
        rw [free] at owner
        cases owner
  | rulesEdited | silencesEdited => exact accounted

end Invariant

theorem Accounted.allExplained {state : State} (accounted : Accounted state)
    (atRest : AtRest state) : AllExplained state.store := by
  intro event member
  rcases accounted event member with explained | ⟨position, call, found, owner⟩
  · exact explained
  · have finished := atRest call (List.mem_of_getElem? found)
    cases stage : call.stage with
    | finished =>
        rw [stage] at owner
        cases owner
    | _ =>
        rw [stage] at finished
        cases finished

/-- Whenever no call is under way every event has its one decision and its deliveries, just when
no crash comes between an event and its decision. -/
theorem decisions_explain_iff (settings : LiteSettings) (events : List Event) :
    (∀ taken, taken <+: events → AtRest (run (step settings) opened taken) →
        AllExplained (run (step settings) opened taken).store) ↔
      Along (step settings) CrashesOutside opened events := by
  constructor
  · intro explained
    rw [along_iff_forall]
    rintro earlier event later rfl
    have sound : Sound (run (step settings) opened earlier) :=
      run_invariant Sound sound_opened (fun _ event sound => sound.step event) earlier
    cases event with
    | crash =>
        intro call member
        by_contra owner
        obtain ⟨eventId, owner⟩ := Option.ne_none_iff_exists'.1 owner
        obtain ⟨index, found⟩ := List.mem_iff_getElem?.1 member
        have owned := sound.owned index call eventId found owner
        obtain ⟨event, stored, isEvent⟩ := owned.stored
        have crashed := explained (earlier ++ [.crash]) ⟨later, by simp⟩
        rw [run_append] at crashed
        have explainedEvent := crashed (fun _ none => by cases none) event stored
        rw [isEvent] at explainedEvent
        exact owned.not_explained explainedEvent
    | _ => trivial
  · rintro along taken ⟨later, rfl⟩ atRest
    have invariant := (along_append.1 along).1.invariant
      (fun state => Sound state ∧ Accounted state)
      ⟨sound_opened, fun event member => by cases member⟩
      fun state event held outside => ⟨held.1.step event, held.2.step held.1 outside⟩
    exact invariant.2.allExplained atRest

def crashedRun : List Event :=
  .rulesEdited (rulesNamed ["pager"]) :: .arrive diskAlert ::
    (List.replicate 7 (.advance 0 0 mediumAnalysis) ++ [.crash])

/-- The event has a delivery and no decision. -/
theorem crash_leaves_unexplained :
    ¬ ∀ taken, taken <+: crashedRun → AtRest (run (step plainLite) opened taken) →
      AllExplained (run (step plainLite) opened taken).store := by
  intro explained
  have crashed := explained crashedRun List.prefix_rfl (by unfold AtRest; decide)
  obtain ⟨event, stored, queued, undecided⟩ : ∃ event ∈
      (run (step plainLite) opened crashedRun).store.events.rows,
      queuedFor (run (step plainLite) opened crashedRun).store event.id = ["pager"] ∧
        (decisionsOf (run (step plainLite) opened crashedRun).store event.id).isEmpty = true := by
    decide
  obtain ⟨decision, only, _⟩ := crashed event stored
  rw [only] at undecided
  cases undecided

end LiteDecisions

end WebhookWise
