import WebhookWise.CardActions

/-!
# Card actions are idempotent while nothing is half done

The receipts follow the protocol of `IdempotencyReceipts`: one in the state `processing` is a
placeholder.  Every step of a delivery is a move of the protocol unless it reads a placeholder, or
is a crash while an approved command runs uncommitted.
-/

namespace WebhookWise

open GuardedRuns IdempotencyReceipts Remediation

namespace CardActions

/-! ## The protocol behind the receipts -/

def entryOf (receipt : ActionReceipt) : Receipt String String JsonObject where
  key := receipt.eventId
  print := receipt.payloadSha256
  result := if receipt.status = "processing" then none else some receipt.result

def answerOf : CardAnswer → Answer JsonObject
  | .result result => .result result
  | .conflict => .conflict
  | .refused _ => .refused

def phaseOf : CardPhase → Phase JsonObject
  | .fresh => .fresh
  | .looked => .missed
  | .inserted => .claimed
  | .executing approval =>
      if approval.committed then .published
      else if actsUncommitted approval.row.action then .begun
      else .claimed
  | .concluding _ _ => .published
  | .answered answer => .answered (answerOf answer)
  | .crashed => .crashed

def ledgerOf (state : CardState) : Ledger String String JsonObject where
  receipts := state.receipts.map entryOf
  phases delivery := phaseOf (state.phases delivery)
  applied := state.applied

section Operations

variable (state : CardState) (delivery : Nat) (callback : Callback)

theorem ledgerOf_setPhase (phase : CardPhase) :
    ledgerOf (state.setPhase delivery phase) = (ledgerOf state).setPhase delivery (phaseOf phase) := by
  have samePhases : (fun other => phaseOf (Function.update state.phases delivery phase other)) =
      Function.update (fun other => phaseOf (state.phases other)) delivery (phaseOf phase) := by
    funext other
    by_cases same : other = delivery
    · subst same
      rw [Function.update_self, Function.update_self]
    · rw [Function.update_of_ne same, Function.update_of_ne same]
  exact congrArg (fun phases => Ledger.mk (state.receipts.map entryOf) phases state.applied)
    samePhases

theorem ledgerOf_commitReceipt (status : String) (result : JsonObject) :
    ledgerOf (state.commitReceipt callback status result) =
      (ledgerOf state).record ⟨callback.eventId, callback.payloadSha256,
        if status = "processing" then none else some result⟩ := by
  simp [ledgerOf, CardState.commitReceipt, Ledger.record, entryOf, receiptOf]

theorem ledgerOf_completeReceipt {status : String} (final : status ≠ "processing")
    (result : JsonObject) :
    ledgerOf (state.completeReceipt callback status result) =
      (ledgerOf state).complete callback.eventId result := by
  simp only [ledgerOf, CardState.completeReceipt, Ledger.complete, List.map_map, Ledger.mk.injEq,
    and_true]
  apply List.map_congr_left
  intro receipt _
  simp only [Function.comp_apply, entryOf]
  split <;> simp [*]

theorem setPhase_eq_self {ledger : Ledger String String JsonObject} {phase : Phase JsonObject}
    (same : ledger.phases delivery = phase) : ledger.setPhase delivery phase = ledger := by
  subst same
  exact congrArg (fun phases => Ledger.mk ledger.receipts phases ledger.applied)
    (Function.update_eq_self delivery ledger.phases)

theorem ledgerOf_decline (result : JsonObject) :
    ledgerOf (state.decline delivery callback result) =
      ((ledgerOf state).record ⟨callback.eventId, callback.payloadSha256, some result⟩).setPhase
        delivery (.answered (.result result)) := by
  rw [CardState.decline, ledgerOf_setPhase, ledgerOf_commitReceipt, if_neg (by decide)]
  rfl

theorem ledgerOf_rollback : ledgerOf (state.rollback callback) = ledgerOf state :=
  rfl

theorem ledgerOf_apply : ledgerOf (state.apply delivery) = (ledgerOf state).apply delivery :=
  rfl

end Operations

/-! ## Steps are moves -/

variable (settings : CardSettings) (callbacks : Nat → Callback)
variable {callback : Callback} {after : CardState}

/-- The moves of the deliveries of these callbacks. -/
def CardMove (before after : CardState) : Prop :=
  Move (fun delivery => (callbacks delivery).eventId)
    (fun delivery => (callbacks delivery).payloadSha256) (ledgerOf before) (ledgerOf after)

/-- The receipts are sound, a delivery that holds its event id has it flushed, and no receipt
is concluded as `processing`. -/
structure CardSound (state : CardState) : Prop where
  ledger : LedgerSound (fun delivery => (callbacks delivery).eventId)
    (fun delivery => (callbacks delivery).payloadSha256) (ledgerOf state)
  inserting : ∀ delivery, (phaseOf (state.phases delivery)).Holds →
    state.inserting.get? (callbacks delivery).eventId = some delivery
  final : ∀ delivery status result, state.phases delivery = .concluding status result →
    status ≠ "processing"

/-- A receipt of the callback that has its payload is not `processing`. -/
def ReadsCompleted (state : CardState) (delivery : Nat) : Prop :=
  ∀ receipt ∈ state.existingReceipt (callbacks delivery),
    receipt.payloadSha256 = (callbacks delivery).payloadSha256 → receipt.status ≠ "processing"

/-- No delivery is answered from a receipt in the state `processing`, and none crashes while its
command has acted and its receipt is not committed. -/
def Undisturbed (state : CardState) : CardEvent → Prop
  | .lookup delivery =>
      match state.phases delivery with
      | .fresh => ReadsCompleted callbacks state delivery
      | _ => True
  | .insert delivery =>
      match state.phases delivery with
      | .looked =>
          state.inserting.get? (callbacks delivery).eventId = none →
            ReadsCompleted callbacks state delivery
      | _ => True
  | .proceed _ _ => True
  | .crash delivery =>
      match state.phases delivery with
      | .executing approval => actsUncommitted approval.row.action → approval.committed = true
      | _ => True

instance (state : CardState) (delivery : Nat) :
    Decidable (ReadsCompleted callbacks state delivery) :=
  inferInstanceAs (Decidable (∀ receipt ∈ state.existingReceipt (callbacks delivery), _ → _))

instance (state : CardState) (event : CardEvent) :
    Decidable (Undisturbed callbacks state event) := by
  cases event with
  | proceed delivery moment => exact inferInstanceAs (Decidable True)
  | lookup | insert | crash =>
      unfold Undisturbed
      dsimp only
      split <;> infer_instance

section Steps

variable {settings} {callbacks} {state : CardState} {delivery : Nat}
variable {phase : CardPhase}

theorem phaseOf_ledgerOf (current : state.phases delivery = phase) :
    (ledgerOf state).phases delivery = phaseOf phase :=
  congrArg phaseOf current

theorem CardSound.advance (sound : CardSound callbacks state)
    (move : CardMove callbacks state after)
    (phases : after.phases = Function.update state.phases delivery phase)
    (final : ∀ status result, phase = .concluding status result → status ≠ "processing")
    (holding : (phaseOf phase).Holds →
      after.inserting.get? (callbacks delivery).eventId = some delivery)
    (others : ∀ other, other ≠ delivery → (phaseOf (state.phases other)).Holds →
      after.inserting.get? (callbacks other).eventId =
        state.inserting.get? (callbacks other).eventId) : CardSound callbacks after := by
  refine ⟨sound.ledger.move move, ?_, ?_⟩
  · intro other holds
    rw [phases, Function.update_apply] at holds
    split at holds
    · rename_i same
      subst same
      exact holding holds
    · rename_i different
      rw [others other different holds]
      exact sound.inserting other holds
  · intro other status result isConcluding
    rw [phases, Function.update_apply] at isConcluding
    split at isConcluding
    · exact final status result isConcluding
    · exact sound.final other status result isConcluding

theorem CardSound.others_without (sound : CardSound callbacks state)
    (holds : (phaseOf (state.phases delivery)).Holds) (other : Nat) (different : other ≠ delivery)
    (otherHolds : (phaseOf (state.phases other)).Holds) :
    (state.inserting.without (callbacks delivery).eventId).get? (callbacks other).eventId =
      state.inserting.get? (callbacks other).eventId :=
  PyDict.get?_without_of_ne fun sameEvent =>
    different (sound.ledger.sole other delivery otherHolds holds sameEvent)

theorem CardSound.step_aside (sound : CardSound callbacks state)
    (move : CardMove callbacks state after)
    (phases : after.phases = Function.update state.phases delivery phase)
    (inserting : after.inserting = state.inserting)
    (final : ∀ status result, phase = .concluding status result → status ≠ "processing")
    (released : ¬ (phaseOf phase).Holds) : CardSound callbacks after :=
  sound.advance move phases final (fun holds => absurd holds released)
    fun _ _ _ => by rw [inserting]

theorem CardSound.settle (sound : CardSound callbacks state)
    (holds : (phaseOf (state.phases delivery)).Holds) (move : CardMove callbacks state after)
    (phases : after.phases = Function.update state.phases delivery phase)
    (inserting : after.inserting = state.inserting.without (callbacks delivery).eventId)
    (final : ∀ status result, phase = .concluding status result → status ≠ "processing")
    (released : ¬ (phaseOf phase).Holds) : CardSound callbacks after :=
  sound.advance move phases final (fun holds => absurd holds released)
    fun other different otherHolds => by
      rw [inserting]
      exact sound.others_without holds other different otherHolds

theorem mem_of_existingReceipt {receipt : ActionReceipt}
    (found : state.existingReceipt callback = some receipt) :
    receipt ∈ state.receipts ∧ receipt.eventId = callback.eventId :=
  ⟨List.mem_of_find?_eq_some found, by simpa using List.find?_some found⟩

theorem unrecorded_of_existingReceipt (missing : state.existingReceipt callback = none) :
    Unrecorded (ledgerOf state) callback.eventId := by
  intro entry member
  obtain ⟨receipt, receiptMember, rfl⟩ := List.mem_map.1 member
  simpa [entryOf] using List.find?_eq_none.1 missing receipt receiptMember

theorem CardSound.answered (sound : CardSound callbacks state) {receipt : ActionReceipt}
    (found : state.existingReceipt (callbacks delivery) = some receipt)
    (completed : ReadsCompleted callbacks state delivery)
    (waits : state.phases delivery = .fresh ∨ state.phases delivery = .looked) :
    CardSound callbacks (answered callbacks state delivery receipt) := by
  obtain ⟨member, sameEvent⟩ := mem_of_existingReceipt found
  have entry : entryOf receipt ∈ (ledgerOf state).receipts := List.mem_map_of_mem member
  have waiting : (ledgerOf state).phases delivery = .fresh ∨
      (ledgerOf state).phases delivery = .missed :=
    waits.imp phaseOf_ledgerOf phaseOf_ledgerOf
  refine sound.step_aside ?_ rfl rfl (by simp) id
  rw [CardMove, CardActions.answered, ledgerOf_setPhase, answerFrom]
  split
  · rename_i samePayload
    have result : (entryOf receipt).result = some receipt.result :=
      if_neg (completed receipt found samePayload)
    exact Move.replay delivery _ _ entry sameEvent samePayload result waiting
  · rename_i otherPayload
    exact Move.conflict delivery _ entry sameEvent otherPayload waiting

theorem CardSound.lookup (sound : CardSound callbacks state)
    (undisturbed : Undisturbed callbacks state (.lookup delivery)) :
    CardSound callbacks (step settings callbacks state (.lookup delivery)) := by
  dsimp only [step]
  split
  · rename_i receipt fresh found
    rw [Undisturbed, fresh] at undisturbed
    exact sound.answered found undisturbed (Or.inl fresh)
  · rename_i fresh missing
    refine sound.step_aside ?_ rfl rfl (by simp) id
    rw [CardMove, ledgerOf_setPhase]
    exact Move.miss delivery (phaseOf_ledgerOf fresh)
  · exact sound

theorem CardSound.insert (sound : CardSound callbacks state)
    (undisturbed : Undisturbed callbacks state (.insert delivery)) :
    CardSound callbacks (step settings callbacks state (.insert delivery)) := by
  dsimp only [step]
  split
  · rename_i receipt looked free found
    rw [Undisturbed, looked] at undisturbed
    exact sound.answered found (undisturbed free) (Or.inr looked)
  · rename_i looked free missing
    have sole (other : Nat) (holds : (phaseOf (state.phases other)).Holds) :
        (callbacks other).eventId ≠ (callbacks delivery).eventId := by
      intro sameEvent
      have flushed := sound.inserting other holds
      rw [sameEvent, free] at flushed
      cases flushed
    refine sound.advance ?_ rfl (by simp) (fun _ => ?_) (fun other _ holds => ?_)
    · change Move _ _ (ledgerOf state) (ledgerOf (state.setPhase delivery .inserted))
      rw [ledgerOf_setPhase]
      exact Move.claim delivery (phaseOf_ledgerOf looked) (unrecorded_of_existingReceipt missing)
        sole
    · change (state.inserting.set _ delivery).get? _ = _
      rw [PyDict.get?_set, if_pos rfl]
    · change (state.inserting.set _ delivery).get? _ = _
      rw [PyDict.get?_set, if_neg (sole other holds)]
  · exact sound

theorem CardSound.decline (sound : CardSound callbacks state)
    (inserted : state.phases delivery = .inserted) (result : JsonObject) :
    CardSound callbacks (state.decline delivery (callbacks delivery) result) := by
  refine sound.settle (by rw [inserted]; trivial) ?_ rfl rfl (by simp) id
  rw [CardMove, ledgerOf_decline]
  exact Move.decline delivery result (phaseOf_ledgerOf inserted)

theorem CardSound.actOnIncident (sound : CardSound callbacks state)
    (inserted : state.phases delivery = .inserted) (moment : Moment) (action : IncidentAction)
    (id : Nat) :
    CardSound callbacks (actOnIncident settings state delivery (callbacks delivery) moment action
      id) := by
  have claimed := phaseOf_ledgerOf inserted
  have holds : (phaseOf (state.phases delivery)).Holds := by
    rw [inserted]
    trivial
  unfold CardActions.actOnIncident
  split
  · exact sound.decline inserted _
  · split
    · refine sound.settle holds ?_ rfl rfl (by simp) not_false
      rw [CardMove, ledgerOf_setPhase, ledgerOf_rollback]
      exact Move.refuse delivery claimed
    · rename_i outcome _
      refine sound.settle holds ?_ rfl rfl (by simp) not_false
      rw [CardMove, ledgerOf_apply, ledgerOf_setPhase]
      change Move _ _ _ ((Ledger.setPhase (ledgerOf (state.commitReceipt _ "completed" _)) _ _).apply
        delivery)
      rw [ledgerOf_commitReceipt, if_neg (by decide)]
      exact Move.finish delivery (resultPayload outcome) claimed

theorem CardSound.openProposal (sound : CardSound callbacks state)
    (inserted : state.phases delivery = .inserted) (moment : Moment) (approve : Bool) (id : Nat) :
    CardSound callbacks (openProposal state delivery (callbacks delivery) moment approve id) := by
  have claimed : (ledgerOf state).phases delivery = .claimed := phaseOf_ledgerOf inserted
  have holds : (phaseOf (state.phases delivery)).Holds := by
    rw [inserted]
    trivial
  unfold CardActions.openProposal
  split
  · exact sound.decline inserted _
  · dsimp only
    split
    · exact sound.decline inserted _
    · refine sound.settle holds ?_ rfl rfl (by simp) not_false
      rw [CardMove, ledgerOf_setPhase]
      change Move _ _ _ ((ledgerOf (state.commitReceipt _ "processing" [])).setPhase delivery _)
      rw [ledgerOf_commitReceipt, if_pos rfl]
      refine Move.publish delivery ?_
      rw [claimed]
      trivial
    · refine sound.settle holds ?_ rfl rfl (by simp) not_false
      rw [CardMove, ledgerOf_apply, ledgerOf_setPhase]
      change Move _ _ _ (((ledgerOf (state.commitReceipt _ "processing" [])).setPhase delivery
        _).apply delivery)
      rw [ledgerOf_commitReceipt, if_pos rfl]
      exact Move.publishApplied delivery claimed
    · rename_i row _
      have flushed := sound.inserting delivery holds
      split
      · rename_i requeues
        refine sound.advance ?_ rfl (by simp) (fun _ => flushed) (fun _ _ _ => rfl)
        rw [CardMove, ledgerOf_apply, ledgerOf_setPhase, phaseOf, if_neg (by simp),
          if_pos requeues]
        exact Move.begin delivery claimed
      · rename_i inSession
        refine sound.advance ?_ rfl (by simp) (fun _ => flushed) (fun _ _ _ => rfl)
        rw [CardMove, ledgerOf_setPhase, phaseOf, if_neg (by simp), if_neg inSession]
        change Move _ _ _ ((ledgerOf state).setPhase delivery .claimed)
        rw [setPhase_eq_self delivery claimed]
        exact Move.wait
  · exact sound

theorem CardSound.publish (sound : CardSound callbacks state) {approval : Approval}
    (executing : state.phases delivery = .executing approval) {phase : CardPhase}
    (published : phaseOf phase = .published)
    (final : ∀ status result, phase = .concluding status result → status ≠ "processing") :
    CardSound callbacks ((state.publish delivery (callbacks delivery) approval).setPhase delivery
      phase) := by
  have current := phaseOf_ledgerOf executing
  have released : ¬ (phaseOf phase).Holds := by
    rw [published]
    exact not_false
  unfold CardState.publish
  rw [phaseOf] at current
  split
  · rename_i committed
    rw [if_pos committed] at current
    refine sound.step_aside ?_ rfl rfl final released
    rw [CardMove, ledgerOf_setPhase, published, setPhase_eq_self delivery current]
    exact Move.wait
  · rename_i uncommitted
    rw [if_neg uncommitted] at current
    dsimp only
    split
    · rename_i requeues
      rw [if_pos requeues] at current
      have holds : ((ledgerOf state).phases delivery).Holds := by
        rw [current]
        trivial
      refine sound.settle holds ?_ rfl rfl final released
      rw [CardMove, ledgerOf_setPhase, published, ledgerOf_commitReceipt, if_pos rfl]
      exact Move.publish delivery holds
    · rename_i inSession
      rw [if_neg inSession] at current
      have holds : ((ledgerOf state).phases delivery).Holds := by
        rw [current]
        trivial
      refine sound.settle holds ?_ rfl rfl final released
      rw [CardMove, ledgerOf_setPhase, published, ledgerOf_apply, ledgerOf_commitReceipt,
        if_pos rfl]
      exact Move.publishApplied delivery current

theorem CardSound.withProposals {proposals : Nat → Option Proposal} {locks : Nat → Option Nat}
    (sound : CardSound callbacks state) :
    CardSound callbacks { state with proposals := proposals, locks := locks } :=
  ⟨sound.ledger, sound.inserting, sound.final⟩

theorem CardSound.executeProposal (sound : CardSound callbacks state) {approval : Approval}
    (executing : state.phases delivery = .executing approval) (id : Nat) :
    CardSound callbacks (executeProposal settings state delivery (callbacks delivery) approval
      id) := by
  have published : phaseOf (.executing { approval with committed := true }) = .published := by
    simp [phaseOf]
  unfold CardActions.executeProposal
  split
  · split
    · exact sound
    · dsimp only
      split
      · exact (sound.publish executing published (by simp)).withProposals
      · exact (sound.publish executing rfl (by simp)).withProposals
  · exact sound

theorem CardSound.proceed (sound : CardSound callbacks state) (moment : Moment) :
    CardSound callbacks (step settings callbacks state (.proceed delivery moment)) := by
  dsimp only [step]
  split
  · rename_i inserted _
    exact sound.actOnIncident inserted moment _ _
  · rename_i inserted _
    exact sound.openProposal inserted moment _ _
  · rename_i executing _
    exact sound.executeProposal executing _
  · rename_i status result concluding
    refine sound.step_aside ?_ rfl rfl (by simp) not_false
    rw [CardMove, ledgerOf_setPhase,
      ledgerOf_completeReceipt _ _ (sound.final delivery status result concluding)]
    exact Move.conclude delivery result (phaseOf_ledgerOf concluding)
  · exact sound

theorem not_begun (undisturbed : Undisturbed callbacks state (.crash delivery)) :
    (ledgerOf state).phases delivery ≠ .begun := by
  intro begun
  change phaseOf (state.phases delivery) = .begun at begun
  cases current : state.phases delivery with
  | executing approval =>
      rw [Undisturbed, current] at undisturbed
      rw [current, phaseOf] at begun
      split at begun
      · cases begun
      · rename_i uncommitted
        split at begun
        · rename_i requeues
          exact uncommitted (undisturbed requeues)
        · cases begun
  | fresh | looked | inserted | concluding _ _ | answered _ | crashed =>
      rw [current] at begun
      cases begun

theorem exists_answered {answer : Answer JsonObject}
    (isAnswered : (ledgerOf state).phases delivery = .answered answer) :
    ∃ cardAnswer, state.phases delivery = .answered cardAnswer ∧ answerOf cardAnswer = answer := by
  change phaseOf (state.phases delivery) = .answered answer at isAnswered
  cases current : state.phases delivery with
  | answered cardAnswer =>
      rw [current] at isAnswered
      exact ⟨cardAnswer, rfl, Phase.answered.inj isAnswered⟩
  | executing approval =>
      rw [current, phaseOf] at isAnswered
      split at isAnswered
      · cases isAnswered
      · split at isAnswered <;> cases isAnswered
  | fresh | looked | inserted | concluding _ _ | crashed =>
      rw [current] at isAnswered
      cases isAnswered

theorem CardSound.crash (sound : CardSound callbacks state)
    (undisturbed : Undisturbed callbacks state (.crash delivery)) :
    CardSound callbacks (step settings callbacks state (.crash delivery)) := by
  have notBegun := not_begun undisturbed
  have crashes (unanswered : ∀ answer, state.phases delivery ≠ .answered answer) :
      Move (fun delivery => (callbacks delivery).eventId)
        (fun delivery => (callbacks delivery).payloadSha256) (ledgerOf state)
        ((ledgerOf state).setPhase delivery .crashed) := by
    refine Move.crash delivery notBegun ?_
    intro answer isAnswered
    obtain ⟨cardAnswer, current, _⟩ := exists_answered isAnswered
    exact unanswered cardAnswer current
  dsimp only [step]
  split
  · rename_i inserted
    refine sound.settle (by rw [inserted]; trivial) ?_ rfl rfl (by simp) not_false
    rw [CardMove, ledgerOf_setPhase, ledgerOf_rollback]
    exact crashes (by simp [inserted])
  · rename_i approval _ id executing _
    have executes : ∀ answer, state.phases delivery ≠ .answered answer := by simp [executing]
    split
    · refine sound.step_aside ?_ rfl rfl (by simp) not_false
      rw [CardMove, ledgerOf_setPhase]
      exact crashes executes
    · rename_i uncommitted
      have holds : (phaseOf (state.phases delivery)).Holds := by
        rw [executing, phaseOf, if_neg uncommitted]
        split <;> trivial
      refine sound.settle holds ?_ rfl rfl (by simp) not_false
      rw [CardMove, ledgerOf_setPhase, ledgerOf_rollback]
      exact crashes executes
  · exact sound
  · rename_i unanswered _
    refine sound.step_aside ?_ rfl rfl (by simp) not_false
    rw [CardMove, ledgerOf_setPhase]
    exact crashes unanswered

theorem CardSound.step (sound : CardSound callbacks state) {event : CardEvent}
    (undisturbed : Undisturbed callbacks state event) :
    CardSound callbacks (step settings callbacks state event) := by
  cases event with
  | lookup delivery => exact sound.lookup undisturbed
  | insert delivery => exact sound.insert undisturbed
  | proceed delivery moment => exact sound.proceed moment
  | crash delivery => exact sound.crash undisturbed

theorem cardSound_initial (incidents : Nat → Option CardIncident)
    (proposals : Nat → Option Proposal) :
    CardSound callbacks (.initial incidents proposals) :=
  ⟨ledgerSound_initial, fun _ holds => absurd holds not_false, fun _ _ _ nothing => (nomatch nothing)⟩

end Steps

/-! ## Conflicts have no effect -/

def CardEvent.delivery : CardEvent → Nat
  | .lookup delivery | .insert delivery | .proceed delivery _ | .crash delivery => delivery

/-- The committed rows are the same. -/
def SameRows (before after : CardState) : Prop :=
  after.receipts = before.receipts ∧ after.incidents = before.incidents ∧
    after.proposals = before.proposals ∧ after.effects = before.effects ∧
    after.applied = before.applied

/-- The delivery has not flushed a receipt of its own. -/
def CardPhase.Reading : CardPhase → Prop
  | .fresh | .looked | .answered .conflict => True
  | _ => False

section Frames

variable {settings} {callbacks} {state : CardState}

theorem reading_iff {phase : CardPhase} :
    phase.Reading ↔ phase = .fresh ∨ phase = .looked ∨ phase = .answered .conflict := by
  cases phase with
  | answered answer => cases answer <;> simp [CardPhase.Reading]
  | fresh | looked | inserted | executing _ | concluding _ _ | crashed =>
      simp [CardPhase.Reading]

theorem sameRows_of_reading {event : CardEvent}
    (reading : (state.phases event.delivery).Reading) :
    SameRows state (step settings callbacks state event) := by
  have same : SameRows state state := ⟨rfl, rfl, rfl, rfl, rfl⟩
  cases event with
  | lookup | insert =>
      dsimp only [step]
      split <;> exact same
  | proceed | crash =>
      dsimp only [step]
      obtain current | current | current := reading_iff.1 reading
      all_goals
        rw [CardEvent.delivery] at current
        rw [current]
        exact same

theorem phases_actOnIncident {delivery : Nat} {moment : Moment} {action : IncidentAction}
    {id : Nat} :
    ∃ phase, (actOnIncident settings state delivery callback moment action id).phases =
      Function.update state.phases delivery phase ∧ ¬ phase.Reading := by
  unfold actOnIncident
  split
  · exact ⟨_, rfl, by simp [reading_iff]⟩
  · split <;> exact ⟨_, rfl, by simp [reading_iff]⟩

theorem phases_openProposal {delivery : Nat} {moment : Moment} {approve : Bool} {id : Nat} :
    (openProposal state delivery callback moment approve id).phases = state.phases ∨
      ∃ phase, (openProposal state delivery callback moment approve id).phases =
        Function.update state.phases delivery phase ∧ ¬ phase.Reading := by
  unfold openProposal
  split
  · exact Or.inr ⟨_, rfl, by simp [reading_iff]⟩
  · dsimp only
    split
    case h_4 => split <;> exact Or.inr ⟨_, rfl, by simp [reading_iff]⟩
    all_goals exact Or.inr ⟨_, rfl, by simp [reading_iff]⟩
  · exact Or.inl rfl

theorem phases_publish {delivery : Nat} {approval : Approval} :
    (state.publish delivery callback approval).phases = state.phases := by
  unfold CardState.publish
  split
  · rfl
  · dsimp only
    split <;> rfl

theorem phases_executeProposal {delivery : Nat} {approval : Approval} {id : Nat} :
    (executeProposal settings state delivery callback approval id).phases = state.phases ∨
      ∃ phase, (executeProposal settings state delivery callback approval id).phases =
        Function.update state.phases delivery phase ∧ ¬ phase.Reading := by
  unfold executeProposal
  split
  · split
    · exact Or.inl rfl
    · dsimp only
      split
      all_goals
        exact Or.inr ⟨_, congrArg (fun phases => Function.update phases delivery _)
          phases_publish, by simp [reading_iff]⟩
  · exact Or.inl rfl

theorem phases_step (event : CardEvent) :
    (step settings callbacks state event).phases = state.phases ∨
      ∃ phase, (step settings callbacks state event).phases =
          Function.update state.phases event.delivery phase ∧
        (phase.Reading → (state.phases event.delivery).Reading) := by
  cases event with
  | lookup delivery =>
      dsimp only [step]
      split
      case h_3 => exact Or.inl rfl
      all_goals
        rename_i current _
        exact Or.inr ⟨_, rfl, fun _ => reading_iff.2 (Or.inl current)⟩
  | insert delivery =>
      dsimp only [step]
      split
      case h_3 => exact Or.inl rfl
      all_goals
        rename_i current _ _
        exact Or.inr ⟨_, rfl, fun _ => reading_iff.2 (Or.inr (Or.inl current))⟩
  | proceed delivery moment =>
      have weaken {phases : Nat → CardPhase}
          (engaged : ∃ phase, phases = Function.update state.phases delivery phase ∧
            ¬ phase.Reading) :
          ∃ phase, phases = Function.update state.phases delivery phase ∧
            (phase.Reading → (state.phases delivery).Reading) :=
        engaged.imp fun phase => And.imp_right fun engages reading => absurd reading engages
      dsimp only [step]
      split
      · exact Or.inr (weaken phases_actOnIncident)
      · exact phases_openProposal.imp_right weaken
      · exact phases_executeProposal.imp_right weaken
      · exact Or.inr (weaken ⟨_, rfl, by simp [reading_iff]⟩)
      · exact Or.inl rfl
  | crash delivery =>
      dsimp only [step]
      split
      case h_3 => exact Or.inl rfl
      case h_2 => split <;> exact Or.inr ⟨_, rfl, by simp [reading_iff]⟩
      all_goals exact Or.inr ⟨_, rfl, by simp [reading_iff]⟩

theorem not_reading_step {event : CardEvent} {delivery : Nat}
    (engaged : ¬ (state.phases delivery).Reading) :
    ¬ ((step settings callbacks state event).phases delivery).Reading := by
  rcases phases_step event with same | ⟨phase, phases, reads⟩
  · rw [same]
    exact engaged
  · rw [phases, Function.update_apply]
    split
    · rename_i own
      subst own
      exact fun reading => engaged (reads reading)
    · exact engaged

theorem sameRows_of_conflict {delivery : Nat} {events : List CardEvent}
    (conflict : (run (step settings callbacks) state events).phases delivery =
      .answered .conflict) :
    Along (step settings callbacks)
      (fun state event => event.delivery = delivery →
        SameRows state (step settings callbacks state event)) state events := by
  induction events generalizing state with
  | nil => trivial
  | cons event events ih =>
      refine ⟨fun own => sameRows_of_reading ?_, ih conflict⟩
      rw [own]
      by_contra engaged
      have stays : ¬ ((run (step settings callbacks) state (event :: events)).phases
          delivery).Reading :=
        run_invariant (fun current : CardState => ¬ (current.phases delivery).Reading) engaged
          (fun _ _ => not_reading_step) _
      exact stays (reading_iff.2 (Or.inr (Or.inr conflict)))

end Frames

/-! ## Idempotence -/

/-- Each event is applied once at most, its answers are the result of its receipt, and a
callback whose payload is not that of the receipt of its event gets no result. -/
structure Idempotent (state : CardState) : Prop where
  appliedOnce : (state.applied.map fun delivery => (callbacks delivery).eventId).Nodup
  replayed : ∀ delivery result, state.phases delivery = .answered (.result result) →
    ∃ receipt ∈ state.receipts, receipt.eventId = (callbacks delivery).eventId ∧
      receipt.payloadSha256 = (callbacks delivery).payloadSha256 ∧
      receipt.status ≠ "processing" ∧ receipt.result = result
  agreeing : ∀ first second firstResult secondResult,
    (callbacks first).eventId = (callbacks second).eventId →
    state.phases first = .answered (.result firstResult) →
    state.phases second = .answered (.result secondResult) → firstResult = secondResult
  conflicting : ∀ delivery, ∀ receipt ∈ state.receipts,
    receipt.eventId = (callbacks delivery).eventId →
    receipt.payloadSha256 ≠ (callbacks delivery).payloadSha256 →
    delivery ∉ state.applied ∧ ∀ result, state.phases delivery ≠ .answered (.result result)

theorem exists_receipt {state : CardState} {key print : String} {result : JsonObject}
    (recorded : ⟨key, print, some result⟩ ∈ (ledgerOf state).receipts) :
    ∃ receipt ∈ state.receipts, receipt.eventId = key ∧ receipt.payloadSha256 = print ∧
      receipt.status ≠ "processing" ∧ receipt.result = result := by
  obtain ⟨receipt, member, same⟩ := List.mem_map.1 recorded
  simp only [entryOf, Receipt.mk.injEq] at same
  obtain ⟨sameKey, samePrint, sameResult⟩ := same
  split at sameResult
  · cases sameResult
  · rename_i completed
    exact ⟨receipt, member, sameKey, samePrint, completed, Option.some.inj sameResult⟩

theorem CardSound.idempotent {state : CardState} (sound : CardSound callbacks state) :
    Idempotent callbacks state := by
  have recorded (delivery : Nat) (result : JsonObject)
      (isAnswered : state.phases delivery = .answered (.result result)) :
      ⟨(callbacks delivery).eventId, (callbacks delivery).payloadSha256, some result⟩ ∈
        (ledgerOf state).receipts :=
    sound.ledger.answered delivery result (phaseOf_ledgerOf isAnswered)
  refine ⟨sound.ledger.appliedOnce, ?_, ?_, ?_⟩
  · intro delivery result isAnswered
    exact exists_receipt (recorded delivery result isAnswered)
  · intro first second firstResult secondResult sameEvent firstAnswered secondAnswered
    have same := sound.ledger.eq_of_key (recorded first firstResult firstAnswered)
      (recorded second secondResult secondAnswered) sameEvent
    exact Option.some.inj (congrArg Receipt.result same)
  · intro delivery receipt member sameEvent otherPayload
    have entry : entryOf receipt ∈ (ledgerOf state).receipts := List.mem_map_of_mem member
    constructor
    · intro isApplied
      exact otherPayload (sound.ledger.print_of_applied isApplied entry sameEvent)
    · intro result isAnswered
      have same := sound.ledger.eq_of_key entry (recorded delivery result isAnswered) sameEvent
      exact otherPayload (congrArg Receipt.print same)

/-- What card actions promise about a run from a database without receipts. -/
def IdempotentRun (incidents : Nat → Option CardIncident) (proposals : Nat → Option Proposal)
    (events : List CardEvent) : Prop :=
  Idempotent callbacks
      (run (step settings callbacks) (.initial incidents proposals) events) ∧
    ∀ delivery,
      (run (step settings callbacks) (.initial incidents proposals) events).phases delivery =
        .answered .conflict →
      Along (step settings callbacks)
        (fun state event => event.delivery = delivery →
          SameRows state (step settings callbacks state event))
        (.initial incidents proposals) events

/-- Card actions are idempotent in every run that reads no receipt in the state `processing`
and loses no receipt of a command that has acted. -/
theorem idempotentRun_of_undisturbed (incidents : Nat → Option CardIncident)
    (proposals : Nat → Option Proposal) (events : List CardEvent)
    (undisturbed : Along (step settings callbacks) (Undisturbed callbacks)
      (.initial incidents proposals) events) :
    IdempotentRun settings callbacks incidents proposals events := by
  constructor
  · have sound : CardSound callbacks
        (run (step settings callbacks) (.initial incidents proposals) events) :=
      undisturbed.invariant (CardSound callbacks) (cardSound_initial incidents proposals)
        fun _ _ sound admitted => sound.step admitted
    exact sound.idempotent
  · intro delivery conflict
    exact sameRows_of_conflict conflict

def sampleIncident : CardIncident where
  id := 1
  workflowStatus := "open"
  assignee := none
  acknowledgedAt := none
  resolvedAt := none
  source := some "grafana"
  correlationDimensions := []
  state := ⟨"active", none, 1, some "high", none, ⟨none, 0, none, none⟩⟩

/-- Two deliveries acknowledge incident 1, a third reuses their event for its resolution, and
two more approve proposal 7. -/
def sampleCallbacks : Nat → Callback
  | 0 | 1 => ⟨"event-1", "payload-1", "operator", .incident .acknowledge 1⟩
  | 2 => ⟨"event-1", "payload-2", "operator", .incident .resolve 1⟩
  | _ => ⟨"event-2", "payload-3", "operator", .proposal true 7⟩

def sampleMoment : Moment where
  now := DateTime.addMinutes 0 1
  silenceId := 1
  queuesRecap := false
  surroundings := ⟨none, false, [], [], none, true, false, none⟩

def sampleSettings : CardSettings :=
  ⟨.plain, "medium", 0⟩

/-- The redelivery of the acknowledgement waits for the first delivery, and the redelivery of
the approval comes after its result. -/
theorem redeliveries_are_idempotent :
    IdempotentRun sampleSettings sampleCallbacks (fun _ => some sampleIncident)
      (fun _ => some sampleProposal)
      [.lookup 0, .lookup 1, .insert 0, .insert 1, .proceed 0 sampleMoment, .insert 1, .lookup 2,
        .lookup 3, .insert 3, .proceed 3 sampleMoment, .proceed 3 sampleMoment,
        .proceed 3 sampleMoment, .proceed 3 sampleMoment, .lookup 4] :=
  idempotentRun_of_undisturbed _ _ _ _ _ (by decide)

/-- A redelivery between the two commits of an approval is answered with the placeholder. -/
theorem redelivery_reads_placeholder :
    ¬ ∀ (settings : CardSettings) (callbacks : Nat → Callback)
      (incidents : Nat → Option CardIncident) (proposals : Nat → Option Proposal)
      (events : List CardEvent), IdempotentRun settings callbacks incidents proposals events := by
  intro idempotent
  have replayed := (idempotent sampleSettings sampleCallbacks (fun _ => some sampleIncident)
    (fun _ => some sampleProposal)
    [.lookup 3, .insert 3, .proceed 3 sampleMoment, .proceed 3 sampleMoment, .lookup 4]).1.replayed
  obtain ⟨receipt, member, _, _, completed, _⟩ := replayed 4 [] rfl
  have processing : ∀ receipt ∈ (run (step sampleSettings sampleCallbacks)
      (.initial (fun _ => some sampleIncident) fun _ => some sampleProposal)
      [.lookup 3, .insert 3, .proceed 3 sampleMoment, .proceed 3 sampleMoment,
        .lookup 4]).receipts, receipt.status = "processing" := by
    decide
  exact completed (processing receipt member)

end CardActions

end WebhookWise
