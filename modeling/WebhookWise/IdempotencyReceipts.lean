import Mathlib.Data.List.Nodup
import Mathlib.Logic.Function.Basic

/-!
# Receipts that make a handler idempotent

Deliveries carry a key and a fingerprint of their content.  A handler looks for a receipt
under the key, claims the key by an insertion that is not committed yet, applies the action,
and commits a receipt with the result.  It may commit the receipt earlier, without a result,
and add the result later.
-/

namespace IdempotencyReceipts

universe u v w

/-- A committed receipt; without a result it is a placeholder. -/
structure Receipt (Key : Type u) (Print : Type v) (Result : Type w) where
  key : Key
  print : Print
  result : Option Result

inductive Answer (Result : Type w) where
  | result (result : Result)
  /-- The receipt has no result yet. -/
  | placeholder
  | conflict
  | refused

/-- How far a delivery has got: `claimed` and `begun` hold the key uncommitted, `published`
has committed its receipt as a placeholder. -/
inductive Phase (Result : Type w) where
  | fresh
  | missed
  | claimed
  | begun
  | published
  | answered (answer : Answer Result)
  | crashed

/-- The receipts, the deliveries, and those of them whose action was applied. -/
structure Ledger (Key : Type u) (Print : Type v) (Result : Type w) where
  receipts : List (Receipt Key Print Result)
  phases : Nat → Phase Result
  applied : List Nat

section Moves

variable {Key : Type u} {Print : Type v} {Result : Type w} [DecidableEq Key]

/-- The delivery holds its key in an open transaction. -/
def Phase.Holds : Phase Result → Prop
  | claimed | begun => True
  | fresh | missed | published | answered _ | crashed => False

namespace Ledger

def setPhase (ledger : Ledger Key Print Result) (delivery : Nat) (phase : Phase Result) :
    Ledger Key Print Result :=
  { ledger with phases := Function.update ledger.phases delivery phase }

def record (ledger : Ledger Key Print Result) (receipt : Receipt Key Print Result) :
    Ledger Key Print Result :=
  { ledger with receipts := ledger.receipts ++ [receipt] }

def apply (ledger : Ledger Key Print Result) (delivery : Nat) : Ledger Key Print Result :=
  { ledger with applied := delivery :: ledger.applied }

def complete (ledger : Ledger Key Print Result) (key : Key) (result : Result) :
    Ledger Key Print Result :=
  { ledger with
    receipts := ledger.receipts.map fun receipt =>
      if receipt.key = key then { receipt with result := some result } else receipt }

end Ledger

/-- No receipt is committed under the key. -/
def Unrecorded (ledger : Ledger Key Print Result) (key : Key) : Prop :=
  ∀ receipt ∈ ledger.receipts, receipt.key ≠ key

variable (keyOf : Nat → Key) (printOf : Nat → Print)

/-- What a delivery may do; a transaction that waits or is not due does nothing. -/
inductive Move (ledger : Ledger Key Print Result) : Ledger Key Print Result → Prop
  | wait : Move ledger ledger
  | replay (delivery : Nat) (receipt : Receipt Key Print Result) (result : Result) :
      receipt ∈ ledger.receipts → receipt.key = keyOf delivery →
      receipt.print = printOf delivery → receipt.result = some result →
      ledger.phases delivery = .fresh ∨ ledger.phases delivery = .missed →
      Move ledger (ledger.setPhase delivery (.answered (.result result)))
  | conflict (delivery : Nat) (receipt : Receipt Key Print Result) :
      receipt ∈ ledger.receipts → receipt.key = keyOf delivery →
      receipt.print ≠ printOf delivery →
      ledger.phases delivery = .fresh ∨ ledger.phases delivery = .missed →
      Move ledger (ledger.setPhase delivery (.answered .conflict))
  | miss (delivery : Nat) : ledger.phases delivery = .fresh →
      Move ledger (ledger.setPhase delivery .missed)
  | claim (delivery : Nat) : ledger.phases delivery = .missed →
      Unrecorded ledger (keyOf delivery) →
      (∀ other, (ledger.phases other).Holds → keyOf other ≠ keyOf delivery) →
      Move ledger (ledger.setPhase delivery .claimed)
  | refuse (delivery : Nat) : ledger.phases delivery = .claimed →
      Move ledger (ledger.setPhase delivery (.answered .refused))
  | decline (delivery : Nat) (result : Result) : ledger.phases delivery = .claimed →
      Move ledger ((ledger.record ⟨keyOf delivery, printOf delivery, some result⟩).setPhase
        delivery (.answered (.result result)))
  | finish (delivery : Nat) (result : Result) : ledger.phases delivery = .claimed →
      Move ledger (((ledger.record ⟨keyOf delivery, printOf delivery, some result⟩).setPhase
        delivery (.answered (.result result))).apply delivery)
  | begin (delivery : Nat) : ledger.phases delivery = .claimed →
      Move ledger ((ledger.setPhase delivery .begun).apply delivery)
  | publish (delivery : Nat) : (ledger.phases delivery).Holds →
      Move ledger ((ledger.record ⟨keyOf delivery, printOf delivery, none⟩).setPhase delivery
        .published)
  | publishApplied (delivery : Nat) : ledger.phases delivery = .claimed →
      Move ledger (((ledger.record ⟨keyOf delivery, printOf delivery, none⟩).setPhase delivery
        .published).apply delivery)
  | conclude (delivery : Nat) (result : Result) : ledger.phases delivery = .published →
      Move ledger ((ledger.complete (keyOf delivery) result).setPhase delivery
        (.answered (.result result)))
  | crash (delivery : Nat) : ledger.phases delivery ≠ .begun →
      (∀ answer, ledger.phases delivery ≠ .answered answer) →
      Move ledger (ledger.setPhase delivery .crashed)

/-- The receipt of a delivery. -/
def Recorded (ledger : Ledger Key Print Result) (delivery : Nat) (result : Option Result) : Prop :=
  ⟨keyOf delivery, printOf delivery, result⟩ ∈ ledger.receipts

/-- Applied once, answered with the result of the receipt, and refused without effect. -/
structure LedgerSound (ledger : Ledger Key Print Result) : Prop where
  unique : (ledger.receipts.map Receipt.key).Nodup
  unrecorded : ∀ delivery, (ledger.phases delivery).Holds →
    Unrecorded ledger (keyOf delivery)
  sole : ∀ first second, (ledger.phases first).Holds → (ledger.phases second).Holds →
    keyOf first = keyOf second → first = second
  published : ∀ delivery, ledger.phases delivery = .published →
    Recorded keyOf printOf ledger delivery none
  publisher : ∀ first second, ledger.phases first = .published →
    ledger.phases second = .published → keyOf first = keyOf second → first = second
  answered : ∀ delivery result, ledger.phases delivery = .answered (.result result) →
    Recorded keyOf printOf ledger delivery (some result)
  noPlaceholder : ∀ delivery, ledger.phases delivery ≠ .answered .placeholder
  appliedOnce : (ledger.applied.map keyOf).Nodup
  appliedBy : ∀ delivery ∈ ledger.applied,
    ledger.phases delivery = .begun ∨ ∃ result, Recorded keyOf printOf ledger delivery result
  conflicting : ∀ delivery, ledger.phases delivery = .answered .conflict →
    ∃ receipt ∈ ledger.receipts, receipt.key = keyOf delivery ∧ receipt.print ≠ printOf delivery

end Moves

section Soundness

variable {Key : Type u} {Print : Type v} {Result : Type w}
  {keyOf : Nat → Key} {printOf : Nat → Print} {ledger : Ledger Key Print Result}
  {delivery : Nat}

theorem phases_setPhase (phase : Phase Result) (other : Nat) :
    (ledger.setPhase delivery phase).phases other =
      if other = delivery then phase else ledger.phases other :=
  Function.update_apply _ _ _ _

theorem LedgerSound.eq_of_key (sound : LedgerSound keyOf printOf ledger)
    {first second : Receipt Key Print Result} (firstMember : first ∈ ledger.receipts)
    (secondMember : second ∈ ledger.receipts) (same : first.key = second.key) : first = second :=
  List.inj_on_of_nodup_map sound.unique firstMember secondMember same

theorem LedgerSound.setPhase (sound : LedgerSound keyOf printOf ledger) {phase : Phase Result}
    (holding : phase.Holds → Unrecorded ledger (keyOf delivery) ∧
      ∀ other, other ≠ delivery → (ledger.phases other).Holds → keyOf other ≠ keyOf delivery)
    (notPublished : phase ≠ .published)
    (answered : ∀ result, phase = .answered (.result result) →
      Recorded keyOf printOf ledger delivery (some result))
    (noPlaceholder : phase ≠ .answered .placeholder)
    (applied : delivery ∈ ledger.applied → phase = .begun ∨
      ∃ result, Recorded keyOf printOf ledger delivery result)
    (conflicting : phase = .answered .conflict →
      ∃ receipt ∈ ledger.receipts, receipt.key = keyOf delivery ∧
        receipt.print ≠ printOf delivery) :
    LedgerSound keyOf printOf (ledger.setPhase delivery phase) := by
  constructor
  · exact sound.unique
  · intro other holds
    rw [phases_setPhase] at holds
    split at holds
    · rename_i same
      subst same
      exact (holding holds).1
    · exact sound.unrecorded other holds
  · intro first second firstHolds secondHolds sameKey
    rw [phases_setPhase] at firstHolds secondHolds
    split at firstHolds <;> split at secondHolds
    · rename_i isFirst isSecond
      rw [isFirst, isSecond]
    · rename_i isFirst isOther
      subst isFirst
      exact absurd sameKey.symm ((holding firstHolds).2 second isOther secondHolds)
    · rename_i isOther isSecond
      subst isSecond
      exact absurd sameKey ((holding secondHolds).2 first isOther firstHolds)
    · exact sound.sole first second firstHolds secondHolds sameKey
  · intro other isPublished
    rw [phases_setPhase] at isPublished
    split at isPublished
    · exact absurd isPublished notPublished
    · exact sound.published other isPublished
  · intro first second firstPublished secondPublished sameKey
    rw [phases_setPhase] at firstPublished secondPublished
    split at firstPublished
    · exact absurd firstPublished notPublished
    split at secondPublished
    · exact absurd secondPublished notPublished
    · exact sound.publisher first second firstPublished secondPublished sameKey
  · intro other result isAnswered
    rw [phases_setPhase] at isAnswered
    split at isAnswered
    · rename_i same
      subst same
      exact answered result isAnswered
    · exact sound.answered other result isAnswered
  · intro other
    rw [phases_setPhase]
    split
    · exact noPlaceholder
    · exact sound.noPlaceholder other
  · exact sound.appliedOnce
  · intro other isApplied
    rw [phases_setPhase]
    split
    · rename_i same
      subst same
      exact applied isApplied
    · exact sound.appliedBy other isApplied
  · intro other isConflict
    rw [phases_setPhase] at isConflict
    split at isConflict
    · rename_i same
      subst same
      exact conflicting isConflict
    · exact sound.conflicting other isConflict

theorem LedgerSound.record (sound : LedgerSound keyOf printOf ledger)
    (holds : (ledger.phases delivery).Holds) (result : Option Result) :
    LedgerSound keyOf printOf ((ledger.record ⟨keyOf delivery, printOf delivery, result⟩).setPhase
      delivery (result.elim .published fun result => .answered (.result result))) := by
  have fresh := sound.unrecorded delivery holds
  have kept {other : Nat} {earlier : Option Result}
      (recorded : Recorded keyOf printOf ledger other earlier) :
      Recorded keyOf printOf (ledger.record ⟨keyOf delivery, printOf delivery, result⟩) other
        earlier :=
    List.mem_append_left _ recorded
  have own : Recorded keyOf printOf
      (ledger.record ⟨keyOf delivery, printOf delivery, result⟩) delivery result :=
    List.mem_append_right _ (by simp)
  have noneWaits (other : Nat) (isPublished : ledger.phases other = .published) :
      keyOf other ≠ keyOf delivery :=
    fresh _ (sound.published other isPublished)
  constructor
  · change ((ledger.receipts ++ [_]).map Receipt.key).Nodup
    rw [List.map_append, List.nodup_append]
    refine ⟨sound.unique, by simp, ?_⟩
    intro earlier earlierMember own ownMember same
    obtain ⟨receipt, member, rfl⟩ := List.mem_map.1 earlierMember
    rw [List.map_singleton, List.mem_singleton] at ownMember
    exact fresh receipt member (same.trans ownMember)
  · intro other otherHolds receipt member
    rw [phases_setPhase] at otherHolds
    split at otherHolds
    · cases result <;> exact absurd otherHolds id
    · rename_i different
      rcases List.mem_append.1 member with old | new
      · exact sound.unrecorded other otherHolds receipt old
      · rw [List.mem_singleton.1 new]
        intro same
        exact different (sound.sole other delivery otherHolds holds same.symm)
  · intro first second firstHolds secondHolds sameKey
    rw [phases_setPhase] at firstHolds secondHolds
    split at firstHolds
    · cases result <;> exact absurd firstHolds id
    split at secondHolds
    · cases result <;> exact absurd secondHolds id
    · exact sound.sole first second firstHolds secondHolds sameKey
  · intro other isPublished
    rw [phases_setPhase] at isPublished
    split at isPublished
    · rename_i same
      subst same
      cases result with
      | none => exact own
      | some result => cases isPublished
    · exact kept (sound.published other isPublished)
  · intro first second firstPublished secondPublished sameKey
    rw [phases_setPhase] at firstPublished secondPublished
    split at firstPublished <;> split at secondPublished
    · rename_i isFirst isSecond
      rw [isFirst, isSecond]
    · rename_i isFirst isOther
      subst isFirst
      exact absurd sameKey.symm (noneWaits second secondPublished)
    · rename_i isOther isSecond
      subst isSecond
      exact absurd sameKey (noneWaits first firstPublished)
    · exact sound.publisher first second firstPublished secondPublished sameKey
  · intro other otherResult isAnswered
    rw [phases_setPhase] at isAnswered
    split at isAnswered
    · rename_i same
      subst same
      cases result with
      | none => cases isAnswered
      | some result =>
          cases isAnswered
          exact own
    · exact kept (sound.answered other otherResult isAnswered)
  · intro other
    rw [phases_setPhase]
    split
    · cases result <;> simp
    · exact sound.noPlaceholder other
  · exact sound.appliedOnce
  · intro other isApplied
    rw [phases_setPhase]
    split
    · rename_i same
      subst same
      exact Or.inr ⟨result, own⟩
    · exact (sound.appliedBy other isApplied).imp_right fun ⟨earlier, recorded⟩ =>
        ⟨earlier, kept recorded⟩
  · intro other isConflict
    rw [phases_setPhase] at isConflict
    split at isConflict
    · cases result <;> cases isConflict
    · obtain ⟨receipt, member, sameKey, differs⟩ := sound.conflicting other isConflict
      exact ⟨receipt, List.mem_append_left _ member, sameKey, differs⟩

theorem LedgerSound.apply (sound : LedgerSound keyOf printOf ledger)
    (first : ∀ other ∈ ledger.applied, keyOf other ≠ keyOf delivery)
    (by_ : ledger.phases delivery = .begun ∨
      ∃ result, Recorded keyOf printOf ledger delivery result) :
    LedgerSound keyOf printOf (ledger.apply delivery) := by
  refine ⟨sound.unique, sound.unrecorded, sound.sole, sound.published, sound.publisher,
    sound.answered, sound.noPlaceholder, ?_, ?_, sound.conflicting⟩
  · refine List.nodup_cons.2 ⟨fun member => ?_, sound.appliedOnce⟩
    obtain ⟨other, otherMember, sameKey⟩ := List.mem_map.1 member
    exact first other otherMember sameKey
  · intro other member
    rcases List.mem_cons.1 member with rfl | earlier
    · exact by_
    · exact sound.appliedBy other earlier

theorem LedgerSound.unapplied (sound : LedgerSound keyOf printOf ledger)
    (claimed : ledger.phases delivery = .claimed) :
    ∀ other ∈ ledger.applied, keyOf other ≠ keyOf delivery := by
  intro other isApplied sameKey
  have holds : (ledger.phases delivery).Holds := by
    rw [claimed]
    trivial
  rcases sound.appliedBy other isApplied with begun | ⟨result, recorded⟩
  · have otherHolds : (ledger.phases other).Holds := by
      rw [begun]
      trivial
    obtain rfl := sound.sole other delivery otherHolds holds sameKey
    rw [begun] at claimed
    cases claimed
  · exact sound.unrecorded delivery holds _ recorded sameKey

theorem LedgerSound.unapplied_of_phase (sound : LedgerSound keyOf printOf ledger)
    (waits : ledger.phases delivery = .fresh ∨ ledger.phases delivery = .missed)
    (isApplied : delivery ∈ ledger.applied) :
    ∃ result, Recorded keyOf printOf ledger delivery result := by
  rcases sound.appliedBy delivery isApplied with begun | recorded
  · rcases waits with fresh | missed
    · rw [fresh] at begun
      cases begun
    · rw [missed] at begun
      cases begun
  · exact recorded

theorem LedgerSound.print_of_applied (sound : LedgerSound keyOf printOf ledger)
    (isApplied : delivery ∈ ledger.applied) {receipt : Receipt Key Print Result}
    (member : receipt ∈ ledger.receipts) (sameKey : receipt.key = keyOf delivery) :
    receipt.print = printOf delivery := by
  rcases sound.appliedBy delivery isApplied with begun | ⟨result, recorded⟩
  · have holds : (ledger.phases delivery).Holds := by
      rw [begun]
      trivial
    exact absurd sameKey (sound.unrecorded delivery holds receipt member)
  · exact congrArg Receipt.print (sound.eq_of_key member recorded sameKey)

def Ledger.initial : Ledger Key Print Result :=
  ⟨[], fun _ => .fresh, []⟩

theorem ledgerSound_initial :
    LedgerSound keyOf printOf (.initial : Ledger Key Print Result) := by
  constructor <;> simp [Ledger.initial, Phase.Holds]

variable [DecidableEq Key]

theorem mem_complete {key : Key} {result : Result} {receipt : Receipt Key Print Result} :
    receipt ∈ (ledger.complete key result).receipts ↔ ∃ old ∈ ledger.receipts,
      (if old.key = key then { old with result := some result } else old) = receipt :=
  List.mem_map

theorem LedgerSound.conclude (sound : LedgerSound keyOf printOf ledger)
    (isPublished : ledger.phases delivery = .published) (result : Result) :
    LedgerSound keyOf printOf ((ledger.complete (keyOf delivery) result).setPhase delivery
      (.answered (.result result))) := by
  have placeholder := sound.published delivery isPublished
  have own : Recorded keyOf printOf (ledger.complete (keyOf delivery) result) delivery
      (some result) :=
    mem_complete.2 ⟨_, placeholder, if_pos rfl⟩
  have kept {other : Nat} {earlier : Option Result} (different : keyOf other ≠ keyOf delivery)
      (recorded : Recorded keyOf printOf ledger other earlier) :
      Recorded keyOf printOf (ledger.complete (keyOf delivery) result) other earlier :=
    mem_complete.2 ⟨_, recorded, if_neg different⟩
  have keptKeys : ((ledger.complete (keyOf delivery) result).receipts.map Receipt.key) =
      ledger.receipts.map Receipt.key := by
    rw [Ledger.complete, List.map_map]
    apply List.map_congr_left
    intro receipt _
    simp only [Function.comp_apply]
    split <;> rfl
  constructor
  · change ((ledger.complete (keyOf delivery) result).receipts.map Receipt.key).Nodup
    rw [keptKeys]
    exact sound.unique
  · intro other holds receipt member
    rw [phases_setPhase] at holds
    split at holds
    · exact absurd holds id
    · obtain ⟨old, oldMember, rfl⟩ := mem_complete.1 member
      have fresh := sound.unrecorded other holds old oldMember
      split <;> exact fresh
  · intro first second firstHolds secondHolds sameKey
    rw [phases_setPhase] at firstHolds secondHolds
    split at firstHolds
    · exact absurd firstHolds id
    split at secondHolds
    · exact absurd secondHolds id
    · exact sound.sole first second firstHolds secondHolds sameKey
  · intro other otherPublished
    rw [phases_setPhase] at otherPublished
    split at otherPublished
    · cases otherPublished
    · rename_i different
      refine kept (fun sameKey => different ?_) (sound.published other otherPublished)
      exact sound.publisher other delivery otherPublished isPublished sameKey
  · intro first second firstPublished secondPublished sameKey
    rw [phases_setPhase] at firstPublished secondPublished
    split at firstPublished
    · cases firstPublished
    split at secondPublished
    · cases secondPublished
    · exact sound.publisher first second firstPublished secondPublished sameKey
  · intro other otherResult isAnswered
    rw [phases_setPhase] at isAnswered
    split at isAnswered
    · rename_i same
      subst same
      cases isAnswered
      exact own
    · have recorded := sound.answered other otherResult isAnswered
      refine kept (fun sameKey => ?_) recorded
      have same := sound.eq_of_key recorded placeholder sameKey
      cases congrArg Receipt.result same
  · intro other
    rw [phases_setPhase]
    split
    · simp
    · exact sound.noPlaceholder other
  · exact sound.appliedOnce
  · intro other isApplied
    rw [phases_setPhase]
    split
    · rename_i same
      subst same
      exact Or.inr ⟨some result, own⟩
    · refine (sound.appliedBy other isApplied).imp_right fun ⟨earlier, recorded⟩ => ?_
      by_cases sameKey : keyOf other = keyOf delivery
      · exact ⟨some result, mem_complete.2 ⟨_, recorded, if_pos sameKey⟩⟩
      · exact ⟨earlier, kept sameKey recorded⟩
  · intro other isConflict
    rw [phases_setPhase] at isConflict
    split at isConflict
    · cases isConflict
    · obtain ⟨receipt, member, sameKey, differs⟩ := sound.conflicting other isConflict
      refine ⟨_, mem_complete.2 ⟨receipt, member, rfl⟩, ?_⟩
      split <;> exact ⟨sameKey, differs⟩

theorem LedgerSound.move (sound : LedgerSound keyOf printOf ledger)
    {after : Ledger Key Print Result} (move : Move keyOf printOf ledger after) :
    LedgerSound keyOf printOf after := by
  cases move with
  | wait => exact sound
  | replay delivery receipt result member sameKey samePrint hasResult waits =>
      have recorded : Recorded keyOf printOf ledger delivery (some result) := by
        rw [Recorded, ← sameKey, ← samePrint, ← hasResult]
        exact member
      apply sound.setPhase (fun holds => absurd holds id) (by simp) _ (by simp)
        (fun _ => Or.inr ⟨_, recorded⟩) (by simp)
      rintro other same
      cases same
      exact recorded
  | conflict delivery receipt member sameKey differs waits =>
      exact sound.setPhase (fun holds => absurd holds id) (by simp) (by simp) (by simp)
        (fun isApplied => Or.inr (sound.unapplied_of_phase waits isApplied))
        fun _ => ⟨receipt, member, sameKey, differs⟩
  | miss delivery fresh =>
      exact sound.setPhase (fun holds => absurd holds id) (by simp) (by simp) (by simp)
        (fun isApplied => Or.inr (sound.unapplied_of_phase (Or.inl fresh) isApplied)) (by simp)
  | claim delivery missed unrecorded sole =>
      exact sound.setPhase (fun _ => ⟨unrecorded, fun other _ holds => sole other holds⟩)
        (by simp) (by simp) (by simp)
        (fun isApplied => Or.inr (sound.unapplied_of_phase (Or.inr missed) isApplied)) (by simp)
  | refuse delivery claimed =>
      exact sound.setPhase (fun holds => absurd holds id) (by simp) (by simp) (by simp)
        (fun isApplied => absurd rfl (sound.unapplied claimed delivery isApplied)) (by simp)
  | decline delivery result claimed =>
      exact sound.record (by rw [claimed]; trivial) (some result)
  | finish delivery result claimed =>
      have recorded := sound.record (by rw [claimed]; trivial) (some result)
      exact recorded.apply (sound.unapplied claimed)
        (Or.inr ⟨some result, List.mem_append_right _ (by simp)⟩)
  | begin delivery claimed =>
      have holds : (ledger.phases delivery).Holds := by
        rw [claimed]
        trivial
      have begun : LedgerSound keyOf printOf (ledger.setPhase delivery .begun) :=
        sound.setPhase
          (fun _ => ⟨sound.unrecorded delivery holds, fun other different otherHolds sameKey =>
            different (sound.sole other delivery otherHolds holds sameKey)⟩)
          (by simp) (by simp) (by simp) (fun _ => Or.inl rfl) (by simp)
      exact begun.apply (sound.unapplied claimed)
        (Or.inl (by rw [phases_setPhase, if_pos rfl]))
  | publish delivery holds => exact sound.record holds none
  | publishApplied delivery claimed =>
      have recorded := sound.record (by rw [claimed]; trivial) none
      exact recorded.apply (sound.unapplied claimed)
        (Or.inr ⟨none, List.mem_append_right _ (by simp)⟩)
  | conclude delivery result isPublished => exact sound.conclude isPublished result
  | crash delivery notBegun unanswered =>
      exact sound.setPhase (fun holds => absurd holds id) (by simp) (by simp) (by simp)
        (fun isApplied => Or.inr ((sound.appliedBy delivery isApplied).resolve_left notBegun))
        (by simp)

end Soundness

end IdempotencyReceipts
