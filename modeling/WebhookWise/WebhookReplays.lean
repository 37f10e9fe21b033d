import WebhookWise.WebhookSecurity
import WebhookWise.GuardedRuns

/-!
# Redelivered webhooks

Calls of `enforce_replay_protection` one after another, each at its own instant.  A
nonce is kept for twice the skew from the instant of the first delivery, which need not
be a whole second, whereas a timestamp is compared with the truncated clock.
-/

namespace WebhookWise

open GuardedRuns

namespace WebhookReplays

/-- One call of `enforce_replay_protection`. -/
structure Delivery where
  time : NNRat
  headers : Headers
  rawBody : Bytes
  redis : RedisCall

namespace Delivery

def signature (delivery : Delivery) : String :=
  delivery.headers.text "x-webhook-signature"

def timestamp (delivery : Delivery) : String :=
  delivery.headers.text "x-webhook-timestamp"

/-- What a redelivery repeats. -/
def triple (delivery : Delivery) : String × Bytes × String :=
  (delivery.timestamp, delivery.rawBody, delivery.signature)

def redelivered (delivery : Delivery) (time : NNRat) : Delivery :=
  { delivery with time := time }

/-- A signed delivery whose timestamp is as far ahead of the receiver as the skew allows. -/
def StampedAhead (security : SecurityConfig) (delivery : Delivery) : Prop :=
  delivery.signature ≠ "" ∧
    pyInt (strip delivery.timestamp) = some (wholeSeconds delivery.time + security.maxSkew)

end Delivery

/-- The nonce store, the deliveries that have passed, and the instant of the last call. -/
structure ReplayState where
  store : NonceStore
  passed : List Delivery
  clock : NNRat

/-- One delivery is checked. -/
def receive (runtime : SecurityRuntime) (security : SecurityConfig) (state : ReplayState)
    (delivery : Delivery) : ReplayState :=
  match enforceReplayProtection runtime security delivery.headers delivery.rawBody delivery.time
      delivery.redis state.store with
  | (.ok _, left) =>
      { store := left, passed := delivery :: state.passed, clock := delivery.time }
  | (.error _, left) => { store := left, passed := state.passed, clock := delivery.time }

/-- The deliveries come at non-decreasing times. -/
def InOrder (state : ReplayState) (delivery : Delivery) : Prop :=
  state.clock ≤ delivery.time

/-- No signed triple passed twice. -/
def PassedOnce (passed : List Delivery) : Prop :=
  passed.Pairwise fun later earlier => later.signature ≠ "" → later.triple ≠ earlier.triple

def ReplayState.initial (store : NonceStore) : ReplayState where
  store := store
  passed := []
  clock := 0

section Steps

variable {runtime : SecurityRuntime} {security : SecurityConfig} {state : ReplayState}
  {delivery : Delivery}

@[simp]
theorem receive_clock : (receive runtime security state delivery).clock = delivery.time := by
  unfold receive
  split <;> rfl

theorem receive_store :
    (receive runtime security state delivery).store =
      (enforceReplayProtection runtime security delivery.headers delivery.rawBody delivery.time
        delivery.redis state.store).2 := by
  unfold receive
  split <;> simp [*]

theorem receive_passed (runtime : SecurityRuntime) (security : SecurityConfig)
    (state : ReplayState) (delivery : Delivery) :
    (receive runtime security state delivery).passed = state.passed ∨
      (enforceReplayProtection runtime security delivery.headers delivery.rawBody delivery.time
          delivery.redis state.store).1 = .ok () ∧
        (receive runtime security state delivery).passed = delivery :: state.passed := by
  unfold receive
  split
  · rename_i passed left checked
    exact Or.inr ⟨by rw [checked], rfl⟩
  · exact Or.inl rfl

/-- The nonce of a delivery that passed is kept for twice the skew from its own time on. -/
def NonceKept (security : SecurityConfig) (store : NonceStore) (delivery : Delivery) : Prop :=
  ∃ expiry, store.get? (webhookReplayNonce delivery.signature) = some expiry ∧
    delivery.time + (security.maxSkew * 2 : Nat) ≤ expiry

theorem NonceKept.receive {earlier : Delivery}
    (kept : NonceKept security state.store earlier) (before : earlier.time ≤ delivery.time) :
    NonceKept security (receive runtime security state delivery).store earlier := by
  rw [receive_store]
  rcases enforceReplayProtection_store runtime security delivery.headers delivery.rawBody
    delivery.time delivery.redis state.store with same | ⟨key, -, claimed⟩
  · rwa [same]
  · obtain ⟨expiry, found, lasts⟩ := kept
    rw [claimed, NonceKept, PyDict.get?_set]
    by_cases sameKey : webhookReplayNonce earlier.signature = key
    · rw [if_pos sameKey]
      exact ⟨_, rfl, by gcongr⟩
    · rw [if_neg sameKey]
      exact ⟨expiry, found, lasts⟩

end Steps

/-! ## The timestamp expires before the nonce -/

theorem wholeSeconds_mono {first second : NNRat} (le : first ≤ second) :
    wholeSeconds first ≤ wholeSeconds second := by
  unfold wholeSeconds
  exact Int.ofNat_le.2 (Nat.floor_mono le)

theorem wholeSeconds_add (now : NNRat) (seconds : Nat) :
    wholeSeconds (now + seconds) = wholeSeconds now + seconds := by
  simp [wholeSeconds, Nat.floor_add_natCast]

section Expiry

variable {security : SecurityConfig} {first second : Delivery}

theorem not_timestampInWindow_of_nonce_expired (sameStamp : second.timestamp = first.timestamp)
    (signed : first.signature ≠ "")
    (wasInWindow : TimestampInWindow security first.headers first.time)
    (notAhead : ¬ first.StampedAhead security)
    (expired : first.time + (security.maxSkew * 2 : Nat) ≤ second.time) :
    ¬ TimestampInWindow security second.headers second.time := by
  obtain ⟨tsValue, parsed, early⟩ := wasInWindow
  have sameParsed : pyInt (strip (second.headers.text "x-webhook-timestamp")) = some tsValue := by
    rw [← parsed]
    exact congrArg (fun stamp => pyInt (strip stamp)) sameStamp
  rw [timestampInWindow_iff sameParsed]
  have later : wholeSeconds first.time + (security.maxSkew * 2 : Nat) ≤
      wholeSeconds second.time := by
    rw [← wholeSeconds_add]
    exact wholeSeconds_mono expired
  have behind : tsValue ≠ wholeSeconds first.time + security.maxSkew := by
    rintro rfl
    exact notAhead ⟨signed, parsed⟩
  omega

theorem timestampInWindow_at_expiry (ahead : first.StampedAhead security) :
    TimestampInWindow security first.headers (first.time + (security.maxSkew * 2 : Nat)) := by
  refine ⟨_, ahead.2, ?_⟩
  rw [wholeSeconds_add]
  omega

end Expiry

/-! ## Runs -/

section Runs

variable {runtime : SecurityRuntime} {security : SecurityConfig}

/-- What is known of every signed delivery that has passed. -/
structure Settled (security : SecurityConfig) (state : ReplayState) (delivery : Delivery) :
    Prop where
  before : delivery.time ≤ state.clock
  kept : NonceKept security state.store delivery
  inWindow : TimestampInWindow security delivery.headers delivery.time
  notAhead : ¬ delivery.StampedAhead security

/-- What every delivery preserves. -/
structure ReplaySafe (security : SecurityConfig) (state : ReplayState) : Prop where
  settled : ∀ delivery ∈ state.passed, delivery.signature ≠ "" → Settled security state delivery
  once : PassedOnce state.passed

theorem Settled.receive {state : ReplayState} {earlier delivery : Delivery}
    (settled : Settled security state earlier) (inOrder : InOrder state delivery) :
    Settled security (receive runtime security state delivery) earlier where
  before := by
    rw [receive_clock]
    exact settled.before.trans inOrder
  kept := settled.kept.receive (settled.before.trans inOrder)
  inWindow := settled.inWindow
  notAhead := settled.notAhead

theorem settled_of_passed {state : ReplayState} {delivery : Delivery}
    (signed : delivery.signature ≠ "") (notAhead : ¬ delivery.StampedAhead security)
    (passed : (enforceReplayProtection runtime security delivery.headers delivery.rawBody
      delivery.time delivery.redis state.store).1 = .ok ()) :
    Settled security (WebhookReplays.receive runtime security state delivery) delivery := by
  obtain ⟨answered, valid⟩ := validlySigned_of_enforceReplayProtection signed passed
  refine ⟨by rw [receive_clock], ?_, valid.inWindow, notAhead⟩
  rw [receive_store, answered, enforceReplayProtection_of_validlySigned valid]
  exact ⟨_, by rw [Delivery.signature, PyDict.get?_set, if_pos rfl], le_rfl⟩

theorem ReplaySafe.receive {state : ReplayState} {delivery : Delivery}
    (safe : ReplaySafe security state) (inOrder : InOrder state delivery)
    (notAhead : ¬ delivery.StampedAhead security) :
    ReplaySafe security (receive runtime security state delivery) := by
  rcases receive_passed runtime security state delivery with refused | ⟨passed, recorded⟩
  · refine ⟨fun earlier member signed => ?_, by rw [refused]; exact safe.once⟩
    rw [refused] at member
    exact (safe.settled earlier member signed).receive inOrder
  refine ⟨fun earlier member signed => ?_, ?_⟩
  · rw [recorded] at member
    rcases List.mem_cons.1 member with rfl | member
    · exact settled_of_passed signed notAhead passed
    · exact (safe.settled earlier member signed).receive inOrder
  · rw [recorded]
    refine List.pairwise_cons.2 ⟨fun earlier member signed same => ?_, safe.once⟩
    have sameStamp : delivery.timestamp = earlier.timestamp := congrArg Prod.fst same
    have sameSignature : delivery.signature = earlier.signature :=
      congrArg (fun triple => triple.2.2) same
    have valid := (validlySigned_of_enforceReplayProtection signed passed).2
    have wasSigned : earlier.signature ≠ "" := sameSignature ▸ signed
    have settled := safe.settled earlier member wasSigned
    obtain ⟨expiry, found, lasts⟩ := settled.kept
    have expired : expiry ≤ delivery.time := by
      by_contra live
      refine valid.unclaimed ⟨expiry, ?_, not_le.1 live⟩
      rw [← found, ← sameSignature, Delivery.signature]
    exact not_timestampInWindow_of_nonce_expired sameStamp wasSigned settled.inWindow
      settled.notAhead (lasts.trans expired) valid.inWindow

/-- No signed triple passes twice in a run in which no signed delivery is stamped as far ahead
of the receiver's truncated clock as the skew allows. -/
theorem passedOnce_of_run {store : NonceStore} {deliveries : List Delivery}
    (ordered : Along (receive runtime security) InOrder (.initial store) deliveries)
    (notAhead : ∀ delivery ∈ deliveries, ¬ delivery.StampedAhead security) :
    PassedOnce (run (receive runtime security) (.initial store) deliveries).passed := by
  have safe : ReplaySafe security
      (run (receive runtime security) (.initial store) deliveries) := by
    refine (ordered.and_forall notAhead).invariant (ReplaySafe security) ?_ ?_
    · exact ⟨by simp [ReplayState.initial], List.Pairwise.nil⟩
    · rintro state delivery safe ⟨inOrder, notAhead⟩
      exact safe.receive inOrder notAhead
  exact safe.once

theorem not_passedOnce_of_stampedAhead {store : NonceStore} {delivery : Delivery}
    (ahead : delivery.StampedAhead security)
    (valid : ValidlySigned runtime security delivery.headers delivery.rawBody delivery.time store)
    (answered : delivery.redis = .answered) :
    Along (receive runtime security) InOrder (.initial store)
        [delivery, delivery.redelivered (delivery.time + (security.maxSkew * 2 : Nat))] ∧
      ¬ PassedOnce (run (receive runtime security) (.initial store)
        [delivery, delivery.redelivered (delivery.time + (security.maxSkew * 2 : Nat))]).passed := by
  have first := enforceReplayProtection_of_validlySigned valid
  have received : receive runtime security (.initial store) delivery =
      { store := store.set (webhookReplayNonce delivery.signature)
          (delivery.time + (security.maxSkew * 2 : Nat))
        passed := [delivery]
        clock := delivery.time } := by
    simp only [receive, answered, ReplayState.initial, first]
    rfl
  have inWindow := timestampInWindow_at_expiry ahead
  have unclaimed : ¬ NonceStore.Live
      (store.set (webhookReplayNonce delivery.signature)
        (delivery.time + (security.maxSkew * 2 : Nat)))
      (webhookReplayNonce delivery.signature) (delivery.time + (security.maxSkew * 2 : Nat)) := by
    rintro ⟨expiry, found, live⟩
    rw [PyDict.get?_set, if_pos rfl] at found
    cases found
    exact lt_irrefl _ live
  generalize expiry : delivery.time + (security.maxSkew * 2 : Nat) = gone at *
  have second := enforceReplayProtection_of_validlySigned
    ⟨valid.signed, inWindow, valid.signature, unclaimed⟩
  constructor
  · refine ⟨zero_le, ?_, trivial⟩
    rw [received, InOrder, Delivery.redelivered, ← expiry]
    exact le_self_add
  · simp only [run_cons, run_nil, received]
    simp only [receive, Delivery.redelivered, answered, second]
    intro once
    exact (List.pairwise_cons.1 once).1 delivery (by simp) ahead.1 rfl

end Runs

/-! ## A sender whose clock is five minutes ahead -/

/-- A delivery signed with the given timestamp, which reaches the receiver at `1700000000`. -/
def deliveryStamped (timestamp signature : String) : Delivery where
  time := (1700000000 : Nat)
  headers := [("x-webhook-timestamp", timestamp), ("x-webhook-signature", signature)]
  rawBody := encodeUtf8 "\x7b\x7d"
  redis := .answered

def deliveryAhead : Delivery :=
  deliveryStamped "1700000300" "cdc890185a66986fcdb0461b0e677b1ca1d204c0fd5b8fe633a060a289d3cb39"

def deliveryOnTime : Delivery :=
  deliveryStamped "1700000000" "97926816e98fbb41ccb1673225ff29a2f35369099990e1b1561651e7bd097ebf"

theorem deliveryAhead_stampedAhead : deliveryAhead.StampedAhead documentedSecurity := by
  refine ⟨by decide, ?_⟩
  rw [deliveryAhead, deliveryStamped, wholeSeconds_natCast]
  decide

theorem deliveryAhead_validlySigned :
    ValidlySigned documentedRuntime documentedSecurity deliveryAhead.headers deliveryAhead.rawBody
      deliveryAhead.time [] where
  signed := by decide
  inWindow := by
    refine ⟨1700000300, by decide, ?_⟩
    rw [deliveryAhead, deliveryStamped, wholeSeconds_natCast]
    decide
  signature := ⟨"s3cret", by decide, by decide⟩
  unclaimed := by simp [NonceStore.Live, PyDict.get?]

/-- The same request passes at `1700000000` and again at `1700000600`. -/
theorem deliveryAhead_passes_twice :
    Along (receive documentedRuntime documentedSecurity) InOrder (.initial [])
        [deliveryAhead, deliveryAhead.redelivered (1700000600 : Nat)] ∧
      ¬ PassedOnce (run (receive documentedRuntime documentedSecurity) (.initial [])
        [deliveryAhead, deliveryAhead.redelivered (1700000600 : Nat)]).passed := by
  have expiry : deliveryAhead.time + (documentedSecurity.maxSkew * 2 : Nat) =
      (1700000600 : Nat) := by
    rw [deliveryAhead, deliveryStamped, ← Nat.cast_add]
    rfl
  rw [← expiry]
  exact not_passedOnce_of_stampedAhead deliveryAhead_stampedAhead deliveryAhead_validlySigned rfl

theorem deliveryOnTime_not_stampedAhead : ¬ deliveryOnTime.StampedAhead documentedSecurity := by
  rintro ⟨-, stamped⟩
  rw [deliveryOnTime, deliveryStamped, wholeSeconds_natCast] at stamped
  exact absurd stamped (by decide)

theorem deliveryOnTime_passes_once :
    PassedOnce (run (receive documentedRuntime documentedSecurity) (.initial [])
      [deliveryOnTime, deliveryOnTime]).passed := by
  refine passedOnce_of_run ⟨zero_le, ?_, trivial⟩ fun delivery member => ?_
  · exact receive_clock.le
  · have same : delivery = deliveryOnTime := by simpa using member
    rw [same]
    exact deliveryOnTime_not_stampedAhead

end WebhookReplays

end WebhookWise
