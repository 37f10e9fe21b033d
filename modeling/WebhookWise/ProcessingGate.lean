import WebhookWise.GuardedRuns
import WebhookWise.PythonValues

/-!
# The processing gate of one alert identity

Every worker asks the gate of its `dedup_key` for a processing slot, waits for the lock of the key,
and gives both back.  The slots are counted in a Redis key that expires; each script is one atomic
step.  The counter is right as long as it does not expire beneath an alert and no answer is lost.
-/

namespace WebhookWise

open GuardedRuns

namespace ProcessingGate

/-! ## Redis -/

/-- A key with a time to live. -/
structure ExpiringKey (Value : Type) where
  value : Value
  expiresAt : DateTime

/-- What `GET` answers. -/
def stored {Value : Type} (key : Option (ExpiringKey Value)) (now : DateTime) : Option Value :=
  key.bind fun held => if now < held.expiresAt then some held.value else none

section Scripts

variable (counter : Option (ExpiringKey Nat)) (lock : Option (ExpiringKey Nat)) (now : DateTime)

/-- `alert_reserve_queue_slot.lua`. -/
def reserveQueueSlot (windowSeconds : Int) (threshold : Nat) : Option (ExpiringKey Nat) × Int :=
  let current := (stored counter now).getD 0
  if 0 < threshold ∧ threshold ≤ current then (counter, -current)
  else (some ⟨current + 1, now.addSeconds windowSeconds⟩, current + 1)

/-- `alert_release_queue_slot.lua`. -/
def releaseQueueSlot (windowSeconds : Int) : Option (ExpiringKey Nat) :=
  let current := (stored counter now).getD 0
  if current ≤ 1 then none
  else some ⟨current - 1, now.addSeconds windowSeconds⟩

/-- `redis_set_nx_ex`: whether the lock was free, and is taken now. -/
def setNxEx (token : Nat) (ttlSeconds : Int) : Option (ExpiringKey Nat) × Bool :=
  match stored lock now with
  | none => (some ⟨token, now.addSeconds ttlSeconds⟩, true)
  | some _ => (lock, false)

/-- `alert_release_lock_if_owner.lua`. -/
def releaseLockIfOwner (token : Nat) : Option (ExpiringKey Nat) :=
  if stored lock now = some token then none else lock

/-- `alert_refresh_lock_if_owner.lua`. -/
def refreshLockIfOwner (token : Nat) (ttlSeconds : Int) : Option (ExpiringKey Nat) × Bool :=
  if stored lock now = some token then (some ⟨token, now.addSeconds ttlSeconds⟩, true)
  else (lock, false)

end Scripts

section Scripts

variable {counter lock : Option (ExpiringKey Nat)} {now : DateTime} {threshold : Nat}

theorem reserveQueueSlot_of_le (positive : 0 < threshold)
    (full : threshold ≤ (stored counter now).getD 0) (windowSeconds : Int) :
    reserveQueueSlot counter now windowSeconds threshold =
      (counter, -(((stored counter now).getD 0 : Nat) : Int)) :=
  if_pos ⟨positive, full⟩

theorem reserveQueueSlot_of_lt (free : (stored counter now).getD 0 < threshold)
    (windowSeconds : Int) :
    reserveQueueSlot counter now windowSeconds threshold =
      (some ⟨(stored counter now).getD 0 + 1, now.addSeconds windowSeconds⟩,
        (((stored counter now).getD 0 : Nat) : Int) + 1) :=
  if_neg fun both => both.2.not_gt free

theorem setNxEx_of_none (free : stored lock now = none) (token : Nat) (ttlSeconds : Int) :
    setNxEx lock now token ttlSeconds = (some ⟨token, now.addSeconds ttlSeconds⟩, true) := by
  simp [setNxEx, free]

theorem setNxEx_of_some {owner : Nat} (held : stored lock now = some owner) (token : Nat)
    (ttlSeconds : Int) : setNxEx lock now token ttlSeconds = (lock, false) := by
  simp [setNxEx, held]

end Scripts

structure Redis where
  counter : Option (ExpiringKey Nat)
  lock : Option (ExpiringKey Nat)

/-- What comes of a call of Redis. -/
inductive Reply where
  | answered
  /-- Redis is not asked, or raises before the script has run. -/
  | refused
  /-- The script has run, and its answer does not arrive. -/
  | lost
deriving DecidableEq

/-! ## The gate -/

structure GateSettings where
  failfastThreshold : Int
  failfastWindowSeconds : Int
  lockDistributedEnabled : Bool
  lockTtlSeconds : Int
  lockWaitTimeoutSeconds : Int

namespace GateSettings

variable (settings : GateSettings)

def threshold : Nat :=
  settings.failfastThreshold.toNat

def windowSeconds : Int :=
  if settings.failfastWindowSeconds < 1 then 1 else settings.failfastWindowSeconds

def ttlSeconds : Int :=
  if settings.lockTtlSeconds < 1 then 1 else settings.lockTtlSeconds

def timeoutSeconds : Int :=
  if settings.lockWaitTimeoutSeconds < 0 then 0 else settings.lockWaitTimeoutSeconds

end GateSettings

/-- `AlertProcessingGateResult`. -/
structure GateResult where
  suppressed : Bool
  queueSize : Nat
  reason : String

/-- `_QueueSlotReservation` of an alert that is not suppressed. -/
structure Reservation where
  reserved : Bool
  queueSize : Nat

/-- What a worker holds between two steps of `alert_processing_gate`. -/
inductive Stage where
  | asking
  | seeking (slot : Reservation)
  | waiting (slot : Reservation) (deadline : DateTime)
  | yielded (result : GateResult) (reserved locked lockLost : Bool)
  | leaving (result : GateResult) (reserved : Bool)
  | left (result : GateResult)

/-- What becomes of an alert that the gate has answered. -/
inductive Verdict where
  | proceeds
  | requeued
  | dropped
deriving DecidableEq

def validateBackpressure (result : GateResult) : Verdict :=
  if !result.suppressed then .proceeds
  else
    let reason := if result.reason = "" then "alert_storm_backpressure" else result.reason
    if reason = "redis_unavailable" then .requeued else .dropped

def unavailable (queueSize : Nat) : GateResult :=
  ⟨true, queueSize, "redis_unavailable"⟩

section Steps

variable (settings : GateSettings) (redis : Redis) (token : Nat) (now : DateTime) (reply : Reply)

def reserveProcessingSlot : Redis × Stage :=
  if settings.threshold = 0 then (redis, .seeking ⟨false, 0⟩)
  else
    let script := reserveQueueSlot redis.counter now settings.windowSeconds settings.threshold
    match reply with
    | .refused => (redis, .yielded (unavailable 0) false false false)
    | .lost => ({ redis with counter := script.1 }, .yielded (unavailable 0) false false false)
    | .answered =>
        if script.2 < 0 then
          ({ redis with counter := script.1 },
            .yielded ⟨true, script.2.natAbs, "alert_storm_backpressure"⟩ false false false)
        else ({ redis with counter := script.1 }, .seeking ⟨true, script.2.toNat⟩)

/-- One turn of the loop of `_acquire_distributed_lock`. -/
def acquireDistributedLock (slot : Reservation) (deadline : DateTime) : Redis × Stage :=
  let script := setNxEx redis.lock now token settings.ttlSeconds
  match reply with
  | .refused => (redis, .yielded (unavailable slot.queueSize) slot.reserved false false)
  | .lost =>
      ({ redis with lock := script.1 },
        .yielded (unavailable slot.queueSize) slot.reserved false false)
  | .answered =>
      if script.2 then
        ({ redis with lock := script.1 },
          .yielded ⟨false, slot.queueSize, ""⟩ slot.reserved true false)
      else if deadline ≤ now then
        (redis, .yielded ⟨true, slot.queueSize, "alert_processing_lock_timeout"⟩ slot.reserved
          false false)
      else (redis, .waiting slot deadline)

def releaseDistributedLock (locked : Bool) : Redis :=
  if locked && reply ≠ .refused then
    { redis with lock := releaseLockIfOwner redis.lock now token }
  else redis

def releaseProcessingSlot (reserved : Bool) : Redis :=
  if reserved && reply ≠ .refused then
    { redis with counter := releaseQueueSlot redis.counter now settings.windowSeconds }
  else redis

def advance : Stage → Redis × Stage
  | .asking => reserveProcessingSlot settings redis now reply
  | .seeking slot =>
      if !settings.lockDistributedEnabled then
        (redis, .yielded ⟨false, slot.queueSize, ""⟩ slot.reserved false false)
      else if reply = .refused then
        (redis, .yielded (unavailable slot.queueSize) slot.reserved false false)
      else (redis, .waiting slot (now.addSeconds settings.timeoutSeconds))
  | .waiting slot deadline =>
      acquireDistributedLock settings redis token now reply slot deadline
  | .yielded result reserved locked _ =>
      (releaseDistributedLock redis token now reply locked, .leaving result reserved)
  | .leaving result reserved =>
      (releaseProcessingSlot settings redis now reply reserved, .left result)
  | .left result => (redis, .left result)

/-- One turn of `_refresh_distributed_lock`. -/
def refresh : Stage → Redis × Stage
  | .yielded result reserved true false =>
      let script := refreshLockIfOwner redis.lock now token settings.ttlSeconds
      match reply with
      | .refused => (redis, .yielded result reserved true true)
      | .lost => ({ redis with lock := script.1 }, .yielded result reserved true true)
      | .answered => ({ redis with lock := script.1 }, .yielded result reserved true (!script.2))
  | stage => (redis, stage)

end Steps

/-! ## Runs -/

def holdsSlot : Stage → Bool
  | .seeking slot => slot.reserved
  | .waiting slot _ => slot.reserved
  | .yielded _ reserved _ _ => reserved
  | .leaving _ reserved => reserved
  | _ => false

def resultOf : Stage → Option GateResult
  | .yielded result _ _ _ => some result
  | .leaving result _ => some result
  | .left result => some result
  | _ => none

/-- A call of the gate, with the number of the others that had a slot when it asked. -/
structure Call where
  stage : Stage
  asked : Nat

structure State where
  redis : Redis
  calls : List Call

def inFlight (state : State) : Nat :=
  state.calls.countP fun call => holdsSlot call.stage

inductive Event where
  | enter
  | advance (index : Nat) (now : DateTime) (reply : Reply)
  | refresh (index : Nat) (now : DateTime) (reply : Reply)

def askedAt (state : State) (call : Call) : Nat :=
  match call.stage with
  | .asking => inFlight state
  | _ => call.asked

def step (settings : GateSettings) (state : State) : Event → State
  | .enter => { state with calls := state.calls ++ [⟨.asking, 0⟩] }
  | .advance index now reply =>
      match state.calls[index]? with
      | none => state
      | some call =>
          let moved := advance settings state.redis index now reply call.stage
          { redis := moved.1, calls := state.calls.set index ⟨moved.2, askedAt state call⟩ }
  | .refresh index now reply =>
      match state.calls[index]? with
      | none => state
      | some call =>
          let moved := refresh settings state.redis index now reply call.stage
          { redis := moved.1, calls := state.calls.set index ⟨moved.2, call.asked⟩ }

def opened : State :=
  ⟨⟨none, none⟩, []⟩

/-! ## What the gate promises -/

def isDropped (stage : Stage) : Bool :=
  (resultOf stage).any fun result => validateBackpressure result = .dropped

/-- No more alerts than the threshold have a slot, and an alert was dropped only if so many others
had one when it asked. -/
structure Sheds (settings : GateSettings) (state : State) : Prop where
  bounded : inFlight state ≤ settings.threshold
  onlyInStorm : ∀ call ∈ state.calls, isDropped call.stage = true →
    settings.threshold ≤ call.asked

/-! ## When it keeps them -/

def countsNext : Stage → Bool
  | .asking => true
  | .leaving _ reserved => reserved
  | _ => false

/-- When the wait of a worker for the lock ends. -/
def deadlineOf : Stage → Option DateTime
  | .waiting _ deadline => some deadline
  | _ => none

structure StepAdmitted (state : State) (call : Call) (now : DateTime) (reply : Reply) : Prop where
  /-- The counter has not expired beneath another alert that has a slot. -/
  counted : countsNext call.stage = true → ∀ key ∈ state.redis.counter, key.expiresAt ≤ now →
    inFlight state = (holdsSlot call.stage).toNat
  /-- No reservation is made without the worker knowing. -/
  reserved : countsNext call.stage = true → holdsSlot call.stage = false → reply ≠ .lost
  /-- No slot is kept for good. -/
  released : countsNext call.stage = true → holdsSlot call.stage = true → reply ≠ .refused
  /-- No wait for the lock runs out. -/
  lockFree : ∀ deadline ∈ deadlineOf call.stage, deadline ≤ now →
    stored state.redis.lock now = none

instance (state : State) (call : Call) (now : DateTime) (reply : Reply) :
    Decidable (StepAdmitted state call now reply) :=
  decidable_of_iff
    ((countsNext call.stage = true → ∀ key ∈ state.redis.counter, key.expiresAt ≤ now →
        inFlight state = (holdsSlot call.stage).toNat) ∧
      (countsNext call.stage = true → holdsSlot call.stage = false → reply ≠ .lost) ∧
      (countsNext call.stage = true → holdsSlot call.stage = true → reply ≠ .refused) ∧
      ∀ deadline ∈ deadlineOf call.stage, deadline ≤ now → stored state.redis.lock now = none)
    ⟨fun ⟨counted, reserved, released, lockFree⟩ => ⟨counted, reserved, released, lockFree⟩,
      fun ⟨counted, reserved, released, lockFree⟩ => ⟨counted, reserved, released, lockFree⟩⟩

def Admitted (state : State) : Event → Prop
  | .advance index now reply =>
      ∀ call ∈ state.calls[index]?, StepAdmitted state call now reply
  | _ => True

instance (state : State) : ∀ event, Decidable (Admitted state event)
  | .enter => isTrue trivial
  | .advance _ _ _ => inferInstanceAs (Decidable (∀ _ ∈ _, _))
  | .refresh _ _ _ => isTrue trivial

/-! ## One step of a worker -/

section Moves

variable {settings : GateSettings} {redis after : Redis} {token : Nat} {now : DateTime}
  {reply : Reply} {stage next : Stage} {state : State} {call : Call} {index : Nat}

/-- What a step of a worker does to the slots. -/
inductive Moves (settings : GateSettings) (redis : Redis) (now : DateTime) (stage : Stage)
    (after : Redis) (next : Stage) : Prop
  | keeps (counter : after.counter = redis.counter) (slot : holdsSlot next = holdsSlot stage)
      (dropped : isDropped next = true → stage ≠ .asking ∧ isDropped stage = true)
  | reserves (isAsking : stage = .asking)
      (free : (stored redis.counter now).getD 0 < settings.threshold)
      (counter : after.counter = some ⟨(stored redis.counter now).getD 0 + 1,
        now.addSeconds settings.windowSeconds⟩)
      (slot : holdsSlot next = true) (kept : isDropped next = false)
  | sheds (isAsking : stage = .asking)
      (full : settings.threshold ≤ (stored redis.counter now).getD 0)
      (counter : after.counter = redis.counter) (slot : holdsSlot next = false)
  | releases (result : GateResult) (wasLeaving : stage = .leaving result true)
      (counter : after.counter = releaseQueueSlot redis.counter now settings.windowSeconds)
      (left : next = .left result)

theorem not_dropped_unavailable (queueSize : Nat) :
    validateBackpressure (unavailable queueSize) ≠ .dropped := by
  simp [validateBackpressure, unavailable]

theorem not_dropped_admitted (queueSize : Nat) :
    validateBackpressure ⟨false, queueSize, ""⟩ ≠ .dropped := by
  simp [validateBackpressure]

theorem moves_reserve (positive : 0 < settings.threshold) (heard : reply ≠ .lost) :
    Moves settings redis now .asking (reserveProcessingSlot settings redis now reply).1
      (reserveProcessingSlot settings redis now reply).2 := by
  unfold reserveProcessingSlot
  rw [if_neg positive.ne']
  cases reply with
  | lost => exact absurd rfl heard
  | refused =>
      refine .keeps rfl rfl fun dropped => ?_
      simp [isDropped, resultOf, not_dropped_unavailable] at dropped
  | answered =>
      rcases le_or_gt settings.threshold ((stored redis.counter now).getD 0) with full | free
      · have negative : -(((stored redis.counter now).getD 0 : Nat) : Int) < 0 := by omega
        simp only [reserveQueueSlot_of_le positive full, if_pos negative]
        exact .sheds rfl full rfl rfl
      · have notNegative : ¬ (((stored redis.counter now).getD 0 : Nat) : Int) + 1 < 0 := by omega
        simp only [reserveQueueSlot_of_lt free, if_neg notNegative]
        exact .reserves rfl free rfl rfl rfl

theorem moves_acquire (slot : Reservation) (deadline : DateTime)
    (lockFree : deadline ≤ now → stored redis.lock now = none) :
    Moves settings redis now (.waiting slot deadline)
      (acquireDistributedLock settings redis token now reply slot deadline).1
      (acquireDistributedLock settings redis token now reply slot deadline).2 := by
  have unavailable_ (dropped : isDropped (.yielded (unavailable slot.queueSize) slot.reserved false
      false) = true) : Stage.waiting slot deadline ≠ .asking ∧
        isDropped (.waiting slot deadline) = true := by
    simp [isDropped, resultOf, not_dropped_unavailable] at dropped
  unfold acquireDistributedLock
  cases reply with
  | refused | lost => exact .keeps rfl rfl unavailable_
  | answered =>
      cases held : stored redis.lock now with
      | none =>
          simp only [setNxEx_of_none held, if_true]
          refine .keeps rfl rfl fun dropped => ?_
          simp [isDropped, resultOf, not_dropped_admitted] at dropped
      | some owner =>
          have early : ¬ deadline ≤ now := fun due => by
            rw [lockFree due] at held
            cases held
          simp only [setNxEx_of_some held, Bool.false_eq_true, if_false, if_neg early]
          exact .keeps rfl rfl fun dropped => by cases dropped

theorem moves_release (result : GateResult) (reserved : Bool)
    (sent : reserved = true → reply ≠ .refused) :
    Moves settings redis now (.leaving result reserved)
      (releaseProcessingSlot settings redis now reply reserved) (.left result) := by
  unfold releaseProcessingSlot
  cases reserved with
  | false => exact .keeps rfl rfl fun dropped => ⟨nofun, dropped⟩
  | true =>
      rw [if_pos (by simpa using sent rfl)]
      exact .releases result rfl rfl rfl

theorem moves_advance (positive : 0 < settings.threshold)
    (admitted : StepAdmitted state call now reply) :
    Moves settings state.redis now call.stage
      (advance settings state.redis token now reply call.stage).1
      (advance settings state.redis token now reply call.stage).2 := by
  cases stage : call.stage with
  | asking => exact moves_reserve positive (admitted.reserved (by rw [stage]; rfl) (by rw [stage]; rfl))
  | seeking slot =>
      simp only [advance]
      split
      · refine .keeps rfl rfl fun dropped => ?_
        simp [isDropped, resultOf, not_dropped_admitted] at dropped
      · split
        · refine .keeps rfl rfl fun dropped => ?_
          simp [isDropped, resultOf, not_dropped_unavailable] at dropped
        · exact .keeps rfl rfl fun dropped => by cases dropped
  | waiting slot deadline => exact moves_acquire slot deadline (admitted.lockFree deadline (by rw [stage]; rfl))
  | yielded result reserved locked lockLost =>
      refine .keeps ?_ rfl fun dropped => ⟨nofun, dropped⟩
      simp only [advance, releaseDistributedLock]
      split
      · rfl
      · rfl
  | leaving result reserved =>
      refine moves_release result reserved fun isReserved => ?_
      rw [isReserved] at stage
      exact admitted.released (by rw [stage]; rfl) (by rw [stage]; rfl)
  | left result => exact .keeps rfl rfl fun dropped => ⟨nofun, dropped⟩

theorem refresh_keeps (stage : Stage) :
    (refresh settings redis token now reply stage).1.counter = redis.counter ∧
      holdsSlot (refresh settings redis token now reply stage).2 = holdsSlot stage ∧
        isDropped (refresh settings redis token now reply stage).2 = isDropped stage := by
  unfold refresh
  split
  · cases reply with
    | answered | refused | lost => exact ⟨rfl, rfl, rfl⟩
  · exact ⟨rfl, rfl, rfl⟩

end Moves

/-! ## The invariant -/

section Invariant

variable {settings : GateSettings} {state : State} {event : Event} {index : Nat} {call : Call}
  {now : DateTime} {reply : Reply}

/-- The counter says how many have a slot. -/
structure Counted (settings : GateSettings) (state : State) : Prop where
  exact_ : (state.redis.counter.map ExpiringKey.value).getD 0 = inFlight state
  sheds : Sheds settings state

theorem inFlight_set (found : state.calls[index]? = some call) (redis : Redis) (next : Call) :
    inFlight ⟨redis, state.calls.set index next⟩ + (holdsSlot call.stage).toNat =
      inFlight state + (holdsSlot next.stage).toNat := by
  obtain ⟨within, isCall⟩ := List.getElem?_eq_some_iff.1 found
  have member : call ∈ state.calls := List.mem_of_getElem? found
  have counted : inFlight ⟨redis, state.calls.set index next⟩ = inFlight state -
      (if holdsSlot call.stage then 1 else 0) + if holdsSlot next.stage then 1 else 0 := by
    unfold inFlight
    rw [List.countP_set within, isCall]
  cases was : holdsSlot call.stage with
  | false => cases holds : holdsSlot next.stage <;> simp [counted, was, holds]
  | true =>
      have positive : 0 < inFlight state := List.countP_pos_iff.2 ⟨call, member, was⟩
      cases holds : holdsSlot next.stage with
      | false =>
          simp only [counted, was, holds, if_true, Bool.toNat_true, Bool.toNat_false]
          simp only [Bool.false_eq_true, if_false]
          omega
      | true =>
          simp only [counted, was, holds, if_true, Bool.toNat_true]
          omega

theorem stored_eq_inFlight
    (exact_ : (state.redis.counter.map ExpiringKey.value).getD 0 = inFlight state)
    (fresh : ∀ key, state.redis.counter = some key → key.expiresAt ≤ now → inFlight state = 0) :
    (stored state.redis.counter now).getD 0 = inFlight state := by
  cases isCounter : state.redis.counter with
  | none =>
      rw [isCounter] at exact_
      exact exact_
  | some key =>
      rw [isCounter] at exact_
      by_cases live : now < key.expiresAt
      · simpa [stored, live] using exact_
      · rw [fresh key isCounter (not_lt.1 live)]
        simp [stored, live]

theorem released_add_one {windowSeconds : Int} (positive : 0 < inFlight state)
    (exact_ : (state.redis.counter.map ExpiringKey.value).getD 0 = inFlight state)
    (fresh : ∀ key, state.redis.counter = some key → key.expiresAt ≤ now → inFlight state = 1) :
    ((releaseQueueSlot state.redis.counter now windowSeconds).map ExpiringKey.value).getD 0 + 1 =
      inFlight state := by
  have atMost : (stored state.redis.counter now).getD 0 ≤ 1 → inFlight state = 1 := by
    intro low
    cases isCounter : state.redis.counter with
    | none =>
        rw [isCounter] at exact_
        exact absurd exact_ positive.ne
    | some key =>
        by_cases live : now < key.expiresAt
        · have same : key.value = inFlight state := by simpa [isCounter] using exact_
          have lowValue : key.value ≤ 1 := by simpa [isCounter, stored, live] using low
          omega
        · exact fresh key isCounter (not_lt.1 live)
  unfold releaseQueueSlot
  by_cases low : (stored state.redis.counter now).getD 0 ≤ 1
  · rw [if_pos low, atMost low]
    rfl
  · rw [if_neg low]
    cases isCounter : state.redis.counter with
    | none => simp [isCounter, stored] at low
    | some key =>
        by_cases live : now < key.expiresAt
        · have same : key.value = inFlight state := by simpa [isCounter] using exact_
          simp only [isCounter, stored, Option.bind_some, if_pos live, Option.getD_some,
            Option.map_some] at low ⊢
          omega
        · simp [isCounter, stored, live] at low

theorem Counted.of_moves {redis : Redis} {next : Stage} (counted : Counted settings state)
    (found : state.calls[index]? = some call) (admitted : StepAdmitted state call now reply)
    (moves : Moves settings state.redis now call.stage redis next) :
    Counted settings ⟨redis, state.calls.set index ⟨next, askedAt state call⟩⟩ := by
  have balance := inFlight_set found redis ⟨next, askedAt state call⟩
  have member : call ∈ state.calls := List.mem_of_getElem? found
  -- A call that was dropped before keeps the number it asked at.
  have storms (own : isDropped next = true → settings.threshold ≤ askedAt state call) :
      ∀ other ∈ state.calls.set index ⟨next, askedAt state call⟩, isDropped other.stage = true →
        settings.threshold ≤ other.asked := by
    intro other otherMember dropped
    rcases List.mem_or_eq_of_mem_set otherMember with old | rfl
    · exact counted.sheds.onlyInStorm other old dropped
    · exact own dropped
  cases moves with
  | keeps counter slot dropped =>
      rw [slot] at balance
      have same : inFlight ⟨redis, state.calls.set index ⟨next, askedAt state call⟩⟩ =
          inFlight state := by omega
      refine ⟨?_, ?_, storms fun isNow => ?_⟩
      · rw [same, counter]
        exact counted.exact_
      · rw [same]
        exact counted.sheds.bounded
      · obtain ⟨notAsking, before⟩ := dropped isNow
        have kept : askedAt state call = call.asked := by
          unfold askedAt
          split
          · rename_i isAsking
            exact absurd isAsking notAsking
          · rfl
        rw [kept]
        exact counted.sheds.onlyInStorm call member before
  | reserves isAsking free counter slot kept =>
      have read : (stored state.redis.counter now).getD 0 = inFlight state := by
        refine stored_eq_inFlight counted.exact_ fun key isCounter expired => ?_
        have alone := admitted.counted (by rw [isAsking]; rfl) key isCounter expired
        rw [isAsking] at alone
        exact alone
      rw [isAsking, slot] at balance
      simp only [holdsSlot, Bool.toNat_false, Bool.toNat_true, Nat.add_zero] at balance
      rw [read] at free counter
      refine ⟨?_, ?_, storms fun isNow => ?_⟩
      · rw [counter, balance]
        rfl
      · rw [balance]
        exact free
      · rw [kept] at isNow
        cases isNow
  | sheds isAsking full counter slot =>
      have read : (stored state.redis.counter now).getD 0 = inFlight state := by
        refine stored_eq_inFlight counted.exact_ fun key isCounter expired => ?_
        have alone := admitted.counted (by rw [isAsking]; rfl) key isCounter expired
        rw [isAsking] at alone
        exact alone
      rw [isAsking, slot] at balance
      simp only [holdsSlot, Bool.toNat_false, Nat.add_zero] at balance
      refine ⟨?_, ?_, storms fun _ => ?_⟩
      · rw [counter, balance]
        exact counted.exact_
      · rw [balance]
        exact counted.sheds.bounded
      · rw [read] at full
        unfold askedAt
        rw [isAsking]
        exact full
  | releases result wasLeaving counter left =>
      subst left
      have holds : holdsSlot call.stage = true := by rw [wasLeaving]; rfl
      have released := @released_add_one state now settings.windowSeconds
        (List.countP_pos_iff.2 ⟨call, member, holds⟩) counted.exact_
        fun key isCounter expired => by
          rw [admitted.counted (by rw [wasLeaving]; rfl) key isCounter expired, holds]
          rfl
      rw [holds] at balance
      simp only [holdsSlot, Bool.toNat_false, Bool.toNat_true, Nat.add_zero] at balance
      have bounded := counted.sheds.bounded
      refine ⟨?_, by omega, storms fun isNow => ?_⟩
      · rw [counter]
        omega
      · have kept : askedAt state call = call.asked := by
          unfold askedAt
          rw [wasLeaving]
        rw [kept]
        refine counted.sheds.onlyInStorm call member ?_
        rw [wasLeaving]
        exact isNow

theorem Counted.step (positive : 0 < settings.threshold) (counted : Counted settings state)
    (admitted : Admitted state event) : Counted settings (step settings state event) := by
  cases event with
  | enter =>
      have same : inFlight ⟨state.redis, state.calls ++ [⟨.asking, 0⟩]⟩ = inFlight state := by
        simp [inFlight, holdsSlot]
      refine ⟨counted.exact_.trans same.symm, same.le.trans counted.sheds.bounded, ?_⟩
      intro call member dropped
      rcases List.mem_append.1 member with old | new
      · exact counted.sheds.onlyInStorm call old dropped
      · rw [List.mem_singleton.1 new] at dropped
        cases dropped
  | advance index now reply =>
      cases found : state.calls[index]? with
      | none =>
          simp only [ProcessingGate.step, found]
          exact counted
      | some call =>
          simp only [ProcessingGate.step, found]
          have here := admitted call found
          exact counted.of_moves found here (moves_advance positive here)
  | refresh index now reply =>
      cases found : state.calls[index]? with
      | none =>
          simp only [ProcessingGate.step, found]
          exact counted
      | some call =>
          simp only [ProcessingGate.step, found]
          obtain ⟨counter, slot, dropped⟩ :=
            @refresh_keeps settings state.redis index now reply call.stage
          have balance := inFlight_set found
            (refresh settings state.redis index now reply call.stage).1
            ⟨(refresh settings state.redis index now reply call.stage).2, call.asked⟩
          rw [slot] at balance
          have same := Nat.add_right_cancel balance
          refine ⟨?_, same.le.trans counted.sheds.bounded, ?_⟩
          · rw [same, counter]
            exact counted.exact_
          · intro other member isNow
            rcases List.mem_or_eq_of_mem_set member with old | rfl
            · exact counted.sheds.onlyInStorm other old isNow
            · exact counted.sheds.onlyInStorm call (List.mem_of_getElem? found)
                (dropped.symm.trans isNow)

theorem counted_opened : Counted settings opened :=
  ⟨rfl, Nat.zero_le _, fun _ none => by cases none⟩

end Invariant

/-! ## Runs -/

/-- The gate bounds the slots, and drops only in a storm, in every state of a run whose steps are
all admitted. -/
theorem gate_sheds (settings : GateSettings) (positive : 0 < settings.threshold)
    (events : List Event) (along : Along (step settings) Admitted opened events) :
    ∀ taken, taken <+: events → Sheds settings (run (step settings) opened taken) := by
  rintro taken ⟨later, rfl⟩
  have invariant := (along_append.1 along).1.invariant (Counted settings) counted_opened
    fun state event counted admitted => counted.step positive admitted
  exact invariant.sheds

def oneSlot : GateSettings where
  failfastThreshold := 1
  failfastWindowSeconds := 10
  lockDistributedEnabled := true
  lockTtlSeconds := 180
  lockWaitTimeoutSeconds := 15

/-- Two alerts one after the other, and one between them that meets a storm. -/
def queuedRun : List Event :=
  [.enter, .enter, .enter, .advance 0 0 .answered, .advance 0 0 .answered, .advance 0 0 .answered,
    .advance 1 0 .answered, .refresh 0 (DateTime.addSeconds 0 3) .answered,
    .advance 0 (DateTime.addSeconds 0 8) .answered, .advance 0 (DateTime.addSeconds 0 8) .answered,
    .advance 2 (DateTime.addSeconds 0 12) .answered]

theorem gate_sheds_queuedRun : Sheds oneSlot (run (step oneSlot) opened queuedRun) :=
  gate_sheds oneSlot (by decide) queuedRun (by decide) queuedRun List.prefix_rfl

def slowRun : List Event :=
  [.enter, .enter, .advance 0 0 .answered, .advance 0 0 .answered, .advance 0 0 .answered,
    .advance 1 (DateTime.addSeconds 0 11) .answered]

def twentySlots : GateSettings :=
  { oneSlot with failfastThreshold := 20 }

def waitedRun : List Event :=
  [.enter, .enter, .advance 0 0 .answered, .advance 0 0 .answered, .advance 0 0 .answered,
    .advance 1 0 .answered, .advance 1 0 .answered,
    .advance 1 (DateTime.addSeconds 0 15) .answered]

/-- Two alerts share the one slot, and an alert is dropped that was the second of twenty. -/
theorem gate_fails :
    ¬ Sheds oneSlot (run (step oneSlot) opened slowRun) ∧
      ¬ Sheds twentySlots (run (step twentySlots) opened waitedRun) := by
  constructor
  · intro sheds
    exact absurd sheds.bounded (by decide)
  · intro sheds
    have wasDropped : ∃ call ∈ (run (step twentySlots) opened waitedRun).calls,
        isDropped call.stage = true ∧ call.asked < twentySlots.threshold := by
      decide
    obtain ⟨call, member, dropped, few⟩ := wasDropped
    exact absurd (sheds.onlyInStorm call member dropped) few.not_ge

end ProcessingGate

end WebhookWise
