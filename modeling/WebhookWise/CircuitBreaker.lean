import WebhookWise.GuardedRuns
import WebhookWise.PythonValues

/-!
# A circuit breaker with a cache of the closed state

The breaker keeps its state in Redis, where every script is one atomic step.  An instance remembers
for a short while that it saw the breaker closed; a check that was answered before the breaker trips
may remember the closed state after it.
-/

namespace WebhookWise

open GuardedRuns

namespace CircuitBreaker

/-! ## Redis -/

/-- A key, which may have a time to live. -/
structure RedisKey (Value : Type) where
  value : Value
  expiresAt : Option DateTime

def live {Value : Type} (key : Option (RedisKey Value)) (now : DateTime) :
    Option (RedisKey Value) :=
  key.filter fun held => held.expiresAt.all fun expiry => now < expiry

/-- What `GET` answers. -/
def get {Value : Type} (key : Option (RedisKey Value)) (now : DateTime) : Option Value :=
  (live key now).map RedisKey.value

inductive CircuitState where
  | closed
  | opened
deriving DecidableEq

structure Redis where
  failures : Option (RedisKey Int)
  state : Option (RedisKey CircuitState)
  openUntil : Option (RedisKey DateTime)

/-- The arguments of a `CircuitBreaker`.  The recovery timeout is in microseconds, the failure
window in seconds. -/
structure BreakerSettings where
  failureThreshold : Int
  recoveryTimeout : Int
  failureWindow : Int

namespace BreakerSettings

variable (settings : BreakerSettings)

/-- `_CLOSED_CACHE_TTL_SECONDS`, at most the recovery timeout. -/
def closedCacheTtl : Int :=
  if settings.recoveryTimeout < 3 * DateTime.microsecondsPerSecond then settings.recoveryTimeout
  else 3 * DateTime.microsecondsPerSecond

/-- `int(self.recovery_timeout * 2) + 1`, in seconds. -/
def stateExpire : Int :=
  (settings.recoveryTimeout * 2).tdiv DateTime.microsecondsPerSecond + 1

end BreakerSettings

section Scripts

variable (settings : BreakerSettings) (redis : Redis) (now : DateTime)

/-- `circuit_breaker_check_state.lua`, with the time that the caller read. -/
def checkState (time : DateTime) : Redis × CircuitState :=
  match get redis.state now with
  | none => (redis, .closed)
  | some .closed => (redis, .closed)
  | some .opened =>
      match get redis.openUntil now with
      | none => (redis, .opened)
      | some openUntil =>
          if openUntil ≤ time then
            ({ redis with state := some ⟨.closed, none⟩, openUntil := none }, .closed)
          else (redis, .opened)

/-- The counter after `incr`, whose window begins with the first failure. -/
def countedFailures : RedisKey Int :=
  match live redis.failures now with
  | none => ⟨1, some (now.addSeconds settings.failureWindow)⟩
  | some key =>
      if key.value + 1 = 1 then ⟨1, some (now.addSeconds settings.failureWindow)⟩
      else ⟨key.value + 1, key.expiresAt⟩

def trips : Bool :=
  settings.failureThreshold ≤ (countedFailures settings redis now).value

/-- `circuit_breaker_record_failure.lua`, with the moment until which the breaker is to stay
open. -/
def recordFailure (openUntil : DateTime) : Redis × Bool :=
  let failures := some (countedFailures settings redis now)
  if trips settings redis now then
    let expiry := some (now.addSeconds settings.stateExpire)
    ({ failures := failures
       state := some ⟨.opened, expiry⟩
       openUntil := some ⟨openUntil, expiry⟩ }, true)
  else ({ redis with failures := failures }, false)

/-- `circuit_breaker_record_success.lua`. -/
def recordSuccess : Redis :=
  if get redis.state now = some .opened then
    { failures := none, state := some ⟨.closed, none⟩, openUntil := none }
  else redis

end Scripts

/-! ## Calls -/

/-- How the guarded function ends. -/
inductive Outcome where
  | returned
  /-- One of the expected exceptions. -/
  | failed
  /-- Another exception. -/
  | raised

/-- Where a `call_async` stands between two steps. -/
inductive Stage where
  /-- The breaker is disabled. -/
  | unguarded
  /-- `_check_state_async` is about to look at the cache. -/
  | checking
  /-- It awaits Redis, and will read the clock. -/
  | asking
  /-- Its script is under way. -/
  | asked (time : DateTime)
  /-- It has the answer of the script. -/
  | answered (state : CircuitState)
  | rejected
  | running
  | succeeded
  /-- `_record_failure` is about to clear the cache. -/
  | failing
  /-- It awaits Redis, and will read the clock. -/
  | cleared
  /-- Its script is under way. -/
  | reporting (time : DateTime)
  /-- It has the answer of the script. -/
  | reported (time : DateTime) (tripped : Bool)
  | ended

/-- A call, with the moments until which the breaker was to stay open when its check began. -/
structure Call where
  stage : Stage
  owed : List DateTime

/-- One instance and its calls.  `promises` are the moments until which the breaker is to stay
open by the trips that were returned since the last recorded success; the code does not keep
them. -/
structure State where
  redis : Redis
  closedCacheUntil : DateTime
  now : DateTime
  calls : List Call
  promises : List DateTime

inductive Event where
  | pass (amount : Nat)
  | start
  | advance (index : Nat) (outcome : Outcome)

section Steps

variable (settings : BreakerSettings) (state : State)

def cachedClosed : Bool :=
  0 < settings.closedCacheTtl && state.now < state.closedCacheUntil

def put (index : Nat) (stage : Stage) : State :=
  { state with calls := state.calls.set index ⟨stage, []⟩ }

/-- The stage after `_check_state_async` has returned. -/
def enter : CircuitState → Stage
  | .closed => .running
  | .opened => .rejected

def advance (index : Nat) (outcome : Outcome) (call : Call) : State :=
  match call.stage with
  | .unguarded => put state index .ended
  | .checking =>
      if cachedClosed settings state then put state index .running
      else { state with calls := state.calls.set index ⟨.asking, state.promises⟩ }
  | .asking => { state with calls := state.calls.set index ⟨.asked state.now, call.owed⟩ }
  | .asked time =>
      let script := checkState state.redis state.now time
      { state with
        redis := script.1
        calls := state.calls.set index ⟨.answered script.2, call.owed⟩ }
  | .answered answer =>
      let next := put state index (enter answer)
      if answer = .closed ∧ 0 < settings.closedCacheTtl then
        { next with closedCacheUntil := state.now + settings.closedCacheTtl }
      else next
  | .rejected => state
  | .running =>
      match outcome with
      | .returned => put state index .succeeded
      | .failed => put state index .failing
      | .raised => put state index .ended
  | .succeeded =>
      { state with
        redis := recordSuccess state.redis state.now
        calls := (state.calls.set index ⟨.ended, []⟩).map fun call => { call with owed := [] }
        promises := [] }
  | .failing => { put state index .cleared with closedCacheUntil := 0 }
  | .cleared => put state index (.reporting state.now)
  | .reporting time =>
      let script := recordFailure settings state.redis state.now (time + settings.recoveryTimeout)
      { put state index (.reported time script.2) with redis := script.1 }
  | .reported time tripped =>
      let next := put state index .ended
      if tripped then { next with promises := (time + settings.recoveryTimeout) :: state.promises }
      else next
  | .ended => state

def step : Event → State
  | .pass amount => { state with now := state.now + amount }
  | .start =>
      let stage := if settings.failureThreshold = 0 then Stage.unguarded else .checking
      { state with calls := state.calls ++ [⟨stage, []⟩] }
  | .advance index outcome =>
      match state.calls[index]? with
      | none => state
      | some call => advance settings state index outcome call

end Steps

def made (redis : Redis) (now : Nat) : State where
  redis := redis
  closedCacheUntil := 0
  now := now
  calls := []
  promises := []

/-! ## Trips are honoured -/

section Honoured

variable (settings : BreakerSettings) (state : State)

def returns (call : Call) : Option CircuitState :=
  match call.stage with
  | .checking => if cachedClosed settings state then some .closed else none
  | .answered answer => some answer
  | _ => none

/-- The moments until which the breaker was to stay open when the check began. -/
def owedTo (call : Call) : List DateTime :=
  match call.stage with
  | .checking => state.promises
  | _ => call.owed

/-- A check that began after a trip was returned returns `OPEN` while the recovery timeout runs
and no success has been recorded. -/
def Honours : Event → Prop
  | .advance index _ =>
      ∀ call ∈ state.calls[index]?, ∀ answer ∈ returns settings state call,
        ∀ moment ∈ owedTo state call, state.now < moment → answer = .opened
  | _ => True

/-- The moment until which the breaker is to stay open by a trip that is about to be returned. -/
def pending (call : Call) : List DateTime :=
  match call.stage with
  | .reported time true => [time + settings.recoveryTimeout]
  | _ => []

/-- The moments until which the breaker is to stay open. -/
def outstanding : List DateTime :=
  state.promises ++ state.calls.flatMap (pending settings)

/-- The steps of one call that keep the promises. -/
def StepAdmitted (call : Call) : Prop :=
  match call.stage with
  -- No check remembers the closed state after a trip.
  | .answered .closed =>
      0 < settings.closedCacheTtl → ∀ moment ∈ outstanding settings state, moment ≤ state.now
  | .reporting time =>
      trips settings state.redis state.now = true →
        -- No check has remembered it since this failure cleared the cache.
        (state.now < time + settings.recoveryTimeout → state.closedCacheUntil ≤ state.now) ∧
          -- No failure with an older reading of the clock shortens the recovery.
          ∀ moment ∈ outstanding settings state, state.now < moment →
            moment ≤ time + settings.recoveryTimeout
  -- No success is recorded while a trip is about to be returned.
  | .succeeded => ∀ other ∈ state.calls, ∀ moment ∈ pending settings other, moment ≤ state.now
  | _ => True

instance (call : Call) : Decidable (StepAdmitted settings state call) := by
  unfold StepAdmitted
  split <;> infer_instance

def Admitted : Event → Prop
  | .advance index _ => ∀ call ∈ state.calls[index]?, StepAdmitted settings state call
  | _ => True

instance : ∀ event, Decidable (Honours settings state event)
  | .pass _ => isTrue trivial
  | .start => isTrue trivial
  | .advance _ _ => inferInstanceAs (Decidable (∀ _ ∈ _, _))

instance : ∀ event, Decidable (Admitted settings state event)
  | .pass _ => isTrue trivial
  | .start => isTrue trivial
  | .advance _ _ => inferInstanceAs (Decidable (∀ _ ∈ _, _))

end Honoured

/-! ## The scripts on an open breaker -/

section Open

variable {settings : BreakerSettings} {redis : Redis} {now time moment : DateTime}

/-- The breaker is open at least until a moment. -/
def Keeps (redis : Redis) (moment : DateTime) : Prop :=
  ∃ stateExpiry untilExpiry openUntil,
    redis.state = some ⟨.opened, some stateExpiry⟩ ∧
      redis.openUntil = some ⟨openUntil, some untilExpiry⟩ ∧
      moment ≤ stateExpiry ∧ moment ≤ untilExpiry ∧ moment ≤ openUntil

theorem get_of_lt {Value : Type} {value : Value} {expiry : DateTime} (unexpired : now < expiry) :
    get (some ⟨value, some expiry⟩) now = some value := by
  simp [get, live, unexpired]

theorem checkState_of_keeps (keeps : Keeps redis moment) (before : now < moment)
    (read : time ≤ now) : checkState redis now time = (redis, .opened) := by
  obtain ⟨stateExpiry, untilExpiry, openUntil, state, untilKey, stateLate, untilLate, late⟩ := keeps
  have stateLive : get redis.state now = some .opened := by
    rw [state]
    exact get_of_lt (lt_of_lt_of_le before stateLate)
  have untilLive : get redis.openUntil now = some openUntil := by
    rw [untilKey]
    exact get_of_lt (lt_of_lt_of_le before untilLate)
  have notDue : ¬ openUntil ≤ time :=
    not_le_of_gt (lt_of_le_of_lt read (lt_of_lt_of_le before late))
  simp [checkState, stateLive, untilLive, notDue]

theorem le_expiry (read : time ≤ now) (before : now < time + settings.recoveryTimeout) :
    time + settings.recoveryTimeout ≤ now.addSeconds settings.stateExpire := by
  have arithmetic : ∀ timeout time now : Int, time ≤ now → now < time + timeout →
      time + timeout ≤ now + ((timeout * 2).tdiv 1000000 + 1) * 1000000 := by
    intro timeout time now read before
    have positive : 0 ≤ timeout * 2 := by omega
    rw [Int.tdiv_eq_ediv_of_nonneg positive]
    omega
  exact arithmetic _ _ _ read before

theorem keeps_recordFailure (read : time ≤ now) (before : now < moment)
    (keeps : Keeps redis moment ∨ trips settings redis now = true)
    (extended : trips settings redis now = true → moment ≤ time + settings.recoveryTimeout) :
    Keeps (recordFailure settings redis now (time + settings.recoveryTimeout)).1 moment := by
  unfold recordFailure
  cases tripped : trips settings redis now with
  | false =>
      rcases keeps with keeps | contrary
      · exact keeps
      · rw [tripped] at contrary
        contradiction
  | true =>
      have late := extended tripped
      have expiry := le_expiry read (lt_of_lt_of_le before late)
      exact ⟨_, _, _, rfl, rfl, le_trans late expiry, le_trans late expiry, late⟩

theorem snd_recordFailure (openUntil : DateTime) :
    (recordFailure settings redis now openUntil).2 = trips settings redis now := by
  unfold recordFailure
  cases tripped : trips settings redis now with
  | false | true => rfl

end Open

/-! ## What holds in every state -/

/-- What a call knows.  Its readings of the clock are past, the promises from before its check
still bind, and while they do it was answered `open`. -/
structure CallSound (state : State) (call : Call) : Prop where
  asked : ∀ time, call.stage = .asked time → time ≤ state.now
  reporting : ∀ time, call.stage = .reporting time → time ≤ state.now
  reported : ∀ time tripped, call.stage = .reported time tripped → time ≤ state.now
  owed : ∀ moment ∈ call.owed, moment ∈ state.promises
  answered : ∀ answer, call.stage = .answered answer →
    ∀ moment ∈ call.owed, state.now < moment → answer = .opened

structure Sound (settings : BreakerSettings) (state : State) : Prop where
  positive : 0 ≤ state.now
  kept : ∀ moment ∈ outstanding settings state, state.now < moment → Keeps state.redis moment
  uncached : ∀ moment ∈ outstanding settings state, state.now < moment →
    state.closedCacheUntil ≤ state.now
  calls : ∀ call ∈ state.calls, CallSound state call

section Soundness

variable {settings : BreakerSettings} {state : State} {call : Call} {index : Nat}

theorem sound_made (redis : Redis) (now : Nat) : Sound settings (made redis now) where
  positive := Int.natCast_nonneg now
  kept := by simp [made, outstanding]
  uncached := by simp [made, outstanding]
  calls := by simp [made]

theorem honours_of_sound (sound : Sound settings state) (event : Event) :
    Honours settings state event := by
  cases event with
  | pass | start => trivial
  | advance index outcome =>
      intro call found answer returned moment owed before
      have member : call ∈ state.calls := List.mem_of_getElem? found
      cases stage : call.stage with
      | checking =>
          simp only [owedTo, stage] at owed
          have empty := sound.uncached moment (List.mem_append_left _ owed) before
          have notCached : cachedClosed settings state = false := by
            simp [cachedClosed, empty]
          simp [returns, stage, notCached] at returned
      | answered given =>
          simp only [owedTo, stage] at owed
          simp only [returns, stage, Option.mem_some_iff] at returned
          rw [← returned]
          exact (sound.calls call member).answered given stage moment owed before
      | _ => simp [returns, stage] at returned

theorem mem_outstanding_set (state : State) (index : Nat) (moved : Call) {moment : DateTime}
    (member : moment ∈ state.promises ++ (state.calls.set index moved).flatMap (pending settings)) :
    moment ∈ outstanding settings state ∨ moment ∈ pending settings moved := by
  rcases List.mem_append.1 member with promised | isPending
  · exact Or.inl (List.mem_append_left _ promised)
  · obtain ⟨other, otherMember, moment⟩ := List.mem_flatMap.1 isPending
    rcases List.mem_or_eq_of_mem_set otherMember with old | rfl
    · exact Or.inl (List.mem_append_right _ (List.mem_flatMap.2 ⟨other, old, moment⟩))
    · exact Or.inr moment

theorem mem_outstanding_of_pending {moment : DateTime} (member : call ∈ state.calls)
    (isPending : moment ∈ pending settings call) : moment ∈ outstanding settings state :=
  List.mem_append_right _ (List.mem_flatMap.2 ⟨call, member, isPending⟩)

theorem CallSound.mono {next : State} (sound : CallSound state call) (now : state.now ≤ next.now)
    (promises : ∀ moment ∈ state.promises, moment ∈ next.promises) : CallSound next call where
  asked time stage := le_trans (sound.asked time stage) now
  reporting time stage := le_trans (sound.reporting time stage) now
  reported time tripped stage := le_trans (sound.reported time tripped stage) now
  owed moment member := promises moment (sound.owed moment member)
  answered answer stage moment member before :=
    sound.answered answer stage moment member (lt_of_le_of_lt now before)

theorem callSound_of_plain {stage : Stage} (asked : ∀ time, stage ≠ .asked time)
    (reporting : ∀ time, stage ≠ .reporting time)
    (reported : ∀ time tripped, stage ≠ .reported time tripped) : CallSound state ⟨stage, []⟩ where
  asked time same := absurd same (asked time)
  reporting time same := absurd same (reporting time)
  reported time tripped same := absurd same (reported time tripped)
  owed := by simp
  answered := by simp

theorem Sound.set {moved : Call} (sound : Sound settings state) (callSound : CallSound state moved)
    (nothing : pending settings moved = []) :
    Sound settings { state with calls := state.calls.set index moved } := by
  have before : ∀ moment ∈ outstanding settings
      { state with calls := state.calls.set index moved }, moment ∈ outstanding settings state := by
    intro moment member
    rcases mem_outstanding_set state index moved member with old | new
    · exact old
    · rw [nothing] at new
      contradiction
  refine ⟨sound.positive, fun moment member => sound.kept moment (before moment member),
    fun moment member => sound.uncached moment (before moment member), ?_⟩
  intro call member
  rcases List.mem_or_eq_of_mem_set member with old | rfl
  · exact (sound.calls call old).mono (le_refl _) fun _ => id
  · exact callSound.mono (le_refl _) fun _ => id

theorem Sound.put {stage : Stage} (sound : Sound settings state)
    (asked : ∀ time, stage ≠ .asked time) (reporting : ∀ time, stage ≠ .reporting time)
    (reported : ∀ time tripped, stage ≠ .reported time tripped) :
    Sound settings (put state index stage) := by
  apply sound.set (callSound_of_plain asked reporting reported)
  cases stage with
  | reported time tripped => exact absurd rfl (reported time tripped)
  | _ => rfl

/-! ### The steps of a call -/

theorem sound_check {argument : DateTime} (sound : Sound settings state)
    (member : call ∈ state.calls) (stage : call.stage = .asked argument) :
    Sound settings { state with
      redis := (checkState state.redis state.now argument).1
      calls := state.calls.set index
        ⟨.answered (checkState state.redis state.now argument).2, call.owed⟩ } := by
  have callSound := sound.calls call member
  have read := callSound.asked argument stage
  have script : ∀ moment ∈ outstanding settings state, state.now < moment →
      checkState state.redis state.now argument = (state.redis, .opened) :=
    fun moment owes before => checkState_of_keeps (sound.kept moment owes before) before read
  have moved : Sound settings { state with
      calls := state.calls.set index
        ⟨.answered (checkState state.redis state.now argument).2, call.owed⟩ } := by
    apply sound.set _ rfl
    refine ⟨by simp, by simp, by simp, callSound.owed, ?_⟩
    rintro answer ⟨⟩ moment owes before
    rw [script moment (List.mem_append_left _ (callSound.owed moment owes)) before]
  refine ⟨moved.positive, ?_, moved.uncached, fun other otherMember => ?_⟩
  · intro moment owes before
    have keeps := moved.kept moment owes before
    have unchanged := checkState_of_keeps keeps before read
    exact unchanged ▸ keeps
  · obtain ⟨asked, reporting, reported, owed, answered⟩ := moved.calls other otherMember
    exact ⟨asked, reporting, reported, owed, answered⟩

theorem sound_answer {answer : CircuitState} (sound : Sound settings state)
    (refilled : answer = .closed → 0 < settings.closedCacheTtl →
      ∀ moment ∈ outstanding settings state, moment ≤ state.now) :
    Sound settings (if answer = .closed ∧ 0 < settings.closedCacheTtl then
      { put state index (enter answer) with
        closedCacheUntil := state.now + settings.closedCacheTtl }
      else put state index (enter answer)) := by
  have moved : Sound settings (put state index (enter answer)) := by
    cases answer with
    | closed | opened => exact sound.put (by simp [enter]) (by simp [enter]) (by simp [enter])
  split
  · rename_i remembers
    refine ⟨moved.positive, moved.kept, ?_, fun other otherMember => ?_⟩
    · intro moment owes before
      rcases mem_outstanding_set state index ⟨enter answer, []⟩ owes with old | new
      · exact absurd (refilled remembers.1 remembers.2 moment old) (not_le_of_gt before)
      · cases answer <;> simp [pending, enter] at new
    · obtain ⟨asked, reporting, reported, owed, answered⟩ := moved.calls other otherMember
      exact ⟨asked, reporting, reported, owed, answered⟩
  · exact moved

theorem sound_success (sound : Sound settings state)
    (returned : ∀ other ∈ state.calls, ∀ moment ∈ pending settings other, moment ≤ state.now) :
    Sound settings { state with
      redis := recordSuccess state.redis state.now
      calls := (state.calls.set index ⟨.ended, []⟩).map fun call => { call with owed := [] }
      promises := [] } := by
  have nothing : ∀ moment ∈ outstanding settings { state with
      redis := recordSuccess state.redis state.now
      calls := (state.calls.set index ⟨.ended, []⟩).map fun call => { call with owed := [] }
      promises := [] }, moment ≤ state.now := by
    intro moment member
    simp only [outstanding, List.nil_append, List.flatMap_map] at member
    obtain ⟨other, otherMember, isPending⟩ := List.mem_flatMap.1 member
    rcases List.mem_or_eq_of_mem_set otherMember with old | rfl
    · exact returned other old moment isPending
    · simp [pending] at isPending
  refine ⟨sound.positive, fun moment owes before => ?_, fun moment owes before => ?_, ?_⟩
  · exact absurd (nothing moment owes) (not_le_of_gt before)
  · exact absurd (nothing moment owes) (not_le_of_gt before)
  · intro other otherMember
    obtain ⟨before, beforeMember, rfl⟩ := List.mem_map.1 otherMember
    rcases List.mem_or_eq_of_mem_set beforeMember with old | rfl
    · obtain ⟨asked, reporting, reported, _, _⟩ := sound.calls before old
      exact ⟨asked, reporting, reported, by simp, by simp⟩
    · exact callSound_of_plain (by simp) (by simp) (by simp)

theorem sound_failure {time : DateTime} (sound : Sound settings state)
    (member : call ∈ state.calls) (stage : call.stage = .reporting time)
    (emptied : trips settings state.redis state.now = true →
      state.now < time + settings.recoveryTimeout → state.closedCacheUntil ≤ state.now)
    (extended : trips settings state.redis state.now = true →
      ∀ moment ∈ outstanding settings state, state.now < moment →
        moment ≤ time + settings.recoveryTimeout) :
    Sound settings { put state index (.reported time (trips settings state.redis state.now)) with
      redis := (recordFailure settings state.redis state.now
        (time + settings.recoveryTimeout)).1 } := by
  have read := (sound.calls call member).reporting time stage
  have cases : ∀ moment ∈ outstanding settings
      (put state index (.reported time (trips settings state.redis state.now))),
      state.now < moment →
      (moment ∈ outstanding settings state) ∨
        trips settings state.redis state.now = true ∧ moment = time + settings.recoveryTimeout := by
    intro moment owes _
    rcases mem_outstanding_set state index
      ⟨.reported time (trips settings state.redis state.now), []⟩ owes with old | new
    · exact Or.inl old
    · cases tripped : trips settings state.redis state.now with
      | false => simp [pending, tripped] at new
      | true => exact Or.inr ⟨rfl, by simpa [pending, tripped] using new⟩
  refine ⟨sound.positive, fun moment owes before => ?_, fun moment owes before => ?_, ?_⟩
  · rcases cases moment owes before with old | ⟨tripped, rfl⟩
    · exact keeps_recordFailure read before (Or.inl (sound.kept moment old before))
        fun tripped => extended tripped moment old before
    · exact keeps_recordFailure read before (Or.inr tripped) fun _ => le_refl _
  · rcases cases moment owes before with old | ⟨tripped, rfl⟩
    · exact sound.uncached moment old before
    · exact emptied tripped before
  · intro other otherMember
    rcases List.mem_or_eq_of_mem_set otherMember with old | rfl
    · obtain ⟨asked, reporting, reported, owed, answered⟩ := sound.calls other old
      exact ⟨asked, reporting, reported, owed, answered⟩
    · refine ⟨by simp, by simp, ?_, by simp, by simp⟩
      rintro _ _ ⟨⟩
      exact read

theorem sound_return {time : DateTime} {tripped : Bool} (sound : Sound settings state)
    (member : call ∈ state.calls) (stage : call.stage = .reported time tripped) :
    Sound settings (if tripped then
      { put state index .ended with
        promises := (time + settings.recoveryTimeout) :: state.promises }
      else put state index .ended) := by
  have moved : Sound settings (put state index .ended) :=
    sound.put (by simp) (by simp) (by simp)
  split
  · rename_i isTripped
    have cases : ∀ moment ∈ outstanding settings { put state index .ended with
        promises := (time + settings.recoveryTimeout) :: state.promises },
        moment ∈ outstanding settings state := by
      intro moment owes
      rcases List.mem_cons.1 owes with rfl | owes
      · refine mem_outstanding_of_pending member ?_
        simp [pending, stage, isTripped]
      · rcases mem_outstanding_set state index ⟨.ended, []⟩ owes with old | new
        · exact old
        · simp [pending] at new
    refine ⟨sound.positive, fun moment owes => sound.kept moment (cases moment owes),
      fun moment owes => sound.uncached moment (cases moment owes), fun other otherMember => ?_⟩
    exact (moved.calls other otherMember).mono (le_refl _) fun _ => List.mem_cons_of_mem _
  · exact moved

theorem sound_advance (sound : Sound settings state) (found : state.calls[index]? = some call)
    (admitted : StepAdmitted settings state call) (outcome : Outcome) :
    Sound settings (advance settings state index outcome call) := by
  have member : call ∈ state.calls := List.mem_of_getElem? found
  have callSound := sound.calls call member
  unfold StepAdmitted at admitted
  unfold advance
  cases stage : call.stage with
  | unguarded => exact sound.put (by simp) (by simp) (by simp)
  | checking =>
      simp only
      split
      · exact sound.put (by simp) (by simp) (by simp)
      · exact sound.set ⟨by simp, by simp, by simp, fun _ => id, by simp⟩ rfl
  | asking =>
      refine sound.set ⟨?_, by simp, by simp, callSound.owed, by simp⟩ rfl
      rintro _ ⟨⟩
      exact le_refl _
  | asked time => exact sound_check sound member stage
  | answered answer =>
      refine sound_answer sound ?_
      rintro rfl
      simpa only [stage] using admitted
  | rejected | ended => exact sound
  | running =>
      cases outcome with
      | returned | failed | raised => exact sound.put (by simp) (by simp) (by simp)
  | succeeded =>
      simp only [stage] at admitted
      exact sound_success sound admitted
  | failing =>
      have moved : Sound settings (put state index .cleared) :=
        sound.put (by simp) (by simp) (by simp)
      refine ⟨moved.positive, moved.kept, fun _ _ _ => moved.positive, fun other otherMember => ?_⟩
      exact (moved.calls other otherMember).mono (le_refl _) fun _ => id
  | cleared =>
      refine sound.set ⟨by simp, ?_, by simp, by simp, by simp⟩ rfl
      rintro _ ⟨⟩
      exact le_refl _
  | reporting time =>
      simp only [stage] at admitted
      simp only [snd_recordFailure]
      exact sound_failure sound member stage (fun tripped => (admitted tripped).1)
        fun tripped => (admitted tripped).2
  | reported time tripped => exact sound_return sound member stage

theorem sound_step (event : Event) (sound : Sound settings state)
    (admitted : Admitted settings state event) : Sound settings (step settings state event) := by
  cases event with
  | pass amount =>
      have later : state.now ≤ state.now + (amount : Int) := by
        have arithmetic : ∀ now : Int, now ≤ now + (amount : Int) := by omega
        exact arithmetic state.now
      refine ⟨le_trans sound.positive later, fun moment owes before => ?_,
        fun moment owes before => ?_, fun call member => ?_⟩
      · exact sound.kept moment owes (lt_of_le_of_lt later before)
      · exact le_trans (sound.uncached moment owes (lt_of_le_of_lt later before)) later
      · exact (sound.calls call member).mono later fun _ => id
  | start =>
      have plain : ∀ stage ∈ [Stage.unguarded, Stage.checking],
          Sound settings { state with calls := state.calls ++ [⟨stage, []⟩] } := by
        intro stage isPlain
        have nothing : pending settings ⟨stage, []⟩ = [] := by
          rcases List.mem_pair.1 isPlain with rfl | rfl
          · rfl
          · rfl
        have same : outstanding settings { state with calls := state.calls ++ [⟨stage, []⟩] } =
            outstanding settings state := by
          simp [outstanding, nothing]
        refine ⟨sound.positive, same ▸ sound.kept, same ▸ sound.uncached, fun call member => ?_⟩
        rcases List.mem_append.1 member with old | new
        · exact (sound.calls call old).mono (le_refl _) fun _ => id
        · obtain rfl := List.mem_singleton.1 new
          rcases List.mem_pair.1 isPlain with rfl | rfl
          · exact callSound_of_plain (by simp) (by simp) (by simp)
          · exact callSound_of_plain (by simp) (by simp) (by simp)
      simp only [step]
      split
      · exact plain _ (by simp)
      · exact plain _ (by simp)
  | advance index outcome =>
      simp only [step]
      cases found : state.calls[index]? with
      | none => exact sound
      | some call => exact sound_advance sound found (admitted call found) outcome

end Soundness

/-- In every run whose steps keep the promises, every check that begins after a trip was returned
returns `OPEN` until the recovery timeout has run or a success is recorded. -/
theorem trips_honoured (settings : BreakerSettings) (redis : Redis) (now : Nat)
    (events : List Event)
    (admitted : Along (step settings) (Admitted settings) (made redis now) events) :
    Along (step settings) (Honours settings) (made redis now) events :=
  admitted.of_invariant (Sound settings) (sound_made redis now)
    (fun _ event sound => sound_step event sound) fun _ event sound _ => honours_of_sound sound event

/-! ## A trip that is forgotten -/

def tripsAtOnce : BreakerSettings :=
  ⟨1, 30000000, 60⟩

def emptyRedis : Redis :=
  ⟨none, none, none⟩

/-- A call takes some steps. -/
def advances (index count : Nat) (outcome : Outcome) : List Event :=
  List.replicate count (.advance index outcome)

def rejectedRun : List Event :=
  .start :: advances 0 9 .failed ++ .start :: advances 1 4 .failed

/-- The check of the second call is answered before the first call fails, and remembers the
closed state after the trip was returned.  Then a third call begins. -/
def refilledRun : List Event :=
  [.start, .start] ++ advances 1 3 .failed ++ advances 0 9 .failed ++ advances 1 1 .failed ++
    .start :: advances 2 1 .failed

theorem trips_honoured_rejectedRun :
    Along (step tripsAtOnce) (Honours tripsAtOnce) (made emptyRedis 1) rejectedRun :=
  trips_honoured tripsAtOnce emptyRedis 1 rejectedRun (by decide)

/-- The third call is let through, although the trip before it still binds. -/
theorem trip_forgotten :
    ¬ Along (step tripsAtOnce) (Honours tripsAtOnce) (made emptyRedis 1) refilledRun := by
  decide

end CircuitBreaker

end WebhookWise
