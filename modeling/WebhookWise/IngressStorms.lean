import WebhookWise.DocumentKeys
import WebhookWise.RateLimits
import WebhookWise.WebhookSecurity

/-!
# Storms at the ingress

Before a request is queued, it is counted in Redis under the identity of its alert, and turned
away once the counter is over a threshold.  The window of a counter begins with the first request
that it counts.
-/

namespace WebhookWise

namespace IngressStorms

open EcosystemAdapters IdentityKeys RateLimits WebhookBoundary WebhookNormalization

/-! ## The check -/

/-- What the identity of a request is computed with. -/
structure IngressRuntime where
  adapters : AdapterRuntime
  keys : KeySettings String
  /-- `json.loads` of bytes; `none` stands for a `JSONDecodeError`. -/
  jsonLoads : Bytes → Option Json
  /-- `hashlib.sha256(message).hexdigest()`. -/
  sha256Hexdigest : Bytes → String

variable (runtime : IngressRuntime)

def fallbackBodyHash (source : String) (rawBody : Bytes) : String :=
  "body:" ++ runtime.sha256Hexdigest (encodeUtf8 source ++ 0 :: rawBody)

/-- `_ingress_identity`, which lets an `IndexError` through. -/
def ingressIdentity (sourceHint : String) (rawBody : Bytes) (namespaceText : Option String) :
    Except Raised String :=
  match runtime.jsonLoads rawBody with
  | some (.dict (entry :: entries)) =>
      match normalizeWebhookEvent runtime.adapters (.dict (entry :: entries)) (some sourceHint)
          none with
      | .ok norm =>
          .ok ("alert:" ++ generateAlertHash runtime.keys norm.data norm.source namespaceText)
      | .error .indexError => .error .indexError
      | .error _ => .ok (fallbackBodyHash runtime sourceHint rawBody)
  | _ => .ok (fallbackBodyHash runtime sourceHint rawBody)

structure IngressPolicy where
  threshold : Nat
  windowSeconds : Nat
  failOpenOnRedisError : Bool

def IngressPolicy.fromConfig (threshold windowSeconds : Int) (failOpen : Bool) : IngressPolicy where
  threshold := (max 0 threshold).toNat
  windowSeconds := (max 1 windowSeconds).toNat
  failOpenOnRedisError := failOpen

/-- How the call of the script ends.  One that fails may have been counted. -/
inductive ScriptOutcome where
  | unavailable
  | failed (ran : Bool)
  | answered

def ScriptOutcome.ran : ScriptOutcome → Bool
  | .unavailable => false
  | .failed ran => ran
  | .answered => true

structure Request where
  time : ℚ
  policy : IngressPolicy
  sourceHint : String
  rawBody : Bytes
  namespaceText : Option String
  outcome : ScriptOutcome

structure IngressBackpressureResult where
  suppressed : Bool
  key : String
  count : Nat
  threshold : Nat
  reason : String
deriving DecidableEq

/-- `_INGRESS_COUNTER_LUA`. -/
def ingressCounter (redis : Redis) (now : ℚ) (key : String) (seconds : Nat) : Redis × Nat :=
  let counted := incr redis now key
  let value := count counted now key
  (if value = 1 then expire counted now key seconds else counted, value)

def degraded (policy : IngressPolicy) (key : String) : IngressBackpressureResult :=
  if policy.failOpenOnRedisError then
    ⟨false, key, 0, policy.threshold, "redis_unavailable_fail_open"⟩
  else ⟨true, key, 0, policy.threshold, "redis_unavailable"⟩

def countUnder (redis : Redis) (request : Request) (key : String) :
    Redis × IngressBackpressureResult :=
  let policy := request.policy
  let (counted, value) := ingressCounter redis request.time key policy.windowSeconds
  match request.outcome with
  | .unavailable => (redis, degraded policy key)
  | .failed ran => (if ran then counted else redis, degraded policy key)
  | .answered =>
      let suppressed := decide (policy.threshold < value)
      (counted, ⟨suppressed, key, value, policy.threshold,
        if suppressed then "ingress_storm_backpressure" else ""⟩)

def checkIngressBackpressure (redis : Redis) (request : Request) :
    Redis × Except Raised IngressBackpressureResult :=
  if request.policy.threshold = 0 then
    (redis, .ok ⟨false, "", 0, request.policy.threshold, ""⟩)
  else
    match ingressIdentity runtime request.sourceHint request.rawBody request.namespaceText with
    | .error raised => (redis, .error raised)
    | .ok identity => (countUnder redis request ("ingress:webhook:" ++ identity)).map id .ok

def received (redis : Redis) (requests : List Request) : Redis :=
  requests.foldl (fun redis request => (checkIngressBackpressure runtime redis request).1) redis

/-! ## The counter of a key -/

variable {redis : Redis} {counter : Counter}

section Counter

variable {redis : Redis} {now : ℚ} {key other : String} {seconds : Nat}

theorem count_incr : count (incr redis now key) now key = count redis now key + 1 := by
  rw [count, live_incr]

theorem ingressCounter_of_ne (different : other ≠ key) :
    (ingressCounter redis now key seconds).1 other = redis other := by
  simp only [ingressCounter]
  split
  · unfold expire incr
    rw [Function.update_of_ne different, Function.update_of_ne different]
  · unfold incr
    rw [Function.update_of_ne different]

/-- A counter that was not there expires after the window. -/
theorem ingressCounter_first (empty : count redis now key = 0) :
    (ingressCounter redis now key seconds).1 key = some ⟨1, some (now + seconds)⟩ := by
  simp only [ingressCounter, count_incr, empty, Nat.zero_add, if_true]
  unfold expire
  rw [Function.update_self, live_incr, empty]
  rfl

theorem ingressCounter_next (found : live redis now key = some counter)
    (nonzero : counter.value ≠ 0) :
    (ingressCounter redis now key seconds).1 key =
      some ⟨counter.value + 1, counter.expiresAt⟩ := by
  have counted : count redis now key = counter.value := by
    rw [count, found]
  simp only [ingressCounter, count_incr, counted, Nat.add_eq_right, nonzero, if_false]
  unfold incr
  rw [Function.update_self, counted, found]
  rfl

end Counter

section Checks

variable (runtime : IngressRuntime) (key : String) (request : Request)

def Request.key? : Option String :=
  if request.policy.threshold = 0 then none
  else
    match ingressIdentity runtime request.sourceHint request.rawBody request.namespaceText with
    | .ok identity => some ("ingress:webhook:" ++ identity)
    | .error _ => none

def Request.isCounted : Bool :=
  request.key? runtime = some key && request.outcome.ran

variable {runtime key request}

theorem check_of_key (found : request.key? runtime = some key) :
    checkIngressBackpressure runtime redis request =
      (countUnder redis request key).map id .ok := by
  unfold Request.key? at found
  unfold checkIngressBackpressure
  split at found
  · cases found
  · rename_i enabled
    rw [if_neg enabled]
    split at found
    · rename_i identity identified
      cases found
      rw [identified]
    · cases found

theorem check_of_no_key (missing : request.key? runtime = none) :
    (checkIngressBackpressure runtime redis request).1 = redis ∧
      ∀ result, (checkIngressBackpressure runtime redis request).2 = .ok result →
        result.reason = "" := by
  unfold Request.key? at missing
  unfold checkIngressBackpressure
  split at missing
  · rename_i disabled
    rw [if_pos disabled]
    exact ⟨rfl, fun result checked => Except.ok.inj checked ▸ rfl⟩
  · rename_i enabled
    rw [if_neg enabled]
    split at missing
    · cases missing
    · rename_i raised identified
      rw [identified]
      exact ⟨rfl, fun result checked => by cases checked⟩

theorem threshold_of_key (found : request.key? runtime = some key) :
    request.policy.threshold ≠ 0 := by
  intro disabled
  rw [Request.key?, if_pos disabled] at found
  cases found

theorem check_fst (found : request.key? runtime = some key) :
    (checkIngressBackpressure runtime redis request).1 =
      if request.outcome.ran then
        (ingressCounter redis request.time key request.policy.windowSeconds).1
      else redis := by
  rw [check_of_key found, Prod.map_fst, id_eq, countUnder]
  cases request.outcome <;> rfl

theorem check_key_of_counted (counted : request.isCounted runtime key = true) :
    (checkIngressBackpressure runtime redis request).1 key =
      (ingressCounter redis request.time key request.policy.windowSeconds).1 key := by
  simp only [Request.isCounted, Bool.and_eq_true, decide_eq_true_eq] at counted
  rw [check_fst counted.1, if_pos counted.2]

theorem check_key_of_not_counted (uncounted : request.isCounted runtime key = false) :
    (checkIngressBackpressure runtime redis request).1 key = redis key := by
  cases found : request.key? runtime with
  | none => rw [(check_of_no_key found).1]
  | some other =>
      rw [check_fst found]
      split
      · rename_i ran
        refine ingressCounter_of_ne ?_
        rintro rfl
        simp [Request.isCounted, found, ran] at uncounted
      · rfl

end Checks

/-! ## What a storm is -/

variable {request : Request}

section Storms

variable {runtime : IngressRuntime} {key : String}

/-- The counter has counted the requests since one of them, and expires a window after that. -/
def CountsSince (runtime : IngressRuntime) (key : String) (seen : List Request)
    (counter : Counter) : Prop :=
  ∃ earlier first rest, seen = earlier ++ first :: rest ∧ first.isCounted runtime key = true ∧
    counter.expiresAt = some (first.time + (first.policy.windowSeconds : ℚ)) ∧
    counter.value = (first :: rest).countP (Request.isCounted runtime key)

theorem CountsSince.nonzero {seen : List Request} (since : CountsSince runtime key seen counter) :
    counter.value ≠ 0 := by
  obtain ⟨earlier, first, rest, -, counted, -, value⟩ := since
  rw [value, List.countP_cons_of_pos counted]
  exact Nat.succ_ne_zero _

theorem countsSince_check {seen : List Request} (request : Request)
    (since : ∀ counter, redis key = some counter → CountsSince runtime key seen counter) :
    ∀ counter, (checkIngressBackpressure runtime redis request).1 key = some counter →
      CountsSince runtime key (seen ++ [request]) counter := by
  intro counter found
  cases counted : request.isCounted runtime key with
  | false =>
      rw [check_key_of_not_counted counted] at found
      obtain ⟨earlier, first, rest, rfl, opens, expires, value⟩ := since counter found
      refine ⟨earlier, first, rest ++ [request], by simp, opens, expires, ?_⟩
      rw [value, ← List.cons_append, List.countP_append]
      simp [counted]
  | true =>
      rw [check_key_of_counted counted] at found
      cases alive : live redis request.time key with
      | none =>
          rw [ingressCounter_first (by rw [count, alive])] at found
          cases found
          exact ⟨seen, request, [], rfl, counted, rfl, by simp [counted]⟩
      | some former =>
          have stored : redis key = some former := (Option.filter_eq_some_iff.1 alive).1
          have formerSince := since former stored
          rw [ingressCounter_next alive formerSince.nonzero] at found
          cases found
          obtain ⟨earlier, first, rest, rfl, opens, expires, value⟩ := formerSince
          refine ⟨earlier, first, rest ++ [request], by simp, opens, expires, ?_⟩
          rw [← List.cons_append, List.countP_append]
          simp [counted, value]

theorem countsSince_received (requests : List Request) :
    ∀ counter, received runtime (fun _ => none) requests key = some counter →
      CountsSince runtime key requests counter := by
  induction requests using List.reverseRecOn with
  | nil =>
      intro counter found
      cases found
  | append_singleton requests request ih =>
      unfold received at ih ⊢
      rw [List.foldl_append]
      exact countsSince_check request ih

theorem counted_of_reason {suppressed : Bool} {number threshold : Nat}
    (turnedAway : (checkIngressBackpressure runtime redis request).2 =
      .ok ⟨suppressed, key, number, threshold, "ingress_storm_backpressure"⟩) :
    request.isCounted runtime key = true ∧ request.policy.threshold ≠ 0 ∧
      request.policy.threshold < count redis request.time key + 1 := by
  have noStorm : ∀ policy other, degraded policy other ≠
      ⟨suppressed, key, number, threshold, "ingress_storm_backpressure"⟩ := by
    intro policy other
    unfold degraded
    split <;> simp
  cases found : request.key? runtime with
  | none =>
      have reason := (check_of_no_key found).2 _ turnedAway
      simp at reason
  | some other =>
      rw [check_of_key found, Prod.map_snd, countUnder] at turnedAway
      cases outcome : request.outcome with
      | unavailable | failed =>
          rw [outcome] at turnedAway
          exact absurd (Except.ok.inj turnedAway) (noStorm _ _)
      | answered =>
          simp only [outcome, ingressCounter, count_incr, Except.ok.injEq,
            IngressBackpressureResult.mk.injEq] at turnedAway
          obtain ⟨-, rfl, -, -, storm⟩ := turnedAway
          exact ⟨by simp [Request.isCounted, found, outcome, ScriptOutcome.ran],
            threshold_of_key found,
            by simpa using storm⟩

/-- A request is turned away for a storm only after more requests than the threshold were counted
under its key, itself among them, since one whose window is still open. -/
theorem counted_of_storm (runtime : IngressRuntime) (before : List Request) (request : Request)
    {suppressed : Bool} {number threshold : Nat}
    (turnedAway : (checkIngressBackpressure runtime
      (received runtime (fun _ => none) before) request).2 =
        .ok ⟨suppressed, key, number, threshold, "ingress_storm_backpressure"⟩) :
    ∃ earlier first rest, before ++ [request] = earlier ++ first :: rest ∧
      first.isCounted runtime key = true ∧
      request.time < first.time + first.policy.windowSeconds ∧
      request.policy.threshold <
        (first :: rest).countP (Request.isCounted runtime key) := by
  obtain ⟨counted, enabled, value⟩ := counted_of_reason turnedAway
  have stored : received runtime (fun _ => none) (before ++ [request]) key =
      (ingressCounter (received runtime (fun _ => none) before) request.time key
        request.policy.windowSeconds).1 key := by
    rw [received, List.foldl_append]
    exact check_key_of_counted counted
  cases alive : live (received runtime (fun _ => none) before) request.time key with
  | none =>
      have empty : count (received runtime (fun _ => none) before) request.time key = 0 := by
        rw [count, alive]
      omega
  | some counter =>
      obtain ⟨found, open'⟩ := Option.filter_eq_some_iff.1 alive
      have since := countsSince_received before counter found
      rw [ingressCounter_next alive since.nonzero] at stored
      obtain ⟨earlier, first, rest, split, opens, expires, total⟩ :=
        countsSince_received (before ++ [request]) _ stored
      refine ⟨earlier, first, rest, split, opens, ?_, ?_⟩
      · rw [show counter.expiresAt = _ from expires] at open'
        exact of_decide_eq_true open'
      · rw [← total]
        rw [count, alive] at value
        exact value

end Storms

/-! ## How many requests pass -/

section Admissions

variable {runtime : IngressRuntime} {key : String} {start : ℚ} {policy : IngressPolicy}

def isAdmitted : Except Raised IngressBackpressureResult → Bool
  | .ok result => ! result.suppressed
  | .error _ => false

/-- How many requests pass under a key within the length of a window from a start. -/
def admittedSince (runtime : IngressRuntime) (key : String) (start : ℚ) (policy : IngressPolicy) :
    Redis → List Request → Nat
  | _, [] => 0
  | redis, request :: requests =>
      (if start ≤ request.time ∧ request.time < start + policy.windowSeconds ∧
          request.key? runtime = some key ∧
          isAdmitted (checkIngressBackpressure runtime redis request).2 = true then 1 else 0) +
        admittedSince runtime key start policy
          (checkIngressBackpressure runtime redis request).1 requests

/-- How many more may pass: what is left of the open counter and, if that expires within the
length of a window from the start, one more threshold. -/
def allowance (start : ℚ) (policy : IngressPolicy) (redis : Redis) (now : ℚ) (key : String) :
    Nat :=
  match live redis now key with
  | none => policy.threshold
  | some counter => policy.threshold - counter.value +
      if counter.expiresAt.all fun expiresAt => start + policy.windowSeconds ≤ expiresAt then 0
      else policy.threshold

theorem allowance_le (redis : Redis) (now : ℚ) :
    allowance start policy redis now key ≤ 2 * policy.threshold := by
  unfold allowance
  split
  · omega
  · split <;> omega

theorem live_of_later {now later : ℚ} (ordered : now ≤ later)
    (alive : live redis later key = some counter) : live redis now key = some counter := by
  obtain ⟨found, unexpired⟩ := Option.filter_eq_some_iff.1 alive
  refine Option.filter_eq_some_iff.2 ⟨found, ?_⟩
  cases expires : counter.expiresAt with
  | none => rfl
  | some expiresAt =>
      rw [expires] at unexpired
      exact decide_eq_true (ordered.trans_lt (of_decide_eq_true unexpired))

theorem allowance_later {now later : ℚ} (ordered : now ≤ later)
    (within : later < start + policy.windowSeconds) :
    allowance start policy redis later key ≤ allowance start policy redis now key := by
  cases alive : live redis later key with
  | some counter => rw [allowance, allowance, alive, live_of_later ordered alive]
  | none =>
      cases aliveNow : live redis now key with
      | none => rw [allowance, allowance, alive, aliveNow]
      | some counter =>
          have ends : ¬ (counter.expiresAt.all fun expiresAt =>
              start + policy.windowSeconds ≤ expiresAt) = true := by
            intro reaches
            have found := (Option.filter_eq_some_iff.1 aliveNow).1
            refine Option.filter_eq_none_iff.1 alive counter found ?_
            cases expires : counter.expiresAt with
            | none => rfl
            | some expiresAt =>
                rw [expires] at reaches
                exact decide_eq_true (within.trans_le (of_decide_eq_true reaches))
          rw [allowance, allowance, alive, aliveNow]
          dsimp only
          rw [if_neg ends]
          exact Nat.le_add_left _ _

theorem allowance_congr {first second : Redis} (same : first key = second key) (now : ℚ) :
    allowance start policy first now key = allowance start policy second now key := by
  unfold allowance live
  rw [same]

theorem counted_of_admitted (closed : request.policy.failOpenOnRedisError = false)
    (found : request.key? runtime = some key)
    (admitted : isAdmitted (checkIngressBackpressure runtime redis request).2 = true) :
    request.isCounted runtime key = true ∧
      count redis request.time key + 1 ≤ request.policy.threshold := by
  rw [check_of_key found, Prod.map_snd, countUnder] at admitted
  cases outcome : request.outcome with
  | unavailable | failed => simp [outcome, degraded, closed, isAdmitted] at admitted
  | answered =>
      rw [outcome] at admitted
      simp only [isAdmitted, ingressCounter, count_incr, Bool.not_eq_true', decide_eq_false_iff_not,
        not_lt] at admitted
      exact ⟨by simp [Request.isCounted, found, outcome, ScriptOutcome.ran], admitted⟩

theorem allowance_counted {now : ℚ} (begun : start ≤ now)
    (within : now < start + policy.windowSeconds) :
    (if count redis now key + 1 ≤ policy.threshold then 1 else 0) +
        allowance start policy (ingressCounter redis now key policy.windowSeconds).1 now key ≤
      allowance start policy redis now key := by
  by_cases empty : count redis now key = 0
  · have fresh : live (ingressCounter redis now key policy.windowSeconds).1 now key =
        some ⟨1, some (now + policy.windowSeconds)⟩ := by
      refine Option.filter_eq_some_iff.2 ⟨ingressCounter_first empty, decide_eq_true ?_⟩
      linarith
    have reaches : start + (policy.windowSeconds : ℚ) ≤ now + policy.windowSeconds := by
      linarith
    have room : policy.threshold ≤ allowance start policy redis now key := by
      unfold allowance
      cases alive : live redis now key with
      | none => exact le_rfl
      | some counter =>
          have zero : counter.value = 0 := by
            rw [count, alive] at empty
            exact empty
          dsimp only
          rw [zero, Nat.sub_zero]
          exact Nat.le_add_right _ _
    refine le_trans ?_ room
    rw [allowance, fresh, empty]
    simp only [Option.all_some, reaches, decide_true, if_true]
    split <;> omega
  · cases alive : live redis now key with
    | none => exact absurd (by rw [count, alive]) empty
    | some counter =>
        have counted : count redis now key = counter.value := by
          rw [count, alive]
        have unexpired := (Option.filter_eq_some_iff.1 alive).2
        have next : live (ingressCounter redis now key policy.windowSeconds).1 now key =
            some ⟨counter.value + 1, counter.expiresAt⟩ :=
          Option.filter_eq_some_iff.2
            ⟨ingressCounter_next alive (by rwa [counted] at empty), unexpired⟩
        rw [allowance, allowance, next, alive, counted]
        dsimp only
        split <;> omega

/-- One more request within the span. -/
theorem allowance_check (same : request.policy = policy)
    (closed : policy.failOpenOnRedisError = false) (begun : start ≤ request.time)
    (within : request.time < start + policy.windowSeconds) :
    (if request.key? runtime = some key ∧
        isAdmitted (checkIngressBackpressure runtime redis request).2 = true then 1 else 0) +
        allowance start policy (checkIngressBackpressure runtime redis request).1
          request.time key ≤
      allowance start policy redis request.time key := by
  subst same
  cases counted : request.isCounted runtime key with
  | false =>
      have turnedAway : ¬ (request.key? runtime = some key ∧
          isAdmitted (checkIngressBackpressure runtime redis request).2 = true) := by
        rintro ⟨found, admitted⟩
        rw [(counted_of_admitted closed found admitted).1] at counted
        cases counted
      rw [if_neg turnedAway, Nat.zero_add,
        allowance_congr (check_key_of_not_counted counted) request.time]
  | true =>
      rw [allowance_congr (check_key_of_counted counted) request.time]
      refine le_trans (Nat.add_le_add_right ?_ _) (allowance_counted begun within)
      split
      · rename_i passes
        rw [if_pos (counted_of_admitted closed passes.1 passes.2).2]
      · exact Nat.zero_le _

theorem admittedSince_of_beyond {requests : List Request}
    (beyond : ∀ request ∈ requests, start + policy.windowSeconds ≤ request.time)
    (redis : Redis) :
    admittedSince runtime key start policy redis requests = 0 := by
  induction requests generalizing redis with
  | nil => rfl
  | cons request requests ih =>
      have late := beyond request List.mem_cons_self
      rw [admittedSince, if_neg (fun passes => absurd passes.2.1 (not_lt.2 late)),
        ih (fun other member => beyond other (List.mem_cons_of_mem _ member))]

theorem admittedSince_le_allowance (closed : policy.failOpenOnRedisError = false)
    {requests : List Request} (same : ∀ request ∈ requests, request.policy = policy)
    (ordered : requests.Pairwise fun first second => first.time ≤ second.time) {now : ℚ}
    (begun : start ≤ now) (later : ∀ request ∈ requests, now ≤ request.time) :
    admittedSince runtime key start policy redis requests ≤
      allowance start policy redis now key := by
  induction requests generalizing redis now with
  | nil => exact Nat.zero_le _
  | cons request requests ih =>
      obtain ⟨afterRequest, othersOrdered⟩ := List.pairwise_cons.1 ordered
      have arrives := later request List.mem_cons_self
      by_cases within : request.time < start + policy.windowSeconds
      · have others : admittedSince runtime key start policy
            (checkIngressBackpressure runtime redis request).1 requests ≤
              allowance start policy (checkIngressBackpressure runtime redis request).1
                request.time key :=
          ih (fun other member => same other (List.mem_cons_of_mem _ member)) othersOrdered
            (begun.trans arrives) afterRequest
        have one : (if request.key? runtime = some key ∧
            isAdmitted (checkIngressBackpressure runtime redis request).2 = true then 1 else 0) +
              allowance start policy (checkIngressBackpressure runtime redis request).1
                request.time key ≤
            allowance start policy redis request.time key :=
          allowance_check (same request List.mem_cons_self) closed (begun.trans arrives) within
        have waited : allowance start policy redis request.time key ≤
            allowance start policy redis now key :=
          allowance_later arrives within
        simp only [admittedSince, begun.trans arrives, within, true_and]
        omega
      · have beyond : ∀ other ∈ request :: requests,
            start + (policy.windowSeconds : ℚ) ≤ other.time := by
          intro other member
          rcases List.mem_cons.1 member with rfl | member
          · exact not_lt.1 within
          · exact (not_lt.1 within).trans (afterRequest other member)
        rw [admittedSince_of_beyond beyond]
        exact Nat.zero_le _

/-- Where an error of Redis turns a request away, no more than twice the threshold pass under a key
within the length of a window, whichever scripts fail and whether or not those have counted. -/
theorem admittedSince_le_two_mul_threshold (runtime : IngressRuntime) (key : String) (start : ℚ)
    (closed : policy.failOpenOnRedisError = false) {requests : List Request}
    (same : ∀ request ∈ requests, request.policy = policy)
    (ordered : requests.Pairwise fun first second => first.time ≤ second.time) (redis : Redis) :
    admittedSince runtime key start policy redis requests ≤ 2 * policy.threshold := by
  induction requests generalizing redis with
  | nil => exact Nat.zero_le _
  | cons request requests ih =>
      obtain ⟨afterRequest, othersOrdered⟩ := List.pairwise_cons.1 ordered
      by_cases begun : start ≤ request.time
      · refine (admittedSince_le_allowance closed same ordered begun ?_).trans
          (allowance_le redis request.time)
        intro other member
        rcases List.mem_cons.1 member with rfl | member
        · exact le_rfl
        · exact afterRequest other member
      · rw [admittedSince, if_neg (fun passes => begun passes.1), Nat.zero_add]
        exact ih (fun other member => same other (List.mem_cons_of_mem _ member)) othersOrdered _

end Admissions

/-! ## A storm -/

def sampleRuntime : IngressRuntime where
  adapters := plainAdapters
  keys :=
    { python := .plain
      digest := fun _ => ""
      resourceDedupBucket := fun _ => none
      fingerprintMode := .off
      fingerprintFields := fun _ => []
      excludedLabels := fun _ => [] }
  jsonLoads _ := none
  sha256Hexdigest message := String.ofList (message.map fun byte => Char.ofNat byte.toNat)

/-- One request in a minute may pass. -/
def samplePolicy : IngressPolicy :=
  .fromConfig 1 60 false

def sampleRequest (time : ℚ) (outcome : ScriptOutcome) : Request :=
  ⟨time, samplePolicy, "probe", encodeUtf8 "ping", none, outcome⟩

theorem counted_of_storm_sample :
    ∃ earlier first rest,
      [sampleRequest 0 (.failed true)] ++ [sampleRequest 59 .answered] =
          earlier ++ first :: rest ∧
        first.isCounted sampleRuntime "ingress:webhook:body:probe\x00ping" = true ∧
        (59 : ℚ) < first.time + first.policy.windowSeconds ∧
        1 < (first :: rest).countP
          (Request.isCounted sampleRuntime "ingress:webhook:body:probe\x00ping") :=
  counted_of_storm sampleRuntime [sampleRequest 0 (.failed true)] (sampleRequest 59 .answered)
    (show _ = Except.ok (IngressBackpressureResult.mk true _ 2 1 _) by decide +kernel)

theorem admittedSince_sample_le :
    admittedSince sampleRuntime "ingress:webhook:body:probe\x00ping" 30 samplePolicy
        (fun _ => none)
        [sampleRequest 0 .answered, sampleRequest 61 .answered, sampleRequest 62 (.failed true)] ≤
      2 * samplePolicy.threshold :=
  admittedSince_le_two_mul_threshold sampleRuntime _ 30 rfl (by simp [sampleRequest])
    (by simp only [List.pairwise_cons]; norm_num [sampleRequest]) _

end IngressStorms

end WebhookWise
