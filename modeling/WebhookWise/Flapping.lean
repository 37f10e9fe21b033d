import Mathlib.Data.List.Chain
import WebhookWise.ExpiringKeys
import WebhookWise.IncidentAlerts

/-!
# Alerts that flap

A script remembers the last status of an identity, adds each change to a sorted set, prunes the set
to a window and counts what is left.  Redis and the observations have the same clock here, and Lua's
numbers, which are doubles, are exact for times and windows.
-/

namespace WebhookWise

namespace Flapping

open ExpiringKeys IncidentGrouping

/-- What is read of the configuration, which requires a positive window. -/
structure FlappingPolicy where
  windowMinutes : Nat
  minTransitions : Nat
  windowMinutes_pos : 0 < windowMinutes

def FlappingPolicy.windowMs (policy : FlappingPolicy) : Int :=
  policy.windowMinutes * 60 * 1000

theorem FlappingPolicy.windowMs_pos (policy : FlappingPolicy) : 0 < policy.windowMs := by
  have positive := policy.windowMinutes_pos
  unfold windowMs
  omega

/-- What a call of `observe_flapping` is given; the time in whole milliseconds since 1970, and
the nonce which the call draws. -/
structure Observation where
  source : String
  parsedData : Option Json
  aiAnalysis : Option Json
  nowMs : Nat
  nonce : String

structure FlappingStatus where
  identity : String
  flips : Nat
  flapping : Bool
deriving DecidableEq

/-- The strings and the sorted sets of the Redis database. -/
structure Store where
  strings : Keyspace String
  sortedSets : Keyspace (SortedSet String)

def activeFlappingKey : String :=
  "flap:active"

def lastKey (digest : String) : String :=
  "flap:last:" ++ digest

def flipsKey (digest : String) : String :=
  "flap:flips:" ++ digest

def flipMember (nowMs : Nat) (nonce : String) : String :=
  toString nowMs ++ "-" ++ nonce

/-- The first lines of the script: a status that differs from the last one is a change. -/
def addFlip (sets : Keyspace (SortedSet String)) (last : Option String) (digest : String)
    (nowMs : Nat) (status nonce : String) : Keyspace (SortedSet String) :=
  match last with
  | none => sets
  | some last =>
      if last = status then sets
      else zadd sets nowMs (flipsKey digest) ⟨nowMs, flipMember nowMs nonce⟩

def observeLua (store : Store) (digest : String) (nowMs : Nat) (status : String)
    (windowMs : Int) (minTransitions : Nat) (identity nonce : String) : Store × Nat :=
  let now : Int := nowMs
  let last := get store.strings now (lastKey digest)
  let flipped := addFlip store.sortedSets last digest nowMs status nonce
  let strings := setPx store.strings now (lastKey digest) status (windowMs * 4)
  let pruned := zremrangebyscore flipped now (flipsKey digest) 0 (now - windowMs)
  let kept := pexpire pruned now (flipsKey digest) (windowMs * 4)
  let flips := zcard kept now (flipsKey digest)
  let marked :=
    if minTransitions ≤ flips then
      pexpire (zadd kept now activeFlappingKey ⟨now + windowMs, identity⟩) now activeFlappingKey
        (windowMs * 8)
    else kept
  (⟨strings, marked⟩, flips)

variable (python : PythonRuntime)

def ruleComponent (parsedData : Option Json) : String :=
  strip (firstTruthyText python (entriesOf parsedData) ["RuleName", "AlertName", "alert_name"])

def flapIdentity (source : String) (parsedData : Option Json) : String :=
  let rule := ruleComponent python parsedData
  (if source = "" then "unknown" else source) ++ "::" ++ (if rule = "" then "unknown" else rule)

namespace Observation

variable (call : Observation)

def status : String :=
  if isRecoveryPayload python call.parsedData call.aiAnalysis then "recovery" else "firing"

def identity : String :=
  flapIdentity python call.source call.parsedData

end Observation

variable (digestOf : String → String)

/-- `observe_flapping`; `digestOf` is `_digest`. -/
def observeFlapping (policy : FlappingPolicy) (store : Store) (call : Observation) :
    Store × FlappingStatus :=
  let identity := call.identity python
  if ruleComponent python call.parsedData = "" then (store, ⟨identity, 0, false⟩)
  else
    let (after, flips) := observeLua store (digestOf identity) call.nowMs (call.status python)
      policy.windowMs policy.minTransitions identity call.nonce
    (after, ⟨identity, flips, decide (policy.minTransitions ≤ flips)⟩)

def observeAll (policy : FlappingPolicy) (store : Store) (calls : List Observation) : Store :=
  calls.foldl (fun store call => (observeFlapping python digestOf policy store call).1) store

/-! ## The reference -/

/-- The calls whose status differs from that of the call before. -/
def changes : List Observation → List Observation
  | [] => []
  | [_] => []
  | first :: second :: calls =>
      (if first.status python = second.status python then [] else [second]) ++
        changes (second :: calls)

def changesAfter (calls : List Observation) (time : Int) : Nat :=
  (changes python calls).countP fun call => time < call.nowMs

/-- The calls are about one alert with a rule, their times do not decrease, each is less than
four windows after the one before, and no nonce is drawn twice. -/
structure Recorded (policy : FlappingPolicy) (identity : String) (calls : List Observation) :
    Prop where
  named : ∀ call ∈ calls, ruleComponent python call.parsedData ≠ ""
  same : ∀ call ∈ calls, call.identity python = identity
  timely : calls.IsChain fun first second =>
    first.nowMs ≤ second.nowMs ∧ (second.nowMs : Int) < first.nowMs + policy.windowMs * 4
  drawn : (calls.map Observation.nonce).Nodup

/-! ## The script -/

theorem flipsKey_ne_activeFlappingKey (digest : String) : activeFlappingKey ≠ flipsKey digest := by
  intro same
  have characters := congrArg String.toList same
  simp [activeFlappingKey, flipsKey] at characters

section Script

variable {store : Store} {digest status identity nonce : String} {nowMs : Nat} {windowMs : Int}
  {minTransitions : Nat} {previous : Option String} {recorded : SortedSet String}

/-- The change that an observation adds to the recorded ones. -/
def newFlips (previous : Option String) (nowMs : Nat) (status nonce : String) :
    SortedSet String :=
  if previous.all fun last => last = status then [] else [⟨nowMs, flipMember nowMs nonce⟩]

theorem entries_addFlip {sets : Keyspace (SortedSet String)}
    (listed : entries sets nowMs (flipsKey digest) = recorded)
    (fresh : ∀ entry ∈ recorded, entry.member ≠ flipMember nowMs nonce) :
    entries (addFlip sets previous digest nowMs status nonce) nowMs (flipsKey digest) =
      recorded ++ newFlips previous nowMs status nonce := by
  cases previous with
  | none => simpa [addFlip, newFlips] using listed
  | some last =>
      by_cases same : last = status
      · simpa [addFlip, newFlips, same] using listed
      · simp only [addFlip, newFlips, same, if_false, Option.all_some, decide_false,
          Bool.false_eq_true]
        rw [entries_zadd_of_fresh (by rwa [listed]), listed]

theorem entries_mark {kept : Keyspace (SortedSet String)} {now expiry : Int}
    {entry : Scored String} (flaps : Prop) [Decidable flaps] (later : Int) :
    entries (if flaps then
        pexpire (zadd kept now activeFlappingKey entry) now activeFlappingKey expiry
      else kept) later (flipsKey digest) = entries kept later (flipsKey digest) := by
  split
  · refine entries_congr ?_ later
    have different := (flipsKey_ne_activeFlappingKey digest).symm
    rw [pexpire_of_ne different, zadd_of_ne different]
  · rfl

def windowOf (windowMs : Int) (nowMs : Nat) (recorded : SortedSet String) : SortedSet String :=
  recorded.filter fun entry => (nowMs : Int) - windowMs < entry.score

theorem observeLua_spec (found : get store.strings nowMs (lastKey digest) = previous)
    (listed : entries store.sortedSets nowMs (flipsKey digest) = recorded)
    (fresh : ∀ entry ∈ recorded, entry.member ≠ flipMember nowMs nonce)
    (scored : ∀ entry ∈ recorded, 0 ≤ entry.score) (positive : 0 < windowMs) :
    let result := observeLua store digest nowMs status windowMs minTransitions identity nonce
    let left := windowOf windowMs nowMs (recorded ++ newFlips previous nowMs status nonce)
    result.2 = left.length ∧
      ∀ later : Int, later < nowMs + windowMs * 4 →
        get result.1.strings later (lastKey digest) = some status ∧
          entries result.1.sortedSets later (flipsKey digest) = left := by
  intro result left
  let pruned := zremrangebyscore (addFlip store.sortedSets previous digest nowMs status nonce)
    nowMs (flipsKey digest) 0 (nowMs - windowMs)
  let kept := pexpire pruned nowMs (flipsKey digest) (windowMs * 4)
  have scoredNow : ∀ entry ∈ recorded ++ newFlips previous nowMs status nonce,
      0 ≤ entry.score := by
    intro entry member
    rcases List.mem_append.1 member with old | new
    · exact scored entry old
    · unfold newFlips at new
      split at new
      · cases new
      · rw [List.mem_singleton.1 new]
        exact Int.natCast_nonneg nowMs
  have remain : entries pruned nowMs (flipsKey digest) = left := by
    rw [entries_zremrangebyscore, entries_addFlip listed fresh]
    refine List.filter_congr fun entry member => ?_
    rw [decide_eq_true (scoredNow entry member), Bool.true_and, ← decide_not]
    exact decide_eq_decide.2 Int.not_le
  have keeps (later : Int) (lives : later < nowMs + windowMs * 4) :
      entries kept later (flipsKey digest) = left := by
    rw [entries_pexpire lives, remain]
  have now : (nowMs : Int) < nowMs + windowMs * 4 := by omega
  have counted : zcard kept nowMs (flipsKey digest) = left.length := by
    rw [zcard, keeps nowMs now]
  subst found
  refine ⟨counted, fun later lives => ⟨get_setPx status lives, ?_⟩⟩
  exact (entries_mark _ later).trans (keeps later lives)

end Script

/-! ## Runs -/

variable {python digestOf}

/-- The member under which a change is found in the set. -/
def scored (call : Observation) : Scored String :=
  ⟨call.nowMs, flipMember call.nowMs call.nonce⟩

theorem nonce_of_flipMember {first second : Nat} {nonce other : String}
    (same : flipMember first nonce = flipMember second other) : nonce = other := by
  have characters := congrArg String.toList same
  simp only [flipMember, String.toList_append, List.append_assoc] at characters
  exact String.toList_inj.1
    ((joined_inj (not_mem_toString (by decide) first) (not_mem_toString (by decide) second)).1
      characters).2

theorem mem_of_mem_changes {calls : List Observation} {call : Observation}
    (member : call ∈ changes python calls) : call ∈ calls := by
  induction calls using changes.induct with
  | case1 | case2 => cases member
  | case3 first second calls ih =>
      rcases List.mem_append.1 member with here | later
      · split at here
        · cases here
        · simp [List.mem_singleton.1 here]
      · exact List.mem_cons_of_mem _ (ih later)

theorem changes_append (calls : List Observation) (last call : Observation) :
    changes python (calls ++ [last] ++ [call]) = changes python (calls ++ [last]) ++
      if last.status python = call.status python then [] else [call] := by
  induction calls with
  | nil => simp [changes]
  | cons first calls ih =>
      cases calls with
      | nil => simp [changes]
      | cons second calls =>
          simp only [List.cons_append, changes, List.append_assoc] at ih ⊢
          rw [ih]

variable (python) in
def inWindow (policy : FlappingPolicy) (calls : List Observation) (nowMs : Nat) :
    List Observation :=
  (changes python calls).filter fun call => (nowMs : Int) - policy.windowMs < call.nowMs

variable (python) in
theorem length_inWindow (policy : FlappingPolicy) (calls : List Observation) (nowMs : Nat) :
    (inWindow python policy calls nowMs).length =
      changesAfter python calls ((nowMs : Int) - policy.windowMs) :=
  List.countP_eq_length_filter.symm

section Runs

variable {policy : FlappingPolicy} {identity : String} {store : Store} {calls : List Observation}
  {last call : Observation}

/-- What Redis holds after some calls, until four windows have passed. -/
structure Tracks (python : PythonRuntime) (digestOf : String → String) (policy : FlappingPolicy)
    (identity : String) (store : Store) (calls : List Observation) (last : Observation) :
    Prop where
  status : ∀ later : Int, later < last.nowMs + policy.windowMs * 4 →
    get store.strings later (lastKey (digestOf identity)) = some (last.status python)
  flips : ∀ later : Int, later < last.nowMs + policy.windowMs * 4 →
    entries store.sortedSets later (flipsKey (digestOf identity)) =
      (inWindow python policy calls last.nowMs).map scored

theorem Recorded.earlier {more : List Observation}
    (recorded : Recorded python policy identity (calls ++ more)) :
    Recorded python policy identity calls where
  named call member := recorded.named call (List.mem_append_left _ member)
  same call member := recorded.same call (List.mem_append_left _ member)
  timely := recorded.timely.left_of_append
  drawn := by
    have drawn := recorded.drawn
    rw [List.map_append] at drawn
    exact (List.nodup_append.1 drawn).1

theorem Recorded.nonce_ne (recorded : Recorded python policy identity (calls ++ [call]))
    {earlier : Observation} (member : earlier ∈ calls) : earlier.nonce ≠ call.nonce := by
  have drawn := recorded.drawn
  rw [List.map_append] at drawn
  exact fun same => (List.nodup_append.1 drawn).2.2 _ (List.mem_map_of_mem member) _ (by simp) same

theorem Recorded.timely_last
    (recorded : Recorded python policy identity (calls ++ [last] ++ [call])) :
    last.nowMs ≤ call.nowMs ∧ (call.nowMs : Int) < last.nowMs + policy.windowMs * 4 := by
  have timely := recorded.timely
  rw [List.append_assoc] at timely
  have pair := timely.right_of_append
  simpa only [List.singleton_append, List.isChain_cons_cons, List.isChain_singleton,
    and_true] using pair

theorem Tracks.first (absentLast : store.strings (lastKey (digestOf identity)) = none)
    (absentFlips : store.sortedSets (flipsKey (digestOf identity)) = none)
    (nonce : String) (minTransitions : Nat) :
    let result := observeLua store (digestOf identity) call.nowMs (call.status python)
      policy.windowMs minTransitions identity nonce
    result.2 = (inWindow python policy [call] call.nowMs).length ∧
      Tracks python digestOf policy identity result.1 [call] call := by
  intro result
  obtain ⟨counted, holds⟩ := observeLua_spec (get_of_absent absentLast call.nowMs)
    (entries_of_absent absentFlips call.nowMs) (by simp) (by simp) policy.windowMs_pos
  exact ⟨counted, fun later lives => (holds later lives).1, fun later lives =>
    (holds later lives).2⟩

theorem windowOf_inWindow (ordered : last.nowMs ≤ call.nowMs) :
    windowOf policy.windowMs call.nowMs
        ((inWindow python policy (calls ++ [last]) last.nowMs).map scored ++
          newFlips (some (last.status python)) call.nowMs (call.status python) call.nonce) =
      (inWindow python policy (calls ++ [last] ++ [call]) call.nowMs).map scored := by
  have new : newFlips (some (last.status python)) call.nowMs (call.status python) call.nonce =
      (if last.status python = call.status python then [] else [call]).map scored := by
    unfold newFlips
    by_cases same : last.status python = call.status python <;> simp [same, scored]
  rw [new, ← List.map_append, windowOf, List.filter_map, inWindow, inWindow, changes_append,
    List.filter_append, List.filter_append, List.filter_filter]
  congr 2
  refine List.filter_congr fun change _ => ?_
  by_cases inside : (call.nowMs : Int) - policy.windowMs < change.nowMs
  · have earlier : (last.nowMs : Int) - policy.windowMs < change.nowMs := by omega
    simp [scored, inside, earlier]
  · simp [scored, inside]

theorem Tracks.next (tracks : Tracks python digestOf policy identity store (calls ++ [last]) last)
    (recorded : Recorded python policy identity (calls ++ [last] ++ [call]))
    (minTransitions : Nat) :
    let result := observeLua store (digestOf identity) call.nowMs (call.status python)
      policy.windowMs minTransitions identity call.nonce
    result.2 = (inWindow python policy (calls ++ [last] ++ [call]) call.nowMs).length ∧
      Tracks python digestOf policy identity result.1 (calls ++ [last] ++ [call]) call := by
  intro result
  obtain ⟨ordered, lives⟩ := recorded.timely_last
  have fresh : ∀ entry ∈ (inWindow python policy (calls ++ [last]) last.nowMs).map scored,
      entry.member ≠ flipMember call.nowMs call.nonce := by
    intro entry member same
    obtain ⟨earlier, change, rfl⟩ := List.mem_map.1 member
    have inCalls := mem_of_mem_changes (List.mem_of_mem_filter change)
    exact recorded.nonce_ne inCalls (nonce_of_flipMember same)
  have nonneg : ∀ entry ∈ (inWindow python policy (calls ++ [last]) last.nowMs).map scored,
      0 ≤ entry.score := by
    intro entry member
    obtain ⟨earlier, _, rfl⟩ := List.mem_map.1 member
    exact Int.natCast_nonneg earlier.nowMs
  obtain ⟨counted, holds⟩ := observeLua_spec (tracks.status call.nowMs lives)
    (tracks.flips call.nowMs lives) fresh nonneg policy.windowMs_pos
  rw [windowOf_inWindow ordered] at counted holds
  exact ⟨by simpa using counted, fun later lives => (holds later lives).1, fun later lives =>
    (holds later lives).2⟩

theorem observeAll_append (store : Store) (calls : List Observation) (call : Observation) :
    observeAll python digestOf policy store (calls ++ [call]) =
      (observeFlapping python digestOf policy
        (observeAll python digestOf policy store calls) call).1 := by
  rw [observeAll, List.foldl_append]
  rfl

theorem observed_of_script (recorded : Recorded python policy identity (calls ++ [call]))
    (script :
      let result := observeLua store (digestOf identity) call.nowMs (call.status python)
        policy.windowMs policy.minTransitions identity call.nonce
      result.2 = (inWindow python policy (calls ++ [call]) call.nowMs).length ∧
        Tracks python digestOf policy identity result.1 (calls ++ [call]) call) :
    let flips := (inWindow python policy (calls ++ [call]) call.nowMs).length
    let result := observeFlapping python digestOf policy store call
    result.2 = ⟨identity, flips, decide (policy.minTransitions ≤ flips)⟩ ∧
      Tracks python digestOf policy identity result.1 (calls ++ [call]) call := by
  intro flips result
  have named := recorded.named call (by simp)
  have same := recorded.same call (by simp)
  obtain ⟨counted, tracks⟩ := script
  simp only [result, flips, observeFlapping, if_neg named, same]
  exact ⟨by rw [counted], tracks⟩

theorem observed (absentLast : store.strings (lastKey (digestOf identity)) = none)
    (absentFlips : store.sortedSets (flipsKey (digestOf identity)) = none)
    (recorded : Recorded python policy identity (calls ++ [call])) :
    let flips := (inWindow python policy (calls ++ [call]) call.nowMs).length
    let result := observeFlapping python digestOf policy
      (observeAll python digestOf policy store calls) call
    result.2 = ⟨identity, flips, decide (policy.minTransitions ≤ flips)⟩ ∧
      Tracks python digestOf policy identity result.1 (calls ++ [call]) call := by
  induction calls using List.reverseRecOn generalizing call with
  | nil =>
      exact observed_of_script recorded
        (Tracks.first absentLast absentFlips call.nonce policy.minTransitions)
  | append_singleton calls last ih =>
      have tracks := (ih recorded.earlier).2
      rw [observeAll_append]
      exact observed_of_script recorded (tracks.next recorded policy.minTransitions)

/-- From a fresh store, the `n`-th call of an alert answers with the number of the changes of
its status that are later than a window before the call. -/
theorem flips_exact (absentLast : store.strings (lastKey (digestOf identity)) = none)
    (absentFlips : store.sortedSets (flipsKey (digestOf identity)) = none)
    (recorded : Recorded python policy identity (calls ++ [call])) :
    let flips := changesAfter python (calls ++ [call]) ((call.nowMs : Int) - policy.windowMs)
    (observeFlapping python digestOf policy
        (observeAll python digestOf policy store calls) call).2 =
      ⟨identity, flips, decide (policy.minTransitions ≤ flips)⟩ := by
  intro flips
  have answer := (observed absentLast absentFlips recorded).1
  rwa [length_inWindow] at answer

end Runs

def emptyStore : Store :=
  ⟨fun _ => none, fun _ => none⟩

/-- An observation of an alert of the rule `cpu`. -/
def cpuAlert (status : String) (nowMs : Nat) (nonce : String) : Observation :=
  ⟨"grafana", some (.dict [("RuleName", .str "cpu"), ("status", .str status)]), none, nowMs, nonce⟩

def samplePolicy : FlappingPolicy :=
  ⟨10, 2, by decide⟩

theorem flips_exact_twice :
    (observeFlapping .plain id samplePolicy
        (observeAll .plain id samplePolicy emptyStore
          [cpuAlert "firing" 1000 "a0", cpuAlert "resolved" 1000 "a1"])
        (cpuAlert "firing" 1000 "a2")).2 = ⟨"grafana::cpu", 2, true⟩ := by
  have recorded : Recorded .plain samplePolicy "grafana::cpu"
      ([cpuAlert "firing" 1000 "a0", cpuAlert "resolved" 1000 "a1"] ++
        [cpuAlert "firing" 1000 "a2"]) := by
    refine ⟨?_, ?_, ?_, ?_⟩
    all_goals decide +kernel
  have counted : changesAfter .plain
      ([cpuAlert "firing" 1000 "a0", cpuAlert "resolved" 1000 "a1"] ++
        [cpuAlert "firing" 1000 "a2"]) (1000 - samplePolicy.windowMs) = 2 := by
    decide +kernel
  have answer := @flips_exact .plain id samplePolicy _ emptyStore _ _ rfl rfl recorded
  exact answer.trans (congrArg (fun flips : Nat =>
    FlappingStatus.mk "grafana::cpu" flips (decide (samplePolicy.minTransitions ≤ flips))) counted)

end Flapping

end WebhookWise
