import WebhookWise.WebhookSaves

/-!
# The remembered state of an alert identity

For each dedup key Redis remembers the last event, its analysis, and when the chain of
repeats began.  `resolve_dedup` answers an alert from this state, or from the table where
the state is gone, and `dedup_remember.lua` writes the state after the alert is saved.
-/

namespace WebhookWise

open SqlTable

namespace WebhookDedup

open WebhookIngest

structure DedupState where
  originalEventId : Nat
  firstSeenAt : DateTime
  lastSeenAt : DateTime
  count : Nat
  analysis : Option JsonObject

/-- A state under its key in Redis, until it expires. -/
structure DedupEntry where
  state : DedupState
  expiresAt : DateTime

inductive DedupAction where
  | new
  | reuse
  | rechain
deriving DecidableEq

structure DedupResult where
  action : DedupAction
  analysis : Option JsonObject
  originalEventId : Option Nat
  routeType : String
  resetChain : Bool

/-- The settings that `resolve_dedup` reads, in seconds. -/
structure DedupWindows where
  dedup : Int
  analysisReuse : Int

def hasReusableAnalysis (analysis : Option JsonObject) : Bool :=
  match presentAnalysis analysis with
  | some analysis => !analysis.truthyAt "_degraded" && !analysis.truthyAt "_pending"
  | none => false

variable (now : DateTime)

/-- `elapsed <= seconds`. -/
def within (seconds : Int) (since now : DateTime) : Bool :=
  now - since ≤ seconds * DateTime.microsecondsPerSecond

/-! ## Reading -/

/-- `get_dedup_state`, from an entry that may have expired. -/
def getDedupState (entry : Option DedupEntry) : Option DedupState :=
  (entry.filter fun entry => now < entry.expiresAt).map DedupEntry.state

/-- What `resolve_dedup` answers from the remembered state, if it has a reusable
analysis. -/
def answerFromState (windows : DedupWindows) (state : DedupState) : Option DedupResult :=
  if hasReusableAnalysis state.analysis then
    if !within windows.dedup state.firstSeenAt now && within windows.dedup state.lastSeenAt now &&
        within windows.analysisReuse state.firstSeenAt now then
      some ⟨.rechain, state.analysis, some state.originalEventId, "rechain", true⟩
    else if within windows.dedup state.lastSeenAt now then
      some ⟨.reuse, state.analysis, some state.originalEventId, "redis_reuse", false⟩
    else none
  else none

def findOriginalByDedupKey (windowSeconds : Int) (dedupKey : String) (events : EventTable) :
    Option WebhookEvent :=
  (events.selectFirst (fun first second => second.timestamp ≤ first.timestamp) fun row =>
    row.dedupKey = some dedupKey && now.addSeconds (-windowSeconds) ≤ row.timestamp &&
      !row.isDuplicate).filter fun row => hasReusableAnalysis row.aiAnalysis

def resolveDedup (windows : DedupWindows) (state : Option DedupState) (dedupKey : String)
    (events : EventTable) : DedupResult :=
  match state.bind (answerFromState now windows) with
  | some result => result
  | none =>
      match findOriginalByDedupKey now windows.dedup dedupKey events with
      | some original => ⟨.reuse, original.aiAnalysis, some original.id, "db_reuse", false⟩
      | none => ⟨.new, none, none, "", state.any fun state =>
          !within windows.dedup state.lastSeenAt now⟩

/-! ## Writing -/

def pendingDedupPlaceholder : JsonObject :=
  [("_degraded", .bool true), ("_pending", .bool true)]

/-- `remember_dedup_state`, with the script that it evaluates. -/
def rememberDedupState (ttlSeconds : Int) (originalEventId : Nat) (analysis : JsonObject)
    (resetChain : Bool) (entry : Option DedupEntry) : DedupEntry :=
  let previous := if resetChain then none else getDedupState now entry
  { state :=
      { originalEventId := originalEventId
        firstSeenAt := (previous.map DedupState.firstSeenAt).getD now
        lastSeenAt := now
        count := (previous.map DedupState.count).getD 0 + 1
        analysis := presentAnalysis (some analysis) }
    expiresAt := now.addSeconds (max 60 ttlSeconds) }

def dedupTtlSeconds (windowSeconds : Int) : Int :=
  max 60 (windowSeconds * 2)

/-! ## Answers -/

theorem within_iff {seconds : Int} {since now : DateTime} :
    within seconds since now = true ↔ now ≤ since.addSeconds seconds := by
  unfold within DateTime.addSeconds
  rw [decide_eq_true_eq]
  exact ⟨Int.le_add_of_sub_left_le, Int.sub_left_le_of_le_add⟩

theorem hasReusableAnalysis_pendingDedupPlaceholder :
    hasReusableAnalysis (some pendingDedupPlaceholder) = false := by
  decide

theorem answerFromState_spec {now : DateTime} {windows : DedupWindows} {state : DedupState}
    {result : DedupResult} (answered : answerFromState now windows state = some result) :
    result.originalEventId = some state.originalEventId ∧ result.analysis = state.analysis ∧
      result.action ≠ .new ∧ hasReusableAnalysis state.analysis = true ∧
      within windows.dedup state.lastSeenAt now = true := by
  unfold answerFromState at answered
  split at answered
  · rename_i reusable
    split at answered
    · rename_i rechains
      obtain rfl := Option.some.inj answered
      simp only [Bool.and_eq_true] at rechains
      exact ⟨rfl, rfl, by simp, reusable, rechains.1.2⟩
    · split at answered
      · obtain rfl := Option.some.inj answered
        exact ⟨rfl, rfl, by simp, reusable, ‹_›⟩
      · contradiction
  · contradiction

theorem findOriginalByDedupKey_spec {now : DateTime} {windowSeconds : Int} {dedupKey : String}
    {events : EventTable} {original : WebhookEvent}
    (found : findOriginalByDedupKey now windowSeconds dedupKey events = some original) :
    original ∈ events.rows ∧ original.dedupKey = some dedupKey ∧ original.isDuplicate = false ∧
      now.addSeconds (-windowSeconds) ≤ original.timestamp ∧
      hasReusableAnalysis original.aiAnalysis = true := by
  obtain ⟨first, reusable⟩ := Option.filter_eq_some_iff.1 found
  obtain ⟨member, selected⟩ := Table.selectFirst_spec first
  simp only [Bool.and_eq_true, decide_eq_true_eq, Bool.not_eq_true'] at selected
  exact ⟨member, selected.1.1, selected.2, selected.1.2, reusable⟩

end WebhookDedup

end WebhookWise
