import WebhookWise.JsonColumns
import WebhookWise.GroupedRows
import Mathlib.Data.List.Sort
import Mathlib.Data.String.Basic

/-!
# The audit of alert rules

The audit groups the events of a window by their source and by the name of their rule, and counts
each group.  The outcomes come from the decision traces: these are grouped by the name of the alert
alone, and each name is resolved to the listed spelling that it equals in lower case.  A row shows
the outcomes that are counted under its name.
-/

namespace WebhookWise

namespace RuleAudits

open JsonColumns

/-- The columns of `webhook_events` that the audit reads. -/
structure AuditedEvent where
  id : Nat
  source : String
  parsedData : Option Json
  timestamp : DateTime
  isDuplicate : Bool

/-- The columns of `decision_trace` that the audit reads. -/
structure AuditedTrace where
  webhookEventId : Nat
  alertName : Option String
  outcome : String
  createdAt : DateTime

/-- The two tables; `id` is the primary key of the events. -/
structure AuditTables where
  events : List AuditedEvent
  traces : List AuditedTrace
  distinctIds : (events.map AuditedEvent.id).Nodup

/-- What the audit does not compute from the tables. -/
structure AuditEnv extends PythonRuntime where
  postgres : PostgresText
  /-- `round(numerator / denominator, digits)`, in units of the last digit. -/
  rounded : Nat → Nat → Nat → Nat
  /-- What `utcnow()` returns at its first call and at each later one. -/
  clock : Nat → DateTime

/-- The arguments of `get_rule_audit`. -/
structure AuditQuery where
  windowDays : Int
  minEvents : Int
  includeForwardCounts : Bool

inductive AuditFlag where
  | zombie
  | pureNoise
  | highVolume
deriving DecidableEq

/-- A row of the report.  The percentage is counted in tenths, the daily volume in hundredths. -/
structure AuditRow where
  source : String
  ruleName : String
  total : Nat
  duplicates : Nat
  duplicatePct : Nat
  eventsPerActiveDay : Nat
  forwarded : Nat
  skipped : Int
  lastSeen : Option String
  firstSeen : Option String
  flags : List AuditFlag

/-! ## The query of the events -/

/-- `max(1, value)`. -/
def atLeastOne (value : Int) : Int :=
  if value < 1 then 1 else value

def microsecondsPerDay : Int := 86400 * DateTime.microsecondsPerSecond

/-- `(later - earlier).days`. -/
def daysBetween (later earlier : DateTime) : Int :=
  (later - earlier) / microsecondsPerDay

/-- `func.min`. -/
def earliest : List DateTime → Option DateTime
  | [] => none
  | instant :: instants =>
      some ((earliest instants).elim instant fun other =>
        if instant ≤ other then instant else other)

/-- A source and the name of a rule, as they are grouped. -/
abbrev RuleKey := String × Option String

section Audit

variable (env : AuditEnv)

def ruleNameExpr (event : AuditedEvent) : Option String :=
  ["RuleName", "AlertName", "MetricName", "Type"].findSome? fun key =>
    astext env.postgres event.parsedData key

def ruleKey (event : AuditedEvent) : RuleKey :=
  (event.source, ruleNameExpr env event)

variable (query : AuditQuery)

def start : DateTime :=
  env.clock 0 - atLeastOne query.windowDays * microsecondsPerDay

variable (tables : AuditTables)

def windowEvents : List AuditedEvent :=
  tables.events.filter fun event => start env query ≤ event.timestamp

def eventsOf (key : RuleKey) : List AuditedEvent :=
  GroupedRows.group (ruleKey env) (windowEvents env query tables) key

/-- How many events a row has. -/
def total (key : RuleKey) : Nat :=
  GroupedRows.count (ruleKey env) (windowEvents env query tables) key

/-- The groups with enough events, the largest first. -/
def auditedKeys : List RuleKey :=
  ((GroupedRows.keys (ruleKey env) (windowEvents env query tables)).filter fun key =>
      atLeastOne query.minEvents ≤ total env query tables key).insertionSort
    fun first second => total env query tables second ≤ total env query tables first

/-! ## The query of the traces -/

/-- `(name or "unknown").strip()`. -/
def shownName (name : Option String) : String :=
  strip ((name.filter fun text => text ≠ "").getD "unknown")

def listedNames : List String :=
  ((auditedKeys env query tables).filterMap fun key =>
      (key.2.filter fun text => text ≠ "").map strip).dedup

def ruleNames : List String :=
  (listedNames env query tables).insertionSort (· ≤ ·)

/-- `by_lower`: of the names that are equal in lower case, the last one stays. -/
def byLower (names : List String) : PyDict String :=
  names.foldl (fun entries name => entries.set (env.lower name) name) []

/-- `str(alert_name or "").strip().lower()`. -/
def foldedName (alertName : Option String) : String :=
  env.lower (strip (alertName.getD ""))

/-- `counts[key] = counts.get(key, 0) + amount`. -/
def counted (counts : PyDict Nat) (key : String) (amount : Nat) : PyDict Nat :=
  counts.set key ((counts.get? key).getD 0 + amount)

def windowTraces : List AuditedTrace :=
  tables.traces.filter fun trace => start env query ≤ trace.createdAt ∧ trace.alertName.isSome

def outcomeKey (trace : AuditedTrace) : Option String × String :=
  (trace.alertName, trace.outcome)

/-- What one row of the second query adds to the counts of the forwarded and of the skipped. -/
def countOutcome (names : PyDict String) (counts : PyDict Nat × PyDict Nat)
    (row : Option String × String) (amount : Nat) : PyDict Nat × PyDict Nat :=
  match names.get? (foldedName env row.1) with
  | none => counts
  | some key =>
      if row.2 = "forwarded" then (counted counts.1 key amount, counts.2)
      else (counts.1, counted counts.2 key amount)

def traceForwardCounts (names : List String) : PyDict Nat × PyDict Nat :=
  let traces := windowTraces env query tables
  (GroupedRows.keys outcomeKey traces).foldl
    (fun counts row =>
      countOutcome env (byLower env names) counts row (GroupedRows.count outcomeKey traces row))
    ([], [])

def forwardedByRule : PyDict Nat :=
  if (ruleNames env query tables).isEmpty || !query.includeForwardCounts then []
  else (traceForwardCounts env query tables (ruleNames env query tables)).1

/-! ## The report -/

/-- `forwarded_by_rule.get(rule_name, 0)`. -/
def forwarded (key : RuleKey) : Nat :=
  ((forwardedByRule env query tables).get? (shownName key.2)).getD 0

def activeDays (lastSeen firstSeen : Option DateTime) : Nat :=
  match lastSeen, firstSeen with
  | some last, some first => (atLeastOne (daysBetween last first)).toNat
  | _, _ => 1

def auditRow (judgedAt : DateTime) (key : RuleKey) : AuditRow :=
  let events := eventsOf env query tables key
  let total := total env query tables key
  let duplicates := (events.filter AuditedEvent.isDuplicate).length
  let lastSeen := GroupedRows.latest (events.map AuditedEvent.timestamp)
  let firstSeen := earliest (events.map AuditedEvent.timestamp)
  let forwarded := forwarded env query tables key
  let eventsPerActiveDay := env.rounded 2 total (activeDays lastSeen firstSeen)
  { source := strip (if key.1 = "" then "unknown" else key.1)
    ruleName := shownName key.2
    total := total
    duplicates := duplicates
    duplicatePct := if total = 0 then 0 else env.rounded 1 (100 * duplicates) total
    eventsPerActiveDay := eventsPerActiveDay
    forwarded := forwarded
    skipped := total - forwarded
    lastSeen := lastSeen.map DateTime.isoformat
    firstSeen := firstSeen.map DateTime.isoformat
    flags :=
      (if lastSeen.any fun last =>
          atLeastOne (atLeastOne query.windowDays / 2) ≤ daysBetween judgedAt last
        then [.zombie] else []) ++
      (if query.includeForwardCounts ∧ forwarded = 0 ∧ 0 < total then [.pureNoise] else []) ++
      (if 1000 ≤ eventsPerActiveDay then [.highVolume] else []) }

def getRuleAudit : List AuditRow :=
  (auditedKeys env query tables).mapIdx fun index key =>
    auditRow env query tables (env.clock (index + 1)) key

/-! ## Whose outcomes a row shows -/

/-- The name of a trace resolves to a name shown: this is the greatest of the listed names that are
equal to it in lower case. -/
def ResolvesTo (shown : String) (alertName : Option String) : Prop :=
  shown ∈ listedNames env query tables ∧ env.lower shown = foldedName env alertName ∧
    ∀ other ∈ listedNames env query tables, env.lower other = env.lower shown → other ≤ shown

instance (shown : String) (alertName : Option String) :
    Decidable (ResolvesTo env query tables shown alertName) :=
  inferInstanceAs (Decidable (_ ∧ _ ∧ _))

/-- The trace is among those that the row shows as forwarded. -/
def IsShown (key : RuleKey) (trace : AuditedTrace) : Prop :=
  trace.outcome = "forwarded" ∧ start env query ≤ trace.createdAt ∧ trace.alertName.isSome ∧
    ResolvesTo env query tables (shownName key.2) trace.alertName

instance (key : RuleKey) : DecidablePred (IsShown env query tables key) := fun _ =>
  inferInstanceAs (Decidable (_ ∧ _))

/-- The events of a source and a rule name. -/
def rowEvents (key : RuleKey) : List AuditedEvent :=
  tables.events.filter fun event =>
    start env query ≤ event.timestamp ∧ event.source = key.1 ∧ ruleNameExpr env event = key.2

/-- The source and rule name have a row of the report. -/
def Listed (key : RuleKey) : Prop :=
  atLeastOne query.minEvents ≤ (rowEvents env query tables key).length

/-- The trace says that an event of the row was forwarded. -/
def IsOwn (key : RuleKey) (trace : AuditedTrace) : Prop :=
  trace.outcome = "forwarded" ∧
    ∃ event ∈ rowEvents env query tables key, event.id = trace.webhookEventId

instance (key : RuleKey) : DecidablePred (IsOwn env query tables key) := fun _ =>
  inferInstanceAs (Decidable (_ ∧ _))

def ownTraces (key : RuleKey) : List AuditedTrace :=
  tables.traces.filter fun trace => IsOwn env query tables key trace

/-- The rule of some row has this name, up to surrounding blanks. -/
def NamesRow (name : String) : Prop :=
  ∃ key text, Listed env query tables key ∧ key.2 = some text ∧ text ≠ "" ∧ strip text = name

/-- A trace of the window that was forwarded bears the name which the row shows, up to case and
surrounding blanks; and of the names of rows that it so bears, the one shown is the greatest. -/
structure BearsName (key : RuleKey) (trace : AuditedTrace) : Prop where
  forwarded : trace.outcome = "forwarded"
  inWindow : start env query ≤ trace.createdAt
  sameName : ∃ name, trace.alertName = some name ∧
    env.lower (strip name) = env.lower (shownName key.2)
  namesRow : NamesRow env query tables (shownName key.2)
  greatest : ∀ other, NamesRow env query tables other →
    env.lower other = env.lower (shownName key.2) → other ≤ shownName key.2

/-- The row reports the outcomes of its own events. -/
structure AttributesOwn (key : RuleKey) (row : AuditRow) : Prop where
  source : row.source = strip (if key.1 = "" then "unknown" else key.1)
  ruleName : row.ruleName = shownName key.2
  total : row.total = (rowEvents env query tables key).length
  forwarded : row.forwarded = (ownTraces env query tables key).length
  atMost : row.forwarded ≤ row.total
  skipped : row.skipped = row.total - row.forwarded
  remaining : 0 ≤ row.skipped
  pureNoise : .pureNoise ∈ row.flags ↔ ownTraces env query tables key = []

/-- Each event of the window has at most one trace. -/
def OneTraceEach : Prop :=
  ∀ event ∈ windowEvents env query tables,
    (tables.traces.countP fun trace => trace.webhookEventId = event.id) ≤ 1

instance : Decidable (OneTraceEach env query tables) :=
  inferInstanceAs (Decidable (∀ _ ∈ _, _))

variable {env query tables}

/-! ### Names -/

variable {key : RuleKey}

theorem get?_byLower {names : List String} (sorted : names.Pairwise (· ≤ ·))
    {folded name : String} :
    (byLower env names).get? folded = some name ↔
      name ∈ names ∧ env.lower name = folded ∧
        ∀ other ∈ names, env.lower other = folded → other ≤ name := by
  induction names using List.reverseRecOn with
  | nil => simp [byLower, PyDict.get?]
  | append_singleton names last ih =>
      obtain ⟨earlier, -, below⟩ := List.pairwise_append.1 sorted
      have below : ∀ other ∈ names, other ≤ last := fun other member =>
        below other member last (by simp)
      have kept : (byLower env (names ++ [last])).get? folded =
          if folded = env.lower last then some last else (byLower env names).get? folded := by
        rw [byLower, List.foldl_append, List.foldl_cons, List.foldl_nil, PyDict.get?_set]
        rfl
      rw [kept]
      by_cases here : folded = env.lower last
      · rw [if_pos here, Option.some.injEq]
        constructor
        · rintro rfl
          refine ⟨by simp, here.symm, fun other member _ => ?_⟩
          rcases List.mem_append.1 member with inside | isLast
          · exact below other inside
          · exact (List.mem_singleton.1 isLast).le
        · rintro ⟨member, -, greatest⟩
          have least : last ≤ name := greatest last (by simp) here.symm
          rcases List.mem_append.1 member with inside | isLast
          · exact le_antisymm least (below name inside)
          · exact (List.mem_singleton.1 isLast).symm
      · rw [if_neg here, ih earlier]
        constructor
        · rintro ⟨member, same, greatest⟩
          refine ⟨List.mem_append_left _ member, same, fun other inAll equal => ?_⟩
          rcases List.mem_append.1 inAll with inside | isLast
          · exact greatest other inside equal
          · rw [List.mem_singleton.1 isLast] at equal
            exact absurd equal.symm here
        · rintro ⟨member, same, greatest⟩
          rcases List.mem_append.1 member with inside | isLast
          · exact ⟨inside, same, fun other inNames equal =>
              greatest other (List.mem_append_left _ inNames) equal⟩
          · rw [List.mem_singleton.1 isLast] at same
            exact absurd same.symm here

theorem eventsOf_eq (key : RuleKey) :
    eventsOf env query tables key = rowEvents env query tables key := by
  rw [eventsOf, GroupedRows.group, windowEvents, rowEvents, List.filter_filter]
  apply List.filter_congr
  intro event _
  rw [← Bool.decide_and]
  simp only [ruleKey, Prod.ext_iff, and_comm]

theorem mem_auditedKeys : key ∈ auditedKeys env query tables ↔ Listed env query tables key := by
  have sameTotal : total env query tables key = (rowEvents env query tables key).length := by
    rw [← eventsOf_eq]
    rfl
  rw [auditedKeys, List.mem_insertionSort, List.mem_filter, decide_eq_true_eq, sameTotal, Listed]
  refine and_iff_right_of_imp fun enough => ?_
  have positive : 0 < (rowEvents env query tables key).length := by
    have atLeast : 1 ≤ atLeastOne query.minEvents := by
      unfold atLeastOne
      split <;> omega
    omega
  obtain ⟨event, member⟩ := List.exists_mem_of_length_pos positive
  rw [← eventsOf_eq] at member
  exact GroupedRows.mem_keys.2 ⟨event, GroupedRows.mem_group.1 member⟩

theorem mem_listedNames {name : String} :
    name ∈ listedNames env query tables ↔ NamesRow env query tables name := by
  simp only [listedNames, List.mem_dedup, List.mem_filterMap, Option.map_eq_some_iff,
    Option.filter_eq_some_iff, decide_eq_true_eq, and_assoc, mem_auditedKeys, NamesRow,
    exists_and_left]

theorem isShown_iff {trace : AuditedTrace} :
    IsShown env query tables key trace ↔ BearsName env query tables key trace := by
  unfold IsShown ResolvesTo
  simp only [mem_listedNames]
  constructor
  · rintro ⟨forwarded, inWindow, named, namesRow, sameName, greatest⟩
    obtain ⟨name, isName⟩ := Option.isSome_iff_exists.1 named
    rw [isName] at sameName
    exact ⟨forwarded, inWindow, ⟨name, isName, sameName.symm⟩, namesRow, greatest⟩
  · rintro ⟨forwarded, inWindow, ⟨name, isName, sameName⟩, namesRow, greatest⟩
    refine ⟨forwarded, inWindow, by rw [isName]; rfl, namesRow, ?_, greatest⟩
    rw [isName]
    exact sameName.symm

theorem get?_byLower_ruleNames {shown : String} {alertName : Option String} :
    (byLower env (ruleNames env query tables)).get? (foldedName env alertName) = some shown ↔
      ResolvesTo env query tables shown alertName := by
  have sorted : (ruleNames env query tables).Pairwise (· ≤ ·) := List.pairwise_insertionSort _ _
  rw [get?_byLower sorted]
  simp only [ruleNames, List.mem_insertionSort]
  constructor
  · rintro ⟨member, same, greatest⟩
    exact ⟨member, same, fun other inNames equal => greatest other inNames (equal.trans same)⟩
  · rintro ⟨member, same, greatest⟩
    exact ⟨member, same, fun other inNames equal =>
      greatest other inNames (equal.trans same.symm)⟩

/-! ### Counts -/

def forwardedLabel (env : AuditEnv) (names : PyDict String) (row : Option String × String) :
    Option String :=
  if row.2 = "forwarded" then names.get? (foldedName env row.1) else none

theorem getD_counted (counts : PyDict Nat) (key asked : String) (amount : Nat) :
    ((counted counts key amount).get? asked).getD 0 =
      if key = asked then (counts.get? asked).getD 0 + amount else (counts.get? asked).getD 0 := by
  rw [counted, PyDict.get?_set]
  by_cases here : asked = key
  · simp [here]
  · simp [here, Ne.symm here]

theorem getD_countOutcome (names : PyDict String) (counts : PyDict Nat × PyDict Nat)
    (row : Option String × String) (amount : Nat) (asked : String) :
    ((countOutcome env names counts row amount).1.get? asked).getD 0 =
      if forwardedLabel env names row = some asked then (counts.1.get? asked).getD 0 + amount
      else (counts.1.get? asked).getD 0 := by
  unfold countOutcome forwardedLabel
  cases found : names.get? (foldedName env row.1) with
  | none => simp
  | some key =>
      by_cases isForwarded : row.2 = "forwarded"
      · simpa [isForwarded] using getD_counted counts.1 key asked amount
      · simp [isForwarded]

theorem getD_foldl_countOutcome (names : PyDict String) (amount : Option String × String → Nat)
    (rows : List (Option String × String)) (counts : PyDict Nat × PyDict Nat) (asked : String) :
    (((rows.foldl (fun counts row => countOutcome env names counts row (amount row))
          counts).1).get? asked).getD 0 =
      GroupedRows.tally (forwardedLabel env names) amount rows
        (fun name => (counts.1.get? name).getD 0) asked := by
  induction rows generalizing counts with
  | nil => rfl
  | cons row rows ih =>
      rw [List.foldl_cons, ih]
      simp only [GroupedRows.tally, List.foldl_cons, getD_countOutcome]

theorem getD_traceForwardCounts (names : List String) (asked : String) :
    ((traceForwardCounts env query tables names).1.get? asked).getD 0 =
      (windowTraces env query tables).countP fun trace =>
        forwardedLabel env (byLower env names) (outcomeKey trace) = some asked := by
  rw [traceForwardCounts, getD_foldl_countOutcome]
  exact GroupedRows.tally_count (forwardedLabel env (byLower env names)) outcomeKey
    (windowTraces env query tables) asked

theorem forwarded_eq_countP (counts : query.includeForwardCounts = true) (key : RuleKey) :
    forwarded env query tables key =
      tables.traces.countP fun trace => IsShown env query tables key trace := by
  unfold forwarded forwardedByRule
  by_cases noNames : (ruleNames env query tables).isEmpty
  · rw [if_pos (by simp [noNames])]
    refine (List.countP_eq_zero.2 fun trace _ shown => ?_).symm
    have listed : shownName key.2 ∈ ruleNames env query tables :=
      (List.mem_insertionSort _).2 (of_decide_eq_true shown).2.2.2.1
    rw [List.isEmpty_iff.1 noNames] at listed
    exact List.not_mem_nil listed
  · rw [if_neg (by simp [noNames, counts]), getD_traceForwardCounts, windowTraces,
      List.countP_filter]
    apply List.countP_congr
    intro trace _
    simp only [Bool.and_eq_true, decide_eq_true_eq, forwardedLabel, outcomeKey, IsShown,
      ← get?_byLower_ruleNames]
    by_cases isForwarded : trace.outcome = "forwarded"
    · simp only [isForwarded, if_true, true_and, decide_eq_true_eq]
      exact and_comm.trans and_assoc
    · simp [isForwarded]

theorem forwarded_of_not_includes (without : query.includeForwardCounts = false) (key : RuleKey) :
    forwarded env query tables key = 0 := by
  simp [forwarded, forwardedByRule, without, PyDict.get?]

theorem length_ownTraces_le (one : OneTraceEach env query tables) (key : RuleKey) :
    (ownTraces env query tables key).length ≤ (rowEvents env query tables key).length := by
  have subset : (ownTraces env query tables key).map AuditedTrace.webhookEventId ⊆
      (rowEvents env query tables key).map AuditedEvent.id := by
    intro id member
    obtain ⟨trace, inOwn, rfl⟩ := List.mem_map.1 member
    obtain ⟨event, inRow, same⟩ := (of_decide_eq_true (List.mem_filter.1 inOwn).2).2
    exact List.mem_map.2 ⟨event, inRow, same⟩
  have distinct : ((ownTraces env query tables key).map AuditedTrace.webhookEventId).Nodup := by
    rw [List.nodup_iff_count_le_one]
    intro id
    by_cases member : id ∈ (ownTraces env query tables key).map AuditedTrace.webhookEventId
    · obtain ⟨event, inRow, rfl⟩ := List.mem_map.1 (subset member)
      rw [← eventsOf_eq] at inRow
      have inWindow : event ∈ windowEvents env query tables :=
        (GroupedRows.mem_group.1 inRow).1
      rw [List.count_eq_countP, List.countP_map]
      calc
        _ ≤ tables.traces.countP ((· == event.id) ∘ AuditedTrace.webhookEventId) :=
          List.filter_sublist.countP_le
        _ = tables.traces.countP fun trace => trace.webhookEventId = event.id :=
          List.countP_congr fun trace _ => by simp
        _ ≤ 1 := one event inWindow
    · rw [List.count_eq_zero.2 member]
      exact Nat.zero_le 1
  simpa using (List.subperm_of_subset distinct subset).length_le

/-- The row misses no trace of its own, or shows none of other events. -/
def OneSided (env : AuditEnv) (query : AuditQuery) (tables : AuditTables) (key : RuleKey) : Prop :=
  (∀ trace ∈ tables.traces, IsOwn env query tables key trace → BearsName env query tables key trace) ∨
    ∀ trace ∈ tables.traces, BearsName env query tables key trace → IsOwn env query tables key trace

theorem forwarded_eq_length_of_bearsName (counts : query.includeForwardCounts = true)
    (bears : ∀ trace ∈ tables.traces,
      (BearsName env query tables key trace ↔ IsOwn env query tables key trace)) :
    forwarded env query tables key = (ownTraces env query tables key).length := by
  rw [forwarded_eq_countP counts, ownTraces, ← List.countP_eq_length_filter]
  refine List.countP_congr fun trace member => ?_
  simpa only [decide_eq_true_eq, isShown_iff] using bears trace member

/-- Where nothing makes up for a trace that is shown in the wrong row, none is. -/
theorem bearsName_of_forwarded_eq_length (counts : query.includeForwardCounts = true)
    (oneSided : OneSided env query tables key)
    (same : forwarded env query tables key = (ownTraces env query tables key).length) :
    ∀ trace ∈ tables.traces,
      (BearsName env query tables key trace ↔ IsOwn env query tables key trace) := by
  rw [forwarded_eq_countP counts, ownTraces, ← List.countP_eq_length_filter,
    GroupedRows.countP_eq_countP_iff] at same
  intro trace member
  rw [← isShown_iff]
  rcases oneSided with misses | strays
  · have noMissed : (tables.traces.countP fun trace =>
        IsOwn env query tables key trace ∧ ¬ IsShown env query tables key trace) = 0 := by
      refine List.countP_eq_zero.2 fun trace member missed => ?_
      obtain ⟨own, notShown⟩ := of_decide_eq_true missed
      exact notShown (isShown_iff.2 (misses trace member own))
    rw [noMissed, List.countP_eq_zero] at same
    refine ⟨fun shown => ?_, fun own => isShown_iff.2 (misses trace member own)⟩
    by_contra notOwn
    exact same trace member (decide_eq_true ⟨shown, notOwn⟩)
  · have noStray : (tables.traces.countP fun trace =>
        IsShown env query tables key trace ∧ ¬ IsOwn env query tables key trace) = 0 := by
      refine List.countP_eq_zero.2 fun trace member stray => ?_
      obtain ⟨shown, notOwn⟩ := of_decide_eq_true stray
      exact notOwn (strays trace member (isShown_iff.1 shown))
    rw [noStray, eq_comm, List.countP_eq_zero] at same
    refine ⟨fun shown => strays trace member (isShown_iff.1 shown), fun own => ?_⟩
    by_contra notShown
    exact same trace member (decide_eq_true ⟨own, notShown⟩)

theorem total_pos (audited : key ∈ auditedKeys env query tables) : 0 < total env query tables key :=
  GroupedRows.count_pos (List.mem_filter.1 ((List.mem_insertionSort _).1 audited)).1

theorem pureNoise_mem_flags (judgedAt : DateTime) (key : RuleKey) :
    .pureNoise ∈ (auditRow env query tables judgedAt key).flags ↔
      query.includeForwardCounts ∧ forwarded env query tables key = 0 ∧
        0 < total env query tables key := by
  have only : ∀ (flag : AuditFlag) (condition : Prop) [Decidable condition],
      .pureNoise ∈ (if condition then [flag] else []) ↔ condition ∧ .pureNoise = flag := by
    intro flag condition _
    by_cases holds : condition <;> simp [holds]
  simp only [auditRow, List.mem_append, only, reduceCtorEq, and_false, and_true, false_or, or_false]

theorem attributesOwn_auditRow (one : OneTraceEach env query tables) (judgedAt : DateTime)
    (audited : key ∈ auditedKeys env query tables) (counts : query.includeForwardCounts = true)
    (same : forwarded env query tables key = (ownTraces env query tables key).length) :
    AttributesOwn env query tables key (auditRow env query tables judgedAt key) := by
  have positive := total_pos audited
  have sameTotal : total env query tables key = (rowEvents env query tables key).length := by
    rw [← eventsOf_eq]
    rfl
  have bounded : (ownTraces env query tables key).length ≤ total env query tables key :=
    (length_ownTraces_le one key).trans sameTotal.ge
  refine ⟨rfl, rfl, sameTotal, same, same.le.trans bounded, rfl, ?_, ?_⟩
  · change (0 : Int) ≤ total env query tables key - forwarded env query tables key
    omega
  · rw [pureNoise_mem_flags, same, List.length_eq_zero_iff]
    exact ⟨fun flagged => flagged.2.1, fun none => ⟨counts, none, positive⟩⟩

/-- A row shows what is counted under its name, whichever source it is of. -/
theorem forwarded_of_attributesOwn {judgedAt : DateTime} {other : RuleKey}
    (attributes : AttributesOwn env query tables key (auditRow env query tables judgedAt other)) :
    query.includeForwardCounts = true ∧
      forwarded env query tables key = (ownTraces env query tables key).length := by
  have sameName : shownName other.2 = shownName key.2 := attributes.ruleName
  have counted : forwarded env query tables other = (ownTraces env query tables key).length :=
    attributes.forwarded
  constructor
  · by_contra without
    have nothing : forwarded env query tables other = 0 :=
      forwarded_of_not_includes (Bool.eq_false_iff.2 without) other
    have noise := attributes.pureNoise.2 (List.length_eq_zero_iff.1 (counted.symm.trans nothing))
    exact without ((pureNoise_mem_flags judgedAt other).1 noise).1
  · rw [← counted, forwarded, forwarded, sameName]

variable (env query tables)

/-- There is one row for each source and rule name with enough events, and it shows the outcomes
of their events. -/
def AttributesToOwnRules : Prop :=
  ∃ keys : List RuleKey, keys.Nodup ∧ (∀ key, key ∈ keys ↔ Listed env query tables key) ∧
    List.Forall₂ (AttributesOwn env query tables) keys (getRuleAudit env query tables)

/-- The forwarded traces that bear the name of a row are those of its events. -/
def NamedByOwnEvents : Prop :=
  ∀ key, Listed env query tables key → query.includeForwardCounts = true ∧
    ∀ trace ∈ tables.traces,
      (BearsName env query tables key trace ↔ IsOwn env query tables key trace)

variable {env query tables}

/-- The audit attributes the outcomes to their own rules where forward counts are asked for and
the forwarded traces under the name of a row are those of its events.  If no row both misses a trace
of its own and shows one of another's events, it does so only there. -/
theorem attributesToOwnRules_of_named (one : OneTraceEach env query tables) :
    (NamedByOwnEvents env query tables → AttributesToOwnRules env query tables) ∧
      ((∀ key, Listed env query tables key → OneSided env query tables key) →
        AttributesToOwnRules env query tables → NamedByOwnEvents env query tables) := by
  constructor
  · intro named
    refine ⟨auditedKeys env query tables, ?_, fun _ => mem_auditedKeys, ?_⟩
    · rw [auditedKeys, (List.perm_insertionSort _ _).nodup_iff]
      exact (List.nodup_dedup _).filter _
    · refine List.forall₂_iff_get.2 ⟨by simp [getRuleAudit], fun index inKeys inRows => ?_⟩
      have audited := List.getElem_mem inKeys
      obtain ⟨counts, bears⟩ := named _ (mem_auditedKeys.1 audited)
      simp only [getRuleAudit, List.get_eq_getElem, List.getElem_mapIdx]
      exact attributesOwn_auditRow one _ audited counts
        (forwarded_eq_length_of_bearsName counts bears)
  · rintro oneSided ⟨keys, -, sameKeys, rows⟩ key listed
    obtain ⟨length, each⟩ := List.forall₂_iff_get.1 rows
    obtain ⟨index, rfl⟩ := List.get_of_mem ((sameKeys key).2 listed)
    have row := each index index.2 (length ▸ index.2)
    simp only [getRuleAudit, List.get_eq_getElem, List.getElem_mapIdx] at row listed ⊢
    obtain ⟨counts, same⟩ := forwarded_of_attributesOwn row
    exact ⟨counts, bearsName_of_forwarded_eq_length counts (oneSided _ listed) same⟩

end Audit

/-! ### Two sources with one rule name -/

def firstDayEnv : AuditEnv where
  toPythonRuntime := PythonRuntime.ascii ⟨[], [], [], []⟩
  postgres := PostgresText.plain
  rounded digits numerator denominator := 10 ^ digits * numerator / denominator
  clock _ := 0

def everyRule : AuditQuery where
  windowDays := 30
  minEvents := 1
  includeForwardCounts := true

def diskEvent (id : Nat) (source ruleName : String) : AuditedEvent where
  id := id
  source := source
  parsedData := some (.dict [("RuleName", .str ruleName)])
  timestamp := 0
  isDuplicate := false

def diskTrace (id : Nat) (ruleName outcome : String) : AuditedTrace where
  webhookEventId := id
  alertName := some ruleName
  outcome := outcome
  createdAt := 0

/-- One source has its alert forwarded, the other has its alert skipped. -/
def twoSources (second : String) : AuditTables where
  events := [diskEvent 1 "prometheus" "Disk", diskEvent 2 "grafana" second]
  traces := [diskTrace 1 "Disk" "forwarded", diskTrace 2 second "skipped"]
  distinctIds := by simp [diskEvent]

/-- Under different names each source keeps its outcomes. -/
theorem attributesToOwnRules_twoNames :
    AttributesToOwnRules firstDayEnv everyRule (twoSources "Memory") := by
  refine (attributesToOwnRules_of_named (by decide +kernel)).1 fun key listed => ⟨rfl, ?_⟩
  have each : ∀ key ∈ auditedKeys firstDayEnv everyRule (twoSources "Memory"),
      ∀ trace ∈ (twoSources "Memory").traces,
        (IsShown firstDayEnv everyRule (twoSources "Memory") key trace ↔
          IsOwn firstDayEnv everyRule (twoSources "Memory") key trace) := by
    decide +kernel
  simpa only [isShown_iff] using each key (mem_auditedKeys.2 listed)

/-- Under one name the source whose alert was skipped shows the alert of the other as forwarded. -/
theorem twoSources_misattributed :
    ¬ AttributesToOwnRules firstDayEnv everyRule (twoSources "Disk") := by
  rintro ⟨keys, -, sameKeys, rows⟩
  have listed : ("grafana", some "Disk") ∈ keys :=
    (sameKeys _).2 (mem_auditedKeys.1 (by decide +kernel))
  obtain ⟨length, each⟩ := List.forall₂_iff_get.1 rows
  obtain ⟨index, isIndex⟩ := List.get_of_mem listed
  have row := each index index.2 (length ▸ index.2)
  simp only [getRuleAudit, List.get_eq_getElem, List.getElem_mapIdx] at row
  have same := (forwarded_of_attributesOwn row).2
  rw [← List.get_eq_getElem, isIndex] at same
  revert same
  decide +kernel

end RuleAudits

end WebhookWise
