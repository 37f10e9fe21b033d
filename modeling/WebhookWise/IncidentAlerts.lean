import WebhookWise.PythonValues

/-!
# What an alert says about its incident

The grouping task reads from an alert the name of its rule, whether it reports a
recovery, and the service, project, environment and region it is about.  Two alerts,
or an alert and an incident, are scored by what they share.  Scores are in percent.
-/

namespace WebhookWise

namespace IncidentGrouping

/-- What the grouping task reads of a row of `webhook_events`. -/
structure WebhookEvent where
  id : Nat
  source : String
  sourceConnectionId : Option Nat
  timestamp : DateTime
  parsedData : Option Json
  aiAnalysis : Option Json
  importance : Option String

structure GroupingSettings where
  incidentMinImportance : String
  syntheticSources : String
  autoSlaMinutes : PyDict Int

/-! ## Payloads -/

/-- The entries of a JSON document; anything but a dict counts as an empty one. -/
def entriesOf : Option Json → JsonObject
  | some (.dict entries) => entries
  | _ => []

variable (python : PythonRuntime)

/-- `str(first or second or … or "")`, of the values under these keys. -/
def firstTruthyText (entries : JsonObject) (keys : List String) : String :=
  match keys.findSome? fun key => (entries.get? key).filter Json.truthy with
  | some value => value.pyStr python
  | none => ""

/-- `text.strip().lower()`. -/
def normalizedText (text : String) : String :=
  python.lower (strip text)

def eventRuleName (event : WebhookEvent) : String :=
  truncated
    (strip (firstTruthyText python (entriesOf event.parsedData)
      ["RuleName", "AlertName", "alert_name"])) 200

/-- `str(key).replace("-", "_").lower()`. -/
def normalizedKey (key : String) : String :=
  python.lower (String.ofList (key.toList.map fun character =>
    if character = '-' then '_' else character))

def nestedKeys : List String :=
  ["labels", "commonlabels", "common_labels", "metadata", "dimensions", "tags"]

def queuedBy (entry : String × Json) : List JsonObject :=
  match entry.2 with
  | .dict entries => if normalizedKey python entry.1 ∈ nestedKeys then [entries] else []
  | .list items =>
      if normalizedKey python entry.1 = "alerts" then
        (items.take 5).filterMap fun
          | .dict entries => some entries
          | _ => none
      else []
  | _ => []

/-- `entries.setdefault(key, value)`. -/
def setDefault {Value : Type} (entries : PyDict Value) (key : String) (value : Value) :
    PyDict Value :=
  match entries.get? key with
  | some _ => entries
  | none => entries.set key value

/-- The loop of `_flatten_payload`, which stops when the queue is empty or a hundred keys
are found. -/
def flattenQueue : Nat → List JsonObject → JsonObject → JsonObject
  | 0, _, flattened => flattened
  | _, [], flattened => flattened
  | fuel + 1, current :: queue, flattened =>
      if flattened.length < 100 then
        flattenQueue fuel (queue ++ current.flatMap (queuedBy python))
          (current.foldl (fun flattened entry =>
            setDefault flattened (normalizedKey python entry.1) entry.2) flattened)
      else flattened

mutual

/-- The number of dicts in a document, which bounds what is ever queued. -/
def dictCount : Json → Nat
  | .list items => dictCountItems items
  | .dict entries => 1 + dictCountEntries entries
  | _ => 0

def dictCountItems : List Json → Nat
  | [] => 0
  | item :: items => dictCount item + dictCountItems items

def dictCountEntries : List (String × Json) → Nat
  | [] => 0
  | (_, value) :: entries => dictCount value + dictCountEntries entries

end

def flattenPayload (payload : JsonObject) : JsonObject :=
  flattenQueue python (1 + dictCountEntries payload) [payload] []

section Termination

def queuedDicts : List JsonObject → Nat
  | [] => 0
  | entries :: queue => 1 + dictCountEntries entries + queuedDicts queue

private theorem queuedDicts_items (items : List Json) :
    queuedDicts (items.filterMap fun
      | .dict entries => some entries
      | _ => none) ≤ dictCountItems items := by
  induction items with
  | nil => simp [queuedDicts]
  | cons item items ih =>
      cases item <;> simp [queuedDicts, dictCountItems, dictCount] at ih ⊢ <;> omega

private theorem dictCountItems_take (items : List Json) (limit : Nat) :
    dictCountItems (items.take limit) ≤ dictCountItems items := by
  induction items generalizing limit with
  | nil => simp
  | cons item items ih =>
      cases limit with
      | zero => simp [dictCountItems]
      | succ limit =>
          have rest := ih limit
          simp only [List.take_succ_cons, dictCountItems]
          omega

theorem queuedDicts_append (first second : List JsonObject) :
    queuedDicts (first ++ second) = queuedDicts first + queuedDicts second := by
  induction first with
  | nil => simp [queuedDicts]
  | cons entries first ih =>
      simp only [List.cons_append, queuedDicts, ih]
      omega

private theorem queuedDicts_queuedBy (entry : String × Json) :
    queuedDicts (queuedBy python entry) ≤ dictCount entry.2 := by
  unfold queuedBy
  split
  · rename_i entries isDict
    rw [isDict]
    split <;> simp [queuedDicts, dictCount]
  · rename_i items isList
    rw [isList]
    split
    · have taken := queuedDicts_items (items.take 5)
      have fewer := dictCountItems_take items 5
      simp only [dictCount]
      omega
    · simp [queuedDicts]
  · simp [queuedDicts]

theorem queuedDicts_flatMap (entries : JsonObject) :
    queuedDicts (entries.flatMap (queuedBy python)) ≤ dictCountEntries entries := by
  induction entries with
  | nil => simp [queuedDicts]
  | cons entry entries ih =>
      have first := queuedDicts_queuedBy python entry
      rw [List.flatMap_cons, queuedDicts_append]
      simp only [dictCountEntries]
      omega

theorem flattenQueue_of_le {fuel : Nat} {queue : List JsonObject} (flattened : JsonObject)
    (enough : queuedDicts queue ≤ fuel) (more : Nat) :
    flattenQueue python (fuel + more) queue flattened = flattenQueue python fuel queue flattened := by
  induction fuel generalizing queue flattened with
  | zero =>
      cases queue with
      | nil => cases more <;> rfl
      | cons current queue => simp [queuedDicts] at enough
  | succ fuel ih =>
      cases queue with
      | nil =>
          rw [Nat.add_right_comm]
          rfl
      | cons current queue =>
          rw [Nat.add_right_comm]
          simp only [flattenQueue]
          split
          · apply ih
            have nested := queuedDicts_flatMap python current
            rw [queuedDicts_append]
            simp only [queuedDicts] at enough ⊢
            omega
          · rfl

end Termination

section Lookups

theorem get?_setDefault {Value : Type} (entries : PyDict Value) (key wanted : String)
    (value : Value) :
    (setDefault entries key value).get? wanted =
      (entries.get? wanted).or (if wanted = key then some value else none) := by
  unfold setDefault
  cases present : entries.get? key with
  | some kept =>
      by_cases same : wanted = key
      · subst same
        simp [present]
      · simp [same]
  | none =>
      rw [PyDict.get?_set]
      by_cases same : wanted = key
      · subst same
        simp [present]
      · simp [same]

theorem get?_foldl_setDefault (entries flattened : JsonObject) (key : String) :
    PyDict.get? (entries.foldl (fun flattened entry =>
        setDefault flattened (normalizedKey python entry.1) entry.2) flattened) key =
      (flattened.get? key).or
        ((entries.find? fun entry => normalizedKey python entry.1 = key).map Prod.snd) := by
  induction entries generalizing flattened with
  | nil => simp
  | cons entry entries ih =>
      rw [List.foldl_cons, ih, get?_setDefault, Option.or_assoc, List.find?_cons]
      by_cases same : normalizedKey python entry.1 = key
      · simp [same]
      · simp [same, Ne.symm same]

theorem get?_flattenQueue {fuel : Nat} {queue : List JsonObject} {flattened : JsonObject}
    {key : String} {value : Json} (found : flattened.get? key = some value) :
    (flattenQueue python fuel queue flattened).get? key = some value := by
  induction fuel generalizing queue flattened with
  | zero => exact found
  | succ fuel ih =>
      cases queue with
      | nil => exact found
      | cons current queue =>
          simp only [flattenQueue]
          split
          · apply ih
            rw [get?_foldl_setDefault, found]
            rfl
          · exact found

theorem get?_flattenPayload_of_find? {payload : JsonObject} {key : String} {entry : String × Json}
    (found : payload.find? (fun entry => normalizedKey python entry.1 = key) = some entry) :
    (flattenPayload python payload).get? key = some entry.2 := by
  have room : ([] : JsonObject).length < 100 := by
    decide
  unfold flattenPayload
  rw [Nat.add_comm, flattenQueue, if_pos room]
  apply get?_flattenQueue
  rw [get?_foldl_setDefault, found]
  rfl

end Lookups

/-! ## Dimensions -/

def dimensionAliases : List (String × List String) :=
  [("service", ["service", "service_name", "servicename", "application", "app"]),
    ("project", ["project", "project_name", "projectname"]),
    ("environment", ["environment", "env", "cluster"]),
    ("region", ["region", "region_id", "regionid"])]

/-- What a flattened payload says under an alias, when that is a nonempty scalar. -/
def dimensionValue (flattened : JsonObject) (aliasKey : String) : Option String :=
  match flattened.get? aliasKey with
  | none | some .null | some (.dict _) | some (.list _) => none
  | some value =>
      let normalized := normalizedText python (value.pyStr python)
      if normalized = "" then none else some (truncated normalized 200)

def dimensionsOf (flattened : JsonObject) : PyDict String :=
  dimensionAliases.filterMap fun dimension =>
    (dimension.2.findSome? (dimensionValue python flattened)).map fun value => (dimension.1, value)

def correlationDimensions (event : WebhookEvent) : PyDict String :=
  dimensionsOf python (flattenPayload python (entriesOf event.parsedData))

/-! ## Recoveries and importances -/

def recoveryValues : List String :=
  ["clear", "resolved", "recovered", "recovery", "ok", "normal", "healthy", "inactive", "up", "恢复"]

def saysRecovery (text : String) : Bool :=
  text ∈ recoveryValues || occursIn "恢复".toList text.toList

def isRecoveryPayload (parsedData aiAnalysis : Option Json) : Bool :=
  let flattened := flattenPayload python (entriesOf parsedData)
  (["status", "state", "alert_status", "event_status", "phase"].any fun key =>
      saysRecovery (normalizedText python (firstTruthyText python flattened [key]))) ||
    saysRecovery
      (normalizedText python (firstTruthyText python (entriesOf aiAnalysis) ["event_type", "type"]))

def isRecoveryEvent (event : WebhookEvent) : Bool :=
  isRecoveryPayload python event.parsedData event.aiAnalysis

def importanceRank : String → Option Nat
  | "low" => some 0
  | "medium" => some 1
  | "high" => some 2
  | _ => none

def incidentMinImportance (raw : String) : String :=
  let value := normalizedText python (if raw = "" then "low" else raw)
  if (importanceRank value).isSome then value else "low"

def importanceOpensIncident (importance : Option String) (floor : String) : Bool :=
  match importanceRank (normalizedText python (importance.getD "")) with
  | none => true
  | some rank => (importanceRank floor).getD 0 ≤ rank

def isSyntheticSource (settings : GroupingSettings) (source : String) : Bool :=
  normalizedText python source ∈ splitCsvLower python settings.syntheticSources

/-! ## Scores -/

def dimensionScore (left right : PyDict String) : Nat :=
  let shares (dimension : String) : Bool :=
    left.any fun entry =>
      entry.1 = dimension && entry.2 ≠ "" && (right.get? dimension).getD "" = entry.2
  if shares "service" && (shares "project" || shares "environment") then 90
  else if shares "service" && shares "region" then 85
  else if shares "project" && shares "environment" then 80
  else if shares "service" then 72
  else 0

def identityKeys : List String :=
  ["service", "project", "environment", "region"]

def dimensionsConflict (left right : PyDict String) : Bool :=
  identityKeys.any fun key =>
    match left.get? key, right.get? key with
    | some leftValue, some rightValue => rightValue ≠ "" && rightValue ≠ leftValue
    | _, _ => false

def sourceConnectionConflicts (left right : Option Nat) : Bool :=
  (left.isSome || right.isSome) && left ≠ right

def eventPairScore (left right : WebhookEvent) : Nat :=
  let sameSource := left.source = right.source
  let leftRule := eventRuleName python left
  let rightRule := eventRuleName python right
  let leftDimensions := correlationDimensions python left
  let rightDimensions := correlationDimensions python right
  let score := dimensionScore leftDimensions rightDimensions
  if sourceConnectionConflicts left.sourceConnectionId right.sourceConnectionId then 0
  else if dimensionsConflict leftDimensions rightDimensions then 0
  else if sameSource ∧ leftRule = rightRule then 100
  else if score ≠ 0 ∧ (sameSource ∨ 80 ≤ score) then score
  else if sameSource ∧ (leftRule = "" ∨ rightRule = "") then 65
  else 0

/-! ## What the scores respect -/

theorem sourceConnectionConflicts_eq_false {left right : Option Nat} :
    sourceConnectionConflicts left right = false ↔ left = right := by
  cases left <;> cases right <;> simp [sourceConnectionConflicts]

theorem dimensionsConflict_eq_false {left right : PyDict String} :
    dimensionsConflict left right = false ↔
      ∀ key ∈ identityKeys, ∀ leftValue rightValue, left.get? key = some leftValue →
        right.get? key = some rightValue → rightValue ≠ "" → rightValue = leftValue := by
  rw [dimensionsConflict, List.any_eq_false]
  constructor
  · intro agree key member leftValue rightValue leftEq rightEq nonempty
    have checked := agree key member
    rw [leftEq, rightEq] at checked
    simpa [nonempty] using checked
  · intro agree key member
    cases leftEq : left.get? key with
    | none => simp
    | some leftValue =>
        cases rightEq : right.get? key with
        | none => simp
        | some rightValue => simpa using agree key member leftValue rightValue leftEq rightEq

theorem agree_of_eventPairScore_ne_zero {left right : WebhookEvent}
    (scored : eventPairScore python left right ≠ 0) :
    left.sourceConnectionId = right.sourceConnectionId ∧
      dimensionsConflict (correlationDimensions python left) (correlationDimensions python right) =
        false := by
  unfold eventPairScore at scored
  simp only at scored
  split at scored
  · contradiction
  · rename_i connection
    split at scored
    · contradiction
    · rename_i dimensions
      exact ⟨sourceConnectionConflicts_eq_false.1 (by simpa using connection),
        by simpa using dimensions⟩

theorem mem_correlationDimensions {event : WebhookEvent} {entry : String × String}
    (member : entry ∈ correlationDimensions python event) :
    entry.1 ∈ identityKeys ∧ entry.2 ≠ "" := by
  obtain ⟨dimension, dimensionMember, found⟩ := List.mem_filterMap.1 member
  obtain ⟨value, valueEq, rfl⟩ := Option.map_eq_some_iff.1 found
  obtain ⟨aliasKey, -, valueAt⟩ := List.exists_of_findSome?_eq_some valueEq
  refine ⟨?_, ?_⟩
  · have kinds : ∀ dimension ∈ dimensionAliases, dimension.1 ∈ identityKeys := by decide
    exact kinds dimension dimensionMember
  · unfold dimensionValue at valueAt
    split at valueAt
    · contradiction
    · contradiction
    · contradiction
    · contradiction
    · simp only at valueAt
      split at valueAt
      · contradiction
      · rename_i nonempty
        obtain rfl := Option.some.inj valueAt
        intro empty
        apply nonempty
        have characters := congrArg String.toList empty
        simpa [truncated] using characters

end IncidentGrouping

end WebhookWise
