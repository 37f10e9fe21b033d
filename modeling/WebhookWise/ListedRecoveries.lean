import Mathlib.Data.Finset.Card
import WebhookWise.IncidentAlerts
import WebhookWise.JsonColumns

/-!
# The recovery flag of the alert list

The list projects five keys of the payload and one of the analysis as text, and asks the recovery
detector about these.  The detector itself reads more: the first spelling of a key, label maps,
lists of alerts, and another key of the analysis.
-/

namespace WebhookWise

namespace ListedRecoveries

open IncidentGrouping JsonColumns

structure SummaryRow where
  parsedStatus : Option String
  parsedState : Option String
  parsedAlertStatus : Option String
  parsedEventStatus : Option String
  parsedPhase : Option String
  analysisEventType : Option String

/-- The projections of `_SUMMARY_COLUMNS` that the flag is computed from. -/
def summaryRow (postgres : PostgresText) (parsedData aiAnalysis : Option Json) : SummaryRow where
  parsedStatus := astext postgres parsedData "status"
  parsedState := astext postgres parsedData "state"
  parsedAlertStatus := astext postgres parsedData "alert_status"
  parsedEventStatus := astext postgres parsedData "event_status"
  parsedPhase := astext postgres parsedData "phase"
  analysisEventType := astext postgres aiAnalysis "event_type"

def recoveryStatusColumns : List (String × (SummaryRow → Option String)) :=
  [("status", SummaryRow.parsedStatus), ("state", SummaryRow.parsedState),
    ("alert_status", SummaryRow.parsedAlertStatus), ("event_status", SummaryRow.parsedEventStatus),
    ("phase", SummaryRow.parsedPhase)]

def nonempty (text : Option String) : Option String :=
  text.filter fun text => text ≠ ""

section Flags

variable (python : PythonRuntime)

def rowIsRecovery (row : SummaryRow) : Bool :=
  let parsed := recoveryStatusColumns.filterMap fun column =>
    (nonempty (column.2 row)).map fun text => (column.1, Json.str text)
  isRecoveryPayload python (some (.dict parsed))
    ((nonempty row.analysisEventType).map fun text => .dict [("event_type", .str text)])

/-! ## What is read -/

def statusKeys : List String :=
  ["status", "state", "alert_status", "event_status", "phase"]

/-- A text that was read, in whatever case and with whatever blanks, names a recovery. -/
def Recovers (text : String) : Prop :=
  saysRecovery (normalizedText python text) = true

def listed (postgres : PostgresText) (column : Option Json) (key : String) : String :=
  (astext postgres column key).getD ""

/-- The first spelling of the key in the payload itself is the exact one, and has a string. -/
def ReadAlike (parsedData : Option Json) (key : String) : Prop :=
  ∃ text, (entriesOf parsedData).find? (fun entry => normalizedKey python entry.1 = key) =
    some (key, .str text)

/-- The analysis has a type of the event, which is a string. -/
def TypeReadAlike (aiAnalysis : Option Json) : Prop :=
  ∃ text, text ≠ "" ∧ (entriesOf aiAnalysis).get? "event_type" = some (.str text)

/-- Something that both read from one string names a recovery. -/
def BothRecover (postgres : PostgresText) (parsedData aiAnalysis : Option Json) : Prop :=
  (∃ key ∈ statusKeys, ReadAlike python parsedData key ∧
      Recovers python (listed postgres parsedData key)) ∨
    TypeReadAlike aiAnalysis ∧ Recovers python (listed postgres aiAnalysis "event_type")

/-- Of the rest, something that the list reads names a recovery. -/
def ListRecovers (postgres : PostgresText) (parsedData aiAnalysis : Option Json) : Prop :=
  (∃ key ∈ statusKeys, ¬ ReadAlike python parsedData key ∧
      Recovers python (listed postgres parsedData key)) ∨
    ¬ TypeReadAlike aiAnalysis ∧ Recovers python (listed postgres aiAnalysis "event_type")

/-! ## Where the detector reads -/

def asObject : Json → Option JsonObject
  | .dict entries => some entries
  | _ => none

/-- The objects that an entry holds: a label map, or the first five of the alerts. -/
def heldBy (entry : String × Json) : List JsonObject :=
  if normalizedKey python entry.1 = "alerts" then
    match entry.2 with
    | .list alerts => (alerts.take 5).filterMap asObject
    | _ => []
  else if normalizedKey python entry.1 ∈
      ["commonlabels", "common_labels", "dimensions", "labels", "metadata", "tags"] then
    (asObject entry.2).toList
  else []

/-- The payload, and then always what the objects of the depth before hold. -/
def objectsAt (payload : JsonObject) : Nat → List JsonObject
  | 0 => [payload]
  | depth + 1 => (objectsAt payload depth).flatMap fun object => object.flatMap (heldBy python)

def objectsAbove (payload : JsonObject) (depth : Nat) : List JsonObject :=
  (List.range depth).flatMap (objectsAt python payload)

/-- The keys of objects, each counted once however often and however it is spelled. -/
def keysOf (objects : List JsonObject) : Finset String :=
  (objects.flatten.map fun entry => normalizedKey python entry.1).toFinset

/-- The first object that has the key has this value under it, and there are less than a hundred
keys in front of that object. -/
def ReadsAmong (objects : List JsonObject) (key : String) (value : Json) : Prop :=
  ∃ before object after, objects = before ++ object :: after ∧
    (keysOf python before).card < 100 ∧ key ∉ keysOf python before ∧
      (object.find? fun entry => normalizedKey python entry.1 = key).map Prod.snd = some value

/-- In the order of their depth, the objects have this value under the key. -/
def Reads (payload : JsonObject) (key : String) (value : Json) : Prop :=
  ∃ depth, ReadsAmong python (objectsAbove python payload depth) key value

/-- The analysis has this under `event_type`, or else under `type`. -/
def ReadsType (aiAnalysis : Option Json) (value : Json) : Prop :=
  value.truthy = true ∧ (entriesOf aiAnalysis).get? "event_type" = some value ∨
    (∀ type, (entriesOf aiAnalysis).get? "event_type" = some type → type.truthy = false) ∧
      value.truthy = true ∧ (entriesOf aiAnalysis).get? "type" = some value

/-- Of the rest, something that the detector reads names a recovery. -/
def DetectorRecovers (parsedData aiAnalysis : Option Json) : Prop :=
  (∃ key ∈ statusKeys, ¬ ReadAlike python parsedData key ∧
      ∃ value, Reads python (entriesOf parsedData) key value ∧ value.truthy = true ∧
        Recovers python (value.pyStr python)) ∨
    ¬ TypeReadAlike aiAnalysis ∧
      ∃ value, ReadsType aiAnalysis value ∧ Recovers python (value.pyStr python)

/-- The keys that are asked for are spelled as the detector normalizes them. -/
def KeepsStatusKeys : Prop :=
  ∀ key ∈ statusKeys, normalizedKey python key = key

end Flags

/-! ## The order of reading -/

section Order

variable (python : PythonRuntime)

theorem heldBy_eq_queuedBy : heldBy python = queuedBy python := by
  funext entry
  unfold heldBy queuedBy nestedKeys
  by_cases alerts : normalizedKey python entry.1 = "alerts"
  · rw [alerts]
    cases entry.2 with
    | list items => rfl
    | _ => rfl
  · have sameKeys : normalizedKey python entry.1 ∈
        ["commonlabels", "common_labels", "dimensions", "labels", "metadata", "tags"] ↔
        normalizedKey python entry.1 ∈
          ["labels", "commonlabels", "common_labels", "metadata", "dimensions", "tags"] := by
      simp only [List.mem_cons, List.not_mem_nil, or_false]
      tauto
    simp only [alerts, if_false, sameKeys]
    cases entry.2 with
    | dict entries => rfl
    | _ => exact ite_self _

def absorb (flattened : JsonObject) (object : JsonObject) : JsonObject :=
  object.foldl (fun flattened entry =>
    setDefault flattened (normalizedKey python entry.1) entry.2) flattened

/-- One object after the other, as long as there is room. -/
def absorbed (flattened : JsonObject) (objects : List JsonObject) : JsonObject :=
  objects.foldl (fun flattened object =>
    if flattened.length < 100 then absorb python flattened object else flattened) flattened

variable {python} {flattened payload : JsonObject} {objects queue : List JsonObject} {fuel : Nat}
  {key : String} {value : Json}

theorem flattenQueue_of_full (full : ¬ flattened.length < 100) :
    flattenQueue python fuel queue flattened = flattened := by
  cases fuel with
  | zero => rfl
  | succ fuel =>
      cases queue with
      | nil => rfl
      | cons current queue => exact if_neg full

theorem absorbed_of_full (full : ¬ flattened.length < 100) :
    absorbed python flattened objects = flattened := by
  induction objects with
  | nil => rfl
  | cons object objects ih =>
      rw [absorbed, List.foldl_cons, if_neg full]
      exact ih

theorem flattenQueue_append :
    flattenQueue python (objects.length + fuel) (objects ++ queue) flattened =
      flattenQueue python fuel
        (queue ++ objects.flatMap fun object => object.flatMap (queuedBy python))
        (absorbed python flattened objects) := by
  induction objects generalizing queue flattened with
  | nil => simp [absorbed]
  | cons object objects ih =>
      by_cases room : flattened.length < 100
      · rw [List.length_cons, Nat.add_right_comm, List.cons_append, flattenQueue, if_pos room,
          List.append_assoc, ih, List.flatMap_cons, List.append_assoc, absorbed, absorbed,
          List.foldl_cons, if_pos room]
        rfl
      · rw [flattenQueue_of_full room, absorbed_of_full room, flattenQueue_of_full room]

theorem queuedDicts_next (objects : List JsonObject) :
    queuedDicts (objects.flatMap fun object => object.flatMap (queuedBy python)) +
      objects.length ≤ queuedDicts objects := by
  induction objects with
  | nil => simp [queuedDicts]
  | cons object objects ih =>
      have held := queuedDicts_flatMap python object
      rw [List.flatMap_cons, queuedDicts_append, queuedDicts, List.length_cons]
      omega

theorem objectsAbove_succ (depth : Nat) :
    objectsAbove python payload (depth + 1) =
      objectsAbove python payload depth ++ objectsAt python payload depth := by
  simp [objectsAbove, List.range_succ]

/-- A depth is read after the one before, and deeper ones hold less and less. -/
theorem flattenPayload_at (depth : Nat) :
    ∃ fuel, queuedDicts (objectsAt python payload depth) ≤ fuel ∧
      flattenPayload python payload = flattenQueue python fuel (objectsAt python payload depth)
        (absorbed python [] (objectsAbove python payload depth)) ∧
      (objectsAt python payload depth = [] ∨
        queuedDicts (objectsAt python payload depth) + depth ≤ 1 + dictCountEntries payload) := by
  induction depth with
  | zero => exact ⟨1 + dictCountEntries payload, by simp [objectsAt, queuedDicts], rfl,
      Or.inr (by simp [objectsAt, queuedDicts])⟩
  | succ depth ih =>
      obtain ⟨fuel, enough, flattens, shrinks⟩ := ih
      have next := @queuedDicts_next python (objectsAt python payload depth)
      have whole := @flattenQueue_append python
        (absorbed python [] (objectsAbove python payload depth)) (objectsAt python payload depth)
        [] fuel
      rw [List.append_nil, List.nil_append, Nat.add_comm,
        flattenQueue_of_le python _ enough] at whole
      rw [objectsAbove_succ, objectsAt, heldBy_eq_queuedBy]
      refine ⟨fuel, by omega, ?_, ?_⟩
      · rw [flattens, whole]
        simp only [absorbed, List.foldl_append]
      · rcases shrinks with nothing | shrinks
        · exact Or.inl (by rw [nothing]; rfl)
        · by_cases nothing : objectsAt python payload depth = []
          · exact Or.inl (by rw [nothing]; rfl)
          · have positive := List.length_pos_iff.2 nothing
            exact Or.inr (by omega)

theorem exists_flattenPayload_eq :
    ∃ depth, objectsAt python payload depth = [] ∧
      flattenPayload python payload = absorbed python [] (objectsAbove python payload depth) := by
  obtain ⟨fuel, _, flattens, nothing | shrinks⟩ :=
    @flattenPayload_at python payload (2 + dictCountEntries payload)
  · refine ⟨_, nothing, ?_⟩
    rw [flattens, nothing]
    cases fuel <;> rfl
  · omega

theorem objectsAt_of_le {depth later : Nat} (nothing : objectsAt python payload depth = [])
    (le : depth ≤ later) : objectsAt python payload later = [] := by
  induction le with
  | refl => exact nothing
  | step _ ih =>
      rw [objectsAt, ih]
      rfl

theorem distinct_absorb (distinct : flattened.Distinct) (object : JsonObject) :
    (absorb python flattened object).Distinct := by
  induction object generalizing flattened with
  | nil => exact distinct
  | cons entry object ih =>
      apply ih
      change (setDefault flattened _ _).Distinct
      unfold setDefault
      split
      · exact distinct
      · exact distinct.set _ _

theorem get?_absorb_nil (entries : JsonObject) :
    PyDict.get? (absorb python [] entries) key =
      (entries.find? fun entry => normalizedKey python entry.1 = key).map Prod.snd := by
  rw [absorb, get?_foldl_setDefault]
  rfl

theorem mem_keysOf :
    key ∈ keysOf python objects ↔ ∃ entry ∈ objects.flatten, normalizedKey python entry.1 = key := by
  rw [keysOf, List.mem_toFinset, List.mem_map]

variable (objects : List JsonObject)

theorem length_absorb_flatten :
    (absorb python [] objects.flatten).length = (keysOf python objects).card := by
  have distinct : (absorb python [] objects.flatten).Distinct :=
    distinct_absorb (by simp [PyDict.Distinct]) _
  have keys : ((absorb python [] objects.flatten).map Prod.fst).toFinset =
      keysOf python objects := by
    ext key
    have present := congrArg Option.isSome (@get?_absorb_nil python key objects.flatten)
    rw [PyDict.get?, Option.isSome_map, Option.isSome_map, Bool.eq_iff_iff, List.find?_isSome,
      List.find?_isSome] at present
    rw [List.mem_toFinset, List.mem_map, mem_keysOf]
    simpa only [decide_eq_true_eq] using present
  rw [← keys, List.toFinset_card_of_nodup distinct, List.length_map]

theorem absorb_flatten_concat (last : JsonObject) :
    absorb python (absorb python [] objects.flatten) last =
      absorb python [] (objects ++ [last]).flatten := by
  simp [absorb]

theorem absorbed_concat (last : JsonObject) :
    absorbed python [] (objects ++ [last]) =
      if (absorbed python [] objects).length < 100 then
        absorb python (absorbed python [] objects) last
      else absorbed python [] objects := by
  rw [absorbed, List.foldl_append]
  rfl

/-- While there is room everything is taken up. -/
theorem absorbed_eq (objects : List JsonObject) :
    if (keysOf python objects).card < 100 then
      absorbed python [] objects = absorb python [] objects.flatten
    else ¬ (absorbed python [] objects).length < 100 := by
  induction objects using List.reverseRecOn with
  | nil => simp [keysOf, absorbed, absorb]
  | append_singleton objects last ih =>
      have fewer : (keysOf python objects).card ≤ (keysOf python (objects ++ [last])).card := by
        refine Finset.card_le_card fun key member => ?_
        obtain ⟨entry, inside, same⟩ := mem_keysOf.1 member
        rw [mem_keysOf, List.flatten_append]
        exact ⟨entry, List.mem_append_left _ inside, same⟩
      by_cases room : (keysOf python objects).card < 100
      · rw [if_pos room] at ih
        rw [absorbed_concat, ih, length_absorb_flatten, if_pos room, absorb_flatten_concat]
        split
        · rfl
        · rwa [length_absorb_flatten]
      · rw [if_neg room] at ih
        rw [if_neg (by omega), absorbed_concat, if_neg ih]
        exact ih

theorem readsAmong_concat {last : JsonObject} :
    ReadsAmong python (objects ++ [last]) key value ↔
      ReadsAmong python objects key value ∨
        (keysOf python objects).card < 100 ∧ key ∉ keysOf python objects ∧
          (last.find? fun entry => normalizedKey python entry.1 = key).map Prod.snd =
            some value := by
  constructor
  · rintro ⟨before, object, after, parts, room, fresh, found⟩
    rcases List.eq_nil_or_concat' after with rfl | ⟨after, final, rfl⟩
    · obtain ⟨rfl, isLast⟩ := List.append_inj' parts rfl
      obtain rfl := (List.cons.inj isLast).1
      exact Or.inr ⟨room, fresh, found⟩
    · rw [← List.cons_append, ← List.append_assoc] at parts
      obtain ⟨rfl, -⟩ := List.append_inj' parts rfl
      exact Or.inl ⟨before, object, after, rfl, room, fresh, found⟩
  · rintro (⟨before, object, after, rfl, read⟩ | read)
    · exact ⟨before, object, after ++ [last], by simp, read⟩
    · exact ⟨objects, last, [], rfl, read⟩

theorem get?_absorbed :
    PyDict.get? (absorbed python [] objects) key = some value ↔
      ReadsAmong python objects key value := by
  induction objects using List.reverseRecOn with
  | nil => simp [absorbed, PyDict.get?, ReadsAmong]
  | append_singleton objects last ih =>
      rw [readsAmong_concat, ← ih, absorbed_concat]
      have soFar := @absorbed_eq python objects
      by_cases room : (keysOf python objects).card < 100
      · rw [if_pos room] at soFar
        rw [soFar, length_absorb_flatten, if_pos room, absorb, get?_foldl_setDefault]
        have known : key ∉ keysOf python objects ↔
            PyDict.get? (absorb python [] objects.flatten) key = none := by
          rw [get?_absorb_nil, Option.map_eq_none_iff, List.find?_eq_none, mem_keysOf]
          simp only [decide_eq_true_eq, not_exists, not_and]
        rw [known]
        simp only [room, true_and]
        cases PyDict.get? (absorb python [] objects.flatten) key with
        | none | some => simp
      · rw [if_neg room] at soFar
        rw [if_neg soFar]
        simp [room]

/-- There is nothing beyond an empty depth. -/
theorem objectsAbove_of_le {depth later : Nat} (le : depth ≤ later) :
    ∃ beyond, objectsAbove python payload later = objectsAbove python payload depth ++ beyond ∧
      (objectsAt python payload depth = [] → beyond = []) := by
  induction le with
  | refl => exact ⟨[], (List.append_nil _).symm, fun _ => rfl⟩
  | @step later le ih =>
      obtain ⟨beyond, parts, nothing⟩ := ih
      refine ⟨beyond ++ objectsAt python payload later, ?_, fun isEmpty => ?_⟩
      · rw [objectsAbove_succ, parts, List.append_assoc]
      · rw [nothing isEmpty, objectsAt_of_le isEmpty le, List.append_nil]

/-- The flattened payload is what is read in the order of the depths. -/
theorem get?_flattenPayload :
    PyDict.get? (flattenPayload python payload) key = some value ↔
      Reads python payload key value := by
  obtain ⟨depth, isEmpty, flattens⟩ := @exists_flattenPayload_eq python payload
  rw [flattens, get?_absorbed]
  constructor
  · rintro ⟨before, object, after, parts, read⟩
    exact ⟨depth, before, object, after, parts, read⟩
  · rintro ⟨other, before, object, after, parts, read⟩
    rcases le_total other depth with shallower | deeper
    · obtain ⟨beyond, more, -⟩ := @objectsAbove_of_le python payload _ _ shallower
      refine ⟨before, object, after ++ beyond, ?_, read⟩
      rw [more, parts, List.append_assoc, List.cons_append]
    · obtain ⟨beyond, more, nothing⟩ := @objectsAbove_of_le python payload _ _ deeper
      rw [nothing isEmpty, List.append_nil] at more
      exact ⟨before, object, after, more ▸ parts, read⟩

end Order

/-! ## Readings -/

section Readings

variable {python : PythonRuntime} {postgres : PostgresText} {parsedData aiAnalysis : Option Json}
  {key : String}

def detected (python : PythonRuntime) (parsedData : Option Json) (key : String) : String :=
  firstTruthyText python (flattenPayload python (entriesOf parsedData)) [key]

def detectedType (python : PythonRuntime) (aiAnalysis : Option Json) : String :=
  firstTruthyText python (entriesOf aiAnalysis) ["event_type", "type"]

theorem firstTruthyText_singleton (entries : JsonObject) (key : String) :
    firstTruthyText python entries [key] =
      match (entries.get? key).filter Json.truthy with
      | some value => value.pyStr python
      | none => "" := by
  unfold firstTruthyText
  rw [List.findSome?_cons, List.findSome?_nil]
  cases (entries.get? key).filter Json.truthy <;> rfl

theorem firstTruthyText_of_str {entries : JsonObject} {text : String}
    (found : entries.get? key = some (.str text)) :
    firstTruthyText python entries [key] = text := by
  rw [firstTruthyText_singleton, found]
  by_cases empty : text = ""
  · subst empty
    rfl
  · simp [Option.filter, Json.truthy, empty, Json.pyStr]

theorem detected_of_find? {entry : String × Json}
    (found : (entriesOf parsedData).find? (fun entry => normalizedKey python entry.1 = key) =
      some entry) (text : String) (isText : entry.2 = .str text) :
    detected python parsedData key = text := by
  apply firstTruthyText_of_str
  rw [get?_flattenPayload_of_find? python found, isText]

theorem listed_of_get? {column : Option Json} {text : String}
    (found : (entriesOf column).get? key = some (.str text)) :
    listed postgres column key = text := by
  unfold listed astext
  cases column with
  | none => cases found
  | some document =>
      cases document with
      | dict entries =>
          have there : PyDict.get? entries key = some (.str text) := found
          simp only [there]
          rfl
      | _ => cases found

theorem get?_of_find? {entries : JsonObject} {value : Json}
    (kept : normalizedKey python key = key)
    (found : entries.find? (fun entry => normalizedKey python entry.1 = key) =
      some (key, value)) : entries.get? key = some value := by
  obtain ⟨-, before, after, parts, others⟩ := List.find?_eq_some_iff_append.1 found
  have exact : entries.find? (fun entry => entry.1 = key) = some (key, value) := by
    apply List.find?_eq_some_iff_append.2
    refine ⟨decide_eq_true rfl, before, after, parts, fun entry member => ?_⟩
    have otherwise := others entry member
    simp only [Bool.not_eq_true', decide_eq_false_iff_not] at otherwise ⊢
    intro same
    rw [same] at otherwise
    exact otherwise kept
  unfold PyDict.get?
  rw [exact]
  rfl

theorem listed_eq_detected (kept : normalizedKey python key = key)
    (alike : ReadAlike python parsedData key) :
    listed postgres parsedData key = detected python parsedData key := by
  obtain ⟨text, found⟩ := alike
  rw [detected_of_find? found text rfl, listed_of_get? (get?_of_find? kept found)]

theorem listed_eq_detectedType (alike : TypeReadAlike aiAnalysis) :
    listed postgres aiAnalysis "event_type" = detectedType python aiAnalysis := by
  obtain ⟨text, notEmpty, found⟩ := alike
  rw [listed_of_get? found]
  unfold detectedType firstTruthyText
  rw [List.findSome?_cons, found]
  simp [Option.filter, Json.truthy, notEmpty, Json.pyStr]

theorem not_recovers_empty : ¬ Recovers python "" := by
  have blank : strip "" = "" := by decide
  rw [Recovers, normalizedText, blank, python.lower_empty]
  decide

theorem recovers_detected_iff :
    Recovers python (detected python parsedData key) ↔
      ∃ value, Reads python (entriesOf parsedData) key value ∧ value.truthy = true ∧
        Recovers python (value.pyStr python) := by
  simp only [detected, firstTruthyText_singleton, ← get?_flattenPayload]
  cases PyDict.get? (flattenPayload python (entriesOf parsedData)) key with
  | none => simp [not_recovers_empty]
  | some value =>
      cases truthy : value.truthy with
      | true => simp [Option.filter, truthy]
      | false => simp [Option.filter, truthy, not_recovers_empty]

theorem recovers_detectedType_iff :
    Recovers python (detectedType python aiAnalysis) ↔
      ∃ value, ReadsType aiAnalysis value ∧ Recovers python (value.pyStr python) := by
  unfold detectedType firstTruthyText ReadsType
  rw [List.findSome?_cons, List.findSome?_cons, List.findSome?_nil]
  cases (entriesOf aiAnalysis).get? "event_type" with
  | none =>
      cases (entriesOf aiAnalysis).get? "type" with
      | none => simp [not_recovers_empty]
      | some other =>
          cases truthy : other.truthy <;>
            simp [Option.filter, truthy, and_comm, not_recovers_empty]
  | some type =>
      cases truthy : type.truthy with
      | true => simp [Option.filter, truthy, and_comm]
      | false =>
          cases (entriesOf aiAnalysis).get? "type" with
          | none => simp [Option.filter, truthy, and_comm, not_recovers_empty]
          | some other =>
              cases otherTruthy : other.truthy <;>
                simp [Option.filter, truthy, otherTruthy, and_comm, or_and_right, exists_or,
                  not_recovers_empty]

theorem isRecoveryPayload_eq_true_iff :
    isRecoveryPayload python parsedData aiAnalysis = true ↔
      (∃ key ∈ statusKeys, Recovers python (detected python parsedData key)) ∨
        Recovers python (detectedType python aiAnalysis) := by
  unfold isRecoveryPayload
  rw [Bool.or_eq_true, List.any_eq_true]
  rfl

def projected (keys : List String) (texts : String → Option String) : JsonObject :=
  keys.filterMap fun key => (nonempty (texts key)).map fun text => (key, Json.str text)

theorem find?_projected {keys : List String} {texts : String → Option String}
    (kept : ∀ key ∈ keys, normalizedKey python key = key) (asked : key ∈ keys) :
    (projected keys texts).find? (fun entry => normalizedKey python entry.1 = key) =
      (nonempty (texts key)).map fun text => (key, Json.str text) := by
  have general : (projected keys texts).find? (fun entry => normalizedKey python entry.1 = key) =
      if key ∈ keys then (nonempty (texts key)).map fun text => (key, Json.str text) else none := by
    clear asked
    induction keys with
    | nil => rfl
    | cons first keys ih =>
        have firstKept : normalizedKey python first = first := kept first List.mem_cons_self
        have found := ih fun key asked => kept key (List.mem_cons_of_mem first asked)
        unfold projected at found ⊢
        rw [List.filterMap_cons]
        by_cases same : key = first
        · subst same
          cases text : nonempty (texts key) with
          | none => simp [found, text]
          | some text => simp [firstKept]
        · cases text : nonempty (texts first) with
          | none => simp [found, same]
          | some text => simp [found, firstKept, same, Ne.symm same]
  rw [general, if_pos asked]

theorem dictCountEntries_projected (keys : List String) (texts : String → Option String) :
    dictCountEntries (projected keys texts) = 0 := by
  induction keys with
  | nil => rfl
  | cons key keys ih =>
      unfold projected at ih ⊢
      rw [List.filterMap_cons]
      cases nonempty (texts key) with
      | none => exact ih
      | some text =>
          simp only [Option.map_some, dictCountEntries, dictCount, ih]

theorem detected_projected {keys : List String} {texts : String → Option String}
    (kept : ∀ key ∈ keys, normalizedKey python key = key) (asked : key ∈ keys) :
    detected python (some (.dict (projected keys texts))) key = (texts key).getD "" := by
  have flattened : flattenPayload python (projected keys texts) =
      (projected keys texts).foldl (fun flattened entry =>
        setDefault flattened (normalizedKey python entry.1) entry.2) [] := by
    unfold flattenPayload
    rw [dictCountEntries_projected]
    rfl
  unfold detected entriesOf
  rw [firstTruthyText_singleton, flattened, get?_foldl_setDefault, find?_projected kept asked]
  cases texts key with
  | none => rfl
  | some text =>
      by_cases empty : text = ""
      · subst empty
        rfl
      · simp [nonempty, Option.filter, PyDict.get?, empty, Json.truthy, Json.pyStr]

theorem detectedType_projected (text : Option String) :
    detectedType python ((nonempty text).map fun text => .dict [("event_type", .str text)]) =
      text.getD "" := by
  cases text with
  | none => rfl
  | some text =>
      by_cases empty : text = ""
      · subst empty
        rfl
      · simp [nonempty, Option.filter, empty, detectedType, entriesOf, firstTruthyText, PyDict.get?,
          Json.truthy, Json.pyStr]

theorem rowIsRecovery_eq_true_iff (kept : KeepsStatusKeys python) :
    rowIsRecovery python (summaryRow postgres parsedData aiAnalysis) = true ↔
      (∃ key ∈ statusKeys, Recovers python (listed postgres parsedData key)) ∨
        Recovers python (listed postgres aiAnalysis "event_type") := by
  have parsed : rowIsRecovery python (summaryRow postgres parsedData aiAnalysis) =
      isRecoveryPayload python (some (.dict (projected statusKeys (astext postgres parsedData))))
        ((nonempty (astext postgres aiAnalysis "event_type")).map fun text =>
          .dict [("event_type", .str text)]) := rfl
  rw [parsed, isRecoveryPayload_eq_true_iff, detectedType_projected]
  apply or_congr_left
  apply exists_congr
  intro key
  apply and_congr_right
  intro asked
  rw [detected_projected kept asked]
  rfl

private theorem recovers_split (alike : String → Prop) (typeAlike : Prop)
    (texts : String → String) (type : String) :
    ((∃ key ∈ statusKeys, Recovers python (texts key)) ∨ Recovers python type) ↔
      ((∃ key ∈ statusKeys, alike key ∧ Recovers python (texts key)) ∨
          typeAlike ∧ Recovers python type) ∨
        ((∃ key ∈ statusKeys, ¬ alike key ∧ Recovers python (texts key)) ∨
          ¬ typeAlike ∧ Recovers python type) := by
  rw [or_or_or_comm, ← exists_or]
  simp only [← and_or_left, ← or_and_right, Classical.em, true_and]

end Readings

private theorem plain_keepsStatusKeys : KeepsStatusKeys .plain := by
  unfold KeepsStatusKeys
  decide +kernel

def labelledPayload : Json :=
  .dict [("status", .str "Resolved"), ("labels", .dict [("status", .str "firing")])]

end ListedRecoveries

end WebhookWise
