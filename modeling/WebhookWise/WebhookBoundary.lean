import WebhookWise.PythonValues

/-!
# The declared fields of a normalized webhook

At `webhook_data_from_mapping` some forty names have a declared type, and a document passes if every
field under such a name has it.  Documents come from `json.loads`, so the walk that looks for values
which are not JSON returns every value as it is.
-/

namespace WebhookWise

namespace WebhookBoundary

/-- The exceptions that normalizing a webhook can raise.  The texts which the interpreter
itself puts into an exception are left out. -/
inductive Raised where
  | attributeError
  | indexError
  | keyError
  | typeError
  | valueError (message : String)
deriving DecidableEq

/-- The sets of names that share a type. -/
inductive FieldKind where
  | string
  | optionalString
  | mapping
  | listOfMappings
  | int
  | float
  | bool
  | listOfFloats
  | datetime
  | json
deriving DecidableEq

/-- The `_…_WEBHOOK_FIELDS`. -/
def FieldKind.names : FieldKind → List String
  | string =>
      ["source", "timestamp", "Type", "RuleName", "AlertName", "MetricName", "Namespace", "Level",
        "Severity", "event_type", "alert_id", "alert_name", "service", "summary", "msg_type",
        "action", "status", "gateway_session_key", "gateway_run_id", "engine",
        "first_trigger_time", "trigger_condition", "query_result", "_adapter"]
  | optionalString => ["client_ip"]
  | mapping =>
      ["headers", "parsed_data", "card", "labels", "annotations", "analysis_result",
        "_alert_identity"]
  | listOfMappings => ["Resources", "alerts"]
  | int => ["webhook_event_id", "poll_attempts"]
  | float => ["duration_seconds"]
  | bool => ["_need_success_notify"]
  | listOfFloats => ["_embedding"]
  | datetime => ["created_at", "next_poll_at", "last_polled_at"]
  | json => ["body", "event", "id", "raw"]

def FieldKind.all : List FieldKind :=
  [string, optionalString, mapping, listOfMappings, int, float, bool, listOfFloats, datetime, json]

def fieldKind? (key : String) : Option FieldKind :=
  FieldKind.all.find? fun kind => kind.names.contains key

/-! ## Values -/

def isString : Json → Bool
  | .str _ => true
  | _ => false

def isMapping : Json → Bool
  | .dict _ => true
  | _ => false

/-- A Python `bool` is an `int`, so a list of numbers may hold one. -/
def isNumeric : Json → Bool
  | .int _ | .float _ | .bool _ => true
  | _ => false

def FieldKind.accepts : FieldKind → Json → Bool
  | string, value => isString value
  | optionalString, .null => true
  | optionalString, value => isString value
  | mapping, value => isMapping value
  | listOfMappings, .list items => items.all isMapping
  | int, .int _ => true
  | float, .int _ | float, .float _ => true
  | bool, .bool _ => true
  | listOfFloats, .list items => items.all isNumeric
  | datetime, _ | json, _ => true
  | _, _ => false

/-- What follows the name of the field in the message about a value of another type. -/
def FieldKind.demand : FieldKind → Json → String
  | string, _ => " must be a string"
  | optionalString, _ => " must be a string or null"
  | mapping, _ => " must be an object"
  | listOfMappings, .list items =>
      "[" ++ toString (items.findIdx fun item => ! isMapping item) ++ "] must be an object"
  | listOfMappings, _ => " must be a list"
  | int, _ => " must be an integer"
  | float, _ => " must be a number"
  | bool, _ => " must be a boolean"
  | listOfFloats, _ => " must be a numeric list"
  | datetime, _ | json, _ => ""

/-- What the boundary needs besides the document: the text Python prints for `float(value)`. -/
abbrev FloatOfInt := Int → String

variable (floatOfInt : FloatOfInt)

/-- `float(value)` of a number. -/
def toFloat : Json → Json
  | .int value => .float (floatOfInt value)
  | .bool value => .float (floatOfInt (if value then 1 else 0))
  | value => value

def FieldKind.copied : FieldKind → Json → Json
  | float, value => toFloat floatOfInt value
  | listOfFloats, .list items => .list (items.map (toFloat floatOfInt))
  | _, value => value

/-! ## Documents -/

/-- One field of `webhook_data_from_mapping`. -/
def checkedField (strict : Bool) (key : String) (value : Json) : Except Raised Json :=
  match fieldKind? key with
  | some kind =>
      if kind.accepts value then .ok (kind.copied floatOfInt value)
      else .error (.valueError ("WebhookData." ++ key ++ kind.demand value))
  | none =>
      if strict then .error (.valueError ("WebhookData." ++ key ++ " is not declared"))
      else .ok value

def webhookDataFromMapping (strict : Bool) : JsonObject → Except Raised JsonObject
  | [] => .ok []
  | (key, value) :: rest => do
      let field ← checkedField floatOfInt strict key value
      let fields ← webhookDataFromMapping strict rest
      return (key, field) :: fields

/-! ## What passes -/

variable {key : String} {value : Json}

/-- The value has the type that is declared for the name, if one is. -/
def HasDeclaredType (key : String) (value : Json) : Prop :=
  ∀ kind ∈ fieldKind? key, kind.accepts value = true

instance (key : String) (value : Json) : Decidable (HasDeclaredType key value) :=
  inferInstanceAs (Decidable (∀ kind ∈ fieldKind? key, kind.accepts value = true))

/-- The boundary's exception about a value which does not have the declared type. -/
def mistyped (key : String) (value : Json) : Raised :=
  .valueError ("WebhookData." ++ key ++
    match fieldKind? key with
    | some kind => kind.demand value
    | none => "")

variable {floatOfInt}

theorem hasDeclaredType_of_undeclared (undeclared : fieldKind? key = none) (value : Json) :
    HasDeclaredType key value := by
  intro kind declared
  simp [undeclared] at declared

theorem hasDeclaredType_iff {kind : FieldKind} (declared : fieldKind? key = some kind) :
    HasDeclaredType key value ↔ kind.accepts value = true := by
  simp [HasDeclaredType, declared]

theorem exists_checkedField {key : String} {value : Json} (typed : HasDeclaredType key value) :
    ∃ field, checkedField floatOfInt false key value = .ok field := by
  unfold checkedField
  split
  · rename_i kind declared
    exact ⟨_, if_pos (typed kind declared)⟩
  · exact ⟨value, rfl⟩

theorem checkedField_of_mistyped (untyped : ¬ HasDeclaredType key value) :
    checkedField floatOfInt false key value = .error (mistyped key value) := by
  cases declared : fieldKind? key with
  | none => exact absurd (hasDeclaredType_of_undeclared declared value) untyped
  | some kind =>
      have refused : ¬ kind.accepts value = true := fun accepted =>
        untyped ((hasDeclaredType_iff declared).2 accepted)
      simp only [checkedField, mistyped, declared, if_neg refused]

theorem exists_webhookDataFromMapping {document : JsonObject}
    (typed : ∀ entry ∈ document, HasDeclaredType entry.1 entry.2) :
    ∃ data, webhookDataFromMapping floatOfInt false document = .ok data := by
  induction document with
  | nil => exact ⟨[], rfl⟩
  | cons entry document ih =>
      obtain ⟨field, checked⟩ :=
        @exists_checkedField floatOfInt _ _ (typed entry (by simp))
      obtain ⟨fields, rest⟩ := ih fun other member => typed other (List.mem_cons_of_mem _ member)
      refine ⟨(entry.1, field) :: fields, ?_⟩
      simp only [webhookDataFromMapping, checked, rest]
      rfl

theorem webhookDataFromMapping_of_mistyped {document : JsonObject}
    (untyped : ¬ ∀ entry ∈ document, HasDeclaredType entry.1 entry.2) :
    ∃ entry ∈ document, ¬ HasDeclaredType entry.1 entry.2 ∧
      webhookDataFromMapping floatOfInt false document = .error (mistyped entry.1 entry.2) := by
  induction document with
  | nil => exact absurd (by simp) untyped
  | cons entry document ih =>
      by_cases first : HasDeclaredType entry.1 entry.2
      · obtain ⟨field, checked⟩ := @exists_checkedField floatOfInt _ _ first
        have later : ¬ ∀ entry ∈ document, HasDeclaredType entry.1 entry.2 := fun rest =>
          untyped (List.forall_mem_cons.2 ⟨first, rest⟩)
        obtain ⟨other, member, mistyped, raised⟩ := ih later
        refine ⟨other, List.mem_cons_of_mem _ member, mistyped, ?_⟩
        simp only [webhookDataFromMapping, checked, raised]
        rfl
      · refine ⟨entry, by simp, first, ?_⟩
        simp only [webhookDataFromMapping, checkedField_of_mistyped first]
        rfl

/-! ## What comes out -/

theorem accepts_copied {kind : FieldKind} (accepted : kind.accepts value = true) :
    kind.accepts (kind.copied floatOfInt value) = true := by
  cases kind with
  | float => cases value <;> first | rfl | simp [FieldKind.accepts] at accepted
  | listOfFloats =>
      cases value with
      | list items =>
          simp only [FieldKind.accepts, FieldKind.copied, List.all_map, List.all_eq_true] at *
          intro item member
          have numeric := accepted item member
          cases item <;> first | rfl | simp [isNumeric] at numeric
      | _ => simp [FieldKind.accepts] at accepted
  | _ => exact accepted

theorem hasDeclaredType_of_checkedField {field : Json}
    (checked : checkedField floatOfInt false key value = .ok field) :
    HasDeclaredType key field := by
  intro kind declared
  by_cases typed : HasDeclaredType key value
  · have accepted := typed kind declared
    simp only [checkedField, Option.mem_def.1 declared, if_pos accepted, Except.ok.injEq] at checked
    rw [← checked]
    exact accepts_copied accepted
  · rw [checkedField_of_mistyped typed] at checked
    cases checked

theorem toFloat_toFloat (value : Json) :
    toFloat floatOfInt (toFloat floatOfInt value) = toFloat floatOfInt value := by
  cases value <;> rfl

theorem copied_copied (kind : FieldKind) (value : Json) :
    kind.copied floatOfInt (kind.copied floatOfInt value) = kind.copied floatOfInt value := by
  cases kind with
  | float => exact toFloat_toFloat value
  | listOfFloats =>
      cases value with
      | list items =>
          simp only [FieldKind.copied, List.map_map]
          congr 1
          exact List.map_congr_left fun item _ => toFloat_toFloat item
      | _ => rfl
  | _ => rfl

theorem checkedField_again {field : Json}
    (checked : checkedField floatOfInt false key value = .ok field) :
    checkedField floatOfInt false key field = .ok field := by
  have typed := hasDeclaredType_of_checkedField checked
  unfold checkedField at checked ⊢
  cases declared : fieldKind? key with
  | none => rfl
  | some kind =>
      rw [declared] at checked
      dsimp only at checked ⊢
      split at checked
      · rw [if_pos (typed kind declared), ← Except.ok.inj checked, copied_copied]
      · cases checked

/-- Every field of a document that has passed has its declared type, and the document passes again
as it is. -/
theorem webhookDataFromMapping_again {document data : JsonObject}
    (passed : webhookDataFromMapping floatOfInt false document = .ok data) :
    (∀ entry ∈ data, HasDeclaredType entry.1 entry.2) ∧
      webhookDataFromMapping floatOfInt false data = .ok data := by
  induction document generalizing data with
  | nil =>
      cases passed
      exact ⟨by simp, rfl⟩
  | cons entry document ih =>
      cases checked : checkedField floatOfInt false entry.1 entry.2 with
      | error raised => simp [webhookDataFromMapping, checked, bind, Except.bind] at passed
      | ok field =>
          cases rest : webhookDataFromMapping floatOfInt false document with
          | error raised => simp [webhookDataFromMapping, checked, rest, bind, Except.bind] at passed
          | ok fields =>
              simp only [webhookDataFromMapping, checked, rest, bind, Except.bind, pure,
                Except.pure, Except.ok.injEq] at passed
              obtain ⟨typed, again⟩ := ih rest
              rw [← passed]
              refine ⟨List.forall_mem_cons.2 ⟨hasDeclaredType_of_checkedField checked, typed⟩, ?_⟩
              simp only [webhookDataFromMapping, checkedField_again checked, again]
              rfl

/-- An integer where a number is declared becomes a float. -/
theorem webhookDataFromMapping_again_duration :
    webhookDataFromMapping toString false [("duration_seconds", .float "90")] =
      .ok [("duration_seconds", .float "90")] :=
  (webhookDataFromMapping_again (by rfl : webhookDataFromMapping toString false
    [("duration_seconds", .int 90)] = _)).2

end WebhookBoundary

end WebhookWise
