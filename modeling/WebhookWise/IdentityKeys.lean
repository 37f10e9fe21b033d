import WebhookWise.PythonValues

/-!
# The identity of an alert

`generate_event_keys` digests two objects of key fields.  The alert hash names the alert, the
dedup key what its repeats have in common.  Both carry the namespace of a source connection,
if they are asked for one, so that no two connections share a dedup key.
-/

namespace WebhookWise

namespace IdentityKeys

/-- The off/shadow/enforce ladder. -/
inductive FingerprintMode where
  | off
  | shadow
  | enforce
deriving DecidableEq

def normalizeIdentityValue (python : PythonRuntime) : Json → Option String
  | .null => none
  | value =>
      let text := python.lower (strip (value.pyStr python))
      if text = "" then none else some text

/-- What the keys depend on besides the alert. -/
structure KeySettings (Key : Type) where
  python : PythonRuntime
  /-- The SHA-256 digest of the JSON text with sorted keys. -/
  digest : JsonObject → Key
  resourceDedupBucket : JsonObject → Option String
  fingerprintMode : FingerprintMode
  /-- `_fingerprint_fields_for_source` and `_excluded_labels_for_source`. -/
  fingerprintFields : String → List String
  excludedLabels : String → List String

variable {Key : Type} (settings : KeySettings Key)

/-! ## Identities -/

def extractAlertIdentity (data : JsonObject) : Option (PyDict String) :=
  match data.get? "_alert_identity" with
  | some (.dict entries) =>
      let identity := entries.filterMap fun entry =>
        (normalizeIdentityValue settings.python entry.2).map fun text => (entry.1, text)
      if identity.isEmpty then none else some identity
  | _ => none

/-- `source.strip().lower()`. -/
def foldedSource (source : String) : String :=
  settings.python.lower (strip source)

/-- `if namespace: fields["namespace"] = namespace`. -/
def withNamespace (fields : JsonObject) : Option String → JsonObject
  | none => fields
  | some namespaceText =>
      if namespaceText = "" then fields else PyDict.set fields "namespace" (.str namespaceText)

/-- `if text: fields[key] = text`. -/
def withText (fields : JsonObject) (key text : String) : JsonObject :=
  if text = "" then fields else PyDict.set fields key (.str text)

def alertKeyFields (identity : PyDict String) (source : String) (namespaceText : Option String) :
    JsonObject :=
  let fields : JsonObject := identity.map fun entry => (entry.1, .str entry.2)
  withNamespace
    (if (identity.get? "source").isSome then fields
      else PyDict.set fields "source" (.str (foldedSource settings source))) namespaceText

def dedupKeyFields (data : JsonObject) (identity : PyDict String) (source : String)
    (namespaceText : Option String) : JsonObject :=
  let sourceValue := foldedSource settings ((identity.get? "source").getD source)
  let named := withText (withText [] "source" sourceValue) "name"
    (strip ((identity.get? "name").getD ""))
  let located := withText (withText named "resource" (strip ((identity.get? "resource").getD "")))
    "fingerprint" (strip ((identity.get? "fingerprint").getD ""))
  withNamespace
    (withText located "resource_risk_bucket" ((settings.resourceDedupBucket data).getD ""))
    namespaceText

def fallbackKeyFields (data : JsonObject) (source : String) (namespaceText : Option String) :
    JsonObject :=
  withNamespace [("source", .str (foldedSource settings source)), ("payload", .dict data)]
    namespaceText

/-- The key fields of `_default_event_keys`, for the alert hash and for the dedup key. -/
def defaultEventKeys (data : JsonObject) (source : String) (namespaceText : Option String) :
    JsonObject × JsonObject :=
  match extractAlertIdentity settings data with
  | some identity =>
      let alertFields := alertKeyFields settings identity source namespaceText
      let dedupFields := dedupKeyFields settings data identity source namespaceText
      (alertFields, if dedupFields.isEmpty then alertFields else dedupFields)
  | none =>
      let fields := fallbackKeyFields settings data source namespaceText
      (fields, fields)

/-! ## Configured identities -/

/-- One hop of `_extract_field_path`. -/
def fieldAt (part : String) : Json → Option Json
  | .dict entries => PyDict.get? entries part
  | .list items =>
      (pyInt part).bind fun index =>
        if -(items.length : Int) ≤ index ∧ index < items.length then
          items[(if index < 0 then index + items.length else index).toNat]?
        else none
  | _ => none

/-- `current is not None`. -/
def isPresent : Json → Bool
  | .null => false
  | _ => true

def extractFieldPath (data : JsonObject) (path : String) : Option Json :=
  (path.splitOn ".").foldl
    (fun current part => (current.bind (fieldAt part)).filter isPresent) (some (.dict data))

/-- `_fingerprint_dedup_key`, before its digest. -/
def fingerprintDedupKey (data : JsonObject) (source : String) (fields : List String)
    (namespaceText : Option String) : Option JsonObject :=
  let values : JsonObject := fields.foldl
    (fun values path =>
      match extractFieldPath data path with
      | some value => PyDict.set values path value
      | none => values) []
  if values.isEmpty then none
  else
    some (withNamespace
      [("source", .str (foldedSource settings source)), ("fields", .dict values)] namespaceText)

def labelMap (data : JsonObject) : Option JsonObject :=
  ["alerts.0.labels", "commonLabels", "labels"].findSome? fun path =>
    match extractFieldPath data path with
    | some (.dict labels) => if labels.isEmpty then none else some labels
    | _ => none

/-- `_label_identity_dedup_key`, before its digest. -/
def labelIdentityDedupKey (data : JsonObject) (source : String) (excluded : List String)
    (namespaceText : Option String) : Option JsonObject :=
  (labelMap data).bind fun labels =>
    let kept := labels.filter fun label => label.1 ∉ excluded
    if kept.isEmpty then none
    else
      some (withNamespace
        [("source", .str (foldedSource settings source)), ("labels", .dict kept)] namespaceText)

def configuredKey (data : JsonObject) (source : String) (namespaceText : Option String) :
    Option JsonObject :=
  let fields := settings.fingerprintFields source
  let excluded := settings.excludedLabels source
  if !fields.isEmpty then fingerprintDedupKey settings data source fields namespaceText
  else if !excluded.isEmpty then
    labelIdentityDedupKey settings data source excluded namespaceText
  else none

/-- The key fields behind `generate_event_keys`. -/
def eventKeyFields (data : JsonObject) (source : String) (namespaceText : Option String) :
    JsonObject × JsonObject :=
  let (alertFields, dedupFields) := defaultEventKeys settings data source namespaceText
  match settings.fingerprintMode with
  | .off | .shadow => (alertFields, dedupFields)
  | .enforce =>
      (alertFields, (configuredKey settings data source namespaceText).getD dedupFields)

def generateEventKeys (data : JsonObject) (source : String) (namespaceText : Option String) :
    Key × Key :=
  let (alertFields, dedupFields) := eventKeyFields settings data source namespaceText
  (settings.digest alertFields, settings.digest dedupFields)

def generateAlertHash (data : JsonObject) (source : String) (namespaceText : Option String) : Key :=
  (generateEventKeys settings data source namespaceText).1

def identityNamespace (sourceConnectionId : Option Nat) : Option String :=
  sourceConnectionId.map fun id => "source-connection:" ++ toString id

/-! ## Namespaces -/

variable {fields : JsonObject}

/-- Objects of one digest have the same texts under the same keys. -/
def KeySettings.CollisionFree : Prop :=
  ∀ first second, settings.digest first = settings.digest second → ∀ key text,
    PyDict.get? first key = some (.str text) → PyDict.get? second key = some (.str text)

/-- The `_alert_identity` of the data has the namespace of a source connection. -/
def NamesConnection (data : JsonObject) : Prop :=
  ∃ identity ∈ extractAlertIdentity settings data, ∃ id,
    PyDict.get? identity "namespace" = some ("source-connection:" ++ toString (id : Nat))

section Namespaces

variable {settings} {data : JsonObject} {source : String}

/-- The connection whose namespace the key fields have, if they have one. -/
def HasNamespace (fields : JsonObject) (sourceConnectionId : Option Nat) : Prop :=
  ∀ id : Nat, PyDict.get? fields "namespace" = some (.str ("source-connection:" ++ toString id)) ↔
    sourceConnectionId = some id

theorem connection_inj {first second : Nat} :
    "source-connection:" ++ toString first = "source-connection:" ++ toString second ↔
      first = second := by
  constructor
  · intro same
    have characters := congrArg String.toList same
    rw [String.toList_append, String.toList_append, List.append_cancel_left_eq] at characters
    exact Nat.repr_injective (String.toList_inj.1 characters)
  · rintro rfl
    rfl

theorem hasNamespace_withNamespace {sourceConnectionId : Option Nat}
    (unnamed : sourceConnectionId = none → ∀ id : Nat,
      PyDict.get? fields "namespace" ≠ some (.str ("source-connection:" ++ toString id))) :
    HasNamespace (withNamespace fields (identityNamespace sourceConnectionId))
      sourceConnectionId := by
  intro id
  cases sourceConnectionId with
  | none => simpa [identityNamespace, withNamespace] using unnamed rfl id
  | some own =>
      have notEmpty : "source-connection:" ++ toString own ≠ "" := by
        intro empty
        have characters := congrArg String.toList empty
        rw [String.toList_append] at characters
        cases characters
      simp only [identityNamespace, Option.map_some, withNamespace, if_neg notEmpty,
        PyDict.get?_set, if_pos, Option.some.injEq, Json.str.injEq]
      exact connection_inj

theorem get?_withText_of_ne {key text wanted : String} (other : wanted ≠ key) :
    PyDict.get? (withText fields key text) wanted = PyDict.get? fields wanted := by
  unfold withText
  split
  · rfl
  · rw [PyDict.get?_set, if_neg other]

theorem get?_map_str (identity : PyDict String) (key : String) :
    PyDict.get? (identity.map fun entry => (entry.1, Json.str entry.2)) key =
      (PyDict.get? identity key).map Json.str := by
  induction identity with
  | nil => rfl
  | cons entry identity ih =>
      simp only [PyDict.get?, List.map_cons, List.find?_cons] at ih ⊢
      by_cases same : entry.1 = key
      · simp [same]
      · simpa [same] using ih

variable {sourceConnectionId : Option Nat}

theorem hasNamespace_alertKeyFields {identity : PyDict String}
    (unnamed : sourceConnectionId = none → ∀ id : Nat,
      PyDict.get? identity "namespace" ≠ some ("source-connection:" ++ toString id)) :
    HasNamespace (alertKeyFields settings identity source (identityNamespace sourceConnectionId))
      sourceConnectionId := by
  have asFields (id : Nat) (named : PyDict.get?
      (identity.map fun entry => (entry.1, Json.str entry.2)) "namespace" =
        some (.str ("source-connection:" ++ toString id))) :
      PyDict.get? identity "namespace" = some ("source-connection:" ++ toString id) := by
    rw [get?_map_str] at named
    obtain ⟨text, found, same⟩ := Option.map_eq_some_iff.1 named
    rw [found, Json.str.inj same]
  refine hasNamespace_withNamespace fun isNone id named => unnamed isNone id ?_
  split at named
  · exact asFields id named
  · rw [PyDict.get?_set, if_neg (by decide)] at named
    exact asFields id named

theorem hasNamespace_dedupKeyFields {identity : PyDict String} :
    HasNamespace (dedupKeyFields settings data identity source
      (identityNamespace sourceConnectionId)) sourceConnectionId := by
  refine hasNamespace_withNamespace fun _ id named => ?_
  rw [get?_withText_of_ne (by decide), get?_withText_of_ne (by decide),
    get?_withText_of_ne (by decide), get?_withText_of_ne (by decide),
    get?_withText_of_ne (by decide)] at named
  cases named

theorem hasNamespace_source_and (key : String) (other : key ≠ "namespace") (value : Json) :
    HasNamespace
      (withNamespace [("source", .str (foldedSource settings source)), (key, value)]
        (identityNamespace sourceConnectionId)) sourceConnectionId := by
  refine hasNamespace_withNamespace fun _ id named => ?_
  simp [PyDict.get?, other] at named

theorem hasNamespace_defaultEventKeys
    (unnamed : sourceConnectionId = none → ¬ NamesConnection settings data) :
    HasNamespace (defaultEventKeys settings data source (identityNamespace sourceConnectionId)).1
        sourceConnectionId ∧
      HasNamespace (defaultEventKeys settings data source (identityNamespace sourceConnectionId)).2
        sourceConnectionId := by
  unfold defaultEventKeys
  split
  · rename_i identity extracted
    have alertFields : HasNamespace (alertKeyFields settings identity source
        (identityNamespace sourceConnectionId)) sourceConnectionId :=
      hasNamespace_alertKeyFields fun isNone id named =>
        unnamed isNone ⟨identity, extracted, id, named⟩
    refine ⟨alertFields, ?_⟩
    dsimp only
    split
    · exact alertFields
    · exact hasNamespace_dedupKeyFields
  · exact ⟨hasNamespace_source_and "payload" (by decide) _,
      hasNamespace_source_and "payload" (by decide) _⟩

theorem hasNamespace_configuredKey
    (configured : configuredKey settings data source (identityNamespace sourceConnectionId) =
      some fields) : HasNamespace fields sourceConnectionId := by
  unfold configuredKey at configured
  dsimp only at configured
  split at configured
  · unfold fingerprintDedupKey at configured
    dsimp only at configured
    split at configured
    · cases configured
    · cases configured
      exact hasNamespace_source_and "fields" (by decide) _
  · split at configured
    · obtain ⟨labels, _, kept⟩ := Option.bind_eq_some_iff.1 configured
      dsimp only at kept
      split at kept
      · cases kept
      · cases kept
        exact hasNamespace_source_and "labels" (by decide) _
    · cases configured

theorem hasNamespace_eventKeyFields
    (unnamed : sourceConnectionId = none → ¬ NamesConnection settings data) :
    HasNamespace (eventKeyFields settings data source (identityNamespace sourceConnectionId)).1
        sourceConnectionId ∧
      HasNamespace (eventKeyFields settings data source (identityNamespace sourceConnectionId)).2
        sourceConnectionId := by
  have default := @hasNamespace_defaultEventKeys _ settings data source _ unnamed
  unfold eventKeyFields
  dsimp only
  split
  · exact default
  · exact default
  · refine ⟨default.1, ?_⟩
    dsimp only
    cases configured : configuredKey settings data source
        (identityNamespace sourceConnectionId) with
    | none => exact default.2
    | some fields => exact hasNamespace_configuredKey configured

theorem KeySettings.CollisionFree.connection_eq (collisionFree : settings.CollisionFree)
    {first second : JsonObject} {firstConnection secondConnection : Option Nat}
    (firstNamespace : HasNamespace first firstConnection)
    (secondNamespace : HasNamespace second secondConnection)
    (sameDigest : settings.digest first = settings.digest second) :
    firstConnection = secondConnection := by
  have names (id : Nat) : firstConnection = some id ↔ secondConnection = some id := by
    rw [← firstNamespace id, ← secondNamespace id]
    exact ⟨collisionFree _ _ sameDigest _ _, collisionFree _ _ sameDigest.symm _ _⟩
  exact Option.ext fun id => names id

end Namespaces

end IdentityKeys

end WebhookWise
