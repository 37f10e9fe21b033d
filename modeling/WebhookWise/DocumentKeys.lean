import WebhookWise.EventKeys
import WebhookWise.WebhookNormalization

/-!
# The dedup key of a document that nothing identifies

A body is decoded, tested for an object, unwrapped from a relay's envelope, copied over the boundary
and, when nothing identifies it, digested as a whole.  Two objects get one key just when the same is
read of them, up to the order of keys.
-/

namespace WebhookWise

namespace DocumentKeys

open EcosystemAdapters EventKeys IdentityKeys WebhookBoundary WebhookNormalization

/-! ## The ingest -/

section Ingest

variable (runtime : AdapterRuntime)

/-- `envelope.payload or {}`, as `handle_webhook_ingest` decodes the body. -/
def ingestPayload (rawBody : String) : JsonObject :=
  if rawBody = "" then []
  else
    match runtime.jsonLoads rawBody with
    | some (.dict entries) => entries
    | _ => []

/-- The payload of `parse_request`, which decodes the body again when it was handed nothing. -/
def requestPayload (payload : JsonObject) (rawBody : String) : Except Raised JsonObject :=
  if payload.isEmpty && rawBody ≠ "" then
    match runtime.jsonLoads rawBody with
    | none => .error (.valueError "the body is not a JSON document")
    | some (.dict entries) => .ok entries
    | some _ => .ok []
  else .ok payload

/-- `source or headers.get("x-webhook-source", "unknown")`. -/
def requestSource (source : String) (headers : PyDict String) : String :=
  textOr source ((headers.get? "x-webhook-source").getD "unknown")

def parseRequest (headers : PyDict String) (payload : JsonObject) (rawBody source : String) :
    Except Raised NormalizedWebhook := do
  let payload ← requestPayload runtime payload rawBody
  normalizeWebhookEvent runtime (.dict payload) (some (requestSource source headers)) none

variable {Key : Type} (settings : KeySettings Key)

/-- The dedup key that `_handle_raw_ingest` gives a body. -/
def ingestDedupKey (headers : PyDict String) (source : String) (sourceConnectionId : Option Nat)
    (rawBody : String) : Except Raised Key := do
  let norm ← parseRequest runtime headers (ingestPayload runtime rawBody) rawBody source
  return (generateEventKeys settings norm.data norm.source
    (identityNamespace sourceConnectionId)).2

end Ingest

/-! ## What is read of a document -/

variable {rawBody : String}

section Views

variable (runtime : AdapterRuntime)

def copiedField (entry : String × Json) : String × Json :=
  match fieldKind? entry.1 with
  | some kind => (entry.1, kind.copied runtime.floatOfInt entry.2)
  | none => entry

/-- What is read of an object: itself or what its envelope holds, over the boundary. -/
def readOf (entries : JsonObject) : JsonObject :=
  (unwrapJsonEnvelope runtime entries).map (copiedField runtime)

structure IsObject (rawBody : String) (entries : JsonObject) : Prop where
  nonempty : rawBody ≠ ""
  loads : runtime.jsonLoads rawBody = some (.dict entries)

/-- No adapter matches the object, by its source or by what it holds. -/
def Unmatched (source : String) (headers : PyDict String) (entries : JsonObject) : Prop :=
  selectedAdapter runtime (sourceHint runtime (some (requestSource source headers)) none)
    (unwrapJsonEnvelope runtime entries) = none

variable {Key : Type} (settings : KeySettings Key)

/-- The object brings no `_alert_identity`. -/
def Unidentified (entries : JsonObject) : Prop :=
  extractAlertIdentity settings (readOf runtime entries) = none

end Views

section Keys

variable {runtime : AdapterRuntime} {Key : Type} {settings : KeySettings Key}

theorem webhookDataFromMapping_eq_map {document data : JsonObject}
    (passed : webhookDataFromMapping runtime.floatOfInt false document = .ok data) :
    data = document.map (copiedField runtime) := by
  induction document generalizing data with
  | nil =>
      cases passed
      rfl
  | cons entry document ih =>
      obtain ⟨key, value⟩ := entry
      have copied : ∀ field, checkedField runtime.floatOfInt false key value = .ok field →
          (key, field) = copiedField runtime (key, value) := by
        intro field checked
        unfold checkedField at checked
        unfold copiedField
        cases declared : fieldKind? key with
        | none =>
            rw [declared] at checked
            cases checked
            rfl
        | some kind =>
            rw [declared] at checked
            by_cases accepted : kind.accepts value = true
            · simp only [accepted, if_true] at checked
              cases checked
              rfl
            · simp only [accepted] at checked
              cases checked
      unfold webhookDataFromMapping at passed
      cases checked : checkedField runtime.floatOfInt false key value with
      | error raised =>
          rw [checked] at passed
          cases passed
      | ok field =>
          cases others : webhookDataFromMapping runtime.floatOfInt false document with
          | error raised =>
              rw [checked, others] at passed
              cases passed
          | ok fields =>
              rw [checked, others] at passed
              cases passed
              rw [List.map_cons, copied field checked, ih others]

theorem requestPayload_of_isObject {entries : JsonObject}
    (isObject : IsObject runtime rawBody entries) :
    requestPayload runtime (ingestPayload runtime rawBody) rawBody = .ok entries := by
  have decoded : ingestPayload runtime rawBody = entries := by
    rw [ingestPayload, if_neg isObject.nonempty, isObject.loads]
  rw [decoded, requestPayload]
  split
  · rw [isObject.loads]
  · rfl

variable {headers : PyDict String} {source : String} {sourceConnectionId : Option Nat}

theorem ingestDedupKey_eq {entries : JsonObject} (modeOff : settings.fingerprintMode = .off)
    (isObject : IsObject runtime rawBody entries)
    (unmatched : Unmatched runtime source headers entries)
    (unidentified : Unidentified runtime settings entries)
    (keyed : (ingestDedupKey runtime settings headers source sourceConnectionId rawBody).isOk) :
    ingestDedupKey runtime settings headers source sourceConnectionId rawBody =
      .ok (settings.digest (fallbackKeyFields settings (readOf runtime entries)
        (textOr (sourceHint runtime (some (requestSource source headers)) none) "unknown")
        (identityNamespace sourceConnectionId))) := by
  unfold ingestDedupKey parseRequest at keyed ⊢
  rw [requestPayload_of_isObject isObject] at keyed ⊢
  simp only [normalizeWebhookEvent, normalizeObject] at keyed ⊢
  unfold Unmatched at unmatched
  cases passed : webhookDataFromMapping runtime.floatOfInt false
      (unwrapJsonEnvelope runtime entries) with
  | error raised =>
      simp only [bind, Except.bind, unmatched, passed] at keyed
      cases keyed
  | ok data =>
      simp only [bind, Except.bind, pure, Except.pure, unmatched, passed]
      obtain rfl : data = readOf runtime entries := webhookDataFromMapping_eq_map passed
      have fields : eventKeyFields settings (readOf runtime entries)
          (textOr (sourceHint runtime (some (requestSource source headers)) none) "unknown")
          (identityNamespace sourceConnectionId) =
        defaultEventKeys settings (readOf runtime entries)
          (textOr (sourceHint runtime (some (requestSource source headers)) none) "unknown")
          (identityNamespace sourceConnectionId) := by
        simp only [eventKeyFields, modeOff]
      unfold Unidentified at unidentified
      rw [generateEventKeys_snd, fields, defaultEventKeys, unidentified]

private theorem get?_payload_congr {source : Json} {first second : JsonObject}
    (same : sortKeys (.dict first) = sortKeys (.dict second)) (key : String) :
    (PyDict.get? [("source", source), ("payload", .dict first)] key).map sortKeys =
      (PyDict.get? [("source", source), ("payload", .dict second)] key).map sortKeys := by
  by_cases isSource : "source" = key
  · simp [PyDict.get?, isSource]
  · by_cases isPayload : "payload" = key
    · simp [PyDict.get?, isSource, isPayload, same]
    · simp [PyDict.get?, isSource, isPayload]

/-- Objects that nothing identifies get one dedup key just when the same is read of them. -/
theorem dedupKey_ne_iff (runtime : AdapterRuntime) (settings : KeySettings Key)
    (injective : DigestsInjectively settings) (modeOff : settings.fingerprintMode = .off)
    (headers : PyDict String) (source : String) (sourceConnectionId : Option Nat)
    {first second : String} {firstObject secondObject : JsonObject}
    (firstLoads : IsObject runtime first firstObject)
    (secondLoads : IsObject runtime second secondObject)
    (firstUnmatched : Unmatched runtime source headers firstObject)
    (secondUnmatched : Unmatched runtime source headers secondObject)
    (firstUnidentified : Unidentified runtime settings firstObject)
    (secondUnidentified : Unidentified runtime settings secondObject)
    (firstKeyed : (ingestDedupKey runtime settings headers source sourceConnectionId first).isOk)
    (secondKeyed :
      (ingestDedupKey runtime settings headers source sourceConnectionId second).isOk) :
    ingestDedupKey runtime settings headers source sourceConnectionId first ≠
        ingestDedupKey runtime settings headers source sourceConnectionId second ↔
      sortKeys (.dict (readOf runtime firstObject)) ≠
        sortKeys (.dict (readOf runtime secondObject)) := by
  rw [ingestDedupKey_eq modeOff firstLoads firstUnmatched firstUnidentified firstKeyed,
    ingestDedupKey_eq modeOff secondLoads secondUnmatched secondUnidentified secondKeyed]
  apply not_congr
  rw [Except.ok.injEq, injective]
  constructor
  · intro same
    have payloads := same "payload"
    rw [fallbackKeyFields, fallbackKeyFields, get?_withNamespace, get?_withNamespace] at payloads
    simpa [PyDict.get?] using payloads
  · intro same key
    rw [fallbackKeyFields, fallbackKeyFields, get?_withNamespace, get?_withNamespace]
    by_cases isNamespace : key = "namespace"
    · rw [if_pos isNamespace, if_pos isNamespace, Option.map_or, Option.map_or,
        get?_payload_congr same]
    · rw [if_neg isNamespace, if_neg isNamespace, get?_payload_congr same]

end Keys

/-! ## Two envelopes around one document -/

/-- What a relay was handed. -/
def innerObject : JsonObject :=
  [("a", .int 1), ("b", .int 2), ("c", .int 3)]

def innerBody : String :=
  "\x7b\"a\":1,\"b\":2,\"c\":3\x7d"

def envelope (subject : String) : JsonObject :=
  [("text", .str innerBody), ("subject", .str subject)]

def firstBody : String :=
  "\x7b\"text\":\"\x7b\\\"a\\\":1,\\\"b\\\":2,\\\"c\\\":3\x7d\",\"subject\":\"1\"\x7d"

def secondBody : String :=
  "\x7b\"text\":\"\x7b\\\"a\\\":1,\\\"b\\\":2,\\\"c\\\":3\x7d\",\"subject\":\"2\"\x7d"

def relayDocuments : PyDict Json :=
  [(innerBody, .dict innerObject), (firstBody, .dict (envelope "1")),
    (secondBody, .dict (envelope "2"))]

private theorem relay_loads_distinct (text : String) (entries : JsonObject)
    (loaded : (PythonRuntime.ascii ⟨[], [], relayDocuments, []⟩).jsonLoads text =
      some (.dict entries)) : (entries.map Prod.fst).Nodup := by
  obtain ⟨entry, found, isEntries⟩ := Option.map_eq_some_iff.1 loaded
  have member := List.mem_of_find?_eq_some found
  simp only [relayDocuments, List.mem_cons, List.not_mem_nil, or_false] at member
  rcases member with rfl | rfl | rfl <;> (cases isEntries; decide)

def relayRuntime : AdapterRuntime where
  toPythonRuntime := .ascii ⟨[], [], relayDocuments, []⟩
  toCharacterTables := .ascii
  floatOfInt value := toString value ++ ".0"
  loads_distinct := relay_loads_distinct

private theorem isObject_innerBody : IsObject relayRuntime innerBody innerObject :=
  ⟨by decide, rfl⟩

private theorem isObject_firstBody : IsObject relayRuntime firstBody (envelope "1") :=
  ⟨by decide, rfl⟩

private theorem isObject_secondBody : IsObject relayRuntime secondBody (envelope "2") :=
  ⟨by decide, rfl⟩

private theorem innerBody_keyed :
    (ingestDedupKey relayRuntime readableKeys [] "relay" none innerBody).isOk := by
  decide +kernel

private theorem firstBody_keyed :
    (ingestDedupKey relayRuntime readableKeys [] "relay" none firstBody).isOk := by
  decide +kernel

private theorem secondBody_keyed :
    (ingestDedupKey relayRuntime readableKeys [] "relay" none secondBody).isOk := by
  decide +kernel

instance (source : String) (headers : PyDict String) (entries : JsonObject) :
    Decidable (Unmatched relayRuntime source headers entries) :=
  inferInstanceAs (Decidable (_ = none))

private theorem innerObject_unmatched : Unmatched relayRuntime "relay" [] innerObject := by
  decide +kernel

private theorem firstEnvelope_unmatched :
    Unmatched relayRuntime "relay" [] (envelope "1") := by
  decide +kernel

private theorem secondEnvelope_unmatched :
    Unmatched relayRuntime "relay" [] (envelope "2") := by
  decide +kernel

/-- What the envelope holds has the key that it has without the envelope. -/
theorem enveloped_key :
    ingestDedupKey relayRuntime readableKeys [] "relay" none innerBody ≠
        ingestDedupKey relayRuntime readableKeys [] "relay" none firstBody ↔
      sortKeys (.dict (readOf relayRuntime innerObject)) ≠
        sortKeys (.dict (readOf relayRuntime (envelope "1"))) :=
  dedupKey_ne_iff relayRuntime readableKeys digestsInjectively_readableKeys rfl [] "relay" none
    isObject_innerBody isObject_firstBody innerObject_unmatched firstEnvelope_unmatched rfl rfl
    innerBody_keyed firstBody_keyed

/-- The subject that a relay adds is dropped on the way. -/
theorem subjects_share_key :
    ¬ ∀ (first second : String) (firstObject secondObject : JsonObject),
      IsObject relayRuntime first firstObject → IsObject relayRuntime second secondObject →
      Unmatched relayRuntime "relay" [] firstObject →
      Unmatched relayRuntime "relay" [] secondObject →
      Unidentified relayRuntime readableKeys firstObject →
      Unidentified relayRuntime readableKeys secondObject →
      (ingestDedupKey relayRuntime readableKeys [] "relay" none first).isOk →
      (ingestDedupKey relayRuntime readableKeys [] "relay" none second).isOk →
      sortKeys (.dict firstObject) ≠ sortKeys (.dict secondObject) →
      ingestDedupKey relayRuntime readableKeys [] "relay" none first ≠
        ingestDedupKey relayRuntime readableKeys [] "relay" none second := by
  intro apart
  refine apart firstBody secondBody (envelope "1") (envelope "2") isObject_firstBody
    isObject_secondBody firstEnvelope_unmatched secondEnvelope_unmatched rfl rfl firstBody_keyed
    secondBody_keyed ?_ ?_
  · intro same
    have texts := congrArg (Json.pyStr .plain) same
    exact absurd texts (by decide +kernel)
  · have firstKey := ingestDedupKey_eq rfl isObject_firstBody firstEnvelope_unmatched rfl
      firstBody_keyed
    have secondKey := ingestDedupKey_eq rfl isObject_secondBody secondEnvelope_unmatched rfl
      secondBody_keyed
    have sameRead : readOf relayRuntime (envelope "1") = readOf relayRuntime (envelope "2") := rfl
    rw [firstKey, secondKey, sameRead]

end DocumentKeys

end WebhookWise
