import WebhookWise.EcosystemAdapters

/-!
# Normalizing a webhook

`normalize_webhook_event` takes the document out of a relay's envelope, picks an adapter by
the source hint or by the payload, and sends what the adapter makes of the document through
the boundary.
-/

namespace WebhookWise

namespace WebhookNormalization

open EcosystemAdapters RuleMatching WebhookBoundary

/-! ## The registry -/

/-- `_BUILTIN_ADAPTERS`. -/
inductive Adapter where
  | volcengine
  | grafana
  | prometheus
  | datadog
  | pagerduty
  | feishuCard
deriving DecidableEq

namespace Adapter

/-- In the order in which they are registered, and so asked. -/
def all : List Adapter :=
  [volcengine, grafana, prometheus, datadog, pagerduty, feishuCard]

def name : Adapter → String
  | volcengine => "volcengine"
  | grafana => "grafana"
  | prometheus => "prometheus"
  | datadog => "datadog"
  | pagerduty => "pagerduty"
  | feishuCard => "feishu_card"

def aliases : Adapter → List String
  | volcengine => ["volc", "vcm", "cloudmonitor", "volcengine_cloudmonitor"]
  | grafana => ["grafana"]
  | prometheus => ["prometheus", "alertmanager"]
  | datadog => ["datadog"]
  | pagerduty => ["pagerduty"]
  | feishuCard => ["feishu_card", "volcengine_log"]

end Adapter

variable (runtime : AdapterRuntime)

def Adapter.detector : Adapter → JsonObject → Bool
  | volcengine => detectVolc runtime
  | grafana => detectGrafana
  | prometheus => detectProm
  | datadog => detectDatadog
  | pagerduty => detectPagerduty
  | feishuCard => detectFeishuCard

def Adapter.normalizer : Adapter → JsonObject → Except Raised Normalization
  | volcengine => normVolc runtime
  | grafana => normGrafana runtime
  | prometheus => normProm runtime
  | datadog => normDatadog runtime
  | pagerduty => normPagerduty runtime
  | feishuCard => normFeishuCard runtime

/-- `source.lower().replace(" ", "")`. -/
def aliasKey (source : String) : String :=
  String.ofList ((runtime.lower source).toList.filter fun character => character ≠ ' ')

/-- `_aliases`, once all adapters are registered. -/
def aliasTable : PyDict Adapter :=
  Adapter.all.foldl
    (fun table adapter =>
      (adapter.name :: adapter.aliases).foldl
        (fun table source => table.set (aliasKey runtime source) adapter) table) []

def findAdapterBySource (source : String) : Option Adapter :=
  (aliasTable runtime).get? (aliasKey runtime source)

def findAdapterByPayload (data : JsonObject) : Option Adapter :=
  Adapter.all.find? fun adapter => adapter.detector runtime data

/-- `registry.normalize`: the normalizer of the adapter, with the last step of all normalizers. -/
def normalize (adapter : Adapter) (data : JsonObject) : Except Raised JsonObject := do
  let normalization ← adapter.normalizer runtime data
  withAlertIdentity runtime (PyDict.updated data normalization.written) normalization.identity

/-! ## Envelopes -/

def envelopeKeys : List String :=
  ["text", "message", "body", "payload", "data"]

/-- Where the walk over a truncated object is. -/
structure SalvageWalk where
  depthLevel : Int := 0
  inString : Bool := false
  escaped : Bool := false
  cut : Option Nat := none

def SalvageWalk.step (walk : SalvageWalk) (character : Char) (index : Nat) : SalvageWalk :=
  if walk.escaped then { walk with escaped := false }
  else if character = '\\' && walk.inString then { walk with escaped := true }
  else if character = '"' then { walk with inString := ! walk.inString }
  else if walk.inString then walk
  else if character = '{' || character = '[' then { walk with depthLevel := walk.depthLevel + 1 }
  else if character = '}' || character = ']' then { walk with depthLevel := walk.depthLevel - 1 }
  else if character = ',' && walk.depthLevel = 1 then { walk with cut := some index }
  else walk

/-- The groups of `\s*"([^"]+)"\s*:\s*(\{.*)\Z`, matched at the start of the tail. -/
def trailingPair (tail : List Char) : Option (String × List Char) :=
  match tail.dropWhile isPythonSpace with
  | '"' :: quoted =>
      let key := quoted.takeWhile (· ≠ '"')
      if key = [] then none
      else
        match (quoted.drop (key.length + 1)).dropWhile isPythonSpace with
        | ':' :: value =>
            match value.dropWhile isPythonSpace with
            | '{' :: inner => some (String.ofList key, '{' :: inner)
            | _ => none
        | _ => none
  | _ => none

def salvagedPairs (text : List Char) : Option (JsonObject × List Char) :=
  let walk := text.zipIdx.foldl
    (fun walk (place : Char × Nat) => walk.step place.1 place.2) ({} : SalvageWalk)
  match walk.cut with
  | none => some ([], text.drop 1)
  | some cut =>
      match runtime.jsonLoads (String.ofList (text.take cut ++ ['}'])) with
      | some (.dict parsed) => some (parsed, text.drop (cut + 1))
      | _ => none

/-- `_salvage_truncated_object`, which may look that many levels further down, and in it
`_salvage_trailing_object_pair`. -/
def salvageTruncatedObject : Nat → List Char → Option JsonObject
  | levels, text =>
      if text.head? ≠ some '{' then none
      else
        match salvagedPairs runtime text with
        | none => none
        | some (salvaged, tail) =>
            let completed :=
              match levels with
              | 0 => salvaged
              | levels + 1 =>
                  match trailingPair tail with
                  | none => salvaged
                  | some (key, innerText) =>
                      match salvageTruncatedObject levels innerText with
                      | none => salvaged
                      | some inner => PyDict.set salvaged key (.dict inner)
            if completed.isEmpty then none else some completed

def maxSalvageDepth : Nat := 3

def envelopeText (entry : String × Json) : Option (List Char) :=
  match entry.2 with
  | .str text =>
      let stripped := (strip text).toList
      if envelopeKeys.contains entry.1 && stripped.head? = some '{' then some stripped else none
  | _ => none

def isStructured : Json → Bool
  | .list _ | .dict _ => true
  | _ => false

def unwrapJsonEnvelope (data : JsonObject) : JsonObject :=
  match data.filterMap fun entry => (envelopeText entry).map fun text => (entry.1, text) with
  | [(key, text)] =>
      if data.any fun entry => entry.1 ≠ key && isStructured entry.2 then data
      else
        match runtime.jsonLoads (String.ofList text) with
        | none =>
            -- The sender has cut its own body short.
            match salvageTruncatedObject runtime maxSalvageDepth text with
            | none => data
            | some salvaged => if salvaged.length ≤ data.length then data else salvaged
        | some (.dict inner) => if inner.length ≤ data.length then data else inner
        | some _ => data
  | _ => data

/-! ## The normalization -/

structure NormalizedWebhook where
  source : String
  data : JsonObject
  adapter : String

def headerGet (headers : Option JsonObject) (key : String) : Option String :=
  match headers with
  | none => none
  | some headers =>
      match getOrNone headers key with
      | .null =>
          (headers.find? fun header => runtime.lower header.1 = runtime.lower key).map
            fun header => header.2.pyStr runtime.toPythonRuntime
      | value => some (value.pyStr runtime.toPythonRuntime)

/-- `s_hint`. -/
def sourceHint (source : Option String) (headers : Option JsonObject) : String :=
  textOr (runtime.lower (strip (source.getD "")))
    (runtime.lower (strip ((headerGet runtime headers "X-Webhook-Source").getD "")))

/-- `adapter_name`: by the source hint, or else by the payload. -/
def selectedAdapter (hint : String) (data : JsonObject) : Option Adapter :=
  (if hint = "" then none else findAdapterBySource runtime hint).or
    (findAdapterByPayload runtime data)

def finalSource (hint : String) (adapter : Adapter) : String :=
  let sourceIsAlias := hint ≠ "" && findAdapterBySource runtime hint = some adapter
  if hint ≠ "" && ! sourceIsAlias && ! ["unknown", "custom", "default", "generic"].contains hint
  then hint
  else adapter.name

/-- `normalize_webhook_event` of a JSON object. -/
def normalizeObject (data : JsonObject) (source : Option String) (headers : Option JsonObject) :
    Except Raised NormalizedWebhook := do
  let view := unwrapJsonEnvelope runtime data
  let hint := sourceHint runtime source headers
  match selectedAdapter runtime hint view with
  | none =>
      return ⟨textOr hint "unknown",
        ← webhookDataFromMapping runtime.floatOfInt false view, "passthrough"⟩
  | some adapter =>
      return ⟨finalSource runtime hint adapter, ← normalize runtime adapter view, adapter.name⟩

def normalizeWebhookEvent (data : Json) (source : Option String) (headers : Option JsonObject) :
    Except Raised NormalizedWebhook :=
  match data with
  | .dict entries => normalizeObject runtime entries source headers
  | data => do
      let resolvedSource := textOr (source.getD "")
        (textOr ((headerGet runtime headers "X-Webhook-Source").getD "") "unknown")
      return ⟨runtime.lower (strip resolvedSource),
        ← webhookDataFromMapping runtime.floatOfInt true [("raw", data)], "passthrough"⟩

variable {runtime}

/-! ## Documents are dicts -/

variable {data : JsonObject}

theorem distinct_salvagedPairs {text tail : List Char} {pairs : JsonObject}
    (found : salvagedPairs runtime text = some (pairs, tail)) : PyDict.Distinct pairs := by
  simp only [salvagedPairs] at found
  split at found
  · cases found
    exact List.nodup_nil
  · split at found
    · rename_i parsed loaded
      cases found
      exact runtime.loads_distinct _ _ loaded
    · cases found

theorem distinct_salvageTruncatedObject {levels : Nat} {text : List Char} {salvaged : JsonObject}
    (found : salvageTruncatedObject runtime levels text = some salvaged) :
    PyDict.Distinct salvaged := by
  unfold salvageTruncatedObject at found
  split at found
  · cases found
  · split at found
    · cases found
    · rename_i pairs tail whole
      have distinct := distinct_salvagedPairs whole
      simp only [Option.ite_none_left_eq_some, Option.some.injEq] at found
      rw [← found.2]
      cases levels with
      | zero => exact distinct
      | succ levels =>
          dsimp only
          split
          · exact distinct
          · split
            · exact distinct
            · exact distinct.set _ _

theorem distinct_unwrapJsonEnvelope (distinct : PyDict.Distinct data) :
    PyDict.Distinct (unwrapJsonEnvelope runtime data) := by
  unfold unwrapJsonEnvelope
  split
  · rename_i key text _
    split
    · exact distinct
    · split
      · split
        · exact distinct
        · rename_i salvaged found
          split
          · exact distinct
          · exact distinct_salvageTruncatedObject found
      · rename_i inner loaded
        split
        · exact distinct
        · exact runtime.loads_distinct _ _ loaded
      · exact distinct
  · exact distinct

/-! ## Payloads that an adapter goes through -/

variable (runtime)
variable {value : Json} {key : String}

/-- Up to the first dimension that `_pick_first_resource` takes, all have names with a hash. -/
def namesHaveHashes : List Json → Bool
  | [] => true
  | .dict item :: rest =>
      match isImportant (getOrNone item "Name") with
      | .ok important => (important && (getOrNone item "Value").truthy) || namesHaveHashes rest
      | .error _ => false
  | _ :: rest => namesHaveHashes rest

/-- The `inc` of `_norm_pagerduty`. -/
def pagerdutyInc (data : JsonObject) : Json :=
  (PyDict.get? data "incident").getD (.dict [])

/-- The `evt` of `_norm_pagerduty`. -/
def pagerdutyEvt (data : JsonObject) : Json :=
  (PyDict.get? data "event").getD (.dict [])

/-- `value.get(key, {})`, of an object. -/
def fieldOrEmpty (value : Json) (key : String) : Json :=
  (PyDict.get? (mappingOrEmpty value) key).getD (.dict [])

/-- `value.get(key)`, of an object. -/
def fieldOrNone (value : Json) (key : String) : Json :=
  getOrNone (mappingOrEmpty value) key

/-- All lookups of the normalizer find an object, or a list that is not empty, where they need
one. -/
def Adapter.readsThrough : Adapter → JsonObject → Bool
  | volcengine, data =>
      match safeResourceList (getOrNone data "Resources") with
      | [] => true
      | first :: _ =>
          (resourceId runtime first).truthy ||
            match getOrNone first "Dimensions" with
            | .list dimensions => namesHaveHashes dimensions
            | _ => true
  | prometheus, data =>
      match PyDict.get? data "alerts" with
      | none => true
      | some (.list (first :: _)) => isMapping first
      | some _ => false
  | pagerduty, data =>
      isMapping (pagerdutyInc data) && isMapping (pagerdutyEvt data) &&
        isMapping (fieldOrEmpty (pagerdutyInc data) "service") &&
        isMapping (fieldOrEmpty (pagerdutyEvt data) "data") &&
        ((fieldOrNone (fieldOrEmpty (pagerdutyInc data) "service") "summary").truthy ||
          isMapping (fieldOrEmpty (fieldOrEmpty (pagerdutyEvt data) "data") "service"))
  | _, _ => true

/-- The values which the normalizer takes over for the names of texts are texts. -/
def Adapter.writesTexts : Adapter → JsonObject → Bool
  | grafana, data => isString (grafanaRule runtime data)
  | prometheus, data =>
      match promFirstAlert data with
      | .ok first =>
          isString (promName runtime data first) &&
            (! (promSummary runtime first).truthy || isString (promSummary runtime first))
      | .error _ => false
  | datadog, data =>
      isString (datadogTitle runtime data) &&
        (! (hasKey data "text" || hasKey data "body") || isString (datadogSummary runtime data))
  | pagerduty, data =>
      isString (pickFirst runtime
        [fieldOrNone (pagerdutyInc data) "title",
          fieldOrNone (fieldOrEmpty (pagerdutyEvt data) "data") "title",
          getOrNone data "description", .str "pagerduty_incident"]) &&
      isString (orElse (fieldOrNone (pagerdutyInc data) "id")
        (fieldOrNone (fieldOrEmpty (pagerdutyEvt data) "data") "id")) &&
      isString (orElse
        (fieldOrNone (fieldOrEmpty (pagerdutyInc data) "service") "summary")
        (fieldOrNone (fieldOrEmpty (fieldOrEmpty (pagerdutyEvt data) "data") "service") "summary"))
  | _, _ => true

def Adapter.goesThrough (adapter : Adapter) (data : JsonObject) : Bool :=
  adapter.readsThrough runtime data && adapter.writesTexts runtime data

variable {runtime}

theorem exists_pickDimension_iff {dimensions : List Json} :
    (∃ resource, pickDimension runtime dimensions = .ok resource) ↔
      namesHaveHashes dimensions = true := by
  induction dimensions with
  | nil => exact ⟨fun _ => rfl, fun _ => ⟨.null, rfl⟩⟩
  | cons item rest ih =>
      cases item with
      | dict entries =>
          simp only [pickDimension, namesHaveHashes]
          cases hashed : isImportant (getOrNone entries "Name") with
          | error raised => simp [bind, Except.bind]
          | ok important =>
              cases picked : important && (getOrNone entries "Value").truthy with
              | true => simp [bind, Except.bind, picked, pure, Except.pure]
              | false => simpa [bind, Except.bind, picked] using ih
      | _ => simpa only [pickDimension, namesHaveHashes] using ih

theorem exists_normVolc_iff :
    (∃ normalization, normVolc runtime data = .ok normalization) ↔
      Adapter.volcengine.readsThrough runtime data = true := by
  have byResource : (∃ normalization, normVolc runtime data = .ok normalization) ↔
      ∃ resource, pickFirstResource runtime
        (safeResourceList (getOrNone data "Resources")) = .ok resource := by
    unfold normVolc
    cases pickFirstResource runtime (safeResourceList (getOrNone data "Resources")) with
    | error raised => simp [bind, Except.bind]
    | ok resource => simp [bind, Except.bind, pure, Except.pure]
  rw [byResource]
  simp only [Adapter.readsThrough]
  cases safeResourceList (getOrNone data "Resources") with
  | nil => exact ⟨fun _ => rfl, fun _ => ⟨.null, rfl⟩⟩
  | cons first rest =>
      simp only [pickFirstResource]
      by_cases named : (resourceId runtime first).truthy = true
      · simp [named]
      · simp only [Bool.eq_false_of_not_eq_true named, Bool.false_or]
        cases getOrNone first "Dimensions" with
        | list dimensions => exact exists_pickDimension_iff
        | _ => simp

theorem exists_promFirstAlert_iff {data : JsonObject} :
    (∃ first, promFirstAlert data = .ok first) ↔
      Adapter.prometheus.readsThrough runtime data = true := by
  simp only [promFirstAlert, Adapter.readsThrough]
  cases PyDict.get? data "alerts" with
  | none => simp
  | some alerts =>
      cases alerts with
      | list items =>
          cases items with
          | nil => simp
          | cons first rest => cases first <;> simp [isMapping]
      | _ => simp

theorem hasDeclaredType_string (declared : fieldKind? key = some .string) :
    HasDeclaredType key value ↔ isString value = true :=
  hasDeclaredType_iff declared

theorem hasDeclaredType_text (declared : fieldKind? key = some .string) (text : String) :
    HasDeclaredType key (.str text) :=
  (hasDeclaredType_string declared).2 rfl

theorem hasDeclaredType_resources (value : Json) :
    HasDeclaredType "Resources" (instanceResources value) :=
  (hasDeclaredType_iff (show fieldKind? "Resources" = some .listOfMappings by decide)).2 rfl

theorem hasDeclaredType_identity (entries : JsonObject) :
    HasDeclaredType "_alert_identity" (.dict entries) :=
  (hasDeclaredType_iff (show fieldKind? "_alert_identity" = some .mapping by decide)).2 rfl

theorem hasDeclaredType_event (value : Json) : HasDeclaredType "event" value :=
  (hasDeclaredType_iff (show fieldKind? "event" = some .json by decide)).2 rfl

theorem ruleName_typed_iff : HasDeclaredType "RuleName" value ↔ isString value = true :=
  hasDeclaredType_string (by decide)

theorem summary_typed_iff : HasDeclaredType "summary" value ↔ isString value = true :=
  hasDeclaredType_string (by decide)

theorem hasDeclaredType_textUnlessNone (declared : fieldKind? key = some .string)
    (given : ¬ isNone value = true) : HasDeclaredType key (textUnlessNone runtime value) := by
  rw [textUnlessNone, if_neg given]
  exact hasDeclaredType_text declared _

theorem forall_mem_if {condition : Prop} [Decidable condition] {field : String × Json}
    {Typed : String × Json → Prop} :
    (∀ other ∈ if condition then [field] else [], Typed other) ↔ (condition → Typed field) := by
  by_cases holds : condition <;> simp [holds]

theorem forall_mem_unless {condition : Prop} [Decidable condition] {field : String × Json}
    {Typed : String × Json → Prop} :
    (∀ other ∈ if condition then [] else [field], Typed other) ↔ (¬ condition → Typed field) := by
  by_cases holds : condition <;> simp [holds]

theorem forall_mem_fieldIfText (declared : fieldKind? key = some .string) (text : String) :
    ∀ field ∈ fieldIfText key text, HasDeclaredType field.1 field.2 :=
  forall_mem_unless.2 fun _ => hasDeclaredType_text declared text

/-- The normalizer returns, and what it writes has the declared types. -/
def Adapter.Passes (adapter : Adapter) (runtime : AdapterRuntime) (data : JsonObject) : Prop :=
  ∃ normalization, adapter.normalizer runtime data = .ok normalization ∧
    ∀ field ∈ normalization.written, HasDeclaredType field.1 field.2

theorem volcengine_passes_iff :
    Adapter.volcengine.Passes runtime data ↔
      Adapter.volcengine.goesThrough runtime data = true := by
  simp only [Adapter.goesThrough, Adapter.writesTexts, Bool.and_true]
  rw [← exists_normVolc_iff]
  constructor
  · rintro ⟨normalization, returned, _⟩
    exact ⟨normalization, returned⟩
  · rintro ⟨normalization, returned⟩
    refine ⟨normalization, returned, ?_⟩
    have nothing : normalization.written = [] := by
      unfold normVolc at returned
      cases picked : pickFirstResource runtime
          (safeResourceList (getOrNone data "Resources")) with
      | error raised => simp [picked, bind, Except.bind] at returned
      | ok resource =>
          simp only [picked, bind, Except.bind, pure, Except.pure, Except.ok.injEq] at returned
          rw [← returned]
    simp [nothing]

theorem grafana_passes_iff :
    Adapter.grafana.Passes runtime data ↔ Adapter.grafana.goesThrough runtime data = true := by
  simp only [Adapter.goesThrough, Adapter.readsThrough, Adapter.writesTexts, Bool.true_and,
    Adapter.Passes, Adapter.normalizer, normGrafana, Except.ok.injEq, exists_eq_left',
    List.forall_mem_append, List.forall_mem_cons, forall_mem_unless]
  constructor
  · rintro ⟨⟨⟨⟨_, rule, _⟩, _⟩, _⟩, _⟩
    exact ruleName_typed_iff.1 rule
  · intro rule
    exact ⟨⟨⟨⟨hasDeclaredType_text (by decide) _, ruleName_typed_iff.2 rule,
      hasDeclaredType_text (by decide) _, hasDeclaredType_event _, by simp⟩,
      hasDeclaredType_textUnlessNone (by decide)⟩, fun _ => hasDeclaredType_resources _⟩,
      hasDeclaredType_textUnlessNone (by decide)⟩

theorem prometheus_passes_iff :
    Adapter.prometheus.Passes runtime data ↔
      Adapter.prometheus.goesThrough runtime data = true := by
  simp only [Adapter.goesThrough, Adapter.writesTexts, Bool.and_eq_true]
  rw [← @exists_promFirstAlert_iff runtime data]
  cases found : promFirstAlert data with
  | error raised =>
      simp [Adapter.Passes, Adapter.normalizer, normProm, found, bind, Except.bind]
  | ok first =>
      simp only [Except.ok.injEq, exists_eq', true_and, Adapter.Passes, Adapter.normalizer,
        normProm, found, bind, Except.bind, pure, Except.pure, exists_eq_left',
        List.forall_mem_append, List.forall_mem_cons, forall_mem_if, Bool.and_eq_true,
        Bool.or_eq_true, Bool.not_eq_true', Bool.eq_false_iff, ← imp_iff_not_or]
      constructor
      · rintro ⟨⟨⟨_, name, _⟩, summary⟩, _⟩
        exact ⟨ruleName_typed_iff.1 name, fun given => summary_typed_iff.1 (summary given)⟩
      · rintro ⟨name, summary⟩
        exact ⟨⟨⟨hasDeclaredType_text (by decide) _, ruleName_typed_iff.2 name,
          hasDeclaredType_text (by decide) _, hasDeclaredType_event _, by simp⟩,
          fun given => summary_typed_iff.2 (summary given)⟩,
          fun _ => hasDeclaredType_resources _⟩

theorem datadog_passes_iff :
    Adapter.datadog.Passes runtime data ↔ Adapter.datadog.goesThrough runtime data = true := by
  simp only [Adapter.goesThrough, Adapter.readsThrough, Adapter.writesTexts, Bool.true_and,
    Bool.and_eq_true, Adapter.Passes, Adapter.normalizer, normDatadog, Except.ok.injEq,
    exists_eq_left', List.forall_mem_append, List.forall_mem_cons, forall_mem_if]
  rw [Bool.or_eq_true (! _), Bool.not_eq_true', Bool.eq_false_iff, ← imp_iff_not_or]
  constructor
  · rintro ⟨⟨⟨_, title, _⟩, _⟩, summary⟩
    exact ⟨ruleName_typed_iff.1 title, fun given => summary_typed_iff.1 (summary given)⟩
  · rintro ⟨title, summary⟩
    exact ⟨⟨⟨hasDeclaredType_text (by decide) _, ruleName_typed_iff.2 title,
      hasDeclaredType_text (by decide) _, hasDeclaredType_event _, by simp⟩,
      fun _ => hasDeclaredType_resources _⟩,
      fun given => summary_typed_iff.2 (summary given)⟩

theorem getOf_of_mapping (mapping : isMapping value = true) (key : String) (default : Json) :
    getOf value key default = .ok ((PyDict.get? (mappingOrEmpty value) key).getD default) := by
  cases value with
  | dict entries => rfl
  | _ => cases mapping

theorem getOf_none (mapping : isMapping value = true) (key : String) :
    getOf value key .null = .ok (fieldOrNone value key) :=
  getOf_of_mapping mapping key .null

theorem getOf_empty (mapping : isMapping value = true) (key : String) :
    getOf value key (.dict []) = .ok (fieldOrEmpty value key) :=
  getOf_of_mapping mapping key (.dict [])

theorem getOf_of_other (other : ¬ isMapping value = true) (key : String) (default : Json) :
    getOf value key default = .error .attributeError := by
  cases value with
  | dict entries => exact absurd rfl other
  | _ => rfl

theorem isMapping_of_getOf {default found : Json} (returned : getOf value key default = .ok found) :
    isMapping value = true := by
  by_contra other
  rw [getOf_of_other other] at returned
  cases returned

theorem exists_of_bind_ok {Error First Second : Type} {first : Except Error First}
    {next : First → Except Error Second} {result : Second} (returned : first >>= next = .ok result) :
    ∃ value, first = .ok value ∧ next value = .ok result := by
  cases first with
  | error raised => cases returned
  | ok value => exact ⟨value, rfl, returned⟩

theorem pagerdutyAlertId_eq {inc evt : Json} (incMapping : isMapping inc = true)
    (evtMapping : isMapping evt = true) (dataMapping : isMapping (fieldOrEmpty evt "data") = true) :
    pagerdutyAlertId inc evt =
      .ok (orElse (fieldOrNone inc "id") (fieldOrNone (fieldOrEmpty evt "data") "id")) := by
  simp only [pagerdutyAlertId, getOf_none incMapping, getOf_empty evtMapping,
    getOf_none dataMapping, bind, Except.bind, pure, Except.pure, orElse]
  split <;> rfl

theorem pagerdutyService_eq {inc evt : Json} (incMapping : isMapping inc = true)
    (evtMapping : isMapping evt = true)
    (serviceMapping : isMapping (fieldOrEmpty inc "service") = true)
    (dataMapping : isMapping (fieldOrEmpty evt "data") = true)
    (named : (fieldOrNone (fieldOrEmpty inc "service") "summary").truthy = true ∨
      isMapping (fieldOrEmpty (fieldOrEmpty evt "data") "service") = true) :
    pagerdutyService inc evt =
      .ok (orElse (fieldOrNone (fieldOrEmpty inc "service") "summary")
        (fieldOrNone (fieldOrEmpty (fieldOrEmpty evt "data") "service") "summary")) := by
  simp only [pagerdutyService, getOf_empty incMapping, getOf_none serviceMapping,
    getOf_empty evtMapping, getOf_empty dataMapping, bind, Except.bind, pure, Except.pure, orElse]
  split
  · rfl
  · rename_i unnamed
    exact getOf_none (named.resolve_left unnamed) "summary"

theorem of_pagerdutyService {inc evt found : Json}
    (returned : pagerdutyService inc evt = .ok found) :
    isMapping (fieldOrEmpty inc "service") = true ∧
      ((fieldOrNone (fieldOrEmpty inc "service") "summary").truthy = true ∨
        isMapping (fieldOrEmpty (fieldOrEmpty evt "data") "service") = true) := by
  unfold pagerdutyService at returned
  obtain ⟨service, incService, rest⟩ := exists_of_bind_ok returned
  obtain rfl : fieldOrEmpty inc "service" = service :=
    Except.ok.inj ((getOf_empty (isMapping_of_getOf incService) _).symm.trans incService)
  obtain ⟨summary, incSummary, rest⟩ := exists_of_bind_ok rest
  refine ⟨isMapping_of_getOf incSummary, ?_⟩
  obtain rfl : fieldOrNone (fieldOrEmpty inc "service") "summary" = summary :=
    Except.ok.inj ((getOf_none (isMapping_of_getOf incSummary) _).symm.trans incSummary)
  split at rest
  · rename_i named
    exact Or.inl named
  · obtain ⟨data, evtData, rest⟩ := exists_of_bind_ok rest
    obtain rfl : fieldOrEmpty evt "data" = data :=
      Except.ok.inj ((getOf_empty (isMapping_of_getOf evtData) _).symm.trans evtData)
    obtain ⟨dataService, inside, rest⟩ := exists_of_bind_ok rest
    obtain rfl : fieldOrEmpty (fieldOrEmpty evt "data") "service" = dataService :=
      Except.ok.inj ((getOf_empty (isMapping_of_getOf inside) _).symm.trans inside)
    exact Or.inr (isMapping_of_getOf rest)

/-- What `_norm_pagerduty` writes if its lookups find objects. -/
def pagerdutyWritten (runtime : AdapterRuntime) (data : JsonObject) (level : String)
    (event : Json) : JsonObject :=
  [("Type", .str "PagerDutyEvent"),
    ("RuleName", pickFirst runtime
      [fieldOrNone (pagerdutyInc data) "title",
        fieldOrNone (fieldOrEmpty (pagerdutyEvt data) "data") "title",
        getOrNone data "description", .str "pagerduty_incident"]),
    ("Level", .str level), ("event", event),
    ("alert_id", orElse (fieldOrNone (pagerdutyInc data) "id")
      (fieldOrNone (fieldOrEmpty (pagerdutyEvt data) "data") "id")),
    ("service", orElse
      (fieldOrNone (fieldOrEmpty (pagerdutyInc data) "service") "summary")
      (fieldOrNone (fieldOrEmpty (fieldOrEmpty (pagerdutyEvt data) "data") "service") "summary"))]

theorem normPagerduty_of_readsThrough (reads : Adapter.pagerduty.readsThrough runtime data = true) :
    ∃ normalization level event, normPagerduty runtime data = .ok normalization ∧
      normalization.written = pagerdutyWritten runtime data level event := by
  simp only [Adapter.readsThrough, Bool.and_eq_true, Bool.or_eq_true] at reads
  obtain ⟨⟨⟨⟨inc, evt⟩, incService⟩, evtData⟩, summary⟩ := reads
  unfold normPagerduty
  rw [← pagerdutyInc, ← pagerdutyEvt]
  simp only [pagerdutyAlertId_eq inc evt evtData,
    pagerdutyService_eq inc evt incService evtData summary, getOf_none inc, getOf_empty evt,
    getOf_none evtData, getOf_none evt, getOf_of_mapping evt "event_type" (.str "alert"), bind,
    Except.bind, pure, Except.pure]
  exact ⟨_, _, _, rfl, rfl⟩

theorem readsThrough_of_normPagerduty {normalization : Normalization}
    (returned : normPagerduty runtime data = .ok normalization) :
    Adapter.pagerduty.readsThrough runtime data = true := by
  unfold normPagerduty at returned
  rw [← pagerdutyInc, ← pagerdutyEvt] at returned
  obtain ⟨alertId, _, rest⟩ := exists_of_bind_ok returned
  obtain ⟨service, byService, rest⟩ := exists_of_bind_ok rest
  obtain ⟨incTitle, byInc, rest⟩ := exists_of_bind_ok rest
  obtain ⟨data', byEvt, rest⟩ := exists_of_bind_ok rest
  obtain ⟨evtTitle, byData, rest⟩ := exists_of_bind_ok rest
  obtain rfl : fieldOrEmpty (pagerdutyEvt data) "data" = data' :=
    Except.ok.inj ((getOf_empty (isMapping_of_getOf byEvt) _).symm.trans byEvt)
  obtain ⟨incService, named⟩ := of_pagerdutyService byService
  simp only [Adapter.readsThrough, Bool.and_eq_true, Bool.or_eq_true]
  exact ⟨⟨⟨⟨isMapping_of_getOf byInc, isMapping_of_getOf byEvt⟩, incService⟩,
    isMapping_of_getOf byData⟩, named⟩

theorem pagerdutyWritten_typed_iff {level : String} {event : Json} :
    (∀ field ∈ pagerdutyWritten runtime data level event, HasDeclaredType field.1 field.2) ↔
      Adapter.pagerduty.writesTexts runtime data = true := by
  simp only [pagerdutyWritten, List.forall_mem_cons, Adapter.writesTexts, Bool.and_eq_true,
    hasDeclaredType_string (show fieldKind? "Type" = some .string by decide),
    hasDeclaredType_string (show fieldKind? "RuleName" = some .string by decide),
    hasDeclaredType_string (show fieldKind? "Level" = some .string by decide),
    hasDeclaredType_string (show fieldKind? "alert_id" = some .string by decide),
    hasDeclaredType_string (show fieldKind? "service" = some .string by decide)]
  constructor
  · rintro ⟨_, name, _, _, alertId, service, _⟩
    exact ⟨⟨name, alertId⟩, service⟩
  · rintro ⟨⟨name, alertId⟩, service⟩
    exact ⟨rfl, name, rfl, hasDeclaredType_event _, alertId, service, by simp⟩

theorem pagerduty_passes_iff :
    Adapter.pagerduty.Passes runtime data ↔ Adapter.pagerduty.goesThrough runtime data = true := by
  rw [Adapter.goesThrough, Bool.and_eq_true]
  constructor
  · rintro ⟨normalization, returned, typed⟩
    have reads := readsThrough_of_normPagerduty returned
    obtain ⟨other, level, event, same, written⟩ := normPagerduty_of_readsThrough reads
    obtain rfl := Except.ok.inj (same.symm.trans returned)
    rw [written] at typed
    exact ⟨reads, pagerdutyWritten_typed_iff.1 typed⟩
  · rintro ⟨reads, texts⟩
    obtain ⟨normalization, level, event, returned, written⟩ :=
      normPagerduty_of_readsThrough reads
    refine ⟨normalization, returned, ?_⟩
    rw [written]
    exact pagerdutyWritten_typed_iff.2 texts

theorem feishuCard_passes (data : JsonObject) : Adapter.feishuCard.Passes runtime data := by
  refine ⟨_, rfl, ?_⟩
  simp only [List.forall_mem_append, List.forall_mem_cons, forall_mem_unless]
  exact ⟨⟨⟨⟨⟨⟨hasDeclaredType_text (by decide) _, hasDeclaredType_text (by decide) _,
    hasDeclaredType_text (by decide) _, hasDeclaredType_text (by decide) _,
    hasDeclaredType_text (by decide) _, hasDeclaredType_event _,
    hasDeclaredType_text (by decide) _, hasDeclaredType_text (by decide) _, by simp⟩,
    forall_mem_fieldIfText (by decide) _⟩, forall_mem_fieldIfText (by decide) _⟩,
    forall_mem_fieldIfText (by decide) _⟩, fun _ => hasDeclaredType_resources _⟩,
    forall_mem_fieldIfText (by decide) _⟩

theorem goesThrough_iff {adapter : Adapter} :
    adapter.goesThrough runtime data = true ↔ adapter.Passes runtime data := by
  cases adapter with
  | volcengine => exact volcengine_passes_iff.symm
  | grafana => exact grafana_passes_iff.symm
  | prometheus => exact prometheus_passes_iff.symm
  | datadog => exact datadog_passes_iff.symm
  | pagerduty => exact pagerduty_passes_iff.symm
  | feishuCard => exact ⟨fun _ => feishuCard_passes data, fun _ => rfl⟩

/-! ## The fields that decide -/

variable (runtime)

def Adapter.setNames (adapter : Adapter) (data : JsonObject) : List String :=
  match adapter.normalizer runtime data with
  | .ok normalization => "_alert_identity" :: normalization.written.map Prod.fst
  | .error _ => []

def broughtFields (adapter : Option Adapter) (data : JsonObject) : JsonObject :=
  match adapter with
  | none => data
  | some adapter => data.filter fun entry => ! (adapter.setNames runtime data).contains entry.1

variable {runtime}

theorem written_document {written : JsonObject} (distinct : PyDict.Distinct data)
    (typed : ∀ field ∈ written, HasDeclaredType field.1 field.2) (entries : JsonObject) :
    let document := PyDict.set (PyDict.updated data written) "_alert_identity" (.dict entries)
    let brought := data.filter fun entry =>
      ! ("_alert_identity" :: written.map Prod.fst).contains entry.1
    (∀ entry ∈ brought, entry ∈ document) ∧
      ∀ entry ∈ document, HasDeclaredType entry.1 entry.2 ∨ entry ∈ brought := by
  intro document brought
  have updated := distinct.updated written
  have brought_iff : ∀ entry, entry ∈ brought ↔
      entry ∈ data ∧ entry.1 ≠ "_alert_identity" ∧ ∀ field ∈ written, field.1 ≠ entry.1 := by
    intro entry
    simp only [brought, List.mem_filter, Bool.not_eq_true', List.contains_eq_mem,
      decide_eq_false_iff_not, List.mem_cons, not_or, List.mem_map, not_exists, not_and]
  constructor
  · intro entry member
    obtain ⟨old, other, free⟩ := (brought_iff entry).1 member
    exact (PyDict.mem_set_iff updated).2
      (Or.inr ⟨PyDict.mem_updated_of_forall_ne distinct old free, other⟩)
  · intro entry member
    rcases (PyDict.mem_set_iff updated).1 member with identity | ⟨inside, other⟩
    · rw [identity]
      exact Or.inl (hasDeclaredType_identity _)
    · rcases PyDict.mem_updated distinct inside with new | ⟨old, free⟩
      · exact Or.inl (typed entry new)
      · exact Or.inr ((brought_iff entry).2 ⟨old, other, free⟩)

theorem exists_document {adapter : Adapter} (distinct : PyDict.Distinct data)
    (goes : adapter.goesThrough runtime data = true) :
    ∃ document, normalize runtime adapter data =
        webhookDataFromMapping runtime.floatOfInt false document ∧
      (∀ entry ∈ broughtFields runtime (some adapter) data, entry ∈ document) ∧
      ∀ entry ∈ document, HasDeclaredType entry.1 entry.2 ∨
        entry ∈ broughtFields runtime (some adapter) data := by
  obtain ⟨normalization, returned, typed⟩ := goesThrough_iff.1 goes
  refine ⟨PyDict.set (PyDict.updated data normalization.written) "_alert_identity"
    (.dict (normalization.identity.toPayload runtime)), ?_, ?_⟩
  · simp only [normalize, returned, bind, Except.bind, withAlertIdentity]
  · have decided := written_document distinct typed (normalization.identity.toPayload runtime)
    simp only [broughtFields, Adapter.setNames, returned]
    exact decided

theorem boundary_decides {document brought : JsonObject}
    (inside : ∀ entry ∈ brought, entry ∈ document)
    (others : ∀ entry ∈ document, HasDeclaredType entry.1 entry.2 ∨ entry ∈ brought) :
    ((∃ data, webhookDataFromMapping runtime.floatOfInt false document = .ok data) ∧
        ∀ entry ∈ brought, HasDeclaredType entry.1 entry.2) ∨
      ∃ entry ∈ brought, ¬ HasDeclaredType entry.1 entry.2 ∧
        webhookDataFromMapping runtime.floatOfInt false document =
          .error (mistyped entry.1 entry.2) := by
  by_cases typed : ∀ entry ∈ document, HasDeclaredType entry.1 entry.2
  · exact Or.inl ⟨exists_webhookDataFromMapping typed,
      fun entry member => typed entry (inside entry member)⟩
  · obtain ⟨entry, member, untyped, raised⟩ := webhookDataFromMapping_of_mistyped typed
    exact Or.inr ⟨entry, (others entry member).resolve_left untyped, untyped, raised⟩

variable (runtime)

def eventAdapter (payload : JsonObject) (source : Option String) (headers : Option JsonObject) :
    Option Adapter :=
  selectedAdapter runtime (sourceHint runtime source headers) (unwrapJsonEnvelope runtime payload)

def eventFields (payload : JsonObject) (source : Option String) (headers : Option JsonObject) :
    JsonObject :=
  broughtFields runtime (eventAdapter runtime payload source headers)
    (unwrapJsonEnvelope runtime payload)

/-- There is no adapter, or the payload is one that it goes through. -/
def GoesThrough (payload : JsonObject) (source : Option String) (headers : Option JsonObject) :
    Prop :=
  ∀ adapter ∈ eventAdapter runtime payload source headers,
    adapter.goesThrough runtime (unwrapJsonEnvelope runtime payload) = true

variable {runtime}

theorem normalizeWebhookEvent_cases {payload : JsonObject} (distinct : PyDict.Distinct payload)
    {source : Option String} {headers : Option JsonObject}
    (goes : GoesThrough runtime payload source headers) :
    ((∃ normalized, normalizeWebhookEvent runtime (.dict payload) source headers =
        .ok normalized) ∧
        ∀ entry ∈ eventFields runtime payload source headers,
          HasDeclaredType entry.1 entry.2) ∨
      ∃ entry ∈ eventFields runtime payload source headers,
        ¬ HasDeclaredType entry.1 entry.2 ∧
          normalizeWebhookEvent runtime (.dict payload) source headers =
            .error (mistyped entry.1 entry.2) := by
  unfold eventFields
  simp only [normalizeWebhookEvent, normalizeObject]
  cases selected : eventAdapter runtime payload source headers with
  | none =>
      rw [← eventAdapter, selected]
      rcases @boundary_decides runtime _ _
        (fun entry (member : entry ∈ unwrapJsonEnvelope runtime payload) => member)
        (fun entry member => Or.inr member) with
        ⟨⟨data, passed⟩, typed⟩ | ⟨entry, member, untyped, raised⟩
      · refine Or.inl ⟨?_, typed⟩
        simp only [passed]
        exact ⟨_, rfl⟩
      · refine Or.inr ⟨entry, member, untyped, ?_⟩
        simp only [raised]
        rfl
  | some adapter =>
      rw [← eventAdapter, selected]
      obtain ⟨document, normalized, inside, others⟩ :=
        exists_document (distinct_unwrapJsonEnvelope distinct) (goes adapter selected)
      rcases @boundary_decides runtime _ _ inside others with
        ⟨⟨data, passed⟩, typed⟩ | ⟨entry, member, untyped, raised⟩
      · refine Or.inl ⟨?_, typed⟩
        simp only [normalized, passed]
        exact ⟨_, rfl⟩
      · refine Or.inr ⟨entry, member, untyped, ?_⟩
        simp only [normalized, raised]
        rfl

private theorem plain_loads_distinct (text : String) (entries : JsonObject)
    (loaded : PythonRuntime.plain.jsonLoads text = some (.dict entries)) :
    (entries.map Prod.fst).Nodup := by
  cases loaded

def plainAdapters : AdapterRuntime where
  toPythonRuntime := .plain
  toCharacterTables := .ascii
  floatOfInt value := toString value ++ ".0"
  loads_distinct := plain_loads_distinct

/-- An alert as Alertmanager sends it, with a `status` of its own. -/
def cpuNotification : JsonObject :=
  [("status", .str "firing"),
    ("alerts", .list [.dict [("labels", .dict [("alertname", .str "HighCPU"),
      ("severity", .str "critical"), ("instance", .str "web-1")])]])]

end WebhookNormalization

end WebhookWise
