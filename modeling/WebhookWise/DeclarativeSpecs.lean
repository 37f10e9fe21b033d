import Mathlib.Data.List.Sort
import Mathlib.Data.String.Basic
import WebhookWise.ConditionTrees
import WebhookWise.RuntimeSettings
import WebhookWise.WebhookNormalization

/-!
# Adapters that are declared in a file

A spec is a YAML document.  It is checked and compiled once, at start, into a detector and a
normalizer.  Both read a payload along paths such as `alerts.0.labels.alertname`, and the
detector combines what it reads by the conditions of the spec.
-/

namespace WebhookWise

namespace DeclarativeSpecs

open EcosystemAdapters RuleMatching WebhookBoundary

/-! ## Documents -/

/-- What `yaml.safe_load` makes of a scalar.  Dates, bytes and sets are `other`: no value of a
payload equals them. -/
inductive Scalar where
  | null
  | bool (value : Bool)
  | int (value : Int)
  | float (printed : String)
  | str (text : String)
  | other (typeName printed : String)
deriving DecidableEq

inductive Yaml where
  | scalar (value : Scalar)
  | list (items : List Yaml)
  | dict (entries : List (Scalar × Yaml))

abbrev Mapping := List (Scalar × Yaml)

/-- `type(value).__name__`. -/
def Yaml.typeName : Yaml → String
  | .scalar .null => "NoneType"
  | .scalar (.bool _) => "bool"
  | .scalar (.int _) => "int"
  | .scalar (.float _) => "float"
  | .scalar (.str _) => "str"
  | .scalar (.other typeName _) => typeName
  | .list _ => "list"
  | .dict _ => "dict"

/-- `mapping[key]`, if `key in mapping`. -/
def field? (mapping : Mapping) (key : String) : Option Yaml :=
  (mapping.find? fun entry => entry.1 = .str key).map Prod.snd

/-- `mapping.get(key)`. -/
def getField (mapping : Mapping) (key : String) : Yaml :=
  (field? mapping key).getD (.scalar .null)

inductive SpecRaised where
  | specError (message : String)
  | typeError
  | conversion (raised : AutoSla.Raised)
deriving DecidableEq

/-- What the compiled callables raise: a conversion between texts and numbers does, or the
boundary. -/
inductive Raised where
  | conversion (raised : AutoSla.Raised)
  | boundary (raised : WebhookBoundary.Raised)
deriving DecidableEq

/-- Python as the specs use it. -/
structure SpecRuntime extends AdapterRuntime where
  digits : AutoSla.DigitTables
  /-- The `float` that prints as the text. -/
  floatValue : String → RuntimeSettings.FloatValue
  /-- `str(sorted(keys))` where not all keys are strings. -/
  sortedOthers : List Scalar → Except SpecRaised String

/-- `str(value)` of an `int`, which refuses long ones. -/
def strOfInt (value : Int) : Except AutoSla.Raised String :=
  if AutoSla.maxStrDigits < (toString value.natAbs).length then
    .error (.valueError ("Exceeds the limit (4300 digits) for integer string conversion; " ++
      "use sys.set_int_max_str_digits() to increase the limit"))
  else .ok (toString value)

/-- `str(value)` of a scalar. -/
def Scalar.pyStr : Scalar → Except AutoSla.Raised String
  | .null => .ok "None"
  | .bool value => .ok (if value then "True" else "False")
  | .int value => strOfInt value
  | .float printed => .ok printed
  | .str text => .ok text
  | .other _ printed => .ok printed

variable (runtime : SpecRuntime)

/-- `str(sorted(keys))`. -/
def sortedText (keys : List Scalar) : Except SpecRaised String :=
  let texts := keys.filterMap fun key =>
    match key with
    | .str text => some text
    | _ => none
  if texts.length < keys.length then runtime.sortedOthers keys
  else
    .ok ("[" ++ String.intercalate ", "
      ((texts.insertionSort fun first second => first ≤ second).map runtime.reprStr) ++ "]")

def raiseSpecError {Value : Type} (message : String) : Except SpecRaised Value :=
  .error (.specError message)

/-! ## Paths -/

/-- `path.split(".")`. -/
def segments (path : String) : List String :=
  (path.toList.splitOn '.').map String.ofList

/-- The loop of `_resolve_path`; `none` is `_MISSING`. -/
def resolveSegments (current : Json) : List String → Except Raised (Option Json)
  | [] => .ok (some current)
  | segment :: rest =>
      match current with
      | .dict entries =>
          match PyDict.get? entries segment with
          | none => .ok none
          | some value => resolveSegments value rest
      | .list items =>
          if ! AutoSla.isDigits runtime.digits segment then .ok none
          else
            match AutoSla.intOfDigits runtime.digits runtime.toPythonRuntime segment with
            | .error raised => .error (.conversion raised)
            | .ok index =>
                match items[index.toNat]? with
                | none => .ok none
                | some value => resolveSegments value rest
      | _ => .ok none

def resolvePath (payload : JsonObject) (path : String) : Except Raised (Option Json) :=
  resolveSegments runtime (.dict payload) (segments path)

/-- `str(value).strip()` is truthy. -/
def isNonBlank (value : Json) : Bool :=
  strip (value.pyStr runtime.toPythonRuntime) ≠ ""

/-- `_first_non_empty`; the JSON null is `None`. -/
def firstNonEmpty (payload : JsonObject) : List String → Except Raised Json
  | [] => .ok .null
  | path :: paths =>
      match resolvePath runtime payload path with
      | .error raised => .error raised
      | .ok none | .ok (some .null) => firstNonEmpty payload paths
      | .ok (some value) =>
          if isNonBlank runtime value then .ok value else firstNonEmpty payload paths

/-! ## Conditions -/

abbrev Detector := JsonObject → Except Raised Bool

def requirePathString (value : Yaml) (spec place : String) : Except SpecRaised String :=
  match value with
  | .scalar (.str text) =>
      if strip text = "" then
        raiseSpecError (spec ++ ": '" ++ place ++ "' must be a non-empty path string")
      else .ok text
  | _ => raiseSpecError (spec ++ ": '" ++ place ++ "' must be a non-empty path string")

/-- The number that a value of a payload is; a Python `bool` is one. -/
def numberOfJson : Json → Option RuntimeSettings.FloatValue
  | .bool value => some (.finite (if value then 1 else 0))
  | .int value => some (.finite value)
  | .float printed => some (runtime.floatValue printed)
  | _ => none

def numberOfScalar : Scalar → Option RuntimeSettings.FloatValue
  | .bool value => some (.finite (if value then 1 else 0))
  | .int value => some (.finite value)
  | .float printed => some (runtime.floatValue printed)
  | _ => none

/-- `resolved == expected`. -/
def equals (resolved : Json) (expected : Scalar) : Bool :=
  match numberOfJson runtime resolved, numberOfScalar runtime expected with
  | some first, some second => first = second && first ≠ .nan
  | _, _ =>
      match resolved, expected with
      | .null, .null => true
      | .str first, .str second => first = second
      | _, _ => false

/-- The closure of `_compile_key_exists`. -/
def keyExists (path : String) : Detector := fun payload =>
  (resolvePath runtime payload path).map Option.isSome

def keyEquals (path : String) (expected : Scalar) : Detector := fun payload =>
  match resolvePath runtime payload path with
  | .error raised => .error raised
  | .ok none => .ok false
  | .ok (some resolved) =>
      if equals runtime resolved expected then .ok true
      else
        match expected.pyStr with
        | .error raised => .error (.conversion raised)
        | .ok text => .ok (resolved.pyStr runtime.toPythonRuntime = text)

def keyPrefix (path start : String) : Detector := fun payload =>
  match resolvePath runtime payload path with
  | .error raised => .error raised
  | .ok none | .ok (some .null) => .ok false
  | .ok (some resolved) =>
      .ok (start.toList.isPrefixOf (resolved.pyStr runtime.toPythonRuntime).toList)

def compileKeyExists (value : Yaml) (spec place : String) : Except SpecRaised Detector := do
  let path ← requirePathString value spec (place ++ ".key_exists")
  return keyExists runtime path

def compileKeyEquals (value : Yaml) (spec place : String) : Except SpecRaised Detector :=
  let malformed :=
    spec ++ ": '" ++ place ++ ".key_equals' must be a mapping with 'path' and 'value'"
  match value with
  | .dict entries =>
      match field? entries "path", field? entries "value" with
      | some pathNode, some expectedNode => do
          let path ← requirePathString pathNode spec (place ++ ".key_equals.path")
          match expectedNode with
          | .scalar .null | .list _ | .dict _ =>
              raiseSpecError (spec ++ ": '" ++ place ++
                ".key_equals.value' must be a scalar (string/number/bool)")
          | .scalar expected => return keyEquals runtime path expected
      | _, _ => raiseSpecError malformed
  | _ => raiseSpecError malformed

def compileKeyPrefix (value : Yaml) (spec place : String) : Except SpecRaised Detector :=
  let malformed :=
    spec ++ ": '" ++ place ++ ".key_prefix' must be a mapping with 'path' and 'prefix'"
  match value with
  | .dict entries =>
      match field? entries "path", field? entries "prefix" with
      | some pathNode, some startNode => do
          let path ← requirePathString pathNode spec (place ++ ".key_prefix.path")
          match startNode with
          | .scalar (.str start) => return keyPrefix runtime path start
          | _ => raiseSpecError (spec ++ ": '" ++ place ++ ".key_prefix.prefix' must be a string")
      | _, _ => raiseSpecError malformed
  | _ => raiseSpecError malformed

/-- The closures of `_compile_combinator`. -/
def combined (kind : String) (subs : List Detector) : Detector := fun payload =>
  if kind = "all" then ConditionTrees.allOf (subs.map fun condition => condition payload)
  else ConditionTrees.anyOf (subs.map fun condition => condition payload)

mutual

def compileCondition (spec : String) : Yaml → String → Except SpecRaised Detector
  | .dict [(key, value)], place =>
      if key = .str "all" then compileCombinator spec "all" value place
      else if key = .str "any" then compileCombinator spec "any" value place
      else if key = .str "key_exists" then compileKeyExists runtime value spec place
      else if key = .str "key_equals" then compileKeyEquals runtime value spec place
      else if key = .str "key_prefix" then compileKeyPrefix runtime value spec place
      else
        match key.pyStr with
        | .error raised => .error (.conversion raised)
        | .ok text =>
            raiseSpecError (spec ++ ": '" ++ place ++ "' has unknown condition '" ++ text ++
              "' (expected one of: all, any, key_equals, key_exists, key_prefix)")
  | .dict entries, place => do
      let keys ← sortedText runtime (entries.map Prod.fst)
      raiseSpecError
        (spec ++ ": '" ++ place ++ "' must have exactly one condition key, got " ++ keys)
  | node, place =>
      raiseSpecError (spec ++ ": '" ++ place ++
        "' must be a mapping with exactly one condition key, got " ++ node.typeName)

def compileCombinator (spec kind : String) : Yaml → String → Except SpecRaised Detector
  | .list items, place =>
      if items.isEmpty then
        raiseSpecError
          (spec ++ ": '" ++ place ++ "." ++ kind ++ "' must be a non-empty list of conditions")
      else do
        let subs ← compileSubs spec (place ++ "." ++ kind) items 0
        return combined kind subs
  | _, place =>
      raiseSpecError
        (spec ++ ": '" ++ place ++ "." ++ kind ++ "' must be a non-empty list of conditions")

def compileSubs (spec place : String) : List Yaml → Nat → Except SpecRaised (List Detector)
  | [], _ => .ok []
  | item :: items, index => do
      let sub ← compileCondition spec item (place ++ "[" ++ toString index ++ "]")
      let subs ← compileSubs spec place items (index + 1)
      return sub :: subs

end

/-! ## Identity and output -/

def pathTexts (spec field : String) : List Yaml → Except SpecRaised (List String)
  | [] => .ok []
  | .scalar (.str text) :: items =>
      if strip text = "" then
        raiseSpecError
          (spec ++ ": '" ++ field ++ "' must be a path string or list of non-empty path strings")
      else do
        let paths ← pathTexts spec field items
        return text :: paths
  | _ :: _ =>
      raiseSpecError
        (spec ++ ": '" ++ field ++ "' must be a path string or list of non-empty path strings")

def normalizePaths (value : Yaml) (spec field : String) : Except SpecRaised (List String) :=
  match value with
  | .list [] => raiseSpecError (spec ++ ": '" ++ field ++ "' must not be an empty list")
  | .list items => pathTexts spec field items
  | value => pathTexts spec field [value]

def pathsAt (mapping : Mapping) (key spec field : String) :
    Except SpecRaised (Option (List String)) :=
  match field? mapping key with
  | none => .ok none
  | some value => (normalizePaths value spec field).map some

/-- `identity_paths`, which has the name always and the other fields if the spec gives them. -/
structure IdentityPaths where
  name : List String
  resource : Option (List String)
  service : Option (List String)
  fingerprint : Option (List String)
  severity : Option (List String)

structure OutputPaths where
  ruleName : Option (List String) := none
  level : Option (List String) := none
  summary : Option (List String) := none

def refuseUnknown (mapping : Mapping) (allowed : List String) (before : String) :
    Except SpecRaised Unit :=
  let unknown := (mapping.map Prod.fst).filter fun key =>
    ! allowed.any fun name => key = .str name
  if unknown.isEmpty then .ok ()
  else do
    let keys ← sortedText runtime unknown
    raiseSpecError (before ++ keys ++ " (allowed: " ++ String.intercalate ", " allowed ++ ")")

/-- A text that is given literally, without the white space around it. -/
def literal (value : Yaml) (message : String) : Except SpecRaised String :=
  match value with
  | .scalar (.str text) => if strip text = "" then raiseSpecError message else .ok (strip text)
  | _ => raiseSpecError message

def literalAt (mapping : Mapping) (key message : String) : Except SpecRaised (Option String) :=
  match field? mapping key with
  | none => .ok none
  | some value => (literal value message).map some

def compileIdentity (raw : Yaml) (spec name : String) :
    Except SpecRaised (String × IdentityPaths) :=
  match raw with
  | .dict mapping => do
      refuseUnknown runtime mapping
        ["fingerprint", "name", "resource", "service", "severity", "source"]
        (spec ++ ": unknown 'identity' fields ")
      let source ← literalAt mapping "source"
        (spec ++ ": 'identity.source' must be a non-empty string literal")
      match field? mapping "name" with
      | none =>
          raiseSpecError
            (spec ++ ": 'identity.name' is required so alerts get a stable dedup key")
      | some value => do
          let namePaths ← normalizePaths value spec "identity.name"
          let resource ← pathsAt mapping "resource" spec "identity.resource"
          let service ← pathsAt mapping "service" spec "identity.service"
          let fingerprint ← pathsAt mapping "fingerprint" spec "identity.fingerprint"
          let severity ← pathsAt mapping "severity" spec "identity.severity"
          return (source.getD name, ⟨namePaths, resource, service, fingerprint, severity⟩)
  | _ => raiseSpecError (spec ++ ": 'identity' is required and must be a mapping")

def compileOutput (raw : Yaml) (spec : String) :
    Except SpecRaised (Option String × OutputPaths) :=
  match raw with
  | .scalar .null => .ok (none, {})
  | .dict mapping => do
      refuseUnknown runtime mapping ["Level", "RuleName", "Type", "summary"]
        (spec ++ ": unknown 'output' fields ")
      let outputType ← literalAt mapping "Type"
        (spec ++ ": 'output.Type' must be a non-empty string literal")
      let ruleName ← pathsAt mapping "RuleName" spec "output.RuleName"
      let level ← pathsAt mapping "Level" spec "output.Level"
      let summary ← pathsAt mapping "summary" spec "output.summary"
      return (outputType, ⟨ruleName, level, summary⟩)
  | _ => raiseSpecError (spec ++ ": 'output' must be a mapping")

/-! ## The normalizer -/

/-- What `_build_normalizer` closes over. -/
structure NormalizerParts where
  name : String
  source : String
  identityPaths : IdentityPaths
  outputType : Option String
  outputPaths : OutputPaths

def firstIfGiven (payload : JsonObject) (paths : Option (List String)) : Except Raised Json :=
  match paths with
  | none => .ok .null
  | some paths => firstNonEmpty runtime payload paths

/-- `normalize_level` of the first value at the paths, if there are paths. -/
def levelIfGiven (payload : JsonObject) (paths : Option (List String)) : Except Raised Json :=
  match paths with
  | none => .ok .null
  | some paths =>
      (firstNonEmpty runtime payload paths).map fun value =>
        .str (normalizeLevel runtime.toAdapterRuntime value)

structure Found where
  name : Json
  resource : Json
  service : Json
  fingerprint : Json
  severity : Json
  rule : Json
  level : Json
  summary : Json

/-- The lookups of `_normalize`. -/
def lookUp (parts : NormalizerParts) (data : JsonObject) : Except Raised Found := do
  let name ← firstNonEmpty runtime data parts.identityPaths.name
  let resource ← firstIfGiven runtime data parts.identityPaths.resource
  let service ← firstIfGiven runtime data parts.identityPaths.service
  let fingerprint ← firstIfGiven runtime data parts.identityPaths.fingerprint
  let severity ← levelIfGiven runtime data parts.identityPaths.severity
  let rule ←
    if parts.outputPaths.ruleName.isSome then
      firstIfGiven runtime data parts.outputPaths.ruleName
    else .ok name
  let level ←
    if parts.outputPaths.level.isSome then levelIfGiven runtime data parts.outputPaths.level
    else .ok severity
  let summary ← firstIfGiven runtime data parts.outputPaths.summary
  return ⟨name, resource, service, fingerprint, severity, rule, level, summary⟩

/-- What `_normalize` makes of the values. -/
def Found.normalization (found : Found) (parts : NormalizerParts) : Normalization :=
  let text := textUnlessNone runtime.toAdapterRuntime
  { written :=
      [("Type", .str (parts.outputType.getD parts.name)), ("event", .str "alert")] ++
      (if isNone found.rule then [] else [("RuleName", text found.rule)]) ++
      (if isNone found.level then [] else [("Level", found.level)]) ++
      (if isNone found.summary then [] else [("summary", text found.summary)]) ++
      (if isNone found.resource then []
        else [("Resources", instanceResources (text found.resource))]) ++
      (if isNone found.service then [] else [("service", text found.service)])
    identity := {
      source := parts.source
      name := text found.name
      resource := text found.resource
      service := text found.service
      fingerprint := text found.fingerprint
      severity := found.severity } }

/-- `_normalize`, the closure of `_build_normalizer`. -/
def buildNormalizer (parts : NormalizerParts) (data : JsonObject) :
    Except Raised JsonObject := do
  let found ← lookUp runtime parts data
  let normalization := found.normalization runtime parts
  (withAlertIdentity runtime.toAdapterRuntime (PyDict.updated data normalization.written)
    normalization.identity).mapError .boundary

/-! ## Specs -/

structure CompiledSpec where
  name : String
  priority : Int
  aliases : List String
  detector : Detector
  normalizer : JsonObject → Except Raised JsonObject

/-- `raw.get("name")`, without the white space around it. -/
def specName (mapping : Mapping) (spec : String) : Except SpecRaised String :=
  literal (getField mapping "name")
    (spec ++ ": 'name' is required and must be a non-empty string")

/-- `raw.get("priority", 0)`. -/
def specPriority (mapping : Mapping) (spec : String) : Except SpecRaised Int :=
  match field? mapping "priority" with
  | none => .ok 0
  | some (.scalar (.int value)) => .ok value
  | some _ => raiseSpecError (spec ++ ": 'priority' must be an integer")

def aliasText : Yaml → Option String
  | .scalar (.str text) => if strip text = "" then none else some (strip text)
  | _ => none

def specAliases (mapping : Mapping) (spec : String) : Except SpecRaised (List String) :=
  match field? mapping "aliases" with
  | none => .ok []
  | some (.list items) =>
      if items.all fun item => (aliasText item).isSome then .ok (items.filterMap aliasText).dedup
      else raiseSpecError (spec ++ ": 'aliases' must be a list of non-empty strings")
  | some _ => raiseSpecError (spec ++ ": 'aliases' must be a list of non-empty strings")

def compileSpec (raw : Yaml) (spec : String) : Except SpecRaised CompiledSpec :=
  match raw with
  | .dict mapping => do
      refuseUnknown runtime mapping
        ["aliases", "detect", "identity", "name", "output", "priority"]
        (spec ++ ": unknown top-level keys ")
      let name ← specName mapping spec
      let priority ← specPriority mapping spec
      let aliases ← specAliases mapping spec
      match field? mapping "detect" with
      | none => raiseSpecError (spec ++ ": 'detect' is required")
      | some node => do
          let detector ← compileCondition runtime spec node "detect"
          let identity ← compileIdentity runtime (getField mapping "identity") spec name
          let output ← compileOutput runtime (getField mapping "output") spec
          return {
            name := name
            priority := priority
            aliases := aliases
            detector := detector
            normalizer :=
              buildNormalizer runtime ⟨name, identity.1, identity.2, output.1, output.2⟩ }
  | _ =>
      raiseSpecError (spec ++ ": top-level document must be a mapping, got " ++ raw.typeName)

end DeclarativeSpecs

end WebhookWise
