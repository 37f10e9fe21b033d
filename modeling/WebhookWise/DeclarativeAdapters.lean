import WebhookWise.DeclarativeSpecs

/-!
# What a declared adapter means

The condition tree of a spec has a truth value on every payload.  The compiled detector
returns it, unless it reaches a path with a digit segment which `int` refuses, a boolean
which Python takes for an equal number, or a number which `str` refuses.  The compiled
normalizer returns, or the boundary names a field of the payload.
-/

namespace WebhookWise

namespace DeclarativeAdapters

open ConditionTrees DeclarativeSpecs EcosystemAdapters RuleMatching WebhookBoundary
  WebhookNormalization

/-! ## Condition trees -/

inductive Leaf where
  | keyExists (path : String)
  | keyEquals (path : String) (expected : Scalar)
  | keyPrefix (path start : String)

def leafOf (key : Scalar) (value : Yaml) : Option Leaf :=
  match value with
  | .scalar (.str path) => if key = .str "key_exists" then some (.keyExists path) else none
  | .dict entries =>
      if key = .str "key_equals" then
        match field? entries "path", field? entries "value" with
        | some (.scalar (.str path)), some (.scalar expected) => some (.keyEquals path expected)
        | _, _ => none
      else if key = .str "key_prefix" then
        match field? entries "path", field? entries "prefix" with
        | some (.scalar (.str path)), some (.scalar (.str start)) => some (.keyPrefix path start)
        | _, _ => none
      else none
  | _ => none

mutual

def treeOf : Yaml → Option (ConditionTree Leaf)
  | .dict [(key, value)] =>
      if key = .str "all" then (subtreesOf value).map .all
      else if key = .str "any" then (subtreesOf value).map .any
      else (leafOf key value).map .leaf
  | _ => none

def subtreesOf : Yaml → Option (List (ConditionTree Leaf))
  | .list items => treesOf items
  | _ => none

def treesOf : List Yaml → Option (List (ConditionTree Leaf))
  | [] => some []
  | item :: items =>
      match treeOf item, treesOf items with
      | some tree, some trees => some (tree :: trees)
      | _, _ => none

end

variable (runtime : SpecRuntime)

/-! ## Paths -/

def valueFrom (current : Json) : List String → Option Json
  | [] => some current
  | segment :: rest =>
      match current with
      | .dict entries => (PyDict.get? entries segment).bind fun value => valueFrom value rest
      | .list items =>
          if AutoSla.isDigits runtime.digits segment then
            (items[(AutoSla.decimalValue runtime.digits segment.toList).toNat]?).bind fun value =>
              valueFrom value rest
          else none
      | _ => none

def valueAt (payload : JsonObject) (path : String) : Option Json :=
  valueFrom runtime (.dict payload) (segments path)

/-- Every digit segment that is met at a list is one that `int` reads. -/
def ReadsFrom (current : Json) : List String → Prop
  | [] => True
  | segment :: rest =>
      match current with
      | .dict entries => ∀ value ∈ PyDict.get? entries segment, ReadsFrom value rest
      | .list items =>
          AutoSla.isDigits runtime.digits segment = true →
            AutoSla.IsReadable runtime.digits segment ∧
              ∀ value ∈ items[(AutoSla.decimalValue runtime.digits segment.toList).toNat]?,
                ReadsFrom value rest
      | _ => True

/-- The digit segments of a path that lists meet are read by `int`. -/
def Reads (payload : JsonObject) (path : String) : Prop :=
  ReadsFrom runtime (.dict payload) (segments path)

/-! ## The truth value of a condition -/

variable {payload : JsonObject}

def isScalar : Json → Scalar → Bool
  | .bool value, .bool expected => value = expected
  | .int value, .int expected => value = expected
  | .int value, .float expected => runtime.floatValue expected = .finite value
  | .float value, .int expected => runtime.floatValue value = .finite expected
  | .float value, .float expected =>
      runtime.floatValue value = runtime.floatValue expected && runtime.floatValue value ≠ .nan
  | .str value, .str expected => value = expected
  | _, _ => false

def textOf : Scalar → String
  | .null => "None"
  | .bool value => if value then "True" else "False"
  | .int value => toString value
  | .float printed => printed
  | .str text => text
  | .other _ printed => printed

/-- The truth value of a condition. -/
def means (payload : JsonObject) : Leaf → Bool
  | .keyExists path => (valueAt runtime payload path).isSome
  | .keyEquals path expected =>
      match valueAt runtime payload path with
      | none => false
      | some value =>
          isScalar runtime value expected ||
            value.pyStr runtime.toPythonRuntime = textOf expected
  | .keyPrefix path start =>
      match valueAt runtime payload path with
      | none | some .null => false
      | some value => start.toList.isPrefixOf (value.pyStr runtime.toPythonRuntime).toList

/-- One is a boolean, and the other a number that Python takes for equal. -/
def equalsAcross : Json → Scalar → Bool
  | .bool value, .int expected => expected = if value then 1 else 0
  | .bool value, .float expected =>
      runtime.floatValue expected = .finite (if value then 1 else 0)
  | .int value, .bool expected => value = if expected then 1 else 0
  | .float value, .bool expected =>
      runtime.floatValue value = .finite (if expected then 1 else 0)
  | _, _ => false

/-- `str` prints the scalar. -/
def IsPrintable : Scalar → Prop
  | .int value => (toString value.natAbs).length ≤ AutoSla.maxStrDigits
  | _ => True

/-- The conversions which the condition makes go through, and no boolean meets a number that
is equal to it. -/
def Proper (payload : JsonObject) : Leaf → Prop
  | .keyExists path | .keyPrefix path _ => Reads runtime payload path
  | .keyEquals path expected =>
      Reads runtime payload path ∧
        ∀ value ∈ valueAt runtime payload path,
          equalsAcross runtime value expected = false ∧
            (isScalar runtime value expected = false → IsPrintable expected)

variable {runtime}

theorem resolveSegments_of_reads {current : Json} {path : List String}
    (reads : ReadsFrom runtime current path) :
    resolveSegments runtime current path = .ok (valueFrom runtime current path) := by
  induction path generalizing current with
  | nil => rfl
  | cons segment path ih =>
      cases current with
      | dict entries =>
          simp only [ReadsFrom] at reads
          simp only [resolveSegments, valueFrom]
          cases present : PyDict.get? entries segment with
          | none => rfl
          | some value => exact ih (reads value present)
      | list items =>
          simp only [ReadsFrom] at reads
          simp only [resolveSegments, valueFrom]
          cases digits : AutoSla.isDigits runtime.digits segment with
          | false => rfl
          | true =>
              obtain ⟨readable, rest⟩ := reads digits
              simp only [AutoSla.intOfDigits_of_readable readable]
              cases inside : items[(AutoSla.decimalValue runtime.digits segment.toList).toNat]? with
              | none => rfl
              | some value => exact ih (rest value inside)
      | null | bool _ | int _ | float _ | str _ => rfl

theorem resolvePath_of_reads {path : String} (reads : Reads runtime payload path) :
    resolvePath runtime payload path = .ok (valueAt runtime payload path) :=
  resolveSegments_of_reads reads

/-! ## The compiled conditions -/

variable {expected : Scalar} (path : String)

theorem ofBool_eq_iff {first second : Bool} :
    ((if first then 1 else 0 : ℚ) = if second then 1 else 0) ↔ first = second := by
  cases first <;> cases second <;> simp

theorem ofBool_eq_cast_iff {value : Bool} {number : Int} :
    ((if value then 1 else 0 : ℚ) = number) ↔ number = if value then 1 else 0 := by
  cases value <;> simp [eq_comm]

/-- Python compares as the meaning says where no boolean meets an equal number. -/
theorem equals_eq_isScalar {value : Json} (apart : equalsAcross runtime value expected = false)
    (given : expected ≠ .null) :
    equals runtime value expected = isScalar runtime value expected := by
  cases value with
  | bool value =>
      cases expected with
      | bool expected => simp [equals, isScalar, numberOfJson, numberOfScalar, ofBool_eq_iff]
      | int expected =>
          simp only [equalsAcross, decide_eq_false_iff_not] at apart
          simp [equals, isScalar, numberOfJson, numberOfScalar, ofBool_eq_cast_iff, apart]
      | float expected =>
          simp only [equalsAcross, decide_eq_false_iff_not] at apart
          simp [equals, isScalar, numberOfJson, numberOfScalar, Ne.symm apart]
      | null | str _ | other _ _ => rfl
  | int value =>
      cases expected with
      | bool expected =>
          simp only [equalsAcross, decide_eq_false_iff_not] at apart
          have differs : (value : ℚ) ≠ if expected then 1 else 0 := fun same =>
            apart (ofBool_eq_cast_iff.1 same.symm)
          simp [equals, isScalar, numberOfJson, numberOfScalar, differs]
      | int expected => simp [equals, isScalar, numberOfJson, numberOfScalar]
      | float expected => simp [equals, isScalar, numberOfJson, numberOfScalar, eq_comm]
      | null | str _ | other _ _ => rfl
  | float value =>
      cases expected with
      | bool expected =>
          simp only [equalsAcross, decide_eq_false_iff_not] at apart
          simp [equals, isScalar, numberOfJson, numberOfScalar, apart]
      | int expected =>
          simp only [equals, isScalar, numberOfJson, numberOfScalar]
          by_cases same : runtime.floatValue value = .finite expected <;> simp [same]
      | float expected => rfl
      | null | str _ | other _ _ => rfl
  | null =>
      cases expected with
      | null => exact absurd rfl given
      | bool _ | int _ | float _ | str _ | other _ _ => rfl
  | str | list | dict => cases expected <;> rfl

theorem pyStr_of_isPrintable (printable : IsPrintable expected) :
    expected.pyStr = .ok (textOf expected) := by
  cases expected with
  | int value => exact if_neg (Nat.not_lt.2 printable)
  | null | bool _ | float _ | str _ | other _ _ => rfl

variable (runtime)

/-- The detector returns the truth value of the tree on every payload. -/
def Means (detector : Detector) (tree : ConditionTree Leaf) : Prop :=
  ∀ payload, Agrees (means runtime payload) (Proper runtime payload) (detector payload) tree

variable {runtime}

theorem means_keyExists : Means runtime (keyExists runtime path) (.leaf (.keyExists path)) := by
  intro payload
  apply agrees_leaf
  intro reads
  simp only [keyExists, resolvePath_of_reads reads]
  rfl

theorem means_keyEquals (given : expected ≠ .null) :
    Means runtime (keyEquals runtime path expected) (.leaf (.keyEquals path expected)) := by
  intro payload
  apply agrees_leaf
  rintro ⟨reads, converts⟩
  simp only [keyEquals, resolvePath_of_reads reads, means]
  cases found : valueAt runtime payload path with
  | none => rfl
  | some value =>
      obtain ⟨apart, prints⟩ := converts value found
      simp only [equals_eq_isScalar apart given]
      cases same : isScalar runtime value expected with
      | true => rfl
      | false => simp [pyStr_of_isPrintable (prints same)]

theorem means_keyPrefix (start : String) :
    Means runtime (keyPrefix runtime path start) (.leaf (.keyPrefix path start)) := by
  intro payload
  apply agrees_leaf
  intro reads
  simp only [keyPrefix, resolvePath_of_reads reads, means]
  cases valueAt runtime payload path with
  | none => rfl
  | some value => cases value <;> rfl

/-! ## Compiling -/

variable {spec : String} {value : Yaml} {place : String}
variable {detector : Detector}

theorem of_requirePathString {path : String}
    (accepted : requirePathString value spec place = .ok path) : value = .scalar (.str path) := by
  unfold requirePathString at accepted
  split at accepted
  · split at accepted
    · cases accepted
    · rw [Except.ok.inj accepted]
  · cases accepted

theorem of_compileKeyExists (accepted : compileKeyExists runtime value spec place = .ok detector) :
    ∃ leaf, leafOf (.str "key_exists") value = some leaf ∧
      Means runtime detector (.leaf leaf) := by
  unfold compileKeyExists at accepted
  obtain ⟨path, required, returned⟩ := exists_of_bind_ok accepted
  cases returned
  rw [of_requirePathString required]
  exact ⟨.keyExists path, rfl, means_keyExists path⟩

theorem of_compileKeyEquals (accepted : compileKeyEquals runtime value spec place = .ok detector) :
    ∃ leaf, leafOf (.str "key_equals") value = some leaf ∧
      Means runtime detector (.leaf leaf) := by
  unfold compileKeyEquals at accepted
  split at accepted
  · rename_i entries
    split at accepted
    · rename_i pathNode expectedNode pathGiven expectedGiven
      dsimp only at accepted
      obtain ⟨path, required, rest⟩ := exists_of_bind_ok accepted
      rw [of_requirePathString required] at pathGiven
      split at rest
      · cases rest
      · cases rest
      · cases rest
      · rename_i expected given
        cases rest
        refine ⟨.keyEquals path expected, ?_, means_keyEquals path given⟩
        simp [leafOf, pathGiven, expectedGiven]
    · cases accepted
  · cases accepted

theorem of_compileKeyPrefix (accepted : compileKeyPrefix runtime value spec place = .ok detector) :
    ∃ leaf, leafOf (.str "key_prefix") value = some leaf ∧
      Means runtime detector (.leaf leaf) := by
  unfold compileKeyPrefix at accepted
  split at accepted
  · rename_i entries
    split at accepted
    · rename_i pathNode startNode pathGiven startGiven
      dsimp only at accepted
      obtain ⟨path, required, rest⟩ := exists_of_bind_ok accepted
      rw [of_requirePathString required] at pathGiven
      split at rest
      · rename_i start
        cases rest
        refine ⟨.keyPrefix path start, ?_, means_keyPrefix path start⟩
        simp [leafOf, pathGiven, startGiven]
      · cases rest
    · cases accepted
  · cases accepted

theorem means_combined {kind : String} {subs : List Detector} {trees : List (ConditionTree Leaf)}
    (each : List.Forall₂ (Means runtime) subs trees) :
    Means runtime (combined kind subs) (if kind = "all" then .all trees else .any trees) := by
  intro payload
  have here : List.Forall₂ (Agrees (means runtime payload) (Proper runtime payload))
      (subs.map fun condition => condition payload) trees :=
    List.forall₂_map_left_iff.2 (each.imp fun _ _ agrees => agrees payload)
  unfold combined
  split
  · exact agrees_all here
  · exact agrees_any here

mutual

/-- A node that compiles writes a condition tree, and the detector has its truth value. -/
theorem of_compileCondition (spec : String) : ∀ (node : Yaml) (place : String)
    (detector : Detector), compileCondition runtime spec node place = .ok detector →
      ∃ tree, treeOf node = some tree ∧ Means runtime detector tree
  | .dict [(key, value)], place, detector, accepted => by
      unfold compileCondition at accepted
      unfold treeOf
      split at accepted
      · rename_i all
        obtain ⟨trees, written, agrees⟩ :=
          of_compileCombinator spec "all" value place detector accepted
        exact ⟨.all trees, by rw [if_pos all, written]; rfl, agrees⟩
      · rename_i notAll
        rw [if_neg notAll]
        split at accepted
        · rename_i any
          obtain ⟨trees, written, agrees⟩ :=
            of_compileCombinator spec "any" value place detector accepted
          exact ⟨.any trees, by rw [if_pos any, written]; rfl, agrees⟩
        · rename_i notAny
          rw [if_neg notAny]
          have leafy : ∃ leaf, leafOf key value = some leaf ∧
              Means runtime detector (.leaf leaf) := by
            split at accepted
            · rename_i same
              rw [same]
              exact of_compileKeyExists accepted
            · split at accepted
              · rename_i same
                rw [same]
                exact of_compileKeyEquals accepted
              · split at accepted
                · rename_i same
                  rw [same]
                  exact of_compileKeyPrefix accepted
                · split at accepted <;> cases accepted
          obtain ⟨leaf, written, agrees⟩ := leafy
          exact ⟨.leaf leaf, by rw [written]; rfl, agrees⟩
  | .dict [], place, detector, accepted => by
      unfold compileCondition at accepted
      obtain ⟨keys, _, raised⟩ := exists_of_bind_ok accepted
      cases raised
  | .dict (_ :: _ :: _), place, detector, accepted => by
      unfold compileCondition at accepted
      obtain ⟨keys, _, raised⟩ := exists_of_bind_ok accepted
      cases raised
  | .scalar _, place, detector, accepted => by cases accepted
  | .list _, place, detector, accepted => by cases accepted

theorem of_compileCombinator (spec kind : String) : ∀ (value : Yaml) (place : String)
    (detector : Detector), compileCombinator runtime spec kind value place = .ok detector →
      ∃ trees, subtreesOf value = some trees ∧
        Means runtime detector (if kind = "all" then .all trees else .any trees)
  | .list items, place, detector, accepted => by
      unfold compileCombinator at accepted
      split at accepted
      · cases accepted
      · obtain ⟨subs, compiled, returned⟩ := exists_of_bind_ok accepted
        cases returned
        obtain ⟨trees, written, each⟩ := of_compileSubs spec items _ _ subs compiled
        exact ⟨trees, written, means_combined each⟩
  | .scalar _, place, detector, accepted => by cases accepted
  | .dict _, place, detector, accepted => by cases accepted

theorem of_compileSubs (spec : String) : ∀ (items : List Yaml) (place : String) (index : Nat)
    (subs : List Detector), compileSubs runtime spec place items index = .ok subs →
      ∃ trees, treesOf items = some trees ∧ List.Forall₂ (Means runtime) subs trees
  | [], place, index, subs, accepted => by
      cases accepted
      exact ⟨[], rfl, .nil⟩
  | item :: items, place, index, subs, accepted => by
      unfold compileSubs at accepted
      obtain ⟨first, compiled, later⟩ := exists_of_bind_ok accepted
      obtain ⟨rest, compiledRest, returned⟩ := exists_of_bind_ok later
      cases returned
      obtain ⟨tree, written, agrees⟩ := of_compileCondition spec item _ first compiled
      obtain ⟨trees, writtenRest, each⟩ := of_compileSubs spec items _ _ rest compiledRest
      exact ⟨tree :: trees, by simp only [treesOf, written, writtenRest], .cons agrees each⟩

end

/-! ## The paths of a spec -/

variable {field : String} {raw : Yaml}
variable {paths : List String}

def entriesOf : Yaml → Mapping
  | .dict entries => entries
  | _ => []

def pathText : Yaml → Option String
  | .scalar (.str text) => some text
  | _ => none

def pathList : Yaml → List String
  | .list items => items.filterMap pathText
  | value => [value].filterMap pathText

def pathsOf (raw : Yaml) (part field : String) : Option (List String) :=
  (field? (entriesOf (getField (entriesOf raw) part)) field).map pathList

def pathFields : List (String × String) :=
  [("identity", "name"), ("identity", "resource"), ("identity", "service"),
    ("identity", "fingerprint"), ("identity", "severity"), ("output", "RuleName"),
    ("output", "Level"), ("output", "summary")]

section Found

variable (runtime)

def isMeaningful (value : Json) : Bool :=
  ! isNone value && isNonBlank runtime value

def firstMeaningful (payload : JsonObject) (paths : List String) : Option Json :=
  paths.findSome? fun path => (valueAt runtime payload path).filter (isMeaningful runtime)

/-- The paths up to the first that has a meaningful value are read. -/
def ReadsCandidates (payload : JsonObject) : List String → Prop
  | [] => True
  | path :: paths =>
      Reads runtime payload path ∧
        ((valueAt runtime payload path).filter (isMeaningful runtime) = none →
          ReadsCandidates payload paths)

/-- The paths of all fields are read. -/
def ReadsPaths (raw : Yaml) (payload : JsonObject) : Prop :=
  ∀ field ∈ pathFields, ∀ paths ∈ pathsOf raw field.1 field.2,
    ReadsCandidates runtime payload paths

def valueOf (raw : Yaml) (payload : JsonObject) (part field : String) : Json :=
  ((pathsOf raw part field).bind (firstMeaningful runtime payload)).getD .null

def levelOf (raw : Yaml) (payload : JsonObject) (part field : String) : Json :=
  match pathsOf raw part field with
  | none => .null
  | some paths =>
      .str (normalizeLevel runtime.toAdapterRuntime
        ((firstMeaningful runtime payload paths).getD .null))

/-- The values of all fields.  The rule is the name and the level is the severity, unless the
output has its own. -/
def foundBy (raw : Yaml) (payload : JsonObject) : Found where
  name := valueOf runtime raw payload "identity" "name"
  resource := valueOf runtime raw payload "identity" "resource"
  service := valueOf runtime raw payload "identity" "service"
  fingerprint := valueOf runtime raw payload "identity" "fingerprint"
  severity := levelOf runtime raw payload "identity" "severity"
  rule :=
    if (pathsOf raw "output" "RuleName").isSome then
      valueOf runtime raw payload "output" "RuleName"
    else valueOf runtime raw payload "identity" "name"
  level :=
    if (pathsOf raw "output" "Level").isSome then levelOf runtime raw payload "output" "Level"
    else levelOf runtime raw payload "identity" "severity"
  summary := valueOf runtime raw payload "output" "summary"

end Found

/-- The names that the normalizer writes. -/
def overwritten (found : Found) : List String :=
  ["_alert_identity", "Type", "event"] ++
    (if isNone found.rule then [] else ["RuleName"]) ++
    (if isNone found.level then [] else ["Level"]) ++
    (if isNone found.summary then [] else ["summary"]) ++
    (if isNone found.resource then [] else ["Resources"]) ++
    (if isNone found.service then [] else ["service"])

def broughtFields (runtime : SpecRuntime) (raw : Yaml) (payload : JsonObject) : JsonObject :=
  payload.filter fun entry => ! (overwritten (foundBy runtime raw payload)).contains entry.1

/-- The normalizer is built from what the spec writes. -/
structure Built (raw : Yaml) (parts : NormalizerParts) : Prop where
  name : pathsOf raw "identity" "name" = some parts.identityPaths.name
  resource : pathsOf raw "identity" "resource" = parts.identityPaths.resource
  service : pathsOf raw "identity" "service" = parts.identityPaths.service
  fingerprint : pathsOf raw "identity" "fingerprint" = parts.identityPaths.fingerprint
  severity : pathsOf raw "identity" "severity" = parts.identityPaths.severity
  ruleName : pathsOf raw "output" "RuleName" = parts.outputPaths.ruleName
  level : pathsOf raw "output" "Level" = parts.outputPaths.level
  summary : pathsOf raw "output" "summary" = parts.outputPaths.summary

theorem of_pathTexts {items : List Yaml} (accepted : pathTexts spec field items = .ok paths) :
    paths = items.filterMap pathText := by
  induction items generalizing paths with
  | nil =>
      cases accepted
      rfl
  | cons item items ih =>
      unfold pathTexts at accepted
      split at accepted
      · contradiction
      · rename_i text rest same
        obtain ⟨rfl, rfl⟩ := List.cons.inj same
        split at accepted
        · cases accepted
        · obtain ⟨others, read, returned⟩ := exists_of_bind_ok accepted
          cases returned
          rw [ih read]
          rfl
      · cases accepted

theorem of_normalizePaths (accepted : normalizePaths value spec field = .ok paths) :
    paths = pathList value := by
  unfold normalizePaths at accepted
  split at accepted
  · cases accepted
  · exact of_pathTexts accepted
  · cases value with
    | list items => rename_i other; exact absurd rfl (other items)
    | scalar _ | dict _ => exact of_pathTexts accepted

theorem of_pathsAt {mapping : Mapping} {key : String} {paths : Option (List String)}
    (accepted : pathsAt mapping key spec field = .ok paths) :
    paths = (field? mapping key).map pathList := by
  unfold pathsAt at accepted
  split at accepted
  · rename_i absent
    cases accepted
    rw [absent]
    rfl
  · rename_i value given
    rw [given]
    cases read : normalizePaths value spec field with
    | error raised =>
        rw [read] at accepted
        cases accepted
    | ok listed =>
        rw [read] at accepted
        cases accepted
        rw [of_normalizePaths read]
        rfl

theorem of_compileIdentity {name source : String} {paths : IdentityPaths}
    (accepted : compileIdentity runtime value spec name = .ok (source, paths)) :
    (field? (entriesOf value) "name").map pathList = some paths.name ∧
      (field? (entriesOf value) "resource").map pathList = paths.resource ∧
      (field? (entriesOf value) "service").map pathList = paths.service ∧
      (field? (entriesOf value) "fingerprint").map pathList = paths.fingerprint ∧
      (field? (entriesOf value) "severity").map pathList = paths.severity := by
  unfold compileIdentity at accepted
  split at accepted
  · obtain ⟨_, _, accepted⟩ := exists_of_bind_ok accepted
    obtain ⟨_, _, accepted⟩ := exists_of_bind_ok accepted
    split at accepted
    · cases accepted
    · rename_i given
      obtain ⟨namePaths, readName, accepted⟩ := exists_of_bind_ok accepted
      obtain ⟨resource, readResource, accepted⟩ := exists_of_bind_ok accepted
      obtain ⟨service, readService, accepted⟩ := exists_of_bind_ok accepted
      obtain ⟨fingerprint, readFingerprint, accepted⟩ := exists_of_bind_ok accepted
      obtain ⟨severity, readSeverity, accepted⟩ := exists_of_bind_ok accepted
      cases accepted
      refine ⟨?_, (of_pathsAt readResource).symm, (of_pathsAt readService).symm,
        (of_pathsAt readFingerprint).symm, (of_pathsAt readSeverity).symm⟩
      rw [of_normalizePaths readName, entriesOf, given]
      rfl
  · cases accepted

theorem of_compileOutput {outputType : Option String} {paths : OutputPaths}
    (accepted : compileOutput runtime value spec = .ok (outputType, paths)) :
    (field? (entriesOf value) "RuleName").map pathList = paths.ruleName ∧
      (field? (entriesOf value) "Level").map pathList = paths.level ∧
      (field? (entriesOf value) "summary").map pathList = paths.summary := by
  unfold compileOutput at accepted
  split at accepted
  · cases accepted
    exact ⟨rfl, rfl, rfl⟩
  · obtain ⟨_, _, accepted⟩ := exists_of_bind_ok accepted
    obtain ⟨_, _, accepted⟩ := exists_of_bind_ok accepted
    obtain ⟨ruleName, readRuleName, accepted⟩ := exists_of_bind_ok accepted
    obtain ⟨level, readLevel, accepted⟩ := exists_of_bind_ok accepted
    obtain ⟨summary, readSummary, accepted⟩ := exists_of_bind_ok accepted
    cases accepted
    exact ⟨(of_pathsAt readRuleName).symm, (of_pathsAt readLevel).symm,
      (of_pathsAt readSummary).symm⟩
  · cases accepted

theorem of_compileSpec {compiled : CompiledSpec}
    (accepted : compileSpec runtime raw spec = .ok compiled) :
    (∃ tree, treeOf (getField (entriesOf raw) "detect") = some tree ∧
        Means runtime compiled.detector tree) ∧
      ∃ parts, Built raw parts ∧ compiled.normalizer = buildNormalizer runtime parts := by
  unfold compileSpec at accepted
  split at accepted
  · rename_i mapping
    obtain ⟨_, _, accepted⟩ := exists_of_bind_ok accepted
    obtain ⟨name, _, accepted⟩ := exists_of_bind_ok accepted
    obtain ⟨_, _, accepted⟩ := exists_of_bind_ok accepted
    obtain ⟨_, _, accepted⟩ := exists_of_bind_ok accepted
    split at accepted
    · cases accepted
    · rename_i node given
      obtain ⟨detector, detects, accepted⟩ := exists_of_bind_ok accepted
      obtain ⟨⟨source, identityPaths⟩, identifies, accepted⟩ := exists_of_bind_ok accepted
      obtain ⟨⟨outputType, outputPaths⟩, outputs, accepted⟩ := exists_of_bind_ok accepted
      cases accepted
      obtain ⟨tree, written, agrees⟩ := of_compileCondition spec node _ detector detects
      obtain ⟨readName, readResource, readService, readFingerprint, readSeverity⟩ :=
        of_compileIdentity identifies
      obtain ⟨readRuleName, readLevel, readSummary⟩ := of_compileOutput outputs
      refine ⟨⟨tree, ?_, agrees⟩, ⟨name, source, identityPaths, outputType, outputPaths⟩,
        ⟨readName, readResource, readService, readFingerprint, readSeverity, readRuleName,
          readLevel, readSummary⟩, rfl⟩
      simp only [entriesOf, getField, given, Option.getD_some]
      exact written
  · cases accepted

/-! ## The normalizer -/

variable {part : String}

theorem firstNonEmpty_of_reads (reads : ReadsCandidates runtime payload paths) :
    firstNonEmpty runtime payload paths =
      .ok ((firstMeaningful runtime payload paths).getD .null) := by
  induction paths with
  | nil => rfl
  | cons path paths ih =>
      obtain ⟨here, later⟩ := reads
      simp only [firstNonEmpty, resolvePath_of_reads here, firstMeaningful, List.findSome?_cons]
      cases found : valueAt runtime payload path with
      | none => exact ih (later (by rw [found]; rfl))
      | some value =>
          rw [found] at later
          cases value with
          | null => exact ih (later rfl)
          | bool _ | int _ | float _ | str _ | list _ | dict _ =>
              simp only [Option.filter, isMeaningful, isNone, Bool.not_false,
                Bool.true_and] at later ⊢
              split
              · simp [*]
              · rename_i blank
                rw [if_neg blank] at later
                exact ih (later rfl)

theorem firstIfGiven_of_reads
    (reads : ∀ paths ∈ pathsOf raw part field, ReadsCandidates runtime payload paths) :
    firstIfGiven runtime payload (pathsOf raw part field) =
      .ok (valueOf runtime raw payload part field) := by
  unfold valueOf
  cases given : pathsOf raw part field with
  | none => rfl
  | some paths => exact firstNonEmpty_of_reads (reads paths given)

theorem levelIfGiven_of_reads
    (reads : ∀ paths ∈ pathsOf raw part field, ReadsCandidates runtime payload paths) :
    levelIfGiven runtime payload (pathsOf raw part field) =
      .ok (levelOf runtime raw payload part field) := by
  unfold levelOf
  cases given : pathsOf raw part field with
  | none => rfl
  | some paths =>
      simp only [levelIfGiven, firstNonEmpty_of_reads (reads paths given)]
      rfl

theorem lookUp_of_reads {parts : NormalizerParts} (built : Built raw parts)
    (reads : ReadsPaths runtime raw payload) :
    lookUp runtime parts payload = .ok (foundBy runtime raw payload) := by
  have name : firstNonEmpty runtime payload parts.identityPaths.name =
      .ok (valueOf runtime raw payload "identity" "name") := by
    have read := firstIfGiven_of_reads (reads ("identity", "name") (by simp [pathFields]))
    simp only [built.name] at read
    exact read
  have resource := firstIfGiven_of_reads (reads ("identity", "resource") (by simp [pathFields]))
  have service := firstIfGiven_of_reads (reads ("identity", "service") (by simp [pathFields]))
  have fingerprint :=
    firstIfGiven_of_reads (reads ("identity", "fingerprint") (by simp [pathFields]))
  have severity := levelIfGiven_of_reads (reads ("identity", "severity") (by simp [pathFields]))
  have rule := firstIfGiven_of_reads (reads ("output", "RuleName") (by simp [pathFields]))
  have level := levelIfGiven_of_reads (reads ("output", "Level") (by simp [pathFields]))
  have summary := firstIfGiven_of_reads (reads ("output", "summary") (by simp [pathFields]))
  simp only at resource service fingerprint severity rule level summary
  simp only [lookUp, name, ← built.resource, ← built.service, ← built.fingerprint,
    ← built.severity, ← built.ruleName, ← built.level, ← built.summary, resource, service,
    fingerprint, severity, rule, level, summary, bind, Except.bind, pure, Except.pure, foundBy]
  cases (pathsOf raw "output" "RuleName").isSome <;>
    cases (pathsOf raw "output" "Level").isSome <;> rfl

theorem overwritten_eq (found : Found) (parts : NormalizerParts) :
    "_alert_identity" :: (found.normalization runtime parts).written.map Prod.fst =
      overwritten found := by
  simp only [Found.normalization, overwritten, List.map_append, List.map_cons, List.map_nil,
    apply_ite (List.map Prod.fst), List.cons_append]

theorem level_typed (given : ¬ isNone (levelOf runtime raw payload part field) = true) :
    HasDeclaredType "Level" (levelOf runtime raw payload part field) := by
  unfold levelOf at given ⊢
  split
  · rename_i absent
    rw [absent] at given
    exact absurd rfl given
  · exact hasDeclaredType_text (by decide) _

variable (runtime) in
theorem written_typed (raw : Yaml) (parts : NormalizerParts) (payload : JsonObject) :
    ∀ field ∈ ((foundBy runtime raw payload).normalization runtime parts).written,
      HasDeclaredType field.1 field.2 := by
  simp only [Found.normalization, List.forall_mem_append, List.forall_mem_cons,
    forall_mem_unless]
  refine ⟨⟨⟨⟨⟨⟨?_, ?_, by simp⟩, ?_⟩, ?_⟩, ?_⟩, ?_⟩, ?_⟩
  · exact hasDeclaredType_text (by decide) _
  · exact hasDeclaredType_event _
  · exact hasDeclaredType_textUnlessNone (by decide)
  · intro given
    unfold foundBy at given ⊢
    simp only at given ⊢
    split at given
    · rename_i own
      rw [if_pos own]
      exact level_typed given
    · rename_i inherited
      rw [if_neg inherited]
      exact level_typed given
  · exact hasDeclaredType_textUnlessNone (by decide)
  · exact fun _ => hasDeclaredType_resources _
  · exact hasDeclaredType_textUnlessNone (by decide)

theorem buildNormalizer_cases {parts : NormalizerParts} (built : Built raw parts)
    (distinct : PyDict.Distinct payload) (reads : ReadsPaths runtime raw payload) :
    ((∃ data, buildNormalizer runtime parts payload = .ok data) ∧
        ∀ entry ∈ broughtFields runtime raw payload, HasDeclaredType entry.1 entry.2) ∨
      ∃ entry ∈ broughtFields runtime raw payload, ¬ HasDeclaredType entry.1 entry.2 ∧
        buildNormalizer runtime parts payload =
          .error (.boundary (mistyped entry.1 entry.2)) := by
  have document := written_document distinct
    (written_typed runtime raw parts payload) (((foundBy runtime raw payload).normalization
      runtime parts).identity.toPayload runtime.toAdapterRuntime)
  simp only [overwritten_eq] at document
  have normalized := lookUp_of_reads built reads
  unfold broughtFields
  rcases @boundary_decides runtime.toAdapterRuntime _ _ document.1 document.2
    with ⟨⟨data, passed⟩, typed⟩ | ⟨entry, member, untyped, raised⟩
  · refine Or.inl ⟨⟨data, ?_⟩, typed⟩
    simp only [buildNormalizer, normalized, bind, Except.bind, withAlertIdentity, passed]
    rfl
  · refine Or.inr ⟨entry, member, untyped, ?_⟩
    simp only [buildNormalizer, normalized, bind, Except.bind, withAlertIdentity, raised]
    rfl

/-! ## The adapter -/

def plainSpecs : SpecRuntime where
  toAdapterRuntime := plainAdapters
  digits := .latin
  floatValue _ := .nan
  sortedOthers _ := .error .typeError

/-- A spec that detects `kind: 200` or a first alert. -/
def acmeSpec : Yaml :=
  .dict
    [(.str "name", .scalar (.str "acme")),
      (.str "detect", .dict [(.str "any", .list
        [.dict [(.str "key_equals", .dict
            [(.str "path", .scalar (.str "kind")), (.str "value", .scalar (.int 200))])],
          .dict [(.str "key_exists", .scalar (.str "alerts.0"))]])]),
      (.str "identity", .dict [(.str "name", .scalar (.str "title"))])]

/-- A payload with the text `200`, which is not the number but prints like it. -/
def acmePayload : JsonObject :=
  [("kind", .str "200"), ("title", .str "disk")]

/-- Compiling `acmeSpec` and normalizing a payload, without the document. -/
def acmeNormalizes (payload : JsonObject) : Except SpecRaised Bool :=
  (compileSpec plainSpecs acmeSpec "acme.yaml").map fun compiled =>
    (compiled.normalizer payload).toBool

theorem acmeSpec_accepted :
    ∃ compiled, compileSpec plainSpecs acmeSpec "acme.yaml" = .ok compiled := by
  have accepted : (compileSpec plainSpecs acmeSpec "acme.yaml").toBool = true := by
    decide +kernel
  cases compiles : compileSpec plainSpecs acmeSpec "acme.yaml" with
  | error raised =>
      rw [compiles] at accepted
      cases accepted
  | ok compiled => exact ⟨compiled, rfl⟩

end DeclarativeAdapters

end WebhookWise
