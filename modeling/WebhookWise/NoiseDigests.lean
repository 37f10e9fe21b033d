import WebhookWise.EventKeys
import WebhookWise.NoiseActions

/-!
# The digests of the noise centre

Applying a digest suggestion writes the name of an alert rule into the criterion of an inbound rule,
which the matcher reads as a list: it is cut at its commas, and an item with an exclamation mark
forbids a name.  The rule's own name has to fit into its column.
-/

namespace WebhookWise

namespace NoiseDigests

open RuleMatching SqlTable RuleMarks ImportanceCeilings InboundRules NoiseCenter NoiseActions

/-- The runtime of the noise centre, where lower case neither adds nor removes a comma. -/
structure DigestRuntime extends NoiseRuntime where
  comma_mem_lower : ∀ text, ',' ∈ (lower text).toList ↔ ',' ∈ text.toList

section Delivery

variable (runtime : JudgeRuntime)

def digestsAlert (rule : InboundRule) (alert : RuledAlert) (importance : String) : Bool :=
  rule.enabled &&
    (matchingInboundDigestWindow runtime [rule.toCapRule] (alert.facts importance)
      (alertRuleName runtime.toMatchRuntime alert.parsedData)).1 ≠ 0

/-- The names are equal up to letter case and outer whitespace. -/
def SameName (first second : String) : Prop :=
  runtime.lower (strip first) = runtime.lower (strip second)

/-- The rule gives a digest window to the alerts of the name, and to no others. -/
def HitsExactly (rule : InboundRule) (name : String) : Prop :=
  ∀ (alert : RuledAlert) (importance : String),
    digestsAlert runtime rule alert importance = true ↔
      SameName runtime (alertRuleName runtime.toMatchRuntime alert.parsedData) name

/-- The page reports a digest of the name, and its rule is in force and hits just the name. -/
def AppliesExactly (result : NoiseState × Reply) (name : String) : Prop :=
  ∃ (action : NoiseAction) (rule : InboundRule) (windowMinutes : Nat),
    result.2 = .changed action ∧ action.change = .digest rule.id name windowMinutes ∧
      result.1.inboundRules.lookup rule.id = some rule ∧ HitsExactly runtime rule name

/-- The matcher reads the text as one name. -/
structure ReadsAsName (text : String) : Prop where
  present : strip text ≠ ""
  noComma : ',' ∉ text.toList
  notNegated : negated? (runtime.lower (strip text)) = none

/-- The row has the criteria of a digest that an application has written. -/
structure IsUnedited (rule : InboundRule) : Prop where
  criteria : rule.toRuleCriteria = {}
  named : rule.name ≠ ""

end Delivery

/-! ## Commas -/

theorem comma_not_mem_of_mem_splitOnCommas {text part : String}
    (member : part ∈ splitOnCommas text) : ',' ∉ part.toList := by
  unfold splitOnCommas at member
  generalize text.toList = characters at member
  induction characters generalizing part with
  | nil => simp [List.mem_singleton.1 member]
  | cons character characters ih =>
      rw [List.foldr_cons] at member
      split at member
      · cases member
      · rename_i first parts cut
        rw [cut] at ih
        split at member
        · rcases List.mem_cons.1 member with rfl | later
          · simp
          · exact ih later
        · rename_i other
          rcases List.mem_cons.1 member with rfl | later
          · simpa [Ne.symm other] using ih List.mem_cons_self
          · exact ih (List.mem_cons_of_mem _ later)

/-! ## A criterion with one name -/

section Criterion

variable {runtime : DigestRuntime} {text : String}

variable (runtime) in
theorem exists_fresh_name (names : List String) : ∃ name,
    strip name = name ∧ name ≠ "" ∧ runtime.lower name = name ∧ name ∉ names := by
  have bounded : ∃ limit, ∀ name ∈ names, name.length ≤ limit := by
    induction names with
    | nil => exact ⟨0, by simp⟩
    | cons name names ih =>
        obtain ⟨limit, below⟩ := ih
        refine ⟨name.length + limit, fun other member => ?_⟩
        rcases List.mem_cons.1 member with rfl | later
        · omega
        · have := below other later
          omega
  obtain ⟨limit, below⟩ := bounded
  refine ⟨String.ofList (List.replicate (limit + 1) 'a'), ?_, ?_, ?_, ?_⟩
  · simp [strip, List.replicate_succ, isPythonSpace, ← List.replicate_succ']
  · simp [List.replicate_succ]
  · rw [runtime.lower_ascii]
    · simp
    · simp [EcosystemAdapters.isAscii]
  · intro member
    have short := below _ member
    rw [String.length_ofList, List.length_replicate] at short
    omega

theorem splitCsvLower_of_readsAsName (reads : ReadsAsName runtime.toJudgeRuntime text) :
    splitCsvLower runtime.toPythonRuntime text = [runtime.lower (strip text)] := by
  rw [splitCsvLower, splitOnCommas_of_notMem reads.noComma]
  simp [reads.present]

theorem comma_not_mem_of_mem_splitCsvLower {item : String}
    (member : item ∈ splitCsvLower runtime.toPythonRuntime text) : ',' ∉ item.toList := by
  obtain ⟨part, kept, rfl⟩ := List.mem_map.1 member
  rw [runtime.comma_mem_lower, mem_strip_iff (by decide)]
  exact comma_not_mem_of_mem_splitOnCommas (List.mem_filter.1 kept).1

theorem csvCovers_id_iff (name : String) :
    csvCovers runtime.toMatchRuntime id text name = true ↔
      name ∉ (splitCsvLower runtime.toPythonRuntime text).filterMap negated? ∧
        (((splitCsvLower runtime.toPythonRuntime text).filter fun item =>
            (negated? item).isNone) = [] ∨
          name ∈ splitCsvLower runtime.toPythonRuntime text ∧ negated? name = none) := by
  simp only [csvCovers, List.map_id, Bool.and_eq_true, Bool.not_eq_true', Bool.or_eq_true,
    List.isEmpty_iff, List.contains_iff_mem, List.mem_filter, Option.isNone_iff_eq_none,
    ← Bool.not_eq_true]

theorem csvValueMatches_exactly_iff (present : strip text ≠ "") :
    (∀ name, strip name = name → (csvValueMatches runtime.toMatchRuntime text name = true ↔
        runtime.lower name = runtime.lower (strip text))) ↔
      ReadsAsName runtime.toJudgeRuntime text := by
  have written : text ≠ "" := by
    rintro rfl
    exact present (by decide)
  have covers : ∀ name, csvValueMatches runtime.toMatchRuntime text name = true ↔
      csvCovers runtime.toMatchRuntime id text (runtime.lower name) = true := by
    intro name
    simp [csvValueMatches, written]
  simp only [covers, csvCovers_id_iff]
  constructor
  · intro exactly
    -- Some name is neither forbidden nor the text itself, so some item must name a name.
    have someNamed : ((splitCsvLower runtime.toPythonRuntime text).filter fun item =>
        (negated? item).isNone) ≠ [] := by
      intro noneNamed
      obtain ⟨name, stripped, -, lowered, fresh⟩ := exists_fresh_name runtime
        (runtime.lower (strip text) ::
          (splitCsvLower runtime.toPythonRuntime text).filterMap negated?)
      rw [List.mem_cons, not_or] at fresh
      have same := (exactly name stripped).1 ⟨lowered.symm ▸ fresh.2, Or.inl noneNamed⟩
      exact fresh.1 (lowered.symm.trans same)
    obtain ⟨-, empty | ⟨isItem, notNegated⟩⟩ :=
      (exactly (strip text) (strip_strip text)).2 rfl
    · exact absurd empty someNamed
    · refine ⟨present, fun comma => ?_, notNegated⟩
      apply comma_not_mem_of_mem_splitCsvLower isItem
      rwa [runtime.comma_mem_lower, mem_strip_iff (by decide)]
  · intro reads name _
    rw [splitCsvLower_of_readsAsName reads]
    simp only [List.filterMap_cons, reads.notNegated, List.filterMap_nil, List.not_mem_nil,
      not_false_eq_true, List.filter_cons, Option.isNone_none, if_true, List.cons_ne_nil, false_or,
      List.mem_singleton, true_and]
    refine ⟨And.left, fun same => ⟨same, ?_⟩⟩
    rw [same]
    exact reads.notNegated

end Criterion

/-! ## A digest rule at delivery -/

section Rules

variable {runtime : DigestRuntime} {rule : InboundRule} {name : String}

theorem parseDigestWindowMinutes_sixty (runtime : NoiseRuntime) :
    parseDigestWindowMinutes runtime.toJudgeRuntime (runtime.lower (strip "60")) = some 60 := by
  have lowered : runtime.lower (strip "60") = "60" := by
    rw [runtime.lower_ascii _ (by decide)]
    decide
  have six : runtime.digitValue '6' = some 6 := runtime.digitValue_digitChar 6 (by decide)
  have zero : runtime.digitValue '0' = some 0 := runtime.digitValue_digitChar 0 (by decide)
  have stripped : strip "60" = "60" := by decide
  rw [lowered, parseDigestWindowMinutes, stripped]
  simp [six, zero]

theorem ruleMatches_of_isUnedited (unedited : IsUnedited rule) (facts : AlertFacts) :
    ruleMatches runtime.toMatchRuntime (probe rule.toInboundRuleSnapshot) facts = true := by
  simp [probe, unedited.criteria, ruleMatches, listCovers, csvValueMatches, csvEnvironmentMatches,
    duplicateCovers, payloadMatches]

theorem digestsAlert_iff (unedited : IsUnedited rule) (enabled : rule.enabled = true)
    (isDigest : rule.action = "digest") (hourly : rule.actionValue = "60") (alert : RuledAlert)
    (importance : String) :
    digestsAlert runtime.toJudgeRuntime rule alert importance = true ↔
      csvValueMatches runtime.toMatchRuntime rule.matchRuleName
        (alertRuleName runtime.toMatchRuntime alert.parsedData) = true := by
  have named : (rule.matchRuleName = "" || csvValueMatches runtime.toMatchRuntime
      rule.matchRuleName (alertRuleName runtime.toMatchRuntime alert.parsedData)) =
        csvValueMatches runtime.toMatchRuntime rule.matchRuleName
          (alertRuleName runtime.toMatchRuntime alert.parsedData) := by
    by_cases blank : rule.matchRuleName = "" <;> simp [blank, csvValueMatches]
  simp only [digestsAlert, matchingInboundDigestWindow, List.find?_cons, List.find?_nil, enabled,
    isDigest, decide_true, Bool.true_and, inboundRuleMatches, named,
    ruleMatches_of_isUnedited unedited, Bool.and_true]
  cases csvValueMatches runtime.toMatchRuntime rule.matchRuleName
      (alertRuleName runtime.toMatchRuntime alert.parsedData) with
  | false => simp
  | true => simp [unedited.named, hourly, parseDigestWindowMinutes_sixty]

variable (runtime) in
theorem exists_alertRuleName {text : String} (stripped : strip text = text) :
    ∃ alert : RuledAlert, alertRuleName runtime.toMatchRuntime alert.parsedData = text := by
  have blank : strip "" = "" := by decide
  refine ⟨⟨"", [("RuleName", .str text)], []⟩, ?_⟩
  by_cases empty : text = ""
  · simp [alertRuleName, JsonObject.strOr, PyDict.get?, Json.truthy, empty, blank]
  · simp [alertRuleName, JsonObject.strOr, PyDict.get?, Json.truthy, Json.pyStr, empty, blank,
      stripped]

variable (runtime) in
theorem strip_alertRuleName (parsed : JsonObject) :
    strip (alertRuleName runtime.toMatchRuntime parsed) =
      alertRuleName runtime.toMatchRuntime parsed := by
  have isStripped : ∃ text, alertRuleName runtime.toMatchRuntime parsed = strip text := by
    unfold alertRuleName
    dsimp only
    split
    · rename_i value values found
      have member : value ∈ value :: values := List.mem_cons_self
      rw [← found] at member
      obtain ⟨key, -, named⟩ := List.mem_map.1 (List.mem_filter.1 member).1
      exact ⟨_, named.symm⟩
    · exact ⟨_, rfl⟩
    · exact ⟨"", by decide⟩
  obtain ⟨text, same⟩ := isStripped
  rw [same, strip_strip]

theorem hitsExactly_iff (unedited : IsUnedited rule) (enabled : rule.enabled = true)
    (isDigest : rule.action = "digest") (hourly : rule.actionValue = "60")
    (present : strip rule.matchRuleName ≠ "") :
    HitsExactly runtime.toJudgeRuntime rule rule.matchRuleName ↔
      ReadsAsName runtime.toJudgeRuntime rule.matchRuleName := by
  rw [← csvValueMatches_exactly_iff present]
  constructor
  · intro exactly text stripped
    obtain ⟨alert, rfl⟩ := exists_alertRuleName runtime stripped
    rw [← digestsAlert_iff unedited enabled isDigest hourly alert "", exactly alert "", SameName,
      stripped]
  · intro covers alert importance
    have stripped := strip_alertRuleName runtime alert.parsedData
    rw [digestsAlert_iff unedited enabled isDigest hourly, covers _ stripped, SameName, stripped]

end Rules

/-! ## Applying a digest -/

section Applying

variable {runtime : DigestRuntime} {observed : Observed} {actor name : String} {state : NoiseState}
  {suggestion : Suggestion} {windowMinutes : Nat}

/-- The name of the rule fits into its column. -/
def NameFits (name : String) : Prop :=
  (strip (digestPayload name 60).name).length ≤ 100

instance (name : String) : Decidable (NameFits name) :=
  inferInstanceAs (Decidable (_ ≤ _))

theorem windowMinutes_of_mem_buildSuggestions
    (listed : suggestion ∈ state.buildSuggestions runtime.toNoiseRuntime observed)
    (isDigest : suggestion.remedy = .digest name windowMinutes) : windowMinutes = 60 := by
  have member := List.mem_of_mem_take listed
  simp only [List.mem_insertionSort, List.mem_append] at member
  rcases member with (ofRule | ofAudit) | ofDigest
  · obtain ⟨rule, -, made⟩ := List.mem_filterMap.1 ofRule
    unfold duplicateSuggestion at made
    dsimp only at made
    split at made
    · cases made
    · cases made
      cases isDigest
  · obtain ⟨row, -, ofRow⟩ := List.mem_flatMap.1 ofAudit
    rcases List.mem_append.1 ofRow with silence | tune
    · have made := Option.mem_toList.1 silence
      unfold silenceSuggestion at made
      dsimp only at made
      split at made
      · cases made
        cases isDigest
      · cases made
    · have made := Option.mem_toList.1 tune
      unfold tuneSuggestion at made
      split at made
      · cases made
        cases isDigest
      · cases made
  · obtain ⟨row, -, made⟩ := List.mem_filterMap.1 ofDigest
    unfold digestSuggestion at made
    dsimp only at made
    split at made
    · cases made
    · cases made
      cases isDigest
      rfl

theorem digestPayload_name (name : String) :
    (digestPayload name 60).name = "digest 60m: " ++ name := by
  have beginning : "digest " ++ toString 60 ++ "m: " = "digest 60m: " := by decide
  rw [digestPayload, beginning]

theorem strip_name_ne_empty (name : String) : strip (digestPayload name 60).name ≠ "" := by
  intro blank
  have visible : 'd' ∈ (strip (digestPayload name 60).name).toList := by
    rw [mem_strip_iff (by decide)]
    simp [digestPayload]
  simp [blank] at visible

theorem isSome_validate_digestPayload (runtime : NoiseRuntime) (name : String) :
    (validate runtime (digestPayload name 60)).isSome = decide (strip name = "") := by
  have action : strip "digest" = "digest" := by decide
  have blank : strip "" = "" := by decide
  have window := parseDigestWindowMinutes_sixty runtime
  have named := strip_name_ne_empty name
  rw [digestPayload_name] at named
  have sixty : (toString 60 : String) = "60" := by decide
  by_cases nameless : strip name = ""
  · simp [validate, digestPayload, action, blank, sixty, window, named, nameless]
  · simp [validate, digestPayload, action, blank, sixty, window, named, nameless]

theorem applyNoiseSuggestion_of_find?
    (fresh : isRecorded state suggestion.id = false)
    (found : ((state.buildSuggestions runtime.toNoiseRuntime observed).find? fun listed =>
      listed.id = suggestion.id) = some suggestion)
    (isDigest : suggestion.remedy = .digest name 60) :
    applyNoiseSuggestion runtime.toNoiseRuntime observed actor state suggestion.id =
      concluded suggestion actor state (applyDigest runtime.toNoiseRuntime state name 60) := by
  have available : suggestion.actionAvailable = true := by
    simp [Suggestion.actionAvailable, isDigest, Remedy.isAvailable]
  simp only [applyNoiseSuggestion, fresh, Bool.false_eq_true, if_false, found, available,
    Bool.not_true, applyRemedy, isDigest]

theorem appliesExactly_concluded {next : NoiseState} {id resourceId : Nat} (rule : InboundRule)
    (isId : rule.id = id) (stored : next.inboundRules.lookup id = some rule) :
    AppliesExactly runtime.toJudgeRuntime
        (concluded suggestion actor state
          (.changed next (.digest id name windowMinutes) resourceId)) name ↔
      HitsExactly runtime.toJudgeRuntime rule name := by
  subst isId
  constructor
  · rintro ⟨action, other, minutes, reported, isChange, otherStored, hits⟩
    cases reported
    have sameId : rule.id = other.id := by
      simp only [recorded, Change.digest.injEq] at isChange
      exact isChange.1
    rw [← sameId] at otherStored
    exact (Option.some.inj (stored.symm.trans otherStored)) ▸ hits
  · intro hits
    exact ⟨_, rule, windowMinutes, rfl, rfl, stored, hits⟩

theorem normalizeActionValue_sixty (runtime : NoiseRuntime) :
    normalizeActionValue runtime "digest" (toString 60) = "60" := by
  have sixty : (toString 60 : String) = "60" := by decide
  simp [normalizeActionValue, sixty, parseDigestWindowMinutes_sixty]

theorem hitsExactly_inboundRuleOf_iff (present : strip name ≠ "") (id : Nat) :
    HitsExactly runtime.toJudgeRuntime
        (inboundRuleOf runtime.toNoiseRuntime (digestPayload name 60) id) name ↔
      ReadsAsName runtime.toJudgeRuntime name := by
  have action : strip "digest" = "digest" := by decide
  have hourly : (inboundRuleOf runtime.toNoiseRuntime (digestPayload name 60) id).actionValue =
      "60" := by
    rw [inboundRuleOf_actionValue, digestPayload_action, digestPayload_actionValue, action,
      normalizeActionValue_sixty]
  exact hitsExactly_iff
    { criteria := by simp [inboundRuleOf, digestPayload], named := strip_name_ne_empty name }
    rfl action hourly present

theorem hitsExactly_enabledAgain_iff {row : InboundRule} (present : strip name ≠ "")
    (existing : existingDigest state name = some row) (unedited : IsUnedited row) :
    HitsExactly runtime.toJudgeRuntime (enabledAgain runtime.toNoiseRuntime 60 row) name ↔
      ReadsAsName runtime.toJudgeRuntime name := by
  obtain ⟨-, selected⟩ := Table.selectFirst_spec existing
  simp only [Bool.and_eq_true, decide_eq_true_eq] at selected
  obtain ⟨isDigest, rfl⟩ := selected
  have hourly : (enabledAgain runtime.toNoiseRuntime 60 row).actionValue = "60" := by
    rw [enabledAgain, isDigest, normalizeActionValue_sixty]
  exact hitsExactly_iff
    { criteria := unedited.criteria, named := unedited.named } rfl isDigest hourly present

theorem not_appliesExactly_refused (reason : String) :
    ¬ AppliesExactly runtime.toJudgeRuntime
      (concluded suggestion actor state (.refused reason)) name := by
  rintro ⟨action, -, -, reported, -⟩
  cases reported

theorem appliesExactly_of_none (existing : existingDigest state name = none) :
    AppliesExactly runtime.toJudgeRuntime
        (concluded suggestion actor state (applyDigest runtime.toNoiseRuntime state name 60)) name ↔
      ReadsAsName runtime.toJudgeRuntime name ∧ NameFits name := by
  rw [applyDigest, existing]
  simp only [isSome_validate_digestPayload, decide_eq_true_eq]
  by_cases present : strip name = ""
  · rw [if_pos present]
    exact iff_of_false (not_appliesExactly_refused _) fun both => absurd present both.1.present
  · rw [if_neg present]
    by_cases fits : NameFits name
    · rw [if_neg (Nat.not_lt.2 fits)]
      have stored : (state.inboundRules.insert
          (inboundRuleOf runtime.toNoiseRuntime (digestPayload name 60))
          (inboundRuleOf_id _ _)).lookup state.inboundRules.nextKey = _ :=
        Table.lookup_insert_self
      refine (appliesExactly_concluded (inboundRuleOf runtime.toNoiseRuntime
        (digestPayload name 60) state.inboundRules.nextKey) rfl stored).trans ?_
      rw [hitsExactly_inboundRuleOf_iff present]
      exact ⟨fun reads => ⟨reads, fits⟩, And.left⟩
    · rw [if_pos (Nat.lt_of_not_le fits)]
      refine iff_of_false ?_ fun both => absurd both.2 fits
      rintro ⟨action, -, -, reported, -⟩
      cases reported

theorem appliesExactly_of_some {row : InboundRule} (existing : existingDigest state name = some row)
    (unedited : IsUnedited row) :
    AppliesExactly runtime.toJudgeRuntime
        (concluded suggestion actor state (applyDigest runtime.toNoiseRuntime state name 60)) name ↔
      ReadsAsName runtime.toJudgeRuntime name := by
  rw [applyDigest, existing]
  simp only [isSome_validate_digestPayload, decide_eq_true_eq]
  by_cases present : strip name = ""
  · rw [if_pos present]
    exact iff_of_false (not_appliesExactly_refused _) fun reads => absurd present reads.present
  · rw [if_neg present]
    have isStored := Table.lookup_eq_some_iff.2 ⟨(Table.selectFirst_spec existing).1, rfl⟩
    have stored : (state.inboundRules.update (fun rule => rule.id = row.id)
        (enabledAgain runtime.toNoiseRuntime 60)
        (enabledAgain_id runtime.toNoiseRuntime 60)).lookup row.id =
          some (enabledAgain runtime.toNoiseRuntime 60 row) := by
      rw [Table.lookup_update, isStored]
      simp
    refine (appliesExactly_concluded (enabledAgain runtime.toNoiseRuntime 60 row) rfl
      stored).trans ?_
    exact hitsExactly_enabledAgain_iff present existing unedited

/-- A digest suggestion that is applied leaves a rule which hits just its name, exactly when the
matcher reads the name as one name, and the name of a rule that is written fits into its column. -/
theorem appliesExactly_iff (fresh : isRecorded state suggestion.id = false)
    (found : ((state.buildSuggestions runtime.toNoiseRuntime observed).find? fun listed =>
      listed.id = suggestion.id) = some suggestion)
    (isDigest : suggestion.remedy = .digest name windowMinutes)
    (unedited : ∀ row, existingDigest state name = some row → IsUnedited row) :
    AppliesExactly runtime.toJudgeRuntime
        (applyNoiseSuggestion runtime.toNoiseRuntime observed actor state suggestion.id) name ↔
      ReadsAsName runtime.toJudgeRuntime name ∧
        (existingDigest state name = none → NameFits name) := by
  obtain rfl := windowMinutes_of_mem_buildSuggestions (List.mem_of_find?_eq_some found) isDigest
  rw [applyNoiseSuggestion_of_find? fresh found isDigest]
  cases existing : existingDigest state name with
  | none =>
      rw [appliesExactly_of_none existing]
      simp
  | some row =>
      rw [appliesExactly_of_some existing (unedited row existing)]
      simp

end Applying

/-! ### A name with a comma -/

private theorem comma_mem_toLower (characters : List Char) :
    ',' ∈ characters.map Char.toLower ↔ ',' ∈ characters := by
  rw [List.mem_map]
  constructor
  · rintro ⟨character, member, lowered⟩
    rcases EventKeys.toLower_cases character with same | ⟨range, raised⟩
    · rwa [← lowered, same]
    · have comma : ','.toNat = 44 := rfl
      rw [lowered, comma] at raised
      omega
  · intro member
    exact ⟨',', member, by decide⟩

def DigestRuntime.ascii : DigestRuntime where
  toJudgeRuntime := .ascii
  digitValue_digitChar := by decide
  comma_mem_lower text := by
    simpa [JudgeRuntime.ascii, MatchRuntime.ascii, PythonRuntime.ascii] using
      comma_mem_toLower text.toList

def repeating (name : String) : Observed where
  summary := ⟨10, 8, 800⟩
  sources := []
  noisyRules := [⟨⟨10, 8, 800⟩, name, 2⟩]
  ruleKeys _ _ := none
  alertRuleNames := [name]
  auditRows := []
  syntheticSources := []
  digestMinAlerts := 5

/-- No rule, no silence and no action is there yet. -/
def firstSight : NoiseState where
  now := 0
  forwardRules := Table.empty
  inboundRules := Table.empty
  silences := Table.empty
  actions := Table.empty

theorem existingDigest_firstSight (name : String) : existingDigest firstSight name = none :=
  rfl

def hourlyDigest (name : String) : Suggestion :=
  suggest DigestRuntime.ascii.toNoiseRuntime (.digest name 60) true 8

/-- A plain name is hit exactly. -/
theorem appliesExactly_plainName :
    AppliesExactly DigestRuntime.ascii.toJudgeRuntime
      (applyNoiseSuggestion DigestRuntime.ascii.toNoiseRuntime (repeating "Disk full") "ops"
        firstSight (hourlyDigest "Disk full").id) "Disk full" :=
  (appliesExactly_iff (by decide +kernel) (by decide +kernel) rfl
    (by simp [existingDigest_firstSight])).2
    ⟨⟨by decide +kernel, by decide +kernel, by decide +kernel⟩, fun _ => by decide +kernel⟩

/-- The digest of a name with a comma hits the alerts of its parts instead. -/
theorem not_appliesExactly_commaName :
    ¬ AppliesExactly DigestRuntime.ascii.toJudgeRuntime
      (applyNoiseSuggestion DigestRuntime.ascii.toNoiseRuntime (repeating "CPU, disk") "ops"
        firstSight (hourlyDigest "CPU, disk").id) "CPU, disk" := by
  intro exactly
  rw [applyNoiseSuggestion_of_find? (by decide +kernel) (by decide +kernel) rfl,
    appliesExactly_of_none (existingDigest_firstSight _)] at exactly
  exact exactly.1.noComma (by decide)

end NoiseDigests

end WebhookWise
