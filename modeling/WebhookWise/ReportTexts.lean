import WebhookWise.DeepReports

/-!
# Which texts a report shows in full

A text that looks like a JSON container is parsed before it is shown, and repaired where it does not
parse.  Any other text is shown as it is, unless another value takes the place of its field.
-/

namespace WebhookWise

namespace ReportTexts

open DeepReports EmbeddedJson

/-! ## Results -/

variable (env : ReportEnv)

/-- A result with the fields of a report, and whatever else. -/
structure ReportResult where
  entries : JsonObject
  distinct : entries.Distinct
  summary : String
  rootCause : String
  impact : String
  recommendations : List String
  evidence : List String
  nextChecks : List String
  hasSummary : entries.get? "summary" = some (.str summary)
  hasRootCause : entries.get? "root_cause" = some (.str rootCause)
  hasImpact : entries.get? "impact" = some (.str impact)
  hasRecommendations : entries.get? "recommendations" = some (.list (recommendations.map .str))
  hasEvidence : entries.get? "evidence" = some (.list (evidence.map .str))
  hasNextChecks : entries.get? "next_checks" = some (.list (nextChecks.map .str))

def ReportResult.sectionTexts (result : ReportResult) : List String :=
  [result.rootCause, result.impact] ++
    (result.recommendations ++ result.evidence ++ result.nextChecks)

def ReportResult.texts (result : ReportResult) : List String :=
  result.summary :: result.sectionTexts

def reportOf (result : ReportResult) : DeepAnalysisReport :=
  normalizeDeepAnalysisReport env (.dict result.entries)

/-- Every item that is not blank is shown in one line. -/
def ShowsItems (items shown : List String) : Prop :=
  ∀ item ∈ items, strip item ≠ "" → singleLine (strip item) ∈ shown

structure ShowsTexts (env : ReportEnv) (result : ReportResult) : Prop where
  summary : strip result.summary ≠ "" →
    (reportOf env result).summary = strip result.summary
  rootCause : strip result.rootCause ≠ "" →
    (reportOf env result).rootCause = strip result.rootCause
  impact : strip result.impact ≠ "" →
    (reportOf env result).impact = strip result.impact
  recommendations : ShowsItems result.recommendations (reportOf env result).recommendations
  evidence : ShowsItems result.evidence (reportOf env result).evidence
  nextChecks : ShowsItems result.nextChecks (reportOf env result).nextChecks

/-! ## Conditions -/

def said (entries : JsonObject) : JsonObject :=
  (reportCandidates env (.dict entries)).flatten.filter fun entry => !isEmpty entry.2

def earlierKeys (entries : JsonObject) (own : String) : List String :=
  ((entries.takeWhile fun entry => entry.1 ≠ own).filter fun entry =>
    !isEmpty entry.2).map Prod.fst

/-- Nothing takes the place of the value of a key, which is asked after some others. -/
structure Unshadowed (env : ReportEnv) (entries : JsonObject) (before : List String) (own : String)
    (value : Json) : Prop where
  preceded : ∀ entry ∈ said env entries, keyId env entry.1 ∉ before.map (keyId env)
  spelled : ∀ entry ∈ said env entries, keyId env entry.1 = keyId env own →
    entry.1 = own ∨ entry.1 ∈ earlierKeys entries own
  kept : ∀ entry ∈ said env entries, entry.1 = own → isMoreStructured entry.2 value = false

/-- Nothing takes the place of a field with a text. -/
structure FieldsStand (env : ReportEnv) (result : ReportResult) : Prop where
  summary : strip result.summary ≠ "" →
    Unshadowed env result.entries [] "summary" (.str result.summary)
  rootCause : strip result.rootCause ≠ "" →
    Unshadowed env result.entries [] "root_cause" (.str result.rootCause)
  impact : strip result.impact ≠ "" →
    Unshadowed env result.entries ["impact_scope"] "impact" (.str result.impact)
  recommendations : result.recommendations ≠ [] →
    Unshadowed env result.entries [] "recommendations" (.list (result.recommendations.map .str))
  evidence : result.evidence ≠ [] →
    Unshadowed env result.entries [] "evidence" (.list (result.evidence.map .str))
  nextChecks : result.nextChecks ≠ [] →
    Unshadowed env result.entries [] "next_checks" (.list (result.nextChecks.map .str))

/-- No text is taken for a JSON container. -/
def TextsPlain (result : ReportResult) : Prop :=
  ∀ text ∈ result.texts, parseJsonContainerText env text = none

def BeginsWithBracket (text : String) : Prop :=
  (strip text).toList.head?.any (isOpening true) = true

/-- No text is a JSON document, in a fence or without one. -/
def NoDocuments (result : ReportResult) : Prop :=
  ∀ text ∈ result.texts, env.loads (stripMarkdownJsonFence text) = none

/-- The environment with another `repair_json`. -/
def repairing (repair : String → Option Json) : ReportEnv :=
  { env with repairJson := repair }

/-! ## Keys of dicts -/

section Dicts

variable {Value : Type} {entries front rest : PyDict Value} {key other : String} {value : Value}

theorem mem_keys_set :
    other ∈ (entries.set key value).map Prod.fst ↔
      other = key ∨ other ∈ entries.map Prod.fst := by
  induction entries with
  | nil => simp [PyDict.set]
  | cons entry entries ih =>
      rw [PyDict.set]
      split
      · rename_i here
        simp [here]
      · rw [List.map_cons, List.map_cons, List.mem_cons, List.mem_cons, ih, or_left_comm]

theorem set_append_of_mem (present : key ∈ front.map Prod.fst) :
    PyDict.set (front ++ rest) key value = front.set key value ++ rest := by
  induction front with
  | nil => cases present
  | cons entry front ih =>
      rw [List.cons_append, PyDict.set, PyDict.set]
      split
      · rfl
      · rename_i elsewhere
        rw [ih ((List.mem_cons.1 present).resolve_left fun here => elsewhere here.symm)]
        rfl

theorem set_append_of_notMem (absent : key ∉ front.map Prod.fst) :
    PyDict.set (front ++ rest) key value = front ++ rest.set key value := by
  induction front with
  | nil => rfl
  | cons entry front ih =>
      rw [List.map_cons, List.mem_cons, not_or] at absent
      rw [List.cons_append, PyDict.set, if_neg (Ne.symm absent.1), ih absent.2]
      rfl

theorem get?_append_of_notMem (absent : key ∉ front.map Prod.fst) :
    PyDict.get? (front ++ rest) key = rest.get? key := by
  have missed : front.find? (fun entry => entry.1 = key) = none := by
    rw [List.find?_eq_none]
    intro entry member same
    exact absent (List.mem_map.2 ⟨entry, member, of_decide_eq_true same⟩)
  rw [PyDict.get?, List.find?_append, missed]
  rfl

theorem mem_of_get?_ne_none (found : entries.get? key ≠ none) : key ∈ entries.map Prod.fst := by
  obtain ⟨value, isValue⟩ := Option.ne_none_iff_exists'.1 found
  obtain ⟨entry, isEntry, _⟩ := Option.map_eq_some_iff.1 isValue
  have same := List.find?_some isEntry
  exact List.mem_map.2 ⟨entry, List.mem_of_find?_eq_some isEntry, of_decide_eq_true same⟩

end Dicts

/-! ## Merging -/

variable {entries merged : JsonObject}
variable {entry : String × Json}

section Merging

theorem mergeEntry_of_isEmpty (empty : isEmpty entry.2 = true) :
    mergeEntry merged entry = merged := by
  simp [mergeEntry, empty]

theorem mergeCandidates_eq (candidates : List JsonObject) :
    mergeCandidates candidates =
      (candidates.flatten.filter fun entry => !isEmpty entry.2).foldl mergeEntry [] := by
  have dropped (entries merged : JsonObject) :
      entries.foldl mergeEntry merged =
        (entries.filter fun entry => !isEmpty entry.2).foldl mergeEntry merged := by
    induction entries generalizing merged with
    | nil => rfl
    | cons entry entries ih =>
        rw [List.foldl_cons, ih, List.filter_cons]
        cases empty : isEmpty entry.2 with
        | true => simp [mergeEntry_of_isEmpty empty]
        | false => simp
  rw [mergeCandidates, ← List.foldl_flatten, dropped]

theorem mem_keys_mergeEntry (filled : isEmpty entry.2 = false) {key : String} :
    key ∈ (mergeEntry merged entry).map Prod.fst ↔
      key ∈ merged.map Prod.fst ∨ key = entry.1 := by
  simp only [mergeEntry, filled, Bool.false_eq_true, if_false]
  split
  · rw [mem_keys_set, or_comm]
  · rename_i stays
    refine ⟨Or.inl, fun cases => cases.elim id ?_⟩
    rintro rfl
    apply mem_of_get?_ne_none
    intro absent
    simp [absent, isEmpty] at stays

theorem mem_keys_foldl (filled : ∀ entry ∈ entries, isEmpty entry.2 = false) {key : String} :
    key ∈ (entries.foldl mergeEntry merged).map Prod.fst ↔
      key ∈ merged.map Prod.fst ∨ key ∈ entries.map Prod.fst := by
  induction entries generalizing merged with
  | nil => simp
  | cons entry entries ih =>
      rw [List.foldl_cons, ih fun other member => filled other (List.mem_cons_of_mem _ member),
        mem_keys_mergeEntry (filled entry List.mem_cons_self), List.map_cons, List.mem_cons,
        or_assoc]

variable {env : ReportEnv} {own : String} {value : Json} {earlier : List String}

/-- The value stands under its key, behind some keys and before keys that read differently. -/
structure Stands (env : ReportEnv) (own : String) (value : Json) (earlier : List String)
    (front back : JsonObject) : Prop where
  first : own ∉ front.map Prod.fst
  behind : ∀ key ∈ earlier, key ∈ front.map Prod.fst
  differs : ∀ entry ∈ back, keyId env entry.1 ≠ keyId env own

theorem stands_mergeEntry {front back : JsonObject} (filled : isEmpty value = false)
    (stands : Stands env own value earlier front back)
    (spelled : keyId env entry.1 = keyId env own → entry.1 = own ∨ entry.1 ∈ earlier)
    (kept : entry.1 = own → isMoreStructured entry.2 value = false) :
    ∃ front' back', mergeEntry (front ++ (own, value) :: back) entry =
      front' ++ (own, value) :: back' ∧ Stands env own value earlier front' back' := by
  have unchanged : ∃ front' back', front ++ (own, value) :: back = front' ++ (own, value) :: back' ∧
      Stands env own value earlier front' back' := ⟨front, back, rfl, stands⟩
  unfold mergeEntry
  dsimp only
  split
  · exact unchanged
  by_cases isOwn : entry.1 = own
  · have found : PyDict.get? (front ++ (own, value) :: back) entry.1 = some value := by
      rw [isOwn, get?_append_of_notMem stands.first]
      simp [PyDict.get?]
    rw [found, Option.getD_some, filled, kept isOwn]
    exact unchanged
  split
  · by_cases inFront : entry.1 ∈ front.map Prod.fst
    · refine ⟨front.set entry.1 entry.2, back, set_append_of_mem inFront, ?_, ?_, stands.differs⟩
      · rw [mem_keys_set, not_or]
        exact ⟨Ne.symm isOwn, stands.first⟩
      · exact fun key member => mem_keys_set.2 (Or.inr (stands.behind key member))
    · refine ⟨front, PyDict.set back entry.1 entry.2, ?_, stands.first, stands.behind, ?_⟩
      · rw [set_append_of_notMem inFront, PyDict.set, if_neg (Ne.symm isOwn)]
      · intro other member
        have key : other.1 ∈ (PyDict.set back entry.1 entry.2).map Prod.fst :=
          List.mem_map_of_mem member
        rcases mem_keys_set.1 key with isEntry | inBack
        · intro same
          rw [isEntry] at same
          exact (spelled same).elim isOwn fun before => inFront (stands.behind _ before)
        · obtain ⟨old, oldMember, sameKey⟩ := List.mem_map.1 inBack
          exact sameKey ▸ stands.differs old oldMember
  · exact unchanged

theorem stands_foldl {front back : JsonObject} (filled : isEmpty value = false)
    (stands : Stands env own value earlier front back) {later : JsonObject}
    (spelled : ∀ entry ∈ later, keyId env entry.1 = keyId env own →
      entry.1 = own ∨ entry.1 ∈ earlier)
    (kept : ∀ entry ∈ later, entry.1 = own → isMoreStructured entry.2 value = false) :
    ∃ front' back', later.foldl mergeEntry (front ++ (own, value) :: back) =
      front' ++ (own, value) :: back' ∧ Stands env own value earlier front' back' := by
  induction later generalizing front back with
  | nil => exact ⟨front, back, rfl, stands⟩
  | cons entry later ih =>
      obtain ⟨front', back', merged, stands'⟩ := stands_mergeEntry filled stands
        (spelled entry List.mem_cons_self) (kept entry List.mem_cons_self)
      rw [List.foldl_cons, merged]
      exact ih stands' (fun other member => spelled other (List.mem_cons_of_mem _ member))
        fun other member => kept other (List.mem_cons_of_mem _ member)

/-! ## Picking -/

theorem get?_indexed (entries : JsonObject) (id : String) :
    (indexed env entries).get? id =
      ((entries.filter fun entry => keyId env entry.1 = id).getLast?).map Prod.snd := by
  induction entries using List.reverseRecOn with
  | nil => rfl
  | append_singleton entries last ih =>
      rw [indexed, List.foldl_append, List.foldl_cons, List.foldl_nil, ← indexed, PyDict.get?_set,
        List.filter_append]
      by_cases here : keyId env last.1 = id
      · simp [here]
      · rw [if_neg (Ne.symm here), ih]
        simp [here]

theorem get?_indexed_of_stands {front back : JsonObject}
    (stands : Stands env own value earlier front back) :
    (indexed env (front ++ (own, value) :: back)).get? (keyId env own) = some value := by
  have nothing : (back.filter fun entry => keyId env entry.1 = keyId env own) = [] := by
    rw [List.filter_eq_nil_iff]
    exact fun entry member same => stands.differs entry member (of_decide_eq_true same)
  rw [get?_indexed, List.filter_append, List.filter_cons, if_pos (by simp), nothing,
    List.getLast?_concat]
  rfl

theorem pick_append_of_forall {before keys : List String}
    (preceded : ∀ entry ∈ entries, keyId env entry.1 ∉ before.map (keyId env)) :
    pick env (.dict entries) (before ++ keys) = pick env (.dict entries) keys := by
  have nothing : ∀ key ∈ before, ((indexed env entries).get? (keyId env key)).filter
      (fun value => !isEmpty value) = none := by
    intro key member
    have none : (entries.filter fun entry => keyId env entry.1 = keyId env key) = [] := by
      rw [List.filter_eq_nil_iff]
      intro entry inside same
      exact preceded entry inside (List.mem_map.2 ⟨key, member, (of_decide_eq_true same).symm⟩)
    rw [get?_indexed, none]
    rfl
  rw [pick, List.findSome?_append, List.findSome?_eq_none_iff.2 nothing]
  rfl

theorem exists_reportCandidates (env : ReportEnv) (entries : JsonObject) :
    ∃ nested, reportCandidates env (.dict entries) = entries :: nested :=
  ⟨_, rfl⟩

variable (env) in
theorem exists_said_eq (present : entries.get? own = some value) (filled : isEmpty value = false) :
    ∃ before after, said env entries = before ++ (own, value) :: after ∧
      own ∉ before.map Prod.fst ∧ earlierKeys entries own = before.map Prod.fst := by
  obtain ⟨⟨key, stored⟩, found, rfl⟩ := Option.map_eq_some_iff.1 present
  obtain ⟨isOwn, front, back, split, others⟩ := List.find?_eq_some_iff_append.1 found
  obtain rfl : key = own := of_decide_eq_true isOwn
  obtain ⟨nested, candidates⟩ := exists_reportCandidates env entries
  refine ⟨front.filter fun entry => !isEmpty entry.2,
    (back ++ nested.flatten).filter fun entry => !isEmpty entry.2, ?_, ?_, ?_⟩
  · rw [said, candidates, List.flatten_cons, split, List.append_assoc, List.filter_append,
      List.cons_append, List.filter_cons, if_pos (by simp [filled])]
  · intro member
    obtain ⟨entry, inside, same⟩ := List.mem_map.1 member
    have other := others entry (List.mem_filter.1 inside).1
    simp [same] at other
  · have taken : entries.takeWhile (fun entry => entry.1 ≠ key) = front := by
      rw [split, List.takeWhile_append_of_pos fun entry member => by
        simpa using others entry member]
      simp
    rw [earlierKeys, taken]

theorem pick_of_unshadowed {before : List String} (present : entries.get? own = some value)
    (filled : isEmpty value = false) (unshadowed : Unshadowed env entries before own value)
    (after : List String) :
    pick env (.dict (mergeCandidates (reportCandidates env (.dict entries))))
      (before ++ own :: after) = some value := by
  have allFilled : ∀ entry ∈ said env entries, isEmpty entry.2 = false :=
    fun entry member => by simpa using (List.mem_filter.1 member).2
  obtain ⟨earlier, later, split, fresh, isEarlier⟩ := exists_said_eq env present filled
  have merged : mergeCandidates (reportCandidates env (.dict entries)) =
      (said env entries).foldl mergeEntry [] := mergeCandidates_eq _
  have keys (key : String) : key ∈ (earlier.foldl mergeEntry []).map Prod.fst ↔
      key ∈ earlier.map Prod.fst := by
    rw [mem_keys_foldl fun entry member => allFilled entry (split ▸ List.mem_append_left _ member)]
    simp
  have starts :
      Stands env own value (earlierKeys entries own) (earlier.foldl mergeEntry []) [] := by
    refine ⟨fun member => fresh ((keys own).1 member), fun key member => ?_, by simp⟩
    rw [keys, ← isEarlier]
    exact member
  have inserted : mergeEntry (earlier.foldl mergeEntry []) (own, value) =
      earlier.foldl mergeEntry [] ++ [(own, value)] := by
    have absent : PyDict.get? (earlier.foldl mergeEntry []) own = none := by
      by_contra found
      exact starts.first (mem_of_get?_ne_none found)
    have appended := @set_append_of_notMem _ _ [] own value starts.first
    rw [List.append_nil] at appended
    have nothing : isEmpty .null = true := rfl
    simp only [mergeEntry, filled, absent, Option.getD_none, nothing, Bool.true_or,
      Bool.false_eq_true, if_false, if_true, appended]
    rfl
  have isSaid : ∀ entry ∈ later, entry ∈ said env entries := by
    intro entry member
    rw [split]
    exact List.mem_append_right _ (List.mem_cons_of_mem _ member)
  obtain ⟨front, back, result, stands⟩ := stands_foldl filled starts
    (fun entry member => unshadowed.spelled entry (isSaid entry member))
    fun entry member => unshadowed.kept entry (isSaid entry member)
  have whole : mergeCandidates (reportCandidates env (.dict entries)) =
      front ++ (own, value) :: back := by
    rw [merged, split, List.foldl_append, List.foldl_cons, inserted, result]
  have preceded : ∀ entry ∈ mergeCandidates (reportCandidates env (.dict entries)),
      keyId env entry.1 ∉ before.map (keyId env) := by
    intro entry member
    have key : entry.1 ∈ ((said env entries).foldl mergeEntry []).map Prod.fst :=
      merged ▸ List.mem_map_of_mem member
    rw [mem_keys_foldl allFilled] at key
    obtain ⟨other, inside, same⟩ := List.mem_map.1 (key.resolve_left (by simp))
    exact same ▸ unshadowed.preceded other inside
  have chosen : (some value).filter (fun value => !isEmpty value) = some value := by
    simp [Option.filter, filled]
  rw [pick_append_of_forall preceded, pick, List.findSome?_cons, whole,
    get?_indexed_of_stands stands, chosen]

end Merging

/-! ## Texts -/

variable {text : String} {rest : List Char} {first : Char}

section Texts

theorem rdropWhile_of_head (visible : isPythonSpace first = false) :
    ∃ others, (first :: rest).rdropWhile isPythonSpace = first :: others := by
  cases left : (first :: rest).rdropWhile isPythonSpace with
  | nil =>
      have spaces := List.rdropWhile_eq_nil_iff.1 left first List.mem_cons_self
      rw [visible] at spaces
      cases spaces
  | cons head others =>
      have begins := left ▸ List.rdropWhile_prefix isPythonSpace (first :: rest)
      obtain ⟨same, -⟩ := List.cons_prefix_cons.1 begins
      exact ⟨others, by rw [same]⟩

theorem strip_of_head (visible : isPythonSpace first = false) :
    ∃ others, (strip (String.ofList (first :: rest))).toList = first :: others := by
  have trimmed : (strip (String.ofList (first :: rest))).toList =
      (first :: rest).rdropWhile isPythonSpace := by
    rw [strip, String.toList_ofList, String.toList_ofList,
      List.dropWhile_cons_of_neg (by simp [visible])]
    rfl
  rw [trimmed]
  exact rdropWhile_of_head visible

theorem exists_head_strip (written : strip text ≠ "") :
    ∃ first rest, (strip text).toList = first :: rest ∧ isPythonSpace first = false := by
  have fixed : (strip text).toList.dropWhile isPythonSpace = (strip text).toList := by
    rw [strip, String.toList_ofList]
    exact dropWhile_rdropWhile_dropWhile isPythonSpace text.toList
  cases characters : (strip text).toList with
  | nil => exact absurd (String.toList_eq_nil_iff.1 characters) written
  | cons first rest =>
      refine ⟨first, rest, rfl, ?_⟩
      rw [← Bool.not_eq_true]
      intro space
      rw [characters, List.dropWhile_cons_of_pos space] at fixed
      have shorter := (@List.dropWhile_sublist _ rest isPythonSpace).length_le
      rw [fixed, List.length_cons] at shorter
      omega

theorem singleLine_of_head (begins : text.toList = first :: rest)
    (visible : isPythonSpace first = false) :
    ∃ others, (singleLine text).toList = first :: others := by
  obtain ⟨word, words, split⟩ :=
    List.exists_cons_of_ne_nil (List.splitOnP_ne_nil isPythonSpace rest)
  have cut : (text.toList.splitOnP isPythonSpace).filter (fun word => word ≠ []) =
      (first :: word) :: words.filter fun word => word ≠ [] := by
    rw [begins, List.splitOnP_cons_eq_if_modifyHead, visible, split]
    simp
  have joined : ∃ others, (" ".intercalate
      (((text.toList.splitOnP isPythonSpace).filter fun word => word ≠ []).map
        String.ofList)).toList = first :: others := by
    rw [cut, String.toList_intercalate]
    cases words.filter fun word => word ≠ [] with
    | nil => exact ⟨word, by simp⟩
    | cons next others =>
        rw [List.map_cons, List.map_cons, List.map_cons, List.map_cons, List.intercalate_cons_cons,
          String.toList_ofList]
        exact ⟨_, rfl⟩
  obtain ⟨others, isJoined⟩ := joined
  have isText : " ".intercalate (((text.toList.splitOnP isPythonSpace).filter fun word =>
      word ≠ []).map String.ofList) = String.ofList (first :: others) := by
    rw [← isJoined, String.ofList_toList]
  rw [singleLine, isText]
  exact strip_of_head visible

theorem mem_uniqueTexts {values : List String} :
    text ∈ uniqueTexts values ↔ text ≠ "" ∧ ∃ value ∈ values, strip value = text := by
  rw [uniqueTexts]
  induction values using List.reverseRecOn with
  | nil => simp
  | append_singleton values last ih =>
      rw [List.foldl_append, List.foldl_cons, List.foldl_nil]
      simp only [List.mem_append, List.mem_singleton, or_and_right, exists_or, exists_eq_left]
      split
      · rename_i skipped
        rw [ih]
        constructor
        · exact fun kept => ⟨kept.1, Or.inl kept.2⟩
        · rintro ⟨written, before | rfl⟩
          · exact ⟨written, before⟩
          · exact ih.1 (skipped.resolve_left written)
      · rename_i added
        rw [not_or] at added
        rw [List.mem_append, List.mem_singleton, ih]
        constructor
        · rintro (⟨written, before⟩ | rfl)
          · exact ⟨written, Or.inl before⟩
          · exact ⟨added.1, Or.inr rfl⟩
        · rintro ⟨written, before | rfl⟩
          · exact Or.inl ⟨written, before⟩
          · exact Or.inr rfl

end Texts

/-! ## What is shown -/

variable {style : ListStyle}

section Shown

def mergedOf (env : ReportEnv) (result : ReportResult) : JsonObject :=
  mergeCandidates (reportCandidates env (.dict result.entries))

/-- The report presents what is picked from a mapping. -/
structure Presents (env : ReportEnv) (data : Json) (report : DeepAnalysisReport) : Prop where
  summary : firstText env data summaryKeys ≠ "" →
    report.summary = firstText env data summaryKeys
  rootCause : report.rootCause = displayPicked env data rootCauseKeys
  impact : report.impact = displayPicked env data impactKeys
  recommendations : report.recommendations =
    shownList env data recommendationKeys .recommendation
  evidence : report.evidence = shownList env data evidenceKeys .evidence
  nextChecks : report.nextChecks = shownList env data nextCheckKeys .evidence

variable {env : ReportEnv} {result : ReportResult}

theorem presents_reportOf (filled : mergedOf env result ≠ []) :
    Presents env (.dict (mergedOf env result)) (reportOf env result) := by
  have someEntry : ¬ (mergedOf env result = [] ∧
      firstRawText env rawTextLevels (.dict result.entries) ≠ "") := fun both => filled both.1
  unfold reportOf normalizeDeepAnalysisReport
  rw [← mergedOf]
  simp only [if_neg someEntry]
  constructor
  · intro written
    simp only [if_neg written]
  all_goals simp only

theorem mergedOf_ne_nil {keys : List String} {value : Json}
    (picked : pick env (.dict (mergedOf env result)) keys = some value) :
    mergedOf env result ≠ [] := by
  intro empty
  rw [empty] at picked
  have nothing : pick env (.dict []) keys = none :=
    List.findSome?_eq_none_iff.2 fun key _ => rfl
  rw [nothing] at picked
  cases picked

theorem displayValue_str (levels : Nat) (text : String) :
    displayValue env (levels + 1) (.str text) =
      ((parseJsonContainerText env text).map (displayValue env levels)).getD (strip text) := by
  rw [displayValue]
  cases parseJsonContainerText env text <;> rfl

theorem displayLevels_eq : displayLevels = 4 + 1 := rfl

theorem displayValue_of_plain (plain : parseJsonContainerText env text = none) :
    displayValue env displayLevels (.str text) = strip text := by
  rw [displayLevels_eq, displayValue_str, plain]
  rfl

theorem isEmpty_str (written : strip text ≠ "") : isEmpty (.str text) = false := by
  have notEmpty : text ≠ "" := by
    rintro rfl
    exact written rfl
  simp [isEmpty, notEmpty]

theorem isEmpty_list {items : List String} (nonempty : items ≠ []) :
    isEmpty (.list (items.map .str)) = false := by
  simp [isEmpty, nonempty]

theorem strip_singleLine (text : String) : strip (singleLine text) = singleLine text :=
  strip_strip _

theorem singleLine_ne_empty (written : strip text ≠ "") : singleLine (strip text) ≠ "" := by
  obtain ⟨first, rest, begins, visible⟩ := exists_head_strip written
  obtain ⟨others, line⟩ := singleLine_of_head begins visible
  intro empty
  rw [empty] at line
  cases line

theorem listTexts_list (items : List Json) (style : ListStyle) :
    listTexts env (.list items) style =
      (items.map (itemText env style)).filter fun text => text ≠ "" := by
  rfl

theorem mem_shownList_iff {data : Json} {keys items : List String}
    (picked : pick env data keys = some (.list (items.map .str))) {line : String} :
    line ∈ shownList env data keys style ↔
      line ≠ "" ∧ ∃ item ∈ items, displayValue env displayLevels (.str item) ≠ "" ∧
        singleLine (displayValue env displayLevels (.str item)) = line := by
  have shown (item : String) : itemText env style (.str item) =
      displayValue env displayLevels (.str item) := by
    cases style <;> simp only [itemText]
  have texts : listTexts env ((pick env data keys).getD .null) style =
      (items.map fun item => displayValue env displayLevels (.str item)).filter fun text =>
        text ≠ "" := by
    rw [picked, Option.getD_some, listTexts_list, List.map_map]
    simp only [Function.comp_def, shown]
  rw [shownList, texts, uniqueItems, mem_uniqueTexts]
  refine and_congr_right fun _ => ⟨?_, ?_⟩
  · rintro ⟨value, inLines, isLine⟩
    obtain ⟨text, inTexts, rfl⟩ := List.mem_map.1 inLines
    obtain ⟨inItems, written⟩ := List.mem_filter.1 inTexts
    obtain ⟨item, member, rfl⟩ := List.mem_map.1 inItems
    exact ⟨item, member, of_decide_eq_true written, (strip_singleLine _).symm.trans isLine⟩
  · rintro ⟨item, member, written, isLine⟩
    refine ⟨_, List.mem_map_of_mem (List.mem_filter.2 ⟨List.mem_map_of_mem member,
      decide_eq_true written⟩), ?_⟩
    rw [strip_singleLine, isLine]

/-! ### Plain texts -/

variable {own text : String} {before : List String}

theorem presents_of_unshadowed {value : Json} (present : result.entries.get? own = some value)
    (filled : isEmpty value = false) (unshadowed : Unshadowed env result.entries before own value) :
    Presents env (.dict (mergedOf env result)) (reportOf env result) :=
  presents_reportOf (mergedOf_ne_nil (pick_of_unshadowed present filled unshadowed []))

theorem displayPicked_of_unshadowed (present : result.entries.get? own = some (.str text))
    (written : strip text ≠ "") (unshadowed : Unshadowed env result.entries before own (.str text))
    (after : List String) :
    displayPicked env (.dict (mergedOf env result)) (before ++ own :: after) =
      displayValue env displayLevels (.str text) := by
  rw [displayPicked, mergedOf, pick_of_unshadowed present (isEmpty_str written) unshadowed]
  rfl

theorem mem_shownList_of_unshadowed {items after : List String}
    (present : result.entries.get? own = some (.list (items.map .str))) (nonempty : items ≠ [])
    (unshadowed : Unshadowed env result.entries [] own (.list (items.map .str))) {line : String} :
    line ∈ shownList env (.dict (mergedOf env result)) (own :: after) style ↔
      line ≠ "" ∧ ∃ item ∈ items, displayValue env displayLevels (.str item) ≠ "" ∧
        singleLine (displayValue env displayLevels (.str item)) = line :=
  mem_shownList_iff (pick_of_unshadowed present (isEmpty_list nonempty) unshadowed after)

theorem showsItems_of_plain {items after : List String}
    (present : result.entries.get? own = some (.list (items.map .str)))
    (stands : items ≠ [] → Unshadowed env result.entries [] own (.list (items.map .str)))
    (plain : ∀ item ∈ items, parseJsonContainerText env item = none) :
    ShowsItems items (shownList env (.dict (mergedOf env result)) (own :: after) style) := by
  intro item member written
  have nonempty := List.ne_nil_of_mem member
  rw [mem_shownList_of_unshadowed present nonempty (stands nonempty)]
  refine ⟨singleLine_ne_empty written, item, member, ?_, ?_⟩
  · rwa [displayValue_of_plain (plain item member)]
  · rw [displayValue_of_plain (plain item member)]

theorem showsTexts_of_plain (stands : FieldsStand env result) (plain : TextsPlain env result) :
    ShowsTexts env result := by
  have plainItems {items : List String} (within : ∀ item ∈ items, item ∈ result.texts) :
      ∀ item ∈ items, parseJsonContainerText env item = none :=
    fun item member => plain item (within item member)
  refine ⟨fun written => ?_, fun written => ?_, fun written => ?_, ?_, ?_, ?_⟩
  · have unshadowed := stands.summary written
    have shown : displayPicked env (.dict (mergedOf env result)) ["summary"] =
        strip result.summary := by
      rw [← displayValue_of_plain (plain result.summary (by simp [ReportResult.texts]))]
      exact displayPicked_of_unshadowed result.hasSummary written unshadowed []
    have first : firstText env (.dict (mergedOf env result)) summaryKeys =
        strip result.summary := by
      rw [firstText, summaryKeys, List.map_cons, shown,
        List.find?_cons_of_pos (by simpa using written)]
      rfl
    have presents := presents_of_unshadowed result.hasSummary (isEmpty_str written) unshadowed
    rw [presents.summary (first ▸ written), first]
  · have unshadowed := stands.rootCause written
    have presents := presents_of_unshadowed result.hasRootCause (isEmpty_str written) unshadowed
    rw [presents.rootCause, ← displayValue_of_plain
      (plain result.rootCause (by simp [ReportResult.texts, ReportResult.sectionTexts]))]
    exact displayPicked_of_unshadowed result.hasRootCause written unshadowed _
  · have unshadowed := stands.impact written
    have presents := presents_of_unshadowed result.hasImpact (isEmpty_str written) unshadowed
    rw [presents.impact, ← displayValue_of_plain
      (plain result.impact (by simp [ReportResult.texts, ReportResult.sectionTexts]))]
    exact displayPicked_of_unshadowed result.hasImpact written unshadowed _
  · intro item member
    have nonempty := List.ne_nil_of_mem member
    rw [(presents_of_unshadowed result.hasRecommendations (isEmpty_list nonempty)
      (stands.recommendations nonempty)).recommendations]
    exact showsItems_of_plain result.hasRecommendations stands.recommendations
      (plainItems fun other inside => by
        simp [ReportResult.texts, ReportResult.sectionTexts, inside]) item member
  · intro item member
    have nonempty := List.ne_nil_of_mem member
    rw [(presents_of_unshadowed result.hasEvidence (isEmpty_list nonempty)
      (stands.evidence nonempty)).evidence]
    exact showsItems_of_plain result.hasEvidence stands.evidence
      (plainItems fun other inside => by
        simp [ReportResult.texts, ReportResult.sectionTexts, inside]) item member
  · intro item member
    have nonempty := List.ne_nil_of_mem member
    rw [(presents_of_unshadowed result.hasNextChecks (isEmpty_list nonempty)
      (stands.nextChecks nonempty)).nextChecks]
    exact showsItems_of_plain result.hasNextChecks stands.nextChecks
      (plainItems fun other inside => by
        simp [ReportResult.texts, ReportResult.sectionTexts, inside]) item member

/-! ### Texts that begin with a bracket -/

/-- A `repair_json` that finds nothing in any text. -/
def emptyRepair : String → Option Json :=
  fun _ => some (.list [])

theorem visible_of_isOpening {character : Char} (opens : isOpening true character = true) :
    isPythonSpace character = false ∧ character ≠ '\x60' := by
  have bracket : character = '\x7b' ∨ character = '[' := by simpa [isOpening] using opens
  rcases bracket with rfl | rfl <;> decide

theorem strip_stripMarkdownJsonFence (text : String) :
    strip (stripMarkdownJsonFence text) = stripMarkdownJsonFence text := by
  unfold stripMarkdownJsonFence
  exact strip_strip _

theorem stripMarkdownJsonFence_of_head (begins : (strip text).toList = first :: rest)
    (visible : isPythonSpace first = false) (noTick : first ≠ '\x60') :
    ∃ others, (stripMarkdownJsonFence text).toList = first :: others := by
  have noOpening : dropFenceOpening (first :: rest) = first :: rest := by
    rw [dropFenceOpening, if_neg]
    simp [backticks, Ne.symm noTick]
  have closing : ∃ others, dropFenceClosing (first :: rest) = first :: others := by
    unfold dropFenceClosing
    split
    · rename_i ends
      obtain ⟨front, isFront⟩ := List.isSuffixOf_iff_suffix.1 ends
      cases front with
      | nil => exact absurd (List.cons.inj isFront).1.symm noTick
      | cons head front =>
          obtain ⟨rfl, isRest⟩ := List.cons.inj isFront
          have kept : (head :: rest).take ((head :: rest).length - 3) = head :: front := by
            rw [← isRest]
            simp [backticks]
          rw [kept]
          exact rdropWhile_of_head visible
    · exact ⟨rest, rfl⟩
  obtain ⟨others, isClosed⟩ := closing
  unfold stripMarkdownJsonFence
  rw [begins, noOpening, isClosed]
  exact strip_of_head visible

theorem looksLikeJsonContainer_of_bracket (bracket : BeginsWithBracket text) :
    looksLikeJsonContainer text = true := by
  obtain ⟨first, isFirst, opens⟩ := (Option.any_eq_true _ _).1 bracket
  obtain ⟨rest, begins⟩ := List.head?_eq_some_iff.1 isFirst
  obtain ⟨visible, noTick⟩ := visible_of_isOpening opens
  obtain ⟨others, stripped⟩ := stripMarkdownJsonFence_of_head begins visible noTick
  rw [looksLikeJsonContainer, stripped]
  exact opens

theorem bracket_of_looksLike (looks : looksLikeJsonContainer text = true) :
    BeginsWithBracket (stripMarkdownJsonFence text) := by
  rw [BeginsWithBracket, strip_stripMarkdownJsonFence]
  exact looks

theorem written_of_bracket (bracket : BeginsWithBracket text) : strip text ≠ "" := by
  intro empty
  rw [BeginsWithBracket, empty] at bracket
  cases bracket

theorem exists_uniqueTexts_cons {value : String} (stripped : strip value = value)
    (written : value ≠ "") (values : List String) :
    ∃ others, uniqueTexts (value :: values) = value :: others := by
  induction values using List.reverseRecOn with
  | nil => exact ⟨[], by simp [uniqueTexts, stripped, written]⟩
  | append_singleton values last ih =>
      obtain ⟨others, before⟩ := ih
      rw [uniqueTexts] at before ⊢
      rw [← List.cons_append, List.foldl_append, before, List.foldl_cons, List.foldl_nil]
      dsimp only
      split
      · exact ⟨others, rfl⟩
      · exact ⟨others ++ [strip last], rfl⟩

theorem parseJsonLikeText_of_first {levels : Nat} {items : List Json}
    (written : stripMarkdownJsonFence text ≠ "")
    (read : (env.loads (stripMarkdownJsonFence text)).or
      (repairJsonLikeText env (stripMarkdownJsonFence text)) = some (.list items)) :
    parseJsonLikeText env (levels + 1) text = some (.list items) := by
  have fixed : strip (stripMarkdownJsonFence text) = stripMarkdownJsonFence text :=
    strip_stripMarkdownJsonFence text
  have first (block : String) : ∃ others, candidateTexts (stripMarkdownJsonFence text) block =
      stripMarkdownJsonFence text :: others := exists_uniqueTexts_cons fixed written _
  obtain ⟨others, candidates⟩ := first (jsonBlock env (stripMarkdownJsonFence text))
  rw [parseJsonLikeText]
  simp only [if_neg written, candidates, List.findSome?_cons, read, Option.some_or]

theorem parseJsonContainerText_of_repair (looks : looksLikeJsonContainer text = true)
    (noDocument : env.loads (stripMarkdownJsonFence text) = none) :
    parseJsonContainerText (repairing env emptyRepair) text = some (.list []) := by
  have bracket := bracket_of_looksLike looks
  have written : stripMarkdownJsonFence text ≠ "" := by
    intro empty
    rw [BeginsWithBracket, empty] at bracket
    cases bracket
  have repaired : ((repairing env emptyRepair).loads (stripMarkdownJsonFence text)).or
      (repairJsonLikeText (repairing env emptyRepair) (stripMarkdownJsonFence text)) =
        some (.list []) := by
    have sameLoads : (repairing env emptyRepair).loads = env.loads := rfl
    rw [sameLoads, noDocument, repairJsonLikeText,
      if_pos (looksLikeJsonContainer_of_bracket bracket)]
    rfl
  rw [parseJsonContainerText, if_pos looks, parseJsonText]
  exact parseJsonLikeText_of_first written repaired

theorem displayValue_of_repair (looks : looksLikeJsonContainer text = true)
    (noDocument : env.loads (stripMarkdownJsonFence text) = none) :
    displayValue (repairing env emptyRepair) displayLevels (.str text) = "" := by
  rw [displayLevels_eq, displayValue_str, parseJsonContainerText_of_repair looks noDocument]
  rfl

theorem lost_item {items after : List String} {item : String}
    (noDocuments : ∀ item ∈ items, env.loads (stripMarkdownJsonFence item) = none)
    (present : result.entries.get? own = some (.list (items.map .str))) (member : item ∈ items)
    (unshadowed : Unshadowed (repairing env emptyRepair) result.entries [] own
      (.list (items.map .str))) (bracket : BeginsWithBracket item) :
    singleLine (strip item) ∉ shownList (repairing env emptyRepair)
      (.dict (mergedOf (repairing env emptyRepair) result)) (own :: after) style := by
  rw [mem_shownList_of_unshadowed present (List.ne_nil_of_mem member) unshadowed]
  rintro ⟨-, other, inside, written, sameLine⟩
  cases looks : looksLikeJsonContainer other with
  | true => exact written (displayValue_of_repair looks (noDocuments other inside))
  | false =>
      have plain : parseJsonContainerText (repairing env emptyRepair) other = none := by
        rw [parseJsonContainerText, looks]
        rfl
      rw [displayValue_of_plain plain] at written sameLine
      obtain ⟨first, isFirst, opens⟩ := (Option.any_eq_true _ _).1 bracket
      obtain ⟨rest, begins⟩ := List.head?_eq_some_iff.1 isFirst
      obtain ⟨line, isLine⟩ := singleLine_of_head begins (visible_of_isOpening opens).1
      obtain ⟨otherFirst, otherRest, otherBegins, visible⟩ := exists_head_strip written
      obtain ⟨otherLine, isOtherLine⟩ := singleLine_of_head otherBegins visible
      rw [sameLine, isLine] at isOtherLine
      have otherBracket : BeginsWithBracket other := by
        rw [BeginsWithBracket, otherBegins, ← (List.cons.inj isOtherLine).1]
        exact opens
      rw [looksLikeJsonContainer_of_bracket otherBracket] at looks
      cases looks

/-- A text of a section that begins with a bracket is lost when the repair finds nothing in it. -/
theorem not_showsTexts_of_bracket (stands : FieldsStand (repairing env emptyRepair) result)
    (noDocuments : NoDocuments env result) (member : text ∈ result.sectionTexts)
    (bracket : BeginsWithBracket text) : ¬ ShowsTexts (repairing env emptyRepair) result := by
  intro shows
  have written := written_of_bracket bracket
  have noDocument : env.loads (stripMarkdownJsonFence text) = none :=
    noDocuments text (List.mem_cons_of_mem _ member)
  have nothing := displayValue_of_repair (looksLikeJsonContainer_of_bracket bracket) noDocument
  have inTexts {items : List String} (within : ∀ item ∈ items, item ∈ result.texts) :
      ∀ item ∈ items, env.loads (stripMarkdownJsonFence item) = none :=
    fun item inside => noDocuments item (within item inside)
  simp only [ReportResult.sectionTexts, List.mem_append, List.mem_cons, List.not_mem_nil,
    or_false] at member
  rcases member with (rfl | rfl) | (listed | listed) | listed
  · have presents := presents_of_unshadowed result.hasRootCause (isEmpty_str written)
      (stands.rootCause written)
    have shown := displayPicked_of_unshadowed result.hasRootCause written
      (stands.rootCause written) rootCauseKeys.tail
    rw [nothing] at shown
    exact written ((shows.rootCause written).symm.trans (presents.rootCause.trans shown))
  · have presents := presents_of_unshadowed result.hasImpact (isEmpty_str written)
      (stands.impact written)
    have shown := displayPicked_of_unshadowed result.hasImpact written
      (stands.impact written) (impactKeys.drop 2)
    rw [nothing] at shown
    exact written ((shows.impact written).symm.trans (presents.impact.trans shown))
  · have unshadowed := stands.recommendations (List.ne_nil_of_mem listed)
    have presents := presents_of_unshadowed result.hasRecommendations
      (isEmpty_list (List.ne_nil_of_mem listed)) unshadowed
    have line := shows.recommendations text listed written
    rw [presents.recommendations] at line
    exact lost_item (inTexts fun other inside => by
      simp [ReportResult.texts, ReportResult.sectionTexts, inside]) result.hasRecommendations listed
      unshadowed bracket line
  · have unshadowed := stands.evidence (List.ne_nil_of_mem listed)
    have presents := presents_of_unshadowed result.hasEvidence
      (isEmpty_list (List.ne_nil_of_mem listed)) unshadowed
    have line := shows.evidence text listed written
    rw [presents.evidence] at line
    exact lost_item (inTexts fun other inside => by
      simp [ReportResult.texts, ReportResult.sectionTexts, inside]) result.hasEvidence listed
      unshadowed bracket line
  · have unshadowed := stands.nextChecks (List.ne_nil_of_mem listed)
    have presents := presents_of_unshadowed result.hasNextChecks
      (isEmpty_list (List.ne_nil_of_mem listed)) unshadowed
    have line := shows.nextChecks text listed written
    rw [presents.nextChecks] at line
    exact lost_item (inTexts fun other inside => by
      simp [ReportResult.texts, ReportResult.sectionTexts, inside]) result.hasNextChecks listed
      unshadowed bracket line

end Shown

def sampleResult (rootCause : String) : ReportResult where
  entries :=
    [("summary", .str " Full "), ("root_cause", .str rootCause),
      ("impact", .str "None"), ("recommendations", .list [.str "Trim  logs"]),
      ("evidence", .list [.str "df -h"]), ("next_checks", .list [])]
  distinct := by simp [PyDict.Distinct]
  summary := " Full "
  rootCause := rootCause
  impact := "None"
  recommendations := ["Trim  logs"]
  evidence := ["df -h"]
  nextChecks := []
  hasSummary := rfl
  hasRootCause := rfl
  hasImpact := rfl
  hasRecommendations := rfl
  hasEvidence := rfl
  hasNextChecks := rfl

/-- No text of the samples is JSON; what is repaired becomes the list of its tag. -/
def sampleEnv : ReportEnv where
  toPythonRuntime := .plain
  loads _ := none
  repairJson _ := some (.list [.str "WARN"])
  dumps _ := ""

theorem sampleResult_said :
    (said sampleEnv (sampleResult "Old logs").entries).map
        (fun entry => (entry.1, isStructured entry.2)) =
      [("summary", false), ("root_cause", false), ("impact", false), ("recommendations", true),
        ("evidence", true)] := by
  decide +kernel

theorem sampleResult_unshadowed {before : List String} {own : String} {value : Json}
    (apart : ∀ entry ∈ [("summary", false), ("root_cause", false), ("impact", false),
        ("recommendations", true), ("evidence", true)],
      keyId sampleEnv entry.1 ∉ before.map (keyId sampleEnv) ∧
        (keyId sampleEnv entry.1 = keyId sampleEnv own → entry.1 = own) ∧
        (entry.1 = own → (entry.2 && !isStructured value) = false)) :
    Unshadowed sampleEnv (sampleResult "Old logs").entries before own value := by
  rw [← sampleResult_said] at apart
  have each := List.forall_mem_map.1 apart
  exact ⟨fun entry member => (each entry member).1,
    fun entry member same => Or.inl ((each entry member).2.1 same),
    fun entry member => (each entry member).2.2⟩

end ReportTexts

end WebhookWise
