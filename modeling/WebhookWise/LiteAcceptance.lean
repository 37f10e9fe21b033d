import WebhookWise.LiteIntake

/-!
# Which alerts Lite stores with their decision

Texts without unpaired surrogates go through every statement, so a call on such a payload commits
one event and one decision for it.  A surrogate in the source, in the payload or in what the
language model answers is refused by a statement, or by the digest before it.
-/

namespace WebhookWise

open SurrogateTexts RenderedJson PythonTexts LiteNormalize

namespace LiteIntake

open LitePipeline (LiteRule LiteSilence Outcome SkipCode)

/-! ## Runs -/

/-- The call on what was committed before it. -/
def run {Value : Type} (action : Intake Value) (before : List Write) :
    Except UnicodeEncodeError Value × List Write :=
  (ExceptT.run action).run before

/-- The call commits the writes and ends with the value. -/
def Returns {Value : Type} (action : Intake Value) (value : Value) (writes : List Write) : Prop :=
  ∀ before, run action before = (.ok value, before ++ writes)

/-- The call ends with an exception. -/
def Raises {Value : Type} (action : Intake Value) : Prop :=
  ∀ before, ∃ failure after, run action before = (.error failure, after)

section

variable {Value Next : Type}

theorem run_bind (action : Intake Value) (next : Value → Intake Next) (before : List Write) :
    run (action >>= next) before =
      match run action before with
      | (.ok value, after) => run (next value) after
      | (.error failure, after) => (.error failure, after) := by
  change ExceptT.bindCont next (run action before).1 (run action before).2 = _
  obtain ⟨result, after⟩ := run action before
  cases result <;> rfl

theorem returns_pure (value : Value) : Returns (pure value) value [] := by
  intro before
  rw [List.append_nil]
  rfl

theorem Returns.bind {action : Intake Value} {next : Value → Intake Next} {value : Value}
    {result : Next} {writes more : List Write} (returns : Returns action value writes)
    (returnsNext : Returns (next value) result more) :
    Returns (action >>= next) result (writes ++ more) := by
  intro before
  rw [run_bind, returns before]
  change run (next value) (before ++ writes) = _
  rw [returnsNext, List.append_assoc]

theorem Raises.bind {action : Intake Value} (raises : Raises action)
    (next : Value → Intake Next) : Raises (action >>= next) := by
  intro before
  obtain ⟨failure, after, isRun⟩ := raises before
  exact ⟨failure, after, by rw [run_bind, isRun]⟩

theorem Raises.of_next (action : Intake Value) {next : Value → Intake Next}
    (raises : ∀ value, Raises (next value)) : Raises (action >>= next) := by
  intro before
  rw [run_bind]
  obtain ⟨result, after⟩ := run action before
  cases result with
  | error failure => exact ⟨failure, after, rfl⟩
  | ok value => exact raises value after

end

/-! ## Statements -/

variable {event : LiteEvent} {steps : List PyJson} {analysis : Option Analysis} {text : PyText}

theorem exists_encoded (encodable : text.IsEncodable) : ∃ bytes, encoded text = .ok bytes := by
  obtain ⟨bytes, isBytes⟩ := Option.isSome_iff_exists.1 (PyText.encode_isSome_iff.2 encodable)
  exact ⟨bytes, encoded_eq_ok_iff.2 isBytes⟩

theorem encoded_eq_error (notEncodable : ¬ text.IsEncodable) : encoded text = .error ⟨text⟩ := by
  rw [encoded, PyText.encode_eq_none_iff.2 notEncodable]

theorem bound_returns (encodable : text.IsEncodable) :
    ∃ bytes, text.encode = some bytes ∧ Returns (bound text) bytes [] := by
  obtain ⟨bytes, isBytes⟩ := exists_encoded encodable
  refine ⟨bytes, encoded_eq_ok_iff.1 isBytes, fun before => ?_⟩
  rw [bound, isBytes, List.append_nil]
  rfl

theorem bound_raises (notEncodable : ¬ text.IsEncodable) : Raises (bound text) := by
  intro before
  rw [bound, encoded_eq_error notEncodable]
  exact ⟨_, _, rfl⟩

theorem commit_returns (write : Write) : Returns (commit write) () [write] :=
  fun _ => rfl

/-- The texts of an event which are bound to statements have no surrogates. -/
structure EventEncodable (event : LiteEvent) : Prop where
  source : event.source.IsEncodable
  title : event.title.IsEncodable
  body : event.body.IsEncodable
  raw : IsEncodable event.raw

/-- The row holds what the event holds. -/
structure Stores (row : EventRow) (event : LiteEvent) : Prop where
  source : event.source.encode = some row.source
  title : event.title.encode = some row.title
  body : event.body.encode = some row.body
  alertHash : row.alertHash = event.alertHash
  raw : (render event.raw).encode = some row.raw

structure AnalysisEncodable (analysis : Analysis) : Prop where
  summary : analysis.summary.IsEncodable
  degraded : ∀ text ∈ analysis.degraded, text.IsEncodable

section

variable (answers : StoreAnswers) (now : DateTime)

theorem persist_returns (encodable : EventEncodable event)
    (summaries : ∀ found ∈ analysis, found.summary.IsEncodable) :
    ∃ row, row.id = answers.eventId ∧ Stores row event ∧
      Returns (persist answers now event analysis) answers.eventId [.event row] := by
  obtain ⟨source, sourceBytes, isSource⟩ := bound_returns encodable.source
  obtain ⟨title, titleBytes, isTitle⟩ := bound_returns encodable.title
  obtain ⟨body, bodyBytes, isBody⟩ := bound_returns encodable.body
  obtain ⟨raw, rawBytes, isRaw⟩ := bound_returns ((isEncodable_render _).2 encodable.raw)
  have isSummary : ∃ summary,
      Returns (analysis.mapM fun analysis => bound analysis.summary) summary [] := by
    cases analysis with
    | none => exact ⟨none, returns_pure none⟩
    | some found =>
        obtain ⟨summary, -, isSummary⟩ := bound_returns (summaries found rfl)
        exact ⟨some summary, isSummary.bind (returns_pure (some summary))⟩
  obtain ⟨summary, isSummary⟩ := isSummary
  refine ⟨_, ?_, ?_, isSource.bind (isTitle.bind (isBody.bind (isSummary.bind (isRaw.bind
    ((commit_returns _).bind (returns_pure answers.eventId))))))⟩
  · rfl
  · exact ⟨sourceBytes, titleBytes, bodyBytes, rfl, rawBytes⟩

theorem persist_raises
    (refused : ¬ EventEncodable event ∨ ∃ found ∈ analysis, ¬ found.summary.IsEncodable) :
    Raises (persist answers now event analysis) := by
  unfold persist
  by_cases source : event.source.IsEncodable
  swap
  · exact (bound_raises source).bind _
  refine Raises.of_next _ fun _ => ?_
  by_cases title : event.title.IsEncodable
  swap
  · exact (bound_raises title).bind _
  refine Raises.of_next _ fun _ => ?_
  by_cases body : event.body.IsEncodable
  swap
  · exact (bound_raises body).bind _
  refine Raises.of_next _ fun _ => ?_
  rcases refused with notEncodable | ⟨found, rfl, summary⟩
  · refine Raises.of_next _ fun _ => ?_
    refine (bound_raises fun raw => ?_).bind _
    exact notEncodable ⟨source, title, body, (isEncodable_render _).1 raw⟩
  · exact ((bound_raises summary).bind _).bind _

theorem isEncodable_plain (text : String) : IsEncodable (plain text) :=
  isEncodable_str.2 (PyText.isEncodable_ofString text)

theorem isEncodable_names (texts : List String) : IsEncodable (names texts) := by
  rw [names, isEncodable_list_iff]
  intro item member
  obtain ⟨text, -, rfl⟩ := List.mem_map.1 member
  exact isEncodable_plain text

theorem insertDecision_returns (eventId : Nat) (outcome : Outcome) (skipCode : SkipCode)
    (encodable : IsEncodable (.list steps)) (matched : List String) :
    ∃ row, row.eventId = eventId ∧
      Returns (insertDecision now eventId outcome skipCode steps matched) () [.decision row] := by
  obtain ⟨stepText, -, isSteps⟩ := bound_returns ((isEncodable_render _).2 encodable)
  obtain ⟨matchedText, -, isMatched⟩ :=
    bound_returns ((isEncodable_render _).2 (isEncodable_names matched))
  refine ⟨_, ?_, isSteps.bind (isMatched.bind (commit_returns _))⟩
  rfl

theorem insertDecision_raises (eventId : Nat) (outcome : Outcome) (skipCode : SkipCode)
    (notEncodable : ¬ IsEncodable (.list steps)) (matched : List String) :
    Raises (insertDecision now eventId outcome skipCode steps matched) := by
  refine (bound_raises fun encodable => ?_).bind _
  exact notEncodable ((isEncodable_render _).1 encodable)

end

/-! ## What is normalized -/

variable {payload alert : Entries}
variable {source : PyText}

section

variable (runtime : LiteRuntime)

theorem isEncodable_first (encodable : IsEncodable (.dict payload)) (keys : List String) :
    (first payload keys).IsEncodable := by
  unfold first
  cases found : keys.findSome? _ with
  | none => exact PyText.isEncodable_nil
  | some text =>
      obtain ⟨key, -, isText⟩ := List.exists_of_findSome?_eq_some found
      split at isText
      · rename_i value isValue
        split at isText
        · cases isText
        · cases isText
          exact isEncodable_stripText (isEncodable_str.1 (encodable.get? isValue))
      · cases isText

theorem isEncodable_dictOr (encodable : IsEncodable (.dict payload)) (key : String) :
    IsEncodable (.dict (dictOr (PyJson.get? payload key))) := by
  cases found : PyJson.get? payload key with
  | none => exact fun _ member => absurd member List.not_mem_nil
  | some value =>
      cases value with
      | dict entries => exact encodable.get? found
      | _ => exact fun _ member => absurd member List.not_mem_nil

/-- What is parsed of a payload without surrogates has none. -/
structure ParsedEncodable (parsed : Parsed) : Prop where
  title : parsed.title.IsEncodable
  body : parsed.body.IsEncodable
  identity : parsed.identity.IsEncodable

theorem isEncodable_alertTitle (encodable : IsEncodable (.dict alert)) :
    (alertTitle runtime alert).IsEncodable := by
  refine isEncodable_strOfFirst runtime.toTextRuntime (fun value member => ?_) (PyText.isEncodable_ofString _)
  rcases List.mem_cons.1 member with found | member
  · exact (isEncodable_dictOr encodable "annotations").get? found.symm
  · exact (isEncodable_dictOr encodable "labels").get? (List.mem_singleton.1 member).symm

theorem isEncodable_alertBody (encodable : IsEncodable (.dict alert)) (others : Nat) :
    (alertBody runtime alert others).IsEncodable := by
  have body : (strOfFirst runtime.toTextRuntime
      [PyJson.get? (dictOr (PyJson.get? alert "annotations")) "description"]
      (render (.dict (dictOr (PyJson.get? alert "labels"))))).IsEncodable := by
    refine isEncodable_strOfFirst runtime.toTextRuntime (fun value member => ?_)
      ((isEncodable_render _).2 (isEncodable_dictOr encodable "labels"))
    exact (isEncodable_dictOr encodable "annotations").get? (List.mem_singleton.1 member).symm
  unfold alertBody
  dsimp only
  split
  · exact body
  · simp [body, PyText.isEncodable_ofString]

theorem isEncodable_firstAlert {others : Nat} (encodable : IsEncodable (.dict payload))
    (isFirst : firstAlert? payload = some (alert, others)) : IsEncodable (.dict alert) := by
  unfold firstAlert? at isFirst
  split at isFirst
  · rename_i found
    cases isFirst
    exact isEncodable_list_iff.1 (encodable.get? found) _ List.mem_cons_self
  · cases isFirst

theorem alertmanager_encodable (encodable : IsEncodable (.dict payload)) :
    ∀ parsed ∈ alertmanager runtime payload, ParsedEncodable parsed := by
  intro parsed isParsed
  obtain ⟨⟨alert, others⟩, isFirst, rfl⟩ := Option.map_eq_some_iff.1 isParsed
  have isAlert := isEncodable_firstAlert encodable isFirst
  exact
    { title := isEncodable_alertTitle runtime isAlert
      body := isEncodable_alertBody runtime isAlert others
      identity := isEncodable_orText
        ((isEncodable_render _).2 (isEncodable_dictOr isAlert "labels").sortKeys)
        (isEncodable_alertTitle runtime isAlert) }

theorem grafana_encodable (encodable : IsEncodable (.dict payload)) :
    ∀ parsed ∈ grafana payload, ParsedEncodable parsed := by
  intro parsed isParsed
  unfold grafana at isParsed
  split at isParsed
  · cases isParsed
  · cases isParsed
    have title := isEncodable_orText (isEncodable_first encodable ["title", "ruleName"])
      (PyText.isEncodable_ofString "grafana alert")
    exact
      { title := title
        body := isEncodable_first encodable _
        identity := title }

theorem generic_encodable (encodable : IsEncodable (.dict payload)) :
    ParsedEncodable (generic payload) := by
  have title := isEncodable_orText
    (isEncodable_first encodable ["title", "subject", "name", "alertname", "event", "message"])
    (PyText.isEncodable_ofString "webhook event")
  exact
    { title := title
      body := isEncodable_orText (isEncodable_first encodable _)
        (isEncodable_take ((isEncodable_render _).2 encodable) 2000)
      identity := title }

variable {payload : PyJson}

theorem parse_encodable (encodable : IsEncodable (.dict (asDict runtime payload))) :
    ParsedEncodable (parse runtime payload) := by
  unfold parse
  cases isAlertmanager : alertmanager runtime (asDict runtime payload) with
  | some parsed => exact alertmanager_encodable runtime encodable parsed isAlertmanager
  | none =>
      cases isGrafana : grafana (asDict runtime payload) with
      | some parsed => exact grafana_encodable encodable parsed isGrafana
      | none => exact generic_encodable encodable

/-- No string and no key of an object, and no character of a string, is an unpaired surrogate.
What else arrives is printed by `repr`. -/
def PayloadEncodable : PyJson → Prop
  | .dict entries => IsEncodable (.dict entries)
  | .str text => text.IsEncodable
  | _ => True

theorem isEncodable_asDict_iff :
    IsEncodable (.dict (asDict runtime payload)) ↔ PayloadEncodable payload := by
  have wrapped : ∀ text : PyText,
      IsEncodable (.dict [(PyText.ofString "body", .str text)]) ↔ text.IsEncodable := by
    intro text
    simp [isEncodable_dict_iff, isEncodable_str, PyText.isEncodable_ofString]
  cases payload with
  | dict entries => rfl
  | str text => exact wrapped text
  | _ => exact (wrapped _).trans (iff_of_true (isEncodable_pyRepr runtime.toTextRuntime _) trivial)

theorem normalize_returns (isSource : source.IsEncodable) (encodable : PayloadEncodable payload) :
    ∃ event, normalize runtime source payload = .ok event ∧ EventEncodable event := by
  have isDict := (isEncodable_asDict_iff runtime).2 encodable
  have parsed := parse_encodable runtime isDict
  have hashed : (hashedText runtime source payload).IsEncodable := by
    simp [hashedText, hashText, isSource, parsed.identity, PyChar.isScalar_scalar,
      isEncodable_boolText]
  obtain ⟨bytes, isBytes⟩ := exists_encoded hashed
  rw [normalize_eq, isBytes]
  exact ⟨_, rfl,
    { source := isSource
      title := isEncodable_take parsed.title 300
      body := isEncodable_take parsed.body 4000
      raw := isDict }⟩

theorem encodable_of_normalize (isEvent : normalize runtime source payload = .ok event)
    (encodable : EventEncodable event) : source.IsEncodable ∧ PayloadEncodable payload := by
  rw [normalize_eq] at isEvent
  cases isEncoded : encoded (hashedText runtime source payload) with
  | error failure =>
      rw [isEncoded] at isEvent
      cases isEvent
  | ok bytes =>
      rw [isEncoded] at isEvent
      cases isEvent
      exact ⟨encodable.source, (isEncodable_asDict_iff runtime).1 encodable.raw⟩

end

/-! ## What is analysed -/

variable {title : PyText}

section

variable (runtime : IntakeRuntime) (settings : IntakeSettings)

/-- What is kept of the reply of the language model has no surrogate. -/
def ReplyEncodable : LlmReply → Prop
  | .failed report => PyText.IsEncodable (report.take 200)
  | .parsed (.dict answer) =>
      importanceNamed (runtime.lower
          (((PyJson.get? answer "importance").map (pyStr runtime.toTextRuntime)).getD [])) ≠ none →
        PyText.IsEncodable
          ((strOfFirst runtime.toTextRuntime [PyJson.get? answer "summary"] []).take 300)
  | .parsed _ => True

theorem ruleTriage_encodable (isTitle : title.IsEncodable) (body : PyText) :
    AnalysisEncodable (ruleTriage runtime title body) :=
  { summary := isTitle
    degraded := fun _ member => by cases member }

private theorem degraded_encodable_iff (isTitle : title.IsEncodable) (body report : PyText)
    (route : String) :
    AnalysisEncodable
        { ruleTriage runtime title body with route := route, degraded := some report } ↔
      report.IsEncodable := by
  constructor
  · intro encodable
    exact encodable.degraded report rfl
  · intro isReport
    exact ⟨isTitle, fun text member => Option.mem_some_iff.1 member ▸ isReport⟩

private theorem summary_encodable_iff (isTitle : title.IsEncodable) (summary : Option PyJson) :
    PyText.IsEncodable ((strOfFirst runtime.toTextRuntime [summary] title).take 300) ↔
      PyText.IsEncodable ((strOfFirst runtime.toTextRuntime [summary] []).take 300) := by
  unfold strOfFirst
  cases ([summary].filterMap id).find? truthy with
  | none => exact iff_of_true (isEncodable_take isTitle 300) (by simp)
  | some value => exact Iff.rfl

theorem triage_encodable_iff (reply : LlmReply) (isTitle : title.IsEncodable) (body : PyText)
    (resolved : Bool) :
    AnalysisEncodable (triage runtime settings reply title body resolved) ↔
      (resolved = false → settings.openaiApiKey ≠ "" → ReplyEncodable runtime reply) := by
  have fallback := ruleTriage_encodable runtime isTitle body
  unfold triage
  dsimp only
  cases resolved with
  | true => exact iff_of_true ⟨fallback.summary, fallback.degraded⟩ fun impossible => by cases impossible
  | false =>
      rw [if_neg Bool.false_ne_true]
      by_cases keyless : settings.openaiApiKey = ""
      · rw [if_pos keyless]
        exact iff_of_true fallback fun _ keyed => absurd keyless keyed
      · rw [if_neg keyless, imp_iff_right rfl, imp_iff_right keyless]
        cases reply with
        | failed report => exact degraded_encodable_iff runtime isTitle body _ _
        | parsed value =>
            cases value with
            | dict answer =>
                dsimp only [ReplyEncodable]
                cases importanceNamed _ with
                | none =>
                    exact iff_of_true
                      ((degraded_encodable_iff runtime isTitle body _ _).2
                        (PyText.isEncodable_ofString _))
                      fun named => absurd rfl named
                | some importance =>
                    rw [imp_iff_right (Option.some_ne_none importance),
                      ← summary_encodable_iff runtime isTitle]
                    exact ⟨AnalysisEncodable.summary,
                      fun summary => ⟨summary, fun _ member => by cases member⟩⟩
            | _ =>
                exact iff_of_true
                  ((degraded_encodable_iff runtime isTitle body _ _).2
                    (PyText.isEncodable_ofString _))
                  trivial

end

/-! ## What is queued and recorded -/

variable {analysis : Analysis}

theorem isEncodable_object_iff {entries : List (String × PyJson)} :
    IsEncodable (object entries) ↔ ∀ entry ∈ entries, IsEncodable entry.2 := by
  rw [object, isEncodable_dict_iff, List.forall_mem_map]
  simp only [PyText.isEncodable_ofString, true_and]

theorem isEncodable_recorded {step result : String} {detail : List (String × PyJson)}
    (encodable : ∀ entry ∈ detail, IsEncodable entry.2) :
    IsEncodable (recorded step result detail) := by
  rw [recorded, isEncodable_object_iff, List.forall_mem_cons, List.forall_mem_cons]
  exact ⟨isEncodable_plain step, isEncodable_plain result, encodable⟩

theorem isEncodable_number (value : Int) : IsEncodable (.int value) :=
  fun _ member => absurd member List.not_mem_nil

theorem isEncodable_truth (value : Bool) : IsEncodable (.bool value) :=
  fun _ member => absurd member List.not_mem_nil

theorem isEncodable_null : IsEncodable .null :=
  fun _ member => absurd member List.not_mem_nil

theorem isEncodable_append {more : List PyJson} :
    IsEncodable (.list (steps ++ more)) ↔ IsEncodable (.list steps) ∧ IsEncodable (.list more) := by
  rw [isEncodable_list_iff, isEncodable_list_iff, isEncodable_list_iff, List.forall_mem_append]

theorem isEncodable_step {step : PyJson} : IsEncodable (.list [step]) ↔ IsEncodable step := by
  rw [isEncodable_list_iff, List.forall_mem_singleton]

theorem isEncodable_openingSteps (title : event.title.IsEncodable) (correlationId : String) :
    IsEncodable (.list (openingSteps event correlationId)) := by
  rw [openingSteps, isEncodable_append, isEncodable_step]
  constructor
  · split
    · exact fun _ member => absurd member List.not_mem_nil
    · exact isEncodable_step.2 (isEncodable_recorded
        (List.forall_mem_singleton.2 (isEncodable_plain correlationId)))
  · refine isEncodable_recorded ?_
    simp [isEncodable_str, title, isEncodable_plain, isEncodable_truth]

theorem isEncodable_joinLines {lines : List PyText}
    (encodable : ∀ line ∈ lines, line.IsEncodable) : (joinLines lines).IsEncodable := by
  fun_induction joinLines lines with
  | case1 => exact PyText.isEncodable_nil
  | case2 line => exact encodable line List.mem_cons_self
  | case3 line lines _ ih =>
      obtain ⟨isLine, areLines⟩ := List.forall_mem_cons.1 encodable
      simp [isLine, PyChar.isScalar_scalar, ih areLines]

theorem isEncodable_cardLines (isEvent : EventEncodable event)
    (summary : analysis.summary.IsEncodable) :
    ∀ line ∈ cardLines event analysis, line.IsEncodable := by
  have body := isEncodable_stripText isEvent.body
  unfold cardLines
  dsimp only
  intro line member
  rcases List.mem_append.1 member with member | member
  · rcases List.mem_append.1 member with member | member
    · simp only [List.mem_cons, List.not_mem_nil, or_false] at member
      rcases member with rfl | rfl | rfl | rfl | rfl
      · exact PyText.isEncodable_ofString _
      · exact PyText.isEncodable_ofString _
      · exact PyText.isEncodable_append.2 ⟨PyText.isEncodable_ofString _, isEvent.source⟩
      · exact PyText.isEncodable_nil
      · exact isEncodable_orText summary isEvent.title
    · split at member
      · cases member
      · simp only [List.mem_cons, List.not_mem_nil, or_false] at member
        rcases member with rfl | rfl | rfl
        · exact PyText.isEncodable_nil
        · exact PyText.isEncodable_ofString _
        · exact isEncodable_take body 1500
  · split at member
    · simp only [List.mem_cons, List.not_mem_nil, or_false] at member
      rcases member with rfl | rfl
      · exact PyText.isEncodable_nil
      · exact PyText.isEncodable_ofString _
    · cases member

theorem isEncodable_buildPayload (isEvent : EventEncodable event)
    (summary : analysis.summary.IsEncodable) (correlationId kind : String) :
    IsEncodable (buildPayload event analysis correlationId kind) := by
  unfold buildPayload
  split
  · have content := isEncodable_joinLines (isEncodable_cardLines isEvent summary)
    have title : (if event.resolved then PyText.ofString "[RESOLVED] " ++ event.title
        else event.title).IsEncodable := by
      split
      · exact PyText.isEncodable_append.2 ⟨PyText.isEncodable_ofString _, isEvent.title⟩
      · exact isEvent.title
    simp [feishuCard, isEncodable_object_iff, isEncodable_plain, isEncodable_list_iff,
      isEncodable_str, content, isEncodable_take title]
  · simp [isEncodable_object_iff, isEncodable_plain, isEncodable_str, isEvent.source,
      isEvent.title, isEvent.body, summary]

/-! ## The gates -/

/-- The call commits one decision for the event, and no event. -/
def Closes (action : Intake Verdict) (eventId : Nat) : Prop :=
  ∃ verdict writes decision, Returns action verdict writes ∧ writes.filterMap eventOf = [] ∧
    writes.filterMap decisionOf = [decision] ∧ decision.eventId = eventId

/-- One event and one decision for it have been committed. -/
def Decided (event : LiteEvent) (writes : List Write) : Prop :=
  ∃ row decision, writes.filterMap eventOf = [row] ∧ Stores row event ∧
    writes.filterMap decisionOf = [decision] ∧ decision.eventId = row.id

section

variable (runtime : IntakeRuntime) (settings : IntakeSettings) (answers : StoreAnswers)
  (now : DateTime)
variable (eventId : Nat)

theorem decision_closes (outcome : Outcome) (skipCode : SkipCode)
    (encodable : IsEncodable (.list steps)) (matched : List String) (verdict : Verdict) :
    Closes (do insertDecision now eventId outcome skipCode steps matched; return verdict)
      eventId := by
  obtain ⟨row, isRow, returns⟩ :=
    insertDecision_returns now eventId outcome skipCode encodable matched
  exact ⟨verdict, _, row, returns.bind (returns_pure verdict), rfl, rfl, isRow⟩

theorem enqueueDelivery_returns (rule : LiteRule) {payload : PyJson}
    (encodable : IsEncodable payload) :
    ∃ row, Returns (enqueueDelivery now eventId rule payload) () [.outbox row] := by
  obtain ⟨text, -, isText⟩ := bound_returns ((isEncodable_render _).2 encodable)
  exact ⟨_, isText.bind (commit_returns _)⟩

theorem enqueueAll_returns (isEvent : EventEncodable event) (summary : analysis.summary.IsEncodable)
    (correlationId : String) (eventId : Nat) (rules : List LiteRule) :
    ∃ rows : List OutboxRow, Returns (enqueueAll now event analysis correlationId eventId rules) ()
      (rows.map Write.outbox) := by
  induction rules with
  | nil => exact ⟨[], returns_pure ()⟩
  | cons rule rules ih =>
      obtain ⟨row, isRow⟩ := enqueueDelivery_returns now eventId rule
        (isEncodable_buildPayload isEvent summary correlationId rule.targetKind)
      obtain ⟨rows, areRows⟩ := ih
      exact ⟨row :: rows, isRow.bind areRows⟩

theorem deliver_closes (isEvent : EventEncodable event) (summary : analysis.summary.IsEncodable)
    (correlationId : String) (encodable : IsEncodable (.list steps)) (eventId : Nat)
    (due : List LiteRule) (cooled : List String) :
    Closes (deliver settings now event correlationId analysis steps eventId due cooled)
      eventId := by
  unfold deliver
  split
  · refine decision_closes now eventId .skipped .cooldown ?_ _ _
    rw [isEncodable_append, isEncodable_step]
    exact ⟨encodable, isEncodable_recorded (List.forall_mem_singleton.2 (isEncodable_names cooled))⟩
  · obtain ⟨rows, areRows⟩ := enqueueAll_returns now isEvent summary correlationId eventId due
    have held : IsEncodable (if cooled.isEmpty then PyJson.null else names cooled) := by
      split
      · exact isEncodable_null
      · exact isEncodable_names cooled
    have isSteps : IsEncodable (.list (steps ++
        [recorded "cooldown" "pass"
          [("seconds", .int settings.cooldownSeconds),
            ("cooled", if cooled.isEmpty then .null else names cooled)]] ++
        [recorded "forward" "enqueued" [("count", .int due.length)]])) := by
      rw [isEncodable_append, isEncodable_append, isEncodable_step, isEncodable_step]
      refine ⟨⟨encodable, isEncodable_recorded ?_⟩, isEncodable_recorded ?_⟩
      · exact List.forall_mem_cons.2 ⟨isEncodable_number _, List.forall_mem_singleton.2 held⟩
      · exact List.forall_mem_singleton.2 (isEncodable_number _)
    obtain ⟨verdict, writes, decision, returns, noEvents, decisions, isDecision⟩ :=
      decision_closes now eventId .forwarded .none isSteps (due.map LiteRule.name)
        ⟨eventId, .forwarded, .none, some (due.map LiteRule.name)⟩
    refine ⟨verdict, _, decision, areRows.bind returns, ?_, ?_, isDecision⟩
    · rw [List.filterMap_append, noEvents, List.filterMap_map, List.append_nil]
      exact List.filterMap_eq_nil_iff.2 fun _ _ => rfl
    · have noDecisions : (rows.map Write.outbox).filterMap decisionOf = [] := by
        rw [List.filterMap_map]
        exact List.filterMap_eq_nil_iff.2 fun _ _ => rfl
      rw [List.filterMap_append, decisions, noDecisions, List.nil_append]

theorem route_closes (isEvent : EventEncodable event) (summary : analysis.summary.IsEncodable)
    (correlationId : String) (encodable : IsEncodable (.list steps)) (eventId : Nat) :
    Closes (route runtime settings answers now event correlationId analysis steps eventId)
      eventId := by
  unfold route
  obtain ⟨matched, stoppedBy⟩ := matchRules runtime event.source analysis.importance answers.activeRules
  dsimp only
  split
  · refine decision_closes now eventId .skipped .noMatch ?_ _ _
    rw [isEncodable_append, isEncodable_step]
    exact ⟨encodable, isEncodable_recorded fun _ member => absurd member List.not_mem_nil⟩
  · refine deliver_closes settings now isEvent summary correlationId ?_ eventId _ _
    have stopped : IsEncodable ((stoppedBy.map plain).getD .null) := by
      cases stoppedBy with
      | none => exact isEncodable_null
      | some name => exact isEncodable_plain name
    rw [isEncodable_append, isEncodable_step]
    refine ⟨encodable, isEncodable_recorded ?_⟩
    exact List.forall_mem_cons.2 ⟨isEncodable_names _, List.forall_mem_singleton.2 stopped⟩

theorem decided_of_closes (isEvent : EventEncodable event) {analysis : Option Analysis}
    (summaries : ∀ found ∈ analysis, found.summary.IsEncodable) {next : Nat → Intake Verdict}
    (closes : Closes (next answers.eventId) answers.eventId) :
    ∃ verdict writes, Returns (persist answers now event analysis >>= next) verdict writes ∧
      Decided event writes := by
  obtain ⟨row, isRow, stores, returns⟩ := persist_returns answers now isEvent summaries
  obtain ⟨verdict, writes, decision, returnsNext, noEvents, decisions, isDecision⟩ := closes
  refine ⟨verdict, _, returns.bind returnsNext, row, decision, ?_, stores, ?_, ?_⟩
  · rw [List.filterMap_append, noEvents]
    rfl
  · rw [List.filterMap_append, decisions]
    rfl
  · rw [isDecision, isRow]

theorem decision_raises (outcome : Outcome) (skipCode : SkipCode)
    (notEncodable : ¬ IsEncodable (.list steps)) (matched : List String) (verdict : Verdict) :
    Raises (do insertDecision now eventId outcome skipCode steps matched; return verdict) :=
  (insertDecision_raises now eventId outcome skipCode notEncodable matched).bind _

theorem route_raises (event : LiteEvent) (correlationId : String) (analysis : Analysis)
    (notEncodable : ¬ IsEncodable (.list steps)) (eventId : Nat) :
    Raises (route runtime settings answers now event correlationId analysis steps eventId) := by
  have grown : ∀ more, ¬ IsEncodable (.list (steps ++ more)) := fun more encodable =>
    notEncodable (isEncodable_append.1 encodable).1
  unfold route
  obtain ⟨matched, stoppedBy⟩ := matchRules runtime event.source analysis.importance
    answers.activeRules
  dsimp only
  split
  · exact decision_raises now eventId .skipped .noMatch (grown _) _ _
  · unfold deliver
    split
    · rw [List.append_assoc]
      exact decision_raises now eventId .skipped .cooldown (grown _) _ _
    · refine Raises.of_next _ fun _ => ?_
      rw [List.append_assoc, List.append_assoc]
      exact decision_raises now eventId .forwarded .none (grown _) _ _

theorem analyse_decides (isEvent : EventEncodable event) (isAnalysis : AnalysisEncodable analysis)
    (correlationId : String) (encodable : IsEncodable (.list steps)) :
    ∃ verdict writes,
      Returns (analyse runtime settings answers now event correlationId analysis steps) verdict
        writes ∧ Decided event writes := by
  refine decided_of_closes answers now isEvent
    (fun found member => Option.mem_some_iff.1 member ▸ isAnalysis.summary) ?_
  refine route_closes runtime settings answers now isEvent isAnalysis.summary correlationId ?_ _
  have degraded : IsEncodable ((analysis.degraded.map PyJson.str).getD .null) := by
    cases isDegraded : analysis.degraded with
    | none => exact isEncodable_null
    | some text => exact isEncodable_str.2 (isAnalysis.degraded text isDegraded)
  rw [isEncodable_append, isEncodable_step]
  refine ⟨encodable, isEncodable_recorded ?_⟩
  exact List.forall_mem_cons.2 ⟨isEncodable_plain _, List.forall_mem_singleton.2 degraded⟩

theorem analyse_raises (event : LiteEvent) (notEncodable : ¬ AnalysisEncodable analysis)
    (correlationId : String) (steps : List PyJson) :
    Raises (analyse runtime settings answers now event correlationId analysis steps) := by
  by_cases summary : analysis.summary.IsEncodable
  · refine Raises.of_next _ fun eventId => ?_
    refine route_raises runtime settings answers now event correlationId analysis ?_ eventId
    intro encodable
    refine notEncodable ⟨summary, fun text isText => ?_⟩
    rw [isEncodable_append, isEncodable_step, recorded, isEncodable_object_iff] at encodable
    have isDegraded := encodable.2 ("degraded", (analysis.degraded.map PyJson.str).getD .null)
      (by simp)
    rw [Option.mem_def.1 isText] at isDegraded
    exact isEncodable_str.1 isDegraded
  · exact (persist_raises answers now (Or.inr ⟨analysis, rfl, summary⟩)).bind _

/-- The language model is asked about an alert that no gate before the analysis has stopped,
unless it is resolved. -/
def Consults (event : LiteEvent) : Prop :=
  answers.recentDuplicate event.alertHash = none ∧ silencedBy runtime answers event = none ∧
    event.resolved = false ∧ settings.openaiApiKey ≠ ""

theorem walk_decides (reply : LlmReply) (isEvent : EventEncodable event)
    (isReply : Consults runtime settings answers event → ReplyEncodable runtime reply)
    (correlationId : String) :
    ∃ verdict writes,
      Returns (walk runtime settings answers now reply event correlationId) verdict writes ∧
        Decided event writes := by
  have opening := isEncodable_openingSteps isEvent.title correlationId
  have skipped : ∀ {steps : List PyJson} (skipCode : SkipCode), IsEncodable (.list steps) →
      ∃ verdict writes, Returns (skipEarly answers now event steps skipCode) verdict writes ∧
        Decided event writes := by
    intro steps skipCode encodable
    refine decided_of_closes answers now isEvent (fun found member => by cases member) ?_
    exact decision_closes now answers.eventId .skipped skipCode encodable [] _
  unfold walk
  cases isDuplicate : answers.recentDuplicate event.alertHash with
  | some duplicate =>
      obtain ⟨id, receivedAt⟩ := duplicate
      refine skipped .duplicate ?_
      rw [isEncodable_append, isEncodable_step]
      refine ⟨opening, isEncodable_recorded ?_⟩
      exact List.forall_mem_cons.2
        ⟨isEncodable_number _, List.forall_mem_singleton.2 (isEncodable_number _)⟩
  | none =>
      have passed : IsEncodable (.list (openingSteps event correlationId ++
          [recorded "dedup" "pass" [("window_seconds", .int settings.dedupWindowSeconds)]])) := by
        rw [isEncodable_append, isEncodable_step]
        exact ⟨opening,
          isEncodable_recorded (List.forall_mem_singleton.2 (isEncodable_number _))⟩
      dsimp only
      cases isSilenced : silencedBy runtime answers event with
      | some silence =>
          refine skipped .silenced ?_
          rw [isEncodable_append, isEncodable_step]
          refine ⟨passed, isEncodable_recorded ?_⟩
          exact List.forall_mem_cons.2
            ⟨isEncodable_number _, List.forall_mem_singleton.2 (isEncodable_plain _)⟩
      | none =>
          refine analyse_decides runtime settings answers now isEvent ?_ correlationId ?_
          · refine (triage_encodable_iff runtime settings reply isEvent.title _ _).2 ?_
            intro notResolved keyed
            exact isReply ⟨isDuplicate, isSilenced, notResolved, keyed⟩
          · rw [isEncodable_append, isEncodable_step]
            exact ⟨passed, isEncodable_recorded fun _ member => absurd member List.not_mem_nil⟩

theorem walk_raises_of_event (reply : LlmReply) (notEncodable : ¬ EventEncodable event)
    (correlationId : String) :
    Raises (walk runtime settings answers now reply event correlationId) := by
  have refuses : ∀ analysis, Raises (persist answers now event analysis) := fun analysis =>
    persist_raises answers now (Or.inl notEncodable)
  unfold walk
  cases answers.recentDuplicate event.alertHash with
  | some duplicate => exact (refuses none).bind _
  | none =>
      dsimp only
      cases silencedBy runtime answers event with
      | some silence => exact (refuses none).bind _
      | none => exact (refuses (some _)).bind _

theorem walk_raises_of_reply {reply : LlmReply} (title : event.title.IsEncodable)
    (consults : Consults runtime settings answers event) (notReply : ¬ ReplyEncodable runtime reply)
    (correlationId : String) :
    Raises (walk runtime settings answers now reply event correlationId) := by
  obtain ⟨notDuplicate, notSilenced, notResolved, keyed⟩ := consults
  unfold walk
  rw [notDuplicate]
  dsimp only
  rw [notSilenced]
  refine analyse_raises runtime settings answers now event ?_ correlationId _
  rw [triage_encodable_iff runtime settings reply title]
  exact fun isReply => notReply (isReply notResolved keyed)

/-! ## Acceptance -/

/-- `normalize` returns an event, and the call stores it and one decision for it. -/
def Accepts (reply : LlmReply) (source : PyText) (payload : PyJson) (correlationId : String) :
    Prop :=
  ∃ event verdict writes, normalize runtime.toLiteRuntime source payload = .ok event ∧
    run (process runtime settings answers now reply source payload correlationId) [] =
      (.ok verdict, writes) ∧ Decided event writes

theorem process_eq_of_normalize {payload : PyJson}
    (isEvent : normalize runtime.toLiteRuntime source payload = .ok event) (reply : LlmReply)
    (correlationId : String) :
    process runtime settings answers now reply source payload correlationId =
      walk runtime settings answers now reply event correlationId := by
  rw [process, isEvent]
  rfl

/-- An alert is accepted just when its source, its payload and what the language model answers
about it have no unpaired surrogate. -/
theorem accepts_iff (reply : LlmReply) (source : PyText) (payload : PyJson)
    (correlationId : String) :
    Accepts runtime settings answers now reply source payload correlationId ↔
      source.IsEncodable ∧ PayloadEncodable payload ∧
        ∀ event, normalize runtime.toLiteRuntime source payload = .ok event →
          Consults runtime settings answers event → ReplyEncodable runtime reply := by
  constructor
  · rintro ⟨event, verdict, writes, isEvent, isRun, -⟩
    rw [process_eq_of_normalize runtime settings answers now isEvent] at isRun
    have notRaises : ¬ Raises (walk runtime settings answers now reply event correlationId) := by
      intro raises
      obtain ⟨failure, after, isFailure⟩ := raises []
      rw [isFailure] at isRun
      cases congrArg Prod.fst isRun
    have isEncodable : EventEncodable event := by
      by_contra notEncodable
      exact notRaises (walk_raises_of_event runtime settings answers now reply notEncodable
        correlationId)
    obtain ⟨isSource, isPayload⟩ := encodable_of_normalize runtime.toLiteRuntime isEvent isEncodable
    refine ⟨isSource, isPayload, fun other isOther consults => ?_⟩
    cases isEvent.symm.trans isOther
    by_contra notReply
    exact notRaises (walk_raises_of_reply runtime settings answers now isEncodable.title consults
      notReply correlationId)
  · rintro ⟨isSource, isPayload, isReply⟩
    obtain ⟨event, isEvent, encodable⟩ := normalize_returns runtime.toLiteRuntime isSource isPayload
    obtain ⟨verdict, writes, returns, decided⟩ := walk_decides runtime settings answers now reply
      encodable (isReply event isEvent) correlationId
    refine ⟨event, verdict, writes, isEvent, ?_, decided⟩
    rw [process_eq_of_normalize runtime settings answers now isEvent, returns [], List.nil_append]

end

def asciiRuntime : IntakeRuntime where
  toLiteRuntime := .ascii []
  isWord
    | .scalar character => character.isAlphanum || character = '_'
    | .surrogate _ => false

def emptyStore : StoreAnswers where
  recentDuplicate _ := none
  activeSilences := []
  activeRules := []
  lastForwardAt _ _ := none
  eventId := 1

def keyless : IntakeSettings where
  dedupWindowSeconds := 300
  cooldownSeconds := 1800
  openaiApiKey := ""

/-- What `json.loads` reads from `{"title": "\ud800"}`. -/
def surrogatePayload : PyJson :=
  .dict [(PyText.ofString "title", .str [.surrogate 0])]

/-- An alert with an unpaired surrogate in its title leaves no trace. -/
theorem process_surrogatePayload :
    ∃ failure, run (process asciiRuntime keyless emptyStore 0 (.parsed .null)
        (PyText.ofString "grafana") surrogatePayload "") [] = (.error failure, []) ∧
      ¬ Accepts asciiRuntime keyless emptyStore 0 (.parsed .null) (PyText.ofString "grafana")
        surrogatePayload "" := by
  refine ⟨_, rfl, ?_⟩
  rintro ⟨event, verdict, writes, -, isRun, -⟩
  cases congrArg Prod.fst isRun

end LiteIntake

end WebhookWise
