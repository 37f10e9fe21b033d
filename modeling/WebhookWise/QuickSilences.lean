import WebhookWise.CardActions
import WebhookWise.ForwardDecisions
import WebhookWise.IncidentIdentity

/-!
# The silence made from the card of an incident

The button on a card silences the source, project and environment of the incident, gathered from its
members.  The matcher compares them with what it reads of each alert by itself, under other names
and in other spellings, and takes a comma for the end of an item.
-/

namespace WebhookWise

namespace QuickSilences

open IncidentGrouping RuleMatching ForwardDecisions

/-! ## The silence -/

/-- The row of an incident as the card action reads it: what the grouping task does not
write is as in another row. -/
def cardIncident (other : CardActions.CardIncident) (incident : Incident) :
    CardActions.CardIncident :=
  { other with
    id := incident.id
    source := incident.source
    correlationDimensions :=
      incident.correlationDimensions.map fun entry => (entry.1, Json.str entry.2) }

def silenceSnapshot? : CardActions.CardEffect → Option SilenceSnapshot
  | .silence id source project environment _ _ _ =>
      some
        { id := some id
          matchSource := source
          matchProject := project
          matchEnvironment := environment }
  | _ => none

/-- The silences that the action `silence_2h` creates. -/
def quickSilences (settings : CardActions.CardSettings) (moment : CardActions.Moment)
    (operator : String) (incident : CardActions.CardIncident) : List SilenceSnapshot :=
  match CardActions.applyIncidentAction settings moment operator incident .silence with
  | .ok outcome => outcome.effects.filterMap silenceSnapshot?
  | .error _ => []

variable (runtime : MatchRuntime)

def factsOf (alert : WebhookEvent) (eventType importance : String) (isDuplicate : Bool) :
    AlertFacts where
  eventType := eventType
  importance := importance
  source := alert.source
  isDuplicate := isDuplicate
  parsedData := some (entriesOf alert.parsedData)

/-- Each of the silences matches every alert, whatever its type and importance. -/
def SilencesAll (silences : List SilenceSnapshot) (alerts : List WebhookEvent) : Prop :=
  ∀ silence ∈ silences, ∀ alert ∈ alerts, ∀ eventType importance isDuplicate,
    matchActiveSilence runtime [silence] (factsOf alert eventType importance isDuplicate) =
      some silence

/-! ## What an incident gathers -/

variable (python : PythonRuntime) {incident : Incident}

/-- The source of an incident with members of these sources, in the order they joined.  An
empty source is never replaced. -/
def mergedSource : List String → String
  | [] => ""
  | first :: rest =>
      if first = "" ∨ ∀ source ∈ rest, source = first then first else "multiple"

def firstDimension (key : String) (alerts : List WebhookEvent) : Option String :=
  alerts.findSome? fun alert => (correlationDimensions python alert).get? key

/-- An incident has the merged source of its members and their first dimensions. -/
structure Gathered (python : PythonRuntime) (incident : Incident) (alerts : List WebhookEvent) :
    Prop where
  nonempty : alerts ≠ []
  source : incident.source = some (mergedSource (alerts.map WebhookEvent.source))
  dimensions : ∀ key,
    incident.correlationDimensions.get? key = firstDimension python key alerts

theorem mergedSource_of_same {first : String} {rest : List String}
    (same : first = "" ∨ ∀ source ∈ rest, source = first) : mergedSource (first :: rest) = first :=
  if_pos same

theorem mergedSource_of_not_same {first : String} {rest : List String}
    (different : ¬ (first = "" ∨ ∀ source ∈ rest, source = first)) :
    mergedSource (first :: rest) = "multiple" :=
  if_neg different

theorem mergedSource_append {sources : List String} (nonempty : sources ≠ []) (source : String) :
    mergedSource (sources ++ [source]) =
      if mergedSource sources ≠ "" ∧ mergedSource sources ≠ source then "multiple"
      else mergedSource sources := by
  obtain ⟨first, rest, rfl⟩ := List.exists_cons_of_ne_nil nonempty
  rw [List.cons_append]
  by_cases same : first = "" ∨ ∀ other ∈ rest, other = first
  · rw [mergedSource_of_same same]
    by_cases joins : first = "" ∨ first = source
    · have still : first = "" ∨ ∀ other ∈ rest ++ [source], other = first := by
        rcases joins with blank | rfl
        · exact Or.inl blank
        · simpa [or_imp, forall_and] using same
      rw [mergedSource_of_same still, if_neg (by tauto)]
    · have different : ¬ (first = "" ∨ ∀ other ∈ rest ++ [source], other = first) := by
        rintro (blank | all)
        · exact joins (Or.inl blank)
        · exact joins (Or.inr (all source (by simp)).symm)
      rw [mergedSource_of_not_same different, if_pos (by tauto)]
  · have different : ¬ (first = "" ∨ ∀ other ∈ rest ++ [source], other = first) := by
      rintro (blank | all)
      · exact same (Or.inl blank)
      · exact same (Or.inr fun other member => all other (List.mem_append_left _ member))
    rw [mergedSource_of_not_same same, mergedSource_of_not_same different]
    simp

theorem firstDimension_append (key : String) (alerts : List WebhookEvent) (event : WebhookEvent) :
    firstDimension python key (alerts ++ [event]) =
      (firstDimension python key alerts).or ((correlationDimensions python event).get? key) := by
  simp [firstDimension, List.findSome?_append]

theorem withMember_gathers (settings : GroupingSettings) (armedAt : DateTime) (event : WebhookEvent)
    (incident : Incident) :
    (withMember python settings armedAt event incident).source =
        (if incident.source.getD "" ≠ "" ∧ incident.source ≠ some event.source
          then some "multiple" else incident.source) ∧
      (withMember python settings armedAt event incident).correlationDimensions =
        mergeDimensions incident.correlationDimensions (correlationDimensions python event) := by
  unfold withMember
  obtain ⟨slaDueAt, armed⟩ := applyAutoSla_eq python settings.autoSlaMinutes armedAt _
  rw [armed]
  exact ⟨rfl, rfl⟩

variable {python : PythonRuntime}

theorem Gathered.congr {other : Incident} {alerts : List WebhookEvent}
    (gathered : Gathered python incident alerts) (source : other.source = incident.source)
    (dimensions : other.correlationDimensions = incident.correlationDimensions) :
    Gathered python other alerts := by
  refine ⟨gathered.nonempty, ?_, ?_⟩
  · rw [source]
    exact gathered.source
  · rw [dimensions]
    exact gathered.dimensions

theorem Gathered.withMember {settings : GroupingSettings} {armedAt : DateTime}
    {alerts : List WebhookEvent} (event : WebhookEvent)
    (gathered : Gathered python incident alerts) :
    Gathered python (withMember python settings armedAt event incident) (alerts ++ [event]) := by
  obtain ⟨source, dimensions⟩ := withMember_gathers python settings armedAt event incident
  constructor
  · simp
  · rw [source, gathered.source, List.map_append, List.map_singleton,
      mergedSource_append (by simpa using gathered.nonempty)]
    simp only [Option.getD_some, ne_eq, Option.some.injEq]
    split <;> rfl
  · intro key
    rw [dimensions, get?_mergeDimensions, gathered.dimensions, firstDimension_append]

theorem gathered_opened (settings : GroupingSettings) (armedAt : DateTime) (event : WebhookEvent)
    (id : Nat) :
    Gathered python
      (IncidentGrouping.withMember python settings armedAt event
        (createIncidentFromEvent python event id)) [event] := by
  obtain ⟨source, dimensions⟩ :=
    withMember_gathers python settings armedAt event (createIncidentFromEvent python event id)
  constructor
  · simp
  · rw [source]
    simp [createIncidentFromEvent, mergedSource]
  · intro key
    rw [dimensions, get?_mergeDimensions]
    simp [createIncidentFromEvent, firstDimension]

theorem gathered_invariant :
    IncidentInvariant python (Gathered python) (fun _ _ => True) fun _ _ => True where
  opened settings armedAt event id := gathered_opened settings armedAt event id
  joined _ _ _ _ event gathered _ _ _ := gathered.withMember event
  resolved _ _ _ gathered := gathered.congr rfl rfl
  stamped _ _ _ gathered _ := gathered.congr rfl rfl
  quieted _ _ _ gathered := gathered.congr rfl rfl
  escalated _ _ _ gathered := gathered.congr rfl rfl

def incidentsAfter (python : PythonRuntime) (events : List GroupingEvent) : List Incident :=
  (GuardedRuns.run (step python) GroupingDatabase.empty events).incidents.rows

def membersAfter (python : PythonRuntime) (events : List GroupingEvent) (incident : Incident) :
    List WebhookEvent :=
  let database := GuardedRuns.run (step python) GroupingDatabase.empty events
  memberAlerts database.alerts database.members incident.id

theorem gathered_of_run (events : List GroupingEvent)
    (member : incident ∈ incidentsAfter python events) :
    Gathered python incident (membersAfter python events incident) := by
  have admitted : GuardedRuns.Along (step python)
      (StepAdmitted python (fun _ _ => True) fun _ _ => True) GroupingDatabase.empty events := by
    apply GuardedRuns.along_of_always
    rintro database (alert | input)
    · trivial
    · constructor
      · exact GuardedRuns.along_of_always fun _ _ =>
          ⟨fun _ _ => trivial, fun _ _ _ _ => trivial⟩
      · exact fun _ _ _ => trivial
      · exact fun _ _ _ => trivial
  exact (gathered_invariant.along admitted).holds incident member

/-! ## What the silence matches -/

variable {runtime}

theorem quickSilences_eq (settings : CardActions.CardSettings) (moment : CardActions.Moment)
    (operator : String) (incident : CardActions.CardIncident) :
    quickSilences settings moment operator incident =
      if strip (incident.source.getD "") = "" ∧
          CardActions.silenceDimension incident "project" = "" ∧
            CardActions.silenceDimension incident "environment" = "" then []
      else
        [{ id := some moment.silenceId
           matchSource := strip (incident.source.getD "")
           matchProject := CardActions.silenceDimension incident "project"
           matchEnvironment := CardActions.silenceDimension incident "environment" }] := by
  split
  · rename_i blank
    have outcome : CardActions.applyIncidentAction settings moment operator incident .silence =
        .ok ⟨incident, [], _, false⟩ := congrArg Except.ok (if_pos blank)
    rw [quickSilences, outcome]
    rfl
  · rename_i some
    have outcome : CardActions.applyIncidentAction settings moment operator incident .silence =
        .ok ⟨incident, [.silence moment.silenceId _ _ _ _ operator _], _, true⟩ :=
      congrArg Except.ok (if_neg some)
    rw [quickSilences, outcome]
    rfl

theorem silenceDimension_cardIncident (other : CardActions.CardIncident) (incident : Incident)
    (key : String) :
    CardActions.silenceDimension (cardIncident other incident) key =
      strip ((incident.correlationDimensions.get? key).getD "") := by
  have found : (cardIncident other incident).correlationDimensions.get? key =
      (incident.correlationDimensions.get? key).map Json.str := by
    simp only [cardIncident, PyDict.get?, List.find?_map, Option.map_map]
    rfl
  unfold CardActions.silenceDimension
  rw [found]
  cases incident.correlationDimensions.get? key with
  | none => decide
  | some value => rfl

/-- The three fields that a quick silence compares. -/
def Covers (runtime : MatchRuntime) (source project environment : String) (alert : WebhookEvent) :
    Prop :=
  listCovers runtime source (runtime.lower alert.source) = true ∧
    csvValueMatches runtime project
      (extractForwardMatchFields runtime (some (entriesOf alert.parsedData))).project = true ∧
    csvEnvironmentMatches runtime environment
      (extractForwardMatchFields runtime (some (entriesOf alert.parsedData))).environment = true

theorem matchActiveSilence_iff (id : Nat) (source project environment : String)
    (alert : WebhookEvent) (eventType importance : String) (isDuplicate : Bool) :
    matchActiveSilence runtime
        [{ id := some id
           matchSource := source
           matchProject := project
           matchEnvironment := environment }]
        (factsOf alert eventType importance isDuplicate) =
      some
        { id := some id
          matchSource := source
          matchProject := project
          matchEnvironment := environment } ↔
      Covers runtime source project environment alert := by
  have anyone : duplicateCovers "all" isDuplicate = true := by
    cases isDuplicate <;> decide
  have anyText (value : String) : listCovers runtime "" value = true := rfl
  have anyRegion (value : String) : csvValueMatches runtime "" value = true := rfl
  have anyPayload (payload : JsonObject) : payloadMatches runtime "" payload = true := rfl
  simp [matchActiveSilence, firstMatchingSilence, ruleMatches, probe, factsOf, anyone, anyText,
    anyRegion, anyPayload, Covers, and_assoc]

theorem silencesAll_iff (id : Nat) (source project environment : String)
    (alerts : List WebhookEvent) :
    SilencesAll runtime
        (if source = "" ∧ project = "" ∧ environment = "" then []
        else
          [{ id := some id
             matchSource := source
             matchProject := project
             matchEnvironment := environment }]) alerts ↔
      ∀ alert ∈ alerts, Covers runtime source project environment alert := by
  split
  · rename_i blank
    obtain ⟨rfl, rfl, rfl⟩ := blank
    simp [SilencesAll, Covers, listCovers, csvValueMatches, csvEnvironmentMatches]
  · simp only [SilencesAll, List.mem_singleton, forall_eq, matchActiveSilence_iff]
    simp

/-! ## When the members are silenced -/

/-- The merged source names every source: it is empty; or there is one source, which is
blank or an item of itself; or each of them reads `multiple`. -/
def SourcesFit (runtime : MatchRuntime) : List String → Prop
  | [] => True
  | first :: rest =>
      first = "" ∨
        if ∀ source ∈ rest, source = first then
          listCovers runtime (strip first) (runtime.lower first) = true
        else ∀ source ∈ first :: rest, runtime.lower source = runtime.lower "multiple"

/-- The merged source names every source, and as criteria the first project and the first
environment cover what the matcher reads of each alert. -/
structure Fits (runtime : MatchRuntime) (alerts : List WebhookEvent) : Prop where
  source : SourcesFit runtime (alerts.map WebhookEvent.source)
  project : ∀ value, firstDimension runtime.toPythonRuntime "project" alerts = some value →
    ∀ alert ∈ alerts, csvValueMatches runtime (strip value)
      (extractForwardMatchFields runtime (some (entriesOf alert.parsedData))).project = true
  environment : ∀ value,
    firstDimension runtime.toPythonRuntime "environment" alerts = some value →
      ∀ alert ∈ alerts, csvEnvironmentMatches runtime (strip value)
        (extractForwardMatchFields runtime (some (entriesOf alert.parsedData))).environment = true

theorem sourcesFit_iff (sources : List String) :
    SourcesFit runtime sources ↔
      ∀ source ∈ sources,
        listCovers runtime (strip (mergedSource sources)) (runtime.lower source) = true := by
  cases sources with
  | nil => simp [SourcesFit]
  | cons first rest =>
      by_cases blank : first = ""
      · rw [mergedSource_of_same (Or.inl blank), blank]
        simp [SourcesFit, listCovers, show strip "" = "" by decide]
      · by_cases same : ∀ source ∈ rest, source = first
        · rw [mergedSource_of_same (Or.inr same), SourcesFit, if_pos same]
          constructor
          · rintro (empty | covers) source member
            · exact absurd empty blank
            · rcases List.mem_cons.1 member with rfl | later
              · exact covers
              · rw [same source later]
                exact covers
          · exact fun covers => Or.inr (covers first List.mem_cons_self)
        · rw [mergedSource_of_not_same (by tauto), SourcesFit, if_neg same]
          have items : splitCsvLower runtime.toPythonRuntime "multiple" =
              [runtime.lower "multiple"] := rfl
          simp [blank, listCovers, show strip "multiple" = "multiple" by decide, items]

theorem fits_iff (alerts : List WebhookEvent) :
    Fits runtime alerts ↔
      ∀ alert ∈ alerts,
        Covers runtime (strip (mergedSource (alerts.map WebhookEvent.source)))
          (strip ((firstDimension runtime.toPythonRuntime "project" alerts).getD ""))
          (strip ((firstDimension runtime.toPythonRuntime "environment" alerts).getD ""))
          alert := by
  have blank : strip "" = "" := by
    decide
  constructor
  · intro fits alert member
    refine ⟨?_, ?_, ?_⟩
    · exact (sourcesFit_iff _).1 fits.source alert.source (List.mem_map_of_mem member)
    · cases found : firstDimension runtime.toPythonRuntime "project" alerts with
      | none =>
          rw [Option.getD_none, blank]
          rfl
      | some value => exact fits.project value found alert member
    · cases found : firstDimension runtime.toPythonRuntime "environment" alerts with
      | none =>
          rw [Option.getD_none, blank]
          rfl
      | some value => exact fits.environment value found alert member
  · intro covers
    constructor
    · rw [sourcesFit_iff]
      intro source member
      obtain ⟨alert, present, rfl⟩ := List.mem_map.1 member
      exact (covers alert present).1
    · intro value found alert member
      simpa only [found, Option.getD_some] using (covers alert member).2.1
    · intro value found alert member
      simpa only [found, Option.getD_some] using (covers alert member).2.2

/-- After any run, the silence made from the card of an incident matches all its members,
whatever their types and importances, just when their own fields fit what it gathered. -/
theorem quick_silence_matches_members_iff (events : List GroupingEvent)
    (settings : CardActions.CardSettings) (moment : CardActions.Moment) (operator : String)
    (other : CardActions.CardIncident) (incident : Incident)
    (member : incident ∈ incidentsAfter runtime.toPythonRuntime events) :
    SilencesAll runtime (quickSilences settings moment operator (cardIncident other incident))
        (membersAfter runtime.toPythonRuntime events incident) ↔
      Fits runtime (membersAfter runtime.toPythonRuntime events incident) := by
  have gathered := gathered_of_run events member
  have source : (cardIncident other incident).source = some (mergedSource
      ((membersAfter runtime.toPythonRuntime events incident).map WebhookEvent.source)) :=
    gathered.source
  rw [fits_iff, quickSilences_eq, source, silenceDimension_cardIncident,
    silenceDimension_cardIncident, gathered.dimensions, gathered.dimensions]
  exact silencesAll_iff _ _ _ _ _

/-- Two alerts of these sources that open an incident. -/
def pairOf (first second : String) : List GroupingEvent :=
  [.arrive { sampleAlert 0 "High latency" "firing" "prod" "medium" with source := first },
    .arrive { sampleAlert 1 "High latency" "firing" "prod" "medium" with source := second },
    .scan (sampleScan 3)]

private def sampleRow : CardActions.CardIncident where
  id := 0
  workflowStatus := "open"
  assignee := none
  acknowledgedAt := none
  resolvedAt := none
  source := none
  correlationDimensions := []
  state := ⟨"active", none, 0, none, none, ⟨none, 0, none, none⟩⟩

private def sampleMoment : CardActions.Moment where
  now := 0
  silenceId := 1
  queuesRecap := false
  surroundings := ⟨none, false, [], [], none, false, false, none⟩

private def asciiRuntime : MatchRuntime :=
  .ascii ⟨[], [], [], []⟩

set_option maxRecDepth 8000 in
/-- The silence of an incident of one source matches its members. -/
theorem quick_silence_matches_grafana_pair :
    ∃ incident ∈ incidentsAfter .plain (pairOf "grafana" "grafana"),
      (membersAfter .plain (pairOf "grafana" "grafana") incident).length = 2 ∧
        (SilencesAll asciiRuntime
            (quickSilences ⟨.plain, "low", 0⟩ sampleMoment "alice"
              (cardIncident sampleRow incident))
            (membersAfter .plain (pairOf "grafana" "grafana") incident) ↔
          Fits asciiRuntime (membersAfter .plain (pairOf "grafana" "grafana") incident)) := by
  have opened : ∃ incident ∈ incidentsAfter .plain (pairOf "grafana" "grafana"),
      (membersAfter .plain (pairOf "grafana" "grafana") incident).length = 2 := by
    decide
  obtain ⟨incident, member, length⟩ := opened
  exact ⟨incident, member, length,
    quick_silence_matches_members_iff (pairOf "grafana" "grafana") _ _ _ _ incident member⟩

set_option maxRecDepth 8000 in
/-- An incident of two sources is silenced under the source `multiple`, which matches
neither of its members. -/
theorem quick_silence_misses_members_of_two_sources :
    ¬ ∀ (runtime : MatchRuntime) (events : List GroupingEvent)
      (settings : CardActions.CardSettings) (moment : CardActions.Moment) (operator : String)
      (other : CardActions.CardIncident),
        ∀ incident ∈ incidentsAfter runtime.toPythonRuntime events,
          SilencesAll runtime
            (quickSilences settings moment operator (cardIncident other incident))
            (membersAfter runtime.toPythonRuntime events incident) := by
  intro matched
  have opened : ∃ incident ∈ incidentsAfter .plain (pairOf "grafana" "zabbix"),
      (membersAfter .plain (pairOf "grafana" "zabbix") incident).map WebhookEvent.source =
        ["grafana", "zabbix"] := by
    decide
  obtain ⟨incident, member, sources⟩ := opened
  have silenced := matched asciiRuntime (pairOf "grafana" "zabbix") ⟨.plain, "low", 0⟩
    sampleMoment "alice" sampleRow incident member
  have gathered : (cardIncident sampleRow incident).source = some _ :=
    (gathered_of_run (pairOf "grafana" "zabbix") member).source
  rw [quickSilences_eq, silencesAll_iff, gathered, sources] at silenced
  have present : "zabbix" ∈
      (membersAfter .plain (pairOf "grafana" "zabbix") incident).map WebhookEvent.source := by
    rw [sources]
    decide
  obtain ⟨alert, alertMember, source⟩ := List.mem_map.1 present
  have covers := (silenced alert alertMember).1
  rw [source] at covers
  exact absurd covers (by decide)

end QuickSilences

end WebhookWise
