import WebhookWise.ConfigSchemas
import WebhookWise.SqlTable
import WebhookWise.Upserts

/-!
# Exporting and importing the operational configuration

`export_config` writes the forward rules, the active silences and the maintenance windows into a
bundle; `import_config` creates or updates rows from it, matched by name or by match fields.  The
exported fields, those of the schemas, those compared and the columns have to agree.
-/

namespace WebhookWise

open SqlTable Upserts

structure StoredSilence where
  silence : SilenceData
  expiresAt : Option DateTime
  liftedAt : Option DateTime
deriving DecidableEq

/-- The tables of the exported kinds. -/
@[ext]
structure ConfigDatabase where
  forwardRules : Table (@ConfigRow.id ForwardRuleData)
  silences : Table (@ConfigRow.id StoredSilence)
  windows : Table (@ConfigRow.id WindowData)

/-- A silence in a bundle.  A key `expires_at` may be missing, null, or a text. -/
structure BundleSilence where
  entry : SilenceEntry
  expiresAt : Option (Option String)
deriving DecidableEq

structure BundleWindow where
  silence : SilenceEntry
  name : Option String
  enabled : Option Bool
  daysOfWeek : Option String
  startMinute : Option Int
  durationMinutes : Option Int
  timezone : Option String
deriving DecidableEq

/-- A bundle, without the time at which it was exported. -/
structure ConfigBundle where
  version : Int
  forwardRules : List ForwardRuleEntry
  silences : List BundleSilence
  windows : List BundleWindow
deriving DecidableEq

inductive EntryProblem where
  | withoutName
  | invalid (name : String)
  | ambiguousName (name : String)
  | unreadableDays
  | derivedSilence
  | invalidSilence
  | unreadableExpiry
  | withoutCriterion
deriving DecidableEq

/-- The report of `import_config`. -/
structure ConfigReport where
  forwardRules : Report EntryProblem
  silences : Report EntryProblem
  windows : Report EntryProblem

inductive ImportFailure where
  | unsupportedVersion
  /-- A window name that is taken: `IntegrityError` at the flush. -/
  | windowNameTaken
deriving DecidableEq

/-- What the transfer takes from outside: the runtime, the schemas, and the order of names
in the database. -/
structure TransferEnvironment where
  python : PythonRuntime
  schemas : SchemaRuntime
  sortsBefore : String → String → Bool
  sortsBefore_total : ∀ first second, sortsBefore first second || sortsBefore second first
  sortsBefore_trans : ∀ first second third, sortsBefore first second → sortsBefore second third →
    sortsBefore first third

namespace ConfigTransfer

open ConfigSchemas

variable (env : TransferEnvironment)

/-! ## Export -/

/-- The fields of a rule named in `_RULE_FIELDS`. -/
def exportedRule (data : ForwardRuleData) : ForwardRuleEntry where
  name := some data.name
  enabled := some data.enabled
  priority := some data.priority
  criteria := data.criteria.map some
  matchDuplicate := some data.matchDuplicate
  targetType := some data.targetType
  targetUrl := some data.targetUrl
  targetName := some data.targetName
  stopOnMatch := some data.stopOnMatch

/-- The fields of a silence named in `_SILENCE_FIELDS`, and `expires_at`. -/
def exportedSilence (data : StoredSilence) : BundleSilence where
  entry := SilenceData.toEntry data.silence
  expiresAt := some (data.expiresAt.map DateTime.utcIsoformat)

/-- The fields of a window named in `_WINDOW_FIELDS`. -/
def exportedWindow (data : WindowData) : BundleWindow where
  silence := SilenceData.toEntry data.silence
  name := some data.name
  enabled := some data.enabled
  daysOfWeek := some data.daysOfWeek
  startMinute := some data.startMinute
  durationMinutes := some data.durationMinutes
  timezone := some data.timezone

/-- `_silence_active_filter`, and not derived from a window. -/
def isTransferred (now : DateTime) (data : StoredSilence) : Bool :=
  data.liftedAt.isNone && data.expiresAt.all (now < ·) &&
    data.silence.createdBy ≠ "maintenance-window"

/-- `ORDER BY name`, with ties by id: rows are inserted under growing ids. -/
def sortedByName {Data : Type} (nameOf : Data → String) (rows : List (ConfigRow Data)) :
    List (ConfigRow Data) :=
  rows.insertionSort fun first second => env.sortsBefore (nameOf first.data) (nameOf second.data)

/-- The active silences of a table, without those that windows own. -/
def transferredSilences (now : DateTime) (db : ConfigDatabase) : List (ConfigRow StoredSilence) :=
  db.silences.rows.filter fun row => isTransferred now row.data

def exportConfig (now : DateTime) (db : ConfigDatabase) : ConfigBundle where
  version := 1
  forwardRules := (sortedByName env ForwardRuleData.name db.forwardRules.rows).map
    fun row => exportedRule row.data
  silences := (transferredSilences now db).map fun row => exportedSilence row.data
  windows := (sortedByName env WindowData.name db.windows.rows).map
    fun row => exportedWindow row.data

/-! ## Import -/

/-- `_apply` on the row under an id. -/
def applyChange {Data : Type} [DecidableEq Data] (table : Table (@ConfigRow.id Data)) (id : Nat)
    (change : Data → Data) : Table (@ConfigRow.id Data) × Outcome EntryProblem :=
  if table.rows.any fun row => row.id = id && change row.data ≠ row.data then
    (table.update (fun row => row.id = id) (fun row => { row with data := change row.data })
      fun _ => rfl, .updated)
  else (table, .unchanged)

/-- `session.add` of a new row. -/
def addRow {Data : Type} (table : Table (@ConfigRow.id Data)) (data : Data) :
    Table (@ConfigRow.id Data) :=
  table.insert (fun id => ⟨id, data⟩) fun _ => rfl

/-- One turn of the loop over the forward rules.  `existing` are the rows before the loop. -/
def importRule (existing : List (ConfigRow ForwardRuleData))
    (table : Table (@ConfigRow.id ForwardRuleData)) (entry : ForwardRuleEntry) :
    Table (@ConfigRow.id ForwardRuleData) × Outcome EntryProblem :=
  let name := strip (entry.name.getD "")
  if name = "" then (table, .failed .withoutName)
  else
    -- `_clean` drops what is not in `_RULE_FIELDS`.
    match forwardRuleCreateRequest env.schemas { entry with targetGateway := none } with
    | none => (table, .failed (.invalid name))
    | some data =>
        match existing.filter fun row => row.data.name = name with
        | [] => (addRow table data, .created)
        | [row] => applyChange table row.id fun _ => data
        | _ => (table, .failed (.ambiguousName name))

/-- `request_shape`. -/
def BundleWindow.request (entry : BundleWindow) (days : List Int) : WindowEntry where
  silence := entry.silence
  name := entry.name
  enabled := entry.enabled
  daysOfWeek := some days
  startMinute := entry.startMinute
  durationMinutes := entry.durationMinutes
  timezone := entry.timezone

def importWindow (existing : List (ConfigRow WindowData))
    (table : Table (@ConfigRow.id WindowData)) (entry : BundleWindow) :
    Table (@ConfigRow.id WindowData) × Outcome EntryProblem :=
  let name := strip (entry.name.getD "")
  if name = "" then (table, .failed .withoutName)
  else
    match parsedDays (entry.daysOfWeek.getD "") with
    | none => (table, .failed .unreadableDays)
    | some days =>
        match windowCreateRequest env.schemas (BundleWindow.request entry days) with
        | none => (table, .failed (.invalid name))
        | some data =>
            match (existing.filter fun row => row.data.name = name).getLast? with
            | none => (addRow table data, .created)
            | some row => applyChange table row.id fun _ => data

def silenceKey (data : SilenceData) : MatchFields String × String :=
  (data.criteria, data.comment)

/-- `expires_at` of an entry: its text read as naive UTC, if there is one; `none` for
`ValueError`. -/
def readExpiry (text : Option String) : Option (Option DateTime) :=
  match text with
  | none | some "" => some none
  | some text => ((env.python.fromIsoformat (replaceZulu text)).map naiveUtc).map some

/-- One turn of the loop over the silences.  `existing` are the active ones before the loop. -/
def importSilence (existing : List (ConfigRow StoredSilence))
    (table : Table (@ConfigRow.id StoredSilence)) (entry : BundleSilence) :
    Table (@ConfigRow.id StoredSilence) × Outcome EntryProblem :=
  if entry.entry.createdBy.getD "" = "maintenance-window" then (table, .failed .derivedSilence)
  else
    match silenceCreateRequest env.schemas entry.entry, readExpiry env entry.expiresAt.join with
    | none, _ => (table, .failed .invalidSilence)
    | some _, none => (table, .failed .unreadableExpiry)
    | some data, some expiresAt =>
        if data.criteria.toList.all (· = "") then (table, .failed .withoutCriterion)
        else
          match (existing.filter fun row => silenceKey row.data.silence = silenceKey data).getLast?
            with
          | none => (addRow table ⟨data, expiresAt, none⟩, .created)
          | some row =>
              if entry.expiresAt.isSome then
                applyChange table row.id fun stored => { stored with expiresAt }
              else (table, .unchanged)

def importConfig (now : DateTime) (db : ConfigDatabase) (bundle : ConfigBundle) :
    Except ImportFailure (ConfigDatabase × ConfigReport) :=
  if bundle.version ≠ 1 then .error .unsupportedVersion
  else
    let rules := importAll (importRule env db.forwardRules.rows) db.forwardRules {}
      bundle.forwardRules
    let windows := importAll (importWindow env db.windows.rows) db.windows {} bundle.windows
    -- The query for the active silences flushes the windows.
    if (windows.1.rows.map fun row => row.data.name).Nodup then
      let silences := importAll (importSilence env (transferredSilences now db)) db.silences {}
        bundle.silences
      .ok (⟨rules.1, silences.1, windows.1⟩, ⟨rules.2, silences.2, windows.2⟩)
    else .error .windowNameTaken

end ConfigTransfer

end WebhookWise
