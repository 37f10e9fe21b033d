import Mathlib.Algebra.Order.Field.Rat
import WebhookWise.AutoSlas

/-!
# Settings that are overridden at run time

An override is stored as text, if the cast of its setting takes it, and is cast again at
every read.  The casts of numbers compare with the bounds of the setting.  No comparison
with `nan` holds, so no bound excludes it, and an infinity passes where its bound is
missing.
-/

namespace WebhookWise

namespace RuntimeSettings

/-! ## Casts -/

/-- A Python `float`. -/
inductive FloatValue where
  | nan
  | negativeInfinity
  | finite (value : ℚ)
  | positiveInfinity
deriving DecidableEq

/-- A bound that is written in the registry: its value, and what an f-string makes of it. -/
structure FloatBound where
  value : ℚ
  text : String
deriving DecidableEq

namespace FloatBound

def whole (number : Nat) : FloatBound :=
  ⟨mkRat number 1, toString number ++ ".0"⟩

def tenth : FloatBound :=
  ⟨mkRat 3602879701896397 36028797018963968, "0.1"⟩

def half : FloatBound :=
  ⟨mkRat 1 2, "0.5"⟩

end FloatBound

namespace FloatValue

/-- `value < bound`. -/
def isBelow (bound : FloatBound) : FloatValue → Bool
  | negativeInfinity => true
  | finite value => value < bound.value
  | nan | positiveInfinity => false

/-- `value > bound`. -/
def isAbove (bound : FloatBound) : FloatValue → Bool
  | positiveInfinity => true
  | finite value => bound.value < value
  | nan | negativeInfinity => false

end FloatValue

/-- What a cast returns. -/
inductive SettingValue where
  | bool (value : Bool)
  | int (value : Int)
  | float (value : FloatValue)
  | text (value : String)
deriving DecidableEq

/-- The functions of the registry which cast a stored text. -/
inductive Cast where
  | bool
  | int (minimum maximum : Option Int)
  | float (minimum maximum : Option FloatBound)
  | fingerprintFields
  | choice (choices : List String)
  | publicUrl
  | csvNames
  | importanceList
  | importanceMapping
deriving DecidableEq

/-- What the casts take from Python besides its strings. -/
structure NumberParsers where
  digits : AutoSla.DigitTables
  /-- `int(text)`, or the text of its `ValueError`. -/
  int : String → Except String Int
  /-- `float(text)`, or the text of its `ValueError`. -/
  float : String → Except String FloatValue
  /-- The text of the error at a text that is not JSON. -/
  jsonError : String → String

variable (parsers : NumberParsers) (python : PythonRuntime)

/-- `raise ValueError(message)`. -/
def valueError {Value : Type} (message : String) : Except AutoSla.Raised Value :=
  .error (.valueError message)

def castBool (raw : String) : Except AutoSla.Raised Bool :=
  let lowered := python.lower (strip raw)
  if lowered ∈ ["true", "1", "yes", "on"] then .ok true
  else if lowered ∈ ["false", "0", "no", "off"] then .ok false
  else valueError "expected true/false"

/-- `if bound is not None and …: raise ValueError(message)`. -/
def checkBound {Bound : Type} (bound : Option Bound) (excludes : Bound → Bool)
    (message : Bound → String) : Except AutoSla.Raised Unit :=
  match bound with
  | none => .ok ()
  | some bound => if excludes bound then valueError (message bound) else .ok ()

/-- What `_cast_int` and `_cast_float` have in common. -/
def castNumber {Number Bound : Type} (parse : String → Except String Number)
    (isBelow isAbove : Bound → Number → Bool) (text : Bound → String)
    (minimum maximum : Option Bound) (raw : String) : Except AutoSla.Raised Number := do
  let value ← (parse (strip raw)).mapError .valueError
  checkBound minimum (fun bound => isBelow bound value) fun bound => "must be >= " ++ text bound
  checkBound maximum (fun bound => isAbove bound value) fun bound => "must be <= " ++ text bound
  return value

/-- `_cast_int(minimum, maximum)`. -/
def castInt (minimum maximum : Option Int) (raw : String) : Except AutoSla.Raised Int :=
  castNumber parsers.int (fun bound value => decide (value < bound))
    (fun bound value => decide (bound < value)) toString minimum maximum raw

/-- `_cast_float(minimum, maximum)`. -/
def castFloat (minimum maximum : Option FloatBound) (raw : String) :
    Except AutoSla.Raised FloatValue :=
  castNumber parsers.float FloatValue.isBelow FloatValue.isAbove FloatBound.text minimum maximum
    raw

/-- A field list of `_cast_fingerprint_fields` is as it has to be. -/
def isFieldList : Json → Bool
  | .list [] => false
  | .list fields => fields.all fun field =>
      match field with
      | .str name => strip name ≠ ""
      | _ => false
  | _ => false

def castFingerprintFields (raw : String) : Except AutoSla.Raised String :=
  let text := strip raw
  if text = "" then .ok ""
  else
    match python.jsonLoads text with
    | none => valueError (parsers.jsonError text)
    | some (.dict entries) =>
        match entries.find? fun entry => ! isFieldList entry.2 with
        | some (source, _) =>
            valueError ("entries for " ++ python.reprStr source ++
              " must be a non-empty list of strings")
        | none => .ok text
    | some _ => valueError "expected a JSON object mapping source -> field list"

def castChoice (choices : List String) (raw : String) : Except AutoSla.Raised String :=
  let value := python.lower (strip raw)
  if value ∉ choices then valueError ("expected one of: " ++ ", ".intercalate choices)
  else .ok value

def castPublicUrl (raw : String) : Except AutoSla.Raised String :=
  let value := (strip raw).toList.rdropWhile fun character => character = '/'
  if value = [] then .ok ""
  else if ! ("https://".toList.isPrefixOf value || "http://".toList.isPrefixOf value) ||
      value.contains ' ' then
    valueError "DASHBOARD_PUBLIC_URL must be an http(s) URL"
  else .ok (String.ofList value)

def castCsvNames (raw : String) : Except AutoSla.Raised String :=
  let names := (splitOnCommas raw).map strip
  let cleaned := names.filter fun name => name ≠ ""
  if names.contains "" ∧ strip raw ≠ "" then
    valueError "empty entry in the list (check for a stray comma)"
  else if 100 < cleaned.length then valueError "more than 100 entries"
  else if cleaned.any fun name => 200 < name.length then
    valueError "an entry is longer than 200 characters"
  else .ok (",".intercalate cleaned)

def castImportanceList (raw : String) : Except AutoSla.Raised String :=
  let values := splitCsvLower python raw
  let unknown := values.filter fun value => value ∉ ["critical", "high", "medium", "low"]
  if unknown ≠ [] then valueError ("not an importance: " ++ ", ".intercalate unknown)
  else .ok (",".intercalate values)

def castImportanceMapping (raw : String) : Except AutoSla.Raised String := do
  let text := strip raw
  if text = "" then return ""
  let entries := (splitOnCommas text).filter fun part => strip part ≠ ""
  let parsed ← AutoSla.parseImportanceMinutes parsers.digits python text
  if parsed.length ≠ entries.length then
    valueError "expected entries like \"high=30,medium=240\" with levels high/medium/low"
  return text

/-- `spec.cast(raw)`. -/
def Cast.run (raw : String) : Cast → Except AutoSla.Raised SettingValue
  | .bool => (castBool python raw).map .bool
  | .int minimum maximum => (castInt parsers minimum maximum raw).map .int
  | .float minimum maximum => (castFloat parsers minimum maximum raw).map .float
  | .fingerprintFields => (castFingerprintFields parsers python raw).map .text
  | .choice choices => (castChoice python choices raw).map .text
  | .publicUrl => (castPublicUrl raw).map .text
  | .csvNames => (castCsvNames raw).map .text
  | .importanceList => (castImportanceList python raw).map .text
  | .importanceMapping => (castImportanceMapping parsers python raw).map .text

/-! ## The registry -/

structure SettingSpec where
  key : String
  cast : Cast
deriving DecidableEq

def specList : List SettingSpec :=
  [⟨"FLAPPING_WINDOW_MINUTES", .int (some 1) (some 1440)⟩,
    ⟨"FLAPPING_MIN_TRANSITIONS", .int (some 1) (some 1000)⟩,
    ⟨"FLAPPING_SUPPRESS_ENABLED", .bool⟩,
    ⟨"AI_EXCLUDED_RULES", .csvNames⟩,
    ⟨"AI_ROUTING_ENABLED", .bool⟩,
    ⟨"AI_ROUTING_SKIP_IMPORTANCE", .importanceList⟩,
    ⟨"AI_CORRECTION_PRIOR_ENABLED", .bool⟩,
    ⟨"AI_CORRECTION_PRIOR_MIN_CORRECTIONS", .int (some 1) (some 100)⟩,
    ⟨"AI_CORRECTION_PRIOR_LOOKBACK_DAYS", .int (some 1) (some 3650)⟩,
    ⟨"AI_COST_MONTHLY_BUDGET_USD", .float (some (.whole 0)) none⟩,
    ⟨"AI_COST_BUDGET_ENFORCE", .bool⟩,
    ⟨"AI_COST_BUDGET_MODE", .choice ["off", "shadow", "enforce"]⟩,
    ⟨"AI_PSEUDONYMIZE_ENABLED", .bool⟩,
    ⟨"AI_PSEUDONYMIZE_IPS", .bool⟩,
    ⟨"AI_PSEUDONYMIZE_HOST_SUFFIXES", .csvNames⟩,
    ⟨"AI_PSEUDONYMIZE_TERMS", .csvNames⟩,
    ⟨"RULE_HIGH_KEYWORDS", .csvNames⟩,
    ⟨"RULE_CONTENT_HIGH_KEYWORDS", .csvNames⟩,
    ⟨"RULE_WARN_KEYWORDS", .csvNames⟩,
    ⟨"RULE_METRIC_KEYWORDS", .csvNames⟩,
    ⟨"RULE_THRESHOLD_MULTIPLIER", .float (some .tenth) (some (.whole 100))⟩,
    ⟨"DEDUP_WINDOW_SECONDS", .int (some 0) (some 86400)⟩,
    ⟨"DEDUP_FINGERPRINT_MODE", .choice ["off", "shadow", "enforce"]⟩,
    ⟨"DEDUP_FINGERPRINT_FIELDS", .fingerprintFields⟩,
    ⟨"DEDUP_FINGERPRINT_EXCLUDE_LABELS", .fingerprintFields⟩,
    ⟨"ANALYSIS_REUSE_WINDOW_SECONDS", .int (some 0) (some 86400)⟩,
    ⟨"WEBHOOK_RETRY_MAX_RETRIES", .int (some 0) (some 20)⟩,
    ⟨"WEBHOOK_RETRY_INITIAL_DELAY_SECONDS", .float (some (.whole 0)) (some (.whole 600))⟩,
    ⟨"WEBHOOK_RETRY_MAX_DELAY_SECONDS", .float (some (.whole 0)) (some (.whole 3600))⟩,
    ⟨"WEBHOOK_RETRY_BACKOFF_MULTIPLIER", .float (some (.whole 1)) (some (.whole 10))⟩,
    ⟨"AI_PAYLOAD_MAX_BYTES", .int (some 1024) (some 5000000)⟩,
    ⟨"AI_PAYLOAD_STRIP_KEYS", .csvNames⟩,
    ⟨"FORWARD_TIMEOUT_SECONDS", .int (some 1) (some 300)⟩,
    ⟨"FORWARD_RETRY_MAX_RETRIES", .int (some 0) (some 20)⟩,
    ⟨"FORWARD_RETRY_INITIAL_DELAY_SECONDS", .float (some (.whole 0)) (some (.whole 600))⟩,
    ⟨"FORWARD_RETRY_MAX_DELAY_SECONDS", .float (some (.whole 0)) (some (.whole 3600))⟩,
    ⟨"FORWARD_RETRY_BACKOFF_MULTIPLIER", .float (some (.whole 1)) (some (.whole 10))⟩,
    ⟨"FORWARD_MAX_DELIVERY_AGE_SECONDS", .int (some 0) (some 604800)⟩,
    ⟨"ENABLE_DATA_CLEANUP", .bool⟩,
    ⟨"DATA_RETENTION_DAYS_DEFAULT", .int (some 1) (some 3650)⟩,
    ⟨"ARCHIVE_RETENTION_DAYS", .int (some 0) (some 3650)⟩,
    ⟨"AI_USAGE_RETENTION_DAYS", .int (some 0) (some 3650)⟩,
    ⟨"TERMINAL_OUTBOX_RETENTION_DAYS", .int (some 0) (some 3650)⟩,
    ⟨"INCIDENT_AUTO_CLOSE_DAYS", .int (some 0) (some 3650)⟩,
    ⟨"MAINTENANCE_HOUR", .int (some 0) (some 23)⟩,
    ⟨"DEEP_ANALYSIS_ENABLED", .bool⟩,
    ⟨"DEEP_ANALYSIS_TIMEOUT_SECONDS", .int (some 30) (some 3600)⟩,
    ⟨"DEEP_ANALYSIS_POLL_INITIAL_DELAY_SECONDS", .float (some .half) (some (.whole 120))⟩,
    ⟨"DEEP_ANALYSIS_POLL_MAX_DELAY_SECONDS", .float (some (.whole 1)) (some (.whole 600))⟩,
    ⟨"DEEP_ANALYSIS_POLL_BACKOFF_MULTIPLIER", .float (some (.whole 1)) (some (.whole 10))⟩,
    ⟨"DEEP_ANALYSIS_MAX_CONSECUTIVE_ERRORS", .int (some 1) (some 100)⟩,
    ⟨"DEEP_ANALYSIS_ENABLE_DEGRADATION", .bool⟩,
    ⟨"ENABLE_AI_ANALYSIS", .bool⟩,
    ⟨"ENABLE_AI_DEGRADATION", .bool⟩,
    ⟨"OPENAI_TEMPERATURE", .float (some (.whole 0)) (some (.whole 2))⟩,
    ⟨"CACHE_ENABLED", .bool⟩,
    ⟨"ANALYSIS_CACHE_TTL_SECONDS", .int (some 0) (some 604800)⟩,
    ⟨"AI_COST_PER_1K_INPUT_TOKENS", .float (some (.whole 0)) (some (.whole 1000))⟩,
    ⟨"AI_COST_PER_1K_OUTPUT_TOKENS", .float (some (.whole 0)) (some (.whole 1000))⟩,
    ⟨"CIRCUIT_BREAKER_LLM_THRESHOLD", .int (some 1) (some 1000)⟩,
    ⟨"CIRCUIT_BREAKER_LLM_TIMEOUT_SECONDS", .float (some (.whole 1)) (some (.whole 3600))⟩,
    ⟨"CIRCUIT_BREAKER_FEISHU_THRESHOLD", .int (some 1) (some 1000)⟩,
    ⟨"CIRCUIT_BREAKER_FEISHU_TIMEOUT_SECONDS", .float (some (.whole 1)) (some (.whole 3600))⟩,
    ⟨"CIRCUIT_BREAKER_FORWARD_THRESHOLD", .int (some 1) (some 1000)⟩,
    ⟨"CIRCUIT_BREAKER_FORWARD_TIMEOUT_SECONDS", .float (some (.whole 1)) (some (.whole 3600))⟩,
    ⟨"CIRCUIT_BREAKER_DEEP_ANALYSIS_THRESHOLD", .int (some 1) (some 1000)⟩,
    ⟨"CIRCUIT_BREAKER_DEEP_ANALYSIS_TIMEOUT_SECONDS",
      .float (some (.whole 1)) (some (.whole 3600))⟩,
    ⟨"INCIDENT_AUTO_SLA_MINUTES", .importanceMapping⟩,
    ⟨"SLA_BREACH_MENTION_ALL", .bool⟩,
    ⟨"INCIDENT_RESOLVE_RECAP_ENABLED", .bool⟩,
    ⟨"DASHBOARD_PUBLIC_URL", .publicUrl⟩,
    ⟨"INCIDENT_SUMMARY_MIN_IMPORTANCE", .choice ["low", "medium", "high"]⟩,
    ⟨"INCIDENT_MIN_IMPORTANCE", .choice ["low", "medium", "high"]⟩,
    ⟨"WEBHOOK_MQ_BACKLOG_WARN_FRACTION", .float (some (.whole 0)) (some (.whole 1))⟩,
    ⟨"WEBHOOK_MQ_INGRESS_HIGH_WATER_FRACTION", .float (some (.whole 0)) (some (.whole 1))⟩,
    ⟨"WEBHOOK_INGRESS_STORM_THRESHOLD", .int (some 0) none⟩,
    ⟨"WEBHOOK_INGRESS_STORM_WINDOW_SECONDS", .int (some 1) none⟩,
    ⟨"KB_CARD_LINKS_ENABLED", .bool⟩,
    ⟨"KB_CARD_LINKS_MAX", .int (some 1) (some 5)⟩,
    ⟨"ENABLE_ALERT_NOISE_REDUCTION", .bool⟩,
    ⟨"NOISE_REDUCTION_WINDOW_MINUTES", .int (some 1) (some 1440)⟩,
    ⟨"ROOT_CAUSE_MIN_CONFIDENCE", .float (some (.whole 0)) (some (.whole 1))⟩,
    ⟨"NOISE_RELATED_MIN_CONFIDENCE", .float (some (.whole 0)) (some (.whole 1))⟩,
    ⟨"NOISE_SOURCE_WEIGHT", .float (some (.whole 0)) (some (.whole 1))⟩,
    ⟨"NOISE_RESOURCE_WEIGHT", .float (some (.whole 0)) (some (.whole 1))⟩,
    ⟨"NOISE_SEMANTIC_WEIGHT", .float (some (.whole 0)) (some (.whole 1))⟩,
    ⟨"NOISE_SEVERITY_WEIGHT", .float (some (.whole 0)) (some (.whole 1))⟩,
    ⟨"NOISE_TIME_WEIGHT", .float (some (.whole 0)) (some (.whole 1))⟩,
    ⟨"NOISE_SEVERITY_DOWNGRADE_SCORE", .float (some (.whole 0)) (some (.whole 1))⟩,
    ⟨"SUPPRESS_DERIVED_ALERT_FORWARD", .bool⟩,
    ⟨"NOISE_DIGEST_MIN_ALERTS", .int (some 1) (some 100000)⟩,
    ⟨"SYNTHETIC_SOURCES", .csvNames⟩,
    ⟨"NOTIFICATION_COOLDOWN_SECONDS", .int (some 0) (some 86400)⟩,
    ⟨"ENABLE_PERIODIC_REMINDER", .bool⟩,
    ⟨"REMEDIATION_VERIFY_DELAY_SECONDS", .int (some 0) (some 86400)⟩,
    ⟨"REMINDER_INTERVAL_HOURS", .int (some 1) (some 720)⟩,
    ⟨"SELF_NOTIFY_MIN_INTERVAL_MINUTES", .int (some 1) (some 1440)⟩,
    ⟨"DECISION_TRACE_RETENTION_DAYS", .int (some 1) (some 3650)⟩]

/-- `SPECS.get(key)`: the last spec of a key is the one that stays in the dict. -/
def findSpec (key : String) : Option SettingSpec :=
  specList.reverse.find? fun spec => spec.key = key

/-! ## Overrides -/

/-- A row of `runtime_settings` besides its key. -/
structure RuntimeSetting where
  value : String
  updatedBy : String
  updatedAt : DateTime

/-- What `set_override` raises. -/
inductive WriteFailure where
  | raised (error : AutoSla.Raised)
  /-- The database refuses a text that does not fit its column. -/
  | dataError
deriving DecidableEq

/-- A `String(limit)` column holds the text. -/
def FitsColumn (limit : Nat) (text : String) : Prop :=
  text.length ≤ limit ∧ text.toList.contains '\x00' = false

instance (limit : Nat) (text : String) : Decidable (FitsColumn limit text) :=
  inferInstanceAs (Decidable (_ ∧ _))

/-- `set_override`: the rows after the flush. -/
def setOverride (rows : PyDict RuntimeSetting) (key value actor : String) (now : DateTime) :
    Except WriteFailure (PyDict RuntimeSetting) :=
  match findSpec key with
  | none => .error (.raised (.valueError ("unknown runtime setting " ++ python.reprStr key)))
  | some spec =>
      match spec.cast.run parsers python value with
      | .error error => .error (.raised error)
      | .ok _ =>
          if FitsColumn 500 value ∧ FitsColumn 100 actor then
            .ok (rows.set key ⟨value, actor, now⟩)
          else .error .dataError

/-- The snapshot which `refresh_runtime_settings` makes of the rows. -/
def refreshed (rows : PyDict RuntimeSetting) : PyDict String :=
  rows.map fun row => (row.1, row.2.value)

/-- `override_or`: a `ValueError` of the cast is caught. -/
def overrideOr (snapshot : PyDict String) (key : String) (fallback : SettingValue) :
    Except AutoSla.Raised SettingValue :=
  match snapshot.get? key with
  | none => .ok fallback
  | some raw =>
      match findSpec key with
      | none => .ok fallback
      | some spec =>
          match spec.cast.run parsers python raw with
          | .ok value => .ok value
          | .error (.valueError _) => .ok fallback
          | .error .overflowError => .error .overflowError

/-! ## What a cast takes -/

variable {parsers python}

theorem checkBound_eq_ok_iff {Bound : Type} {bound : Option Bound} {excludes : Bound → Bool}
    {message : Bound → String} :
    checkBound bound excludes message = .ok () ↔ ∀ given ∈ bound, excludes given = false := by
  cases bound with
  | none => simp [checkBound]
  | some given => cases excluded : excludes given <;> simp [checkBound, valueError, excluded]

private theorem bind_eq_ok_iff {Value Result : Type} {first : Except AutoSla.Raised Value}
    {next : Value → Except AutoSla.Raised Result} {result : Result} :
    (first >>= next) = .ok result ↔ ∃ value, first = .ok value ∧ next value = .ok result := by
  cases first <;> simp [bind, Except.bind]

private theorem mapError_eq_ok_iff {Value : Type} {parsed : Except String Value} {value : Value} :
    parsed.mapError AutoSla.Raised.valueError = .ok value ↔ parsed = .ok value := by
  cases parsed <;> simp [Except.mapError]

theorem castNumber_eq_ok_iff {Number Bound : Type} {parse : String → Except String Number}
    {isBelow isAbove : Bound → Number → Bool} {text : Bound → String}
    {minimum maximum : Option Bound} {raw : String} {number : Number} :
    castNumber parse isBelow isAbove text minimum maximum raw = .ok number ↔
      parse (strip raw) = .ok number ∧ (∀ least ∈ minimum, isBelow least number = false) ∧
        ∀ greatest ∈ maximum, isAbove greatest number = false := by
  unfold castNumber
  simp only [bind_eq_ok_iff, mapError_eq_ok_iff]
  constructor
  · rintro ⟨value, parsed, _, atLeast, _, atMost, same⟩
    obtain rfl : value = number := Except.ok.inj same
    exact ⟨parsed, checkBound_eq_ok_iff.1 atLeast, checkBound_eq_ok_iff.1 atMost⟩
  · rintro ⟨parsed, atLeast, atMost⟩
    exact ⟨number, parsed, (), checkBound_eq_ok_iff.2 atLeast, (),
      checkBound_eq_ok_iff.2 atMost, rfl⟩

/-! ## What is served -/

variable {value : SettingValue}

/-- A finite number within the bounds of a numeric cast. -/
def Cast.Bounds : Cast → SettingValue → Prop
  | .int minimum maximum, .int number =>
      (∀ least ∈ minimum, least ≤ number) ∧ ∀ greatest ∈ maximum, number ≤ greatest
  | .float minimum maximum, .float (.finite number) =>
      (∀ least ∈ minimum, least.value ≤ number) ∧ ∀ greatest ∈ maximum, number ≤ greatest.value
  | _, _ => False

def Cast.isNumeric : Cast → Bool
  | .int _ _ | .float _ _ => true
  | _ => false

variable (parsers python)

/-- The text is not read as `nan`, nor as an infinity towards which there is no bound. -/
def Cast.MeetsBounds (raw : String) : Cast → Prop
  | .float minimum maximum =>
      parsers.float (strip raw) ≠ .ok .nan ∧
        (parsers.float (strip raw) = .ok .negativeInfinity → minimum ≠ none) ∧
        (parsers.float (strip raw) = .ok .positiveInfinity → maximum ≠ none)
  | _ => True

/-- Once a snapshot holds the text that was accepted, a number within the bounds is served. -/
def ServedWithinBounds (key raw : String) (cast : Cast) : Prop :=
  ∀ rows actor now after, setOverride parsers python rows key raw actor now = .ok after →
    ∀ snapshot : PyDict String, snapshot.get? key = some raw →
      ∀ fallback, ∃ value, overrideOr parsers python snapshot key fallback = .ok value ∧
        cast.Bounds value

variable {parsers python}

private theorem map_eq_ok_iff {Value Result : Type} {parsed : Except AutoSla.Raised Value}
    {wrap : Value → Result} {result : Result} :
    parsed.map wrap = .ok result ↔ ∃ value, parsed = .ok value ∧ wrap value = result := by
  cases parsed <;> simp [Except.map]

theorem Cast.bounds_iff {cast : Cast} (numeric : cast.isNumeric = true) {raw : String}
    (returned : cast.run parsers python raw = .ok value) :
    cast.Bounds value ↔ cast.MeetsBounds parsers raw := by
  cases cast with
  | int minimum maximum =>
      obtain ⟨number, taken, rfl⟩ := map_eq_ok_iff.1 returned
      obtain ⟨_, atLeast, atMost⟩ := castNumber_eq_ok_iff.1 taken
      simp only [Cast.Bounds, Cast.MeetsBounds, iff_true]
      exact ⟨fun least given => Int.not_lt.1 (of_decide_eq_false (atLeast least given)),
        fun greatest given => Int.not_lt.1 (of_decide_eq_false (atMost greatest given))⟩
  | float minimum maximum =>
      obtain ⟨number, taken, rfl⟩ := map_eq_ok_iff.1 returned
      obtain ⟨parsed, atLeast, atMost⟩ := castNumber_eq_ok_iff.1 taken
      simp only [Cast.MeetsBounds, parsed]
      cases number with
      | nan => simp [Cast.Bounds]
      | finite number =>
          simp only [Cast.Bounds, ne_eq, reduceCtorEq, not_false_eq_true, false_implies, and_self,
            Except.ok.injEq, iff_true]
          exact ⟨fun least given => not_lt.1 (of_decide_eq_false (atLeast least given)),
            fun greatest given => not_lt.1 (of_decide_eq_false (atMost greatest given))⟩
      | negativeInfinity =>
          cases minimum with
          | none => simp [Cast.Bounds]
          | some least => cases atLeast least rfl
      | positiveInfinity =>
          cases maximum with
          | none => simp [Cast.Bounds]
          | some greatest => cases atMost greatest rfl
  | bool | fingerprintFields | choice | publicUrl | csvNames | importanceList
  | importanceMapping => cases numeric

theorem Cast.returns_of_not_meets {cast : Cast} {raw : String}
    (broken : ¬ cast.MeetsBounds parsers raw) :
    ∃ value, cast.run parsers python raw = .ok value := by
  cases cast with
  | float minimum maximum =>
      have taken (number : FloatValue) (parsed : parsers.float (strip raw) = .ok number)
          (atLeast : ∀ least ∈ minimum, number.isBelow least = false)
          (atMost : ∀ greatest ∈ maximum, number.isAbove greatest = false) :
          ∃ value, (Cast.float minimum maximum).run parsers python raw = .ok value :=
        ⟨.float number, map_eq_ok_iff.2
          ⟨number, castNumber_eq_ok_iff.2 ⟨parsed, atLeast, atMost⟩, rfl⟩⟩
      simp only [Cast.MeetsBounds, not_and_or, Classical.not_imp, not_not] at broken
      rcases broken with parsed | ⟨parsed, unbounded⟩ | ⟨parsed, unbounded⟩
      · exact taken .nan parsed (fun _ _ => rfl) fun _ _ => rfl
      · exact taken .negativeInfinity parsed (by simp [unbounded]) fun _ _ => rfl
      · exact taken .positiveInfinity parsed (fun _ _ => rfl) (by simp [unbounded])
  | bool | int | fingerprintFields | choice | publicUrl | csvNames | importanceList
  | importanceMapping => exact absurd trivial broken

theorem setOverride_eq_ok_iff {rows after : PyDict RuntimeSetting} {key value actor : String}
    {now : DateTime} :
    setOverride parsers python rows key value actor now = .ok after ↔
      (∃ spec, findSpec key = some spec ∧
        ∃ taken, spec.cast.run parsers python value = .ok taken) ∧
      FitsColumn 500 value ∧ FitsColumn 100 actor ∧ rows.set key ⟨value, actor, now⟩ = after := by
  unfold setOverride
  cases found : findSpec key with
  | none => simp
  | some spec =>
      cases taken : spec.cast.run parsers python value with
      | error raised => simp [taken]
      | ok result =>
          by_cases fits : FitsColumn 500 value ∧ FitsColumn 100 actor
          · simp [taken, fits]
          · simp only [taken, if_neg fits, reduceCtorEq, false_iff]
            exact fun accepted => fits ⟨accepted.2.1, accepted.2.2.1⟩

theorem refreshed_set (rows : PyDict RuntimeSetting) (key : String) (row : RuntimeSetting) :
    refreshed (rows.set key row) = (refreshed rows).set key row.value := by
  induction rows with
  | nil => rfl
  | cons first rows ih =>
      simp only [refreshed, PyDict.set, List.map_cons] at ih ⊢
      split
      · rfl
      · rw [List.map_cons, ih]

theorem get?_refreshed_setOverride {rows after : PyDict RuntimeSetting} {key value actor : String}
    {now : DateTime} (accepted : setOverride parsers python rows key value actor now = .ok after) :
    (refreshed after).get? key = some value := by
  obtain ⟨_, _, _, rfl⟩ := setOverride_eq_ok_iff.1 accepted
  rw [refreshed_set, PyDict.get?_set, if_pos rfl]

theorem overrideOr_of_run {snapshot : PyDict String} {key raw : String} {spec : SettingSpec}
    (held : snapshot.get? key = some raw) (registered : findSpec key = some spec)
    (returned : spec.cast.run parsers python raw = .ok value) (fallback : SettingValue) :
    overrideOr parsers python snapshot key fallback = .ok value := by
  simp only [overrideOr, held, registered, returned]

theorem not_served_of_run {key raw : String} {spec : SettingSpec}
    (registered : findSpec key = some spec)
    (returned : spec.cast.run parsers python raw = .ok value) (fits : FitsColumn 500 raw)
    (outside : ¬ spec.cast.Bounds value) :
    ¬ ServedWithinBounds parsers python key raw spec.cast := by
  intro served
  have accepted : setOverride parsers python [] key raw "" 0 = .ok [(key, ⟨raw, "", 0⟩)] :=
    setOverride_eq_ok_iff.2 ⟨⟨spec, registered, value, returned⟩, fits, by decide, rfl⟩
  have held := get?_refreshed_setOverride accepted
  obtain ⟨answer, answers, within⟩ := served _ _ _ _ accepted _ held (.bool false)
  rw [overrideOr_of_run held registered returned] at answers
  cases answers
  exact outside within

/-- An accepted override of a number is served within its bounds unless it is read as `nan`, or
as an infinity towards which the setting has no bound. -/
theorem servedWithinBounds_iff {key : String} {spec : SettingSpec}
    (registered : findSpec key = some spec) (numeric : spec.cast.isNumeric = true)
    (raw : String) :
    ServedWithinBounds parsers python key raw spec.cast ↔
      (FitsColumn 500 raw → spec.cast.MeetsBounds parsers raw) := by
  constructor
  · intro served fits
    by_contra broken
    obtain ⟨value, returned⟩ := @Cast.returns_of_not_meets _ python _ _ broken
    exact not_served_of_run registered returned fits
      (mt (Cast.bounds_iff numeric returned).1 broken) served
  · intro meets rows actor now after accepted snapshot held fallback
    obtain ⟨⟨found, same, value, returned⟩, fits, _⟩ := setOverride_eq_ok_iff.1 accepted
    obtain rfl : spec = found := Option.some.inj (registered.symm.trans same)
    exact ⟨value, overrideOr_of_run held registered returned fallback,
      (Cast.bounds_iff numeric returned).2 (meets fits)⟩

def NumberParsers.sample : NumberParsers where
  digits := .latin
  int text :=
    match pyInt text with
    | some number => .ok number
    | none => .error ("invalid literal for int() with base 10: '" ++ text ++ "'")
  float text :=
    match [("nan", FloatValue.nan), ("inf", .positiveInfinity), ("0.5", .finite (mkRat 1 2))].lookup
        text with
    | some number => .ok number
    | none => .error ("could not convert string to float: '" ++ text ++ "'")
  jsonError _ := "unexpected character: line 1 column 1 (char 0)"

theorem servedWithinBounds_half :
    ServedWithinBounds .sample .plain "ROOT_CAUSE_MIN_CONFIDENCE" "0.5"
      (.float (some (.whole 0)) (some (.whole 1))) := by
  have registered : findSpec "ROOT_CAUSE_MIN_CONFIDENCE" =
      some ⟨"ROOT_CAUSE_MIN_CONFIDENCE", .float (some (.whole 0)) (some (.whole 1))⟩ := by
    decide +kernel
  have parsed : NumberParsers.sample.float (strip "0.5") = .ok (.finite (mkRat 1 2)) := by
    decide +kernel
  exact (servedWithinBounds_iff registered rfl "0.5").2 fun _ => by
    simp [Cast.MeetsBounds, parsed]

/-- `nan` passes both bounds of a temperature, and an infinity is a budget. -/
theorem nan_served :
    ¬ ServedWithinBounds .sample .plain "OPENAI_TEMPERATURE" "nan"
        (.float (some (.whole 0)) (some (.whole 2))) ∧
      ¬ ServedWithinBounds .sample .plain "AI_COST_MONTHLY_BUDGET_USD" "inf"
        (.float (some (.whole 0)) none) := by
  constructor
  · have registered : findSpec "OPENAI_TEMPERATURE" =
        some ⟨"OPENAI_TEMPERATURE", .float (some (.whole 0)) (some (.whole 2))⟩ := by
      decide +kernel
    have returned : (Cast.float (some (.whole 0)) (some (.whole 2))).run .sample .plain "nan" =
        .ok (.float .nan) := by
      decide +kernel
    exact not_served_of_run registered returned (by decide) id
  · have registered : findSpec "AI_COST_MONTHLY_BUDGET_USD" =
        some ⟨"AI_COST_MONTHLY_BUDGET_USD", .float (some (.whole 0)) none⟩ := by
      decide +kernel
    have returned : (Cast.float (some (.whole 0)) none).run .sample .plain "inf" =
        .ok (.float .positiveInfinity) := by
      decide +kernel
    exact not_served_of_run registered returned (by decide) id

end RuntimeSettings

end WebhookWise
