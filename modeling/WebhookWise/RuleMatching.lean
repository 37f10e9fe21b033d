import WebhookWise.PythonValues
import WebhookWise.Pseudonymizer

/-!
# Matching an alert against the criteria of a rule

Forward rules, inbound rules and silences share one matcher; an empty criterion covers every alert.
Project, region and environment are looked up in the payload at any depth, or guessed from its
texts.  A caller that does not know a fact yet passes the empty string.
-/

namespace WebhookWise

open TextRewriting

/-- The runtime of the matchers: Python with the tables of the module `re`.
`str.lower` maps every character to at least one, so no text becomes empty. -/
structure MatchRuntime extends PythonRuntime, Pseudonymizer.CharacterTables where
  eq_empty_of_lower : ∀ text, lower text = "" → text = ""

private theorem eq_empty_of_lower_ascii (known : KnownTexts) (text : String)
    (lowered : (PythonRuntime.ascii known).lower text = "") : text = "" := by
  have chars := congrArg String.toList lowered
  simp only [PythonRuntime.ascii, String.toList_ofList, String.toList_empty,
    List.map_eq_nil_iff] at chars
  exact String.toList_eq_nil_iff.1 chars

def MatchRuntime.ascii (known : KnownTexts) : MatchRuntime where
  toPythonRuntime := .ascii known
  toCharacterTables := .ascii
  eq_empty_of_lower := eq_empty_of_lower_ascii known

/-- What an alert's payload says about where it comes from. -/
structure MatchIdentity where
  project : String
  region : String
  environment : String
deriving DecidableEq

/-- The `match_…` fields which the rules have in common. -/
structure RuleCriteria where
  matchEventType : String := ""
  matchImportance : String := ""
  matchSource : String := ""
  matchDuplicate : String := "all"
  matchPayload : String := ""
  matchProject : String := ""
  matchRegion : String := ""
  matchEnvironment : String := ""
deriving DecidableEq

/-- The keyword arguments of the matchers, with their defaults. -/
structure AlertFacts where
  eventType : String := ""
  importance : String := ""
  source : String := ""
  isDuplicate : Bool := false
  parsedData : Option JsonObject := none
  identity : Option MatchIdentity := none

namespace RuleMatching

/-! ## Texts -/

/-- The pieces between the separating characters, as `str.split` cuts them. -/
def splitWhere (separates : Char → Bool) (text : String) : List String :=
  text.toList.foldr
    (fun character parts =>
      match parts with
      | [] => []
      | part :: parts =>
          if separates character then "" :: part :: parts
          else (String.ofList [character] ++ part) :: parts)
    [""]

/-- `" ".join(text.splitlines()).strip()`. -/
def oneLine (text : String) : String :=
  strip (String.ofList (List.intercalate [' '] (splitlines text.toList)))

example : oneLine "one\r\n two\n\x0bthree \n" = "one  two  three" := by decide

section Payload

variable (runtime : MatchRuntime)

def scalarTextOrEmpty : Json → String
  | .null | .list _ | .dict _ => ""
  | value => oneLine (value.pyStr runtime.toPythonRuntime)

/-! ## Looking into a payload

`None` is what a search returns which finds nothing, and what it finds where the
payload holds a JSON null. -/

def isNone : Json → Bool
  | .null => true
  | _ => false

mutual

/-- `_find_in_payload`, for a key that is not empty. -/
def findInPayload (key : String) : Json → Json
  | .dict entries =>
      match PyDict.get? entries key with
      | some value => value
      | none => findInEntries key entries
  | .list items => findInItems key items
  | _ => .null

private def findInEntries (key : String) : List (String × Json) → Json
  | [] => .null
  | (_, value) :: entries =>
      let found := findInPayload key value
      if isNone found then findInEntries key entries else found

private def findInItems (key : String) : List Json → Json
  | [] => .null
  | item :: items =>
      let found := findInPayload key item
      if isNone found then findInItems key items else found

end

/-- `str(key).lower() in lowered`. -/
def namesField (keys : List String) (entry : String × Json) : Bool :=
  (keys.map runtime.lower).contains (runtime.lower entry.1)

mutual

def findInPayloadCi (keys : List String) : Json → Json
  | .dict entries =>
      match entries.find? (namesField runtime keys) with
      | some entry => entry.2
      | none => findInEntriesCi keys entries
  | .list items => findInItemsCi keys items
  | _ => .null

private def findInEntriesCi (keys : List String) : List (String × Json) → Json
  | [] => .null
  | (_, value) :: entries =>
      let found := findInPayloadCi keys value
      if isNone found then findInEntriesCi keys entries else found

private def findInItemsCi (keys : List String) : List Json → Json
  | [] => .null
  | item :: items =>
      let found := findInPayloadCi keys item
      if isNone found then findInItemsCi keys items else found

end

mutual

def findAllInPayloadCi (keys : List String) : Json → List Json
  | .dict entries =>
      (entries.filter (namesField runtime keys)).map Prod.snd ++ findAllInEntriesCi keys entries
  | .list items => findAllInItemsCi keys items
  | _ => []

private def findAllInEntriesCi (keys : List String) : List (String × Json) → List Json
  | [] => []
  | (_, value) :: entries => findAllInPayloadCi keys value ++ findAllInEntriesCi keys entries

private def findAllInItemsCi (keys : List String) : List Json → List Json
  | [] => []
  | item :: items => findAllInPayloadCi keys item ++ findAllInItemsCi keys items

end

mutual

def iterPayloadText : Json → List String
  | .dict entries => iterEntryText entries
  | .list items => iterItemText items
  | value =>
      let text := scalarTextOrEmpty runtime value
      if text = "" then [] else [text]

private def iterEntryText : List (String × Json) → List String
  | [] => []
  | (key, value) :: entries =>
      (if oneLine key = "" then [] else [oneLine key]) ++ iterPayloadText value ++
        iterEntryText entries

private def iterItemText : List Json → List String
  | [] => []
  | item :: items => iterPayloadText item ++ iterItemText items

end

/-- `_get_by_path`, for a path that is not empty. -/
def getByPath (payload : Json) (path : String) : Json :=
  (splitWhere (· = '.') path).foldl
    (fun current part =>
      match current with
      | .dict entries => (PyDict.get? entries part).getD .null
      | _ => .null)
    payload

/-! ## Project, region and environment -/

def projectKeyGroups : List (List String) :=
  [["ProjectName", "project_name", "projectName"], ["Project", "project"]]

def projectPlaceholders : List String :=
  ["", "default", "unknown", "none", "null", "-"]

def regionKeys : List String :=
  ["Region", "region", "region_id", "regionId"]

def environmentKeys : List String :=
  ["environment", "env", "stage", "deployment_environment", "deploymentEnvironment",
    "runtime_environment", "runtimeEnvironment"]

def environmentAliases : PyDict String :=
  [("prod", "prod"), ("production", "prod"), ("prd", "prod"), ("live", "prod"), ("dev", "dev"),
    ("development", "dev"), ("test", "test"), ("testing", "test"), ("staging", "staging"),
    ("stage", "staging"), ("pre", "pre"), ("preprod", "pre"), ("preproduction", "pre"),
    ("uat", "uat"), ("qa", "qa"), ("gray", "gray"), ("grey", "gray")]

/-- `_canonical_environment`.  The text is cut at single characters here: the empty
pieces this leaves between two separators are no alias. -/
def canonicalEnvironment (value : Json) (allowUnknown : Bool) : String :=
  let text := runtime.lower (scalarTextOrEmpty runtime value)
  let known := text :: splitWhere (fun next => !(next.isLower || next.isDigit)) text
  match known.filterMap environmentAliases.get? with
  | canonical :: _ => canonical
  | [] => if allowUnknown then text else ""

/-- `[a-z0-9]` under `re.IGNORECASE`: four letters outside ASCII fold into it. -/
def isProjectCharacter (character : Char) : Bool :=
  character.isAlphanum || ['\u0130', '\u0131', '\u017F', '\u212A'].contains character

/-- Where `[a-z0-9]+(?:-[a-z0-9]+)*` may end, the farthest position first. -/
def projectEnds : Nat → Cursor Char → List (Cursor Char)
  | 0, _ => []
  | groups + 1, start =>
      ((Regex.plus isProjectCharacter).matchEnds start).flatMap fun final =>
        ((Regex.word ['-']).matchEnds final).flatMap (projectEnds groups) ++ [final]

/-- `-(?:prod|…)(?:-|$)`. -/
def environmentFollows (cursor : Cursor Char) : Bool :=
  ((Regex.word ['-']).matchEnds cursor).any fun dashed =>
    environmentAliases.any fun environment =>
      ((Regex.wordBy runtime.sameIgnoringCase environment.1.toList).matchEnds dashed).any fun final =>
        final.after.head?.all (· = '-')

/-- The group `project` of the first match of `_PROJECT_FROM_ENV_RE` from a position on. -/
def projectBeforeEnvironment : List Char → List Char → Option (List Char)
  | _, [] => none
  | before, next :: after =>
      let start : Cursor Char := ⟨before, next :: after⟩
      let ends :=
        if Regex.isBoundary runtime.isWord start then projectEnds (after.length + 1) start else []
      match ends.find? (environmentFollows runtime) with
      | some final => some ((next :: after).take (after.length + 1 - final.after.length))
      | none => projectBeforeEnvironment (next :: before) after

/-- `text.strip("-")`. -/
def stripDashes (text : List Char) : String :=
  String.ofList ((text.dropWhile (· = '-')).reverse.dropWhile (· = '-')).reverse

def inferProjectFromPayloadText (payload : Json) : String :=
  let found := (iterPayloadText runtime payload).filterMap fun text =>
    projectBeforeEnvironment runtime [] (runtime.lower text).toList
  match found with
  | [] => ""
  | project :: _ => stripDashes project

def extractProject (payload : Json) : String :=
  let texts := projectKeyGroups.flatMap fun keys =>
    (findAllInPayloadCi runtime keys payload).map (scalarTextOrEmpty runtime)
  match texts.find? fun text => !projectPlaceholders.contains (runtime.lower text) with
  | some text => text
  | none =>
      let inferred := inferProjectFromPayloadText runtime payload
      if inferred ≠ "" then inferred else (texts.find? (· ≠ "")).getD ""

def extractForwardMatchFields (parsedData : Option JsonObject) : MatchIdentity :=
  let payload := Json.dict (parsedData.getD [])
  let named := canonicalEnvironment runtime (findInPayloadCi runtime environmentKeys payload) true
  let guessed := (iterPayloadText runtime payload).map fun text =>
    canonicalEnvironment runtime (.str text) false
  { project := extractProject runtime payload
    region := scalarTextOrEmpty runtime (findInPayloadCi runtime regionKeys payload)
    environment := if named ≠ "" then named else (guessed.find? (· ≠ "")).getD "" }

/-! ## Criteria -/

/-- `item[1:]` of an item with `item.startswith("!") and len(item) > 1`. -/
def negated? (item : String) : Option String :=
  match item.toList with
  | '!' :: next :: rest => some (String.ofList (next :: rest))
  | _ => none

/-- No item forbids the value, and some item names it when any item names a value. -/
def csvCovers (normalize : String → String) (expectedCsv actual : String) : Bool :=
  let items := splitCsvLower runtime.toPythonRuntime expectedCsv
  let negatives := (items.filterMap negated?).map normalize
  let positives := (items.filter fun item => (negated? item).isNone).map normalize
  !negatives.contains actual && (positives.isEmpty || positives.contains actual)

def csvValueMatches (expectedCsv actual : String) : Bool :=
  expectedCsv = "" || csvCovers runtime id expectedCsv (runtime.lower actual)

/-- `_canonical_environment(value) or value.lower()`. -/
def environmentItem (value : String) : String :=
  let canonical := canonicalEnvironment runtime (.str value) true
  if canonical ≠ "" then canonical else runtime.lower value

def csvEnvironmentMatches (expectedCsv actual : String) : Bool :=
  expectedCsv = "" ||
    csvCovers runtime (environmentItem runtime) expectedCsv
      (canonicalEnvironment runtime (.str actual) true)

/-- `not criterion or value in split_csv_lower(criterion)`. -/
def listCovers (criterion value : String) : Bool :=
  criterion = "" || (splitCsvLower runtime.toPythonRuntime criterion).contains value

/-- The test of `match_duplicate`. -/
def duplicateCovers (criterion : String) (isDuplicate : Bool) : Bool :=
  !(criterion = "new" && isDuplicate) && !(criterion = "duplicate" && !isDuplicate)

/-- One turn of the loop of `_payload_matches`. -/
def pairMatches (payload : Json) (pair : String) : Bool :=
  let raw := strip pair
  let key := strip (String.ofList (raw.toList.takeWhile (· ≠ '=')))
  raw = "" ||
    match raw.toList.dropWhile (· ≠ '=') with
    | [] => false
    | _ :: expected =>
        let found :=
          if key.toList.contains '.' then getByPath payload key else findInPayload key payload
        key ≠ "" && !isNone found &&
          strip (found.pyStr runtime.toPythonRuntime) = strip (String.ofList expected)

def payloadMatches (matchPayload : String) (parsedData : JsonObject) : Bool :=
  matchPayload = "" || (splitOnCommas matchPayload).all (pairMatches runtime (.dict parsedData))

def ruleMatches (rule : RuleCriteria) (alert : AlertFacts) : Bool :=
  let identity := alert.identity.getD (extractForwardMatchFields runtime alert.parsedData)
  listCovers runtime rule.matchEventType alert.eventType &&
    listCovers runtime rule.matchImportance alert.importance &&
    listCovers runtime rule.matchSource (runtime.lower alert.source) &&
    csvValueMatches runtime rule.matchProject identity.project &&
    csvValueMatches runtime rule.matchRegion identity.region &&
    csvEnvironmentMatches runtime rule.matchEnvironment identity.environment &&
    duplicateCovers rule.matchDuplicate alert.isDuplicate &&
    payloadMatches runtime rule.matchPayload (alert.parsedData.getD [])

/-! ## Matching before everything is known -/

theorem empty_not_mem_splitCsvLower (text : String) :
    "" ∉ splitCsvLower runtime.toPythonRuntime text := by
  intro member
  rcases List.mem_map.1 member with ⟨item, kept, lowered⟩
  have blank : strip item = "" := runtime.eq_empty_of_lower _ lowered
  simp [blank] at kept

@[simp]
theorem listCovers_empty (criterion : String) :
    listCovers runtime criterion "" = true ↔ criterion = "" := by
  simp [listCovers, empty_not_mem_splitCsvLower]

variable {runtime} {rule : RuleCriteria} {earlier later : AlertFacts}

/-- A field of an alert which was passed empty may be anything later. -/
def Learnt (earlier later : String) : Prop :=
  earlier = "" ∨ earlier = later

theorem listCovers_of_learnt {criterion known value : String} (learnt : Learnt known value)
    (covers : listCovers runtime criterion known = true) :
    listCovers runtime criterion value = true := by
  rcases learnt with unknown | same
  · rw [unknown, listCovers_empty] at covers
    simp [listCovers, covers]
  · exact same ▸ covers

theorem Learnt.lower {known value : String} (learnt : Learnt known value) :
    Learnt (runtime.lower known) (runtime.lower value) := by
  rcases learnt with unknown | same
  · left
    rw [unknown, runtime.lower_empty]
  · exact Or.inr (congrArg runtime.lower same)

/-- The same alert, of which more is known. -/
structure Learns (earlier later : AlertFacts) : Prop where
  eventType : Learnt earlier.eventType later.eventType
  importance : Learnt earlier.importance later.importance
  source : Learnt earlier.source later.source
  parsedData : earlier.parsedData = later.parsedData
  identity : earlier.identity = later.identity

theorem ruleMatches_of_learns (always : rule.matchDuplicate = "all") (learns : Learns earlier later)
    (matched : ruleMatches runtime rule earlier = true) : ruleMatches runtime rule later = true := by
  have anyone (isDuplicate : Bool) : duplicateCovers rule.matchDuplicate isDuplicate = true := by
    rw [always]
    cases isDuplicate <;> decide
  simp only [ruleMatches, Bool.and_eq_true, learns.parsedData, learns.identity] at matched ⊢
  obtain ⟨⟨⟨⟨⟨⟨⟨eventType, importance⟩, source⟩, project⟩, region⟩, environment⟩, -⟩, payload⟩ :=
    matched
  refine ⟨⟨⟨⟨⟨⟨⟨?_, ?_⟩, ?_⟩, project⟩, region⟩, environment⟩, anyone _⟩, payload⟩
  · exact listCovers_of_learnt learns.eventType eventType
  · exact listCovers_of_learnt learns.importance importance
  · exact listCovers_of_learnt learns.source.lower source

end Payload

end RuleMatching

end WebhookWise
