import Mathlib.Data.List.Sort
import WebhookWise.PythonValues

/-!
# Named deep-analysis gateways and the runs submitted to them

The flat `DEEP_ANALYSIS_*` settings are the gateway called `default`, and
`DEEP_ANALYSIS_GATEWAYS` adds named ones.  A forward rule names the gateway it
wants; a name that is not configured is an error and never the default gateway.
A row of `deep_analyses` records the gateway its run was submitted to.
-/

namespace WebhookWise

namespace DeepAnalysisGateways

/-- One deep-analysis gateway: where it is, what dialect it speaks. -/
structure GatewayInstance where
  name : String
  platform : String
  gatewayUrl : String
  httpApiUrl : String
  token : String
deriving DecidableEq

/-- The `DEEP_ANALYSIS_*` settings which say how gateways are reached. -/
structure DeepAnalysisSettings where
  platform : String
  gatewayUrl : String
  httpApiUrl : String
  hooksToken : String
  gatewayToken : String
  gateways : String

/-- `UnknownGatewayError`, with its text. -/
structure UnknownGatewayError where
  message : String
deriving DecidableEq

def defaultGatewayName : String := "default"

def defaultPlatform : String := "openclaw"

/-- `text or fallback`. -/
def orElse (text fallback : String) : String :=
  if text = "" then fallback else text

variable (python : PythonRuntime)
variable (settings : DeepAnalysisSettings)

def defaultInstance : GatewayInstance where
  name := defaultGatewayName
  platform := python.lower (strip (orElse settings.platform defaultPlatform))
  gatewayUrl := strip settings.gatewayUrl
  httpApiUrl := strip settings.httpApiUrl
  token := orElse settings.hooksToken settings.gatewayToken

/-- One entry of `DEEP_ANALYSIS_GATEWAYS`; what it omits it takes from the
default gateway.  An entry without a name of its own is ignored. -/
def parseEntry (default : GatewayInstance) (entry : Json) : Option GatewayInstance :=
  match entry with
  | .dict fields =>
      let entry : JsonObject := fields
      let name := python.lower (strip (entry.strOr python "name" ""))
      if name = "" then none
      else if name = defaultGatewayName then none
      else
        let gatewayUrl :=
          strip (entry.strOr python "url" (entry.strOr python "gateway_url" default.gatewayUrl))
        some {
          name := name
          platform := python.lower (strip (entry.strOr python "platform" default.platform))
          gatewayUrl := gatewayUrl
          httpApiUrl := strip (entry.strOr python "http_api_url" gatewayUrl)
          token := entry.strOr python "token" default.token }
  | _ => none

/-- `_parse_extra`: a text which is not a JSON array configures no gateway. -/
def parseExtra (raw : String) (default : GatewayInstance) : PyDict GatewayInstance :=
  let text := strip raw
  if text = "" then []
  else
    match python.jsonLoads text with
    | some (.list entries) =>
        (entries.filterMap (parseEntry python default)).foldl
          (fun instances gateway => instances.set gateway.name gateway) []
    | _ => []

def gatewayRegistry : PyDict GatewayInstance :=
  let default := defaultInstance python settings
  PyDict.updated [(defaultGatewayName, default)] (parseExtra python settings.gateways default)

def registryKey (name : Option String) : String :=
  orElse (python.lower (strip (name.getD ""))) defaultGatewayName

def resolveGateway (name : Option String) : Except UnknownGatewayError GatewayInstance :=
  let registry := gatewayRegistry python settings
  let key := registryKey python name
  match registry.get? key with
  | some gateway => .ok gateway
  | none =>
      .error ⟨"deep-analysis gateway " ++ python.reprStr key ++ " is not configured (known: " ++
        ", ".intercalate ((registry.map Prod.fst).insertionSort (· ≤ ·)) ++ ")"⟩

theorem name_ne_of_parseEntry {default gateway : GatewayInstance} {entry : Json}
    (parsed : parseEntry python default entry = some gateway) :
    gateway.name ≠ defaultGatewayName := by
  unfold parseEntry at parsed
  split at parsed
  · simp only at parsed
    split at parsed
    · contradiction
    · split at parsed
      · contradiction
      · obtain rfl := Option.some.inj parsed
        assumption
  · contradiction

theorem key_ne_of_mem_parseExtra {raw : String} {default : GatewayInstance}
    {entry : String × GatewayInstance} (member : entry ∈ parseExtra python raw default) :
    entry.1 ≠ defaultGatewayName := by
  unfold parseExtra at member
  simp only at member
  split at member
  · simp at member
  · split at member
    · rename_i entries _
      have named : ∀ gateway ∈ entries.filterMap (parseEntry python default),
          gateway.name ≠ defaultGatewayName := by
        intro gateway gatewayMember
        obtain ⟨document, _, parsed⟩ := List.mem_filterMap.1 gatewayMember
        exact name_ne_of_parseEntry python parsed
      generalize entries.filterMap (parseEntry python default) = gateways at named member
      refine PyDict.forall_mem_foldl_set GatewayInstance.name (fun gateway => gateway)
        (fun key => key ≠ defaultGatewayName) named ?_ entry member
      simp
    · simp at member

theorem resolveGateway_none :
    resolveGateway python settings none = .ok (defaultInstance python settings) := by
  have key : registryKey python none = defaultGatewayName := by
    have stripped : strip "" = "" := by decide
    simp [registryKey, stripped, python.lower_empty, orElse]
  have found : (gatewayRegistry python settings).get? defaultGatewayName =
      some (defaultInstance python settings) := by
    unfold gatewayRegistry
    rw [PyDict.get?_updated_of_forall_ne]
    · simp [PyDict.get?]
    · exact fun entry => key_ne_of_mem_parseExtra python
  simp [resolveGateway, key, found]

def configuredDeepAnalysisPlatform : String :=
  orElse (python.lower (strip settings.platform)) defaultPlatform

end DeepAnalysisGateways

inductive DeepAnalysisStatus where
  | pending
  | completed
  | failed
  | timeout
  | degraded
  | error
deriving DecidableEq, Repr

/-- A row of `deep_analyses`.  The duration is in microseconds. -/
structure DeepAnalysis where
  id : Nat
  webhookEventId : Nat
  engine : String
  gatewayName : String
  gatewayRunId : Option String
  gatewaySessionKey : Option String
  promptVersion : String
  pseudonymMap : Option JsonObject
  status : DeepAnalysisStatus
  analysisResult : Option JsonObject
  durationSeconds : Int
  pollAttempts : Nat
  nextPollAt : Option DateTime
  lastPolledAt : Option DateTime
  createdAt : Option DateTime

end WebhookWise
