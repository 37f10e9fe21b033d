import WebhookWise.PythonValues

/-!
# Names that hide a value

The headers and the keys whose values are neither stored, sent nor shown to a model.
-/

namespace WebhookWise

namespace SensitiveKeys

def sensitiveHeaderNames : List String :=
  ["authorization", "cookie", "set-cookie", "token", "x-admin-key", "x-admin-write-key",
    "x-api-key", "x-auth-token", "x-change-ingest-token", "x-gitlab-token", "x-hub-signature",
    "x-hub-signature-256", "x-slack-signature", "x-source-token", "x-webhook-signature"]

def sensitiveKeyParts : List String :=
  ["api_key", "apikey", "authorization", "bearer", "client_secret", "cookie", "credential",
    "passwd", "password", "private_key", "secret", "signature", "token"]

variable (python : PythonRuntime)

def isSensitiveKey (key : String) : Bool :=
  let normalized := (python.lower (strip key)).toList.map fun character =>
    if character = '-' then '_' else character
  sensitiveKeyParts.any fun part => occursIn part.toList normalized

/-- `redact_headers`, with what stands for a value that is hidden. -/
def redactHeaders {Value : Type} (redacted : Value) (headers : PyDict Value) : PyDict Value :=
  headers.map fun header =>
    if python.lower header.1 ∈ sensitiveHeaderNames ∨ isSensitiveKey python header.1 = true then
      (header.1, redacted)
    else header

end SensitiveKeys

end WebhookWise
