import WebhookWise.PythonValues
import Mathlib.Data.Rat.Floor
import Mathlib.Data.NNRat.Floor

/-!
# Authentication and replay protection of inbound webhooks

`verify_webhook_auth_dep` reads the signature header twice: `ensure_webhook_auth`
takes it for the HMAC of the body, and `enforce_replay_protection` for the HMAC of
`"<timestamp>.<body>"`.  The clock is a nonnegative rational number of seconds since
1970, and a key of the nonce store lives until the instant kept with it.
-/

namespace WebhookWise

abbrev Bytes := List UInt8

/-- `text.encode("utf-8")`. -/
def encodeUtf8 (text : String) : Bytes :=
  text.toUTF8.data.toList

/-- What the verifiers take from outside the repository. -/
structure SecurityRuntime where
  /-- `hmac.new(key, message, hashlib.sha256).hexdigest()`. -/
  hmacHexdigest : Bytes → Bytes → String
  /-- `str.casefold`. -/
  casefold : String → String

/-- Different messages have different digests, under whichever keys. -/
def SecurityRuntime.DistinctDigests (runtime : SecurityRuntime) : Prop :=
  ∀ key other message otherMessage,
    runtime.hmacHexdigest key message = runtime.hmacHexdigest other otherMessage →
      message = otherMessage

/-- The fields of `SecurityConfig` which the verifiers read. -/
structure SecurityConfig where
  webhookSecret : String
  webhookSecretPrevious : String
  maxWebhookBodyBytes : Int
  requireWebhookAuth : Bool
  webhookReplayProtectionEnabled : Bool
  webhookReplayMaxSkewSeconds : Int

abbrev Headers := PyDict String

/-- `headers.get(name, "")`. -/
def Headers.text (headers : Headers) (name : String) : String :=
  (headers.get? name).getD ""

/-! ## The nonce store -/

/-- The keys of Redis, each with the instant at which it expires. -/
abbrev NonceStore := PyDict NNRat

namespace NonceStore

/-- The key was set, and has not expired. -/
def Live (store : NonceStore) (key : String) (now : NNRat) : Prop :=
  ∃ expiry, store.get? key = some expiry ∧ now < expiry

theorem live_iff {store : NonceStore} {key : String} {now : NNRat} :
    store.Live key now ↔ (store.get? key).any (now < ·) = true := by
  unfold Live
  cases store.get? key <;> simp

instance (store : NonceStore) (key : String) (now : NNRat) : Decidable (store.Live key now) :=
  decidable_of_iff _ live_iff.symm

/-- `redis_set_nx_ex`: whether the key was claimed, and the keys afterwards. -/
def redisSetNxEx (store : NonceStore) (key : String) (ttlSeconds : Nat) (now : NNRat) :
    Bool × NonceStore :=
  if store.Live key now then (false, store) else (true, store.set key (now + ttlSeconds))

end NonceStore

/-- How Redis takes the `SET` of one call: it answers, or the call fails, in which case
the command may have reached the server or not. -/
inductive RedisCall where
  | answered
  | failed (applied : Bool)
deriving DecidableEq

def webhookReplayNonce (signature : String) : String :=
  "webhook:replay:" ++ signature

/-! ## The verifiers -/

def candidateSecrets (values : List (Option String)) : List String :=
  values.foldl
    (fun candidates value =>
      match value with
      | none => candidates
      | some secret =>
          if secret ≠ "" ∧ secret ∉ candidates then candidates ++ [secret] else candidates)
    []

/-- `text.partition(" ")`. -/
def partitionOnSpace (text : String) : String × String × String :=
  match text.toList.span (· ≠ ' ') with
  | (before, []) => (String.ofList before, "", "")
  | (before, _ :: after) => (String.ofList before, " ", String.ofList after)

variable (runtime : SecurityRuntime)

def extractToken (headers : Headers) : String :=
  let token := headers.text "token"
  if token ≠ "" then token
  else
    let (scheme, separator, credentials) :=
      partitionOnSpace (strip (headers.text "authorization"))
    if separator ≠ "" ∧ runtime.casefold scheme ∈ ["bearer", "token"] then strip credentials
    else token

/-- Which secret a request was authenticated with. -/
inductive MatchedGeneration where
  | current
  | previous
deriving DecidableEq

/-- `"current" if index == 0 else "previous"`. -/
def MatchedGeneration.ofIndex (index : Nat) : MatchedGeneration :=
  if index = 0 then .current else .previous

inductive InvalidSignatureError where
  | invalidSignature
deriving DecidableEq

/-- The first candidate with the property, as `for index, candidate in enumerate(candidates)`
returns it; the loop that finds none raises. -/
def firstMatching (candidates : List String) (isMatch : String → Bool) :
    Except InvalidSignatureError (Option MatchedGeneration) :=
  match candidates.findIdx? isMatch with
  | some index => .ok (some (.ofIndex index))
  | none => .error .invalidSignature

/-- `ensure_webhook_auth`; `configured` is what `get_config_manager().security` answers.
Two texts are compared here where `hmac.compare_digest` compares their encodings. -/
def ensureWebhookAuth (configured : SecurityConfig) (headers : Headers) (rawBody : Bytes)
    (secret previousSecret : Option String) :
    Except InvalidSignatureError (Option MatchedGeneration) :=
  let signature := headers.text "x-webhook-signature"
  let token := extractToken runtime headers
  let candidates :=
    if secret = none ∧ previousSecret = none then
      candidateSecrets [some configured.webhookSecret, some configured.webhookSecretPrevious]
    else candidateSecrets [secret, previousSecret]
  if signature ≠ "" then
    if candidates = [] then .error .invalidSignature
    else
      firstMatching candidates fun candidate =>
        runtime.hmacHexdigest (encodeUtf8 candidate) rawBody = signature
  else if candidates ≠ [] then
    if token = "" then .error .invalidSignature
    else firstMatching candidates fun candidate => token = candidate
  else .ok none

/-- `timestamp.encode("utf-8") + b"." + payload`. -/
def timestampedMaterial (timestamp : String) (payload : Bytes) : Bytes :=
  encodeUtf8 timestamp ++ encodeUtf8 "." ++ payload

def verifyTimestampedSignature (timestamp : String) (payload : Bytes) (signature secret : String) :
    Bool :=
  if secret = "" ∨ timestamp = "" then false
  else
    runtime.hmacHexdigest (encodeUtf8 secret) (timestampedMaterial timestamp payload) = signature

/-- `max(1, int(security.WEBHOOK_REPLAY_MAX_SKEW_SECONDS))`. -/
def SecurityConfig.maxSkew (security : SecurityConfig) : Nat :=
  (max 1 security.webhookReplayMaxSkewSeconds).toNat

/-- The secrets a signature is checked against: the active one, then the previous one. -/
def SecurityConfig.candidates (security : SecurityConfig) : List String :=
  candidateSecrets [some security.webhookSecret, some security.webhookSecretPrevious]

/-- `int(time.time())`. -/
def wholeSeconds (now : NNRat) : Int :=
  ⌊now⌋₊

/-- `ReplayError`, with its text. -/
structure ReplayError where
  message : String
deriving DecidableEq

/-- `enforce_replay_protection` at one instant: what it raises if anything, and the nonce
store afterwards. -/
def enforceReplayProtection (security : SecurityConfig) (headers : Headers) (rawBody : Bytes)
    (now : NNRat) (redis : RedisCall) (store : NonceStore) :
    Except ReplayError Unit × NonceStore :=
  let signature := headers.text "x-webhook-signature"
  -- Token-auth path; nothing to replay-protect here.
  if signature = "" then (.ok (), store)
  else
    let timestamp := strip (headers.text "x-webhook-timestamp")
    if timestamp = "" then (.error ⟨"missing x-webhook-timestamp"⟩, store)
    else
      match pyInt timestamp with
      | none => (.error ⟨"invalid x-webhook-timestamp"⟩, store)
      | some tsValue =>
          let maxSkew := security.maxSkew
          if maxSkew < (wholeSeconds now - tsValue).natAbs then
            (.error ⟨"timestamp outside allowed skew window"⟩, store)
          else if ¬ security.candidates.any
              (verifyTimestampedSignature runtime timestamp rawBody signature) then
            (.error ⟨"timestamped signature mismatch"⟩, store)
          else
            let (claimed, claimedStore) :=
              store.redisSetNxEx (webhookReplayNonce signature) (maxSkew * 2) now
            match redis with
            | .failed applied =>
                (.error ⟨"replay nonce store unavailable"⟩, if applied then claimedStore else store)
            | .answered =>
                if claimed then (.ok (), claimedStore)
                else (.error ⟨"signature already used (replay)"⟩, claimedStore)

structure HttpException where
  statusCode : Nat
  detail : String
deriving DecidableEq

/-- The body-size check on the `Content-Length` header; a header that is no number is ignored. -/
def oversized (security : SecurityConfig) (headers : Headers) : Option HttpException :=
  match (headers.get? "content-length").bind pyInt with
  | none => none
  | some length =>
      if security.maxWebhookBodyBytes ≠ 0 ∧ security.maxWebhookBodyBytes < length then
        some ⟨413, "Request body too large: " ++ toString length ++ " bytes (max " ++
          toString security.maxWebhookBodyBytes ++ ")"⟩
      else none

def unauthorized : HttpException :=
  ⟨401, "Unauthorized"⟩

/-- `verify_webhook_auth_dep` at one instant. -/
def verifyWebhookAuthDep (security : SecurityConfig) (headers : Headers) (rawBody : Bytes)
    (now : NNRat) (redis : RedisCall) (store : NonceStore) :
    Except HttpException Unit × NonceStore :=
  match oversized security headers with
  | some refused => (.error refused, store)
  | none =>
      if ¬ security.requireWebhookAuth then (.ok (), store)
      else if security.webhookSecret = "" then (.error unauthorized, store)
      else
        match ensureWebhookAuth runtime security headers rawBody (some security.webhookSecret)
            (some security.webhookSecretPrevious) with
        | .error _ => (.error unauthorized, store)
        | .ok _ =>
            if security.webhookReplayProtectionEnabled then
              match enforceReplayProtection runtime security headers rawBody now redis store with
              | (.error _, left) => (.error unauthorized, left)
              | (.ok _, left) => (.ok (), left)
            else (.ok (), store)

/-! ## What is accepted -/

theorem ne_empty_of_mem_candidateSecrets {values : List (Option String)} {secret : String}
    (member : secret ∈ candidateSecrets values) :
    secret ≠ "" := by
  suffices kept : ∀ candidates : List String, (∀ candidate ∈ candidates, candidate ≠ "") →
      ∀ candidate ∈ values.foldl
        (fun candidates value =>
          match value with
          | none => candidates
          | some secret =>
              if secret ≠ "" ∧ secret ∉ candidates then candidates ++ [secret] else candidates)
        candidates, candidate ≠ "" from
    kept [] (by simp) secret member
  clear member
  induction values with
  | nil => exact fun candidates initially => initially
  | cons value values ih =>
      intro candidates initially
      rw [List.foldl_cons]
      apply ih
      cases value with
      | none => exact initially
      | some value =>
          by_cases added : value ≠ "" ∧ value ∉ candidates
          · simp only [if_pos added, List.mem_append, List.mem_singleton]
            rintro candidate (old | rfl)
            · exact initially candidate old
            · exact added.1
          · simpa only [if_neg added] using initially

/-- The timestamp parses and lies within the skew window. -/
def TimestampInWindow (security : SecurityConfig) (headers : Headers) (now : NNRat) : Prop :=
  ∃ tsValue, pyInt (strip (headers.text "x-webhook-timestamp")) = some tsValue ∧
    (wholeSeconds now - tsValue).natAbs ≤ security.maxSkew

/-- The signature is the HMAC of `"<timestamp>.<body>"` under the current or the previous
secret. -/
def SignedWithTimestamp (security : SecurityConfig) (headers : Headers) (rawBody : Bytes) : Prop :=
  ∃ secret ∈ security.candidates,
    runtime.hmacHexdigest (encodeUtf8 secret)
      (timestampedMaterial (strip (headers.text "x-webhook-timestamp")) rawBody) =
        headers.text "x-webhook-signature"

/-- The request carries a signature in the documented form, in time and for the first time. -/
structure ValidlySigned (security : SecurityConfig) (headers : Headers) (rawBody : Bytes)
    (now : NNRat) (store : NonceStore) : Prop where
  signed : headers.text "x-webhook-signature" ≠ ""
  inWindow : TimestampInWindow security headers now
  signature : SignedWithTimestamp runtime security headers rawBody
  unclaimed : ¬ store.Live (webhookReplayNonce (headers.text "x-webhook-signature")) now

section Acceptance

variable {runtime} {security : SecurityConfig} {headers : Headers} {rawBody : Bytes}
  {now : NNRat} {redis : RedisCall} {store : NonceStore}

theorem any_verifyTimestampedSignature_iff
    (stamped : strip (headers.text "x-webhook-timestamp") ≠ "") :
    security.candidates.any
        (verifyTimestampedSignature runtime (strip (headers.text "x-webhook-timestamp")) rawBody
          (headers.text "x-webhook-signature")) = true ↔
      SignedWithTimestamp runtime security headers rawBody := by
  rw [List.any_eq_true]
  refine exists_congr fun secret => and_congr_right fun member => ?_
  have nonempty : secret ≠ "" := ne_empty_of_mem_candidateSecrets member
  rw [verifyTimestampedSignature, if_neg (by simp [nonempty, stamped]), decide_eq_true_iff]

theorem timestampInWindow_iff {tsValue : Int}
    (parsed : pyInt (strip (headers.text "x-webhook-timestamp")) = some tsValue) :
    TimestampInWindow security headers now ↔
      (wholeSeconds now - tsValue).natAbs ≤ security.maxSkew := by
  simp [TimestampInWindow, parsed]

theorem not_timestampInWindow_of_blank
    (blank : strip (headers.text "x-webhook-timestamp") = "") :
    ¬ TimestampInWindow security headers now := by
  rintro ⟨tsValue, parsed, -⟩
  have noNumber : pyInt "" = none := by decide
  rw [blank, noNumber] at parsed
  cases parsed

theorem enforceReplayProtection_of_validlySigned
    (valid : ValidlySigned runtime security headers rawBody now store) :
    enforceReplayProtection runtime security headers rawBody now .answered store =
      (.ok (), store.set (webhookReplayNonce (headers.text "x-webhook-signature"))
        (now + (security.maxSkew * 2 : Nat))) := by
  have stamped : strip (headers.text "x-webhook-timestamp") ≠ "" := fun blank =>
    not_timestampInWindow_of_blank blank valid.inWindow
  obtain ⟨tsValue, parsed, inTime⟩ := valid.inWindow
  have verified := (any_verifyTimestampedSignature_iff stamped).2 valid.signature
  simp only [enforceReplayProtection, if_neg valid.signed, if_neg stamped, parsed,
    if_neg (Nat.not_lt.2 inTime), verified, not_true_eq_false, if_false, NonceStore.redisSetNxEx,
    if_neg valid.unclaimed, if_true]

theorem validlySigned_of_enforceReplayProtection
    (signed : headers.text "x-webhook-signature" ≠ "")
    (passed : (enforceReplayProtection runtime security headers rawBody now redis store).1 =
      .ok ()) :
    redis = .answered ∧ ValidlySigned runtime security headers rawBody now store := by
  rw [enforceReplayProtection, if_neg signed] at passed
  by_cases stamped : strip (headers.text "x-webhook-timestamp") = ""
  · simp only [if_pos stamped, reduceCtorEq] at passed
  simp only [if_neg stamped] at passed
  cases parsed : pyInt (strip (headers.text "x-webhook-timestamp")) with
  | none => simp only [parsed, reduceCtorEq] at passed
  | some tsValue =>
      simp only [parsed] at passed
      by_cases late : security.maxSkew < (wholeSeconds now - tsValue).natAbs
      · simp only [if_pos late, reduceCtorEq] at passed
      simp only [if_neg late] at passed
      have inWindow : TimestampInWindow security headers now :=
        (timestampInWindow_iff parsed).2 (Nat.not_lt.1 late)
      by_cases verified : SignedWithTimestamp runtime security headers rawBody
      · rw [if_neg (by simp [(any_verifyTimestampedSignature_iff stamped).2 verified])] at passed
        cases redis with
        | failed applied => simp only [reduceCtorEq] at passed
        | answered =>
            refine ⟨rfl, signed, inWindow, verified, fun claimed => ?_⟩
            simp only [NonceStore.redisSetNxEx, if_pos claimed, Bool.false_eq_true, if_false,
              reduceCtorEq] at passed
      · rw [if_pos (by simpa [← any_verifyTimestampedSignature_iff stamped] using verified)]
          at passed
        simp only [reduceCtorEq] at passed

theorem enforceReplayProtection_store (runtime : SecurityRuntime) (security : SecurityConfig)
    (headers : Headers) (rawBody : Bytes) (now : NNRat) (redis : RedisCall) (store : NonceStore) :
    (enforceReplayProtection runtime security headers rawBody now redis store).2 = store ∨
      ∃ key, ¬ store.Live key now ∧
        (enforceReplayProtection runtime security headers rawBody now redis store).2 =
          store.set key (now + (security.maxSkew * 2 : Nat)) := by
  unfold enforceReplayProtection
  dsimp only
  split
  · exact Or.inl rfl
  split
  · exact Or.inl rfl
  split
  · exact Or.inl rfl
  split
  · exact Or.inl rfl
  split
  · exact Or.inl rfl
  unfold NonceStore.redisSetNxEx
  by_cases live : store.Live (webhookReplayNonce (headers.text "x-webhook-signature")) now
  · left
    cases redis <;> simp [live]
  · simp only [if_neg live]
    cases redis with
    | failed applied =>
        cases applied with
        | false => exact Or.inl rfl
        | true => exact Or.inr ⟨_, live, rfl⟩
    | answered => exact Or.inr ⟨_, live, rfl⟩

end Acceptance

/-! ## The two verifiers together -/

section Conflict

variable {runtime} {security : SecurityConfig} {headers : Headers} {rawBody : Bytes}
  {now : NNRat} {redis : RedisCall} {store : NonceStore}

theorem exists_hmac_body_of_ensureWebhookAuth {configured : SecurityConfig}
    {secret previousSecret : Option String} {generation : Option MatchedGeneration}
    (signed : headers.text "x-webhook-signature" ≠ "")
    (authenticated : ensureWebhookAuth runtime configured headers rawBody secret previousSecret =
      .ok generation) :
    ∃ key, runtime.hmacHexdigest key rawBody = headers.text "x-webhook-signature" := by
  simp only [ensureWebhookAuth, if_pos signed] at authenticated
  generalize (if secret = none ∧ previousSecret = none then
      candidateSecrets [some configured.webhookSecret, some configured.webhookSecretPrevious]
    else candidateSecrets [secret, previousSecret]) = candidates at authenticated
  by_cases none : candidates = []
  · simp only [if_pos none, reduceCtorEq] at authenticated
  simp only [if_neg none, firstMatching] at authenticated
  cases found : candidates.findIdx? fun candidate =>
      runtime.hmacHexdigest (encodeUtf8 candidate) rawBody = headers.text "x-webhook-signature" with
  | none => simp only [found, reduceCtorEq] at authenticated
  | some index =>
      obtain ⟨within, isMatch, -⟩ := List.findIdx?_eq_some_iff_getElem.1 found
      exact ⟨_, of_decide_eq_true isMatch⟩

theorem timestampedMaterial_ne (timestamp : String) (payload : Bytes) :
    timestampedMaterial timestamp payload ≠ payload := by
  intro same
  have lengths := congrArg List.length same
  have separator : (encodeUtf8 ".").length = 1 := by decide
  simp only [timestampedMaterial, List.length_append, separator] at lengths
  omega

theorem not_accepted_of_signed (distinct : runtime.DistinctDigests)
    (required : security.requireWebhookAuth = true)
    (guarded : security.webhookReplayProtectionEnabled = true)
    (signed : headers.text "x-webhook-signature" ≠ "") :
    (verifyWebhookAuthDep runtime security headers rawBody now redis store).1 ≠ .ok () := by
  intro accepted
  rw [verifyWebhookAuthDep] at accepted
  cases size : oversized security headers with
  | some refused => simp only [size, reduceCtorEq] at accepted
  | none =>
      simp only [size, required, not_true_eq_false, if_false, guarded, if_true] at accepted
      by_cases missing : security.webhookSecret = ""
      · simp only [if_pos missing, reduceCtorEq] at accepted
      simp only [if_neg missing] at accepted
      cases authenticated : ensureWebhookAuth runtime security headers rawBody
          (some security.webhookSecret) (some security.webhookSecretPrevious) with
      | error invalid => simp only [authenticated, reduceCtorEq] at accepted
      | ok generation =>
          simp only [authenticated] at accepted
          cases checked : enforceReplayProtection runtime security headers rawBody now redis
              store with
          | mk outcome left =>
              cases outcome with
              | error replayed => simp only [checked, reduceCtorEq] at accepted
              | ok passed =>
                  obtain ⟨key, ofBody⟩ := exists_hmac_body_of_ensureWebhookAuth signed authenticated
                  have valid := (validlySigned_of_enforceReplayProtection signed
                    (congrArg Prod.fst checked)).2
                  obtain ⟨secret, -, ofMaterial⟩ := valid.signature
                  exact timestampedMaterial_ne _ _
                    (distinct _ _ _ _ (ofMaterial.trans ofBody.symm))

/-- A request with a signature is accepted exactly when it is validly signed. -/
def AcceptedWhenValidlySigned (runtime : SecurityRuntime) (security : SecurityConfig)
    (headers : Headers) (rawBody : Bytes) (now : NNRat) (redis : RedisCall) (store : NonceStore) :
    Prop :=
  headers.text "x-webhook-signature" ≠ "" →
    ((verifyWebhookAuthDep runtime security headers rawBody now redis store).1 = .ok () ↔
      ValidlySigned runtime security headers rawBody now store)

/-- With replay protection on, validly signed requests are those that are refused. -/
theorem acceptedWhenValidlySigned_iff (distinct : runtime.DistinctDigests)
    (required : security.requireWebhookAuth = true)
    (guarded : security.webhookReplayProtectionEnabled = true) :
    AcceptedWhenValidlySigned runtime security headers rawBody now redis store ↔
      ¬ ValidlySigned runtime security headers rawBody now store := by
  constructor
  · intro exactly valid
    exact not_accepted_of_signed distinct required guarded valid.signed
      ((exactly valid.signed).2 valid)
  · intro invalid signed
    have refused : (verifyWebhookAuthDep runtime security headers rawBody now redis store).1 ≠
        .ok () :=
      not_accepted_of_signed distinct required guarded signed
    simp only [refused, invalid]

end Conflict

/-! ## A sender that follows the documentation -/

/-- A runtime which knows some digests; any other message is digested to a text that no
hexadecimal digest is. -/
def SecurityRuntime.knowing (digests : List (Bytes × String)) : SecurityRuntime where
  hmacHexdigest _ message :=
    match digests.find? (·.1 = message) with
    | some (_, digest) => digest
    | none => String.ofList ('#' :: message.map fun byte => Char.ofNat byte.toNat)
  casefold text := String.ofList (text.toList.map Char.toLower)

private theorem ofNat_toNat_inj {byte other : UInt8}
    (equal : Char.ofNat byte.toNat = Char.ofNat other.toNat) :
    byte = other := by
  have read (value : UInt8) : (Char.ofNat value.toNat).toNat = value.toNat := by
    have small := value.toNat_lt
    have valid : value.toNat.isValidChar := Or.inl (by omega)
    rw [Char.ofNat, dif_pos valid]
    rfl
  exact UInt8.toNat_inj.1 (by rw [← read byte, equal, read])

theorem SecurityRuntime.knowing_distinctDigests {digests : List (Bytes × String)}
    (injective : ∀ first ∈ digests, ∀ second ∈ digests, first.2 = second.2 → first.1 = second.1)
    (hexadecimal : ∀ entry ∈ digests, entry.2.toList.head? ≠ some '#') :
    (knowing digests).DistinctDigests := by
  intro _ _ message otherMessage same
  simp only [knowing] at same
  have member {message : Bytes} {entry : Bytes × String}
      (found : digests.find? (·.1 = message) = some entry) :
      entry ∈ digests ∧ entry.1 = message :=
    ⟨List.mem_of_find?_eq_some found, by simpa using List.find?_some found⟩
  cases first : digests.find? (·.1 = message) with
  | some entry =>
      obtain ⟨known, rfl⟩ := member first
      cases second : digests.find? (·.1 = otherMessage) with
      | some other =>
          obtain ⟨otherKnown, rfl⟩ := member second
          simp only [first, second] at same
          exact injective _ known _ otherKnown same
      | none =>
          simp only [first, second] at same
          exact absurd (by rw [same]; simp) (hexadecimal _ known)
  | none =>
      cases second : digests.find? (·.1 = otherMessage) with
      | some other =>
          obtain ⟨otherKnown, rfl⟩ := member second
          simp only [first, second] at same
          exact absurd (by rw [← same]; simp) (hexadecimal _ otherKnown)
      | none =>
          simp only [first, second, String.ofList_inj, List.cons.injEq, true_and] at same
          exact List.map_injective_iff.2 (fun _ _ equal => ofNat_toNat_inj equal) same

/-- A sender's request as the documentation asks for it: the timestamp is the receiver's, and
the signature is the HMAC of `"1700000000.{}"` under the configured secret. -/
def documentedHeaders : Headers :=
  [("x-webhook-timestamp", "1700000000"),
   ("x-webhook-signature", "97926816e98fbb41ccb1673225ff29a2f35369099990e1b1561651e7bd097ebf")]

def documentedSecurity : SecurityConfig where
  webhookSecret := "s3cret"
  webhookSecretPrevious := ""
  maxWebhookBodyBytes := 1048576
  requireWebhookAuth := true
  webhookReplayProtectionEnabled := true
  webhookReplayMaxSkewSeconds := 300

/-- HMAC-SHA256 under `"s3cret"` on the messages below. -/
def documentedRuntime : SecurityRuntime :=
  .knowing
    [(encodeUtf8 "{}", "adbde1ce40c89c14215687d5d762a47df6dfaefcfad61e2e86718ffc8498571b"),
     (encodeUtf8 "1700000000.{}",
       "97926816e98fbb41ccb1673225ff29a2f35369099990e1b1561651e7bd097ebf"),
     (encodeUtf8 "1700000300.{}",
       "cdc890185a66986fcdb0461b0e677b1ca1d204c0fd5b8fe633a060a289d3cb39")]

theorem documentedRuntime_distinctDigests : documentedRuntime.DistinctDigests :=
  SecurityRuntime.knowing_distinctDigests (by decide) (by decide)

theorem wholeSeconds_natCast (seconds : Nat) : wholeSeconds (seconds : NNRat) = seconds := by
  simp [wholeSeconds]

theorem documented_validlySigned :
    ValidlySigned documentedRuntime documentedSecurity documentedHeaders (encodeUtf8 "{}")
      (1700000000 : Nat) [] where
  signed := by decide
  inWindow := ⟨1700000000, by decide, by rw [wholeSeconds_natCast]; decide⟩
  signature := ⟨"s3cret", by decide, by decide⟩
  unclaimed := by simp [NonceStore.Live, PyDict.get?]

/-- A request that is signed as documented is refused. -/
theorem documented_signature_is_refused :
    documentedRuntime.DistinctDigests ∧
      ¬ AcceptedWhenValidlySigned documentedRuntime documentedSecurity documentedHeaders
        (encodeUtf8 "{}") (1700000000 : Nat) .answered [] := by
  refine ⟨documentedRuntime_distinctDigests, fun exactly => ?_⟩
  exact not_accepted_of_signed documentedRuntime_distinctDigests rfl rfl
    documented_validlySigned.signed
    ((exactly documented_validlySigned.signed).2 documented_validlySigned)

theorem documented_acceptedWhenValidlySigned_iff :
    AcceptedWhenValidlySigned documentedRuntime documentedSecurity documentedHeaders
        (encodeUtf8 "{}") (1700000000 : Nat) .answered [] ↔
      ¬ ValidlySigned documentedRuntime documentedSecurity documentedHeaders
        (encodeUtf8 "{}") (1700000000 : Nat) [] :=
  acceptedWhenValidlySigned_iff documentedRuntime_distinctDigests rfl rfl

end WebhookWise
