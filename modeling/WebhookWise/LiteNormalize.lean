import WebhookWise.PythonTexts

/-!
# The internal shape of a Lite alert

`normalize` recognises what Alertmanager and Grafana send, and dumps whatever else arrives.  The
identity that it hashes joins the source, a text and whether the alert is resolved; the text is
the label set of an Alertmanager alert, rendered with its keys in order, or a title.
-/

namespace WebhookWise

open SurrogateTexts RenderedJson PythonTexts

namespace LiteNormalize

/-! ## The runtime -/

/-- `str.encode` refuses a text with unpaired surrogates. -/
structure UnicodeEncodeError where
  object : PyText
deriving DecidableEq

/-- `text.encode()`. -/
def encoded (text : PyText) : Except UnicodeEncodeError String :=
  match text.encode with
  | some bytes => .ok bytes
  | none => .error ⟨text⟩

/-- What the standard library answers. -/
structure LiteRuntime extends TextRuntime where
  sha256Hexdigest : String → String

/-! ## The shapes -/

def resolvedMarkers : List PyText :=
  ["resolved", "ok", "recovery", "恢复", "已恢复"].map PyText.ofString

/-- What a detector makes of a payload. -/
structure Parsed where
  title : PyText
  body : PyText
  status : PyText
  identity : PyText

def first (payload : Entries) (keys : List String) : PyText :=
  (keys.findSome? fun key =>
    match PyJson.get? payload key with
    | some (.str text) => if (stripText text).isEmpty then none else some (stripText text)
    | _ => none).getD []

/-- `value if isinstance(value, dict) else {}`. -/
def dictOr : Option PyJson → Entries
  | some (.dict entries) => entries
  | _ => []

def firstAlert? (payload : Entries) : Option (Entries × Nat) :=
  match PyJson.get? payload "alerts" with
  | some (.list (.dict alert :: others)) => some (alert, others.length)
  | _ => none

section

variable (runtime : LiteRuntime)

def alertTitle (alert : Entries) : PyText :=
  strOfFirst runtime.toTextRuntime
    [PyJson.get? (dictOr (PyJson.get? alert "annotations")) "summary",
      PyJson.get? (dictOr (PyJson.get? alert "labels")) "alertname"]
    (PyText.ofString "alert")

def alertBody (alert : Entries) (others : Nat) : PyText :=
  let body :=
    strOfFirst runtime.toTextRuntime
      [PyJson.get? (dictOr (PyJson.get? alert "annotations")) "description"]
      (render (.dict (dictOr (PyJson.get? alert "labels"))))
  if others = 0 then body
  else body ++ PyText.ofString "\n(+" ++ PyText.ofString (toString others) ++
    PyText.ofString " more alerts in this group)"

def alertmanager (payload : Entries) : Option Parsed :=
  (firstAlert? payload).map fun (alert, others) =>
    { title := alertTitle runtime alert
      body := alertBody runtime alert others
      status := strOfFirst runtime.toTextRuntime
                    [PyJson.get? alert "status", PyJson.get? payload "status"]
                    (PyText.ofString "firing")
      identity := orText (render (sortKeys (.dict (dictOr (PyJson.get? alert "labels")))))
                    (alertTitle runtime alert) }

def grafana (payload : Entries) : Option Parsed :=
  if (PyJson.get? payload "ruleName").isNone && (PyJson.get? payload "evalMatches").isNone then
    none
  else
    let title := orText (first payload ["title", "ruleName"]) (PyText.ofString "grafana alert")
    some
      { title := title
        body := first payload ["message", "ruleUrl"]
        status := orText (first payload ["state"]) (PyText.ofString "alerting")
        identity := title }

def generic (payload : Entries) : Parsed :=
  let title :=
    orText (first payload ["title", "subject", "name", "alertname", "event", "message"])
      (PyText.ofString "webhook event")
  { title := title
    body := orText (first payload ["body", "description", "content", "detail", "text"])
                  ((render (.dict payload)).take 2000)
    status := orText (first payload ["status", "state", "severity"]) (PyText.ofString "firing")
    identity := title }

/-- `payload if isinstance(payload, dict) else {"body": str(payload)}`. -/
def asDict : PyJson → Entries
  | .dict entries => entries
  | payload => [(PyText.ofString "body", .str (pyStr runtime.toTextRuntime payload))]

def parse (payload : PyJson) : Parsed :=
  ((alertmanager runtime (asDict runtime payload)).or (grafana (asDict runtime payload))).getD
    (generic (asDict runtime payload))

def isResolved (parsed : Parsed) : Bool :=
  resolvedMarkers.any fun marker => isWithin marker (runtime.lower parsed.status)

/-- `f"{source}|{identity}|{resolved}"`. -/
def hashText (source identity : PyText) (resolved : Bool) : PyText :=
  source ++ .scalar '|' :: (identity ++ .scalar '|' :: boolText resolved)

/-- `hexdigest()[:32]`. -/
def shortDigest (bytes : String) : String :=
  String.ofList ((runtime.sha256Hexdigest bytes).toList.take 32)

/-- What `normalize` returns. -/
structure LiteEvent where
  source : PyText
  title : PyText
  body : PyText
  resolved : Bool
  alertHash : String
  raw : PyJson

def normalize (source : PyText) (payload : PyJson) : Except UnicodeEncodeError LiteEvent :=
  let parsed := parse runtime payload
  let resolved := isResolved runtime parsed
  (encoded (hashText source parsed.identity resolved)).map fun bytes =>
    { source := source
      title := parsed.title.take 300
      body := parsed.body.take 4000
      resolved := resolved
      alertHash := shortDigest runtime bytes
      raw := .dict (asDict runtime payload) }

end

/-! ## Identities -/

/-- What tells an alert from the others of its source. -/
inductive Identity where
  | labels (labelSet : PyJson)
  | title (text : PyText)

/-- What the identity of a payload is made of. -/
inductive Shape where
  | labelled (entry : PyText × PyJson) (entries : Entries)
  | unlabelled (title : PyText)
  | titled (title : PyText)

namespace Shape

def ofPayload (runtime : LiteRuntime) (payload : PyJson) : Shape :=
  match firstAlert? (asDict runtime payload) with
  | some (alert, _) =>
      match dictOr (PyJson.get? alert "labels") with
      | [] => .unlabelled (alertTitle runtime alert)
      | entry :: entries => .labelled entry entries
  | none => .titled (parse runtime payload).title

/-- A label set is one whatever the order of its keys. -/
def identity : Shape → Identity
  | labelled entry entries => .labels (sortKeys (.dict (entry :: entries)))
  | unlabelled title => .title title
  | titled title => .title title

def text : Shape → PyText
  | labelled entry entries => render (sortKeys (.dict (entry :: entries)))
  | unlabelled _ => PyText.ofString "{}"
  | titled title => title

/-- What two shapes must be for their texts to agree just when their identities do. -/
def ToldApart : Shape → Shape → Prop
  | labelled _ _, labelled _ _ => True
  | labelled _ _, unlabelled _ => True
  | unlabelled _, labelled _ _ => True
  | titled _, titled _ => True
  | unlabelled title, unlabelled other => title = other
  | labelled entry entries, titled title => title ≠ render (sortKeys (.dict (entry :: entries)))
  | titled title, labelled entry entries => title ≠ render (sortKeys (.dict (entry :: entries)))
  | unlabelled title, titled other => other = PyText.ofString "{}" ↔ other = title
  | titled other, unlabelled title => other = PyText.ofString "{}" ↔ other = title

private theorem render_labels_ne_empty (entry : PyText × PyJson) (entries : Entries) :
    render (sortKeys (.dict (entry :: entries))) ≠ PyText.ofString "{}" := by
  intro same
  have isEmpty : sortKeys (.dict (entry :: entries)) = .dict [] := render_injective same
  obtain ⟨key, value⟩ := entry
  simp only [sortKeys, sortEntries, PyJson.dict.injEq] at isEmpty
  have lengths := congrArg List.length isEmpty
  rw [List.length_insertionSort] at lengths
  cases lengths

theorem toldApart_iff (shape other : Shape) :
    ToldApart shape other ↔ (shape.text = other.text ↔ shape.identity = other.identity) := by
  cases shape with
  | labelled entry entries =>
      cases other with
      | labelled next others =>
          refine ⟨fun _ => ⟨fun same => ?_, fun same => ?_⟩, fun _ => trivial⟩
          · exact congrArg Identity.labels (render_injective same)
          · exact congrArg render (Identity.labels.inj same)
      | unlabelled title =>
          have apart := render_labels_ne_empty entry entries
          simp [ToldApart, text, identity, apart]
      | titled title => simp [ToldApart, text, identity, eq_comm]
  | unlabelled title =>
      cases other with
      | labelled next others =>
          have apart := (render_labels_ne_empty next others).symm
          simp [ToldApart, text, identity, apart]
      | unlabelled otherTitle => simp [ToldApart, text, identity]
      | titled otherTitle =>
          simp only [ToldApart, text, identity, Identity.title.injEq]
          exact iff_congr eq_comm eq_comm
  | titled title =>
      cases other with
      | labelled | unlabelled | titled => simp [ToldApart, text, identity]

end Shape

private theorem orText_of_ne_nil {first : PyText} (nonempty : first ≠ []) (second : PyText) :
    orText first second = first := by
  rw [orText, if_neg]
  rwa [List.isEmpty_iff]

private theorem render_ne_nil (value : PyJson) : render value ≠ [] := by
  obtain ⟨head, more, isText, -⟩ := render_eq_cons value
  rw [isText]
  exact List.cons_ne_nil _ _

theorem parse_identity (runtime : LiteRuntime) (payload : PyJson) :
    (parse runtime payload).identity = (Shape.ofPayload runtime payload).text := by
  unfold parse Shape.ofPayload alertmanager
  cases isFirst : firstAlert? (asDict runtime payload) with
  | some found =>
      obtain ⟨alert, others⟩ := found
      simp only [Option.map_some, Option.some_or, Option.getD_some]
      rw [orText_of_ne_nil (render_ne_nil _)]
      cases dictOr (PyJson.get? alert "labels") <;> rfl
  | none =>
      simp only [Option.map_none, Option.none_or]
      unfold grafana
      split <;> simp [Shape.text, generic, parse, alertmanager, grafana, *]

/-! ## A runtime for ASCII texts -/

def LiteRuntime.ascii (digests : PyDict String) : LiteRuntime where
  toTextRuntime := .ascii
  sha256Hexdigest bytes := (digests.get? bytes).getD ""

def titledPayload (title : String) : PyJson :=
  .dict [(PyText.ofString "title", .str (PyText.ofString title))]

def unlabelledPayload (summary : String) : PyJson :=
  .dict [(PyText.ofString "alerts", .list [.dict [
    (PyText.ofString "labels", .dict []),
    (PyText.ofString "annotations",
      .dict [(PyText.ofString "summary", .str (PyText.ofString summary))])]])]

def knownDigests : LiteRuntime :=
  .ascii [
    ("grafana|CPU high|False", "a4bd8c40b9b280e7f1fb38915daf5cb4799d1288fc8cd7a0cf29519145d65424"),
    ("zabbix|CPU high|False", "9e3eeb0f220182b72d37b22c5501626c0dc7ecaede932760803ecb449be20ced"),
    ("alertmanager|\x7b\x7d|False",
      "45ab352df6c9a7eedd4945be9e7ad3fae2f4f41b14032d320694b447155029f7")]

/-! ## The hash -/

section

variable (runtime : LiteRuntime)

def hashedText (source : PyText) (payload : PyJson) : PyText :=
  hashText source (parse runtime payload).identity (isResolved runtime (parse runtime payload))

/-- The two texts do not collide under the truncated digest. -/
def NoCollision (text other : PyText) : Prop :=
  ∀ bytes otherBytes, text.encode = some bytes → other.encode = some otherBytes →
    shortDigest runtime bytes = shortDigest runtime otherBytes → bytes = otherBytes

/-- The longer source holds a separator, and the text after the shorter one goes on from there. -/
def Straddles (source text other otherText : PyText) : Prop :=
  ∃ middle, other = source ++ .scalar '|' :: middle ∧ text = middle ++ .scalar '|' :: otherText

/-- What two alerts must be for the hash to tell them apart exactly. -/
def ToldApart (source : PyText) (payload : PyJson) (other : PyText) (otherPayload : PyJson) :
    Prop :=
  isResolved runtime (parse runtime payload) = isResolved runtime (parse runtime otherPayload) →
    ¬ Straddles source (Shape.ofPayload runtime payload).text other
        (Shape.ofPayload runtime otherPayload).text ∧
      ¬ Straddles other (Shape.ofPayload runtime otherPayload).text source
          (Shape.ofPayload runtime payload).text ∧
        (source = other →
          (Shape.ofPayload runtime payload).ToldApart (Shape.ofPayload runtime otherPayload))

end

private theorem joined_eq_iff {source text other otherText : PyText} :
    source ++ .scalar '|' :: text = other ++ .scalar '|' :: otherText ↔
      (source = other ∧ text = otherText) ∨ Straddles source text other otherText ∨
        Straddles other otherText source text := by
  constructor
  · intro same
    rcases List.append_eq_append_iff.1 same with ⟨more, rfl, rest⟩ | ⟨more, rfl, rest⟩
    · cases more with
      | nil => exact Or.inl ⟨(List.append_nil _).symm, (List.cons.inj rest).2⟩
      | cons character middle =>
          obtain ⟨rfl, isText⟩ := List.cons.inj rest
          exact Or.inr (Or.inl ⟨middle, rfl, isText⟩)
    · cases more with
      | nil => exact Or.inl ⟨List.append_nil _, (List.cons.inj rest).2.symm⟩
      | cons character middle =>
          obtain ⟨rfl, isText⟩ := List.cons.inj rest
          exact Or.inr (Or.inr ⟨middle, rfl, isText⟩)
  · rintro (⟨rfl, rfl⟩ | ⟨middle, rfl, rfl⟩ | ⟨middle, rfl, rfl⟩)
    · rfl
    · simp
    · simp

private theorem marked_cancel {before other : PyText} {resolved otherResolved : Bool}
    (same : before ++ .scalar '|' :: boolText resolved =
      other ++ .scalar '|' :: boolText otherResolved) :
    before = other ∧ resolved = otherResolved := by
  have backwards := congrArg List.reverse same
  cases resolved <;> cases otherResolved <;>
    simp [boolText, PyText.ofString] at backwards ⊢ <;> exact backwards

theorem hashText_eq_iff {source text other otherText : PyText} {resolved otherResolved : Bool} :
    hashText source text resolved = hashText other otherText otherResolved ↔
      resolved = otherResolved ∧
        ((source = other ∧ text = otherText) ∨ Straddles source text other otherText ∨
          Straddles other otherText source text) := by
  have grouped : ∀ source text : PyText, ∀ resolved : Bool,
      hashText source text resolved =
        source ++ .scalar '|' :: text ++ .scalar '|' :: boolText resolved := by
    intro source text resolved
    simp [hashText]
  rw [grouped, grouped, ← joined_eq_iff]
  constructor
  · intro same
    obtain ⟨sameBefore, sameMark⟩ := marked_cancel same
    exact ⟨sameMark, sameBefore⟩
  · rintro ⟨rfl, sameBefore⟩
    rw [sameBefore]

theorem encoded_eq_ok_iff {text : PyText} {bytes : String} :
    encoded text = .ok bytes ↔ text.encode = some bytes := by
  unfold encoded
  cases text.encode <;> simp

theorem normalize_eq (runtime : LiteRuntime) (source : PyText) (payload : PyJson) :
    normalize runtime source payload = (encoded (hashedText runtime source payload)).map fun bytes =>
      { source := source
        title := (parse runtime payload).title.take 300
        body := (parse runtime payload).body.take 4000
        resolved := isResolved runtime (parse runtime payload)
        alertHash := shortDigest runtime bytes
        raw := .dict (asDict runtime payload) } :=
  rfl

theorem normalize_spec {runtime : LiteRuntime} {source : PyText} {payload : PyJson}
    {event : LiteEvent} (isEvent : normalize runtime source payload = .ok event) :
    event.source = source ∧ event.resolved = isResolved runtime (parse runtime payload) ∧
      ∃ bytes, (hashedText runtime source payload).encode = some bytes ∧
        event.alertHash = shortDigest runtime bytes := by
  rw [normalize_eq] at isEvent
  cases isEncoded : encoded (hashedText runtime source payload) with
  | error failure =>
      rw [isEncoded] at isEvent
      cases isEvent
  | ok bytes =>
      rw [isEncoded] at isEvent
      cases isEvent
      exact ⟨rfl, rfl, bytes, encoded_eq_ok_iff.1 isEncoded, rfl⟩

theorem alertHash_eq_iff_hashedText {runtime : LiteRuntime} {source other : PyText}
    {payload otherPayload : PyJson} {event otherEvent : LiteEvent}
    (isEvent : normalize runtime source payload = .ok event)
    (isOther : normalize runtime other otherPayload = .ok otherEvent)
    (noCollision : NoCollision runtime (hashedText runtime source payload)
      (hashedText runtime other otherPayload)) :
    event.alertHash = otherEvent.alertHash ↔
      hashedText runtime source payload = hashedText runtime other otherPayload := by
  obtain ⟨-, -, bytes, isBytes, isHash⟩ := normalize_spec isEvent
  obtain ⟨-, -, otherBytes, areBytes, isOtherHash⟩ := normalize_spec isOther
  rw [isHash, isOtherHash]
  constructor
  · intro same
    obtain rfl := noCollision bytes otherBytes isBytes areBytes same
    exact PyText.encode_inj isBytes areBytes
  · intro same
    rw [same, areBytes] at isBytes
    rw [Option.some.inj isBytes]

/-- The hash stands for the source, the mark and the identity of an alert just as far as the
hashed texts tell these apart. -/
theorem sameHash_iff_sameIdentity_iff {runtime : LiteRuntime} {source other : PyText}
    {payload otherPayload : PyJson} {event otherEvent : LiteEvent}
    (isEvent : normalize runtime source payload = .ok event)
    (isOther : normalize runtime other otherPayload = .ok otherEvent)
    (noCollision : NoCollision runtime (hashedText runtime source payload)
      (hashedText runtime other otherPayload)) :
    (event.alertHash = otherEvent.alertHash ↔
        source = other ∧ event.resolved = otherEvent.resolved ∧
          (Shape.ofPayload runtime payload).identity =
            (Shape.ofPayload runtime otherPayload).identity) ↔
      ToldApart runtime source payload other otherPayload := by
  obtain ⟨-, isMark, -⟩ := normalize_spec isEvent
  obtain ⟨-, isOtherMark, -⟩ := normalize_spec isOther
  rw [alertHash_eq_iff_hashedText isEvent isOther noCollision, hashedText, hashedText,
    hashText_eq_iff, parse_identity, parse_identity, isMark, isOtherMark, ToldApart]
  have apart := Shape.toldApart_iff (Shape.ofPayload runtime payload)
    (Shape.ofPayload runtime otherPayload)
  have differ : ∀ {source text other otherText : PyText},
      Straddles source text other otherText → source ≠ other := by
    rintro source text other otherText ⟨middle, rfl, -⟩ same
    exact absurd (congrArg List.length same) (by simp)
  constructor
  · intro exactly sameMark
    refine ⟨fun straddles => ?_, fun straddles => ?_, ?_⟩
    · exact differ straddles (exactly.1 ⟨sameMark, Or.inr (Or.inl straddles)⟩).1
    · exact differ straddles (exactly.1 ⟨sameMark, Or.inr (Or.inr straddles)⟩).1.symm
    · rintro rfl
      refine apart.2 ⟨fun sameText => ?_, fun sameIdentity => ?_⟩
      · exact (exactly.1 ⟨sameMark, Or.inl ⟨rfl, sameText⟩⟩).2.2
      · obtain ⟨-, sameText | straddles | straddles⟩ := exactly.2 ⟨rfl, sameMark, sameIdentity⟩
        · exact sameText.2
        · exact absurd rfl (differ straddles)
        · exact absurd rfl (differ straddles)
  · intro kept
    constructor
    · rintro ⟨sameMark, ⟨rfl, sameText⟩ | straddles | straddles⟩
      · exact ⟨rfl, sameMark, (apart.1 ((kept sameMark).2.2 rfl)).1 sameText⟩
      · exact absurd straddles (kept sameMark).1
      · exact absurd straddles (kept sameMark).2.1
    · rintro ⟨rfl, sameMark, sameIdentity⟩
      exact ⟨sameMark, Or.inl ⟨rfl, (apart.1 ((kept sameMark).2.2 rfl)).2 sameIdentity⟩⟩

theorem sameHash_iff_sameIdentity_iff_of_two_sources :
    ∃ event otherEvent,
      normalize knownDigests (PyText.ofString "grafana") (titledPayload "CPU high") = .ok event ∧
        normalize knownDigests (PyText.ofString "zabbix") (titledPayload "CPU high") =
          .ok otherEvent ∧
        ((event.alertHash = otherEvent.alertHash ↔
            PyText.ofString "grafana" = PyText.ofString "zabbix" ∧
              event.resolved = otherEvent.resolved ∧
                (Shape.ofPayload knownDigests (titledPayload "CPU high")).identity =
                  (Shape.ofPayload knownDigests (titledPayload "CPU high")).identity) ↔
          ToldApart knownDigests (PyText.ofString "grafana") (titledPayload "CPU high")
            (PyText.ofString "zabbix") (titledPayload "CPU high")) := by
  refine ⟨_, _, rfl, rfl, sameHash_iff_sameIdentity_iff rfl rfl ?_⟩
  intro bytes otherBytes isBytes areBytes same
  have isFirst : (hashedText knownDigests (PyText.ofString "grafana")
      (titledPayload "CPU high")).encode = some "grafana|CPU high|False" := by decide +kernel
  have isSecond : (hashedText knownDigests (PyText.ofString "zabbix")
      (titledPayload "CPU high")).encode = some "zabbix|CPU high|False" := by decide +kernel
  rw [isFirst] at isBytes
  rw [isSecond] at areBytes
  obtain rfl := Option.some.inj isBytes
  obtain rfl := Option.some.inj areBytes
  exact absurd same (by decide +kernel)

/-- Two alerts without labels and with different titles have one hash. -/
theorem sameHash_of_unlabelled :
    ∃ event otherEvent,
      normalize knownDigests (PyText.ofString "alertmanager") (unlabelledPayload "CPU high") =
          .ok event ∧
        normalize knownDigests (PyText.ofString "alertmanager") (unlabelledPayload "Disk full") =
          .ok otherEvent ∧
        event.alertHash = otherEvent.alertHash ∧
          (Shape.ofPayload knownDigests (unlabelledPayload "CPU high")).identity ≠
            (Shape.ofPayload knownDigests (unlabelledPayload "Disk full")).identity := by
  refine ⟨_, _, rfl, rfl, rfl, ?_⟩
  intro same
  have sameTitle : PyText.ofString "CPU high" = PyText.ofString "Disk full" := Identity.title.inj same
  exact absurd sameTitle (by decide)

end LiteNormalize

end WebhookWise
