import WebhookWise.KnowledgeBase
import WebhookWise.IncidentScans
import WebhookWise.PagedBacklogs
import Mathlib.Data.Prod.Lex

/-!
# Knowledge drafts from resolved incidents

When an incident has been summarized, a sweep composes the summary and the operators' resolution
record into a document of the knowledge base, as a draft.  Operators edit, publish or discard
the draft.  A sweep takes the incidents without a document, and those whose draft is older than
the resolution record, the latest first.
-/

namespace WebhookWise

open SqlTable PagedBacklogs

/-- What sedimentation reads of a row of `incidents`. -/
structure ResolvedIncident where
  id : Nat
  title : String
  status : IncidentGrouping.IncidentStatus
  source : Option String
  correlationDimensions : JsonObject
  /-- `none` for SQL's `NULL`, which is not the JSON `null`. -/
  summaryAnalysis : Option Json
  resolutionRecord : Json
  resolutionRecordUpdatedAt : Option DateTime
  updatedAt : Option DateTime

variable (python : PythonRuntime) {incidentIds : List Nat}

abbrev IncidentTable := Table ResolvedIncident.id

namespace IncidentSediment

open KnowledgeBase

/-! ## The text of a draft -/

def draftBatch : Nat := 5
def sourceRefPrefix : String := "incident:"

def incidentSourceRef (incidentId : Nat) : String :=
  sourceRefPrefix ++ toString incidentId

def labelledSection (label text : String) : Option String :=
  if strip text = "" then none else some ("## " ++ label ++ "\n" ++ strip text)

def changeSection (confirmed : JsonObject) : Option String :=
  let association := strip (confirmed.strOr python "change_association" "")
  if association = "" then none
  else
    some ("## 变更关联\n" ++
      match confirmed.get? "related_change_id" with
      | some (.int change) => association ++ "（变更 #" ++ toString change ++ "）"
      | some (.bool change) => association ++ "（变更 #" ++ (Json.bool change).pyStr python ++ "）"
      | _ => association)

def rawRecommendations (summary confirmed : JsonObject) : List Json :=
  match confirmed.get? "follow_ups" with
  | some (.list followUps) => followUps
  | _ =>
      match summary.get? "recommendations" with
      | some (.list recommendations) => recommendations
      | _ => []

def composeKbContent (summary confirmed : JsonObject) : String :=
  let recommendations := ((rawRecommendations summary confirmed).map fun recommendation =>
    strip (recommendation.pyStr python)).filter (· ≠ "")
  "\n\n".intercalate <| List.reduceOption
    [ labelledSection "概要" (summary.strOr python "summary" "")
    , labelledSection "根因分类" (confirmed.strOr python "root_cause_category" "")
    , labelledSection "根因"
        (confirmed.strOr python "root_cause" (summary.strOr python "root_cause" ""))
    , labelledSection "影响" (confirmed.strOr python "impact" (summary.strOr python "impact" ""))
    , labelledSection "处置过程" (confirmed.strOr python "resolution" "")
    , labelledSection "恢复证据" (confirmed.strOr python "recovery_evidence" "")
    , labelledSection "处置负责人" (confirmed.strOr python "owner" "")
    , labelledSection "时间线" (summary.strOr python "timeline_summary" "")
    , changeSection python confirmed
    , if recommendations.isEmpty then none
      else some ("## 后续事项\n" ++ "\n".intercalate (recommendations.map ("- " ++ ·))) ]

def unlessBlank (text : String) : Option String :=
  if strip text = "" then none else some text

theorem written_of_unlessBlank {text content : String} (isText : unlessBlank text = some content) :
    strip content ≠ "" := by
  unfold unlessBlank at isText
  split at isText
  · cases isText
  · obtain rfl := Option.some.inj isText
    assumption

def identityTags (dimensions : JsonObject) : JsonObject :=
  (dimensions.filter fun entry =>
    ["service", "project", "environment", "region"].contains entry.1 &&
      strip (entry.2.pyStr python) ≠ "").map fun entry => (entry.1, .str (entry.2.pyStr python))

end IncidentSediment

namespace ResolvedIncident

open KnowledgeBase IncidentSediment

variable (settings : KBSettings) (incident : ResolvedIncident)

def sourceRef : String :=
  incidentSourceRef incident.id

def confirmed : JsonObject :=
  match incident.resolutionRecord with
  | .dict confirmed => confirmed
  | _ => []

/-- The text of the draft: a summary that is no object has none, nor has a blank text. -/
def draftText : Option String :=
  match incident.summaryAnalysis with
  | some (.dict summary) =>
      unlessBlank (composeKbContent settings.python summary incident.confirmed)
  | _ => none

def draftTitle : String :=
  truncated ("事故复盘：" ++ incident.title) 300

/-- The call of `ingest_document` for a draft. -/
def draftCall (content : String) : IngestCall where
  title := incident.draftTitle
  content := content
  sourceRef := some incident.sourceRef
  tags := some (PyDict.updated
    [("kind", .str "incident_resolution"), ("incident_id", .int incident.id),
      ("source", .str (incident.source.getD ""))]
    (identityTags settings.python incident.correlationDimensions))
  status := "draft"

def summarized : Bool :=
  incident.summaryAnalysis.isSome && (incident.status = .quiet || incident.status = .closed)

end ResolvedIncident

namespace IncidentSediment

open KnowledgeBase

/-! ## Sweeps and operators -/

/-- `EXISTS` a row of the document with a property. -/
def existsRow (documents : KBTable) (sourceRef : String) (selected : KBDocument → Bool) : Bool :=
  documents.rows.any fun row => row.sourceRef = some sourceRef && selected row

def hasAnyDocument (documents : KBTable) (sourceRef : String) : Bool :=
  existsRow documents sourceRef fun _ => true

def hasPublishedDocument (documents : KBTable) (sourceRef : String) : Bool :=
  existsRow documents sourceRef fun row => row.status = "published"

def hasDraft (documents : KBTable) (sourceRef : String) : Bool :=
  existsRow documents sourceRef fun row => row.status = "draft"

def hasFreshDraft (documents : KBTable) (sourceRef : String) (since : DateTime) : Bool :=
  existsRow documents sourceRef fun row => row.status = "draft" && since ≤ row.updatedAt

/-- The `WHERE` of `_incidents_pending_sediment`. -/
def isPending (documents : KBTable) (incident : ResolvedIncident) : Bool :=
  incident.summarized &&
    (!hasAnyDocument documents incident.sourceRef ||
      match incident.resolutionRecordUpdatedAt with
      | none => false
      | some since =>
          !hasPublishedDocument documents incident.sourceRef &&
            !hasFreshDraft documents incident.sourceRef since)

/-- `updated_at DESC, id DESC`, where a `NULL` comes first. -/
def sweepOrder (incident : ResolvedIncident) : Nat ×ₗ Int ×ₗ Int :=
  toLex (if incident.updatedAt.isSome then 1 else 0,
    toLex (-(incident.updatedAt.getD 0), -(incident.id : Int)))

def pendingIncidents (incidents : IncidentTable) (documents : KBTable) : List ResolvedIncident :=
  incidents.rows.filter (isPending documents)

/-- `_incidents_pending_sediment`, with the rows of the ids. -/
def incidentsPendingSediment (incidents : IncidentTable) (documents : KBTable) :
    List ResolvedIncident :=
  page sweepOrder draftBatch (pendingIncidents incidents documents)

section Statements

variable (settings : KBSettings) (now : DateTime)

/-- `draft_kb_from_incident`: the documents, and whether a draft was written; `none` where the
database refuses it. -/
def draftKbFromIncident (incidents : IncidentTable) (documents : KBTable) (incidentId : Nat) :
    Option (KBTable × Bool) :=
  match incidents.lookup incidentId with
  | none => some (documents, false)
  | some incident =>
      if hasPublishedDocument documents incident.sourceRef then some (documents, false)
      else
        match incident.draftText settings with
        | none => some (documents, false)
        | some content =>
            (ingestDocument settings now (incident.draftCall settings content) documents).map
              (·, true)

/-- The loop of `run_pending_kb_drafts`: the documents, and the incidents that were drafted. -/
def draftAll (incidents : IncidentTable) : List Nat → KBTable → Option (KBTable × List Nat)
  | [], documents => some (documents, [])
  | incidentId :: incidentIds, documents =>
      match draftKbFromIncident settings now incidents documents incidentId with
      | none => none
      | some (after, drafted) =>
          (draftAll incidents incidentIds after).map fun rest =>
            (rest.1, if drafted then incidentId :: rest.2 else rest.2)

/-- `run_pending_kb_drafts`.  It is one transaction; an error takes back all of it. -/
def runPendingKbDrafts (incidents : IncidentTable) (documents : KBTable) :
    KBTable × List Nat :=
  (draftAll settings now incidents
    ((incidentsPendingSediment incidents documents).map ResolvedIncident.id) documents).getD
      (documents, [])

def draftOf (sourceRef : String) (row : KBDocument) : Bool :=
  row.sourceRef = some sourceRef && row.status = "draft"

/-- The call of `ingest_document` for an edited draft. -/
def editCall (draft : KBDocument) (sourceRef content : String) : IngestCall where
  title := draft.title
  content := content
  sourceRef := some sourceRef
  tags := draft.tags
  status := "draft"

/-- `update_kb_draft`; an error leaves the documents. -/
def updateKbDraft (sourceRef content : String) (documents : KBTable) : KBTable :=
  match documents.selectFirst (fun first second => first.chunkIndex ≤ second.chunkIndex)
      (draftOf sourceRef) with
  | none => documents
  | some draft =>
      if strip content = "" then documents
      else (ingestDocument settings now (editCall draft sourceRef content) documents).getD documents

def publishedAt (row : KBDocument) : KBDocument :=
  { row with status := "published", updatedAt := now }

theorem publishedAt_id (row : KBDocument) : (publishedAt now row).id = row.id :=
  rfl

def publishKbDraft (sourceRef : String) (documents : KBTable) : KBTable :=
  documents.update (draftOf sourceRef) (publishedAt now) (publishedAt_id now)

def discardKbDraft (sourceRef : String) (documents : KBTable) : KBTable :=
  documents.delete (draftOf sourceRef)

def recorded (record : Json) (incident : ResolvedIncident) : ResolvedIncident :=
  { incident with
    resolutionRecord := record
    resolutionRecordUpdatedAt := some now
    updatedAt := some now }

theorem recorded_id (record : Json) (incident : ResolvedIncident) :
    (recorded now record incident).id = incident.id :=
  rfl

/-- What `apply_resolution_record` writes when a value has changed. -/
def applyResolutionRecord (incidentId : Nat) (record : Json) (incidents : IncidentTable) :
    IncidentTable :=
  incidents.update (fun incident => incident.id = incidentId) (recorded now record)
    (recorded_id now record)

end Statements

/-! ## Source references -/

theorem incidentSourceRef_injective : Function.Injective incidentSourceRef := by
  intro first second same
  have digits : sourceRefPrefix.toList ++ (toString first).toList =
      sourceRefPrefix.toList ++ (toString second).toList := by
    simpa [incidentSourceRef] using congrArg String.toList same
  exact Nat.repr_injective (String.toList_injective (List.append_cancel_left digits))

theorem incidentSourceRef_ne_empty (incidentId : Nat) : incidentSourceRef incidentId ≠ "" := by
  intro same
  have characters := congrArg String.toList same
  simp [incidentSourceRef, sourceRefPrefix] at characters

theorem draftTitle_ne (incident : ResolvedIncident) (incidentId : Nat) :
    incident.draftTitle ≠ incidentSourceRef incidentId := by
  intro same
  have first := congrArg (fun text => text.toList.head?) same
  simp [ResolvedIncident.draftTitle, truncated, incidentSourceRef, sourceRefPrefix] at first

/-! ## Frames -/

/-- The rows of a document are the same in both stores. -/
def SameDocument (sourceRef : String) (before after : KBTable) : Prop :=
  ∀ row, row.sourceRef = some sourceRef → (row ∈ after.rows ↔ row ∈ before.rows)

section Frames

variable {documents before middle after : KBTable} {sourceRef : String}
  {selected : KBDocument → Bool} {incident : ResolvedIncident}

theorem existsRow_iff :
    existsRow documents sourceRef selected = true ↔
      ∃ row ∈ documents.rows, row.sourceRef = some sourceRef ∧ selected row = true := by
  simp [existsRow]

theorem SameDocument.refl (sourceRef : String) (documents : KBTable) :
    SameDocument sourceRef documents documents :=
  fun _ _ => Iff.rfl

theorem SameDocument.existsRow_eq (same : SameDocument sourceRef before after) :
    existsRow after sourceRef selected = existsRow before sourceRef selected := by
  rw [Bool.eq_iff_iff, existsRow_iff, existsRow_iff]
  constructor
  · rintro ⟨row, member, own, isSelected⟩
    exact ⟨row, (same row own).1 member, own, isSelected⟩
  · rintro ⟨row, member, own, isSelected⟩
    exact ⟨row, (same row own).2 member, own, isSelected⟩

theorem SameDocument.isPending_eq (same : SameDocument incident.sourceRef before after) :
    isPending after incident = isPending before incident := by
  simp only [isPending, hasAnyDocument, hasPublishedDocument, hasFreshDraft, same.existsRow_eq]

theorem isPending_eq_false_of_fresh (some_ : hasAnyDocument documents incident.sourceRef = true)
    (fresh : ∀ since, incident.resolutionRecordUpdatedAt = some since →
      hasPublishedDocument documents incident.sourceRef = true ∨
        hasFreshDraft documents incident.sourceRef since = true) :
    isPending documents incident = false := by
  unfold isPending
  rw [some_, Bool.not_true, Bool.false_or]
  cases updated : incident.resolutionRecordUpdatedAt with
  | none => exact Bool.and_false _
  | some since =>
      rcases fresh since updated with published | fresh
      · simp [published]
      · simp [fresh]

theorem hasAnyDocument_of_not_pending (summarized : incident.summarized = true)
    (settled : isPending documents incident = false) :
    hasAnyDocument documents incident.sourceRef = true ∧
      ∀ since, incident.resolutionRecordUpdatedAt = some since →
        hasPublishedDocument documents incident.sourceRef = true ∨
          hasFreshDraft documents incident.sourceRef since = true := by
  unfold isPending at settled
  rw [summarized, Bool.true_and, Bool.or_eq_false_iff, Bool.not_eq_false'] at settled
  refine ⟨settled.1, fun since updated => ?_⟩
  have rest := settled.2
  rw [updated] at rest
  cases published : hasPublishedDocument documents incident.sourceRef with
  | true => exact Or.inl rfl
  | false => exact Or.inr (by simpa [published] using rest)

theorem not_published_of_pending (pending : isPending documents incident = true) :
    hasPublishedDocument documents incident.sourceRef = false := by
  rw [← Bool.not_eq_true]
  intro published
  have some_ : hasAnyDocument documents incident.sourceRef = true := by
    obtain ⟨row, member, own, _⟩ := existsRow_iff.1 published
    exact existsRow_iff.2 ⟨row, member, own, rfl⟩
  have settled := isPending_eq_false_of_fresh some_ fun _ _ => Or.inl published
  rw [pending] at settled
  cases settled

end Frames

/-! ## Ingestion for one document -/

/-- A text leaves a row of the document that is not older than `since`: a row of the document
holds one of its chunks already, or a chunk is new. -/
def leavesFresh (settings : KBSettings) (now : DateTime) (documents : KBTable)
    (sourceRef content : String) (since : DateTime) : Bool :=
  (chunkText content settings.maxChars).zipIdx.any fun entry =>
    existsRow documents sourceRef (fun row =>
      row.chunkIndex = entry.2 && row.content = entry.1 && since ≤ row.updatedAt) ||
      since ≤ now && !existsRow documents sourceRef fun row =>
        row.chunkIndex = entry.2 && row.content = entry.1

theorem SameDocument.leavesFresh_eq {settings : KBSettings} {now since : DateTime}
    {before after : KBTable} {sourceRef content : String}
    (same : SameDocument sourceRef before after) :
    leavesFresh settings now after sourceRef content since =
      leavesFresh settings now before sourceRef content since := by
  simp only [leavesFresh, same.existsRow_eq]

section Ingestion

variable {settings : KBSettings} {call : IngestCall} {documents after : KBTable}
  {now since : DateTime} {sourceRef reference : String}

theorem mem_ingested_of_apart {row : KBDocument} (sound : StoreSound settings documents)
    (named : call.sourceRef = some reference) (other : row.sourceRef ≠ some reference)
    (apart : row ∈ documents.rows → row.title = call.title →
      hashName row.sourceRef row.title ≠ hashName call.sourceRef call.title)
    (ingested : ingestDocument settings now call documents = some after) :
    row ∈ after.rows ↔ row ∈ documents.rows := by
  by_cases some_ : call.chunks settings = []
  · unfold ingestDocument at ingested
    rw [if_pos (by simp [some_])] at ingested
    obtain rfl := Option.some.inj ingested
    rfl
  · have accepted := accepted_of_ingested some_ ingested
    rw [← named] at other
    rw [mem_ingested_cases sound accepted some_ ingested]
    constructor
    · rintro (⟨isChunk, _⟩ | ⟨member, _⟩)
      · exact absurd isChunk.sourceRef other
      · exact member
    · intro member
      refine Or.inr ⟨member, fun new => ?_, ?_⟩
      · have shares := (sharesChunk_iff (sound.rows row member) accepted).2 new
        exact apart member shares.title shares.name
      · rw [IngestCall.scope, named, decide_eq_false_iff_not, ← named]
        exact other

theorem sameDocument_ingested (sound : StoreSound settings documents)
    (named : call.sourceRef = some reference) (other : reference ≠ sourceRef)
    (proper : sourceRef ≠ "")
    (untitled : ∀ row ∈ documents.rows, row.sourceRef = some sourceRef → row.title ≠ sourceRef)
    (ingested : ingestDocument settings now call documents = some after) :
    SameDocument sourceRef documents after := by
  intro row own
  apply mem_ingested_of_apart sound named _ _ ingested
  · rw [own]
    exact fun same => other (Option.some.inj same).symm
  · intro member title
    rw [own, named, hashName, hashName, if_neg proper]
    split
    · rw [← title]
      exact (untitled row member own).symm
    · exact other.symm

theorem mem_of_mem_ingested {row : KBDocument} (sound : StoreSound settings documents)
    (some_ : call.chunks settings ≠ []) (other : row.sourceRef ≠ call.sourceRef)
    (ingested : ingestDocument settings now call documents = some after)
    (member : row ∈ after.rows) : row ∈ documents.rows := by
  rcases (mem_ingested_cases sound (accepted_of_ingested some_ ingested) some_ ingested).1 member
    with ⟨isChunk, _⟩ | ⟨member, _⟩
  · exact absurd isChunk.sourceRef other
  · exact member

theorem ingested_own (sound : StoreSound settings documents) (written : strip call.content ≠ "")
    (named : call.sourceRef = some sourceRef)
    (ingested : ingestDocument settings now call documents = some after) :
    hasAnyDocument after sourceRef = true ∧
      ∀ row ∈ after.rows, row.sourceRef = some sourceRef →
        row.title = call.title ∧ row.status = call.status := by
  have some_ : call.chunks settings ≠ [] := chunkText_ne_nil written settings.maxChars
  have accepted := accepted_of_ingested some_ ingested
  constructor
  · obtain ⟨row, member, isChunk, _⟩ := exists_mem_ingested sound accepted ingested
      (List.getElem?_eq_getElem (List.length_pos_of_ne_nil some_))
    exact existsRow_iff.2 ⟨row, member, isChunk.sourceRef.trans named, rfl⟩
  · intro row member own
    have isChunk := isChunk_of_identity_eq sound accepted some_ ingested member (by
      rw [KBDocument.identity, IngestCall.identity, own, named]
      rfl)
    exact ⟨isChunk.title, isChunk.status⟩

theorem hasFreshDraft_ingested (sound : StoreSound settings documents)
    (named : call.sourceRef = some sourceRef) (proper : sourceRef ≠ "")
    (untitled : call.title ≠ sourceRef) (draft : call.status = "draft")
    (titled : ∀ row ∈ documents.rows, row.sourceRef = some sourceRef → row.title = call.title)
    (ingested : ingestDocument settings now call documents = some after)
    (leaves : leavesFresh settings now documents sourceRef call.content since = true) :
    hasFreshDraft after sourceRef since = true := by
  obtain ⟨⟨chunk, index⟩, listed, leaves⟩ := List.any_eq_true.1 leaves
  have at_ : (call.chunks settings)[index]? = some chunk := List.mem_zipIdx_iff_getElem?.1 listed
  have some_ : call.chunks settings ≠ [] := by
    intro none
    rw [none] at at_
    cases at_
  have accepted := accepted_of_ingested some_ ingested
  have nameEq : hashName call.sourceRef call.title = sourceRef := by
    rw [named, hashName, if_neg proper]
  obtain ⟨row, member, isChunk, _, origin⟩ := exists_written sound accepted ingested at_
  refine existsRow_iff.2 ⟨row, member, isChunk.sourceRef.trans named, ?_⟩
  rw [Bool.and_eq_true, decide_eq_true_eq, decide_eq_true_eq]
  refine ⟨isChunk.status.trans draft, ?_⟩
  rcases Bool.or_eq_true_iff.1 leaves with kept | new
  · obtain ⟨old, oldMember, oldOwn, isKept⟩ := existsRow_iff.1 kept
    simp only [Bool.and_eq_true, decide_eq_true_eq] at isKept
    have hash : old.contentHash = contentHash settings call.title index chunk call.sourceRef := by
      rw [(sound.rows old oldMember).hashed, oldOwn, titled old oldMember oldOwn, isKept.1.1,
        isKept.1.2, named]
    rcases origin with ⟨twin, twinMember, twinHash, updatedAt⟩ | ⟨absent, _⟩
    · rw [updatedAt, sound.unique twin twinMember old oldMember (twinHash.trans hash.symm)]
      exact isKept.2
    · exact absurd hash (absent old oldMember)
  · rw [Bool.and_eq_true, decide_eq_true_eq, Bool.not_eq_true'] at new
    rcases origin with ⟨old, oldMember, oldHash, _⟩ | ⟨_, updatedAt⟩
    · -- The row under the hash of the chunk is a row of the document.
      exfalso
      obtain ⟨name, title, oldIndex, oldContent⟩ :=
        (sound.rows old oldMember).eq_of_hash accepted oldHash
      have oldOwn : old.sourceRef = some sourceRef := by
        rw [nameEq] at name
        unfold hashName at name
        split at name
        · split at name
          · exact absurd (title.symm.trans name) untitled
          · rename_i isReference _
            rw [isReference, name]
        · exact absurd (title.symm.trans name) untitled
      have stands : existsRow documents sourceRef (fun row =>
          row.chunkIndex = index && row.content = chunk) = true :=
        existsRow_iff.2 ⟨old, oldMember, oldOwn, by simp [oldIndex, oldContent]⟩
      rw [new.2] at stands
      cases stands
    · rw [updatedAt]
      exact new.1

end Ingestion

/-! ## Sweeps -/

/-- The rows of the documents of incidents have the titles of their drafts. -/
def Titled (incidents : IncidentTable) (documents : KBTable) : Prop :=
  ∀ incident ∈ incidents.rows, ∀ row ∈ documents.rows,
    row.sourceRef = some incident.sourceRef → row.title = incident.draftTitle

/-- What a sweep has made of the document of an incident that it has drafted. -/
structure Drafted (settings : KBSettings) (now : DateTime) (incident : ResolvedIncident)
    (before after : KBTable) : Prop where
  unpublished : hasPublishedDocument before incident.sourceRef = false
  stored : hasAnyDocument after incident.sourceRef = true
  rows : ∀ row ∈ after.rows, row.sourceRef = some incident.sourceRef →
    row.title = incident.draftTitle ∧ row.status = "draft"
  text : ∃ content, incident.draftText settings = some content ∧
    ∀ since, leavesFresh settings now before incident.sourceRef content since = true →
      hasFreshDraft after incident.sourceRef since = true

section Sweeps

variable {settings : KBSettings} {now : DateTime} {incidents : IncidentTable}
  {before middle after : KBTable} {incident : ResolvedIncident} {incidentId : Nat}

theorem Drafted.of_before (drafted : Drafted settings now incident middle after)
    (same : SameDocument incident.sourceRef before middle) :
    Drafted settings now incident before after where
  unpublished := by
    rw [hasPublishedDocument, ← same.existsRow_eq]
    exact drafted.unpublished
  stored := drafted.stored
  rows := drafted.rows
  text := by
    obtain ⟨content, isText, fresh⟩ := drafted.text
    refine ⟨content, isText, fun since leaves => fresh since ?_⟩
    rw [same.leavesFresh_eq]
    exact leaves

theorem Drafted.of_after (drafted : Drafted settings now incident before middle)
    (same : SameDocument incident.sourceRef middle after) :
    Drafted settings now incident before after where
  unpublished := drafted.unpublished
  stored := by
    rw [hasAnyDocument, same.existsRow_eq]
    exact drafted.stored
  rows row member own := drafted.rows row ((same row own).1 member) own
  text := by
    obtain ⟨content, isText, fresh⟩ := drafted.text
    refine ⟨content, isText, fun since leaves => ?_⟩
    rw [hasFreshDraft, same.existsRow_eq]
    exact fresh since leaves

theorem written_of_draftText {content : String}
    (isText : incident.draftText settings = some content) : strip content ≠ "" := by
  unfold ResolvedIncident.draftText at isText
  split at isText
  · exact written_of_unlessBlank isText
  · cases isText

theorem drafted_of_written (sound : StoreSound settings before) (titled : Titled incidents before)
    (found : incidents.lookup incidentId = some incident)
    (written : draftKbFromIncident settings now incidents before incidentId = some (after, true)) :
    Drafted settings now incident before after ∧ StoreSound settings after ∧
      ∀ row, row.sourceRef ≠ some incident.sourceRef → (row ∈ after.rows ↔ row ∈ before.rows) := by
  unfold draftKbFromIncident at written
  rw [found] at written
  change (if hasPublishedDocument before incident.sourceRef = true then _ else _) = _ at written
  cases published : hasPublishedDocument before incident.sourceRef with
  | true => simp [published] at written
  | false =>
      rw [published, if_neg Bool.false_ne_true] at written
      cases isText : incident.draftText settings with
      | none => simp [isText] at written
      | some content =>
          simp only [isText, Option.map_eq_some_iff, Prod.mk.injEq, and_true] at written
          obtain ⟨_, ingested, rfl⟩ := written
          have named : (incident.draftCall settings content).sourceRef = some incident.sourceRef :=
            rfl
          have untitled : incident.draftTitle ≠ incident.sourceRef := draftTitle_ne _ _
          have proper : incident.sourceRef ≠ "" := incidentSourceRef_ne_empty _
          have own := ingested_own sound (written_of_draftText isText) named ingested
          refine ⟨⟨published, own.1, own.2, content, isText, fun since leaves => ?_⟩,
            storeSound_ingested sound ingested, fun row other => ?_⟩
          · exact hasFreshDraft_ingested sound named proper untitled rfl
              (titled incident (Table.lookup_eq_some_iff.1 found).1) ingested leaves
          · apply mem_ingested_of_apart sound named other _ ingested
            intro _ title
            rw [named]
            change _ ≠ if incident.sourceRef = "" then incident.draftTitle else incident.sourceRef
            rw [if_neg proper, hashName.eq_def]
            split
            · rename_i isReference
              split
              · rw [title]
                exact untitled
              · exact fun same => other (isReference.trans (congrArg some same))
            · rw [title]
              exact untitled

theorem eq_of_not_written
    (drafts : draftKbFromIncident settings now incidents before incidentId = some (after, false)) :
    after = before ∧ ∀ incident, incidents.lookup incidentId = some incident →
      hasPublishedDocument before incident.sourceRef = true ∨
        incident.draftText settings = none := by
  unfold draftKbFromIncident at drafts
  cases found : incidents.lookup incidentId with
  | none =>
      simp only [found, Option.some.injEq, Prod.mk.injEq, and_true] at drafts
      exact ⟨drafts.symm, fun incident absent => nomatch absent⟩
  | some incident =>
      rw [found] at drafts
      change (if hasPublishedDocument before incident.sourceRef = true then _ else _) = _ at drafts
      cases published : hasPublishedDocument before incident.sourceRef with
      | true =>
          simp only [published, if_true, Option.some.injEq, Prod.mk.injEq, and_true] at drafts
          refine ⟨drafts.symm, fun other same => ?_⟩
          obtain rfl := Option.some.inj same
          exact Or.inl published
      | false =>
          rw [published, if_neg Bool.false_ne_true] at drafts
          cases isText : incident.draftText settings with
          | none =>
              simp only [isText, Option.some.injEq, Prod.mk.injEq, and_true] at drafts
              refine ⟨drafts.symm, fun other same => ?_⟩
              obtain rfl := Option.some.inj same
              exact Or.inr isText
          | some content => simp [isText] at drafts

/-- What a sweep over some incidents has made of the store. -/
structure Swept (settings : KBSettings) (now : DateTime) (incidents : IncidentTable)
    (incidentIds : List Nat) (before after : KBTable) (drafted : List Nat) : Prop where
  sound : StoreSound settings after
  titled : Titled incidents after
  listed : ∀ id ∈ drafted, id ∈ incidentIds
  others : ∀ row, (∀ id ∈ drafted, row.sourceRef ≠ some (incidentSourceRef id)) →
    (row ∈ after.rows ↔ row ∈ before.rows)
  own : ∀ id ∈ drafted, ∃ incident, incidents.lookup id = some incident ∧
    Drafted settings now incident before after
  passed : ∀ id ∈ incidentIds, id ∉ drafted → ∀ incident, incidents.lookup id = some incident →
    hasPublishedDocument before incident.sourceRef = true ∨ incident.draftText settings = none

theorem sourceRef_of_lookup (found : incidents.lookup incidentId = some incident) :
    incident.sourceRef = incidentSourceRef incidentId :=
  congrArg incidentSourceRef (Table.lookup_eq_some_iff.1 found).2

theorem Swept.sameDocument {drafted : List Nat}
    (swept : Swept settings now incidents incidentIds before after drafted)
    (passed : incidentId ∉ drafted) : SameDocument (incidentSourceRef incidentId) before after := by
  intro row own
  apply swept.others row
  intro id isDrafted same
  rw [own] at same
  rw [incidentSourceRef_injective (Option.some.inj same)] at passed
  exact passed isDrafted

theorem Titled.of_drafted (titled : Titled incidents before)
    (found : incidents.lookup incidentId = some incident)
    (drafted : Drafted settings now incident before after)
    (others : ∀ row, row.sourceRef ≠ some incident.sourceRef →
      (row ∈ after.rows ↔ row ∈ before.rows)) : Titled incidents after := by
  intro other otherMember row member own
  by_cases same : row.sourceRef = some incident.sourceRef
  · have ids : other.id = incident.id :=
      incidentSourceRef_injective (Option.some.inj (own.symm.trans same))
    rw [Table.eq_of_key_eq otherMember (Table.lookup_eq_some_iff.1 found).1 ids]
    exact (drafted.rows row member same).1
  · exact titled other otherMember row ((others row same).1 member) own

theorem swept_draftAll {drafted : List Nat} (sound : StoreSound settings before)
    (titled : Titled incidents before) (distinct : incidentIds.Nodup)
    (swept : draftAll settings now incidents incidentIds before = some (after, drafted)) :
    Swept settings now incidents incidentIds before after drafted := by
  induction incidentIds generalizing before drafted with
  | nil =>
      obtain ⟨rfl, rfl⟩ := Prod.mk.inj (Option.some.inj swept)
      exact ⟨sound, titled, by simp, fun _ _ => Iff.rfl, by simp, by simp⟩
  | cons incidentId incidentIds ih =>
      obtain ⟨new, distinct⟩ := List.nodup_cons.1 distinct
      rw [draftAll] at swept
      cases first : draftKbFromIncident settings now incidents before incidentId with
      | none => simp [first] at swept
      | some result =>
          obtain ⟨middle, written⟩ := result
          simp only [first, Option.map_eq_some_iff, Prod.mk.injEq] at swept
          obtain ⟨⟨final, later⟩, rest, rfl, draftedEq⟩ := swept
          cases written with
          | false =>
              obtain ⟨rfl, passed⟩ := eq_of_not_written first
              have swept := ih sound titled distinct rest
              rw [if_neg Bool.false_ne_true] at draftedEq
              subst draftedEq
              refine ⟨swept.sound, swept.titled, fun id member =>
                List.mem_cons_of_mem _ (swept.listed id member), swept.others, swept.own, ?_⟩
              intro id listed skipped other found
              rcases List.mem_cons.1 listed with rfl | listed
              · exact passed other found
              · exact swept.passed id listed skipped other found
          | true =>
              rw [if_pos rfl] at draftedEq
              subst draftedEq
              obtain ⟨incident, found⟩ :
                  ∃ incident, incidents.lookup incidentId = some incident := by
                rw [← Option.ne_none_iff_exists']
                intro absent
                simp [draftKbFromIncident, absent] at first
              obtain ⟨drafted, middleSound, others⟩ := drafted_of_written sound titled found first
              have isRef := sourceRef_of_lookup found
              have swept := ih middleSound (titled.of_drafted found drafted others) distinct rest
              have untouched : incidentId ∉ later := fun member => new (swept.listed _ member)
              have elsewhere {id : Nat} (apart : id ≠ incidentId) :
                  SameDocument (incidentSourceRef id) before middle := by
                intro row own
                apply others row
                rw [own, isRef]
                exact fun same => apart (incidentSourceRef_injective (Option.some.inj same))
              have apart {id : Nat} (member : id ∈ incidentIds) : id ≠ incidentId := by
                rintro rfl
                exact new member
              refine ⟨swept.sound, swept.titled, ?_, ?_, ?_, ?_⟩
              · intro id member
                rcases List.mem_cons.1 member with rfl | member
                · exact List.mem_cons_self
                · exact List.mem_cons_of_mem _ (swept.listed id member)
              · intro row notDrafted
                rw [swept.others row fun id member => notDrafted id (List.mem_cons_of_mem _ member)]
                apply others row
                rw [isRef]
                exact notDrafted incidentId List.mem_cons_self
              · intro id member
                rcases List.mem_cons.1 member with rfl | member
                · refine ⟨incident, found, drafted.of_after ?_⟩
                  rw [isRef]
                  exact swept.sameDocument untouched
                · obtain ⟨other, otherFound, otherDrafted⟩ := swept.own id member
                  refine ⟨other, otherFound, otherDrafted.of_before ?_⟩
                  rw [sourceRef_of_lookup otherFound]
                  exact elsewhere (apart (swept.listed id member))
              · intro id listed skipped other otherFound
                rcases List.mem_cons.1 listed with rfl | listed
                · exact absurd List.mem_cons_self skipped
                · have before_ := swept.passed id listed
                    (fun member => skipped (List.mem_cons_of_mem _ member)) other otherFound
                  rw [hasPublishedDocument, sourceRef_of_lookup otherFound,
                    (elsewhere (apart listed)).existsRow_eq] at before_
                  rw [hasPublishedDocument, sourceRef_of_lookup otherFound]
                  exact before_

theorem exists_draftAll
    (accepted : ∀ id ∈ incidentIds, ∀ incident content, incidents.lookup id = some incident →
      incident.draftText settings = some content →
        (incident.draftCall settings content).accepted settings = true) (documents : KBTable) :
    ∃ result, draftAll settings now incidents incidentIds documents = some result := by
  induction incidentIds generalizing documents with
  | nil => exact ⟨_, rfl⟩
  | cons incidentId incidentIds ih =>
      obtain ⟨⟨middle, written⟩, first⟩ : ∃ result,
          draftKbFromIncident settings now incidents documents incidentId = some result := by
        unfold draftKbFromIncident
        cases found : incidents.lookup incidentId with
        | none => exact ⟨_, rfl⟩
        | some incident =>
            cases published : hasPublishedDocument documents incident.sourceRef with
            | true => exact ⟨_, if_pos published⟩
            | false =>
                cases isText : incident.draftText settings with
                | none => exact ⟨(documents, false), by simp [published, isText]⟩
                | some content =>
                    have taken :=
                      accepted incidentId List.mem_cons_self incident content found isText
                    have some_ := chunkText_ne_nil (written_of_draftText isText) settings.maxChars
                    have ingested := @ingestDocument_eq settings
                      (incident.draftCall settings content) documents now some_
                    rw [if_pos taken] at ingested
                    exact ⟨_, by simp only [published, isText, ingested]; rfl⟩
      obtain ⟨rest, restEq⟩ := ih
        (fun id listed => accepted id (List.mem_cons_of_mem _ listed)) middle
      exact ⟨_, by simp only [draftAll, first, restEq]; rfl⟩

end Sweeps

end IncidentSediment

end WebhookWise
