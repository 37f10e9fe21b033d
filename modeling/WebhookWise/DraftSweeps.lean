import WebhookWise.GuardedRuns
import WebhookWise.IncidentSediment

/-!
# Runs of knowledge drafts

A run takes sweeps and the operators' actions in any order.  Beside the tables a state keeps which
documents a sweep has drafted, and whose drafts were discarded, since the resolution record of
the incident was last changed.
-/

namespace WebhookWise

open SqlTable PagedBacklogs KnowledgeBase IncidentSediment GuardedRuns

namespace DraftSweeps

inductive Event where
  | sweep (now : DateTime)
  | recordSaved (now : DateTime) (incidentId : Nat) (record : Json)
  | draftEdited (now : DateTime) (sourceRef content : String)
  | draftPublished (now : DateTime) (sourceRef : String)
  | draftDiscarded (sourceRef : String)

def Event.isSweep : Event → Bool
  | .sweep _ => true
  | _ => false

structure State where
  incidents : IncidentTable
  documents : KBTable
  /-- The documents that a sweep has drafted since the record was changed. -/
  drafted : List String
  /-- The documents whose draft was discarded since the record was changed. -/
  discarded : List String

section Runs

variable (settings : KBSettings)

def State.pending (state : State) : List ResolvedIncident :=
  incidentsPendingSediment state.incidents state.documents

def step (state : State) : Event → State
  | .sweep now =>
      let swept := runPendingKbDrafts settings now state.incidents state.documents
      { state with
        documents := swept.1
        drafted := swept.2.map incidentSourceRef ++ state.drafted }
  | .recordSaved now incidentId record =>
      { state with
        incidents := applyResolutionRecord now incidentId record state.incidents
        drafted := state.drafted.filter (· ≠ incidentSourceRef incidentId)
        discarded := state.discarded.filter (· ≠ incidentSourceRef incidentId) }
  | .draftEdited now sourceRef content =>
      { state with documents := updateKbDraft settings now sourceRef content state.documents }
  | .draftPublished now sourceRef =>
      { state with documents := publishKbDraft now sourceRef state.documents }
  | .draftDiscarded sourceRef =>
      { state with
        documents := discardKbDraft sourceRef state.documents
        discarded :=
          if hasDraft state.documents sourceRef then sourceRef :: state.discarded
          else state.discarded }

def opened (history : List (DateTime × IngestCall)) (incidents : IncidentTable) : State where
  incidents := incidents
  documents := store settings history
  drafted := []
  discarded := []

/-! ## What operators may expect -/

/-- What a step leaves to the operators. -/
structure RespectsOperator (state : State) (event : Event) : Prop where
  published : ∀ now, event = .sweep now → ∀ row ∈ state.documents.rows,
    row.status = "published" → row ∈ (step settings state event).documents.rows
  notAgain : ∀ now, event = .sweep now →
    ∀ incident ∈ state.pending, incident.sourceRef ∉ state.drafted
  staysDiscarded : ∀ sourceRef ∈ (step settings state event).discarded,
    hasDraft (step settings state event).documents sourceRef = false

/-- An incident waits that could be drafted, and the step is no sweep that drafts it. -/
structure Waits (incidentId : Nat) (state : State) (event : Event) : Prop where
  draftable : ∃ incident, state.incidents.lookup incidentId = some incident ∧
    isPending state.documents incident = true ∧ (incident.draftText settings).isSome = true
  passed : ∀ now, event = .sweep now →
    incidentId ∉ (runPendingKbDrafts settings now state.incidents state.documents).2

def lineAhead (incidents : IncidentTable) (documents : KBTable) (incidentId : Nat) : Nat :=
  match incidents.lookup incidentId with
  | none => 0
  | some incident =>
      incidents.rows.countP fun other =>
        isPending documents other && (other.draftText settings).isSome &&
          sweepOrder other < sweepOrder incident

/-- No incident waits for more sweeps than there are incidents that could be drafted before it,
and actions of operators meanwhile. -/
def DraftsInTime (start : State) (events : List Event) : Prop :=
  ∀ incidentId earlier later, events = earlier ++ later →
    Along (step settings) (Waits settings incidentId) (run (step settings) start earlier) later →
      later.countP Event.isSweep ≤
        lineAhead settings (run (step settings) start earlier).incidents
            (run (step settings) start earlier).documents incidentId +
          later.countP fun event => !event.isSweep

/-! ## When they can -/

def settles (now : DateTime) (documents : KBTable) (incident : ResolvedIncident) : Bool :=
  (incident.draftText settings).all fun content =>
    (incident.draftCall settings content).accepted settings &&
      incident.resolutionRecordUpdatedAt.all
        (leavesFresh settings now documents incident.sourceRef content)

structure SweepAdmitted (now : DateTime) (state : State) : Prop where
  settles : ∀ incident ∈ state.pending, settles settings now state.documents incident = true
  /-- No discarded draft is left to be drafted again. -/
  heeded : ∀ incident ∈ state.incidents.rows, incident.summarized = true →
    (incident.draftText settings).isSome = true → incident.sourceRef ∉ state.discarded
  /-- The incidents without a text do not fill the batch before one with a text. -/
  unblocked : ∀ incident ∈ pendingIncidents state.incidents state.documents,
    (incident.draftText settings).isSome = true →
      (pendingIncidents state.incidents state.documents).countP (fun other =>
        sweepOrder other < sweepOrder incident && (other.draftText settings).isNone) < draftBatch

def keepsFresh (now : DateTime) (documents : KBTable) (sourceRef content : String)
    (incident : ResolvedIncident) : Bool :=
  incident.resolutionRecordUpdatedAt.all fun since =>
    !hasFreshDraft documents sourceRef since ||
      leavesFresh settings now documents sourceRef content since

def Admitted (state : State) : Event → Prop
  | .sweep now => SweepAdmitted settings now state
  | .recordSaved now _ _ =>
      ∀ incident ∈ state.incidents.rows, incident.updatedAt.any (· ≤ now) = true
  | .draftEdited now sourceRef content =>
      ∀ incident ∈ state.incidents.rows, incident.sourceRef = sourceRef → strip content ≠ "" →
        (chunkText content settings.maxChars).all (fun chunk => !chunk.toList.contains nul) = true →
          keepsFresh settings now state.documents sourceRef content incident = true
  | .draftPublished _ _ => True
  | .draftDiscarded _ => True

end Runs

/-! ## The invariant -/

variable {incident : ResolvedIncident}
variable {documents : KBTable} {sourceRef : String} {incidents : IncidentTable} {record : Json}

structure Sound (settings : KBSettings) (state : State) : Prop where
  store : StoreSound settings state.documents
  titled : Titled state.incidents state.documents
  oneStatus : ∀ incident ∈ state.incidents.rows, ∀ row ∈ state.documents.rows,
    ∀ other ∈ state.documents.rows, row.sourceRef = some incident.sourceRef →
      other.sourceRef = some incident.sourceRef → row.status = other.status
  settled : ∀ incident ∈ state.incidents.rows, incident.sourceRef ∈ state.drafted →
    incident.summarized = true ∧ (incident.draftText settings).isSome = true ∧
      (incident.sourceRef ∈ state.discarded ∨ isPending state.documents incident = false)
  gone : ∀ sourceRef ∈ state.discarded, hasDraft state.documents sourceRef = false

section Invariant

variable {settings : KBSettings} {state : State} {now : DateTime}

theorem mem_pending_iff :
    incident ∈ pendingIncidents state.incidents state.documents ↔
      incident ∈ state.incidents.rows ∧ isPending state.documents incident = true :=
  List.mem_filter

theorem nodup_sweepOrder (incidents : IncidentTable) (documents : KBTable) :
    ((pendingIncidents incidents documents).map sweepOrder).Nodup := by
  have ids : ((pendingIncidents incidents documents).map ResolvedIncident.id).Nodup :=
    incidents.keys_nodup.sublist (List.filter_sublist.map _)
  refine List.Nodup.map_on ?_ (List.Nodup.of_map _ ids)
  intro first firstMember second secondMember same
  have sameId : first.id = second.id := by
    have inner := congrArg (fun coordinate => (ofLex (ofLex coordinate).2).2) same
    have sameInt : (first.id : Int) = second.id := by simpa [sweepOrder] using inner
    exact Int.ofNat.inj sameInt
  exact incidents.eq_of_key_eq (List.mem_filter.1 firstMember).1 (List.mem_filter.1 secondMember).1
    sameId

theorem of_mem_page (listed : incident ∈ state.pending) :
    incident ∈ state.incidents.rows ∧ isPending state.documents incident = true :=
  mem_pending_iff.1
    ((mem_page_iff (nodup_sweepOrder state.incidents state.documents)).1 listed).1

theorem summarized_of_pending (pending : isPending documents incident = true) :
    incident.summarized = true := by
  unfold isPending at pending
  exact (Bool.and_eq_true_iff.1 pending).1

theorem exists_swept (sound : Sound settings state)
    (admitted : SweepAdmitted settings now state) :
    ∃ drafted, Swept settings now state.incidents (state.pending.map ResolvedIncident.id)
        state.documents (runPendingKbDrafts settings now state.incidents state.documents).1
          drafted ∧
      (runPendingKbDrafts settings now state.incidents state.documents).2 = drafted := by
  have distinct : (state.pending.map ResolvedIncident.id).Nodup := by
    have rows : state.pending.Nodup :=
      ((List.perm_insertionSort _ _).nodup_iff.2
        (List.Nodup.of_map _ (nodup_sweepOrder state.incidents state.documents))).sublist
          (List.take_sublist _ _)
    refine List.Nodup.map_on ?_ rows
    intro first firstListed second secondListed same
    exact state.incidents.eq_of_key_eq (of_mem_page firstListed).1 (of_mem_page secondListed).1 same
  have accepted : ∀ id ∈ state.pending.map ResolvedIncident.id, ∀ incident content,
      state.incidents.lookup id = some incident → incident.draftText settings = some content →
        (incident.draftCall settings content).accepted settings = true := by
    intro id listed incident content found isText
    obtain ⟨other, member, rfl⟩ := List.mem_map.1 listed
    obtain ⟨rowMember, sameId⟩ := Table.lookup_eq_some_iff.1 found
    rw [state.incidents.eq_of_key_eq rowMember (of_mem_page member).1 sameId] at isText ⊢
    have settled := admitted.settles other member
    rw [settles, isText, Option.all_some, Bool.and_eq_true] at settled
    exact settled.1
  obtain ⟨⟨after, drafted⟩, swept⟩ := exists_draftAll accepted state.documents
  have result : runPendingKbDrafts settings now state.incidents state.documents =
      (after, drafted) := by
    unfold runPendingKbDrafts
    change (draftAll settings now state.incidents (state.pending.map ResolvedIncident.id)
      state.documents).getD _ = _
    rw [swept]
    rfl
  rw [result]
  exact ⟨drafted, swept_draftAll sound.store sound.titled distinct swept, rfl⟩

theorem sound_opened {history : List (DateTime × IngestCall)} {incidents : IncidentTable}
    (unnamed : ∀ row ∈ (store settings history).rows, ∀ incident ∈ incidents.rows,
      row.sourceRef ≠ some incident.sourceRef) :
    Sound settings (opened settings history incidents) where
  store := storeSound_store settings history
  titled incident member row rowMember own := absurd own (unnamed row rowMember incident member)
  oneStatus incident member row rowMember _ _ own :=
    absurd own (unnamed row rowMember incident member)
  settled := by simp [opened]
  gone := by simp [opened]

theorem Sound.with_documents {documents : KBTable} {discarded : List String}
    (sound : Sound settings state) (store : StoreSound settings documents)
    (titled : ∀ incident ∈ state.incidents.rows,
      SameDocument incident.sourceRef state.documents documents ∨
        (∀ row ∈ documents.rows, row.sourceRef = some incident.sourceRef →
          row.title = incident.draftTitle) ∧
        (∀ row ∈ documents.rows, ∀ other ∈ documents.rows,
          row.sourceRef = some incident.sourceRef → other.sourceRef = some incident.sourceRef →
            row.status = other.status) ∧
        (incident.summarized = true → incident.sourceRef ∈ state.drafted →
          incident.sourceRef ∈ discarded ∨ isPending documents incident = false))
    (kept : ∀ sourceRef ∈ state.discarded, sourceRef ∈ discarded)
    (gone : ∀ sourceRef ∈ discarded, hasDraft documents sourceRef = false) :
    Sound settings { state with documents := documents, discarded := discarded } where
  store := store
  titled incident member row rowMember own := by
    rcases titled incident member with same | ⟨titles, _⟩
    · exact sound.titled incident member row ((same row own).1 rowMember) own
    · exact titles row rowMember own
  oneStatus incident member row rowMember other otherMember own otherOwn := by
    rcases titled incident member with same | ⟨_, statuses, _⟩
    · exact sound.oneStatus incident member row ((same row own).1 rowMember) other
        ((same other otherOwn).1 otherMember) own otherOwn
    · exact statuses row rowMember other otherMember own otherOwn
  settled incident member isDrafted := by
    obtain ⟨summarized, isText, settled⟩ := sound.settled incident member isDrafted
    refine ⟨summarized, isText, ?_⟩
    rcases titled incident member with same | ⟨_, _, settles⟩
    · rw [same.isPending_eq]
      exact settled.imp_left (kept _)
    · exact settles summarized isDrafted
  gone := gone

theorem swept_cases {after : KBTable} {drafted : List Nat}
    (admitted : SweepAdmitted settings now state)
    (swept : Swept settings now state.incidents (state.pending.map ResolvedIncident.id)
      state.documents after drafted) (member : incident ∈ state.incidents.rows) :
    (incident.id ∉ drafted ∧ SameDocument incident.sourceRef state.documents after) ∨
      incident.id ∈ drafted ∧ incident ∈ state.pending ∧
        Drafted settings now incident state.documents after ∧
          isPending after incident = false := by
  by_cases isDrafted : incident.id ∈ drafted
  · right
    obtain ⟨other, found, written⟩ := swept.own incident.id isDrafted
    obtain ⟨otherMember, sameId⟩ := Table.lookup_eq_some_iff.1 found
    rw [state.incidents.eq_of_key_eq otherMember member sameId] at written
    obtain ⟨listed, isListed, listedId⟩ := List.mem_map.1 (swept.listed incident.id isDrafted)
    have onPage : incident ∈ state.pending := by
      rw [← state.incidents.eq_of_key_eq (of_mem_page isListed).1 member listedId]
      exact isListed
    refine ⟨isDrafted, onPage, written, ?_⟩
    apply isPending_eq_false_of_fresh written.stored
    intro since updated
    obtain ⟨content, isText, fresh⟩ := written.text
    have settled := admitted.settles incident onPage
    rw [settles, isText, Option.all_some, updated, Option.all_some, Bool.and_eq_true] at settled
    exact Or.inr (fresh since settled.2)
  · left
    exact ⟨isDrafted, swept.sameDocument isDrafted⟩

theorem Sound.sweep (sound : Sound settings state) (admitted : SweepAdmitted settings now state) :
    Sound settings (step settings state (.sweep now)) := by
  obtain ⟨drafted, swept, draftedEq⟩ := exists_swept sound admitted
  have cases_ := fun {incident : ResolvedIncident} (member : incident ∈ state.incidents.rows) =>
    swept_cases admitted swept member
  simp only [step, draftedEq]
  generalize (runPendingKbDrafts settings now state.incidents state.documents).1 = after
    at swept cases_
  constructor
  · exact swept.sound
  · exact swept.titled
  · intro incident member row rowMember other otherMember own otherOwn
    rcases cases_ member with ⟨_, same⟩ | ⟨_, _, written, _⟩
    · exact sound.oneStatus incident member row ((same row own).1 rowMember) other
        ((same other otherOwn).1 otherMember) own otherOwn
    · rw [(written.rows row rowMember own).2, (written.rows other otherMember otherOwn).2]
  · intro incident member isDrafted
    rcases cases_ member with ⟨passed, same⟩ | ⟨_, onPage, written, settled⟩
    · rw [same.isPending_eq]
      apply sound.settled incident member
      rcases List.mem_append.1 isDrafted with new | old
      · obtain ⟨id, isNew, sameRef⟩ := List.mem_map.1 new
        rw [incidentSourceRef_injective sameRef] at isNew
        exact absurd isNew passed
      · exact old
    · obtain ⟨content, isText, _⟩ := written.text
      exact ⟨summarized_of_pending (of_mem_page onPage).2, by rw [isText]; rfl, Or.inr settled⟩
  · intro sourceRef isDiscarded
    rw [← Bool.not_eq_true]
    intro draft
    obtain ⟨row, rowMember, own, isDraft⟩ := existsRow_iff.1 draft
    have before := (swept.others row fun id isDrafted same => ?_).1 rowMember
    · have old : hasDraft state.documents sourceRef = true :=
        existsRow_iff.2 ⟨row, before, own, isDraft⟩
      rw [sound.gone sourceRef isDiscarded] at old
      cases old
    · obtain ⟨incident, found, written⟩ := swept.own id isDrafted
      have member := (Table.lookup_eq_some_iff.1 found).1
      rcases cases_ member with ⟨passed, _⟩ | ⟨_, onPage, _, _⟩
      · rw [(Table.lookup_eq_some_iff.1 found).2] at passed
        exact passed isDrafted
      · obtain ⟨content, isText, _⟩ := written.text
        apply admitted.heeded incident member (summarized_of_pending (of_mem_page onPage).2)
          (by rw [isText]; rfl)
        rw [sourceRef_of_lookup found]
        rw [own] at same
        exact Option.some.inj same ▸ isDiscarded

theorem mem_recorded {incidentId : Nat}
    (member : incident ∈ (applyResolutionRecord now incidentId record incidents).rows) :
    (incident ∈ incidents.rows ∧ incident.id ≠ incidentId) ∨
      ∃ old ∈ incidents.rows, old.id = incidentId ∧ incident = recorded now record old := by
  obtain ⟨old, oldMember, rfl⟩ := Table.mem_update.1 member
  by_cases own : old.id = incidentId
  · exact Or.inr ⟨old, oldMember, own, if_pos (decide_eq_true own)⟩
  · rw [if_neg (by simpa using own)]
    exact Or.inl ⟨oldMember, own⟩

theorem Sound.recordSaved (sound : Sound settings state) (incidentId : Nat) (record : Json) :
    Sound settings (step settings state (.recordSaved now incidentId record)) where
  store := sound.store
  titled incident member row rowMember own := by
    rcases mem_recorded member with ⟨old, _⟩ | ⟨old, oldMember, _, rfl⟩
    · exact sound.titled incident old row rowMember own
    · exact sound.titled old oldMember row rowMember own
  oneStatus incident member := by
    rcases mem_recorded member with ⟨old, _⟩ | ⟨old, oldMember, _, rfl⟩
    · exact sound.oneStatus incident old
    · exact sound.oneStatus old oldMember
  settled incident member isDrafted := by
    obtain ⟨wasDrafted, other⟩ := List.mem_filter.1 isDrafted
    rcases mem_recorded member with ⟨old, _⟩ | ⟨old, _, rfl, rfl⟩
    · obtain ⟨summarized, isText, settled⟩ := sound.settled incident old wasDrafted
      exact ⟨summarized, isText, settled.imp_left fun isDiscarded =>
        List.mem_filter.2 ⟨isDiscarded, other⟩⟩
    · exact absurd rfl (of_decide_eq_true other)
  gone sourceRef isDiscarded := sound.gone sourceRef (List.mem_filter.1 isDiscarded).1

theorem updateKbDraft_cases (settings : KBSettings) (now : DateTime) (sourceRef content : String)
    (documents : KBTable) :
    updateKbDraft settings now sourceRef content documents = documents ∨
      ∃ draft ∈ documents.rows, draft.sourceRef = some sourceRef ∧ draft.status = "draft" ∧
        strip content ≠ "" ∧ ingestDocument settings now (editCall draft sourceRef content)
          documents = some (updateKbDraft settings now sourceRef content documents) := by
  unfold updateKbDraft
  split
  · exact Or.inl rfl
  · rename_i draft found
    obtain ⟨member, isDraft⟩ := Table.selectFirst_spec found
    rw [draftOf, Bool.and_eq_true, decide_eq_true_eq, decide_eq_true_eq] at isDraft
    split
    · exact Or.inl rfl
    · rename_i written
      cases ingested : ingestDocument settings now (editCall draft sourceRef content) documents with
      | none => exact Or.inl rfl
      | some after => exact Or.inr ⟨draft, member, isDraft.1, isDraft.2, written, ingested⟩

theorem stored_of_accepted {draft : KBDocument} {content : String}
    (accepted : (editCall draft sourceRef content).accepted settings = true) :
    (chunkText content settings.maxChars).all (fun chunk => !chunk.toList.contains nul) = true := by
  unfold IngestCall.accepted at accepted
  exact (Bool.and_eq_true_iff.1 accepted).2

theorem Sound.fresh_of_draft (sound : Sound settings state)
    (member : incident ∈ state.incidents.rows) (isDrafted : incident.sourceRef ∈ state.drafted)
    (live : hasDraft state.documents incident.sourceRef = true) {since : DateTime}
    (updated : incident.resolutionRecordUpdatedAt = some since) :
    hasFreshDraft state.documents incident.sourceRef since = true := by
  obtain ⟨summarized, _, settled⟩ := sound.settled incident member isDrafted
  have notDiscarded : incident.sourceRef ∉ state.discarded := by
    intro isDiscarded
    rw [sound.gone _ isDiscarded] at live
    cases live
  rcases (hasAnyDocument_of_not_pending summarized (settled.resolve_left notDiscarded)).2 since
    updated with published | fresh
  · -- A published row stands beside no draft.
    obtain ⟨row, rowMember, rowOwn, isPublished⟩ := existsRow_iff.1 published
    obtain ⟨draft, draftMember, draftOwn, isDraft⟩ := existsRow_iff.1 live
    have statuses := sound.oneStatus incident member row rowMember draft draftMember rowOwn draftOwn
    rw [of_decide_eq_true isPublished, of_decide_eq_true isDraft] at statuses
    exact absurd statuses (by decide)
  · exact fresh

theorem Sound.draftEdited (sound : Sound settings state) {content : String}
    (admitted : Admitted settings state (.draftEdited now sourceRef content)) :
    Sound settings (step settings state (.draftEdited now sourceRef content)) := by
  rw [step]
  rcases updateKbDraft_cases settings now sourceRef content state.documents with
    same | ⟨draft, draftMember, draftOwn, isDraft, written, ingested⟩
  · rw [same]
    exact sound
  generalize updateKbDraft settings now sourceRef content state.documents = after at ingested ⊢
  have some_ : (editCall draft sourceRef content).chunks settings ≠ [] :=
    chunkText_ne_nil written settings.maxChars
  have accepted := accepted_of_ingested some_ ingested
  have live : hasDraft state.documents sourceRef = true :=
    existsRow_iff.2 ⟨draft, draftMember, draftOwn, by simp [isDraft]⟩
  have named : (editCall draft sourceRef content).sourceRef = some sourceRef := rfl
  have own := @ingested_own settings (editCall draft sourceRef content) _ _ _ _ sound.store written
    named ingested
  refine sound.with_documents (storeSound_ingested sound.store ingested) ?_
    (fun _ member => member) ?_
  · intro incident member
    have proper : incident.sourceRef ≠ "" := incidentSourceRef_ne_empty _
    by_cases isOwn : incident.sourceRef = sourceRef
    · subst isOwn
      have title : draft.title = incident.draftTitle :=
        sound.titled incident member draft draftMember draftOwn
      refine Or.inr ⟨?_, ?_, ?_⟩
      · intro row rowMember rowOwn
        exact (own.2 row rowMember rowOwn).1.trans title
      · intro row rowMember other otherMember rowOwn otherOwn
        rw [(own.2 row rowMember rowOwn).2, (own.2 other otherMember otherOwn).2]
      · intro _ isDrafted
        refine Or.inr (isPending_eq_false_of_fresh own.1 fun since updated => Or.inr ?_)
        have leaves := admitted incident member rfl written (stored_of_accepted accepted)
        rw [keepsFresh, updated, Option.all_some,
          sound.fresh_of_draft member isDrafted live updated, Bool.not_true,
          Bool.false_or] at leaves
        refine hasFreshDraft_ingested sound.store named proper ?_ rfl ?_ ingested leaves
        · exact ne_of_eq_of_ne title (draftTitle_ne _ _)
        · intro row rowMember rowOwn
          exact (sound.titled incident member row rowMember rowOwn).trans title.symm
    · refine Or.inl (sameDocument_ingested sound.store named (Ne.symm isOwn) proper ?_ ingested)
      intro row rowMember rowOwn
      rw [sound.titled incident member row rowMember rowOwn]
      exact draftTitle_ne _ _
  · intro other isDiscarded
    rw [← Bool.not_eq_true]
    intro drafts
    obtain ⟨row, rowMember, rowOwn, rowDraft⟩ := existsRow_iff.1 drafts
    have gone := sound.gone other isDiscarded
    have apart : row.sourceRef ≠ some sourceRef := by
      rw [rowOwn]
      intro same
      rw [Option.some.inj same, live] at gone
      cases gone
    have before := mem_of_mem_ingested sound.store some_ apart ingested rowMember
    have old : hasDraft state.documents other = true :=
      existsRow_iff.2 ⟨row, before, rowOwn, rowDraft⟩
    rw [gone] at old
    cases old

theorem draftOf_eq {row : KBDocument} (own : row.sourceRef = some sourceRef) :
    draftOf sourceRef row = decide (row.status = "draft") := by
  simp [draftOf, own]

theorem mem_published {documents : KBTable} {sourceRef : String} {row : KBDocument} :
    row ∈ (publishKbDraft now sourceRef documents).rows ↔
      (row ∈ documents.rows ∧ draftOf sourceRef row = false) ∨
        ∃ draft ∈ documents.rows, draftOf sourceRef draft = true ∧ row = publishedAt now draft := by
  unfold publishKbDraft
  rw [Table.mem_update]
  constructor
  · rintro ⟨old, member, rfl⟩
    cases isDraft : draftOf sourceRef old with
    | true => exact Or.inr ⟨old, member, isDraft, if_pos rfl⟩
    | false => exact Or.inl ⟨member, isDraft⟩
  · rintro (⟨member, isOther⟩ | ⟨draft, member, isDraft, rfl⟩)
    · exact ⟨row, member, by simp [isOther]⟩
    · exact ⟨draft, member, by simp [isDraft]⟩

theorem storeSound_published (sound : StoreSound settings documents) (sourceRef : String) :
    StoreSound settings (publishKbDraft now sourceRef documents) := by
  -- Every row comes from one with its hash, its title and its text.
  have origin : ∀ row ∈ (publishKbDraft now sourceRef documents).rows,
      ∃ old ∈ documents.rows,
        row = (if draftOf sourceRef old then publishedAt now old else old) := by
    intro row member
    obtain ⟨old, oldMember, same⟩ := Table.mem_update.1 member
    exact ⟨old, oldMember, same.symm⟩
  constructor
  · intro first firstMember second secondMember same
    obtain ⟨old, oldMember, rfl⟩ := origin first firstMember
    obtain ⟨other, otherMember, rfl⟩ := origin second secondMember
    have keeps (row : KBDocument) :
        (if draftOf sourceRef row then publishedAt now row else row).contentHash =
          row.contentHash := by
      split
      · rfl
      · rfl
    rw [keeps, keeps] at same
    rw [sound.unique old oldMember other otherMember same]
  · intro row member
    rcases mem_published.1 member with ⟨old, _⟩ | ⟨draft, old, _, rfl⟩
    · exact sound.rows row old
    · have draftSound := sound.rows draft old
      exact ⟨draftSound.hashed, draftSound.title, draftSound.name⟩

theorem sameDocument_published {other : String} (apart : other ≠ sourceRef) :
    SameDocument other documents (publishKbDraft now sourceRef documents) := by
  have notOwn : ∀ row : KBDocument, row.sourceRef = some other → draftOf sourceRef row = false := by
    intro row own
    rw [draftOf, own]
    simp [apart]
  intro row own
  rw [mem_published]
  constructor
  · rintro (⟨member, _⟩ | ⟨draft, _, isDraft, rfl⟩)
    · exact member
    · rw [notOwn draft own] at isDraft
      cases isDraft
  · intro member
    exact Or.inl ⟨member, notOwn row own⟩

theorem Sound.draftPublished (sound : Sound settings state) (sourceRef : String) :
    Sound settings (step settings state (.draftPublished now sourceRef)) := by
  refine sound.with_documents (storeSound_published sound.store sourceRef) ?_
    (fun _ member => member) ?_
  · intro incident member
    by_cases isOwn : incident.sourceRef = sourceRef
    · subst isOwn
      have status : ∀ row ∈ (publishKbDraft now incident.sourceRef state.documents).rows,
          row.sourceRef = some incident.sourceRef → ∃ old ∈ state.documents.rows,
            old.sourceRef = some incident.sourceRef ∧ row.title = old.title ∧
              row.status = if old.status = "draft" then "published" else old.status := by
        intro row rowMember own
        rcases mem_published.1 rowMember with ⟨old, isOther⟩ | ⟨draft, old, isDraft, rfl⟩
        · rw [draftOf_eq own, decide_eq_false_iff_not] at isOther
          exact ⟨row, old, own, rfl, (if_neg isOther).symm⟩
        · rw [draftOf, Bool.and_eq_true, decide_eq_true_eq, decide_eq_true_eq] at isDraft
          exact ⟨draft, old, isDraft.1, rfl, (if_pos isDraft.2).symm⟩
      refine Or.inr ⟨?_, ?_, ?_⟩
      · intro row rowMember own
        obtain ⟨old, oldMember, oldOwn, title, _⟩ := status row rowMember own
        rw [title]
        exact sound.titled incident member old oldMember oldOwn
      · intro row rowMember other otherMember own otherOwn
        obtain ⟨old, oldMember, oldOwn, _, rowStatus⟩ := status row rowMember own
        obtain ⟨twin, twinMember, twinOwn, _, otherStatus⟩ := status other otherMember otherOwn
        rw [rowStatus, otherStatus,
          sound.oneStatus incident member old oldMember twin twinMember oldOwn twinOwn]
      · intro summarized isDrafted
        refine (sound.settled incident member isDrafted).2.2.imp_right fun settled => ?_
        obtain ⟨some_, _⟩ := hasAnyDocument_of_not_pending summarized settled
        obtain ⟨row, rowMember, own, _⟩ := existsRow_iff.1 some_
        -- Either the rows were drafts, or the publication has left them.
        cases live : hasDraft state.documents incident.sourceRef with
        | true =>
            obtain ⟨draft, draftMember, draftOwn, isDraft⟩ := existsRow_iff.1 live
            have publishedMember := (@mem_published now _ _ _).2
              (Or.inr ⟨draft, draftMember, (draftOf_eq draftOwn).trans isDraft, rfl⟩)
            refine isPending_eq_false_of_fresh
              (existsRow_iff.2 ⟨publishedAt now draft, publishedMember, draftOwn, rfl⟩)
              fun since _ => Or.inl ?_
            exact existsRow_iff.2 ⟨publishedAt now draft, publishedMember, draftOwn, rfl⟩
        | false =>
            have same : SameDocument incident.sourceRef state.documents
                (publishKbDraft now incident.sourceRef state.documents) := by
              have noDraft : ∀ old ∈ state.documents.rows,
                  ¬ draftOf incident.sourceRef old = true := by
                intro old oldMember isDraft
                have exists_ : hasDraft state.documents incident.sourceRef = true :=
                  List.any_eq_true.2 ⟨old, oldMember, isDraft⟩
                rw [live] at exists_
                cases exists_
              intro other _
              rw [mem_published]
              constructor
              · rintro (⟨otherMember, _⟩ | ⟨draft, draftMember, isDraft, _⟩)
                · exact otherMember
                · exact absurd isDraft (noDraft draft draftMember)
              · intro otherMember
                exact Or.inl ⟨otherMember, Bool.eq_false_of_not_eq_true (noDraft other otherMember)⟩
            rw [same.isPending_eq]
            exact settled
    · exact Or.inl (sameDocument_published isOwn)
  · intro other isDiscarded
    rw [← Bool.not_eq_true]
    intro drafts
    obtain ⟨row, rowMember, own, isDraft⟩ := existsRow_iff.1 drafts
    rcases mem_published.1 rowMember with ⟨old, _⟩ | ⟨draft, _, _, rfl⟩
    · have was : hasDraft state.documents other = true := existsRow_iff.2 ⟨row, old, own, isDraft⟩
      rw [sound.gone other isDiscarded] at was
      cases was
    · exact absurd isDraft (by simp [publishedAt])

theorem sameDocument_discarded {other : String} (apart : other ≠ sourceRef) :
    SameDocument other documents (discardKbDraft sourceRef documents) := by
  intro row own
  rw [discardKbDraft, Table.mem_delete, draftOf, own]
  simp [apart]

theorem Sound.draftDiscarded (sound : Sound settings state) (sourceRef : String) :
    Sound settings (step settings state (.draftDiscarded sourceRef)) := by
  have mem_iff (row : KBDocument) : row ∈ (discardKbDraft sourceRef state.documents).rows ↔
      row ∈ state.documents.rows ∧ draftOf sourceRef row = false := Table.mem_delete
  refine sound.with_documents ⟨sound.store.unique.delete _, fun row member =>
    sound.store.rows row ((mem_iff row).1 member).1⟩ ?_ ?_ ?_
  · intro incident member
    by_cases isDeleted : incident.sourceRef = sourceRef ∧ hasDraft state.documents sourceRef = true
    · refine Or.inr ⟨?_, ?_, ?_⟩
      · intro row rowMember own
        exact sound.titled incident member row ((mem_iff row).1 rowMember).1 own
      · intro row rowMember other otherMember
        exact sound.oneStatus incident member row ((mem_iff row).1 rowMember).1 other
          ((mem_iff other).1 otherMember).1
      · intro _ _
        left
        rw [if_pos isDeleted.2, isDeleted.1]
        exact List.mem_cons_self
    · refine Or.inl fun row own => ?_
      rw [mem_iff]
      refine and_iff_left_of_imp fun rowMember => ?_
      rw [← Bool.not_eq_true]
      intro isDraft
      have sameRef : row.sourceRef = some sourceRef := by
        rw [draftOf, Bool.and_eq_true, decide_eq_true_eq] at isDraft
        exact isDraft.1
      exact isDeleted ⟨Option.some.inj (own.symm.trans sameRef),
        List.any_eq_true.2 ⟨row, rowMember, isDraft⟩⟩
  · intro other isDiscarded
    split
    · exact List.mem_cons_of_mem _ isDiscarded
    · exact isDiscarded
  · intro other isDiscarded
    rw [← Bool.not_eq_true]
    intro drafts
    obtain ⟨row, rowMember, own, isDraft⟩ := existsRow_iff.1 drafts
    obtain ⟨old, isOther⟩ := (mem_iff row).1 rowMember
    by_cases isOwn : other = sourceRef
    · rw [draftOf_eq (own.trans (congrArg some isOwn)), isDraft] at isOther
      cases isOther
    · have was : other ∈ state.discarded := by
        split at isDiscarded
        · exact (List.mem_cons.1 isDiscarded).resolve_left isOwn
        · exact isDiscarded
      have drafted : hasDraft state.documents other = true :=
        existsRow_iff.2 ⟨row, old, own, isDraft⟩
      rw [sound.gone other was] at drafted
      cases drafted

theorem Sound.step (sound : Sound settings state) {event : Event}
    (admitted : Admitted settings state event) : Sound settings (step settings state event) := by
  cases event with
  | sweep now => exact sound.sweep admitted
  | recordSaved now incidentId record => exact sound.recordSaved incidentId record
  | draftEdited now sourceRef content => exact sound.draftEdited admitted
  | draftPublished now sourceRef => exact sound.draftPublished sourceRef
  | draftDiscarded sourceRef => exact sound.draftDiscarded sourceRef

/-! ## What a step leaves to the operators -/

theorem Sound.respects (sound : Sound settings state) {event : Event}
    (admitted : Admitted settings state event) : RespectsOperator settings state event where
  published := by
    rintro now rfl row member isPublished
    obtain ⟨drafted, swept, _⟩ := exists_swept sound admitted
    refine (swept.others row fun id isDrafted own => ?_).2 member
    obtain ⟨incident, found, written⟩ := swept.own id isDrafted
    have unpublished := written.unpublished
    rw [sourceRef_of_lookup found] at unpublished
    have published : hasPublishedDocument state.documents (incidentSourceRef id) = true :=
      existsRow_iff.2 ⟨row, member, own, by simp [isPublished]⟩
    rw [unpublished] at published
    cases published
  notAgain := by
    rintro now rfl incident listed isDrafted
    obtain ⟨member, pending⟩ := of_mem_page listed
    obtain ⟨summarized, isText, isDiscarded | settled⟩ := sound.settled incident member isDrafted
    · exact admitted.heeded incident member summarized isText isDiscarded
    · rw [pending] at settled
      cases settled
  staysDiscarded := (sound.step admitted).gone

/-! ## Waiting -/

theorem countP_le_succ {Row Key : Type} {key : Row → Key} {rows : List Row}
    (distinct : (rows.map key).Nodup) {before after : Row → Bool} (changed : Key)
    (kept : ∀ row ∈ rows, key row ≠ changed → after row = true → before row = true) :
    rows.countP after ≤ rows.countP before + 1 := by
  induction rows with
  | nil => simp
  | cons row rows ih =>
      rw [List.map_cons, List.nodup_cons] at distinct
      rw [List.countP_cons, List.countP_cons]
      by_cases isChanged : key row = changed
      · have rest : rows.countP after ≤ rows.countP before := by
          apply List.countP_mono_left
          intro other member
          apply kept other (List.mem_cons_of_mem _ member)
          intro same
          exact distinct.1 (isChanged ▸ same ▸ List.mem_map_of_mem member)
        split
        · omega
        · omega
      · have rest := ih distinct.2 fun other member => kept other (List.mem_cons_of_mem _ member)
        have here := kept row List.mem_cons_self isChanged
        split
        · rename_i counts
          rw [if_pos (here counts)]
          omega
        · omega

theorem lineAhead_documents_le {before after : KBTable} (incidentId : Nat)
    (others : ∀ incident ∈ incidents.rows, incident.sourceRef ≠ sourceRef →
      SameDocument incident.sourceRef before after) :
    lineAhead settings incidents after incidentId ≤
      lineAhead settings incidents before incidentId + 1 := by
  have distinct : (incidents.rows.map ResolvedIncident.sourceRef).Nodup := by
    have refs := incidents.keys_nodup.map incidentSourceRef_injective
    rwa [List.map_map] at refs
  unfold lineAhead
  split
  · exact Nat.zero_le _
  · apply countP_le_succ distinct sourceRef
    intro other member apart counts
    rw [(others other member apart).isPending_eq] at counts
    exact counts

theorem sweepOrder_lt_of_recorded {other : ResolvedIncident}
    (past : incident.updatedAt.any (· ≤ now) = true)
    (otherPast : other.updatedAt.any (· ≤ now) = true)
    (before : sweepOrder other < sweepOrder (recorded now record incident)) :
    sweepOrder other < sweepOrder incident := by
  obtain ⟨updated, updatedEq, updatedPast⟩ := (Option.any_eq_true _ _).1 past
  obtain ⟨otherUpdated, otherEq, otherPast⟩ := (Option.any_eq_true _ _).1 otherPast
  rw [decide_eq_true_eq] at updatedPast otherPast
  simp only [sweepOrder, recorded, updatedEq, otherEq, Option.isSome_some, if_true,
    Option.getD_some, Prod.Lex.toLex_lt_toLex, lt_irrefl, true_and, false_or] at before ⊢
  rcases before with earlier | ⟨same, smaller⟩
  · exact absurd (Int.neg_lt_neg_iff.1 earlier) (not_lt.2 otherPast)
  · rcases lt_or_eq_of_le (Int.neg_le_neg updatedPast) with earlier | equal
    · exact Or.inl (same ▸ earlier)
    · exact Or.inr ⟨same.trans equal, smaller⟩

theorem lineAhead_recorded_le {incidentId changedId : Nat}
    (past : ∀ other ∈ incidents.rows, other.updatedAt.any (· ≤ now) = true)
    (found : incidents.lookup incidentId = some incident) :
    lineAhead settings (applyResolutionRecord now changedId record incidents) documents incidentId ≤
      lineAhead settings incidents documents incidentId + 1 := by
  obtain ⟨member, isKey⟩ := Table.lookup_eq_some_iff.1 found
  have foundAfter : (applyResolutionRecord now changedId record incidents).lookup incidentId =
      some (if incident.id = changedId then recorded now record incident else incident) := by
    rw [applyResolutionRecord, Table.lookup_update, found]
    simp
  unfold lineAhead
  rw [found, foundAfter]
  simp only [applyResolutionRecord, Table.update, List.countP_map]
  by_cases own : incident.id = changedId
  · rw [if_pos own]
    refine (List.countP_mono_left ?_).trans (Nat.le_succ _)
    intro other otherMember counts
    by_cases isChanged : other.id = changedId
    · have same := incidents.eq_of_key_eq otherMember member (isChanged.trans own.symm)
      subst same
      simp [own] at counts
    · simp only [Function.comp_apply, isChanged, if_false, Bool.and_eq_true,
        decide_eq_true_eq] at counts ⊢
      exact ⟨counts.1, sweepOrder_lt_of_recorded (past incident member) (past other otherMember)
        counts.2⟩
  · rw [if_neg own]
    apply countP_le_succ incidents.keys_nodup changedId
    intro other _ apart counts
    simpa [apart] using counts

theorem lineAhead_sweep_lt (sound : Sound settings state)
    (admitted : SweepAdmitted settings now state)
    {incidentId : Nat} (waits : Waits settings incidentId state (.sweep now)) :
    lineAhead settings state.incidents
        (runPendingKbDrafts settings now state.incidents state.documents).1 incidentId <
      lineAhead settings state.incidents state.documents incidentId := by
  obtain ⟨incident, found, pending, isText⟩ := waits.draftable
  obtain ⟨drafted, swept, draftedEq⟩ := exists_swept sound admitted
  have passed := waits.passed now rfl
  rw [draftedEq] at passed
  obtain ⟨member, isKey⟩ := Table.lookup_eq_some_iff.1 found
  -- Whoever is in the batch, with a text, is drafted.
  have taken : ∀ other ∈ state.pending, (other.draftText settings).isSome = true →
      other.id ∈ drafted := by
    intro other listed otherText
    obtain ⟨otherMember, otherPending⟩ := of_mem_page listed
    by_contra skipped
    rcases swept.passed other.id (List.mem_map_of_mem listed) skipped other
      (Table.lookup_eq_some_iff.2 ⟨otherMember, rfl⟩) with published | none
    · rw [not_published_of_pending otherPending] at published
      cases published
    · rw [none] at otherText
      cases otherText
  have offPage : incident ∉ state.pending := fun listed =>
    passed (isKey ▸ taken incident listed isText)
  let served (other : ResolvedIncident) : Bool :=
    (state.pending.map ResolvedIncident.id).contains other.id
  have full := countP_unserved_add_limit_le (nodup_sweepOrder state.incidents state.documents)
    (mem_pending_iff.2 ⟨member, pending⟩) offPage (fun other listed =>
      show served other = true from List.contains_iff_mem.2 (List.mem_map_of_mem listed))
  have few := admitted.unblocked incident (mem_pending_iff.2 ⟨member, pending⟩) isText
  have split_ : ahead sweepOrder (pendingIncidents state.incidents state.documents) incident =
      (pendingIncidents state.incidents state.documents).countP (fun other =>
        sweepOrder other < sweepOrder incident && (other.draftText settings).isSome) +
      (pendingIncidents state.incidents state.documents).countP (fun other =>
        sweepOrder other < sweepOrder incident && (other.draftText settings).isNone) := by
    rw [ahead, List.countP_eq_countP_filter_add _ _
      fun other : ResolvedIncident => (other.draftText settings).isSome, List.countP_filter,
      List.countP_filter]
    congr 2
    funext other
    cases other.draftText settings with
    | none | some => rfl
  have before : lineAhead settings state.incidents state.documents incidentId =
      (pendingIncidents state.incidents state.documents).countP (fun other =>
        sweepOrder other < sweepOrder incident && (other.draftText settings).isSome) := by
    simp only [lineAhead, found]
    rw [pendingIncidents, List.countP_filter]
    congr 1
    funext other
    rw [Bool.and_assoc, Bool.and_comm]
    congr 1
    exact Bool.and_comm _ _
  have after : lineAhead settings state.incidents
      (runPendingKbDrafts settings now state.incidents state.documents).1 incidentId ≤
      (pendingIncidents state.incidents state.documents).countP (fun other =>
        sweepOrder other < sweepOrder incident && !served other) := by
    simp only [lineAhead, found]
    rw [pendingIncidents, List.countP_filter]
    apply List.countP_mono_left
    intro other otherMember counts
    simp only [Bool.and_eq_true, decide_eq_true_eq] at counts
    obtain ⟨⟨stillPending, otherText⟩, isBefore⟩ := counts
    rcases swept_cases admitted swept otherMember with ⟨skipped, same⟩ | ⟨_, _, _, settled⟩
    · rw [same.isPending_eq] at stillPending
      have unserved : served other = false := by
        rw [← Bool.not_eq_true]
        intro isServed
        obtain ⟨listed, isListed, sameId⟩ := List.mem_map.1 (List.contains_iff_mem.1 isServed)
        have sameRow := state.incidents.eq_of_key_eq (of_mem_page isListed).1 otherMember sameId
        exact skipped (taken other (sameRow ▸ isListed) otherText)
      simp [isBefore, unserved, stillPending]
    · rw [stillPending] at settled
      cases settled
  have limit : draftBatch = 5 := rfl
  omega

theorem lineAhead_step_le (sound : Sound settings state) {event : Event}
    (admitted : Admitted settings state event) {incidentId : Nat}
    (waits : Waits settings incidentId state event) :
    lineAhead settings (step settings state event).incidents (step settings state event).documents
        incidentId + (if event.isSweep then 1 else 0) ≤
      lineAhead settings state.incidents state.documents incidentId +
        if event.isSweep then 0 else 1 := by
  cases event with
  | sweep now => exact lineAhead_sweep_lt sound admitted waits
  | recordSaved now changedId record =>
      obtain ⟨incident, found, _⟩ := waits.draftable
      exact lineAhead_recorded_le admitted found
  | draftEdited now sourceRef content =>
      apply lineAhead_documents_le incidentId
      intro incident member apart
      rcases updateKbDraft_cases settings now sourceRef content state.documents with
        same | ⟨draft, _, _, _, _, ingested⟩
      · simp only [step, same]
        exact SameDocument.refl _ _
      · have named : (editCall draft sourceRef content).sourceRef = some sourceRef := rfl
        refine sameDocument_ingested sound.store named (Ne.symm apart)
          (incidentSourceRef_ne_empty _) ?_ ingested
        intro row rowMember own
        rw [sound.titled incident member row rowMember own]
        exact draftTitle_ne _ _
  | draftPublished now sourceRef =>
      exact lineAhead_documents_le incidentId fun _ _ apart => sameDocument_published apart
  | draftDiscarded sourceRef =>
      exact lineAhead_documents_le incidentId fun _ _ apart => sameDocument_discarded apart

theorem sweeps_le_of_waits {events : List Event} {start : State} (sound : Sound settings start)
    (admitted : Along (step settings) (Admitted settings) start events) {incidentId : Nat}
    (waits : Along (step settings) (Waits settings incidentId) start events) :
    events.countP Event.isSweep ≤ lineAhead settings start.incidents start.documents incidentId +
      events.countP fun event => !event.isSweep := by
  induction events generalizing start with
  | nil => exact Nat.zero_le _
  | cons event events ih =>
      have rest := ih (sound.step admitted.1) admitted.2 waits.2
      have here := lineAhead_step_le sound admitted.1 waits.1
      rw [List.countP_cons, List.countP_cons]
      cases sweeps : event.isSweep with
      | true =>
          simp only [sweeps, if_true, Bool.not_true, Bool.false_eq_true, if_false] at here ⊢
          omega
      | false =>
          simp only [sweeps, Bool.false_eq_true, if_false, Bool.not_false, if_true] at here ⊢
          omega

end Invariant

/-- Along a run that is admitted the sweeps respect the operators, and draft every incident in
time. -/
theorem drafts_respect_operators (settings : KBSettings) (history : List (DateTime × IngestCall))
    (incidents : IncidentTable) (events : List Event)
    (unnamed : ∀ row ∈ (store settings history).rows, ∀ incident ∈ incidents.rows,
      row.sourceRef ≠ some incident.sourceRef)
    (admitted : Along (step settings) (Admitted settings) (opened settings history incidents)
      events) :
    Along (step settings) (RespectsOperator settings) (opened settings history incidents) events ∧
      DraftsInTime settings (opened settings history incidents) events := by
  have initially : Sound settings (opened settings history incidents) := sound_opened unnamed
  constructor
  · exact admitted.of_invariant (Sound settings) initially
      (fun _ _ sound admittedHere => sound.step admittedHere)
      fun _ _ sound admittedHere => sound.respects admittedHere
  · rintro incidentId earlier later rfl waits
    obtain ⟨before, after⟩ := along_append.1 admitted
    have sound := before.invariant (Sound settings) initially
      fun _ _ sound admittedHere => sound.step admittedHere
    exact sweeps_le_of_waits sound after waits

/-! ## Samples -/

section Decidability

variable {settings : KBSettings} {state : State}

theorem sweepAdmitted_iff {now : DateTime} :
    ((∀ incident ∈ state.pending, settles settings now state.documents incident = true) ∧
      (∀ incident ∈ state.incidents.rows, incident.summarized = true →
        (incident.draftText settings).isSome = true → incident.sourceRef ∉ state.discarded) ∧
      ∀ incident ∈ pendingIncidents state.incidents state.documents,
        (incident.draftText settings).isSome = true →
          (pendingIncidents state.incidents state.documents).countP (fun other =>
            sweepOrder other < sweepOrder incident && (other.draftText settings).isNone) <
              draftBatch) ↔ SweepAdmitted settings now state :=
  ⟨fun ⟨settled, heeded, unblocked⟩ => ⟨settled, heeded, unblocked⟩,
    fun ⟨settled, heeded, unblocked⟩ => ⟨settled, heeded, unblocked⟩⟩

instance decidableAdmitted : ∀ event, Decidable (Admitted settings state event)
  | .sweep _ => decidable_of_iff _ sweepAdmitted_iff
  | .recordSaved now _ _ =>
      inferInstanceAs (Decidable (∀ incident ∈ state.incidents.rows,
        incident.updatedAt.any (· ≤ now) = true))
  | .draftEdited now sourceRef content =>
      inferInstanceAs (Decidable (∀ incident ∈ state.incidents.rows,
        incident.sourceRef = sourceRef → strip content ≠ "" →
          (chunkText content settings.maxChars).all
              (fun chunk => !chunk.toList.contains nul) = true →
            keepsFresh settings now state.documents sourceRef content incident = true))
  | .draftPublished _ _ => isTrue trivial
  | .draftDiscarded _ => isTrue trivial

end Decidability

def closedIncident (summary : Json) (id : Nat) : ResolvedIncident where
  id := id
  title := "Disk"
  status := .closed
  source := some "zabbix"
  correlationDimensions := []
  summaryAnalysis := some summary
  resolutionRecord := .dict []
  resolutionRecordUpdatedAt := none
  updatedAt := some 0

theorem closedIncident_id (summary : Json) (id : Nat) : (closedIncident summary id).id = id :=
  rfl

def oneIncident : IncidentTable :=
  Table.empty.insert (closedIncident (.dict [("summary", .str "Full")]))
    (closedIncident_id _)

def sixIncidents : IncidentTable :=
  (List.replicate 5 (Json.dict [])).foldl
    (fun incidents summary => incidents.insert (closedIncident summary) (closedIncident_id _))
    oneIncident

/-- A draft that follows the record, and is published as an operator has edited it. -/
def reviewedRun : List Event :=
  [ .sweep 1
  , .recordSaved 2 1 (.dict [("root_cause", .str "Logs")])
  , .sweep 3
  , .draftEdited 4 "incident:1" "Rotate"
  , .draftPublished 5 "incident:1"
  , .sweep 6 ]

theorem reviewed_respected :
    Along (step plainKnowledge) (RespectsOperator plainKnowledge)
        (opened plainKnowledge [] oneIncident) reviewedRun ∧
      DraftsInTime plainKnowledge (opened plainKnowledge [] oneIncident) reviewedRun :=
  drafts_respect_operators plainKnowledge [] oneIncident reviewedRun (by decide)
    (by decide +kernel)

/-- Five incidents without a text fill every batch, and no sweep drafts the sixth. -/
theorem sixth_waits (times : List DateTime) :
    Along (step plainKnowledge) (Waits plainKnowledge 1)
      (opened plainKnowledge [] sixIncidents) (times.map Event.sweep) := by
  induction times with
  | nil => trivial
  | cons now times ih =>
      have swept : runPendingKbDrafts plainKnowledge now sixIncidents (store plainKnowledge []) =
          (store plainKnowledge [], []) := rfl
      have unchanged : step plainKnowledge (opened plainKnowledge [] sixIncidents) (.sweep now) =
          opened plainKnowledge [] sixIncidents := by
        simp [step, opened, swept]
      refine ⟨⟨⟨_, rfl, by decide +kernel, by decide +kernel⟩, ?_⟩, unchanged.symm ▸ ih⟩
      rintro later same
      obtain rfl := Event.sweep.inj same
      exact swept ▸ List.not_mem_nil

/-- A record that changes no text has its draft written at every sweep; a discarded draft is back
after the next; and five incidents without a text keep the sixth waiting through all sweeps. -/
theorem sweeps_overrule_operators :
    ¬ Along (step plainKnowledge) (RespectsOperator plainKnowledge)
        (opened plainKnowledge [] oneIncident)
        [.sweep 1, .recordSaved 2 1 (.dict [("actor", .str "alice")]), .sweep 3, .sweep 4] ∧
      ¬ Along (step plainKnowledge) (RespectsOperator plainKnowledge)
        (opened plainKnowledge [] oneIncident)
        [.sweep 1, .draftDiscarded "incident:1", .sweep 2] ∧
      (∀ times : List DateTime, Along (step plainKnowledge) (Waits plainKnowledge 1)
        (opened plainKnowledge [] sixIncidents) (times.map Event.sweep)) ∧
      ¬ DraftsInTime plainKnowledge (opened plainKnowledge [] sixIncidents) [.sweep 1] := by
  refine ⟨fun respects => ?_, fun respects => ?_, sixth_waits, fun inTime => ?_⟩
  · have again : ∃ incident ∈ (run (step plainKnowledge) (opened plainKnowledge [] oneIncident)
        [.sweep 1, .recordSaved 2 1 (.dict [("actor", .str "alice")]), .sweep 3]).pending,
        incident.sourceRef ∈ (run (step plainKnowledge) (opened plainKnowledge [] oneIncident)
          [.sweep 1, .recordSaved 2 1 (.dict [("actor", .str "alice")]), .sweep 3]).drafted := by
      decide +kernel
    obtain ⟨incident, listed, isDrafted⟩ := again
    exact respects.2.2.2.1.notAgain 4 rfl incident listed isDrafted
  · have back : ∃ sourceRef ∈ (run (step plainKnowledge) (opened plainKnowledge [] oneIncident)
        [.sweep 1, .draftDiscarded "incident:1", .sweep 2]).discarded,
        hasDraft (run (step plainKnowledge) (opened plainKnowledge [] oneIncident)
          [.sweep 1, .draftDiscarded "incident:1", .sweep 2]).documents sourceRef = true := by
      decide +kernel
    obtain ⟨sourceRef, isDiscarded, drafted⟩ := back
    have stays := respects.2.2.1.staysDiscarded sourceRef isDiscarded
    exact absurd (drafted.symm.trans stays) (by decide)
  · exact absurd (inTime 1 [] [.sweep 1] rfl (sixth_waits [1])) (by decide +kernel)

end DraftSweeps

end WebhookWise
