import WebhookWise.SqlUpserts
import WebhookWise.PythonValues

/-!
# Ingesting documents into the knowledge base

A document is cut into chunks, and each chunk is a row.  The chunks are upserted under a hash of
the document's name, its title, the index and the text; then the rows of the document that were
not written are deleted.  A document is named by its source reference, or by its title when it
has none.
-/

namespace WebhookWise

open SqlTable

structure KBDocument where
  id : Nat
  title : String
  sourceRef : Option String
  chunkIndex : Nat
  content : String
  contentHash : String
  embedding : List Json
  embeddingModel : String
  tags : Option JsonObject
  status : String
  createdAt : DateTime
  updatedAt : DateTime

abbrev KBTable := Table KBDocument.id

/-- What a document is known by: its source reference, or its title when it has none. -/
inductive DocumentIdentity where
  | reference (sourceRef : String)
  | title (title : String)
deriving DecidableEq

def identityOf (sourceRef : Option String) (title : String) : DocumentIdentity :=
  (sourceRef.map DocumentIdentity.reference).getD (.title title)

variable {index : Nat} {chunk : String}

def KBDocument.identity (row : KBDocument) : DocumentIdentity :=
  identityOf row.sourceRef row.title

namespace KnowledgeBase

/-! ## Chunks -/

/-- Where a blank line ends that starts with the line break before the text: after the last
line break in the white space that follows. -/
def afterBlankLine (text : List Char) : Option (List Char) :=
  let lines := (text.takeWhile isPythonSpace).reverse.dropWhile (· ≠ '\n')
  if lines.isEmpty then none else some (text.drop lines.length)

/-- `re.split(r"\n\s*\n", text)`, with the characters that were read since the last blank
line.  Every step reads a character, so a text has fuel enough in its length. -/
def splitBlankLines : Nat → List Char → List Char → List (List Char)
  | 0, current, rest => [current.reverse ++ rest]
  | _ + 1, current, [] => [current.reverse]
  | fuel + 1, current, next :: rest =>
      match (if next = '\n' then afterBlankLine rest else none) with
      | some paragraph => current.reverse :: splitBlankLines fuel [] paragraph
      | none => splitBlankLines fuel (next :: current) rest

/-- The paragraphs of `chunk_text`. -/
def paragraphs (text : String) : List String :=
  ((splitBlankLines text.length [] text.toList).map fun part => strip (String.ofList part)).filter
    (· ≠ "")

/-- `para[i : i + max_chars]` for every `i` of the range.  Every piece has a character, so a text
has fuel enough in its length. -/
def hardSplit (maxChars : Nat) : Nat → List Char → List String
  | 0, _ => []
  | _ + 1, [] => []
  | fuel + 1, text =>
      String.ofList (text.take maxChars) :: hardSplit maxChars fuel (text.drop maxChars)

/-- The chunks that are full, and the one that is being filled. -/
structure Packing where
  chunks : List String
  buf : String

def Packing.add (maxChars : Nat) (packing : Packing) (para : String) : Packing :=
  if maxChars < para.length then
    { chunks := packing.chunks ++ (if packing.buf = "" then [] else [packing.buf]) ++
        hardSplit maxChars para.length para.toList
      buf := "" }
  else
    let candidate := if packing.buf = "" then para else packing.buf ++ "\n\n" ++ para
    if maxChars < candidate.length then
      { chunks := packing.chunks ++ [packing.buf], buf := para }
    else { packing with buf := candidate }

def packedChunks (text : String) (maxChars : Nat) : List String :=
  let packed := (paragraphs text).foldl (Packing.add maxChars) ⟨[], ""⟩
  packed.chunks ++ if packed.buf = "" then [] else [packed.buf]

def chunkText (text : String) (maxChars : Nat) : List String :=
  if (packedChunks text maxChars).isEmpty then (if strip text = "" then [] else [strip text])
  else packedChunks text maxChars

theorem chunkText_ne_nil {text : String} (written : strip text ≠ "") (maxChars : Nat) :
    chunkText text maxChars ≠ [] := by
  unfold chunkText
  by_cases none : (packedChunks text maxChars).isEmpty = true
  · rw [if_pos none, if_neg written]
    exact List.cons_ne_nil _ _
  · rw [if_neg none]
    simpa using none

example : chunkText "one\n \n two\n\nthree four" 9 = ["one\n\ntwo", "three fou", "r"] := by
  decide

/-! ## Documents -/

/-- What ingestion rests on: SHA-256 is taken to be injective, and every chunk is embedded. -/
structure KBSettings where
  python : PythonRuntime
  digest_injective : Function.Injective python.sha256Hexdigest
  /-- `KB_CHUNK_MAX_CHARS`. -/
  maxChars : Nat
  maxChars_pos : 0 < maxChars
  /-- The vectors of some chunks, and the model that made them. -/
  embedTexts : List String → List (List Json) × String
  one_vector : ∀ chunks, (embedTexts chunks).1.length = chunks.length

/-- The arguments of `ingest_document`. -/
structure IngestCall where
  title : String
  content : String
  sourceRef : Option String
  tags : Option JsonObject
  status : String

def IngestCall.identity (call : IngestCall) : DocumentIdentity :=
  identityOf call.sourceRef call.title

/-- `source_ref or title`. -/
def hashName (sourceRef : Option String) (title : String) : String :=
  match sourceRef with
  | some reference => if reference = "" then title else reference
  | none => title

def nul : Char := Char.ofNat 0

section Ingestion

variable (settings : KBSettings)

def contentHash (title : String) (chunkIndex : Nat) (content : String)
    (sourceRef : Option String) : String :=
  settings.python.sha256Hexdigest
    (String.ofList
      ((hashName sourceRef title).toList ++ nul :: (title.toList ++ nul ::
        ((toString chunkIndex).toList ++ nul :: content.toList))))

/-- A text that a column of so many characters holds: no text of the database has a NUL. -/
def fits (limit : Nat) (text : String) : Bool :=
  text.length ≤ limit && !text.toList.contains nul

def IngestCall.chunks (call : IngestCall) : List String :=
  chunkText call.content settings.maxChars

/-- The database takes the rows of a document. -/
def IngestCall.accepted (call : IngestCall) : Bool :=
  fits 300 call.title && call.sourceRef.all (fits 500) && fits 20 call.status &&
    (call.chunks settings).all fun chunk => !chunk.toList.contains nul

def chunkUpsert (now : DateTime) (call : IngestCall) (index : Nat) (chunk : String)
    (vector : List Json) (model : String) :
    Table.Upsert KBDocument.id KBDocument.contentHash where
  value := contentHash settings call.title index chunk call.sourceRef
  build id :=
    { id
      title := call.title
      sourceRef := call.sourceRef
      chunkIndex := index
      content := chunk
      contentHash := contentHash settings call.title index chunk call.sourceRef
      embedding := vector
      embeddingModel := model
      tags := call.tags
      status := call.status
      createdAt := now
      updatedAt := now }
  change row :=
    { row with
      title := call.title
      sourceRef := call.sourceRef
      chunkIndex := index
      embedding := vector
      embeddingModel := model
      tags := call.tags
      status := call.status }
  keyed _ := rfl
  keeps _ := rfl
  built _ := rfl
  changed _ := rfl

def chunkUpserts (now : DateTime) (call : IngestCall) :
    List (Table.Upsert KBDocument.id KBDocument.contentHash) :=
  let embedded := settings.embedTexts (call.chunks settings)
  ((call.chunks settings).zip embedded.1).zipIdx.map fun entry =>
    chunkUpsert settings now call entry.2 entry.1.1 entry.1.2 embedded.2

def nowHashes (call : IngestCall) : List String :=
  (call.chunks settings).zipIdx.map fun entry =>
    contentHash settings call.title entry.2 entry.1 call.sourceRef

/-- `document_scope`. -/
def IngestCall.scope (call : IngestCall) (row : KBDocument) : Bool :=
  match call.sourceRef with
  | some reference => row.sourceRef = some reference
  | none => row.title = call.title

/-- The `DELETE` at the end. -/
def isStale (call : IngestCall) (row : KBDocument) : Bool :=
  call.scope row && !(nowHashes settings call).contains row.contentHash

/-- `ingest_document`; `none` where the database refuses a row. -/
def ingestDocument (now : DateTime) (call : IngestCall) (table : KBTable) : Option KBTable :=
  if (call.chunks settings).isEmpty then some table
  else if call.accepted settings then
    some ((table.upsertAll (chunkUpserts settings now call)).delete (isStale settings call))
  else none

/-- A store that ingestion has built.  A call that the database refuses is rolled back. -/
def store (history : List (DateTime × IngestCall)) : KBTable :=
  history.foldl
    (fun table ingested => (ingestDocument settings ingested.1 ingested.2 table).getD table) .empty

/-! ## Isolation -/

/-- A call leaves the rows of all other documents alone, and of its own document exactly the
chunks of the new content. -/
structure ReplacesExactly (call : IngestCall) (before after : KBTable) : Prop where
  others : ∀ row, row.identity ≠ call.identity → (row ∈ after.rows ↔ row ∈ before.rows)
  rows : ∀ row ∈ after.rows, row.identity = call.identity →
    row.title = call.title ∧ row.status = call.status ∧
      (call.chunks settings)[row.chunkIndex]? = some row.content
  chunks : ∀ index < (call.chunks settings).length,
    ∃ row ∈ after.rows, row.identity = call.identity ∧ row.chunkIndex = index ∧
      ∀ other ∈ after.rows, other.identity = call.identity → other.chunkIndex = index → other = row

/-- Whatever a call comes to replaces its own document exactly. -/
def Isolates (now : DateTime) (call : IngestCall) (table : KBTable) : Prop :=
  ∀ after, ingestDocument settings now call table = some after →
    ReplacesExactly settings call table after

/-- A row stands under the hash of one of the new chunks. -/
structure SharesChunk (call : IngestCall) (row : KBDocument) : Prop where
  title : row.title = call.title
  name : hashName row.sourceRef row.title = hashName call.sourceRef call.title
  chunk : (call.chunks settings)[row.chunkIndex]? = some row.content

/-- No row of another document is in the way: none has the title of a call without a
reference, and none shares a chunk. -/
structure KeepsOut (call : IngestCall) (table : KBTable) : Prop where
  untitled : call.sourceRef = none →
    ∀ row ∈ table.rows, row.identity ≠ call.identity → row.title ≠ call.title
  unshared : ∀ row ∈ table.rows, row.identity ≠ call.identity → ¬ SharesChunk settings call row

/-- A row as ingestion writes it. -/
structure RowSound (row : KBDocument) : Prop where
  hashed : row.contentHash =
    contentHash settings row.title row.chunkIndex row.content row.sourceRef
  title : nul ∉ row.title.toList
  name : nul ∉ (hashName row.sourceRef row.title).toList

structure StoreSound (table : KBTable) : Prop where
  unique : table.UniqueIn KBDocument.contentHash
  rows : ∀ row ∈ table.rows, RowSound settings row

end Ingestion

/-! ## Hashes -/

section Hashes

variable {settings : KBSettings} {call : IngestCall}

theorem contentHash_inj {title otherTitle content otherContent : String} {otherIndex : Nat}
    {sourceRef otherRef : Option String} (titleFree : nul ∉ title.toList)
    (nameFree : nul ∉ (hashName sourceRef title).toList) (otherTitleFree : nul ∉ otherTitle.toList)
    (otherNameFree : nul ∉ (hashName otherRef otherTitle).toList) :
    contentHash settings title index content sourceRef =
        contentHash settings otherTitle otherIndex otherContent otherRef ↔
      hashName sourceRef title = hashName otherRef otherTitle ∧ title = otherTitle ∧
        index = otherIndex ∧ content = otherContent := by
  have digits (number : Nat) : nul ∉ (toString number).toList := not_mem_toString (by decide) number
  constructor
  · intro same
    have texts := String.ofList_injective (settings.digest_injective same)
    obtain ⟨names, texts⟩ := (joined_inj nameFree otherNameFree).1 texts
    obtain ⟨titles, texts⟩ := (joined_inj titleFree otherTitleFree).1 texts
    obtain ⟨indexes, contents⟩ := (joined_inj (digits index) (digits otherIndex)).1 texts
    exact ⟨String.toList_injective names, String.toList_injective titles,
      Nat.repr_injective (String.toList_injective indexes), String.toList_injective contents⟩
  · rintro ⟨names, rfl, rfl, rfl⟩
    rw [contentHash, contentHash, names]

theorem notMem_of_fits {limit : Nat} {text : String} (fitting : fits limit text = true) :
    nul ∉ text.toList := by
  unfold fits at fitting
  rw [Bool.and_eq_true, Bool.not_eq_true', List.contains_eq_mem, decide_eq_false_iff_not] at fitting
  exact fitting.2

theorem IngestCall.title_free (accepted : call.accepted settings = true) :
    nul ∉ call.title.toList := by
  unfold IngestCall.accepted at accepted
  simp only [Bool.and_eq_true] at accepted
  exact notMem_of_fits accepted.1.1.1

theorem IngestCall.name_free (accepted : call.accepted settings = true) :
    nul ∉ (hashName call.sourceRef call.title).toList := by
  have title := IngestCall.title_free accepted
  unfold IngestCall.accepted at accepted
  simp only [Bool.and_eq_true] at accepted
  unfold hashName
  split
  · rename_i reference isReference
    have fitting := accepted.1.1.2
    rw [isReference, Option.all_some] at fitting
    split
    · exact title
    · exact notMem_of_fits fitting
  · exact title

theorem mem_nowHashes_iff {hash : String} :
    hash ∈ nowHashes settings call ↔ ∃ index chunk, (call.chunks settings)[index]? = some chunk ∧
      contentHash settings call.title index chunk call.sourceRef = hash := by
  unfold nowHashes
  rw [List.mem_map]
  constructor
  · rintro ⟨⟨chunk, index⟩, member, same⟩
    exact ⟨index, chunk, List.mem_zipIdx_iff_getElem?.1 member, same⟩
  · rintro ⟨index, chunk, at_, same⟩
    exact ⟨(chunk, index), List.mem_zipIdx_iff_getElem?.2 at_, same⟩

theorem nodup_nowHashes (accepted : call.accepted settings = true) :
    (nowHashes settings call).Nodup := by
  have indexes : ((call.chunks settings).zipIdx.map Prod.snd).Nodup := by
    rw [List.zipIdx_map_snd]
    exact List.nodup_range'
  refine List.Nodup.map_on ?_ (List.Nodup.of_map _ indexes)
  rintro ⟨chunk, index⟩ _ ⟨other, otherIndex⟩ _ same
  have title := IngestCall.title_free accepted
  have name := IngestCall.name_free accepted
  obtain ⟨_, _, rfl, rfl⟩ := (contentHash_inj title name title name).1 same
  rfl

theorem values_chunkUpserts (now : DateTime) :
    (chunkUpserts settings now call).map Table.Upsert.value = nowHashes settings call := by
  have zipped : ((call.chunks settings).zip (settings.embedTexts (call.chunks settings)).1).map
      Prod.fst = call.chunks settings :=
    List.map_fst_zip (settings.one_vector _).ge
  have indexed : (call.chunks settings).zipIdx =
      ((call.chunks settings).zip (settings.embedTexts (call.chunks settings)).1).zipIdx.map
        (Prod.map Prod.fst id) := by
    rw [← List.zipIdx_map, zipped]
  unfold chunkUpserts nowHashes
  rw [indexed, List.map_map, List.map_map]
  rfl

theorem exists_of_mem_chunkUpserts {now : DateTime}
    {statement : Table.Upsert KBDocument.id KBDocument.contentHash}
    (listed : statement ∈ chunkUpserts settings now call) :
    ∃ index chunk vector model, (call.chunks settings)[index]? = some chunk ∧
      statement = chunkUpsert settings now call index chunk vector model := by
  obtain ⟨⟨⟨chunk, vector⟩, index⟩, member, rfl⟩ := List.mem_map.1 listed
  refine ⟨index, chunk, vector, _, ?_, rfl⟩
  have zipped := List.mem_zipIdx_iff_getElem?.1 member
  rw [List.getElem?_zip_eq_some] at zipped
  exact zipped.1

end Hashes

/-! ## One call -/

section Calls

variable {settings : KBSettings} {call : IngestCall} {table after : KBTable} {now : DateTime}
  {row : KBDocument}

/-- The row of one of the new chunks. -/
structure IsChunk (settings : KBSettings) (call : IngestCall) (row : KBDocument) : Prop where
  title : row.title = call.title
  sourceRef : row.sourceRef = call.sourceRef
  status : row.status = call.status
  chunk : (call.chunks settings)[row.chunkIndex]? = some row.content
  hashed : row.contentHash =
    contentHash settings call.title row.chunkIndex row.content call.sourceRef

theorem IsChunk.identity_eq (isChunk : IsChunk settings call row) :
    row.identity = call.identity := by
  rw [KBDocument.identity, IngestCall.identity, isChunk.sourceRef, isChunk.title]

theorem IsChunk.rowSound (isChunk : IsChunk settings call row)
    (accepted : call.accepted settings = true) : RowSound settings row where
  hashed := by rw [isChunk.hashed, isChunk.title, isChunk.sourceRef]
  title := by
    rw [isChunk.title]
    exact IngestCall.title_free accepted
  name := by
    rw [isChunk.title, isChunk.sourceRef]
    exact IngestCall.name_free accepted

theorem RowSound.eq_of_hash (sound : RowSound settings row)
    (accepted : call.accepted settings = true)
    (same : row.contentHash = contentHash settings call.title index chunk call.sourceRef) :
    hashName row.sourceRef row.title = hashName call.sourceRef call.title ∧
      row.title = call.title ∧ row.chunkIndex = index ∧ row.content = chunk := by
  rw [sound.hashed] at same
  exact (contentHash_inj sound.title sound.name (IngestCall.title_free accepted)
    (IngestCall.name_free accepted)).1 same

theorem isChunk_of_mem_upsertAll (sound : StoreSound settings table)
    (accepted : call.accepted settings = true)
    (member : row ∈ (table.upsertAll (chunkUpserts settings now call)).rows)
    (new : row.contentHash ∈ nowHashes settings call) : IsChunk settings call row := by
  rw [← values_chunkUpserts now] at new
  obtain ⟨statement, listed, own⟩ := List.mem_map.1 new
  have distinct : ((chunkUpserts settings now call).map Table.Upsert.value).Nodup := by
    rw [values_chunkUpserts]
    exact nodup_nowHashes accepted
  have writes := Table.writes_of_mem_upsertAll distinct listed own.symm member
  obtain ⟨index, chunk, vector, model, at_, rfl⟩ := exists_of_mem_chunkUpserts listed
  rcases writes with ⟨old, oldMember, oldOwn, rfl⟩ | ⟨_, fresh, rfl⟩
  · have sameChunk : old.content = chunk :=
      ((sound.rows old oldMember).eq_of_hash accepted oldOwn).2.2.2
    refine ⟨rfl, rfl, rfl, ?_, ?_⟩
    · change _ = some old.content
      rw [sameChunk]
      exact at_
    · change old.contentHash = contentHash settings call.title index old.content call.sourceRef
      rw [sameChunk]
      exact oldOwn
  · exact ⟨rfl, rfl, rfl, at_, rfl⟩

theorem ingestDocument_eq (some_ : call.chunks settings ≠ []) :
    ingestDocument settings now call table =
      if call.accepted settings then
        some ((table.upsertAll (chunkUpserts settings now call)).delete (isStale settings call))
      else none :=
  if_neg (by simpa using some_)

theorem mem_ingested_iff (accepted : call.accepted settings = true)
    (some_ : call.chunks settings ≠ [])
    (ingested : ingestDocument settings now call table = some after) :
    row ∈ after.rows ↔ row ∈ (table.upsertAll (chunkUpserts settings now call)).rows ∧
      isStale settings call row = false := by
  rw [ingestDocument_eq some_, if_pos accepted] at ingested
  obtain rfl := Option.some.inj ingested
  exact Table.mem_delete

theorem mem_ingested_cases (sound : StoreSound settings table)
    (accepted : call.accepted settings = true) (some_ : call.chunks settings ≠ [])
    (ingested : ingestDocument settings now call table = some after) :
    row ∈ after.rows ↔
      (IsChunk settings call row ∧
          row ∈ (table.upsertAll (chunkUpserts settings now call)).rows) ∨
        (row ∈ table.rows ∧ row.contentHash ∉ nowHashes settings call ∧
          call.scope row = false) := by
  rw [mem_ingested_iff accepted some_ ingested, isStale]
  by_cases new : row.contentHash ∈ nowHashes settings call
  · simp only [List.contains_eq_mem, new, decide_true, Bool.not_true, Bool.and_false, and_true,
      not_true_eq_false, false_and, and_false, or_false]
    exact ⟨fun member => ⟨isChunk_of_mem_upsertAll sound accepted member new, member⟩, And.right⟩
  · have untouched := @Table.mem_upsertAll_of_notMem _ _ _ KBDocument.contentHash table _ row
      (chunkUpserts settings now call) (by rw [values_chunkUpserts]; exact new)
    have notChunk : ¬ IsChunk settings call row := fun isChunk =>
      new (mem_nowHashes_iff.2 ⟨_, _, isChunk.chunk, isChunk.hashed.symm⟩)
    rw [untouched]
    simp [new, notChunk]

theorem exists_written (sound : StoreSound settings table)
    (accepted : call.accepted settings = true)
    (ingested : ingestDocument settings now call table = some after)
    (at_ : (call.chunks settings)[index]? = some chunk) :
    ∃ row ∈ after.rows, IsChunk settings call row ∧ row.chunkIndex = index ∧
      ((∃ old ∈ table.rows,
          old.contentHash = contentHash settings call.title index chunk call.sourceRef ∧
            row.updatedAt = old.updatedAt) ∨
        (∀ old ∈ table.rows,
          old.contentHash ≠ contentHash settings call.title index chunk call.sourceRef) ∧
            row.updatedAt = now) := by
  have some_ : call.chunks settings ≠ [] := by
    intro none
    rw [none] at at_
    cases at_
  have new : contentHash settings call.title index chunk call.sourceRef ∈ nowHashes settings call :=
    mem_nowHashes_iff.2 ⟨index, chunk, at_, rfl⟩
  have listed := new
  rw [← values_chunkUpserts now] at listed
  obtain ⟨statement, listed, own⟩ := List.mem_map.1 listed
  have distinct : ((chunkUpserts settings now call).map Table.Upsert.value).Nodup := by
    rw [values_chunkUpserts]
    exact nodup_nowHashes accepted
  obtain ⟨row, member, rowOwn⟩ := @Table.exists_mem_upsertAll _ _ _ KBDocument.contentHash table _
    _ _ distinct listed
  have hash : row.contentHash = contentHash settings call.title index chunk call.sourceRef :=
    rowOwn.trans own
  have isChunk := isChunk_of_mem_upsertAll sound accepted member (hash.symm ▸ new)
  have writes := Table.writes_of_mem_upsertAll distinct listed rowOwn member
  obtain ⟨_, _, vector, model, _, rfl⟩ := exists_of_mem_chunkUpserts listed
  refine ⟨row, (mem_ingested_cases sound accepted some_ ingested).2 (Or.inl ⟨isChunk, member⟩),
    isChunk, ((isChunk.rowSound accepted).eq_of_hash accepted hash).2.2.1, ?_⟩
  rw [← own]
  rcases writes with ⟨old, oldMember, oldOwn, rfl⟩ | ⟨absent, fresh, rfl⟩
  · exact Or.inl ⟨old, oldMember, oldOwn, rfl⟩
  · exact Or.inr ⟨absent, rfl⟩

theorem exists_mem_ingested (sound : StoreSound settings table)
    (accepted : call.accepted settings = true)
    (ingested : ingestDocument settings now call table = some after)
    (at_ : (call.chunks settings)[index]? = some chunk) :
    ∃ row ∈ after.rows, IsChunk settings call row ∧ row.chunkIndex = index := by
  obtain ⟨row, member, isChunk, rowIndex, _⟩ := exists_written sound accepted ingested at_
  exact ⟨row, member, isChunk, rowIndex⟩

theorem storeSound_ingested (sound : StoreSound settings table)
    (ingested : ingestDocument settings now call table = some after) :
    StoreSound settings after := by
  by_cases some_ : call.chunks settings = []
  · unfold ingestDocument at ingested
    rw [if_pos (by simp [some_])] at ingested
    cases ingested
    exact sound
  · cases accepted : call.accepted settings with
    | false =>
        rw [ingestDocument_eq some_, if_neg (by simp [accepted])] at ingested
        cases ingested
    | true =>
        refine ⟨?_, fun row member => ?_⟩
        · rw [ingestDocument_eq some_, if_pos accepted] at ingested
          obtain rfl := Option.some.inj ingested
          exact (sound.unique.upsertAll _).delete _
        · rcases (mem_ingested_cases sound accepted some_ ingested).1 member with
            ⟨isChunk, _⟩ | ⟨old, _⟩
          · exact isChunk.rowSound accepted
          · exact sound.rows row old

theorem storeSound_store (settings : KBSettings) (history : List (DateTime × IngestCall)) :
    StoreSound settings (store settings history) := by
  have initially : StoreSound settings Table.empty :=
    ⟨Table.uniqueIn_empty, fun row member => by cases member⟩
  unfold store
  generalize (Table.empty : KBTable) = table at initially ⊢
  induction history generalizing table with
  | nil => exact initially
  | cons call history ih =>
      apply ih
      change StoreSound settings ((ingestDocument settings call.1 call.2 table).getD table)
      cases ingested : ingestDocument settings call.1 call.2 table with
      | none => exact initially
      | some after => exact storeSound_ingested initially ingested

theorem accepted_of_ingested (some_ : call.chunks settings ≠ [])
    (ingested : ingestDocument settings now call table = some after) :
    call.accepted settings = true := by
  rw [ingestDocument_eq some_] at ingested
  by_contra refused
  rw [if_neg refused] at ingested
  cases ingested

theorem notMem_of_reached (sound : StoreSound settings table)
    (accepted : call.accepted settings = true) (some_ : call.chunks settings ≠ [])
    (ingested : ingestDocument settings now call table = some after)
    (other : row.identity ≠ call.identity)
    (reached : call.scope row = true ∨ row.contentHash ∈ nowHashes settings call) :
    row ∉ after.rows := by
  intro member
  rcases (mem_ingested_cases sound accepted some_ ingested).1 member with
    ⟨isChunk, _⟩ | ⟨_, unhashed, outOfScope⟩
  · exact other isChunk.identity_eq
  · rcases reached with inScope | hashed
    · exact absurd (inScope.symm.trans outOfScope) (by decide)
    · exact unhashed hashed

theorem sharesChunk_iff (sound : RowSound settings row) (accepted : call.accepted settings = true) :
    SharesChunk settings call row ↔ row.contentHash ∈ nowHashes settings call := by
  rw [mem_nowHashes_iff]
  constructor
  · intro shares
    refine ⟨row.chunkIndex, row.content, shares.chunk, ?_⟩
    rw [sound.hashed]
    exact (contentHash_inj (IngestCall.title_free accepted) (IngestCall.name_free accepted)
      sound.title sound.name).2 ⟨shares.name.symm, shares.title.symm, rfl, rfl⟩
  · rintro ⟨index, chunk, at_, same⟩
    obtain ⟨name, title, rfl, rfl⟩ := sound.eq_of_hash accepted same.symm
    exact ⟨title, name, at_⟩

theorem scope_iff (other : row.identity ≠ call.identity) :
    call.scope row = true ↔ call.sourceRef = none ∧ row.title = call.title := by
  unfold IngestCall.scope
  split
  · rename_i reference isReference
    rw [decide_eq_true_eq, isReference]
    refine ⟨fun same => absurd ?_ other, fun both => absurd both.1 (by simp)⟩
    simp [KBDocument.identity, IngestCall.identity, identityOf, same, isReference]
  · rename_i none
    simp [none]

theorem isChunk_of_identity_eq (sound : StoreSound settings table)
    (accepted : call.accepted settings = true) (some_ : call.chunks settings ≠ [])
    (ingested : ingestDocument settings now call table = some after) (member : row ∈ after.rows)
    (own : row.identity = call.identity) : IsChunk settings call row := by
  rcases (mem_ingested_cases sound accepted some_ ingested).1 member with
    ⟨isChunk, _⟩ | ⟨_, _, outOfScope⟩
  · exact isChunk
  · exfalso
    unfold KBDocument.identity IngestCall.identity identityOf at own
    unfold IngestCall.scope at outOfScope
    cases isReference : call.sourceRef with
    | some reference =>
        rw [isReference] at own outOfScope
        cases rowRef : row.sourceRef with
        | some rowReference =>
            rw [rowRef] at own outOfScope
            simp only [Option.map_some, Option.getD_some, DocumentIdentity.reference.injEq] at own
            simp [own] at outOfScope
        | none =>
            rw [rowRef] at own
            cases own
    | none =>
        rw [isReference] at own outOfScope
        cases rowRef : row.sourceRef with
        | some rowReference =>
            rw [rowRef] at own
            cases own
        | none =>
            rw [rowRef] at own
            simp only [Option.map_none, Option.getD_none, DocumentIdentity.title.injEq] at own
            simp [own] at outOfScope

theorem replacesExactly_iff (sound : StoreSound settings table)
    (accepted : call.accepted settings = true) (some_ : call.chunks settings ≠ [])
    (ingested : ingestDocument settings now call table = some after) :
    ReplacesExactly settings call table after ↔ KeepsOut settings call table := by
  constructor
  · intro replaces
    have survives (row : KBDocument) (member : row ∈ table.rows)
        (other : row.identity ≠ call.identity) :
        ¬ (call.scope row = true ∨ row.contentHash ∈ nowHashes settings call) := fun reached =>
      notMem_of_reached sound accepted some_ ingested other reached
        ((replaces.others row other).2 member)
    refine ⟨fun none row member other title => ?_, fun row member other shares => ?_⟩
    · exact survives row member other (Or.inl ((scope_iff other).2 ⟨none, title⟩))
    · exact survives row member other
        (Or.inr ((sharesChunk_iff (sound.rows row member) accepted).1 shares))
  · intro keeps
    refine ⟨fun row other => ?_, fun row member own => ?_, fun index inside => ?_⟩
    · rw [mem_ingested_cases sound accepted some_ ingested]
      constructor
      · rintro (⟨isChunk, _⟩ | ⟨member, _⟩)
        · exact absurd isChunk.identity_eq other
        · exact member
      · intro member
        refine Or.inr ⟨member, fun new => ?_, Bool.eq_false_of_not_eq_true fun inScope => ?_⟩
        · exact keeps.unshared row member other
            ((sharesChunk_iff (sound.rows row member) accepted).2 new)
        · obtain ⟨none, title⟩ := (scope_iff other).1 inScope
          exact keeps.untitled none row member other title
    · have isChunk := isChunk_of_identity_eq sound accepted some_ ingested member own
      exact ⟨isChunk.title, isChunk.status, isChunk.chunk⟩
    · obtain ⟨row, member, isChunk, at_⟩ := exists_mem_ingested sound accepted ingested
        (List.getElem?_eq_getElem inside)
      refine ⟨row, member, isChunk.identity_eq, at_, fun twin twinMember own twinAt => ?_⟩
      have twinChunk := isChunk_of_identity_eq sound accepted some_ ingested twinMember own
      apply (storeSound_ingested sound ingested).unique twin twinMember row member
      have sameContent : twin.content = row.content := by
        have twinContent := twinChunk.chunk
        rw [twinAt, ← at_, isChunk.chunk] at twinContent
        exact (Option.some.inj twinContent).symm
      rw [twinChunk.hashed, isChunk.hashed, twinAt, at_, sameContent]

/-- In every store that ingestion has built, a further call replaces its own document exactly
just when no row of another document is in the way. -/
theorem ingest_isolates_iff (settings : KBSettings) (history : List (DateTime × IngestCall))
    (now : DateTime) (call : IngestCall) (written : strip call.content ≠ "") :
    Isolates settings now call (store settings history) ↔
      (call.accepted settings = true → KeepsOut settings call (store settings history)) := by
  have some_ : call.chunks settings ≠ [] := chunkText_ne_nil written settings.maxChars
  have sound := storeSound_store settings history
  rw [Isolates, ingestDocument_eq some_]
  by_cases accepted : call.accepted settings = true
  · have ingested := (@ingestDocument_eq settings call (store settings history) now some_).trans
      (if_pos accepted)
    have exact_ := replacesExactly_iff sound accepted some_ ingested
    rw [if_pos accepted]
    constructor
    · intro replaces _
      exact exact_.1 (replaces _ rfl)
    · rintro keeps after same
      obtain rfl := Option.some.inj same
      exact exact_.2 (keeps accepted)
  · rw [if_neg accepted]
    exact iff_of_true (fun after same => nomatch same) fun taken => absurd taken accepted

theorem placeholder_vectors (chunks : List String) :
    (chunks.map fun _ => ([] : List Json)).length = chunks.length :=
  List.length_map _

theorem identity_injective : Function.Injective fun text : String => text :=
  fun _ _ same => same

theorem chunk_limit_pos : 0 < 800 := by
  decide

def plainKnowledge : KBSettings where
  python := { PythonRuntime.plain with sha256Hexdigest := fun text => text }
  digest_injective := identity_injective
  maxChars := 800
  maxChars_pos := chunk_limit_pos
  embedTexts chunks := (chunks.map fun _ => [], "placeholder")
  one_vector := placeholder_vectors

def restartNotes (title : String) (sourceRef : Option String) : IngestCall where
  title := title
  content := "Restart the service."
  sourceRef := sourceRef
  tags := none
  status := "published"

/-- References keep documents of one title and content apart. -/
theorem references_isolate :
    Isolates plainKnowledge 1 (restartNotes "Restart" (some "wiki/b"))
      (store plainKnowledge [(0, restartNotes "Restart" (some "wiki/a"))]) := by
  have stored : ∀ row ∈ (store plainKnowledge
      [(0, restartNotes "Restart" (some "wiki/a"))]).rows,
      hashName row.sourceRef row.title = "wiki/a" := by
    decide
  apply (ingest_isolates_iff plainKnowledge [(0, restartNotes "Restart" (some "wiki/a"))] 1
    (restartNotes "Restart" (some "wiki/b")) (by decide)).2
  intro _
  constructor
  · intro unnamed
    exact nomatch unnamed
  · intro row member _ shares
    exact absurd ((stored row member).symm.trans shares.name) (by decide)

/-- A document without a reference deletes the one that has its title; and a document whose
reference is the title of another takes over its chunk. -/
theorem titles_collide :
    ¬ Isolates plainKnowledge 1 (restartNotes "Restart" none)
        (store plainKnowledge [(0, restartNotes "Restart" (some "wiki/a"))]) ∧
      ¬ Isolates plainKnowledge 1 (restartNotes "Restart" (some "Restart"))
        (store plainKnowledge [(0, restartNotes "Restart" none)]) := by
  constructor
  · intro replaces
    have keeps := (replacesExactly_iff (storeSound_store _ _) (by decide) (by decide) rfl).1
      (replaces _ rfl)
    obtain ⟨row, member, other, title⟩ : ∃ row ∈ (store plainKnowledge
        [(0, restartNotes "Restart" (some "wiki/a"))]).rows,
        row.identity ≠ (restartNotes "Restart" none).identity ∧ row.title = "Restart" := by
      decide
    exact keeps.untitled rfl row member other title
  · intro replaces
    have keeps := (replacesExactly_iff (storeSound_store _ _) (by decide) (by decide) rfl).1
      (replaces _ rfl)
    obtain ⟨row, member, other, title, name, chunk⟩ : ∃ row ∈ (store plainKnowledge
        [(0, restartNotes "Restart" none)]).rows,
        row.identity ≠ (restartNotes "Restart" (some "Restart")).identity ∧
          row.title = "Restart" ∧ hashName row.sourceRef row.title = "Restart" ∧
          ((restartNotes "Restart" (some "Restart")).chunks plainKnowledge)[row.chunkIndex]? =
            some row.content := by
      decide
    exact keeps.unshared row member other ⟨title, name, chunk⟩

end Calls

end KnowledgeBase

end WebhookWise
