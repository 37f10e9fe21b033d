import WebhookWise.ConfigTransfer

/-!
# Importing what was exported

The bundle of a database changes nothing in the database it was exported from, and builds
its like in an empty one, if every field is exported that the schemas fill in.  The gateway
of a rule is not exported, so the import resets it to the default one.
-/

namespace WebhookWise

open SqlTable Upserts

namespace ConfigTransfer

open ConfigSchemas

/-- A database whose rows the schemas accepted, under unique names.  Silences that windows
own are not created through the schemas. -/
structure ApiDatabase (env : TransferEnvironment) extends ConfigDatabase where
  ruleCreated : ∀ row ∈ forwardRules.rows,
    ∃ entry, forwardRuleCreateRequest env.schemas entry = some row.data
  silenceCreated : ∀ row ∈ silences.rows, row.data.silence.createdBy ≠ "maintenance-window" →
    ∃ entry, silenceCreateRequest env.schemas entry = some row.data.silence
  windowCreated : ∀ row ∈ windows.rows,
    ∃ entry, windowCreateRequest env.schemas entry = some row.data
  ruleNames : (forwardRules.rows.map fun row => row.data.name).Nodup
  windowNames : (windows.rows.map fun row => row.data.name).Nodup

def emptyDatabase : ConfigDatabase :=
  ⟨.empty, .empty, .empty⟩

def allUnchanged (bundle : ConfigBundle) : ConfigReport where
  forwardRules := unchangedReport bundle.forwardRules.length
  silences := unchangedReport bundle.silences.length
  windows := unchangedReport bundle.windows.length

variable (env : TransferEnvironment)

/-- What is exported at one time and imported at another makes no difference. -/
structure RoundTrips (exportedAt importedAt : DateTime) (db : ConfigDatabase) : Prop where
  unchanged : importConfig env importedAt db (exportConfig env exportedAt db) =
    .ok (db, allUnchanged (exportConfig env exportedAt db))
  rebuilt : ∃ imported report,
    importConfig env importedAt emptyDatabase (exportConfig env exportedAt db) =
        .ok (imported, report) ∧
      exportConfig env importedAt imported = exportConfig env exportedAt db

/-- No rule has a gateway, the import looks up the names that are stored, and every exported
silence is still active, and its expiry that of all exported silences under its key. -/
structure Transferable (exportedAt importedAt : DateTime) (db : ConfigDatabase) : Prop where
  withoutGateway : ∀ row ∈ db.forwardRules.rows, row.data.targetGateway = ""
  ruleNames : ∀ row ∈ db.forwardRules.rows, strip row.data.name = row.data.name
  windowNames : ∀ row ∈ db.windows.rows, strip row.data.name = row.data.name
  stillActive : ∀ row ∈ transferredSilences exportedAt db, isTransferred importedAt row.data = true
  oneExpiry : ∀ first ∈ transferredSilences exportedAt db,
    ∀ second ∈ transferredSilences exportedAt db,
      silenceKey first.data.silence = silenceKey second.data.silence →
        first.data.expiresAt = second.data.expiresAt

/-- `fromisoformat` reads the expiries of a database as `utc_isoformat` writes them. -/
def ReadsExpiries (db : ConfigDatabase) : Prop :=
  ∀ row ∈ db.silences.rows, ∀ instant, row.data.expiresAt = some instant →
    (env.python.fromIsoformat (replaceZulu (DateTime.utcIsoformat instant))).map naiveUtc =
      some instant

variable {env}

/-! ## One row -/

section Rows

variable {Data : Type} {table : Table (@ConfigRow.id Data)}

theorem applyChange_unchanged_iff [DecidableEq Data] {row : ConfigRow Data}
    (member : row ∈ table.rows) (change : Data → Data) :
    (applyChange table row.id change).2 = .unchanged ↔ change row.data = row.data := by
  unfold applyChange
  split
  · rename_i differs
    simp only [List.any_eq_true, Bool.and_eq_true, decide_eq_true_eq] at differs
    rcases differs with ⟨other, otherMember, sameId, changes⟩
    rw [Table.eq_of_key_eq otherMember member sameId] at changes
    simp [changes]
  · rename_i same
    simp only [List.any_eq_true, Bool.and_eq_true, decide_eq_true_eq, not_exists, not_and,
      not_not] at same
    simp [same row member rfl]

theorem applyChange_keeps [DecidableEq Data] {id : Nat} {change : Data → Data}
    (unchanged : (applyChange table id change).2 = .unchanged) :
    (applyChange table id change).1 = table := by
  unfold applyChange at unchanged ⊢
  split at unchanged
  · cases unchanged
  · rename_i same
    rw [if_neg same]

theorem filter_named {nameOf : Data → String} {rows : List (ConfigRow Data)}
    (distinct : (rows.map fun row => nameOf row.data).Nodup) {row : ConfigRow Data}
    (member : row ∈ rows) :
    (rows.filter fun other => nameOf other.data = nameOf row.data) = [row] := by
  induction rows with
  | nil => cases member
  | cons head rows ih =>
      rw [List.map_cons, List.nodup_cons] at distinct
      rcases List.mem_cons.1 member with rfl | later
      · have others : (rows.filter fun other => nameOf other.data = nameOf row.data) = [] := by
          rw [List.filter_eq_nil_iff]
          intro other otherMember sameName
          exact distinct.1 (List.mem_map.2 ⟨other, otherMember, of_decide_eq_true sameName⟩)
        rw [List.filter_cons_of_pos (by simp), others]
      · have different : nameOf head.data ≠ nameOf row.data := by
          intro sameName
          exact distinct.1 (List.mem_map.2 ⟨row, later, sameName.symm⟩)
        rw [List.filter_cons_of_neg (by simpa using different)]
        exact ih distinct.2 later

theorem rows_foldl_addRow (datas : List Data) (table : Table (@ConfigRow.id Data)) :
    ((datas.foldl addRow table).rows.map ConfigRow.data) =
      table.rows.map ConfigRow.data ++ datas := by
  induction datas generalizing table with
  | nil => simp
  | cons data datas ih =>
      rw [List.foldl_cons, ih]
      simp [addRow, Table.insert]

end Rows

/-! ## One entry -/

variable {entry : ForwardRuleEntry}

section Rules

variable {existing : List (ConfigRow ForwardRuleData)}
  {table : Table (@ConfigRow.id ForwardRuleData)}
variable {data : ForwardRuleData}

theorem ruleRequest_exported (created : forwardRuleCreateRequest env.schemas entry = some data) :
    forwardRuleCreateRequest env.schemas { exportedRule data with targetGateway := none } =
      some { data with targetGateway := "" } :=
  forwardRuleCreateRequest_again created none (textField_absent env.schemas 50)

theorem ruleName_ne_empty (created : forwardRuleCreateRequest env.schemas entry = some data) :
    data.name ≠ "" := by
  simp only [forwardRuleCreateRequest, Option.bind_eq_bind, Option.bind_eq_some_iff,
    Option.pure_def, Option.some.injEq] at created
  rcases created with ⟨_, name, _, _, _, _, _, _, _, _, _, _, _, _, rfl⟩
  exact requiredField_ne_empty name

theorem importRule_of_found {row : ConfigRow ForwardRuleData}
    (named : strip (entry.name.getD "") ≠ "")
    (request : forwardRuleCreateRequest env.schemas { entry with targetGateway := none } =
      some data)
    (found : (existing.filter fun other => other.data.name = strip (entry.name.getD "")) = [row]) :
    importRule env existing table entry = applyChange table row.id fun _ => data := by
  simp only [importRule, if_neg named, request, found]

theorem importRule_unchanged (unchanged : (importRule env existing table entry).2 = .unchanged) :
    ∃ data row, forwardRuleCreateRequest env.schemas { entry with targetGateway := none } =
        some data ∧
      (existing.filter fun other => other.data.name = strip (entry.name.getD "")) = [row] ∧
      importRule env existing table entry = applyChange table row.id fun _ => data := by
  by_cases named : strip (entry.name.getD "") = ""
  · simp only [importRule, if_pos named, reduceCtorEq] at unchanged
  cases request : forwardRuleCreateRequest env.schemas { entry with targetGateway := none } with
  | none => simp only [importRule, if_neg named, request, reduceCtorEq] at unchanged
  | some data =>
      rcases found : existing.filter fun other => other.data.name = strip (entry.name.getD "")
        with _ | ⟨row, _ | ⟨next, others⟩⟩
      · simp only [importRule, if_neg named, request, found, reduceCtorEq] at unchanged
      · exact ⟨data, row, rfl, found, importRule_of_found named request found⟩
      · simp only [importRule, if_neg named, request, found, reduceCtorEq] at unchanged

theorem importRule_keeps (existing : List (ConfigRow ForwardRuleData))
    (table : Table (@ConfigRow.id ForwardRuleData)) (entry : ForwardRuleEntry)
    (unchanged : (importRule env existing table entry).2 = .unchanged) :
    (importRule env existing table entry).1 = table := by
  rcases importRule_unchanged unchanged with ⟨data, row, _, _, applied⟩
  rw [applied] at unchanged ⊢
  exact applyChange_keeps unchanged

theorem importRule_unchanged_iff {row : ConfigRow ForwardRuleData} (member : row ∈ table.rows)
    (created : forwardRuleCreateRequest env.schemas entry = some row.data)
    (distinct : (table.rows.map fun other => other.data.name).Nodup) :
    (importRule env table.rows table (exportedRule row.data)).2 = .unchanged ↔
      strip row.data.name = row.data.name ∧ row.data.targetGateway = "" := by
  have request := ruleRequest_exported created
  have given : (exportedRule row.data).name.getD "" = row.data.name := rfl
  constructor
  · intro unchanged
    rcases importRule_unchanged unchanged with ⟨data, other, otherRequest, others, applied⟩
    rw [request, Option.some.injEq] at otherRequest
    subst otherRequest
    have otherFound : other ∈ table.rows.filter fun candidate =>
        candidate.data.name = strip row.data.name := by
      rw [given] at others
      simp [others]
    rcases List.mem_filter.1 otherFound with ⟨otherMember, otherName⟩
    rw [applied, applyChange_unchanged_iff otherMember] at unchanged
    have sameName : row.data.name = other.data.name := by rw [← unchanged]
    -- Names are distinct, so the row that was found is the exported one.
    have same : row = other := by
      apply List.inj_on_of_nodup_map distinct member otherMember sameName
    subst same
    exact ⟨(of_decide_eq_true otherName).symm, by rw [← unchanged]⟩
  · rintro ⟨found, withoutGateway⟩
    have named : strip ((exportedRule row.data).name.getD "") ≠ "" := by
      rw [given, found]
      exact ruleName_ne_empty created
    have only : (table.rows.filter fun other =>
        other.data.name = strip ((exportedRule row.data).name.getD "")) = [row] := by
      rw [given, found]
      exact filter_named distinct member
    rw [importRule_of_found named request only, applyChange_unchanged_iff member]
    rw [← withoutGateway]

end Rules

section Windows

variable {existing : List (ConfigRow WindowData)} {table : Table (@ConfigRow.id WindowData)}
variable {entry : WindowEntry}
variable {data : WindowData}

theorem windowRequest_exported (created : windowCreateRequest env.schemas entry = some data) :
    ∃ days, parsedDays data.daysOfWeek = some days ∧
      windowCreateRequest env.schemas (BundleWindow.request (exportedWindow data) days) =
        some data :=
  windowCreateRequest_again created

theorem windowName_ne_empty (created : windowCreateRequest env.schemas entry = some data) :
    data.name ≠ "" := by
  simp only [windowCreateRequest, Option.bind_eq_bind, Option.bind_eq_some_iff,
    Option.pure_def, Option.ite_none_right_eq_some, Option.some.injEq] at created
  rcases created with ⟨_, _, _, name, _, _, _, _, _, _, _, _, _, rfl⟩
  exact requiredField_ne_empty name

theorem importWindow_of_found {entry : BundleWindow} {days : List Int} {row : ConfigRow WindowData}
    (named : strip (entry.name.getD "") ≠ "")
    (parsed : parsedDays (entry.daysOfWeek.getD "") = some days)
    (request : windowCreateRequest env.schemas (BundleWindow.request entry days) = some data)
    (found : (existing.filter fun other =>
      other.data.name = strip (entry.name.getD "")).getLast? = some row) :
    importWindow env existing table entry = applyChange table row.id fun _ => data := by
  simp only [importWindow, if_neg named, parsed, request, found]

theorem importWindow_unchanged {entry : BundleWindow}
    (unchanged : (importWindow env existing table entry).2 = .unchanged) :
    ∃ days data row, parsedDays (entry.daysOfWeek.getD "") = some days ∧
      windowCreateRequest env.schemas (BundleWindow.request entry days) = some data ∧
      (existing.filter fun other =>
        other.data.name = strip (entry.name.getD "")).getLast? = some row ∧
      importWindow env existing table entry = applyChange table row.id fun _ => data := by
  by_cases named : strip (entry.name.getD "") = ""
  · simp only [importWindow, if_pos named, reduceCtorEq] at unchanged
  cases parsed : parsedDays (entry.daysOfWeek.getD "") with
  | none => simp only [importWindow, if_neg named, parsed, reduceCtorEq] at unchanged
  | some days =>
      cases request : windowCreateRequest env.schemas (BundleWindow.request entry days) with
      | none => simp only [importWindow, if_neg named, parsed, request, reduceCtorEq] at unchanged
      | some data =>
          cases found : (existing.filter fun other =>
              other.data.name = strip (entry.name.getD "")).getLast? with
          | none =>
              simp only [importWindow, if_neg named, parsed, request, found, reduceCtorEq]
                at unchanged
          | some row =>
              exact ⟨days, data, row, rfl, request, rfl,
                importWindow_of_found named parsed request found⟩

theorem importWindow_keeps (existing : List (ConfigRow WindowData))
    (table : Table (@ConfigRow.id WindowData)) (entry : BundleWindow)
    (unchanged : (importWindow env existing table entry).2 = .unchanged) :
    (importWindow env existing table entry).1 = table := by
  rcases importWindow_unchanged unchanged with ⟨days, data, row, _, _, _, applied⟩
  rw [applied] at unchanged ⊢
  exact applyChange_keeps unchanged

theorem importWindow_unchanged_iff {row : ConfigRow WindowData} (member : row ∈ table.rows)
    (created : windowCreateRequest env.schemas entry = some row.data)
    (distinct : (table.rows.map fun other => other.data.name).Nodup) :
    (importWindow env table.rows table (exportedWindow row.data)).2 = .unchanged ↔
      strip row.data.name = row.data.name := by
  rcases windowRequest_exported created with ⟨days, parsed, request⟩
  have given : (exportedWindow row.data).name.getD "" = row.data.name := rfl
  constructor
  · intro unchanged
    rcases importWindow_unchanged unchanged with
      ⟨otherDays, data, other, otherParsed, otherRequest, last, applied⟩
    obtain rfl : days = otherDays := Option.some.inj (parsed.symm.trans otherParsed)
    obtain rfl : row.data = data := Option.some.inj (request.symm.trans otherRequest)
    rw [given] at last
    rcases List.mem_filter.1 (List.mem_of_getLast? last) with ⟨otherMember, otherName⟩
    rw [applied, applyChange_unchanged_iff otherMember] at unchanged
    rw [← of_decide_eq_true otherName, ← unchanged]
  · intro found
    have named : strip ((exportedWindow row.data).name.getD "") ≠ "" := by
      rw [given, found]
      exact windowName_ne_empty created
    have last : (table.rows.filter fun other =>
        other.data.name = strip ((exportedWindow row.data).name.getD "")).getLast? = some row := by
      rw [given, found, filter_named distinct member]
      rfl
    rw [importWindow_of_found named parsed request last, applyChange_unchanged_iff member]

end Windows

section Silences

variable {existing : List (ConfigRow StoredSilence)}
  {table : Table (@ConfigRow.id StoredSilence)}

theorem utcIsoformat_ne_empty (instant : DateTime) : DateTime.utcIsoformat instant ≠ "" := by
  intro empty
  have letters := congrArg String.toList empty
  simp [DateTime.utcIsoformat] at letters

theorem readExpiry_exported {db : ConfigDatabase} (reads : ReadsExpiries env db)
    {row : ConfigRow StoredSilence} (member : row ∈ db.silences.rows) :
    readExpiry env (exportedSilence row.data).expiresAt.join = some row.data.expiresAt := by
  change readExpiry env (row.data.expiresAt.map DateTime.utcIsoformat) = _
  cases expiry : row.data.expiresAt with
  | none => rfl
  | some instant =>
      have written := utcIsoformat_ne_empty instant
      rw [Option.map_some, readExpiry]
      · rw [reads row member instant expiry, Option.map_some]
      · simpa using written

theorem importSilence_keeps (existing : List (ConfigRow StoredSilence))
    (table : Table (@ConfigRow.id StoredSilence)) (entry : BundleSilence)
    (unchanged : (importSilence env existing table entry).2 = .unchanged) :
    (importSilence env existing table entry).1 = table := by
  by_cases derived : entry.entry.createdBy.getD "" = "maintenance-window"
  · simp only [importSilence, if_pos derived]
  cases request : silenceCreateRequest env.schemas entry.entry with
  | none => simp only [importSilence, if_neg derived, request]
  | some data =>
      cases read : readExpiry env entry.expiresAt.join with
      | none => simp only [importSilence, if_neg derived, request, read]
      | some expiresAt =>
          simp only [importSilence, if_neg derived, request, read] at unchanged ⊢
          by_cases empty : data.criteria.toList.all (· = "") = true
          · rw [if_pos empty]
          rw [if_neg empty] at unchanged ⊢
          cases last : (existing.filter fun row =>
              silenceKey row.data.silence = silenceKey data).getLast? with
          | none => simp only [last, reduceCtorEq] at unchanged
          | some row =>
              simp only [last] at unchanged ⊢
              by_cases carries : entry.expiresAt.isSome = true
              · rw [if_pos carries] at unchanged ⊢
                exact applyChange_keeps unchanged
              · rw [if_neg carries]

theorem importSilence_exported {entry : SilenceEntry} {data : StoredSilence}
    (foreign : data.silence.createdBy ≠ "maintenance-window")
    (created : silenceCreateRequest env.schemas entry = some data.silence)
    (read : readExpiry env (exportedSilence data).expiresAt.join = some data.expiresAt) :
    importSilence env existing table (exportedSilence data) =
      (existing.filter fun row =>
          silenceKey row.data.silence = silenceKey data.silence).getLast?.elim
        (addRow table ⟨data.silence, data.expiresAt, none⟩, .created)
        fun row => applyChange table row.id fun stored =>
          { stored with expiresAt := data.expiresAt } := by
  have request : silenceCreateRequest env.schemas (exportedSilence data).entry =
      some data.silence := silenceCreateRequest_again created
  have derived : ¬ (exportedSilence data).entry.createdBy.getD "" = "maintenance-window" := foreign
  have criterion : ¬ data.silence.criteria.toList.all (· = "") = true := by
    have some_criterion := (Option.filter_eq_some_iff.1 created).2
    rw [hasCriterion, List.any_eq_true] at some_criterion
    rcases some_criterion with ⟨text, member, visible⟩
    rw [List.all_eq_true]
    intro allEmpty
    rw [of_decide_eq_true (allEmpty text member)] at visible
    exact absurd visible (by decide)
  have carries : (exportedSilence data).expiresAt.isSome = true := rfl
  simp only [importSilence, if_neg derived, request, read, if_neg criterion, if_pos carries]
  cases (existing.filter fun row =>
    silenceKey row.data.silence = silenceKey data.silence).getLast? with
  | none => rfl
  | some row => rfl

end Silences

/-! ## Importing into the database itself -/

variable {exportedAt importedAt : DateTime}
variable {now : DateTime} {Data : Type} (db : ApiDatabase env)
variable {rows : List (ConfigRow Data)} {nameOf : Data → String}

theorem importConfig_unchanged_iff (db : ConfigDatabase) (bundle : ConfigBundle)
    (version : bundle.version = 1)
    (distinct : (db.windows.rows.map fun row => row.data.name).Nodup) :
    importConfig env importedAt db bundle = .ok (db, allUnchanged bundle) ↔
      (∀ entry ∈ bundle.forwardRules,
        (importRule env db.forwardRules.rows db.forwardRules entry).2 = .unchanged) ∧
      (∀ entry ∈ bundle.windows,
        (importWindow env db.windows.rows db.windows entry).2 = .unchanged) ∧
      ∀ entry ∈ bundle.silences,
        (importSilence env (transferredSilences importedAt db) db.silences entry).2 =
          .unchanged := by
  have rules : importAll (importRule env db.forwardRules.rows) db.forwardRules {}
      bundle.forwardRules = (db.forwardRules, unchangedReport bundle.forwardRules.length) ↔ _ :=
    importAll_eq_unchanged_iff (importRule_keeps _) _
  have windows : importAll (importWindow env db.windows.rows) db.windows {} bundle.windows =
      (db.windows, unchangedReport bundle.windows.length) ↔ _ :=
    importAll_eq_unchanged_iff (importWindow_keeps _) _
  have silences : importAll (importSilence env (transferredSilences importedAt db)) db.silences {}
      bundle.silences = (db.silences, unchangedReport bundle.silences.length) ↔ _ :=
    importAll_eq_unchanged_iff (importSilence_keeps _) _
  rw [← rules, ← windows, ← silences, importConfig, if_neg (not_not.2 version)]
  dsimp only
  constructor
  · intro imported
    split at imported
    · simp only [Except.ok.injEq, Prod.mk.injEq, allUnchanged, ConfigDatabase.ext_iff,
        ConfigReport.mk.injEq] at imported
      rcases imported with ⟨⟨ruleRows, silenceRows, windowRows⟩, ruleCount, silenceCount,
        windowCount⟩
      exact ⟨Prod.ext ruleRows ruleCount, Prod.ext windowRows windowCount,
        Prod.ext silenceRows silenceCount⟩
    · cases imported
  · rintro ⟨ruleImport, windowImport, silenceImport⟩
    rw [ruleImport, windowImport, silenceImport, if_pos distinct]
    rfl

theorem mem_transferredSilences {db : ConfigDatabase} {row : ConfigRow StoredSilence} :
    row ∈ transferredSilences now db ↔ row ∈ db.silences.rows ∧ isTransferred now row.data = true :=
  List.mem_filter

theorem isTransferred_earlier {later : DateTime} (ordered : now ≤ later) {data : StoredSilence}
    (active : isTransferred later data = true) : isTransferred now data = true := by
  simp only [isTransferred, Bool.and_eq_true] at active ⊢
  rcases active with ⟨⟨notLifted, unexpired⟩, foreign⟩
  refine ⟨⟨notLifted, ?_⟩, foreign⟩
  cases expiry : data.expiresAt with
  | none => rfl
  | some instant =>
      rw [expiry, Option.all_some, decide_eq_true_eq] at unexpired
      rw [Option.all_some, decide_eq_true_eq]
      exact lt_of_le_of_lt ordered unexpired

theorem isTransferred_of_sameExpiry {later : DateTime} {data other : StoredSilence}
    (active : isTransferred now data = true) (otherActive : isTransferred later other = true)
    (sameExpiry : other.expiresAt = data.expiresAt) : isTransferred later data = true := by
  simp only [isTransferred, Bool.and_eq_true] at active otherActive ⊢
  rw [← sameExpiry]
  exact ⟨⟨active.1.1, otherActive.1.2⟩, active.2⟩

theorem createdBy_of_isTransferred {data : StoredSilence} (active : isTransferred now data = true) :
    data.silence.createdBy ≠ "maintenance-window" := by
  simp only [isTransferred, Bool.and_eq_true, decide_eq_true_eq] at active
  exact active.2

theorem importSilence_unchanged_iff (db : ApiDatabase env)
    (reads : ReadsExpiries env db.toConfigDatabase) {row : ConfigRow StoredSilence}
    (member : row ∈ transferredSilences exportedAt db.toConfigDatabase) :
    (importSilence env (transferredSilences importedAt db.toConfigDatabase) db.silences
        (exportedSilence row.data)).2 = .unchanged ↔
      ∃ last ∈ transferredSilences importedAt db.toConfigDatabase,
        ((transferredSilences importedAt db.toConfigDatabase).filter fun other =>
          silenceKey other.data.silence = silenceKey row.data.silence).getLast? = some last ∧
        row.data.expiresAt = last.data.expiresAt := by
  rcases mem_transferredSilences.1 member with ⟨stored, active⟩
  rcases db.silenceCreated row stored (createdBy_of_isTransferred active) with ⟨entry, created⟩
  rw [importSilence_exported (createdBy_of_isTransferred active) created
    (readExpiry_exported reads stored)]
  cases found : ((transferredSilences importedAt db.toConfigDatabase).filter fun other =>
      silenceKey other.data.silence = silenceKey row.data.silence).getLast? with
  | none => simp
  | some last =>
      have lastMember := (List.mem_filter.1 (List.mem_of_getLast? found)).1
      rw [Option.elim_some, applyChange_unchanged_iff (mem_transferredSilences.1 lastMember).1]
      constructor
      · intro same
        exact ⟨last, lastMember, rfl, by rw [← same]⟩
      · rintro ⟨other, _, sameLast, sameExpiry⟩
        rw [Option.some.injEq] at sameLast
        subst sameLast
        rw [sameExpiry]

/-- The exported silences are found unchanged if the import still sees each of them, under
the expiry of the one it compares it with. -/
theorem silences_unchanged_iff (reads : ReadsExpiries env db.toConfigDatabase)
    (ordered : exportedAt ≤ importedAt) :
    (∀ row ∈ transferredSilences exportedAt db.toConfigDatabase,
        (importSilence env (transferredSilences importedAt db.toConfigDatabase) db.silences
          (exportedSilence row.data)).2 = .unchanged) ↔
      (∀ row ∈ transferredSilences exportedAt db.toConfigDatabase,
        isTransferred importedAt row.data = true) ∧
      ∀ first ∈ transferredSilences exportedAt db.toConfigDatabase,
        ∀ second ∈ transferredSilences exportedAt db.toConfigDatabase,
          silenceKey first.data.silence = silenceKey second.data.silence →
            first.data.expiresAt = second.data.expiresAt := by
  have imports {row : ConfigRow StoredSilence}
      (member : row ∈ transferredSilences exportedAt db.toConfigDatabase) :=
    @importSilence_unchanged_iff env exportedAt importedAt db reads row member
  constructor
  · intro unchanged
    have stillActive : ∀ row ∈ transferredSilences exportedAt db.toConfigDatabase,
        isTransferred importedAt row.data = true := by
      intro row member
      rcases (imports member).1 (unchanged row member) with ⟨last, lastMember, _, sameExpiry⟩
      exact isTransferred_of_sameExpiry (mem_transferredSilences.1 member).2
        (mem_transferredSilences.1 lastMember).2 sameExpiry.symm
    refine ⟨stillActive, ?_⟩
    intro first firstMember second secondMember sameKey
    rcases (imports firstMember).1 (unchanged first firstMember) with
      ⟨last, _, firstLast, firstExpiry⟩
    rcases (imports secondMember).1 (unchanged second secondMember) with
      ⟨other, _, secondLast, secondExpiry⟩
    rw [sameKey, secondLast, Option.some.injEq] at firstLast
    rw [firstExpiry, secondExpiry, firstLast]
  · rintro ⟨stillActive, oneExpiry⟩ row member
    rw [imports member]
    have found : row ∈ (transferredSilences importedAt db.toConfigDatabase).filter fun other =>
        silenceKey other.data.silence = silenceKey row.data.silence := by
      rw [List.mem_filter, mem_transferredSilences]
      exact ⟨⟨(mem_transferredSilences.1 member).1, stillActive row member⟩, decide_eq_true rfl⟩
    have nonempty := List.ne_nil_of_mem found
    have last := List.getLast?_eq_some_getLast nonempty
    have lastFound := List.mem_filter.1 (List.getLast_mem nonempty)
    rcases mem_transferredSilences.1 lastFound.1 with ⟨lastStored, lastActive⟩
    refine ⟨_, lastFound.1, last, ?_⟩
    exact oneExpiry row member _
      (mem_transferredSilences.2 ⟨lastStored, isTransferred_earlier ordered lastActive⟩)
      (of_decide_eq_true lastFound.2).symm

theorem mem_sortedByName {row : ConfigRow Data} : row ∈ sortedByName env nameOf rows ↔ row ∈ rows :=
  List.mem_insertionSort _

theorem unchanged_iff_transferable (reads : ReadsExpiries env db.toConfigDatabase)
    (ordered : exportedAt ≤ importedAt) :
    importConfig env importedAt db.toConfigDatabase
          (exportConfig env exportedAt db.toConfigDatabase) =
        .ok (db.toConfigDatabase, allUnchanged (exportConfig env exportedAt db.toConfigDatabase)) ↔
      Transferable exportedAt importedAt db.toConfigDatabase := by
  rw [importConfig_unchanged_iff _ _ rfl db.windowNames]
  have rules : (∀ entry ∈ (exportConfig env exportedAt db.toConfigDatabase).forwardRules,
      (importRule env db.forwardRules.rows db.forwardRules entry).2 = .unchanged) ↔
        ∀ row ∈ db.forwardRules.rows,
          strip row.data.name = row.data.name ∧ row.data.targetGateway = "" := by
    simp only [exportConfig, List.forall_mem_map, mem_sortedByName]
    apply forall₂_congr
    intro row member
    rcases db.ruleCreated row member with ⟨entry, created⟩
    exact importRule_unchanged_iff member created db.ruleNames
  have windows : (∀ entry ∈ (exportConfig env exportedAt db.toConfigDatabase).windows,
      (importWindow env db.windows.rows db.windows entry).2 = .unchanged) ↔
        ∀ row ∈ db.windows.rows, strip row.data.name = row.data.name := by
    simp only [exportConfig, List.forall_mem_map, mem_sortedByName]
    apply forall₂_congr
    intro row member
    rcases db.windowCreated row member with ⟨entry, created⟩
    exact importWindow_unchanged_iff member created db.windowNames
  have silences := silences_unchanged_iff db reads ordered
  rw [rules, windows]
  simp only [exportConfig, List.forall_mem_map]
  rw [silences]
  constructor
  · rintro ⟨ruleConditions, windowNames, stillActive, oneExpiry⟩
    exact
      { withoutGateway := fun row member => (ruleConditions row member).2
        ruleNames := fun row member => (ruleConditions row member).1
        windowNames, stillActive, oneExpiry }
  · intro transferable
    exact ⟨fun row member => ⟨transferable.ruleNames row member,
      transferable.withoutGateway row member⟩, transferable.windowNames,
      transferable.stillActive, transferable.oneExpiry⟩

/-! ## Importing into an empty database -/

theorem importRule_rebuilds {data : ForwardRuleData}
    (created : forwardRuleCreateRequest env.schemas entry = some data)
    (found : strip data.name = data.name) (withoutGateway : data.targetGateway = "")
    (table : Table (@ConfigRow.id ForwardRuleData)) :
    (importRule env [] table (exportedRule data)).1 = addRow table data := by
  have request := ruleRequest_exported created
  rw [← withoutGateway] at request
  have named : ¬ strip ((exportedRule data).name.getD "") = "" := by
    change ¬ strip data.name = ""
    rw [found]
    exact ruleName_ne_empty created
  simp only [importRule, if_neg named, request, List.filter_nil]

theorem importWindow_rebuilds {entry : WindowEntry} {data : WindowData}
    (created : windowCreateRequest env.schemas entry = some data)
    (found : strip data.name = data.name) (table : Table (@ConfigRow.id WindowData)) :
    (importWindow env [] table (exportedWindow data)).1 = addRow table data := by
  rcases windowRequest_exported created with ⟨days, parsed, request⟩
  have named : ¬ strip ((exportedWindow data).name.getD "") = "" := by
    change ¬ strip data.name = ""
    rw [found]
    exact windowName_ne_empty created
  have stored : parsedDays ((exportedWindow data).daysOfWeek.getD "") = some days := parsed
  simp only [importWindow, if_neg named, stored, request, List.filter_nil, List.getLast?_nil]

theorem importSilence_rebuilds {entry : SilenceEntry} {data : StoredSilence}
    (active : isTransferred now data = true)
    (created : silenceCreateRequest env.schemas entry = some data.silence)
    (read : readExpiry env (exportedSilence data).expiresAt.join = some data.expiresAt)
    (table : Table (@ConfigRow.id StoredSilence)) :
    (importSilence env [] table (exportedSilence data)).1 = addRow table data := by
  rw [importSilence_exported (createdBy_of_isTransferred active) created read]
  simp only [isTransferred, Bool.and_eq_true, Option.isNone_iff_eq_none] at active
  rw [List.filter_nil, List.getLast?_nil, Option.elim_none, ← active.1.1]

theorem datas_importAll {Entry : Type} {encode : ConfigRow Data → Entry}
    {step : Table (@ConfigRow.id Data) → Entry → Table (@ConfigRow.id Data) × Outcome EntryProblem}
    (rebuilds : ∀ row ∈ rows, ∀ table, (step table (encode row)).1 = addRow table row.data) :
    (importAll step .empty {} (rows.map encode)).1.rows.map ConfigRow.data =
      rows.map ConfigRow.data := by
  have adds : (importAll step .empty {} (rows.map encode)).1 =
      rows.foldl (fun table row => addRow table row.data) .empty :=
    importAll_of_adds rebuilds {}
  have datas := rows_foldl_addRow (rows.map ConfigRow.data) .empty
  rw [List.foldl_map] at datas
  rw [adds, datas]
  rfl

theorem map_of_datas {Value : Type} {others : List (ConfigRow Data)}
    (same : rows.map ConfigRow.data = others.map ConfigRow.data) (valueOf : Data → Value) :
    (rows.map fun row => valueOf row.data) = others.map fun row => valueOf row.data := by
  have mapped := congrArg (List.map valueOf) same
  rw [List.map_map, List.map_map] at mapped
  exact mapped

theorem sortedByName_again {old : List (ConfigRow Data)}
    (same : rows.map ConfigRow.data = (sortedByName env nameOf old).map ConfigRow.data) :
    sortedByName env nameOf rows = rows := by
  let Before (first second : Data) : Prop := env.sortsBefore (nameOf first) (nameOf second)
  have total : Std.Total fun first second : ConfigRow Data => Before first.data second.data :=
    ⟨fun first second => by
      simpa [Before] using env.sortsBefore_total (nameOf first.data) (nameOf second.data)⟩
  have transitive : IsTrans (ConfigRow Data) fun first second => Before first.data second.data :=
    ⟨fun _ _ _ => env.sortsBefore_trans _ _ _⟩
  have sorted : (sortedByName env nameOf old).Pairwise fun first second =>
      Before first.data second.data :=
    List.pairwise_insertionSort _ old
  have again : (rows.map ConfigRow.data).Pairwise Before := by
    rw [same, List.pairwise_map]
    exact sorted
  rw [List.pairwise_map] at again
  exact again.insertionSort_eq

theorem names_sortedByName (distinct : (rows.map fun row => nameOf row.data).Nodup) :
    ((sortedByName env nameOf rows).map fun row => nameOf row.data).Nodup :=
  ((List.perm_insertionSort _ rows).map _).nodup_iff.2 distinct

theorem rebuilt_of_transferable (reads : ReadsExpiries env db.toConfigDatabase)
    (transferable : Transferable exportedAt importedAt db.toConfigDatabase) :
    ∃ imported report,
      importConfig env importedAt emptyDatabase
            (exportConfig env exportedAt db.toConfigDatabase) = .ok (imported, report) ∧
        exportConfig env importedAt imported = exportConfig env exportedAt db.toConfigDatabase := by
  let bundle := exportConfig env exportedAt db.toConfigDatabase
  let rules := importAll (importRule env []) .empty {} bundle.forwardRules
  let windows := importAll (importWindow env []) .empty {} bundle.windows
  let silences := importAll (importSilence env []) .empty {} bundle.silences
  have ruleDatas : rules.1.rows.map ConfigRow.data =
      (sortedByName env ForwardRuleData.name db.forwardRules.rows).map ConfigRow.data := by
    apply datas_importAll
    intro row member
    rw [mem_sortedByName] at member
    rcases db.ruleCreated row member with ⟨entry, created⟩
    exact importRule_rebuilds created (transferable.ruleNames row member)
      (transferable.withoutGateway row member)
  have windowDatas : windows.1.rows.map ConfigRow.data =
      (sortedByName env WindowData.name db.windows.rows).map ConfigRow.data := by
    apply datas_importAll
    intro row member
    rw [mem_sortedByName] at member
    rcases db.windowCreated row member with ⟨entry, created⟩
    exact importWindow_rebuilds created (transferable.windowNames row member)
  have silenceDatas : silences.1.rows.map ConfigRow.data =
      (transferredSilences exportedAt db.toConfigDatabase).map ConfigRow.data := by
    apply datas_importAll
    intro row member
    rcases mem_transferredSilences.1 member with ⟨stored, active⟩
    rcases db.silenceCreated row stored (createdBy_of_isTransferred active) with ⟨entry, created⟩
    exact importSilence_rebuilds active created (readExpiry_exported reads stored)
  have distinct : (windows.1.rows.map fun row => row.data.name).Nodup := by
    rw [map_of_datas windowDatas WindowData.name]
    exact names_sortedByName db.windowNames
  have silencesActive : ∀ row ∈ silences.1.rows, isTransferred importedAt row.data = true := by
    intro row member
    have data : row.data ∈ silences.1.rows.map ConfigRow.data := List.mem_map_of_mem member
    rw [silenceDatas] at data
    rcases List.mem_map.1 data with ⟨old, oldMember, sameData⟩
    rw [← sameData]
    exact transferable.stillActive old oldMember
  refine ⟨⟨rules.1, silences.1, windows.1⟩, ⟨rules.2, silences.2, windows.2⟩, ?_, ?_⟩
  · have version : ¬ bundle.version ≠ 1 := fun different => different rfl
    exact (if_neg version).trans (if_pos distinct)
  · have ruleEntries : (sortedByName env ForwardRuleData.name rules.1.rows).map
        (fun row => exportedRule row.data) = bundle.forwardRules := by
      rw [sortedByName_again ruleDatas]
      exact map_of_datas ruleDatas exportedRule
    have windowEntries : (sortedByName env WindowData.name windows.1.rows).map
        (fun row => exportedWindow row.data) = bundle.windows := by
      rw [sortedByName_again windowDatas]
      exact map_of_datas windowDatas exportedWindow
    have silenceEntries : (silences.1.rows.filter fun row => isTransferred importedAt row.data).map
        (fun row => exportedSilence row.data) = bundle.silences := by
      rw [List.filter_eq_self.2 silencesActive]
      exact map_of_datas silenceDatas exportedSilence
    calc
      exportConfig env importedAt ⟨rules.1, silences.1, windows.1⟩ =
          ⟨1, bundle.forwardRules, bundle.silences, bundle.windows⟩ := by
        rw [← ruleEntries, ← silenceEntries, ← windowEntries]
        rfl
      _ = bundle := rfl

/-- A database comes back from its bundle just when it is transferable. -/
theorem roundTrips_iff (db : ApiDatabase env) (reads : ReadsExpiries env db.toConfigDatabase)
    (ordered : exportedAt ≤ importedAt) :
    RoundTrips env exportedAt importedAt db.toConfigDatabase ↔
      Transferable exportedAt importedAt db.toConfigDatabase := by
  constructor
  · intro roundTrips
    exact (unchanged_iff_transferable db reads ordered).1 roundTrips.unchanged
  · intro transferable
    exact
      { unchanged := (unchanged_iff_transferable db reads ordered).2 transferable
        rebuilt := rebuilt_of_transferable db reads transferable }

/-! ## One configuration, with and without a gateway -/

variable (gateway : String)

private theorem sampleOrder_total (first second : String) :
    (decide (first ≤ second) || decide (second ≤ first)) = true := by
  simpa using le_total first second

private theorem sampleOrder_trans (first second third : String) :
    decide (first ≤ second) = true → decide (second ≤ third) = true →
      decide (first ≤ third) = true := by
  simpa using fun before next => le_trans before next

private theorem sampleStrips (character : Char) (strips : isPythonSpace character = true) :
    isPythonSpace character = true :=
  strips

private def sampleEnvironment : TransferEnvironment where
  python := .ascii
    ⟨[("2024-02-29T12:34:56.789000+00:00", ⟨1709210096789000, some 0⟩)], [], [], []⟩
  schemas := ⟨isPythonSpace, sampleStrips, fun zone => zone = "Asia/Shanghai"⟩
  sortsBefore first second := first ≤ second
  sortsBefore_total := sampleOrder_total
  sortsBefore_trans := sampleOrder_trans

private def sampleCriteria : MatchFields String :=
  ⟨"grafana", "", "", "", "", "", ""⟩

private def sampleRule (gateway : String) : ForwardRuleData where
  name := "investigate"
  enabled := true
  priority := 10
  criteria := sampleCriteria
  matchDuplicate := .new
  targetType := .deepAnalysis
  targetUrl := ""
  targetName := ""
  targetGateway := gateway
  stopOnMatch := false

private def sampleSilence : SilenceData :=
  ⟨sampleCriteria, "disk swap", "ops"⟩

private def sampleWindow : WindowData where
  silence := sampleSilence
  name := "weekend"
  enabled := true
  daysOfWeek := "6,7"
  startMinute := 120
  durationMinutes := 240
  timezone := "Asia/Shanghai"

private def sampleTables (gateway : String) : ConfigDatabase where
  forwardRules := addRow .empty (sampleRule gateway)
  silences := addRow .empty ⟨sampleSilence, some 1709210096789000, none⟩
  windows := addRow .empty sampleWindow

private theorem sampleRule_created (gateway : String) (given : gateway ∈ ["", "us"]) :
    ∀ row ∈ (sampleTables gateway).forwardRules.rows,
      ∃ entry, forwardRuleCreateRequest sampleEnvironment.schemas entry = some row.data := by
  intro row member
  obtain rfl : row = ⟨1, sampleRule gateway⟩ := List.mem_singleton.1 member
  refine ⟨{ exportedRule (sampleRule gateway) with targetGateway := some gateway }, ?_⟩
  rcases List.mem_cons.1 given with rfl | us
  · decide
  · obtain rfl := List.mem_singleton.1 us
    decide

private theorem sampleSilence_created (gateway : String) :
    ∀ row ∈ (sampleTables gateway).silences.rows,
      row.data.silence.createdBy ≠ "maintenance-window" →
        ∃ entry, silenceCreateRequest sampleEnvironment.schemas entry =
          some row.data.silence := by
  intro row member _
  obtain rfl : row = ⟨1, ⟨sampleSilence, some 1709210096789000, none⟩⟩ :=
    List.mem_singleton.1 member
  exact ⟨SilenceData.toEntry sampleSilence, by decide⟩

private theorem sampleWindow_created (gateway : String) :
    ∀ row ∈ (sampleTables gateway).windows.rows,
      ∃ entry, windowCreateRequest sampleEnvironment.schemas entry = some row.data := by
  intro row member
  obtain rfl : row = ⟨1, sampleWindow⟩ := List.mem_singleton.1 member
  exact ⟨BundleWindow.request (exportedWindow sampleWindow) [7, 6], by decide⟩

private theorem sampleRule_names :
    ((sampleTables gateway).forwardRules.rows.map fun row => row.data.name).Nodup :=
  List.nodup_singleton _

private theorem sampleWindow_names :
    ((sampleTables gateway).windows.rows.map fun row => row.data.name).Nodup :=
  List.nodup_singleton _

private def sampleDatabase (gateway : String) (given : gateway ∈ ["", "us"]) :
    ApiDatabase sampleEnvironment where
  toConfigDatabase := sampleTables gateway
  ruleCreated := sampleRule_created gateway given
  silenceCreated := sampleSilence_created gateway
  windowCreated := sampleWindow_created gateway
  ruleNames := sampleRule_names gateway
  windowNames := sampleWindow_names gateway

private theorem sample_readsExpiries : ReadsExpiries sampleEnvironment (sampleTables gateway) := by
  intro row member instant expiry
  obtain rfl : row = ⟨1, ⟨sampleSilence, some 1709210096789000, none⟩⟩ :=
    List.mem_singleton.1 member
  obtain rfl : 1709210096789000 = instant := Option.some.inj expiry
  decide

theorem roundTrips_iff_sample :
    RoundTrips sampleEnvironment 0 60000000 (sampleTables "") := by
  have ordered : (0 : DateTime) ≤ 60000000 := by decide
  refine (roundTrips_iff (sampleDatabase "" (by decide)) (sample_readsExpiries "") ordered).2 ?_
  exact
    { withoutGateway := by decide
      ruleNames := by decide
      windowNames := by decide
      stillActive := by decide
      oneExpiry := by decide }

/-- A rule for a named gateway comes back for the default one. -/
theorem gateway_is_reset :
    ¬ ∀ (env : TransferEnvironment) (db : ApiDatabase env),
      ReadsExpiries env db.toConfigDatabase →
        ∀ now, RoundTrips env now now db.toConfigDatabase := by
  intro comesBack
  have roundTrips := comesBack _ (sampleDatabase "us" (by decide)) (sample_readsExpiries "us") 0
  have transferable := (unchanged_iff_transferable (sampleDatabase "us" (by decide))
    (sample_readsExpiries "us") (le_refl 0)).1 roundTrips.unchanged
  have reset : ("us" : String) = "" :=
    transferable.withoutGateway ⟨1, sampleRule "us"⟩ (List.mem_singleton.2 rfl)
  exact absurd reset (by decide)

end ConfigTransfer

end WebhookWise
