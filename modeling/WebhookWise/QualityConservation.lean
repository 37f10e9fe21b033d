import WebhookWise.AlertQuality

/-!
# What the quality overview conserves

What an accumulator holds in the end is what the rows under its key leave in it.  The counts of the
events and of the unattended incidents are written over each other when two groups have one key; the
recoveries are counted one by one.
-/

namespace WebhookWise

namespace QualityConservation

open AlertQuality

/-! ## Dicts that are filled row by row -/

section Filling

variable {Row Value : Type}

theorem get?_filled (keyOf : Row → String) (change : Option Value → Row → Value)
    (rows : List Row) (entries : PyDict Value) (asked : String) :
    (filled keyOf change rows entries).get? asked =
      (rows.filter fun row => keyOf row = asked).foldl
        (fun current row => some (change current row)) (entries.get? asked) := by
  induction rows generalizing entries with
  | nil => rfl
  | cons row rows ih =>
      rw [filled, List.foldl_cons, ← filled, ih, PyDict.get?_set]
      by_cases here : keyOf row = asked
      · simp [here]
      · simp [here, Ne.symm here]

theorem foldl_some_eq_none {change : Option Value → Row → Value} {rows : List Row}
    {start : Option Value}
    (nothing : rows.foldl (fun current row => some (change current row)) start = none) :
    rows = [] ∧ start = none := by
  cases rows using List.reverseRecOn with
  | nil => exact ⟨rfl, nothing⟩
  | append_singleton rows last =>
      rw [List.foldl_append] at nothing
      cases nothing

theorem distinct_filled (keyOf : Row → String) (change : Option Value → Row → Value)
    (rows : List Row) {entries : PyDict Value} (distinct : entries.Distinct) :
    (filled keyOf change rows entries).Distinct := by
  induction rows generalizing entries with
  | nil => exact distinct
  | cons row rows ih => exact ih (distinct.set _ _)

theorem get?_eq_some_iff {entries : PyDict Value} (distinct : entries.Distinct) {key : String}
    {value : Value} : entries.get? key = some value ↔ (key, value) ∈ entries := by
  unfold PyDict.get?
  rw [Option.map_eq_some_iff]
  constructor
  · rintro ⟨entry, found, rfl⟩
    have same : entry.1 = key := by simpa using List.find?_some found
    exact same ▸ List.mem_of_find?_eq_some found
  · intro member
    cases found : entries.find? fun entry => entry.1 = key with
    | none =>
        have missed := List.find?_eq_none.1 found (key, value) member
        simp at missed
    | some entry =>
        have same : entry.1 = key := by simpa using List.find?_some found
        have equal :=
          List.inj_on_of_nodup_map distinct (List.mem_of_find?_eq_some found) member same
        exact ⟨entry, rfl, by rw [equal]⟩

end Filling

section Adjusting

variable {Row : Type} (keyOf : Row → String)
  (change : SourceAccumulator → Row → SourceAccumulator)

theorem get?_adjusted (rows : List Row) (accumulators : Accumulators) (asked : String) :
    (adjusted keyOf change rows accumulators).get? asked =
      (accumulators.get? asked).map fun accumulator =>
        (rows.filter fun row => keyOf row = asked).foldl change accumulator := by
  induction rows generalizing accumulators with
  | nil => simp [adjusted]
  | cons row rows ih =>
      rw [adjusted, List.foldl_cons, ← adjusted, ih]
      by_cases here : keyOf row = asked
      · cases found : accumulators.get? asked with
        | none => simp [here, found]
        | some accumulator => simp [here, found, PyDict.get?_set]
      · cases found : accumulators.get? (keyOf row) with
        | none => simp [here]
        | some accumulator => simp [here, Ne.symm here, PyDict.get?_set]

theorem distinct_adjusted (rows : List Row) {accumulators : Accumulators}
    (distinct : accumulators.Distinct) : (adjusted keyOf change rows accumulators).Distinct := by
  induction rows generalizing accumulators with
  | nil => exact distinct
  | cons row rows ih =>
      apply ih
      dsimp only
      cases accumulators.get? (keyOf row) with
      | none => exact distinct
      | some accumulator => exact distinct.set _ _

end Adjusting

/-! ## What an accumulator holds -/

variable {accumulator : SourceAccumulator} {source : SourcePayload}
  {events done : List QualityEvent}
variable {event : QualityEvent} {row : SourceEventStats}

section Accounts

variable (env : QualityEnv) (query : QualityQuery) (tables : QualityTables)

def recoveriesOf (key : String) : List QualityEvent :=
  (recoveryEvents env query tables).filter fun event => eventKey env event = key

def isUnmatched (event : QualityEvent) : Bool :=
  recoveryClass env query tables event = .unmatched

def lastTotal (key : String) : Nat :=
  GroupedRows.lastAmount (statsRowKey env) SourceEventStats.total (totalsRows env query tables) key

/-- What the connections and the statistics leave in an accumulator. -/
structure Counted (asked : String) (count : Nat) (accumulator : SourceAccumulator) : Prop where
  key : accumulator.key = asked
  counted : accumulator.eventCount = count
  recoveries : accumulator.recoveryCount = 0
  matched : accumulator.matchedRecoveryCount = 0
  standalone : accumulator.standaloneRecoveryCount = 0
  samples : accumulator.unmatchedSamples = []
  unattended : accumulator.unattendedIncidents = 0

/-- What the scan of some events of the key leaves in it. -/
structure Scanned (asked : String) (events : List QualityEvent) (accumulator : SourceAccumulator) :
    Prop where
  key : accumulator.key = asked
  counted : accumulator.eventCount = lastTotal env query tables asked
  recoveries : accumulator.recoveryCount = (events.filter (isRecovery env)).length
  matched : accumulator.matchedRecoveryCount = 0
  standalone : accumulator.standaloneRecoveryCount = 0
  samples : accumulator.unmatchedSamples =
    ((events.filter (isRecovery env)).map QualityEvent.id).take maxIssueSamples
  unattended : accumulator.unattendedIncidents = 0

variable {env query tables} {key : String}

theorem exists_of_connectionAccumulators
    (found : (connectionAccumulators env tables).get? key = some accumulator) :
    ∃ connection, connectionKey env connection = key ∧
      accumulator = connectionAccumulator env connection := by
  rw [connectionAccumulators, get?_filled] at found
  cases under : (listedConnections env tables).filter fun connection =>
      connectionKey env connection = key using List.reverseRecOn with
  | nil =>
      rw [under] at found
      cases found
  | append_singleton earlier last =>
      rw [under, List.foldl_append] at found
      have member : last ∈ (listedConnections env tables).filter fun connection =>
          connectionKey env connection = key := by simp [under]
      exact ⟨last, by simpa using (List.mem_filter.1 member).2, (Option.some.inj found).symm⟩

theorem counted_foldl {rows : List SourceEventStats}
    (keyed : ∀ row ∈ rows, statsRowKey env row = key)
    (found : rows.foldl (fun current row => some (withTotals env current row))
      ((connectionAccumulators env tables).get? key) = some accumulator) :
    Counted key ((rows.getLast?.map SourceEventStats.total).getD 0) accumulator := by
  induction rows using List.reverseRecOn generalizing accumulator with
  | nil =>
      obtain ⟨connection, ofKey, rfl⟩ := exists_of_connectionAccumulators found
      exact ⟨ofKey, rfl, rfl, rfl, rfl, rfl, rfl⟩
  | append_singleton rows last ih =>
      rw [List.foldl_append, List.foldl_cons, List.foldl_nil] at found
      obtain rfl := Option.some.inj found
      rw [List.getLast?_concat]
      have ofKey := keyed last (by simp)
      cases earlier : rows.foldl (fun current row => some (withTotals env current row))
          ((connectionAccumulators env tables).get? key) with
      | none => exact ⟨ofKey, rfl, rfl, rfl, rfl, rfl, rfl⟩
      | some before =>
          have counted := ih (fun row member => keyed row (List.mem_append_left _ member)) earlier
          exact { counted with counted := rfl }

theorem counted_of_get?
    (found : (countedAccumulators env query tables).get? key = some accumulator) :
    Counted key (lastTotal env query tables key) accumulator := by
  rw [countedAccumulators, get?_filled] at found
  exact counted_foldl (fun row member => by simpa using (List.mem_filter.1 member).2) found

theorem lastTotal_of_get?_none (absent : (countedAccumulators env query tables).get? key = none) :
    lastTotal env query tables key = 0 := by
  rw [countedAccumulators, get?_filled] at absent
  rw [lastTotal, GroupedRows.lastAmount, (foldl_some_eq_none absent).1]
  rfl

/-! ### The scan -/

theorem recordSample_take {ids : List Nat} {id : Nat} (fresh : id ∉ ids) :
    recordSample (ids.take maxIssueSamples) id = (ids ++ [id]).take maxIssueSamples := by
  have notTaken : id ∉ ids.take maxIssueSamples := fun member => fresh (List.mem_of_mem_take member)
  unfold recordSample
  by_cases room : ids.length < maxIssueSamples
  · rw [if_pos ⟨by simpa using room, notTaken⟩, List.take_of_length_le room.le,
      List.take_of_length_le (by simpa using Nat.succ_le_of_lt room)]
  · rw [if_neg (by simp [room]), List.take_append_of_le_length (Nat.le_of_not_lt room)]

theorem scanned_withEvent {current : Option SourceAccumulator}
    (fresh : event.id ∉ (events.filter (isRecovery env)).map QualityEvent.id)
    (before : Scanned env query tables key events
      (current.getD (freshAccumulator env (eventKey env event) event.source))) :
    Scanned env query tables key (events ++ [event]) (withEvent env current event) := by
  unfold withEvent
  generalize current.getD (freshAccumulator env (eventKey env event) event.source) =
    accumulator at before ⊢
  cases recovers : isRecovery env event with
  | true =>
      refine ⟨before.key, before.counted, ?_, before.matched, before.standalone, ?_,
        before.unattended⟩
      · simp [recovers, before.recoveries]
      · simp only [if_true, before.samples, List.filter_append, List.filter_cons, recovers,
          List.filter_nil, List.map_append, List.map_cons, List.map_nil]
        exact recordSample_take fresh
  | false =>
      refine ⟨before.key, before.counted, ?_, before.matched, before.standalone, ?_,
        before.unattended⟩
      · simp [recovers, before.recoveries]
      · simp [recovers, before.samples]

theorem scanned_foldl (keyed : ∀ event ∈ events, eventKey env event = key)
    (distinct : (events.map QualityEvent.id).Nodup)
    (found : events.foldl (fun current event => some (withEvent env current event))
      ((countedAccumulators env query tables).get? key) = some accumulator) :
    Scanned env query tables key events accumulator := by
  induction events using List.reverseRecOn generalizing accumulator with
  | nil =>
      have counted := counted_of_get? found
      exact ⟨counted.key, counted.counted, counted.recoveries, counted.matched,
        counted.standalone, counted.samples, counted.unattended⟩
  | append_singleton events last ih =>
      rw [List.foldl_append, List.foldl_cons, List.foldl_nil] at found
      obtain rfl := Option.some.inj found
      rw [List.map_append, List.nodup_append] at distinct
      obtain ⟨distinctBefore, -, apart⟩ := distinct
      refine scanned_withEvent ?_ ?_
      · intro member
        obtain ⟨event, inside, same⟩ := List.mem_map.1 member
        exact apart _ (List.mem_map_of_mem (List.mem_filter.1 inside).1) last.id (by simp) same
      · cases earlier : events.foldl (fun current event => some (withEvent env current event))
            ((countedAccumulators env query tables).get? key) with
        | none =>
            obtain ⟨rfl, absent⟩ := foldl_some_eq_none earlier
            exact ⟨keyed last (by simp), (lastTotal_of_get?_none absent).symm, rfl, rfl, rfl, rfl,
              rfl⟩
        | some accumulator =>
            exact ih (fun event member => keyed event (List.mem_append_left _ member))
              distinctBefore earlier

theorem nodup_scannedEvents (env : QualityEnv) (query : QualityQuery) (tables : QualityTables) :
    ((scannedEvents env query tables).map QualityEvent.id).Nodup := by
  unfold scannedEvents
  refine (List.Sublist.map _ (List.filter_sublist.trans (List.take_sublist _ _))).nodup ?_
  refine ((List.perm_insertionSort _ _).map _).nodup_iff.2 ?_
  exact (List.filter_sublist.map _).nodup tables.distinctIds

theorem scanned_of_get?
    (found : (scannedAccumulators env query tables).get? key = some accumulator) :
    Scanned env query tables key
      ((scannedEvents env query tables).filter fun event => eventKey env event = key)
      accumulator := by
  rw [scannedAccumulators, get?_filled] at found
  exact scanned_foldl (fun event member => by simpa using (List.mem_filter.1 member).2)
    ((List.filter_sublist.map _).nodup (nodup_scannedEvents env query tables)) found

/-! ### The classes of the recoveries -/

theorem filter_isRecovery_scannedEvents (key : String) :
    ((scannedEvents env query tables).filter fun event => eventKey env event = key).filter
      (isRecovery env) = recoveriesOf env query tables key := by
  rw [recoveriesOf, recoveryEvents, List.filter_comm]

theorem nodup_recoveriesOf (key : String) :
    ((recoveriesOf env query tables key).map QualityEvent.id).Nodup :=
  ((List.filter_sublist.trans List.filter_sublist).map _).nodup
    (nodup_scannedEvents env query tables)

variable (env query tables) in
/-- No recovery under the id of the event has been sorted out. -/
def isKept (done : List QualityEvent) (event : QualityEvent) : Bool :=
  done.all fun other => other.id ≠ event.id || isUnmatched env query tables other

variable (env query tables) in
def countOf (sort : RecoveryClass) (events : List QualityEvent) : Nat :=
  events.countP fun event => recoveryClass env query tables event = sort

variable (env query tables) in
/-- What the classes of some recoveries leave in the accumulator of a key. -/
structure Classified (asked : String) (done : List QualityEvent)
    (accumulator : SourceAccumulator) : Prop where
  key : accumulator.key = asked
  counted : accumulator.eventCount = lastTotal env query tables asked
  recoveries : accumulator.recoveryCount = (recoveriesOf env query tables asked).length
  matched : accumulator.matchedRecoveryCount = countOf env query tables .matched done
  standalone : accumulator.standaloneRecoveryCount = countOf env query tables .standalone done
  samples : accumulator.unmatchedSamples =
    (((recoveriesOf env query tables asked).take maxIssueSamples).filter
      (isKept env query tables done)).map QualityEvent.id
  unattended : accumulator.unattendedIncidents = 0

theorem erase_samples (distinct : (events.map QualityEvent.id).Nodup)
    (sorted : isUnmatched env query tables event = false) :
    ((events.filter (isKept env query tables done)).map QualityEvent.id).erase event.id =
      (events.filter (isKept env query tables (done ++ [event]))).map QualityEvent.id := by
  rw [((List.filter_sublist.map _).nodup distinct).erase_eq_filter, List.filter_map,
    List.filter_filter]
  congr 1
  apply List.filter_congr
  intro other _
  by_cases same : event.id = other.id
  · simp [isKept, sorted, same]
  · simp [isKept, sorted, same, Ne.symm same]

theorem isKept_of_isUnmatched (unmatched : isUnmatched env query tables event = true) :
    isKept env query tables (done ++ [event]) = isKept env query tables done := by
  funext other
  simp [isKept, unmatched]

theorem classified_withClass (before : Classified env query tables key done accumulator)
    (event : QualityEvent) :
    Classified env query tables key (done ++ [event])
      (withClass env query tables accumulator event) := by
  have distinct : (((recoveriesOf env query tables key).take maxIssueSamples).map
      QualityEvent.id).Nodup :=
    ((List.take_sublist _ _).map _).nodup (nodup_recoveriesOf key)
  unfold withClass
  cases sort : recoveryClass env query tables event with
  | matched | standalone =>
      refine ⟨before.key, before.counted, before.recoveries, ?_, ?_, ?_, before.unattended⟩
      · simp [countOf, sort, before.matched]
      · simp [countOf, sort, before.standalone]
      · rw [← erase_samples distinct (by simp [isUnmatched, sort]), ← before.samples]
  | unmatched =>
      refine ⟨before.key, before.counted, before.recoveries, ?_, ?_, ?_, before.unattended⟩
      · simp [countOf, sort, before.matched]
      · simp [countOf, sort, before.standalone]
      · rw [isKept_of_isUnmatched (by simp [isUnmatched, sort]), ← before.samples]

theorem classified_foldl (done : List QualityEvent)
    (before : Classified env query tables key [] accumulator) :
    Classified env query tables key done
      (done.foldl (withClass env query tables) accumulator) := by
  induction done using List.reverseRecOn with
  | nil => exact before
  | append_singleton done last ih =>
      rw [List.foldl_append, List.foldl_cons, List.foldl_nil]
      exact classified_withClass ih last

theorem classified_of_get?
    (found : (classifiedAccumulators env query tables).get? key = some accumulator) :
    Classified env query tables key (recoveriesOf env query tables key) accumulator := by
  rw [classifiedAccumulators, get?_adjusted, Option.map_eq_some_iff] at found
  obtain ⟨before, stored, rfl⟩ := found
  have scanned := scanned_of_get? stored
  refine classified_foldl _ ⟨scanned.key, scanned.counted, ?_, scanned.matched, scanned.standalone,
    ?_, scanned.unattended⟩
  · rw [scanned.recoveries, filter_isRecovery_scannedEvents]
  · rw [scanned.samples, filter_isRecovery_scannedEvents, ← List.map_take]
    have keepsAll : isKept env query tables [] = fun _ => true := rfl
    rw [keepsAll, List.filter_true]

theorem isUnmatched_of_isKept (member : event ∈ recoveriesOf env query tables key) :
    isKept env query tables (recoveriesOf env query tables key) event =
      isUnmatched env query tables event := by
  rw [Bool.eq_iff_iff, isKept, List.all_eq_true]
  constructor
  · intro kept
    simpa using kept event member
  · intro unmatched other inside
    by_cases same : other.id = event.id
    · rw [List.inj_on_of_nodup_map (nodup_recoveriesOf key) inside member same]
      simp [unmatched]
    · simp [same]

/-! ### The end -/

variable (env query tables) in
def lastUnattended (key : String) : Nat :=
  GroupedRows.lastAmount (unattendedRowKey env) Prod.snd (unattendedRows env query tables) key

variable (env query tables) in
/-- What an accumulator holds in the end. -/
structure Final (asked : String) (accumulator : SourceAccumulator) : Prop where
  key : accumulator.key = asked
  counted : accumulator.eventCount = lastTotal env query tables asked
  recoveries : accumulator.recoveryCount = (recoveriesOf env query tables asked).length
  matched : accumulator.matchedRecoveryCount =
    countOf env query tables .matched (recoveriesOf env query tables asked)
  standalone : accumulator.standaloneRecoveryCount =
    countOf env query tables .standalone (recoveriesOf env query tables asked)
  samples : accumulator.unmatchedSamples =
    (((recoveriesOf env query tables asked).take maxIssueSamples).filter
      (isUnmatched env query tables)).map QualityEvent.id
  unattended : accumulator.unattendedIncidents = lastUnattended env query tables asked

theorem foldl_withUnattended (accumulator : SourceAccumulator) (entries : List (String × Nat)) :
    entries.foldl withUnattended accumulator =
      { accumulator with
        unattendedIncidents :=
          (entries.getLast?.map Prod.snd).getD accumulator.unattendedIncidents } := by
  induction entries using List.reverseRecOn with
  | nil => rfl
  | append_singleton entries last ih =>
      rw [List.foldl_append, ih, List.getLast?_concat]
      rfl

theorem get?_unattendedBySource (key : String) :
    ((unattendedBySource env query tables).get? key).getD 0 =
      lastUnattended env query tables key := by
  rw [unattendedBySource, get?_filled, lastUnattended, GroupedRows.lastAmount]
  generalize (unattendedRows env query tables).filter
    (fun row => unattendedRowKey env row = key) = rows
  cases rows using List.reverseRecOn with
  | nil => rfl
  | append_singleton rows last => rw [List.foldl_append, List.getLast?_concat]; rfl

theorem distinct_unattendedBySource : (unattendedBySource env query tables).Distinct :=
  distinct_filled _ _ _ List.nodup_nil

theorem getLast?_filter_of_distinct {entries : PyDict Nat} (distinct : entries.Distinct)
    (key : String) :
    (entries.filter fun entry => entry.1 = key).getLast?.map Prod.snd = entries.get? key := by
  induction entries with
  | nil => rfl
  | cons entry entries ih =>
      obtain ⟨fresh, rest⟩ := List.nodup_cons.1 distinct
      rw [List.filter_cons, PyDict.get?, List.find?_cons]
      by_cases here : entry.1 = key
      · have none : (entries.filter fun entry => entry.1 = key) = [] := by
          rw [List.filter_eq_nil_iff]
          intro other member same
          exact fresh (List.mem_map.2 ⟨other, member, (of_decide_eq_true same).trans here.symm⟩)
        simp [here, none]
      · rw [if_neg (by simpa using here), ih rest]
        simp [here, PyDict.get?]

theorem final_of_get? (found : (accumulators env query tables).get? key = some accumulator) :
    Final env query tables key accumulator := by
  rw [accumulators, get?_adjusted, Option.map_eq_some_iff] at found
  obtain ⟨before, stored, rfl⟩ := found
  have classified := classified_of_get? stored
  rw [foldl_withUnattended]
  refine ⟨classified.key, classified.counted, classified.recoveries, classified.matched,
    classified.standalone, ?_, ?_⟩
  · refine classified.samples.trans (congrArg _ (List.filter_congr fun event member => ?_))
    exact isUnmatched_of_isKept (List.mem_of_mem_take member)
  · rw [classified.unattended, getLast?_filter_of_distinct distinct_unattendedBySource,
      get?_unattendedBySource]

theorem distinct_accumulators : (accumulators env query tables).Distinct :=
  distinct_adjusted _ _ _ (distinct_adjusted _ _ _ (distinct_filled _ _ _
    (distinct_filled _ _ _ (distinct_filled _ _ _ List.nodup_nil))))

theorem exists_accumulator (member : row ∈ totalsRows env query tables) :
    ∃ accumulator,
      (accumulators env query tables).get? (statsRowKey env row) = some accumulator := by
  have scanned : ∃ accumulator,
      (scannedAccumulators env query tables).get? (statsRowKey env row) = some accumulator := by
    rw [← Option.ne_none_iff_exists']
    intro absent
    rw [scannedAccumulators, get?_filled] at absent
    have missing := (foldl_some_eq_none absent).2
    rw [countedAccumulators, get?_filled] at missing
    have noRow := (foldl_some_eq_none missing).1
    rw [List.filter_eq_nil_iff] at noRow
    exact noRow row member (by simp)
  obtain ⟨accumulator, found⟩ := scanned
  rw [accumulators, get?_adjusted, classifiedAccumulators, get?_adjusted, found]
  exact ⟨_, rfl⟩

/-! ## The list -/

theorem listedBefore_total (env : QualityEnv) :
    Std.Total (ListedBefore env) := by
  refine ⟨fun first second => ?_⟩
  unfold ListedBefore
  rcases le_total (env.lower first.displayName) (env.lower second.displayName) with name | name <;>
    cases first.qualityScore <;> cases second.qualityScore <;> simp [name] <;> omega

theorem listedBefore_trans (env : QualityEnv) : IsTrans SourcePayload (ListedBefore env) := by
  refine ⟨fun first second third before after => ?_⟩
  unfold ListedBefore at *
  have names := @le_trans _ _ (env.lower first.displayName) (env.lower second.displayName)
    (env.lower third.displayName)
  simp only [← Option.not_isSome, Bool.not_eq_true'] at before after ⊢
  grind

variable (env query tables) in
def sourceKeys : List String :=
  (accumulators env query tables).map Prod.fst

theorem exists_final {source : SourcePayload} (member : source ∈ sortedSources env query tables) :
    ∃ accumulator, source = sourcePayload env accumulator ∧
      Final env query tables source.sourceKey accumulator := by
  rw [sortedSources, List.mem_insertionSort] at member
  obtain ⟨⟨key, accumulator⟩, inside, rfl⟩ := List.mem_map.1 member
  have final := final_of_get? ((get?_eq_some_iff distinct_accumulators).2 inside)
  exact ⟨accumulator, rfl, final.key.symm ▸ final⟩

theorem perm_sourceKeys :
    ((sortedSources env query tables).map SourcePayload.sourceKey).Perm
      (sourceKeys env query tables) := by
  refine ((List.perm_insertionSort _ _).map _).trans (List.Perm.of_eq ?_)
  rw [sourceKeys, List.map_map]
  apply List.map_congr_left
  rintro ⟨key, accumulator⟩ inside
  exact (final_of_get? ((get?_eq_some_iff distinct_accumulators).2 inside)).key

theorem nodup_sourceKeys : (sourceKeys env query tables).Nodup :=
  distinct_accumulators

theorem eventCount_eq (member : source ∈ sortedSources env query tables) :
    source.eventCount = lastTotal env query tables source.sourceKey := by
  obtain ⟨accumulator, same, final⟩ := exists_final member
  conv_lhs => rw [same]
  exact final.counted

theorem unattended_eq (member : source ∈ sortedSources env query tables) :
    source.unattendedIncidents = lastUnattended env query tables source.sourceKey := by
  obtain ⟨accumulator, same, final⟩ := exists_final member
  conv_lhs => rw [same]
  exact final.unattended

variable (env query tables) in
theorem pairwise_sortedSources :
    (sortedSources env query tables).Pairwise fun first second =>
      first.eventCount = 0 → second.eventCount = 0 := by
  have total := listedBefore_total env
  have transitive := listedBefore_trans env
  have sorted : (sortedSources env query tables).Pairwise (ListedBefore env) :=
    List.pairwise_insertionSort _ _
  have scored : ∀ source ∈ sortedSources env query tables,
      source.qualityScore.isSome = false ↔ source.eventCount = 0 := by
    intro source member
    obtain ⟨accumulator, same, -⟩ := exists_final member
    rw [same]
    by_cases noEvents : accumulator.eventCount = 0 <;> simp [sourcePayload, noEvents]
  refine sorted.imp_of_mem fun {first second} firstMember secondMember before noEvents => ?_
  rw [← scored first firstMember] at noEvents
  rw [← scored second secondMember]
  rcases before with ⟨hasScore, -⟩ | ⟨same, -⟩
  · rw [noEvents] at hasScore
    cases hasScore
  · rw [← same, noEvents]

/-! ## Events -/

variable (env query tables) in
def nonSyntheticEvents : List QualityEvent :=
  (countedEvents env query tables).filter fun event =>
    !isSyntheticSource env (statsSource event.source)

theorem sum_totalsRows :
    ((totalsRows env query tables).map SourceEventStats.total).sum =
      (nonSyntheticEvents env query tables).length := by
  let count := GroupedRows.count (statsKey true) (countedEvents env query tables)
  let selects (group : String × Option Nat) := !isSyntheticSource env (statsSource group.1)
  let keys := GroupedRows.keys (statsKey true) (countedEvents env query tables)
  have rows : (totalsRows env query tables).map SourceEventStats.total =
      ((keys.insertionSort fun first second => count second ≤ count first).filter selects).map
        count := by
    rw [totalsRows, getSourceEventStats, List.filter_map, List.map_map]
    rfl
  have sorted : ((keys.insertionSort fun first second => count second ≤ count first).filter
      selects).Perm (keys.filter selects) := (List.perm_insertionSort _ _).filter _
  rw [rows, (sorted.map count).sum_eq, GroupedRows.sum_count_filter, nonSyntheticEvents,
    ← List.countP_eq_length_filter]
  rfl

theorem total_pos (member : row ∈ totalsRows env query tables) : 0 < row.total := by
  obtain ⟨group, inside, rfl⟩ := List.mem_map.1 (List.mem_filter.1 member).1
  exact GroupedRows.count_pos ((List.mem_insertionSort _).1 inside)

theorem mem_sourceKeys (member : row ∈ totalsRows env query tables) :
    statsRowKey env row ∈ sourceKeys env query tables := by
  obtain ⟨accumulator, found⟩ := exists_accumulator member
  exact List.mem_map.2 ⟨_, (get?_eq_some_iff distinct_accumulators).1 found, rfl⟩

theorem sum_eventCount :
    ((sortedSources env query tables).map SourcePayload.eventCount).sum =
      ((sourceKeys env query tables).map (lastTotal env query tables)).sum := by
  rw [← (perm_sourceKeys.map _).sum_eq, List.map_map]
  exact congrArg List.sum (List.map_congr_left fun source member => eventCount_eq member)

theorem sum_wholeAmount_sourceKeys :
    ((sourceKeys env query tables).map (GroupedRows.wholeAmount (statsRowKey env)
        SourceEventStats.total (totalsRows env query tables))).sum =
      (nonSyntheticEvents env query tables).length := by
  rw [GroupedRows.sum_wholeAmount _ _ nodup_sourceKeys fun row member => mem_sourceKeys member,
    sum_totalsRows]

variable (env query tables) in
theorem sum_eventCount_le :
    ((sortedSources env query tables).map SourcePayload.eventCount).sum ≤
      (nonSyntheticEvents env query tables).length := by
  rw [sum_eventCount, ← sum_wholeAmount_sourceKeys]
  exact GroupedRows.sum_lastAmount_le _

variable (env query tables) in
theorem sum_eventCount_iff :
    ((sortedSources env query tables).map SourcePayload.eventCount).sum =
        (nonSyntheticEvents env query tables).length ↔
      ((totalsRows env query tables).map (statsRowKey env)).Nodup := by
  have lost := GroupedRows.sum_lastAmount_iff (statsRowKey env) (totalsRows env query tables)
    (fun row member => total_pos member) (sourceKeys env query tables)
  rw [sum_eventCount, ← sum_wholeAmount_sourceKeys, List.nodup_iff_count_le_one]
  refine lost.trans ⟨fun once key => ?_, fun once key _ => once key⟩
  by_cases present : key ∈ (totalsRows env query tables).map (statsRowKey env)
  · obtain ⟨row, member, rfl⟩ := List.mem_map.1 present
    exact once _ (mem_sourceKeys member)
  · rw [List.count_eq_zero.2 present]
    exact Nat.zero_le 1

theorem eventCount_pos_iff (member : source ∈ sortedSources env query tables) :
    0 < source.eventCount ↔
      source.sourceKey ∈ (totalsRows env query tables).map (statsRowKey env) := by
  rw [eventCount_eq member]
  exact GroupedRows.lastAmount_pos_iff (fun row member => total_pos member) _

theorem length_sources_with_events
    (once : ((totalsRows env query tables).map (statsRowKey env)).Nodup) :
    ((sortedSources env query tables).filter fun source => 0 < source.eventCount).length =
      (totalsRows env query tables).length := by
  have keys : (((sortedSources env query tables).filter fun source =>
      0 < source.eventCount).map SourcePayload.sourceKey).Perm
        ((totalsRows env query tables).map (statsRowKey env)) := by
    have distinct : ((sortedSources env query tables).map SourcePayload.sourceKey).Nodup :=
      perm_sourceKeys.nodup_iff.2 nodup_sourceKeys
    rw [List.perm_ext_iff_of_nodup ((List.filter_sublist.map _).nodup distinct) once]
    intro key
    constructor
    · intro member
      obtain ⟨source, inside, rfl⟩ := List.mem_map.1 member
      obtain ⟨listed, positive⟩ := List.mem_filter.1 inside
      exact (eventCount_pos_iff listed).1 (of_decide_eq_true positive)
    · intro member
      obtain ⟨row, rowMember, rfl⟩ := List.mem_map.1 member
      obtain ⟨source, listed, ofRow⟩ :=
        List.mem_map.1 (perm_sourceKeys.mem_iff.2 (mem_sourceKeys rowMember))
      rw [← ofRow] at member
      exact List.mem_map.2 ⟨source,
        List.mem_filter.2 ⟨listed, decide_eq_true ((eventCount_pos_iff listed).2 member)⟩, ofRow⟩
  simpa using keys.length_eq

theorem sum_listed_eventCount_iff :
    ((listedSources env query tables).map SourcePayload.eventCount).sum =
        (nonSyntheticEvents env query tables).length ↔
      ((totalsRows env query tables).map (statsRowKey env)).Nodup ∧
        (totalsRows env query tables).length ≤ query.sourceLimit := by
  have cut := GroupedRows.sum_take_eq_sum_iff
    (pairwise_sortedSources env query tables) query.sourceLimit
  have whole := sum_eventCount_iff env query tables
  have bounded := sum_eventCount_le env query tables
  have shorter : ((listedSources env query tables).map SourcePayload.eventCount).sum ≤
      ((sortedSources env query tables).map SourcePayload.eventCount).sum := by
    have parts := List.sum_take_add_sum_drop
      ((sortedSources env query tables).map SourcePayload.eventCount) query.sourceLimit
    rw [listedSources, List.map_take]
    omega
  constructor
  · intro same
    have once := whole.1 (bounded.antisymm (same ▸ shorter))
    refine ⟨once, ?_⟩
    rw [← length_sources_with_events once]
    exact cut.1 (same.trans (whole.2 once).symm)
  · rintro ⟨once, fits⟩
    rw [← length_sources_with_events once] at fits
    exact (cut.2 fits).trans (whole.2 once)

/-! ## Unattended incidents -/

variable (env) in
def incidentKey (incident : QualityIncident) : String :=
  sourceKey env incident.source incident.sourceConnectionId

variable (env query tables) in
def listedUnattended : List QualityIncident :=
  (unattendedIncidents env query tables).filter fun incident =>
    incidentKey env incident ∈ (listedSources env query tables).map SourcePayload.sourceKey

theorem wholeAmount_unattended (key : String) :
    GroupedRows.wholeAmount (unattendedRowKey env) Prod.snd (unattendedRows env query tables) key =
      (unattendedIncidents env query tables).countP fun incident =>
        incidentKey env incident = key := by
  rw [GroupedRows.wholeAmount, unattendedRows, List.filter_map, List.map_map]
  exact GroupedRows.sum_count_filter (fun group => decide (sourceKey env group.1 group.2 = key))
    incidentColumns _

theorem unattendedRow_pos {row : (Option String × Option Nat) × Nat}
    (member : row ∈ unattendedRows env query tables) : 0 < row.2 := by
  obtain ⟨group, inside, rfl⟩ := List.mem_map.1 member
  exact GroupedRows.count_pos inside

theorem sum_listed_unattended_iff :
    ((listedSources env query tables).map SourcePayload.unattendedIncidents).sum =
        (listedUnattended env query tables).length ↔
      ∀ source ∈ listedSources env query tables,
        ((unattendedRows env query tables).map (unattendedRowKey env)).count source.sourceKey ≤
          1 := by
  have distinct : ((listedSources env query tables).map SourcePayload.sourceKey).Nodup := by
    rw [listedSources, List.map_take]
    exact (List.take_sublist _ _).nodup (perm_sourceKeys.nodup_iff.2 nodup_sourceKeys)
  have counts : (listedSources env query tables).map SourcePayload.unattendedIncidents =
      ((listedSources env query tables).map SourcePayload.sourceKey).map
        (lastUnattended env query tables) := by
    rw [List.map_map]
    exact List.map_congr_left fun source member => unattended_eq (List.mem_of_mem_take member)
  have whole : (listedUnattended env query tables).length =
      (((listedSources env query tables).map SourcePayload.sourceKey).map
        (GroupedRows.wholeAmount (unattendedRowKey env) Prod.snd
          (unattendedRows env query tables))).sum := by
    rw [funext wholeAmount_unattended, GroupedRows.sum_countP distinct, listedUnattended,
      List.countP_eq_length_filter]
  have lost := GroupedRows.sum_lastAmount_iff (unattendedRowKey env)
    (unattendedRows env query tables) (fun row member => unattendedRow_pos member)
    ((listedSources env query tables).map SourcePayload.sourceKey)
  rw [counts, whole]
  exact lost.trans List.forall_mem_map

/-! ## Recoveries -/

variable (env query tables) in
def unmatchedOf (key : String) : List QualityEvent :=
  (recoveriesOf env query tables key).filter (isUnmatched env query tables)

variable (env query tables) in
theorem countOf_add (events : List QualityEvent) :
    countOf env query tables .matched events + countOf env query tables .standalone events +
      (events.filter (isUnmatched env query tables)).length = events.length := by
  rw [← List.countP_eq_length_filter]
  unfold countOf
  induction events with
  | nil => rfl
  | cons event events ih =>
      rw [List.countP_cons, List.countP_cons, List.countP_cons, List.length_cons, ← ih]
      cases sort : recoveryClass env query tables event with
      | matched | standalone =>
          have known : isUnmatched env query tables event = false := by simp [isUnmatched, sort]
          simp only [known, decide_true, reduceCtorEq, decide_false, if_true, Bool.false_eq_true,
            if_false]
          omega
      | unmatched =>
          have known : isUnmatched env query tables event = true := by simp [isUnmatched, sort]
          simp only [known, reduceCtorEq, decide_false, if_true, Bool.false_eq_true, if_false]
          omega

variable (env query tables) in
/-- The recoveries of a source are those that are scanned for it, and each is in one class. -/
def CountsRecoveries (source : SourcePayload) : Prop :=
  source.matchedRecoveries + source.standalone +
      (unmatchedOf env query tables source.sourceKey).length =
    (recoveriesOf env query tables source.sourceKey).length

theorem countsRecoveries (member : source ∈ sortedSources env query tables) :
    CountsRecoveries env query tables source := by
  obtain ⟨accumulator, same, final⟩ := exists_final member
  have matched : source.matchedRecoveries =
      countOf env query tables .matched (recoveriesOf env query tables source.sourceKey) := by
    conv_lhs => rw [same]
    exact final.matched
  have standalone : source.standalone =
      countOf env query tables .standalone (recoveriesOf env query tables source.sourceKey) := by
    conv_lhs => rw [same]
    exact final.standalone
  rw [CountsRecoveries, matched, standalone]
  exact countOf_add env query tables _

variable (env query tables) in
def unmatchedSamplesOf (key : String) : List QualityEvent :=
  ((recoveriesOf env query tables key).take maxIssueSamples).filter (isUnmatched env query tables)

theorem unmatchedRecovery_eq (member : source ∈ sortedSources env query tables) :
    source.unmatchedRecovery =
      if source.eventCount = 0 ∨ unmatchedOf env query tables source.sourceKey = [] then none
      else some ⟨(unmatchedOf env query tables source.sourceKey).length,
        (unmatchedSamplesOf env query tables source.sourceKey).map QualityEvent.id⟩ := by
  obtain ⟨accumulator, same, final⟩ := exists_final member
  have counted := countOf_add env query tables (recoveriesOf env query tables source.sourceKey)
  have unmatched : attributableRecoveries accumulator - accumulator.matchedRecoveryCount =
      (unmatchedOf env query tables source.sourceKey).length := by
    rw [attributableRecoveries, final.recoveries, final.matched, final.standalone, unmatchedOf]
    omega
  have eventCount : source.eventCount = accumulator.eventCount := by
    conv_lhs => rw [same]
    rfl
  have finding : source.unmatchedRecovery = unmatchedFinding accumulator := by
    conv_lhs => rw [same]
    rfl
  rw [finding, unmatchedFinding, unmatched, final.samples, eventCount]
  simp only [List.length_eq_zero_iff, unmatchedSamplesOf]

variable (env query tables) in
/-- The samples of the finding are unmatched recoveries of the source, and there are some. -/
def SamplesUnmatched (source : SourcePayload) : Prop :=
  ∀ finding, source.unmatchedRecovery = some finding →
    (∀ id ∈ finding.sampleEventIds, ∃ event ∈ unmatchedOf env query tables source.sourceKey,
      event.id = id) ∧ (0 < finding.count → finding.sampleEventIds ≠ [])

theorem samplesUnmatched_iff (member : source ∈ sortedSources env query tables) :
    SamplesUnmatched env query tables source ↔
      (0 < source.eventCount → unmatchedOf env query tables source.sourceKey ≠ [] →
        unmatchedSamplesOf env query tables source.sourceKey ≠ []) := by
  rw [SamplesUnmatched, unmatchedRecovery_eq member]
  constructor
  · intro samples hasEvents hasUnmatched
    rw [if_neg (by simp [hasEvents.ne', hasUnmatched])] at samples
    obtain ⟨-, someSample⟩ := samples _ rfl
    intro none
    exact someSample (List.length_pos_of_ne_nil hasUnmatched) (by rw [none]; rfl)
  · intro someSample finding found
    split at found
    · cases found
    · rename_i shown
      obtain rfl := Option.some.inj found
      rw [not_or] at shown
      refine ⟨?_, fun _ => ?_⟩
      · intro id inSamples
        obtain ⟨event, taken, rfl⟩ := List.mem_map.1 inSamples
        obtain ⟨first, unmatched⟩ := List.mem_filter.1 taken
        exact ⟨event, List.mem_filter.2 ⟨List.mem_of_mem_take first, unmatched⟩, rfl⟩
      · rw [Ne, List.map_eq_nil_iff]
        exact someSample (Nat.pos_of_ne_zero shown.1) shown.2

/-! ## The overview -/

variable (env query tables) in
/-- The overview conserves the counts of its sources. -/
structure ConservesCounts : Prop where
  events : ((listedSources env query tables).map SourcePayload.eventCount).sum =
    (nonSyntheticEvents env query tables).length
  unattended : ((listedSources env query tables).map SourcePayload.unattendedIncidents).sum =
    (listedUnattended env query tables).length
  recoveries : ∀ source ∈ sortedSources env query tables, CountsRecoveries env query tables source
  samples : ∀ source ∈ sortedSources env query tables, SamplesUnmatched env query tables source

variable (env query tables) in
/-- No two groups meet in one source, no source with events is cut off, and the first recoveries of
a source show an unmatched one if there is any. -/
structure CountsApart : Prop where
  events : ((totalsRows env query tables).map (statsRowKey env)).Nodup
  fits : (totalsRows env query tables).length ≤ query.sourceLimit
  unattended : ∀ source ∈ listedSources env query tables,
    ((unattendedRows env query tables).map (unattendedRowKey env)).count source.sourceKey ≤ 1
  sampled : ∀ row ∈ totalsRows env query tables,
    unmatchedOf env query tables (statsRowKey env row) ≠ [] →
      unmatchedSamplesOf env query tables (statsRowKey env row) ≠ []

variable (env query tables) in
/-- The overview conserves the counts just when it keeps the groups apart. -/
theorem conservesCounts_iff :
    ConservesCounts env query tables ↔ CountsApart env query tables := by
  constructor
  · intro conserves
    obtain ⟨once, fits⟩ := sum_listed_eventCount_iff.1 conserves.events
    refine ⟨once, fits, sum_listed_unattended_iff.1 conserves.unattended, fun row member => ?_⟩
    obtain ⟨source, listed, ofRow⟩ :=
      List.mem_map.1 (perm_sourceKeys.mem_iff.2 (mem_sourceKeys member))
    have positive := (eventCount_pos_iff listed).2 (ofRow ▸ List.mem_map_of_mem member)
    exact ofRow ▸ (samplesUnmatched_iff listed).1 (conserves.samples source listed) positive
  · intro apart
    refine ⟨sum_listed_eventCount_iff.2 ⟨apart.events, apart.fits⟩,
      sum_listed_unattended_iff.2 apart.unattended, fun source member => countsRecoveries member,
      fun source member => (samplesUnmatched_iff member).2 fun positive => ?_⟩
    obtain ⟨row, rowMember, ofRow⟩ := List.mem_map.1 ((eventCount_pos_iff member).1 positive)
    exact ofRow ▸ apart.sampled row rowMember

end Accounts

/-! ### Two spellings of one source -/

def spelledEvent (id : Nat) (source : String) : QualityEvent where
  id := id
  source := source
  sourceConnectionId := none
  timestamp := 0
  parsedData := none
  aiAnalysis := none
  alertHash := none
  dedupKey := none
  isDuplicate := false

def spellings : QualityTables where
  events := [spelledEvent 1 "Grafana", spelledEvent 2 "grafana"]
  incidents := []
  memberIds := []
  connections := []
  distinctIds := by decide

def spellingsEnv : QualityEnv where
  toPythonRuntime := .plain
  syntheticSources := []
  now := 0
  statsNow := 0
  score _ := 100

/-- The two groups have one key, and the count of the first is overwritten. -/
theorem spellings_lose_event : ¬ ConservesCounts spellingsEnv ⟨7, 20⟩ spellings := by
  intro conserves
  have once := (sum_listed_eventCount_iff.1 conserves.events).1
  revert once
  decide +kernel

end QualityConservation

end WebhookWise
