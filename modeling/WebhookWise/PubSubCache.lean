import WebhookWise.GuardedRuns
import WebhookWise.PythonValues

/-!
# The TTL cache with invalidations

A worker keeps one value that a loader has read from the database.  Calls of `get`, invalidations
and transactions interleave at every `await`.  The moments of the calls, the loads and the
invalidations are remembered beside the state.
-/

namespace WebhookWise

namespace PubSubCache

variable {Value Database : Type}

/-- What a call of the loader has returned. -/
structure Loaded (Value : Type) where
  startedAt : Nat
  version : Nat
  value : Option Value

/-- A call of `get` waits for the reload lock, or for the loader. -/
inductive GetPhase (Value : Type) where
  | waiting
  | loading (epochBefore startedAt : Nat) (loaded : Option (Loaded Value))

structure Get (Value : Type) where
  startedAt : Nat
  phase : GetPhase Value

/-- A finished call of `get`. -/
structure Answer (Value : Type) where
  startedAt : Nat
  loaded : Loaded Value

/-- A transaction, and whether it has an action registered; once committed, how many
commits there were with it. -/
inductive Transaction where
  | pending (registered : Bool)
  | committed (version : Nat)

structure RanAction where
  ranAt : Nat
  version : Nat

structure CacheState (Value Database : Type) where
  moment : Nat
  cached : Option (Loaded Value)
  loadedAt : DateTime
  invalidationEpoch : Nat
  reloading : Bool
  gets : List (Get Value)
  database : Database
  /-- What the database was before each commit. -/
  earlier : List Database
  transactions : List Transaction
  answers : List (Answer Value)
  invalidations : List Nat
  actions : List RanAction

def CacheState.initial (database : Database) : CacheState Value Database where
  moment := 0
  cached := none
  loadedAt := 0
  invalidationEpoch := 0
  reloading := false
  gets := []
  database := database
  earlier := []
  transactions := []
  answers := []
  invalidations := []
  actions := []

/-- The number of commits. -/
def CacheState.version (state : CacheState Value Database) : Nat :=
  state.earlier.length

def CacheState.databaseAt (state : CacheState Value Database) (version : Nat) : Option Database :=
  (state.earlier ++ [state.database])[version]?

/-- What happens between two `await`s, with readings of the monotonic clock. -/
inductive CacheEvent (Database : Type) where
  /-- A call of `get`, up to the lock. -/
  | get (now : DateTime)
  /-- A waiting call takes the lock. -/
  | acquire (index : Nat) (now : DateTime)
  /-- The loader reads the committed state. -/
  | read (index : Nat)
  /-- The loader returns. -/
  | finish (index : Nat) (now : DateTime)
  /-- The loader raises, or the call is cancelled. -/
  | abandon (index : Nat)
  /-- `invalidate`, also by the listener. -/
  | invalidate
  | begin
  | invalidateAfterCommit (index : Nat)
  | commit (index : Nat) (database : Database)
  | rollback (index : Nat)
  /-- `_run_after_commit_actions`. -/
  | runActions (index : Nat)

variable (load : Database → Option Value) (ttl : Int)

/-- `self._value`, if it is not `None` and younger than the TTL. -/
def CacheState.fresh (state : CacheState Value Database) (now : DateTime) :
    Option (Loaded Value) :=
  state.cached.filter fun loaded => loaded.value.isSome && now - state.loadedAt < ttl

def CacheState.invalidated (state : CacheState Value Database) : CacheState Value Database :=
  { state with
    cached := none
    loadedAt := 0
    invalidationEpoch := state.invalidationEpoch + 1
    invalidations := state.moment :: state.invalidations }

/-- A call returns. -/
def CacheState.answered (state : CacheState Value Database) (startedAt : Nat)
    (loaded : Loaded Value) : CacheState Value Database :=
  { state with answers := ⟨startedAt, loaded⟩ :: state.answers }

def CacheState.handle (state : CacheState Value Database) :
    CacheEvent Database → CacheState Value Database
  | .get now =>
      match state.fresh ttl now with
      | some loaded => state.answered state.moment loaded
      | none => { state with gets := state.gets ++ [⟨state.moment, .waiting⟩] }
  | .acquire index now =>
      match state.reloading, state.gets[index]? with
      | false, some ⟨startedAt, .waiting⟩ =>
          match state.fresh ttl now with
          | some loaded =>
              { state with gets := state.gets.eraseIdx index }.answered startedAt loaded
          | none =>
              { state with
                reloading := true
                gets := state.gets.set index
                  ⟨startedAt, .loading state.invalidationEpoch state.moment none⟩ }
      | _, _ => state
  | .read index =>
      match state.gets[index]? with
      | some ⟨startedAt, .loading epochBefore loadStartedAt none⟩ =>
          { state with
            gets := state.gets.set index ⟨startedAt, .loading epochBefore loadStartedAt
              (some ⟨loadStartedAt, state.version, load state.database⟩)⟩ }
      | _ => state
  | .finish index now =>
      match state.gets[index]? with
      | some ⟨startedAt, .loading epochBefore _ (some loaded)⟩ =>
          let returned : CacheState Value Database :=
            { state with
              reloading := false
              gets := state.gets.eraseIdx index }.answered startedAt loaded
          -- An invalidation during the load leaves the cache empty.
          if state.invalidationEpoch = epochBefore then
            { returned with cached := some loaded, loadedAt := now }
          else returned
      | _ => state
  | .abandon index =>
      match state.gets[index]? with
      | some ⟨_, .waiting⟩ => { state with gets := state.gets.eraseIdx index }
      | some ⟨_, .loading _ _ _⟩ =>
          { state with reloading := false, gets := state.gets.eraseIdx index }
      | none => state
  | .invalidate => state.invalidated
  | .begin => { state with transactions := state.transactions ++ [.pending false] }
  | .invalidateAfterCommit index =>
      match state.transactions[index]? with
      | some (.pending _) =>
          { state.invalidated with
            transactions := state.transactions.set index (.pending true) }
      | _ => state
  | .commit index database =>
      match state.transactions[index]? with
      | some (.pending registered) =>
          { state with
            database := database
            earlier := state.earlier ++ [state.database]
            transactions :=
              if registered then state.transactions.set index (.committed (state.version + 1))
              else state.transactions.eraseIdx index }
      | _ => state
  | .rollback index =>
      match state.transactions[index]? with
      | some (.pending _) => { state with transactions := state.transactions.eraseIdx index }
      | _ => state
  | .runActions index =>
      match state.transactions[index]? with
      | some (.committed version) =>
          { state.invalidated with
            transactions := state.transactions.eraseIdx index
            actions := ⟨state.moment, version⟩ :: state.actions }
      | _ => state

def step (state : CacheState Value Database) (event : CacheEvent Database) :
    CacheState Value Database :=
  { state.handle load ttl event with moment := state.moment + 1 }

/-! ## Fresh answers -/

/-- The loader of an answer was called after every invalidation before the call, and it
has read every commit whose action had run by then. -/
structure AnswerFresh (state : CacheState Value Database) (answer : Answer Value) : Prop where
  loadedAfter : ∀ moment ∈ state.invalidations, moment < answer.startedAt →
    moment < answer.loaded.startedAt
  isRead : ∃ database, state.databaseAt answer.loaded.version = some database ∧
    answer.loaded.value = load database
  afterActions : ∀ action ∈ state.actions, action.ranAt < answer.startedAt →
    action.version ≤ answer.loaded.version

def AnswersFresh (state : CacheState Value Database) : Prop :=
  ∀ answer ∈ state.answers, AnswerFresh load state answer

/-! ## The invariant -/

/-- A load has read a committed state, which no action that had run before it is ahead
of. -/
structure LoadedSound (state : CacheState Value Database) (loaded : Loaded Value) : Prop where
  past : loaded.startedAt < state.moment
  isRead : ∃ database, state.databaseAt loaded.version = some database ∧
    loaded.value = load database
  afterActions : ∀ action ∈ state.actions, action.ranAt < loaded.startedAt →
    action.version ≤ loaded.version

/-- A load whose epoch has not passed started after every invalidation. -/
def PhaseSound (state : CacheState Value Database) (startedAt : Nat) : GetPhase Value → Prop
  | .waiting => True
  | .loading epochBefore loadStartedAt loaded =>
      startedAt ≤ loadStartedAt ∧ loadStartedAt < state.moment ∧
        epochBefore ≤ state.invalidationEpoch ∧
        (epochBefore = state.invalidationEpoch →
          ∀ moment ∈ state.invalidations, moment < loadStartedAt) ∧
        ∀ value ∈ loaded, LoadedSound load state value ∧ value.startedAt = loadStartedAt

structure CacheSound (state : CacheState Value Database) : Prop where
  past : ∀ moment ∈ state.invalidations, moment < state.moment
  actions : ∀ action ∈ state.actions, action.ranAt ∈ state.invalidations ∧
    action.version ≤ state.version
  transactions : ∀ version, Transaction.committed version ∈ state.transactions →
    version ≤ state.version
  cached : ∀ loaded ∈ state.cached, LoadedSound load state loaded ∧
    ∀ moment ∈ state.invalidations, moment < loaded.startedAt
  gets : ∀ get ∈ state.gets, get.startedAt < state.moment ∧
    PhaseSound load state get.startedAt get.phase
  answers : ∀ answer ∈ state.answers, answer.startedAt < state.moment ∧
    LoadedSound load state answer.loaded ∧
    ∀ moment ∈ state.invalidations, moment < answer.startedAt → moment < answer.loaded.startedAt

/-! ## Steps -/

/-- What a step can do to the database, the actions and the invalidations. -/
structure Advances (state later : CacheState Value Database) : Prop where
  moment : later.moment = state.moment + 1
  version : state.version ≤ later.version
  databaseAt : ∀ version database, state.databaseAt version = some database →
    later.databaseAt version = some database
  actions : ∀ action ∈ later.actions, action ∈ state.actions ∨ action.ranAt = state.moment ∧
    state.moment ∈ later.invalidations ∧ action.version ≤ state.version
  invalidations : later.invalidations = state.invalidations ∧
      later.invalidationEpoch = state.invalidationEpoch ∨
    later.invalidations = state.moment :: state.invalidations ∧
      later.invalidationEpoch = state.invalidationEpoch + 1

section Steps

variable {load} {ttl} {state later : CacheState Value Database}

theorem Advances.unchanged (moment : later.moment = state.moment + 1)
    (database : later.database = state.database) (earlier : later.earlier = state.earlier)
    (actions : later.actions = state.actions)
    (invalidations : later.invalidations = state.invalidations)
    (epoch : later.invalidationEpoch = state.invalidationEpoch) : Advances state later where
  moment := moment
  version := by simp [CacheState.version, earlier]
  databaseAt := by simp [CacheState.databaseAt, database, earlier]
  actions := by simp +contextual [actions]
  invalidations := Or.inl ⟨invalidations, epoch⟩

theorem LoadedSound.advance {loaded : Loaded Value} (sound : LoadedSound load state loaded)
    (advances : Advances state later) : LoadedSound load later loaded where
  past := by
    rw [advances.moment]
    exact Nat.lt_succ_of_lt sound.past
  isRead := by
    obtain ⟨database, found, isValue⟩ := sound.isRead
    exact ⟨database, advances.databaseAt _ _ found, isValue⟩
  afterActions action member ranBefore := by
    rcases advances.actions action member with old | ⟨ranNow, _⟩
    · exact sound.afterActions action old ranBefore
    · rw [ranNow] at ranBefore
      exact absurd sound.past (Nat.lt_asymm ranBefore)

theorem Advances.mem_invalidations (advances : Advances state later) {moment : Nat}
    (member : moment ∈ later.invalidations) :
    moment ∈ state.invalidations ∨ moment = state.moment := by
  rcases advances.invalidations with ⟨same, _⟩ | ⟨more, _⟩
  · rw [same] at member
    exact Or.inl member
  · rw [more] at member
    exact (List.mem_cons.1 member).symm

theorem PhaseSound.advance {startedAt : Nat} {phase : GetPhase Value}
    (sound : PhaseSound load state startedAt phase) (advances : Advances state later) :
    PhaseSound load later startedAt phase := by
  cases phase with
  | waiting => trivial
  | loading epochBefore loadStartedAt loaded =>
      obtain ⟨started, past, epoch, after, isLoaded⟩ := sound
      refine ⟨started, ?_, ?_, ?_, fun value isValue =>
        ⟨(isLoaded value isValue).1.advance advances, (isLoaded value isValue).2⟩⟩
      · rw [advances.moment]
        exact Nat.lt_succ_of_lt past
      · rcases advances.invalidations with ⟨_, same⟩ | ⟨_, more⟩
        · rw [same]
          exact epoch
        · rw [more]
          exact Nat.le_succ_of_le epoch
      · intro sameEpoch
        rcases advances.invalidations with ⟨sameMoments, same⟩ | ⟨_, more⟩
        · rw [sameMoments]
          exact after (sameEpoch.trans same)
        · rw [sameEpoch, more] at epoch
          exact absurd epoch (Nat.not_succ_le_self _)

theorem CacheSound.advance (sound : CacheSound load state) (advances : Advances state later)
    (transactions : ∀ version, Transaction.committed version ∈ later.transactions →
      version ≤ later.version)
    (cached : ∀ loaded ∈ later.cached, LoadedSound load state loaded ∧
      ∀ moment ∈ later.invalidations, moment < loaded.startedAt)
    (gets : ∀ get ∈ later.gets, get ∈ state.gets ∨
      get.startedAt < later.moment ∧ PhaseSound load later get.startedAt get.phase)
    (answers : ∀ answer ∈ later.answers, answer ∈ state.answers ∨
      answer.startedAt < later.moment ∧ LoadedSound load state answer.loaded ∧
        ∀ moment ∈ state.invalidations, moment < answer.startedAt →
          moment < answer.loaded.startedAt) :
    CacheSound load later where
  past moment member := by
    rw [advances.moment]
    rcases advances.mem_invalidations member with old | rfl
    · exact Nat.lt_succ_of_lt (sound.past moment old)
    · exact Nat.lt_succ_self _
  actions action member := by
    rcases advances.actions action member with old | ⟨ranNow, isInvalidation, bounded⟩
    · obtain ⟨isInvalidation, bounded⟩ := sound.actions action old
      refine ⟨?_, bounded.trans advances.version⟩
      rcases advances.invalidations with ⟨same, _⟩ | ⟨more, _⟩
      · rw [same]
        exact isInvalidation
      · rw [more]
        exact List.mem_cons_of_mem _ isInvalidation
    · rw [ranNow]
      exact ⟨isInvalidation, bounded.trans advances.version⟩
  transactions := transactions
  cached loaded isCached := ⟨(cached loaded isCached).1.advance advances, (cached loaded isCached).2⟩
  gets get member := by
    rcases gets get member with old | new
    · obtain ⟨past, phase⟩ := sound.gets get old
      rw [advances.moment]
      exact ⟨Nat.lt_succ_of_lt past, phase.advance advances⟩
    · exact new
  answers answer member := by
    have known : answer.startedAt < later.moment ∧ LoadedSound load state answer.loaded ∧
        ∀ moment ∈ state.invalidations, moment < answer.startedAt →
          moment < answer.loaded.startedAt := by
      rcases answers answer member with old | new
      · obtain ⟨past, loaded, after⟩ := sound.answers answer old
        rw [advances.moment]
        exact ⟨Nat.lt_succ_of_lt past, loaded, after⟩
      · exact new
    obtain ⟨past, loaded, after⟩ := known
    refine ⟨past, loaded.advance advances, ?_⟩
    intro moment isInvalidation before
    rcases advances.mem_invalidations isInvalidation with old | rfl
    · exact after moment old before
    · rw [advances.moment] at past
      exact absurd before (Nat.not_lt_of_le (Nat.le_of_lt_succ past))

theorem CacheSound.idle (sound : CacheSound load state) (advances : Advances state later)
    (transactions : ∀ version, Transaction.committed version ∈ later.transactions →
      version ≤ later.version)
    (cached : later.cached = state.cached) (invalidations : later.invalidations = state.invalidations)
    (gets : ∀ get ∈ later.gets, get ∈ state.gets) (answers : later.answers = state.answers) :
    CacheSound load later := by
  apply sound.advance advances transactions
  · rw [cached, invalidations]
    exact sound.cached
  · exact fun get member => Or.inl (gets get member)
  · rw [answers]
    exact fun answer member => Or.inl member

theorem CacheSound.tick (sound : CacheSound load state) :
    CacheSound load { state with moment := state.moment + 1 } :=
  sound.idle (.unchanged rfl rfl rfl rfl rfl rfl) sound.transactions rfl rfl
    (fun _ member => member) rfl

theorem CacheSound.emptied (sound : CacheSound load state) (advances : Advances state later)
    (transactions : ∀ version, Transaction.committed version ∈ later.transactions →
      version ≤ later.version)
    (cached : later.cached = none) (gets : later.gets = state.gets)
    (answers : later.answers = state.answers) : CacheSound load later := by
  apply sound.advance advances transactions
  · simp [cached]
  · rw [gets]
    exact fun get member => Or.inl member
  · rw [answers]
    exact fun answer member => Or.inl member

theorem loaded_of_fresh (sound : CacheSound load state) {now : DateTime} {loaded : Loaded Value}
    (isFresh : state.fresh ttl now = some loaded) :
    LoadedSound load state loaded ∧ ∀ moment ∈ state.invalidations, moment < loaded.startedAt :=
  sound.cached loaded (Option.filter_eq_some_iff.1 isFresh).1

theorem sound_get (sound : CacheSound load state) (now : DateTime) :
    CacheSound load (step load ttl state (.get now)) := by
  simp only [step, CacheState.handle]
  split
  · rename_i loaded isFresh
    obtain ⟨isLoaded, after⟩ := loaded_of_fresh sound isFresh
    refine sound.advance (.unchanged rfl rfl rfl rfl rfl rfl) sound.transactions sound.cached
      (fun get member => Or.inl member) ?_
    intro answer member
    rcases List.mem_cons.1 member with rfl | old
    · exact Or.inr ⟨Nat.lt_succ_self _, isLoaded, fun moment isInvalidation _ =>
        after moment isInvalidation⟩
    · exact Or.inl old
  · refine sound.advance (.unchanged rfl rfl rfl rfl rfl rfl) sound.transactions sound.cached ?_
      fun answer member => Or.inl member
    intro get member
    rcases List.mem_append.1 member with old | new
    · exact Or.inl old
    · rw [List.mem_singleton.1 new]
      exact Or.inr ⟨Nat.lt_succ_self _, trivial⟩

theorem sound_acquire (sound : CacheSound load state) (index : Nat) (now : DateTime) :
    CacheSound load (step load ttl state (.acquire index now)) := by
  simp only [step, CacheState.handle]
  split
  · rename_i startedAt isFree isWaiting
    have waiting := (sound.gets _ (List.mem_of_getElem? isWaiting)).1
    split
    · rename_i loaded isFresh
      obtain ⟨isLoaded, after⟩ := loaded_of_fresh sound isFresh
      refine sound.advance (.unchanged rfl rfl rfl rfl rfl rfl) sound.transactions sound.cached
        ?_ ?_
      · exact fun get member => Or.inl (List.mem_of_mem_eraseIdx member)
      · intro answer member
        rcases List.mem_cons.1 member with rfl | old
        · exact Or.inr ⟨Nat.lt_succ_of_lt waiting, isLoaded, fun moment isInvalidation _ =>
            after moment isInvalidation⟩
        · exact Or.inl old
    · refine sound.advance (.unchanged rfl rfl rfl rfl rfl rfl) sound.transactions sound.cached ?_
        fun answer member => Or.inl member
      intro get member
      rcases List.mem_or_eq_of_mem_set member with old | rfl
      · exact Or.inl old
      · -- The load starts now, after every invalidation so far.
        exact Or.inr ⟨Nat.lt_succ_of_lt waiting, Nat.le_of_lt waiting, Nat.lt_succ_self _,
          le_refl _, fun _ => sound.past, by simp⟩
  · exact sound.tick

theorem sound_read (sound : CacheSound load state) (index : Nat) :
    CacheSound load (step load ttl state (.read index)) := by
  simp only [step, CacheState.handle]
  split
  · rename_i startedAt epochBefore loadStartedAt isLoading
    obtain ⟨past, started, loadPast, epoch, after, _⟩ :=
      sound.gets _ (List.mem_of_getElem? isLoading)
    have advances : Advances state { state with
        moment := state.moment + 1
        gets := state.gets.set index ⟨startedAt, .loading epochBefore loadStartedAt
          (some ⟨loadStartedAt, state.version, load state.database⟩)⟩ } :=
      .unchanged rfl rfl rfl rfl rfl rfl
    refine sound.advance advances sound.transactions sound.cached ?_
      fun answer member => Or.inl member
    intro get member
    rcases List.mem_or_eq_of_mem_set member with old | rfl
    · exact Or.inl old
    · refine Or.inr ⟨Nat.lt_succ_of_lt past, ?_⟩
      refine PhaseSound.advance ⟨started, loadPast, epoch, after, ?_⟩ advances
      intro value isValue
      obtain rfl := Option.some.inj isValue
      refine ⟨⟨loadPast, ⟨state.database, ?_, rfl⟩, fun action member _ =>
        (sound.actions action member).2⟩, rfl⟩
      simp [CacheState.databaseAt, CacheState.version]
  · exact sound.tick

theorem sound_finish (sound : CacheSound load state) (index : Nat) (now : DateTime) :
    CacheSound load (step load ttl state (.finish index now)) := by
  simp only [step, CacheState.handle]
  split
  · rename_i startedAt epochBefore loadStartedAt loaded isLoading
    obtain ⟨past, started, loadPast, epoch, after, isLoaded⟩ :=
      sound.gets _ (List.mem_of_getElem? isLoading)
    obtain ⟨loadedSound, sameStart⟩ := isLoaded loaded rfl
    have answers : ∀ answer ∈ (⟨startedAt, loaded⟩ : Answer Value) :: state.answers,
        answer ∈ state.answers ∨ answer.startedAt < state.moment + 1 ∧
          LoadedSound load state answer.loaded ∧
            ∀ moment ∈ state.invalidations, moment < answer.startedAt →
              moment < answer.loaded.startedAt := by
      intro answer member
      rcases List.mem_cons.1 member with rfl | old
      · refine Or.inr ⟨Nat.lt_succ_of_lt past, loadedSound, fun moment _ before => ?_⟩
        exact sameStart ▸ before.trans_le started
      · exact Or.inl old
    split
    · rename_i sameEpoch
      refine sound.advance (.unchanged rfl rfl rfl rfl rfl rfl) sound.transactions ?_
        (fun get member => Or.inl (List.mem_of_mem_eraseIdx member)) answers
      intro value isCached
      obtain rfl := Option.some.inj isCached
      exact ⟨loadedSound, sameStart ▸ after sameEpoch.symm⟩
    · exact sound.advance (.unchanged rfl rfl rfl rfl rfl rfl) sound.transactions sound.cached
        (fun get member => Or.inl (List.mem_of_mem_eraseIdx member)) answers
  · exact sound.tick

theorem sound_abandon (sound : CacheSound load state) (index : Nat) :
    CacheSound load (step load ttl state (.abandon index)) := by
  simp only [step, CacheState.handle]
  split
  · exact sound.idle (.unchanged rfl rfl rfl rfl rfl rfl) sound.transactions rfl rfl
      (fun get member => List.mem_of_mem_eraseIdx member) rfl
  · exact sound.idle (.unchanged rfl rfl rfl rfl rfl rfl) sound.transactions rfl rfl
      (fun get member => List.mem_of_mem_eraseIdx member) rfl
  · exact sound.tick

theorem sound_begin (sound : CacheSound load state) :
    CacheSound load (step load ttl state .begin) := by
  refine sound.idle (.unchanged rfl rfl rfl rfl rfl rfl) ?_ rfl rfl (fun _ member => member) rfl
  intro version member
  rcases List.mem_append.1 member with old | new
  · exact sound.transactions version old
  · simp at new

theorem sound_invalidateAfterCommit (sound : CacheSound load state) (index : Nat) :
    CacheSound load (step load ttl state (.invalidateAfterCommit index)) := by
  simp only [step, CacheState.handle]
  split
  · refine sound.emptied ⟨rfl, le_refl _, fun _ _ found => found, fun _ member => Or.inl member,
      Or.inr ⟨rfl, rfl⟩⟩ ?_ rfl rfl rfl
    intro version member
    rcases List.mem_or_eq_of_mem_set member with old | new
    · exact sound.transactions version old
    · contradiction
  · exact sound.tick

theorem sound_commit (sound : CacheSound load state) (index : Nat) (database : Database) :
    CacheSound load (step load ttl state (.commit index database)) := by
  simp only [step, CacheState.handle]
  split
  · refine sound.idle ⟨rfl, by simp [CacheState.version], ?_, fun _ member => Or.inl member,
      Or.inl ⟨rfl, rfl⟩⟩ ?_ rfl rfl (fun _ member => member) rfl
    · intro version database found
      obtain ⟨inRange, _⟩ := List.getElem?_eq_some_iff.1 found
      simp only [CacheState.databaseAt]
      rw [List.getElem?_append_left inRange]
      exact found
    · intro version member
      have later : state.version + 1 = (state.earlier ++ [state.database]).length := by
        simp [CacheState.version]
      change version ≤ (state.earlier ++ [state.database]).length
      rw [← later]
      simp only at member
      split at member
      · rcases List.mem_or_eq_of_mem_set member with old | new
        · exact Nat.le_succ_of_le (sound.transactions version old)
        · exact (Transaction.committed.inj new).le
      · exact Nat.le_succ_of_le (sound.transactions version (List.mem_of_mem_eraseIdx member))
  · exact sound.tick

theorem sound_rollback (sound : CacheSound load state) (index : Nat) :
    CacheSound load (step load ttl state (.rollback index)) := by
  simp only [step, CacheState.handle]
  split
  · exact sound.idle (.unchanged rfl rfl rfl rfl rfl rfl)
      (fun version member => sound.transactions version (List.mem_of_mem_eraseIdx member)) rfl rfl
      (fun _ member => member) rfl
  · exact sound.tick

theorem sound_runActions (sound : CacheSound load state) (index : Nat) :
    CacheSound load (step load ttl state (.runActions index)) := by
  simp only [step, CacheState.handle]
  split
  · rename_i version isCommitted
    refine sound.emptied ⟨rfl, le_refl _, fun _ _ found => found, ?_, Or.inr ⟨rfl, rfl⟩⟩
      (fun version member => sound.transactions version (List.mem_of_mem_eraseIdx member)) rfl rfl
      rfl
    intro action member
    rcases List.mem_cons.1 member with rfl | old
    · exact Or.inr ⟨rfl, List.mem_cons_self,
        sound.transactions _ (List.mem_of_getElem? isCommitted)⟩
    · exact Or.inl old
  · exact sound.tick

theorem sound_step (sound : CacheSound load state) (event : CacheEvent Database) :
    CacheSound load (step load ttl state event) := by
  cases event with
  | get now => exact sound_get sound now
  | acquire index now => exact sound_acquire sound index now
  | read index => exact sound_read sound index
  | finish index now => exact sound_finish sound index now
  | abandon index => exact sound_abandon sound index
  | invalidate =>
      exact sound.emptied ⟨rfl, le_refl _, fun _ _ found => found, fun _ member => Or.inl member,
        Or.inr ⟨rfl, rfl⟩⟩ sound.transactions rfl rfl rfl
  | begin => exact sound_begin sound
  | invalidateAfterCommit index => exact sound_invalidateAfterCommit sound index
  | commit index database => exact sound_commit sound index database
  | rollback index => exact sound_rollback sound index
  | runActions index => exact sound_runActions sound index

end Steps

/-! ## Runs -/

theorem sound_initial (database : Database) :
    CacheSound load (CacheState.initial database) := by
  constructor <;> simp [CacheState.initial]

/-- After an invalidation no call returns what was loaded before it, and after the action
of a commit no call returns what the commit has replaced. -/
theorem answers_fresh (load : Database → Option Value) (ttl : Int) (database : Database)
    (events : List (CacheEvent Database)) :
    AnswersFresh load (GuardedRuns.run (step load ttl) (.initial database) events) := by
  have sound : CacheSound load (GuardedRuns.run (step load ttl) (.initial database) events) :=
    GuardedRuns.run_invariant (CacheSound load) (sound_initial load database)
    (fun _ event sound => sound_step sound event) events
  intro answer member
  obtain ⟨_, loaded, after⟩ := sound.answers answer member
  refine ⟨after, loaded.isRead, ?_⟩
  intro action isAction before
  exact loaded.afterActions action isAction
    (after action.ranAt (sound.actions action isAction).1 before)

end PubSubCache

end WebhookWise
