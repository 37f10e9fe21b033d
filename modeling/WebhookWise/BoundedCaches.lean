import Mathlib.Data.List.Induction
import Mathlib.Data.List.Nodup
import Mathlib.Data.List.Sort
import WebhookWise.GuardedRuns

/-!
# Caches of bounded size whose entries expire

A cache keeps a value under its key for a while, and it keeps no more than so many values.  A full
cache first drops what has expired; if it is still full, the entries that would expire first give
way.  Looking a key up and storing what was found for it are separate events, so that other calls
come between them.
-/

namespace BoundedCaches

open GuardedRuns

structure Entry (Key Value Time : Type) where
  key : Key
  value : Value
  expiresAt : Time

/-- A dictionary, in the order in which its keys came. -/
abbrev Cache (Key Value Time : Type) := List (Entry Key Value Time)

/-- What a call does to the cache at a time: it looks a key up, or stores what it has found. -/
inductive Event (Key Value Time : Type) where
  | look (now : Time) (key : Key)
  | store (now : Time) (key : Key) (value : Value)

def Event.now {Key Value Time : Type} : Event Key Value Time → Time
  | .look now _ => now
  | .store now _ _ => now

def Event.key {Key Value Time : Type} : Event Key Value Time → Key
  | .look _ key => key
  | .store _ key _ => key

section Operations

variable {Key Value Time : Type} [DecidableEq Key] [LinearOrder Time]
  (cache : Cache Key Value Time) (now : Time)

def find (key : Key) : Option (Entry Key Value Time) :=
  cache.find? fun entry => entry.key = key

def answer (key : Key) : Option Value :=
  ((find cache key).filter fun entry => now < entry.expiresAt).map Entry.value

def drop (keys : List Key) : Cache Key Value Time :=
  cache.filter fun entry => entry.key ∉ keys

def put (entry : Entry Key Value Time) : Cache Key Value Time :=
  if cache.any fun other => other.key = entry.key then
    cache.map fun other => if other.key = entry.key then entry else other
  else cache ++ [entry]

def expiredKeys : List Key :=
  (cache.filter fun entry => entry.expiresAt ≤ now).map Entry.key

/-- So many entries, those first that expire first. -/
def soonest (count : Nat) : Cache Key Value Time :=
  (cache.insertionSort fun one other => one.expiresAt ≤ other.expiresAt).take count

/-- Room for one more entry. -/
def evictIfFull (capacity : Nat) : Cache Key Value Time :=
  if cache.length < capacity then cache
  else
    let left := drop cache (expiredKeys cache now)
    if left.length < capacity then left
    else drop left ((soonest left (left.length - capacity + 1)).map Entry.key)

variable [Add Time] (capacity : Nat) (lifetime : Time)

def step (cache : Cache Key Value Time) : Event Key Value Time → Cache Key Value Time
  | .look now key => if (answer cache now key).isSome then cache else drop cache [key]
  | .store now key value =>
      if (answer cache now key).isSome then cache
      else put (evictIfFull cache now capacity) ⟨key, value, now + lifetime⟩

/-- What the call goes on with. -/
def served (cache : Cache Key Value Time) : Event Key Value Time → Option Value
  | .look now key => answer cache now key
  | .store now key value => some ((answer cache now key).getD value)

end Operations

/-! ## The size of a cache -/

section Size

variable {Key Value Time : Type} [DecidableEq Key] {cache : Cache Key Value Time} {capacity : Nat}

/-- No key is there twice, and no more entries than the cache may have. -/
structure Fits (capacity : Nat) (cache : Cache Key Value Time) : Prop where
  nodup : (cache.map Entry.key).Nodup
  length_le : cache.length ≤ capacity

theorem nodup_drop (nodup : (cache.map Entry.key).Nodup) (keys : List Key) :
    ((drop cache keys).map Entry.key).Nodup :=
  nodup.sublist (List.filter_sublist.map Entry.key)

theorem fits_put {entry : Entry Key Value Time} (nodup : (cache.map Entry.key).Nodup)
    (room : cache.length < capacity) : Fits capacity (put cache entry) := by
  unfold put
  split
  · have keys : (cache.map fun other => if other.key = entry.key then entry else other).map
        Entry.key = cache.map Entry.key := by
      rw [List.map_map]
      apply List.map_congr_left
      intro other _
      by_cases same : other.key = entry.key
      · simp [same]
      · simp [same]
    exact ⟨keys ▸ nodup, by simpa using room.le⟩
  · rename_i absent
    have fresh : entry.key ∉ cache.map Entry.key := by
      intro present
      obtain ⟨other, member, same⟩ := List.mem_map.1 present
      exact absent (List.any_eq_true.2 ⟨other, member, decide_eq_true same⟩)
    refine ⟨?_, by simpa using Nat.succ_le_of_lt room⟩
    rw [List.map_append, List.map_singleton]
    exact nodup.append (List.nodup_singleton _) (List.disjoint_singleton.2 fresh)

variable [LinearOrder Time] {now : Time}

theorem nodup_evictIfFull (nodup : (cache.map Entry.key).Nodup) :
    ((evictIfFull cache now capacity).map Entry.key).Nodup := by
  unfold evictIfFull
  split
  · exact nodup
  · dsimp only
    split
    · exact nodup_drop nodup _
    · exact nodup_drop (nodup_drop nodup _) _

theorem length_drop_soonest (nodup : (cache.map Entry.key).Nodup) (count : Nat) :
    (drop cache ((soonest cache count).map Entry.key)).length = cache.length - count := by
  let sorted := cache.insertionSort fun one other => one.expiresAt ≤ other.expiresAt
  have permuted : sorted.Perm cache := List.perm_insertionSort _ cache
  have apart : (((sorted.take count ++ sorted.drop count).map Entry.key)).Nodup := by
    rw [List.take_append_drop]
    exact (permuted.map Entry.key).nodup_iff.2 nodup
  rw [List.map_append, List.nodup_append] at apart
  have dropped : (sorted.take count).filter
      (fun entry => entry.key ∉ (sorted.take count).map Entry.key) = [] := by
    rw [List.filter_eq_nil_iff]
    intro entry member
    simpa using List.mem_map_of_mem (f := Entry.key) member
  have kept : (sorted.drop count).filter
      (fun entry => entry.key ∉ (sorted.take count).map Entry.key) = sorted.drop count := by
    rw [List.filter_eq_self]
    intro entry member
    exact decide_eq_true fun early =>
      apart.2.2 entry.key early entry.key (List.mem_map_of_mem member) rfl
  calc
    (drop cache ((soonest cache count).map Entry.key)).length =
        (drop sorted ((sorted.take count).map Entry.key)).length :=
      (permuted.symm.filter _).length_eq
    _ = (sorted.drop count).length := by
      rw [drop, ← List.take_append_drop count sorted, List.filter_append,
        List.take_append_drop, dropped, kept, List.nil_append]
    _ = cache.length - count := by rw [List.length_drop, permuted.length_eq]

theorem length_evictIfFull_lt (nodup : (cache.map Entry.key).Nodup) (positive : 0 < capacity) :
    (evictIfFull cache now capacity).length < capacity := by
  unfold evictIfFull
  split
  · assumption
  · dsimp only
    split
    · assumption
    · rename_i full
      rw [length_drop_soonest (nodup_drop nodup _)]
      omega

theorem Fits.step [Add Time] {lifetime : Time} (fits : Fits capacity cache)
    (positive : 0 < capacity) (event : Event Key Value Time) :
    Fits capacity (step capacity lifetime cache event) := by
  cases event with
  | look now key =>
      simp only [BoundedCaches.step]
      split
      · exact fits
      · exact ⟨nodup_drop fits.nodup _, (List.length_filter_le _ _).trans fits.length_le⟩
  | store now key value =>
      simp only [BoundedCaches.step]
      split
      · exact fits
      · exact fits_put (nodup_evictIfFull fits.nodup)
          (length_evictIfFull_lt fits.nodup positive)

/-- However lookups and stores are interleaved, the cache keeps to its capacity. -/
theorem fits_run [Add Time] {lifetime : Time} (positive : 0 < capacity)
    (events : List (Event Key Value Time)) :
    Fits capacity (run (step capacity lifetime) [] events) := by
  have initially : Fits capacity ([] : Cache Key Value Time) := ⟨by simp, Nat.zero_le capacity⟩
  exact run_invariant _ initially (fun _ event fits => fits.step positive event) events

end Size

/-! ## Where the values come from -/

section Sources

variable {Key Value Time : Type} [DecidableEq Key] {now : Time} {capacity : Nat}

theorem mem_drop {cache : Cache Key Value Time} {keys : List Key}
    {entry : Entry Key Value Time} (member : entry ∈ drop cache keys) : entry ∈ cache :=
  List.mem_of_mem_filter member

theorem mem_evictIfFull [LinearOrder Time] {cache : Cache Key Value Time} {entry : Entry Key Value Time}
    (member : entry ∈ evictIfFull cache now capacity) : entry ∈ cache := by
  unfold evictIfFull at member
  split at member
  · exact member
  · dsimp only at member
    split at member
    · exact mem_drop member
    · exact mem_drop (mem_drop member)

theorem mem_put {cache : Cache Key Value Time} {entry other : Entry Key Value Time}
    (member : other ∈ put cache entry) : other ∈ cache ∨ other = entry := by
  unfold put at member
  split at member
  · obtain ⟨old, isOld, rfl⟩ := List.mem_map.1 member
    by_cases same : old.key = entry.key
    · exact Or.inr (if_pos same)
    · rw [if_neg same]
      exact Or.inl isOld
  · rcases List.mem_append.1 member with isOld | isNew
    · exact Or.inl isOld
    · exact Or.inr (List.mem_singleton.1 isNew)

variable [LinearOrder Time] [Add Time] {lifetime : Time} {events : List (Event Key Value Time)}
  {value : Value}

/-- Every entry was stored by an event of the run, and expires its lifetime later. -/
theorem exists_store_of_mem_run {entry : Entry Key Value Time}
    (member : entry ∈ run (step capacity lifetime) [] events) :
    ∃ stored, .store stored entry.key entry.value ∈ events ∧
      entry.expiresAt = stored + lifetime := by
  induction events using List.reverseRecOn generalizing entry with
  | nil => exact absurd member List.not_mem_nil
  | append_singleton events event ih =>
      have earlier {entry : Entry Key Value Time}
          (old : entry ∈ run (step capacity lifetime) [] events) :
          ∃ stored, .store stored entry.key entry.value ∈ events ++ [event] ∧
            entry.expiresAt = stored + lifetime := by
        obtain ⟨stored, isEvent, expires⟩ := ih old
        exact ⟨stored, List.mem_append_left _ isEvent, expires⟩
      rw [run_append, run_cons, run_nil] at member
      cases event with
      | look now key =>
          simp only [step] at member
          split at member
          · exact earlier member
          · exact earlier (mem_drop member)
      | store now key value =>
          simp only [step] at member
          split at member
          · exact earlier member
          · rcases mem_put member with old | rfl
            · exact earlier (mem_evictIfFull old)
            · exact ⟨now, by simp, rfl⟩

/-- What an event is served was stored for its key, by the event itself or less than a lifetime
before. -/
theorem exists_store_of_served {event : Event Key Value Time}
    (isServed : served (run (step capacity lifetime) [] events) event = some value) :
    (∃ now, event = .store now event.key value) ∨
      ∃ stored, .store stored event.key value ∈ events ∧ event.now < stored + lifetime := by
  have answered (hit : answer (run (step capacity lifetime) [] events) event.now event.key =
      some value) :
      ∃ stored, .store stored event.key value ∈ events ∧ event.now < stored + lifetime := by
    obtain ⟨entry, isLive, rfl⟩ := Option.map_eq_some_iff.1 hit
    obtain ⟨found, lives⟩ := Option.filter_eq_some_iff.1 isLive
    obtain ⟨stored, isEvent, expires⟩ := exists_store_of_mem_run (List.mem_of_find?_eq_some found)
    have sameKey : entry.key = event.key := by simpa using List.find?_some found
    exact ⟨stored, sameKey ▸ isEvent, expires ▸ of_decide_eq_true lives⟩
  cases event with
  | look now key => exact Or.inr (answered isServed)
  | store now key fresh =>
      cases hit : answer (run (step capacity lifetime) [] events) now key with
      | none =>
          rw [served, hit] at isServed
          exact Or.inl ⟨now, by rw [← Option.some.inj isServed]; rfl⟩
      | some held =>
          rw [served, hit] at isServed
          exact Or.inr (answered (hit.trans isServed))

end Sources

end BoundedCaches
