import Mathlib.Data.List.Basic
import Mathlib.Data.Option.Basic
import Mathlib.Logic.Function.Basic

/-!
# Keys that expire, and sorted sets under them

A store keeps a value under a key until the time that was set for it.  The commands are
those of Redis, each at the time at which it runs.  A sorted set that has lost its last
member is no longer there.
-/

namespace ExpiringKeys

structure Held (Value : Type) where
  value : Value
  expiresAt : Option Int

abbrev Keyspace (Value : Type) := String → Option (Held Value)

section Commands

variable {Value : Type} (keys : Keyspace Value) (now : Int) (key : String)

/-- What is under a key whose time is not up. -/
def live : Option (Held Value) :=
  (keys key).filter fun held => held.expiresAt.all fun expiresAt => now < expiresAt

def get : Option Value :=
  (live keys now key).map Held.value

/-- `SET key value PX milliseconds`. -/
def setPx (value : Value) (milliseconds : Int) : Keyspace Value :=
  Function.update keys key (some ⟨value, some (now + milliseconds)⟩)

def pexpire (milliseconds : Int) : Keyspace Value :=
  Function.update keys key
    ((live keys now key).map fun held => { held with expiresAt := some (now + milliseconds) })

end Commands

section SortedSets

structure Scored (Member : Type) where
  score : Int
  member : Member
deriving DecidableEq

abbrev SortedSet (Member : Type) := List (Scored Member)

variable {Member : Type} [DecidableEq Member] (sets : Keyspace (SortedSet Member)) (now : Int)
  (key : String)

def entries : SortedSet Member :=
  (get sets now key).getD []

def zadd (entry : Scored Member) : Keyspace (SortedSet Member) :=
  Function.update sets key
    (some ⟨((entries sets now key).filter fun other => other.member ≠ entry.member) ++ [entry],
      (live sets now key).bind Held.expiresAt⟩)

def zremrangebyscore (least greatest : Int) : Keyspace (SortedSet Member) :=
  let kept := (entries sets now key).filter fun entry =>
    ! (decide (least ≤ entry.score) && decide (entry.score ≤ greatest))
  Function.update sets key
    (if kept = [] then none
    else (live sets now key).map fun held => { held with value := kept })

def zcard : Nat :=
  (entries sets now key).length

end SortedSets

/-! ## What a key holds after a command -/

variable {milliseconds : Int}

section Values

variable {Value : Type} {keys : Keyspace Value} {now later : Int} {key other : String}

theorem get_update {held : Held Value}
    (lives : (held.expiresAt.all fun expiresAt => now < expiresAt) = true) :
    get (Function.update keys key (some held)) now key = some held.value := by
  simp only [get, live, Function.update_self, Option.filter_some, lives, if_true, Option.map_some]

theorem get_setPx (value : Value) (lives : later < now + milliseconds) :
    get (setPx keys now key value milliseconds) later key = some value :=
  get_update (by simp [lives])

theorem get_pexpire (lives : later < now + milliseconds) :
    get (pexpire keys now key milliseconds) later key = get keys now key := by
  unfold get pexpire
  cases held : live keys now key with
  | none => simp [live]
  | some value => simp [live, lives]

theorem get_of_absent (absent : keys key = none) (now : Int) : get keys now key = none := by
  simp [get, live, absent]

end Values

section Sets

variable {Member : Type} {sets : Keyspace (SortedSet Member)} {now later : Int}
  {key other : String}

theorem entries_of_absent (absent : sets key = none) (now : Int) : entries sets now key = [] := by
  rw [entries, get_of_absent absent]
  rfl

theorem entries_congr {others : Keyspace (SortedSet Member)} (same : sets key = others key)
    (now : Int) : entries sets now key = entries others now key := by
  simp only [entries, get, live, same]

theorem entries_pexpire (lives : later < now + milliseconds) :
    entries (pexpire sets now key milliseconds) later key = entries sets now key := by
  simp only [entries, get_pexpire lives]

theorem pexpire_of_ne (different : other ≠ key) (milliseconds : Int) :
    pexpire sets now key milliseconds other = sets other :=
  Function.update_of_ne different _ _

theorem lives_of_live {held : Held (SortedSet Member)} (found : live sets now key = some held) :
    (held.expiresAt.all fun expiresAt => now < expiresAt) = true :=
  (Option.filter_eq_some_iff.1 found).2

theorem entries_zremrangebyscore (least greatest : Int) :
    entries (zremrangebyscore sets now key least greatest) now key =
      (entries sets now key).filter fun entry =>
        ! (decide (least ≤ entry.score) && decide (entry.score ≤ greatest)) := by
  simp only [zremrangebyscore]
  split
  · rename_i empty
    rw [empty, entries_of_absent (Function.update_self ..)]
  · rename_i nonempty
    cases found : live sets now key with
    | none =>
        have nothing : entries sets now key = [] := by simp [entries, get, found]
        exact absurd (by rw [nothing]; rfl) nonempty
    | some held =>
        have lives := lives_of_live found
        rw [entries, Option.map_some, get_update]
        · rfl
        · exact lives

variable [DecidableEq Member]

theorem zadd_of_ne (different : other ≠ key) (entry : Scored Member) :
    zadd sets now key entry other = sets other :=
  Function.update_of_ne different _ _

theorem entries_zadd (entry : Scored Member) :
    entries (zadd sets now key entry) now key =
      ((entries sets now key).filter fun other => other.member ≠ entry.member) ++ [entry] := by
  have lives : (((live sets now key).bind Held.expiresAt).all fun expiresAt => now < expiresAt) =
      true := by
    cases found : live sets now key with
    | none => rfl
    | some held => exact lives_of_live found
  rw [entries, zadd, get_update lives]
  rfl

theorem entries_zadd_of_fresh {entry : Scored Member}
    (fresh : ∀ other ∈ entries sets now key, other.member ≠ entry.member) :
    entries (zadd sets now key entry) now key = entries sets now key ++ [entry] := by
  rw [entries_zadd, List.filter_eq_self.2 fun other member => by simp [fresh other member]]

end Sets

end ExpiringKeys
