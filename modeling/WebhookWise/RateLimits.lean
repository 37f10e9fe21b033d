import Std.Data.String.ToInt
import Mathlib.Algebra.Order.Field.Rat
import Mathlib.Algebra.Order.Floor.Ring
import Mathlib.Data.Rat.Floor
import Mathlib.Logic.Function.Basic

/-!
# Rate limits over several windows

A limiter counts the requests of each aligned window, and estimates from two counters how many there
were in the last window's length.  One script does so for a single tier, the other for several at
once.  Time is exact here, and the scripts and the store share a clock.
-/

namespace WebhookWise

namespace RateLimits

/-! ## Redis -/

/-- A counter, which only the scripts write. -/
structure Counter where
  value : Nat
  expiresAt : Option ℚ

abbrev Redis := String → Option Counter

section Commands

variable (redis : Redis) (now : ℚ) (key : String)

def live : Option Counter :=
  (redis key).filter fun counter => counter.expiresAt.all fun expiresAt => now < expiresAt

/-- `tonumber(redis.call("GET", key) or "0")`. -/
def count : Nat :=
  match live redis now key with
  | some counter => counter.value
  | none => 0

/-- `INCR`, which leaves the time to live alone. -/
def incr : Redis :=
  Function.update redis key
    (some ⟨count redis now key + 1, (live redis now key).bind Counter.expiresAt⟩)

def expire (seconds : Nat) : Redis :=
  Function.update redis key
    ((live redis now key).map fun counter => { counter with expiresAt := some (now + seconds) })

def charge (window : Nat) : Redis :=
  expire (incr redis now key) now key (window * 2)

end Commands

/-! ## The scripts -/

/-- A tier of the limit: the keys of its counters, its window in seconds, and its limit. -/
structure Tier where
  keyPrefix : String
  window : Nat
  limit : Nat
  window_pos : 0 < window
deriving DecidableEq

/-- `prefix .. ":" .. window`. -/
def counterKey (keyPrefix : String) (window : Int) : String :=
  keyPrefix ++ ":" ++ toString window

section Scripts

variable (redis : Redis) (now : ℚ) (tier : Tier)

def currentWindow : Int :=
  ⌊now / tier.window⌋

/-- The counter of that window. -/
def currentKey : String :=
  counterKey tier.keyPrefix (currentWindow now tier)

/-- How many requests there were in about the last window's length. -/
def estimated : Int :=
  let previousKey := counterKey tier.keyPrefix (currentWindow now tier - 1)
  let currentCount := count redis now (currentKey now tier)
  let previousCount := count redis now previousKey
  let elapsed := now - currentWindow now tier * tier.window
  let weight := (tier.window - elapsed) / tier.window
  ⌊previousCount * weight + currentCount⌋

/-- `sliding_window_rate_limit.lua`. -/
def slidingWindowRateLimit : Redis × Int :=
  let estimated := estimated redis now tier
  if estimated < tier.limit then
    (charge redis now (currentKey now tier) tier.window, tier.limit - estimated - 1)
  else (redis, -1)

/-- What the first loop of the script keeps of a tier that has room. -/
structure Checked where
  currentKey : String
  window : Nat
  remaining : Int

/-- The first loop: the tiers that have room, or the index of the first one that has none. -/
def checkTiers (redis : Redis) (now : ℚ) : Nat → List Tier → Except Nat (List Checked)
  | _, [] => .ok []
  | index, tier :: tiers =>
      let estimated := estimated redis now tier
      if tier.limit ≤ estimated then .error index
      else
        (checkTiers redis now (index + 1) tiers).map fun checked =>
          ⟨currentKey now tier, tier.window, tier.limit - estimated - 1⟩ :: checked

/-- `multi_tier_rate_limit.lua`. -/
def multiTierRateLimit (tiers : List Tier) : Redis × List Int :=
  match checkTiers redis now 1 tiers with
  | .error index => (redis, [(index : Int)])
  | .ok checked =>
      (checked.foldl (fun redis tier => charge redis now tier.currentKey tier.window) redis,
        0 :: checked.map Checked.remaining)

/-- The request is let through. -/
def Admits (reply : List Int) : Prop :=
  reply.head? = some 0

instance (reply : List Int) : Decidable (Admits reply) :=
  inferInstanceAs (Decidable (_ = _))

end Scripts

/-! ## Counters -/

section Counters

variable {redis : Redis} {now : ℚ} {key other : String} {window : Nat} {tier : Tier}

theorem live_incr :
    live (incr redis now key) now key =
      some ⟨count redis now key + 1, (live redis now key).bind Counter.expiresAt⟩ := by
  unfold incr
  rw [live, Function.update_self]
  cases found : live redis now key with
  | none => rfl
  | some counter =>
      have alive := (Option.filter_eq_some_iff.1 found).2
      simp only [Option.bind_some, Option.filter, alive, if_true]

theorem charge_self :
    charge redis now key window key =
      some ⟨count redis now key + 1, some (now + (window * 2 : Nat))⟩ := by
  unfold charge expire
  rw [Function.update_self, live_incr]
  rfl

theorem charge_of_ne (different : other ≠ key) :
    charge redis now key window other = redis other := by
  unfold charge expire incr
  rw [Function.update_of_ne different, Function.update_of_ne different]

theorem count_charge_self (positive : 0 < window) :
    count (charge redis now key window) now key = count redis now key + 1 := by
  have later : now < now + ((window * 2 : Nat) : ℚ) := by
    have seconds : (0 : ℚ) < ((window * 2 : Nat) : ℚ) := by
      exact_mod_cast Nat.mul_pos positive (Nat.zero_lt_succ 1)
    linarith
  have alive : live (charge redis now key window) now key =
      some ⟨count redis now key + 1, some (now + (window * 2 : Nat))⟩ := by
    unfold live
    rw [charge_self]
    exact Option.filter_eq_some_iff.2 ⟨rfl, decide_eq_true later⟩
  rw [count, alive]

theorem count_congr {first second : Redis} (same : first key = second key) :
    count first now key = count second now key := by
  unfold count live
  rw [same]

theorem count_le_estimated :
    (count redis now (currentKey now tier) : Int) ≤ estimated redis now tier := by
  have positive : (0 : ℚ) < tier.window := by
    exact_mod_cast tier.window_pos
  have inWindow : now - currentWindow now tier * tier.window ≤ tier.window := by
    have floored : now / tier.window < currentWindow now tier + 1 := Int.lt_floor_add_one _
    rw [div_lt_iff₀ positive] at floored
    linarith
  have weighted : (0 : ℚ) ≤ (tier.window - (now - currentWindow now tier * tier.window)) /
      tier.window :=
    div_nonneg (by linarith) positive.le
  unfold estimated
  apply Int.le_floor.2
  have previous := mul_nonneg (Nat.cast_nonneg
    (count redis now (counterKey tier.keyPrefix (currentWindow now tier - 1)))) weighted
  push_cast
  linarith

end Counters

/-! ## Keys -/

theorem colon_notMem_toString (window : Int) : ':' ∉ (toString window).toList := by
  have digits : ∀ number : Nat, ':' ∉ number.repr.toList := by
    intro number member
    have isDigit := Nat.isDigit_of_mem_toDigits (by decide) (by decide)
      (String.toList_ofList ▸ member)
    exact absurd isDigit (by decide)
  have printed : toString window = window.repr := rfl
  rw [printed, Int.repr_eq_if]
  by_cases nonneg : 0 ≤ window
  · rw [if_pos nonneg]
    exact digits _
  · rw [if_neg nonneg, String.toList_append, List.mem_append, not_or]
    exact ⟨by decide, digits _⟩

theorem append_colon_inj {first second window other : List Char} (windowPlain : ':' ∉ window)
    (otherPlain : ':' ∉ other) (same : first ++ ':' :: window = second ++ ':' :: other) :
    first = second ∧ window = other := by
  rcases List.append_eq_append_iff.1 same with ⟨between, rfl, rest⟩ | ⟨between, rfl, rest⟩
  · cases between with
    | nil => exact ⟨(List.append_nil _).symm, (List.cons.inj rest).2⟩
    | cons character between =>
        have inWindow := (List.cons.inj rest).2
        rw [inWindow] at windowPlain
        exact absurd (List.mem_append_right between List.mem_cons_self) windowPlain
  · cases between with
    | nil => exact ⟨List.append_nil _, (List.cons.inj rest).2.symm⟩
    | cons character between =>
        have inOther := (List.cons.inj rest).2
        rw [inOther] at otherPlain
        exact absurd (List.mem_append_right between List.mem_cons_self) otherPlain

theorem counterKey_inj {first second : String} {window other : Int} :
    counterKey first window = counterKey second other ↔ first = second ∧ window = other := by
  constructor
  · intro same
    have characters := congrArg String.toList same
    have colon : (":" : String).toList = [':'] := rfl
    simp only [counterKey, String.toList_append, colon, List.append_assoc, List.singleton_append]
      at characters
    obtain ⟨prefixes, windows⟩ := append_colon_inj (colon_notMem_toString window)
      (colon_notMem_toString other) characters
    exact ⟨String.toList_injective prefixes, Int.repr_injective (String.toList_injective windows)⟩
  · rintro ⟨rfl, rfl⟩
    rfl

/-! ## One call -/

section Calls

variable {redis : Redis} {now : ℚ} {tier : Tier} {tiers : List Tier}

/-- The tier has room for the request. -/
def HasRoom (redis : Redis) (now : ℚ) (tier : Tier) : Prop :=
  estimated redis now tier < tier.limit

instance : Decidable (HasRoom redis now tier) :=
  inferInstanceAs (Decidable (_ < _))

def checkedOf (redis : Redis) (now : ℚ) (tier : Tier) : Checked :=
  ⟨currentKey now tier, tier.window, tier.limit - estimated redis now tier - 1⟩

theorem slidingWindowRateLimit_of_hasRoom (room : HasRoom redis now tier) :
    slidingWindowRateLimit redis now tier =
      (charge redis now (currentKey now tier) tier.window, (checkedOf redis now tier).remaining) :=
  if_pos room

theorem remaining_nonneg (room : HasRoom redis now tier) :
    0 ≤ (checkedOf redis now tier).remaining := by
  unfold HasRoom at room
  simp only [checkedOf]
  omega

theorem slidingWindowRateLimit_nonneg_iff :
    0 ≤ (slidingWindowRateLimit redis now tier).2 ↔ HasRoom redis now tier := by
  by_cases room : HasRoom redis now tier
  · rw [slidingWindowRateLimit_of_hasRoom room]
    exact iff_of_true (remaining_nonneg room) room
  · have refused : slidingWindowRateLimit redis now tier = (redis, -1) := if_neg room
    rw [refused]
    exact iff_of_false (fun nonneg : (0 : Int) ≤ -1 => absurd nonneg (by decide)) room

theorem checkTiers_of_hasRoom (index : Nat) (room : ∀ tier ∈ tiers, HasRoom redis now tier) :
    checkTiers redis now index tiers = .ok (tiers.map (checkedOf redis now)) := by
  induction tiers generalizing index with
  | nil => rfl
  | cons tier tiers ih =>
      have first : ¬ (tier.limit : Int) ≤ estimated redis now tier :=
        not_le.2 (room tier List.mem_cons_self)
      rw [checkTiers, if_neg first,
        ih (index + 1) fun other member => room other (List.mem_cons_of_mem tier member)]
      rfl

theorem checkTiers_of_not_hasRoom (index : Nat) (full : ¬ ∀ tier ∈ tiers, HasRoom redis now tier) :
    ∃ failed, index ≤ failed ∧ checkTiers redis now index tiers = .error failed := by
  induction tiers generalizing index with
  | nil => exact absurd (fun tier member => absurd member List.not_mem_nil) full
  | cons tier tiers ih =>
      by_cases first : (tier.limit : Int) ≤ estimated redis now tier
      · exact ⟨index, Nat.le_refl index, by rw [checkTiers, if_pos first]⟩
      · have others : ¬ ∀ tier ∈ tiers, HasRoom redis now tier := by
          intro room
          apply full
          intro other member
          rcases List.mem_cons.1 member with rfl | later
          · exact not_le.1 first
          · exact room other later
        obtain ⟨failed, le, fails⟩ := ih (index + 1) others
        refine ⟨failed, by omega, ?_⟩
        rw [checkTiers, if_neg first, fails]
        rfl

theorem multiTierRateLimit_of_not_hasRoom (full : ¬ ∀ tier ∈ tiers, HasRoom redis now tier) :
    (multiTierRateLimit redis now tiers).1 = redis ∧
      ¬ Admits (multiTierRateLimit redis now tiers).2 := by
  obtain ⟨failed, positive, fails⟩ := checkTiers_of_not_hasRoom 1 full
  unfold multiTierRateLimit
  rw [fails]
  refine ⟨rfl, fun admits => ?_⟩
  have zero : (failed : Int) = 0 := Option.some.inj admits
  omega

theorem multiTierRateLimit_of_hasRoom (room : ∀ tier ∈ tiers, HasRoom redis now tier) :
    multiTierRateLimit redis now tiers =
      (tiers.foldl (fun redis tier => charge redis now (currentKey now tier) tier.window) redis,
        0 :: tiers.map fun tier => (checkedOf redis now tier).remaining) := by
  unfold multiTierRateLimit
  rw [checkTiers_of_hasRoom 1 room]
  simp only [List.foldl_map, List.map_map]
  rfl

theorem admits_iff :
    Admits (multiTierRateLimit redis now tiers).2 ↔ ∀ tier ∈ tiers, HasRoom redis now tier := by
  constructor
  · intro admits
    by_contra full
    exact (multiTierRateLimit_of_not_hasRoom full).2 admits
  · intro room
    rw [multiTierRateLimit_of_hasRoom room]
    rfl

theorem foldl_charge_of_notMem {key : String} (others : ∀ tier ∈ tiers, key ≠ currentKey now tier) :
    tiers.foldl (fun redis tier => charge redis now (currentKey now tier) tier.window) redis key =
      redis key := by
  induction tiers generalizing redis with
  | nil => rfl
  | cons tier tiers ih =>
      rw [List.foldl_cons, ih fun other member => others other (List.mem_cons_of_mem tier member)]
      exact charge_of_ne (others tier List.mem_cons_self)

theorem charge_congr {first second : Redis} {key : String} {window : Nat}
    (same : first key = second key) :
    charge first now key window key = charge second now key window key := by
  rw [charge_self, charge_self, count_congr same]

theorem foldl_charge_of_mem (distinct : (tiers.map Tier.keyPrefix).Nodup) (member : tier ∈ tiers) :
    tiers.foldl (fun redis tier => charge redis now (currentKey now tier) tier.window) redis
        (currentKey now tier) =
      charge redis now (currentKey now tier) tier.window (currentKey now tier) := by
  induction tiers generalizing redis with
  | nil => exact absurd member List.not_mem_nil
  | cons first tiers ih =>
      rw [List.map_cons, List.nodup_cons] at distinct
      rw [List.foldl_cons]
      rcases List.mem_cons.1 member with rfl | later
      · apply foldl_charge_of_notMem
        intro other otherMember same
        have samePrefix := (counterKey_inj.1 same).1
        exact distinct.1 (samePrefix ▸ List.mem_map_of_mem otherMember)
      · rw [ih distinct.2 later]
        apply charge_congr
        apply charge_of_ne
        intro same
        have samePrefix := (counterKey_inj.1 same).1
        exact distinct.1 (samePrefix ▸ List.mem_map_of_mem later)

end Calls

/-! ## Runs -/

/-- A request that is checked, and its time. -/
structure Call where
  tiers : List Tier
  now : ℚ

/-- The call goes by the scripts for its single tiers. -/
structure RefinesTiers (redis : Redis) (call : Call) : Prop where
  admits_iff : Admits (multiTierRateLimit redis call.now call.tiers).2 ↔
    ∀ tier ∈ call.tiers, 0 ≤ (slidingWindowRateLimit redis call.now tier).2
  rejected : ¬ Admits (multiTierRateLimit redis call.now call.tiers).2 →
    (multiTierRateLimit redis call.now call.tiers).1 = redis
  remaining : Admits (multiTierRateLimit redis call.now call.tiers).2 →
    ∀ remaining ∈ (multiTierRateLimit redis call.now call.tiers).2, 0 ≤ remaining
  counted : (call.tiers.map Tier.keyPrefix).Nodup →
    Admits (multiTierRateLimit redis call.now call.tiers).2 → ∀ tier ∈ call.tiers,
      count (multiTierRateLimit redis call.now call.tiers).1 call.now (currentKey call.now tier) =
        count redis call.now (currentKey call.now tier) + 1

theorem refinesTiers (redis : Redis) (call : Call) : RefinesTiers redis call where
  admits_iff := by
    simp only [slidingWindowRateLimit_nonneg_iff]
    exact admits_iff
  rejected := by
    intro refused
    exact (multiTierRateLimit_of_not_hasRoom (fun room => refused (admits_iff.2 room))).1
  remaining := by
    intro admits remaining member
    have room := admits_iff.1 admits
    rw [multiTierRateLimit_of_hasRoom room] at member
    rcases List.mem_cons.1 member with rfl | isRemaining
    · exact Int.le_refl 0
    · obtain ⟨tier, tierMember, rfl⟩ := List.mem_map.1 isRemaining
      exact remaining_nonneg (room tier tierMember)
  counted := by
    intro distinct admits tier member
    rw [multiTierRateLimit_of_hasRoom (admits_iff.1 admits),
      count_congr (foldl_charge_of_mem distinct member), count_charge_self tier.window_pos]

def admittedIn (tier : Tier) (window : Int) : Redis → List Call → Nat
  | _, [] => 0
  | redis, call :: calls =>
      let (after, reply) := multiTierRateLimit redis call.now call.tiers
      (if Admits reply ∧ tier ∈ call.tiers ∧ currentWindow call.now tier = window then 1 else 0) +
        admittedIn tier window after calls

section Bounds

variable {redis : Redis} {now : ℚ} {tier : Tier} {window : Int}

/-- What is counted for a window in a counter that lasts until the window is over. -/
def spent (redis : Redis) (tier : Tier) (window : Int) : Nat :=
  match redis (counterKey tier.keyPrefix window) with
  | some counter =>
      if counter.expiresAt.all fun expiresAt => ((window : ℚ) + 1) * tier.window ≤ expiresAt then
        counter.value
      else 0
  | none => 0

theorem spent_congr {first second : Redis}
    (same : first (counterKey tier.keyPrefix window) = second (counterKey tier.keyPrefix window)) :
    spent first tier window = spent second tier window := by
  unfold spent
  rw [same]

theorem spent_le_count (inWindow : currentWindow now tier = window) :
    spent redis tier window ≤ count redis now (currentKey now tier) := by
  have ends : now < ((window : ℚ) + 1) * tier.window := by
    have floored : now / tier.window < currentWindow now tier + 1 := Int.lt_floor_add_one _
    rw [inWindow] at floored
    exact (div_lt_iff₀ (by exact_mod_cast tier.window_pos)).1 floored
  have key : currentKey now tier = counterKey tier.keyPrefix window := by
    rw [currentKey, inWindow]
  unfold spent count live
  rw [key]
  cases redis (counterKey tier.keyPrefix window) with
  | none => exact Nat.zero_le _
  | some counter =>
      by_cases lasts : counter.expiresAt.all fun expiresAt =>
          ((window : ℚ) + 1) * tier.window ≤ expiresAt
      · have alive : counter.expiresAt.all (fun expiresAt => decide (now < expiresAt)) = true := by
          rw [Option.all_eq_true] at lasts ⊢
          intro expiresAt isExpiry
          exact decide_eq_true (ends.trans_le (of_decide_eq_true (lasts expiresAt isExpiry)))
        simp [lasts, Option.filter, alive]
      · simp [lasts]

theorem spent_charge (inWindow : currentWindow now tier = window) :
    spent (charge redis now (currentKey now tier) tier.window) tier window =
      count redis now (currentKey now tier) + 1 := by
  have begins : (window : ℚ) * tier.window ≤ now := by
    have floored : (currentWindow now tier : ℚ) ≤ now / tier.window := Int.floor_le _
    rw [inWindow] at floored
    exact (le_div_iff₀ (by exact_mod_cast tier.window_pos)).1 floored
  have positive : (0 : ℚ) < tier.window := by
    exact_mod_cast tier.window_pos
  have key : currentKey now tier = counterKey tier.keyPrefix window := by
    rw [currentKey, inWindow]
  have lasts : ((window : ℚ) + 1) * tier.window ≤ now + ((tier.window * 2 : Nat) : ℚ) := by
    push_cast
    linarith
  rw [spent, ← key, charge_self]
  simp only [Option.all_some, decide_eq_true lasts, if_true]

theorem count_le_count_charge {key : String} {length : Nat} (positive : 0 < length)
    (other : String) : count redis now other ≤ count (charge redis now key length) now other := by
  by_cases same : other = key
  · rw [same, count_charge_self positive]
    exact Nat.le_succ _
  · exact (count_congr (charge_of_ne same)).ge

theorem spent_le_spent_charge {other : Tier}
    (sameWindow : other.keyPrefix = tier.keyPrefix → other.window = tier.window) :
    spent redis tier window ≤
      spent (charge redis now (currentKey now other) other.window) tier window := by
  by_cases same : counterKey tier.keyPrefix window = currentKey now other
  · obtain ⟨samePrefix, inWindow⟩ := counterKey_inj.1 same
    have length := sameWindow samePrefix.symm
    have key : currentKey now other = currentKey now tier := by
      rw [currentKey, currentKey, currentWindow, currentWindow, length, samePrefix]
    have isCurrent : currentWindow now tier = window := by
      rw [inWindow, currentWindow, currentWindow, length]
    rw [key, length, spent_charge isCurrent]
    exact (spent_le_count isCurrent).trans (Nat.le_succ _)
  · exact (spent_congr (charge_of_ne same)).ge

/-- Where a prefix stands for one window, no charge takes anything back. -/
theorem spent_le_spent_foldl {tiers : List Tier}
    (sameWindow : ∀ other ∈ tiers, other.keyPrefix = tier.keyPrefix →
      other.window = tier.window) :
    spent redis tier window ≤ spent
      (tiers.foldl (fun redis tier => charge redis now (currentKey now tier) tier.window) redis)
      tier window := by
  induction tiers generalizing redis with
  | nil => exact Nat.le_refl _
  | cons first tiers ih =>
      obtain ⟨atFirst, later⟩ := List.forall_mem_cons.1 sameWindow
      exact (spent_le_spent_charge atFirst).trans (ih later)

theorem count_lt_spent_foldl {tiers : List Tier} (member : tier ∈ tiers)
    (inWindow : currentWindow now tier = window)
    (sameWindow : ∀ other ∈ tiers, other.keyPrefix = tier.keyPrefix →
      other.window = tier.window) :
    count redis now (currentKey now tier) < spent
      (tiers.foldl (fun redis tier => charge redis now (currentKey now tier) tier.window) redis)
      tier window := by
  induction tiers generalizing redis with
  | nil => exact absurd member List.not_mem_nil
  | cons first tiers ih =>
      have later := (List.forall_mem_cons.1 sameWindow).2
      rw [List.foldl_cons]
      rcases List.mem_cons.1 member with rfl | isLater
      · have kept := @spent_le_spent_foldl
          (charge redis now (currentKey now tier) tier.window) now tier window tiers later
        rw [spent_charge inWindow] at kept
        exact kept
      · exact (count_le_count_charge first.window_pos _).trans_lt (ih isLater later)

theorem spent_le_spent_multiTierRateLimit {tiers : List Tier}
    (sameWindow : ∀ other ∈ tiers, other.keyPrefix = tier.keyPrefix →
      other.window = tier.window) :
    spent redis tier window ≤ spent (multiTierRateLimit redis now tiers).1 tier window := by
  by_cases room : ∀ tier ∈ tiers, HasRoom redis now tier
  · rw [multiTierRateLimit_of_hasRoom room]
    exact spent_le_spent_foldl sameWindow
  · rw [(multiTierRateLimit_of_not_hasRoom room).1]

theorem admittedIn_le (calls : List Call)
    (sameWindow : ∀ call ∈ calls, ∀ other ∈ call.tiers,
      other.keyPrefix = tier.keyPrefix → other.window = tier.window) :
    admittedIn tier window redis calls ≤ tier.limit - spent redis tier window := by
  induction calls generalizing redis with
  | nil => exact Nat.zero_le _
  | cons call calls ih =>
      obtain ⟨atCall, afterwards⟩ := List.forall_mem_cons.1 sameWindow
      have later : admittedIn tier window (multiTierRateLimit redis call.now call.tiers).1 calls ≤
          tier.limit - spent (multiTierRateLimit redis call.now call.tiers).1 tier window :=
        ih afterwards
      rw [admittedIn]
      by_cases counts : Admits (multiTierRateLimit redis call.now call.tiers).2 ∧
          tier ∈ call.tiers ∧ currentWindow call.now tier = window
      · obtain ⟨admits, member, inWindow⟩ := counts
        have room := admits_iff.1 admits
        have before : spent redis tier window ≤ count redis call.now (currentKey call.now tier) :=
          spent_le_count inWindow
        have counted : (count redis call.now (currentKey call.now tier) : Int) < tier.limit :=
          lt_of_le_of_lt count_le_estimated (room tier member)
        have after : count redis call.now (currentKey call.now tier) <
            spent (multiTierRateLimit redis call.now call.tiers).1 tier window := by
          rw [multiTierRateLimit_of_hasRoom room]
          exact count_lt_spent_foldl member inWindow atCall
        simp only [admits, member, inWindow, and_self, if_true]
        omega
      · have kept : spent redis tier window ≤
            spent (multiTierRateLimit redis call.now call.tiers).1 tier window :=
          spent_le_spent_multiTierRateLimit atCall
        simp only [counts, if_false]
        omega

end Bounds

/-- A prefix stands for one window throughout. -/
def OneWindowPerPrefix (calls : List Call) : Prop :=
  ∀ call ∈ calls, ∀ tier ∈ call.tiers, ∀ later ∈ calls, ∀ other ∈ later.tiers,
    other.keyPrefix = tier.keyPrefix → other.window = tier.window

/-- The script for several tiers goes by the script for single ones, and where a prefix stands for
one window, no window of a tier ever gets more requests than its limit. -/
theorem multiTierRateLimit_refines (redis : Redis) (calls : List Call) :
    (∀ call ∈ calls, ∀ state, RefinesTiers state call) ∧
      (OneWindowPerPrefix calls → ∀ call ∈ calls, ∀ tier ∈ call.tiers, ∀ window,
        admittedIn tier window redis calls ≤ tier.limit) := by
  constructor
  · intro call member state
    exact refinesTiers state call
  · intro oneWindow call member tier isTier window
    have left : admittedIn tier window redis calls ≤ _ :=
      admittedIn_le calls (oneWindow call member tier isTier)
    exact left.trans (Nat.sub_le _ _)

/-! ## The tiers of a webhook -/

/-- The configured limits; a limit that is not positive is off. -/
structure SecurityConfig where
  perMinute : Int
  burst : Int
  globalPerMinute : Int

private theorem burstWindow_pos : 0 < 10 := by
  decide

private theorem sustainedWindow_pos : 0 < 60 := by
  decide

/-- The tiers that `enforce_webhook_rate_limit` checks for a client. -/
def webhookTiers (security : SecurityConfig) (clientIp : String) : List Tier :=
  [⟨"rl:b:" ++ clientIp, 10, security.burst.toNat, burstWindow_pos⟩,
    ⟨"rl:s:" ++ clientIp, 60, security.perMinute.toNat, sustainedWindow_pos⟩,
    ⟨"rl:g", 60, security.globalPerMinute.toNat, sustainedWindow_pos⟩].filter
      fun tier => 0 < tier.limit

section Webhooks

variable {security : SecurityConfig} {clientIp otherIp : String}

private theorem burst_ne_sustained : "rl:b:" ++ clientIp ≠ "rl:s:" ++ otherIp := by
  intro same
  have characters := congrArg String.toList same
  simp at characters

private theorem burst_ne_global : "rl:b:" ++ clientIp ≠ "rl:g" := by
  intro same
  have characters := congrArg String.toList same
  simp at characters

private theorem sustained_ne_global : "rl:s:" ++ clientIp ≠ "rl:g" := by
  intro same
  have characters := congrArg String.toList same
  simp at characters

theorem webhookTiers_distinct :
    ((webhookTiers security clientIp).map Tier.keyPrefix).Nodup := by
  apply List.Nodup.sublist (List.Sublist.map Tier.keyPrefix List.filter_sublist)
  simp [burst_ne_global, sustained_ne_global]

theorem webhookTiers_sameWindow {tier other : Tier}
    (member : tier ∈ webhookTiers security clientIp)
    (otherMember : other ∈ webhookTiers security otherIp)
    (same : other.keyPrefix = tier.keyPrefix) : other.window = tier.window := by
  have kinds := List.mem_of_mem_filter member
  have otherKinds := List.mem_of_mem_filter otherMember
  simp only [List.mem_cons, List.not_mem_nil, or_false] at kinds otherKinds
  rcases kinds with rfl | rfl | rfl <;> rcases otherKinds with rfl | rfl | rfl
  · rfl
  · exact absurd same.symm burst_ne_sustained
  · exact absurd same.symm burst_ne_global
  · exact absurd same burst_ne_sustained
  · rfl
  · exact absurd same.symm sustained_ne_global
  · exact absurd same burst_ne_global
  · exact absurd same sustained_ne_global
  · rfl

end Webhooks

/-! ## Any span of time -/

/-- How many requests of a run are let through for a tier in a span of its window's length. -/
def admittedSince (tier : Tier) (start : ℚ) : Redis → List Call → Nat
  | _, [] => 0
  | redis, call :: calls =>
      let (after, reply) := multiTierRateLimit redis call.now call.tiers
      (if Admits reply ∧ tier ∈ call.tiers ∧ start ≤ call.now ∧ call.now < start + tier.window
        then 1 else 0) + admittedSince tier start after calls

theorem currentWindow_of_span {tier : Tier} {start now : ℚ} (begun : start ≤ now)
    (lasts : now < start + tier.window) :
    currentWindow now tier = currentWindow start tier ∨
      currentWindow now tier = currentWindow start tier + 1 := by
  have positive : (0 : ℚ) < tier.window := by
    exact_mod_cast tier.window_pos
  have notEarlier : currentWindow start tier ≤ currentWindow now tier :=
    Int.floor_le_floor (div_le_div_of_nonneg_right begun positive.le)
  have notLater : currentWindow now tier < currentWindow start tier + 2 := by
    have next := Int.lt_floor_add_one (start / tier.window)
    have scaled : now / tier.window < start / tier.window + 1 := by
      rw [div_lt_iff₀ positive, add_mul, one_mul, div_mul_cancel₀ start positive.ne']
      exact lasts
    apply Int.floor_lt.2
    unfold currentWindow
    push_cast
    linarith
  omega

theorem admittedSince_le (tier : Tier) (start : ℚ) (redis : Redis) (calls : List Call) :
    admittedSince tier start redis calls ≤
      admittedIn tier (currentWindow start tier) redis calls +
        admittedIn tier (currentWindow start tier + 1) redis calls := by
  induction calls generalizing redis with
  | nil => exact Nat.zero_le _
  | cons call calls ih =>
      have later := ih (multiTierRateLimit redis call.now call.tiers).1
      rw [admittedSince, admittedIn, admittedIn]
      by_cases counts : Admits (multiTierRateLimit redis call.now call.tiers).2 ∧
          tier ∈ call.tiers ∧ start ≤ call.now ∧ call.now < start + tier.window
      · obtain ⟨admits, member, begun, lasts⟩ := counts
        rcases currentWindow_of_span begun lasts with first | second
        · simp only [admits, member, begun, lasts, first, and_self, if_true]
          omega
        · simp only [admits, member, begun, lasts, second, and_self, if_true]
          omega
      · simp only [counts, if_false]
        omega

def webhookCalls (security : SecurityConfig) (requests : List (String × ℚ)) : List Call :=
  requests.map fun request => ⟨webhookTiers security request.1, request.2⟩

/-- In exact arithmetic, whatever the clients send and when, and whatever Redis holds at first, in
no span of a tier's window more requests are let through for the tier than twice its limit. -/
theorem webhooks_admittedSince_le {security : SecurityConfig} {clientIp : String} {tier : Tier}
    (isTier : tier ∈ webhookTiers security clientIp) (start : ℚ) (redis : Redis)
    (requests : List (String × ℚ)) :
    admittedSince tier start redis (webhookCalls security requests) ≤ 2 * tier.limit := by
  have ofClient : ∀ call ∈ webhookCalls security requests,
      ∃ clientIp, call.tiers = webhookTiers security clientIp := by
    intro call member
    obtain ⟨request, _, rfl⟩ := List.mem_map.1 member
    exact ⟨request.1, rfl⟩
  have inWindow (window : Int) :
      admittedIn tier window redis (webhookCalls security requests) ≤ tier.limit := by
    refine (admittedIn_le _ fun call member other isOther => ?_).trans (Nat.sub_le _ _)
    obtain ⟨client, tiers⟩ := ofClient call member
    exact webhookTiers_sameWindow isTier (tiers ▸ isOther)
  have split := admittedSince_le tier start redis (webhookCalls security requests)
  have first := inWindow (currentWindow start tier)
  have second := inWindow (currentWindow start tier + 1)
  omega

/-! ## Calls of a client, and tiers that share a counter -/

def sampleSecurity : SecurityConfig :=
  ⟨60, 3, 100⟩

/-- Two tiers with one prefix, and with limits of their own. -/
def sharedTiers : List Tier :=
  [⟨"shared", 60, 5, sustainedWindow_pos⟩, ⟨"shared", 60, 4, sustainedWindow_pos⟩]

def sampleCalls : List Call :=
  [⟨webhookTiers sampleSecurity "10.0.0.1", 5⟩, ⟨sharedTiers, 7⟩, ⟨sharedTiers, 8⟩]

theorem multiTierRateLimit_refines_sampleCalls :
    (∀ tier ∈ webhookTiers sampleSecurity "10.0.0.1",
      count (multiTierRateLimit (fun _ => none) 5 (webhookTiers sampleSecurity "10.0.0.1")).1 5
        (currentKey 5 tier) = 1) ∧
      ∀ call ∈ sampleCalls, ∀ tier ∈ call.tiers, ∀ window,
        admittedIn tier window (fun _ => none) sampleCalls ≤ tier.limit := by
  obtain ⟨refines, bounded⟩ := multiTierRateLimit_refines (fun _ => none) sampleCalls
  constructor
  · exact (refines _ List.mem_cons_self fun _ => none).counted
      (@webhookTiers_distinct sampleSecurity "10.0.0.1") (by decide +kernel)
  · refine bounded ?_
    unfold OneWindowPerPrefix
    decide +kernel

theorem global_admittedSince_le :
    admittedSince ⟨"rl:g", 60, 100, sustainedWindow_pos⟩ 30 (fun _ => none)
      (webhookCalls sampleSecurity [("10.0.0.1", 5), ("10.0.0.2", 75)]) ≤ 2 * 100 :=
  webhooks_admittedSince_le (by decide : _ ∈ webhookTiers sampleSecurity "10.0.0.1") 30 _ _

/-- A tier of a minute and one of a second, with one prefix. -/
def minuteTier : Tier :=
  ⟨"shared", 60, 1, sustainedWindow_pos⟩

def secondTier : Tier :=
  ⟨"shared", 1, 9, Nat.one_pos⟩

/-- A counter that two tiers share is counted twice for one request; and if their windows differ,
the shorter one has the counter expire while the longer one still needs it. -/
theorem shared_counter_counts_twice :
    (¬ ∀ (redis : Redis) (now : ℚ) (tiers : List Tier),
      Admits (multiTierRateLimit redis now tiers).2 → ∀ tier ∈ tiers,
        count (multiTierRateLimit redis now tiers).1 now (currentKey now tier) =
          count redis now (currentKey now tier) + 1) ∧
      ¬ ∀ (redis : Redis) (calls : List Call), ∀ call ∈ calls, ∀ tier ∈ call.tiers, ∀ window,
        admittedIn tier window redis calls ≤ tier.limit := by
  constructor
  · intro counted
    have once := counted (fun _ => none) 0 sharedTiers (by decide +kernel)
      ⟨"shared", 60, 5, sustainedWindow_pos⟩ List.mem_cons_self
    exact absurd once (by decide +kernel)
  · intro bounded
    have within := bounded (fun _ => none) [⟨[minuteTier], 0⟩, ⟨[secondTier], 0⟩, ⟨[minuteTier], 3⟩]
      _ List.mem_cons_self minuteTier List.mem_cons_self 0
    exact absurd within (by decide +kernel)

end RateLimits

end WebhookWise
