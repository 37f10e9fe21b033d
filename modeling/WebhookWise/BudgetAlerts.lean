import WebhookWise.ProcessingGate
import WebhookWise.GuardedRuns
import Mathlib.Data.List.Basic

/-!
# The alerts of the AI budget

The daily check compares the spend of the month with the budget, claims the highest tier that is
crossed, and sends its card with a few attempts.  Checks of several processes interleave; the
claim of a tier is a Redis key which outlives the month, and a send that fails leaves it.
-/

namespace WebhookWise

open GuardedRuns

namespace BudgetAlerts

open ProcessingGate (ExpiringKey stored setNxEx setNxEx_of_none setNxEx_of_some)

/-! ## The check -/

inductive Tier where
  | warning
  | critical
deriving DecidableEq

/-- What a check reads: amounts are counted in the smallest step of a float. -/
structure CheckInputs where
  budget : Int
  warnThreshold : Int
  spent : Int
  webhookUrl : String

/-- The highest tier that is crossed; none when the check skips before its claim. -/
def highestTier (inputs : CheckInputs) : Option Tier :=
  if inputs.budget ≤ 0 then none
  else if inputs.webhookUrl = "" then none
  else if inputs.budget ≤ inputs.spent then some .critical
  else if inputs.warnThreshold ≤ inputs.spent then some .warning
  else none

/-- How one attempt to send the card ends; an exception ends the send as a permanent failure
does. -/
inductive SendResult where
  | success
  | permanent
  | transient

def reportSendMaxAttempts : Nat := 4

/-- `_send_report_with_retry`, from one attempt on, with the number of attempts left. -/
def sendsFrom (results : Nat → SendResult) : Nat → Nat → Bool
  | 0, _ => false
  | left + 1, attempt =>
      match results attempt with
      | .success => true
      | .permanent => false
      | .transient => sendsFrom results left (attempt + 1)

def wouldSucceed (sends : Nat → Nat → SendResult) (call : Nat) : Bool :=
  sendsFrom (sends call) reportSendMaxAttempts 0

def claimTtlSeconds : Int := 40 * 24 * 3600

/-! ## Interleavings -/

inductive Phase where
  | idle
  | priced (tier : Tier) (monthKey : String)
  | sending (tier : Tier) (left attempt : Nat)
  | done
deriving DecidableEq

/-- The claims in Redis and the calls, with who claimed each tier in order, winning or not, and
what was announced. -/
structure BudgetState where
  claims : String × Tier → Option (ExpiringKey Nat)
  phases : Nat → Phase
  claimants : List (Nat × Tier)
  announced : List (Nat × Tier)

def BudgetState.initial : BudgetState where
  claims _ := none
  phases _ := .idle
  claimants := []
  announced := []

inductive BudgetEvent where
  | price (call : Nat) (now : DateTime) (inputs : CheckInputs)
  | claim (call : Nat) (now : DateTime)
  | attempt (call : Nat)

def BudgetState.setPhase (state : BudgetState) (call : Nat) (phase : Phase) : BudgetState :=
  { state with phases := Function.update state.phases call phase }

def BudgetState.winner (state : BudgetState) (tier : Tier) : Option (Nat × Tier) :=
  state.claimants.find? fun claimant => claimant.2 = tier

section

variable (monthKey : DateTime → String) (sends : Nat → Nat → SendResult)

/-- `_claim_budget_tier`, and what follows it. -/
def claimTier (state : BudgetState) (call : Nat) (now : DateTime) (tier : Tier) (month : String) :
    BudgetState :=
  let (key, won) := setNxEx (state.claims (month, tier)) now call claimTtlSeconds
  { claims := Function.update state.claims (month, tier) key
    phases := Function.update state.phases call
      (if won then .sending tier reportSendMaxAttempts 0 else .done)
    claimants := state.claimants ++ [(call, tier)]
    announced := state.announced }

/-- One attempt of `_send_report_with_retry`. -/
def attemptSend (state : BudgetState) (call : Nat) (tier : Tier) (left attempt : Nat) :
    BudgetState :=
  match sends call attempt with
  | .success =>
      { state.setPhase call .done with announced := state.announced ++ [(call, tier)] }
  | .permanent => state.setPhase call .done
  | .transient =>
      if left ≤ 1 then state.setPhase call .done
      else state.setPhase call (.sending tier (left - 1) (attempt + 1))

def step (state : BudgetState) : BudgetEvent → BudgetState
  | .price call now inputs =>
      match state.phases call with
      | .idle =>
          match highestTier inputs with
          | some tier => state.setPhase call (.priced tier (monthKey now))
          | none => state.setPhase call .done
      | _ => state
  | .claim call now =>
      match state.phases call with
      | .priced tier month => claimTier state call now tier month
      | _ => state
  | .attempt call =>
      match state.phases call with
      | .sending tier left attempt => attemptSend sends state call tier left attempt
      | _ => state

end

/-! ## What is promised -/

def BudgetEvent.instant : BudgetEvent → Option DateTime
  | price _ now _ => some now
  | claim _ now => some now
  | attempt _ => none

/-- The instant lies in the month that begins at `monthStart`. -/
def InMonth (monthKey : DateTime → String) (month : String) (monthStart : DateTime)
    (event : BudgetEvent) : Prop :=
  ∀ now ∈ event.instant, monthKey now = month ∧ monthStart ≤ now ∧
    now < monthStart.addSeconds (31 * 24 * 3600)

/-- No tier is announced twice. -/
def AnnouncedOnce (state : BudgetState) : Prop :=
  ∀ tier, (state.announced.filter fun notice => notice.2 = tier).length ≤ 1

/-- The first check of a tier whose send succeeds, or would, announces it. -/
def AnnouncedByFirst (sends : Nat → Nat → SendResult) (state : BudgetState) : Prop :=
  ∀ earlier call tier later, state.claimants = earlier ++ (call, tier) :: later →
    wouldSucceed sends call = true →
    (∀ other, (other, tier) ∈ earlier → wouldSucceed sends other = false) →
      (call, tier) ∈ state.announced

/-- When the send of any check of a tier succeeds, or would, that of the first one does. -/
def FirstSucceeds (sends : Nat → Nat → SendResult) (state : BudgetState) : Prop :=
  ∀ call tier, (call, tier) ∈ state.claimants → wouldSucceed sends call = true →
    ∀ first ∈ state.winner tier, wouldSucceed sends first.1 = true

/-- Every send that was begun has ended. -/
def Finished (state : BudgetState) : Prop :=
  ∀ call tier left attempt, state.phases call ≠ .sending tier left attempt

/-! ## The invariant -/

variable {first : Nat × Tier}

section

variable (sends : Nat → Nat → SendResult) (month : String) (monthStart : DateTime)

/-- Within a month, the first check that claims a tier holds it to the end, and only its send is
ever tried. -/
structure Sound (state : BudgetState) : Prop where
  unclaimed : ∀ tier, state.winner tier = none → state.claims (month, tier) = none
  claimed : ∀ tier first, state.winner tier = some first →
    ∃ key, state.claims (month, tier) = some key ∧
      monthStart.addSeconds claimTtlSeconds ≤ key.expiresAt
  priced : ∀ call tier key, state.phases call = .priced tier key →
    key = month ∧ ∀ other, (call, other) ∉ state.claimants
  idle : ∀ call, state.phases call = .idle → ∀ other, (call, other) ∉ state.claimants
  sending : ∀ call tier left attempt, state.phases call = .sending tier left attempt →
    state.winner tier = some (call, tier) ∧ (call, tier) ∉ state.announced ∧ 0 < left ∧
      sendsFrom (sends call) left attempt = wouldSucceed sends call
  announced : ∀ call tier, (call, tier) ∈ state.announced →
    state.winner tier = some (call, tier) ∧ wouldSucceed sends call = true ∧
      state.phases call = .done
  nodup : state.announced.Nodup
  won : ∀ call tier, state.winner tier = some (call, tier) →
    (∃ left attempt, state.phases call = .sending tier left attempt) ∨
      state.phases call = .done ∧
        (wouldSucceed sends call = true → (call, tier) ∈ state.announced)

end

theorem BudgetState.winner_tier {state : BudgetState} {tier : Tier}
    (isWinner : state.winner tier = some first) : first = (first.1, tier) := by
  have sameTier := List.find?_some isWinner
  rw [decide_eq_true_eq] at sameTier
  rw [← sameTier]

theorem BudgetState.mem_of_winner {state : BudgetState} {tier : Tier}
    (isWinner : state.winner tier = some first) : first ∈ state.claimants :=
  List.mem_of_find?_eq_some isWinner

section

variable {sends : Nat → Nat → SendResult} {month : String} {monthStart : DateTime}
  {state : BudgetState} {call : Nat} {tier : Tier}

theorem sound_initial : Sound sends month monthStart .initial where
  unclaimed _ _ := rfl
  claimed _ _ isWinner := by cases isWinner
  priced _ _ _ isPriced := by cases isPriced
  idle _ _ _ member := by cases member
  sending _ _ _ _ isSending := by cases isSending
  announced _ _ member := by cases member
  nodup := List.nodup_nil
  won _ _ isWinner := by cases isWinner

theorem Sound.setPhase (sound : Sound sends month monthStart state) {phase : Phase}
    (unclaimed : ∀ other, (call, other) ∉ state.claimants)
    (notSending : ∀ tier left attempt, phase ≠ .sending tier left attempt)
    (isMonth : ∀ tier key, phase = .priced tier key → key = month) :
    Sound sends month monthStart (state.setPhase call phase) := by
  have elsewhere : ∀ {other : Nat}, other ≠ call →
      (state.setPhase call phase).phases other = state.phases other := fun apart =>
    Function.update_of_ne apart _ _
  have here : (state.setPhase call phase).phases call = phase := Function.update_self _ _ _
  constructor
  · exact sound.unclaimed
  · exact sound.claimed
  · intro other tier key isPriced
    by_cases same : other = call
    · subst same
      rw [here] at isPriced
      exact ⟨isMonth tier key isPriced, unclaimed⟩
    · rw [elsewhere same] at isPriced
      exact sound.priced other tier key isPriced
  · intro other isIdle
    by_cases same : other = call
    · subst same
      exact unclaimed
    · rw [elsewhere same] at isIdle
      exact sound.idle other isIdle
  · intro other tier left attempt isSending
    by_cases same : other = call
    · subst same
      rw [here] at isSending
      exact absurd isSending (notSending tier left attempt)
    · rw [elsewhere same] at isSending
      exact sound.sending other tier left attempt isSending
  · intro other tier member
    obtain ⟨isWinner, succeeds, isDone⟩ := sound.announced other tier member
    have apart : other ≠ call := by
      rintro rfl
      exact unclaimed tier (BudgetState.mem_of_winner isWinner)
    exact ⟨isWinner, succeeds, (elsewhere apart).trans isDone⟩
  · exact sound.nodup
  · intro other tier isWinner
    have apart : other ≠ call := by
      rintro rfl
      exact unclaimed tier (BudgetState.mem_of_winner isWinner)
    rw [elsewhere apart]
    exact sound.won other tier isWinner

/-- What an attempt does to the phase of its call, and to what is announced. -/
inductive Attempted (sends : Nat → Nat → SendResult) (call : Nat) (tier : Tier)
    (announced : List (Nat × Tier)) : Phase → List (Nat × Tier) → Prop where
  | succeeded (succeeds : wouldSucceed sends call = true) :
      Attempted sends call tier announced .done (announced ++ [(call, tier)])
  | failed (fails : wouldSucceed sends call = false) :
      Attempted sends call tier announced .done announced
  | again (left attempt : Nat) (positive : 0 < left)
      (same : sendsFrom (sends call) left attempt = wouldSucceed sends call) :
      Attempted sends call tier announced (.sending tier left attempt) announced

theorem attemptSend_spec {left attempt : Nat}
    (same : sendsFrom (sends call) left attempt = wouldSucceed sends call) (positive : 0 < left) :
    ∃ phase announced, Attempted sends call tier state.announced phase announced ∧
      attemptSend sends state call tier left attempt =
        { state.setPhase call phase with announced := announced } := by
  obtain ⟨rest, rfl⟩ : ∃ rest, left = rest + 1 := ⟨left - 1, by omega⟩
  rw [sendsFrom] at same
  unfold BudgetAlerts.attemptSend
  cases isResult : sends call attempt with
  | success =>
      rw [isResult] at same
      exact ⟨_, _, .succeeded same.symm, rfl⟩
  | permanent =>
      rw [isResult] at same
      exact ⟨_, _, .failed same.symm, rfl⟩
  | transient =>
      rw [isResult] at same
      dsimp only at same ⊢
      by_cases isLast : rest + 1 ≤ 1
      · have noMore : rest = 0 := by omega
        subst noMore
        exact ⟨_, _, .failed same.symm, if_pos isLast⟩
      · refine ⟨_, _, .again rest (attempt + 1) (by omega) same, ?_⟩
        rw [if_neg isLast, Nat.add_sub_cancel]
        rfl

theorem Sound.attempted (sound : Sound sends month monthStart state) {left attempt : Nat}
    (isSending : state.phases call = .sending tier left attempt) {phase : Phase}
    {announced : List (Nat × Tier)}
    (attempted : Attempted sends call tier state.announced phase announced) :
    Sound sends month monthStart { state.setPhase call phase with announced := announced } := by
  have elsewhere : ∀ {other : Nat}, other ≠ call →
      (state.setPhase call phase).phases other = state.phases other := fun apart =>
    Function.update_of_ne apart _ _
  have here : (state.setPhase call phase).phases call = phase := Function.update_self _ _ _
  obtain ⟨isWinner, notAnnounced, -⟩ := sound.sending call tier left attempt isSending
  have claimedOnce : ∀ {other : Tier}, state.winner other = some (call, other) → other = tier := by
    intro other wins
    rcases sound.won call other wins with ⟨left, attempt, isOther⟩ | ⟨isDone, -⟩
    · rw [isSending] at isOther
      cases isOther
      rfl
    · rw [isSending] at isDone
      cases isDone
  have grown : ∀ {notice : Nat × Tier}, notice ∈ state.announced → notice ∈ announced := by
    intro notice member
    cases attempted with
    | succeeded succeeds => exact List.mem_append_left _ member
    | failed | again => exact member
  have others : ∀ {other : Nat} {tier : Tier}, other ≠ call → (other, tier) ∈ announced →
      (other, tier) ∈ state.announced := by
    intro other tier apart member
    cases attempted with
    | succeeded succeeds =>
        rcases List.mem_append.1 member with member | member
        · exact member
        · exact absurd (congrArg Prod.fst (List.mem_singleton.1 member)) apart
    | failed | again => exact member
  constructor
  · exact sound.unclaimed
  · exact sound.claimed
  · intro other otherTier key isPriced
    by_cases same : other = call
    · subst same
      dsimp only at isPriced
      rw [here] at isPriced
      subst isPriced
      cases attempted
    · exact sound.priced other otherTier key ((elsewhere same).symm.trans isPriced)
  · intro other isIdle
    by_cases same : other = call
    · subst same
      dsimp only at isIdle
      rw [here] at isIdle
      subst isIdle
      cases attempted
    · exact sound.idle other ((elsewhere same).symm.trans isIdle)
  · intro other otherTier otherLeft otherAttempt isOther
    by_cases same : other = call
    · subst same
      dsimp only at isOther
      rw [here] at isOther
      subst isOther
      cases attempted with
      | again left attempt positive sameResult => exact ⟨isWinner, notAnnounced, positive, sameResult⟩
    · obtain ⟨wins, notMember, positive, sameResult⟩ := sound.sending other otherTier otherLeft
        otherAttempt ((elsewhere same).symm.trans isOther)
      exact ⟨wins, fun member => notMember (others same member), positive, sameResult⟩
  · intro other otherTier member
    by_cases same : other = call
    · subst same
      have notBefore : ∀ tier, (other, tier) ∉ state.announced := by
        intro tier before
        have isDone := (sound.announced other tier before).2.2
        rw [isSending] at isDone
        cases isDone
      cases attempted with
      | succeeded succeeds =>
          rcases List.mem_append.1 member with member | member
          · exact absurd member (notBefore otherTier)
          · cases List.mem_singleton.1 member
            exact ⟨isWinner, succeeds, here⟩
      | failed | again => exact absurd member (notBefore otherTier)
    · obtain ⟨wins, succeeds, isDone⟩ := sound.announced other otherTier (others same member)
      exact ⟨wins, succeeds, (elsewhere same).trans isDone⟩
  · cases attempted with
    | succeeded succeeds =>
        refine List.nodup_append.2 ⟨sound.nodup, by simp, ?_⟩
        rintro notice member _ isNotice rfl
        cases List.mem_singleton.1 isNotice
        exact notAnnounced member
    | failed | again => exact sound.nodup
  · intro other otherTier wins
    by_cases same : other = call
    · subst same
      obtain rfl := claimedOnce wins
      dsimp only
      rw [here]
      cases attempted with
      | succeeded succeeds =>
          exact Or.inr ⟨rfl, fun _ => List.mem_append_right _ (List.mem_singleton_self _)⟩
      | failed fails =>
          refine Or.inr ⟨rfl, fun succeeds => ?_⟩
          rw [fails] at succeeds
          cases succeeds
      | again left attempt positive sameResult => exact Or.inl ⟨left, attempt, rfl⟩
    · rcases sound.won other otherTier wins with ⟨left, attempt, isOther⟩ | ⟨isDone, announces⟩
      · exact Or.inl ⟨left, attempt, (elsewhere same).trans isOther⟩
      · exact Or.inr ⟨(elsewhere same).trans isDone, fun succeeds => grown (announces succeeds)⟩

theorem not_mem_claimants_append {claimants : List (Nat × Tier)} {other : Nat}
    (apart : other ≠ call) (notMember : ∀ otherTier, (other, otherTier) ∉ claimants)
    (otherTier : Tier) : (other, otherTier) ∉ claimants ++ [(call, tier)] := by
  intro member
  rcases List.mem_append.1 member with member | member
  · exact notMember otherTier member
  · exact apart (congrArg Prod.fst (List.mem_singleton.1 member))

theorem find?_claimants (claimants : List (Nat × Tier)) (other : Tier) :
    (claimants ++ [(call, tier)]).find? (fun claimant => claimant.2 = other) =
      (claimants.find? fun claimant => claimant.2 = other).or
        (if tier = other then some (call, tier) else none) := by
  rw [List.find?_append, List.find?_singleton]
  simp only [decide_eq_true_eq]

theorem Sound.claimFree (sound : Sound sends month monthStart state) {now : DateTime}
    (isPriced : state.phases call = .priced tier month) (started : monthStart ≤ now)
    (free : state.winner tier = none) :
    Sound sends month monthStart
      { claims := Function.update state.claims (month, tier)
          (some ⟨call, now.addSeconds claimTtlSeconds⟩)
        phases := Function.update state.phases call (.sending tier reportSendMaxAttempts 0)
        claimants := state.claimants ++ [(call, tier)]
        announced := state.announced } := by
  have elsewhere : ∀ {other : Nat}, other ≠ call →
      Function.update state.phases call (.sending tier reportSendMaxAttempts 0) other =
        state.phases other := fun apart => Function.update_of_ne apart _ _
  have here : Function.update state.phases call (.sending tier reportSendMaxAttempts 0) call =
      .sending tier reportSendMaxAttempts 0 := Function.update_self _ _ _
  have wins : ∀ {other : Tier} {first : Nat × Tier}, state.winner other = some first →
      (state.claimants ++ [(call, tier)]).find? (fun claimant => claimant.2 = other) =
        some first := by
    intro other first isFirst
    rw [find?_claimants, ← BudgetState.winner, isFirst, Option.some_or]
  have winsHere : (state.claimants ++ [(call, tier)]).find? (fun claimant => claimant.2 = tier) =
      some (call, tier) := by
    rw [find?_claimants, ← BudgetState.winner, free, Option.none_or, if_pos rfl]
  have known : ∀ {other : Tier} {first : Nat × Tier},
      (state.claimants ++ [(call, tier)]).find? (fun claimant => claimant.2 = other) =
        some first → state.winner other = some first ∨ other = tier ∧ first = (call, tier) := by
    intro other first isFirst
    rw [find?_claimants, ← BudgetState.winner] at isFirst
    cases isWinner : state.winner other with
    | some found =>
        rw [isWinner, Option.some_or] at isFirst
        exact Or.inl isFirst
    | none =>
        rw [isWinner, Option.none_or] at isFirst
        split at isFirst
        · rename_i sameTier
          cases isFirst
          exact Or.inr ⟨sameTier.symm, rfl⟩
        · cases isFirst
  have notClaimed := (sound.priced call tier month isPriced).2
  constructor
  · intro other isFree
    have apart : other ≠ tier := by
      rintro rfl
      cases winsHere.symm.trans isFree
    have wasFree : state.winner other = none := by
      cases isWinner : state.winner other with
      | none => rfl
      | some first => cases (wins isWinner).symm.trans isFree
    have otherKey : (month, other) ≠ (month, tier) := fun same => apart (Prod.mk.inj same).2
    exact (Function.update_of_ne otherKey _ _).trans (sound.unclaimed other wasFree)
  · intro other first isFirst
    rcases known isFirst with isWinner | ⟨rfl, -⟩
    · have apart : other ≠ tier := by
        rintro rfl
        cases free.symm.trans isWinner
      have otherKey : (month, other) ≠ (month, tier) := fun same => apart (Prod.mk.inj same).2
      obtain ⟨key, isKey, outlives⟩ := sound.claimed other first isWinner
      exact ⟨key, (Function.update_of_ne otherKey _ _).trans isKey, outlives⟩
    · exact ⟨_, Function.update_self _ _ _, DateTime.addSeconds_le_addSeconds started _⟩
  · intro other otherTier key isOther
    by_cases same : other = call
    · subst same
      cases here.symm.trans isOther
    · obtain ⟨isMonth, notMember⟩ := sound.priced other otherTier key
        ((elsewhere same).symm.trans isOther)
      exact ⟨isMonth, not_mem_claimants_append same notMember⟩
  · intro other isIdle
    by_cases same : other = call
    · subst same
      cases here.symm.trans isIdle
    · exact not_mem_claimants_append same (sound.idle other ((elsewhere same).symm.trans isIdle))
  · intro other otherTier left attempt isOther
    by_cases same : other = call
    · subst same
      cases here.symm.trans isOther
      refine ⟨winsHere, fun member => ?_, by decide, rfl⟩
      cases free.symm.trans (sound.announced other tier member).1
    · obtain ⟨isWinner, rest⟩ := sound.sending other otherTier left attempt
        ((elsewhere same).symm.trans isOther)
      exact ⟨wins isWinner, rest⟩
  · intro other otherTier member
    obtain ⟨isWinner, succeeds, isDone⟩ := sound.announced other otherTier member
    have apart : other ≠ call := by
      rintro rfl
      exact notClaimed otherTier (BudgetState.mem_of_winner isWinner)
    exact ⟨wins isWinner, succeeds, (elsewhere apart).trans isDone⟩
  · exact sound.nodup
  · intro other otherTier isFirst
    rcases known isFirst with isWinner | ⟨rfl, isCall⟩
    · have apart : other ≠ call := by
        rintro rfl
        exact notClaimed otherTier (BudgetState.mem_of_winner isWinner)
      dsimp only
      rw [elsewhere apart]
      exact sound.won other otherTier isWinner
    · cases isCall
      exact Or.inl ⟨_, _, here⟩

theorem Sound.claimHeld (sound : Sound sends month monthStart state)
    (isPriced : state.phases call = .priced tier month) (held : state.winner tier = some first) :
    Sound sends month monthStart
      { claims := state.claims
        phases := Function.update state.phases call .done
        claimants := state.claimants ++ [(call, tier)]
        announced := state.announced } := by
  have elsewhere : ∀ {other : Nat}, other ≠ call →
      Function.update state.phases call .done other = state.phases other := fun apart =>
    Function.update_of_ne apart _ _
  have here : Function.update state.phases call .done call = .done := Function.update_self _ _ _
  have same : ∀ other : Tier,
      (state.claimants ++ [(call, tier)]).find? (fun claimant => claimant.2 = other) =
        state.winner other := by
    intro other
    rw [find?_claimants, ← BudgetState.winner]
    by_cases sameTier : tier = other
    · subst sameTier
      rw [held, Option.some_or]
    · rw [if_neg sameTier, Option.or_none]
  have notClaimed := (sound.priced call tier month isPriced).2
  constructor
  · intro other isFree
    exact sound.unclaimed other ((same other).symm.trans isFree)
  · intro other found isFirst
    exact sound.claimed other found ((same other).symm.trans isFirst)
  · intro other otherTier key isOther
    by_cases sameCall : other = call
    · subst sameCall
      cases here.symm.trans isOther
    · obtain ⟨isMonth, notMember⟩ := sound.priced other otherTier key
        ((elsewhere sameCall).symm.trans isOther)
      exact ⟨isMonth, not_mem_claimants_append sameCall notMember⟩
  · intro other isIdle
    by_cases sameCall : other = call
    · subst sameCall
      cases here.symm.trans isIdle
    · exact not_mem_claimants_append sameCall
        (sound.idle other ((elsewhere sameCall).symm.trans isIdle))
  · intro other otherTier left attempt isOther
    by_cases sameCall : other = call
    · subst sameCall
      cases here.symm.trans isOther
    · obtain ⟨isWinner, rest⟩ := sound.sending other otherTier left attempt
        ((elsewhere sameCall).symm.trans isOther)
      exact ⟨(same otherTier).trans isWinner, rest⟩
  · intro other otherTier member
    obtain ⟨isWinner, succeeds, isDone⟩ := sound.announced other otherTier member
    have apart : other ≠ call := by
      rintro rfl
      exact notClaimed otherTier (BudgetState.mem_of_winner isWinner)
    exact ⟨(same otherTier).trans isWinner, succeeds, (elsewhere apart).trans isDone⟩
  · exact sound.nodup
  · intro other otherTier isFirst
    have isWinner := (same otherTier).symm.trans isFirst
    have apart : other ≠ call := by
      rintro rfl
      exact notClaimed otherTier (BudgetState.mem_of_winner isWinner)
    dsimp only
    rw [elsewhere apart]
    exact sound.won other otherTier isWinner

theorem Sound.claimTier (sound : Sound sends month monthStart state) {now : DateTime}
    (isPriced : state.phases call = .priced tier month) (started : monthStart ≤ now)
    (inMonth : now < monthStart.addSeconds (31 * 24 * 3600)) :
    Sound sends month monthStart (claimTier state call now tier month) := by
  unfold BudgetAlerts.claimTier
  cases isWinner : state.winner tier with
  | none =>
      have isFree : stored (state.claims (month, tier)) now = none := by
        rw [sound.unclaimed tier isWinner]
        rfl
      simp only [setNxEx_of_none isFree, if_true]
      exact sound.claimFree isPriced started isWinner
  | some first =>
      obtain ⟨key, isKey, outlives⟩ := sound.claimed tier first isWinner
      have alive : now < key.expiresAt := by
        refine lt_of_lt_of_le (lt_of_lt_of_le inMonth ?_) outlives
        unfold DateTime.addSeconds claimTtlSeconds DateTime.microsecondsPerSecond
        exact Int.add_le_add_left (by decide) _
      have isHeld : stored (state.claims (month, tier)) now = some key.value := by
        rw [isKey]
        exact if_pos alive
      simp only [setNxEx_of_some isHeld, Bool.false_eq_true, if_false, Function.update_eq_self]
      exact sound.claimHeld isPriced isWinner

theorem Sound.step {monthKey : DateTime → String} {event : BudgetEvent}
    (sound : Sound sends month monthStart state)
    (inMonth : InMonth monthKey month monthStart event) :
    Sound sends month monthStart (step monthKey sends state event) := by
  cases event with
  | price call now inputs =>
      obtain ⟨isMonth, -, -⟩ := inMonth now rfl
      simp only [BudgetAlerts.step]
      cases isPhase : state.phases call with
      | idle =>
          have unclaimed := sound.idle call isPhase
          dsimp only
          cases highestTier inputs with
          | none =>
              refine sound.setPhase unclaimed ?_ ?_
              · exact fun _ _ _ same => by cases same
              · exact fun _ _ same => by cases same
          | some tier =>
              refine sound.setPhase unclaimed ?_ ?_
              · exact fun _ _ _ same => by cases same
              · intro other key same
                cases same
                exact isMonth
      | _ => exact sound
  | claim call now =>
      obtain ⟨-, started, before⟩ := inMonth now rfl
      simp only [BudgetAlerts.step]
      cases isPhase : state.phases call with
      | priced tier key =>
          obtain ⟨rfl, -⟩ := sound.priced call tier key isPhase
          exact sound.claimTier isPhase started before
      | _ => exact sound
  | attempt call =>
      simp only [BudgetAlerts.step]
      cases isPhase : state.phases call with
      | sending tier left attempt =>
          obtain ⟨-, -, positive, same⟩ := sound.sending call tier left attempt isPhase
          obtain ⟨phase, announced, attempted, isAttempt⟩ :=
            @attemptSend_spec sends state call tier left attempt same positive
          dsimp only
          rw [isAttempt]
          exact sound.attempted isPhase attempted
      | _ => exact sound

theorem Sound.announcedOnce (sound : Sound sends month monthStart state) : AnnouncedOnce state := by
  intro tier
  have distinct := sound.nodup.filter fun notice => decide (notice.2 = tier)
  cases isFilter : state.announced.filter fun notice => decide (notice.2 = tier) with
  | nil => exact Nat.zero_le 1
  | cons notice notices =>
      cases notices with
      | nil => exact le_rfl
      | cons other others =>
          have wins : ∀ found ∈ notice :: other :: others, state.winner tier = some found := by
            intro found member
            rw [← isFilter, List.mem_filter, decide_eq_true_eq] at member
            obtain ⟨member, rfl⟩ := member
            exact (sound.announced found.1 found.2 member).1
          have same := (wins notice (by simp)).symm.trans (wins other (by simp))
          rw [isFilter] at distinct
          cases same
          simp at distinct

theorem Sound.announcedByFirst_iff (sound : Sound sends month monthStart state)
    (finished : Finished state) : AnnouncedByFirst sends state ↔ FirstSucceeds sends state := by
  constructor
  · intro byFirst call tier member succeeds first isWinner
    -- the first check of the tier that succeeds is announced, so it is the winner
    cases isFirst : state.claimants.find? fun claimant =>
        decide (claimant.2 = tier ∧ wouldSucceed sends claimant.1 = true) with
    | none =>
        have fails := List.find?_eq_none.1 isFirst (call, tier) member
        simp [succeeds] at fails
    | some found =>
        obtain ⟨isFound, earlier, later, isSplit, others⟩ :=
          List.find?_eq_some_iff_append.1 isFirst
        obtain ⟨other, otherTier⟩ := found
        rw [decide_eq_true_eq] at isFound
        obtain ⟨sameTier, otherSucceeds⟩ := isFound
        dsimp only at sameTier
        subst sameTier
        have announces := byFirst earlier other otherTier later isSplit otherSucceeds (by
          intro before isBefore
          have notFirst := others _ isBefore
          simpa using notFirst)
        cases isWinner.symm.trans (sound.announced other otherTier announces).1
        exact otherSucceeds
  · intro firstSucceeds earlier call tier later isSplit succeeds others
    have member : (call, tier) ∈ state.claimants := by
      rw [isSplit]
      exact List.mem_append_right _ List.mem_cons_self
    have isWinner : state.winner tier = some (call, tier) := by
      rw [BudgetState.winner, isSplit, List.find?_append]
      cases isEarlier : earlier.find? fun claimant => claimant.2 = tier with
      | none => simp
      | some first =>
          have wins : state.winner tier = some first := by
            rw [BudgetState.winner, isSplit, List.find?_append, isEarlier, Option.some_or]
          have isFirst := BudgetState.winner_tier wins
          have firstWins := firstSucceeds call tier member succeeds first wins
          rw [isFirst] at isEarlier
          rw [others first.1 (List.mem_of_find?_eq_some isEarlier)] at firstWins
          cases firstWins
    rcases sound.won call tier isWinner with ⟨left, attempt, isSending⟩ | ⟨-, announces⟩
    · exact absurd isSending (finished call tier left attempt)
    · exact announces succeeds

end

/-- Within a month every tier is announced at most once; and it is announced by the first check
whose send succeeds, or would, just when that is the first check of the tier. -/
theorem announced_iff (monthKey : DateTime → String) (sends : Nat → Nat → SendResult)
    {month : String} {monthStart : DateTime} {events : List BudgetEvent}
    (inMonth : ∀ event ∈ events, InMonth monthKey month monthStart event)
    (finished : Finished (run (step monthKey sends) .initial events)) :
    (AnnouncedOnce (run (step monthKey sends) .initial events) ∧
        AnnouncedByFirst sends (run (step monthKey sends) .initial events)) ↔
      FirstSucceeds sends (run (step monthKey sends) .initial events) := by
  have sound : Sound sends month monthStart (run (step monthKey sends) .initial events) :=
    Along.invariant (Sound sends month monthStart) (along_of_forall inMonth) sound_initial
      fun _ _ sound inMonth => sound.step inMonth
  rw [and_iff_right sound.announcedOnce]
  exact sound.announcedByFirst_iff finished

def firstMonth (_ : DateTime) : String :=
  "1970-01"

def overBudget : CheckInputs where
  budget := 100
  warnThreshold := 80
  spent := 120
  webhookUrl := "https://open.feishu.cn/hook"

def twoChecks (attempts : Nat) : List BudgetEvent :=
  [.price 0 0 overBudget, .claim 0 0] ++ List.replicate attempts (.attempt 0) ++
    [.price 1 86400000000 overBudget, .claim 1 86400000000]

def working (_ _ : Nat) : SendResult :=
  .success

def firstFails : Nat → Nat → SendResult
  | 0, _ => .transient
  | _ + 1, _ => .success

theorem announced_iff_twoChecks :
    (AnnouncedOnce (run (step firstMonth working) .initial (twoChecks 1)) ∧
        AnnouncedByFirst working (run (step firstMonth working) .initial (twoChecks 1))) ↔
      FirstSucceeds working (run (step firstMonth working) .initial (twoChecks 1)) := by
  refine @announced_iff firstMonth working "1970-01" 0 (twoChecks 1) ?_ ?_
  · intro event member now isNow
    simp only [twoChecks, List.replicate_one, List.cons_append, List.nil_append, List.mem_cons,
      List.not_mem_nil, or_false] at member
    rcases member with rfl | rfl | rfl | rfl | rfl <;> cases isNow <;> decide
  · intro call tier left attempt isSending
    rcases call with - | - | call
    · cases isSending
    · cases isSending
    · cases isSending

/-- The first check of the month fails to send, and the second is not allowed to. -/
theorem not_announced_firstFails :
    ¬ AnnouncedByFirst firstFails (run (step firstMonth firstFails) .initial (twoChecks 4)) := by
  intro byFirst
  have announces := byFirst [(0, .critical)] 1 .critical [] rfl rfl (by
    intro other member
    cases List.mem_singleton.1 member
    rfl)
  cases announces

end BudgetAlerts

end WebhookWise
