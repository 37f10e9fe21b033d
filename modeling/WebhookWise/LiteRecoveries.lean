import WebhookWise.LiteAcceptance

/-!
# Who is told of a recovery

A recovery has the importance that the rules give its text.  Its firing alert may have another one
from the language model.  The routing table is read with these two importances, so a rule that
claimed the firing alert claims the recovery when it admits the importance of the rules, and when no
rule before it takes the recovery for itself.
-/

namespace WebhookWise

open SurrogateTexts RenderedJson PythonTexts LiteNormalize

namespace LiteIntake

open LitePipeline (LiteRule LiteSilence Outcome SkipCode scanRules)

variable (runtime : IntakeRuntime)

/-! ## First-match routing -/

def stopsScan (source : PyText) (importance : Importance) (rule : LiteRule) : Bool :=
  matches_ runtime source importance rule && rule.stopOnMatch

/-- The rule has a place in the table with no rule before it that ends the scan. -/
def IsReached (source : PyText) (importance : Importance) (rules : List LiteRule)
    (rule : LiteRule) : Prop :=
  ∃ before after, rules = before ++ rule :: after ∧
    ∀ other ∈ before, stopsScan runtime source importance other = false

variable {runtime} {source : PyText} {importance : Importance}

theorem isReached_cons {first rule : LiteRule} {rules : List LiteRule} :
    IsReached runtime source importance (first :: rules) rule ↔
      rule = first ∨ stopsScan runtime source importance first = false ∧
        IsReached runtime source importance rules rule := by
  constructor
  · rintro ⟨before, after, split, clear⟩
    cases before with
    | nil => exact Or.inl (List.cons.inj split).1.symm
    | cons head before =>
        obtain ⟨rfl, rest⟩ := List.cons.inj split
        exact Or.inr ⟨clear first List.mem_cons_self, before, after, rest,
          fun other member => clear other (List.mem_cons_of_mem _ member)⟩
  · rintro (rfl | ⟨goesOn, before, after, rfl, clear⟩)
    · exact ⟨[], rules, rfl, by simp⟩
    · exact ⟨first :: before, after, rfl, List.forall_mem_cons.2 ⟨goesOn, clear⟩⟩

theorem mem_matchRules {rules : List LiteRule} {rule : LiteRule} :
    rule ∈ (matchRules runtime source importance rules).1 ↔
      matches_ runtime source importance rule = true ∧
        IsReached runtime source importance rules rule := by
  unfold matchRules
  induction rules with
  | nil =>
      refine iff_of_false (by simp [scanRules]) ?_
      rintro ⟨-, before, after, split, -⟩
      cases before <;> cases split
  | cons first rules ih =>
      rw [isReached_cons, scanRules]
      cases claims : matches_ runtime source importance first with
      | false =>
          simp only [Bool.false_eq_true, if_false, stopsScan, claims, Bool.false_and, true_and]
          rw [ih, and_or_left]
          refine (or_iff_right ?_).symm
          rintro ⟨matched, rfl⟩
          rw [matched] at claims
          cases claims
      | true =>
          simp only [if_true, stopsScan, claims, Bool.true_and]
          cases stops : first.stopOnMatch with
          | true =>
              simp only [if_true, List.mem_singleton, Bool.true_eq_false, false_and, or_false]
              refine ⟨?_, And.right⟩
              rintro rfl
              exact ⟨claims, rfl⟩
          | false =>
              simp only [Bool.false_eq_true, if_false, List.mem_cons, true_and, ih]
              constructor
              · rintro (rfl | ⟨matched, reached⟩)
                · exact ⟨claims, Or.inl rfl⟩
                · exact ⟨matched, Or.inr reached⟩
              · rintro ⟨matched, rfl | reached⟩
                · exact Or.inl rfl
                · exact Or.inr ⟨matched, reached⟩

/-! ## Triage -/

/-- The alerts agree in what the routing reads, and one is resolved. -/
structure IsRecoveryOf (recovered firing : LiteEvent) : Prop where
  source : recovered.source = firing.source
  title : recovered.title = firing.title
  body : recovered.body = firing.body
  fires : firing.resolved = false
  resolved : recovered.resolved = true

variable (runtime) (settings : IntakeSettings)

/-- The importance that the language model names for a firing alert. -/
def answeredImportance : LlmReply → Option Importance
  | .parsed (.dict answer) =>
      if settings.openaiApiKey = "" then none
      else importanceNamed
        (runtime.lower (((PyJson.get? answer "importance").map
          (pyStr runtime.toTextRuntime)).getD []))
  | _ => none

def claimingRules (reply : LlmReply) (rules : List LiteRule) (event : LiteEvent) : List LiteRule :=
  (matchRules runtime event.source
    (triage runtime settings reply event.title event.body event.resolved).importance rules).1

variable {settings}

theorem importance_of_firing (reply : LlmReply) (title body : PyText) :
    (triage runtime settings reply title body false).importance =
      (answeredImportance runtime settings reply).getD
        (ruleTriage runtime title body).importance := by
  unfold triage answeredImportance
  by_cases noKey : settings.openaiApiKey = ""
  · cases reply with
    | failed report => simp [noKey]
    | parsed value => cases value <;> simp [noKey]
  · simp only [Bool.false_eq_true, if_false, if_neg noKey]
    cases reply with
    | failed report => rfl
    | parsed value =>
        cases value with
        | dict answer =>
            dsimp only
            cases importanceNamed (runtime.lower (((PyJson.get? answer "importance").map
              (pyStr runtime.toTextRuntime)).getD [])) <;> rfl
        | _ => rfl

theorem importance_of_recovery (reply : LlmReply) (title body : PyText) :
    (triage runtime settings reply title body true).importance =
      (ruleTriage runtime title body).importance := rfl

/-- Whoever claimed the firing alert claims the recovery just when the model named no importance, or
each of these rules admits the importance that the rules give the text and is reached with it. -/
theorem recovery_reaches_iff (reply recoveredReply : LlmReply) (rules : List LiteRule)
    {firing recovered : LiteEvent} (isRecovery : IsRecoveryOf recovered firing) :
    (∀ rule ∈ claimingRules runtime settings reply rules firing,
        rule ∈ claimingRules runtime settings recoveredReply rules recovered) ↔
      ∀ named, answeredImportance runtime settings reply = some named →
        ∀ rule ∈ (matchRules runtime firing.source named rules).1,
          csvOk runtime rule.matchImportance (PyText.ofString
              (ruleTriage runtime firing.title firing.body).importance.name) = true ∧
            IsReached runtime firing.source
              (ruleTriage runtime firing.title firing.body).importance rules rule := by
  unfold claimingRules
  rw [isRecovery.resolved, isRecovery.fires, importance_of_firing, importance_of_recovery,
    isRecovery.source, isRecovery.title, isRecovery.body]
  cases answered : answeredImportance runtime settings reply with
  | none =>
      refine iff_of_true (fun rule member => member) ?_
      rintro named ⟨⟩
  | some named =>
      simp only [Option.getD_some, Option.some.injEq, forall_eq']
      refine forall₂_congr fun rule member => ?_
      rw [mem_matchRules]
      have claims := (mem_matchRules.1 member).1
      rw [matches_, Bool.and_eq_true] at claims
      rw [matches_, claims.1, Bool.true_and]

/-! ## An alert that the model takes for more than its words -/

def keyed : IntakeSettings where
  dedupWindowSeconds := 300
  cooldownSeconds := 1800
  openaiApiKey := "key"

def pagerRule : LiteRule where
  id := 1
  name := "pager"
  enabled := true
  matchSource := ""
  matchImportance := "high"
  targetKind := "generic"
  targetUrl := "https://pager"
  priority := 1
  stopOnMatch := false

def pagerStore : StoreAnswers :=
  { emptyStore with activeRules := [pagerRule] }

/-- No keyword is in the words of the alert, and the model finds it important. -/
def queueReply : LlmReply :=
  .parsed (object [("importance", plain "high")])

def queuePayload (status : String) : PyJson :=
  object [("title", plain "Queue grows"), ("body", plain "lag"), ("status", plain status)]

def queueEvent (status : String) : LiteEvent where
  source := PyText.ofString "mq"
  title := PyText.ofString "Queue grows"
  body := PyText.ofString "lag"
  resolved := status = "resolved"
  alertHash := ""
  raw := queuePayload status

theorem queueEvent_recovers : IsRecoveryOf (queueEvent "resolved") (queueEvent "firing") :=
  ⟨rfl, rfl, rfl, rfl, rfl⟩

/-- Where the table has a rule for everything it is told of both. -/
theorem recovery_reaches_catchAll :
    (∀ rule ∈ claimingRules asciiRuntime keyed queueReply
          [{ pagerRule with matchImportance := "" }] (queueEvent "firing"),
        rule ∈ claimingRules asciiRuntime keyed queueReply
          [{ pagerRule with matchImportance := "" }] (queueEvent "resolved")) ↔
      ∀ named, answeredImportance asciiRuntime keyed queueReply = some named →
        ∀ rule ∈ (matchRules asciiRuntime (queueEvent "firing").source named
            [{ pagerRule with matchImportance := "" }]).1,
          csvOk asciiRuntime rule.matchImportance (PyText.ofString
              (ruleTriage asciiRuntime (queueEvent "firing").title
                (queueEvent "firing").body).importance.name) = true ∧
            IsReached asciiRuntime (queueEvent "firing").source
              (ruleTriage asciiRuntime (queueEvent "firing").title
                (queueEvent "firing").body).importance
              [{ pagerRule with matchImportance := "" }] rule :=
  recovery_reaches_iff asciiRuntime queueReply queueReply _ queueEvent_recovers

/-- The alert is forwarded to the pager, and nobody is told that it is over. -/
theorem recovery_misses_pager :
    ((run (process asciiRuntime keyed pagerStore 0 queueReply (PyText.ofString "mq")
        (queuePayload "firing") "") []).1.toOption.bind Verdict.rules) = some ["pager"] ∧
      ¬ ∀ rule ∈ claimingRules asciiRuntime keyed queueReply [pagerRule] (queueEvent "firing"),
        rule ∈ claimingRules asciiRuntime keyed queueReply [pagerRule] (queueEvent "resolved") := by
  refine ⟨by decide +kernel, fun reaches => ?_⟩
  have claims : pagerRule ∈
      claimingRules asciiRuntime keyed queueReply [pagerRule] (queueEvent "firing") := by
    refine mem_matchRules.2 ⟨by decide +kernel, [], [], rfl, by simp⟩
  have claimed := (mem_matchRules.1 (reaches pagerRule claims)).1
  revert claimed
  decide +kernel

end LiteIntake

end WebhookWise
