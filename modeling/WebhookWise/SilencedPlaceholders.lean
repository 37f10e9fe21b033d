import WebhookWise.WebhookReuse

/-!
# The stub of a silence

An alert that is silenced before it was ever analysed is stored with the stub
`unknown_analysis_result`, which has neither mark that keeps an analysis from being reused.
So a silence that begins a series hands its stub on to every later alert of the series,
also to those that come when it has long ended.
-/

namespace WebhookWise

namespace SilencedPlaceholders

open WebhookDedup WebhookReuse WebhookIngest

variable (windows : DedupWindows) (dedupKey : String)

/-- An alert that reuses an analysis is given one of a run, which is not degraded. -/
def ReusesAnalyzed (state : ReuseState) (arrival : Arrival) : Prop :=
  (resolution windows dedupKey state arrival).action ≠ .new →
    (producedAt windows dedupKey state arrival).isSome ∧
      hasReusableAnalysis (resolution windows dedupKey state arrival).analysis = true

/-- The series does not go on with the stub of a silence. -/
def SeriesAnalyzed (series : Series) (arrival : Arrival) : Prop :=
  series.continued windows arrival ≠ some none

variable {windows} {dedupKey}

theorem reusesAnalyzed_iff {state : ReuseState} {series : Series}
    (represents : Represents windows state series) (arrival : Arrival) :
    ReusesAnalyzed windows dedupKey state arrival ↔ SeriesAnalyzed windows series arrival := by
  unfold ReusesAnalyzed SeriesAnalyzed
  cases continued : series.continued windows arrival with
  | none => simp [resolution_of_discontinued represents continued]
  | some known =>
      obtain ⟨entry, _, reusable, answered, _, sameAnalysis⟩ :=
        resolution_of_continued dedupKey represents continued
      have produced : producedAt windows dedupKey state arrival = known := by
        apply producedAt_of_represents represents
        simp [extend, continued]
      rw [produced, sameAnalysis, reusable]
      cases known <;> simp [answered]

instance (windows : DedupWindows) (dedupKey : String) (state : ReuseState) (arrival : Arrival) :
    Decidable (ReusesAnalyzed windows dedupKey state arrival) :=
  inferInstanceAs (Decidable (_ → _))

end SilencedPlaceholders

end WebhookWise
