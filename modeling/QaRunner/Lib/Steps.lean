import Mathlib.Logic.Relation

/-! Transition systems: what one step keeps or respects, a whole run does. -/
namespace Steps
open Relation

variable {σ : Type} {step : σ → σ → Prop} {inv : σ → Prop} {R : σ → σ → Prop} {s t : σ}

theorem invariant (h : ReflTransGen step s t) (hstep : ∀ s t, inv s → step s t → inv t)
    (hs : inv s) : inv t := by
  induction h with
  | refl => exact hs
  | tail _ hlast ih => exact hstep _ _ ih hlast

/-- The steps may rely on an invariant of the run. -/
theorem related (h : ReflTransGen step s t) (hinv : ∀ s t, inv s → step s t → inv t)
    (hrefl : ∀ s, R s s) (htrans : ∀ s t u, R s t → R t u → R s u)
    (hstep : ∀ s t, inv s → step s t → R s t) (hs : inv s) : R s t := by
  induction h with
  | refl => exact hrefl _
  | tail hrun hlast ih =>
    have hbefore := invariant hrun hinv hs
    exact htrans _ _ _ ih (hstep _ _ hbefore hlast)

end Steps
