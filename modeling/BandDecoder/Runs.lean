import Mathlib.Logic.Relation
import Mathlib.Tactic.Common

namespace BandDecoder.Runs

variable {σ α : Type*} {step : σ → α → σ → Prop}

inductive Run (step : σ → α → σ → Prop) : σ → List (α × σ) → Prop
  | nil (s : σ) : Run step s []
  | cons {s s' : σ} {a : α} {t : List (α × σ)} (h : step s a s') (ht : Run step s' t) :
      Run step s ((a, s') :: t)

def Guarded (ok : σ → α → Prop) : σ → List (α × σ) → Prop
  | _, [] => True
  | s, (a, s') :: t => ok s a ∧ Guarded ok s' t

def Reachable (step : σ → α → σ → Prop) : σ → σ → Prop :=
  Relation.ReflTransGen fun s s' => ∃ a, step s a s'

/-- The run of a system in which every action is possible. -/
def trace (next : σ → α → σ) : σ → List α → List (α × σ)
  | _, [] => []
  | s, a :: as => (a, next s a) :: trace next (next s a) as

theorem run_trace {next : σ → α → σ} (h : ∀ s a, step s a (next s a)) (s : σ) (as : List α) :
    Run step s (trace next s as) := by
  induction as generalizing s with
  | nil => exact .nil s
  | cons a as ih => exact .cons (h s a) (ih (next s a))

theorem Reachable.invariant {s s' : σ} (h : Reachable step s s') (Inv : σ → Prop) (hs : Inv s)
    (keep : ∀ s a s', Inv s → step s a s' → Inv s') : Inv s' := by
  induction h with
  | refl => exact hs
  | tail _ ht ih =>
      obtain ⟨a, ha⟩ := ht
      exact keep _ a _ ih ha

theorem Run.invariant_of_guarded {ok : σ → α → Prop} {s : σ} {t : List (α × σ)}
    (h : Run step s t) (Inv : σ → Prop) (hs : Inv s) (hg : Guarded ok s t)
    (keep : ∀ s a s', Inv s → step s a s' → ok s a → Inv s') : ∀ x ∈ t, Inv x.2 := by
  induction h with
  | nil => simp
  | cons ha _ ih =>
      have hi := keep _ _ _ hs ha hg.1
      simp only [List.mem_cons, forall_eq_or_imp]
      exact ⟨hi, ih hi hg.2⟩

/-- When a guarded action keeps the invariant and an unguarded one breaks the
property at once, the guard is exactly what the property of a run needs. -/
theorem Run.forall_iff_guarded {ok : σ → α → Prop} {s : σ} {t : List (α × σ)} (h : Run step s t)
    (Inv : σ → Prop) (P : α → σ → Prop) (hs : Inv s)
    (keep : ∀ s a s', Inv s → step s a s' → ok s a → Inv s' ∧ P a s')
    (fails : ∀ s a s', Inv s → step s a s' → ¬ ok s a → ¬ P a s') :
    (∀ x ∈ t, P x.1 x.2) ↔ Guarded ok s t := by
  induction h with
  | nil => simp [Guarded]
  | @cons s s' a t ha _ ih =>
      simp only [List.mem_cons, forall_eq_or_imp, Guarded]
      by_cases hok : ok s a
      · obtain ⟨hi, hp⟩ := keep _ _ _ hs ha hok
        rw [ih hi]
        tauto
      · have hp := fails _ _ _ hs ha hok
        tauto

end BandDecoder.Runs
