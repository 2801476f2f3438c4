import Mathlib.Data.List.Basic

namespace BandDecoder.Loops

universe u

variable {α β : Type*}

/-- A `for` loop whose first hit returns from the function that runs it. -/
theorem forIn_return (p : α → Bool) (g : α → β) (l : List α) :
    (forIn l (none, ()) fun a _ =>
      if p a then pure (.done (some (g a), ())) else pure (.yield (none, ())) :
        Id (Option β × Unit)) = pure ((l.find? p).map g, ()) := by
  induction l with
  | nil => rfl
  | cons a l ih =>
      by_cases h : p a
      · simp [h]
      · simpa [h] using ih

/-- A `for` loop that ends at its first hit. -/
theorem forIn_break (p : α → Bool) (g : α → β → β) (b : β) (l : List α) :
    (forIn l b fun a b => if p a then pure (.done (g a b)) else pure (.yield b) : Id β) =
      pure (match l.find? p with
        | some a => g a b
        | none => b) := by
  induction l with
  | nil => rfl
  | cons a l ih =>
      by_cases h : p a
      · simp [h]
      · simpa [h] using ih

theorem bind_some {α β : Type u} {x : Option α} {y : Id α} {f : α → Option β} {g : α → Id β}
    (hx : x = some y.run) (hf : ∀ a, f a = some (g a).run) : (x >>= f) = some (y >>= g).run := by
  rw [hx]
  exact hf y.run

/-- A loop in `Option` whose body never fails is the same loop without failure. -/
theorem forIn_some {l : List α} {f : α → β → Option (ForInStep β)}
    {g : α → β → Id (ForInStep β)} (h : ∀ a ∈ l, ∀ b, f a b = some (g a b).run) (b : β) :
    forIn l b f = some (forIn l b g : Id β).run := by
  induction l generalizing b with
  | nil => rfl
  | cons a l ih =>
      rw [List.forIn_cons, List.forIn_cons, h a List.mem_cons_self]
      cases hg : (g a b).run with
      | done c => simp [hg]
      | yield c => simpa [hg] using ih (fun x hx => h x (List.mem_cons_of_mem _ hx)) c

end BandDecoder.Loops
