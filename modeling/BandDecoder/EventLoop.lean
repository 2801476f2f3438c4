import BandDecoder.Runs
import Mathlib.Logic.Function.Basic

namespace BandDecoder.EventLoop

open Runs

/-- A group of event bits as a kernel offers it, with what it documents. `collect` is a
wait for any of some bits that clears them when it ends, and `none` when none is set. -/
class EventGroup (G : Type*) (β : outParam Type*) [DecidableEq β] where
  create : G
  bits : G → β → Bool
  set : G → β → G
  clear : G → β → G
  collect : G → List β → Option G
  bits_create (b : β) : bits create b = false
  bits_set (g : G) (b b' : β) : bits (set g b) b' = if b' = b then true else bits g b'
  bits_clear (g : G) (b b' : β) : bits (clear g b) b' = if b' = b then false else bits g b'
  collect_isSome (g : G) (bs : List β) : (collect g bs).isSome = bs.any (bits g)
  bits_collect (g g' : G) (bs : List β) (h : collect g bs = some g') (b : β) :
    bits g' b = (bits g b && !bs.contains b)

namespace EventGroup

variable {G β : Type*} [DecidableEq β] [EventGroup G β]

attribute [simp] bits_create bits_set bits_clear

theorem collect_some {g g' : G} {bs : List β} (h : collect g bs = some g') :
    (∀ b ∈ bs, bits g' b = false) ∧ ∀ b, b ∉ bs → bits g' b = bits g b :=
  ⟨fun b hb => by simp [bits_collect g g' bs h, hb], fun b hb => by simp [bits_collect g g' bs h, hb]⟩

theorem exists_collect {g : G} {bs : List β} {b : β} (hb : b ∈ bs) (h : bits g b = true) :
    ∃ g', collect g bs = some g' := by
  rw [← Option.isSome_iff_exists, collect_isSome, List.any_eq_true]
  exact ⟨b, hb, h⟩

end EventGroup

variable {σ ε α χ : Type*}

/-- A loop that takes one event at a time and works off the operations of its
handler, while other threads act on the same state between any two of them. -/
structure Loop (σ ε α χ : Type*) where
  deliverable : σ → ε → Prop
  note : ε → σ → σ
  handler : ε → List α
  apply : α → σ → σ
  possible : σ → χ → Prop
  other : χ → σ → σ

structure Config (σ α : Type*) where
  state : σ
  pending : List α

inductive Action (ε χ : Type*)
  | take (e : ε)
  | work
  | other (x : χ)

inductive Loop.Step (m : Loop σ ε α χ) : Config σ α → Action ε χ → Config σ α → Prop
  | take {s : σ} (e : ε) (h : m.deliverable s e) : Step m ⟨s, []⟩ (.take e) ⟨m.note e s, m.handler e⟩
  | work {s : σ} (a : α) (p : List α) : Step m ⟨s, a :: p⟩ .work ⟨m.apply a s, p⟩
  | other {s : σ} {p : List α} (x : χ) (h : m.possible s x) :
      Step m ⟨s, p⟩ (.other x) ⟨m.other x s, p⟩

def Loop.exec (m : Loop σ ε α χ) (p : List α) (s : σ) : σ := p.foldl (fun s a => m.apply a s) s

theorem Loop.exec_related (m : Loop σ ε α χ) {R : σ → σ → Prop}
    (h : ∀ a s s', R s s' → R (m.apply a s) (m.apply a s')) (p : List α) {s s' : σ} (hs : R s s') :
    R (m.exec p s) (m.exec p s') := by
  induction p generalizing s s' with
  | nil => exact hs
  | cons a p ih => exact ih (h a s s' hs)

/-- A property that whole handlers keep holds of what each moment leads to, when the
other threads do not disturb it there. `I` may be any invariant of the run. -/
theorem Loop.reachable_exec (m : Loop σ ε α χ) {I : Config σ α → Prop} {K : σ → Prop}
    {c c' : Config σ α} (h : Reachable m.Step c c') (hi : I c) (hk : K (m.exec c.pending c.state))
    (keep : ∀ c a c', I c → m.Step c a c' → I c')
    (take : ∀ s e, I ⟨s, []⟩ → m.deliverable s e → K s → K (m.exec (m.handler e) (m.note e s)))
    (other : ∀ s p x, I ⟨s, p⟩ → m.possible s x → K (m.exec p s) → K (m.exec p (m.other x s))) :
    I c' ∧ K (m.exec c'.pending c'.state) := by
  refine h.invariant (fun c => I c ∧ K (m.exec c.pending c.state)) ⟨hi, hk⟩ ?_
  rintro c a c' ⟨hi, hk⟩ hs
  refine ⟨keep c a c' hi hs, ?_⟩
  cases hs with
  | take e hd => exact take _ e hi hd hk
  | work a p => exact hk
  | other x hp => exact other _ _ x hi hp hk

end BandDecoder.EventLoop
