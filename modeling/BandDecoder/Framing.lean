import Mathlib.Data.List.Basic
import Mathlib.Tactic.Common

namespace BandDecoder.Framing

variable {α : Type*} [DecidableEq α] (d : α)

def frames (s : List α) : List (List α) := (s.splitOn d).dropLast

def rest (s : List α) : List α := (s.splitOn d).getLast (List.splitOn_ne_nil d s)

theorem frames_of_not_mem {s : List α} (h : d ∉ s) : frames d s = [] := by
  simp [frames, List.splitOn_eq_singleton h]

theorem rest_of_not_mem {s : List α} (h : d ∉ s) : rest d s = s := by
  simp [rest, List.splitOn_eq_singleton h]

theorem frames_cons_frame {a : List α} (h : d ∉ a) (s : List α) :
    frames d (a ++ d :: s) = a :: frames d s := by
  simp [frames, List.splitOn_append_cons_self_of_not_mem h,
    List.dropLast_cons_of_ne_nil (List.splitOn_ne_nil d s)]

theorem rest_cons_frame {a : List α} (h : d ∉ a) (s : List α) :
    rest d (a ++ d :: s) = rest d s := by
  simp [rest, List.splitOn_append_cons_self_of_not_mem h,
    List.getLast_cons (List.splitOn_ne_nil d s)]

/-- Cut a stream at its first delimiter. This is the case split behind every
induction over frames. -/
theorem cut_first (s : List α) : d ∉ s ∨ ∃ a t, d ∉ a ∧ s = a ++ d :: t := by
  by_cases h : d ∈ s
  · obtain ⟨a, t, hs, ha⟩ := List.eq_append_cons_of_mem h
    exact Or.inr ⟨a, t, ha, hs⟩
  · exact Or.inl h

theorem frames_induction {P : List α → Prop} (hopen : ∀ s, d ∉ s → P s)
    (hframe : ∀ a t, d ∉ a → P t → P (a ++ d :: t)) (s : List α) : P s := by
  induction hn : s.length using Nat.strongRecOn generalizing s with
  | ind n ih =>
      rcases cut_first d s with h | ⟨a, t, ha, rfl⟩
      · exact hopen s h
      · exact hframe a t ha (ih t.length (by simp at hn; omega) t rfl)

/-- Only the unclosed text matters for what comes after it: a stream may be cut
anywhere and its second part be framed behind the rest of the first. -/
theorem frames_append (s t : List α) :
    frames d (s ++ t) = frames d s ++ frames d (rest d s ++ t) := by
  induction s using frames_induction d with
  | hopen s h => rw [frames_of_not_mem d h, rest_of_not_mem d h, List.nil_append]
  | hframe a s ha ih =>
      rw [List.append_assoc, List.cons_append, frames_cons_frame d ha, ih, frames_cons_frame d ha,
        rest_cons_frame d ha, List.cons_append]

theorem rest_append (s t : List α) : rest d (s ++ t) = rest d (rest d s ++ t) := by
  induction s using frames_induction d with
  | hopen s h => rw [rest_of_not_mem d h]
  | hframe a s ha ih =>
      rw [List.append_assoc, List.cons_append, rest_cons_frame d ha, ih, rest_cons_frame d ha]

theorem not_mem_rest (s : List α) : d ∉ rest d s := by
  induction s using frames_induction d with
  | hopen s h => rwa [rest_of_not_mem d h]
  | hframe a s ha ih => rwa [rest_cons_frame d ha]

theorem mem_of_mem_rest {s : List α} {x : α} (h : x ∈ rest d s) : x ∈ s := by
  induction s using frames_induction d with
  | hopen s hs => rwa [rest_of_not_mem d hs] at h
  | hframe a s ha ih =>
      rw [rest_cons_frame d ha] at h
      simp [ih h]

theorem frames_flatMap {cs : List (List α)} (h : ∀ a ∈ cs, d ∉ a) :
    frames d (cs.flatMap fun a => a ++ [d]) = cs := by
  induction cs with
  | nil => simp [frames_of_not_mem]
  | cons a cs ih =>
      rw [List.flatMap_cons, List.append_assoc, List.singleton_append,
        frames_cons_frame d (h a (by simp)), ih fun b hb => h b (by simp [hb])]

theorem rest_flatMap {cs : List (List α)} (h : ∀ a ∈ cs, d ∉ a) :
    rest d (cs.flatMap fun a => a ++ [d]) = [] := by
  induction cs with
  | nil => simp [rest_of_not_mem]
  | cons a cs ih =>
      rw [List.flatMap_cons, List.append_assoc, List.singleton_append,
        rest_cons_frame d (h a (by simp)), ih fun b hb => h b (by simp [hb])]

/-- One delivery to an incremental framer: it consumes the frames that the text it
holds now closes and keeps what is left open. -/
def deliver {σ : Type*} (consume : σ → List α → σ) (st : σ × List α) (c : List α) : σ × List α :=
  ((frames d (st.2 ++ c)).foldl consume st.1, rest d (st.2 ++ c))

/-- However a stream is cut into deliveries, the framer consumes the frames of the
whole stream in order and ends with the text the whole stream leaves open. -/
theorem foldl_deliver {σ : Type*} (consume : σ → List α → σ) (chunks : List (List α)) (s : σ)
    (p : List α) :
    chunks.foldl (deliver d consume) (s, rest d p) =
      ((frames d (rest d p ++ chunks.flatten)).foldl consume s, rest d (p ++ chunks.flatten)) := by
  induction chunks generalizing s p with
  | nil => simp [frames_of_not_mem d (not_mem_rest d p)]
  | cons c chunks ih =>
      rw [List.foldl_cons, deliver, ← rest_append, ih, List.flatten_cons, ← List.append_assoc,
        ← List.append_assoc, frames_append d (rest d p ++ c), ← rest_append, List.foldl_append]

end BandDecoder.Framing
