/-!
# Lists that are cut off

`CutOff q s` says that `q` is `s` cut off somewhere before its end. A list in two parts is cut off in its first part
or behind it (`cutOff_append_iff`).
-/

namespace Interleave.Text

variable {α : Type} {q s t : List α} {x : α}

/-- The first list is the second one, cut off before its end. -/
def CutOff (q s : List α) : Prop := q <+: s ∧ q ≠ s

theorem not_cutOff_nil : ¬ CutOff q [] := fun h => h.2 (List.prefix_nil.1 h.1)

theorem cutOff_cons_iff : CutOff q (x :: s) ↔ q = [] ∨ ∃ q', q = x :: q' ∧ CutOff q' s := by
  constructor
  · rintro ⟨hp, hne⟩
    rcases List.prefix_cons_iff.1 hp with rfl | ⟨q', rfl, hq'⟩
    · exact Or.inl rfl
    · exact Or.inr ⟨q', rfl, hq', fun h => hne (h ▸ rfl)⟩
  · rintro (rfl | ⟨q', rfl, hp, hne⟩)
    · exact ⟨List.nil_prefix, by simp⟩
    · exact ⟨List.cons_prefix_cons.2 ⟨rfl, hp⟩, fun h => hne (List.cons.inj h).2⟩

theorem cutOff_singleton_iff : CutOff q [x] ↔ q = [] := by
  rw [cutOff_cons_iff]
  exact ⟨fun h => h.elim id fun ⟨_, _, h'⟩ => absurd h' not_cutOff_nil, Or.inl⟩

/-- A list in two parts is cut off in the first part, or in the second part behind the whole first one. -/
theorem cutOff_append_iff : CutOff q (s ++ t) ↔ CutOff q s ∨ ∃ q', q = s ++ q' ∧ CutOff q' t := by
  induction s generalizing q with
  | nil => simp [not_cutOff_nil]
  | cons x s ih =>
    rw [List.cons_append, cutOff_cons_iff, cutOff_cons_iff]
    constructor
    · rintro (rfl | ⟨q', rfl, h⟩)
      · exact Or.inl (Or.inl rfl)
      · rcases ih.1 h with h | ⟨r, hr, h⟩
        · exact Or.inl (Or.inr ⟨q', rfl, h⟩)
        · exact Or.inr ⟨r, by rw [hr, List.cons_append], h⟩
    · rintro ((rfl | ⟨q', rfl, h⟩) | ⟨r, rfl, h⟩)
      · exact Or.inl rfl
      · exact Or.inr ⟨q', rfl, ih.2 (Or.inl h)⟩
      · exact Or.inr ⟨_, rfl, ih.2 (Or.inr ⟨r, rfl, h⟩)⟩

/-- A beginning of a list that was cut off is the list, cut off further in front. -/
theorem CutOff.of_isPrefix (h : CutOff t s) (hq : q <+: t) : CutOff q s := by
  refine ⟨hq.trans h.1, fun heq => h.2 (h.1.eq_of_length_le ?_)⟩
  rw [← heq]
  exact hq.length_le

/-- A part of a list up to some place is the list, or the list cut off. -/
theorem eq_or_cutOff_of_isPrefix (h : q <+: s) : q = s ∨ CutOff q s := by
  by_cases hq : q = s
  · exact Or.inl hq
  · exact Or.inr ⟨h, hq⟩

end Interleave.Text
