import Interleave.Text.Split

/-!
# Where a separator is found

`splitOnce` cuts at the first occurrence of a separator (`length_le_of_splitOnce`). When the first character of the
separator does not come again in it, no occurrence can begin in a text without one and end in the separator that
follows it; so the text before a separator comes back as it is (`splitOnce_append_of_not_infix`). A text that has
the separator in it comes back shorter, whatever follows it (`exists_splitOnce_of_infix`).
-/

namespace Interleave.Text

/-! ## First occurrences -/

/-- No occurrence of the separator begins before the one at which the text is cut. -/
theorem length_le_of_splitOnce {sep s a b : List Char} (h : splitOnce sep s = some (a, b)) :
    ∀ {u v : List Char}, s = u ++ sep ++ v → a.length ≤ u.length := by
  induction s generalizing a with
  | nil =>
    intro u v _
    obtain ⟨rfl, _⟩ : a = [] ∧ sep ++ b = [] := by simpa using eq_of_splitOnce h
    exact Nat.zero_le _
  | cons c cs ih =>
    intro u v hs
    rw [splitOnce] at h
    split at h
    · cases h
      exact Nat.zero_le _
    · rename_i hp
      obtain ⟨⟨a', b'⟩, h', heq⟩ := Option.map_eq_some_iff.1 h
      cases heq
      cases u with
      | nil => exact absurd (List.isPrefixOf_iff_prefix.2 ⟨v, by simpa using hs.symm⟩) hp
      | cons d u =>
        simp only [List.cons_append, List.cons.injEq] at hs
        have := ih h' hs.2
        simp only [List.length_cons]
        omega

/-- A text is cut at its front exactly if the separator stands there. -/
theorem eq_nil_iff_of_splitOnce {sep s a b : List Char} (h : splitOnce sep s = some (a, b)) :
    a = [] ↔ sep <+: s := by
  constructor
  · rintro rfl
    exact ⟨b, (eq_of_splitOnce h).symm⟩
  · rintro ⟨v, rfl⟩
    have := length_le_of_splitOnce h (show sep ++ v = [] ++ sep ++ v from rfl)
    exact List.length_eq_zero_iff.1 (Nat.le_zero.1 this)

/-- A text with the separator in it is cut inside itself, whatever follows it. -/
theorem exists_splitOnce_of_infix {sep a : List Char} (hne : sep ≠ []) (h : sep <:+: a) (t : List Char) :
    ∃ a' b, splitOnce sep (a ++ t) = some (a', b) ∧ a'.length < a.length := by
  obtain ⟨u, v, rfl⟩ := h
  have hin : sep <:+: u ++ sep ++ v ++ t := ⟨u, v ++ t, by simp⟩
  cases hs : splitOnce sep (u ++ sep ++ v ++ t) with
  | none => exact absurd hin (splitOnce_eq_none_iff.1 hs)
  | some p =>
    obtain ⟨a', b⟩ := p
    refine ⟨a', b, rfl, ?_⟩
    have hle : a'.length ≤ u.length := length_le_of_splitOnce hs (v := v ++ t) (by simp)
    have hpos : 0 < sep.length := List.length_pos_iff.2 hne
    simp only [List.length_append]
    omega

/-! ## Separators that do not overlap themselves -/

/-- An occurrence of the separator at the front of a text and a separator behind it lies within the text. -/
theorem prefix_of_prefix_append {c : Char} {cs a b : List Char} (hc : c ∉ cs) (ha : a ≠ [])
    (h : c :: cs <+: a ++ (c :: cs) ++ b) : c :: cs <+: a := by
  rcases Nat.lt_or_ge a.length (c :: cs).length with hlt | hge
  · -- the separator would reach over the end of `a`, so its first character would come again in it
    exfalso
    obtain ⟨d, a', rfl⟩ := List.exists_cons_of_ne_nil ha
    have hpre : d :: a' <+: c :: cs :=
      List.prefix_of_prefix_length_le ⟨c :: cs ++ b, by simp⟩ h (Nat.le_of_lt hlt)
    obtain ⟨r, hr⟩ := hpre
    obtain ⟨t, ht⟩ := h
    rw [← hr] at ht
    simp only [List.cons_append, List.append_assoc, List.cons.injEq, List.append_cancel_left_eq,
      true_and] at ht hr
    cases r with
    | nil =>
      rw [← hr.2] at hlt
      simp at hlt
    | cons e r =>
      simp only [List.cons_append, List.cons.injEq] at ht
      apply hc
      rw [← hr.2, ht.1, hr.1]
      simp
  · exact List.prefix_of_prefix_length_le h ⟨c :: cs ++ b, by simp⟩ hge

/-- A text without the separator comes back from in front of it. -/
theorem splitOnce_append_of_not_infix {c : Char} {cs a : List Char} (hc : c ∉ cs) (h : ¬ c :: cs <:+: a)
    (b : List Char) : splitOnce (c :: cs) (a ++ (c :: cs) ++ b) = some (a, b) := by
  induction a with
  | nil => simp [splitOnce]
  | cons d a ih =>
    have hp : ¬ c :: cs <+: d :: a ++ (c :: cs) ++ b := fun hp =>
      h (prefix_of_prefix_append hc (List.cons_ne_nil d a) hp).isInfix
    have ha : ¬ c :: cs <:+: a := fun ha => h (ha.trans (List.suffix_cons d a).isInfix)
    simp only [List.cons_append] at hp ⊢
    rw [splitOnce, if_neg (fun h' => hp (List.isPrefixOf_iff_prefix.1 h')), ih ha]
    rfl

end Interleave.Text
