/-!
# Cutting a text at a separator

- `splitOnce`: what stands before and after the first occurrence of a separator;
- `eq_of_splitOnce`: the two parts and the separator make up the text;
- `splitOnce_eq_none_iff`: a text cannot be cut if and only if the separator does not occur in it;
- `splitAll`: all parts of a text, with single characters between them.
-/

namespace Interleave.Text

/-- Cuts a text at the first occurrence of a separator. -/
def splitOnce (sep : List Char) : List Char → Option (List Char × List Char)
  | [] => if sep.isEmpty then some ([], []) else none
  | c :: cs =>
    if sep.isPrefixOf (c :: cs) then some ([], (c :: cs).drop sep.length)
    else (splitOnce sep cs).map fun (a, b) => (c :: a, b)

theorem eq_of_splitOnce {sep s a b : List Char} (h : splitOnce sep s = some (a, b)) : s = a ++ sep ++ b := by
  induction s generalizing a with
  | nil =>
    simp only [splitOnce] at h
    split at h
    · simp_all
    · simp at h
  | cons c cs ih =>
    simp only [splitOnce] at h
    split at h
    · rename_i hp
      obtain ⟨t, ht⟩ := List.isPrefixOf_iff_prefix.1 hp
      simp only [Option.some.injEq, Prod.mk.injEq] at h
      obtain ⟨rfl, rfl⟩ := h
      rw [← ht]; simp
    · obtain ⟨⟨a', b'⟩, h', heq⟩ := Option.map_eq_some_iff.1 h
      simp only [Prod.mk.injEq] at heq
      obtain ⟨rfl, rfl⟩ := heq
      simp [ih h']

theorem splitOnce_eq_none_iff {sep s : List Char} : splitOnce sep s = none ↔ ¬ sep <:+: s := by
  induction s with
  | nil => simp [splitOnce, List.infix_nil]
  | cons c cs ih =>
    rw [splitOnce, List.infix_cons_iff]
    split
    · rename_i h; simp [List.isPrefixOf_iff_prefix.1 h]
    · rename_i h
      have : ¬ sep <+: c :: cs := fun h' => h (List.isPrefixOf_iff_prefix.2 h')
      simp [this, ih]

/-- The parts of a text between the characters that satisfy `p`: one more than there are such characters. -/
def splitAll (p : Char → Bool) : List Char → List (List Char)
  | [] => [[]]
  | c :: cs =>
    match splitAll p cs with
    | [] => []
    | part :: parts => if p c then [] :: part :: parts else (c :: part) :: parts

end Interleave.Text
