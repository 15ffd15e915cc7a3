import Interleave.Failure.Basic

/-!
# Expected failures

A test may declare the type of failure it expects. The expectation is met by a failure that `is` of that type,
so by one that merely wraps it.

- `Catalogue`: the expectations that can be found again by type name (`find?_eq_some_iff`);
- `mem_remember`: what is remembered is there, and so is all that was remembered before.
-/

namespace Interleave

open Text

/-- The type of failure that a test is declared to end with. -/
structure Expectation where
  typeName : String
  deriving DecidableEq, Repr, Inhabited

namespace Expectation

/-- Expects the body to panic. -/
def panic : Expectation := ⟨(Fault.panicked "").typeName⟩

/-- Whether a failure meets the expectation. -/
def meets (e : Expectation) (f : Failure) : Bool := f.is e.typeName

def shown (e : Expectation) : String := "ExpectedFailure(" ++ quoted e.typeName ++ ")"

/-- The type name of an expectation, empty if there is none. -/
def nameOf (e : Option Expectation) : String := (e.map typeName).getD ""

end Expectation

/-! ## Expectations found by name -/

/-- The remembered expectations, oldest first, each of them once. -/
structure Catalogue where
  entries : List Expectation := []
  nodup : entries.Nodup := by decide

namespace Catalogue

instance : Inhabited Catalogue := ⟨{}⟩

instance : Membership Expectation Catalogue := ⟨fun c e => e ∈ c.entries⟩

theorem mem_def {c : Catalogue} {e : Expectation} : e ∈ c ↔ e ∈ c.entries := Iff.rfl

/-- Adds an expectation unless it is there. -/
def remember (c : Catalogue) (e : Expectation) : Catalogue :=
  if h : e ∈ c.entries then c
  else
    { entries := c.entries ++ [e]
      nodup := by
        refine List.nodup_append.2 ⟨c.nodup, by simp, ?_⟩
        rintro a ha b hb rfl
        exact h (List.mem_singleton.1 hb ▸ ha) }

/-- The remembered expectation of a type. -/
def find? (c : Catalogue) (typeName : String) : Option Expectation :=
  c.entries.find? (·.typeName == typeName)

theorem mem_remember {c : Catalogue} {e d : Expectation} : d ∈ c.remember e ↔ d ∈ c ∨ d = e := by
  simp only [mem_def, remember]
  split
  · rename_i h; exact ⟨Or.inl, fun h' => h'.elim id (· ▸ h)⟩
  · simp

theorem find?_eq_some_iff {c : Catalogue} {t : String} {e : Expectation} :
    c.find? t = some e ↔ e ∈ c ∧ e.typeName = t := by
  constructor
  · intro h
    exact ⟨List.mem_of_find?_eq_some h, by simpa using List.find?_some h⟩
  · rintro ⟨h, rfl⟩
    obtain ⟨d, hd⟩ := Option.isSome_iff_exists.1
      (List.find?_isSome (p := (·.typeName == e.typeName)).2 ⟨e, h, by simp⟩)
    have : d.typeName = e.typeName := by simpa using List.find?_some hd
    obtain ⟨_⟩ := d; obtain ⟨_⟩ := e; cases this; exact hd

end Catalogue

end Interleave
