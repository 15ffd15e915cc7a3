import Mathlib.Logic.Relation
import Interleave.Proofs.Lifecycle.Outcomes

/-!
# What is behind a failure

Whether a failure is of a type is asked of its fault, of the source of that fault, and so on.

- `Fault.behind`: the fault that stands a number of sources behind another one; a chain lists them
  (`Fault.getElem?_chain`).
- A failure is of a type if a fault of that type is somewhere behind it (`Failure.is_iff_behind`), and the outermost one
  is found (`Failure.find?_eq_some_iff_behind`).
- `Failure.Mismatch`: what an expectation makes of a failure that does not meet it. Its chain is the chain of that
  failure behind one more fault, which holds the failure itself (`Failure.Mismatch.exists_chain_eq`), so nothing is lost
  if that goes on (`Failure.exists_suffix_of_mismatches`).
- `Failure.met_along_sources`: all of this for expectations.
-/

namespace Interleave

/-! ## Chains -/

namespace Fault

/-- The fault that is reached from a fault by taking the source a number of times. -/
def behind (f : Fault) : Nat → Option Fault
  | 0 => some f
  | n + 1 => (f.behind n).bind source

theorem behind_succ (f : Fault) (n : Nat) : f.behind (n + 1) = f.source.bind (·.behind n) := by
  induction n with
  | zero => exact (Option.bind_some _ _).trans (Option.bind_fun_some _).symm
  | succ n ih =>
    rw [behind, ih, Option.bind_assoc]
    rfl

theorem getElem?_chain (f : Fault) (n : Nat) : f.chain[n]? = f.behind n := by
  induction n generalizing f with
  | zero =>
    rw [chain_eq]
    rfl
  | succ n ih =>
    rw [chain_eq, List.getElem?_cons_succ, behind_succ]
    cases f.source with
    | none => rfl
    | some g => exact ih g

end Fault

namespace Failure

variable {f u : Failure} {t : String}

theorem is_iff_behind : f.is t ↔ ∃ n g, f.fault.behind n = some g ∧ g.typeName = t := by
  simp only [is_iff, List.mem_iff_getElem?, Fault.getElem?_chain]
  constructor
  · rintro ⟨g, ⟨n, hn⟩, ht⟩
    exact ⟨n, g, hn, ht⟩
  · rintro ⟨n, g, hn, ht⟩
    exact ⟨g, ⟨n, hn⟩, ht⟩

/-- Nothing of the type is in front of what is found. -/
theorem find?_eq_some_iff_behind {g : Fault} : f.find? t = some g ↔ ∃ n, f.fault.behind n = some g ∧
    g.typeName = t ∧ ∀ m < n, ∀ h, f.fault.behind m = some h → h.typeName ≠ t := by
  simp only [find?, List.find?_eq_some_iff_getElem, beq_iff_eq, Bool.not_eq_true', beq_eq_false_iff_ne,
    ← Fault.getElem?_chain, List.getElem?_eq_some_iff]
  constructor
  · rintro ⟨ht, n, hn, hg, hfront⟩
    refine ⟨n, ⟨hn, hg⟩, ht, ?_⟩
    rintro m hm h ⟨-, rfl⟩
    exact hfront m hm
  · rintro ⟨n, ⟨hn, hg⟩, ht, hfront⟩
    exact ⟨ht, n, hn, hg, fun m hm => hfront m hm _ ⟨Nat.lt_trans hm hn, rfl⟩⟩

/-- A failure that comes from another process is of the remote type, whatever type it names. -/
theorem is_remote_iff {id : Nat} {typeName name message : String} {backtrace : Option String} :
    (⟨id, typeName, .remote name message backtrace⟩ : Failure).is t ↔ t = "weft::failure::RemoteFailure" := by
  have hchain : (Fault.remote name message backtrace).chain = [.remote name message backtrace] := Fault.chain_eq _
  rw [is_iff, hchain]
  constructor
  · rintro ⟨g, hg, ht⟩
    obtain rfl := List.mem_singleton.1 hg
    exact ht.symm
  · rintro rfl
    exact ⟨_, List.mem_singleton_self _, rfl⟩

/-! ## Mismatches -/

theorem run_meetExpectation_of_is {e : Expectation} (h : f.is e.typeName) (s : Session) :
    ((meetExpectation (some e) (.error f)).run s).1 = .ok () := by
  obtain ⟨g, next, hjudged, hrun⟩ := exists_run_meetExpectation (some e) (some f) s
  cases hjudged with
  | met _ => exact congrArg Prod.fst hrun
  | unexpected hnot => exact absurd h hnot

theorem run_meetExpectation_of_not_is {e : Expectation} (h : ¬ f.is e.typeName) (s : Session) :
    ((meetExpectation (some e) (.error f)).run s).1 =
      .error ⟨s.nextFailure, "weft::failure::UnexpectedFailure", .unexpected e.typeName f⟩ := by
  obtain ⟨g, next, hjudged, hrun⟩ := exists_run_meetExpectation (some e) (some f) s
  cases hjudged with
  | met hmet => exact absurd hmet h
  | unexpected _ => exact congrArg Prod.fst hrun

/-- The second failure is what an expectation makes of the first one, which does not meet it. -/
def Mismatch (f u : Failure) : Prop :=
  ∃ (e : Expectation) (s : Session), ((meetExpectation (some e) (.error f)).run s).1 = .error u

theorem Mismatch.exists_chain_eq (h : f.Mismatch u) : ∃ expected, u.fault = .unexpected expected f ∧
    u.fault.chain = .unexpected expected f :: f.fault.chain := by
  obtain ⟨e, s, hrun⟩ := h
  by_cases hf : f.is e.typeName
  · rw [run_meetExpectation_of_is hf] at hrun
    cases hrun
  · rw [run_meetExpectation_of_not_is hf] at hrun
    cases hrun
    exact ⟨e.typeName, rfl, Fault.chain_eq _⟩

/-- A mismatch is of its own type and of all types of the failure that it holds. -/
theorem Mismatch.is_iff (h : f.Mismatch u) (t : String) :
    u.is t ↔ t = "weft::failure::UnexpectedFailure" ∨ f.is t := by
  obtain ⟨expected, -, hchain⟩ := h.exists_chain_eq
  have htype : (Fault.unexpected expected f).typeName = t ↔ t = "weft::failure::UnexpectedFailure" := eq_comm
  rw [Failure.is_iff, Failure.is_iff, hchain]
  simp only [List.mem_cons, exists_eq_or_imp, htype]

theorem Mismatch.exists_find?_eq (h : f.Mismatch u) :
    ∃ expected, u.find? "weft::failure::UnexpectedFailure" = some (.unexpected expected f) := by
  obtain ⟨expected, -, hchain⟩ := h.exists_chain_eq
  refine ⟨expected, ?_⟩
  rw [find?, hchain, List.find?_cons_of_pos]
  exact beq_self_eq_true _

/-- Mismatches with mismatches are of no other types. -/
theorem is_iff_of_mismatches (h : Relation.TransGen Mismatch f u) (t : String) :
    u.is t ↔ t = "weft::failure::UnexpectedFailure" ∨ f.is t := by
  induction h with
  | single h => exact h.is_iff t
  | tail _ h ih => rw [h.is_iff, ih, ← or_assoc, or_self]

/-- However often a mismatch was mismatched, the failure is still behind it, with all that is behind the failure. -/
theorem exists_suffix_of_mismatches (h : Relation.TransGen Mismatch f u) :
    ∃ expected, Fault.unexpected expected f :: f.fault.chain <:+ u.fault.chain := by
  induction h with
  | single h =>
    obtain ⟨expected, -, hchain⟩ := h.exists_chain_eq
    exact ⟨expected, hchain ▸ List.suffix_refl _⟩
  | tail _ h ih =>
    obtain ⟨expected, hsuffix⟩ := ih
    obtain ⟨expected', -, hchain⟩ := h.exists_chain_eq
    exact ⟨expected, hchain ▸ hsuffix.trans (List.suffix_cons _ _)⟩

/-! ## Expectations -/

/-- **Expectations look all the way behind a failure.** A failure is of a type exactly if the fault that was raised, or
one that is reached from it by taking sources, is of the type, and of these the outermost is found. It meets an
expectation exactly if it is of the type. If it does not, there is a mismatch, which is of its own type and of those of
the failure, and whose outermost mismatch holds the failure itself. The same is true of a mismatch that was mismatched
again, any number of times: it is of no other types, it holds the mismatch before it, and the first failure is still
behind it with all its sources. What comes from another process is of the remote type only. -/
theorem met_along_sources (f : Failure) :
    (∀ t, f.is t ↔ ∃ n g, f.fault.behind n = some g ∧ g.typeName = t) ∧
    (∀ t g, f.find? t = some g ↔ ∃ n, f.fault.behind n = some g ∧ g.typeName = t ∧
      ∀ m < n, ∀ h, f.fault.behind m = some h → h.typeName ≠ t) ∧
    (∀ (e : Expectation) (s : Session),
      (((meetExpectation (some e) (.error f)).run s).1 = .ok () ↔ f.is e.typeName) ∧
      (¬ f.is e.typeName → ∃ u, ((meetExpectation (some e) (.error f)).run s).1 = .error u ∧
        (∀ t, u.is t ↔ t = "weft::failure::UnexpectedFailure" ∨ f.is t) ∧
        u.find? "weft::failure::UnexpectedFailure" = some (.unexpected e.typeName f))) ∧
    (∀ u, Relation.TransGen Mismatch f u →
      (∀ t, u.is t ↔ t = "weft::failure::UnexpectedFailure" ∨ f.is t) ∧
      (∃ g expected, Relation.ReflTransGen Mismatch f g ∧ g.Mismatch u ∧
        u.find? "weft::failure::UnexpectedFailure" = some (.unexpected expected g)) ∧
      ∃ expected, Fault.unexpected expected f :: f.fault.chain <:+ u.fault.chain) ∧
    ∀ (name message : String) (backtrace : Option String) (s : Session) (t : String),
      ((Session.raiseDraft (.remote name message backtrace)).run s).1.is t ↔ t = "weft::failure::RemoteFailure" := by
  refine ⟨fun t => is_iff_behind, fun t g => find?_eq_some_iff_behind, fun e s => ⟨?_, fun hf => ?_⟩, fun u hu => ?_,
    fun name message backtrace s t => is_remote_iff⟩
  · by_cases hf : f.is e.typeName
    · exact iff_of_true (run_meetExpectation_of_is hf s) hf
    · rw [run_meetExpectation_of_not_is hf s]
      exact iff_of_false (by simp) hf
  · have hrun := run_meetExpectation_of_not_is hf s
    have hmismatch : f.Mismatch _ := ⟨e, s, hrun⟩
    refine ⟨_, hrun, hmismatch.is_iff, ?_⟩
    rw [find?, Fault.chain_eq, List.find?_cons_of_pos]
    exact beq_self_eq_true _
  · obtain ⟨g, hg, hmismatch⟩ := Relation.TransGen.tail'_iff.1 hu
    obtain ⟨expected, hfind⟩ := hmismatch.exists_find?_eq
    exact ⟨is_iff_of_mismatches hu, ⟨g, expected, hg, hmismatch, hfind⟩, exists_suffix_of_mismatches hu⟩

/-- A full disk behind a failure that was expected to be something else, twice. -/
theorem met_along_sources_mismatched_again :
    let f : Failure := ⟨0, "Unsaved", .custom "Unsaved" "cannot save" (some (.io "disk full"))⟩
    let u : Failure := ⟨1, "weft::failure::UnexpectedFailure", .unexpected "LostUpdate" f⟩
    let v : Failure := ⟨2, "weft::failure::UnexpectedFailure", .unexpected "Overdrawn" u⟩
    ¬ f.is "LostUpdate" ∧ ¬ u.is "Overdrawn" ∧ Relation.TransGen Mismatch f v ∧
      v.is "core::io::error::Error" ∧ ¬ v.is "LostUpdate" ∧
      v.find? "weft::failure::UnexpectedFailure" = some (.unexpected "Overdrawn" u) := by
  intro f u v
  obtain ⟨hbehind, -, hexpect, hagain, -⟩ := f.met_along_sources
  have hfault : ∀ n g, f.fault.behind n = some g → g.typeName = "Unsaved" ∨ g.typeName = "core::io::error::Error" := by
    rintro (_ | _ | n) g hg
    · cases hg
      exact Or.inl rfl
    · cases hg
      exact Or.inr rfl
    · have hdisk : (Fault.io "disk full").behind (n + 1) = some g := by
        rw [Fault.behind_succ] at hg
        exact hg
      rw [Fault.behind_succ] at hdisk
      cases hdisk
  have hf : ∀ t, t ≠ "Unsaved" → t ≠ "core::io::error::Error" → ¬ f.is t := by
    intro t hne hne' ht
    obtain ⟨n, g, hg, rfl⟩ := (hbehind t).1 ht
    exact (hfault n g hg).elim hne hne'
  have hfirst : f.Mismatch u :=
    ⟨⟨"LostUpdate"⟩, { Session.start with nextFailure := 1 },
      run_meetExpectation_of_not_is (hf _ (by decide) (by decide)) _⟩
  have hu : ¬ u.is "Overdrawn" := by
    rw [hfirst.is_iff]
    rintro (h | h)
    · exact absurd h (by decide)
    · exact hf _ (by decide) (by decide) h
  have hsecond : u.Mismatch v :=
    ⟨⟨"Overdrawn"⟩, { Session.start with nextFailure := 2 }, run_meetExpectation_of_not_is hu _⟩
  have hv : Relation.TransGen Mismatch f v := .tail (.single hfirst) hsecond
  obtain ⟨his, ⟨g, expected, -, hg, hfind⟩, -⟩ := hagain v hv
  obtain ⟨_, hheld, hchain⟩ := hg.exists_chain_eq
  cases hheld
  have houter : v.find? "weft::failure::UnexpectedFailure" = some (.unexpected "Overdrawn" u) := by
    rw [find?, hchain, List.find?_cons_of_pos]
    exact beq_self_eq_true _
  refine ⟨hf _ (by decide) (by decide), hu, hv, (his _).2 (Or.inr ((hbehind _).2 ⟨1, .io "disk full", rfl, rfl⟩)), ?_,
    houter⟩
  rw [his]
  rintro (h | h)
  · exact absurd h (by decide)
  · exact hf _ (by decide) (by decide) h

end Failure

end Interleave
