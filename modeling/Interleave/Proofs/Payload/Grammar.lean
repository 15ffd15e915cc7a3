import Mathlib.Data.List.Induction
import Interleave.Proofs.Payload.RoundTrip

/-!
# What payloads can be read

The tokens of a payload hold options with their values, in any order.

- A value of the test option is read exactly if it names a test whose name is there and does not hold the separator
  (`TestSpec.read_eq_ok_iff`).
- Options are taken in exactly if the values of none of them are at fault (`Arguments.faultOf`), and then the arguments
  hold the values (`Arguments.Holds`); otherwise the error is one of these faults (`Arguments.holds_or_faultOf`).
- So the order of tokens with different options is of no account, but for which of two faults is reported
  (`Arguments.read_accepts_grammar`, `Arguments.read_depends_on_order`).
-/

namespace Interleave

open Text

/-! ## The value of the test option -/

namespace TestSpec

/-- The test has a name, and the separator is not in it. -/
def Named (t : TestSpec) : Prop := t.method ≠ "" ∧ ¬ exceptionSeparator.toList <:+: t.method.toList

/-- A text is made of the test that it names. -/
theorem body_ofText (cs : List Char) : (ofText cs).body = cs := by
  rw [ofText]
  cases hcut : splitOnce exceptionSeparator.toList cs with
  | none => simp [body]
  | some p => simp [body, eq_of_splitOnce hcut]

/-- No text names a test with the separator in its name: the text is cut at the first one. -/
theorem not_infix_method_ofText (cs : List Char) : ¬ exceptionSeparator.toList <:+: (ofText cs).method.toList := by
  intro hin
  have hlt := length_ofText_body_lt hin
  rw [body_ofText] at hlt
  exact Nat.lt_irrefl _ hlt

/-- The value of the test option is read as a test exactly if it is the text of the test, and the test is named. -/
theorem read_eq_ok_iff {v : String} {t : TestSpec} : read v = .ok t ↔ v = t.text ∧ t.Named := by
  constructor
  · intro h
    obtain ⟨cs, rfl⟩ : ∃ cs, v = "method=" ++ String.ofList cs := by
      rw [read] at h
      split at h
      · rename_i hprefix
        obtain ⟨cs, hcs⟩ := List.isPrefixOf_iff_prefix.1 hprefix
        refine ⟨cs, String.toList_injective ?_⟩
        rw [← hcs, String.toList_append, String.toList_ofList, String.toList_ofList]
      · cases h
    rw [read_method] at h
    split at h
    · cases h
    · rename_i hne
      cases h
      refine ⟨?_, hne, not_infix_method_ofText cs⟩
      rw [text_eq, body_ofText]
  · rintro ⟨rfl, hne, hin⟩
    have ht := ofText_body hin
    rw [read_text_eq_ok_iff, ht]
    exact ⟨hne, rfl⟩

/-- Named tests differ in their texts. -/
theorem Named.eq_of_text_eq {t u : TestSpec} (ht : t.Named) (hu : u.Named) (h : t.text = u.text) : t = u := by
  have hread : read t.text = .ok u := read_eq_ok_iff.2 ⟨h, hu⟩
  rw [read_eq_ok_iff.2 ⟨rfl, ht⟩] at hread
  exact Except.ok.inj hread

end TestSpec

/-! ## Values by option -/

/-- The values that are given for an option, in order. -/
def valuesOf (o : PayloadOption) (ovs : List (PayloadOption × String)) : List String :=
  (ovs.filter fun ov => ov.1 = o).map Prod.snd

theorem valuesOf_append (o : PayloadOption) (ovs ovs' : List (PayloadOption × String)) :
    valuesOf o (ovs ++ ovs') = valuesOf o ovs ++ valuesOf o ovs' := by
  rw [valuesOf, List.filter_append, List.map_append]
  rfl

theorem valuesOf_concat_self (o : PayloadOption) (ovs : List (PayloadOption × String)) (v : String) :
    valuesOf o (ovs ++ [(o, v)]) = valuesOf o ovs ++ [v] := by
  rw [valuesOf_append]
  simp [valuesOf]

theorem valuesOf_concat_of_ne {o o' : PayloadOption} (h : o' ≠ o) (ovs : List (PayloadOption × String)) (v : String) :
    valuesOf o (ovs ++ [(o', v)]) = valuesOf o ovs := by
  rw [valuesOf_append]
  simp [valuesOf, h]

namespace Arguments

/-- What is wrong with the values that are given for an option, if anything: the class or the test has a second one, or
the first one of the test names none. -/
def faultOf : PayloadOption → List String → Option ArgumentError
  | .testClass, _ :: _ :: _ => some (.repeated .testClass)
  | .test, v :: vs =>
    match TestSpec.read v with
    | .error e => some (.invalidTest v e)
    | .ok _ => if vs = [] then none else some (.repeated .test)
  | _, _ => none

/-- A fault stays where it is when more values are given. -/
theorem faultOf_append {o : PayloadOption} {vs : List String} {e : ArgumentError} (h : faultOf o vs = some e)
    (ws : List String) : faultOf o (vs ++ ws) = some e := by
  cases o with
  | testClass =>
    rcases vs with _ | ⟨v, _ | ⟨w, vs⟩⟩
    · cases h
    · cases h
    · exact h
  | test =>
    cases vs with
    | nil => cases h
    | cons v vs =>
      rw [List.cons_append, faultOf] at *
      cases hread : TestSpec.read v with
      | error r =>
        rw [hread] at h
        exact h
      | ok t =>
        rw [hread] at h
        cases vs with
        | nil => cases h
        | cons w vs => exact h
  | beforeMethod => cases h
  | afterMethod => cases h

/-- The arguments hold the values that the options give. -/
structure Holds (a : Arguments) (ovs : List (PayloadOption × String)) : Prop where
  testClass : a.testClass.toList = valuesOf .testClass ovs
  test : a.test.toList.map TestSpec.text = valuesOf .test ovs
  named : ∀ t ∈ a.test, t.Named
  befores : a.befores = valuesOf .beforeMethod ovs
  afters : a.afters = valuesOf .afterMethod ovs

section Holds

variable {a b : Arguments} {ovs : List (PayloadOption × String)} (h : a.Holds ovs) {o : PayloadOption} {v : String}
include h

/-- Arguments that hold the values of options hold that of one more option when it is taken in. -/
theorem Holds.set (hset : a.set o v = .ok b) : b.Holds (ovs ++ [(o, v)]) := by
  have hother (o') (hne : o ≠ o') : valuesOf o' ovs = valuesOf o' (ovs ++ [(o, v)]) :=
    (valuesOf_concat_of_ne hne ovs v).symm
  obtain ⟨testClass, test, befores, afters⟩ := a
  obtain ⟨hclass, htest, hnamed, rfl, rfl⟩ := h
  cases o with
  | testClass =>
    cases testClass with
    | some c => cases hset
    | none =>
      cases hset
      refine ⟨?_, htest.trans (hother _ (by decide)), hnamed, hother _ (by decide), hother _ (by decide)⟩
      rw [valuesOf_concat_self, ← hclass]
      rfl
  | test =>
    cases test with
    | some t => cases hset
    | none =>
      cases hread : TestSpec.read v with
      | error e =>
        rw [Arguments.set, hread] at hset
        cases hset
      | ok t =>
        rw [Arguments.set, hread] at hset
        cases hset
        obtain ⟨rfl, ht⟩ := TestSpec.read_eq_ok_iff.1 hread
        refine ⟨hclass.trans (hother _ (by decide)), ?_, ?_, hother _ (by decide), hother _ (by decide)⟩
        · rw [valuesOf_concat_self, ← htest]
          rfl
        · rintro _ ⟨⟩
          exact ht
  | beforeMethod =>
    cases hset
    exact ⟨hclass.trans (hother _ (by decide)), htest.trans (hother _ (by decide)), hnamed,
      (valuesOf_concat_self _ ovs v).symm, hother _ (by decide)⟩
  | afterMethod =>
    cases hset
    exact ⟨hclass.trans (hother _ (by decide)), htest.trans (hother _ (by decide)), hnamed, hother _ (by decide),
      (valuesOf_concat_self _ ovs v).symm⟩

/-- If an option is not taken in, its values are at fault. -/
theorem Holds.faultOf {e : ArgumentError} (hset : a.set o v = .error e) :
    Arguments.faultOf o (valuesOf o (ovs ++ [(o, v)])) = some e := by
  obtain ⟨testClass, test, befores, afters⟩ := a
  obtain ⟨hclass, htest, hnamed, -, -⟩ := h
  rw [valuesOf_concat_self]
  cases o with
  | testClass =>
    cases testClass with
    | none => cases hset
    | some c =>
      cases hset
      rw [← hclass]
      rfl
  | test =>
    rw [← htest]
    cases test with
    | some t =>
      cases hset
      have ht : TestSpec.read t.text = .ok t := TestSpec.read_eq_ok_iff.2 ⟨rfl, hnamed t rfl⟩
      simp [Arguments.faultOf, ht]
    | none =>
      cases hread : TestSpec.read v with
      | error r =>
        rw [Arguments.set, hread] at hset
        cases hset
        simp [Arguments.faultOf, hread]
      | ok t =>
        rw [Arguments.set, hread] at hset
        cases hset
  | beforeMethod => cases hset
  | afterMethod => cases hset

end Holds

/-- Options that are taken in are held; otherwise, the values of some option are at fault. -/
theorem holds_or_faultOf (ovs : List (PayloadOption × String)) :
    (∀ a, setAll {} ovs = .ok a → a.Holds ovs) ∧
      ∀ e, setAll {} ovs = .error e → ∃ o, faultOf o (valuesOf o ovs) = some e := by
  -- the last option meets arguments that hold all values before it, or a fault which stays
  induction ovs using List.reverseRecOn with
  | nil =>
    refine ⟨?_, nofun⟩
    rintro a ⟨⟩
    exact ⟨rfl, rfl, nofun, rfl, rfl⟩
  | append_singleton ovs ov ih =>
    obtain ⟨o, v⟩ := ov
    rw [setAll_append]
    cases hall : setAll {} ovs with
    | error e =>
      refine ⟨nofun, ?_⟩
      rintro _ ⟨⟩
      obtain ⟨o', ho'⟩ := ih.2 e hall
      refine ⟨o', ?_⟩
      rw [valuesOf_append]
      exact faultOf_append ho' _
    | ok a =>
      have ha := ih.1 a hall
      show (∀ b, (a.set o v).bind (fun b => .ok b) = .ok b → _) ∧ ∀ e, (a.set o v).bind (fun b => .ok b) = .error e → _
      cases hset : a.set o v with
      | error e =>
        refine ⟨nofun, ?_⟩
        rintro _ ⟨⟩
        exact ⟨o, ha.faultOf hset⟩
      | ok b =>
        refine ⟨?_, nofun⟩
        rintro _ ⟨⟩
        exact ha.set hset

/-! ## Groups of values -/

theorem faultOf_testClass_eq_none_iff {vs : List String} : faultOf .testClass vs = none ↔ vs.length ≤ 1 := by
  rcases vs with _ | ⟨v, _ | ⟨w, vs⟩⟩ <;> simp [faultOf]

/-- There is one value at most, and it names a test. -/
def AtMostOneTest (vs : List String) : Prop := vs.length ≤ 1 ∧ ∀ v ∈ vs, ∃ t : TestSpec, v = t.text ∧ t.Named

theorem faultOf_test_eq_none_iff {vs : List String} : faultOf .test vs = none ↔ AtMostOneTest vs := by
  rw [AtMostOneTest]
  cases vs with
  | nil => simp [faultOf]
  | cons v vs =>
    have hread : (∃ t, TestSpec.read v = .ok t) ↔ ∃ t : TestSpec, v = t.text ∧ t.Named := by
      simp only [TestSpec.read_eq_ok_iff]
    rw [faultOf]
    cases hv : TestSpec.read v with
    | error e =>
      have hunnamed : ¬ ∃ t : TestSpec, v = t.text ∧ t.Named := by
        rw [← hread, hv]
        rintro ⟨t, ⟨⟩⟩
      exact iff_of_false nofun fun h => hunnamed (h.2 v List.mem_cons_self)
    | ok t =>
      have hnamed := hread.1 ⟨t, hv⟩
      cases vs with
      | nil => simpa using hnamed
      | cons w vs => simp

section Holds

variable {a b : Arguments} {ovs ovs' : List (PayloadOption × String)} (h : a.Holds ovs)
include h

/-- Values that are held are not at fault. -/
theorem Holds.faultOf_eq_none (o : PayloadOption) : Arguments.faultOf o (valuesOf o ovs) = none := by
  cases o with
  | testClass =>
    rw [faultOf_testClass_eq_none_iff, ← h.testClass]
    exact Option.length_toList_le
  | test =>
    rw [faultOf_test_eq_none_iff, AtMostOneTest, ← h.test]
    refine ⟨(List.length_map TestSpec.text).symm ▸ Option.length_toList_le, fun v hv => ?_⟩
    obtain ⟨t, ht, rfl⟩ := List.mem_map.1 hv
    exact ⟨t, rfl, h.named t (Option.mem_toList.1 ht)⟩
  | beforeMethod => rfl
  | afterMethod => rfl

/-- Arguments are known from the values that they hold. -/
theorem Holds.unique (h' : b.Holds ovs') (hvalues : ∀ o, valuesOf o ovs' = valuesOf o ovs) : b = a := by
  have hclass : b.testClass = a.testClass := by
    have hlist : b.testClass.toList = a.testClass.toList := by rw [h.testClass, h'.testClass, hvalues]
    refine Option.ext fun c => Option.mem_toList.symm.trans ?_
    rw [hlist]
    exact Option.mem_toList
  have htests : b.test.toList.map TestSpec.text = a.test.toList.map TestSpec.text := by
    rw [h.test, h'.test, hvalues]
  have htest : b.test = a.test := by
    cases ha : a.test with
    | none =>
      rw [ha] at htests
      simpa using htests
    | some t =>
      cases hb : b.test with
      | none =>
        rw [ha, hb] at htests
        cases htests
      | some u =>
        rw [ha, hb] at htests
        obtain ⟨htext, -⟩ := List.cons.inj htests
        rw [(h'.named u hb).eq_of_text_eq (h.named t ha) htext]
  have hbefores : b.befores = a.befores := by rw [h.befores, h'.befores, hvalues]
  have hafters : b.afters = a.afters := by rw [h.afters, h'.afters, hvalues]
  obtain ⟨testClass, test, befores, afters⟩ := a
  cases hclass
  cases htest
  cases hbefores
  cases hafters
  rfl

end Holds

/-! ## Reading -/

/-- Options that agree with some that arguments hold the values of are taken in as these arguments. -/
theorem Holds.setAll_eq {a : Arguments} {ovs ovs' : List (PayloadOption × String)} (h : a.Holds ovs)
    (hvalues : ∀ o, valuesOf o ovs' = valuesOf o ovs) : setAll {} ovs' = .ok a := by
  obtain ⟨hholds, hfault⟩ := holds_or_faultOf ovs'
  cases hall : setAll {} ovs' with
  | ok b => rw [h.unique (hholds b hall) hvalues]
  | error e =>
    obtain ⟨o, ho⟩ := hfault e hall
    rw [hvalues, h.faultOf_eq_none] at ho
    cases ho

theorem setAll_eq_ok_iff {ovs : List (PayloadOption × String)} {a : Arguments} :
    setAll {} ovs = .ok a ↔ a.Holds ovs :=
  ⟨(holds_or_faultOf ovs).1 a, fun h => h.setAll_eq fun _ => rfl⟩

/-- Options are taken in exactly if the class and the test are given once at most, and the value of the test names
one. -/
theorem exists_setAll_eq_ok_iff {ovs : List (PayloadOption × String)} : (∃ a, setAll {} ovs = .ok a) ↔
    (valuesOf .testClass ovs).length ≤ 1 ∧ AtMostOneTest (valuesOf .test ovs) := by
  rw [← faultOf_testClass_eq_none_iff, ← faultOf_test_eq_none_iff]
  constructor
  · rintro ⟨a, ha⟩
    have hholds := setAll_eq_ok_iff.1 ha
    exact ⟨hholds.faultOf_eq_none .testClass, hholds.faultOf_eq_none .test⟩
  · rintro ⟨hclass, htest⟩
    cases hall : setAll {} ovs with
    | ok a => exact ⟨a, rfl⟩
    | error e =>
      -- hooks may be given any number of times, so they are never at fault
      obtain ⟨o, ho⟩ := (holds_or_faultOf ovs).2 e hall
      cases o with
      | testClass => cases hclass.symm.trans ho
      | test => cases htest.symm.trans ho
      | beforeMethod => cases ho
      | afterMethod => cases ho

/-- Options with the same values are not taken in for the same reason, unless there is one in the class and one in the
test. -/
theorem eq_or_faults {ovs ovs' : List (PayloadOption × String)} (hvalues : ∀ o, valuesOf o ovs' = valuesOf o ovs)
    {e e' : ArgumentError} (h : setAll {} ovs = .error e) (h' : setAll {} ovs' = .error e') :
    e' = e ∨ 1 < (valuesOf .testClass ovs).length ∧ ¬ AtMostOneTest (valuesOf .test ovs) := by
  obtain ⟨o, ho⟩ := (holds_or_faultOf ovs).2 e h
  obtain ⟨o', ho'⟩ := (holds_or_faultOf ovs').2 e' h'
  rw [hvalues] at ho'
  by_cases hsame : o' = o
  · rw [hsame, ho] at ho'
    exact .inl (Option.some.inj ho').symm
  · right
    rw [← Nat.not_le, ← faultOf_testClass_eq_none_iff, ← faultOf_test_eq_none_iff]
    cases o <;> cases o' <;> simp_all [faultOf]

/-! ## Reading -/

/-- A class and a test are there together or not at all. -/
theorem checkPair_eq_ok_iff {a b : Arguments} :
    a.checkPair = .ok b ↔ b = a ∧ (a.testClass = none ↔ a.test = none) := by
  obtain ⟨testClass, test, befores, afters⟩ := a
  cases testClass <;> cases test <;> simp [checkPair, eq_comm]

section Reading

variable (first : String) {ovs : List (PayloadOption × String)}

theorem read_of_setAll_eq_error {e : ArgumentError} (h : setAll {} ovs = .error e) :
    read (first :: ovs.map fun ov => ov.1.token ov.2) = .error (.malformed e) := by
  rw [read, List.drop_one, List.tail_cons, readTokens_map_token, h]

theorem read_of_setAll_eq_ok {a : Arguments} (h : setAll {} ovs = .ok a) :
    read (first :: ovs.map fun ov => ov.1.token ov.2) = a.checkPair := by
  rw [read, List.drop_one, List.tail_cons, readTokens_map_token, h]

/-- Arguments are read exactly if the options are taken in as them, and there are a class and a test or neither. -/
theorem read_eq_ok_iff {a : Arguments} : read (first :: ovs.map fun ov => ov.1.token ov.2) = .ok a ↔
    setAll {} ovs = .ok a ∧ (valuesOf .testClass ovs = [] ↔ valuesOf .test ovs = []) := by
  cases hall : setAll {} ovs with
  | error e =>
    rw [read_of_setAll_eq_error first hall]
    exact iff_of_false nofun fun h => nomatch h.1
  | ok b =>
    have hb := setAll_eq_ok_iff.1 hall
    rw [read_of_setAll_eq_ok first hall, checkPair_eq_ok_iff, ← hb.testClass, ← hb.test, List.map_eq_nil_iff,
      Option.toList_eq_nil_iff, Option.toList_eq_nil_iff, Except.ok.injEq, eq_comm]

end Reading

/-- **The grammar of payloads.** Tokens with options and their values, behind a first token that is not looked at, are
read exactly if there are one class and one test or neither, and the value of the test names one. The arguments hold
the values in their order. So tokens that agree in the values of each option are read alike, unless the class is given
twice and the values of the test are at fault, too; then they are malformed, in one way or the other. -/
theorem read_accepts_grammar (first : String) (ovs : List (PayloadOption × String)) :
    let tokens (first : String) (ovs : List (PayloadOption × String)) := first :: ovs.map fun ov => ov.1.token ov.2
    ((∃ a, read (tokens first ovs) = .ok a) ↔ (valuesOf .testClass ovs).length ≤ 1 ∧
      AtMostOneTest (valuesOf .test ovs) ∧ (valuesOf .testClass ovs = [] ↔ valuesOf .test ovs = [])) ∧
    (∀ a, read (tokens first ovs) = .ok a → a.Holds ovs) ∧
    (∀ first' ovs', (∀ o, valuesOf o ovs' = valuesOf o ovs) →
      read (tokens first' ovs') = read (tokens first ovs) ∨
        1 < (valuesOf .testClass ovs).length ∧ ¬ AtMostOneTest (valuesOf .test ovs) ∧
          ∃ e e', read (tokens first ovs) = .error (.malformed e) ∧
            read (tokens first' ovs') = .error (.malformed e')) := by
  intro tokens
  refine ⟨?_, fun a ha => setAll_eq_ok_iff.1 ((read_eq_ok_iff first).1 ha).1, fun first' ovs' hvalues => ?_⟩
  · simp only [tokens, read_eq_ok_iff, exists_and_right, exists_setAll_eq_ok_iff, and_assoc]
  · cases hall : setAll {} ovs with
    | ok a =>
      have hall' := (setAll_eq_ok_iff.1 hall).setAll_eq hvalues
      exact .inl ((read_of_setAll_eq_ok first' hall').trans (read_of_setAll_eq_ok first hall).symm)
    | error e =>
      have hread := read_of_setAll_eq_error first hall
      cases hall' : setAll {} ovs' with
      | ok a =>
        -- arguments that are taken in on one side are taken in on the other
        rw [(setAll_eq_ok_iff.1 hall').setAll_eq fun o => (hvalues o).symm] at hall
        cases hall
      | error e' =>
        have hread' := read_of_setAll_eq_error first' hall'
        rcases eq_or_faults hvalues hall hall' with rfl | ⟨hclass, htest⟩
        · exact .inl (hread'.trans hread.symm)
        · exact .inr ⟨hclass, htest, e, e', hread, hread'⟩

/-- If the class is given twice and the value of the test names none, the error depends on which comes first. -/
theorem read_depends_on_order :
    let ovs : List (PayloadOption × String) := [(.testClass, "A"), (.testClass, "B"), (.test, "run")]
    let ovs' : List (PayloadOption × String) := [(.test, "run"), (.testClass, "A"), (.testClass, "B")]
    (∀ o, valuesOf o ovs' = valuesOf o ovs) ∧
      read (entryPoint :: ovs'.map fun ov => ov.1.token ov.2) ≠
        read (entryPoint :: ovs.map fun ov => ov.1.token ov.2) := by
  intro ovs ovs'
  refine ⟨fun o => by cases o <;> rfl, ?_⟩
  have htest : TestSpec.read "run" = .error (.noMethod "run") := rfl
  have hall : setAll {} ovs = .error (.repeated .testClass) := rfl
  have hall' : setAll {} ovs' = .error (.invalidTest "run" (.noMethod "run")) := by
    rw [setAll, set, htest]
    rfl
  rw [read_of_setAll_eq_error entryPoint hall, read_of_setAll_eq_error entryPoint hall']
  simp

end Arguments

end Interleave
