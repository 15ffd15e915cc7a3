import Interleave.TestClass.Resolve
import Interleave.Proofs.Payload.Tokens
import Interleave.Proofs.Session.Actions

/-!
# Payloads are read back

- the value of the test option gives the test back exactly if the name of the test is there and the separator
  of names and expectations is not in it (`TestSpec.read_text_eq_ok_iff`, `TestSpec.ofText_body_eq_iff`);
- so a built payload asks for what it was built from under the same condition, and otherwise for something else
  or for nothing (`read_build_iff`).
-/

namespace Interleave

open Text

/-! ## The value of the test option -/

namespace TestSpec

/-- The test that a text names, with an expectation if the separator is in the text. -/
def ofText (cs : List Char) : TestSpec :=
  match splitOnce exceptionSeparator.toList cs with
  | some (method, exception) => ⟨String.ofList method, some (String.ofList exception)⟩
  | none => ⟨String.ofList cs, none⟩

/-- The text behind `method=`. -/
def body (t : TestSpec) : List Char :=
  t.method.toList ++ match t.exception with
    | none => []
    | some e => exceptionSeparator.toList ++ e.toList

theorem text_eq (t : TestSpec) : t.text = "method=" ++ String.ofList t.body := by
  obtain ⟨m, e⟩ := t
  cases e <;> simp [text, body, String.append_assoc]

/-- The value of the test option is the test that the text behind `method=` names, unless its name is empty. -/
theorem read_method (cs : List Char) : read ("method=" ++ String.ofList cs) =
    if (ofText cs).method = "" then .error .emptyMethod else .ok (ofText cs) := by
  have hp : "method=".toList.isPrefixOf ("method=" ++ String.ofList cs).toList = true := by
    simp [String.toList_append]
  have hd : ("method=" ++ String.ofList cs).toList.drop "method=".toList.length = cs := by
    simp [String.toList_append]
  rw [read]
  simp only [hp, hd, if_true]
  rw [ofText]
  cases splitOnce exceptionSeparator.toList cs with
  | none => cases cs <;> simp
  | some p => obtain ⟨_ | ⟨c, m⟩, e⟩ := p <;> simp

/-- Without the separator in the name, the text behind `method=` names the test. -/
theorem ofText_body {t : TestSpec} (h : ¬ exceptionSeparator.toList <:+: t.method.toList) :
    ofText t.body = t := by
  obtain ⟨m, e⟩ := t
  cases e with
  | none =>
    have hcut : splitOnce exceptionSeparator.toList m.toList = none := splitOnce_eq_none_iff.2 h
    simp [ofText, body, hcut]
  | some e =>
    have hsep : exceptionSeparator.toList = ',' :: "exception=".toList := rfl
    have hcut : splitOnce exceptionSeparator.toList (m.toList ++ exceptionSeparator.toList ++ e.toList) =
        some (m.toList, e.toList) := by
      rw [hsep] at h ⊢
      exact splitOnce_append_of_not_infix (by decide) h _
    simp only [ofText, body, ← List.append_assoc]
    rw [hcut]
    simp

/-- With the separator in the name, the text behind `method=` names a test of a shorter name. -/
theorem length_ofText_body_lt {t : TestSpec} (h : exceptionSeparator.toList <:+: t.method.toList) :
    (ofText t.body).method.length < t.method.length := by
  obtain ⟨a, b, hcut, hlt⟩ := exists_splitOnce_of_infix (by decide) h
    (match t.exception with
      | none => []
      | some e => exceptionSeparator.toList ++ e.toList)
  rw [ofText, body, hcut]
  simpa only [String.length_ofList, String.length_toList] using hlt

/-- The value of the test option is read exactly if the text behind `method=` names a test. -/
theorem read_text_eq_ok_iff {t spec : TestSpec} :
    read t.text = .ok spec ↔ (ofText t.body).method ≠ "" ∧ spec = ofText t.body := by
  rw [text_eq, read_method]
  split
  · rename_i h
    simp [h]
  · rename_i h
    simp only [Except.ok.injEq, ne_eq, h, not_false_eq_true, true_and]
    exact eq_comm

/-- A text names no test exactly if it is empty or begins with the separator. -/
theorem method_ofText_eq_empty_iff {cs : List Char} :
    (ofText cs).method = "" ↔ cs = [] ∨ exceptionSeparator.toList <+: cs := by
  rw [ofText]
  cases hcut : splitOnce exceptionSeparator.toList cs with
  | none =>
    have hin : ¬ exceptionSeparator.toList <+: cs := fun h => splitOnce_eq_none_iff.1 hcut h.isInfix
    simp [hin]
  | some p =>
    obtain ⟨m, e⟩ := p
    have hne : cs ≠ [] := by
      rw [eq_of_splitOnce hcut]
      simp [exceptionSeparator]
    rw [← eq_nil_iff_of_splitOnce hcut]
    simp [hne]

/-- No test can be read exactly if it has no name or its name begins with the separator. -/
theorem method_ofText_body_eq_empty_iff {t : TestSpec} :
    (ofText t.body).method = "" ↔ t.method = "" ∨ exceptionSeparator.toList <+: t.method.toList := by
  rw [method_ofText_eq_empty_iff]
  obtain ⟨m, e⟩ := t
  cases e with
  | none => simp [body]
  | some e =>
    by_cases hm : m = ""
    · simp [body, hm]
    · have hne : m.toList ≠ [] := by simpa using hm
      simp only [body, List.append_eq_nil_iff, hne, hm, false_and, false_or]
      constructor
      · intro h
        rw [← List.append_assoc] at h
        exact prefix_of_prefix_append (c := ',') (by decide) hne h
      · intro h
        exact h.trans (List.prefix_append _ _)

/-- The text behind `method=` names the test it was made from exactly if the separator is not in the name. -/
theorem ofText_body_eq_iff {t : TestSpec} :
    ofText t.body = t ↔ ¬ exceptionSeparator.toList <:+: t.method.toList := by
  refine ⟨fun ht hin => ?_, ofText_body⟩
  have := length_ofText_body_lt hin
  rw [ht] at this
  omega

end TestSpec

/-! ## Payloads -/

/-- The options of a payload that asks for a test. -/
def CheckedTest.options (t : CheckedTest) : List (PayloadOption × String) :=
  (.testClass, t.className) :: (.test, t.test.text) ::
    (t.befores.map (.beforeMethod, ·) ++ t.afters.map (.afterMethod, ·))

theorem Payload.tokens_ofTest (t : CheckedTest) :
    (ofTest t).tokens = entryPoint :: t.options.map fun ov => ov.1.token ov.2 := by
  simp [ofTest, CheckedTest.options, List.map_map, Function.comp_def]

/-- A payload that asks for a test is read as far as the value of its test option is. -/
theorem Arguments.read_ofTest (t : CheckedTest) : read (Payload.ofTest t).tokens =
    match TestSpec.read t.test.text with
    | .error e => .error (.malformed (.invalidTest t.test.text e))
    | .ok spec =>
      .ok { testClass := t.className, test := spec, befores := t.befores, afters := t.afters } := by
  rw [Payload.tokens_ofTest, read, List.drop_one, List.tail_cons, readTokens_map_token, CheckedTest.options]
  simp only [setAll, set, Option.isSome_none, Bool.false_eq_true, if_false, Except.bind]
  cases TestSpec.read t.test.text with
  | error e => rfl
  | ok spec =>
    simp only [setAll_append, setAll_befores, Except.bind, setAll_afters]
    rfl

/-- A payload that asks for a test is read exactly if the value of its test option names a test. -/
theorem Arguments.read_ofTest_eq_ok_iff {t : CheckedTest} {a : Arguments} :
    read (Payload.ofTest t).tokens = .ok a ↔ (TestSpec.ofText t.test.body).method ≠ "" ∧
      a = { testClass := t.className
            test := TestSpec.ofText t.test.body
            befores := t.befores
            afters := t.afters } := by
  rw [read_ofTest]
  constructor
  · intro h
    cases hs : TestSpec.read t.test.text with
    | error e =>
      rw [hs] at h
      cases h
    | ok spec =>
      rw [hs] at h
      obtain ⟨hne, rfl⟩ := TestSpec.read_text_eq_ok_iff.1 hs
      exact ⟨hne, (Except.ok.inj h).symm⟩
  · rintro ⟨hne, rfl⟩
    rw [TestSpec.read_text_eq_ok_iff.2 ⟨hne, rfl⟩]

/-- What a payload that can be read asks for. -/
theorem Arguments.checkedTest?_of_read_ofTest {t : CheckedTest} {a : Arguments}
    (h : read (Payload.ofTest t).tokens = .ok a) :
    a.checkedTest? = some { t with test := TestSpec.ofText t.test.body } := by
  obtain ⟨-, rfl⟩ := read_ofTest_eq_ok_iff.1 h
  rfl

/-- A payload asks for the test that it was made for exactly if the test has a name and the separator is not in
the name. -/
theorem Payload.asks_ofTest_iff (t : CheckedTest) :
    (∃ a, Arguments.read (ofTest t).tokens = .ok a ∧ a.checkedTest? = some t) ↔
      t.test.method ≠ "" ∧ ¬ exceptionSeparator.toList <:+: t.test.method.toList := by
  constructor
  · rintro ⟨a, ha, hask⟩
    have hne := (Arguments.read_ofTest_eq_ok_iff.1 ha).1
    rw [Arguments.checkedTest?_of_read_ofTest ha] at hask
    have hspec : TestSpec.ofText t.test.body = t.test := congrArg CheckedTest.test (Option.some.inj hask)
    exact ⟨hspec ▸ hne, TestSpec.ofText_body_eq_iff.1 hspec⟩
  · rintro ⟨hne, hin⟩
    have hspec := TestSpec.ofText_body_eq_iff.2 hin
    refine ⟨_, Arguments.read_ofTest_eq_ok_iff.2 ⟨by rwa [hspec], rfl⟩, ?_⟩
    rw [hspec]
    rfl

/-! ## Built payloads -/

/-- A class without methods. -/
def TestClass.empty {σ : Type} (name : String) (fresh : σ) : TestClass σ := { fixture := ⟨name, fresh⟩ }

section Build

variable {σ : Type} (c : TestClass σ) (test : Descriptor) (befores afters : List Descriptor)
  (expected : Option Expectation)

/-- The test that a request asks for, by name. -/
def TestClass.asked : CheckedTest where
  className := c.name
  test := ⟨test.name, expected.map Expectation.typeName⟩
  befores := befores.map Descriptor.name
  afters := afters.map Descriptor.name

/-- What is remembered when a payload is built. -/
def Catalogue.rememberAll (known : Catalogue) (expected : Option Expectation) : Catalogue :=
  expected.elim known known.remember

/-- A payload is built if and only if the request fits the class, and then only the catalogue changes. -/
theorem Payload.run_build (s : Session) : (build c test befores afters expected).run s =
    match c.validate test befores afters with
    | .error e => (.error e, s)
    | .ok () => (.ok (.ofTest (c.asked test befores afters expected)),
        { s with catalogue := s.catalogue.rememberAll expected }) := by
  rw [build]
  cases c.validate test befores afters with
  | error e => rfl
  | ok _ => cases expected <;> rfl

variable {c test befores afters expected} in
/-- What is built is the payload of the request, if it fits the class. -/
theorem Payload.run_build_eq_ok_iff {s : Session} {p : Payload} :
    ((build c test befores afters expected).run s).1 = .ok p ↔
      c.validate test befores afters = .ok () ∧ p = .ofTest (c.asked test befores afters expected) := by
  rw [run_build]
  cases c.validate test befores afters with
  | error e => simp
  | ok _ => simp [eq_comm]

end Build

/-- **The round trip.** A built payload asks for the class, the test, the expectation and the methods around the
test that it was built from exactly if the test has a name and the separator is not in it. -/
theorem Payload.read_build_iff {σ : Type} {c : TestClass σ} {test : Descriptor} {befores afters : List Descriptor}
    {expected : Option Expectation} {s : Session} {p : Payload}
    (h : ((build c test befores afters expected).run s).1 = .ok p) :
    (∃ a, Arguments.read p.tokens = .ok a ∧ a.checkedTest? = some
        { className := c.name
          test := { method := test.name, exception := expected.map Expectation.typeName }
          befores := befores.map Descriptor.name
          afters := afters.map Descriptor.name }) ↔
      test.name ≠ "" ∧ ¬ exceptionSeparator.toList <:+: test.name.toList := by
  rw [run_build] at h
  cases hv : c.validate test befores afters with
  | error e =>
    rw [hv] at h
    cases h
  | ok _ =>
    rw [hv] at h
    obtain rfl : Payload.ofTest (c.asked test befores afters expected) = p := by simpa using h
    exact asks_ofTest_iff (c.asked test befores afters expected)

/-- The round trip where the names hold dashes, commas, equals signs and a part of the separator, and the
separator is in the type of the expected failure. -/
theorem Payload.read_build_partial_separator :
    let c := ((TestClass.empty "Cart<--test=x>" ()).register .before "--setup,exception=" .skip).register
      .concurrent "a=b,exception" .skip
    let p := Payload.ofTest ⟨"Cart<--test=x>", ⟨"a=b,exception", some "=,exception=T"⟩, ["--setup,exception="], []⟩
    ((build c ⟨"Cart<--test=x>", "a=b,exception"⟩ [⟨"Cart<--test=x>", "--setup,exception="⟩] []
      (some ⟨"=,exception=T"⟩)).run .start).1 = .ok p ∧
    ∃ a, Arguments.read p.tokens = .ok a ∧ a.checkedTest? =
      some ⟨"Cart<--test=x>", ⟨"a=b,exception", some "=,exception=T"⟩, ["--setup,exception="], []⟩ := by
  intro c p
  have h : ((build c ⟨"Cart<--test=x>", "a=b,exception"⟩ [⟨"Cart<--test=x>", "--setup,exception="⟩] []
      (some ⟨"=,exception=T"⟩)).run .start).1 = .ok p := by
    have hv : c.validate ⟨"Cart<--test=x>", "a=b,exception"⟩ [⟨"Cart<--test=x>", "--setup,exception="⟩] [] =
        .ok () := by cbv
    rw [run_build, hv]
    rfl
  have hin : ¬ exceptionSeparator.toList <:+: "a=b,exception".toList := by
    rw [← splitOnce_eq_none_iff]
    cbv
  exact ⟨h, (read_build_iff h).2 ⟨by decide, hin⟩⟩

end Interleave
