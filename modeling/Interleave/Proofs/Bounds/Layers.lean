import Interleave.Proofs.Fallible
import Interleave.Proofs.Setting.Range
import Interleave.Proofs.Setting.Variables

/-!
# Layers of bounds

- `Bounds.get`: the bounds as one function of their fields, and `Field.Takes`: the settings that fit a field, each with
  what it makes the field hold;
- a step sets one field to what the layers say and leaves the others (`assignFrom_eq_ok_iff`), so all steps set each
  field to what the layers say (`foldlM_assignFrom_eq_ok_iff`);
- `Sets`: what an environment and a file set a name to;
- bounds are loaded field by field (`load_by_field`), if the values of variables can be read (`load_of_unreadable`).
-/

namespace Interleave

/-- Of two layers, the upper one hides the lower one name by name. -/
theorem Layers.find?_pair (upper lower : List (String × Setting)) (name : String) :
    Layers.find? [upper, lower] name = (upper.lookup name).or (lower.lookup name) := by
  rw [Layers.find?, List.findSome?_cons]
  cases upper.lookup name with
  | none => simp
  | some s => rfl

namespace Bounds

/-! ## One field -/

/-- What a field may hold: a count that may be missing, or a flag. -/
inductive Bound
  | count (n : Option Nat)
  | flag (b : Bool)

/-- What a field holds. -/
def get (b : Bounds) : Field → Bound
  | .preemptionBound => .count b.preemptionBound
  | .maxBranches => .count b.maxBranches
  | .maxPermutations => .count b.maxPermutations
  | .maxDurationSecs => .count b.maxDurationSecs
  | .log => .flag b.log
  | .location => .flag b.location

def Field.isCount : Field → Bool
  | log | location => false
  | _ => true

/-- The settings of the type and the range of a field, with what they make it hold: counts have 64 bits and no sign. -/
inductive Field.Takes (f : Field) : Setting → Bound → Prop
  | natural {n : Nat} (hf : f.isCount) (hn : n ≤ Setting.wordMax) : f.Takes (.natural n) (.count n)
  | integer {n : Nat} (hf : f.isCount) (hn : n ≤ Setting.wordMax) : f.Takes (.integer n) (.count n)
  | flag {b : Bool} (hf : f.isCount = false) : f.Takes (.flag b) (.flag b)

section Fields

variable {b b' : Bounds} {f : Field} {s : Setting} {v : Bound}

/-- Bounds that hold the same in every field are the same. -/
theorem ext_get (h : ∀ f, b.get f = b'.get f) : b = b' := by
  obtain ⟨p, n, m, d, l, k⟩ := b
  obtain ⟨p', n', m', d', l', k'⟩ := b'
  cases h .preemptionBound
  cases h .maxBranches
  cases h .maxPermutations
  cases h .maxDurationSecs
  cases h .log
  cases h .location
  rfl

/-- Bounds with one field as in others. -/
def replace (b b' : Bounds) : Field → Bounds
  | .preemptionBound => { b with preemptionBound := b'.preemptionBound }
  | .maxBranches => { b with maxBranches := b'.maxBranches }
  | .maxPermutations => { b with maxPermutations := b'.maxPermutations }
  | .maxDurationSecs => { b with maxDurationSecs := b'.maxDurationSecs }
  | .log => { b with log := b'.log }
  | .location => { b with location := b'.location }

theorem get_replace (b b' : Bounds) (f g : Field) : (b.replace b' f).get g = if g = f then b'.get g else b.get g := by
  cases f <;> cases g <;> rfl

/-- Each field can hold what it holds in bounds of its own. -/
theorem exists_forall_get (c : Field → Bounds) : ∃ b : Bounds, ∀ f, b.get f = (c f).get f :=
  ⟨⟨(c .preemptionBound).preemptionBound, (c .maxBranches).maxBranches, (c .maxPermutations).maxPermutations,
    (c .maxDurationSecs).maxDurationSecs, (c .log).log, (c .location).location⟩, fun f => by cases f <;> rfl⟩

theorem takes_iff_count (hf : f.isCount) (hs : s.InRange) (e : String) :
    f.Takes s v ↔ ∃ n : Nat, s.count e = .ok n ∧ v = .count n := by
  constructor
  · rintro (@⟨n, -, -⟩ | @⟨n, -, -⟩ | ⟨hf'⟩)
    · exact ⟨n, rfl, rfl⟩
    · exact ⟨n, Setting.count_eq_ok_iff.2 (Or.inr rfl), rfl⟩
    · simp [hf] at hf'
  · rintro ⟨n, hn, rfl⟩
    rcases Setting.count_eq_ok_iff.1 hn with rfl | rfl
    · exact .natural hf hs
    · have hn' : n < Nat.pow 2 63 := Int.ofNat_lt.1 hs.2
      exact .integer hf (Nat.le_trans (Nat.le_of_lt hn') (by decide))

theorem takes_iff_isSet (hf : f.isCount = false) : f.Takes s v ↔ ∃ b, s.isSet = .ok b ∧ v = .flag b := by
  simp only [Setting.isSet_eq_ok_iff]
  constructor
  · rintro (⟨hf', -⟩ | ⟨hf', -⟩ | @⟨b, -⟩)
    · simp [hf] at hf'
    · simp [hf] at hf'
    · exact ⟨b, rfl, rfl⟩
  · rintro ⟨b, rfl, rfl⟩
    exact .flag hf

/-- What a setting makes a field hold, it can hold. -/
theorem exists_get_of_takes (h : f.Takes s v) : ∃ c : Bounds, c.get f = v := by
  have hcount (n : Nat) (hf : f.isCount) : ∃ c : Bounds, c.get f = .count n :=
    ⟨⟨n, n, n, n, false, false⟩, by cases f <;> simp_all [get, Field.isCount]⟩
  cases h with
  | natural hf => exact hcount _ hf
  | integer hf => exact hcount _ hf
  | @flag b hf => exact ⟨{ log := b, location := b }, by cases f <;> simp_all [get, Field.isCount]⟩

/-- A field that is set to what is read of a setting holds that, and the others are as before. -/
theorem set_eq_ok_iff {α : Type} {read : Except Mismatch α} {make : α → Bound} {set : α → Bounds}
    (htakes : ∀ {v}, f.Takes s v ↔ ∃ a, read = .ok a ∧ v = make a)
    (hset : ∀ a g, (set a).get g = if g = f then make a else b.get g) :
    (do return set (← read)) = .ok b' ↔ f.Takes s (b'.get f) ∧ ∀ g ≠ f, b'.get g = b.get g := by
  rw [bind_eq_ok_iff, htakes]
  constructor
  · rintro ⟨a, ha, heq⟩
    cases heq
    exact ⟨⟨a, ha, by rw [hset, if_pos rfl]⟩, fun g hg => by rw [hset, if_neg hg]⟩
  · rintro ⟨⟨a, ha, hf⟩, hother⟩
    refine ⟨a, ha, congrArg Except.ok (ext_get fun g => ?_)⟩
    rw [hset]
    split
    · rename_i hg
      rw [hg, hf]
    · rename_i hg
      rw [hother g hg]

/-- A field is set to a setting in range exactly if it takes the setting. -/
theorem assign_eq_ok_iff (hs : s.InRange) :
    b.assign f s = .ok b' ↔ f.Takes s (b'.get f) ∧ ∀ g ≠ f, b'.get g = b.get g := by
  cases f with
  | preemptionBound => exact set_eq_ok_iff (takes_iff_count rfl hs "usize") fun n g => by cases g <;> rfl
  | maxBranches => exact set_eq_ok_iff (takes_iff_count rfl hs "usize") fun n g => by cases g <;> rfl
  | maxPermutations => exact set_eq_ok_iff (takes_iff_count rfl hs "usize") fun n g => by cases g <;> rfl
  | maxDurationSecs => exact set_eq_ok_iff (takes_iff_count rfl hs "u64") fun n g => by cases g <;> rfl
  | log => exact set_eq_ok_iff (takes_iff_isSet rfl) fun n g => by cases g <;> rfl
  | location => exact set_eq_ok_iff (takes_iff_isSet rfl) fun n g => by cases g <;> rfl

end Fields

/-! ## All fields -/

/-- The field holds what the layers set it to, or if they do not what it held before. -/
def Settled (layers : Layers) (b b' : Bounds) (f : Field) : Prop :=
  (∀ s, layers.find? f.name = some s → f.Takes s (b'.get f)) ∧ (layers.find? f.name = none → b'.get f = b.get f)

section Layers

variable {layers : Layers} (hlayers : ∀ (f : Field) s, layers.find? f.name = some s → s.InRange)

theorem settled_congr {b c b' c' : Bounds} {f : Field} (h : b.get f = c.get f) (h' : b'.get f = c'.get f) :
    Settled layers b b' f ↔ Settled layers c c' f := by
  rw [Settled, Settled, h, h']

include hlayers

theorem assignFrom_eq_ok_iff {b b' : Bounds} {f : Field} : assignFrom layers b f = .ok b' ↔
    Settled layers b b' f ∧ ∀ g ≠ f, b'.get g = b.get g := by
  rw [assignFrom, Settled]
  cases hs : layers.find? f.name with
  | none =>
    simp only [Except.ok.injEq, reduceCtorEq, false_implies, implies_true, true_and, true_implies]
    constructor
    · rintro rfl
      exact ⟨rfl, fun _ _ => rfl⟩
    · rintro ⟨hf, hother⟩
      refine ext_get fun g => ?_
      by_cases hg : g = f
      · rw [hg, hf]
      · rw [hother g hg]
  | some s =>
    have hok : (b.assign f s).mapError (LoadError.mismatch f.name) = .ok b' ↔ b.assign f s = .ok b' := by
      cases b.assign f s <;> simp [Except.mapError]
    simp only [hok, assign_eq_ok_iff (hlayers f s hs), Option.some.injEq, forall_eq', reduceCtorEq, false_implies,
      and_true]

/-- Steps for different fields set each of them to what the layers say, and leave the other fields. -/
theorem foldlM_assignFrom_eq_ok_iff {fs : List Field} (hfs : fs.Nodup) {b b' : Bounds} :
    fs.foldlM (assignFrom layers) b = .ok b' ↔ (∀ f ∈ fs, Settled layers b b' f) ∧ ∀ g ∉ fs, b'.get g = b.get g := by
  induction fs generalizing b with
  | nil =>
    simp only [List.foldlM_nil, List.not_mem_nil, false_implies, implies_true, true_and, not_false_eq_true,
      true_implies]
    exact ⟨fun h g => by cases h; rfl, fun h => congrArg Except.ok (ext_get fun g => (h g).symm)⟩
  | cons f fs ih =>
    rw [List.nodup_cons] at hfs
    rw [List.foldlM_cons, bind_eq_ok_iff, List.forall_mem_cons]
    simp only [ih hfs.2, assignFrom_eq_ok_iff hlayers, List.mem_cons, not_or]
    constructor
    · rintro ⟨c, ⟨hf, hother⟩, hfs', hrest⟩
      refine ⟨⟨(settled_congr rfl (hrest f hfs.1)).2 hf, fun g hg => ?_⟩, fun g hg => ?_⟩
      · have hne : g ≠ f := fun h => hfs.1 (h ▸ hg)
        exact (settled_congr (hother g hne) rfl).1 (hfs' g hg)
      · rw [hrest g hg.2, hother g hg.1]
    · rintro ⟨⟨hf, hfs'⟩, hrest⟩
      have hget := get_replace b b' f
      refine ⟨b.replace b' f, ⟨(settled_congr rfl ?_).2 hf, fun g hg => ?_⟩, fun g hg => ?_, fun g hg => ?_⟩
      · rw [hget, if_pos rfl]
      · rw [hget, if_neg hg]
      · have hne : g ≠ f := fun h => hfs.1 (h ▸ hg)
        refine (settled_congr ?_ rfl).2 (hfs' g hg)
        rw [hget, if_neg hne]
      · rw [hget]
        split
        · rfl
        · rename_i hne
          exact hrest g ⟨hne, hg⟩

/-- Layers give bounds exactly if these hold in each field what the layers set it to, or else its default. -/
theorem ofLayers_eq_ok_iff {b : Bounds} : ofLayers layers = .ok b ↔ ∀ f, Settled layers {} b f := by
  rw [ofLayers, foldlM_assignFrom_eq_ok_iff hlayers (by decide)]
  exact ⟨fun h f => h.1 f f.mem_byName, fun h => ⟨fun f _ => h f, fun g hg => absurd g.mem_byName hg⟩⟩

/-- Layers give bounds exactly if each field takes what they set it to. -/
theorem exists_ofLayers_iff : (∃ b, ofLayers layers = .ok b) ↔
    ∀ (f : Field) s, layers.find? f.name = some s → ∃ v, f.Takes s v := by
  constructor
  · rintro ⟨b, hb⟩ f s hs
    exact ⟨_, ((ofLayers_eq_ok_iff hlayers).1 hb f).1 s hs⟩
  · intro htakes
    have hfield (f : Field) : ∃ c, Settled layers {} c f := by
      cases hs : layers.find? f.name with
      | none => exact ⟨{}, by simp [hs], fun _ => rfl⟩
      | some s =>
        obtain ⟨v, hv⟩ := htakes f s hs
        obtain ⟨c, rfl⟩ := exists_get_of_takes hv
        exact ⟨c, by simpa [hs] using hv, by simp [hs]⟩
    obtain ⟨c, hc⟩ := Classical.skolem.1 hfield
    obtain ⟨b, hb⟩ := exists_forall_get c
    exact ⟨b, (ofLayers_eq_ok_iff hlayers).2 fun f => (settled_congr rfl (hb f)).2 (hc f)⟩

end Layers

/-- Layers that set each field to the same give the same. -/
theorem ofLayers_congr {layers layers' : Layers} (h : ∀ f : Field, layers.find? f.name = layers'.find? f.name) :
    ofLayers layers = ofLayers layers' := by
  have hstep : assignFrom layers = assignFrom layers' := by
    funext b f
    rw [assignFrom, assignFrom, h f]
  rw [ofLayers, ofLayers, hstep]

/-! ## Files and environments -/

/-- A file, if there is one, that is a table of settings, and variables that are plain. -/
structure Loadable (file : Option String) (fromFile : List (String × Setting)) (environment : List (String × String)) :
    Prop where
  table : ∀ text, file = some text → Toml.read? text = some fromFile
  noTable : file = none → fromFile = []
  plain : Plain variableStart environment

/-- What a name is set to: by the last variable that is named for it, or else by the file. -/
inductive Sets (fromFile : List (String × Setting)) (environment : List (String × String)) (name : String) :
    Setting → Prop
  | byVariable {value : String} {s : Setting} (hlast : LastNamed variableStart environment name value)
      (hvalue : Setting.ofText value = .ok s) : Sets fromFile environment name s
  | byFile {s : Setting} (hnone : ∀ v ∈ environment, ¬ NamedFor variableStart v.1 name)
      (hfile : fromFile.lookup name = some s) : Sets fromFile environment name s

section Load

variable {file : Option String} {fromFile : List (String × Setting)} {environment : List (String × String)}

theorem inRange_of_sets (h : Loadable file fromFile environment) {name : String} {s : Setting}
    (hs : Sets fromFile environment name s) : s.InRange := by
  cases hs with
  | byVariable hlast hvalue => exact Setting.inRange_of_ofText hvalue
  | byFile hnone hfile =>
    cases file with
    | none =>
      rw [h.noTable rfl] at hfile
      cases hfile
    | some text =>
      obtain ⟨before, after, rfl, -⟩ := List.lookup_eq_some_iff.1 hfile
      exact Toml.inRange_of_read? (h.table text rfl) (name, s) (by simp)

/-- A name is set to what the settings of the variables say, or else those of the file. -/
theorem sets_iff (h : Loadable file fromFile environment) {fromVariables : List (String × Setting)}
    (hvariables : variableSettings variableStart environment = .ok fromVariables) (f : Field) (s : Setting) :
    Sets fromFile environment f.name s ↔ (fromVariables.lookup f.name).or (fromFile.lookup f.name) = some s := by
  obtain ⟨settings, hsettings, hnames⟩ := exists_variableSettings h.plain
  obtain rfl : settings = fromVariables := Except.ok.inj (hsettings.symm.trans hvariables)
  obtain ⟨hsome, hnone⟩ := hnames f.name (by cases f <;> decide)
  rw [Option.or_eq_some_iff, hsome, hnone]
  constructor
  · rintro (⟨hlast, hvalue⟩ | ⟨hnone, hfile⟩)
    · exact Or.inl ⟨_, hlast, hvalue⟩
    · exact Or.inr ⟨hnone, hfile⟩
  · rintro (⟨value, hlast, hvalue⟩ | ⟨hnone, hfile⟩)
    · exact .byVariable hlast hvalue
    · exact .byFile hnone hfile

/-- The layers of a file and an environment set each field to what these set its name to. -/
theorem exists_layers (h : Loadable file fromFile environment) : ∃ layers : Layers,
    load file environment = ofLayers layers ∧
      ∀ (f : Field) s, layers.find? f.name = some s ↔ Sets fromFile environment f.name s := by
  obtain ⟨fromVariables, hvariables, -⟩ := exists_variableSettings h.plain
  refine ⟨[fromVariables, fromFile], ?_, fun f s => by rw [Layers.find?_pair, sets_iff h hvariables]⟩
  cases file with
  | none =>
    rw [load, hvariables, h.noTable rfl]
    refine ofLayers_congr fun f => ?_
    rw [Layers.find?_pair, List.lookup_nil, Option.or_none]
    simp [Layers.find?]
  | some text =>
    rw [load, hvariables]
    simp only [h.table text rfl]
    rfl

/-- A variable that is named for a setting, be it of a field or not, and whose value cannot be read ends the loading,
whatever the file says. -/
theorem load_of_unreadable {v : String × String} {name : String} (hv : v ∈ environment)
    (hnamed : NamedFor variableStart v.1 name) (hname : name ≠ "") (hdot : '.' ∉ v.1.toList)
    (hvalue : ∀ s, Setting.ofText v.2 ≠ .ok s) : ∃ e, load file environment = .error (.badCut e) := by
  obtain ⟨e, he⟩ := exists_variableSettings_eq_error hv hnamed hname hdot hvalue
  exact ⟨e, by rw [load, he]; rfl⟩

/-- **Bounds are loaded field by field.** Of a file, if there is one, that is a table, and of variables without points
in their names and with values that can be read, whatever else they set: bounds are loaded exactly if each field takes
what its name is set to, by the last variable that is named for it or else by the file; then each field holds this, or
its default if its name is not set. Files and environments that set the names of the fields to the same give the same,
error or not, so that no other name and nothing that a variable hides in the file counts. -/
theorem load_by_field (h : Loadable file fromFile environment) :
    (∀ b, load file environment = .ok b ↔ ∀ f : Field,
      (∀ s, Sets fromFile environment f.name s → f.Takes s (b.get f)) ∧
      ((∀ s, ¬ Sets fromFile environment f.name s) → b.get f = get {} f)) ∧
    ((∃ b, load file environment = .ok b) ↔
      ∀ (f : Field) s, Sets fromFile environment f.name s → ∃ v, f.Takes s v) ∧
    ∀ file' fromFile' environment', Loadable file' fromFile' environment' →
      (∀ (f : Field) s, Sets fromFile' environment' f.name s ↔ Sets fromFile environment f.name s) →
        load file' environment' = load file environment := by
  obtain ⟨layers, hload, hsets⟩ := exists_layers h
  have hrange : ∀ (f : Field) s, layers.find? f.name = some s → s.InRange :=
    fun f s hs => inRange_of_sets h ((hsets f s).1 hs)
  refine ⟨fun b => ?_, ?_, fun file' fromFile' environment' h' hsame => ?_⟩
  · rw [hload, ofLayers_eq_ok_iff hrange]
    simp only [Settled, hsets, Option.eq_none_iff_forall_ne_some, ne_eq]
  · rw [hload, exists_ofLayers_iff hrange]
    simp only [hsets]
  · obtain ⟨layers', hload', hsets'⟩ := exists_layers h'
    rw [hload, hload']
    refine ofLayers_congr fun f => Option.ext fun s => ?_
    rw [hsets', hsame, hsets]

/-- A file with a flag that does not fit, hidden by a variable, and with a name of no field. -/
theorem load_by_field_hidden :
    let file := "max_branches = 250\nlog = 7\nthreads = [1]\n"
    let fromFile : List (String × Setting) := [("max_branches", .integer 250), ("log", .integer 7), ("threads", .list)]
    let environment := [("weft_LOG", "true"), ("WEFT_PREEMPTION_BOUND", "2"), ("WEFT_COLOR", "[red"), ("HOME", "/")]
    Loadable (some file) fromFile environment ∧
      load (some file) environment = .ok { preemptionBound := some 2, maxBranches := 250, log := true } := by
  intro file fromFile environment
  have hplain : Plain variableStart environment := by
    have hdots : ∀ v ∈ environment, '.' ∉ v.1.toList := by decide
    have hvalues : ∀ v ∈ environment, ∃ s, Setting.ofText v.2 = .ok s := by
      simp only [environment, List.forall_mem_cons]
      exact ⟨⟨_, rfl⟩, ⟨_, rfl⟩, ⟨_, rfl⟩, ⟨_, rfl⟩, by simp⟩
    exact ⟨fun v hv _ _ => hdots v hv, fun v hv _ _ _ => hvalues v hv⟩
  have htable : Toml.read? file = some fromFile := by decide +kernel
  have h : Loadable (some file) fromFile environment := by
    refine ⟨fun text ht => ?_, fun hnone => ?_, hplain⟩
    · cases ht
      exact htable
    · cases hnone
  have hvariables : variableSettings variableStart environment =
      .ok [("color", .text "[red"), ("preemption_bound", .natural 2), ("log", .flag true)] := rfl
  refine ⟨h, ((load_by_field h).1 _).2 fun f => ?_⟩
  simp only [sets_iff h hvariables]
  cases f with
  | preemptionBound => exact ⟨fun s hs => by cases hs; exact .natural rfl (by decide), fun hn => absurd rfl (hn _)⟩
  | maxBranches => exact ⟨fun s hs => by cases hs; exact .integer rfl (by decide), fun hn => absurd rfl (hn _)⟩
  | log => exact ⟨fun s hs => by cases hs; exact .flag rfl, fun hn => absurd rfl (hn _)⟩
  | maxPermutations | maxDurationSecs | location => exact ⟨fun s hs => (by cases hs), fun _ => rfl⟩

end Load

end Bounds

end Interleave
