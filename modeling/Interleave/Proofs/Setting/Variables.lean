import Interleave.Proofs.Fallible
import Interleave.Setting.Variable

/-!
# The settings of an environment

- `NamedFor`: a variable is named for a setting if its name is a start and the name of the setting, in any case;
- `LastNamed`: of the variables that are named for one setting, the last one counts;
- `Plain`: the names of variables have no points, and their values can be read;
- the settings of a plain environment are what the variables that count say (`exists_variableSettings`);
- one value that cannot be read is enough that there are no settings (`exists_variableSettings_eq_error`).
-/

namespace Interleave

open Text

/-- Without blanks around it and in lower case, the name of a variable is the start and the name of a setting. -/
def NamedFor (start v name : String) : Prop :=
  ∃ rest, (trim v.toList).map Char.toLower = start.toList.map Char.toLower ++ rest ∧ trim rest = name.toList

/-- The last variable that is named for a setting has the value. -/
def LastNamed (start : String) (environment : List (String × String)) (name value : String) : Prop :=
  ∃ earlier v later, environment = earlier ++ (v, value) :: later ∧ NamedFor start v name ∧
    ∀ w ∈ later, ¬ NamedFor start w.1 name

/-- Variables that are named for settings have names without points, and values that can be read. -/
structure Plain (start : String) (environment : List (String × String)) : Prop where
  undotted : ∀ v ∈ environment, ∀ name, NamedFor start v.1 name → '.' ∉ v.1.toList
  readable : ∀ v ∈ environment, ∀ name ≠ "", NamedFor start v.1 name → ∃ s, Setting.ofText v.2 = .ok s

/-! ## One variable -/

theorem Text.splitAll_of_forall {p : Char → Bool} {cs : List Char} (h : ∀ c ∈ cs, p c = false) :
    splitAll p cs = [cs] := by
  induction cs with
  | nil => rfl
  | cons c cs ih =>
    rw [List.forall_mem_cons] at h
    simp [splitAll, ih h.2, h.1]

theorem Text.mem_of_mem_trim {c : Char} {cs : List Char} (h : c ∈ trim cs) : c ∈ cs := by
  rw [trim, trimBy, List.mem_reverse] at h
  have h' := (List.dropWhile_suffix _).subset h
  exact (List.dropWhile_suffix _).subset (List.mem_reverse.1 h')

theorem Text.eq_of_toLower_eq_point {c : Char} (h : c.toLower = '.') : c = '.' := by
  change dite (c.val ≥ 'A'.val ∧ c.val ≤ 'Z'.val) _ _ = '.' at h
  split at h
  · rename_i hupper
    -- the small letters come after the point
    have hlow : 65 ≤ c.val := hupper.1
    have hhigh : c.val ≤ 90 := hupper.2
    have hval : c.val + 32 = 46 := congrArg Char.val h
    grind
  · exact h

namespace NamedFor

variable {start v name : String}

theorem eq {name' : String} (h : NamedFor start v name) (h' : NamedFor start v name') : name = name' := by
  obtain ⟨rest, hrest, hname⟩ := h
  obtain ⟨rest', hrest', hname'⟩ := h'
  rw [hrest, List.append_cancel_left_eq] at hrest'
  rw [← String.toList_inj, ← hname, ← hname', hrest']

/-- A point in the name of a setting is one in the name of the variable. -/
theorem mem_of_point_mem (h : NamedFor start v name) (hdot : '.' ∈ name.toList) : '.' ∈ v.toList := by
  obtain ⟨rest, hrest, hname⟩ := h
  rw [← hname] at hdot
  have hmem : '.' ∈ (trim v.toList).map Char.toLower :=
    hrest ▸ List.mem_append_right _ (mem_of_mem_trim hdot)
  obtain ⟨c, hc, hlower⟩ := List.mem_map.1 hmem
  exact eq_of_toLower_eq_point hlower ▸ mem_of_mem_trim hc

/-- A variable gives a setting for the name that it is named for, unless that is empty. -/
theorem variableName?_eq (h : NamedFor start v name) (hdot : '.' ∉ v.toList) :
    variableName? start v = if name = "" then none else some (name, false) := by
  have hsplit : splitAll (· == '.') name.toList = [name.toList] := by
    refine splitAll_of_forall fun c hc => beq_eq_false_iff_ne.2 ?_
    rintro rfl
    exact hdot (h.mem_of_point_mem hc)
  obtain ⟨rest, hrest, hname⟩ := h
  have hstart : (start.toList.map Char.toLower).isPrefixOf (start.toList.map Char.toLower ++ rest) := by simp
  simp only [variableName?, hrest]
  rw [if_pos hstart, List.length_map, ← List.length_map (f := Char.toLower), List.drop_left, hname, hsplit]
  by_cases he : name = ""
  · simp [he]
  · simp [he]

end NamedFor

/-- A variable that is named for nothing gives nothing. -/
theorem variableName?_eq_none {start v : String} (h : ∀ name, ¬ NamedFor start v name) :
    variableName? start v = none := by
  simp only [variableName?]
  rw [if_neg]
  intro hstart
  obtain ⟨rest, hrest⟩ := List.isPrefixOf_iff_prefix.1 hstart
  exact h (String.ofList (trim rest)) ⟨rest, hrest.symm, by simp⟩

/-! ## All variables -/

section Environment

variable {start : String} {v : String × String} {environment : List (String × String)}

theorem lastNamed_cons_iff {name value : String} : LastNamed start (v :: environment) name value ↔
    LastNamed start environment name value ∨
      NamedFor start v.1 name ∧ v.2 = value ∧ ∀ w ∈ environment, ¬ NamedFor start w.1 name := by
  constructor
  · rintro ⟨_ | ⟨u, earlier⟩, w, later, heq, hw, hlater⟩
    · cases heq
      exact Or.inr ⟨hw, rfl, hlater⟩
    · cases heq
      exact Or.inl ⟨earlier, w, later, rfl, hw, hlater⟩
  · rintro (⟨earlier, w, later, rfl, hw, hlater⟩ | ⟨hv, rfl, hlater⟩)
    · exact ⟨v :: earlier, w, later, rfl, hw, hlater⟩
    · exact ⟨[], v.1, environment, rfl, hv, hlater⟩

theorem Plain.of_cons (h : Plain start (v :: environment)) : Plain start environment where
  undotted w hw := h.undotted w (List.mem_cons_of_mem _ hw)
  readable w hw := h.readable w (List.mem_cons_of_mem _ hw)

/-- A plain variable gives the setting that its value stands for to the name that it is named for, if that is a name,
and nothing to other names. -/
theorem Plain.exists_variableSetting? (h : Plain start (v :: environment)) : ∃ o, variableSetting? start v = .ok o ∧
    ∀ name ≠ "", (∀ s, o.toList.lookup name = some s ↔ NamedFor start v.1 name ∧ Setting.ofText v.2 = .ok s) ∧
      (o.toList.lookup name = none ↔ ¬ NamedFor start v.1 name) := by
  by_cases hnamed : ∃ name, NamedFor start v.1 name
  · obtain ⟨own, hown⟩ := hnamed
    have hgives := hown.variableName?_eq (h.undotted v List.mem_cons_self own hown)
    by_cases he : own = ""
    · refine ⟨none, by rw [variableSetting?, hgives, if_pos he], fun name hname => ?_⟩
      have hother : ¬ NamedFor start v.1 name := fun h => hname (hown.eq h ▸ he)
      simp [hother]
    · obtain ⟨s, hs⟩ := h.readable v List.mem_cons_self own he hown
      refine ⟨some (own, s), by rw [variableSetting?, hgives, if_neg he, hs]; rfl, fun name _ => ?_⟩
      by_cases hname : name = own
      · subst hname
        simp [hown, hs]
      · have hother : ¬ NamedFor start v.1 name := fun h => hname (h.eq hown)
        simp [hother, List.lookup_cons, beq_eq_false_iff_ne.2 hname]
  · have hnone : ∀ name, ¬ NamedFor start v.1 name := fun name hname => hnamed ⟨name, hname⟩
    exact ⟨none, by rw [variableSetting?, variableName?_eq_none hnone], fun name _ => by simp [hnone]⟩

/-- What a variable gives comes after what those behind it give. -/
theorem variableSettings_cons {o : Option (String × Setting)} {settings : List (String × Setting)}
    (hv : variableSetting? start v = .ok o) (h : variableSettings start environment = .ok settings) :
    variableSettings start (v :: environment) = .ok (settings ++ o.toList) := by
  rw [variableSettings] at h ⊢
  rw [List.mapM_cons, hv]
  cases hrest : environment.mapM (variableSetting? start) with
  | error e =>
    rw [hrest] at h
    cases h
  | ok os =>
    rw [hrest] at h
    cases h
    cases o <;> simp [bind, Except.bind, pure, Except.pure]

/-- **The settings of a plain environment.** Each name has the setting that the last variable named for it says, and no
setting if there is no such variable. -/
theorem exists_variableSettings (h : Plain start environment) : ∃ settings,
    variableSettings start environment = .ok settings ∧ ∀ name ≠ "",
      (∀ s, settings.lookup name = some s ↔
        ∃ value, LastNamed start environment name value ∧ Setting.ofText value = .ok s) ∧
      (settings.lookup name = none ↔ ∀ v ∈ environment, ¬ NamedFor start v.1 name) := by
  induction environment with
  | nil =>
    refine ⟨[], rfl, fun name _ => ⟨fun s => ?_, by simp⟩⟩
    have hnone (value : String) : ¬ LastNamed start [] name value := by simp [LastNamed]
    simp [hnone]
  | cons v environment ih =>
    obtain ⟨settings, hsettings, hlater⟩ := ih h.of_cons
    obtain ⟨o, ho, hfirst⟩ := h.exists_variableSetting?
    refine ⟨settings ++ o.toList, variableSettings_cons ho hsettings, fun name hname => ?_⟩
    obtain ⟨hsome, hnone⟩ := hlater name hname
    obtain ⟨hsome', hnone'⟩ := hfirst name hname
    rw [List.lookup_append]
    constructor
    · intro s
      rw [Option.or_eq_some_iff, hsome, hnone, hsome']
      simp only [lastNamed_cons_iff, or_and_right, exists_or]
      refine or_congr_right ⟨?_, ?_⟩
      · rintro ⟨hlast, hv, hs⟩
        exact ⟨v.2, ⟨hv, rfl, hlast⟩, hs⟩
      · rintro ⟨_, ⟨hv, rfl, hlast⟩, hs⟩
        exact ⟨hlast, hv, hs⟩
    · rw [Option.or_eq_none_iff, hnone, hnone', List.forall_mem_cons, and_comm]

/-- If the value of one variable that is named for a setting cannot be read, there are no settings. -/
theorem exists_variableSettings_eq_error {name : String} (hv : v ∈ environment) (hnamed : NamedFor start v.1 name)
    (hname : name ≠ "") (hdot : '.' ∉ v.1.toList) (hvalue : ∀ s, Setting.ofText v.2 ≠ .ok s) :
    ∃ e, variableSettings start environment = .error e := by
  have hunread : ¬ ∃ o, variableSetting? start v = .ok o := by
    rintro ⟨o, ho⟩
    rw [variableSetting?, hnamed.variableName?_eq hdot, if_neg hname] at ho
    obtain ⟨s, hs, -⟩ := bind_eq_ok_iff.1 ho
    exact hvalue s hs
  rw [variableSettings]
  cases hall : environment.mapM (variableSetting? start) with
  | error e => exact ⟨e, rfl⟩
  | ok os => exact absurd (exists_mapM_eq_ok_iff.1 ⟨os, hall⟩ v hv) hunread

end Environment

end Interleave
