import Interleave.Payload.Arguments
import Interleave.Payload.Basic
import Interleave.Proofs.Text.Separator

/-!
# Reading tokens that hold an option with its value

A token list of options with their values in the same token is read one option at a time, whatever the values are
(`readTokens_token`); so reading it is taking the options in, in their order (`readTokens_map_token`). Options that
may be repeated keep all their values (`setAll_befores`, `setAll_afters`).
-/

namespace Interleave

open Text

/-- An option with its value in one token is recognised, and the value is what stands behind the first `=`. -/
theorem Token.ofString_token (o : PayloadOption) (v : String) : ofString (o.token v) = .option o (some v) := by
  have hlist : (o.token v).toList = '-' :: '-' :: (o.name.toList ++ ['='] ++ v.toList) := by
    simp [PayloadOption.token, String.toList_append]
  have hname : '=' ∉ o.name.toList := by cases o <;> simp [PayloadOption.name]
  have hcut : splitOnce ['='] (o.name.toList ++ ['='] ++ v.toList) = some (o.name.toList, v.toList) :=
    splitOnce_append_of_not_infix (by simp) (fun h => hname (h.subset (by simp))) _
  obtain ⟨c, cs, hcs⟩ : ∃ c cs, o.name.toList ++ ['='] ++ v.toList = c :: cs :=
    List.exists_cons_of_ne_nil (by simp)
  rw [hcs] at hlist hcut
  simp [ofString, hlist, hcut, PayloadOption.ofName?_name]

namespace Arguments

/-- An option with its value in the same token is taken in before the tokens behind it are looked at. -/
theorem readTokens_token (a : Arguments) (o : PayloadOption) (v : String) (rest : List String) :
    a.readTokens (o.token v :: rest) = (a.set o v).bind fun a => a.readTokens rest := by
  cases rest with
  | nil =>
    rw [readTokens, Token.ofString_token]
    show a.set o v = (a.set o v).bind fun a => .ok a
    cases a.set o v <;> rfl
  | cons next rest =>
    rw [readTokens, Token.ofString_token]
    rfl

/-- Takes in options with their values, one after the other. -/
def setAll (a : Arguments) : List (PayloadOption × String) → Except ArgumentError Arguments
  | [] => .ok a
  | (o, v) :: rest => (a.set o v).bind fun a => a.setAll rest

/-- Tokens that hold an option with its value are taken in one after the other. -/
theorem readTokens_map_token (a : Arguments) (ovs : List (PayloadOption × String)) :
    a.readTokens (ovs.map fun ov => ov.1.token ov.2) = a.setAll ovs := by
  induction ovs generalizing a with
  | nil => rfl
  | cons ov ovs ih =>
    rw [List.map_cons, readTokens_token, setAll]
    cases a.set ov.1 ov.2 with
    | error e => rfl
    | ok a' => exact ih a'

theorem setAll_append (a : Arguments) (ovs ovs' : List (PayloadOption × String)) :
    a.setAll (ovs ++ ovs') = (a.setAll ovs).bind fun a => a.setAll ovs' := by
  induction ovs generalizing a with
  | nil => rfl
  | cons ov ovs ih =>
    rw [List.cons_append, setAll, setAll]
    cases a.set ov.1 ov.2 with
    | error e => rfl
    | ok a' => exact ih a'

/-- An option that adds its value to the others adds all values that it is given, in their order. -/
theorem setAll_map_of_set {o : PayloadOption} {f : Arguments → List String → Arguments}
    (hset : ∀ (a : Arguments) (v : String), a.set o v = .ok (f a [v])) (hnil : ∀ a, f a [] = a)
    (happ : ∀ a vs ws, f (f a vs) ws = f a (vs ++ ws)) (a : Arguments) (vs : List String) :
    a.setAll (vs.map (o, ·)) = .ok (f a vs) := by
  induction vs generalizing a with
  | nil => rw [hnil]; rfl
  | cons v vs ih =>
    rw [List.map_cons, setAll, hset]
    show (f a [v]).setAll (vs.map (o, ·)) = _
    rw [ih, happ]
    rfl

/-- The befores of a payload are taken in behind those that are there. -/
theorem setAll_befores (a : Arguments) (names : List String) :
    a.setAll (names.map (PayloadOption.beforeMethod, ·)) = .ok { a with befores := a.befores ++ names } :=
  setAll_map_of_set (f := fun a names => { a with befores := a.befores ++ names })
    (fun _ _ => rfl) (by simp) (by simp) a names

/-- The afters of a payload are taken in behind those that are there. -/
theorem setAll_afters (a : Arguments) (names : List String) :
    a.setAll (names.map (PayloadOption.afterMethod, ·)) = .ok { a with afters := a.afters ++ names } :=
  setAll_map_of_set (f := fun a names => { a with afters := a.afters ++ names })
    (fun _ _ => rfl) (by simp) (by simp) a names

end Arguments

end Interleave
