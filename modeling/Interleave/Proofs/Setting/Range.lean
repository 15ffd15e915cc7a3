import Interleave.Bounds.Load

/-!
# Settings are in range

A setting has no limit of its own, but whole numbers that are read have 64 bits.

- `Scan.Yields`, `CutScan.Yields`: all that a scanner reads has a property;
- files (`Toml.inRange_of_read?`): the values of statements are in range, and statements keep the entries of a table
  in range;
- variables (`Setting.inRange_of_ofText`).
-/

namespace Interleave

open Text

/-! ## What scanners read -/

namespace Text.Scan

/-- All that the scanner reads has the property. -/
def Yields {α : Type} (P : α → Prop) (s : Scan α) : Prop := ∀ cs a rest, s cs = some (a, rest) → P a

variable {α β : Type} {P : α → Prop} {Q : β → Prop}

theorem yields_pure {a : α} (h : P a) : Yields P (pure a) := by
  rintro cs b rest hb
  cases hb
  exact h

theorem yields_failure : Yields P (failure : Scan α) := by
  intro cs a rest h
  cases h

theorem Yields.bind {s : Scan α} {f : α → Scan β} (hs : Yields P s) (hf : ∀ a, P a → Yields Q (f a)) :
    Yields Q (s >>= f) := by
  intro cs b rest h
  obtain ⟨⟨a, mid⟩, ha, hb⟩ := Option.bind_eq_some_iff.1 h
  exact hf a (hs cs a mid ha) mid b rest hb

theorem yields_bind (s : Scan α) {f : α → Scan β} (hf : ∀ a, Yields Q (f a)) : Yields Q (s >>= f) :=
  Yields.bind (P := fun _ => True) (fun _ _ _ _ => trivial) fun a _ => hf a

theorem Yields.orElse {s t : Scan α} (hs : Yields P s) (ht : Yields P t) : Yields P (s <|> t) := by
  intro cs a rest h
  change (s cs).orElse _ = _ at h
  cases hc : s cs with
  | none =>
    rw [hc] at h
    exact ht cs a rest h
  | some r =>
    rw [hc] at h
    cases h
    exact hs cs a rest hc

end Text.Scan

namespace Setting.CutScan

/-- All that the scanner reads, unless a cut ends it, has the property. -/
def Yields {α : Type} (P : α → Prop) (s : CutScan α) : Prop := Scan.Yields (fun r => ∀ a, r = .ok a → P a) s.run

variable {α β : Type} {P : α → Prop} {Q : β → Prop}

theorem yields_pure {a : α} (h : P a) : Yields P (pure a) := by
  refine Scan.yields_pure fun b hb => ?_
  cases hb
  exact h

theorem Yields.bind {s : CutScan α} {f : α → CutScan β} (hs : Yields P s) (hf : ∀ a, P a → Yields Q (f a)) :
    Yields Q (s >>= f) := by
  refine Scan.Yields.bind hs fun r hr => ?_
  cases r with
  | ok a => exact hf a (hr a rfl)
  | error e => exact Scan.yields_pure fun b hb => by cases hb

theorem yields_bind (s : CutScan α) {f : α → CutScan β} (hf : ∀ a, Yields Q (f a)) : Yields Q (s >>= f) :=
  Yields.bind (P := fun _ => True) (fun _ _ _ _ _ _ => trivial) fun a _ => hf a

end Setting.CutScan

/-- A whole number has 64 bits, with a sign or without one as its source tells. -/
def Setting.InRange : Setting → Prop
  | natural n => n ≤ wordMax
  | integer n => -Nat.pow 2 63 ≤ n ∧ n < Nat.pow 2 63
  | _ => True

theorem Setting.inRange_integer_of_readInteger {cs : List Char} {n : Int}
    (h : Decimal.readInteger (Nat.pow 2 63) (Nat.pow 2 63 - 1) cs = .ok n) : (integer n).InRange := by
  obtain ⟨hlow, hhigh⟩ := Decimal.readInteger_bounds h
  exact ⟨hlow, Int.lt_of_le_of_lt hhigh (by decide)⟩

/-! ## Files -/

namespace Toml

section Values

open Scan

theorem yields_scanBased (mark : String) (base : Nat) : Yields Setting.InRange (scanBased mark base) := by
  unfold scanBased
  refine yields_bind _ fun _ => yields_bind _ fun digits => ?_
  split
  · split
    · rename_i n _ hn
      exact yields_pure ⟨Int.le_trans (by decide) (Int.natCast_nonneg n), Int.ofNat_lt.2 hn⟩
    · exact yields_failure
  · exact yields_failure

theorem yields_scanInteger : Yields Setting.InRange scanInteger := by
  unfold scanInteger
  refine (yields_scanBased _ _).orElse <| (yields_scanBased _ _).orElse <| (yields_scanBased _ _).orElse ?_
  refine yields_bind _ fun whole => ?_
  split
  · rename_i n hn
    exact yields_pure (Setting.inRange_integer_of_readInteger hn)
  · exact yields_failure

theorem yields_scanFloat : Yields Setting.InRange scanFloat := by
  unfold scanFloat
  refine yields_bind _ fun whole => yields_bind _ fun rest => ?_
  split
  · exact yields_failure
  · exact yields_failure
  · exact yields_pure trivial

theorem yields_scanSpecial : Yields Setting.InRange scanSpecial := by
  unfold scanSpecial
  refine yields_bind _ fun sign => .orElse ?_ ?_
  all_goals exact yields_bind _ fun _ => yields_pure trivial

theorem yields_scanCollection (value : Scan Setting) : Yields Setting.InRange (scanCollection value) := by
  intro cs
  refine Yields.orElse ?_ ?_ cs
  · exact yields_bind _ fun _ => yields_bind _ fun _ => yields_pure trivial
  · refine yields_bind _ fun _ => yields_bind _ fun _ => yields_bind _ fun closed => ?_
    split
    · exact yields_pure trivial
    · refine yields_bind _ fun keys => ?_
      split
      · exact yields_pure trivial
      · exact yields_failure

theorem yields_scanValueWithin (depth : Nat) : Yields Setting.InRange (scanValueWithin depth) := by
  have hmoment : Yields Setting.InRange scanMoment := yields_bind _ fun _ => yields_pure trivial
  have hvalue {collection : Scan Setting} (h : Yields Setting.InRange collection) : Yields Setting.InRange
      ((do return .text (String.ofList (← scanText))) <|> collection <|> scanMoment <|> scanFloat <|> scanSpecial <|>
        scanInteger <|> (do Scan.word "true"; return .flag true) <|> (do Scan.word "false"; return .flag false)) := by
    refine .orElse ?_ <| h.orElse <| hmoment.orElse <| yields_scanFloat.orElse <| yields_scanSpecial.orElse <|
      yields_scanInteger.orElse <| .orElse ?_ ?_
    all_goals exact yields_bind _ fun _ => yields_pure trivial
  cases depth with
  | zero => exact hvalue yields_failure
  | succ depth => exact hvalue (yields_scanCollection _)

/-- The value of a pair is in range. -/
def Statement.InRange : Statement → Prop
  | pair _ _ v => v.InRange
  | _ => True

theorem yields_scanStatements (fuel : Nat) : Yields (∀ s ∈ ·, Statement.InRange s) (scanStatements fuel) := by
  induction fuel with
  | zero => exact yields_failure
  | succ fuel ih =>
    have hpair : Yields Statement.InRange scanPair :=
      yields_bind _ fun _ => yields_bind _ fun _ => yields_bind _ fun _ =>
        (yields_scanValueWithin maxDepth).bind fun _ hv => yields_pure hv
    have hheader : Yields Statement.InRange scanHeader := by
      refine .orElse ?_ ?_
      all_goals exact yields_bind _ fun _ => yields_bind _ fun _ => yields_bind _ fun _ => yields_pure trivial
    have hrest (s : Statement) (hs : s.InRange) : Yields (∀ s ∈ ·, Statement.InRange s) (do
        scanLineEnd
        return s :: (← scanStatements fuel)) := by
      refine yields_bind _ fun _ => ih.bind fun rest hrest => yields_pure ?_
      exact List.forall_mem_cons.2 ⟨hs, hrest⟩
    refine yields_bind _ fun _ => yields_bind _ fun c => ?_
    cases c with
    | none => exact yields_pure (by simp)
    | some c =>
      dsimp only
      split
      · exact hheader.bind hrest
      · exact hpair.bind hrest

end Values

/-- What a key stands for is in range, unless it is a table or a list of tables. -/
def Entry.InRange : Entry → Prop
  | setting s => s.InRange
  | _ => True

namespace Table

/-- The entries of a table are in range; what is in the tables among them does not matter. -/
def InRange (t : Table) : Prop := ∀ entry ∈ t, entry.2.InRange

variable {t u : Table} {key : String} {e : Entry}

theorem InRange.append (ht : t.InRange) (he : e.InRange) : InRange (t ++ [(key, e)]) := by
  intro entry hentry
  rcases List.mem_append.1 hentry with h | h
  · exact ht entry h
  · cases List.mem_singleton.1 h
    exact he

theorem InRange.replace (ht : t.InRange) (he : e.InRange) : (t.replace key e).InRange := by
  intro entry hentry
  obtain ⟨old, hold, rfl⟩ := List.mem_map.1 hentry
  split
  · exact he
  · exact ht old hold

theorem InRange.append_of_map {o : Option Table} {f : Table → Entry} (ht : t.InRange)
    (h : (o.map fun v => t ++ [(key, f v)]) = some u) (hf : ∀ v, (f v).InRange) : u.InRange := by
  obtain ⟨v, -, rfl⟩ := Option.map_eq_some_iff.1 h
  exact ht.append (hf v)

theorem InRange.replace_of_map {o : Option Table} {f : Table → Entry} (ht : t.InRange)
    (h : (o.map fun v => t.replace key (f v)) = some u) (hf : ∀ v, (f v).InRange) : u.InRange := by
  obtain ⟨v, -, rfl⟩ := Option.map_eq_some_iff.1 h
  exact ht.replace (hf v)

/-- A step that keeps entries in range does so inside the table at any path. -/
theorem InRange.within {f : Table → Option Table} (hf : ∀ {t u}, t.InRange → f t = some u → u.InRange)
    {path : List String} (ht : t.InRange) (h : t.within f path = some u) : u.InRange := by
  cases path with
  | nil => exact hf ht h
  | cons key path =>
    rw [Table.within] at h
    split at h
    · exact ht.append_of_map h fun _ => trivial
    · exact ht.replace_of_map h fun _ => trivial
    · exact ht.replace_of_map h fun _ => trivial
    · cases h

theorem InRange.set {s : Setting} (hs : s.InRange) {path : List String} (ht : t.InRange)
    (h : t.set key s path = some u) : u.InRange := by
  cases path with
  | nil =>
    rw [Table.set] at h
    split at h
    · cases h
    · cases h
      exact ht.append hs
  | cons part path =>
    rw [Table.set] at h
    split at h
    · exact ht.append_of_map h fun _ => trivial
    · split at h
      · cases h
      · exact ht.replace_of_map h fun _ => trivial
    · split at h
      · cases h
      · exact ht.replace_of_map h fun _ => trivial
    · cases h

theorem InRange.openTable (ht : t.InRange) (h : t.openTable key = some u) : u.InRange := by
  rw [Table.openTable] at h
  split at h
  · cases h
    exact ht.append trivial
  · cases h
    exact ht.replace trivial
  · cases h

theorem InRange.openItem (ht : t.InRange) (h : t.openItem key = some u) : u.InRange := by
  rw [Table.openItem] at h
  split at h
  · cases h
    exact ht.append trivial
  · cases h
    exact ht.replace trivial
  · cases h

/-- A statement with a value in range keeps the entries in range. -/
theorem InRange.perform {place place' : List String} {s : Statement} (ht : t.InRange) (hs : s.InRange)
    (h : perform (t, place) s = some (u, place')) : u.InRange := by
  cases s with
  | pair path key v =>
    obtain ⟨w, hw, heq⟩ := Option.map_eq_some_iff.1 h
    cases heq
    exact ht.within (fun ht hv => ht.set hs hv) hw
  | table path key =>
    obtain ⟨w, hw, heq⟩ := Option.map_eq_some_iff.1 h
    cases heq
    exact ht.within (fun ht hv => ht.openTable hv) hw
  | item path key =>
    obtain ⟨w, hw, heq⟩ := Option.map_eq_some_iff.1 h
    cases heq
    exact ht.within (fun ht hv => ht.openItem hv) hw

/-- Statements with values in range keep the entries in range. -/
theorem InRange.foldlM_perform {statements : List Statement} (hs : ∀ s ∈ statements, s.InRange)
    {place place' : List String} (ht : t.InRange)
    (h : statements.foldlM Table.perform (t, place) = some (u, place')) : u.InRange := by
  induction statements generalizing t place with
  | nil =>
    cases h
    exact ht
  | cons s statements ih =>
    rw [List.forall_mem_cons] at hs
    rw [List.foldlM_cons] at h
    obtain ⟨⟨v, mid⟩, hv, h⟩ := Option.bind_eq_some_iff.1 h
    exact ih hs.2 (ht.perform hs.1 hv) h

end Table

/-- The settings of a file are in range. -/
theorem inRange_of_read? {file : String} {settings : List (String × Setting)} (h : read? file = some settings) :
    ∀ entry ∈ settings, entry.2.InRange := by
  simp only [read?, Option.bind_eq_bind, Option.bind_eq_some_iff] at h
  obtain ⟨cs, -, statements, hstatements, ⟨t, place⟩, ht, h⟩ := h
  cases h
  have hs : ∀ s ∈ statements, Statement.InRange s :=
    yields_scanStatements _ _ _ _ (Scan.whole?_eq_some_iff.1 hstatements)
  have hentries : Table.InRange t := Table.InRange.foldlM_perform hs (t := []) (by simp [Table.InRange]) ht
  intro entry hentry
  obtain ⟨⟨key, e⟩, he, rfl⟩ := List.mem_map.1 hentry
  cases e with
  | setting s => exact hentries _ he
  | table origin entries => exact trivial
  | tables last => exact trivial

end Toml

/-! ## Variables -/

namespace Setting

open CutScan

theorem inRange_ofPlain (cs : List Char) : (ofPlain cs).InRange := by
  rw [ofPlain]
  split
  · exact trivial
  · split
    · rename_i n hn
      obtain ⟨hlow, hhigh⟩ := Decimal.readInteger_bounds hn
      exact Int.toNat_le.2 hhigh
    · split
      · rename_i n hn
        exact inRange_integer_of_readInteger hn
      · exact trivial

theorem yields_scanMarked (value : CutScan Setting) : Yields InRange (scanMarked value) := by
  unfold scanMarked
  refine yields_bind _ fun b => ?_
  split
  · exact yields_pure trivial
  · refine yields_bind _ fun c => ?_
    split
    · exact yields_bind _ fun _ => yields_bind _ fun _ => yields_pure trivial
    · exact yields_bind _ fun _ => yields_bind _ fun _ => yields_pure trivial
    · exact yields_bind _ fun _ => yields_pure trivial
    · exact yields_bind _ fun _ => yields_bind _ fun _ => yields_bind _ fun _ => yields_pure trivial
    · exact yields_bind _ fun cs => yields_pure (inRange_ofPlain cs)

theorem yields_scanValue (depth : Nat) : Yields InRange (scanValue depth) := by
  cases depth with
  | zero => exact fun _ _ _ h => by cases h
  | succ depth =>
    exact yields_bind _ fun _ => (yields_scanMarked _).bind fun s hs => yields_bind _ fun _ => yields_pure hs

/-- What the value of a variable stands for is in range. -/
theorem inRange_of_ofText {value : String} {s : Setting} (h : ofText value = .ok s) : s.InRange := by
  unfold ofText at h
  dsimp only at h
  split at h
  · cases h
  · rename_i hs
    cases h
    exact yields_scanValue _ _ _ _ hs s rfl
  · cases h
    exact trivial

end Setting

end Interleave
