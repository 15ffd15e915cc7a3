import Interleave.Event.Stream
import Interleave.Proofs.Event.Members

/-!
# Events are read back

- The text of an event is an object with its tag and its fields (`chars_eq`).
- An event is read back from its text (`read_text`), and a part of its text that is not empty is malformed
  (`read_of_cutOff`).
- The text begins and ends with a brace, so nothing is trimmed off it (`trim_chars`), and it has no line end
  (`newline_notMem_chars`).
-/

namespace Interleave.Event

open Json Text

/-! ## Texts of events -/

theorem intercalate_cons {α : Type} (sep x : List α) (xs : List (List α)) :
    List.intercalate sep (x :: xs) = x ++ xs.flatMap (sep ++ ·) := by
  induction xs generalizing x with
  | nil => simp
  | cons y ys ih =>
    rw [List.flatMap_cons, List.append_assoc, ← ih]
    simp

/-- The text of an event is an object with its tag and its fields. -/
theorem chars_eq (e : Event) : e.chars = objectText ("event", e.tag) e.fields := by
  rw [chars, List.map_cons, intercalate_cons, objectText, tailText, List.append_assoc, List.flatMap_map]
  rfl

/-! ## Reading what was written -/

/-- The members of an object that stops at a fault are not read. -/
theorem splitTag_error {e : SyntaxFault} (tag : Option Tag) (others : List (String × Document))
    (docs : List (Except SyntaxFault String × Document)) :
    ∃ e', splitTag (.error e) tag others docs = .error e' := by
  induction docs generalizing tag others with
  | nil => exact ⟨_, rfl⟩
  | cons d docs ih =>
    obtain ⟨e' | key, d⟩ := d
    · exact ⟨_, rfl⟩
    · rw [splitTag]
      split
      · split
        · exact ⟨_, rfl⟩
        · cases Tag.ofDocument d with
          | error e' => exact ⟨e', rfl⟩
          | ok t => exact ih (some t) others
      · cases checkFault (d.fault? 1) with
        | error e' => exact ⟨e', rfl⟩
        | ok _ => exact ih tag (others ++ [(key, d)])

/-- The members of an object behind its tag: their names, and their values as strings. -/
def Fields (members : List (String × Document)) (fields : List (String × String)) : Prop :=
  List.Forall₂ (fun d f => d.1 = f.1 ∧ d.2.IsString f.2) members fields

/-- Members behind the tag that are no tags are kept as they are. -/
theorem splitTag_of_holds {docs : List (Except SyntaxFault String × Document)} {fields : List (String × String)}
    (h : Holds docs fields) (hkeys : ∀ f ∈ fields, f.1 ≠ "event") (stop : Position) (t : Tag)
    (others : List (String × Document)) :
    ∃ members, splitTag (.ok stop) (some t) others docs = .ok (t, others ++ members) ∧ Fields members fields := by
  induction h generalizing others with
  | nil => exact ⟨[], by rw [splitTag, List.append_nil], .nil⟩
  | @cons d f docs fields hd _ ih =>
    obtain ⟨key, d⟩ := d
    obtain ⟨rfl, hd⟩ := hd
    rw [List.forall_mem_cons] at hkeys
    obtain ⟨members, hread, hmembers⟩ := ih hkeys.2 (others ++ [(f.1, d)])
    have hfault : d.fault? 1 = none := by
      obtain ⟨place, rfl⟩ := hd
      rfl
    refine ⟨(f.1, d) :: members, ?_, .cons ⟨rfl, hd⟩ hmembers⟩
    rw [splitTag, if_neg hkeys.1, hfault]
    rw [List.append_assoc] at hread
    exact hread

/-- The kind of an event. -/
def kind : Event → Tag
  | completed => .completed
  | exception _ _ _ => .exception
  | violation _ => .violation

/-- The tag of an event is read as its kind. -/
theorem ofDocument_tag {d : Document} {e : Event} (hd : d.IsString e.tag) : Tag.ofDocument d = .ok e.kind := by
  obtain ⟨place, rfl⟩ := hd
  cases e <;> rfl

theorem stringOf_eq {d : Document} {s : String} (hd : d.IsString s) : stringOf d = .ok s := by
  obtain ⟨place, rfl⟩ := hd
  rfl

theorem optionalStringOf_eq {d : Document} {s : String} (hd : d.IsString s) :
    optionalStringOf d = .ok (some s) := by
  obtain ⟨place, rfl⟩ := hd
  rfl

theorem fields_ne_event (e : Event) : ∀ f ∈ e.fields, f.1 ≠ "event" := by
  obtain _ | ⟨t, m, _ | b⟩ | d := e <;> simp [fields]

theorem Fields.exists_cons {members : List (String × Document)} {fields : List (String × String)} {name s : String}
    (h : Fields members ((name, s) :: fields)) :
    ∃ d rest, members = (name, d) :: rest ∧ d.IsString s ∧ Fields rest fields := by
  rcases h with _ | @⟨⟨key, d⟩, _, rest, _, ⟨hkey, hd⟩, hrest⟩
  exact ⟨d, rest, by rw [show key = name from hkey], hd, hrest⟩

theorem Fields.eq_nil {members : List (String × Document)} (h : Fields members []) : members = [] :=
  List.forall₂_nil_right_iff.1 h

/-- An event is made of its fields. -/
theorem ofMembers_fields {members : List (String × Document)} {e : Event} (h : Fields members e.fields) :
    ofMembers e.kind members = .ok e := by
  cases e with
  | completed => rfl
  | exception t m b =>
    obtain ⟨d, _, rfl, ht, h⟩ := h.exists_cons
    obtain ⟨d', _, rfl, hm, h⟩ := h.exists_cons
    cases b with
    | none =>
      obtain rfl := h.eq_nil
      simp only [kind, ofMembers, ExceptionFields.ofMembers, stringOf_eq ht, stringOf_eq hm]
      rfl
    | some b =>
      obtain ⟨d'', _, rfl, hb, h⟩ := h.exists_cons
      obtain rfl := h.eq_nil
      simp only [kind, ofMembers, ExceptionFields.ofMembers, stringOf_eq ht, stringOf_eq hm, optionalStringOf_eq hb]
      rfl
  | violation description =>
    obtain ⟨d, _, rfl, hd, h⟩ := h.exists_cons
    obtain rfl := h.eq_nil
    simp only [kind, ofMembers, descriptionOfMembers, stringOf_eq hd]
    rfl

theorem ofDocument_object (start : Position) (docs : List (Except SyntaxFault String × Document))
    (stop : Except SyntaxFault Position) :
    ofDocument (.object start docs stop) = splitTag stop none [] docs >>= fun r => ofMembers r.1 r.2 := rfl

theorem read_eq (line : String) : read line = ofDocument (Document.read line).1 >>= fun e =>
    checkFault (Document.read line).2 >>= fun _ => pure e := rfl

/-- An event is read back from its text. -/
theorem read_text (e : Event) : read e.text = .ok e := by
  obtain ⟨start, docs, stop, hread, hholds⟩ := read_objectText ("event", e.tag) e.fields
  rcases hholds with _ | @⟨⟨key, d⟩, _, docs, _, ⟨hkey, hd⟩, hholds⟩
  obtain ⟨members, hsplit, hmembers⟩ := splitTag_of_holds hholds e.fields_ne_event stop e.kind []
  have htag : splitTag (.ok stop) none [] ((key, d) :: docs) = .ok (e.kind, members) := by
    rw [show key = .ok "event" from hkey, splitTag, if_pos rfl, ofDocument_tag hd]
    exact hsplit
  rw [read_eq, text, chars_eq, hread, ofDocument_object, htag]
  exact congrArg (· >>= fun e => pure e) (ofMembers_fields hmembers)

/-- A part of the text of an event is malformed, unless it is empty. -/
theorem read_of_cutOff {e : Event} {q : List Char} (hq : CutOff q e.chars) (hne : q ≠ []) :
    ∃ e', read (String.ofList q) = .error e' := by
  rw [chars_eq] at hq
  obtain ⟨start, docs, fault, hread⟩ := read_of_cutOff_objectText hq hne
  obtain ⟨e', he'⟩ := splitTag_error (e := fault) none [] docs
  exact ⟨e', by rw [read_eq, hread, ofDocument_object, he']; rfl⟩

/-! ## Lines -/

/-- A text that begins with no blank begins as before when it is trimmed, and becomes a beginning of itself. -/
theorem exists_trim_cons {x : Char} (hx : isBlank x = false) (cs : List Char) :
    ∃ ds, trim (x :: cs) = x :: ds ∧ ds <+: cs := by
  have hlast : (cs.reverse ++ [x]).dropWhile isBlank = cs.reverse.dropWhile isBlank ++ [x] := by
    rw [List.dropWhile_append, List.dropWhile_cons_of_neg (by simp [hx])]
    split
    · rename_i hnil
      rw [List.isEmpty_iff.1 hnil, List.nil_append]
    · rfl
  refine ⟨(cs.reverse.dropWhile isBlank).reverse, ?_, ?_⟩
  · rw [trim, trimBy, List.dropWhile_cons_of_neg (by simp [hx]), List.reverse_cons, hlast]
    simp
  · rw [← List.reverse_suffix, List.reverse_reverse]
    exact List.dropWhile_suffix _

/-- Nothing is trimmed off a text that ends, as it begins, with no blank. -/
theorem trim_eq_self {x y : Char} {cs ds : List Char} (hx : isBlank x = false) (hy : isBlank y = false)
    (h : x :: cs = ds ++ [y]) : trim (x :: cs) = x :: cs := by
  rw [trim, trimBy, List.dropWhile_cons_of_neg (by simp [hx]), h, List.reverse_append]
  simp [hy]

/-- The text of an event stands between braces. -/
theorem exists_chars_eq (e : Event) : ∃ cs, e.chars = '\x7b' :: (cs ++ ['\x7d']) := ⟨_, rfl⟩

theorem trim_chars (e : Event) : trim e.chars = e.chars := by
  obtain ⟨cs, h⟩ := e.exists_chars_eq
  rw [h]
  have hends : '\x7b' :: (cs ++ ['\x7d']) = ('\x7b' :: cs) ++ ['\x7d'] := rfl
  exact trim_eq_self (by decide) (by decide) hends

/-- No line end is written in an event. -/
theorem newline_notMem_chars (e : Event) : '\n' ∉ e.chars := by
  have hstring : ∀ s : List Char, '\n' ∉ stringText s := by
    intro s h
    simp only [stringText, List.mem_cons, List.mem_append, List.mem_flatMap, List.not_mem_nil, or_false] at h
    rcases h with h | ⟨x, -, h⟩ | h
    · exact absurd h (by decide)
    · exact newline_notMem_escapeChar x h
    · exact absurd h (by decide)
  have hmember : ∀ key value, '\n' ∉ memberText key value := by
    intro key value h
    rw [memberText, List.mem_append, List.mem_cons] at h
    rcases h with h | h | h
    · exact hstring _ h
    · exact absurd h (by decide)
    · exact hstring _ h
  rw [chars_eq, objectText, tailText]
  simp only [List.mem_cons, List.mem_append, List.mem_flatMap, List.not_mem_nil, or_false, not_or, not_exists,
    not_and]
  refine ⟨by decide, hmember _ _, fun m _ => ⟨by decide, hmember _ _⟩, by decide⟩

end Interleave.Event
