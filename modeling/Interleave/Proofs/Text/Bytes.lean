import Interleave.Text.Lines

/-!
# Texts as bytes

- What was encoded is decoded (`decode_encode`), and bytes that are decoded are the encoding of what they are decoded
  to (`encode_of_decode`).
- A text whose bytes begin the bytes of another text is a beginning of that text (`isPrefix_of_encode`), so no
  character is read out of a part of another.
- Bytes without a line end are one line (`lines_eq_singleton`), and a line end closes the line in front of it
  (`lines_append`); the encoding of a text has a line end only if the text has (`newline_notMem_encode`).
-/

namespace Interleave.Text

/-! ## Encoding and decoding -/

/-- A byte array is listed from any place on behind what was listed before. -/
theorem toList_loop (bytes : ByteArray) (start : Nat) (before : List UInt8) :
    ByteArray.toList.loop bytes start before = before.reverse ++ bytes.data.toList.drop start := by
  fun_induction ByteArray.toList.loop bytes start before with
  | case1 i before hlt ih =>
    have hcons := List.drop_eq_getElem_cons (l := bytes.data.toList) (i := i) (by simpa using hlt)
    rw [ih, hcons]
    simp [ByteArray.get!, hlt]
  | case2 i before hle =>
    have hdrop : bytes.data.toList.drop i = [] := List.drop_eq_nil_of_le (by simpa using hle)
    rw [hdrop, List.append_nil]

/-- The bytes of a text are those of its characters, one after the other. -/
theorem encode_eq (s : String) : encode s = s.toList.flatMap String.utf8EncodeChar := by
  have hbytes : s.toByteArray = (s.toList.flatMap String.utf8EncodeChar).toByteArray :=
    String.utf8Encode_toList.symm
  rw [encode, String.toUTF8_eq_toByteArray, ByteArray.toList, toList_loop, hbytes]
  simp

theorem encode_append (s t : String) : encode (s ++ t) = encode s ++ encode t := by
  simp only [encode_eq, String.toList_append, List.flatMap_append]

theorem toByteArray_encode (s : String) : (encode s).toByteArray = s.toByteArray := by
  rw [encode_eq]
  exact String.utf8Encode_toList

/-- What was encoded is decoded. -/
theorem decode_encode (s : String) : decode (encode s) = some s := by
  rw [decode, toByteArray_encode, String.fromUTF8?, dif_pos s.isValidUTF8]
  rfl

/-- Bytes that are decoded are the encoding of what they are decoded to. -/
theorem encode_of_decode {bytes : List UInt8} {s : String} (h : decode bytes = some s) : encode s = bytes := by
  rw [decode, String.fromUTF8?] at h
  split at h
  · cases h
    rw [← List.toByteArray_inj, toByteArray_encode]
    rfl
  · cases h

/-- A text whose bytes begin those of another text is a beginning of that text. -/
theorem isPrefix_of_encode {s t : String} (h : encode s <+: encode t) : s.toList <+: t.toList := by
  obtain ⟨rest, h⟩ := h
  apply List.isPrefix_of_utf8Encode_append_eq_utf8Encode rest.toByteArray
  rw [String.utf8Encode_toList, String.utf8Encode_toList, ← toByteArray_encode s, ← toByteArray_encode t,
    ← List.toByteArray_append, h]

/-- Bytes cut out of the front of an encoding are decoded to a beginning of the text, if they are decoded. -/
theorem exists_of_decode_front {bytes : List UInt8} {s t : String} (hp : bytes <+: encode t)
    (hne : bytes ≠ encode t) (h : decode bytes = some s) : s.toList <+: t.toList ∧ s ≠ t := by
  have hs : encode s = bytes := encode_of_decode h
  refine ⟨isPrefix_of_encode (hs ▸ hp), ?_⟩
  rintro rfl
  exact hne hs.symm

/-! ## Lines -/

/-- Only the line end has its byte in its encoding. -/
theorem newline_notMem_utf8EncodeChar {c : Char} (hc : c ≠ '\n') : (10 : UInt8) ∉ String.utf8EncodeChar c := by
  have hv : c.val.toNat ≠ 10 := by
    intro h
    apply hc
    apply Char.ext
    exact UInt32.toNat_inj.1 h
  have hlt : ∀ {n : Nat}, n ≠ 10 → n < 256 → (10 : UInt8) ≠ UInt8.ofNat n := by
    intro n hn hlt h
    have := congrArg UInt8.toNat h
    rw [UInt8.toNat_ofNat'] at this
    have h10 : (10 : UInt8).toNat = 10 := rfl
    omega
  unfold String.utf8EncodeChar
  dsimp only
  split
  · simpa using hlt hv (by omega)
  · split
    · simp only [List.mem_cons, List.not_mem_nil, or_false, not_or]
      exact ⟨hlt (by omega) (by omega), hlt (by omega) (by omega)⟩
    · split
      · simp only [List.mem_cons, List.not_mem_nil, or_false, not_or]
        exact ⟨hlt (by omega) (by omega), hlt (by omega) (by omega), hlt (by omega) (by omega)⟩
      · simp only [List.mem_cons, List.not_mem_nil, or_false, not_or]
        exact ⟨hlt (by omega) (by omega), hlt (by omega) (by omega), hlt (by omega) (by omega),
          hlt (by omega) (by omega)⟩

/-- A text without line ends has none in its encoding. -/
theorem newline_notMem_encode {s : String} (h : '\n' ∉ s.toList) : (10 : UInt8) ∉ encode s := by
  rw [encode_eq, List.mem_flatMap]
  rintro ⟨c, hc, hmem⟩
  refine newline_notMem_utf8EncodeChar ?_ hmem
  rintro rfl
  exact h hc

/-- A line end closes the line in front of it. -/
theorem lines_append {line : List UInt8} (h : (10 : UInt8) ∉ line) (rest : List UInt8) :
    lines (line ++ 10 :: rest) = line :: lines rest := by
  induction line with
  | nil => rw [List.nil_append, lines, if_pos rfl]
  | cons b line ih =>
    rw [List.mem_cons, not_or] at h
    rw [List.cons_append, lines, if_neg (Ne.symm h.1), ih h.2]

/-- Bytes without a line end are one line. -/
theorem lines_eq_singleton {line : List UInt8} (h : (10 : UInt8) ∉ line) (hne : line ≠ []) :
    lines line = [line] := by
  induction line with
  | nil => exact absurd rfl hne
  | cons b line ih =>
    rw [List.mem_cons, not_or] at h
    rw [lines, if_neg (Ne.symm h.1)]
    cases line with
    | nil => rfl
    | cons b' line => rw [ih h.2 (List.cons_ne_nil b' line)]

end Interleave.Text
