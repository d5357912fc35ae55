/-
**What is shown of bytes that need not be text.**

* `decodes_take`: up to the first bad sequence the bytes are a text;
* **`flatMap_chunks`**: the chunks of bytes hold all of them, in their order;
* `chunks_utf8Bytes`, `displayed_utf8Bytes`, `quotedBytes_utf8Bytes`: a text is one chunk, and is
  shown as it is.
-/

import IncompleteBeta.Proofs.Text.Utf8
import IncompleteBeta.Text.Displayed

namespace IncompleteBeta.Text

/-! ### Bad sequences -/

/-- Where decoding fails, the character at hand is bad, or all characters before the bad sequence
are read. -/
theorem decodesFrom_take {index start code : Nat} {expected : List (Nat × Nat)} {read : List Char}
    {bytes : List UInt8} {fault : Utf8Fault}
    (fails : decodeFrom index start expected code read bytes = .error fault) :
    (expected ≠ [] ∧ fault.validUpTo = start) ∨ (index ≤ fault.validUpTo ∧
      ∃ text, decodeFrom index start expected code read
        (bytes.take (fault.validUpTo - index)) = .ok text) := by
  -- What is left out begins after the byte that is read here.
  have taken {byte : UInt8} {bytes : List UInt8} {index upTo : Nat} (after : index + 1 ≤ upTo) :
      (byte :: bytes).take (upTo - index) = byte :: bytes.take (upTo - (index + 1)) := by
    rw [show upTo - index = upTo - (index + 1) + 1 by omega, List.take_succ_cons]
  fun_induction decodeFrom index start expected code read bytes with
  | case1 => cases fails
  | case2 =>
    cases fails
    exact .inl ⟨List.cons_ne_nil _ _, rfl⟩
  | case3 start code index read byte bytes announced =>
    cases fails
    refine .inr ⟨Nat.le_refl _, read.reverse, ?_⟩
    rw [Nat.sub_self, List.take_zero, decodeFrom]
  | case4 start code index read byte bytes bits announced ih =>
    obtain ⟨inner, -⟩ | ⟨after, text, decodes⟩ := ih fails
    · exact absurd rfl inner
    · refine .inr ⟨Nat.le_of_succ_le after, text, ?_⟩
      rw [taken after, decodeFrom, announced]
      exact decodes
  | case5 start code index read byte bytes expected bits inner announced ih =>
    obtain ⟨range, ranges, rfl⟩ := List.exists_cons_of_ne_nil inner
    obtain ⟨-, first⟩ | ⟨after, text, decodes⟩ := ih fails
    · refine .inr ⟨Nat.le_of_eq first.symm, read.reverse, ?_⟩
      rw [first, Nat.sub_self, List.take_zero, decodeFrom]
    · refine .inr ⟨Nat.le_of_succ_le after, text, ?_⟩
      rw [taken after, decodeFrom_first announced]
      exact decodes
  | case6 index start least greatest expected code read byte bytes inside gathered last ih =>
    obtain rfl := List.isEmpty_iff.mp last
    obtain ⟨inner, -⟩ | ⟨after, text, decodes⟩ := ih fails
    · exact absurd rfl inner
    · refine .inr ⟨Nat.le_of_succ_le after, text, ?_⟩
      rw [taken after, decodeFrom_last inside]
      exact decodes
  | case7 index start least greatest expected code read byte bytes inside gathered more ih =>
    obtain ⟨range, ranges, rfl⟩ := List.exists_cons_of_ne_nil (by simpa using more)
    obtain ⟨-, first⟩ | ⟨after, text, decodes⟩ := ih fails
    · exact .inl ⟨List.cons_ne_nil _ _, first⟩
    · refine .inr ⟨Nat.le_of_succ_le after, text, ?_⟩
      rw [taken after, decodeFrom_inner inside]
      exact decodes
  | case8 =>
    cases fails
    exact .inl ⟨List.cons_ne_nil _ _, rfl⟩

/-- **Up to the first bad sequence the bytes are a text.** -/
theorem decodes_take {bytes : List UInt8} {fault : Utf8Fault}
    (fails : decodeUtf8 bytes = .error fault) :
    ∃ text, decodeUtf8 (bytes.take fault.validUpTo) = .ok text := by
  obtain ⟨inner, -⟩ | ⟨-, text, decodes⟩ := decodesFrom_take fails
  · exact absurd rfl inner
  · exact ⟨text, decodes⟩

/-! ### Chunks -/

def Chunk.bytes (chunk : Chunk) : List UInt8 := utf8Bytes (String.ofList chunk.text) ++ chunk.bad

/-- The text before the first bad sequence, by its bytes. -/
theorem utf8Bytes_decoded_take {bytes : List UInt8} {fault : Utf8Fault}
    (fails : decodeUtf8 bytes = .error fault) :
    utf8Bytes (String.ofList ((decodeUtf8 (bytes.take fault.validUpTo)).toOption.getD [])) =
      bytes.take fault.validUpTo := by
  obtain ⟨text, decodes⟩ := decodes_take fails
  rw [decodes]
  exact (decodeUtf8_eq_ok_iff.mp decodes).symm

/-- **The chunks of bytes hold all of them, in their order.** -/
theorem flatMap_chunks (bytes : List UInt8) : (chunks bytes).flatMap Chunk.bytes = bytes := by
  fun_induction chunks bytes with
  | case1 bytes text decodes =>
    rw [List.flatMap_singleton, Chunk.bytes, List.append_nil, decodeUtf8_eq_ok_iff.mp decodes]
  | case2 bytes fault fails text ends =>
    rw [List.flatMap_singleton, Chunk.bytes, utf8Bytes_decoded_take fails, ← ends,
      List.take_append_drop]
  | case3 bytes fault fails text first rest inside more ih =>
    rw [List.flatMap_cons, ih, Chunk.bytes, utf8Bytes_decoded_take fails, List.append_assoc,
      List.cons_append, List.take_append_drop, ← inside, List.take_append_drop]

section Texts

variable (text : String)

theorem chunks_utf8Bytes : chunks (utf8Bytes text) = [⟨text.toList, []⟩] := by
  rw [chunks, decodeUtf8_utf8Bytes]

/-- **A text is shown as it is.** -/
theorem displayed_utf8Bytes : displayed (utf8Bytes text) = text := by
  rw [displayed, chunks_utf8Bytes]
  simp

theorem quotedBytes_utf8Bytes : quotedBytes (utf8Bytes text) = quoted text := by
  rw [quotedBytes, quoted, chunks_utf8Bytes]
  simp

end Texts

end IncompleteBeta.Text
