/-
**Texts and their bytes.**

* `utf8Bytes_eq`: the bytes of a text are those of its characters, one after the other;
* `mem_of_mem_utf8Bytes`: a byte below 128 stands for its own character;
* **`decodeUtf8_utf8Bytes`**: the bytes of a text are decoded to the text;
* `Announces`, **`decodeUtf8_eq_ok_iff`**: what first bytes announce, and that no other bytes are
  decoded.
-/

import IncompleteBeta.Text.Utf8
import Mathlib.Tactic.Common

namespace IncompleteBeta.Text

/-! ### The bytes of a text -/

theorem toList_loop (bytes : ByteArray) (index : Nat) (read : List UInt8) :
    ByteArray.toList.loop bytes index read = read.reverse ++ bytes.data.toList.drop index := by
  fun_induction ByteArray.toList.loop bytes index read with
  | case1 index read inside ih =>
    have next : bytes.get! index = bytes.data.toList.get ⟨index, inside⟩ :=
      getElem!_pos bytes.data index inside
    rw [ih, List.reverse_cons, List.append_assoc, List.drop_eq_getElem_cons inside, next]
    rfl
  | case2 index read outside =>
    have outside : bytes.data.toList.length ≤ index := Nat.le_of_not_lt outside
    rw [List.drop_eq_nil_of_le outside, List.append_nil]

theorem utf8Bytes_eq (text : String) :
    utf8Bytes text = text.toList.flatMap String.utf8EncodeChar := by
  rw [utf8Bytes, String.toUTF8_eq_toByteArray, ← String.utf8Encode_toList, List.utf8Encode,
    ByteArray.toList, toList_loop, List.data_toByteArray]
  rfl

@[simp] theorem utf8Bytes_empty : utf8Bytes "" = [] := utf8Bytes_eq ""

theorem utf8Bytes_newline : utf8Bytes "\n" = [10] := (utf8Bytes_eq "\n").trans (by decide)

@[simp] theorem utf8Bytes_append (text more : String) :
    utf8Bytes (text ++ more) = utf8Bytes text ++ utf8Bytes more := by
  simp only [utf8Bytes_eq, String.toList_append, List.flatMap_append]

/-! ### The bytes of a character -/

/-- Which numbers are characters. -/
theorem isValidChar_toNat (c : Char) :
    c.toNat < 0xd800 ∨ 0xdfff < c.toNat ∧ c.toNat < 0x110000 := c.valid

/-- **The bytes of a character**, by the size of its number. -/
theorem utf8EncodeChar_toNat (c : Char) : (String.utf8EncodeChar c).map UInt8.toNat =
    if c.toNat ≤ 0x7f then [c.toNat]
    else if c.toNat ≤ 0x7ff then [c.toNat / 64 + 192, c.toNat % 64 + 128]
    else if c.toNat ≤ 0xffff then
      [c.toNat / 4096 + 224, c.toNat / 64 % 64 + 128, c.toNat % 64 + 128]
    else [c.toNat / 262144 + 240, c.toNat / 4096 % 64 + 128, c.toNat / 64 % 64 + 128,
      c.toNat % 64 + 128] := by
  have valid := isValidChar_toNat c
  have number : c.val.toNat = c.toNat := rfl
  simp only [String.utf8EncodeChar, number]
  split_ifs
  all_goals
    simp only [List.map_cons, List.map_nil, UInt8.toNat_ofNat', List.cons.injEq, and_true]
    omega

/-- **A byte below 128 stands for its own character.** -/
theorem mem_of_mem_utf8Bytes {byte : UInt8} (small : byte.toNat < 128) {text : String}
    (inside : byte ∈ utf8Bytes text) : Char.ofNat byte.toNat ∈ text.toList := by
  rw [utf8Bytes_eq, List.mem_flatMap] at inside
  obtain ⟨c, inside, among⟩ := inside
  have among : byte.toNat ∈ (String.utf8EncodeChar c).map UInt8.toNat := List.mem_map_of_mem among
  rw [utf8EncodeChar_toNat] at among
  have same : byte.toNat = c.toNat := by
    split_ifs at among
    all_goals
      simp only [List.mem_cons, List.not_mem_nil, or_false] at among
      omega
  rw [same, Char.ofNat_toNat]
  exact inside

/-! ### Decoding -/

section Decoding

variable {index start code bits : Nat} {range bounds : Nat × Nat} {ranges : List (Nat × Nat)}
  {read : List Char} {byte : UInt8} {bytes : List UInt8}

/-- The first byte of a character of several. -/
theorem decodeFrom_first
    (announced : announced? byte.toNat = some (range :: ranges, bits)) :
    decodeFrom index start [] code read (byte :: bytes) =
      decodeFrom (index + 1) index (range :: ranges) bits read bytes := by
  rw [decodeFrom, announced]

/-- A byte between the first and the last. -/
theorem decodeFrom_inner (inside : bounds.1 ≤ byte.toNat ∧ byte.toNat ≤ bounds.2) :
    decodeFrom index start (bounds :: range :: ranges) code read (byte :: bytes) =
      decodeFrom (index + 1) start (range :: ranges) (64 * code + byte.toNat % 64) read bytes := by
  rw [decodeFrom, if_pos inside]
  rfl

/-- The last byte of a character. -/
theorem decodeFrom_last (inside : bounds.1 ≤ byte.toNat ∧ byte.toNat ≤ bounds.2) :
    decodeFrom index start [bounds] code read (byte :: bytes) =
      decodeFrom (index + 1) start [] 0 (Char.ofNat (64 * code + byte.toNat % 64) :: read)
        bytes := by
  rw [decodeFrom, if_pos inside]
  rfl

theorem announced_two {n : Nat} (least : 0x7f < n) (greatest : n ≤ 0x7ff) :
    announced? (n / 64 + 192) = some ([continuation], n / 64) := by
  rw [announced?, if_neg (by omega), if_neg (by omega), if_pos (by omega)]
  simp

/-- A first byte of three announces where the second one is. -/
theorem announced_three {n : Nat} (least : 0x7ff < n) (greatest : n ≤ 0xffff)
    (valid : n < 0xd800 ∨ 0xdfff < n) :
    ∃ low high, announced? (n / 4096 + 224) = some ([(low, high), continuation], n / 4096) ∧
      low ≤ n / 64 % 64 + 128 ∧ n / 64 % 64 + 128 ≤ high := by
  rcases eq_or_ne (n / 4096) 0 with lead | longer
  · exact ⟨0xa0, 0xbf, by rw [lead]; rfl, by omega, by omega⟩
  rcases eq_or_ne (n / 4096) 13 with lead | surrogate
  · exact ⟨0x80, 0x9f, by rw [lead]; rfl, by omega, by omega⟩
  · refine ⟨0x80, 0xbf, ?_, by omega, by omega⟩
    rw [announced?, if_neg (by omega), if_neg (by omega), if_neg (by omega), if_neg (by omega),
      if_neg (by omega), if_pos (by omega), Nat.add_sub_cancel]
    rfl

/-- A first byte of four announces where the second one is. -/
theorem announced_four {n : Nat} (least : 0xffff < n) (greatest : n < 0x110000) :
    ∃ low high, announced? (n / 262144 + 240) =
        some ([(low, high), continuation, continuation], n / 262144) ∧
      low ≤ n / 4096 % 64 + 128 ∧ n / 4096 % 64 + 128 ≤ high := by
  rcases eq_or_ne (n / 262144) 0 with lead | longer
  · exact ⟨0x90, 0xbf, by rw [lead]; rfl, by omega, by omega⟩
  rcases eq_or_ne (n / 262144) 4 with lead | last
  · exact ⟨0x80, 0x8f, by rw [lead]; rfl, by omega, by omega⟩
  · refine ⟨0x80, 0xbf, ?_, by omega, by omega⟩
    rw [announced?, if_neg (by omega), if_neg (by omega), if_neg (by omega), if_neg (by omega),
      if_neg (by omega), if_neg (by omega), if_neg (by omega), if_pos (by omega),
      Nat.add_sub_cancel]
    rfl

theorem continuation_inside {n : Nat} (rest : byte.toNat = n % 64 + 128) :
    continuation.1 ≤ byte.toNat ∧ byte.toNat ≤ continuation.2 := by
  simp only [continuation]
  omega

/-- **The bytes of a character are decoded to it.** -/
theorem decodeFrom_char (c : Char) (index start code : Nat) (read : List Char)
    (bytes : List UInt8) : ∃ laterIndex laterStart,
    decodeFrom index start [] code read (String.utf8EncodeChar c ++ bytes) =
      decodeFrom laterIndex laterStart [] 0 (c :: read) bytes := by
  have valid := isValidChar_toNat c
  have encoded := utf8EncodeChar_toNat c
  generalize String.utf8EncodeChar c = character at encoded ⊢
  split_ifs at encoded with one two three
  · obtain ⟨first, rfl, number⟩ := List.map_eq_singleton_iff.mp encoded
    refine ⟨index + 1, index, ?_⟩
    have announced : announced? first.toNat = some ([], c.toNat) := by
      rw [number, announced?, if_pos (by omega)]
    rw [List.singleton_append, decodeFrom, announced]
    simp only [Char.ofNat_toNat]
  · obtain ⟨first, _, rfl, lead, encoded⟩ := List.map_eq_cons_iff.mp encoded
    obtain ⟨last, rfl, rest⟩ := List.map_eq_singleton_iff.mp encoded
    have whole : 64 * (c.toNat / 64) + last.toNat % 64 = c.toNat := by omega
    refine ⟨index + 1 + 1, index, ?_⟩
    rw [List.cons_append, List.singleton_append,
      decodeFrom_first (by rw [lead, announced_two (by omega) two]),
      decodeFrom_last (continuation_inside rest), whole, Char.ofNat_toNat]
  · obtain ⟨first, _, rfl, lead, encoded⟩ := List.map_eq_cons_iff.mp encoded
    obtain ⟨second, _, rfl, next, encoded⟩ := List.map_eq_cons_iff.mp encoded
    obtain ⟨last, rfl, rest⟩ := List.map_eq_singleton_iff.mp encoded
    obtain ⟨low, high, announced, inside⟩ := announced_three (Nat.lt_of_not_le two) three (by omega)
    have whole : 64 * (64 * (c.toNat / 4096) + second.toNat % 64) + last.toNat % 64 = c.toNat := by
      omega
    refine ⟨index + 1 + 1 + 1, index, ?_⟩
    rw [List.cons_append, List.cons_append, List.singleton_append,
      decodeFrom_first (by rw [lead, announced]), decodeFrom_inner (by rw [next]; exact inside),
      decodeFrom_last (continuation_inside rest), whole, Char.ofNat_toNat]
  · obtain ⟨first, _, rfl, lead, encoded⟩ := List.map_eq_cons_iff.mp encoded
    obtain ⟨second, _, rfl, next, encoded⟩ := List.map_eq_cons_iff.mp encoded
    obtain ⟨third, _, rfl, after, encoded⟩ := List.map_eq_cons_iff.mp encoded
    obtain ⟨last, rfl, rest⟩ := List.map_eq_singleton_iff.mp encoded
    obtain ⟨low, high, announced, inside⟩ := announced_four (Nat.lt_of_not_le three) (by omega)
    have whole : 64 * (64 * (64 * (c.toNat / 262144) + second.toNat % 64) + third.toNat % 64)
        + last.toNat % 64 = c.toNat := by omega
    refine ⟨index + 1 + 1 + 1 + 1, index, ?_⟩
    rw [List.cons_append, List.cons_append, List.cons_append, List.singleton_append,
      decodeFrom_first (by rw [lead, announced]), decodeFrom_inner (by rw [next]; exact inside),
      decodeFrom_inner (continuation_inside after), decodeFrom_last (continuation_inside rest),
      whole, Char.ofNat_toNat]

/-- **The bytes of a text are decoded to the text.** -/
theorem decodeUtf8_utf8Bytes (text : String) : decodeUtf8 (utf8Bytes text) = .ok text.toList := by
  have run : ∀ (characters : List Char) (index start code : Nat) (read : List Char),
      decodeFrom index start [] code read (characters.flatMap String.utf8EncodeChar) =
        .ok (read.reverse ++ characters) := by
    intro characters
    induction characters with
    | nil =>
      intro index start code read
      rw [List.flatMap_nil, List.append_nil, decodeFrom]
    | cons c characters ih =>
      intro index start code read
      obtain ⟨laterIndex, laterStart, step⟩ := decodeFrom_char c index start code read
        (characters.flatMap String.utf8EncodeChar)
      rw [List.flatMap_cons, step, ih, List.reverse_cons, List.append_assoc, List.singleton_append]
  rw [decodeUtf8, utf8Bytes_eq]
  exact run text.toList 0 0 0 []

end Decoding

/-! ### What is decoded -/

section Accepted

variable {index start code bits : Nat} {ranges : List (Nat × Nat)} {read text : List Char}
  {byte : UInt8} {bytes : List UInt8}

/-- The byte lies in the range. -/
def Lies (range : Nat × Nat) (byte : UInt8) : Prop :=
  range.1 ≤ byte.toNat ∧ byte.toNat ≤ range.2

/-- The number of a character after more of its bytes. -/
def gatherBits (code : Nat) (bytes : List UInt8) : Nat :=
  bytes.foldl (fun code byte => 64 * code + byte.toNat % 64) code

/-- The rest of a character lies in the ranges that were announced, and gives its number. -/
theorem decodeFrom_rest (some : ranges ≠ [])
    (decodes : decodeFrom index start ranges code read bytes = .ok text) :
    ∃ inner rest laterIndex, bytes = inner ++ rest ∧ List.Forall₂ Lies ranges inner ∧
      decodeFrom laterIndex start [] 0 (Char.ofNat (gatherBits code inner) :: read) rest =
        .ok text := by
  induction ranges generalizing index code bytes with
  | nil => exact absurd rfl some
  | cons range ranges ih =>
    cases bytes with
    | nil => cases decodes
    | cons byte bytes =>
      rw [decodeFrom] at decodes
      split at decodes
      next inside =>
        cases ranges with
        | nil => exact ⟨[byte], bytes, index + 1, rfl, .cons inside .nil, decodes⟩
        | cons next ranges =>
          obtain ⟨inner, rest, laterIndex, rfl, lie, decodes⟩ := ih (List.cons_ne_nil _ _) decodes
          exact ⟨byte :: inner, rest, laterIndex, rfl, .cons inside lie, decodes⟩
      next => cases decodes

/-- The bytes that encode a number of a character, by its size. -/
inductive Encodes (n : Nat) : List Nat → Prop where
  | one (most : n ≤ 0x7f) : Encodes n [n]
  | two {first second : Nat} (least : 0x7f < n) (most : n ≤ 0x7ff)
      (first_eq : first = n / 64 + 192) (second_eq : second = n % 64 + 128) :
      Encodes n [first, second]
  | three {first second third : Nat} (least : 0x7ff < n) (most : n ≤ 0xffff)
      (first_eq : first = n / 4096 + 224) (second_eq : second = n / 64 % 64 + 128)
      (third_eq : third = n % 64 + 128) : Encodes n [first, second, third]
  | four {first second third fourth : Nat} (least : 0xffff < n)
      (first_eq : first = n / 262144 + 240) (second_eq : second = n / 4096 % 64 + 128)
      (third_eq : third = n / 64 % 64 + 128) (fourth_eq : fourth = n % 64 + 128) :
      Encodes n [first, second, third, fourth]

/-- The bytes of a number of a character are those of the character. -/
theorem utf8EncodeChar_of_encodes {n : Nat} (valid : n < 0xd800 ∨ 0xdfff < n ∧ n < 0x110000)
    (encodes : Encodes n (bytes.map UInt8.toNat)) :
    String.utf8EncodeChar (Char.ofNat n) = bytes := by
  have number : (Char.ofNat n).toNat = n := by
    rw [Char.ofNat, dif_pos valid]
    rfl
  refine List.map_inj_right (fun _ _ => UInt8.toNat_inj.mp) |>.mp ?_
  rw [utf8EncodeChar_toNat, number]
  generalize bytes.map UInt8.toNat = numbers at encodes
  cases encodes with
  | one most => exact if_pos most
  | two least most first_eq second_eq =>
    rw [if_neg (by omega), if_pos most, first_eq, second_eq]
  | three least most first_eq second_eq third_eq =>
    rw [if_neg (by omega), if_neg (by omega), if_pos most, first_eq, second_eq, third_eq]
  | four least first_eq second_eq third_eq fourth_eq =>
    rw [if_neg (by omega), if_neg (by omega), if_neg (by omega), first_eq, second_eq, third_eq,
      fourth_eq]

/-- **What first bytes announce**, by the number of bytes that follow. The second of three or four
is kept off the longer forms of smaller numbers, off the surrogates, and off what is beyond the last
character. -/
inductive Announces (first : Nat) : List (Nat × Nat) → Nat → Prop where
  | one (most : first < 0x80) : Announces first [] first
  | two (bits : Nat) (least : 2 ≤ bits) (most : bits < 32) (first_eq : first = bits + 192) :
      Announces first [continuation] bits
  | three (low high bits : Nat) (most : bits < 16) (first_eq : first = bits + 224)
      (low_le : 0x80 ≤ low) (le_high : high ≤ 0xbf) (long : bits = 0 → 0xa0 ≤ low)
      (surrogate : bits = 13 → high ≤ 0x9f) : Announces first [(low, high), continuation] bits
  | four (low high bits : Nat) (most : bits ≤ 4) (first_eq : first = bits + 240)
      (low_le : 0x80 ≤ low) (le_high : high ≤ 0xbf) (long : bits = 0 → 0x90 ≤ low)
      (last : bits = 4 → high ≤ 0x8f) :
      Announces first [(low, high), continuation, continuation] bits

theorem announces_of_announced {first : Nat} (announced : announced? first = some (ranges, bits)) :
    Announces first ranges bits := by
  unfold announced? at announced
  split_ifs at announced
  all_goals
    cases announced
  · exact .one (by omega)
  · exact .two _ (by omega) (by omega) (by omega)
  · exact .three _ _ _ (by omega) (by omega) (by omega) (by omega) (by omega) (by omega)
  · exact .three _ _ _ (by omega) (by omega) (by omega) (by omega) (by omega) (by omega)
  · exact .three _ _ _ (by omega) (by omega) (by omega) (by omega) (by omega) (by omega)
  · exact .four _ _ _ (by omega) (by omega) (by omega) (by omega) (by omega) (by omega)
  · exact .four _ _ _ (by omega) (by omega) (by omega) (by omega) (by omega) (by omega)
  · exact .four _ _ _ (by omega) (by omega) (by omega) (by omega) (by omega) (by omega)

/-- **What is announced and follows is the encoding of a character.** -/
theorem utf8EncodeChar_of_announces {inner : List UInt8}
    (announces : Announces byte.toNat ranges bits) (lie : List.Forall₂ Lies ranges inner) :
    String.utf8EncodeChar (Char.ofNat (gatherBits bits inner)) = byte :: inner := by
  cases announces with
  | one most =>
    cases lie
    simp only [gatherBits, List.foldl_nil]
    exact utf8EncodeChar_of_encodes (.inl (by omega)) (.one (by omega))
  | two bits least most first_eq =>
    obtain _ | ⟨inside, ⟨⟩⟩ := lie
    simp only [Lies, continuation] at inside
    simp only [gatherBits, List.foldl_cons, List.foldl_nil]
    exact utf8EncodeChar_of_encodes (by omega)
      (.two (by omega) (by omega) (by omega) (by omega))
  | three low high bits most first_eq low_le le_high long surrogate =>
    obtain _ | ⟨inside, _ | ⟨otherInside, ⟨⟩⟩⟩ := lie
    simp only [Lies, continuation] at inside otherInside
    simp only [gatherBits, List.foldl_cons, List.foldl_nil]
    exact utf8EncodeChar_of_encodes (by omega)
      (.three (by omega) (by omega) (by omega) (by omega) (by omega))
  | four low high bits most first_eq low_le le_high long last =>
    obtain _ | ⟨inside, _ | ⟨otherInside, _ | ⟨thirdInside, ⟨⟩⟩⟩⟩ := lie
    simp only [Lies, continuation] at inside otherInside thirdInside
    simp only [gatherBits, List.foldl_cons, List.foldl_nil]
    exact utf8EncodeChar_of_encodes (by omega)
      (.four (by omega) (by omega) (by omega) (by omega) (by omega))

/-- **Only the bytes of a text are decoded**, and to that text. -/
theorem decodeFrom_eq_ok (decodes : decodeFrom index start [] code read bytes = .ok text) :
    ∃ characters : List Char, text = read.reverse ++ characters ∧
      bytes = characters.flatMap String.utf8EncodeChar := by
  -- The induction is on the bytes that are left, since a character may take several of them.
  induction length : bytes.length using Nat.strongRecOn
    generalizing index start code read bytes with
  | ind count ih =>
    cases bytes with
    | nil =>
      rw [decodeFrom] at decodes
      cases decodes
      exact ⟨[], (List.append_nil _).symm, rfl⟩
    | cons byte bytes =>
      have next {laterIndex laterStart otherCode : Nat} {c : Char} {inner rest : List UInt8}
          (bytes_eq : bytes = inner ++ rest) (encoded : String.utf8EncodeChar c = byte :: inner)
          (decodes : decodeFrom laterIndex laterStart [] otherCode (c :: read) rest = .ok text) :
          ∃ characters : List Char, text = read.reverse ++ characters ∧
            byte :: bytes = characters.flatMap String.utf8EncodeChar := by
        have shorter : rest.length < count := by
          rw [← length, bytes_eq, List.length_cons, List.length_append]
          omega
        obtain ⟨characters, text_eq, rest_eq⟩ := ih _ shorter decodes rfl
        refine ⟨c :: characters, ?_, ?_⟩
        · rw [text_eq, List.reverse_cons, List.append_assoc, List.singleton_append]
        · rw [List.flatMap_cons, encoded, List.cons_append, ← rest_eq, bytes_eq]
      rw [decodeFrom] at decodes
      split at decodes
      next => cases decodes
      next bits announced =>
        have announces := announces_of_announced announced
        exact next (List.nil_append bytes).symm (utf8EncodeChar_of_announces announces .nil) decodes
      next ranges bits some announced =>
        have announces := announces_of_announced announced
        obtain ⟨inner, rest, laterIndex, bytes_eq, lie, decodes⟩ := decodeFrom_rest some decodes
        exact next bytes_eq (utf8EncodeChar_of_announces announces lie) decodes

/-- **Exactly the bytes of a text are decoded to it.** -/
theorem decodeUtf8_eq_ok_iff :
    decodeUtf8 bytes = .ok text ↔ bytes = utf8Bytes (String.ofList text) := by
  constructor
  · intro decodes
    obtain ⟨characters, text_eq, bytes_eq⟩ := decodeFrom_eq_ok decodes
    rw [List.reverse_nil, List.nil_append] at text_eq
    rw [bytes_eq, text_eq, utf8Bytes_eq, String.toList_ofList]
  · rintro rfl
    rw [decodeUtf8_utf8Bytes, String.toList_ofList]

end Accepted
end IncompleteBeta.Text
