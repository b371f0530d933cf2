import TuringScript.Source.Stream

/-!
# Encoding

Texts as UTF-8 bytes. Characters of ASCII are one byte, their code, and no other character has such
a byte; so the newlines and carriage returns of a text are found among its bytes.
-/
namespace TuringScript

namespace Text

/-- The bytes of a text. -/
def utf8 (text : List Char) : List UInt8 := text.flatMap String.utf8EncodeChar

/-- Whether bytes are those of a text. -/
def IsUtf8 (bytes : List UInt8) : Prop := ∃ text, utf8 text = bytes

theorem isUtf8_iff (bytes : List UInt8) : IsUtf8 bytes ↔ ByteArray.IsValidUTF8 ⟨bytes.toArray⟩ := by
  constructor
  · rintro ⟨text, rfl⟩
    exact ⟨text, ByteArray.ext List.data_toByteArray.symm⟩
  · rintro ⟨text, same⟩
    have data := congrArg ByteArray.data same
    rw [List.utf8Encode, List.data_toByteArray] at data
    exact ⟨text, (List.toArray_inj data).symm⟩

instance (bytes : List UInt8) : Decidable (IsUtf8 bytes) :=
  decidable_of_iff' _ (isUtf8_iff bytes)

theorem utf8_append (front back : List Char) : utf8 (front ++ back) = utf8 front ++ utf8 back :=
  List.flatMap_append

theorem utf8EncodeChar_of_ascii_mem {c : Char} {byte : UInt8} (ascii : byte.toNat < 128)
    (member : byte ∈ String.utf8EncodeChar c) :
    String.utf8EncodeChar c = [byte] ∧ c.toNat = byte.toNat := by
  unfold String.utf8EncodeChar at member ⊢
  dsimp only at member ⊢
  split at member
  next single =>
    obtain rfl := List.mem_singleton.mp member
    rw [if_pos single, UInt8.toNat_ofNat', Nat.mod_eq_of_lt (by omega)]
    exact ⟨rfl, rfl⟩
  -- Every byte of a longer encoding has its top bit set.
  all_goals
    repeat' split at member
    all_goals
      simp only [List.mem_cons, List.not_mem_nil, or_false] at member
      rcases member with rfl | rfl | rfl | rfl <;>
        · rw [UInt8.toNat_ofNat'] at ascii
          omega

theorem eq_of_ascii_mem {c d : Char} {byte : UInt8} (ascii : byte.toNat < 128)
    (code : d.toNat = byte.toNat) (member : byte ∈ String.utf8EncodeChar c) : c = d := by
  apply Char.ext
  apply UInt32.toNat_inj.mp
  exact (utf8EncodeChar_of_ascii_mem ascii member).2.trans code.symm

theorem newline_mem_utf8EncodeChar (c : Char) : 10 ∈ String.utf8EncodeChar c ↔ c = '\n' := by
  constructor
  · exact eq_of_ascii_mem (by decide) (by decide)
  · rintro rfl
    decide

/-- A carriage return at the end of a text is one at the end of its bytes. -/
theorem dropReturn_utf8 (line : List Char) :
    LineBuffer.dropReturn (utf8 line.reverse).reverse =
      (utf8 (dropReturn line).reverse).reverse := by
  rcases line with _ | ⟨c, line⟩
  · rfl
  · have ends : (utf8 (c :: line).reverse).reverse =
        (String.utf8EncodeChar c).reverse ++ (utf8 line.reverse).reverse := by
      simp [utf8, List.flatMap_append]
    by_cases return_ : c = '\r'
    · subst return_
      rw [ends]
      rfl
    · have kept : dropReturn (c :: line) = c :: line := by
        unfold dropReturn
        split
        next same => exact absurd (List.cons.inj same).1 return_
        · rfl
      rw [kept, ends]
      -- The last byte of any other character is no carriage return either.
      rcases bytes : (String.utf8EncodeChar c).reverse with _ | ⟨byte, others⟩
      · simp at bytes
      · have member : byte ∈ String.utf8EncodeChar c := by
          rw [← List.mem_reverse, bytes]
          exact List.mem_cons_self
        have other : byte ≠ 13 := by
          rintro rfl
          exact return_ (eq_of_ascii_mem (by decide) (by decide) member)
        unfold LineBuffer.dropReturn
        split
        next same => exact absurd (List.cons.inj same).1 other
        · rfl

end Text

namespace ByteStream

/-- Decoding finds the text that was encoded. -/
theorem decode_utf8 (text : List Char) :
    decode (Text.utf8 text) = .ok (String.ofList text) := by
  have bytes : (⟨(Text.utf8 text).toArray⟩ : ByteArray) = text.utf8Encode :=
    ByteArray.ext List.data_toByteArray.symm
  have found : String.fromUTF8? text.utf8Encode = some (String.ofList text) :=
    dif_pos ByteArray.isValidUTF8_utf8Encode
  rw [decode, bytes, found]

theorem decode_of_not_isUtf8 {line : List UInt8} (garbled : ¬ Text.IsUtf8 line) :
    decode line = .error invalidText := by
  have found : String.fromUTF8? ⟨line.toArray⟩ = none :=
    dif_neg (mt (Text.isUtf8_iff line).mpr garbled)
  rw [decode, found]

end ByteStream
end TuringScript
