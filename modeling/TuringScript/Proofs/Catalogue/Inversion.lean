import TuringScript.Proofs.Catalogue.Arithmetic

/-!
# The bit inverter

The machine passes over its input once, flips every bit, and comes to rest on the last one. What it
leaves is an input again, which it takes back to where it started from.
-/
namespace TuringScript.Catalogue

def flip (bit : Char) : Char := if bit = '0' then '1' else '0'

def inverted (word : String) : String := word.map flip

theorem flip_flip {bit : Char} (isBit : bit = '0' ∨ bit = '1') : flip (flip bit) = bit := by
  rcases isBit with rfl | rfl <;> decide

theorem binary_inverted (word : String) : Binary (inverted word) := by
  intro c member
  rw [inverted, String.toList_map, List.mem_map] at member
  obtain ⟨bit, -, rfl⟩ := member
  unfold flip
  split <;> simp

theorem inverted_inverted {word : String} (binary : Binary word) :
    inverted (inverted word) = word := by
  rw [← String.toList_inj, inverted, inverted, String.toList_map, String.toList_map, List.map_map]
  have same : ∀ bit ∈ word.toList, (flip ∘ flip) bit = id bit := by
    intro bit member
    exact flip_flip (binary bit member)
  rw [List.map_congr_left same, List.map_id]

theorem length_inverted (word : String) : (inverted word).length = word.length := by
  simp [inverted]

def inverter : Table := .ofRules bitInverterRules

/-- Over the whole word, and from the blank behind it back onto the last bit. -/
theorem path_inversion {word : List Char} (binary : ∀ c ∈ word, c = '0' ∨ c = '1') :
    inverter.Path ⟨"0", .facingRight [] word⟩ (word.length + 1)
      ⟨"H", .facingLeft [Alphabet.blank] (word.map flip).reverse⟩ := by
  have invert : ∀ c ∈ word, inverter.lookup? ⟨"0", c⟩ = some ⟨"0", flip c, .right⟩ := by
    intro c member
    rcases binary c member with rfl | rfl <;> decide
  have turn : inverter.lookup? ⟨"0", Alphabet.blank⟩ = some ⟨"H", Alphabet.blank, .left⟩ := by
    decide
  have there := Table.Path.sweep invert [] []
  simp only [List.append_nil] at there
  rw [← Tape.moveLeft_eq_facingLeft]
  exact there.trans (.single turn)

theorem exists_halts_inversion {word : String} (binary : Binary word) (nonempty : word ≠ "") :
    ∃ tape, Halts "Bit Inverter" word (word.length + 1) "H" tape ∧
      tape.headIndex = word.length - 1 ∧
      tape.contents = (inverted word).push Alphabet.blank := by
  have stored : (word.toList.map flip).reverse ≠ [] := by
    simpa using nonempty
  refine ⟨.facingLeft [Alphabet.blank] (word.toList.map flip).reverse, ?_, ?_, ?_⟩
  · rw [← String.length_toList]
    exact halts_of_path exists_byName_bitInverter (path_inversion binary)
      (stuck_of_forall_ne (by decide) _)
  · rw [Tape.headIndex_facingLeft]
    simp [String.length_toList]
  · rw [Tape.contents, Tape.cells_facingLeft stored, ← String.toList_inj]
    simp [inverted]

/-- The word is inverted with the head coming to rest on its last bit, and what is left, without the
blank behind it, is inverted back to the word. -/
theorem halts_bitInverter (word : String) (binary : Binary word) (nonempty : word ≠ "") :
    (∃ tape, Halts "Bit Inverter" word (word.length + 1) "H" tape ∧
      tape.headIndex = word.length - 1 ∧
      tape.contents = (inverted word).push Alphabet.blank) ∧
    ∃ tape, Halts "Bit Inverter" (inverted word) (word.length + 1) "H" tape ∧
      tape.contents = word.push Alphabet.blank := by
  refine ⟨exists_halts_inversion binary nonempty, ?_⟩
  have stored : inverted word ≠ "" := by
    simpa [inverted] using nonempty
  obtain ⟨tape, halts, -, contents⟩ := exists_halts_inversion (binary_inverted word) stored
  rw [length_inverted] at halts
  rw [inverted_inverted binary] at contents
  exact ⟨tape, halts, contents⟩

theorem halts_bitInverter_fourBits :
    Binary "0110" ∧ "0110" ≠ "" ∧
    (∃ tape, Halts "Bit Inverter" "0110" 5 "H" tape ∧ tape.headIndex = 3 ∧
      tape.contents = "1001 ") ∧
    ∃ tape, Halts "Bit Inverter" "1001" 5 "H" tape ∧ tape.contents = "0110 " := by
  have binary : Binary "0110" := by
    simp [Binary]
  have nonempty : "0110" ≠ "" := by
    decide
  have flipped : inverted "0110" = "1001" := by
    decide +kernel
  have whole := halts_bitInverter "0110" binary nonempty
  rw [flipped] at whole
  exact ⟨binary, nonempty, whole⟩

end TuringScript.Catalogue
