import TuringScript.CharClass.Reader
import TuringScript.Proofs.CharClass.Remaining

/-!
# Complements

A negated class leaves out the characters that its content spells. Among tape symbols that is the
complement of what the content stands for, unless a space marker is meant: it stands for the blank,
but it is the marker that is left out.
-/
namespace TuringScript.CharClass

/-! ### What a class yields -/

/-- Some place of the class reads as the symbol. -/
def YieldsSymbol (charClass : CharClass) (c : Char) : Prop :=
  ∃ count, (ClassCursor.seek charClass count).symbol? = some c

/-- Some place of the class is spelled by the character. -/
def YieldsChar (charClass : CharClass) (c : Char) : Prop :=
  ∃ count, (ClassCursor.seek charClass count).char? = some c

theorem exists_seek_iff (charClass : CharClass) (read : Alternative → Char) (c : Char) :
    (∃ count, (ClassCursor.seek charClass count).current?.map read = some c) ↔
      ∃ a ∈ charClass.alternatives, read a = c := by
  simp only [ClassCursor.current?_seek, Option.map_eq_some_iff, List.mem_iff_getElem?]
  constructor
  · rintro ⟨count, a, found, rfl⟩
    exact ⟨a, ⟨count, found⟩, rfl⟩
  · rintro ⟨a, ⟨count, found⟩, rfl⟩
    exact ⟨count, a, found, rfl⟩

theorem yieldsSymbol_iff (charClass : CharClass) (c : Char) :
    charClass.YieldsSymbol c ↔ ∃ a ∈ charClass.alternatives, a.symbol = c :=
  exists_seek_iff charClass Alternative.symbol c

theorem yieldsChar_iff (charClass : CharClass) (c : Char) :
    charClass.YieldsChar c ↔ ∃ a ∈ charClass.alternatives, a.char = c :=
  exists_seek_iff charClass Alternative.char c

/-! ### Space markers -/

/-- A space marker that is meant for the blank. -/
def unescapedMarker : Alternative := ⟨Alphabet.spaceMarker, false⟩

theorem symbol_of_ne {a : Alternative} (other : a ≠ unescapedMarker) : a.symbol = a.char := by
  unfold Alternative.symbol
  split
  next meant =>
    simp only [Bool.and_eq_true, Bool.not_eq_true', decide_eq_true_eq] at meant
    rcases a with ⟨c, literal⟩
    obtain ⟨rfl, rfl⟩ := meant
    exact absurd rfl other
  · rfl

/-- Symbols and characters of a class agree, as far as the alphabet goes, exactly if a space marker
that is meant for the blank makes no difference. -/
theorem yieldsSymbol_iff_yieldsChar (charClass : CharClass) :
    (∀ c ∈ Alphabet.chars, charClass.YieldsSymbol c ↔ charClass.YieldsChar c) ↔
      (unescapedMarker ∈ charClass.alternatives →
        charClass.YieldsSymbol Alphabet.spaceMarker ∧ charClass.YieldsChar Alphabet.blank) := by
  constructor
  · intro agree meant
    have marker := (yieldsChar_iff charClass _).mpr ⟨_, meant, rfl⟩
    have blank := (yieldsSymbol_iff charClass _).mpr ⟨_, meant, rfl⟩
    exact ⟨(agree Alphabet.spaceMarker (by decide)).mpr marker,
      (agree Alphabet.blank (by decide)).mp blank⟩
  · intro harmless c _
    constructor
    · rw [yieldsSymbol_iff]
      rintro ⟨a, member, rfl⟩
      by_cases meant : a = unescapedMarker
      · subst meant
        exact (harmless member).2
      · exact (yieldsChar_iff charClass _).mpr ⟨a, member, (symbol_of_ne meant).symm⟩
    · rw [yieldsChar_iff]
      rintro ⟨a, member, rfl⟩
      by_cases meant : a = unescapedMarker
      · subst meant
        exact (harmless member).1
      · exact (yieldsSymbol_iff charClass _).mpr ⟨a, member, symbol_of_ne meant⟩

/-! ### Bracketed texts -/

/-- A class between its brackets. -/
def bracketText (channel : Channel) (content : List Char) : List Char :=
  channel.opening :: content ++ [channel.closing]

theorem ofText_bracketText (channel : Channel) (content : List Char) :
    ofText (bracketText channel content) = bracketed channel content := by
  have opens : (bracketText channel content)[0]?.bind Channel.ofOpening? = some channel :=
    Channel.ofOpening?_opening channel
  have inside : ((bracketText channel content).take
      ((bracketText channel content).length - 1)).drop 1 = content := by
    simp [bracketText]
  rw [ofText, ofSpan, opens, Nat.zero_add, inside]

theorem bracketed_of_plain (channel : Channel) {content : List Char}
    (plain : content.head? ≠ some '^') :
    bracketed channel content = ⟨some channel, .listed (contentItems none content)⟩ := by
  unfold bracketed
  split
  · exact absurd rfl plain
  · rfl

/-- A negated class yields what the alphabet has besides the characters of its content. -/
theorem yieldsSymbol_negated (channel : Channel) {content : List Char}
    (plain : content.head? ≠ some '^') (c : Char) :
    (ofText (bracketText channel ('^' :: content))).YieldsSymbol c ↔
      c ∈ Alphabet.chars ∧ ¬ (ofText (bracketText channel content)).YieldsChar c := by
  rw [yieldsSymbol_iff, yieldsChar_iff, ofText_bracketText, ofText_bracketText,
    bracketed_of_plain channel plain]
  -- What is read off the alphabet is literal, so its symbols are its characters.
  simp [bracketed, alternatives, Alternative.symbol]

/-- A negated class is the complement of the positive one in what they spell; among symbols it is so
exactly if a space marker meant for the blank makes no difference. -/
theorem negated_iff_not_yields (channel : Channel) (content : List Char)
    (plain : content.head? ≠ some '^') :
    let positive := ofText (bracketText channel content)
    let negated := ofText (bracketText channel ('^' :: content))
    (∀ c, negated.YieldsSymbol c ↔ c ∈ Alphabet.chars ∧ ¬ positive.YieldsChar c) ∧
    ((∀ c, negated.YieldsSymbol c ↔ c ∈ Alphabet.chars ∧ ¬ positive.YieldsSymbol c) ↔
      (unescapedMarker ∈ positive.alternatives →
        positive.YieldsSymbol Alphabet.spaceMarker ∧ positive.YieldsChar Alphabet.blank)) := by
  intro positive negated
  have left_out := yieldsSymbol_negated channel plain
  refine ⟨left_out, ?_⟩
  rw [← yieldsSymbol_iff_yieldsChar]
  simp only [negated, left_out, and_congr_right_iff, not_iff_not]
  exact forall₂_congr fun c _ => ⟨Iff.symm, Iff.symm⟩

/-- An escaped space marker makes no difference: it stands for itself. -/
theorem negated_iff_not_yields_escapedMarker :
    ['0', '\\', '-'].head? ≠ some '^' ∧
    ∀ c, (ofText (bracketText .square ['^', '0', '\\', '-'])).YieldsSymbol c ↔
      c ∈ Alphabet.chars ∧ ¬ (ofText (bracketText .square ['0', '\\', '-'])).YieldsSymbol c := by
  have plain : ['0', '\\', '-'].head? ≠ some '^' := by decide
  have main := negated_iff_not_yields .square ['0', '\\', '-'] plain
  exact ⟨plain, main.2.mpr fun meant => absurd meant (by decide)⟩

/-- The class of just a space marker yields the blank, and so does its negation. -/
theorem not_negated_iff_not_yieldsSymbol :
    ¬ ∀ (channel : Channel) (content : List Char), content.head? ≠ some '^' →
      ∀ c, (ofText (bracketText channel ('^' :: content))).YieldsSymbol c ↔
        c ∈ Alphabet.chars ∧ ¬ (ofText (bracketText channel content)).YieldsSymbol c := by
  intro claim
  have negated : (ofText (bracketText .square ['^', '-'])).YieldsSymbol ' ' := ⟨0, by decide⟩
  have positive : (ofText (bracketText .square ['-'])).YieldsSymbol ' ' := ⟨0, by decide⟩
  exact ((claim .square ['-'] (by decide) ' ').mp negated).2 positive

end TuringScript.CharClass
