import TuringScript.Proofs.Source.Streaming
import TuringScript.Storage.Loading

/-!
# Agreement of files and texts

A program can be loaded from a text at hand, or from a file into a table or into a machine. If the
file holds the text, all three ways come to the same: the size is counted in bytes on either side,
and the bytes of the file are cut into the lines of the text.
-/
namespace TuringScript

/-! ### The bytes of a file -/

/-- The bytes from `index` on are put behind those taken so far, which are in reverse order. -/
theorem toList_loop (content : ByteArray) (index : Nat) (taken : List UInt8) :
    ByteArray.toList.loop content index taken =
      taken.reverse ++ content.data.toList.drop index := by
  fun_induction ByteArray.toList.loop content index taken with
  | case1 index taken inside ih =>
    have stored : index < content.data.toList.length := inside
    have byte : content.get! index = content.data.toList[index] :=
      getElem!_pos content.data index inside
    rw [ih, byte, List.reverse_cons, List.append_assoc, List.singleton_append,
      List.getElem_cons_drop]
  | case2 index taken outside =>
    have passed : content.data.toList.length ≤ index := Nat.not_lt.mp outside
    rw [List.drop_eq_nil_of_le passed, List.append_nil]

theorem toList_toUTF8 (text : String) : text.toUTF8.toList = Text.utf8 text.toList := by
  have encoded : text.toUTF8 = text.toList.utf8Encode := by
    rw [← String.toByteArray_ofList, String.ofList_toList, String.toUTF8_eq_toByteArray]
  rw [encoded, ByteArray.toList, toList_loop, List.utf8Encode, List.toList_data_toByteArray]
  rfl

/-- A file that holds a text has the lines of the text. -/
theorem ByteStream.lines_toUTF8 (text : String) :
    lines ⟨[text.toUTF8.toList], none⟩ = textLines text := by
  apply lines_of_text
  · rw [bytes, List.flatten_singleton, toList_toUTF8]
  · rfl

/-! ### Texts -/

/-- The ways in which loading a text can end. -/
theorem loadText_eq (text : String) :
    loadText text =
      if maxProgramSize < text.utf8ByteSize then .error (.oversized text.utf8ByteSize)
      else match (Dialect.standard.read text).error? with
        | some error => .error (.parse error)
        | none => .ok (.ofRules (Dialect.standard.read text).rules) := by
  simp only [loadText, readText]
  split
  · rfl
  · simp only [bind, Except.bind, Reading.table, Reading.accepted]
    cases (Dialect.standard.read text).error? <;> rfl

namespace Storage

variable {storage : Storage} {path text : String}

/-- Reading a file that holds a text is reading the text. -/
theorem read_of_find (holds : storage.find path = .file text.toUTF8) :
    storage.read path = readText text := by
  simp only [read, holds, readText, Dialect.readStream, ByteStream.lines_toUTF8,
    ByteStream.read_eq]
  rfl

theorem loadTable_eq_of_read (read : storage.read path = readText text) :
    storage.loadTable path = loadText text := by
  simp only [loadTable, loadRules, loadText, read, Reading.table]
  cases readText text with
  | error error => rfl
  | ok reading =>
    simp only [bind, Except.bind]
    cases reading.accepted <;> rfl

theorem loadMachine_eq_loadTable (storage : Storage) (path : String) :
    storage.loadMachine path = (storage.loadTable path).map Machine.ofTable := by
  simp only [loadMachine, loadTable]
  cases storage.loadRules path <;> rfl

/-- A program comes to the same from a file that holds a text and from the text itself, and a machine
loaded from the file is a new one with that table. Loading fails for the size exactly if the text is
longer than allowed, in bytes, and otherwise for the first fault of the text, if it has one. -/
theorem load_agrees_with_loadText (storage : Storage) (path text : String)
    (holds : storage.find path = .file text.toUTF8) :
    storage.loadTable path = loadText text ∧
    storage.loadMachine path = (loadText text).map Machine.ofTable ∧
    (∀ size, loadText text = .error (.oversized size) ↔
      maxProgramSize < text.utf8ByteSize ∧ text.utf8ByteSize = size) ∧
    (∀ error, loadText text = .error (.parse error) ↔
      text.utf8ByteSize ≤ maxProgramSize ∧ (Dialect.standard.read text).error? = some error) ∧
    ∀ table, loadText text = .ok table ↔
      text.utf8ByteSize ≤ maxProgramSize ∧ (Dialect.standard.read text).error? = none ∧
        .ofRules (Dialect.standard.read text).rules = table := by
  have tables := loadTable_eq_of_read (read_of_find holds)
  have machines : storage.loadMachine path = (loadText text).map Machine.ofTable := by
    rw [loadMachine_eq_loadTable, tables]
  refine ⟨tables, machines, ?_⟩
  rw [loadText_eq]
  -- The size is looked at first, and a text of the right size is read up to its first fault.
  by_cases oversized : maxProgramSize < text.utf8ByteSize
  · have larger : ¬ text.utf8ByteSize ≤ maxProgramSize := Nat.not_le.mpr oversized
    simp [oversized, larger]
  · have within : text.utf8ByteSize ≤ maxProgramSize := Nat.not_lt.mp oversized
    cases (Dialect.standard.read text).error? with
    | some error => simp [oversized, within]
    | none => simp [oversized, within]

/-- Its first line ends with a carriage return and has a character of two bytes; the second one is
no rule. -/
def halfProgram : String := "(0,É,1,[-],>)\r\nno rule"

/-- A storage with a single file. -/
def halfProgramOnly : Storage where
  find path :=
    if path = "half.tm" then .file halfProgram.toUTF8 else .absent FileError.notFound

theorem load_agrees_with_loadText_halfProgram :
    halfProgramOnly.find "half.tm" = .file halfProgram.toUTF8 ∧
    halfProgramOnly.loadTable "half.tm" = .error (.parse ⟨.missingComma, 2⟩) ∧
    halfProgramOnly.loadMachine "half.tm" = .error (.parse ⟨.missingComma, 2⟩) := by
  have holds : halfProgramOnly.find "half.tm" = .file halfProgram.toUTF8 := by
    simp [halfProgramOnly]
  obtain ⟨tables, machines, -, faults, -⟩ :=
    load_agrees_with_loadText halfProgramOnly "half.tm" halfProgram holds
  have failed : loadText halfProgram = .error (.parse ⟨.missingComma, 2⟩) :=
    (faults _).mpr ⟨by decide, by decide⟩
  refine ⟨holds, tables.trans failed, machines.trans ?_⟩
  rw [failed]
  rfl

end Storage
end TuringScript
