import TuringScript.Proofs.Source.Cutting
import TuringScript.Proofs.Source.FirstFault

/-!
# Streaming

Reading a stream of bytes is reading the text they encode, however they come in chunks. If they
encode none, or if the stream fails, there is a first line that is lost; the lines before it are
read as a text of their own.
-/
namespace TuringScript

namespace ByteStream

def bytes (stream : ByteStream) : List UInt8 := stream.chunks.flatten

/-- The first line that a stream loses comes after the lines of `before`, and the reason it is lost.
A line is garbled if it is not UTF-8, up to its newline or to where the stream just ends. It is cut
short if the stream fails before its newline, whatever has come of it by then. -/
inductive Loses (stream : ByteStream) (before : String) : String → Prop where
  | garbled {line rest : List UInt8}
      (bytes_eq : stream.bytes = Text.utf8 before.toList ++ (line ++ rest))
      (whole : Text.WholeLines before.toList) (single : 10 ∉ line) (garbled : ¬ Text.IsUtf8 line)
      (ends : (∃ after, rest = 10 :: after) ∨ rest = [] ∧ stream.failure = none) :
      Loses stream before invalidText
  | cut {line : List UInt8} {reason : String}
      (bytes_eq : stream.bytes = Text.utf8 before.toList ++ line)
      (whole : Text.WholeLines before.toList) (single : 10 ∉ line)
      (failed : stream.failure = some reason) : Loses stream before reason

/-! ### The lines of a stream -/

/-- The buffer when all bytes have come. -/
def buffer (stream : ByteStream) : LineBuffer := LineBuffer.empty.feed stream.bytes

theorem foldl_feed (stream : ByteStream) :
    stream.chunks.foldl LineBuffer.feed .empty = stream.buffer :=
  List.foldl_flatten.symm

theorem lines_of_ending {stream : ByteStream} (ending : stream.failure = none) :
    stream.lines = stream.buffer.lines.map decode := by
  unfold lines LineBuffer.lines
  rw [foldl_feed, ending]
  dsimp only
  split <;> simp [*]

theorem lines_of_failing {stream : ByteStream} {reason : String}
    (failed : stream.failure = some reason) :
    stream.lines = stream.buffer.complete.reverse.map decode ++ [.error reason] := by
  unfold lines
  rw [foldl_feed, failed]

/-- Whatever becomes of the line in the buffer, the complete lines come first. -/
theorem exists_lines_eq (stream : ByteStream) :
    ∃ last, stream.lines = stream.buffer.complete.reverse.map decode ++ last := by
  cases failure : stream.failure with
  | none => exact ⟨_, by rw [lines_of_ending failure, LineBuffer.lines, List.map_append]⟩
  | some reason => exact ⟨_, lines_of_failing failure⟩

def textLines (text : String) : List (Except String String) :=
  (Text.lines text.toList).map fun line => .ok (String.ofList line)

theorem read_eq (dialect : Dialect) (text : String) :
    dialect.read text = .ofLines dialect (textLines text) := rfl

theorem map_decode_utf8 (text : String) :
    ((Text.lines text.toList).map Text.utf8).map decode = textLines text := by
  simp [textLines, Function.comp_def, decode_utf8]

theorem lines_of_text {stream : ByteStream} {text : String}
    (encoded : Text.utf8 text.toList = stream.bytes) (ending : stream.failure = none) :
    stream.lines = textLines text := by
  have cut := LineBuffer.lines_feed_utf8 [] [] text.toList
  change (LineBuffer.empty.feed (Text.utf8 text.toList)).lines =
    (Text.lines text.toList).map Text.utf8 at cut
  rw [encoded] at cut
  rw [lines_of_ending ending, buffer, cut, map_decode_utf8]

/-- A line is no more readable without its carriage return. -/
theorem decode_dropReturn {line : List UInt8} (garbled : ¬ Text.IsUtf8 line) :
    decode (LineBuffer.dropReturn line.reverse).reverse = .error invalidText := by
  apply decode_of_not_isUtf8
  rintro ⟨text, encoded⟩
  unfold LineBuffer.dropReturn at encoded
  split at encoded
  next rest ends =>
    have whole : line = rest.reverse ++ [13] := by
      rw [← List.reverse_reverse line, ends, List.reverse_cons]
    refine garbled ⟨text ++ ['\r'], ?_⟩
    rw [whole, Text.utf8_append, encoded]
    rfl
  · exact garbled ⟨text, encoded.trans (List.reverse_reverse line)⟩

theorem feed_before_line {before : String} (whole : Text.WholeLines before.toList)
    {line : List UInt8} (single : 10 ∉ line) (rest : List UInt8) :
    LineBuffer.empty.feed (Text.utf8 before.toList ++ (line ++ rest)) =
      LineBuffer.feed ⟨((Text.lines before.toList).map Text.utf8).reverse, line.reverse⟩ rest := by
  rw [LineBuffer.feed_append, LineBuffer.feed_append, LineBuffer.feed_wholeLines whole,
    LineBuffer.feed_of_no_newline _ single, List.append_nil]

/-- The lines before the one that is lost are those of their text. -/
theorem exists_lines_of_loses {stream : ByteStream} {before reason : String}
    (loses : stream.Loses before reason) :
    ∃ later, stream.lines = textLines before ++ .error reason :: later := by
  cases loses with
  | @garbled line rest bytes_eq whole single garbled ends =>
    have fed := feed_before_line whole single rest
    rw [← bytes_eq] at fed
    rcases ends with ⟨after, rfl⟩ | ⟨rfl, ending⟩
    · obtain ⟨last, lines⟩ := stream.exists_lines_eq
      rw [buffer, fed, LineBuffer.feed_newline_cons, LineBuffer.complete_feed] at lines
      simp only [List.reverse_append, List.reverse_cons, List.reverse_reverse, List.map_append,
        List.map_cons, List.map_nil, map_decode_utf8, decode_dropReturn garbled,
        List.append_assoc] at lines
      exact ⟨_, lines⟩
    -- What does not encode a text is not empty, so it is still in the buffer at the end.
    · have pending : line.reverse.isEmpty = false := by
        rw [List.isEmpty_reverse, List.isEmpty_eq_false_iff]
        rintro rfl
        exact garbled ⟨[], rfl⟩
      refine ⟨[], ?_⟩
      rw [lines_of_ending ending, buffer, fed]
      simp [LineBuffer.lines, LineBuffer.feed, pending, ← map_decode_utf8,
        decode_of_not_isUtf8 garbled]
  | @cut line _ bytes_eq whole single failed =>
    have fed := feed_before_line whole single []
    rw [List.append_nil, ← bytes_eq] at fed
    refine ⟨[], ?_⟩
    rw [lines_of_failing failed, buffer, fed, ← map_decode_utf8]
    simp [LineBuffer.feed]

/-- A stream that fails, or whose bytes encode no text, loses a line. -/
theorem exists_loses {stream : ByteStream}
    (faulty : stream.failure ≠ none ∨ ¬ Text.IsUtf8 stream.bytes) :
    ∃ before reason, stream.Loses before reason := by
  obtain ⟨before, line, rest, bytes_eq, whole, single, others⟩ :=
    Text.exists_wholeLines stream.bytes
  have whole' : Text.WholeLines (String.ofList before).toList := by rwa [String.toList_ofList]
  rw [← String.toList_ofList (l := before)] at bytes_eq
  -- On the last line it depends on how the stream ends; a failure counts whatever has come.
  rcases others with rfl | ⟨garbled, after, rfl⟩
  · cases failure : stream.failure with
    | some reason =>
      rw [List.append_nil] at bytes_eq
      exact ⟨_, reason, .cut bytes_eq whole' single failure⟩
    | none =>
      have garbled : ¬ Text.IsUtf8 line := by
        rintro ⟨text, rfl⟩
        rw [List.append_nil, ← Text.utf8_append] at bytes_eq
        exact faulty.elim (absurd failure) fun invalid => invalid ⟨_, bytes_eq.symm⟩
      exact ⟨_, _, .garbled bytes_eq whole' single garbled (.inr ⟨rfl, failure⟩)⟩
  · exact ⟨_, _, .garbled bytes_eq whole' single garbled (.inl ⟨after, rfl⟩)⟩

theorem wholeLines_of_loses {stream : ByteStream} {before reason : String}
    (loses : stream.Loses before reason) : Text.WholeLines before.toList := by
  cases loses with
  | garbled _ whole => exact whole
  | cut _ whole => exact whole

theorem lines_congr {stream other : ByteStream} (same : other.bytes = stream.bytes)
    (alike : other.failure = stream.failure) : other.lines = stream.lines := by
  unfold lines
  rw [foldl_feed, foldl_feed, buffer, buffer, same, alike]

end ByteStream

/-- Streaming agrees with reading a text. How the bytes come in chunks makes no difference. If they
encode a text and the stream just ends, the reading is that of the text. Otherwise some line is
lost, and either a line before it is at fault, and the reading is that of the lines before it, or
their rules stand and the error is on the line that is lost and tells the reason. -/
theorem Dialect.readStream_agrees_with_read (dialect : Dialect) (stream : ByteStream) :
    (∀ other : ByteStream, other.bytes = stream.bytes → other.failure = stream.failure →
      dialect.readStream other = dialect.readStream stream) ∧
    (∀ text : String, Text.utf8 text.toList = stream.bytes → stream.failure = none →
      dialect.readStream stream = dialect.read text) ∧
    (stream.failure ≠ none ∨ ¬ Text.IsUtf8 stream.bytes →
      ∃ before reason, stream.Loses before reason) ∧
    ∀ before reason, stream.Loses before reason →
      ((dialect.read before).error? ≠ none →
        dialect.readStream stream = dialect.read before) ∧
      ((dialect.read before).error? = none →
        (dialect.readStream stream).rules = (dialect.read before).rules ∧
        (dialect.readStream stream).result =
          .error ⟨.unreadable (some reason), before.toList.count '\n' + 1⟩) := by
  refine ⟨?_, ?_, ByteStream.exists_loses, ?_⟩
  · intro other same alike
    rw [readStream, readStream, ByteStream.lines_congr same alike]
  · intro text encoded ending
    rw [readStream, ByteStream.lines_of_text encoded ending, ByteStream.read_eq]
  · intro before reason loses
    obtain ⟨later, lines⟩ := ByteStream.exists_lines_of_loses loses
    rw [readStream, lines, ByteStream.read_eq]
    constructor
    · intro fault
      exact Reading.ofLines_append_of_fault fault _
    · intro faultless
      have number : (ByteStream.textLines before).length = before.toList.count '\n' := by
        rw [ByteStream.textLines, List.length_map,
          Text.length_lines (ByteStream.wholeLines_of_loses loses)]
      have error := Reading.error?_of_lost faultless reason later
      rw [number] at error
      refine ⟨Reading.rules_of_lost faultless reason later, ?_⟩
      rw [Reading.result, Reading.accepted, error]
      rfl

/-- A stream in two chunks that part the bytes of a character, on the second of its lines. -/
def ByteStream.parted (failure : Option String) : ByteStream :=
  let bytes := Text.utf8 "(A,0,B,1,>)\r\n(B,É,A,1,<)".toList
  ⟨[bytes.take 17, bytes.drop 17], failure⟩

/-- A stream with a byte of no encoding on the line after one that is at fault. -/
def ByteStream.garbledLate : ByteStream := ⟨[[40, 65, 10, 255]], none⟩

theorem Dialect.readStream_agrees_with_read_parted :
    standard.readStream (.parted none) = standard.read "(A,0,B,1,>)\r\n(B,É,A,1,<)" ∧
    standard.readStream ⟨[(ByteStream.parted none).bytes], some "disk on fire"⟩ =
      standard.readStream (.parted (some "disk on fire")) ∧
    (ByteStream.parted (some "disk on fire")).Loses "(A,0,B,1,>)\r\n" "disk on fire" ∧
    (standard.readStream (.parted (some "disk on fire"))).rules =
      [⟨⟨"A", '0'⟩, ⟨"B", '1', .right⟩, 1⟩] ∧
    (standard.readStream (.parted (some "disk on fire"))).result =
      .error ⟨.unreadable (some "disk on fire"), 2⟩ ∧
    ByteStream.garbledLate.Loses "(A\n" ByteStream.invalidText ∧
    standard.readStream .garbledLate = standard.read "(A\n" := by
  have ending := standard.readStream_agrees_with_read (.parted none)
  have failing := standard.readStream_agrees_with_read (.parted (some "disk on fire"))
  have late := standard.readStream_agrees_with_read .garbledLate
  have cut : (ByteStream.parted (some "disk on fire")).Loses "(A,0,B,1,>)\r\n" "disk on fire" := by
    refine @ByteStream.Loses.cut _ _ [40, 66, 44, 195, 137, 44, 65, 44, 49, 44, 60, 41] _
      ?_ ?_ ?_ rfl
    · decide +kernel
    · decide +kernel
    · decide
  have garbled : ByteStream.garbledLate.Loses "(A\n" ByteStream.invalidText := by
    refine @ByteStream.Loses.garbled _ _ [255] [] ?_ ?_ ?_ ?_ (.inr ⟨rfl, rfl⟩)
    · decide +kernel
    · decide +kernel
    · decide
    · decide +kernel
  obtain ⟨rules, result⟩ := (failing.2.2.2 _ _ cut).2 (by decide +kernel)
  have number : "(A,0,B,1,>)\r\n".toList.count '\n' = 1 := by decide +kernel
  rw [number] at result
  refine ⟨?_, ?_, cut, rules.trans ?_, result, garbled, ?_⟩
  · exact ending.2.1 _ (by decide +kernel) rfl
  · exact failing.1 _ (by decide +kernel) rfl
  · decide +kernel
  · exact (late.2.2.2 _ _ garbled).1 (by decide +kernel)

end TuringScript
