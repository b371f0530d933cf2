import TuringScript.Source

/-!
# Byte streams

A source may arrive in chunks of bytes. Lines are cut at newline bytes wherever the chunks end, and
each line must be UTF-8. A stream that fails loses the line it was in, and the failure is reported
on that line.
-/
namespace TuringScript

/-- The chunks of a stream, and the reason it failed if it did not just end. -/
structure ByteStream where
  chunks : List (List UInt8)
  failure : Option String
  deriving DecidableEq

/-- The complete lines seen so far and the bytes since, both latest first. -/
structure LineBuffer where
  complete : List (List UInt8)
  pending : List UInt8

namespace LineBuffer

def empty : LineBuffer := ⟨[], []⟩

/-- Drops the carriage return that a line, given last byte first, ends with. -/
def dropReturn : List UInt8 → List UInt8
  | 13 :: line => line
  | line => line

def push (buffer : LineBuffer) (byte : UInt8) : LineBuffer :=
  if byte = 10 then ⟨(dropReturn buffer.pending).reverse :: buffer.complete, []⟩
  else { buffer with pending := byte :: buffer.pending }

def feed (buffer : LineBuffer) (chunk : List UInt8) : LineBuffer :=
  chunk.foldl push buffer

theorem feed_append (buffer : LineBuffer) (front back : List UInt8) :
    buffer.feed (front ++ back) = (buffer.feed front).feed back :=
  List.foldl_append

end LineBuffer

namespace ByteStream

def invalidText : String := "stream did not contain valid UTF-8"

def decode (line : List UInt8) : Except String String :=
  match String.fromUTF8? ⟨line.toArray⟩ with
  | some text => .ok text
  | none => .error invalidText

/-- The lines of a stream, and the reason of its failure in place of the line that was lost. -/
def lines (stream : ByteStream) : List (Except String String) :=
  let buffer := stream.chunks.foldl LineBuffer.feed .empty
  let complete := buffer.complete.reverse.map decode
  match stream.failure with
  | some reason => complete ++ [.error reason]
  | none =>
    if buffer.pending.isEmpty then complete else complete ++ [decode buffer.pending.reverse]

end ByteStream

def Dialect.readStream (dialect : Dialect) (stream : ByteStream) : Reading :=
  .ofLines dialect stream.lines

end TuringScript
