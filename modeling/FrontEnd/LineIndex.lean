import FrontEnd.Checked

/-!
# Lines and columns

A line index holds where the lines of a text begin, found once from its bytes. A byte offset is
then turned into a line and column by halving the table, and a line number back into the
offset of its start. Lines and columns count from one, columns count bytes, and a line ends
after each line feed.
-/

namespace FrontEnd

/-- A place in a text, both parts counted from one. -/
structure LineCol where
  line : UInt32
  col : UInt32
  deriving DecidableEq

namespace LineCol

/-- Places are in the order in which a text is read. -/
instance : LT LineCol :=
  ⟨fun a b => a.line < b.line ∨ a.line = b.line ∧ a.col < b.col⟩

instance (a b : LineCol) : Decidable (a < b) :=
  inferInstanceAs (Decidable (a.line < b.line ∨ a.line = b.line ∧ a.col < b.col))

def latest (a b : LineCol) : LineCol :=
  if a < b then b else a

def toText (p : LineCol) : String :=
  toString p.line.toNat ++ ":" ++ toString p.col.toNat

end LineCol

/-- Where the lines of a text begin, and the length of the text. -/
structure LineIndex where
  starts : Array UInt32
  len : UInt32
  deriving DecidableEq

namespace LineIndex

/-- Adds a line start behind each line feed among the bytes from `offset` on, as long as the
start fits 32 bits. -/
def scanFrom (text : String) (starts : Array UInt32) (offset : Nat) : Array UInt32 :=
  if h : offset < text.utf8ByteSize then
    if text.getUTF8Byte ⟨offset⟩ h = 10 then
      if offset + 1 < UInt32.size then
        scanFrom text (starts.push (UInt32.ofNat (offset + 1))) (offset + 1)
      else starts
    else scanFrom text starts (offset + 1)
  else starts
termination_by text.utf8ByteSize - offset

def ofText (text : String) : LineIndex :=
  ⟨scanFrom text #[0] 0, UInt32.ofNatClamp text.utf8ByteSize⟩

def lineCount (index : LineIndex) : Nat := index.starts.size

/-- How many of the ascending line starts are at most `offset`, all those before `lo` being so
and none from `hi` on. -/
def linesUpTo (starts : Array UInt32) (offset : UInt32) (lo hi : Nat) : Nat :=
  if lo < hi then
    let mid := lo + (hi - lo) / 2
    if starts.getD mid 0 ≤ offset then linesUpTo starts offset (mid + 1) hi
    else linesUpTo starts offset lo mid
  else lo
termination_by hi - lo

/-- The column of an offset in the line that begins at `start`. -/
def column (start offset : UInt32) : Except Overflow UInt32 :=
  (Checked.sub offset start).bind fun width => Checked.add width 1

/-- The line and column of a byte offset; an offset past the end stands for the end. -/
def locate (index : LineIndex) (offset : UInt32) : Except Overflow LineCol :=
  let offset := if offset ≤ index.len then offset else index.len
  let line := linesUpTo index.starts offset 0 index.starts.size
  (column (index.starts.getD (line - 1) 0) offset).map fun col => ⟨UInt32.ofNatClamp line, col⟩

def startOf? (index : LineIndex) (line : UInt32) : Option UInt32 :=
  if line = 0 then none else index.starts[line.toNat - 1]?

end LineIndex

end FrontEnd
