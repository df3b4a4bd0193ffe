import FrontEnd.Token

/-!
# Cursors

A cursor reads a text character by character and remembers where the current lexeme began. It
keeps the characters of the lexeme, nearest first, and the characters ahead, so that every move
is local; the byte offsets of both ends of the lexeme are kept beside them in 32 bits.
-/

namespace FrontEnd

/-- A reading position in a text and the lexeme behind it. -/
structure Cursor where
  text : String
  /-- The byte offset at which the lexeme begins. -/
  start : UInt32
  /-- The byte offset of the next character. -/
  pos : UInt32
  /-- The characters of the lexeme, the last one first. -/
  taken : List Char
  /-- The characters not read yet. -/
  ahead : List Char
  deriving DecidableEq

namespace Cursor

def width (ch : Char) : UInt32 := UInt32.ofNat ch.utf8Size

def bytes (chars : List Char) : UInt32 := chars.foldr (fun ch n => width ch + n) 0

def ofText (text : String) : Cursor := ⟨text, 0, 0, [], text.toList⟩

def mark (c : Cursor) : Cursor := { c with start := c.pos, taken := [] }

def read (c : Cursor) : Option Char × Cursor :=
  match c.ahead with
  | [] => (none, c)
  | ch :: rest =>
    (some ch, { c with pos := c.pos + width ch, taken := ch :: c.taken, ahead := rest })

def markAndRead (c : Cursor) : Option Char × Cursor := c.mark.read

def peek (c : Cursor) : Option Char := c.ahead.head?

def readWhile (keep : Char → Bool) (c : Cursor) : Cursor :=
  let kept := c.ahead.takeWhile keep
  { c with
    pos := c.pos + bytes kept
    taken := kept.reverse ++ c.taken
    ahead := c.ahead.dropWhile keep }

/-- Puts up to `n` characters back, never past the beginning of the lexeme. -/
def unread (n : Nat) (c : Cursor) : Cursor :=
  let given := c.taken.take n
  { c with
    pos := c.pos - bytes given
    taken := c.taken.drop n
    ahead := given.reverse ++ c.ahead }

def atEnd (c : Cursor) : Bool := c.ahead.isEmpty

def lexeme (c : Cursor) : String := String.ofList c.taken.reverse

def remaining (c : Cursor) : String := String.ofList c.ahead

/-- The current lexeme as a document is told of it. -/
def excerpt (c : Cursor) : Excerpt := ⟨⟨c.start, c.pos⟩, c.lexeme⟩

end Cursor

end FrontEnd
