/-!
# Words in either case

Some words count in either case: the names of modes, levels and rotations.
All of them are written in ASCII without a `k`, and the Kelvin sign, whose
lower case is `k`, is the only letter beyond ASCII that becomes an ASCII
letter of its own in lower case. So folding the ASCII letters decides every
comparison with such a word.
-/

namespace PcdCatalog.Text

/-- A text with its ASCII letters in lower case. -/
def lowered (s : String) : String := s.map Char.toLower

end PcdCatalog.Text
