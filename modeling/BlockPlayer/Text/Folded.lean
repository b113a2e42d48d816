/-!
# Letters of either case

Names that are spelled in ASCII are compared without regard to case. Of all other characters only one has a
letter of ASCII for its small form: the sign for kelvins, which is a capital K in a place of its own.
-/

namespace BlockPlayer.Folded

/-- The small form of a letter. Other characters stay. -/
def char (c : Char) : Char := if c = '\u212a' then 'k' else c.toLower

/-- A text in small letters. -/
def text (s : String) : String := s.map char

end BlockPlayer.Folded
