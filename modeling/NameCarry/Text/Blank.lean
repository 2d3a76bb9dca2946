/-!
# Blank characters, trimming and words

The mapping and link formats separate their parts by blank characters. A character is blank if it
has the Unicode property White_Space; that is a wider class than the one of `Char.isWhitespace`,
which knows four characters only. Trimming removes blanks at the two ends of a text, and the words
of a text are its longest runs of characters that are not blank.
-/

namespace NameCarry.Text

/-- Whether `c` is one of the 25 characters with the Unicode property White_Space. -/
def isBlank (c : Char) : Bool :=
  let n := c.toNat
  (0x9 ≤ n && n ≤ 0xD) || n == 0x20 || n == 0x85 || n == 0xA0 || n == 0x1680 ||
    (0x2000 ≤ n && n ≤ 0x200A) || n == 0x2028 || n == 0x2029 || n == 0x202F || n == 0x205F ||
    n == 0x3000

/-- `cs` without the longest run at its end on which `p` holds. -/
def dropEndWhile (p : Char → Bool) (cs : List Char) : List Char :=
  (cs.reverse.dropWhile p).reverse

/-- `cs` without the blanks at its two ends. -/
def trim (cs : List Char) : List Char :=
  dropEndWhile isBlank (cs.dropWhile isBlank)

/-- The words of `cs`: its longest runs of characters that are not blank, in order. -/
def words (cs : List Char) : List (List Char) :=
  (cs.splitOnP isBlank).filter (!·.isEmpty)

/-- The words of a string, as strings. -/
def tokens (line : String) : List String :=
  (words line.toList).map String.ofList

end NameCarry.Text
