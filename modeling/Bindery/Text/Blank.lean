/-!
# Blank characters

The characters that separate words without being seen, and the removal of them from both ends of
a text.  The set is the Unicode property `White_Space`, which is wider than the one of the core
library.
-/

namespace Bindery.Text

/-- Whether the character has the `White_Space` property. -/
def isBlank (c : Char) : Bool :=
  let code := c.toNat
  (0x09 ≤ code && code ≤ 0x0D) || code == 0x20 || code == 0x85 || code == 0xA0 || code == 0x1680
    || (0x2000 ≤ code && code ≤ 0x200A) || code == 0x2028 || code == 0x2029 || code == 0x202F
    || code == 0x205F || code == 0x3000

/-- The text without the blank characters at its two ends. -/
def trim (text : String) : String :=
  String.ofList ((text.toList.dropWhile isBlank).reverse.dropWhile isBlank).reverse

end Bindery.Text
