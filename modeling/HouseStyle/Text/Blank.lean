import HouseStyle.Text.Split

/-!
White space: the characters with the White_Space property, trimming them from both ends of a text, and
the non-blank lines of a text.
-/

set_option autoImplicit false
namespace HouseStyle.Text

def isBlank (c : Char) : Bool :=
  let n := c.toNat
  (0x09 ≤ n && n ≤ 0x0D) || n == 0x20 || n == 0x85 || n == 0xA0 || n == 0x1680 ||
    (0x2000 ≤ n && n ≤ 0x200A) || n == 0x2028 || n == 0x2029 || n == 0x202F || n == 0x205F ||
    n == 0x3000

def trimStart (text : List Char) : List Char :=
  text.dropWhile isBlank

def trim (text : List Char) : List Char :=
  (trimStart (trimStart text).reverse).reverse

/-- The lines of the text, trimmed, without the empty ones. -/
def filledLines (text : List Char) : List (List Char) :=
  ((splitAt (· == '\n') text).map trim).filter (!·.isEmpty)

end HouseStyle.Text
