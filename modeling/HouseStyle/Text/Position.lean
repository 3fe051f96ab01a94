import HouseStyle.Text.Utf8

/-!
Lines and columns. Both count from one; a column counts bytes, and only a line feed ends a line.
-/

set_option autoImplicit false
namespace HouseStyle.Text

structure Position where
  line : Nat
  column : Nat
  deriving DecidableEq, Repr

def newline : UInt8 := 0x0A

def lastLineStart (before : Bytes) : Nat :=
  before.length - (before.reverse.takeWhile (· != newline)).length

/-- The position of a byte offset; an offset beyond the end is taken as the end. -/
def positionOf (content : Bytes) (offset : Nat) : Position :=
  let before := content.take offset
  { line := before.count newline + 1, column := before.length - lastLineStart before + 1 }

/-- The characters that begin at byte offsets from `start` up to `stop`. -/
def slice : List Char → Nat → Nat → List Char
  | [], _, _ => []
  | c :: rest, start, stop =>
    if stop = 0 then []
    else if start = 0 then c :: slice rest 0 (stop - c.utf8Size)
    else slice rest (start - c.utf8Size) (stop - c.utf8Size)

end HouseStyle.Text
