/-!
Bytes of a text and texts from bytes. Reading is strict, or lossy: then each longest start of a
character that cannot be completed becomes one replacement character.
-/

set_option autoImplicit false
namespace HouseStyle.Text

abbrev Bytes := List UInt8

def encode (text : List Char) : Bytes :=
  text.flatMap String.utf8EncodeChar

def bytes (text : String) : Bytes :=
  encode text.toList

instance : Coe String Bytes := ⟨bytes⟩

def byteLength : List Char → Nat
  | [] => 0
  | c :: rest => c.utf8Size + byteLength rest

namespace Utf8

/-- The least and greatest second byte after a leading byte, and how many bytes follow it in all. -/
def lead? (b : UInt8) : Option (Nat × UInt8 × UInt8) :=
  if 0xC2 ≤ b && b ≤ 0xDF then some (1, 0x80, 0xBF)
  else if b == 0xE0 then some (2, 0xA0, 0xBF)
  else if b == 0xED then some (2, 0x80, 0x9F)
  else if 0xE1 ≤ b && b ≤ 0xEF then some (2, 0x80, 0xBF)
  else if b == 0xF0 then some (3, 0x90, 0xBF)
  else if 0xF1 ≤ b && b ≤ 0xF3 then some (3, 0x80, 0xBF)
  else if b == 0xF4 then some (3, 0x80, 0x8F)
  else none

/-- Adds up to `owed` following bytes to `code`; the result is `none` when one of them is missing. -/
def follow : Nat → UInt8 → UInt8 → Nat → Bytes → Option Nat × Bytes
  | 0, _, _, code, rest => (some code, rest)
  | _ + 1, _, _, _, [] => (none, [])
  | owed + 1, low, high, code, b :: rest =>
    if low ≤ b && b ≤ high then follow owed 0x80 0xBF (code * 64 + (b.toNat - 0x80)) rest
    else (none, b :: rest)

def next (b : UInt8) (rest : Bytes) : Option Char × Bytes :=
  if b < 0x80 then (some (Char.ofNat b.toNat), rest)
  else
    match lead? b with
    | none => (none, rest)
    | some (owed, low, high) =>
      let (code, after) := follow owed low high (b.toNat % Nat.pow 2 (6 - owed)) rest
      (code.map Char.ofNat, after)

theorem follow_suffix (owed : Nat) (low high : UInt8) (code : Nat) (rest : Bytes) :
    (follow owed low high code rest).2 <:+ rest := by
  fun_induction follow owed low high code rest with
  | case1 => exact List.suffix_refl _
  | case2 => exact List.suffix_refl _
  | case3 owed low high code b rest inside ih => exact ih.trans (List.suffix_cons b rest)
  | case4 => exact List.suffix_refl _

theorem next_suffix (b : UInt8) (rest : Bytes) : (next b rest).2 <:+ rest := by
  rw [next]
  split
  · exact List.suffix_refl _
  · split
    · exact List.suffix_refl _
    · exact follow_suffix ..

/-- The characters of the bytes, with `none` for each part that is no character. -/
def characters : Bytes → List (Option Char)
  | [] => []
  | b :: rest => (next b rest).1 :: characters (next b rest).2
termination_by bytes => bytes.length
decreasing_by exact Nat.lt_succ_of_le (next_suffix b rest).length_le

end Utf8

def decode? (bytes : Bytes) : Option String :=
  ((Utf8.characters bytes).mapM id).map String.ofList

def decodeLossy (bytes : Bytes) : String :=
  String.ofList ((Utf8.characters bytes).map (·.getD '\uFFFD'))

end HouseStyle.Text
