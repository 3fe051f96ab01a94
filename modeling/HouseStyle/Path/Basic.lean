import HouseStyle.Text.Split
import HouseStyle.Text.Utf8

/-!
Paths as bytes and as sequences of components. A path keeps the spelling it was given, which need not be a text;
two spellings name the same place as far as comparison goes when their components agree. Repeated and trailing
slashes and every `.` but a leading one leave no component; `..` stays.
-/

set_option autoImplicit false
namespace HouseStyle

structure Path where
  bytes : Text.Bytes
  deriving DecidableEq, Repr, Inhabited

namespace Path

def ofText (text : String) : Path := ⟨Text.bytes text⟩

instance : Coe String Path := ⟨ofText⟩

def text? (p : Path) : Option String := Text.decode? p.bytes

def display (p : Path) : String := Text.decodeLossy p.bytes

abbrev Segment := Text.Bytes

inductive Component where
  | root
  | here
  | up
  | name (segment : Segment)
  deriving DecidableEq, Repr

def slash : UInt8 := 0x2F

def dot : UInt8 := 0x2E

def segments (p : Path) : List Segment :=
  Text.splitAt (· == slash) p.bytes

def ofSegments (parts : List Segment) : Path :=
  ⟨Text.joinWith slash parts⟩

/-- An empty segment or a dot: it adds nothing to the place a path names. -/
def isIdle (segment : Segment) : Bool :=
  segment == [] || segment == [dot]

def component (segment : Segment) : Component :=
  if segment == [dot, dot] then .up else .name segment

def isAbsolute (p : Path) : Bool :=
  p.bytes.head? == some slash

/-- The root of an absolute path, or the dot that a relative one begins with. -/
def start (p : Path) : List Component :=
  if p.isAbsolute then [.root]
  else if p.segments.head? == some [dot] then [.here]
  else []

def components (p : Path) : List Component :=
  p.start ++ (p.segments.filter (!isIdle ·)).map component

def same (p q : Path) : Bool :=
  p.components == q.components

def Component.segment : Component → Segment
  | .root => []
  | .here => [dot]
  | .up => [dot, dot]
  | .name segment => segment

def ofComponents : List Component → Path
  | [.root] => ⟨[slash]⟩
  | parts => ofSegments (parts.map Component.segment)

def fileName? (p : Path) : Option Segment :=
  match p.components.getLast? with
  | some (.name segment) => some segment
  | _ => none

def shownName (p : Path) : String := (p.fileName?.map Text.decodeLossy).getD ""

def parents (p : Path) : List Component :=
  p.components.dropLast

/-- What follows the last dot of a name, unless that dot is its first character. -/
def extensionOf? (name : Segment) : Option Segment :=
  match name.reverse.span (· != dot) with
  | (_, []) => none
  | (_, [_]) => none
  | (after, _) => some after.reverse

def extension? (p : Path) : Option Segment :=
  p.fileName?.bind extensionOf?

def join (p q : Path) : Path :=
  if q.isAbsolute then q
  else if p.bytes.isEmpty || p.bytes.getLast? == some slash then ⟨p.bytes ++ q.bytes⟩
  else ⟨p.bytes ++ slash :: q.bytes⟩

/-- The path without `.` components and idle slashes; the empty path becomes `.`. -/
def normalize (p : Path) : Path :=
  match p.components.filter (· != .here) with
  | [] => ⟨[dot]⟩
  | parts => ofComponents parts

def dropIdle (parts : List Segment) : List Segment :=
  parts.dropWhile isIdle

def dropIdleEnd (parts : List Segment) : List Segment :=
  (dropIdle parts.reverse).reverse

def dropBusy : Nat → List Segment → List Segment
  | 0, parts => parts
  | _ + 1, [] => []
  | count + 1, part :: rest => if isIdle part then dropBusy (count + 1) rest else dropBusy count rest

/-- What is left of `p` below `base`, in the spelling of `p`; `none` when it is not below it. -/
def below? (base p : Path) : Option Path :=
  if base.components.isPrefixOf p.components then
    if base.components.isEmpty then
      if p.isAbsolute then some p else some (ofSegments (dropIdleEnd p.segments))
    else
      let busy := (base.components.filter fun c => c != .root && c != .here).length
      some (ofSegments (dropIdleEnd (dropIdle (dropBusy busy p.segments))))
  else none

def relativeTo (base p : Path) : Path :=
  (below? base p).getD p

end Path
end HouseStyle
