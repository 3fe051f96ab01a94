import HouseStyle.Disk
import HouseStyle.Proofs.EncodedText
import Mathlib.Data.List.Induction

/-! What is read from a disk is no larger than the disk.

A text that is read has the bytes of its file, and a file that can be reached is one of the files of the disk.
-/

set_option autoImplicit false
namespace HouseStyle

namespace Entry

mutual

/-- The bytes of all files in an entry. -/
def byteCount : Entry → Nat
  | file content => content.length
  | directory entries => byteCountOfEach entries
  | link _ => 0

def byteCountOfEach : List (Path.Segment × Entry) → Nat
  | [] => 0
  | (_, entry) :: rest => entry.byteCount + byteCountOfEach rest

end

theorem byteCount_le_of_mem {entries : List (Path.Segment × Entry)} {named : Path.Segment × Entry}
    (member : named ∈ entries) : named.2.byteCount ≤ byteCountOfEach entries := by
  induction entries with
  | nil => cases member
  | cons first rest ih =>
    rw [byteCountOfEach]
    rcases List.mem_cons.mp member with rfl | later
    · exact Nat.le_add_right _ _
    · exact Nat.le_add_left_of_le (ih later)

theorem byteCount_get? {e found : Entry} {name : Path.Segment} (held : e.get? name = some found) :
    found.byteCount ≤ e.byteCount := by
  obtain ⟨named, first, rfl⟩ := Option.map_eq_some_iff.mp held
  cases e with
  | file => cases first
  | link => cases first
  | directory entries =>
    rw [byteCount]
    exact byteCount_le_of_mem (List.mem_of_find?_eq_some first)

end Entry

namespace Disk

/-- What the root has, and every entry passes on to the entries in it, all entries have. -/
theorem lookup_inherits {disk : Disk} (has : Entry → Prop) (root : has disk.root)
    (inherited : ∀ {e found : Entry} {name : Path.Segment}, has e → e.get? name = some found → has found)
    {location : Location} {entry : Entry} (held : disk.lookup location = some entry) : has entry := by
  induction location using List.reverseRecOn generalizing entry with
  | nil =>
    cases held
    exact root
  | append_singleton above name ih =>
    rw [lookup, List.foldl_append] at held
    obtain ⟨directory, reached, inside⟩ := Option.bind_eq_some_iff.mp held
    exact inherited (ih reached) inside

theorem exists_lookup_of_open? {disk : Disk} {path : Path} {entry : Entry} (opened : disk.open? path = .ok entry) :
    ∃ location, disk.lookup location = some entry := by
  rw [open?] at opened
  cases located : disk.locate path with
  | error cause => simp [located, bind, Except.bind] at opened
  | ok location =>
    simp only [located, bind, Except.bind] at opened
    split at opened
    case h_1 held =>
      cases opened
      exact ⟨location, held⟩
    case h_2 => cases opened

theorem exists_file_of_readText {disk : Disk} {path : Path} {text : String} (read : disk.readText path = .ok text) :
    ∃ content, disk.open? path = .ok (.file content) ∧ Text.decode? content = some text := by
  rw [readText] at read
  cases opened : disk.open? path with
  | error cause => simp [opened, bind, Except.bind] at read
  | ok entry =>
    simp only [opened, bind, Except.bind] at read
    split at read
    · split at read
      case h_1 content _ _ decoded =>
        cases read
        exact ⟨_, rfl, decoded⟩
      case h_2 => cases read
    · cases read

theorem length_bytes_of_readText {disk : Disk} {path : Path} {text : String}
    (read : disk.readText path = .ok text) : (Text.bytes text).length ≤ disk.root.byteCount := by
  obtain ⟨content, opened, decoded⟩ := exists_file_of_readText read
  obtain ⟨location, held⟩ := exists_lookup_of_open? opened
  have inside : (Entry.file content).byteCount ≤ disk.root.byteCount :=
    lookup_inherits (fun e => e.byteCount ≤ disk.root.byteCount) (Nat.le_refl _)
      (fun whole held => Nat.le_trans (Entry.byteCount_get? held) whole) held
  rw [← Text.decode?_eq_some_iff.mp decoded]
  rwa [Entry.byteCount] at inside

end Disk
end HouseStyle
