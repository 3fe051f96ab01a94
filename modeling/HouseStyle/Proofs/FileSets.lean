import HouseStyle.Proofs.FirstOccurrences
import HouseStyle.Proofs.Paths
import HouseStyle.Selection.FileSet

/-! What a file set holds after a run of insertions: the first of each normal form, in order. -/

set_option autoImplicit false
namespace HouseStyle.FileSet

/-- The files are normal forms and no two of them are alike. -/
structure Settled (s : FileSet) : Prop where
  normal : ∀ file ∈ s.files, file.normalize = file
  distinct : s.files.Nodup

theorem eq_mk {s : FileSet} {root : Option Path} {files : List Path} (sameRoot : s.root = root)
    (sameFiles : s.files = files) : s = ⟨root, files⟩ := by
  subst sameRoot sameFiles
  rfl

theorem isNew_iff (s : FileSet) (path : Path) : s.isNew path = true ↔ path.normalize ∉ s.files := by
  simp [isNew]

theorem files_insert (s : FileSet) (path : Path) :
    (s.insert path).files = if path.normalize ∈ s.files then s.files else s.files ++ [path.normalize] := by
  rw [insert]
  by_cases known : path.normalize ∈ s.files
  · rw [if_neg (mt (isNew_iff s path).mp (by simpa using known)), if_pos known]
  · rw [if_pos ((isNew_iff s path).mpr known), if_neg known]

@[simp] theorem root_insert (s : FileSet) (path : Path) : (s.insert path).root = s.root := by
  rw [insert]
  split <;> rfl

theorem Settled.insert {s : FileSet} (settled : s.Settled) (path : Path) : (s.insert path).Settled := by
  by_cases known : path.normalize ∈ s.files
  · have unchanged := files_insert s path
    rw [if_pos known] at unchanged
    exact ⟨by rw [unchanged]; exact settled.normal, by rw [unchanged]; exact settled.distinct⟩
  · have longer := files_insert s path
    rw [if_neg known] at longer
    constructor
    · intro file member
      rw [longer, List.mem_append, List.mem_singleton] at member
      rcases member with old | rfl
      · exact settled.normal file old
      · exact Path.normalize_normalize path
    · rw [longer, List.nodup_append]
      refine ⟨settled.distinct, by simp, ?_⟩
      rintro file old other new rfl
      rw [List.mem_singleton] at new
      exact known (new ▸ old)

theorem Settled.insertAll {s : FileSet} (settled : s.Settled) (paths : List Path) :
    (s.insertAll paths).Settled := by
  induction paths generalizing s with
  | nil => exact settled
  | cons path rest ih => exact ih (settled.insert path)

theorem settled_nil (root : Option Path) : Settled ⟨root, []⟩ :=
  ⟨by simp, List.nodup_nil⟩

@[simp] theorem root_insertAll (s : FileSet) (paths : List Path) : (s.insertAll paths).root = s.root := by
  induction paths generalizing s with
  | nil => rfl
  | cons path rest ih => exact (ih _).trans (root_insert s path)

/-- A whole run of insertions keeps the first of each normal form. -/
theorem files_insertAll (root : Option Path) (paths : List Path) :
    (insertAll ⟨root, []⟩ paths).files = (paths.map Path.normalize).eraseDups := by
  -- from the end, since the last insertion looks at all files before it
  induction paths using List.reverseRecOn with
  | nil => rfl
  | append_singleton paths path ih =>
    have last : insertAll ⟨root, []⟩ (paths ++ [path]) = (insertAll ⟨root, []⟩ paths).insert path := by
      simp only [insertAll, List.foldl_append, List.foldl_cons, List.foldl_nil]
    rw [last, files_insert, ih, List.map_append, List.map_singleton, eraseDups_concat]
    simp only [List.contains_iff_mem, List.mem_eraseDups]

theorem mem_insertAll {root : Option Path} {paths : List Path} {file : Path} :
    file ∈ (insertAll ⟨root, []⟩ paths).files ↔ ∃ path ∈ paths, path.normalize = file := by
  rw [files_insertAll, List.mem_eraseDups, List.mem_map]

/-- Files of a settled set are told apart by their components. -/
theorem Settled.not_same {s : FileSet} (settled : s.Settled) :
    s.files.Pairwise fun first second => first.same second = false := by
  refine settled.distinct.imp_of_mem ?_
  intro first second firstIn secondIn differ
  rw [Bool.eq_false_iff]
  intro same
  rw [← settled.normal first firstIn, ← settled.normal second secondIn, Path.same_normalize_iff] at same
  rw [settled.normal first firstIn, settled.normal second secondIn] at same
  exact differ same

end HouseStyle.FileSet
