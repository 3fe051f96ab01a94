import HouseStyle.Proofs.ReturnNames

/-! PascalCase and the separators of words.

A separator ends one word and begins the next, so that what stands on either side of it can be put into PascalCase on
its own. The result has no separator: those of the name go, and no character becomes one by a change of case, since
neither table of case leads to `-` or `_`.
-/

set_option autoImplicit false
namespace HouseStyle.Text

/-! Either side of a separator -/

theorem capitals_append_separator {sep : Char} (separator : isWordSeparator sep = true) (first : Bool)
    (front back : List Char) :
    capitals first (front ++ sep :: back) = capitals first front ++ capitals true back := by
  induction front generalizing first with
  | nil => simp [capitals, separator]
  | cons c front ih =>
    rw [List.cons_append, capitals, capitals]
    split
    · exact ih true
    · rw [ih false, List.append_assoc]

theorem pascalCase_append_separator {sep : Char} (separator : isWordSeparator sep = true) (front back : String) :
    pascalCase (front ++ String.singleton sep ++ back) = pascalCase front ++ pascalCase back := by
  apply String.toList_injective
  rw [String.toList_append, toList_pascalCase, toList_pascalCase, toList_pascalCase, String.toList_append,
    String.toList_append, String.toList_singleton, List.append_assoc, List.singleton_append,
    capitals_append_separator separator]

/-! What a change of case leads to -/

/-- No code that the run leads to is the given one. -/
def CaseRun.Avoids (run : CaseRun) (code : Nat) : Prop :=
  code < run.image ∨ run.image + (run.last - run.first) < code

instance (run : CaseRun) (code : Nat) : Decidable (run.Avoids code) :=
  inferInstanceAs (Decidable (_ ∨ _))

/-- Neither the runs nor the expansions lead to any of the codes. -/
structure AvoidsAll (runs : List CaseRun) (expansions : List (Nat × List Nat)) (codes : List Nat) : Prop where
  runs : ∀ run ∈ runs, ∀ code ∈ codes, run.Avoids code
  expansions : ∀ entry ∈ expansions, ∀ code ∈ codes, code ∉ entry.2

theorem toNat_of_ofNat_eq {n : Nat} {c : Char} (same : Char.ofNat n = c) (some : c.toNat ≠ 0) : n = c.toNat := by
  subst same
  by_cases valid : n.isValidChar
  · rw [Char.ofNat, dif_pos valid]
    rfl
  · rw [Char.ofNat, dif_neg valid] at some
    exact absurd rfl some

/-- A character that no entry of the tables leads to comes from itself alone. -/
theorem eq_of_mem_mapCase {runs : List CaseRun} {expansions : List (Nat × List Nat)} {codes : List Nat}
    (avoids : AvoidsAll runs expansions codes) {c d : Char} (listed : d.toNat ∈ codes) (some : d.toNat ≠ 0)
    (member : d ∈ mapCase runs expansions c) : d = c := by
  rw [mapCase] at member
  split at member
  · next image found =>
    obtain ⟨n, inside, same⟩ := List.mem_map.mp member
    rw [toNat_of_ofNat_eq same some] at inside
    obtain ⟨before, after, whole, _⟩ := List.lookup_eq_some_iff.mp found
    exact absurd inside (avoids.expansions (c.toNat, image) (by simp [whole]) _ listed)
  · split at member
    · next run found =>
      have code := toNat_of_ofNat_eq (List.mem_singleton.mp member).symm some
      have covered := List.find?_some found
      simp only [CaseRun.covers, Bool.and_eq_true, decide_eq_true_eq] at covered
      rcases avoids.runs run (List.mem_of_find?_eq_some found) _ listed with below | above
      · omega
      · omega
    · exact List.mem_singleton.mp member

def separatorCodes : List Nat := [0x2D, 0x5F]

theorem upper_avoids : AvoidsAll upperRuns upperExpansions separatorCodes :=
  ⟨by decide +kernel, by decide +kernel⟩

theorem lower_avoids : AvoidsAll lowerRuns lowerExpansions separatorCodes :=
  ⟨by decide +kernel, by decide +kernel⟩

theorem toNat_of_isWordSeparator {c : Char} (separator : isWordSeparator c = true) :
    c.toNat ∈ separatorCodes ∧ c.toNat ≠ 0 := by
  simp only [isWordSeparator, Bool.or_eq_true, beq_iff_eq] at separator
  rcases separator with rfl | rfl
  · decide
  · decide

theorem isWordSeparator_of_mem_capitals {text : List Char} {first : Bool} {d : Char}
    (member : d ∈ capitals first text) : isWordSeparator d = false := by
  induction text generalizing first with
  | nil => cases member
  | cons c rest ih =>
    rw [capitals] at member
    split at member
    · exact ih member
    · next kept =>
      rcases List.mem_append.mp member with here | later
      · -- a separator would have come from a separator, and this one was kept
        rw [Bool.eq_false_iff]
        intro separator
        obtain ⟨listed, some⟩ := toNat_of_isWordSeparator separator
        have same : d = c := by
          cases first with
          | true => exact eq_of_mem_mapCase upper_avoids listed some here
          | false => exact eq_of_mem_mapCase lower_avoids listed some here
        exact kept (same ▸ separator)
      · exact ih later

/-! ASCII names -/

theorem length_capitals_of_ascii {text : List Char} (ascii : ∀ c ∈ text, c.toNat < 128) (first : Bool) :
    (capitals first text).length + text.countP isWordSeparator = text.length := by
  have kept := congrArg List.length (map_asciiLower_capitals ascii first)
  rw [List.length_map, List.length_map, ← List.countP_eq_length_filter] at kept
  have all : text.length = _ := List.length_eq_countP_add_countP isWordSeparator
  simp only [Bool.not_eq_true, Bool.decide_eq_false] at all
  omega

/-- PascalCase works word by word, and its words are put together without a separator. Of an ASCII name all other
characters stay, in their order and apart from their case. -/
theorem pascalCase_by_words (name : String) :
    (∀ sep ∈ ['-', '_'], ∀ other : String,
      pascalCase (name ++ String.singleton sep ++ other) = pascalCase name ++ pascalCase other) ∧
    (∀ sep ∈ ['-', '_'], sep ∉ (pascalCase name).toList) ∧
    ((∀ c ∈ name.toList, c.toNat < 128) →
      SameLetters (pascalCase name).toList (name.toList.filter (· ∉ ['-', '_'])) ∧
        (pascalCase name).length + name.toList.countP (· ∈ ['-', '_']) = name.length) := by
  have separators : isWordSeparator = fun c => decide (c ∈ ['-', '_']) := by
    funext c
    rw [Bool.eq_iff_iff, FileNaming.isWordSeparator_iff, decide_eq_true_iff]
  refine ⟨?_, ?_, ?_⟩
  · intro sep listed other
    exact pascalCase_append_separator (FileNaming.isWordSeparator_iff.mpr listed) name other
  · intro sep listed member
    rw [toList_pascalCase] at member
    have free := isWordSeparator_of_mem_capitals member
    rw [FileNaming.isWordSeparator_iff.mpr listed] at free
    exact Bool.noConfusion free
  · intro ascii
    have letters := map_asciiLower_capitals ascii true
    have length := length_capitals_of_ascii ascii true
    rw [separators] at letters length
    rw [SameLetters, ← String.length_toList, ← String.length_toList, toList_pascalCase]
    exact ⟨by simpa using letters, length⟩

/-- A ligature and a sharp s that become two letters each, and separators at both ends and next to each other. -/
theorem pascalCase_by_words_expanded :
    pascalCase "ﬁn-großE_ßA" = "FIn" ++ pascalCase "großE_ßA" ∧ pascalCase "großE_ßA" = "Große" ++ "SSa" ∧
      SameLetters "UserPro.file".toList ("--uSER__pro.file-".toList.filter (· ∉ ['-', '_'])) ∧
      (pascalCase "--uSER__pro.file-").length + 5 = 17 := by
  have ligature : pascalCase "ﬁn" = "FIn" := by decide +kernel
  have great : pascalCase "großE" = "Große" ∧ pascalCase "ßA" = "SSa" := by decide +kernel
  have user : pascalCase "--uSER__pro.file-" = "UserPro.file" := by decide +kernel
  have ascii : ∀ c ∈ "--uSER__pro.file-".toList, c.toNat < 128 :=
    List.forall_iff_forall_mem.mp (by decide +kernel)
  have kept := (pascalCase_by_words "--uSER__pro.file-").2.2 ascii
  refine ⟨?_, ?_, user ▸ kept.1, kept.2⟩
  · rw [← ligature]
    exact (pascalCase_by_words "ﬁn").1 '-' (by decide) "großE_ßA"
  · rw [← great.1, ← great.2]
    exact (pascalCase_by_words "großE").1 '_' (by decide) "ßA"

end HouseStyle.Text
