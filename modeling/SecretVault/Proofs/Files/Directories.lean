import SecretVault.Proofs.Files.Vaults

/-!
Directories that stay. Where no directory is lost, every path that could be followed can be followed
still, and directories that have been made need not be made again.
-/
namespace SecretVault.Files.Tree

/-- The second tree has the directories of the first. -/
def DirectoriesStay (tree tree' : Tree) : Prop :=
  ∀ location, tree.at? location = some .directory → tree'.at? location = some .directory

theorem DirectoriesStay.refl (tree : Tree) : tree.DirectoriesStay tree := fun _ here => here

theorem DirectoriesStay.trans {tree tree' tree'' : Tree} (first : tree.DirectoriesStay tree')
    (second : tree'.DirectoriesStay tree'') : tree.DirectoriesStay tree'' :=
  fun location here => second location (first location here)

/-- Whatever is put where there is no directory takes the place of none. -/
theorem directoriesStay_put {tree : Tree} {location : Location}
    (noDirectory : tree.at? location ≠ some .directory) (entry : Entry) :
    tree.DirectoriesStay (tree.put location entry) := by
  intro other here
  have apart : other ≠ location := by
    rintro rfl
    exact noDirectory here
  rw [at?_put (ne_nil_of_at? noDirectory), if_neg apart]
  exact here

/-- A path of a directory leads to one. -/
theorem isDirectoryPath_iff {tree : Tree} {directory : Location} {path : String} :
    tree.isDirectoryPath directory path = true ↔
      ∃ location, tree.locate directory path = .ok location ∧
        tree.at? location = some .directory := by
  unfold isDirectoryPath find
  cases tree.locate directory path with
  | error e => simp [bind, Except.bind]
  | ok location =>
    cases found : tree.at? location with
    | none => simp [bind, Except.bind, found, throw, throwThe, MonadExceptOf.throw]
    | some entry => cases entry <;> simp [bind, Except.bind, found, pure, Except.pure]

section
variable {tree tree' : Tree} (stay : tree.DirectoriesStay tree')
include stay

theorem follow_of_stay {pieces : List String} {location found : Location}
    (followed : tree.follow location pieces = .ok found) :
    tree'.follow location pieces = .ok found := by
  induction pieces generalizing location with
  | nil => exact followed
  | cons piece rest ih =>
    unfold follow at followed ⊢
    split at followed
    · cases followed
    · rename_i here
      rw [stay location here]
      dsimp only
      split at followed
      · rename_i stands
        rw [if_pos stands]
        exact ih followed
      · rename_i moves
        rw [if_neg moves]
        split at followed
        · rename_i up
          rw [if_pos up]
          exact ih followed
        · rename_i down
          rw [if_neg down]
          split at followed
          · cases followed
          · rename_i short
            rw [if_neg short]
            exact ih followed
    · cases followed

theorem locate_of_stay {directory found : Location} {path : String}
    (located : tree.locate directory path = .ok found) :
    tree'.locate directory path = .ok found := by
  unfold locate at located ⊢
  split at located
  · cases located
  · rename_i named
    rw [if_neg named]
    split at located
    · cases located
    · rename_i plain
      rw [if_neg plain]
      split at located
      · cases located
      · rename_i short
        rw [if_neg short]
        exact follow_of_stay stay located

theorem isDirectoryPath_of_stay {directory : Location} {path : String}
    (here : tree.isDirectoryPath directory path = true) :
    tree'.isDirectoryPath directory path = true := by
  obtain ⟨location, located, found⟩ := isDirectoryPath_iff.1 here
  exact isDirectoryPath_iff.2 ⟨location, locate_of_stay stay located, stay location found⟩

end

/-- A directory that is made takes the place of none, and is there. -/
theorem makeDirectory_makes {tree tree' : Tree} {directory : Location} {path : String}
    (made : tree.makeDirectory directory path = .ok tree') :
    tree.DirectoriesStay tree' ∧ tree'.isDirectoryPath directory path = true := by
  unfold makeDirectory at made
  cases located : tree.locate directory path with
  | error e =>
    rw [located] at made
    cases made
  | ok location =>
    cases found : tree.at? location with
    | some entry =>
      simp only [located, found, bind, Except.bind, Option.isSome_some, if_true] at made
      cases made
    | none =>
      simp only [located, found, bind, Except.bind, Option.isSome_none, Bool.false_eq_true,
        if_false] at made
      have free : tree.at? location ≠ some .directory := by
        rw [found]
        nofun
      split at made
      · cases made
        have stay := directoriesStay_put free .directory
        refine ⟨stay, isDirectoryPath_iff.2 ⟨location, locate_of_stay stay located, ?_⟩⟩
        rw [at?_put (ne_nil_of_at? free), if_pos rfl]
      · cases made
      · cases made

/-- There is nothing to make where there is a directory. -/
theorem makeDirectory_of_isDirectoryPath {tree : Tree} {directory : Location} {path : String}
    (here : tree.isDirectoryPath directory path = true) :
    tree.makeDirectory directory path = .error .exists := by
  obtain ⟨location, located, found⟩ := isDirectoryPath_iff.1 here
  simp [makeDirectory, located, found, bind, Except.bind, throw, throwThe, MonadExceptOf.throw]

/-- What making directories falls back on: the directory is there. -/
theorem isDirectoryPath_of_already {tree tree' : Tree} {directory : Location} {path : String}
    {e : Error}
    (kept : (if tree.isDirectoryPath directory path then .ok tree else .error e) =
      Except.ok tree') : tree' = tree ∧ tree.isDirectoryPath directory path = true := by
  cases here : tree.isDirectoryPath directory path with
  | true =>
    rw [here] at kept
    exact ⟨(Except.ok.inj kept).symm, rfl⟩
  | false =>
    rw [here] at kept
    cases kept

theorem makeDirectoriesWithin_makes {depth : Nat} {tree tree' : Tree} {directory : Location}
    {path : String} (made : makeDirectoriesWithin depth tree directory path = .ok tree') :
    tree.DirectoriesStay tree' ∧ (path = "" ∨ tree'.isDirectoryPath directory path = true) := by
  fun_induction makeDirectoriesWithin depth tree directory path generalizing tree' with
  | case1 _ _ empty =>
    cases made
    exact ⟨.refl _, .inl (by simpa using empty)⟩
  | case2 _ _ _ _ first =>
    cases made
    obtain ⟨stay, here⟩ := makeDirectory_makes first
    exact ⟨stay, .inr here⟩
  | case3 => cases made
  | case4 _ _ _ _ _ _ _ above _ last ih =>
    cases made
    obtain ⟨stay, here⟩ := makeDirectory_makes last
    exact ⟨(ih above).1.trans stay, .inr here⟩
  | case5 =>
    rename_i above _ _ ih
    obtain ⟨rfl, here⟩ := isDirectoryPath_of_already made
    exact ⟨(ih above).1, .inr here⟩
  | case6 =>
    obtain ⟨rfl, here⟩ := isDirectoryPath_of_already made
    exact ⟨.refl _, .inr here⟩

/-- Directories that are there are not made again. -/
theorem makeDirectoriesWithin_of_isDirectoryPath (depth : Nat) {tree : Tree} {directory : Location}
    {path : String} (here : path = "" ∨ tree.isDirectoryPath directory path = true) :
    makeDirectoriesWithin depth tree directory path = .ok tree := by
  rcases here with rfl | here
  · unfold makeDirectoriesWithin
    rfl
  · have already := makeDirectory_of_isDirectoryPath here
    unfold makeDirectoriesWithin
    simp [already, here]

/-- Directories once made need not be made again in a tree where they stay. -/
theorem makeDirectories_again {tree tree' tree'' : Tree} {directory : Location} {path : String}
    (made : tree.makeDirectories directory path = .ok tree') (stay : tree'.DirectoriesStay tree'') :
    tree''.makeDirectories directory path = .ok tree'' := by
  obtain ⟨-, empty | here⟩ := makeDirectoriesWithin_makes made
  · exact makeDirectoriesWithin_of_isDirectoryPath _ (.inl empty)
  · exact makeDirectoriesWithin_of_isDirectoryPath _ (.inr (isDirectoryPath_of_stay stay here))

/-- What has been written to a path is found there, since no directory was in its place. -/
theorem find_of_write {tree tree' : Tree} {directory : Location} {path : String} {entry : Entry}
    (written : tree.write directory path entry = .ok tree') :
    ∃ location, tree'.find directory path = .ok (location, entry) := by
  unfold write at written
  cases located : tree.locate directory path with
  | error e =>
    rw [located] at written
    cases written
  | ok location =>
    rw [located] at written
    by_cases here : tree.at? location = some .directory
    · simp [isDirectory, here, bind, Except.bind, throw, throwThe, MonadExceptOf.throw] at written
    · by_cases above : tree.at? location.dropLast = some .directory
      · have put : tree' = tree.put location entry := by
          simp [isDirectory, here, above, bind, Except.bind, pure, Except.pure] at written
          exact written.symm
        subst put
        have located' := locate_of_stay (directoriesStay_put here entry) located
        have there : (tree.put location entry).at? location = some entry := by
          rw [at?_put (ne_nil_of_at? here), if_pos rfl]
        exact ⟨location, by simp [find, located', there, bind, Except.bind, pure, Except.pure]⟩
      · simp [isDirectory, here, above, bind, Except.bind, throw, throwThe,
          MonadExceptOf.throw] at written

end SecretVault.Files.Tree
