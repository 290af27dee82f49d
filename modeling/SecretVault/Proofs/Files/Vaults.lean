import SecretVault.Opening

/-!
The vaults in a tree of files, by what they hold. Making directories and opening a vault changes
none of them: a new vault is empty, and so is what is found where there is no vault.
-/
namespace SecretVault
open SecretVault.Engine SecretVault.Files

namespace Files

/-- The tables that an entry holds. What is not a vault holds nothing. -/
def Entry.tables : Entry → Tables
  | .vault t => t
  | .directory | .bytes _ => Tables.empty

namespace Tree

/-- The tables that are kept at a location. -/
def tablesAt (tree : Tree) (location : Location) : Tables :=
  (tree.at? location).elim Tables.empty Entry.tables

theorem lookup_filter_ne {location other : Location} (apart : other ≠ location)
    (entries : List (Location × Entry)) :
    (entries.filter fun old => old.1 != location).lookup other = entries.lookup other := by
  induction entries with
  | nil => rfl
  | cons old rest ih =>
    obtain ⟨place, entry⟩ := old
    by_cases here : place = location
    · subst here
      have skipped : (other == place) = false := beq_eq_false_iff_ne.mpr apart
      simp [ih, List.lookup_cons, skipped]
    · simp [here, ih, List.lookup_cons]

theorem at?_put {location : Location} (below : location ≠ []) (tree : Tree) (entry : Entry)
    (other : Location) :
    (tree.put location entry).at? other =
      if other = location then some entry else tree.at? other := by
  by_cases same : other = location
  · simp [at?, put, same, below]
  · have skipped : (other == location) = false := beq_eq_false_iff_ne.mpr same
    simp [at?, put, same, skipped, List.lookup_cons, lookup_filter_ne same]

theorem tablesAt_put {location : Location} (below : location ≠ []) (tree : Tree) (entry : Entry)
    (other : Location) :
    (tree.put location entry).tablesAt other =
      if other = location then entry.tables else tree.tablesAt other := by
  simp only [tablesAt, at?_put below]
  split <;> rfl

/-- An entry that holds the same as the one in its place. -/
theorem tablesAt_put_same {tree : Tree} {location : Location} (below : location ≠ [])
    {entry : Entry} (same : entry.tables = tree.tablesAt location) :
    (tree.put location entry).tablesAt = tree.tablesAt := by
  funext other
  rw [tablesAt_put below]
  split
  · rename_i here
    rw [here, same]
  · rfl

theorem ne_nil_of_at? {tree : Tree} {location : Location}
    (noDirectory : tree.at? location ≠ some .directory) : location ≠ [] := by
  rintro rfl
  exact noDirectory rfl

theorem tablesAt_makeDirectory {tree tree' : Tree} {directory : Location} {path : String}
    (made : tree.makeDirectory directory path = .ok tree') : tree'.tablesAt = tree.tablesAt := by
  unfold makeDirectory at made
  cases located : tree.locate directory path with
  | error e =>
    rw [located] at made
    cases made
  | ok location =>
    cases found : tree.at? location with
    | some entry =>
      simp only [located, found, bind, Except.bind, Option.isSome_some, if_true] at made
      cases made
    | none =>
      simp only [located, found, bind, Except.bind, Option.isSome_none, Bool.false_eq_true,
        if_false] at made
      split at made
      · cases made
        have below : location ≠ [] := ne_nil_of_at? (by rw [found]; nofun)
        refine tablesAt_put_same below ?_
        simp [tablesAt, found, Entry.tables]
      · cases made
      · cases made

/-- What making directories falls back on: there may be a directory already. -/
theorem eq_of_already {tree tree' : Tree} {there : Bool} {e : Error}
    (kept : (if there then .ok tree else .error e) = Except.ok tree') : tree' = tree := by
  cases there with
  | true => exact (Except.ok.inj kept).symm
  | false => cases kept

theorem tablesAt_makeDirectoriesWithin {depth : Nat} {tree tree' : Tree} {directory : Location}
    {path : String} (made : makeDirectoriesWithin depth tree directory path = .ok tree') :
    tree'.tablesAt = tree.tablesAt := by
  fun_induction makeDirectoriesWithin depth tree directory path generalizing tree' with
  | case1 =>
    cases made
    rfl
  | case2 _ _ _ _ first =>
    cases made
    exact tablesAt_makeDirectory first
  | case3 => cases made
  | case4 _ _ _ _ _ _ _ above _ last ih =>
    cases made
    exact (tablesAt_makeDirectory last).trans (ih above)
  | case5 =>
    rename_i above _ _ ih
    rw [eq_of_already made]
    exact ih above
  | case6 => rw [eq_of_already made]

end Tree
end Files

/-- The tables are those that are kept where an open vault is kept, if it is kept anywhere. -/
def Place.Keeps (place : Place) (tree : Tree) (t : Tables) : Prop :=
  match place with
  | .file location => location ≠ [] ∧ tree.tablesAt location = t
  | .temporary => True

theorem Place.Keeps.congr {place : Place} {tree tree' : Tree} {t : Tables}
    (same : tree'.tablesAt = tree.tablesAt) (keeps : place.Keeps tree t) : place.Keeps tree' t := by
  cases place with
  | file location => exact ⟨keeps.1, by rw [same, keeps.2]⟩
  | temporary => trivial

namespace Opening

/-- Whatever opening answers, it has changed no vault; and what it opens is what was kept there. -/
def Finds (tree : Tree) (opening : Except StoreError OpenVault × Tree) : Prop :=
  opening.2.tablesAt = tree.tablesAt ∧
    ∀ vault, opening.1 = .ok vault → ∃ t, vault.database = .ofTables t ∧ vault.place.Keeps tree t

theorem finds_nothing (tree : Tree) (e : StoreError) : Finds tree (.error e, tree) := ⟨rfl, nofun⟩

/-- A new vault where there was nothing in a vault. -/
theorem finds_new {tree : Tree} {location : Location} (below : location ≠ [])
    (nothing : tree.tablesAt location = Tables.empty) :
    Finds tree (.ok ⟨.file location, .fresh⟩, tree.put location (.vault Tables.empty)) := by
  refine ⟨Tree.tablesAt_put_same below nothing.symm, fun vault opened => ?_⟩
  cases opened
  exact ⟨Tables.empty, rfl, below, nothing⟩

theorem finds_openFile (tree : Tree) (location : Location) (path : String) :
    Finds tree (openFile tree location path) := by
  have below (noDirectory : tree.at? location ≠ some .directory) : location ≠ [] :=
    Tree.ne_nil_of_at? noDirectory
  unfold openFile
  split
  · exact finds_nothing tree _
  · rename_i t found
    refine ⟨rfl, fun vault opened => ?_⟩
    cases opened
    exact ⟨t, rfl, below (by rw [found]; nofun), by simp [Tree.tablesAt, found, Entry.tables]⟩
  · exact finds_nothing tree _
  · rename_i found
    exact finds_new (below (by rw [found]; nofun)) (by simp [Tree.tablesAt, found, Entry.tables])
  · rename_i found
    split
    · exact finds_new (below (by rw [found]; nofun)) (by simp [Tree.tablesAt, found])
    · exact finds_nothing tree _

theorem finds_openVault (tree : Tree) (directory : Location) (path : String) :
    Finds tree (openVault tree directory path) := by
  unfold openVault
  dsimp only
  split
  · exact finds_nothing tree _
  · rename_i tree' made
    have same : tree'.tablesAt = tree.tablesAt := Tree.tablesAt_makeDirectoriesWithin made
    have lift {opening : Except StoreError OpenVault × Tree} (finds : Finds tree' opening) :
        Finds tree opening := by
      refine ⟨finds.1.trans same, fun vault opened => ?_⟩
      obtain ⟨t, database, keeps⟩ := finds.2 vault opened
      exact ⟨t, database, keeps.congr same.symm⟩
    apply lift
    split
    · exact finds_nothing tree' _
    · split
      · refine ⟨rfl, fun vault opened => ?_⟩
        cases opened
        exact ⟨Tables.empty, rfl, trivial⟩
      · exact finds_openFile tree' _ path

end Opening
end SecretVault
