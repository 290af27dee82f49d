import SecretVault.Proofs.Reopening
import SecretVault.Proofs.Secrecy.Operations

/-!
Files that differ in nothing but secret texts in vaults. Configurations are read from them alike and
vaults are opened in them alike, so that sessions start alike.
-/
namespace SecretVault
open SecretVault.Engine SecretVault.Files SecretVault.Text

/-- What is left of an entry if hidden texts are covered, in case it is a vault. -/
def Files.Entry.veiled (hidden : Spot → Bool) : Entry → Entry
  | .vault t => .vault (t.veiled hidden)
  | entry => entry

variable {hidden : Location → Spot → Bool}

namespace Files.Tree
variable {tree tree' : Tree}

/-- Everywhere there is the same, but for texts in vaults that are hidden there. -/
def Alike (hidden : Location → Spot → Bool) (tree tree' : Tree) : Prop :=
  ∀ location, (tree.at? location).map (Entry.veiled (hidden location)) =
    (tree'.at? location).map (Entry.veiled (hidden location))

theorem Alike.refl (tree : Tree) : tree.Alike hidden tree := fun _ => rfl

/-- What there may be at a location in two trees that are alike. -/
inductive SameEntry (hidden : Spot → Bool) : Option Entry → Option Entry → Prop where
  | nothing : SameEntry hidden none none
  | directory : SameEntry hidden (some .directory) (some .directory)
  | bytes (content : Utf8.Bytes) : SameEntry hidden (some (.bytes content)) (some (.bytes content))
  | vault {t t' : Tables} (left : t.veiled hidden = t'.veiled hidden) :
      SameEntry hidden (some (.vault t)) (some (.vault t'))

theorem Alike.sameEntry (alike : tree.Alike hidden tree') (location : Location) :
    SameEntry (hidden location) (tree.at? location) (tree'.at? location) := by
  have same := alike location
  cases here : tree.at? location with
  | none =>
    rw [here] at same
    rw [Option.map_eq_none_iff.1 same.symm]
    exact .nothing
  | some entry =>
    cases there : tree'.at? location with
    | none =>
      rw [here, there] at same
      cases same
    | some entry' =>
      rw [here, there] at same
      have left := Option.some.inj same
      cases entry <;> cases entry' <;> first | cases left | skip
      · exact .directory
      · exact .bytes _
      · exact .vault (Entry.vault.inj left)

theorem Alike.put (alike : tree.Alike hidden tree') {location : Location} (below : location ≠ [])
    {entry entry' : Entry}
    (same : entry.veiled (hidden location) = entry'.veiled (hidden location)) :
    (tree.put location entry).Alike hidden (tree'.put location entry') := by
  intro other
  rw [at?_put below, at?_put below]
  split
  · rename_i here
    rw [here]
    exact congrArg some same
  · exact alike other

theorem Alike.isDirectory (alike : tree.Alike hidden tree') (location : Location) :
    tree.isDirectory location = tree'.isDirectory location := by
  unfold Tree.isDirectory
  have same := alike.sameEntry location
  generalize tree.at? location = here, tree'.at? location = there at same ⊢
  cases same <;> rfl

theorem Alike.follow (alike : tree.Alike hidden tree') (location : Location)
    (pieces : List String) : tree.follow location pieces = tree'.follow location pieces := by
  induction pieces generalizing location with
  | nil => rfl
  | cons piece rest ih =>
    unfold Tree.follow
    have same := alike.sameEntry location
    generalize tree.at? location = here, tree'.at? location = there at same ⊢
    cases same with
    | directory => simp only [ih]
    | _ => rfl

theorem Alike.locate (alike : tree.Alike hidden tree') (directory : Location) (path : String) :
    tree.locate directory path = tree'.locate directory path := by
  unfold Tree.locate
  simp only [alike.follow]

theorem Alike.find (alike : tree.Alike hidden tree') (directory : Location) (path : String) :
    SameResult (fun a b => a.1 = b.1 ∧ SameEntry (hidden a.1) (some a.2) (some b.2))
      (tree.find directory path) (tree'.find directory path) := by
  unfold Tree.find
  rw [alike.locate]
  cases tree'.locate directory path with
  | error e => exact .error e
  | ok location =>
    have same := alike.sameEntry location
    simp only [bind, Except.bind]
    generalize tree.at? location = here, tree'.at? location = there at same ⊢
    cases here with
    | none =>
      cases same
      exact .error _
    | some entry =>
      cases there with
      | none => cases same
      | some entry' => exact .ok ⟨rfl, same⟩

theorem Alike.pathExists (alike : tree.Alike hidden tree') (directory : Location) (path : String) :
    tree.pathExists directory path = tree'.pathExists directory path := by
  unfold Tree.pathExists
  have found := alike.find directory path
  generalize tree.find directory path = here, tree'.find directory path = there at found ⊢
  cases found <;> rfl

theorem Alike.isDirectoryPath (alike : tree.Alike hidden tree') (directory : Location)
    (path : String) :
    tree.isDirectoryPath directory path = tree'.isDirectoryPath directory path := by
  unfold Tree.isDirectoryPath
  have found := alike.find directory path
  generalize tree.find directory path = here, tree'.find directory path = there at found ⊢
  cases found with
  | error e => rfl
  | ok together =>
    obtain ⟨-, same⟩ := together
    rename_i a b
    obtain ⟨location, entry⟩ := a
    obtain ⟨location', entry'⟩ := b
    cases same <;> rfl

/-- Nothing is read of a vault, so what is read is the same. -/
theorem Alike.read (alike : tree.Alike hidden tree') (directory : Location) (path : String) :
    tree.read directory path = tree'.read directory path := by
  unfold Tree.read
  have found := alike.find directory path
  generalize tree.find directory path = here, tree'.find directory path = there at found ⊢
  cases found with
  | error e => rfl
  | ok together =>
    obtain ⟨-, same⟩ := together
    rename_i a b
    obtain ⟨location, entry⟩ := a
    obtain ⟨location', entry'⟩ := b
    cases same <;> rfl

theorem Alike.makeDirectory (alike : tree.Alike hidden tree') (directory : Location)
    (path : String) :
    SameResult (Alike hidden) (tree.makeDirectory directory path)
      (tree'.makeDirectory directory path) := by
  unfold Tree.makeDirectory
  rw [alike.locate]
  cases tree'.locate directory path with
  | error e => exact .error e
  | ok location =>
    simp only [bind, Except.bind]
    have here := alike.sameEntry location
    cases free : tree.at? location with
    | some entry =>
      rw [free] at here
      generalize tree'.at? location = there at here ⊢
      cases here <;> exact .error _
    | none =>
      have below : location ≠ [] := Tree.ne_nil_of_at? (by rw [free]; nofun)
      rw [free] at here
      have above := alike.sameEntry location.dropLast
      have put : (tree.put location .directory).Alike hidden (tree'.put location .directory) :=
        alike.put below rfl
      generalize tree'.at? location = there at here ⊢
      generalize tree.at? location.dropLast = up, tree'.at? location.dropLast = up' at above ⊢
      cases here
      cases above with
      | directory => exact .ok put
      | _ => exact .error _

/-- A directory may be there already. -/
theorem Alike.already (alike : tree.Alike hidden tree') (directory : Location) (path : String)
    (e : Files.Error) :
    SameResult (Alike hidden)
      (if tree.isDirectoryPath directory path then .ok tree else .error e)
      (if tree'.isDirectoryPath directory path then .ok tree' else .error e) := by
  rw [alike.isDirectoryPath]
  split
  · exact .ok alike
  · exact .error e

theorem Alike.makeDirectoriesWithin (depth : Nat) (alike : tree.Alike hidden tree')
    (directory : Location) (path : String) :
    SameResult (Alike hidden) (tree.makeDirectoriesWithin depth directory path)
      (tree'.makeDirectoriesWithin depth directory path) := by
  induction depth generalizing tree tree' path with
  | zero =>
    unfold Tree.makeDirectoriesWithin
    have first := alike.makeDirectory directory path
    generalize tree.makeDirectory directory path = made, tree'.makeDirectory directory path = made'
      at first ⊢
    split
    · exact .ok alike
    · cases first with
      | ok left => exact .ok left
      | error e => cases e <;> exact alike.already directory path _
  | succ depth ih =>
    unfold Tree.makeDirectoriesWithin
    have first := alike.makeDirectory directory path
    generalize tree.makeDirectory directory path = made, tree'.makeDirectory directory path = made'
      at first ⊢
    split
    · exact .ok alike
    · cases first with
      | ok left => exact .ok left
      | error e =>
        cases e with
        | notFound =>
          cases Path.parent? path with
          | none => exact alike.already directory path _
          | some parent =>
            have above := ih alike parent
            dsimp only
            generalize tree.makeDirectoriesWithin depth directory parent = made,
              tree'.makeDirectoriesWithin depth directory parent = made' at above ⊢
            cases above with
            | error e => exact .error e
            | ok left =>
              rename_i up up'
              have last := left.makeDirectory directory path
              dsimp only
              generalize up.makeDirectory directory path = made,
                up'.makeDirectory directory path = made' at last ⊢
              cases last with
              | ok left => exact .ok left
              | error e => exact left.already directory path e
        | _ => exact alike.already directory path _

theorem Alike.makeDirectories (alike : tree.Alike hidden tree') (directory : Location)
    (path : String) :
    SameResult (Alike hidden) (tree.makeDirectories directory path)
      (tree'.makeDirectories directory path) :=
  alike.makeDirectoriesWithin _ directory path

end Files.Tree

/-- A configuration is not read from a vault. -/
theorem Files.Tree.Alike.load {tree tree' : Tree} (alike : tree.Alike hidden tree')
    (directory : Location) (path : String) :
    Config.load tree directory path = Config.load tree' directory path := by
  unfold Config.load
  rw [alike.pathExists, alike.read]

/-- The texts that are hidden in a vault in this place. -/
def Place.hides (hidden : Location → Spot → Bool) : Place → Spot → Bool
  | .file location => hidden location
  | .temporary => fun _ => true

/-- Vaults that are open in the same place and differ in nothing but hidden texts. -/
structure OpenVault.Alike (hidden : Location → Spot → Bool) (vault vault' : OpenVault) : Prop where
  place : vault.place = vault'.place
  database : vault.database.veiled (vault.place.hides hidden) =
    vault'.database.veiled (vault.place.hides hidden)

namespace Opening
variable {tree tree' : Tree}

theorem openFile_alike (alike : tree.Alike hidden tree') (location : Location) (path : String) :
    SameResult (OpenVault.Alike hidden) (openFile tree location path).1
        (openFile tree' location path).1 ∧
      (openFile tree location path).2.Alike hidden (openFile tree' location path).2 := by
  have new (below : location ≠ []) :
      SameResult (OpenVault.Alike hidden)
        (.ok ⟨.file location, .fresh⟩ : Except StoreError OpenVault)
        (.ok ⟨.file location, .fresh⟩) ∧
      (tree.put location (.vault .empty)).Alike hidden (tree'.put location (.vault .empty)) :=
    ⟨.ok ⟨rfl, rfl⟩, alike.put below rfl⟩
  unfold openFile
  have below (entry : Option Entry) (here : tree.at? location = entry)
      (noDirectory : entry ≠ some .directory) : location ≠ [] :=
    Tree.ne_nil_of_at? (here ▸ noDirectory)
  have same := alike.sameEntry location
  have free := alike.isDirectory location.dropLast
  generalize here : tree.at? location = entry, tree'.at? location = entry' at same ⊢
  cases same with
  | nothing =>
    rw [free]
    dsimp only
    split
    · exact new (below _ here nofun)
    · exact ⟨.error _, alike⟩
  | directory => exact ⟨.error _, alike⟩
  | bytes content =>
    cases content with
    | nil => exact new (below _ here nofun)
    | cons _ _ => exact ⟨.error _, alike⟩
  | vault left =>
    refine ⟨.ok ⟨rfl, ?_⟩, alike⟩
    simp only [Place.hides, Database.ofTables, Database.veiled, Catalog.create_ofTables, left,
      Option.map_none]

theorem openVault_alike (alike : tree.Alike hidden tree') (directory : Location) (path : String) :
    SameResult (OpenVault.Alike hidden) (openVault tree directory path).1
        (openVault tree' directory path).1 ∧
      (openVault tree directory path).2.Alike hidden (openVault tree' directory path).2 := by
  unfold openVault
  have made := alike.makeDirectories directory ((Path.parent? path).getD "")
  dsimp only
  generalize tree.makeDirectories directory _ = result, tree'.makeDirectories directory _ = result'
    at made ⊢
  cases made with
  | error e => exact ⟨.error _, alike⟩
  | ok left =>
    dsimp only
    split
    · exact ⟨.error _, left⟩
    · split
      · exact ⟨.ok ⟨rfl, rfl⟩, left⟩
      · exact openFile_alike left _ path

end Opening
end SecretVault
