import SecretVault.Config.Storage
import SecretVault.Proofs.Config.Reading
import SecretVault.Proofs.Files.Directories
import SecretVault.Proofs.Text.Utf8

/-!
A configuration that has been saved is loaded again as it was, whatever text is in it and wherever
it could be saved: its text is read back, and the file is found where it was written.
-/
namespace SecretVault.Config
open SecretVault.Files SecretVault.Text

/-- A file with the text of a configuration is loaded as that configuration. -/
theorem load_of_find {config : Config} {tree : Tree} {directory location : Location}
    {path : String}
    (found : tree.find directory path = .ok (location, .bytes (Utf8.encode config.render))) :
    load tree directory path = .ok config := by
  have there : tree.pathExists directory path = true := by
    unfold Tree.pathExists
    rw [found]
    rfl
  have bytes : tree.read directory path = .ok (Utf8.encode config.render) := by
    unfold Tree.read
    rw [found]
    rfl
  simp [load, there, bytes, parse?_render]

/-- A configuration that has been saved is loaded again as it was. -/
theorem load_of_save {config : Config} {tree tree' : Tree} {directory : Location} {path : String}
    (saved : config.save tree directory path = .ok tree') :
    load tree' directory path = .ok config := by
  have written : ∃ made : Tree,
      made.write directory path (.bytes (Utf8.encode config.render)) = .ok tree' := by
    unfold save at saved
    split at saved
    · rename_i parent _
      cases made : tree.makeDirectories directory parent with
      | error e =>
        rw [made] at saved
        cases saved
      | ok made' =>
        rw [made] at saved
        exact ⟨made', saved⟩
    · exact ⟨tree, saved⟩
  obtain ⟨made, written⟩ := written
  obtain ⟨location, found⟩ := Tree.find_of_write written
  exact load_of_find found

/-- A configuration with commands that are awkward to write. -/
def awkward : Config where
  database := some "~"
  hooks := {
    postWrite := ["", "null", "true", "0x1F", " spaced ", "- item: #1", "it's \"so\""]
    postRead := ["\n  first\n\n", "\u0085\u2028\x07\t", "😀: 'a'\n b \n"] }

theorem load_awkward :
    let tree : Tree := ⟨[(["home"], .directory)]⟩
    ∃ tree' : Tree, awkward.save tree ["home"] "vlt/config.yaml" = .ok tree' ∧
      load tree' ["home"] "vlt/config.yaml" = .ok awkward := by
  intro tree
  have saved : awkward.save tree ["home"] "vlt/config.yaml" = .ok
      ⟨[(["home", "vlt", "config.yaml"], .bytes (Utf8.encode awkward.render)),
        (["home", "vlt"], .directory), (["home"], .directory)]⟩ := rfl
  exact ⟨_, saved, load_of_save saved⟩

end SecretVault.Config
