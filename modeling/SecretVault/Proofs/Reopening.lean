import SecretVault.Proofs.Files.Directories
import SecretVault.Proofs.Sessions
import SecretVault.Proofs.Starting

/-!
Opening a vault again. A session leaves all files as they were when its vault was opened, except
that the vault has in it what has been stored since. So the same path opens the same vault again.
-/
namespace SecretVault
open SecretVault.Engine SecretVault.Files

/-- Of the files that there were, this is what is left of them with these tables in a vault in this
place. -/
def Place.Leaves (place : Place) (tree : Tree) (t : Tables) (tree' : Tree) : Prop :=
  match place with
  | .file location =>
    location ≠ [] ∧ ∀ other, tree'.at? other =
      if other = location then some (.vault t) else tree.at? other
  | .temporary => ∀ other, tree'.at? other = tree.at? other

/-- Storing other tables there leaves them instead. -/
theorem Place.Leaves.store {place : Place} {tree tree' : Tree} {t : Tables}
    (leaves : place.Leaves tree t tree') (d : Database) :
    place.Leaves tree d.committed (OpenVault.store ⟨place, d⟩ tree') := by
  cases place with
  | temporary => exact leaves
  | file location =>
    obtain ⟨below, others⟩ := leaves
    refine ⟨below, fun other => (Tree.at?_put below tree' _ other).trans ?_⟩
    by_cases here : other = location
    · rw [if_pos here, if_pos here]
    · rw [if_neg here, if_neg here, others, if_neg here]

theorem Place.Leaves.congr {place : Place} {tree tree' tree'' : Tree} {t : Tables}
    (leaves : place.Leaves tree t tree') (same : tree''.at? = tree'.at?) :
    place.Leaves tree t tree'' := by
  cases place with
  | temporary => exact fun other => (congrFun same other).trans (leaves other)
  | file location => exact ⟨leaves.1, fun other => (congrFun same other).trans (leaves.2 other)⟩

/-- What a vault in this place has in it after these tables have been left there. -/
def Place.kept (place : Place) (t : Tables) : Tables :=
  match place with
  | .file _ => t
  | .temporary => Tables.empty

theorem Place.Leaves.tables {place : Place} {tree tree' : Tree} {t : Tables}
    (leaves : place.Leaves tree t tree') : place.tables tree' = place.kept t := by
  cases place with
  | temporary => rfl
  | file location =>
    obtain ⟨-, others⟩ := leaves
    simp [Place.tables, Place.kept, Tree.tablesAt, others, Entry.tables]

namespace Opening
variable {tree opened later : Tree} {directory location : Location} {path : String}
  {vault : OpenVault} {t : Tables}

/-- Opening a file puts a vault where no directory is, and leaves the rest. -/
theorem leaves_openFile (opening : openFile tree location path = (.ok vault, opened)) :
    tree.at? location ≠ some .directory ∧
      (Place.file location).Leaves tree vault.database.committed opened := by
  have put (free : tree.at? location ≠ some .directory) :
      (Place.file location).Leaves tree Tables.empty (tree.put location (.vault .empty)) :=
    ⟨Tree.ne_nil_of_at? free, Tree.at?_put (Tree.ne_nil_of_at? free) tree _⟩
  unfold openFile at opening
  split at opening
  · cases opening
  · rename_i stored found
    cases opening
    have free : tree.at? location ≠ some .directory := by rw [found]; nofun
    refine ⟨free, Tree.ne_nil_of_at? free, fun other => ?_⟩
    split
    · rename_i here
      rw [here]
      exact found
    · rfl
  · cases opening
  · rename_i found
    cases opening
    have free : tree.at? location ≠ some .directory := by rw [found]; nofun
    exact ⟨free, put free⟩
  · rename_i found
    have free : tree.at? location ≠ some .directory := by rw [found]; nofun
    split at opening
    · cases opening
      exact ⟨free, put free⟩
    · cases opening

theorem leaves_openVault (opening : openVault tree directory path = (.ok vault, opened)) :
    vault.place.Leaves opened vault.database.committed opened := by
  obtain ⟨made, -, -, ⟨-, rfl, -⟩ | ⟨-, openedFile⟩⟩ := openVault_eq_ok opening
  · exact fun _ => rfl
  · obtain ⟨-, below, others⟩ := leaves_openFile openedFile
    rw [place_openFile openedFile]
    refine ⟨below, fun other => ?_⟩
    split
    · rename_i here
      rw [others, if_pos here]
    · rfl

/-- A vault that has been opened is opened again with the tables that are left in it. -/
theorem openVault_again (opening : openVault tree directory path = (.ok vault, opened))
    (leaves : vault.place.Leaves opened t later) :
    openVault later directory path =
      (.ok ⟨vault.place, .ofTables (vault.place.tables later)⟩, later) := by
  obtain ⟨made, making, noNul, ⟨own, rfl, rfl⟩ | ⟨shared, openedFile⟩⟩ := openVault_eq_ok opening
  · have stay : opened.DirectoriesStay later := fun other here => (leaves other).trans here
    unfold openVault
    simp only [Tree.makeDirectories_again making stay, noNul, own, if_true]
    rfl
  · obtain ⟨free, -, others⟩ := leaves_openFile openedFile
    rw [place_openFile openedFile] at leaves ⊢
    obtain ⟨-, left⟩ := leaves
    have stay : made.DirectoriesStay later := by
      intro other here
      have apart : other ≠ vaultLocation directory path := by
        rintro rfl
        exact free here
      rw [left, if_neg apart, others, if_neg apart]
      exact here
    have found : later.at? (vaultLocation directory path) = some (.vault t) := by
      rw [left, if_pos rfl]
    have openedAgain : openFile later (vaultLocation directory path) path =
        (.ok ⟨.file (vaultLocation directory path), .ofTables t⟩, later) := by
      rw [openFile, found]
      rfl
    have kept : (Place.file (vaultLocation directory path)).tables later = t := by
      rw [Place.tables, Tree.tablesAt, found]
      rfl
    rw [kept]
    unfold openVault
    simp only [Tree.makeDirectories_again making stay, noNul, shared, Bool.false_eq_true, if_false]
    exact openedAgain

end Opening

namespace Session

/-- Every hook that the script runs leaves all files as they are. -/
def HooksLeaveFiles {α : Type} : Script α → Session → Prop
  | .done _, _ | .fail _, _ => True
  | .ask request next, s =>
    (∀ hook, request = .runHook hook → (s.runHook hook).2.tree.at? = s.tree.at?) ∧
      HooksLeaveFiles (next (s.reply request).1) (s.reply request).2

theorem config_reply (s : Session) (request : Request) : (s.reply request).2.config = s.config := by
  cases request <;> rfl

/-- With no hooks there is none to change a file. -/
theorem hooksLeaveFiles_of_none {α : Type} (script : Script α) {s : Session}
    (none : ∀ hook, s.config.hooks.argv hook = []) : HooksLeaveFiles script s := by
  induction script generalizing s with
  | done a => trivial
  | fail failure => trivial
  | ask request next ih =>
    constructor
    · intro hook _
      rw [runHook_of_nil (none hook)]
    · apply ih
      intro hook
      rw [config_reply]
      exact none hook

/-- Whatever is requested, the vault stays in its place, and nothing else changes. -/
theorem leaves_reply {s : Session} {tree : Tree} (request : Request)
    (leaves : s.place.Leaves tree s.connection.database.committed s.tree)
    (quiet : ∀ hook, request = .runHook hook → (s.runHook hook).2.tree.at? = s.tree.at?) :
    (s.reply request).2.place = s.place ∧
      s.place.Leaves tree (s.reply request).2.connection.database.committed
        (s.reply request).2.tree := by
  cases request with
  | store _ | begin | commit | abandon => exact ⟨rfl, leaves.store _⟩
  | print _ | flush | readInput | prompt _ => exact ⟨rfl, leaves⟩
  | runHook hook => exact ⟨rfl, leaves.congr (quiet hook rfl)⟩

theorem leaves_carryOut {α : Type} (script : Script α) {s : Session} {tree : Tree}
    (leaves : s.place.Leaves tree s.connection.database.committed s.tree)
    (quiet : HooksLeaveFiles script s) :
    let ended := (carryOut script s).2
    ended.place = s.place ∧
      s.place.Leaves tree ended.connection.database.committed ended.tree := by
  induction script generalizing s with
  | done a => exact ⟨rfl, leaves⟩
  | fail failure => exact ⟨rfl, leaves⟩
  | ask request next ih =>
    obtain ⟨quietNow, quietLater⟩ := quiet
    obtain ⟨place, left⟩ := leaves_reply request leaves quietNow
    rw [← place] at left
    obtain ⟨placeLater, leftLater⟩ := ih _ left quietLater
    rw [place] at placeLater leftLater
    exact ⟨placeLater, leftLater⟩

end Session

namespace Setting

/-- A command line that has succeeded, and one that comes later: in the same directory and the same
environment, with the same options for the vault and for the configuration, which is still the same.
No hook and nothing else has touched a file in between. -/
structure Consecutive (s later : Setting) (first second : Arguments.Invocation) : Prop where
  succeeds : (s.execute first).exitCode = 0
  quiet : ∀ session, s.start first = .ok session → session.HooksLeaveFiles first.command.script
  tree : later.tree.at? = (s.execute first).tree.at?
  directory : later.directory = s.directory
  environment : later.environment = s.environment
  database : second.database = first.database
  config : later.loadConfig second.config = s.loadConfig first.config

variable {s later : Setting} {first second : Arguments.Invocation}

/-- The later command line opens the vault in the same place, and finds what the earlier one has
left there, if it is kept at all. -/
theorem Consecutive.reopens (consecutive : s.Consecutive later first second) :
    ∃ session ended reopened, s.start first = .ok session ∧
      Session.carryOut first.command.script session = (.ok (), ended) ∧
      later.start second = .ok reopened ∧ reopened.place = session.place ∧
      reopened.connection.database =
        .ofTables (session.place.kept ended.connection.database.committed) := by
  obtain ⟨succeeds, quiet, tree, directory, environment, database, config⟩ := consecutive
  cases started : s.start first with
  | error refusal =>
    rw [execute, executeAmid_refused started] at succeeds
    exact absurd succeeds refusal.1.exitCode_ne_zero
  | ok session =>
    obtain ⟨exits, left, -⟩ := execute_started started
    obtain ⟨loaded, vault, opened, loads, opening, rfl⟩ := start_eq_ok started
    generalize ran : Session.carryOut first.command.script _ = outcome at exits left
    obtain ⟨result, ended⟩ := outcome
    obtain rfl := exits.1 succeeds
    obtain ⟨place, leaves⟩ := Session.leaves_carryOut first.command.script
      (Opening.leaves_openVault opening) (quiet _ started)
    rw [ran] at place leaves
    have left : later.tree.at? = ended.tree.at? := tree.trans (congrArg _ left)
    have again := Opening.openVault_again opening (leaves.congr left)
    have samePath : s.vaultPath first loaded = later.vaultPath second loaded := by
      rw [vaultPath, vaultPath, database, environment]
    rw [samePath, ← directory] at again
    refine ⟨_, ended, _, rfl, ran, start_of_opened (config.trans loads) again, rfl, ?_⟩
    rw [(leaves.congr left).tables]
    rfl

end Setting
end SecretVault
