import SecretVault.Engine.Statement
import SecretVault.Proofs.Gathering
import SecretVault.Proofs.Search.Visiting

/-!
What a search answers, said without a search: every secret that owns a label selected by the
conditions, under its name, with the names of its selected labels in the order of their ids.
-/
namespace SecretVault.Engine
open SecretVault.Glob

/-- A cell that holds text. -/
def Cell.IsText (cell : Cell) : Prop := ∃ s, cell = .text s

instance : DecidablePred Cell.IsText
  | .text s => isTrue ⟨s, rfl⟩
  | .malformed _ | .blob _ => isFalse nofun

/-- The text of a cell that holds text. -/
def Cell.shown : Cell → String
  | .text s => s
  | .malformed _ | .blob _ => ""

theorem Cell.IsText.eq_text_shown {cell : Cell} (h : cell.IsText) : cell = .text cell.shown := by
  obtain ⟨s, rfl⟩ := h
  rfl

theorem Cell.IsText.read_eq {cell : Cell} (h : cell.IsText) (index : Nat) (column : String) :
    cell.read index column = .ok cell.shown := by
  obtain ⟨s, rfl⟩ := h
  rfl

/-- A join row as an answer shows it. -/
def JoinedRow.shown (row : JoinedRow) : LabelRow :=
  ⟨row.secretId, row.secret.name.shown, row.label.name.shown⟩

namespace Tables

/-- Tables whose names are all text. -/
structure Readable (t : Tables) : Prop where
  secretNames : ∀ entry ∈ t.secrets.entries, entry.2.name.IsText
  labelNames : ∀ entry ∈ t.labels.entries, entry.2.name.IsText

instance (t : Tables) : Decidable t.Readable :=
  decidable_of_iff ((∀ entry ∈ t.secrets.entries, entry.2.name.IsText) ∧
    ∀ entry ∈ t.labels.entries, entry.2.name.IsText)
    ⟨fun h => ⟨h.1, h.2⟩, fun h => ⟨h.1, h.2⟩⟩

/-- The names of the selected labels of a secret, in the order of the label ids. -/
def selectedLabels (t : Tables) (selects : JoinedRow → Bool) (id : Int) (secret : StoredSecret) :
    List String :=
  (t.labels.entries.filter fun entry =>
    entry.2.secretId == id && selects ⟨id, secret, entry.1, entry.2⟩).map (·.2.name.shown)

/-- The secrets that own a selected label, each with all its selected labels. -/
def listing (t : Tables) (selects : JoinedRow → Bool) : LabeledSecrets :=
  t.secrets.filterMap fun id secret =>
    match t.selectedLabels selects id secret with
    | [] => none
    | labels => some ⟨secret.name.shown, labels⟩

theorem get?_listing (t : Tables) (selects : JoinedRow → Bool) (id : Int) :
    (t.listing selects).get? id = (t.secrets.get? id).bind fun secret =>
      match t.selectedLabels selects id secret with
      | [] => none
      | labels => some ⟨secret.name.shown, labels⟩ :=
  IdMap.get?_filterMap _ _ _

/-- A listing depends only on what is selected among the rows of the join. -/
theorem listing_congr {t : Tables} {selects selects' : JoinedRow → Bool}
    (same : ∀ id secret, t.secrets.get? id = some secret →
      ∀ row ∈ joinedRows t id secret, selects row = selects' row) :
    t.listing selects = t.listing selects' := by
  refine IdMap.ext_get? fun id => ?_
  rw [get?_listing, get?_listing]
  refine Option.bind_congr fun secret found => ?_
  have labels : t.selectedLabels selects id secret = t.selectedLabels selects' id secret := by
    refine congrArg _ (List.filter_congr fun entry member => ?_)
    cases own : entry.2.secretId == id with
    | false => rfl
    | true =>
      refine same id secret found _ (List.mem_map.2 ⟨entry, ?_, rfl⟩)
      exact List.mem_filter.2 ⟨member, own⟩
  rw [labels]

end Tables

theorem map_label_selected (t : Tables) (selects : JoinedRow → Bool) (id : Int)
    (secret : StoredSecret) :
    ((joinedRows t id secret).filter selects).map (·.shown.label) =
      t.selectedLabels selects id secret := by
  simp only [joinedRows, List.filter_map, List.map_map, List.filter_filter,
    Tables.selectedLabels, Function.comp_def, JoinedRow.shown, Bool.and_comm]

/-- Gathering the selected rows of the join, secret by secret, gives the listing. -/
theorem gather_selected (t : Tables) (selects : JoinedRow → Bool) :
    LabeledSecrets.gather ((t.secrets.entries.flatMap fun entry =>
      (joinedRows t entry.1 entry.2).filter selects).map JoinedRow.shown) = t.listing selects := by
  have own (id : Int) (secret : StoredSecret) :
      ∀ row ∈ ((joinedRows t id secret).filter selects).map JoinedRow.shown, row.id = id := by
    intro row member
    obtain ⟨joined, held, rfl⟩ := List.mem_map.1 member
    exact (mem_joinedRows (List.mem_filter.1 held).1).1
  refine IdMap.ext_get? fun id => ?_
  rw [LabeledSecrets.get?_gather, List.map_flatMap, IdMap.filter_flatMap_entries _ _ own,
    Tables.get?_listing]
  cases found : t.secrets.get? id with
  | none => rfl
  | some secret =>
    simp only [Option.map_some, Option.getD_some, Option.bind_some,
      ← map_label_selected t selects id secret]
    cases rows : (joinedRows t id secret).filter selects with
    | nil => rfl
    | cons first rest =>
      have held : first ∈ joinedRows t id secret :=
        (List.mem_filter.1 (rows ▸ List.mem_cons_self)).1
      obtain ⟨-, sameSecret, -, -⟩ := mem_joinedRows held
      simp [LabeledSecrets.ofRows, JoinedRow.shown, sameSecret]

end SecretVault.Engine
