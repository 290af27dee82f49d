import SecretVault.Labeled
import SecretVault.Proofs.IdMap

/-!
What gathering rows yields. The entry of an id depends on the rows with that id alone: the name of
the first of them, and all their labels in order.
-/
namespace SecretVault.LabeledSecrets

/-- The secret that the rows with one id make up. -/
def ofRows : List LabelRow → Option LabeledSecret
  | [] => none
  | first :: rest => some ⟨first.name, first.label :: rest.map (·.label)⟩

theorem mem_labels_ofRows {rows : List LabelRow} {name : String} :
    (∃ secret, ofRows rows = some secret ∧ name ∈ secret.labels) ↔
      ∃ row ∈ rows, row.label = name := by
  cases rows with
  | nil => simp [ofRows]
  | cons first rest => simp [ofRows, eq_comm]

theorem isSome_ofRows {rows : List LabelRow} :
    (ofRows rows).isSome = true ↔ ∃ row, row ∈ rows := by
  cases rows with
  | nil => simp [ofRows]
  | cons first rest => exact iff_of_true rfl ⟨first, List.mem_cons_self⟩

/-- The labels of some rows after those of a secret that is there already. -/
def extend (rows : List LabelRow) (secret : LabeledSecret) : LabeledSecret :=
  { secret with labels := secret.labels ++ rows.map (·.label) }

theorem get?_add (secrets : LabeledSecrets) (row : LabelRow) (id : Int) :
    (secrets.add row).get? id =
      if id = row.id then
        some (((secrets.get? id).map (extend [row])).getD ⟨row.name, [row.label]⟩)
      else secrets.get? id := by
  unfold add
  cases found : secrets.get? row.id with
  | none =>
    rw [IdMap.get?_insert]
    split
    · rename_i equal
      simp [equal, found]
    · rfl
  | some secret =>
    rw [IdMap.get?_insert]
    split
    · rename_i equal
      simp [equal, found, extend]
    · rfl

theorem get?_foldl_add (rows : List LabelRow) (secrets : LabeledSecrets) (id : Int) :
    (rows.foldl add secrets).get? id =
      match secrets.get? id with
      | some secret => some (extend (rows.filter (·.id == id)) secret)
      | none => ofRows (rows.filter (·.id == id)) := by
  induction rows generalizing secrets with
  | nil => cases found : secrets.get? id <;> simp [found, extend, ofRows]
  | cons row rest ih =>
    rw [List.foldl_cons, ih, get?_add]
    by_cases equal : id = row.id
    · subst equal
      cases found : secrets.get? row.id <;> simp [extend, ofRows]
    · have different : (row.id == id) = false := beq_eq_false_iff_ne.2 (Ne.symm equal)
      simp [equal, different]

theorem get?_gather (rows : List LabelRow) (id : Int) :
    (gather rows).get? id = ofRows (rows.filter (·.id == id)) := by
  rw [gather, get?_foldl_add]
  rfl

/-- The ids that are gathered are those of the rows. -/
theorem mem_keys_gather {rows : List LabelRow} {id : Int} :
    id ∈ (gather rows).keys ↔ ∃ row ∈ rows, row.id = id := by
  rw [← IdMap.contains_iff_mem_keys, IdMap.contains, get?_gather, isSome_ofRows]
  simp [List.mem_filter]

end SecretVault.LabeledSecrets

namespace SecretVault.IdMap
variable {α : Type}

/-- Of rows that are made entry by entry, those with one id come from the entry of this id. -/
theorem filter_flatMap_entries (m : IdMap α) (rows : Int → α → List LabelRow)
    (own : ∀ id value, ∀ row ∈ rows id value, row.id = id) (id : Int) :
    (m.entries.flatMap fun entry => rows entry.1 entry.2).filter (·.id == id) =
      ((m.get? id).map (rows id)).getD [] := by
  have whole (value : α) : (rows id value).filter (·.id == id) = rows id value := by
    rw [List.filter_eq_self]
    intro row member
    simp [own id value row member]
  have nothing {key : Int} (value : α) (different : key ≠ id) :
      (rows key value).filter (·.id == id) = [] := by
    rw [List.filter_eq_nil_iff]
    intro row member
    simp [own key value row member, different]
  obtain ⟨entries, ascending⟩ := m
  simp only [get?]
  induction entries with
  | nil => rfl
  | cons first rest ih =>
    obtain ⟨below, sorted⟩ := List.pairwise_cons.1 ascending
    rcases first with ⟨key, value⟩
    rw [List.flatMap_cons, List.filter_append, ih sorted, List.lookup_cons]
    by_cases equal : key = id
    · subst equal
      have absent : rest.lookup key = none := by
        rw [List.lookup_eq_none_iff]
        intro entry member
        have := below entry member
        simp only [ne_eq, bne_iff_ne]
        omega
      simp [absent, whole]
    · have different : (id == key) = false := beq_eq_false_iff_ne.2 (Ne.symm equal)
      simp [different, nothing value equal]

end SecretVault.IdMap
