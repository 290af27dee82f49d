import SecretVault.Proofs.Gathering
import Mathlib.Algebra.BigOperators.Group.List.Lemmas
import Mathlib.Algebra.GroupWithZero.Nat

/-!
What gathering keeps of the rows: all of them, under their ids and in their order. So the entry of
an id is made of the rows with this id, and rows that come later only add to it.
-/
namespace SecretVault

/-- The secret with the labels of another after its own. -/
def LabeledSecret.followedBy (secret later : LabeledSecret) : LabeledSecret :=
  { secret with labels := secret.labels ++ later.labels }

namespace LabeledSecrets

/-- The rows with an id make up a secret under the first name, with all their labels in turn. -/
theorem ofRows_eq_some {rows : List LabelRow} {secret : LabeledSecret}
    (made : ofRows rows = some secret) :
    rows.head?.map (·.name) = some secret.name ∧ secret.labels = rows.map (·.label) ∧
      secret.labels ≠ [] := by
  cases rows with
  | nil => cases made
  | cons first rest =>
    cases made
    exact ⟨rfl, rfl, List.cons_ne_nil _ _⟩

theorem ofRows_append (rows later : List LabelRow) :
    ofRows (rows ++ later) = (ofRows rows).merge LabeledSecret.followedBy (ofRows later) := by
  cases rows with
  | nil => cases later <;> rfl
  | cons first rest =>
    cases later with
    | nil => simp [ofRows]
    | cons next others => simp [ofRows, LabeledSecret.followedBy]

/-- Under its id a secret has as many labels as there are rows with this id. -/
theorem length_labels_of_mem {rows : List LabelRow} {entry : Int × LabeledSecret}
    (member : entry ∈ (gather rows).entries) :
    entry.2.labels.length = (rows.map (·.id)).count entry.1 := by
  have found : (gather rows).get? entry.1 = some entry.2 := IdMap.get?_eq_some_iff.2 member
  rw [get?_gather] at found
  rw [(ofRows_eq_some found).2.1, List.length_map, ← List.countP_eq_length_filter, List.count,
    List.countP_map]
  rfl

/-- There is one label for every row. -/
theorem sum_length_labels (rows : List LabelRow) :
    ((gather rows).values.map (·.labels.length)).sum = rows.length := by
  have keys : (gather rows).keys.Perm (rows.map (·.id)).dedup := by
    refine (List.perm_ext_iff_of_nodup (IdMap.nodup_keys _) (List.nodup_dedup _)).2 fun id => ?_
    rw [mem_keys_gather, List.mem_dedup, List.mem_map]
  calc ((gather rows).values.map (·.labels.length)).sum
      = ((gather rows).keys.map ((rows.map (·.id)).count ·)).sum := by
        rw [IdMap.values, IdMap.keys, List.map_map, List.map_map]
        exact congrArg List.sum (List.map_congr_left fun _ => length_labels_of_mem)
    _ = ((rows.map (·.id)).dedup.map ((rows.map (·.id)).count ·)).sum := (keys.map _).sum_eq
    _ = rows.length := by rw [List.sum_map_count_dedup_eq_length, List.length_map]

/-- Gathering loses no row, makes none up and reorders none. The ids are those of the rows. Each has
the name of its first row and the labels of all its rows in turn, at least one, repeated labels as
often as they come; so there are as many labels as rows. Rows that come later add their labels after
the others and change no name. Nothing depends on how the rows of different ids are mixed. -/
theorem gathering_keeps_rows (rows : List LabelRow) :
    (∀ id, id ∈ (gather rows).keys ↔ ∃ row ∈ rows, row.id = id) ∧
    (∀ id secret, (gather rows).get? id = some secret →
      (rows.find? (·.id == id)).map (·.name) = some secret.name ∧
        secret.labels = (rows.filter (·.id == id)).map (·.label) ∧ secret.labels ≠ []) ∧
    ((gather rows).values.map (·.labels.length)).sum = rows.length ∧
    (∀ later id, (gather (rows ++ later)).get? id =
      ((gather rows).get? id).merge LabeledSecret.followedBy ((gather later).get? id)) ∧
    ∀ others, (∀ id, others.filter (·.id == id) = rows.filter (·.id == id)) →
      gather others = gather rows := by
  refine ⟨fun id => mem_keys_gather, fun id secret found => ?_, sum_length_labels rows,
    fun later id => ?_, fun others same => ?_⟩
  · rw [get?_gather] at found
    rw [← List.head?_filter]
    exact ofRows_eq_some found
  · rw [get?_gather, List.filter_append, ofRows_append, get?_gather, get?_gather]
  · refine IdMap.ext_get? fun id => ?_
    rw [get?_gather, get?_gather, same]

/-- Rows of two ids in turn, with a label that is repeated and names that differ. -/
theorem gathering_keeps_rows_mixed :
    let rows : List LabelRow := [⟨2, "b", "z"⟩, ⟨-1, "a", "y"⟩, ⟨2, "c", "z"⟩]
    let others : List LabelRow := [⟨-1, "a", "y"⟩, ⟨2, "b", "z"⟩, ⟨2, "c", "z"⟩]
    (gather rows).get? 2 = some ⟨"b", ["z", "z"]⟩ ∧
      (rows.find? (·.id == 2)).map (·.name) = some "b" ∧
      (∀ id, others.filter (·.id == id) = rows.filter (·.id == id)) ∧
      gather others = gather rows := by
  intro rows others
  have found : (gather rows).get? 2 = some ⟨"b", ["z", "z"]⟩ := by decide
  have same (id : Int) : others.filter (·.id == id) = rows.filter (·.id == id) := by
    by_cases first : (-1 : Int) = id
    · subst first
      rfl
    · have apart : ((-1 : Int) == id) = false := beq_eq_false_iff_ne.2 first
      simp [rows, others, List.filter_cons, apart]
  obtain ⟨-, kept, -, -, unmixed⟩ := gathering_keeps_rows rows
  exact ⟨found, (kept 2 _ found).1, same, unmixed others same⟩

end LabeledSecrets
end SecretVault
