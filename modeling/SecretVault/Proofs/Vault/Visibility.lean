import SecretVault.Proofs.Vault.Refinement

/-!
Which secrets searches show. Every database that comes about by use represents a vault. A search
without patterns and a search by id show an entry of it only if the entry has a label.
-/
namespace SecretVault
open SecretVault.Engine SecretVault.Glob

namespace Vault

/-- What a search shows of an id that it selects. -/
def visible (v : Vault) (id : Int) : Option LabeledSecret :=
  (v.entries.get? id).bind fun e => if e.labels = [] then none else some ⟨e.name, e.labels⟩

theorem get?_listed_of_selected (v : Vault) {selects : Int → Bool} {id : Int}
    (selected : selects id = true) : (v.listed selects).get? id = v.visible id := by
  rw [listed, IdMap.get?_filterMap, visible]
  refine Option.bind_congr fun e _ => ?_
  by_cases unlabelled : e.labels = [] <;> simp [selected, unlabelled]

theorem visible_isSome_iff (v : Vault) (id : Int) :
    (v.visible id).isSome = true ↔ ∃ e, v.entries.get? id = some e ∧ e.labels ≠ [] := by
  rw [visible]
  cases v.entries.get? id with
  | none => simp
  | some e => by_cases unlabelled : e.labels = [] <;> simp [unlabelled]

end Vault

namespace Operation
variable {v : Vault} {c : Connection} {schedule : Schedule} {token : Token}

theorem run_readPayload (represented : Represents c.database.current v)
    (live : schedule token = none) (id : Int) :
    ((readPayload id).run schedule token c).1 =
      ((v.entries.get? id).map Vault.Entry.payload).elim (.error (.notFound .secret)) .ok := by
  rw [(run_of_live (endsLive_of_never live _ c)).1, perform_readPayload represented]

theorem run_searchIds_single (represented : Represents c.database.current v)
    (live : schedule token = none) (id : Int) :
    ((searchIds [id]).run schedule token c).1 = .ok (v.listed [id].contains) := by
  obtain ⟨performs, fitting⟩ := follows represented (searchIds [id])
  have fits : (searchIds [id]).Fits c.database.current := by
    rw [Fits, List.length_singleton]
    decide
  obtain ⟨v', ⟨answer, -⟩, -⟩ := performs (fitting fits)
  rw [(run_of_live (endsLive_of_never live _ c)).1]
  exact answer

theorem run_searchColumn_all (represented : Represents c.database.current v)
    (live : schedule token = none) (column : Column) :
    ((searchColumn column []).run schedule token c).1 = .ok (v.listed fun _ => true) := by
  have comparable : c.database.current.Comparable [] column := by
    cases column with
    | label | secretName => exact nofun
    | secretId | labelSecretId => trivial
  obtain ⟨answered, fitting⟩ := answers_searchColumn represented.readable comparable
  have fits : (searchColumn column []).Fits c.database.current := ⟨by decide, nofun⟩
  rw [(run_of_live (endsLive_of_never live _ c)).1, answered (fitting fits),
    ← represented.listing_listed]
  rfl

end Operation

/-- In every reachable state a secret whose payload can be read is shown by a search without
patterns, and by a search by its id, exactly if it has a label. What is shown is its name with all
its labels. -/
theorem visible_iff_labelled {c : Connection} (reachable : c.database.Reachable)
    {schedule : Schedule} {token : Token} (live : schedule token = none) :
    ∃ v, Represents c.database.current v ∧ ∀ (id : Int) (column : Column),
      let read := ((Operation.readPayload id).run schedule token c).1
      ∃ byColumn byId,
        ((Operation.searchColumn column []).run schedule token c).1 = .ok byColumn ∧
        ((Operation.searchIds [id]).run schedule token c).1 = .ok byId ∧
        ((∃ payload, read = .ok payload) ↔ v.entries.contains id = true) ∧
        byColumn.get? id = v.visible id ∧ byId.get? id = v.visible id ∧
        (((∃ payload, read = .ok payload) ↔ byColumn.contains id = true) ↔
          ∀ e, v.entries.get? id = some e → e.labels ≠ []) := by
  obtain ⟨v, represented⟩ := reachable.isVault.current
  refine ⟨v, represented, fun id column => ?_⟩
  have column? : (v.listed fun _ => true).get? id = v.visible id :=
    v.get?_listed_of_selected rfl
  have single : (v.listed [id].contains).get? id = v.visible id :=
    v.get?_listed_of_selected (by simp)
  have reads : (∃ payload, ((Operation.readPayload id).run schedule token c).1 = .ok payload) ↔
      v.entries.contains id = true := by
    rw [Operation.run_readPayload represented live, IdMap.contains]
    cases v.entries.get? id <;> simp
  refine ⟨_, _, Operation.run_searchColumn_all represented live column,
    Operation.run_searchIds_single represented live id, reads, column?, single, ?_⟩
  rw [reads, IdMap.contains, IdMap.contains, column?, Vault.visible_isSome_iff]
  cases v.entries.get? id with
  | none => simp
  | some e => simp

/-- A secret with a label is read and shown. -/
theorem visible_iff_labelled_mail :
    let created := ((Operation.insertSecret "mail" "p").run (fun _ => none) 0 (.opened .fresh)).2
    let c := ((Operation.insertLabel "work" 1).run (fun _ => none) 0 created).2
    c.database.Reachable ∧
      ∃ v, Represents c.database.current v ∧ v.visible 1 = some ⟨"mail", ["work"]⟩ := by
  intro created c
  have reachable : c.database.Reachable := .operate _ _ _ (.operate _ _ _ .fresh)
  obtain ⟨v, represented, shows⟩ := @visible_iff_labelled c reachable (fun _ => none) 0 rfl
  obtain ⟨byColumn, byId, column, -, -, visible, -⟩ := shows 1 .label
  have found : ((Operation.searchColumn .label []).run (fun _ => none) 0 c).1 =
      .ok (IdMap.empty.insert 1 ⟨"mail", ["work"]⟩) := by
    decide +kernel
  cases Except.ok.inj (column.symm.trans found)
  exact ⟨reachable, v, represented, visible.symm⟩

/-- A secret without labels can be read, but no search shows it. -/
theorem unlabelled_readable_hidden :
    ¬ ∀ c : Connection, c.database.Reachable → ∀ (id : Int) (column : Column) byColumn byId,
      ((Operation.searchColumn column []).run (fun _ => none) 0 c).1 = .ok byColumn →
      ((Operation.searchIds [id]).run (fun _ => none) 0 c).1 = .ok byId →
      ((∃ payload, ((Operation.readPayload id).run (fun _ => none) 0 c).1 = .ok payload) ↔
        byColumn.contains id = true) ∧
      (byColumn.contains id = true ↔ byId.contains id = true) := by
  intro shown
  let c := ((Operation.insertSecret "n" "p").run (fun _ => none) 0 (.opened .fresh)).2
  have reachable : c.database.Reachable := .operate _ _ _ .fresh
  have column : ((Operation.searchColumn .label []).run (fun _ => none) 0 c).1 =
      .ok IdMap.empty := by
    decide +kernel
  have single : ((Operation.searchIds [1]).run (fun _ => none) 0 c).1 = .ok IdMap.empty := by
    decide +kernel
  have read : ((Operation.readPayload 1).run (fun _ => none) 0 c).1 = .ok "p" := by
    decide +kernel
  have contained := (shown c reachable 1 .label _ _ column single).1.1 ⟨"p", read⟩
  cases contained

end SecretVault
