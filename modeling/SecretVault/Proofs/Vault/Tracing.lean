import SecretVault.Proofs.Failing
import SecretVault.Proofs.Issuing
import SecretVault.Proofs.Vault.Refinement

/-!
What becomes of one entry. An operation may change the entry under a given id in a few ways, or it
leaves that entry alone, whatever it does to all others. It also leaves it alone if it fails, and a
new secret is never created under an id that has been counted.
-/
namespace SecretVault
open SecretVault.Engine

namespace Vault.Entry

/-- What an operation may make of the entry under an id where secrets are counted so far. -/
inductive Becomes (id counted : Int) : Operation → Option Entry → Option Entry → Prop where
  | kept (op : Operation) (held : Option Entry) : Becomes id counted op held held
  | created (name payload : String) (above : counted < id) :
      Becomes id counted (.insertSecret name payload) none (some (.unlabelled name payload))
  | stored (payload : String) (held : Option Entry) :
      Becomes id counted (.upsertSecret id payload) held
        (some { held.getD (.unlabelled "" payload) with payload })
  | renamed (name : String) (e : Entry) :
      Becomes id counted (.renameSecret id name) (some e) (some { e with name })
  | deleted {ids : List Int} (among : id ∈ ids) (held : Option Entry) :
      Becomes id counted (.deleteSecrets ids) held none
  | attached (label : String) (e : Entry) :
      Becomes id counted (.insertLabel label id) (some e) (some (e.attach label))
  | detached (patterns : List String) (e : Entry) :
      Becomes id counted (.deleteLabels id patterns) (some e) (some (e.detach (anyMatches patterns)))

end Vault.Entry

/-- An id that is handed out for a new secret has not been counted. -/
def Operation.IssuesAbove (counted : Int) : (op : Operation) → Except StoreError op.Answer → Prop
  | .insertSecret .., answer => ∀ id, answer = .ok id → counted < id
  | _, _ => True

namespace Vault
variable {v : Vault}

theorem get?_put (v : Vault) (id other : Int) (e : Entry) :
    (v.put id e).entries.get? other = if other = id then some e else v.entries.get? other :=
  IdMap.get?_insert ..

/-- An operation that puts one entry, as it may, leaves all others alone. -/
theorem becomes_put {put counted : Int} {op : Operation} {e : Entry}
    (own : Entry.Becomes put counted op (v.entries.get? put) (some e)) (id : Int) :
    Entry.Becomes id counted op (v.entries.get? id) ((v.put put e).entries.get? id) := by
  rw [get?_put]
  split
  · rename_i same
    rw [same]
    exact own
  · exact .kept op _

/-- An operation that is performed on a vault changes each entry as it may. -/
theorem Performs.becomes {v' : Vault} {op : Operation} {answer : Except StoreError op.Answer}
    {counted : Int} (performs : v.Performs op answer v') (issues : op.IssuesAbove counted answer)
    (id : Int) :
    Entry.Becomes id counted op (v.entries.get? id) (v'.entries.get? id) := by
  cases op with
  | insertMasterKey key =>
    obtain ⟨-, rfl⟩ := performs
    exact .kept _ _
  | queryMasterKey | readPayload _ | searchIds _ =>
    obtain ⟨-, rfl⟩ := performs
    exact .kept _ _
  | searchColumn _ _ | searchLabelsAndName _ _ =>
    obtain rfl := performs
    exact .kept _ _
  | insertSecret name payload =>
    obtain ⟨new, unused, answered, rfl⟩ := performs
    have absent : v.entries.get? new = none := by
      cases found : v.entries.get? new with
      | none => rfl
      | some e =>
        have used := IdMap.contains_iff_mem_keys.1 (IdMap.contains_iff.2 ⟨e, found⟩)
        exact absurd (unused new used) (Int.lt_irrefl new)
    refine becomes_put ?_ id
    rw [absent]
    exact .created name payload (issues new answered)
  | upsertSecret stored payload =>
    obtain ⟨-, rfl⟩ := performs
    exact becomes_put (.stored payload _) id
  | renameSecret renamed name =>
    simp only [Performs] at performs
    cases found : v.entries.get? renamed with
    | none =>
      rw [found] at performs
      obtain ⟨-, rfl⟩ := performs
      exact .kept _ _
    | some e =>
      rw [found] at performs
      obtain ⟨-, rfl⟩ := performs
      exact becomes_put (found ▸ .renamed name e) id
  | deleteSecrets ids =>
    simp only [Performs] at performs
    split at performs
    · obtain ⟨-, rfl⟩ := performs
      exact .kept _ _
    · obtain ⟨-, rfl⟩ := performs
      rw [remove, IdMap.get?_filter]
      by_cases among : id ∈ ids
      · have gone : (v.entries.get? id).filter (fun _ => !ids.contains id) = none := by
          simp [among]
        rw [gone]
        exact .deleted among _
      · have stays : (v.entries.get? id).filter (fun _ => !ids.contains id) =
            v.entries.get? id := by
          cases v.entries.get? id with
          | none => rfl
          | some e => simp [among]
        rw [stays]
        exact .kept _ _
  | insertLabel label owner =>
    simp only [Performs] at performs
    cases found : v.entries.get? owner with
    | none =>
      rw [found] at performs
      obtain ⟨-, rfl⟩ := performs
      exact .kept _ _
    | some e =>
      rw [found] at performs
      obtain ⟨-, rfl⟩ := performs
      exact becomes_put (found ▸ .attached label e) id
  | deleteLabels owner patterns =>
    simp only [Performs] at performs
    split at performs
    · obtain ⟨-, rfl⟩ := performs
      exact .kept _ _
    · obtain ⟨-, rfl⟩ := performs
      cases found : v.entries.get? owner with
      | none => exact .kept _ _
      | some e => exact becomes_put (found ▸ .detached patterns e) id

end Vault

/-- Which vault is represented is a matter of rows, not of counts. -/
theorem Represents.of_sameRows {t t' : Tables} {v : Vault} (represented : Represents t v)
    (same : t.SameRows t') : Represents t' v where
  masterKey := same.masterKey.trans represented.masterKey
  secrets id := same.secrets ▸ represented.secrets id
  labels id := by
    rw [Tables.labelCells, same.labels]
    exact represented.labels id

/-- With nobody to stop it, an operation on a connection is one on the database. -/
theorem Operation.run_opened (op : Operation) (d : Database) :
    (op.run (fun _ => none) 0 (.opened d)).1 = (op.perform d).1 ∧
      (op.run (fun _ => none) 0 (.opened d)).2.database = (op.perform d).2 :=
  run_of_live (endsLive_of_never rfl op (.opened d))

namespace Engine.Database
variable {d : Database}

/-- An operation outside of a transaction begins none. -/
theorem idle_perform (idle : d.inTransaction = false) (op : Operation) :
    (op.perform d).2.inTransaction = false := by
  have ended := Operation.idle_run (c := .opened d) (working_of_idle idle) op (fun _ => none) 0
  rw [(op.run_opened d).2] at ended
  exact congrArg Option.isSome ended

theorem idle_after (idle : d.inTransaction = false) (ops : List Operation) :
    (d.after ops).inTransaction = false := by
  induction ops generalizing d with
  | nil => exact idle
  | cons op later ih => exact ih (idle_perform idle op)

/-- What every operation keeps holds after any number of them. -/
theorem Holds.after {P : Tables → Prop} (keeps : ∀ op : Operation, op.plan.Keeps P)
    (holds : d.Holds P) (ops : List Operation) : (d.after ops).Holds P := by
  induction ops generalizing d with
  | nil => exact holds
  | cons op later ih =>
    have kept := Operation.holds_run (c := .opened d) (fun _ => keeps op) holds (fun _ => none) 0
    rw [(op.run_opened d).2] at kept
    exact ih kept

end Engine.Database

namespace Operation
variable {d : Database} {v : Vault}

/-- Outside of a transaction an operation that fails leaves every row as it was. -/
theorem sameRows_of_perform (idle : d.inTransaction = false) {op : Operation} {e : StoreError}
    (failed : (op.perform d).1 = .error e) : d.current.SameRows (op.perform d).2.current := by
  obtain ⟨answer, database⟩ := op.run_opened d
  obtain ⟨t, stored, same⟩ := sameRows_of_failed (c := .opened d) (Database.eq_ofTables idle)
    (answer.trans failed)
  rw [database] at stored
  rw [stored]
  exact same

/-- The count comes before every id that is handed out. -/
theorem issuesAbove_perform (op : Operation) (d : Database) :
    op.IssuesAbove d.current.secretCount (op.perform d).1 := by
  cases op with
  | insertSecret name payload =>
    intro id answered
    obtain ⟨t, created, -⟩ := insertSecret_of_perform (Prod.ext answered rfl)
    obtain ⟨next, -⟩ := Tables.eq_of_nextId (Tables.nextId_of_insertSecret created)
    omega
  | _ => trivial

/-- Outside of a transaction an operation leads from one vault to another, and changes each entry as
it may. -/
theorem perform_becomes (idle : d.inTransaction = false) (represented : Represents d.current v)
    (op : Operation) :
    ∃ v', Represents (op.perform d).2.current v' ∧ ∀ id,
      Vault.Entry.Becomes id d.current.secretCount op (v.entries.get? id) (v'.entries.get? id) := by
  by_cases limit : LimitMet (op.perform d).1
  · obtain ⟨e, -, failed⟩ := limit
    exact ⟨v, represented.of_sameRows (sameRows_of_perform idle failed), fun id => .kept op _⟩
  · obtain ⟨v', performs, represents⟩ := (follows represented op).1 limit
    exact ⟨v', represents, performs.becomes (op.issuesAbove_perform d)⟩

end Operation
end SecretVault
