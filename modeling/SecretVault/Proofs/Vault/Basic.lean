import Mathlib.Data.List.Dedup
import SecretVault.Operation
import SecretVault.Proofs.IdMap

/-!
A vault without tables: a master key that is set once, and secrets by id, each with a name, a
payload and its labels in the order in which they were attached. `Performs` says what every
operation answers and what it changes; the searches by column and by labels and name are only said
to change nothing.
-/
namespace SecretVault
open SecretVault.Engine SecretVault.Glob

structure Vault.Entry where
  name : String
  payload : String
  labels : List String
  distinct : labels.Nodup

structure Vault where
  masterKey : Option String
  entries : IdMap Vault.Entry

namespace Vault

namespace Entry

/-- An entry without labels. -/
def unlabelled (name payload : String) : Entry := ⟨name, payload, [], .nil⟩

/-- A label goes to the end; one that is there stays where it is. -/
def attach (e : Entry) (label : String) : Entry where
  name := e.name
  payload := e.payload
  labels := if label ∈ e.labels then e.labels else e.labels ++ [label]
  distinct := by
    split
    · exact e.distinct
    · rename_i absent
      exact List.nodup_append.2 ⟨e.distinct, List.nodup_singleton _, by
        rintro held member other new rfl
        rw [List.mem_singleton.1 new] at member
        exact absent member⟩

theorem labels_attach (e : Entry) (label : String) :
    (e.attach label).labels = if label ∈ e.labels then e.labels else e.labels ++ [label] := rfl

def detach (e : Entry) (removed : String → Bool) : Entry where
  name := e.name
  payload := e.payload
  labels := e.labels.filter fun label => !removed label
  distinct := e.distinct.filter _

end Entry

def empty : Vault := ⟨none, IdMap.empty⟩

/-- The labels of an id; an id without an entry has none. -/
def labels (v : Vault) (id : Int) : List String := ((v.entries.get? id).map Entry.labels).getD []

def put (v : Vault) (id : Int) (e : Entry) : Vault :=
  { v with entries := v.entries.insert id e }

def remove (v : Vault) (ids : List Int) : Vault :=
  { v with entries := v.entries.filter fun id _ => !ids.contains id }

/-- What a search shows that selects entries by their ids: those of them that have labels. -/
def listed (v : Vault) (selects : Int → Bool) : LabeledSecrets :=
  v.entries.filterMap fun id e =>
    if selects id ∧ e.labels ≠ [] then some ⟨e.name, e.labels⟩ else none

/-- Some pattern matches the label. -/
def anyMatches (patterns : List String) (label : String) : Bool :=
  patterns.any fun pattern => matchesCodes pattern (codes label)

/-- An operation on a vault, with its answer and the vault after it. -/
def Performs (v : Vault) : (op : Operation) → Except StoreError op.Answer → Vault → Prop
  | .insertMasterKey key, answer, v' =>
    answer = .ok () ∧ v' = { v with masterKey := some (v.masterKey.getD key) }
  | .queryMasterKey, answer, v' =>
    answer = v.masterKey.elim (.error (.notFound .masterKey)) .ok ∧ v' = v
  | .insertSecret name payload, answer, v' =>
    ∃ id, (∀ used ∈ v.entries.keys, used < id) ∧ answer = .ok id ∧
      v' = v.put id (.unlabelled name payload)
  | .upsertSecret id payload, answer, v' =>
    answer = .ok 1 ∧
      v' = v.put id { (v.entries.get? id).getD (.unlabelled "" payload) with payload }
  | .readPayload id, answer, v' =>
    answer = ((v.entries.get? id).map Entry.payload).elim (.error (.notFound .secret)) .ok ∧ v' = v
  | .renameSecret id name, answer, v' =>
    match v.entries.get? id with
    | some e => answer = .ok () ∧ v' = v.put id { e with name }
    | none => answer = .error (.notFound .secret) ∧ v' = v
  | .deleteSecrets ids, answer, v' =>
    if ids = [] then answer = .error (.precondition .noIds) ∧ v' = v
    else answer = .ok (ids.dedup.filter v.entries.contains).length ∧ v' = v.remove ids
  | .insertLabel label id, answer, v' =>
    match v.entries.get? id with
    | some e => (∃ labelId, answer = .ok labelId) ∧ v' = v.put id (e.attach label)
    | none => answer = .error (.engine .foreignKey) ∧ v' = v
  | .deleteLabels id patterns, answer, v' =>
    if patterns = [] then answer = .error (.precondition .noLabels) ∧ v' = v
    else
      answer = .ok ((v.labels id).filter (anyMatches patterns)).length ∧
        v' = ((v.entries.get? id).map fun e => v.put id (e.detach (anyMatches patterns))).getD v
  | .searchIds ids, answer, v' =>
    (if ids = [] then answer = .error (.precondition .noIds)
      else answer = .ok (v.listed ids.contains)) ∧ v' = v
  | .searchColumn .., _, v' | .searchLabelsAndName .., _, v' => v' = v

end Vault
end SecretVault
