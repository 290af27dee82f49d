import SecretVault.Proofs.LabelRows
import SecretVault.Proofs.Vault.Basic

/-!
Tables that represent a vault. The labels of an entry are those rows of the label table that belong
to it, in the order of their ids; rows that belong to no entry there are none. Every change that
statements make to tables is described by the vault that the changed tables represent.
-/
namespace SecretVault
open SecretVault.Engine SecretVault.Glob

def Vault.Entry.stored (e : Vault.Entry) : StoredSecret := ⟨.text e.name, .text e.payload⟩

structure Represents (t : Tables) (v : Vault) : Prop where
  masterKey : t.masterKey = v.masterKey.map .text
  secrets : ∀ id, t.secrets.get? id = (v.entries.get? id).map Vault.Entry.stored
  labels : ∀ id, t.labelCells id = (v.labels id).map .text

theorem represents_empty : Represents .empty .empty where
  masterKey := rfl
  secrets _ := rfl
  labels _ := rfl

namespace Represents
variable {t : Tables} {v : Vault}

theorem contains (represented : Represents t v) (id : Int) :
    t.secrets.contains id = v.entries.contains id := by
  simp [IdMap.contains, represented.secrets]

/-- A label that is stored belongs to an entry which has it. -/
theorem label_of_mem (represented : Represents t v) {labelId : Int} {label : StoredLabel}
    (member : (labelId, label) ∈ t.labels.entries) :
    ∃ s ∈ v.labels label.secretId, label.name = .text s := by
  have held : label.name ∈ t.labelCells label.secretId := Tables.mem_labelCells.2 ⟨labelId, member⟩
  rw [represented.labels] at held
  obtain ⟨s, among, equal⟩ := List.mem_map.1 held
  exact ⟨s, among, equal.symm⟩

theorem readable (represented : Represents t v) : t.Readable where
  secretNames := by
    intro entry member
    obtain ⟨id, secret⟩ := entry
    have found := represented.secrets id
    rw [IdMap.get?_eq_some_iff.2 member] at found
    obtain ⟨e, -, rfl⟩ := Option.map_eq_some_iff.1 found.symm
    exact ⟨e.name, rfl⟩
  labelNames := by
    intro entry member
    obtain ⟨labelId, label⟩ := entry
    obtain ⟨s, -, name⟩ := represented.label_of_mem member
    exact ⟨s, name⟩

/-- Tables that differ from represented ones at a single id represent the vault that differs there
alike. -/
theorem put (represented : Represents t v) (id : Int) (e : Vault.Entry) {t' : Tables}
    (masterKey : t'.masterKey = t.masterKey)
    (secrets : ∀ other, t'.secrets.get? other =
      if other = id then some e.stored else t.secrets.get? other)
    (labels : ∀ other, t'.labelCells other =
      if other = id then e.labels.map .text else t.labelCells other) :
    Represents t' (v.put id e) where
  masterKey := masterKey.trans represented.masterKey
  secrets other := by
    rw [secrets, Vault.put, IdMap.get?_insert]
    split
    · rfl
    · exact represented.secrets other
  labels other := by
    rw [labels, Vault.labels, Vault.put, IdMap.get?_insert]
    split
    · rfl
    · exact represented.labels other

theorem putMasterKey (represented : Represents t v) (key : String) :
    Represents (t.putMasterKey (.text key))
      { v with masterKey := some (v.masterKey.getD key) } where
  masterKey := by
    rw [Tables.putMasterKey, represented.masterKey]
    cases v.masterKey <;> rfl
  secrets := represented.secrets
  labels := represented.labels

/-- Storing a secret leaves its labels as they are. -/
theorem putSecret (represented : Represents t v) (id : Int) (e : Vault.Entry)
    (sameLabels : e.labels = v.labels id) {t' : Tables}
    (changed : t'.masterKey = t.masterKey ∧ t'.secrets = t.secrets.insert id e.stored ∧
      t'.labels = t.labels) : Represents t' (v.put id e) := by
  obtain ⟨masterKey, secrets, labels⟩ := changed
  refine represented.put id e masterKey (fun other => by rw [secrets, IdMap.get?_insert]) ?_
  intro other
  rw [Tables.labelCells, labels]
  split
  · rename_i equal
    rw [sameLabels, equal]
    exact represented.labels id
  · rfl

/-- Changing the labels of an entry leaves its secret as it is. -/
theorem putLabels (represented : Represents t v) {id : Int} {e e' : Vault.Entry}
    (found : v.entries.get? id = some e) (sameSecret : e'.stored = e.stored) {t' : Tables}
    (unchanged : t'.masterKey = t.masterKey ∧ t'.secrets = t.secrets)
    (labels : ∀ other, t'.labelCells other =
      if other = id then e'.labels.map .text else t.labelCells other) :
    Represents t' (v.put id e') := by
  obtain ⟨masterKey, secrets⟩ := unchanged
  refine represented.put id e' masterKey (fun other => ?_) labels
  rw [secrets]
  split
  · rename_i equal
    rw [equal, represented.secrets, found, sameSecret]
    rfl
  · rfl

theorem insertSecret (represented : Represents t v) {name payload : String} {id : Int}
    {t' : Tables} (created : t.insertSecret ⟨.text name, .text payload⟩ = .ok (id, t')) :
    (∀ used ∈ v.entries.keys, used < id) ∧
      Represents t' (v.put id (.unlabelled name payload)) := by
  unfold Tables.insertSecret at created
  cases drawn : Tables.nextId t.secrets t.secretCount with
  | error e => rw [drawn] at created; cases created
  | ok next =>
    rw [drawn] at created
    cases created
    have above : ∀ used ∈ v.entries.keys, used < id := by
      intro used member
      rw [← IdMap.contains_iff_mem_keys, ← represented.contains, IdMap.contains_iff] at member
      obtain ⟨secret, found⟩ := member
      exact Tables.nextId_above drawn _ (IdMap.get?_eq_some_iff.1 found)
    refine ⟨above, represented.putSecret id _ ?_ ⟨rfl, rfl, rfl⟩⟩
    have absent : v.entries.get? id = none := by
      cases found : v.entries.get? id with
      | none => rfl
      | some e =>
        have below := above id (IdMap.contains_iff_mem_keys.1 (IdMap.contains_iff.2 ⟨e, found⟩))
        exact absurd below (Int.lt_irrefl id)
    simp [Vault.labels, absent, Vault.Entry.unlabelled]

theorem upsertPayload (represented : Represents t v) (id : Int) (payload : String) :
    (t.upsertPayload id (.text payload)).1 = 1 ∧
      Represents (t.upsertPayload id (.text payload)).2
        (v.put id { (v.entries.get? id).getD (.unlabelled "" payload) with payload }) := by
  have stored := represented.secrets id
  unfold Tables.upsertPayload
  cases found : v.entries.get? id with
  | none =>
    rw [found] at stored
    rw [stored]
    exact ⟨rfl, represented.putSecret id _ (by simp [Vault.labels, found, Vault.Entry.unlabelled])
      ⟨rfl, rfl, rfl⟩⟩
  | some e =>
    rw [found] at stored
    rw [stored]
    exact ⟨rfl, represented.putSecret id _ (by simp [Vault.labels, found]) ⟨rfl, rfl, rfl⟩⟩

theorem renameSecret (represented : Represents t v) (id : Int) (name : String) :
    match v.entries.get? id with
    | some e => (t.renameSecret id (.text name)).1 = 1 ∧
        Represents (t.renameSecret id (.text name)).2 (v.put id { e with name })
    | none => t.renameSecret id (.text name) = (0, t) := by
  have stored := represented.secrets id
  unfold Tables.renameSecret
  cases found : v.entries.get? id with
  | none =>
    rw [found] at stored
    rw [stored]
    rfl
  | some e =>
    rw [found] at stored
    rw [stored]
    exact ⟨rfl, represented.putSecret id _ (by simp [Vault.labels, found]) ⟨rfl, rfl, rfl⟩⟩

theorem deleteSecrets (represented : Represents t v) (ids : List Int) :
    (t.deleteSecrets ids).1 = (ids.dedup.filter v.entries.contains).length ∧
      Represents (t.deleteSecrets ids).2 (v.remove ids) := by
  have sameIds : t.secrets.contains = v.entries.contains := funext represented.contains
  refine ⟨by rw [Tables.deleteSecrets, IdMap.length_filter_contains, sameIds], ?_, ?_, ?_⟩
  · exact represented.masterKey
  · intro id
    simp only [Tables.deleteSecrets, Vault.remove, IdMap.get?_filter, represented.secrets,
      Option.filter_map]
    rfl
  · intro id
    have kept : (t.deleteSecrets ids).2.labelCells id =
        if ids.contains id then [] else t.labelCells id := by
      rw [Tables.labelCells_filter (fun label => !ids.contains label.secretId) rfl]
      dsimp only
      cases ids.contains id <;> simp
    rw [kept, represented.labels, Vault.labels, Vault.labels, Vault.remove, IdMap.get?_filter]
    cases ids.contains id <;> cases v.entries.get? id <;> rfl

/-- Attaching a label fails because no id is left or its secret does not exist; otherwise it is
there under some id. -/
theorem attachLabel (represented : Represents t v) (id : Int) (name : String) :
    let attached := t.attachLabel ⟨.text name, id⟩
    ¬ HasNextId t.labels t.labelCount ∧ attached = .error .full ∨
      match v.entries.get? id with
      | some e => ∃ answer t', attached = .ok (answer, t') ∧
          Represents t' (v.put id (e.attach name)) ∧
          (answer = none → ∃ labelId, t'.labelId? ⟨.text name, id⟩ = some labelId)
      | none => attached = .error .foreignKey := by
  have there : (t.labelId? ⟨.text name, id⟩).isSome = true ↔ name ∈ v.labels id := by
    rw [Tables.labelId?_isSome, represented.labels]
    exact List.mem_map_of_injective fun _ _ => Cell.text.inj
  rw [Tables.attachLabel_eq]
  cases drawn : Tables.nextId t.labels t.labelCount with
  | error e =>
    obtain ⟨exhausted, rfl⟩ := Tables.exhausted_of_nextId drawn
    exact .inl ⟨exhausted, rfl⟩
  | ok next =>
    have above := Tables.nextId_above drawn
    refine .inr ?_
    simp only [bind, Except.bind, there]
    cases found : v.entries.get? id with
    | none =>
      have unknown : t.secrets.contains id = false := by
        rw [represented.contains, IdMap.contains, found]
        rfl
      have unlabelled : name ∉ v.labels id := by simp [Vault.labels, found]
      rw [if_neg unlabelled, if_neg (by rw [unknown]; exact Bool.false_ne_true)]
      rfl
    | some e =>
      have labels : v.labels id = e.labels := by simp [Vault.labels, found]
      have known : t.secrets.contains id = true := by
        rw [represented.contains, IdMap.contains, found]
        rfl
      by_cases attached : name ∈ v.labels id
      · rw [if_pos attached]
        refine ⟨none, _, rfl, represented.putLabels found (by rfl) ⟨rfl, rfl⟩ fun other => ?_,
          fun _ => Option.isSome_iff_exists.1 (there.2 attached)⟩
        rw [labels] at attached
        split
        · rename_i equal
          rw [equal, Vault.Entry.labels_attach, if_pos attached, ← labels]
          exact represented.labels id
        · rfl
      · rw [if_neg attached, if_pos known]
        refine ⟨some next, _, rfl, represented.putLabels found (by rfl) ⟨rfl, rfl⟩ fun other => ?_,
          fun equal => absurd equal (Option.some_ne_none next)⟩
        rw [labels] at attached
        rw [Tables.labelCells_addLabel above]
        dsimp only
        split
        · rename_i equal
          rw [equal, represented.labels, labels, Vault.Entry.labels_attach, if_neg attached,
            List.map_append]
          rfl
        · rfl

theorem deleteLabels (represented : Represents t v) (id : Int) (patterns : List String) :
    let deleted := t.deleteLabels fun _ label =>
      label.secretId == id && label.name.matchesAny patterns
    deleted.1 = ((v.labels id).filter (Vault.anyMatches patterns)).length ∧
      Represents deleted.2
        (((v.entries.get? id).map fun e =>
          v.put id (e.detach (Vault.anyMatches patterns))).getD v) := by
  dsimp only
  generalize changed : t.deleteLabels (fun _ label =>
    label.secretId == id && label.name.matchesAny patterns) = deleted
  have counted : deleted.1 = ((t.labelCells id).filter (Cell.matchesAny patterns)).length := by
    simp only [← changed, Tables.deleteLabels, IdMap.filter, Tables.labelCells, List.filter_map,
      List.filter_filter, List.length_map, Function.comp_def, Bool.and_comm]
  have kept (other : Int) : deleted.2.labelCells other =
      if other = id then (t.labelCells id).filter fun name => !name.matchesAny patterns
      else t.labelCells other := by
    rw [← changed, Tables.labelCells_filter
      (fun label => !(label.secretId == id && label.name.matchesAny patterns)) rfl]
    split
    · rename_i equal
      simp [equal]
    · rename_i different
      simp [different]
  have masterKey : deleted.2.masterKey = t.masterKey := by rw [← changed]; rfl
  have secrets : deleted.2.secrets = t.secrets := by rw [← changed]; rfl
  refine ⟨?_, ?_⟩
  · rw [counted, represented.labels, List.filter_map, List.length_map]
    rfl
  cases found : v.entries.get? id with
  | none =>
    refine ⟨masterKey.trans represented.masterKey, fun other => ?_, fun other => ?_⟩
    · rw [secrets]
      exact represented.secrets other
    · rw [kept]
      split
      · rename_i equal
        simp [equal, represented.labels, Vault.labels, found]
      · exact represented.labels other
  | some e =>
    have labels : v.labels id = e.labels := by simp [Vault.labels, found]
    refine represented.putLabels found (by rfl) ⟨masterKey, secrets⟩ fun other => ?_
    rw [kept, represented.labels, labels, List.filter_map]
    rfl

/-- Of the labels of an entry those are selected whose names are chosen. -/
theorem selectedLabels_eq (represented : Represents t v) {id : Int} {e : Vault.Entry}
    (found : v.entries.get? id = some e) {selects : JoinedRow → Bool} {chosen : String → Bool}
    (agree : ∀ labelId name, selects ⟨id, e.stored, labelId, ⟨.text name, id⟩⟩ = chosen name) :
    t.selectedLabels selects id e.stored = e.labels.filter chosen := by
  have names : (t.labelCells id).map Cell.shown = e.labels := by
    rw [represented.labels, Vault.labels, found, List.map_map]
    exact List.map_id _
  rw [← names, Tables.selectedLabels, Tables.labelCells]
  simp only [List.map_map, List.filter_map, List.filter_filter, Function.comp_def]
  refine congrArg _ (List.filter_congr fun entry member => ?_)
  cases own : entry.2.secretId == id with
  | false => simp
  | true =>
    obtain ⟨name, isText⟩ := represented.readable.labelNames entry member
    have owner : entry.2 = ⟨.text name, id⟩ := by rw [← isText, ← eq_of_beq own]
    rw [owner, agree, Bool.true_and, Bool.and_true]
    rfl

/-- A search shows each entry that has a chosen label, with its chosen labels. -/
theorem get?_listing (represented : Represents t v) (selects : JoinedRow → Bool)
    (chosen : Int → Vault.Entry → String → Bool)
    (agree : ∀ id e labelId name,
      selects ⟨id, Vault.Entry.stored e, labelId, ⟨.text name, id⟩⟩ = chosen id e name) (id : Int) :
    (t.listing selects).get? id = (v.entries.get? id).bind fun e =>
      match e.labels.filter (chosen id e) with
      | [] => none
      | labels => some ⟨e.name, labels⟩ := by
  rw [Tables.get?_listing, represented.secrets]
  cases found : v.entries.get? id with
  | none => rfl
  | some e =>
    simp only [Option.map_some, Option.bind_some,
      represented.selectedLabels_eq found (agree id e)]
    rfl

/-- A search that selects by id lists entries as they are. -/
theorem listing_listed (represented : Represents t v) (selects : Int → Bool) :
    (t.listing fun row => selects row.secretId) = v.listed selects := by
  refine IdMap.ext_get? fun id => ?_
  have shown := represented.get?_listing (fun row => selects row.secretId)
    (fun id _ _ => selects id) (fun _ _ _ _ => rfl) id
  rw [shown, Vault.listed, IdMap.get?_filterMap]
  refine Option.bind_congr fun e _ => ?_
  cases selects id with
  | false => simp
  | true =>
    cases given : e.labels with
    | nil => rfl
    | cons first others => simp

end Represents
end SecretVault
