import SecretVault.Proofs.Changes

/-!
Counts of ids. Each table that counts its ids has counted at least as far as the greatest of them,
whatever ids are given for its rows: every statement keeps to that, so it holds wherever a vault is
used.
-/
namespace SecretVault
open SecretVault.Engine

namespace Engine

/-- No id is above the count of its table. -/
structure Tables.Counted (t : Tables) : Prop where
  secrets : ∀ id ∈ t.secrets.keys, id ≤ t.secretCount
  labels : ∀ id ∈ t.labels.keys, id ≤ t.labelCount

namespace Tables
variable {t t' : Tables}

theorem counted_empty : Counted .empty := ⟨nofun, nofun⟩

theorem Counted.addSecret (counted : t.Counted) (id : Int) (secret : StoredSecret) :
    (t.addSecret id secret).Counted := by
  refine ⟨fun other member => ?_, counted.labels⟩
  rcases IdMap.mem_keys_insert.1 member with rfl | held
  · exact Int.le_max_right _ _
  · exact Int.le_trans (counted.secrets other held) (Int.le_max_left _ _)

theorem Counted.addLabel (counted : t.Counted) (id : Int) (label : StoredLabel) :
    (t.addLabel id label).Counted := by
  refine ⟨counted.secrets, fun other member => ?_⟩
  rcases IdMap.mem_keys_insert.1 member with rfl | held
  · exact Int.le_max_right _ _
  · exact Int.le_trans (counted.labels other held) (Int.le_max_left _ _)

/-- Rows go, but ids stay counted. -/
theorem Counted.of_subset (counted : t.Counted) (secrets : t'.secrets.keys ⊆ t.secrets.keys)
    (labels : t'.labels.keys ⊆ t.labels.keys) (sameSecrets : t'.secretCount = t.secretCount)
    (sameLabels : t'.labelCount = t.labelCount) : t'.Counted where
  secrets id member := sameSecrets ▸ counted.secrets id (secrets member)
  labels id member := sameLabels ▸ counted.labels id (labels member)

theorem Counted.changed (counted : t.Counted) (changed : t.Changed t') : t'.Counted := by
  cases changed with
  | unchanged => exact counted
  | putMasterKey key => exact ⟨counted.secrets, counted.labels⟩
  | addSecret id secret => exact counted.addSecret id secret
  | replaceSecret stored secret =>
    refine ⟨fun other member => ?_, counted.labels⟩
    rcases IdMap.mem_keys_insert.1 member with rfl | held
    · exact counted.secrets _ (IdMap.contains_iff_mem_keys.1 (IdMap.contains_iff.2 ⟨_, stored⟩))
    · exact counted.secrets other held
  | deleteSecrets ids =>
    refine counted.of_subset ?_ ?_ rfl rfl
    · exact fun _ => IdMap.mem_keys_of_filter
    · rw [labels_deleteSecrets]
      exact fun _ => IdMap.mem_keys_of_filter
  | addLabel drawn label => exact counted.addLabel _ label
  | countLabel drawn =>
    -- The drawn id is above all ids.
    refine ⟨counted.secrets, fun other member => ?_⟩
    obtain ⟨entry, held, rfl⟩ := List.mem_map.1 member
    exact Int.le_of_lt (nextId_above drawn entry held)
  | deleteLabels selected =>
    refine counted.of_subset (List.Subset.refl _) ?_ rfl rfl
    exact fun _ => IdMap.mem_keys_of_filter

end Tables

theorem Tables.lastKey_le_of_counted {α : Type} {rows : IdMap α} {count : Int}
    (counted : ∀ id ∈ rows.keys, id ≤ count) (nonneg : 0 ≤ count) :
    rows.lastKey?.getD 0 ≤ count := by
  cases found : rows.lastKey? with
  | none => exact nonneg
  | some id => exact counted id (List.mem_of_getLast? found)

/-- The id after all that are counted, where nothing else is in use. -/
theorem Tables.nextId_of_counted {α : Type} {rows : IdMap α} {count : Int}
    (counted : ∀ id ∈ rows.keys, id ≤ count) (nonneg : 0 ≤ count) (room : count < greatestId) :
    nextId rows count = .ok (count + 1) := by
  have last := lastKey_le_of_counted counted nonneg
  rw [nextId, Int.max_eq_left last, if_neg (Int.not_le.2 room)]

end Engine

theorem Operation.keeps_counted (op : Operation) : op.plan.Keeps Tables.Counted :=
  op.keeps_of_changed fun _ _ counted changed => counted.changed changed

theorem Engine.Database.Reachable.counted {d : Database} (reachable : d.Reachable) :
    d.Holds Tables.Counted :=
  reachable.holds Tables.counted_empty fun op _ => op.keeps_counted

end SecretVault
