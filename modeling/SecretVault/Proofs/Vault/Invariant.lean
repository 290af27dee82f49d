import SecretVault.Proofs.Reachable
import SecretVault.Proofs.Vault.Represents

/-!
Statements on tables that represent a vault. What each of them leaves represents a vault again, so
every database that comes about by use represents one. Deletions may meet a limit of the engine, but
only if the arguments of their operation do not fit.
-/
namespace SecretVault
open SecretVault.Engine SecretVault.Glob

/-- The tables represent some vault. -/
def Engine.Tables.IsVault (t : Tables) : Prop := ∃ v, Represents t v

namespace Represents
variable {t : Tables} {v : Vault}

/-- The statement that deletes secrets is refused at a limit, or removes the entries. -/
theorem change_deleteSecrets (represented : Represents t v) (ids : List Int) :
    (∃ e, (Statement.deleteSecrets ids).change t = .error e ∧ e.isLimit = true ∧
        ¬ (Operation.deleteSecrets ids).Fits t) ∨
      ∃ t', (Statement.deleteSecrets ids).change t =
          .ok ((ids.dedup.filter v.entries.contains).length, t') ∧
        Represents t' (v.remove ids) := by
  have change := Statement.change_deleteSecrets ids t
  cases limits : Statement.withinLimits (Statement.deleteSecretsQuery ids) false with
  | error e =>
    rw [limits] at change
    refine .inl ⟨e, change, (Statement.isLimit_of_withinLimits limits).1, fun fits => ?_⟩
    cases limits.symm.trans (Statement.withinLimits_deleteSecrets fits)
  | ok =>
    rw [limits] at change
    obtain ⟨count, represents⟩ := represented.deleteSecrets ids
    refine .inr ⟨(t.deleteSecrets ids).2, ?_, represents⟩
    rw [← count]
    exact change

/-- The statement that deletes labels is refused at a limit, or takes them from the entry. -/
theorem change_deleteLabels (represented : Represents t v) (id : Int) {patterns : List String}
    (given : patterns ≠ []) :
    (∃ e, (Statement.deleteLabels id patterns).change t = .error e ∧ e.isLimit = true ∧
        ¬ (Operation.deleteLabels id patterns).Fits t) ∨
      ∃ t', (Statement.deleteLabels id patterns).change t =
          .ok (((v.labels id).filter (Vault.anyMatches patterns)).length, t') ∧
        Represents t' (((v.entries.get? id).map fun e =>
          v.put id (e.detach (Vault.anyMatches patterns))).getD v) := by
  rcases Statement.change_deleteLabels_cases t id given with refused | deleted
  · exact .inl refused
  · obtain ⟨count, represents⟩ := represented.deleteLabels id patterns
    refine .inr ⟨_, ?_, represents⟩
    rw [← count]
    exact deleted

end Represents

theorem Engine.Statement.keeps_isVault {α : Type} {statement : Statement α}
    (changes : ∀ t v a t', Represents t v → statement.change t = .ok (a, t') →
      ∃ v', Represents t' v') : statement.Keeps Tables.IsVault := by
  intro t a t' isVault changed
  obtain ⟨v, represented⟩ := isVault
  exact changes t v a t' represented changed

namespace Operation

/-- Whatever a statement changes, the tables go on to represent a vault. -/
theorem keeps_isVault (op : Operation) (accepted : op.refusal? = none) :
    op.plan.Keeps Tables.IsVault := by
  cases op with
  | insertMasterKey key =>
    refine Plan.keeps_send_answer (Statement.keeps_isVault fun t v a t' represented changed => ?_)
    cases changed
    exact ⟨_, represented.putMasterKey key⟩
  | queryMasterKey => exact ⟨Statement.keeps_reading _ _ _ _, fun _ => trivial⟩
  | insertSecret name payload =>
    refine Plan.keeps_send_answer (Statement.keeps_isVault fun t v id t' represented changed => ?_)
    exact ⟨_, (represented.insertSecret changed).2⟩
  | upsertSecret id payload =>
    refine Plan.keeps_send_answer (Statement.keeps_isVault fun t v a t' represented changed => ?_)
    have change : t.upsertPayload id (.text payload) = (a, t') := Except.ok.inj changed
    have represents := (represented.upsertPayload id payload).2
    rw [change] at represents
    exact ⟨_, represents⟩
  | readPayload id => exact ⟨Statement.keeps_reading _ _ _ _, fun _ => trivial⟩
  | renameSecret id name =>
    refine Plan.keeps_send_answer (Statement.keeps_isVault fun t v a t' represented changed => ?_)
    have change : t.renameSecret id (.text name) = (a, t') := Except.ok.inj changed
    have renamed := represented.renameSecret id name
    rw [change] at renamed
    cases found : v.entries.get? id with
    | none =>
      rw [found] at renamed
      cases renamed
      exact ⟨v, represented⟩
    | some e =>
      rw [found] at renamed
      exact ⟨_, renamed.2⟩
  | deleteSecrets ids =>
    refine Plan.keeps_send_answer (Statement.keeps_isVault fun t v a t' represented changed => ?_)
    rcases represented.change_deleteSecrets ids with ⟨e, failed, -⟩ | ⟨t'', deleted, represents⟩
    · cases failed.symm.trans changed
    · cases deleted.symm.trans changed
      exact ⟨_, represents⟩
  | insertLabel name id =>
    refine ⟨?_, fun a => ?_⟩
    · refine Statement.keeps_isVault fun t v a t' represented changed => ?_
      have change : t.attachLabel ⟨.text name, id⟩ = .ok (a, t') := changed
      rcases represented.attachLabel id name with ⟨-, full⟩ | attached
      · cases full.symm.trans change
      · cases found : v.entries.get? id with
        | none =>
          rw [found] at attached
          cases attached.symm.trans change
        | some e =>
          rw [found] at attached
          obtain ⟨answer, t'', equal, represents, -⟩ := attached
          cases equal.symm.trans change
          exact ⟨_, represents⟩
    · cases a with
      | some labelId => trivial
      | none => exact ⟨Statement.keeps_reading _ _ _ _, fun _ => trivial⟩
  | deleteLabels id patterns =>
    refine Plan.keeps_send_answer (Statement.keeps_isVault fun t v a t' represented changed => ?_)
    have given : patterns ≠ [] := by
      intro none
      subst none
      cases accepted
    rcases represented.change_deleteLabels id given with ⟨e, failed, -⟩ | ⟨t'', deleted, represents⟩
    · cases failed.symm.trans changed
    · cases deleted.symm.trans changed
      exact ⟨_, represents⟩
  | searchColumn _ _ | searchIds _ | searchLabelsAndName _ _ =>
    exact ⟨Statement.keeps_reading _ _ _ _, fun _ => trivial⟩

end Operation

theorem Engine.Database.Reachable.isVault {d : Database} (reachable : d.Reachable) :
    d.Holds Tables.IsVault :=
  reachable.holds ⟨.empty, represents_empty⟩ Operation.keeps_isVault

end SecretVault
