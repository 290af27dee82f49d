import SecretVault.Proofs.LabelRows
import SecretVault.Proofs.Reachable

/-!
Changes of the tables. Every statement that an operation sends makes one of a few changes, so what
these keep holds wherever a vault is used.
-/
namespace SecretVault
open SecretVault.Engine

namespace Engine.Tables

/-- What one statement may make of the tables. -/
inductive Changed (t : Tables) : Tables → Prop where
  | unchanged : Changed t t
  | putMasterKey (key : Cell) : Changed t (t.putMasterKey key)
  | addSecret (id : Int) (secret : StoredSecret) : Changed t (t.addSecret id secret)
  /-- The secret under an id is replaced by another. -/
  | replaceSecret {id : Int} {old : StoredSecret} (stored : t.secrets.get? id = some old)
      (secret : StoredSecret) : Changed t { t with secrets := t.secrets.insert id secret }
  | deleteSecrets (ids : List Int) : Changed t (t.deleteSecrets ids).2
  | addLabel {id : Int} (drawn : nextId t.labels t.labelCount = .ok id) (label : StoredLabel) :
      Changed t (t.addLabel id label)
  /-- An id is drawn for a label that is there already. -/
  | countLabel {id : Int} (drawn : nextId t.labels t.labelCount = .ok id) :
      Changed t { t with labelCount := id }
  | deleteLabels (selected : Int → StoredLabel → Bool) : Changed t (t.deleteLabels selected).2

variable {t t' : Tables}

theorem changed_of_insertSecret {secret : StoredSecret} {id : Int}
    (created : t.insertSecret secret = .ok (id, t')) : t.Changed t' := by
  unfold insertSecret at created
  cases drawn : nextId t.secrets t.secretCount with
  | error e =>
    rw [drawn] at created
    cases created
  | ok next =>
    rw [drawn] at created
    cases created
    exact .addSecret _ _

theorem changed_upsertPayload (t : Tables) (id : Int) (payload : Cell) :
    t.Changed (t.upsertPayload id payload).2 := by
  unfold upsertPayload
  split
  · exact .addSecret _ _
  · exact .addSecret _ _

theorem changed_renameSecret (t : Tables) (id : Int) (name : Cell) :
    t.Changed (t.renameSecret id name).2 := by
  unfold renameSecret
  split
  · rename_i secret stored
    exact .replaceSecret stored _
  · exact .unchanged

theorem changed_of_attachLabel {label : StoredLabel} {answer : Option Int}
    (attached : t.attachLabel label = .ok (answer, t')) : t.Changed t' := by
  rw [attachLabel_eq] at attached
  cases drawn : nextId t.labels t.labelCount with
  | error e =>
    rw [drawn] at attached
    cases attached
  | ok id =>
    simp only [drawn, bind, Except.bind] at attached
    split at attached
    · cases attached
      exact .countLabel drawn
    · split at attached
      · cases attached
        exact .addLabel drawn label
      · cases attached

end Engine.Tables

namespace Engine.Statement
variable {t t' : Tables} {n : Nat}

theorem eq_of_deleteSecrets {ids : List Int}
    (changed : (deleteSecrets ids).change t = .ok (n, t')) : t.deleteSecrets ids = (n, t') := by
  rw [change_deleteSecrets] at changed
  cases limits : withinLimits (deleteSecretsQuery ids) false with
  | error e =>
    rw [limits] at changed
    cases changed
  | ok =>
    rw [limits] at changed
    exact Except.ok.inj changed

theorem eq_of_deleteLabels {id : Int} {patterns : List String}
    (changed : (deleteLabels id patterns).change t = .ok (n, t')) :
    ∃ selected, t.deleteLabels selected = (n, t') := by
  rw [change_deleteLabels] at changed
  cases limits : withinLimits (deleteLabelsQuery id patterns) false with
  | error e =>
    rw [limits] at changed
    cases changed
  | ok =>
    rw [limits] at changed
    cases matching : matchingLabels t id (.globAny .label patterns) with
    | error e =>
      simp only [matching, bind, Except.bind] at changed
      cases changed
    | ok selected =>
      simp only [matching, bind, Except.bind] at changed
      exact ⟨_, Except.ok.inj changed⟩

/-- A statement that makes none but the changes above. -/
def MakesChanges {α : Type} (statement : Statement α) : Prop :=
  ∀ t a t', statement.change t = .ok (a, t') → t.Changed t'

theorem makesChanges_reading {α : Type} (sql : String) (params : List Param)
    (answer : Tables → Except Error α) : (reading sql params answer).MakesChanges := by
  intro t a t' changed
  rw [eq_of_reading changed]
  exact .unchanged

end Engine.Statement

/-- Every statement of a plan makes none but these changes. -/
def Plan.MakesChanges {α : Type} : Plan α → Prop
  | .answer _ => True
  | .send statement next => statement.MakesChanges ∧ ∀ a, (next a).MakesChanges

theorem Plan.MakesChanges.keeps {α : Type} {plan : Plan α} (makes : plan.MakesChanges)
    {P : Tables → Prop} (keeps : ∀ t t', P t → t.Changed t' → P t') : plan.Keeps P := by
  induction plan with
  | answer result => trivial
  | send statement next ih =>
    refine ⟨fun t a t' holds changed => ?_, fun a => ih a (makes.2 a)⟩
    exact keeps t t' holds (makes.1 t a t' changed)

theorem Operation.makesChanges (op : Operation) : op.plan.MakesChanges := by
  cases op with
  | insertMasterKey key =>
    refine ⟨fun t a t' changed => ?_, fun _ => trivial⟩
    cases changed
    exact .putMasterKey _
  | insertSecret name payload =>
    exact ⟨fun t id t' created => Tables.changed_of_insertSecret created, fun _ => trivial⟩
  | upsertSecret id payload =>
    refine ⟨fun t n t' changed => ?_, fun _ => trivial⟩
    have change : t.upsertPayload id (.text payload) = (n, t') := Except.ok.inj changed
    have made := t.changed_upsertPayload id (.text payload)
    rwa [change] at made
  | renameSecret id name =>
    refine ⟨fun t n t' changed => ?_, fun _ => trivial⟩
    have change : t.renameSecret id (.text name) = (n, t') := Except.ok.inj changed
    have made := t.changed_renameSecret id (.text name)
    rwa [change] at made
  | deleteSecrets ids =>
    refine ⟨fun t n t' changed => ?_, fun _ => trivial⟩
    cases Statement.eq_of_deleteSecrets changed
    exact .deleteSecrets ids
  | insertLabel name id =>
    refine ⟨fun t answer t' attached => Tables.changed_of_attachLabel attached, fun answer => ?_⟩
    cases answer with
    | some labelId => trivial
    | none => exact ⟨Statement.makesChanges_reading _ _ _, fun _ => trivial⟩
  | deleteLabels id patterns =>
    refine ⟨fun t n t' changed => ?_, fun _ => trivial⟩
    obtain ⟨selected, change⟩ := Statement.eq_of_deleteLabels changed
    cases change
    exact .deleteLabels selected
  | queryMasterKey | readPayload _ | searchColumn _ _ | searchIds _ | searchLabelsAndName _ _ =>
    exact ⟨Statement.makesChanges_reading _ _ _, fun _ => trivial⟩

/-- What every change keeps, every operation keeps. -/
theorem Operation.keeps_of_changed {P : Tables → Prop} (keeps : ∀ t t', P t → t.Changed t' → P t')
    (op : Operation) : op.plan.Keeps P :=
  op.makesChanges.keeps keeps

end SecretVault
