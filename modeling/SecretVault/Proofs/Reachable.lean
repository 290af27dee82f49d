import SecretVault.Session
import SecretVault.Proofs.Performing

/-!
Databases that come about by the use of a vault. What every statement of every operation keeps holds
of the stored tables and of those in an open transaction, whether operations are stopped or not.
Sessions reach nothing else.
-/
namespace SecretVault
open SecretVault.Engine

namespace Engine.Database

/-- Reached from a new vault by operations with any tokens, by beginning and ending transactions,
and by opening again what was stored. -/
inductive Reachable : Database → Prop where
  | fresh : Reachable .fresh
  | operate {c : Connection} (op : Operation) (schedule : Schedule) (token : Token)
      (before : Reachable c.database) : Reachable (op.run schedule token c).2.database
  | begin {d : Database} (before : Reachable d) : Reachable d.begin.2
  | commit {d : Database} (before : Reachable d) : Reachable d.commit.2
  | rollback {d : Database} (before : Reachable d) : Reachable d.rollback.2
  | reopen {d : Database} (before : Reachable d) : Reachable (.ofTables d.committed)

/-- A property of the stored tables and of those in an open transaction. -/
structure Holds (P : Tables → Prop) (d : Database) : Prop where
  committed : P d.committed
  working : ∀ t, d.working = some t → P t

variable {P : Tables → Prop} {d : Database}

theorem holds_ofTables {t : Tables} (holds : P t) : Holds P (.ofTables t) := ⟨holds, nofun⟩

theorem Holds.current (holds : Holds P d) : P d.current := by
  obtain ⟨committed, working⟩ := d
  cases working with
  | none => exact holds.committed
  | some t => exact holds.working t rfl

theorem Holds.put (holds : Holds P d) {t : Tables} (changed : P t) : Holds P (d.put t) := by
  obtain ⟨committed, working⟩ := d
  cases working with
  | none => exact ⟨changed, nofun⟩
  | some w => exact ⟨holds.committed, fun _ equal => Option.some.inj equal ▸ changed⟩

theorem Holds.abandon (holds : Holds P d) : Holds P d.abandon := ⟨holds.committed, nofun⟩

theorem Holds.begin (holds : Holds P d) : Holds P d.begin.2 := by
  unfold Database.begin
  split
  · exact holds
  · exact ⟨holds.committed, fun _ equal => Option.some.inj equal ▸ holds.committed⟩

theorem Holds.commit (holds : Holds P d) : Holds P d.commit.2 := by
  unfold Database.commit
  split
  · rename_i t working
    exact holds_ofTables (holds.working t working)
  · exact holds

theorem Holds.rollback (holds : Holds P d) : Holds P d.rollback.2 := by
  unfold Database.rollback
  split
  · exact holds.abandon
  · exact holds

end Engine.Database

/-- A property that a statement keeps when it succeeds. -/
def Engine.Statement.Keeps {α : Type} (statement : Statement α) (P : Tables → Prop) : Prop :=
  ∀ t a t', P t → statement.change t = .ok (a, t') → P t'

theorem Engine.Statement.keeps_reading {α : Type} (sql : String) (params : List Param)
    (answer : Tables → Except Error α) (P : Tables → Prop) :
    (Statement.reading sql params answer).Keeps P := by
  intro t a t' holds changed
  rw [Statement.eq_of_reading changed]
  exact holds

namespace Plan
variable {α : Type} {P : Tables → Prop}

/-- A property that every statement of a plan keeps. -/
def Keeps (P : Tables → Prop) : Plan α → Prop
  | .answer _ => True
  | .send statement next => statement.Keeps P ∧ ∀ a, (next a).Keeps P

/-- A plan of one statement. -/
theorem keeps_send_answer {β : Type} {statement : Statement β} {result : β → Except StoreError α}
    (keeps : statement.Keeps P) :
    (Plan.send statement fun b => .answer (result b)).Keeps P :=
  ⟨keeps, fun _ => trivial⟩

theorem holds_send {β : Type} {statement : Statement β} (keeps : statement.Keeps P)
    {c : Connection} (holds : c.database.Holds P) (schedule : Schedule) :
    (c.send schedule statement).2.database.Holds P := by
  simp only [Connection.send_eq]
  split
  · split
    · exact holds.abandon
    · exact holds
  · simp only [Database.apply]
    split
    · rename_i a t changed
      exact holds.put (keeps _ _ _ holds.current changed)
    · split
      · exact holds.abandon
      · exact holds

theorem Keeps.run {plan : Plan α} (keeps : plan.Keeps P) {c : Connection}
    (holds : c.database.Holds P) (schedule : Schedule) :
    (plan.run schedule c).2.database.Holds P := by
  induction plan generalizing c with
  | answer result => exact holds
  | send statement next ih =>
    have sent := holds_send keeps.1 holds schedule
    rw [Plan.run]
    cases answered : c.send schedule statement with
    | mk result c' =>
      rw [answered] at sent
      cases result with
      | ok a => exact ih a (keeps.2 a) sent
      | error e => exact sent

end Plan

theorem Operation.holds_run {op : Operation} {P : Tables → Prop}
    (keeps : op.refusal? = none → op.plan.Keeps P) {c : Connection}
    (holds : c.database.Holds P) (schedule : Schedule) (token : Token) :
    (op.run schedule token c).2.database.Holds P := by
  rcases op.database_run schedule token c with same | ⟨accepted, ran⟩
  · rw [same]
    exact holds
  · rw [ran]
    refine (keeps accepted).run ?_ schedule
    exact holds

/-- What holds of a new vault and is kept by every operation holds of all reachable databases. -/
theorem Engine.Database.Reachable.holds {P : Tables → Prop} (new : P .empty)
    (keeps : ∀ op : Operation, op.refusal? = none → op.plan.Keeps P) {d : Database}
    (reachable : d.Reachable) : d.Holds P := by
  induction reachable with
  | fresh => exact ⟨new, nofun⟩
  | operate op schedule token before ih => exact Operation.holds_run (keeps op) ih schedule token
  | begin before ih => exact ih.begin
  | commit before ih => exact ih.commit
  | rollback before ih => exact ih.rollback
  | reopen before ih => exact Database.holds_ofTables ih.committed

namespace Engine.Database

/-- What operations leave of a database one after the other, with nobody to stop them. -/
def after (d : Database) (operations : List Operation) : Database :=
  operations.foldl (fun d op => (op.perform d).2) d

theorem after_append (d : Database) (first later : List Operation) :
    d.after (first ++ later) = (d.after first).after later :=
  List.foldl_append

theorem Reachable.perform {d : Database} (before : d.Reachable) (op : Operation) :
    (op.perform d).2.Reachable := by
  have live : op.EndsLive (fun _ => none) 0 (.opened d) := Operation.endsLive_of_never rfl op _
  have same : (op.run (fun _ => none) 0 (.opened d)).2.database = (op.perform d).2 :=
    (Operation.run_of_live live).2
  rw [← same]
  exact .operate op _ _ before

theorem Reachable.after {d : Database} (before : d.Reachable) (operations : List Operation) :
    (d.after operations).Reachable := by
  induction operations generalizing d with
  | nil => exact before
  | cons op rest ih => exact ih (before.perform op)

end Engine.Database

namespace Session

theorem reachable_reply {s : Session} (reachable : s.connection.database.Reachable)
    (r : Request) : (s.reply r).2.connection.database.Reachable := by
  cases r with
  | store operation => exact .operate operation live token reachable
  | begin => exact .begin reachable
  | commit => exact .commit reachable
  | abandon => exact .rollback reachable
  | print _ | flush | readInput | prompt _ | runHook _ => exact reachable

/-- Whatever a script asks for, a session keeps to reachable databases. -/
theorem reachable_carryOut {α : Type} (script : Script α) {s : Session}
    (reachable : s.connection.database.Reachable) :
    (carryOut script s).2.connection.database.Reachable := by
  induction script generalizing s with
  | done a => exact reachable
  | fail failure => exact reachable
  | ask request next ih => exact ih _ (reachable_reply reachable request)

end Session
end SecretVault
