import SecretVault.Proofs.Command.Discipline
import SecretVault.Proofs.Failing

/-!
What each phase of a command says about the database. Every request that the discipline allows in a
phase leads to a database as the next phase has it, whether it succeeds or fails.
-/
namespace SecretVault
open SecretVault.Engine

namespace Operation
variable {c : Connection}

/-- Outside of a transaction a statement that reads leaves the database as it is, answered or
not. -/
theorem database_send_reading {α : Type} (idle : c.database.inTransaction = false)
    (schedule : Schedule) (sql : String) (params : List Param)
    (answer : Tables → Except Engine.Error α) :
    (c.send schedule (.reading sql params answer)).2.database = c.database := by
  have abandoned : c.database.abandon = c.database := by rw [Database.eq_ofTables idle]; rfl
  rw [Connection.send_eq]
  dsimp only
  split
  · rfl
  · simp only [Database.apply, Statement.change_reading]
    cases answer c.database.current with
    | ok a => exact Database.put_current c.database
    | error e => simp [Except.map, abandoned]

theorem database_run_plan_reading (idle : c.database.inTransaction = false)
    (schedule : Schedule) {op : Operation} (reads : op.writes = false) :
    (op.plan.run schedule c).2.database = c.database := by
  have single {α β : Type} (sql : String) (params : List Param)
      (answer : Tables → Except Engine.Error α) (result : α → Except StoreError β) :
      ((Plan.send (.reading sql params answer) fun a => .answer (result a)).run
        schedule c).2.database = c.database := by
    have unchanged := database_send_reading idle schedule sql params answer
    rw [Plan.run]
    split <;> rename_i sent <;> rw [sent] at unchanged <;> exact unchanged
  cases op with
  | queryMasterKey | readPayload _ | searchColumn _ _ | searchIds _ | searchLabelsAndName _ _ =>
    exact single _ _ _ _
  | _ => cases reads

/-- Outside of a transaction an operation that reads leaves the database as it is. -/
theorem database_run_reading (idle : c.database.inTransaction = false) {op : Operation}
    (reads : op.writes = false) (schedule : Schedule) (token : Token) :
    (op.run schedule token c).2.database = c.database := by
  rcases op.database_run schedule token c with unchanged | ⟨-, ran⟩
  · exact unchanged
  · rw [ran]
    exact database_run_plan_reading (c := { c with handler := some token, clock := c.clock + 1 })
      idle schedule reads

end Operation

namespace Phase

/-- What a database is like in a phase if these were the tables before. -/
def Allows (t : Tables) : Phase → Database → Prop
  | .before, d => d.inTransaction = false ∧ t.SameRows d.committed
  | .inside, d => d.inTransaction = true ∧ t.SameRows d.committed
  | .broken, d => t.SameRows d.committed
  | .after, d | .over, d => d.inTransaction = false

variable {t : Tables} {d : Database} {c : Connection}

theorem IsSettled.idle {p : Phase} (settled : p.IsSettled) (allows : p.Allows t d) :
    d.inTransaction = false := by
  rcases settled with rfl | rfl
  · exact allows.1
  · exact allows

theorem allows_look (allows : Phase.before.Allows t c.database) {op : Operation}
    (reads : op.writes = false) (schedule : Schedule) (token : Token) :
    Phase.before.Allows t (op.run schedule token c).2.database := by
  rw [Operation.database_run_reading allows.1 reads]
  exact allows

theorem allows_written (allows : Phase.before.Allows t c.database) (op : Operation)
    (schedule : Schedule) (token : Token) :
    Phase.after.Allows t (op.run schedule token c).2.database := by
  have stays := Operation.idle_run (Database.working_of_idle allows.1) op schedule token
  simp [Allows, Database.inTransaction, stays]

theorem allows_refused (allows : Phase.before.Allows t c.database) {op : Operation}
    {schedule : Schedule} {token : Token} {e : StoreError}
    (failed : (op.run schedule token c).1 = .error e) :
    Phase.before.Allows t (op.run schedule token c).2.database := by
  obtain ⟨idle, unwritten⟩ := allows
  have stored : c.database = .ofTables c.database.committed := by
    rw [Database.eq_ofTables idle]
    rfl
  obtain ⟨t', kept, same⟩ := Operation.sameRows_of_failed stored failed
  rw [kept]
  exact ⟨rfl, unwritten.trans same⟩

/-- In a transaction nothing is stored. -/
theorem allows_step (allows : Phase.inside.Allows t c.database) (op : Operation)
    (schedule : Schedule) (token : Token) :
    Phase.broken.Allows t (op.run schedule token c).2.database := by
  obtain ⟨inside, unwritten⟩ := allows
  obtain ⟨w, opened⟩ := Option.isSome_iff_exists.mp inside
  have database : c.database = ⟨c.database.committed, some w⟩ := by rw [← opened]
  rcases op.run_inTransaction schedule token database with ⟨-, ended⟩ | ⟨-, w', kept⟩
  · rw [ended]
    exact unwritten
  · rw [kept]
    exact unwritten

/-- A transaction stays open as long as its steps are answered. -/
theorem allows_taken (allows : Phase.inside.Allows t c.database) {op : Operation}
    {schedule : Schedule} {token : Token} {a : op.Answer}
    (answered : (op.run schedule token c).1 = .ok a) :
    Phase.inside.Allows t (op.run schedule token c).2.database := by
  obtain ⟨inside, unwritten⟩ := allows
  obtain ⟨w, opened⟩ := Option.isSome_iff_exists.mp inside
  have database : c.database = ⟨c.database.committed, some w⟩ := by rw [← opened]
  -- A step that is answered comes to the same as under a token that is never cancelled.
  let never : Schedule := fun _ => none
  have live : op.EndsLive never token c := Operation.endsLive_of_never rfl op c
  obtain ⟨answer, same⟩ := Operation.run_of_live live
  rw [Operation.perform_of_run answered] at answer same
  dsimp only at answer same
  rcases op.run_inTransaction never token database with ⟨breaks, -⟩ | ⟨-, w', kept⟩
  · obtain ⟨-, full | ⟨-, -, -, cancelled⟩⟩ := breaks
    · rw [answer] at full
      cases full
    · simp [Schedule.cancelled, never] at cancelled
  · rw [← same, kept]
    exact ⟨rfl, unwritten⟩

theorem allows_begin (allows : Phase.before.Allows t d) :
    d.begin.1 = .ok () ∧ Phase.inside.Allows t d.begin.2 := by
  obtain ⟨idle, unwritten⟩ := allows
  rw [Database.begin, idle]
  exact ⟨rfl, rfl, unwritten⟩

theorem allows_commit (allows : Phase.inside.Allows t d) :
    d.commit.1 = .ok () ∧ Phase.after.Allows t d.commit.2 := by
  obtain ⟨w, opened⟩ := Option.isSome_iff_exists.mp allows.1
  simp [Database.commit, opened, Allows, Database.inTransaction, Database.ofTables]

theorem allows_abandon (allows : Phase.broken.Allows t d) :
    Phase.before.Allows t d.rollback.2 := by
  unfold Database.rollback
  split
  · exact ⟨rfl, allows⟩
  · rename_i idle
    exact ⟨by simpa using idle, allows⟩

end Phase

end SecretVault
