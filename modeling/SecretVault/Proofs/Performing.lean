import SecretVault.Operation

/-!
Operations with nobody to stop them. Under a token that is live until it has ended, an operation
depends on the database alone.
-/
namespace SecretVault
open SecretVault.Engine

namespace Engine.Database

@[simp] theorem current_put (d : Database) (t : Tables) : (d.put t).current = t := by
  obtain ⟨committed, working⟩ := d
  cases working <;> rfl

@[simp] theorem put_current (d : Database) : d.put d.current = d := by
  obtain ⟨committed, working⟩ := d
  cases working <;> rfl

end Engine.Database

/-- A statement that reads leaves the tables as they are. -/
theorem Engine.Statement.eq_of_reading {α : Type} {sql : String} {params : List Param}
    {answer : Tables → Except Error α} {t t' : Tables} {a : α}
    (changed : (Statement.reading sql params answer).change t = .ok (a, t')) : t' = t := by
  simp only [Statement.change_reading] at changed
  cases answered : answer t with
  | error e =>
    rw [answered] at changed
    cases changed
  | ok b =>
    rw [answered] at changed
    cases changed
    rfl

/-- A token that is live was live before. -/
theorem Engine.Schedule.live_before {schedule : Schedule} {token : Token} {moment earlier : Nat}
    (live : schedule.cancelled token moment = false) (before : earlier ≤ moment) :
    schedule.cancelled token earlier = false := by
  cases cancels : schedule token with
  | none => simp [cancelled, cancels]
  | some since =>
    simp only [cancelled, cancels, Option.any_some, decide_eq_false_iff_not] at live ⊢
    omega

namespace Plan
variable {α : Type}

/-- Sends the statements of a plan to a database, none of them being stopped. -/
def perform : Plan α → Database → Except StoreError α × Database
  | .answer result, d => (result, d)
  | .send statement next, d =>
    match d.apply statement.change with
    | (.ok a, d) => (next a).perform d
    | (.error e, d) => (.error (.ofEngine e), d)

/-- A statement is not stopped if the token that the engine looks at is live after it. -/
theorem send_of_live {β : Type} {schedule : Schedule} {token : Token} {c : Connection}
    (looks : c.handler = some token) (statement : Statement β)
    (live : schedule.cancelled token (c.clock + statement.checks) = false) :
    c.send schedule statement =
      ((c.database.apply statement.change).1,
        { c with
          clock := c.clock + statement.checks
          database := (c.database.apply statement.change).2 }) := by
  have lastLook : schedule.cancelled token (c.clock + statement.checks - 1) = false :=
    Schedule.live_before live (Nat.sub_le _ _)
  have runs : c.stops schedule statement.checks = false := by
    simp [Connection.stops, looks, lastLook]
  simp [Connection.send_eq, runs]

/-- A statement that answers has not been stopped. -/
theorem apply_of_send {β : Type} {schedule : Schedule} {statement : Statement β} {c : Connection}
    {answer : β} (sent : (c.send schedule statement).1 = .ok answer) :
    c.database.apply statement.change = (.ok answer, (c.send schedule statement).2.database) := by
  rw [Connection.send_eq] at sent ⊢
  split at sent
  · cases sent
  · rename_i runs
    rw [if_neg runs]
    exact Prod.ext sent rfl

theorem clock_send {β : Type} (c : Connection) (schedule : Schedule) (statement : Statement β) :
    (c.send schedule statement).2.clock = c.clock + statement.checks := by
  simp only [Connection.send_eq]
  split
  · split <;> rfl
  · rfl

/-- Time does not go back. -/
theorem clock_le_run (plan : Plan α) (schedule : Schedule) (c : Connection) :
    c.clock ≤ (plan.run schedule c).2.clock := by
  induction plan generalizing c with
  | answer result => exact Nat.le_refl _
  | send statement next ih =>
    have later := clock_send c schedule statement
    rw [run]
    cases sent : c.send schedule statement with
    | mk result c' =>
      rw [sent] at later
      have passed : c.clock ≤ c'.clock := by
        rw [later]
        exact Nat.le_add_right _ _
      cases result with
      | ok a => exact Nat.le_trans passed (ih a c')
      | error e => exact passed

theorem run_of_live {schedule : Schedule} {token : Token} (plan : Plan α) (c : Connection)
    (looks : c.handler = some token)
    (live : schedule.cancelled token (plan.run schedule c).2.clock = false) :
    (plan.run schedule c).1 = (plan.perform c.database).1 ∧
      (plan.run schedule c).2.database = (plan.perform c.database).2 := by
  induction plan generalizing c with
  | answer result => exact ⟨rfl, rfl⟩
  | send statement next ih =>
    have clock := clock_send c schedule statement
    rw [run] at live ⊢
    cases sent : c.send schedule statement with
    | mk result c' =>
      rw [sent] at live clock
      have liveThen : schedule.cancelled token (c.clock + statement.checks) = false := by
        rw [← clock]
        cases result with
        | ok a => exact Schedule.live_before live (clock_le_run (next a) schedule c')
        | error e => exact live
      rw [send_of_live looks statement liveThen, Prod.mk.injEq] at sent
      obtain ⟨answer, rfl⟩ := sent
      rw [perform]
      cases applied : c.database.apply statement.change with
      | mk answered d =>
        rw [applied] at answer live
        subst answer
        cases answered with
        | error e => exact ⟨rfl, rfl⟩
        | ok a => exact ih a _ looks live

/-- A plan that is stopped tells so. Otherwise its token has made no difference. -/
theorem run_cancelled_or_eq (plan : Plan α) (schedule : Schedule) {never : Schedule}
    (live : ∀ token, never token = none) (c : Connection) :
    (plan.run schedule c).1 = .error .cancelled ∨ plan.run schedule c = plan.run never c := by
  induction plan generalizing c with
  | answer result => exact .inr rfl
  | send statement next ih =>
    have goesOn : c.stops never statement.checks = false := by
      unfold Connection.stops
      split <;> simp [Schedule.cancelled, live]
    cases stops : c.stops schedule statement.checks with
    | true =>
      refine .inl ?_
      simp only [run, Connection.send_eq, stops, if_true, StoreError.ofEngine]
    | false =>
      have same : c.send schedule statement = c.send never statement := by
        simp only [Connection.send_eq, stops, goesOn]
      rw [run, run, same]
      cases c.send never statement with
      | mk result c' =>
        cases result with
        | ok a => exact ih a c'
        | error e => exact .inr rfl

/-- A plan that answers has run to its end. -/
theorem perform_of_run {schedule : Schedule} {plan : Plan α} {c : Connection} {answer : α}
    (answered : (plan.run schedule c).1 = .ok answer) :
    plan.perform c.database = (.ok answer, (plan.run schedule c).2.database) := by
  induction plan generalizing c with
  | answer result => exact Prod.ext answered rfl
  | send statement next ih =>
    rw [run] at answered ⊢
    cases sent : c.send schedule statement with
    | mk result c' =>
      rw [sent] at answered
      cases result with
      | error e => cases answered
      | ok a =>
        have applied := apply_of_send (congrArg Prod.fst sent)
        rw [sent] at applied
        rw [perform, applied]
        exact ih a answered

/-- A statement that answers is followed by the rest of the plan. -/
theorem perform_send_of_ok {β : Type} {statement : Statement β} {next : β → Plan α}
    {d : Database} {answer : β} {t : Tables}
    (changed : statement.change d.current = .ok (answer, t)) :
    (send statement next).perform d = (next answer).perform (d.put t) := by
  rw [perform, Database.apply, changed]

theorem perform_send_of_error {β : Type} {statement : Statement β} {next : β → Plan α}
    {d : Database} {e : Engine.Error} (failed : statement.change d.current = .error e) :
    (send statement next).perform d =
      (.error (.ofEngine e), if e.endsTransaction then d.abandon else d) := by
  rw [perform, Database.apply, failed]

end Plan

namespace Operation

/-- Performs an operation on a database, with nobody to stop it. -/
def perform (op : Operation) (d : Database) : Except StoreError op.Answer × Database :=
  match op.refusal? with
  | some p => (.error (.precondition p), d)
  | none => op.plan.perform d

/-- Arguments that are refused are so before anything else. -/
theorem run_of_refused {op : Operation} {p : Precondition} (refused : op.refusal? = some p)
    (schedule : Schedule) (token : Token) (c : Connection) :
    op.run schedule token c = (.error (.precondition p), c) := by
  rw [run, refused]

/-- With a token that is cancelled already, only the look at it takes time. -/
theorem run_of_late {op : Operation} {schedule : Schedule} {token : Token} {c : Connection}
    (accepted : op.refusal? = none) (late : schedule.cancelled token c.clock = true) :
    op.run schedule token c = (.error .cancelled, { c with clock := c.clock + 1 }) := by
  rw [run, accepted, Connection.install, if_pos late]

/-- With a token that is live yet, the engine looks at it until the plan has been run. -/
theorem run_of_begun {op : Operation} {schedule : Schedule} {token : Token} {c : Connection}
    (accepted : op.refusal? = none) (live : schedule.cancelled token c.clock = false) :
    let ran := op.plan.run schedule { c with handler := some token, clock := c.clock + 1 }
    op.run schedule token c = (ran.1, ran.2.uninstall) := by
  simp only [run, accepted, Connection.install, live, Bool.false_eq_true, if_false]

/-- An operation whose arguments are accepted and whose token is live yet sends its statements. -/
theorem run_of_accepted {op : Operation} {schedule : Schedule} {token : Token} {c : Connection}
    (accepted : op.refusal? = none) (live : schedule.cancelled token c.clock = false) :
    let looking := { c with handler := some token, clock := c.clock + 1 }
    (op.run schedule token c).1 = (op.plan.run schedule looking).1 ∧
      (op.run schedule token c).2.database = (op.plan.run schedule looking).2.database := by
  constructor <;> simp [run, accepted, Connection.install, live, Connection.uninstall]

/-- An operation leaves the database as it is or, if its arguments are accepted, as its statements
leave it. -/
theorem database_run (op : Operation) (schedule : Schedule) (token : Token) (c : Connection) :
    (op.run schedule token c).2.database = c.database ∨
      op.refusal? = none ∧ (op.run schedule token c).2.database =
        (op.plan.run schedule
          { c with handler := some token, clock := c.clock + 1 }).2.database := by
  unfold run Connection.install
  cases op.refusal? with
  | some p => exact .inl rfl
  | none =>
    cases schedule.cancelled token c.clock with
    | true => exact .inl rfl
    | false => exact .inr ⟨rfl, rfl⟩

/-- An operation ends before it sends a statement, with an error and the database as it was, or it
ends as its statements do. -/
theorem run_cases (op : Operation) (schedule : Schedule) (token : Token) (c : Connection) :
    (∃ e, (op.run schedule token c).1 = .error e) ∧
        (op.run schedule token c).2.database = c.database ∨
      let looking := { c with handler := some token, clock := c.clock + 1 }
      (op.run schedule token c).1 = (op.plan.run schedule looking).1 ∧
        (op.run schedule token c).2.database = (op.plan.run schedule looking).2.database := by
  unfold run Connection.install
  cases op.refusal? with
  | some p => exact .inl ⟨⟨_, rfl⟩, rfl⟩
  | none =>
    cases schedule.cancelled token c.clock with
    | true => exact .inl ⟨⟨_, rfl⟩, rfl⟩
    | false => exact .inr ⟨rfl, rfl⟩

/-- An operation that answers does so whatever its token. -/
theorem perform_of_run {op : Operation} {schedule : Schedule} {token : Token} {c : Connection}
    {answer : op.Answer} (answered : (op.run schedule token c).1 = .ok answer) :
    op.perform c.database = (.ok answer, (op.run schedule token c).2.database) := by
  cases refused : op.refusal? with
  | some p =>
    rw [run, refused] at answered
    cases answered
  | none =>
    cases cancelled : schedule.cancelled token c.clock with
    | true =>
      rw [run, refused] at answered
      simp only [Connection.install, cancelled, if_true] at answered
      cases answered
    | false =>
      obtain ⟨sameAnswer, sameDatabase⟩ := run_of_accepted refused cancelled
      rw [sameAnswer] at answered
      rw [perform, refused, sameDatabase]
      exact Plan.perform_of_run answered

/-- The token is live until the operation has ended. -/
def EndsLive (op : Operation) (schedule : Schedule) (token : Token) (c : Connection) : Prop :=
  schedule.cancelled token (op.run schedule token c).2.clock = false

instance (op : Operation) (schedule : Schedule) (token : Token) (c : Connection) :
    Decidable (op.EndsLive schedule token c) :=
  inferInstanceAs (Decidable (schedule.cancelled token (op.run schedule token c).2.clock = false))

/-- A token that is never cancelled. -/
theorem endsLive_of_never {schedule : Schedule} {token : Token} (never : schedule token = none)
    (op : Operation) (c : Connection) : op.EndsLive schedule token c := by
  simp [EndsLive, Schedule.cancelled, never]

/-- An operation that is stopped tells so. Otherwise its token has made no difference. -/
theorem run_cancelled_or_eq (op : Operation) (schedule : Schedule) {never : Schedule}
    (live : ∀ token, never token = none) (token : Token) (c : Connection) :
    (op.run schedule token c).1 = .error .cancelled ∨
      op.run schedule token c = op.run never token c := by
  cases refused : op.refusal? with
  | some p => exact .inr (by rw [run_of_refused refused, run_of_refused refused])
  | none =>
    cases late : schedule.cancelled token c.clock with
    | true => exact .inl (by rw [run_of_late refused late])
    | false =>
      have early : never.cancelled token c.clock = false := by simp [Schedule.cancelled, live]
      rw [run_of_begun refused late, run_of_begun refused early]
      rcases op.plan.run_cancelled_or_eq schedule live
          { c with handler := some token, clock := c.clock + 1 } with stopped | same
      · exact .inl stopped
      · exact .inr (by rw [same])

theorem run_of_live {schedule : Schedule} {token : Token} {op : Operation} {c : Connection}
    (live : op.EndsLive schedule token c) :
    (op.run schedule token c).1 = (op.perform c.database).1 ∧
      (op.run schedule token c).2.database = (op.perform c.database).2 := by
  cases refused : op.refusal? with
  | some p => simp [run, perform, refused]
  | none =>
    rw [EndsLive, run, refused] at live
    cases cancelled : schedule.cancelled token c.clock with
    | true =>
      simp only [Connection.install, cancelled, if_true] at live
      have earlier := Schedule.live_before live (Nat.le_succ c.clock)
      cases earlier.symm.trans cancelled
    | false =>
      simp only [Connection.install, cancelled, Bool.false_eq_true, if_false] at live
      obtain ⟨answer, database⟩ := run_of_accepted refused cancelled
      obtain ⟨sameAnswer, sameDatabase⟩ := Plan.run_of_live op.plan
        { c with handler := some token, clock := c.clock + 1 } rfl live
      rw [perform, refused]
      exact ⟨answer.trans sameAnswer, database.trans sameDatabase⟩

/-- A lookup of a master key that can be read. -/
theorem perform_queryMasterKey_of_text {d : Database} {key : Option String}
    (stored : d.current.masterKey = key.map .text) :
    queryMasterKey.perform d = (key.elim (.error (.notFound .masterKey)) .ok, d) := by
  have read : Statement.selectMasterKey.change d.current = .ok (key, d.current) := by
    simp only [Statement.selectMasterKey, Statement.change_reading, stored]
    cases key <;> rfl
  refine (Plan.perform_send_of_ok read).trans ?_
  rw [Database.put_current]
  rfl

end Operation
end SecretVault
