import SecretVault.Proofs.Failing
import SecretVault.Proofs.Transaction.Rollback

/-!
What a committed transaction leaves. As long as no call breaks off, calls in a transaction answer
and change what the connection sees just as they do without one, and in the end the commit stores
what they would have stored one by one. A call that fails on the way undoes only itself.
-/
namespace SecretVault
open SecretVault.Engine

namespace Engine.Connection
variable {c : Connection} {t : Tables} {schedule : Schedule}

/-- The connection in a transaction that began when these tables were stored, with all that the
connection sees done in the transaction. -/
def within (c : Connection) (t : Tables) : Connection := c.holding ⟨t, some c.database.current⟩

/-- A statement does the same in the transaction, or fails and ends it. -/
theorem send_within {α : Type} (idle : c.database.working = none) (t : Tables)
    (schedule : Schedule) (statement : Statement α) :
    (c.within t).send schedule statement =
        ((c.send schedule statement).1, (c.send schedule statement).2.within t) ∨
      ∃ e, ((c.within t).send schedule statement).1 = .error e ∧
        ((c.within t).send schedule statement).2.database = .ofTables t := by
  obtain ⟨⟨w, working⟩, handler, clock, settings, isReady⟩ := c
  obtain rfl : working = none := idle
  generalize here : Connection.mk ⟨w, none⟩ handler clock settings isReady = c
  generalize inside : c.within t = c'
  have same : c' = ⟨⟨t, some w⟩, handler, clock, settings, isReady⟩ := by
    rw [← inside, ← here]
    rfl
  subst here
  cases stops : (Connection.mk ⟨w, none⟩ handler clock settings isReady).stops schedule
      statement.checks with
  | true =>
    have stopsInside : c'.stops schedule statement.checks = true := by rw [same]; exact stops
    simp only [send_eq, stops, stopsInside, if_true]
    cases writes : statement.writes with
    | true =>
      refine .inr ⟨.interrupted, rfl, ?_⟩
      rw [same]
      rfl
    | false =>
      refine .inl ?_
      rw [same]
      rfl
  | false =>
    have runsInside : c'.stops schedule statement.checks = false := by rw [same]; exact stops
    simp only [send_eq, stops, runsInside, Bool.false_eq_true, if_false]
    rw [same]
    simp only [Database.apply, Database.current, Option.getD_some, Option.getD_none]
    cases changed : statement.change w with
    | ok result => exact .inl rfl
    | error e =>
      cases ends : e.endsTransaction with
      | true => exact .inr ⟨e, rfl, by simp [ends, Database.abandon, Database.ofTables]⟩
      | false => exact .inl (by simp [ends, within, holding, Database.current])

end Engine.Connection

theorem Plan.run_within {α : Type} (plan : Plan α) {c : Connection}
    (idle : c.database.working = none) (t : Tables) (schedule : Schedule) :
    plan.run schedule (c.within t) =
        ((plan.run schedule c).1, (plan.run schedule c).2.within t) ∨
      (plan.run schedule (c.within t)).2.database = .ofTables t := by
  induction plan generalizing c with
  | answer result => exact .inl rfl
  | send statement next ih =>
    have stays := Connection.idle_send idle schedule statement
    rw [Plan.run, Plan.run]
    rcases Connection.send_within idle t schedule statement with alike | ⟨e, failed, ended⟩
    · rw [alike]
      cases sent : c.send schedule statement with
      | mk result c' =>
        rw [sent] at stays
        cases result with
        | ok a => exact ih a stays
        | error e => exact .inl rfl
    · cases sent : (c.within t).send schedule statement with
      | mk result c' =>
        rw [sent] at failed ended
        cases failed
        exact .inr ended

namespace Operation
variable {c : Connection} {t : Tables} {schedule : Schedule}

theorem run_within (idle : c.database.working = none) (op : Operation) (token : Token) :
    op.run schedule token (c.within t) =
        ((op.run schedule token c).1, (op.run schedule token c).2.within t) ∨
      (op.run schedule token (c.within t)).2.database = .ofTables t := by
  cases refused : op.refusal? with
  | some p => exact .inl (by simp [run, refused])
  | none =>
    cases cancelled : schedule.cancelled token c.clock with
    | true =>
      have cancelledInside : schedule.cancelled token (c.within t).clock = true := cancelled
      refine .inl ?_
      simp only [run, refused, Connection.install, cancelled, cancelledInside, if_true]
      rfl
    | false =>
      have liveInside : schedule.cancelled token (c.within t).clock = false := cancelled
      simp only [run, refused, Connection.install, cancelled, liveInside, Bool.false_eq_true,
        if_false]
      have looking := op.plan.run_within (c := { c with handler := some token, clock := c.clock + 1 })
        idle t schedule
      rcases looking with alike | ended
      · refine .inl ?_
        have ran : op.plan.run schedule
            { c.within t with handler := some token, clock := (c.within t).clock + 1 } = _ := alike
        rw [ran]
        rfl
      · exact .inr ended

/-- A call that does not break off does in the transaction what it does without one. -/
theorem run_within_of_goesOn (idle : c.database.working = none) {op : Operation} {token : Token}
    (goesOn : ¬ Call.BreaksOff ⟨op, token⟩ schedule (c.within t)) :
    op.run schedule token (c.within t) =
      ((op.run schedule token c).1, (op.run schedule token c).2.within t) := by
  refine (run_within idle op token).resolve_right fun ended => ?_
  have opened : (c.within t).database = ⟨t, some c.database.current⟩ := rfl
  rcases op.run_inTransaction schedule token opened with ⟨breaks, -⟩ | ⟨-, w, kept⟩
  · exact goesOn breaks
  · rw [kept] at ended
    cases ended

end Operation

namespace Engine.Connection
variable {c : Connection} {t : Tables} {schedule : Schedule}

theorem calls_within (calls : List Call) (idle : c.database.working = none)
    (goesOn : ∀ before call later, calls = before ++ call :: later →
      ¬ call.BreaksOff schedule ((c.within t).afterCalls schedule before)) :
    (c.within t).exchanges schedule calls = c.exchanges schedule calls ∧
      (c.within t).afterCalls schedule calls = (c.afterCalls schedule calls).within t := by
  induction calls generalizing c with
  | nil => exact ⟨rfl, rfl⟩
  | cons call rest ih =>
    have first := Operation.run_within_of_goesOn idle (goesOn [] call rest rfl)
    have later := ih (c := (call.operation.run schedule call.token c).2)
      (Operation.idle_run idle call.operation schedule call.token) fun before other others split =>
        by
          have further := goesOn (call :: before) other others (by rw [split]; rfl)
          rw [afterCalls_cons, first] at further
          exact further
    rw [afterCalls_cons, afterCalls_cons, exchanges, exchanges, first]
    exact ⟨congrArg _ later.1, later.2⟩

/-- A transaction that is still open in the end has not been broken off. -/
theorem not_breaksOff_of_inTransaction (idle : c.database.inTransaction = false)
    {calls : List Call}
    (opened : (c.begun.afterCalls schedule calls).database.inTransaction = true) :
    ∀ before call later, calls = before ++ call :: later →
      ¬ call.BreaksOff schedule (c.begun.afterCalls schedule before) := by
  intro before call later split breaks
  obtain ⟨t, -, begun⟩ := begun_opened idle
  have ended := database_of_breaksOff begun breaks
  have stays := @idle_afterCalls schedule later (c.begun.afterCalls schedule (before ++ [call]))
    (by rw [ended]; rfl)
  have whole : calls = (before ++ [call]) ++ later := by simp [split]
  rw [whole, afterCalls_append, Database.inTransaction, stays] at opened
  cases opened

theorem begun_eq_within (idle : c.database.working = none) :
    c.begun = c.within c.database.current := by
  obtain ⟨⟨committed, working⟩, handler, clock⟩ := c
  obtain rfl : working = none := idle
  rfl

/-- Committing stores what the connection sees. -/
theorem commit_within (idle : c.database.working = none) (t : Tables) :
    (c.within t).database.commit = (.ok (), c.database) := by
  obtain ⟨⟨committed, working⟩, handler, clock⟩ := c
  obtain rfl : working = none := idle
  rfl

end Engine.Connection

/-- Calls in a transaction of which none breaks off answer the same, one by one, as without it. The
commit succeeds and leaves the tables, and with them all later answers and ids, that the calls leave
one by one. A call that fails keeps the transaction open and all rows as the calls before it left
them. -/
theorem commit_stores_direct_run {c : Connection} (idle : c.database.inTransaction = false)
    {schedule : Schedule} {calls : List Call}
    (goesOn : ∀ before call later, calls = before ++ call :: later →
      ¬ call.BreaksOff schedule (c.begun.afterCalls schedule before)) :
    let inside := c.begun.afterCalls schedule calls
    let direct := c.afterCalls schedule calls
    c.begun.exchanges schedule calls = c.exchanges schedule calls ∧
    inside.database.commit = (.ok (), direct.database) ∧
    (∀ (schedule : Schedule) (future : List Call),
      (inside.holding inside.database.commit.2).exchanges schedule future =
        direct.exchanges schedule future) ∧
    ∀ before call later e, calls = before ++ call :: later →
      (call.operation.run schedule call.token (c.begun.afterCalls schedule before)).1 = .error e →
      let failed := c.begun.afterCalls schedule (before ++ [call])
      failed.database.inTransaction = true ∧
        (c.begun.afterCalls schedule before).database.current.SameRows failed.database.current := by
  have none := Database.working_of_idle idle
  rw [Connection.begun_eq_within none] at goesOn ⊢
  obtain ⟨answers, leaves⟩ := Connection.calls_within calls none goesOn
  have stays := @Connection.idle_afterCalls schedule calls c none
  dsimp only
  rw [leaves, Connection.commit_within stays]
  refine ⟨answers, rfl, fun _ _ => rfl, fun before call later e split failed => ?_⟩
  -- What was done so far is what the calls before do directly, and the call fails there as well.
  have untilThen := Connection.calls_within before none fun earlier other others split' =>
    goesOn earlier other (others ++ call :: later) (by rw [split, split']; simp)
  have idleThen := @Connection.idle_afterCalls schedule before c none
  have goesOnThen := goesOn before call later split
  rw [untilThen.2] at failed goesOnThen
  have ran := Operation.run_within_of_goesOn idleThen goesOnThen
  rw [ran] at failed
  obtain ⟨t, stored, same⟩ := Operation.sameRows_of_failed
    (Database.eq_ofTables (by simp [Database.inTransaction, idleThen])) failed
  rw [Connection.afterCalls_append, untilThen.2, Connection.afterCalls_cons,
    Connection.afterCalls_nil, ran]
  refine ⟨rfl, ?_⟩
  simp only [Connection.within, Connection.holding, stored]
  exact same

/-- Between calls that succeed, others are refused for their arguments, by a constraint, for a
secret that is not there, and for a token that is cancelled already. -/
theorem commit_stores_direct_run_refusals :
    let c := Connection.opened .fresh
    let schedule : Schedule := fun token => if token = 1 then some 0 else none
    let calls : List Call :=
      [⟨.insertSecret "mail" "p", 0⟩, ⟨.deleteSecrets [], 0⟩, ⟨.insertLabel "work" 9, 0⟩,
        ⟨.renameSecret 7 "bank", 0⟩, ⟨.insertSecret "bank" "q", 1⟩, ⟨.insertLabel "work" 1, 0⟩,
        ⟨.readPayload 1, 0⟩]
    let inside := c.begun.afterCalls schedule calls
    let before := c.begun.afterCalls schedule (calls.take 2)
    let refused := c.begun.afterCalls schedule (calls.take 3)
    c.database.inTransaction = false ∧
      (∀ before call later, calls = before ++ call :: later →
        ¬ call.BreaksOff schedule (c.begun.afterCalls schedule before)) ∧
      ((Operation.insertLabel "work" 9).run schedule 0 before).1 = .error (.engine .foreignKey) ∧
      c.begun.exchanges schedule calls = c.exchanges schedule calls ∧
      inside.database.commit = (.ok (), (c.afterCalls schedule calls).database) ∧
      (c.afterCalls schedule calls).database.committed.labels.values = [⟨.text "work", 1⟩] ∧
      before.database.current.SameRows refused.database.current ∧
      refused.database.current.secrets.keys = [1] := by
  intro c schedule calls inside before refused
  have idle : c.database.inTransaction = false := rfl
  have opened : inside.database.inTransaction = true := by decide +kernel
  have goesOn := Connection.not_breaksOff_of_inTransaction idle opened
  have fails : ((Operation.insertLabel "work" 9).run schedule 0 before).1 =
      .error (.engine .foreignKey) := by decide +kernel
  obtain ⟨answers, stores, -, undoes⟩ := commit_stores_direct_run idle goesOn
  obtain ⟨-, same⟩ := undoes (calls.take 2) ⟨.insertLabel "work" 9, 0⟩ (calls.drop 3) _ rfl fails
  exact ⟨idle, goesOn, fails, answers, stores, by decide +kernel, same, by decide +kernel⟩

end SecretVault
