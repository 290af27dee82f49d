import SecretVault.Proofs.History

/-!
What a token can reach. The engine looks at the token of an operation while that operation runs, and
at no other one; when the operation has ended, however it did, it looks at none. So what an operation
comes to is settled by the database, by its arguments and by what its own token says meanwhile, and a
token that is cancelled later reaches nothing.
-/
namespace SecretVault
open SecretVault.Engine

attribute [ext] Engine.Connection

namespace Engine.Connection
variable {α : Type} {c c' : Connection} {schedule schedule' : Schedule} {token token' : Token}

theorem handler_send (c : Connection) (schedule : Schedule) (statement : Statement α) :
    (c.send schedule statement).2.handler = c.handler := by
  simp only [send_eq]
  split
  · split <;> rfl
  · rfl

/-- Where the engine looks at no token, nothing stops a statement. -/
theorem send_of_unguarded (unguarded : c.handler = none) (schedule : Schedule)
    (statement : Statement α) :
    c.send schedule statement =
      ((c.database.apply statement.change).1,
        { c with
          database := (c.database.apply statement.change).2
          handler := none
          clock := c.clock + statement.checks }) := by
  simp [send_eq, stops, unguarded]

/-- Two tokens that say the same while a statement runs both stop it or neither does. -/
theorem send_eq_of_alike (statement : Statement α) (looks : c.handler = some token)
    (looks' : c'.handler = some token') (database : c'.database = c.database)
    (alike : ∀ j < statement.checks,
      schedule'.cancelled token' (c'.clock + j) = schedule.cancelled token (c.clock + j)) :
    (c'.send schedule' statement).1 = (c.send schedule statement).1 ∧
      (c'.send schedule' statement).2.database = (c.send schedule statement).2.database := by
  have stops : c'.stops schedule' statement.checks = c.stops schedule statement.checks := by
    simp only [Connection.stops, looks, looks']
    cases checks : statement.checks with
    | zero => rfl
    | succ n =>
      have last := alike n (checks ▸ Nat.lt_succ_self n)
      simpa using last
  simp only [send_eq, stops, database]
  split
  · split <;> exact ⟨rfl, rfl⟩
  · exact ⟨rfl, rfl⟩

end Engine.Connection

/-- Two runs of a plan on the same database whose tokens say the same from moment to moment, for as
long as the first run takes. -/
theorem Plan.run_eq_of_alike {α : Type} {schedule schedule' : Schedule} {token token' : Token}
    (plan : Plan α) {c c' : Connection} (looks : c.handler = some token)
    (looks' : c'.handler = some token') (database : c'.database = c.database)
    (alike : ∀ j, c.clock + j < (plan.run schedule c).2.clock →
      schedule'.cancelled token' (c'.clock + j) = schedule.cancelled token (c.clock + j)) :
    (plan.run schedule' c').1 = (plan.run schedule c).1 ∧
      (plan.run schedule' c').2.database = (plan.run schedule c).2.database ∧
      (plan.run schedule' c').2.clock + c.clock = (plan.run schedule c).2.clock + c'.clock := by
  induction plan generalizing c c' with
  | answer result => exact ⟨rfl, database, Nat.add_comm ..⟩
  | send statement next ih =>
    have clock := clock_send c schedule statement
    have clock' := clock_send c' schedule' statement
    have handler := c.handler_send schedule statement
    have handler' := c'.handler_send schedule' statement
    -- the statement takes its own part of the time
    have during : c.clock + statement.checks ≤ ((send statement next).run schedule c).2.clock := by
      rw [← clock, run]
      cases c.send schedule statement with
      | mk result after =>
        cases result with
        | ok a => exact clock_le_run (next a) schedule after
        | error e => exact Nat.le_refl _
    obtain ⟨answer, database⟩ := Connection.send_eq_of_alike statement looks looks' database
      fun j within => alike j (Nat.lt_of_lt_of_le (Nat.add_lt_add_left within _) during)
    rw [run] at alike ⊢
    rw [run]
    cases sent : c.send schedule statement with
    | mk result after =>
      cases sent' : c'.send schedule' statement with
      | mk result' after' =>
        rw [sent] at alike answer database clock handler
        rw [sent'] at answer database clock' handler'
        subst answer
        cases result' with
        | error e =>
          refine ⟨rfl, database, ?_⟩
          change after'.clock + c.clock = after.clock + c'.clock
          dsimp only at clock clock'
          omega
        | ok a =>
          have rest : ∀ j, after.clock + j < ((next a).run schedule after).2.clock →
              schedule'.cancelled token' (after'.clock + j) =
                schedule.cancelled token (after.clock + j) := by
            intro j within
            rw [clock, Nat.add_assoc] at within ⊢
            rw [clock', Nat.add_assoc]
            exact alike _ within
          obtain ⟨sameAnswer, sameDatabase, sameTime⟩ :=
            ih a (handler.trans looks) (handler'.trans looks') database rest
          refine ⟨sameAnswer, sameDatabase, ?_⟩
          change ((next a).run schedule' after').2.clock + c.clock =
            ((next a).run schedule after).2.clock + c'.clock
          dsimp only at clock clock' sameTime
          omega

namespace Operation

/-- Time does not go back. -/
theorem clock_le_run (op : Operation) (schedule : Schedule) (token : Token) (c : Connection) :
    c.clock ≤ (op.run schedule token c).2.clock := by
  cases refused : op.refusal? with
  | some p => simp [run_of_refused refused]
  | none =>
    cases cancelled : schedule.cancelled token c.clock with
    | true => simp [run_of_late refused cancelled]
    | false =>
      rw [run_of_begun refused cancelled]
      exact Nat.le_of_succ_le
        (op.plan.clock_le_run schedule { c with handler := some token, clock := c.clock + 1 })

/-- However an operation ends, the engine looks at no token afterwards. -/
theorem handler_run {c : Connection} (unguarded : c.handler = none) (op : Operation)
    (schedule : Schedule) (token : Token) : (op.run schedule token c).2.handler = none := by
  cases refused : op.refusal? with
  | some p => rw [run_of_refused refused]; exact unguarded
  | none =>
    cases cancelled : schedule.cancelled token c.clock with
    | true => rw [run_of_late refused cancelled]; exact unguarded
    | false => rw [run_of_begun refused cancelled]; rfl

/-- What an operation comes to is settled by the database and by what its token says while it runs,
whatever the connection was used for before and whatever other tokens say. -/
theorem run_eq_of_alike (op : Operation) {schedule schedule' : Schedule} {token token' : Token}
    {c c' : Connection} (database : c'.database = c.database)
    (alike : ∀ j, c.clock + j < (op.run schedule token c).2.clock →
      schedule'.cancelled token' (c'.clock + j) = schedule.cancelled token (c.clock + j)) :
    (op.run schedule' token' c').1 = (op.run schedule token c).1 ∧
      (op.run schedule' token' c').2.database = (op.run schedule token c).2.database ∧
      (op.run schedule' token' c').2.clock + c.clock =
        (op.run schedule token c).2.clock + c'.clock := by
  cases refused : op.refusal? with
  | some p =>
    rw [run_of_refused refused, run_of_refused refused]
    exact ⟨rfl, database, Nat.add_comm ..⟩
  | none =>
    cases cancelled : schedule.cancelled token c.clock with
    | true =>
      rw [run_of_late refused cancelled] at alike ⊢
      rw [run_of_late refused ((alike 0 (Nat.lt_succ_self _)).trans cancelled)]
      exact ⟨rfl, database, by dsimp only; omega⟩
    | false =>
      rw [run_of_begun refused cancelled] at alike ⊢
      -- the first look is at the moment when the operation begins
      have first := alike 0
        (op.plan.clock_le_run schedule { c with handler := some token, clock := c.clock + 1 })
      rw [run_of_begun refused (first.trans cancelled)]
      have looks : { c with handler := some token, clock := c.clock + 1 }.handler = some token := rfl
      have looks' : { c' with handler := some token', clock := c'.clock + 1 }.handler = some token' :=
        rfl
      obtain ⟨answer, sameDatabase, time⟩ := op.plan.run_eq_of_alike looks looks' database
        fun j within => by
          rw [Nat.add_assoc] at within
          simpa only [Nat.add_assoc] using alike (1 + j) within
      refine ⟨answer, sameDatabase, ?_⟩
      dsimp only [Connection.uninstall] at time ⊢
      omega

end Operation

/-- What is done on a connection: a call, a plain statement, or the beginning or the end of a
transaction. -/
inductive Act : Type 1 where
  | call (call : Call)
  | plain {α : Type} (statement : Statement α)
  | begin
  | commit
  | rollback

namespace Act

abbrev Answer : Act → Type
  | .call made => Except StoreError made.operation.Answer
  | @plain α _ => Except Engine.Error α
  | .begin | .commit | .rollback => Except Engine.Error Unit

def token? : Act → Option Token
  | .call made => some made.token
  | _ => none

def run (schedule : Schedule) : (act : Act) → Connection → act.Answer × Connection
  | .call made, c => made.operation.run schedule made.token c
  | .plain statement, c => c.send schedule statement
  | .begin, c => (c.database.begin.1, { c with database := c.database.begin.2 })
  | .commit, c => (c.database.commit.1, { c with database := c.database.commit.2 })
  | .rollback, c => (c.database.rollback.1, { c with database := c.database.rollback.2 })

theorem clock_le_run (act : Act) (schedule : Schedule) (c : Connection) :
    c.clock ≤ (act.run schedule c).2.clock := by
  cases act with
  | call call => exact call.operation.clock_le_run schedule call.token c
  | plain statement => exact Nat.le.intro (Plan.clock_send c schedule statement).symm
  | begin | commit | rollback => exact Nat.le_refl _

theorem handler_run {c : Connection} (unguarded : c.handler = none) (act : Act)
    (schedule : Schedule) : (act.run schedule c).2.handler = none := by
  cases act with
  | call call => exact call.operation.handler_run unguarded schedule call.token
  | plain statement => exact (c.handler_send schedule statement).trans unguarded
  | begin | commit | rollback => exact unguarded

/-- An act comes to the same under two schedules that say the same of its own token, if it has one,
until it has ended. -/
theorem run_eq {c : Connection} (unguarded : c.handler = none) {schedule schedule' : Schedule}
    (act : Act) (alike : ∀ token, act.token? = some token →
      ∀ moment < (act.run schedule c).2.clock,
        schedule'.cancelled token moment = schedule.cancelled token moment) :
    act.run schedule' c = act.run schedule c := by
  cases act with
  | call call =>
    have same : c.database = c.database := rfl
    obtain ⟨answer, database, time⟩ := call.operation.run_eq_of_alike same
      fun j (within : c.clock + j < (call.operation.run schedule call.token c).2.clock) =>
        alike call.token rfl _ within
    have handler := call.operation.handler_run unguarded schedule call.token
    have handler' := call.operation.handler_run unguarded schedule' call.token
    exact Prod.ext answer (Connection.ext database (handler'.trans handler.symm)
      (Nat.add_right_cancel time) ((Connection.settings_eq _).trans (Connection.settings_eq _).symm))
  | plain statement =>
    simp only [run, Connection.send_of_unguarded unguarded]
  | begin | commit | rollback => rfl

end Act

/-- An act with what was answered to it. -/
structure Reply where
  act : Act
  answer : act.Answer

namespace Engine.Connection

/-- The connection after some acts. -/
def afterActs (schedule : Schedule) : List Act → Connection → Connection
  | [], c => c
  | act :: rest, c => afterActs schedule rest (act.run schedule c).2

/-- What is answered to some acts, one after the other. -/
def replies (schedule : Schedule) : List Act → Connection → List Reply
  | [], _ => []
  | act :: rest, c =>
    ⟨act, (act.run schedule c).1⟩ :: replies schedule rest (act.run schedule c).2

variable {c : Connection}

theorem afterActs_append (c : Connection) (schedule : Schedule) (first second : List Act) :
    c.afterActs schedule (first ++ second) =
      (c.afterActs schedule first).afterActs schedule second := by
  induction first generalizing c with
  | nil => rfl
  | cons act rest ih => exact ih _

theorem replies_append (c : Connection) (schedule : Schedule) (first second : List Act) :
    c.replies schedule (first ++ second) =
      c.replies schedule first ++ (c.afterActs schedule first).replies schedule second := by
  induction first generalizing c with
  | nil => rfl
  | cons act rest ih => exact congrArg (_ :: ·) (ih _)

theorem clock_le_afterActs (schedule : Schedule) (acts : List Act) (c : Connection) :
    c.clock ≤ (c.afterActs schedule acts).clock := by
  induction acts generalizing c with
  | nil => exact Nat.le_refl _
  | cons act rest ih => exact Nat.le_trans (act.clock_le_run schedule c) (ih _)

theorem handler_afterActs (unguarded : c.handler = none) (schedule : Schedule)
    (acts : List Act) : (c.afterActs schedule acts).handler = none := by
  induction acts generalizing c with
  | nil => exact unguarded
  | cons act rest ih => exact ih (act.handler_run unguarded schedule)

/-- Acts come to the same under two schedules that say the same of the tokens in them until they
have all ended. -/
theorem acts_eq (schedule schedule' : Schedule) (unguarded : c.handler = none) (acts : List Act)
    (alike : ∀ act ∈ acts, ∀ token, act.token? = some token →
      ∀ moment < (c.afterActs schedule acts).clock,
        schedule'.cancelled token moment = schedule.cancelled token moment) :
    c.replies schedule' acts = c.replies schedule acts ∧
      c.afterActs schedule' acts = c.afterActs schedule acts := by
  induction acts generalizing c with
  | nil => exact ⟨rfl, rfl⟩
  | cons act rest ih =>
    have same : act.run schedule' c = act.run schedule c :=
      act.run_eq unguarded fun token own moment within =>
        alike act List.mem_cons_self token own moment
          (Nat.lt_of_lt_of_le within (clock_le_afterActs schedule rest _))
    obtain ⟨sameReplies, sameEnd⟩ := ih (act.handler_run unguarded schedule)
      fun other member => alike other (List.mem_cons_of_mem act member)
    simp only [replies, afterActs, same]
    exact ⟨congrArg _ sameReplies, sameEnd⟩

end Engine.Connection

/-- Whatever has been done on a connection, with whatever tokens and however they were cancelled, and
however a call then ends: before and after it the engine looks at no token; its answer and the
database after it are those of any run of the same operation on an equal database whose token says
the same from moment to moment; a plain statement sent afterwards is not stopped, whatever the
tokens say then; and if only what its token says from its end on is changed, every act, earlier or
later, comes to the same, provided that later calls bring tokens of their own. -/
theorem tokens_end_with_their_calls {c : Connection} (unguarded : c.handler = none)
    (schedule : Schedule) (before : List Act) (call : Call) (later : List Act) :
    let now := c.afterActs schedule before
    let ran := call.operation.run schedule call.token now
    now.handler = none ∧ ran.2.handler = none ∧
    (∀ (c' : Connection) (schedule' : Schedule) (token' : Token), c'.database = now.database →
      (∀ j, now.clock + j < ran.2.clock → schedule'.cancelled token' (c'.clock + j) =
        schedule.cancelled call.token (now.clock + j)) →
      (call.operation.run schedule' token' c').1 = ran.1 ∧
        (call.operation.run schedule' token' c').2.database = ran.2.database) ∧
    (∀ (schedule' : Schedule) {α : Type} (statement : Statement α),
      let answered := ran.2.database.apply statement.change
      ran.2.send schedule' statement = (answered.1, { ran.2 with
        database := answered.2, handler := none, clock := ran.2.clock + statement.checks })) ∧
    ∀ schedule' : Schedule, (∀ other ≠ call.token, schedule' other = schedule other) →
      (∀ moment < ran.2.clock, schedule'.cancelled call.token moment =
        schedule.cancelled call.token moment) →
      (∀ act ∈ later, act.token? ≠ some call.token) →
      let acts := before ++ .call call :: later
      c.replies schedule' acts = c.replies schedule acts ∧
        c.afterActs schedule' acts = c.afterActs schedule acts := by
  intro now ran
  have ready : now.handler = none := Connection.handler_afterActs unguarded schedule before
  have cleared : ran.2.handler = none := call.operation.handler_run ready schedule call.token
  refine ⟨ready, cleared, fun c' schedule' token' database alike => ?_,
    fun schedule' α statement => Connection.send_of_unguarded cleared schedule' statement,
    fun schedule' others meanwhile own => ?_⟩
  · obtain ⟨answer, sameDatabase, -⟩ := call.operation.run_eq_of_alike database alike
    exact ⟨answer, sameDatabase⟩
  · have upTo : c.afterActs schedule (before ++ [.call call]) = ran.2 :=
      c.afterActs_append schedule before [.call call]
    obtain ⟨sameReplies, sameNow⟩ := Connection.acts_eq schedule schedule' unguarded
      (before ++ [.call call]) fun act _ token _ moment within => by
        rw [upTo] at within
        by_cases same : token = call.token
        · rw [same, meanwhile moment within]
        · rw [Schedule.cancelled, others token same, Schedule.cancelled]
    obtain ⟨sameLater, sameEnd⟩ := Connection.acts_eq schedule schedule' cleared later
      fun act member token has moment _ => by
        have different : token ≠ call.token := fun same => own act member (same ▸ has)
        rw [Schedule.cancelled, others token different, Schedule.cancelled]
    have joined : before ++ .call call :: later = (before ++ [.call call]) ++ later := by simp
    simp only [joined]
    rw [c.replies_append schedule' _ later, c.replies_append schedule _ later,
      c.afterActs_append schedule' _ later, c.afterActs_append schedule _ later, sameReplies,
      sameNow, upTo, sameLater, sameEnd]
    exact ⟨rfl, rfl⟩

/-- A call in a transaction whose token is cancelled at the moment when the call has ended. After it
one call finds nothing, one is refused, one is stopped while its statement runs, which ends the
transaction, and a long sum is computed. -/
theorem tokens_end_with_their_calls_cancelledAfterwards :
    let schedule : Schedule := fun token => if token = 3 then some 5 else none
    let schedule' : Schedule := fun token => if token = 1 then some 2 else schedule token
    let c := Connection.opened .fresh
    let call : Call := ⟨.insertSecret "mail" "p", 1⟩
    let later : List Act := [.call ⟨.renameSecret 9 "bank", 2⟩, .call ⟨.deleteSecrets [], 4⟩,
      .call ⟨.upsertSecret 1 "q", 3⟩, .plain (.sumTo 100000), .call ⟨.readPayload 1, 5⟩]
    let acts := [.begin] ++ .call call :: later
    c.handler = none ∧ schedule'.cancelled 1 2 = true ∧
      c.replies schedule acts = [⟨.begin, .ok ()⟩, ⟨.call call, .ok 1⟩,
        ⟨.call ⟨.renameSecret 9 "bank", 2⟩, .error (.notFound .secret)⟩,
        ⟨.call ⟨.deleteSecrets [], 4⟩, .error (.precondition .noIds)⟩,
        ⟨.call ⟨.upsertSecret 1 "q", 3⟩, .error .cancelled⟩,
        ⟨.plain (.sumTo 100000), .ok 5000050000⟩,
        ⟨.call ⟨.readPayload 1, 5⟩, .error (.notFound .secret)⟩] ∧
      c.replies schedule' acts = c.replies schedule acts ∧
      (c.afterActs schedule' acts).database = (c.afterActs schedule acts).database := by
  intro schedule schedule' c call later acts
  obtain ⟨-, -, -, -, unchanged⟩ := tokens_end_with_their_calls (c := c) rfl schedule [.begin] call
    later
  have others : ∀ other ≠ call.token, schedule' other = schedule other :=
    fun other different => if_neg different
  have meanwhile : ∀ moment < 2, schedule'.cancelled 1 moment = schedule.cancelled 1 moment := by
    decide
  have own : ∀ act ∈ later, act.token? ≠ some call.token := by
    intro act member
    simp only [later, List.mem_cons, List.not_mem_nil, or_false] at member
    rcases member with rfl | rfl | rfl | rfl | rfl <;> simp [Act.token?, call]
  obtain ⟨sameReplies, sameEnd⟩ := unchanged schedule' others meanwhile own
  exact ⟨rfl, rfl, rfl, sameReplies, congrArg _ sameEnd⟩

end SecretVault
