import SecretVault.Proofs.History
import SecretVault.Proofs.Transaction.Harmless

/-!
What a rolled-back transaction leaves. A call keeps an open transaction open, and what was stored
when it began as it was, unless no id is left to draw or the call is stopped while it writes. Then
the engine ends the transaction by itself, and later calls change the vault for good.
-/
namespace SecretVault
open SecretVault.Engine

/-- Operations that send a statement which writes. -/
def Operation.writes : Operation → Bool
  | .insertMasterKey _ | .insertSecret .. | .upsertSecret .. | .renameSecret .. | .deleteSecrets _
  | .insertLabel .. | .deleteLabels .. => true
  | .queryMasterKey | .readPayload _ | .searchColumn .. | .searchIds _
  | .searchLabelsAndName .. => false

/-- A call is accepted, and its token is cancelled before its first statement ends. -/
def Call.StopsAtOnce (call : Call) (schedule : Schedule) (c : Connection) : Prop :=
  call.operation.refusal? = none ∧ schedule.cancelled call.token c.clock = false ∧
    schedule.cancelled call.token (c.clock + 1) = true

/-- A call ends the open transaction: it finds no id left to draw, or it is stopped while it
writes. -/
def Call.BreaksOff (call : Call) (schedule : Schedule) (c : Connection) : Prop :=
  c.database.inTransaction = true ∧
    ((call.operation.run schedule call.token c).1 = .error (.engine .full) ∨
      call.operation.writes = true ∧ call.StopsAtOnce schedule c)

namespace Plan
variable {α : Type}

/-- A plan that only reads and meets no error which ends a transaction. -/
def OnlyReads : Plan α → Prop
  | .answer result => result ≠ .error (.engine .full)
  | .send statement next =>
    statement.writes = false ∧ (∀ t, Harmless (statement.change t)) ∧ ∀ a, (next a).OnlyReads

theorem onlyReads_ok (a : α) : (answer (.ok a)).OnlyReads := nofun

theorem ofEngine_ne_full {e : Engine.Error} (stays : e.endsTransaction = false) :
    StoreError.ofEngine e ≠ .engine .full := by
  intro same
  cases e <;> cases same
  cases stays

/-- A statement that answers keeps a transaction open, and so does one with a harmless error. -/
theorem send_of_not_stopped {β : Type} {schedule : Schedule} (statement : Statement β)
    {c : Connection} {t w : Tables} (opened : c.database = ⟨t, some w⟩)
    (runs : c.stops schedule statement.checks = false) :
    (c.send schedule statement).1 = (statement.change w).map (·.1) ∧
      (Harmless (statement.change w) →
        ∃ w', (c.send schedule statement).2.database = ⟨t, some w'⟩) := by
  have current : c.database.current = w := by rw [opened]; rfl
  simp only [Connection.send_eq, runs, Bool.false_eq_true, if_false, Database.apply, current]
  cases changed : statement.change w with
  | ok result => exact ⟨rfl, fun _ => ⟨result.2, by rw [opened]; rfl⟩⟩
  | error e =>
    refine ⟨rfl, fun harmless => ⟨w, ?_⟩⟩
    simp [harmless e rfl, opened]

theorem OnlyReads.run {plan : Plan α} (quiet : plan.OnlyReads) (schedule : Schedule)
    {c : Connection} {t w : Tables} (opened : c.database = ⟨t, some w⟩) :
    (plan.run schedule c).1 ≠ .error (.engine .full) ∧
      ∃ w', (plan.run schedule c).2.database = ⟨t, some w'⟩ := by
  induction plan generalizing c w with
  | answer result => exact ⟨quiet, w, opened⟩
  | send statement next ih =>
    obtain ⟨reads, harmless, later⟩ := quiet
    rw [Plan.run]
    cases stops : c.stops schedule statement.checks with
    | true =>
      have sent : c.send schedule statement =
          (.error .interrupted, { c with clock := c.clock + statement.checks }) := by
        simp [Connection.send_eq, stops, reads]
      rw [sent]
      refine ⟨?_, w, opened⟩
      intro same
      cases same
    | false =>
      obtain ⟨answered, stays⟩ := send_of_not_stopped statement opened stops
      obtain ⟨w', database⟩ := stays (harmless w)
      cases sent : c.send schedule statement with
      | mk result c' =>
        rw [sent] at answered database
        cases result with
        | ok a => exact ih a (later a) database
        | error e =>
          refine ⟨?_, w', database⟩
          cases changed : statement.change w with
          | ok result => rw [changed] at answered; cases answered
          | error cause =>
            rw [changed] at answered
            cases answered
            intro same
            exact ofEngine_ne_full (harmless w _ changed) (Except.error.inj same)

/-- A plan ends the transaction with its first statement or not at all, if all that follows only
reads. -/
theorem run_send_inTransaction {β : Type} {statement : Statement β} {next : β → Plan α}
    (onlyFull : ∀ t, OnlyFull (statement.change t)) (later : ∀ a, (next a).OnlyReads)
    (schedule : Schedule) {c : Connection} {t w : Tables} (opened : c.database = ⟨t, some w⟩) :
    let ran := (send statement next).run schedule c
    let stopsWriting := statement.writes = true ∧ c.stops schedule statement.checks = true
    ((ran.1 = .error (.engine .full) ∨ stopsWriting) ∧ ran.2.database = .ofTables t) ∨
      (ran.1 ≠ .error (.engine .full) ∧ ¬ stopsWriting ∧ ∃ w', ran.2.database = ⟨t, some w'⟩) := by
  dsimp only
  rw [Plan.run]
  cases stops : c.stops schedule statement.checks with
  | true =>
    cases writes : statement.writes with
    | true =>
      refine .inl ⟨.inr ⟨rfl, rfl⟩, ?_⟩
      simp [Connection.send_eq, stops, writes, opened, Database.abandon, Database.ofTables]
    | false =>
      refine .inr ⟨?_, fun stopsWriting => absurd stopsWriting.1 Bool.false_ne_true, w, ?_⟩
      · simp [Connection.send_eq, stops, StoreError.ofEngine]
      · simp [Connection.send_eq, stops, writes, opened]
  | false =>
    have runs : ¬ (statement.writes = true ∧ false = true) :=
      fun stopsWriting => absurd stopsWriting.2 Bool.false_ne_true
    obtain ⟨answered, stays⟩ := send_of_not_stopped statement opened stops
    cases sent : c.send schedule statement with
    | mk result c' =>
      rw [sent] at answered stays
      cases changed : statement.change w with
      | ok done =>
        rw [changed] at answered stays
        obtain ⟨w', database⟩ := stays (harmless_ok done)
        cases answered
        obtain ⟨notFull, kept⟩ := (later done.1).run schedule database
        exact .inr ⟨notFull, runs, kept⟩
      | error e =>
        rw [changed] at answered stays
        cases answered
        cases ends : e.endsTransaction with
        | false =>
          refine .inr ⟨fun same => ofEngine_ne_full ends (Except.error.inj same), runs, ?_⟩
          exact stays (harmless_error ends)
        | true =>
          obtain rfl := onlyFull w e changed ends
          have current : c.database.current = w := by rw [opened]; rfl
          have applied : c.database.apply statement.change =
              (.error .full, c.database.abandon) := by
            simp [Database.apply, current, changed, ends]
          have ended : (c.send schedule statement).2.database = .ofTables t := by
            simp only [Connection.send_eq, stops, Bool.false_eq_true, if_false, applied]
            rw [opened]
            rfl
          rw [sent] at ended
          exact .inl ⟨.inl rfl, ended⟩

end Plan
namespace Operation

theorem onlyReads_orNotFound {α : Type} (entity : Entity) (found : Option α) :
    (orNotFound entity found).OnlyReads := by
  cases found <;> exact nofun

/-- What every plan begins with: one statement, which writes if the operation does and ends a
transaction only if no id is left. What follows it only reads. -/
theorem plan_head (op : Operation) :
    ∃ (β : Type) (statement : Statement β) (next : β → Plan op.Answer),
      op.plan = .send statement next ∧ statement.writes = op.writes ∧ statement.checks = 1 ∧
      (∀ t, OnlyFull (statement.change t)) ∧
      ∀ a, (next a).OnlyReads := by
  cases op with
  | insertMasterKey key =>
    exact ⟨_, _, _, rfl, rfl, rfl, fun t => (harmless_ok _).onlyFull, Plan.onlyReads_ok⟩
  | queryMasterKey =>
    refine ⟨_, _, _, rfl, rfl, rfl, fun t => Harmless.onlyFull ?_, onlyReads_orNotFound _⟩
    exact (harmless_mapM_read t.masterKey id _ _).map _
  | insertSecret name payload =>
    exact ⟨_, _, _, rfl, rfl, rfl, fun t => onlyFull_insertSecret t _, Plan.onlyReads_ok⟩
  | upsertSecret id payload =>
    exact ⟨_, _, _, rfl, rfl, rfl, fun t => (harmless_ok _).onlyFull, Plan.onlyReads_ok⟩
  | readPayload id =>
    refine ⟨_, _, _, rfl, rfl, rfl, fun t => Harmless.onlyFull ?_, onlyReads_orNotFound _⟩
    exact (harmless_mapM_read (t.secrets.get? id) (·.payload) _ _).map _
  | renameSecret id name =>
    refine ⟨_, _, _, rfl, rfl, rfl, fun t => (harmless_ok _).onlyFull, fun renamed => ?_⟩
    show (if renamed = 0 then _ else _) ≠ _
    split <;> exact nofun
  | deleteSecrets ids =>
    refine ⟨_, _, _, rfl, rfl, rfl, fun t => Harmless.onlyFull ?_, Plan.onlyReads_ok⟩
    exact (harmless_withinLimits _ _).bind fun _ => harmless_ok _
  | insertLabel name secretId =>
    refine ⟨_, _, _, rfl, rfl, rfl, fun t => onlyFull_attachLabel t _, fun a => ?_⟩
    cases a with
    | some id => exact Plan.onlyReads_ok id
    | none => exact ⟨rfl, fun t => (harmless_elim_noRows _).map _, Plan.onlyReads_ok⟩
  | deleteLabels secretId patterns =>
    refine ⟨_, _, _, rfl, rfl, rfl, fun t => Harmless.onlyFull ?_, Plan.onlyReads_ok⟩
    refine (harmless_withinLimits _ _).bind fun _ => ?_
    exact (harmless_matchingLabels _ _ _).bind fun _ => harmless_ok _
  | searchColumn column patterns =>
    refine ⟨_, _, _, rfl, rfl, rfl, fun t => Harmless.onlyFull ?_, Plan.onlyReads_ok⟩
    exact ((harmless_withinLimits _ _).bind fun _ => harmless_search t _).map _
  | searchIds ids =>
    refine ⟨_, _, _, rfl, rfl, rfl, fun t => Harmless.onlyFull ?_, Plan.onlyReads_ok⟩
    exact ((harmless_withinLimits _ _).bind fun _ => harmless_search t _).map _
  | searchLabelsAndName name labels =>
    refine ⟨_, _, _, rfl, rfl, rfl, fun t => Harmless.onlyFull ?_, Plan.onlyReads_ok⟩
    exact ((harmless_withinLimits _ _).bind fun _ => harmless_search t _).map _

/-- A call in a transaction ends it exactly when it breaks off. Either way what was stored when the
transaction began stays as it was. -/
theorem run_inTransaction (op : Operation) (schedule : Schedule) (token : Token)
    {c : Connection} {t w : Tables} (opened : c.database = ⟨t, some w⟩) :
    (Call.BreaksOff ⟨op, token⟩ schedule c ∧
        (op.run schedule token c).2.database = .ofTables t) ∨
      (¬ Call.BreaksOff ⟨op, token⟩ schedule c ∧
        ∃ w', (op.run schedule token c).2.database = ⟨t, some w'⟩) := by
  have inside : c.database.inTransaction = true := by rw [opened]; rfl
  cases refused : op.refusal? with
  | some p =>
    have run : op.run schedule token c = (.error (.precondition p), c) := by
      simp [Operation.run, refused]
    rw [run]
    refine .inr ⟨?_, w, opened⟩
    intro breaks
    obtain ⟨-, full | ⟨-, accepted, -⟩⟩ := breaks
    · simp [run] at full
    · cases refused.symm.trans accepted
  | none =>
    cases live : schedule.cancelled token c.clock with
    | true =>
      have run : op.run schedule token c =
          (.error .cancelled, { c with clock := c.clock + 1 }) := by
        simp [Operation.run, refused, Connection.install, live]
      rw [run]
      refine .inr ⟨?_, w, opened⟩
      intro breaks
      obtain ⟨-, full | ⟨-, -, alive, -⟩⟩ := breaks
      · simp [run] at full
      · cases live.symm.trans alive
    | false =>
      obtain ⟨answer, database⟩ := run_of_accepted refused live
      obtain ⟨β, statement, next, plan, writes, checks, onlyFull, later⟩ := plan_head op
      generalize sees : ({ c with handler := some token, clock := c.clock + 1 } : Connection) =
        looking at answer database
      have openedThen : looking.database = ⟨t, some w⟩ := by rw [← sees]; exact opened
      have stops : looking.stops schedule statement.checks =
          schedule.cancelled token (c.clock + 1) := by
        simp [← sees, checks, Connection.stops]
      rw [plan] at answer database
      have ran := Plan.run_send_inTransaction onlyFull later schedule openedThen
      dsimp only at ran
      rw [← answer, ← database, writes, stops] at ran
      rcases ran with ⟨full | ⟨written, stopped⟩, ended⟩ | ⟨notFull, notStopped, kept⟩
      · exact .inl ⟨⟨inside, .inl full⟩, ended⟩
      · exact .inl ⟨⟨inside, .inr ⟨written, refused, live, stopped⟩⟩, ended⟩
      · refine .inr ⟨?_, kept⟩
        intro breaks
        obtain ⟨-, full | ⟨written, -, -, stopped⟩⟩ := breaks
        · exact notFull full
        · exact notStopped ⟨written, stopped⟩

end Operation

namespace Engine

/-- What a statement does without a transaction opens none. -/
theorem Connection.idle_send {α : Type} {c : Connection} (idle : c.database.working = none)
    (schedule : Schedule) (statement : Statement α) :
    (c.send schedule statement).2.database.working = none := by
  simp only [Connection.send_eq]
  split
  · split
    · rfl
    · exact idle
  · simp only [Database.apply]
    split
    · simp [Database.put, idle]
    · split
      · rfl
      · exact idle

end Engine

theorem Plan.idle_run {α : Type} {plan : Plan α} {c : Connection}
    (idle : c.database.working = none) (schedule : Schedule) :
    (plan.run schedule c).2.database.working = none := by
  induction plan generalizing c with
  | answer result => exact idle
  | send statement next ih =>
    have stays := Connection.idle_send idle schedule statement
    rw [Plan.run]
    cases sent : c.send schedule statement with
    | mk result c' =>
      rw [sent] at stays
      cases result with
      | ok a => exact ih a stays
      | error e => exact stays

theorem Operation.idle_run {c : Connection} (idle : c.database.working = none) (op : Operation)
    (schedule : Schedule) (token : Token) :
    (op.run schedule token c).2.database.working = none := by
  rcases op.database_run schedule token c with same | ⟨-, ran⟩
  · rw [same]
    exact idle
  · rw [ran]
    refine Plan.idle_run ?_ schedule
    exact idle

namespace Engine.Connection
variable {schedule : Schedule}

/-- The connection with another database. -/
def holding (c : Connection) (d : Database) : Connection := { c with database := d }

/-- The connection with a transaction begun on it. -/
def begun (c : Connection) : Connection := c.holding c.database.begin.2

theorem idle_afterCalls (calls : List Call) {c : Connection} (idle : c.database.working = none) :
    (c.afterCalls schedule calls).database.working = none := by
  induction calls generalizing c with
  | nil => exact idle
  | cons call rest ih => exact ih (Operation.idle_run idle _ _ _)

/-- Calls in a transaction leave it open with what was stored before it, or leave no transaction
open. -/
theorem afterCalls_opened_or_idle (calls : List Call) {c : Connection} {t w : Tables}
    (opened : c.database = ⟨t, some w⟩) :
    (∃ w', (c.afterCalls schedule calls).database = ⟨t, some w'⟩) ∨
      (c.afterCalls schedule calls).database.working = none := by
  induction calls generalizing c w with
  | nil => exact .inl ⟨w, opened⟩
  | cons call rest ih =>
    rw [afterCalls_cons]
    rcases call.operation.run_inTransaction schedule call.token opened with
      ⟨-, ended⟩ | ⟨-, w', kept⟩
    · exact .inr (idle_afterCalls rest (by rw [ended]; rfl))
    · exact ih kept

/-- While no call breaks off, the transaction goes on. -/
theorem afterCalls_inTransaction {calls : List Call} {c : Connection} {t w : Tables}
    (opened : c.database = ⟨t, some w⟩)
    (goesOn : ∀ before call later, calls = before ++ call :: later →
      ¬ call.BreaksOff schedule (c.afterCalls schedule before)) :
    ∃ w', (c.afterCalls schedule calls).database = ⟨t, some w'⟩ := by
  induction calls generalizing c w with
  | nil => exact ⟨w, opened⟩
  | cons call rest ih =>
    rw [afterCalls_cons]
    rcases call.operation.run_inTransaction schedule call.token opened with
      ⟨breaks, -⟩ | ⟨-, w', kept⟩
    · exact absurd breaks (goesOn [] call rest rfl)
    · refine ih kept fun before other later split => ?_
      exact goesOn (call :: before) other later (by rw [split]; rfl)

/-- A call that breaks off undoes all that was done since the transaction began. -/
theorem database_of_breaksOff {before : List Call} {call : Call} {c : Connection} {t w : Tables}
    (opened : c.database = ⟨t, some w⟩)
    (breaks : call.BreaksOff schedule (c.afterCalls schedule before)) :
    (c.afterCalls schedule (before ++ [call])).database = .ofTables t := by
  rcases afterCalls_opened_or_idle before opened with ⟨w', still⟩ | idle
  · rw [afterCalls_append, afterCalls_cons, afterCalls_nil]
    rcases call.operation.run_inTransaction schedule call.token still with
      ⟨-, ended⟩ | ⟨goesOn, -⟩
    · exact ended
    · exact absurd breaks goesOn
  · have inside := breaks.1
    rw [Database.inTransaction, idle] at inside
    cases inside

theorem begun_opened {c : Connection} (idle : c.database.inTransaction = false) :
    ∃ t, c.database = .ofTables t ∧ c.begun.database = ⟨t, some t⟩ := by
  obtain ⟨⟨committed, working⟩, handler, clock⟩ := c
  cases working with
  | none => exact ⟨committed, rfl, rfl⟩
  | some w => cases idle

/-- Rolling back a transaction that went on restores what was stored before it. -/
theorem rollback_of_goesOn {c : Connection} (idle : c.database.inTransaction = false)
    {calls : List Call} (goesOn : ∀ before call later, calls = before ++ call :: later →
      ¬ call.BreaksOff schedule (c.begun.afterCalls schedule before)) :
    (c.begun.afterCalls schedule calls).database.rollback = (.ok (), c.database) := by
  obtain ⟨t, stored, opened⟩ := begun_opened idle
  obtain ⟨w, kept⟩ := afterCalls_inTransaction opened goesOn
  rw [kept, stored]
  rfl

/-- After a call that breaks off, later calls change the vault as it was before the transaction, and
there is nothing to roll back. -/
theorem rollback_of_breaksOff {c : Connection} (idle : c.database.inTransaction = false)
    {before : List Call} {call : Call} (later : List Call)
    (breaks : call.BreaksOff schedule (c.begun.afterCalls schedule before)) :
    (c.begun.afterCalls schedule (before ++ call :: later)).database.rollback.2 =
      (((c.begun.afterCalls schedule (before ++ [call])).holding c.database).afterCalls
        schedule later).database := by
  obtain ⟨t, stored, opened⟩ := begun_opened idle
  have ended := database_of_breaksOff opened breaks
  rw [← stored] at ended
  have split : before ++ call :: later = (before ++ [call]) ++ later := by simp
  have same : (c.begun.afterCalls schedule (before ++ [call])).holding c.database =
      c.begun.afterCalls schedule (before ++ [call]) := by
    rw [← ended]
    rfl
  have stays := @idle_afterCalls schedule later (c.begun.afterCalls schedule (before ++ [call]))
    (by rw [ended, stored]; rfl)
  rw [split, afterCalls_append, same]
  simp [Database.rollback, Database.inTransaction, stays]

end Engine.Connection

/-- The tables that a connection and whoever opens the vault again see. -/
def Engine.Database.Shows (d : Database) (t : Tables) : Prop :=
  d.current = t ∧ (Database.ofTables d.committed).current = t

instance (d : Database) (t : Tables) : Decidable (d.Shows t) :=
  inferInstanceAs (Decidable (d.current = t ∧ (Database.ofTables d.committed).current = t))

/-- Rolling back restores what was stored when the transaction began, and does so without error, if
no call breaks off. After a call that breaks off it restores nothing: the vault is then what the
later calls make of it outside of any transaction. -/
theorem rollback_restores_iff {c : Connection} (idle : c.database.inTransaction = false)
    (schedule : Schedule) (calls : List Call) :
    let ended := (c.begun.afterCalls schedule calls).database.rollback
    ((∀ before call later, calls = before ++ call :: later →
        ¬ call.BreaksOff schedule (c.begun.afterCalls schedule before)) →
      ended = (.ok (), c.database)) ∧
    (ended.2.Shows c.database.current ↔
      ∀ before call later, calls = before ++ call :: later →
        call.BreaksOff schedule (c.begun.afterCalls schedule before) →
        (((c.begun.afterCalls schedule (before ++ [call])).holding c.database).afterCalls
          schedule later).database.Shows c.database.current) := by
  refine ⟨Connection.rollback_of_goesOn idle, fun shown before call later split breaks => ?_,
    fun each => ?_⟩
  · rw [← Connection.rollback_of_breaksOff idle later breaks, ← split]
    exact shown
  by_cases goesOn : ∀ before call later, calls = before ++ call :: later →
      ¬ call.BreaksOff schedule (c.begun.afterCalls schedule before)
  · obtain ⟨t, stored, -⟩ := Connection.begun_opened idle
    rw [Connection.rollback_of_goesOn idle goesOn, stored]
    exact ⟨rfl, rfl⟩
  · simp only [not_forall, not_not] at goesOn
    obtain ⟨before, call, later, split, breaks⟩ := goesOn
    rw [split, Connection.rollback_of_breaksOff idle later breaks]
    exact each before call later split breaks

/-- A secret is created, and a label is refused because its secret does not exist. -/
theorem rollback_restores_iff_refusedLabel :
    let c := Connection.opened .fresh
    let calls : List Call := [⟨.insertSecret "n" "p", 0⟩, ⟨.insertLabel "l" 9, 0⟩]
    c.database.inTransaction = false ∧
      (c.begun.afterCalls (fun _ => none) calls).database.working ≠ some Tables.empty ∧
      (c.begun.afterCalls (fun _ => none) calls).database.rollback = (.ok (), c.database) := by
  refine ⟨rfl, by decide +kernel, (rollback_restores_iff rfl _ _).1 ?_⟩
  intro before call later split
  rcases before with _ | ⟨first, _ | ⟨second, rest⟩⟩
  · cases split
    intro breaks
    obtain ⟨-, full | ⟨-, -, -, stopped⟩⟩ := breaks
    · exact absurd full (by decide +kernel)
    · cases stopped
  · cases split
    intro breaks
    obtain ⟨-, full | ⟨-, -, -, stopped⟩⟩ := breaks
    · exact absurd full (by decide +kernel)
    · cases stopped
  · cases rest <;> cases split

/-- One secret, with the greatest of all ids. -/
def Engine.Tables.lastSecret : Tables :=
  Tables.empty.addSecret greatestId ⟨.text "", .text "last"⟩

/-- No id is left for another secret. The caller who goes on after that error writes for good. -/
theorem rollback_keeps_later_writes :
    ¬ ∀ (schedule : Schedule) (calls : List Call) (c : Connection),
      c.database.inTransaction = false →
        (c.begun.afterCalls schedule calls).database.rollback.2.Shows c.database.current := by
  intro restores
  have shown := restores (fun _ => none) [⟨.insertSecret "n" "p", 0⟩, ⟨.upsertSecret 5 "kept", 0⟩]
    (.opened (.ofTables .lastSecret)) rfl
  exact absurd shown (by decide +kernel)

end SecretVault
