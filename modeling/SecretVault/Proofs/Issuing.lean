import Mathlib.Logic.Relation
import SecretVault.Proofs.Counting
import SecretVault.Proofs.Transaction.Rollback

/-!
Ids of new secrets. Over every run the count of ids never falls below what was counted in any state
that has been stored, so an id that is handed out is above all ids that were ever stored. The count
ends at the greatest id of all: once that one has been stored, nothing is handed out any more.
-/
namespace SecretVault
open SecretVault.Engine

namespace Engine.Database

/-- One step in the use of a vault: an operation with any token, beginning or ending a transaction,
or opening again what was stored. -/
inductive Step : Database → Database → Prop where
  | operate (c : Connection) (op : Operation) (schedule : Schedule) (token : Token) :
      Step c.database (op.run schedule token c).2.database
  | begin (d : Database) : Step d d.begin.2
  | commit (d : Database) : Step d d.commit.2
  | rollback (d : Database) : Step d d.rollback.2
  | reopen (d : Database) : Step d (.ofTables d.committed)

/-- A run leads from one database to another, in any number of steps. -/
def Leads : Database → Database → Prop := Relation.ReflTransGen Step

variable {d d' : Database}

theorem Step.reachable (step : d.Step d') (before : d.Reachable) : d'.Reachable := by
  cases step with
  | operate c op schedule token => exact .operate op schedule token before
  | begin => exact .begin before
  | commit => exact .commit before
  | rollback => exact .rollback before
  | reopen => exact .reopen before

theorem Leads.reachable (leads : d.Leads d') (before : d.Reachable) : d'.Reachable := by
  induction leads with
  | refl => exact before
  | tail earlier step ih => exact step.reachable ih

/-- What every statement keeps is kept by every step. -/
theorem Step.holds {P : Tables → Prop}
    (keeps : ∀ op : Operation, op.refusal? = none → op.plan.Keeps P) (step : d.Step d')
    (holds : d.Holds P) : d'.Holds P := by
  cases step with
  | operate c op schedule token => exact Operation.holds_run (keeps op) holds schedule token
  | begin => exact holds.begin
  | commit => exact holds.commit
  | rollback => exact holds.rollback
  | reopen => exact holds_ofTables holds.committed

theorem Leads.holds {P : Tables → Prop}
    (keeps : ∀ op : Operation, op.refusal? = none → op.plan.Keeps P) (leads : d.Leads d')
    (holds : d.Holds P) : d'.Holds P := by
  induction leads with
  | refl => exact holds
  | tail earlier step ih => exact step.holds keeps ih

end Engine.Database

/-- The tables count secrets at least as far as a number. -/
def Engine.Tables.CountsTo (n : Int) (t : Tables) : Prop := n ≤ t.secretCount

/-- No change takes back what has been counted. -/
theorem Engine.Tables.CountsTo.changed {t t' : Tables} {n : Int} (counts : t.CountsTo n)
    (changed : t.Changed t') : t'.CountsTo n := by
  cases changed with
  | addSecret id secret => exact Int.le_trans counts (Int.le_max_left _ _)
  | _ => exact counts

theorem Operation.keeps_countsTo (op : Operation) (n : Int) :
    op.plan.Keeps (Tables.CountsTo n) :=
  op.keeps_of_changed fun _ _ counts changed => counts.changed changed

namespace Engine.Database
variable {d d' : Database}

/-- An open transaction counts on from what is stored. -/
def CountsOn (d : Database) : Prop :=
  ∀ t, d.working = some t → t.CountsTo d.committed.secretCount

theorem CountsOn.holds (countsOn : d.CountsOn) :
    d.Holds (Tables.CountsTo d.committed.secretCount) :=
  ⟨Int.le_refl _, countsOn⟩

theorem countsOn_of_idle (idle : d.working = none) : d.CountsOn := by
  intro t opened
  cases idle.symm.trans opened

/-- An operation in a transaction leaves what is stored, or ends the transaction. -/
theorem CountsOn.operate {c : Connection} (countsOn : c.database.CountsOn) (op : Operation)
    (schedule : Schedule) (token : Token) : (op.run schedule token c).2.database.CountsOn := by
  have counted := Operation.holds_run (fun _ => op.keeps_countsTo c.database.committed.secretCount)
    countsOn.holds schedule token
  cases opened : c.database.working with
  | none => exact countsOn_of_idle (Operation.idle_run opened op schedule token)
  | some w =>
    have inside : c.database = ⟨c.database.committed, some w⟩ := by rw [← opened]
    rcases op.run_inTransaction schedule token inside with ⟨-, ended⟩ | ⟨-, w', kept⟩
    · rw [ended]
      exact countsOn_of_idle rfl
    · intro t working
      have stored : (op.run schedule token c).2.database.committed = c.database.committed := by
        rw [kept]
      rw [stored]
      exact counted.working t working

theorem Step.countsOn (step : d.Step d') (countsOn : d.CountsOn) : d'.CountsOn := by
  cases step with
  | operate c op schedule token => exact countsOn.operate op schedule token
  | begin =>
    unfold Database.begin
    split
    · exact countsOn
    · intro t opened
      cases opened
      exact Int.le_refl _
  | commit =>
    unfold Database.commit
    split
    · exact countsOn_of_idle rfl
    · exact countsOn
  | rollback =>
    unfold Database.rollback
    split
    · exact countsOn_of_idle rfl
    · exact countsOn
  | reopen => exact countsOn_of_idle rfl

theorem Reachable.countsOn (reachable : d.Reachable) : d.CountsOn := by
  induction reachable with
  | fresh => exact countsOn_of_idle rfl
  | operate op schedule token before ih => exact ih.operate op schedule token
  | begin before ih => exact (Step.begin _).countsOn ih
  | commit before ih => exact (Step.commit _).countsOn ih
  | rollback before ih => exact (Step.rollback _).countsOn ih
  | reopen before ih => exact (Step.reopen _).countsOn ih

end Engine.Database

namespace Engine.Tables

/-- A drawn id comes right after all that are counted or in use. -/
theorem eq_of_nextId {α : Type} {rows : IdMap α} {count id : Int}
    (drawn : nextId rows count = .ok id) :
    id = max count (rows.lastKey?.getD 0) + 1 ∧ id ≤ greatestId := by
  dsimp only [nextId] at drawn
  split at drawn
  · cases drawn
  · cases drawn
    exact ⟨rfl, by omega⟩

theorem nextId_of_exhausted {α : Type} {count : Int} (exhausted : greatestId ≤ count)
    (rows : IdMap α) : nextId rows count = .error .full := by
  have last : greatestId ≤ max count (rows.lastKey?.getD 0) := by omega
  rw [nextId, if_pos last]

variable {t t' : Tables}

theorem nextId_of_insertSecret {secret : StoredSecret} {id : Int}
    (created : t.insertSecret secret = .ok (id, t')) :
    nextId t.secrets t.secretCount = .ok id := by
  unfold insertSecret at created
  cases drawn : nextId t.secrets t.secretCount with
  | error e =>
    rw [drawn] at created
    cases created
  | ok next =>
    rw [drawn] at created
    cases created
    rfl

theorem insertSecret_of_exhausted (exhausted : t.CountsTo greatestId) (secret : StoredSecret) :
    t.insertSecret secret = .error .full := by
  rw [insertSecret, nextId_of_exhausted exhausted]
  rfl

end Engine.Tables

namespace Operation
variable {name payload : String}

theorem insertSecret_of_perform {d d' : Database} {id : Int}
    (answered : (insertSecret name payload).perform d = (.ok id, d')) :
    ∃ t, d.current.insertSecret ⟨.text name, .text payload⟩ = .ok (id, t) ∧ d' = d.put t := by
  cases created : d.current.insertSecret ⟨.text name, .text payload⟩ with
  | error e =>
    have failed : (Statement.insertSecret name payload).change d.current = .error e := created
    have performed : (insertSecret name payload).perform d = _ := Plan.perform_send_of_error failed
    cases answered.symm.trans performed
  | ok result =>
    have performed : (insertSecret name payload).perform d = (.ok result.1, d.put result.2) :=
      Plan.perform_send_of_ok created
    cases answered.symm.trans performed
    exact ⟨result.2, rfl, rfl⟩

/-- Where no id is left, nothing is inserted; the error says so unless the token is cancelled. -/
theorem run_insertSecret_of_full {c : Connection} (schedule : Schedule) (token : Token)
    (full : c.database.current.insertSecret ⟨.text name, .text payload⟩ = .error .full) :
    let ran := (insertSecret name payload).run schedule token c
    (ran.1 = .error (.engine .full) ∨ ran.1 = .error .cancelled) ∧
      (ran.2.database = c.database ∨ ran.2.database = c.database.abandon) := by
  dsimp only
  cases cancelled : schedule.cancelled token c.clock with
  | true =>
    have refused : (insertSecret name payload).run schedule token c =
        (.error .cancelled, { c with clock := c.clock + 1 }) := by
      simp [run, refusal?, Connection.install, cancelled]
    rw [refused]
    exact ⟨.inr rfl, .inl rfl⟩
  | false =>
    have accepted : (insertSecret name payload).refusal? = none := rfl
    obtain ⟨answer, database⟩ := run_of_accepted accepted cancelled
    rw [answer, database]
    generalize sees : ({ c with handler := some token, clock := c.clock + 1 } : Connection) =
      looking
    have same : looking.database = c.database := by rw [← sees]
    have plan : (insertSecret name payload).plan =
      .send (Statement.insertSecret name payload) fun id => .answer (.ok id) := rfl
    rw [plan, Plan.run]
    cases stops : looking.stops schedule (Statement.insertSecret name payload).checks with
    | true =>
      have sent : looking.send schedule (Statement.insertSecret name payload) = (.error .interrupted,
          { looking with
            clock := looking.clock + (Statement.insertSecret name payload).checks
            database := looking.database.abandon }) := by
        rw [Connection.send_eq, if_pos stops]
        rfl
      rw [sent, ← same]
      exact ⟨.inr rfl, .inr rfl⟩
    | false =>
      have failed : (Statement.insertSecret name payload).change looking.database.current =
          .error .full := by
        rw [same]
        exact full
      have sent : looking.send schedule (Statement.insertSecret name payload) = (.error .full,
          { looking with
            clock := looking.clock + (Statement.insertSecret name payload).checks
            database := looking.database.abandon }) := by
        simp [Connection.send_eq, stops, Database.apply, failed, Error.endsTransaction]
      rw [sent, ← same]
      exact ⟨.inl rfl, .inr rfl⟩

end Operation

/-- The id of a new secret is positive, comes right after all that were counted, and is above all
ids in the vault and above all that were stored at any time before. Once the greatest id of all has
been stored, no secret is created any more, whatever was deleted since: the attempt fails because no
id is left, or because its token is cancelled, and leaves nothing behind. -/
theorem secret_ids_never_return {past : Database} (reachable : past.Reachable) {c : Connection}
    (leads : past.Leads c.database) (schedule : Schedule) (token : Token)
    (name payload : String) :
    let ran := (Operation.insertSecret name payload).run schedule token c
    (∀ id : Int, ran.1 = .ok id →
      0 < id ∧ id ≤ greatestId ∧ id = c.database.current.secretCount + 1 ∧
      (∀ used ∈ c.database.current.secrets.keys, used < id) ∧
      ∀ used ∈ past.committed.secrets.keys, used < id) ∧
    (greatestId ∈ past.committed.secrets.keys →
      (ran.1 = .error (.engine .full) ∨ ran.1 = .error .cancelled) ∧
      ((Operation.insertSecret name payload).EndsLive schedule token c →
        ran.1 = .error (.engine .full)) ∧
      (ran.2.database = c.database ∨ ran.2.database = c.database.abandon)) := by
  have pastCounted := reachable.counted.committed.secrets
  have counted := (leads.reachable reachable).counted.current.secrets
  have countsOn : c.database.current.CountsTo past.committed.secretCount :=
    (leads.holds (fun op _ => op.keeps_countsTo _) reachable.countsOn.holds).current
  have nonneg : c.database.current.CountsTo 0 :=
    ((leads.reachable reachable).holds (Int.le_refl 0) fun op _ => op.keeps_countsTo 0).current
  unfold Tables.CountsTo at countsOn nonneg
  refine ⟨fun id answered => ?_, fun stored => ?_⟩
  · obtain ⟨t, created, -⟩ :=
      Operation.insertSecret_of_perform (Operation.perform_of_run answered)
    have drawn := Tables.nextId_of_insertSecret created
    obtain ⟨next, room⟩ := Tables.eq_of_nextId drawn
    have last : c.database.current.secrets.lastKey?.getD 0 ≤ c.database.current.secretCount :=
      Tables.lastKey_le_of_counted counted nonneg
    have same : id = c.database.current.secretCount + 1 := by omega
    refine ⟨by omega, room, same, fun used member => ?_, fun used member => ?_⟩
    · have below := counted used member
      omega
    · have below := pastCounted used member
      omega
  · have exhausted : c.database.current.CountsTo greatestId :=
      Int.le_trans (pastCounted _ stored) countsOn
    have full := Tables.insertSecret_of_exhausted exhausted ⟨.text name, .text payload⟩
    obtain ⟨fails, leaves⟩ := Operation.run_insertSecret_of_full schedule token full
    refine ⟨fails, fun live => ?_, leaves⟩
    have failed : (Statement.insertSecret name payload).change c.database.current =
        .error .full := full
    rw [(Operation.run_of_live live).1]
    exact congrArg Prod.fst (Plan.perform_send_of_error failed)

/-- A secret is deleted, and a greater id is given up with its transaction: the next id follows the
one that was deleted. After the greatest id of all was stored and deleted there is none. -/
theorem secret_ids_never_return_deleted :
    let live : Schedule := fun _ => none
    let run (op : Operation) (d : Database) := (op.run live 0 (.opened d)).2.database
    let past := run (.upsertSecret 41 "a") (run (.upsertSecret (-5) "b") .fresh)
    let inside := run (.upsertSecret 100 "c") (run (.deleteSecrets [41]) past).begin.2
    let now := Database.ofTables inside.rollback.2.committed
    let last := run (.upsertSecret greatestId "d") now
    let emptied := run (.deleteSecrets [greatestId]) last
    let created (d : Database) := (Operation.insertSecret "n" "p").run live 0 (.opened d)
    past.Reachable ∧ past.Leads now ∧ past.committed.secrets.keys = [-5, 41] ∧
      now.committed.secrets.keys = [-5] ∧ (created now).1 = .ok (42 : Int) ∧
      (∀ used ∈ past.committed.secrets.keys, used < 42) ∧
      last.Reachable ∧ last.Leads emptied ∧ greatestId ∈ last.committed.secrets.keys ∧
      emptied.committed.secrets.keys = [-5] ∧ (created emptied).1 = .error (.engine .full) := by
  intro live run past inside now last emptied created
  have reachable : past.Reachable :=
    .operate (c := .opened _) _ _ _ (.operate (c := .opened .fresh) _ _ _ .fresh)
  have deleted : past.Leads inside :=
    ((Relation.ReflTransGen.single (.operate (.opened past) (.deleteSecrets [41]) live 0)).tail
      (.begin _)).tail (.operate (.opened _) (.upsertSecret 100 "c") live 0)
  have leads : past.Leads now := (deleted.tail (.rollback _)).tail (.reopen _)
  have stored : last.Reachable := .operate (c := .opened _) _ _ _ (leads.reachable reachable)
  have emptiedLater : last.Leads emptied :=
    Relation.ReflTransGen.single (.operate (.opened last) (.deleteSecrets [greatestId]) live 0)
  have answered : (created now).1 = .ok (42 : Int) := by decide +kernel
  have held : greatestId ∈ last.committed.secrets.keys := by decide +kernel
  obtain ⟨above, -⟩ := secret_ids_never_return (c := .opened now) reachable leads live 0 "n" "p"
  obtain ⟨-, exhausted⟩ :=
    secret_ids_never_return (c := .opened emptied) stored emptiedLater live 0 "n" "p"
  obtain ⟨-, fails, -⟩ := exhausted held
  refine ⟨reachable, leads, by decide +kernel, by decide +kernel, answered,
    (above 42 answered).2.2.2.2, stored, emptiedLater, held, by decide +kernel, fails ?_⟩
  exact Operation.endsLive_of_never rfl _ _

end SecretVault
