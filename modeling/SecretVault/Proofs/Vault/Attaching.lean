import SecretVault.Proofs.Failing
import SecretVault.Proofs.Issuing
import SecretVault.Proofs.Vault.Integrity

/-!
Ids of labels. Attaching a label answers the id of its row, whether the row is new or was there
before. A row keeps its id until it is removed, so attaching the same label again answers the same
id, whatever was inserted in between; and a new row comes under an id above all that were in use.
-/
namespace SecretVault
open SecretVault.Engine

@[simp] theorem Engine.Connection.database_opened (d : Database) :
    (Connection.opened d).database = d := rfl

namespace Engine.Tables
variable {t t' : Tables} {label : StoredLabel} {i j : Int}

theorem get?_of_labelId? (found : t.labelId? label = some i) : t.labels.get? i = some label := by
  obtain ⟨entry, first, rfl⟩ := Option.map_eq_some_iff.1 found
  have equal := List.find?_some first
  rw [beq_iff_eq] at equal
  exact IdMap.get?_eq_some_iff.2 (equal ▸ List.mem_of_find?_eq_some first)

theorem labelId?_eq_none_iff : t.labelId? label = none ↔ ∀ i, t.labels.get? i ≠ some label := by
  rw [labelId?, Option.map_eq_none_iff, List.find?_eq_none]
  constructor
  · intro absent i held
    exact absent (i, label) (IdMap.get?_eq_some_iff.1 held) (beq_self_eq_true label)
  · rintro absent ⟨i, other⟩ member equal
    exact absent i (eq_of_beq equal ▸ IdMap.get?_eq_some_iff.2 member)

/-- A label that is there once is there under one id. -/
theorem id_unique (distinct : t.labels.values.Nodup) (first : t.labels.get? i = some label)
    (second : t.labels.get? j = some label) : i = j := by
  have same := List.inj_on_of_nodup_map distinct (IdMap.get?_eq_some_iff.1 first)
    (IdMap.get?_eq_some_iff.1 second) rfl
  exact congrArg Prod.fst same

theorem labelId?_of_get? (distinct : t.labels.values.Nodup)
    (held : t.labels.get? i = some label) : t.labelId? label = some i := by
  cases found : t.labelId? label with
  | none => exact absurd held (labelId?_eq_none_iff.1 found i)
  | some j => rw [id_unique distinct held (get?_of_labelId? found)]

/-- What attaching a label answers in the end, and what it makes of the tables. -/
inductive Attaches (t : Tables) (label : StoredLabel) : Int → Tables → Prop where
  | there {i next : Int} (held : t.labels.get? i = some label)
      (drawn : nextId t.labels t.labelCount = .ok next) :
      Attaches t label i { t with labelCount := next }
  | new {i : Int} (absent : ∀ j, t.labels.get? j ≠ some label)
      (drawn : nextId t.labels t.labelCount = .ok i)
      (owned : t.secrets.contains label.secretId = true) :
      Attaches t label i (t.addLabel i label)

theorem exists_nextId {α : Type} {rows : IdMap α} {count : Int} (room : HasNextId rows count) :
    ∃ next, nextId rows count = .ok next := by
  cases drawn : nextId rows count with
  | error e => exact absurd room (exhausted_of_nextId drawn).1
  | ok next => exact ⟨next, rfl⟩

/-- With an id left and the secret there, a label can be attached. -/
theorem exists_attaches (room : HasNextId t.labels t.labelCount)
    (owned : t.secrets.contains label.secretId = true) : ∃ i t', t.Attaches label i t' := by
  obtain ⟨next, drawn⟩ := exists_nextId room
  cases found : t.labelId? label with
  | none => exact ⟨next, _, .new (labelId?_eq_none_iff.1 found) drawn owned⟩
  | some i => exact ⟨i, _, .there (get?_of_labelId? found) drawn⟩

namespace Attaches

theorem get? (attaches : t.Attaches label i t') : t'.labels.get? i = some label := by
  cases attaches with
  | there held drawn => exact held
  | new absent drawn owned => simp [addLabel]

/-- A label that is there is answered with its own id, and no row is changed. -/
theorem of_there (attaches : t.Attaches label i t') (distinct : t.labels.values.Nodup)
    (held : t.labels.get? j = some label) : i = j ∧ t.SameRows t' := by
  cases attaches with
  | there other drawn => exact ⟨id_unique distinct other held, rfl, rfl, rfl⟩
  | new absent drawn owned => exact absurd held (absent j)

/-- A label that is not there gets an id above all that are counted. -/
theorem of_absent (attaches : t.Attaches label i t') (absent : ∀ j, t.labels.get? j ≠ some label) :
    t' = t.addLabel i label ∧ t.labelCount < i := by
  cases attaches with
  | there held drawn => exact absurd held (absent i)
  | new _ drawn owned =>
    obtain ⟨next, -⟩ := eq_of_nextId drawn
    exact ⟨rfl, by omega⟩

/-- It is never answered with the id of another label. -/
theorem ne_of_other (attaches : t.Attaches label i t') {other : StoredLabel}
    (held : t.labels.get? j = some other) (different : other ≠ label) : i ≠ j := by
  rintro rfl
  cases attaches with
  | there own drawn => exact different (Option.some.inj (held.symm.trans own))
  | new absent drawn owned =>
    exact Int.lt_irrefl _ (nextId_above drawn _ (IdMap.get?_eq_some_iff.1 held))

end Attaches

/-- The first statement finds the label there, or adds it. -/
theorem attachLabel_cases {answer : Option Int} (attached : t.attachLabel label = .ok (answer, t')) :
    ∃ next, nextId t.labels t.labelCount = .ok next ∧
      (answer = none ∧ (∃ i, t.labelId? label = some i) ∧ t' = { t with labelCount := next } ∨
        answer = some next ∧ t.labelId? label = none ∧
          t.secrets.contains label.secretId = true ∧ t' = t.addLabel next label) := by
  rw [attachLabel_eq] at attached
  cases drawn : nextId t.labels t.labelCount with
  | error e =>
    rw [drawn] at attached
    cases attached
  | ok next =>
    simp only [drawn, bind, Except.bind] at attached
    refine ⟨next, rfl, ?_⟩
    split at attached
    · rename_i there
      cases attached
      exact .inl ⟨rfl, Option.isSome_iff_exists.1 there, rfl⟩
    · rename_i absent
      split at attached
      · rename_i owned
        cases attached
        exact .inr ⟨rfl, Option.not_isSome_iff_eq_none.1 absent, owned, rfl⟩
      · cases attached

/-- No change takes back what has been counted of labels. -/
theorem Changed.labelCount_le (changed : t.Changed t') : t.labelCount ≤ t'.labelCount := by
  cases changed with
  | addLabel drawn label => exact Int.le_max_left _ _
  | countLabel drawn =>
    obtain ⟨next, -⟩ := eq_of_nextId drawn
    dsimp only
    omega
  | _ => exact Int.le_refl _

end Engine.Tables

namespace Operation
variable {d d' : Database} {name : String} {secretId i : Int}

/-- The row is there already: its id is looked up. -/
theorem perform_insertLabel_of_there {t : Tables}
    (changed : d.current.attachLabel ⟨.text name, secretId⟩ = .ok (none, t))
    (found : t.labelId? ⟨.text name, secretId⟩ = some i) :
    (insertLabel name secretId).perform d = (.ok i, d.put t) := by
  have sent : (Statement.insertLabel name secretId).change d.current = .ok (none, t) := changed
  have read : (Statement.selectLabelId name secretId).change (d.put t).current =
      .ok (i, (d.put t).current) := by
    simp only [Statement.selectLabelId, Statement.change_reading, Database.current_put, found]
    rfl
  refine (Plan.perform_send_of_ok sent).trans ((Plan.perform_send_of_ok read).trans ?_)
  rw [Database.put_current]
  rfl

/-- Attaching a label answers, without being stopped, exactly what it should. -/
theorem perform_insertLabel_iff (distinct : d.current.labels.values.Nodup) :
    (insertLabel name secretId).perform d = (.ok i, d') ↔
      ∃ t, d.current.Attaches ⟨.text name, secretId⟩ i t ∧ d' = d.put t := by
  constructor
  · intro answered
    cases attached : d.current.attachLabel ⟨.text name, secretId⟩ with
    | error e =>
      have failed : (Statement.insertLabel name secretId).change d.current = .error e := attached
      have performed : (insertLabel name secretId).perform d = _ :=
        Plan.perform_send_of_error failed
      cases answered.symm.trans performed
    | ok result =>
      obtain ⟨answer, t⟩ := result
      obtain ⟨next, drawn, ⟨rfl, ⟨j, found⟩, rfl⟩ | ⟨rfl, absent, owned, rfl⟩⟩ :=
        Tables.attachLabel_cases attached
      · cases answered.symm.trans (perform_insertLabel_of_there attached found)
        exact ⟨_, .there (Tables.get?_of_labelId? found) drawn, rfl⟩
      · have sent : (Statement.insertLabel name secretId).change d.current = _ := attached
        have performed : (insertLabel name secretId).perform d = (.ok next, _) :=
          Plan.perform_send_of_ok sent
        cases answered.symm.trans performed
        exact ⟨_, .new (Tables.labelId?_eq_none_iff.1 absent) drawn owned, rfl⟩
  · rintro ⟨t, attaches, rfl⟩
    cases attaches with
    | there held drawn =>
      have found := Tables.labelId?_of_get? distinct held
      refine perform_insertLabel_of_there ?_ found
      simp [Tables.attachLabel_eq, drawn, bind, Except.bind, found, pure, Except.pure]
    | new absent drawn owned =>
      have sent : (Statement.insertLabel name secretId).change d.current =
          .ok (some i, d.current.addLabel i ⟨.text name, secretId⟩) := by
        have none := Tables.labelId?_eq_none_iff.2 absent
        have known : d.current.secrets.contains secretId = true := owned
        have attached : (Statement.insertLabel name secretId).change d.current =
          d.current.attachLabel ⟨.text name, secretId⟩ := rfl
        rw [attached]
        simp [Tables.attachLabel_eq, drawn, bind, Except.bind, none, known, pure, Except.pure]
      exact Plan.perform_send_of_ok sent

/-- An operation that removes neither a label of this name from the secret nor the secret itself. -/
def Spares (name : String) (secretId : Int) : Operation → Prop
  | .deleteSecrets ids => secretId ∉ ids
  | .deleteLabels owner patterns =>
    owner = secretId → (Cell.text name).matchesAny patterns = false
  | _ => True

/-- What is spared stays under its id. -/
theorem Spares.keeps {op : Operation} (spares : op.Spares name secretId)
    (accepted : op.refusal? = none) (i : Int) :
    op.plan.Keeps fun t => t.labels.get? i = some ⟨.text name, secretId⟩ := by
  cases op with
  | insertMasterKey key =>
    refine Plan.keeps_send_answer fun t a t' held changed => ?_
    cases changed
    exact held
  | insertSecret secretName payload =>
    refine Plan.keeps_send_answer fun t id t' held created => ?_
    have inserted : t.insertSecret ⟨.text secretName, .text payload⟩ = .ok (id, t') := created
    rw [Tables.insertSecret, Tables.nextId_of_insertSecret inserted] at inserted
    cases inserted
    exact held
  | upsertSecret id payload =>
    refine Plan.keeps_send_answer fun t n t' held changed => ?_
    have change : t.upsertPayload id (.text payload) = (n, t') := Except.ok.inj changed
    unfold Tables.upsertPayload at change
    split at change <;> cases change <;> exact held
  | renameSecret id newName =>
    refine Plan.keeps_send_answer fun t n t' held changed => ?_
    have change : t.renameSecret id (.text newName) = (n, t') := Except.ok.inj changed
    unfold Tables.renameSecret at change
    split at change <;> cases change <;> exact held
  | deleteSecrets ids =>
    refine Plan.keeps_send_answer fun t n t' held changed => ?_
    obtain rfl : (t.deleteSecrets ids).2 = t' :=
      congrArg Prod.snd (Statement.eq_of_deleteSecrets changed)
    have other : secretId ∉ ids := spares
    rw [Tables.labels_deleteSecrets]
    simp [held, other]
  | insertLabel other owner =>
    refine ⟨fun t answer t' held attached => ?_, fun answer => ?_⟩
    · obtain ⟨next, drawn, ⟨-, -, rfl⟩ | ⟨-, -, -, rfl⟩⟩ := Tables.attachLabel_cases attached
      · exact held
      · -- the new row comes under an id above this one
        have above := Tables.nextId_above drawn _ (IdMap.get?_eq_some_iff.1 held)
        dsimp only at above
        rw [Tables.addLabel, IdMap.get?_insert, if_neg (by omega)]
        exact held
    · cases answer with
      | some labelId => trivial
      | none => exact Plan.keeps_send_answer (Statement.keeps_reading _ _ _ _)
  | deleteLabels owner patterns =>
    refine Plan.keeps_send_answer fun t n t' held changed => ?_
    have given : patterns ≠ [] := by
      rintro rfl
      cases accepted
    rcases Statement.change_deleteLabels_cases t owner given with ⟨e, failed, -⟩ | deleted
    · cases changed.symm.trans failed
    · cases changed.symm.trans deleted
      have unmatched : secretId = owner → (Cell.text name).matchesAny patterns = false :=
        fun own => spares own.symm
      simpa [held, imp_iff_not_or] using unmatched
  | queryMasterKey | readPayload _ | searchColumn _ _ | searchIds _ | searchLabelsAndName _ _ =>
    exact Plan.keeps_send_answer (Statement.keeps_reading _ _ _ _)

end Operation

/-- A plan that keeps a property of the tables keeps it in a transaction, or ends the transaction and
is back at what was stored before. -/
theorem Plan.Keeps.run_inTransaction {α : Type} {P : Tables → Prop} {plan : Plan α}
    (keeps : plan.Keeps P) (schedule : Schedule) {c : Connection} {t w : Tables}
    (opened : c.database = ⟨t, some w⟩) (holds : P w) :
    (∃ w', (plan.run schedule c).2.database = ⟨t, some w'⟩ ∧ P w') ∨
      (plan.run schedule c).2.database = .ofTables t := by
  induction plan generalizing c w with
  | answer result => exact .inl ⟨w, opened, holds⟩
  | send statement next ih =>
    have current : c.database.current = w := by rw [opened]; rfl
    have abandoned : c.database.abandon = .ofTables t := by rw [opened]; rfl
    rw [Plan.run]
    cases stops : c.stops schedule statement.checks with
    | true =>
      simp only [Connection.send_eq, stops, if_true]
      cases statement.writes with
      | true => exact .inr abandoned
      | false => exact .inl ⟨w, opened, holds⟩
    | false =>
      simp only [Connection.send_eq, stops, Bool.false_eq_true, if_false, Database.apply, current]
      cases changed : statement.change w with
      | ok result =>
        have put : c.database.put result.2 = ⟨t, some result.2⟩ := by rw [opened]; rfl
        exact ih result.1 (keeps.2 result.1) put (keeps.1 w result.1 result.2 holds changed)
      | error e =>
        cases ends : e.endsTransaction with
        | true => exact .inr (by simpa [ends] using abandoned)
        | false => exact .inl ⟨w, by simpa [ends] using opened, holds⟩

/-- What every statement of an operation keeps of the tables, the operation keeps of those that its
connection sees, unless it undoes an open transaction. -/
theorem Operation.current_run {P : Tables → Prop} {op : Operation}
    (keeps : op.refusal? = none → op.plan.Keeps P) (schedule : Schedule) (token : Token)
    {c : Connection} (holds : P c.database.current) :
    P (op.run schedule token c).2.database.current ∨ c.database.inTransaction = true ∧
      (op.run schedule token c).2.database = .ofTables c.database.committed := by
  cases opened : c.database.working with
  | none =>
    have idle : c.database.inTransaction = false := by rw [Database.inTransaction, opened]; rfl
    have stored : c.database.Holds P :=
      Database.eq_ofTables idle ▸ Database.holds_ofTables holds
    exact .inl (holds_run keeps stored schedule token).current
  | some w =>
    have inside : c.database = ⟨c.database.committed, some w⟩ := by rw [← opened]
    have seen : P w := by rw [inside] at holds; exact holds
    rcases op.database_run schedule token c with same | ⟨accepted, ran⟩
    · rw [same]
      exact .inl holds
    · rw [ran]
      rcases (keeps accepted).run_inTransaction (c :=
          { c with handler := some token, clock := c.clock + 1 }) schedule inside seen with
        ⟨w', kept, held⟩ | ended
      · rw [kept]
        exact .inl held
      · exact .inr ⟨by rw [Database.inTransaction, opened]; rfl, ended⟩

namespace Engine.Database
variable {allowed : Operation → Prop} {safe P : Tables → Prop} {d d' : Database}

/-- One step in the use of a vault: an allowed operation with any token, beginning or ending a
transaction, or opening again what was stored. A step that undoes an open transaction, as an
operation does that breaks off, is taken only where it is safe to be back at what was stored. -/
inductive Onward (allowed : Operation → Prop) (safe : Tables → Prop) :
    Database → Database → Prop where
  | operate (c : Connection) {op : Operation} (allows : allowed op) (schedule : Schedule)
      (token : Token)
      (goesOn : c.database.inTransaction = true →
        (op.run schedule token c).2.database.inTransaction = true ∨ safe c.database.committed) :
      Onward allowed safe c.database (op.run schedule token c).2.database
  | begin (d : Database) : Onward allowed safe d d.begin.2
  | commit (d : Database) : Onward allowed safe d d.commit.2
  | rollback (d : Database) (back : d.inTransaction = true → safe d.committed) :
      Onward allowed safe d d.rollback.2
  | reopen (d : Database) (back : d.inTransaction = true → safe d.committed) :
      Onward allowed safe d (.ofTables d.committed)

/-- An operation on a connection that was opened for it. -/
theorem Onward.opened (d : Database) {op : Operation} (allows : allowed op) (schedule : Schedule)
    (token : Token) (goesOn : d.inTransaction = true →
      (op.run schedule token (.opened d)).2.database.inTransaction = true ∨ safe d.committed) :
    d.Onward allowed safe (op.run schedule token (.opened d)).2.database :=
  .operate (.opened d) allows schedule token goesOn

theorem Onward.step (onward : d.Onward allowed safe d') : d.Step d' := by
  cases onward with
  | operate c allows schedule token goesOn => exact .operate c _ schedule token
  | begin => exact .begin d
  | commit => exact .commit d
  | rollback => exact .rollback d
  | reopen => exact .reopen d

/-- What the allowed operations keep of the tables, and what is so where it is safe to be back at,
stays so. -/
theorem Onward.holds (keeps : ∀ op, allowed op → op.refusal? = none → op.plan.Keeps P)
    (returns : ∀ t, safe t → P t) (onward : d.Onward allowed safe d') (holds : P d.current) :
    P d'.current := by
  cases onward with
  | operate c allows schedule token goesOn =>
    rcases Operation.current_run (keeps _ allows) schedule token holds with
      kept | ⟨inside, ended⟩
    · exact kept
    · rcases goesOn inside with still | back
      · rw [ended] at still
        cases still
      · rw [ended]
        exact returns _ back
  | begin =>
    unfold Database.begin
    split
    · exact holds
    · rename_i idle
      rw [eq_ofTables (Bool.eq_false_iff.2 idle)] at holds ⊢
      exact holds
  | commit =>
    unfold Database.commit
    split
    · rename_i t opened
      rw [current, opened] at holds
      exact holds
    · exact holds
  | rollback _ back =>
    unfold Database.rollback
    split
    · rename_i inside
      exact returns _ (back inside)
    · exact holds
  | reopen _ back =>
    cases inside : d.inTransaction with
    | true => exact returns _ (back inside)
    | false =>
      rw [eq_ofTables inside] at holds ⊢
      exact holds

theorem onwards_holds (keeps : ∀ op, allowed op → op.refusal? = none → op.plan.Keeps P)
    (returns : ∀ t, safe t → P t) (onwards : Relation.ReflTransGen (Onward allowed safe) d d')
    (holds : P d.current) : P d'.current := by
  induction onwards with
  | refl => exact holds
  | tail earlier onward ih => exact onward.holds keeps returns ih

theorem leads_of_onwards (onwards : Relation.ReflTransGen (Onward allowed safe) d d') :
    d.Leads d' := by
  induction onwards with
  | refl => exact .refl
  | tail earlier onward ih => exact ih.tail onward.step

/-- A run in which nothing is undone. -/
def LeadsOnward : Database → Database → Prop :=
  Relation.ReflTransGen (Onward (fun _ => True) fun _ => False)

/-- A run in which the row of a label is removed by no operation and never undone. -/
def LeadsSparing (i : Int) (name : String) (secretId : Int) : Database → Database → Prop :=
  Relation.ReflTransGen
    (Onward (Operation.Spares name secretId) fun t => t.labels.get? i = some ⟨.text name, secretId⟩)

theorem LeadsSparing.get? {name : String} {secretId i : Int}
    (leads : d.LeadsSparing i name secretId d')
    (held : d.current.labels.get? i = some ⟨.text name, secretId⟩) :
    d'.current.labels.get? i = some ⟨.text name, secretId⟩ :=
  onwards_holds (fun _ spares accepted => spares.keeps accepted i) (fun _ back => back) leads held

theorem keeps_labelCount (n : Int) (op : Operation) :
    op.plan.Keeps fun t => n ≤ t.labelCount :=
  op.keeps_of_changed fun _ _ counted changed => Int.le_trans counted changed.labelCount_le

/-- Ids that were in use are counted, if nothing was undone since. -/
theorem LeadsOnward.counted (leads : d.LeadsOnward d') (reachable : d.Reachable) {used : Int}
    (member : used ∈ d.current.labels.keys) : used ≤ d'.current.labelCount :=
  onwards_holds (fun op _ _ => keeps_labelCount used op) (fun _ => False.elim) leads
    (reachable.counted.current.labels used member)

/-- Ids that were stored are counted for good. -/
theorem Leads.counted (leads : d.Leads d') (reachable : d.Reachable)
    (idle : d.inTransaction = false) {used : Int} (member : used ∈ d.committed.labels.keys) :
    used ≤ d'.current.labelCount := by
  have counted : d.Holds fun t => used ≤ t.labelCount := by
    rw [eq_ofTables idle] at member ⊢
    exact holds_ofTables (reachable.counted.current.labels used member)
  exact (leads.holds (fun op _ => keeps_labelCount used op) counted).current

end Engine.Database

/-- The statement that attaches a label, with what the engine reports of an insertion as its answer:
how many rows it has added, and which id was the last that a row was inserted under. If no row was
added, this is the id of some row inserted before, whichever table that went to. -/
def Engine.Statement.insertLabelReported (last : Int) (name : String) (secretId : Int) :
    Statement (Nat × Int) :=
  let statement := Statement.insertLabel name secretId
  ⟨statement.sql, statement.params, statement.writes, statement.checks, fun settings t =>
    (statement.under settings t).map fun (new, t) => (new.elim (0, last) fun id => (1, id), t)⟩

/-- Attaches a label going by what the engine reports. -/
def Plan.attachByReport (last : Int) (name : String) (secretId : Int) : Plan Int :=
  .send (.insertLabelReported last name secretId) fun (added, inserted) =>
    if added = 1 then Plan.answer (.ok inserted) else .single (.selectLabelId name secretId)

/-- What was inserted before makes no difference. -/
theorem Plan.perform_attachByReport (last : Int) (name : String) (secretId : Int) (d : Database) :
    (attachByReport last name secretId).perform d =
      (Operation.insertLabel name secretId).perform d := by
  have reported : (Statement.insertLabelReported last name secretId).change d.current =
      (d.current.attachLabel ⟨.text name, secretId⟩).map fun (new, t) =>
        (new.elim (0, last) fun id => (1, id), t) := rfl
  cases attached : d.current.attachLabel ⟨.text name, secretId⟩ with
  | error e =>
    rw [attached] at reported
    have sent : (Statement.insertLabel name secretId).change d.current = .error e := attached
    have performed : (Operation.insertLabel name secretId).perform d = _ :=
      perform_send_of_error sent
    exact (perform_send_of_error reported).trans performed.symm
  | ok result =>
    rw [attached] at reported
    have sent : (Statement.insertLabel name secretId).change d.current = .ok result := attached
    have performed : (Operation.insertLabel name secretId).perform d = _ :=
      perform_send_of_ok sent
    refine (perform_send_of_ok reported).trans (Eq.trans ?_ performed.symm)
    cases result.1 <;> rfl

/-- While the row of a label is there, its id answers calls for this label and for no other one. -/
theorem Operation.insertLabel_of_held {c : Connection} (reachable : c.database.Reachable) {i : Int}
    {name : String} {secretId : Int}
    (held : c.database.current.labels.get? i = some ⟨.text name, secretId⟩)
    (schedule : Schedule) (token : Token) :
    let ran := (insertLabel name secretId).run schedule token c
    (∀ k, ran.1 = .ok k → k = i) ∧
      ((insertLabel name secretId).EndsLive schedule token c →
        HasNextId c.database.current.labels c.database.current.labelCount →
        ran.1 = .ok i ∧ c.database.current.SameRows ran.2.database.current) ∧
      ∀ (other : String) (owner k : Int), (other, owner) ≠ (name, secretId) →
        ((insertLabel other owner).run schedule token c).1 = .ok k → k ≠ i := by
  have distinct : c.database.current.labels.values.Nodup := reachable.intact.current.labels
  refine ⟨fun k answered => ?_, fun live room => ?_, fun other owner k different answered => ?_⟩
  · obtain ⟨t, attached, -⟩ := (perform_insertLabel_iff distinct).1 (perform_of_run answered)
    exact (attached.of_there distinct held).1
  · obtain ⟨next, drawn⟩ := Tables.exists_nextId room
    have performed := (perform_insertLabel_iff distinct).2 ⟨_, .there held drawn, rfl⟩
    obtain ⟨answer, database⟩ := run_of_live live
    rw [performed] at answer database
    rw [database, Database.current_put]
    exact ⟨answer, rfl, rfl, rfl⟩
  · obtain ⟨t, attached, -⟩ := (perform_insertLabel_iff distinct).1 (perform_of_run answered)
    refine attached.ne_of_other held fun same => different ?_
    obtain ⟨sameName, sameOwner⟩ := StoredLabel.mk.inj same
    rw [Cell.text.inj sameName, sameOwner]

/-- Attaching a label to a secret that is there, in an open transaction or without one, answers the
id of its row, whichever row was inserted last before. A label that was there is answered with the id
it had, and no row is changed. A new one gets an id above all that are in use, that have been since
anything was undone, or that were ever stored. From then on, as long as the row is not removed, the
same call answers the same id however often it is repeated, and a call for another label never
does. -/
theorem label_ids_identify_rows {c : Connection} (reachable : c.database.Reachable) {name : String}
    {secretId : Int} (owned : c.database.current.secrets.contains secretId = true)
    (room : HasNextId c.database.current.labels c.database.current.labelCount)
    {schedule : Schedule} {token : Token}
    (live : (Operation.insertLabel name secretId).EndsLive schedule token c) :
    let label : StoredLabel := ⟨.text name, secretId⟩
    let ran := (Operation.insertLabel name secretId).run schedule token c
    let before := c.database.current
    ∃ (i : Int) (after : Tables), ran.1 = .ok i ∧ ran.2.database = c.database.put after ∧
      after.labels.get? i = some label ∧
      (∀ last, (Plan.attachByReport last name secretId).perform c.database =
        (.ok i, c.database.put after)) ∧
      (∀ j, before.labels.get? j = some label → i = j ∧ before.SameRows after) ∧
      ((∀ j, before.labels.get? j ≠ some label) → after = before.addLabel i label ∧
        (∀ past : Database, past.Reachable → past.LeadsOnward c.database →
          ∀ used ∈ past.current.labels.keys, used < i) ∧
        ∀ past : Database, past.Reachable → past.inTransaction = false →
          past.Leads c.database → ∀ used ∈ past.committed.labels.keys, used < i) ∧
      ∀ later : Connection, ran.2.database.LeadsSparing i name secretId later.database →
        later.database.current.labels.get? i = some label ∧
        ∀ (schedule : Schedule) (token : Token),
          let again := (Operation.insertLabel name secretId).run schedule token later
          (∀ k, again.1 = .ok k → k = i) ∧
          ((Operation.insertLabel name secretId).EndsLive schedule token later →
            HasNextId later.database.current.labels later.database.current.labelCount →
            again.1 = .ok i ∧
              later.database.current.SameRows again.2.database.current) ∧
          ∀ (other : String) (owner k : Int), (other, owner) ≠ (name, secretId) →
            ((Operation.insertLabel other owner).run schedule token later).1 = .ok k → k ≠ i := by
  intro label ran before
  have distinct : before.labels.values.Nodup := reachable.intact.current.labels
  obtain ⟨i, after, attaches⟩ : ∃ i t, before.Attaches label i t :=
    Tables.exists_attaches room owned
  have performed := (Operation.perform_insertLabel_iff distinct).2 ⟨after, attaches, rfl⟩
  obtain ⟨answer, database⟩ := Operation.run_of_live live
  rw [performed] at answer database
  have held : ran.2.database.current.labels.get? i = some label := by
    rw [database, Database.current_put]
    exact attaches.get?
  refine ⟨i, after, answer, database, attaches.get?,
    fun last => (Plan.perform_attachByReport last name secretId _).trans performed,
    fun j there => attaches.of_there distinct there, fun absent => ?_, fun later leads => ?_⟩
  · obtain ⟨added, above⟩ := attaches.of_absent absent
    exact ⟨added,
      fun past reached leads used member =>
        Int.lt_of_le_of_lt (leads.counted reached member) above,
      fun past reached idle leads used member =>
        Int.lt_of_le_of_lt (leads.counted reached idle member) above⟩
  · have laterReachable : later.database.Reachable :=
      (Database.leads_of_onwards leads).reachable (.operate _ schedule token reachable)
    have stillHeld := leads.get? held
    exact ⟨stillHeld, Operation.insertLabel_of_held laterReachable stillHeld⟩

/-- In a transaction a label is attached after one that is removed for a while. In between a secret is
inserted, the transaction is committed, the other label is removed and is there again after a
rollback, and one more is attached. -/
theorem label_ids_identify_rows_rolledBack :
    let live : Schedule := fun _ => none
    let run (op : Operation) (d : Database) := (op.run live 0 (.opened d)).2.database
    let again (d : Database) := ((Operation.insertLabel "work" 1).run live 0 (.opened d)).1
    let past := run (.insertLabel "old" 1) (run (.insertSecret "mail" "p") .fresh)
    let d := past.begin.2
    let attached := run (.insertLabel "work" 1) d
    let stored := (run (.insertSecret "bank" "q") attached).commit.2
    let restored := (run (.deleteLabels 1 ["o*"]) stored.begin.2).rollback.2
    let now := run (.insertLabel "home" 1) restored
    d.Reachable ∧ d.current.secrets.contains 1 = true ∧
      HasNextId d.current.labels d.current.labelCount ∧ d.inTransaction = true ∧
      again d = .ok (2 : Int) ∧ (∀ used ∈ past.committed.labels.keys, used < 2) ∧
      now.current.labels.keys = [1, 2, 3] ∧
      now.current.labels.get? 2 = some ⟨.text "work", 1⟩ ∧ again now = .ok (2 : Int) ∧
      ∀ k : Int, ((Operation.insertLabel "home" 1).run live 0 (.opened now)).1 = .ok k → k ≠ 2 := by
  intro live run again past d attached stored restored now
  have earlier : past.Reachable :=
    .operate (c := .opened _) _ _ _ (.operate (c := .opened .fresh) _ _ _ .fresh)
  have reachable : d.Reachable := .begin earlier
  have owned : d.current.secrets.contains 1 = true := by decide +kernel
  have room : HasNextId d.current.labels d.current.labelCount := by decide +kernel
  have endsLive : (Operation.insertLabel "work" 1).EndsLive live 0 (.opened d) :=
    Operation.endsLive_of_never rfl _ _
  obtain ⟨i, after, answer, -, -, -, -, new, repeated⟩ :=
    label_ids_identify_rows (c := .opened d) reachable owned room endsLive
  have two : i = (2 : Int) := by
    have answered : again d = .ok (2 : Int) := rfl
    exact Except.ok.inj (answer.symm.trans answered)
  subst two
  have absent : ∀ j, d.current.labels.get? j ≠ some ⟨.text "work", 1⟩ :=
    Tables.labelId?_eq_none_iff.1 (by decide +kernel)
  obtain ⟨-, -, above⟩ := new absent
  let kept (t : Tables) : Prop := t.labels.get? 2 = some ⟨.text "work", 1⟩
  let Sparing := Database.Onward (Operation.Spares "work" 1) kept
  have inserts : Sparing attached (run (.insertSecret "bank" "q") attached) :=
    .opened attached trivial live 0 fun _ => .inl (by decide +kernel)
  have removes : Sparing stored.begin.2 (run (.deleteLabels 1 ["o*"]) stored.begin.2) := by
    have spares : (Operation.deleteLabels 1 ["o*"]).Spares "work" 1 := fun _ => by decide +kernel
    exact .opened stored.begin.2 spares live 0 fun _ => .inl (by decide +kernel)
  have restores : Sparing (run (.deleteLabels 1 ["o*"]) stored.begin.2) restored :=
    .rollback _ fun _ => by decide +kernel
  have attaches : Sparing restored now :=
    .opened restored trivial live 0 fun inside => absurd inside (by decide +kernel)
  have leads : attached.LeadsSparing 2 "work" 1 now :=
    (((((Relation.ReflTransGen.single inserts).tail (.commit _)).tail (.begin _)).tail
      removes).tail restores).tail attaches
  obtain ⟨held, each⟩ := repeated (.opened now) (by rw [Connection.database_opened]; exact leads)
  rw [Connection.database_opened] at held each
  obtain ⟨-, answers, others⟩ := each live 0
  obtain ⟨same, -⟩ := answers (Operation.endsLive_of_never rfl _ _) (by decide +kernel)
  have below : ∀ used ∈ past.committed.labels.keys, used < 2 :=
    above past earlier (by decide +kernel) (Relation.ReflTransGen.single (.begin past))
  have differs : ∀ k : Int,
      ((Operation.insertLabel "home" 1).run live 0 (.opened now)).1 = .ok k → k ≠ 2 :=
    fun k answered => others "home" 1 k (by decide) answered
  have inside : d.inTransaction = true := by decide +kernel
  have keys : now.current.labels.keys = [1, 2, 3] := by decide +kernel
  exact ⟨reachable, owned, room, inside, answer, below, keys, held, same, differs⟩

end SecretVault
