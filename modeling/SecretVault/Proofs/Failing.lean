import SecretVault.Proofs.Performing

/-!
Operations that fail. Outside of a transaction a statement takes place as a whole or not at all, so
a failed operation can only leave behind what its earlier statements did. Attaching a label is the
one operation that sends a second statement, and it does so only if the first has changed no row.
-/
namespace SecretVault
open SecretVault.Engine

namespace Engine

/-- The second tables have the rows of the first. Their counts of ids may be others. -/
structure Tables.SameRows (t t' : Tables) : Prop where
  masterKey : t'.masterKey = t.masterKey
  secrets : t'.secrets = t.secrets
  labels : t'.labels = t.labels

namespace Tables

theorem SameRows.refl (t : Tables) : t.SameRows t := ⟨rfl, rfl, rfl⟩

theorem SameRows.trans {t t' t'' : Tables} (first : t.SameRows t') (second : t'.SameRows t'') :
    t.SameRows t'' where
  masterKey := second.masterKey.trans first.masterKey
  secrets := second.secrets.trans first.secrets
  labels := second.labels.trans first.labels

/-- A label that is there already is attached without changing a row. -/
theorem sameRows_of_attachLabel {t t' : Tables} {label : StoredLabel}
    (attached : t.attachLabel label = .ok (none, t')) : t.SameRows t' := by
  rw [attachLabel_eq] at attached
  cases drawn : nextId t.labels t.labelCount with
  | error e =>
    rw [drawn] at attached
    cases attached
  | ok id =>
    simp only [drawn, bind, Except.bind] at attached
    split at attached
    · cases attached
      exact ⟨rfl, rfl, rfl⟩
    · split at attached <;> cases attached

end Tables

theorem Database.eq_ofTables {d : Database} (idle : d.inTransaction = false) :
    d = .ofTables d.current := by
  obtain ⟨committed, working⟩ := d
  cases working with
  | none => rfl
  | some t => cases idle

theorem Database.working_of_idle {d : Database} (idle : d.inTransaction = false) :
    d.working = none := by
  rw [eq_ofTables idle]
  rfl

/-- Outside of a transaction a statement changes the tables and answers, or fails and changes
nothing. -/
theorem Connection.send_ofTables {α : Type} {c : Connection} {t : Tables}
    (stored : c.database = .ofTables t) (schedule : Schedule) (statement : Statement α) :
    (∃ a t', statement.change t = .ok (a, t') ∧ (c.send schedule statement).1 = .ok a ∧
        (c.send schedule statement).2.database = .ofTables t') ∨
      ∃ e, (c.send schedule statement).1 = .error e ∧
        (c.send schedule statement).2.database = .ofTables t := by
  have abandoned : c.database.abandon = .ofTables t := by rw [stored]; rfl
  have current : c.database.current = t := by rw [stored]; rfl
  rw [send_eq]
  dsimp only
  split
  · refine .inr ⟨.interrupted, rfl, ?_⟩
    dsimp only
    split
    · exact abandoned
    · exact stored
  · dsimp only [Database.apply]
    rw [current]
    cases changed : statement.change t with
    | ok result =>
      refine .inl ⟨result.1, result.2, rfl, rfl, ?_⟩
      rw [stored]
      rfl
    | error e =>
      refine .inr ⟨e, rfl, ?_⟩
      dsimp only
      split
      · exact abandoned
      · exact stored

end Engine

namespace Plan
variable {α : Type}

/-- Once a statement has changed a row, the plan answers and cannot fail any more. -/
def ChangesLast : Plan α → Prop
  | .answer _ => True
  | .send statement next =>
    ∀ t a t', statement.change t = .ok (a, t') →
      (∃ b, next a = .answer (.ok b)) ∨ t.SameRows t' ∧ (next a).ChangesLast

theorem changesLast_single (statement : Statement α) : (single statement).ChangesLast :=
  fun _ a _ _ => .inl ⟨a, rfl⟩

theorem changesLast_reading {β : Type} (sql : String) (params : List Param)
    (answer : Tables → Except Error β) {next : β → Plan α} (later : ∀ b, (next b).ChangesLast) :
    (send (.reading sql params answer) next).ChangesLast :=
  fun t b _ changed => .inr ⟨Statement.eq_of_reading changed ▸ .refl t, later b⟩

theorem ChangesLast.run {plan : Plan α} (last : plan.ChangesLast) {c : Connection} {t : Tables}
    (stored : c.database = .ofTables t) {schedule : Schedule} {e : StoreError}
    (failed : (plan.run schedule c).1 = .error e) :
    ∃ t', (plan.run schedule c).2.database = .ofTables t' ∧ t.SameRows t' := by
  induction plan generalizing c t with
  | answer result => exact ⟨t, stored, .refl t⟩
  | send statement next ih =>
    have sent := Connection.send_ofTables stored schedule statement
    rw [Plan.run] at failed ⊢
    cases outcome : c.send schedule statement with
    | mk result c' =>
      rw [outcome] at sent failed
      rcases sent with ⟨a, t', changed, rfl, stored'⟩ | ⟨cause, rfl, unchanged⟩
      · rcases last t a t' changed with ⟨b, answers⟩ | ⟨same, later⟩
        · dsimp only at failed
          rw [answers] at failed
          cases failed
        · obtain ⟨t'', stored'', same'⟩ := ih a later stored' failed
          exact ⟨t'', stored'', same.trans same'⟩
      · exact ⟨t, unchanged, .refl t⟩

end Plan

namespace Operation

theorem changesLast_plan (op : Operation) : op.plan.ChangesLast := by
  cases op with
  | insertMasterKey _ | insertSecret _ _ | upsertSecret _ _ | deleteSecrets _ | deleteLabels _ _
  | searchColumn _ _ | searchIds _ | searchLabelsAndName _ _ => exact Plan.changesLast_single _
  | queryMasterKey | readPayload _ => exact Plan.changesLast_reading _ _ _ fun _ => trivial
  | renameSecret id name =>
    intro t renamed t' changed
    have change : t.renameSecret id (.text name) = (renamed, t') := Except.ok.inj changed
    unfold Tables.renameSecret at change
    split at change
    · cases change
      exact .inl ⟨(), rfl⟩
    · cases change
      exact .inr ⟨.refl t, trivial⟩
  | insertLabel name secretId =>
    intro t answer t' changed
    cases answer with
    | some id => exact .inl ⟨id, rfl⟩
    | none =>
      have attached : t.attachLabel ⟨.text name, secretId⟩ = .ok (none, t') := changed
      exact .inr ⟨Tables.sameRows_of_attachLabel attached, Plan.changesLast_single _⟩

theorem sameRows_of_failed {op : Operation} {c : Connection} {t : Tables}
    (stored : c.database = .ofTables t) {schedule : Schedule} {token : Token} {e : StoreError}
    (failed : (op.run schedule token c).1 = .error e) :
    ∃ t', (op.run schedule token c).2.database = .ofTables t' ∧ t.SameRows t' := by
  rcases op.run_cases schedule token c with ⟨-, unchanged⟩ | ⟨answer, database⟩
  · exact ⟨t, unchanged.trans stored, .refl t⟩
  · rw [answer] at failed
    rw [database]
    refine op.changesLast_plan.run ?_ failed
    exact stored

end Operation

/-- Outside of a transaction an operation that fails, for whatever reason and whenever its token is
cancelled, leaves every row as it was, both for its connection and for whoever opens the vault
later. -/
theorem failed_operation_keeps_rows {c : Connection} (idle : c.database.inTransaction = false)
    (op : Operation) (schedule : Schedule) (token : Token) {e : StoreError}
    (failed : (op.run schedule token c).1 = .error e) :
    ∃ t, (op.run schedule token c).2.database = .ofTables t ∧ c.database.current.SameRows t := by
  have stored := Database.eq_ofTables idle
  have unchanged : ∃ t, c.database = .ofTables t ∧ c.database.current.SameRows t :=
    ⟨c.database.current, stored, .refl _⟩
  cases refused : op.refusal? with
  | some p => simpa [Operation.run, refused] using unchanged
  | none =>
    cases cancelled : schedule.cancelled token c.clock with
    | true => simpa [Operation.run, refused, Connection.install, cancelled] using unchanged
    | false =>
      obtain ⟨answer, database⟩ := Operation.run_of_accepted refused cancelled
      rw [answer] at failed
      rw [database]
      refine op.changesLast_plan.run ?_ failed
      exact stored

/-- A secret whose name cannot be read, with one label. -/
def Engine.Tables.unreadableName : Tables where
  masterKey := none
  secrets := IdMap.empty.insert 1 ⟨.blob [0xFF], .text "p"⟩
  labels := IdMap.empty.insert 1 ⟨.text "work", 1⟩
  secretCount := 1
  labelCount := 1

/-- The label is there already, and the token is cancelled when its id is looked up. An id is used
up, and no row is changed. -/
theorem failed_operation_keeps_rows_lookupStopped :
    let c := Connection.opened (.ofTables .unreadableName)
    let ran := (Operation.insertLabel "work" 1).run (fun _ => some 2) 0 c
    c.database.inTransaction = false ∧ ran.1 = .error .cancelled ∧
      ran.2.database.committed.labelCount = 2 ∧
      ∃ t, ran.2.database = .ofTables t ∧ Tables.unreadableName.SameRows t := by
  intro c ran
  have failed : ran.1 = .error .cancelled := rfl
  exact ⟨rfl, failed, by decide +kernel, failed_operation_keeps_rows rfl _ _ _ failed⟩

end SecretVault
