import SecretVault.Proofs.Limits
import SecretVault.Proofs.Performing
import SecretVault.Proofs.Secrecy.Veiling

/-!
Operations on vaults that differ in nothing but secret texts. All but the two that ask for such a
text are answered alike, whatever their tokens, and leave vaults that differ in nothing else.
Operations that store different texts are answered alike as well.
-/
namespace SecretVault
open SecretVault.Engine

/-- Results of which the values belong together, or else the errors are the same. -/
inductive SameResult {ε α β : Type} (belong : α → β → Prop) : Except ε α → Except ε β → Prop where
  | ok {a : α} {b : β} (together : belong a b) : SameResult belong (.ok a) (.ok b)
  | error (e : ε) : SameResult belong (.error e) (.error e)

theorem SameResult.of_eq {ε α : Type} {result result' : Except ε α} (same : result = result') :
    SameResult Eq result result' := by
  cases same
  cases result with
  | ok a => exact .ok rfl
  | error e => exact .error e

theorem SameResult.eq {ε α : Type} {result result' : Except ε α}
    (same : SameResult Eq result result') : result = result' := by
  cases same with
  | ok together => rw [together]
  | error e => rfl

theorem SameResult.of_ok {ε α β : Type} {belong : α → β → Prop} {a : α} {b : β}
    (same : SameResult belong (.ok a : Except ε α) (.ok b)) : belong a b := by
  cases same with
  | ok together => exact together

variable {hidden : Spot → Bool}

/-- What is left of texts that are hidden is the same. -/
theorem Engine.Cell.veiled_text {covered : Bool} (covers : covered = true) (text text' : String) :
    (Cell.text text).veiled covered = (Cell.text text').veiled covered := by
  rw [covers]
  rfl

/-- Cells of which the same is left are both texts, or the same. -/
theorem Engine.Cell.of_veiled_eq {cell cell' : Cell} {covered : Bool}
    (left : cell.veiled covered = cell'.veiled covered) :
    ((∃ s, cell = .text s) ∧ ∃ s, cell' = .text s) ∨ cell = cell' := by
  cases cell with
  | text s =>
    cases cell' with
    | text s' => exact .inl ⟨⟨s, rfl⟩, s', rfl⟩
    | _ => cases left
  | _ =>
    cases cell' with
    | text s' => cases left
    | _ => exact .inr left

namespace Engine.Tables
variable (t : Tables)

theorem veiled_putMasterKey (key : Cell) :
    (t.putMasterKey key).veiled hidden =
      (t.veiled hidden).putMasterKey (key.veiled (hidden .masterKey)) := by
  obtain ⟨masterKey, _, _, _, _⟩ := t
  cases masterKey <;> rfl

theorem veiled_upsertPayload (hidden : Spot → Bool) (id : Int) (payload : Cell) :
    ((t.upsertPayload id payload).1, (t.upsertPayload id payload).2.veiled hidden) =
      (t.veiled hidden).upsertPayload id (payload.veiled (hidden (.payload id))) := by
  have stored : (t.veiled hidden).secrets.get? id =
      (t.secrets.get? id).map (StoredSecret.veiled (hidden (.payload id))) := IdMap.get?_map ..
  unfold upsertPayload
  rw [stored]
  cases t.secrets.get? id with
  | none => simp only [veiled_addSecret, Option.map_none]; rfl
  | some secret => simp only [veiled_addSecret, Option.map_some]; rfl

theorem veiled_renameSecret (id : Int) (name : Cell) :
    ((t.renameSecret id name).1, (t.renameSecret id name).2.veiled hidden) =
      (t.veiled hidden).renameSecret id name := by
  have stored : (t.veiled hidden).secrets.get? id =
      (t.secrets.get? id).map (StoredSecret.veiled (hidden (.payload id))) := IdMap.get?_map ..
  unfold renameSecret
  rw [stored]
  cases t.secrets.get? id with
  | none => rfl
  | some secret => simp only [veiled, IdMap.map_insert, Option.map_some]; rfl

theorem veiled_attachLabel (label : StoredLabel) :
    (t.attachLabel label).map (fun result => (result.1, result.2.veiled hidden)) =
      (t.veiled hidden).attachLabel label := by
  have there : (t.veiled hidden).secrets.contains label.secretId =
      t.secrets.contains label.secretId := IdMap.contains_map ..
  have sameLabel : (t.veiled hidden).labelId? label = t.labelId? label := rfl
  have next : nextId (t.veiled hidden).labels (t.veiled hidden).labelCount =
    nextId t.labels t.labelCount := rfl
  simp only [attachLabel_eq, next, there, sameLabel]
  cases nextId t.labels t.labelCount with
  | error e => rfl
  | ok id =>
    simp only [bind, Except.bind]
    split
    · rfl
    · split <;> rfl

end Engine.Tables

namespace Engine

/-- A statement and another that change tables alike, these and all others that differ from them in
nothing but hidden texts. -/
structure Statement.AlikeAt {α β : Type} (hidden : Spot → Bool) (belong : α → β → Prop)
    (statement : Statement α) (other : Statement β) (t : Tables) : Prop where
  writes : statement.writes = other.writes
  checks : statement.checks = other.checks
  change : ∀ t', t.veiled hidden = t'.veiled hidden →
    SameResult (fun a b => belong a.1 b.1 ∧ a.2.veiled hidden = b.2.veiled hidden)
      (statement.change t) (other.change t')

namespace Statement
variable {α : Type} {t : Tables}

/-- A statement that treats what is left of tables as it treats the tables. -/
theorem alikeAt_of_veiled {statement : Statement α}
    (same : ∀ t, (statement.change t).map (fun result => (result.1, result.2.veiled hidden)) =
      statement.change (t.veiled hidden)) : statement.AlikeAt hidden Eq statement t := by
  refine ⟨rfl, rfl, fun t' left => ?_⟩
  have ends := (same t).trans ((congrArg statement.change left).trans (same t').symm)
  cases first : statement.change t with
  | error e =>
    cases second : statement.change t' with
    | error e' =>
      rw [first, second] at ends
      cases ends
      exact .error e
    | ok result =>
      rw [first, second] at ends
      cases ends
  | ok result =>
    cases second : statement.change t' with
    | error e' =>
      rw [first, second] at ends
      cases ends
    | ok result' =>
      rw [first, second] at ends
      exact .ok (Prod.mk.injEq .. ▸ Except.ok.inj ends)

/-- A statement that answers the same for what is left of tables and changes nothing. -/
theorem alikeAt_reading {sql : String} {params : List Param} {answer : Tables → Except Error α}
    (same : ∀ t, answer (t.veiled hidden) = answer t) :
    (reading sql params answer).AlikeAt hidden Eq (reading sql params answer) t := by
  refine alikeAt_of_veiled fun t => ?_
  simp only [change_reading, same]
  cases answer t <;> rfl

theorem alikeAt_insertMasterKey {key key' : String}
    (covered : (Cell.text key).veiled (hidden .masterKey) =
      (Cell.text key').veiled (hidden .masterKey)) :
    (insertMasterKey key).AlikeAt hidden Eq (insertMasterKey key') t := by
  refine ⟨rfl, rfl, fun t' left => .ok ⟨rfl, ?_⟩⟩
  simp only [Tables.veiled_putMasterKey, left, covered]

theorem alikeAt_insertSecret (name : String) {payload payload' : String}
    (covered : ∀ id, Tables.nextId t.secrets t.secretCount = .ok id →
      (Cell.text payload).veiled (hidden (.payload id)) =
        (Cell.text payload').veiled (hidden (.payload id))) :
    (insertSecret name payload).AlikeAt hidden Eq (insertSecret name payload') t := by
  refine ⟨rfl, rfl, fun t' left => ?_⟩
  have next : Tables.nextId t'.secrets t'.secretCount = Tables.nextId t.secrets t.secretCount := by
    rw [← t'.nextId_veiled hidden, ← left, t.nextId_veiled hidden]
  simp only [insertSecret, change, writing, Tables.insertSecret, next]
  cases drawn : Tables.nextId t.secrets t.secretCount with
  | error e => exact .error e
  | ok id =>
    refine .ok ⟨rfl, ?_⟩
    simp only [Tables.veiled_addSecret, left, StoredSecret.veiled, covered id drawn]

theorem alikeAt_upsertSecret (id : Int) {payload payload' : String}
    (covered : (Cell.text payload).veiled (hidden (.payload id)) =
      (Cell.text payload').veiled (hidden (.payload id))) :
    (upsertSecret id payload).AlikeAt hidden Eq (upsertSecret id payload') t := by
  refine ⟨rfl, rfl, fun t' left => .ok ?_⟩
  have first := t.veiled_upsertPayload hidden id (.text payload)
  have second := t'.veiled_upsertPayload hidden id (.text payload')
  rw [left, covered, ← second] at first
  exact Prod.mk.injEq .. ▸ first

theorem alikeAt_search (clauses : List Clause) :
    (search clauses).AlikeAt hidden Eq (search clauses) t := by
  refine alikeAt_reading fun t => ?_
  rw [Engine.search_veiled]

end Statement
end Engine

/-- Plans whose statements are alike, and so are the results that they lead to. -/
inductive Plan.AlikeAt {α β : Type} (hidden : Spot → Bool) (belong : α → β → Prop) :
    Tables → Plan α → Plan β → Prop where
  | answer {t : Tables} {result : Except StoreError α} {other : Except StoreError β}
      (same : SameResult belong result other) :
      AlikeAt hidden belong t (.answer result) (.answer other)
  | send {γ δ : Type} {together : γ → δ → Prop} {t : Tables} {statement : Statement γ}
      {other : Statement δ} {next : γ → Plan α} {next' : δ → Plan β}
      (here : statement.AlikeAt hidden together other t)
      (later : ∀ a b t, together a b → AlikeAt hidden belong t (next a) (next' b)) :
      AlikeAt hidden belong t (.send statement next) (.send other next')

namespace Plan
variable {α : Type} {t : Tables}

theorem alikeAt_single {statement other : Statement α}
    (here : statement.AlikeAt hidden Eq other t) :
    (single statement).AlikeAt hidden Eq t (single other) :=
  .send here fun _ _ _ together => .answer (.ok together)

end Plan

namespace Operation
variable {t : Tables}

/-- The operation asks for a secret text. -/
def Reveals : Operation → Prop
  | .queryMasterKey | .readPayload _ => True
  | _ => False

/-- An operation that does not ask for a secret text sees none. -/
theorem alikeAt_plan {op : Operation} (conceals : ¬ op.Reveals) :
    op.plan.AlikeAt hidden Eq t op.plan := by
  cases op with
  | queryMasterKey | readPayload _ => exact absurd trivial conceals
  | insertMasterKey key => exact Plan.alikeAt_single (Statement.alikeAt_insertMasterKey rfl)
  | insertSecret name payload =>
    exact Plan.alikeAt_single (Statement.alikeAt_insertSecret name fun _ _ => rfl)
  | upsertSecret id payload =>
    exact Plan.alikeAt_single (Statement.alikeAt_upsertSecret id rfl)
  | renameSecret id name =>
    refine .send (Statement.alikeAt_of_veiled fun t => ?_) fun n _ _ together => ?_
    · exact congrArg Except.ok (t.veiled_renameSecret id (.text name))
    · cases together
      exact .answer (.of_eq rfl)
  | deleteSecrets ids =>
    refine Plan.alikeAt_single (Statement.alikeAt_of_veiled fun t => ?_)
    simp only [Statement.change_deleteSecrets, ← t.veiled_deleteSecrets hidden ids]
    cases Statement.withinLimits (Statement.deleteSecretsQuery ids) false <;> rfl
  | insertLabel name id =>
    refine .send (Statement.alikeAt_of_veiled fun t => ?_) fun answer _ _ together => ?_
    · exact t.veiled_attachLabel ⟨.text name, id⟩
    · cases together
      cases answer with
      | some labelId => exact .answer (.of_eq rfl)
      | none => exact Plan.alikeAt_single (Statement.alikeAt_reading fun t => rfl)
  | deleteLabels id patterns =>
    refine Plan.alikeAt_single (Statement.alikeAt_of_veiled fun t => ?_)
    simp only [Statement.change_deleteLabels, matchingLabels_veiled]
    cases Statement.withinLimits (Statement.deleteLabelsQuery id patterns) false with
    | error e => rfl
    | ok _ => cases matchingLabels t id (.globAny .label patterns) <;> rfl
  | searchColumn _ _ | searchIds _ | searchLabelsAndName _ _ =>
    exact Plan.alikeAt_single (Statement.alikeAt_search _)

/-- Texts that are stored may differ where they are hidden. -/
theorem alikeAt_insertMasterKey (covers : hidden .masterKey = true) (key key' : String) :
    (insertMasterKey key).plan.AlikeAt hidden Eq t (insertMasterKey key').plan :=
  Plan.alikeAt_single (Statement.alikeAt_insertMasterKey (Cell.veiled_text covers key key'))

theorem alikeAt_insertSecret (name payload payload' : String)
    (covers : ∀ id, Tables.nextId t.secrets t.secretCount = .ok id →
      hidden (.payload id) = true) :
    (insertSecret name payload).plan.AlikeAt hidden Eq t (insertSecret name payload').plan :=
  Plan.alikeAt_single (Statement.alikeAt_insertSecret name fun id drawn =>
    Cell.veiled_text (covers id drawn) payload payload')

theorem alikeAt_upsertSecret {id : Int} (covers : hidden (.payload id) = true)
    (payload payload' : String) :
    (upsertSecret id payload).plan.AlikeAt hidden Eq t (upsertSecret id payload').plan :=
  Plan.alikeAt_single
    (Statement.alikeAt_upsertSecret id (Cell.veiled_text covers payload payload'))

/-- Whether a master key is found, and why not, does not depend on what it is. -/
theorem alikeAt_queryMasterKey :
    queryMasterKey.plan.AlikeAt hidden (fun _ _ => True) t queryMasterKey.plan := by
  have here : Statement.selectMasterKey.AlikeAt hidden
      (fun found found' => found.isSome = found'.isSome) Statement.selectMasterKey t := by
    refine ⟨rfl, rfl, fun t' left => ?_⟩
    have keys : t.masterKey.map (Cell.veiled (hidden .masterKey)) =
        t'.masterKey.map (Cell.veiled (hidden .masterKey)) := congrArg Tables.masterKey left
    simp only [Statement.selectMasterKey, Statement.change_reading]
    cases first : t.masterKey with
    | none =>
      cases second : t'.masterKey with
      | none => exact .ok ⟨rfl, left⟩
      | some key' =>
        rw [first, second] at keys
        cases keys
    | some key =>
      cases second : t'.masterKey with
      | none =>
        rw [first, second] at keys
        cases keys
      | some key' =>
        rw [first, second] at keys
        rcases Cell.of_veiled_eq (Option.some.inj keys) with ⟨⟨s, rfl⟩, s', rfl⟩ | rfl
        · exact .ok ⟨rfl, left⟩
        · simp only [Option.mapM_some]
          cases key.read 0 "key" with
          | error e => exact .error e
          | ok text => exact .ok ⟨rfl, left⟩
  refine .send here fun found found' _ together => ?_
  cases found with
  | none =>
    cases found' with
    | none => exact .answer (.error _)
    | some key' => cases together
  | some key =>
    cases found' with
    | none => cases together
    | some key' => exact .answer (.ok trivial)

end Operation

namespace Engine.Database

/-- What is left of a database if hidden texts are covered. -/
def veiled (d : Database) (hidden : Spot → Bool) : Database :=
  ⟨d.committed.veiled hidden, d.working.map (·.veiled hidden)⟩

variable (d : Database)

@[simp] theorem current_veiled : (d.veiled hidden).current = d.current.veiled hidden := by
  obtain ⟨committed, working⟩ := d
  cases working <;> rfl

@[simp] theorem inTransaction_veiled : (d.veiled hidden).inTransaction = d.inTransaction := by
  obtain ⟨committed, working⟩ := d
  cases working <;> rfl

@[simp] theorem veiled_put (t : Tables) :
    (d.put t).veiled hidden = (d.veiled hidden).put (t.veiled hidden) := by
  obtain ⟨committed, working⟩ := d
  cases working <;> rfl

@[simp] theorem veiled_abandon : d.abandon.veiled hidden = (d.veiled hidden).abandon := rfl

end Engine.Database

namespace Engine.Connection

/-- What is left of a connection if hidden texts in its database are covered. -/
def veiled (c : Connection) (hidden : Spot → Bool) : Connection :=
  { c with database := c.database.veiled hidden }

variable {c c' : Connection}

theorem eq_of_veiled (left : c.veiled hidden = c'.veiled hidden) :
    c.database.veiled hidden = c'.database.veiled hidden ∧ c.handler = c'.handler ∧
      c.clock = c'.clock ∧ c.settings = c'.settings := by
  injection left with database handler clock settings
  exact ⟨database, handler, clock, settings⟩

/-- Statements that are alike, sent on connections that are. -/
theorem send_alike {α β : Type} {belong : α → β → Prop} {statement : Statement α}
    {other : Statement β} (left : c.veiled hidden = c'.veiled hidden)
    (alike : statement.AlikeAt hidden belong other c.database.current) (schedule : Schedule) :
    SameResult belong (c.send schedule statement).1 (c'.send schedule other).1 ∧
      (c.send schedule statement).2.veiled hidden = (c'.send schedule other).2.veiled hidden := by
  obtain ⟨d, handler, clock, settings, isReady⟩ := c
  obtain ⟨d', handler', clock', settings', isReady'⟩ := c'
  obtain ⟨sameDatabase, rfl, rfl, rfl⟩ := eq_of_veiled left
  obtain ⟨writes, checks, change⟩ := alike
  have stops : (⟨d, handler, clock, settings, isReady⟩ : Connection).stops schedule other.checks =
    (⟨d', handler, clock, settings, isReady⟩ : Connection).stops schedule other.checks := rfl
  have abandoned : d.abandon.veiled hidden = d'.abandon.veiled hidden := by
    rw [Database.veiled_abandon, sameDatabase, Database.veiled_abandon]
  simp only [send_eq, checks, stops, writes]
  split
  · refine ⟨.error _, ?_⟩
    split <;> simp only [veiled, sameDatabase, abandoned]
  · have current : d.current.veiled hidden = d'.current.veiled hidden := by
      rw [← Database.current_veiled, sameDatabase, Database.current_veiled]
    have ends := change d'.current current
    simp only [Database.apply]
    cases first : statement.change d.current with
    | error e =>
      rw [first] at ends
      cases second : other.change d'.current with
      | error e' =>
        rw [second] at ends
        cases ends
        refine ⟨.error e, ?_⟩
        simp only [veiled]
        split <;> simp only [sameDatabase, abandoned]
      | ok result' =>
        rw [second] at ends
        cases ends
    | ok result =>
      rw [first] at ends
      cases second : other.change d'.current with
      | error e' =>
        rw [second] at ends
        cases ends
      | ok result' =>
        rw [second] at ends
        obtain ⟨belongs, tables⟩ := ends.of_ok
        refine ⟨.ok belongs, ?_⟩
        simp only [veiled, Database.veiled_put, sameDatabase, tables]

end Engine.Connection

/-- Plans that are alike, run on connections that are. -/
theorem Plan.AlikeAt.run {α β : Type} {belong : α → β → Prop} {plan : Plan α} {other : Plan β}
    {t : Tables} (alike : plan.AlikeAt hidden belong t other) {c c' : Connection}
    (current : c.database.current = t) (left : c.veiled hidden = c'.veiled hidden)
    (schedule : Schedule) :
    SameResult belong (plan.run schedule c).1 (other.run schedule c').1 ∧
      (plan.run schedule c).2.veiled hidden = (other.run schedule c').2.veiled hidden := by
  induction alike generalizing c c' with
  | answer same => exact ⟨same, left⟩
  | send here later ih =>
    rename_i statement other next next'
    rw [← current] at here
    obtain ⟨ends, sent⟩ := Connection.send_alike left here schedule
    simp only [Plan.run]
    cases first : c.send schedule statement with
    | mk result c1 =>
      cases second : c'.send schedule other with
      | mk result' c1' =>
        rw [first, second] at ends sent
        cases ends with
        | error e => exact ⟨.error _, sent⟩
        | ok together => exact ih _ _ _ together rfl sent

/-- Operations that are alike are answered alike, whatever their tokens. -/
theorem Operation.run_alike {op other : Operation} {belong : op.Answer → other.Answer → Prop}
    {c c' : Connection} (refused : op.refusal? = other.refusal?)
    (alike : op.plan.AlikeAt hidden belong c.database.current other.plan)
    (left : c.veiled hidden = c'.veiled hidden) (schedule : Schedule) (token : Token) :
    SameResult belong (op.run schedule token c).1 (other.run schedule token c').1 ∧
      (op.run schedule token c).2.veiled hidden =
        (other.run schedule token c').2.veiled hidden := by
  obtain ⟨d, handler, clock, settings, isReady⟩ := c
  obtain ⟨d', handler', clock', settings', isReady'⟩ := c'
  obtain ⟨database, rfl, rfl, rfl⟩ := Connection.eq_of_veiled left
  have looking : (⟨d, some token, clock + 1, settings, isReady⟩ : Connection).veiled hidden =
      (⟨d', some token, clock + 1, settings, isReady⟩ : Connection).veiled hidden := by
    simp only [Connection.veiled, database]
  have current : (⟨d, some token, clock + 1, settings, isReady⟩ : Connection).database.current =
      d.current := rfl
  obtain ⟨ends, ended⟩ := alike.run current looking schedule
  unfold run
  rw [refused]
  cases other.refusal? with
  | some p => exact ⟨.error _, left⟩
  | none =>
    simp only [Connection.install]
    cases schedule.cancelled token clock with
    | true =>
      refine ⟨.error _, ?_⟩
      simp only [if_true, Connection.veiled, database]
    | false =>
      simp only [Bool.false_eq_true, if_false]
      refine ⟨ends, ?_⟩
      obtain ⟨sameDatabase, -, sameClock⟩ := Connection.eq_of_veiled ended
      simp only [Connection.uninstall, Connection.veiled, sameDatabase, sameClock]

/-- An operation that does not ask for a secret text is answered alike. -/
theorem Operation.run_concealing {op : Operation} (conceals : ¬ op.Reveals) {c c' : Connection}
    (left : c.veiled hidden = c'.veiled hidden) (schedule : Schedule) (token : Token) :
    (op.run schedule token c).1 = (op.run schedule token c').1 ∧
      (op.run schedule token c).2.veiled hidden = (op.run schedule token c').2.veiled hidden := by
  obtain ⟨ends, ended⟩ := run_alike rfl (alikeAt_plan conceals) left schedule token
  exact ⟨ends.eq, ended⟩

end SecretVault
