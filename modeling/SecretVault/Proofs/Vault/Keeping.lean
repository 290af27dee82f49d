import SecretVault.Proofs.Command.Lines
import SecretVault.Proofs.Command.Refusing
import SecretVault.Proofs.Issuing
import SecretVault.Proofs.Reopening
import SecretVault.Engine.Catalog

/-!
The master key of a vault. The statement that stores one leaves a key alone that is there already,
and nothing else touches it. So a key that has been found once is the key for good, whatever becomes
of the vault: in the process that uses it, or by command lines, whether they work on this vault or
on another.
-/
namespace SecretVault
open SecretVault.Engine SecretVault.Files

variable {P : Tables → Prop} {location : Location}

namespace Session

/-- Of the hooks that the script runs none touches the vault that is kept here. -/
def HooksSpare (location : Location) {α : Type} : Script α → Session → Prop
  | .done _, _ | .fail _, _ => True
  | .ask request next, s =>
    (∀ hook, request = .runHook hook →
      (s.runHook hook).2.tree.tablesAt location = s.tree.tablesAt location) ∧
      HooksSpare location (next (s.reply request).1) (s.reply request).2

/-- Hooks that leave all files as they are touch no vault. -/
theorem HooksLeaveFiles.spare {α : Type} {script : Script α} {s : Session}
    (quiet : HooksLeaveFiles script s) : HooksSpare location script s := by
  induction script generalizing s with
  | done a => trivial
  | fail failure => trivial
  | ask request next ih =>
    obtain ⟨quietNow, quietLater⟩ := quiet
    refine ⟨fun hook asked => ?_, ih _ quietLater⟩
    rw [Tree.tablesAt, quietNow hook asked]
    rfl

/-- The vault that is kept here has a property, and if it is the one that is open then its database
has it too. -/
structure Upholds (P : Tables → Prop) (location : Location) (s : Session) : Prop where
  stored : P (s.tree.tablesAt location)
  opened : s.place = .file location → s.connection.database.Holds P
  below : ∀ other, s.place = .file other → other ≠ []

variable {s : Session}

/-- Keeping what the open vault has stored. -/
theorem Upholds.keep (upholds : s.Upholds P location) {connection : Connection}
    (holds : s.place = .file location → connection.database.Holds P) :
    (Session.keep { s with connection }).Upholds P location := by
  refine ⟨?_, holds, upholds.below⟩
  unfold Session.keep OpenVault.store
  cases here : s.place with
  | temporary => exact upholds.stored
  | file other =>
    have put := Tree.tablesAt_put (upholds.below other here) s.tree
      (.vault connection.database.committed) location
    by_cases same : location = other
    · rw [if_pos same] at put
      rw [← same] at here
      exact put ▸ (holds here).committed
    · rw [if_neg same] at put
      exact put ▸ upholds.stored

/-- Whatever is requested, a property is upheld that the operation keeps, or the hook leaves. -/
theorem Upholds.reply (upholds : s.Upholds P location) (request : Request)
    (keeps : ∀ op, request = .store op → op.plan.Keeps P)
    (leaves : ∀ hook, request = .runHook hook → P ((s.runHook hook).2.tree.tablesAt location)) :
    (s.reply request).2.Upholds P location := by
  have opened (here : s.place = .file location) := holds_reply (upholds.opened here) request keeps
  cases request with
  | store _ | begin | commit | abandon => exact upholds.keep opened
  | print _ | flush | readInput | prompt _ => exact ⟨upholds.stored, upholds.opened, upholds.below⟩
  | runHook hook => exact ⟨leaves hook rfl, upholds.opened, upholds.below⟩

theorem Upholds.carryOut {α : Type} (keeps : ∀ t t', P t → t.Changed t' → P t')
    {script : Script α} (upholds : s.Upholds P location) (spares : HooksSpare location script s) :
    (carryOut script s).2.Upholds P location := by
  induction script generalizing s with
  | done a => exact upholds
  | fail failure => exact upholds
  | ask request next ih =>
    obtain ⟨sparesNow, sparesLater⟩ := spares
    refine ih _ (upholds.reply request (fun op _ => op.keeps_of_changed keeps) ?_) sparesLater
    intro hook asked
    rw [sparesNow hook asked]
    exact upholds.stored

end Session

/-- A session starts with what holds of the vault that is kept here, wherever its own is. -/
theorem Setting.upholds_start {s : Setting} {invocation : Arguments.Invocation} {session : Session}
    (started : s.start invocation = .ok session) (holds : P (s.tree.tablesAt location)) :
    session.Upholds P location := by
  have starts := holds_start s invocation
  rw [started] at starts
  obtain ⟨same, before⟩ := starts
  refine ⟨same ▸ holds, fun here => ?_, fun other here => ?_⟩
  · rw [database_start started, here]
    exact Database.holds_ofTables holds
  · have kept := before.follows.kept
    rw [here] at kept
    exact kept.1

namespace CommandLine

/-- No hook of the command line touches the vault that is kept here. -/
def HooksSpare (line : CommandLine) (tree : Tree) (location : Location) : Prop :=
  ∀ invocation session, Arguments.Invocation.read line.arguments = .ok invocation →
    (line.on tree).start invocation = .ok session →
    Session.HooksSpare location invocation.command.script session

/-- Where no hooks are configured there is none to touch a vault. -/
theorem hooksSpare_of_none {line : CommandLine} {tree : Tree} {invocation : Arguments.Invocation}
    (understood : Arguments.Invocation.read line.arguments = .ok invocation)
    (loaded : (line.on tree).loadConfig invocation.config = .ok {}) (location : Location) :
    line.HooksSpare tree location := by
  intro same session accepted started
  obtain rfl := Except.ok.inj (understood.symm.trans accepted)
  refine (Session.hooksLeaveFiles_of_none _ fun hook => ?_).spare
  rw [Setting.config_start started loaded]
  cases hook <;> rfl

/-- What every change keeps, a command line keeps in every vault, in its own and in all others. -/
theorem keeps_finish (keeps : ∀ t t', P t → t.Changed t' → P t') (line : CommandLine) {tree : Tree}
    (spares : line.HooksSpare tree location) (holds : P (tree.tablesAt location)) :
    P ((line.finish tree).tree.tablesAt location) := by
  cases understood : Arguments.Invocation.read line.arguments with
  | error halt =>
    have same : (line.finish tree).tree = tree := (line.on tree).run_of_halt understood
    rw [same]
    exact holds
  | ok invocation =>
    have finished : line.finish tree = (line.on tree).execute invocation :=
      (line.on tree).run_accepted understood
    rw [finished]
    cases started : (line.on tree).start invocation with
    | error refusal =>
      rw [(line.on tree).tablesAt_execute_of_error started]
      exact holds
    | ok session =>
      have upholds : session.Upholds P location := Setting.upholds_start started holds
      rw [(Setting.execute_started started).2.1]
      exact (upholds.carryOut keeps (spares invocation session understood started)).stored

end CommandLine

namespace Engine.Database

/-- What may become of a vault: a step in its use, its tables set up once more, or what a command
line leaves of it. This is carried out where the vault is kept among files of any kind. What is done
in an open transaction meanwhile goes on from what the transaction has seen. -/
inductive Turn : Database → Database → Prop where
  | step {d d' : Database} (step : d.Step d') : Turn d d'
  | setUp (d : Database) : Turn d d.setUp
  | line {d : Database} {tree : Tree} {location : Location} (line : CommandLine)
      (kept : tree.tablesAt location = d.committed) (spares : line.HooksSpare tree location) :
      Turn d { d with committed := (line.finish tree).tree.tablesAt location }

/-- What becomes of a vault in any number of turns. -/
def Turns : Database → Database → Prop := Relation.ReflTransGen Turn

variable {d d' : Database}

/-- What every change keeps is kept whatever becomes of the vault. -/
theorem Turn.holds (keeps : ∀ t t', P t → t.Changed t' → P t') (turn : d.Turn d')
    (holds : d.Holds P) : d'.Holds P := by
  cases turn with
  | step step => exact step.holds (fun op _ => op.keeps_of_changed keeps) holds
  | setUp =>
    rw [Database.setUp, Catalog.create_ofTables, put_current]
    exact holds
  | line line kept spares =>
    refine ⟨line.keeps_finish keeps spares ?_, holds.working⟩
    rw [kept]
    exact holds.committed

theorem Turns.holds (keeps : ∀ t t', P t → t.Changed t' → P t') (turns : d.Turns d')
    (holds : d.Holds P) : d'.Holds P := by
  induction turns with
  | refl => exact holds
  | tail earlier turn ih => exact turn.holds keeps ih

end Engine.Database

/-- There is a master key and this is how it reads. -/
def Engine.Tables.HasKey (key : String) (t : Tables) : Prop :=
  ∃ cell, t.masterKey = some cell ∧ cell.read 0 "key" = .ok key

/-- No change replaces a master key or takes it away. -/
theorem Engine.Tables.HasKey.changed {key : String} {t t' : Tables} (has : t.HasKey key)
    (changed : t.Changed t') : t'.HasKey key := by
  obtain ⟨cell, stored, reads⟩ := has
  cases changed with
  | putMasterKey other =>
    refine ⟨cell, ?_, reads⟩
    rw [Tables.putMasterKey, stored]
    rfl
  | _ => exact ⟨cell, stored, reads⟩

/-- A lookup answers what there is, as it reads. -/
theorem Operation.perform_lookup_iff {β : Type} {sql : String} {params : List Param}
    {found : Tables → Option β} {read : β → Except Engine.Error String} {entity : Entity}
    {d : Database} {text : String} :
    ((Plan.send (.reading sql params fun t => (found t).mapM read)
        (orNotFound entity)).perform d).1 = .ok text ↔
      ∃ b, found d.current = some b ∧ read b = .ok text := by
  have statement : (Statement.reading sql params fun t => (found t).mapM read).change d.current =
      ((found d.current).mapM read).map (·, d.current) := rfl
  cases stored : found d.current with
  | none =>
    rw [stored, Option.mapM_none] at statement
    rw [Plan.perform_send_of_ok statement]
    exact ⟨nofun, nofun⟩
  | some b =>
    rw [stored, Option.mapM_some] at statement
    cases reads : read b with
    | error e =>
      rw [reads] at statement
      rw [Plan.perform_send_of_error statement]
      refine ⟨nofun, fun ⟨other, same, read⟩ => ?_⟩
      cases same
      cases reads.symm.trans read
    | ok answer =>
      rw [reads] at statement
      rw [Plan.perform_send_of_ok statement]
      constructor
      · intro answered
        cases answered
        exact ⟨b, rfl, reads⟩
      · rintro ⟨other, same, read⟩
        cases same
        cases reads.symm.trans read
        rfl

/-- A master key is found if there is one, and as it reads. -/
theorem Operation.perform_queryMasterKey_iff {d : Database} {key : String} :
    (queryMasterKey.perform d).1 = .ok key ↔ d.current.HasKey key :=
  perform_lookup_iff

/-- Once a master key has been found outside of a transaction it is the key for good. Whatever
becomes of the vault, by operations with any tokens, by transactions that are committed or not, by
setting up its tables again, by opening it again and by command lines: the same key is found by
every lookup that finds one, and by every lookup that nobody stops. An attempt to store another is
answered as if it had been stored, but the key stays. -/
theorem master_key_written_once {c : Connection} {d : Database} {schedule : Schedule}
    {token : Token} {key : String} (idle : c.database.inTransaction = false)
    (answered : (Operation.queryMasterKey.run schedule token c).1 = .ok key)
    (turns : c.database.Turns d) :
    d.Holds (Tables.HasKey key) ∧
      ∀ (c : Connection) (schedule : Schedule) (token : Token), c.database = d →
        (∀ answer, (Operation.queryMasterKey.run schedule token c).1 = .ok answer →
          answer = key) ∧
        (Operation.queryMasterKey.EndsLive schedule token c →
          (Operation.queryMasterKey.run schedule token c).1 = .ok key) ∧
        ∀ other, (Operation.insertMasterKey other).EndsLive schedule token c →
          ((Operation.insertMasterKey other).run schedule token c).1 = .ok () := by
  have has : c.database.Holds (Tables.HasKey key) := by
    have found := congrArg Prod.fst (Operation.perform_of_run answered)
    rw [Database.eq_ofTables idle]
    exact Database.holds_ofTables (Operation.perform_queryMasterKey_iff.1 found)
  have kept := turns.holds (fun _ _ => Tables.HasKey.changed) has
  refine ⟨kept, ?_⟩
  rintro c schedule token rfl
  have finds := Operation.perform_queryMasterKey_iff.2 kept.current
  refine ⟨fun answer ran => ?_, fun live => ?_, fun other live => ?_⟩
  · have found := congrArg Prod.fst (Operation.perform_of_run ran)
    exact Except.ok.inj (found.symm.trans finds)
  · rw [(Operation.run_of_live live).1, finds]
  · rw [(Operation.run_of_live live).1]
    have stored : (Operation.insertMasterKey other).perform c.database = _ :=
      Plan.perform_send_of_ok rfl
    rw [stored]
    rfl

/-- Other keys are stored in a transaction and by a command line, and a secret under the id of the
key is made and deleted. -/
theorem master_key_written_once_setUp :
    let live : Schedule := fun _ => none
    let run (op : Operation) (d : Database) := (op.run live 0 (.opened d)).2.database
    let found (d : Database) := (Operation.queryMasterKey.run live 0 (.opened d)).1
    let d := run (.insertMasterKey "k") .fresh
    let inside := run (.deleteSecrets [0]) (run (.upsertSecret 0 "p")
      (run (.insertMasterKey "other") d.begin.2))
    let again := (Database.ofTables (inside.commit.2.setUp).committed)
    let tree : Tree := ⟨[(["vault.db"], .vault again.committed)]⟩
    let line := CommandLine.onFile ["init", "--key", "another"]
    let last := { again with committed := (line.finish tree).tree.tablesAt ["vault.db"] }
    found d = .ok "k" ∧ d.Turns last ∧ found last = .ok "k" ∧
      ((Operation.insertMasterKey "late").run live 0 (.opened last)).1 = .ok () := by
  intro live run found d inside again tree line last
  have first : found d = .ok "k" := by decide +kernel
  have committed : d.Turns inside.commit.2 :=
    (((((Relation.ReflTransGen.single (.step (.begin d))).tail
      (.step (.operate (.opened _) (.insertMasterKey "other") live 0))).tail
      (.step (.operate (.opened _) (.upsertSecret 0 "p") live 0))).tail
      (.step (.operate (.opened _) (.deleteSecrets [0]) live 0))).tail (.step (.commit _)))
  have reads : Arguments.Invocation.read line.arguments =
      .ok (CommandLine.fileInvocation (.init (some "another"))) := by decide +kernel
  have spares : line.HooksSpare tree ["vault.db"] :=
    CommandLine.hooksSpare_of_none reads (by decide +kernel) _
  have turns : d.Turns last :=
    ((committed.tail (.setUp _)).tail (.step (.reopen _))).tail (.line line rfl spares)
  obtain ⟨-, later⟩ := master_key_written_once rfl first turns
  obtain ⟨-, finds, inserts⟩ := later (.opened last) live 0 rfl
  exact ⟨first, turns, finds (Operation.endsLive_of_never rfl _ _),
    inserts "late" (Operation.endsLive_of_never rfl _ _)⟩

end SecretVault
