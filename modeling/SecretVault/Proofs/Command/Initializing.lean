import SecretVault.Proofs.Sharing
import Mathlib.Data.List.Induction
import Mathlib.Data.List.Nodup

/-!
Several clients that set up one vault. Each looks for a master key first and stores its own later;
storing a key where there is one changes nothing and is no error. So every client that has looked
before the first key was stored reports success, and the key is that of the first to store it.
-/
namespace SecretVault
open SecretVault.Engine SecretVault.Text

def setUpReport : String := "success: Vault initialized\n"
def setUpWarning : String := "warning: Vault already initialized\n"

namespace Client

/-- The client has reported that it has set up the vault. -/
def Succeeded (client : Client) : Prop :=
  Utf8.encode setUpReport <+: client.session.output

/-- The client has warned that the vault is set up already, and said nothing else. -/
def Warned (client : Client) : Prop := client.session.output = Utf8.encode setUpWarning

instance (client : Client) : Decidable client.Succeeded :=
  inferInstanceAs (Decidable (_ <+: _))

instance (client : Client) : Decidable client.Warned := inferInstanceAs (Decidable (_ = _))

theorem Warned.not_succeeded {client : Client} (warned : client.Warned) : ¬ client.Succeeded := by
  intro succeeded
  rw [Succeeded, warned] at succeeded
  revert succeeded
  decide +kernel

end Client

namespace Script

/-- What is left of setting up a vault when no master key was found, and when the key is stored. -/
def storeKey (key : String) : Script Unit := do
  store (.insertMasterKey key)
  printLine "success: Vault initialized"
  runHook .postWrite

def reportKey : Script Unit := do
  printLine "success: Vault initialized"
  runHook .postWrite

end Script

/-- How far a client has come that sets up a vault. -/
inductive SetUpStage where
  | looking | storing | reporting | hooking | succeeded | warning | warned
  deriving DecidableEq

namespace SetUpStage

/-- What is left of the script, and what has been printed. When a hook is run nothing is held
back. -/
def Holds (key : String) (client : Client) : SetUpStage → Prop
  | looking => client.script = Script.setUp (some key) ∧ client.session.output = []
  | storing => client.script = Script.storeKey key ∧ client.session.output = []
  | reporting => client.script = Script.reportKey ∧ client.session.output = []
  | hooking =>
    client.script = Script.runHook .postWrite ∧ client.session.held = 0 ∧ client.Succeeded
  | succeeded => client.script.isOver = true ∧ client.Succeeded
  | warning =>
    client.script = Script.printLine "warning: Vault already initialized" ∧
      client.session.output = []
  | warned => client.script.isOver = true ∧ client.Warned

/-- The stage after a turn on a vault that is set up or not. -/
def next (isSetUp : Bool) : SetUpStage → SetUpStage
  | looking => if isSetUp then warning else storing
  | storing => reporting
  | reporting => hooking
  | hooking | succeeded => succeeded
  | warning | warned => warned

/-- What a turn makes of the vault. -/
def stores (key : String) (t : Tables) : SetUpStage → Tables
  | storing => t.putMasterKey (.text key)
  | _ => t

variable {key : String} {client : Client} {t : Tables} {stored : Option String}

/-- A turn of a client that sets up a vault. -/
theorem holds_turn (given : key ≠ "") (readable : t.masterKey = stored.map .text)
    {stage : SetUpStage} (holds : stage.Holds key client) :
    (stage.next stored.isSome).Holds key (client.turn (.ofTables t)).1 ∧
      (client.turn (.ofTables t)).2 = .ofTables (stage.stores key t) := by
  cases stage with
  | looking =>
    obtain ⟨asks, silent⟩ := holds
    have performed := Operation.perform_queryMasterKey_of_text (d := .ofTables t) readable
    obtain ⟨script, output, database⟩ := client.turn_store asks
    rw [performed] at script database
    refine ⟨?_, database⟩
    cases stored with
    | none => exact ⟨script.trans (if_neg (by simpa using given)), output.trans silent⟩
    | some found => exact ⟨script, output.trans silent⟩
  | storing =>
    obtain ⟨asks, silent⟩ := holds
    obtain ⟨script, output, database⟩ := client.turn_store asks
    exact ⟨⟨script, output.trans silent⟩, database⟩
  | reporting =>
    obtain ⟨asks, silent⟩ := holds
    obtain ⟨script, output, none, database⟩ := client.turn_printLine (d := .ofTables t) asks
    rw [silent, List.nil_append] at output
    exact ⟨⟨script, none, by rw [Client.Succeeded, output]; exact List.prefix_rfl⟩, database⟩
  | hooking =>
    obtain ⟨asks, none, said⟩ := holds
    obtain ⟨result, printed, script, output, database⟩ :=
      client.turn_runHook (d := .ofTables t) asks none
    refine ⟨⟨?_, ?_⟩, database⟩
    · rw [script]
      cases result <;> rfl
    · rw [Client.Succeeded, output]
      exact said.trans (List.prefix_append _ _)
  | succeeded =>
    obtain ⟨finished, said⟩ := holds
    rw [Client.turn_over finished]
    exact ⟨⟨finished, said⟩, rfl⟩
  | warning =>
    obtain ⟨asks, silent⟩ := holds
    obtain ⟨script, output, -, database⟩ := client.turn_printLine (d := .ofTables t) asks
    rw [silent, List.nil_append] at output
    refine ⟨⟨?_, output⟩, database⟩
    rw [script]
    rfl
  | warned =>
    obtain ⟨finished, said⟩ := holds
    rw [Client.turn_over finished]
    exact ⟨⟨finished, said⟩, rfl⟩

/-- The client has found no master key when it looked. -/
def foundNone : SetUpStage → Bool
  | looking | warning | warned => false
  | storing | reporting | hooking | succeeded => true

/-- On a vault that is set up, nobody finds it otherwise any more. -/
theorem foundNone_next (stage : SetUpStage) : (stage.next true).foundNone = stage.foundNone := by
  cases stage <;> rfl

/-- Whether this is the end. -/
def isOver : SetUpStage → Bool
  | succeeded | warned => true
  | looking | storing | reporting | hooking | warning => false

theorem isOver_script {stage : SetUpStage} (holds : stage.Holds key client) :
    client.script.isOver = stage.isOver := by
  cases stage with
  | succeeded | warned => exact holds.1
  | looking | storing | reporting | hooking | warning =>
    rw [holds.1]
    rfl

/-- A client that has nothing left to do has reported what it found. -/
theorem reported_of_over {stage : SetUpStage} (holds : stage.Holds key client)
    (finished : client.script.isOver = true) :
    (stage.foundNone = true → client.Succeeded) ∧ (stage.foundNone = false → client.Warned) := by
  rw [isOver_script holds] at finished
  cases stage with
  | succeeded => exact ⟨fun _ => holds.2, nofun⟩
  | warned => exact ⟨nofun, fun _ => holds.2⟩
  | looking | storing | reporting | hooking | warning => cases finished

end SetUpStage

/-- Every client sets up the vault with a key of its own. -/
def Clients.settingUp {ι : Type} (t : Tables) (key : ι → String) (session : ι → Session) :
    Clients ι where
  database := .ofTables t
  client i := ⟨session i, (Command.init (some (key i))).script⟩

section
variable {ι : Type} [DecidableEq ι] {t : Tables} {key : ι → String} {session : ι → Session}
  {clients : Clients ι}

/-- These clients have found no master key, and none has been stored. -/
structure Clients.Looked (t : Tables) (key : ι → String) (early : List ι) (clients : Clients ι) :
    Prop where
  database : clients.database = .ofTables t
  stages : ∀ i, SetUpStage.Holds (key i) (clients.client i)
    (if i ∈ early then .storing else .looking)

/-- These clients have found no master key before one of them has stored its own. -/
structure Clients.Decided (t : Tables) (key : ι → String) (early : List ι) (winner : ι)
    (clients : Clients ι) : Prop where
  database : clients.database = .ofTables (t.putMasterKey (.text (key winner)))
  stages : ∀ i, ∃ stage : SetUpStage, stage.Holds (key i) (clients.client i) ∧
    (stage.foundNone = true ↔ i ∈ early)

namespace Clients

theorem looked_settingUp (silent : ∀ i, (session i).output = []) :
    (settingUp t key session).Looked t key [] := by
  constructor
  · rfl
  · intro i
    rw [if_neg (List.not_mem_nil)]
    exact ⟨rfl, silent i⟩

variable (given : ∀ i, key i ≠ "") (missing : t.masterKey = none)
include given missing

/-- Before the first key is stored, a client in its first turn looks for one. -/
theorem Looked.turn {early : List ι} (looked : clients.Looked t key early) {i : ι}
    (first : i ∉ early) : (clients.turn i).Looked t key (early ++ [i]) := by
  have readable : t.masterKey = (none : Option String).map .text := missing
  have holds := looked.stages i
  rw [if_neg first] at holds
  obtain ⟨later, database⟩ := SetUpStage.holds_turn (given i) readable holds
  rw [← looked.database] at later database
  constructor
  · exact database
  · intro j
    by_cases same : j = i
    · subst same
      rw [client_turn_self, if_pos (by simp)]
      exact later
    · rw [client_turn_of_ne _ same]
      simpa [same] using looked.stages j

/-- A client in its second turn stores its key. -/
theorem Looked.decides {early : List ι} (looked : clients.Looked t key early) {winner : ι}
    (second : winner ∈ early) : (clients.turn winner).Decided t key early winner := by
  have readable : t.masterKey = (none : Option String).map .text := missing
  have holds := looked.stages winner
  rw [if_pos second] at holds
  obtain ⟨later, database⟩ := SetUpStage.holds_turn (given winner) readable holds
  rw [← looked.database] at later database
  constructor
  · exact database
  · intro j
    by_cases same : j = winner
    · subst same
      rw [client_turn_self]
      exact ⟨_, later, by simp [second, SetUpStage.next, SetUpStage.foundNone]⟩
    · rw [client_turn_of_ne _ same]
      refine ⟨_, looked.stages j, ?_⟩
      by_cases looking : j ∈ early
      · simp [looking, SetUpStage.foundNone]
      · simp [looking, SetUpStage.foundNone]

/-- Once a key is stored, nothing changes it, and who looks finds it. -/
theorem Decided.turn {early : List ι} {winner : ι} (decided : clients.Decided t key early winner)
    (i : ι) : (clients.turn i).Decided t key early winner := by
  have stored : (t.putMasterKey (.text (key winner))).masterKey =
      (some (key winner)).map .text := by
    simp [Tables.putMasterKey, missing]
  obtain ⟨stage, holds, found⟩ := decided.stages i
  obtain ⟨later, database⟩ := SetUpStage.holds_turn (given i) stored holds
  rw [← decided.database] at later database
  constructor
  · refine database.trans (congrArg Database.ofTables ?_)
    cases stage with
    | storing => simp [SetUpStage.stores, Tables.putMasterKey, missing]
    | _ => rfl
  · intro j
    by_cases same : j = i
    · subst same
      rw [client_turn_self]
      exact ⟨_, later, by rw [Option.isSome_some, SetUpStage.foundNone_next]; exact found⟩
    · rw [client_turn_of_ne _ same]
      exact decided.stages j

theorem Looked.run {early : List ι} (looked : clients.Looked t key early) {order : List ι}
    (once : (early ++ order).Nodup) : (clients.run order).Looked t key (early ++ order) := by
  induction order generalizing clients early with
  | nil =>
    rw [List.append_nil]
    exact looked
  | cons i later ih =>
    have first : i ∉ early := by
      intro earlier
      exact (List.nodup_append.1 once).2.2 i earlier i List.mem_cons_self rfl
    rw [List.append_cons] at once ⊢
    exact ih (looked.turn given missing first) once

theorem Decided.run {early : List ι} {winner : ι} (decided : clients.Decided t key early winner)
    (order : List ι) : (clients.run order).Decided t key early winner := by
  induction order generalizing clients with
  | nil => exact decided
  | cons i later ih => exact ih (decided.turn given missing i)

/-- The clients have ended as they should: the key is that of the only one to report success, and
all others have warned. -/
def Honest (key : ι → String) (clients : Clients ι) : Prop :=
  ∃ winner, clients.database.committed.masterKey = some (.text (key winner)) ∧
    (clients.client winner).Succeeded ∧ ∀ i ≠ winner, (clients.client i).Warned

omit given [DecidableEq ι] in
/-- Once all have ended, those that have found no master key have reported success. -/
theorem Decided.reports {early : List ι} {winner : ι} (decided : clients.Decided t key early winner)
    (finished : ∀ i, (clients.client i).script.isOver = true) :
    clients.database.committed.masterKey = some (.text (key winner)) ∧
      ∀ i, (i ∈ early → (clients.client i).Succeeded) ∧
        (i ∉ early → (clients.client i).Warned) := by
  constructor
  · rw [decided.database]
    simp [Database.ofTables, Tables.putMasterKey, missing]
  · intro i
    obtain ⟨stage, holds, found⟩ := decided.stages i
    obtain ⟨succeeds, warns⟩ := SetUpStage.reported_of_over holds (finished i)
    constructor
    · intro early
      exact succeeds (found.2 early)
    · intro late
      exact warns (Bool.eq_false_iff.2 fun none => late (found.1 none))

end Clients

omit [DecidableEq ι] in
/-- In an order of turns either nobody has a second turn, or there is a first second turn. -/
theorem nodup_or_second_turn (order : List ι) :
    order.Nodup ∨ ∃ early winner late, order = early ++ winner :: late ∧ early.Nodup ∧
      winner ∈ early := by
  induction order using List.reverseRecOn with
  | nil => exact .inl List.nodup_nil
  | append_singleton order i ih =>
    rcases ih with once | ⟨early, winner, late, rfl, once, second⟩
    · by_cases again : i ∈ order
      · exact .inr ⟨order, i, [], rfl, once, again⟩
      · exact .inl (List.nodup_append_comm.1 (List.nodup_cons.2 ⟨again, once⟩))
    · exact .inr ⟨early, winner, late ++ [i], by simp, once, second⟩

omit [DecidableEq ι] in
/-- The first second turn is the second one of all if the same client has both of the first. -/
theorem early_eq_singleton_iff {early late : List ι} {winner : ι} (once : early.Nodup)
    (second : winner ∈ early) :
    early = [winner] ↔ ∃ first rest, early ++ winner :: late = first :: first :: rest := by
  constructor
  · rintro rfl
    exact ⟨winner, late, rfl⟩
  · rintro ⟨first, rest, same⟩
    match early with
    | [] => cases second
    | [i] =>
      cases List.mem_singleton.1 second
      rfl
    | i :: j :: others =>
      simp only [List.cons_append, List.cons.injEq] at same
      obtain ⟨rfl, rfl, -⟩ := same
      simp at once

/-- However the turns of any number of clients with keys of their own are ordered that set up one
vault, once all have ended the key is that of the client which has been the first to have a second
turn, and exactly those report success that have had their first turn before. So just one of them
does, and all others warn, if and only if the first two turns are those of one client. -/
theorem set_up_honest_iff [Nonempty ι] (given : ∀ i, key i ≠ "") (missing : t.masterKey = none)
    (silent : ∀ i, (session i).output = []) (order : List ι)
    (finished : ∀ i,
      (((Clients.settingUp t key session).run order).client i).script.isOver = true) :
    let ended := (Clients.settingUp t key session).run order
    (∃ early winner late, order = early ++ winner :: late ∧ early.Nodup ∧ winner ∈ early ∧
      ended.database.committed.masterKey = some (.text (key winner)) ∧
      ∀ i, (i ∈ early → (ended.client i).Succeeded) ∧ (i ∉ early → (ended.client i).Warned)) ∧
    (ended.Honest key ↔ ∃ first rest, order = first :: first :: rest) := by
  intro ended
  have looked : (Clients.settingUp t key session).Looked t key [] :=
    Clients.looked_settingUp silent
  rcases nodup_or_second_turn order with once | ⟨early, winner, late, rfl, once, second⟩
  · -- With one turn each, nobody has come to an end.
    exfalso
    obtain ⟨i⟩ := ‹Nonempty ι›
    have holds := (looked.run given missing (List.nil_append order ▸ once)).stages i
    have stops := (SetUpStage.isOver_script holds).symm.trans (finished i)
    split at stops
    · cases stops
    · cases stops
  · have decided : ended.Decided t key early winner := by
      have before := looked.run given missing (List.nil_append early ▸ once)
      have storing := before.decides given missing second
      have after := storing.run given missing late
      rw [← Clients.run_cons, ← Clients.run_append] at after
      exact after
    obtain ⟨stored, reports⟩ := decided.reports missing finished
    refine ⟨⟨early, winner, late, rfl, once, second, stored, reports⟩, ?_⟩
    rw [← early_eq_singleton_iff once second]
    constructor
    · rintro ⟨only, -, -, warn⟩
      have others : ∀ i ∈ early, i = only := by
        intro i found
        by_contra other
        exact (warn i other).not_succeeded ((reports i).1 found)
      obtain rfl := others winner second
      refine List.perm_singleton.1 ((List.perm_ext_iff_of_nodup once (by simp)).2 fun i => ?_)
      constructor
      · intro found
        exact List.mem_singleton.2 (others i found)
      · intro same
        rw [List.mem_singleton.1 same]
        exact second
    · rintro rfl
      refine ⟨winner, stored, (reports winner).1 second, fun i other => (reports i).2 ?_⟩
      simpa using other

/-- Two clients that both look before either stores its key. -/
def Clients.racing : Clients Bool :=
  settingUp .empty (fun first => if first then "a" else "b") fun _ => .opened .fresh

/-- Both report success, though the key of the second is not kept. -/
theorem set_up_not_honest :
    let ended := Clients.racing.run
      [true, false, true, false, true, true, false, false]
    (∀ i, (ended.client i).script.isOver = true) ∧
      ended.database.committed.masterKey = some (.text "a") ∧
      (ended.client true).Succeeded ∧ (ended.client false).Succeeded ∧
      ¬ ended.Honest fun first => if first then "a" else "b" := by
  intro ended
  have both : (ended.client true).Succeeded ∧ (ended.client false).Succeeded := by decide +kernel
  refine ⟨by decide +kernel, by decide +kernel, both.1, both.2, ?_⟩
  rintro ⟨winner, -, -, warn⟩
  cases winner with
  | true => exact (warn false (by decide)).not_succeeded both.2
  | false => exact (warn true (by decide)).not_succeeded both.1

/-- The same two clients, of which one has stored its key before the other looks. -/
theorem set_up_honest_iff_turns :
    let ended := Clients.racing.run [true, true, false, true, true, false]
    (∀ i, (ended.client i).script.isOver = true) ∧
      ended.Honest fun first => if first then "a" else "b" := by
  intro ended
  have finished : ∀ i, (ended.client i).script.isOver = true := by decide +kernel
  have given : ∀ first : Bool, (if first then "a" else "b") ≠ "" := by decide
  obtain ⟨-, honest⟩ := set_up_honest_iff given rfl (fun _ => rfl) _ finished
  exact ⟨finished, honest.2 ⟨true, _, rfl⟩⟩

end
end SecretVault
