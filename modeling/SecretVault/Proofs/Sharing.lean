import SecretVault.Proofs.Reachable
import SecretVault.Proofs.Sessions
import Mathlib.Logic.Function.Basic

/-!
Several command lines on one vault. Each goes on by one request at a time, and the vault replies to
all of them; in which order they have their turns is left open. Of a single client among others only
what these make of the vault counts, between any two turns of it.
-/
namespace SecretVault
open SecretVault.Engine SecretVault.Text

/-- Nothing is left of the script to be carried out. -/
def Script.isOver {α : Type} : Script α → Bool
  | .ask _ _ => false
  | .done _ | .fail _ => true

/-- A command line on its way: its session, and what is left of its script. -/
structure Client where
  session : Session
  script : Script Unit

namespace Client

/-- The client as it finds the shared vault. -/
def looking (client : Client) (d : Database) : Session :=
  { client.session with connection := { client.session.connection with database := d } }

/-- Goes on by one request, and tells what becomes of the shared vault. -/
def turn (client : Client) (d : Database) : Client × Database :=
  match client.script with
  | .ask request next =>
    let (reply, session) := (client.looking d).reply request
    (⟨session, next reply⟩, session.connection.database)
  | .done _ | .fail _ => (client, d)

variable {client : Client} {d : Database}

theorem turn_over (finished : client.script.isOver = true) : client.turn d = (client, d) := by
  obtain ⟨session, script⟩ := client
  cases script with
  | ask request next => cases finished
  | done a => rfl
  | fail failure => rfl

/-- In its turn a client has an operation performed on the shared vault. -/
theorem turn_store {op : Operation} {next : Except StoreError op.Answer → Script Unit}
    (asks : client.script = .ask (.store op) next) :
    (client.turn d).1.script = next (op.perform d).1 ∧
      (client.turn d).1.session.output = client.session.output ∧
      (client.turn d).2 = (op.perform d).2 := by
  obtain ⟨answer, database, tree, connection, same⟩ := (client.looking d).reply_store op
  have turned : client.turn d = (⟨((client.looking d).reply (.store op)).2,
      next ((client.looking d).reply (.store op)).1⟩,
      ((client.looking d).reply (.store op)).2.connection.database) := by
    rw [turn, asks]
  rw [turned]
  refine ⟨congrArg next answer, ?_, database⟩
  rw [same]
  rfl

/-- Printing a line and running a hook leave the shared vault alone. -/
theorem turn_printLine {text : String} {next : Except Files.Error Unit → Script Unit}
    (asks : client.script = .ask (.print (text ++ "\n")) next) :
    (client.turn d).1.script = next (.ok ()) ∧
      (client.turn d).1.session.output = client.session.output ++ Utf8.encode (text ++ "\n") ∧
      (client.turn d).1.session.held = 0 ∧ (client.turn d).2 = d := by
  rw [turn, asks]
  exact ⟨rfl, rfl, Session.heldBack_line _ text, rfl⟩

theorem turn_runHook {hook : Hook} {next : Except Program.Error Unit → Script Unit}
    (asks : client.script = .ask (.runHook hook) next) (none : client.session.held = 0) :
    ∃ result printed, (client.turn d).1.script = next result ∧
      (client.turn d).1.session.output = client.session.output ++ printed ∧
      (client.turn d).2 = d := by
  obtain ⟨printed, output⟩ := Session.output_runHook (s := client.looking d) none hook
  rw [turn, asks]
  exact ⟨_, printed, rfl, output, rfl⟩

end Client

/-- All of the script has been carried out. -/
def Script.isDone {α : Type} : Script α → Bool
  | .done _ => true
  | .ask _ _ | .fail _ => false

/-- What happens next to a client and its vault: the client has its turn, or somebody else has an
operation performed. A transaction that somebody else commits is as good as its operations in a
row. -/
inductive Client.Event where
  | turn
  | other (op : Operation)

namespace Client

/-- The client and its vault after all of this has happened. -/
def among (client : Client) (d : Database) : List Event → Client × Database
  | [] => (client, d)
  | .turn :: later => (client.turn d).1.among (client.turn d).2 later
  | .other op :: later => client.among (op.perform d).2 later

variable {client : Client} {d : Database}

/-- A client that has nothing left to do stays as it is. -/
theorem among_over (finished : client.script.isOver = true) (events : List Event) :
    (client.among d events).1 = client := by
  induction events generalizing d with
  | nil => rfl
  | cons event later ih =>
    cases event with
    | turn =>
      rw [among, turn_over finished]
      exact ih
    | other op => exact ih

/-- A client that comes to the end of its script has had a turn, and before it others have had their
operations performed. -/
theorem among_turn {events : List Event} (waiting : client.script.isDone = false)
    (succeeded : (client.among d events).1.script.isDone = true) :
    ∃ ops later, events = ops.map .other ++ .turn :: later ∧
      client.among d events =
        (client.turn (d.after ops)).1.among (client.turn (d.after ops)).2 later := by
  induction events generalizing d with
  | nil => cases waiting.symm.trans succeeded
  | cons event later ih =>
    cases event with
    | turn => exact ⟨[], later, rfl, rfl⟩
    | other op =>
      obtain ⟨ops, rest, rfl, same⟩ := ih succeeded
      exact ⟨op :: ops, rest, rfl, same⟩

/-- What others do before the next turn is told apart from what comes later. -/
theorem others_turn_inj (ops : List Operation) {ops' : List Operation} {later later' : List Event}
    (same : ops.map .other ++ .turn :: later = ops'.map .other ++ .turn :: later') :
    ops = ops' ∧ later = later' := by
  induction ops generalizing ops' with
  | nil =>
    cases ops' with
    | nil => exact ⟨rfl, (List.cons.inj same).2⟩
    | cons op others => cases same
  | cons op others ih =>
    cases ops' with
    | nil => cases same
    | cons op' others' =>
      simp only [List.map_cons, List.cons_append, List.cons.injEq, Event.other.injEq] at same
      obtain ⟨rfl, same⟩ := same
      obtain ⟨rfl, rfl⟩ := ih same
      exact ⟨rfl, rfl⟩

/-- In its turn a client prints a text. -/
theorem turn_print {text : String} {next : Except Files.Error Unit → Script Unit}
    (asks : client.script = .ask (.print text) next) :
    (client.turn d).1.script = next (.ok ()) ∧
      (client.turn d).1.session.output = client.session.output ++ Utf8.encode text := by
  rw [turn, asks]
  exact ⟨rfl, rfl⟩

/-- A client that comes to the end of its script has not failed. -/
theorem not_failed {events : List Event} {failure : Failure}
    (succeeded : (client.among d events).1.script.isDone = true) :
    client.script ≠ .fail failure := by
  intro failed
  have finished : client.script.isOver = true := by
    rw [failed]
    rfl
  rw [among_over finished, failed] at succeeded
  cases succeeded

/-- A client that asks for an operation, and comes to the end of its script, has had a reply. -/
theorem among_asking {op : Operation} {next : Except StoreError op.Answer → Script Unit}
    (asks : client.script = .ask (.store op) next) {events : List Event}
    (succeeded : (client.among d events).1.script.isDone = true) :
    ∃ (ops : List Operation) (later : List Event) (client' : Client),
      events = ops.map .other ++ .turn :: later ∧
      client'.script = next (op.perform (d.after ops)).1 ∧
      client'.session.output = client.session.output ∧
      client.among d events = client'.among (op.perform (d.after ops)).2 later := by
  have waiting : client.script.isDone = false := by
    rw [asks]
    rfl
  obtain ⟨ops, later, rfl, goesOn⟩ := among_turn waiting succeeded
  obtain ⟨script, output, database⟩ := client.turn_store (d := d.after ops) asks
  rw [database] at goesOn
  exact ⟨ops, later, _, rfl, script, output, goesOn⟩

/-- If it goes on with the answer alone, then the operation has been answered. -/
theorem among_store {op : Operation} {next : op.Answer → Script Unit}
    (asks : client.script = Script.store op >>= next) {events : List Event}
    (succeeded : (client.among d events).1.script.isDone = true) :
    ∃ (ops : List Operation) (later : List Event) (answer : op.Answer) (client' : Client),
      events = ops.map .other ++ .turn :: later ∧
      (op.perform (d.after ops)).1 = .ok answer ∧ client'.script = next answer ∧
      client'.session.output = client.session.output ∧
      client.among d events = client'.among (op.perform (d.after ops)).2 later := by
  obtain ⟨ops, later, client', rfl, script, output, goesOn⟩ := among_asking asks succeeded
  rw [goesOn] at succeeded
  cases answered : (op.perform (d.after ops)).1 with
  | ok answer =>
    rw [answered] at script
    exact ⟨ops, later, answer, client', rfl, answered, script, output, goesOn⟩
  | error e =>
    rw [answered] at script
    exact absurd script (not_failed succeeded)

end Client

/-- Clients of one vault. -/
structure Clients (ι : Type) where
  database : Database
  client : ι → Client

namespace Clients
variable {ι : Type} [DecidableEq ι]

/-- One client has its turn. -/
def turn (clients : Clients ι) (i : ι) : Clients ι where
  database := ((clients.client i).turn clients.database).2
  client := Function.update clients.client i ((clients.client i).turn clients.database).1

/-- The clients have their turns in this order. -/
def run (clients : Clients ι) (order : List ι) : Clients ι := order.foldl turn clients

theorem client_turn_self (clients : Clients ι) (i : ι) :
    (clients.turn i).client i = ((clients.client i).turn clients.database).1 :=
  Function.update_self ..

theorem client_turn_of_ne (clients : Clients ι) {i j : ι} (other : j ≠ i) :
    (clients.turn i).client j = clients.client j :=
  Function.update_of_ne other ..

theorem run_append (clients : Clients ι) (first later : List ι) :
    clients.run (first ++ later) = (clients.run first).run later :=
  List.foldl_append ..

theorem run_cons (clients : Clients ι) (i : ι) (later : List ι) :
    clients.run (i :: later) = (clients.turn i).run later := rfl

end Clients
end SecretVault
