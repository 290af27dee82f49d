import SecretVault.Proofs.Performing
import SecretVault.Session

/-!
Scripts in sessions. A script that only looks at a vault ends alike in every session on the same
database: what it answers and what it prints are read off the requests that it makes.
-/
namespace SecretVault
open SecretVault.Engine SecretVault.Text

/-- A session on a database of its own, with nothing around it. -/
def Session.opened (d : Database) : Session where
  tree := ⟨[]⟩
  directory := []
  environment := []
  input := []
  output := []
  errors := []
  config := {}
  place := .temporary
  connection := .opened d

/-- The sessions differ in the vault alone: in its tables and in the files that keep them. -/
def Session.OnlyVault (s s' : Session) : Prop :=
  ∃ tree connection, s' = { s with tree, connection }

theorem Session.OnlyVault.refl (s : Session) : s.OnlyVault s := ⟨s.tree, s.connection, rfl⟩

theorem Session.OnlyVault.trans {s s' s'' : Session} (first : s.OnlyVault s')
    (second : s'.OnlyVault s'') : s.OnlyVault s'' := by
  obtain ⟨_, _, rfl⟩ := first
  obtain ⟨tree, connection, rfl⟩ := second
  exact ⟨tree, connection, rfl⟩

/-- An operation in a session is one that nobody stops. -/
theorem Session.reply_store (s : Session) (op : Operation) :
    (s.reply (.store op)).1 = (op.perform s.connection.database).1 ∧
      (s.reply (.store op)).2.connection.database = (op.perform s.connection.database).2 ∧
      s.OnlyVault (s.reply (.store op)).2 := by
  have live : op.EndsLive live token s.connection :=
    Operation.endsLive_of_never rfl op s.connection
  obtain ⟨answer, database⟩ := Operation.run_of_live live
  exact ⟨answer, database, _, _, rfl⟩

/-- Where a hook is no command, nothing is run, whatever comes from outside. -/
theorem Session.runHookAmid_of_nil {s : Session} {hook : Hook}
    (noCommand : s.config.hooks.argv hook = []) (c : Circumstances) :
    s.runHookAmid c hook = (.ok (), s) := by
  simp only [runHookAmid, noCommand, Program.Surroundings.runHook, List.append_nil, passedOn,
    heldPart, List.take_append_drop, Bool.false_eq_true, if_false]

theorem Session.runHook_of_nil {s : Session} {hook : Hook}
    (noCommand : s.config.hooks.argv hook = []) : s.runHook hook = (.ok (), s) :=
  runHookAmid_of_nil noCommand .calm

theorem Session.heldBack_le (held : Nat) (printed : Utf8.Bytes) :
    heldBack held printed ≤ held + printed.length := by
  have begun := (List.takeWhile_prefix (l := printed.reverse) (· != 0x0A)).length_le
  rw [List.length_reverse] at begun
  simp only [heldBack]
  split <;> omega

/-- A line that is printed to its end is passed on, with all that has been held back. -/
theorem Session.heldBack_line (held : Nat) (text : String) :
    heldBack held (Utf8.encode (text ++ "\n")) = 0 := by
  have ends : Utf8.encode (text ++ "\n") = Utf8.encode text ++ [0x0A] := by
    simp [Utf8.encode, String.toList_append, Utf8.encodeChar]
  simp [heldBack, ends]

@[simp] theorem Session.passedOn_of_none_held {s : Session} (none : s.held = 0) :
    s.passedOn = s.output := by
  rw [passedOn, none]
  exact List.take_length

/-- Where nothing is held back, a hook goes on with the output. -/
theorem Session.output_runHook {s : Session} (none : s.held = 0) (hook : Hook) :
    ∃ printed, (s.runHook hook).2.output = s.output ++ printed := by
  simp [runHook, runHookAmid, none]

theorem Session.carryOut_done {α : Type} (a : α) (s : Session) :
    carryOut (.done a) s = (.ok a, s) := rfl

theorem Session.carryOut_fail {α : Type} (failure : Failure) (s : Session) :
    carryOut (.fail failure : Script α) s = (.error failure, s) := rfl

theorem Session.carryOut_ask {α : Type} (request : Request) (next : request.Reply → Script α)
    (s : Session) :
    carryOut (.ask request next) s = carryOut (next (s.reply request).1) (s.reply request).2 := rfl

/-- A script goes on where the script before it has left the session, or not at all. -/
theorem Session.carryOut_bind {α β : Type} (script : Script α) (next : α → Script β)
    (s : Session) :
    carryOut (script >>= next) s =
      match carryOut script s with
      | (.ok a, s') => carryOut (next a) s'
      | (.error failure, s') => (.error failure, s') := by
  induction script generalizing s with
  | done a => rfl
  | fail failure => rfl
  | ask request reply ih => exact ih (s.reply request).1 (s.reply request).2

/-- The hooks that a script runs in a session while this comes from outside, each with the session
as the hook finds it. -/
def Session.hookRunsAmid {α : Type} : Script α → Circumstances → Session → List (Hook × Session)
  | .done _, _, _ | .fail _, _, _ => []
  | .ask request next, c, s =>
    if c.isOver then []
    else
      let later := hookRunsAmid (next (s.replyAmid c request).1) c.next (s.replyAmid c request).2
      match request with
      | .runHook hook => (hook, s) :: later
      | _ => later

/-- The hooks that a script runs in a session. -/
def Session.hookRuns {α : Type} (script : Script α) (s : Session) : List (Hook × Session) :=
  hookRunsAmid script .calm s

theorem Session.hookRuns_ask {α : Type} {request : Request} (next : request.Reply → Script α)
    (s : Session) (noHook : ∀ hook, request ≠ .runHook hook) :
    hookRuns (.ask request next) s = hookRuns (next (s.reply request).1) (s.reply request).2 := by
  cases request with
  | runHook hook => exact absurd rfl (noHook hook)
  | _ => rfl

namespace Script
variable {α β : Type} {d : Database}

/-- In every session on the database the script ends like this, prints this text, and leaves the
database as it is. -/
def Reads (script : Script α) (d : Database) (ending : Except Failure α) (printed : String) :
    Prop :=
  ∀ s : Session, s.connection.database = d →
    (Session.carryOut script s).1 = ending ∧
    (Session.carryOut script s).2.output = s.output ++ Utf8.encode printed ∧
    (Session.carryOut script s).2.connection.database = d

theorem reads_done (a : α) : (Script.done a).Reads d (.ok a) "" := by
  intro s same
  exact ⟨rfl, (List.append_nil _).symm, same⟩

theorem reads_fail (failure : Failure) :
    (Script.fail failure : Script α).Reads d (.error failure) "" := by
  intro s same
  exact ⟨rfl, (List.append_nil _).symm, same⟩

theorem reads_print (text : String) : (print text).Reads d (.ok ()) text := by
  intro s same
  exact ⟨rfl, rfl, same⟩

theorem reads_orFail {ε : Type} (reason : ε → Failure) (result : Except ε α) :
    (orFail reason result).Reads d (result.mapError reason) "" := by
  cases result with
  | ok a => exact reads_done a
  | error e => exact reads_fail (reason e)

/-- An operation that changes nothing, whatever it answers. -/
theorem reads_request (op : Operation) (unchanged : (op.perform d).2 = d) :
    (request (.store op)).Reads d (.ok (op.perform d).1) "" := by
  intro s same
  obtain ⟨answer, database, -⟩ := s.reply_store op
  rw [same] at answer database
  exact ⟨congrArg Except.ok answer, (List.append_nil _).symm, database.trans unchanged⟩

/-- A script that prints nothing and then another. -/
theorem Reads.bind {script : Script α} {next : α → Script β} {a : α}
    {ending : Except Failure β} {printed : String} (first : script.Reads d (.ok a) "")
    (later : (next a).Reads d ending printed) : (script >>= next).Reads d ending printed := by
  intro s same
  obtain ⟨ended, silent, unchanged⟩ := first s same
  obtain ⟨result, output, database⟩ := later _ unchanged
  have goesOn : Session.carryOut (script >>= next) s =
      Session.carryOut (next a) (Session.carryOut script s).2 := by
    rw [Session.carryOut_bind]
    split
    · rename_i b s' ran
      rw [ran] at ended ⊢
      cases ended
      rfl
    · rename_i failure s' ran
      rw [ran] at ended
      cases ended
  rw [goesOn]
  refine ⟨result, ?_, database⟩
  rw [output, silent]
  exact congrArg (· ++ _) (List.append_nil _)

/-- A script that fails is not followed by another. -/
theorem Reads.bind_fail {script : Script α} {failure : Failure} {printed : String}
    (first : script.Reads d (.error failure) printed) (next : α → Script β) :
    (script >>= next).Reads d (.error failure) printed := by
  intro s same
  obtain ⟨ended, output, unchanged⟩ := first s same
  have stops : Session.carryOut (script >>= next) s =
      (.error failure, (Session.carryOut script s).2) := by
    rw [Session.carryOut_bind]
    split
    · rename_i b s' ran
      rw [ran] at ended
      cases ended
    · rename_i cause s' ran
      rw [ran] at ended ⊢
      cases ended
      rfl
  rw [stops]
  exact ⟨rfl, output, unchanged⟩

theorem reads_store (op : Operation) (unchanged : (op.perform d).2 = d) :
    (store op).Reads d ((op.perform d).1.mapError .store) "" :=
  (reads_request op unchanged).bind (reads_orFail .store (op.perform d).1)

end Script

/-- What a listing prints. -/
def LabeledSecrets.printed (secrets : LabeledSecrets) (json : Bool) : String :=
  if json then String.ofList (Json.Layout.pretty.print secrets) ++ "\n"
  else if secrets.entries.isEmpty then "No matching secrets." ++ "\n"
  else String.join (secrets.table.map (· ++ "\n"))

theorem Script.reads_printSecrets (secrets : LabeledSecrets) (json : Bool) (d : Database) :
    (printSecrets secrets json).Reads d (.ok ()) (secrets.printed json) := by
  unfold printSecrets LabeledSecrets.printed
  split
  · exact reads_print _
  · split
    · exact reads_print _
    · exact reads_print _

end SecretVault
