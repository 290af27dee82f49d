import SecretVault.Proofs.Command.Asking
import SecretVault.Proofs.Vault.Keeping

/-!
The course of a script, moment by moment: in a session of its own, with somebody at a terminal, and
with hooks that do what they like. What a script asks for keeps a session as it should be at all of
these moments, and a script that is carried out comes to its end by them.
-/
namespace SecretVault
open SecretVault.Engine SecretVault.Files SecretVault.Text

/-- Requests that a session replies to by itself, with nobody at a terminal and no other program. -/
def Request.IsOwn : Request → Prop
  | .prompt _ | .runHook _ => False
  | _ => True

namespace Script
variable {α : Type} {replies : (request : Request) → request.Reply → Prop}
  {allowed : Request → Prop} {fails : Failure → Prop} {answers : α → Prop}

/-- One script is at a point of another's course in the second of two sessions, if the other has
begun in the first. A prompt is answered with what is typed, and a hook does to the files what it
may do; all else is replied to by the session. -/
inductive Comes (typed : Except Files.Error String) (may : Tree → Tree → Prop) (script : Script α)
    (s : Session) : Script α → Session → Prop where
  | here : Comes typed may script s script s
  | reply {request : Request} {next : request.Reply → Script α} {s' : Session}
      (earlier : Comes typed may script s (.ask request next) s') (own : request.IsOwn) :
      Comes typed may script s (next (s'.reply request).1) (s'.reply request).2
  | prompt {text : String} {next : Except Files.Error String → Script α} {s' : Session}
      (earlier : Comes typed may script s (.ask (.prompt text) next) s') :
      Comes typed may script s (next typed) s'
  | hook {hook : Hook} {next : Except Program.Error Unit → Script α} {s' : Session}
      (earlier : Comes typed may script s (.ask (.runHook hook) next) s')
      (result : Except Program.Error Unit) (tree : Tree) (input output errors : Utf8.Bytes)
      (does : may s'.tree tree) :
      Comes typed may script s (next result) { s' with tree, input, output, errors }

variable {typed : Except Files.Error String} {may : Tree → Tree → Prop}

/-- What a script may become goes on with what becomes of it. -/
theorem Comes.trans {script between rest : Script α} {s s' s'' : Session}
    (first : script.Comes typed may s between s') (later : between.Comes typed may s' rest s'') :
    script.Comes typed may s rest s'' := by
  induction later with
  | here => exact first
  | reply _ own ih => exact .reply ih own
  | prompt _ ih => exact .prompt ih
  | hook _ result tree input output errors does ih =>
    exact .hook ih result tree input output errors does

/-- A script that is carried out with nobody at a terminal comes to its end. -/
theorem comes_carryOut {script : Script α} {s : Session}
    (hooks : ∀ hook found, (hook, found) ∈ Session.hookRuns script s →
      may found.tree (found.runHook hook).2.tree) :
    script.Comes (.error .noDevice) may s (orFail id (Session.carryOut script s).1)
      (Session.carryOut script s).2 := by
  induction script generalizing s with
  | done a => exact .here
  | fail failure => exact .here
  | ask request next ih =>
    have replies (own : request.IsOwn) : Comes (.error .noDevice) may (.ask request next) s
        (next (s.reply request).1) (s.reply request).2 := .reply .here own
    cases request with
    | prompt text => exact (Comes.prompt .here).trans (ih _ hooks)
    | runHook hook =>
      have ran : Comes (.error .noDevice) may (.ask (.runHook hook) next) s
          (next (s.runHook hook).1) (s.runHook hook).2 :=
        .hook .here _ _ _ _ _ (hooks hook s List.mem_cons_self)
      exact ran.trans (ih _ fun other found runs => hooks other found (List.mem_cons_of_mem _ runs))
    | store _ | begin | commit | abandon | print _ | flush | readInput =>
      exact (replies trivial).trans (ih _ hooks)

/-- What a session has, if each of the requests that are allowed leaves it and is replied to as it
should be, is there at every point of the script. -/
theorem Asks.comes {P : Session → Prop} {script rest : Script α} {s s' : Session}
    (asks : script.Asks replies allowed fails answers) (holds : P s)
    (own : ∀ s request, P s → allowed request → request.IsOwn →
      replies request (s.reply request).1 ∧ P (s.reply request).2)
    (prompts : ∀ text, allowed (.prompt text) → replies (.prompt text) typed)
    (hooks : ∀ (s : Session) hook result tree input output errors, P s → allowed (.runHook hook) →
      may s.tree tree → replies (.runHook hook) result ∧ P { s with tree, input, output, errors })
    (comes : script.Comes typed may s rest s') :
    rest.Asks replies allowed fails answers ∧ P s' := by
  induction comes with
  | here => exact ⟨asks, holds⟩
  | reply _ isOwn ih =>
    obtain ⟨⟨allows, later⟩, between⟩ := ih
    obtain ⟨replied, after⟩ := own _ _ between allows isOwn
    exact ⟨later _ replied, after⟩
  | prompt _ ih =>
    obtain ⟨⟨allows, later⟩, between⟩ := ih
    exact ⟨later _ (prompts _ allows), between⟩
  | hook _ result tree input output errors does ih =>
    obtain ⟨⟨allows, later⟩, between⟩ := ih
    obtain ⟨replied, after⟩ := hooks _ _ result tree input output errors between allows does
    exact ⟨later _ replied, after⟩

end Script

/-- Hooks that spare a vault do so in each of their runs. -/
theorem Session.HooksSpare.hookRuns {α : Type} {location : Location} {script : Script α}
    {s : Session} (spares : HooksSpare location script s) {hook : Hook} {found : Session}
    (runs : (hook, found) ∈ Session.hookRuns script s) :
    (found.runHook hook).2.tree.tablesAt location = found.tree.tablesAt location := by
  induction script generalizing s with
  | done a => cases runs
  | fail failure => cases runs
  | ask request next ih =>
    obtain ⟨sparesNow, sparesLater⟩ := spares
    cases request with
    | runHook other =>
      rcases List.mem_cons.1 runs with first | later
      · cases first
        exact sparesNow hook rfl
      · exact ih _ sparesLater later
    | store _ | begin | commit | abandon | print _ | flush | readInput | prompt _ =>
      exact ih _ sparesLater runs

end SecretVault
