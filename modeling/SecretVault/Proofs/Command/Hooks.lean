import SecretVault.Proofs.Command.Gate
import SecretVault.Proofs.Vault.Keeping

/-!
When hooks are run, whatever comes from outside. A command prints one text at most, and all of it has
been passed on when the hook is run that comes after it. What the command writes is stored by then.
A report that the output refuses is where the command ends, and no hook is run for what it has
written.
-/
namespace SecretVault
open SecretVault.Engine SecretVault.Files SecretVault.Text

/-- Requests that print nothing and run no hook. -/
def Request.IsSilent : Request → Prop
  | .print _ | .flush | .runHook _ => False
  | .store _ | .begin | .commit | .abandon | .readInput | .prompt _ => True

namespace Script
variable {α β : Type}

/-- Whatever is replied, the script prints nothing and runs no hook. -/
def Silent : Script α → Prop
  | .done _ | .fail _ => True
  | .ask request next => request.IsSilent ∧ ∀ reply, (next reply).Silent

/-- A script that asks for silent requests only, whatever is replied, is silent. -/
theorem Asks.silent {answers : α → Prop} {script : Script α}
    (asks : script.Asks (fun _ _ => True) Request.IsSilent (fun _ => True) answers) :
    script.Silent := by
  induction script with
  | done a => trivial
  | fail failure => trivial
  | ask request next ih => exact ⟨asks.1, fun reply => ih reply (asks.2 reply trivial)⟩

theorem Silent.asks {script : Script α} (silent : script.Silent) :
    script.Asks (fun _ _ => True) Request.IsSilent (fun _ => True) fun _ => True := by
  induction script with
  | done a => trivial
  | fail failure => trivial
  | ask request next ih => exact ⟨silent.1, fun reply _ => ih reply (silent.2 reply)⟩

theorem Silent.bind {script : Script α} {next : α → Script β} (first : script.Silent)
    (later : ∀ a, (next a).Silent) : (script >>= next).Silent :=
  Asks.silent (first.asks.bind fun a _ => (later a).asks)

theorem silent_store (op : Operation) : (store op).Silent :=
  Asks.silent (asks_store (fun _ _ _ => trivial) trivial)

theorem silent_storeAt (id : Int) (op : Operation) : (storeAt id op).Silent :=
  Asks.silent (asks_storeAt (fun _ _ _ => trivial) id trivial)

theorem silent_insertLabels (id : Int) (labels : List String) : (insertLabels id labels).Silent :=
  Asks.silent (asks_insertLabels (fun _ _ _ => trivial) (fun _ => trivial) labels)

theorem Silent.inTransaction {body : Script α} (silent : body.Silent)
    (notCommitted : StoreError → Failure) : (inTransaction notCommitted body).Silent :=
  Asks.silent (silent.asks.inTransaction (fun _ _ _ => trivial) trivial trivial trivial notCommitted
    fun _ => trivial)

theorem silent_requireMasterKey : requireMasterKey.Silent :=
  Asks.silent (asks_requireMasterKey trivial fun _ _ => trivial)

theorem silent_readValue (source : ValueSource) : (readValue source).Silent :=
  Asks.silent (asks_readValue (fun _ _ _ => trivial) trivial (fun _ => trivial) source)

theorem silent_readKey (key : Option String) : (readKey key).Silent :=
  Asks.silent (asks_readKey (fun _ _ _ => trivial) (fun _ => trivial) key)

theorem silent_findSecrets (name : Option String) (labels : List String) :
    (findSecrets name labels).Silent :=
  Asks.silent (asks_findSecrets (fun _ _ _ => trivial) (fun _ _ => trivial) name labels)

/-- The script prints one text at most, in the end. If a hook is run after it then the text is one
of those that may come before this hook, and nothing of it is held back. -/
inductive Announces (due : Hook → String → Prop) : Script Unit → Prop where
  | ask {request : Request} {next : request.Reply → Script Unit} (silent : request.IsSilent)
      (later : ∀ reply, Announces due (next reply)) : Announces due (.ask request next)
  | fail (failure : Failure) : Announces due (.fail failure)
  | prints (text : String) : Announces due (print text)
  | line {text : String} {hook : Hook} (announced : due hook (text ++ "\n")) :
      Announces due (do
        printLine text
        runHook hook)
  | flushed {text : String} {hook : Hook} (announced : due hook text) :
      Announces due (do
        orFail .notPassedOn (← request (.print text))
        orFail .notPassedOn (← request .flush)
        runHook hook)

variable {due : Hook → String → Prop}

theorem Silent.announces {script : Script α} {next : α → Script Unit} (silent : script.Silent)
    (later : ∀ a, (next a).Announces due) : (script >>= next).Announces due := by
  induction script with
  | done a => exact later a
  | fail failure => exact .fail failure
  | ask request reply ih => exact .ask silent.1 fun r => ih r (silent.2 r)

theorem announces_printSecrets (secrets : LabeledSecrets) (json : Bool) :
    (printSecrets secrets json).Announces due := by
  unfold printSecrets
  split
  · exact .prints _
  · split
    · exact .prints _
    · exact .prints _

end Script

namespace Session
variable {α β : Type} {s s' : Session} {c : Circumstances}

/-- Nothing is printed by a silent request. -/
theorem output_replyAmid_silent {r : Request} (silent : r.IsSilent) (c : Circumstances)
    (s : Session) : (s.replyAmid c r).2.output = s.output := by
  cases r with
  | print _ | flush | runHook _ => cases silent
  | _ => rfl

theorem not_runHook_of_isSilent {r : Request} (silent : r.IsSilent) (hook : Hook) :
    r ≠ .runHook hook := by
  rintro rfl
  exact silent

theorem hookRuns_ask_silent {r : Request} (silent : r.IsSilent) (next : r.Reply → Script α)
    (s : Session) : hookRuns (.ask r next) s = hookRuns (next (s.reply r).1) (s.reply r).2 :=
  hookRuns_ask next s (not_runHook_of_isSilent silent)

/-- A hook that is run after a silent script that has succeeded. -/
theorem hookRuns_bind_of_succeeds {script : Script α} {next : α → Script β} {a : α}
    (silent : script.Silent) (succeeds : script.Succeeds s a s') :
    hookRuns (script >>= next) s = hookRuns (next a) s' := by
  induction script generalizing s with
  | done b =>
    obtain ⟨rfl, rfl⟩ := (Script.succeeds_done _ _).1 succeeds
    rfl
  | fail failure => exact absurd succeeds (Script.not_succeeds_fail _ _)
  | ask request reply ih =>
    rw [← ih _ (silent.2 _) (Script.succeeds_ask.1 succeeds)]
    exact hookRuns_ask_silent silent.1 _ s

section
variable {hook : Hook} {found : Session}

/-- Where a hook is run later on, the process has not been made to quit. -/
theorem running_of_hookRunsAmid {script : Script α}
    (runs : (hook, found) ∈ hookRunsAmid script c s) : c.isOver = false := by
  cases quitting : c.isOver with
  | true =>
    rw [(carryOutAmid_of_isOver quitting script s).2] at runs
    cases runs
  | false => rfl

/-- A hook that is run after a request that runs none. -/
theorem hookRunsAmid_of_ask {r : Request} {next : r.Reply → Script α}
    (noHook : ∀ hook, r ≠ .runHook hook) (runs : (hook, found) ∈ hookRunsAmid (.ask r next) c s) :
    (hook, found) ∈ hookRunsAmid (next (s.replyAmid c r).1) c.next (s.replyAmid c r).2 := by
  rw [hookRunsAmid_ask (running_of_hookRunsAmid runs) next s noHook] at runs
  exact runs

theorem hookRunsAmid_orFail {ε : Type} (reason : ε → Failure) (result : Except ε α)
    (c : Circumstances) (s : Session) : hookRunsAmid (Script.orFail reason result) c s = [] := by
  cases result <;> rfl

theorem hookRunsAmid_runHook (running : c.isOver = false) (hook : Hook) (s : Session) :
    hookRunsAmid (Script.runHook hook) c s = [(hook, s)] := by
  have asked : hookRunsAmid (Script.runHook hook) c s = (hook, s) :: hookRunsAmid
      (Script.orFail (.hook hook) (s.runHookAmid c hook).1) c.next (s.runHookAmid c hook).2 := by
    simp only [Script.runHook, bind, Script.bind, Script.request, hookRunsAmid, running]
    rfl
  rw [asked, hookRunsAmid_orFail]

/-- A hook that is all that is left to run. -/
theorem eq_of_hookRunsAmid_runHook {last : Hook}
    (runs : (hook, found) ∈ hookRunsAmid (Script.runHook last) c s) :
    hook = last ∧ found = s := by
  rw [hookRunsAmid_runHook (running_of_hookRunsAmid runs), List.mem_singleton] at runs
  exact Prod.mk.inj runs

theorem hookRunsAmid_print (text : String) (c : Circumstances) (s : Session) :
    hookRunsAmid (Script.print text) c s = [] := by
  refine List.eq_nil_iff_forall_not_mem.2 fun ⟨hook, found⟩ runs => ?_
  have goesOn : (hook, found) ∈ hookRunsAmid
      (Script.orFail .notPrinted (s.printAmid c text).1) c.next (s.printAmid c text).2 :=
    hookRunsAmid_of_ask (r := .print text) nofun runs
  rw [hookRunsAmid_orFail] at goesOn
  cases goesOn

/-- A hook is run after a text only if the output has taken the text. -/
theorem printed_of_hookRunsAmid {text : String} {reason : Files.Error → Failure}
    {next : Script Unit} (runs : (hook, found) ∈ hookRunsAmid (do
      Script.orFail reason (← Script.request (.print text))
      next) c s) : (hook, found) ∈ hookRunsAmid next c.next (s.print text) := by
  have goesOn := hookRunsAmid_of_ask (r := .print text) nofun runs
  have replied : s.replyAmid c (.print text) = s.printAmid c text := rfl
  rw [replied] at goesOn
  rcases s.printAmid_cases c text with whole | ⟨_, e, -, part⟩
  · rw [whole] at goesOn
    exact goesOn
  · rw [part] at goesOn
    cases goesOn

/-- A hook is run after what is held back only if the output has taken that. -/
theorem flushed_of_hookRunsAmid {reason : Files.Error → Failure} {next : Script Unit}
    (runs : (hook, found) ∈ hookRunsAmid (do
      Script.orFail reason (← Script.request .flush)
      next) c s) : (hook, found) ∈ hookRunsAmid next c.next { s with held := 0 } := by
  have goesOn := hookRunsAmid_of_ask (r := .flush) nofun runs
  have replied : s.replyAmid c .flush = s.flushAmid c := rfl
  rw [replied] at goesOn
  rcases s.flushAmid_cases c with whole | ⟨_, e, -, part⟩
  · rw [whole] at goesOn
    exact goesOn
  · rw [part] at goesOn
    cases goesOn

/-- When a hook is run, what has been printed is a text that may come before it, and it has been
passed on. -/
theorem output_before_hook {due : Hook → String → Prop} {script : Script Unit}
    (announces : script.Announces due) (runs : (hook, found) ∈ hookRunsAmid script c s) :
    found.held = 0 ∧ ∃ text, due hook text ∧ found.output = s.output ++ Utf8.encode text := by
  induction announces generalizing s c with
  | ask silent later ih =>
    -- A silent request leaves the output alone, so that the one text is all that comes to it.
    rw [← output_replyAmid_silent silent c s]
    exact ih _ (hookRunsAmid_of_ask (not_runHook_of_isSilent silent) runs)
  | fail failure => cases runs
  | prints text =>
    rw [hookRunsAmid_print] at runs
    cases runs
  | @line text last announced =>
    obtain ⟨rfl, rfl⟩ := eq_of_hookRunsAmid_runHook (printed_of_hookRunsAmid runs)
    exact ⟨heldBack_line s.held text, _, announced, rfl⟩
  | @flushed text last announced =>
    obtain ⟨rfl, rfl⟩ :=
      eq_of_hookRunsAmid_runHook (flushed_of_hookRunsAmid (printed_of_hookRunsAmid runs))
    exact ⟨rfl, _, announced, rfl⟩

end
end Session

/-- What a command may have printed when this hook is run: the report of what it has written, or the
payload that it shows. -/
def Command.Prints : Command → Hook → String → Prop
  | .init _, .postWrite, text => text = setUpReport
  | .save name _ _, .postWrite, text => ∃ id, text = Script.saveReport name id
  | .set id _, .postWrite, text => text = "success: Secret updated: " ++ idText id ++ "\n"
  | .label id labels, .postWrite, text =>
    text = "success: Labeled " ++ idText id ++ ": " ++ ", ".intercalate labels ++ "\n"
  | .unlabel id _, .postWrite, text => ∃ removed : Nat,
    text = "success: Removed " ++ toString removed ++ " label(s) from " ++ idText id ++ "\n"
  | .rename id name, .postWrite, text =>
    text = "success: Renamed " ++ idText id ++ " to " ++ name ++ "\n"
  | .remove _, .postWrite, text => ∃ removed : Nat,
    text = "success: Deleted " ++ toString removed ++ " secret(s)" ++ "\n"
  | .show _ lineEnd, .postRead, text => ∃ payload, text = payload ++ if lineEnd then "\n" else ""
  | _, _, _ => False

namespace Script

theorem announces_setUp (key : Option String) :
    (setUp key).Announces (Command.init key).Prints := by
  refine .ask trivial fun reply => ?_
  cases reply with
  | ok _ => exact .prints _
  | error e =>
    cases e with
    | notFound _ =>
      refine (silent_readKey key).announces fun given => ?_
      split
      · exact .fail _
      · exact (silent_store _).announces fun _ => .line rfl
    | _ => exact .fail _

theorem announces_action (command : Command) : command.action.Announces command.Prints := by
  cases command with
  | init key => exact announces_setUp key
  | save name labels source =>
    refine (silent_readValue source).announces fun payload => ?_
    have saving : (insertLabelled name payload labels).Silent :=
      (silent_store _).bind fun id => (silent_insertLabels id labels).bind fun _ => trivial
    exact (saving.inTransaction .notSaved).announces fun id => .line ⟨id, rfl⟩
  | find name labels json =>
    rw [show (Command.find name labels json).action = _ from find_eq name labels json]
    exact (silent_findSecrets name labels).announces fun found => announces_printSecrets found json
  | «show» id lineEnd =>
    rw [show (Command.show id lineEnd).action = _ from show_eq id lineEnd]
    exact (silent_storeAt id _).announces fun payload => .flushed ⟨payload, rfl⟩
  | describe ids json =>
    exact (silent_store _).announces fun secrets => announces_printSecrets secrets json
  | set id source =>
    exact (silent_readValue source).announces fun payload =>
      (silent_store _).announces fun _ => .line rfl
  | label id labels =>
    exact ((silent_insertLabels id labels).inTransaction .store).announces fun _ => .line rfl
  | unlabel id patterns => exact (silent_store _).announces fun removed => .line ⟨removed, rfl⟩
  | rename id name => exact (silent_storeAt id _).announces fun _ => .line rfl
  | remove ids => exact (silent_store _).announces fun removed => .line ⟨removed, rfl⟩

theorem announces_script (command : Command) : command.script.Announces command.Prints := by
  rcases command.script_cases with ⟨key, rfl⟩ | requires
  · exact announces_setUp key
  · rw [requires]
    exact silent_requireMasterKey.announces fun _ => announces_action command

end Script

/-- There is a secret with this id, and this is how its payload reads. -/
def Engine.Tables.HasPayload (id : Int) (payload : String) (t : Tables) : Prop :=
  ∃ secret, t.secrets.get? id = some secret ∧ secret.payload.read 0 "secret" = .ok payload

theorem Operation.perform_readPayload_iff {d : Database} {id : Int} {payload : String} :
    ((readPayload id).perform d).1 = .ok payload ↔ d.current.HasPayload id payload :=
  perform_lookup_iff

/-- A command that may write: it is none of those that only look something up, and it does not set
up a vault again. -/
def Command.MayWrite (t : Tables) : Command → Prop
  | .init _ => ¬ t.IsKeyed
  | .find .. | .show .. | .describe .. => False
  | _ => True

namespace Session
variable {s : Session}

/-- Where there is a master key, setting up the vault runs no hook. -/
theorem hookRuns_setUp_of_keyed (keyed : s.connection.database.current.IsKeyed)
    (key : Option String) (c : Circumstances) : hookRunsAmid (Script.setUp key) c s = [] := by
  obtain ⟨cell, stored⟩ := Option.ne_none_iff_exists'.1 keyed
  refine List.eq_nil_iff_forall_not_mem.2 fun ⟨hook, found⟩ runs => ?_
  have goesOn := hookRunsAmid_of_ask (r := .store .queryMasterKey) nofun runs
  have there (entity : Entity) :
      (s.replyAmid c (.store .queryMasterKey)).1 ≠ .error (.notFound entity) := by
    rcases s.replyAmid_cases c (r := .store .queryMasterKey) nofun with ⟨-, spoils⟩ | same
    · rw [show _ = Except.error _ from spoils]
      nofun
    · rw [same, (s.reply_store .queryMasterKey).1]
      intro looked
      obtain ⟨cause, same⟩ := Operation.perform_queryMasterKey_of_some stored looked
      cases cause <;> cases same
  cases replied : (s.replyAmid c (.store .queryMasterKey)).1 with
  | ok text =>
    rw [replied] at goesOn
    change _ ∈ hookRunsAmid (Script.print ("warning: Vault already initialized" ++ "\n")) _ _
      at goesOn
    rw [hookRunsAmid_print] at goesOn
    cases goesOn
  | error e =>
    rw [replied] at goesOn
    cases e with
    | notFound entity => exact there entity replied
    | _ => cases goesOn

/-- A secret that can be read is shown, and then the hook is run. -/
theorem hookRuns_show (idle : s.connection.database.inTransaction = false) {key payload : String}
    {id : Int} (keyed : s.connection.database.current.HasKey key)
    (holds : s.connection.database.current.HasPayload id payload) (lineEnd : Bool) :
    ∃ found, hookRuns (Command.show id lineEnd).script s = [(.postRead, found)] ∧
      found.output = s.output ++ Utf8.encode (payload ++ if lineEnd then "\n" else "") := by
  have script : (Command.show id lineEnd).script =
      (do Script.requireMasterKey; Script.show id lineEnd) := rfl
  have required := Script.succeeds_requireMasterKey_of_found
    (Operation.perform_queryMasterKey_iff.2 keyed)
  obtain ⟨-, same, keying⟩ := s.reply_store .queryMasterKey
  rw [Operation.database_perform_reading idle rfl] at same
  generalize (s.reply (.store .queryMasterKey)).2 = keyed at required same keying
  rw [← same] at holds
  have read : (Script.storeAt id (.readPayload id)).Succeeds keyed payload
      (keyed.reply (.store (.readPayload id))).2 :=
    Script.succeeds_store _ (Operation.perform_readPayload_iff.2 holds)
  have reading := (keyed.reply_store (.readPayload id)).2.2
  have quiet := (keying.trans reading).quiet
  generalize (keyed.reply (.store (.readPayload id))).2 = found at read quiet
  let printed := found.print (payload ++ if lineEnd then "\n" else "")
  refine ⟨{ printed with held := 0 }, ?_, congrArg (· ++ _) quiet.output⟩
  rw [script, hookRuns_bind_of_succeeds Script.silent_requireMasterKey required, Script.show_eq,
    hookRuns_bind_of_succeeds (Script.silent_storeAt _ _) read]
  exact hookRunsAmid_runHook (c := .calm) rfl .postRead { printed with held := 0 }

/-- How a hook finds the session in which its command is carried out while this comes from outside.
The command has done all that it does where no hook is run and nothing comes from outside, and has
not failed. What it has written is stored and kept, what it has printed has been passed on, and all
that is left is the hook, unless the process is made to quit after it. -/
structure HookStarts (opened : Session) (c : Circumstances) (command : Command) (hook : Hook)
    (found : Session) : Prop where
  complete : carryOut command.script opened.hookless = (.ok (), found.hookless)
  config : found.config = opened.config
  idle : found.connection.database.inTransaction = false
  kept : found.place.Keeps found.tree found.connection.database.committed
  passedOn : found.held = 0
  printed : ∃ text, command.Prints hook text ∧ found.output = opened.output ++ Utf8.encode text
  last : ∃ n, carryOutAmid command.script c opened =
    (if (c.after (n + 1)).isOver then .error .quit
      else (found.runHookAmid (c.after n) hook).1.mapError (.hook hook),
    (found.runHookAmid (c.after n) hook).2)

variable {opened : Session} {command : Command} {c : Circumstances}

/-- A hook that is no command is not run, and the command succeeds unless it is made to quit. -/
theorem HookStarts.of_noCommand {hook : Hook} {found : Session}
    (starts : opened.HookStarts c command hook found)
    (noCommand : opened.config.hooks.argv hook = []) :
    carryOutAmid command.script c opened = (.ok (), found) ∨
      c.quits ≠ none ∧ carryOutAmid command.script c opened = (.error .quit, found) := by
  obtain ⟨n, last⟩ := starts.last
  rw [runHookAmid_of_nil (by rw [starts.config, noCommand])] at last
  cases quitting : (c.after (n + 1)).isOver with
  | true =>
    rw [quitting, if_pos rfl] at last
    exact .inr ⟨Circumstances.quits_of_isOver quitting, last⟩
  | false =>
    rw [quitting, if_neg Bool.false_ne_true] at last
    exact .inl last

section
variable (holds : Phase.before.Holds opened opened)
include holds

/-- A command runs one hook at most, after everything else. -/
theorem hookRuns_of_command (c : Circumstances) (command : Command) :
    hookRunsAmid command.script c opened = [] ∨
      ∃ hook found, hookRunsAmid command.script c opened = [(hook, found)] ∧
        opened.HookStarts c command hook found := by
  cases endsAmid_of_command command holds c with
  | unwritten result ended ran unwritten none asCalm => exact .inl none
  | unreported failure ended ran cut after none a output input held complete => exact .inl none
  | hooked done hook found stands complete n running ran one =>
    have runs : (hook, found) ∈ hookRunsAmid command.script c opened := by simp [one]
    obtain ⟨passedOn, printed⟩ := output_before_hook (Script.announces_script command) runs
    refine .inr ⟨hook, found, one, complete, stands.follows.config,
      hook.settled_phase.idle stands.allows, stands.follows.kept, passedOn, printed, n, ?_⟩
    rw [ran, carryOutAmid_runHook running, Circumstances.after_succ]
    cases (found.runHookAmid (c.after n) hook).1 <;> rfl

theorem hookStarts_of_runs {hook : Hook} {found : Session}
    (runs : hookRunsAmid command.script c opened = [(hook, found)]) :
    opened.HookStarts c command hook found := by
  rcases hookRuns_of_command holds c command with none | ⟨_, _, one, starts⟩
  · cases none.symm.trans runs
  · cases one.symm.trans runs
    exact starts

/-- A command that has changed a row runs the hook for writes, unless its report is refused or it is
made to quit. -/
theorem hookRuns_of_changed
    (changed : ¬ opened.connection.database.committed.SameRows
      (carryOutAmid command.script c opened).2.connection.database.committed) :
    (∃ found, hookRunsAmid command.script c opened = [(.postWrite, found)]) ∨
      hookRunsAmid command.script c opened = [] ∧ ∃ failure,
        (carryOutAmid command.script c opened).1 = .error failure ∧ failure.CutsShort c := by
  cases endsAmid_of_command command holds c with
  | unwritten result ended ran unwritten none asCalm =>
    rw [ran] at changed
    exact absurd unwritten.sameRows changed
  | unreported failure ended ran cut after none a output input held complete =>
    exact .inr ⟨none, failure, congrArg Prod.fst ran, cut⟩
  | hooked done hook found stands complete n running ran one =>
    cases hook with
    | postWrite => exact .inl ⟨found, one⟩
    | postRead =>
      rw [ran, carryOutAmid_runHook running] at changed
      exact absurd stands.allows.2 changed

/-- A command that fails for something else than a hook has not run any. -/
theorem hookRuns_of_own {failure : Failure}
    (failed : (carryOutAmid command.script c opened).1 = .error failure) (own : failure.IsOwn) :
    hookRunsAmid command.script c opened = [] := by
  rcases hookRuns_of_command holds c command with none | ⟨hook, found, one, starts⟩
  · exact none
  · obtain ⟨n, last⟩ := starts.last
    rw [last] at failed
    cases quitting : (c.after (n + 1)).isOver with
    | true =>
      rw [quitting] at failed
      cases failed
      cases own
    | false =>
      rw [quitting] at failed
      cases ending : (found.runHookAmid (c.after n) hook).1 with
      | ok _ =>
        rw [ending] at failed
        cases failed
      | error e =>
        rw [ending] at failed
        cases failed
        cases own

/-- The hook for writes is run by commands only that may write. -/
theorem mayWrite_of_postWrite {found : Session}
    (runs : hookRunsAmid command.script c opened = [(.postWrite, found)]) :
    command.MayWrite opened.connection.database.current := by
  obtain ⟨text, prints, -⟩ := (hookStarts_of_runs holds runs).printed
  cases command with
  | init key =>
    intro keyed
    rw [show (Command.init key).script = Script.setUp key from rfl,
      hookRuns_setUp_of_keyed keyed key c] at runs
    cases runs
  | find _ _ _ | «show» _ _ | describe _ _ => cases prints
  | _ => trivial

/-- The hook for reads is run after a secret has been shown, by no other command. -/
theorem shows_of_postRead (idle : opened.connection.database.inTransaction = false)
    {found : Session} (runs : hookRunsAmid command.script c opened = [(.postRead, found)]) :
    ∃ id lineEnd, command = .show id lineEnd ∧
      (∃ key, opened.connection.database.current.HasKey key) ∧
      ∃ payload, opened.connection.database.current.HasPayload id payload := by
  have starts := hookStarts_of_runs holds runs
  obtain ⟨text, prints, -⟩ := starts.printed
  cases command with
  | «show» id lineEnd =>
    obtain ⟨_, keyed, required, shown⟩ := Script.succeeds_bind.1 starts.complete
    obtain ⟨⟨key, found⟩, -, same⟩ := Script.Succeeds.of_requireMasterKey
      (s := opened.hookless) idle required
    obtain ⟨payload, _, read, -⟩ := shown.of_show
    have answered := congrArg Prod.fst read.of_store.1
    rw [same] at answered
    exact ⟨id, lineEnd, rfl, ⟨key, Operation.perform_queryMasterKey_iff.1 found⟩, payload,
      Operation.perform_readPayload_iff.1 answered⟩
  | _ => cases prints

/-- A secret that can be read is shown, and then the hook is run, unless circumstances come
between. -/
theorem hookRunsAmid_show (idle : opened.connection.database.inTransaction = false)
    {key payload : String} {id : Int} (keyed : opened.connection.database.current.HasKey key)
    (has : opened.connection.database.current.HasPayload id payload) (lineEnd : Bool)
    (c : Circumstances) :
    let script := (Command.show id lineEnd).script
    (∃ found, hookRunsAmid script c opened = [(.postRead, found)] ∧
        found.output = opened.output ++ Utf8.encode (payload ++ if lineEnd then "\n" else "")) ∨
      hookRunsAmid script c opened = [] ∧ c ≠ .calm ∧
        ∃ failure, (carryOutAmid script c opened).1 = .error failure ∧ failure.IsForeign := by
  intro script
  obtain ⟨shown, calmly, output⟩ := hookRuns_show idle keyed has lineEnd
  cases endsAmid_of_command (.show id lineEnd) holds c with
  | unwritten result ended ran unwritten none asCalm =>
    rcases asCalm with ⟨disturbed, failure, failed, foreign⟩ | ⟨-, -, noRuns⟩
    · exact .inr ⟨none, disturbed, failure, (congrArg Prod.fst ran).trans failed, foreign⟩
    · cases calmly.symm.trans noRuns
  | unreported failure ended ran cut after none a output input held complete =>
    refine .inr ⟨none, ?_, failure, congrArg Prod.fst ran, cut.isForeign⟩
    rintro rfl
    exact failure.not_cutsShort_calm cut
  | hooked done hook found stands complete n running ran one =>
    have starts : opened.HookStarts .calm (.show id lineEnd) .postRead shown :=
      hookStarts_of_runs holds calmly
    -- Both sessions are what the command comes to without hooks.
    have same : found.hookless = shown.hookless :=
      (Prod.mk.inj (complete.symm.trans starts.complete)).2
    obtain ⟨text, prints, -⟩ := (hookStarts_of_runs holds one).printed
    cases hook with
    | postWrite => cases prints
    | postRead =>
      have outputs : found.hookless.output = shown.hookless.output :=
        congrArg Session.output same
      exact .inl ⟨found, one, outputs.trans output⟩

end
end Session

/-- Whatever is in the vault, whatever hooks are configured and whatever comes from outside, a command
runs one hook at most, and does nothing after it. By then everything that it writes is stored, with
no transaction open, and what it prints has been passed on. If it has changed a row then it runs the
hook for writes, unless the output refuses its report or the process is made to quit. If it has
failed for something else it has run none. Commands that only look something up, and one that sets
up a vault again, do not run the hook for writes. The hook for reads is run where a secret is shown,
and only there, after its payload, unless the token is cancelled, the output refuses the payload or
the process is made to quit. A hook that is no command starts nothing and fails nothing. -/
theorem hooks_run_once_in_the_end (s : Setting) (c : Circumstances)
    (invocation : Arguments.Invocation) {session : Session}
    (started : s.start invocation = .ok session) :
    let command := invocation.command
    let ran := Session.carryOutAmid command.script c session
    let hooks := Session.hookRunsAmid command.script c session
    let t := session.place.tables s.tree
    (hooks = [] ∨
      ∃ hook found, hooks = [(hook, found)] ∧ session.HookStarts c command hook found) ∧
    (¬ t.SameRows ran.2.connection.database.committed →
      (∃ found, hooks = [(.postWrite, found)]) ∨
        hooks = [] ∧ ∃ failure, ran.1 = .error failure ∧ failure.CutsShort c) ∧
    (∀ failure, ran.1 = .error failure → failure.IsOwn → hooks = []) ∧
    (∀ found, hooks = [(.postWrite, found)] → command.MayWrite t) ∧
    (∀ found, hooks = [(.postRead, found)] → ∃ id lineEnd, command = .show id lineEnd ∧
      (∃ key, t.HasKey key) ∧ ∃ payload, t.HasPayload id payload) ∧
    (∀ id lineEnd key payload, command = .show id lineEnd → t.HasKey key → t.HasPayload id payload →
      (∃ found, hooks = [(.postRead, found)] ∧
        found.output = Utf8.encode (payload ++ if lineEnd then "\n" else "")) ∨
      hooks = [] ∧ c ≠ .calm ∧ ∃ failure, ran.1 = .error failure ∧ failure.IsForeign) ∧
    ∀ hook found, hooks = [(hook, found)] → session.config.hooks.argv hook = [] →
      ran = (.ok (), found) ∨ c.quits ≠ none ∧ ran = (.error .quit, found) := by
  intro command ran hooks t
  have database : session.connection.database = .ofTables t := Setting.database_start started
  have starts := s.holds_start invocation
  rw [started] at starts
  have holds := starts.2
  have idle := Setting.idle_start started
  have stored : t = session.connection.database.committed := by rw [database]; rfl
  have seen : t = session.connection.database.current := by rw [database]; rfl
  have runs := Session.hookRuns_of_command holds c command
  refine ⟨runs, fun changed => ?_, fun failure failed own => ?_, fun found one => ?_,
    fun found one => ?_, fun id lineEnd key payload shows keyed has => ?_,
    fun hook found one noCommand => ?_⟩
  · rw [stored] at changed
    exact Session.hookRuns_of_changed holds changed
  · exact Session.hookRuns_of_own holds failed own
  · rw [seen]
    exact Session.mayWrite_of_postWrite holds one
  · rw [seen]
    exact Session.shows_of_postRead holds idle one
  · rw [seen] at keyed has
    have ends := Session.hookRunsAmid_show holds idle keyed has lineEnd c
    rw [Setting.output_start started, List.nil_append, ← shows] at ends
    exact ends
  · exact (Session.hookStarts_of_runs holds one).of_noCommand noCommand

/-- A vault with one secret, and a hook of each kind that writes to the output. -/
def Files.Tree.hooked : Tree := ⟨[
  (["config.yaml"], .bytes (Utf8.encode
      "hooks:\n  post_write: [\"echo\", \"stored\"]\n  post_read: [\"echo\", \"!\"]\n")),
    (["vault.db"], .vault {
      masterKey := some (.text "k")
      secrets := IdMap.empty.insert 1 ⟨.text "mail", .text "p"⟩
      labels := IdMap.empty.insert 1 ⟨.text "work", 1⟩
      secretCount := 1
      labelCount := 1 })]⟩

/-- A payload that is shown without a line end comes before what its hook writes, and so does the
report of a label. -/
theorem hooks_run_once_in_the_end_echo :
    let tree := Tree.hooked
    let reading := CommandLine.onFile ["show", "-n", "1"]
    let writing := CommandLine.onFile ["label", "1", "home"]
    let label := Command.label 1 ["home"]
    (∃ session found,
      (reading.on tree).start (CommandLine.fileInvocation (.show 1 false)) = .ok session ∧
      Session.hookRuns (Command.show 1 false).script session = [(.postRead, found)] ∧
      found.output = Utf8.encode "p") ∧
    (reading.finish tree).output = Utf8.encode "p!\n" ∧
    (∃ session found, (writing.on tree).start (CommandLine.fileInvocation label) = .ok session ∧
      Session.hookRuns label.script session = [(.postWrite, found)] ∧
      session.HookStarts .calm label .postWrite found) ∧
    (writing.finish tree).output = Utf8.encode "success: Labeled 1: home\nstored\n" := by
  intro tree reading writing label
  refine ⟨?_, by decide +kernel, ?_, by decide +kernel⟩
  · obtain ⟨session, started, place⟩ :=
      (reading.on tree).starts_onFile (.show 1 false) rfl (by decide +kernel)
    obtain ⟨-, -, -, -, -, shows, -⟩ := hooks_run_once_in_the_end _ .calm _ started
    have keyed : (session.place.tables tree).HasKey "k" := by
      rw [place]
      exact ⟨_, rfl, rfl⟩
    have holds : (session.place.tables tree).HasPayload 1 "p" := by
      rw [place]
      exact ⟨_, rfl, rfl⟩
    rcases shows 1 false "k" "p" rfl keyed holds with ⟨found, one, output⟩ | ⟨-, disturbed, -⟩
    · exact ⟨session, found, started, one, output⟩
    · exact absurd rfl disturbed
  · obtain ⟨session, started, place⟩ :=
      (writing.on tree).starts_onFile label rfl (by decide +kernel)
    obtain ⟨runs, writes, -⟩ := hooks_run_once_in_the_end _ .calm _ started
    have labels : ((writing.on tree).start (CommandLine.fileInvocation label)).toOption.map
        (fun session =>
          (Session.carryOut label.script session).2.connection.database.committed.labels.keys) =
        some [1, 2] := by
      decide +kernel
    rw [started] at labels
    have changed : ¬ (session.place.tables tree).SameRows
        (Session.carryOut label.script session).2.connection.database.committed := by
      intro same
      have ids := (congrArg IdMap.keys same.labels).symm.trans (Option.some.inj labels)
      rw [place] at ids
      revert ids
      decide +kernel
    rcases writes changed with ⟨found, one⟩ | ⟨-, failure, -, cut⟩
    · rcases runs with none | ⟨_, _, same, starts⟩
      · cases none.symm.trans one
      · cases same.symm.trans one
        exact ⟨session, found, started, one, starts⟩
    · exact absurd cut failure.not_cutsShort_calm

/-- The output takes nothing. The label is attached, its report is refused, and the hook that is
configured for writes is not run. -/
theorem changed_row_without_hook :
    let line := CommandLine.onFile ["label", "1", "home"]
    let label := Command.label 1 ["home"]
    let s := line.on Tree.hooked
    let finished := s.runAmid (.refusing .noSpace) line.arguments
    (∃ session, s.start (CommandLine.fileInvocation label) = .ok session ∧
      session.config.hooks.argv .postWrite = ["echo", "stored"] ∧
      ¬ (session.place.tables s.tree).SameRows (Session.carryOutAmid label.script
        (.refusing .noSpace) session).2.connection.database.committed ∧
      Session.hookRunsAmid label.script (.refusing .noSpace) session = []) ∧
    finished.exitCode = 101 ∧ (finished.tree.tablesAt ["vault.db"]).labels.keys = [1, 2] := by
  intro line label s finished
  refine ⟨?_, by decide +kernel, by decide +kernel⟩
  obtain ⟨session, started, place⟩ := s.starts_onFile label rfl (by decide +kernel)
  have seen : (s.start (CommandLine.fileInvocation label)).toOption.map (fun session =>
      (session.config.hooks.argv .postWrite,
        (Session.carryOutAmid label.script (.refusing .noSpace)
          session).2.connection.database.committed.labels.keys,
        (Session.hookRunsAmid label.script (.refusing .noSpace) session).map Prod.fst)) =
      some (["echo", "stored"], [1, 2], []) := by
    decide +kernel
  rw [started] at seen
  obtain ⟨argv, seen⟩ := Prod.mk.inj (Option.some.inj seen)
  obtain ⟨keys, none⟩ := Prod.mk.inj seen
  refine ⟨session, started, argv, fun same => ?_, List.map_eq_nil_iff.1 none⟩
  have ids := (congrArg IdMap.keys same.labels).symm.trans keys
  rw [place] at ids
  revert ids
  decide +kernel

end SecretVault
