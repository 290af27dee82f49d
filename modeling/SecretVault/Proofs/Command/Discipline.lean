import SecretVault.Command.Actions
import SecretVault.Proofs.Transaction.Rollback

/-!
The discipline of commands. A command writes once at most, by a single operation or in a single
transaction. All that can fail comes before, except for its report and the hook, which come last of
all. A command that finds its token cancelled, or its output refused, does nothing more.
-/
namespace SecretVault

/-- Where a command stands with what it writes. -/
inductive Phase where
  /-- Nothing has been written. -/
  | before
  /-- A transaction is open. -/
  | inside
  /-- A step of the transaction has failed, which may have ended it. -/
  | broken
  /-- All has been written. -/
  | after
  /-- There is nothing left to do. -/
  | over
  deriving DecidableEq

/-- No transaction is open. -/
def Phase.IsSettled (p : Phase) : Prop := p = .before ∨ p = .after

theorem settled_before : Phase.IsSettled .before := .inl rfl

theorem settled_after : Phase.IsSettled .after := .inr rfl

/-- The phase that a hook is run in. -/
def Hook.phase : Hook → Phase
  | .postWrite => .after
  | .postRead => .before

theorem Hook.settled_phase (hook : Hook) : hook.phase.IsSettled := by
  cases hook with
  | postWrite => exact settled_after
  | postRead => exact settled_before

/-- A failure of the command's own: neither of a hook nor made from outside. -/
def Failure.IsOwn : Failure → Prop
  | .hook .. | .quit => False
  | _ => True

/-- Requests that are not about the vault and start no program. -/
def Request.IsTalk : Request → Prop
  | .print _ | .flush | .readInput | .prompt _ => True
  | .store _ | .begin | .commit | .abandon | .runHook _ => False

/-- Replies that only circumstances bring about: the token is cancelled, or the output refuses a
text. -/
def Request.Spoils : (request : Request) → request.Reply → Prop
  | .store _, reply => reply = .error .cancelled
  | .print _, reply | .flush, reply => ∃ e, reply = .error e
  | _, _ => False

/-- A failure for a reply that circumstances have brought about. -/
def Failure.IsSpoiled : Failure → Prop
  | .notPrinted _ | .notPassedOn _ | .store .cancelled | .noMasterKey .cancelled => True
  | _ => False

theorem Failure.IsSpoiled.isOwn {failure : Failure} (spoiled : failure.IsSpoiled) :
    failure.IsOwn := by
  cases failure with
  | hook | quit => cases spoiled
  | _ => trivial

namespace Script

/-- The script tells that a reply is spoiled, and does nothing more. -/
def Stops {α : Type} (script : Script α) : Prop :=
  ∃ failure, failure.IsSpoiled ∧ script = .fail failure

/-- The script gives up the open transaction and tells that a reply is spoiled. -/
def GivesUp {α : Type} (script : Script α) : Prop :=
  ∃ failure, failure.IsSpoiled ∧ script = .ask .abandon fun _ => .fail failure

/-- The script leads from one phase to another, whatever is replied. Until it is over it fails only
before it has written, and its report and a failing hook are all that it can fail for in the end.
What has been written is followed by its hook. When a reply is spoiled the script is at its end. -/
inductive Orderly {α : Type} : Phase → Phase → Script α → Prop where
  | done {p : Phase} (a : α) : Orderly p p (.done a)
  | stop (a : α) : Orderly .before .over (.done a)
  | fail {q : Phase} {failure : Failure} (own : failure.IsOwn) :
      Orderly .before q (.fail failure)
  | talk {q : Phase} {request : Request} {next : request.Reply → Script α}
      (talks : request.IsTalk) (later : ∀ r, Orderly .before q (next r))
      (spoiled : ∀ r, request.Spoils r → (next r).Stops) : Orderly .before q (.ask request next)
  | look {q : Phase} {op : Operation} {next : Except StoreError op.Answer → Script α}
      (reads : op.writes = false) (later : ∀ r, Orderly .before q (next r))
      (spoiled : (next (.error .cancelled)).Stops) : Orderly .before q (.ask (.store op) next)
  | write {q : Phase} {op : Operation} {next : Except StoreError op.Answer → Script α}
      (written : ∀ a, Orderly .after q (next (.ok a)))
      (refused : ∀ e, Orderly .before q (next (.error e)))
      (spoiled : (next (.error .cancelled)).Stops) : Orderly .before q (.ask (.store op) next)
  | begin {q : Phase} {next : Except StoreError Unit → Script α}
      (begun : Orderly .inside q (next (.ok ())))
      (refused : ∀ e, Orderly .before q (next (.error e))) : Orderly .before q (.ask .begin next)
  | step {q : Phase} {op : Operation} {next : Except StoreError op.Answer → Script α}
      (taken : ∀ a, Orderly .inside q (next (.ok a)))
      (refused : ∀ e, Orderly .broken q (next (.error e)))
      (spoiled : (next (.error .cancelled)).GivesUp) : Orderly .inside q (.ask (.store op) next)
  | commit {q : Phase} {next : Except StoreError Unit → Script α}
      (committed : Orderly .after q (next (.ok ())))
      (refused : ∀ e, Orderly .broken q (next (.error e))) : Orderly .inside q (.ask .commit next)
  | abandon {q : Phase} {next : Unit → Script α} (abandoned : Orderly .before q (next ())) :
      Orderly .broken q (.ask .abandon next)
  | report {q : Phase} {text : String} {next : Except Files.Error Unit → Script α}
      (printed : Orderly .after q (next (.ok ())))
      (refused : ∀ e, next (.error e) = .fail (.notPrinted e)) :
      Orderly .after q (.ask (.print text) next)
  | hook {p : Phase} {hook : Hook} {next : Except Program.Error Unit → Script α} {a : α}
      (due : hook.phase = p) (succeeds : next (.ok ()) = .done a)
      (fails : ∀ e, next (.error e) = .fail (.hook hook e)) :
      Orderly p .over (.ask (.runHook hook) next)

theorem Stops.bind {α β : Type} {script : Script α} (stops : script.Stops)
    (next : α → Script β) : (script >>= next).Stops := by
  obtain ⟨failure, spoiled, rfl⟩ := stops
  exact ⟨failure, spoiled, rfl⟩

theorem GivesUp.bind {α β : Type} {script : Script α} (givesUp : script.GivesUp)
    (next : α → Script β) : (script >>= next).GivesUp := by
  obtain ⟨failure, spoiled, rfl⟩ := givesUp
  exact ⟨failure, spoiled, rfl⟩

namespace Orderly
variable {α β : Type} {p m q : Phase}

theorem bind {script : Script α} {next : α → Script β} (first : script.Orderly p m)
    (goesOn : m ≠ .over) (later : ∀ a, (next a).Orderly m q) :
    (script >>= next).Orderly p q := by
  induction first with
  | done a => exact later a
  | stop | hook => exact absurd rfl goesOn
  | fail own => exact .fail own
  | talk talks _ spoiled ih =>
    exact .talk talks (fun r => ih r goesOn later) fun r spoils => (spoiled r spoils).bind next
  | look reads _ spoiled ih => exact .look reads (fun r => ih r goesOn later) (spoiled.bind next)
  | write _ _ spoiled written refused =>
    exact .write (fun a => written a goesOn later) (fun e => refused e goesOn later)
      (spoiled.bind next)
  | begin _ _ begun refused => exact .begin (begun goesOn later) fun e => refused e goesOn later
  | step _ _ spoiled taken refused =>
    exact .step (fun a => taken a goesOn later) (fun e => refused e goesOn later)
      (spoiled.bind next)
  | commit _ _ committed refused =>
    exact .commit (committed goesOn later) fun e => refused e goesOn later
  | abandon _ ih => exact .abandon (ih goesOn later)
  | report _ refused ih =>
    refine .report (ih goesOn later) fun e => ?_
    rw [show _ = Script.bind _ next from rfl, refused e]
    rfl

end Orderly

theorem orderly_orFail {ε α : Type} (reason : ε → Failure) (own : ∀ e, (reason e).IsOwn)
    (result : Except ε α) : (orFail reason result).Orderly .before .before := by
  cases result with
  | ok a => exact .done a
  | error e => exact .fail (own e)

/-- Something that the output may refuse, as long as nothing has been written. -/
theorem orderly_telling (reason : Files.Error → Failure) (told : ∀ e, (reason e).IsSpoiled)
    {r : Request} (talks : r.IsTalk) (result : r.Reply → Except Files.Error Unit)
    (spoiled : ∀ reply, r.Spoils reply → ∃ e, result reply = .error e) :
    (request r >>= fun reply => orFail reason (result reply)).Orderly .before .before := by
  refine .talk talks (fun reply => orderly_orFail reason (fun e => (told e).isOwn) _)
    fun reply spoils => ?_
  obtain ⟨e, refused⟩ := spoiled reply spoils
  exact ⟨reason e, told e, congrArg (orFail reason) refused⟩

theorem orderly_print (text : String) : (print text).Orderly .before .before :=
  orderly_telling .notPrinted (fun _ => trivial) (r := .print text) trivial
    (fun reply => reply) fun _ spoils => spoils

theorem orderly_runHook (hook : Hook) : (runHook hook).Orderly hook.phase .over :=
  .hook rfl rfl fun _ => rfl

/-- What has been written is reported, and the hook runs. -/
theorem Orderly.reported {α : Type} {p : Phase} {script : Script α}
    (writes : script.Orderly p .after) (text : α → String) :
    Orderly p .over (do
      let a ← script
      printLine (text a)
      runHook .postWrite) :=
  writes.bind nofun fun _ => .report (orderly_runHook .postWrite) fun _ => rfl

section Single
variable (op : Operation) (reason : StoreError → Failure) (own : ∀ e, (reason e).IsOwn)
  (told : (reason .cancelled).IsSpoiled)
include own told

/-- A single operation that reads. -/
theorem orderly_reading (reads : op.writes = false) :
    (request (.store op) >>= orFail reason).Orderly .before .before :=
  .look reads (fun r => orderly_orFail reason own r) ⟨_, told, rfl⟩

/-- A single operation that may write, and fails if it does not. -/
theorem orderly_writing : (request (.store op) >>= orFail reason).Orderly .before .after :=
  .write (fun a => .done a) (fun e => .fail (own e)) ⟨_, told, rfl⟩

end Single

/-- Asks for operations one after the other, and fails as soon as one of them does. -/
inductive Stepwise {α : Type} : Script α → Prop where
  | done (a : α) : Stepwise (.done a)
  | step {op : Operation} {next : Except StoreError op.Answer → Script α}
      (taken : ∀ a, Stepwise (next (.ok a))) (fails : ∀ e, next (.error e) = .fail (.store e)) :
      Stepwise (.ask (.store op) next)

theorem Stepwise.bind {α β : Type} {script : Script α} {next : α → Script β}
    (steps : script.Stepwise) (later : ∀ a, (next a).Stepwise) : (script >>= next).Stepwise := by
  induction steps with
  | done a => exact later a
  | step _ fails ih => exact .step ih fun e => by rw [fails e]; rfl

theorem stepwise_store (op : Operation) : (store op).Stepwise :=
  .step (fun a => .done a) fun _ => rfl

theorem stepwise_insertLabels (id : Int) (labels : List String) :
    (insertLabels id labels).Stepwise := by
  induction labels with
  | nil => exact .done ()
  | cons label rest ih => exact (stepwise_store _).bind fun _ => ih

/-- In a transaction the steps are all written in the end, or given up. -/
theorem orderly_inTransaction {α : Type} (notCommitted : StoreError → Failure)
    (own : ∀ e, (notCommitted e).IsOwn) {body : Script α} (steps : body.Stepwise) :
    (inTransaction notCommitted body).Orderly .before .after := by
  refine .begin ?_ fun e => .fail trivial
  induction steps with
  | done a => exact .commit (.done a) fun e => .abandon (.fail (own e))
  | @step op next _ fails ih =>
    refine .step ih (fun e => ?_) ?_
    · dsimp only
      rw [fails e]
      exact .abandon (.fail trivial)
    · dsimp only
      rw [fails .cancelled]
      exact ⟨.store .cancelled, trivial, rfl⟩

theorem orderly_requireMasterKey : requireMasterKey.Orderly .before .before := by
  refine .look rfl (fun r => ?_) ⟨.noMasterKey .cancelled, trivial, rfl⟩
  cases r with
  | ok _ => exact .done ()
  | error e => cases e <;> exact .fail trivial

theorem orderly_readValue (source : ValueSource) : (readValue source).Orderly .before .before := by
  have checked (value : String) : Orderly .before .before
      (if value.isEmpty then .fail .emptyValue else return value : Script String) := by
    split
    · exact .fail trivial
    · exact .done value
  cases source with
  | given value => exact checked value
  | input =>
    refine .talk trivial (fun r => ?_) nofun
    cases r with
    | some text => exact checked _
    | none => exact .fail trivial
  | prompt =>
    refine .talk trivial (fun r => ?_) nofun
    cases r with
    | ok value => exact checked value
    | error e => exact .fail trivial

theorem orderly_readKey (key : Option String) : (readKey key).Orderly .before .before := by
  cases key with
  | some key => exact .done key
  | none =>
    exact .talk trivial (fun r => orderly_orFail .keyNotRead (fun _ => trivial) r) nofun

/-- Reads with an operation on a secret that has to be there. -/
theorem orderly_storeAt_reading (id : Int) {op : Operation} (reads : op.writes = false) :
    (storeAt id op).Orderly .before .before :=
  orderly_reading op _ (fun e => by cases e <;> trivial) trivial reads

theorem orderly_storeAt_writing (id : Int) (op : Operation) :
    (storeAt id op).Orderly .before .after :=
  orderly_writing op _ (fun e => by cases e <;> trivial) trivial

theorem orderly_printSecrets (secrets : LabeledSecrets) (json : Bool) :
    (printSecrets secrets json).Orderly .before .before := by
  unfold printSecrets
  split
  · exact orderly_print _
  · split
    · exact orderly_print _
    · exact orderly_print _

theorem orderly_search (name : Option String) (labels : List String) :
    (search name labels).Orderly .before .before := by
  unfold search
  split <;> exact orderly_reading _ .store (fun _ => trivial) trivial rfl

theorem orderly_find (name : Option String) (labels : List String) (json : Bool) :
    (find name labels json).Orderly .before .before := by
  refine (orderly_search name labels).bind nofun fun found => ?_
  split
  · exact orderly_printSecrets found json
  · exact (orderly_reading _ .store (fun _ => trivial) trivial rfl).bind nofun fun secrets =>
      orderly_printSecrets secrets json

theorem orderly_setUp (key : Option String) : (setUp key).Orderly .before .over := by
  refine .look rfl (fun r => ?_) ⟨.store .cancelled, trivial, rfl⟩
  cases r with
  | ok _ =>
    refine .talk trivial (fun reply => ?_) fun reply spoils => ?_
    · cases reply with
      | ok _ => exact .stop ()
      | error e => exact .fail trivial
    · obtain ⟨e, rfl⟩ := spoils
      exact ⟨.notPrinted e, trivial, rfl⟩
  | error e =>
    cases e with
    | notFound _ =>
      refine (orderly_readKey key).bind nofun fun key => ?_
      split
      · exact .fail trivial
      · exact (orderly_writing _ .store (fun _ => trivial) trivial).reported _
    | _ => exact .fail trivial

theorem orderly_save (name : String) (labels : List String) (source : ValueSource) :
    (save name labels source).Orderly .before .over := by
  refine (orderly_readValue source).bind nofun fun payload => Orderly.reported ?_ _
  refine orderly_inTransaction .notSaved (fun _ => trivial) ?_
  exact (stepwise_store _).bind fun id => (stepwise_insertLabels id labels).bind fun _ => .done id

theorem orderly_label (id : Int) (labels : List String) :
    (label id labels).Orderly .before .over :=
  (orderly_inTransaction .store (fun _ => trivial) (stepwise_insertLabels id labels)).reported _

theorem orderly_show (id : Int) (lineEnd : Bool) : («show» id lineEnd).Orderly .before .over := by
  refine (orderly_storeAt_reading id rfl).bind nofun fun payload => ?_
  have told (r : Request) (talks : r.IsTalk) (result : r.Reply → Except Files.Error Unit)
      (spoiled : ∀ reply, r.Spoils reply → ∃ e, result reply = .error e) :
      (request r >>= fun reply => orFail .notPassedOn (result reply)).Orderly .before .before :=
    orderly_telling .notPassedOn (fun _ => trivial) talks result spoiled
  exact (told (.print _) trivial (fun reply => reply) fun _ spoils => spoils).bind nofun fun _ =>
    (told .flush trivial (fun reply => reply) fun _ spoils => spoils).bind nofun fun _ =>
      orderly_runHook .postRead

theorem orderly_set (id : Int) (source : ValueSource) : (set id source).Orderly .before .over :=
  (orderly_readValue source).bind nofun fun payload =>
    (orderly_writing (.upsertSecret id payload) .store (fun _ => trivial) trivial).reported _

theorem orderly_describe (ids : List Int) (json : Bool) :
    (describe ids json).Orderly .before .before :=
  (orderly_reading (.searchIds ids) .store (fun _ => trivial) trivial rfl).bind nofun fun secrets =>
    orderly_printSecrets secrets json

theorem orderly_unlabel (id : Int) (patterns : List String) :
    (unlabel id patterns).Orderly .before .over :=
  (orderly_writing (.deleteLabels id patterns) .store (fun _ => trivial) trivial).reported _

theorem orderly_rename (id : Int) (name : String) : (rename id name).Orderly .before .over :=
  (orderly_storeAt_writing id (.renameSecret id name)).reported _

theorem orderly_remove (ids : List Int) : (remove ids).Orderly .before .over :=
  (orderly_writing (.deleteSecrets ids) .store (fun _ => trivial) trivial).reported _

end Script

/-- The phase that a command ends in. -/
def Command.lastPhase : Command → Phase
  | .find .. | .describe .. => .before
  | _ => .over

theorem Command.orderly_to_lastPhase (command : Command) :
    command.script.Orderly .before command.lastPhase := by
  have initialized {p : Phase} {action : Script Unit} (orderly : action.Orderly .before p) :
      Script.Orderly .before p (do Script.requireMasterKey; action) :=
    Script.orderly_requireMasterKey.bind nofun fun _ => orderly
  cases command with
  | init key => exact Script.orderly_setUp key
  | save name labels source => exact initialized (Script.orderly_save name labels source)
  | find name labels json => exact initialized (Script.orderly_find name labels json)
  | «show» id lineEnd => exact initialized (Script.orderly_show id lineEnd)
  | describe ids json => exact initialized (Script.orderly_describe ids json)
  | set id source => exact initialized (Script.orderly_set id source)
  | label id labels => exact initialized (Script.orderly_label id labels)
  | unlabel id patterns => exact initialized (Script.orderly_unlabel id patterns)
  | rename id name => exact initialized (Script.orderly_rename id name)
  | remove ids => exact initialized (Script.orderly_remove ids)

/-- Every command keeps the discipline to its end, or writes nothing. -/
theorem Command.orderly (command : Command) :
    ∃ p, (p = .before ∨ p = .over) ∧ command.script.Orderly .before p := by
  refine ⟨command.lastPhase, ?_, command.orderly_to_lastPhase⟩
  cases command with
  | find _ _ _ | describe _ _ => exact .inl rfl
  | _ => exact .inr rfl

end SecretVault
