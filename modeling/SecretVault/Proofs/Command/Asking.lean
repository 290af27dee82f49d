import SecretVault.Proofs.Command.Writing

/-!
What scripts ask for and what they fail for. A rule for each way to put scripts together, and one for
each part of a command, tells it whatever is replied. So no command asks to store anything empty, and
that a vault has not been set up is reported by the check for a master key and by nothing else.
-/
namespace SecretVault
open SecretVault.Engine SecretVault.Text

/-- An operation that stores neither an empty key nor an empty payload. -/
def Operation.StoresNothingEmpty : Operation → Prop
  | .insertMasterKey key => key ≠ ""
  | .insertSecret _ payload | .upsertSecret _ payload => payload ≠ ""
  | _ => True

/-- A request that stores neither an empty key nor an empty payload. -/
def Request.StoresNothingEmpty : Request → Prop
  | .store op => op.StoresNothingEmpty
  | _ => True

/-- A value that comes from the source while requests are replied to like this. -/
def ValueSource.Gets (replies : (request : Request) → request.Reply → Prop) (value : String) :
    ValueSource → Prop
  | .given argument => argument = value
  | .input => ∃ text, replies .readInput (some text) ∧ dropLineEnd text = value
  | .prompt => ∃ text, replies (.prompt text) (.ok value)

namespace Script
variable {α β : Type} {replies : (request : Request) → request.Reply → Prop}
  {allowed : Request → Prop} {fails : Failure → Prop} {answers : α → Prop}

/-- While it is replied to like this, the script asks for nothing but what is allowed, and it answers
like this or fails for such a reason. -/
def Asks (replies : (request : Request) → request.Reply → Prop) (allowed : Request → Prop)
    (fails : Failure → Prop) (answers : α → Prop) : Script α → Prop
  | .done a => answers a
  | .fail failure => fails failure
  | .ask request next => allowed request ∧
    ∀ reply, replies request reply → (next reply).Asks replies allowed fails answers

theorem Asks.bind {script : Script α} {next : α → Script β} {answersThen : β → Prop}
    (first : script.Asks replies allowed fails answers)
    (later : ∀ a, answers a → (next a).Asks replies allowed fails answersThen) :
    (script >>= next).Asks replies allowed fails answersThen := by
  induction script with
  | done a => exact later a first
  | fail failure => exact first
  | ask request reply ih => exact ⟨first.1, fun r replied => ih r (first.2 r replied)⟩

theorem asks_request {r : Request} (allows : allowed r) :
    (request r).Asks replies allowed fails (replies r) :=
  ⟨allows, fun _ replied => replied⟩

theorem asks_orFail {ε : Type} {reason : ε → Failure} {result : Except ε α}
    (failed : ∀ e, fails (reason e)) (answered : ∀ a, result = .ok a → answers a) :
    (orFail reason result).Asks replies allowed fails answers := by
  cases result with
  | ok a => exact answered a rfl
  | error e => exact failed e

/-- A request whose error is a failure. -/
theorem asks_asking {r : Request} (allows : allowed r) {ε : Type} (reason : ε → Failure)
    (failed : ∀ e, fails (reason e)) (result : r.Reply → Except ε α) :
    (request r >>= fun reply => orFail reason (result reply)).Asks replies allowed fails
      fun _ => True :=
  (asks_request allows).bind fun _ _ => asks_orFail failed fun _ _ => trivial

theorem Asks.abandoning (abandons : allowed .abandon) {script : Script α}
    (asks : script.Asks replies allowed fails answers) :
    (abandoning script).Asks replies allowed fails answers := by
  induction script with
  | done a => exact asks
  | fail failure => exact ⟨abandons, fun _ _ => asks⟩
  | ask request next ih => exact ⟨asks.1, fun r replied => ih r (asks.2 r replied)⟩

/-- A check for a master key. -/
theorem asks_requireMasterKey (looks : allowed (.store .queryMasterKey))
    (failed : ∀ failure : Failure, failure.exitCode = 1 → fails failure) :
    requireMasterKey.Asks replies allowed fails fun _ => True := by
  refine ⟨looks, fun reply _ => ?_⟩
  cases reply with
  | ok found => trivial
  | error e => cases e <;> exact failed _ rfl

section
variable (own : ∀ failure : Failure, failure.exitCode = 1 → failure ≠ .notInitialized →
  fails failure)
include own

theorem asks_store {op : Operation} (allows : allowed (.store op)) :
    (store op).Asks replies allowed fails fun _ => True :=
  asks_asking (r := .store op) allows .store (fun _ => own _ rfl nofun) fun answer => answer

theorem asks_storeAt (id : Int) {op : Operation} (allows : allowed (.store op)) :
    (storeAt id op).Asks replies allowed fails fun _ => True :=
  asks_asking (r := .store op) allows _ (fun e => by cases e <;> exact own _ rfl nofun)
    fun answer => answer

theorem asks_insertLabels {id : Int} (allows : ∀ label, allowed (.store (.insertLabel label id)))
    (labels : List String) :
    (insertLabels id labels).Asks replies allowed fails fun _ => True := by
  induction labels with
  | nil => trivial
  | cons label rest ih => exact (asks_store own (allows label)).bind fun _ _ => ih

theorem Asks.inTransaction {body : Script α} (asks : body.Asks replies allowed fails answers)
    (begins : allowed .begin) (commits : allowed .commit) (abandons : allowed .abandon)
    (notCommitted : StoreError → Failure) (failed : ∀ e, fails (notCommitted e)) :
    (inTransaction notCommitted body).Asks replies allowed fails answers := by
  refine (asks_asking begins .store (fun _ => own _ rfl nofun) fun begun => begun).bind fun _ _ => ?_
  refine (asks.bind fun a answered => ?_).abandoning abandons
  exact (asks_asking commits _ failed fun committed => committed).bind fun _ _ => answered

/-- A value that is read comes from its source, and is not empty. -/
theorem asks_readValue (reads : allowed .readInput) (prompts : ∀ text, allowed (.prompt text))
    (source : ValueSource) : (readValue source).Asks replies allowed fails
      fun value => source.Gets replies value ∧ value ≠ "" := by
  have taken (value : String) (gets : source.Gets replies value) : (takeValue value).Asks replies
      allowed fails fun value => source.Gets replies value ∧ value ≠ "" := by
    unfold takeValue
    split
    · exact own _ rfl nofun
    · rename_i filled
      exact ⟨gets, by simpa using filled⟩
  cases source with
  | given argument => exact taken argument rfl
  | input =>
    rw [readValue_input]
    refine ⟨reads, fun reply replied => ?_⟩
    cases reply with
    | none => exact own _ rfl nofun
    | some text => exact taken _ ⟨text, replied, rfl⟩
  | prompt =>
    refine ⟨prompts _, fun reply replied => ?_⟩
    cases reply with
    | error e => exact own _ rfl nofun
    | ok value => exact taken value ⟨_, replied⟩

theorem asks_readKey (prompts : ∀ text, allowed (.prompt text)) (key : Option String) :
    (readKey key).Asks replies allowed fails
      ((key.elim ValueSource.prompt .given).Gets replies) := by
  cases key with
  | some given => rfl
  | none =>
    exact (asks_request (prompts _)).bind fun reply replied =>
      asks_orFail (fun _ => own _ rfl nofun) fun typed answered => ⟨_, answered ▸ replied⟩

theorem asks_findSecrets (searches : ∀ op : Operation, op.writes = false → allowed (.store op))
    (name : Option String) (labels : List String) :
    (findSecrets name labels).Asks replies allowed fails fun _ => True := by
  have searching : (search name labels).Asks replies allowed fails fun _ => True := by
    unfold search
    split <;> exact asks_store own (searches _ rfl)
  refine searching.bind fun found _ => ?_
  split
  · trivial
  · exact asks_store own (searches _ rfl)

end

section
variable (any : ∀ failure, failure ≠ .notInitialized → fails failure)
include any

theorem asks_print (text : String) :
    (print text).Asks replies Request.StoresNothingEmpty fails fun _ => True :=
  asks_asking (r := .print text) trivial .notPrinted (fun _ => any _ nofun) fun reply => reply

theorem asks_printSecrets (secrets : LabeledSecrets) (json : Bool) :
    (printSecrets secrets json).Asks replies Request.StoresNothingEmpty fails
      fun _ => True := by
  unfold printSecrets
  split
  · exact asks_print any _
  · split <;> exact asks_print any _

theorem asks_runHook (hook : Hook) :
    (runHook hook).Asks replies Request.StoresNothingEmpty fails fun _ => True :=
  asks_asking (r := .runHook hook) trivial (.hook hook) (fun _ => any _ nofun)
    fun result => result

/-- A report and a hook after something else. -/
theorem Asks.reported {script : Script α}
    (first : script.Asks replies Request.StoresNothingEmpty fails answers) (text : α → String)
    (hook : Hook) : Asks replies Request.StoresNothingEmpty fails (fun _ => True) (do
      let a ← script
      print (text a)
      runHook hook) :=
  first.bind fun _ _ => (asks_print any _).bind fun _ _ => asks_runHook any hook

theorem asks_setUp (key : Option String) :
    (setUp key).Asks replies Request.StoresNothingEmpty fails fun _ => True := by
  have own (failure : Failure) (_ : failure.exitCode = 1) := any failure
  refine ⟨trivial, fun reply _ => ?_⟩
  cases reply with
  | ok found => exact asks_print any _
  | error e =>
    cases e with
    | notFound entity =>
      refine (asks_readKey own (fun _ => trivial) key).bind fun given _ => ?_
      by_cases empty : given.isEmpty
      · rw [if_pos empty]
        exact any _ nofun
      · rw [if_neg empty]
        have filled : given ≠ "" := by simpa using empty
        exact (asks_store own filled).reported any _ _
    | _ => exact any _ nofun

/-- Past the check for a master key a command stores nothing empty, and it does not report that the
vault has not been set up. -/
theorem asks_action (command : Command) :
    command.action.Asks replies Request.StoresNothingEmpty fails fun _ => True := by
  have own (failure : Failure) (_ : failure.exitCode = 1) := any failure
  have labelled (id : Int) (labels : List String) : (insertLabels id labels).Asks replies
      Request.StoresNothingEmpty fails fun _ => True :=
    asks_insertLabels own (fun _ => trivial) labels
  cases command with
  | init key => exact asks_setUp any key
  | save name labels source =>
    refine (asks_readValue own trivial (fun _ => trivial) source).bind fun payload read => ?_
    have stores : (insertLabelled name payload labels).Asks replies Request.StoresNothingEmpty
        fails fun _ => True :=
      (asks_store own read.2).bind fun id _ => (labelled id labels).bind fun _ _ => trivial
    exact (stores.inTransaction own trivial trivial trivial .notSaved fun _ => any _ nofun).reported
      any _ _
  | find name labels json =>
    rw [show (Command.find name labels json).action = _ from find_eq name labels json]
    refine (asks_findSecrets own (fun op reads => ?_) name labels).bind fun found _ =>
      asks_printSecrets any found json
    cases op <;> trivial
  | «show» id lineEnd =>
    rw [show (Command.show id lineEnd).action = _ from show_eq id lineEnd]
    have passing (r : Request) (allows : r.StoresNothingEmpty)
        (result : r.Reply → Except Files.Error Unit) :
        (request r >>= fun reply => orFail .notPassedOn (result reply)).Asks replies
          Request.StoresNothingEmpty fails fun _ => True :=
      asks_asking allows .notPassedOn (fun _ => any _ nofun) result
    exact (asks_storeAt own id trivial).bind fun payload _ =>
      (passing (.print _) trivial fun reply => reply).bind fun _ _ =>
        (passing .flush trivial fun reply => reply).bind fun _ _ => asks_runHook any .postRead
  | describe ids json =>
    exact (asks_store own trivial).bind fun secrets _ => asks_printSecrets any secrets json
  | set id source =>
    refine (asks_readValue own trivial (fun _ => trivial) source).bind fun payload read => ?_
    exact (asks_store own read.2).reported any _ _
  | label id labels =>
    have stores := labelled id labels
    exact (stores.inTransaction own trivial trivial trivial .store fun _ => any _ nofun).reported
      any _ _
  | unlabel id patterns => exact (asks_store own trivial).reported any _ _
  | rename id name => exact (asks_storeAt own id trivial).reported any _ _
  | remove ids => exact (asks_store own trivial).reported any _ _

end

end Script
end SecretVault
