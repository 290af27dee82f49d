import SecretVault.Proofs.Command.Coming
import SecretVault.Proofs.Command.Gate
import SecretVault.Proofs.Vault.Attaching

/-!
Nothing empty is stored. A key and a value are looked at before anything is written, wherever they
come from, so an empty one is not in a vault that command lines alone have worked on. Where a command
is given nothing else it fails, and no vault is changed.
-/
namespace SecretVault
open SecretVault.Engine SecretVault.Files SecretVault.Text

/-- A text with something in it. -/
def Engine.Cell.IsFilled (cell : Cell) : Prop := ∃ text, cell = .text text ∧ text ≠ ""

/-- Neither the master key nor the payload of a secret is empty. -/
structure Engine.Tables.NothingEmpty (t : Tables) : Prop where
  masterKey : ∀ key, t.masterKey = some key → key.IsFilled
  payloads : ∀ id secret, t.secrets.get? id = some secret → secret.payload.IsFilled

namespace Engine.Tables
variable {t : Tables}

theorem IsUnused.nothingEmpty (unused : t.IsUnused) : t.NothingEmpty := by
  refine ⟨fun key stored => ?_, fun id secret stored => ?_⟩
  · cases unused.masterKey.symm.trans stored
  · rw [unused.secrets] at stored
    cases stored

/-- Secrets and the key stay filled where a secret is put under an id. -/
theorem NothingEmpty.put (holds : t.NothingEmpty) {t' : Tables} {id : Int} {secret : StoredSecret}
    (key : t'.masterKey = t.masterKey) (secrets : t'.secrets = t.secrets.insert id secret)
    (filled : secret.payload.IsFilled) : t'.NothingEmpty := by
  refine ⟨fun cell stored => holds.masterKey cell (key ▸ stored), fun other found stored => ?_⟩
  rw [secrets, IdMap.get?_insert] at stored
  split at stored
  · cases stored
    exact filled
  · exact holds.payloads other found stored

/-- Nothing comes to be empty where no secret is new. -/
theorem NothingEmpty.mono (holds : t.NothingEmpty) {t' : Tables} (key : t'.masterKey = t.masterKey)
    (secrets : ∀ id secret, t'.secrets.get? id = some secret → t.secrets.get? id = some secret) :
    t'.NothingEmpty :=
  ⟨fun cell stored => holds.masterKey cell (key ▸ stored),
    fun id secret stored => holds.payloads id secret (secrets id secret stored)⟩

end Engine.Tables

namespace Operation

theorem StoresNothingEmpty.keeps {op : Operation} (stores : op.StoresNothingEmpty) :
    op.plan.Keeps Tables.NothingEmpty := by
  cases op with
  | insertMasterKey key =>
    refine Plan.keeps_send_answer fun t a t' holds changed => ?_
    cases changed
    refine ⟨fun cell stored => ?_, holds.payloads⟩
    cases there : t.masterKey with
    | none =>
      rw [Tables.putMasterKey, there] at stored
      cases stored
      exact ⟨key, rfl, stores⟩
    | some first =>
      rw [Tables.putMasterKey, there] at stored
      cases stored
      exact holds.masterKey first there
  | insertSecret name payload =>
    refine Plan.keeps_send_answer fun t id t' holds created => ?_
    have inserted : t.insertSecret ⟨.text name, .text payload⟩ = .ok (id, t') := created
    rw [Tables.insertSecret, Tables.nextId_of_insertSecret inserted] at inserted
    cases inserted
    exact holds.put rfl rfl ⟨payload, rfl, stores⟩
  | upsertSecret id payload =>
    refine Plan.keeps_send_answer fun t n t' holds changed => ?_
    have change : t.upsertPayload id (.text payload) = (n, t') := Except.ok.inj changed
    unfold Tables.upsertPayload at change
    split at change <;> cases change <;> exact holds.put rfl rfl ⟨payload, rfl, stores⟩
  | renameSecret id name =>
    refine Plan.keeps_send_answer fun t n t' holds changed => ?_
    have change : t.renameSecret id (.text name) = (n, t') := Except.ok.inj changed
    unfold Tables.renameSecret at change
    split at change
    · rename_i secret found
      cases change
      exact holds.put rfl rfl (holds.payloads id secret found)
    · cases change
      exact holds
  | deleteSecrets ids =>
    refine Plan.keeps_send_answer fun t n t' holds changed => ?_
    cases Statement.eq_of_deleteSecrets changed
    refine holds.mono rfl fun id secret stored => ?_
    exact (Option.filter_eq_some_iff.1 ((IdMap.get?_filter _ _ _).symm.trans stored)).1
  | insertLabel name id =>
    refine ⟨fun t answer t' holds attached => ?_, fun answer => ?_⟩
    · obtain ⟨next, -, ⟨-, -, rfl⟩ | ⟨-, -, -, rfl⟩⟩ := Tables.attachLabel_cases attached
      · exact holds.mono rfl fun _ _ stored => stored
      · exact holds.mono rfl fun _ _ stored => stored
    · cases answer with
      | some labelId => trivial
      | none => exact Plan.keeps_send_answer (Statement.keeps_reading _ _ _ _)
  | deleteLabels id patterns =>
    refine Plan.keeps_send_answer fun t n t' holds changed => ?_
    obtain ⟨selected, change⟩ := Statement.eq_of_deleteLabels changed
    cases change
    exact holds.mono rfl fun _ _ stored => stored
  | queryMasterKey | readPayload _ | searchColumn _ _ | searchIds _ | searchLabelsAndName _ _ =>
    exact Plan.keeps_send_answer (Statement.keeps_reading _ _ _ _)

end Operation

/-- Where a command takes the key or the value from that it is to store. -/
def Command.source? : Command → Option ValueSource
  | .init key => some (key.elim .prompt .given)
  | .save _ _ source | .set _ source => some source
  | _ => none

namespace Script

/-- Whatever is replied, the script stores neither an empty key nor an empty payload. -/
def StoresNothingEmpty {α : Type} (script : Script α) : Prop :=
  script.Asks (fun _ _ => True) Request.StoresNothingEmpty (fun _ => True) fun _ => True

theorem storesNothingEmpty_script (command : Command) : command.script.StoresNothingEmpty := by
  have own : ∀ failure : Failure, failure ≠ .notInitialized → True := fun _ _ => trivial
  rcases command.script_cases with ⟨key, rfl⟩ | requires
  · exact asks_setUp own key
  · rw [requires]
    exact Asks.bind (asks_requireMasterKey trivial fun _ _ => trivial) fun _ _ =>
      asks_action own command

end Script

/-- Looking for the master key, and asking for a key or a value. -/
def Request.OnlyLooks : Request → Prop
  | .store .queryMasterKey | .readInput | .prompt _ => True
  | _ => False

/-- Replies with nothing but an empty value from a source, and without a master key if there has to
be none. -/
def Request.RepliedEmpty (source : ValueSource) (keyless : Prop) :
    (request : Request) → request.Reply → Prop
  | .store .queryMasterKey, reply => keyless → ∀ key, reply ≠ .ok key
  | .readInput, reply => source = .input → ∀ text, reply = some text → dropLineEnd text = ""
  | .prompt _, reply => source = .prompt → ∀ value, reply = .ok value → value = ""
  | _, _ => True

/-- A value that is offered with this input and with what is typed at a prompt. -/
def ValueSource.Offers (source : ValueSource) (input : Utf8.Bytes)
    (typed : Except Files.Error String) (value : String) : Prop :=
  source.Yields input value ∨ source = .prompt ∧ typed = .ok value

/-- A command that has a key or a value to store, and is offered an empty one or none. A key is
stored only where there is none. -/
structure Command.OffersNothing (command : Command) (s : Session)
    (typed : Except Files.Error String) (source : ValueSource) : Prop where
  takes : command.source? = some source
  empty : ∀ value, source.Offers s.input typed value → value = ""
  keyless : (∃ key, command = .init key) → s.connection.database.current.masterKey = none

namespace Command
variable {command : Command} {source : ValueSource}

/-- With nothing to store a command only looks, and fails with the usual exit code. -/
theorem asks_of_empty (takes : command.source? = some source)
    (given : ∀ value, source = .given value → value = "") :
    command.script.Asks (Request.RepliedEmpty source (∃ key, command = .init key))
      Request.OnlyLooks (fun failure => failure.exitCode = 1) fun _ => False := by
  have own (failure : Failure) (usual : failure.exitCode = 1) (_ : failure ≠ .notInitialized) :
      failure.exitCode = 1 := usual
  have empty {keyless : Prop} {value : String}
      (gets : source.Gets (Request.RepliedEmpty source keyless) value) : value = "" := by
    cases source with
    | given argument => exact gets ▸ given argument rfl
    | input =>
      obtain ⟨text, replied, same⟩ := gets
      exact same ▸ replied rfl text rfl
    | prompt =>
      obtain ⟨text, replied⟩ := gets
      exact replied rfl value rfl
  have refuses {keyless : Prop} (next : String → Script Unit) :
      Script.Asks (Request.RepliedEmpty source keyless) Request.OnlyLooks
        (fun failure => failure.exitCode = 1) (fun _ => False)
        (Script.readValue source >>= next) := by
    refine (Script.asks_readValue own trivial (fun _ => trivial) source).bind fun value read => ?_
    exact absurd (empty read.1) read.2
  cases command with
  | init key =>
    cases takes
    refine ⟨trivial, fun reply replied => ?_⟩
    cases reply with
    | ok found => exact absurd rfl (replied ⟨key, rfl⟩ found)
    | error e =>
      cases e with
      | notFound entity =>
        refine (Script.asks_readKey own (fun _ => trivial) key).bind fun value gets => ?_
        rw [empty gets]
        rfl
      | _ => rfl
  | save _ _ _ | set _ _ =>
    cases takes
    exact (Script.asks_requireMasterKey trivial fun _ usual => usual).bind fun _ _ => refuses _
  | _ => cases takes

end Command

/-- A session in which nothing has been written, with an input from which no value comes. -/
structure Session.OnlyLooked (opened : Session) (source : ValueSource) (s : Session) : Prop where
  tables : s.tree.tablesAt = opened.tree.tablesAt
  database : s.connection.database = opened.connection.database
  kept : s.place.Keeps s.tree s.connection.database.committed
  blank : source = .input → ∀ text, Utf8.decode s.input = .ok text → dropLineEnd text = ""

theorem Session.OnlyLooked.reply {opened s : Session} {source : ValueSource} {keyless : Prop}
    (looked : opened.OnlyLooked source s) (idle : opened.connection.database.inTransaction = false)
    (missing : keyless → opened.connection.database.current.masterKey = none) {request : Request}
    (looks : request.OnlyLooks) (own : request.IsOwn) :
    Request.RepliedEmpty source keyless request (s.reply request).1 ∧
      opened.OnlyLooked source (s.reply request).2 := by
  obtain ⟨tables, database, kept, blank⟩ := looked
  cases request with
  | store op =>
    cases op with
    | queryMasterKey =>
      obtain ⟨answer, same, -⟩ := s.reply_store .queryMasterKey
      rw [← database] at idle missing
      have unchanged : (s.reply (.store .queryMasterKey)).2.tree.tablesAt = s.tree.tablesAt :=
        Session.tablesAt_reply_reading idle kept rfl
      rw [Operation.database_perform_reading idle rfl] at same
      refine ⟨fun none key found => ?_, unchanged.trans tables, same.trans database, ?_, blank⟩
      · rw [answer, Operation.perform_queryMasterKey_of_none (missing none)] at found
        cases found
      · rw [same]
        exact kept.congr unchanged
    | _ => cases looks
  | readInput =>
    refine ⟨fun offered text read => ?_, tables, database, kept, fun _ text decoded => ?_⟩
    · cases decoded : Utf8.decode s.input with
      | error e => simp [Session.reply, Session.replyAmid, decoded, Except.toOption] at read
      | ok other =>
        obtain rfl : other = text := by
          simpa [Session.reply, Session.replyAmid, decoded, Except.toOption] using read
        exact blank offered other decoded
    · -- all that was there has been read, and what is left is a blank text
      cases decoded
      decide
  | prompt _ => cases own
  | _ => cases looks

/-- Where a command is offered nothing it comes to no success but may fail with the usual exit code,
and at no moment is any vault changed. -/
theorem Command.OffersNothing.unchanged {command : Command} {opened s : Session}
    {typed : Except Files.Error String} {source : ValueSource} {may : Tree → Tree → Prop}
    {rest : Script Unit} (offers : command.OffersNothing opened typed source)
    (idle : opened.connection.database.inTransaction = false)
    (kept : opened.place.Keeps opened.tree opened.connection.database.committed)
    (comes : command.script.Comes typed may opened rest s) :
    rest ≠ .done () ∧ (∀ failure, rest = .fail failure → failure.exitCode = 1) ∧
      s.tree.tablesAt = opened.tree.tablesAt := by
  obtain ⟨takes, empty, keyless⟩ := offers
  have asks := Command.asks_of_empty takes fun value same => empty value (.inl (by rw [same]; rfl))
  have blank (offered : source = .input) (text : String)
      (decoded : Utf8.decode opened.input = .ok text) : dropLineEnd text = "" := by
    subst offered
    exact empty _ (.inl ⟨text, decoded, lineOf_dropLineEnd text⟩)
  have begins : opened.OnlyLooked source opened := ⟨rfl, rfl, kept, blank⟩
  obtain ⟨ends, looked⟩ := asks.comes begins
    (fun _ _ looked looks own => looked.reply idle keyless looks own)
    (fun _ _ offered value same => empty value (.inr ⟨offered, same⟩))
    (fun _ _ _ _ _ _ _ _ looks => looks.elim) comes
  refine ⟨?_, ?_, looked.tables⟩
  · rintro rfl
    exact ends
  · rintro failure rfl
    exact ends

namespace Session
variable {location : Location} {s : Session}

/-- Nothing in the vault that is kept here is empty, nor in the one that is open, unless that is kept
elsewhere. -/
structure Filled (location : Location) (s : Session) : Prop where
  upholds : s.Upholds Tables.NothingEmpty location
  opened : s.place = .temporary ∨ s.place = .file location →
    s.connection.database.Holds Tables.NothingEmpty

theorem Filled.reply (filled : s.Filled location) {request : Request}
    (stores : request.StoresNothingEmpty) (own : request.IsOwn) :
    (s.reply request).2.Filled location := by
  have keeps (op : Operation) (asked : request = .store op) :
      op.plan.Keeps Tables.NothingEmpty := by
    subst asked
    exact Operation.StoresNothingEmpty.keeps stores
  have place : (s.reply request).2.place = s.place := by cases request <;> rfl
  refine ⟨filled.upholds.reply request keeps ?_, fun here => ?_⟩
  · rintro hook rfl
    cases own
  · rw [place] at here
    exact holds_reply (filled.opened here) request keeps

/-- A session starts with nothing empty if there is nothing empty here before. -/
theorem filled_start {setting : Setting} {invocation : Arguments.Invocation} {session : Session}
    (started : setting.start invocation = .ok session)
    (holds : (setting.tree.tablesAt location).NothingEmpty) : session.Filled location := by
  refine ⟨Setting.upholds_start started holds, fun here => ?_⟩
  rw [Setting.database_start started]
  refine Database.holds_ofTables ?_
  rcases here with own | kept
  · rw [own]
    exact Tables.IsUnused.nothingEmpty ⟨rfl, rfl, rfl⟩
  · rw [kept]
    exact holds

end Session

namespace Files.Tree
variable {location : Location} {tree tree' : Tree}

/-- What has been done to the files has put nothing empty into the vault that is kept here. -/
def PutsNothingEmpty (location : Location) (tree tree' : Tree) : Prop :=
  (tree.tablesAt location).NothingEmpty → (tree'.tablesAt location).NothingEmpty

/-- What may become of the files around a vault. Something is done elsewhere; or a command line, with
any arguments and any input, comes to a point of its course, at which it has ended or is cut off. It
may be prompted for a key or a value, and its hook may do anything but put something empty into the
vault. -/
inductive Turn (location : Location) (tree : Tree) : Tree → Prop where
  | elsewhere {tree' : Tree} (same : tree'.tablesAt location = tree.tablesAt location) :
      Turn location tree tree'
  | line (line : CommandLine) {invocation : Arguments.Invocation} {session s : Session}
      {typed : Except Files.Error String} {rest : Script Unit}
      (understood : Arguments.Invocation.read line.arguments = .ok invocation)
      (started : (line.on tree).start invocation = .ok session)
      (comes : invocation.command.script.Comes typed (PutsNothingEmpty location) session rest s) :
      Turn location tree s.tree

/-- What may become of the files in any number of turns. -/
def Becomes (location : Location) : Tree → Tree → Prop := Relation.ReflTransGen (Turn location)

/-- At every point of a command line nothing in the vaults that it works on is empty. -/
theorem filled_of_comes {line : CommandLine} {invocation : Arguments.Invocation}
    {session s : Session} {typed : Except Files.Error String} {rest : Script Unit}
    (started : (line.on tree).start invocation = .ok session)
    (comes : invocation.command.script.Comes typed (PutsNothingEmpty location) session rest s)
    (holds : (tree.tablesAt location).NothingEmpty) : s.Filled location := by
  have begins : session.Filled location := Session.filled_start started holds
  have asks := Script.storesNothingEmpty_script invocation.command
  refine (asks.comes begins ?_ (fun _ _ => trivial) ?_ comes).2
  · exact fun _ _ filled stores own => ⟨trivial, filled.reply stores own⟩
  · intro _ _ _ _ _ _ _ filled _ puts
    have stored := puts filled.upholds.stored
    exact ⟨trivial, ⟨stored, filled.upholds.opened, filled.upholds.below⟩, filled.opened⟩

theorem Turn.nothingEmpty (turn : tree.Turn location tree')
    (holds : (tree.tablesAt location).NothingEmpty) : (tree'.tablesAt location).NothingEmpty := by
  cases turn with
  | elsewhere same => exact same ▸ holds
  | line line understood started comes =>
    exact (filled_of_comes started comes holds).upholds.stored

theorem Becomes.nothingEmpty (becomes : tree.Becomes location tree')
    (holds : (tree.tablesAt location).NothingEmpty) : (tree'.tablesAt location).NothingEmpty := by
  induction becomes with
  | refl => exact holds
  | tail _ turn ih => exact turn.nothingEmpty ih

/-- A command line whose hook spares the vault takes one turn to its end. -/
theorem turn_finish {line : CommandLine} (spares : line.HooksSpare tree location) :
    tree.Turn location (line.finish tree).tree := by
  cases understood : Arguments.Invocation.read line.arguments with
  | error halt =>
    have same : (line.finish tree).tree = tree := (line.on tree).run_of_halt understood
    exact .elsewhere (by rw [same])
  | ok invocation =>
    have finished : line.finish tree = (line.on tree).execute invocation :=
      (line.on tree).run_accepted understood
    rw [finished]
    cases started : (line.on tree).start invocation with
    | error refusal =>
      exact .elsewhere (congrFun ((line.on tree).tablesAt_execute_of_error started) location)
    | ok session =>
      rw [(Setting.execute_started started).2.1]
      refine .line line understood started (Script.comes_carryOut fun hook found runs => ?_)
      rw [PutsNothingEmpty, (spares invocation session understood started).hookRuns runs]
      exact id

end Files.Tree

/-- Where a command is offered nothing its session comes to no success but may fail with the usual
exit code, and it changes no vault. -/
theorem Setting.unchanged_of_empty {s : Setting} {invocation : Arguments.Invocation}
    {session s' : Session} {source : ValueSource} {typed : Except Files.Error String}
    {may : Tree → Tree → Prop} {rest : Script Unit} (started : s.start invocation = .ok session)
    (offers : invocation.command.OffersNothing session typed source)
    (comes : invocation.command.script.Comes typed may session rest s') :
    rest ≠ .done () ∧ (∀ failure, rest = .fail failure → failure.exitCode = 1) ∧
      s'.tree.tablesAt = s.tree.tablesAt := by
  have starts := s.holds_start invocation
  rw [started] at starts
  obtain ⟨same, holds⟩ := starts
  obtain ⟨fails, usual, unchanged⟩ :=
    offers.unchanged (idle_start started) holds.follows.kept comes
  exact ⟨fails, usual, unchanged.trans same⟩

/-- A command line that is offered nothing to store fails, and changes no vault. -/
theorem CommandLine.finish_of_empty {line : CommandLine} {tree : Tree}
    {invocation : Arguments.Invocation} {session : Session} {source : ValueSource}
    (understood : Arguments.Invocation.read line.arguments = .ok invocation)
    (started : (line.on tree).start invocation = .ok session)
    (offers : invocation.command.OffersNothing session (.error .noDevice) source) :
    (line.finish tree).exitCode = 1 ∧ (line.finish tree).tree.tablesAt = tree.tablesAt := by
  have finished : line.finish tree = (line.on tree).execute invocation :=
    (line.on tree).run_accepted understood
  have comes : invocation.command.script.Comes (.error .noDevice) (fun _ _ => True) session _ _ :=
    Script.comes_carryOut fun _ _ _ => trivial
  obtain ⟨fails, usual, unchanged⟩ := Setting.unchanged_of_empty started offers comes
  rw [finished, Setting.execute_eq_finish started]
  refine ⟨?_, (congrArg Tree.tablesAt (Session.tree_finish _ _)).trans unchanged⟩
  cases ran : Session.carryOut invocation.command.script session with
  | mk result s' =>
    rw [ran] at fails usual
    cases result with
    | ok done => exact absurd rfl fails
    | error failure => exact usual failure rfl

/-- Nothing empty is stored. Whatever is replied to it, no command asks to store an empty key or an
empty payload. So whatever command lines have come to on a vault that was new, each of them up to its
end or cut off at any moment, neither the master key nor the payload of any secret is empty, and
neither is one in a transaction that is open. A command that is offered no other key or value to
store than an empty one comes to no success and at no moment changes any vault; where there is nobody
at a terminal, its command line fails. -/
theorem nothing_empty_is_stored :
    (∀ command : Command, command.script.StoresNothingEmpty) ∧
    ∀ (location : Location) (fresh tree : Tree), (fresh.tablesAt location).IsUnused →
      fresh.Becomes location tree →
      (tree.tablesAt location).NothingEmpty ∧
      ∀ line : CommandLine,
        (line.HooksSpare tree location → fresh.Becomes location (line.finish tree).tree) ∧
        ∀ invocation session, Arguments.Invocation.read line.arguments = .ok invocation →
          (line.on tree).start invocation = .ok session →
          (∀ typed rest s, invocation.command.script.Comes typed
              (Tree.PutsNothingEmpty location) session rest s →
            (s.tree.tablesAt location).NothingEmpty ∧
            (s.place = .temporary ∨ s.place = .file location →
              s.connection.database.Holds Tables.NothingEmpty) ∧
            ∀ source, invocation.command.OffersNothing session typed source →
              rest ≠ .done () ∧ s.tree.tablesAt = tree.tablesAt) ∧
          ∀ source, invocation.command.OffersNothing session (.error .noDevice) source →
            (line.finish tree).exitCode = 1 ∧ (line.finish tree).tree.tablesAt = tree.tablesAt := by
  refine ⟨Script.storesNothingEmpty_script, fun location fresh tree unused becomes => ?_⟩
  have holds := becomes.nothingEmpty unused.nothingEmpty
  refine ⟨holds, fun line => ⟨fun spares => becomes.tail (Tree.turn_finish spares), ?_⟩⟩
  intro invocation session understood started
  refine ⟨fun typed rest s comes => ?_, fun source => line.finish_of_empty understood started⟩
  have filled := Tree.filled_of_comes started comes holds
  refine ⟨filled.upholds.stored, filled.opened, fun source offers => ?_⟩
  obtain ⟨fails, -, unchanged⟩ := Setting.unchanged_of_empty started offers comes
  exact ⟨fails, unchanged⟩

/-- A secret is saved in a new vault. The line end alone is no value to set it to. -/
theorem nothing_empty_is_stored_lineEnd :
    let fresh : Tree := ⟨[]⟩
    let init := CommandLine.onFile ["init", "--key", "k"]
    let save := CommandLine.onFile ["save", "--name", "n", "-l", "l", "p"]
    let set := { CommandLine.onFile ["set", "1", "--stdin"] with input := Utf8.encode "\r\n" }
    let tree := fresh.afterLines [init, save]
    (tree.tablesAt ["vault.db"]).secrets.keys = [1] ∧
      (tree.tablesAt ["vault.db"]).NothingEmpty ∧ (set.finish tree).exitCode = 1 ∧
      (set.finish tree).tree.tablesAt = tree.tablesAt := by
  intro fresh init save set tree
  have unused : (fresh.tablesAt ["vault.db"]).IsUnused := ⟨rfl, rfl, rfl⟩
  have readsInit : Arguments.Invocation.read init.arguments =
      .ok (CommandLine.fileInvocation (.init (some "k"))) := by decide +kernel
  have readsSave : Arguments.Invocation.read save.arguments =
      .ok (CommandLine.fileInvocation (.save "n" ["l"] (.given "p"))) := by decide +kernel
  have readsSet : Arguments.Invocation.read set.arguments =
      .ok (CommandLine.fileInvocation (.set 1 .input)) := by decide +kernel
  obtain ⟨-, onVault⟩ := nothing_empty_is_stored
  obtain ⟨-, lines⟩ := onVault ["vault.db"] fresh fresh unused .refl
  have first := (lines init).1 (CommandLine.hooksSpare_of_none readsInit (by decide +kernel) _)
  obtain ⟨-, lines⟩ := onVault ["vault.db"] fresh _ unused first
  have second := (lines save).1 (CommandLine.hooksSpare_of_none readsSave (by decide +kernel) _)
  obtain ⟨holds, lines⟩ := onVault ["vault.db"] fresh tree unused second
  obtain ⟨session, started, -⟩ :=
    (set.on tree).starts_onFile (.set 1 .input) rfl (by decide +kernel)
  obtain ⟨-, fails⟩ := (lines set).2 _ session readsSet started
  have input : session.input = Utf8.encode "\r\n" := by
    obtain ⟨_, _, _, -, -, rfl⟩ := Setting.start_eq_ok started
    rfl
  refine ⟨by decide +kernel, holds, fails .input ⟨rfl, ?_, nofun⟩⟩
  rintro value (⟨text, decoded, line⟩ | ⟨prompted, -⟩)
  · rw [input, Utf8.decode_encode] at decoded
    obtain rfl := Except.ok.inj decoded
    rw [← lineOf_iff.1 line]
    decide
  · cases prompted

end SecretVault
