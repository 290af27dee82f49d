import SecretVault.Proofs.Command.AllOrNothing
import SecretVault.Proofs.Json.Decoding
import SecretVault.Proofs.Search.Reading
import SecretVault.Proofs.Sessions
import SecretVault.Proofs.Starting
import SecretVault.Proofs.Text.Utf8

/-!
Listings as JSON. A command that lists secrets only looks at the vault, and what it lists has the
ids of secrets that are stored there. So all that it prints decodes to what it has found.
-/
namespace SecretVault
open SecretVault.Engine SecretVault.Files SecretVault.Text

/-- Outside of a transaction an operation that reads leaves the database as it is. -/
theorem Operation.database_perform_reading {d : Database} (idle : d.inTransaction = false)
    {op : Operation} (reads : op.writes = false) : (op.perform d).2 = d := by
  have never : Session.live 0 = none := rfl
  have live := endsLive_of_never never op (.opened d)
  have ran := database_run_reading (c := .opened d) idle reads Session.live 0
  exact (run_of_live live).2.symm.trans ran

namespace Script
variable {α β γ : Type} {d : Database}

theorem bind_assoc (script : Script α) (second : α → Script β) (third : β → Script γ) :
    (script >>= second) >>= third = script >>= fun a => second a >>= third := by
  induction script with
  | done a => rfl
  | fail failure => rfl
  | ask request next ih => exact congrArg (ask request) (funext ih)

/-- On the database the script prints nothing, leaves it as it is, and what it answers, if it
answers, is like this. -/
def Looks (script : Script α) (d : Database) (answers : α → Prop) : Prop :=
  ∃ ending, script.Reads d ending "" ∧ ∀ a, ending = .ok a → answers a

theorem Looks.of_reads {script : Script α} {ending : Except Failure α} {answers : α → Prop}
    (reads : script.Reads d ending "") (likeThis : ∀ a, ending = .ok a → answers a) :
    script.Looks d answers := ⟨ending, reads, likeThis⟩

theorem looks_done {a : α} {answers : α → Prop} (likeThis : answers a) :
    (done a).Looks d answers := by
  refine .of_reads (reads_done a) fun b same => ?_
  cases same
  exact likeThis

theorem looks_fail (failure : Failure) (answers : α → Prop) :
    (fail failure : Script α).Looks d answers :=
  .of_reads (reads_fail failure) nofun

theorem Looks.bind {script : Script α} {next : α → Script β} {first : α → Prop} {answers : β → Prop}
    (looks : script.Looks d first) (later : ∀ a, first a → (next a).Looks d answers) :
    (script >>= next).Looks d answers := by
  obtain ⟨ending, reads, likeThis⟩ := looks
  cases ending with
  | error failure => exact .of_reads (reads.bind_fail next) nofun
  | ok a =>
    obtain ⟨ended, readsLater, likeThisLater⟩ := later a (likeThis a rfl)
    exact .of_reads (reads.bind readsLater) likeThisLater

variable (idle : d.inTransaction = false)
include idle

theorem looks_store {op : Operation} (reads : op.writes = false) {answers : op.Answer → Prop}
    (likeThis : ∀ a, (op.perform d).1 = .ok a → answers a) : (store op).Looks d answers := by
  refine .of_reads (reads_store op (op.database_perform_reading idle reads)) fun a answered => ?_
  cases performed : (op.perform d).1 with
  | ok b =>
    rw [performed] at answered
    cases answered
    exact likeThis a performed
  | error e =>
    rw [performed] at answered
    cases answered

theorem looks_requireMasterKey : requireMasterKey.Looks d fun _ => True := by
  have unchanged : (Operation.queryMasterKey.perform d).2 = d :=
    Operation.database_perform_reading idle rfl
  refine Looks.bind (.of_reads (reads_request .queryMasterKey unchanged) fun _ _ => trivial) ?_
  intro answer _
  cases answer with
  | ok key => exact looks_done trivial
  | error e =>
    cases e with
    | notFound entity => exact looks_fail _ _
    | _ => exact looks_fail _ _

end Script

/-- All ids are those of stored secrets. -/
def LabeledSecrets.AreIn (found : LabeledSecrets) (t : Tables) : Prop :=
  ∀ id ∈ found.keys, id ∈ t.secrets.keys

theorem areIn_of_perform_search {d : Database} {clauses : List Clause} {found : LabeledSecrets}
    (answered : ((Plan.single (Statement.search clauses)).perform d).1 = .ok found) :
    found.AreIn d.current := by
  cases changed : (Statement.search clauses).change d.current with
  | error e =>
    rw [Plan.single, Plan.perform_send_of_error changed] at answered
    cases answered
  | ok result =>
    rw [Plan.single, Plan.perform_send_of_ok changed] at answered
    cases answered
    simp only [Statement.search, Statement.change_reading] at changed
    cases fits : Statement.withinLimits (Statement.searchQuery clauses) true with
    | error e =>
      rw [fits] at changed
      cases changed
    | ok done =>
      rw [fits] at changed
      cases searched : Engine.search d.current clauses with
      | error e =>
        rw [searched] at changed
        cases changed
      | ok rows =>
        rw [searched] at changed
        cases changed
        intro id member
        exact mem_keys_of_search searched member

namespace Script
variable {d : Database} (idle : d.inTransaction = false)
include idle

theorem looks_searchIds (ids : List Int) :
    (store (.searchIds ids)).Looks d (LabeledSecrets.AreIn · d.current) := by
  refine looks_store idle rfl fun found answered => ?_
  cases ids with
  | nil => cases answered
  | cons first others => exact areIn_of_perform_search answered

theorem looks_search (name : Option String) (labels : List String) :
    (search name labels).Looks d (LabeledSecrets.AreIn · d.current) := by
  cases name with
  | none =>
    cases labels with
    | nil => exact looks_store idle rfl fun found => areIn_of_perform_search
    | cons first others => exact looks_store idle rfl fun found => areIn_of_perform_search
  | some name =>
    cases labels with
    | nil => exact looks_store idle rfl fun found => areIn_of_perform_search
    | cons first others => exact looks_store idle rfl fun found => areIn_of_perform_search

omit idle in
/-- What a search by name and labels is about: the secrets that the first search finds, looked up
once more if it has been by labels. -/
def findSecrets (name : Option String) (labels : List String) : Script LabeledSecrets := do
  let found ← search name labels
  if labels.isEmpty || found.entries.isEmpty then pure found
  else store (.searchIds (found.entries.map (·.1)))

omit idle in
theorem find_eq (name : Option String) (labels : List String) (json : Bool) :
    find name labels json = findSecrets name labels >>= (printSecrets · json) := by
  unfold find findSecrets
  rw [bind_assoc]
  refine congrArg (search name labels >>= ·) (funext fun found => ?_)
  split
  · rfl
  · rfl

theorem looks_findSecrets (name : Option String) (labels : List String) :
    (findSecrets name labels).Looks d (LabeledSecrets.AreIn · d.current) := by
  refine (looks_search idle name labels).bind fun found areIn => ?_
  split
  · exact looks_done areIn
  · exact looks_searchIds idle _

end Script

/-- What a command finds that lists secrets as JSON. -/
def Command.jsonListing? : Command → Option (Script LabeledSecrets)
  | .find name labels true => some do
    Script.requireMasterKey
    Script.findSecrets name labels
  | .describe ids true => some do
    Script.requireMasterKey
    Script.store (.searchIds ids)
  | _ => none

namespace Command
variable {command : Command} {finding : Script LabeledSecrets}

/-- The command prints what it finds, and that is all it does. -/
theorem script_of_jsonListing (lists : command.jsonListing? = some finding) :
    command.script = finding >>= (Script.printSecrets · true) := by
  unfold jsonListing? at lists
  split at lists
  · rename_i name labels
    cases lists
    rw [Script.bind_assoc]
    exact congrArg (Script.requireMasterKey >>= ·) (funext fun _ => Script.find_eq name labels true)
  · cases lists
    rw [Script.bind_assoc]
    rfl
  · cases lists

theorem looks_of_jsonListing (lists : command.jsonListing? = some finding) {d : Database}
    (idle : d.inTransaction = false) : finding.Looks d (LabeledSecrets.AreIn · d.current) := by
  have required := Script.looks_requireMasterKey idle
  unfold jsonListing? at lists
  split at lists
  · cases lists
    exact required.bind fun _ _ => Script.looks_findSecrets idle _ _
  · cases lists
    exact required.bind fun _ _ => Script.looks_searchIds idle _
  · cases lists

/-- In a session outside of a transaction the command succeeds if it finds something, and prints
it. -/
theorem carryOut_jsonListing (lists : command.jsonListing? = some finding) {s : Session}
    (idle : s.connection.database.inTransaction = false) :
    ((Session.carryOut command.script s).1 = .ok () ↔
        ∃ found, (Session.carryOut finding s).1 = .ok found) ∧
      ∀ found, (Session.carryOut finding s).1 = .ok found →
        found.AreIn s.connection.database.current ∧
          (Session.carryOut command.script s).2.output =
            s.output ++ Utf8.encode (found.printed true) := by
  obtain ⟨ending, reads, areIn⟩ := looks_of_jsonListing lists idle
  obtain ⟨ends, -⟩ := reads s rfl
  rw [script_of_jsonListing lists, ends]
  cases ending with
  | error failure =>
    obtain ⟨fails, -⟩ := reads.bind_fail (Script.printSecrets · true) s rfl
    rw [fails]
    constructor
    · constructor
      · intro succeeds
        cases succeeds
      · rintro ⟨found, answered⟩
        cases answered
    · intro found answered
      cases answered
  | ok found =>
    have prints : (finding >>= (Script.printSecrets · true)).Reads s.connection.database
        (.ok ()) (found.printed true) := reads.bind (Script.reads_printSecrets found true _)
    obtain ⟨succeeds, output, -⟩ := prints s rfl
    constructor
    · constructor
      · intro _
        exact ⟨found, rfl⟩
      · intro _
        exact succeeds
    · intro other same
      cases same
      exact ⟨areIn found rfl, output⟩

end Command

/-- Every secret in a vault has a signed 64-bit number as its id. -/
def Files.Tree.IdsInRange (tree : Tree) : Prop :=
  ∀ location, (tree.tablesAt location).secrets.InRange

theorem Setting.inRange_start {s : Setting} (inRange : s.tree.IdsInRange)
    {invocation : Arguments.Invocation} {session : Session}
    (started : s.start invocation = .ok session) :
    session.connection.database.current.secrets.InRange := by
  rw [database_start started]
  cases session.place with
  | file location => exact inRange location
  | temporary =>
    intro id member
    cases member

/-- Mappings with ids in their range come back from the text that is written for them, on one line
or laid out. So the whole output of a listing as JSON, its last line end included, decodes to
exactly what was found, and it succeeds whenever something is found, be it nothing. -/
theorem json_listing_decodes :
    (∀ secrets : LabeledSecrets, secrets.InRange →
      Json.decodeSecrets (String.ofList (Json.Layout.compact.print secrets)) = .ok secrets ∧
        Json.decodeSecrets (String.ofList (Json.Layout.pretty.print secrets)) = .ok secrets) ∧
    ∀ (s : Setting) (arguments : List String) (invocation : Arguments.Invocation)
      (finding : Script LabeledSecrets), s.tree.IdsInRange →
      Arguments.Invocation.read arguments = .ok invocation →
      invocation.command.jsonListing? = some finding →
      ((s.run arguments).exitCode = 0 ↔ ∃ session found, s.start invocation = .ok session ∧
        (Session.carryOut finding session).1 = .ok found) ∧
      ∀ session found, s.start invocation = .ok session →
        (Session.carryOut finding session).1 = .ok found →
        ∃ text, Utf8.decode (s.run arguments).output = .ok (text ++ "\n") ∧
          Json.decodeSecrets (text ++ "\n") = .ok found := by
  refine ⟨fun secrets inRange => ?_,
    fun s arguments invocation finding inRange accepted lists => ?_⟩
  · have back {layout : Json.Layout} (blanks : layout.AddsBlanks) :
        Json.decodeSecrets (String.ofList (layout.print secrets)) = .ok secrets := by
      have decoded := Json.decodeSecrets_print blanks secrets inRange Json.allBlank_nil
      rw [List.append_nil] at decoded
      exact decoded
    exact ⟨back Json.Layout.addsBlanks_compact, back Json.Layout.addsBlanks_pretty⟩
  rw [s.run_accepted accepted]
  have ends {session : Session} (started : s.start invocation = .ok session) :=
    Command.carryOut_jsonListing lists (s := session) (Setting.idle_start started)
  constructor
  · constructor
    · intro succeeded
      cases started : s.start invocation with
      | error refusal =>
        rw [Setting.execute, Setting.executeAmid_refused started] at succeeded
        exact absurd succeeded refusal.1.exitCode_ne_zero
      | ok session =>
        obtain ⟨exits, -, -⟩ := Setting.execute_started started
        obtain ⟨found, answered⟩ := (ends started).1.1 (exits.1 succeeded)
        exact ⟨session, found, rfl, answered⟩
    · rintro ⟨session, found, started, answered⟩
      obtain ⟨exits, -, -⟩ := Setting.execute_started started
      exact exits.2 ((ends started).1.2 ⟨found, answered⟩)
  · intro session found started answered
    obtain ⟨-, -, output⟩ := Setting.execute_started started
    obtain ⟨areIn, printed⟩ := (ends started).2 found answered
    have foundInRange : found.InRange :=
      fun id member => Setting.inRange_start inRange started id (areIn id member)
    refine ⟨String.ofList (Json.Layout.pretty.print found), ?_, ?_⟩
    · rw [output, printed, Setting.output_start started, List.nil_append, Utf8.decode_encode]
      rfl
    · have blank : Json.AllBlank ['\n'] := by
        intro c member
        rw [List.mem_singleton.1 member]
        rfl
      have decoded := Json.decodeSecrets_print Json.Layout.addsBlanks_pretty found foundInRange
        blank
      rw [String.ofList_append] at decoded
      exact decoded

/-- A vault with the least and the greatest id, and names that have to be escaped or are long in
bytes. -/
def Setting.oddNames : Setting where
  tree := (Tree.mk []).put ["vault.db"] (.vault {
    masterKey := some (.text "k")
    secrets := (IdMap.empty.insert leastId ⟨.text "a\"\\\n\x00\x1f", .text "p"⟩).insert greatestId
      ⟨.text "𝄞", .text "q"⟩
    labels := (IdMap.empty.insert 1 ⟨.text "\t", leastId⟩).insert 2 ⟨.text "", greatestId⟩
    secretCount := greatestId
    labelCount := 2 })
  directory := []
  environment := []
  input := []

/-- What is found in that vault. -/
def LabeledSecrets.oddNames : LabeledSecrets :=
  (IdMap.empty.insert leastId ⟨"a\"\\\n\x00\x1f", ["\t"]⟩).insert greatestId ⟨"𝄞", [""]⟩

/-- All secrets of that vault are listed by a search and by their ids. -/
theorem json_listing_decodes_oddNames :
    let s := Setting.oddNames
    let line := ["--config", "/none", "--database", "/vault.db"]
    let ids := [toString leastId, toString greatestId]
    s.tree.IdsInRange ∧ LabeledSecrets.oddNames.InRange ∧
    ∀ command ∈ [["find", "--json"], "describe" :: "--json" :: "--" :: ids],
      (s.run (line ++ command)).exitCode = 0 ∧
        ∃ text, Utf8.decode (s.run (line ++ command)).output = .ok (text ++ "\n") ∧
          Json.decodeSecrets (text ++ "\n") = .ok LabeledSecrets.oddNames := by
  intro s line ids
  have inRange : s.tree.IdsInRange := by
    intro location
    have nothing : (Tree.mk []).tablesAt location = Tables.empty := by cases location <;> rfl
    have kept := Tree.tablesAt_put (List.cons_ne_nil "vault.db" []) ⟨[]⟩
    rw [show s.tree = (Tree.mk []).put _ _ from rfl, kept, nothing]
    split
    · decide +kernel
    · exact nofun
  obtain ⟨-, lists⟩ := json_listing_decodes
  refine ⟨inRange, by decide +kernel, fun command among => ?_⟩
  have finds : ∃ invocation finding, Arguments.Invocation.read (line ++ command) = .ok invocation ∧
      invocation.command.jsonListing? = some finding ∧
      ((s.start invocation).toOption.bind fun session =>
        (Session.carryOut finding session).1.toOption) = some LabeledSecrets.oddNames := by
    rcases List.mem_pair.1 among with rfl | rfl
    · exact ⟨⟨some "/none", some "/vault.db", .find none [] true⟩, _, by decide +kernel, rfl,
        by decide +kernel⟩
    · exact ⟨⟨some "/none", some "/vault.db", .describe [leastId, greatestId] true⟩, _,
        by decide +kernel, rfl, by decide +kernel⟩
  obtain ⟨invocation, finding, accepted, listing, finds⟩ := finds
  obtain ⟨succeeds, decodes⟩ := lists s _ invocation finding inRange accepted listing
  cases started : s.start invocation with
  | error refusal =>
    rw [started] at finds
    cases finds
  | ok session =>
    rw [started] at finds
    cases found : (Session.carryOut finding session).1 with
    | error failure => simp [Except.toOption, found] at finds
    | ok secrets =>
      obtain rfl : secrets = LabeledSecrets.oddNames := by
        simpa [Except.toOption, found] using finds
      exact ⟨succeeds.2 ⟨session, _, started, found⟩, decodes session _ started found⟩

end SecretVault
