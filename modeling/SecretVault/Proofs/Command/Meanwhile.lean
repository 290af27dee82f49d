import SecretVault.Proofs.Command.Listing
import SecretVault.Proofs.Sharing
import SecretVault.Proofs.Vault.Finding
import SecretVault.Proofs.Vault.Tracing

/-!
Listings by labels while others write. The secrets are found by one search and printed from another,
with nothing to keep the vault from being changed in between. So what is printed has been found, but
it may no longer be what was looked for: a secret may have been renamed, lost its label, or been
replaced by another one under its id. Nothing else that others do has such an effect.
-/
namespace SecretVault
open SecretVault.Engine SecretVault.Glob SecretVault.Text

/-- A secret, as it is shown, has a name that the name pattern matches, if there is one, and a label
that some label pattern matches. -/
structure LabeledSecret.Matches (name : Option String) (patterns : List String)
    (shown : LabeledSecret) : Prop where
  name : ∀ pattern ∈ name, matchesText pattern shown.name = true
  labels : ∃ label ∈ shown.labels, ∃ pattern ∈ patterns, matchesText pattern label = true

variable {name : Option String} {patterns : List String}

theorem Vault.Entry.isFound_iff_matches (given : patterns ≠ []) {e : Vault.Entry} :
    e.IsFound matchesText name patterns ↔
      LabeledSecret.Matches name patterns ⟨e.name, e.labels⟩ := by
  constructor
  · intro isFound
    exact ⟨isFound.name, isFound.labels given⟩
  · intro hits
    obtain ⟨label, held, -⟩ := hits.labels
    exact ⟨List.ne_nil_of_mem held, hits.name, fun _ => hits.labels⟩

/-- Operations among which there are some that may make a secret fail what it has matched: it is
renamed to what the name pattern does not match, a label is removed that some label pattern matches,
or it is deleted and another one is stored under its id and labelled. -/
inductive Undermined (name : Option String) (patterns : List String) (id : Int)
    (past : List Operation) : Prop where
  | renamed {other pattern : String} (among : .renameSecret id other ∈ past)
      (tried : pattern ∈ name) (fails : matchesText pattern other = false)
  | detached {removed : List String} {label pattern : String}
      (among : .deleteLabels id removed ∈ past) (tried : pattern ∈ patterns)
      (matched : matchesText pattern label = true)
      (removes : Vault.anyMatches removed label = true)
  | replaced {ids : List Int} {payload label : String} (deletes : id ∈ ids)
      (inTurn : [.deleteSecrets ids, .upsertSecret id payload, .insertLabel label id].Sublist past)

theorem Undermined.append {id : Int} {past : List Operation}
    (undermined : Undermined name patterns id past) (later : List Operation) :
    Undermined name patterns id (past ++ later) := by
  cases undermined with
  | renamed among tried fails => exact .renamed (List.mem_append_left _ among) tried fails
  | detached among tried matched removes =>
    exact .detached (List.mem_append_left _ among) tried matched removes
  | replaced deletes inTurn =>
    exact .replaced deletes (inTurn.trans (List.sublist_append_left _ _))

/-- What has become of an entry that was found, after some operations: it would be found again, it
has been deleted, it is there anew without a label, or it has been undermined. -/
inductive Tracked (name : Option String) (patterns : List String) (id : Int)
    (past : List Operation) : Option Vault.Entry → Prop where
  | found {e : Vault.Entry} (isFound : e.IsFound matchesText name patterns) :
      Tracked name patterns id past (some e)
  | gone {ids : List Int} (deletes : id ∈ ids) (among : .deleteSecrets ids ∈ past) :
      Tracked name patterns id past none
  | anew {e : Vault.Entry} {ids : List Int} {payload : String} (unlabelled : e.labels = [])
      (deletes : id ∈ ids) (inTurn : [.deleteSecrets ids, .upsertSecret id payload].Sublist past) :
      Tracked name patterns id past (some e)
  | undermined {held : Option Vault.Entry} (undermined : Undermined name patterns id past) :
      Tracked name patterns id past held

namespace Tracked
variable {id : Int} {past : List Operation} {held held' : Option Vault.Entry} {op : Operation}

/-- An entry with a label would be found again, unless it has been undermined. -/
theorem isFound_or_undermined {e : Vault.Entry} (tracked : Tracked name patterns id past (some e))
    (labelled : e.labels ≠ []) :
    e.IsFound matchesText name patterns ∨ Undermined name patterns id past := by
  cases tracked with
  | found isFound => exact .inl isFound
  | anew unlabelled deletes inTurn => exact absurd unlabelled labelled
  | undermined undermined => exact .inr undermined

/-- One more operation, on an entry that would be found. -/
theorem of_found (given : patterns ≠ []) {counted : Int} {e : Vault.Entry}
    (isFound : e.IsFound matchesText name patterns)
    (becomes : Vault.Entry.Becomes id counted op (some e) held') :
    Tracked name patterns id (past ++ [op]) held' := by
  have last : op ∈ past ++ [op] := List.mem_append_right _ List.mem_cons_self
  cases becomes with
  | kept => exact .found isFound
  | stored payload => exact .found ⟨isFound.labelled, isFound.name, isFound.labels⟩
  | renamed other =>
    by_cases fits : ∀ pattern ∈ name, matchesText pattern other = true
    · exact .found ⟨isFound.labelled, fits, isFound.labels⟩
    · obtain ⟨pattern, fits⟩ := not_forall.1 fits
      obtain ⟨tried, fails⟩ := Classical.not_imp.1 fits
      exact .undermined (.renamed last tried (Bool.eq_false_iff.2 fails))
  | deleted deletes => exact .gone deletes last
  | attached label =>
    have stays {other : String} (held : other ∈ e.labels) : other ∈ (e.attach label).labels := by
      rw [Vault.Entry.labels_attach]
      split
      · exact held
      · exact List.mem_append_left _ held
    obtain ⟨other, held, matched⟩ := isFound.labels given
    exact .found ⟨List.ne_nil_of_mem (stays held), isFound.name, fun _ => ⟨other, stays held, matched⟩⟩
  | detached removed =>
    obtain ⟨label, held, pattern, tried, matched⟩ := isFound.labels given
    cases removes : Vault.anyMatches removed label with
    | true => exact .undermined (.detached last tried matched removes)
    | false =>
      have stays : label ∈ (e.detach (Vault.anyMatches removed)).labels :=
        List.mem_filter.2 ⟨held, by rw [removes]; rfl⟩
      exact .found ⟨List.ne_nil_of_mem stays, isFound.name,
        fun _ => ⟨label, stays, pattern, tried, matched⟩⟩

/-- One more operation, on an entry that is there anew without a label. -/
theorem of_anew {counted : Int} {e : Vault.Entry} {ids : List Int} {payload : String}
    (unlabelled : e.labels = []) (deletes : id ∈ ids)
    (inTurn : [.deleteSecrets ids, .upsertSecret id payload].Sublist past)
    (becomes : Vault.Entry.Becomes id counted op (some e) held') :
    Tracked name patterns id (past ++ [op]) held' := by
  have later := inTurn.trans (List.sublist_append_left past [op])
  cases becomes with
  | kept => exact .anew unlabelled deletes later
  | stored => exact .anew unlabelled deletes later
  | renamed => exact .anew unlabelled deletes later
  | deleted again => exact .gone again (List.mem_append_right _ List.mem_cons_self)
  | attached label => exact .undermined (.replaced deletes (inTurn.append (List.Sublist.refl _)))
  | detached removed =>
    exact .anew (congrArg (List.filter _) unlabelled) deletes later

/-- Each operation keeps track of an entry. A deleted one does not come back under an id that is
handed out, as its own has been counted. -/
theorem step (given : patterns ≠ []) {counted : Int} (counts : id ≤ counted)
    (tracked : Tracked name patterns id past held)
    (becomes : Vault.Entry.Becomes id counted op held held') :
    Tracked name patterns id (past ++ [op]) held' := by
  cases tracked with
  | undermined undermined => exact .undermined (undermined.append [op])
  | found isFound => exact of_found given isFound becomes
  | anew unlabelled deletes inTurn => exact of_anew unlabelled deletes inTurn becomes
  | gone deletes among =>
    cases becomes with
    | kept => exact .gone deletes (List.mem_append_left _ among)
    | created _ _ above => exact absurd counts (Int.not_le.2 above)
    | stored payload =>
      exact .anew rfl deletes ((List.singleton_sublist.2 among).append (List.Sublist.refl _))
    | deleted again => exact .gone again (List.mem_append_right _ List.mem_cons_self)

end Tracked

/-- Under the id of an entry the secrets have been counted at least that far. -/
theorem Represents.countsTo {d : Database} (reachable : d.Reachable)
    (idle : d.inTransaction = false) {v : Vault} (represented : Represents d.current v) {id : Int}
    {e : Vault.Entry} (stored : v.entries.get? id = some e) : d.Holds (Tables.CountsTo id) := by
  have owned : d.current.secrets.contains id = true := by
    rw [represented.contains]
    exact IdMap.contains_iff.2 ⟨e, stored⟩
  have counts := reachable.counted.current.secrets id (IdMap.contains_iff_mem_keys.1 owned)
  rw [Database.eq_ofTables idle]
  exact Database.holds_ofTables counts

/-- After any number of operations outside of a transaction, every entry that was found has been
kept track of. -/
theorem exists_tracked (given : patterns ≠ []) {d : Database} (reachable : d.Reachable)
    (idle : d.inTransaction = false) {v : Vault} (represented : Represents d.current v)
    (ops : List Operation) :
    ∃ v', Represents (d.after ops).current v' ∧ ∀ id e, v.entries.get? id = some e →
      e.IsFound matchesText name patterns →
      Tracked name patterns id ops (v'.entries.get? id) := by
  induction ops using List.reverseRecOn with
  | nil => exact ⟨v, represented, fun id e stored isFound => stored ▸ .found isFound⟩
  | append_singleton ops op ih =>
    obtain ⟨v', represents, tracked⟩ := ih
    obtain ⟨v'', represents', becomes⟩ :=
      Operation.perform_becomes (Database.idle_after idle ops) represents op
    rw [Database.after_append]
    refine ⟨v'', represents', fun id e stored isFound => ?_⟩
    have counts := represented.countsTo reachable idle stored
    have counted := (counts.after (fun op => op.keeps_countsTo id) ops).current
    exact (tracked id e stored isFound).step given counted (becomes id)

namespace Engine.Tables

/-- A listing has the secrets of which a label is selected. -/
theorem contains_listing_iff {t : Tables} {selects : JoinedRow → Bool} {id : Int} :
    (t.listing selects).contains id = true ↔
      ∃ secret, t.secrets.get? id = some secret ∧ t.selectedLabels selects id secret ≠ [] := by
  rw [IdMap.contains, get?_listing]
  cases t.secrets.get? id with
  | none => simp
  | some secret =>
    cases selected : t.selectedLabels selects id secret with
    | nil => simp [selected]
    | cons first others => simp [selected]

/-- To select more rows is to list more secrets. -/
theorem contains_listing_of_imp {t : Tables} {selects selects' : JoinedRow → Bool}
    (weaker : ∀ id secret, (id, secret) ∈ t.secrets.entries → ∀ row ∈ joinedRows t id secret,
      selects row = true → selects' row = true) {id : Int}
    (listed : (t.listing selects).contains id = true) :
    (t.listing selects').contains id = true := by
  obtain ⟨secret, stored, selected⟩ := contains_listing_iff.1 listed
  refine contains_listing_iff.2 ⟨secret, stored, fun none => selected ?_⟩
  simp only [selectedLabels, List.map_eq_nil_iff, List.filter_eq_nil_iff, Bool.and_eq_true]
    at none ⊢
  intro entry member both
  have joined : ⟨id, secret, entry.1, entry.2⟩ ∈ joinedRows t id secret :=
    List.mem_map.2 ⟨entry, List.mem_filter.2 ⟨member, both.1⟩, rfl⟩
  exact none entry member
    ⟨both.1, weaker id secret (IdMap.get?_eq_some_iff.1 stored) _ joined both.2⟩

end Engine.Tables

/-- Whatever the codes of the compared texts tell apart, what a search finds is found rightly. -/
theorem Represents.isFound_of_search {d : Database} {v : Vault}
    (represented : Represents d.current v) {found : LabeledSecrets}
    (answered : ((Plan.single (Statement.search (Script.conditions name patterns))).perform d).1 =
      .ok found) {id : Int} (hit : found.contains id = true) :
    ∃ e, v.entries.get? id = some e ∧ e.IsFound matchesText name patterns := by
  obtain ⟨-, outcome, -⟩ := perform_search represented.readable (Script.conditions name patterns)
  rw [answered] at outcome
  have listing := outcome.resolve_right (not_limitMet_ok found)
  cases listing
  have listed := Tables.contains_listing_of_imp
    (fun id secret stored row member found => Clause.allHold_of_allFind
      (fun _ _ column _ => cell_isText represented.readable stored member column) found) hit
  rw [IdMap.contains, represented.get?_listing_conditions] at listed
  cases stored : v.entries.get? id with
  | none =>
    rw [stored] at listed
    cases listed
  | some e =>
    refine ⟨e, rfl, Vault.Entry.isFound_iff.2 fun none => ?_⟩
    rw [stored, Option.bind_some, none] at listed
    cases listed

theorem Vault.get?_listed_eq_some {v : Vault} {selects : Int → Bool} {id : Int}
    {shown : LabeledSecret} : (v.listed selects).get? id = some shown ↔
      selects id = true ∧ ∃ e, v.entries.get? id = some e ∧ e.labels ≠ [] ∧
        ⟨e.name, e.labels⟩ = shown := by
  rw [listed, IdMap.get?_filterMap]
  cases v.entries.get? id with
  | none => simp
  | some e => simp [and_assoc]

/-- All that is listed matches exactly if each selected entry with a label would be found. -/
theorem Vault.listed_matches_iff (given : patterns ≠ []) (v : Vault) {selects : Int → Bool} :
    (∀ id shown, (v.listed selects).get? id = some shown → shown.Matches name patterns) ↔
      ∀ id e, selects id = true → v.entries.get? id = some e → e.labels ≠ [] →
        e.IsFound matchesText name patterns := by
  constructor
  · intro all id e selected stored labelled
    exact (Entry.isFound_iff_matches given).2
      (all id _ (get?_listed_eq_some.2 ⟨selected, e, stored, labelled, rfl⟩))
  · intro all id shown listed
    obtain ⟨selected, e, stored, labelled, rfl⟩ := get?_listed_eq_some.1 listed
    exact (Entry.isFound_iff_matches given).1 (all id e selected stored labelled)

/-- What a listing prints of the secrets that it has found: none, or what the lookup answers. -/
theorem Represents.eq_listed {d : Database} {v : Vault} (represented : Represents d.current v)
    {found shown : LabeledSecrets}
    (looked : found.entries = [] ∧ shown = found ∨ found.entries ≠ [] ∧
      ((Operation.searchIds found.keys).perform d).1 = .ok shown) :
    shown = v.listed found.contains := by
  rcases looked with ⟨none, rfl⟩ | ⟨hits, answered⟩
  · -- To show nothing takes no lookup, which label patterns there may be.
    have given : [""] ≠ [] := List.cons_ne_nil _ _
    exact (v.shown_of_known (.inr none)).symm.trans (v.shown_of_searched given shown)
  · have given : found.keys ≠ [] := by simpa [IdMap.keys] using hits
    obtain ⟨expected, -⟩ := Operation.answers_searchIds represented.readable given
    rw [answered, represented.listing_listed, IdMap.contains_keys] at expected
    exact Except.ok.inj (expected (not_limitMet_ok shown))

theorem Script.printSecrets_eq (secrets : LabeledSecrets) (json : Bool) :
    printSecrets secrets json = print (secrets.printed json) := by
  unfold printSecrets LabeledSecrets.printed
  split
  · rfl
  · split <;> rfl

namespace Client
variable {client : Client} {d : Database} {events : List Event}

/-- A client that is to list secrets by name and labels. -/
def finding (session : Session) (name : Option String) (labels : List String) (json : Bool) :
    Client :=
  ⟨session, (Command.find name labels json).script⟩

/-- A client that has only a listing left to print has printed it. -/
theorem among_printSecrets {secrets : LabeledSecrets} {json : Bool}
    (asks : client.script = Script.printSecrets secrets json)
    (succeeded : (client.among d events).1.script.isDone = true) :
    ∃ (ops : List Operation) (later : List Event), events = ops.map .other ++ .turn :: later ∧
      (client.among d events).1.session.output =
        client.session.output ++ Utf8.encode (secrets.printed json) := by
  rw [Script.printSecrets_eq] at asks
  have waiting : client.script.isDone = false := by
    rw [asks]
    rfl
  obtain ⟨ops, later, rfl, goesOn⟩ := among_turn waiting succeeded
  obtain ⟨script, output⟩ := client.turn_print (d := d.after ops) asks
  have finished : (client.turn (d.after ops)).1.script.isOver = true := by
    rw [script]
    rfl
  refine ⟨ops, later, rfl, ?_⟩
  rw [goesOn, among_over finished, output]

variable (idle : d.inTransaction = false)
include idle

/-- A client that asks for a master key has found one. -/
theorem among_requireMasterKey {next : Unit → Script Unit}
    (asks : client.script = Script.requireMasterKey >>= next)
    (succeeded : (client.among d events).1.script.isDone = true) :
    ∃ (ops : List Operation) (later : List Event) (client' : Client),
      events = ops.map .other ++ .turn :: later ∧ client'.script = next () ∧
      client'.session.output = client.session.output ∧
      client.among d events = client'.among (d.after ops) later := by
  obtain ⟨ops, later, client', rfl, script, output, goesOn⟩ := among_asking asks succeeded
  rw [Operation.database_perform_reading (Database.idle_after idle ops) rfl] at goesOn
  refine ⟨ops, later, client', rfl, ?_, output, goesOn⟩
  rw [goesOn] at succeeded
  cases answered : (Operation.queryMasterKey.perform (d.after ops)).1 with
  | ok key =>
    rw [script, answered]
    rfl
  | error e =>
    rw [answered] at script
    cases e with
    | notFound entity => exact absurd script (not_failed succeeded)
    | _ => exact absurd script (not_failed succeeded)

/-- A client that asks for the first search by labels has found something, be it nothing. -/
theorem among_search {labels : List String} (given : labels ≠ [])
    {next : LabeledSecrets → Script Unit} (asks : client.script = Script.search name labels >>= next)
    (succeeded : (client.among d events).1.script.isDone = true) :
    ∃ (ops : List Operation) (later : List Event) (found : LabeledSecrets) (client' : Client),
      events = ops.map .other ++ .turn :: later ∧
      ((Plan.single (Statement.search (Script.conditions name labels))).perform (d.after ops)).1 =
        .ok found ∧ client'.script = next found ∧
      client'.session.output = client.session.output ∧
      client.among d events = client'.among (d.after ops) later := by
  obtain ⟨first, others, rfl⟩ := List.exists_cons_of_ne_nil given
  cases name with
  | none =>
    obtain ⟨ops, later, found, client', rfl, answered, script, output, goesOn⟩ :=
      among_store (asks : _ = Script.store (.searchColumn .label (first :: others)) >>= next)
        succeeded
    rw [Operation.database_perform_reading (Database.idle_after idle ops) rfl] at goesOn
    exact ⟨ops, later, found, client', rfl, answered, script, output, goesOn⟩
  | some name =>
    obtain ⟨ops, later, found, client', rfl, answered, script, output, goesOn⟩ :=
      among_store
        (asks : _ = Script.store (.searchLabelsAndName name (first :: others)) >>= next) succeeded
    rw [Operation.database_perform_reading (Database.idle_after idle ops) rfl] at goesOn
    exact ⟨ops, later, found, client', rfl, answered, script, output, goesOn⟩

/-- A listing by labels that succeeds has had its first search in its second turn, and in the third
it has looked up what it had found, if anything. -/
theorem among_finding {session : Session} {labels : List String} (given : labels ≠ []) {json : Bool}
    (succeeded : ((finding session name labels json).among d events).1.script.isDone = true) :
    ∃ (early before between : List Operation) (rest : List Event) (found shown : LabeledSecrets),
      events = early.map .other ++ .turn ::
        (before.map .other ++ .turn :: (between.map .other ++ .turn :: rest)) ∧
      ((Plan.single (Statement.search (Script.conditions name labels))).perform
        (d.after (early ++ before))).1 = .ok found ∧
      (found.entries = [] ∧ shown = found ∨ found.entries ≠ [] ∧
        ((Operation.searchIds found.keys).perform
          (d.after (early ++ before ++ between))).1 = .ok shown) ∧
      ((finding session name labels json).among d events).1.session.output =
        session.output ++ Utf8.encode (shown.printed json) := by
  have asks : (finding session name labels json).script =
      Script.requireMasterKey >>= fun _ => Script.find name labels json := rfl
  obtain ⟨early, events, client₁, rfl, script₁, output₁, goesOn₁⟩ :=
    among_requireMasterKey idle asks succeeded
  rw [goesOn₁] at succeeded ⊢
  have idle₁ := Database.idle_after idle early
  obtain ⟨before, events, found, client₂, rfl, searched, script₂, output₂, goesOn₂⟩ :=
    among_search idle₁ given script₁ succeeded
  rw [goesOn₂] at succeeded ⊢
  have idle₂ := Database.idle_after idle₁ before
  rw [← Database.after_append] at searched
  by_cases none : found.entries = []
  · -- Nothing is looked up, and the third turn prints.
    rw [if_pos (by simp [none])] at script₂
    obtain ⟨between, events, rfl, output⟩ := among_printSecrets script₂ succeeded
    refine ⟨early, before, between, events, found, found, rfl, searched, .inl ⟨none, rfl⟩, ?_⟩
    rw [output, output₂, output₁]
    rfl
  · rw [if_neg (by simp [none, given])] at script₂
    obtain ⟨between, events, shown, client₃, rfl, answered, script₃, output₃, goesOn₃⟩ :=
      among_store (script₂ : _ = Script.store (.searchIds found.keys) >>= _) succeeded
    rw [goesOn₃] at succeeded ⊢
    rw [← Database.after_append, ← Database.after_append] at answered
    refine ⟨early, before, between, events, found, shown, rfl, searched, ?_, ?_⟩
    · rw [List.append_assoc]
      exact .inr ⟨none, answered⟩
    · obtain ⟨-, -, -, output⟩ := among_printSecrets script₃ succeeded
      rw [output, output₃, output₂, output₁]
      rfl

end Client

/-- A listing by labels that succeeds has searched the vault in its second turn, and all that it has
found then did match. What it prints is how these secrets are in its third turn, whatever others have
done in between. So all that is printed matches exactly if each secret that has been found, and still
has a label when it is looked up, would be found again. One that would not has been undermined
between the two turns. -/
theorem printed_secrets_match_iff {session : Session} {d : Database} (reachable : d.Reachable)
    (idle : d.inTransaction = false) {name : Option String} {labels : List String}
    (given : labels ≠ []) {json : Bool} {events : List Client.Event}
    (succeeded :
      ((Client.finding session name labels json).among d events).1.script.isDone = true) :
    ∃ (early before between : List Operation) (rest : List Client.Event) (found : LabeledSecrets)
      (v v' : Vault),
      events = early.map .other ++ .turn ::
        (before.map .other ++ .turn :: (between.map .other ++ .turn :: rest)) ∧
      Represents (d.after (early ++ before)).current v ∧
      Represents (d.after (early ++ before ++ between)).current v' ∧
      (Script.search name labels).Reads (d.after (early ++ before)) (.ok found) "" ∧
      (∀ id, found.contains id = true →
        ∃ e, v.entries.get? id = some e ∧ e.IsFound matchesText name labels) ∧
      ((Client.finding session name labels json).among d events).1.session.output =
        session.output ++ Utf8.encode ((v'.listed found.contains).printed json) ∧
      ((∀ id shown, (v'.listed found.contains).get? id = some shown → shown.Matches name labels) ↔
        ∀ id e, found.contains id = true → v'.entries.get? id = some e → e.labels ≠ [] →
          e.IsFound matchesText name labels) ∧
      ∀ id shown, (v'.listed found.contains).get? id = some shown →
        ¬ shown.Matches name labels → Undermined name labels id between := by
  obtain ⟨early, before, between, rest, found, shown, same, searched, looked, output⟩ :=
    Client.among_finding idle given succeeded
  have searching := reachable.after (early ++ before)
  obtain ⟨v, represented⟩ := searching.isVault.current
  obtain ⟨v', represented', tracked⟩ := exists_tracked given searching
    (Database.idle_after idle (early ++ before)) represented between
  rw [← Database.after_append] at represented'
  obtain rfl := represented'.eq_listed looked
  have reads := Script.reads_search represented.readable name labels
  rw [searched] at reads
  have hits (id : Int) (hit : found.contains id = true) :
      ∃ e, v.entries.get? id = some e ∧ e.IsFound matchesText name labels :=
    represented.isFound_of_search searched hit
  refine ⟨early, before, between, rest, found, v, v', same, represented, represented', reads, hits,
    output, v'.listed_matches_iff given, fun id shown listed fails => ?_⟩
  obtain ⟨hit, e', stored', labelled, rfl⟩ := Vault.get?_listed_eq_some.1 listed
  obtain ⟨e, stored, isFound⟩ := hits id hit
  have becomes := tracked id e stored isFound
  rw [stored'] at becomes
  rw [← Vault.Entry.isFound_iff_matches given] at fails
  exact (becomes.isFound_or_undermined labelled).resolve_left fails

/-- Each of the three ways to undermine an entry makes a secret come out that does not match. -/
example :
    let printed (between : List Operation) :=
      ((Client.finding (.opened .mail) (some "ma*") ["w*"] true).among .mail
        (.turn :: .turn :: (between.map .other ++ [.turn, .turn]))).1.session.output
    let only (shown : LabeledSecret) :=
      Utf8.encode (LabeledSecrets.printed (IdMap.empty.insert 1 shown) true)
    printed [.renameSecret 1 "bank"] = only ⟨"bank", ["work", "home"]⟩ ∧
      printed [.deleteLabels 1 ["w*"]] = only ⟨"mail", ["home"]⟩ ∧
      printed [.deleteSecrets [1], .upsertSecret 1 "q", .insertLabel "work" 1] =
        only ⟨"", ["work"]⟩ := by
  decide +kernel

/-- While a secret is looked up, it gets one more label and another name that still matches. -/
theorem printed_secrets_match_iff_renamed :
    let s := Session.opened .mail
    let events : List Client.Event := [.turn, .turn, .other (.insertLabel "web" 1),
      .other (.renameSecret 1 "mailbox"), .turn, .turn]
    let ran := (Client.finding s (some "mail*") ["w*"] true).among .mail events
    Database.mail.Reachable ∧ Database.mail.inTransaction = false ∧ ["w*"] ≠ [] ∧
      ran.1.script.isDone = true ∧
      ran.1.session.output = Utf8.encode
        (LabeledSecrets.printed (IdMap.empty.insert 1 ⟨"mailbox", ["work", "home", "web"]⟩) true) ∧
      ∃ secrets : LabeledSecrets, ran.1.session.output = Utf8.encode (secrets.printed true) ∧
        ∀ id shown, secrets.get? id = some shown → shown.Matches (some "mail*") ["w*"] := by
  intro s events ran
  have reachable : Database.mail.Reachable := .after .fresh _
  have idle : Database.mail.inTransaction = false := by decide +kernel
  have given : ["w*"] ≠ [] := List.cons_ne_nil _ _
  have succeeded : ran.1.script.isDone = true := by decide +kernel
  have output : ran.1.session.output = Utf8.encode
      (LabeledSecrets.printed (IdMap.empty.insert 1 ⟨"mailbox", ["work", "home", "web"]⟩) true) := by
    decide +kernel
  have silent : s.output = [] := rfl
  -- From here on the session counts only by these facts.
  clear_value s
  subst ran
  obtain ⟨early, before, between, rest, found, v, v', same, -, -, -, -, prints, -, undermined⟩ :=
    printed_secrets_match_iff reachable idle given succeeded
  rw [silent, List.nil_append] at prints
  refine ⟨reachable, idle, given, succeeded, output, _, prints, fun id shown listed => ?_⟩
  by_contra fails
  -- The two operations are all that others have done between the search and the lookup.
  have both : between = [.insertLabel "web" 1, .renameSecret 1 "mailbox"] := by
    obtain ⟨-, later⟩ := Client.others_turn_inj [] same
    obtain ⟨-, later⟩ := Client.others_turn_inj [] later
    exact (Client.others_turn_inj [_, _] later).1.symm
  subst both
  cases undermined id shown listed fails with
  | renamed among tried mismatch =>
    obtain ⟨rfl, rfl⟩ : id = 1 ∧ _ = "mailbox" := by simpa using among
    cases tried
    revert mismatch
    decide +kernel
  | detached among => simp at among
  | replaced _ inTurn =>
    have deleted := inTurn.subset List.mem_cons_self
    simp at deleted

/-- The label that has been searched for is removed before the secret is looked up. -/
theorem unmatched_secret_printed :
    let events : List Client.Event :=
      [.turn, .turn, .other (.deleteLabels 1 ["work"]), .turn, .turn]
    let ran := (Client.finding (.opened .mail) none ["work"] true).among .mail events
    let printed := LabeledSecrets.printed (IdMap.empty.insert 1 ⟨"mail", ["home"]⟩) true
    Database.mail.Reachable ∧ ran.1.script.isDone = true ∧
      ran.1.session.output = Utf8.encode printed ∧
      Json.decodeSecrets printed = .ok (IdMap.empty.insert 1 ⟨"mail", ["home"]⟩) ∧
      ¬ LabeledSecret.Matches none ["work"] ⟨"mail", ["home"]⟩ := by
  intro events ran printed
  have output : ran.1.session.output = Utf8.encode printed := by decide +kernel
  have decoded : Json.decodeSecrets printed = .ok (IdMap.empty.insert 1 ⟨"mail", ["home"]⟩) := by
    decide +kernel
  refine ⟨.after .fresh _, by decide +kernel, output, decoded, ?_⟩
  rintro ⟨-, label, held, pattern, tried, matched⟩
  rw [List.mem_singleton.1 held, List.mem_singleton.1 tried] at matched
  revert matched
  decide +kernel

end SecretVault
