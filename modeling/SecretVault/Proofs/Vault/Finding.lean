import SecretVault.Proofs.Sessions
import SecretVault.Proofs.Vault.Refinement

/-!
Listings by name and labels. A listing by labels takes two searches, and the others take one; what
all of them show is told by the entries of the vault alone. Where the codes of the compared texts do
not tell their characters apart, no relation between patterns and texts explains what is shown.
-/
namespace SecretVault
open SecretVault.Engine SecretVault.Glob SecretVault.Text

/-- Whether a pattern matches a text. -/
def Glob.matchesText (pattern s : String) : Bool := matchesCodes pattern (codes s)

namespace Vault

/-- An entry that is listed if patterns select texts like this: it has a label, its name is selected
by the name pattern if there is one, and some label of it by some label pattern if there are any. -/
structure Entry.IsFound (selects : String → String → Bool) (name : Option String)
    (patterns : List String) (e : Entry) : Prop where
  labelled : e.labels ≠ []
  name : ∀ pattern ∈ name, selects pattern e.name = true
  labels : patterns ≠ [] → ∃ label ∈ e.labels, ∃ pattern ∈ patterns, selects pattern label = true

instance (selects : String → String → Bool) (name : Option String) (patterns : List String)
    (e : Entry) : Decidable (e.IsFound selects name patterns) :=
  decidable_of_iff (e.labels ≠ [] ∧ (∀ pattern ∈ name, selects pattern e.name = true) ∧
      (patterns ≠ [] → ∃ label ∈ e.labels, ∃ pattern ∈ patterns, selects pattern label = true))
    ⟨fun h => ⟨h.1, h.2.1, h.2.2⟩, fun h => ⟨h.labelled, h.name, h.labels⟩⟩

/-- The entries that are listed, each with all its labels. -/
def matching (v : Vault) (selects : String → String → Bool) (name : Option String)
    (patterns : List String) : LabeledSecrets :=
  v.entries.filterMap fun _ e =>
    if e.IsFound selects name patterns then some ⟨e.name, e.labels⟩ else none

/-- A label of an entry that a search by name and labels selects. -/
def Entry.chosen (name : Option String) (patterns : List String) (e : Entry) (label : String) :
    Bool :=
  (patterns.isEmpty || anyMatches patterns label) &&
    name.all fun pattern => matchesText pattern e.name

theorem Entry.chosen_iff {name : Option String} {patterns : List String} {e : Entry}
    {label : String} : e.chosen name patterns label = true ↔
      (patterns = [] ∨ anyMatches patterns label = true) ∧
        ∀ pattern ∈ name, matchesText pattern e.name = true := by
  simp only [chosen, Bool.and_eq_true, Bool.or_eq_true, List.isEmpty_iff, Option.all_eq_true,
    Option.mem_def]

/-- An entry is listed exactly if a label of it is selected. -/
theorem Entry.isFound_iff {name : Option String} {patterns : List String} {e : Entry} :
    e.IsFound matchesText name patterns ↔ e.labels.filter (e.chosen name patterns) ≠ [] := by
  have selected : e.labels.filter (e.chosen name patterns) ≠ [] ↔
      ∃ label ∈ e.labels, e.chosen name patterns label = true := by
    simp [List.filter_eq_nil_iff]
  simp only [selected, chosen_iff]
  constructor
  · intro isFound
    by_cases given : patterns = []
    · obtain ⟨label, others, labels⟩ := List.exists_cons_of_ne_nil isFound.labelled
      exact ⟨label, by simp [labels], .inl given, isFound.name⟩
    · obtain ⟨label, held, pattern, tried, selected⟩ := isFound.labels given
      exact ⟨label, held, .inr (List.any_eq_true.2 ⟨pattern, tried, selected⟩), isFound.name⟩
  · intro among
    obtain ⟨label, held, selected, named⟩ := among
    refine ⟨List.ne_nil_of_mem held, named, fun given => ⟨label, held, ?_⟩⟩
    exact List.any_eq_true.1 (selected.resolve_left given)

/-- What a listing shows of the secrets that its first search has found: after a search by labels
they are looked up once more, by their ids. -/
def shown (v : Vault) (labels : List String) (found : LabeledSecrets) : LabeledSecrets :=
  if labels = [] then found else v.listed found.contains

theorem contains_listed (v : Vault) {selects : Int → Bool} {id : Int} :
    (v.listed selects).contains id = true ↔ selects id = true ∧ v.labels id ≠ [] := by
  rw [IdMap.contains, listed, IdMap.get?_filterMap, labels]
  cases v.entries.get? id with
  | none => simp
  | some e => simp

theorem shown_of_searched (v : Vault) {labels : List String} (given : labels ≠ [])
    (found : LabeledSecrets) : v.shown labels found = v.listed found.contains := if_neg given

theorem shown_of_known (v : Vault) {labels : List String} {found : LabeledSecrets}
    (known : labels = [] ∨ found.entries = []) : v.shown labels found = found := by
  unfold shown
  split
  · rfl
  · rename_i given
    have empty := known.resolve_left given
    refine IdMap.ext_get? fun id => ?_
    rw [listed, IdMap.get?_filterMap]
    simp [IdMap.contains, IdMap.get?, empty]

end Vault

namespace Script

/-- The conditions of the first search. -/
def conditions : Option String → List String → List Clause
  | none, labels => [.globAny .label labels]
  | some name, [] => [.globAny .secretName [name]]
  | some name, labels => [.globAny .label labels, .globAny .secretName [name]]

theorem allHold_conditions (name : Option String) (labels : List String) (row : JoinedRow) :
    Clause.allHold (conditions name labels) row =
      ((labels.isEmpty || row.matchesAny .label labels) &&
        name.all fun pattern => row.matchesAny .secretName [pattern]) := by
  cases name with
  | none => simp [conditions, Clause.allHold, Clause.holds_globAny]
  | some name =>
    cases labels with
    | nil => simp [conditions, Clause.allHold, Clause.holds_globAny]
    | cons first others => simp [conditions, Clause.allHold, Clause.holds_globAny]

theorem tellsApart_conditions {t : Tables} (readable : t.Readable) {name : Option String}
    {labels : List String} (labelsComparable : t.Comparable labels .label)
    (nameComparable : t.Comparable name.toList .secretName) {id : Int} {secret : StoredSecret}
    (stored : (id, secret) ∈ t.secrets.entries) {row : JoinedRow}
    (member : row ∈ joinedRows t id secret) :
    ∀ clause ∈ conditions name labels, clause.TellsApart row := by
  have byLabel : (Clause.globAny .label labels).TellsApart row :=
    Clause.tellsApart_globAny readable labelsComparable stored member
  have byName : (Clause.globAny .secretName name.toList).TellsApart row :=
    Clause.tellsApart_globAny readable nameComparable stored member
  intro clause held
  cases name with
  | none => exact List.mem_singleton.1 held ▸ byLabel
  | some name =>
    cases labels with
    | nil => exact List.mem_singleton.1 held ▸ byName
    | cons first others =>
      rcases List.mem_cons.1 held with rfl | held
      · exact byLabel
      · exact List.mem_singleton.1 held ▸ byName

variable {d : Database} {v : Vault}

theorem reads_search (readable : d.current.Readable) (name : Option String)
    (labels : List String) :
    (search name labels).Reads d
      (((Plan.single (Statement.search (conditions name labels))).perform d).1.mapError .store)
      "" := by
  have unchanged := (perform_search readable (conditions name labels)).1
  cases name with
  | none =>
    cases labels with
    | nil => exact reads_store (.searchColumn .label []) unchanged
    | cons first others => exact reads_store (.searchColumn .label (first :: others)) unchanged
  | some name =>
    cases labels with
    | nil => exact reads_store (.searchColumn .secretName [name]) unchanged
    | cons first others =>
      exact reads_store (.searchLabelsAndName name (first :: others)) unchanged

/-- A first search that answers lists something, and does so in every session. -/
theorem reads_search_of_answered {s : Session} (readable : s.connection.database.current.Readable)
    {name : Option String} {labels : List String} {found : LabeledSecrets}
    (answered : (Session.carryOut (search name labels) s).1 = .ok found) :
    (search name labels).Reads s.connection.database (.ok found) "" ∧
      ∃ selects, found = s.connection.database.current.listing selects := by
  have searched := reads_search readable name labels
  rw [(searched s rfl).1] at answered
  rw [answered] at searched
  refine ⟨searched, ?_⟩
  cases performed : ((Plan.single (Statement.search (conditions name labels))).perform
      s.connection.database).1 with
  | error e =>
    rw [performed] at answered
    cases answered
  | ok listing =>
    rw [performed] at answered
    cases answered
    exact eq_listing_of_search readable performed

theorem reads_requireMasterKey (represented : Represents d.current v) :
    requireMasterKey.Reads d (v.masterKey.elim (.error .notInitialized) fun _ => .ok ()) "" := by
  have performed := Operation.perform_queryMasterKey represented
  have unchanged : (Operation.queryMasterKey.perform d).2 = d := congrArg Prod.snd performed
  have asked := reads_request .queryMasterKey unchanged
  rw [performed] at asked
  cases key : v.masterKey with
  | none =>
    rw [key] at asked
    exact asked.bind (reads_fail .notInitialized)
  | some text =>
    rw [key] at asked
    exact asked.bind (reads_done ())

/-- With a master key a listing is what its searches show. -/
theorem reads_command_of_find (represented : Represents d.current v)
    (initialized : v.masterKey ≠ none) {name : Option String} {labels : List String} {json : Bool}
    {ending : Except Failure Unit} {printed : String}
    (finds : (find name labels json).Reads d ending printed) :
    (Command.find name labels json).script.Reads d ending printed := by
  have required := reads_requireMasterKey represented
  cases key : v.masterKey with
  | none => exact absurd key initialized
  | some text =>
    rw [key] at required
    exact required.bind finds

/-- Without a master key nothing is searched. -/
theorem reads_command_of_no_key (represented : Represents d.current v)
    (missing : v.masterKey = none) (name : Option String) (labels : List String) (json : Bool) :
    (Command.find name labels json).script.Reads d (.error .notInitialized) "" := by
  have required := reads_requireMasterKey represented
  rw [missing] at required
  exact required.bind_fail _

/-- A lookup of as many ids as a statement can bind. -/
theorem reads_lookup (represented : Represents d.current v) {ids : List Int} (given : ids ≠ [])
    (few : ids.length ≤ maxParams) :
    (store (.searchIds ids)).Reads d (.ok (v.listed ids.contains)) "" := by
  obtain ⟨unchanged, -⟩ := perform_search represented.readable [.idIn .secretId ids]
  obtain ⟨answered, fitting⟩ := Operation.answers_searchIds represented.readable given
  rw [← Operation.perform_searchIds given] at unchanged
  have found := answered (fitting few)
  rw [represented.listing_listed] at found
  have looked := reads_store (.searchIds ids) unchanged
  rw [found] at looked
  exact looked

/-- After the first search the secrets that it has found are looked up, if there are any and they
are not known already, and printed. -/
theorem reads_find_of_found (represented : Represents d.current v) {name : Option String}
    {labels : List String} {found : LabeledSecrets}
    (searched : (search name labels).Reads d (.ok found) "")
    (few : labels = [] ∨ found.entries.length ≤ maxParams) (json : Bool) :
    (find name labels json).Reads d (.ok ()) ((v.shown labels found).printed json) := by
  refine searched.bind ?_
  dsimp only
  by_cases known : labels = [] ∨ found.entries = []
  · rw [if_pos (by simpa using known), v.shown_of_known known]
    exact (reads_done found).bind (reads_printSecrets found json d)
  · obtain ⟨given, hits⟩ := not_or.1 known
    have keys : found.keys ≠ [] := by simpa [IdMap.keys] using hits
    have within : found.keys.length ≤ maxParams := by
      rw [IdMap.length_keys]
      exact few.resolve_left given
    have looked := reads_lookup represented keys within
    rw [IdMap.contains_keys] at looked
    rw [if_neg (by simp [given, hits]), v.shown_of_searched given]
    exact looked.bind (reads_printSecrets _ json d)

/-- More secrets than a statement can bind are not looked up. -/
theorem reads_find_of_crowd {name : Option String} {labels : List String}
    {found : LabeledSecrets} (given : labels ≠ [])
    (searched : (search name labels).Reads d (.ok found) "")
    (many : maxParams < found.entries.length) (json : Bool) :
    (find name labels json).Reads d
      (.error (.store (.engine (Statement.tooManyIds found.keys)))) "" := by
  have hits : found.entries ≠ [] := by
    intro empty
    rw [empty] at many
    cases many
  have exceeds : maxParams < found.keys.length := by
    rwa [IdMap.length_keys]
  have performed : (Operation.searchIds found.keys).perform d =
      (.error (.engine (Statement.tooManyIds found.keys)), d) := by
    rw [Operation.perform_searchIds (by simpa [IdMap.keys] using hits)]
    exact perform_search_of_refused (Statement.withinLimits_searchIds_of_lt exceeds) d
  have unchanged : ((Operation.searchIds found.keys).perform d).2 = d :=
    congrArg Prod.snd performed
  have looked := reads_store (.searchIds found.keys) unchanged
  rw [performed] at looked
  refine searched.bind ?_
  dsimp only
  rw [if_neg (by simp [given, hits])]
  exact looked.bind_fail _

end Script

namespace Represents
variable {t : Tables} {v : Vault}

/-- What a search lists has a label. -/
theorem labels_of_listing (represented : Represents t v) {selects : JoinedRow → Bool} {id : Int}
    (listed : (t.listing selects).contains id = true) : v.labels id ≠ [] := by
  obtain ⟨secret, shows⟩ := IdMap.contains_iff.1 listed
  rw [Tables.get?_listing, Option.bind_eq_some_iff] at shows
  obtain ⟨stored, -, shows⟩ := shows
  cases labels : t.selectedLabels selects id stored with
  | nil => simp [labels] at shows
  | cons first others =>
    have among : first ∈ t.selectedLabels selects id stored := labels ▸ List.mem_cons_self
    obtain ⟨⟨labelId, label⟩, member, -⟩ := List.mem_map.1 among
    obtain ⟨attached, own⟩ := List.mem_filter.1 member
    obtain ⟨s, held, -⟩ := represented.label_of_mem attached
    rw [Bool.and_eq_true, beq_iff_eq] at own
    exact own.1 ▸ List.ne_nil_of_mem held

/-- So a lookup by ids shows all that a search has found. -/
theorem contains_listed (represented : Represents t v) (selects : JoinedRow → Bool) (id : Int) :
    (v.listed (t.listing selects).contains).contains id = (t.listing selects).contains id := by
  rw [Bool.eq_iff_iff, Vault.contains_listed]
  exact ⟨And.left, fun listed => ⟨listed, represented.labels_of_listing listed⟩⟩

/-- The first search finds exactly the entries that are listed. -/
theorem get?_listing_conditions (represented : Represents t v) (name : Option String)
    (labels : List String) (id : Int) :
    (t.listing (Clause.allHold (Script.conditions name labels))).get? id =
      (v.entries.get? id).bind fun e =>
        match e.labels.filter (e.chosen name labels) with
        | [] => none
        | labels => some ⟨e.name, labels⟩ := by
  refine represented.get?_listing _ (fun _ e => e.chosen name labels) (fun id e _ label => ?_) id
  simp only [Script.allHold_conditions, JoinedRow.matchesAny, JoinedRow.cell, Cell.codes,
    Vault.Entry.chosen, Vault.Entry.stored, Vault.anyMatches, matchesText, List.any_cons,
    List.any_nil, Bool.or_false]

/-- Whether it takes one search or two, a listing shows the same entries. -/
theorem shown_eq_matching (represented : Represents t v) (name : Option String)
    (labels : List String) :
    v.shown labels (t.listing (Clause.allHold (Script.conditions name labels))) =
      v.matching matchesText name labels := by
  have first := represented.get?_listing_conditions name labels
  refine IdMap.ext_get? fun id => ?_
  rw [Vault.matching, IdMap.get?_filterMap]
  by_cases given : labels = []
  · -- Without label patterns all labels of an entry are selected, or none.
    rw [Vault.shown, if_pos given, first]
    refine Option.bind_congr fun e _ => ?_
    by_cases isFound : e.IsFound matchesText name labels
    · have all : e.labels.filter (e.chosen name labels) = e.labels :=
        List.filter_eq_self.2 fun _ _ => Vault.Entry.chosen_iff.2 ⟨.inl given, isFound.name⟩
      rw [all, if_pos isFound]
      cases labelled : e.labels with
      | nil => exact absurd labelled isFound.labelled
      | cons label others => rfl
    · have unselected := not_not.1 (mt Vault.Entry.isFound_iff.2 isFound)
      rw [unselected, if_neg isFound]
  · -- With label patterns the entries are looked up, and all their labels with them.
    rw [v.shown_of_searched given, Vault.listed, IdMap.get?_filterMap]
    refine Option.bind_congr fun e entry => ?_
    have found : (t.listing (Clause.allHold (Script.conditions name labels))).contains id = true ↔
        e.IsFound matchesText name labels := by
      rw [IdMap.contains, first, entry, Option.bind_some, Vault.Entry.isFound_iff]
      cases e.labels.filter (e.chosen name labels) <;> simp
    by_cases isFound : e.IsFound matchesText name labels
    · rw [if_pos ⟨found.2 isFound, isFound.labelled⟩, if_pos isFound]
    · rw [if_neg fun shows => isFound (found.1 shows.1), if_neg isFound]

theorem length_shown (represented : Represents t v) (selects : JoinedRow → Bool)
    (labels : List String) :
    (v.shown labels (t.listing selects)).entries.length = (t.listing selects).entries.length := by
  unfold Vault.shown
  split
  · rfl
  · exact IdMap.length_eq_of_contains (represented.contains_listed selects)

end Represents

/-- A listing that succeeds prints exactly the secrets with a label whose name the name pattern
matches, if there is one, and that own a label which some label pattern matches, if there are any;
each comes with all its labels. That holds for one search and for two, and for `Command.listing`,
which has no patterns. In a vault with a master key a listing succeeds if its patterns are within
the limits of the engine and, where two searches are needed, one statement can bind all that the
first has found. -/
theorem find_prints_matching {s : Session} (reachable : s.connection.database.Reachable) :
    ∃ v, Represents s.connection.database.current v ∧
      ∀ (name : Option String) (labels : List String) (json : Bool),
        s.connection.database.current.Comparable labels .label →
        s.connection.database.current.Comparable name.toList .secretName →
        let matching := v.matching matchesText name labels
        let ran := Session.carryOut (Command.find name labels json).script s
        (ran.1 = .ok () → ran.2.output = s.output ++ Utf8.encode (matching.printed json)) ∧
        (v.masterKey ≠ none → Statement.Accepts (Script.conditions name labels) →
          labels = [] ∨ matching.entries.length ≤ maxParams → ran.1 = .ok ()) := by
  obtain ⟨v, represented⟩ := reachable.isVault.current
  refine ⟨v, represented, fun name labels json labelsComparable nameComparable => ?_⟩
  dsimp only
  have searched := Script.reads_search represented.readable name labels
  obtain ⟨-, outcome, accepted⟩ :=
    perform_search represented.readable (Script.conditions name labels)
  rw [listing_found fun id secret stored row member => Script.tellsApart_conditions
    represented.readable labelsComparable nameComparable stored member] at outcome accepted
  by_cases initialized : v.masterKey = none
  · obtain ⟨fails, -⟩ :=
      Script.reads_command_of_no_key represented initialized name labels json s rfl
    rw [fails]
    exact ⟨nofun, fun keyed => absurd initialized keyed⟩
  rcases outcome with found | ⟨e, isLimit, met⟩
  · rw [found] at searched
    by_cases few : labels = [] ∨
        (s.connection.database.current.listing
          (Clause.allHold (Script.conditions name labels))).entries.length ≤ maxParams
    · have finds := Script.reads_find_of_found represented searched few json
      rw [represented.shown_eq_matching] at finds
      obtain ⟨succeeds, prints, -⟩ :=
        Script.reads_command_of_find represented initialized finds s rfl
      exact ⟨fun _ => prints, fun _ _ _ => succeeds⟩
    · obtain ⟨given, many⟩ := not_or.1 few
      have finds := Script.reads_find_of_crowd given searched (Nat.lt_of_not_le many) json
      obtain ⟨fails, -⟩ := Script.reads_command_of_find represented initialized finds s rfl
      rw [fails, ← represented.shown_eq_matching, represented.length_shown]
      exact ⟨nofun, fun _ _ within => absurd within few⟩
  · rw [met] at searched
    have finds : (Script.find name labels json).Reads _ _ _ := searched.bind_fail _
    obtain ⟨fails, -⟩ := Script.reads_command_of_find represented initialized finds s rfl
    rw [fails]
    refine ⟨nofun, fun _ accepts => ?_⟩
    cases met.symm.trans (accepted accepts)

/-- A master key, and a secret with two labels. -/
def Engine.Database.mail : Database :=
  fresh.after [.insertMasterKey "k", .insertSecret "mail" "p", .insertLabel "work" 1,
    .insertLabel "home" 1]

/-- A search for one of two labels shows both of them. -/
theorem find_prints_matching_mail :
    let s := Session.opened .mail
    let ran := Session.carryOut (Command.find (some "ma*") ["h?me"] true).script s
    s.connection.database.Reachable ∧
      s.connection.database.current.Comparable ["h?me"] .label ∧
      s.connection.database.current.Comparable ["ma*"] .secretName ∧
      ∃ v, Represents s.connection.database.current v ∧ ran.1 = .ok () ∧
        ran.2.output = Utf8.encode
          ((v.matching matchesText (some "ma*") ["h?me"]).printed true) ∧
        ran.2.output = Utf8.encode
          (LabeledSecrets.printed (IdMap.empty.insert 1 ⟨"mail", ["work", "home"]⟩) true) := by
  intro s ran
  have reachable : s.connection.database.Reachable := .after .fresh _
  have labels : s.connection.database.current.Comparable ["h?me"] .label := by decide +kernel
  have name : s.connection.database.current.Comparable ["ma*"] .secretName := by decide +kernel
  have succeeds : ran.1 = .ok () := by decide +kernel
  have output : ran.2.output = Utf8.encode
      (LabeledSecrets.printed (IdMap.empty.insert 1 ⟨"mail", ["work", "home"]⟩) true) := by
    decide +kernel
  have silent : s.output = [] := rfl
  -- From here on the session counts only by these facts.
  clear_value s
  obtain ⟨v, represented, prints⟩ := find_prints_matching reachable
  have printed := (prints (some "ma*") ["h?me"] true labels name).1 succeeds
  rw [silent, List.nil_append] at printed
  exact ⟨reachable, labels, name, v, represented, succeeds, printed, output⟩

/-- A master key, and a secret with a label that begins with the replacement character. -/
def Vault.replacementLabel : Vault where
  masterKey := some "k"
  entries := IdMap.empty.insert 1 ⟨"n", "p", ["\uFFFDa"], List.nodup_singleton _⟩

def Engine.Database.replacementLabel : Database :=
  fresh.after [.insertMasterKey "k", .insertSecret "n" "p", .insertLabel "\uFFFDa" 1]

theorem represents_replacementLabel :
    Represents Database.replacementLabel.current .replacementLabel := by
  have tables : Database.replacementLabel.current =
      ⟨some (.text "k"), IdMap.empty.insert 1 ⟨.text "n", .text "p"⟩,
        IdMap.empty.insert 1 ⟨.text "\uFFFDa", 1⟩, 1, 1⟩ := by
    decide +kernel
  rw [tables]
  refine ⟨rfl, fun id => ?_, fun id => ?_⟩
  · simp only [Vault.replacementLabel, IdMap.get?_insert]
    split <;> rfl
  · simp only [Vault.labels, Vault.replacementLabel, IdMap.get?_insert]
    by_cases own : id = 1
    · subst own
      rfl
    · rw [if_neg own]
      simp [Tables.labelCells, IdMap.insert, IdMap.place, IdMap.empty, IdMap.get?, Ne.symm own]

theorem Vault.matching_replacementLabel (selects : String → String → Bool) {patterns : List String}
    (given : patterns ≠ []) :
    replacementLabel.matching selects none patterns =
      if patterns.any fun pattern => selects pattern "\uFFFDa" then
        IdMap.empty.insert 1 ⟨"n", ["\uFFFDa"]⟩
      else IdMap.empty := by
  let e : Entry := ⟨"n", "p", ["\uFFFDa"], List.nodup_singleton _⟩
  have isFound : e.IsFound selects none patterns ↔
      (patterns.any fun pattern => selects pattern "\uFFFDa") = true := by
    rw [List.any_eq_true]
    constructor
    · intro isFound
      obtain ⟨label, held, tried⟩ := isFound.labels given
      exact List.mem_singleton.1 held ▸ tried
    · intro tried
      exact ⟨List.cons_ne_nil _ _, nofun, fun _ => ⟨_, List.mem_singleton_self _, tried⟩⟩
  refine IdMap.ext_get? fun id => ?_
  rw [matching, IdMap.get?_filterMap, replacementLabel, IdMap.get?_insert]
  by_cases own : id = 1
  · rw [if_pos own, Option.bind_some]
    by_cases found : e.IsFound selects none patterns
    · rw [if_pos found, if_pos (isFound.1 found), IdMap.get?_insert, if_pos own]
    · rw [if_neg found, if_neg (mt isFound.2 found)]
      rfl
  · rw [if_neg own]
    split
    · rw [IdMap.get?_insert, if_neg own]
      rfl
    · rfl

/-- With a noncharacter in a pattern it depends on the other patterns whether a listing shows a
secret, so no relation between patterns and texts explains what listings print. -/
theorem no_relation_explains_listings :
    ¬ ∃ selects : String → String → Bool,
      ∀ (s : Session) (v : Vault), s.connection.database.Reachable →
        Represents s.connection.database.current v →
        ∀ (name : Option String) (labels : List String) (json : Bool),
          let ran := Session.carryOut (Command.find name labels json).script s
          ran.1 = .ok () →
            ran.2.output =
              s.output ++ Utf8.encode ((v.matching selects name labels).printed json) := by
  intro explained
  obtain ⟨selects, explains⟩ := explained
  let s := Session.opened .replacementLabel
  have reachable : s.connection.database.Reachable := .after .fresh _
  have represented : Represents s.connection.database.current .replacementLabel :=
    represents_replacementLabel
  let listing (patterns : List String) :=
    Session.carryOut (Command.find none patterns true).script s
  let shown (secrets : LabeledSecrets) := Utf8.encode (secrets.printed true)
  have alone : (listing ["\uFFFEa"]).1 = .ok () ∧
      (listing ["\uFFFEa"]).2.output = shown .empty := by
    decide +kernel
  have other : (listing ["*zz"]).1 = .ok () ∧ (listing ["*zz"]).2.output = shown .empty := by
    decide +kernel
  have both : (listing ["\uFFFEa", "*zz"]).1 = .ok () ∧
      (listing ["\uFFFEa", "*zz"]).2.output =
        shown (IdMap.empty.insert 1 ⟨"n", ["\uFFFDa"]⟩) := by
    decide +kernel
  have silent : s.output = [] := rfl
  clear_value s
  replace alone := alone.2.symm.trans (explains s _ reachable represented none _ true alone.1)
  replace other := other.2.symm.trans (explains s _ reachable represented none _ true other.1)
  replace both := both.2.symm.trans (explains s _ reachable represented none _ true both.1)
  rw [silent, List.nil_append, Vault.matching_replacementLabel selects (by simp)]
    at alone other both
  simp only [List.any_cons, List.any_nil, Bool.or_false] at alone other both
  have differ : shown (IdMap.empty.insert 1 ⟨"n", ["\uFFFDa"]⟩) ≠ shown .empty := by decide +kernel
  have first : selects "\uFFFEa" "\uFFFDa" = false := by
    by_contra selected
    rw [if_pos (by simpa using selected)] at alone
    exact differ alone.symm
  have second : selects "*zz" "\uFFFDa" = false := by
    by_contra selected
    rw [if_pos (by simpa using selected)] at other
    exact differ other.symm
  rw [first, second] at both
  exact differ both

end SecretVault
