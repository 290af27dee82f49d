import SecretVault.Proofs.Limits
import SecretVault.Proofs.Performing
import SecretVault.Proofs.Search.Index
import SecretVault.Proofs.Search.Reading

/-!
Searches by operation. Each of the three kinds of search answers the listing of the rows that its
arguments select, where the codes of the compared texts tell their characters apart. Where they do
not, no relation between patterns and labels explains what is found.
-/
namespace SecretVault
open SecretVault.Engine SecretVault.Glob SecretVault.Text

/-- Whether some pattern matches the row in a column. -/
def Engine.JoinedRow.matchesAny (row : JoinedRow) (column : Column) (patterns : List String) :
    Bool :=
  patterns.any fun pattern => matchesCodes pattern (row.cell column).codes

/-- Codes tell the patterns apart from what a search compares them with in a column. Nothing is
asked of the columns that hold ids. -/
def Engine.Tables.Comparable (t : Tables) (patterns : List String) : Column → Prop
  | .label => ∀ entry ∈ t.labels.entries, ∀ p ∈ patterns, Apart p entry.2.name.shown
  | .secretName => ∀ entry ∈ t.secrets.entries, ∀ p ∈ patterns, Apart p entry.2.name.shown
  | .secretId | .labelSecretId => True

instance (t : Tables) (patterns : List String) : (column : Column) →
    Decidable (t.Comparable patterns column)
  | .label => inferInstanceAs
      (Decidable (∀ entry ∈ t.labels.entries, ∀ p ∈ patterns, Apart p entry.2.name.shown))
  | .secretName => inferInstanceAs
      (Decidable (∀ entry ∈ t.secrets.entries, ∀ p ∈ patterns, Apart p entry.2.name.shown))
  | .secretId | .labelSecretId => inferInstanceAs (Decidable True)

namespace Clause

theorem holds_globAny (column : Column) (patterns : List String) (row : JoinedRow) :
    (globAny column patterns).holds row =
      (patterns.isEmpty || row.matchesAny column patterns) := by
  cases patterns <;> rfl

theorem holds_idIn_secretId (ids : List Int) (row : JoinedRow) :
    (idIn .secretId ids).holds row = (ids.isEmpty || ids.contains row.secretId) := by
  have decimal (id : Int) :
      (row.cell .secretId == .text (String.ofList (Decimal.ofInt id))) = (row.secretId == id) := by
    rw [Bool.eq_iff_iff, beq_iff_eq, beq_iff_eq, JoinedRow.cell, Cell.text.injEq]
    constructor
    · intro same
      exact Decimal.ofInt_injective (by simpa using congrArg String.toList same)
    · intro same
      rw [same]
  cases ids with
  | nil => rfl
  | cons first others =>
    simp only [idIn, holds, decimal, List.isEmpty_cons, Bool.false_or, List.contains_eq_any_beq]

theorem allHold_globAny (column : Column) (patterns : List String) :
    allHold [.globAny column patterns] =
      fun row => patterns.isEmpty || row.matchesAny column patterns := by
  funext row
  simp [allHold, holds_globAny]

theorem allHold_idIn {ids : List Int} (given : ids ≠ []) :
    allHold [.idIn .secretId ids] = fun row => ids.contains row.secretId := by
  funext row
  simp [allHold, holds_idIn_secretId, given]

theorem allHold_labelsAndName {labels : List String} (given : labels ≠ []) (name : String) :
    allHold [.globAny .label labels, .globAny .secretName [name]] =
      fun row => row.matchesAny .label labels && row.matchesAny .secretName [name] := by
  funext row
  simp [allHold, holds_globAny, List.isEmpty_eq_false_iff.2 given]

theorem tellsApart_globAny {t : Tables} (readable : t.Readable) {column : Column}
    {patterns : List String} (comparable : t.Comparable patterns column) {id : Int}
    {secret : StoredSecret} (stored : (id, secret) ∈ t.secrets.entries) {row : JoinedRow}
    (member : row ∈ joinedRows t id secret) : (globAny column patterns).TellsApart row := by
  obtain ⟨-, sameSecret, -, labelStored⟩ := mem_joinedRows member
  cases patterns with
  | nil => trivial
  | cons first others =>
    intro isText
    cases column with
    | label =>
      have name := (readable.labelNames _ labelStored).eq_text_shown
      exact ⟨_, name, comparable _ labelStored⟩
    | secretName =>
      have name := (readable.secretNames _ stored).eq_text_shown
      exact ⟨_, by rw [JoinedRow.cell, sameSecret]; exact name, comparable _ stored⟩
    | secretId => cases isText
    | labelSecretId => cases isText

theorem tellsApart_idIn (column : Column) (ids : List Int) (row : JoinedRow) :
    (idIn column ids).TellsApart row := by
  cases ids <;> trivial

end Clause

namespace Engine

/-- Where codes tell characters apart, exactly the rows that satisfy the conditions are found. -/
theorem listing_found {t : Tables} {clauses : List Clause}
    (apart : ∀ id secret, (id, secret) ∈ t.secrets.entries →
      ∀ row ∈ joinedRows t id secret, ∀ clause ∈ clauses, clause.TellsApart row) :
    t.listing (finds clauses) = t.listing (Clause.allHold clauses) :=
  Tables.listing_congr fun id secret found row member =>
    finds_eq_allHold (apart id secret (IdMap.get?_eq_some_iff.1 found) row member)

/-- A search that is refused at a limit changes nothing. -/
theorem perform_search_of_refused {clauses : List Clause} {e : Error}
    (refused : Statement.withinLimits (Statement.searchQuery clauses) true = .error e)
    (d : Database) :
    (Plan.single (Statement.search clauses)).perform d = (.error (.ofEngine e), d) := by
  have change := Statement.change_search clauses d.current
  rw [refused] at change
  rw [Plan.single, Plan.perform_send_of_error change, (Statement.isLimit_of_withinLimits refused).2]
  rfl

/-- The statement of a search changes nothing and answers the listing of the rows that it finds, unless
a limit stands in the way. -/
theorem perform_search {d : Database} (readable : d.current.Readable) (clauses : List Clause) :
    let performed := (Plan.single (Statement.search clauses)).perform d
    let found := d.current.listing (finds clauses)
    performed.2 = d ∧ (performed.1 = .ok found ∨ LimitMet performed.1) ∧
      (Statement.Accepts clauses → performed.1 = .ok found) := by
  dsimp only
  cases limits : Statement.withinLimits (Statement.searchQuery clauses) true with
  | error e =>
    rw [perform_search_of_refused limits]
    refine ⟨rfl, .inr (limitMet_ofEngine (Statement.isLimit_of_withinLimits limits).1),
      fun accepted => ?_⟩
    cases limits.symm.trans accepted.1
  | ok =>
    have change := Statement.change_search clauses d.current
    rw [limits] at change
    rcases search_selects readable clauses with found | ⟨long, met⟩
    · replace change := change.trans (congrArg _ found)
      rw [Plan.single, Plan.perform_send_of_ok change]
      exact ⟨Database.put_current d, .inl rfl, fun _ => rfl⟩
    · replace change := change.trans (congrArg _ met)
      rw [Plan.single, Plan.perform_send_of_error change]
      exact ⟨rfl, .inr ⟨.patternTooLong, rfl, rfl⟩, fun accepted => absurd long accepted.2⟩

/-- A search that answers, whatever its conditions, answers a listing. -/
theorem eq_listing_of_search {d : Database} (readable : d.current.Readable)
    {clauses : List Clause} {found : LabeledSecrets}
    (answered : ((Plan.single (Statement.search clauses)).perform d).1 = .ok found) :
    ∃ selects, found = d.current.listing selects := by
  obtain ⟨-, outcome, -⟩ := perform_search readable clauses
  rw [answered] at outcome
  exact ⟨_, outcome.elim Except.ok.inj fun limit => absurd limit (not_limitMet_ok found)⟩

end Engine
namespace Operation

theorem perform_searchColumn (column : Column) (patterns : List String) (d : Database) :
    (searchColumn column patterns).perform d =
      (Plan.single (Statement.search [.globAny column patterns])).perform d := rfl

theorem perform_searchIds {ids : List Int} (given : ids ≠ []) (d : Database) :
    (searchIds ids).perform d =
      (Plan.single (Statement.search [.idIn .secretId ids])).perform d := by
  have accepted : (searchIds ids).refusal? = none := by simp [refusal?, given]
  simp only [perform, accepted]
  rfl

theorem perform_searchLabelsAndName {labels : List String} (given : labels ≠ []) (name : String)
    (d : Database) :
    (searchLabelsAndName name labels).perform d =
      (Plan.single (Statement.search
        [.globAny .label labels, .globAny .secretName [name]])).perform d := by
  have accepted : (searchLabelsAndName name labels).refusal? = none := by simp [refusal?, given]
  simp only [perform, accepted]
  rfl

theorem answers_searchColumn {d : Database} (readable : d.current.Readable) {column : Column}
    {patterns : List String} (comparable : d.current.Comparable patterns column) :
    (searchColumn column patterns).Answers d.current ((searchColumn column patterns).perform d).1
      (d.current.listing fun row => patterns.isEmpty || row.matchesAny column patterns) := by
  obtain ⟨-, answered, accepted⟩ := perform_search readable [.globAny column patterns]
  have found := @listing_found d.current [.globAny column patterns] (by
    intro id secret stored row member clause held
    rw [List.mem_singleton.1 held]
    exact Clause.tellsApart_globAny readable comparable stored member)
  rw [found, Clause.allHold_globAny] at answered accepted
  exact answers_of answered fun fits => accepted (Statement.accepts_searchColumn fits)

theorem answers_searchIds {d : Database} (readable : d.current.Readable) {ids : List Int}
    (given : ids ≠ []) :
    (searchIds ids).Answers d.current ((searchIds ids).perform d).1
      (d.current.listing fun row => ids.contains row.secretId) := by
  obtain ⟨-, answered, accepted⟩ := perform_search readable [.idIn .secretId ids]
  have found := @listing_found d.current [.idIn .secretId ids] (by
    intro id secret stored row member clause held
    rw [List.mem_singleton.1 held]
    exact Clause.tellsApart_idIn .secretId ids row)
  rw [found, Clause.allHold_idIn given] at answered accepted
  rw [perform_searchIds given]
  exact answers_of answered fun fits => accepted (Statement.accepts_searchIds fits)

theorem answers_searchLabelsAndName {d : Database} (readable : d.current.Readable)
    {name : String} {labels : List String} (given : labels ≠ [])
    (labelsComparable : d.current.Comparable labels .label)
    (nameComparable : d.current.Comparable [name] .secretName) :
    (searchLabelsAndName name labels).Answers d.current
      ((searchLabelsAndName name labels).perform d).1
      (d.current.listing fun row =>
        row.matchesAny .label labels && row.matchesAny .secretName [name]) := by
  obtain ⟨-, answered, accepted⟩ := perform_search readable
    [.globAny .label labels, .globAny .secretName [name]]
  have found := @listing_found d.current
    [.globAny .label labels, .globAny .secretName [name]] (by
      intro id secret stored row member clause held
      rcases List.mem_cons.1 held with rfl | held
      · exact Clause.tellsApart_globAny readable labelsComparable stored member
      · rw [List.mem_singleton.1 held]
        exact Clause.tellsApart_globAny readable nameComparable stored member)
  rw [found, Clause.allHold_labelsAndName given] at answered accepted
  rw [perform_searchLabelsAndName given]
  exact answers_of answered fun fits => accepted (Statement.accepts_searchLabelsAndName fits)

end Operation

/-- Under a live token each search answers its reference on readable tables: by a column, the rows
that some pattern matches there, or all rows without patterns; by ids, the rows of the listed
secrets; by labels and name, the rows that some label pattern and the name pattern match. -/
theorem searches_answer_listings (schedule : Schedule) (token : Token) (c : Connection)
    (readable : c.database.current.Readable) :
    (∀ column patterns, (Operation.searchColumn column patterns).EndsLive schedule token c →
      c.database.current.Comparable patterns column →
      (Operation.searchColumn column patterns).Answers c.database.current
        ((Operation.searchColumn column patterns).run schedule token c).1
        (c.database.current.listing fun row =>
          patterns.isEmpty || row.matchesAny column patterns)) ∧
    (∀ ids, (Operation.searchIds ids).EndsLive schedule token c → ids ≠ [] →
      (Operation.searchIds ids).Answers c.database.current
        ((Operation.searchIds ids).run schedule token c).1
        (c.database.current.listing fun row => ids.contains row.secretId)) ∧
    ∀ name labels, (Operation.searchLabelsAndName name labels).EndsLive schedule token c →
      labels ≠ [] → c.database.current.Comparable labels .label →
      c.database.current.Comparable [name] .secretName →
      (Operation.searchLabelsAndName name labels).Answers c.database.current
        ((Operation.searchLabelsAndName name labels).run schedule token c).1
        (c.database.current.listing fun row =>
          row.matchesAny .label labels && row.matchesAny .secretName [name]) := by
  refine ⟨fun column patterns live comparable => ?_, fun ids live given => ?_,
    fun name labels live given labelsComparable nameComparable => ?_⟩
  · rw [(Operation.run_of_live live).1]
    exact Operation.answers_searchColumn readable comparable
  · rw [(Operation.run_of_live live).1]
    exact Operation.answers_searchIds readable given
  · rw [(Operation.run_of_live live).1]
    exact Operation.answers_searchLabelsAndName readable given labelsComparable nameComparable

/-- Two secrets, the first with two labels and the second with one of the same name. -/
def Engine.Tables.mailAndBank : Tables where
  masterKey := some (.text "key")
  secrets := (IdMap.empty.insert 1 ⟨.text "mail", .text "p"⟩).insert 2 ⟨.text "bank", .text "q"⟩
  labels :=
    ((IdMap.empty.insert 1 ⟨.text "work", 1⟩).insert 2 ⟨.text "home", 1⟩).insert 3 ⟨.text "work", 2⟩
  secretCount := 2
  labelCount := 3

theorem searches_answer_listings_mailAndBank :
    Tables.mailAndBank.Readable ∧
      Tables.mailAndBank.Comparable ["w*", "h?me"] .label ∧
      Tables.mailAndBank.Comparable ["ma*"] .secretName ∧
      ((Operation.searchLabelsAndName "ma*" ["w*", "h?me"]).run (fun _ => none) 0
        (.opened (.ofTables .mailAndBank))).1.map (·.entries) =
          .ok [(1, ⟨"mail", ["work", "home"]⟩)] := by
  have readable : Tables.mailAndBank.Readable := by decide +kernel
  have labels : Tables.mailAndBank.Comparable ["w*", "h?me"] .label := by decide +kernel
  have name : Tables.mailAndBank.Comparable ["ma*"] .secretName := by decide +kernel
  obtain ⟨answered, fitting⟩ := (searches_answer_listings (fun _ => none) 0
    (.opened (.ofTables .mailAndBank)) readable).2.2 "ma*" ["w*", "h?me"] rfl (by simp) labels name
  have listed : (Tables.mailAndBank.listing fun row =>
      row.matchesAny .label ["w*", "h?me"] && row.matchesAny .secretName ["ma*"]).entries =
        [(1, ⟨"mail", ["work", "home"]⟩)] := by
    decide +kernel
  refine ⟨readable, labels, name, ?_⟩
  rw [answered (fitting (by decide +kernel))]
  exact congrArg Except.ok listed

/-- One secret with one label, which begins with the replacement character. -/
def Engine.Tables.replacementLabel : Tables where
  masterKey := none
  secrets := IdMap.empty.insert 1 ⟨.text "n", .text "p"⟩
  labels := IdMap.empty.insert 1 ⟨.text "\uFFFDa", 1⟩
  secretCount := 1
  labelCount := 1

/-- With a noncharacter in a pattern it depends on the other patterns of a search whether a label is
found: alone the pattern guides the search past the label, together with a pattern that begins with
a wildcard it matches. So no relation between patterns and labels explains what searches find. -/
theorem no_relation_explains_searches :
    ¬ ∃ selects : String → String → Prop, ∀ (t : Tables) (patterns : List String),
      t.Readable → patterns ≠ [] → ∀ found,
        ((Operation.searchColumn .label patterns).run (fun _ => none) 0
          (.opened (.ofTables t))).1 = .ok found →
        ∀ id, found.contains id = true ↔ t.secrets.contains id = true ∧
          ∃ entry ∈ t.labels.entries, entry.2.secretId = id ∧
            ∃ pattern ∈ patterns, selects pattern entry.2.name.shown := by
  intro explained
  obtain ⟨selects, explains⟩ := explained
  have readable : Tables.replacementLabel.Readable := by decide +kernel
  have alone := explains .replacementLabel ["\uFFFEa"] readable (by simp) IdMap.empty
    (by decide +kernel) 1
  have other := explains .replacementLabel ["*zz"] readable (by simp) IdMap.empty
    (by decide +kernel) 1
  have both := explains .replacementLabel ["\uFFFEa", "*zz"] readable (by simp)
    (IdMap.empty.insert 1 ⟨"n", ["\uFFFDa"]⟩) (by decide +kernel) 1
  obtain ⟨stored, entry, member, owner, pattern, tried, selected⟩ := both.1 rfl
  rcases List.mem_cons.1 tried with rfl | tried
  · exact absurd (alone.2 ⟨stored, entry, member, owner, _, by simp, selected⟩) (by decide)
  · exact absurd (other.2 ⟨stored, entry, member, owner, pattern, tried, selected⟩) (by decide)

end SecretVault
