import SecretVault.Proofs.LabelRows
import SecretVault.Proofs.Search.Reference

/-!
Deleting labels after a search for them. What the search lists under a secret is what deleting by
the same patterns removes from it, and nothing else changes. The two are different statements: the
search may go through an index, the deletion tests each label of the secret. So they agree where the
search does not, and where every label that is matched begins with the text before the first wildcard
of a pattern that matches it.
-/
namespace SecretVault
open SecretVault.Engine SecretVault.Glob SecretVault.Text

/-- The labels listed under an id, none if it is not there. -/
def LabeledSecrets.labelsOf (found : LabeledSecrets) (id : Int) : List String :=
  (found.get? id).elim [] LabeledSecret.labels

/-- Deleting labels that answers removes those of the secret that some pattern matches. -/
theorem current_of_deleteLabels {id : Int} {patterns : List String} {schedule : Schedule}
    {token : Token} {c : Connection} {removed : Nat} (given : patterns ≠ [])
    (answered : ((Operation.deleteLabels id patterns).run schedule token c).1 = .ok removed) :
    (removed, ((Operation.deleteLabels id patterns).run schedule token c).2.database.current) =
      c.database.current.deleteLabels fun _ label =>
        label.secretId == id && label.name.matchesAny patterns := by
  have accepted : (Operation.deleteLabels id patterns).refusal? = none := by
    simp [Operation.refusal?, given]
  have performed := Operation.perform_of_run answered
  rw [Operation.perform, accepted] at performed
  rcases Statement.change_deleteLabels_cases c.database.current id given with
    ⟨e, failed, -⟩ | changed
  · rw [Operation.plan, Plan.single, Plan.perform_send_of_error failed] at performed
    cases performed
  · rw [Operation.plan, Plan.single, Plan.perform_send_of_ok changed] at performed
    obtain ⟨count, database⟩ := Prod.mk.inj performed
    rw [← database, Database.current_put, ← Except.ok.inj count]
    rfl

namespace Engine
variable {t t' : Tables}

theorem sequence_isOk_iff {α : Type} {results : List (Except Error α)} :
    (∃ values, sequence results = .ok values) ↔ ∀ e, .error e ∉ results := by
  induction results with
  | nil => simp
  | cons result rest ih =>
    rw [sequence_cons]
    cases result with
    | error e =>
      refine iff_of_false ?_ fun noError => noError e List.mem_cons_self
      rintro ⟨values, equal⟩
      cases equal
    | ok value =>
      simp only [List.mem_cons, reduceCtorEq, false_or, ← ih]
      constructor
      · rintro ⟨values, equal⟩
        cases later : sequence rest with
        | error e =>
          rw [later] at equal
          cases equal
        | ok others => exact ⟨others, rfl⟩
      · rintro ⟨others, later⟩
        exact ⟨value :: others, by rw [later]; rfl⟩

/-- Tables with the same secrets and some of the labels. -/
structure Tables.FewerLabels (t t' : Tables) : Prop where
  secrets : t'.secrets = t.secrets
  labels : t'.labels.entries ⊆ t.labels.entries

theorem error_mem_selectRows {test : JoinedRow → Except Error Bool} {rows : List JoinedRow}
    {e : Error} : .error e ∈ selectRows test rows ↔ ∃ row ∈ rows, test row = .error e := by
  simp only [selectRows, List.mem_filterMap]
  refine exists_congr fun row => and_congr_right fun _ => ?_
  cases test row with
  | error cause => simp
  | ok accepted => cases accepted <;> simp

theorem joinedRows_subset (fewer : t.FewerLabels t') (id : Int) (secret : StoredSecret) :
    joinedRows t' id secret ⊆ joinedRows t id secret := by
  intro row member
  obtain ⟨entry, held, rfl⟩ := List.mem_map.1 member
  obtain ⟨stored, own⟩ := List.mem_filter.1 held
  exact List.mem_map.2 ⟨entry, List.mem_filter.2 ⟨fewer.labels stored, own⟩, rfl⟩

/-- With fewer labels a search meets no new error. -/
theorem error_mem_select_of_fewer (fewer : t.FewerLabels t') {clauses : List Clause} {e : Error}
    (met : .error e ∈ select t' clauses) : .error e ∈ select t clauses := by
  have rowsAmong (id : Int) (secret : StoredSecret) (test : JoinedRow → Except Error Bool)
      (met : .error e ∈ selectRows test (joinedRows t' id secret)) :
      .error e ∈ selectRows test (joinedRows t id secret) := by
    obtain ⟨row, tested, failed⟩ := error_mem_selectRows.1 met
    exact error_mem_selectRows.2 ⟨row, joinedRows_subset fewer id secret tested, failed⟩
  obtain ⟨entry, stored, met⟩ := List.mem_flatMap.1 met
  refine List.mem_flatMap.2 ⟨entry, fewer.secrets ▸ stored, ?_⟩
  unfold visitSecret at met ⊢
  dsimp only at met ⊢
  split at met
  · rename_i labelFirst
    rw [if_pos labelFirst]
    exact rowsAmong _ _ _ met
  · rename_i notLabelFirst
    rw [if_neg notLabelFirst]
    split at met
    · rename_i cause tested
      simpa only [tested] using met
    · cases met
    · rename_i tested
      simpa only [tested] using rowsAmong _ _ _ met

theorem Tables.Readable.of_fewer (readable : t.Readable) (fewer : t.FewerLabels t') :
    t'.Readable where
  secretNames := fewer.secrets ▸ readable.secretNames
  labelNames := fun entry stored => readable.labelNames entry (fewer.labels stored)

/-- A search that answers still does with fewer labels. -/
theorem search_of_fewer (readable : t.Readable) (fewer : t.FewerLabels t') {clauses : List Clause}
    {found : LabeledSecrets} (answered : Engine.search t clauses = .ok found) :
    Engine.search t' clauses = .ok (t'.listing (finds clauses)) := by
  have noError : ∀ e, .error e ∉ select t clauses := by
    rw [← sequence_isOk_iff]
    rw [Engine.search, searchRows_eq readable] at answered
    cases selected : sequence (select t clauses) with
    | error e =>
      rw [selected] at answered
      cases answered
    | ok rows => exact ⟨rows, rfl⟩
  obtain ⟨rows, selected⟩ := sequence_isOk_iff.2 fun e met =>
    noError e (error_mem_select_of_fewer fewer met)
  refine (search_selects (readable.of_fewer fewer) clauses).elim id fun refused => ?_
  rw [Engine.search, searchRows_eq (readable.of_fewer fewer), selected] at refused
  cases refused.2

/-- A search answers what is found in the tables, if it is within the limits, and changes nothing. -/
theorem perform_search_eq_ok_iff {d : Database} {clauses : List Clause} {found : LabeledSecrets} :
    (Plan.single (Statement.search clauses)).perform d = (.ok found, d) ↔
      Statement.withinLimits (Statement.searchQuery clauses) true = .ok () ∧
        Engine.search d.current clauses = .ok found := by
  have change := Statement.change_search clauses d.current
  cases limits : Statement.withinLimits (Statement.searchQuery clauses) true with
  | error e =>
    rw [perform_search_of_refused limits]
    simp
  | ok =>
    rw [limits] at change
    cases searched : Engine.search d.current clauses with
    | error e =>
      replace change := change.trans (congrArg _ searched)
      rw [Plan.single, Plan.perform_send_of_error change]
      simp
    | ok answer =>
      replace change := change.trans (congrArg _ searched)
      rw [Plan.single, Plan.perform_send_of_ok change, Database.put_current]
      simp [Plan.perform]

end Engine

/-- Every matched label of the secret begins with the text before the first wildcard of a pattern that
matches it. -/
def Engine.Tables.Begun (t : Tables) (id : Int) (patterns : List String) : Prop :=
  ∀ entry ∈ t.labels.entries, entry.2.secretId = id → entry.2.name.matchesAny patterns = true →
    ∃ pattern ∈ patterns, literalText pattern <+: entry.2.name.shown.toList ∧
      matchesCodes pattern entry.2.name.codes = true

instance (t : Tables) (id : Int) (patterns : List String) : Decidable (t.Begun id patterns) :=
  inferInstanceAs (Decidable (∀ entry ∈ t.labels.entries, entry.2.secretId = id →
    entry.2.name.matchesAny patterns = true →
      ∃ pattern ∈ patterns, literalText pattern <+: entry.2.name.shown.toList ∧
        matchesCodes pattern entry.2.name.codes = true))

theorem labelsOf_listing (t : Tables) (selects : JoinedRow → Bool) (id : Int) :
    (t.listing selects).labelsOf id =
      (t.secrets.get? id).elim [] fun secret => t.selectedLabels selects id secret := by
  rw [LabeledSecrets.labelsOf, Tables.get?_listing]
  cases t.secrets.get? id with
  | none => rfl
  | some secret =>
    simp only [Option.bind_some, Option.elim_some]
    cases t.selectedLabels selects id secret <;> rfl

/-- What a search by label patterns finds, some pattern matches. -/
theorem matchesAny_of_finds {patterns : List String} (given : patterns ≠ []) {row : JoinedRow}
    (isText : row.label.name.IsText) (found : finds [.globAny .label patterns] row = true) :
    row.label.name.matchesAny patterns = true := by
  have held : Clause.allHold [.globAny .label patterns] row = true := by
    refine Clause.allHold_of_allFind (fun clause member column isColumn => ?_) found
    obtain ⟨first, others, rfl⟩ := List.exists_cons_of_ne_nil given
    rw [List.mem_singleton.1 member] at isColumn
    cases isColumn
    exact isText
  simp only [Clause.allHold_globAny, List.isEmpty_eq_false_iff.2 given, Bool.false_or] at held
  exact held

/-- A search goes through the index of the labels only if every pattern begins with literal text. -/
theorem literal_of_guide {patterns : List String}
    (guided : guide? [.globAny .label patterns] = some (.globAny .label patterns)) :
    ∀ pattern ∈ patterns, literalText pattern ≠ [] := by
  intro pattern tried nothing
  obtain ⟨first, others, rfl⟩ := List.exists_cons_of_ne_nil (List.ne_nil_of_mem tried)
  have usable := (mem_of_guide guided).2
  simp only [Clause.globAny, Clause.usesIndex, Bool.and_eq_true, List.all_eq_true] at usable
  have narrow := usable.1 pattern tried
  simp [Clause.narrows, nothing] at narrow

/-- A label of the secret is found exactly if some pattern matches it. -/
theorem finds_label_iff {t : Tables} (readable : t.Readable) {id : Int} {patterns : List String}
    (given : patterns ≠ []) (begun : (∀ p ∈ patterns, literalText p ≠ []) → t.Begun id patterns)
    {entry : Int × StoredLabel} (member : entry ∈ t.labels.entries) (own : entry.2.secretId = id)
    (secret : StoredSecret) :
    finds [.globAny .label patterns] ⟨id, secret, entry.1, entry.2⟩ =
      entry.2.name.matchesAny patterns := by
  have isText := readable.labelNames entry member
  rw [Bool.eq_iff_iff]
  refine ⟨matchesAny_of_finds given isText, fun matched => ?_⟩
  obtain ⟨first, others, rfl⟩ := List.exists_cons_of_ne_nil given
  let row : JoinedRow := ⟨id, secret, entry.1, entry.2⟩
  have cell : row.cell .label = .text entry.2.name.shown := isText.eq_text_shown
  simp only [finds, Clause.allFind, List.all_cons, List.all_nil, Bool.and_true, Clause.finds]
  split
  · rename_i guided
    obtain ⟨pattern, tried, starts, isMatch⟩ :=
      begun (literal_of_guide guided) entry member own matched
    exact (Clause.guidesTo_iff_of_text cell first others).2
      ⟨pattern, tried, (Clause.visits_iff_isPrefix rfl cell pattern).2 starts, isMatch⟩
  · exact matched

/-- A search by label patterns lists the labels of the secret that some pattern matches. -/
theorem labelsOf_searchColumn {t : Tables} (readable : t.Readable) {id : Int}
    {patterns : List String} (given : patterns ≠ [])
    (owned : ∀ label ∈ t.labels.values, t.secrets.contains label.secretId = true)
    (begun : (∀ p ∈ patterns, literalText p ≠ []) → t.Begun id patterns) :
    (t.listing (finds [.globAny .label patterns])).labelsOf id =
      (t.labels.entries.filter fun entry =>
        entry.2.secretId == id && entry.2.name.matchesAny patterns).map (·.2.name.shown) := by
  rw [labelsOf_listing]
  cases stored : t.secrets.get? id with
  | none =>
    -- No label belongs to a secret that is not there.
    refine (congrArg (List.map _) (List.filter_eq_nil_iff.2 fun entry member selected => ?_)).symm
    have own := beq_iff_eq.1 (Bool.and_eq_true_iff.1 selected).1
    have there := owned entry.2 (List.mem_map.2 ⟨entry, member, rfl⟩)
    rw [own, IdMap.contains, stored] at there
    cases there
  | some secret =>
    refine congrArg (List.map _) (List.filter_congr fun entry member => ?_)
    cases own : entry.2.secretId == id with
    | false => rfl
    | true => exact finds_label_iff readable given begun member (beq_iff_eq.1 own) secret

/-- What deleting labels leaves, told by the labels that were listed: the labels of the secret with a
listed name are gone, and all else is as it was. -/
structure Engine.Tables.LosesLabels (t : Tables) (id : Int) (names : List String) (t' : Tables) :
    Prop where
  masterKey : t'.masterKey = t.masterKey
  secrets : t'.secrets = t.secrets
  secretCount : t'.secretCount = t.secretCount
  labelCount : t'.labelCount = t.labelCount
  labels : t'.labels =
    t.labels.filter fun _ label => !(label.secretId == id && names.contains label.name.shown)

section Deleted
variable {t : Tables} (readable : t.Readable) {id : Int} {patterns : List String}

/-- The label table without those of the secret that some pattern matches. -/
def Engine.Tables.without (t : Tables) (id : Int) (patterns : List String) : Tables :=
  (t.deleteLabels fun _ label => label.secretId == id && label.name.matchesAny patterns).2

theorem fewerLabels_without (t : Tables) (id : Int) (patterns : List String) :
    t.FewerLabels (t.without id patterns) where
  secrets := rfl
  labels := fun _ member => (Tables.mem_labels_deleteLabels.1 member).1

include readable

/-- Under one secret, a name is listed exactly if some pattern matches it. -/
theorem contains_matched {entry : Int × StoredLabel} (member : entry ∈ t.labels.entries)
    (own : entry.2.secretId = id) :
    ((t.labels.entries.filter fun entry => entry.2.secretId == id &&
        entry.2.name.matchesAny patterns).map (·.2.name.shown)).contains entry.2.name.shown =
      entry.2.name.matchesAny patterns := by
  rw [Bool.eq_iff_iff, List.contains_iff_mem, List.mem_map]
  constructor
  · rintro ⟨other, held, same⟩
    obtain ⟨stored, selected⟩ := List.mem_filter.1 held
    have sameName : other.2.name = entry.2.name := by
      rw [(readable.labelNames other stored).eq_text_shown, same,
        ← (readable.labelNames entry member).eq_text_shown]
    rw [← sameName]
    exact (Bool.and_eq_true_iff.1 selected).2
  · intro matched
    exact ⟨entry, List.mem_filter.2 ⟨member, by simp [own, matched]⟩, rfl⟩

theorem losesLabels_without {names : List String}
    (listed : names = (t.labels.entries.filter fun entry =>
      entry.2.secretId == id && entry.2.name.matchesAny patterns).map (·.2.name.shown)) :
    t.LosesLabels id names (t.without id patterns) where
  masterKey := rfl
  secrets := rfl
  secretCount := rfl
  labelCount := rfl
  labels := by
    change t.labels.filter (fun _ label => !(label.secretId == id &&
      label.name.matchesAny patterns)) = _
    refine IdMap.filter_congr fun entry member => ?_
    cases own : entry.2.secretId == id with
    | false => simp
    | true =>
      rw [listed, contains_matched readable member (beq_iff_eq.1 own)]

/-- Where none of the matched labels is left, a search does not find the secret. -/
theorem not_contains_without {left : LabeledSecrets} (given : patterns ≠ [])
    (answered : Engine.search (t.without id patterns) [.globAny .label patterns] = .ok left) :
    left.contains id = false := by
  have listing := search_of_fewer (readable.of_fewer (fewerLabels_without t id patterns))
    ⟨rfl, fun _ member => member⟩ answered
  rw [answered] at listing
  rw [Except.ok.inj listing, IdMap.contains, Tables.get?_listing]
  cases (t.without id patterns).secrets.get? id with
  | none => rfl
  | some secret =>
    have nothing : (t.without id patterns).selectedLabels (finds [.globAny .label patterns])
        id secret = [] := by
      refine List.map_eq_nil_iff.2 (List.filter_eq_nil_iff.2 fun entry member selected => ?_)
      obtain ⟨own, found⟩ := Bool.and_eq_true_iff.1 selected
      obtain ⟨stored, kept⟩ := Tables.mem_labels_deleteLabels.1 member
      have matched := matchesAny_of_finds given (readable.labelNames entry stored) found
      rw [own, matched] at kept
      cases kept
    rw [Option.bind_some, nothing]
    rfl

end Deleted

/-- A search by a column that answers has answered what is found, and leaves the database. -/
theorem search_of_run {column : Column} {patterns : List String} {schedule : Schedule}
    {token : Token} {c : Connection} {found : LabeledSecrets}
    (readable : c.database.current.Readable)
    (answered : ((Operation.searchColumn column patterns).run schedule token c).1 = .ok found) :
    Statement.withinLimits (Statement.searchQuery [.globAny column patterns]) true = .ok () ∧
      Engine.search c.database.current [.globAny column patterns] = .ok found ∧
      ((Operation.searchColumn column patterns).run schedule token c).2.database = c.database := by
  have performed := Operation.perform_of_run answered
  have unchanged := (perform_search readable [.globAny column patterns]).1
  rw [← Operation.perform_searchColumn, performed] at unchanged
  replace unchanged :
      ((Operation.searchColumn column patterns).run schedule token c).2.database = c.database :=
    unchanged
  rw [Operation.perform_searchColumn, unchanged] at performed
  obtain ⟨limits, found⟩ := perform_search_eq_ok_iff.1 performed
  exact ⟨limits, found, unchanged⟩

/-- Deleting labels removes exactly what a search by the same patterns has listed under the secret,
if some pattern begins with a wildcard or every label that is matched begins as a pattern does that
matches it: it answers the number of the listed
labels, those are gone, and all else is as it was. The same search then still answers, and no longer
has the secret. -/
theorem deleteLabels_removes_listed (schedule : Schedule) (token next last : Token) (c : Connection)
    (id : Int) {patterns : List String} (given : patterns ≠ [])
    (readable : c.database.current.Readable)
    (owned : ∀ label ∈ c.database.current.labels.values,
      c.database.current.secrets.contains label.secretId = true)
    (begun : (∀ p ∈ patterns, literalText p ≠ []) → c.database.current.Begun id patterns) :
    let searched := (Operation.searchColumn .label patterns).run schedule token c
    let deleted := (Operation.deleteLabels id patterns).run schedule next searched.2
    let again := (Operation.searchColumn .label patterns).run schedule last deleted.2
    ∀ found removed, searched.1 = .ok found → deleted.1 = .ok removed →
      removed = (found.labelsOf id).length ∧
      c.database.current.LosesLabels id (found.labelsOf id) deleted.2.database.current ∧
      (∀ left, again.1 = .ok left → left.contains id = false) ∧
      ((Operation.searchColumn .label patterns).EndsLive schedule last deleted.2 →
        ∃ left, again.1 = .ok left) := by
  intro searched deleted again found removed searchAnswered deleteAnswered
  let t := c.database.current
  obtain ⟨limits, answered, unchanged⟩ := search_of_run readable searchAnswered
  have listed : found.labelsOf id = (t.labels.entries.filter fun entry =>
      entry.2.secretId == id && entry.2.name.matchesAny patterns).map (·.2.name.shown) := by
    rw [← labelsOf_searchColumn readable given owned begun]
    have listing := search_of_fewer readable ⟨rfl, fun _ member => member⟩ answered
    rw [Except.ok.inj (answered.symm.trans listing)]
  have removal := current_of_deleteLabels given deleteAnswered
  rw [unchanged] at removal
  obtain ⟨count, current⟩ := Prod.mk.inj removal
  replace current : deleted.2.database.current = t.without id patterns := current
  have fewer := fewerLabels_without t id patterns
  refine ⟨?_, ?_, fun left againAnswered => ?_, fun live => ?_⟩
  · rw [count, listed, List.length_map]
    rfl
  · rw [current]
    exact losesLabels_without readable listed
  · have leftReadable : deleted.2.database.current.Readable := current ▸ readable.of_fewer fewer
    obtain ⟨-, searchedAgain, -⟩ := search_of_run leftReadable againAnswered
    rw [current] at searchedAgain
    exact not_contains_without readable given searchedAgain
  · have searchedAgain := search_of_fewer readable fewer answered
    rw [← current] at searchedAgain
    rw [(Operation.run_of_live live).1, Operation.perform_searchColumn,
      perform_search_eq_ok_iff.2 ⟨limits, searchedAgain⟩]
    exact ⟨_, rfl⟩

theorem deleteLabels_removes_listed_mailAndBank :
    let c := Connection.opened (.ofTables .mailAndBank)
    let searched := (Operation.searchColumn .label ["w*", "h?me"]).run (fun _ => none) 0 c
    let deleted := (Operation.deleteLabels 1 ["w*", "h?me"]).run (fun _ => none) 0 searched.2
    deleted.1 = .ok 2 ∧
      deleted.2.database.current.labels.entries = [(3, ⟨.text "work", 2⟩)] ∧
      ∃ left, ((Operation.searchColumn .label ["w*", "h?me"]).run (fun _ => none) 0
        deleted.2).1 = .ok left ∧ left.contains 1 = false := by
  intro c searched deleted
  let found : LabeledSecrets :=
    (IdMap.empty.insert 1 ⟨"mail", ["work", "home"]⟩).insert 2 ⟨"bank", ["work"]⟩
  have searchAnswered : searched.1 = .ok found := by decide +kernel
  have deleteAnswered : deleted.1 = .ok 2 := by decide +kernel
  have live : (Operation.searchColumn .label ["w*", "h?me"]).EndsLive (fun _ => none) 0 deleted.2 :=
    Operation.endsLive_of_never rfl _ _
  obtain ⟨-, loses, gone, answers⟩ := deleteLabels_removes_listed (fun _ => none) 0 0 0 c 1
    (by simp : ["w*", "h?me"] ≠ []) (by decide +kernel) (by decide +kernel)
    (fun _ => by decide +kernel) found 2 searchAnswered deleteAnswered
  obtain ⟨left, again⟩ := answers live
  refine ⟨deleteAnswered, ?_, left, again, gone left again⟩
  rw [loses.labels]
  decide +kernel

/-- A deletion may remove a label that the search before does not list: the noncharacter guides the
search past the label, and is compared as the replacement character where each label is tested. -/
theorem deleteLabels_removes_unlisted :
    ¬ ∀ (t : Tables) (id : Int) (patterns : List String), t.Readable →
      (∀ label ∈ t.labels.values, t.secrets.contains label.secretId = true) → patterns ≠ [] →
        let searched := (Operation.searchColumn .label patterns).run (fun _ => none) 0
          (.opened (.ofTables t))
        let deleted := (Operation.deleteLabels id patterns).run (fun _ => none) 0 searched.2
        ∀ found removed, searched.1 = .ok found → deleted.1 = .ok removed →
          removed = (found.labelsOf id).length := by
  intro claimed
  have equal := claimed .replacementLabel 1 ["\uFFFEa"] (by decide +kernel) (by decide +kernel)
    (by simp) IdMap.empty 1 (by decide +kernel) (by decide +kernel)
  exact absurd equal (by decide)

end SecretVault
