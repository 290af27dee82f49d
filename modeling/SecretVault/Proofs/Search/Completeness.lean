import SecretVault.Proofs.Search.Reference

/-!
A search is complete or fails. Of the rows that it finds, the first one with a name that cannot be
read decides the error, the secret's name before the label; where there is none, all of them are
answered. What it does not find never matters. A search that goes through an index finds by bytes, so
that among malformed texts, plain bytes and the characters that share a code it may find others than
the patterns match.
-/
namespace SecretVault.Engine
open SecretVault.Glob SecretVault.Text

/-- Why a cell cannot be read as the text of a column. -/
def Cell.fault? (index : Nat) (column : String) : Cell → Option Error
  | .text _ => none
  | .malformed bytes =>
    match Utf8.decode bytes with
    | .ok _ => none
    | .error fault => some (.malformedText index fault)
  | .blob _ => some (.notText index column)

/-- The text that a cell holds, if it holds any. -/
def Cell.content? : Cell → Option String
  | .text s => some s
  | .malformed bytes => (Utf8.decode bytes).toOption
  | .blob _ => none

section Cell
variable {index : Nat} {column : String} {cell : Cell}

theorem Cell.read_of_fault {e : Error} (faulty : cell.fault? index column = some e) :
    cell.read index column = .error e := by
  cases cell with
  | text s => cases faulty
  | blob bytes =>
    cases faulty
    rfl
  | malformed bytes =>
    simp only [fault?] at faulty
    split at faulty
    · cases faulty
    · rename_i fault decoded
      cases faulty
      simp only [read, decoded]

theorem Cell.read_of_sound (sound : cell.fault? index column = none) :
    ∃ s, cell.content? = some s ∧ cell.read index column = .ok s := by
  cases cell with
  | text s => exact ⟨s, rfl, rfl⟩
  | blob bytes => cases sound
  | malformed bytes =>
    simp only [fault?] at sound
    split at sound
    · rename_i s decoded
      exact ⟨s, by simp only [content?, decoded, Except.toOption], by simp only [read, decoded]⟩
    · cases sound

theorem Cell.isEngine_of_fault {e : Error} (faulty : cell.fault? index column = some e) :
    StoreError.ofEngine e = .engine e ∧ e.endsTransaction = false := by
  cases cell with
  | text s => cases faulty
  | blob bytes =>
    cases faulty
    exact ⟨rfl, rfl⟩
  | malformed bytes =>
    simp only [fault?] at faulty
    split at faulty <;> cases faulty
    exact ⟨rfl, rfl⟩

end Cell

namespace JoinedRow

/-- Why a row cannot be read, the secret's name before the label. -/
def fault? (row : JoinedRow) : Option Error :=
  (row.secret.name.fault? 1 "name").or (row.label.name.fault? 2 "name")

/-- What an answer has of a row, if it can be read. -/
def content? (row : JoinedRow) : Option LabelRow :=
  row.secret.name.content?.bind fun name =>
    row.label.name.content?.map fun label => ⟨row.secretId, name, label⟩

theorem read_of_fault {row : JoinedRow} {e : Error} (faulty : row.fault? = some e) :
    row.read = .error e := by
  rcases Option.or_eq_some_iff.1 faulty with name | ⟨sound, label⟩
  · simp only [read, Cell.read_of_fault name]
    rfl
  · obtain ⟨name, -, nameRead⟩ := Cell.read_of_sound sound
    simp only [read, nameRead, Cell.read_of_fault label]
    rfl

theorem read_of_sound {row : JoinedRow} (sound : row.fault? = none) :
    ∃ shown, row.content? = some shown ∧ row.read = .ok shown := by
  obtain ⟨nameSound, labelSound⟩ := Option.or_eq_none_iff.1 sound
  obtain ⟨name, nameHeld, nameRead⟩ := Cell.read_of_sound nameSound
  obtain ⟨label, labelHeld, labelRead⟩ := Cell.read_of_sound labelSound
  refine ⟨⟨row.secretId, name, label⟩, by simp [content?, nameHeld, labelHeld], ?_⟩
  simp only [read, nameRead, labelRead]
  rfl

theorem isEngine_of_fault {row : JoinedRow} {e : Error} (faulty : row.fault? = some e) :
    StoreError.ofEngine e = .engine e ∧ e.endsTransaction = false := by
  rcases Option.or_eq_some_iff.1 faulty with name | ⟨-, label⟩
  · exact Cell.isEngine_of_fault name
  · exact Cell.isEngine_of_fault label

/-- The order of an answer: by secret id and then by label id. -/
def Precedes (row other : JoinedRow) : Prop :=
  row.secretId < other.secretId ∨ row.secretId = other.secretId ∧ row.labelId < other.labelId

instance (row other : JoinedRow) : Decidable (row.Precedes other) :=
  inferInstanceAs (Decidable (row.secretId < other.secretId ∨
    row.secretId = other.secretId ∧ row.labelId < other.labelId))

end JoinedRow

/-- The rows of the join. -/
def Tables.joined (t : Tables) : List JoinedRow :=
  t.secrets.entries.flatMap fun entry => joinedRows t entry.1 entry.2

theorem Tables.mem_joined {t : Tables} {row : JoinedRow} : row ∈ t.joined ↔
    (row.secretId, row.secret) ∈ t.secrets.entries ∧ (row.labelId, row.label) ∈ t.labels.entries ∧
      row.label.secretId = row.secretId := by
  constructor
  · intro member
    obtain ⟨⟨id, secret⟩, stored, own⟩ := List.mem_flatMap.1 member
    obtain ⟨rfl, rfl, owner, labelStored⟩ := mem_joinedRows own
    exact ⟨stored, labelStored, owner⟩
  · rintro ⟨stored, labelStored, owner⟩
    refine List.mem_flatMap.2
      ⟨_, stored, List.mem_map.2 ⟨_, List.mem_filter.2 ⟨labelStored, ?_⟩, rfl⟩⟩
    exact beq_iff_eq.2 owner

theorem Tables.joined_ordered (t : Tables) : t.joined.Pairwise JoinedRow.Precedes := by
  refine List.pairwise_flatMap.2 ⟨fun entry _ => ?_, ?_⟩
  · refine List.pairwise_map.2 ((t.labels.ascending.filter _).imp ?_)
    exact fun below => .inr ⟨rfl, below⟩
  · refine t.secrets.ascending.imp fun below row member other memberOther => .inl ?_
    rw [(mem_joinedRows member).1, (mem_joinedRows memberOther).1]
    exact below

/-- The answer has these rows, all of them or none: it fails exactly if some row cannot be read, with
the error of the first one. -/
structure Yields (rows : List JoinedRow) (answer : Except StoreError LabeledSecrets) : Prop where
  fails_iff : (∃ e, answer = .error e) ↔ ∃ row ∈ rows, row.fault?.isSome = true
  first : ∀ row ∈ rows, ∀ e, row.fault? = some e →
    (∀ other ∈ rows, other.Precedes row → other.fault? = none) → answer = .error (.engine e)
  complete : ∀ found, answer = .ok found → ∀ id,
    found.get? id =
      LabeledSecrets.ofRows ((rows.filterMap JoinedRow.content?).filter (·.id == id))

/-- Reading rows in turn ends at the first that cannot be read, or has them all. -/
theorem sequence_read_cases (rows : List JoinedRow) :
    (∀ row ∈ rows, row.fault? = none) ∧
        sequence (rows.map JoinedRow.read) = .ok (rows.filterMap JoinedRow.content?) ∨
      ∃ before row after e, rows = before ++ row :: after ∧
        (∀ other ∈ before, other.fault? = none) ∧ row.fault? = some e ∧
        sequence (rows.map JoinedRow.read) = .error e := by
  induction rows with
  | nil => exact .inl ⟨by simp, rfl⟩
  | cons row rest ih =>
    rw [List.map_cons, sequence_cons]
    cases fault : row.fault? with
    | some e =>
      refine .inr ⟨[], row, rest, e, rfl, by simp, fault, ?_⟩
      rw [JoinedRow.read_of_fault fault]
      rfl
    | none =>
      obtain ⟨shown, held, read⟩ := JoinedRow.read_of_sound fault
      rcases ih with ⟨sound, answered⟩ | ⟨before, faulty, after, e, rfl, sound, isFaulty, failed⟩
      · refine .inl ⟨by simpa [fault] using sound, ?_⟩
        rw [read, answered, List.filterMap_cons_some held]
        rfl
      · refine .inr
          ⟨row :: before, faulty, after, e, rfl, by simpa [fault] using sound, isFaulty, ?_⟩
        rw [read, failed]
        rfl

/-- The rows of the join that a search with these conditions finds. -/
def Tables.found (t : Tables) (clauses : List Clause) : List JoinedRow :=
  t.joined.filter (finds clauses)

/-- A search reads the rows that it finds, in their order, if it can try all its patterns. -/
theorem searchRows_eq_sequence {clauses : List Clause} (short : ¬ Clause.AnyLongPattern clauses)
    (t : Tables) : searchRows t clauses = sequence ((t.found clauses).map JoinedRow.read) := by
  have selected : sequence (select t clauses) = .ok (t.found clauses) := by
    refine (select_selects t clauses).elim (fun answered => ?_) fun long => absurd long.1 short
    rw [answered, Tables.found, Tables.joined, List.filter_flatMap]
    rfl
  unfold searchRows
  split
  · rw [selected]
    rfl
  · rw [eq_map_ok_of_sequence selected, List.map_map]
    rfl

theorem Tables.found_ordered (t : Tables) (clauses : List Clause) :
    (t.found clauses).Pairwise JoinedRow.Precedes :=
  t.joined_ordered.filter _

/-- An accepted search, whatever the tables hold, yields the rows that it finds. -/
theorem perform_search_yields {clauses : List Clause} (accepted : Statement.Accepts clauses)
    (d : Database) :
    Yields (d.current.found clauses) ((Plan.single (Statement.search clauses)).perform d).1 := by
  have change := Statement.change_search clauses d.current
  rw [accepted.1] at change
  have searched : Engine.search d.current clauses =
      (sequence ((d.current.found clauses).map JoinedRow.read)).map LabeledSecrets.gather := by
    rw [Engine.search, searchRows_eq_sequence accepted.2]
  replace change := change.trans (congrArg _ searched)
  rcases sequence_read_cases (d.current.found clauses) with
    ⟨sound, answered⟩ | ⟨before, row, after, e, split, sound, faulty, failed⟩
  · rw [answered] at change
    rw [Plan.single, Plan.perform_send_of_ok change]
    exact {
      fails_iff := iff_of_false (by rintro ⟨e, equal⟩; cases equal) <| by
        rintro ⟨row, member, faulty⟩
        simp [sound row member] at faulty
      first := fun row member e faulty => by simp [sound row member] at faulty
      complete := by
        intro found equal id
        cases equal
        exact LabeledSecrets.get?_gather _ id }
  · rw [failed] at change
    have isEngine := (JoinedRow.isEngine_of_fault faulty).1
    rw [Plan.single, Plan.perform_send_of_error change, isEngine]
    have member : row ∈ d.current.found clauses := by rw [split]; simp
    exact {
      fails_iff := iff_of_true ⟨_, rfl⟩ ⟨row, member, by rw [faulty]; rfl⟩
      first := by
        intro other among cause otherFaulty firstly
        -- A faulty row before which there is none other is the row that was met.
        rw [split] at among
        rcases List.mem_append.1 among with among | among
        · simp [sound other among] at otherFaulty
        rcases List.mem_cons.1 among with rfl | among
        · rw [faulty] at otherFaulty
          cases otherFaulty
          rfl
        · have ordered := d.current.found_ordered clauses
          rw [split] at ordered
          have precedes := (List.pairwise_cons.1 (List.pairwise_append.1 ordered).2.1).1 other among
          rw [firstly row member precedes] at faulty
          cases faulty
      complete := fun found equal => by cases equal }

namespace Yields
variable {rows : List JoinedRow} {found : LabeledSecrets}

/-- Where a search answers, each of its rows can be read. -/
theorem content_of_mem (yields : Yields rows (.ok found)) {row : JoinedRow} (member : row ∈ rows) :
    ∃ shown, row.content? = some shown := by
  cases fault : row.fault? with
  | none =>
    obtain ⟨shown, held, -⟩ := JoinedRow.read_of_sound fault
    exact ⟨shown, held⟩
  | some e =>
    obtain ⟨failure, failed⟩ := yields.fails_iff.2 ⟨row, member, by rw [fault]; rfl⟩
    cases failed

theorem content_eq {row : JoinedRow} {shown : LabelRow} (held : row.content? = some shown) :
    shown.id = row.secretId ∧ row.secret.name.content? = some shown.name ∧
      row.label.name.content? = some shown.label := by
  obtain ⟨name, nameHeld, held⟩ := Option.bind_eq_some_iff.1 held
  obtain ⟨label, labelHeld, rfl⟩ := Option.map_eq_some_iff.1 held
  exact ⟨rfl, nameHeld, labelHeld⟩

/-- A secret is answered exactly if some row of it is. -/
theorem contains_iff (yields : Yields rows (.ok found)) {id : Int} :
    found.contains id = true ↔ ∃ row ∈ rows, row.secretId = id := by
  rw [IdMap.contains_iff, ← Option.isSome_iff_exists, yields.complete found rfl id,
    LabeledSecrets.isSome_ofRows]
  constructor
  · rintro ⟨shown, member⟩
    obtain ⟨among, same⟩ := List.mem_filter.1 member
    obtain ⟨row, stored, held⟩ := List.mem_filterMap.1 among
    exact ⟨row, stored, (content_eq held).1.symm.trans (beq_iff_eq.1 same)⟩
  · rintro ⟨row, member, rfl⟩
    obtain ⟨shown, held⟩ := yields.content_of_mem member
    refine ⟨shown, List.mem_filter.2 ⟨List.mem_filterMap.2 ⟨row, member, held⟩, ?_⟩⟩
    exact beq_iff_eq.2 (content_eq held).1

/-- A label is listed exactly if some row of its secret holds it. -/
theorem listed_iff (yields : Yields rows (.ok found)) {id : Int} {name : String} :
    (∃ secret, found.get? id = some secret ∧ name ∈ secret.labels) ↔
      ∃ row ∈ rows, row.secretId = id ∧ row.label.name.content? = some name := by
  rw [yields.complete found rfl id, LabeledSecrets.mem_labels_ofRows]
  constructor
  · rintro ⟨shown, member, rfl⟩
    obtain ⟨among, same⟩ := List.mem_filter.1 member
    obtain ⟨row, stored, held⟩ := List.mem_filterMap.1 among
    obtain ⟨sameId, -, label⟩ := content_eq held
    exact ⟨row, stored, sameId.symm.trans (beq_iff_eq.1 same), label⟩
  · rintro ⟨row, member, rfl, label⟩
    obtain ⟨shown, held⟩ := yields.content_of_mem member
    obtain ⟨sameId, -, shownLabel⟩ := content_eq held
    refine ⟨shown, List.mem_filter.2 ⟨List.mem_filterMap.2 ⟨row, member, held⟩, ?_⟩, ?_⟩
    · exact beq_iff_eq.2 sameId
    · exact Option.some.inj (shownLabel.symm.trans label)

end Yields

/-- The answer has the rows that a search with these conditions finds. They are the selected ones if no
condition guides the search through an index, and where codes tell characters apart. -/
structure YieldsSelected (t : Tables) (clauses : List Clause) (selects : JoinedRow → Bool)
    (answer : Except StoreError LabeledSecrets) : Prop where
  yields : Yields (t.found clauses) answer
  direct : guide? clauses = none → t.found clauses = t.joined.filter selects
  selected : ∀ row ∈ t.joined, (∀ clause ∈ clauses, clause.TellsApart row) →
    (row ∈ t.found clauses ↔ selects row = true)

theorem yieldsSelected_of_yields {t : Tables} {clauses : List Clause} {selects : JoinedRow → Bool}
    {answer : Except StoreError LabeledSecrets} (same : Clause.allHold clauses = selects)
    (yields : Yields (t.found clauses) answer) : YieldsSelected t clauses selects answer where
  yields := yields
  direct := by
    intro unguided
    rw [Tables.found, finds_eq_allHold_of_unguided unguided, same]
  selected := by
    intro row member apart
    rw [Tables.found, List.mem_filter, and_iff_right member, finds_eq_allHold apart, same]

end SecretVault.Engine

namespace SecretVault
open SecretVault.Engine SecretVault.Glob SecretVault.Text

/-- Under a live token each search answers all the rows that it finds or fails, whatever the tables
hold: it fails exactly if one of them cannot be read, and with the error of the first such row. By ids
it finds all the rows of the listed secrets; by patterns it finds the rows that they select, as far as
codes tell characters apart. -/
theorem searches_complete_or_fail (schedule : Schedule) (token : Token) (c : Connection) :
    (∀ column patterns, (Operation.searchColumn column patterns).EndsLive schedule token c →
      (Operation.searchColumn column patterns).Fits c.database.current →
      YieldsSelected c.database.current [.globAny column patterns]
        (fun row => patterns.isEmpty || row.matchesAny column patterns)
        ((Operation.searchColumn column patterns).run schedule token c).1) ∧
    (∀ ids, ids ≠ [] → (Operation.searchIds ids).EndsLive schedule token c →
      (Operation.searchIds ids).Fits c.database.current →
      Yields (c.database.current.joined.filter fun row => ids.contains row.secretId)
        ((Operation.searchIds ids).run schedule token c).1) ∧
    ∀ name labels, labels ≠ [] →
      (Operation.searchLabelsAndName name labels).EndsLive schedule token c →
      (Operation.searchLabelsAndName name labels).Fits c.database.current →
      YieldsSelected c.database.current [.globAny .label labels, .globAny .secretName [name]]
        (fun row => row.matchesAny .label labels && row.matchesAny .secretName [name])
        ((Operation.searchLabelsAndName name labels).run schedule token c).1 := by
  refine ⟨fun column patterns live fits => ?_, fun ids given live fits => ?_,
    fun name labels given live fits => ?_⟩
  · rw [(Operation.run_of_live live).1]
    exact yieldsSelected_of_yields (Clause.allHold_globAny column patterns)
      (perform_search_yields (Statement.accepts_searchColumn fits) c.database)
  · rw [(Operation.run_of_live live).1, Operation.perform_searchIds given]
    have yields := perform_search_yields (Statement.accepts_searchIds fits) c.database
    have byIds : finds [.idIn .secretId ids] = fun row => ids.contains row.secretId := by
      rw [← Clause.allHold_idIn given]
      funext row
      refine finds_eq_allHold fun clause member => ?_
      rw [List.mem_singleton.1 member]
      exact Clause.tellsApart_idIn .secretId ids row
    rwa [Tables.found, byIds] at yields
  · rw [(Operation.run_of_live live).1, Operation.perform_searchLabelsAndName given]
    exact yieldsSelected_of_yields (Clause.allHold_labelsAndName given name)
      (perform_search_yields (Statement.accepts_searchLabelsAndName fits) c.database)

/-- Two secrets with a label each; the name of the second secret is plain bytes, and its label is
the malformed byte that is the code of the copyright sign. -/
def Engine.Tables.faultyBank : Tables where
  masterKey := none
  secrets := (IdMap.empty.insert 1 ⟨.text "mail", .text "p"⟩).insert 2 ⟨.blob [0x62], .text "q"⟩
  labels := (IdMap.empty.insert 1 ⟨.text "work", 1⟩).insert 2 ⟨.malformed [0xA9], 2⟩
  secretCount := 2
  labelCount := 2

/-- A label pattern that leaves the second secret out finds the first one, ids fail with the name that
cannot be read, and so does what both patterns of a search by labels and name match. -/
theorem searches_complete_or_fail_faultyBank :
    (¬ ∃ e, ((Operation.searchColumn .label ["w*"]).run (fun _ => none) 0
        (.opened (.ofTables .faultyBank))).1 = .error e) ∧
      ((Operation.searchIds [2, 1]).run (fun _ => none) 0
        (.opened (.ofTables .faultyBank))).1 = .error (.engine (.notText 1 "name")) ∧
      ∃ e, ((Operation.searchLabelsAndName "b" ["?"]).run (fun _ => none) 0
        (.opened (.ofTables .faultyBank))).1 = .error e := by
  have live (op : Operation) : op.EndsLive (fun _ => none) 0 (.opened (.ofTables .faultyBank)) :=
    Operation.endsLive_of_never rfl op _
  obtain ⟨byColumn, byIds, byLabelsAndName⟩ := searches_complete_or_fail (fun _ => none) 0
    (.opened (.ofTables .faultyBank))
  have column := (byColumn .label ["w*"] (live _) (by decide +kernel)).yields
  have ids := byIds [2, 1] (by simp) (live _) (by decide +kernel)
  have both := (byLabelsAndName "b" ["?"] (by simp) (live _) (by decide +kernel)).yields
  let faulty : JoinedRow := ⟨2, ⟨.blob [0x62], .text "q"⟩, 2, ⟨.malformed [0xA9], 2⟩⟩
  refine ⟨?_, ids.first faulty (by decide +kernel) _ rfl (by decide +kernel),
    both.fails_iff.2 ⟨faulty, by decide +kernel, rfl⟩⟩
  rw [column.fails_iff]
  decide +kernel

/-- One secret with one label, which is the malformed byte that is the code of the copyright sign. -/
def Engine.Tables.malformedLabel : Tables where
  masterKey := none
  secrets := IdMap.empty.insert 1 ⟨.text "n", .text "p"⟩
  labels := IdMap.empty.insert 1 ⟨.malformed [0xA9], 1⟩
  secretCount := 1
  labelCount := 1

/-- It depends on the other patterns of a search whether a label that cannot be read makes it fail:
alone the copyright sign guides the search past the byte, together with a pattern that begins with a
wildcard it matches the byte. So no relation between patterns and labels explains which searches
fail. -/
theorem no_relation_explains_failures :
    ¬ ∃ selects : String → Cell → Prop, ∀ (t : Tables) (patterns : List String),
      patterns ≠ [] → (Operation.searchColumn .label patterns).Fits t →
        ((∃ e, ((Operation.searchColumn .label patterns).run (fun _ => none) 0
            (.opened (.ofTables t))).1 = .error e) ↔
          ∃ row ∈ t.joined, row.fault?.isSome = true ∧
            ∃ pattern ∈ patterns, selects pattern row.label.name) := by
  intro explained
  obtain ⟨selects, explains⟩ := explained
  have alone := explains .malformedLabel ["\u00A9"] (by simp) (by decide +kernel)
  have other := explains .malformedLabel ["*zz"] (by simp) (by decide +kernel)
  have both := explains .malformedLabel ["\u00A9", "*zz"] (by simp) (by decide +kernel)
  have aloneAnswers : ((Operation.searchColumn .label ["\u00A9"]).run (fun _ => none) 0
      (.opened (.ofTables .malformedLabel))).1 = .ok IdMap.empty := by decide +kernel
  have otherAnswers : ((Operation.searchColumn .label ["*zz"]).run (fun _ => none) 0
      (.opened (.ofTables .malformedLabel))).1 = .ok IdMap.empty := by decide +kernel
  have bothFail : ((Operation.searchColumn .label ["\u00A9", "*zz"]).run (fun _ => none) 0
      (.opened (.ofTables .malformedLabel))).1 =
        .error (.engine (.malformedText 2 ⟨0, some 1⟩)) := by decide +kernel
  obtain ⟨row, member, faulty, pattern, tried, selected⟩ := both.1 ⟨_, bothFail⟩
  rcases List.mem_cons.1 tried with rfl | tried
  · obtain ⟨e, failed⟩ := alone.2 ⟨row, member, faulty, _, by simp, selected⟩
    cases aloneAnswers.symm.trans failed
  · obtain ⟨e, failed⟩ := other.2 ⟨row, member, faulty, pattern, tried, selected⟩
    cases otherAnswers.symm.trans failed

end SecretVault
