import SecretVault.Proofs.Glob.Matching
import SecretVault.Proofs.Search.Completeness
import SecretVault.Proofs.Search.Removing

/-!
Patterns mean what the language of patterns says. A search by a single pattern finds the labels and
the names that the pattern matches, and deleting labels by a pattern removes those.
-/
namespace SecretVault
open SecretVault.Engine SecretVault.Glob SecretVault.Text

/-- Plain texts are told apart by their codes. -/
theorem Glob.apart_of_isPlain {pattern s : String} (patternPlain : IsPlain pattern)
    (plain : IsPlain s) : Apart pattern s := by
  intro c literal d member same
  have ownCode {text : String} (plain : IsPlain text) {x : Char} (held : x ∈ text.toList) :
      codeOf x = x.toNat := by
    refine if_neg ?_
    rintro (code | code)
    · exact (plain x held).1 (Char.toNat_inj.1 code)
    · exact (plain x held).2 (Char.toNat_inj.1 code)
  have among : c ∈ pattern.toList := (List.takeWhile_prefix _).subset literal
  rwa [ownCode patternPlain among, ownCode plain member, Char.toNat_inj] at same

namespace Engine

/-- Malformed text is malformed: its bytes are those of no text. -/
def Cell.IsGenuine : Cell → Prop
  | .malformed bytes => ∃ fault, Utf8.decode bytes = .error fault
  | .text _ | .blob _ => True

theorem Cell.IsGenuine.eq_text {cell : Cell} (genuine : cell.IsGenuine) {s : String}
    (held : cell.content? = some s) : cell = .text s := by
  cases cell with
  | text t => simpa [content?] using held
  | blob bytes => cases held
  | malformed bytes =>
    obtain ⟨fault, decoded⟩ := genuine
    simp [content?, decoded, Except.toOption] at held

/-- A row is found by a plain pattern exactly if the pattern matches the plain text that it holds. -/
theorem mem_found_of_isPlain {t : Tables} {column : Column} {pattern s : String}
    (patternPlain : IsPlain pattern) (plain : IsPlain s) {row : JoinedRow}
    (cell : row.cell column = .text s) :
    row ∈ t.found [.globAny column [pattern]] ↔
      row ∈ t.joined ∧ Matches (seen pattern) (seen s) := by
  have selected : Clause.allHold [.globAny column [pattern]] row = true ↔
      Matches (seen pattern) (seen s) := by
    rw [Clause.allHold_globAny, ← matchesCodes_iff_matches patternPlain plain]
    simp [JoinedRow.matchesAny, cell, Cell.codes]
  have tellsApart : ∀ clause ∈ [Clause.globAny column [pattern]], clause.TellsApart row := by
    intro clause member
    rw [List.mem_singleton.1 member]
    exact fun _ => ⟨s, cell, by simpa using apart_of_isPlain patternPlain plain⟩
  rw [Tables.found, List.mem_filter, finds_eq_allHold tellsApart, selected]

end Engine

/-- A pattern on its own that can be tried fits. -/
theorem Operation.fits_searchColumn_single {pattern : String} (short : tooLong pattern = false)
    (column : Column) (t : Tables) : (searchColumn column [pattern]).Fits t :=
  ⟨by simp [maxDepth], by simpa using short⟩

theorem Operation.fits_deleteLabels_single {pattern : String} (short : tooLong pattern = false)
    (id : Int) (t : Tables) : (deleteLabels id [pattern]).Fits t :=
  ⟨by simp [maxDepth], by simpa using short⟩

/-- A search by a column that answers yields the rows that it finds. -/
theorem yields_of_searchColumn {column : Column} {patterns : List String} {schedule : Schedule}
    {token : Token} {c : Connection} {found : LabeledSecrets}
    (fits : (Operation.searchColumn column patterns).Fits c.database.current)
    (answered : ((Operation.searchColumn column patterns).run schedule token c).1 = .ok found) :
    Yields (c.database.current.found [.globAny column patterns]) (.ok found) := by
  have yields := perform_search_yields (Statement.accepts_searchColumn fits) c.database
  rwa [← Operation.perform_searchColumn, Operation.perform_of_run answered] at yields

section Single
variable {schedule : Schedule} {token : Token} {c : Connection} {pattern s : String}

/-- A search by a label pattern lists a label of a secret exactly if the pattern matches it. -/
theorem listed_iff_matches (short : tooLong pattern = false) (patternPlain : IsPlain pattern)
    {found : LabeledSecrets}
    (answered : ((Operation.searchColumn .label [pattern]).run schedule token c).1 = .ok found)
    (genuine : ∀ entry ∈ c.database.current.labels.entries, entry.2.name.IsGenuine)
    {labelId id : Int} (stored : (labelId, ⟨.text s, id⟩) ∈ c.database.current.labels.entries)
    (owned : c.database.current.secrets.contains id = true) (plain : IsPlain s) :
    (∃ secret, found.get? id = some secret ∧ s ∈ secret.labels) ↔
      Matches (seen pattern) (seen s) := by
  have yields := yields_of_searchColumn (Operation.fits_searchColumn_single short .label _) answered
  rw [yields.listed_iff]
  constructor
  · rintro ⟨row, member, -, held⟩
    have joined := Tables.mem_joined.1 (List.mem_filter.1 member).1
    have name : row.cell .label = .text s := (genuine _ joined.2.1).eq_text held
    exact ((mem_found_of_isPlain patternPlain plain name).1 member).2
  · intro matched
    obtain ⟨secret, secretStored⟩ := IdMap.contains_iff.1 owned
    let row : JoinedRow := ⟨id, secret, labelId, ⟨.text s, id⟩⟩
    have joined : row ∈ c.database.current.joined :=
      Tables.mem_joined.2 ⟨IdMap.get?_eq_some_iff.1 secretStored, stored, rfl⟩
    exact ⟨row, (mem_found_of_isPlain patternPlain plain rfl).2 ⟨joined, matched⟩, rfl, rfl⟩

/-- A search by a name pattern finds a labelled secret exactly if the pattern matches its name. -/
theorem found_iff_matches (short : tooLong pattern = false) (patternPlain : IsPlain pattern)
    {found : LabeledSecrets}
    (answered : ((Operation.searchColumn .secretName [pattern]).run schedule token c).1 = .ok found)
    {id : Int} {payload : Cell}
    (stored : (id, ⟨.text s, payload⟩) ∈ c.database.current.secrets.entries)
    (labelled : ∃ entry ∈ c.database.current.labels.entries, entry.2.secretId = id)
    (plain : IsPlain s) : found.contains id = true ↔ Matches (seen pattern) (seen s) := by
  have yields := yields_of_searchColumn (Operation.fits_searchColumn_single short .secretName _)
    answered
  rw [yields.contains_iff]
  constructor
  · rintro ⟨row, member, rfl⟩
    have joined := Tables.mem_joined.1 (List.mem_filter.1 member).1
    have own := (IdMap.get?_eq_some_iff.2 joined.1).symm.trans (IdMap.get?_eq_some_iff.2 stored)
    have name : row.cell .secretName = .text s := by rw [JoinedRow.cell, Option.some.inj own]
    exact ((mem_found_of_isPlain patternPlain plain name).1 member).2
  · intro matched
    obtain ⟨⟨labelId, label⟩, labelStored, rfl⟩ := labelled
    let row : JoinedRow := ⟨label.secretId, ⟨.text s, payload⟩, labelId, label⟩
    have joined : row ∈ c.database.current.joined :=
      Tables.mem_joined.2 ⟨stored, labelStored, rfl⟩
    exact ⟨row, (mem_found_of_isPlain patternPlain plain rfl).2 ⟨joined, matched⟩, rfl⟩

/-- Deleting labels by a pattern removes a label of the secret exactly if the pattern matches it. -/
theorem removed_iff_matches (patternPlain : IsPlain pattern) {id : Int} {removed : Nat}
    (answered : ((Operation.deleteLabels id [pattern]).run schedule token c).1 = .ok removed)
    {labelId : Int} (stored : (labelId, ⟨.text s, id⟩) ∈ c.database.current.labels.entries)
    (plain : IsPlain s) :
    (labelId, ⟨.text s, id⟩) ∉
        ((Operation.deleteLabels id [pattern]).run schedule token
          c).2.database.current.labels.entries ↔ Matches (seen pattern) (seen s) := by
  have current := congrArg Prod.snd (current_of_deleteLabels (List.cons_ne_nil pattern []) answered)
  dsimp only at current
  rw [current, Tables.mem_labels_deleteLabels, ← matchesCodes_iff_matches patternPlain plain]
  simp [stored, Cell.matchesAny, Cell.codes]

theorem searchColumn_answers (short : tooLong pattern = false)
    (readable : c.database.current.Readable) {column : Column}
    (live : (Operation.searchColumn column [pattern]).EndsLive schedule token c) :
    ∃ found, ((Operation.searchColumn column [pattern]).run schedule token c).1 = .ok found := by
  have fits := Operation.fits_searchColumn_single short column c.database.current
  have performed := (perform_search readable [.globAny column [pattern]]).2.2
    (Statement.accepts_searchColumn fits)
  rw [(Operation.run_of_live live).1]
  exact ⟨_, performed⟩

theorem deleteLabels_answers (short : tooLong pattern = false) {id : Int}
    (live : (Operation.deleteLabels id [pattern]).EndsLive schedule token c) :
    ∃ removed, ((Operation.deleteLabels id [pattern]).run schedule token c).1 = .ok removed := by
  rw [(Operation.run_of_live live).1]
  rcases Statement.change_deleteLabels_cases c.database.current id (List.cons_ne_nil pattern []) with
    ⟨e, -, -, unfit⟩ | changed
  · exact absurd (Operation.fits_deleteLabels_single short id _) unfit
  · exact ⟨_, congrArg Prod.fst (Plan.perform_send_of_ok changed)⟩

end Single

/-- Every pattern has its meaning in the language of patterns, where neither it nor the compared
text holds one of the two noncharacters: in the matcher; in a search by labels, which lists exactly
the labels that it matches; in a search by names, which finds exactly the labelled secrets whose
names it matches; and in deleting labels, which removes exactly those that it matches. -/
theorem patterns_mean_their_language (schedule : Schedule) (token : Token) (c : Connection)
    {pattern : String} (short : tooLong pattern = false) (patternPlain : IsPlain pattern) :
    let t := c.database.current
    (∀ s, IsPlain s →
      (matchesCodes pattern (codes s) = true ↔ Matches (seen pattern) (seen s))) ∧
    (∀ found, ((Operation.searchColumn .label [pattern]).run schedule token c).1 = .ok found →
      (∀ entry ∈ t.labels.entries, entry.2.name.IsGenuine) →
      ∀ labelId s id, (labelId, ⟨.text s, id⟩) ∈ t.labels.entries → t.secrets.contains id = true →
        IsPlain s →
        ((∃ secret, found.get? id = some secret ∧ s ∈ secret.labels) ↔
          Matches (seen pattern) (seen s))) ∧
    (∀ found, ((Operation.searchColumn .secretName [pattern]).run schedule token c).1 = .ok found →
      ∀ id s payload, (id, ⟨.text s, payload⟩) ∈ t.secrets.entries →
        (∃ entry ∈ t.labels.entries, entry.2.secretId = id) → IsPlain s →
        (found.contains id = true ↔ Matches (seen pattern) (seen s))) ∧
    (∀ id removed, ((Operation.deleteLabels id [pattern]).run schedule token c).1 = .ok removed →
      ∀ labelId s, (labelId, ⟨.text s, id⟩) ∈ t.labels.entries → IsPlain s →
        ((labelId, ⟨.text s, id⟩) ∉
            ((Operation.deleteLabels id [pattern]).run schedule token
              c).2.database.current.labels.entries ↔
          Matches (seen pattern) (seen s))) ∧
    (t.Readable → ∀ column, (Operation.searchColumn column [pattern]).EndsLive schedule token c →
      ∃ found, ((Operation.searchColumn column [pattern]).run schedule token c).1 = .ok found) ∧
    ∀ id, (Operation.deleteLabels id [pattern]).EndsLive schedule token c →
      ∃ removed, ((Operation.deleteLabels id [pattern]).run schedule token c).1 = .ok removed :=
  ⟨fun _ plain => matchesCodes_iff_matches patternPlain plain,
    fun _ answered genuine _ _ _ stored owned plain =>
      listed_iff_matches short patternPlain answered genuine stored owned plain,
    fun _ answered _ _ _ stored labelled plain =>
      found_iff_matches short patternPlain answered stored labelled plain,
    fun _ _ answered _ _ stored plain => removed_iff_matches patternPlain answered stored plain,
    fun readable _ live => searchColumn_answers short readable live,
    fun _ live => deleteLabels_answers short live⟩

/-- A negated class and a run match the first label of the first secret, which is listed and removed,
but neither its second label nor its name. -/
theorem patterns_mean_their_language_mailAndBank :
    let c := Connection.opened (.ofTables .mailAndBank)
    let deleted := (Operation.deleteLabels 1 ["[^a-v]*"]).run (fun _ => none) 0 c
    (∃ found, ((Operation.searchColumn .label ["[^a-v]*"]).run (fun _ => none) 0 c).1 = .ok found ∧
      (∃ secret, found.get? 1 = some secret ∧ "work" ∈ secret.labels) ∧
      ¬ ∃ secret, found.get? 1 = some secret ∧ "home" ∈ secret.labels) ∧
    (∃ found, ((Operation.searchColumn .secretName ["[^a-v]*"]).run (fun _ => none) 0 c).1 =
      .ok found ∧ found.contains 1 = false) ∧
    (1, ⟨.text "work", 1⟩) ∉ deleted.2.database.current.labels.entries ∧
    (2, ⟨.text "home", 1⟩) ∈ deleted.2.database.current.labels.entries := by
  intro c deleted
  have live (op : Operation) : op.EndsLive (fun _ => none) 0 c :=
    Operation.endsLive_of_never rfl op c
  obtain ⟨matcher, labels, names, deletes, searched, removes⟩ := patterns_mean_their_language
    (fun _ => none) 0 c (by decide +kernel : tooLong "[^a-v]*" = false) (by decide +kernel)
  have work := (matcher "work" (by decide +kernel)).1 (by decide +kernel)
  have home := mt (matcher "home" (by decide +kernel)).2 (by decide +kernel)
  have mail := mt (matcher "mail" (by decide +kernel)).2 (by decide +kernel)
  have readable : Tables.mailAndBank.Readable := by decide +kernel
  obtain ⟨found, answered⟩ := searched readable .label (live _)
  obtain ⟨byName, named⟩ := searched readable .secretName (live _)
  obtain ⟨removed, deletedOk⟩ := removes 1 (live _)
  have genuine : ∀ entry ∈ c.database.current.labels.entries, entry.2.name.IsGenuine := by
    intro entry member
    have text := readable.labelNames entry member
    rw [text.eq_text_shown]
    trivial
  refine ⟨⟨found, answered, ?_, ?_⟩, ⟨byName, named, ?_⟩, ?_, ?_⟩
  · exact (labels found answered genuine 1 "work" 1 (by decide +kernel) (by decide +kernel)
      (by decide +kernel)).2 work
  · exact mt (labels found answered genuine 2 "home" 1 (by decide +kernel) (by decide +kernel)
      (by decide +kernel)).1 home
  · exact Bool.eq_false_iff.2 (mt (names byName named 1 "mail" (.text "p") (by decide +kernel)
      ⟨(1, ⟨.text "work", 1⟩), by decide +kernel, rfl⟩ (by decide +kernel)).1 mail)
  · exact (deletes 1 removed deletedOk 1 "work" (by decide +kernel) (by decide +kernel)).2 work
  · exact not_not.1 (mt (deletes 1 removed deletedOk 2 "home" (by decide +kernel)
      (by decide +kernel)).1 home)

end SecretVault
