import SecretVault.Proofs.Vault.Finding
import SecretVault.Proofs.Vault.Integrity

/-!
Listings of many secrets. A listing by labels looks up all that its first search has found, with one
value for each secret in a single statement. So the number of the secrets alone decides whether it
succeeds, and a crowd is found but not listed.
-/
namespace SecretVault
open SecretVault.Engine SecretVault.Glob SecretVault.Text

/-- A listing by labels whose first search has succeeded succeeds exactly if one statement can bind
the ids of all that were found. Then it prints all of them, each with all its labels, and otherwise
nothing. -/
theorem label_listing_succeeds_iff {s : Session} (reachable : s.connection.database.Reachable)
    {name : Option String} {labels : List String} (given : labels ≠ []) {found : LabeledSecrets}
    (answered : (Session.carryOut (Script.search name labels) s).1 = .ok found) (json : Bool) :
    ∃ v, Represents s.connection.database.current v ∧
      (∀ id, (v.listed found.contains).contains id = found.contains id) ∧
      ∀ script, script = Script.find name labels json ∨
          v.masterKey ≠ none ∧ script = (Command.find name labels json).script →
        let ran := Session.carryOut script s
        (ran.1 = .ok () ↔ found.entries.length ≤ maxParams) ∧
        (ran.1 = .ok () →
          ran.2.output = s.output ++ Utf8.encode ((v.listed found.contains).printed json)) ∧
        (ran.1 ≠ .ok () →
          ran.1 = .error (.store (.engine (Statement.tooManyIds found.keys))) ∧
          ran.2.output = s.output) := by
  obtain ⟨v, represented⟩ := reachable.isVault.current
  obtain ⟨searched, selects, listing⟩ :=
    Script.reads_search_of_answered represented.readable answered
  have shows := represented.contains_listed selects
  rw [← listing] at shows
  refine ⟨v, represented, shows, fun script which => ?_⟩
  have alike {ending : Except Failure Unit} {printed : String}
      (finds : (Script.find name labels json).Reads s.connection.database ending printed) :
      script.Reads s.connection.database ending printed := by
    rcases which with rfl | ⟨initialized, rfl⟩
    · exact finds
    · exact Script.reads_command_of_find represented initialized finds
  dsimp only
  by_cases few : found.entries.length ≤ maxParams
  · have finds := Script.reads_find_of_found represented searched (.inr few) json
    rw [v.shown_of_searched given] at finds
    obtain ⟨succeeds, prints, -⟩ := alike finds s rfl
    exact ⟨iff_of_true succeeds few, fun _ => prints, fun fails => absurd succeeds fails⟩
  · have finds := Script.reads_find_of_crowd given searched (Nat.lt_of_not_le few) json
    obtain ⟨fails, silent, -⟩ := alike finds s rfl
    rw [fails]
    exact ⟨iff_of_false nofun few, nofun, fun _ => ⟨rfl, silent.trans (List.append_nil _)⟩⟩

/-- A single secret is found by one of its labels and printed with both. -/
theorem label_listing_succeeds_iff_mail :
    let s := Session.opened .mail
    let found := IdMap.empty.insert 1 ⟨"mail", ["work"]⟩
    let ran := Session.carryOut (Script.find none ["w*"] true) s
    s.connection.database.Reachable ∧ ["w*"] ≠ [] ∧
      (Session.carryOut (Script.search none ["w*"]) s).1 = .ok found ∧
      found.entries.length ≤ maxParams ∧ ran.1 = .ok () ∧
      ran.2.output = Utf8.encode
        (LabeledSecrets.printed (IdMap.empty.insert 1 ⟨"mail", ["work", "home"]⟩) true) := by
  intro s found ran
  have reachable : s.connection.database.Reachable := .after .fresh _
  have answered : (Session.carryOut (Script.search none ["w*"]) s).1 = .ok found := by
    decide +kernel
  have few : found.entries.length ≤ maxParams := by decide +kernel
  have output : ran.2.output = Utf8.encode
      (LabeledSecrets.printed (IdMap.empty.insert 1 ⟨"mail", ["work", "home"]⟩) true) := by
    decide +kernel
  clear_value s
  obtain ⟨v, -, -, runs⟩ :=
    label_listing_succeeds_iff reachable (List.cons_ne_nil "w*" []) answered true
  have succeeds := (runs _ (.inl rfl)).1.2 few
  exact ⟨reachable, List.cons_ne_nil _ _, answered, few, succeeds, output⟩

/-- Operations that store a master key, and so many secrets with one label each. -/
def Operation.crowd (n : Nat) : List Operation :=
  .insertMasterKey "k" ::
    (List.range n).flatMap fun i => [.insertSecret "n" "p", .insertLabel "l" (i + 1)]

theorem Operation.crowd_succ (n : Nat) :
    crowd (n + 1) = crowd n ++ [.insertSecret "n" "p", .insertLabel "l" (n + 1)] := by
  simp [crowd, List.range_succ]

namespace Engine

/-- Tables with a master key and so many secrets, each with the same label. -/
structure Tables.IsCrowd (t : Tables) (n : Nat) : Prop where
  masterKey : t.masterKey = some (.text "k")
  secretCount : t.secretCount = n
  labelCount : t.labelCount = n
  secrets : t.secrets.entries.length = n
  labelled : ∀ id, t.secrets.contains id = true → .text "l" ∈ t.labelCells id

namespace Tables
variable {t : Tables} {n : Nat}

theorem IsCrowd.nextSecretId (crowd : t.IsCrowd n) (counted : t.Counted)
    (room : (n : Int) < greatestId) : nextId t.secrets t.secretCount = .ok ((n : Int) + 1) := by
  have count := crowd.secretCount
  rw [nextId_of_counted counted.secrets (by omega) (by omega), count]

theorem IsCrowd.nextLabelId (crowd : t.IsCrowd n) (counted : t.Counted)
    (room : (n : Int) < greatestId) : nextId t.labels t.labelCount = .ok ((n : Int) + 1) := by
  have count := crowd.labelCount
  rw [nextId_of_counted counted.labels (by omega) (by omega), count]

theorem IsCrowd.insertSecret (crowd : t.IsCrowd n) (counted : t.Counted)
    (room : (n : Int) < greatestId) (secret : StoredSecret) :
    t.insertSecret secret = .ok ((n : Int) + 1, t.addSecret (n + 1) secret) := by
  rw [Tables.insertSecret, crowd.nextSecretId counted room]
  rfl

/-- No label is there yet for the secret after the last. -/
theorem IsCrowd.attachLabel (crowd : t.IsCrowd n) (intact : t.Intact)
    (room : (n : Int) < greatestId) (secret : StoredSecret) (name : Cell) :
    (t.addSecret (n + 1) secret).attachLabel ⟨name, n + 1⟩ =
      .ok (some ((n : Int) + 1), (t.addSecret (n + 1) secret).addLabel (n + 1) ⟨name, n + 1⟩) := by
  have drawn : nextId (t.addSecret (n + 1) secret).labels (t.addSecret (n + 1) secret).labelCount =
      .ok ((n : Int) + 1) := crowd.nextLabelId intact.counted room
  have unlabelled : ¬ ((t.addSecret (n + 1) secret).labelId? ⟨name, n + 1⟩).isSome = true := by
    intro there
    obtain ⟨labelId, held⟩ := mem_labelCells.1 (labelId?_isSome.1 there)
    have owned := intact.owners _ (List.mem_map.2 ⟨_, held, rfl⟩)
    have counted := intact.counted.secrets _ (IdMap.contains_iff_mem_keys.1 owned)
    rw [crowd.secretCount] at counted
    exact absurd counted (Int.not_le.2 (Int.lt_succ _))
  have known : (t.addSecret (n + 1) secret).secrets.contains (n + 1) = true := by
    simp [addSecret, IdMap.contains]
  simp only [Tables.attachLabel_eq, drawn, bind, Except.bind, if_neg unlabelled, known, if_true]
  rfl

theorem IsCrowd.grow (crowd : t.IsCrowd n) (counted : t.Counted) (room : (n : Int) < greatestId)
    (secret : StoredSecret) :
    ((t.addSecret (n + 1) secret).addLabel (n + 1) ⟨.text "l", n + 1⟩).IsCrowd (n + 1) where
  masterKey := crowd.masterKey
  secretCount := by
    simp only [addLabel, addSecret, crowd.secretCount]
    omega
  labelCount := by
    simp only [addLabel, addSecret, crowd.labelCount]
    omega
  secrets := by
    have above := nextId_above (crowd.nextSecretId counted room)
    simp only [addLabel, addSecret, IdMap.entries_insert_of_above secret above,
      List.length_append, crowd.secrets, List.length_singleton]
  labelled := by
    intro id known
    have above := nextId_above (crowd.nextLabelId counted room)
    rw [@labelCells_addLabel (t.addSecret (n + 1) secret) (n + 1) above]
    split
    · simp
    · rename_i other
      refine crowd.labelled id ?_
      simpa [addLabel, addSecret, IdMap.contains, other] using known

end Tables

theorem Database.isCrowd_after {n : Nat} (room : (n : Int) ≤ greatestId) :
    (fresh.after (Operation.crowd n)).current.IsCrowd n := by
  induction n with
  | zero => exact ⟨rfl, rfl, rfl, rfl, nofun⟩
  | succ n ih =>
    have below : (n : Int) < greatestId := by omega
    have crowd := ih (Int.le_of_lt below)
    have reachable : (fresh.after (Operation.crowd n)).Reachable := .after .fresh _
    have intact := reachable.intact.current
    rw [Operation.crowd_succ, after_append]
    generalize fresh.after (Operation.crowd n) = d at crowd intact
    let created := d.current.addSecret (n + 1) ⟨.text "n", .text "p"⟩
    let grown := created.addLabel (n + 1) ⟨.text "l", n + 1⟩
    have inserted : (Statement.insertSecret "n" "p").change d.current =
        .ok ((n : Int) + 1, created) :=
      crowd.insertSecret intact.counted below _
    have attached : (Statement.insertLabel "l" (n + 1)).change (d.put created).current =
        .ok (some ((n : Int) + 1), grown) := by
      rw [current_put]
      exact crowd.attachLabel intact below _ _
    have first : (Operation.insertSecret "n" "p").perform d = (.ok _, d.put created) :=
      Plan.perform_send_of_ok inserted
    have second : (Operation.insertLabel "l" (n + 1)).perform (d.put created) =
        (.ok _, (d.put created).put grown) :=
      Plan.perform_send_of_ok attached
    rw [after, List.foldl_cons, first, List.foldl_cons, second, List.foldl_nil, current_put]
    exact crowd.grow intact.counted below _

end Engine

theorem Glob.matchesText_star (s : String) : matchesText "*" s = true := by
  have star : items (codes "*") = [.run] := by decide +kernel
  rw [matchesText, matchesCodes, star, compare, compareRun]
  rfl

/-- A pattern that begins with a wildcard is told apart from every label. -/
theorem Engine.Tables.comparable_star (t : Tables) : t.Comparable ["*"] .label := by
  intro entry member pattern tried c start
  have literal : literalText "*" = [] := by decide +kernel
  rw [List.mem_singleton.1 tried, literal] at start
  cases start

/-- What matches everything finds the whole crowd. -/
theorem Script.search_crowd {s : Session} (reachable : s.connection.database.Reachable) {n : Nat}
    (crowd : s.connection.database.current.IsCrowd n) :
    ∃ found, (Session.carryOut (search none ["*"]) s).1 = .ok found ∧ found.entries.length = n := by
  obtain ⟨v, represented⟩ := reachable.isVault.current
  have searched := reads_search represented.readable none ["*"]
  obtain ⟨-, -, accepted⟩ := perform_search represented.readable (conditions none ["*"])
  have nameless : s.connection.database.current.Comparable (none : Option String).toList
      .secretName := fun _ _ _ tried => absurd tried List.not_mem_nil
  rw [listing_found fun id secret stored row member => tellsApart_conditions
    represented.readable (Tables.comparable_star _) nameless stored member] at accepted
  rw [accepted (@Statement.accepts_searchColumn s.connection.database.current .label ["*"]
    ⟨by decide, by decide +kernel⟩)] at searched
  refine ⟨_, (searched s rfl).1, ?_⟩
  rw [← crowd.secrets]
  refine IdMap.length_eq_of_contains fun id => ?_
  have labelled := crowd.labelled id
  rw [represented.labels, Vault.labels] at labelled
  rw [represented.contains, IdMap.contains] at labelled ⊢
  rw [IdMap.contains, represented.get?_listing_conditions]
  cases found : v.entries.get? id with
  | none => rfl
  | some e =>
    rw [found] at labelled
    have all : e.labels.filter (e.chosen none ["*"]) = e.labels :=
      List.filter_eq_self.2 fun label _ => Vault.Entry.chosen_iff.2
        ⟨.inr (List.any_eq_true.2 ⟨"*", List.mem_singleton_self _, matchesText_star label⟩),
          by simp⟩
    rw [Option.bind_some, all]
    cases given : e.labels with
    | nil =>
      rw [Option.map_some, Option.getD_some, given] at labelled
      cases labelled rfl
    | cons first others => rfl

/-- A crowd is found, but not listed. -/
theorem Script.crowd_not_listed {n : Nat} (many : maxParams < n) (room : (n : Int) ≤ greatestId) :
    let s := Session.opened (Database.fresh.after (Operation.crowd n))
    s.connection.database.Reachable ∧ s.connection.database.current.masterKey ≠ none ∧
      ∃ found, (Session.carryOut (search none ["*"]) s).1 = .ok found ∧
        (Session.carryOut (Command.find none ["*"] false).script s).1 ≠ .ok () := by
  intro s
  have reachable : s.connection.database.Reachable := .after .fresh _
  have crowd : s.connection.database.current.IsCrowd n := Database.isCrowd_after room
  have keyed : s.connection.database.current.masterKey ≠ none := by simp [crowd.masterKey]
  clear_value s
  obtain ⟨found, answered, size⟩ := search_crowd reachable crowd
  obtain ⟨v, represented⟩ := reachable.isVault.current
  obtain ⟨searched, -⟩ := reads_search_of_answered represented.readable answered
  have finds := reads_find_of_crowd (List.cons_ne_nil _ _) searched (size ▸ many) false
  have initialized : v.masterKey ≠ none := by
    intro missing
    rw [represented.masterKey, missing] at keyed
    exact keyed rfl
  obtain ⟨fails, -⟩ := reads_command_of_find represented initialized finds s rfl
  refine ⟨reachable, keyed, found, answered, ?_⟩
  rw [fails]
  exact nofun

/-- In a vault with one secret more than a statement can bind, a listing by a label that all of them
have fails after its first search has found them all. -/
theorem found_not_listed :
    ¬ ∀ s : Session, s.connection.database.Reachable →
      s.connection.database.current.masterKey ≠ none →
      ∀ (name : Option String) (labels : List String) (json : Bool) (found : LabeledSecrets),
        labels ≠ [] → (Session.carryOut (Script.search name labels) s).1 = .ok found →
        (Session.carryOut (Command.find name labels json).script s).1 = .ok () := by
  intro lists
  obtain ⟨reachable, keyed, found, answered, fails⟩ :=
    @Script.crowd_not_listed 32767 (by decide) (by decide)
  exact fails (lists _ reachable keyed none ["*"] false found (List.cons_ne_nil _ _) answered)

end SecretVault
