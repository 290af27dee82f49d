import SecretVault.Glob.Match
import SecretVault.Proofs.Glob.Classes
import SecretVault.Proofs.Glob.Literal

/-!
The matcher meets the language of patterns. Trying every place for a run is cut short where a later
run has failed; no fit is lost by it, since a later run that fails has tried every end of the value
that an earlier one could have left to it.
-/
namespace SecretVault.Glob

/-- The items take all the codes of the value, one each and any number by a run. -/
inductive Fits : List Item → List Code → Prop where
  | nothing : Fits [] []
  | run {rest : List Item} {value : List Code} (skipped : List Code) (others : Fits rest value) :
      Fits (.run :: rest) (skipped ++ value)
  | takes {item : Item} {rest : List Item} {x : Code} {value : List Code}
      (taken : item.takes x = true) (others : Fits rest value) : Fits (item :: rest) (x :: value)

/-- The items fit some end of the value. -/
def FitsEnd (items : List Item) (value : List Code) : Prop :=
  ∃ after, after <:+ value ∧ Fits items after

section Fits
variable {item : Item} {rest : List Item} {x : Code} {value : List Code}

theorem fits_nil_iff : Fits [] value ↔ value = [] := by
  constructor
  · intro fits
    cases fits
    rfl
  · rintro rfl
    exact .nothing

theorem fits_run_iff : Fits (.run :: rest) value ↔ FitsEnd rest value := by
  constructor
  · intro fits
    cases fits with
    | run skipped others => exact ⟨_, List.suffix_append skipped _, others⟩
    | takes taken others => cases taken
  · rintro ⟨after, ⟨skipped, rfl⟩, others⟩
    exact .run skipped others

/-- Every item but a run takes one code. -/
theorem fits_cons_iff (single : item ≠ .run) : Fits (item :: rest) value ↔
    ∃ x after, value = x :: after ∧ item.takes x = true ∧ Fits rest after := by
  constructor
  · intro fits
    cases fits with
    | run => exact absurd rfl single
    | takes taken others => exact ⟨_, _, rfl, taken, others⟩
  · rintro ⟨x, after, rfl, taken, others⟩
    exact .takes taken others

theorem not_fits_unclosed : ¬ Fits (.unclosed :: rest) value := by
  intro fits
  cases fits with
  | takes taken others => cases taken

/-- A run before a run adds nothing. -/
theorem fitsEnd_run_iff : FitsEnd (.run :: rest) value ↔ FitsEnd rest value := by
  constructor
  · rintro ⟨after, within, fits⟩
    obtain ⟨later, withinAfter, others⟩ := fits_run_iff.1 fits
    exact ⟨later, withinAfter.trans within, others⟩
  · rintro ⟨after, within, others⟩
    exact ⟨after, within, fits_run_iff.2 ⟨after, List.suffix_refl after, others⟩⟩

theorem fitsEnd_cons_iff {items : List Item} :
    FitsEnd items (x :: value) ↔ Fits items (x :: value) ∨ FitsEnd items value := by
  constructor
  · rintro ⟨after, within, fits⟩
    rcases List.suffix_cons_iff.1 within with rfl | within
    · exact .inl fits
    · exact .inr ⟨after, within, fits⟩
  · rintro (fits | ⟨after, within, fits⟩)
    · exact ⟨_, List.suffix_refl _, fits⟩
    · exact ⟨after, within.trans (List.suffix_cons x value), fits⟩

theorem not_fitsEnd_nil (single : item ≠ .run) : ¬ FitsEnd (item :: rest) [] := by
  rintro ⟨after, within, fits⟩
  obtain ⟨x, others, rfl, -⟩ := (fits_cons_iff single).1 fits
  simp at within

/-- Where items fit no end of a value, nothing before them can make them fit an end of it. -/
theorem not_fitsEnd_cons (single : item ≠ .run) (nowhere : ¬ FitsEnd rest value) :
    ¬ FitsEnd (item :: rest) (x :: value) := by
  rintro ⟨after, within, fits⟩
  obtain ⟨y, others, rfl, -, fits⟩ := (fits_cons_iff single).1 fits
  refine nowhere ⟨others, ?_, fits⟩
  rcases List.suffix_cons_iff.1 within with same | within
  · cases same
    exact List.suffix_refl _
  · exact (List.suffix_cons y others).trans within

/-- What takes any code can take the one before the end that the items after it fit. -/
theorem fitsEnd_one_iff : FitsEnd (.one :: rest) (x :: value) ↔ FitsEnd rest value := by
  constructor
  · exact not_imp_not.1 (not_fitsEnd_cons (by simp))
  · rintro ⟨after, ⟨skipped, rfl⟩, others⟩
    obtain ⟨before, last, split⟩ := (x :: skipped).eq_nil_or_concat.resolve_left (by simp)
    refine ⟨last :: after, ⟨before, ?_⟩, .takes rfl others⟩
    rw [← List.cons_append, split]
    simp

theorem Fits.fitsEnd {items : List Item} (fits : Fits items value) : FitsEnd items value :=
  ⟨value, List.suffix_refl value, fits⟩

end Fits

/-- What an outcome says of the whole of a value, and a hopeless one of all its ends. -/
def Outcome.Tells (items : List Item) (value : List Code) : Outcome → Prop
  | .matched => Fits items value
  | .mismatch => ¬ Fits items value
  | .hopeless => ¬ FitsEnd items value

/-- What an outcome after a run says; a run never ends in a mere mismatch. -/
def Outcome.TellsEnd (items : List Item) (value : List Code) : Outcome → Prop
  | .matched => FitsEnd items value
  | .mismatch => False
  | .hopeless => ¬ FitsEnd items value

section Outcome
variable {item : Item} {rest : List Item}

theorem Outcome.Tells.cons (single : item ≠ .run) {x : Code} {value : List Code}
    (taken : item.takes x = true) {outcome : Outcome} (tells : outcome.Tells rest value) :
    outcome.Tells (item :: rest) (x :: value) := by
  cases outcome with
  | matched => exact .takes taken tells
  | mismatch =>
    intro fits
    obtain ⟨y, after, same, -, fits⟩ := (fits_cons_iff single).1 fits
    cases same
    exact tells fits
  | hopeless => exact not_fitsEnd_cons single tells

theorem Outcome.TellsEnd.run {value : List Code} {outcome : Outcome}
    (tells : outcome.TellsEnd rest value) : outcome.Tells (.run :: rest) value := by
  cases outcome with
  | matched => exact fits_run_iff.2 tells
  | mismatch => exact tells.elim
  | hopeless => exact mt fitsEnd_run_iff.1 tells

theorem Outcome.TellsEnd.congr {items items' : List Item} {value value' : List Code}
    {outcome : Outcome} (tells : outcome.TellsEnd items value)
    (same : FitsEnd items' value' ↔ FitsEnd items value) : outcome.TellsEnd items' value' := by
  cases outcome with
  | matched => exact same.2 tells
  | mismatch => exact tells
  | hopeless => exact mt same.1 tells

theorem not_fits_of_not_takes (single : item ≠ .run) {x : Code} {value : List Code}
    (refused : item.takes x ≠ true) : ¬ Fits (item :: rest) (x :: value) := by
  intro fits
  obtain ⟨y, after, same, taken, -⟩ := (fits_cons_iff single).1 fits
  cases same
  exact refused taken

theorem Outcome.Tells.tellsEnd {items : List Item} {value : List Code} {outcome : Outcome}
    (decisive : outcome ≠ .mismatch) (tells : outcome.Tells items value) :
    outcome.TellsEnd items value := by
  cases outcome with
  | matched => exact Fits.fitsEnd tells
  | mismatch => exact absurd rfl decisive
  | hopeless => exact tells

/-- The first decisive outcome tells of all the places after a run: before it stand mismatches
alone, and a hopeless one rules out the places behind it. -/
theorem firstDecisive_tellsEnd (single : item ≠ .run)
    (tells : ∀ value, (compare rest value).Tells rest value) (value : List Code) :
    (firstDecisive item.takes (fun _ after => compare rest after) value).TellsEnd
      (item :: rest) value := by
  induction value with
  | nil => exact not_fitsEnd_nil single
  | cons x value ih =>
    have passOver (unfit : ¬ Fits (item :: rest) (x :: value)) :
        FitsEnd (item :: rest) (x :: value) ↔ FitsEnd (item :: rest) value :=
      fitsEnd_cons_iff.trans (or_iff_right unfit)
    rw [firstDecisive]
    split
    · rename_i taken
      have here := (tells value).cons single taken
      split
      · rename_i mismatch
        rw [mismatch] at here
        exact ih.congr (passOver here)
      · rename_i decisive
        exact here.tellsEnd decisive
    · rename_i refused
      exact ih.congr (passOver (not_fits_of_not_takes single refused))

theorem compare_cons (single : item ≠ .run) (x : Code) (value : List Code) :
    compare (item :: rest) (x :: value) =
      if item.takes x = true then compare rest value else .mismatch := by
  cases item with
  | run => exact absurd rfl single
  | one | set | unclosed | code => rfl

theorem compare_cons_tells (single : item ≠ .run)
    (tells : ∀ value, (compare rest value).Tells rest value) (value : List Code) :
    (compare (item :: rest) value).Tells (item :: rest) value := by
  cases value with
  | nil =>
    have mismatch : compare (item :: rest) [] = .mismatch := by
      cases item with
      | run => exact absurd rfl single
      | one | set | unclosed | code => rfl
    rw [mismatch]
    exact fun fits => not_fitsEnd_nil single fits.fitsEnd
  | cons x value =>
    rw [compare_cons single]
    split
    · rename_i taken
      exact (tells value).cons single taken
    · rename_i refused
      exact not_fits_of_not_takes single refused

/-- What comparing yields is true of all items and values, with or without a run before. -/
theorem compare_tells (items : List Item) : ∀ value,
    (compare items value).Tells items value ∧ (compareRun items value).TellsEnd items value := by
  induction items with
  | nil =>
    intro value
    have matched : Outcome.matched.TellsEnd [] value := ⟨[], List.nil_suffix, .nothing⟩
    cases value with
    | nil => exact ⟨.nothing, matched⟩
    | cons x value => exact ⟨by simp [compare, Outcome.Tells, fits_nil_iff], matched⟩
  | cons item rest ih =>
    intro value
    have later : ∀ value, (compare rest value).Tells rest value := fun value => (ih value).1
    cases item with
    | run => exact ⟨(ih value).2.run, (ih value).2.congr fitsEnd_run_iff⟩
    | one =>
      refine ⟨compare_cons_tells (by simp) later value, ?_⟩
      cases value with
      | nil => exact not_fitsEnd_nil (by simp)
      | cons x value => exact (ih value).2.congr fitsEnd_one_iff
    | set | unclosed | code =>
      exact ⟨compare_cons_tells (by simp) later value,
        firstDecisive_tellsEnd (by simp) later value⟩

end Outcome

/-- A pattern matches a value exactly if its items fit. -/
theorem matchesCodes_iff_fits (pattern : String) (value : List Code) :
    matchesCodes pattern value = true ↔ Fits (items (codes pattern)) value := by
  have tells := (compare_tells (items (codes pattern)) value).1
  rw [matchesCodes, beq_iff_eq]
  cases outcome : compare (items (codes pattern)) value with
  | matched =>
    rw [outcome] at tells
    exact iff_of_true rfl tells
  | mismatch =>
    rw [outcome] at tells
    exact iff_of_false (by simp) tells
  | hopeless =>
    rw [outcome] at tells
    exact iff_of_false (by simp) fun fits => tells fits.fitsEnd

section Characters
variable {c : Char} {rest text : List Char}

theorem code_eq_star : c.toNat = star ↔ c = '*' := Char.toNat_inj
theorem code_eq_question : c.toNat = question ↔ c = '?' := Char.toNat_inj
theorem code_eq_openBracket : c.toNat = openBracket ↔ c = '[' := Char.toNat_inj

theorem fits_map_cons_iff {item : Item} (single : item ≠ .run) {after : List Item} :
    Fits (item :: after) (text.map Char.toNat) ↔
      ∃ x others, text = x :: others ∧ item.takes x.toNat = true ∧
        Fits after (others.map Char.toNat) := by
  cases text with
  | nil => simp [fits_cons_iff single]
  | cons x others => simp [fits_cons_iff single]

theorem fitsEnd_map_iff {after : List Item} : FitsEnd after (text.map Char.toNat) ↔
    ∃ skipped others, text = skipped ++ others ∧ Fits after (others.map Char.toNat) := by
  constructor
  · rintro ⟨value, ⟨before, split⟩, fits⟩
    obtain ⟨skipped, others, rfl, -, rfl⟩ := List.map_eq_append_iff.1 split.symm
    exact ⟨skipped, others, rfl, fits⟩
  · rintro ⟨skipped, others, rfl, fits⟩
    exact ⟨_, ⟨skipped.map Char.toNat, by simp⟩, fits⟩

end Characters

/-- The items of a pattern fit a text exactly if the pattern matches it. -/
theorem fits_items_iff_matches (pattern text : List Char) (noNul : ∀ c ∈ pattern, c ≠ '\x00') :
    Fits (items (pattern.map Char.toNat)) (text.map Char.toNat) ↔ Matches pattern text := by
  induction length : pattern.length using Nat.strongRecOn generalizing pattern text with
  | _ n ih =>
    cases pattern with
    | nil => simp [items, fits_nil_iff]
    | cons c rest =>
      have noNulLater : ∀ x ∈ rest, x ≠ '\x00' := fun x member => noNul x (.tail c member)
      have later (text : List Char) :
          Fits (items (rest.map Char.toNat)) (text.map Char.toNat) ↔ Matches rest text :=
        ih _ (by simp [← length]) rest text noNulLater rfl
      rw [List.map_cons, items]
      simp only [code_eq_star, code_eq_question, code_eq_openBracket]
      split
      · rename_i isRun
        subst isRun
        rw [fits_run_iff, fitsEnd_map_iff, Matches.run_iff]
        simp only [later]
      split
      · rename_i isOne
        subst isOne
        rw [fits_map_cons_iff (by simp), Matches.one_iff]
        simp only [later, Item.takes, true_and]
      split
      · rename_i isClass
        subst isClass
        rw [Matches.class_iff]
        split
        · rename_i unread
          refine iff_of_false not_fits_unclosed ?_
          rintro ⟨s, after, x, others, rfl, -⟩
          rw [s.read_text fun c member => noNulLater c (List.mem_append_left _ member)] at unread
          cases unread
        · rename_i b after read
          obtain ⟨s, behind, rfl⟩ := CharClass.exists_of_read noNulLater read
          rw [s.read_text fun c member => noNulLater c (List.mem_append_left _ member)] at read
          cases read
          have noNulBehind : ∀ x ∈ behind, x ≠ '\x00' := fun x member =>
            noNulLater x (List.mem_append_right _ (.tail _ member))
          have shorter : behind.length < n := by
            simp only [← length, List.length_cons, List.length_append]
            omega
          rw [fits_map_cons_iff (by simp)]
          simp only [ih _ shorter behind _ noNulBehind rfl, Item.takes, s.contains_codeSet]
          constructor
          · rintro ⟨x, others, split, contained, matched⟩
            exact ⟨s, behind, x, others, rfl, split, contained, matched⟩
          · rintro ⟨s', rest', x, others, same, split, contained, matched⟩
            obtain ⟨rfl, sameClass⟩ := CharClass.eq_of_text_eq noNulLater same
            exact ⟨x, others, split, (sameClass x).2 contained, matched⟩
      · rename_i notRun notOne notClass
        rw [fits_map_cons_iff (by simp), Matches.itself_iff ⟨notRun, notOne, notClass⟩]
        simp only [later, Item.takes, beq_iff_eq, Char.toNat_inj]
        constructor
        · rintro ⟨x, others, split, rfl, matched⟩
          exact ⟨others, split, matched⟩
        · rintro ⟨others, split, matched⟩
          exact ⟨c, others, split, rfl, matched⟩

theorem codes_of_isPlain {s : String} (plain : IsPlain s) : codes s = (seen s).map Char.toNat := by
  refine List.map_congr_left fun c member => if_neg ?_
  obtain ⟨notFirst, notSecond⟩ := plain c ((List.takeWhile_prefix _).subset member)
  rintro (same | same)
  · exact notFirst (Char.toNat_inj.1 same)
  · exact notSecond (Char.toNat_inj.1 same)

theorem ne_nul_of_mem_seen {s : String} : ∀ c ∈ seen s, c ≠ '\x00' := by
  intro c member
  have admitted := List.mem_takeWhile_imp member
  simpa using admitted

/-- Matching by codes is matching in the language of patterns. -/
theorem matchesCodes_iff_matches {pattern value : String} (patternPlain : IsPlain pattern)
    (valuePlain : IsPlain value) :
    matchesCodes pattern (codes value) = true ↔ Matches (seen pattern) (seen value) := by
  rw [matchesCodes_iff_fits, codes_of_isPlain patternPlain, codes_of_isPlain valuePlain]
  exact fits_items_iff_matches _ _ ne_nul_of_mem_seen

end SecretVault.Glob
