import SecretVault.Proofs.Glob.Language
import Mathlib.Tactic.Common

/-!
Reading a class. A bracket is read exactly where a class is written, up to the closing bracket that
ends it, and the codes read are those of the characters that the class contains. Here characters
are their own codes, as all but two noncharacters are, and NUL, which ends every text, is none.
-/
namespace SecretVault.Glob

section Reading
variable (ranges : List (Code × Code)) {before c last : Code} (rest : List Code)

theorem readRanges_close :
    readRanges ranges before (closeBracket :: rest) = some (ranges, rest) := by
  rw [readRanges.eq_def]
  exact if_pos rfl

theorem readRanges_single (notBracket : c ≠ closeBracket) (alone : ¬ (c = dash ∧ 0 < before)) :
    readRanges ranges before (c :: rest) = readRanges ((c, c) :: ranges) c rest := by
  rw [readRanges.eq_def]
  simp only [notBracket, alone, if_false]

theorem readRanges_range (positive : 0 < before) (notBracket : last ≠ closeBracket) :
    readRanges ranges before (dash :: last :: rest) =
      readRanges ((before, last) :: ranges) 0 rest := by
  have dashIsNoBracket : dash ≠ closeBracket := by decide
  rw [readRanges.eq_def]
  simp only [dashIsNoBracket, positive, notBracket, and_self, if_true, if_false]

theorem readRanges_lastDash (positive : 0 < before) :
    readRanges ranges before (dash :: closeBracket :: rest) =
      some ((dash, dash) :: ranges, rest) := by
  have dashIsNoBracket : dash ≠ closeBracket := by decide
  rw [readRanges.eq_def]
  simp only [dashIsNoBracket, positive, and_self, if_true, if_false]

end Reading

namespace Member

/-- The code ranges of a member, in the order in which the reader holds them, latest first. -/
def ranges : Member → List (Code × Code)
  | .single c => [(c.toNat, c.toNat)]
  | .range first last => [(first.toNat, last.toNat), (first.toNat, first.toNat)]

theorem any_ranges (x : Char) (m : Member) :
    (m.ranges.any fun range => range.1 ≤ x.toNat && x.toNat ≤ range.2) = true ↔ m.Contains x := by
  have same (c : Char) : c.toNat ≤ x.toNat ∧ x.toNat ≤ c.toNat ↔ x = c := by
    rw [← Char.toNat_inj]
    omega
  cases m with
  | single c => simpa [ranges, Contains] using same c
  | range first last =>
    simp only [ranges, Contains, List.any_cons, List.any_nil, Bool.or_false, Bool.or_eq_true,
      Bool.and_eq_true, decide_eq_true_eq, same]
    exact or_comm

/-- Members that are told apart do not begin with a closing bracket. -/
theorem head_ne_closeBracket {ms : List Member} {afterSingle : Bool}
    (apart : ToldApart afterSingle ms) : (ms.flatMap text).head? ≠ some ']' := by
  match ms with
  | [] => simp
  | .single c :: rest => simpa [text] using apart.1
  | .range first last :: rest => simpa [text] using apart.1

/-- Members that are told apart are read up to the closing bracket. -/
theorem readRanges_text {ms : List Member} {afterSingle : Bool} (apart : ToldApart afterSingle ms)
    (noNul : ∀ c ∈ ms.flatMap text, c ≠ '\x00') (before : Code)
    (nothingHeld : afterSingle = false → before = 0) (read : List (Code × Code))
    (rest : List Char) :
    readRanges read before ((ms.flatMap text ++ ']' :: rest).map Char.toNat) =
      some (ms.reverse.flatMap ranges ++ read, rest.map Char.toNat) := by
  induction ms generalizing afterSingle before read with
  | nil => exact readRanges_close read (rest.map Char.toNat)
  | cons m others ih =>
    have noNulLater : ∀ c ∈ others.flatMap text, c ≠ '\x00' := fun c member =>
      noNul c (by simp only [List.flatMap_cons, List.mem_append]; exact .inr member)
    cases m with
    | single c =>
      obtain ⟨notBracket, dashLast, later⟩ := apart
      simp only [List.flatMap_cons, text, List.cons_append, List.nil_append, List.map_cons]
      by_cases extending : c.toNat = dash ∧ 0 < before
      · -- A dash that would extend the character before it can only be the last member.
        have isDash : c = '-' := Char.toNat_inj.1 extending.1
        have afterCharacter : afterSingle = true := by
          by_contra first
          exact Nat.ne_of_gt extending.2 (nothingHeld (Bool.eq_false_iff.2 first))
        have isLast := dashLast afterCharacter isDash
        subst isDash isLast
        exact readRanges_lastDash read (rest.map Char.toNat) extending.2
      · rw [readRanges_single read _ (mt Char.toNat_inj.1 notBracket) extending,
          ih later noNulLater _ (by simp)]
        simp [ranges]
    | range first last =>
      obtain ⟨notBracket, lastNotBracket, notDash, later⟩ := apart
      have alone : ¬ (first.toNat = dash ∧ 0 < before) := by
        rintro ⟨isDash, positive⟩
        cases afterSingle with
        | false => exact Nat.ne_of_gt positive (nothingHeld rfl)
        | true => exact notDash rfl (Char.toNat_inj.1 isDash)
      have positive : 0 < first.toNat :=
        Nat.pos_of_ne_zero (mt (Char.toNat_inj (d := '\x00')).1 (noNul first (by simp [text])))
      simp only [List.flatMap_cons, text, List.cons_append, List.nil_append, List.map_cons]
      rw [readRanges_single read _ (mt Char.toNat_inj.1 notBracket) alone]
      refine (readRanges_range _ _ positive (mt Char.toNat_inj.1 lastNotBracket)).trans ?_
      rw [ih later noNulLater 0 (fun _ => rfl)]
      simp [ranges]

end Member

open Member

/-- The code of the character that a dash would extend to a range. -/
def heldCode : Option Char → Code
  | none => 0
  | some c => c.toNat

theorem exists_held {held : Option Char} (positive : 0 < heldCode held) : ∃ c, held = some c := by
  cases held with
  | none => cases positive
  | some c => exact ⟨c, rfl⟩

/-- What is read up to a closing bracket is written as members that are told apart. The character
that a dash would extend belongs to the first of them. -/
theorem exists_members_of_readRanges {ranges : List (Code × Code)} {before : Code} {cs : List Code}
    {result : List (Code × Code) × List Code} (read : readRanges ranges before cs = some result)
    (afterSingle : Bool) (held : Option Char) {body : List Char} (isHeld : before = heldCode held)
    (isBody : cs = body.map Char.toNat) (noNul : ∀ c ∈ held.toList ++ body, c ≠ '\x00')
    (fits : ∀ c ∈ held, c ≠ ']' ∧ (afterSingle = true → c ≠ '-'))
    (fresh : held = none → afterSingle = false) :
    ∃ ms rest, ToldApart afterSingle ms ∧ held.toList ++ body = ms.flatMap text ++ ']' :: rest := by
  induction ranges, before, cs using readRanges.induct generalizing afterSingle held body with
  | case1 => simp [readRanges] at read
  | case2 ranges before rest =>
    obtain ⟨c, body, rfl, closes, rfl⟩ := List.map_eq_cons_iff.1 isBody.symm
    obtain rfl : c = ']' := Char.toNat_inj.1 closes
    cases held with
    | none => exact ⟨[], body, trivial, rfl⟩
    | some a =>
      obtain ⟨notBracket, notDash⟩ := fits a rfl
      exact ⟨[.single a], body,
        ⟨notBracket, fun after isDash => absurd isDash (notDash after), trivial⟩, rfl⟩
  | case3 ranges before c notBracket extending =>
    obtain ⟨rfl, positive⟩ := extending
    rw [readRanges.eq_def] at read
    simp only [notBracket, positive, and_self, if_true, if_false] at read
    cases read
  | case4 ranges before c notBracket extending rest =>
    obtain ⟨a, rfl⟩ := exists_held (isHeld ▸ extending.2)
    obtain ⟨c, body, rfl, rfl, isRest⟩ := List.map_eq_cons_iff.1 isBody.symm
    obtain ⟨d, body, rfl, closes, rfl⟩ := List.map_eq_cons_iff.1 isRest
    obtain rfl : c = '-' := Char.toNat_inj.1 extending.1
    obtain rfl : d = ']' := Char.toNat_inj.1 closes
    obtain ⟨firstNotBracket, notDash⟩ := fits a rfl
    exact ⟨[.single a, .single '-'], body, ⟨firstNotBracket,
      fun after isDash => absurd isDash (notDash after), by decide, fun _ _ => rfl, trivial⟩, rfl⟩
  | case5 ranges before c notBracket extending last rest lastNotBracket ih =>
    obtain ⟨a, rfl⟩ := exists_held (isHeld ▸ extending.2)
    obtain ⟨c, body, rfl, rfl, isRest⟩ := List.map_eq_cons_iff.1 isBody.symm
    obtain ⟨last, body, rfl, rfl, rfl⟩ := List.map_eq_cons_iff.1 isRest
    obtain rfl : c = '-' := Char.toNat_inj.1 extending.1
    obtain ⟨firstNotBracket, notDash⟩ := fits a rfl
    rw [show '-'.toNat = dash from rfl, readRanges_range ranges _ extending.2 lastNotBracket] at read
    obtain ⟨ms, after, apart, split⟩ := ih read false none rfl rfl
      (fun x member => noNul x (List.mem_append_right _ (.tail _ (.tail _ member)))) (by simp)
      (fun _ => rfl)
    exact ⟨.range a last :: ms, after, ⟨firstNotBracket, mt Char.toNat_inj.2 lastNotBracket, notDash,
      apart⟩, by simpa [text] using split⟩
  | case6 ranges before c rest notBracket alone ih =>
    obtain ⟨c, body, rfl, rfl, rfl⟩ := List.map_eq_cons_iff.1 isBody.symm
    have notCloses : c ≠ ']' := mt Char.toNat_inj.2 notBracket
    rw [readRanges_single ranges _ notBracket alone] at read
    have noNulLater : ∀ x ∈ (some c).toList ++ body, x ≠ '\x00' := fun x member =>
      noNul x (List.mem_append_right _ member)
    cases held with
    | none =>
      obtain rfl : afterSingle = false := fresh rfl
      exact ih read false (some c) rfl rfl noNulLater (by simpa using notCloses) (by simp)
    | some a =>
      have positive : 0 < before := by
        rw [isHeld]
        exact Nat.pos_of_ne_zero (mt (Char.toNat_inj (d := '\x00')).1 (noNul a (by simp)))
      have notDash : c ≠ '-' := fun isDash => alone ⟨congrArg Char.toNat isDash, positive⟩
      obtain ⟨ms, after, apart, split⟩ := ih read true (some c) rfl rfl noNulLater
        (by simpa using ⟨notCloses, notDash⟩) (by simp)
      obtain ⟨firstNotBracket, firstNotDash⟩ := fits a rfl
      exact ⟨.single a :: ms, after, ⟨firstNotBracket,
        fun after isDash => absurd isDash (firstNotDash after), apart⟩, by simpa [text] using split⟩

/-- Reads what follows the caret. -/
def Bracket.readUncareted (negated : Bool) (cs : List Code) : Option (Bracket × List Code) :=
  (readRanges (if cs.head? = some closeBracket then [(closeBracket, closeBracket)] else []) 0
    (if cs.head? = some closeBracket then cs.tail else cs)).map
      fun (ranges, rest) => (⟨negated, ranges⟩, rest)

/-- A text with a character before it that may be missing. -/
def led (leads : Bool) (c : Char) (text : List Char) : List Char :=
  (if leads then [c] else []) ++ text

theorem exists_led (c : Char) (text : List Char) :
    ∃ leads rest, text = led leads c rest ∧ (leads = false → rest.head? ≠ some c) := by
  by_cases head : text.head? = some c
  · obtain ⟨rest, rfl⟩ := List.head?_eq_some_iff.1 head
    exact ⟨true, rest, rfl, by simp⟩
  · exact ⟨false, text, rfl, fun _ => head⟩

private theorem head?_map_toNat {text : List Char} {c : Char} :
    (text.map Char.toNat).head? = some c.toNat ↔ text.head? = some c := by
  cases text with
  | nil => simp
  | cons d rest => simp [Char.toNat_inj]

theorem Bracket.read_led {negated : Bool} {text : List Char}
    (uncareted : negated = false → text.head? ≠ some '^') :
    Bracket.read ((led negated '^' text).map Char.toNat) =
      Bracket.readUncareted negated (text.map Char.toNat) := by
  cases negated with
  | true => rfl
  | false =>
    have noCaret : ((text.map Char.toNat).head? == some caret) = false :=
      beq_eq_false_iff_ne.2 (mt head?_map_toNat.1 (uncareted rfl))
    simp only [led, Bracket.read, Bracket.readUncareted, Bool.false_eq_true, if_false,
      List.nil_append, noCaret]

theorem Bracket.readUncareted_led (negated : Bool) {bracket : Bool} {text : List Char}
    (unbracketed : bracket = false → text.head? ≠ some ']') :
    Bracket.readUncareted negated ((led bracket ']' text).map Char.toNat) =
      (readRanges (if bracket then [(closeBracket, closeBracket)] else []) 0
        (text.map Char.toNat)).map fun (ranges, rest) => (⟨negated, ranges⟩, rest) := by
  cases bracket with
  | true => rfl
  | false =>
    have noBracket : (text.map Char.toNat).head? ≠ some closeBracket :=
      mt head?_map_toNat.1 (unbracketed rfl)
    simp only [led, Bracket.readUncareted, Bool.false_eq_true, if_false, List.nil_append, noBracket]

namespace CharClass

theorem text_append (s : CharClass) (rest : List Char) : s.text ++ rest =
    led s.negated '^' (led s.bracket ']' (s.members.flatMap Member.text ++ rest)) := by
  simp [text, led]

/-- The set of codes that is read for a class. -/
def codeSet (s : CharClass) : Bracket :=
  ⟨s.negated, s.members.reverse.flatMap Member.ranges ++
    if s.bracket then [(closeBracket, closeBracket)] else []⟩

theorem contains_codeSet (s : CharClass) (x : Char) :
    s.codeSet.contains x.toNat = true ↔ s.Contains x := by
  have listed : (s.codeSet.ranges.any fun range => range.1 ≤ x.toNat && x.toNat ≤ range.2) = true ↔
      s.Lists x := by
    have inMembers : ((s.members.reverse.flatMap Member.ranges).any fun range =>
        range.1 ≤ x.toNat && x.toNat ≤ range.2) = true ↔ ∃ m ∈ s.members, m.Contains x := by
      simp only [List.any_flatMap, List.any_reverse, List.any_eq_true (l := s.members),
        Member.any_ranges]
    have isBracket : ((if s.bracket then [(closeBracket, closeBracket)] else []).any fun range =>
        range.1 ≤ x.toNat && x.toNat ≤ range.2) = true ↔ s.bracket = true ∧ x = ']' := by
      cases s.bracket with
      | false => simp
      | true =>
        have same := Member.any_ranges x (.single ']')
        simpa [Member.ranges, Member.Contains, closeBracket] using same
    simp only [codeSet, List.any_append, Bool.or_eq_true, inMembers, isBracket, Lists]
    exact or_comm
  unfold Contains Bracket.contains
  cases negated : s.negated with
  | false => simpa [codeSet, negated] using listed
  | true => simpa [codeSet, negated] using not_congr listed

/-- A class is read up to the bracket that closes it. -/
theorem read_text (s : CharClass) (noNul : ∀ c ∈ s.text, c ≠ '\x00') (rest : List Char) :
    Bracket.read ((s.text ++ ']' :: rest).map Char.toNat) =
      some (s.codeSet, rest.map Char.toNat) := by
  have unbracketed : s.bracket = false →
      (s.members.flatMap Member.text ++ ']' :: rest).head? ≠ some ']' := by
    intro noBracket
    have head := Member.head_ne_closeBracket s.apart
    obtain ⟨first, others, members⟩ := List.exists_cons_of_ne_nil (s.nonempty noBracket)
    rw [members] at head ⊢
    cases first <;> simpa [Member.text] using head
  have uncareted : s.negated = false →
      (led s.bracket ']' (s.members.flatMap Member.text ++ ']' :: rest)).head? ≠ some '^' := by
    intro plain
    cases bracket : s.bracket with
    | true => simp [led]
    | false =>
      have head := s.uncareted plain bracket
      cases written : s.members.flatMap Member.text with
      | nil => simp [led]
      | cons => simpa [led, written] using head
  rw [text_append, Bracket.read_led uncareted, Bracket.readUncareted_led _ unbracketed,
    Member.readRanges_text s.apart (fun c member => noNul c (by simp [text, member])) 0
      (fun _ => rfl)]
  rfl

/-- Whatever is read is a class. -/
theorem exists_of_read {body : List Char} (noNul : ∀ c ∈ body, c ≠ '\x00')
    {result : Bracket × List Code} (read : Bracket.read (body.map Char.toNat) = some result) :
    ∃ (s : CharClass) (rest : List Char), body = s.text ++ ']' :: rest := by
  obtain ⟨negated, inner, rfl, uncareted⟩ := exists_led '^' body
  obtain ⟨bracket, listed, rfl, unbracketed⟩ := exists_led ']' inner
  rw [Bracket.read_led uncareted, Bracket.readUncareted_led _ unbracketed,
    Option.map_eq_some_iff] at read
  obtain ⟨ranges, read, -⟩ := read
  obtain ⟨ms, rest, apart, split⟩ := exists_members_of_readRanges read false none rfl rfl
    (fun c member => noNul c (List.mem_append_right _ (List.mem_append_right _ member)))
    (by simp) (fun _ => rfl)
  obtain rfl : listed = ms.flatMap Member.text ++ ']' :: rest := split
  let s : CharClass := {
    negated, bracket, apart
    members := ms
    nonempty := by
      rintro noBracket rfl
      exact unbracketed noBracket rfl
    uncareted := by
      intro plain noBracket
      have head := uncareted plain
      cases written : ms.flatMap Member.text with
      | nil => simp
      | cons => simpa [led, noBracket, written] using head }
  exact ⟨s, rest, (text_append s _).symm⟩

/-- A class has one reading: where it ends, and which characters it contains. -/
theorem eq_of_text_eq {s s' : CharClass} {rest rest' : List Char}
    (noNul : ∀ c ∈ s.text ++ ']' :: rest, c ≠ '\x00')
    (same : s.text ++ ']' :: rest = s'.text ++ ']' :: rest') :
    rest = rest' ∧ ∀ x, s.Contains x ↔ s'.Contains x := by
  have read := read_text s (fun c member => noNul c (List.mem_append_left _ member)) rest
  rw [same, read_text s' (fun c member => noNul c (same ▸ List.mem_append_left _ member)),
    Option.some.injEq, Prod.mk.injEq] at read
  obtain ⟨sameSet, sameRest⟩ := read
  refine ⟨((List.map_inj_right fun _ _ => Char.toNat_inj.1).1 sameRest).symm, fun x => ?_⟩
  rw [← contains_codeSet, ← contains_codeSet, sameSet]

end CharClass

end SecretVault.Glob
