import SecretVault.Proofs.Query.Grammar

/-!
What a composed query means. Its text is put together from pieces, each of which is a condition on
its own wherever it stands; so what SQL reads of the whole is the conjunction of the clauses, with
the placeholders in the order of the values.
-/
namespace SecretVault
open SecretVault.Sql

namespace Sql
variable {s s' s'' : Scanner} {a b text : List Char} {ts us : List Token}

/-- The text is cut into these tokens. -/
def Scans (s : Scanner) (text : List Char) (ts : List Token) (s' : Scanner) : Prop :=
  s.scan text = (ts, s')

theorem Scans.append (first : Scans s a ts s') (second : Scans s' b us s'') :
    Scans s (a ++ b) (ts ++ us) s'' := by
  induction a generalizing s ts with
  | nil =>
    cases first
    exact second
  | cons c rest ih =>
    cases first
    have later := ih rfl
    rw [Scans] at later ⊢
    simp only [List.cons_append, Scanner.scan, later, List.append_assoc]

/-- In this list of values these have their place from this number on. -/
def At (n : Nat) (values all : List Param) : Prop :=
  ∃ before after, all = before ++ values ++ after ∧ before.length = n

section
variable {n : Nat} {values others all : List Param}

theorem At.left (here : At n (values ++ others) all) : At n values all := by
  obtain ⟨before, after, rfl, length⟩ := here
  exact ⟨before, others ++ after, by simp, length⟩

theorem At.right (here : At n (values ++ others) all) : At (n + values.length) others all := by
  obtain ⟨before, after, rfl, length⟩ := here
  exact ⟨before ++ values, after, by simp, by simp [length]⟩

theorem At.getElem? (here : At n values all) {i : Nat} (inside : i < values.length) :
    all[n + i]? = some values[i] := by
  obtain ⟨before, after, rfl, rfl⟩ := here
  rw [List.append_assoc, List.getElem?_append_right (by omega), Nat.add_sub_cancel_left,
    List.getElem?_append_left inside, List.getElem?_eq_getElem inside]

/-- What their numbers are bound to are these values. -/
theorem At.mem_range' (here : At n values all) {number : Nat}
    (inside : number ∈ List.range' n values.length) :
    ∃ value ∈ values, all[number]? = some value := by
  obtain ⟨i, small, rfl⟩ := List.mem_range'.1 inside
  rw [Nat.one_mul]
  exact ⟨values[i], List.getElem_mem small, here.getElem? small⟩

theorem At.exists_range'_iff (here : At n values all) (P : Param → Prop) :
    (∃ number ∈ List.range' n values.length, ∃ value, all[number]? = some value ∧ P value) ↔
      ∃ value ∈ values, P value := by
  constructor
  · rintro ⟨number, inside, value, bound, holds⟩
    obtain ⟨value', member, bound'⟩ := here.mem_range' inside
    obtain rfl := Option.some.inj (bound.symm.trans bound')
    exact ⟨value, member, holds⟩
  · rintro ⟨value, member, holds⟩
    obtain ⟨i, small, rfl⟩ := List.getElem_of_mem member
    exact ⟨n + i, List.mem_range'.2 ⟨i, small, by simp⟩, _, here.getElem? small, holds⟩

end

/-- The placeholders of the condition have the numbers of these values, each for a value of its
kind; and with the values bound the condition is true of the rows that are accepted. -/
structure Condition.Binds (c : Condition) (n : Nat) (values : List Param) (accepts : Row → Prop) :
    Prop where
  numbers : c.numbers = List.range' n values.length
  typed : ∀ all, At n values all → c.Typed all
  holds : ∀ row all, At n values all → (c.Holds row all ↔ accepts row)

/-- What ends a condition of a level. -/
def Level.Ends : Level → List Token → Prop
  | .test, _ => True
  | .joined .and, rest => Stops "AND" rest
  | .joined .or, rest => Stops "AND" rest ∧ Stops "OR" rest

theorem Level.ends_of_other {token : Token}
    (other : ∀ joint : Joint, token.is joint.keyword = false) (level : Level)
    (rest : List Token) : level.Ends (token :: rest) := by
  have stops (joint : Joint) : Stops joint.keyword (token :: rest) := by
    rintro _ ⟨⟩
    exact other joint
  match level with
  | .test => trivial
  | .joined .and => exact stops .and
  | .joined .or => exact ⟨stops .and, stops .or⟩

theorem Level.ends_nil (level : Level) : level.Ends [] := by
  match level with
  | .test => trivial
  | .joined .and => exact nofun
  | .joined .or => exact ⟨nofun, nofun⟩

namespace Joint
variable {rest : List Token}

/-- What ends a joined condition ends the last one that is joined. -/
theorem ends_operand {joint : Joint} (ends : (Level.joined joint).Ends rest) :
    joint.operand.Ends rest ∧ Stops joint.keyword rest := by
  cases joint with
  | and => exact ⟨trivial, ends⟩
  | or => exact ends

theorem ends_keyword (joint : Joint) :
    joint.operand.Ends (.word joint.keyword.toList :: rest) := by
  cases joint with
  | and => trivial
  | or =>
    rintro _ ⟨⟩
    rfl

/-- The text between two conditions that are joined. -/
def separator : Joint → String
  | .and => " AND "
  | .or => " OR "

/-- All of the conditions hold, or one of them. -/
def HoldsAmong {α : Type} (joint : Joint) (list : List α) (P : α → Prop) : Prop :=
  match joint with
  | .and => ∀ a ∈ list, P a
  | .or => ∃ a ∈ list, P a

theorem holdsAmong_singleton {α : Type} (joint : Joint) (a : α) (P : α → Prop) :
    joint.HoldsAmong [a] P ↔ P a := by
  cases joint <;> simp [HoldsAmong]

theorem holdsAmong_cons_cons {α : Type} (joint : Joint) (a b : α) (list : List α) (P : α → Prop) :
    joint.HoldsAmong (a :: b :: list) P ↔ joint.Holds (P a) (joint.HoldsAmong (b :: list) P) := by
  cases joint <;> simp [HoldsAmong, Holds]

theorem scans_separator (joint : Joint) (n : Nat) :
    Scans ⟨.between, n⟩ joint.separator.toList [.word joint.keyword.toList] ⟨.between, n⟩ := by
  cases joint <;> rfl

end Joint

/-- Wherever the text stands, it is a condition with a placeholder for each of these values, true of
the rows that are accepted. -/
structure Expresses (level : Level) (text : List Char) (values : List Param)
    (accepts : Row → Prop) : Prop where
  count : text.count '?' = values.length
  reads : ∀ n, ∃ ts c, Scans ⟨.between, n⟩ text ts ⟨.between, n + values.length⟩ ∧
    (∀ rest, level.Ends rest → Reads level (ts ++ rest) c rest) ∧ c.Binds n values accepts

namespace Expresses
variable {level : Level} {values others : List Param} {accepts accepts' : Row → Prop}

theorem congr (expresses : Expresses level text values accepts)
    (same : ∀ row, accepts row ↔ accepts' row) : Expresses level text values accepts' := by
  rwa [← funext fun row => propext (same row)]

/-- One condition alone is joined with no other. -/
theorem joined (joint : Joint) (alone : Expresses joint.operand text values accepts) :
    Expresses (.joined joint) text values accepts := by
  refine ⟨alone.count, fun n => ?_⟩
  obtain ⟨ts, c, scans, reads, binds⟩ := alone.reads n
  refine ⟨ts, c, scans, fun rest ends => ?_, binds⟩
  obtain ⟨endsAlone, stops⟩ := joint.ends_operand ends
  exact .last (reads rest endsAlone) stops

/-- In parentheses a condition is a test. -/
theorem group (inner : Expresses (.joined .or) text values accepts) :
    Expresses .test ('(' :: (text ++ [')'])) values accepts := by
  refine ⟨by simp [inner.count], fun n => ?_⟩
  obtain ⟨ts, c, scans, reads, binds⟩ := inner.reads n
  have opening : Scans ⟨.between, n⟩ ['('] [.symbol '('] ⟨.between, n⟩ := rfl
  have closing : Scans ⟨.between, n + values.length⟩ [')'] [.symbol ')']
    ⟨.between, n + values.length⟩ := rfl
  refine ⟨_, c, opening.append (scans.append closing), fun rest _ => ?_, binds⟩
  have read := reads (.symbol ')' :: rest) (Level.ends_of_other (fun _ => rfl) _ rest)
  simpa using Reads.group read

theorem join {joint : Joint} (first : Expresses joint.operand a values accepts)
    (second : Expresses (.joined joint) b others accepts') :
    Expresses (.joined joint) (a ++ joint.separator.toList ++ b) (values ++ others)
      (fun row => joint.Holds (accepts row) (accepts' row)) := by
  have noMark : joint.separator.toList.count '?' = 0 := by cases joint <;> rfl
  refine ⟨by simp [first.count, second.count, noMark], fun n => ?_⟩
  obtain ⟨ts, c, scans, reads, binds⟩ := first.reads n
  obtain ⟨us, d, scans', reads', binds'⟩ := second.reads (n + values.length)
  refine ⟨ts ++ [.word joint.keyword.toList] ++ us, .joined joint c d, ?_, fun rest ends => ?_, ?_⟩
  · rw [List.length_append, ← Nat.add_assoc]
    exact (scans.append (joint.scans_separator _)).append scans'
  · have is : (Token.word joint.keyword.toList).is joint.keyword = true := by cases joint <;> rfl
    have read := reads (.word joint.keyword.toList :: (us ++ rest)) joint.ends_keyword
    simpa using Reads.join read is (reads' rest ends)
  · constructor
    · rw [Condition.numbers, binds.numbers, binds'.numbers, List.length_append,
        List.range'_append_1]
    · intro all here
      exact ⟨binds.typed all here.left, binds'.typed all here.right⟩
    · intro row all here
      rw [Condition.Holds, binds.holds row all here.left, binds'.holds row all here.right]

/-- Texts with a separator between them are joined. -/
theorem intercalate (joint : Joint) {α : Type} {text : α → String} {values : α → List Param}
    {accepts : α → Row → Prop} {first : α} {others : List α}
    (each : ∀ a ∈ first :: others, Expresses joint.operand (text a).toList (values a) (accepts a)) :
    Expresses (.joined joint) (joint.separator.intercalate ((first :: others).map text)).toList
      ((first :: others).flatMap values)
      (fun row => joint.HoldsAmong (first :: others) fun a => accepts a row) := by
  induction others generalizing first with
  | nil =>
    have alone := (each first List.mem_cons_self).joined joint
    rw [List.map_singleton, String.intercalate_singleton, List.flatMap_singleton]
    exact alone.congr fun row => (joint.holdsAmong_singleton first fun a => accepts a row).symm
  | cons second others ih =>
    have later := ih fun a member => each a (List.mem_cons_of_mem first member)
    have joined := (each first List.mem_cons_self).join later
    rw [List.map_cons, List.map_cons, String.intercalate_cons_cons, List.flatMap_cons,
      String.toList_append, String.toList_append]
    exact joined.congr fun row =>
      (joint.holdsAmong_cons_cons first second others fun a => accepts a row).symm

end Expresses

/-! The texts of the clauses. -/

theorem expresses_glob (column : Column) (pattern : String) :
    Expresses .test (column.sql ++ " GLOB ?").toList [.text pattern]
      (·.globs column.sql (.text pattern)) := by
  refine ⟨by cases column <;> rfl, fun n => ?_⟩
  have bound {all : List Param} (here : At n [.text pattern] all) :
      all[n]? = some (.text pattern) := here.getElem? (i := 0) Nat.one_pos
  have reads : ∃ ts, Scans ⟨.between, n⟩ (column.sql ++ " GLOB ?").toList ts ⟨.between, n + 1⟩ ∧
      ∀ rest, Reads .test (ts ++ rest) (.glob column.sql n) rest := by
    cases column <;> exact ⟨_, rfl, fun rest => .glob rfl⟩
  obtain ⟨ts, scans, read⟩ := reads
  refine ⟨ts, .glob column.sql n, scans, fun rest _ => read rest, rfl, ?_, ?_⟩
  · intro all here
    exact ⟨pattern, bound here⟩
  · intro row all here
    rw [Condition.Holds, bound here]
    simp

/-- A list of placeholders up to the end of its parentheses. -/
theorem scans_placeholders (first : Int) (others : List Int) (n : Nat) :
    ∃ ts, Scans ⟨.between, n⟩ (", ".intercalate ((first :: others).map fun _ => "?") ++ ")").toList
        ts ⟨.between, n + (first :: others).length⟩ ∧
      ∀ rest, ReadsNumbers (ts ++ rest) (List.range' n (first :: others).length) rest := by
  induction others generalizing first n with
  | nil =>
    rw [List.map_singleton, String.intercalate_singleton]
    exact ⟨[.placeholder n, .symbol ')'], rfl, fun rest => .last⟩
  | cons second others ih =>
    obtain ⟨ts, scans, read⟩ := ih second (n + 1)
    have head : Scans ⟨.between, n⟩ "?, ".toList [.placeholder n, .symbol ','] ⟨.between, n + 1⟩ :=
      rfl
    refine ⟨[.placeholder n, .symbol ','] ++ ts, ?_, fun rest => .more (read rest)⟩
    have whole := head.append scans
    rw [List.length_cons, Nat.add_comm (second :: others).length, ← Nat.add_assoc]
    simpa [String.intercalate_cons_cons] using whole

theorem count_placeholders (first : Int) (others : List Int) :
    (", ".intercalate ((first :: others).map fun _ => "?")).toList.count '?' =
      (first :: others).length := by
  induction others generalizing first with
  | nil => simp
  | cons second others ih =>
    rw [List.map_cons, List.map_cons, String.intercalate_cons_cons]
    have later := ih second
    rw [List.map_cons] at later
    simp only [String.toList_append, List.count_append, later]
    simp [Nat.add_comm]

theorem expresses_among (column : Column) (first : Int) (others : List Int) :
    Expresses .test
      (column.sql ++ " IN (" ++ ", ".intercalate ((first :: others).map fun _ => "?") ++ ")").toList
      ((first :: others).map .int)
      (fun row => ∃ id ∈ first :: others, row.equals column.sql (.int id)) := by
  have noMark : column.sql.toList.count '?' = 0 := by cases column <;> rfl
  constructor
  · simp only [String.toList_append, List.count_append, count_placeholders, noMark]
    simp
  · intro n
    obtain ⟨us, scansList, readList⟩ := scans_placeholders first others n
    have opening : ∃ ts, Scans ⟨.between, n⟩ (column.sql ++ " IN (").toList ts ⟨.between, n⟩ ∧
        ∀ rest, Reads .test (ts ++ (us ++ rest))
          (.among column.sql (List.range' n (first :: others).length)) rest := by
      cases column <;> exact ⟨_, rfl, fun rest => .among rfl (readList rest)⟩
    obtain ⟨ts, scans, read⟩ := opening
    refine ⟨ts ++ us, _, ?_, fun rest _ => List.append_assoc ts us rest ▸ read rest, ?_⟩
    · have whole := scans.append scansList
      simpa using whole
    · have length : ((first :: others).map Param.int).length = (first :: others).length :=
        List.length_map _
      refine ⟨by rw [length]; rfl, fun all here number inside => ?_, fun row all here => ?_⟩
      · rw [← length] at inside
        obtain ⟨value, member, bound⟩ := here.mem_range' inside
        obtain ⟨id, -, rfl⟩ := List.mem_map.1 member
        exact ⟨id, bound⟩
      · rw [Condition.Holds, ← length, here.exists_range'_iff (row.equals column.sql)]
        constructor
        · rintro ⟨value, member, equals⟩
          obtain ⟨id, given, rfl⟩ := List.mem_map.1 member
          exact ⟨id, given, equals⟩
        · rintro ⟨id, given, equals⟩
          exact ⟨.int id, List.mem_map_of_mem given, equals⟩

end Sql

namespace Clause

/-- A row that some pattern of the clause matches, or that has one of its ids. -/
def Accepts (row : Row) : Clause → Prop
  | .unfiltered => True
  | .glob column first others => ∃ pattern ∈ first :: others, row.globs column.sql (.text pattern)
  | .among column first others => ∃ id ∈ first :: others, row.equals column.sql (.int id)

theorem expresses_predicate {clause : Clause} {predicate : String}
    (given : clause.predicate? = some predicate) :
    Expresses (.joined .or) predicate.toList clause.params (fun row => clause.Accepts row) := by
  cases clause with
  | unfiltered => cases given
  | glob column first others =>
    cases given
    have joined := Expresses.intercalate .or fun pattern (_ : pattern ∈ first :: others) =>
      (expresses_glob column pattern).joined .and
    rw [← List.map_eq_flatMap] at joined
    exact joined
  | among column first others =>
    cases given
    exact ((expresses_among column first others).joined .and).joined .or

end Clause
end SecretVault
