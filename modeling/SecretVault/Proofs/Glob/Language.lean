import SecretVault.Glob.Pattern

/-!
The language of patterns, said without a matcher. A pattern is a text in which `*` stands for any
characters, `?` for one, and a class in brackets for one of its members; every other character
stands for itself. A class has one reading only, as the conditions on its members tell how a dash
between them is meant.
-/
namespace SecretVault.Glob

/-- A member of a class: a character, or the characters from a first one to a last one. -/
inductive Member where
  | single (c : Char)
  | range (first last : Char)
  deriving DecidableEq, Repr

namespace Member

def text : Member → List Char
  | .single c => [c]
  | .range first last => [first, '-', last]

/-- The first character of a range always belongs to it, also if the last one comes before it. -/
def Contains (x : Char) : Member → Prop
  | .single c => x = c
  | .range first last => x = first ∨ first ≤ x ∧ x ≤ last

instance (x : Char) : (m : Member) → Decidable (m.Contains x)
  | .single c => inferInstanceAs (Decidable (x = c))
  | .range first last => inferInstanceAs (Decidable (x = first ∨ first ≤ x ∧ x ≤ last))

/-- The members are told apart as they are written, after a single character or not. No member has
a closing bracket, and a dash after a single character is the last member: otherwise it makes a
range of the character and the one behind the dash. -/
def ToldApart : (afterSingle : Bool) → List Member → Prop
  | _, [] => True
  | afterSingle, .single c :: rest =>
    c ≠ ']' ∧ (afterSingle = true → c = '-' → rest = []) ∧ ToldApart true rest
  | afterSingle, .range first last :: rest =>
    first ≠ ']' ∧ last ≠ ']' ∧ (afterSingle = true → first ≠ '-') ∧ ToldApart false rest

instance : (afterSingle : Bool) → (members : List Member) → Decidable (ToldApart afterSingle members)
  | _, [] => inferInstanceAs (Decidable True)
  | afterSingle, .single c :: rest =>
    have := instDecidableToldApart true rest
    inferInstanceAs (Decidable
      (c ≠ ']' ∧ (afterSingle = true → c = '-' → rest = []) ∧ ToldApart true rest))
  | afterSingle, .range first last :: rest =>
    have := instDecidableToldApart false rest
    inferInstanceAs (Decidable
      (first ≠ ']' ∧ last ≠ ']' ∧ (afterSingle = true → first ≠ '-') ∧ ToldApart false rest))

end Member

/-- A class as it is written between its brackets: a caret first if it is negated, then a closing
bracket if this is a member, then the other members. -/
structure CharClass where
  negated : Bool
  bracket : Bool
  members : List Member
  apart : Member.ToldApart false members
  /-- A closing bracket that comes first is a member. -/
  nonempty : bracket = false → members ≠ []
  /-- A caret that comes first negates. -/
  uncareted : negated = false → bracket = false →
    (members.flatMap Member.text).head? ≠ some '^'

namespace CharClass

def text (s : CharClass) : List Char :=
  (if s.negated then ['^'] else []) ++ (if s.bracket then [']'] else []) ++
    s.members.flatMap Member.text

/-- The character is listed. -/
def Lists (s : CharClass) (x : Char) : Prop :=
  s.bracket = true ∧ x = ']' ∨ ∃ m ∈ s.members, m.Contains x

/-- A negated class contains the characters that it does not list. -/
def Contains (s : CharClass) (x : Char) : Prop :=
  if s.negated then ¬ s.Lists x else s.Lists x

instance (s : CharClass) (x : Char) : Decidable (s.Contains x) :=
  have : Decidable (s.Lists x) :=
    inferInstanceAs (Decidable (s.bracket = true ∧ x = ']' ∨ ∃ m ∈ s.members, m.Contains x))
  inferInstanceAs (Decidable (if s.negated then ¬ s.Lists x else s.Lists x))

end CharClass

/-- The pattern matches the whole of the text. A bracket that begins no class matches nothing. -/
inductive Matches : (pattern text : List Char) → Prop where
  | nothing : Matches [] []
  | run {rest text : List Char} (skipped : List Char) (others : Matches rest text) :
      Matches ('*' :: rest) (skipped ++ text)
  | one {rest text : List Char} (x : Char) (others : Matches rest text) :
      Matches ('?' :: rest) (x :: text)
  | member {rest text : List Char} {x : Char} (s : CharClass) (contained : s.Contains x)
      (others : Matches rest text) : Matches ('[' :: (s.text ++ ']' :: rest)) (x :: text)
  | itself {rest text : List Char} {c : Char} (plain : c ≠ '*' ∧ c ≠ '?' ∧ c ≠ '[')
      (others : Matches rest text) : Matches (c :: rest) (c :: text)

namespace Matches
variable {rest text : List Char}

@[simp] theorem nil_iff : Matches [] text ↔ text = [] := by
  constructor
  · intro matched
    cases matched
    rfl
  · rintro rfl
    exact .nothing

theorem run_iff : Matches ('*' :: rest) text ↔
    ∃ skipped after, text = skipped ++ after ∧ Matches rest after := by
  constructor
  · intro matched
    cases matched with
    | run skipped others => exact ⟨skipped, _, rfl, others⟩
    | itself plain others => exact absurd rfl plain.1
  · rintro ⟨skipped, after, rfl, others⟩
    exact .run skipped others

theorem one_iff :
    Matches ('?' :: rest) text ↔ ∃ x after, text = x :: after ∧ Matches rest after := by
  constructor
  · intro matched
    cases matched with
    | one x others => exact ⟨x, _, rfl, others⟩
    | itself plain others => exact absurd rfl plain.2.1
  · rintro ⟨x, after, rfl, others⟩
    exact .one x others

theorem class_iff {body : List Char} : Matches ('[' :: body) text ↔
    ∃ (s : CharClass) (rest : List Char) (x : Char) (after : List Char),
      body = s.text ++ ']' :: rest ∧ text = x :: after ∧ s.Contains x ∧ Matches rest after := by
  constructor
  · intro matched
    cases matched with
    | member s contained others => exact ⟨s, _, _, _, rfl, rfl, contained, others⟩
    | itself plain others => exact absurd rfl plain.2.2
  · rintro ⟨s, rest, x, after, rfl, rfl, contained, others⟩
    exact .member s contained others

theorem itself_iff {c : Char} (plain : c ≠ '*' ∧ c ≠ '?' ∧ c ≠ '[') :
    Matches (c :: rest) text ↔ ∃ after, text = c :: after ∧ Matches rest after := by
  constructor
  · intro matched
    cases matched with
    | run | one | member => simp at plain
    | itself _ others => exact ⟨_, rfl, others⟩
  · rintro ⟨after, rfl, others⟩
    exact .itself plain others

end Matches

/-- What patterns see of a text: the characters before its first NUL. -/
def seen (s : String) : List Char := s.toList.takeWhile (· != '\x00')

/-- A text without the two noncharacters that codes do not tell from the replacement character. -/
def IsPlain (s : String) : Prop := ∀ c ∈ s.toList, c ≠ '\uFFFE' ∧ c ≠ '\uFFFF'

instance (s : String) : Decidable (IsPlain s) :=
  List.decidableBAll (fun c => c ≠ '\uFFFE' ∧ c ≠ '\uFFFF') s.toList

end SecretVault.Glob
