import SecretVault.Proofs.Yaml.Literal
import SecretVault.Proofs.Yaml.PlainText

/-!
Rounds of the lexer. A round passes gaps and reads one token; outside of flow collections, and where
nothing is to the left of the open block collections, that is all it does. A possible key that need
not be one never makes it fail.
-/
namespace SecretVault.Yaml
open SecretVault.Yaml.Input

namespace Lexer

/-- What has been read so far: the tokens, latest first, and the block collections that are open. No
flow collection is open. -/
structure Collected (s : Lexer) (read : List Token) (column : Int) (outer : List Int) : Prop where
  tokens : s.tokens = read
  count : s.count = read.length
  indent : s.indent = column
  outerIndents : s.outerIndents = outer
  outerKeys : s.outerKeys = []

/-- Nothing has to be a key. -/
def KeyFree (s : Lexer) : Prop := (s.key :: s.outerKeys).any (·.any (·.required)) = false

/-- Behind a gap, a text stands at a column, and a key may begin there or not. -/
def StandsAt (s : Lexer) (allowed : Bool) (column : Nat) (text : List Char) : Prop :=
  ∃ input : Input, input.IsAt column text ∧
    passGaps false false s.keyAllowed s.input = (allowed, input)

/-- A line stands at a column, and nothing of it has been read. -/
structure AtLine (s : Lexer) (read : List Token) (indent : Int) (outer : List Int) (column : Nat)
    (text : List Char) : Prop where
  collected : s.Collected read indent outer
  free : s.KeyFree
  stands : s.StandsAt true column text

/-- So many rounds lead from a state to another. -/
def LeadsIn (n : Nat) (s s' : Lexer) : Prop := ∀ fuel, s.run? (fuel + n) = s'.run? fuel

theorem LeadsIn.trans {m n : Nat} {s s' s'' : Lexer} (first : LeadsIn m s s')
    (second : LeadsIn n s' s'') : LeadsIn (m + n) s s'' := by
  intro fuel
  rw [Nat.add_comm m, ← Nat.add_assoc, first, second]

section
variable {s s' : Lexer} {read : List Token} {indent : Int} {outer : List Int}

theorem Collected.inFlow (collected : s.Collected read indent outer) : s.inFlow = false := by
  simp [Lexer.inFlow, collected.outerKeys]

theorem closeBlocks_of_le {column : Int} (inside : s.indent ≤ column) :
    s.closeBlocks column = s := by
  have notLess : ¬ column < s.indent := by omega
  unfold closeBlocks
  split
  · rfl
  · unfold closeBlocks.go
    split
    · rename_i open_
      rw [if_neg notLess, ← open_]
    · rename_i none
      rw [← none]

/-- What a round leaves before it reads its token: possible keys too far away are given up. -/
def ready (s : Lexer) (allowed : Bool) (p : Placed) (rest : Input) : Lexer :=
  let keep : Option PossibleKey → Option PossibleKey := Option.filter (!·.expired p)
  { s with
    keyAllowed := allowed, input := p :: rest
    key := keep s.key, outerKeys := s.outerKeys.map keep }

theorem Collected.ready (collected : s.Collected read indent outer) (allowed : Bool) (p : Placed)
    (rest : Input) : (s.ready allowed p rest).Collected read indent outer :=
  ⟨collected.tokens, collected.count, collected.indent, collected.outerIndents,
    congrArg (List.map _) collected.outerKeys⟩

theorem KeyFree.ready (free : s.KeyFree) (allowed : Bool) (p : Placed) (rest : Input) :
    (s.ready allowed p rest).KeyFree := by
  have kept {key : Option PossibleKey} (free : key.any (·.required) = false) :
      (key.filter (!·.expired p)).any (·.required) = false := by
    cases key with
    | none => rfl
    | some key => cases expired : key.expired p <;> simp_all
  simp only [KeyFree, List.any_cons, Bool.or_eq_false_iff, List.any_eq_false,
    Bool.not_eq_true] at free
  simp only [KeyFree, Lexer.ready, List.any_cons, List.any_map, Bool.or_eq_false_iff,
    List.any_eq_false, Bool.not_eq_true]
  exact ⟨kept free.1, fun key member => kept (free.2 key member)⟩

/-- Where nothing has to be a key, no key that has to be one is too far away. -/
theorem KeyFree.fresh (free : s.KeyFree) (p : Placed) :
    ((s.key :: s.outerKeys).any (·.any fun key => key.required && key.expired p)) = false := by
  have weaker {key : Option PossibleKey} (free : key.any (·.required) = false) :
      key.any (fun key => key.required && key.expired p) = false := by
    cases key with
    | none => rfl
    | some key => simp_all
  simp only [KeyFree, List.any_eq_false, Bool.not_eq_true] at free ⊢
  exact fun key member => weaker (free key member)

/-- A round in a flow collection, or to the right of the open block collections, reads one token. -/
theorem leadsIn_round {allowed : Bool} {p : Placed} {rest : Input}
    (inside : s.inFlow = true ∨ s.indent ≤ p.column)
    (gaps : passGaps s.inFlow false s.keyAllowed s.input = (allowed, p :: rest))
    (fresh : ((s.key :: s.outerKeys).any
      (·.any fun key => key.required && key.expired p)) = false)
    (next : (s.ready allowed p rest).next? p rest = some s') : LeadsIn 1 s s' := by
  intro fuel
  have expire : expireKeys? { s with keyAllowed := allowed, input := p :: rest } p =
      some (s.ready allowed p rest) := by
    unfold expireKeys?
    dsimp only
    rw [fresh, if_neg (by decide)]
    rfl
  have stays : (s.ready allowed p rest).closeBlocks p.column = s.ready allowed p rest := by
    rcases inside with inFlow | inside
    · have inFlow' : (s.ready allowed p rest).inFlow = true := by
        simpa [Lexer.inFlow, Lexer.ready] using inFlow
      rw [closeBlocks, if_pos inFlow']
    · exact closeBlocks_of_le inside
  rw [run?, gaps]
  simp only [expire, Option.bind_eq_bind, Option.bind_some, stays, next]

/-- What has given up the possible key. -/
def unkeyed (s : Lexer) : Lexer := { s with key := none }

theorem KeyFree.unkeyed (free : s.KeyFree) : s.unkeyed.KeyFree := by
  simp only [KeyFree, List.any_cons, Bool.or_eq_false_iff] at free
  exact free.2

theorem Collected.unkeyed (collected : s.Collected read indent outer) :
    s.unkeyed.Collected read indent outer :=
  ⟨collected.tokens, collected.count, collected.indent, collected.outerIndents, collected.outerKeys⟩

theorem Collected.keyFree_unkeyed (collected : s.Collected read indent outer) :
    s.unkeyed.KeyFree := by
  simp [KeyFree, Lexer.unkeyed, collected.outerKeys]

theorem dropKey?_of_free (free : s.KeyFree) : s.dropKey? = some s.unkeyed := by
  simp only [KeyFree, List.any_cons, Bool.or_eq_false_iff] at free
  rw [dropKey?, free.1, if_neg (by decide)]
  rfl

/-- What keeps in mind that a key may begin at a place. -/
def noted (s : Lexer) (p : Placed) : Lexer :=
  { s with
    key := if s.keyAllowed then some ⟨!s.inFlow && s.indent == p.column, s.count, p⟩ else s.key }

/-- A key that need not be one gives way to another. -/
theorem noteKey?_of_free (free : s.KeyFree) (p : Placed) : s.noteKey? p = some (s.noted p) := by
  unfold noteKey? noted
  by_cases allowed : s.keyAllowed = true
  · rw [if_pos allowed, if_pos allowed, dropKey?_of_free free]
    rfl
  · rw [if_neg allowed, if_neg allowed]

theorem Collected.noted (collected : s.Collected read indent outer) (p : Placed) :
    (s.noted p).Collected read indent outer :=
  ⟨collected.tokens, collected.count, collected.indent, collected.outerIndents, collected.outerKeys⟩

/-- To the right of the innermost collection nothing has to be a key. -/
theorem KeyFree.noted (free : s.KeyFree) {p : Placed} (inside : s.indent < p.column) :
    (s.noted p).KeyFree := by
  have apart : (s.indent == (p.column : Int)) = false := beq_eq_false_iff_ne.2 (by omega)
  simp only [KeyFree, List.any_cons, Bool.or_eq_false_iff] at free
  simp only [KeyFree, List.any_cons, Bool.or_eq_false_iff, Lexer.noted]
  refine ⟨?_, free.2⟩
  split
  · simp [apart]
  · exact free.1

/-- What has read a token up to some place. -/
def passed (s : Lexer) (token : Token) (input : Input) (allowed : Bool) : Lexer :=
  { s.emit token with input := input, keyAllowed := allowed }

theorem Collected.passed (collected : s.Collected read indent outer) (token : Token)
    (input : Input) (allowed : Bool) :
    (s.passed token input allowed).Collected (token :: read) indent outer := by
  refine ⟨?_, ?_, collected.indent, collected.outerIndents, collected.outerKeys⟩
  · simp [Lexer.passed, emit, collected.tokens]
  · simp [Lexer.passed, emit, collected.count]

theorem KeyFree.passed (free : s.KeyFree) (token : Token) (input : Input) (allowed : Bool) :
    (s.passed token input allowed).KeyFree := free

theorem content?_of_free (free : s.KeyFree) (p : Placed) (token : Token) (rest : Input) :
    s.content? p (some (token, rest)) = some ((s.noted p).passed token rest false) := by
  rw [content?, noteKey?_of_free free]
  rfl

theorem plainScalar?_of_free (free : s.KeyFree) {p : Placed} {rest : Input} {scalar : PlainText}
    (written : readPlain ⟨s.inFlow, (s.indent + 1).toNat⟩ [] .none (p :: rest) = some scalar) :
    s.plainScalar? p rest = some ((s.noted p).passed
      (.scalar (String.ofList scalar.text) true) scalar.rest scalar.endsLine) := by
  have written' : readPlain ⟨(s.noted p).inFlow, ((s.noted p).indent + 1).toNat⟩ [] .none
      (p :: rest) = some scalar := written
  rw [plainScalar?, noteKey?_of_free free]
  simp only [Option.bind_eq_bind, Option.bind_some, written']
  rfl

theorem blockScalar?_of_free (free : s.KeyFree) {literal : Bool} {rest after : Input}
    {text : List Char} (written : readBlock literal s.indent rest = some (text, after)) :
    s.blockScalar? literal rest =
      some (s.unkeyed.passed (.scalar (String.ofList text) false) after true) := by
  have written' : readBlock literal s.unkeyed.indent rest = some (text, after) := written
  rw [blockScalar?, dropKey?_of_free free]
  simp only [Option.bind_eq_bind, Option.bind_some, written']
  rfl

end

end Lexer

end SecretVault.Yaml
