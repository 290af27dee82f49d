import SecretVault.Yaml.Node

/-!
Reading nodes from tokens, where nothing is anchored or tagged. What a reader takes and what it
leaves is put together from the parts of its text, and the fuel it needs from theirs.
-/
namespace SecretVault.Yaml.NodeReader

/-- A reader takes the tokens in front of others for a value, and meets no anchors. -/
def Reads {α : Type} (reader : NodeReader α) (tokens : List Token) (value : α)
    (rest : List Token) : Prop :=
  reader.run ⟨tokens, []⟩ = some (value, ⟨rest, []⟩)

theorem Reads.bind {α β : Type} {reader : NodeReader α} {next : α → NodeReader β}
    {tokens middle rest : List Token} {value : α} {result : β}
    (first : Reads reader tokens value middle) (second : Reads (next value) middle result rest) :
    Reads (reader >>= next) tokens result rest := by
  unfold Reads at first second ⊢
  rw [StateT.run_bind, first]
  exact second

section
variable {handles : TagHandles} {fuel : Nat} {block indentless : Bool} {rest : List Token}

theorem reads_takes (token : Token) : Reads (takes token) (token :: rest) true rest := by
  simp [Reads, takes, peek, skip]

theorem reads_takes_not {token : Token} (others : rest.head? ≠ some token) :
    Reads (takes token) rest false rest := by
  simp [Reads, takes, peek, others]

theorem reads_expect (token : Token) : Reads (expect token) (token :: rest) () rest := by
  simp [Reads, expect, peek, skip]

theorem reads_scalar (text : String) (plain : Bool) :
    Reads (readNode handles (fuel + 1) block indentless) (.scalar text plain :: rest)
      (.scalar none text plain) rest :=
  rfl

theorem reads_emptySequence :
    Reads (readNode handles (fuel + 2) block indentless)
      (.flowSequence :: .flowSequenceEnd :: rest) (.sequence []) rest :=
  rfl

theorem Reads.before {tokens ends : List Token} {node : Node}
    (goesOn : tokens.head?.any (ends.contains ·) = false)
    (reads : Reads (readNode handles fuel block indentless) tokens node rest) :
    Reads (readNodeBefore handles (fuel + 1) block indentless ends) tokens node rest := by
  have next : Reads (nextIn ends) tokens false tokens := by
    unfold Reads nextIn
    rw [← goesOn]
    rfl
  unfold readNodeBefore
  exact next.bind reads

theorem reads_noItems (others : rest.head? ≠ some .blockEntry) :
    Reads (readIndentlessItems handles (fuel + 1)) rest [] rest := by
  unfold readIndentlessItems
  exact (reads_takes_not others).bind rfl

theorem Reads.item {text : String} {plain : Bool} {tokens : List Token} {items : List Node}
    (reads : Reads (readIndentlessItems handles (fuel + 2)) tokens items rest) :
    Reads (readIndentlessItems handles (fuel + 3)) (.blockEntry :: .scalar text plain :: tokens)
      (.scalar none text plain :: items) rest := by
  unfold readIndentlessItems
  refine (reads_takes _).bind (Reads.bind ((reads_scalar text plain).before (by simp)) ?_)
  exact reads.bind rfl

theorem Reads.sequence {tokens : List Token} {items : List Node}
    (reads : Reads (readIndentlessItems handles fuel) (.blockEntry :: tokens) items rest) :
    Reads (readNode handles (fuel + 1) block true) (.blockEntry :: tokens) (.sequence items)
      rest := by
  have wrapped : Reads (readIndentlessItems handles fuel >>= fun items => pure (.sequence items))
      (.blockEntry :: tokens) (Node.sequence items) rest := reads.bind rfl
  exact wrapped

theorem Reads.mapping {tokens : List Token} {entries : List (Node × Node)}
    (reads : Reads (readBlockEntries handles fuel) tokens entries rest) :
    Reads (readNode handles (fuel + 1) true indentless) (.blockMapping :: tokens)
      (.mapping entries) rest := by
  have wrapped : Reads (readBlockEntries handles fuel >>= fun entries => pure (.mapping entries))
      tokens (Node.mapping entries) rest := reads.bind rfl
  cases indentless <;> exact wrapped

theorem reads_noEntries : Reads (readBlockEntries handles (fuel + 1)) (.blockEnd :: rest) [] rest :=
  rfl

/-- An entry of a mapping: the key is a word, and the value stands behind it. -/
theorem Reads.entry (name : String) {value : Node} {valueTokens tokens : List Token}
    {entries : List (Node × Node)}
    (goesOn : valueTokens.head?.any ([Token.key, .value, .blockEnd].contains ·) = false)
    (reads : Reads (readNode handles (fuel + 1) true true) valueTokens value tokens)
    (more : Reads (readBlockEntries handles (fuel + 2)) tokens entries rest) :
    Reads (readBlockEntries handles (fuel + 3)) (.key :: .scalar name true :: .value :: valueTokens)
      ((.scalar none name true, value) :: entries) rest := by
  unfold readBlockEntries
  refine (reads_takes_not (by simp)).bind ((reads_expect _).bind ?_)
  refine Reads.bind ((reads_scalar name true).before rfl) ((reads_takes _).bind ?_)
  exact (reads.before goesOn).bind (more.bind rfl)

end

end SecretVault.Yaml.NodeReader
