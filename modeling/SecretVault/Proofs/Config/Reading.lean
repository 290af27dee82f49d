import SecretVault.Proofs.Config.Lexing
import SecretVault.Proofs.Yaml.Nodes

/-!
A written configuration is read back. Its tokens make up a mapping without anchors, aliases or tags,
whose fields are found by name; a path in quotes is never null, and one without quotes is not taken
for null either.
-/
namespace SecretVault.Config
open SecretVault.Yaml SecretVault.Yaml.Lexer SecretVault.Yaml.NodeReader

/-! ## Lists of commands -/

/-- The node of a text. -/
def scalarNode (text : String) : Node := .scalar none text (isPlain text.toList)

/-- The node of a list of commands. -/
def textsNode (texts : List String) : Node := .sequence (texts.map scalarNode)

section
variable {handles : TagHandles} {fuel : Nat} {block : Bool} {rest : List Token}

/-- The items of a list are read up to what is not another one. -/
theorem reads_items (texts : List String) (others : rest.head? ≠ some .blockEntry) :
    Reads (readIndentlessItems handles (texts.length + 2 + fuel))
      ((texts.flatMap fun text => [.blockEntry, scalarToken text.toList]) ++ rest)
      (texts.map scalarNode) rest := by
  induction texts with
  | nil =>
    rw [Nat.add_right_comm]
    exact reads_noItems others
  | cons text texts ih =>
    have more : (text :: texts).length + 2 + fuel = texts.length + fuel + 3 := by
      rw [List.length_cons]
      omega
    rw [Nat.add_right_comm] at ih
    rw [more]
    simpa [scalarToken, scalarNode] using ih.item

theorem reads_texts (texts : List String) (others : rest.head? ≠ some .blockEntry)
    (enough : texts.length + 3 ≤ fuel) :
    Reads (readNode handles fuel block true) (textTokens texts ++ rest) (textsNode texts) rest := by
  obtain ⟨spare, rfl⟩ := Nat.exists_eq_add_of_le enough
  cases texts with
  | nil =>
    rw [Nat.add_right_comm]
    exact reads_emptySequence
  | cons text texts =>
    have items : Reads (readIndentlessItems handles ((text :: texts).length + 2 + spare))
        (textTokens (text :: texts) ++ rest) ((text :: texts).map scalarNode) rest :=
      reads_items (text :: texts) others
    have more : (text :: texts).length + 3 + spare = (text :: texts).length + 2 + spare + 1 := by
      omega
    rw [more]
    exact items.sequence

theorem textTokens_goOn (texts : List String) :
    (textTokens texts ++ rest).head?.any ([Token.key, .value, .blockEnd].contains ·) = false := by
  cases texts <;> rfl

end

/-! ## The document -/

/-- A field of a mapping. -/
def fieldNode (name : String) (value : Node) : Node × Node := (.scalar none name true, value)

def hooksNode (hooks : Hooks) : Node :=
  .mapping [fieldNode "post_write" (textsNode hooks.postWrite),
    fieldNode "post_read" (textsNode hooks.postRead)]

/-- The node of a configuration. -/
def node (config : Config) : Node :=
  .mapping (match config.database with
    | none => [fieldNode "hooks" (hooksNode config.hooks)]
    | some path => [fieldNode "database" (scalarNode path),
        fieldNode "hooks" (hooksNode config.hooks)])

section
variable {handles : TagHandles} {fuel : Nat}

theorem reads_hooks (hooks : Hooks)
    (enough : hooks.postWrite.length + hooks.postRead.length + 11 ≤ fuel) :
    Reads (readBlockEntries handles fuel) (hooksTokens hooks)
      [fieldNode "hooks" (hooksNode hooks)] [] := by
  obtain ⟨spare, rfl⟩ : ∃ spare, fuel = spare + 7 := Nat.exists_eq_add_of_le' (by omega)
  have postRead : Reads (readNode handles (spare + 1) true true)
      (textTokens hooks.postRead ++ [.blockEnd, .blockEnd]) (textsNode hooks.postRead)
      [.blockEnd, .blockEnd] := reads_texts hooks.postRead (by simp) (by omega)
  have postWrite : Reads (readNode handles (spare + 2) true true)
      (textTokens hooks.postWrite ++
        (keyTokens "post_read" ++ (textTokens hooks.postRead ++ [.blockEnd, .blockEnd])))
      (textsNode hooks.postWrite) _ := reads_texts hooks.postWrite (by simp [keyTokens]) (by omega)
  have second := Reads.entry "post_read" (textTokens_goOn _) postRead reads_noEntries
  have both := Reads.entry "post_write" (textTokens_goOn _) postWrite second
  exact Reads.entry "hooks" rfl both.mapping reads_noEntries

theorem reads_config (config : Config)
    (enough : config.hooks.postWrite.length + config.hooks.postRead.length + 13 ≤ fuel) :
    Reads (readNode handles fuel true false) config.tokens config.node [] := by
  obtain ⟨spare, rfl⟩ : ∃ spare, fuel = spare + 4 := Nat.exists_eq_add_of_le' (by omega)
  obtain ⟨database, hooks⟩ := config
  dsimp only at enough
  cases database with
  | none => exact (reads_hooks hooks (by omega)).mapping
  | some path =>
    have scalar : Reads (readNode handles (spare + 1) true true)
        (scalarToken path.toList :: hooksTokens hooks) (scalarNode path) (hooksTokens hooks) := by
      unfold scalarToken scalarNode
      rw [String.ofList_toList]
      exact reads_scalar path _
    exact (Reads.entry "database" rfl scalar (reads_hooks hooks (by omega))).mapping

end

theorem length_textTokens (texts : List String) : texts.length ≤ (textTokens texts).length := by
  cases texts with
  | nil => exact Nat.zero_le _
  | cons text texts =>
    have items : (textTokens (text :: texts)).length = 2 * (text :: texts).length := by
      simp [textTokens, List.map_const']
      omega
    omega

theorem length_tokens (config : Config) :
    config.hooks.postWrite.length + config.hooks.postRead.length + 13 ≤ config.tokens.length := by
  have postWrite := length_textTokens config.hooks.postWrite
  have postRead := length_textTokens config.hooks.postRead
  have hooks : (hooksTokens config.hooks).length =
      (textTokens config.hooks.postWrite).length + (textTokens config.hooks.postRead).length +
        12 := by
    simp [hooksTokens, keyTokens]
    omega
  have all : (hooksTokens config.hooks).length + 1 ≤ config.tokens.length := by
    unfold tokens
    split
    · exact Nat.le_refl _
    · simp only [List.length_cons, List.length_append]
      omega
  omega

/-- The document of a written configuration. -/
theorem document?_render (config : Config) : document? config.render.toList = some config.node := by
  have reads : Reads (readNode [] (3 * config.tokens.length + 4) true false) config.tokens
      config.node [] := reads_config config (by have := length_tokens config; omega)
  have directives : readDirectives? false [] config.tokens = some ([], config.tokens) := rfl
  have unmarked : (config.tokens.head? == some .documentStart) = false := rfl
  have content : config.tokens.head?.all (fun _ => false) = false := rfl
  unfold Reads at reads
  simp only [document?, tokens?_render, directives, unmarked, content, reads, bind, Option.bind,
    Bool.not_false, Bool.true_and, Bool.false_and, bne_self_eq_false, Bool.false_eq_true, if_false,
    List.all_nil, if_true]

/-! ## Fields by name -/

theorem anchors_texts (texts : List String) : Node.itemAnchors (texts.map scalarNode) = [] := by
  induction texts with
  | nil => rfl
  | cons text texts ih => exact ih

/-- There are no anchors in a written configuration. -/
theorem anchors_node (config : Config) : config.node.anchors = [] := by
  have field (name : String) (value : Node) (rest : List (Node × Node)) :
      Node.entryAnchors (fieldNode name value :: rest) = value.anchors ++ Node.entryAnchors rest :=
    rfl
  have hooks : (hooksNode config.hooks).anchors = [] := by
    simp only [hooksNode, textsNode, Node.anchors, field, anchors_texts]
    rfl
  unfold node
  split
  · simp only [Node.anchors, field, hooks]
    rfl
  · simp only [Node.anchors, field, hooks]
    rfl

/-- Commands are read back, quoted or not. -/
theorem texts?_textsNode (texts : List String) : texts? [] (textsNode texts) = some texts := by
  unfold textsNode texts?
  dsimp only
  rw [List.mapM_map]
  have all : texts.mapM (fun text => (pure (id text) : Option String)) = some texts := by
    rw [List.mapM_pure, List.map_id]
    rfl
  exact all

/-- A text without quotes neither stands for null nor is empty. -/
theorem not_null_of_isPlain {text : List Char} (plain : isPlain text = true) :
    isNull text = false ∧ text.isEmpty = false := by
  rcases style_cases text with ⟨style, -⟩ | ⟨-, quotes, -⟩ | ⟨style, -⟩ | style
  · simp [isPlain, style] at plain
  · simp only [needsQuotes, Bool.or_eq_false_iff] at quotes
    simp [quotes]
  · simp [isPlain, style] at plain
  · simp [isPlain, style] at plain

/-- A path is read back: one that stands for null or is empty is in quotes. -/
theorem path?_scalarNode (path : String) : path? (scalarNode path) = some (some path) := by
  unfold scalarNode path?
  dsimp only
  cases plain : isPlain path.toList with
  | false => rfl
  | true =>
    obtain ⟨text, some⟩ := not_null_of_isPlain plain
    have named : path.isEmpty = false := by simpa using some
    simp [text, named]

theorem hooks?_hooksNode (hooks : Hooks) : hooks? [] (hooksNode hooks) = some hooks := by
  have fields : mapping? [] (hooksNode hooks) = some [("post_write", textsNode hooks.postWrite),
      ("post_read", textsNode hooks.postRead)] := rfl
  unfold hooks?
  simp [fields, readField?, texts?_textsNode]

/-- A configuration is read back from its node. -/
theorem ofNode?_node (config : Config) : ofNode? config.node = some config := by
  obtain ⟨database, hooks⟩ := config
  unfold ofNode?
  simp only [anchors_node]
  cases database with
  | none =>
    have fields : mapping? [] ((node ⟨none, hooks⟩).resolve []) =
        some [("hooks", hooksNode hooks)] := rfl
    simp [fields, readField?, hooks?_hooksNode]
  | some path =>
    have fields : mapping? [] ((node ⟨some path, hooks⟩).resolve []) =
        some [("database", scalarNode path), ("hooks", hooksNode hooks)] := rfl
    simp [fields, readField?, hooks?_hooksNode, path?_scalarNode]

/-- A configuration is read back from its text. -/
theorem parse?_render (config : Config) : parse? config.render = some config := by
  unfold parse?
  rw [document?_render]
  exact ofNode?_node config

end SecretVault.Config
