import SecretVault.Config
import SecretVault.Proofs.Yaml.Allowed
import SecretVault.Proofs.Yaml.Lines

/-!
The tokens of a written configuration. Its lines are read one after the other, each list of commands
as a whole, and the rounds that this takes are fewer than the characters of the text.
-/
namespace SecretVault.Config
open SecretVault.Yaml SecretVault.Yaml.Lexer

/-- The tokens of a list of commands. -/
def textTokens (texts : List String) : List Token :=
  if texts.isEmpty then [.flowSequence, .flowSequenceEnd]
  else texts.flatMap fun text => [.blockEntry, scalarToken text.toList]

/-- The tokens of a key. -/
def keyTokens (name : String) : List Token := [.key, .scalar name true, .value]

/-- The tokens of the hooks, with which both mappings end. -/
def hooksTokens (hooks : Hooks) : List Token :=
  keyTokens "hooks" ++ .blockMapping :: (keyTokens "post_write" ++ (textTokens hooks.postWrite ++
    (keyTokens "post_read" ++ (textTokens hooks.postRead ++ [.blockEnd, .blockEnd]))))

/-- The tokens of a configuration. -/
def tokens (config : Config) : List Token :=
  .blockMapping :: match config.database with
    | none => hooksTokens config.hooks
    | some path => keyTokens "database" ++ scalarToken path.toList :: hooksTokens config.hooks

/-! ## Lists of commands -/

theorem writeTexts_cons (text : String) (texts : List String) :
    writeTexts (text :: texts) =
      '\n' :: writeEntries 2 ((text :: texts).map String.toList) := by
  simp [writeTexts, writeEntries, List.flatMap_map, List.replicate]

theorem length_writeEntries (column : Nat) (texts : List (List Char)) :
    2 * texts.length ≤ (writeEntries column texts).length := by
  induction texts with
  | nil => exact Nat.zero_le _
  | cons text texts ih =>
    simp only [writeEntries, List.flatMap_cons, List.length_append, List.length_cons] at ih ⊢
    omega

theorem reverse_entryTokens (texts : List String) :
    (entryTokens (texts.map String.toList)).reverse =
      texts.flatMap fun text => [.blockEntry, scalarToken text.toList] := by
  induction texts with
  | nil => rfl
  | cons text texts ih =>
    simp only [entryTokens, List.map_cons, List.reverse_cons, List.flatMap_append,
      List.reverse_append, List.flatMap_cons] at ih ⊢
    rw [ih]
    rfl

section
variable {s : Lexer} {read : List Token} {indent : Int} {outer : List Int} {word : List Char}
  {nextColumn : Nat} {tail rest : List Char}

/-- A list of commands behind its key is read up to the next line. -/
theorem leadsIn_texts (texts : List String)
    (value : s.AtValue read indent outer 2 word (writeTexts texts ++ tail))
    (next : NextLine nextColumn tail rest) (outside : nextColumn ≤ 2) :
    ∃ n s', n ≤ (writeTexts texts).length ∧ LeadsIn n s s' ∧
      s'.AtLine ((textTokens texts).reverse ++ (.value :: .scalar (String.ofList word) true ::
        .key :: (opened indent 2 ++ read))) 2 (if indent < 2 then indent :: outer else outer)
        nextColumn rest := by
  cases texts with
  | nil =>
    obtain ⟨s', leads, line⟩ := AtValue.emptySequence value next
    exact ⟨2, s', by simp [writeTexts], leads, line⟩
  | cons text texts =>
    rw [writeTexts_cons] at value ⊢
    obtain ⟨firstColumn, first, next', outside', more⟩ :=
      AtLine.entries (by decide : 0 < 2) next outside ((text :: texts).map String.toList)
    obtain ⟨s', leads, line⟩ := more s _ (value.nextLine next')
    refine ⟨_, s', ?_, leads, ?_⟩
    · have := length_writeEntries 2 ((text :: texts).map String.toList)
      rw [List.length_cons]
      omega
    · have forward : (textTokens (text :: texts)).reverse =
          entryTokens ((text :: texts).map String.toList) := by
        rw [← List.reverse_reverse (entryTokens _), reverse_entryTokens]
        rfl
      rw [forward]
      exact line

end

/-! ## Fields -/

section
variable {s : Lexer} {read : List Token} {indent : Int} {outer : List Int} {column : Nat}
  {nextColumn : Nat} {tail rest : List Char}

/-- A field that is a list of commands is read with its key. -/
theorem leadsIn_field {c : Char} {word : List Char} (texts : List String) (key : IsKeyWord c word)
    (inside : indent ≤ 2)
    (line : s.AtLine read indent outer 2 (c :: word ++ ':' :: (writeTexts texts ++ tail)))
    (next : NextLine nextColumn tail rest) (outside : nextColumn ≤ 2) :
    ∃ n s', n ≤ (c :: word ++ ':' :: writeTexts texts).length ∧ LeadsIn n s s' ∧
      s'.AtLine ((keyTokens (String.ofList (c :: word)) ++ textTokens texts).reverse ++
        (opened indent 2 ++ read)) 2 (if indent < 2 then indent :: outer else outer)
        nextColumn rest := by
  have gap : beginsGap (writeTexts texts ++ tail) = true := by
    cases texts with
    | nil => rfl
    | cons text texts =>
      rw [writeTexts_cons]
      rfl
  obtain ⟨s', leads, value⟩ := leadsIn_key key gap inside line
  obtain ⟨n, s'', few, leads', line'⟩ := leadsIn_texts texts value next outside
  refine ⟨2 + n, s'', ?_, leads.trans leads', ?_⟩
  · simp only [List.length_append, List.length_cons]
    omega
  · simpa [keyTokens] using line'

/-- The fields of the hooks are read from the start of their first line. -/
theorem leadsIn_hooks (hooks : Hooks)
    (line : s.AtLine read 0 [-1] 2 ("post_write:".toList ++ (writeTexts hooks.postWrite ++
      ("  post_read:".toList ++ writeTexts hooks.postRead)))) :
    ∃ n s', n ≤ ("post_write:".toList ++ (writeTexts hooks.postWrite ++
        ("  post_read:".toList ++ writeTexts hooks.postRead))).length ∧ LeadsIn n s s' ∧
      s'.AtLine ((keyTokens "post_read" ++ textTokens hooks.postRead).reverse ++
        ((keyTokens "post_write" ++ textTokens hooks.postWrite).reverse ++ .blockMapping :: read))
        2 [0, -1] 0 [] := by
  have writeKey : IsKeyWord 'p' "ost_write".toList :=
    ⟨by decide, by decide, by decide, by decide⟩
  have readKey : IsKeyWord 'p' "ost_read".toList := ⟨by decide, by decide, by decide, by decide⟩
  have second : NextLine 2 ("  post_read:".toList ++ writeTexts hooks.postRead)
      ("post_read:".toList ++ writeTexts hooks.postRead) := .line _ (by decide)
  obtain ⟨n, s', few, leads, line'⟩ :=
    leadsIn_field hooks.postWrite writeKey (by decide) line second (Nat.le_refl 2)
  rw [← List.append_nil (writeTexts hooks.postRead)] at line'
  have end' : NextLine 0 [] [] := .none
  obtain ⟨m, s'', few', leads', line''⟩ :=
    leadsIn_field hooks.postRead readKey (Int.le_refl _) line' end' (by decide)
  refine ⟨n + m, s'', ?_, leads.trans leads', ?_⟩
  · simp only [List.length_append, List.length_cons] at few few' ⊢
    have lengths : "ost_write".toList.length = 9 ∧ "ost_read".toList.length = 8 ∧
        "post_write:".toList.length = 11 ∧ "  post_read:".toList.length = 12 := by decide
    omega
  · simpa [opened, keyTokens] using line''

/-- The first line of a text that begins with a token stands where the text begins. -/
theorem atLine_start {c : Char} (begins : BeginsToken c) (text : List Char) :
    (Lexer.start (c :: text)).AtLine [] (-1) [] 0 (c :: text) :=
  ⟨⟨rfl, rfl, rfl, rfl, rfl⟩, rfl, _, ⟨0, 0, rfl⟩, passGaps_token text begins⟩

/-- The rest of a configuration is read from the line of the hooks, which opens the outer mapping
unless it is open already. -/
theorem leadsIn_rest (hooks : Hooks)
    (outside : indent = -1 ∧ outer = [] ∨ indent = 0 ∧ outer = [-1])
    (line : s.AtLine read indent outer 0 ("hooks:\n  post_write:".toList ++
      (writeTexts hooks.postWrite ++ ("  post_read:".toList ++ writeTexts hooks.postRead)))) :
    ∃ n s', n ≤ ("hooks:\n  post_write:".toList ++ (writeTexts hooks.postWrite ++
        ("  post_read:".toList ++ writeTexts hooks.postRead))).length ∧ LeadsIn n s s' ∧
      s'.AtLine ((keyTokens "post_read" ++ textTokens hooks.postRead).reverse ++
        ((keyTokens "post_write" ++ textTokens hooks.postWrite).reverse ++ .blockMapping ::
          ((keyTokens "hooks").reverse ++ (opened indent 0 ++ read)))) 2 [0, -1] 0 [] := by
  have key : IsKeyWord 'h' "ooks".toList := ⟨by decide, by decide, by decide, by decide⟩
  have inside : indent ≤ 0 := by omega
  obtain ⟨s', leads, value⟩ := leadsIn_key key rfl inside line
  have next : NextLine 2 ("  post_write:".toList ++ (writeTexts hooks.postWrite ++
      ("  post_read:".toList ++ writeTexts hooks.postRead)))
      ("post_write:".toList ++ (writeTexts hooks.postWrite ++
      ("  post_read:".toList ++ writeTexts hooks.postRead))) := .line _ (by decide)
  have line' := value.nextLine next
  have outer' : (if indent < (0 : Nat) then indent :: outer else outer) = [-1] := by
    rcases outside with ⟨rfl, rfl⟩ | ⟨rfl, rfl⟩ <;> rfl
  rw [outer'] at line'
  obtain ⟨n, s'', few, leads', line''⟩ := leadsIn_hooks hooks line'
  refine ⟨2 + n, s'', ?_, leads.trans leads', ?_⟩
  · simp only [List.length_append] at few ⊢
    have lengths : "post_write:".toList.length = 11 ∧
        "hooks:\n  post_write:".toList.length = 20 := by decide
    omega
  · simpa [keyTokens] using line''

end

/-! ## The whole document -/

theorem allAllowed_writeTexts (texts : List String) : AllAllowed (writeTexts texts) := by
  unfold writeTexts
  split
  · exact List.all_eq_true.1 (by decide)
  · refine .cons (by decide) fun c member => ?_
    obtain ⟨text, -, memberC⟩ := List.mem_flatMap.1 member
    have dash : AllAllowed "  - ".toList := List.all_eq_true.1 (by decide)
    exact dash.append (allAllowed_writeScalar 4 text.toList) c memberC

/-- A document is lexed if its lines are read in no more rounds than it has characters. -/
theorem tokens?_of_leadsIn {text : List Char} {read : List Token} {nested column n : Nat}
    {s : Lexer} (allowed : AllAllowed text) (few : n ≤ text.length)
    (leads : LeadsIn n (Lexer.start text) s) (line : s.AtLine read nested [0, -1] column []) :
    tokens? text = some (.blockEnd :: .blockEnd :: read).reverse := by
  have enough : text.length + 1 = text.length - n + 1 + n := by omega
  rw [tokens?, if_pos (List.all_eq_true.2 allowed), enough, leads, line.finish]

/-- The lines of the hooks, with which every configuration ends. -/
def renderHooks (hooks : Hooks) : List Char :=
  "hooks:\n  post_write:".toList ++ (writeTexts hooks.postWrite ++
    ("  post_read:".toList ++ writeTexts hooks.postRead))

theorem toList_render_none (hooks : Hooks) :
    (render ⟨none, hooks⟩).toList = renderHooks hooks := by
  unfold render renderHooks
  rw [String.toList_ofList, List.append_assoc, List.append_assoc, List.append_assoc,
    List.nil_append]

theorem toList_render_some (path : String) (hooks : Hooks) :
    (render ⟨some path, hooks⟩).toList =
      "database: ".toList ++ (writeScalar 2 path.toList ++ renderHooks hooks) := by
  unfold render renderHooks
  rw [String.toList_ofList]
  dsimp only
  rw [List.append_assoc, List.append_assoc, List.append_assoc, List.append_assoc]

theorem allAllowed_renderHooks (hooks : Hooks) : AllAllowed (renderHooks hooks) := by
  have first : AllAllowed "hooks:\n  post_write:".toList := List.all_eq_true.1 (by decide)
  have second : AllAllowed "  post_read:".toList := List.all_eq_true.1 (by decide)
  exact first.append ((allAllowed_writeTexts _).append (second.append (allAllowed_writeTexts _)))

/-- The tokens of a written configuration. -/
theorem tokens?_render (config : Config) : tokens? config.render.toList = some config.tokens := by
  obtain ⟨database, hooks⟩ := config
  cases database with
  | none =>
    have line := atLine_start (by decide : BeginsToken 'h') ("ooks:\n  post_write:".toList ++
      (writeTexts hooks.postWrite ++ ("  post_read:".toList ++ writeTexts hooks.postRead)))
    obtain ⟨n, s', few, leads, line'⟩ := leadsIn_rest hooks (.inl ⟨rfl, rfl⟩) line
    rw [toList_render_none, tokens?_of_leadsIn (allAllowed_renderHooks hooks) few leads line']
    simp [tokens, hooksTokens, opened]
  | some path =>
    have key : IsKeyWord 'd' "atabase".toList := ⟨by decide, by decide, by decide, by decide⟩
    have line := atLine_start (by decide : BeginsToken 'd') ("atabase: ".toList ++
      (writeScalar 2 path.toList ++ renderHooks hooks))
    obtain ⟨s', leads, value⟩ := leadsIn_key key rfl (by decide) line
    have next : NextLine 0 (renderHooks hooks) (renderHooks hooks) :=
      .line _ (by decide : BeginsToken 'h')
    obtain ⟨s'', leads', line'⟩ := value.scalar next (Nat.le_refl 0)
    obtain ⟨n, s₃, few, leads₃, line₃⟩ := leadsIn_rest hooks (.inr ⟨rfl, rfl⟩) line'
    have allowed : AllAllowed "database: ".toList := List.all_eq_true.1 (by decide)
    have enough : 2 + 1 + n ≤ ("database: ".toList ++
        (writeScalar 2 path.toList ++ renderHooks hooks)).length := by
      have length : "database: ".toList.length = 10 := by decide
      have few' : n ≤ (renderHooks hooks).length := few
      simp only [List.length_append]
      omega
    rw [toList_render_some, tokens?_of_leadsIn (allowed.append ((allAllowed_writeScalar 2 _).append
      (allAllowed_renderHooks hooks))) enough ((leads.trans leads').trans leads₃) line₃]
    simp [tokens, hooksTokens, opened, keyTokens]

end SecretVault.Config
