import SecretVault.Proofs.IdMap
import SecretVault.Proofs.Json.Quoted

/-!
A written mapping is read back. This holds for every layout whose line breaks are blank, on one line
or over several: the reader passes over blanks wherever the printer may put them. Members between
brackets are read one after the other, and the length of the text bounds how many there are.
-/
namespace SecretVault.Json
open SecretVault.Text

/-- Text that the reader passes over. -/
def AllBlank (cs : List Char) : Prop := ∀ c ∈ cs, isBlank c = true

theorem allBlank_nil : AllBlank [] := nofun

theorem skipBlanks_append {blanks : List Char} (blank : AllBlank blanks) (cs : List Char) :
    skipBlanks (blanks ++ cs) = skipBlanks cs :=
  List.dropWhile_append_of_pos blank

theorem skipBlanks_cons {c : Char} (visible : isBlank c = false) (rest : List Char) :
    skipBlanks (c :: rest) = c :: rest := by
  simp [skipBlanks, visible]

theorem quote_append (cs rest : List Char) :
    quote cs ++ rest = '"' :: (cs.flatMap escape ++ '"' :: rest) := by
  simp [quote]

theorem openKey_quote (cs rest : List Char) :
    openKey (quote cs ++ rest) = .ok (cs.flatMap escape ++ '"' :: rest) := by
  rw [quote_append, openKey]

/-- A bracket that closes what the reader reads. -/
structure IsClosing (closing : Char) : Prop where
  visible : isBlank closing = false
  notQuote : '"' ≠ closing
  notComma : ',' ≠ closing

theorem isClosing_list : IsClosing ']' := ⟨by decide, by decide, by decide⟩

theorem isClosing_mapping : IsClosing '\x7d' := ⟨by decide, by decide, by decide⟩

section Blanks
variable {blanks : List Char} (blank : AllBlank blanks)
include blank

/-- Text is read after blanks. -/
theorem readText_quote (s : String) (rest : List Char) :
    readText (blanks ++ (quote s.toList ++ rest)) = .ok (s, rest) := by
  rw [readText, skipBlanks_append blank, quote_append, skipBlanks_cons (by decide)]
  simp [readQuoted_flatMap_escape, Except.map]

variable {closing : Char} (closes : IsClosing closing)
include closes

theorem readNext_closing (isFirst : Bool) (rest : List Char) :
    readNext closing isFirst (blanks ++ closing :: rest) = .ok (.closed rest) := by
  rw [readNext, skipBlanks_append blank, skipBlanks_cons closes.visible]
  simp

theorem readNext_first (cs rest : List Char) :
    readNext closing true (blanks ++ (quote cs ++ rest)) = .ok (.member (quote cs ++ rest)) := by
  rw [readNext, skipBlanks_append blank, quote_append, skipBlanks_cons (by decide)]
  simp [closes.notQuote]

theorem readNext_later (cs rest : List Char) :
    readNext closing false (',' :: (blanks ++ (quote cs ++ rest))) =
      .ok (.member (quote cs ++ rest)) := by
  rw [readNext, skipBlanks_cons (by decide)]
  simp only [closes.notComma, if_false, Bool.false_eq_true, if_true]
  rw [skipBlanks_append blank, quote_append, skipBlanks_cons (by decide)]
  simp [closes.notQuote]

end Blanks

namespace Layout

/-- What a layout adds to the members is blank, but for the colon. -/
structure AddsBlanks (layout : Layout) : Prop where
  lineBreak : ∀ depth, AllBlank (layout.lineBreak depth)
  colon : ∃ blanks, layout.colon = ':' :: blanks ∧ AllBlank blanks

theorem addsBlanks_compact : compact.AddsBlanks := ⟨nofun, [], rfl, nofun⟩

theorem addsBlanks_pretty : pretty.AddsBlanks := by
  refine ⟨fun depth c member => ?_, [' '], rfl, fun c member => ?_⟩
  · rcases List.mem_cons.1 member with rfl | member
    · rfl
    · rw [List.eq_of_mem_replicate member]
      rfl
  · rw [List.mem_singleton.1 member]
    rfl

section Enclosing
variable (layout : Layout) (opening closing : Char) (depth : Nat)

/-- The text after a member: the other members, and the closing bracket before the rest. -/
def following (members : List (List Char)) (rest : List Char) : List Char :=
  members.flatMap (fun member => ',' :: (layout.lineBreak (depth + 1) ++ member)) ++
    (layout.lineBreak depth ++ closing :: rest)

@[simp] theorem following_nil (rest : List Char) :
    layout.following closing depth [] rest = layout.lineBreak depth ++ closing :: rest := rfl

@[simp] theorem following_cons (first : List Char) (others : List (List Char)) (rest : List Char) :
    layout.following closing depth (first :: others) rest =
      ',' :: (layout.lineBreak (depth + 1) ++
        (first ++ layout.following closing depth others rest)) := by
  simp [following]

theorem length_following (members : List (List Char)) (rest : List Char) :
    members.length < (layout.following closing depth members rest).length := by
  induction members with
  | nil => simp
  | cons first others ih =>
    simp only [following_cons, List.length_append, List.length_cons]
    omega

theorem enclose_nil (rest : List Char) :
    layout.enclose opening closing depth [] ++ rest = opening :: closing :: rest := rfl

theorem intercalate_comma (first : List Char) (others : List (List Char)) :
    [','].intercalate (first :: others) = first ++ others.flatMap fun other => ',' :: other := by
  induction others generalizing first with
  | nil => simp
  | cons second others ih =>
    rw [List.intercalate_cons_cons, ih]
    simp

theorem enclose_cons (first : List Char) (others : List (List Char)) (rest : List Char) :
    layout.enclose opening closing depth (first :: others) ++ rest =
      opening :: (layout.lineBreak (depth + 1) ++
        (first ++ layout.following closing depth others rest)) := by
  simp [enclose, following, intercalate_comma, List.flatMap_map]

end Enclosing

variable {layout : Layout} (blanks : layout.AddsBlanks) (depth : Nat)
include blanks

/-- Labels after the first one. -/
theorem readLabelsFrom_following (labels before : List String) (rest : List Char) (fuel : Nat)
    (enough : labels.length < fuel) (notFirst : before.isEmpty = false) :
    readLabelsFrom fuel before
        (layout.following ']' depth (labels.map fun label => quote label.toList) rest) =
      .ok (before.reverse ++ labels, rest) := by
  induction labels generalizing before fuel with
  | nil =>
    obtain ⟨fuel, rfl⟩ := Nat.exists_eq_add_of_lt enough
    have closed := readNext_closing (blanks.lineBreak depth) isClosing_list false rest
    simp [readLabelsFrom, notFirst, closed, bind, Except.bind, pure, Except.pure]
  | cons label labels ih =>
    obtain ⟨fuel, rfl⟩ := Nat.exists_eq_add_of_lt enough
    rw [List.length_cons] at enough ⊢
    have next := readNext_later (blanks.lineBreak (depth + 1)) isClosing_list label.toList
      (layout.following ']' depth (labels.map fun label => quote label.toList) rest)
    have text := readText_quote allBlank_nil label
      (layout.following ']' depth (labels.map fun label => quote label.toList) rest)
    have others := ih (label :: before) (labels.length + 1 + fuel) (by omega) rfl
    rw [List.nil_append] at text
    rw [List.map_cons, following_cons, readLabelsFrom, notFirst, next]
    simp only [bind, Except.bind, text, others]
    simp

/-- The labels of a secret are read back. -/
theorem readLabels_labels (labels : List String) (rest : List Char) :
    readLabels (layout.labels depth labels ++ rest) = .ok (labels, rest) := by
  cases labels with
  | nil =>
    have closed := readNext_closing allBlank_nil isClosing_list true rest
    rw [List.nil_append] at closed
    rw [Layout.labels, List.map_nil, enclose_nil, readLabels, skipBlanks_cons (by decide)]
    simp [readLabelsFrom, closed, bind, Except.bind, pure, Except.pure]
  | cons label labels =>
    have next := readNext_first (blanks.lineBreak (depth + 1)) isClosing_list label.toList
      (layout.following ']' depth (labels.map fun label => quote label.toList) rest)
    have text := readText_quote allBlank_nil label
      (layout.following ']' depth (labels.map fun label => quote label.toList) rest)
    rw [List.nil_append] at text
    rw [Layout.labels, List.map_cons, enclose_cons, readLabels, skipBlanks_cons (by decide)]
    simp only [readLabelsFrom, List.isEmpty_nil, next, bind, Except.bind, text]
    rw [readLabelsFrom_following blanks depth labels [label] rest _ _ rfl]
    · simp
    · have short := length_following layout ']' depth
        (labels.map fun label => quote label.toList) rest
      simp only [List.length_map] at short
      simp only [List.length_append]
      omega

/-- After the quotes of a key and the colon the value is left, with blanks in front. -/
theorem readColon_colon (rest : List Char) :
    ∃ after, AllBlank after ∧ readColon (layout.colon ++ rest) = .ok (after ++ rest) := by
  obtain ⟨after, colon, blank⟩ := blanks.colon
  refine ⟨after, blank, ?_⟩
  rw [colon, List.cons_append, readColon, skipBlanks_cons (by decide)]
  rfl

theorem readSecretFrom_name (secret : LabeledSecret) (fuel : Nat) (rest : List Char) :
    readSecretFrom (fuel + 1) true none none (layout.lineBreak depth ++
        (layout.member "name".toList (quote secret.name.toList) ++ rest)) =
      readSecretFrom fuel false (some secret.name) none rest := by
  obtain ⟨after, blank, colon⟩ := readColon_colon blanks (quote secret.name.toList ++ rest)
  have next := readNext_first (blanks.lineBreak depth) isClosing_mapping "name".toList
    (layout.colon ++ (quote secret.name.toList ++ rest))
  have text := readText_quote blank secret.name rest
  rw [readSecretFrom]
  simp only [member, List.append_assoc, next, openKey_quote, readQuoted_flatMap_escape, colon, text,
    bind, Except.bind, List.reverse_nil, List.nil_append, if_true, Option.isSome_none,
    Bool.false_eq_true, if_false]

theorem readSecretFrom_labels (secret : LabeledSecret) (fuel : Nat) (rest : List Char) :
    readSecretFrom (fuel + 1) false (some secret.name) none (',' :: (layout.lineBreak depth ++
        (layout.member "labels".toList (layout.labels depth secret.labels) ++ rest))) =
      readSecretFrom fuel false (some secret.name) (some secret.labels) rest := by
  obtain ⟨after, blank, colon⟩ :=
    readColon_colon blanks (layout.labels depth secret.labels ++ rest)
  have next := readNext_later (blanks.lineBreak depth) isClosing_mapping "labels".toList
    (layout.colon ++ (layout.labels depth secret.labels ++ rest))
  have texts := readLabels_labels blanks depth secret.labels rest
  have apart : ¬ "labels".toList = "name".toList := by decide
  have passed : readLabels (after ++ (layout.labels depth secret.labels ++ rest)) =
      readLabels (layout.labels depth secret.labels ++ rest) := by
    rw [readLabels, skipBlanks_append blank, readLabels]
  rw [readSecretFrom]
  simp only [member, List.append_assoc, next, openKey_quote, readQuoted_flatMap_escape, colon,
    passed, texts, bind, Except.bind, List.reverse_nil, List.nil_append, apart, if_true,
    Option.isSome_none, Bool.false_eq_true, if_false]

/-- Two members and the closing bracket are read one by one. -/
theorem readSecretFrom_secret (secret : LabeledSecret) (fuel : Nat) (enough : 3 ≤ fuel)
    (rest : List Char) :
    readSecretFrom fuel true none none (layout.lineBreak (depth + 1) ++
        (layout.member "name".toList (quote secret.name.toList) ++
          layout.following '\x7d' depth
            [layout.member "labels".toList (layout.labels (depth + 1) secret.labels)] rest)) =
      .ok (secret, rest) := by
  obtain ⟨fuel, rfl⟩ := Nat.exists_eq_add_of_le' enough
  have closed := readNext_closing (blanks.lineBreak depth) isClosing_mapping false rest
  rw [readSecretFrom_name blanks, following_cons, following_nil, readSecretFrom_labels blanks,
    readSecretFrom, closed]
  rfl

/-- A secret is read back, after blanks. -/
theorem readSecret_secret {after : List Char} (blank : AllBlank after) (secret : LabeledSecret)
    (rest : List Char) :
    readSecret (after ++ (layout.secret depth secret ++ rest)) = .ok (secret, rest) := by
  have short := length_following layout '\x7d' depth
    [layout.member "labels".toList (layout.labels (depth + 1) secret.labels)] rest
  rw [readSecret, skipBlanks_append blank, Layout.secret, enclose_cons,
    skipBlanks_cons (by decide)]
  refine readSecretFrom_secret blanks depth secret _ ?_ rest
  simp only [List.length_append, List.length_singleton] at short ⊢
  omega

/-- An entry of a mapping as text. -/
def entry (layout : Layout) (e : Int × LabeledSecret) : List Char :=
  layout.member (Decimal.ofInt e.1) (layout.secret 1 e.2)

omit blanks in
theorem entry_append (e : Int × LabeledSecret) (rest : List Char) :
    layout.entry e ++ rest =
      quote (Decimal.ofInt e.1) ++ (layout.colon ++ (layout.secret 1 e.2 ++ rest)) := by
  simp [entry, member]

/-- An entry is read as its id and its secret. -/
theorem readSecretsFrom_entry {e : Int × LabeledSecret} (least : leastId ≤ e.1)
    (greatest : e.1 ≤ greatestId) {isFirst : Bool} {cs rest : List Char}
    (next : readNext '\x7d' isFirst cs = .ok (.member (layout.entry e ++ rest)))
    (before : LabeledSecrets) (fuel : Nat) :
    readSecretsFrom (fuel + 1) isFirst before cs =
      readSecretsFrom fuel false (before.insert e.1 e.2) rest := by
  obtain ⟨after, blank, colon⟩ := readColon_colon blanks (layout.secret 1 e.2 ++ rest)
  have key := readId_ofInt least greatest (layout.colon ++ (layout.secret 1 e.2 ++ rest))
  have secret := readSecret_secret blanks 1 blank e.2 rest
  rw [entry_append] at next
  rw [readSecretsFrom]
  simp only [next, openKey_quote, flatMap_escape_ofInt, key, colon, secret, bind, Except.bind]

/-- The entries of a mapping after the first one. -/
theorem readSecretsFrom_following (entries : List (Int × LabeledSecret))
    (inRange : ∀ e ∈ entries, leastId ≤ e.1 ∧ e.1 ≤ greatestId) (before : LabeledSecrets)
    (rest : List Char) (fuel : Nat) (enough : entries.length < fuel) :
    readSecretsFrom fuel false before (layout.following '\x7d' 0 (entries.map layout.entry) rest) =
      .ok (entries.foldl (fun m e => m.insert e.1 e.2) before, rest) := by
  induction entries generalizing before fuel with
  | nil =>
    obtain ⟨fuel, rfl⟩ := Nat.exists_eq_add_of_lt enough
    have closed := readNext_closing (blanks.lineBreak 0) isClosing_mapping false rest
    simp [readSecretsFrom, closed, bind, Except.bind, pure, Except.pure]
  | cons first others ih =>
    obtain ⟨fuel, rfl⟩ := Nat.exists_eq_add_of_lt enough
    rw [List.length_cons] at enough ⊢
    obtain ⟨least, greatest⟩ := inRange first List.mem_cons_self
    have next := readNext_later (blanks.lineBreak 1) isClosing_mapping (Decimal.ofInt first.1)
      (layout.colon ++ (layout.secret 1 first.2 ++
        layout.following '\x7d' 0 (others.map layout.entry) rest))
    rw [← entry_append] at next
    rw [List.map_cons, following_cons, readSecretsFrom_entry blanks least greatest next]
    exact ih (fun e held => inRange e (List.mem_cons_of_mem _ held)) _ _ (by omega)

/-- A mapping with ids in their range is read back, up to the text after it. -/
theorem readSecrets_print (secrets : LabeledSecrets) (inRange : secrets.InRange)
    (rest : List Char) :
    readSecrets (layout.print secrets ++ rest) = .ok (secrets, rest) := by
  have entriesInRange : ∀ e ∈ secrets.entries, leastId ≤ e.1 ∧ e.1 ≤ greatestId :=
    fun e held => inRange e.1 (List.mem_map.2 ⟨e, held, rfl⟩)
  have inserted := secrets.foldl_insert_entries
  have printed : layout.print secrets =
      layout.enclose '\x7b' '\x7d' 0 (secrets.entries.map layout.entry) := rfl
  rw [printed]
  cases entries : secrets.entries with
  | nil =>
    have closed := readNext_closing allBlank_nil isClosing_mapping true rest
    rw [List.nil_append] at closed
    rw [entries, List.foldl_nil] at inserted
    rw [List.map_nil, enclose_nil, readSecrets, skipBlanks_cons (by decide)]
    simp [readSecretsFrom, closed, inserted, bind, Except.bind, pure, Except.pure]
  | cons first others =>
    rw [entries] at entriesInRange
    obtain ⟨least, greatest⟩ := entriesInRange first List.mem_cons_self
    have next := readNext_first (blanks.lineBreak 1) isClosing_mapping (Decimal.ofInt first.1)
      (layout.colon ++ (layout.secret 1 first.2 ++
        layout.following '\x7d' 0 (others.map layout.entry) rest))
    have short := length_following layout '\x7d' 0 (others.map layout.entry) rest
    rw [← entry_append] at next
    rw [List.map_cons, enclose_cons, readSecrets, skipBlanks_cons (by decide)]
    refine (readSecretsFrom_entry blanks least greatest next IdMap.empty _).trans ?_
    rw [readSecretsFrom_following blanks others _ _ rest, ← List.foldl_cons, ← entries, inserted]
    · simp only [List.length_append, List.length_map] at short ⊢
      omega
    · exact fun e held => entriesInRange e (List.mem_cons_of_mem _ held)

end Layout

/-- A written mapping decodes to itself, whatever blanks come after it. -/
theorem decodeSecrets_print {layout : Layout} (blanks : layout.AddsBlanks)
    (secrets : LabeledSecrets) (inRange : secrets.InRange)
    {after : List Char} (blank : AllBlank after) :
    decodeSecrets (String.ofList (layout.print secrets ++ after)) = .ok secrets := by
  have nothing : skipBlanks after = [] := by
    have passed := skipBlanks_append blank []
    rw [List.append_nil] at passed
    exact passed
  rw [decodeSecrets, readWhole, String.toList_ofList,
    Layout.readSecrets_print blanks secrets inRange]
  simp [nothing, bind, Except.bind, pure, Except.pure]

end SecretVault.Json
