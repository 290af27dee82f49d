import SecretVault.IdMap
import Mathlib.Data.List.Dedup
import Mathlib.Data.List.Nodup

/-!
Lookups in maps by id. Every operation on a map is described by what it does to lookups, and a map
is determined by its lookups; after this module nothing needs to open the list of entries, except
where the order of the entries itself matters.
-/
namespace SecretVault.IdMap
variable {α β : Type}

theorem get?_eq_some_iff {m : IdMap α} {id : Int} {value : α} :
    m.get? id = some value ↔ (id, value) ∈ m.entries := by
  obtain ⟨entries, ascending⟩ := m
  simp only [get?]
  induction entries with
  | nil => simp
  | cons first rest ih =>
    obtain ⟨below, sorted⟩ := List.pairwise_cons.1 ascending
    rcases first with ⟨key, held⟩
    rw [List.lookup_cons]
    by_cases equal : id = key
    · subst equal
      simp only [beq_self_eq_true, Option.some.injEq, List.mem_cons, Prod.mk.injEq, true_and]
      constructor
      · intro h
        exact .inl h.symm
      · rintro (h | member)
        · exact h.symm
        · exact absurd (below _ member) (by simp)
    · have different : (id == key) = false := by simpa using equal
      simp only [different, List.mem_cons, Prod.mk.injEq, equal, false_and, false_or]
      exact ih sorted

theorem contains_iff {m : IdMap α} {id : Int} :
    m.contains id = true ↔ ∃ value, m.get? id = some value := by
  simp [contains, Option.isSome_iff_exists]

theorem contains_iff_mem_keys {m : IdMap α} {id : Int} :
    m.contains id = true ↔ id ∈ m.keys := by
  simp [contains_iff, get?_eq_some_iff, keys]

/-- Every id is a signed 64-bit number. -/
def InRange (m : IdMap α) : Prop := ∀ id ∈ m.keys, leastId ≤ id ∧ id ≤ greatestId

instance (m : IdMap α) : Decidable m.InRange :=
  inferInstanceAs (Decidable (∀ id ∈ m.keys, leastId ≤ id ∧ id ≤ greatestId))

theorem length_keys (m : IdMap α) : m.keys.length = m.entries.length := List.length_map ..

theorem contains_keys (m : IdMap α) : m.keys.contains = m.contains := by
  funext id
  rw [Bool.eq_iff_iff, List.contains_iff_mem, contains_iff_mem_keys]

theorem nodup_keys (m : IdMap α) : m.keys.Nodup := by
  rw [keys, List.Nodup, List.pairwise_map]
  exact m.ascending.imp fun h => by omega

/-- Maps with entries for the same ids have as many of them. -/
theorem length_eq_of_contains {a : IdMap α} {b : IdMap β}
    (same : ∀ id, a.contains id = b.contains id) : a.entries.length = b.entries.length := by
  have perm : a.keys.Perm b.keys := by
    refine (List.perm_ext_iff_of_nodup a.nodup_keys b.nodup_keys).2 fun id => ?_
    rw [← contains_iff_mem_keys, ← contains_iff_mem_keys, same]
  rw [← length_keys, ← length_keys, perm.length_eq]

/-- A map is determined by its lookups. -/
theorem filter_congr {m : IdMap α} {keep keep' : Int → α → Bool}
    (same : ∀ entry ∈ m.entries, keep entry.1 entry.2 = keep' entry.1 entry.2) :
    m.filter keep = m.filter keep' := by
  simp only [filter, List.filter_congr same]

theorem ext_get? {a b : IdMap α} (same : ∀ id, a.get? id = b.get? id) : a = b := by
  have sameEntries : a.entries = b.entries := by
    refine List.Perm.eq_of_pairwise ?_ a.ascending b.ascending ?_
    · intro x y _ _ h h'
      omega
    · refine (List.perm_ext_iff_of_nodup ?_ ?_).2 ?_
      · exact List.Nodup.of_map _ a.nodup_keys
      · exact List.Nodup.of_map _ b.nodup_keys
      · rintro ⟨id, value⟩
        rw [← get?_eq_some_iff, ← get?_eq_some_iff, same]
  cases a
  cases b
  simp_all

theorem mem_place_iff {id : Int} {value : α} {entry : Int × α} {entries : List (Int × α)}
    (ascending : entries.Pairwise fun a b => a.1 < b.1) :
    entry ∈ place id value entries ↔ entry = (id, value) ∨ entry ∈ entries ∧ entry.1 ≠ id := by
  induction entries with
  | nil => simp [place]
  | cons first rest ih =>
    obtain ⟨below, sorted⟩ := List.pairwise_cons.1 ascending
    simp only [place]
    split
    · rename_i lt
      have others : ∀ other ∈ first :: rest, other.1 ≠ id := by
        intro other member
        rcases List.mem_cons.1 member with rfl | member
        · omega
        · have := below other member
          omega
      simp only [List.mem_cons]
      constructor
      · rintro (h | member)
        · exact .inl h
        · exact .inr ⟨member, others entry (by simpa using member)⟩
      · rintro (h | ⟨member, _⟩)
        · exact .inl h
        · exact .inr member
    · split
      · rename_i equal
        have others : ∀ other ∈ rest, other.1 ≠ id := by
          intro other member
          have := below other member
          omega
        simp only [List.mem_cons]
        constructor
        · rintro (h | member)
          · exact .inl h
          · exact .inr ⟨.inr member, others entry member⟩
        · rintro (h | ⟨rfl | member, different⟩)
          · exact .inl h
          · exact absurd equal.symm different
          · exact .inr member
      · rename_i notLt notEq
        simp only [List.mem_cons, ih sorted]
        constructor
        · rintro (rfl | h | ⟨member, different⟩)
          · exact .inr ⟨.inl rfl, fun h => notEq h.symm⟩
          · exact .inl h
          · exact .inr ⟨.inr member, different⟩
        · rintro (h | ⟨rfl | member, different⟩)
          · exact .inr (.inl h)
          · exact .inl rfl
          · exact .inr (.inr ⟨member, different⟩)

@[simp] theorem get?_insert (m : IdMap α) (id other : Int) (value : α) :
    (m.insert id value).get? other = if other = id then some value else m.get? other := by
  apply Option.ext
  intro found
  rw [get?_eq_some_iff, insert, mem_place_iff m.ascending]
  by_cases equal : other = id
  · subst equal
    simp [eq_comm]
  · simp [equal, get?_eq_some_iff]

@[simp] theorem get?_filter (m : IdMap α) (keep : Int → α → Bool) (id : Int) :
    (m.filter keep).get? id = (m.get? id).filter (keep id) := by
  apply Option.ext
  intro found
  rw [get?_eq_some_iff, Option.filter_eq_some_iff, get?_eq_some_iff, filter, List.mem_filter]

theorem mem_keys_insert {m : IdMap α} {id other : Int} {value : α} :
    other ∈ (m.insert id value).keys ↔ other = id ∨ other ∈ m.keys := by
  rw [← contains_iff_mem_keys, ← contains_iff_mem_keys, contains, contains, get?_insert]
  by_cases equal : other = id <;> simp [equal]

theorem mem_keys_of_filter {m : IdMap α} {keep : Int → α → Bool} {id : Int}
    (member : id ∈ (m.filter keep).keys) : id ∈ m.keys := by
  obtain ⟨entry, held, same⟩ := List.mem_map.1 member
  exact List.mem_map.2 ⟨entry, (List.mem_filter.1 held).1, same⟩

/-- The entries that a function keeps, with the values it gives them. -/
def filterMap (m : IdMap α) (f : Int → α → Option β) : IdMap β :=
  ⟨m.entries.filterMap fun entry => (f entry.1 entry.2).map fun value => (entry.1, value), by
    refine List.Pairwise.filterMap _ ?_ m.ascending
    intro a b lt c hc d hd
    obtain ⟨_, _, rfl⟩ := Option.map_eq_some_iff.1 hc
    obtain ⟨_, _, rfl⟩ := Option.map_eq_some_iff.1 hd
    exact lt⟩

@[simp] theorem get?_filterMap (m : IdMap α) (f : Int → α → Option β) (id : Int) :
    (m.filterMap f).get? id = (m.get? id).bind (f id) := by
  apply Option.ext
  intro found
  simp only [get?_eq_some_iff, filterMap, List.mem_filterMap, Option.map_eq_some_iff,
    Option.bind_eq_some_iff, Prod.mk.injEq]
  constructor
  · rintro ⟨⟨key, held⟩, member, value, kept, rfl, rfl⟩
    exact ⟨held, member, kept⟩
  · rintro ⟨held, member, kept⟩
    exact ⟨(id, held), member, found, kept, rfl, rfl⟩

/-- Entries with one of the given ids are as many as different given ids have an entry. -/
theorem length_filter_contains (m : IdMap α) (ids : List Int) :
    (m.filter fun id _ => ids.contains id).entries.length =
      (ids.dedup.filter m.contains).length := by
  have perm : (m.filter fun id _ => ids.contains id).keys.Perm (ids.dedup.filter m.contains) := by
    refine (List.perm_ext_iff_of_nodup (nodup_keys _) (ids.nodup_dedup.filter _)).2 fun id => ?_
    rw [← contains_iff_mem_keys, contains, get?_filter, List.mem_filter, List.mem_dedup, contains]
    cases found : m.get? id <;> simp [Option.filter]
  rw [← perm.length_eq, length_keys]

/-- The greatest id is at least every id. -/
theorem le_lastKey {m : IdMap α} {id : Int} {value : α} (member : (id, value) ∈ m.entries) :
    id ≤ m.lastKey?.getD 0 := by
  obtain ⟨entries, ascending⟩ := m
  have keysAscending : (entries.map (·.1)).Pairwise (· < ·) := List.pairwise_map.2 ascending
  have held : id ∈ entries.map (·.1) := List.mem_map.2 ⟨_, member, rfl⟩
  simp only [lastKey?, keys]
  obtain ⟨front, last, split⟩ := (List.eq_nil_or_concat' _).resolve_left (List.ne_nil_of_mem held)
  rw [split] at held keysAscending ⊢
  simp only [List.getLast?_append, List.getLast?_singleton, Option.some_or, Option.getD_some]
  rcases List.mem_append.1 held with before | here
  · exact Int.le_of_lt ((List.pairwise_append.1 keysAscending).2.2 id before last (by simp))
  · exact Int.le_of_eq (by simpa using here)

/-- An id above all others is added at the end. -/
theorem entries_insert_of_above {m : IdMap α} {id : Int} (value : α)
    (above : ∀ entry ∈ m.entries, entry.1 < id) :
    (m.insert id value).entries = m.entries ++ [(id, value)] := by
  obtain ⟨entries, ascending⟩ := m
  simp only [insert]
  simp only at above
  clear ascending
  induction entries with
  | nil => rfl
  | cons first rest ih =>
    have below : first.1 < id := above first (by simp)
    have others : ∀ entry ∈ rest, entry.1 < id :=
      fun entry member => above entry (List.mem_cons_of_mem _ member)
    rw [place, if_neg (by omega), if_neg (by omega), ih others]
    rfl

/-- Entries in ascending order are added one after the other. -/
theorem entries_foldl_insert (entries : List (Int × α)) (m : IdMap α)
    (ascending : (m.entries ++ entries).Pairwise fun a b => a.1 < b.1) :
    (entries.foldl (fun m entry => m.insert entry.1 entry.2) m).entries = m.entries ++ entries := by
  induction entries generalizing m with
  | nil => simp
  | cons first rest ih =>
    have above : ∀ entry ∈ m.entries, entry.1 < first.1 :=
      fun entry held => (List.pairwise_append.1 ascending).2.2 entry held first List.mem_cons_self
    have inserted := entries_insert_of_above first.2 above
    rw [List.foldl_cons, ih, inserted]
    · simp
    · rw [inserted]
      simpa using ascending

/-- A map is what comes of inserting its entries. -/
theorem foldl_insert_entries (m : IdMap α) :
    m.entries.foldl (fun m entry => m.insert entry.1 entry.2) empty = m := by
  have same := entries_foldl_insert m.entries empty (by simpa [empty] using m.ascending)
  generalize m.entries.foldl (fun m entry => m.insert entry.1 entry.2) empty = inserted at same
  cases m
  cases inserted
  simpa [empty] using same

end SecretVault.IdMap
