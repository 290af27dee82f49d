import SecretVault.Text.Decimal

/-!
Values by id, in ascending order of their ids. An id is a signed 64-bit number.

Source pin: the ordered map under `LabeledSecrets` in `vlt::aggregate`.
-/
namespace SecretVault

def leastId : Int := -9223372036854775808
def greatestId : Int := 9223372036854775807

structure IdMap (α : Type) where
  entries : List (Int × α)
  ascending : entries.Pairwise fun a b => a.1 < b.1

namespace IdMap
variable {α β : Type}

def empty : IdMap α := ⟨[], .nil⟩

instance : Inhabited (IdMap α) := ⟨empty⟩

instance [DecidableEq α] : DecidableEq (IdMap α) := fun a b =>
  decidable_of_iff (a.entries = b.entries) <| by
    cases a; cases b; simp

def keys (m : IdMap α) : List Int := m.entries.map (·.1)
def values (m : IdMap α) : List α := m.entries.map (·.2)
def get? (m : IdMap α) (id : Int) : Option α := m.entries.lookup id
def contains (m : IdMap α) (id : Int) : Bool := (m.get? id).isSome

/-- The greatest id, if there is one. -/
def lastKey? (m : IdMap α) : Option Int := m.keys.getLast?

/-- Puts a value where its id belongs, instead of the value that the id had. -/
def place (id : Int) (value : α) : List (Int × α) → List (Int × α)
  | [] => [(id, value)]
  | entry :: rest =>
    if id < entry.1 then (id, value) :: entry :: rest
    else if id = entry.1 then (id, value) :: rest
    else entry :: place id value rest

theorem mem_place {id : Int} {value : α} {entry : Int × α} {entries : List (Int × α)}
    (h : entry ∈ place id value entries) : entry = (id, value) ∨ entry ∈ entries := by
  induction entries with
  | nil => simpa [place] using h
  | cons first rest ih =>
    simp only [place] at h
    split at h
    · simpa using h
    · split at h
      · rcases List.mem_cons.1 h with h | h
        · exact .inl h
        · exact .inr (List.mem_cons_of_mem _ h)
      · rcases List.mem_cons.1 h with h | h
        · exact .inr (h ▸ List.mem_cons_self)
        · rcases ih h with h | h
          · exact .inl h
          · exact .inr (List.mem_cons_of_mem _ h)

theorem ascending_place (id : Int) (value : α) (entries : List (Int × α))
    (h : entries.Pairwise fun a b => a.1 < b.1) :
    (place id value entries).Pairwise fun a b => a.1 < b.1 := by
  induction entries with
  | nil => simp [place]
  | cons first rest ih =>
    obtain ⟨below, sorted⟩ := List.pairwise_cons.1 h
    simp only [place]
    split
    · rename_i lt
      refine List.pairwise_cons.2 ⟨fun entry member => ?_, h⟩
      rcases List.mem_cons.1 member with rfl | member
      · exact lt
      · exact Int.lt_trans lt (below entry member)
    · split
      · rename_i eq
        refine List.pairwise_cons.2 ⟨fun entry member => ?_, sorted⟩
        exact eq ▸ below entry member
      · refine List.pairwise_cons.2 ⟨fun entry member => ?_, ih sorted⟩
        rcases mem_place member with rfl | member
        · simp only; omega
        · exact below entry member

def insert (m : IdMap α) (id : Int) (value : α) : IdMap α :=
  ⟨place id value m.entries, ascending_place id value m.entries m.ascending⟩

/-- The entries that satisfy a test. -/
def filter (m : IdMap α) (keep : Int → α → Bool) : IdMap α :=
  ⟨m.entries.filter fun entry => keep entry.1 entry.2, m.ascending.filter _⟩

end IdMap
end SecretVault
