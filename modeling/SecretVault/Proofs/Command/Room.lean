import SecretVault.Proofs.Command.Saving

/-!
Room for what is saved. Each label that is given uses up an id, whether it is there already or not.
A save succeeds where these ids and one for the secret are left.
-/
namespace SecretVault
open SecretVault.Engine

namespace Engine

@[simp] theorem Database.inTransaction_put (d : Database) (t : Tables) :
    (d.put t).inTransaction = d.inTransaction := by
  obtain ⟨committed, working⟩ := d
  cases working <;> rfl

namespace Tables
variable {t t' : Tables} {n : Nat}

/-- No change makes a count of labels negative. -/
theorem Changed.labelCount_nonneg (changed : t.Changed t') (nonneg : 0 ≤ t.labelCount) :
    0 ≤ t'.labelCount := by
  cases changed with
  | addLabel drawn label => exact Int.le_trans nonneg (Int.le_max_left _ _)
  | countLabel drawn =>
    obtain ⟨next, -⟩ := eq_of_nextId drawn
    dsimp only
    omega
  | _ => exact nonneg

/-- Ids are left for so many labels. -/
structure RoomFor (t : Tables) (n : Nat) : Prop where
  counted : t.Counted
  nonneg : 0 ≤ t.labelCount
  left : t.labelCount + n ≤ greatestId

/-- A new secret takes no room from labels. -/
theorem RoomFor.of_insertSecret (room : t.RoomFor n) {secret : StoredSecret} {id : Int}
    (created : t.insertSecret secret = .ok (id, t')) : t'.RoomFor n := by
  have counted := room.counted.changed (changed_of_insertSecret created)
  have drawn := nextId_of_insertSecret created
  rw [insertSecret, drawn] at created
  cases created
  exact ⟨counted, room.nonneg, room.left⟩

/-- A label takes one id. -/
theorem RoomFor.of_attachLabel (room : t.RoomFor (n + 1)) {label : StoredLabel}
    {answer : Option Int} (attached : t.attachLabel label = .ok (answer, t')) : t'.RoomFor n := by
  have counted := room.counted.changed (changed_of_attachLabel attached)
  obtain ⟨before, nonneg, left⟩ := room
  have drawn := nextId_of_counted before.labels nonneg (by omega)
  have count : t'.labelCount = t.labelCount + 1 := by
    simp only [attachLabel_eq, drawn, bind, Except.bind] at attached
    split at attached
    · cases attached
      rfl
    · split at attached
      · cases attached
        exact Int.max_eq_right (by omega)
      · cases attached
  exact ⟨counted, by omega, by omega⟩

end Tables

theorem Database.Reachable.labelCount_nonneg {d : Database} (reachable : d.Reachable) :
    d.Holds fun t => 0 ≤ t.labelCount :=
  reachable.holds (Int.le_refl 0) fun op _ =>
    op.keeps_of_changed fun _ _ nonneg changed => changed.labelCount_nonneg nonneg

/-- The next secret has an id as long as the greatest of all is not counted. -/
theorem Database.Reachable.hasNextId {d : Database} (reachable : d.Reachable)
    (left : d.current.secretCount < greatestId) :
    HasNextId d.current.secrets d.current.secretCount := by
  have nonneg : d.current.CountsTo 0 :=
    (reachable.holds (Int.le_refl 0) fun op _ => op.keeps_countsTo 0).current
  have last := Tables.lastKey_le_of_counted reachable.counted.current.secrets nonneg
  rw [HasNextId]
  omega

end Engine

namespace Operation
variable {v : Vault} {d : Database} {id : Int} {e : Vault.Entry} {n : Nat}

/-- A label is attached to a secret that is there. -/
theorem insertLabel_of_room (represented : Represents d.current v)
    (found : v.entries.get? id = some e) (room : d.current.RoomFor (n + 1)) (name : String) :
    ∃ labelId t, (insertLabel name id).perform d = (.ok labelId, d.put t) ∧
      Represents t (v.put id (e.attach name)) ∧ t.RoomFor n := by
  rcases represented.attachLabel id name with ⟨exhausted, -⟩ | attached
  · have left := room.left
    have last := Tables.lastKey_le_of_counted room.counted.labels room.nonneg
    refine absurd ?_ exhausted
    rw [HasNextId]
    omega
  · rw [found] at attached
    obtain ⟨answer, t, changed, represents, there⟩ := attached
    obtain ⟨labelId, performed⟩ := perform_insertLabel changed there
    exact ⟨labelId, t, performed, represents, room.of_attachLabel changed⟩

end Operation

namespace Script
variable {s : Session} {v : Vault}

/-- A transaction succeeds if its body does and leaves it open. -/
theorem succeeds_inTransaction {α : Type} {body : Script α} {a : α} {ended : Session}
    (notCommitted : StoreError → Failure) (idle : s.connection.database.inTransaction = false)
    (ran : body.Succeeds (s.reply .begin).2 a ended)
    (opened : ended.connection.database.inTransaction = true) :
    (inTransaction notCommitted body).Succeeds s a (ended.reply .commit).2 := by
  have begins : (s.reply .begin).1 = .ok () := by
    simp [Session.reply, Session.replyAmid, Session.withDatabase, Database.begin, idle,
      Except.mapError]
  have commits : (ended.reply .commit).1 = .ok () := by
    obtain ⟨t, working⟩ := Option.isSome_iff_exists.1 opened
    simp [Session.reply, Session.replyAmid, Session.withDatabase, Database.commit, working,
      Except.mapError]
  refine succeeds_bind.2 ⟨_, _, rfl, succeeds_bind.2 ⟨(), _, succeeds_orFail.2 ⟨begins, rfl⟩, ?_⟩⟩
  refine succeeds_abandoning.2 (succeeds_bind.2 ⟨a, ended, ran, ?_⟩)
  refine succeeds_bind.2 ⟨_, _, rfl, succeeds_bind.2 ⟨(), _, succeeds_orFail.2 ⟨commits, rfl⟩, ?_⟩⟩
  exact (succeeds_done _ _).2 ⟨rfl, rfl⟩

/-- An operation that puts changed tables where they belong. -/
theorem succeeds_store_put {op : Operation} {a : op.Answer} {t : Tables}
    (performed : op.perform s.connection.database = (.ok a, s.connection.database.put t)) :
    ∃ s', (store op).Succeeds s a s' ∧ s'.connection.database.current = t ∧
      s'.connection.database.inTransaction = s.connection.database.inTransaction := by
  obtain ⟨-, database, -⟩ := s.reply_store op
  rw [performed] at database
  refine ⟨_, succeeds_store .store (congrArg Prod.fst performed), ?_, ?_⟩
  · rw [database, Database.current_put]
  · rw [database, Database.inTransaction_put]

variable {id : Int} {labels : List String}

/-- Labels that there is room for are attached in turn. -/
theorem succeeds_insertLabels {e : Vault.Entry}
    (represented : Represents s.connection.database.current (v.put id e))
    (room : s.connection.database.current.RoomFor labels.length) :
    ∃ s', (insertLabels id labels).Succeeds s () s' ∧
      s'.connection.database.inTransaction = s.connection.database.inTransaction := by
  induction labels generalizing s e with
  | nil => exact ⟨s, (succeeds_done _ _).2 ⟨rfl, rfl⟩, rfl⟩
  | cons label rest ih =>
    have found : (v.put id e).entries.get? id = some e := by simp [Vault.put]
    obtain ⟨labelId, t, performed, represents, left⟩ :=
      Operation.insertLabel_of_room represented found room label
    obtain ⟨between, attaching, rfl, same⟩ := succeeds_store_put performed
    rw [Vault.put_put] at represents
    obtain ⟨s', later, sameLater⟩ := ih represents left
    exact ⟨s', succeeds_bind.2 ⟨labelId, between, attaching, later⟩, sameLater.trans same⟩

theorem succeeds_insertLabelled (represented : Represents s.connection.database.current v)
    (idLeft : HasNextId s.connection.database.current.secrets
      s.connection.database.current.secretCount)
    (room : s.connection.database.current.RoomFor labels.length) (name value : String) :
    ∃ id s', (insertLabelled name value labels).Succeeds s id s' ∧
      s'.connection.database.inTransaction = s.connection.database.inTransaction := by
  cases created : s.connection.database.current.insertSecret ⟨.text name, .text value⟩ with
  | error e => exact absurd idLeft (Tables.exhausted_of_insertSecret created).1
  | ok result =>
    obtain ⟨id, t⟩ := result
    have performed : (Operation.insertSecret name value).perform s.connection.database =
        (.ok id, s.connection.database.put t) := Plan.perform_send_of_ok created
    have left := room.of_insertSecret created
    obtain ⟨-, represents⟩ := represented.insertSecret created
    obtain ⟨between, inserting, rfl, same⟩ := succeeds_store_put performed
    obtain ⟨s', attaching, sameLater⟩ := succeeds_insertLabels represents left
    refine ⟨id, s', succeeds_bind.2 ⟨id, between, inserting, ?_⟩, sameLater.trans same⟩
    exact succeeds_bind.2 ⟨(), s', attaching, (succeeds_done _ _).2 ⟨rfl, rfl⟩⟩

/-- Outside of a transaction a value is saved if there is room for it and its labels. -/
theorem carryOut_saveValue_of_room (reachable : s.connection.database.Reachable)
    (represented : Represents s.connection.database.current v)
    (idle : s.connection.database.inTransaction = false)
    (secretLeft : s.connection.database.current.secretCount < greatestId)
    (labelsLeft : s.connection.database.current.labelCount + labels.length ≤ greatestId)
    (name value : String) :
    ∃ id stored, s.Quiet stored ∧
      Session.carryOut (saveValue name labels value) s = Session.carryOut (do
        print (saveReport name id)
        runHook .postWrite) stored := by
  have idLeft := reachable.hasNextId secretLeft
  have room : s.connection.database.current.RoomFor labels.length :=
    ⟨reachable.counted.current, reachable.labelCount_nonneg.current, labelsLeft⟩
  have begun : (s.reply .begin).2.connection.database = s.connection.database.begin.2 := rfl
  have opened : (s.reply .begin).2.connection.database.inTransaction = true := by
    rw [begun, Database.begin, if_neg (Bool.eq_false_iff.1 idle)]
    rfl
  have sees : (s.reply .begin).2.connection.database.current = s.connection.database.current := by
    rw [begun, Database.current_begin]
  rw [← sees] at idLeft room
  obtain ⟨id, ended, ran, same⟩ :=
    succeeds_insertLabelled (sees ▸ represented) idLeft room name value
  have transaction := succeeds_inTransaction .notSaved idle ran (same.trans opened)
  obtain ⟨quiet, -, -, goesOn⟩ := transaction.of_saving represented
  exact ⟨id, _, quiet, goesOn⟩

end Script
end SecretVault
