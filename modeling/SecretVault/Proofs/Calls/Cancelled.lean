import SecretVault.Proofs.Calls.Sending
import SecretVault.Storage

/-!
Calls whose tokens are cancelled already. Arguments are checked first, and what fails the check is
told so without being asked for a connection; every other call is told that it is cancelled. Either
way nothing is sent and nothing changes, however many such calls are made.
-/
namespace SecretVault
open SecretVault.Engine

namespace Operation

/-- A list among the arguments has nothing in it where something is needed, and this is the
precondition that fails. -/
inductive Lacks : Operation → Precondition → Prop where
  | deleteSecrets : Lacks (.deleteSecrets []) .noIds
  | searchIds : Lacks (.searchIds []) .noIds
  | deleteLabels (secretId : Int) : Lacks (.deleteLabels secretId []) .noLabels
  | searchLabelsAndName (name : String) : Lacks (.searchLabelsAndName name []) .noLabels

theorem refusal?_eq_some_iff {op : Operation} {p : Precondition} :
    op.refusal? = some p ↔ op.Lacks p := by
  constructor
  · intro refused
    cases op with
    | deleteSecrets ids =>
      cases ids with
      | nil => cases refused; exact .deleteSecrets
      | cons id ids => cases refused
    | searchIds ids =>
      cases ids with
      | nil => cases refused; exact .searchIds
      | cons id ids => cases refused
    | deleteLabels secretId patterns =>
      cases patterns with
      | nil => cases refused; exact .deleteLabels secretId
      | cons pattern patterns => cases refused
    | searchLabelsAndName name labels =>
      cases labels with
      | nil => cases refused; exact .searchLabelsAndName name
      | cons label labels => cases refused
    | _ => cases refused
  · intro lacks
    cases lacks <;> rfl

theorem refusal?_eq_none_iff {op : Operation} : op.refusal? = none ↔ ∀ p, ¬ op.Lacks p := by
  rw [Option.eq_none_iff_forall_ne_some]
  exact forall_congr' fun p => not_congr refusal?_eq_some_iff

/-- What is answered to a call whose token is cancelled: what its arguments lack, or else that it is
cancelled, whatever other errors there would have been. -/
def TurnedAway (op : Operation) (answer : Except StoreError op.Answer) : Prop :=
  (∃ p, op.Lacks p ∧ answer = .error (.precondition p)) ∨
    (∀ p, ¬ op.Lacks p) ∧ answer = .error .cancelled

/-- Arguments that lack something are refused without a connection. -/
theorem runOn_of_lacks {op : Operation} {p : Precondition} (lacks : op.Lacks p)
    (schedule : Schedule) (token : Token) (storage : Storage) :
    op.runOn schedule token storage = some (.error (.precondition p), storage) := by
  rw [runOn, refusal?_eq_some_iff.2 lacks]

/-- All other arguments need one, and with it the operation is run. -/
theorem runOn_of_not_lacks {op : Operation} (complete : ∀ p, ¬ op.Lacks p) (schedule : Schedule)
    (token : Token) (storage : Storage) :
    op.runOn schedule token storage = storage.connection?.map fun c =>
      ((op.run schedule token c).1, .connection (op.run schedule token c).2) := by
  rw [runOn, refusal?_eq_none_iff.2 complete]
  cases storage <;> rfl

/-- One call whose token is cancelled. -/
theorem run_of_cancelled {schedule : Schedule} {token : Token} {c : Connection}
    (cancelled : schedule.cancelled token c.clock = true) (op : Operation) :
    op.TurnedAway (op.run schedule token c).1 ∧ op.sent schedule token c = [] ∧
      (op.run schedule token c).2.database = c.database ∧
      (op.run schedule token c).2.handler = c.handler ∧
      c.clock ≤ (op.run schedule token c).2.clock := by
  cases refused : op.refusal? with
  | some p =>
    rw [run_of_refused refused, sent, refused]
    exact ⟨.inl ⟨p, refusal?_eq_some_iff.1 refused, rfl⟩, rfl, rfl, rfl, Nat.le_refl _⟩
  | none =>
    rw [run_of_late refused cancelled, sent, refused, Connection.install, if_pos cancelled]
    exact ⟨.inr ⟨refusal?_eq_none_iff.1 refused, rfl⟩, rfl, rfl, rfl, Nat.le_succ _⟩

end Operation

/-- A token that is cancelled stays so. -/
theorem Engine.Schedule.cancelled_later {schedule : Schedule} {token : Token} {moment later : Nat}
    (cancelled : schedule.cancelled token moment = true) (after : moment ≤ later) :
    schedule.cancelled token later = true := by
  cases live : schedule.cancelled token later with
  | true => rfl
  | false => cases cancelled.symm.trans (live_before live after)

/-- Calls whose tokens are cancelled leave the connection as it is, but for the time that passes. -/
theorem Engine.Connection.afterCalls_of_cancelled {c : Connection} {schedule : Schedule}
    {calls : List Call}
    (cancelled : ∀ call ∈ calls, schedule.cancelled call.token c.clock = true) :
    (c.afterCalls schedule calls).database = c.database ∧
      (c.afterCalls schedule calls).handler = c.handler ∧
      c.clock ≤ (c.afterCalls schedule calls).clock := by
  induction calls generalizing c with
  | nil => exact ⟨rfl, rfl, Nat.le_refl _⟩
  | cons call rest ih =>
    obtain ⟨-, -, database, handler, later⟩ :=
      Operation.run_of_cancelled (cancelled call List.mem_cons_self) call.operation
    obtain ⟨restDatabase, restHandler, restLater⟩ := ih fun other member =>
      Schedule.cancelled_later (cancelled other (List.mem_cons_of_mem call member)) later
    rw [afterCalls_cons]
    exact ⟨restDatabase.trans database, restHandler.trans handler, Nat.le_trans later restLater⟩

/-- However many calls are made with tokens that are cancelled already, in whatever state the vault
is: each is told what its arguments lack or else that it is cancelled, sends no statement, and
leaves the tables, the counts of ids and an open transaction as they are. Arguments that lack
something are refused even where there is no connection, whatever the token; all others ask for
one. -/
theorem cancelled_calls_touch_nothing {c : Connection} {schedule : Schedule} {calls : List Call}
    (cancelled : ∀ call ∈ calls, schedule.cancelled call.token c.clock = true) :
    (∀ before call later, calls = before ++ call :: later →
      let now := c.afterCalls schedule before
      let ran := call.operation.run schedule call.token now
      call.operation.TurnedAway ran.1 ∧ call.operation.sent schedule call.token now = [] ∧
        ran.2.database = c.database ∧ ran.2.handler = c.handler) ∧
    (c.afterCalls schedule calls).database = c.database ∧
    ∀ (op : Operation) (schedule : Schedule) (token : Token),
      (∀ p, op.Lacks p → ∀ storage,
        op.runOn schedule token storage = some (.error (.precondition p), storage)) ∧
      ((∀ p, ¬ op.Lacks p) → op.runOn schedule token .untouchable = none ∧
        op.runOn schedule token (.connection c) =
          some ((op.run schedule token c).1, .connection (op.run schedule token c).2)) := by
  refine ⟨fun before call later split => ?_, (Connection.afterCalls_of_cancelled cancelled).1,
    fun op schedule token => ⟨fun p lacks storage => ?_, fun complete => ⟨?_, ?_⟩⟩⟩
  · have earlier : ∀ other ∈ before, schedule.cancelled other.token c.clock = true :=
      fun other member => cancelled other (split ▸ List.mem_append_left _ member)
    have own : schedule.cancelled call.token c.clock = true :=
      cancelled call (split ▸ List.mem_append_right _ List.mem_cons_self)
    obtain ⟨database, handler, later⟩ := Connection.afterCalls_of_cancelled earlier
    obtain ⟨answer, nothing, sameDatabase, sameHandler, -⟩ :=
      Operation.run_of_cancelled (Schedule.cancelled_later own later) call.operation
    exact ⟨answer, nothing, sameDatabase.trans database, sameHandler.trans handler⟩
  · exact Operation.runOn_of_lacks lacks schedule token storage
  · rw [Operation.runOn_of_not_lacks complete]
    rfl
  · rw [Operation.runOn_of_not_lacks complete]
    rfl

/-- Calls in an open transaction. With a live token one would not find its secret, and another would
break a constraint. -/
theorem cancelled_calls_touch_nothing_inTransaction :
    let live : Schedule := fun _ => none
    let schedule : Schedule := fun _ => some 0
    let run (op : Operation) (d : Database) := (op.run live 0 (.opened d)).2.database
    let c := Connection.opened
      (run (.insertLabel "work" 1) (run (.insertSecret "mail" "p") .fresh).begin.2)
    let calls : List Call := [⟨.deleteSecrets [], 0⟩, ⟨.renameSecret 9 "bank", 1⟩,
      ⟨.insertLabel "home" 9, 0⟩, ⟨.insertSecret "bank" "q", 2⟩]
    let now := c.afterCalls schedule (calls.take 2)
    (∀ call ∈ calls, schedule.cancelled call.token c.clock = true) ∧
      c.database.inTransaction = true ∧ c.database.current.labels.keys = [1] ∧
      ((Operation.renameSecret 9 "bank").run live 0 c).1 = .error (.notFound .secret) ∧
      ((Operation.insertLabel "home" 9).run live 0 c).1 = .error (.engine .foreignKey) ∧
      ((Operation.insertLabel "home" 9).run schedule 0 now).1 = .error .cancelled ∧
      (c.afterCalls schedule calls).database = c.database ∧
      (Operation.deleteSecrets []).runOn live 0 .untouchable =
        some (.error (.precondition .noIds), .untouchable) := by
  intro live schedule run c calls now
  have cancelled : ∀ call ∈ calls, schedule.cancelled call.token c.clock = true :=
    fun _ _ => rfl
  obtain ⟨each, unchanged, always⟩ := cancelled_calls_touch_nothing cancelled
  obtain ⟨answer, -⟩ := each (calls.take 2) ⟨.insertLabel "home" 9, 0⟩ (calls.drop 3) rfl
  refine ⟨cancelled, by decide +kernel, by decide +kernel, rfl, rfl, ?_,
    unchanged, (always (.deleteSecrets []) live 0).1 .noIds .deleteSecrets .untouchable⟩
  rcases answer with ⟨p, lacks, -⟩ | ⟨-, answered⟩
  · cases lacks
  · exact answered

end SecretVault
