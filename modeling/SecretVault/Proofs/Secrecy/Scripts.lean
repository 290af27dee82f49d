import SecretVault.Proofs.Command.Writing
import SecretVault.Proofs.Secrecy.Operations

/-!
Scripts in two sessions that differ in nothing but secret texts. A script that does not ask for such
a text ends alike in both, prints the same, and leaves them like that again. So do two scripts that
differ in the texts that they store.
-/
namespace SecretVault
open SecretVault.Engine SecretVault.Text

variable {hidden : Spot → Bool} {s s' : Session}

/-- The databases of the sessions differ in nothing but hidden texts, and they have printed the
same. They may differ in files and in input. No hooks are configured. -/
structure Session.Alike (hidden : Spot → Bool) (s s' : Session) : Prop where
  connection : s.connection.veiled hidden = s'.connection.veiled hidden
  output : s.output = s'.output
  errors : s.errors = s'.errors
  quiet : ∀ hook, s.config.hooks.argv hook = []
  quiet' : ∀ hook, s'.config.hooks.argv hook = []

namespace Engine.Database
variable (d : Database)

theorem begin_veiled :
    (d.veiled hidden).begin = (d.begin.1, d.begin.2.veiled hidden) := by
  simp only [begin, inTransaction_veiled]
  split <;> rfl

theorem commit_veiled :
    (d.veiled hidden).commit = (d.commit.1, d.commit.2.veiled hidden) := by
  obtain ⟨committed, working⟩ := d
  cases working <;> rfl

theorem rollback_veiled :
    (d.veiled hidden).rollback = (d.rollback.1, d.rollback.2.veiled hidden) := by
  simp only [rollback, inTransaction_veiled]
  split <;> rfl

end Engine.Database

namespace Script
variable {α β γ δ : Type} {belong : α → β → Prop}

/-- Two scripts end alike in these sessions, and leave them alike. -/
def AgreesAt (hidden : Spot → Bool) (belong : α → β → Prop) (s s' : Session) (script : Script α)
    (other : Script β) : Prop :=
  SameResult belong (Session.carryOut script s).1 (Session.carryOut other s').1 ∧
    (Session.carryOut script s).2.Alike hidden (Session.carryOut other s').2

/-- Two scripts end alike in all sessions that are alike, and leave them so. -/
def Agrees (hidden : Spot → Bool) (belong : α → β → Prop) (script : Script α) (other : Script β) :
    Prop :=
  ∀ s s' : Session, s.Alike hidden s' → script.AgreesAt hidden belong s s' other

theorem agrees_done {a : α} {b : β} (together : belong a b) :
    (done a).Agrees hidden belong (done b) :=
  fun _ _ alike => ⟨.ok together, alike⟩

theorem agrees_fail (failure : Failure) :
    (fail failure : Script α).Agrees hidden belong (fail failure : Script β) :=
  fun _ _ alike => ⟨.error failure, alike⟩

/-- What follows agrees in the sessions that the first scripts leave if they succeed. -/
theorem AgreesAt.bind {first : Script γ} {first' : Script δ} {together : γ → δ → Prop}
    {next : γ → Script α} {next' : δ → Script β}
    (agrees : first.AgreesAt hidden together s s' first')
    (later : ∀ c d between between', first.Succeeds s c between → first'.Succeeds s' d between' →
      together c d → between.Alike hidden between' →
      (next c).AgreesAt hidden belong between between' (next' d)) :
    (first >>= next).AgreesAt hidden belong s s' (first' >>= next') := by
  obtain ⟨ends, alike⟩ := agrees
  rw [AgreesAt, Session.carryOut_bind, Session.carryOut_bind]
  cases ran : Session.carryOut first s with
  | mk result between =>
    cases ran' : Session.carryOut first' s' with
    | mk result' between' =>
      rw [ran, ran'] at ends alike
      cases ends with
      | error failure => exact ⟨.error failure, alike⟩
      | ok belongs => exact later _ _ _ _ ran ran' belongs alike

theorem Agrees.bind {first : Script γ} {first' : Script δ} {together : γ → δ → Prop}
    {next : γ → Script α} {next' : δ → Script β} (agrees : first.Agrees hidden together first')
    (later : ∀ c d, together c d → (next c).Agrees hidden belong (next' d)) :
    (first >>= next).Agrees hidden belong (first' >>= next') :=
  fun s s' alike => (agrees s s' alike).bind fun c d _ _ _ _ belongs between =>
    later c d belongs _ _ between

/-- Scripts that go on from the same answer. -/
theorem Agrees.bind_same {first first' : Script γ} {next : γ → Script α} {next' : γ → Script β}
    (agrees : first.Agrees hidden Eq first')
    (later : ∀ c, (next c).Agrees hidden belong (next' c)) :
    (first >>= next).Agrees hidden belong (first' >>= next') :=
  agrees.bind fun c _ same => same ▸ later c

theorem agrees_orFail {ε : Type} (reason : ε → Failure) {result : Except ε α}
    {other : Except ε β} (same : SameResult belong result other) :
    (orFail reason result).Agrees hidden belong (orFail reason other) := by
  cases same with
  | ok together => exact agrees_done together
  | error e => exact agrees_fail (reason e)

theorem agrees_print (text : String) : (print text).Agrees hidden Eq (print text) := by
  intro s s' alike
  refine ⟨.ok rfl, alike.connection, ?_, alike.errors, alike.quiet, alike.quiet'⟩
  exact congrArg (· ++ Utf8.encode text) alike.output

theorem agrees_prompt (text : String) :
    (request (.prompt text)).Agrees hidden Eq (request (.prompt text)) :=
  fun _ _ alike => ⟨.ok rfl, alike⟩

/-- Where no hooks are configured none is run. -/
theorem agrees_runHook (hook : Hook) : (runHook hook).Agrees hidden Eq (runHook hook) := by
  intro s s' alike
  have nothing {s : Session} (quiet : ∀ hook, s.config.hooks.argv hook = []) :
      Session.carryOut (runHook hook) s = (.ok (), s) := by
    have asked : Session.carryOut (runHook hook) s = Session.carryOut
      (orFail (.hook hook) (s.runHook hook).1) (s.runHook hook).2 := rfl
    rw [asked, Session.runHook_of_nil (quiet hook)]
    rfl
  rw [AgreesAt, nothing alike.quiet, nothing alike.quiet']
  exact ⟨.ok rfl, alike⟩

theorem agreesAt_operation (op other : Operation) {belong : op.Answer → other.Answer → Prop}
    (plans : op.plan.AlikeAt hidden belong s.connection.database.current other.plan)
    (refused : op.refusal? = other.refusal?) (alike : s.Alike hidden s') :
    (request (.store op)).AgreesAt hidden (SameResult belong) s s' (request (.store other)) := by
  obtain ⟨ends, left⟩ :=
    Operation.run_alike refused plans alike.connection Session.live Session.token
  exact ⟨.ok ends, left, alike.output, alike.errors, alike.quiet, alike.quiet'⟩

/-- A change outside of operations that does the same to what is left of a database. -/
theorem agreesAt_withDatabase {change : Database → Except Engine.Error Unit × Database}
    (same : ∀ d : Database, change (d.veiled hidden) = ((change d).1, (change d).2.veiled hidden))
    (alike : s.Alike hidden s') :
    (s.withDatabase change).1 = (s'.withDatabase change).1 ∧
      (s.withDatabase change).2.Alike hidden (s'.withDatabase change).2 := by
  obtain ⟨database, handler, clock, settings⟩ := Connection.eq_of_veiled alike.connection
  have changed := (same s.connection.database).symm.trans
    ((congrArg change database).trans (same s'.connection.database))
  obtain ⟨answer, left⟩ := Prod.mk.injEq .. ▸ changed
  refine ⟨congrArg (Except.mapError StoreError.engine) answer,
    ?_, alike.output, alike.errors, alike.quiet, alike.quiet'⟩
  simp only [Session.withDatabase, Session.keep, Connection.veiled, left, handler, clock, settings]

theorem agrees_begin : (request .begin).Agrees hidden Eq (request .begin) := by
  intro s s' alike
  obtain ⟨answer, left⟩ := agreesAt_withDatabase Database.begin_veiled alike
  exact ⟨.ok answer, left⟩

theorem agrees_commit : (request .commit).Agrees hidden Eq (request .commit) := by
  intro s s' alike
  obtain ⟨answer, left⟩ := agreesAt_withDatabase Database.commit_veiled alike
  exact ⟨.ok answer, left⟩

theorem carryOut_abandoning (script : Script α) (s : Session) :
    Session.carryOut (abandoning script) s =
      match Session.carryOut script s with
      | (.ok a, ended) => (.ok a, ended)
      | (.error failure, ended) => (.error failure, (ended.reply .abandon).2) := by
  induction script generalizing s with
  | done a => rfl
  | fail failure => rfl
  | ask request next ih => exact ih _ _

theorem AgreesAt.abandoning {script : Script α} {other : Script β}
    (agrees : script.AgreesAt hidden belong s s' other) :
    script.abandoning.AgreesAt hidden belong s s' other.abandoning := by
  obtain ⟨ends, alike⟩ := agrees
  rw [AgreesAt, carryOut_abandoning, carryOut_abandoning]
  cases ran : Session.carryOut script s with
  | mk result ended =>
    cases ran' : Session.carryOut other s' with
    | mk result' ended' =>
      rw [ran, ran'] at ends alike
      cases ends with
      | ok together => exact ⟨.ok together, alike⟩
      | error failure =>
        exact ⟨.error failure, (agreesAt_withDatabase Database.rollback_veiled alike).2⟩

/-- A transaction whose body agrees where it begins. -/
theorem agreesAt_inTransaction (notCommitted : StoreError → Failure) {body : Script α}
    {body' : Script β} (alike : s.Alike hidden s')
    (agrees : ∀ between between',
      between.connection.database.current = s.connection.database.current →
      between.Alike hidden between' → body.AgreesAt hidden belong between between' body') :
    (inTransaction notCommitted body).AgreesAt hidden belong s s'
      (inTransaction notCommitted body') := by
  refine (agrees_begin s s' alike).bind fun begun begun' between between' first _ same later => ?_
  cases same
  obtain rfl : (s.reply .begin).2 = between := congrArg Prod.snd first
  have goesOn := agrees_orFail .store (.of_eq (rfl (a := begun))) _ _ later
  refine goesOn.bind fun _ _ inside inside' ran _ _ alike => ?_
  obtain ⟨-, rfl⟩ := succeeds_orFail.1 ran
  refine AgreesAt.abandoning ?_
  refine (agrees _ _ (Database.current_begin _) alike).bind fun a b _ _ _ _ together alike => ?_
  refine (agrees_commit.bind_same fun committed => ?_) _ _ alike
  exact (agrees_orFail notCommitted (.of_eq rfl)).bind_same fun _ => agrees_done together

/-- Operations whose plans are alike whatever the tables are. -/
theorem agrees_operation (op other : Operation) {belong : op.Answer → other.Answer → Prop}
    (plans : ∀ t, op.plan.AlikeAt hidden belong t other.plan)
    (refused : op.refusal? = other.refusal?) :
    (request (.store op)).Agrees hidden (SameResult belong) (request (.store other)) :=
  fun _ _ alike => agreesAt_operation op other (plans _) refused alike

/-- An operation whose error is the failure. -/
theorem agrees_storing (op other : Operation) {belong : op.Answer → other.Answer → Prop}
    (reason : StoreError → Failure) (plans : ∀ t, op.plan.AlikeAt hidden belong t other.plan)
    (refused : op.refusal? = other.refusal?) :
    (request (.store op) >>= orFail reason).Agrees hidden belong
      (request (.store other) >>= orFail reason) :=
  (agrees_operation op other plans refused).bind fun _ _ same => agrees_orFail reason same

theorem agrees_concealing (reason : StoreError → Failure) {op : Operation}
    (conceals : ¬ op.Reveals) :
    (request (.store op) >>= orFail reason).Agrees hidden Eq
      (request (.store op) >>= orFail reason) :=
  agrees_storing op op reason (fun _ => Operation.alikeAt_plan conceals) rfl

theorem agrees_store (op : Operation) (conceals : ¬ op.Reveals) :
    (store op).Agrees hidden Eq (store op) :=
  agrees_concealing .store conceals

theorem agrees_storeAt (id : Int) (op : Operation) (conceals : ¬ op.Reveals) :
    (storeAt id op).Agrees hidden Eq (storeAt id op) :=
  agrees_concealing _ conceals

/-- A report of the same and a hook, after scripts that agree. -/
theorem Agrees.reported {script script' : Script α} (agrees : script.Agrees hidden Eq script')
    (text : α → String) (hook : Hook) :
    Agrees hidden Eq
      (do let a ← script; print (text a); runHook hook)
      (do let a ← script'; print (text a); runHook hook) :=
  agrees.bind_same fun a => (agrees_print (text a)).bind_same fun _ => agrees_runHook hook

theorem agrees_insertLabels (id : Int) (labels : List String) :
    (insertLabels id labels).Agrees hidden Eq (insertLabels id labels) := by
  induction labels with
  | nil => exact agrees_done rfl
  | cons label rest ih =>
    exact (agrees_store (.insertLabel label id) not_false).bind_same fun _ => ih

theorem agrees_printSecrets (secrets : LabeledSecrets) (json : Bool) :
    (printSecrets secrets json).Agrees hidden Eq (printSecrets secrets json) := by
  unfold printSecrets
  split
  · exact agrees_print _
  · split <;> exact agrees_print _

theorem agrees_find (name : Option String) (labels : List String) (json : Bool) :
    (find name labels json).Agrees hidden Eq (find name labels json) := by
  have searches : (search name labels).Agrees hidden Eq (search name labels) := by
    cases name with
    | none =>
      cases labels with
      | nil => exact agrees_store (.searchColumn .label []) not_false
      | cons label rest => exact agrees_store (.searchColumn .label (label :: rest)) not_false
    | some name =>
      cases labels with
      | nil => exact agrees_store (.searchColumn .secretName [name]) not_false
      | cons label rest => exact agrees_store (.searchLabelsAndName name (label :: rest)) not_false
  refine searches.bind_same fun found => ?_
  split
  · exact agrees_printSecrets found json
  · exact (agrees_store (.searchIds _) not_false).bind_same fun secrets =>
      agrees_printSecrets secrets json

/-- Whether there is a master key decides, not what it is. -/
theorem agrees_requireMasterKey :
    requireMasterKey.Agrees hidden Eq requireMasterKey := by
  refine (agrees_operation .queryMasterKey .queryMasterKey
    (fun _ => Operation.alikeAt_queryMasterKey) rfl).bind
    fun reply reply' same => ?_
  cases same with
  | ok _ => exact agrees_done rfl
  | error e => cases e <;> exact agrees_fail _

end Script
end SecretVault
