import SecretVault.Program.Launch
import SecretVault.Program.Watch

/-!
What comes of watching over a program. Whatever happens in whatever order, the first look that settles
the matter is the last one, and what it has settled counts before what became of the input. Nothing
is left behind: the program has been reaped and the writer has ended.
-/
namespace SecretVault.Program
open SecretVault.Text

theorem ExitStatus.isSuccess_iff {status : ExitStatus} :
    status.isSuccess = true ↔ status = .code 0 :=
  beq_iff_eq

theorem ExitStatus.verdict_ne_cancelled (status : ExitStatus) : status.verdict ≠ .cancelled := by
  unfold verdict
  split <;> nofun

/-- The verdict tells how a program has ended. -/
theorem ExitStatus.verdict_inj {status other : ExitStatus} :
    status.verdict = other.verdict ↔ status = other := by
  refine ⟨fun same => ?_, congrArg _⟩
  unfold verdict at same
  split at same <;> split at same
  · rename_i first second
    rw [isSuccess_iff.1 first, isSuccess_iff.1 second]
  · cases same
  · cases same
  · exact Verdict.failed.inj same

theorem ExitStatus.verdict_eq_failed_iff {status other : ExitStatus} :
    status.verdict = .failed other ↔ status = other ∧ status.isSuccess = false := by
  unfold verdict
  cases status.isSuccess <;> simp

/-- A look that settles nothing has seen the program run and its token live. -/
theorem Look.verdict?_eq_none_iff {look : Look} : look.verdict? = none ↔ look = ⟨none, false⟩ := by
  obtain ⟨ended, cancelled⟩ := look
  cases ended with
  | some status => simp [verdict?]
  | none => cases cancelled <;> simp [verdict?]

/-- A look that settles the matter has seen the program ended, or cancelled while it ran. -/
theorem Look.verdict?_eq_some_iff {look : Look} {verdict : Verdict} :
    look.verdict? = some verdict ↔
      (∃ status, look.ended = some status ∧ status.verdict = verdict) ∨
        look = ⟨none, true⟩ ∧ verdict = .cancelled := by
  obtain ⟨ended, cancelled⟩ := look
  cases ended with
  | some status => simp [verdict?, ExitStatus.verdict]
  | none => cases cancelled <;> simp [verdict?, eq_comm]

theorem conclude_eq_ok_iff {program : String} {verdict : Verdict} {written : Written} :
    conclude program verdict written = .ok () ↔
      verdict = .succeeded ∧ ∀ error, written ≠ .failed error := by
  cases verdict <;> cases written <;> simp [conclude, Written.toExcept]

theorem conclude_eq_ended_iff {program : String} {verdict : Verdict} {written : Written}
    {status : ExitStatus} :
    conclude program verdict written = .error (.ended program status) ↔
      verdict = .failed status := by
  cases verdict <;> cases written <;> simp [conclude, Written.toExcept]

theorem conclude_eq_cancelled_iff {program : String} {verdict : Verdict} {written : Written} :
    conclude program verdict written = .error (.cancelled program) ↔ verdict = .cancelled := by
  cases verdict <;> cases written <;> simp [conclude, Written.toExcept]

theorem conclude_eq_notWritten_iff {program : String} {verdict : Verdict} {written : Written}
    {error : Files.Error} :
    conclude program verdict written = .error (.notWritten program error) ↔
      verdict = .succeeded ∧ written = .failed error := by
  cases verdict <;> cases written <;> simp [conclude, Written.toExcept]

/-- That input is left unread makes no difference. -/
theorem conclude_brokenPipe (program : String) (verdict : Verdict) :
    conclude program verdict .brokenPipe = conclude program verdict .complete := by
  cases verdict <;> rfl

theorem verdict?_append {seen : List Look} (live : verdict? seen = none) (last : Look) :
    verdict? (seen ++ [last]) = last.verdict? := by
  have later : verdict? [last] = last.verdict? := by
    cases settled : last.verdict? <;> simp [verdict?, settled]
  rw [← later]
  simp only [verdict?] at live ⊢
  rw [List.findSome?_append, live, Option.none_or]

namespace Watch
variable {program : String} {w w' : Watch} {event : Event} {input : Utf8.Bytes}

/-- What holds at the start and is kept in every event holds after any events. -/
theorem holds_run {P : List Event → Watch → Prop} (starts : P [] (start input))
    (keeps : ∀ past w event w', P past w → w.step program event = some w' →
      P (past ++ [event]) w')
    {events : List Event} (ran : (start input).run program events = some w) : P events w := by
  have onward (past : List Event) (before : Watch) (events : List Event) (holds : P past before)
      (ran : before.run program events = some w) : P (past ++ events) w := by
    induction events generalizing past before with
    | nil =>
      obtain rfl : before = w := Option.some.inj ran
      rwa [List.append_nil]
    | cons event rest ih =>
      obtain ⟨between, stepped, later⟩ := Option.bind_eq_some_iff.1 ran
      have further := ih _ between (keeps past before event between holds stepped) later
      rwa [List.append_assoc] at further
  exact onward [] _ events starts ran

/-- Where the input is. What has been written and what has been read of it is in order, and the
writing has ended as it says. -/
structure Flows (input : Utf8.Bytes) (w : Watch) : Prop where
  inOrder : w.received ++ w.pipe ++ w.rest = input
  complete : w.written = some .complete → w.rest = []
  broken : w.written = some .brokenPipe → w.readable = false
  failed : ∀ error, w.written = some (.failed error) → w.rest ≠ []
  foundEnd : w.foundEnd = true →
    w.pipe = [] ∧ w.written ≠ none ∧ w.written ≠ some .brokenPipe

/-- A look that has been taken, or one that sees the program and the token as they are. It does not
see an end yet that has come after the program was seen to run. -/
def Takes (w : Watch) (look : Look) : Prop :=
  look ∈ w.looks ∨ (look.ended = w.ended ∨ look.ended = none) ∧ look.cancelled = w.cancelled

/-- The supervisor has no hand in the input, in how the program ends, or in the token. -/
theorem supervise_frame (stepped : w.supervise program = some w') :
    ∃ stage looks killed reaped, w' = { w with stage, looks, killed, reaped } ∧
      (∀ look ∈ looks, w.Takes look) ∧ (w.killed = true → killed = true) := by
  have same : ∀ look ∈ w.looks, w.Takes look := fun _ among => .inl among
  have further {last : Look} (ended : last.ended = w.ended ∨ last.ended = none)
      (cancelled : last.cancelled = w.cancelled) : ∀ look ∈ w.looks ++ [last], w.Takes look := by
    intro look among
    rcases List.mem_append.1 among with earlier | new
    · exact .inl earlier
    · obtain rfl := List.mem_singleton.1 new
      exact .inr ⟨ended, cancelled⟩
  unfold supervise at stepped
  split at stepped
  · split at stepped
    · cases stepped
      exact ⟨_, _, _, _, rfl, same, id⟩
    · rename_i status gone
      cases stepped
      exact ⟨_, _, _, _, rfl, further (.inl gone.symm) rfl, id⟩
  · cases stepped
    exact ⟨_, _, _, _, rfl, further (.inr rfl) rfl, id⟩
  · cases stepped
    exact ⟨_, _, _, _, rfl, same, fun _ => rfl⟩
  · obtain ⟨-, ⟨⟩⟩ := Option.ite_none_right_eq_some.1 stepped
    exact ⟨_, _, _, _, rfl, same, id⟩
  · obtain ⟨written, -, rfl⟩ := Option.map_eq_some_iff.1 stepped
    exact ⟨_, _, _, _, rfl, same, id⟩
  · cases stepped

theorem Flows.step (flows : w.Flows input) (stepped : w.step program event = some w') :
    w'.Flows input := by
  obtain ⟨inOrder, complete, broken, failed, foundEnd⟩ := flows
  -- the end is not found before the writer has closed the pipe
  have stillWriting {P : Prop} (writing : w.written = none) (found : w.foundEnd = true) : P :=
    absurd writing (foundEnd found).2.1
  cases event with
  | supervises =>
    obtain ⟨_, _, _, _, rfl, -⟩ := supervise_frame stepped
    exact ⟨inOrder, complete, broken, failed, foundEnd⟩
  | reads count =>
    obtain ⟨-, ⟨⟩⟩ := Option.ite_none_right_eq_some.1 stepped
    refine ⟨?_, complete, broken, failed, fun found => ?_⟩
    · rw [List.append_assoc w.received, List.take_append_drop]
      exact inOrder
    · obtain ⟨empty, closed⟩ := foundEnd found
      exact ⟨by simp [empty], closed⟩
  | findsEnd =>
    obtain ⟨⟨-, readable, empty, closed⟩, ⟨⟩⟩ := Option.ite_none_right_eq_some.1 stepped
    refine ⟨inOrder, complete, broken, failed, fun _ => ⟨empty, closed, fun unread => ?_⟩⟩
    cases readable.symm.trans (broken unread)
  | closes =>
    cases stepped
    exact ⟨inOrder, complete, fun _ => rfl, failed, foundEnd⟩
  | exits _ | dies =>
    obtain ⟨-, ⟨⟩⟩ := Option.ite_none_right_eq_some.1 stepped
    exact ⟨inOrder, complete, broken, failed, foundEnd⟩
  | writes count =>
    obtain ⟨⟨writing, -⟩, ⟨⟩⟩ := Option.ite_none_right_eq_some.1 stepped
    refine ⟨?_, ?_, broken, ?_, stillWriting writing⟩
    · rw [← List.append_assoc, List.append_assoc (_ ++ _), List.take_append_drop]
      exact inOrder
    · intro ended
      cases writing.symm.trans ended
    · intro error ended
      cases writing.symm.trans ended
  | completes =>
    obtain ⟨⟨writing, none⟩, ⟨⟩⟩ := Option.ite_none_right_eq_some.1 stepped
    exact ⟨inOrder, fun _ => none, nofun, nofun, stillWriting writing⟩
  | breaks =>
    obtain ⟨⟨writing, -, closed⟩, ⟨⟩⟩ := Option.ite_none_right_eq_some.1 stepped
    exact ⟨inOrder, nofun, fun _ => closed, nofun, stillWriting writing⟩
  | fails error =>
    obtain ⟨⟨writing, left⟩, ⟨⟩⟩ := Option.ite_none_right_eq_some.1 stepped
    exact ⟨inOrder, nofun, nofun, fun _ _ => left, stillWriting writing⟩
  | cancels =>
    cases stepped
    exact ⟨inOrder, complete, broken, failed, foundEnd⟩

theorem flows_run {events : List Event} (ran : (start input).run program events = some w) :
    w.Flows input :=
  holds_run (P := fun _ => Flows input) ⟨rfl, nofun, nofun, nofun, nofun⟩
    (fun _ _ _ _ flows stepped => flows.step stepped) ran

/-- A look has seen the program ended with this status. -/
def Saw (w : Watch) (status : ExitStatus) : Prop := ∃ look ∈ w.looks, look.ended = some status

/-- The last look has settled the matter, and none before it. -/
def Decided (w : Watch) (verdict : Verdict) : Prop :=
  ∃ seen last, w.looks = seen ++ [last] ∧ verdict? seen = none ∧ last.verdict? = some verdict

/-- The program is gone, and if that is the verdict then it has been killed. -/
structure Cleared (w : Watch) (verdict : Verdict) : Prop where
  ended : w.ended ≠ none
  reaped : w.reaped = true
  killed : verdict = .cancelled → w.killed = true

/-- What the supervisor has done to come to its stage. -/
def Stands (program : String) (w : Watch) : Prop :=
  match w.stage with
  | .looking | .checking => verdict? w.looks = none
  | .killing => w.Decided .cancelled
  | .reaping => w.Decided .cancelled ∧ w.killed = true
  | .joining verdict => w.Decided verdict ∧ w.Cleared verdict
  | .returned result => ∃ verdict written, w.Decided verdict ∧ w.Cleared verdict ∧
      w.written = some written ∧ result = conclude program verdict written

/-- The supervisor is where it was. What has ended has ended for good, and so it is with the
token. -/
structure Stays (w w' : Watch) : Prop where
  stage : w'.stage = w.stage
  looks : w'.looks = w.looks
  killed : w'.killed = w.killed
  reaped : w'.reaped = w.reaped
  ended : ∀ status, w.ended = some status → w'.ended = some status
  written : ∀ written, w.written = some written → w'.written = some written
  cancelled : w.cancelled = true → w'.cancelled = true

theorem stays_step (stepped : w.step program event = some w') (other : event ≠ .supervises) :
    w.Stays w' := by
  cases event with
  | supervises => exact absurd rfl other
  | reads _ | findsEnd | writes _ =>
    obtain ⟨-, ⟨⟩⟩ := Option.ite_none_right_eq_some.1 stepped
    exact ⟨rfl, rfl, rfl, rfl, fun _ same => same, fun _ same => same, id⟩
  | closes =>
    cases stepped
    exact ⟨rfl, rfl, rfl, rfl, fun _ same => same, fun _ same => same, id⟩
  | exits _ =>
    obtain ⟨running, ⟨⟩⟩ := Option.ite_none_right_eq_some.1 stepped
    refine ⟨rfl, rfl, rfl, rfl, fun _ ended => ?_, fun _ same => same, id⟩
    cases running.symm.trans ended
  | dies =>
    obtain ⟨⟨running, -⟩, ⟨⟩⟩ := Option.ite_none_right_eq_some.1 stepped
    refine ⟨rfl, rfl, rfl, rfl, fun _ ended => ?_, fun _ same => same, id⟩
    cases running.symm.trans ended
  | completes | breaks | fails _ =>
    obtain ⟨⟨writing, -⟩, ⟨⟩⟩ := Option.ite_none_right_eq_some.1 stepped
    refine ⟨rfl, rfl, rfl, rfl, fun _ same => same, fun _ written => ?_, id⟩
    cases writing.symm.trans written
  | cancels =>
    cases stepped
    exact ⟨rfl, rfl, rfl, rfl, fun _ same => same, fun _ same => same, fun _ => rfl⟩

theorem Stands.stays (stands : w.Stands program) (stays : w.Stays w') : w'.Stands program := by
  obtain ⟨stage, looks, killed, reaped, ended, written, -⟩ := stays
  have decided {verdict : Verdict} (decided : w.Decided verdict) : w'.Decided verdict := by
    rw [Decided, looks]
    exact decided
  have cleared {verdict : Verdict} (cleared : w.Cleared verdict) : w'.Cleared verdict := by
    obtain ⟨status, gone⟩ := Option.ne_none_iff_exists'.1 cleared.ended
    exact ⟨by rw [ended status gone]; nofun, reaped ▸ cleared.reaped, killed ▸ cleared.killed⟩
  unfold Stands at stands ⊢
  rw [stage]
  cases here : w.stage with
  | looking | checking => simpa [here, looks] using stands
  | killing =>
    rw [here] at stands
    exact decided stands
  | reaping =>
    rw [here] at stands
    exact ⟨decided stands.1, killed ▸ stands.2⟩
  | joining verdict =>
    rw [here] at stands
    exact ⟨decided stands.1, cleared stands.2⟩
  | returned result =>
    rw [here] at stands
    obtain ⟨verdict, how, settled, clear, closed, same⟩ := stands
    exact ⟨verdict, how, decided settled, cleared clear, written how closed, same⟩

theorem Stands.supervise (stands : w.Stands program) (stepped : w.supervise program = some w') :
    w'.Stands program := by
  unfold Stands at stands
  unfold Watch.supervise at stepped
  cases here : w.stage with
  | looking =>
    rw [here] at stands stepped
    cases gone : w.ended with
    | none =>
      rw [gone] at stepped
      cases stepped
      exact stands
    | some status =>
      rw [gone] at stepped
      cases stepped
      refine ⟨⟨w.looks, _, rfl, stands, rfl⟩, by simp, rfl, fun cancelled => ?_⟩
      exact absurd cancelled status.verdict_ne_cancelled
  | checking =>
    rw [here] at stands stepped
    cases stepped
    cases token : w.cancelled with
    | true => exact ⟨w.looks, _, rfl, stands, rfl⟩
    | false => exact verdict?_append stands ⟨none, false⟩
  | killing =>
    rw [here] at stands stepped
    cases stepped
    exact ⟨stands, rfl⟩
  | reaping =>
    rw [here] at stands stepped
    obtain ⟨gone, ⟨⟩⟩ := Option.ite_none_right_eq_some.1 stepped
    exact ⟨stands.1, Option.isSome_iff_ne_none.1 gone, rfl, fun _ => stands.2⟩
  | joining verdict =>
    rw [here] at stands stepped
    obtain ⟨written, closed, rfl⟩ := Option.map_eq_some_iff.1 stepped
    obtain ⟨decided, ended, reaped, killed⟩ := stands
    exact ⟨verdict, written, decided, ⟨ended, reaped, killed⟩, closed, rfl⟩
  | returned result =>
    rw [here] at stepped
    cases stepped

theorem stands_run {events : List Event} (ran : (start input).run program events = some w) :
    w.Stands program := by
  refine holds_run (P := fun _ => Stands program) rfl (fun _ w event w' stands stepped => ?_) ran
  by_cases own : event = .supervises
  · subst own
    exact stands.supervise stepped
  · exact stands.stays (stays_step stepped own)

/-- What the looks have seen is so. -/
def Honest (w : Watch) : Prop :=
  ∀ look ∈ w.looks, (∀ status, look.ended = some status → w.ended = some status) ∧
    (look.cancelled = true → w.cancelled = true)

theorem Honest.step (honest : w.Honest) (stepped : w.step program event = some w') :
    w'.Honest := by
  intro look among
  by_cases own : event = .supervises
  · subst own
    obtain ⟨_, looks, _, _, rfl, seen, -⟩ := supervise_frame stepped
    rcases seen look among with earlier | ⟨ended, cancelled⟩
    · exact honest look earlier
    · refine ⟨fun status saw => ?_, fun saw => cancelled.symm.trans saw⟩
      rcases ended with same | running
      · exact same.symm.trans saw
      · cases running.symm.trans saw
  · obtain ⟨-, looks, -, -, endedStays, -, cancelledStays⟩ := stays_step stepped own
    obtain ⟨ended, cancelled⟩ := honest look (looks ▸ among)
    exact ⟨fun status saw => endedStays status (ended status saw),
      fun saw => cancelledStays (cancelled saw)⟩

/-- A program that has ended has done so by itself, or has died of being killed. -/
def Accounted (events : List Event) (w : Watch) : Prop :=
  ∀ status, w.ended = some status →
    .exits status ∈ events ∨ w.killed = true ∧ status = .signal killSignal

theorem Accounted.step {past : List Event} (accounted : w.Accounted past)
    (stepped : w.step program event = some w') : w'.Accounted (past ++ [event]) := by
  have still (ended : w'.ended = w.ended) (killed : w.killed = true → w'.killed = true) :
      w'.Accounted (past ++ [event]) := by
    intro status gone
    rcases accounted status (ended.symm.trans gone) with exited | ⟨sent, died⟩
    · exact .inl (List.mem_append_left _ exited)
    · exact .inr ⟨killed sent, died⟩
  cases event with
  | supervises =>
    obtain ⟨_, _, killed, _, rfl, -, stays⟩ := supervise_frame stepped
    exact still rfl stays
  | exits status =>
    obtain ⟨-, ⟨⟩⟩ := Option.ite_none_right_eq_some.1 stepped
    intro other gone
    obtain rfl := Option.some.inj gone
    exact .inl (by simp)
  | dies =>
    obtain ⟨⟨-, killed⟩, ⟨⟩⟩ := Option.ite_none_right_eq_some.1 stepped
    intro status gone
    exact .inr ⟨killed, (Option.some.inj gone).symm⟩
  | reads _ | findsEnd | writes _ | completes | breaks | fails _ =>
    obtain ⟨-, ⟨⟩⟩ := Option.ite_none_right_eq_some.1 stepped
    exact still rfl id
  | closes | cancels =>
    cases stepped
    exact still rfl id

theorem honest_run {events : List Event} (ran : (start input).run program events = some w) :
    w.Honest :=
  holds_run (P := fun _ => Honest) nofun (fun _ _ _ _ honest stepped => honest.step stepped) ran

theorem accounted_run {events : List Event} (ran : (start input).run program events = some w) :
    w.Accounted events :=
  holds_run (P := fun events w => w.Accounted events) nofun
    (fun _ _ _ _ accounted stepped => accounted.step stepped) ran

namespace Decided
variable {verdict : Verdict}

theorem settles (decided : w.Decided verdict) : verdict? w.looks = some verdict := by
  obtain ⟨seen, last, looks, live, settled⟩ := decided
  rw [looks, verdict?_append live, settled]

/-- A program has been seen ended if this is the verdict. -/
theorem saw_iff (decided : w.Decided verdict) {status : ExitStatus} :
    w.Saw status ↔ verdict = status.verdict := by
  obtain ⟨seen, last, looks, live, settled⟩ := decided
  have only : w.Saw status ↔ last.ended = some status := by
    rw [Saw, looks]
    constructor
    · rintro ⟨look, among, ended⟩
      rcases List.mem_append.1 among with earlier | new
      · have running := List.findSome?_eq_none_iff.1 live look earlier
        rw [Look.verdict?_eq_none_iff.1 running] at ended
        cases ended
      · rwa [List.mem_singleton.1 new] at ended
    · exact fun ended => ⟨last, by simp, ended⟩
  rw [only]
  rcases Look.verdict?_eq_some_iff.1 settled with ⟨other, ended, rfl⟩ | ⟨rfl, rfl⟩
  · rw [ended, Option.some.injEq, ExitStatus.verdict_inj]
  · simp [status.verdict_ne_cancelled.symm]

theorem failed_iff (decided : w.Decided verdict) {status : ExitStatus} :
    w.Saw status ∧ status.isSuccess = false ↔ verdict = .failed status := by
  rw [decided.saw_iff]
  constructor
  · rintro ⟨rfl, fails⟩
    exact ExitStatus.verdict_eq_failed_iff.2 ⟨rfl, fails⟩
  · rintro rfl
    obtain ⟨seen, last, -, -, settled⟩ := decided
    rcases Look.verdict?_eq_some_iff.1 settled with ⟨other, -, same⟩ | ⟨-, ⟨⟩⟩
    obtain ⟨rfl, fails⟩ := ExitStatus.verdict_eq_failed_iff.1 same
    exact ⟨same.symm, fails⟩

/-- The last look has seen the program run and its token cancelled, if this is the verdict. -/
theorem last_iff (decided : w.Decided verdict) :
    w.looks.getLast? = some ⟨none, true⟩ ↔ verdict = .cancelled := by
  obtain ⟨seen, last, looks, -, settled⟩ := decided
  rw [looks, List.getLast?_concat, Option.some.injEq]
  rcases Look.verdict?_eq_some_iff.1 settled with ⟨status, ended, rfl⟩ | ⟨rfl, rfl⟩
  · simp only [status.verdict_ne_cancelled, iff_false]
    rintro rfl
    cases ended
  · simp

end Decided

/-- All events of one list and then all of another. -/
theorem run_append {first later : List Event} {between : Watch}
    (ran : w.run program first = some between) :
    w.run program (first ++ later) = between.run program later := by
  rw [run, List.foldlM_append]
  exact congrArg (· >>= fun w => w.run program later) ran

/-- While a program runs and its token is live the supervisor looks at them again and again. -/
theorem run_live {seen : List Look} (live : verdict? seen = none) (running : w.ended = none)
    (token : w.cancelled = false) (looking : w.stage = .looking) :
    w.run program (seen.flatMap fun _ => [.supervises, .supervises]) =
      some { w with looks := w.looks ++ seen } := by
  induction seen generalizing w with
  | nil => simp [run]
  | cons look rest ih =>
    have dull := List.findSome?_eq_none_iff.1 live
    obtain rfl := Look.verdict?_eq_none_iff.1 (dull look List.mem_cons_self)
    have later : verdict? rest = none :=
      List.findSome?_eq_none_iff.2 fun other among => dull other (List.mem_cons_of_mem _ among)
    have looked : w.run program [.supervises, .supervises] =
        some { w with looks := w.looks ++ [⟨none, false⟩] } := by
      simp [run, Watch.step, supervise, looking, running, token]
    have further := ih (w := { w with looks := w.looks ++ [⟨none, false⟩] }) later running token looking
    rw [List.flatMap_cons, run_append looked, further]
    simp

/-- Any looks that settle the matter are taken in some order of events. -/
theorem returns_of_looks {seen : List Look} {last : Look} {verdict : Verdict}
    (live : verdict? seen = none) (settled : last.verdict? = some verdict) (program : String)
    (input : Utf8.Bytes) :
    ∃ events w, (start input).run program events = some w ∧ w.looks = seen ++ [last] ∧
      w.written = some .complete ∧ w.stage = .returned (conclude program verdict .complete) := by
  let written : Watch := { rest := [], pipe := input, written := some .complete }
  obtain ⟨writing, wrote⟩ : ∃ events, (start input).run program events = some written := by
    cases input with
    | nil => exact ⟨[.completes], rfl⟩
    | cons byte rest =>
      exact ⟨[.writes (rest.length + 1), .completes], by
        simp [run, Watch.step, start, written]⟩
  have looked : written.run program _ = _ := run_live live rfl rfl rfl
  obtain ⟨ending, w, ended, looks, closed, returned⟩ : ∃ events w,
      { written with looks := seen }.run program events = some w ∧ w.looks = seen ++ [last] ∧
        w.written = some .complete ∧ w.stage = .returned (conclude program verdict .complete) := by
    rcases Look.verdict?_eq_some_iff.1 settled with ⟨status, ended, rfl⟩ | ⟨rfl, rfl⟩
    · obtain ⟨_, cancelled⟩ := last
      dsimp only at ended
      subst ended
      cases cancelled with
      | false => exact ⟨[.exits status, .supervises, .supervises], _, rfl, rfl, rfl, rfl⟩
      | true => exact ⟨[.exits status, .cancels, .supervises, .supervises], _, rfl, rfl, rfl, rfl⟩
    · exact ⟨[.cancels, .supervises, .supervises, .supervises, .dies, .supervises, .supervises], _,
        rfl, rfl, rfl, rfl⟩
  refine ⟨writing ++ ((seen.flatMap fun _ => [.supervises, .supervises]) ++ ending), w, ?_, looks,
    closed, returned⟩
  rw [run_append wrote, run_append looked]
  exact ended

/-- A program that has found the end of its input has received all of it, or what had been written
when the writer failed. -/
theorem received_of_foundEnd {events : List Event}
    (ran : (start input).run program events = some w) (found : w.foundEnd = true) :
    w.written = some .complete ∧ w.received = input ∨
      ∃ error, w.written = some (.failed error) ∧ w.rest ≠ [] ∧ w.received ++ w.rest = input := by
  have flows := flows_run ran
  obtain ⟨empty, closed, readable⟩ := flows.foundEnd found
  have inOrder := flows.inOrder
  rw [empty, List.append_nil] at inOrder
  cases written : w.written with
  | none => exact absurd written closed
  | some how =>
    cases how with
    | complete =>
      rw [flows.complete written, List.append_nil] at inOrder
      exact .inl ⟨rfl, inOrder⟩
    | brokenPipe => exact absurd written readable
    | failed error => exact .inr ⟨error, rfl, flows.failed error written, inOrder⟩

/-- What has been seen of an end of the program is so. -/
theorem ended_of_saw {events : List Event} (ran : (start input).run program events = some w)
    {status : ExitStatus} (saw : w.Saw status) : w.ended = some status := by
  obtain ⟨look, among, ended⟩ := saw
  exact (honest_run ran look among).1 status ended

end Watch

namespace Surroundings

/-- What a run comes to is what some looks settle, or it is cancelled; and input that is left unread
makes no difference. -/
theorem result_run {s : Surroundings} {program : String} {arguments : List String}
    {utility : Shell.Utility} (found : s.locate program arguments = .ok utility) :
    ∃ line : Timeline, (s.run program arguments).result =
      conclude program ((verdict? line.looks).getD .cancelled) .complete := by
  have unread (verdict : Verdict) (whole : Prop) [Decidable whole] :
      conclude program verdict (if whole then .complete else .brokenPipe) =
        conclude program verdict .complete := by
    split
    · rfl
    · exact conclude_brokenPipe program verdict
  unfold run
  rw [found]
  dsimp only
  split
  exact ⟨_, unread _ _⟩

/-- What a run comes to, it comes to when it is watched over step by step. -/
theorem exists_watch {s : Surroundings} {program : String} {arguments : List String}
    {utility : Shell.Utility} (found : s.locate program arguments = .ok utility)
    (input : Utf8.Bytes) :
    ∃ events w, (Watch.start input).run program events = some w ∧
      w.stage = .returned (s.run program arguments).result := by
  obtain ⟨line, result⟩ := result_run found
  rw [result]
  cases settled : verdict? line.looks with
  | none =>
    have cancelled : Look.verdict? ⟨none, true⟩ = some .cancelled := rfl
    obtain ⟨events, w, ran, -, -, returned⟩ :=
      Watch.returns_of_looks settled cancelled program input
    exact ⟨events, w, ran, returned⟩
  | some verdict =>
    obtain ⟨seen, last, _, -, settles, live⟩ := List.findSome?_eq_some_iff.1 settled
    obtain ⟨events, w, ran, -, -, returned⟩ := Watch.returns_of_looks
      (List.findSome?_eq_none_iff.2 live) settles program input
    exact ⟨events, w, ran, returned⟩

end Surroundings

/-- What comes of writing an input to a program and watching over it, whatever happens in whatever
order. A look tells how the program has ended, and the last look settles the matter. If it has seen a
failure then this is reported whatever has become of the input; if it has seen a success then what is
reported is that the writer has failed, which a broken pipe does not count as. Otherwise the program
was seen to run and then its token to be cancelled; it has been killed, and this is reported. By then
the program has been reaped and the writer has ended. A program that finds the end of its input has
received all of it, unless the writer has failed. What a run of the program is computed to come to is
what comes of watching over it in some order of events. -/
theorem outcome_of_watching (program : String) (input : Utf8.Bytes) :
    (∀ (events : List Watch.Event) (w : Watch), (Watch.start input).run program events = some w →
      (∀ status, w.Saw status → w.ended = some status) ∧
      (w.foundEnd = true → w.written = some .complete ∧ w.received = input ∨
        ∃ error, w.written = some (.failed error) ∧ w.rest ≠ [] ∧ w.received ++ w.rest = input) ∧
      ∀ result, w.stage = .returned result →
        (result = .ok () ↔ w.Saw (.code 0) ∧ ∀ error, w.written ≠ some (.failed error)) ∧
        (∀ status, result = .error (.ended program status) ↔
          w.Saw status ∧ status.isSuccess = false) ∧
        (result = .error (.cancelled program) ↔ w.looks.getLast? = some ⟨none, true⟩) ∧
        (result = .error (.cancelled program) → w.cancelled = true ∧ w.killed = true ∧
          (w.ended = some (.signal killSignal) ∨
            ∃ status, w.ended = some status ∧ .exits status ∈ events)) ∧
        (∀ error, result = .error (.notWritten program error) ↔
          w.Saw (.code 0) ∧ w.written = some (.failed error)) ∧
        w.ended ≠ none ∧ w.reaped = true ∧ w.written ≠ none ∧
        ∃ verdict written, verdict? w.looks = some verdict ∧ w.written = some written ∧
          result = conclude program verdict written) ∧
    ∀ (s : Surroundings) (arguments : List String) (utility : Shell.Utility),
      { s with input }.locate program arguments = .ok utility →
      ∃ events w, (Watch.start input).run program events = some w ∧
        w.stage = .returned (s.runWithInput input program arguments).result := by
  refine ⟨fun events w ran => ⟨fun status => Watch.ended_of_saw ran,
    Watch.received_of_foundEnd ran, fun result returned => ?_⟩, fun s arguments utility found => ?_⟩
  · have stands := Watch.stands_run ran
    rw [Watch.Stands, returned] at stands
    obtain ⟨verdict, written, decided, ⟨ended, reaped, killed⟩, closed, rfl⟩ := stands
    have succeeded : w.Saw (.code 0) ↔ verdict = .succeeded := decided.saw_iff
    simp only [closed, Option.some.injEq, ne_eq, succeeded, decided.failed_iff, decided.last_iff]
    refine ⟨conclude_eq_ok_iff, fun _ => conclude_eq_ended_iff, conclude_eq_cancelled_iff, ?_,
      fun _ => conclude_eq_notWritten_iff, ended, reaped, nofun, verdict, written, decided.settles,
      rfl, rfl⟩
    intro cancelled
    obtain rfl := conclude_eq_cancelled_iff.1 cancelled
    have last := List.mem_of_getLast? (decided.last_iff.2 rfl)
    refine ⟨(Watch.honest_run ran _ last).2 rfl, killed rfl, ?_⟩
    obtain ⟨status, gone⟩ := Option.ne_none_iff_exists'.1 ended
    rcases Watch.accounted_run ran status gone with exited | ⟨-, rfl⟩
    · exact .inr ⟨status, gone, exited⟩
    · exact .inl gone
  · exact Surroundings.exists_watch (s := { s with input }) found input

/-- A token is cancelled after a look, and the program succeeds before it is killed. Another program
reads its input to the end. -/
theorem outcome_of_watching_late :
    let input : Utf8.Bytes := [0x61, 0x62]
    let late : List Watch.Event := [.writes 2, .reads 1, .supervises, .cancels, .exits (.code 0),
      .supervises, .supervises, .supervises, .completes, .supervises]
    let whole : List Watch.Event := [.writes 1, .reads 1, .supervises, .writes 1, .completes,
      .supervises, .reads 1, .findsEnd, .exits (.code 0), .supervises, .supervises]
    (∃ w, (Watch.start input).run "cat" late = some w ∧
      w.stage = .returned (.error (.cancelled "cat")) ∧ w.ended = some (.code 0) ∧
      w.looks = [⟨none, true⟩] ∧ w.killed = true ∧ w.reaped = true) ∧
    (∃ w, (Watch.start input).run "cat" whole = some w ∧ w.stage = .returned (.ok ()) ∧
      w.received = input ∧ w.Saw (.code 0)) ∧
    ∃ events w, (Watch.start input).run "cat" events = some w ∧
      w.stage = .returned
        ((Surroundings.mk ⟨[]⟩ [] [] [] false).runWithInput input "cat" []).result := by
  intro input late whole
  obtain ⟨outcomes, computed⟩ := outcome_of_watching "cat" input
  have first : ∃ w, (Watch.start input).run "cat" late = some w ∧
      w.stage = .returned (.error (.cancelled "cat")) ∧ w.ended = some (.code 0) ∧
      w.looks = [⟨none, true⟩] := ⟨_, rfl, rfl, rfl, rfl⟩
  have second : ∃ w, (Watch.start input).run "cat" whole = some w ∧ w.stage = .returned (.ok ()) ∧
      w.foundEnd = true ∧ w.written = some .complete := ⟨_, rfl, rfl, rfl, rfl⟩
  refine ⟨?_, ?_, ?_⟩
  · obtain ⟨w, ran, returned, ended, looks⟩ := first
    obtain ⟨-, -, returns⟩ := outcomes late w ran
    obtain ⟨-, -, -, cancelled, -, -, reaped, -⟩ := returns _ returned
    exact ⟨w, ran, returned, ended, looks, (cancelled rfl).2.1, reaped⟩
  · obtain ⟨w, ran, returned, found, written⟩ := second
    obtain ⟨-, ends, returns⟩ := outcomes whole w ran
    refine ⟨w, ran, returned, ?_, ((returns _ returned).1.1 rfl).1⟩
    rcases ends found with ⟨-, all⟩ | ⟨error, failed, -⟩
    · exact all
    · cases written.symm.trans failed
  · have found : ((Surroundings.mk ⟨[]⟩ [] [] input false).locate "cat" []).isOk = true := by
      decide +kernel
    cases located : (Surroundings.mk ⟨[]⟩ [] [] input false).locate "cat" [] with
    | error fault =>
      rw [located] at found
      cases found
    | ok utility => exact computed ⟨⟨[]⟩, [], [], [], false⟩ [] utility located

end SecretVault.Program
