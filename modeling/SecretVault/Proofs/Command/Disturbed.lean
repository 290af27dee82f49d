import SecretVault.Proofs.Command.Phases
import SecretVault.Proofs.Files.Vaults
import SecretVault.Proofs.Sessions

/-!
Commands while something comes from outside: an interrupt cancels the token, the output takes no
more, or the process is made to quit. Up to there all is as it is without, and what follows is known
from the phase that the command is in.
-/
namespace SecretVault
open SecretVault.Engine SecretVault.Files SecretVault.Text

namespace Circumstances

@[simp] theorem after_calm (n : Nat) : calm.after n = calm := by
  induction n with
  | zero => rfl
  | succ n ih => exact ih

/-- The next request comes after those before it. -/
theorem after_succ (c : Circumstances) (n : Nat) : c.after (n + 1) = (c.after n).next := by
  induction n generalizing c with
  | zero => rfl
  | succ n ih => exact ih c.next

/-- Where something comes from outside later on, something comes from outside. -/
theorem ne_calm_of_next {c : Circumstances} (disturbed : c.next ≠ calm) : c ≠ calm := by
  rintro rfl
  exact disturbed rfl

theorem ne_calm_of_isOver {c : Circumstances} (quitting : c.isOver = true) : c ≠ calm := by
  rintro rfl
  cases quitting

theorem quits_of_isOver {c : Circumstances} {n : Nat} (quitting : (c.after n).isOver = true) :
    c.quits ≠ none := by
  induction n generalizing c with
  | zero =>
    intro never
    rw [after, isOver, never] at quitting
    cases quitting
  | succ n ih =>
    intro never
    refine ih quitting ?_
    rw [next, never]
    rfl

theorem passOn_cases (c : Circumstances) (bytes : Utf8.Bytes) :
    c.passOn bytes = (.ok (), bytes) ∨
      ∃ taken e, c.refusals 0 = some (taken, e) ∧ c.passOn bytes = (.error e, bytes.take taken) := by
  unfold passOn
  split
  · rename_i taken e refuses
    split
    · exact .inr ⟨taken, e, refuses, rfl⟩
    · exact .inl rfl
  · exact .inl rfl

end Circumstances

/-- A failure by which circumstances end a command that has written everything. -/
def Failure.CutsShort (c : Circumstances) : Failure → Prop
  | .notPrinted e => ∃ n taken, c.refusals n = some (taken, e)
  | .quit => c.quits ≠ none
  | _ => False

theorem Failure.CutsShort.earlier {c : Circumstances} {failure : Failure}
    (cutsShort : failure.CutsShort c.next) : failure.CutsShort c := by
  cases failure with
  | notPrinted e =>
    obtain ⟨n, taken, refuses⟩ := cutsShort
    exact ⟨n + 1, taken, refuses⟩
  | quit =>
    intro never
    refine cutsShort ?_
    rw [Circumstances.next, never]
    rfl
  | _ => cases cutsShort

/-- With nothing coming from outside no command is cut short. -/
theorem Failure.not_cutsShort_calm (failure : Failure) : ¬ failure.CutsShort .calm := by
  intro cutsShort
  cases failure with
  | notPrinted e =>
    obtain ⟨_, _, refuses⟩ := cutsShort
    cases refuses
  | quit => exact cutsShort rfl
  | _ => cases cutsShort

/-- A failure that only circumstances bring about. -/
def Failure.IsForeign (failure : Failure) : Prop := failure.IsSpoiled ∨ failure = .quit

theorem Failure.CutsShort.isForeign {c : Circumstances} {failure : Failure}
    (cutsShort : failure.CutsShort c) : failure.IsForeign := by
  cases failure with
  | notPrinted e => exact .inl trivial
  | quit => exact .inr rfl
  | _ => cases cutsShort

namespace Session

/-- The session without hooks: none is run. -/
def hookless (s : Session) : Session := { s with config := { s.config with hooks := {} } }

theorem reply_hookless (s : Session) {r : Request} (noHook : ∀ hook, r ≠ .runHook hook) :
    s.hookless.reply r = ((s.reply r).1, (s.reply r).2.hookless) := by
  cases r with
  | runHook hook => exact absurd rfl (noHook hook)
  | _ => rfl

theorem runHook_hookless (s : Session) (hook : Hook) :
    s.hookless.runHook hook = (.ok (), s.hookless) :=
  runHook_of_nil (by cases hook <;> rfl)

/-- The session goes on from the one that was opened: all other vaults are as they were, and what
the database has stored is kept where it was. -/
structure Follows (s opened : Session) : Prop where
  config : s.config = opened.config
  place : s.place = opened.place
  elsewhere : ∀ location, opened.place ≠ .file location →
    s.tree.tablesAt location = opened.tree.tablesAt location
  kept : s.place.Keeps s.tree s.connection.database.committed

/-- What a database has stored is kept. -/
theorem Follows.keep {s opened : Session} (follows : s.Follows opened) (connection : Connection) :
    (Session.keep { s with connection }).Follows opened := by
  obtain ⟨config, place, elsewhere, kept⟩ := follows
  unfold Session.keep OpenVault.store
  cases here : s.place with
  | temporary => exact ⟨config, here.symm.trans place, elsewhere, trivial⟩
  | file location =>
    rw [here] at kept place
    have below : location ≠ [] := kept.1
    refine ⟨config, place, fun other away => ?_, below, ?_⟩
    · have apart : other ≠ location := by
        rintro rfl
        exact away place.symm
      rw [← elsewhere other away]
      exact (Tree.tablesAt_put below _ _ _).trans (if_neg apart)
    · exact (Tree.tablesAt_put below _ _ _).trans (if_pos rfl)

section
variable (c : Circumstances) (s : Session)

theorem printAmid_cases (text : String) : s.printAmid c text = (.ok (), s.print text) ∨
    ∃ taken e, c.refusals 0 = some (taken, e) ∧ s.printAmid c text =
      (.error e, { s with output := s.output ++ (Utf8.encode text).take taken }) := by
  unfold printAmid
  rcases c.passOn_cases (Utf8.encode text) with all | ⟨taken, e, refuses, part⟩
  · exact .inl (by rw [all])
  · exact .inr ⟨taken, e, refuses, by rw [part]⟩

theorem flushAmid_cases : s.flushAmid c = (.ok (), { s with held := 0 }) ∨
    ∃ taken e, c.refusals 0 = some (taken, e) ∧ s.flushAmid c =
      (.error e, { s with output := s.passedOn ++ s.heldPart.take taken, held := 0 }) := by
  unfold flushAmid
  rcases c.passOn_cases s.heldPart with all | ⟨taken, e, refuses, part⟩
  · exact .inl (by rw [all])
  · exact .inr ⟨taken, e, refuses, by rw [part]⟩

/-- A reply is spoiled, or it is what it is with nothing coming from outside. -/
theorem replyAmid_cases {r : Request} (noHook : ∀ hook, r ≠ .runHook hook) :
    c ≠ .calm ∧ r.Spoils (s.replyAmid c r).1 ∨ s.replyAmid c r = s.reply r := by
  by_cases calm : c = .calm
  · rw [calm]
    exact .inr rfl
  rw [and_iff_right calm]
  cases r with
  | store op =>
    have live : ∀ token, Session.live token = none := fun _ => rfl
    rcases op.run_cancelled_or_eq c.schedule live token s.connection with stopped | same
    · exact .inl stopped
    · refine .inr ?_
      rw [reply, replyAmid, same]
      rfl
  | print text =>
    rcases s.printAmid_cases c text with whole | ⟨_, e, -, part⟩
    · exact .inr whole
    · exact .inl ⟨e, congrArg Prod.fst part⟩
  | flush =>
    rcases s.flushAmid_cases c with whole | ⟨_, e, -, part⟩
    · exact .inr whole
    · exact .inl ⟨e, congrArg Prod.fst part⟩
  | runHook hook => exact absurd rfl (noHook hook)
  | _ => exact .inr rfl

/-- A talk changes neither the vault nor the files. -/
theorem replyAmid_talk {r : Request} (talks : r.IsTalk) :
    ∃ output held input, (s.replyAmid c r).2 = { s with output, held, input } := by
  cases r with
  | print text =>
    rcases s.printAmid_cases c text with whole | ⟨taken, e, -, part⟩
    · exact ⟨_, _, s.input, congrArg Prod.snd whole⟩
    · exact ⟨_, s.held, s.input, congrArg Prod.snd part⟩
  | flush =>
    rcases s.flushAmid_cases c with whole | ⟨taken, e, -, part⟩
    · exact ⟨s.output, 0, s.input, congrArg Prod.snd whole⟩
    · exact ⟨_, 0, s.input, congrArg Prod.snd part⟩
  | readInput => exact ⟨s.output, s.held, [], rfl⟩
  | prompt _ => exact ⟨s.output, s.held, s.input, rfl⟩
  | _ => cases talks

end

section
variable {α : Type} {c : Circumstances}

/-- A process that has been made to quit does nothing more. -/
theorem carryOutAmid_of_isOver (quitting : c.isOver = true) (script : Script α) (s : Session) :
    carryOutAmid script c s = (.error .quit, s) ∧ hookRunsAmid script c s = [] := by
  cases script <;> simp [carryOutAmid, hookRunsAmid, quitting]

theorem carryOutAmid_fail (failure : Failure) (c : Circumstances) (s : Session) :
    carryOutAmid (.fail failure : Script α) c s =
      (.error (if c.isOver then .quit else failure), s) := rfl

theorem carryOutAmid_ask (running : c.isOver = false) {r : Request} (next : r.Reply → Script α)
    (s : Session) : carryOutAmid (.ask r next) c s =
      carryOutAmid (next (s.replyAmid c r).1) c.next (s.replyAmid c r).2 := by
  simp [carryOutAmid, running]

theorem hookRunsAmid_ask (running : c.isOver = false) {r : Request} (next : r.Reply → Script α)
    (s : Session) (noHook : ∀ hook, r ≠ .runHook hook) : hookRunsAmid (.ask r next) c s =
      hookRunsAmid (next (s.replyAmid c r).1) c.next (s.replyAmid c r).2 := by
  cases r with
  | runHook hook => exact absurd rfl (noHook hook)
  | _ => simp [hookRunsAmid, running]

/-- A hook that is left alone comes to what it comes to, unless the process is made to quit after
it. -/
theorem carryOutAmid_runHook (running : c.isOver = false) (hook : Hook) (a : α) (s : Session) :
    carryOutAmid (do Script.runHook hook; return a) c s =
      (if c.next.isOver then .error .quit
        else ((s.runHookAmid c hook).1.mapError (.hook hook)).map fun _ => a,
      (s.runHookAmid c hook).2) := by
  refine (carryOutAmid_ask running (r := .runHook hook)
    (fun result => (do Script.orFail (.hook hook) result; return a : Script α)) s).trans ?_
  have replied : s.replyAmid c (.runHook hook) = s.runHookAmid c hook := rfl
  rw [replied]
  cases (s.runHookAmid c hook).1 with
  | ok done => rfl
  | error e =>
    refine (carryOutAmid_fail (α := α) (.hook hook e) c.next _).trans ?_
    cases c.next.isOver <;> rfl

end
end Session

/-- A session stands in a phase: the vault of another session at its opening is kept, and its
database is like that. -/
structure Phase.Holds (opened : Session) (p : Phase) (s : Session) : Prop where
  follows : s.Follows opened
  allows : p.Allows opened.connection.database.committed s.connection.database

namespace Phase.Holds
variable {opened s : Session} {p : Phase}

theorem store (follows : s.Follows opened) {op : Operation} {c : Circumstances}
    (allows : p.Allows opened.connection.database.committed
      (op.run c.schedule Session.token s.connection).2.database) :
    p.Holds opened (s.replyAmid c (.store op)).2 :=
  ⟨follows.keep _, allows⟩

theorem withDatabase (follows : s.Follows opened)
    {change : Database → Except Engine.Error Unit × Database}
    (allows : p.Allows opened.connection.database.committed (change s.connection.database).2) :
    p.Holds opened (s.withDatabase change).2 :=
  ⟨follows.keep _, allows⟩

theorem talk {r : Request} (talks : r.IsTalk) (holds : p.Holds opened s) (c : Circumstances) :
    p.Holds opened (s.replyAmid c r).2 := by
  obtain ⟨_, _, _, same⟩ := s.replyAmid_talk c talks
  obtain ⟨⟨config, place, elsewhere, kept⟩, allows⟩ := holds
  rw [same]
  exact ⟨⟨config, place, elsewhere, kept⟩, allows⟩

end Phase.Holds

namespace Session

/-- What is stored has the rows that were there when the session was opened. -/
structure Unwritten (opened s : Session) : Prop where
  follows : s.Follows opened
  sameRows : opened.connection.database.committed.SameRows s.connection.database.committed

/-- Before its write has succeeded a command has written nothing. -/
theorem unwritten_of_holds {opened s : Session} {p : Phase} (holds : p.Holds opened s)
    (earlier : p ≠ .after) (running : p ≠ .over) : opened.Unwritten s := by
  obtain ⟨follows, allows⟩ := holds
  cases p with
  | before | inside => exact ⟨follows, allows.2⟩
  | broken => exact ⟨follows, allows⟩
  | after => exact absurd rfl earlier
  | _ => exact absurd rfl running

/-- How a script that keeps the discipline ends, while this comes from outside. Either it runs no
hook and leaves the rows as they were before: then a reply was spoiled or it was made to quit, or
else it ends as it does with nothing coming from outside. Or it does everything but what comes last,
as it does it without hooks and with nothing coming from outside. What it has stored is kept, and
what comes last is its report, which the output refuses, or its hook; unless it is made to quit. -/
inductive EndsAmid {α : Type} (opened : Session) (script : Script α) (c : Circumstances)
    (s : Session) : Prop where
  | unwritten (result : Except Failure α) (ended : Session)
      (ran : carryOutAmid script c s = (result, ended)) (unwritten : opened.Unwritten ended)
      (none : hookRunsAmid script c s = [])
      (asCalm : c ≠ .calm ∧ (∃ failure, result = .error failure ∧ failure.IsForeign) ∨
        (∀ failure, result = .error failure → failure.IsOwn) ∧
          carryOut script s = (result, ended) ∧ hookRuns script s = [])
  | unreported (failure : Failure) (ended : Session)
      (ran : carryOutAmid script c s = (.error failure, ended)) (cut : failure.CutsShort c)
      (holds : Phase.after.Holds opened ended) (none : hookRunsAmid script c s = [])
      (a : α) (output input : Utf8.Bytes) (held : Nat)
      (complete : carryOut script s.hookless = (.ok a, { ended with output, input, held }.hookless))
  | hooked (a : α) (hook : Hook) (found : Session) (holds : hook.phase.Holds opened found)
      (complete : carryOut script s.hookless = (.ok a, found.hookless))
      (n : Nat) (running : (c.after n).isOver = false) (ran : carryOutAmid script c s =
        carryOutAmid (do Script.runHook hook; return a) (c.after n) found)
      (one : hookRunsAmid script c s = [(hook, found)])

variable {α : Type} {opened s : Session} {c : Circumstances}

/-- As long as no reply is spoiled the script goes on as it does with nothing coming from
outside. -/
theorem EndsAmid.ask (running : c.isOver = false) {r : Request} {next : r.Reply → Script α}
    (noHook : ∀ hook, r ≠ .runHook hook) (same : s.replyAmid c r = s.reply r)
    (ends : EndsAmid opened (next (s.reply r).1) c.next (s.reply r).2) :
    EndsAmid opened (.ask r next) c s := by
  have goesOn := carryOutAmid_ask running next s
  have runs := hookRunsAmid_ask running next s noHook
  rw [same] at goesOn runs
  have alone : carryOut (.ask r next) s.hookless =
      carryOut (next (s.reply r).1) (s.reply r).2.hookless := by
    rw [carryOut_ask, reply_hookless s noHook]
  cases ends with
  | unwritten result ended ran unwritten none asCalm =>
    refine .unwritten result ended (goesOn.trans ran) unwritten (runs.trans none) ?_
    rcases asCalm with ⟨disturbed, foreign⟩ | ⟨own, calmly, noRuns⟩
    · exact .inl ⟨Circumstances.ne_calm_of_next disturbed, foreign⟩
    · exact .inr ⟨own, calmly, (hookRuns_ask next s noHook).trans noRuns⟩
  | unreported failure ended ran cut holds none a output input held complete =>
    exact .unreported failure ended (goesOn.trans ran) cut.earlier holds (runs.trans none) a
      output input held (alone.trans complete)
  | hooked a hook found holds complete n running ran one =>
    exact .hooked a hook found holds (alone.trans complete) (n + 1) running (goesOn.trans ran)
      (runs.trans one)

/-- A script that comes to nothing because of circumstances has written nothing. -/
theorem EndsAmid.foreign (running : c.isOver = false) {r : Request} {next : r.Reply → Script α}
    (noHook : ∀ hook, r ≠ .runHook hook) {failure : Failure} {ended : Session}
    (ran : carryOutAmid (next (s.replyAmid c r).1) c.next (s.replyAmid c r).2 =
      (.error failure, ended))
    (none : hookRunsAmid (next (s.replyAmid c r).1) c.next (s.replyAmid c r).2 = [])
    (unwritten : opened.Unwritten ended) (disturbed : c ≠ .calm) (foreign : failure.IsForeign) :
    EndsAmid opened (.ask r next) c s :=
  .unwritten _ ended ((carryOutAmid_ask running next s).trans ran) unwritten
    ((hookRunsAmid_ask running next s noHook).trans none) (.inl ⟨disturbed, failure, rfl, foreign⟩)

/-- What is told of a failure, unless the process is made to quit first. -/
theorem isForeign_of_isSpoiled {failure : Failure} (spoiled : failure.IsSpoiled)
    (c : Circumstances) : (if c.isOver then .quit else failure).IsForeign := by
  split
  · exact .inr rfl
  · exact .inl spoiled

/-- A script that stops for a spoiled reply. -/
theorem EndsAmid.stopped (running : c.isOver = false) (disturbed : c ≠ .calm) {r : Request}
    {next : r.Reply → Script α} (noHook : ∀ hook, r ≠ .runHook hook)
    (stops : (next (s.replyAmid c r).1).Stops)
    (unwritten : opened.Unwritten (s.replyAmid c r).2) : EndsAmid opened (.ask r next) c s := by
  obtain ⟨failure, spoiled, ends⟩ := stops
  refine .foreign running noHook (congrArg (carryOutAmid · _ _) ends) ?_ unwritten disturbed
    (isForeign_of_isSpoiled spoiled _)
  rw [ends]
  rfl

/-- A script that gives up its transaction for a spoiled reply. -/
theorem EndsAmid.givenUp (running : c.isOver = false) (disturbed : c ≠ .calm) {r : Request}
    {next : r.Reply → Script α} (noHook : ∀ hook, r ≠ .runHook hook)
    (givesUp : (next (s.replyAmid c r).1).GivesUp)
    (broken : Phase.broken.Holds opened (s.replyAmid c r).2) :
    EndsAmid opened (.ask r next) c s := by
  obtain ⟨failure, spoiled, ends⟩ := givesUp
  cases quitting : c.next.isOver with
  | true =>
    obtain ⟨ran, none⟩ := carryOutAmid_of_isOver quitting (next (s.replyAmid c r).1) _
    exact .foreign running noHook ran none (unwritten_of_holds broken nofun nofun) disturbed
      (.inr rfl)
  | false =>
    have abandoned : Phase.before.Holds opened ((s.replyAmid c r).2.replyAmid c.next .abandon).2 :=
      .withDatabase broken.follows (Phase.allows_abandon broken.allows)
    refine .foreign running noHook ?_ ?_ (unwritten_of_holds abandoned nofun nofun) disturbed
      (isForeign_of_isSpoiled spoiled c.next.next)
    · rw [ends]
      exact carryOutAmid_ask quitting (fun _ => .fail failure) _
    · rw [ends]
      exact hookRunsAmid_ask quitting (fun _ => .fail failure) _ nofun

/-- Once everything is written, a script that is left alone comes to its end. -/
theorem completes_of_orderly {script : Script α} {p q : Phase} (orderly : script.Orderly p q)
    (written : p = .after) (ending : q = .before ∨ q = .over) (s : Session) :
    ∃ (a : α) (output input : Utf8.Bytes) (held : Nat),
      carryOut script s.hookless = (.ok a, { s with output, input, held }.hookless) := by
  induction orderly generalizing s with
  | done a =>
    subst written
    rcases ending with same | same <;> cases same
  | report printed refused ih => exact ih rfl ending (s.print _)
  | @hook p hook next a due succeeds fails =>
    refine ⟨a, s.output, s.input, s.held, ?_⟩
    have reply : s.hookless.reply (.runHook hook) = (.ok (), s.hookless) :=
      runHook_hookless s hook
    rw [carryOut_ask, reply]
    exact congrArg (carryOut · s.hookless) succeeds
  | _ => cases written

/-- A process that is made to quit. -/
theorem EndsAmid.over {script : Script α} {p q : Phase} (orderly : script.Orderly p q)
    (starts : p ≠ .over) (ending : q = .before ∨ q = .over) (holds : p.Holds opened s)
    (quitting : c.isOver = true) : EndsAmid opened script c s := by
  obtain ⟨ran, none⟩ := carryOutAmid_of_isOver quitting script s
  by_cases written : p = .after
  · obtain ⟨a, output, input, held, complete⟩ := completes_of_orderly orderly written ending s
    rw [written] at holds
    exact .unreported .quit s ran (Circumstances.quits_of_isOver (n := 0) quitting) holds none a output
      input held complete
  · exact .unwritten _ s ran (unwritten_of_holds holds written starts) none
      (.inl ⟨Circumstances.ne_calm_of_isOver quitting, _, rfl, .inr rfl⟩)

/-- It is enough to look at a process that is not made to quit at once. -/
theorem EndsAmid.unlessOver {script : Script α} {p q : Phase} (orderly : script.Orderly p q)
    (starts : p ≠ .over) (ending : q = .before ∨ q = .over) (holds : p.Holds opened s)
    (running : c.isOver = false → EndsAmid opened script c s) : EndsAmid opened script c s := by
  cases quitting : c.isOver with
  | true => exact .over orderly starts ending holds quitting
  | false => exact running quitting

/-- A report that the output refuses. -/
theorem EndsAmid.unprinted (running : c.isOver = false) {text : String}
    {next : Except Files.Error Unit → Script α} {q : Phase}
    (orderly : Script.Orderly .after q (.ask (.print text) next))
    (ending : q = .before ∨ q = .over) (holds : Phase.after.Holds opened s) {taken : Nat}
    {e : Files.Error} (refuses : c.refusals 0 = some (taken, e)) {left : Session}
    (part : s.printAmid c text = (.error e, left))
    (refused : next (.error e) = .fail (.notPrinted e)) :
    EndsAmid opened (.ask (.print text) next) c s := by
  obtain ⟨a, output, input, held, complete⟩ := completes_of_orderly orderly rfl ending s
  have replied : s.replyAmid c (.print text) = (.error e, left) := part
  have goesOn := carryOutAmid_ask running (r := .print text) next s
  have runs := hookRunsAmid_ask running (r := .print text) next s nofun
  have stands := holds.talk (r := .print text) trivial c
  obtain ⟨_, _, _, same⟩ := s.replyAmid_talk c (r := .print text) trivial
  rw [replied] at goesOn runs stands same
  rw [refused] at goesOn runs
  subst same
  refine .unreported _ _ goesOn ?_ stands runs a output input held complete
  split
  · rename_i quitting
    exact Circumstances.quits_of_isOver (n := 1) quitting
  · exact ⟨0, taken, refuses⟩

/-- A hook that is due, with nothing left to do but to run it. -/
theorem EndsAmid.atHook (running : c.isOver = false) {hook : Hook}
    {next : Except Program.Error Unit → Script α} {a : α} (holds : hook.phase.Holds opened s)
    (succeeds : next (.ok ()) = .done a)
    (fails : ∀ e, next (.error e) = .fail (.hook hook e)) :
    EndsAmid opened (.ask (.runHook hook) next) c s := by
  have complete : carryOut (.ask (.runHook hook) next) s.hookless = (.ok a, s.hookless) := by
    have reply : s.hookless.reply (.runHook hook) = (.ok (), s.hookless) :=
      runHook_hookless s hook
    rw [carryOut_ask, reply]
    exact congrArg (carryOut · s.hookless) succeeds
  have same (result : Except Program.Error Unit) :
      next result = (do Script.orFail (.hook hook) result; return a : Script α) := by
    cases result with
    | ok _ => exact succeeds
    | error e => exact fails e
  refine .hooked a hook s holds complete 0 running ?_ ?_
  · have hooked := carryOutAmid_ask running (r := .runHook hook)
      (fun result => (do Script.orFail (.hook hook) result; return a : Script α)) s
    rw [carryOutAmid_ask running (r := .runHook hook), same]
    exact hooked.symm
  · have asked : hookRunsAmid (.ask (.runHook hook) next) c s = (hook, s) :: hookRunsAmid
        (next (s.runHookAmid c hook).1) c.next (s.runHookAmid c hook).2 := by
      simp only [hookRunsAmid, running, Bool.false_eq_true, if_false]
      rfl
    rw [asked]
    cases (s.runHookAmid c hook).1 with
    | ok _ =>
      rw [succeeds]
      rfl
    | error e =>
      rw [fails]
      rfl

/-- Step by step a session stands in the phase that the script is in. -/
theorem endsAmid_of_running {script : Script α} {p q : Phase} (orderly : script.Orderly p q)
    (starts : p ≠ .over) (ending : q = .before ∨ q = .over) (holds : p.Holds opened s)
    (running : c.isOver = false) : EndsAmid opened script c s := by
  induction orderly generalizing s c with
  | done a =>
    obtain rfl := ending.resolve_right starts
    refine .unwritten (.ok a) s ?_ (unwritten_of_holds holds nofun nofun) rfl
      (.inr ⟨nofun, rfl, rfl⟩)
    simp [carryOutAmid, running]
  | stop a =>
    refine .unwritten (.ok a) s ?_ (unwritten_of_holds holds nofun nofun) rfl
      (.inr ⟨nofun, rfl, rfl⟩)
    simp [carryOutAmid, running]
  | @fail q failure own =>
    refine .unwritten (.error failure) s ?_ (unwritten_of_holds holds nofun nofun) rfl
      (.inr ⟨fun other same => ?_, rfl, rfl⟩)
    · simp [carryOutAmid, running]
    · cases same
      exact own
  | @talk _ request next talks later spoiled ih =>
    have noHook : ∀ hook, request ≠ .runHook hook := by
      rintro hook rfl
      exact talks
    have talked := holds.talk talks c
    rcases s.replyAmid_cases c noHook with ⟨disturbed, spoils⟩ | same
    · exact .stopped running disturbed noHook (spoiled _ spoils) (unwritten_of_holds talked nofun nofun)
    · rw [same] at talked
      exact .ask running noHook same
        (.unlessOver (later _) starts ending talked (ih _ starts ending talked))
  | @look _ op next reads later spoiled ih =>
    have looked : Phase.before.Holds opened (s.replyAmid c (.store op)).2 :=
      .store holds.follows (Phase.allows_look holds.allows reads _ _)
    rcases s.replyAmid_cases c (r := .store op) nofun with ⟨disturbed, spoils⟩ | same
    · refine .stopped running disturbed nofun ?_ (unwritten_of_holds looked nofun nofun)
      rw [show (s.replyAmid c (.store op)).1 = _ from spoils]
      exact spoiled
    · rw [same] at looked
      exact .ask running nofun same
        (.unlessOver (later _) nofun ending looked (ih _ nofun ending looked))
  | @write _ op next written refused spoiled ihWritten ihRefused =>
    rcases s.replyAmid_cases c (r := .store op) nofun with ⟨disturbed, spoils⟩ | same
    · have stands : Phase.before.Holds opened (s.replyAmid c (.store op)).2 :=
        .store holds.follows (Phase.allows_refused holds.allows spoils)
      refine .stopped running disturbed nofun ?_ (unwritten_of_holds stands nofun nofun)
      rw [show (s.replyAmid c (.store op)).1 = _ from spoils]
      exact spoiled
    · refine .ask running nofun same ?_
      cases answered : (s.reply (.store op)).1 with
      | ok a =>
        have wrote : Phase.after.Holds opened (s.reply (.store op)).2 :=
          .store (c := .calm) holds.follows (Phase.allows_written holds.allows op _ _)
        exact .unlessOver (written a) nofun ending wrote (ihWritten a nofun ending wrote)
      | error e =>
        have stands : Phase.before.Holds opened (s.reply (.store op)).2 :=
          .store (c := .calm) holds.follows (Phase.allows_refused holds.allows answered)
        exact .unlessOver (refused e) nofun ending stands (ihRefused e nofun ending stands)
  | begin begun refused ihBegun ihRefused =>
    obtain ⟨begins, allows⟩ := Phase.allows_begin holds.allows
    have answered : (s.reply .begin).1 = .ok () :=
      congrArg (Except.mapError StoreError.engine) begins
    have inside : Phase.inside.Holds opened (s.reply .begin).2 :=
      .withDatabase holds.follows allows
    refine .ask running nofun rfl ?_
    rw [answered]
    exact .unlessOver begun nofun ending inside (ihBegun nofun ending inside)
  | @step _ op next taken refused spoiled ihTaken ihRefused =>
    have broken : Phase.broken.Holds opened (s.replyAmid c (.store op)).2 :=
      .store holds.follows (Phase.allows_step holds.allows op _ _)
    rcases s.replyAmid_cases c (r := .store op) nofun with ⟨disturbed, spoils⟩ | same
    · refine .givenUp running disturbed nofun ?_ broken
      rw [show (s.replyAmid c (.store op)).1 = _ from spoils]
      exact spoiled
    · rw [same] at broken
      refine .ask running nofun same ?_
      cases answered : (s.reply (.store op)).1 with
      | ok a =>
        have inside : Phase.inside.Holds opened (s.reply (.store op)).2 :=
          .store (c := .calm) holds.follows (Phase.allows_taken holds.allows answered)
        exact .unlessOver (taken a) nofun ending inside (ihTaken a nofun ending inside)
      | error e =>
        exact .unlessOver (refused e) nofun ending broken (ihRefused e nofun ending broken)
  | commit committed refused ihCommitted ihRefused =>
    obtain ⟨commits, allows⟩ := Phase.allows_commit holds.allows
    have answered : (s.reply .commit).1 = .ok () :=
      congrArg (Except.mapError StoreError.engine) commits
    have wrote : Phase.after.Holds opened (s.reply .commit).2 :=
      .withDatabase holds.follows allows
    refine .ask running nofun rfl ?_
    rw [answered]
    exact .unlessOver committed nofun ending wrote (ihCommitted nofun ending wrote)
  | abandon abandoned ih =>
    have stands : Phase.before.Holds opened (s.reply .abandon).2 :=
      .withDatabase holds.follows (Phase.allows_abandon holds.allows)
    exact .ask running nofun rfl
      (.unlessOver abandoned nofun ending stands (ih nofun ending stands))
  | @report _ text next printed refused ih =>
    have reported := holds.talk (r := .print text) trivial .calm
    rcases s.printAmid_cases c text with whole | ⟨taken, e, refuses, part⟩
    · exact .ask running nofun whole
        (.unlessOver printed nofun ending reported (ih nofun ending reported))
    · exact .unprinted running (.report printed refused) ending holds refuses part (refused e)
  | hook due succeeds fails =>
    obtain rfl := due
    exact .atHook running holds succeeds fails

theorem endsAmid_of_command (command : Command) (holds : Phase.before.Holds opened s)
    (c : Circumstances) : EndsAmid opened command.script c s := by
  obtain ⟨p, ending, orderly⟩ := command.orderly
  exact .unlessOver orderly nofun ending holds (endsAmid_of_running orderly nofun ending holds)

end Session
end SecretVault
