import SecretVault.Glob.Pattern

/-!
Matching items against codes. A run is tried at every place in turn, and a failure after a run
says so: where a later run has failed, no other place for an earlier one can help.

Source pin: `patternCompare` of SQLite 3.46.
-/
namespace SecretVault.Glob

/-- `hopeless` is a mismatch that stays one wherever an earlier run ends. -/
inductive Outcome where
  | matched | mismatch | hopeless
  deriving DecidableEq, Repr

/-- Whether an item that takes one character takes this one. -/
def Item.takes : Item → Code → Bool
  | .one, _ => true
  | .set b, x => b.contains x
  | .code c, x => c == x
  | .run, _ | .unclosed, _ => false

/-- The first decisive outcome of `attempt` at the nonempty ends of the value that start with a
character which `here` admits. -/
def firstDecisive (here : Code → Bool) (attempt : Code → List Code → Outcome) :
    List Code → Outcome
  | [] => .hopeless
  | x :: rest =>
    if here x then
      match attempt x rest with
      | .mismatch => firstDecisive here attempt rest
      | decisive => decisive
    else firstDecisive here attempt rest

mutual
/-- Matches the items against the whole of the value. -/
def compare : List Item → List Code → Outcome
  | [], [] => .matched
  | [], _ :: _ => .mismatch
  | .run :: rest, value => compareRun rest value
  | _ :: _, [] => .mismatch
  | item :: rest, x :: value => if item.takes x then compare rest value else .mismatch

/-- Matches the items against some end of the value. Further runs add nothing, and a `?` among
them takes its character at once. -/
def compareRun : List Item → List Code → Outcome
  | [], _ => .matched
  | .run :: rest, value => compareRun rest value
  | .one :: _, [] => .hopeless
  | .one :: rest, _ :: value => compareRun rest value
  | item :: rest, value => firstDecisive item.takes (fun _ after => compare rest after) value
end

/-- Whether a pattern matches the codes of a value. -/
def matchesCodes (pattern : String) (value : List Code) : Bool :=
  compare (items (codes pattern)) value == .matched

end SecretVault.Glob
