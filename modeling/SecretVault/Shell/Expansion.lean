import SecretVault.Shell.Source

/-!
What words stand for: parameters and the output of commands take their places, and what is not
quoted is divided into fields.
-/
namespace SecretVault.Shell
open SecretVault.Text

/-- What a source text writes, without the line ends at its end. -/
def outputOf (eval : Evaluator) (source : String) : Run String := do
  let (result, written) ← captured (runSource eval source)
  match result with
  | .ok status | .error (.code status) => setStatus status
  | .error (.signal n) => throw (.ended (.signal n))
  let text := (Utf8.decode (written.filter (· != 0))).toOption.getD ""
  return String.ofList (text.toList.reverse.dropWhile (· == '\n')).reverse

def parameterText (name : String) : Run String := do
  let m ← get
  match name with
  | "?" => return toString m.status
  | "$" => return ownNumber
  | "PPID" => return parentNumber
  | "#" => return toString m.arguments.length
  | "@" | "*" => return " ".intercalate m.arguments
  | name =>
    match name.toNat? with
    | some 0 => return m.name
    | some n => return (m.arguments[n - 1]?).getD ""
    | none => return (m.lookup? name).getD ""

/-- The fields that have been made of a word so far, latest first, and the one that is open. -/
structure Fields where
  closed : List (List Char) := []
  current : Option (List Char) := none

namespace Fields

def add (f : Fields) (text : List Char) : Fields :=
  { f with current := some (f.current.getD [] ++ text) }

def close (f : Fields) : Fields :=
  match f.current with
  | some text => ⟨text :: f.closed, none⟩
  | none => f

/-- Adds text that is divided at white space. -/
def addDivided (f : Fields) (text : List Char) : Fields :=
  text.foldl (fun f c => if " \t\n".toList.contains c then f.close else f.add [c]) f

/-- Adds texts as fields of their own; only the first and the last one are joined to others. -/
def addSeparate (f : Fields) : List (List Char) → Fields
  | [] => f
  | text :: texts => texts.foldl (fun f text => f.close.add text) (f.add text)

def toList (f : Fields) : List String := (f.close.closed.map String.ofList).reverse

end Fields

/-- The text that a fragment stands for, and whether it is divided into fields. -/
def fragmentText (eval : Evaluator) : Fragment → Run (List Char × Bool)
  | .text text _ => return (text, false)
  | .parameter name quoted => return ((← parameterText name).toList, !quoted)
  | .command source quoted => return ((← outputOf eval (String.ofList source)).toList, !quoted)

/-- The fields that a word stands for: none if nothing is left of it. -/
def fieldsOf (eval : Evaluator) (word : Word) : Run (List String) := do
  let fields ← word.foldlM (fun (fields : Fields) fragment => do
    if fragment = .parameter "@" true then
      return fields.addSeparate ((← get).arguments.map String.toList)
    let (text, divided) ← fragmentText eval fragment
    return if divided then fields.addDivided text else fields.add text) {}
  return fields.toList

/-- The text that a word stands for, undivided. -/
def textOf (eval : Evaluator) (word : Word) : Run String := do
  let texts ← word.mapM fun fragment => do return (← fragmentText eval fragment).1
  return String.ofList texts.flatten

/-- A word of the form `name=value`. -/
def assignment? (word : Word) : Option (String × Word) :=
  let letter? : Fragment → Option Char
    | .text [c] false => some c
    | _ => none
  let name := (word.map letter?).takeWhile fun c => c.any isNameChar
  match name.head?, (word.drop name.length).head? with
  | some (some first), some (.text ['='] false) =>
    if isNameStart first then
      some (String.ofList (name.filterMap id), word.drop (name.length + 1))
    else none
  | _, _ => none

end SecretVault.Shell
