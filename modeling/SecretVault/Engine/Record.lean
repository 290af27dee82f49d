import SecretVault.Engine.Tables
import SecretVault.Text.Radix

/-!
Tables as text, to be kept in a file: a record a line, with the contents of columns in hexadecimal.
The engine's own format of files is not modelled.
-/
namespace SecretVault.Engine
open SecretVault.Text

namespace Cell

def hex (bytes : Utf8.Bytes) : List Char := bytes.flatMap fun b => Radix.hexDigits 2 b.toNat

/-- A letter for the kind of contents, and their bytes. -/
def toRecord : Cell → String
  | .text s => String.ofList ('t' :: hex (Utf8.encode s))
  | .malformed bytes => String.ofList ('m' :: hex bytes)
  | .blob bytes => String.ofList ('b' :: hex bytes)

def bytes? : List Char → Option Utf8.Bytes
  | [] => some []
  | high :: low :: rest => do
    let byte ← Radix.read? 16 [high, low]
    return byte.toUInt8 :: (← bytes? rest)
  | [_] => none

def ofRecord? (text : String) : Option Cell :=
  match text.toList with
  | 't' :: digits => (bytes? digits).bind fun bytes => (Utf8.decode bytes).toOption.map .text
  | 'm' :: digits => (bytes? digits).map .malformed
  | 'b' :: digits => (bytes? digits).map .blob
  | _ => none

end Cell

namespace Tables

def recordHeader : String := "secret vault 1"

def toRecords (t : Tables) : List String :=
  let number (n : Int) := String.ofList (Decimal.ofInt n)
  recordHeader ::
    " ".intercalate ["counts", number t.secretCount, number t.labelCount] ::
    t.masterKey.toList.map (fun key => "key " ++ key.toRecord) ++
    t.secrets.entries.map (fun (id, s) =>
      " ".intercalate ["secret", number id, s.name.toRecord, s.payload.toRecord]) ++
    t.labels.entries.map (fun (id, l) =>
      " ".intercalate ["label", number id, number l.secretId, l.name.toRecord])

def readInt? (text : String) : Option Int :=
  (Decimal.read leastId greatestId text.toList).toOption

/-- The tables with what one more record says. -/
def addRecord? (t : Tables) (line : String) : Option Tables := do
  match line.splitOn " " with
  | ["counts", s, l] => return { t with secretCount := ← readInt? s, labelCount := ← readInt? l }
  | ["key", key] => return { t with masterKey := some (← Cell.ofRecord? key) }
  | ["secret", id, name, payload] =>
    let secret : StoredSecret := ⟨← Cell.ofRecord? name, ← Cell.ofRecord? payload⟩
    return { t with secrets := t.secrets.insert (← readInt? id) secret }
  | ["label", id, secretId, name] =>
    let label : StoredLabel := ⟨← Cell.ofRecord? name, ← readInt? secretId⟩
    return { t with labels := t.labels.insert (← readInt? id) label }
  | _ => none

/-- Reads tables from records; none if the text is anything else. -/
def ofRecords? : List String → Option Tables
  | header :: lines => if header = recordHeader then lines.foldlM addRecord? Tables.empty else none
  | [] => none

end Tables
end SecretVault.Engine
