import Roster.Log.Event
import Roster.Record.Writer
import Roster.Text.Quoted

/-!
# Log lines

An entry as one line: either plain text, with severity, message, and the values by name, or a JSON
object, whose member `fields` holds the message and the values.
-/

namespace Roster.Log

/-! ## Plain lines -/

/-- A value in a plain line. -/
def Value.plain : Value → String
  | text s => Text.quoted s
  | shown s => s
  | count n => Nat.repr n

/-- An entry as a plain line. -/
def Entry.plain (e : Entry) : String :=
  String.intercalate " " (e.severity.label :: e.message :: e.values.map fun (k, v) => k ++ "=" ++ v.plain)

/-! ## JSON lines -/

/-- A value in a JSON line. -/
def Value.json : Value → Bytes
  | text s | shown s => Record.writeText s
  | count n => utf8 (Nat.repr n)

/-- Members between braces. -/
def jsonObject (members : List (String × Bytes)) : Bytes :=
  Record.Sign.objectOpen ::
    Record.joinParts (members.map fun (k, v) => Record.writeMember k v) ++ [Record.Sign.objectClose]

/-- An entry as a JSON line. -/
def Entry.json (e : Entry) : Bytes :=
  jsonObject [
    ("level", Record.writeText e.severity.label),
    ("fields", jsonObject (("message", Record.writeText e.message) ::
      e.values.map fun (k, v) => (k, v.json))),
    ("target", Record.writeText e.target)]

end Roster.Log
