import Roster.Settings.Environment
import Roster.Text.Alphanumeric
import Roster.Text.Bytes

/-!
# Environment files

A file may supply variables that the environment lacks, one assignment a line. A value may be in
quotes, which may run over several lines, and may name other variables after a dollar sign. The
first line that is no assignment ends the reading; what came before it counts.
-/

namespace Roster.Settings.EnvFile

/-! ## Lines -/

/-- What a line that has been read so far ends in. -/
inductive LineState where
  | complete
  | escape
  | strong
  | strongEscape
  | weak
  | weakEscape
  | blank
  deriving DecidableEq, Repr

/-- What follows a character outside of quotes. -/
def LineState.afterPlain (c : Char) : LineState :=
  if c = '\\' then escape
  else if c = '"' then weak
  else if c = '\'' then strong
  else complete

/-- What follows a character. -/
def LineState.next (state : LineState) (c : Char) : LineState :=
  match state with
  | complete =>
    if Text.isBlankChar c ∧ c ≠ '\n' ∧ c ≠ '\r' then blank else afterPlain c
  | blank => afterPlain c
  | escape => complete
  | weak => if c = '\\' then weakEscape else if c = '"' then complete else weak
  | weakEscape => weak
  | strong => if c = '\\' then strongEscape else if c = '\'' then complete else strong
  | strongEscape => strong

/-- Goes through a line up to a comment, which begins after a blank. Answers what stands before
the comment, if there is one, and otherwise what the line ends in. -/
def scanLine : (state : LineState) → (before : List Char) → List Char → List Char ⊕ LineState
  | state, _, [] => .inr state
  | state, before, c :: rest =>
    if state = .blank ∧ c = '#' then .inl before.reverse
    else scanLine (state.next c) (c :: before) rest

/-- A line without its end. -/
def chomp (line : List Char) : List Char :=
  match line.reverse with
  | '\n' :: '\r' :: rest => rest.reverse
  | '\n' :: rest => rest.reverse
  | _ => line

/-- The bytes of a file by line, each with its end. -/
def rawLines : (current : Bytes) → Bytes → List Bytes
  | current, [] => if current.isEmpty then [] else [current.reverse]
  | current, b :: rest =>
    if b = 0x0A then (b :: current).reverse :: rawLines [] rest else rawLines (b :: current) rest

/-- The lines of a file, where quotes and escapes join what line ends have parted. Nothing stands
for a line that cannot be read, and is the last. -/
def logicalLines : (state : LineState) → (buffer : List Char) → List Bytes → List (Option (List Char))
  | state, _, [] => if state = .complete then [] else [none]
  | state, buffer, raw :: rest =>
    match ofUtf8? raw with
    | none => [none]
    | some s =>
      let whole := buffer ++ s.toList
      if (whole.dropWhile Text.isBlankChar).head? == some '#' then
        some [] :: logicalLines .complete [] rest
      else
        match scanLine state [] s.toList with
        | .inl before => some (buffer ++ before) :: logicalLines .complete [] rest
        | .inr .complete => some (chomp whole) :: logicalLines .complete [] rest
        | .inr state => logicalLines state whole rest

/-! ## Assignments -/

/-- The values of the variables that have been assigned so far, the last first. -/
abbrev Assigned := List (String × String)

/-- The value that a name stands for. -/
def valueOf (env : Environment) (assigned : Assigned) (name : List Char) : String :=
  let name := String.ofList name
  ((env.get? name).orElse fun _ => assigned.lookup name).getD ""

/-- A name that is being read after a dollar sign. -/
inductive Naming where
  | none
  /-- After the dollar sign: letters and digits, last first. -/
  | bare (name : List Char)
  /-- In braces: anything, last first. -/
  | braced (name : List Char)
  deriving DecidableEq, Repr

/-- Where in a value the reading is. -/
structure ValueState where
  strong : Bool
  weak : Bool
  escaped : Bool
  /-- A blank has ended the value, and only a comment may follow. -/
  ended : Bool
  naming : Naming
  /-- What the value holds so far, last first. -/
  out : List Char

/-- The start of a value. -/
def ValueState.start : ValueState := ⟨false, false, false, false, .none, []⟩

/-- The value with a text behind it. -/
def ValueState.append (v : ValueState) (s : String) : ValueState :=
  { v with out := s.toList.reverse ++ v.out }

/-- The value with a character behind it. -/
def ValueState.push (v : ValueState) (c : Char) : ValueState := { v with out := c :: v.out }

/-- One character outside of names. -/
def plainChar (v : ValueState) (c : Char) : ValueState :=
  if c = '$' then { v with naming := .bare [] }
  else if v.weak then
    if c = '"' then { v with weak := false }
    else if c = '\\' then { v with escaped := true }
    else v.push c
  else if c = '\'' then { v with strong := true }
  else if c = '"' then { v with weak := true }
  else if c = '\\' then { v with escaped := true }
  else if c = ' ' ∨ c = '\t' then { v with ended := true }
  else v.push c

/-- One character after a dollar sign. -/
def nameChar (value : List Char → String) (v : ValueState) (c : Char) : ValueState :=
  match v.naming with
  | .none => v
  | .bare name =>
    if Text.isAlphanumeric c then { v with naming := .bare (c :: name) }
    else if c = '\x7b' ∧ name.isEmpty then { v with naming := .braced [] }
    else
      let v := v.append (value name.reverse)
      if c = '$' then { v with naming := .bare [] } else { v with naming := .none }.push c
  | .braced name =>
    if c = '\x7d' then { v with naming := .none }.append (value name.reverse)
    else { v with naming := .braced (c :: name) }

/-- Reads a value; nothing if it is malformed. -/
def readValue (value : List Char → String) : ValueState → List Char → Option String
  | v, [] =>
    match v.naming with
    | .braced _ => none
    | .bare name => finish (v.append (value name.reverse))
    | .none => finish v
  | v, c :: rest =>
    if v.ended then
      if c = ' ' ∨ c = '\t' then readValue value v rest
      else if c = '#' then readValue value v []
      else none
    else if v.escaped then
      if c = '\\' ∨ c = '\'' ∨ c = '"' ∨ c = '$' ∨ c = ' ' then
        readValue value ({ v with escaped := false }.push c) rest
      else if c = 'n' then readValue value ({ v with escaped := false }.push '\n') rest
      else none
    else if v.strong then
      readValue value (if c = '\'' then { v with strong := false } else v.push c) rest
    else if v.naming = .none then readValue value (plainChar v c) rest
    else readValue value (nameChar value v c) rest
where
  /-- The value, if no quote is open. -/
  finish (v : ValueState) : Option String :=
    if v.strong || v.weak then none else some (String.ofList v.out.reverse)

/-- What a name of a variable starts with. -/
def isNameStart (c : Char) : Bool := c.isAlpha || c == '_'

/-- What a name of a variable is made of. -/
def isNameChar (c : Char) : Bool := c.isAlphanum || c == '_' || c == '.'

/-- Reads the name of a variable and the blanks behind it. -/
def readName (s : List Char) : Option (String × List Char) :=
  if s.head?.any isNameStart then
    some (String.ofList (s.takeWhile isNameChar),
      (s.dropWhile isNameChar).dropWhile Text.isBlankChar)
  else none

/-- Reads the name of the variable of an assignment, and the equals sign. -/
def readTarget (s : List Char) : Option (String × List Char) := do
  let (name, rest) ← readName s
  match rest with
  | '=' :: rest => return (name, rest)
  | rest =>
    if name = "export" then
      match ← readName rest with
      | (name, '=' :: rest) => return (name, rest)
      | _ => none
    else none

/-- What a line says: nothing, or a value for a variable; no answer if it is malformed. -/
def readLine (env : Environment) (assigned : Assigned) (line : List Char) :
    Option (Option (String × String)) :=
  let line := (line.reverse.dropWhile Text.isBlankChar).reverse.dropWhile Text.isBlankChar
  if line.isEmpty ∨ line.head? = some '#' then some none
  else do
    let (name, rest) ← readTarget line
    let rest := rest.dropWhile Text.isBlankChar
    if rest.isEmpty ∨ rest.head? = some '#' then return some (name, "")
    else return some (name, ← readValue (valueOf env assigned) .start rest)

/-- The environment after the lines of a file, up to the first that cannot be read. -/
def readLines : Environment → Assigned → List (Option (List Char)) → Environment
  | env, _, [] => env
  | env, _, none :: _ => env
  | env, assigned, some line :: rest =>
    match readLine env assigned line with
    | none => env
    | some none => readLines env assigned rest
    | some (some (name, value)) => readLines (env.supply name value) ((name, value) :: assigned) rest

/-- The environment with the variables that a file supplies. -/
def load (env : Environment) (file : Bytes) : Environment :=
  let file := if [0xEF, 0xBB, 0xBF].isPrefixOf file then file.drop 3 else file
  readLines env [] (logicalLines .complete [] (rawLines [] file))

end Roster.Settings.EnvFile
