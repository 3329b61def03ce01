import Roster.KeyOrder
import Roster.Log.Event
import Roster.Text.Alphanumeric
import Roster.Text.Blank
import Roster.Text.Bytes
import Roster.Text.Percent

/-!
# Log filters

A filter is a list of directives, each with a level and, if it is not for everything, the start of
the names of the components that it is for. Of the directives that are for an entry the one with
the longest such name decides whether the entry is shown.
-/

namespace Roster.Log

/-- How talkative a component may be: nothing at zero, everything at five. -/
abbrev Level := Nat

/-- The level without limits. -/
def Level.trace : Level := 5

/-- The level of errors only. -/
def Level.error : Level := 1

/-- The names of the levels, and their numbers. -/
def levelNames : List (String × Level) :=
  [("off", 0), ("error", 1), ("warn", 2), ("info", 3), ("debug", 4), ("trace", 5), ("", 1)]

/-- The number in a text of digits, which a plus sign may precede. -/
def digitsNumber? (s : List Char) : Option Nat :=
  let digits := match s with
    | '+' :: rest => rest
    | s => s
  if digits.isEmpty || !digits.all Char.isDigit then none
  else some (digits.foldl (fun n c => n * 10 + (c.toNat - 48)) 0)

/-- The level of a number or a name in letters of either case. -/
def level? (s : List Char) : Option Level :=
  match digitsNumber? s with
  | some n => if n ≤ Level.trace then some n else none
  | none => levelNames.lookup (String.ofList (s.map Char.toLower))

/-- A rule of a filter. -/
structure Directive where
  level : Level
  /-- The start of the names of the components; none for all. -/
  target : Option String
  /-- The rule is for parts of the program's run rather than for entries. -/
  dynamic : Bool
  /-- The rule holds without regard to such parts too. -/
  static : Bool
  /-- Values that an entry must have. -/
  fields : List String
  deriving DecidableEq, Repr

/-- What a directive is being read in. The numbers say where a part began. -/
inductive DirectiveState where
  | start
  | levelOrTarget (start : Nat)
  | span (start : Nat)
  | field (start : Nat)
  | fields
  | target
  | level (start : Nat)

/-- The values that a directive has so far. -/
structure DirectiveParts where
  level : Level
  target : Option String
  span : Option String
  /-- Names of values, and whether a value is given too. -/
  fields : List (String × Bool)

namespace Directive

/-- The characters of a text from one place to another. -/
def slice (text : List Char) (a b : Nat) : List Char := (text.take b).drop a

/-- A field of a directive: a name, and whether a value follows. -/
def field (s : List Char) : String × Bool :=
  let (name, value) := Text.cutAt '=' s
  (String.ofList name, value.isSome)

/-- Goes through the characters of a directive; `n` is the place of the next one, and parts are
taken out of the whole `text`. -/
def scan (text : List Char) : DirectiveState → DirectiveParts → (n : Nat) → List Char →
    Option (DirectiveState × DirectiveParts)
  | state, parts, _, [] => some (state, parts)
  | state, parts, n, c :: rest =>
    let part (a : Nat) : List Char := slice text a n
    let go (state : DirectiveState) (parts : DirectiveParts) := scan text state parts (n + 1) rest
    let addField (a : Nat) (state : DirectiveState) :=
      if (part a).isEmpty then none
      else go state { parts with fields := parts.fields ++ [field (part a)] }
    match state with
    | .start =>
      if c = '[' then go (.span (n + 1)) parts
      else if c = '-' ∨ c = ':' ∨ c = '_' ∨ Text.isAlphanumeric c then go (.levelOrTarget n) parts
      else none
    | .levelOrTarget a =>
      if c = '=' then go (.level (n + 1)) { parts with target := some (String.ofList (part a)) }
      else if c = '[' then go (.span (n + 1)) { parts with target := some (String.ofList (part a)) }
      else go state parts
    | .target => if c = '=' then go (.level (n + 1)) parts else none
    | .span a =>
      if c = ']' then go .target { parts with span := some (String.ofList (part a)) }
      else if c = '\x7b' then
        let span := if (part a).isEmpty then none else some (String.ofList (part a))
        go (.field (n + 1)) { parts with span := span }
      else go state parts
    | .field a =>
      if c = '\x7d' then addField a .fields
      else if c = ',' then addField a (.field (n + 1))
      else go state parts
    | .fields => if c = ']' then go .target parts else none
    | .level _ => go state parts

/-- The directive that parts amount to. -/
def ofParts (p : DirectiveParts) : Directive where
  level := p.level
  target := p.target
  dynamic := p.span.isSome || !p.fields.isEmpty
  static := p.span.isNone && p.fields.all (!·.2)
  fields := p.fields.map (·.1)

/-- Reads a directive; none if it is malformed. Blanks around it are not looked at, but the places
of its parts are counted from its first character and looked up in the text with the blanks. -/
def parse? (s : String) : Option Directive := do
  let text := s.toList
  let (state, parts) ← scan text .start ⟨Level.trace, none, none, []⟩ 0 (Text.trim s).toList
  match state with
  | .levelOrTarget a =>
    let word := text.drop a
    if word.isEmpty then return ofParts { parts with target := none }
    else
      match level? word with
      | some level => return ofParts { parts with level := level, target := none }
      | none => return ofParts { parts with target := some (String.ofList word) }
  | .level a =>
    let word := text.drop a
    if word.isEmpty then return ofParts parts
    else return ofParts { parts with level := ← level? word }
  | .target => return ofParts parts
  | _ => none

/-- The directive is for an entry. -/
def covers (d : Directive) (e : Entry) : Bool :=
  (d.target.all fun t => (utf8 t).isPrefixOf (utf8 e.target)) &&
    d.fields.all fun f => f = "message" || e.values.any (·.1 = f)

/-- The first directive is looked at before the second: it is more specific, or as specific and
later in the order of texts. -/
def outranks (a b : Directive) : Bool :=
  let size (d : Directive) : Nat := d.target.elim 0 (byteLength · + 1)
  let scope (d : Directive) : String × List String := (d.target.getD "", d.fields)
  if size a ≠ size b then size a > size b
  else if a.fields.length ≠ b.fields.length then a.fields.length > b.fields.length
  else KeyOrder.lt (scope b) (scope a)

/-- Both directives are for the same entries. -/
def sameScope (a b : Directive) : Bool := a.target = b.target && a.fields = b.fields

end Directive

/-- A filter: directives, the most specific first. -/
abbrev Filter := List Directive

namespace Filter

/-- The filter with another directive, which replaces one for the same entries. -/
def add (f : Filter) (d : Directive) : Filter :=
  if f.any d.sameScope then f.map fun d' => if d.sameScope d' then d else d'
  else f.takeWhile (fun d' => !d.outranks d') ++ d :: f.dropWhile fun d' => !d.outranks d'

/-- The filter of directives. Without any, errors are shown. -/
def ofDirectives (ds : List Directive) : Filter :=
  if ds.isEmpty then [⟨Level.error, none, false, true, []⟩]
  else (ds.filter (!·.dynamic) ++ ds.filter fun d => d.dynamic && d.static).foldl add []

/-- The directives in a text, which commas separate. -/
def directiveTexts (s : String) : List String :=
  ((Text.splitAt ',' s.toList).filter (!·.isEmpty)).map String.ofList

/-- Reads a filter; none if a directive is malformed. -/
def parse? (s : String) : Option Filter := do
  return ofDirectives (← (directiveTexts s).mapM Directive.parse?)

/-- Reads a filter without its malformed directives. -/
def parseLossy (s : String) : Filter := ofDirectives ((directiveTexts s).filterMap Directive.parse?)

/-- The filter shows an entry. -/
def shows (f : Filter) (e : Entry) : Bool :=
  match f.find? (·.covers e) with
  | none => false
  | some d => e.severity.rank ≤ d.level

/-- The filter of a program that nobody has told anything. -/
def defaultText : String := "info,sqlx=warn,sea_orm=warn"

/-- The filter that the environment names, or another text where it names none that can be read. -/
def select (fromEnvironment fallback : Option String) : Filter :=
  match fromEnvironment.bind parse? with
  | some f => f
  | none => parseLossy (fallback.getD defaultText)

end Filter

end Roster.Log
