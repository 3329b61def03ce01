import Roster.Decimal.Binary64
import Roster.Text.Bytes

/-!
# Words of a TOML document

Each reader takes the characters that are still to be read, and answers what it read and the
characters that are left; it answers nothing when they are not what it reads.
-/

namespace Roster.Toml

/-! ## Space and lines -/

/-- Space and tab. -/
def isSpace (c : Char) : Bool := c == ' ' || c == '\t'

/-- What may stand in a comment. -/
def isCommentChar (c : Char) : Bool :=
  c == '\t' || (0x20 ≤ c.toNat && c.toNat ≤ 0x7E) || 0x80 ≤ c.toNat

/-- The characters after any space. -/
def skipSpace (s : List Char) : List Char := s.dropWhile isSpace

/-- Passes over the end of a line. -/
def newline? : List Char → Option (List Char)
  | '\n' :: rest => some rest
  | '\r' :: '\n' :: rest => some rest
  | _ => none

/-- The characters after a comment, if there is one. -/
def skipComment : List Char → List Char
  | '#' :: rest => rest.dropWhile isCommentChar
  | s => s

/-- Passes over what may follow a statement on its line. -/
def lineEnd? (s : List Char) : Option (List Char) :=
  match skipComment (skipSpace s) with
  | [] => some []
  | s => newline? s

/-- Passes over space, comments and ends of lines. The first argument bounds the number of lines. -/
def skipLines? : (fuel : Nat) → List Char → Option (List Char)
  | 0, s => some s
  | fuel + 1, s =>
    match skipSpace s with
    | '#' :: rest => do skipLines? fuel (← newline? (rest.dropWhile isCommentChar))
    | '\n' :: rest => skipLines? fuel rest
    | '\r' :: rest => do skipLines? fuel (← newline? ('\r' :: rest))
    | s => some s

/-! ## Strings -/

/-- What may stand in a quoted string as it is. -/
def isPlain (c : Char) : Bool := isCommentChar c && c != '"' && c != '\\'

/-- What may stand in an apostrophized string. -/
def isLiteral (c : Char) : Bool := isCommentChar c && c != '\''

/-- The value of hexadecimal digits, if all are digits. -/
def hexNumber? (digits : List Char) : Option Nat :=
  digits.foldlM (fun n c => (hexValue? c.toUInt8).bind fun d =>
    if c.toNat < 0x80 then some (n * 16 + d) else none) 0

/-- The character with a number, if there is one. -/
def charOf? (n : Nat) : Option Char := if n.isValidChar then some (Char.ofNat n) else none

/-- Reads an escape by number with so many digits. -/
def numberEscape? (width : Nat) (s : List Char) : Option (Char × List Char) := do
  let digits := s.take width
  if digits.length < width then none
  else return (← charOf? (← hexNumber? digits), s.drop width)

/-- Reads an escape, after its backslash. -/
def escape? : List Char → Option (Char × List Char)
  | 'b' :: rest => some ('\x08', rest)
  | 't' :: rest => some ('\t', rest)
  | 'n' :: rest => some ('\n', rest)
  | 'f' :: rest => some ('\x0c', rest)
  | 'r' :: rest => some ('\r', rest)
  | '"' :: rest => some ('"', rest)
  | '\\' :: rest => some ('\\', rest)
  | 'u' :: rest => numberEscape? 4 rest
  | 'U' :: rest => numberEscape? 8 rest
  | _ => none

/-- Reads a quoted string, after its quote. The first argument bounds its length. -/
def quoted? : (fuel : Nat) → List Char → Option (List Char × List Char)
  | 0, _ => none
  | _ + 1, '"' :: rest => some ([], rest)
  | fuel + 1, '\\' :: rest => do
    let (c, rest) ← escape? rest
    let (cs, rest) ← quoted? fuel rest
    return (c :: cs, rest)
  | fuel + 1, c :: rest =>
    if isPlain c then do
      let (cs, rest) ← quoted? fuel rest
      return (c :: cs, rest)
    else none
  | _ + 1, [] => none

/-- Reads an apostrophized string, after its apostrophe. -/
def literal? (s : List Char) : Option (List Char × List Char) :=
  match s.dropWhile isLiteral with
  | '\'' :: rest => some (s.takeWhile isLiteral, rest)
  | _ => none

/-- The marks that a string of several lines starts with, as many as come at once: three of them
close it, and two more before these belong to it. The answer is what belongs to it, and whether
it is closed. -/
def marks (mark : Char) (s : List Char) : List Char × Bool × List Char :=
  let n := (s.takeWhile (· == mark)).length
  if n < 3 then (List.replicate n mark, false, s.drop n)
  else (List.replicate (min (n - 3) 2) mark, true, s.drop (min n 5))

/-- The characters after space and ends of lines. -/
def skipBlankLines : List Char → List Char
  | '\r' :: '\n' :: rest => skipBlankLines rest
  | c :: rest => if isSpace c || c == '\n' then skipBlankLines rest else c :: rest
  | [] => []

/-- Passes over a line end that a backslash has taken out of a string, with the space around it and
empty lines behind it. -/
def joinedLine? (s : List Char) : Option (List Char) :=
  (newline? (skipSpace s)).map skipBlankLines

/-- Reads a quoted string of several lines, after its first quotes. The first argument bounds its
length. -/
def quotedLines? : (fuel : Nat) → List Char → Option (List Char × List Char)
  | 0, _ => none
  | _ + 1, [] => none
  | fuel + 1, c :: rest =>
    if c = '"' then
      match marks '"' (c :: rest) with
      | (own, true, rest) => some (own, rest)
      | (own, false, rest) => do
        let (cs, rest) ← quotedLines? fuel rest
        return (own ++ cs, rest)
    else if c = '\\' then
      match joinedLine? rest with
      | some rest => quotedLines? fuel rest
      | none => do
        let (c, rest) ← escape? rest
        let (cs, rest) ← quotedLines? fuel rest
        return (c :: cs, rest)
    else if isPlain c then do
      let (cs, rest) ← quotedLines? fuel rest
      return (c :: cs, rest)
    else do
      let rest ← newline? (c :: rest)
      let (cs, rest) ← quotedLines? fuel rest
      return ('\n' :: cs, rest)

/-- Reads an apostrophized string of several lines, after its first apostrophes. The first argument
bounds its length. -/
def literalLines? : (fuel : Nat) → List Char → Option (List Char × List Char)
  | 0, _ => none
  | _ + 1, [] => none
  | fuel + 1, c :: rest =>
    if c = '\'' then
      match marks '\'' (c :: rest) with
      | (own, true, rest) => some (own, rest)
      | (own, false, rest) => do
        let (cs, rest) ← literalLines? fuel rest
        return (own ++ cs, rest)
    else if isLiteral c then do
      let (cs, rest) ← literalLines? fuel rest
      return (c :: cs, rest)
    else do
      let rest ← newline? (c :: rest)
      let (cs, rest) ← literalLines? fuel rest
      return ('\n' :: cs, rest)

/-- The characters after the line end that a string of several lines may start with. -/
def skipFirstNewline (s : List Char) : List Char := (newline? s).getD s

/-- Reads a string on one line. -/
def shortString? : List Char → Option (String × List Char)
  | '"' :: rest => (quoted? (rest.length + 1) rest).map fun (cs, rest) => (String.ofList cs, rest)
  | '\'' :: rest => (literal? rest).map fun (cs, rest) => (String.ofList cs, rest)
  | _ => none

/-- Reads a string. -/
def string? (s : List Char) : Option (String × List Char) :=
  match s with
  | '"' :: '"' :: '"' :: rest =>
    (quotedLines? (s.length + 1) (skipFirstNewline rest)).map fun (cs, rest) => (String.ofList cs, rest)
  | '\'' :: '\'' :: '\'' :: rest =>
    (literalLines? (s.length + 1) (skipFirstNewline rest)).map fun (cs, rest) =>
      (String.ofList cs, rest)
  | s => shortString? s

/-! ## Keys -/

/-- What may stand in a key without quotes. -/
def isBareKeyChar (c : Char) : Bool := c.isAlphanum || c == '-' || c == '_'

/-- Reads one part of a key. -/
def keyPart? (s : List Char) : Option (String × List Char) :=
  match s with
  | '"' :: _ | '\'' :: _ => shortString? s
  | _ =>
    let part := s.takeWhile isBareKeyChar
    if part.isEmpty then none else some (String.ofList part, s.dropWhile isBareKeyChar)

/-- Reads the parts of a key, with dots and space between them. The first argument bounds their
number. -/
def keyParts? : (fuel : Nat) → List Char → Option (List String × List Char)
  | 0, _ => none
  | fuel + 1, s => do
    let (part, rest) ← keyPart? (skipSpace s)
    match skipSpace rest with
    | '.' :: more => do
      let (parts, rest) ← keyParts? fuel more
      return (part :: parts, rest)
    | rest => return ([part], rest)

/-- No key has this many parts, and no value is nested this deeply. -/
def depthLimit : Nat := 80

/-- Reads a key: the parts before the last, and the last. -/
def key? (s : List Char) : Option ((List String × String) × List Char) := do
  let (parts, rest) ← keyParts? (s.length + 1) s
  if depthLimit ≤ parts.length then none
  else return ((parts.dropLast, ← parts.getLast?), rest)

/-! ## Numbers -/

/-- Reads digits, with single underscores between them, that stand for numbers below `base`. -/
def digits? (base : Nat) : (started : Bool) → List Char → Option (List Nat × List Char)
  | started, s =>
    match s with
    | '_' :: c :: rest =>
      if started then
        match digit? base c with
        | none => none
        | some d => (digits? base true rest).map fun (ds, rest) => (d :: ds, rest)
      else none
    | c :: rest =>
      match digit? base c with
      | none => if started && c != '_' then some ([], s) else none
      | some d => (digits? base true rest).map fun (ds, rest) => (d :: ds, rest)
    | [] => if started then some ([], []) else none
where
  /-- The value of a digit. -/
  digit? (base : Nat) (c : Char) : Option Nat :=
    if c.toNat < 0x80 then (hexValue? c.toUInt8).filter (· < base) else none

/-- The number with these digits. -/
def ofDigits (base : Nat) (ds : List Nat) : Nat := ds.foldl (fun n d => n * base + d) 0

/-- Reads a sign. -/
def sign : List Char → Bool × List Char
  | '+' :: rest => (false, rest)
  | '-' :: rest => (true, rest)
  | s => (false, s)

/-- Reads the digits of a whole number: a zero stands alone. -/
def whole? : List Char → Option (List Nat × List Char)
  | '0' :: rest => some ([0], rest)
  | s => digits? 10 false s

/-- The number fits 64 bits with a sign. -/
def fits (n : Int) : Bool := -(Nat.pow 2 63 : Int) ≤ n && n < (Nat.pow 2 63 : Int)

/-- A number that fits. -/
def checked (n : Int) (rest : List Char) : Option (Int × List Char) := if fits n then some (n, rest) else none

/-- Reads an integer. -/
def integer? (s : List Char) : Option (Int × List Char) :=
  let based (base : Nat) (s : List Char) : Option (Int × List Char) := do
    let (ds, rest) ← digits? base false s
    checked (ofDigits base ds) rest
  match s with
  | '0' :: 'x' :: rest => based 16 rest
  | '0' :: 'o' :: rest => based 8 rest
  | '0' :: 'b' :: rest => based 2 rest
  | s => do
    let (minus, rest) := sign s
    let (ds, rest) ← whole? rest
    let n : Int := ofDigits 10 ds
    checked (if minus then -n else n) rest

/-- The decimal with these digits and a power of ten is too large for a double-precision number. -/
def overflows (ds : List Nat) (exponent : Int) : Bool :=
  let ds := ds.dropWhile (· == 0)
  let size : Int := ds.length + exponent
  if ds.isEmpty || size < 300 then false
  else if size > 310 then true
  else
    let n := ofDigits 10 ds
    let ratio : Nat × Nat :=
      if 0 ≤ exponent then (n * Nat.pow 10 exponent.toNat, 1) else (n, Nat.pow 10 (-exponent).toNat)
    (Decimal.Binary64.ofRatio ratio.1 ratio.2).isNone

/-- Reads an exponent, after its letter. -/
def exponent? (s : List Char) : Option (Int × List Char) := do
  let (minus, rest) := sign s
  let (ds, rest) ← digits? 10 false rest
  let n : Int := ofDigits 10 ds
  return (if minus then -n else n, rest)

/-- Passes over a number with a point or an exponent. One that is positive and too large is
refused; a negative one is not. -/
def real? (s : List Char) : Option (List Char) :=
  let (minus, start) := sign s
  let finish (ds : List Nat) (exponent : Int) (rest : List Char) : Option (List Char) :=
    if !minus && overflows ds exponent then none else some rest
  match start with
  | 'i' :: 'n' :: 'f' :: rest | 'n' :: 'a' :: 'n' :: rest => some rest
  | _ => do
    let (ds, rest) ← whole? start
    match rest with
    | '.' :: rest =>
      let (fraction, rest) ← digits? 10 false rest
      let own : Int := -(fraction.length : Int)
      match rest with
      | 'e' :: rest | 'E' :: rest =>
        let (e, rest) ← exponent? rest
        finish (ds ++ fraction) (own + e) rest
      | rest => finish (ds ++ fraction) own rest
    | 'e' :: rest | 'E' :: rest =>
      let (e, rest) ← exponent? rest
      finish ds e rest
    | _ => none

/-! ## Dates and times -/

/-- Reads a number of so many digits between two bounds. -/
def field? (width low high : Nat) (s : List Char) : Option (Nat × List Char) :=
  let digits := s.take width
  if digits.length = width ∧ digits.all Char.isDigit then
    let n := ofDigits 10 (digits.map fun c => c.toNat - 48)
    if low ≤ n ∧ n ≤ high then some (n, s.drop width) else none
  else none

/-- Passes over a character that has to come. -/
def expect? (c : Char) : List Char → Option (List Char)
  | d :: rest => if d = c then some rest else none
  | [] => none

/-- The number of days of a month. -/
def daysOf (year month : Nat) : Nat :=
  if month = 2 then
    if year % 4 = 0 ∧ (year % 100 ≠ 0 ∨ year % 400 = 0) then 29 else 28
  else if month = 4 ∨ month = 6 ∨ month = 9 ∨ month = 11 then 30
  else 31

/-- Passes over a date. -/
def date? (s : List Char) : Option (List Char) := do
  let (year, s) ← field? 4 0 9999 s
  let (month, s) ← field? 2 1 12 (← expect? '-' s)
  let (_, s) ← field? 2 1 (daysOf year month) (← expect? '-' s)
  return s

/-- Passes over a time. A minute may have a sixty-first second. -/
def time? (s : List Char) : Option (List Char) := do
  let (_, s) ← field? 2 0 23 s
  let (_, s) ← field? 2 0 59 (← expect? ':' s)
  let (_, s) ← field? 2 0 60 (← expect? ':' s)
  match s with
  | '.' :: c :: rest => if c.isDigit then some (rest.dropWhile Char.isDigit) else some s
  | _ => some s

/-- Passes over the distance from universal time. -/
def offset? : List Char → Option (List Char)
  | 'Z' :: rest | 'z' :: rest => some rest
  | s => do
    let rest ← match s with
      | '+' :: rest | '-' :: rest => some rest
      | _ => none
    let (_, rest) ← field? 2 0 23 rest
    let (_, rest) ← field? 2 0 59 (← expect? ':' rest)
    return rest

/-- Passes over a date, a time, or both. -/
def moment? (s : List Char) : Option (List Char) :=
  match date? s with
  | none => time? s
  | some rest =>
    let afterTime :=
      match rest with
      | 'T' :: more | 't' :: more | ' ' :: more => time? more
      | _ => none
    match afterTime with
    | none => some rest
    | some more => some ((offset? more).getD more)

/-- The characters start like a date or a time. -/
def startsMoment (s : List Char) : Bool :=
  let n := (s.takeWhile Char.isDigit).length
  (4 ≤ n && s[4]? == some '-') || (2 ≤ n && s[2]? == some ':')

end Roster.Toml
