import Roster.Text.Bytes

/-!
# Paths

A path is a text whose parts are separated by slashes. Repeated slashes, and parts that are a
single dot, mean nothing except at the very start, where they are kept.
-/

namespace Roster.Files

/-- The part of a path that no parent loses: the slash of an absolute one, or a dot in front. -/
def pathHead : List Char → List Char
  | '/' :: _ => ['/']
  | ['.'] => ['.']
  | '.' :: '/' :: _ => ['.']
  | _ => []

/-- The last part of a path that is given from its end. -/
def lastPart (reversed : List Char) : List Char := reversed.takeWhile (· != '/')

/-- A path, given from its end, without its last part and the slash before that. -/
def withoutLast (reversed : List Char) : List Char := (reversed.dropWhile (· != '/')).drop 1

/-- A path, given from its end, without the parts that mean nothing there. The first argument
bounds their number. -/
def trimParts : (fuel : Nat) → List Char → List Char
  | 0, reversed => reversed
  | fuel + 1, reversed =>
    if lastPart reversed = [] ∨ lastPart reversed = ['.'] then trimParts fuel (withoutLast reversed)
    else reversed

/-- The path that a path lies in. The empty path and the root lie in none. -/
def parent? (path : String) : Option String :=
  let chars := path.toList
  let head := pathHead chars
  let body := trimParts chars.length (chars.drop head.length).reverse
  if body.isEmpty then if head = ['.'] then some "" else none
  else some (String.ofList (head ++ (trimParts chars.length (withoutLast body)).reverse))

/-- The parent of a path, the parent of that, and so on. The first argument bounds their number. -/
def parents : (fuel : Nat) → String → List String
  | 0, _ => []
  | fuel + 1, path =>
    match parent? path with
    | none => []
    | some p => p :: parents fuel p

/-- A path and all its parents, the path first. -/
def ancestors (path : String) : List String := path :: parents path.length path

/-- The path starts at the root. -/
def isAbsolute (path : String) : Bool := path.toList.head? == some '/'

/-- The parts of a list of characters between slashes, empty ones left out. -/
def partsOf : (current : List Char) → List Char → List String
  | current, [] => if current.isEmpty then [] else [String.ofList current.reverse]
  | current, c :: rest =>
    if c = '/' then
      if current.isEmpty then partsOf [] rest
      else String.ofList current.reverse :: partsOf [] rest
    else partsOf (c :: current) rest

/-- The parts of a path. -/
def parts (path : String) : List String := partsOf [] path.toList

/-- The path ends with a slash, so it can only mean a directory. -/
def endsWithSlash (path : String) : Bool := path.toList.getLast? == some '/'

end Roster.Files
