import Roster.Embedded.Store
import Roster.Files.OsError
import Roster.Files.Path
import Roster.Relational.Database
import Roster.User

/-!
# File trees

What lies below the working directory and, as far as it is known, around it. A place is the list
of names that lead to it from the working directory; places outside begin with dots for each step
up, or with a slash for the root, and those that consist of nothing else are directories.
-/

namespace Roster.Files

/-- What a file holds. -/
inductive Content where
  | bytes (b : Bytes)
  | embedded (image : Embedded.Image)
  | relational (db : Relational.Database)

/-- What is at a place. -/
inductive Node where
  | directory
  | file (c : Content)

/-- A place, as the names that lead to it. -/
abbrev Place := List String

namespace Place

/-- The root. -/
def root : Place := ["/"]

/-- The place consists of steps up, or is the root, or is the working directory itself. -/
def isAnchor (p : Place) : Bool := p == root || p.all (· == "..")

/-- The place lies below the working directory. -/
def isBelow (p : Place) : Bool :=
  match p with
  | [] => false
  | name :: _ => name != ".." && name != "/"

/-- One step up. -/
def up (p : Place) : Place :=
  if p == root then p
  else if p.all (· == "..") then p ++ [".."]
  else p.dropLast

/-- Where a part of a path leads from a directory. -/
def step (p : Place) (part : String) : Place :=
  if part = "." then p else if part = ".." then p.up else p ++ [part]

end Place

/-- Directories and files by their places. -/
structure Tree where
  nodes : KeyTable Place Node
  /-- Whatever there is lies in a directory. -/
  rooted (p : Place) (n : Node) (h : nodes.find? p = some n) :
    Place.isAnchor p.dropLast = true ∨ nodes.find? p.dropLast = some .directory

namespace Tree

/-- Nothing. -/
def empty : Tree := ⟨.empty, fun _ _ h => by cases h⟩

/-- What is at a place. -/
def node? (t : Tree) (p : Place) : Option Node :=
  if p.isAnchor then some .directory else t.nodes.find? p

/-- There is a directory at a place. -/
def isDirectory (t : Tree) (p : Place) : Bool :=
  match t.node? p with
  | some .directory => true
  | _ => false

/-- Something may be put at a place: it would lie in a directory, and would be a directory itself if there
is one already. -/
def takes (t : Tree) (p : Place) : Node → Bool
  | .directory => t.isDirectory p.dropLast
  | .file _ => t.isDirectory p.dropLast && !t.isDirectory p

theorem isDirectory_iff {t : Tree} {p : Place} :
    t.isDirectory p = true ↔ p.isAnchor = true ∨ t.nodes.find? p = some .directory := by
  unfold isDirectory node?
  by_cases ha : p.isAnchor = true
  · simp [ha]
  · rw [if_neg ha]
    cases t.nodes.find? p with
    | none => simp [ha]
    | some n => cases n <;> simp [ha]

theorem rooted_insert {t : Tree} {p : Place} {n : Node} (h : t.takes p n = true) (q : Place) (m : Node)
    (hq : (t.nodes.insert p n).find? q = some m) :
    Place.isAnchor q.dropLast = true ∨ (t.nodes.insert p n).find? q.dropLast = some .directory := by
  have hparent : t.isDirectory q.dropLast = true := by
    rw [KeyTable.find?_insert] at hq
    split at hq
    · rename_i he
      cases n <;> simp_all [takes]
    · exact isDirectory_iff.2 (t.rooted q m hq)
  refine (isDirectory_iff.1 hparent).imp_right fun hdir => ?_
  rw [KeyTable.find?_insert]
  split
  · -- what something lies in is not replaced by a file
    rename_i he
    cases n with
    | directory => rfl
    | file c => simp [takes, ← he, hparent] at h
  · exact hdir

/-- The tree with something else at a place, if it may be put there. -/
def put (t : Tree) (p : Place) (n : Node) : Tree :=
  if h : t.takes p n = true then ⟨t.nodes.insert p n, rooted_insert h⟩ else t

/-- A directory is required at a place. -/
def enter (t : Tree) (p : Place) : Except OsError Unit :=
  match t.node? p with
  | some .directory => .ok ()
  | some (.file _) => .error .notDirectory
  | none => .error .notFound

/-- The most bytes in a name. -/
def nameLimit : Nat := 255

/-- The most bytes in a path. -/
def pathLimit : Nat := 4095

/-- The place that parts lead to. Every place on the way has to be a directory; the last need not
be there. -/
def walk (t : Tree) (p : Place) : List String → Except OsError Place
  | [] => .ok p
  | part :: rest =>
    match t.enter p with
    | .error e => .error e
    | .ok () => if byteLength part > nameLimit then .error .nameTooLong else t.walk (p.step part) rest

/-- Whether a path can be given to the system at all. -/
def checkPath (path : String) : Except OsError Unit :=
  if hasNul path then .error .nulInName
  else if path = "" then .error .notFound
  else if byteLength path > pathLimit then .error .nameTooLong
  else .ok ()

/-- Where the parts of a path begin. -/
def start (path : String) : Place := if isAbsolute path then Place.root else []

/-- The place of a path. -/
def locate (t : Tree) (path : String) : Except OsError Place := do
  checkPath path
  t.walk (start path) (parts path)

/-- What is at a path. -/
def stat (t : Tree) (path : String) : Except OsError Node := do
  let p ← t.locate path
  match t.node? p with
  | none => .error .notFound
  | some (.file c) => if endsWithSlash path then .error .notDirectory else .ok (.file c)
  | some .directory => .ok .directory

/-- A directory is at a path. -/
def isDirectoryAt (t : Tree) (path : String) : Bool :=
  match t.stat path with
  | .ok .directory => true
  | _ => false

/-- Something is at a path. -/
def existsAt (t : Tree) (path : String) : Bool := (t.stat path).isOk

/-- The tree with a new directory at a path. -/
def makeDirectory (t : Tree) (path : String) : Except OsError Tree := do
  checkPath path
  match (parts path).getLast? with
  | none => .error .exists
  | some name =>
    let p ← t.walk (start path) (parts path).dropLast
    t.enter p
    if name = "." ∨ name = ".." then .error .exists
    else if byteLength name > nameLimit then .error .nameTooLong
    else if (t.node? (p.step name)).isSome then .error .exists
    else .ok (t.put (p.step name) .directory)

/-- The tree with directories at the first of the given paths and at those of the others that it
lies in; a path is tried before the next one, which it lies in. What was made before a failure
stays. -/
def makeDirectories (t : Tree) : List String → Tree × Except OsError Unit
  | [] => (t, .error .notFound)
  | path :: above =>
    if path = "" then (t, .ok ())
    else
      match t.makeDirectory path with
      | .ok t => (t, .ok ())
      | .error .notFound =>
        match t.makeDirectories above with
        | (t, .error e) => (t, .error e)
        | (t, .ok ()) =>
          match t.makeDirectory path with
          | .ok t => (t, .ok ())
          | .error e => if t.isDirectoryAt path then (t, .ok ()) else (t, .error e)
      | .error e => if t.isDirectoryAt path then (t, .ok ()) else (t, .error e)

/-- The place of a file that may be created at a path. -/
def fileToCreate (t : Tree) (path : String) : Except OsError Place := do
  if endsWithSlash path then .error .isDirectory
  let p ← t.locate path
  match t.node? p with
  | some .directory => .error .isDirectory
  | _ => .ok p

/-- The bytes of a plain file. -/
def read (t : Tree) (path : String) : Except OsError Bytes :=
  match t.stat path with
  | .error e => .error e
  | .ok .directory => .error .isDirectory
  | .ok (.file (.bytes b)) => .ok b
  | .ok (.file _) => .error .notText

/-- The bytes of a file as a text. -/
def readText (t : Tree) (path : String) : Except OsError String := do
  match ofUtf8? (← t.read path) with
  | some s => .ok s
  | none => .error .notText

/-- The tree with a node at a place below the working directory, and directories on the way. -/
def plant (t : Tree) (p : Place) (n : Node) : Tree :=
  let above := (List.range p.length).drop 1 |>.map p.take
  let t := above.foldl (fun t q => if (t.node? q).isSome then t else t.put q .directory) t
  t.put p n

/-- What is below the working directory: paths in byte order, directories with a slash behind. -/
def listing (t : Tree) : List String :=
  sortTexts (t.nodes.rows.filterMap fun (p, n) =>
    if p.isBelow then
      let path := String.intercalate "/" p
      match n with
      | .directory => some (path ++ "/")
      | .file _ => some path
    else none)

end Tree

/-! ## The directory of a data file -/

/-- What the attempt to prepare a directory leaves behind. -/
structure Prepared where
  tree : Tree
  events : List Log.Event
  /-- The reason of a failure. -/
  result : Except String Unit

/-- Makes sure that the directory of a file is there, and makes it and what it lies in if not. -/
def ensureParentDir (t : Tree) (file : String) : Prepared :=
  match parent? file with
  | none | some "" => ⟨t, [], .ok ()⟩
  | some dir =>
    let events := if t.existsAt dir then [] else [.creatingDirectory dir]
    match t.makeDirectories (ancestors dir) with
    | (t, .ok ()) => ⟨t, events, .ok ()⟩
    | (t, .error e) => ⟨t, events, .error ("cannot create " ++ dir ++ ": " ++ e.message)⟩

end Roster.Files
