import Roster.Files.Stored
import Roster.Startup

/-!
# The command line

Runs the start-up program on the files of a machine. The files that the program can touch are
loaded first, with the directories that they lie in, and written back when it has ended; in between
nothing is read or written. The log goes to the standard output.
-/

namespace Roster.CommandLine

open Files Settings

/-- A path in the form that the system takes. -/
def systemPath (path : String) := System.mkFilePath [path]

/-- The path of a place. -/
def pathOf : Place → String
  | "/" :: names => "/" ++ String.intercalate "/" names
  | names => String.intercalate "/" names

/-- The place of a path and the places on the way to it. -/
def placesTo (path : String) : List Place :=
  let p := (parts path).foldl Place.step (Tree.start path)
  ((List.range (p.length + 1)).map p.take).filter (!·.isAnchor)

/-- What is at a place of the machine. -/
def nodeAt (p : Place) : IO (Option Node) := do
  let path := systemPath (pathOf p)
  if ← path.isDir then return some .directory
  else if ← path.pathExists then
    return some (.file (.ofBytes (← IO.FS.readBinFile path).data.toList))
  else return none

/-- The tree with what the machine has at a path and on the way to it. -/
def loadPath (t : Tree) (path : String) : IO Tree :=
  if hasNul path then return t
  else (placesTo path).foldlM (fun t p => do
    match ← nodeAt p with
    | some n => return t.put p n
    | none => return t) t

/-- Writes the directories and files of a tree that the machine does not have as they are. -/
def saveTree (t : Tree) : IO Unit :=
  t.nodes.rows.forM fun (p, n) => do
    let path := systemPath (pathOf p)
    match n with
    | .directory => unless ← path.isDir do IO.FS.createDir path
    | .file c =>
      let bytes : ByteArray := ⟨c.toBytes.toArray⟩
      let same ← if ← path.pathExists then pure ((← IO.FS.readBinFile path).data == bytes.data)
        else pure false
      unless same do IO.FS.writeBinFile path bytes

/-- The words of a text that can be names of variables. -/
def namesIn (text : Bytes) : List String :=
  let letters := ((ofUtf8? text).getD "").toList.map fun c => if EnvFile.isNameChar c then c else ' '
  (Text.splitAt ' ' letters).map String.ofList

/-- The variables that the program looks at. -/
def variableNames : List String := ["CONFIG_PATH", "RUST_LOG"] ++ StoreSettings.urlVariables

/-- The values that the machine has for names. -/
def environmentOf (names : List String) : IO Environment :=
  names.filterMapM fun name => return (← IO.getEnv name).map (name, ·)

/-- The path of the file that a store has, if it has one. -/
def storePath? (s : StoreSettings) : Option String :=
  match s.backend? with
  | .ok (.embedded path) => some path
  | .ok (.relational url) => (Relational.location? url).bind (·.path)
  | .error _ => none

/-- A new name for a run: a random identifier in the form of version 4. -/
def freshName : IO String := do
  let bytes := ((← IO.getRandomBytes 16).data.toList.modify 6 fun b => 0x40 ||| (b &&& 0x0F)).modify 8
    fun b => 0x80 ||| (b &&& 0x3F)
  let digits := bytes.map fun b => (if b < 16 then "0" else "") ++ hexDigits b.toNat
  let group (from_ n : Nat) : String := String.join ((digits.drop from_).take n)
  return String.intercalate "-" [group 0 4, group 4 2, group 6 2, group 8 2, group 10 6]

/-- A log entry in a format, as one line. -/
def lineOf : LogFormat → Log.Entry → Bytes
  | .compact, e => utf8 (e.plain ++ "\n")
  | .json, e => e.json ++ [0x0A]

end Roster.CommandLine

open Roster Roster.CommandLine in
/-- Opens the configured store and reports what is in it; fails if that cannot be done. -/
def main : IO UInt32 := do
  let tree ← loadPath .empty Startup.envFile
  let envFile := (tree.read Startup.envFile).toOption.getD []
  let env ← environmentOf (variableNames ++ namesIn envFile)
  let supplied := Startup.environment tree env
  let tree ← loadPath tree (Settings.Config.path supplied)
  let tree ← match Settings.Config.load tree supplied with
    | .ok c => match storePath? c.store with
      | some path => loadPath tree path
      | none => pure tree
    | .error _ => pure tree
  let run := Startup.run (← freshName) tree env
  saveTree run.tree
  let out ← IO.getStdout
  for e in run.entries do
    out.write ⟨(lineOf run.format e).toArray⟩
  return if run.succeeded then 0 else 1
