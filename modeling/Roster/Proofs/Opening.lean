import Roster.Proofs.Files.Tree
import Roster.Store

/-!
# Opening a file again

Opening a store prepares the directory of its file and puts the file in its place. Neither has to
be done twice: while the store is used nothing but the content of its file changes, so the same path
leads to the same file again, and the tables that were put there come back.
-/

namespace Roster

open Files

/-- The file at `path` has its home in the tree. -/
structure Housed (t : Tree) (path : String) (home : Place) : Prop where
  parent : ParentReady t path
  found : t.fileToCreate path = .ok home
  file : ∃ c, t.node? home = some (.file c)

variable {t : Tree} {path : String} {home : Place}

theorem fileToCreate_ok :
    t.fileToCreate path = .ok home ↔
      endsWithSlash path = false ∧ t.locate path = .ok home ∧ t.node? home ≠ some .directory := by
  unfold Tree.fileToCreate
  cases endsWithSlash path with
  | true => simp [bind, Except.bind]
  | false =>
    cases t.locate path with
    | error e => simp [bind, Except.bind]
    | ok p =>
      simp only [Bool.false_eq_true, if_false, bind, Except.bind, true_and]
      constructor
      · intro h
        split at h
        · cases h
        · cases h
          exact ⟨rfl, ‹_›⟩
      · rintro ⟨hp, hd⟩
        cases hp
        split
        · exact absurd ‹_› hd
        · rfl

/-- A file stays in its home when its content changes, and has one as soon as it is written. -/
theorem housed_put (hp : ParentReady t path) (h : t.fileToCreate path = .ok home) (c : Content) :
    Housed (t.put home (.file c)) path home ∧ (t.put home (.file c)).node? home = some (.file c) := by
  obtain ⟨hslash, hlocate, hdir⟩ := fileToCreate_ok.1 h
  have hstay := Tree.DirectoriesStay.put hdir (.file c)
  have hnode := Tree.node?_put_file (Tree.takes_of_locate hlocate hdir c)
  refine ⟨⟨hp.mono hstay, fileToCreate_ok.2 ⟨hslash, hstay.locate hlocate, ?_⟩, c, hnode⟩, hnode⟩
  rw [hnode]
  simp

theorem Housed.put (h : Housed t path home) (c : Content) :
    Housed (t.put home (.file c)) path home ∧ (t.put home (.file c)).node? home = some (.file c) :=
  housed_put h.parent h.found c

/-- The store has not been closed. -/
def Store.isOpen : Store → Bool
  | embedded s _ => s.shared.isOpen
  | relational s _ => s.shared.isOpen

namespace Opening

/-- A store that was opened has its file in its home. -/
theorem housed_of_embedded {inUse : List Place} {s : Store}
    (h : (Opening.embedded path inUse t).result = .ok s) :
    ∃ home tables, s = .embedded ⟨path, ⟨true, tables⟩⟩ home ∧
      Housed (Opening.embedded path inUse t).tree path home := by
  unfold Opening.embedded at h ⊢
  have hready : (ensureParentDir t path).result = .ok () → ParentReady (ensureParentDir t path).tree path :=
    parentReady_of_ensureParentDir
  cases hr : (ensureParentDir t path).result with
  | error message => simp [hr] at h
  | ok u =>
  cases hf : (ensureParentDir t path).tree.fileToCreate path with
  | error e => simp [hr, hf] at h
  | ok home =>
  simp only [hr, hf] at h ⊢
  split at h
  · cases h
  · rename_i huse
    split at h
    · cases h
    · rename_i image himage
      split at h
      · cases h
      · rename_i tables htables
        cases h
        refine ⟨home, tables, rfl, ?_⟩
        rw [if_neg huse]
        exact (housed_put (hready hr) hf _).1

/-- The tables that were put into the file come back. -/
theorem embedded_of_housed (h : Housed t path home) {tables : Embedded.Tables}
    (hfile : t.node? home = some (.file (.embedded (.ofTables tables)))) :
    (Opening.embedded path [] t).result = .ok (.embedded ⟨path, ⟨true, tables⟩⟩ home) ∧
      (Opening.embedded path [] t).tree = t.put home (.file (.embedded (.ofTables tables))) := by
  obtain ⟨htree, hresult⟩ := ensureParentDir_of_ready h.parent
  unfold Opening.embedded
  simp only [hresult, htree, h.found, hfile]
  exact ⟨rfl, rfl⟩

theorem relational_of_relational {settings : Settings.StoreSettings} {s : Store}
    (h : (Opening.relational settings t).result = .ok s) : ∃ store home, s = .relational store home := by
  unfold Opening.relational at h
  cases hc : (Relational.connect settings t).result with
  | error e => simp [hc] at h
  | ok opened =>
    simp only [hc, Except.ok.injEq] at h
    exact ⟨_, _, h.symm⟩

/-- A store that was just opened is open. -/
theorem isOpen_of_ok {settings : Settings.StoreSettings} {inUse : List Place} {s : Store}
    (h : (Opening.ofSettings settings inUse t).result = .ok s) : s.isOpen = true := by
  unfold Opening.ofSettings at h
  cases hb : settings.backend? with
  | error e => simp [hb] at h
  | ok backend =>
  rw [hb] at h
  cases backend with
  | embedded path =>
    obtain ⟨home, tables, rfl, -⟩ := housed_of_embedded h
    rfl
  | relational url =>
    unfold Opening.relational at h
    dsimp only at h
    split at h
    · cases h
    · cases h
      rfl

end Opening

end Roster
