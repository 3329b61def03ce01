import Roster.Files.Tree
import Roster.Proofs.KeyTable

/-!
# Paths in a tree that changes

A path leads where it led as long as the directories on its way stay directories. So putting a file
where no directory is moves nothing, and a directory that was prepared for a file stays prepared.
-/

namespace Roster.Files

theorem Place.isAnchor_above {p : Place} {name : String} (h : isAnchor (p ++ [name]) = true) :
    p.isAnchor = true := by
  cases p with
  | nil => rfl
  | cons part p =>
    simp only [isAnchor, root, List.cons_append, Bool.or_eq_true, beq_iff_eq, List.cons.injEq, List.append_eq_nil_iff,
      List.cons_ne_nil, and_false, false_or, List.all_cons, List.all_append, Bool.and_eq_true] at h ⊢
    exact .inr ⟨h.1, h.2.1⟩

namespace Tree

variable {t t' : Tree} {p q : Place} {path : String} {n : Node}

theorem isDirectory_eq : t.isDirectory p = true ↔ t.node? p = some .directory := by
  unfold isDirectory
  cases t.node? p with
  | none => simp
  | some n => cases n <;> simp

/-- Whatever there is lies in a directory. -/
theorem directory_of_node? {name : String} (h : t.node? (p ++ [name]) = some n) : t.node? p = some .directory := by
  rw [← isDirectory_eq, isDirectory_iff]
  by_cases ha : Place.isAnchor (p ++ [name]) = true
  · exact .inl (Place.isAnchor_above ha)
  · rw [node?, if_neg ha] at h
    simpa using t.rooted _ _ h

/-! ## Putting -/

theorem takes_directory (hp : t.node? p = some .directory) (name : String) :
    t.takes (p ++ [name]) .directory = true := by
  simp [takes, isDirectory_eq.2 hp]

/-- A file may be put in the place of another one. -/
theorem takes_file {c : Content} (h : t.node? p = some (.file c)) (c' : Content) : t.takes p (.file c') = true := by
  have hno : t.isDirectory p = false := by rw [isDirectory, h]
  rcases List.eq_nil_or_concat p with rfl | ⟨above, name, rfl⟩
  · cases h
  · rw [List.concat_eq_append] at h hno ⊢
    simp [takes, hno, isDirectory_eq.2 (directory_of_node? h)]

theorem node?_put (h : t.takes p n = true) (q : Place) :
    (t.put p n).node? q = if q = p ∧ q.isAnchor = false then some n else t.node? q := by
  unfold node? put
  rw [dif_pos h]
  cases hq : q.isAnchor with
  | true => simp
  | false =>
    simp only [Bool.false_eq_true, if_false, and_true]
    rw [KeyTable.find?_insert]

theorem find?_put_of_ne (hne : q ≠ p) (n : Node) : (t.put p n).nodes.find? q = t.nodes.find? q := by
  unfold put
  split
  · rw [KeyTable.find?_insert, if_neg hne]
  · rfl

theorem node?_put_of_ne (hne : q ≠ p) (n : Node) : (t.put p n).node? q = t.node? q := by
  rw [node?, node?, find?_put_of_ne hne]

/-- A file that may be put somewhere is there then. -/
theorem node?_put_file {c : Content} (h : t.takes p (.file c) = true) :
    (t.put p (.file c)).node? p = some (.file c) := by
  have hanchor : p.isAnchor = false := by
    have hno : ¬ t.isDirectory p = true := by
      rw [takes, Bool.and_eq_true] at h
      simpa using h.2
    simpa using fun ha => hno (isDirectory_iff.2 (.inl ha))
  rw [node?_put h, if_pos ⟨rfl, hanchor⟩]

/-- What was a directory still is one. -/
def DirectoriesStay (t t' : Tree) : Prop :=
  ∀ p, t.node? p = some .directory → t'.node? p = some .directory

namespace DirectoriesStay

theorem put (h : t.node? p ≠ some .directory) (n : Node) : DirectoriesStay t (t.put p n) := by
  intro q hq
  have hne : q ≠ p := by
    rintro rfl
    exact h hq
  rw [node?_put_of_ne hne, hq]

end DirectoriesStay

/-! ## Ways -/

theorem enter_ok : t.enter p = .ok () ↔ t.node? p = some .directory := by
  unfold enter
  cases t.node? p with
  | none => simp
  | some n => cases n <;> simp

theorem walk_cons {part : String} {rest : List String} :
    t.walk p (part :: rest) = .ok q ↔
      t.node? p = some .directory ∧ byteLength part ≤ nameLimit ∧ t.walk (p.step part) rest = .ok q := by
  rw [walk]
  cases h : t.enter p with
  | error e =>
    have : t.node? p ≠ some .directory := fun hd => by rw [enter_ok.2 hd] at h; cases h
    simp [this]
  | ok u =>
    rw [enter_ok.1 h]
    by_cases hl : byteLength part > nameLimit
    · simp [hl]
    · simp [hl, Nat.le_of_not_gt hl]

/-- The last step of a way. -/
theorem walk_concat {parts : List String} {name : String} :
    t.walk p (parts ++ [name]) = .ok q ↔
      ∃ m, t.walk p parts = .ok m ∧ t.node? m = some .directory ∧ byteLength name ≤ nameLimit ∧
        q = m.step name := by
  induction parts generalizing p with
  | nil =>
    rw [List.nil_append, walk_cons]
    simp only [walk, Except.ok.injEq, exists_eq_left']
    rw [eq_comm (a := p.step name)]
  | cons part parts ih =>
    simp only [List.cons_append, walk_cons, ih]
    constructor
    · rintro ⟨hp, hl, m, hm, h⟩
      exact ⟨m, ⟨hp, hl, hm⟩, h⟩
    · rintro ⟨m, ⟨hp, hl, hm⟩, h⟩
      exact ⟨hp, hl, m, hm, h⟩

theorem DirectoriesStay.walk (h : DirectoriesStay t t') {parts : List String}
    (hw : t.walk p parts = .ok q) : t'.walk p parts = .ok q := by
  induction parts generalizing p with
  | nil => exact hw
  | cons part parts ih =>
    obtain ⟨hp, hl, hw⟩ := walk_cons.1 hw
    exact walk_cons.2 ⟨h p hp, hl, ih hw⟩

theorem locate_ok :
    t.locate path = .ok p ↔ checkPath path = .ok () ∧ t.walk (start path) (parts path) = .ok p := by
  unfold locate
  cases checkPath path with
  | error e => simp [bind, Except.bind]
  | ok u => simp [bind, Except.bind]

theorem DirectoriesStay.locate (h : DirectoriesStay t t') (hl : t.locate path = .ok p) :
    t'.locate path = .ok p := by
  obtain ⟨hc, hw⟩ := locate_ok.1 hl
  exact locate_ok.2 ⟨hc, h.walk hw⟩

theorem isDirectoryAt_iff :
    t.isDirectoryAt path = true ↔ ∃ p, t.locate path = .ok p ∧ t.node? p = some .directory := by
  unfold isDirectoryAt stat
  cases t.locate path with
  | error e => simp [bind, Except.bind]
  | ok p =>
    simp only [bind, Except.bind, Except.ok.injEq, exists_eq_left']
    cases t.node? p with
    | none => simp
    | some n =>
      cases n with
      | directory => simp
      | file c => by_cases he : endsWithSlash path <;> simp [he]

theorem DirectoriesStay.isDirectoryAt (h : DirectoriesStay t t') (hd : t.isDirectoryAt path = true) :
    t'.isDirectoryAt path = true := by
  obtain ⟨p, hl, hp⟩ := isDirectoryAt_iff.1 hd
  exact isDirectoryAt_iff.2 ⟨p, h.locate hl, h p hp⟩

/-- One step up from a directory is a directory. -/
theorem node?_up (h : t.node? p = some .directory) : t.node? p.up = some .directory := by
  unfold Place.up
  split
  · exact h
  · split
    · rename_i hall
      have ha : Place.isAnchor (p ++ [".."]) = true := by
        rw [Place.isAnchor, List.all_append, hall]
        simp
      rw [node?, if_pos ha]
    · rcases List.eq_nil_or_concat p with rfl | ⟨above, name, rfl⟩
      · rfl
      · rw [List.concat_eq_append] at h ⊢
        rw [List.dropLast_concat]
        exact directory_of_node? h

/-- A step from a directory to where no directory is goes down. -/
theorem step_of_not_directory {name : String} (hp : t.node? p = some .directory)
    (h : t.node? (p.step name) ≠ some .directory) : p.step name = p ++ [name] := by
  unfold Place.step at h ⊢
  split
  · rename_i hdot
    rw [if_pos hdot] at h
    exact absurd hp h
  · rename_i hdot
    split
    · rename_i hup
      rw [if_neg hdot, if_pos hup] at h
      exact absurd (node?_up hp) h
    · rfl

/-- A file may be put where nothing is, if there is a directory one step up. -/
theorem takes_of_up (hnone : t.node? p = none) (hup : t.isDirectory p.up = true) (c : Content) :
    t.takes p (.file c) = true := by
  have hanchor : Place.isAnchor p = false := by
    rw [Bool.eq_false_iff]
    intro ha
    rw [node?, if_pos ha] at hnone
    cases hnone
  have hno : t.isDirectory p = false := by rw [isDirectory, hnone]
  rw [Place.isAnchor, Bool.or_eq_false_iff] at hanchor
  rw [Place.up, hanchor.1, hanchor.2] at hup
  simpa [takes, hno] using hup

/-- Where a file may be created, it may be put. -/
theorem takes_of_locate (hl : t.locate path = .ok p) (hno : t.node? p ≠ some .directory) (c : Content) :
    t.takes p (.file c) = true := by
  obtain ⟨-, hw⟩ := locate_ok.1 hl
  rcases List.eq_nil_or_concat (parts path) with hnil | ⟨way, name, hparts⟩
  · -- a path without parts leads to the directory where it begins
    rw [hnil] at hw
    cases hw
    refine absurd ?_ hno
    unfold start
    split <;> rfl
  · rw [hparts, List.concat_eq_append] at hw
    obtain ⟨m, -, hm, -, rfl⟩ := walk_concat.1 hw
    rw [step_of_not_directory hm hno]
    rw [step_of_not_directory hm hno] at hno
    have hdir : t.isDirectory (m ++ [name]) = false := Bool.eq_false_iff.2 fun hd => hno (isDirectory_eq.1 hd)
    simp [takes, isDirectory_eq.2 hm, hdir]

/-! ## Making directories -/

theorem makeDirectory_ok (h : t.makeDirectory path = .ok t') :
    ∃ p name, (parts path).getLast? = some name ∧ checkPath path = .ok () ∧
      t.walk (start path) (parts path).dropLast = .ok p ∧ t.node? p = some .directory ∧
      byteLength name ≤ nameLimit ∧ t.node? (p.step name) = none ∧
      t' = t.put (p.step name) .directory := by
  unfold makeDirectory at h
  cases hc : checkPath path with
  | error e => rw [hc] at h; cases h
  | ok u =>
  cases hl : (parts path).getLast? with
  | none => rw [hc, hl] at h; cases h
  | some name =>
  cases hw : t.walk (start path) (parts path).dropLast with
  | error e => rw [hc, hl, hw] at h; cases h
  | ok p =>
  rw [hc, hl, hw] at h
  simp only [bind, Except.bind] at h
  cases he : t.enter p with
  | error e => rw [he] at h; cases h
  | ok u =>
  rw [he] at h
  simp only at h
  split at h
  · cases h
  · split at h
    · cases h
    · rename_i hlen
      split at h
      · cases h
      · rename_i hnode
        cases h
        exact ⟨p, name, rfl, rfl, rfl, enter_ok.1 he, Nat.le_of_not_gt hlen, by simpa using hnode, rfl⟩

/-- A directory that was made is there. -/
theorem isDirectoryAt_of_makeDirectory (h : t.makeDirectory path = .ok t') :
    DirectoriesStay t t' ∧ t'.isDirectoryAt path = true := by
  obtain ⟨p, name, hlast, hc, hw, hp, hlen, hnone, hput⟩ := makeDirectory_ok h
  have hparts : parts path = (parts path).dropLast ++ [name] :=
    (List.dropLast_append_getLast? name hlast).symm
  have hstay : DirectoriesStay t t' := by
    rw [hput]
    exact .put (by simp [hnone]) _
  refine ⟨hstay, isDirectoryAt_iff.2 ⟨p.step name, locate_ok.2 ⟨hc, ?_⟩, ?_⟩⟩
  · rw [hparts]
    exact walk_concat.2 ⟨p, hstay.walk hw, hstay p hp, hlen, rfl⟩
  · -- the new place is no anchor, as nothing was there
    have hanchor : (p.step name).isAnchor = false := by
      rw [Bool.eq_false_iff]
      intro ha
      rw [node?, if_pos ha] at hnone
      cases hnone
    have hstep : p.step name = p ++ [name] := step_of_not_directory hp (by simp [hnone])
    rw [hput, node?_put (hstep ▸ takes_directory hp name), if_pos ⟨rfl, hanchor⟩]

/-- Where there is a directory, none can be made. -/
theorem makeDirectory_of_isDirectoryAt (h : t.isDirectoryAt path = true) :
    t.makeDirectory path = .error .exists := by
  obtain ⟨p, hl, hp⟩ := isDirectoryAt_iff.1 h
  obtain ⟨hc, hw⟩ := locate_ok.1 hl
  unfold makeDirectory
  rw [hc]
  cases hlast : (parts path).getLast? with
  | none => rfl
  | some name =>
    rw [← List.dropLast_append_getLast? name hlast] at hw
    obtain ⟨m, hm, hd, hlen, rfl⟩ := walk_concat.1 hw
    simp only [bind, Except.bind, hm, enter_ok.2 hd, hp, Option.isSome_some, if_true,
      if_neg (Nat.not_lt.2 hlen), ite_self]

theorem isDirectoryAt_of_makeDirectories {above : List String}
    (h : t.makeDirectories (path :: above) = (t', .ok ())) : path = "" ∨ t'.isDirectoryAt path = true := by
  rw [makeDirectories] at h
  split at h
  · exact .inl ‹_›
  · refine .inr ?_
    split at h
    · rename_i hm
      cases h
      exact (isDirectoryAt_of_makeDirectory hm).2
    · split at h
      · cases h
      · split at h
        · rename_i hm
          cases h
          exact (isDirectoryAt_of_makeDirectory hm).2
        · split at h
          · cases h
            assumption
          · cases h
    · split at h
      · cases h
        assumption
      · cases h

/-- Preparing again changes nothing. -/
theorem makeDirectories_of_isDirectoryAt {above : List String}
    (h : path = "" ∨ t.isDirectoryAt path = true) : t.makeDirectories (path :: above) = (t, .ok ()) := by
  rw [makeDirectories]
  rcases h with h | h
  · rw [if_pos h]
  · split
    · rfl
    · rw [makeDirectory_of_isDirectoryAt h]

end Tree

/-- The directory that a file lies in is there, as far as its path names one. -/
def ParentReady (t : Tree) (file : String) : Prop :=
  ∀ dir, parent? file = some dir → dir = "" ∨ t.isDirectoryAt dir = true

variable {t t' : Tree} {file : String}

theorem ParentReady.mono (h : ParentReady t file) (hs : t.DirectoriesStay t') : ParentReady t' file :=
  fun dir hdir => (h dir hdir).imp_right hs.isDirectoryAt

theorem parentReady_of_ensureParentDir (h : (ensureParentDir t file).result = .ok ()) :
    ParentReady (ensureParentDir t file).tree file := by
  intro dir hdir
  by_cases he : dir = ""
  · exact .inl he
  -- the two branches of `ensureParentDir` that do nothing are out now
  unfold ensureParentDir at h ⊢
  rw [hdir] at h ⊢
  have hnone : some dir ≠ some "" := fun e => he (by cases e; rfl)
  simp only at h ⊢
  cases hm : t.makeDirectories (ancestors dir) with
  | mk t' r =>
    cases r with
    | error e => simp [hm] at h
    | ok u =>
      simp only
      exact Tree.isDirectoryAt_of_makeDirectories hm

/-- The parent of a file whose directory is there needs no preparation. -/
theorem ensureParentDir_of_ready (h : ParentReady t file) :
    (ensureParentDir t file).tree = t ∧ (ensureParentDir t file).result = .ok () := by
  unfold ensureParentDir
  split
  · exact ⟨rfl, rfl⟩
  · exact ⟨rfl, rfl⟩
  · rename_i dir hne hdir
    rw [ancestors, Tree.makeDirectories_of_isDirectoryAt (h dir hdir)]
    exact ⟨rfl, rfl⟩

end Roster.Files
