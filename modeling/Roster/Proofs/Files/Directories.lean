import Mathlib.Data.List.Induction
import Roster.Proofs.Files.Path
import Roster.Proofs.Files.Tree

/-!
# Directories that are made

To prepare the directory of a file, the directories on its way are tried from the last one up to the first that
can be made, and then made down again. Which error stands in the way is told by the tree alone: a place below a
missing one is not found, and one below a file is in no directory. So the work is undertaken only where no file
is on the way, and then it comes to its end; otherwise nothing is touched.
-/

namespace Roster.Files

namespace Place

variable {p q : Place} {name : String}

/-- The place is on the way to another one. -/
def Above (q p : Place) : Prop := q <+: p ∧ q ≠ p

instance : Decidable (q.Above p) := inferInstanceAs (Decidable (_ ∧ _))

theorem not_beyond (p : Place) (name : String) : ¬ p ++ [name] <+: p := fun h => by
  have := h.length_le
  rw [List.length_append, List.length_singleton] at this
  omega

theorem above_concat : q.Above (p ++ [name]) ↔ q <+: p := by
  unfold Above
  rw [List.prefix_concat_iff]
  constructor
  · rintro ⟨rfl | h, hne⟩
    · exact absurd rfl hne
    · exact h
  · intro h
    refine ⟨.inr h, ?_⟩
    rintro rfl
    exact not_beyond p name h

/-- A place that plain names lead to, none of which is a step to the same place or up. -/
def Plain (p : Place) : Prop := ∀ name ∈ p, name ≠ "." ∧ name ≠ ".." ∧ byteLength name ≤ Tree.nameLimit

theorem plain_concat : Plain (p ++ [name]) ↔
    p.Plain ∧ name ≠ "." ∧ name ≠ ".." ∧ byteLength name ≤ Tree.nameLimit := by
  simp only [Plain, List.forall_mem_append, List.forall_mem_singleton]

end Place

theorem Ordinary.plain {path : String} (h : Ordinary path) : Place.Plain (parts path) := fun name hname =>
  ⟨(h.names name hname).1, (h.names name hname).2, h.short name hname⟩

theorem Ordinary.start {path : String} (h : Ordinary path) : Tree.start path = [] := by
  rw [Tree.start, h.relative]
  rfl

namespace Tree

variable {t t' : Tree} {p q : Place} {name path : String}

/-- What is on the way to a place, and at the place itself, is a directory as far as it is there. -/
def Clear (t : Tree) (p : Place) : Prop := ∀ q, q <+: p → ∀ n, t.node? q = some n → n = .directory

/-- Directories come to the missing ones of some places, and nothing else changes. -/
structure Completes (t t' : Tree) (places : Place → Prop) : Prop where
  made (p : Place) (hp : places p) (hnone : t.node? p = none) : t'.node? p = some .directory
  kept (p : Place) (hp : ¬ (places p ∧ t.node? p = none)) : t'.nodes.find? p = t.nodes.find? p

theorem clear_concat : t.Clear (p ++ [name]) ↔ t.Clear p ∧ ∀ n, t.node? (p ++ [name]) = some n → n = .directory := by
  simp only [Clear, List.prefix_concat_iff]
  constructor
  · exact fun h => ⟨fun q hq => h q (.inr hq), h _ (.inl rfl)⟩
  · rintro ⟨h, hlast⟩ q (rfl | hq)
    · exact hlast
    · exact h q hq

theorem Clear.below (h : t.Clear p) (hnone : t.node? (p ++ [name]) = none) : t.Clear (p ++ [name]) :=
  clear_concat.2 ⟨h, by simp [hnone]⟩

theorem not_clear_of_file {c : Content} (h : t.node? p = some (.file c)) : ¬ t.Clear p := fun hclear => by
  cases hclear p List.prefix_rfl _ h

theorem node?_nil (t : Tree) : t.node? [] = some .directory := rfl

theorem directory_above (hp : t.node? p = some .directory) (hq : q <+: p) : t.node? q = some .directory := by
  induction p using List.reverseRecOn with
  | nil =>
    rw [List.prefix_nil.1 hq]
    exact hp
  | append_singleton p name ih =>
    rcases List.prefix_concat_iff.1 hq with rfl | hq
    · exact hp
    · exact ih (directory_of_node? hp) hq

theorem clear_of_directory (hp : t.node? p = some .directory) : t.Clear p := by
  intro q hq n hn
  rw [directory_above hp hq] at hn
  cases hn
  rfl

theorem none_below (hp : t.node? p ≠ some .directory) (name : String) : t.node? (p ++ [name]) = none :=
  Option.eq_none_iff_forall_ne_some.2 fun _ hn => hp (directory_of_node? hn)

namespace Completes

variable {places : Place → Prop}

theorem there (hp : t.node? p = some .directory) : t.Completes t (· <+: p) where
  made q hq hnone := by
    rw [directory_above hp hq] at hnone
    cases hnone
  kept _ _ := rfl

theorem node?_kept (h : t.Completes t' places) (hq : ¬ (places q ∧ t.node? q = none)) : t'.node? q = t.node? q := by
  rw [node?, node?, h.kept q hq]

/-- One directory more, below those that were there or were made. -/
theorem put (h : t.Completes t' (· <+: p)) (hp : t'.node? p = some .directory)
    (hnone : t.node? (p ++ [name]) = none) :
    t.Completes (t'.put (p ++ [name]) .directory) (· <+: p ++ [name]) where
  made q hq hq' := by
    rw [node?_put (takes_directory hp name)]
    split
    · rfl
    · rename_i hne
      rcases List.prefix_concat_iff.1 hq with rfl | hq
      · -- the new place is no anchor, as nothing was there
        refine absurd ⟨rfl, ?_⟩ hne
        by_contra ha
        rw [node?, if_pos (by simpa using ha)] at hnone
        cases hnone
      · exact h.made q hq hq'
  kept q hq := by
    have hne : q ≠ p ++ [name] := by
      rintro rfl
      exact hq ⟨List.prefix_rfl, hnone⟩
    have hkept := h.kept q fun hq' => hq ⟨List.prefix_concat_iff.2 (.inr hq'.1), hq'.2⟩
    rw [find?_put_of_ne hne, hkept]

end Completes

/-! ## Ways -/

theorem walk_append (t : Tree) (p : Place) (before after : List String) :
    t.walk p (before ++ after) = (t.walk p before >>= fun q => t.walk q after) := by
  induction before generalizing p with
  | nil => rfl
  | cons part before ih =>
    rw [List.cons_append, walk, walk]
    cases t.enter p with
    | error e => rfl
    | ok u =>
      simp only
      split
      · rfl
      · exact ih _

/-- Goes to a place and into the directory there. -/
def approach (t : Tree) (p : Place) : Except OsError Place := do
  let q ← t.walk [] p
  t.enter q
  return q

theorem approach_concat (t : Tree) (hp : Place.Plain (p ++ [name])) :
    t.approach (p ++ [name]) = do
      let q ← t.approach p
      t.enter (q ++ [name])
      return q ++ [name] := by
  obtain ⟨-, hdot, hup, hshort⟩ := Place.plain_concat.1 hp
  rw [approach, approach, walk_append]
  cases t.walk [] p with
  | error e => rfl
  | ok q =>
    simp only [bind, Except.bind, walk]
    cases t.enter q with
    | error e => rfl
    | ok u => simp [Nat.not_lt.2 hshort, Place.step, hdot, hup, pure, Except.pure]

/-- How the way into the directory of a place ends. -/
inductive Way (t : Tree) (p : Place) : Except OsError Place → Prop where
  | there (hp : t.node? p = some .directory) : Way t p (.ok p)
  | missing (hp : t.node? p = none) (hclear : t.Clear p) : Way t p (.error .notFound)
  | blocked (hclear : ¬ t.Clear p) : Way t p (.error .notDirectory)

theorem way (t : Tree) (hp : p.Plain) : Way t p (t.approach p) := by
  induction p using List.reverseRecOn with
  | nil => exact .there t.node?_nil
  | append_singleton p name ih =>
    rw [approach_concat t hp]
    have hway := ih (Place.plain_concat.1 hp).1
    generalize t.approach p = o at hway
    cases hway with
    | there hdir =>
      simp only [bind, Except.bind, enter]
      cases hnode : t.node? (p ++ [name]) with
      | none => exact .missing hnode ((clear_of_directory hdir).below hnode)
      | some n =>
        cases n with
        | directory => exact .there hnode
        | file c => exact .blocked (not_clear_of_file hnode)
    | missing hnone hclear =>
      have hbelow : t.node? (p ++ [name]) = none := none_below (by simp [hnone]) name
      exact .missing hbelow (hclear.below hbelow)
    | blocked hclear => exact .blocked fun h => hclear (clear_concat.1 h).1

theorem approach_ok (hp : p.Plain) :
    t.approach p = .ok q ↔ q = p ∧ t.node? p = some .directory := by
  have hway := t.way hp
  generalize t.approach p = o at hway
  cases hway with
  | there hdir => simp [hdir, eq_comm]
  | missing hnone => simp [hnone]
  | blocked hclear => simpa using fun _ hdir => hclear (clear_of_directory hdir)

/-! ## Ordinary paths -/

theorem checkPath_ordinary (h : Ordinary path) (hne : path ≠ "") : checkPath path = .ok () := by
  rw [checkPath, h.noNul, if_neg Bool.false_ne_true, if_neg hne, if_neg (Nat.not_lt.2 h.fits)]

theorem isDirectoryAt_ordinary (t : Tree) (h : Ordinary path) (hne : path ≠ "") :
    t.isDirectoryAt path = true ↔ t.node? (parts path) = some .directory := by
  have happroach (q : Place) : t.approach (parts path) = .ok q ↔
      t.walk [] (parts path) = .ok q ∧ t.node? q = some .directory := by
    rw [← enter_ok, approach]
    cases t.walk [] (parts path) with
    | error e => simp [bind, Except.bind]
    | ok q' =>
      simp only [bind, Except.bind, Except.ok.injEq]
      by_cases hq : q' = q
      · subst hq
        cases t.enter q' <;> simp [pure, Except.pure]
      · cases t.enter q' <;> simp [pure, Except.pure, hq]
  rw [isDirectoryAt_iff]
  simp only [locate_ok, checkPath_ordinary h hne, h.start, true_and, ← happroach, approach_ok h.plain]
  simp

/-- The attempt to make a directory goes into the one above it first. -/
theorem makeDirectory_ordinary (t : Tree) (h : Ordinary path) (hparts : parts path = p ++ [name]) :
    t.makeDirectory path = (t.approach p >>= fun q =>
      if (t.node? (q ++ [name])).isSome then .error .exists else .ok (t.put (q ++ [name]) .directory)) := by
  have hne : path ≠ "" := by
    rintro rfl
    cases p <;> cases hparts
  obtain ⟨-, hdot, hup, hshort⟩ := Place.plain_concat.1 (hparts ▸ h.plain)
  rw [makeDirectory, checkPath_ordinary h hne, hparts, h.start, approach]
  simp only [bind, Except.bind, List.getLast?_concat, List.dropLast_concat]
  cases t.walk [] p with
  | error e => rfl
  | ok q =>
    simp only
    cases t.enter q with
    | error e => rfl
    | ok u => simp [hdot, hup, Nat.not_lt.2 hshort, Place.step, pure, Except.pure]

/-- How the attempt to make a directory ends. -/
inductive Attempt (t : Tree) (p : Place) (name : String) : Except OsError Tree → Prop where
  | made (hp : t.node? p = some .directory) (hnone : t.node? (p ++ [name]) = none) :
      Attempt t p name (.ok (t.put (p ++ [name]) .directory))
  | occupied (hp : t.node? p = some .directory) {n : Node} (hn : t.node? (p ++ [name]) = some n) :
      Attempt t p name (.error .exists)
  | missing (hp : t.node? p = none) (hclear : t.Clear p) : Attempt t p name (.error .notFound)
  | blocked (hclear : ¬ t.Clear p) : Attempt t p name (.error .notDirectory)

theorem attempt (t : Tree) (h : Ordinary path) (hparts : parts path = p ++ [name]) :
    Attempt t p name (t.makeDirectory path) := by
  rw [makeDirectory_ordinary t h hparts]
  have hway := t.way (Place.plain_concat.1 (hparts ▸ h.plain)).1
  generalize t.approach p = o at hway
  cases hway with
  | there hp =>
    simp only [bind, Except.bind]
    cases hnode : t.node? (p ++ [name]) with
    | none => exact .made hp hnode
    | some n => exact .occupied hp hnode
  | missing hp hclear => exact .missing hp hclear
  | blocked hclear => exact .blocked hclear

/-- Once the directories above are made, the attempt succeeds. -/
theorem makeDirectory_completed (h : Ordinary path) (hparts : parts path = p ++ [name])
    (hp : t.node? p = none) (hnew : t.Completes t' (· <+: p)) :
    t'.makeDirectory path = .ok (t'.put (p ++ [name]) .directory) := by
  have hp' : t'.node? p = some .directory := hnew.made p List.prefix_rfl hp
  have hnone : t'.node? (p ++ [name]) = none := by
    rw [hnew.node?_kept fun hq => Place.not_beyond p name hq.1]
    exact none_below (by simp [hp]) name
  have hattempt := t'.attempt h hparts
  generalize t'.makeDirectory path = o at hattempt
  cases hattempt with
  | made => rfl
  | occupied _ hn => simp [hnone] at hn
  | missing hmissing => simp [hp'] at hmissing
  | blocked hblocked => exact absurd (clear_of_directory hp') hblocked

/-! ## All that are missing -/

/-- Why no directory can be at a place: there is a file, or further up. -/
def obstacle (t : Tree) (p : Place) : OsError := if (t.node? p).isSome then .exists else .notDirectory

/-- What comes of the attempt to make directories up to a place: all that are missing, or none. -/
inductive Making (t : Tree) (p : Place) : Tree × Except OsError Unit → Prop where
  | done {t' : Tree} (hclear : t.Clear p) (h : t.Completes t' (· <+: p)) : Making t p (t', .ok ())
  | refused (hclear : ¬ t.Clear p) : Making t p (t, .error (t.obstacle p))

/-- Where all directories are there, none is made. -/
theorem Making.there (hp : t.node? p = some .directory) : Making t p (t, .ok ()) :=
  .done (clear_of_directory hp) (.there hp)

/-- The directories are tried from the last one up, and made from the first missing one down. -/
theorem making (t : Tree) (h : Ordinary path) {fuel : Nat} (hfuel : path.toList.length ≤ fuel) :
    Making t (parts path) (t.makeDirectories (path :: parents fuel path)) := by
  induction fuel generalizing path with
  | zero =>
    have : path = "" := String.toList_inj.1 (List.length_eq_zero_iff.1 (Nat.le_zero.1 hfuel))
    rw [this]
    exact .there t.node?_nil
  | succ fuel ih =>
    by_cases hne : path = ""
    · rw [hne, makeDirectories, if_pos rfl]
      exact .there t.node?_nil
    rcases h.parent?_cases with ⟨hnil, -⟩ | ⟨dir, name, hparts, hdir, hordinary, hlength⟩
    · exact absurd (h.eq_empty hnil) hne
    have hplace := t.isDirectoryAt_ordinary h hne
    have hno (hclear : ¬ t.Clear (parts path)) : t.isDirectoryAt path = false :=
      Bool.eq_false_iff.2 fun hd => hclear (clear_of_directory (hplace.1 hd))
    have hattempt := t.attempt h hparts
    rw [makeDirectories, if_neg hne, parents, hdir]
    generalize t.makeDirectory path = o at hattempt
    rw [hparts] at hplace hno ⊢
    cases hattempt with
    | made hp hnone => exact .done ((clear_of_directory hp).below hnone) ((Completes.there hp).put hp hnone)
    | @occupied hp n hn =>
      cases n with
      | directory =>
        simp only [hplace.2 hn, if_true]
        exact .there hn
      | file c =>
        have hclear := not_clear_of_file hn
        have hobstacle : t.obstacle (parts dir ++ [name]) = .exists := by rw [obstacle, hn]; rfl
        simp only [hno hclear, Bool.false_eq_true, if_false, ← hobstacle]
        exact .refused hclear
    | missing hp hclear =>
      have hmaking := ih hordinary (by omega)
      simp only
      generalize t.makeDirectories (dir :: parents fuel dir) = o at hmaking
      cases hmaking with
      | refused hc => exact absurd hclear hc
      | done _ hnew =>
        have hnone : t.node? (parts dir ++ [name]) = none := none_below (by simp [hp]) name
        simp only [makeDirectory_completed h hparts hp hnew]
        exact .done (hclear.below hnone) (hnew.put (hnew.made _ List.prefix_rfl hp) hnone)
    | blocked hclear =>
      have hc : ¬ t.Clear (parts dir ++ [name]) := fun hc => hclear (clear_concat.1 hc).1
      have hnone := none_below (fun hp => hclear (clear_of_directory hp)) name
      have hobstacle : t.obstacle (parts dir ++ [name]) = .notDirectory := by rw [obstacle, hnone]; rfl
      simp only [hno hc, Bool.false_eq_true, if_false, ← hobstacle]
      exact .refused hc

end Tree

/-! ## The directory of a file -/

variable {t : Tree} {path dir : String}

/-- To prepare the directory of a file is to make the directories up to there. -/
theorem ensureParentDir_eq (hdir : parent? path = some dir) :
    (ensureParentDir t path).tree = (t.makeDirectories (ancestors dir)).1 ∧
      (ensureParentDir t path).result =
        (t.makeDirectories (ancestors dir)).2.mapError fun e => "cannot create " ++ dir ++ ": " ++ e.message := by
  unfold ensureParentDir
  rw [hdir]
  by_cases hne : dir = ""
  · rw [hne, ancestors, Tree.makeDirectories, if_pos rfl]
    exact ⟨rfl, rfl⟩
  · have hsome : some dir ≠ some "" := fun e => hne (Option.some.inj e)
    simp only
    generalize t.makeDirectories (ancestors dir) = o
    obtain ⟨t', r⟩ := o
    cases r <;> exact ⟨rfl, rfl⟩

/-- What is on the way to a file is a directory, as far as it is there. -/
def ClearAbove (t : Tree) (p : Place) : Prop := ∀ q : Place, q.Above p → ∀ n, t.node? q = some n → n = .directory

/-- What becomes of a tree in which the directory of a file is prepared. -/
inductive Preparing (t : Tree) (path : String) (o : Prepared) : Prop where
  | done (hclear : ClearAbove t (parts path)) (hresult : o.result = .ok ())
      (h : t.Completes o.tree (·.Above (parts path)))
  | refused (hclear : ¬ ClearAbove t (parts path)) (htree : o.tree = t) {dir : String} (hdir : parent? path = some dir)
      (hresult : o.result = .error ("cannot create " ++ dir ++ ": " ++ (t.obstacle (parts dir)).message))

theorem preparing (t : Tree) (h : Ordinary path) : Preparing t path (ensureParentDir t path) := by
  rcases h.parent?_cases with ⟨hnil, hnone⟩ | ⟨dir, name, hparts, hdir, hordinary, -⟩
  · have hno (q : Place) : ¬ q.Above (parts path) := by
      rw [hnil]
      exact fun hq => hq.2 (List.prefix_nil.1 hq.1)
    have hsame : ensureParentDir t path = ⟨t, [], .ok ()⟩ := by rw [ensureParentDir, hnone]
    rw [hsame]
    exact .done (fun q hq => absurd hq (hno q)) rfl ⟨fun q hq => absurd hq (hno q), fun _ _ => rfl⟩
  · have habove : (fun q : Place => q.Above (parts path)) = (· <+: parts dir) := by
      funext q
      rw [hparts, Place.above_concat]
    have hclear : ClearAbove t (parts path) ↔ t.Clear (parts dir) := by
      simp only [ClearAbove, Tree.Clear, hparts, Place.above_concat]
    obtain ⟨htree, hresult⟩ := ensureParentDir_eq (t := t) hdir
    have hmaking := Tree.making t hordinary (Nat.le_of_eq String.length_toList)
    rw [ancestors] at htree hresult
    generalize t.makeDirectories (dir :: parents dir.length dir) = o at hmaking htree hresult
    cases hmaking with
    | done hc hnew =>
      refine .done (hclear.2 hc) hresult ?_
      rw [htree, habove]
      exact hnew
    | refused hc => exact .refused (mt hclear.1 hc) htree hdir hresult

/-- In every tree, whatever file is to be put at an ordinary path: its directory can be prepared exactly if nothing
but directories is on the way. Then the tree gets a directory at every missing place on the way, and nothing else
in it changes, so nothing comes to the place of the file itself; to prepare it again changes nothing. Otherwise
the tree stays as it is, and the error tells whether a file is in the place of the directory or further up. -/
theorem ensureParentDir_completes (t : Tree) (h : Ordinary path) :
    let o := ensureParentDir t path
    (o.result = .ok () ↔ ∀ q : Place, q.Above (parts path) → ∀ n, t.node? q = some n → n = .directory) ∧
      (o.result = .ok () → t.Completes o.tree (·.Above (parts path)) ∧
        (ensureParentDir o.tree path).tree = o.tree ∧ (ensureParentDir o.tree path).result = .ok ()) ∧
      (o.result ≠ .ok () → o.tree = t ∧ ∃ dir, parent? path = some dir ∧
        o.result = .error ("cannot create " ++ dir ++ ": " ++ (t.obstacle (parts dir)).message)) := by
  intro o
  have hagain (hresult : o.result = .ok ()) :
      (ensureParentDir o.tree path).tree = o.tree ∧ (ensureParentDir o.tree path).result = .ok () :=
    ensureParentDir_of_ready (parentReady_of_ensureParentDir hresult)
  cases preparing t h with
  | done hclear hresult hnew =>
    exact ⟨⟨fun _ => hclear, fun _ => hresult⟩, fun _ => ⟨hnew, hagain hresult⟩, fun hne => absurd hresult hne⟩
  | refused hclear htree hdir hresult =>
    have hne : o.result ≠ .ok () := fun hok => by
      rw [hok] at hresult
      cases hresult
    exact ⟨⟨fun hok => absurd hok hne, fun hc => absurd hc hclear⟩, fun hok => absurd hok hne,
      fun _ => ⟨htree, _, hdir, hresult⟩⟩

/-- A directory that is there, two that are missing, and a file that is in the way of another one. -/
theorem ensureParentDir_completes_of_nested :
    let t : Tree := (Tree.empty.put ["a"] .directory).put ["f"] (.file (.bytes []))
    let o := ensureParentDir t "a//b/c/store.redb"
    let refused := ensureParentDir t "f/b/store.redb"
    o.result = .ok () ∧ o.tree.node? ["a", "b"] = some .directory ∧ o.tree.node? ["a", "b", "c"] = some .directory ∧
      o.tree.node? ["a", "b", "c", "store.redb"] = none ∧ (ensureParentDir o.tree "a//b/c/store.redb").tree = o.tree ∧
      refused.tree = t ∧ refused.result = .error "cannot create f/b: Not a directory (os error 20)" := by
  intro t o refused
  have h : Ordinary "a//b/c/store.redb" := ⟨by decide, by decide, by decide, by decide, by decide⟩
  have h' : Ordinary "f/b/store.redb" := ⟨by decide, by decide, by decide, by decide, by decide⟩
  obtain ⟨-, hdone, -⟩ := ensureParentDir_completes t h
  obtain ⟨hnew, hagain, -⟩ := hdone rfl
  obtain ⟨-, -, hrefused⟩ := ensureParentDir_completes t h'
  obtain ⟨htree, dir, hdir, hresult⟩ := hrefused nofun
  have hparts : parts "a//b/c/store.redb" = ["a", "b", "c", "store.redb"] := by decide
  refine ⟨rfl, hnew.made _ ?_ rfl, hnew.made _ ?_ rfl, ?_, hagain, htree, ?_⟩
  · rw [hparts]
    decide
  · rw [hparts]
    decide
  · exact hnew.node?_kept fun hq => hq.1.2 (by decide)
  · have hname : parent? "f/b/store.redb" = some "f/b" := by decide
    rw [hname, Option.some.injEq] at hdir
    subst hdir
    exact hresult

end Roster.Files
