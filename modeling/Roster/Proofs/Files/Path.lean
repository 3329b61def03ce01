import Mathlib.Data.List.TakeWhile
import Roster.Files.Tree

/-!
# Paths and their parts

A path is read twice: from its front into parts, along which the system walks, and from its end, where the path
that it lies in is found by cutting. The two readings agree: the parent of a path has the parts of the path
without the last one. Repeated slashes and slashes at the end are passed over in both.
-/

namespace Roster.Files

variable {cur l r : List Char} {name path dir : String}

/-! ## Parts -/

theorem partsOf_append_slash (cur a b : List Char) :
    partsOf cur (a ++ '/' :: b) = partsOf cur a ++ partsOf [] b := by
  induction a generalizing cur with
  | nil =>
    simp only [List.nil_append, partsOf, if_true]
    split <;> rfl
  | cons c a ih =>
    rw [List.cons_append, partsOf, partsOf]
    split
    · split
      · exact ih []
      · rw [ih, List.cons_append]
    · exact ih (c :: cur)

theorem partsOf_of_no_slash (h : '/' ∉ l) (cur : List Char) :
    partsOf cur l = if cur.reverse ++ l = [] then [] else [String.ofList (cur.reverse ++ l)] := by
  induction l generalizing cur with
  | nil => simp [partsOf]
  | cons c l ih =>
    obtain ⟨hc, hl⟩ := not_or.1 (mt List.mem_cons.2 h)
    rw [partsOf, if_neg (Ne.symm hc), ih hl]
    simp

theorem partsOf_ne_nil (hcur : cur ≠ []) (l : List Char) : partsOf cur l ≠ [] := by
  induction l generalizing cur with
  | nil => simp [partsOf, hcur]
  | cons c l ih =>
    rw [partsOf]
    split
    · simp [hcur]
    · exact ih (List.cons_ne_nil c cur)

/-! ## From the end -/

/-- The parts of a path that is given from its end. -/
def partsBack (reversed : List Char) : List String := partsOf [] reversed.reverse

theorem no_slash_lastPart (r : List Char) : '/' ∉ lastPart r := fun h => by
  simpa using List.mem_takeWhile_imp h

/-- The last part is cut off together with the slash before it, if there is one. -/
theorem cut_cases (r : List Char) :
    r = lastPart r ++ '/' :: withoutLast r ∨ r = lastPart r ∧ withoutLast r = [] := by
  have hcut : lastPart r ++ r.dropWhile (· != '/') = r := List.takeWhile_append_dropWhile
  unfold withoutLast
  cases hrest : r.dropWhile (· != '/') with
  | nil =>
    rw [hrest, List.append_nil] at hcut
    exact .inr ⟨hcut.symm, rfl⟩
  | cons c rest =>
    have hc : c = '/' := by
      have := List.head?_dropWhile_not (· != '/') r
      simpa [hrest] using this
    rw [hrest, hc] at hcut
    exact .inl hcut.symm

theorem withoutLast_suffix (r : List Char) : withoutLast r <:+ r :=
  (List.drop_suffix ..).trans (List.dropWhile_suffix _)

theorem length_withoutLast (h : r ≠ []) : (withoutLast r).length < r.length := by
  rcases cut_cases r with hr | ⟨-, hr⟩
  · rw [congrArg List.length hr, List.length_append, List.length_cons]
    omega
  · rw [hr]
    exact List.length_pos_iff.2 h

theorem partsBack_cut (r : List Char) :
    partsBack r = partsBack (withoutLast r) ++
      if lastPart r = [] then [] else [String.ofList (lastPart r).reverse] := by
  have hlast : partsOf [] (lastPart r).reverse =
      if lastPart r = [] then [] else [String.ofList (lastPart r).reverse] := by
    rw [partsOf_of_no_slash (by simpa using no_slash_lastPart r)]
    simp
  rcases cut_cases r with hr | ⟨hr, hnil⟩
  · rw [partsBack, congrArg List.reverse hr, List.reverse_append, List.reverse_cons, List.append_assoc,
      List.singleton_append, partsOf_append_slash, hlast]
    rfl
  · rw [hnil, partsBack, congrArg List.reverse hr, hlast]
    rfl

/-- Without dots, only slashes are trimmed: no part is lost, and what is left ends with one. -/
theorem trimParts_spec {fuel : Nat} (hdot : "." ∉ partsBack r) (hfuel : r.length ≤ fuel) :
    partsBack (trimParts fuel r) = partsBack r ∧ trimParts fuel r <:+ r ∧
      (trimParts fuel r ≠ [] → lastPart (trimParts fuel r) ≠ []) := by
  induction fuel generalizing r with
  | zero =>
    rw [List.length_eq_zero_iff.1 (Nat.le_zero.1 hfuel)]
    exact ⟨rfl, List.suffix_rfl, fun h => absurd rfl h⟩
  | succ fuel ih =>
    have hcut := partsBack_cut r
    rw [trimParts]
    split
    · rename_i h
      rcases h with h | h
      · rw [if_pos h, List.append_nil] at hcut
        have hshort : (withoutLast r).length ≤ fuel := by
          by_cases hr : r = []
          · rw [hr]
            exact Nat.zero_le _
          · have := length_withoutLast hr
            omega
        obtain ⟨hparts, hsuffix, hlast⟩ := ih (hcut ▸ hdot) hshort
        exact ⟨hparts.trans hcut.symm, hsuffix.trans (withoutLast_suffix r), hlast⟩
      · refine absurd ?_ hdot
        rw [hcut, if_neg (by simp [h]), h]
        exact List.mem_append_right _ (List.mem_singleton.2 rfl)
    · rename_i h
      exact ⟨rfl, List.suffix_rfl, fun _ => (not_or.1 h).1⟩

/-- What a path without dots lies in, given from its end: the path without its last part and the slashes around
it. -/
theorem partsBack_above {fuel : Nat} (hdot : "." ∉ partsBack r) (hfuel : r.length ≤ fuel)
    (hbody : trimParts fuel r ≠ []) :
    let above := trimParts fuel (withoutLast (trimParts fuel r))
    (∃ name, partsBack r = partsBack above ++ [name]) ∧ above <:+ r ∧ above.length < r.length := by
  intro above
  obtain ⟨hparts, hsuffix, hlast⟩ := trimParts_spec hdot hfuel
  have hcut := partsBack_cut (trimParts fuel r)
  rw [if_neg (hlast hbody), hparts] at hcut
  have hshort := Nat.lt_of_lt_of_le (length_withoutLast hbody) hsuffix.length_le
  obtain ⟨haboveParts, haboveSuffix, -⟩ :=
    trimParts_spec (fun hm => hdot (hcut ▸ List.mem_append_left _ hm)) (Nat.le_trans (Nat.le_of_lt hshort) hfuel)
  rw [← haboveParts] at hcut
  exact ⟨⟨_, hcut⟩, (haboveSuffix.trans (withoutLast_suffix _)).trans hsuffix,
    Nat.lt_of_le_of_lt haboveSuffix.length_le hshort⟩

/-! ## Paths without dots -/

/-- A relative path of ordinary names, as the system accepts it: without steps to the same place or up, and
nowhere too long. -/
structure Ordinary (path : String) : Prop where
  relative : isAbsolute path = false
  names : ∀ name ∈ parts path, name ≠ "." ∧ name ≠ ".."
  short : ∀ name ∈ parts path, byteLength name ≤ Tree.nameLimit
  noNul : hasNul path = false
  fits : byteLength path ≤ Tree.pathLimit

namespace Ordinary

theorem no_dot (h : Ordinary path) : "." ∉ parts path := fun hm => (h.names _ hm).1 rfl

theorem pathHead_eq_nil (h : Ordinary path) : pathHead path.toList = [] := by
  have hrelative := h.relative
  have hdot := h.no_dot
  unfold isAbsolute at hrelative
  unfold parts at hdot
  unfold pathHead
  split
  · rename_i heq
    rw [heq] at hrelative
    cases hrelative
  · rename_i heq
    rw [heq] at hdot
    exact absurd (by decide) hdot
  · rename_i heq
    rw [heq] at hdot
    exact absurd (by simp [partsOf]) hdot
  · rfl

theorem eq_empty (h : Ordinary path) (hparts : parts path = []) : path = "" := by
  refine String.toList_inj.1 ?_
  have hrelative := h.relative
  unfold parts at hparts
  unfold isAbsolute at hrelative
  cases hl : path.toList with
  | nil => rfl
  | cons c l =>
    rw [hl] at hparts hrelative
    have hc : c ≠ '/' := by simpa using hrelative
    rw [partsOf, if_neg hc] at hparts
    exact absurd hparts (partsOf_ne_nil (List.cons_ne_nil c []) l)

/-- What is cut off an ordinary path at its end leaves one. -/
theorem of_front (h : Ordinary path) (hfront : dir.toList <+: path.toList)
    (hparts : ∀ name ∈ parts dir, name ∈ parts path) : Ordinary dir := by
  obtain ⟨rest, hrest⟩ := hfront
  have hpath : path = dir ++ String.ofList rest := by
    refine String.toList_inj.1 ?_
    rw [String.toList_append, String.toList_ofList, hrest]
  refine ⟨?_, fun name hname => h.names name (hparts name hname),
    fun name hname => h.short name (hparts name hname), ?_, ?_⟩
  · have hrelative := h.relative
    unfold isAbsolute at hrelative ⊢
    rw [← hrest] at hrelative
    cases hl : dir.toList with
    | nil => rfl
    | cons c l => rwa [hl] at hrelative
  · have hnul := h.noNul
    unfold hasNul at hnul ⊢
    rw [← hrest, List.any_append, Bool.or_eq_false_iff] at hnul
    exact hnul.1
  · have hfits := h.fits
    rw [hpath, byteLength, String.utf8ByteSize_append] at hfits
    exact Nat.le_trans (Nat.le_add_right ..) hfits

/-- A path of no parts lies in none. Any other has the parts of the path that it lies in, and one name more. -/
theorem parent?_cases (h : Ordinary path) :
    parts path = [] ∧ parent? path = none ∨
      ∃ dir name, parts path = parts dir ++ [name] ∧ parent? path = some dir ∧ Ordinary dir ∧
        dir.toList.length < path.toList.length := by
  have hback : partsBack path.toList.reverse = parts path := by rw [partsBack, List.reverse_reverse, parts]
  have hlength : path.toList.reverse.length ≤ path.toList.length := Nat.le_of_eq (List.length_reverse ..)
  have hdot : "." ∉ partsBack path.toList.reverse := by
    rw [hback]
    exact h.no_dot
  unfold parent?
  simp only [h.pathHead_eq_nil, List.length_nil, List.drop_zero, List.nil_append]
  by_cases hbody : trimParts path.toList.length path.toList.reverse = []
  · have hparts := (trimParts_spec hdot hlength).1
    rw [hbody, hback] at hparts
    exact .inl ⟨hparts.symm, by simp [hbody]⟩
  · obtain ⟨⟨name, hname⟩, hsuffix, hshort⟩ := partsBack_above hdot hlength hbody
    generalize trimParts path.toList.length (withoutLast _) = above at hname hsuffix hshort
    have hparts : parts path = parts (String.ofList above.reverse) ++ [name] := by
      rw [← hback, hname, parts, String.toList_ofList, partsBack]
    have hfront : (String.ofList above.reverse).toList <+: path.toList := by
      rw [String.toList_ofList, ← List.reverse_suffix, List.reverse_reverse]
      exact hsuffix
    refine .inr ⟨_, name, hparts, by simp [hbody], h.of_front hfront fun name' hm => ?_, ?_⟩
    · rw [hparts]
      exact List.mem_append_left _ hm
    · rw [String.toList_ofList, List.length_reverse]
      exact Nat.lt_of_lt_of_le hshort hlength

end Ordinary

end Roster.Files
