import Mathlib.Data.List.Nodup
import Roster.Toml.Reader

/-!
# Keys of a TOML document

A document that can be read has no key twice in any table, however its lines with headers, keys with dots
and braces put the table together, and all its integers fit 64 bits. Each way to add to a table keeps this,
and so does the reader, line by line.
-/

namespace Roster.Toml

mutual

/-- The tables within an item have no key twice, and its integers fit. -/
inductive Item.Proper : Item → Prop
  | text (s : String) : Item.Proper (.text s)
  | integer {n : Int} (h : fits n = true) : Item.Proper (.integer n)
  | real : Item.Proper .real
  | boolean (b : Bool) : Item.Proper (.boolean b)
  | moment : Item.Proper .moment
  | list {l : List Item} (h : ∀ item ∈ l, Item.Proper item) : Item.Proper (.list l)
  | inline {dotted : Bool} {es : Entries} (h : Entries.Proper es) : Item.Proper (.inline dotted es)
  | table {origin : Origin} {es : Entries} (h : Entries.Proper es) : Item.Proper (.table origin es)
  | tables {l : List Entries} (h : ∀ es ∈ l, Entries.Proper es) : Item.Proper (.tables l)

/-- The same of a table. -/
inductive Entries.Proper : Entries → Prop
  | intro {es : Entries} (keys : (es.map (·.1)).Nodup) (items : ∀ e ∈ es, Item.Proper e.2) : Entries.Proper es

end

namespace Entries

variable {es es' : Entries} {key : String} {item : Item}

theorem Proper.keys (h : Proper es) : (es.map (·.1)).Nodup := by
  cases h
  assumption

theorem Proper.items (h : Proper es) : ∀ e ∈ es, e.2.Proper := by
  cases h
  assumption

theorem Proper.nil : Proper [] := .intro .nil nofun

/-! ## Items under keys -/

theorem mem_of_find (h : es.find? key = some item) : (key, item) ∈ es := by
  obtain ⟨before, after, rfl, -⟩ := List.lookup_eq_some_iff.1 h
  exact List.mem_append_right _ List.mem_cons_self

theorem Proper.find (h : Proper es) (hfind : es.find? key = some item) : item.Proper :=
  h.items _ (mem_of_find hfind)

/-- Under a key stands what the table has for it, wherever. -/
theorem Proper.find_iff (h : Proper es) : es.find? key = some item ↔ (key, item) ∈ es := by
  refine ⟨mem_of_find, fun hmem => ?_⟩
  obtain ⟨before, after, rfl⟩ := List.append_of_mem hmem
  refine List.lookup_eq_some_iff.2 ⟨before, after, rfl, fun e he => ?_⟩
  have hkeys := h.keys
  rw [List.map_append, List.nodup_append] at hkeys
  simpa using (hkeys.2.2 e.1 (List.mem_map_of_mem he) key (by simp)).symm

theorem find_eq_none : es.find? key = none ↔ ∀ item, (key, item) ∉ es := by
  rw [find?, List.lookup_eq_none_iff]
  constructor
  · intro h item hmem
    simpa using h _ hmem
  · rintro h ⟨k, item⟩ hmem
    simpa using fun hk : key = k => h item (hk ▸ hmem)

/-! ## Adding and removing -/

theorem mem_set {e : String × Item} (h : e ∈ es.set key item) : e = (key, item) ∨ e ∈ es := by
  induction es with
  | nil => simpa [set] using h
  | cons x es ih =>
    rw [set] at h
    split at h
    · rcases List.mem_cons.1 h with h | h
      · exact .inl h
      · exact .inr (List.mem_cons_of_mem _ h)
    · rcases List.mem_cons.1 h with h | h
      · exact .inr (h ▸ List.mem_cons_self)
      · exact (ih h).imp_right (List.mem_cons_of_mem _)

theorem Proper.set (h : Proper es) (hitem : item.Proper) : Proper (es.set key item) := by
  refine .intro ?_ fun e he => ?_
  · have hkeys := h.keys
    clear h
    induction es with
    | nil => simp [Entries.set]
    | cons x es ih =>
      rw [List.map_cons, List.nodup_cons] at hkeys
      rw [Entries.set]
      split
      · rename_i hx
        rw [List.map_cons, List.nodup_cons]
        exact ⟨hx ▸ hkeys.1, hkeys.2⟩
      · rename_i hx
        rw [List.map_cons, List.nodup_cons]
        refine ⟨fun hmem => ?_, ih hkeys.2⟩
        obtain ⟨e, he, hfst⟩ := List.mem_map.1 hmem
        rcases mem_set he with rfl | he
        · exact hx hfst.symm
        · exact hkeys.1 (hfst ▸ List.mem_map_of_mem he)
  · rcases mem_set he with rfl | he
    · exact hitem
    · exact h.items e he

theorem Proper.remove (h : Proper es) : Proper (es.remove key) :=
  .intro (h.keys.sublist (List.filter_sublist.map _)) fun e he => h.items e (List.mem_filter.1 he).1

theorem Proper.add (h : Proper es) (hitem : item.Proper) (hadd : es.add? key item = some es') : Proper es' := by
  unfold add? at hadd
  split at hadd
  · cases hadd
  · cases hadd
    exact h.set hitem

/-! ## Tables within tables -/

/-- What a change keeps of every table it keeps where keys lead. -/
theorem Proper.within {β : Type} {P : β → Prop} {dotted : Bool}
    {change : Origin → Entries → Option (β × Entries)}
    (hchange : ∀ {origin es b es'}, Proper es → change origin es = some (b, es') → P b ∧ Proper es')
    {path : List String} {origin : Origin} {b : β} (h : Proper es)
    (hwithin : Entries.within dotted change path origin es = some (b, es')) : P b ∧ Proper es' := by
  induction path generalizing origin es es' with
  | nil => exact hchange h hwithin
  | cons key path ih =>
    rw [Entries.within] at hwithin
    split at hwithin
    · obtain ⟨⟨b', sub⟩, hsub, hwithin⟩ := Option.bind_eq_some_iff.1 hwithin
      cases hwithin
      have := ih .nil hsub
      exact ⟨this.1, h.set (.table this.2)⟩
    · rename_i origin' sub hfind
      split at hwithin
      · cases hwithin
      · obtain ⟨⟨b', sub'⟩, hsub, hwithin⟩ := Option.bind_eq_some_iff.1 hwithin
        cases hwithin
        cases h.find hfind with
        | table hproper =>
          have := ih hproper hsub
          exact ⟨this.1, h.set (.table this.2)⟩
    · rename_i l hfind
      obtain ⟨last, hlast, hwithin⟩ := Option.bind_eq_some_iff.1 hwithin
      obtain ⟨⟨b', last'⟩, hsub, hwithin⟩ := Option.bind_eq_some_iff.1 hwithin
      cases hwithin
      cases h.find hfind with
      | tables hproper =>
        have := ih (hproper last (List.mem_of_getLast? hlast)) hsub
        refine ⟨this.1, h.set (.tables fun es hes => ?_)⟩
        rcases List.mem_append.1 hes with hes | hes
        · exact hproper es (List.dropLast_subset _ hes)
        · exact List.mem_singleton.1 hes ▸ this.2
    · cases hwithin

theorem Proper.addDotted {path : List String} (h : Proper es) (hitem : item.Proper)
    (hadd : es.addDotted? path key item = some es') : Proper es' := by
  unfold addDotted? at hadd
  obtain ⟨⟨⟨⟩, after⟩, hwithin, hadd⟩ := Option.bind_eq_some_iff.1 hadd
  cases hadd
  refine (Proper.within (P := fun _ => True) (fun hsub hchange => ⟨trivial, ?_⟩) h hwithin).2
  split at hchange
  · cases hchange
  · obtain ⟨sub, hsub', hchange⟩ := Option.map_eq_some_iff.1 hchange
    cases hchange
    exact hsub.add hitem hsub'

theorem Proper.addInline {path : List String} (h : Proper es) (hitem : item.Proper)
    (hadd : es.addInline? key item path = some es') : Proper es' := by
  induction path generalizing es es' with
  | nil => exact h.add hitem hadd
  | cons k path ih =>
    rw [addInline?] at hadd
    split at hadd
    · obtain ⟨sub, hsub, hadd⟩ := Option.bind_eq_some_iff.1 hadd
      cases hadd
      exact h.set (.inline (ih .nil hsub))
    · rename_i sub hfind
      obtain ⟨sub', hsub, hadd⟩ := Option.bind_eq_some_iff.1 hadd
      cases hadd
      cases h.find hfind with
      | inline hproper => exact h.set (.inline (ih hproper hsub))
    · cases hadd

end Entries

/-! ## Line by line -/

namespace Builder

/-- The tables of a document in the making have no key twice. -/
structure Proper (b : Builder) : Prop where
  root : b.root.Proper
  current : b.current.Proper

variable {b b' : Builder} {path : List String}

theorem Proper.new : Proper .new := ⟨.nil, .nil⟩

theorem Proper.line {key : String} {item : Item} (h : b.Proper) (hitem : item.Proper)
    (hline : b.line? path key item = some b') : b'.Proper := by
  obtain ⟨current, hcurrent, hline⟩ := Option.bind_eq_some_iff.1 hline
  cases hline
  exact ⟨h.root, h.current.addDotted hitem hcurrent⟩

theorem Proper.close {es : Entries} (h : b.Proper) (hclose : b.close? = some es) : es.Proper := by
  unfold close? at hclose
  split at hclose
  · cases hclose
    exact h.current
  · rename_i key hkey
    obtain ⟨⟨⟨⟩, after⟩, hwithin, hclose⟩ := Option.map_eq_some_iff.1 hclose
    cases hclose
    refine (Entries.Proper.within (P := fun _ => True) (fun hsub hplace => ⟨trivial, ?_⟩) h.root hwithin).2
    split at hplace
    · split at hplace
      · cases hplace
        refine hsub.set (.tables fun es hes => ?_)
        exact List.mem_singleton.1 hes ▸ h.current
      · rename_i l hfind
        cases hplace
        cases hsub.find hfind with
        | tables hproper =>
          refine hsub.set (.tables fun es hes => ?_)
          rcases List.mem_append.1 hes with hes | hes
          · exact hproper es hes
          · exact List.mem_singleton.1 hes ▸ h.current
      · cases hplace
    · obtain ⟨after, hadd, hplace⟩ := Option.map_eq_some_iff.1 hplace
      cases hplace
      exact hsub.add (.table h.current) hadd

theorem Proper.header (h : b.Proper) (hheader : b.header? path = some b') : b'.Proper := by
  obtain ⟨root, hclose, hheader⟩ := Option.bind_eq_some_iff.1 hheader
  obtain ⟨key, hkey, hheader⟩ := Option.bind_eq_some_iff.1 hheader
  obtain ⟨⟨current, after⟩, hwithin, hheader⟩ := Option.bind_eq_some_iff.1 hheader
  cases hheader
  have := Entries.Proper.within (P := Entries.Proper) (fun hsub hopen => ?_) (h.close hclose) hwithin
  · exact ⟨this.2, this.1⟩
  · split at hopen
    · cases hopen
      exact ⟨.nil, hsub⟩
    · rename_i sub hfind
      cases hopen
      cases hsub.find hfind with
      | table hproper => exact ⟨hproper, hsub.remove⟩
    · cases hopen

theorem Proper.arrayHeader (h : b.Proper) (hheader : b.arrayHeader? path = some b') : b'.Proper := by
  obtain ⟨root, hclose, hheader⟩ := Option.bind_eq_some_iff.1 hheader
  obtain ⟨key, hkey, hheader⟩ := Option.bind_eq_some_iff.1 hheader
  obtain ⟨⟨⟨⟩, after⟩, hwithin, hheader⟩ := Option.bind_eq_some_iff.1 hheader
  cases hheader
  have hroot := Entries.Proper.within (P := fun _ => True) (fun hsub hcheck => ?_) (h.close hclose) hwithin
  · exact ⟨hroot.2, .nil⟩
  · split at hcheck
    · cases hcheck
      exact ⟨trivial, hsub⟩
    · cases hcheck
      exact ⟨trivial, hsub⟩
    · cases hcheck

end Builder

/-! ## Values -/

theorem fits_of_checked {n m : Int} {s rest : List Char} (h : checked n s = some (m, rest)) :
    fits m = true := by
  unfold checked at h
  split at h
  · cases h
    assumption
  · cases h

theorem fits_of_integer {s rest : List Char} {n : Int} (h : integer? s = some (n, rest)) : fits n = true := by
  unfold integer? at h
  simp only [] at h
  split at h
  all_goals
    obtain ⟨⟨ds, rest'⟩, -, h⟩ := Option.bind_eq_some_iff.1 h
    exact fits_of_checked h

theorem proper_of_word {word : String} {item item' : Item} {s rest : List Char} (hitem : item.Proper)
    (h : word? word item s = some (item', rest)) : item'.Proper := by
  unfold word? at h
  simp only [] at h
  split at h
  · cases h
    exact hitem
  · cases h

theorem proper_of_scalar {s rest : List Char} {item : Item} (h : scalar? s = some (item, rest)) :
    item.Proper := by
  unfold scalar? at h
  split at h
  · obtain ⟨rest', -, h⟩ := Option.map_eq_some_iff.1 h
    cases h
    exact .moment
  · split at h
    · cases h
      exact .real
    · obtain ⟨⟨n, rest'⟩, hn, h⟩ := Option.map_eq_some_iff.1 h
      cases h
      exact .integer (fits_of_integer hn)

/-- What the readers of values read in so many steps is proper. -/
structure ReadProper (fuel : Nat) : Prop where
  value : ∀ {depth s item rest}, value? fuel depth s = some (item, rest) → item.Proper
  items : ∀ {depth s l rest}, items? fuel depth s = some (l, rest) → ∀ item ∈ l, item.Proper
  pairs : ∀ {depth es s es' rest}, es.Proper → pairs? fuel depth es s = some (es', rest) → es'.Proper

theorem proper_of_value {fuel depth : Nat} {s rest : List Char} {item : Item} (ih : ReadProper fuel)
    (h : value? (fuel + 1) depth s = some (item, rest)) : item.Proper := by
  unfold value? at h
  split at h
  · obtain ⟨⟨t, rest'⟩, -, h⟩ := Option.map_eq_some_iff.1 h
    cases h
    exact .text t
  · obtain ⟨⟨t, rest'⟩, -, h⟩ := Option.map_eq_some_iff.1 h
    cases h
    exact .text t
  · split at h
    · obtain ⟨⟨l, rest'⟩, hl, h⟩ := Option.map_eq_some_iff.1 h
      cases h
      exact .list (ih.items hl)
    · cases h
  · split at h
    · split at h
      · cases h
        exact .inline .nil
      · obtain ⟨⟨es, rest'⟩, hes, h⟩ := Option.map_eq_some_iff.1 h
        cases h
        exact .inline (ih.pairs .nil hes)
    · cases h
  · exact proper_of_word (.boolean true) h
  · exact proper_of_word (.boolean false) h
  · obtain ⟨rest', -, h⟩ := Option.map_eq_some_iff.1 h
    cases h
    exact .real
  · obtain ⟨rest', -, h⟩ := Option.map_eq_some_iff.1 h
    cases h
    exact .real
  · split at h
    · exact proper_of_scalar h
    · cases h
  · cases h

theorem proper_of_items {fuel depth : Nat} {s rest : List Char} {l : List Item} (ih : ReadProper fuel)
    (h : items? (fuel + 1) depth s = some (l, rest)) : ∀ item ∈ l, item.Proper := by
  rw [items?] at h
  obtain ⟨start, -, h⟩ := Option.bind_eq_some_iff.1 h
  split at h
  · cases h
    nofun
  · obtain ⟨⟨first, rest'⟩, hfirst, h⟩ := Option.bind_eq_some_iff.1 h
    obtain ⟨after, -, h⟩ := Option.bind_eq_some_iff.1 h
    split at h
    · obtain ⟨⟨more, rest''⟩, hmore, h⟩ := Option.bind_eq_some_iff.1 h
      cases h
      exact List.forall_mem_cons.2 ⟨ih.value hfirst, ih.items hmore⟩
    · cases h
      exact List.forall_mem_cons.2 ⟨ih.value hfirst, nofun⟩
    · cases h

theorem proper_of_pairs {fuel depth : Nat} {s rest : List Char} {es es' : Entries} (ih : ReadProper fuel)
    (hes : es.Proper) (h : pairs? (fuel + 1) depth es s = some (es', rest)) : es'.Proper := by
  rw [pairs?] at h
  obtain ⟨⟨⟨path, key⟩, rest'⟩, -, h⟩ := Option.bind_eq_some_iff.1 h
  obtain ⟨rest'', -, h⟩ := Option.bind_eq_some_iff.1 h
  obtain ⟨⟨item, more⟩, hitem, h⟩ := Option.bind_eq_some_iff.1 h
  obtain ⟨added, hadded, h⟩ := Option.bind_eq_some_iff.1 h
  have hproper := hes.addInline (ih.value hitem) hadded
  split at h
  · exact ih.pairs hproper h
  · cases h
    exact hproper
  · cases h

theorem readProper (fuel : Nat) : ReadProper fuel := by
  induction fuel with
  | zero =>
    refine ⟨fun h => ?_, fun h => ?_, fun _ h => ?_⟩
    · simp [value?] at h
    · simp [items?] at h
    · simp [pairs?] at h
  | succ fuel ih => exact ⟨proper_of_value ih, proper_of_items ih, proper_of_pairs ih⟩

/-! ## Documents -/

variable {b b' : Builder} {s rest : List Char}

theorem proper_of_pairLine (hb : b.Proper) (h : pairLine? b s = some (b', rest)) : b'.Proper := by
  obtain ⟨⟨⟨path, key⟩, rest'⟩, -, h⟩ := Option.bind_eq_some_iff.1 h
  obtain ⟨start, -, h⟩ := Option.bind_eq_some_iff.1 h
  obtain ⟨⟨item, more⟩, hitem, h⟩ := Option.bind_eq_some_iff.1 h
  obtain ⟨after, -, h⟩ := Option.bind_eq_some_iff.1 h
  obtain ⟨added, hadded, h⟩ := Option.bind_eq_some_iff.1 h
  cases h
  exact hb.line ((readProper _).value hitem) hadded

theorem proper_of_headerLine (hb : b.Proper) (h : headerLine? b s = some (b', rest)) : b'.Proper := by
  obtain ⟨⟨⟨path, key⟩, rest'⟩, -, h⟩ := Option.bind_eq_some_iff.1 h
  obtain ⟨start, -, h⟩ := Option.bind_eq_some_iff.1 h
  obtain ⟨after, -, h⟩ := Option.bind_eq_some_iff.1 h
  obtain ⟨opened, hopened, h⟩ := Option.bind_eq_some_iff.1 h
  cases h
  exact hb.header hopened

theorem proper_of_arrayHeaderLine (hb : b.Proper) (h : arrayHeaderLine? b s = some (b', rest)) : b'.Proper := by
  obtain ⟨⟨⟨path, key⟩, rest'⟩, -, h⟩ := Option.bind_eq_some_iff.1 h
  obtain ⟨start, -, h⟩ := Option.bind_eq_some_iff.1 h
  obtain ⟨closed, -, h⟩ := Option.bind_eq_some_iff.1 h
  obtain ⟨after, -, h⟩ := Option.bind_eq_some_iff.1 h
  obtain ⟨opened, hopened, h⟩ := Option.bind_eq_some_iff.1 h
  cases h
  exact hb.arrayHeader hopened

theorem proper_of_lines {fuel : Nat} {es : Entries} (hb : b.Proper) (h : lines? fuel b s = some es) :
    es.Proper := by
  induction fuel generalizing b s with
  | zero => simp [lines?] at h
  | succ fuel ih =>
    rw [lines?] at h
    split at h
    · exact hb.close h
    · obtain ⟨rest, -, h⟩ := Option.bind_eq_some_iff.1 h
      exact ih hb h
    · exact ih hb h
    · obtain ⟨rest, -, h⟩ := Option.bind_eq_some_iff.1 h
      exact ih hb h
    · obtain ⟨⟨b', rest⟩, hline, h⟩ := Option.bind_eq_some_iff.1 h
      exact ih (proper_of_arrayHeaderLine hb hline) h
    · obtain ⟨⟨b', rest⟩, hline, h⟩ := Option.bind_eq_some_iff.1 h
      exact ih (proper_of_headerLine hb hline) h
    · obtain ⟨⟨b', rest⟩, hline, h⟩ := Option.bind_eq_some_iff.1 h
      exact ih (proper_of_pairLine hb hline) h

/-- A document that can be read has no key twice in any table, and its integers fit 64 bits. -/
theorem proper_of_read {document : String} {es : Entries} (h : read? document = some es) : es.Proper :=
  proper_of_lines .new h

end Roster.Toml
