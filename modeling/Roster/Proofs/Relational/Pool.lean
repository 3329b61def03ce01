import Roster.Proofs.Reachable
import Roster.Proofs.Relational.Url

/-!
# The pool of a store on SQLite

The pool has one connection whenever the URL is one with which a store on SQLite is opened. Two readings
of the scheme have to be compared: the settings and the pool look at the first bytes of the URL, and
connecting at the URL without what is ignored in one.
-/

namespace Roster.Relational

open Settings

/-- The settings are those of a store on SQLite: they choose a database, by a URL with its scheme. -/
structure OnSqlite (settings : StoreSettings) : Prop where
  chosen : ∃ url, settings.backend? = .ok (.relational url)
  scheme : schemeOf? settings.url = some "sqlite"

/-- A relational store that was opened is one on SQLite. -/
theorem onSqlite_of_start {settings : StoreSettings} {tree : Files.Tree} {store : Store} {home : Home}
    (h : (Session.start settings tree).session.store = some (.relational store home)) : OnSqlite settings := by
  obtain ⟨url, db, hb, hc⟩ := Session.connect_of_start h
  refine ⟨⟨url, hb⟩, ?_⟩
  unfold connect at hc
  simp only at hc
  split at hc
  · cases hc
  · split at hc
    · cases hc
    · rename_i hscheme
      exact hscheme
    · cases hc

/-- The pool of a store on SQLite has one connection. -/
theorem poolBounds_eq {settings : StoreSettings} (h : OnSqlite settings) : settings.poolBounds = (1, 1) := by
  obtain ⟨⟨url, hb⟩, hs⟩ := h
  obtain ⟨-, scheme, hmem, hbegins⟩ := StoreSettings.backend?_eq_relational.1 hb
  -- a URL with the scheme of another database is not one of SQLite
  have hother (name : String) (hname : name ∈ ["postgres", "postgresql"])
      (hbegins : BeginsWith settings.url (name ++ ":")) : False := by
    have hnames : ∀ name ∈ ["postgres", "postgresql"], name.toList.all Char.isLower = true ∧
        Unmistakable (name ++ ":") ∧ name ≠ "" ∧ name ≠ "sqlite" := by
      decide +kernel
    obtain ⟨hletters, hplain, hne⟩ := hnames name hname
    obtain ⟨front, rest, hurl, hfront⟩ := hbegins.cut hplain
    rw [hurl, schemeOf?_append name hne.1 hletters hfront] at hs
    split at hs
    · exact hne.2 (Option.some.inj hs)
    · cases hs
  simp only [relationalSchemes, List.mem_cons, List.not_mem_nil, or_false] at hmem
  rcases hmem with rfl | rfl | rfl
  · exact (hother "postgres" (by decide)
      (hbegins.begins_part (by decide +kernel) (by decide +kernel) (by decide +kernel))).elim
  · exact (hother "postgresql" (by decide)
      (hbegins.begins_part (by decide +kernel) (by decide +kernel) (by decide +kernel))).elim
  · rw [StoreSettings.poolBounds_of_backend hb, if_pos hbegins]

end Roster.Relational
