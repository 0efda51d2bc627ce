import TradeRegister.Proofs.Store.Distinct

/-! # Tables and the rows they hold

A table holds a list of rows when these are its rows in some order, each stored under its own key,
and no two of them share a key or a name. It then answers as a search through the list would, and
writes to it do to its rows what they do to the list.
-/

namespace TradeRegister.Store

namespace Table

variable {ρ : Type} {key : ρ → Uuid}

def rows (t : Table ρ) : List ρ := t.entries.map (·.2)

/-- Every row is stored under its own key. -/
def Keyed (key : ρ → Uuid) (t : Table ρ) : Prop := ∀ e ∈ t.entries, e.1 = key e.2

theorem get?_eq_find? {t : Table ρ} (h : t.Keyed key) (id : Uuid) :
    t.get? id = t.rows.find? fun r => key r == id := by
  obtain ⟨entries⟩ := t
  simp only [Keyed, get?, rows] at h ⊢
  induction entries with
  | nil => rfl
  | cons e entries ih =>
    have he : e.1 = key e.2 := h e List.mem_cons_self
    have ih := ih fun e he => h e (List.mem_cons_of_mem _ he)
    rw [List.lookup_cons, List.map_cons, List.find?_cons, ih, he]
    by_cases hid : key e.2 = id
    · simp [hid]
    · rw [beq_false_of_ne hid, beq_false_of_ne (Ne.symm hid)]

theorem find?_eq (t : Table ρ) (p : ρ → Bool) : t.find? p = t.rows.find? p := by
  rw [find?, rows, List.find?_map]
  rfl

theorem any_eq (t : Table ρ) (p : ρ → Bool) : t.any p = t.rows.any p := by
  rw [any, rows, List.any_map]
  rfl

theorem rows_erase {t : Table ρ} (h : t.Keyed key) (id : Uuid) :
    (t.erase id).rows = t.rows.filter fun r => key r != id := by
  rw [rows, rows, erase, List.filter_map]
  congr 1
  apply List.filter_congr
  intro e he
  simp [h e he]

theorem keyed_erase {t : Table ρ} (h : t.Keyed key) (id : Uuid) : (t.erase id).Keyed key :=
  fun e he => h e (List.mem_filter.1 he).1

theorem keyed_put {t : Table ρ} (h : t.Keyed key) {id : Uuid} {r : ρ} (hr : key r = id) :
    (t.put id r).Keyed key := by
  intro e he
  rcases List.mem_cons.1 he with rfl | he
  · exact hr.symm
  · exact keyed_erase h id e he

/-- A table of these rows, no two of which share a key or a name. -/
structure Holds (key : ρ → Uuid) (name : ρ → String) (t : Table ρ) (rows : List ρ) : Prop where
  keyed : t.Keyed key
  perm : t.rows.Perm rows
  distinct : Distinct key name rows

namespace Holds

variable {name : ρ → String} {t : Table ρ} {rows : List ρ}

theorem empty : Holds key name {} [] :=
  ⟨fun _ he => absurd he List.not_mem_nil, List.Perm.nil, .nil⟩

/-- The same rows, each with its key. -/
theorem entries_perm (h : Holds key name t rows) :
    t.entries.Perm (rows.map fun r => (key r, r)) := by
  have hentries : t.rows.map (fun r => (key r, r)) = t.entries := by
    rw [Table.rows, List.map_map]
    refine (List.map_congr_left ?_).trans (List.map_id _)
    intro e he
    exact Prod.ext (h.keyed e he).symm rfl
  rw [← hentries]
  exact h.perm.map _

theorem get?_eq (h : Holds key name t rows) (id : Uuid) :
    t.get? id = rows.find? fun r => key r == id := by
  rw [get?_eq_find? h.keyed, find?_eq_of_perm h.distinct.keys h.perm]

theorem find?_name_eq (h : Holds key name t rows) (n : String) :
    (t.find? fun r => name r == n) = rows.find? fun r => name r == n := by
  rw [find?_eq, find?_eq_of_perm h.distinct.names h.perm]

theorem any_eq (h : Holds key name t rows) (p : ρ → Bool) : t.any p = rows.any p := by
  rw [Table.any_eq, Bool.eq_iff_iff, List.any_eq_true, List.any_eq_true]
  simp only [h.perm.mem_iff]

theorem contains_eq (h : Holds key name t rows) (id : Uuid) :
    t.contains id = rows.any fun r => key r == id := by
  rw [contains, h.get?_eq, List.isSome_find?]

/-- A new row is refused by both or by neither. -/
theorem contains_or_any_eq (h : Holds key name t rows) (id : Uuid) (n : String) :
    (t.contains id || t.any fun r => name r == n) =
      rows.any fun r => key r == id || name r == n := by
  rw [h.contains_eq, h.any_eq, Bool.eq_iff_iff]
  simp only [Bool.or_eq_true, List.any_eq_true]
  constructor
  · rintro (⟨r, hr, hid⟩ | ⟨r, hr, hn⟩)
    · exact ⟨r, hr, .inl hid⟩
    · exact ⟨r, hr, .inr hn⟩
  · rintro ⟨r, hr, hid | hn⟩
    · exact .inl ⟨r, hr, hid⟩
    · exact .inr ⟨r, hr, hn⟩

theorem put_new (h : Holds key name t rows) {row : ρ}
    (hnew : (rows.any fun r => key r == key row || name r == name row) = false) :
    Holds key name (t.put (key row) row) (rows ++ [row]) := by
  have hunchanged : (t.erase (key row)).rows = t.rows := by
    rw [rows_erase h.keyed, List.filter_eq_self]
    intro r hr
    simp only [List.any_eq_false, Bool.or_eq_true, beq_iff_eq, not_or] at hnew
    simpa using (hnew r (h.perm.mem_iff.1 hr)).1
  refine ⟨keyed_put h.keyed rfl, ?_, h.distinct.append_new hnew⟩
  change (row :: (t.erase (key row)).rows).Perm (rows ++ [row])
  rw [hunchanged]
  exact (h.perm.cons row).trans (List.perm_append_singleton row rows).symm

theorem put_over (h : Holds key name t rows) {id : Uuid} {old next : ρ}
    (hold : t.get? id = some old) (hkey : key next = id)
    (hname : (rows.any fun r => key r != id && name r == name next) = false) :
    Holds key name (t.put id next) (rows.map fun r => if key r = id then next else r) := by
  rw [h.get?_eq, find?_eq_some_iff_of_nodup h.distinct.keys] at hold
  obtain ⟨hmem, rfl⟩ := hold
  simp only [List.any_eq_false, Bool.and_eq_true, bne_iff_ne, beq_iff_eq, not_and] at hname
  refine ⟨keyed_put h.keyed hkey, ?_, h.distinct.replace hkey hname⟩
  change (next :: (t.erase (key old)).rows).Perm _
  rw [rows_erase h.keyed]
  exact ((h.perm.filter _).cons next).trans (h.distinct.perm_replace hmem)

theorem put_same (h : Holds key name t rows) {id : Uuid} {row : ρ} (hrow : t.get? id = some row) :
    Holds key name (t.put id row) rows := by
  rw [h.get?_eq, find?_eq_some_iff_of_nodup h.distinct.keys] at hrow
  obtain ⟨hmem, rfl⟩ := hrow
  refine ⟨keyed_put h.keyed rfl, ?_, h.distinct⟩
  change (row :: (t.erase (key row)).rows).Perm rows
  rw [rows_erase h.keyed]
  exact ((h.perm.filter _).cons row).trans (h.distinct.perm_cons_filter hmem).symm

theorem erase (h : Holds key name t rows) (id : Uuid) :
    Holds key name (t.erase id) (rows.filter fun r => key r != id) := by
  refine ⟨keyed_erase h.keyed id, ?_, h.distinct.filter _⟩
  rw [rows_erase h.keyed]
  exact h.perm.filter _

end Holds
end Table

end TradeRegister.Store
