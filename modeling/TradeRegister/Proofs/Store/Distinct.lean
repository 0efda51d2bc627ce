import Mathlib.Data.List.Nodup
import Mathlib.Data.List.Perm.Basic
import TradeRegister.Store.Table

/-! # Rows with distinct keys and names

No two rows have the same key, and no two have the same name. Adding a row with a new key and a
new name, replacing the row of a key under a name that no other row has, and removing rows keep
this. A row is then found by its key or its name in whatever order the rows are looked through.
-/

namespace TradeRegister.Store

variable {ρ α : Type} [BEq α] [LawfulBEq α]

omit [BEq α] [LawfulBEq α] in
theorem ne_of_nodup_map_cons {f : ρ → α} {r s : ρ} {rows : List ρ}
    (h : ((r :: rows).map f).Nodup) (hs : s ∈ rows) : f s ≠ f r := by
  rw [List.map_cons, List.nodup_cons] at h
  intro heq
  exact h.1 (heq ▸ List.mem_map_of_mem hs)

/-- The row of a value that no two rows share. -/
theorem find?_eq_some_iff_of_nodup {f : ρ → α} {rows : List ρ} (h : (rows.map f).Nodup) {x : α}
    {r : ρ} : rows.find? (fun r => f r == x) = some r ↔ r ∈ rows ∧ f r = x := by
  constructor
  · intro hfind
    exact ⟨List.mem_of_find?_eq_some hfind, by simpa using List.find?_some hfind⟩
  · rintro ⟨hmem, rfl⟩
    induction rows with
    | nil => cases hmem
    | cons s rows ih =>
      rcases List.mem_cons.1 hmem with rfl | hmem
      · simp
      · have hne := ne_of_nodup_map_cons h hmem
        rw [List.find?_cons_of_neg (by simpa using Ne.symm hne)]
        exact ih (List.nodup_cons.1 h).2 hmem

/-- Tables that hold the same rows of a value find the same for it. -/
theorem find?_eq_of_mem_iff {f : ρ → α} {rows rows' : List ρ} (h : (rows.map f).Nodup)
    (h' : (rows'.map f).Nodup) {x : α} (hmem : ∀ r, f r = x → (r ∈ rows' ↔ r ∈ rows)) :
    rows'.find? (fun r => f r == x) = rows.find? (fun r => f r == x) := by
  apply Option.ext
  intro r
  rw [find?_eq_some_iff_of_nodup h, find?_eq_some_iff_of_nodup h']
  exact and_congr_left (hmem r)

theorem find?_eq_of_perm {f : ρ → α} {rows rows' : List ρ} (h : (rows.map f).Nodup)
    (hperm : rows'.Perm rows) (x : α) :
    rows'.find? (fun r => f r == x) = rows.find? (fun r => f r == x) := by
  have h' : (rows'.map f).Nodup := (hperm.map f).nodup_iff.2 h
  exact find?_eq_of_mem_iff h h' fun _ _ => hperm.mem_iff

structure Distinct (key : ρ → Uuid) (name : ρ → String) (rows : List ρ) : Prop where
  keys : (rows.map key).Nodup
  names : (rows.map name).Nodup

namespace Distinct

variable {key : ρ → Uuid} {name : ρ → String} {rows : List ρ}

theorem nil : Distinct key name [] := ⟨List.nodup_nil, List.nodup_nil⟩

theorem nodup (h : Distinct key name rows) : rows.Nodup := h.keys.of_map key

theorem perm {rows' : List ρ} (h : Distinct key name rows) (hperm : rows'.Perm rows) :
    Distinct key name rows' :=
  ⟨(hperm.map key).nodup_iff.2 h.keys, (hperm.map name).nodup_iff.2 h.names⟩

theorem cons (h : Distinct key name rows) {row : ρ} (hkey : ∀ r ∈ rows, key r ≠ key row)
    (hname : ∀ r ∈ rows, name r ≠ name row) : Distinct key name (row :: rows) := by
  constructor
  · rw [List.map_cons, List.nodup_cons]
    exact ⟨by simpa using hkey, h.keys⟩
  · rw [List.map_cons, List.nodup_cons]
    exact ⟨by simpa using hname, h.names⟩

theorem append_new (h : Distinct key name rows) {row : ρ}
    (hnew : (rows.any fun r => key r == key row || name r == name row) = false) :
    Distinct key name (rows ++ [row]) := by
  simp only [List.any_eq_false, Bool.or_eq_true, beq_iff_eq, not_or] at hnew
  exact (h.cons (fun r hr => (hnew r hr).1) fun r hr => (hnew r hr).2).perm List.perm_append_comm

theorem filter (h : Distinct key name rows) (p : ρ → Bool) :
    Distinct key name (rows.filter p) :=
  ⟨h.keys.sublist (List.filter_sublist.map key), h.names.sublist (List.filter_sublist.map name)⟩

theorem replace (h : Distinct key name rows) {id : Uuid} {next : ρ} (hkey : key next = id)
    (hname : ∀ r ∈ rows, key r ≠ id → name r ≠ name next) :
    Distinct key name (rows.map fun r => if key r = id then next else r) := by
  constructor
  · have hsame : (rows.map fun r => if key r = id then next else r).map key = rows.map key := by
      rw [List.map_map]
      apply List.map_congr_left
      intro r _
      by_cases hr : key r = id <;> simp [hr, hkey]
    rw [hsame]
    exact h.keys
  · rw [List.map_map, List.Nodup, List.pairwise_map]
    have hpairs := (List.pairwise_map.1 h.keys).and (List.pairwise_map.1 h.names)
    refine hpairs.imp_of_mem ?_
    intro r s hr hs hne
    by_cases hrid : key r = id
    · have hsid : key s ≠ id := fun hsid => hne.1 (hrid.trans hsid.symm)
      simpa [hrid, hsid] using Ne.symm (hname s hs hsid)
    · by_cases hsid : key s = id
      · simpa [hrid, hsid] using hname r hr hrid
      · simpa [hrid, hsid] using hne.2

theorem eq_of_key (h : Distinct key name rows) {r s : ρ} (hr : r ∈ rows) (hs : s ∈ rows)
    (hkey : key r = key s) : r = s :=
  List.inj_on_of_nodup_map h.keys hr hs hkey

theorem eq_of_name (h : Distinct key name rows) {r s : ρ} (hr : r ∈ rows) (hs : s ∈ rows)
    (hname : name r = name s) : r = s :=
  List.inj_on_of_nodup_map h.names hr hs hname

theorem replace_self (h : Distinct key name rows) {row : ρ} (hrow : row ∈ rows) :
    (rows.map fun r => if key r = key row then row else r) = rows := by
  refine (List.map_congr_left ?_).trans (List.map_id _)
  intro r hr
  split
  · next hkey => exact (h.eq_of_key hr hrow hkey).symm
  · rfl

/-- A row that keeps its name takes it from no other row. -/
theorem any_eq_false (h : Distinct key name rows) {row : ρ} (hrow : row ∈ rows) :
    (rows.any fun r => key r != key row && name r == name row) = false := by
  simp only [List.any_eq_false, Bool.and_eq_true, bne_iff_ne, beq_iff_eq, not_and]
  intro r hr hkey hname
  rw [List.inj_on_of_nodup_map h.names hr hrow hname] at hkey
  exact hkey rfl

theorem perm_cons_filter (h : Distinct key name rows) {old : ρ} (hold : old ∈ rows) :
    rows.Perm (old :: rows.filter fun r => key r != key old) := by
  induction rows with
  | nil => cases hold
  | cons r rows ih =>
    have htail : Distinct key name rows :=
      ⟨(List.nodup_cons.1 h.keys).2, (List.nodup_cons.1 h.names).2⟩
    rcases List.mem_cons.1 hold with rfl | hold
    · have hself : rows.filter (fun r => key r != key old) = rows := by
        rw [List.filter_eq_self]
        intro s hs
        simpa using ne_of_nodup_map_cons h.keys hs
      rw [List.filter_cons_of_neg (by simp), hself]
    · have hne := ne_of_nodup_map_cons h.keys hold
      rw [List.filter_cons_of_pos (by simpa using Ne.symm hne)]
      exact ((ih htail hold).cons r).trans (List.Perm.swap _ _ _)

/-- Taking the row of a key away and putting another one in is the same as replacing it. -/
theorem perm_replace (h : Distinct key name rows) {old next : ρ} (hold : old ∈ rows) :
    (next :: rows.filter fun r => key r != key old).Perm
      (rows.map fun r => if key r = key old then next else r) := by
  have hothers : (rows.filter fun r => key r != key old).map
      (fun r => if key r = key old then next else r) =
        rows.filter fun r => key r != key old := by
    refine (List.map_congr_left ?_).trans (List.map_id _)
    intro r hr
    have hne : key r ≠ key old := by simpa using (List.mem_filter.1 hr).2
    rw [if_neg hne]
    rfl
  have hperm := (h.perm_cons_filter hold).map fun r => if key r = key old then next else r
  rw [List.map_cons, if_pos rfl, hothers] at hperm
  exact hperm.symm

end Distinct
end TradeRegister.Store
