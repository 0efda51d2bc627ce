import Mathlib.Data.String.Basic
import TradeRegister.Settings.Document

/-! # Layers laid over each other

What a merge holds at a path is what the two sides hold there, laid over each other; only where the
later side has something other than a dictionary on the way is the earlier side out of sight. This
takes dictionaries with sorted keys, as all layers are, whether they come from JSON or a document.
-/

namespace TradeRegister.Settings.Value

/-! ## Sorted keys -/

/-- Entries in the order of their keys, no key twice. -/
def Ascending (es : List (String × Value)) : Prop := es.Pairwise fun a b => a.1 < b.1

/-- The keys of every dictionary are in order, whatever lists may hold. -/
inductive Sorted : Value → Prop
  | dict {es : List (String × Value)} (ascending : Ascending es) (values : ∀ e ∈ es, Sorted e.2) :
      Sorted (.dict es)
  | leaf {v : Value} (h : v.isDict = false) : Sorted v

theorem ascending_iff {es : List (String × Value)} :
    Ascending es ↔ (es.map Prod.fst).Pairwise (· < ·) := List.pairwise_map.symm

theorem Ascending.nodup {es : List (String × Value)} (h : Ascending es) : (es.map Prod.fst).Nodup :=
  (ascending_iff.1 h).imp fun hlt => ne_of_lt hlt

theorem Sorted.entries {es : List (String × Value)} (h : Sorted (.dict es)) :
    Ascending es ∧ ∀ e ∈ es, Sorted e.2 := by
  cases h with
  | dict ascending values => exact ⟨ascending, values⟩
  | leaf h => cases h

theorem sorted_nil : Sorted (.dict []) := .dict .nil fun _ he => by cases he

theorem mem_put {key : String} {v : Value} {es : List (String × Value)} {e : String × Value}
    (h : e ∈ put key v es) : e = (key, v) ∨ e ∈ es := by
  induction es with
  | nil => exact .inl (List.mem_singleton.1 h)
  | cons x es ih =>
    obtain ⟨k, w⟩ := x
    rw [put] at h
    split at h
    · exact (List.mem_cons.1 h).imp_right (List.mem_cons_of_mem _)
    · split at h
      · exact List.mem_cons.1 h
      · rcases List.mem_cons.1 h with rfl | htail
        · exact .inr List.mem_cons_self
        · exact (ih htail).imp_right (List.mem_cons_of_mem _)

theorem Ascending.put {key : String} {v : Value} {es : List (String × Value)} (h : Ascending es) :
    Ascending (put key v es) := by
  induction es with
  | nil => exact List.pairwise_singleton _ _
  | cons x es ih =>
    obtain ⟨k, w⟩ := x
    obtain ⟨hfirst, hrest⟩ := List.pairwise_cons.1 h
    rw [Value.put]
    split
    · next heq => exact List.pairwise_cons.2 ⟨fun e he => heq ▸ hfirst e he, hrest⟩
    · next hne =>
      split
      · next hlt =>
        refine List.pairwise_cons.2 ⟨fun e he => ?_, h⟩
        rcases List.mem_cons.1 he with rfl | he
        · exact hlt
        · exact hlt.trans (hfirst e he)
      · next hge =>
        have hgt : k < key := lt_of_le_of_ne (not_lt.1 hge) fun heq => hne heq.symm
        refine List.pairwise_cons.2 ⟨fun e he => ?_, ih hrest⟩
        rcases mem_put he with rfl | he
        · exact hgt
        · exact hfirst e he

theorem Sorted.put {key : String} {v : Value} {es : List (String × Value)}
    (h : Sorted (.dict es)) (hv : Sorted v) : Sorted (.dict (put key v es)) := by
  obtain ⟨hascending, hvalues⟩ := h.entries
  refine .dict hascending.put fun e he => ?_
  rcases mem_put he with rfl | he
  · exact hv
  · exact hvalues e he

theorem mem_of_lookup {key : String} {v : Value} {es : List (String × Value)}
    (h : es.lookup key = some v) : (key, v) ∈ es := by
  obtain ⟨before, after, rfl, -⟩ := List.lookup_eq_some_iff.1 h
  exact List.mem_append_right _ List.mem_cons_self

theorem Sorted.of_lookup {key : String} {v : Value} {es : List (String × Value)}
    (h : Sorted (.dict es)) (hv : es.lookup key = some v) : Sorted v :=
  h.entries.2 _ (mem_of_lookup hv)

theorem lookup_of_mem {key : String} {v : Value} {es : List (String × Value)}
    (h : (es.map Prod.fst).Nodup) (hv : (key, v) ∈ es) : es.lookup key = some v := by
  induction es with
  | nil => cases hv
  | cons x es ih =>
    obtain ⟨hfirst, hrest⟩ := List.nodup_cons.1 h
    rcases List.mem_cons.1 hv with rfl | hv
    · exact List.lookup_cons_self
    · have hne : (key == x.1) = false := by
        rw [beq_eq_false_iff_ne]
        rintro rfl
        exact hfirst (List.mem_map.2 ⟨_, hv, rfl⟩)
      rw [List.lookup_cons, hne]
      exact ih hrest hv

/-! ## Where layers come from -/

theorem isDict_ofNumeral (literal : List Char) : (ofNumeral literal).isDict = false := by
  rw [ofNumeral]
  split
  · split <;> rfl
  · rfl

mutual

theorem sorted_of_json : ∀ {j : Json} {v : Value}, ofJson? j = some v → Sorted v
  | .object members, v, h => by
    rw [ofJson?, Option.map_eq_some_iff] at h
    obtain ⟨es, hes, rfl⟩ := h
    exact sorted_of_members sorted_nil hes
  | .null, v, h => by
    cases h
    exact .leaf rfl
  | .bool b, v, h => by
    cases h
    exact .leaf rfl
  | .number literal, v, h => by
    cases h
    exact .leaf (isDict_ofNumeral literal)
  | .string literal, v, h => by
    obtain ⟨s, -, rfl⟩ := Option.map_eq_some_iff.1 h
    exact .leaf rfl
  | .array items, v, h => by
    rw [ofJson?, Option.map_eq_some_iff] at h
    obtain ⟨vs, -, rfl⟩ := h
    exact .leaf rfl

theorem sorted_of_members : ∀ {members : List (Bytes × Json)} {es fs : List (String × Value)},
    Sorted (.dict es) → ofMembers? es members = some fs → Sorted (.dict fs)
  | [], es, fs, hes, h => by
    rw [ofMembers?] at h
    cases h
    exact hes
  | (key, j) :: members, es, fs, hes, h => by
    rw [ofMembers?] at h
    obtain ⟨k, hk, h⟩ := Option.bind_eq_some_iff.1 h
    obtain ⟨w, hw, h⟩ := Option.bind_eq_some_iff.1 h
    exact sorted_of_members (hes.put (sorted_of_json hw)) h

end

theorem isDict_ofInteger (n : Int) : (Document.ofInteger n).isDict = false := by
  rw [Document.ofInteger]
  split <;> rfl

theorem isDict_ofScalar {tag : Option String} {isPlain : Bool} {s : String} {v : Value}
    (h : Document.ofScalar? tag isPlain s = some v) : v.isDict = false := by
  have hinteger := isDict_ofInteger
  cases tag with
  | none =>
    simp only [Document.ofScalar?, Option.some.injEq, Document.ofPlain] at h
    grind [isDict]
  | some tag =>
    simp only [Document.ofScalar?, Document.ofTagged?] at h
    split at h
    · obtain ⟨b, -, rfl⟩ := Option.map_eq_some_iff.1 h
      rfl
    · obtain ⟨n, -, rfl⟩ := Option.map_eq_some_iff.1 h
      exact isDict_ofInteger n
    · split at h <;> cases h
      rfl
    · split at h <;> cases h
      rfl
    · split at h <;> cases h
      rfl

/-- Documents with at most `depth` collections one in the other. -/
theorem sorted_of_entries {depth : Nat}
    (hvalue : ∀ {node : Yaml.Node} {v : Value}, Document.value? depth node = some v → Sorted v)
    {pairs : List (Yaml.Node × Yaml.Node)} {es fs : List (String × Value)}
    (hes : Sorted (.dict es)) (h : Document.entries? depth es pairs = some fs) :
    Sorted (.dict fs) := by
  induction pairs generalizing es with
  | nil =>
    rw [Document.entries?] at h
    cases h
    exact hes
  | cons pair pairs ih =>
    rw [Document.entries?] at h
    obtain ⟨key, -, h⟩ := Option.bind_eq_some_iff.1 h
    obtain ⟨v, hv, h⟩ := Option.bind_eq_some_iff.1 h
    exact ih (hes.put (hvalue hv)) h

theorem sorted_of_node {depth : Nat} {node : Yaml.Node} {v : Value}
    (h : Document.value? depth node = some v) : Sorted v := by
  induction depth generalizing node v with
  | zero =>
    cases node with
    | scalar tag isPlain s =>
      rw [Document.value?] at h
      exact .leaf (isDict_ofScalar h)
    | _ => cases h
  | succ depth ih =>
    cases node with
    | scalar tag isPlain s =>
      rw [Document.value?] at h
      exact .leaf (isDict_ofScalar h)
    | sequence tag items =>
      rw [Document.value?] at h
      split at h
      · cases h
      · obtain ⟨vs, -, rfl⟩ := Option.map_eq_some_iff.1 h
        exact .leaf rfl
    | mapping tag pairs =>
      rw [Document.value?] at h
      split at h
      · cases h
      · obtain ⟨es, hes, rfl⟩ := Option.map_eq_some_iff.1 h
        exact sorted_of_entries ih sorted_nil hes

theorem sorted_of_document {text : String} {es : List (String × Value)}
    (h : Document.read? text = some es) : Sorted (.dict es) := by
  rw [Document.read?] at h
  split at h
  · cases h
    exact sorted_nil
  · cases h
    exact sorted_nil
  · exact sorted_of_entries sorted_of_node sorted_nil h
  · cases h

/-! ## Merges -/

/-- The later value at a key, laid over the earlier one if there is one. -/
def laidOver (under : Option Value) (v : Value) : Value :=
  match under with
  | some old => merge old v
  | none => v

theorem merge_dict (base es : List (String × Value)) :
    merge (.dict base) (.dict es) = .dict (mergeEntries base es) := by
  rw [merge]

theorem exists_dict {v : Value} (h : v.isDict = true) : ∃ es, v = .dict es := by
  cases v with
  | dict es => exact ⟨es, rfl⟩
  | _ => cases h

theorem merge_of_not_dict {u : Value} (h : u.isDict = false) (es : List (String × Value)) :
    merge u (.dict es) = .dict es := by
  cases u with
  | dict base => cases h
  | _ => rfl

/-- What is no dictionary hides everything. -/
theorem merge_leaf {v : Value} (h : v.isDict = false) (u : Value) : merge u v = v := by
  cases v with
  | dict es => cases h
  | _ => rfl

theorem merge_over_leaf {u : Value} (h : u.isDict = false) (v : Value) : merge u v = v := by
  cases hv : v.isDict with
  | false => exact merge_leaf hv u
  | true =>
    obtain ⟨es, rfl⟩ := exists_dict hv
    exact merge_of_not_dict h es

theorem mergeEntries_cons (base : List (String × Value)) (key : String) (v : Value)
    (es : List (String × Value)) :
    mergeEntries base ((key, v) :: es) =
      mergeEntries (put key (laidOver (base.lookup key) v) base) es := by
  rw [mergeEntries]
  rfl

theorem lookup_mergeEntries {es : List (String × Value)} (h : (es.map Prod.fst).Nodup)
    (base : List (String × Value)) (key : String) :
    (mergeEntries base es).lookup key =
      match es.lookup key with
      | some v => some (laidOver (base.lookup key) v)
      | none => base.lookup key := by
  induction es generalizing base with
  | nil => rw [mergeEntries, List.lookup_nil]
  | cons x es ih =>
    obtain ⟨k, w⟩ := x
    obtain ⟨hfirst, hrest⟩ := List.nodup_cons.1 h
    rw [mergeEntries_cons, ih hrest]
    by_cases hkey : key = k
    · subst hkey
      have hnone : es.lookup key = none := List.lookup_eq_none_iff.2 fun e he =>
        bne_iff_ne.2 fun heq => hfirst (List.mem_map.2 ⟨e, he, heq.symm⟩)
      rw [hnone, List.lookup_cons_self]
      exact lookup_put_self ..
    · rw [List.lookup_cons, beq_eq_false_iff_ne.2 hkey, lookup_put_of_ne hkey]

theorem Sorted.mergeEntries {es : List (String × Value)} {base : List (String × Value)}
    (hbase : Sorted (.dict base)) (values : ∀ e ∈ es, Sorted e.2)
    (ih : ∀ e ∈ es, ∀ {u : Value}, Sorted u → Sorted (merge u e.2)) :
    Sorted (.dict (mergeEntries base es)) := by
  induction es generalizing base with
  | nil => rwa [Value.mergeEntries]
  | cons e es ihes =>
    rw [mergeEntries_cons]
    refine ihes (hbase.put ?_) (fun e he => values e (List.mem_cons_of_mem _ he))
      fun e he => ih e (List.mem_cons_of_mem _ he)
    cases hold : base.lookup e.1 with
    | none => exact values e List.mem_cons_self
    | some old => exact ih e List.mem_cons_self (hbase.of_lookup hold)

theorem Sorted.laidOver {v : Value} (hv : Sorted v) :
    ∀ {u : Value}, Sorted u → Sorted (merge u v) := by
  induction hv with
  | leaf h =>
    intro u _
    rw [merge_leaf h]
    exact .leaf h
  | @dict es ascending values ih =>
    intro u hu
    cases hdict : u.isDict with
    | false =>
      rw [merge_of_not_dict hdict]
      exact .dict ascending values
    | true =>
      obtain ⟨base, rfl⟩ := exists_dict hdict
      rw [merge_dict]
      exact hu.mergeEntries values ih

/-! ## Paths -/

def at? : List String → Value → Option Value
  | [], v => some v
  | key :: path, .dict es => (es.lookup key).bind (at? path)
  | _ :: _, _ => none

/-- True if something other than a dictionary stands on the way to the end of a path. -/
def covers : List String → Value → Bool
  | [], _ => false
  | key :: path, .dict es => ((es.lookup key).map (covers path)).getD false
  | _ :: _, _ => true

theorem covers_of_at? {path : List String} {v w : Value} (h : v.at? path = some w) :
    v.covers path = false := by
  induction path generalizing v with
  | nil => rfl
  | cons key path ih =>
    cases v with
    | dict es =>
      obtain ⟨x, hx, hw⟩ := Option.bind_eq_some_iff.1 h
      simp [covers, hx, ih hw]
    | _ => cases h

/-- What a merge holds at a path that the later side does not cover. -/
theorem at?_merge {path : List String} {u v : Value} (hv : Sorted v) (h : v.covers path = false) :
    (merge u v).at? path =
      match u.at? path, v.at? path with
      | some x, some y => some (merge x y)
      | some x, none => some x
      | none, y => y := by
  induction path generalizing u v with
  | nil => rfl
  | cons key path ih =>
    cases v with
    | dict es =>
      cases hdict : u.isDict with
      | false =>
        rw [merge_of_not_dict hdict]
        cases u with
        | dict base => cases hdict
        | _ => rfl
      | true =>
        obtain ⟨base, rfl⟩ := exists_dict hdict
        simp only [merge_dict, at?, lookup_mergeEntries hv.entries.1.nodup]
        cases hnew : es.lookup key with
        | none =>
          simp only [Option.bind_none]
          cases (base.lookup key).bind (at? path) <;> rfl
        | some w =>
          have hcovers : w.covers path = false := by simpa [covers, hnew] using h
          cases hold : base.lookup key with
          | none => rfl
          | some old =>
            simp only [Option.bind_some, laidOver]
            exact ih (hv.of_lookup hnew) hcovers
    | _ => cases h

/-- What stands at the end of a path stays there until a later side covers the path. -/
theorem isSome_at?_merge {path : List String} {u v : Value} (hv : Sorted v)
    (h : v.covers path = false) (hu : (u.at? path).isSome) : ((merge u v).at? path).isSome := by
  obtain ⟨x, hx⟩ := Option.isSome_iff_exists.1 hu
  rw [at?_merge hv h, hx]
  cases v.at? path <;> rfl

/-- What a later side has at the end of a path is there whatever lies under it. -/
theorem isSome_at?_merge_later {path : List String} {u v : Value} (hv : Sorted v)
    (h : (v.at? path).isSome) : ((merge u v).at? path).isSome := by
  obtain ⟨y, hy⟩ := Option.isSome_iff_exists.1 h
  rw [at?_merge hv (covers_of_at? hy), hy]
  cases u.at? path <;> rfl

end TradeRegister.Settings.Value
