import TradeRegister.Json.Record

/-! # Members of records

What a layout finds under a key is held by the one member of that name.
-/

namespace TradeRegister.Json

/-- An object with exactly one member of this name, which holds `w`. -/
def Holds (v : Json) (name : String) (w : Json) : Prop :=
  ∃ members named, v = .object members ∧ named? members = some named ∧ values name named = [w]

private theorem mapM_getElem? {α β : Type} {f : α → Option β} {xs : List α} {ys : List β}
    (h : xs.mapM f = some ys) {i : Nat} {x : α} {y : β} (hx : xs[i]? = some x)
    (hy : ys[i]? = some y) : f x = some y := by
  induction xs generalizing ys i with
  | nil => simp at hx
  | cons x' xs ih =>
    simp only [List.mapM_cons, Option.bind_eq_bind, Option.bind_eq_some_iff] at h
    obtain ⟨y', hy', ys', hys', h⟩ := h
    obtain rfl : y' :: ys' = ys := by simpa using h
    cases i with
    | zero =>
      simp only [List.getElem?_cons_zero, Option.some.injEq] at hx hy
      subst hx hy
      exact hy'
    | succ i => exact ih hys' (by simpa using hx) (by simpa using hy)

theorem holds_of_read? {layout : Layout} {members : List (Bytes × Json)}
    {found : List (Option Json)} (h : layout.read? (.object members) = some found) {i : Nat}
    {key : String} {w : Json} (hkey : layout.keys[i]? = some key)
    (hw : found[i]? = some (some w)) : (object members).Holds key w := by
  rw [Layout.read?] at h
  obtain ⟨named, hnamed, h⟩ := Option.bind_eq_some_iff.1 h
  obtain ⟨_, _, h⟩ := Option.bind_eq_some_iff.1 h
  have hfound := mapM_getElem? h hkey hw
  refine ⟨members, named, rfl, hnamed, ?_⟩
  split at hfound
  · cases hfound
  · next v hv =>
    obtain rfl : v = w := by simpa using hfound
    exact hv
  · cases hfound

theorem required?_eq_some_iff {α : Type} {f : Json → Option α} {v : Option Json} {x : α} :
    required? f v = some x ↔ ∃ w, v = some w ∧ f w = some x := by
  cases v with
  | none => simp [required?]
  | some w => simp [required?]

theorem Holds.read? {v w : Json} {key : String} (h : v.Holds key w) :
    (⟨[key], false⟩ : Layout).read? v = some [some w] := by
  obtain ⟨members, named, rfl, hnamed, hvalues⟩ := h
  rw [Layout.read?]
  refine Option.bind_eq_some_iff.2 ⟨named, hnamed, Option.bind_eq_some_iff.2 ⟨(), rfl, ?_⟩⟩
  simp [hvalues]

end TradeRegister.Json
