import TradeRegister.Proofs.Result
import TradeRegister.Proofs.Settings.Merge
import TradeRegister.Settings.Basic

/-! # Reading sections

An entry of a section gives its field the value it stands for, or is refused; which of the two does
not depend on the entries before it. So a section without repeated keys is read when each entry
fits, and then every field has the value of its entry, or its usual one if there is none.
-/

namespace TradeRegister.Settings

variable {σ α : Type} {fields : List (Field σ)} {usual s : σ} {es : List (String × Value)}

/-! ## Entries -/

/-- Under whatever was stored before, the entry is taken. -/
def Fits (fields : List (Field σ)) (e : String × Value) : Prop :=
  ∀ s, ∃ s', storeEntry fields s e = .ok s'

/-- Under whatever was stored before, the entry is refused with this error. -/
def Unfit (fields : List (Field σ)) (e : String × Value) (err : LoadError) : Prop :=
  ∀ s, storeEntry fields s e = .error err

theorem unfit_of_unknown {key : String} (h : ∀ f ∈ fields, f.key ≠ key) (v : Value) :
    Unfit fields (key, v) ⟨.unknownField, [key]⟩ := by
  intro s
  have hnone : fields.find? (fun f => f.key == key) = none :=
    List.find?_eq_none.2 fun f hf => by simpa using h f hf
  rw [storeEntry, hnone]
  rfl

theorem readSection_of_fits (h : ∀ e ∈ es, Fits fields e) :
    ∃ s, readSection fields usual (.dict es) = .ok s := by
  rw [readSection]
  induction es generalizing usual with
  | nil => exact ⟨usual, rfl⟩
  | cons e es ih =>
    obtain ⟨s, hs⟩ := h e List.mem_cons_self usual
    rw [List.foldlM_cons, hs]
    exact ih fun e he => h e (List.mem_cons_of_mem _ he)

/-- The error is that of the only entry that does not fit. -/
theorem readSection_of_unfit {e : String × Value} {err : LoadError} (hmem : e ∈ es)
    (he : Unfit fields e err) (hothers : ∀ x ∈ es, x = e ∨ Fits fields x) :
    readSection fields usual (.dict es) = .error err := by
  rw [readSection]
  induction es generalizing usual with
  | nil => cases hmem
  | cons x es ih =>
    rw [List.foldlM_cons]
    obtain ⟨hfirst, hrest⟩ := List.forall_mem_cons.1 hothers
    rcases List.mem_cons.1 hmem with rfl | hmem
    · rw [he usual]
      rfl
    · rcases hfirst with rfl | hfits
      · rw [he usual]
        rfl
      · obtain ⟨s, hs⟩ := hfits usual
        rw [hs]
        exact ih hmem hrest

theorem error_of_unfit {e : String × Value} {err : LoadError} (hmem : e ∈ es)
    (he : Unfit fields e err) : ∃ err, readSection fields usual (.dict es) = .error err := by
  rw [readSection]
  induction es generalizing usual with
  | nil => cases hmem
  | cons x es ih =>
    rw [List.foldlM_cons]
    rcases List.mem_cons.1 hmem with rfl | hmem
    · exact ⟨err, by rw [he usual]; rfl⟩
    · cases hx : storeEntry fields usual x with
      | error err => exact ⟨err, rfl⟩
      | ok s => exact ih hmem

theorem fits_of_readSection (hread : readSection fields usual (.dict es) = .ok s)
    (h : ∀ e ∈ es, Fits fields e ∨ ∃ err, Unfit fields e err) : ∀ e ∈ es, Fits fields e := by
  intro e he
  rcases h e he with hfits | ⟨err, hunfit⟩
  · exact hfits
  · obtain ⟨err, herr⟩ : ∃ err, readSection fields usual (.dict es) = .error err :=
      error_of_unfit he hunfit
    cases hread.symm.trans herr

/-! ## Fields -/

/-- A section's field `key`, which `read` reads and `get` looks up: its own entry sets it or is
refused as its reading is, and no other entry touches it. -/
structure Holds (fields : List (Field σ)) (key : String) (read : Reader α) (get : σ → α) :
    Prop where
  taken : ∀ {v a}, read v = .ok a → ∀ s, ∃ s', storeEntry fields s (key, v) = .ok s' ∧ get s' = a
  refused : ∀ {v err}, read v = .error err →
    Unfit fields (key, v) { err with path := key :: err.path }
  kept : ∀ {e s s'}, e.1 ≠ key → storeEntry fields s e = .ok s' → get s' = get s

/-- Nothing that is stored in the field changes what `get` looks up. -/
def Keeps (f : Field σ) (get : σ → α) : Prop := ∀ v s s', f.store v s = .ok s' → get s' = get s

theorem keeps_field {β : Type} {key : String} {read : Reader β} {put : β → σ → σ} {get : σ → α}
    (h : ∀ a s, get (put a s) = get s) : Keeps (field key read put) get := by
  intro v s s' hs
  obtain ⟨a, -, rfl⟩ := map_eq_ok_iff.1 hs
  exact h a s

theorem within_eq_ok_iff {key : String} {x : Except LoadError α} {a : α} :
    within key x = .ok a ↔ x = .ok a := by
  cases x <;> simp [within]

theorem holds_of_field {key : String} {read : Reader α} {put : α → σ → σ} {get : σ → α}
    (hfound : fields.find? (fun f => f.key == key) = some (field key read put))
    (hget : ∀ a s, get (put a s) = a) (hkept : ∀ f ∈ fields, f.key = key ∨ Keeps f get) :
    Holds fields key read get where
  taken := by
    intro v a ha s
    refine ⟨put a s, ?_, hget a s⟩
    simp only [storeEntry, hfound, field, ha, Except.map, within]
  refused := by
    intro v err herr s
    simp only [storeEntry, hfound, field, herr, Except.map, within]
  kept := by
    intro e s s' hne hs
    rw [storeEntry, within_eq_ok_iff] at hs
    split at hs
    · next f hf =>
      have hkey : f.key = e.1 := by simpa using List.find?_some hf
      rcases hkept f (List.mem_of_find?_eq_some hf) with hsame | hkeeps
      · exact absurd (hkey.symm.trans hsame) hne
      · exact hkeeps _ _ _ hs
    · cases hs

namespace Holds

variable {key : String} {read : Reader α} {get : σ → α}

theorem fits (h : Holds fields key read get) {v : Value} {a : α} (ha : read v = .ok a) :
    Fits fields (key, v) := fun s =>
  let ⟨s', hs', _⟩ := h.taken ha s
  ⟨s', hs'⟩

theorem kept_all (h : Holds fields key read get) (hnone : ∀ e ∈ es, e.1 ≠ key)
    (hread : readSection fields usual (.dict es) = .ok s) : get s = get usual := by
  rw [readSection] at hread
  induction es generalizing usual with
  | nil =>
    cases hread
    rfl
  | cons e es ih =>
    rw [List.foldlM_cons] at hread
    obtain ⟨s₁, hs₁, hread⟩ := bind_eq_ok_iff.1 hread
    rw [ih (fun e he => hnone e (List.mem_cons_of_mem _ he)) hread]
    exact h.kept (hnone e List.mem_cons_self) hs₁

theorem lookup (h : Holds fields key read get) (hnodup : (es.map Prod.fst).Nodup)
    (hread : readSection fields usual (.dict es) = .ok s) :
    match es.lookup key with
    | some v => read v = .ok (get s)
    | none => get s = get usual := by
  cases hv : es.lookup key with
  | none =>
    have hnone : ∀ e ∈ es, e.1 ≠ key := fun e he heq =>
      bne_iff_ne.1 (List.lookup_eq_none_iff.1 hv e he) heq.symm
    exact h.kept_all hnone hread
  | some v =>
    obtain ⟨before, after, rfl, -⟩ := List.lookup_eq_some_iff.1 hv
    have hafter : ∀ e ∈ after, e.1 ≠ key := by
      rw [List.map_append, List.map_cons] at hnodup
      have hkey := (List.nodup_cons.1 (List.nodup_append.1 hnodup).2.1).1
      exact fun e he heq => hkey (List.mem_map.2 ⟨e, he, heq⟩)
    rw [readSection, List.foldlM_append] at hread
    obtain ⟨s₁, -, hread⟩ := bind_eq_ok_iff.1 hread
    rw [List.foldlM_cons] at hread
    obtain ⟨s₂, hs₂, hread⟩ := bind_eq_ok_iff.1 hread
    have hget : get s = get s₂ := h.kept_all hafter hread
    cases ha : read v with
    | error err => rw [h.refused ha s₁] at hs₂; cases hs₂
    | ok a =>
      obtain ⟨s', hs', hs'a⟩ := h.taken ha s₁
      rw [hs₂] at hs'
      cases hs'
      exact ha.trans (congrArg Except.ok (hget.trans hs'a).symm)

end Holds

end TradeRegister.Settings
