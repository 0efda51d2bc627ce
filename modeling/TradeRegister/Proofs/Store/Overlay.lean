import TradeRegister.Proofs.Store.Damage

/-! # Partial updates of one row, one after the other

Partial updates of a row compose: two that are accepted in turn do what their overlay does at once,
where the later one counts for everything that it does not leave unset. A cleared description is
something said and an attribute left unset is not, so the law would fail if a column mixed them up.
An update that is refused leaves the row alone, whichever attribute it is refused for.
-/

namespace TradeRegister

/-! ## One attribute -/

namespace Attribute

variable {α β : Type}

/-- What was said later; if nothing was, what was said before. -/
def overlay (earlier : Attribute α) : Attribute α → Attribute α
  | .unset => earlier
  | later => later

variable {x y : Attribute α}

theorem overlay_self (x : Attribute α) : x.overlay x = x := by cases x <;> rfl

theorem overlay_value (a : α) : x.overlay (.value a) = .value a := rfl

theorem overlay_ne_cleared (hx : x ≠ .cleared) (hy : y ≠ .cleared) : x.overlay y ≠ .cleared := by
  cases y with
  | unset => exact hx
  | cleared => exact absurd rfl hy
  | value a => exact hy

theorem map_overlay (f : α → β) : (x.overlay y).map f = (x.map f).overlay (y.map f) := by
  cases y <;> rfl

theorem Over.overlay {old mid next : α} (hx : x.Over old mid) (hy : y.Over mid next) :
    (x.overlay y).Over old next := by
  cases y with
  | unset => exact Eq.subst (Eq.symm hy) hx
  | cleared => exact False.elim hy
  | value a => exact hy

theorem OverNullable.overlay {old mid next : Option α} (hx : x.OverNullable old mid)
    (hy : y.OverNullable mid next) : (x.overlay y).OverNullable old next := by
  cases y with
  | unset => exact Eq.subst (Eq.symm hy) hx
  | cleared => exact hy
  | value a => exact hy

end Attribute

/-! ## One record -/

/-- Two partial updates in one, attribute by attribute. -/
def Company.overlay (earlier later : Company) : Company where
  id := earlier.id.overlay later.id
  name := earlier.name.overlay later.name
  description := earlier.description.overlay later.description
  employeeCount := earlier.employeeCount.overlay later.employeeCount
  registered := earlier.registered.overlay later.registered
  kind := earlier.kind.overlay later.kind
  createdBy := earlier.createdBy.overlay later.createdBy
  updatedBy := earlier.updatedBy.overlay later.updatedBy

theorem Company.overlay_self (c : Company) : c.overlay c = c := by
  simp only [overlay, Attribute.overlay_self]

namespace Store

/-! ## One row -/

theorem Patched.overlay {p q : Company} {old mid next : CompanyRow} (hp : Patched p old mid)
    (hq : Patched q mid next) : Patched (p.overlay q) old next where
  id := hq.id.trans hp.id
  name := hp.name.overlay hq.name
  description := hp.description.overlay hq.description
  employeeCount := hp.employeeCount.overlay hq.employeeCount
  registered := hp.registered.overlay hq.registered
  kind := by
    rw [Company.overlay, Attribute.map_overlay]
    exact hp.kind.overlay hq.kind
  createdBy := hq.createdBy.trans hp.createdBy
  updatedBy := ⟨Attribute.overlay_ne_cleared hp.updatedBy.1 hq.updatedBy.1,
    hp.updatedBy.2.overlay hq.updatedBy.2⟩

namespace CompanyRow

variable {r mid next : CompanyRow} {p q patch : Company} {fault : Fault}

/-- The answer to a partial update of the row that is held, and the row that is held then. -/
def amended (r : CompanyRow) (patch : Company) : Except Fault Unit × CompanyRow :=
  (amendInPlace patch).run.run r

theorem amended_eq (r : CompanyRow) (patch : Company) :
    r.amended patch =
      match r.amend patch with
      | .ok next => (.ok (), next)
      | .error fault => (.error fault, r) := by
  have hrun : r.amended patch =
      (liftM (r.amend patch) >>= set : ExceptT Fault (StateM CompanyRow) Unit).run.run r := rfl
  rw [hrun]
  cases r.amend patch <;> rfl

theorem amended_eq_ok_iff : r.amended patch = (.ok (), next) ↔ r.amend patch = .ok next := by
  rw [amended_eq]
  cases r.amend patch <;> simp

theorem amended_eq_error_iff :
    r.amended patch = (.error fault, next) ↔ r.amend patch = .error fault ∧ next = r := by
  rw [amended_eq]
  cases r.amend patch <;> simp [eq_comm]

/-- The same for a series of updates, which the first refusal ends. -/
def amendedBy (r : CompanyRow) (patches : List Company) : Except Fault Unit × CompanyRow :=
  (patches.forM amendInPlace).run.run r

theorem amendedBy_nil (r : CompanyRow) : r.amendedBy [] = (.ok (), r) := rfl

theorem amendedBy_cons (r : CompanyRow) (p : Company) (later : List Company) :
    r.amendedBy (p :: later) =
      match r.amended p with
      | (.ok (), mid) => mid.amendedBy later
      | (.error fault, mid) => (.error fault, mid) := by
  change (amendInPlace p >>= fun _ => later.forM amendInPlace).run.run r = _
  rw [ExceptT.run_bind, StateT.run_bind, amended]
  cases (amendInPlace p).run.run r with
  | mk result mid => cases result <;> rfl

theorem amend_eq_ok_iff_patched :
    r.amend patch = .ok next ↔ (∃ id, patch.id = .value id) ∧ Patched patch r next := by
  rw [amend_eq, map_eq_ok_iff]
  constructor
  · rintro ⟨⟨id, w⟩, hpatch, rfl⟩
    exact ⟨⟨id, (CompanyWrite.ofPatch_eq_ok_iff.1 hpatch).1⟩, patched_overwrite hpatch r⟩
  · rintro ⟨⟨id, hid⟩, hpatched⟩
    have hpatch := CompanyWrite.ofPatch_eq_ok_iff.2 ⟨hid, hpatched.isWritable, rfl⟩
    exact ⟨_, hpatch, (patched_overwrite hpatch r).unique hpatched⟩

/-- Two updates in turn are their overlay. -/
theorem amend_overlay (hp : r.amend p = .ok mid) (hq : mid.amend q = .ok next) :
    r.amend (p.overlay q) = .ok next := by
  obtain ⟨_, hp⟩ := amend_eq_ok_iff_patched.1 hp
  obtain ⟨⟨id, hid⟩, hq⟩ := amend_eq_ok_iff_patched.1 hq
  refine amend_eq_ok_iff_patched.2 ⟨⟨id, ?_⟩, hp.overlay hq⟩
  rw [Company.overlay, hid, Attribute.overlay_value]

/-- A series of updates is the overlay of all of them. -/
theorem amend_overlay_series (hp : r.amend p = .ok mid) {later : List Company}
    (hlater : mid.amendedBy later = (.ok (), next)) :
    r.amend (later.foldl Company.overlay p) = .ok next := by
  induction later generalizing p mid with
  | nil =>
    rw [amendedBy_nil] at hlater
    rwa [(Prod.mk.inj hlater).2] at hp
  | cons q later ih =>
    rw [amendedBy_cons, amended_eq] at hlater
    cases hq : mid.amend q with
    | error fault =>
      rw [hq] at hlater
      cases hlater
    | ok mid' =>
      rw [hq] at hlater
      exact ih (amend_overlay hp hq) hlater

theorem amend_eq_error_iff :
    r.amend patch = .error fault ↔ CompanyWrite.ofPatch patch = .error fault := by
  rw [amend_eq, map_eq_error_iff]

theorem exists_amend (hp : r.amend p = .ok mid) (r' : CompanyRow) : ∃ next, r'.amend p = .ok next := by
  simp only [amend_eq, map_eq_ok_iff] at hp ⊢
  obtain ⟨target, htarget, -⟩ := hp
  exact ⟨_, target, htarget, rfl⟩

theorem amend_again (hp : r.amend p = .ok mid) : mid.amend p = .ok mid := by
  obtain ⟨next, hnext⟩ := exists_amend hp mid
  have hboth := amend_overlay hp hnext
  rw [Company.overlay_self, hp] at hboth
  rwa [← Except.ok.inj hboth] at hnext

theorem patched_editor (r : CompanyRow) (id editor : Uuid) :
    Patched (.patch id editor) r { r with updatedBy := some editor } where
  id := rfl
  name := rfl
  description := rfl
  employeeCount := rfl
  registered := rfl
  kind := rfl
  createdBy := rfl
  updatedBy := ⟨by rintro ⟨⟩, rfl⟩

end CompanyRow

/-- How partial updates act on a row that is held. -/
structure CompanyRow.TakesPatches (r : CompanyRow) : Prop where
  accepted_iff : ∀ patch next, r.amended patch = (.ok (), next) ↔
    (∃ id, patch.id = .value id) ∧ Patched patch r next
  overlay : ∀ p q mid next, r.amended p = (.ok (), mid) → mid.amended q = (.ok (), next) →
    r.amended (p.overlay q) = (.ok (), next)
  series : ∀ p later mid next, r.amended p = (.ok (), mid) → mid.amendedBy later = (.ok (), next) →
    r.amended (later.foldl Company.overlay p) = (.ok (), next)
  repeated : ∀ p mid, r.amended p = (.ok (), mid) → mid.amended p = (.ok (), mid)
  editorOnly : ∀ id editor, r.amended (.patch id editor) =
    (.ok (), { r with updatedBy := some editor })
  refused : ∀ patch fault next, r.amended patch = (.error fault, next) →
    CompanyWrite.ofPatch patch = .error fault ∧ next = r

theorem CompanyRow.takesPatches (r : CompanyRow) : r.TakesPatches where
  accepted_iff patch next := amended_eq_ok_iff.trans amend_eq_ok_iff_patched
  overlay p q mid next hp hq := by
    rw [amended_eq_ok_iff] at hp hq ⊢
    exact amend_overlay hp hq
  series p later mid next hp hlater := by
    rw [amended_eq_ok_iff] at hp ⊢
    exact amend_overlay_series hp hlater
  repeated p mid hp := by
    rw [amended_eq_ok_iff] at hp ⊢
    exact amend_again hp
  editorOnly id editor := by
    rw [amended_eq_ok_iff, amend_eq_ok_iff_patched]
    exact ⟨⟨id, rfl⟩, r.patched_editor id editor⟩
  refused patch fault next herror := by
    obtain ⟨hamend, hsame⟩ := amended_eq_error_iff.1 herror
    exact ⟨amend_eq_error_iff.1 hamend, hsame⟩

/-- The description could be cleared, but nothing is written. -/
example (r : CompanyRow) (id editor : Uuid) :
    r.amended { Company.patch id editor with description := .cleared, registered := .cleared } =
      (.error (.validation "registered" "cannot be cleared"), r) := rfl

end Store
end TradeRegister
