import TradeRegister.Proofs.Service.Rules
import TradeRegister.Proofs.Store.Damage

/-! # Writing back what was read

A client may send back the company that it read: naming itself as the editor, without the creator,
and without whatever else it leaves out. New records and partial updates are checked by different
rules, yet every stored company passes as an update of itself, and such an update changes the editor
alone. A description that reads as cleared is sent back cleared, and empties a column that is empty.
-/

namespace TradeRegister

variable {α : Type}

def Attribute.dropIf (x : Attribute α) (dropped : Bool) : Attribute α :=
  if dropped then .unset else x

/-- Which attributes a client leaves out of what it sends back. -/
structure Company.Omitted where
  name : Bool
  description : Bool
  employeeCount : Bool
  registered : Bool
  kind : Bool

/-- The partial update that sends back a company as it was read. -/
def Company.writeBack (c : Company) (editor : Uuid) (omitted : Omitted) : Company where
  id := c.id
  name := c.name.dropIf omitted.name
  description := c.description.dropIf omitted.description
  employeeCount := c.employeeCount.dropIf omitted.employeeCount
  registered := c.registered.dropIf omitted.registered
  kind := c.kind.dropIf omitted.kind
  createdBy := .unset
  updatedBy := .value editor

/-! ## Attributes -/

namespace Attribute

theorem dropIf_value_ne_cleared (a : α) (dropped : Bool) : (value a).dropIf dropped ≠ .cleared := by
  cases dropped <;> simp [dropIf]

theorem over_dropIf (a : α) (dropped : Bool) : ((value a).dropIf dropped).Over a a := by
  cases dropped <;> rfl

theorem overNullable_dropIf (o : Option α) (dropped : Bool) :
    ((ofNullable o).dropIf dropped).OverNullable o o := by
  cases dropped with
  | true => rfl
  | false => cases o <;> rfl

end Attribute

/-! ## Rows -/

namespace Store.CompanyRow

variable {r : CompanyRow} {c : Company}

def editedBy (r : CompanyRow) (editor : Uuid) : CompanyRow := { r with updatedBy := some editor }

theorem read_eq_ok_iff :
    r.read = .ok c ↔ ∃ kind, r.kind = CompanyKind.name kind ∧ r.company kind = c := by
  constructor
  · intro h
    unfold read at h
    split at h
    · next kind hkind => exact ⟨kind, CompanyKind.eq_name_of_ofName? hkind, Except.ok.inj h⟩
    · cases h
  · rintro ⟨kind, hkind, rfl⟩
    exact read_eq hkind

theorem read_editedBy (h : r.read = .ok c) (editor : Uuid) :
    (r.editedBy editor).read = .ok { c with updatedBy := .value editor } := by
  obtain ⟨kind, hkind, rfl⟩ := read_eq_ok_iff.1 h
  exact read_eq hkind

/-- Written over its own row, a company changes nothing but the editor. -/
theorem patched_writeBack (h : r.read = .ok c) (editor : Uuid) (omitted : Company.Omitted) :
    Patched (c.writeBack editor omitted) r (r.editedBy editor) := by
  obtain ⟨kind, hkind, rfl⟩ := read_eq_ok_iff.1 h
  have hform :
      (((Attribute.value kind).dropIf omitted.kind).map CompanyKind.name).Over r.kind r.kind := by
    cases omitted.kind with
    | true => rfl
    | false => exact hkind
  exact {
    id := rfl
    name := Attribute.over_dropIf r.name omitted.name
    description := Attribute.overNullable_dropIf r.description omitted.description
    employeeCount := Attribute.over_dropIf r.employeeCount omitted.employeeCount
    registered := Attribute.over_dropIf r.registered omitted.registered
    kind := hform
    createdBy := rfl
    updatedBy := ⟨by simp [Company.writeBack], rfl⟩ }

end Store.CompanyRow

namespace Service

open Store (Backend Becomes CompanyRow Database Memory)
open Token (Authority)
open Delivery (Dispatcher)

variable {σ : Type} {limits : Limits} {r : CompanyRow} {c : Company} {editor : Uuid}

/-! ## Validation -/

namespace Limits

theorem checkGiven_dropIf {α : Type} {check : α → Except Fault Unit} {a : α} (h : check a = .ok ())
    (dropped : Bool) : checkGiven check ((Attribute.value a).dropIf dropped).value? = .ok () := by
  cases dropped with
  | true => rfl
  | false => exact h

theorem checkDescription_dropIf {x : Attribute String} (h : limits.checkDescription x = .ok ())
    (dropped : Bool) : limits.checkDescription (x.dropIf dropped) = .ok () := by
  cases dropped with
  | true => rfl
  | false => exact h

theorem Allows.passes_writeBack (hallows : limits.Allows r) (hread : r.read = .ok c)
    (heditor : editor ≠ .nil) (omitted : Company.Omitted) :
    limits.Passes (c.writeBack editor omitted) r.id := by
  obtain ⟨kind, _, rfl⟩ := CompanyRow.read_eq_ok_iff.1 hread
  exact {
    id := rfl
    editor := ⟨editor, rfl, checkActor_eq_ok_iff.2 heditor⟩
    name := Attribute.dropIf_value_ne_cleared r.name omitted.name
    checkName := checkGiven_dropIf (checkName_eq_ok_iff.2 hallows.name) omitted.name
    description := by
      apply checkDescription_dropIf
      apply checkDescription_eq_ok_iff.2
      intro text htext
      apply hallows.description
      exact Attribute.ofNullable_eq_value_iff.1 (Attribute.value?_eq_some_iff.1 htext)
    employeeCount := Attribute.dropIf_value_ne_cleared r.employeeCount omitted.employeeCount
    checkEmployeeCount :=
      checkGiven_dropIf (checkEmployeeCount_eq_ok_iff.2 hallows.employeeCount) omitted.employeeCount
    registered := Attribute.dropIf_value_ne_cleared r.registered omitted.registered
    kind := Attribute.dropIf_value_ne_cleared kind omitted.kind
    createdBy := rfl }

end Limits

/-! ## The service -/

variable {b : Backend σ} {l : b.Laws} {s : σ}

/-- The update is accepted: its target is there, and no other company has its name. -/
theorem updateCompany_writeBack (h : l.Intact s) (hrow : r ∈ b.companyRows s)
    (hallows : limits.Allows r) (hread : r.read = .ok c) (heditor : editor ≠ .nil)
    (omitted : Company.Omitted) :
    ∃ s', updateCompany b.companies limits (c.writeBack editor omitted) s =
        ⟨.ok { c with updatedBy := .value editor }, s', [.of .update r.id]⟩ ∧
      Becomes l.Sound b.companyRows b.userRows s s'
        ((b.companyRows s).map fun row => if row.id = r.id then r.editedBy editor else row) := by
  have hpasses := hallows.passes_writeBack hread heditor omitted
  have hpatched := CompanyRow.patched_writeBack hread editor omitted
  have hdistinct := l.companies h.sound
  have hout := updateCompany_outcome h limits (c.writeBack editor omitted)
  generalize updateCompany b.companies limits (c.writeBack editor omitted) s = o at hout
  cases hout with
  | invalid hcheck =>
    rw [Limits.checkPatch_eq_ok_iff.2 hpasses] at hcheck
    cases hcheck
  | missing hpasses' hnone =>
    exact absurd (Attribute.value.inj (hpasses.id.symm.trans hpasses'.id)) (hnone r hrow)
  | @taken old other hpasses' hold hother hne hname =>
    have hid : r.id = old.id := Attribute.value.inj (hpasses.id.symm.trans hpasses'.id)
    have hsame := (hpatched.name_eq_iff hdistinct hrow hother (hid ▸ hne)).2 hname
    obtain rfl := hdistinct.eq_of_name hother hrow hsame
    exact absurd hid hne
  | @written old next kind s' hpasses' hold hpatched' hkind _ hnext =>
    have hid : r.id = old.id := Attribute.value.inj (hpasses.id.symm.trans hpasses'.id)
    obtain rfl := hdistinct.eq_of_key hrow hold hid
    obtain rfl := hpatched'.unique hpatched
    have hanswer : (r.editedBy editor).company kind = { c with updatedBy := .value editor } :=
      Except.ok.inj ((CompanyRow.read_eq hkind).symm.trans (CompanyRow.read_editedBy hread editor))
    exact ⟨s', by rw [hanswer], hnext⟩

/-- What the service owes to a client that sends back the company that it read under `id`. -/
structure WritesBack (b : Backend σ) (limits : Limits) (s : σ) (id : Uuid) (c : Company)
    (editor : Uuid) (omitted : Company.Omitted) (o : Outcome σ Response) : Prop where
  passes : limits.checkPatch (c.writeBack editor omitted) = .ok id
  answered : o.result = .ok (.company { c with updatedBy := .value editor })
  rows : (b.companyRows o.state).Perm ((b.companyRows s).map fun row =>
    if row.id = id then { row with updatedBy := some editor } else row)
  users : b.userRows o.state = b.userRows s

/-- Every company that is stored can be read, and written back, in whole or in part, by every
editor. -/
def TakesBack (b : Backend σ) (d : Services σ) (s : σ) : Prop :=
  ∀ r ∈ b.companyRows s, ∀ supply, ∃ c,
    (d.answer supply s (.companyById r.id)).result = .ok (.company c) ∧
      ∀ editor, editor ≠ .nil → ∀ omitted later, WritesBack b d.limits s r.id c editor omitted
        (d.answer later s (.updateCompany (c.writeBack editor omitted)))

theorem takesBack (h : l.Intact s) (authority : Authority)
    (hallows : ∀ r ∈ b.companyRows s, limits.Allows r) :
    TakesBack b (b.services authority limits) s := by
  intro r hr supply
  obtain ⟨kind, hkind⟩ := h.known r hr
  have hread := CompanyRow.read_eq hkind
  have hfound := ((findsExactly h authority limits supply).byId_iff r.id _).2 ⟨r, hr, rfl, hread⟩
  refine ⟨r.company kind, hfound, ?_⟩
  intro editor heditor omitted later
  obtain ⟨s', hupdate, hnext⟩ :=
    updateCompany_writeBack h hr (hallows r hr) hread heditor omitted
  have hanswer : (b.services authority limits).answer later s
      (.updateCompany ((r.company kind).writeBack editor omitted)) =
      ⟨.ok (.company { r.company kind with updatedBy := .value editor }), s',
        [.of .update r.id]⟩ := by
    rw [answer_updateCompany, hupdate]
    rfl
  rw [hanswer]
  refine ⟨?_, rfl, ?_, hnext.kept⟩
  · exact Limits.checkPatch_eq_ok_iff.2 ((hallows r hr).passes_writeBack hread heditor omitted)
  · refine hnext.rows.trans (List.Perm.of_eq (List.map_congr_left fun row hrow => ?_))
    split
    · next hid =>
      obtain rfl := (l.companies h.sound).eq_of_key hrow hr hid
      rfl
    · rfl

theorem takesBack_after (l : b.Laws) (authority : Authority) (limits : Limits) (now : Instant)
    (dispatcher : Dispatcher) (steps : List Step) :
    TakesBack b (b.services authority limits)
      ((b.services authority limits).run steps ⟨b.start, now, dispatcher⟩).store := by
  have hstart : l.Intact b.start := .start
  exact takesBack (intact_run hstart authority limits steps) authority
    (allows_after l authority limits now dispatcher steps)

/-- Whatever was sent in before, and whichever store is behind the service, a client can read every
company and write it back, and changes nothing by it but the editor. -/
theorem takesBack_run (authority : Authority) (limits : Limits) (now : Instant)
    (dispatcher : Dispatcher) (steps : List Step) :
    TakesBack .memory (Backend.memory.services authority limits)
        ((Backend.memory.services authority limits).run steps
          ⟨Backend.memory.start, now, dispatcher⟩).store ∧
      TakesBack .database (Backend.database.services authority limits)
        ((Backend.database.services authority limits).run steps
          ⟨Backend.database.start, now, dispatcher⟩).store :=
  ⟨takesBack_after Memory.laws authority limits now dispatcher steps,
    takesBack_after Database.laws authority limits now dispatcher steps⟩

end Service
end TradeRegister
