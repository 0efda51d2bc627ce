import TradeRegister.Proofs.Json.Record
import TradeRegister.Proofs.Json.RoundTrip
import TradeRegister.Proofs.Uuid
import TradeRegister.User

/-! # Records in JSON texts

A record is written as an object that leaves out the keys of its unset attributes. Reading the text
gives the record back, so nothing that was left out can be taken for empty, nor the other way round.
The password hash of an account takes no part: it is not written, and no text supplies one.
-/

namespace TradeRegister

namespace Json

/-- An object without any member of this name. -/
def Lacks (v : Json) (name : String) : Prop :=
  ∃ members named, v = .object members ∧ named? members = some named ∧ values name named = []

theorem lacks_ofFields_iff {fields : List (String × Json)} {name : String} :
    (ofFields fields).Lacks name ↔ values name fields = [] := by
  constructor
  · rintro ⟨members, named, hv, hnamed, h⟩
    obtain rfl := object.inj hv
    rw [named?_ofFields] at hnamed
    obtain rfl := Option.some.inj hnamed
    exact h
  · intro h
    exact ⟨_, fields, rfl, named?_ofFields fields, h⟩

theorem holds_ofFields_iff {fields : List (String × Json)} {name : String} {w : Json} :
    (ofFields fields).Holds name w ↔ values name fields = [w] := by
  constructor
  · rintro ⟨members, named, hv, hnamed, h⟩
    obtain rfl := object.inj hv
    rw [named?_ofFields] at hnamed
    obtain rfl := Option.some.inj hnamed
    exact h
  · intro h
    exact ⟨_, fields, rfl, named?_ofFields fields, h⟩

/-! ## Keys that may be left out -/

/-- The fields of a record of which some keys hold nothing. -/
def present : List (String × Option Json) → List (String × Json)
  | [] => []
  | (key, v) :: slots => (v.map (key, ·)).toList ++ present slots

theorem exists_slot_of_mem_present {slots : List (String × Option Json)} {f : String × Json}
    (hf : f ∈ present slots) : (f.1, some f.2) ∈ slots := by
  induction slots with
  | nil => cases hf
  | cons s slots ih =>
    obtain ⟨key, v⟩ := s
    rcases List.mem_append.1 hf with hf | hf
    · cases v with
      | none => cases hf
      | some v =>
        obtain rfl := List.mem_singleton.1 hf
        exact List.mem_cons_self
    · exact List.mem_cons_of_mem _ (ih hf)

theorem values_append (name : String) (fields fields' : List (String × Json)) :
    values name (fields ++ fields') = values name fields ++ values name fields' := by
  simp [values]

theorem values_eq_nil {name : String} {fields : List (String × Json)}
    (h : ∀ f ∈ fields, f.1 ≠ name) : values name fields = [] := by
  simpa [values] using fun key v hf => h (key, v) hf

/-- What is found under a key is what its slot holds. -/
theorem values_present {slots : List (String × Option Json)} (hkeys : (slots.map (·.1)).Nodup)
    {key : String} {v : Option Json} (hslot : (key, v) ∈ slots) :
    values key (present slots) = v.toList := by
  induction slots with
  | nil => cases hslot
  | cons s slots ih =>
    obtain ⟨first, w⟩ := s
    rw [List.map_cons, List.nodup_cons] at hkeys
    rw [present, values_append]
    rcases List.mem_cons.1 hslot with heq | hslot
    · obtain ⟨rfl, rfl⟩ := Prod.mk.inj heq
      have hrest : values key (present slots) = [] := by
        apply values_eq_nil
        intro f hf hname
        exact hkeys.1 (hname ▸ List.mem_map.2 ⟨_, exists_slot_of_mem_present hf, rfl⟩)
      rw [hrest, List.append_nil]
      cases v <;> simp [values]
    · have hother : first ≠ key := fun hname =>
        hkeys.1 (hname ▸ List.mem_map.2 ⟨(key, v), hslot, rfl⟩)
      have hfirst : values key (w.map (first, ·)).toList = [] := by
        apply values_eq_nil
        intro f hf
        cases w with
        | none => cases hf
        | some w =>
          obtain rfl := List.mem_singleton.1 hf
          exact hother
      rw [hfirst, ih hkeys.2 hslot, List.nil_append]

private theorem mapM_eq_some_map {α β : Type} {f : α → Option β} {g : α → β} {xs : List α}
    (h : ∀ x ∈ xs, f x = some (g x)) : xs.mapM f = some (xs.map g) := by
  induction xs with
  | nil => rfl
  | cons x xs ih =>
    obtain ⟨hx, hxs⟩ := List.forall_mem_cons.1 h
    rw [List.mapM_cons, hx, ih hxs]
    rfl

/-- A layout of these keys finds in a written record what each slot holds. -/
theorem read?_present {slots : List (String × Option Json)} (hkeys : (slots.map (·.1)).Nodup) :
    (⟨slots.map (·.1), false⟩ : Layout).read? (ofFields (present slots)) =
      some (slots.map (·.2)) := by
  rw [read?_ofFields, List.mapM_map]
  apply mapM_eq_some_map
  intro s hs
  rw [Function.comp_apply, values_present hkeys hs]
  cases s.2 <;> rfl

end Json

open Json (Lacks Holds Written)

/-! ## Attributes -/

namespace Attribute

variable {α : Type} {f : α → Json} {g : Json → Option α}

/-- What an object holds for an attribute. -/
def content? (f : α → Json) : Attribute α → Option Json
  | .unset => none
  | .cleared => some .null
  | .value a => some (f a)

theorem member_eq (key : String) (f : α → Json) (x : Attribute α) :
    x.member key f = ((x.content? f).map (key, ·)).toList := by
  cases x <;> rfl

/-- Nothing that stands for a value may be `null`. -/
theorem ofMember?_content? (hread : ∀ a, g (f a) = some a) (hnull : ∀ a, f a ≠ .null)
    (x : Attribute α) : ofMember? g (x.content? f) = some x := by
  cases x with
  | unset => rfl
  | cleared => rfl
  | value a =>
    have hvalue : Json.asNullable? g (f a) = (g (f a)).map some := by
      unfold Json.asNullable?
      split
      · next h => exact absurd h (hnull a)
      · rfl
    rw [content?, ofMember?, hvalue, hread]
    rfl

theorem written_of_content? (hf : ∀ a, Written (f a)) {x : Attribute α} {v : Json}
    (hv : x.content? f = some v) : Written v := by
  cases x with
  | unset => cases hv
  | cleared => exact Option.some.inj hv ▸ .null
  | value a => exact Option.some.inj hv ▸ hf a

/-- The member that an attribute has in an object: none if and only if it is unset, `null` if and
only if it is cleared, and else its value. -/
structure ShownIn (v : Json) (key : String) (f : α → Json) (x : Attribute α) : Prop where
  absent_iff : v.Lacks key ↔ x = .unset
  null_iff : v.Holds key .null ↔ x = .cleared
  value : ∀ a, x = .value a → v.Holds key (f a)

theorem shownIn_present {slots : List (String × Option Json)} (hkeys : (slots.map (·.1)).Nodup)
    (hnull : ∀ a, f a ≠ .null) {key : String} {x : Attribute α}
    (hslot : (key, x.content? f) ∈ slots) :
    x.ShownIn (.ofFields (Json.present slots)) key f := by
  have hvalues := Json.values_present hkeys hslot
  constructor
  · rw [Json.lacks_ofFields_iff, hvalues]
    cases x <;> simp [content?]
  · rw [Json.holds_ofFields_iff, hvalues]
    cases x with
    | value a => simp [content?, hnull a]
    | _ => simp [content?]
  · rintro a rfl
    rw [Json.holds_ofFields_iff, hvalues]
    rfl

end Attribute

theorem Uuid.ofJson?_toJson (u : Uuid) : Uuid.ofJson? u.toJson = some u := by
  rw [ofJson?, toJson, Json.asString?_ofString, Option.bind_some, parse?_text]

theorem CompanyKind.ofJson?_toJson (k : CompanyKind) : ofJson? k.toJson = some k := by
  rw [toJson, Json.ofString, Json.ofOctets, ofJson?, Json.text?_escape, Option.bind_some,
    ofName?_name]

namespace Attribute

theorem ofMember?_uuid (x : Attribute Uuid) :
    ofMember? Uuid.ofJson? (x.content? Uuid.toJson) = some x :=
  ofMember?_content? Uuid.ofJson?_toJson (by rintro _ ⟨⟩) x

theorem ofMember?_string (x : Attribute String) :
    ofMember? Json.asString? (x.content? Json.ofString) = some x :=
  ofMember?_content? Json.asString?_ofString (by rintro _ ⟨⟩) x

end Attribute

/-! ## Companies -/

namespace Company

/-- What each key of a company holds. -/
def slots (c : Company) : List (String × Option Json) :=
  [("id", c.id.content? Uuid.toJson), ("name", c.name.content? Json.ofString),
    ("description", c.description.content? Json.ofString),
    ("employee_count", c.employeeCount.content? fun n => .ofInt n.toInt),
    ("registered", c.registered.content? Json.bool),
    ("company_type", c.kind.content? CompanyKind.toJson),
    ("created_by", c.createdBy.content? Uuid.toJson),
    ("updated_by", c.updatedBy.content? Uuid.toJson)]

theorem toJson_eq (c : Company) : c.toJson = .ofFields (Json.present c.slots) := by
  simp only [toJson, slots, Json.present, Attribute.member_eq, List.append_assoc, List.append_nil]

theorem nodup_slots (c : Company) : (c.slots.map (·.1)).Nodup :=
  show keys.Nodup by decide

/-- Every attribute shows in the object as its state demands. -/
structure ShownIn (v : Json) (c : Company) : Prop where
  id : c.id.ShownIn v "id" Uuid.toJson
  name : c.name.ShownIn v "name" Json.ofString
  description : c.description.ShownIn v "description" Json.ofString
  employeeCount : c.employeeCount.ShownIn v "employee_count" fun n => .ofInt n.toInt
  registered : c.registered.ShownIn v "registered" Json.bool
  kind : c.kind.ShownIn v "company_type" CompanyKind.toJson
  createdBy : c.createdBy.ShownIn v "created_by" Uuid.toJson
  updatedBy : c.updatedBy.ShownIn v "updated_by" Uuid.toJson

theorem shownIn_toJson (c : Company) : c.ShownIn c.toJson := by
  rw [toJson_eq]
  constructor
  all_goals
    apply Attribute.shownIn_present c.nodup_slots
    · rintro _ ⟨⟩
    · simp [slots]

theorem ofJson?_toJson (c : Company) : ofJson? c.toJson = some c := by
  have hcount := Attribute.ofMember?_content? Json.asInt32?_ofInt (by rintro _ ⟨⟩) c.employeeCount
  have hregistered := Attribute.ofMember?_content? (f := Json.bool) (g := Json.asBool?)
    (fun _ => rfl) (by rintro _ ⟨⟩) c.registered
  have hkind := Attribute.ofMember?_content? CompanyKind.ofJson?_toJson (by rintro _ ⟨⟩) c.kind
  have hread := Json.read?_present c.nodup_slots
  rw [← toJson_eq] at hread
  unfold ofJson?
  rw [show keys = c.slots.map (·.1) from rfl, hread]
  simp only [slots, List.map_cons, List.map_nil, Attribute.ofMember?_uuid,
    Attribute.ofMember?_string, hcount, hregistered, hkind]
  rfl

theorem written_toJson (c : Company) : Written c.toJson := by
  rw [toJson_eq]
  apply Json.written_ofFields
  intro f hf
  have hslot := Json.exists_slot_of_mem_present hf
  simp only [slots, List.mem_cons, Prod.mk.injEq, List.not_mem_nil, or_false] at hslot
  rcases hslot with ⟨_, h⟩ | ⟨_, h⟩ | ⟨_, h⟩ | ⟨_, h⟩ | ⟨_, h⟩ | ⟨_, h⟩ | ⟨_, h⟩ | ⟨_, h⟩
  · exact Attribute.written_of_content? (fun _ => Json.written_ofString _) h.symm
  · exact Attribute.written_of_content? Json.written_ofString h.symm
  · exact Attribute.written_of_content? Json.written_ofString h.symm
  · exact Attribute.written_of_content? (fun _ => .int _) h.symm
  · exact Attribute.written_of_content? .bool h.symm
  · exact Attribute.written_of_content? (fun _ => Json.written_ofString _) h.symm
  · exact Attribute.written_of_content? (fun _ => Json.written_ofString _) h.symm
  · exact Attribute.written_of_content? (fun _ => Json.written_ofString _) h.symm

theorem parse?_render (c : Company) : parse? c.render = some c := by
  rw [parse?, render, Json.parse?_render c.written_toJson, Option.bind_some, ofJson?_toJson]

end Company

/-! ## Accounts -/

namespace User

/-- What each key of an account holds. -/
def slots (u : User) : List (String × Option Json) :=
  [("id", u.id.content? Uuid.toJson), ("username", u.username.content? Json.ofString)]

theorem toJson_eq (u : User) : u.toJson = .ofFields (Json.present u.slots) := by
  simp only [toJson, slots, Json.present, Attribute.member_eq, List.append_nil]

theorem nodup_slots (u : User) : (u.slots.map (·.1)).Nodup :=
  show ["id", "username"].Nodup by decide

/-- Every attribute shows in the object as its state demands, and a password hash never does. -/
structure ShownIn (v : Json) (u : User) : Prop where
  id : u.id.ShownIn v "id" Uuid.toJson
  username : u.username.ShownIn v "username" Json.ofString
  passwordHash : v.Lacks "password_hash"

theorem shownIn_toJson (u : User) : u.ShownIn u.toJson := by
  rw [toJson_eq]
  refine ⟨?_, ?_, ?_⟩
  · exact Attribute.shownIn_present u.nodup_slots (by rintro _ ⟨⟩) (by simp [slots])
  · exact Attribute.shownIn_present u.nodup_slots (by rintro _ ⟨⟩) (by simp [slots])
  · rw [Json.lacks_ofFields_iff]
    apply Json.values_eq_nil
    intro f hf hname
    have hslot := Json.exists_slot_of_mem_present hf
    rw [hname] at hslot
    simp [slots] at hslot

/-- What was written of an account is read back; its password hash is not among it. -/
theorem ofJson?_toJson (u : User) : ofJson? u.toJson = some { u with passwordHash := .unset } := by
  have hread := Json.read?_present u.nodup_slots
  rw [← toJson_eq] at hread
  unfold ofJson?
  rw [show ["id", "username"] = u.slots.map (·.1) from rfl, hread]
  simp only [slots, List.map_cons, List.map_nil, Attribute.ofMember?_uuid,
    Attribute.ofMember?_string]
  rfl

theorem written_toJson (u : User) : Written u.toJson := by
  rw [toJson_eq]
  apply Json.written_ofFields
  intro f hf
  have hslot := Json.exists_slot_of_mem_present hf
  simp only [slots, List.mem_cons, Prod.mk.injEq, List.not_mem_nil, or_false] at hslot
  rcases hslot with ⟨_, h⟩ | ⟨_, h⟩
  · exact Attribute.written_of_content? (fun _ => Json.written_ofString _) h.symm
  · exact Attribute.written_of_content? Json.written_ofString h.symm

theorem parse?_render (u : User) : parse? u.render = some { u with passwordHash := .unset } := by
  rw [parse?, render, Json.parse?_render u.written_toJson, Option.bind_some, ofJson?_toJson]

theorem passwordHash_of_ofJson? {v : Json} {u : User} (h : ofJson? v = some u) :
    u.passwordHash = .unset := by
  unfold ofJson? at h
  split at h
  · simp only [Option.bind_eq_bind, Option.bind_eq_some_iff, Option.some.injEq] at h
    obtain ⟨id, _, username, _, rfl⟩ := h
    rfl
  · cases h

end User

/-- A company is read back from its text as it was, unset attributes, cleared ones and values alike,
and so is an account except for its password hash, which no text tells and no text supplies. -/
theorem records_readBack :
    (∀ c : Company, Company.parse? c.render = some c ∧
      ∃ v, Json.parse? c.render = some v ∧ c.ShownIn v) ∧
    (∀ text, (Company.parse? text).bind (fun c => Company.parse? c.render) =
      Company.parse? text) ∧
    (∀ u : User, User.parse? u.render = some { u with passwordHash := .unset } ∧
      (∃ v, Json.parse? u.render = some v ∧ u.ShownIn v) ∧
      ∀ hash, ({ u with passwordHash := hash } : User).render = u.render) ∧
    ∀ text, (User.parse? text).all fun u => u.passwordHash.isUnset := by
  refine ⟨?_, ?_, ?_, ?_⟩
  · intro c
    exact ⟨c.parse?_render, c.toJson, Json.parse?_render c.written_toJson, c.shownIn_toJson⟩
  · intro text
    simp only [Company.parse?_render]
    exact Option.bind_fun_some _
  · intro u
    exact ⟨u.parse?_render, ⟨u.toJson, Json.parse?_render u.written_toJson, u.shownIn_toJson⟩,
      fun _ => rfl⟩
  · intro text
    cases hread : User.parse? text with
    | none => rfl
    | some u =>
      obtain ⟨v, _, hu⟩ := Option.bind_eq_some_iff.1 hread
      rw [Option.all_some, User.passwordHash_of_ofJson? hu]
      rfl

end TradeRegister
