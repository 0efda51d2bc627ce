import TradeRegister.Proofs.Settings.Section

/-! # The leaves of the settings

Five sections hold fourteen values, each read by itself from the entry with its key. Nothing else
is known: not in a section, not beside the sections, and not inside a value.
-/

namespace TradeRegister.Settings

/-! ## Sections -/

inductive Section
  | database
  | auth
  | events
  | service
  | logging
deriving DecidableEq

namespace Section

def name : Section → String
  | .database => "database"
  | .auth => "auth"
  | .events => "events"
  | .service => "service"
  | .logging => "logging"

abbrev Record : Section → Type
  | .database => Database
  | .auth => Token.Settings
  | .events => Events
  | .service => Service.Limits
  | .logging => Logging

def fields : (p : Section) → List (Field p.Record)
  | .database => databaseFields
  | .auth => authFields
  | .events => eventFields
  | .service => serviceFields
  | .logging => loggingFields

def usual : (p : Section) → p.Record
  | .database => {}
  | .auth => {}
  | .events => {}
  | .service => {}
  | .logging => {}

def get : (p : Section) → Settings → p.Record
  | .database => Settings.database
  | .auth => Settings.auth
  | .events => Settings.events
  | .service => Settings.service
  | .logging => Settings.logging

theorem name_injective {p q : Section} (h : p.name = q.name) : p = q := by
  cases p <;> cases q <;> first | rfl | exact absurd h (by decide)

theorem get_usual (p : Section) : p.get {} = p.usual := by
  cases p <;> rfl

/-- A section is read by itself. -/
theorem holds (p : Section) : Holds sections p.name (readSection p.fields p.usual) p.get := by
  cases p <;> refine holds_of_field rfl (fun _ _ => rfl) ?_ <;>
    simp only [sections, List.forall_mem_cons, List.not_mem_nil, false_implies, implies_true,
      and_true] <;>
    refine ⟨?_, ?_, ?_, ?_, ?_⟩ <;>
      first | exact .inl rfl | exact .inr (keeps_field (by intros; rfl))

end Section

/-! ## Leaves -/

/-- A value in a section: its key, how it is read, and where it is kept. -/
structure Leaf where
  place : Section
  {α : Type}
  key : String
  read : Reader α
  pick : place.Record → α

namespace Leaf

def get (l : Leaf) (s : Settings) : l.α := l.pick (l.place.get s)

def path (l : Leaf) : List String := [l.place.name, l.key]

theorem of_path {l : Leaf} {p : Section} {key : String} (h : l.path = [p.name, key]) :
    l.place = p ∧ l.key = key := by
  rw [path, List.cons.injEq, List.cons.injEq] at h
  exact ⟨Section.name_injective h.1, h.2.1⟩

end Leaf

def leaves : List Leaf :=
  [⟨.database, "url", readText, Database.url⟩,
    ⟨.database, "max_connections", readNat UInt32.size, Database.maxConnections⟩,
    ⟨.database, "connect_timeout", readSpan, Database.connectTimeout⟩,
    ⟨.database, "acquire_timeout", readSpan, Database.acquireTimeout⟩,
    ⟨.auth, "issuer", readText, Token.Settings.issuer⟩,
    ⟨.auth, "secret", readText, fun s => s.secret.value⟩,
    ⟨.auth, "lifetime", readSpan, Token.Settings.lifetime⟩,
    ⟨.events, "sink", readVariant [("noop", .noop), ("broadcast", .broadcast)], Events.sink⟩,
    ⟨.events, "topic", readText, Events.topic⟩,
    ⟨.events, "capacity", readNat UInt64.size, Events.capacity⟩,
    ⟨.service, "max_name_length", readNat UInt64.size, Service.Limits.maxNameLength⟩,
    ⟨.service, "max_description_length", readNat UInt64.size,
      Service.Limits.maxDescriptionLength⟩,
    ⟨.logging, "level", readText, Logging.level⟩,
    ⟨.logging, "json", readBool, Logging.json⟩]

/-- Every entry of a leaf's section with the leaf's key sets the leaf, and no other does. -/
theorem Leaf.holds {l : Leaf} (h : l ∈ leaves) : Holds l.place.fields l.key l.read l.pick := by
  revert l
  simp only [leaves, List.forall_mem_cons, List.not_mem_nil, false_implies, implies_true, and_true]
  and_intros <;> refine holds_of_field rfl (fun _ _ => rfl) ?_ <;>
    simp only [Section.fields, databaseFields, authFields, eventFields, serviceFields,
      loggingFields, List.forall_mem_cons, List.not_mem_nil, false_implies, implies_true,
      and_true] <;>
    and_intros <;> first | exact .inl rfl | exact .inr (keeps_field (by intros; rfl))

/-- Nothing else is in the settings. -/
theorem ext_of_leaves {s t : Settings} (h : ∀ l ∈ leaves, l.get s = l.get t) : s = t := by
  simp only [leaves, List.forall_mem_cons, List.not_mem_nil, false_implies, implies_true, and_true,
    Leaf.get, Section.get] at h
  obtain ⟨⟨_, _, _, _⟩, ⟨_, ⟨_⟩, _⟩, ⟨_, _, _⟩, ⟨_, _⟩, ⟨_, _⟩⟩ := s
  obtain ⟨⟨_, _, _, _⟩, ⟨_, ⟨_⟩, _⟩, ⟨_, _, _⟩, ⟨_, _⟩, ⟨_, _⟩⟩ := t
  simp only at h
  simp [h]

/-- Every field of a section is a leaf. -/
theorem exists_leaf (p : Section) : ∀ f ∈ p.fields, ∃ l ∈ leaves, l.path = [p.name, f.key] := by
  cases p <;> decide

end TradeRegister.Settings
