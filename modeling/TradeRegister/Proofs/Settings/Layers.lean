import Mathlib.Data.List.Induction
import TradeRegister.Proofs.Settings.Leaves

/-! # Settings from layers

Of several layers the last one that supplies a value wins, for every value by itself, and what no
layer supplies keeps its usual value. The settings are answered when they meet three requirements,
and otherwise the first that they miss is named. What no setting takes is refused in whichever
layer it stands, unless a later layer lays something other than a dictionary over it.
-/

namespace TradeRegister.Settings

open Value (Sorted at? covers merge)

/-! ## What layers say -/

/-- A layer of known sections, each a dictionary of known leaves, each a scalar of its type. -/
structure IsTyped (layer : Value) : Prop where
  isDict : layer.isDict = true
  atSection : ∀ {name v}, layer.at? [name] = some v →
    v.isDict = true ∧ ∃ p : Section, p.name = name
  atLeaf : ∀ {name key v}, layer.at? [name, key] = some v →
    v.isDict = false ∧ ∃ l ∈ leaves, l.path = [name, key] ∧ ∃ a, l.read v = .ok a

/-- What the last layer that supplies the leaf says. -/
def Leaf.last? (l : Leaf) (layers : List Value) : Option Value :=
  layers.reverse.findSome? fun layer => layer.at? l.path

/-- Every leaf is what the last layer that supplies it says, or what it usually is. -/
def LastWins (layers : List Value) (s : Settings) : Prop :=
  ∀ l ∈ leaves,
    match l.last? layers with
    | some v => l.read v = .ok (l.get s)
    | none => l.get s = l.get {}

/-- What settings must meet, and what is said of those that miss it. -/
structure Requirement where
  key : String
  message : String
  isMet : Settings → Bool

def requirements : List Requirement :=
  [⟨"database.url", "must not be empty", fun s => Text.trim s.database.url != ""⟩,
    ⟨"database.max_connections", "must be at least 1", fun s => 1 ≤ s.database.maxConnections⟩,
    ⟨"events.topic", "must not be empty", fun s => Text.trim s.events.topic != ""⟩]

/-- Settings are answered if they meet every requirement, and otherwise the first that they miss is
named. -/
structure Answers (x : Except Error Settings) (s : Settings) : Prop where
  accepted : x = .ok s ↔ ∀ r ∈ requirements, r.isMet s = true
  refused : ∀ {r}, requirements.find? (fun r => !r.isMet s) = some r →
    x = .error (.invalid r.key r.message)

/-- Paths to what no setting takes: other sections, other keys in a section, and keys inside a
leaf. The sink may be named by a dictionary, so what is inside it is left out here. -/
def IsUnknown : List String → Prop
  | [] => False
  | [name] => ∀ p : Section, p.name ≠ name
  | [name, key] => ∀ l ∈ leaves, l.path ≠ [name, key]
  | name :: key :: _ => ¬(name = "events" ∧ key = "sink")

/-! ## Checks -/

theorem isBlank_eq (s : String) : Text.isBlank s = (Text.trim s == "") := by
  rw [Bool.eq_iff_iff, beq_iff_eq]
  exact Text.isBlank_iff_trim s

theorem check_eq (s : Settings) :
    s.check =
      match requirements.find? fun r => !r.isMet s with
      | some r => .error (.invalid r.key r.message)
      | none => .ok s := by
  have hconnections : (!decide (1 ≤ s.database.maxConnections)) =
      decide (s.database.maxConnections = 0) := by
    rw [← decide_not, decide_eq_decide]
    omega
  rw [check, isBlank_eq, isBlank_eq]
  simp only [requirements, bne, Bool.not_not, List.find?_cons, List.find?_nil, hconnections]
  split
  · next hurl => simp only [hurl]
  · next hurl =>
    rw [Bool.not_eq_true] at hurl
    simp only [hurl]
    split
    · next hzero => simp only [hzero, decide_true]
    · next hpos =>
      simp only [hpos, decide_false]
      split
      · next htopic => simp only [htopic]
      · next htopic =>
        rw [Bool.not_eq_true] at htopic
        simp only [htopic]

theorem answers_check (s : Settings) : Answers s.check s where
  accepted := by
    rw [check_eq]
    constructor
    · intro h r hr
      cases hfind : requirements.find? fun r => !r.isMet s with
      | none => simpa using List.find?_eq_none.1 hfind r hr
      | some r' => rw [hfind] at h; cases h
    · intro h
      have hnone : requirements.find? (fun r => !r.isMet s) = none :=
        List.find?_eq_none.2 fun r hr => by simp [h r hr]
      rw [hnone]
  refused := by
    intro r hr
    rw [check_eq, hr]

/-! ## Typed layers -/

namespace IsTyped

variable {u v : Value}

theorem covers_section (hv : v.isDict = true) (name : String) : v.covers [name] = false := by
  obtain ⟨es, rfl⟩ := Value.exists_dict hv
  cases hlookup : es.lookup name <;> simp [covers, hlookup]

theorem covers_leaf (hv : IsTyped v) (name key : String) : v.covers [name, key] = false := by
  obtain ⟨es, rfl⟩ := Value.exists_dict hv.isDict
  cases hlookup : es.lookup name with
  | none => simp [covers, hlookup]
  | some w =>
    have hat : (Value.dict es).at? [name] = some w := by simp [at?, hlookup]
    rw [covers, hlookup, Option.map_some, Option.getD_some]
    exact covers_section (hv.atSection hat).1 key

/-- Where the later layer says nothing about a leaf, the earlier one does. -/
theorem at?_merge_leaf (hv : IsTyped v) (hsorted : Sorted v) (u : Value) (name key : String) :
    (merge u v).at? [name, key] = (v.at? [name, key]).or (u.at? [name, key]) := by
  rw [Value.at?_merge hsorted (hv.covers_leaf name key)]
  cases hnew : v.at? [name, key] with
  | none => cases u.at? [name, key] <;> rfl
  | some y =>
    cases u.at? [name, key] with
    | none => rfl
    | some x => exact congrArg some (Value.merge_leaf (hv.atLeaf hnew).1 x)

protected theorem merge (hu : IsTyped u) (hv : IsTyped v) (hsorted : Sorted v) :
    IsTyped (merge u v) where
  isDict := by
    obtain ⟨base, rfl⟩ := Value.exists_dict hu.isDict
    obtain ⟨es, rfl⟩ := Value.exists_dict hv.isDict
    rfl
  atSection := by
    intro name w hw
    rw [Value.at?_merge hsorted (covers_section hv.isDict name)] at hw
    cases hold : u.at? [name] with
    | none =>
      rw [hold] at hw
      exact hv.atSection hw
    | some x =>
      cases hnew : v.at? [name] with
      | none =>
        rw [hold, hnew] at hw
        cases hw
        exact hu.atSection hold
      | some y =>
        rw [hold, hnew] at hw
        cases hw
        obtain ⟨base, rfl⟩ := Value.exists_dict (hu.atSection hold).1
        obtain ⟨es, rfl⟩ := Value.exists_dict (hv.atSection hnew).1
        exact ⟨rfl, (hv.atSection hnew).2⟩
  atLeaf := by
    intro name key w hw
    rw [hv.at?_merge_leaf hsorted] at hw
    rcases Option.or_eq_some_iff.1 hw with hnew | ⟨-, hold⟩
    · exact hv.atLeaf hnew
    · exact hu.atLeaf hold

end IsTyped

/-- An entry for a section of entries that its leaves take. -/
def IsTypedEntry (e : String × Value) : Prop :=
  ∃ (p : Section) (fs : List (String × Value)), e = (p.name, .dict fs) ∧
    ∀ f ∈ fs, f.2.isDict = false ∧ ∃ l ∈ leaves, l.path = [p.name, f.1] ∧ ∃ a, l.read f.2 = .ok a

theorem isTypedEntry_nil (p : Section) : IsTypedEntry (p.name, .dict []) :=
  ⟨p, [], rfl, List.forall_mem_nil _⟩

theorem IsTypedEntry.cons {l : Leaf} {fs : List (String × Value)}
    (h : IsTypedEntry (l.place.name, .dict fs)) (hl : l ∈ leaves) {v : Value} {a : l.α}
    (hv : v.isDict = false) (ha : l.read v = .ok a) :
    IsTypedEntry (l.place.name, .dict ((l.key, v) :: fs)) := by
  obtain ⟨p, gs, heq, hgs⟩ := h
  rw [Prod.mk.injEq] at heq
  cases heq.2
  exact ⟨p, _, Prod.ext heq.1 rfl,
    List.forall_mem_cons.2 ⟨⟨hv, l, hl, congrArg (fun name => [name, l.key]) heq.1, a, ha⟩, hgs⟩⟩

theorem isTypedEntry_single {l : Leaf} (hl : l ∈ leaves) {v : Value} {a : l.α}
    (hv : v.isDict = false) (ha : l.read v = .ok a) :
    IsTypedEntry (l.place.name, .dict [(l.key, v)]) :=
  (isTypedEntry_nil l.place).cons hl hv ha

theorem IsTyped.of_entries {es : List (String × Value)} (h : ∀ e ∈ es, IsTypedEntry e) :
    IsTyped (.dict es) where
  isDict := rfl
  atSection := by
    intro name v hv
    have hlookup : es.lookup name = some v := by simpa [at?] using hv
    obtain ⟨p, fs, he, -⟩ := h _ (Value.mem_of_lookup hlookup)
    cases he
    exact ⟨rfl, p, rfl⟩
  atLeaf := by
    intro name key w hw
    obtain ⟨v, hlookup, hw⟩ := Option.bind_eq_some_iff.1 hw
    obtain ⟨p, fs, he, hfs⟩ := h _ (Value.mem_of_lookup hlookup)
    cases he
    have hleaf : fs.lookup key = some w := by simpa [at?] using hw
    exact hfs _ (Value.mem_of_lookup hleaf)

/-! ## All layers laid over each other -/

def laid (layers : List Value) : Value := layers.foldl merge (.dict [])

theorem laid_append (layers : List Value) (v : Value) :
    laid (layers ++ [v]) = merge (laid layers) v := by
  rw [laid, List.foldl_append]
  rfl

theorem sorted_laid {layers : List Value} (h : ∀ v ∈ layers, Sorted v) : Sorted (laid layers) := by
  induction layers using List.reverseRecOn with
  | nil => exact Value.sorted_nil
  | append_singleton layers v ih =>
    rw [List.forall_mem_append, List.forall_mem_singleton] at h
    rw [laid_append]
    exact h.2.laidOver (ih h.1)

/-- Typed layers give a typed layer, which says of every leaf what the last of them says. -/
theorem typed_laid {layers : List Value} (hsorted : ∀ v ∈ layers, Sorted v)
    (htyped : ∀ v ∈ layers, IsTyped v) :
    IsTyped (laid layers) ∧ ∀ l : Leaf, (laid layers).at? l.path = l.last? layers := by
  induction layers using List.reverseRecOn with
  | nil =>
    refine ⟨⟨rfl, fun h => ?_, fun h => ?_⟩, fun l => rfl⟩ <;> cases h
  | append_singleton layers v ih =>
    rw [List.forall_mem_append, List.forall_mem_singleton] at hsorted htyped
    obtain ⟨hlaid, hlast⟩ := ih hsorted.1 htyped.1
    rw [laid_append]
    refine ⟨hlaid.merge htyped.2 hsorted.2, fun l => ?_⟩
    rw [Leaf.path, htyped.2.at?_merge_leaf hsorted.2, ← Leaf.path, hlast, Leaf.last?, Leaf.last?,
      List.reverse_append, List.reverse_singleton, List.singleton_append, List.findSome?_cons]
    cases v.at? l.path <;> rfl

/-- What stands in a layer is still there once all are laid over each other, unless a later one
covers it. -/
theorem isSome_at?_laid {before after : List Value} {layer : Value} {path : List String}
    (hsorted : ∀ v ∈ layer :: after, Sorted v) (hlayer : (layer.at? path).isSome)
    (hafter : ∀ v ∈ after, v.covers path = false) :
    ((laid (before ++ layer :: after)).at? path).isSome := by
  rw [List.forall_mem_cons] at hsorted
  induction after using List.reverseRecOn with
  | nil =>
    rw [laid_append]
    exact Value.isSome_at?_merge_later hsorted.1 hlayer
  | append_singleton after v ih =>
    rw [List.forall_mem_append, List.forall_mem_singleton] at hsorted hafter
    rw [← List.cons_append, ← List.append_assoc, laid_append]
    exact Value.isSome_at?_merge hsorted.2.2 hafter.2 (ih ⟨hsorted.1, hsorted.2.1⟩ hafter.1)

theorem ofLayers_eq {layers : List Value} (h : ∀ v ∈ layers, v.isDict = true) :
    ofLayers layers = ofValue (laid layers) := by
  rw [ofLayers, if_pos (List.all_eq_true.2 h), laid]

/-! ## Reading what is laid -/

theorem IsTyped.read_section {v : Value} (h : IsTyped v) (hsorted : Sorted v) {p : Section}
    {w : Value} (hw : v.at? [p.name] = some w) : ∃ a, readSection p.fields p.usual w = .ok a := by
  obtain ⟨es, rfl⟩ := Value.exists_dict h.isDict
  obtain ⟨fs, rfl⟩ := Value.exists_dict (h.atSection hw).1
  have hlookup : es.lookup p.name = some (.dict fs) := by simpa [at?] using hw
  have hfs := (hsorted.of_lookup hlookup).entries.1.nodup
  apply readSection_of_fits
  rintro ⟨key, x⟩ hx
  have hleaf : (Value.dict es).at? [p.name, key] = some x := by
    simp [at?, hlookup, Value.lookup_of_mem hfs hx]
  obtain ⟨-, l, hl, hpath, a, ha⟩ := h.atLeaf hleaf
  obtain ⟨rfl, rfl⟩ := Leaf.of_path hpath
  exact (Leaf.holds hl).fits ha

theorem IsTyped.read {v : Value} (h : IsTyped v) (hsorted : Sorted v) :
    ∃ s, readSection sections {} v = .ok s ∧
      ∀ l ∈ leaves,
        match v.at? l.path with
        | some w => l.read w = .ok (l.get s)
        | none => l.get s = l.get {} := by
  obtain ⟨es, rfl⟩ := Value.exists_dict h.isDict
  have hnodup := hsorted.entries.1.nodup
  obtain ⟨s, hs⟩ : ∃ s, readSection sections {} (.dict es) = .ok s := by
    refine readSection_of_fits fun e he => ?_
    have he' : (Value.dict es).at? [e.1] = some e.2 := by
      simp [at?, Value.lookup_of_mem hnodup he]
    obtain ⟨-, p, hp⟩ := h.atSection he'
    rw [← hp] at he'
    obtain ⟨a, ha⟩ := h.read_section hsorted he'
    have hfits := p.holds.fits ha
    rwa [hp] at hfits
  refine ⟨s, hs, fun l hl => ?_⟩
  have hplace := l.place.holds.lookup hnodup hs
  cases hlookup : es.lookup l.place.name with
  | none =>
    rw [hlookup] at hplace
    simp only [Leaf.path, at?, hlookup, Option.bind_none, Leaf.get]
    exact congrArg l.pick hplace
  | some w =>
    rw [hlookup] at hplace
    have hat : (Value.dict es).at? [l.place.name] = some w := by simp [at?, hlookup]
    obtain ⟨fs, rfl⟩ := Value.exists_dict (h.atSection hat).1
    have hread := (Leaf.holds hl).lookup (hsorted.of_lookup hlookup).entries.1.nodup hplace
    simp only [Leaf.path, at?, hlookup, Option.bind_some]
    cases hleaf : fs.lookup l.key with
    | none =>
      rw [hleaf] at hread
      simp only [Option.bind_none, Leaf.get, Section.get_usual]
      exact hread
    | some w =>
      rw [hleaf] at hread
      exact hread

theorem read_laid {layers : List Value} (hsorted : ∀ v ∈ layers, Sorted v)
    (htyped : ∀ v ∈ layers, IsTyped v) :
    ∃ s, readSection sections {} (laid layers) = .ok s ∧ LastWins layers s := by
  obtain ⟨hlaid, hlast⟩ := typed_laid hsorted htyped
  obtain ⟨s, hs, hleaves⟩ := hlaid.read (sorted_laid hsorted)
  refine ⟨s, hs, fun l hl => ?_⟩
  rw [← hlast l]
  exact hleaves l hl

theorem LastWins.unique {layers : List Value} {s t : Settings} (hs : LastWins layers s)
    (ht : LastWins layers t) : s = t := by
  refine ext_of_leaves fun l hl => ?_
  have hsl := hs l hl
  have htl := ht l hl
  cases hlast : l.last? layers with
  | none =>
    rw [hlast] at hsl htl
    exact hsl.trans htl.symm
  | some v =>
    rw [hlast] at hsl htl
    exact Except.ok.inj (hsl.symm.trans htl)

/-- No leaf but the sink can be a dictionary. -/
theorem Leaf.read_dict {l : Leaf} (hl : l ∈ leaves) (hsink : l.path ≠ ["events", "sink"])
    (es : List (String × Value)) : ∃ err, l.read (.dict es) = .error err := by
  revert l
  simp only [leaves, List.forall_mem_cons, List.not_mem_nil, false_implies, implies_true, and_true]
  and_intros <;> intro hsink <;> first | exact ⟨_, rfl⟩ | exact absurd rfl hsink

theorem unfit_of_no_section {name : String} (h : ¬∃ p : Section, p.name = name) (v : Value) :
    Unfit sections (name, v) ⟨.unknownField, [name]⟩ := by
  have hknown : ∀ f ∈ sections, ∃ p : Section, p.name = f.key := by
    simp only [sections, List.forall_mem_cons, List.not_mem_nil, false_implies, implies_true,
      and_true]
    exact ⟨⟨.database, rfl⟩, ⟨.auth, rfl⟩, ⟨.events, rfl⟩, ⟨.service, rfl⟩, ⟨.logging, rfl⟩⟩
  refine unfit_of_unknown (fun f hf hkey => ?_) v
  obtain ⟨p, hp⟩ := hknown f hf
  exact h ⟨p, hp.trans hkey⟩

theorem unfit_of_no_leaf {p : Section} {key : String} (h : ∀ l ∈ leaves, l.path ≠ [p.name, key])
    (v : Value) : Unfit p.fields (key, v) ⟨.unknownField, [key]⟩ := by
  refine unfit_of_unknown (fun f hf hkey => ?_) v
  obtain ⟨l, hl, hpath⟩ := exists_leaf p f hf
  exact h l hl (hkey ▸ hpath)

theorem exists_lookup_of_at? {v : Value} {key : String} {path : List String}
    (h : (v.at? (key :: path)).isSome) :
    ∃ es w, v = .dict es ∧ es.lookup key = some w ∧ (w.at? path).isSome := by
  obtain ⟨x, hx⟩ := Option.isSome_iff_exists.1 h
  cases v with
  | dict es =>
    obtain ⟨w, hw, hx⟩ := Option.bind_eq_some_iff.1 hx
    exact ⟨es, w, rfl, hw, Option.isSome_iff_exists.2 ⟨x, hx⟩⟩
  | _ => cases hx

theorem error_of_unknown_in {p : Section} {w : Value} {key : String} {rest : List String}
    (hunknown : IsUnknown (p.name :: key :: rest)) (hw : (w.at? (key :: rest)).isSome) :
    ∃ err, readSection p.fields p.usual w = .error err := by
  obtain ⟨fs, x, rfl, hlookup, hx⟩ := exists_lookup_of_at? hw
  have hmem := Value.mem_of_lookup hlookup
  by_cases hleaf : ∃ l ∈ leaves, l.path = [p.name, key]
  · obtain ⟨l, hl, hpath⟩ := hleaf
    cases rest with
    | nil => exact absurd hpath (hunknown l hl)
    | cons inner rest =>
      obtain ⟨gs, -, rfl, -, -⟩ := exists_lookup_of_at? hx
      have hsink : l.path ≠ ["events", "sink"] := by
        rw [hpath]
        simpa [IsUnknown] using hunknown
      obtain ⟨rfl, rfl⟩ := Leaf.of_path hpath
      obtain ⟨err, herr⟩ := Leaf.read_dict hl hsink gs
      exact error_of_unfit hmem ((Leaf.holds hl).refused herr)
  · exact error_of_unfit hmem (unfit_of_no_leaf (fun l hl hpath => hleaf ⟨l, hl, hpath⟩) x)

/-- What holds something that no setting takes is refused. -/
theorem error_of_unknown {v : Value} {path : List String} (hunknown : IsUnknown path)
    (hv : (v.at? path).isSome) : ∃ err, readSection sections {} v = .error err := by
  cases path with
  | nil => cases hunknown
  | cons name rest =>
    obtain ⟨es, w, rfl, hlookup, hw⟩ := exists_lookup_of_at? hv
    have hmem := Value.mem_of_lookup hlookup
    by_cases hname : ∃ p : Section, p.name = name
    · obtain ⟨p, rfl⟩ := hname
      cases rest with
      | nil => exact absurd rfl (hunknown p)
      | cons key rest =>
        obtain ⟨err, herr⟩ := error_of_unknown_in hunknown hw
        exact error_of_unfit hmem (p.holds.refused herr)
    · exact error_of_unfit hmem (unfit_of_no_section hname w)

/-! ## Layers from JSON -/

theorem sorted_of_layers {docs : List Json} {layers : List Value}
    (h : docs.mapM Value.ofJson? = some layers) : ∀ v ∈ layers, Sorted v := by
  induction docs generalizing layers with
  | nil =>
    cases h
    exact List.forall_mem_nil _
  | cons doc docs ih =>
    rw [List.mapM_cons] at h
    obtain ⟨v, hv, h⟩ := Option.bind_eq_some_iff.1 h
    obtain ⟨vs, hvs, h⟩ := Option.bind_eq_some_iff.1 h
    cases h
    exact List.forall_mem_cons.2 ⟨Value.sorted_of_json hv, ih hvs⟩

/-- How settings are made of layers. -/
structure Layered (layers : List Value) : Prop where
  /-- Typed layers say what every leaf is, the last one first, and no two settings agree with
  them; these settings are answered, unless they miss a requirement. -/
  typed : (∀ v ∈ layers, IsTyped v) →
    ∃ s, LastWins layers s ∧ (∀ t, LastWins layers t → t = s) ∧ Answers (ofLayers layers) s
  /-- What no setting takes is refused in any layer, unless a later one covers it. -/
  unknown : ∀ {before layer after path}, layers = before ++ layer :: after →
    (∀ v ∈ layers, v.isDict = true) → IsUnknown path → (layer.at? path).isSome →
      (∀ v ∈ after, v.covers path = false) → ∃ err, ofLayers layers = .error (.load err)

theorem layered_of_json {docs : List Json} {layers : List Value}
    (hlayers : docs.mapM Value.ofJson? = some layers) : Layered layers where
  typed := by
    intro htyped
    obtain ⟨s, hs, hlast⟩ := read_laid (sorted_of_layers hlayers) htyped
    refine ⟨s, hlast, fun t ht => ht.unique hlast, ?_⟩
    rw [ofLayers_eq fun v hv => (htyped v hv).isDict, ofValue, hs]
    exact answers_check s
  unknown := by
    intro before layer after path heq hdict hunknown hlayer hafter
    subst heq
    have hsorted := (List.forall_mem_append.1 (sorted_of_layers hlayers)).2
    obtain ⟨err, herr⟩ := error_of_unknown hunknown (isSome_at?_laid hsorted hlayer hafter)
    exact ⟨err, by rw [ofLayers_eq hdict, ofValue, herr]⟩

def firstLayer : Json :=
  .ofFields [("auth", .ofFields [("secret", .ofString "s")]),
    ("events", .ofFields [("topic", .ofString "first")])]

def secondLayer : Json :=
  .ofFields [("events", .ofFields [("topic", .ofString "second")]),
    ("logging", .ofFields [("level", .ofString "debug")])]

/-- The two layers are typed, and the second has the last word on the topic only. -/
theorem layered_of_json_topic :
    ∃ layers, [firstLayer, secondLayer].mapM Value.ofJson? = some layers ∧ Layered layers ∧
      (∀ v ∈ layers, IsTyped v) ∧
        ofLayers layers = .ok
          { auth := { secret := ⟨"s"⟩ }, events := { topic := "second" },
            logging := { level := "debug" } } := by
  have hlayers : [firstLayer, secondLayer].mapM Value.ofJson? =
      some [.dict [("auth", .dict [("secret", .text "s")]),
          ("events", .dict [("topic", .text "first")])],
        .dict [("events", .dict [("topic", .text "second")]),
          ("logging", .dict [("level", .text "debug")])]] := rfl
  refine ⟨_, hlayers, layered_of_json hlayers, ?_, rfl⟩
  have hsecret : IsTypedEntry ("auth", .dict [("secret", .text "s")]) :=
    isTypedEntry_single (l := ⟨.auth, "secret", readText, fun s => s.secret.value⟩)
      (by simp [leaves]) rfl rfl
  have htopic (topic : String) : IsTypedEntry ("events", .dict [("topic", .text topic)]) :=
    isTypedEntry_single (l := ⟨.events, "topic", readText, Events.topic⟩) (by simp [leaves]) rfl rfl
  have hlevel : IsTypedEntry ("logging", .dict [("level", .text "debug")]) :=
    isTypedEntry_single (l := ⟨.logging, "level", readText, Logging.level⟩) (by simp [leaves]) rfl
      rfl
  refine List.forall_mem_cons.2 ⟨.of_entries ?_, List.forall_mem_singleton.2 (.of_entries ?_)⟩
  · exact List.forall_mem_cons.2 ⟨hsecret, List.forall_mem_singleton.2 (htopic _)⟩
  · exact List.forall_mem_cons.2 ⟨htopic _, List.forall_mem_singleton.2 hlevel⟩

/-- A layer with a signature algorithm, which no setting takes, and one with another section in the
place of that around it. -/
def algorithmLayer : Json := .ofFields [("auth", .ofFields [("algorithm", .ofString "HS512")])]

def listLayer : Json := .ofFields [("auth", .array [])]

/-- Only what is left of all layers is read: what a later layer covers is not refused. -/
theorem unknown_covered :
    ∃ layers, [algorithmLayer, listLayer].mapM Value.ofJson? = some layers ∧
      (∀ v ∈ layers, v.isDict = true) ∧ IsUnknown ["auth", "algorithm"] ∧
      (∃ v ∈ layers, (v.at? ["auth", "algorithm"]).isSome) ∧ ofLayers layers = .ok {} := by
  refine ⟨[.dict [("auth", .dict [("algorithm", .text "HS512")])], .dict [("auth", .list [])]],
    rfl, by decide, ?_, ?_, rfl⟩
  · show ∀ l ∈ leaves, l.path ≠ ["auth", "algorithm"]
    decide
  · exact ⟨_, List.mem_cons_self, rfl⟩

end TradeRegister.Settings
