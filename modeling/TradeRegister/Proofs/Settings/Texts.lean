import TradeRegister.Proofs.Settings.Layers
import TradeRegister.Proofs.Settings.Notation

/-! # Texts from variables

Four settings are texts that a variable of its own can set. What the notation makes of the text is
laid over the document, and everything beside it stays as it is; so the setting is the text as it
is written exactly when the notation leaves the text as it is. Numbers, truth values, lists and
dictionaries are refused.
-/

namespace TradeRegister.Settings

open Value (Ascending Sorted merge put laidOver)

/-! ## Variables -/

/-- A text that a variable sets. -/
structure TextSetting where
  name : String
  place : Section
  key : String
  pick : place.Record → String

def TextSetting.leaf (t : TextSetting) : Leaf := ⟨t.place, t.key, readText, t.pick⟩

def TextSetting.get (t : TextSetting) (s : Settings) : String := t.pick (t.place.get s)

def textSettings : List TextSetting :=
  [⟨"REGISTRY_AUTH__SECRET", .auth, "secret", fun s => s.secret.value⟩,
    ⟨"REGISTRY_AUTH__ISSUER", .auth, "issuer", Token.Settings.issuer⟩,
    ⟨"REGISTRY_EVENTS__TOPIC", .events, "topic", Events.topic⟩,
    ⟨"REGISTRY_LOGGING__LEVEL", .logging, "level", Logging.level⟩]

namespace TextSetting

variable {t : TextSetting}

theorem leaf_mem (h : t ∈ textSettings) : t.leaf ∈ leaves := by
  revert t
  simp only [textSettings, List.forall_mem_cons, List.not_mem_nil, false_implies, implies_true,
    and_true, leaf, leaves]
  simp

theorem path?_name (h : t ∈ textSettings) : Environment.path? t.name = some t.leaf.path := by
  revert t
  decide

theorem canHold_name (h : t ∈ textSettings) {s : String} (hs : '\x00' ∉ s.toList) :
    Environment.canHold (t.name, s) = true := by
  have hname : t.name ≠ "" ∧ '=' ∉ t.name.toList ∧ '\x00' ∉ t.name.toList := by
    revert t
    decide
  simp [Environment.canHold, hname, hs]

theorem place_ne_database (h : t ∈ textSettings) : t.place ≠ .database := by
  revert t
  decide

/-- The topic is the only text among the events. -/
theorem topic_or (h : t ∈ textSettings) :
    t.place ≠ .events ∨ ∀ s : Settings, s.events.topic = t.get s := by
  simp only [textSettings, List.mem_cons, List.not_mem_nil, or_false] at h
  rcases h with rfl | rfl | rfl | rfl
  · exact .inl (by decide)
  · exact .inl (by decide)
  · exact .inr fun _ => rfl
  · exact .inl (by decide)

def set (t : TextSetting) (x : Value) : Value := .dict [(t.place.name, .dict [(t.key, x)])]

theorem layer_eq (h : t ∈ textSettings) (s : String) :
    Environment.layer [(t.name, s)] = t.set (Environment.read s) := by
  have hbind : [(t.name, s)].foldl Environment.bind [] = [(t.name, s)] := rfl
  rw [Environment.layer, hbind]
  simp only [List.foldl_cons, List.foldl_nil, path?_name h]
  rfl

end TextSetting

/-! ## Documents -/

/-- What a document is read from, with nothing laid over it. -/
structure Underlies (document : Option String) (v : Value) (base : Settings) : Prop where
  isDict : v.isDict = true
  sorted : Sorted v
  read : readSection sections {} v = .ok base
  check : base.check = .ok base
  loads : ∀ {x}, Environment.canHold x = true → (Environment.layer [x]).isDict = true →
    load document [x] = ofValue (merge v (Environment.layer [x]))

theorem check_eq_ok {s t : Settings} (h : s.check = .ok t) : s = t := by
  rw [check_eq] at h
  split at h
  · cases h
  · exact Except.ok.inj h

theorem ofValue_eq_ok {v : Value} {s : Settings} (h : ofValue v = .ok s) :
    readSection sections {} v = .ok s ∧ s.check = .ok s := by
  rw [ofValue] at h
  split at h
  · cases h
  · next t ht =>
    obtain rfl := check_eq_ok h
    exact ⟨ht, h⟩

theorem merge_nothing {v : Value} (h : v.isDict = true) : merge v (.dict []) = v := by
  obtain ⟨es, rfl⟩ := Value.exists_dict h
  rw [Value.merge_dict, Value.mergeEntries]

theorem exists_underlies {document : Option String} {base : Settings}
    (h : load document [] = .ok base) : ∃ v, Underlies document v base := by
  cases document with
  | none =>
    have hbase : ofValue (.dict []) = .ok base := h
    obtain ⟨hread, hcheck⟩ := ofValue_eq_ok hbase
    refine ⟨.dict [], rfl, Value.sorted_nil, hread, hcheck, fun {x} hx hlayer => ?_⟩
    simp only [load, List.all_cons, List.all_nil, hx, Bool.and_true, if_true]
    rw [ofLayers_eq (List.forall_mem_singleton.2 hlayer)]
    rfl
  | some text =>
    cases hdoc : Document.read? text with
    | none =>
      simp only [load, hdoc, List.all_nil, if_true] at h
      cases h
    | some entries =>
      have hdict : (laid [.dict entries]).isDict = true := rfl
      have hsorted : Sorted (laid [.dict entries]) :=
        sorted_laid (List.forall_mem_singleton.2 (Value.sorted_of_document hdoc))
      have hbase : ofValue (laid [.dict entries]) = .ok base := by
        simp only [load, hdoc, List.all_nil, if_true] at h
        have hlayer : (Environment.layer []).isDict = true := rfl
        rw [ofLayers_eq (List.forall_mem_cons.2 ⟨rfl, List.forall_mem_singleton.2 hlayer⟩)] at h
        rw [← merge_nothing hdict]
        exact h
      obtain ⟨hread, hcheck⟩ := ofValue_eq_ok hbase
      refine ⟨_, hdict, hsorted, hread, hcheck, fun {x} hx hlayer => ?_⟩
      simp only [load, hdoc, List.all_cons, List.all_nil, hx, Bool.and_true, if_true]
      rw [ofLayers_eq (List.forall_mem_cons.2 ⟨rfl, List.forall_mem_singleton.2 hlayer⟩)]
      rfl

/-! ## One value laid over a section -/

theorem fits_or_unfit (p : Section) (e : String × Value) :
    Fits p.fields e ∨ ∃ err, Unfit p.fields e err := by
  obtain ⟨key, v⟩ := e
  by_cases hleaf : ∃ l ∈ leaves, l.path = [p.name, key]
  · obtain ⟨l, hl, hpath⟩ := hleaf
    obtain ⟨rfl, rfl⟩ := Leaf.of_path hpath
    cases hread : l.read v with
    | ok a => exact .inl ((Leaf.holds hl).fits hread)
    | error err => exact .inr ⟨_, (Leaf.holds hl).refused hread⟩
  · exact .inr ⟨_, unfit_of_no_leaf (fun l hl hpath => hleaf ⟨l, hl, hpath⟩) v⟩

theorem fits_or_unfit_section (e : String × Value) :
    Fits sections e ∨ ∃ err, Unfit sections e err := by
  obtain ⟨name, v⟩ := e
  by_cases hname : ∃ p : Section, p.name = name
  · obtain ⟨p, rfl⟩ := hname
    cases hread : readSection p.fields p.usual v with
    | ok a => exact .inl (p.holds.fits hread)
    | error err => exact .inr ⟨_, p.holds.refused hread⟩
  · exact .inr ⟨_, unfit_of_no_section hname v⟩

/-- A section with `x` laid over its entry `key`, every other entry fit. -/
structure Overlaid (p : Section) (key : String) (x : Value) (gs : List (String × Value)) :
    Prop where
  ascending : Ascending gs
  lookup : gs.lookup key = some x
  others : ∀ e ∈ gs, e = (key, x) ∨ Fits p.fields e

variable {l : Leaf} {x : Value}

/-- Over a section that was read, or over none, a value takes the place of that of its key. -/
theorem exists_overlaid (hl : l ∈ leaves)
    (hscalar : ∀ {v a}, l.read v = .ok a → v.isDict = false) {under : Option Value}
    (hunder : ∀ old, under = some old →
      Sorted old ∧ ∃ r, readSection l.place.fields l.place.usual old = .ok r) (x : Value) :
    ∃ gs, laidOver under (.dict [(l.key, x)]) = .dict gs ∧ Overlaid l.place l.key x gs := by
  have hsingle : Overlaid l.place l.key x [(l.key, x)] :=
    ⟨List.pairwise_singleton _ _, List.lookup_cons_self, List.forall_mem_singleton.2 (.inl rfl)⟩
  cases under with
  | none => exact ⟨_, rfl, hsingle⟩
  | some old =>
    obtain ⟨hsorted, r, hr⟩ := hunder old rfl
    cases hdict : old.isDict with
    | false => exact ⟨_, Value.merge_of_not_dict hdict _, hsingle⟩
    | true =>
      obtain ⟨fs, rfl⟩ := Value.exists_dict hdict
      have hascending := hsorted.entries.1
      have hfits := fits_of_readSection hr fun e _ => fits_or_unfit l.place e
      have hover : laidOver (fs.lookup l.key) x = x := by
        cases hlookup : fs.lookup l.key with
        | none => rfl
        | some w =>
          have hread := (Leaf.holds hl).lookup hascending.nodup hr
          rw [hlookup] at hread
          exact Value.merge_over_leaf (hscalar hread) x
      refine ⟨put l.key x fs, ?_, hascending.put, Value.lookup_put_self .., fun e he => ?_⟩
      · rw [laidOver, Value.merge_dict, Value.mergeEntries_cons, hover, Value.mergeEntries]
      · exact (Value.mem_put he).imp_right (hfits e)

namespace Overlaid

variable {gs : List (String × Value)}

theorem read (h : Overlaid l.place l.key x gs) (hl : l ∈ leaves) {a : l.α} (ha : l.read x = .ok a) :
    ∃ r, readSection l.place.fields l.place.usual (.dict gs) = .ok r ∧ l.pick r = a := by
  have hfits : ∀ e ∈ gs, Fits l.place.fields e := by
    intro e he
    rcases h.others e he with rfl | hfits
    · exact (Leaf.holds hl).fits ha
    · exact hfits
  obtain ⟨r, hr⟩ : ∃ r, readSection l.place.fields l.place.usual (.dict gs) = .ok r :=
    readSection_of_fits hfits
  have hread := (Leaf.holds hl).lookup h.ascending.nodup hr
  rw [h.lookup] at hread
  exact ⟨r, hr, Except.ok.inj (hread.symm.trans ha)⟩

theorem refused (h : Overlaid l.place l.key x gs) (hl : l ∈ leaves) {err : LoadError}
    (herr : l.read x = .error err) :
    readSection l.place.fields l.place.usual (.dict gs) =
      .error { err with path := l.key :: err.path } :=
  readSection_of_unfit (Value.mem_of_lookup h.lookup) ((Leaf.holds hl).refused herr) h.others

end Overlaid

/-! ## One value laid over a document -/

namespace Underlies

variable {document : Option String} {v : Value} {base : Settings}

theorem exists_merge (h : Underlies document v base) (hl : l ∈ leaves)
    (hscalar : ∀ {v a}, l.read v = .ok a → v.isDict = false) (x : Value) :
    ∃ es gs, v = .dict es ∧ Overlaid l.place l.key x gs ∧
      merge v (.dict [(l.place.name, .dict [(l.key, x)])]) =
        .dict (put l.place.name (.dict gs) es) := by
  obtain ⟨es, rfl⟩ := Value.exists_dict h.isDict
  have hunder : ∀ old, es.lookup l.place.name = some old →
      Sorted old ∧ ∃ r, readSection l.place.fields l.place.usual old = .ok r := by
    intro old hold
    have hread := l.place.holds.lookup h.sorted.entries.1.nodup h.read
    rw [hold] at hread
    exact ⟨h.sorted.of_lookup hold, _, hread⟩
  obtain ⟨gs, hover, hoverlaid⟩ := exists_overlaid hl hscalar hunder x
  refine ⟨es, gs, rfl, hoverlaid, ?_⟩
  rw [Value.merge_dict, Value.mergeEntries_cons, hover, Value.mergeEntries]

theorem read_merge (h : Underlies document v base) (hl : l ∈ leaves)
    (hscalar : ∀ {v a}, l.read v = .ok a → v.isDict = false) {a : l.α} (ha : l.read x = .ok a) :
    ∃ s, readSection sections {} (merge v (.dict [(l.place.name, .dict [(l.key, x)])])) = .ok s ∧
      l.get s = a ∧ ∀ p ≠ l.place, p.get s = p.get base := by
  obtain ⟨es, gs, rfl, hoverlaid, hmerge⟩ := h.exists_merge hl hscalar x
  have hascending := h.sorted.entries.1
  obtain ⟨r, hr, hpick⟩ := hoverlaid.read hl ha
  have hfits := fits_of_readSection h.read fun e _ => fits_or_unfit_section e
  obtain ⟨s, hs⟩ :
      ∃ s, readSection sections {} (.dict (put l.place.name (.dict gs) es)) = .ok s := by
    refine readSection_of_fits fun e he => ?_
    rcases Value.mem_put he with rfl | he
    · exact l.place.holds.fits hr
    · exact hfits e he
  rw [hmerge]
  refine ⟨s, hs, ?_, fun p hp => ?_⟩
  · have hplace := l.place.holds.lookup hascending.put.nodup hs
    rw [Value.lookup_put_self] at hplace
    rw [Leaf.get, ← Except.ok.inj (hr.symm.trans hplace), hpick]
  · have hname : p.name ≠ l.place.name := fun heq => hp (Section.name_injective heq)
    have hafter := p.holds.lookup hascending.put.nodup hs
    have hbefore := p.holds.lookup hascending.nodup h.read
    rw [Value.lookup_put_of_ne hname] at hafter
    cases hlookup : es.lookup p.name with
    | none =>
      rw [hlookup] at hafter hbefore
      exact hafter.trans hbefore.symm
    | some w =>
      rw [hlookup] at hafter hbefore
      exact Except.ok.inj (hafter.symm.trans hbefore)

theorem refused_merge (h : Underlies document v base) (hl : l ∈ leaves)
    (hscalar : ∀ {v a}, l.read v = .ok a → v.isDict = false) {err : LoadError}
    (herr : l.read x = .error err) :
    readSection sections {} (merge v (.dict [(l.place.name, .dict [(l.key, x)])])) =
      .error { err with path := l.path ++ err.path } := by
  obtain ⟨es, gs, rfl, hoverlaid, hmerge⟩ := h.exists_merge hl hscalar x
  have hfits := fits_of_readSection h.read fun e _ => fits_or_unfit_section e
  have hsection := hoverlaid.refused hl herr
  rw [hmerge]
  refine readSection_of_unfit (Value.mem_of_lookup (Value.lookup_put_self ..))
    (l.place.holds.refused hsection) fun e he => ?_
  exact (Value.mem_put he).imp_right (hfits e)

end Underlies

/-! ## Texts -/

theorem isDict_of_readText {v : Value} {s : String} (h : readText v = .ok s) :
    v.isDict = false := by
  cases v with
  | dict es => cases h
  | _ => rfl

theorem readText_eq_error {v : Value} {err : LoadError} (h : readText v = .error err) :
    err = ⟨.invalidType, []⟩ := by
  cases v with
  | text s => cases h
  | letter c => cases h
  | _ =>
    cases h
    rfl

/-- How a document takes the text `s` for a setting: as it is written exactly when it is plain, as
what the notation makes of it if that is another text, and not at all if it is none. -/
structure Takes (document : Option String) (t : TextSetting) (s : String) : Prop where
  plain : (∃ b, load document [(t.name, s)] = .ok b ∧ t.get b = s) ↔ Environment.IsPlain s
  another : ∀ {w}, readText (Environment.read s) = .ok w → Text.isBlank w = false →
    ∃ b, load document [(t.name, s)] = .ok b ∧ t.get b = w
  refused : (∀ w, readText (Environment.read s) ≠ .ok w) →
    load document [(t.name, s)] = .error (.load ⟨.invalidType, t.leaf.path⟩)

namespace Underlies

variable {document : Option String} {v : Value} {base : Settings} {t : TextSetting} {s : String}

theorem load_eq (h : Underlies document v base) (ht : t ∈ textSettings) (hs : '\x00' ∉ s.toList) :
    load document [(t.name, s)] = ofValue (merge v (t.set (Environment.read s))) := by
  rw [h.loads (TextSetting.canHold_name ht hs) (by rw [TextSetting.layer_eq ht]; rfl),
    TextSetting.layer_eq ht]

/-- With a text for the setting the requirements are met as before, unless it is a blank topic. -/
theorem check_of_text (h : Underlies document v base) (ht : t ∈ textSettings) {b : Settings}
    (hblank : Text.isBlank (t.get b) = false) (hother : ∀ p ≠ t.place, p.get b = p.get base) :
    b.check = .ok b := by
  have hmet := (answers_check base).accepted.1 h.check
  simp only [requirements, List.forall_mem_cons, List.not_mem_nil, false_implies, implies_true,
    and_true] at hmet
  have hdatabase : b.database = base.database :=
    hother .database (TextSetting.place_ne_database ht).symm
  have htopic : (Text.trim b.events.topic != "") = true := by
    rcases TextSetting.topic_or ht with hplace | hget
    · have hevents : b.events = base.events := hother .events hplace.symm
      rw [hevents]
      exact hmet.2.2
    · rw [hget, bne, ← isBlank_eq, hblank]
      rfl
  refine (answers_check b).accepted.2 ?_
  simp only [requirements, List.forall_mem_cons, List.not_mem_nil, false_implies, implies_true,
    and_true]
  rw [hdatabase]
  exact ⟨hmet.1, hmet.2.1, htopic⟩

theorem load_of_text (h : Underlies document v base) (ht : t ∈ textSettings)
    (hs : '\x00' ∉ s.toList) {w : String} (hw : readText (Environment.read s) = .ok w) :
    ∃ b, t.get b = w ∧ load document [(t.name, s)] = b.check ∧
      (Text.isBlank w = false → b.check = .ok b) := by
  obtain ⟨b, hread, hget, hother⟩ : ∃ b,
      readSection sections {} (merge v (t.set (Environment.read s))) = .ok b ∧ t.get b = w ∧
        ∀ p ≠ t.place, p.get b = p.get base :=
    h.read_merge (l := t.leaf) (TextSetting.leaf_mem ht) isDict_of_readText hw
  refine ⟨b, hget, ?_, fun hblank => h.check_of_text ht (hget ▸ hblank) hother⟩
  rw [h.load_eq ht hs, ofValue, hread]

theorem load_of_no_text (h : Underlies document v base) (ht : t ∈ textSettings)
    (hs : '\x00' ∉ s.toList) {err : LoadError}
    (herr : readText (Environment.read s) = .error err) :
    load document [(t.name, s)] = .error (.load ⟨.invalidType, t.leaf.path⟩) := by
  have hread : readSection sections {} (merge v (t.set (Environment.read s))) =
      .error { err with path := t.leaf.path ++ err.path } :=
    h.refused_merge (l := t.leaf) (TextSetting.leaf_mem ht) isDict_of_readText herr
  rw [h.load_eq ht hs, ofValue, hread, readText_eq_error herr, List.append_nil]

end Underlies

/-- Every document that is accepted by itself takes texts for settings alike. -/
theorem takes_of_load {document : Option String} {base : Settings}
    (hdocument : load document [] = .ok base) {t : TextSetting} (ht : t ∈ textSettings) {s : String}
    (hblank : Text.isBlank s = false) (hs : '\x00' ∉ s.toList) : Takes document t s := by
  obtain ⟨v, h⟩ := exists_underlies hdocument
  refine ⟨⟨?_, fun hplain => ?_⟩, fun {w} hw hw' => ?_, fun hnone => ?_⟩
  · rintro ⟨b, hload, hget⟩
    rw [← Environment.readText_read_iff]
    cases hread : readText (Environment.read s) with
    | error err =>
      rw [h.load_of_no_text ht hs hread] at hload
      cases hload
    | ok w =>
      obtain ⟨b', hget', hload', -⟩ := h.load_of_text ht hs hread
      obtain rfl : b' = b := check_eq_ok (hload'.symm.trans hload)
      exact congrArg Except.ok (hget'.symm.trans hget)
  · obtain ⟨b, hget, hload, hcheck⟩ :=
      h.load_of_text ht hs ((Environment.readText_read_iff s).2 hplain)
    exact ⟨b, hload.trans (hcheck hblank), hget⟩
  · obtain ⟨b, hget, hload, hcheck⟩ := h.load_of_text ht hs hw
    exact ⟨b, hload.trans (hcheck hw'), hget⟩
  · cases hread : readText (Environment.read s) with
    | error err => exact h.load_of_no_text ht hs hread
    | ok w => exact absurd hread (hnone w)

theorem takes_of_load_word :
    load none [] = .ok {} ∧
      Takes none ⟨"REGISTRY_AUTH__SECRET", .auth, "secret", fun s => s.secret.value⟩ "env-secret" :=
  have hnothing : load none [] = .ok {} := rfl
  ⟨hnothing, takes_of_load hnothing (by simp [textSettings]) (by decide) (by decide)⟩

/-- No numeral of 64 bits is taken for a text. -/
theorem load_numeral {document : Option String} {base : Settings}
    (hdocument : load document [] = .ok base) {t : TextSetting} (ht : t ∈ textSettings)
    (n : UInt64) :
    load document [(t.name, String.ofList (Decimal.write n.toNat))] =
      .error (.load ⟨.invalidType, t.leaf.path⟩) := by
  obtain ⟨v, h⟩ := exists_underlies hdocument
  have hnul : '\x00' ∉ (String.ofList (Decimal.write n.toNat)).toList := fun hmem => by
    rw [String.toList_ofList] at hmem
    cases Decimal.isDigit_of_mem_write hmem
  have hread : readText (Environment.read (String.ofList (Decimal.write n.toNat))) =
      .error ⟨.invalidType, []⟩ := by
    rw [Environment.read_write]
    rfl
  exact h.load_of_no_text ht hnul hread

/-- A secret of digits is not taken as it is written. -/
theorem digits_refused :
    Text.isBlank "12345" = false ∧ '\x00' ∉ "12345".toList ∧ load none [] = .ok {} ∧
      load none [("REGISTRY_AUTH__SECRET", "12345")] =
        .error (.load ⟨.invalidType, ["auth", "secret"]⟩) :=
  have hnothing : load none [] = .ok {} := rfl
  ⟨by decide, by decide, hnothing, load_numeral hnothing
    (t := ⟨"REGISTRY_AUTH__SECRET", .auth, "secret", fun s => s.secret.value⟩)
    (by simp [textSettings]) 12345⟩

end TradeRegister.Settings
