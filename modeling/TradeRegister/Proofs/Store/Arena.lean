import TradeRegister.Proofs.Store.Effects

/-! # Arenas

Several callers contend for one name in a table: each of them creates a record of that name, and
between these steps anything may be done that has nothing to do with them. If a creation looks for
rows in the way and stores its row in one step, and if other operations notice only the rows that
they have to do with, then whoever is served first gets the name and all others conflict.
-/

namespace TradeRegister.Store

variable {σ ρ τ α κ ω β : Type}

/-! ## Schedules -/

/-- A table in which records are created, and what else is asked of it. -/
structure Arena (σ ρ τ α κ ω β : Type) where
  entity : Entity ρ α
  rows : σ → List ρ
  /-- The rows of the other table. -/
  kept : σ → List τ
  create : κ → σ → Except Fault α × σ
  /-- The row that a new record asks for. -/
  Records : κ → ρ → Prop
  perform : σ → ω → β × σ
  /-- The operation has nothing to do with this identifier and this name. -/
  Spares : ω → Uuid → String → Prop

inductive Move (κ ω : Type)
  | contend (k : κ)
  | other (op : ω)

def Move.contender? : Move κ ω → Option κ
  | .contend k => some k
  | .other _ => none

def Move.isOther : Move κ ω → Bool
  | .contend _ => false
  | .other _ => true

/-- What a schedule leads to: the answers to the contenders and to the others, each in the order in
which they were served, and the state after all. -/
structure Played (σ α β : Type) where
  answers : List (Except Fault α)
  others : List β
  state : σ

namespace Arena

def play (a : Arena σ ρ τ α κ ω β) : List (Move κ ω) → σ → Played σ α β
  | [], s => ⟨[], [], s⟩
  | .contend k :: moves, s =>
    let played := a.play moves (a.create k s).2
    { played with answers := (a.create k s).1 :: played.answers }
  | .other op :: moves, s =>
    let played := a.play moves (a.perform s op).2
    { played with others := (a.perform s op).1 :: played.others }

variable (a : Arena σ ρ τ α κ ω β)

def Free (id : Uuid) (name : String) (s : σ) : Prop :=
  ∀ r ∈ a.rows s, a.entity.id r ≠ id ∧ a.entity.name r ≠ name

/-- The contender asks for this row, to which nothing stands in the way but other contenders. -/
structure MayWin (s : σ) (name : String) (moves : List (Move κ ω)) (k : κ) (row : ρ) : Prop where
  records : a.Records k row
  hasName : a.entity.name row = name
  free : a.Free (a.entity.id row) name s
  spared : ∀ op, .other op ∈ moves → a.Spares op (a.entity.id row) name

def IsContest (s : σ) (name : String) (moves : List (Move κ ω)) : Prop :=
  ∀ k, .contend k ∈ moves → ∃ row, a.MayWin s name moves k row

/-- Of a contest nothing remains but this row: the first contender to be served gets its record,
the others conflict, and the rest is as if nobody had contended. -/
structure EndsWith (s : σ) (moves : List (Move κ ω)) (row : ρ) (losers : Nat) : Prop where
  answers : ∃ made, a.entity.read row = .ok made ∧ (a.play moves s).answers =
    .ok made :: List.replicate losers (.error (.conflict a.entity.label))
  others : (a.play moves s).others = (a.play (moves.filter Move.isOther) s).others
  rows : (a.rows (a.play moves s).state).Perm
    (row :: a.rows (a.play (moves.filter Move.isOther) s).state)
  kept : a.kept (a.play moves s).state = a.kept (a.play (moves.filter Move.isOther) s).state

def OneWinner (s : σ) : Prop :=
  ∀ name moves, a.IsContest s name moves → ∀ k ks, moves.filterMap Move.contender? = k :: ks →
    ∃ row, a.Records k row ∧ a.EndsWith s moves row ks.length

/-- One state shows this row beside the rows of the other state. -/
structure Beside (Sound : σ → Prop) (row : ρ) (s s₀ : σ) : Prop where
  sound : Sound s
  sound₀ : Sound s₀
  rows : (a.rows s).Perm (row :: a.rows s₀)
  kept : a.kept s = a.kept s₀

/-- Creations do what is said of them, and the other operations notice only rows that they have to
do with. -/
structure Lawful (Sound : σ → Prop) : Prop where
  created : ∀ {s k row}, Sound s → a.Records k row →
    Creation a.entity (a.rows s) (.ok row) s (Becomes Sound a.rows a.kept s) (a.create k s)
  readable : ∀ {k row}, a.Records k row → ∃ made, a.entity.read row = .ok made
  sound : ∀ {s}, Sound s → ∀ op, Sound (a.perform s op).2
  free : ∀ {s op id name}, Sound s → a.Spares op id name → a.Free id name s →
    a.Free id name (a.perform s op).2
  beside : ∀ {s s₀ op row}, a.Beside Sound row s s₀ →
    a.Spares op (a.entity.id row) (a.entity.name row) →
    (a.perform s op).1 = (a.perform s₀ op).1 ∧
      a.Beside Sound row (a.perform s op).2 (a.perform s₀ op).2

variable {a} {Sound : σ → Prop} {s s₀ : σ} {row : ρ}

/-! ## Steps -/

namespace Beside

theorem mem_iff (h : a.Beside Sound row s s₀) {r : ρ} :
    r ∈ a.rows s ↔ r = row ∨ r ∈ a.rows s₀ := by
  rw [h.rows.mem_iff, List.mem_cons]

theorem next (h : a.Beside Sound row s s₀) {s' s₀' : σ} {rows rows₀ : List ρ}
    (hnext : Becomes Sound a.rows a.kept s s' rows)
    (hnext₀ : Becomes Sound a.rows a.kept s₀ s₀' rows₀) (hrows : rows.Perm (row :: rows₀)) :
    a.Beside Sound row s' s₀' where
  sound := hnext.sound
  sound₀ := hnext₀.sound
  rows := hnext.rows.trans (hrows.trans (hnext₀.rows.symm.cons row))
  kept := hnext.kept.trans (h.kept.trans hnext₀.kept.symm)

theorem find?_eq {γ : Type} [BEq γ] [LawfulBEq γ] (h : a.Beside Sound row s s₀) {f : ρ → γ}
    (hnodup : ((a.rows s).map f).Nodup) {x : γ} (hother : f row ≠ x) :
    (a.rows s).find? (fun r => f r == x) = (a.rows s₀).find? fun r => f r == x := by
  have hnodup' := (h.rows.map f).nodup_iff.1 hnodup
  rw [find?_eq_of_perm hnodup' h.rows, List.find?_cons_of_neg (by simpa using hother)]

theorem creation (h : a.Beside Sound row s s₀) {asked : Except Fault ρ}
    (hother : ∀ new, asked = .ok new →
      a.entity.id row ≠ a.entity.id new ∧ a.entity.name row ≠ a.entity.name new)
    {out out₀ : Except Fault α × σ}
    (hout : Creation a.entity (a.rows s) asked s (Becomes Sound a.rows a.kept s) out)
    (hout₀ : Creation a.entity (a.rows s₀) asked s₀ (Becomes Sound a.rows a.kept s₀) out₀) :
    out.1 = out₀.1 ∧ a.Beside Sound row out.2 out₀.2 := by
  cases hasked : asked with
  | error fault =>
    rw [hout.eq_of_error hasked, hout₀.eq_of_error hasked]
    exact ⟨rfl, h⟩
  | ok new =>
    obtain ⟨hid, hname⟩ := hother new hasked
    rcases hout.taken_or_stored hasked with ⟨hanswer, r, hr, hsame⟩ | ⟨hanswer, hfree, hnext⟩
    · have hr₀ : r ∈ a.rows s₀ := by
        refine (h.mem_iff.1 hr).resolve_left ?_
        rintro rfl
        exact hsame.elim hid hname
      rcases hout₀.taken_or_stored hasked with ⟨hanswer₀, _⟩ | ⟨_, hfree₀, _⟩
      · rw [hanswer, hanswer₀]
        exact ⟨rfl, h⟩
      · exact absurd hsame (not_or.2 (hfree₀ r hr₀))
    · rcases hout₀.taken_or_stored hasked with ⟨_, r, hr, hsame⟩ | ⟨hanswer₀, _, hnext₀⟩
      · exact absurd hsame (not_or.2 (hfree r (h.mem_iff.2 (.inr hr))))
      · refine ⟨hanswer.trans hanswer₀.symm, h.next hnext hnext₀ ?_⟩
        exact (h.rows.cons new).trans (.swap row new _)

end Beside

theorem free_creation {id : Uuid} {name : String} (hfree : a.Free id name s)
    {asked : Except Fault ρ}
    (hother : ∀ new, asked = .ok new → a.entity.id new ≠ id ∧ a.entity.name new ≠ name)
    {out : Except Fault α × σ}
    (hout : Creation a.entity (a.rows s) asked s (Becomes Sound a.rows a.kept s) out) :
    a.Free id name out.2 := by
  cases hout with
  | refused _ => exact hfree
  | taken _ _ _ => exact hfree
  | stored hasked _ hnext =>
    intro r hr
    rcases List.mem_cons.1 (hnext.rows.mem_iff.1 hr) with rfl | hr
    · exact hother _ hasked
    · exact hfree r hr

theorem sound_creation (hs : Sound s) {asked : Except Fault ρ} {out : Except Fault α × σ}
    (hout : Creation a.entity (a.rows s) asked s (Becomes Sound a.rows a.kept s) out) :
    Sound out.2 := by
  cases hout with
  | refused _ => exact hs
  | taken _ _ _ => exact hs
  | stored _ _ hnext => exact hnext.sound

namespace Lawful

variable {k : κ} {name : String}

theorem create_first (h : a.Lawful Sound) (hs : Sound s) (hrecords : a.Records k row)
    (hfree : a.Free (a.entity.id row) (a.entity.name row) s) :
    (a.create k s).1 = a.entity.read row ∧ a.Beside Sound row (a.create k s).2 s := by
  rcases (h.created hs hrecords).taken_or_stored rfl with ⟨_, r, hr, hsame⟩ | ⟨hanswer, _, hnext⟩
  · exact absurd hsame (not_or.2 (hfree r hr))
  · exact ⟨hanswer, hnext.sound, hs, hnext.rows, hnext.kept⟩

theorem create_later (h : a.Lawful Sound) (hbeside : a.Beside Sound row s s₀) {row' : ρ}
    (hrecords : a.Records k row') (hname : a.entity.name row' = a.entity.name row) :
    a.create k s = (.error (.conflict a.entity.label), s) := by
  rcases (h.created hbeside.sound hrecords).taken_or_stored rfl with ⟨hout, _⟩ | ⟨_, hfree, _⟩
  · exact hout
  · exact absurd hname.symm (hfree row (hbeside.mem_iff.2 (.inl rfl))).2

/-! ## Runs -/

/-- Once the name is taken, all contenders conflict, and the others are served as without them. -/
theorem play_taken (h : a.Lawful Sound) (hbeside : a.Beside Sound row s s₀)
    {moves : List (Move κ ω)}
    (hcontend : ∀ k, .contend k ∈ moves →
      ∃ row', a.Records k row' ∧ a.entity.name row' = a.entity.name row)
    (hspared : ∀ op, .other op ∈ moves → a.Spares op (a.entity.id row) (a.entity.name row)) :
    (a.play moves s).answers =
        List.replicate (moves.filterMap Move.contender?).length (.error (.conflict a.entity.label)) ∧
      (a.play moves s).others = (a.play (moves.filter Move.isOther) s₀).others ∧
      a.Beside Sound row (a.play moves s).state (a.play (moves.filter Move.isOther) s₀).state := by
  induction moves generalizing s s₀ with
  | nil => exact ⟨rfl, rfl, hbeside⟩
  | cons move moves ih =>
    have hcontend' := fun k hk => hcontend k (List.mem_cons_of_mem move hk)
    have hspared' := fun op hop => hspared op (List.mem_cons_of_mem move hop)
    cases move with
    | contend k =>
      obtain ⟨row', hrecords, hname⟩ := hcontend k List.mem_cons_self
      obtain ⟨hanswers, hothers, hend⟩ := ih hbeside hcontend' hspared'
      rw [play, h.create_later hbeside hrecords hname]
      exact ⟨congrArg _ hanswers, hothers, hend⟩
    | other op =>
      obtain ⟨hanswer, hnext⟩ := h.beside hbeside (hspared op List.mem_cons_self)
      obtain ⟨hanswers, hothers, hend⟩ := ih hnext hcontend' hspared'
      exact ⟨hanswers, congrArg₂ List.cons hanswer hothers, hend⟩

theorem isContest_perform (h : a.Lawful Sound) (hs : Sound s) {op : ω} {moves : List (Move κ ω)}
    (hcontest : a.IsContest s name (.other op :: moves)) :
    a.IsContest (a.perform s op).2 name moves := by
  intro k hk
  obtain ⟨row, hrecords, hname, hfree, hspared⟩ := hcontest k (List.mem_cons_of_mem _ hk)
  refine ⟨row, hrecords, hname, h.free hs (hspared op List.mem_cons_self) hfree, ?_⟩
  exact fun op' hop' => hspared op' (List.mem_cons_of_mem _ hop')

theorem oneWinner (h : a.Lawful Sound) (hs : Sound s) : a.OneWinner s := by
  intro name moves hcontest k ks hks
  induction moves generalizing s with
  | nil => cases hks
  | cons move moves ih =>
    cases move with
    | contend first =>
      obtain ⟨rfl, rfl⟩ := List.cons.inj hks
      obtain ⟨row, hrecords, rfl, hfree, hspared⟩ := hcontest first List.mem_cons_self
      obtain ⟨made, hmade⟩ := h.readable hrecords
      obtain ⟨hanswer, hbeside⟩ := h.create_first hs hrecords hfree
      have hrest : ∀ k, .contend k ∈ moves →
          ∃ row', a.Records k row' ∧ a.entity.name row' = a.entity.name row := by
        intro k hk
        obtain ⟨row', hrecords', hname', -, -⟩ := hcontest k (List.mem_cons_of_mem _ hk)
        exact ⟨row', hrecords', hname'⟩
      obtain ⟨hanswers, hothers, hend⟩ := h.play_taken hbeside hrest
        fun op hop => hspared op (List.mem_cons_of_mem _ hop)
      refine ⟨row, hrecords, ⟨made, hmade, ?_⟩, hothers, hend.rows, hend.kept⟩
      exact congrArg₂ List.cons (hanswer.trans hmade) hanswers
    | other op =>
      obtain ⟨row, hrecords, hend⟩ := ih (h.sound hs op) (h.isContest_perform hs hcontest) hks
      exact ⟨row, hrecords, hend.answers, congrArg (List.cons _) hend.others, hend.rows, hend.kept⟩

end Lawful
end Arena
end TradeRegister.Store
