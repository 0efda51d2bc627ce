import TradeRegister.Proofs.Store.Contest
import TradeRegister.Proofs.Store.Locality

/-! # Independent operations commute

Two operations on companies are independent if they are about different rows and no name that one of
them touches is touched by the other. Then neither changes a row that the other looks at: whichever
comes first, both are answered the same, and the same rows are there after both.
-/

namespace TradeRegister.Store

variable {σ : Type}

structure Operation.Independent (rows : List CompanyRow) (p q : Operation) : Prop where
  targets : ∀ id, p.target? = some id → q.target? ≠ some id
  names : ∀ name, p.Touches rows name → ¬ q.Touches rows name

theorem Operation.Independent.symm {rows : List CompanyRow} {p q : Operation}
    (h : p.Independent rows q) : q.Independent rows p where
  targets id hq hp := h.targets id hp hq
  names name hq hp := h.names name hp hq

namespace Backend

/-- Neither operation can tell whether the other came first, and nobody can afterwards. -/
structure Commute (b : Backend σ) (s : σ) (p q : Operation) : Prop where
  first : (b.companies.perform (b.companies.perform s q).2 p).1 = (b.companies.perform s p).1
  second : (b.companies.perform (b.companies.perform s p).2 q).1 = (b.companies.perform s q).1
  companies : (b.companyRows (b.companies.perform (b.companies.perform s p).2 q).2).Perm
    (b.companyRows (b.companies.perform (b.companies.perform s q).2 p).2)
  users : b.userRows (b.companies.perform (b.companies.perform s p).2 q).2 =
    b.userRows (b.companies.perform (b.companies.perform s q).2 p).2

def OrderFree (b : Backend σ) (s : σ) : Prop :=
  ∀ p q, p.Independent (b.companyRows s) q → b.Commute s p q

namespace Laws

variable {b : Backend σ} (l : b.Laws) (hsteady : b.Steady l.Sound) {s : σ} (hs : l.Sound s)
  {p q : Operation} (h : p.Independent (b.companyRows s) q)

include hsteady hs h

/-- No rename, freed name or new row of the one operation is among the rows that the other looks
at. -/
theorem seesAlike_perform :
    q.SeesAlike (b.companyRows (b.companies.perform s p).2) (b.companyRows s) := by
  intro r hconcerns
  by_cases htarget : p.target? = some r.id
  · have hname : q.name? = some r.name := hconcerns.resolve_left (h.targets r.id htarget)
    have huntouched : ¬ p.Touches (b.companyRows s) r.name :=
      fun htouches => h.names r.name htouches (.inl hname)
    apply iff_of_false
    · exact fun hr => huntouched (l.touches_of_mem_perform hsteady hs hr htarget)
    · exact fun hr => huntouched (.inr ⟨r, hr, htarget, rfl⟩)
  · exact l.mem_perform_of_ne hsteady hs htarget

theorem answer_perform :
    (b.companies.perform (b.companies.perform s p).2 q).1 = (b.companies.perform s q).1 := by
  have hsees := l.seesAlike_perform hsteady hs h
  exact (l.perform_alike hsteady (l.sound_perform hs p) hs hsees).1

theorem mem_perform_perform_of_ne {r : CompanyRow} (hp : p.target? ≠ some r.id) :
    r ∈ b.companyRows (b.companies.perform (b.companies.perform s p).2 q).2 ↔
      r ∈ b.companyRows (b.companies.perform (b.companies.perform s q).2 p).2 := by
  have hsp := l.sound_perform hs p
  have hsq := l.sound_perform hs q
  rw [l.mem_perform_of_ne hsteady hsq hp]
  by_cases hq : q.target? = some r.id
  · exact l.mem_perform_iff hsteady hsp hs (l.seesAlike_perform hsteady hs h) hq
  · rw [l.mem_perform_of_ne hsteady hsp hq, l.mem_perform_of_ne hsteady hs hp,
      l.mem_perform_of_ne hsteady hs hq]

theorem mem_perform_perform (r : CompanyRow) :
    r ∈ b.companyRows (b.companies.perform (b.companies.perform s p).2 q).2 ↔
      r ∈ b.companyRows (b.companies.perform (b.companies.perform s q).2 p).2 := by
  by_cases hp : p.target? = some r.id
  · exact (l.mem_perform_perform_of_ne hsteady hs h.symm (h.targets r.id hp)).symm
  · exact l.mem_perform_perform_of_ne hsteady hs h hp

end Laws

theorem Laws.orderFree {b : Backend σ} (l : b.Laws) (hsteady : b.Steady l.Sound) {s : σ}
    (hs : l.Sound s) : b.OrderFree s := by
  intro p q h
  have hsp := l.sound_perform hs p
  have hsq := l.sound_perform hs q
  exact {
    first := l.answer_perform hsteady hs h.symm
    second := l.answer_perform hsteady hs h
    companies := by
      have hnodup := (l.companies (l.sound_perform hsp q)).nodup
      have hnodup' := (l.companies (l.sound_perform hsq p)).nodup
      exact (List.perm_ext_iff_of_nodup hnodup hnodup').2 (l.mem_perform_perform hsteady hs h)
    users := by
      rw [l.userRows_perform hsp, l.userRows_perform hs, l.userRows_perform hsq,
        l.userRows_perform hs] }

end Backend

/-- Whatever was asked of a store before, the order of independent operations on companies makes no
difference. -/
theorem orderFree_after (changes : List Change) :
    Backend.memory.OrderFree (Backend.memory.after changes) ∧
      Backend.database.OrderFree (Backend.database.after changes) :=
  ⟨Memory.laws.orderFree Memory.steady (Memory.laws.intact_after changes).sound,
    Database.laws.orderFree Database.steady (Database.laws.intact_after changes).sound⟩

def withAcme : List Change := [.createCompany (.ofNat 17) (plainCompany "Acme")]

def renameToBeta : Operation := .update { id := .value (.ofNat 17), name := .value "Beta" }

def createAs18 (name : String) : Operation :=
  .create .nil { plainCompany name with id := .value (.ofNat 18) }

theorem orderFree_after_withAcme :
    renameToBeta.Independent (Backend.database.companyRows (Backend.database.after withAcme))
        (createAs18 "Gamma") ∧
      Backend.database.Commute (Backend.database.after withAcme) renameToBeta
        (createAs18 "Gamma") := by
  have hrows : Backend.database.companyRows (Backend.database.after withAcme) =
      [⟨.ofNat 17, "Acme", none, 5, true, "NonProfit", .ofNat 19, none⟩] := rfl
  have hindependent : renameToBeta.Independent
      (Backend.database.companyRows (Backend.database.after withAcme)) (createAs18 "Gamma") := by
    constructor
    · intro id hp hq
      obtain rfl := Option.some.inj hp
      exact absurd hq (by decide)
    · intro name hp hq
      rw [hrows] at hp hq
      have hname : name = "Gamma" := by
        rcases hq with hsupplied | ⟨r, hr, htarget, _⟩
        · exact (Option.some.inj hsupplied).symm
        · obtain rfl := List.mem_singleton.1 hr
          exact absurd htarget (by decide)
      subst hname
      rcases hp with hsupplied | ⟨r, hr, _, hcurrent⟩
      · exact absurd hsupplied (by decide)
      · obtain rfl := List.mem_singleton.1 hr
        exact absurd hcurrent (by decide)
  exact ⟨hindependent, (orderFree_after withAcme).2 _ _ hindependent⟩

/-- A name that one operation frees is not for the other to take: here the order decides. -/
example :
    let stored := Backend.memory.after [.createCompany (.ofNat 17) (plainCompany "Acme")]
    let freed := (Backend.memory.companies.perform stored (.delete (.ofNat 17))).2
    let again := Operation.create (.ofNat 18) (plainCompany "Acme")
    (Backend.memory.companies.perform stored again).1.isOk = false ∧
      (Backend.memory.companies.perform freed again).1.isOk = true := by decide +kernel

end TradeRegister.Store
