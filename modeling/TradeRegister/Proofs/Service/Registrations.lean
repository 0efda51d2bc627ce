import Mathlib.Data.List.Infix
import TradeRegister.Proofs.Service.Effects
import TradeRegister.Proofs.Service.Sessions

/-! # Registrations of a run

The accounts that a store holds are told by the steps alone: one for each name that was validly
registered, with the identifier and the password of the first such registration.
-/

namespace TradeRegister.Service

open Store (Backend Becomes UserRow)
open Token (Authority)

variable {σ : Type}

namespace Step

/-- The identifier and the password of a valid registration of this name. -/
def registration? (username : String) : Step → Option (Uuid × String)
  | .request (.register name password) id _ =>
    if name = username ∧ areValid name password = true then some (id, password) else none
  | _ => none

def registerId? : Step → Option Uuid
  | .request (.register _ _) id _ => some id
  | _ => none

def clock (t : Instant) : Step → Instant
  | .setClock t' => t'
  | .advanceClock seconds nanos => (t.advance? seconds nanos).getD t
  | _ => t

/-- Accounts enter by registration, which gets an identifier and sixteen octets of salt. -/
def isSupplied : Step → Bool
  | .request (.register _ _) id salt => id ≠ Uuid.nil && salt.length = 16
  | .seed _ _ => false
  | _ => true

theorem isSupplied_register {username password : String} {id : Uuid} {salt : Bytes}
    (h : isSupplied (.request (.register username password) id salt) = true) :
    id ≠ Uuid.nil ∧ salt.length = 16 := by
  simpa [isSupplied] using h

end Step

/-- The identifier and the password of the account that the first valid registration of a name
opens. -/
def account? (username : String) (steps : List Step) : Option (Uuid × String) :=
  steps.findSome? (Step.registration? username)

theorem account?_append (username : String) (steps : List Step) (s : Step) :
    account? username (steps ++ [s]) = (account? username steps).or (s.registration? username) := by
  simp [account?, List.findSome?_append]

theorem now_run (d : Services σ) (steps : List Step) (x : Scene σ) :
    (d.run steps x).now = steps.foldl Step.clock x.now := by
  induction steps generalizing x with
  | nil => rfl
  | cons s steps ih =>
    have hstep : (d.step x s).2.now = s.clock x.now := by cases s <;> rfl
    rw [List.foldl_cons, ← hstep]
    exact ih _

/-! ## Supplies -/

/-- What the steps of a run get from outside: no identifier is given to two registrations, and no
clock shows a time before 1970. -/
structure Supplied (now : Instant) (steps : List Step) : Prop where
  isSupplied : ∀ s ∈ steps, s.isSupplied = true
  fresh : (steps.filterMap Step.registerId?).Nodup
  clock : ∀ before ∈ steps.inits, 0 ≤ (before.foldl Step.clock now).total

namespace Supplied

variable {now : Instant} {steps : List Step} {s : Step} {id : Uuid}

theorem of_isPrefix (h : Supplied now steps) {before : List Step} (hbefore : before <+: steps) :
    Supplied now before where
  isSupplied s hs := h.isSupplied s (hbefore.subset hs)
  fresh := h.fresh.sublist (hbefore.sublist.filterMap _)
  clock earlier hearlier :=
    h.clock earlier ((List.mem_inits _ _).2 (((List.mem_inits _ _).1 hearlier).trans hbefore))

theorem registerId_ne_nil (h : Supplied now steps) (hid : id ∈ steps.filterMap Step.registerId?) :
    id ≠ Uuid.nil := by
  obtain ⟨s, hs, hregister⟩ := List.mem_filterMap.1 hid
  unfold Step.registerId? at hregister
  split at hregister
  · obtain rfl := Option.some.inj hregister
    exact (Step.isSupplied_register (h.isSupplied _ hs)).1
  · cases hregister

theorem last (h : Supplied now (steps ++ [s])) : s.isSupplied = true :=
  h.isSupplied s (List.mem_append_right steps List.mem_cons_self)

theorem new_registerId (h : Supplied now (steps ++ [s])) (hs : s.registerId? = some id) :
    id ∉ steps.filterMap Step.registerId? := by
  have hfresh := h.fresh
  rw [List.filterMap_append] at hfresh
  intro hid
  exact (List.nodup_append.1 hfresh).2.2 id hid id (by simp [hs]) rfl

end Supplied

/-! ## Accounts -/

/-- The accounts are those that the first valid registrations of the steps open. -/
structure Registered (steps : List Step) (rows : List UserRow) : Prop where
  ids : ∀ r ∈ rows, r.id ∈ steps.filterMap Step.registerId?
  absent : ∀ username, account? username steps = none → ∀ r ∈ rows, r.username ≠ username
  present : ∀ username id password, account? username steps = some (id, password) →
    ∃ hash, ⟨id, username, hash⟩ ∈ rows ∧ Password.verify password hash = true

namespace Registered

variable {steps : List Step} {rows : List UserRow}

theorem nil : Registered [] [] :=
  ⟨fun _ hr => absurd hr List.not_mem_nil, fun _ _ _ hr => absurd hr List.not_mem_nil,
    fun _ _ _ h => by cases h⟩

theorem keep (h : Registered steps rows) {s : Step}
    (hs : ∀ username, s.registration? username = none ∨ account? username steps ≠ none) :
    Registered (steps ++ [s]) rows := by
  have hsame (username : String) : account? username (steps ++ [s]) = account? username steps := by
    rw [account?_append]
    rcases hs username with hnone | hsome
    · rw [hnone, Option.or_none]
    · obtain ⟨account, haccount⟩ := Option.ne_none_iff_exists'.1 hsome
      rw [haccount, Option.some_or]
  refine ⟨fun r hr => ?_, fun username hnone => ?_, fun username id password hsome => ?_⟩
  · rw [List.filterMap_append]
    exact List.mem_append_left _ (h.ids r hr)
  · exact h.absent username (hsame username ▸ hnone)
  · exact h.present username id password (hsame username ▸ hsome)

theorem register (h : Registered steps rows) {rows' : List UserRow}
    {username password hash : String} {id : Uuid} {salt : Bytes}
    (hvalid : areValid username password = true) (hfirst : account? username steps = none)
    (hverify : Password.verify password hash = true)
    (hrows : rows'.Perm (⟨id, username, hash⟩ :: rows)) :
    Registered (steps ++ [.request (.register username password) id salt]) rows' := by
  have hregistration (name : String) :
      Step.registration? name (.request (.register username password) id salt) =
        if username = name then some (id, password) else none := by
    simp [Step.registration?, hvalid]
  refine ⟨fun r hr => ?_, fun name hnone => ?_, fun name account secret hsome => ?_⟩
  · rw [List.filterMap_append]
    rcases List.mem_cons.1 (hrows.mem_iff.1 hr) with rfl | hr
    · exact List.mem_append_right _ (by simp [Step.registerId?])
    · exact List.mem_append_left _ (h.ids r hr)
  · rw [account?_append, hregistration, Option.or_eq_none_iff] at hnone
    obtain ⟨hnone, hname⟩ := hnone
    intro r hr
    rcases List.mem_cons.1 (hrows.mem_iff.1 hr) with rfl | hr
    · rintro rfl
      simp at hname
    · exact h.absent name hnone r hr
  · rw [account?_append, hregistration] at hsome
    by_cases hname : username = name
    · subst hname
      rw [hfirst, Option.none_or, if_pos rfl] at hsome
      obtain ⟨rfl, rfl⟩ := Prod.mk.inj (Option.some.inj hsome)
      exact ⟨hash, hrows.mem_iff.2 List.mem_cons_self, hverify⟩
    · rw [if_neg hname, Option.or_none] at hsome
      obtain ⟨hash', hrow, hverify'⟩ := h.present name account secret hsome
      exact ⟨hash', hrows.mem_iff.2 (List.mem_cons_of_mem _ hrow), hverify'⟩

end Registered

/-! ## Steps -/

section Registration

variable {b : Backend σ} {l : b.Laws} {s : σ} {steps : List Step} {id : Uuid}
  {username password : String}

theorem register_first (h : l.Intact s) (hrows : Registered steps (b.userRows s))
    (authority : Authority) (now : Instant) (salt : Bytes)
    (hvalid : areValid username password = true) (hnew : id ∉ steps.filterMap Step.registerId?)
    (hfirst : account? username steps = none) :
    ∃ hash s', Password.hash? salt password = some hash ∧
      Becomes l.Sound b.userRows b.companyRows s s' (⟨id, username, hash⟩ :: b.userRows s) ∧
      register b.users authority now salt id username password s =
        ⟨.ok (sessionFor authority now id), s', [.of .signup id]⟩ := by
  obtain ⟨hash, hhash, haccount⟩ := exists_accountFor salt hvalid
  have hout := register_outcome h authority now salt id username password
  generalize register b.users authority now salt id username password s = o at hout
  cases hout with
  | invalid hfault =>
    rw [haccount] at hfault
    cases hfault
  | taken _ hr hsame =>
    rcases hsame with hid | hname
    · exact absurd (hid ▸ hrows.ids _ hr) hnew
    · exact absurd hname (hrows.absent username hfirst _ hr)
  | stored hstored _ hnext =>
    rw [haccount] at hstored
    cases hstored
    exact ⟨hash, _, hhash, hnext, rfl⟩

theorem register_again (h : l.Intact s) (hrows : Registered steps (b.userRows s))
    (authority : Authority) (now : Instant) (salt : Bytes)
    (hvalid : areValid username password = true) (hagain : account? username steps ≠ none) :
    register b.users authority now salt id username password s =
      .refused (.conflict "user") s := by
  obtain ⟨hash, _, haccount⟩ := exists_accountFor salt hvalid
  obtain ⟨⟨account, secret⟩, hopened⟩ := Option.ne_none_iff_exists'.1 hagain
  obtain ⟨_, hrow, _⟩ := hrows.present username account secret hopened
  have hout := register_outcome h authority now salt id username password
  generalize register b.users authority now salt id username password s = o at hout
  cases hout with
  | invalid hfault =>
    rw [haccount] at hfault
    cases hfault
  | taken _ _ _ => rfl
  | stored _ hfree _ => exact absurd rfl (hfree _ hrow).2

end Registration

variable {b : Backend σ} {l : b.Laws} {x : Scene σ} {now : Instant} {steps : List Step}

theorem registered_register (h : l.Intact x.store) (authority : Authority) (limits : Limits)
    {username password : String} {id : Uuid} {salt : Bytes}
    (hrows : Registered steps (b.userRows x.store))
    (hs : Supplied now (steps ++ [.request (.register username password) id salt])) :
    Registered (steps ++ [.request (.register username password) id salt])
      (b.userRows ((b.services authority limits).answer ⟨x.now, id, salt⟩ x.store
        (.register username password)).state) := by
  by_cases hvalid : areValid username password = true
  · rw [answer_register]
    by_cases hfirst : account? username steps = none
    · obtain ⟨hash, s', hhash, hnext, hregister⟩ := register_first h hrows authority x.now salt
        hvalid (hs.new_registerId rfl) hfirst
      have hsalt := (Step.isSupplied_register hs.last).2
      rw [hregister]
      exact hrows.register hvalid hfirst (Password.verify_of_hash? hsalt hhash) hnext.rows
    · rw [register_again h hrows authority x.now salt hvalid hfirst]
      refine hrows.keep fun name => ?_
      by_cases hname : username = name
      · exact .inr (hname ▸ hfirst)
      · exact .inl (by simp [Step.registration?, hname])
  · have heffect := answer_effect h authority limits ⟨x.now, id, salt⟩ (.register username password)
    generalize (b.services authority limits).answer ⟨x.now, id, salt⟩ x.store
      (.register username password) = o at heffect
    cases heffect with
    | asked hquestion => exact hquestion.elim
    | refused => exact hrows.keep fun _ => .inl (by simp [Step.registration?, hvalid])
    | registered haccount _ _ => exact absurd (accountFor_eq_ok_iff.1 haccount).1 hvalid

theorem registered_step (h : l.Intact x.store) (authority : Authority) (limits : Limits) {s : Step}
    (hrows : Registered steps (b.userRows x.store)) (hs : Supplied now (steps ++ [s])) :
    Registered (steps ++ [s]) (b.userRows ((b.services authority limits).step x s).2.store) := by
  cases s with
  | request r id salt =>
    rw [Services.store_step_request]
    cases r with
    | register username password => exact registered_register h authority limits hrows hs
    | _ =>
      rw [(answer_effect h authority limits _ _).userRows_eq (by rintro _ _ ⟨⟩)]
      exact hrows.keep fun _ => .inl rfl
  | seed u id => cases hs.last
  | setClock t => exact hrows.keep fun _ => .inl rfl
  | advanceClock seconds nanos => exact hrows.keep fun _ => .inl rfl

/-- The invariant is carried along the run from its start, so the induction takes steps off the end. -/
theorem registered_run (h : l.Intact x.store) (hstart : b.userRows x.store = [])
    (authority : Authority) (limits : Limits) (hs : Supplied now steps) :
    Registered steps (b.userRows ((b.services authority limits).run steps x).store) := by
  induction steps using List.reverseRecOn with
  | nil => exact hstart ▸ .nil
  | append_singleton steps s ih =>
    rw [Services.run_append]
    exact registered_step (intact_run h authority limits steps) authority limits
      (ih (hs.of_isPrefix (List.prefix_append _ _))) hs

end TradeRegister.Service
