import TradeRegister.Proofs.Service.Registrations

/-! # Accounts over whole runs

The first valid registration of a name opens an account, and no later one does. From then on its
password opens sessions for the same user, whatever else happens. The token of a session is
recognized in every second before it expires, and never afterwards.
-/

namespace TradeRegister.Service

open Store (Backend Database Memory)
open Token (Authority)
open Delivery (Dispatcher Mutation)

variable {σ : Type} {b : Backend σ} {l : b.Laws} {x : Scene σ} {authority : Authority}
  {limits : Limits} {steps : List Step} {username password : String} {id : Uuid} {salt : Bytes}

/-! ## Steps -/

theorem step_eq_of_error (h : l.Intact x.store) {r : Request} {fault : Fault}
    {announced : List Mutation}
    (hfault : ((b.services authority limits).step x (.request r id salt)).1 =
      .response (.error fault) announced) :
    (b.services authority limits).step x (.request r id salt) = (.response (.error fault) [], x) := by
  obtain ⟨hresult, _⟩ := Sight.response.inj hfault
  exact Services.step_of_answer ((answer_effect h authority limits _ _).unchanged hresult)

theorem step_register_first (h : l.Intact x.store) (hrows : Registered steps (b.userRows x.store))
    (hvalid : areValid username password = true) (hnew : id ∉ steps.filterMap Step.registerId?)
    (hfirst : account? username steps = none) :
    ((b.services authority limits).step x (.request (.register username password) id salt)).1 =
      .response (.ok (.session (sessionFor authority x.now id))) [.of .signup id] := by
  obtain ⟨hash, s', _, _, hregister⟩ := register_first h hrows authority x.now salt hvalid hnew hfirst
  rw [Services.sight_step_request, answer_register, hregister]
  rfl

theorem step_register_again (h : l.Intact x.store) (hrows : Registered steps (b.userRows x.store))
    (hvalid : areValid username password = true) (hagain : account? username steps ≠ none) :
    (b.services authority limits).step x (.request (.register username password) id salt) =
      (.response (.error (.conflict "user")) [], x) := by
  apply Services.step_of_answer
  rw [answer_register, register_again h hrows authority x.now salt hvalid hagain]
  rfl

theorem step_login (h : l.Intact x.store) (hrows : Registered steps (b.userRows x.store))
    {account : Uuid} (haccount : account? username steps = some (account, password)) :
    (b.services authority limits).step x (.request (.login username password) id salt) =
      (.response (.ok (.session (sessionFor authority x.now account))) [], x) := by
  obtain ⟨hash, hrow, hverify⟩ := hrows.present username account password haccount
  apply Services.step_of_answer
  rw [answer_login, login_eq h.sound hrow hverify]
  rfl

theorem step_authenticate {user : Uuid} (huser : user ≠ Uuid.nil) {issued : Instant}
    (hissued : 0 ≤ issued.total) :
    (b.services authority limits).step x
        (.request (.authenticate (authority.issue issued user)) id salt) =
      (.response (if x.now.seconds < min (issued.seconds + authority.lifetime) (2 ^ 63 - 1) then
          .ok (.identity user)
        else .error .badCredentials) [], x) := by
  apply Services.step_of_answer
  rw [answer_authenticate, authenticate_issue authority huser hissued, apply_ite (Except.map _)]
  rfl

/-- Every session is for a user who is not nil, and holds a token issued to that user just then. -/
theorem session_of_step (h : l.Intact x.store) (hrows : ∀ r ∈ b.userRows x.store, r.id ≠ Uuid.nil)
    {s : Step} (hs : s.isSupplied = true) {session : Session} {announced : List Mutation}
    (hsession : ((b.services authority limits).step x s).1 =
      .response (.ok (.session session)) announced) :
    session.token = authority.issue x.now session.userId ∧ session.userId ≠ Uuid.nil := by
  cases s with
  | request r id salt =>
    obtain ⟨hresult, _⟩ := Sight.response.inj hsession
    cases r with
    | register username password =>
      have heffect := answer_effect h authority limits ⟨x.now, id, salt⟩ (.register username password)
      generalize (b.services authority limits).answer ⟨x.now, id, salt⟩ x.store
        (.register username password) = o at heffect hresult
      cases heffect with
      | asked hquestion => exact hquestion.elim
      | refused => cases hresult
      | registered _ _ _ =>
        cases hresult
        exact ⟨rfl, (Step.isSupplied_register hs).1⟩
    | login username password =>
      obtain ⟨_, hlogin, hsame⟩ := map_eq_ok_iff.1 hresult
      cases hsame
      obtain ⟨r, hr, rfl⟩ := exists_row_of_login h.sound hlogin
      exact ⟨rfl, hrows r hr⟩
    | _ =>
      obtain ⟨_, _, hsame⟩ := map_eq_ok_iff.1 hresult
      cases hsame
  | _ => cases hsession

/-! ## Runs -/

/-- What the account service owes to a step that follows the steps `before` from `start`. -/
structure AccountsHold (b : Backend σ) (d : Services σ) (start : Scene σ) (before : List Step)
    (s : Step) : Prop where
  opens : ∀ username password id salt, s = .request (.register username password) id salt →
    areValid username password = true → account? username before = none →
      id ≠ Uuid.nil ∧ (∀ r ∈ b.userRows (d.run before start).store, r.id ≠ id) ∧
      (d.step (d.run before start) s).1 = .response
        (.ok (.session (sessionFor d.authority (d.run before start).now id))) [.of .signup id]
  refuses : ∀ username password id salt, s = .request (.register username password) id salt →
    areValid username password = true → account? username before ≠ none →
      d.step (d.run before start) s =
        (.response (.error (.conflict "user")) [], d.run before start)
  storesNothing : ∀ username password id salt fault announced,
    s = .request (.register username password) id salt →
    (d.step (d.run before start) s).1 = .response (.error fault) announced →
      (d.step (d.run before start) s).2 = d.run before start
  logsIn : ∀ username password id salt account, s = .request (.login username password) id salt →
    account? username before = some (account, password) →
      d.step (d.run before start) s = (.response
        (.ok (.session (sessionFor d.authority (d.run before start).now account))) [],
        d.run before start)
  recognizes : ∀ earlier issuer between session announced id salt,
    before = earlier ++ issuer :: between →
    (d.step (d.run earlier start) issuer).1 = .response (.ok (.session session)) announced →
    s = .request (.authenticate session.token) id salt →
      d.step (d.run before start) s = (.response
        (if (d.run before start).now.seconds <
            min ((d.run earlier start).now.seconds + d.authority.lifetime) (2 ^ 63 - 1) then
          .ok (.identity session.userId)
        else .error .badCredentials) [],
        d.run before start)

/-- A session of the run stays good until it expires, whatever the steps in between do. -/
theorem recognizes_run {start : Scene σ} (h : l.Intact start.store)
    (hstart : b.userRows start.store = []) {earlier between : List Step} {issuer : Step}
    (hs : Supplied start.now (earlier ++ issuer :: between)) {session : Session}
    {announced : List Mutation}
    (hsession : ((b.services authority limits).step
      ((b.services authority limits).run earlier start) issuer).1 = .response (.ok (.session session)) announced) :
    (b.services authority limits).step x (.request (.authenticate session.token) id salt) =
      (.response (if x.now.seconds <
          min (((b.services authority limits).run earlier start).now.seconds + authority.lifetime)
            (2 ^ 63 - 1) then .ok (.identity session.userId)
        else .error .badCredentials) [], x) := by
  have hearlier : earlier <+: earlier ++ issuer :: between := List.prefix_append _ _
  have hrows := registered_run h hstart authority limits (hs.of_isPrefix hearlier)
  obtain ⟨htoken, huser⟩ := session_of_step (intact_run h authority limits earlier)
    (fun r hr => (hs.of_isPrefix hearlier).registerId_ne_nil (hrows.ids r hr))
    (hs.isSupplied issuer (by simp)) hsession
  have hissued := hs.clock earlier ((List.mem_inits _ _).2 hearlier)
  rw [← now_run (b.services authority limits)] at hissued
  rw [htoken]
  exact step_authenticate huser hissued

theorem accountsHold {start : Scene σ} (h : l.Intact start.store)
    (hstart : b.userRows start.store = []) (authority : Authority) (limits : Limits)
    {before : List Step} {s : Step} (hs : Supplied start.now (before ++ [s])) :
    AccountsHold b (b.services authority limits) start before s := by
  have hbefore := hs.of_isPrefix (List.prefix_append _ _)
  have hrun := intact_run h authority limits before
  have hrows := registered_run h hstart authority limits hbefore
  refine ⟨?opens, ?refuses, ?storesNothing, ?logsIn, ?recognizes⟩
  case opens =>
    rintro username password id salt rfl hvalid hfirst
    have hnew := hs.new_registerId rfl
    refine ⟨(Step.isSupplied_register hs.last).1, ?_,
      step_register_first hrun hrows hvalid hnew hfirst⟩
    rintro r hr rfl
    exact hnew (hrows.ids r hr)
  case refuses =>
    rintro username password id salt rfl hvalid hagain
    exact step_register_again hrun hrows hvalid hagain
  case storesNothing =>
    rintro username password id salt fault announced rfl hfault
    rw [step_eq_of_error hrun hfault]
  case logsIn =>
    rintro username password id salt account rfl haccount
    exact step_login hrun hrows haccount
  case recognizes =>
    rintro earlier issuer between session announced id salt rfl hsession rfl
    exact recognizes_run h hstart hbefore hsession

/-- Over either store, in every run that starts without accounts: the first valid registration of a
name opens an account and every later one is refused, the password of the account opens sessions
from then on, and the token of every session is recognized until it expires. -/
theorem accountsHold_run (authority : Authority) (limits : Limits) (now : Instant)
    (dispatcher : Dispatcher) {steps : List Step} (hs : Supplied now steps) {before : List Step}
    {s : Step} (hbefore : before ++ [s] <+: steps) :
    AccountsHold .memory (Backend.memory.services authority limits)
        ⟨Backend.memory.start, now, dispatcher⟩ before s ∧
      AccountsHold .database (Backend.database.services authority limits)
        ⟨Backend.database.start, now, dispatcher⟩ before s := by
  have hmemory : Memory.laws.Intact Backend.memory.start := .start
  have hdatabase : Database.laws.Intact Backend.database.start := .start
  have hstep := hs.of_isPrefix hbefore
  exact ⟨accountsHold hmemory Memory.laws.userRows_start authority limits hstep,
    accountsHold hdatabase Database.laws.userRows_start authority limits hstep⟩

/-- Ann registers and a minute passes before she logs in. -/
def annsFirstMinute : List Step :=
  [.request (.register "ann" "secret") ⟨7, by decide⟩ (List.replicate 16 0), .advanceClock 60 0]

theorem accountsHold_run_ann :
    ∃ token, ((Backend.database.services ⟨"acme", ⟨"k"⟩, 900, by decide, by decide⟩ {}).step
      ((Backend.database.services ⟨"acme", ⟨"k"⟩, 900, by decide, by decide⟩ {}).run annsFirstMinute
        ⟨Backend.database.start, ⟨0, by decide, by decide⟩, ⟨"t", [], 0, false⟩⟩)
      (.request (.login "ann" "secret") ⟨8, by decide⟩ [])).1 =
        .response (.ok (.session ⟨⟨7, by decide⟩, token⟩)) [] := by
  have hs : Supplied ⟨0, by decide, by decide⟩
      (annsFirstMinute ++ [.request (.login "ann" "secret") ⟨8, by decide⟩ []]) :=
    ⟨by decide, by decide, by decide⟩
  have haccount : account? "ann" annsFirstMinute = some (⟨7, by decide⟩, "secret") := by decide
  have hholds := accountsHold_run ⟨"acme", ⟨"k"⟩, 900, by decide, by decide⟩ {}
    ⟨0, by decide, by decide⟩ ⟨"t", [], 0, false⟩ hs (List.prefix_refl _)
  exact ⟨_, congrArg Prod.fst (hholds.2.logsIn _ _ _ _ _ rfl haccount)⟩

end TradeRegister.Service
