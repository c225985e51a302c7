import HomeAddons.Gateway.Store

/-!
# Weixin Gateway: the directory of bound identities

What the tables say about who is bound to what: the role and the status of each principal, the state
of each identity, and the binding of each principal. `Directory.Step` is what a call of the store
can do to it.

* `Directory.Sound.step_iff`: from a sound directory, a step keeps every identity with at most one
  active primary binding, and moves none that has one, exactly when it does not disturb one.
-/

namespace HomeAddons.Gateway

/-- The binding of a principal. -/
structure Seat where
  identity : String
  bindingType : BindingType
  state : Status
  deriving DecidableEq

@[ext] structure Directory where
  user : String → Option (Role × Status)
  identity : String → Option IdentityState
  seat : String → Option Seat

namespace Directory

/-- The principal has an active primary binding to the identity. -/
def Holds (d : Directory) (i p : String) : Prop := d.seat p = some ⟨i, .primary, .active⟩

/-! ## Steps -/

/-- Identities that are given up while they wait for a pairing. -/
def dropped (d : Directory) (S : String → Bool) : Directory :=
  ⟨d.user, fun i => if S i = true ∧ d.identity i = some .pendingPairing then some .revoked
    else d.identity i, d.seat⟩

/-- The binding type that a start gives to a user. -/
def startType : Role → BindingType
  | .owner => .primary
  | .member => .legacyShared

/-- The binding of a user after a start with the identity `i`. -/
def started (i : String) (user : Option (Role × Status)) (seat : Option Seat) : Option Seat :=
  match user, seat with
  | none, seat => seat
  | some (role, status), none => some ⟨i, startType role, status⟩
  | some (role, status), some s =>
    if s.bindingType = .primary then some s
    else some ⟨i, startType role, if s.state = .revoked then .revoked else status⟩

/-- What a call does. -/
inductive Turn where
  /-- Nothing that the directory shows. -/
  | idle
  /-- The first owner, or a new member who shares the identity of the owner or has none. -/
  | enroll (p : String)
  /-- An account is scanned for a new member. -/
  | attach (i : String)
  /-- A member pairs with the identity. -/
  | claim (i p : String)
  /-- A user is suspended, resumed or revoked. -/
  | status (p : String) (s : Status)
  /-- The role of the owner is handed on. -/
  | transfer (p q : String)
  /-- The gateway starts with the identity. -/
  | start (i : String)

/-- A turn that binds nobody to an identity of its own and takes no identity away. -/
def Turn.Quiet : Turn → Prop
  | .idle | .enroll _ | .transfer _ _ => True
  | _ => False

/-- The directory before and after a turn. -/
inductive Step (d : Directory) : Turn → Directory → Prop where
  | idle : Step d .idle d
  | enroll {p : String} {role : Role} {seat : String → Option Seat} (hnew : d.user p = none)
      (hrole : role = .owner → ∀ q, d.user q = none)
      (hseat : seat = d.seat ∨
        ∃ i, seat = Function.update d.seat p (some ⟨i, .legacyShared, .active⟩)) :
      Step d (.enroll p) ⟨Function.update d.user p (some (role, .active)), d.identity, seat⟩
  | attach {i : String} : Step d (.attach i)
      ⟨d.user, Function.update d.identity i (some .pendingPairing), d.seat⟩
  | claim {i p : String} {role : Role}
      (huser : d.user p = some (role, .active) ∨ d.user p = none ∧ role = .member)
      (hseat : ∀ s ∈ d.seat p, s.bindingType = .legacyShared) :
      Step d (.claim i p)
        ⟨Function.update d.user p (some (role, .active)),
          Function.update d.identity i (some .active),
          Function.update d.seat p (some ⟨i, .primary, .active⟩)⟩
  | status {p : String} {role : Role} {old new : Status} (huser : d.user p = some (role, old))
      (hne : old ≠ new) (hrevoked : old ≠ .revoked) :
      Step d (.status p new)
        ⟨Function.update d.user p (some (role, new)),
          fun i => if ∃ s ∈ d.seat p, s.bindingType = .primary ∧ s.identity = i then
            (d.identity i).map fun _ => new.identityState else d.identity i,
          Function.update d.seat p ((d.seat p).map fun s => { s with state := new })⟩
  | transfer {p q : String} (hp : d.user p = some (.owner, .active))
      (hq : d.user q = some (.member, .active)) :
      Step d (.transfer p q)
        ⟨Function.update (Function.update d.user p (some (.member, .active))) q
          (some (.owner, .active)), d.identity, d.seat⟩
  | start {i : String} : Step d (.start i)
      ⟨d.user, Function.update d.identity i
          (some (if d.identity i = some .revoked then .revoked else .active)),
        fun p => started i (d.user p) (d.seat p)⟩

/-! ## Sound directories -/

/-- Every binding is in the state of its user. -/
def Matched (d : Directory) : Prop :=
  ∀ p s, d.seat p = some s → ∃ role, d.user p = some (role, s.state)

def OneOwner (d : Directory) : Prop :=
  ∀ p q s t, d.user p = some (.owner, s) → d.user q = some (.owner, t) → p = q

/-- Every identity has at most one active primary binding. -/
def OneHolder (d : Directory) : Prop := ∀ i p q, d.Holds i p → d.Holds i q → p = q

/-- No identity that has an active primary binding waits for a pairing. -/
def Settled (d : Directory) : Prop := ∀ i p, d.Holds i p → d.identity i ≠ some .pendingPairing

structure Sound (d : Directory) : Prop where
  matched : d.Matched
  oneOwner : d.OneOwner
  oneHolder : d.OneHolder
  settled : d.Settled

/-- The step moves no identity that has an active primary binding back to its pairing or to
    `revoked`, unless it revokes the user of that binding. -/
def Spares (d : Directory) (t : Turn) (d' : Directory) : Prop :=
  ∀ i p, d.Holds i p → t ≠ .status p .revoked → d'.identity i ≠ d.identity i →
    d'.identity i ≠ some .pendingPairing ∧ d'.identity i ≠ some .revoked

/-- The turn disturbs an identity that has an active primary binding: its account is scanned again,
    or another member pairs with it, is resumed or revoked on it, or becomes its owner. -/
def Turn.Disturbs (d : Directory) : Turn → Prop
  | .attach i => ∃ p, d.Holds i p
  | .claim i _ => ∃ q, d.Holds i q
  | .status p .active => ∃ i s q, d.seat p = some ⟨i, .primary, s⟩ ∧ q ≠ p ∧ d.Holds i q
  | .status p .revoked => ∃ i s q, d.seat p = some ⟨i, .primary, s⟩ ∧ q ≠ p ∧ d.Holds i q ∧
      ∃ state, d.identity i = some state ∧ state ≠ .revoked
  | .start i => ∃ o q, d.user o = some (.owner, .active) ∧
      (∀ s ∈ d.seat o, s.bindingType = .legacyShared) ∧ d.Holds i q
  | _ => False

variable {d d' : Directory} {t : Turn}

theorem Matched.step (hd : d.Matched) (hs : d.Step t d') : d'.Matched := by
  intro p s hseat
  cases hs with
  | idle => exact hd p s hseat
  | @enroll q role seat hnew hrole hq =>
    dsimp only at hseat ⊢
    obtain rfl | ⟨i, rfl⟩ := hq
    · obtain ⟨role', huser⟩ := hd p s hseat
      have hne : p ≠ q := by
        rintro rfl
        rw [hnew] at huser
        cases huser
      exact ⟨role', by rw [Function.update_of_ne hne, huser]⟩
    · by_cases hp : p = q
      · subst hp
        rw [Function.update_self] at hseat
        cases hseat
        exact ⟨role, Function.update_self _ _ _⟩
      · rw [Function.update_of_ne hp] at hseat
        obtain ⟨role', huser⟩ := hd p s hseat
        exact ⟨role', by rw [Function.update_of_ne hp, huser]⟩
  | attach => exact hd p s hseat
  | @claim i q role huser hq =>
    dsimp only at hseat ⊢
    by_cases hp : p = q
    · subst hp
      rw [Function.update_self] at hseat
      cases hseat
      exact ⟨role, Function.update_self _ _ _⟩
    · rw [Function.update_of_ne hp] at hseat
      obtain ⟨role', huser'⟩ := hd p s hseat
      exact ⟨role', by rw [Function.update_of_ne hp, huser']⟩
  | @status q role old new huser hne hrevoked =>
    dsimp only at hseat ⊢
    by_cases hp : p = q
    · subst hp
      rw [Function.update_self] at hseat
      obtain ⟨s', _, rfl⟩ := Option.map_eq_some_iff.mp hseat
      exact ⟨role, Function.update_self _ _ _⟩
    · rw [Function.update_of_ne hp] at hseat
      obtain ⟨role', huser'⟩ := hd p s hseat
      exact ⟨role', by rw [Function.update_of_ne hp, huser']⟩
  | @transfer q r hq hr =>
    dsimp only at hseat ⊢
    obtain ⟨role', huser'⟩ := hd p s hseat
    by_cases hpr : p = r
    · subst hpr
      rw [huser', Option.some.injEq, Prod.mk.injEq] at hr
      exact ⟨.owner, by rw [Function.update_self, hr.2]⟩
    · rw [Function.update_of_ne hpr]
      by_cases hpq : p = q
      · subst hpq
        rw [huser', Option.some.injEq, Prod.mk.injEq] at hq
        exact ⟨.member, by rw [Function.update_self, hq.2]⟩
      · exact ⟨role', by rw [Function.update_of_ne hpq, huser']⟩
  | @start i =>
    dsimp only at hseat ⊢
    cases huser : d.user p with
    | none =>
      rw [huser] at hseat
      obtain ⟨role, hrole⟩ := hd p s hseat
      rw [huser] at hrole
      cases hrole
    | some x =>
      obtain ⟨role, status⟩ := x
      rw [huser] at hseat
      cases hold : d.seat p with
      | none =>
        rw [hold] at hseat
        cases hseat
        exact ⟨role, rfl⟩
      | some s' =>
        obtain ⟨role', hrole'⟩ := hd p s' hold
        rw [huser] at hrole'
        cases hrole'
        rw [hold, started] at hseat
        split_ifs at hseat with hprimary hrevoked
        · cases hseat
          exact ⟨role, rfl⟩
        · cases hseat
          exact ⟨role, by rw [hrevoked]⟩
        · cases hseat
          exact ⟨role, rfl⟩

theorem OneOwner.step (hd : d.OneOwner) (hs : d.Step t d') : d'.OneOwner := by
  intro p q s s' hp hq
  cases hs with
  | idle => exact hd p q s s' hp hq
  | @enroll r role seat hnew hrole _ =>
    dsimp only at hp hq
    rw [Function.update_apply] at hp hq
    split_ifs at hp hq with hpr hqr hqr
    · exact hpr.trans hqr.symm
    · cases hp
      rw [hrole rfl q] at hq
      cases hq
    · cases hq
      rw [hrole rfl p] at hp
      cases hp
    · exact hd p q s s' hp hq
  | attach => exact hd p q s s' hp hq
  | @claim i r role huser _ =>
    have hold : ∀ x y, Function.update d.user r (some (role, .active)) x = some (.owner, y) →
        ∃ y, d.user x = some (.owner, y) := by
      intro x y hx
      rw [Function.update_apply] at hx
      split_ifs at hx with hxr
      · subst hxr
        cases hx
        obtain huser | ⟨_, hrole⟩ := huser
        · exact ⟨_, huser⟩
        · cases hrole
      · exact ⟨y, hx⟩
    obtain ⟨y, hp'⟩ := hold p s hp
    obtain ⟨z, hq'⟩ := hold q s' hq
    exact hd p q y z hp' hq'
  | @status r role old new huser _ _ =>
    have hold : ∀ x y, Function.update d.user r (some (role, new)) x = some (.owner, y) →
        ∃ y, d.user x = some (.owner, y) := by
      intro x y hx
      rw [Function.update_apply] at hx
      split_ifs at hx with hxr
      · subst hxr
        cases hx
        exact ⟨_, huser⟩
      · exact ⟨y, hx⟩
    obtain ⟨y, hp'⟩ := hold p s hp
    obtain ⟨z, hq'⟩ := hold q s' hq
    exact hd p q y z hp' hq'
  | @transfer o r ho hr =>
    -- the only owner after a transfer is the target
    have hold : ∀ x y, Function.update (Function.update d.user o (some (.member, .active))) r
        (some (.owner, .active)) x = some (.owner, y) → x = r := by
      intro x y hx
      by_contra hxr
      rw [Function.update_of_ne hxr, Function.update_apply] at hx
      split_ifs at hx with hxo
      · cases hx
      · exact hxo (hd x o y _ hx ho)
    rw [hold p s hp, hold q s' hq]
  | start => exact hd p q s s' hp hq

/-! ## Who holds an identity -/

/-- A principal that a turn turns into a holder of the identity. -/
def Turn.Seats (d : Directory) (i p : String) : Turn → Prop
  | .claim j q => i = j ∧ p = q
  | .status q s => p = q ∧ s = .active ∧ ∃ s, d.seat p = some ⟨i, .primary, s⟩
  | .start j => i = j ∧ d.user p = some (.owner, .active) ∧
      ∀ s ∈ d.seat p, s.bindingType = .legacyShared
  | _ => False

variable {i p q : String}

/-- A holder after a step held the identity before or got it in the step. -/
theorem Step.holds (hs : d.Step t d') (hp : d'.Holds i p) : d.Holds i p ∨ t.Seats d i p := by
  unfold Holds at hp ⊢
  cases hs with
  | idle => exact .inl hp
  | @enroll q role seat _ _ hq =>
    dsimp only at hp
    obtain rfl | ⟨j, rfl⟩ := hq
    · exact .inl hp
    · rw [Function.update_apply] at hp
      split_ifs at hp
      · cases hp
      · exact .inl hp
  | attach => exact .inl hp
  | @claim j q role _ _ =>
    dsimp only at hp
    rw [Function.update_apply] at hp
    split_ifs at hp with hpq
    · cases hp
      exact .inr ⟨rfl, hpq⟩
    · exact .inl hp
  | @status q role old new huser hne _ =>
    dsimp only at hp
    rw [Function.update_apply] at hp
    split_ifs at hp with hpq
    · subst hpq
      obtain ⟨s, hseat, heq⟩ := Option.map_eq_some_iff.mp hp
      obtain ⟨j, bindingType, state⟩ := s
      cases heq
      exact .inr ⟨rfl, rfl, state, hseat⟩
    · exact .inl hp
  | transfer => exact .inl hp
  | @start j =>
    dsimp only at hp
    cases huser : d.user p with
    | none =>
      rw [huser] at hp
      exact .inl hp
    | some x =>
      obtain ⟨role, status⟩ := x
      rw [huser] at hp
      cases hold : d.seat p with
      | none =>
        rw [hold] at hp
        cases role with
        | owner =>
          cases hp
          exact .inr ⟨rfl, huser, by simp [hold]⟩
        | member => cases hp
      | some s =>
        rw [hold, started] at hp
        split_ifs at hp with hprimary hrevoked
        · exact .inl hp
        · exact absurd hp (by simp)
        · cases role with
          | owner =>
            cases hp
            refine .inr ⟨rfl, huser, ?_⟩
            rw [hold]
            rintro _ ⟨⟩
            cases hs : s.bindingType with
            | primary => exact absurd hs hprimary
            | legacyShared => rfl
          | member => cases hp

/-- A principal that a turn makes a holder is one afterwards. -/
theorem Step.seats (hd : d.Matched) (hs : d.Step t d') (hp : t.Seats d i p) : d'.Holds i p := by
  unfold Holds
  cases hs with
  | idle => cases hp
  | enroll => cases hp
  | attach => cases hp
  | claim =>
    obtain ⟨rfl, rfl⟩ := hp
    exact Function.update_self _ _ _
  | status =>
    obtain ⟨rfl, rfl, s, hseat⟩ := hp
    dsimp only
    rw [Function.update_self, hseat]
    rfl
  | transfer => cases hp
  | start =>
    obtain ⟨rfl, huser, hseat⟩ := hp
    dsimp only
    rw [huser]
    cases hold : d.seat p with
    | none => rfl
    | some s =>
      obtain ⟨role, hmatched⟩ := hd p s hold
      rw [huser, Option.some.injEq, Prod.mk.injEq] at hmatched
      have hlegacy : ¬ s.bindingType = .primary := by
        rw [hseat s hold]
        decide
      have hactive : ¬ s.state = .revoked := by
        rw [← hmatched.2]
        decide
      rw [started, if_neg hlegacy, if_neg hactive]
      rfl

/-- A holder stays one unless the step suspends or revokes it. -/
theorem Step.holds_of_holds (hs : d.Step t d') (hp : d.Holds i p)
    (ht : ∀ s, t = .status p s → s = .active) (hu : ∃ x, d.user p = some x) : d'.Holds i p := by
  unfold Holds at hp ⊢
  cases hs with
  | idle => exact hp
  | @enroll q role seat hnew _ hq =>
    dsimp only
    obtain rfl | ⟨j, rfl⟩ := hq
    · exact hp
    · rw [Function.update_apply]
      split_ifs with hpq
      · subst hpq
        rw [hnew] at hu
        obtain ⟨x, hx⟩ := hu
        cases hx
      · exact hp
  | attach => exact hp
  | @claim j q role _ hseat =>
    dsimp only
    rw [Function.update_apply]
    split_ifs with hpq
    · subst hpq
      cases hseat _ hp
    · exact hp
  | @status q role old new _ hne _ =>
    dsimp only
    rw [Function.update_apply]
    split_ifs with hpq
    · subst hpq
      rw [hp, ht new rfl]
      rfl
    · exact hp
  | transfer => exact hp
  | start =>
    dsimp only
    rw [hp]
    cases d.user p with
    | none => rfl
    | some x => rfl

/-! ## Steps that disturb a holder -/

theorem Holds.user (hd : d.Matched) (hp : d.Holds i p) : ∃ x, d.user p = some x := by
  obtain ⟨role, huser⟩ := hd p _ hp
  exact ⟨_, huser⟩

/-- A turn that seats a principal on an identity that another one holds disturbs it. -/
theorem Turn.Seats.disturbs (hp : t.Seats d i p) (hq : d.Holds i q) (hne : q ≠ p) :
    t.Disturbs d := by
  cases t with
  | idle => cases hp
  | enroll => cases hp
  | attach => cases hp
  | claim j r =>
    obtain ⟨rfl, rfl⟩ := hp
    exact ⟨q, hq⟩
  | status r s =>
    obtain ⟨rfl, rfl, s, hseat⟩ := hp
    exact ⟨i, s, q, hseat, hne, hq⟩
  | transfer => cases hp
  | start j =>
    obtain ⟨rfl, huser, hseat⟩ := hp
    exact ⟨p, q, huser, hseat, hq⟩

/-- Two principals are not seated by one turn on one identity. -/
theorem Turn.Seats.unique (hd : d.OneOwner) (hp : t.Seats d i p) (hq : t.Seats d i q) : p = q := by
  cases t with
  | idle => cases hp
  | enroll => cases hp
  | attach => cases hp
  | claim => exact hp.2.trans hq.2.symm
  | status => exact hp.1.trans hq.1.symm
  | transfer => cases hp
  | start => exact hd p q _ _ hp.2.1 hq.2.1

theorem OneHolder.step (hd : d.Sound) (hs : d.Step t d') (ht : ¬ t.Disturbs d) : d'.OneHolder := by
  intro i p q hp hq
  obtain hp | hp := hs.holds hp <;> obtain hq | hq := hs.holds hq
  · exact hd.oneHolder i p q hp hq
  · by_contra hne
    exact ht (hq.disturbs hp hne)
  · by_contra hne
    exact ht (hp.disturbs hq (Ne.symm hne))
  · exact hp.unique hd.oneOwner hq

theorem Settled.step (hd : d.Sound) (hs : d.Step t d') (ht : ¬ t.Disturbs d) : d'.Settled := by
  intro i p hp
  have hwas := hs.holds hp
  have hold : d.Holds i p → d.identity i ≠ some .pendingPairing := hd.settled i p
  cases hs with
  | idle => exact hold (hwas.resolve_right id)
  | enroll => exact hold (hwas.resolve_right id)
  | @attach j =>
    have hp := hwas.resolve_right id
    dsimp only
    rw [Function.update_apply]
    split_ifs with hij
    · subst hij
      exact absurd ⟨p, hp⟩ ht
    · exact hold hp
  | @claim j q role _ _ =>
    dsimp only
    rw [Function.update_apply]
    split_ifs with hij
    · simp
    · exact hold (hwas.resolve_right fun hc => hij hc.1)
  | @status q role old new huser _ _ =>
    dsimp only
    split_ifs with hown
    · cases d.identity i with
      | none => simp
      | some _ => cases new <;> simp [Status.identityState]
    · refine hold (hwas.resolve_right ?_)
      rintro ⟨rfl, _, s, hseat⟩
      exact hown ⟨_, hseat, rfl, rfl⟩
  | transfer => exact hold (hwas.resolve_right id)
  | @start j =>
    dsimp only
    rw [Function.update_apply]
    split_ifs with hij hrevoked
    · simp
    · simp
    · exact hold (hwas.resolve_right fun hc => hij hc.1)

theorem Spares.step (hs : d.Step t d') (ht : ¬ t.Disturbs d) : d.Spares t d' := by
  intro i p hp hown hmoved
  cases hs with
  | idle => exact absurd rfl hmoved
  | enroll => exact absurd rfl hmoved
  | @attach j =>
    dsimp only at hmoved
    rw [Function.update_apply] at hmoved
    split_ifs at hmoved with hij
    · subst hij
      exact absurd ⟨p, hp⟩ ht
    · exact absurd rfl hmoved
  | @claim j q role _ _ =>
    dsimp only at hmoved ⊢
    rw [Function.update_apply] at hmoved ⊢
    split_ifs at hmoved ⊢ with hij
    · simp
    · exact absurd rfl hmoved
  | @status q role old new huser hne _ =>
    dsimp only at hmoved ⊢
    split_ifs at hmoved ⊢ with hseat
    · obtain ⟨⟨j, _, s⟩, hs, rfl, rfl⟩ := hseat
      cases hi : d.identity j with
      | none => simp
      | some state =>
        cases new with
        | active => simp [Status.identityState]
        | suspended => simp [Status.identityState]
        | revoked =>
          -- another member is revoked on the identity
          have hpq : p ≠ q := by
            rintro rfl
            exact hown rfl
          refine absurd ⟨j, s, p, hs, hpq, hp, state, hi, ?_⟩ ht
          rintro rfl
          rw [hi] at hmoved
          exact hmoved rfl
    · exact absurd rfl hmoved
  | transfer => exact absurd rfl hmoved
  | @start j =>
    dsimp only at hmoved ⊢
    rw [Function.update_apply] at hmoved ⊢
    split_ifs at hmoved ⊢ with hij hrevoked
    · subst hij
      exact absurd hrevoked.symm hmoved
    · simp
    · exact absurd rfl hmoved

/-- A turn that disturbs a holder gives the identity a second one, or moves it. -/
theorem Turn.Disturbs.breaks (hd : d.Sound) (hs : d.Step t d') (ht : t.Disturbs d) :
    ¬ (d'.OneHolder ∧ d.Spares t d') := by
  rintro ⟨hone, hspares⟩
  -- an identity with a holder to which the turn seats another one
  have hsecond : ∀ i p q, t.Seats d i p → d.Holds i q → q ≠ p →
      (∀ s, t = .status q s → s = .active) → False := by
    intro i p q hp hq hne hkeep
    exact hne (hone i q p (hs.holds_of_holds hq hkeep (hq.user hd.matched))
      (hs.seats hd.matched hp))
  cases t with
  | idle => cases ht
  | enroll => cases ht
  | attach i =>
    obtain ⟨p, hp⟩ := ht
    cases hs
    have hpending : Function.update d.identity i (some IdentityState.pendingPairing) i =
        some .pendingPairing := Function.update_self _ _ _
    refine (hspares i p hp (by simp) ?_).1 hpending
    dsimp only
    rw [hpending]
    exact (hd.settled i p hp).symm
  | claim i p =>
    obtain ⟨q, hq⟩ := ht
    by_cases hqp : q = p
    · subst hqp
      cases hs with
      | claim _ hseat => cases hseat _ hq
    · exact hsecond i p q ⟨rfl, rfl⟩ hq hqp (by simp)
  | status p s =>
    cases s with
    | active =>
      obtain ⟨i, s, q, hseat, hne, hq⟩ := ht
      exact hsecond i p q ⟨rfl, rfl, s, hseat⟩ hq hne (by simp)
    | suspended => cases ht
    | revoked =>
      obtain ⟨i, s, q, hseat, hne, hq, state, hi, hnot⟩ := ht
      have hspare := hspares i q hq (by simpa using hne.symm)
      cases hs with
      | status huser _ _ =>
        have hmoved : (if ∃ s ∈ d.seat p, s.bindingType = .primary ∧ s.identity = i then
            (d.identity i).map fun _ => Status.revoked.identityState else d.identity i) =
            some .revoked := by
          rw [if_pos ⟨_, hseat, rfl, rfl⟩, hi]
          rfl
        dsimp only at hspare
        rw [hmoved, hi] at hspare
        exact (hspare (by simpa using hnot.symm)).2 rfl
  | transfer => cases ht
  | start i =>
    obtain ⟨o, q, huser, hseat, hq⟩ := ht
    by_cases hqo : q = o
    · subst hqo
      cases hseat _ hq
    · exact hsecond i o q ⟨rfl, huser, hseat⟩ hq hqo (by simp)

/-- A step of a sound directory leaves it sound, with every holder spared, exactly when it disturbs
    no holder. -/
theorem Sound.step_iff (hd : d.Sound) (hs : d.Step t d') :
    (d'.OneHolder ∧ d.Spares t d') ↔ ¬ t.Disturbs d :=
  ⟨fun hgood ht => ht.breaks hd hs hgood, fun ht => ⟨.step hd hs ht, .step hs ht⟩⟩

theorem Sound.step (hd : d.Sound) (hs : d.Step t d') (ht : ¬ t.Disturbs d) : d'.Sound :=
  ⟨hd.matched.step hs, hd.oneOwner.step hs, .step hd hs ht, .step hd hs ht⟩

theorem Turn.Quiet.not_disturbs (ht : t.Quiet) : ¬ t.Disturbs d := by
  cases t with
  | idle => exact id
  | enroll => exact id
  | transfer => exact id
  | _ => cases ht

/-- A quiet turn revokes nobody. -/
theorem Spares.of_quiet (hs : d.Spares t d') (ht : t.Quiet) : d.Spares .idle d' := by
  intro i p hp _
  refine hs i p hp ?_
  rintro rfl
  cases ht

/-! ## Identities that are given up -/

theorem dropped_false (d : Directory) : d.dropped (fun _ => false) = d := by
  refine Directory.ext rfl (funext fun i => ?_) rfl
  rw [dropped]
  simp

theorem dropped_dropped (d : Directory) (S T : String → Bool) :
    (d.dropped S).dropped T = d.dropped fun i => S i || T i := by
  refine Directory.ext rfl (funext fun i => ?_) rfl
  simp only [dropped]
  by_cases hpending : d.identity i = some .pendingPairing
  · by_cases hS : S i = true <;> simp [hpending, hS]
  · simp [hpending]

variable {S : String → Bool}

theorem dropped_identity (hd : d.Settled) (hp : d.Holds i p) :
    (d.dropped S).identity i = d.identity i :=
  if_neg fun hc => hd i p hp hc.2

theorem Sound.dropped (hd : d.Sound) : (d.dropped S).Sound where
  matched := hd.matched
  oneOwner := hd.oneOwner
  oneHolder := hd.oneHolder
  settled i p hp := by
    rw [dropped_identity hd.settled hp]
    exact hd.settled i p hp

theorem Turn.disturbs_dropped (hd : d.Settled) : t.Disturbs (d.dropped S) ↔ t.Disturbs d := by
  cases t with
  | status p s =>
    cases s with
    | revoked =>
      constructor
      · rintro ⟨i, s, q, hseat, hne, hq, hstate⟩
        rw [dropped_identity hd hq] at hstate
        exact ⟨i, s, q, hseat, hne, hq, hstate⟩
      · rintro ⟨i, s, q, hseat, hne, hq, hstate⟩
        refine ⟨i, s, q, hseat, hne, hq, ?_⟩
        rwa [dropped_identity hd hq]
    | _ => exact Iff.rfl
  | _ => exact Iff.rfl

theorem spares_dropped (hd : d.Settled) : (d.dropped S).Spares t d' ↔ d.Spares t d' := by
  constructor
  · intro hs i p hp hown hmoved
    exact hs i p hp hown (by rwa [dropped_identity hd hp])
  · intro hs i p hp hown hmoved
    exact hs i p hp hown (by rwa [dropped_identity hd hp] at hmoved)

end Directory

end HomeAddons.Gateway
