import HomeAddons.Common.Rowwise
import HomeAddons.Common.Run
import HomeAddons.Relay.Hub

/-!
# Runner Relay: capacity and uniqueness

* `Sound.step`: what the registry, the reservations and the running handlers have to do with each
  other, whichever handler goes on and however its `await` ends.
* `relay_orderly`: over every run, the connections and the reservations keep to the capacity, a
  Runner has one live connection at most, and nothing is left when no handler runs.
-/

namespace HomeAddons.Relay

open HomeAddons.Common

/-! ## The invariant -/

/-- What a handler has when it waits at an `await`. -/
def Handler.Fits (h : Handler) : Phase → Prop
  | .preparing | .receiving => h.active = false ∧ h.runnerReserved = false
  | .authenticating first =>
    h.active = false ∧ h.runnerReserved = true ∧ h.runnerId = some first.runnerId
  | .greeting | .listening | .forwarding .. | .acknowledging .. => h.active = true
  | .reporting .. | .closing .. => True

/-- The local variables of a running handler. -/
structure Handler.Sound (limits : Limits) (clock : ℚ) (h : Handler) : Prop where
  reserved : h.connectionReserved = !h.active
  active : h.active = true → h.runnerReserved = false ∧
    ∃ r, h.runnerId = some r ∧ h.authenticated = some r
  runner : h.runnerReserved = true → ∃ r, h.runnerId = some r
  maximum : h.rate.maximum = limits.messagesPerMinute
  rate : h.rate.Follows clock h.allowed

namespace Hub

/-- The registry, the reservations and the running handlers. -/
structure Sound (s : Hub) : Prop where
  handlers : ∀ h ∈ s.handlers.rows, h.Sound s.limits s.clock ∧ h.Fits h.phase
  capacity : s.connections.rows.length + s.pendingConnections ≤ s.limits.maxConnections
  pending : s.pendingConnections = s.handlers.count fun h => !h.active
  reserved : ∀ r, r ∈ s.pendingRunners ↔
    ∃ h ∈ s.handlers.rows, h.runnerReserved = true ∧ h.runnerId = some r
  single : ∀ h ∈ s.handlers.rows, ∀ h' ∈ s.handlers.rows, h.runnerReserved = true →
    h'.runnerReserved = true → h.runnerId = h'.runnerId → h = h'
  vacant : ∀ r ∈ s.pendingRunners, ∀ c, s.connections.get? r = some c → s.isOpen c.ws = false
  bound : ∀ c ∈ s.connections.rows, ∃ h, s.handlers.get? c.ws = some h ∧ h.active = true ∧
    h.runnerId = some c.runnerId
  registered : ∀ h ∈ s.handlers.rows, h.active = true → h.closed = false → ∀ r,
    h.runnerId = some r → s.connections.get? r = some ⟨r, h.ws⟩

theorem sound_new (limits : Limits) (clock : ℚ) : Sound (new limits clock) where
  handlers := fun _ hh => absurd hh List.not_mem_nil
  capacity := Nat.zero_le _
  pending := rfl
  reserved := fun r => ⟨fun hr => absurd hr (Finset.notMem_empty r),
    fun ⟨_, hh, _⟩ => absurd hh List.not_mem_nil⟩
  single := fun _ hh => absurd hh List.not_mem_nil
  vacant := fun r hr => absurd hr (Finset.notMem_empty r)
  bound := fun _ hc => absurd hc List.not_mem_nil
  registered := fun _ hh => absurd hh List.not_mem_nil

/-- A handler with other local variables, which are not those that the registry depends on. -/
structure Quiet (clock : ℚ) (h₀ h : Handler) : Prop where
  ws : h.ws = h₀.ws
  active : h.active = h₀.active
  runnerReserved : h.runnerReserved = h₀.runnerReserved
  connectionReserved : h.connectionReserved = h₀.connectionReserved
  closed : h₀.closed = true → h.closed = true
  runnerId : h₀.active = true ∨ h₀.runnerReserved = true → h.runnerId = h₀.runnerId
  authenticated : h₀.active = true → h.authenticated = h₀.authenticated
  maximum : h.rate.maximum = h₀.rate.maximum
  rate : h₀.rate.Follows clock h₀.allowed → h.rate.Follows clock h.allowed

variable {clock : ℚ} {t : Hub} {ws : ℕ} {r : String} {first : First}

theorem Quiet.refl (h : Handler) : Quiet clock h h :=
  ⟨rfl, rfl, rfl, rfl, id, fun _ => rfl, fun _ => rfl, rfl, id⟩

variable {s : Hub} {h₀ h : Handler}

theorem Quiet.sound {limits : Limits} (hq : Quiet clock h₀ h) (h₀s : h₀.Sound limits clock) :
    h.Sound limits clock where
  reserved := by rw [hq.connectionReserved, hq.active, h₀s.reserved]
  active := by
    intro hactive
    rw [hq.active] at hactive
    rw [hq.runnerReserved, hq.runnerId (.inl hactive), hq.authenticated hactive]
    exact h₀s.active hactive
  runner := by
    intro hreserved
    rw [hq.runnerReserved] at hreserved
    rw [hq.runnerId (.inr hreserved)]
    exact h₀s.runner hreserved
  maximum := hq.maximum.trans h₀s.maximum
  rate := hq.rate h₀s.rate

theorem isOpen_wait {phase : Phase} (hh : s.handlers.get? h.ws = some h₀)
    (hclosed : h₀.closed = true → h.closed = true) {ws : ℕ}
    (hopen : (s.wait h phase).isOpen ws = true) : s.isOpen ws = true := by
  rw [isOpen, wait, Table.get?_upsert] at hopen
  split_ifs at hopen with hws
  · rw [isOpen, show ws = h.ws from hws, hh]
    cases hc : h₀.closed with
    | false => simp [hc]
    | true => simp [hclosed hc] at hopen
  · exact hopen

theorem isOpen_false_of (himp : t.isOpen ws = true → s.isOpen ws = true) (h : s.isOpen ws = false) :
    t.isOpen ws = false := by
  cases ht : t.isOpen ws with
  | false => rfl
  | true => exact absurd (himp ht) (by rw [h]; exact Bool.false_ne_true)

/-- A handler that gives way with its registrations as they are. -/
theorem Sound.wait (hs : Sound s) {phase : Phase} (hq : Quiet s.clock h₀ h)
    (hh : s.handlers.get? h.ws = some h₀) (hfits : h.Fits phase) : Sound (s.wait h phase) := by
  have hmem := Table.mem_of_get? hh
  have h₀s := (hs.handlers h₀ hmem).1
  have hrows : ∀ h' : Handler, h' ∈ (s.wait h phase).handlers.rows ↔
      h' = { h with phase := phase } ∨ (h' ∈ s.handlers.rows ∧ h'.ws ≠ h.ws) :=
    fun _ => Table.mem_upsert
  have hrunner : h.runnerReserved = true → h.runnerId = h₀.runnerId := fun hr =>
    hq.runnerId (.inr (hq.runnerReserved ▸ hr))
  constructor
  case handlers =>
    intro h' hh'
    obtain rfl | ⟨hh', -⟩ := (hrows h').mp hh'
    · exact ⟨⟨(hq.sound h₀s).reserved, (hq.sound h₀s).active, (hq.sound h₀s).runner,
        (hq.sound h₀s).maximum, (hq.sound h₀s).rate⟩, hfits⟩
    · exact hs.handlers h' hh'
  case capacity => exact hs.capacity
  case pending =>
    have hcount : (s.wait h phase).handlers.count (fun h => !h.active) + (!h₀.active).toNat =
        s.handlers.count (fun h => !h.active) + (!h.active).toNat :=
      Table.count_upsert_of_get? (T := s.handlers) (r := { h with phase := phase }) hh _
    rw [hq.active] at hcount
    show s.pendingConnections = _
    rw [hs.pending]
    omega
  case reserved =>
    intro r
    refine (hs.reserved r).trans ⟨?_, ?_⟩
    · rintro ⟨h', hh', hr, hid⟩
      by_cases hws : h'.ws = h.ws
      · obtain rfl : h' = h₀ := Option.some.inj ((Table.mem_rows_iff.mp hh').symm.trans (hws ▸ hh))
        exact ⟨_, (hrows _).mpr (.inl rfl), hq.runnerReserved.trans hr,
          (hq.runnerId (.inr hr)).trans hid⟩
      · exact ⟨h', (hrows h').mpr (.inr ⟨hh', hws⟩), hr, hid⟩
    · rintro ⟨h', hh', hr, hid⟩
      obtain rfl | ⟨hh', -⟩ := (hrows h').mp hh'
      · exact ⟨h₀, hmem, hq.runnerReserved ▸ hr, (hrunner hr).symm.trans hid⟩
      · exact ⟨h', hh', hr, hid⟩
  case single =>
    intro a ha b hb har hbr hid
    obtain rfl | ⟨ha, haws⟩ := (hrows a).mp ha <;> obtain rfl | ⟨hb, hbws⟩ := (hrows b).mp hb
    · rfl
    · have := hs.single h₀ hmem b hb (hq.runnerReserved ▸ har) hbr ((hrunner har).symm.trans hid)
      exact absurd (this ▸ hq.ws.symm) hbws
    · have := hs.single a ha h₀ hmem har (hq.runnerReserved ▸ hbr) (hid.trans (hrunner hbr))
      exact absurd (this ▸ hq.ws.symm) haws
    · exact hs.single a ha b hb har hbr hid
  case vacant =>
    intro r hr c hc
    exact isOpen_false_of (isOpen_wait hh hq.closed) (hs.vacant r hr c hc)
  case bound =>
    intro c hc
    obtain ⟨h', hh', hactive, hid⟩ := hs.bound c hc
    show ∃ h', (s.handlers.upsert { h with phase := phase }).get? c.ws = some h' ∧ _
    rw [Table.get?_upsert]
    split_ifs with hws
    · obtain rfl : h' = h₀ := Option.some.inj (hh'.symm.trans (hws ▸ hh))
      exact ⟨_, rfl, hq.active.trans hactive, (hq.runnerId (.inl hactive)).trans hid⟩
    · exact ⟨h', hh', hactive, hid⟩
  case registered =>
    intro h' hh' hactive hclosed r hid
    obtain rfl | ⟨hh', -⟩ := (hrows h').mp hh'
    · have hactive₀ : h₀.active = true := hq.active ▸ hactive
      have hclosed₀ : h₀.closed = false := by
        cases hc : h₀.closed with
        | false => rfl
        | true => exact absurd (hq.closed hc) (by rw [show h.closed = false from hclosed]; nofun)
      have hget := hs.registered h₀ hmem hactive₀ hclosed₀ r
        ((hq.runnerId (.inl hactive₀)).symm.trans hid)
      exact hq.ws ▸ hget
    · exact hs.registered h' hh' hactive hclosed r hid

/-- Without a handler no more websockets are open. -/
theorem isOpen_erase {gone : ℕ} (ht : t.handlers = s.handlers.erase gone)
    (hws : s.isOpen ws = false) : t.isOpen ws = false := by
  rw [isOpen, ht, Table.get?_erase]
  split_ifs
  · rfl
  · exact hws

theorem unregister_fields (s : Hub) (r : String) (ws : ℕ) :
    (s.unregister r ws).pendingRunners = s.pendingRunners ∧
    (s.unregister r ws).pendingConnections = s.pendingConnections ∧
    (s.unregister r ws).limits = s.limits ∧ (s.unregister r ws).clock = s.clock ∧
    (s.unregister r ws).connections.rows.length ≤ s.connections.rows.length := by
  unfold unregister
  split_ifs
  · exact ⟨rfl, rfl, rfl, rfl, List.length_filter_le ..⟩
  · exact ⟨rfl, rfl, rfl, rfl, le_rfl⟩

/-- Only the entry of the websocket itself goes. -/
theorem get?_unregister {r' : String} {c : Connection} :
    (s.unregister r ws).connections.get? r' = some c ↔
      s.connections.get? r' = some c ∧ c ≠ ⟨r, ws⟩ := by
  unfold unregister
  split_ifs with hget
  · rw [Table.get?_erase]
    split_ifs with hr
    · rw [hr, hget, Option.some.injEq]
      exact ⟨nofun, fun h => absurd h.1.symm h.2⟩
    · refine ⟨fun hc => ⟨hc, ?_⟩, fun hc => hc.1⟩
      rintro rfl
      exact hr (Table.key_of_get? hc).symm
  · refine ⟨fun hc => ⟨hc, ?_⟩, fun hc => hc.1⟩
    rintro rfl
    obtain rfl : r = r' := Table.key_of_get? hc
    exact hget hc

/-- An active handler that ends takes its entry with it. -/
theorem Sound.unregister (hs : Sound s) (hh : s.handlers.get? h₀.ws = some h₀)
    (hactive : h₀.active = true) (hid : h₀.runnerId = some r) :
    Sound { s.unregister r h₀.ws with handlers := s.handlers.erase h₀.ws } := by
  have hmem := Table.mem_of_get? hh
  have hcount : (s.handlers.erase h₀.ws).count (fun h => !h.active) + (!h₀.active).toNat =
      s.handlers.count fun h => !h.active := Table.count_erase_of_get? hh _
  have hother : ∀ h' ∈ (s.handlers.erase h₀.ws).rows, h' ∈ s.handlers.rows ∧ h'.ws ≠ h₀.ws :=
    fun h' hh' => Table.mem_erase.mp hh'
  obtain ⟨hrunners, hpending, hlimits, hclock, hlength⟩ := unregister_fields s r h₀.ws
  constructor
  case handlers =>
    intro h' hh'
    show h'.Sound (s.unregister r h₀.ws).limits (s.unregister r h₀.ws).clock ∧ _
    rw [hlimits, hclock]
    exact hs.handlers h' (hother h' hh').1
  case capacity =>
    show (s.unregister r h₀.ws).connections.rows.length + (s.unregister r h₀.ws).pendingConnections ≤
      (s.unregister r h₀.ws).limits.maxConnections
    rw [hpending, hlimits]
    exact (Nat.add_le_add_right hlength _).trans hs.capacity
  case pending =>
    show (s.unregister r h₀.ws).pendingConnections = _
    rw [hpending, hs.pending, ← hcount, hactive]
    rfl
  case reserved =>
    intro r'
    show r' ∈ (s.unregister r h₀.ws).pendingRunners ↔ _
    rw [hrunners, hs.reserved r']
    refine ⟨fun ⟨h', hh', hr, hid'⟩ => ⟨h', Table.mem_erase.mpr ⟨hh', fun hws => ?_⟩, hr, hid'⟩,
      fun ⟨h', hh', hr, hid'⟩ => ⟨h', (hother h' hh').1, hr, hid'⟩⟩
    obtain rfl : h' = h₀ := Option.some.inj ((Table.mem_rows_iff.mp hh').symm.trans (hws ▸ hh))
    rw [((hs.handlers h' hh').1.active hactive).1] at hr
    cases hr
  case single =>
    exact fun a ha b hb => hs.single a (hother a ha).1 b (hother b hb).1
  case vacant =>
    intro r' hr' c hc
    rw [show (_ : Finset String) = s.pendingRunners from hrunners] at hr'
    exact isOpen_erase rfl (hs.vacant r' hr' c (get?_unregister.mp hc).1)
  case bound =>
    intro c hc
    obtain ⟨hget, hne⟩ := get?_unregister.mp (Table.mem_rows_iff.mp hc)
    obtain ⟨h', hh', hactive', hid'⟩ := hs.bound c (Table.mem_of_get? hget)
    refine ⟨h', ?_, hactive', hid'⟩
    show (s.handlers.erase h₀.ws).get? c.ws = some h'
    rw [Table.get?_erase, if_neg, hh']
    intro hws
    obtain rfl : h' = h₀ := Option.some.inj (hh'.symm.trans (hws ▸ hh))
    rw [hid, Option.some.injEq] at hid'
    exact hne (by rw [hid', ← hws])
  case registered =>
    intro h' hh' hactive' hclosed' r' hid'
    obtain ⟨hh', hws⟩ := hother h' hh'
    exact get?_unregister.mpr ⟨hs.registered h' hh' hactive' hclosed' r' hid',
      fun heq => hws (congrArg Connection.ws heq)⟩

/-- A handler that ends before its activation takes its reservations with it. -/
theorem Sound.release (hs : Sound s) (hh : s.handlers.get? h₀.ws = some h₀)
    (hactive : h₀.active = false) {runners : Finset String}
    (hrunners : ∀ r, r ∈ runners ↔ r ∈ s.pendingRunners ∧
      ¬ (h₀.runnerReserved = true ∧ h₀.runnerId = some r)) :
    Sound { s with
      pendingRunners := runners
      pendingConnections := s.pendingConnections - 1
      handlers := s.handlers.erase h₀.ws } := by
  have hmem := Table.mem_of_get? hh
  have hcount : (s.handlers.erase h₀.ws).count (fun h => !h.active) + (!h₀.active).toNat =
      s.handlers.count fun h => !h.active := Table.count_erase_of_get? hh _
  have hother : ∀ h' ∈ (s.handlers.erase h₀.ws).rows, h' ∈ s.handlers.rows ∧ h'.ws ≠ h₀.ws :=
    fun h' hh' => Table.mem_erase.mp hh'
  constructor
  case handlers => exact fun h' hh' => hs.handlers h' (hother h' hh').1
  case capacity =>
    show s.connections.rows.length + (s.pendingConnections - 1) ≤ s.limits.maxConnections
    have := hs.capacity
    omega
  case pending =>
    rw [hactive, ← hs.pending] at hcount
    show s.pendingConnections - 1 = (s.handlers.erase h₀.ws).count fun h => !h.active
    rw [← hcount]
    rfl
  case reserved =>
    intro r
    rw [hrunners r, hs.reserved r]
    constructor
    · rintro ⟨⟨h', hh', hr, hid'⟩, hnot⟩
      refine ⟨h', Table.mem_erase.mpr ⟨hh', fun hws => hnot ?_⟩, hr, hid'⟩
      obtain rfl : h' = h₀ := Option.some.inj ((Table.mem_rows_iff.mp hh').symm.trans (hws ▸ hh))
      exact ⟨hr, hid'⟩
    · rintro ⟨h', hh', hr, hid'⟩
      obtain ⟨hh', hws⟩ := hother h' hh'
      refine ⟨⟨h', hh', hr, hid'⟩, fun ⟨hr₀, hid₀⟩ => hws ?_⟩
      rw [hs.single h' hh' h₀ hmem hr hr₀ (hid'.trans hid₀.symm)]
  case single =>
    exact fun a ha b hb => hs.single a (hother a ha).1 b (hother b hb).1
  case vacant =>
    exact fun r hr c hc => isOpen_erase rfl (hs.vacant r ((hrunners r).mp hr).1 c hc)
  case bound =>
    intro c hc
    obtain ⟨h', hh', hactive', hid'⟩ := hs.bound c hc
    refine ⟨h', ?_, hactive', hid'⟩
    show (s.handlers.erase h₀.ws).get? c.ws = some h'
    rw [Table.get?_erase, if_neg, hh']
    intro hws
    obtain rfl : h' = h₀ := Option.some.inj (hh'.symm.trans (hws ▸ hh))
    rw [hactive] at hactive'
    cases hactive'
  case registered =>
    exact fun h' hh' => hs.registered h' (hother h' hh').1

/-- What the `finally` block does before the activation. -/
theorem finish_idle (h : Handler) (hactive : h.active = false) (hcon : h.connectionReserved = true)
    (hpositive : 0 < s.pendingConnections) : ∃ runners : Finset String,
      s.finish h = { s with
        pendingRunners := runners
        pendingConnections := s.pendingConnections - 1
        handlers := s.handlers.erase h.ws } ∧
      ∀ r, r ∈ runners ↔ r ∈ s.pendingRunners ∧
        ¬ (h.runnerReserved = true ∧ h.runnerId = some r) := by
  unfold Hub.finish releaseReservations
  cases hid : h.runnerId with
  | none =>
    refine ⟨s.pendingRunners, ?_, fun r => by simp⟩
    simp only [hcon, hpositive, and_self, if_true]
  | some r₀ =>
    cases hreserved : h.runnerReserved with
    | false =>
      refine ⟨s.pendingRunners, ?_, fun r => by simp⟩
      simp [hactive, hcon, hpositive]
    | true =>
      refine ⟨s.pendingRunners.erase r₀, ?_, fun r => ?_⟩
      · simp [hactive, hcon, hpositive]
      · rw [Finset.mem_erase, Option.some.injEq, and_comm, ne_comm]
        simp

/-- A handler that ends takes its registrations with it. -/
theorem Sound.finish (hs : Sound s) (hq : Quiet s.clock h₀ h) (hh : s.handlers.get? h.ws = some h₀) :
    Sound (s.finish h) := by
  have hmem := Table.mem_of_get? hh
  have h₀s := (hs.handlers h₀ hmem).1
  rw [hq.ws] at hh
  cases hactive : h₀.active with
  | true =>
    obtain ⟨-, r, hid, -⟩ := h₀s.active hactive
    have hfinish : s.finish h =
        { s.unregister r h₀.ws with handlers := s.handlers.erase h₀.ws } := by
      rw [Hub.finish, hq.runnerId (.inl hactive), hid, hq.ws]
      simp only [hq.active, hactive, if_true]
      unfold Hub.unregister
      split_ifs <;> rfl
    rw [hfinish]
    exact hs.unregister hh hactive hid
  | false =>
    have hpositive : 0 < s.pendingConnections := by
      rw [hs.pending, ← Table.count_erase_of_get? hh, hactive]
      exact Nat.succ_pos _
    obtain ⟨runners, hfinish, hrunners⟩ := finish_idle (s := s) h (hq.active.trans hactive)
      (by rw [hq.connectionReserved, h₀s.reserved, hactive]; rfl) hpositive
    rw [hfinish, hq.ws]
    refine hs.release hh hactive fun r => (hrunners r).trans ?_
    rw [hq.runnerReserved, and_congr_right_iff]
    refine fun _ => not_congr (and_congr_right fun hr => ?_)
    rw [hq.runnerId (.inr hr)]

/-! ## The steps of a handler -/

theorem Sound.closeError (hs : Sound s) (hq : Quiet s.clock h₀ h) (hh : s.handlers.get? h.ws = some h₀)
    (code : String) (caught : Bool) : Sound (s.closeError h code caught) := by
  unfold Hub.closeError
  split_ifs
  · exact hs.finish hq hh
  · exact hs.wait hq hh trivial

theorem Sound.raise (hs : Sound s) (hq : Quiet s.clock h₀ h) (hh : s.handlers.get? h.ws = some h₀)
    (e : Raised) : Sound (s.raise h e) := by
  unfold Hub.raise
  split
  · exact hs.closeError hq hh _ true
  · exact hs.finish hq hh

theorem Sound.closeRaised (hs : Sound s) (hh : s.handlers.get? h.ws = some h) (caught : Bool)
    (e : Raised) : Sound (s.closeRaised h caught e) := by
  unfold Hub.closeRaised
  split_ifs
  · exact hs.finish (.refl h) hh
  · exact hs.raise (.refl h) hh e

/-- A handler that has reserved its Runner. -/
theorem Sound.reserve (hs : Sound s) (hh : s.handlers.get? h.ws = some h)
    (hidle : h.active = false ∧ h.runnerReserved = false)
    (ht : s.reserveRunner first.runnerId = .ok t) :
    Sound (t.wait { h with runnerId := some first.runnerId, runnerReserved := true }
      (.authenticating first)) := by
  simp only [reserveRunner, bind_eq_ok, ensure_eq_ok, pure_eq_ok] at ht
  obtain ⟨-, hfree, rfl⟩ := ht
  rw [not_or, Bool.not_eq_true] at hfree
  obtain ⟨hclosed, hnew⟩ := hfree
  have hmem := Table.mem_of_get? hh
  have hsound := (hs.handlers h hmem).1
  generalize hid : first.runnerId = r at *
  generalize hh' : { h with
    runnerId := some r, runnerReserved := true, phase := Phase.authenticating first } = h'
  have hws : h'.ws = h.ws := by rw [← hh']
  have hrows : ∀ x : Handler, x ∈ (s.handlers.upsert h').rows ↔
      x = h' ∨ (x ∈ s.handlers.rows ∧ x.ws ≠ h.ws) := fun x => hws ▸ Table.mem_upsert
  have hunreserved : ∀ x ∈ s.handlers.rows, x.runnerReserved = true → x.ws ≠ h.ws := by
    intro x hx hr hxws
    obtain rfl : x = h := Option.some.inj ((Table.mem_rows_iff.mp hx).symm.trans (hxws ▸ hh))
    rw [hidle.2] at hr
    cases hr
  have hwait : Hub.wait { s with pendingRunners := insert r s.pendingRunners }
      { h with runnerId := some r, runnerReserved := true } (.authenticating first) =
        { s with pendingRunners := insert r s.pendingRunners, handlers := s.handlers.upsert h' } := by
    rw [← hh']
    rfl
  rw [hwait]
  constructor
  case handlers =>
    intro x hx
    obtain rfl | ⟨hx, -⟩ := (hrows x).mp hx
    · subst hh'
      refine ⟨⟨hsound.reserved, fun hactive => ?_, fun _ => ⟨r, rfl⟩, hsound.maximum, hsound.rate⟩,
        hidle.1, rfl, congrArg some hid.symm⟩
      rw [show h.active = true from hactive] at hidle
      cases hidle.1
    · exact hs.handlers x hx
  case capacity => exact hs.capacity
  case pending =>
    have hcount := Table.count_upsert_of_get? (T := s.handlers) (r := h') (hws ▸ hh)
      fun h => !h.active
    rw [show h'.active = h.active by rw [← hh']] at hcount
    show s.pendingConnections = (s.handlers.upsert h').count fun h => !h.active
    rw [hs.pending]
    omega
  case reserved =>
    intro r'
    show r' ∈ insert r s.pendingRunners ↔ _
    rw [Finset.mem_insert, hs.reserved r']
    constructor
    · rintro (rfl | ⟨x, hx, hr, hxid⟩)
      · exact ⟨h', (hrows h').mpr (.inl rfl), by rw [← hh'], by rw [← hh']⟩
      · exact ⟨x, (hrows x).mpr (.inr ⟨hx, hunreserved x hx hr⟩), hr, hxid⟩
    · rintro ⟨x, hx, hr, hxid⟩
      obtain rfl | ⟨hx, -⟩ := (hrows x).mp hx
      · rw [← hh'] at hxid
        exact .inl (Option.some.inj hxid).symm
      · exact .inr ⟨x, hx, hr, hxid⟩
  case single =>
    have hfresh : ∀ x ∈ s.handlers.rows, x.runnerReserved = true → h'.runnerId ≠ x.runnerId := by
      intro x hx hr hxid
      rw [← hh'] at hxid
      exact hnew ((hs.reserved r).mpr ⟨x, hx, hr, hxid.symm⟩)
    intro a ha b hb har hbr hab
    obtain rfl | ⟨ha', -⟩ := (hrows a).mp ha <;> obtain rfl | ⟨hb', -⟩ := (hrows b).mp hb
    · rfl
    · exact absurd hab (hfresh b hb' hbr)
    · exact absurd hab.symm (hfresh a ha' har)
    · exact hs.single a ha' b hb' har hbr hab
  case vacant =>
    intro r' hr' c hc
    refine isOpen_false_of (s := s) (fun hopen => ?_) ?_
    · have hopen' : (s.wait { h with runnerId := some r, runnerReserved := true }
          (.authenticating first)).isOpen c.ws = true := by
        rw [isOpen, Hub.wait, hh']
        exact hopen
      exact isOpen_wait (h := { h with runnerId := some r, runnerReserved := true }) hh id hopen'
    · obtain rfl | hr' := Finset.mem_insert.mp hr'
      · rw [show s.connections.get? r' = some c from hc] at hclosed
        exact hclosed
      · exact hs.vacant r' hr' c hc
  case bound =>
    intro c hc
    obtain ⟨x, hx, hactive, hxid⟩ := hs.bound c hc
    refine ⟨x, ?_, hactive, hxid⟩
    show (s.handlers.upsert h').get? c.ws = some x
    rw [Table.get?_upsert, if_neg, hx]
    intro hcws
    obtain rfl : x = h := Option.some.inj (hx.symm.trans (hcws.trans hws ▸ hh))
    rw [hidle.1] at hactive
    cases hactive
  case registered =>
    intro x hx hactive hxclosed r' hxid
    obtain rfl | ⟨hx, -⟩ := (hrows x).mp hx
    · rw [← hh', show h.active = false from hidle.1] at hactive
      cases hactive
    · exact hs.registered x hx hactive hxclosed r' hxid

/-- A handler whose Runner the Controller has let in becomes the connection of that Runner. -/
theorem Sound.activate (hs : Sound s) (hq : Quiet s.clock h₀ h)
    (hh : s.handlers.get? h.ws = some h₀) (hreserved : h.runnerReserved = true)
    (hid : h.runnerId = some r) (hauthenticated : h.authenticated = some r)
    (ht : s.activate r h.ws = .ok t) :
    Sound (t.wait { h with connectionReserved := false, runnerReserved := false, active := true }
      .greeting) := by
  simp only [Hub.activate, bind_eq_ok, ensure_eq_ok, pure_eq_ok] at ht
  obtain ⟨-, ⟨hrunner, hpositive⟩, rfl⟩ := ht
  have hmem := Table.mem_of_get? hh
  have h₀s := (hs.handlers h₀ hmem).1
  have hreserved₀ : h₀.runnerReserved = true := hq.runnerReserved ▸ hreserved
  have hid₀ : h₀.runnerId = some r := (hq.runnerId (.inr hreserved₀)).symm.trans hid
  have hidle : h₀.active = false := by
    cases hactive : h₀.active with
    | false => rfl
    | true => cases hreserved₀.symm.trans (h₀s.active hactive).1
  generalize hh' : { h with
    connectionReserved := false, runnerReserved := false, active := true,
    phase := Phase.greeting } = h'
  have hws : h'.ws = h.ws := by rw [← hh']
  have hrows : ∀ x : Handler, x ∈ (s.handlers.upsert h').rows ↔
      x = h' ∨ (x ∈ s.handlers.rows ∧ x.ws ≠ h.ws) := fun x => hws ▸ Table.mem_upsert
  have hwait : Hub.wait { s with
        pendingRunners := s.pendingRunners.erase r
        pendingConnections := s.pendingConnections - 1
        connections := s.connections.upsert ⟨r, h.ws⟩ }
      { h with connectionReserved := false, runnerReserved := false, active := true } .greeting =
      { s with
        pendingRunners := s.pendingRunners.erase r
        pendingConnections := s.pendingConnections - 1
        connections := s.connections.upsert ⟨r, h.ws⟩
        handlers := s.handlers.upsert h' } := by
    rw [← hh']
    rfl
  rw [hwait]
  constructor
  case handlers =>
    intro x hx
    obtain rfl | ⟨hx, -⟩ := (hrows x).mp hx
    · subst hh'
      exact ⟨⟨rfl, fun _ => ⟨rfl, r, hid, hauthenticated⟩, by simp, (hq.sound h₀s).maximum,
        (hq.sound h₀s).rate⟩, rfl⟩
    · exact hs.handlers x hx
  case capacity =>
    show (s.connections.upsert ⟨r, h.ws⟩).rows.length + (s.pendingConnections - 1) ≤
      s.limits.maxConnections
    have hlength : (s.connections.upsert ⟨r, h.ws⟩).rows.length ≤ s.connections.rows.length + 1 := by
      cases hc : s.connections.get? r with
      | none => rw [Table.rows_upsert_of_none hc, List.length_append, List.length_singleton]
      | some c =>
        obtain ⟨l₁, l₂, hrows, hrows'⟩ := Table.rows_upsert_of_get? (r := Connection.mk r h.ws) hc
        rw [hrows, hrows', List.length_append, List.length_append, List.length_cons,
          List.length_cons]
        exact Nat.le_succ _
    have := hs.capacity
    omega
  case pending =>
    have hcount := Table.count_upsert_of_get? (T := s.handlers) (r := h') (hws ▸ hh)
      fun h => !h.active
    rw [hidle, show h'.active = true by rw [← hh']] at hcount
    show s.pendingConnections - 1 = (s.handlers.upsert h').count fun h => !h.active
    have hpending := hs.pending
    simp only [Bool.not_false, Bool.toNat_true, Bool.not_true, Bool.toNat_false] at hcount
    omega
  case reserved =>
    intro r'
    show r' ∈ s.pendingRunners.erase r ↔ _
    rw [Finset.mem_erase, hs.reserved r']
    constructor
    · rintro ⟨hne, x, hx, hr, hxid⟩
      refine ⟨x, (hrows x).mpr (.inr ⟨hx, fun hxws => hne ?_⟩), hr, hxid⟩
      obtain rfl : x = h₀ := Option.some.inj ((Table.mem_rows_iff.mp hx).symm.trans (hxws ▸ hh))
      exact Option.some.inj (hxid.symm.trans hid₀)
    · rintro ⟨x, hx, hr, hxid⟩
      obtain rfl | ⟨hx', hxws⟩ := (hrows x).mp hx
      · rw [← hh'] at hr
        cases hr
      · refine ⟨?_, x, hx', hr, hxid⟩
        rintro rfl
        exact hxws ((hs.single x hx' h₀ hmem hr hreserved₀ (hxid.trans hid₀.symm)) ▸ hq.ws.symm)
  case single =>
    intro a ha b hb har hbr hab
    obtain rfl | ⟨ha', -⟩ := (hrows a).mp ha
    · rw [← hh'] at har
      cases har
    · obtain rfl | ⟨hb', -⟩ := (hrows b).mp hb
      · rw [← hh'] at hbr
        cases hbr
      · exact hs.single a ha' b hb' har hbr hab
  case vacant =>
    intro r' hr' c hc
    obtain ⟨hne, hr'⟩ := Finset.mem_erase.mp hr'
    have hold : s.connections.get? r' = some c := by
      rwa [show (_ : Table _).get? r' = (s.connections.upsert ⟨r, h.ws⟩).get? r' from rfl,
        Table.get?_upsert, if_neg hne] at hc
    refine isOpen_false_of (s := s) (fun hopen => ?_) (hs.vacant r' hr' c hold)
    refine @isOpen_wait s h₀ { h with
      connectionReserved := false, runnerReserved := false, active := true } .greeting hh hq.closed c.ws
      ?_
    rw [isOpen, Hub.wait, hh']
    exact hopen
  case bound =>
    intro c hc
    show ∃ x, (s.handlers.upsert h').get? c.ws = some x ∧ _
    rw [Table.get?_upsert]
    obtain rfl | ⟨hc, hne⟩ := Table.mem_upsert.mp hc
    · exact ⟨h', if_pos hws.symm, by rw [← hh'], by rw [← hh']; exact hid⟩
    · obtain ⟨x, hx, hactive, hxid⟩ := hs.bound c hc
      refine ⟨x, ?_, hactive, hxid⟩
      rw [if_neg, hx]
      intro hcws
      obtain rfl : x = h₀ := Option.some.inj (hx.symm.trans (hcws.trans hws ▸ hh))
      rw [hidle] at hactive
      cases hactive
  case registered =>
    intro x hx hactive hclosed r' hxid
    show (s.connections.upsert ⟨r, h.ws⟩).get? r' = _
    rw [Table.get?_upsert]
    obtain rfl | ⟨hx', hxws⟩ := (hrows x).mp hx
    · rw [← hh'] at hxid
      obtain rfl : r = r' := Option.some.inj (hid.symm.trans hxid)
      rw [if_pos rfl, hws]
    · have hget := hs.registered x hx' hactive hclosed r' hxid
      rw [if_neg, hget]
      rintro rfl
      -- Its reservation excludes another open connection of the Runner.
      have hvacant := hs.vacant r' hrunner _ hget
      rw [isOpen, Table.mem_rows_iff.mp hx', Option.any_some, hclosed] at hvacant
      cases hvacant

theorem Sound.receiveFirst (hs : Sound s) (hh : s.handlers.get? h.ws = some h)
    (hidle : h.active = false ∧ h.runnerReserved = false) (f : Frame) :
    Sound (s.receiveFirst h f) := by
  cases f with
  | text size value =>
    cases hfirst : jsonMessage s.limits.maxMessageBytes size value >>= validateFirstMessage with
    | error e =>
      simp only [Hub.receiveFirst, hfirst]
      exact hs.raise (.refl h) hh e
    | ok first =>
      have hq : Quiet s.clock h { h with runnerId := some first.runnerId } := by
        refine ⟨rfl, rfl, rfl, rfl, id, fun hany => ?_, fun _ => rfl, rfl, id⟩
        rw [hidle.1, hidle.2] at hany
        simp at hany
      cases hreserve : s.reserveRunner first.runnerId with
      | error e =>
        simp only [Hub.receiveFirst, hfirst, hreserve]
        exact hs.raise hq hh e
      | ok t =>
        simp only [Hub.receiveFirst, hfirst, hreserve]
        exact hs.reserve hh hidle hreserve
  | ended => exact hs.closeError (.refl h) hh _ _
  | other => exact hs.closeError (.refl h) hh _ _

theorem Sound.welcome (hs : Sound s) (hh : s.handlers.get? h.ws = some h)
    (hfits : h.Fits (.authenticating first)) (result : Dict) :
    Sound (s.welcome h first result) := by
  obtain ⟨hidle, hreserved, hid⟩ := hfits
  have hnot : h.active = true → False := fun hactive => by
    rw [hidle] at hactive
    cases hactive
  cases hcredential : credentialOf first result with
  | error e =>
    simp only [Hub.welcome, hcredential]
    have hq : Quiet s.clock h { h with authenticated := some first.runnerId } :=
      ⟨rfl, rfl, rfl, rfl, id, fun _ => rfl, fun hactive => (hnot hactive).elim, rfl, id⟩
    exact hs.raise hq hh e
  | ok credential =>
    have hq : Quiet s.clock h { h with
        authenticated := some first.runnerId, credential := some credential } :=
      ⟨rfl, rfl, rfl, rfl, id, fun _ => rfl, fun hactive => (hnot hactive).elim, rfl, id⟩
    cases hactivate : s.activate first.runnerId h.ws with
    | error e =>
      simp only [Hub.welcome, hcredential, hactivate]
      exact hs.raise hq hh e
    | ok t =>
      simp only [Hub.welcome, hcredential, hactivate]
      exact hs.activate hq hh hreserved hid rfl hactivate

theorem allow_maximum (rate : ConnectionRate) (current : ℚ) :
    (rate.allow current).1.maximum = rate.maximum := by
  unfold ConnectionRate.allow
  dsimp only
  split_ifs <;> rfl

theorem Sound.receive (hs : Sound s) (hh : s.handlers.get? h.ws = some h) (hactive : h.active = true)
    (f : Frame) : Sound (s.receive h f) := by
  cases f with
  | text size value =>
    have hq : Quiet s.clock h { h with
        rate := (h.rate.allow s.clock).1
        allowed := if (h.rate.allow s.clock).2 then h.allowed ++ [s.clock] else h.allowed } :=
      ⟨rfl, rfl, rfl, rfl, id, fun _ => rfl, fun _ => rfl, allow_maximum h.rate s.clock,
        ConnectionRate.Follows.allow⟩
    cases hallowed : (h.rate.allow s.clock).2 with
    | false =>
      simp only [Hub.receive, hallowed]
      rw [hallowed] at hq
      exact hs.closeError hq hh _ _
    | true =>
      rw [hallowed] at hq
      cases hevent : jsonMessage s.limits.maxMessageBytes size value >>= fun value =>
          validateEventMessage value (h.runnerId.getD "") with
      | error e =>
        simp only [Hub.receive, hallowed, if_true, hevent]
        exact hs.raise hq hh e
      | ok event =>
        simp only [Hub.receive, hallowed, if_true, hevent]
        exact hs.wait hq hh hactive
  | ended => exact hs.finish (.refl h) hh
  | other => exact hs.closeError (.refl h) hh _ _

/-- A handler goes on in any of the ways in which its `await` can end. -/
theorem Sound.resume (hs : Sound s) (hh : s.handlers.get? h.ws = some h) (a : Awaited) :
    Sound (s.resume h h.phase a) := by
  have hfits := (hs.handlers h (Table.mem_of_get? hh)).2
  have hraise : ∀ e, Sound (s.raise h e) := hs.raise (.refl h) hh
  have hclosed : Quiet s.clock h { h with closed := true } :=
    ⟨rfl, rfl, rfl, rfl, fun _ => rfl, fun _ => rfl, fun _ => rfl, rfl, id⟩
  generalize h.phase = phase at hfits
  cases phase with
  | preparing => cases a with
    | done => exact hs.wait (.refl h) hh hfits
    | raises e => exact hraise e
    | _ => exact hs
  | receiving => cases a with
    | frame f => exact hs.receiveFirst hh hfits f
    | raises e => exact hraise e
    | _ => exact hs
  | authenticating first => cases a with
    | document result => exact hs.welcome hh hfits result
    | raises e => exact hraise e
    | _ => exact hs
  | greeting => cases a with
    | done => exact hs.wait (.refl h) hh hfits
    | raises e => exact hraise e
    | _ => exact hs
  | listening => cases a with
    | frame f => exact hs.receive hh hfits f
    | raises e => exact hraise e
    | _ => exact hs
  | forwarding eventType document => cases a with
    | document d => exact hs.wait (.refl h) hh hfits
    | raises e => cases e with
      | controller code =>
        rw [Hub.resume]
        split_ifs
        · exact hs.wait (.refl h) hh hfits
        · exact hraise _
      | timeout => exact hraise .timeout
      | protocol code => exact hraise (.protocol code)
      | other => exact hraise .other
    | _ => exact hs
  | acknowledging eventType bodyDigest => cases a with
    | done => exact hs.wait (.refl h) hh hfits
    | raises e => exact hraise e
    | _ => exact hs
  | reporting code caught => cases a with
    | done => exact hs.wait hclosed hh trivial
    | raises e => exact hs.wait hclosed hh trivial
    | _ => exact hs
  | closing code caught raised => cases a with
    | done => cases raised with
      | none => exact hs.finish (.refl h) hh
      | some e => exact hs.closeRaised hh caught e
    | raises e => cases raised <;> exact hs.closeRaised hh caught e
    | _ => cases raised <;> exact hs

/-- A new handler. -/
theorem Sound.connect (hs : Sound s) (ws : ℕ) : Sound (s.connect ws) := by
  unfold Hub.connect
  split
  case h_2 => exact hs
  case h_1 t hfree hreserve =>
    unfold reserveConnection at hreserve
    split_ifs at hreserve with hfull
    obtain rfl := Option.some.inj hreserve
    generalize hh' : (⟨ws, .preparing, false, none, none, true, false, false,
      ⟨s.limits.messagesPerMinute, []⟩, none, []⟩ : Handler) = h'
    have hws : h'.ws = ws := by rw [← hh']
    have hrows : ∀ x : Handler, x ∈ (s.handlers.upsert h').rows ↔
        x = h' ∨ (x ∈ s.handlers.rows ∧ x.ws ≠ ws) := fun x => hws ▸ Table.mem_upsert
    have hne : ∀ x ∈ s.handlers.rows, x.ws ≠ ws := by
      rintro x hx rfl
      rw [Table.mem_rows_iff.mp hx] at hfree
      cases hfree
    have hwait : Hub.wait { s with pendingConnections := s.pendingConnections + 1 } h' .preparing =
        { s with
          pendingConnections := s.pendingConnections + 1
          handlers := s.handlers.upsert h' } := by
      rw [← hh']
      rfl
    rw [hwait]
    constructor
    case handlers =>
      intro x hx
      obtain rfl | ⟨hx, -⟩ := (hrows x).mp hx
      · subst hh'
        exact ⟨⟨rfl, nofun, nofun, rfl, ConnectionRate.follows_new _ _⟩, rfl, rfl⟩
      · exact hs.handlers x hx
    case capacity =>
      show s.connections.rows.length + (s.pendingConnections + 1) ≤ s.limits.maxConnections
      omega
    case pending =>
      show s.pendingConnections + 1 = (s.handlers.upsert h').count fun h => !h.active
      rw [Table.count_upsert_of_none (hws ▸ hfree), hs.pending, ← hh']
      rfl
    case reserved =>
      intro r
      refine (hs.reserved r).trans ⟨?_, ?_⟩
      · rintro ⟨x, hx, hr, hid⟩
        exact ⟨x, (hrows x).mpr (.inr ⟨hx, hne x hx⟩), hr, hid⟩
      · rintro ⟨x, hx, hr, hid⟩
        obtain rfl | ⟨hx, -⟩ := (hrows x).mp hx
        · rw [← hh'] at hr
          cases hr
        · exact ⟨x, hx, hr, hid⟩
    case single =>
      intro a ha b hb har hbr hab
      obtain rfl | ⟨ha', -⟩ := (hrows a).mp ha
      · rw [← hh'] at har
        cases har
      · obtain rfl | ⟨hb', -⟩ := (hrows b).mp hb
        · rw [← hh'] at hbr
          cases hbr
        · exact hs.single a ha' b hb' har hbr hab
    case vacant =>
      intro r hr c hc
      obtain ⟨x, hx, -, -⟩ := hs.bound c (Table.mem_of_get? hc)
      have hcws : c.ws ≠ h'.ws := fun heq => hne x (Table.mem_of_get? hx)
        ((Table.key_of_get? hx).trans (heq.trans hws))
      rw [isOpen, show (s.handlers.upsert h').get? c.ws = s.handlers.get? c.ws by
        rw [Table.get?_upsert, if_neg hcws]]
      exact hs.vacant r hr c hc
    case bound =>
      intro c hc
      obtain ⟨x, hx, hactive, hid⟩ := hs.bound c hc
      have hcws : c.ws ≠ h'.ws := fun heq => hne x (Table.mem_of_get? hx)
        ((Table.key_of_get? hx).trans (heq.trans hws))
      refine ⟨x, ?_, hactive, hid⟩
      show (s.handlers.upsert h').get? c.ws = some x
      rw [Table.get?_upsert, if_neg hcws, hx]
    case registered =>
      intro x hx hactive hclosed r hid
      obtain rfl | ⟨hx, -⟩ := (hrows x).mp hx
      · rw [← hh'] at hactive
        cases hactive
      · exact hs.registered x hx hactive hclosed r hid

theorem Sound.publish (hs : Sound s) (kind runnerId : String) (payload : Json) :
    Sound (s.publish kind runnerId payload) := by
  unfold Hub.publish
  split
  · exact hs
  · split_ifs
    · exact hs
    · split
      · exact ⟨hs.handlers, hs.capacity, hs.pending, hs.reserved, hs.single, hs.vacant, hs.bound,
          hs.registered⟩
      · exact hs

theorem Sound.step (hs : Sound s) (e : RelayStep) : Sound (s.step e) := by
  cases e with
  | connect ws => exact hs.connect ws
  | resume ws awaited =>
    simp only [Hub.step]
    cases hh : s.handlers.get? ws with
    | none => exact hs
    | some h =>
      obtain rfl := Table.key_of_get? hh
      exact hs.resume hh awaited
  | disconnect ws =>
    simp only [Hub.step]
    cases hh : s.handlers.get? ws with
    | none => exact hs
    | some h =>
      obtain rfl := Table.key_of_get? hh
      have hq : Quiet s.clock h { h with closed := true } :=
        ⟨rfl, rfl, rfl, rfl, fun _ => rfl, fun _ => rfl, fun _ => rfl, rfl, id⟩
      exact hs.wait hq hh (hs.handlers h (Table.mem_of_get? hh)).2
  | publish kind runnerId payload => exact hs.publish kind runnerId payload
  | elapse now =>
    refine ⟨fun h hh => ?_, hs.capacity, hs.pending, hs.reserved, hs.single, hs.vacant, hs.bound,
      hs.registered⟩
    obtain ⟨hsound, hfits⟩ := hs.handlers h hh
    exact ⟨⟨hsound.reserved, hsound.active, hsound.runner, hsound.maximum,
      hsound.rate.later (le_max_left _ _)⟩, hfits⟩

end Hub

/-! ## Every run -/

/-- The capacity, and one live connection for a Runner that the Controller has let in. -/
structure Hub.Orderly (s : Hub) : Prop where
  capacity : s.connections.rows.length + s.pendingConnections ≤ s.limits.maxConnections
  /-- A live connection is registered, hence the only one of its Runner. -/
  registered : ∀ h ∈ s.handlers.rows, h.active = true → h.closed = false →
    ∃ r, h.runnerId = some r ∧ s.connections.get? r = some ⟨r, h.ws⟩
  single : ∀ h ∈ s.handlers.rows, ∀ h' ∈ s.handlers.rows, h.active = true → h.closed = false →
    h'.active = true → h'.closed = false → h.runnerId = h'.runnerId → h = h'
  /-- What is registered belongs to a running handler that is authenticated for the Runner. -/
  bound : ∀ c ∈ s.connections.rows, ∃ h, s.handlers.get? c.ws = some h ∧ h.active = true ∧
    h.runnerId = some c.runnerId ∧ h.authenticated = some c.runnerId
  idle : s.handlers.rows = [] →
    s.connections.rows = [] ∧ s.pendingConnections = 0 ∧ s.pendingRunners = ∅
  rate : ∀ h ∈ s.handlers.rows, Sparse 60 s.limits.messagesPerMinute h.allowed

/-- Nothing is published but over the live connection of the Runner. -/
def Hub.Publishes (s : Hub) (e : RelayStep) : Prop :=
  (s.step e).published = s.published ∨ ∃ kind r payload c, e = .publish kind r payload ∧
    (s.step e).published = s.published ++ [c] ∧ c.runnerId = r ∧
    s.connections.get? r = some c ∧ s.isOpen c.ws = true

theorem Hub.Sound.orderly {s : Hub} (hs : s.Sound) : s.Orderly where
  capacity := hs.capacity
  registered h hh hactive hclosed := by
    obtain ⟨-, r, hid, -⟩ := (hs.handlers h hh).1.active hactive
    exact ⟨r, hid, hs.registered h hh hactive hclosed r hid⟩
  single h hh h' hh' hactive hclosed hactive' hclosed' hsame := by
    obtain ⟨-, r, hid, -⟩ := (hs.handlers h hh).1.active hactive
    have hget := hs.registered h hh hactive hclosed r hid
    have hget' := hs.registered h' hh' hactive' hclosed' r (hsame.symm.trans hid)
    have hws : h.ws = h'.ws :=
      congrArg Connection.ws (Option.some.inj (hget.symm.trans hget'))
    have hfound := Table.mem_rows_iff.mp hh
    rw [hws, Table.mem_rows_iff.mp hh', Option.some.injEq] at hfound
    exact hfound.symm
  bound c hc := by
    obtain ⟨h, hh, hactive, hid⟩ := hs.bound c hc
    obtain ⟨-, r, hid', hauthenticated⟩ :=
      (hs.handlers h (Table.mem_of_get? hh)).1.active hactive
    rw [hid, Option.some.injEq] at hid'
    exact ⟨h, hh, hactive, hid, hid' ▸ hauthenticated⟩
  idle hnone := by
    refine ⟨?_, ?_, ?_⟩
    · refine List.eq_nil_iff_forall_not_mem.mpr fun c hc => ?_
      obtain ⟨h, hh, -⟩ := hs.bound c hc
      exact absurd (Table.mem_of_get? hh) (by rw [hnone]; exact List.not_mem_nil)
    · rw [hs.pending, Table.count, hnone]
      rfl
    · refine Finset.eq_empty_iff_forall_notMem.mpr fun r hr => ?_
      obtain ⟨h, hh, -⟩ := (hs.reserved r).mp hr
      rw [hnone] at hh
      exact absurd hh List.not_mem_nil
  rate h hh := by
    obtain ⟨hsound, -⟩ := hs.handlers h hh
    exact hsound.maximum ▸ hsound.rate.sparse

section Published

variable (s : Hub) (h : Handler)

@[simp] theorem Hub.published_wait (phase : Phase) : (s.wait h phase).published = s.published := rfl

@[simp] theorem Hub.published_finish : (s.finish h).published = s.published := by
  unfold Hub.finish Hub.unregister Hub.releaseReservations
  split
  · split_ifs <;> rfl
  · rfl

@[simp] theorem Hub.published_closeError (code : String) (caught : Bool) :
    (s.closeError h code caught).published = s.published := by
  unfold Hub.closeError
  split_ifs <;> simp

@[simp] theorem Hub.published_raise (e : Raised) : (s.raise h e).published = s.published := by
  unfold Hub.raise
  split <;> simp

theorem Hub.published_receiveFirst (f : Frame) : (s.receiveFirst h f).published = s.published := by
  unfold Hub.receiveFirst
  split
  · split
    · simp
    · split
      case h_1 => simp
      case h_2 t ht =>
        simp only [Hub.reserveRunner, bind_eq_ok, pure_eq_ok] at ht
        obtain ⟨-, -, rfl⟩ := ht
        rfl
  · simp

theorem Hub.published_welcome (first : First) (result : Dict) :
    (s.welcome h first result).published = s.published := by
  unfold Hub.welcome
  dsimp only
  split
  · simp
  · split
    case h_1 => simp
    case h_2 t ht =>
      simp only [Hub.activate, bind_eq_ok, pure_eq_ok] at ht
      obtain ⟨-, -, rfl⟩ := ht
      rfl

theorem Hub.published_receive (f : Frame) : (s.receive h f).published = s.published := by
  unfold Hub.receive
  split
  · dsimp only
    split_ifs
    · split <;> simp
    · simp
  · simp
  · simp

theorem Hub.published_resume (phase : Phase) (a : Awaited) :
    (s.resume h phase a).published = s.published := by
  unfold Hub.resume Hub.closeRaised
  split <;> first
    | exact s.published_receiveFirst h _
    | exact s.published_welcome h _ _
    | exact s.published_receive h _
    | (split_ifs <;> simp)
    | simp

end Published

theorem Hub.publishes (s : Hub) (e : RelayStep) : s.Publishes e := by
  cases e with
  | connect ws =>
    refine .inl ?_
    simp only [Hub.step, Hub.connect]
    split
    case h_1 t _ ht =>
      unfold Hub.reserveConnection at ht
      split_ifs at ht
      obtain rfl := Option.some.inj ht
      rfl
    case h_2 => rfl
  | resume ws awaited =>
    refine .inl ?_
    simp only [Hub.step]
    split
    · exact s.published_resume _ _ _
    · rfl
  | disconnect ws =>
    refine .inl ?_
    simp only [Hub.step]
    split <;> rfl
  | publish kind runnerId payload =>
    unfold Hub.Publishes
    simp only [Hub.step, Hub.publish]
    split
    · exact .inl rfl
    · split_ifs
      · exact .inl rfl
      · split
        case h_1 c hc =>
          obtain ⟨hget, hopen⟩ := Option.filter_eq_some_iff.mp hc
          have hkey := Table.key_of_get? hget
          exact .inr ⟨kind, runnerId, payload, ⟨runnerId, c.ws⟩, rfl, rfl, rfl, by
            rw [hget, ← hkey], hopen⟩
        case h_2 => exact .inl rfl
  | elapse now => exact .inl rfl

/-- Over every run of a relay, whichever handlers run and however their awaits end, the connections
    and reservations keep to the capacity, a Runner has at most one live connection, which is that
    of a handler authenticated for it, nothing is published over another one, nothing is left when
    no handler runs, and a connection is allowed no more than its messages in any minute. -/
theorem relay_orderly (limits : Limits) (clock : ℚ) (es : List RelayStep) :
    Throughout Hub.step Hub.Orderly (.new limits clock) es ∧
      EveryStep Hub.step Hub.Publishes (.new limits clock) es := by
  refine ⟨?_, everyStep_true _ Hub.publishes _ _⟩
  have hsound : Throughout Hub.step Hub.Sound (.new limits clock) es :=
    throughout_of_everyStep _ (G := fun _ _ => True) (fun s e hs _ => hs.step e)
      (Hub.sound_new limits clock) (everyStep_true _ (fun _ _ => trivial) _ _)
  exact hsound.imp _ fun s hs => hs.orderly

end HomeAddons.Relay
