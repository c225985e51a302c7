import HomeAddons.Gateway.Notification

/-!
# Weixin Gateway: the expiry of a notification

`process` looks at the expiry of a request before it publishes and sleeps, and not when it sends. The
effects of a delivery are numbered, so that the time between a check and the send is the difference of
two readings of the clock.

* `NotificationProcessor.Invokes`: the sender is invoked as an effect of a certain number.
* `NotificationProcessor.sends_before_expiry_iff`: when the sender is not invoked at the expiry of the
  request or later, and how a request ends whose time is over first.
-/

namespace HomeAddons.Gateway

open HomeAddons.Common

/-- Weixin refused the message in a way that allows another attempt. -/
def SendOutcome.refused (outcome : SendOutcome) : Prop :=
  outcome.ok = false ∧ outcome.recoverable = true

instance (outcome : SendOutcome) : Decidable outcome.refused := inferInstanceAs (Decidable (_ ∧ _))

/-- The same surroundings, but the process is stopped before the effect. -/
def Surroundings.cutAt (O : Surroundings) (n : ℕ) : Surroundings :=
  { O with stops := fun k => O.stops k || decide (n ≤ k) }

namespace NotificationProcessor

variable (O : Surroundings)

/-! ## When the sender is invoked -/

/-- A send was started last. -/
def EndsStarted (log : List NotificationEvent) (w : NotificationWorld) : Prop :=
  ∃ es id, w.log = log ++ es ++ [.started id]

/-- The sender is invoked as the effect `k`: when the process is stopped after it, a send was started
    last. -/
def Invokes (allowedAudiences : List String) (rawPayload : Option Json) (w : NotificationWorld)
    (k : ℕ) : Prop :=
  ∃ w', process (O.cutAt (k + 1)) allowedAudiences rawPayload w = .error () w' ∧
    w'.tick = k + 2 ∧ EndsStarted w.log w'

/-- The rows that handling the delivery does not drop. -/
def keptLedger (w : NotificationWorld) : NotificationLedger :=
  w.ledger.deleteWhere fun row => row.receivedAt < O.clock (w.tick + 1) - ledgerRetention

/-- The effect with which the delivery loop begins: the request is not on file, has not expired and is
    neither a duplicate nor over a limit; or it is on file as accepted and has not expired. -/
def loopStart (request : NotificationRequest) (w : NotificationWorld) : Option ℕ :=
  let now := O.clock (w.tick + 1)
  let ledger := keptLedger O w
  match ledger.get? request.messageId with
  | some existing =>
    if existing.status = .accepted ∧ now < request.expiresAt then some (w.tick + 3) else none
  | none =>
    if now < request.expiresAt ∧
        ¬ ledger.hasRecentDedupe request.dedupeKey (now - dedupeWindow) = true ∧
        ledger.countRecent (now - rateLimitWindow) (some request.source) < sourceRateLimit ∧
        ledger.countRecent (now - rateLimitWindow) none < globalRateLimit then
      some (w.tick + 6)
    else none

/-- Between the effects of an expiry check and a send there is less time than the check found left. -/
def InTime (expiresAt : Instant) (check send : ℕ) : Prop :=
  O.clock send - O.clock check < expiresAt - O.clock check

/-- The attempts of a loop that begins with the effect `m`, after the check `check`: every attempt is
    in time, and another one follows a refusal when its delay would be over before the expiry. -/
def AllInTime (expiresAt : Instant) : ℕ → ℕ → List ℕ → Prop
  | check, m, [] => InTime O expiresAt check (m + 3)
  | check, m, delay :: delays => InTime O expiresAt check (m + 3) ∧
    ((O.send (m + 4)).refused → O.clock (m + 5) + seconds delay < expiresAt →
      AllInTime expiresAt (m + 5) (m + 10) delays)

/-- The attempts are refused until the expiry would come before the end of a delay. -/
def Lapses (expiresAt : Instant) : ℕ → List ℕ → Prop
  | _, [] => False
  | m, delay :: delays => (O.send (m + 4)).refused ∧
    (expiresAt ≤ O.clock (m + 5) + seconds delay ∨ Lapses expiresAt (m + 10) delays)

/-- The effects that are sends. -/
def sendTicks (expiresAt : Instant) : ℕ → List ℕ → List ℕ
  | m, [] => [m + 3]
  | m, delay :: delays => (m + 3) ::
    if (O.send (m + 4)).refused ∧ O.clock (m + 5) + seconds delay < expiresAt then
      sendTicks expiresAt (m + 10) delays
    else []

variable {O}

variable {expiresAt : Instant} {delays : List ℕ} {m : ℕ}

theorem le_of_mem_sendTicks {s : ℕ} (hs : s ∈ sendTicks O expiresAt m delays) : m + 3 ≤ s := by
  induction delays generalizing m with
  | nil => exact (List.mem_singleton.mp hs).ge
  | cons delay delays ih =>
    rw [sendTicks, List.mem_cons] at hs
    obtain rfl | hs := hs
    · exact le_rfl
    · split_ifs at hs
      · have hle := ih hs
        omega
      · cases hs

theorem allInTime_iff {check : ℕ} :
    AllInTime O expiresAt check m delays ↔
      ∀ s ∈ sendTicks O expiresAt m delays, O.clock s < expiresAt := by
  have hin : ∀ {check s : ℕ}, InTime O expiresAt check s ↔ O.clock s < expiresAt := by
    intro check s
    exact Int.sub_lt_sub_right_iff
  induction delays generalizing check m with
  | nil => simp [AllInTime, sendTicks, hin]
  | cons delay delays ih =>
    rw [AllInTime, sendTicks, List.forall_mem_cons, hin]
    refine and_congr_right fun _ => ?_
    split_ifs with h
    · exact ⟨fun hall => ih.mp (hall h.1 h.2), fun hall _ _ => ih.mpr hall⟩
    · exact iff_of_true (fun hr hlt => absurd ⟨hr, hlt⟩ h) fun _ hs => absurd hs List.not_mem_nil

/-! ## Runs with numbered effects -/

section Numbered

variable (O) (log : List NotificationEvent) (start : ℕ)

/-- The effects from `start` to the one before `m` were carried out, and the last of them is not the
    start of a send. -/
structure Ran (m : ℕ) (w : NotificationWorld) : Prop where
  tick : w.tick = m
  le : start ≤ m
  ran : ∀ j, start ≤ j → j < m → O.stops j = false
  log : ∃ es, w.log = log ++ es ∧ ∀ id, es.getLast? ≠ some (.started id)

/-- The process stopped before an effect, which comes right after a send exactly when a send was
    started last. -/
def Stopped (ticks : List ℕ) (w : NotificationWorld) : Prop :=
  ∃ p, w.tick = p + 1 ∧ start ≤ p ∧ O.stops p = true ∧
    (∀ j, start ≤ j → j < p → O.stops j = false) ∧ (EndsStarted log w ↔ ∃ s ∈ ticks, p = s + 1)

variable {O log start}

variable {w w₀ : NotificationWorld} {α : Type} {f : NotificationWorld → α × NotificationWorld}
  {messageId : String} {status : NotificationStatus} {attempts : ℕ} {errorCode : Option String}
  {request : NotificationRequest} {lapses : Prop}

theorem Ran.not_endsStarted {m : ℕ} {w' : NotificationWorld} (h : Ran O log start m w)
    (hlog : w'.log = w.log) : ¬ EndsStarted log w' := by
  rintro ⟨es, id, hes⟩
  obtain ⟨es', hes', hlast⟩ := h.log
  rw [hlog, hes', List.append_assoc] at hes
  refine hlast id ?_
  rw [List.append_cancel_left hes, List.getLast?_concat]

variable {m : ℕ} {ticks : List ℕ}

/-- An effect that is no send, from a state. -/
theorem effect_from (hw : Ran O log start m w)
    (hf : ∃ es, (f w).2.log = w.log ++ es ∧ ∀ id, .started id ∉ es)
    (hmiss : ∀ s ∈ ticks, m ≠ s + 1) :
    Exits (· = w) (effect O f) (fun a w' => Ran O log start (m + 1) w' ∧ a = (f w).1 ∧
      w' = { (f w).2 with tick := w.tick + 1 }) fun _ => Stopped O log start ticks := by
  rintro _ rfl
  unfold effect
  split_ifs with hstop
  · refine ⟨m, congrArg (· + 1) hw.tick, hw.le, hw.tick ▸ hstop, hw.ran, ?_⟩
    refine iff_of_false (hw.not_endsStarted rfl) ?_
    rintro ⟨s, hs, hp⟩
    exact hmiss s hs hp
  · refine ⟨⟨congrArg (· + 1) hw.tick, Nat.le_succ_of_le hw.le, fun j hj hlt => ?_, ?_⟩, rfl, rfl⟩
    · obtain hlt | rfl := Nat.lt_succ_iff_lt_or_eq.mp hlt
      · exact hw.ran j hj hlt
      · exact hw.tick ▸ Bool.eq_false_iff.mpr hstop
    · obtain ⟨es, hes, hlast⟩ := hw.log
      obtain ⟨es', hes', hnone⟩ := hf
      refine ⟨es ++ es', ?_, fun id hid => ?_⟩
      · rw [← List.append_assoc, ← hes]
        exact hes'
      · rw [List.getLast?_append] at hid
        cases hlast' : es'.getLast? with
        | none =>
          rw [hlast', Option.none_or] at hid
          exact hlast id hid
        | some e =>
          rw [hlast', Option.some_or, Option.some.injEq] at hid
          exact hnone id (hid ▸ List.mem_of_getLast? hlast')

theorem effect_runs (hf : ∀ w, ∃ es, (f w).2.log = w.log ++ es ∧ ∀ id, .started id ∉ es)
    (hmiss : ∀ s ∈ ticks, m ≠ s + 1) :
    Exits (Ran O log start m) (effect O f) (fun a w' => Ran O log start (m + 1) w' ∧
        ∃ w, Ran O log start m w ∧ a = (f w).1 ∧ w' = { (f w).2 with tick := w.tick + 1 })
      fun _ => Stopped O log start ticks :=
  Exits.of_state fun w hw => (effect_from hw (hf w) hmiss).conseq (fun _ h => h)
    (fun _ _ h => ⟨h.1, w, hw, h.2⟩) fun _ _ he => he

theorem clock_runs (hmiss : ∀ s ∈ ticks, m ≠ s + 1) :
    Exits (Ran O log start m) (clock O) (fun now w => now = O.clock m ∧ Ran O log start (m + 1) w)
      fun _ => Stopped O log start ticks := by
  refine (effect_runs (fun _ => ⟨[], (List.append_nil _).symm, fun _ => List.not_mem_nil⟩)
    hmiss).conseq (fun _ hw => hw) ?_ fun _ _ he => he
  rintro now w' ⟨hran, w, hw, rfl, -⟩
  exact ⟨congrArg O.clock hw.tick, hran⟩

theorem quiet_runs (hf : ∀ w, ∃ es, (f w).2.log = w.log ++ es ∧ ∀ id, .started id ∉ es)
    (hmiss : ∀ s ∈ ticks, m ≠ s + 1) :
    Exits (Ran O log start m) (effect O f) (fun _ => Ran O log start (m + 1))
      fun _ => Stopped O log start ticks :=
  (effect_runs hf hmiss).conseq (fun _ hw => hw) (fun _ _ h => h.1) fun _ _ he => he

theorem update_runs {finishedAt : Option Instant} (hmiss : ∀ s ∈ ticks, m ≠ s + 1) :
    Exits (Ran O log start m) (update O messageId status attempts errorCode finishedAt)
      (fun _ => Ran O log start (m + 1)) fun _ => Stopped O log start ticks :=
  quiet_runs (fun _ => ⟨_, rfl, by simp⟩) hmiss

theorem insert_runs {now : Instant} (hmiss : ∀ s ∈ ticks, m ≠ s + 1) :
    Exits (Ran O log start m) (insert O request status now) (fun _ => Ran O log start (m + 1))
      fun _ => Stopped O log start ticks := by
  refine quiet_runs (fun w => ?_) hmiss
  cases w.ledger.insert? (request.row status now) with
  | none => exact ⟨[], (List.append_nil _).symm, fun _ => List.not_mem_nil⟩
  | some ledger => exact ⟨_, rfl, by simp⟩

/-- The last thing that was done is to publish this. -/
def Published (log : List NotificationEvent) (status : NotificationStatus)
    (errorCode : Option String) (w : NotificationWorld) : Prop :=
  ∃ es payload, w.log = log ++ es ++ [.published payload] ∧ payload.status = status ∧
    payload.errorCode = errorCode

theorem publish_runs {attempt : ℕ} (hmiss : ∀ s ∈ ticks, s + 1 < m ∨ m + 1 < s + 1) :
    Exits (Ran O log start m) (publish O messageId status attempt errorCode)
      (fun _ w => Ran O log start (m + 2) w ∧ Published log status errorCode w)
      fun _ => Stopped O log start ticks := by
  refine (clock_runs fun s hs => ?_).bind fun now => ?_
  · have hs := hmiss s hs
    omega
  · refine (effect_runs (m := m + 1) (fun _ => ⟨_, rfl, by simp⟩) fun s hs => ?_).conseq
      (fun _ hw => hw.2) ?_ fun _ _ he => he
    · have hs := hmiss s hs
      omega
    · rintro done w' ⟨hran, w, hw, rfl, rfl⟩
      obtain ⟨es, hes, -⟩ := hw.log
      refine ⟨hran, es, ⟨messageId, status, now, attempt, errorCode⟩, ?_, rfl, rfl⟩
      rw [← hes]

theorem finish_runs {attempt : ℕ} (hmiss : ∀ s ∈ ticks, s + 1 < m ∨ m + 3 < s + 1) :
    Exits (Ran O log start m) (finish O messageId status attempt errorCode)
      (fun _ w => Ran O log start (m + 4) w ∧ Published log status errorCode w)
      fun _ => Stopped O log start ticks := by
  refine (clock_runs fun s hs => ?_).bind fun now => ?_
  · have hs := hmiss s hs
    omega
  refine Exits.pre (P := Ran O log start (m + 1)) ?_ fun _ hw => hw.2
  refine (update_runs fun s hs => ?_).bind fun _ => publish_runs fun s hs => ?_
  · have hs := hmiss s hs
    omega
  · have hs := hmiss s hs
    omega

/-- A send: its start is an effect of the number `m`, and its end the next one. -/
theorem send_runs {text : String} (hsend : m ∈ ticks) (hmiss : ∀ s ∈ ticks, m ≠ s + 1) :
    Exits (Ran O log start m) (send O messageId text)
      (fun outcome w => outcome = O.send (m + 1) ∧ Ran O log start (m + 2) w)
      fun _ => Stopped O log start ticks := by
  refine Exits.bind (R := fun _ w' => ∃ w, Ran O log start m w ∧ O.stops m = false ∧
    w'.tick = m + 1 ∧ w'.log = w.log ++ [.started messageId]) (fun w hw => ?_) fun _ w' hw' => ?_
  · unfold effect
    split_ifs with hstop
    · refine ⟨m, congrArg (· + 1) hw.tick, hw.le, hw.tick ▸ hstop, hw.ran, ?_⟩
      refine iff_of_false (hw.not_endsStarted rfl) ?_
      rintro ⟨s, hs, hp⟩
      exact hmiss s hs hp
    · exact ⟨w, hw, hw.tick ▸ Bool.eq_false_iff.mpr hstop, congrArg (· + 1) hw.tick, rfl⟩
  · obtain ⟨w, hw, hm, htick, hlog⟩ := hw'
    obtain ⟨es, hes, -⟩ := hw.log
    have hran : ∀ j, start ≤ j → j < m + 1 → O.stops j = false := by
      intro j hj hlt
      obtain hlt | rfl := Nat.lt_succ_iff_lt_or_eq.mp hlt
      · exact hw.ran j hj hlt
      · exact hm
    unfold effect
    split_ifs with hstop
    · refine ⟨m + 1, congrArg (· + 1) htick, Nat.le_succ_of_le hw.le, htick ▸ hstop, hran, ?_⟩
      exact iff_of_true ⟨es, messageId, hlog.trans (congrArg (· ++ _) hes)⟩ ⟨m, hsend, rfl⟩
    · refine ⟨congrArg O.send htick, congrArg (· + 1) htick, hw.le.trans (by omega),
        fun j hj hlt => ?_, es ++ [.started messageId, .ended messageId (O.send w'.tick)], ?_, ?_⟩
      · obtain hlt | rfl := Nat.lt_succ_iff_lt_or_eq.mp hlt
        · exact hran j hj hlt
        · exact htick ▸ Bool.eq_false_iff.mpr hstop
      · show w'.log ++ _ = _
        rw [hlog, hes, List.append_assoc, List.append_assoc, List.singleton_append]
      · intro id hid
        rw [List.getLast?_append] at hid
        cases hid

/-- The process returned after all sends, and published the expiry last where that is said. -/
def Returned (O : Surroundings) (log : List NotificationEvent) (start : ℕ) (ticks : List ℕ)
    (lapses : Prop) (w : NotificationWorld) : Prop :=
  ∃ n, Ran O log start n w ∧ (∀ s ∈ ticks, s + 1 < n) ∧
    (lapses → Published log .expired (some "ttl_expired") w)

theorem finish_returns {attempt : ℕ} (hmiss : ∀ s ∈ ticks, s + 1 < m)
    (hlapses : lapses → status = .expired ∧ errorCode = some "ttl_expired") :
    Exits (Ran O log start m) (finish O messageId status attempt errorCode)
      (fun _ => Returned O log start ticks lapses) fun _ => Stopped O log start ticks := by
  refine (finish_runs fun s hs => .inl (hmiss s hs)).conseq (fun _ hw => hw) ?_ fun _ _ he => he
  rintro done w ⟨hran, hpublished⟩
  refine ⟨m + 4, hran, fun s hs => (hmiss s hs).trans (by omega), fun h => ?_⟩
  obtain ⟨rfl, rfl⟩ := hlapses h
  exact hpublished

theorem attempt_runs {retry : Worker Bool} (hsend : m + 3 ∈ ticks)
    (hplace : ∀ s ∈ ticks, s + 1 < m ∨ s = m + 3 ∨ (O.send (m + 4)).refused ∧ m + 13 ≤ s)
    (hlapses : lapses → (O.send (m + 4)).refused)
    (hretry : (O.send (m + 4)).refused → Exits (Ran O log start (m + 5)) retry
      (fun _ => Returned O log start ticks lapses) fun _ => Stopped O log start ticks) :
    Exits (Ran O log start m) (attempt O request attempts retry)
      (fun _ => Returned O log start ticks lapses) fun _ => Stopped O log start ticks := by
  have hmiss : ∀ p, m ≤ p → p ≤ m + 3 → ∀ s ∈ ticks, p ≠ s + 1 := by
    intro p hle hle' s hs
    obtain h | h | ⟨-, h⟩ := hplace s hs <;> omega
  -- an attempt that is not refused is the last one
  have hlast : ¬ (O.send (m + 4)).refused → ∀ s ∈ ticks, s + 1 < m + 5 := by
    intro hnot s hs
    obtain h | h | ⟨h, -⟩ := hplace s hs
    · omega
    · omega
    · exact absurd h hnot
  refine (update_runs (hmiss m le_rfl (by omega))).bind fun _ => ?_
  refine (publish_runs fun s hs => ?_).bind fun _ => ?_
  · obtain h | h | ⟨-, h⟩ := hplace s hs <;> omega
  refine Exits.bind (R := fun outcome w => outcome = O.send (m + 4) ∧ Ran O log start (m + 5) w)
    ((send_runs hsend (hmiss (m + 3) (by omega) le_rfl)).pre fun _ hw => hw.1) fun outcome => ?_
  refine Exits.of_state fun w ⟨houtcome, hw⟩ => ?_
  subst houtcome
  refine Exits.pre (P := Ran O log start (m + 5)) ?_ (by rintro _ rfl; exact hw)
  refine Exits.ite (fun hok => ?_) fun hok => Exits.ite (fun hrec => ?_) fun hrec => hretry ?_
  · have hnot : ¬ (O.send (m + 4)).refused := fun h => by rw [h.1] at hok; cases hok
    exact finish_returns (hlast hnot) fun h => absurd (hlapses h) hnot
  · have hnot : ¬ (O.send (m + 4)).refused := fun h => by rw [h.2] at hrec; cases hrec
    exact finish_returns (hlast hnot) fun h => absurd (hlapses h) hnot
  · rw [Bool.not_eq_true', Bool.not_eq_false] at hrec
    exact ⟨Bool.eq_false_iff.mpr hok, hrec⟩

/-- The loop from an attempt on, by induction on the delays that are left. -/
theorem loop_runs {delays : List ℕ}
    (hticks : ∀ s, m ≤ s + 1 → (s ∈ ticks ↔ s ∈ sendTicks O request.expiresAt m delays)) :
    Exits (Ran O log start m) (attempt O request attempts (deliverAgain O request attempts delays))
      (fun _ => Returned O log start ticks (Lapses O request.expiresAt m delays))
      fun _ => Stopped O log start ticks := by
  induction delays generalizing m attempts with
  | nil =>
    have hplace : ∀ s ∈ ticks, s + 1 < m ∨ s = m + 3 := by
      intro s hs
      by_cases hle : m ≤ s + 1
      · exact .inr (List.mem_singleton.mp ((hticks s hle).mp hs))
      · exact .inl (not_le.mp hle)
    have hsend : m + 3 ∈ ticks := (hticks (m + 3) (by omega)).mpr (List.mem_singleton.mpr rfl)
    refine attempt_runs hsend (fun s hs => (hplace s hs).imp_right .inl) False.elim fun _ =>
      finish_returns (fun s hs => ?_) False.elim
    obtain h | h := hplace s hs <;> omega
  | cons delay delays ih =>
    have hsend : m + 3 ∈ ticks := (hticks (m + 3) (by omega)).mpr List.mem_cons_self
    have hplace : ∀ s ∈ ticks, s + 1 < m ∨ s = m + 3 ∨
        ((O.send (m + 4)).refused ∧ O.clock (m + 5) + seconds delay < request.expiresAt) ∧
          m + 13 ≤ s := by
      intro s hs
      by_cases hle : m ≤ s + 1
      · refine .inr ?_
        have hmem := (hticks s hle).mp hs
        rw [sendTicks, List.mem_cons] at hmem
        refine hmem.imp_right fun hmem => ?_
        split_ifs at hmem with hagain
        · exact ⟨hagain, by have hle := le_of_mem_sendTicks hmem; omega⟩
        · cases hmem
      · exact .inl (not_le.mp hle)
    refine attempt_runs hsend (fun s hs => (hplace s hs).imp_right (.imp_right fun h => ⟨h.1.1, h.2⟩))
      (fun h => h.1) fun hrefused => ?_
    refine (clock_runs fun s hs => ?_).bind fun now => Exits.of_state fun w ⟨hnow, hw⟩ => ?_
    · obtain h | h | ⟨-, h⟩ := hplace s hs <;> omega
    subst hnow
    refine Exits.pre (P := Ran O log start (m + 6)) ?_ (by rintro _ rfl; exact hw)
    refine Exits.ite (fun hexpired => ?_) fun hlater => ?_
    · refine finish_returns (fun s hs => ?_) fun _ => ⟨rfl, rfl⟩
      obtain h | h | ⟨h, -⟩ := hplace s hs
      · omega
      · omega
      · exact absurd h.2 (not_lt.mpr hexpired)
    · have hbetween : ∀ p, m + 5 ≤ p → p ≤ m + 9 → ∀ s ∈ ticks, p ≠ s + 1 := by
        intro p hle hle' s hs
        obtain h | h | ⟨-, h⟩ := hplace s hs <;> omega
      refine (update_runs (hbetween _ (by omega) (by omega))).bind fun _ => ?_
      refine (publish_runs fun s hs => ?_).bind fun _ => ?_
      · obtain h | h | ⟨-, h⟩ := hplace s hs <;> omega
      refine Exits.bind (R := fun _ => Ran O log start (m + 10)) ?_ fun _ => ?_
      · refine Exits.pre (P := Ran O log start (m + 9)) ?_ fun _ hw => hw.1
        exact quiet_runs (fun _ => ⟨[], (List.append_nil _).symm, fun _ => List.not_mem_nil⟩)
          (hbetween _ (by omega) (by omega))
      · refine (ih fun s hle => ?_).conseq (fun _ hw => hw) (fun _ w h => ?_) fun _ _ he => he
        · rw [hticks s (by omega), sendTicks, List.mem_cons, if_pos ⟨hrefused, not_le.mp hlater⟩]
          exact or_iff_right (by omega)
        · obtain ⟨n, hran, hsends, hpublished⟩ := h
          exact ⟨n, hran, hsends, fun h => hpublished (h.2.resolve_left hlater)⟩

/-- The time of the request is over before anything else decides how it ends. -/
def LapsesFirst (O : Surroundings) (request : NotificationRequest) (w : NotificationWorld) : Prop :=
  (request.expiresAt ≤ O.clock (w.tick + 1) ∧
      ∀ existing ∈ (keptLedger O w).get? request.messageId, existing.status.isFinal = false) ∨
    ∃ m ∈ loopStart O request w, Lapses O request.expiresAt m retryDelays

/-- The effects of handling the request that are sends. -/
def requestTicks (O : Surroundings) (request : NotificationRequest) (w : NotificationWorld) : List ℕ :=
  (loopStart O request w).elim [] fun m => sendTicks O request.expiresAt m retryDelays

theorem le_of_mem_requestTicks {s : ℕ} (hs : s ∈ requestTicks O request w) : w.tick + 6 ≤ s := by
  unfold requestTicks at hs
  cases hstart : loopStart O request w with
  | none =>
    rw [hstart] at hs
    cases hs
  | some m =>
    rw [hstart] at hs
    have hle := le_of_mem_sendTicks hs
    have hm : w.tick + 3 ≤ m := by
      unfold loopStart at hstart
      dsimp only at hstart
      split at hstart <;> split_ifs at hstart <;> cases hstart <;> omega
    omega

/-- The loop of the request, from where it starts. -/
theorem deliver_runs (hstart : loopStart O request w₀ = some m)
    (hnow : O.clock (w₀.tick + 1) < request.expiresAt) :
    Exits (Ran O w₀.log w₀.tick m) (deliver O request)
      (fun _ => Returned O w₀.log w₀.tick (requestTicks O request w₀) (LapsesFirst O request w₀))
      fun _ => Stopped O w₀.log w₀.tick (requestTicks O request w₀) := by
  have hticks : requestTicks O request w₀ = sendTicks O request.expiresAt m retryDelays := by
    rw [requestTicks, hstart]
    rfl
  rw [hticks]
  refine (loop_runs fun _ _ => Iff.rfl).conseq (fun _ hw => hw) (fun _ w h => ?_) fun _ _ he => he
  obtain ⟨n, hran, hsends, hpublished⟩ := h
  refine ⟨n, hran, hsends, fun h => hpublished ?_⟩
  obtain ⟨hexpired, -⟩ | ⟨m', hm', hlapses⟩ := h
  · exact absurd hnow (not_lt.mpr hexpired)
  · rw [hstart, Option.mem_some_iff] at hm'
    exact hm' ▸ hlapses

/-- A request that is settled without the loop. -/
theorem settle_runs (hstart : loopStart O request w₀ = none) {attempt : ℕ}
    (hlapses : LapsesFirst O request w₀ → status = .expired ∧ errorCode = some "ttl_expired") :
    Exits (Ran O w₀.log w₀.tick m) (finish O request.messageId status attempt errorCode)
      (fun _ => Returned O w₀.log w₀.tick (requestTicks O request w₀) (LapsesFirst O request w₀))
      fun _ => Stopped O w₀.log w₀.tick (requestTicks O request w₀) := by
  have hticks : requestTicks O request w₀ = [] := by
    rw [requestTicks, hstart]
    rfl
  rw [hticks]
  exact finish_returns (fun _ hs => absurd hs List.not_mem_nil) hlapses

theorem resume_runs {existing : MessageRow}
    (hrow : (keptLedger O w₀).get? request.messageId = some existing) :
    Exits (Ran O w₀.log w₀.tick (w₀.tick + 3))
      (resume O request (O.clock (w₀.tick + 1)) existing)
      (fun _ => Returned O w₀.log w₀.tick (requestTicks O request w₀) (LapsesFirst O request w₀))
      fun _ => Stopped O w₀.log w₀.tick (requestTicks O request w₀) := by
  have hstart : loopStart O request w₀ =
      if existing.status = .accepted ∧ O.clock (w₀.tick + 1) < request.expiresAt then
        some (w₀.tick + 3) else none := by
    rw [loopStart, hrow]
  -- the request is not over first when it ends before the loop
  have hnot : loopStart O request w₀ = none → (request.expiresAt ≤ O.clock (w₀.tick + 1) →
      existing.status.isFinal = true) → ¬ LapsesFirst O request w₀ := by
    rintro hnone hfinal (⟨hexpired, hopen⟩ | ⟨m, hm, -⟩)
    · have hnotfinal := hopen existing hrow
      rw [hfinal hexpired] at hnotfinal
      cases hnotfinal
    · rw [hnone] at hm
      cases hm
  refine Exits.ite (fun hfinal => ?_) fun hopen => Exits.ite (fun hexpired => ?_) fun hearly =>
    Exits.ite (fun hunknown => ?_) fun hfresh => ?_
  · have hnone : loopStart O request w₀ = none := by
      rw [hstart, if_neg]
      rintro ⟨haccepted, -⟩
      rw [haccepted] at hfinal
      cases hfinal
    have hticks : requestTicks O request w₀ = [] := by
      rw [requestTicks, hnone]
      rfl
    rw [hticks]
    refine (publish_runs fun _ hs => absurd hs List.not_mem_nil).conseq (fun _ hw => hw) ?_
      fun _ _ he => he
    rintro done w ⟨hran, -⟩
    exact ⟨_, hran, fun _ hs => absurd hs List.not_mem_nil,
      fun h => absurd h (hnot hnone fun _ => hfinal)⟩
  · exact settle_runs (hstart.trans (if_neg fun h => absurd h.2 (not_lt.mpr hexpired)))
      fun _ => ⟨rfl, rfl⟩
  · have hnone : loopStart O request w₀ = none := by
      refine hstart.trans (if_neg ?_)
      rintro ⟨haccepted, -⟩
      rw [haccepted] at hunknown
      cases hunknown with
      | inl h => cases h
      | inr h => cases h
    exact settle_runs hnone fun h => absurd h (hnot hnone fun h => absurd h hearly)
  · have haccepted : existing.status = .accepted := by
      cases hs : existing.status <;> simp_all [NotificationStatus.isFinal]
    exact deliver_runs (hstart.trans (if_pos ⟨haccepted, not_le.mp hearly⟩)) (not_le.mp hearly)

theorem receive_runs (hrow : (keptLedger O w₀).get? request.messageId = none) :
    Exits (Ran O w₀.log w₀.tick (w₀.tick + 3))
      (receive O request (O.clock (w₀.tick + 1)) (keptLedger O w₀))
      (fun _ => Returned O w₀.log w₀.tick (requestTicks O request w₀) (LapsesFirst O request w₀))
      fun _ => Stopped O w₀.log w₀.tick (requestTicks O request w₀) := by
  have hmiss : ∀ p, p ≤ w₀.tick + 6 → ∀ s ∈ requestTicks O request w₀, p ≠ s + 1 := by
    intro p hp s hs
    have hle := le_of_mem_requestTicks hs
    omega
  have hstart : loopStart O request w₀ =
      if O.clock (w₀.tick + 1) < request.expiresAt ∧
          ¬ (keptLedger O w₀).hasRecentDedupe request.dedupeKey
            (O.clock (w₀.tick + 1) - dedupeWindow) = true ∧
          (keptLedger O w₀).countRecent (O.clock (w₀.tick + 1) - rateLimitWindow)
            (some request.source) < sourceRateLimit ∧
          (keptLedger O w₀).countRecent (O.clock (w₀.tick + 1) - rateLimitWindow) none <
            globalRateLimit then
        some (w₀.tick + 6) else none := by
    rw [loopStart, hrow]
  have hnot : loopStart O request w₀ = none → ¬ request.expiresAt ≤ O.clock (w₀.tick + 1) →
      ¬ LapsesFirst O request w₀ := by
    rintro hnone hearly (⟨hexpired, -⟩ | ⟨m, hm, -⟩)
    · exact hearly hexpired
    · rw [hnone] at hm
      cases hm
  refine Exits.ite (fun hexpired => ?_) fun hearly => Exits.ite (fun hdedupe => ?_) fun hdedupe =>
    Exits.ite (fun hrate => ?_) fun hrate => ?_
  · refine (insert_runs (hmiss _ (by omega))).bind fun _ => settle_runs ?_ fun _ => ⟨rfl, rfl⟩
    exact hstart.trans (if_neg fun h => absurd h.1 (not_lt.mpr hexpired))
  · have hnone := hstart.trans (if_neg fun h => h.2.1 hdedupe)
    exact (insert_runs (hmiss _ (by omega))).bind fun _ =>
      settle_runs hnone fun h => absurd h (hnot hnone hearly)
  · have hnone := hstart.trans (if_neg fun h => by
      obtain hrate | hrate := hrate
      · exact absurd h.2.2.1 (not_lt.mpr hrate)
      · exact absurd h.2.2.2 (not_lt.mpr hrate))
    exact (insert_runs (hmiss _ (by omega))).bind fun _ =>
      settle_runs hnone fun h => absurd h (hnot hnone hearly)
  · rw [not_or, not_le, not_le] at hrate
    refine (insert_runs (hmiss _ (by omega))).bind fun _ => (publish_runs fun s hs => ?_).bind
      fun _ => ?_
    · have hle := le_of_mem_requestTicks hs
      omega
    · refine (deliver_runs (hstart.trans (if_pos ⟨not_le.mp hearly, hdedupe, hrate⟩))
        (not_le.mp hearly)).pre fun _ hw => hw.1

theorem handle_runs (hw : Ran O w₀.log w₀.tick (w₀.tick + 1) w) (hledger : w.ledger = w₀.ledger) :
    Exits (· = w) (handle O request)
      (fun _ => Returned O w₀.log w₀.tick (requestTicks O request w₀) (LapsesFirst O request w₀))
      fun _ => Stopped O w₀.log w₀.tick (requestTicks O request w₀) := by
  have hmiss : ∀ p, p ≤ w₀.tick + 6 → ∀ s ∈ requestTicks O request w₀, p ≠ s + 1 := by
    intro p hp s hs
    have hle := le_of_mem_requestTicks hs
    omega
  refine (effect_from hw ⟨[], (List.append_nil _).symm, fun _ => List.not_mem_nil⟩
    (hmiss _ (by omega))).bind fun now => Exits.of_state fun w₁ hw₁ => ?_
  obtain ⟨hw₁, hnow, rfl⟩ := hw₁
  have hnow : now = O.clock (w₀.tick + 1) := hnow.trans (congrArg O.clock hw.tick)
  subst hnow
  refine (effect_from hw₁ ⟨_, rfl, by simp⟩ (hmiss _ (by omega))).bind fun _ =>
    Exits.get_bind fun w₂ hw₂ => ?_
  obtain ⟨hw₂, -, rfl⟩ := hw₂
  have hkept : w.ledger.deleteWhere (fun row =>
      row.receivedAt < O.clock (w₀.tick + 1) - ledgerRetention) = keptLedger O w₀ := by
    rw [hledger]
    rfl
  dsimp only at hw₂ ⊢
  rw [hkept] at hw₂ ⊢
  cases hrow : (keptLedger O w₀).get? request.messageId with
  | some existing => exact (resume_runs hrow).pre (by rintro _ rfl; exact hw₂)
  | none => exact (receive_runs hrow).pre (by rintro _ rfl; exact hw₂)

theorem process_runs {allowedAudiences : List String} {payload : Json} {w : NotificationWorld}
    {request : NotificationRequest}
    (hparse : parseRequest allowedAudiences payload (O.clock w.tick) = .ok request) :
    Exits (· = w) (process O allowedAudiences (some payload))
      (fun _ => Returned O w.log w.tick (requestTicks O request w) (LapsesFirst O request w))
      fun _ => Stopped O w.log w.tick (requestTicks O request w) := by
  have hw : Ran O w.log w.tick w.tick w :=
    ⟨rfl, le_rfl, fun _ hj hlt => absurd hlt (not_lt.mpr hj), [], (List.append_nil _).symm,
      fun _ h => by cases h⟩
  refine (effect_from hw ⟨[], (List.append_nil _).symm, fun _ => List.not_mem_nil⟩
    fun s hs => ?_).bind fun now => Exits.of_state fun w₁ hw₁ => ?_
  · have hle := le_of_mem_requestTicks hs
    omega
  obtain ⟨hw₁, rfl, rfl⟩ := hw₁
  dsimp only
  rw [hparse]
  exact handle_runs hw₁ rfl

end Numbered

/-! ## Before the expiry -/

section Expiry

variable {allowedAudiences : List String} {payload : Json} {w : NotificationWorld}
  {request : NotificationRequest}

variable {n : ℕ}

theorem sendTicks_cutAt {expiresAt : Instant} {delays : List ℕ} {m : ℕ} :
    sendTicks (O.cutAt n) expiresAt m delays = sendTicks O expiresAt m delays := by
  induction delays generalizing m with
  | nil => rfl
  | cons delay delays ih =>
    rw [sendTicks, sendTicks, ih]
    rfl

theorem requestTicks_cutAt : requestTicks (O.cutAt n) request w = requestTicks O request w := by
  unfold requestTicks
  rw [show loopStart (O.cutAt n) request w = loopStart O request w from rfl]
  cases loopStart O request w with
  | none => rfl
  | some m => exact sendTicks_cutAt

/-- The effects that are sends, from what the surroundings do. -/
theorem invokes_iff (hstops : ∀ k, O.stops k = false)
    (hparse : parseRequest allowedAudiences payload (O.clock w.tick) = .ok request) {k : ℕ} :
    Invokes O allowedAudiences (some payload) w k ↔ k ∈ requestTicks O request w := by
  have hruns := @process_runs (O.cutAt (k + 1)) allowedAudiences payload w request hparse w rfl
  rw [requestTicks_cutAt] at hruns
  have hcut : ∀ j, (O.cutAt (k + 1)).stops j = decide (k + 1 ≤ j) := by
    intro j
    show (O.stops j || decide (k + 1 ≤ j)) = _
    rw [hstops, Bool.false_or]
  constructor
  · rintro ⟨w', hrun, htick, hstarted⟩
    rw [hrun] at hruns
    obtain ⟨p, hp, -, -, -, hiff⟩ := hruns
    obtain ⟨s, hs, hps⟩ := hiff.mp hstarted
    obtain rfl : s = k := by omega
    exact hs
  · intro hk
    have hle := le_of_mem_requestTicks hk
    cases hrun : process (O.cutAt (k + 1)) allowedAudiences (some payload) w with
    | ok done w' =>
      rw [hrun] at hruns
      obtain ⟨n, hran, hsends, -⟩ := hruns
      have hstop := hran.ran (k + 1) (by omega) (hsends k hk)
      rw [hcut] at hstop
      exact absurd le_rfl (of_decide_eq_false hstop)
    | error e w' =>
      rw [hrun] at hruns
      obtain ⟨p, hp, -, hstop, hran, hiff⟩ := hruns
      rw [hcut] at hstop
      have hpk : p = k + 1 := by
        refine le_antisymm (not_lt.mp fun hlt => ?_) (of_decide_eq_true hstop)
        have hnot := hran (k + 1) (by omega) hlt
        rw [hcut] at hnot
        exact absurd le_rfl (of_decide_eq_false hnot)
      exact ⟨w', hrun, by omega, hiff.mpr ⟨k, hk, hpk⟩⟩

theorem allInTime_iff_requestTicks {check : ℕ} :
    (∀ m ∈ loopStart O request w, AllInTime O request.expiresAt check m retryDelays) ↔
      ∀ s ∈ requestTicks O request w, O.clock s < request.expiresAt := by
  unfold requestTicks
  cases loopStart O request w with
  | none => exact iff_of_true (fun _ hm => by cases hm) fun _ hs => absurd hs List.not_mem_nil
  | some m =>
    simp only [Option.elim_some, Option.mem_def, Option.some.injEq, forall_eq']
    exact allInTime_iff

/-- For every request and ledger, every outcome of the sends and every course of time: the sender is
    never invoked at the expiry or later, and a request whose time is over first ends as expired,
    exactly when every attempt that is made is in time after its check. -/
theorem sends_before_expiry_iff (hstops : ∀ k, O.stops k = false)
    (hparse : parseRequest allowedAudiences payload (O.clock w.tick) = .ok request) :
    (∀ k, Invokes O allowedAudiences (some payload) w k → O.clock k < request.expiresAt) ∧
      (LapsesFirst O request w → ∃ done w', process O allowedAudiences (some payload) w =
        .ok done w' ∧ Published w.log .expired (some "ttl_expired") w') ↔
    ∀ m ∈ loopStart O request w, AllInTime O request.expiresAt (w.tick + 1) m retryDelays := by
  have hlapses : LapsesFirst O request w → ∃ done w', process O allowedAudiences (some payload) w =
      .ok done w' ∧ Published w.log .expired (some "ttl_expired") w' := by
    intro h
    have hruns := process_runs hparse w rfl
    cases hrun : process O allowedAudiences (some payload) w with
    | ok done w' =>
      rw [hrun] at hruns
      obtain ⟨n, -, -, hpublished⟩ := hruns
      exact ⟨done, w', rfl, hpublished h⟩
    | error e w' =>
      rw [hrun] at hruns
      obtain ⟨p, -, -, hstop, -⟩ := hruns
      rw [hstops] at hstop
      cases hstop
  rw [and_iff_left hlapses, allInTime_iff_requestTicks]
  simp only [invokes_iff hstops hparse]

end Expiry

/-! ### A slow publication -/

/-- The clock is three seconds before the expiry of the request of 2026-01-01, and the publication with
    the effect 5 takes `pause` seconds. -/
def slowSurroundings (pause : ℕ) : Surroundings where
  clock j := if j < 6 then 1767229197000000 else 1767229197000000 + seconds pause
  uuid _ := ""
  publish _ := true
  send _ := ⟨true, none, false⟩
  stops _ := false

theorem slow_facts : ((parseRequest ["owner"] newYearRequest ((slowSurroundings 5).clock 0)).toOption.any
      fun r => decide (9 ∈ requestTicks (slowSurroundings 5) r start ∧
        r.expiresAt ≤ (slowSurroundings 5).clock 9)) = true ∧
    ((parseRequest ["owner"] newYearRequest ((slowSurroundings 2).clock 0)).toOption.any
      fun r => decide (∀ s ∈ requestTicks (slowSurroundings 2) r start,
        (slowSurroundings 2).clock s < r.expiresAt)) = true := by
  decide +kernel

attribute [local irreducible] parseRequest requestTicks

/-- When the publication of `accepted` takes five seconds, the sender is invoked after the expiry. -/
theorem sent_after_expiry : ∃ request : NotificationRequest,
    parseRequest ["owner"] newYearRequest ((slowSurroundings 5).clock 0) = .ok request ∧
    Invokes (slowSurroundings 5) ["owner"] (some newYearRequest) start 9 ∧
    request.expiresAt ≤ (slowSurroundings 5).clock 9 := by
  obtain ⟨request, hparse, hfacts⟩ := (Option.any_eq_true _ _).mp slow_facts.1
  rw [decide_eq_true_eq] at hfacts
  rw [toOption_eq_some] at hparse
  exact ⟨request, hparse, (invokes_iff (fun _ => rfl) hparse).mpr hfacts.1, hfacts.2⟩

/-- When it takes two seconds, the request is sent in time. -/
theorem sends_before_expiry_quick : ∃ request : NotificationRequest, ∀ k,
    Invokes (slowSurroundings 2) ["owner"] (some newYearRequest) start k →
      (slowSurroundings 2).clock k < request.expiresAt := by
  obtain ⟨request, hparse, hfacts⟩ := (Option.any_eq_true _ _).mp slow_facts.2
  rw [decide_eq_true_eq] at hfacts
  rw [toOption_eq_some] at hparse
  exact ⟨request, ((sends_before_expiry_iff (fun _ => rfl) hparse).mpr
    (allInTime_iff_requestTicks.mpr hfacts)).1⟩

end NotificationProcessor

end HomeAddons.Gateway
