import HomeAddons.Common.Window

/-!
# Runner Relay: the rate of a connection

`ConnectionRate` (`app.py` 41–53): the times of the messages that a connection was allowed within
the last minute.

* `ConnectionRate.Follows.allow`: what is allowed keeps to the maximum in every minute.
-/

namespace HomeAddons.Relay

open HomeAddons.Common

/-- `ConnectionRate`; times are those of `time.monotonic()`. -/
structure ConnectionRate where
  maximum : ℕ
  events : List ℚ

/-- The `while` loop of `allow`: what is a minute old is forgotten. -/
def ConnectionRate.forget (rate : ConnectionRate) (current : ℚ) : ConnectionRate :=
  { rate with events := rate.events.dropWhile fun t => 60 ≤ current - t }

/-- `allow(now)`. -/
def ConnectionRate.allow (rate : ConnectionRate) (current : ℚ) : ConnectionRate × Bool :=
  let rate := rate.forget current
  if rate.maximum ≤ rate.events.length then (rate, false)
  else ({ rate with events := rate.events ++ [current] }, true)

namespace ConnectionRate

/-- The rate remembers the end of what was allowed; the rest is a minute old. -/
structure Follows (rate : ConnectionRate) (clock : ℚ) (allowed : List ℚ) : Prop where
  sparse : Sparse 60 rate.maximum allowed
  kept : ∃ old, allowed = old ++ rate.events ∧ ∀ t ∈ old, t + 60 ≤ clock

variable {rate : ConnectionRate} {clock current : ℚ} {allowed : List ℚ}

theorem follows_new (maximum : ℕ) (clock : ℚ) : Follows ⟨maximum, []⟩ clock [] where
  sparse := .nil
  kept := ⟨[], rfl, fun _ h => absurd h List.not_mem_nil⟩

theorem Follows.later (h : rate.Follows clock allowed) (hclock : clock ≤ current) :
    rate.Follows current allowed where
  sparse := h.sparse
  kept := by
    obtain ⟨old, hallowed, hold⟩ := h.kept
    exact ⟨old, hallowed, fun t ht => (hold t ht).trans hclock⟩

theorem Follows.forget (h : rate.Follows clock allowed) :
    (rate.forget clock).Follows clock allowed where
  sparse := h.sparse
  kept := by
    obtain ⟨old, hallowed, hold⟩ := h.kept
    refine ⟨old ++ rate.events.takeWhile fun t => 60 ≤ clock - t, ?_, fun t ht => ?_⟩
    · rw [List.append_assoc, ConnectionRate.forget, List.takeWhile_append_dropWhile, hallowed]
    · rcases List.mem_append.mp ht with ht | ht
      · exact hold t ht
      · have hage := List.mem_takeWhile_imp ht
        rw [decide_eq_true_eq] at hage
        linarith

/-- What is allowed keeps to the maximum in every minute. -/
theorem Follows.allow (h : rate.Follows clock allowed) :
    (rate.allow clock).1.Follows clock
      (if (rate.allow clock).2 then allowed ++ [clock] else allowed) := by
  have hforget := h.forget
  unfold ConnectionRate.allow
  dsimp only
  split_ifs with hfull hallow hallow
  · cases hallow
  · exact hforget
  · obtain ⟨old, hallowed, hold⟩ := hforget.kept
    refine ⟨?_, old, ?_, hold⟩
    · refine hforget.sparse.add fun a ha _ => ?_
      have hnone : old.countP (fun t => decide (a ≤ t ∧ t < a + 60)) = 0 := by
        refine List.countP_eq_zero.mpr fun t ht => ?_
        have := hold t ht
        rw [decide_eq_true_eq, not_and]
        intro hat
        linarith
      rw [hallowed, List.countP_append, hnone, Nat.zero_add]
      exact List.countP_le_length.trans_lt (Nat.lt_of_not_le hfull)
    · rw [hallowed, List.append_assoc]
  · exact absurd rfl hallow

end ConnectionRate

end HomeAddons.Relay
