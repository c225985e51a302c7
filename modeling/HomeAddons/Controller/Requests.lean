import HomeAddons.Controller.Queue

/-!
# Codex Controller: the request of a job

What `create_job` keeps of a payload is not written again, and a message that comes again finds the
job that it has.

* `step_sameRequest`, `run_sameRequest`: no call changes the request of a job.
* `createJob_again`: the answer to a message that has a job.
-/

namespace HomeAddons.Controller

open HomeAddons.Common

namespace ControllerStore

variable {cfg : Settings} {s s' : ControllerStore} {op : Op}

/-- A call adds a job, or leaves the requests as they are. -/
theorem apply_sameRequest (h : s.apply cfg op = .ok s') :
    s.jobs.Rewrites SameRequest s'.jobs ∨ ∃ payload k n input, op = .createJob payload k n ∧
      (∀ j ∈ s.jobs.rows, j.messageId ≠ input.messageId) ∧
      s.jobs.insert? (newJob input k n) = some s'.jobs := by
  obtain hmoves | ⟨payload, k, n, input, hop, hnew, -, hinsert⟩ := apply_moves h
  · refine .inl (hmoves.imp fun j j' hj => ?_)
    obtain rfl | ⟨-, hsame⟩ := hj
    · exact .refl j'
    · exact hsame
  · exact .inr ⟨payload, k, n, input, hop, hnew, hinsert⟩

variable {k n : String} {j : Job} {payload : Json}

theorem step_sameRequest (cfg : Settings) (op : Op) (hj : s.jobs.get? k = some j) :
    ∃ j', (s.step cfg op).jobs.get? k = some j' ∧ SameRequest j j' := by
  obtain happly | hsame := step_cases cfg s op
  · obtain hkept | ⟨payload, k', n, input, -, -, hinsert⟩ := apply_sameRequest happly
    · exact hkept.get? (fun _ _ => SameRequest.jobId) hj
    · exact ⟨j, Table.get?_insert?_of_get? hinsert hj, .refl j⟩
  · rw [hsame]
    exact ⟨j, hj, .refl j⟩

theorem run_sameRequest (cfg : Settings) (ops : List Op) (hj : s.jobs.get? k = some j) :
    ∃ j', (runFrom (step cfg) s ops).jobs.get? k = some j' ∧ SameRequest j j' := by
  induction ops generalizing s j with
  | nil => exact ⟨j, hj, .refl j⟩
  | cons op ops ih =>
    obtain ⟨j₁, hj₁, hsame₁⟩ := step_sameRequest cfg op hj
    obtain ⟨j₂, hj₂, hsame₂⟩ := ih hj₁
    exact ⟨j₂, hj₂, hsame₁.trans hsame₂⟩

/-! ## A message that comes again -/

/-- The row that `create_job` finds or inserts. -/
theorem createJob_row (h : s.createJob cfg payload k n = .ok (s', j)) :
    ∃ input, validateJob cfg payload = .ok input ∧
      s'.jobs.get? j.jobId = some j ∧ j.messageId = input.messageId ∧
      j.inputDigest = input.digest := by
  simp only [createJob, bind_eq_ok] at h
  obtain ⟨input, hinput, h⟩ := h
  refine ⟨input, hinput, ?_⟩
  split at h
  · rename_i existing hfound
    simp only [bind_eq_ok, ensure_eq_ok] at h
    obtain ⟨-, hdigest, h⟩ := h
    cases h
    have hmessage := List.find?_some hfound
    rw [decide_eq_true_eq] at hmessage
    exact ⟨Table.mem_rows_iff.mp (List.mem_of_find?_eq_some hfound), hmessage, hdigest⟩
  · simp only [bind_eq_ok, ensure_eq_ok, orRaise_eq_ok] at h
    obtain ⟨-, -, jobs, hjobs, h⟩ := h
    cases h
    refine ⟨?_, rfl, rfl⟩
    rw [Table.get?_insert? hjobs]
    exact if_pos rfl

/-- A message that has a job gets it when its digest is the same. -/
theorem createJob_again (hs : Serial cfg s) {input : JobInput}
    (hinput : validateJob cfg payload = .ok input) (hj : j ∈ s.jobs.rows)
    (hmessage : j.messageId = input.messageId) :
    (∃ j', s.createJob cfg payload k n = .ok (s, j') ∧ j'.jobId = j.jobId) ↔
      j.inputDigest = input.digest := by
  have hfound : (s.jobs.rows.find? fun j => j.messageId = input.messageId) = some j := by
    cases hfound : s.jobs.rows.find? fun j => j.messageId = input.messageId with
    | none => exact absurd (decide_eq_true hmessage) (List.find?_eq_none.mp hfound j hj)
    | some j' =>
      have hmessage' := List.find?_some hfound
      rw [decide_eq_true_eq] at hmessage'
      rw [hs.message j' (List.mem_of_find?_eq_some hfound) j hj input.messageId
        (congrArg some hmessage') (congrArg some hmessage)]
  simp only [createJob, hinput, ok_bind, hfound, bind_eq_ok, ensure_eq_ok]
  constructor
  · rintro ⟨j', ⟨-, hdigest, -⟩, -⟩
    exact hdigest
  · intro hdigest
    exact ⟨j, ⟨(), hdigest, rfl⟩, rfl⟩

end ControllerStore

end HomeAddons.Controller
