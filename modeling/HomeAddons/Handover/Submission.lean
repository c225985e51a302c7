import HomeAddons.Controller.Requests
import HomeAddons.Handover.Payload

/-!
# The handover of a message: submitting it again

A message stays at the head of the queue until it was submitted and marked; after a stop between the
two it is submitted again, under the authority that its sender has then.

* `handedOver_iff`: when the Controller takes a stored message, and answers with the same job when
  the message comes again.
-/

namespace HomeAddons.Handover

open HomeAddons.Common
open HomeAddons.Gateway (InboundMessage GatewayStore Inbox InboxStep completesRequest)
open HomeAddons.Controller (JobInput Settings ControllerStore validateJob isSha256Ref Job)

/-! ## Attempts -/

/-- What an attempt to submit a message finds: its row, the directory, and whether the Controller
    says that it knows profiles. -/
structure Attempt where
  message : InboundMessage
  directory : GatewayStore
  profileSupported : Bool

namespace Attempt

variable (a : Attempt)

/-- The profile under which the message is submitted (`service.py` 1749–1771); a message without is
    marked as failed instead. -/
def profile? : Option Gateway.CapabilityProfile :=
  match a.directory.authorizeStoredMessage a.message.userHash a.message.capabilityProfile with
  | .error _ => none
  | .ok profile => if profile = .memberReadOnly ∧ a.profileSupported = false then none
      else some profile

/-- What is submitted. -/
def payload? : Option Dict := a.profile?.map fun p => payload a.message p a.profileSupported

/-- The profile that the job gets. -/
def jobProfile? : Option Controller.CapabilityProfile :=
  a.profile?.map fun p => receivedProfile p a.profileSupported

end Attempt

/-! ## The contract -/

/-- A payload is taken at the first attempt and at the second. -/
structure HandedOver (cfg : Settings) (first second : Dict) : Prop where
  accepted : (∃ input, validateJob cfg (.obj first) = .ok input) ∧
    ∃ input, validateJob cfg (.obj second) = .ok input
  /-- However the Controller goes on after its commit, the second attempt gets the same job. -/
  returned : ∀ (ops : List Controller.Op) (s : ControllerStore) (j : Job) (jobId now : String),
    (runFrom (ControllerStore.step cfg) .empty ops).createJob cfg (.obj first) jobId now =
      .ok (s, j) → ∀ (later : List Controller.Op) (jobId' now' : String),
    let s' := runFrom (ControllerStore.step cfg) s later
    ∃ j', s'.createJob cfg (.obj second) jobId' now' = .ok (s', j') ∧ j'.jobId = j.jobId
  /-- A Controller that has room does not keep the message, and those behind it, waiting. -/
  passed : ∀ (s : ControllerStore) (jobId now : String), s.jobs.get? jobId = none →
    (∀ j ∈ s.jobs.rows, .str j.messageId ≠ second.get "message_id") →
    s.jobs.count (fun j => j.state.active) < cfg.maxQueue →
    ∃ r, s.createJob cfg (.obj second) jobId now = .ok r

variable {cfg : Settings}

variable {payload : Json} {input input' : JobInput} {first second : Dict} {m m' : InboundMessage}

/-- A message that has no job gets one when there is room. -/
theorem createJob_new {s : ControllerStore} {k n : String}
    (hinput : validateJob cfg payload = .ok input)
    (hnew : ∀ j ∈ s.jobs.rows, j.messageId ≠ input.messageId)
    (hroom : s.jobs.count (fun j => j.state.active) < cfg.maxQueue) (hid : s.jobs.get? k = none) :
    ∃ r, s.createJob cfg payload k n = .ok r := by
  have hfound : (s.jobs.rows.find? fun j => j.messageId = input.messageId) = none := by
    rw [List.find?_eq_none]
    exact fun j hj h => hnew j hj (of_decide_eq_true h)
  obtain ⟨jobs, hjobs⟩ : ∃ jobs, s.jobs.insert? (Controller.newJob input k n) = some jobs :=
    Table.insert?_of_get? hid
  simp only [ControllerStore.createJob, hinput, ok_bind, hfound, hjobs, orRaise_some]
  rw [ensure_bind_of (show (s.jobsWhere fun j => j.state.active).length < cfg.maxQueue from hroom)]
  exact ⟨_, rfl⟩

theorem createJob_empty (hroom : 0 < cfg.maxQueue) (hinput : validateJob cfg payload = .ok input)
    (k n : String) : ∃ r, ControllerStore.empty.createJob cfg payload k n = .ok r :=
  createJob_new hinput (fun _ h => absurd h List.not_mem_nil) hroom rfl

/-- Two accepted payloads of one message are handed over when their jobs have one digest. -/
theorem handedOver_of_digest (hfirst : validateJob cfg (.obj first) = .ok input)
    (hsecond : validateJob cfg (.obj second) = .ok input')
    (hmessage : input.messageId = input'.messageId)
    (hid : second.get "message_id" = .str input'.messageId)
    (hdigest : input.digest = input'.digest) : HandedOver cfg first second := by
  refine ⟨⟨⟨input, hfirst⟩, input', hsecond⟩, ?_, ?_⟩
  · intro ops s j jobId now hcreate later jobId' now'
    have hserial : ControllerStore.Serial cfg s := by
      have hops : ControllerStore.Serial cfg (runFrom (ControllerStore.step cfg) .empty ops) :=
        invariant_of_reachable _ (fun _ op h => h.step op) (ControllerStore.serial_empty cfg)
          ⟨ops, rfl⟩
      have hstep := hops.step (.createJob (.obj first) jobId now)
      simp only [ControllerStore.step, ControllerStore.apply, hcreate] at hstep
      exact hstep
    obtain ⟨input₁, hinput₁, hrow, hj, hjdigest⟩ := ControllerStore.createJob_row hcreate
    obtain rfl : input₁ = input := by
      rw [hfirst] at hinput₁
      exact (Except.ok.inj hinput₁).symm
    obtain ⟨j', hj', hsame⟩ := ControllerStore.run_sameRequest cfg later hrow
    have hlater : ControllerStore.Serial cfg (runFrom (ControllerStore.step cfg) s later) :=
      invariant_of_reachable _ (fun _ op h => h.step op) hserial ⟨later, rfl⟩
    obtain ⟨j'', hagain, hjob⟩ := (ControllerStore.createJob_again hlater (k := jobId')
      (n := now') hsecond (Table.mem_of_get? hj')
      (hsame.messageId.trans (hj.trans hmessage))).mpr
      (hsame.inputDigest.trans (hjdigest.trans hdigest))
    exact ⟨j'', hagain, hjob.trans hsame.jobId⟩
  · intro s jobId now hfresh hnew hroom
    refine createJob_new hsecond (fun j hj heq => hnew j hj ?_) hroom hfresh
    rw [hid, heq]

/-- Where a job can be created at all, two payloads of one message are handed over only so. -/
theorem digest_of_handedOver (hroom : 0 < cfg.maxQueue)
    (hfirst : validateJob cfg (.obj first) = .ok input)
    (hsecond : validateJob cfg (.obj second) = .ok input')
    (hmessage : input.messageId = input'.messageId) (h : HandedOver cfg first second) :
    input.digest = input'.digest := by
  obtain ⟨⟨s, j⟩, hcreate⟩ := createJob_empty hroom hfirst "job" "now"
  obtain ⟨input₁, hinput₁, hrow, hj, hjdigest⟩ := ControllerStore.createJob_row hcreate
  obtain rfl : input₁ = input := by
    rw [hfirst] at hinput₁
    exact (Except.ok.inj hinput₁).symm
  obtain ⟨j', hagain, hjob⟩ := h.returned [] s j "job" "now" hcreate [] "again" "later"
  obtain ⟨input₂, hinput₂, hrow', -, hjdigest'⟩ := ControllerStore.createJob_row hagain
  obtain rfl : input₂ = input' := by
    rw [hsecond] at hinput₂
    exact (Except.ok.inj hinput₂).symm
  rw [hjob, runFrom_nil, hrow] at hrow'
  rw [← hjdigest, ← hjdigest', Option.some.inj hrow']

/-! ## A stored message -/

/-- The digests of the two jobs are equal although their profiles differ. -/
def Collision (first second : Attempt) : Prop :=
  ∃ r r', first.jobProfile? = some r ∧ second.jobProfile? = some r' ∧ r ≠ r' ∧
    (jobInput first.message r).digest = (jobInput first.message r').digest

theorem jobInput_sameContents (h : Gateway.Inbox.SameContents m m')
    (r : Controller.CapabilityProfile) : jobInput m' r = jobInput m r := by
  unfold jobInput
  rw [h.messageId, h.conversationKey, h.receivedAt, h.text, h.attachments]

theorem Fits.sameContents (hm : Fits m) (h : Gateway.Inbox.SameContents m m') : Fits m' := by
  refine ⟨?_, ?_, ?_, ?_, ?_, ?_⟩
  · rw [h.messageId]
    exact hm.messageId
  · rw [h.conversationKey]
    exact hm.conversationKey
  · rw [h.receivedAt]
    exact hm.receivedAt
  · rw [h.text]
    exact hm.text
  · rw [h.attachments]
    exact hm.count
  · rw [h.attachments]
    exact hm.attachments

/-- A message that the Gateway stored is handed over exactly when its sizes are within the limits of
    the Controller, it does not complete the request of an earlier instruction, and both attempts
    give its job the same profile. -/
theorem handedOver_iff (cfg : Settings) (hroom : 0 < cfg.maxQueue) (es es' : List InboxStep)
    {id : String} {first second : Attempt}
    (hm : (runFrom Inbox.step .new es).messages.get? id = some first.message)
    (hm' : (runFrom Inbox.step .new (es ++ es')).messages.get? id = some second.message)
    {d d' : Dict} (hfirst : first.payload? = some d) (hsecond : second.payload? = some d') :
    HandedOver cfg d d' ↔ Within first.message ∧
      completesRequest first.message.archiveContext = false ∧
      (first.jobProfile? = second.jobProfile? ∨ Collision first second) := by
  have hdocumented := Inbox.documented es
  have hsame : Gateway.Inbox.SameContents first.message second.message := by
    obtain ⟨m₁, hm₁, hsame⟩ := Inbox.run_kept hdocumented es' hm
    rw [← runFrom_append, hm'] at hm₁
    exact Option.some.inj hm₁ ▸ hsame
  obtain ⟨p, hp, rfl⟩ := Option.map_eq_some_iff.mp hfirst
  obtain ⟨p', hp', rfl⟩ := Option.map_eq_some_iff.mp hsecond
  have hprofile : first.jobProfile? = some (receivedProfile p first.profileSupported) := by
    rw [Attempt.jobProfile?, hp, Option.map_some]
  have hprofile' : second.jobProfile? = some (receivedProfile p' second.profileSupported) := by
    rw [Attempt.jobProfile?, hp', Option.map_some]
  have hfits : Fits first.message ↔ _ :=
    fits_iff (hdocumented.written _ (Table.mem_of_get? hm))
  have hsame_iff : (first.jobProfile? = second.jobProfile? ∨ Collision first second) ↔
      (jobInput first.message (receivedProfile p first.profileSupported)).digest =
        (jobInput first.message (receivedProfile p' second.profileSupported)).digest := by
    rw [hprofile, hprofile', Option.some.injEq]
    constructor
    · rintro (heq | ⟨r, r', hr, hr', -, hcollision⟩)
      · rw [heq]
      · rw [hprofile, Option.some.injEq] at hr
        rw [hprofile', Option.some.injEq] at hr'
        rw [hr, hr']
        exact hcollision
    · intro hdigest
      by_cases heq : receivedProfile p first.profileSupported =
          receivedProfile p' second.profileSupported
      · exact .inl heq
      · exact .inr ⟨_, _, hprofile, hprofile', heq, hdigest⟩
  rw [hsame_iff, ← and_assoc, ← hfits]
  constructor
  · intro h
    obtain ⟨⟨input, hinput⟩, input', hinput'⟩ := h.accepted
    obtain ⟨hfit, rfl⟩ := (validateJob_payload ..).mp hinput
    obtain ⟨-, rfl⟩ := (validateJob_payload ..).mp hinput'
    rw [jobInput_sameContents hsame] at hinput'
    exact ⟨hfit, digest_of_handedOver hroom hinput hinput' rfl h⟩
  · rintro ⟨hfit, hdigest⟩
    refine handedOver_of_digest ((validateJob_payload ..).mpr ⟨hfit, rfl⟩)
      ((validateJob_payload ..).mpr ⟨hfit.sameContents hsame, rfl⟩) hsame.messageId.symm rfl ?_
    rw [jobInput_sameContents hsame]
    exact hdigest

/-! ## Two messages -/

/-- The hash of a user, and its conversation. -/
def home : String := "sha256:" ++ String.ofList (List.replicate 64 'a')

/-- A directory with one user. -/
def directoryOf (role : Gateway.Role) : GatewayStore :=
  let u : Gateway.WeixinUser := ⟨home, "wx-1", home, "微信用户", role, .active, 1,
    "2026-08-01T07:00", "2026-08-01T07:00", none, none, "principal-1"⟩
  ⟨1, (Table.empty.insert? u).getD .empty, .empty, .empty, .empty, .empty, .empty, .empty⟩

/-- A message of the user, who is the owner. -/
def sent (messageId text : String) (media : List (Gateway.MediaSpec × List UInt8)) :
    Gateway.StoredMessage :=
  ⟨messageId, "wx-1", home, text, media, some home, .owner, none, none, none⟩

/-- A time, with a reference for an attachment. -/
def clock (now reference : String) : Gateway.StoreClock :=
  ⟨now, fun _ => reference, fun _ => "2026-08-02T08:00",
    ⟨now, "2026-08-01T07:50", "2026-08-01T08:15"⟩⟩

/-- A greeting. -/
def greeted : List InboxStep :=
  [.store (directoryOf .owner) (sent "m1" "你好" [])
    (clock "2026-08-01T08:00" "reference-of-message-1")]

/-- An instruction to archive the next photo, and the photo. -/
def photographed : List InboxStep :=
  [.store (directoryOf .owner) (sent "m1" "接下来一张照片归档到装修档案" [])
      (clock "2026-08-01T08:00" "reference-of-message-1"),
    .store (directoryOf .owner) (sent "m2" "" [(⟨.image, "a.jpg", "image/jpeg"⟩, [1])])
      (clock "2026-08-01T08:01" "reference-of-message-2")]

/-- The row of a message. -/
def rowOf (es : List InboxStep) (messageId : String) : Option InboundMessage :=
  (runFrom Inbox.step .new es).messages.get? messageId

def defaults : Settings := ⟨200, 20000, fun _ => ""⟩

/-- The photo is refused whenever it is submitted, and the greeting when its sender is no owner
    any more. -/
theorem handover_fails :
    (∃ m d, rowOf photographed "m2" = some m ∧ (Attempt.mk m (directoryOf .owner) true).payload? = some d ∧
      ¬ HandedOver defaults d d) ∧
    ∃ m d d', rowOf greeted "m1" = some m ∧ (Attempt.mk m (directoryOf .owner) true).payload? = some d ∧
      (Attempt.mk m (directoryOf .member) true).payload? = some d' ∧
      ¬ HandedOver defaults d d' := by
  constructor
  · have hrow : (rowOf photographed "m2").any (fun m => completesRequest m.archiveContext ∧
        (Attempt.mk m (directoryOf .owner) true).profile? = some .owner) = true := by
      decide +kernel
    obtain ⟨m, hm, hprofile⟩ := (Option.any_eq_true _ _).mp hrow
    rw [decide_eq_true_eq] at hprofile
    refine ⟨m, payload m .owner true, hm, by rw [Attempt.payload?, hprofile.2]; rfl, fun h => ?_⟩
    obtain ⟨input, hinput⟩ := h.accepted.1
    have hfits := ((validateJob_payload ..).mp hinput).1
    have hwritten := (Inbox.documented photographed).written m (Table.mem_of_get? hm)
    exact absurd (hprofile.1.symm.trans ((fits_iff hwritten).mp hfits).2) nofun
  · have hrow : (rowOf greeted "m1").any (fun m =>
        (Attempt.mk m (directoryOf .owner) true).profile? = some .owner ∧
        (Attempt.mk m (directoryOf .member) true).profile? = some .memberReadOnly ∧
        (jobInput m .owner).digest ≠ (jobInput m .memberReadOnly).digest) = true := by
      decide +kernel
    obtain ⟨m, hm, hprofile⟩ := (Option.any_eq_true _ _).mp hrow
    rw [decide_eq_true_eq] at hprofile
    refine ⟨m, payload m .owner true, payload m .memberReadOnly true, hm,
      by rw [Attempt.payload?, hprofile.1]; rfl, by rw [Attempt.payload?, hprofile.2.1]; rfl,
      fun h => ?_⟩
    obtain ⟨⟨input, hinput⟩, input', hinput'⟩ := h.accepted
    obtain ⟨-, rfl⟩ := (validateJob_payload ..).mp hinput
    obtain ⟨-, rfl⟩ := (validateJob_payload ..).mp hinput'
    exact hprofile.2.2 (digest_of_handedOver (by decide) hinput hinput' rfl h)

/-- The greeting is handed over when its sender is the owner at both attempts. -/
theorem handedOver_iff_greeting : ∃ m d, rowOf greeted "m1" = some m ∧
    (Attempt.mk m (directoryOf .owner) true).payload? = some d ∧ HandedOver defaults d d := by
  have hrow : (rowOf greeted "m1").any (fun m =>
      (Attempt.mk m (directoryOf .owner) true).profile? = some .owner ∧
      completesRequest m.archiveContext = false ∧ Within m) = true := by
    decide +kernel
  obtain ⟨m, hm, hfacts⟩ := (Option.any_eq_true _ _).mp hrow
  rw [decide_eq_true_eq] at hfacts
  obtain ⟨hprofile, hcontext, hwithin⟩ := hfacts
  have hpayload : (Attempt.mk m (directoryOf .owner) true).payload? =
      some (payload m .owner true) := by
    rw [Attempt.payload?, hprofile]
    rfl
  refine ⟨m, _, hm, hpayload, ?_⟩
  have hiff : HandedOver defaults _ _ ↔ _ :=
    @handedOver_iff defaults (by decide) greeted [] "m1" ⟨m, directoryOf .owner, true⟩
      ⟨m, directoryOf .owner, true⟩ hm hm _ _ hpayload hpayload
  exact hiff.mpr ⟨hwithin, hcontext, .inl rfl⟩

end HomeAddons.Handover
