import HomeAddons.Common.Run
import HomeAddons.Gateway.Inbox

/-!
# Weixin Gateway: the attachments of the inbox

Attachments come with messages, are consumed or acknowledged by the Controller and deleted when they
are consumed or expired; the archive correlation reserves them for requests. A step of a run is one
call of the store.

* `Correlation`: what a correlation does to the inbox, branch by branch.
* `Sound`: the invariant of the runs.
* `archive_isolated`: an attachment belongs to one live request, a scope has one pending request,
  and what is reserved was received in the scope of its request.
-/

namespace HomeAddons.Gateway

open HomeAddons.Common

namespace Inbox

variable (x : Inbox)

/-! ## Steps -/

/-- `acknowledge_attachment(reference, sha256)` (lines 3922–3946); one that is not acknowledged
    stays as it is. -/
def acknowledgeAttachment (reference sha256 now : String) : Inbox :=
  { x with attachments := x.attachments.updateWhere (fun a => a.attachmentRef = reference ∧
        "sha256:" ++ a.sha256 = sha256 ∧ a.consumedAt = none ∧ now < a.expiresAt) fun a =>
      { a with consumedAt := some now } }

/-- The content of the spool file is the one of the row. -/
def isReadable (a : Attachment) : Bool :=
  (x.spool.get? a.storageName).any fun f => f.content.length = a.sizeBytes ∧
    String.ofList (sha256Chars f.content) = a.sha256

/-- `_read_attachment(reference, consume=True)` (lines 3948–3968). -/
def consumeAttachment (reference now : String) : Inbox :=
  { x with attachments := x.attachments.updateWhere (fun a => a.attachmentRef = reference ∧
        a.consumedAt = none ∧ now < a.expiresAt ∧ x.isReadable a = true) fun a =>
      { a with consumedAt := some now } }

/-- `cleanup_spool()` (lines 3970–3986). -/
def cleanupSpool (now : String) : Inbox :=
  let due := fun a : Attachment => decide (a.expiresAt ≤ now ∨ a.consumedAt ≠ none)
  let attachments := x.attachments.deleteWhere due
  { x with
    attachments := attachments
    spool := x.spool.deleteWhere fun f =>
      (x.attachments.rows.any fun a => due a ∧ a.storageName = f.name) &&
        !attachments.rows.any fun a => a.storageName = f.name }

/-- `mark_submitted(message_id, job_id)` (lines 3669–3674), without the id of the job. -/
def markSubmitted (messageId now : String) : Inbox :=
  { x with messages := x.messages.updateWhere (fun m => m.messageId = messageId ∧
        m.state = .pendingController) fun m =>
      { m with state := .controllerSubmitted, updatedAt := now } }

/-- `mark_finished(message_id, success=…)` (lines 3676–3712), without the columns for the state of
    the Controller. -/
def markFinished (messageId : String) (success : Bool) (now : String) : Inbox :=
  let bound := fun r : ArchiveRequest =>
    decide (r.boundMessageId = some messageId ∧ r.state = .bound)
  { x with
    messages := x.messages.update messageId fun m =>
      { m with state := if success then .completed else .failed, updatedAt := now }
    requests := x.requests.updateWhere bound fun r =>
      { r with state := if success then .completed else .failed, updatedAt := now } }

/-- The route that the index of the routes holds for a message. -/
def routeOf (m : InboundMessage) : Option (String × String) :=
  m.identityId.bind fun i => m.upstreamMessageId.map fun u => (i, u)

/-- The routes that a migration gives to the messages of a sender that have none
    (lines 1293–1303), if no two messages get the same. -/
def adoptMessages (senderId identityId principalId : String) : Inbox :=
  let messages := x.messages.updateWhere (fun m => m.senderId = senderId) fun m =>
    { m with
      identityId := m.identityId <|> some identityId
      principalId := m.principalId <|> some principalId
      upstreamMessageId := m.upstreamMessageId <|> some m.messageId }
  if (messages.rows.filterMap routeOf).Nodup then { x with messages := messages } else x

/-- `_backfill_legacy_owner_messages(connection, owner)` (lines 1177–1191). -/
def backfillMessages (senderId userHash : String) : Inbox :=
  { x with messages := x.messages.updateWhere (fun m => m.userHash = none ∧ m.senderId = senderId ∧
        m.capabilityProfile = .ownerLegacy) fun m =>
      { m with userHash := some userHash, capabilityProfile := .owner } }

end Inbox

inductive InboxStep where
  | store (g : GatewayStore) (a : StoredMessage) (clock : StoreClock)
  | acknowledge (reference sha256 now : String)
  | consume (reference now : String)
  | cleanup (now : String)
  | submit (messageId now : String)
  | finish (messageId : String) (success : Bool) (now : String)
  | adopt (senderId identityId principalId : String)
  | backfill (senderId userHash : String)

namespace Inbox

/-- A call that raises leaves the database as it was. -/
def step (x : Inbox) : InboxStep → Inbox
  | .store g a clock =>
    match x.storeMessage g a clock with
    | .ok x' => x'
    | .error _ => x
  | .acknowledge reference sha256 now => x.acknowledgeAttachment reference sha256 now
  | .consume reference now => x.consumeAttachment reference now
  | .cleanup now => x.cleanupSpool now
  | .submit messageId now => x.markSubmitted messageId now
  | .finish messageId success now => x.markFinished messageId success now
  | .adopt senderId identityId principalId => x.adoptMessages senderId identityId principalId
  | .backfill senderId userHash => x.backfillMessages senderId userHash

/-- A new inbox. -/
def new : Inbox := ⟨.empty, .empty, .empty, .empty, .empty⟩

/-! ## What a correlation does -/

/-- A context that authorizes nothing. -/
def Correlated.Declines (c : Correlated) : Prop :=
  ∀ context ∈ c.context, context.status ≠ .authorized

variable {x x' : Inbox} {a : Arrived} {clock : ArchiveClock} {c : Correlated}

/-- The scope of a message that arrives. -/
def Arrived.scope (a : Arrived) : ArchiveScope :=
  mediaArchiveScope a.senderId a.userHash a.identityId a.principalId a.conversationKey

/-- The text goes on with a request instead of ending it. -/
def Continues (text : String) : Prop :=
  (∀ i ∈ mediaArchiveInstruction text true, i.kind ≠ .cancel) ∧
    mentions (archiveActions ++ targetedActions) (text.toList.filter fun c => !isPySpace c) = false

/-- What a request that is complete authorizes. -/
def authorization (x : Inbox) (r : ArchiveRequest) (key : String) : Correlated :=
  ⟨(x.reservedRows r.requestId).map fun (m, b) => attachmentDocument b m.sha256,
    some ⟨.intentFirst, .authorized, r.intentMessageId, r.intentText, r.expectedCount,
      (x.reservedRows r.requestId).map fun (m, _) => sourceAttachment m.messageId m.sha256,
      some key⟩⟩

/-- The branches of a correlation, after the requests that are due have expired. -/
inductive Correlation (x : Inbox) (a : Arrived) (clock : ArchiveClock) :
    Inbox → Correlated → Prop
  | kept {c : Correlated} (hc : c.Declines) : Correlation x a clock x c
  | ended {r : ArchiveRequest} (hr : x.pendingArchiveRequest a.scope = some r)
      {state : RequestState} (hstate : state = .cancelled ∨ state = .failed) {c : Correlated}
      (hc : c.Declines) : Correlation x a clock (x.endArchiveRequest r.requestId state clock.now) c
  | extended {r : ArchiveRequest} (hr : x.pendingArchiveRequest a.scope = some r) {x₁ : Inbox}
      (hreserve : reserve r.requestId (x.attachmentsOf a.messageId)
        (x.reservedRows r.requestId).length x = .ok x₁) {c : Correlated} (hc : c.Declines) :
      Correlation x a clock x₁ c
  | completed {r : ArchiveRequest} (hr : x.pendingArchiveRequest a.scope = some r)
      (hgoes : a.documents ≠ [] ∧ Continues a.text) {x₁ : Inbox}
      (hreserve : reserve r.requestId (x.attachmentsOf a.messageId)
        (x.reservedRows r.requestId).length x = .ok x₁)
      (hcount : ¬ (maxArchiveAttachments < (x.reservedRows r.requestId).length +
          (x.attachmentsOf a.messageId).length ∨ ∃ n ∈ r.expectedCount,
        n < (x.reservedRows r.requestId).length + (x.attachmentsOf a.messageId).length))
      (hfull : ¬ ∃ n ∈ r.expectedCount, (x₁.reservedRows r.requestId).length < n)
      {key : String} {c : Correlated} (hc : c = x₁.authorization r key) :
      Correlation x a clock { x₁ with requests := x₁.requests.update r.requestId fun r =>
        { r with state := .bound, boundMessageId := some a.messageId, idempotencyScope := some key,
                 updatedAt := clock.now } } c
  | registered {x₁ : Inbox}
      (hx₁ : x₁ = x ∨ ∃ r, x.pendingArchiveRequest a.scope = some r ∧
        x₁ = x.endArchiveRequest r.requestId .cancelled clock.now) {r : ArchiveRequest}
      (hscope : r.scope = a.scope) {x₂ : Inbox} (hinsert : x₁.insertArchiveRequest r = .ok x₂)
      {c : Correlated} (hc : c.Declines) : Correlation x a clock x₂ c
  | collected {expected : Option ℕ} {key : String} {r : ArchiveRequest}
      (hrequest : r.scope = a.scope ∧ r.state = .bound ∧ r.boundMessageId = some a.messageId)
      {x₁ : Inbox} (hinsert : x.insertArchiveRequest r = .ok x₁) {x₂ : Inbox}
      (hreserve : reserve r.requestId (x.recentBatch a.messageId a.scope expected clock) 0 x₁ =
        .ok x₂)
      (hcount : ¬ (∃ n ∈ expected, (x.recentBatch a.messageId a.scope expected clock).length ≠ n) ∧
        ¬ maxArchiveAttachments < (x.recentBatch a.messageId a.scope expected clock).length)
      {c : Correlated} (hc : c = ⟨(x.recentBatch a.messageId a.scope expected clock).map fun b =>
          attachmentDocument b b.sha256, some ⟨.imageFirst, .authorized, a.messageId, a.text,
            expected, (x.recentBatch a.messageId a.scope expected clock).map fun b =>
              sourceAttachment b.messageId b.sha256, some key⟩⟩) : Correlation x a clock x₂ c

variable {documents : List AttachmentDocument} {context : ArchiveContext} {r : ArchiveRequest}
  {expected : Option ℕ} {requestId messageId now : String} {rows : List Attachment} {position : ℕ}
  {m : Reservation} {p : InboundMessage → Bool} {f : InboundMessage → InboundMessage}
  {hf : ∀ m, (f m).messageId = m.messageId} {scope : ArchiveScope} {b : Attachment}
  {x₁ x₂ x₃ : Inbox} {g : GatewayStore} {e : InboxStep} {message : InboundMessage}

theorem declines_none :
    (⟨documents, none⟩ : Correlated).Declines := nofun

theorem declines_some (h : context.status ≠ .authorized) :
    (⟨documents, some context⟩ : Correlated).Declines := by
  intro context' h'
  obtain rfl := Option.some.inj h'
  exact h

theorem fillArchive_ok (hr : x.pendingArchiveRequest a.scope = some r)
    (hdocuments : a.documents ≠ [])
    (hcancel : ∀ i ∈ mediaArchiveInstruction a.text true, i.kind ≠ .cancel)
    (h : x.fillArchive a r clock.now = .ok (x', c)) : Correlation x a clock x' c := by
  unfold fillArchive at h
  dsimp only at h
  split_ifs at h with hmentions hcount
  · cases h
    exact .ended hr (.inl rfl) declines_none
  · cases h
    exact .ended hr (.inr rfl) (declines_some (by simp))
  · cases h
    exact .ended hr (.inr rfl) (declines_some (by simp))
  · rw [bind_eq_ok] at h
    obtain ⟨x₁, hreserve, h⟩ := h
    split_ifs at h with hfull
    · cases h
      exact .extended hr hreserve (declines_some (by simp))
    · cases h
      exact .completed hr ⟨hdocuments, hcancel, eq_false_of_ne_true hmentions⟩ hreserve hcount
        hfull rfl

theorem registerArchive_ok
    (h : x.registerArchive a a.scope (x.pendingArchiveRequest a.scope) expected clock =
      .ok (x', c)) : Correlation x a clock x' c := by
  unfold registerArchive at h
  simp only [bind_eq_ok, pure_eq_ok, Prod.mk.injEq] at h
  obtain ⟨x₂, hinsert, rfl, rfl⟩ := h
  cases hpending : x.pendingArchiveRequest a.scope with
  | none =>
    rw [hpending] at hinsert
    exact .registered (.inl rfl) rfl hinsert (declines_some (by simp))
  | some r =>
    rw [hpending] at hinsert
    exact .registered (.inr ⟨r, hpending, rfl⟩) rfl hinsert (declines_some (by simp))

theorem collectArchive_ok (h : x.collectArchive a a.scope expected clock = .ok (x', c)) :
    Correlation x a clock x' c := by
  unfold collectArchive at h
  dsimp only at h
  split_ifs at h with _ hexpected hmax
  · cases h
    exact .kept (declines_some nofun)
  · cases h
    exact .kept (declines_some nofun)
  · cases h
    exact .kept (declines_some nofun)
  · simp only [bind_eq_ok, pure_eq_ok, Prod.mk.injEq] at h
    obtain ⟨x₁, hinsert, x₂, hreserve, rfl, rfl⟩ := h
    exact .collected ⟨rfl, rfl, rfl⟩ hinsert hreserve ⟨hexpected, hmax⟩ rfl

theorem correlateMediaArchive_ok (h : x.correlateMediaArchive a clock = .ok (x', c)) :
    Correlation (x.expireArchiveRequests clock.now) a clock x' c := by
  unfold correlateMediaArchive at h
  dsimp only at h
  generalize x.expireArchiveRequests clock.now = x at h ⊢
  rw [show mediaArchiveScope a.senderId a.userHash a.identityId a.principalId
    a.conversationKey = a.scope from rfl] at h
  split at h
  · unfold cancelArchive at h
    split at h
    · cases h
      exact .kept (declines_some nofun)
    · rename_i r hr
      cases h
      exact .ended hr (.inl rfl) (declines_some nofun)
  · rename_i hcancel
    split at h
    · rename_i r _ hr
      split_ifs at hr with hdocuments
      refine fillArchive_ok hr hdocuments ?_ h
      rintro ⟨kind, expected⟩ hi rfl
      rw [← decide_eq_true hdocuments] at hi
      exact hcancel expected hi
    · exact registerArchive_ok h
    · exact collectArchive_ok h
    · cases h
      exact .kept declines_none

/-! ## Reservations -/

/-- The rows that a reservation of the attachments adds, from the position on. -/
def newReservations (requestId : String) (rows : List Attachment) (position : ℕ) :
    List Reservation :=
  (rows.zipIdx position).map fun (a, n) =>
    ⟨requestId, n, a.attachmentRef, a.messageId, "sha256:" ++ a.sha256⟩

theorem newReservations_cons (requestId : String) (a : Attachment) (rows : List Attachment)
    (position : ℕ) : newReservations requestId (a :: rows) position =
      ⟨requestId, position, a.attachmentRef, a.messageId, "sha256:" ++ a.sha256⟩ ::
        newReservations requestId rows (position + 1) := rfl

theorem mem_newReservations (h : m ∈ newReservations requestId rows position) :
    m.requestId = requestId ∧ ∃ b ∈ rows, m.attachmentRef = b.attachmentRef ∧
      m.messageId = b.messageId ∧ m.sha256 = "sha256:" ++ b.sha256 := by
  induction rows generalizing position with
  | nil => exact absurd h List.not_mem_nil
  | cons b rows ih =>
    rw [newReservations_cons] at h
    obtain rfl | h := List.mem_cons.mp h
    · exact ⟨rfl, b, List.mem_cons_self, rfl, rfl, rfl⟩
    · obtain ⟨hid, b', hb', hrest⟩ := ih h
      exact ⟨hid, b', List.mem_cons_of_mem _ hb', hrest⟩

theorem newReservations_refs (requestId : String) (rows : List Attachment) (position : ℕ) :
    (newReservations requestId rows position).map Reservation.attachmentRef =
      rows.map Attachment.attachmentRef := by
  induction rows generalizing position with
  | nil => rfl
  | cons b rows ih => rw [newReservations_cons, List.map_cons, ih, List.map_cons]

theorem newReservations_positions (requestId : String) (rows : List Attachment) (position : ℕ) :
    (newReservations requestId rows position).map Reservation.position =
      List.range' position rows.length := by
  induction rows generalizing position with
  | nil => rfl
  | cons b rows ih =>
    rw [newReservations_cons, List.map_cons, ih, List.length_cons, List.range'_succ]

/-- A reservation that succeeds appends its rows. -/
theorem reserve_ok (h : reserve requestId rows position x = .ok x') :
    x'.reservations.rows = x.reservations.rows ++ newReservations requestId rows position ∧
      x' = { x with reservations := x'.reservations } := by
  induction rows generalizing position x with
  | nil =>
    cases h
    exact ⟨(List.append_nil _).symm, rfl⟩
  | cons b rows ih =>
    simp only [reserve, bind_eq_ok, orRaise_eq_ok] at h
    obtain ⟨reservations, hinsert, h⟩ := h
    obtain ⟨hrows, heq⟩ := ih h
    refine ⟨?_, heq⟩
    rw [hrows, Table.rows_insert? hinsert, newReservations_cons, List.append_assoc]
    rfl

/-- It succeeds when no position from there on is taken. -/
theorem reserve_total
    (h : ∀ m ∈ x.reservations.rows, m.requestId = requestId → m.position < position) :
    ∃ x', reserve requestId rows position x = .ok x' := by
  induction rows generalizing position x with
  | nil => exact ⟨x, rfl⟩
  | cons b rows ih =>
    have hfree : x.reservations.get? (requestId, position) = none := by
      rw [Table.get?_eq_none]
      intro hmem
      obtain ⟨m, hm, hkey⟩ := List.mem_map.mp hmem
      have hposition := h m hm (congrArg Prod.fst hkey)
      rw [show m.position = position from congrArg Prod.snd hkey] at hposition
      omega
    let m₀ : Reservation :=
      ⟨requestId, position, b.attachmentRef, b.messageId, "sha256:" ++ b.sha256⟩
    obtain ⟨reservations, hinsert⟩ := Table.insert?_of_get? (r := m₀) hfree
    have hlater : ∀ m ∈ reservations.rows, m.requestId = requestId → m.position < position + 1 := by
      intro m hm hid
      rw [Table.rows_insert? hinsert] at hm
      obtain hm | hm := List.mem_append.mp hm
      · exact Nat.lt_succ_of_lt (h m hm hid)
      · rw [List.mem_singleton.mp hm]
        exact Nat.lt_succ_self _
    obtain ⟨x', hx'⟩ := ih (x := { x with reservations := reservations }) hlater
    have hstep : orRaise (x.reservations.insert? m₀) Raise.integrity = .ok reservations := by
      rw [hinsert]
      rfl
    refine ⟨x', ?_⟩
    rw [reserve]
    exact bind_eq_ok.mpr ⟨reservations, hstep, hx'⟩

/-! ## The invariant -/

/-- The states of a request that keeps its attachments. -/
def RequestState.isLive (s : RequestState) : Bool := s = .pending ∨ s = .bound ∨ s = .completed

/-- The reservation is one of a live request. -/
def holds (x : Inbox) (m : Reservation) : Prop :=
  ∃ r, x.requests.get? m.requestId = some r ∧ RequestState.isLive r.state = true

/-- The reservations of a request. -/
def reservationsOf (x : Inbox) (requestId : String) : List Reservation :=
  x.reservations.rows.filter fun m => m.requestId = requestId

structure Sound (x : Inbox) : Prop where
  /-- The message of an attachment is there. -/
  attached : ∀ b ∈ x.attachments.rows, x.messages.get? b.messageId ≠ none
  /-- The digest of an attachment is not marked as one. -/
  digests : ∀ b ∈ x.attachments.rows, ¬ "sha256:".toList <+: b.sha256.toList
  /-- The request of a reservation is there. -/
  requested : ∀ m ∈ x.reservations.rows, x.requests.get? m.requestId ≠ none
  /-- A scope has one pending request. -/
  single : ∀ r ∈ x.requests.rows, ∀ r' ∈ x.requests.rows, r.state = .pending →
    r'.state = .pending → r.scope = r'.scope → r.requestId = r'.requestId
  /-- An attachment is reserved by one live request. -/
  exclusive : ∀ m ∈ x.reservations.rows, ∀ m' ∈ x.reservations.rows, x.holds m → x.holds m' →
    m.attachmentRef = m'.attachmentRef → m.requestId = m'.requestId
  /-- The positions of the reservations of a request have no gap. -/
  positions : ∀ id, (x.reservationsOf id).map Reservation.position =
    List.range (x.reservationsOf id).length

theorem sound_new : Sound new where
  attached := fun _ h => absurd h List.not_mem_nil
  digests := fun _ h => absurd h List.not_mem_nil
  requested := fun _ h => absurd h List.not_mem_nil
  single := fun _ h => absurd h List.not_mem_nil
  exclusive := fun _ h => absurd h List.not_mem_nil
  positions := fun _ => rfl

/-- Changes of the states of requests: none comes back to life. -/
theorem Sound.setStates (h : Sound x) {requests : Table ArchiveRequest.requestId}
    (hrequests : ∀ id, x.requests.get? id ≠ none → requests.get? id ≠ none)
    (hstates : ∀ id r, requests.get? id = some r → ∃ r₀, x.requests.get? id = some r₀ ∧
      r.scope = r₀.scope ∧ (r.state = .pending → r₀.state = .pending) ∧
      (RequestState.isLive r.state = true → RequestState.isLive r₀.state = true)) :
    Sound { x with requests := requests } where
  attached := h.attached
  digests := h.digests
  requested := fun m hm => hrequests _ (h.requested m hm)
  single := by
    intro r hr r' hr' hpending hpending' hscope
    obtain ⟨r₀, hr₀, hscope₀, hp₀, -⟩ := hstates _ r (Table.mem_rows_iff.mp hr)
    obtain ⟨r₁, hr₁, hscope₁, hp₁, -⟩ := hstates _ r' (Table.mem_rows_iff.mp hr')
    have := h.single r₀ (Table.mem_of_get? hr₀) r₁ (Table.mem_of_get? hr₁) (hp₀ hpending)
      (hp₁ hpending') (by rw [← hscope₀, ← hscope₁, hscope])
    rw [Table.key_of_get? hr₀, Table.key_of_get? hr₁] at this
    exact this
  exclusive := by
    have hholds : ∀ m, Inbox.holds { x with requests := requests } m → x.holds m := by
      rintro m ⟨r, hr, hlive⟩
      obtain ⟨r₀, hr₀, -, -, hl⟩ := hstates _ r hr
      exact ⟨r₀, hr₀, hl hlive⟩
    intro m hm m' hm' hl hl' href
    exact h.exclusive m hm m' hm' (hholds m hl) (hholds m' hl') href
  positions := h.positions

/-- An update of the states of some requests. -/
theorem Sound.updateStates (h : Sound x) {p : ArchiveRequest → Bool}
    {f : ArchiveRequest → ArchiveRequest} {hf : ∀ r, (f r).requestId = r.requestId}
    (hstates : ∀ r ∈ x.requests.rows, p r = true → (f r).scope = r.scope ∧
      ((f r).state = .pending → r.state = .pending) ∧
      (RequestState.isLive (f r).state = true → RequestState.isLive r.state = true)) :
    Sound { x with requests := x.requests.updateWhere p f hf } := by
  refine h.setStates ?_ ?_
  · intro id hid
    rw [Table.get?_updateWhere]
    exact fun hn => hid (Option.map_eq_none_iff.mp hn)
  · intro k r hr
    obtain ⟨r₀, hr₀, rfl⟩ := Table.get?_updateWhere_eq_some.mp hr
    refine ⟨r₀, hr₀, ?_⟩
    split_ifs with hp
    · exact hstates r₀ (Table.mem_of_get? hr₀) hp
    · exact ⟨rfl, id, id⟩

theorem Sound.expire (h : Sound x) (now : String) : Sound (x.expireArchiveRequests now) :=
  h.updateStates fun _ _ _ => ⟨rfl, nofun, nofun⟩

/-- A request ends. -/
theorem Sound.endRequest (h : Sound x) (id : String) {state : RequestState}
    (hstate : state = .cancelled ∨ state = .failed) (now : String) :
    Sound (x.endArchiveRequest id state now) := by
  refine h.updateStates fun r _ _ => ⟨rfl, fun hp => ?_, fun hl => ?_⟩
  · obtain rfl | rfl := hstate <;> cases hp
  · obtain rfl | rfl := hstate <;> cases hl

/-- A new request. -/
theorem Sound.insertRequest (h : Sound x) (hinsert : x.insertArchiveRequest r = .ok x') : Sound x' ∧
      x' = { x with requests := x'.requests } ∧ x.requests.get? r.requestId = none ∧
      ∀ id, x'.requests.get? id = if id = r.requestId then some r else x.requests.get? id := by
  simp only [insertArchiveRequest, bind_eq_ok, ensure_eq_ok, orRaise_eq_ok, pure_eq_ok] at hinsert
  obtain ⟨_, hfree, requests, hrequests, rfl⟩ := hinsert
  have hget := Table.get?_insert? hrequests
  have hnew : x.requests.get? r.requestId = none := Table.get?_of_insert? hrequests
  refine ⟨?_, rfl, hnew, hget⟩
  have hholds : ∀ m ∈ x.reservations.rows, Inbox.holds { x with requests := requests } m →
      x.holds m := by
    rintro m hm ⟨r', hr', hlive⟩
    rw [hget] at hr'
    split_ifs at hr' with hid
    · exact absurd (hid ▸ hnew) (h.requested m hm)
    · exact ⟨r', hr', hlive⟩
  refine ⟨h.attached, h.digests, ?_, ?_, ?_, h.positions⟩
  · intro m hm
    rw [hget]
    split_ifs
    · rintro ⟨⟩
    · exact h.requested m hm
  · intro r₁ hr₁ r₂ hr₂ hp₁ hp₂ hscope
    rw [Table.rows_insert? hrequests, List.mem_append, List.mem_singleton] at hr₁ hr₂
    obtain hr₁ | rfl := hr₁
    · obtain hr₂ | rfl := hr₂
      · exact h.single r₁ hr₁ r₂ hr₂ hp₁ hp₂ hscope
      · exact absurd hscope (hfree hp₂ r₁ hr₁ hp₁)
    · obtain hr₂ | rfl := hr₂
      · exact absurd hscope.symm (hfree hp₁ r₂ hr₂ hp₂)
      · rfl
  · intro m hm m' hm' hl hl' href
    exact h.exclusive m hm m' hm' (hholds m hm hl) (hholds m' hm' hl') href

theorem reservationsOf_append {id : String} {es : List Reservation}
    (hrows : x'.reservations.rows = x.reservations.rows ++ es) (id' : String)
    (hes : ∀ m ∈ es, m.requestId = id) :
    x'.reservationsOf id' = x.reservationsOf id' ++ if id' = id then es else [] := by
  unfold reservationsOf
  rw [hrows, List.filter_append]
  congr 1
  split_ifs with hid
  · exact List.filter_eq_self.mpr fun m hm => decide_eq_true ((hes m hm).trans hid.symm)
  · exact List.filter_eq_nil_iff.mpr fun m hm hc =>
      hid ((of_decide_eq_true hc).symm.trans (hes m hm))

theorem mem_reservationsOf {id : String} :
    m ∈ x.reservationsOf id ↔ m ∈ x.reservations.rows ∧ m.requestId = id := by
  rw [reservationsOf, List.mem_filter, decide_eq_true_eq]

/-- A reservation that succeeds goes on after the ones of the request that are there. -/
theorem Sound.position_eq (h : Sound x) {id : String}
    (hreserve : Inbox.reserve id rows position x = .ok x')
    (hposition : position ≤ (x.reservationsOf id).length) :
    rows = [] ∨ position = (x.reservationsOf id).length := by
  cases rows with
  | nil => exact .inl rfl
  | cons b rows =>
    refine .inr (hposition.antisymm (Nat.le_of_not_lt fun hlt => ?_))
    have hmem : position ∈ (x.reservationsOf id).map Reservation.position := by
      rw [h.positions]
      exact List.mem_range.mpr hlt
    obtain ⟨m, hm, hpos⟩ := List.mem_map.mp hmem
    obtain ⟨hm, hid⟩ := mem_reservationsOf.mp hm
    have hnodup := x'.reservations.nodup
    rw [(reserve_ok hreserve).1, newReservations_cons, List.map_append, List.map_cons,
      List.nodup_append] at hnodup
    refine hnodup.2.2 _ (List.mem_map_of_mem hm) _ List.mem_cons_self ?_
    exact Prod.ext hid hpos

/-- Attachments are reserved for a request that no other live request holds. -/
theorem Sound.reserve (h : Sound x) {id : String} (hreserve : reserve id rows position x = .ok x')
    (hid : x.requests.get? id ≠ none)
    (hfree : ∀ b ∈ rows, ∀ m ∈ x.reservations.rows, m.attachmentRef = b.attachmentRef → x.holds m →
      m.requestId = id) (hposition : position ≤ (x.reservationsOf id).length) : Sound x' := by
  obtain ⟨hrows, heq⟩ := reserve_ok hreserve
  have hes : ∀ m ∈ newReservations id rows position, m.requestId = id :=
    fun m hm => (mem_newReservations hm).1
  have hholds : ∀ m, x'.holds m ↔ x.holds m := fun m => by
    rw [heq]
    rfl
  have hmem : ∀ {m}, m ∈ x'.reservations.rows →
      m ∈ x.reservations.rows ∨ m ∈ newReservations id rows position := by
    intro m hm
    rw [hrows] at hm
    exact List.mem_append.mp hm
  refine ⟨?_, ?_, ?_, ?_, ?_, ?_⟩
  · rw [heq]
    exact h.attached
  · rw [heq]
    exact h.digests
  · intro m hm
    rw [heq]
    obtain hm | hm := hmem hm
    · exact h.requested m hm
    · rw [hes m hm]
      exact hid
  · rw [heq]
    exact h.single
  · intro m hm m' hm' hl hl' href
    rw [hholds] at hl hl'
    obtain hm | hm := hmem hm <;> obtain hm' | hm' := hmem hm'
    · exact h.exclusive m hm m' hm' hl hl' href
    · obtain ⟨hid', b, hb, hrefb, -⟩ := mem_newReservations hm'
      exact (hfree b hb m hm (href.trans hrefb) hl).trans hid'.symm
    · obtain ⟨hid', b, hb, hrefb, -⟩ := mem_newReservations hm
      exact hid'.trans (hfree b hb m' hm' (href.symm.trans hrefb) hl').symm
    · rw [hes m hm, hes m' hm']
  · intro id'
    rw [reservationsOf_append hrows id' hes]
    split_ifs with hid'
    · subst hid'
      rw [List.map_append, h.positions, newReservations_positions]
      obtain rfl | rfl := h.position_eq hreserve hposition
      · simp [newReservations]
      · rw [List.length_append, newReservations, List.length_map, List.length_zipIdx,
          List.range_eq_range', List.range_eq_range', ← List.range'_append_1, Nat.zero_add]
    · rw [List.append_nil]
      exact h.positions id'

theorem length_reservedRows (x : Inbox) (id : String) :
    (x.reservedRows id).length ≤ (x.reservationsOf id).length := by
  unfold reservedRows
  exact (List.length_filterMap_le _ _).trans (List.length_insertionSort _ _).le

theorem pendingArchiveRequest_some (h : x.pendingArchiveRequest scope = some r) :
    r ∈ x.requests.rows ∧ r.scope = scope ∧ r.state = .pending := by
  unfold pendingArchiveRequest at h
  have hmem := List.mem_of_mem_head? (Option.mem_def.mpr h)
  rw [(List.perm_insertionSort _ _).mem_iff, List.mem_filter, decide_eq_true_eq] at hmem
  exact hmem

/-- What is available is neither consumed nor expired, and reserved by no live request. -/
theorem mem_availableAttachments (h : b ∈ x.availableAttachments messageId now) :
    b ∈ x.attachmentsOf messageId ∧
      b.consumedAt = none ∧ now < b.expiresAt ∧
        ∀ m ∈ x.reservations.rows, m.attachmentRef = b.attachmentRef → ¬ x.holds m := by
  unfold availableAttachments at h
  rw [List.mem_filter, decide_eq_true_eq] at h
  obtain ⟨hof, hconsumed, hexpires, hreserved⟩ := h
  refine ⟨hof, hconsumed, hexpires, ?_⟩
  rintro m hm href ⟨r, hr, hlive⟩
  refine hreserved (List.any_eq_true.mpr ⟨m, hm, decide_eq_true ⟨href, ?_⟩⟩)
  rw [hr]
  exact hlive

theorem mem_recentGroups {messages : List InboundMessage} {groups : List (List Attachment)}
    (h : b ∈ (x.recentGroups scope expected now messages groups).flatten) :
    b ∈ groups.flatten ∨ ∃ m ∈ messages,
      mediaArchiveScope m.senderId m.userHash m.identityId m.principalId scope.conversation =
        scope ∧ b ∈ x.availableAttachments m.messageId now := by
  induction messages generalizing groups with
  | nil => exact .inl h
  | cons m messages ih =>
    unfold recentGroups at h
    dsimp only at h
    have hrest : ∀ {groups' : List (List Attachment)},
        b ∈ (x.recentGroups scope expected now messages groups').flatten →
        b ∈ groups'.flatten ∨ ∃ m' ∈ m :: messages,
          mediaArchiveScope m'.senderId m'.userHash m'.identityId m'.principalId
            scope.conversation = scope ∧ b ∈ x.availableAttachments m'.messageId now := fun hb =>
      (ih hb).imp_right fun ⟨m', hm', hfound⟩ => ⟨m', List.mem_cons_of_mem _ hm', hfound⟩
    split_ifs at h with hscope _ henough
    · exact hrest h
    · rw [List.flatten_append, List.mem_append, List.flatten_singleton] at h
      exact h.imp_right fun hb => ⟨m, List.mem_cons_self, not_not.mp hscope, hb⟩
    · obtain hb | hfound := hrest h
      · rw [List.flatten_append, List.mem_append, List.flatten_singleton] at hb
        exact hb.imp_right fun hb => ⟨m, List.mem_cons_self, not_not.mp hscope, hb⟩
      · exact .inr hfound
    · exact .inl h
    · exact .inl h
    · exact hrest h

/-- The batch before a message: available attachments of messages of the scope. -/
theorem mem_recentBatch (h : b ∈ x.recentBatch messageId scope expected clock) :
    ∃ m ∈ x.messages.rows, m.conversationKey = scope.conversation ∧
      mediaArchiveScope m.senderId m.userHash m.identityId m.principalId scope.conversation =
        scope ∧ b ∈ x.availableAttachments m.messageId clock.now := by
  unfold recentBatch at h
  dsimp only at h
  split_ifs at h
  · exact absurd h List.not_mem_nil
  · obtain ⟨group, hgroup, hb⟩ := List.mem_flatten.mp h
    obtain hb | ⟨m, hm, hscope, hb⟩ :=
      mem_recentGroups (List.mem_flatten.mpr ⟨group, List.mem_reverse.mp hgroup, hb⟩)
    · exact absurd hb List.not_mem_nil
    · obtain ⟨hm, hrecent⟩ := List.mem_filter.mp (List.mem_of_mem_take hm)
      rw [decide_eq_true_eq] at hrecent
      refine ⟨m, ?_, hrecent.1, hscope, hb⟩
      exact (List.takeWhile_sublist _).subset (List.mem_reverse.mp hm)

/-- The message of a correlation is new: nothing of it is reserved yet. -/
def Untouched (x : Inbox) (messageId : String) : Prop :=
  ∀ b ∈ x.attachmentsOf messageId, ∀ m ∈ x.reservations.rows, m.attachmentRef ≠ b.attachmentRef

theorem Correlation.sound (hc : Correlation x a clock x' c) (h : Sound x)
    (hnew : x.Untouched a.messageId) : Sound x' := by
  have hreserved : ∀ {r : ArchiveRequest} {x₁ : Inbox},
      x.pendingArchiveRequest a.scope = some r → Inbox.reserve r.requestId
        (x.attachmentsOf a.messageId) (x.reservedRows r.requestId).length x = .ok x₁ →
      Sound x₁ := by
    intro r x₁ hr hreserve
    refine h.reserve hreserve ?_ ?_ (length_reservedRows x r.requestId)
    · rw [Table.mem_rows_iff.mp (pendingArchiveRequest_some hr).1]
      exact nofun
    · exact fun b hb m hm href => absurd href (hnew b hb m hm)
  cases hc with
  | kept _ => exact h
  | ended hr hstate _ => exact h.endRequest _ hstate _
  | extended hr hreserve _ => exact hreserved hr hreserve
  | @completed r hr _ x₁ hreserve _ _ _ _ _ =>
    refine (hreserved hr hreserve).updateStates fun r' hr' hid => ⟨rfl, nofun, fun _ => ?_⟩
    obtain ⟨hmem, -, hpending⟩ := pendingArchiveRequest_some hr
    rw [(reserve_ok hreserve).2] at hr'
    have heq := Table.mem_rows_iff.mp hr'
    rw [of_decide_eq_true hid, Table.mem_rows_iff.mp hmem] at heq
    rw [← Option.some.inj heq, hpending]
    rfl
  | registered hx₁ hscope hinsert _ =>
    obtain rfl | ⟨r, hr, rfl⟩ := hx₁
    · exact (h.insertRequest hinsert).1
    · exact ((h.endRequest r.requestId (.inl rfl) clock.now).insertRequest hinsert).1
  | collected _ hinsert hreserve _ _ =>
    obtain ⟨hs, heq, hnone, hget⟩ := h.insertRequest hinsert
    refine hs.reserve hreserve ?_ ?_ (Nat.zero_le _)
    · rw [hget, if_pos rfl]
      exact nofun
    · intro b hb m hm href hholds
      obtain ⟨_, -, -, -, hb⟩ := mem_recentBatch hb
      rw [heq] at hm
      refine absurd ?_ ((mem_availableAttachments hb).2.2.2 m hm href)
      obtain ⟨r', hr', hlive⟩ := hholds
      rw [hget] at hr'
      split_ifs at hr' with hid
      · exact absurd (hid ▸ hnone) (h.requested m hm)
      · exact ⟨r', hr', hlive⟩

/-! ## Messages -/

/-- A message that is new comes with its attachments. -/
theorem storeMedia_ok {a : StoredMessage} {clock : StoreClock} {n : ℕ}
    {media : List (MediaSpec × List UInt8)} (h : storeMedia a clock n media x = .ok x') :
    ∃ attachments spool, x' = { x with attachments := attachments, spool := spool } ∧
      ∃ es : List Attachment, attachments.rows = x.attachments.rows ++ es ∧
        es.length = media.length ∧ (∀ b ∈ es, b.messageId = a.messageId ∧ b.consumedAt = none ∧
          (∃ content, b.sha256 = String.ofList (sha256Chars content)) ∧
          ∃ k < n + media.length, b.attachmentRef = clock.reference k ∧
            b.expiresAt = clock.expiresAt k) := by
  induction media generalizing n x with
  | nil =>
    cases h
    exact ⟨_, _, rfl, [], (List.append_nil _).symm, rfl, fun _ hb => absurd hb List.not_mem_nil⟩
  | cons spec media ih =>
    obtain ⟨spec, content⟩ := spec
    simp only [storeMedia, bind_eq_ok, orRaise_eq_ok] at h
    obtain ⟨attachments, hinsert, h⟩ := h
    obtain ⟨attachments', spool', rfl, es, hrows, hlength, hes⟩ := ih h
    refine ⟨attachments', spool', rfl, a.attachment clock n spec content :: es, ?_,
      congrArg Nat.succ hlength, ?_⟩
    · rw [hrows, Table.rows_insert? hinsert, List.append_assoc]
      rfl
    · intro b hb
      obtain rfl | hb := List.mem_cons.mp hb
      · exact ⟨rfl, rfl, ⟨content, rfl⟩, n, by simp, rfl, rfl⟩
      · obtain ⟨hid, hconsumed, hdigest, k, hk, hfields⟩ := hes b hb
        refine ⟨hid, hconsumed, hdigest, k, ?_, hfields⟩
        rw [List.length_cons]
        omega

/-- The random references of new attachments are not those of earlier ones. -/
def NewReferences (x : Inbox) : InboxStep → Prop
  | .store _ a clock => ∀ k < a.media.length, ∀ m ∈ x.reservations.rows,
      m.attachmentRef ≠ clock.reference k
  | _ => True

theorem Sound.setMessages (h : Sound x) {messages : Table InboundMessage.messageId}
    (hmessages : ∀ id, x.messages.get? id ≠ none → messages.get? id ≠ none) :
    Sound { x with messages := messages } :=
  ⟨fun b hb => hmessages _ (h.attached b hb), h.digests, h.requested, h.single, h.exclusive,
    h.positions⟩

theorem Sound.updateMessages (h : Sound x) :
    Sound { x with messages := x.messages.updateWhere p f hf } := by
  refine h.setMessages fun id hid => ?_
  rw [Table.get?_updateWhere]
  exact fun hn => hid (Option.map_eq_none_iff.mp hn)

theorem Sound.setAttachments (h : Sound x) {attachments : Table Attachment.attachmentRef}
    {spool : Table SpoolFile.name} (hattachments : ∀ b ∈ attachments.rows,
      ∃ b₀ ∈ x.attachments.rows, b.messageId = b₀.messageId ∧ b.sha256 = b₀.sha256) :
    Sound { x with attachments := attachments, spool := spool } where
  attached := by
    intro b hb
    obtain ⟨b₀, hb₀, hid, -⟩ := hattachments b hb
    rw [hid]
    exact h.attached b₀ hb₀
  digests := by
    intro b hb
    obtain ⟨b₀, hb₀, -, hdigest⟩ := hattachments b hb
    rw [hdigest]
    exact h.digests b₀ hb₀
  requested := h.requested
  single := h.single
  exclusive := h.exclusive
  positions := h.positions

theorem Sound.updateAttachments (h : Sound x) {p : Attachment → Bool} :
    Sound { x with attachments := x.attachments.updateWhere p fun b =>
      { b with consumedAt := some now } } := by
  refine h.setAttachments fun b hb => ?_
  obtain ⟨b₀, hb₀, rfl⟩ := List.mem_map.mp hb
  refine ⟨b₀, hb₀, ?_⟩
  split_ifs <;> exact ⟨rfl, rfl⟩

/-- A digest in hex is not marked as one. -/
theorem hex_unmarked (content : List UInt8) :
    ¬ "sha256:".toList <+: (String.ofList (sha256Chars content)).toList := by
  intro hprefix
  have hmem : 's' ∈ (String.ofList (sha256Chars content)).toList :=
    hprefix.subset List.mem_cons_self
  rw [String.toList_ofList] at hmem
  have hhex := List.all_eq_true.mp (sha256Chars_isLowerHex content) 's' hmem
  exact absurd hhex (by decide)

/-- The inbox of a new message before its correlation. -/
theorem Sound.storeMedia (h : Sound x) {a : StoredMessage} {clock : StoreClock}
    (hrefs : ∀ k < a.media.length, ∀ m ∈ x.reservations.rows, m.attachmentRef ≠ clock.reference k)
    (hinsert : x.insertMessage (a.row clock.now) = .ok x₁)
    (hmedia : storeMedia a clock 0 a.media x₁ = .ok x₂) :
    Sound x₂ ∧ x₂.Untouched a.messageId ∧ x₂.requests = x.requests ∧
      x₂.reservations = x.reservations := by
  simp only [insertMessage, bind_eq_ok, ensure_eq_ok, orRaise_eq_ok, pure_eq_ok] at hinsert
  obtain ⟨_, _, messages, hmessages, rfl⟩ := hinsert
  have hget := Table.get?_insert? hmessages
  have hnew : x.messages.get? a.messageId = none := Table.get?_of_insert? hmessages
  have hrow : messages.get? a.messageId ≠ none := by
    rw [hget a.messageId, if_pos (show a.messageId = (a.row clock.now).messageId from rfl)]
    rintro ⟨⟩
  have hs : Sound { x with messages := messages } := by
    refine h.setMessages fun id hid => ?_
    rw [hget]
    split_ifs
    · rintro ⟨⟩
    · exact hid
  obtain ⟨attachments, spool, rfl, es, hrows, -, hes⟩ := storeMedia_ok hmedia
  dsimp only at hrows
  refine ⟨⟨?_, ?_, hs.requested, hs.single, hs.exclusive, hs.positions⟩, ?_, rfl, rfl⟩
  · intro b hb
    rw [hrows, List.mem_append] at hb
    obtain hb | hb := hb
    · exact hs.attached b hb
    · rw [(hes b hb).1]
      exact hrow
  · intro b hb
    rw [hrows, List.mem_append] at hb
    obtain hb | hb := hb
    · exact hs.digests b hb
    · obtain ⟨-, -, ⟨content, hdigest⟩, -⟩ := hes b hb
      rw [hdigest]
      exact hex_unmarked content
  · intro b hb m hm href
    obtain ⟨hb, hid⟩ := List.mem_filter.mp hb
    rw [decide_eq_true_eq] at hid
    rw [hrows, List.mem_append] at hb
    obtain hb | hb := hb
    · exact h.attached b hb (hid ▸ hnew)
    · obtain ⟨-, -, -, k, hk, hreference, -⟩ := hes b hb
      rw [Nat.zero_add] at hk
      exact hrefs k hk m hm (href.trans hreference)

/-- The message as the correlation gets it. -/
def arrived (a : StoredMessage) (clock : StoreClock) : Arrived :=
  ⟨a.messageId, a.senderId, a.conversationKey, a.text,
    a.media.zipIdx.map fun ((spec, content), n) => StoredMessage.document clock n spec content,
    a.userDigest, a.identityId, a.principalId⟩

/-- The row that a call finds. -/
def storedRow (x : Inbox) (a : StoredMessage) : Option InboundMessage :=
  (a.identityId.bind fun i => a.upstreamMessageId.bind (x.routed i)) <|>
    x.messages.get? a.messageId

/-- The parts of a message that is stored. -/
theorem storeMessage_ok {a : StoredMessage} {clock : StoreClock}
    (h : x.storeMessage g a clock = .ok x') : x' = x ∨
      ∃ x₁ x₂ x₃ c, x.storedRow a = none ∧ x.insertMessage (a.row clock.now) = .ok x₁ ∧
        Inbox.storeMedia a clock 0 a.media x₁ = .ok x₂ ∧
        x₂.correlateMediaArchive (arrived a clock) clock.archive = .ok (x₃, c) ∧
        x' = { x₃ with messages := x₃.messages.update a.messageId fun m => { m with
          attachments := c.documents, archiveContext := c.context, updatedAt := clock.now } } := by
  simp only [storeMessage, bind_eq_ok] at h
  obtain ⟨_, _, _, _, h⟩ := h
  split at h
  · cases h
    exact .inl rfl
  · rename_i hfound
    simp only [addMessage, bind_eq_ok, pure_eq_ok] at h
    obtain ⟨x₁, hinsert, x₂, hmedia, ⟨x₃, c⟩, hcorrelate, rfl⟩ := h
    exact .inr ⟨x₁, x₂, x₃, c, hfound, hinsert, hmedia, hcorrelate, rfl⟩

theorem Sound.storeMessage (h : Sound x) {a : StoredMessage} {clock : StoreClock}
    (hrefs : NewReferences x (.store g a clock)) (hs : x.storeMessage g a clock = .ok x') :
    Sound x' := by
  obtain rfl | ⟨x₁, x₂, x₃, c, -, hinsert, hmedia, hcorrelate, rfl⟩ := storeMessage_ok hs
  · exact h
  · obtain ⟨hs₂, huntouched, -, -⟩ := h.storeMedia hrefs hinsert hmedia
    have hs₃ : Sound x₃ := (correlateMediaArchive_ok hcorrelate).sound
      (hs₂.expire clock.archive.now) huntouched
    exact hs₃.updateMessages

theorem step_sound (h : Sound x) (he : NewReferences x e) : Sound (x.step e) := by
  cases e with
  | store g a clock =>
    unfold step
    dsimp only
    split
    · rename_i x' hs
      exact h.storeMessage he hs
    · exact h
  | acknowledge reference sha256 now => exact h.updateAttachments
  | consume reference now => exact h.updateAttachments
  | cleanup now =>
    refine h.setAttachments fun b hb => ⟨b, ?_, rfl, rfl⟩
    exact (List.filter_sublist).subset hb
  | submit messageId now => exact h.updateMessages
  | finish messageId success now =>
    have hmessages : Sound { x with messages := x.messages.update messageId fun m =>
        { m with state := if success then .completed else .failed, updatedAt := now } } :=
      h.updateMessages
    refine hmessages.updateStates ?_
    intro r _ hr
    have hbound : r.state = .bound := (of_decide_eq_true hr).2
    refine ⟨rfl, fun hp => ?_, fun _ => ?_⟩
    · cases success <;> cases hp
    · rw [hbound]
      rfl
  | adopt senderId identityId principalId =>
    show Sound (x.adoptMessages senderId identityId principalId)
    unfold adoptMessages
    dsimp only
    split_ifs
    · exact h.updateMessages
    · exact h
  | backfill senderId userHash => exact h.updateMessages

/-! ## Scopes -/

/-- The scope that the row of a message has. -/
def messageScope (m : InboundMessage) : ArchiveScope :=
  mediaArchiveScope m.senderId m.userHash m.identityId m.principalId m.conversationKey

/-- The attachment of the reservation came in a message of the scope of its request. -/
def ReceivedInScope (x : Inbox) (m : Reservation) : Prop :=
  ∃ r b message, x.requests.get? m.requestId = some r ∧
    x.attachments.get? m.attachmentRef = some b ∧ x.messages.get? b.messageId = some message ∧
    m.messageId = b.messageId ∧ messageScope message = r.scope

/-- Reservations and the scopes of requests stay. -/
structure Extends (x x' : Inbox) : Prop where
  reservations : ∀ m ∈ x.reservations.rows, m ∈ x'.reservations.rows
  scopes : ∀ id r, x.requests.get? id = some r →
    ∃ r', x'.requests.get? id = some r' ∧ r'.scope = r.scope

theorem Extends.refl (x : Inbox) : Extends x x := ⟨fun _ hm => hm, fun _ r hr => ⟨r, hr, rfl⟩⟩

theorem Extends.trans (h : Extends x x₁) (h' : Extends x₁ x') : Extends x x' where
  reservations := fun m hm => h'.reservations m (h.reservations m hm)
  scopes := by
    intro id r hr
    obtain ⟨r₁, hr₁, hscope₁⟩ := h.scopes id r hr
    obtain ⟨r₂, hr₂, hscope₂⟩ := h'.scopes id r₁ hr₁
    exact ⟨r₂, hr₂, hscope₂.trans hscope₁⟩

theorem Extends.of_eq (hreservations : x'.reservations = x.reservations)
    (hrequests : x'.requests = x.requests) : Extends x x' where
  reservations := by
    rw [hreservations]
    exact fun _ hm => hm
  scopes := by
    rw [hrequests]
    exact fun _ r hr => ⟨r, hr, rfl⟩

theorem Extends.updateRequests (x : Inbox) {p : ArchiveRequest → Bool}
    {f : ArchiveRequest → ArchiveRequest} {hf : ∀ r, (f r).requestId = r.requestId}
    (hscope : ∀ r, (f r).scope = r.scope) :
    Extends x { x with requests := x.requests.updateWhere p f hf } where
  reservations := fun _ hm => hm
  scopes := by
    intro id r hr
    refine ⟨if p r then f r else r, ?_, ?_⟩
    · rw [Table.get?_updateWhere, hr]
      rfl
    · split_ifs
      · exact hscope r
      · rfl

theorem Extends.reserve {id : String} (h : Inbox.reserve id rows position x = .ok x') :
    Extends x x' := by
  obtain ⟨hrows, heq⟩ := reserve_ok h
  refine ⟨fun m hm => ?_, fun _ r hr => ⟨r, ?_, rfl⟩⟩
  · rw [hrows]
    exact List.mem_append_left _ hm
  · rw [heq]
    exact hr

theorem Extends.insertRequest (h : x.insertArchiveRequest r = .ok x') : Extends x x' := by
  simp only [insertArchiveRequest, bind_eq_ok, orRaise_eq_ok, pure_eq_ok] at h
  obtain ⟨_, _, requests, hrequests, rfl⟩ := h
  exact ⟨fun _ hm => hm, fun _ r' hr' => ⟨r', Table.get?_insert?_of_get? hrequests hr', rfl⟩⟩

theorem Correlation.extends (hc : Correlation x a clock x' c) : Extends x x' := by
  cases hc with
  | kept _ => exact .refl x
  | ended _ _ _ => exact .updateRequests x fun _ => rfl
  | extended _ hreserve _ => exact .reserve hreserve
  | completed _ _ hreserve _ _ _ =>
    exact (Extends.reserve hreserve).trans (.updateRequests _ fun _ => rfl)
  | registered hx₁ _ hinsert _ =>
    obtain rfl | ⟨r, -, rfl⟩ := hx₁
    · exact .insertRequest hinsert
    · have hended : Extends x (x.endArchiveRequest r.requestId .cancelled clock.now) :=
        .updateRequests x fun _ => rfl
      exact hended.trans (.insertRequest hinsert)
  | collected _ hinsert hreserve _ _ =>
    exact (Extends.insertRequest hinsert).trans (.reserve hreserve)

/-- A correlation leaves messages and attachments alone. -/
theorem Correlation.tables (hc : Correlation x a clock x' c) :
    x'.messages = x.messages ∧ x'.attachments = x.attachments := by
  have hinserted : ∀ {x x' : Inbox} {r : ArchiveRequest}, x.insertArchiveRequest r = .ok x' →
      x'.messages = x.messages ∧ x'.attachments = x.attachments := by
    intro x x' r h
    simp only [insertArchiveRequest, bind_eq_ok, pure_eq_ok] at h
    obtain ⟨_, _, _, _, rfl⟩ := h
    exact ⟨rfl, rfl⟩
  cases hc with
  | kept _ => exact ⟨rfl, rfl⟩
  | ended _ _ _ => exact ⟨rfl, rfl⟩
  | extended _ hreserve _ =>
    rw [(reserve_ok hreserve).2]
    exact ⟨rfl, rfl⟩
  | completed _ _ hreserve _ _ _ =>
    rw [(reserve_ok hreserve).2]
    exact ⟨rfl, rfl⟩
  | registered hx₁ _ hinsert _ =>
    obtain rfl | ⟨r, -, rfl⟩ := hx₁
    · exact hinserted hinsert
    · obtain ⟨hmessages, hattachments⟩ := hinserted hinsert
      exact ⟨hmessages, hattachments⟩
  | collected _ hinsert hreserve _ _ =>
    obtain ⟨hmessages, hattachments⟩ := hinserted hinsert
    rw [(reserve_ok hreserve).2]
    exact ⟨hmessages, hattachments⟩

/-- What a correlation reserves came in messages of the scope. -/
theorem Correlation.inScope (hc : Correlation x a clock x' c)
    (hmessage : x.messages.get? a.messageId = some message)
    (hscope : messageScope message = a.scope) (hm : m ∈ x'.reservations.rows)
    (hnew : m ∉ x.reservations.rows) : ReceivedInScope x' m := by
  obtain ⟨hmessages, hattachments⟩ := hc.tables
  have hcurrent : ∀ {r : ArchiveRequest} {position : ℕ}, r.scope = a.scope →
      (∃ r', x'.requests.get? r.requestId = some r' ∧ r'.scope = r.scope) →
      m ∈ newReservations r.requestId (x.attachmentsOf a.messageId) position →
      ReceivedInScope x' m := by
    rintro r position hrscope ⟨r', hr', hscope'⟩ hmem
    obtain ⟨hid, b, hb, href, hbid, -⟩ := mem_newReservations hmem
    obtain ⟨hb, hbm⟩ := List.mem_filter.mp hb
    rw [decide_eq_true_eq] at hbm
    refine ⟨r', b, message, hid ▸ hr', ?_, ?_, hbid, ?_⟩
    · rw [hattachments, href]
      exact Table.mem_rows_iff.mp hb
    · rw [hmessages, hbm]
      exact hmessage
    · rw [hscope, hscope', hrscope]
  have hextends := hc.extends
  cases hc with
  | kept _ => exact absurd hm hnew
  | ended _ _ _ => exact absurd hm hnew
  | extended hr hreserve _ =>
    obtain ⟨hmem, hrscope, -⟩ := pendingArchiveRequest_some hr
    rw [(reserve_ok hreserve).1] at hm
    exact hcurrent hrscope (hextends.scopes _ _ (Table.mem_rows_iff.mp hmem))
      ((List.mem_append.mp hm).resolve_left hnew)
  | completed hr _ hreserve _ _ _ =>
    obtain ⟨hmem, hrscope, -⟩ := pendingArchiveRequest_some hr
    dsimp only at hm
    rw [(reserve_ok hreserve).1] at hm
    exact hcurrent hrscope (hextends.scopes _ _ (Table.mem_rows_iff.mp hmem))
      ((List.mem_append.mp hm).resolve_left hnew)
  | registered hx₁ _ hinsert _ =>
    have hkept : ∀ {x x' : Inbox} {r : ArchiveRequest}, x.insertArchiveRequest r = .ok x' →
        x'.reservations = x.reservations := by
      intro x x' r h
      simp only [insertArchiveRequest, bind_eq_ok, pure_eq_ok] at h
      obtain ⟨_, _, _, _, rfl⟩ := h
      rfl
    rw [hkept hinsert] at hm
    obtain rfl | ⟨r, -, rfl⟩ := hx₁
    · exact absurd hm hnew
    · exact absurd hm hnew
  | @collected expected key r hrequest x₁ hinsert _ hreserve _ _ _ =>
    obtain ⟨hrows, heq⟩ := reserve_ok hreserve
    simp only [insertArchiveRequest, bind_eq_ok, orRaise_eq_ok, pure_eq_ok] at hinsert
    obtain ⟨_, _, requests, hrequests, rfl⟩ := hinsert
    rw [hrows] at hm
    obtain ⟨hid, b, hb, href, hbid, -⟩ :=
      mem_newReservations ((List.mem_append.mp hm).resolve_left hnew)
    obtain ⟨received, hreceived, hconversation, hbscope, hb⟩ := mem_recentBatch hb
    obtain ⟨hb, hbm⟩ := List.mem_filter.mp (mem_availableAttachments hb).1
    rw [decide_eq_true_eq] at hbm
    refine ⟨r, b, received, ?_, ?_, ?_, hbid, ?_⟩
    · rw [heq, hid, Table.get?_insert? hrequests, if_pos rfl]
    · rw [hattachments, href]
      exact Table.mem_rows_iff.mp hb
    · rw [hmessages, hbm]
      exact Table.mem_rows_iff.mp hreceived
    · rw [messageScope, hconversation, hbscope, hrequest.1]

/-- What a correlation authorizes is reserved by a request of the scope that is bound to the
    message. -/
def Authorizes (x : Inbox) (messageId : String) (scope : ArchiveScope)
    (documents : List AttachmentDocument) : Prop :=
  ∃ r ∈ x.requests.rows, r.state = .bound ∧ r.boundMessageId = some messageId ∧ r.scope = scope ∧
    ∀ d ∈ documents, ∃ m ∈ x.reservations.rows, m.requestId = r.requestId ∧
      m.attachmentRef = d.attachmentRef

theorem mem_reservedRows {id : String} (h : (m, b) ∈ x.reservedRows id) :
    m ∈ x.reservations.rows ∧ m.requestId = id ∧
      x.attachments.get? m.attachmentRef = some b := by
  unfold reservedRows at h
  obtain ⟨m', hm', hb⟩ := List.mem_filterMap.mp h
  rw [(List.perm_insertionSort _ _).mem_iff, List.mem_filter, decide_eq_true_eq] at hm'
  obtain ⟨b', hb', heq⟩ := Option.map_eq_some_iff.mp hb
  cases heq
  exact ⟨hm'.1, hm'.2, hb'⟩

theorem Correlation.authorizes (hc : Correlation x a clock x' c) (hcontext : context ∈ c.context)
    (hstatus : context.status = .authorized) : x'.Authorizes a.messageId a.scope c.documents := by
  cases hc with
  | kept hd => exact absurd hstatus (hd _ hcontext)
  | ended _ _ hd => exact absurd hstatus (hd _ hcontext)
  | extended _ _ hd => exact absurd hstatus (hd _ hcontext)
  | @completed r hr _ x₁ hreserve _ _ key _ hc =>
    subst hc
    obtain ⟨hmem, hrscope, -⟩ := pendingArchiveRequest_some hr
    obtain ⟨-, heq⟩ := reserve_ok hreserve
    have hget : x₁.requests.get? r.requestId = some r := by
      rw [heq]
      exact Table.mem_rows_iff.mp hmem
    have hbound := Table.get?_update_of_get? hget (fun r => { r with
      state := .bound, boundMessageId := some a.messageId, idempotencyScope := some key,
      updatedAt := clock.now }) (by intro _; rfl)
    refine ⟨_, Table.mem_of_get? hbound, rfl, rfl, hrscope, ?_⟩
    · intro d hd
      obtain ⟨⟨m, b⟩, hmb, rfl⟩ := List.mem_map.mp hd
      obtain ⟨hm, hid, hb⟩ := mem_reservedRows hmb
      exact ⟨m, hm, hid, (Table.key_of_get? hb).symm⟩
  | registered _ _ _ hd => exact absurd hstatus (hd _ hcontext)
  | @collected expected key r hrequest x₁ hinsert _ hreserve _ _ hc =>
    subst hc
    obtain ⟨hrscope, hbound, hid⟩ := hrequest
    obtain ⟨hrows, heq⟩ := reserve_ok hreserve
    simp only [insertArchiveRequest, bind_eq_ok, orRaise_eq_ok, pure_eq_ok] at hinsert
    obtain ⟨_, _, requests, hrequests, rfl⟩ := hinsert
    refine ⟨r, ?_, hbound, hid, hrscope, ?_⟩
    · rw [heq, Table.rows_insert? hrequests]
      exact List.mem_append_right _ (List.mem_singleton.mpr rfl)
    · intro d hd
      obtain ⟨b, hb, rfl⟩ := List.mem_map.mp hd
      have href := List.mem_map_of_mem (f := Attachment.attachmentRef) hb
      rw [← newReservations_refs r.requestId _ 0] at href
      obtain ⟨m, hm, hmref⟩ := List.mem_map.mp href
      refine ⟨m, ?_, (mem_newReservations hm).1, hmref⟩
      rw [hrows]
      exact List.mem_append_right _ hm

/-! ## Isolation -/

/-- A scope has one pending request. -/
def OnePending (x : Inbox) : Prop :=
  ∀ r ∈ x.requests.rows, ∀ r' ∈ x.requests.rows, r.state = .pending → r'.state = .pending →
    r.scope = r'.scope → r.requestId = r'.requestId

/-- An attachment belongs to one request that is pending, bound or completed. -/
def OneHolder (x : Inbox) : Prop :=
  ∀ m ∈ x.reservations.rows, ∀ m' ∈ x.reservations.rows, x.holds m → x.holds m' →
    m.attachmentRef = m'.attachmentRef → m.requestId = m'.requestId

/-- Reservations and the scopes of requests stay, the attachments that a step reserves came in
    messages of the scope of their request, and what it authorizes for a new message is reserved by
    a request of the scope of that message. -/
structure Isolates (x : Inbox) (e : InboxStep) : Prop where
  stays : Extends x (x.step e)
  received : ∀ m ∈ (x.step e).reservations.rows, m ∉ x.reservations.rows →
    ReceivedInScope (x.step e) m
  authorized : ∀ message ∈ (x.step e).messages.rows, x.messages.get? message.messageId = none →
    ∀ context ∈ message.archiveContext, context.status = .authorized →
      (x.step e).Authorizes message.messageId (messageScope message) message.attachments

/-- A step that adds neither messages nor reservations. -/
theorem Isolates.of_same (hstays : Extends x (x.step e))
    (hreservations : (x.step e).reservations = x.reservations)
    (hmessages : ∀ message ∈ (x.step e).messages.rows, x.messages.get? message.messageId ≠ none) :
    Isolates x e where
  stays := hstays
  received := by
    intro m hm hnew
    rw [hreservations] at hm
    exact absurd hm hnew
  authorized := fun message hmessage hnone => absurd hnone (hmessages message hmessage)

theorem get?_of_mem (h : message ∈ x.messages.rows) : x.messages.get? message.messageId ≠ none := by
  rw [Table.mem_rows_iff.mp h]
  exact nofun

theorem get?_of_mem_updateWhere (hf : ∀ m, (f m).messageId = m.messageId)
    (h : message ∈ (x.messages.updateWhere p f hf).rows) :
    x.messages.get? message.messageId ≠ none := by
  obtain ⟨m₀, hm₀, -⟩ := Table.get?_updateWhere_eq_some.mp (Table.mem_rows_iff.mp h)
  rw [hm₀]
  exact nofun

theorem ReceivedInScope.updateMessages (h : ReceivedInScope x m)
    (hscope : ∀ message, messageScope (f message) = messageScope message) :
    ReceivedInScope { x with messages := x.messages.updateWhere p f hf } m := by
  obtain ⟨r, b, message, hr, hb, hmessage, hid, heq⟩ := h
  refine ⟨r, b, if p message then f message else message, hr, hb, ?_, hid, ?_⟩
  · rw [Table.get?_updateWhere, hmessage]
    rfl
  · split_ifs
    · rw [hscope, heq]
    · exact heq

/-- The row of a message after its correlation. -/
theorem stored_messages {a : StoredMessage} {clock : StoreClock}
    (hinsert : x.insertMessage (a.row clock.now) = .ok x₁)
    (hmedia : storeMedia a clock 0 a.media x₁ = .ok x₂)
    (hcorrelate : x₂.correlateMediaArchive (arrived a clock) clock.archive = .ok (x₃, c))
    (id : String) : x₃.messages.get? id =
      if id = a.messageId then some (a.row clock.now) else x.messages.get? id := by
  have hmessages : x₃.messages = x₁.messages := by
    obtain ⟨attachments, spool, rfl, -⟩ := storeMedia_ok hmedia
    exact (correlateMediaArchive_ok hcorrelate).tables.1
  rw [hmessages]
  simp only [insertMessage, bind_eq_ok, orRaise_eq_ok, pure_eq_ok] at hinsert
  obtain ⟨_, _, messages, hinserted, rfl⟩ := hinsert
  exact Table.get?_insert? hinserted id

/-- A message that is stored. -/
theorem isolates_stored {a : StoredMessage} {clock : StoreClock} {c : Correlated}
    (hinsert : x.insertMessage (a.row clock.now) = .ok x₁)
    (hmedia : storeMedia a clock 0 a.media x₁ = .ok x₂)
    (hcorrelate : x₂.correlateMediaArchive (arrived a clock) clock.archive = .ok (x₃, c))
    (hstep : x.step (.store g a clock) =
      { x₃ with messages := x₃.messages.update a.messageId fun m => { m with
          attachments := c.documents, archiveContext := c.context, updatedAt := clock.now } }) :
    Isolates x (.store g a clock) := by
  have hc := correlateMediaArchive_ok hcorrelate
  have hget := stored_messages hinsert hmedia hcorrelate
  obtain ⟨hreservations, hrequests⟩ : x₂.reservations = x.reservations ∧
      x₂.requests = x.requests := by
    obtain ⟨attachments, spool, rfl, -⟩ := storeMedia_ok hmedia
    simp only [insertMessage, bind_eq_ok, pure_eq_ok] at hinsert
    obtain ⟨_, _, _, _, rfl⟩ := hinsert
    exact ⟨rfl, rfl⟩
  refine ⟨?_, ?_, ?_⟩ <;> rw [hstep]
  · have hexpired : Extends x₂ (x₂.expireArchiveRequests clock.archive.now) :=
      .updateRequests x₂ fun _ => rfl
    exact (Extends.of_eq hreservations hrequests).trans (hexpired.trans (hc.extends.trans
      (.of_eq rfl rfl)))
  · intro m hm hnew
    have hrow : (x₂.expireArchiveRequests clock.archive.now).messages.get? a.messageId =
        some (a.row clock.now) := by
      rw [← hc.tables.1, hget, if_pos rfl]
    rw [← hreservations] at hnew
    exact (hc.inScope hrow rfl hm hnew).updateMessages fun _ => rfl
  · intro message hmessage hnone context hcontext hstatus
    dsimp only at hmessage
    obtain ⟨m₀, hm₀, hm⟩ := Table.get?_update_eq_some.mp (Table.mem_rows_iff.mp hmessage)
    rw [hget] at hm₀
    by_cases hid : message.messageId = a.messageId
    · rw [if_pos hid] at hm hm₀
      subst hm
      obtain rfl := Option.some.inj hm₀
      exact hc.authorizes hcontext hstatus
    · rw [if_neg hid, hnone] at hm₀
      cases hm₀

theorem isolates_store {a : StoredMessage} {clock : StoreClock} :
    Isolates x (.store g a clock) := by
  have hkept : x.step (.store g a clock) = x → Isolates x (.store g a clock) := by
    intro h
    refine .of_same ?_ (by rw [h]) (by rw [h]; exact fun _ => get?_of_mem)
    rw [h]
    exact .refl x
  cases hs : x.storeMessage g a clock with
  | error e => exact hkept (by simp only [step, hs])
  | ok x' =>
    have hstep : x.step (.store g a clock) = x' := by simp only [step, hs]
    obtain rfl | ⟨x₁, x₂, x₃, c, -, hinsert, hmedia, hcorrelate, rfl⟩ := storeMessage_ok hs
    · exact hkept hstep
    · exact isolates_stored hinsert hmedia hcorrelate hstep

/-- Every step isolates. -/
theorem step_isolates (x : Inbox) (e : InboxStep) : Isolates x e := by
  cases e with
  | store g a clock => exact isolates_store
  | acknowledge reference sha256 now => exact .of_same (.of_eq rfl rfl) rfl fun _ => get?_of_mem
  | consume reference now => exact .of_same (.of_eq rfl rfl) rfl fun _ => get?_of_mem
  | cleanup now => exact .of_same (.of_eq rfl rfl) rfl fun _ => get?_of_mem
  | submit messageId now =>
    exact .of_same (.of_eq rfl rfl) rfl fun _ h =>
      get?_of_mem_updateWhere (by intro _; rfl) h
  | finish messageId success now =>
    have hstays : Extends x (x.step (.finish messageId success now)) :=
      (Extends.updateRequests x (by intro _; rfl)).trans (.of_eq rfl rfl)
    exact .of_same hstays rfl fun _ h => get?_of_mem_updateWhere (by intro _; rfl) h
  | adopt senderId identityId principalId =>
    have hadopt : Extends x (x.adoptMessages senderId identityId principalId) ∧
        (x.adoptMessages senderId identityId principalId).reservations = x.reservations ∧
        ∀ message ∈ (x.adoptMessages senderId identityId principalId).messages.rows,
          x.messages.get? message.messageId ≠ none := by
      unfold adoptMessages
      dsimp only
      split_ifs
      · exact ⟨.of_eq rfl rfl, rfl, fun _ h => get?_of_mem_updateWhere (by intro _; rfl) h⟩
      · exact ⟨.refl x, rfl, fun _ => get?_of_mem⟩
    exact .of_same hadopt.1 hadopt.2.1 hadopt.2.2
  | backfill senderId userHash =>
    exact .of_same (.of_eq rfl rfl) rfl fun _ h => get?_of_mem_updateWhere (by intro _; rfl) h

/-- In every run an attachment belongs to one request that was not given up, a scope has one pending
    request, and what is reserved or authorized was received in a message of the scope. -/
theorem archive_isolated (es : List InboxStep) (hrefs : EveryStep step NewReferences new es) :
    Throughout step (fun x => OneHolder x ∧ OnePending x) new es ∧
      EveryStep step Isolates new es :=
  ⟨(throughout_of_everyStep step (fun _ _ => step_sound) sound_new hrefs).imp step
      fun _ h => ⟨h.exclusive, h.single⟩,
    everyStep_true step step_isolates new es⟩

/-- A photo, and the message that archives it. -/
def archived : List InboxStep :=
  let photo : StoredMessage := ⟨"message-1", "owner", "chat-1", "",
    [(⟨.image, "a.jpg", "image/jpeg"⟩, [1, 2, 3])], none, .ownerLegacy, none, none, none⟩
  let clock (now : String) (reference : String) : StoreClock :=
    ⟨now, fun k => reference ++ String.ofList (List.replicate k '0'), fun _ => "2026-08-02",
      ⟨now, "2026-07-31", "2026-08-02"⟩⟩
  let store : GatewayStore := ⟨0, .empty, .empty, .empty, .empty, .empty, .empty, .empty⟩
  [.store store photo (clock "2026-08-01T08:00" "ATT-1"),
    .store store { photo with messageId := "message-2", text := "把刚才这张照片归档", media := [] }
      (clock "2026-08-01T08:01" "ATT-2")]

theorem archived_isolated :
    Throughout step (fun x => OneHolder x ∧ OnePending x) new archived ∧
      EveryStep step Isolates new archived :=
  archive_isolated archived ⟨fun _ _ _ hm => absurd hm List.not_mem_nil,
    fun _ hk => absurd hk (Nat.not_lt_zero _), trivial⟩

end Inbox

end HomeAddons.Gateway
