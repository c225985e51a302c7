import HomeAddons.Gateway.Spool

/-!
# Weixin Gateway: what an archive instruction is authorized to take

The controller consumes attachments and the cleaner deletes their rows while a request waits for
more of them, and a request counts what it holds by the rows that are left.

* `archives_soundly`: when no attachment of a waiting request is consumed or deleted before its
  message, the correlation never raises and what it authorizes is fresh, complete and in order.
* `cleanup_blocks`: otherwise a message is not stored.
-/

namespace HomeAddons.Gateway

open HomeAddons.Common

namespace Inbox

variable {x x' : Inbox} {a : Arrived} {clock : ArchiveClock} {c : Correlated}

/-! ## Reservations in order -/

/-- The reservations of a request in the order of their positions. -/
def inOrder (x : Inbox) (requestId : String) : List Reservation :=
  (x.reservationsOf requestId).insertionSort fun m m' => m.position ≤ m'.position

theorem Sound.inOrder_eq (h : Sound x) (id : String) : x.inOrder id = x.reservationsOf id := by
  refine List.Pairwise.insertionSort_eq ?_
  have hsorted : ((x.reservationsOf id).map Reservation.position).Pairwise (· ≤ ·) := by
    rw [h.positions]
    exact List.pairwise_le_range
  exact List.pairwise_map.mp hsorted

/-- Every attachment that the request holds is still there. -/
def Held (x : Inbox) (requestId : String) : Prop :=
  ∀ m ∈ x.reservationsOf requestId, x.attachments.get? m.attachmentRef ≠ none

theorem reservedRows_eq (x : Inbox) (id : String) : x.reservedRows id =
    (x.inOrder id).filterMap fun m => (x.attachments.get? m.attachmentRef).map fun b => (m, b) :=
  rfl

/-- The rows of a request whose attachments are all there. -/
theorem Held.map_reservedRows {id : String} (h : Held x id) :
    (x.reservedRows id).map Prod.fst = x.inOrder id := by
  have hmap : ∀ l : List Reservation, (∀ m ∈ l, x.attachments.get? m.attachmentRef ≠ none) →
      (l.filterMap fun m => (x.attachments.get? m.attachmentRef).map fun b => (m, b)).map
        Prod.fst = l := by
    intro l hl
    induction l with
    | nil => rfl
    | cons m l ih =>
      obtain ⟨b, hb⟩ := Option.ne_none_iff_exists'.mp (hl m List.mem_cons_self)
      rw [List.filterMap_cons, hb]
      exact congrArg (m :: ·) (ih fun m' hm' => hl m' (List.mem_cons_of_mem _ hm'))
  rw [reservedRows_eq]
  exact hmap _ fun m hm => h m ((List.mem_insertionSort _).mp hm)

theorem Held.length_reservedRows {id : String} (h : Held x id) :
    (x.reservedRows id).length = (x.reservationsOf id).length := by
  rw [← List.length_map Prod.fst, h.map_reservedRows]
  exact List.length_insertionSort _ _

/-- The documents of a request name the attachments that it holds. -/
theorem Held.map_documents {id : String} (h : Held x id) :
    ((x.reservedRows id).map fun (m, b) => attachmentDocument b m.sha256).map
      AttachmentDocument.attachmentRef = (x.inOrder id).map Reservation.attachmentRef := by
  rw [← h.map_reservedRows, List.map_map, List.map_map]
  refine List.map_congr_left fun (m, b) hmb => ?_
  show b.attachmentRef = m.attachmentRef
  exact Table.key_of_get? (mem_reservedRows hmb).2.2

theorem Held.map_sources {id : String} (h : Held x id) :
    ((x.reservedRows id).map fun (m, _) => sourceAttachment m.messageId m.sha256) =
      (x.inOrder id).map fun m => sourceAttachment m.messageId m.sha256 := by
  rw [← h.map_reservedRows, List.map_map]
  rfl

/-! ## What is authorized -/

/-- What a message archives: as many attachments as were expected and at most 16, the ones that a
    request holds in the order of their positions. -/
structure Granted (x : Inbox) (messageId : String) (context : ArchiveContext)
    (documents : List AttachmentDocument) : Prop where
  count : ∀ n ∈ context.expectedCount, documents.length = n
  max : documents.length ≤ maxArchiveAttachments
  held : ∃ r ∈ x.requests.rows, r.state ≠ .pending ∧ r.boundMessageId = some messageId ∧
    context.sourceAttachments =
      (x.inOrder r.requestId).map (fun m => sourceAttachment m.messageId m.sha256) ∧
    documents.map AttachmentDocument.attachmentRef =
      (x.inOrder r.requestId).map Reservation.attachmentRef

/-- The attachments are there, neither consumed nor expired. -/
def Fresh (x : Inbox) (documents : List AttachmentDocument) (now : String) : Prop :=
  ∀ d ∈ documents, ∃ b, x.attachments.get? d.attachmentRef = some b ∧ b.consumedAt = none ∧
    now < b.expiresAt

/-- The attachments of the message complete the request. -/
def Completes (r : ArchiveRequest) (total : ℕ) : Prop := ∀ n ∈ r.expectedCount, total = n

/-- No request takes more. -/
def Fits (r : ArchiveRequest) (total : ℕ) : Prop :=
  total ≤ maxArchiveAttachments ∧ ∀ n ∈ r.expectedCount, total ≤ n

/-- The correlation finds the attachments of a request that goes on: all are there, and none is
    consumed or expired when the request is complete. -/
structure Ready (x : Inbox) (a : Arrived) (clock : ArchiveClock) : Prop where
  gathered : ∀ r, x.pendingArchiveRequest a.scope = some r → a.documents ≠ [] → Continues a.text →
    Fits r ((x.reservedRows r.requestId).length + (x.attachmentsOf a.messageId).length) →
    Held x r.requestId ∧
    (Completes r ((x.reservedRows r.requestId).length + (x.attachmentsOf a.messageId).length) →
      (∀ p ∈ x.reservedRows r.requestId, p.2.consumedAt = none ∧ clock.now < p.2.expiresAt) ∧
      ∀ b ∈ x.attachmentsOf a.messageId, b.consumedAt = none ∧ clock.now < b.expiresAt)
  identified : (mediaArchiveInstruction a.text false).isSome = true → a.documents = [] →
    x.requests.get? (mediaArchiveRequestId a.scope a.messageId) = none

/-! ## The correlation does not raise -/

theorem pendingArchiveRequest_none {scope : ArchiveScope}
    (h : x.pendingArchiveRequest scope = none) :
    ∀ r ∈ x.requests.rows, r.state = .pending → r.scope ≠ scope := by
  intro r hr hpending hscope
  unfold pendingArchiveRequest at h
  have hmem : r ∈ (x.requests.rows.filter fun r =>
      r.scope = scope ∧ r.state = .pending).insertionSort fun r r' => r'.createdAt ≤ r.createdAt :=
    (List.mem_insertionSort _).mpr (List.mem_filter.mpr ⟨hr, decide_eq_true ⟨hscope, hpending⟩⟩)
  rw [List.head?_eq_none_iff] at h
  rw [h] at hmem
  exact absurd hmem List.not_mem_nil

variable {r : ArchiveRequest} {expected : Option ℕ} {b : Attachment} {rows : List Attachment}
  {position : ℕ} {messageId : String} {x₁ x₂ : Inbox} {context : ArchiveContext} {g : GatewayStore}

theorem insertArchiveRequest_total
    (hfree : r.state = .pending → ∀ r' ∈ x.requests.rows, r'.state = .pending → r'.scope ≠ r.scope)
    (hnew : x.requests.get? r.requestId = none) :
    ∃ requests, x.insertArchiveRequest r = .ok { x with requests := requests } := by
  obtain ⟨requests, hinsert⟩ := Table.insert?_of_get? hnew
  refine ⟨requests, ?_⟩
  unfold insertArchiveRequest
  rw [ensure_bind_of hfree, hinsert]
  rfl

theorem fillArchive_total (hs : Sound x) (hr : x.pendingArchiveRequest a.scope = some r)
    (hready : Ready x a clock) (hdocuments : a.documents ≠ [])
    (hcancel : ∀ i ∈ mediaArchiveInstruction a.text true, i.kind ≠ .cancel) :
    ∃ p, x.fillArchive a r clock.now = .ok p := by
  unfold fillArchive
  dsimp only
  split_ifs with hmentions hcount
  · exact ⟨_, rfl⟩
  · exact ⟨_, rfl⟩
  · exact ⟨_, rfl⟩
  · rw [not_or, not_lt] at hcount
    obtain ⟨hheld, -⟩ := hready.gathered r hr hdocuments
      ⟨hcancel, eq_false_of_ne_true hmentions⟩
      ⟨hcount.1, fun n hn => Nat.le_of_not_lt fun hlt => hcount.2 ⟨n, hn, hlt⟩⟩
    obtain ⟨x₁, hx₁⟩ : ∃ x₁, reserve r.requestId (x.attachmentsOf a.messageId)
        (x.reservedRows r.requestId).length x = .ok x₁ := by
      refine reserve_total fun m hm hid => ?_
      have hmem := List.mem_map_of_mem (f := Reservation.position)
        (mem_reservationsOf.mpr ⟨hm, hid⟩)
      rw [hs.positions, List.mem_range] at hmem
      rw [hheld.length_reservedRows]
      exact hmem
    rw [hx₁, ok_bind]
    split_ifs
    · exact ⟨_, rfl⟩
    · exact ⟨_, rfl⟩

theorem registerArchive_total (hs : Sound x)
    (hnew : x.requests.get? (mediaArchiveRequestId a.scope a.messageId) = none) :
    ∃ p, x.registerArchive a a.scope (x.pendingArchiveRequest a.scope) expected clock = .ok p := by
  unfold registerArchive
  cases hpending : x.pendingArchiveRequest a.scope with
  | none =>
    dsimp only
    obtain ⟨requests, hinsert⟩ := insertArchiveRequest_total (x := x)
      (r := ⟨mediaArchiveRequestId a.scope a.messageId, a.scope, .intentFirst, .pending,
        a.messageId, a.text, expected, none, none, clock.now, clock.expiresAt, clock.now⟩)
      (fun _ => pendingArchiveRequest_none hpending) hnew
    rw [hinsert]
    exact ⟨_, rfl⟩
  | some r =>
    dsimp only
    obtain ⟨hmem, hscope, hstate⟩ := pendingArchiveRequest_some hpending
    have hfree : ∀ r' ∈ (x.endArchiveRequest r.requestId .cancelled clock.now).requests.rows,
        r'.state = .pending → r'.scope ≠ a.scope := by
      intro r' hr' hpending' hscope'
      have hget := Table.mem_rows_iff.mp hr'
      simp only [endArchiveRequest, Table.get?_update_eq_some] at hget
      obtain ⟨r₀, hr₀, heq⟩ := hget
      by_cases hid : r'.requestId = r.requestId
      · rw [if_pos hid] at heq
        rw [heq] at hpending'
        cases hpending'
      · rw [if_neg hid] at heq
        subst heq
        exact hid (hs.single r' (Table.mem_of_get? hr₀) r hmem hpending' hstate
          (hscope'.trans hscope.symm))
    have hnone : (x.endArchiveRequest r.requestId .cancelled clock.now).requests.get?
        (mediaArchiveRequestId a.scope a.messageId) = none := by
      unfold endArchiveRequest
      dsimp only
      rw [Table.get?_update, hnew]
      split_ifs <;> rfl
    obtain ⟨requests, hinsert⟩ := insertArchiveRequest_total
      (x := x.endArchiveRequest r.requestId .cancelled clock.now)
      (r := ⟨mediaArchiveRequestId a.scope a.messageId, a.scope, .intentFirst, .pending,
        a.messageId, a.text, expected, none, none, clock.now, clock.expiresAt, clock.now⟩)
      (fun _ => hfree) hnone
    rw [hinsert]
    exact ⟨_, rfl⟩

theorem collectArchive_total (hs : Sound x)
    (hnew : x.requests.get? (mediaArchiveRequestId a.scope a.messageId) = none) :
    ∃ p, x.collectArchive a a.scope expected clock = .ok p := by
  unfold collectArchive
  dsimp only
  split_ifs
  · exact ⟨_, rfl⟩
  · exact ⟨_, rfl⟩
  · exact ⟨_, rfl⟩
  · obtain ⟨requests, hinsert⟩ := insertArchiveRequest_total (x := x)
      (r := ⟨mediaArchiveRequestId a.scope a.messageId, a.scope, .imageFirst, .bound, a.messageId,
        a.text, expected, some a.messageId, some (mediaArchiveIdempotencyScope a.messageId
          ((x.recentBatch a.messageId a.scope expected clock).map fun c =>
            sourceAttachment c.messageId c.sha256)), clock.now,
        minText ((x.recentBatch a.messageId a.scope expected clock).map Attachment.expiresAt),
        clock.now⟩) nofun hnew
    rw [hinsert, ok_bind]
    obtain ⟨x₂, hreserve⟩ : ∃ x₂, reserve (mediaArchiveRequestId a.scope a.messageId)
        (x.recentBatch a.messageId a.scope expected clock) 0 { x with requests := requests } =
        .ok x₂ :=
      reserve_total fun m hm hid => absurd (hid ▸ hnew) (hs.requested m hm)
    rw [hreserve]
    exact ⟨_, rfl⟩

/-- The instruction of a text with attachments is one to cancel. -/
theorem mediaArchiveInstruction_true {text : String} {i : ArchiveInstruction}
    (h : mediaArchiveInstruction text true = some i) : i.kind = .cancel := by
  unfold mediaArchiveInstruction at h
  dsimp only at h
  split_ifs at h with _ hcancel
  · obtain rfl := Option.some.inj h
    rfl
  all_goals simp_all

theorem correlateMediaArchive_total (hs : Sound x)
    (hready : Ready (x.expireArchiveRequests clock.now) a clock) :
    ∃ p, x.correlateMediaArchive a clock = .ok p := by
  have hs := hs.expire clock.now
  unfold correlateMediaArchive
  dsimp only
  generalize x.expireArchiveRequests clock.now = x at hs hready ⊢
  rw [show mediaArchiveScope a.senderId a.userHash a.identityId a.principalId
    a.conversationKey = a.scope from rfl]
  have hbare : ∀ {i : ArchiveInstruction}, i.kind ≠ .cancel →
      mediaArchiveInstruction a.text (a.documents ≠ []) = some i →
      x.requests.get? (mediaArchiveRequestId a.scope a.messageId) = none := by
    intro i hkind hi
    by_cases hdocuments : a.documents = []
    · refine hready.identified ?_ hdocuments
      rw [hdocuments] at hi
      rw [show mediaArchiveInstruction a.text false = some i from hi]
      rfl
    · rw [decide_eq_true hdocuments] at hi
      exact absurd (mediaArchiveInstruction_true hi) hkind
  split
  · exact ⟨_, rfl⟩
  · rename_i hcancel
    split
    · rename_i r _ hr
      split_ifs at hr with hdocuments
      refine fillArchive_total hs hr hready hdocuments ?_
      rintro ⟨kind, expected⟩ hi rfl
      rw [← decide_eq_true hdocuments] at hi
      exact hcancel expected hi
    · rename_i hi
      exact registerArchive_total hs (hbare (fun h => absurd h (by simp)) hi)
    · rename_i hi
      exact collectArchive_total hs (hbare (fun h => absurd h (by simp)) hi)
    · exact ⟨_, rfl⟩

/-! ## What it authorizes -/

/-- A reservation marks the digest of its attachment, a digest that is not marked. -/
theorem sourceAttachment_marked (h : ¬ "sha256:".toList <+: b.sha256.toList) (messageId : String) :
    sourceAttachment messageId ("sha256:" ++ b.sha256) =
      sourceAttachment messageId b.sha256 := by
  unfold sourceAttachment
  rw [if_pos, if_neg]
  · rwa [List.isPrefixOf_iff_prefix]
  · rw [List.isPrefixOf_iff_prefix, String.toList_append]
    exact List.prefix_append _ _

/-- New reservations of a request go to the end. -/
theorem Held.reserve {id : String} (h : Held x id) (hrows : ∀ b ∈ rows, b ∈ x.attachments.rows)
    (hreserve : reserve id rows position x = .ok x') : Held x' id := by
  obtain ⟨happend, heq⟩ := reserve_ok hreserve
  intro m hm
  rw [heq]
  dsimp only
  rw [reservationsOf_append happend id fun m hm => (mem_newReservations hm).1, if_pos rfl] at hm
  obtain hm | hm := List.mem_append.mp hm
  · exact h m hm
  · obtain ⟨-, b, hb, href, -⟩ := mem_newReservations hm
    rw [href, Table.mem_rows_iff.mp (hrows b hb)]
    exact nofun

/-- A request takes as many attachments as it expects. -/
theorem completes_of {total : ℕ} (hfits : Fits r total)
    (hfull : ¬ ∃ n ∈ r.expectedCount, total < n) : Completes r total := by
  intro n hn
  have hle := hfits.2 n hn
  have hge := Nat.le_of_not_lt fun hlt => hfull ⟨n, hn, hlt⟩
  omega

theorem attachmentsOf_subset (h : b ∈ x.attachmentsOf messageId) : b ∈ x.attachments.rows :=
  List.mem_of_mem_filter h

/-- What a request that is complete authorizes. -/
theorem granted_completed (hs : Sound x) (hready : Ready x a clock)
    (hr : x.pendingArchiveRequest a.scope = some r) (hgoes : a.documents ≠ [] ∧ Continues a.text)
    (hreserve : reserve r.requestId (x.attachmentsOf a.messageId)
      (x.reservedRows r.requestId).length x = .ok x₁)
    (hfits : Fits r ((x.reservedRows r.requestId).length + (x.attachmentsOf a.messageId).length))
    (hfull : ¬ ∃ n ∈ r.expectedCount, (x₁.reservedRows r.requestId).length < n) :
    Held x₁ r.requestId ∧ Fits r (x₁.reservedRows r.requestId).length ∧
      Completes r (x₁.reservedRows r.requestId).length ∧
      ∀ p ∈ x₁.reservedRows r.requestId, p.2.consumedAt = none ∧ clock.now < p.2.expiresAt := by
  obtain ⟨hheld, hfresh⟩ := hready.gathered r hr hgoes.1 hgoes.2 hfits
  have hheld₁ : Held x₁ r.requestId := hheld.reserve (fun _ => attachmentsOf_subset) hreserve
  obtain ⟨happend, heq⟩ := reserve_ok hreserve
  have hreservations := reservationsOf_append happend r.requestId
    fun m hm => (mem_newReservations hm).1
  rw [if_pos rfl] at hreservations
  have hlength : (x₁.reservedRows r.requestId).length =
      (x.reservedRows r.requestId).length + (x.attachmentsOf a.messageId).length := by
    rw [hheld₁.length_reservedRows, hreservations, List.length_append, hheld.length_reservedRows,
      newReservations, List.length_map, List.length_zipIdx]
  rw [hlength] at hfull ⊢
  have hcompletes := completes_of hfits hfull
  refine ⟨hheld₁, hfits, hcompletes, ?_⟩
  obtain ⟨hearlier, hcurrent⟩ := hfresh hcompletes
  rintro ⟨m, b⟩ hmb
  obtain ⟨hm, hid, hb⟩ := mem_reservedRows hmb
  rw [heq] at hb
  have hmem := mem_reservationsOf.mpr ⟨hm, hid⟩
  rw [hreservations] at hmem
  obtain hm | hm := List.mem_append.mp hmem
  · refine hearlier (m, b) ?_
    rw [reservedRows_eq, hs.inOrder_eq]
    exact List.mem_filterMap.mpr ⟨m, hm, by rw [hb]; rfl⟩
  · obtain ⟨-, b', hb', href, -⟩ := mem_newReservations hm
    rw [href, Table.mem_rows_iff.mp (attachmentsOf_subset hb')] at hb
    obtain rfl := Option.some.inj hb
    exact hcurrent b' hb'

/-- A message that collects the attachments before it. -/
theorem granted_collected (hs : Sound x) {id : String} (hnew : x.requests.get? id = none)
    (hrows : ∀ b ∈ rows, b ∈ x.attachments.rows) (hs' : Sound x')
    (hreservations : x'.reservations.rows = x.reservations.rows ++ newReservations id rows 0) :
    (rows.map fun b => sourceAttachment b.messageId b.sha256) =
        (x'.inOrder id).map (fun m => sourceAttachment m.messageId m.sha256) ∧
      (rows.map fun b => attachmentDocument b b.sha256).map AttachmentDocument.attachmentRef =
        (x'.inOrder id).map Reservation.attachmentRef := by
  have hnone : x.reservationsOf id = [] := by
    refine List.filter_eq_nil_iff.mpr fun m hm hid => hs.requested m hm ?_
    rw [of_decide_eq_true hid]
    exact hnew
  have hall : x'.inOrder id = newReservations id rows 0 := by
    rw [hs'.inOrder_eq, reservationsOf_append hreservations id
      fun m hm => (mem_newReservations hm).1, if_pos rfl, hnone, List.nil_append]
  rw [hall]
  refine ⟨?_, ?_⟩
  · unfold newReservations
    have hmap : ∀ (l : List Attachment) (n : ℕ), (∀ b ∈ l, b ∈ x.attachments.rows) →
        (l.map fun b => sourceAttachment b.messageId b.sha256) =
          (newReservations id l n).map fun m => sourceAttachment m.messageId m.sha256 := by
      intro l
      induction l with
      | nil => exact fun _ _ => rfl
      | cons b l ih =>
        intro n hl
        rw [newReservations_cons, List.map_cons, List.map_cons,
          ih (n + 1) fun b' hb' => hl b' (List.mem_cons_of_mem _ hb'),
          sourceAttachment_marked (hs.digests b (hl b List.mem_cons_self))]
    exact hmap rows 0 hrows
  · rw [newReservations_refs, List.map_map]
    rfl

theorem Correlation.grants (hc : Correlation x a clock x' c) (hs : Sound x) (hs' : Sound x')
    (hready : Ready x a clock) (hcontext : context ∈ c.context)
    (hstatus : context.status = .authorized) :
    x'.Granted a.messageId context c.documents ∧ x'.Fresh c.documents clock.now := by
  cases hc with
  | kept hd => exact absurd hstatus (hd _ hcontext)
  | ended _ _ hd => exact absurd hstatus (hd _ hcontext)
  | extended _ _ hd => exact absurd hstatus (hd _ hcontext)
  | @completed r hr hgoes x₁ hreserve hcount hfull key _ hc =>
    subst hc
    obtain rfl := Option.some.inj hcontext
    rw [not_or, not_lt] at hcount
    obtain ⟨hheld, hfits, hcompletes, hfresh⟩ := granted_completed hs hready hr hgoes hreserve
      ⟨hcount.1, fun n hn => Nat.le_of_not_lt fun hlt => hcount.2 ⟨n, hn, hlt⟩⟩ hfull
    obtain ⟨hmem, -, -⟩ := pendingArchiveRequest_some hr
    have hget : x₁.requests.get? r.requestId = some r := by
      rw [(reserve_ok hreserve).2]
      exact Table.mem_rows_iff.mp hmem
    have hbound := Table.get?_update_of_get? hget (fun r => { r with
      state := .bound, boundMessageId := some a.messageId, idempotencyScope := some key,
      updatedAt := clock.now }) (by intro _; rfl)
    refine ⟨⟨?_, ?_, _, Table.mem_of_get? hbound, by simp, rfl, hheld.map_sources,
      hheld.map_documents⟩, ?_⟩
    · intro n hn
      rw [authorization, List.length_map]
      exact hcompletes n hn
    · rw [authorization, List.length_map]
      exact hfits.1
    · intro d hd
      obtain ⟨⟨m, b⟩, hmb, rfl⟩ := List.mem_map.mp hd
      obtain ⟨-, -, hb⟩ := mem_reservedRows hmb
      refine ⟨b, ?_, hfresh _ hmb⟩
      show x₁.attachments.get? b.attachmentRef = some b
      rw [Table.key_of_get? hb]
      exact hb
  | registered _ _ _ hd => exact absurd hstatus (hd _ hcontext)
  | @collected expected key r hrequest x₁ hinsert _ hreserve hcount _ hc =>
    subst hc
    obtain rfl := Option.some.inj hcontext
    obtain ⟨-, hbound, hid⟩ := hrequest
    obtain ⟨hrows, heq⟩ := reserve_ok hreserve
    obtain ⟨-, -, hnew, hget⟩ := hs.insertRequest hinsert
    simp only [insertArchiveRequest, bind_eq_ok, orRaise_eq_ok, pure_eq_ok] at hinsert
    obtain ⟨_, _, requests, hrequests, rfl⟩ := hinsert
    have hbatch : ∀ b ∈ x.recentBatch a.messageId a.scope expected clock,
        b ∈ x.attachments.rows ∧ b.consumedAt = none ∧ clock.now < b.expiresAt := by
      intro b hb
      obtain ⟨m, -, -, -, hb⟩ := mem_recentBatch hb
      obtain ⟨hof, hconsumed, hexpires, -⟩ := mem_availableAttachments hb
      exact ⟨attachmentsOf_subset hof, hconsumed, hexpires⟩
    obtain ⟨hsources, hdocuments⟩ :=
      granted_collected hs hnew (fun b hb => (hbatch b hb).1) hs' hrows
    have hmem : r ∈ x'.requests.rows := by
      rw [heq]
      refine Table.mem_of_get? (k := r.requestId) ?_
      rw [hget, if_pos rfl]
    refine ⟨⟨?_, ?_, r, hmem, ?_, hid, hsources, hdocuments⟩, ?_⟩
    · intro n hn
      rw [List.length_map]
      by_contra hne
      exact hcount.1 ⟨n, hn, hne⟩
    · rw [List.length_map]
      exact Nat.le_of_not_lt hcount.2
    · rw [hbound]
      rintro ⟨⟩
    · intro d hd
      obtain ⟨b, hb, rfl⟩ := List.mem_map.mp hd
      obtain ⟨hmem, hfresh⟩ := hbatch b hb
      refine ⟨b, ?_, hfresh⟩
      rw [heq]
      exact Table.mem_rows_iff.mp hmem

/-! ## Requests that are not pending -/

/-- A request that is not pending keeps its message and its attachments. -/
def Frozen (x x' : Inbox) : Prop :=
  ∀ id r, x.requests.get? id = some r → r.state ≠ .pending →
    (∃ r', x'.requests.get? id = some r' ∧ r'.state ≠ .pending ∧
      r'.boundMessageId = r.boundMessageId) ∧ x'.reservationsOf id = x.reservationsOf id

theorem Frozen.refl (x : Inbox) : Frozen x x := fun _ r hr hstate => ⟨⟨r, hr, hstate, rfl⟩, rfl⟩

theorem Frozen.trans (h : Frozen x x₁) (h' : Frozen x₁ x') : Frozen x x' := by
  intro id r hr hstate
  obtain ⟨⟨r₁, hr₁, hstate₁, hbound₁⟩, hreservations₁⟩ := h id r hr hstate
  obtain ⟨⟨r₂, hr₂, hstate₂, hbound₂⟩, hreservations₂⟩ := h' id r₁ hr₁ hstate₁
  exact ⟨⟨r₂, hr₂, hstate₂, hbound₂.trans hbound₁⟩, hreservations₂.trans hreservations₁⟩

theorem Frozen.of_eq (hreservations : x'.reservations = x.reservations)
    (hrequests : x'.requests = x.requests) : Frozen x x' := by
  intro id r hr hstate
  refine ⟨⟨r, ?_, hstate, rfl⟩, ?_⟩
  · rw [hrequests]
    exact hr
  · unfold reservationsOf
    rw [hreservations]

/-- Changes of states that leave the requests that are not pending so. -/
theorem Frozen.updateRequests {p : ArchiveRequest → Bool} {f : ArchiveRequest → ArchiveRequest}
    {hf : ∀ r, (f r).requestId = r.requestId}
    (hstates : ∀ r ∈ x.requests.rows, p r = true → r.state ≠ .pending →
      (f r).state ≠ .pending ∧ (f r).boundMessageId = r.boundMessageId) :
    Frozen x { x with requests := x.requests.updateWhere p f hf } := by
  intro id r hr hstate
  refine ⟨⟨if p r then f r else r, ?_, ?_⟩, rfl⟩
  · rw [Table.get?_updateWhere, hr]
    rfl
  · split_ifs with hp
    · exact hstates r (Table.mem_of_get? hr) hp hstate
    · exact ⟨hstate, rfl⟩

theorem Frozen.endRequest {state : RequestState} (hstate : state ≠ .pending) (now : String) :
    Frozen x (x.endArchiveRequest r.requestId state now) :=
  .updateRequests fun _ _ _ _ => ⟨hstate, rfl⟩

/-- Attachments are reserved for a request that is pending or new. -/
theorem Frozen.reserve {id : String}
    (hpending : ∀ r, x.requests.get? id = some r → r.state = .pending)
    (hreserve : reserve id rows position x = .ok x') : Frozen x x' := by
  intro id' r hr hstate
  obtain ⟨happend, heq⟩ := reserve_ok hreserve
  have hne : id' ≠ id := by
    rintro rfl
    exact hstate (hpending r hr)
  refine ⟨⟨r, ?_, hstate, rfl⟩, ?_⟩
  · rw [heq]
    exact hr
  · rw [reservationsOf_append happend id' fun m hm => (mem_newReservations hm).1, if_neg hne,
      List.append_nil]

theorem Frozen.insertRequest (h : x.insertArchiveRequest r = .ok x') : Frozen x x' := by
  simp only [insertArchiveRequest, bind_eq_ok, orRaise_eq_ok, pure_eq_ok] at h
  obtain ⟨_, _, requests, hrequests, rfl⟩ := h
  exact fun _ r' hr' hstate =>
    ⟨⟨r', Table.get?_insert?_of_get? hrequests hr', hstate, rfl⟩, rfl⟩

theorem Correlation.frozen (hc : Correlation x a clock x' c) : Frozen x x' := by
  have hpending : ∀ {r : ArchiveRequest}, x.pendingArchiveRequest a.scope = some r →
      ∀ r', x.requests.get? r.requestId = some r' → r'.state = .pending := by
    intro r hr r' hr'
    obtain ⟨hmem, -, hstate⟩ := pendingArchiveRequest_some hr
    rw [Table.mem_rows_iff.mp hmem] at hr'
    rw [← Option.some.inj hr']
    exact hstate
  cases hc with
  | kept _ => exact .refl x
  | ended _ hstate _ => exact .endRequest (by obtain rfl | rfl := hstate <;> rintro ⟨⟩) _
  | extended hr hreserve _ => exact .reserve (hpending hr) hreserve
  | @completed r hr _ x₁ hreserve _ _ _ _ _ =>
    refine (Frozen.reserve (hpending hr) hreserve).trans (.updateRequests ?_)
    intro r' hr' hid hstate
    rw [(reserve_ok hreserve).2] at hr'
    have hget := Table.mem_rows_iff.mp hr'
    rw [of_decide_eq_true hid] at hget
    exact absurd (hpending hr r' hget) hstate
  | registered hx₁ _ hinsert _ =>
    obtain rfl | ⟨r, -, rfl⟩ := hx₁
    · exact .insertRequest hinsert
    · exact (Frozen.endRequest (by decide) _).trans (.insertRequest hinsert)
  | @collected _ _ r _ x₁ hinsert _ hreserve _ _ _ =>
    simp only [insertArchiveRequest, bind_eq_ok, orRaise_eq_ok, pure_eq_ok] at hinsert
    obtain ⟨_, _, requests, hrequests, rfl⟩ := hinsert
    obtain ⟨happend, heq⟩ := reserve_ok hreserve
    intro id r' hr' hstate
    have hne : id ≠ r.requestId := by
      rintro rfl
      rw [Table.get?_of_insert? hrequests] at hr'
      cases hr'
    refine ⟨⟨r', ?_, hstate, rfl⟩, ?_⟩
    · rw [heq]
      exact Table.get?_insert?_of_get? hrequests hr'
    · rw [reservationsOf_append happend id fun m hm => (mem_newReservations hm).1, if_neg hne,
        List.append_nil]
      rfl

theorem Granted.frozen (hf : Frozen x x') {documents : List AttachmentDocument}
    (h : Granted x messageId context documents) : Granted x' messageId context documents := by
  obtain ⟨hcount, hmax, r, hr, hstate, hbound, hsources, hdocuments⟩ := h
  obtain ⟨⟨r', hr', hstate', hbound'⟩, hreservations⟩ :=
    hf r.requestId r (Table.mem_rows_iff.mp hr) hstate
  have hid : r'.requestId = r.requestId := Table.key_of_get? hr'
  have horder : x'.inOrder r'.requestId = x.inOrder r.requestId := by
    unfold inOrder
    rw [hid, hreservations]
  refine ⟨hcount, hmax, r', Table.mem_of_get? hr', hstate', hbound'.trans hbound, ?_, ?_⟩
  · rw [horder]
    exact hsources
  · rw [horder]
    exact hdocuments

/-! ## Messages -/

/-- What the stored messages are authorized to archive. -/
def Archived (x : Inbox) : Prop :=
  ∀ message ∈ x.messages.rows, ∀ context ∈ message.archiveContext, context.status = .authorized →
    x.Granted message.messageId context message.attachments

/-- A step that leaves the contexts of the messages as they are. -/
theorem Archived.of_frozen (h : Archived x) (hf : Frozen x x')
    (hmessages : ∀ message ∈ x'.messages.rows, ∃ m₀ ∈ x.messages.rows,
      message.messageId = m₀.messageId ∧ message.archiveContext = m₀.archiveContext ∧
        message.attachments = m₀.attachments) : Archived x' := by
  intro message hmessage context hcontext hstatus
  obtain ⟨m₀, hm₀, hid, hcontexts, hattachments⟩ := hmessages message hmessage
  rw [hid, hattachments]
  rw [hcontexts] at hcontext
  exact (h m₀ hm₀ context hcontext hstatus).frozen hf

/-- The scope of a message to store. -/
def scopeOf (a : StoredMessage) : ArchiveScope :=
  mediaArchiveScope a.senderId a.userDigest a.identityId a.principalId a.conversationKey

/-- A call that is let through returns a row whose archive is granted and fresh, the one that it
    finds or a new one, and the correlation does not stop it. -/
def ArchivesSoundly (x : Inbox) : InboxStep → Prop
  | .store g a clock => a.routeComplete = true →
    (∀ i ∈ a.identityId, ∀ p ∈ a.principalId,
      g.routeActive i p a.senderId a.userDigest = true) →
    match x.storedRow a with
    | some message => ∀ context ∈ message.archiveContext, context.status = .authorized →
        x.Granted message.messageId context message.attachments ∧
          x.Fresh message.attachments clock.now
    | none => ∀ x₁ x₂, x.insertMessage (a.row clock.now) = .ok x₁ →
        storeMedia a clock 0 a.media x₁ = .ok x₂ → ∃ x', x.storeMessage g a clock = .ok x' ∧
          ∀ message, x'.messages.get? a.messageId = some message →
            ∀ context ∈ message.archiveContext, context.status = .authorized →
              x'.Granted a.messageId context message.attachments ∧
                x'.Fresh message.attachments clock.archive.now
  | _ => True

/-- No attachment of a waiting request is deleted before the message with the next ones, and none
    is consumed or expired before the last; a message that comes again finds its own as they were,
    and the id of a new request is not taken. -/
def KeepsReserved (x : Inbox) : InboxStep → Prop
  | .store _ a clock =>
    match x.storedRow a with
    | some message => ∀ context ∈ message.archiveContext, context.status = .authorized →
        x.Fresh message.attachments clock.now
    | none =>
      (∀ r ∈ x.requests.rows, r.state = .pending → clock.archive.now < r.expiresAt →
        r.scope = scopeOf a → a.media ≠ [] → Continues a.text →
        Fits r ((x.reservedRows r.requestId).length + a.media.length) → Held x r.requestId ∧
          (Completes r ((x.reservedRows r.requestId).length + a.media.length) →
            (∀ p ∈ x.reservedRows r.requestId, p.2.consumedAt = none ∧
              clock.archive.now < p.2.expiresAt) ∧
            ∀ n < a.media.length, clock.archive.now < clock.expiresAt n)) ∧
      ((mediaArchiveInstruction a.text false).isSome = true → a.media = [] →
        x.requests.get? (mediaArchiveRequestId (scopeOf a) a.messageId) = none)
  | _ => True

theorem arrived_documents {a : StoredMessage} {clock : StoreClock} :
    (arrived a clock).documents = [] ↔ a.media = [] := by
  unfold arrived
  rw [List.map_eq_nil_iff, List.zipIdx_eq_nil_iff]

/-- The inbox of a new message before its correlation. -/
theorem stored_ready (hs : Sound x) {a : StoredMessage} {clock : StoreClock}
    (hrefs : NewReferences x (.store g a clock)) (hfound : x.storedRow a = none)
    (hkeeps : KeepsReserved x (.store g a clock))
    (hinsert : x.insertMessage (a.row clock.now) = .ok x₁)
    (hmedia : storeMedia a clock 0 a.media x₁ = .ok x₂) :
    Ready (x₂.expireArchiveRequests clock.archive.now) (arrived a clock) clock.archive := by
  simp only [KeepsReserved, hfound] at hkeeps
  simp only [insertMessage, bind_eq_ok, orRaise_eq_ok, pure_eq_ok] at hinsert
  obtain ⟨_, _, messages, hmessages, rfl⟩ := hinsert
  have hnew : x.messages.get? a.messageId = none := Table.get?_of_insert? hmessages
  obtain ⟨attachments, spool, rfl, es, hrows, hlength, hes⟩ := storeMedia_ok hmedia
  dsimp only at hrows
  have hof : Inbox.attachmentsOf ⟨messages, attachments, x.requests, x.reservations, spool⟩
      a.messageId = es := by
    unfold attachmentsOf
    rw [hrows, List.filter_append, List.filter_eq_nil_iff.mpr, List.nil_append,
      List.filter_eq_self.mpr]
    · exact fun b hb => decide_eq_true (hes b hb).1
    · intro b hb hid
      exact hs.attached b hb (of_decide_eq_true hid ▸ hnew)
  have hget : ∀ m ∈ x.reservations.rows,
      attachments.get? m.attachmentRef = x.attachments.get? m.attachmentRef := by
    intro m hm
    have hnone : es.find? (fun b => b.attachmentRef = m.attachmentRef) = none := by
      refine List.find?_eq_none.mpr fun b hb href => ?_
      obtain ⟨-, -, -, k, hk, hreference, -⟩ := hes b hb
      rw [Nat.zero_add] at hk
      exact hrefs k hk m hm ((of_decide_eq_true href).symm.trans hreference)
    unfold Table.get?
    rw [hrows, List.find?_append, hnone, Option.or_none]
  have hreserved : ∀ id, Inbox.reservedRows ⟨messages, attachments, x.requests, x.reservations,
      spool⟩ id = x.reservedRows id := by
    intro id
    rw [reservedRows_eq, reservedRows_eq]
    refine List.filterMap_congr fun m hm => ?_
    have hm := (mem_reservationsOf.mp ((List.mem_insertionSort _).mp hm)).1
    rw [hget m hm]
  constructor
  · intro r hr hdocuments hcontinues hfits
    obtain ⟨hmem, hscope, hpending⟩ := pendingArchiveRequest_some hr
    have hexpired := Table.mem_rows_iff.mp hmem
    simp only [expireArchiveRequests, Table.get?_updateWhere_eq_some] at hexpired
    obtain ⟨r₀, hr₀, heq⟩ := hexpired
    split_ifs at heq with hdue
    · rw [heq] at hpending
      cases hpending
    · subst heq
      have hlive : clock.archive.now < r.expiresAt :=
        String.not_le.mp fun hle => hdue (decide_eq_true ⟨hpending, hle⟩)
      have hrow : Inbox.reservedRows (Inbox.expireArchiveRequests
          ⟨messages, attachments, x.requests, x.reservations, spool⟩ clock.archive.now)
          r.requestId = x.reservedRows r.requestId := hreserved r.requestId
      have hcurrent : Inbox.attachmentsOf (Inbox.expireArchiveRequests
          ⟨messages, attachments, x.requests, x.reservations, spool⟩ clock.archive.now)
          (arrived a clock).messageId = es := hof
      rw [hrow, hcurrent, hlength] at hfits ⊢
      obtain ⟨hheld, hfresh⟩ := hkeeps.1 r (Table.mem_of_get? hr₀) hpending hlive hscope
        (fun h => hdocuments (arrived_documents.mpr h)) hcontinues hfits
      refine ⟨?_, fun hcompletes => ?_⟩
      · intro m hm
        have hmem' : m ∈ x.reservationsOf r.requestId := hm
        have := hget m (mem_reservationsOf.mp hmem').1
        dsimp only [expireArchiveRequests]
        rw [this]
        exact hheld m hmem'
      · obtain ⟨hearlier, hlater⟩ := hfresh hcompletes
        refine ⟨hearlier, fun b hb => ?_⟩
        obtain ⟨-, hconsumed, -, k, hk, -, hexpires⟩ := hes b hb
        rw [Nat.zero_add] at hk
        rw [hexpires]
        exact ⟨hconsumed, hlater k hk⟩
  · intro hinstruction hdocuments
    have hid := hkeeps.2 hinstruction (arrived_documents.mp hdocuments)
    dsimp only [expireArchiveRequests]
    rw [Table.get?_updateWhere]
    exact Option.map_eq_none_iff.mpr hid

/-- A message that is stored for the first time. -/
theorem stored_soundly (hs : Sound x) {a : StoredMessage} {clock : StoreClock}
    (hrefs : NewReferences x (.store g a clock)) (hfound : x.storedRow a = none)
    (hkeeps : KeepsReserved x (.store g a clock))
    (hinsert : x.insertMessage (a.row clock.now) = .ok x₁)
    (hmedia : storeMedia a clock 0 a.media x₁ = .ok x₂) :
    ∃ x₃ c, x₂.correlateMediaArchive (arrived a clock) clock.archive = .ok (x₃, c) ∧
      ∀ context ∈ c.context, context.status = .authorized →
        x₃.Granted a.messageId context c.documents ∧ x₃.Fresh c.documents clock.archive.now := by
  have hready := stored_ready hs hrefs hfound hkeeps hinsert hmedia
  obtain ⟨hs₂, huntouched, -, -⟩ := hs.storeMedia hrefs hinsert hmedia
  obtain ⟨⟨x₃, c⟩, hcorrelate⟩ := correlateMediaArchive_total hs₂ hready
  have hc := correlateMediaArchive_ok hcorrelate
  have hexpired := hs₂.expire clock.archive.now
  have hs₃ : Sound x₃ := hc.sound hexpired huntouched
  exact ⟨x₃, c, hcorrelate, fun context hcontext hstatus =>
    hc.grants hexpired hs₃ hready hcontext hstatus⟩

theorem storedRow_mem {a : StoredMessage} {message : InboundMessage}
    (h : x.storedRow a = some message) : message ∈ x.messages.rows := by
  unfold storedRow at h
  cases hroute : a.identityId.bind fun i => a.upstreamMessageId.bind (x.routed i) with
  | none =>
    rw [hroute] at h
    exact Table.mem_of_get? h
  | some m =>
    rw [hroute] at h
    obtain rfl := Option.some.inj h
    obtain ⟨i, -, hroute⟩ := Option.bind_eq_some_iff.mp hroute
    obtain ⟨u, -, hroute⟩ := Option.bind_eq_some_iff.mp hroute
    exact List.mem_of_find?_eq_some hroute

theorem store_archivesSoundly (hs : Sound x) (ha : Archived x) {a : StoredMessage}
    {clock : StoreClock} (hrefs : NewReferences x (.store g a clock))
    (hkeeps : KeepsReserved x (.store g a clock)) : ArchivesSoundly x (.store g a clock) := by
  unfold ArchivesSoundly
  dsimp only
  intro hroute hactive
  cases hfound : x.storedRow a with
  | some message =>
    dsimp only
    intro context hcontext hstatus
    simp only [KeepsReserved, hfound] at hkeeps
    exact ⟨ha message (storedRow_mem hfound) context hcontext hstatus,
      hkeeps context hcontext hstatus⟩
  | none =>
    dsimp only
    intro x₁ x₂ hinsert hmedia
    obtain ⟨x₃, c, hcorrelate, hgranted⟩ :=
      stored_soundly hs hrefs hfound hkeeps hinsert hmedia
    have hstore : x.storeMessage g a clock = x.addMessage a clock := by
      unfold storeMessage
      rw [ensure_bind_of hroute, ensure_bind_of hactive]
      dsimp only
      rw [show ((a.identityId.bind fun i => a.upstreamMessageId.bind (x.routed i)) <|>
        x.messages.get? a.messageId) = none from hfound]
    have hadd : x.addMessage a clock = .ok { x₃ with
        messages := x₃.messages.update a.messageId fun m => { m with
          attachments := c.documents, archiveContext := c.context, updatedAt := clock.now } } := by
      unfold addMessage
      rw [hinsert, ok_bind, hmedia, ok_bind]
      dsimp only
      rw [show x₂.correlateMediaArchive ⟨a.messageId, a.senderId, a.conversationKey, a.text, _,
        a.userDigest, a.identityId, a.principalId⟩ clock.archive = .ok (x₃, c) from hcorrelate]
      rfl
    refine ⟨_, hstore.trans hadd, fun message hmessage context hcontext hstatus => ?_⟩
    rw [Table.get?_update_eq_some] at hmessage
    obtain ⟨m₀, hm₀, hm⟩ := hmessage
    rw [if_pos rfl] at hm
    subst hm
    obtain ⟨hgrant, hfresh⟩ := hgranted context hcontext hstatus
    exact ⟨hgrant.frozen (Frozen.of_eq (by rfl) (by rfl)), hfresh⟩

/-- A correlation keeps what was granted. -/
theorem stored_frozen {a : StoredMessage} {clock : StoreClock} {x₃ : Inbox}
    (hinsert : x.insertMessage (a.row clock.now) = .ok x₁)
    (hmedia : storeMedia a clock 0 a.media x₁ = .ok x₂)
    (hcorrelate : x₂.correlateMediaArchive (arrived a clock) clock.archive = .ok (x₃, c)) :
    Frozen x x₃ := by
  obtain ⟨attachments, spool, rfl, -⟩ := storeMedia_ok hmedia
  simp only [insertMessage, bind_eq_ok, pure_eq_ok] at hinsert
  obtain ⟨_, _, _, _, rfl⟩ := hinsert
  refine Frozen.trans (.of_eq (by rfl) (by rfl)) (Frozen.trans ?_
    (correlateMediaArchive_ok hcorrelate).frozen)
  exact .updateRequests fun r _ hdue hstate =>
    absurd (of_decide_eq_true hdue).1 hstate

theorem store_archived (hs : Sound x) (ha : Archived x) {a : StoredMessage} {clock : StoreClock}
    (hrefs : NewReferences x (.store g a clock)) (hkeeps : KeepsReserved x (.store g a clock)) :
    Archived (x.step (.store g a clock)) := by
  unfold step
  dsimp only
  split
  · rename_i x' hstore
    obtain rfl | ⟨x₁, x₂, x₃, c, hfound, hinsert, hmedia, hcorrelate, rfl⟩ := storeMessage_ok hstore
    · exact ha
    · have hf := stored_frozen hinsert hmedia hcorrelate
      intro message hmessage context hcontext hstatus
      have hget := Table.mem_rows_iff.mp hmessage
      rw [Table.get?_update_eq_some] at hget
      obtain ⟨m₀, hm₀, hm⟩ := hget
      rw [stored_messages hinsert hmedia hcorrelate] at hm₀
      by_cases hid : message.messageId = a.messageId
      · rw [if_pos hid] at hm hm₀
        subst hm
        obtain rfl := Option.some.inj hm₀
        obtain ⟨x₃', c', hcorrelate', hgranted⟩ :=
          stored_soundly hs hrefs hfound hkeeps hinsert hmedia
        rw [hcorrelate] at hcorrelate'
        cases hcorrelate'
        exact (hgranted context hcontext hstatus).1.frozen (Frozen.of_eq (by rfl) (by rfl))
      · rw [if_neg hid] at hm hm₀
        subst hm
        exact (ha message (Table.mem_of_get? hm₀) context hcontext hstatus).frozen
          (hf.trans (Frozen.of_eq (by rfl) (by rfl)))
  · exact ha

theorem step_archived {e : InboxStep} (hs : Sound x) (ha : Archived x) (hrefs : NewReferences x e)
    (hkeeps : KeepsReserved x e) : Archived (x.step e) := by
  have hsame : ∀ message ∈ x.messages.rows, ∃ m₀ ∈ x.messages.rows,
      message.messageId = m₀.messageId ∧ message.archiveContext = m₀.archiveContext ∧
        message.attachments = m₀.attachments :=
    fun message hmessage => ⟨message, hmessage, rfl, rfl, rfl⟩
  have hupdated : ∀ {p : InboundMessage → Bool} {f : InboundMessage → InboundMessage}
      (hf : ∀ m, (f m).messageId = m.messageId), (∀ m, (f m).archiveContext = m.archiveContext) →
      (∀ m, (f m).attachments = m.attachments) →
      ∀ message ∈ (x.messages.updateWhere p f hf).rows, ∃ m₀ ∈ x.messages.rows,
        message.messageId = m₀.messageId ∧ message.archiveContext = m₀.archiveContext ∧
          message.attachments = m₀.attachments := by
    intro p f hf hcontexts hattachments message hmessage
    obtain ⟨m₀, hm₀, rfl⟩ := List.mem_map.mp hmessage
    refine ⟨m₀, hm₀, ?_⟩
    split_ifs
    · exact ⟨hf m₀, hcontexts m₀, hattachments m₀⟩
    · exact ⟨rfl, rfl, rfl⟩
  cases e with
  | store g a clock => exact store_archived hs ha hrefs hkeeps
  | acknowledge reference sha256 now => exact ha.of_frozen (.of_eq rfl rfl) hsame
  | consume reference now => exact ha.of_frozen (.of_eq rfl rfl) hsame
  | cleanup now => exact ha.of_frozen (.of_eq rfl rfl) hsame
  | submit messageId now =>
    exact ha.of_frozen (.of_eq rfl rfl)
      (hupdated (by intro _; rfl) (by intro _; rfl) (by intro _; rfl))
  | finish messageId success now =>
    have hf : Frozen x { x with requests := (x.markFinished messageId success now).requests } := by
      refine @Frozen.updateRequests x _ _ (by intro _; rfl) fun r _ _ _ => ?_
      refine ⟨?_, rfl⟩
      cases success <;> exact nofun
    have hf' : Frozen x (x.markFinished messageId success now) := hf.trans (.of_eq rfl rfl)
    exact ha.of_frozen hf' (hupdated (by intro _; rfl) (by intro _; rfl) (by intro _; rfl))
  | adopt senderId identityId principalId =>
    show Archived (x.adoptMessages senderId identityId principalId)
    unfold adoptMessages
    dsimp only
    split_ifs
    · exact ha.of_frozen (.of_eq rfl rfl)
        (hupdated (by intro _; rfl) (by intro _; rfl) (by intro _; rfl))
    · exact ha
  | backfill senderId userHash =>
    exact ha.of_frozen (.of_eq rfl rfl)
      (hupdated (by intro _; rfl) (by intro _; rfl) (by intro _; rfl))

theorem archived_new : Archived new := fun _ hmessage => absurd hmessage List.not_mem_nil

/-- In a run in which no waiting request loses an attachment, every message is stored that gets to
    the correlation, and what it archives is fresh, complete and in order. -/
theorem archives_soundly (es : List InboxStep) (hrefs : EveryStep step NewReferences new es)
    (hkeeps : EveryStep step KeepsReserved new es) : EveryStep step ArchivesSoundly new es := by
  refine EveryStep.imp step (I := fun x => Sound x ∧ Archived x) ?_ ?_ ⟨sound_new, archived_new⟩
    ((everyStep_and step).mpr ⟨hrefs, hkeeps⟩)
  · intro x e ⟨hs, ha⟩ ⟨hrefs, hkeeps⟩
    exact ⟨step_sound hs hrefs, step_archived hs ha hrefs hkeeps⟩
  · intro x e ⟨hs, ha⟩ ⟨hrefs, hkeeps⟩
    cases e with
    | store g a clock => exact store_archivesSoundly hs ha hrefs hkeeps
    | acknowledge _ _ _ => trivial
    | consume _ _ => trivial
    | cleanup _ => trivial
    | submit _ _ => trivial
    | finish _ _ _ => trivial
    | adopt _ _ _ => trivial
    | backfill _ _ => trivial

/-! ## A request that loses an attachment -/

/-- A store whose directory plays no part. -/
def anyStore : GatewayStore := ⟨0, .empty, .empty, .empty, .empty, .empty, .empty, .empty⟩

/-- The times of a call, with one reference. -/
def clockAt (now reference : String) : StoreClock :=
  ⟨now, fun n => reference ++ String.ofList (List.replicate n '+'), fun _ => "2026-08-02T08:00",
    ⟨now, "2026-08-01T07:50", "2026-08-01T08:15"⟩⟩

/-- A message of the owner. -/
def fromOwner (messageId text : String) (media : List (MediaSpec × List UInt8)) : StoredMessage :=
  ⟨messageId, "owner", "chat-1", text, media, none, .ownerLegacy, none, none, none⟩

def photo (name : String) (content : List UInt8) : MediaSpec × List UInt8 :=
  (⟨.image, name, "image/jpeg"⟩, content)

/-- A photo of two is consumed and its row deleted before the next comes. -/
def awaiting : List InboxStep :=
  [.store anyStore (fromOwner "m1" "把接下来的2张照片归档" []) (clockAt "2026-08-01T08:00" "A"),
    .store anyStore (fromOwner "m2" "" [photo "a.jpg" [1]]) (clockAt "2026-08-01T08:01" "B"),
    .consume "B" "2026-08-01T08:02", .cleanup "2026-08-01T08:03"]

/-- The photo that comes next. -/
def secondPhoto : StoredMessage := fromOwner "m3" "" [photo "b.jpg" [2]]

/-- The message with the next photo gets to the correlation and is not stored. -/
theorem cleanup_blocks : EveryStep step NewReferences new awaiting ∧
    ¬ EveryStep step ArchivesSoundly new
      (awaiting ++ [.store anyStore secondPhoto (clockAt "2026-08-01T08:04" "C")]) := by
  refine ⟨⟨fun n hn => absurd hn (Nat.not_lt_zero n), ?_, trivial, trivial, trivial⟩, fun h => ?_⟩
  · have hnone : (runFrom step new (awaiting.take 1)).reservations.rows = [] := by decide +kernel
    intro n _ m hm
    replace hm : m ∈ (runFrom step new (awaiting.take 1)).reservations.rows := hm
    rw [hnone] at hm
    exact absurd hm List.not_mem_nil
  · obtain ⟨hlast, -⟩ := ((everyStep_append step).mp h).2
    have hblocks : ((runFrom step new awaiting).storedRow secondPhoto).isNone = true ∧
        ((runFrom step new awaiting).insertMessage (secondPhoto.row "2026-08-01T08:04") >>=
          storeMedia secondPhoto (clockAt "2026-08-01T08:04" "C") 0 secondPhoto.media).isOk = true ∧
        ((runFrom step new awaiting).storeMessage anyStore secondPhoto
          (clockAt "2026-08-01T08:04" "C")).isOk = false := by decide +kernel
    generalize runFrom step new awaiting = x at hlast hblocks
    obtain ⟨hfound, hmid, hraise⟩ := hblocks
    have hsound := hlast (by decide) nofun
    rw [Option.isNone_iff_eq_none.mp hfound] at hsound
    cases hinsert : x.insertMessage (secondPhoto.row "2026-08-01T08:04") with
    | error e =>
      rw [hinsert] at hmid
      exact absurd hmid Bool.false_ne_true
    | ok x₁ =>
      rw [hinsert, ok_bind] at hmid
      cases hmedia : storeMedia secondPhoto (clockAt "2026-08-01T08:04" "C") 0 secondPhoto.media x₁
        with
      | error e =>
        rw [hmedia] at hmid
        exact absurd hmid Bool.false_ne_true
      | ok x₂ =>
        obtain ⟨x', hstored, -⟩ := hsound x₁ x₂ hinsert hmedia
        rw [hstored] at hraise
        exact absurd hraise.symm Bool.false_ne_true

/-- A photo. -/
def received : List InboxStep :=
  [.store anyStore (fromOwner "m1" "" [photo "a.jpg" [1]]) (clockAt "2026-08-01T08:00" "A")]

/-- A photo, and the message that archives it. -/
theorem archives_soundly_received : EveryStep step ArchivesSoundly new (received ++
    [.store anyStore (fromOwner "m2" "把刚才这张照片归档" []) (clockAt "2026-08-01T08:01" "B")]) := by
  have hrequests : (runFrom step new received).requests.rows = [] := by decide +kernel
  have hfound : ((runFrom step new received).storedRow
      (fromOwner "m2" "把刚才这张照片归档" [])).isNone = true := by decide +kernel
  refine archives_soundly _ ⟨fun _ _ _ hm => absurd hm List.not_mem_nil,
    fun _ hn => absurd hn (Nat.not_lt_zero _), trivial⟩ ?_
  refine (everyStep_append step).mpr ⟨⟨?_, trivial⟩, ?_, trivial⟩
  · exact ⟨fun _ hr => absurd hr List.not_mem_nil, fun _ _ => rfl⟩
  · generalize runFrom step new received = x at hrequests hfound
    simp only [KeepsReserved, Option.isNone_iff_eq_none.mp hfound]
    refine ⟨fun r hr => ?_, fun _ _ => ?_⟩
    · rw [hrequests] at hr
      exact absurd hr List.not_mem_nil
    · rw [Table.get?_eq_none, hrequests]
      exact List.not_mem_nil

end Inbox

end HomeAddons.Gateway
