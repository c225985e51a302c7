import HomeAddons.Gateway.Spool

/-!
# Weixin Gateway: the documents of the stored messages

What the correlation writes into `attachments_json`, and what later calls leave of a row.

* `correlated_written`: the digests of the documents. A message that completes a request gets the
  documents of the reservations, whose digests are marked already: they are marked twice.
* `run_kept`, `documented`: a row keeps its contents, and the digests are written so in every run.
-/

namespace HomeAddons.Gateway

open HomeAddons.Common

/-- A hex digest, as the rows of `attachments` have it. -/
def IsDigest (s : String) : Prop := ∃ content, s = String.ofList (sha256Chars content)

/-- The context of a message that completes the request of an earlier instruction. -/
def completesRequest (context : Option ArchiveContext) : Bool :=
  context.any fun c => c.source = .intentFirst ∧ c.status = .authorized

/-- How the digests of the documents of a message are written. -/
structure Written (context : Option ArchiveContext) (documents : List AttachmentDocument) :
    Prop where
  once : completesRequest context = false →
    ∀ d ∈ documents, ∃ t, IsDigest t ∧ d.sha256 = "sha256:" ++ t
  twice : completesRequest context = true → documents ≠ [] ∧
    ∀ d ∈ documents, ∃ t, IsDigest t ∧ d.sha256 = "sha256:" ++ ("sha256:" ++ t)

namespace Inbox

variable {x x' : Inbox} {a : Arrived} {clock : ArchiveClock} {c : Correlated}

/-! ## A correlation -/

/-- The digests of attachments and of reservations. -/
structure Hashed (x : Inbox) : Prop where
  attachments : ∀ b ∈ x.attachments.rows, IsDigest b.sha256
  reservations : ∀ m ∈ x.reservations.rows, ∃ t, IsDigest t ∧ m.sha256 = "sha256:" ++ t

/-- A message that is not authorized keeps its own documents. -/
theorem declined_documents (h : x.correlateMediaArchive a clock = .ok (x', c))
    (hc : c.Declines) : c.documents = a.documents := by
  unfold correlateMediaArchive at h
  dsimp only at h
  generalize x.expireArchiveRequests clock.now = x at h
  split at h
  · unfold cancelArchive at h
    split at h <;> cases h <;> rfl
  · split at h
    · unfold fillArchive at h
      dsimp only at h
      split_ifs at h
      · cases h
        rfl
      · cases h
        rfl
      · cases h
        rfl
      all_goals
        rw [bind_eq_ok] at h
        obtain ⟨x₁, -, h⟩ := h
        split_ifs at h
        · cases h
          rfl
        · cases h
          exact absurd rfl (hc _ rfl)
    · unfold registerArchive at h
      dsimp only at h
      rw [bind_eq_ok] at h
      obtain ⟨x₁, -, h⟩ := h
      cases h
      rfl
    · unfold collectArchive at h
      dsimp only at h
      split_ifs at h
      · cases h
        rfl
      · cases h
        rfl
      · cases h
        rfl
      · simp only [bind_eq_ok] at h
        obtain ⟨x₁, -, x₂, -, h⟩ := h
        cases h
        exact absurd rfl (hc _ rfl)
    · cases h
      rfl

theorem Declines.not_completes (hc : c.Declines) : completesRequest c.context = false := by
  cases hcontext : c.context with
  | none => rfl
  | some context => simp [completesRequest, hc context hcontext]

theorem written_own {context : Option ArchiveContext} {documents : List AttachmentDocument}
    (hcontext : completesRequest context = false)
    (h : ∀ d ∈ documents, ∃ t, IsDigest t ∧ d.sha256 = "sha256:" ++ t) :
    Written context documents :=
  ⟨fun _ => h, fun htrue => absurd (hcontext.symm.trans htrue) nofun⟩

variable {rows : List Attachment} {position : ℕ} {P : InboundMessage → Prop} {x₁ x₂ : Inbox}

theorem Hashed.reserve {id : String} (h : Hashed x) (hrows : ∀ b ∈ rows, b ∈ x.attachments.rows)
    (hreserve : reserve id rows position x = .ok x') : Hashed x' := by
  obtain ⟨hnew, heq⟩ := reserve_ok hreserve
  refine ⟨by rw [heq]; exact h.attachments, fun m hm => ?_⟩
  rw [hnew, List.mem_append] at hm
  obtain hm | hm := hm
  · exact h.reservations m hm
  · obtain ⟨-, b, hb, -, -, hdigest⟩ := mem_newReservations hm
    exact ⟨b.sha256, h.attachments b (hrows b hb), hdigest⟩

/-- The attachments that a request has just reserved are among its rows. -/
theorem reservedRows_ne_nil {id : String} (hne : rows ≠ [])
    (hrows : ∀ b ∈ rows, b ∈ x.attachments.rows) (hreserve : reserve id rows position x = .ok x') :
    x'.reservedRows id ≠ [] := by
  obtain ⟨b, hb⟩ := List.exists_mem_of_ne_nil rows hne
  obtain ⟨hnew, heq⟩ := reserve_ok hreserve
  have href := List.mem_map_of_mem (f := Attachment.attachmentRef) hb
  rw [← newReservations_refs id rows position] at href
  obtain ⟨m, hm, hmref⟩ := List.mem_map.mp href
  have hattachment : x'.attachments.get? m.attachmentRef = some b := by
    rw [heq, hmref]
    exact Table.mem_rows_iff.mp (hrows b hb)
  refine List.ne_nil_of_mem (a := (m, b)) (List.mem_filterMap.mpr ⟨m, ?_, ?_⟩)
  · rw [(List.perm_insertionSort _ _).mem_iff, List.mem_filter, decide_eq_true_eq, hnew]
    exact ⟨List.mem_append_right _ hm, (mem_newReservations hm).1⟩
  · rw [hattachment]
    rfl

/-- What the correlation writes into the row of the message. -/
theorem correlated_written (hx : Hashed x) (h : x.correlateMediaArchive a clock = .ok (x', c))
    (hown : ∀ d ∈ a.documents, ∃ t, IsDigest t ∧ d.sha256 = "sha256:" ++ t)
    (hthere : a.documents ≠ [] → x.attachmentsOf a.messageId ≠ []) :
    Hashed x' ∧ Written c.context c.documents := by
  have hdeclined : c.Declines → Written c.context c.documents := fun hc =>
    written_own (Declines.not_completes hc) (declined_documents h hc ▸ hown)
  have hexpired : Hashed (x.expireArchiveRequests clock.now) := ⟨hx.attachments, hx.reservations⟩
  replace hthere : a.documents ≠ [] →
    (x.expireArchiveRequests clock.now).attachmentsOf a.messageId ≠ [] := hthere
  have hcorrelation := correlateMediaArchive_ok h
  generalize x.expireArchiveRequests clock.now = x₀ at hcorrelation hexpired hthere
  have hmem : ∀ b ∈ x₀.attachmentsOf a.messageId, b ∈ x₀.attachments.rows :=
    fun b hb => (List.mem_filter.mp hb).1
  cases hcorrelation with
  | kept hc => exact ⟨hexpired, hdeclined hc⟩
  | ended _ _ hc => exact ⟨⟨hexpired.attachments, hexpired.reservations⟩, hdeclined hc⟩
  | extended _ hreserve hc => exact ⟨hexpired.reserve hmem hreserve, hdeclined hc⟩
  | @completed r hr hgoes x₁ hreserve _ _ key _ hc =>
    have hx₁ : Hashed x₁ := hexpired.reserve hmem hreserve
    have hcompletes : completesRequest c.context = true := by
      rw [hc]
      rfl
    refine ⟨⟨hx₁.attachments, hx₁.reservations⟩,
      fun hfalse => absurd (hfalse.symm.trans hcompletes) nofun, fun _ => ⟨?_, ?_⟩⟩
    · rw [hc]
      intro hnil
      exact reservedRows_ne_nil (hthere hgoes.1) hmem hreserve (List.map_eq_nil_iff.mp hnil)
    · rw [hc]
      intro d hd
      obtain ⟨⟨m, b⟩, hmb, rfl⟩ := List.mem_map.mp hd
      obtain ⟨t, ht, hm⟩ := hx₁.reservations m (mem_reservedRows hmb).1
      exact ⟨t, ht, congrArg ("sha256:" ++ ·) hm⟩
  | registered hx₁ _ hinsert hc =>
    refine ⟨?_, hdeclined hc⟩
    simp only [insertArchiveRequest, bind_eq_ok, pure_eq_ok] at hinsert
    obtain ⟨_, _, _, _, rfl⟩ := hinsert
    obtain rfl | ⟨r, -, rfl⟩ := hx₁
    · exact ⟨hexpired.attachments, hexpired.reservations⟩
    · exact ⟨hexpired.attachments, hexpired.reservations⟩
  | @collected expected key r _ x₁ hinsert _ hreserve _ _ hc =>
    simp only [insertArchiveRequest, bind_eq_ok, pure_eq_ok] at hinsert
    obtain ⟨_, _, _, _, rfl⟩ := hinsert
    have hbatch : ∀ b ∈ x₀.recentBatch a.messageId a.scope expected clock,
        b ∈ x₀.attachments.rows := by
      intro b hb
      obtain ⟨_, -, -, -, hb⟩ := mem_recentBatch hb
      exact (List.mem_filter.mp (mem_availableAttachments hb).1).1
    refine ⟨?_, written_own (by rw [hc]; rfl) fun d hd => ?_⟩
    · refine Hashed.reserve ?_ ?_ hreserve
      · exact ⟨hexpired.attachments, hexpired.reservations⟩
      · exact hbatch
    rw [hc] at hd
    obtain ⟨b, hb, rfl⟩ := List.mem_map.mp hd
    exact ⟨b.sha256, hexpired.attachments b (hbatch b hb), rfl⟩

/-! ## The rows of the messages -/

/-- The two rows have the same contents: what came in, and what the correlation made of it. -/
structure SameContents (m m' : InboundMessage) : Prop where
  messageId : m'.messageId = m.messageId
  conversationKey : m'.conversationKey = m.conversationKey
  receivedAt : m'.receivedAt = m.receivedAt
  text : m'.text = m.text
  attachments : m'.attachments = m.attachments
  archiveContext : m'.archiveContext = m.archiveContext

theorem SameContents.refl (m : InboundMessage) : SameContents m m := ⟨rfl, rfl, rfl, rfl, rfl, rfl⟩

theorem SameContents.trans {m₁ m₂ m₃ : InboundMessage} (h : SameContents m₁ m₂)
    (h' : SameContents m₂ m₃) : SameContents m₁ m₃ :=
  ⟨h'.messageId.trans h.messageId, h'.conversationKey.trans h.conversationKey,
    h'.receivedAt.trans h.receivedAt, h'.text.trans h.text, h'.attachments.trans h.attachments,
    h'.archiveContext.trans h.archiveContext⟩

/-- A row of the second inbox is one of the first with the same contents, or satisfies `P`. -/
structure Follows (P : InboundMessage → Prop) (x x' : Inbox) : Prop where
  kept : ∀ id m, x.messages.get? id = some m →
    ∃ m', x'.messages.get? id = some m' ∧ SameContents m m'
  found : ∀ id m', x'.messages.get? id = some m' →
    (∃ m, x.messages.get? id = some m ∧ SameContents m m') ∨ P m'

theorem Follows.of_eq (h : x'.messages = x.messages) :
    Follows P x x' where
  kept id m hm := ⟨m, by rw [h, hm], .refl m⟩
  found id m hm := .inl ⟨m, by rw [← h, hm], .refl m⟩

theorem Follows.updateWhere {p : InboundMessage → Bool} {f : InboundMessage → InboundMessage}
    (hf : ∀ m, (f m).messageId = m.messageId) (h : x'.messages = x.messages.updateWhere p f hf)
    (hsame : ∀ m, SameContents m (f m)) :
    Follows P x x' where
  kept id m hm := by
    rw [h]
    refine ⟨if p m then f m else m, Table.get?_updateWhere_eq_some.mpr ⟨m, hm, rfl⟩, ?_⟩
    split_ifs
    · exact hsame m
    · exact .refl m
  found id m' hm' := by
    rw [h, Table.get?_updateWhere_eq_some] at hm'
    obtain ⟨m, hm, rfl⟩ := hm'
    refine .inl ⟨m, hm, ?_⟩
    split_ifs
    · exact hsame m
    · exact .refl m

/-- A message that is stored comes with a row of its own. -/
theorem stored_follows {a : StoredMessage} {clock : StoreClock} {x₃ : Inbox}
    (hinsert : x.insertMessage (a.row clock.now) = .ok x₁)
    (hmedia : storeMedia a clock 0 a.media x₁ = .ok x₂)
    (hcorrelate : x₂.correlateMediaArchive (arrived a clock) clock.archive = .ok (x₃, c))
    (hP : P { a.row clock.now with
      attachments := c.documents, archiveContext := c.context, updatedAt := clock.now }) :
    Follows P x { x₃ with messages := x₃.messages.update a.messageId fun m => { m with
      attachments := c.documents, archiveContext := c.context, updatedAt := clock.now } } := by
  have hget := stored_messages hinsert hmedia hcorrelate
  have hnew : x.messages.get? a.messageId = none := by
    simp only [insertMessage, bind_eq_ok, orRaise_eq_ok] at hinsert
    obtain ⟨-, -, messages, hmessages, -⟩ := hinsert
    exact Table.get?_of_insert? hmessages
  constructor
  · intro id m hm
    have hid : id ≠ a.messageId := by
      rintro rfl
      rw [hnew] at hm
      cases hm
    refine ⟨m, ?_, .refl m⟩
    rw [Table.get?_update_eq_some]
    refine ⟨m, ?_, by rw [if_neg hid]⟩
    rw [hget, if_neg hid, hm]
  · intro id m' hm'
    rw [Table.get?_update_eq_some] at hm'
    obtain ⟨m, hm, rfl⟩ := hm'
    rw [hget] at hm
    by_cases hid : id = a.messageId
    · rw [if_pos hid] at hm ⊢
      obtain rfl := Option.some.inj hm
      exact .inr hP
    · rw [if_neg hid] at hm ⊢
      exact .inl ⟨m, hm, .refl m⟩

/-- The attachments of a new message are there when it is correlated. -/
theorem stored_hashed {a : StoredMessage} {clock : StoreClock} (hx : Hashed x)
    (hinsert : x.insertMessage (a.row clock.now) = .ok x₁)
    (hmedia : storeMedia a clock 0 a.media x₁ = .ok x₂) :
    Hashed x₂ ∧ ((arrived a clock).documents ≠ [] → x₂.attachmentsOf a.messageId ≠ []) := by
  simp only [insertMessage, bind_eq_ok, pure_eq_ok] at hinsert
  obtain ⟨_, _, _, _, rfl⟩ := hinsert
  obtain ⟨attachments, spool, rfl, es, hrows, hlength, hes⟩ := storeMedia_ok hmedia
  dsimp only at hrows
  refine ⟨⟨fun b hb => ?_, hx.reservations⟩, fun hne => ?_⟩
  · rw [hrows, List.mem_append] at hb
    obtain hb | hb := hb
    · exact hx.attachments b hb
    · exact (hes b hb).2.2.1
  · have hmedia : es ≠ [] := by
      rw [← List.length_pos_iff, hlength, List.length_pos_iff]
      rintro hnil
      exact hne (by rw [arrived, hnil]; rfl)
    obtain ⟨b, hb⟩ := List.exists_mem_of_ne_nil es hmedia
    refine List.ne_nil_of_mem (a := b) (List.mem_filter.mpr ⟨?_, decide_eq_true (hes b hb).1⟩)
    rw [hrows]
    exact List.mem_append_right _ hb

theorem arrived_digests (a : StoredMessage) (clock : StoreClock) :
    ∀ d ∈ (arrived a clock).documents, ∃ t, IsDigest t ∧ d.sha256 = "sha256:" ++ t := by
  intro d hd
  obtain ⟨⟨⟨spec, content⟩, n⟩, -, rfl⟩ := List.mem_map.mp hd
  exact ⟨_, ⟨content, rfl⟩, rfl⟩

/-- What a step leaves of the rows, and what it writes into a new one. -/
theorem step_follows (hx : Hashed x) (e : InboxStep) : Hashed (x.step e) ∧
    Follows (fun m => Written m.archiveContext m.attachments) x (x.step e) := by
  have hdigests : ∀ {p : Attachment → Bool} {now : String}, ∀ b ∈ (x.attachments.updateWhere p
      (fun b => { b with consumedAt := some now }) (by intro _; rfl)).rows, IsDigest b.sha256 := by
    intro p now b hb
    obtain ⟨b₀, hb₀, rfl⟩ := List.mem_map.mp hb
    split_ifs <;> exact hx.attachments b₀ hb₀
  cases e with
  | store g a clock =>
    unfold step
    dsimp only
    split
    · rename_i x' hstore
      obtain rfl | ⟨x₁, x₂, x₃, c, -, hinsert, hmedia, hcorrelate, rfl⟩ := storeMessage_ok hstore
      · exact ⟨hx, .of_eq rfl⟩
      · obtain ⟨hx₂, hthere⟩ := stored_hashed hx hinsert hmedia
        obtain ⟨hx₃, hwritten⟩ :=
          correlated_written hx₂ hcorrelate (arrived_digests a clock) hthere
        exact ⟨⟨hx₃.attachments, hx₃.reservations⟩,
          stored_follows hinsert hmedia hcorrelate hwritten⟩
    · exact ⟨hx, .of_eq rfl⟩
  | acknowledge reference sha256 now => exact ⟨⟨hdigests, hx.reservations⟩, .of_eq rfl⟩
  | consume reference now => exact ⟨⟨hdigests, hx.reservations⟩, .of_eq rfl⟩
  | cleanup now =>
    refine ⟨⟨fun b hb => hx.attachments b ?_, hx.reservations⟩, .of_eq rfl⟩
    exact (List.filter_sublist).subset hb
  | submit messageId now =>
    exact ⟨⟨hx.attachments, hx.reservations⟩,
      .updateWhere (by intro _; rfl) rfl fun _ => ⟨rfl, rfl, rfl, rfl, rfl, rfl⟩⟩
  | finish messageId success now =>
    exact ⟨⟨hx.attachments, hx.reservations⟩,
      .updateWhere (by intro _; rfl) rfl fun _ => ⟨rfl, rfl, rfl, rfl, rfl, rfl⟩⟩
  | adopt senderId identityId principalId =>
    show Hashed (x.adoptMessages senderId identityId principalId) ∧
      Follows _ x (x.adoptMessages senderId identityId principalId)
    unfold adoptMessages
    dsimp only
    split_ifs
    · exact ⟨⟨hx.attachments, hx.reservations⟩,
        .updateWhere (by intro _; rfl) rfl fun _ => ⟨rfl, rfl, rfl, rfl, rfl, rfl⟩⟩
    · exact ⟨hx, .of_eq rfl⟩
  | backfill senderId userHash =>
    exact ⟨⟨hx.attachments, hx.reservations⟩,
      .updateWhere (by intro _; rfl) rfl fun _ => ⟨rfl, rfl, rfl, rfl, rfl, rfl⟩⟩

/-! ## Runs -/

/-- The digests of the documents of every message. -/
structure Documented (x : Inbox) : Prop where
  hashed : Hashed x
  written : ∀ m ∈ x.messages.rows, Written m.archiveContext m.attachments

theorem documented_new : Documented new where
  hashed := ⟨fun _ h => absurd h List.not_mem_nil, fun _ h => absurd h List.not_mem_nil⟩
  written := fun _ h => absurd h List.not_mem_nil

theorem step_documented (h : Documented x) (e : InboxStep) : Documented (x.step e) := by
  obtain ⟨hhashed, hfollows⟩ := step_follows h.hashed e
  refine ⟨hhashed, fun m' hm' => ?_⟩
  obtain ⟨m, hm, hsame⟩ | hwritten := hfollows.found _ m' (Table.mem_rows_iff.mp hm')
  · rw [hsame.archiveContext, hsame.attachments]
    exact h.written m (Table.mem_of_get? hm)
  · exact hwritten

theorem documented (es : List InboxStep) : Documented (runFrom step new es) :=
  invariant_of_reachable step (I := Documented) (fun _ e h => step_documented h e) documented_new
    ⟨es, rfl⟩

/-- A row keeps its contents. -/
theorem run_kept (h : Documented x) (es : List InboxStep) {id : String} {m : InboundMessage}
    (hm : x.messages.get? id = some m) :
    ∃ m', (runFrom step x es).messages.get? id = some m' ∧ SameContents m m' := by
  induction es generalizing x m with
  | nil => exact ⟨m, hm, .refl m⟩
  | cons e es ih =>
    obtain ⟨m₁, hm₁, hsame₁⟩ := (step_follows h.hashed e).2.kept id m hm
    obtain ⟨m₂, hm₂, hsame₂⟩ := ih (step_documented h e) hm₁
    exact ⟨m₂, hm₂, hsame₁.trans hsame₂⟩

/-- Every message of a run is there in each later state, and none has other digests. -/
theorem messages_kept (es es' : List InboxStep) :
    Follows (fun m => Written m.archiveContext m.attachments) (runFrom step new es)
      (runFrom step new (es ++ es')) where
  kept id m hm := by
    rw [runFrom_append]
    exact run_kept (documented es) es' hm
  found id m hm := .inr ((documented (es ++ es')).written m (Table.mem_of_get? hm))

end Inbox

end HomeAddons.Gateway
