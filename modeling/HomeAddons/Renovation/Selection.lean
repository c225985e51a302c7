import HomeAddons.Renovation.Quotes

/-!
# Renovation Hub: the selected offer

A request names its selected offer and an offer says whether it is selected. `coherent_iff` says
exactly in which runs of the five quote tools both always agree.

* `Board.Move`: what a tool that is carried out does to the two tables, and `Call.issues_iff`,
  the connection with the calls.
* `Board.Named`: a selected offer is the one its request names. Every move keeps it.
* `Board.Coherent.step`: a request with status `selected` names a selected offer of its own, in
  every state that a move with `Keeps` reaches from such a state.
-/

namespace HomeAddons.Renovation

open HomeAddons.Common

/-! ## The two tables -/

/-- The quote tables. -/
structure Board where
  requests : Table QuoteRequest.id
  offers : Table QuoteOffer.id

def Hub.board (h : Hub) : Board := ⟨h.quoteRequests, h.quoteOffers⟩

/-- What a tool does when it is carried out. -/
inductive Board.Move where
  | create (row : QuoteRequest)
  | edit (requestId : String) (changes : List RequestChange) (now : String)
  | offer (row : QuoteOffer) (now : String)
  | reoffer (offerId : String) (fields : OfferFields) (now : String)
  | select (requestId offerId now : String)

/-- The tables before and after a move. -/
inductive Board.Step (b : Board) : Board.Move → Board → Prop where
  | create {row : QuoteRequest} {T : Table QuoteRequest.id} (hT : b.requests.insert? row = some T)
      (hnone : row.selectedOfferId = none) : Step b (.create row) { b with requests := T }
  | edit {row : QuoteRequest} {changes : List RequestChange} {now : String}
      (hrow : b.requests.get? row.id = some row) :
      Step b (.edit row.id changes now)
        { b with requests := b.requests.update row.id (QuoteRequest.edited changes now) }
  | offer {row : QuoteOffer} {r : QuoteRequest} {T : Table QuoteOffer.id} {now : String}
      (hT : b.offers.insert? row = some T) (hr : b.requests.get? row.fields.requestId = some r)
      (hfree : row.fields.status ≠ .selected) :
      Step b (.offer row now)
        ⟨b.requests.update row.fields.requestId (QuoteRequest.offered row.fields.status now)
          (QuoteRequest.offered_id _ _), T⟩
  | reoffer {row : QuoteOffer} {fields : OfferFields} {now : String}
      (hrow : b.offers.get? row.id = some row) (hreq : fields.requestId = row.fields.requestId)
      (hfree : fields.status ≠ .selected) :
      Step b (.reoffer row.id fields now)
        { b with offers := b.offers.update row.id (QuoteOffer.edited fields now) }
  | select {r : QuoteRequest} {o : QuoteOffer} {now : String}
      (hr : b.requests.get? r.id = some r) (ho : b.offers.get? o.id = some o)
      (hown : o.fields.requestId = r.id) :
      Step b (.select r.id o.id now)
        ⟨b.requests.update r.id (QuoteRequest.chosen o.id now),
          (b.offers.updateWhere
            (fun o => o.fields.requestId = r.id ∧ o.fields.status = .selected)
            (QuoteOffer.marked .quoted now)).update o.id (QuoteOffer.marked .selected now)⟩

/-- A selected offer is the one its request names. -/
def Board.Named (b : Board) : Prop :=
  ∀ i o, b.offers.get? i = some o → o.fields.status = .selected →
    ∃ r, b.requests.get? o.fields.requestId = some r ∧ r.selectedOfferId = some i

/-- The request names a selected offer of its own. -/
def Board.HasSelected (b : Board) (r : QuoteRequest) : Prop :=
  ∃ i o, r.selectedOfferId = some i ∧ b.offers.get? i = some o ∧ o.fields.requestId = r.id ∧
    o.fields.status = .selected

/-- Requests and offers agree about what is selected. -/
structure Board.Coherent (b : Board) : Prop where
  atMostOne : ∀ i j o p, b.offers.get? i = some o → b.offers.get? j = some p →
    o.fields.status = .selected → p.fields.status = .selected →
    o.fields.requestId = p.fields.requestId → i = j
  named : b.Named
  chosen : ∀ i r, b.requests.get? i = some r → r.fields.status = .selected → b.HasSelected r

theorem Board.Named.atMostOne {b : Board} (hb : b.Named) {i j : String} {o p : QuoteOffer}
    (ho : b.offers.get? i = some o) (hp : b.offers.get? j = some p)
    (hos : o.fields.status = .selected) (hps : p.fields.status = .selected)
    (hreq : o.fields.requestId = p.fields.requestId) : i = j := by
  obtain ⟨r, hr, hri⟩ := hb i o ho hos
  obtain ⟨r', hr', hrj⟩ := hb j p hp hps
  rw [hreq] at hr
  obtain rfl : r = r' := Option.some.inj (hr.symm.trans hr')
  exact Option.some.inj (hri.symm.trans hrj)

/-- The moves that give a request the status `selected` without a selected offer, or take the
    selected offer of such a request away. -/
def Board.Move.Breaks (b : Board) : Board.Move → Prop
  | .create row => row.fields.status = .selected
  | .edit requestId changes now => ∃ r, b.requests.get? requestId = some r ∧
      (r.edited changes now).fields.status = .selected ∧ ¬ b.HasSelected r
  | .reoffer offerId _ _ => ∃ o r, b.offers.get? offerId = some o ∧
      o.fields.status = .selected ∧ b.requests.get? o.fields.requestId = some r ∧
      r.fields.status = .selected
  | _ => False

section Step

variable {b b' : Board} {m : Board.Move}

theorem QuoteRequest.offered_selectedOfferId (offer : OfferStatus) (now : String)
    (r : QuoteRequest) : (r.offered offer now).selectedOfferId = r.selectedOfferId := by
  unfold QuoteRequest.offered
  split_ifs <;> rfl

/-- An added offer does not select. -/
theorem QuoteRequest.offered_selected {offer : OfferStatus} {now : String} {r : QuoteRequest}
    (h : (r.offered offer now).fields.status = .selected) : r.fields.status = .selected := by
  unfold QuoteRequest.offered at h
  split_ifs at h
  exact h

/-- A selected offer stays the one its request names. -/
theorem Board.Named.step (hb : b.Named) (h : b.Step m b') : b'.Named := by
  intro i o ho hos
  cases h with
  | @create row T hT hnone =>
    obtain ⟨r, hr, hri⟩ := hb i o ho hos
    exact ⟨r, Table.get?_insert?_of_get? hT hr, hri⟩
  | @edit row changes now hrow =>
    obtain ⟨r, hr, hri⟩ := hb i o ho hos
    dsimp only
    refine ⟨_, Table.get?_update_eq_some.mpr ⟨r, hr, rfl⟩, ?_⟩
    split_ifs <;> exact hri
  | @offer row r T now hT hr hfree =>
    rw [Table.get?_insert?_eq_some hT] at ho
    obtain ⟨rfl, rfl⟩ | ⟨hne, ho⟩ := ho
    · exact absurd hos hfree
    · obtain ⟨r', hr', hri⟩ := hb i o ho hos
      dsimp only
      refine ⟨_, Table.get?_update_eq_some.mpr ⟨r', hr', rfl⟩, ?_⟩
      split_ifs
      · rw [QuoteRequest.offered_selectedOfferId, hri]
      · exact hri
  | @reoffer row fields now hrow hreq hfree =>
    rw [Table.get?_update_eq_some] at ho
    obtain ⟨o', ho', rfl⟩ := ho
    split_ifs at hos with hi
    · exact absurd hos hfree
    · rw [if_neg hi]
      exact hb i o' ho' hos
  | @select r p now hr hp hown =>
    simp only [Table.get?_update_eq_some, Table.get?_updateWhere_eq_some] at ho
    obtain ⟨_, ⟨o₂, ho₂, rfl⟩, rfl⟩ := ho
    by_cases hi : i = p.id
    · -- the offer that has been selected
      subst hi
      obtain rfl : p = o₂ := Option.some.inj (hp.symm.trans ho₂)
      refine ⟨r.chosen p.id now, ?_, rfl⟩
      have hreq : ∀ c : Bool, (if c then p.marked .quoted now else p).fields.requestId = r.id := by
        intro c
        cases c <;> exact hown
      rw [if_pos rfl]
      change Table.get? _ (ite _ _ _ : QuoteOffer).fields.requestId = _
      rw [hreq, Table.get?_update_of_get? hr]
    · -- another offer, which is selected only in another request
      rw [if_neg hi] at hos ⊢
      split_ifs at hos with hsel
      · cases hos
      · rw [if_neg hsel]
        obtain ⟨r', hr', hri⟩ := hb i o₂ ho₂ hos
        have hne : o₂.fields.requestId ≠ r.id := by
          intro he
          exact hsel (by simp [he, hos])
        refine ⟨r', ?_, hri⟩
        rw [Table.get?_update_of_ne _ hne]
        exact hr'

/-- A request that is selected names a selected offer, after a move that does not break it. -/
theorem Board.Coherent.step (hb : b.Coherent) (hkeep : ¬ m.Breaks b) (h : b.Step m b') :
    b'.Coherent := by
  have hnamed := hb.named.step h
  refine ⟨fun i j o p ho hp hos hps hreq => hnamed.atMostOne ho hp hos hps hreq, hnamed, ?_⟩
  intro i r hr hrs
  have hchosen := hb.chosen
  cases h with
  | @create row T hT hnone =>
    rw [Table.get?_insert?_eq_some hT] at hr
    obtain ⟨rfl, rfl⟩ | ⟨hne, hr⟩ := hr
    · exact absurd hrs hkeep
    · exact hchosen i r hr hrs
  | @edit row changes now hrow =>
    rw [Table.get?_update_eq_some] at hr
    obtain ⟨r', hr', rfl⟩ := hr
    split_ifs at hrs ⊢ with hi
    · subst hi
      by_contra hno
      exact hkeep ⟨r', hr', hrs, hno⟩
    · exact hchosen i r' hr' hrs
  | @offer row r₀ T now hT hr₀ hfree =>
    rw [Table.get?_update_eq_some] at hr
    obtain ⟨r', hr', rfl⟩ := hr
    have hr's : r'.fields.status = .selected := by
      split_ifs at hrs with hi
      · exact QuoteRequest.offered_selected hrs
      · exact hrs
    obtain ⟨j, o, hj, ho, hown, hos⟩ := hchosen i r' hr' hr's
    refine ⟨j, o, ?_, Table.get?_insert?_of_get? hT ho, ?_, hos⟩
    · split_ifs
      · rw [QuoteRequest.offered_selectedOfferId, hj]
      · exact hj
    · split_ifs
      · rw [QuoteRequest.offered_id, hown]
      · exact hown
  | @reoffer row fields now hrow hreq hfree =>
    obtain ⟨j, o, hj, ho, hown, hos⟩ := hchosen i r hr hrs
    have hne : j ≠ row.id := by
      rintro rfl
      obtain rfl : row = o := Option.some.inj (hrow.symm.trans ho)
      have hget : b.requests.get? row.fields.requestId = some r := by
        rw [hown, ← Table.key_of_get? hr] at *
        exact hr
      exact hkeep ⟨row, r, hrow, hos, hget, hrs⟩
    exact ⟨j, o, hj, by rw [Table.get?_update_of_ne _ hne]; exact ho, hown, hos⟩
  | @select r₀ p now hr₀ hp hown =>
    rw [Table.get?_update_eq_some] at hr
    obtain ⟨r', hr', rfl⟩ := hr
    split_ifs at hrs ⊢ with hi
    · subst hi
      obtain rfl : r₀ = r' := Option.some.inj (hr₀.symm.trans hr')
      have hmarked : ∀ c : Bool, (if c then p.marked .quoted now else p).fields.requestId =
          r₀.id := by
        intro c
        cases c <;> exact hown
      exact ⟨p.id, _, rfl, Table.get?_update_of_get?
        (Table.get?_updateWhere_eq_some.mpr ⟨p, hp, rfl⟩) (QuoteOffer.marked .selected now)
        (fun _ => rfl), hmarked _, rfl⟩
    · obtain ⟨j, o, hj, ho, hown', hos⟩ := hchosen i r' hr' hrs
      have hid : r'.id = i := Table.key_of_get? hr'
      have hreq : o.fields.requestId ≠ r₀.id := by
        rw [hown', hid]
        exact hi
      have hj' : j ≠ p.id := by
        rintro rfl
        obtain rfl : p = o := Option.some.inj (hp.symm.trans ho)
        exact hreq hown
      refine ⟨j, o, hj, ?_, hown', hos⟩
      rw [Table.get?_update_of_ne _ hj', Table.get?_updateWhere, ho]
      simp [hreq]

/-- A move that breaks the agreement does. -/
theorem Board.Step.breaks (hb : b.Coherent) (h : b.Step m b') (hbreak : m.Breaks b) :
    ¬ b'.Coherent := by
  intro hc
  cases h with
  | @create row T hT hnone =>
    obtain ⟨j, o, hj, -⟩ := hc.chosen row.id row
      ((Table.get?_insert?_eq_some hT).mpr (.inl ⟨rfl, rfl⟩)) hbreak
    rw [hnone] at hj
    cases hj
  | @edit row changes now hrow =>
    obtain ⟨r, hr, hrs, hno⟩ := hbreak
    obtain rfl : row = r := Option.some.inj (hrow.symm.trans hr)
    exact hno (hc.chosen row.id (row.edited changes now)
      (Table.get?_update_of_get? hrow (QuoteRequest.edited changes now) fun _ => rfl) hrs)
  | @reoffer row fields now hrow hreq hfree =>
    obtain ⟨o, r, ho, hos, hr, hrs⟩ := hbreak
    obtain rfl : row = o := Option.some.inj (hrow.symm.trans ho)
    obtain ⟨r', hr', hri⟩ := hb.named row.id row hrow hos
    obtain rfl : r = r' := Option.some.inj (hr.symm.trans hr')
    obtain ⟨j, o, hj, ho, -, hos'⟩ := hc.chosen _ r hr hrs
    obtain rfl : row.id = j := Option.some.inj (hri.symm.trans hj)
    dsimp only at ho
    rw [Table.get?_update_of_get? hrow] at ho
    cases ho
    exact hfree hos'
  | _ => exact hbreak

end Step

/-! ## The calls -/

/-- A call of one of the five tools. -/
inductive QuoteCall where
  | create (env : Env) (payload : Dict) (actorHash : String)
  | update (env : Env) (payload : Dict) (actorHash : String)
  | addOffer (env : Env) (payload : Dict) (actorHash : String)
  | updateOffer (env : Env) (payload : Dict) (actorHash : String)
  | select (env : Env) (payload : Dict) (actorHash : String)

def QuoteCall.exec (cfg : Config) (h : Hub) : QuoteCall → Except Raise (Hub × Json × Bool)
  | .create env payload actorHash => createQuote cfg h env payload actorHash
  | .update env payload actorHash => updateQuote cfg h env payload actorHash
  | .addOffer env payload actorHash => addQuoteOffer cfg h env payload actorHash
  | .updateOffer env payload actorHash => updateQuoteOffer cfg h env payload actorHash
  | .select env payload actorHash => selectQuoteOffer cfg h env payload actorHash

/-- The database after a call; a call that raises leaves it as it was. -/
def QuoteCall.step (cfg : Config) (h : Hub) (c : QuoteCall) : Hub :=
  match c.exec cfg h with
  | .ok (h', _) => h'
  | .error _ => h

/-- The call is about to be carried out, as this move: its arguments are valid, its key is new, the
    writer is held, and the rows it needs are there. -/
def QuoteCall.Issues (cfg : Config) (h : Hub) : QuoteCall → Board.Move → Prop
  | .create env payload _, m => ∃ key clean,
      idempotencyKey (payload.get "idempotency_key") = .ok key ∧
      requestFields cfg payload = .ok clean ∧ h.Open cfg key ∧
      h.projects.get? clean.projectId ≠ none ∧ h.quoteRequests.get? (env.uuid 0) = none ∧
      m = .create ⟨env.uuid 0, clean, none, 1, env.now 0, env.now 0⟩
  | .update env payload _, m => ∃ u r, quoteUpdate cfg payload = .ok u ∧ h.Open cfg u.key ∧
      h.quoteRequests.get? u.requestId = some r ∧ r.version = u.version ∧
      m = .edit u.requestId u.changes (env.now 0)
  | .addOffer env payload _, m => ∃ key clean r,
      idempotencyKey (payload.get "idempotency_key") = .ok key ∧
      cleanOfferPayload cfg payload true = .ok clean ∧ h.Open cfg key ∧
      h.quoteRequests.get? clean.requestId = some r ∧ h.quoteOffers.get? (env.uuid 0) = none ∧
      m = .offer ⟨env.uuid 0, clean, 1, env.now 0, env.now 0⟩ (env.now 0)
  | .updateOffer env payload _, m => ∃ u o fields, offerUpdate cfg payload = .ok u ∧
      h.Open cfg u.key ∧ h.quoteOffers.get? u.offerId = some o ∧
      editedOffer cfg env o u.changes = .ok fields ∧ u.version < 2 ^ 63 ∧
      o.version = u.version ∧ m = .reoffer u.offerId fields (env.now 0)
  | .select env payload _, m => ∃ u r o, selection cfg payload = .ok u ∧ h.Open cfg u.key ∧
      h.quoteRequests.get? u.requestId = some r ∧ h.quoteOffers.get? u.offerId = some o ∧
      r.version = u.version ∧ o.fields.requestId = u.requestId ∧
      o.effectiveStatus env ≠ .rejected ∧ o.effectiveStatus env ≠ .expired ∧
      m = .select u.requestId u.offerId (env.now 0)

/-- A caller cannot make an offer selected. -/
theorem OfferStatus.ofCallerText?_ne {s : String} {x : OfferStatus}
    (h : OfferStatus.ofCallerText? s = some x) : x ≠ .selected := by
  rintro rfl
  have := List.mem_of_find?_eq_some h
  simp at this

variable {cfg : Config} {payload : Dict} {creating : Bool}

/-- The status of a clean offer is one that a caller may give. -/
theorem cleanOfferPayload_status :
    ∀ clean, cleanOfferPayload cfg payload creating = .ok clean →
      choiceOr (payload.get "status") "status" OfferStatus.ofCallerText? .quoted =
        .ok clean.status := by
  unfold cleanOfferPayload
  -- the fields before the status
  iterate 24 refine forall_ok_bind fun _ _ => ?_
  refine forall_ok_bind fun status hstatus => ?_
  refine forall_ok_bind fun _ _ => forall_ok_bind fun _ _ => ?_
  rintro _ ⟨⟩
  exact hstatus

theorem QuoteOffer.document_status (env : Env) (o : QuoteOffer) :
    Dict.get (o.document env) "status" = .str o.fields.status.text := by
  simp [QuoteOffer.document, OfferFields.document, Dict.get, List.lookup_cons]

/-- An edited offer stays with its request and is not selected: the status is a new one, or the
    old one has passed the check for a status that a caller may give. -/
theorem editedOffer_ok {env : Env} {before : QuoteOffer} {changes : Dict} {fields : OfferFields}
    (h : editedOffer cfg env before changes = .ok fields) :
    fields.requestId = before.fields.requestId ∧ fields.status ≠ .selected := by
  simp only [editedOffer, bind_eq_ok, ensure_eq_ok, pure_eq_ok] at h
  obtain ⟨clean, hclean, _, hfree, rfl⟩ := h
  refine ⟨rfl, ?_⟩
  dsimp only
  split_ifs with hhas
  · exact hfree
  · have hstatus := cleanOfferPayload_status clean hclean
    have hget : ∀ (c : Bool) (d : Dict) (f : String), "status" ≠ f →
        Dict.get (if c then Dict.assigned d f .null else d) "status" = d.get "status" := by
      intro c d f hf
      cases c
      · rfl
      · exact Dict.get_assigned hf
    rw [hget _ _ _ (by decide), hget _ _ _ (by decide), Dict.get_assigned (by decide),
      Dict.get_merged (by simpa using hhas), QuoteOffer.document_status] at hstatus
    have hrefused : choiceOr (.str OfferStatus.selected.text) "status" OfferStatus.ofCallerText?
        .quoted = .error (rejecting "invalid_input" "status 不在允许范围") := rfl
    intro hsel
    rw [hsel, hrefused] at hstatus
    cases hstatus

theorem cleanOfferPayload_ne {clean : OfferFields}
    (h : cleanOfferPayload cfg payload creating = .ok clean) : clean.status ≠ .selected := by
  have hstatus := cleanOfferPayload_status clean h
  unfold choiceOr at hstatus
  split_ifs at hstatus
  · rw [← Except.ok.inj hstatus]
    decide
  · rw [choice, orRaise_eq_ok, Option.bind_eq_some_iff] at hstatus
    obtain ⟨s, _, hs⟩ := hstatus
    exact OfferStatus.ofCallerText?_ne hs

section Calls

variable {cfg : Config} {h h' : Hub} {c : QuoteCall} {m : Board.Move} {x : Json × Bool}

/-- A call that returns was a replay or was carried out. -/
theorem QuoteCall.exec_ok (hx : c.exec cfg h = .ok (h', x)) : h' = h ∨ ∃ m, c.Issues cfg h m := by
  cases c with
  | create env payload actorHash =>
    simp only [QuoteCall.exec, createQuote, createQuoteOperation, bind_eq_ok, runIdempotent_eq_ok, Prod.mk.injEq,
      Hub.projectExists, ensure_eq_ok, orRaise_eq_ok, pure_eq_ok] at hx
    obtain ⟨key, hkey, clean, hclean, ⟨row, _, _, rfl, _⟩ | ⟨hopen, _, _, _, hop, _⟩⟩ := hx
    · exact .inl rfl
    · obtain ⟨_, hproject, T, hT, _⟩ := hop
      exact .inr ⟨_, key, clean, hkey, hclean, hopen, hproject, Table.get?_of_insert? hT, rfl⟩
  | update env payload actorHash =>
    simp only [QuoteCall.exec, updateQuote, updateQuoteOperation, bind_eq_ok, runIdempotent_eq_ok, Prod.mk.injEq,
      Hub.quoteRequest, ensure_eq_ok, orRaise_eq_ok, pure_eq_ok] at hx
    obtain ⟨u, hu, ⟨row, _, _, rfl, _⟩ | ⟨hopen, _, _, _, hop, _⟩⟩ := hx
    · exact .inl rfl
    · obtain ⟨r, hr, _, hversion, _⟩ := hop
      exact .inr ⟨_, u, r, hu, hopen, hr, hversion, rfl⟩
  | addOffer env payload actorHash =>
    simp only [QuoteCall.exec, addQuoteOffer, addQuoteOfferOperation, bind_eq_ok, runIdempotent_eq_ok, Prod.mk.injEq,
      Hub.quoteRequest, orRaise_eq_ok, pure_eq_ok] at hx
    obtain ⟨key, hkey, clean, hclean, ⟨row, _, _, rfl, _⟩ | ⟨hopen, _, _, _, hop, _⟩⟩ := hx
    · exact .inl rfl
    · obtain ⟨r, hr, T, hT, _⟩ := hop
      exact .inr ⟨_, key, clean, r, hkey, hclean, hopen, hr, Table.get?_of_insert? hT, rfl⟩
  | updateOffer env payload actorHash =>
    simp only [QuoteCall.exec, updateQuoteOffer, updateQuoteOfferOperation, bind_eq_ok, runIdempotent_eq_ok, Prod.mk.injEq,
      Hub.quoteOffer, ensure_eq_ok, orRaise_eq_ok, pure_eq_ok] at hx
    obtain ⟨u, hu, ⟨row, _, _, rfl, _⟩ | ⟨hopen, _, _, _, hop, _⟩⟩ := hx
    · exact .inl rfl
    · obtain ⟨o, ho, fields, hfields, _, hsmall, _, hversion, _⟩ := hop
      exact .inr ⟨_, u, o, fields, hu, hopen, ho, hfields, hsmall, hversion, rfl⟩
  | select env payload actorHash =>
    simp only [QuoteCall.exec, selectQuoteOffer, selectQuoteOfferOperation, bind_eq_ok, runIdempotent_eq_ok, Prod.mk.injEq,
      Hub.quoteRequest, Hub.quoteOffer, ensure_eq_ok, orRaise_eq_ok, pure_eq_ok] at hx
    obtain ⟨u, hu, ⟨row, _, _, rfl, _⟩ | ⟨hopen, _, _, _, hop, _⟩⟩ := hx
    · exact .inl rfl
    · obtain ⟨r, hr, o, ho, _, hversion, _, ⟨hown, hrej, hexp⟩, _⟩ := hop
      exact .inr ⟨_, u, r, o, hu, hopen, hr, ho, hversion, hown, hrej, hexp, rfl⟩

/-- What a call issues, it carries out. -/
theorem QuoteCall.Issues.exec (hm : c.Issues cfg h m) :
    ∃ h' x, c.exec cfg h = .ok (h', x) ∧ h.board.Step m h'.board := by
  cases c with
  | create env payload actorHash =>
    obtain ⟨key, clean, hkey, hclean, hopen, hproject, hfree, rfl⟩ := hm
    obtain ⟨T, hT⟩ := Table.insert?_of_get? (T := h.quoteRequests)
      (r := ⟨env.uuid 0, clean, none, 1, env.now 0, env.now 0⟩) hfree
    obtain ⟨log, result, hop⟩ := createQuoteOperation_ok actorHash key hproject hT
    obtain ⟨keys, hrun⟩ := runIdempotent_of_open hopen hop rfl
    refine ⟨_, _, Eq.trans ?_ hrun, ?_⟩
    · simp only [QuoteCall.exec, createQuote, hkey, hclean, ok_bind]
      rfl
    · exact .create hT rfl
  | update env payload actorHash =>
    obtain ⟨u, r, hu, hopen, hr, hversion, rfl⟩ := hm
    have hid : r.id = u.requestId := Table.key_of_get? hr
    obtain ⟨log, result, hop⟩ := updateQuoteOperation_ok actorHash hr hversion
    obtain ⟨keys, hrun⟩ := runIdempotent_of_open hopen hop rfl
    refine ⟨_, _, Eq.trans ?_ hrun, ?_⟩
    · simp only [QuoteCall.exec, updateQuote, hu, ok_bind]
      rfl
    · rw [← hid] at hr ⊢
      exact .edit hr
  | addOffer env payload actorHash =>
    obtain ⟨key, clean, r, hkey, hclean, hopen, hr, hfree, rfl⟩ := hm
    obtain ⟨T, hT⟩ := Table.insert?_of_get? (T := h.quoteOffers)
      (r := ⟨env.uuid 0, clean, 1, env.now 0, env.now 0⟩) hfree
    obtain ⟨log, result, hop⟩ := addQuoteOfferOperation_ok actorHash key hr hT
    obtain ⟨keys, hrun⟩ := runIdempotent_of_open hopen hop rfl
    refine ⟨_, _, Eq.trans ?_ hrun, ?_⟩
    · simp only [QuoteCall.exec, addQuoteOffer, hkey, hclean, ok_bind]
      rfl
    · exact .offer hT hr (cleanOfferPayload_ne hclean)
  | updateOffer env payload actorHash =>
    obtain ⟨u, o, fields, hu, hopen, ho, hfields, hsmall, hversion, rfl⟩ := hm
    have hid : o.id = u.offerId := Table.key_of_get? ho
    obtain ⟨log, result, hop⟩ := updateQuoteOfferOperation_ok actorHash ho hfields hsmall hversion
    obtain ⟨keys, hrun⟩ := runIdempotent_of_open hopen hop rfl
    obtain ⟨hreq, hfree⟩ := editedOffer_ok hfields
    refine ⟨_, _, Eq.trans ?_ hrun, ?_⟩
    · simp only [QuoteCall.exec, updateQuoteOffer, hu, ok_bind]
      rfl
    · rw [← hid] at ho ⊢
      exact .reoffer ho hreq hfree
  | select env payload actorHash =>
    obtain ⟨u, r, o, hu, hopen, hr, ho, hversion, hown, hrej, hexp, rfl⟩ := hm
    have hrid : r.id = u.requestId := Table.key_of_get? hr
    have hoid : o.id = u.offerId := Table.key_of_get? ho
    obtain ⟨log, result, hop⟩ := selectQuoteOfferOperation_ok actorHash hr ho hversion
      ⟨hown, hrej, hexp⟩
    obtain ⟨keys, hrun⟩ := runIdempotent_of_open hopen hop rfl
    refine ⟨_, _, Eq.trans ?_ hrun, ?_⟩
    · simp only [QuoteCall.exec, selectQuoteOffer, hu, ok_bind]
      rfl
    · rw [← hrid] at hr hown ⊢
      rw [← hoid] at ho ⊢
      exact .select hr ho hown

theorem QuoteCall.Issues.step (hm : c.Issues cfg h m) :
    h.board.Step m (c.step cfg h).board := by
  obtain ⟨h', x, hx, hstep⟩ := hm.exec
  rw [QuoteCall.step, hx]
  exact hstep

/-- A call leaves the tables alone or makes a move. -/
theorem QuoteCall.step_cases (cfg : Config) (h : Hub) (c : QuoteCall) :
    (c.step cfg h).board = h.board ∨ ∃ m, c.Issues cfg h m := by
  unfold QuoteCall.step
  cases hx : c.exec cfg h with
  | error e => exact .inl rfl
  | ok x =>
    obtain ⟨h', x⟩ := x
    obtain rfl | hm := QuoteCall.exec_ok hx
    · exact .inl rfl
    · exact .inr hm

/-- The call is about to break the agreement: it gives a request without a selected offer the
    status `selected`, or takes the status of the selected offer of such a request away. -/
def QuoteCall.Breaks (cfg : Config) (h : Hub) (c : QuoteCall) : Prop :=
  ∃ m, c.Issues cfg h m ∧ m.Breaks h.board

/-- Requests and offers agree about what is selected in every state of a run exactly when no call
    of the run breaks the agreement. -/
theorem coherent_iff (hrequests : h.quoteRequests = Table.empty)
    (hoffers : h.quoteOffers = Table.empty) (calls : List QuoteCall) :
    Throughout (QuoteCall.step cfg) (fun h => h.board.Coherent) h calls ↔
      EveryStep (QuoteCall.step cfg) (fun h c => ¬ c.Breaks cfg h) h calls := by
  have hempty : h.board.Coherent := by
    rw [Hub.board, hrequests, hoffers]
    exact ⟨fun _ _ _ _ ho => by simp at ho, fun _ _ ho => by simp at ho,
      fun _ _ hr => by simp at hr⟩
  refine throughout_iff_everyStep (QuoteCall.step cfg) (fun _ hb => hb) ?_ ?_ hempty
  · intro h c hb hkeep
    obtain heq | ⟨m, hm⟩ := QuoteCall.step_cases cfg h c
    · rw [heq]
      exact hb
    · exact hb.step (fun hbreak => hkeep ⟨m, hm, hbreak⟩) hm.step
  · intro h c hb hbreak
    rw [not_not] at hbreak
    obtain ⟨m, hm, hbreak⟩ := hbreak
    exact hm.step.breaks hb hbreak

/-- A new request, with what the caller says about its status. -/
def createPayload (status : Json) : Dict :=
  [("idempotency_key", .str "quote-create-0001"), ("project_id", .str "project-01"),
    ("title", .str "Tiles"), ("status", status)]

theorem createPayload_facts :
    (requestFields sampleConfig (createPayload .null)).toOption.any
      (fun clean => clean.status = .inquiry) ∧
    (requestFields sampleConfig (createPayload (.str "selected"))).toOption.any
      (fun clean => clean.projectId = "project-01" ∧ clean.status = .selected) := by
  decide +kernel

theorem coherent_iff_sample : Throughout (QuoteCall.step sampleConfig) (fun h => h.board.Coherent)
    sampleHub [.create (sampleEnv "quote-01") (createPayload .null) "page"] := by
  refine (coherent_iff rfl rfl _).mpr ⟨?_, trivial⟩
  rintro ⟨m, ⟨_, clean, _, hclean, _, _, _, rfl⟩, hbreak⟩
  obtain ⟨hfacts, _⟩ := createPayload_facts
  rw [hclean] at hfacts
  have hinquiry : clean.status = .inquiry := by simpa [Except.toOption] using hfacts
  have hselected : clean.status = .selected := hbreak
  rw [hinquiry] at hselected
  cases hselected

/-- A request may be created as `selected` before it has any offer. -/
theorem created_selected : ¬ Throughout (QuoteCall.step sampleConfig)
    (fun h => h.board.Coherent) sampleHub
    [.create (sampleEnv "quote-01") (createPayload (.str "selected")) "page"] := by
  obtain ⟨_, hfacts⟩ := createPayload_facts
  rw [Option.any_eq_true] at hfacts
  obtain ⟨clean, hclean, hfacts⟩ := hfacts
  rw [decide_eq_true_eq] at hfacts
  obtain ⟨hproject, hselected⟩ := hfacts
  have hm : (QuoteCall.create (sampleEnv "quote-01") (createPayload (.str "selected"))
      "page").Issues sampleConfig sampleHub _ :=
    ⟨"quote-create-0001", clean, rfl, toOption_eq_some.mp hclean, sampleHub_open _,
      by rw [hproject]; decide, rfl, rfl⟩
  intro hrun
  refine hm.step.breaks ?_ hselected hrun.last
  exact hrun.head

end Calls

end HomeAddons.Renovation
