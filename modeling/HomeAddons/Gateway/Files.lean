import HomeAddons.Common.Run
import HomeAddons.Gateway.Inbox

/-!
# Weixin Gateway: attachments and their files

Attachments are rows of the database, their contents are files named by digest and shared by every
row of that digest. A call puts its files in place before it commits its rows, and takes the ones it
created away again when it fails; a clean-up deletes files before it commits the deletion of the
rows. A step of a run is one effect of a call on a file or on the database; every call that writes
holds the write lock of the database until it commits, fails or the process stops.

* `step_kept`: the invariant of the runs.
* `spool_kept`: every attachment that can still be used has its file, unless a call finds a file
  that the failure handler of another is about to delete.
* `late_undo_deletes`: then a row can lose its file.
-/

namespace HomeAddons.Gateway

open HomeAddons.Common

/-! ## Model -/

/-- `hashlib.sha256(content).hexdigest()`, the name of the file of a content. -/
def storageName (content : List UInt8) : String := String.ofList (sha256Chars content)

/-- Neither consumed nor expired. -/
def Attachment.isLive (b : Attachment) (now : String) : Bool :=
  b.consumedAt = none ∧ now < b.expiresAt

/-- A call that holds the write lock, with the attachments as its transaction has them. -/
inductive Writer where
  /-- `store_message`, at the loop over its media (lines 3576–3612). -/
  | storing (attachments : Table Attachment.attachmentRef) (a : StoredMessage) (clock : StoreClock)
      (n : ℕ) (media : List (MediaSpec × List UInt8)) (staged : List SpoolFile)
  /-- `store_message`, at the loop over its staged files (lines 3631–3637). -/
  | installing (attachments : Table Attachment.attachmentRef) (staged : List SpoolFile)
      (created : List String)
  /-- `store_message`, in its failure handler (lines 3639–3645). -/
  | undoing (created : List String)
  /-- `cleanup_spool`, at its loop (lines 3978–3985). -/
  | cleaning (attachments : Table Attachment.attachmentRef) (due : List Attachment)

structure SpoolWorld where
  now : String
  attachments : Table Attachment.attachmentRef
  spool : Table SpoolFile.name
  writer : Option Writer
  /-- The files that the handlers of commits that failed have still to delete. The transaction of
      such a commit is rolled back, and the lock is free. -/
  handlers : List (List String)
  /-- The references that were consumed, the latest first. -/
  consumed : List String

namespace SpoolWorld

variable (w : SpoolWorld)

/-- The content of the file of an attachment is the one of the row. -/
def isReadable (b : Attachment) : Bool :=
  (w.spool.get? b.storageName).any fun f =>
    f.content.length = b.sizeBytes ∧ storageName f.content = b.sha256

/-- One medium: its file is staged when there is none of that name, and its row is inserted. -/
def stage : SpoolWorld :=
  match w.writer with
  | some (.storing attachments a clock n ((spec, content) :: media) staged) =>
    let file : SpoolFile := ⟨storageName content, content⟩
    let staged := if (w.spool.get? file.name).isSome then staged else staged ++ [file]
    match attachments.insert? (a.attachment clock n spec content) with
    | some attachments =>
      { w with writer := some (.storing attachments a clock (n + 1) media staged) }
    | none => { w with writer := some (.undoing []) }
  | some (.storing attachments _ _ _ [] staged) =>
    { w with writer := some (.installing attachments staged []) }
  | _ => w

/-- One staged file: it is put in place when there is none of that name. -/
def install : SpoolWorld :=
  match w.writer with
  | some (.installing attachments (file :: staged) created) =>
    match w.spool.insert? file with
    | some spool => { w with
        spool := spool
        writer := some (.installing attachments staged (created ++ [file.name])) }
    | none => { w with writer := some (.installing attachments staged created) }
  | _ => w

/-- One attachment that is due: its row is deleted, and its file when no other row has it. -/
def clean : SpoolWorld :=
  match w.writer with
  | some (.cleaning attachments (b :: due)) =>
    let attachments := attachments.erase b.attachmentRef
    let shared := attachments.rows.any fun b' => b'.storageName = b.storageName
    { w with
      spool := if shared then w.spool else w.spool.erase b.storageName
      writer := some (.cleaning attachments due) }
  | _ => w

/-- The end of the loop. -/
def commit : SpoolWorld :=
  match w.writer with
  | some (.installing attachments [] _) => { w with attachments := attachments, writer := none }
  | some (.cleaning attachments []) => { w with attachments := attachments, writer := none }
  | _ => w

/-- A commit that fails rolls the transaction back before it raises. -/
def failCommit : SpoolWorld :=
  match w.writer with
  | some (.installing _ [] created) =>
    { w with writer := none, handlers := w.handlers ++ [created] }
  | some (.cleaning _ []) => { w with writer := none }
  | _ => w

/-- An exception before the commit, or in the handler of one. -/
def interrupt : SpoolWorld :=
  match w.writer with
  | some (.storing ..) => { w with writer := some (.undoing []) }
  | some (.installing _ _ created) => { w with writer := some (.undoing created) }
  | some (.undoing _) => { w with writer := none }
  | some (.cleaning ..) => { w with writer := none }
  | none => w

/-- The failure handler of a call that still holds the lock. -/
def undo : SpoolWorld :=
  match w.writer with
  | some (.undoing (name :: created)) =>
    { w with spool := w.spool.erase name, writer := some (.undoing created) }
  | some (.undoing []) => { w with writer := none }
  | _ => w

/-- The failure handler of a call whose commit failed. -/
def undoLate (k : ℕ) : SpoolWorld :=
  match w.handlers[k]? with
  | some (name :: created) =>
    { w with spool := w.spool.erase name, handlers := w.handlers.set k created }
  | _ => w

/-- `_read_attachment(reference, consume=True)` (lines 3948–3968), up to its commit. -/
def consume (reference : String) : SpoolWorld :=
  match w.attachments.get? reference with
  | some b =>
    if b.isLive w.now ∧ w.isReadable b then { w with
      attachments := w.attachments.update reference fun b => { b with consumedAt := some w.now }
      consumed := reference :: w.consumed }
    else w
  | none => w

/-- `acknowledge_attachment(reference, sha256)` (lines 3922–3946), up to its commit. -/
def acknowledge (reference sha256 : String) : SpoolWorld :=
  match w.attachments.get? reference with
  | some b =>
    if b.isLive w.now ∧ "sha256:" ++ b.sha256 = sha256 then { w with
      attachments := w.attachments.update reference fun b => { b with consumedAt := some w.now }
      consumed := reference :: w.consumed }
    else w
  | none => w

end SpoolWorld

inductive SpoolEvent where
  | store (a : StoredMessage) (clock : StoreClock)
  | stage
  | install
  | cleanup (now : String)
  | clean
  | commit
  | failCommit
  | interrupt
  | undo
  | undoLate (k : ℕ)
  | consume (reference : String)
  | acknowledge (reference sha256 : String)
  /-- The process stops: the transaction is rolled back, the files stay. -/
  | stop
  | tick (now : String)

namespace SpoolWorld

/-- A call that writes waits for the lock. -/
def step (w : SpoolWorld) : SpoolEvent → SpoolWorld
  | .store a clock =>
    if w.writer.isNone then
      { w with writer := some (.storing w.attachments a clock 0 a.media []) }
    else w
  | .stage => w.stage
  | .install => w.install
  | .cleanup now =>
    if w.writer.isNone ∧ now ≤ w.now then
      { w with writer := some (.cleaning w.attachments
          (w.attachments.rows.filter fun b => b.expiresAt ≤ now ∨ b.consumedAt ≠ none)) }
    else w
  | .clean => w.clean
  | .commit => w.commit
  | .failCommit => w.failCommit
  | .interrupt => w.interrupt
  | .undo => w.undo
  | .undoLate k => w.undoLate k
  | .consume reference => if w.writer.isNone then w.consume reference else w
  | .acknowledge reference sha256 => if w.writer.isNone then w.acknowledge reference sha256 else w
  | .stop => { w with writer := none, handlers := [] }
  | .tick now => if w.now ≤ now then { w with now := now } else w

def new : SpoolWorld := ⟨"", .empty, .empty, none, [], []⟩

/-! ## The invariant -/

variable {w : SpoolWorld}

variable {b b' : Attachment} {now name : String} {attachments : Table Attachment.attachmentRef}
  {due : List Attachment} {staged : List SpoolFile} {handlers : List (List String)} {c : Writer}
  {file : SpoolFile} {spool : Table SpoolFile.name}

theorem isReadable_iff : w.isReadable b = true ↔
    ∃ f, w.spool.get? b.storageName = some f ∧ f.content.length = b.sizeBytes ∧
      storageName f.content = b.sha256 := by
  unfold isReadable
  rw [Option.any_eq_true]
  simp only [decide_eq_true_eq]

theorem isLive_iff : b.isLive now = true ↔ b.consumedAt = none ∧ now < b.expiresAt := by
  unfold Attachment.isLive
  rw [decide_eq_true_eq]

/-- The file is the one that the row is about. -/
def Matches (b : Attachment) (f : SpoolFile) : Prop :=
  b.storageName = f.name ∧ f.content.length = b.sizeBytes ∧ storageName f.content = b.sha256

/-- No attachment that can be used has the name. -/
def Spare (w : SpoolWorld) (name : String) : Prop :=
  ∀ b ∈ w.attachments.rows, b.isLive w.now = true → b.storageName ≠ name

/-- The attachments of a transaction whose files are in place or staged. -/
structure Pending (w : SpoolWorld) (attachments : Table Attachment.attachmentRef)
    (staged : List SpoolFile) : Prop where
  files : ∀ b ∈ attachments.rows, b.isLive w.now = true →
    w.isReadable b = true ∨ ∃ f ∈ staged, Matches b f
  /-- No handler deletes their files. -/
  spared : ∀ b ∈ attachments.rows, b.isLive w.now = true → ∀ names ∈ w.handlers,
    b.storageName ∉ names
  /-- A name stands for one content. -/
  agree : ∀ f ∈ staged, ∀ f' ∈ w.spool.rows ++ staged, f.name = f'.name → f'.content = f.content
  unused : ∀ b ∈ attachments.rows, b.consumedAt = none → b.attachmentRef ∉ w.consumed

/-- What holds of the call that has the lock. -/
def Holding (w : SpoolWorld) : Writer → Prop
  | .storing attachments _ _ _ _ staged => Pending w attachments staged
  | .installing attachments staged created =>
    Pending w attachments staged ∧ ∀ name ∈ created, Spare w name
  | .undoing created => ∀ name ∈ created, Spare w name
  | .cleaning attachments due =>
    (∀ b ∈ w.attachments.rows, b.isLive w.now = true → b ∈ attachments.rows) ∧
    (∀ b ∈ attachments.rows, b ∈ w.attachments.rows) ∧
    ∀ b ∈ due, ∀ b' ∈ w.attachments.rows, b'.attachmentRef = b.attachmentRef →
      b'.isLive w.now = false

structure Kept (w : SpoolWorld) : Prop where
  /-- An attachment that can be used has its file. -/
  files : ∀ b ∈ w.attachments.rows, b.isLive w.now = true → w.isReadable b = true
  /-- No handler deletes it. -/
  spared : ∀ names ∈ w.handlers, ∀ name ∈ names, Spare w name
  once : w.consumed.Nodup
  unused : ∀ b ∈ w.attachments.rows, b.consumedAt = none → b.attachmentRef ∉ w.consumed
  writer : ∀ c, w.writer = some c → Holding w c

/-- The reference and the digest of the next medium are new: the reference was not consumed, and
    no file of another content has the name. -/
def isOrdinary (w : SpoolWorld) : SpoolEvent → Bool
  | .stage =>
    match w.writer with
    | some (.storing _ _ clock n ((_, content) :: _) staged) => clock.reference n ∉ w.consumed ∧
        ∀ f ∈ w.spool.rows ++ staged, f.name = storageName content → f.content = content
    | _ => true
  | _ => true

/-- No handler of a commit that failed has still to delete the file that the next medium looks
    for. -/
def isUndisturbed (w : SpoolWorld) : SpoolEvent → Bool
  | .stage =>
    match w.writer with
    | some (.storing _ _ _ _ ((_, content) :: _) _) =>
      ∀ names ∈ w.handlers, storageName content ∉ names
    | _ => true
  | _ => true

/-- The file of an attachment that can be used stays as it is. -/
def KeepsFiles (w : SpoolWorld) (e : SpoolEvent) : Prop :=
  ∀ b ∈ w.attachments.rows, b.isLive w.now = true → ∀ f, w.spool.get? b.storageName = some f →
    (w.step e).spool.get? b.storageName = some f

theorem get?_erase_of_spare (h : Spare w name) (hb : b ∈ w.attachments.rows)
    (hlive : b.isLive w.now = true) :
    (w.spool.erase name).get? b.storageName = w.spool.get? b.storageName := by
  rw [Table.get?_erase, if_neg (h b hb hlive)]

/-- A clean-up keeps the rows that can be used. -/
theorem mem_cleaned (hc : Holding w (.cleaning attachments (b :: due)))
    (hb' : b' ∈ w.attachments.rows) (hlive : b'.isLive w.now = true) :
    b' ∈ (attachments.erase b.attachmentRef).rows := by
  refine List.mem_filter.mpr ⟨hc.1 b' hb' hlive, decide_eq_true fun href => ?_⟩
  rw [hc.2.2 b List.mem_cons_self b' hb' href] at hlive
  exact absurd hlive Bool.false_ne_true

/-- And their files. -/
theorem get?_cleaned (hc : Holding w (.cleaning attachments (b :: due)))
    (hb' : b' ∈ w.attachments.rows) (hlive : b'.isLive w.now = true) :
    (if (attachments.erase b.attachmentRef).rows.any fun b' => b'.storageName = b.storageName
      then w.spool else w.spool.erase b.storageName).get? b'.storageName =
      w.spool.get? b'.storageName := by
  split_ifs with hshared
  · rfl
  · rw [Table.get?_erase, if_neg]
    intro hname
    exact hshared (List.any_eq_true.mpr ⟨b', mem_cleaned hc hb' hlive, decide_eq_true hname⟩)

theorem step_keepsFiles (h : Kept w) (e : SpoolEvent) : KeepsFiles w e := by
  intro b hb hlive f hf
  cases e with
  | store a clock =>
    simp only [step]
    split_ifs <;> exact hf
  | stage =>
    simp only [step, stage]
    split
    · split <;> exact hf
    · exact hf
    · exact hf
  | install =>
    simp only [step, install]
    split
    · split
      · rename_i spool hinsert
        exact Table.get?_insert?_of_get? hinsert hf
      · exact hf
    · exact hf
  | cleanup now =>
    simp only [step]
    split_ifs <;> exact hf
  | clean =>
    simp only [step, clean]
    split
    · rename_i attachments b' due hwriter
      dsimp only
      rw [get?_cleaned (h.writer _ hwriter) hb hlive]
      exact hf
    · exact hf
  | commit =>
    simp only [step, commit]
    split <;> exact hf
  | failCommit =>
    simp only [step, failCommit]
    split <;> exact hf
  | interrupt =>
    simp only [step, interrupt]
    split <;> exact hf
  | undo =>
    simp only [step, undo]
    split
    · rename_i name created hwriter
      dsimp only
      rw [get?_erase_of_spare (h.writer _ hwriter name List.mem_cons_self) hb hlive]
      exact hf
    · exact hf
    · exact hf
  | undoLate k =>
    simp only [step, undoLate]
    split
    · rename_i name created hk
      dsimp only
      rw [get?_erase_of_spare (h.spared _ (List.mem_of_getElem? hk) name List.mem_cons_self) hb
        hlive]
      exact hf
    · exact hf
  | consume reference =>
    simp only [step, consume]
    split_ifs
    · split
      · split_ifs <;> exact hf
      · exact hf
    · exact hf
  | acknowledge reference sha256 =>
    simp only [step, acknowledge]
    split_ifs
    · split
      · split_ifs <;> exact hf
      · exact hf
    · exact hf
  | stop => exact hf
  | tick now =>
    simp only [step]
    split_ifs <;> exact hf

theorem new_kept : Kept new where
  files := fun _ hb => absurd hb List.not_mem_nil
  spared := fun _ hnames => absurd hnames List.not_mem_nil
  once := List.nodup_nil
  unused := fun _ hb => absurd hb List.not_mem_nil
  writer := fun _ hc => by cases hc

/-- A file of a name that no attachment of the transaction has is deleted. -/
theorem Pending.erase (h : Pending w attachments staged)
    (hname : ∀ b ∈ attachments.rows, b.isLive w.now = true → b.storageName ≠ name)
    (hhandlers : ∀ names ∈ handlers, ∃ names' ∈ w.handlers, names ⊆ names') :
    Pending { w with spool := w.spool.erase name, handlers := handlers } attachments staged where
  files := by
    intro b hb hlive
    refine (h.files b hb hlive).imp_left fun hreadable => ?_
    obtain ⟨f, hf, hmatch⟩ := isReadable_iff.mp hreadable
    refine isReadable_iff.mpr ⟨f, ?_, hmatch⟩
    rw [Table.get?_erase, if_neg (hname b hb hlive)]
    exact hf
  spared := by
    intro b hb hlive names hnames hmem
    obtain ⟨names', hnames', hsub⟩ := hhandlers names hnames
    exact h.spared b hb hlive names' hnames' (hsub hmem)
  agree := by
    intro f hf f' hf' hname'
    refine h.agree f hf f' ?_ hname'
    obtain hf' | hf' := List.mem_append.mp hf'
    · exact List.mem_append_left _ (List.mem_of_mem_filter hf')
    · exact List.mem_append_right _ hf'
  unused := h.unused

theorem Kept.setWriter (h : Kept w) (hc : Holding w c) :
    Kept { w with writer := some c } where
  files := h.files
  spared := h.spared
  once := h.once
  unused := h.unused
  writer := by
    intro c' hc'
    obtain rfl := Option.some.inj hc'
    cases c with
    | storing attachments a clock n media staged =>
      exact ⟨hc.files, hc.spared, hc.agree, hc.unused⟩
    | installing attachments staged created =>
      exact ⟨⟨hc.1.files, hc.1.spared, hc.1.agree, hc.1.unused⟩, hc.2⟩
    | undoing created => exact hc
    | cleaning attachments due => exact hc

theorem Kept.release (h : Kept w) (hhandlers : ∀ names ∈ handlers, ∀ name ∈ names, Spare w name) :
    Kept { w with writer := none, handlers := handlers } where
  files := h.files
  spared := hhandlers
  once := h.once
  unused := h.unused
  writer := fun _ hc => by cases hc

/-- A medium whose row is inserted. -/
theorem Pending.stage {attachments' : Table Attachment.attachmentRef}
    (h : Pending w attachments staged) {a : StoredMessage} {clock : StoreClock} {n : ℕ}
    {spec : MediaSpec} {content : List UInt8} (hreference : clock.reference n ∉ w.consumed)
    (hcontent : ∀ f ∈ w.spool.rows ++ staged, f.name = storageName content → f.content = content)
    (hhandlers : ∀ names ∈ w.handlers, storageName content ∉ names)
    (hinsert : attachments.insert? (a.attachment clock n spec content) = some attachments') :
    Pending w attachments' (if (w.spool.get? (storageName content)).isSome then staged
      else staged ++ [⟨storageName content, content⟩]) := by
  have hstaged : ∀ f ∈ staged, f ∈ (if (w.spool.get? (storageName content)).isSome then staged
      else staged ++ [⟨storageName content, content⟩]) := by
    intro f hf
    split_ifs
    · exact hf
    · exact List.mem_append_left _ hf
  have hmem : ∀ {b}, b ∈ attachments'.rows →
      b ∈ attachments.rows ∨ b = a.attachment clock n spec content := by
    intro b hb
    rw [Table.rows_insert? hinsert] at hb
    exact (List.mem_append.mp hb).imp_right List.mem_singleton.mp
  refine ⟨?_, ?_, ?_, ?_⟩
  · intro b hb hlive
    obtain hb | rfl := hmem hb
    · exact (h.files b hb hlive).imp_right fun ⟨f, hf, hmatch⟩ => ⟨f, hstaged f hf, hmatch⟩
    · cases hget : w.spool.get? (storageName content) with
      | some f =>
        have heq := hcontent f (List.mem_append_left _ (Table.mem_of_get? hget))
          (Table.key_of_get? hget)
        refine .inl (isReadable_iff.mpr ⟨f, hget, ?_⟩)
        rw [heq]
        exact ⟨rfl, rfl⟩
      | none =>
        exact .inr ⟨⟨storageName content, content⟩, List.mem_append_right _ List.mem_cons_self,
          rfl, rfl, rfl⟩
  · intro b hb hlive names hnames
    obtain hb | rfl := hmem hb
    · exact h.spared b hb hlive names hnames
    · exact hhandlers names hnames
  · split_ifs
    · exact h.agree
    · intro f hf f' hf' hname
      rw [← List.append_assoc] at hf'
      obtain hf | hf := List.mem_append.mp hf <;> obtain hf' | hf' := List.mem_append.mp hf'
      · exact h.agree f hf f' hf' hname
      · rw [List.mem_singleton.mp hf'] at hname ⊢
        exact (hcontent f (List.mem_append_right _ hf) hname).symm
      · rw [List.mem_singleton.mp hf] at hname ⊢
        exact hcontent f' hf' hname.symm
      · rw [List.mem_singleton.mp hf, List.mem_singleton.mp hf']
  · intro b hb hconsumed
    obtain hb | rfl := hmem hb
    · exact h.unused b hb hconsumed
    · exact hreference

/-- The next medium of a message. -/
theorem stage_kept (h : Kept w) (hordinary : w.isOrdinary .stage = true)
    (hundisturbed : w.isUndisturbed .stage = true) : Kept w.stage := by
  unfold SpoolWorld.stage
  split
  · rename_i attachments a clock n spec content media staged hw
    have hpending : Pending w attachments staged := h.writer _ hw
    simp only [isOrdinary, isUndisturbed, hw, decide_eq_true_eq] at hordinary hundisturbed
    obtain ⟨hreference, hcontent⟩ := hordinary
    dsimp only
    split
    · rename_i attachments' hinsert
      exact h.setWriter (hpending.stage hreference hcontent hundisturbed hinsert)
    · exact h.setWriter (fun _ hname => absurd hname List.not_mem_nil)
  · rename_i attachments a clock n staged hw
    have hpending : Pending w attachments staged := h.writer _ hw
    exact h.setWriter ⟨hpending, fun _ hname => absurd hname List.not_mem_nil⟩
  · exact h

/-- A staged file is put in place. -/
theorem Pending.install (h : Pending w attachments (file :: staged))
    (hinsert : w.spool.insert? file = some spool) :
    Pending { w with spool := spool } attachments staged where
  files := by
    intro b hb hlive
    obtain hreadable | ⟨f, hf, hmatch⟩ := h.files b hb hlive
    · obtain ⟨f, hf, hmatch⟩ := isReadable_iff.mp hreadable
      exact .inl (isReadable_iff.mpr ⟨f, Table.get?_insert?_of_get? hinsert hf, hmatch⟩)
    · obtain rfl | hf := List.mem_cons.mp hf
      · refine .inl (isReadable_iff.mpr ⟨f, ?_, hmatch.2⟩)
        rw [Table.get?_insert? hinsert, if_pos hmatch.1]
      · exact .inr ⟨f, hf, hmatch⟩
  spared := h.spared
  agree := by
    intro f hf f' hf' hname
    refine h.agree f (List.mem_cons_of_mem _ hf) f' ?_ hname
    rw [Table.rows_insert? hinsert] at hf'
    simp only [List.mem_append, List.mem_cons, List.not_mem_nil, or_false] at hf' ⊢
    tauto
  unused := h.unused

/-- A staged file of which there is one already. -/
theorem Pending.skip (h : Pending w attachments (file :: staged))
    (hfull : w.spool.insert? file = none) : Pending w attachments staged where
  files := by
    intro b hb hlive
    obtain hreadable | ⟨f, hf, hmatch⟩ := h.files b hb hlive
    · exact .inl hreadable
    · obtain rfl | hf := List.mem_cons.mp hf
      · obtain ⟨f', hf'⟩ : ∃ f', w.spool.get? f.name = some f' := by
          refine Option.ne_none_iff_exists'.mp fun hnone => ?_
          obtain ⟨spool, hspool⟩ := Table.insert?_of_get? hnone
          rw [hfull] at hspool
          exact absurd hspool nofun
        have hcontent := h.agree f List.mem_cons_self f'
          (List.mem_append_left _ (Table.mem_of_get? hf')) (Table.key_of_get? hf').symm
        refine .inl (isReadable_iff.mpr ⟨f', ?_, ?_⟩)
        · rw [hmatch.1]
          exact hf'
        · rw [hcontent]
          exact hmatch.2
      · exact .inr ⟨f, hf, hmatch⟩
  spared := h.spared
  agree := by
    intro f hf f' hf' hname
    refine h.agree f (List.mem_cons_of_mem _ hf) f' ?_ hname
    obtain hf' | hf' := List.mem_append.mp hf'
    · exact List.mem_append_left _ hf'
    · exact List.mem_append_right _ (List.mem_cons_of_mem _ hf')
  unused := h.unused

/-- Attachments that can be used have their files in place of another spool. -/
theorem Kept.setSpool (h : Kept w)
    (hfiles : ∀ b ∈ w.attachments.rows, b.isLive w.now = true → ∀ f,
      w.spool.get? b.storageName = some f → spool.get? b.storageName = some f)
    (hc : Holding { w with spool := spool } c) :
    Kept { w with spool := spool, writer := some c } := by
  have hk : Kept { w with spool := spool, writer := none } := by
    refine ⟨?_, h.spared, h.once, h.unused, fun _ hc => by cases hc⟩
    intro b hb hlive
    obtain ⟨f, hf, hmatch⟩ := isReadable_iff.mp (h.files b hb hlive)
    exact isReadable_iff.mpr ⟨f, hfiles b hb hlive f hf, hmatch⟩
  refine hk.setWriter ?_
  cases c with
  | storing attachments a clock n media staged =>
    exact ⟨hc.files, hc.spared, hc.agree, hc.unused⟩
  | installing attachments staged created =>
    exact ⟨⟨hc.1.files, hc.1.spared, hc.1.agree, hc.1.unused⟩, hc.2⟩
  | undoing created => exact hc
  | cleaning attachments due => exact hc

/-- The next staged file. -/
theorem install_kept (h : Kept w) : Kept w.install := by
  unfold SpoolWorld.install
  split
  · rename_i attachments file staged created hw
    obtain ⟨hpending, hcreated⟩ : Pending w attachments (file :: staged) ∧
      ∀ name ∈ created, Spare w name := h.writer _ hw
    split
    · rename_i spool hinsert
      refine h.setSpool (fun b _ _ f hf => Table.get?_insert?_of_get? hinsert hf)
        ⟨hpending.install hinsert, ?_⟩
      intro name hname
      obtain hname | hname := List.mem_append.mp hname
      · exact hcreated name hname
      · intro b hb hlive heq
        obtain ⟨f, hf, -⟩ := isReadable_iff.mp (h.files b hb hlive)
        rw [heq, List.mem_singleton.mp hname, Table.get?_of_insert? hinsert] at hf
        exact absurd hf nofun
    · rename_i hfull
      exact h.setWriter ⟨hpending.skip hfull, hcreated⟩
  · exact h

/-- The next attachment that is due. -/
theorem clean_kept (h : Kept w) : Kept w.clean := by
  unfold SpoolWorld.clean
  split
  · rename_i attachments b due hw
    have hc := h.writer _ hw
    refine h.setSpool (fun b' hb' hlive f hf => ?_) ⟨?_, ?_, ?_⟩
    · rw [get?_cleaned hc hb' hlive]
      exact hf
    · exact fun b' hb' hlive => mem_cleaned hc hb' hlive
    · exact fun b' hb' => hc.2.1 b' (List.mem_of_mem_filter hb')
    · exact fun b' hb' => hc.2.2 b' (List.mem_cons_of_mem _ hb')
  · exact h

theorem Pending.commit (hp : Pending w attachments []) (h : Kept w) :
    Kept { w with attachments := attachments, writer := none } where
  files := by
    intro b hb hlive
    exact (hp.files b hb hlive).resolve_right fun ⟨_, hf, _⟩ => absurd hf List.not_mem_nil
  spared := by
    intro names hnames name hname b hb hlive heq
    exact hp.spared b hb hlive names hnames (heq ▸ hname)
  once := h.once
  unused := hp.unused
  writer := fun _ hc => by cases hc

theorem commit_kept (h : Kept w) : Kept w.commit := by
  unfold SpoolWorld.commit
  split
  · rename_i attachments created hw
    obtain ⟨hpending, -⟩ : Pending w attachments [] ∧ ∀ name ∈ created, Spare w name :=
      h.writer _ hw
    exact hpending.commit h
  · rename_i attachments hw
    obtain ⟨-, hsub, -⟩ := h.writer _ hw
    exact ⟨fun b hb => h.files b (hsub b hb),
      fun names hnames name hname b hb => h.spared names hnames name hname b (hsub b hb), h.once,
      fun b hb => h.unused b (hsub b hb), fun _ hc => by cases hc⟩
  · exact h

theorem failCommit_kept (h : Kept w) : Kept w.failCommit := by
  unfold SpoolWorld.failCommit
  split
  · rename_i attachments created hw
    obtain ⟨-, hcreated⟩ : Pending w attachments [] ∧ ∀ name ∈ created, Spare w name :=
      h.writer _ hw
    refine h.release fun names hnames => ?_
    obtain hnames | hnames := List.mem_append.mp hnames
    · exact h.spared names hnames
    · rw [List.mem_singleton.mp hnames]
      exact hcreated
  · exact h.release h.spared
  · exact h

theorem interrupt_kept (h : Kept w) : Kept w.interrupt := by
  unfold SpoolWorld.interrupt
  split
  · exact h.setWriter fun _ hname => absurd hname List.not_mem_nil
  · rename_i attachments staged created hw
    obtain ⟨-, hcreated⟩ : Pending w attachments staged ∧ ∀ name ∈ created, Spare w name :=
      h.writer _ hw
    exact h.setWriter hcreated
  · exact h.release h.spared
  · exact h.release h.spared
  · exact h

theorem undo_kept (h : Kept w) : Kept w.undo := by
  unfold SpoolWorld.undo
  split
  · rename_i name created hw
    have hc : ∀ name' ∈ name :: created, Spare w name' := h.writer _ hw
    refine h.setSpool (fun b hb hlive f hf => ?_) fun name' hname' =>
      hc name' (List.mem_cons_of_mem _ hname')
    rw [get?_erase_of_spare (hc name List.mem_cons_self) hb hlive]
    exact hf
  · exact h.release h.spared
  · exact h

theorem undoLate_kept (h : Kept w) (k : ℕ) : Kept (w.undoLate k) := by
  unfold SpoolWorld.undoLate
  split
  · rename_i name created hk
    have hmem := List.mem_of_getElem? hk
    have hspare := h.spared _ hmem name List.mem_cons_self
    have hsub : ∀ names ∈ w.handlers.set k created, ∃ names' ∈ w.handlers, names ⊆ names' := by
      intro names hnames
      obtain hnames | rfl := List.mem_or_eq_of_mem_set hnames
      · exact ⟨names, hnames, List.Subset.refl _⟩
      · exact ⟨_, hmem, List.subset_cons_self _ _⟩
    have hspared : ∀ names ∈ w.handlers.set k created, ∀ name ∈ names, Spare w name := by
      intro names hnames name' hname'
      obtain ⟨names', hnames', hsub'⟩ := hsub names hnames
      exact h.spared names' hnames' name' (hsub' hname')
    refine ⟨?_, hspared, h.once, h.unused, ?_⟩
    · intro b hb hlive
      obtain ⟨f, hf, hmatch⟩ := isReadable_iff.mp (h.files b hb hlive)
      refine isReadable_iff.mpr ⟨f, ?_, hmatch⟩
      dsimp only
      rw [get?_erase_of_spare hspare hb hlive]
      exact hf
    · intro c hc
      have hholds := h.writer c hc
      have herase : ∀ {attachments staged}, Pending w attachments staged →
          Pending { w with spool := w.spool.erase name, handlers := w.handlers.set k created }
            attachments staged := fun hp =>
        hp.erase (fun b hb hlive heq =>
          hp.spared b hb hlive _ hmem (heq ▸ List.mem_cons_self)) hsub
      cases c with
      | storing attachments a clock n media staged => exact herase hholds
      | installing attachments staged created' => exact ⟨herase hholds.1, hholds.2⟩
      | undoing created' => exact hholds
      | cleaning attachments due => exact hholds
  · exact h

/-- An attachment is consumed. -/
theorem consumed_kept (h : Kept w) {reference : String}
    (hb : w.attachments.get? reference = some b) (hlive : b.isLive w.now = true)
    (hw : w.writer = none) : Kept { w with
      attachments := w.attachments.update reference fun b => { b with consumedAt := some w.now }
      consumed := reference :: w.consumed } := by
  have hold : ∀ {b'}, b' ∈ (w.attachments.update reference fun b =>
      { b with consumedAt := some w.now }).rows → b'.consumedAt = none →
      b' ∈ w.attachments.rows ∧ b'.attachmentRef ≠ reference := by
    intro b' hb' hconsumed
    have hget := Table.mem_rows_iff.mp hb'
    rw [Table.get?_update_eq_some] at hget
    obtain ⟨b₀, hb₀, heq⟩ := hget
    by_cases href : b'.attachmentRef = reference
    · rw [if_pos href] at heq
      rw [heq] at hconsumed
      exact absurd hconsumed nofun
    · rw [if_neg href] at heq
      subst heq
      exact ⟨Table.mem_of_get? hb₀, href⟩
  have hmem := Table.mem_of_get? hb
  refine ⟨?_, ?_, ?_, ?_, ?_⟩
  · intro b' hb' hlive'
    exact h.files b' (hold hb' (isLive_iff.mp hlive').1).1 hlive'
  · intro names hnames name hname b' hb' hlive'
    exact h.spared names hnames name hname b' (hold hb' (isLive_iff.mp hlive').1).1 hlive'
  · refine List.nodup_cons.mpr ⟨?_, h.once⟩
    have := h.unused b hmem (isLive_iff.mp hlive).1
    rwa [Table.key_of_get? hb] at this
  · intro b' hb' hconsumed
    obtain ⟨hb', href⟩ := hold hb' hconsumed
    exact List.not_mem_cons_of_ne_of_not_mem href (h.unused b' hb' hconsumed)
  · intro c hc
    rw [show w.writer = some c from hc] at hw
    exact absurd hw nofun

/-- Time passes. -/
theorem tick_kept (h : Kept w) (hnow : w.now ≤ now) : Kept { w with now := now } := by
  have hlater : ∀ {b : Attachment}, b.isLive now = true → b.isLive w.now = true := by
    intro b hb
    obtain ⟨hconsumed, hexpires⟩ := isLive_iff.mp hb
    refine isLive_iff.mpr ⟨hconsumed, String.not_le.mp fun hle => ?_⟩
    exact String.not_lt.mpr (String.le_trans hle hnow) hexpires
  have hdead : ∀ {b : Attachment}, b.isLive w.now = false → b.isLive now = false :=
    fun hb => eq_false_of_ne_true fun hlive => ne_true_of_eq_false hb (hlater hlive)
  have hspare : ∀ {name}, Spare w name → Spare { w with now := now } name :=
    fun hs b hb hlive => hs b hb (hlater hlive)
  have hpending : ∀ {attachments staged}, Pending w attachments staged →
      Pending { w with now := now } attachments staged := fun hp =>
    ⟨fun b hb hlive => hp.files b hb (hlater hlive),
      fun b hb hlive => hp.spared b hb (hlater hlive), hp.agree, hp.unused⟩
  refine ⟨fun b hb hlive => h.files b hb (hlater hlive),
    fun names hnames name hname => hspare (h.spared names hnames name hname), h.once, h.unused, ?_⟩
  intro c hc
  have hholds := h.writer c hc
  cases c with
  | storing attachments a clock n media staged => exact hpending hholds
  | installing attachments staged created =>
    exact ⟨hpending hholds.1, fun name hname => hspare (hholds.2 name hname)⟩
  | undoing created => exact fun name hname => hspare (hholds name hname)
  | cleaning attachments due =>
    exact ⟨fun b hb hlive => hholds.1 b hb (hlater hlive), hholds.2.1,
      fun b hb b' hb' href => hdead (hholds.2.2 b hb b' hb' href)⟩

/-- A clean-up begins. -/
theorem cleanup_kept (h : Kept w) (hnow : now ≤ w.now) :
    Kept { w with writer := some (.cleaning w.attachments
      (w.attachments.rows.filter fun b => b.expiresAt ≤ now ∨ b.consumedAt ≠ none)) } := by
  refine h.setWriter ⟨fun _ hb _ => hb, fun _ hb => hb, ?_⟩
  intro b hb b' hb' href
  obtain ⟨hb, hdue⟩ := List.mem_filter.mp hb
  have hget := Table.mem_rows_iff.mp hb
  rw [← href, Table.mem_rows_iff.mp hb'] at hget
  obtain rfl := Option.some.inj hget
  refine eq_false_of_ne_true fun hlive => ?_
  obtain ⟨hconsumed, hexpires⟩ := isLive_iff.mp hlive
  obtain hle | hne := of_decide_eq_true hdue
  · exact String.not_lt.mpr (String.le_trans hle hnow) hexpires
  · exact hne hconsumed

theorem step_kept {e : SpoolEvent} (h : Kept w) (hordinary : w.isOrdinary e = true)
    (hundisturbed : w.isUndisturbed e = true) : Kept (w.step e) := by
  cases e with
  | store a clock =>
    simp only [step]
    split_ifs
    · exact h.setWriter ⟨fun b hb hlive => .inl (h.files b hb hlive),
        fun b hb hlive names hnames hmem => h.spared names hnames _ hmem b hb hlive rfl,
        fun _ hf => absurd hf List.not_mem_nil, h.unused⟩
    · exact h
  | stage => exact stage_kept h hordinary hundisturbed
  | install => exact install_kept h
  | cleanup now =>
    simp only [step]
    split_ifs with hfree
    · exact cleanup_kept h hfree.2
    · exact h
  | clean => exact clean_kept h
  | commit => exact commit_kept h
  | failCommit => exact failCommit_kept h
  | interrupt => exact interrupt_kept h
  | undo => exact undo_kept h
  | undoLate k => exact undoLate_kept h k
  | consume reference =>
    simp only [step, consume]
    split_ifs with hfree
    · split
      · rename_i b hb
        split_ifs with hlive
        · exact consumed_kept h hb hlive.1 (Option.isNone_iff_eq_none.mp hfree)
        · exact h
      · exact h
    · exact h
  | acknowledge reference sha256 =>
    simp only [step, acknowledge]
    split_ifs with hfree
    · split
      · rename_i b hb
        split_ifs with hlive
        · exact consumed_kept h hb hlive.1 (Option.isNone_iff_eq_none.mp hfree)
        · exact h
      · exact h
    · exact h
  | stop => exact h.release fun _ hnames => absurd hnames List.not_mem_nil
  | tick now =>
    simp only [step]
    split_ifs with hnow
    · exact tick_kept h hnow
    · exact h

/-- Every attachment that can be used can be read, and no reference was consumed twice. -/
def Intact (w : SpoolWorld) : Prop :=
  (∀ b ∈ w.attachments.rows, b.isLive w.now = true → w.isReadable b = true) ∧ w.consumed.Nodup

instance (w : SpoolWorld) : Decidable (Intact w) := inferInstanceAs (Decidable (_ ∧ _))

/-- In a run in which no call finds a file that a failure handler has still to delete, every
    attachment that can be used has its file, which no step deletes, and every reference is
    consumed at most once. -/
theorem spool_kept (es : List SpoolEvent)
    (hordinary : EveryStep step (fun w e => w.isOrdinary e = true) new es)
    (hundisturbed : EveryStep step (fun w e => w.isUndisturbed e = true) new es) :
    Throughout step Intact new es ∧ EveryStep step KeepsFiles new es := by
  have hsteps := (everyStep_and step).mpr ⟨hordinary, hundisturbed⟩
  have hstep : ∀ w e, Kept w → w.isOrdinary e = true ∧ w.isUndisturbed e = true →
      Kept (w.step e) := fun _ _ h he => step_kept h he.1 he.2
  exact ⟨(throughout_of_everyStep step hstep new_kept hsteps).imp step
      fun _ h => ⟨h.files, h.once⟩,
    EveryStep.imp step hstep (fun _ e h _ => step_keepsFiles h e) new_kept hsteps⟩

/-! ## A file that is lost -/

/-- A message with one photo. -/
def photoMessage (messageId : String) : StoredMessage :=
  ⟨messageId, "owner", "chat-1", "", [(⟨.image, "a.jpg", "image/jpeg"⟩, [1])], none, .ownerLegacy,
    none, none, none⟩

/-- The times of a call, with the reference of its photo. -/
def photoClock (reference : String) : StoreClock :=
  ⟨"2026-08-01T08:00", fun _ => reference, fun _ => "2026-08-02T08:00",
    ⟨"2026-08-01T08:00", "2026-08-01T07:45", "2026-08-01T08:15"⟩⟩

/-- The commit of a message fails, and the same photo is stored before its handler runs. -/
def lateUndo : List SpoolEvent :=
  [.store (photoMessage "m1") (photoClock "A"), .stage, .stage, .install, .failCommit,
    .store (photoMessage "m2") (photoClock "B"), .stage, .undoLate 0, .stage, .commit]

/-- The photo of the second message is lost. -/
theorem late_undo_deletes :
    EveryStep step (fun w e => w.isOrdinary e = true) new lateUndo ∧
      ¬ Throughout step Intact new lateUndo := by
  decide +kernel

theorem spool_kept_shared :
    let es : List SpoolEvent := [.store (photoMessage "m1") (photoClock "A"), .stage, .stage,
      .install, .commit, .store (photoMessage "m2") (photoClock "B"), .stage, .stage, .install,
      .commit, .consume "A", .cleanup "", .clean, .commit]
    Throughout step Intact new es ∧ EveryStep step KeepsFiles new es :=
  spool_kept _ (by decide +kernel) (by decide +kernel)

end SpoolWorld

end HomeAddons.Gateway
