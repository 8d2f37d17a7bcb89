import InstructionStore.Proofs.Store.Interleaving

/-!
# What was saved and what was removed

What becomes of the documents of a store is told by two kinds of events: a document was
saved and returned, or the one of an identifier was removed (`Store.Event`). From the events
it can be read which documents there are (`Event.live`) and which instructions were saved
under an identifier (`Event.bodies`), without any database.

Events are **orderly** (`Event.IsOrderly`) if each save goes on with the document that is in
its place or, if there is none, takes an identifier that no save had before. Then an
identifier stays in its place (`Event.IsOrderly.slot_eq`), no two documents are in one place
(`Event.IsOrderly.eq_of_slot`), and a place whose document was removed is empty until
something is saved there (`Event.IsOrderly.vacant`).
-/

namespace InstructionStore

/-- Whether a document is that of an account and a name. -/
def Document.IsAt (d : Document) (owner : Account) (name : String) : Prop :=
  d.creatorId = owner.id ∧ d.name.text = name

/-- Documents of one account and one name are in one place. -/
theorem Document.IsAt.slot_eq {d e : Document} {owner : Account} {name : String}
    (hd : d.IsAt owner name) (he : e.IsAt owner name) : d.slot = e.slot :=
  Prod.ext (hd.1.trans he.1.symm) (Identifier.text_inj.1 (hd.2.trans he.2.symm))

/-- What is in the place of a document is of its account and its name. -/
theorem Document.IsAt.congr {d e : Document} {owner : Account} {name : String}
    (hd : d.IsAt owner name) (hslot : e.slot = d.slot) : e.IsAt owner name :=
  ⟨(congrArg Prod.fst hslot).trans hd.1,
    (congrArg (fun slot => slot.2.text) hslot).trans hd.2⟩

namespace Store

/-- **What happened to the documents of a store.** -/
inductive Event where
  /-- A save succeeded and returned its document. -/
  | saved (owner : Account) (request : SaveRequest) (document : Document)
  /-- The document of an identifier was removed. -/
  | removed (id : InstructionId)

namespace Event

/-- The event of a save, if it succeeded. -/
def ofSave (owner : Account) (request : SaveRequest) : Except StoreFailure Document → List Event
  | .ok d => [saved owner request d]
  | .error _ => []

/-- The event of a deletion, if there was something to delete. -/
def ofDeletion (id : InstructionId) : Except StoreFailure Bool → List Event
  | .ok true => [removed id]
  | _ => []

/-- The documents that saves returned, the latest first. -/
def returned : List Event → List Document
  | [] => []
  | saved _ _ d :: events => d :: returned events
  | removed _ :: events => returned events

/-- **The documents that there are** after some events, the latest of which is the first. -/
def live : List Event → List Document
  | [] => []
  | saved _ _ d :: events => d :: (live events).filter fun e => e.id ≠ d.id
  | removed id :: events => (live events).filter fun e => e.id ≠ id

/-- **The instructions that were saved under an identifier**, the latest first. -/
def bodies (id : InstructionId) (events : List Event) : List Instruction :=
  ((returned events).filter fun d => d.id = id).map Document.instruction

/-- Whether a document goes on with the one that is in its place. -/
def Continues (events : List Event) (d : Document) : Prop :=
  ∃ e ∈ live events, e.id = d.id ∧ e.slot = d.slot

/-- Whether a document is new: its identifier was never returned, and its place is empty. -/
def Starts (events : List Event) (d : Document) : Prop :=
  (∀ e ∈ returned events, e.id ≠ d.id) ∧ ∀ e ∈ live events, e.slot ≠ d.slot

/-- **Events that come one after another**: what is saved goes on with a document or is new,
and what is removed was there. -/
def IsOrderly : List Event → Prop
  | [] => True
  | saved _ _ d :: events => (Continues events d ∨ Starts events d) ∧ IsOrderly events
  | removed id :: events => (∃ e ∈ live events, e.id = id) ∧ IsOrderly events

variable {owner : Account} {request : SaveRequest} {d e : Document} {id : InstructionId}
  {events : List Event}

theorem mem_live_saved :
    e ∈ live (saved owner request d :: events) ↔ e = d ∨ e ∈ live events ∧ e.id ≠ d.id := by
  rw [live, List.mem_cons, List.mem_filter, decide_eq_true_eq]

theorem mem_live_removed :
    e ∈ live (removed id :: events) ↔ e ∈ live events ∧ e.id ≠ id := by
  rw [live, List.mem_filter, decide_eq_true_eq]

/-- What a save returned was returned. -/
theorem returned_of_saved (h : saved owner request d ∈ events) : d ∈ returned events := by
  induction events with
  | nil => exact nomatch h
  | cons event events ih =>
    rcases List.mem_cons.1 h with rfl | hold
    · exact List.mem_cons_self
    · cases event with
      | saved => exact List.mem_cons_of_mem _ (ih hold)
      | removed => exact ih hold

/-- What is there was returned. -/
theorem returned_of_live (h : d ∈ live events) : d ∈ returned events := by
  induction events with
  | nil => exact nomatch h
  | cons event events ih =>
    cases event with
    | saved owner request e =>
      rcases mem_live_saved.1 h with rfl | ⟨hold, -⟩
      · exact List.mem_cons_self
      · exact List.mem_cons_of_mem _ (ih hold)
    | removed id => exact ih (mem_live_removed.1 h).1

/-- **What is there is what was returned last** under its identifier. -/
theorem find?_returned (h : d ∈ live events) :
    ((returned events).find? fun e => e.id = d.id) = some d := by
  induction events with
  | nil => exact nomatch h
  | cons event events ih =>
    cases event with
    | saved owner request e =>
      rcases mem_live_saved.1 h with rfl | ⟨hold, hne⟩
      · exact List.find?_cons_of_pos (decide_eq_true rfl)
      · exact (List.find?_cons_of_neg (by simpa using Ne.symm hne)).trans (ih hold)
    | removed id => exact ih (mem_live_removed.1 h).1

/-- A document that is there was saved, and nothing was saved under its identifier since. -/
theorem exists_saved_of_live (h : d ∈ live events) :
    ∃ newer owner request older, events = newer ++ saved owner request d :: older
      ∧ ∀ e ∈ returned newer, e.id ≠ d.id := by
  induction events with
  | nil => exact nomatch h
  | cons event events ih =>
    cases event with
    | saved owner request e =>
      rcases mem_live_saved.1 h with rfl | ⟨hold, hne⟩
      · exact ⟨[], owner, request, events, rfl, nofun⟩
      · obtain ⟨newer, owner', request', older, rfl, hnone⟩ := ih hold
        exact ⟨saved owner request e :: newer, owner', request', older, rfl,
          List.forall_mem_cons.2 ⟨Ne.symm hne, hnone⟩⟩
    | removed id =>
      obtain ⟨newer, owner, request, older, rfl, hnone⟩ := ih (mem_live_removed.1 h).1
      exact ⟨removed id :: newer, owner, request, older, rfl, hnone⟩

/-- The instruction of a document that is there was saved last under its identifier. -/
theorem head?_bodies (h : d ∈ live events) : (bodies d.id events).head? = some d.instruction := by
  unfold bodies
  rw [List.head?_map, List.head?_filter, find?_returned h]
  rfl

/-! ## Orderly events -/

/-- **An identifier stays in its place.** -/
theorem IsOrderly.slot_eq (h : IsOrderly events) (hd : d ∈ returned events)
    (he : e ∈ returned events) (hid : d.id = e.id) : d.slot = e.slot := by
  induction events generalizing d e with
  | nil => exact nomatch hd
  | cons event events ih =>
    cases event with
    | removed id => exact ih h.2 hd he hid
    | saved owner request x =>
      -- what was returned before under the identifier of the latest is in the same place
      have hlatest {y : Document} (hy : y ∈ returned events) (hyid : y.id = x.id) :
          y.slot = x.slot := by
        rcases h.1 with ⟨z, hz, hzid, hslot⟩ | ⟨hnew, -⟩
        · exact (ih h.2 hy (returned_of_live hz) (hyid.trans hzid.symm)).trans hslot
        · exact absurd hyid (hnew y hy)
      rcases List.mem_cons.1 hd with rfl | hdold <;> rcases List.mem_cons.1 he with rfl | heold
      · rfl
      · exact (hlatest heold hid.symm).symm
      · exact hlatest hdold hid
      · exact ih h.2 hdold heold hid

/-- **No two documents are in one place.** -/
theorem IsOrderly.eq_of_slot (h : IsOrderly events) (hd : d ∈ live events)
    (he : e ∈ live events) (hslot : d.slot = e.slot) : d = e := by
  induction events generalizing d e with
  | nil => exact nomatch hd
  | cons event events ih =>
    cases event with
    | removed id => exact ih h.2 (mem_live_removed.1 hd).1 (mem_live_removed.1 he).1 hslot
    | saved owner request x =>
      -- what is in the place of the latest has its identifier, so it was written over
      have hlatest {y : Document} (hy : y ∈ live events) (hne : y.id ≠ x.id) :
          y.slot ≠ x.slot := by
        rcases h.1 with ⟨z, hz, hzid, hzslot⟩ | ⟨-, hempty⟩
        · exact fun heq => hne (ih h.2 hy hz (heq.trans hzslot.symm) ▸ hzid)
        · exact hempty y hy
      rcases mem_live_saved.1 hd with rfl | ⟨hdold, hdne⟩ <;>
        rcases mem_live_saved.1 he with rfl | ⟨heold, hene⟩
      · rfl
      · exact absurd hslot.symm (hlatest heold hene)
      · exact absurd hslot (hlatest hdold hdne)
      · exact ih h.2 hdold heold hslot

/-- **A place whose document was removed is empty** until something is saved there. -/
theorem IsOrderly.vacant {newer older : List Event}
    (h : IsOrderly (newer ++ removed id :: older)) (hd : d ∈ returned older) (hid : d.id = id)
    (unsaved : ∀ e ∈ returned newer, e.slot ≠ d.slot) :
    ∀ e ∈ live (newer ++ removed id :: older), e.slot ≠ d.slot := by
  induction newer with
  | nil =>
    intro e he hslot
    obtain ⟨⟨gone, hgone, hgoneId⟩, horderly⟩ := h
    obtain ⟨he, hne⟩ := mem_live_removed.1 he
    -- what was removed was in the place of the document, and nothing else was
    have hplace := horderly.slot_eq (returned_of_live hgone) hd (hgoneId.trans hid.symm)
    exact hne (horderly.eq_of_slot he hgone (hslot.trans hplace.symm) ▸ hgoneId)
  | cons event newer ih =>
    intro e he
    cases event with
    | removed id' => exact ih h.2 unsaved e (mem_live_removed.1 he).1
    | saved owner request x =>
      rw [returned, List.forall_mem_cons] at unsaved
      rcases mem_live_saved.1 he with rfl | ⟨hold, -⟩
      · exact unsaved.1
      · exact ih h.2 unsaved.2 e hold

/-- **What is saved in an empty place is new.** -/
theorem IsOrderly.unreturned (h : IsOrderly (saved owner request d :: events))
    (empty : ∀ e ∈ live events, e.slot ≠ d.slot) : ∀ e ∈ returned events, e.id ≠ d.id := by
  rcases h.1 with ⟨e, he, -, hslot⟩ | ⟨hnew, -⟩
  · exact absurd hslot (empty e he)
  · exact hnew

/-- Nothing but a document that is new was saved under its identifier. -/
theorem bodies_of_unreturned (h : ∀ e ∈ returned events, e.id ≠ d.id) :
    bodies d.id (saved owner request d :: events) = [d.instruction] := by
  unfold bodies
  rw [returned, List.filter_cons_of_pos (by exact decide_eq_true rfl), List.map_cons,
    List.filter_eq_nil_iff.2 fun e he => by simpa using h e he]
  rfl

end Event

end Store

end InstructionStore
