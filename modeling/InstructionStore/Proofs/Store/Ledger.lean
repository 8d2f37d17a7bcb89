import InstructionStore.Proofs.Store.Events
import InstructionStore.Proofs.Store.Uninterrupted

/-!
# Events that tell what is on file

If operations are carried out one after another, what is on file of the documents is told by
the saves that succeeded and the documents that were removed (`Store.IsLedger`). A save adds an
event (`Store.IsLedger.save`), and so does a deletion that found something
(`Store.IsLedger.remove`).

Nothing is said of accounts. A document stays on file when its account is deleted.
-/

namespace InstructionStore

open Database

namespace Store

/-- **A document as a save for it was asked for.** -/
structure IsAskedFor (owner : Account) (request : SaveRequest) (d : Document) : Prop where
  /-- It is that of the owner and the name asked for. -/
  place : d.IsAt owner request.name
  /-- It has the instruction asked for. -/
  instruction : d.instruction.toJson = request.instruction
  /-- It has the tags asked for, each once. -/
  tags : d.tagTexts = request.tags.eraseDups

/-- **Events that tell the documents on file.** -/
structure IsLedger (events : List Event) (r : Records) : Prop where
  /-- They come one after another. -/
  orderly : Event.IsOrderly events
  /-- The documents that there are after them are those on file. -/
  filed : ∀ d, d ∈ Event.live events ↔ r.Has d
  /-- What was saved was asked for. -/
  asked : ∀ owner request d, .saved owner request d ∈ events → IsAskedFor owner request d

namespace IsLedger

variable {events : List Event} {r r' : Records} {d : Document}

theorem empty : IsLedger [] .empty where
  orderly := True.intro
  filed _ := ⟨nofun, fun ⟨_, hf, _⟩ => nomatch hf⟩
  asked _ _ _ h := nomatch h

/-- What is on file was returned by a save. -/
theorem returned (h : IsLedger events r) {f : Filed} (hf : f ∈ r.documents) :
    f.document ∈ Event.returned events :=
  Event.returned_of_live ((h.filed _).2 ⟨f, hf, rfl⟩)

/-- Only the documents matter of the records. -/
theorem congr (h : IsLedger events r) (documents : r'.documents = r.documents) :
    IsLedger events r' where
  orderly := h.orderly
  filed d := by
    unfold Records.Has
    rw [documents]
    exact h.filed d
  asked := h.asked

/-- **A document was deleted**, if it was there. -/
theorem remove (h : IsLedger events r) (id : InstructionId) :
    IsLedger (Event.ofDeletion id (.ok (r.documents.any fun f => f.document.id = id)) ++ events)
      (r.remove id) := by
  cases hthere : r.documents.any fun f => f.document.id = id with
  | true =>
    obtain ⟨f, hf, hid⟩ := List.any_eq_true.1 hthere
    refine ⟨⟨⟨f.document, (h.filed _).2 ⟨f, hf, rfl⟩, of_decide_eq_true hid⟩, h.orderly⟩,
      fun d => ?_, fun owner request d hd => ?_⟩
    · exact Event.mem_live_removed.trans ((and_congr_left' (h.filed d)).trans
        Records.has_remove.symm)
    · exact h.asked owner request d ((List.mem_cons.1 hd).resolve_left nofun)
  | false =>
    refine h.congr (List.filter_eq_self.2 fun f hf => decide_eq_true ?_)
    exact of_decide_eq_false (Bool.eq_false_iff.2 (List.any_eq_false.1 hthere f hf))

/-- **A document was saved.** -/
theorem save (h : IsLedger events r) {owner : Account} {request : SaveRequest}
    (placed : Event.Continues events d ∨ Event.Starts events d) (takes : r.Takes d r')
    (asked : IsAskedFor owner request d) : IsLedger (.saved owner request d :: events) r' where
  orderly := ⟨placed, h.orderly⟩
  filed e := by
    rw [Event.mem_live_saved, h.filed, takes]
  asked owner' request' e he := by
    rcases List.mem_cons.1 he with heq | hold
    · cases heq
      exact asked
    · exact h.asked owner' request' e hold

/-- **What the first step of a save settles goes on with what is in its place or is new**, if
it draws an unused identifier. -/
theorem placed (h : IsLedger events r) {p : Pending}
    (there : p.isUpdate = true → ∃ f ∈ r.documents,
      f.document.id = p.document.id ∧ f.document.slot = p.document.slot)
    (empty : p.isUpdate = false → ∀ f ∈ r.documents, f.document.slot ≠ p.document.slot)
    (unused : p.isUpdate = false → ∀ e ∈ Event.returned events, e.id ≠ p.document.id) :
    Event.Continues events p.document ∨ Event.Starts events p.document := by
  cases hupdate : p.isUpdate with
  | true =>
    obtain ⟨f, hf, hid, hslot⟩ := there hupdate
    exact .inl ⟨f.document, (h.filed _).2 ⟨f, hf, rfl⟩, hid, hslot⟩
  | false =>
    refine .inr ⟨unused hupdate, fun e he => ?_⟩
    obtain ⟨f, hf, rfl⟩ := (h.filed e).1 he
    exact empty hupdate f hf

end IsLedger

end Store

end InstructionStore
