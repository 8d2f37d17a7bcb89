import InstructionStore.Proofs.Database.Connection

/-!
# Work apart from the rest of the state

A view of the state is anything that can be told from it: the contents of another
database, say. A connection **reads past** a view if neither drawing an identifier nor a
disturbance changes it (`Connection.ReadsPast`), and **works past** it if putting contents
in place does not either (`Connection.WorksPast`). Work with the database then leaves the
view as it is, whether or not it fails (`Task.Keeps`).

A lawful connection reads past the contents of its own database. Work that is quiet is
work that keeps these.
-/

namespace InstructionStore

variable {σ ε α β τ : Type} {view : σ → τ}

/-- **Work that leaves a view of the state as it is.** -/
def Task.Keeps (view : σ → τ) (task : Task σ ε α) : Prop := ∀ v, task.Preserves fun s => view s = v

namespace Task

theorem Keeps.eq {task : Task σ ε α} (h : task.Keeps view) (s : σ) : view (task s).2 = view s :=
  h (view s) s rfl

theorem Keeps.pure (a : α) : Keeps view (pure a : Task σ ε α) := fun _ => .pure a

theorem Keeps.throw (e : ε) : Keeps view (throw e : Task σ ε α) := fun _ => .throw e

theorem Keeps.get : Keeps view (get : Task σ ε σ) := fun _ => .get

theorem Keeps.ofExcept (result : Except ε α) : Keeps view (ofExcept result : Task σ ε α) :=
  fun _ => .ofExcept result

theorem Keeps.bind {x : Task σ ε α} {f : α → Task σ ε β} (hx : x.Keeps view)
    (hf : ∀ a, (f a).Keeps view) : (x >>= f).Keeps view :=
  fun v => (hx v).bind fun a => hf a v

theorem Keeps.forM {f : α → Task σ ε PUnit} (h : ∀ a, (f a).Keeps view) (l : List α) :
    (l.forM f).Keeps view :=
  fun v => .forM (fun a => h a v) l

end Task

namespace Database.Connection

/-- **A connection that reads past a view of the state.** -/
structure ReadsPast (c : Connection σ) (view : σ → τ) : Prop where
  /-- Drawing an identifier does not change it. -/
  drawn : ∀ s, view (c.draw s).2 = view s
  /-- A disturbance does not change it. -/
  disturbed : ∀ s, view (c.disturbed s).2 = view s

/-- **A connection that works past a view of the state.** -/
structure WorksPast (c : Connection σ) (view : σ → τ) : Prop extends c.ReadsPast view where
  /-- Putting contents in place does not change it. -/
  replaced : ∀ db s, view (c.replace db s) = view s

variable {c : Connection σ}

theorem IsLawful.readsPast (hc : c.IsLawful) : c.ReadsPast c.contents := ⟨hc.drawn, hc.disturbed⟩

theorem ReadsPast.drawId (h : c.ReadsPast view) : (c.drawId : Task σ ε String).Keeps view :=
  fun _ s hs => (h.drawn s).trans hs

theorem ReadsPast.query (h : c.ReadsPast view) (failed : ε) (look : Contents → Except ε α) :
    (c.query failed look).Keeps view := by
  intro v s hs
  have hs' := (h.disturbed s).trans hs
  unfold Connection.query
  dsimp only
  split
  · exact hs'
  · split <;> exact hs'

theorem WorksPast.execute (h : c.WorksPast view) (failed : Refusal → ε)
    (statement : Statement α) : (c.execute failed statement).Keeps view := by
  intro v s hs
  have hs' := (h.disturbed s).trans hs
  unfold Connection.execute
  dsimp only
  split
  · exact hs'
  · split
    · exact hs'
    · split
      · exact hs'
      · exact (h.replaced _ _).trans hs'

theorem WorksPast.transact (h : c.WorksPast view) (failed : ε) {body : Transaction σ ε α}
    (hbody : c.OnlyDisturbs body) : (c.transact failed body).Keeps view := by
  intro v
  have hdisturbed (s : σ) (hs : view s = v) : view (c.disturbed s).2 = v :=
    (h.disturbed s).trans hs
  exact transact_preserves (hbody _ hdisturbed) hdisturbed fun db s hs =>
    (h.replaced db s).trans hs

end Database.Connection

end InstructionStore
