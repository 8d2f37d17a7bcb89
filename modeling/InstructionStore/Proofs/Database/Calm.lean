import InstructionStore.Proofs.Database.Connection

/-!
# Calm connections

A database can refuse a statement for a reason of its own. A connection is **calm** if
that never happens. On a calm connection the contents alone decide what comes of a
lookup (`Connection.IsCalm.query`) and of a transaction: it is carried out if its
statements are (`Connection.IsCalm.transact_of_yields`), and fails with what the first of
them fails with that does (`Connection.transact_of_fails`).
-/

namespace InstructionStore.Database

variable {σ ε α β : Type}

/-! ## Transactions by what they give -/

/-- **What a transaction gives** on some contents, whatever the rest of the state
is. -/
def Yields (body : Transaction σ ε α) (db : Contents) (a : α) (db' : Contents) : Prop :=
  ∀ s, ∃ s', body (s, db) = (.ok a, (s', db'))

/-- **What a transaction fails with** on some contents, whatever the rest of the state
is. -/
def Fails (body : Transaction σ ε α) (db : Contents) (e : ε) : Prop :=
  ∀ s, ∃ x, body (s, db) = (.error e, x)

variable {x : Transaction σ ε α} {f : α → Transaction σ ε β} {db db' db'' : Contents}

theorem Yields.pure (a : α) (db : Contents) : Yields (pure a : Transaction σ ε α) db a db :=
  fun s => ⟨s, rfl⟩

theorem Yields.bind {a : α} {b : β} (hx : Yields x db a db') (hf : Yields (f a) db' b db'') :
    Yields (x >>= f) db b db'' := by
  intro s
  obtain ⟨s', hx⟩ := hx s
  obtain ⟨s'', hf⟩ := hf s'
  exact ⟨s'', Task.bind_eq_ok_iff.2 ⟨a, _, hx, hf⟩⟩

theorem Yields.bind_fails {a : α} {e : ε} (hx : Yields x db a db') (hf : Fails (f a) db' e) :
    Fails (x >>= f) db e := by
  intro s
  obtain ⟨s', hx⟩ := hx s
  obtain ⟨y, hf⟩ := hf s'
  refine ⟨y, ?_⟩
  rw [Task.bind_apply, hx]
  exact hf

theorem Fails.bind {e : ε} (hx : Fails x db e) : Fails (x >>= f) db e := by
  intro s
  obtain ⟨y, hx⟩ := hx s
  refine ⟨y, ?_⟩
  rw [Task.bind_apply, hx]

namespace Connection

/-- **A connection that refuses no statement for a reason of its own.** -/
def IsCalm (c : Connection σ) : Prop := ∀ s, (c.disturbed s).1 = false

variable {c : Connection σ}

theorem IsCalm.step_yields (calm : c.IsCalm) {failed : Refusal → ε} {statement : Statement α}
    {a : α} (h : statement db = .ok (a, db')) : Yields (c.step failed statement) db a db' := by
  intro s
  unfold Connection.step
  dsimp only
  rw [calm s, h]
  exact ⟨_, rfl⟩

theorem IsCalm.step_fails (calm : c.IsCalm) {failed : Refusal → ε} {statement : Statement α}
    {refusal : Refusal} (h : statement db = .error refusal) :
    Fails (c.step failed statement) db (failed refusal) := by
  intro s
  unfold Connection.step
  dsimp only
  rw [calm s, h]
  exact ⟨_, rfl⟩

/-- **A lookup** gives what it finds in the contents. -/
theorem IsCalm.query (calm : c.IsCalm) (hc : c.IsLawful) {s : σ} (hs : c.contents s = some db)
    (failed : ε) (look : Contents → Except ε α) : (c.query failed look s).1 = look db := by
  rw [query_apply hc failed look hs, calm s]
  rfl

/-- It gives the same where the contents are the same. -/
theorem IsCalm.query_congr (calm : c.IsCalm) (hc : c.IsLawful) {s s' : σ}
    (hs : c.contents s = some db) (hs' : c.contents s' = some db) (failed : ε)
    (look : Contents → Except ε α) : (c.query failed look s').1 = (c.query failed look s).1 := by
  rw [calm.query hc hs', calm.query hc hs]

variable {body : Transaction σ ε α} {s : σ}

/-- **A transaction is carried out** if its statements are. -/
theorem IsCalm.transact_of_yields (calm : c.IsCalm) (hc : c.IsLawful) (failed : ε)
    (hbody : c.IsContained body) {a : α} (hs : c.contents s = some db)
    (h : Yields body db a db') :
    ∃ s', c.transact failed body s = (.ok a, s') ∧ c.contents s' = some db' := by
  obtain ⟨s', hrun⟩ := h s
  have hkept := hbody (some db) (s, db) hs
  rw [hrun] at hkept
  unfold Connection.transact
  rw [hs]
  dsimp only
  rw [hrun]
  dsimp only
  rw [calm s']
  exact ⟨_, rfl, hc.replaced _ _ _ ((hc.disturbed s').trans hkept)⟩

/-- **A transaction changes nothing** if a statement fails. -/
theorem transact_of_fails (failed : ε) (hbody : c.IsContained body) {e : ε}
    (hs : c.contents s = some db) (h : Fails body db e) :
    ∃ s', c.transact failed body s = (.error e, s') ∧ c.contents s' = some db := by
  obtain ⟨⟨s', db'⟩, hrun⟩ := h s
  have hkept := hbody (some db) (s, db) hs
  rw [hrun] at hkept
  unfold Connection.transact
  rw [hs]
  dsimp only
  rw [hrun]
  exact ⟨s', rfl, hkept⟩

end Connection

end InstructionStore.Database
