import InstructionStore.Database.Connection

/-!
# What work on a database comes to

Work that may fail is taken apart like a check is: a chain succeeds when each part
does (`Task.bind_eq_ok_iff`), and what every part preserves, the chain does
(`Task.Preserves.bind`).

Nothing is asked of a connection but that it leads to one database
(`Connection.IsLawful`): what is put in is what is found there afterwards, and
neither drawing an identifier nor a disturbance changes it. From that,
`Connection.execute_cases` and `Connection.transact_cases` say all that one
statement and one transaction can do. Either nothing is changed and there is a
failure, or the contents are those the work gives.
-/

namespace InstructionStore

variable {σ ε ε' α β γ : Type}

namespace Task

theorem bind_apply (x : Task σ ε α) (f : α → Task σ ε β) (s : σ) :
    (x >>= f) s = match x s with
      | (.ok a, s') => f a s'
      | (.error e, s') => (.error e, s') := by
  show (match x s with | (a, s') => ExceptT.bindCont f a s') = _
  cases x s with
  | mk result s' => cases result <;> rfl

/-- **A chain succeeds** when its first part does and then the rest. -/
theorem bind_eq_ok_iff {x : Task σ ε α} {f : α → Task σ ε β} {s s'' : σ} {b : β} :
    (x >>= f) s = (.ok b, s'') ↔ ∃ a s', x s = (.ok a, s') ∧ f a s' = (.ok b, s'') := by
  rw [bind_apply]
  rcases x s with ⟨e | a, s'⟩
  · exact ⟨nofun, nofun⟩
  · refine ⟨fun h => ⟨a, s', rfl, h⟩, ?_⟩
    rintro ⟨_, _, heq, h⟩
    cases heq
    exact h

@[simp] theorem ofExcept_apply (result : Except ε α) (s : σ) :
    ofExcept result s = (result, s) := rfl

theorem mapError_eq_ok_iff {x : Task σ ε α} {f : ε → ε'} {s s' : σ} {a : α} :
    x.mapError f s = (.ok a, s') ↔ x s = (.ok a, s') := by
  unfold mapError
  rcases x s with ⟨e | b, t⟩
  · exact ⟨nofun, nofun⟩
  · constructor <;>
    · intro h
      cases h
      rfl

theorem mapError_apply (x : Task σ ε α) (f : ε → ε') (s : σ) :
    x.mapError f s = ((x s).1.mapError f, (x s).2) := by
  unfold mapError
  rcases x s with ⟨e | a, t⟩ <;> rfl

/-- The second part of a chain that succeeds does. -/
theorem isOk_of_bind {x : Task σ ε α} {f : α → Task σ ε β} {s s' : σ} {a : α}
    (hx : x s = (.ok a, s')) (h : ((x >>= f) s).1.isOk = true) : (f a s').1.isOk = true := by
  rwa [bind_apply, hx] at h

/-- Work succeeds with another kind of failure as well. -/
theorem isOk_mapError (x : Task σ ε α) (f : ε → ε') (s : σ) :
    (x.mapError f s).1.isOk = (x s).1.isOk := by
  unfold mapError
  rcases x s with ⟨e | a, t⟩ <;> rfl

/-! ## What work preserves -/

/-- **Work that leaves a property of the state in force**, whether or not it
fails. -/
def Preserves (I : σ → Prop) (task : Task σ ε α) : Prop := ∀ s, I s → I (task s).2

variable {I : σ → Prop}

theorem Preserves.pure (a : α) : Preserves I (pure a : Task σ ε α) := fun _ h => h

theorem Preserves.throw (e : ε) : Preserves I (throw e : Task σ ε α) := fun _ h => h

theorem Preserves.get : Preserves I (get : Task σ ε σ) := fun _ h => h

theorem Preserves.ofExcept (result : Except ε α) : Preserves I (ofExcept result : Task σ ε α) :=
  fun _ h => h

theorem Preserves.bind {x : Task σ ε α} {f : α → Task σ ε β} (hx : x.Preserves I)
    (hf : ∀ a, (f a).Preserves I) : (x >>= f).Preserves I := by
  intro s hs
  have hs' := hx s hs
  rw [bind_apply]
  rcases hrun : x s with ⟨e | a, s'⟩
  · rwa [hrun] at hs'
  · rw [hrun] at hs'
    exact hf a s' hs'

/-- What is done for each member of a list preserves what it does for one. -/
theorem Preserves.forM {f : α → Task σ ε PUnit} (h : ∀ a, (f a).Preserves I) (l : List α) :
    (l.forM f).Preserves I := by
  induction l with
  | nil => exact .pure _
  | cons a l ih => exact (h a).bind fun _ => ih

theorem Preserves.mapError {x : Task σ ε α} (hx : x.Preserves I) (f : ε → ε') :
    (x.mapError f).Preserves I := by
  intro s hs
  have hs' := hx s hs
  unfold Task.mapError
  rcases hrun : x s with ⟨e | a, s'⟩ <;> rwa [hrun] at hs'

end Task

namespace Database.Connection

/-- **A connection that leads to one database.** -/
structure IsLawful (c : Connection σ) : Prop where
  /-- What is put into the database is found there. -/
  replaced : ∀ s db old, c.contents s = some old → c.contents (c.replace db s) = some db
  /-- Drawing an identifier does not change it. -/
  drawn : ∀ s, c.contents (c.draw s).2 = c.contents s
  /-- A disturbance does not change it. -/
  disturbed : ∀ s, c.contents (c.disturbed s).2 = c.contents s

variable {c : Connection σ}

/-- Work that leaves the contents of the database as they are. -/
def IsQuiet (c : Connection σ) (task : Task σ ε α) : Prop :=
  ∀ db, task.Preserves fun s => c.contents s = db

/-- A transaction that leaves the database itself as it is while it goes on. -/
def IsContained (c : Connection σ) (body : Transaction σ ε α) : Prop :=
  ∀ db, body.Preserves fun s => c.contents s.1 = db

/-- A lookup that succeeds tells what there is. -/
theorem query_eq_ok {failed : ε} {look : Contents → Except ε α} {s s' : σ} {a : α}
    (h : c.query failed look s = (.ok a, s')) :
    s' = (c.disturbed s).2 ∧ ∃ db, c.contents s' = some db ∧ look db = .ok a := by
  unfold Connection.query at h
  dsimp only at h
  split at h
  · exact nomatch (congrArg Prod.fst h)
  · split at h
    · exact nomatch (congrArg Prod.fst h)
    · rename_i db hdb
      obtain rfl : (c.disturbed s).2 = s' := congrArg Prod.snd h
      exact ⟨rfl, db, hdb, congrArg Prod.fst h⟩

/-- **A lookup gives what it finds in the contents**, unless it is disturbed. -/
theorem query_apply (hc : c.IsLawful) (failed : ε) (look : Contents → Except ε α) {s : σ}
    {db : Contents} (hs : c.contents s = some db) :
    c.query failed look s
      = (if (c.disturbed s).1 then .error failed else look db, (c.disturbed s).2) := by
  unfold Connection.query
  dsimp only
  rw [hc.disturbed, hs]
  split <;> rfl

/-- **What one statement can do**: fail and change nothing, or put in place the
contents it gives. -/
theorem execute_cases (hc : c.IsLawful) (failed : Refusal → ε) (statement : Statement α) {s : σ}
    {db : Contents} (hdb : c.contents s = some db) :
    (∃ e, (c.execute failed statement s).1 = .error e
        ∧ c.contents (c.execute failed statement s).2 = some db)
      ∨ ∃ a db', statement db = .ok (a, db') ∧ (c.execute failed statement s).1 = .ok a
        ∧ c.contents (c.execute failed statement s).2 = some db' := by
  have hs' := (hc.disturbed s).trans hdb
  unfold Connection.execute
  dsimp only
  by_cases hrefused : (c.disturbed s).1 = true
  · rw [if_pos hrefused]
    exact .inl ⟨_, rfl, hs'⟩
  · rw [if_neg hrefused, hs']
    dsimp only
    cases hrun : statement db with
    | error refusal => exact .inl ⟨_, rfl, hs'⟩
    | ok result => exact .inr ⟨_, _, rfl, rfl, hc.replaced _ _ _ hs'⟩

/-- A statement inside a transaction preserves what disturbances do. -/
theorem step_preserves {I : σ → Prop} (hdisturbed : ∀ s, I s → I (c.disturbed s).2)
    (failed : Refusal → ε) (statement : Statement α) :
    (c.step failed statement).Preserves fun x => I x.1 := by
  intro x hx
  have hx' := hdisturbed x.1 hx
  unfold Connection.step
  dsimp only
  split
  · exact hx'
  · split <;> exact hx'

/-! ### Transactions and the state around them -/

/-- **A transaction that changes the state around its copy by disturbances only.** It
preserves whatever they do. -/
def OnlyDisturbs (c : Connection σ) (body : Transaction σ ε α) : Prop :=
  ∀ I : σ → Prop, (∀ s, I s → I (c.disturbed s).2) → body.Preserves fun x => I x.1

theorem OnlyDisturbs.pure (a : α) : c.OnlyDisturbs (pure a : Transaction σ ε α) :=
  fun _ _ => .pure a

theorem OnlyDisturbs.throw (e : ε) : c.OnlyDisturbs (throw e : Transaction σ ε α) :=
  fun _ _ => .throw e

theorem OnlyDisturbs.step (failed : Refusal → ε) (statement : Statement α) :
    c.OnlyDisturbs (c.step failed statement) :=
  fun _ hdisturbed => step_preserves hdisturbed failed statement

theorem OnlyDisturbs.bind {x : Transaction σ ε α} {f : α → Transaction σ ε β}
    (hx : c.OnlyDisturbs x) (hf : ∀ a, c.OnlyDisturbs (f a)) : c.OnlyDisturbs (x >>= f) :=
  fun I hdisturbed => (hx I hdisturbed).bind fun a => hf a I hdisturbed

theorem OnlyDisturbs.isContained {body : Transaction σ ε α} (h : c.OnlyDisturbs body)
    (hc : c.IsLawful) : c.IsContained body :=
  fun _ => h _ fun s hs => (hc.disturbed s).trans hs

/-- A statement that succeeds inside a transaction changes the copy. -/
theorem step_eq_ok {failed : Refusal → ε} {statement : Statement α} {s s' : σ}
    {db db' : Contents} {a : α} (h : c.step failed statement (s, db) = (.ok a, (s', db'))) :
    statement db = .ok (a, db') := by
  unfold Connection.step at h
  dsimp only at h
  split at h
  · exact nomatch (congrArg Prod.fst h)
  · cases hrun : statement db with
    | error refusal =>
      rw [hrun] at h
      exact nomatch (congrArg Prod.fst h)
    | ok result =>
      rw [hrun] at h
      cases h
      rfl

/-- **What one transaction can do**: fail and change nothing, or put in place the
contents its last statement leaves. -/
theorem transact_cases (hc : c.IsLawful) (failed : ε) {body : Transaction σ ε α}
    (hbody : c.IsContained body) {s : σ} {db : Contents} (hdb : c.contents s = some db) :
    (∃ e, (c.transact failed body s).1 = .error e
        ∧ c.contents (c.transact failed body s).2 = some db)
      ∨ ∃ a s' db', body (s, db) = (.ok a, (s', db')) ∧ (c.transact failed body s).1 = .ok a
        ∧ c.contents (c.transact failed body s).2 = some db' := by
  have hkept := hbody (some db) (s, db) hdb
  unfold Connection.transact
  rw [hdb]
  dsimp only
  rcases hrun : body (s, db) with ⟨e | a, s', db'⟩
  · rw [hrun] at hkept
    exact .inl ⟨e, rfl, hkept⟩
  · rw [hrun] at hkept
    have hs' := (hc.disturbed s').trans hkept
    dsimp only
    -- all statements may have run and the end of the transaction still be refused
    by_cases hrefused : (c.disturbed s').1 = true
    · rw [if_pos hrefused]
      exact .inl ⟨failed, rfl, hs'⟩
    · rw [if_neg hrefused]
      exact .inr ⟨a, s', db', rfl, rfl, hc.replaced _ _ _ hs'⟩

/-! ## Work that is done as a whole or not at all -/

/-- **Work that is done as a whole or not at all**: it fails and leaves the contents as
they are, or it succeeds and they are changed as it is said. -/
def IsAtomic (c : Connection σ) (task : Task σ ε α) (change : Contents → α → Contents → Prop) :
    Prop :=
  ∀ s db, c.contents s = some db →
    (∃ e, (task s).1 = .error e ∧ c.contents (task s).2 = some db)
      ∨ ∃ a db', (task s).1 = .ok a ∧ c.contents (task s).2 = some db' ∧ change db a db'

theorem IsLawful.execute (hc : c.IsLawful) (failed : Refusal → ε) (statement : Statement α) :
    c.IsAtomic (c.execute failed statement) fun db a db' => statement db = .ok (a, db') := by
  intro s db hs
  refine (execute_cases hc failed statement hs).imp_right ?_
  rintro ⟨a, db', hrun, hok, hs'⟩
  exact ⟨a, db', hok, hs', hrun⟩

theorem IsLawful.transact (hc : c.IsLawful) (failed : ε) {body : Transaction σ ε α}
    (hbody : c.IsContained body) :
    c.IsAtomic (c.transact failed body) fun db a db' =>
      ∃ s s', body (s, db) = (.ok a, (s', db')) := by
  intro s db hs
  refine (transact_cases hc failed hbody hs).imp_right ?_
  rintro ⟨a, s', db', hrun, hok, hcontents⟩
  exact ⟨a, db', hok, hcontents, s, s', hrun⟩

section
variable {x : Task σ ε α} {f : α → Task σ ε β} {change : Contents → β → Contents → Prop}

/-- Work that changes nothing may come first. -/
theorem IsAtomic.bind_of_isQuiet (hx : c.IsQuiet x) (hf : ∀ a, c.IsAtomic (f a) change) :
    c.IsAtomic (x >>= f) change := by
  intro s db hs
  have hs' := hx (some db) s hs
  rw [Task.bind_apply]
  rcases hrun : x s with ⟨e | a, s'⟩
  · rw [hrun] at hs'
    exact .inl ⟨e, rfl, hs'⟩
  · rw [hrun] at hs'
    exact hf a s' db hs'

/-- What comes after a check may rely on what was checked. -/
theorem IsAtomic.ofExcept_bind {result : Except ε α}
    (hf : ∀ a, result = .ok a → c.IsAtomic (f a) change) :
    c.IsAtomic (Task.ofExcept result >>= f) change := by
  intro s db hs
  rw [Task.bind_apply, Task.ofExcept_apply]
  cases result with
  | error e => exact .inl ⟨e, rfl, hs⟩
  | ok a => exact hf a rfl s db hs

/-- An answer may be given at the end. -/
theorem IsAtomic.bind_pure {change : Contents → α → Contents → Prop} (hx : c.IsAtomic x change)
    (b : β) :
    c.IsAtomic (x >>= fun _ => pure b) fun db b' db' => b' = b ∧ ∃ a, change db a db' := by
  intro s db hs
  rw [Task.bind_apply]
  rcases hx s db hs with ⟨e, hfail, hs'⟩ | ⟨a, db', hok, hs', hchange⟩ <;>
    rcases hrun : x s with ⟨result, s'⟩ <;> rw [hrun] at hs'
  · rw [hrun] at hfail
    obtain rfl : result = .error e := hfail
    exact .inl ⟨e, rfl, hs'⟩
  · rw [hrun] at hok
    obtain rfl : result = .ok a := hok
    exact .inr ⟨b, db', rfl, hs', rfl, a, hchange⟩

/-- What fails changes nothing. -/
theorem IsAtomic.unchanged {change : Contents → α → Contents → Prop} (hx : c.IsAtomic x change)
    {s : σ} {db : Contents} (hs : c.contents s = some db) {e : ε} (hfail : (x s).1 = .error e) :
    c.contents (x s).2 = some db := by
  rcases hx s db hs with ⟨-, -, hs'⟩ | ⟨_, _, hok, -⟩
  · exact hs'
  · exact nomatch hfail.symm.trans hok

theorem IsAtomic.imp {change change' : Contents → α → Contents → Prop}
    (hx : c.IsAtomic x change) (h : ∀ db a db', change db a db' → change' db a db') :
    c.IsAtomic x change' := by
  intro s db hs
  refine (hx s db hs).imp_right ?_
  rintro ⟨a, db', hok, hs', hchange⟩
  exact ⟨a, db', hok, hs', h db a db' hchange⟩

end

/-- A transaction preserves what its statements do, if putting its result in place does
so as well. -/
theorem transact_preserves {I : σ → Prop} {failed : ε} {body : Transaction σ ε α}
    (hbody : body.Preserves fun x => I x.1) (hdisturbed : ∀ s, I s → I (c.disturbed s).2)
    (hreplace : ∀ db s, I s → I (c.replace db s)) : (c.transact failed body).Preserves I := by
  intro s hs
  unfold Connection.transact
  cases c.contents s with
  | none => exact hs
  | some db =>
    have hs' := hbody (s, db) hs
    dsimp only
    rcases hrun : body (s, db) with ⟨e | a, s', db'⟩
    · rw [hrun] at hs'
      exact hs'
    · rw [hrun] at hs'
      dsimp only
      split
      · exact hdisturbed s' hs'
      · exact hreplace db' _ (hdisturbed s' hs')

end Database.Connection

end InstructionStore
