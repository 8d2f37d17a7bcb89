import InstructionStore.Proofs.Json.Rereading

/-!
# Texts that nest too deeply are refused

The reader of values counts the arrays and objects that are open and refuses to open one
more than there is room for. The text of a value that nests more deeply than that is
therefore not read (`Reader.refuses_print`), for this reason and no other: whatever stands
before the first part that is too deep is read, and the fault of that part is the fault of
the whole.

Room for the depth of a value is thus needed as well as enough
(`Reader.exists_reads_print`).
-/

namespace InstructionStore.Json

namespace Reader

/-- **A text is refused for its nesting**, whatever follows it. -/
def Refuses {α : Type} (item : Reader α) (text : List Char) : Prop :=
  Begins text ∧ ∀ rest, ∃ left, item (text ++ rest) = .error (.located .nestedTooDeeply left)

/-! ## Arrays -/

section
variable {α : Type} {item : Reader α} {texts : List (List Char)}

/-- **Items are read up to one that is refused.** -/
inductive RefusesItem (item : Reader α) : List (List Char) → Prop where
  /-- The first item is refused. -/
  | first {text : List Char} {texts : List (List Char)} (refused : Refuses item text) :
    RefusesItem item (text :: texts)
  /-- The first item is read, and another one refused. -/
  | later {text : List Char} {texts : List (List Char)} {a : α} (read : Reads item text a)
    (others : RefusesItem item texts) : RefusesItem item (text :: texts)

theorem elements_refused (h : RefusesItem item texts) :
    ∀ {bound : Nat} (done : List α) (rest : List Char), texts.length < bound →
      ∃ left, elements item bound false done (texts.flatMap (',' :: ·) ++ ']' :: rest)
        = .error (.located .nestedTooDeeply left) := by
  induction h with
  | @first text texts hrefused =>
    intro bound done rest hbound
    obtain ⟨bound, rfl⟩ := Nat.exists_eq_succ_of_ne_zero (Nat.ne_of_gt (Nat.zero_lt_of_lt hbound))
    obtain ⟨left, hleft⟩ := hrefused.2 (texts.flatMap (',' :: ·) ++ ']' :: rest)
    refine ⟨left, ?_⟩
    rw [List.flatMap_cons, List.append_assoc, List.cons_append, elements_next hrefused.1, hleft]
    rfl
  | @later text texts a hread _ ih =>
    intro bound done rest hbound
    obtain ⟨bound, rfl⟩ := Nat.exists_eq_succ_of_ne_zero (Nat.ne_of_gt (Nat.zero_lt_of_lt hbound))
    rw [List.flatMap_cons, List.append_assoc, List.cons_append, elements_next hread.1,
      hread.2 _ (ends_flatMap (ends_bracket rest))]
    exact ih _ _ (Nat.lt_of_succ_lt_succ hbound)

/-- An array with an item that is refused is refused. -/
theorem list_refused (h : RefusesItem item texts) (rest : List Char) :
    ∃ left, list item (separated ',' texts ++ ']' :: rest)
      = .error (.located .nestedTooDeeply left) := by
  unfold list
  cases h with
  | @first text texts hrefused =>
    obtain ⟨left, hleft⟩ := hrefused.2 (texts.flatMap (',' :: ·) ++ ']' :: rest)
    refine ⟨left, ?_⟩
    rw [separated_cons, List.append_assoc, elements_first hrefused.1, hleft]
    rfl
  | @later text texts a hread hothers =>
    have hbound : texts.length < (separated ',' (text :: texts) ++ ']' :: rest).length := by
      have hpos := hread.1.length_pos
      have hle := length_le_flatMap ',' texts
      rw [separated_cons, List.length_append, List.length_append]
      omega
    generalize (separated ',' (text :: texts) ++ ']' :: rest).length = bound at hbound
    rw [separated_cons, List.append_assoc, elements_first hread.1,
      hread.2 _ (ends_flatMap (ends_bracket rest))]
    exact elements_refused hothers _ _ hbound

end

/-! ## Objects -/

section
variable {σ α : Type} {field : σ → String → Reader σ} {fields : List (String × List Char)} {s : σ}

/-- **Fields are read up to one that is refused.** -/
inductive RefusesField (field : σ → String → Reader σ) :
    σ → List (String × List Char) → Prop where
  /-- The first field is refused. -/
  | first {s : σ} {f : String × List Char} {fields : List (String × List Char)}
    (refused : ∀ rest, ∃ left,
      field s f.1 (':' :: (f.2 ++ rest)) = .error (.located .nestedTooDeeply left)) :
    RefusesField field s (f :: fields)
  /-- The first field is read, and another one refused. -/
  | later {s s' : σ} {f : String × List Char} {fields : List (String × List Char)}
    (read : ∀ rest, Ends rest → field s f.1 (':' :: (f.2 ++ rest)) = .ok (s', rest))
    (others : RefusesField field s' fields) : RefusesField field s (f :: fields)

theorem members_refused (h : RefusesField field s fields) :
    ∀ {bound : Nat} (rest : List Char), fields.length < bound →
      ∃ left, members field bound false s
        ((fields.map fieldText).flatMap (',' :: ·) ++ '\x7d' :: rest)
          = .error (.located .nestedTooDeeply left) := by
  induction h with
  | @first s f fields hrefused =>
    intro bound rest hbound
    obtain ⟨bound, rfl⟩ := Nat.exists_eq_succ_of_ne_zero (Nat.ne_of_gt (Nat.zero_lt_of_lt hbound))
    obtain ⟨left, hleft⟩ := hrefused ((fields.map fieldText).flatMap (',' :: ·) ++ '\x7d' :: rest)
    refine ⟨left, ?_⟩
    rw [List.map_cons, List.flatMap_cons, List.append_assoc, List.cons_append, members_next, hleft]
    rfl
  | later hread _ ih =>
    intro bound rest hbound
    obtain ⟨bound, rfl⟩ := Nat.exists_eq_succ_of_ne_zero (Nat.ne_of_gt (Nat.zero_lt_of_lt hbound))
    rw [List.map_cons, List.flatMap_cons, List.append_assoc, List.cons_append, members_next,
      hread _ (ends_flatMap (ends_brace rest))]
    exact ih _ (Nat.lt_of_succ_lt_succ hbound)

/-- An object with a field that is refused is refused. -/
theorem object_refused {finish : σ → Except Cause α} (h : RefusesField field s fields)
    (rest : List Char) :
    ∃ left, object s field finish (separated ',' (fields.map fieldText) ++ '\x7d' :: rest)
      = .error (.located .nestedTooDeeply left) := by
  have hmembers : ∃ left, members field
      ((separated ',' (fields.map fieldText) ++ '\x7d' :: rest).length + 1) true s
      (separated ',' (fields.map fieldText) ++ '\x7d' :: rest)
        = .error (.located .nestedTooDeeply left) := by
    generalize hlength : (separated ',' (fields.map fieldText) ++ '\x7d' :: rest).length = length
    cases h with
    | @first _ f fields hrefused =>
      obtain ⟨left, hleft⟩ := hrefused ((fields.map fieldText).flatMap (',' :: ·) ++ '\x7d' :: rest)
      refine ⟨left, ?_⟩
      rw [List.map_cons, separated_cons, List.append_assoc, members_first, hleft]
      rfl
    | @later _ s' f fields hread hothers =>
      have hbound : fields.length < length := by
        have hle := length_le_flatMap ',' (fields.map fieldText)
        rw [List.length_map] at hle
        rw [← hlength, List.map_cons, separated_cons, List.length_append, List.length_append,
          List.length_cons]
        omega
      rw [List.map_cons, separated_cons, List.append_assoc, members_first,
        hread _ (ends_flatMap (ends_brace rest))]
      exact members_refused hothers _ hbound
  obtain ⟨left, hleft⟩ := hmembers
  refine ⟨left, ?_⟩
  unfold object
  rw [hleft]
  rfl

end

/-! ## Values -/

variable {room : Nat}

/-- Of values one of which is too deep, the first such is refused. -/
theorem refusesItem_of_deep {vs : List Json}
    (h : ∀ v ∈ vs, room < v.depth → Refuses (value room) v.print)
    (hdeep : ∃ v ∈ vs, room < v.depth) : RefusesItem (value room) (vs.map print) := by
  induction vs with
  | nil => simp at hdeep
  | cons v vs ih =>
    by_cases hv : room < v.depth
    · exact .first (h v List.mem_cons_self hv)
    · obtain ⟨w, -, hread⟩ := exists_reads_print v
      obtain ⟨u, hu, hdepth⟩ := hdeep
      have hrest : u ∈ vs := (List.mem_cons.1 hu).resolve_left fun heq => hv (heq ▸ hdepth)
      exact .later (hread room (Nat.not_lt.1 hv))
        (ih (fun u hu => h u (List.mem_cons_of_mem v hu)) ⟨u, hrest, hdepth⟩)

/-- Of fields one of which is too deep, the first such is refused. -/
theorem refusesField_of_deep {fields : List (String × Json)}
    (h : ∀ f ∈ fields, room < f.2.depth → Refuses (value room) f.2.print)
    (hdeep : ∃ f ∈ fields, room < f.2.depth) (entries : List (String × Json)) :
    RefusesField (readField room) entries (fields.map fun f => (f.1, f.2.print)) := by
  induction fields generalizing entries with
  | nil => simp at hdeep
  | cons f fields ih =>
    by_cases hf : room < f.2.depth
    · refine .first fun rest => ?_
      obtain ⟨left, hleft⟩ := (h f List.mem_cons_self hf).2 rest
      refine ⟨left, ?_⟩
      show (value room (f.2.print ++ rest) >>= _) = _
      rw [hleft]
      rfl
    · obtain ⟨w, -, hread⟩ := exists_reads_print f.2
      obtain ⟨g, hg, hdepth⟩ := hdeep
      have hrest : g ∈ fields := (List.mem_cons.1 hg).resolve_left fun heq => hf (heq ▸ hdepth)
      exact .later (readsField_of_reads (hread room (Nat.not_lt.1 hf)) entries)
        (ih (fun g hg => h g (List.mem_cons_of_mem f hg)) ⟨g, hrest, hdepth⟩ _)

/-- A value that is too deep has a part that is. -/
theorem exists_lt_of_lt {n : Nat} {f : Fin n → Nat} (h : room + 1 < 1 + greatest f) :
    ∃ i, room < f i := by
  by_contra hnot
  have hle : greatest f ≤ room := greatest_le_iff.2 fun i => Nat.not_lt.1 fun hi => hnot ⟨i, hi⟩
  omega

/-- **The text of a value that nests more deeply than there is room for is refused.** -/
theorem refuses_print (v : Json) : ∀ {room : Nat}, room < v.depth →
    Refuses (value room) v.print := by
  induction v with
  | null => exact fun h => absurd h (Nat.not_lt_zero _)
  | bool b => exact fun h => absurd h (Nat.not_lt_zero _)
  | number n => exact fun h => absurd h (Nat.not_lt_zero _)
  | string s => exact fun h => absurd h (Nat.not_lt_zero _)
  | array size item ih =>
    intro room hroom
    refine ⟨⟨'[', _, rfl, by decide, by decide, by decide⟩, fun rest => ?_⟩
    cases room with
    | zero => exact ⟨_, rfl⟩
    | succ room =>
      obtain ⟨i, hi⟩ := exists_lt_of_lt hroom
      have hitems : RefusesItem (value room) ((List.ofFn item).map print) := by
        refine refusesItem_of_deep (fun v hv hdeep => ?_) ⟨_, (List.mem_ofFn' _ _).2 ⟨i, rfl⟩, hi⟩
        obtain ⟨j, rfl⟩ := (List.mem_ofFn' _ _).1 hv
        exact ih j hdeep
      obtain ⟨left, hleft⟩ := list_refused hitems rest
      refine ⟨left, ?_⟩
      rw [List.map_ofFn] at hleft
      unfold print
      rw [List.append_assoc, List.cons_append, value_of_bracket, List.singleton_append]
      exact congrArg (Except.map _) hleft
  | object keys value' ih =>
    intro room hroom
    refine ⟨⟨'\x7b', _, rfl, by decide, by decide, by decide⟩, fun rest => ?_⟩
    cases room with
    | zero => exact ⟨_, rfl⟩
    | succ room =>
      obtain ⟨i, hi⟩ := exists_lt_of_lt hroom
      have hfields : RefusesField (readField room) []
          ((List.ofFn fun i => (keys.name i, value' i)).map fun f => (f.1, f.2.print)) := by
        refine refusesField_of_deep (fun f hf hdeep => ?_)
          ⟨_, (List.mem_ofFn' _ _).2 ⟨i, rfl⟩, hi⟩ []
        obtain ⟨j, rfl⟩ := (List.mem_ofFn' _ _).1 hf
        exact ih j hdeep
      obtain ⟨left, hleft⟩ := object_refused hfields rest
      refine ⟨left, ?_⟩
      rw [List.map_ofFn, List.map_ofFn] at hleft
      unfold print
      rw [List.append_assoc, List.cons_append, value_of_brace, List.singleton_append]
      exact hleft

end Reader

/-- **A value that nests too deeply is not read from its text.** -/
theorem parse_text_of_lt_depth {v : Json} (h : nestingLimit < v.depth) :
    ∃ left, parse v.text = .error (.located .nestedTooDeeply left) := by
  obtain ⟨left, hleft⟩ := (Reader.refuses_print v h).2 []
  refine ⟨left, ?_⟩
  rw [List.append_nil] at hleft
  unfold parse Reader.whole text
  rw [String.toList_ofList, hleft]

end InstructionStore.Json
