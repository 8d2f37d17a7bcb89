import Mathlib.Data.List.Nodup
import Mathlib.Data.List.TakeWhile

/-!
# Lists

Rows are told apart by a part of them that no two share. In a list without such
repetition a member is found by that part, and it stands in one place. A list is also
told apart from what follows it if something stands between that is not in it.
-/

namespace InstructionStore

variable {α β : Type}

/-- In a list without repetition a member is found by what tells it apart. -/
theorem find?_eq_some_of_nodup [DecidableEq β] {f : α → β} {xs : List α} (h : (xs.map f).Nodup)
    {a : α} (ha : a ∈ xs) : xs.find? (fun b => f b = f a) = some a := by
  induction xs with
  | nil => exact nomatch ha
  | cons x xs ih =>
    rw [List.map_cons, List.nodup_cons] at h
    rcases List.mem_cons.1 ha with rfl | hmem
    · exact List.find?_cons_of_pos (decide_eq_true rfl)
    · have hne : f x ≠ f a := fun heq => h.1 (heq ▸ List.mem_map_of_mem hmem)
      rw [List.find?_cons_of_neg (by rwa [decide_eq_true_eq]), ih h.2 hmem]

theorem eq_of_nodup {f : α → β} {xs : List α} (h : (xs.map f).Nodup) {a b : α} (ha : a ∈ xs)
    (hb : b ∈ xs) (heq : f a = f b) : a = b :=
  List.inj_on_of_nodup_map h ha hb heq

/-- A member of a list without repetition stands in one place of it. -/
theorem exists_split_of_nodup {f : α → β} {xs : List α} (h : (xs.map f).Nodup) {a : α}
    (ha : a ∈ xs) :
    ∃ before after, xs = before ++ a :: after ∧ (∀ b ∈ before, f b ≠ f a)
      ∧ ∀ b ∈ after, f b ≠ f a := by
  obtain ⟨before, after, rfl⟩ := List.append_of_mem ha
  refine ⟨before, after, rfl, fun b hb heq => ?_, fun b hb heq => ?_⟩
  · rw [List.map_append, List.nodup_append] at h
    refine h.2.2 _ (List.mem_map_of_mem hb) (f a) ?_ heq
    exact List.mem_map_of_mem List.mem_cons_self
  · rw [List.map_append, List.map_cons, List.nodup_append, List.nodup_cons] at h
    exact h.2.1.1 (heq ▸ List.mem_map_of_mem hb)

/-- In a list without repetition one member has what tells it apart. -/
theorem filter_eq_singleton_of_nodup [DecidableEq β] {f : α → β} {xs : List α}
    (h : (xs.map f).Nodup) {a : α} (ha : a ∈ xs) : (xs.filter fun b => f b = f a) = [a] := by
  obtain ⟨before, after, rfl, hbefore, hafter⟩ := exists_split_of_nodup h ha
  have hnone {ys : List α} (hne : ∀ b ∈ ys, f b ≠ f a) : (ys.filter fun b => f b = f a) = [] :=
    List.filter_eq_nil_iff.2 fun b hb => by simpa using hne b hb
  rw [List.filter_append, List.filter_cons_of_pos (by exact decide_eq_true rfl), hnone hbefore,
    hnone hafter, List.nil_append]

theorem nodup_map_concat {f : α → β} {xs : List α} {a : α} (h : (xs.map f).Nodup)
    (ha : ∀ b ∈ xs, f b ≠ f a) : ((xs ++ [a]).map f).Nodup := by
  rw [List.map_append, List.map_singleton, List.nodup_append]
  refine ⟨h, List.nodup_singleton _, fun y hy z hz => ?_⟩
  obtain ⟨b, hb, rfl⟩ := List.mem_map.1 hy
  rw [List.mem_singleton.1 hz]
  exact ha b hb

theorem nodup_map_filter {f : α → β} {xs : List α} (p : α → Bool) (h : (xs.map f).Nodup) :
    ((xs.filter p).map f).Nodup :=
  h.sublist (List.filter_sublist.map f)

/-- A change to what is filtered out is not seen. -/
theorem filter_map_eq_filter {p : α → Bool} {f : α → α} {xs : List α}
    (h : ∀ a ∈ xs, p (f a) = p a ∧ (p a = true → f a = a)) :
    (xs.map f).filter p = xs.filter p := by
  rw [List.filter_map, List.filter_congr (p := p ∘ f) (q := p) fun a ha => (h a ha).1]
  refine (List.map_congr_left fun a ha => ?_).trans (List.map_id _)
  obtain ⟨hmem, hp⟩ := List.mem_filter.1 ha
  exact (h a hmem).2 hp

/-- **What is not in a list ends it.** -/
theorem append_cons_inj {a : α} {xs ys us vs : List α} (hx : a ∉ xs) (hy : a ∉ ys)
    (h : xs ++ a :: us = ys ++ a :: vs) : xs = ys ∧ us = vs := by
  induction xs generalizing ys with
  | nil =>
    cases ys with
    | nil => exact ⟨rfl, (List.cons.inj h).2⟩
    | cons y ys => exact absurd ((List.cons.inj h).1 ▸ List.mem_cons_self) hy
  | cons x xs ih =>
    cases ys with
    | nil => exact absurd ((List.cons.inj h).1 ▸ List.mem_cons_self) hx
    | cons y ys =>
      obtain ⟨rfl, hrest⟩ := List.cons.inj h
      obtain ⟨rfl, htail⟩ := ih (fun hmem => hx (List.mem_cons_of_mem _ hmem))
        (fun hmem => hy (List.mem_cons_of_mem _ hmem)) hrest
      exact ⟨rfl, htail⟩

/-- **Reading a list one by one**, if each of its members can be read. -/
theorem exists_mapM_take {ε : Type} {f : α → Except ε β} {xs : List α}
    (h : ∀ a ∈ xs, ∃ b, f a = .ok b) :
    ∃ ys : List β, xs.map f = ys.map .ok ∧ ∀ n, (xs.take n).mapM f = .ok (ys.take n) := by
  induction xs with
  | nil => exact ⟨[], rfl, fun n => by rw [List.take_nil, List.take_nil]; rfl⟩
  | cons x xs ih =>
    rw [List.forall_mem_cons] at h
    obtain ⟨y, hy⟩ := h.1
    obtain ⟨ys, hmap, htake⟩ := ih h.2
    refine ⟨y :: ys, by rw [List.map_cons, List.map_cons, hy, hmap], fun n => ?_⟩
    cases n with
    | zero => rfl
    | succ n =>
      rw [List.take_succ_cons, List.take_succ_cons, List.mapM_cons, hy, htake]
      rfl

/-- What is told of things that were read is told of what they were read from. -/
theorem map_eq_map_of_read {ε γ : Type} {f : α → Except ε β} {xs : List α} {ys : List β}
    (h : xs.map f = ys.map .ok) {g : α → γ} {k : β → γ} (hgk : ∀ a b, f a = .ok b → k b = g a) :
    ys.map k = xs.map g := by
  induction xs generalizing ys with
  | nil =>
    cases ys with
    | nil => rfl
    | cons y ys => exact nomatch h
  | cons x xs ih =>
    cases ys with
    | nil => exact nomatch h
    | cons y ys =>
      obtain ⟨hread, hrest⟩ := List.cons.inj h
      rw [List.map_cons, List.map_cons, hgk x y hread, ih hrest]

end InstructionStore
