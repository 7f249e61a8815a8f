import Mathlib.Data.List.AList

/-!
# Tables with a primary key

A table maps each key to at most one row, so a second row under a key cannot be written. The
operations are those of a database client: create a row, update or delete the rows that meet a
condition, look one up. Every operation is described by what `lookup` finds afterwards.
-/

namespace SmeDataCenter

/-- A table with keys `κ` and rows `ρ`. -/
abbrev Table (κ ρ : Type) := AList fun _ : κ => ρ

namespace Table

variable {κ ρ : Type} [DecidableEq κ]

/-- Rewrite every row. -/
def mapRows (t : Table κ ρ) (f : κ → ρ → ρ) : Table κ ρ where
  entries := t.entries.map fun e => ⟨e.1, f e.1 e.2⟩
  nodupKeys := by
    have hkeys : (t.entries.map fun e => (⟨e.1, f e.1 e.2⟩ : Sigma fun _ : κ => ρ)).keys =
        t.entries.keys := by
      simp [List.keys, List.map_map, Function.comp_def]
    rw [List.NodupKeys, hkeys]
    exact t.nodupKeys

/-- Apply `f` to the rows that meet `p`. -/
def updateMany (t : Table κ ρ) (p : κ → ρ → Bool) (f : ρ → ρ) : Table κ ρ :=
  t.mapRows fun k row => if p k row then f row else row

/-- Apply `f` to the row under `k`. -/
def update (t : Table κ ρ) (k : κ) (f : ρ → ρ) : Table κ ρ :=
  t.updateMany (fun k' _ => decide (k' = k)) f

/-- Delete the rows that meet `p`. -/
def deleteMany (t : Table κ ρ) (p : κ → ρ → Bool) : Table κ ρ where
  entries := t.entries.filter fun e => !p e.1 e.2
  nodupKeys := by
    exact t.nodupKeys.sublist List.filter_sublist

/-- Create a row; `none` when the key is taken. -/
def create (t : Table κ ρ) (k : κ) (row : ρ) : Option (Table κ ρ) :=
  if k ∈ t then none else some (t.insert k row)

/-- Create one row after the other; `none` when a key is taken, or given twice. -/
def createMany (t : Table κ ρ) : List (κ × ρ) → Option (Table κ ρ)
  | [] => some t
  | (k, row) :: rows => do (← t.create k row).createMany rows

/-- The table of what is seen of each row. -/
def view {ρ' : Type} (t : Table κ ρ) (f : ρ → ρ') : Table κ ρ' where
  entries := t.entries.map fun e => ⟨e.1, f e.2⟩
  nodupKeys := by
    have hkeys : (t.entries.map fun e => (⟨e.1, f e.2⟩ : Sigma fun _ : κ => ρ')).keys =
        t.entries.keys := by
      simp [List.keys, List.map_map, Function.comp_def]
    rw [List.NodupKeys, hkeys]
    exact t.nodupKeys

/-- The rows that meet `p`, with their keys. -/
def findMany (t : Table κ ρ) (p : κ → ρ → Bool) : List (κ × ρ) :=
  (t.entries.filter fun e => p e.1 e.2).map fun e => (e.1, e.2)

/-! ### What is found afterwards -/

lemma dlookup_ne {k k' : κ} (h : k ≠ k') (row : ρ) (l : List (Sigma fun _ : κ => ρ)) :
    List.dlookup k (⟨k', row⟩ :: l) = List.dlookup k l := List.dlookup_cons_ne l ⟨k', row⟩ h

lemma dlookup_map (g : κ → ρ → ρ) (k : κ) (l : List (Sigma fun _ : κ => ρ)) :
    List.dlookup k (l.map fun e => (⟨e.1, g e.1 e.2⟩ : Sigma fun _ : κ => ρ)) =
      (List.dlookup k l).map (g k) := by
  induction l with
  | nil => rfl
  | cons e l ih =>
    obtain ⟨k', row⟩ := e
    rcases eq_or_ne k k' with rfl | hne
    · simp
    · rw [List.map_cons, dlookup_ne hne, dlookup_ne hne, ih]

@[simp] lemma lookup_mapRows (t : Table κ ρ) (f : κ → ρ → ρ) (k : κ) :
    (t.mapRows f).lookup k = (t.lookup k).map (f k) := dlookup_map f k t.entries

@[simp] lemma lookup_updateMany (t : Table κ ρ) (p : κ → ρ → Bool) (f : ρ → ρ) (k : κ) :
    (t.updateMany p f).lookup k = (t.lookup k).map fun row => if p k row then f row else row :=
  lookup_mapRows ..

@[simp] lemma lookup_update (t : Table κ ρ) (k k' : κ) (f : ρ → ρ) :
    (t.update k f).lookup k' = if k' = k then (t.lookup k).map f else t.lookup k' := by
  rw [update, lookup_updateMany]
  by_cases h : k' = k
  · subst h; simp
  · simp [h]

lemma dlookup_filter (p : κ → ρ → Bool) (k : κ) {l : List (Sigma fun _ : κ => ρ)}
    (h : l.NodupKeys) :
    List.dlookup k (l.filter fun e => p e.1 e.2) = (List.dlookup k l).filter (p k) := by
  induction l with
  | nil => rfl
  | cons e l ih =>
    obtain ⟨k', row⟩ := e
    obtain ⟨hk', hl⟩ := List.nodupKeys_cons.mp h
    specialize ih hl
    rcases eq_or_ne k k' with rfl | hne
    · have hnone : List.dlookup k l = none := List.dlookup_eq_none.mpr hk'
      cases hp : p k row with
      | true => simp [hp, Option.filter_some]
      | false => simp [hp, ih, hnone, Option.filter_some]
    · cases hp : p k' row with
      | true => rw [List.filter_cons_of_pos (by simpa using hp), dlookup_ne hne, dlookup_ne hne, ih]
      | false => rw [List.filter_cons_of_neg (by simp [hp]), dlookup_ne hne, ih]

@[simp] lemma lookup_deleteMany (t : Table κ ρ) (p : κ → ρ → Bool) (k : κ) :
    (t.deleteMany p).lookup k = (t.lookup k).filter fun row => !p k row :=
  dlookup_filter (fun k row => !p k row) k t.nodupKeys

lemma lookup_insert' (t : Table κ ρ) (k k' : κ) (row : ρ) :
    AList.lookup k' (t.insert k row) = if k' = k then some row else t.lookup k' := by
  by_cases h : k' = k
  · subst h; simp
  · simp [h, AList.lookup_insert_ne h]

lemma lookup_create {t t' : Table κ ρ} {k : κ} {row : ρ} (h : t.create k row = some t') (k' : κ) :
    t'.lookup k' = if k' = k then some row else t.lookup k' := by
  unfold create at h
  split_ifs at h
  obtain rfl := Option.some.inj h
  exact lookup_insert' t k k' row

lemma create_fresh {t t' : Table κ ρ} {k : κ} {row : ρ} (h : t.create k row = some t') :
    t.lookup k = none := by
  unfold create at h
  split_ifs at h with hk
  exact AList.lookup_eq_none.mpr hk

lemma lookup_createMany {rows : List (κ × ρ)} {t t' : Table κ ρ}
    (h : t.createMany rows = some t') :
    (∀ e ∈ rows, t'.lookup e.1 = some e.2) ∧
      ∀ k row, t.lookup k = some row → t'.lookup k = some row := by
  induction rows generalizing t with
  | nil =>
    obtain rfl := Option.some.inj h
    simp
  | cons e rows ih =>
    obtain ⟨k, row⟩ := e
    simp only [createMany, Option.bind_eq_bind, Option.bind_eq_some_iff] at h
    obtain ⟨u, hu, ht⟩ := h
    obtain ⟨hrows, hold⟩ := ih ht
    have hkeep : ∀ k' row', t.lookup k' = some row' → u.lookup k' = some row' := by
      intro k' row' hk'
      rw [lookup_create hu]
      split_ifs with he
      · rw [he, create_fresh hu] at hk'
        cases hk'
      · exact hk'
    refine ⟨?_, fun k' row' hk' => hold k' row' (hkeep k' row' hk')⟩
    intro e he
    rcases List.mem_cons.mp he with rfl | he
    · exact hold k row (by rw [lookup_create hu, if_pos rfl])
    · exact hrows e he

lemma of_lookup_createMany {rows : List (κ × ρ)} {t t' : Table κ ρ} {k : κ} {row : ρ}
    (h : t.createMany rows = some t') (hk : t'.lookup k = some row) :
    (k, row) ∈ rows ∨ t.lookup k = some row := by
  induction rows generalizing t with
  | nil =>
    obtain rfl := Option.some.inj h
    exact .inr hk
  | cons e rows ih =>
    obtain ⟨k', row'⟩ := e
    simp only [createMany, Option.bind_eq_bind, Option.bind_eq_some_iff] at h
    obtain ⟨u, hu, ht⟩ := h
    rcases ih ht with hmem | hu'
    · exact .inl (List.mem_cons_of_mem _ hmem)
    · rw [lookup_create hu] at hu'
      split_ifs at hu' with he
      · obtain rfl := Option.some.inj hu'
        exact .inl (he ▸ List.mem_cons_self)
      · exact .inr hu'

lemma mem_findMany {t : Table κ ρ} {p : κ → ρ → Bool} {k : κ} {row : ρ} :
    (k, row) ∈ t.findMany p ↔ t.lookup k = some row ∧ p k row = true := by
  have h := AList.mem_lookup_iff (a := k) (b := row) (s := t)
  rw [Option.mem_def] at h
  simp only [findMany, List.mem_map, List.mem_filter, h]
  constructor
  · rintro ⟨e, ⟨he, hp⟩, heq⟩
    cases heq
    exact ⟨he, hp⟩
  · rintro ⟨he, hp⟩
    exact ⟨_, ⟨he, hp⟩, rfl⟩

/-! ### How many rows meet a condition -/

omit [DecidableEq κ] in
lemma nodup_findMany (t : Table κ ρ) (p : κ → ρ → Bool) : ((t.findMany p).map (·.1)).Nodup := by
  have hkeys : (t.findMany p).map (·.1) = (t.entries.filter fun e => p e.1 e.2).keys := by
    simp [findMany, List.keys, List.map_map, Function.comp_def]
  rw [hkeys]
  exact t.nodupKeys.sublist List.filter_sublist

lemma length_findMany_le {t t' : Table κ ρ} {p q : κ → ρ → Bool} (more : List κ)
    (h : ∀ k row', k ∉ more → t'.lookup k = some row' → q k row' = true →
      ∃ row, t.lookup k = some row ∧ p k row = true) :
    (t'.findMany q).length ≤ (t.findMany p).length + more.length := by
  have hsub : (t'.findMany q).map (·.1) ⊆ (t.findMany p).map (·.1) ++ more := by
    intro k hk
    obtain ⟨⟨k', row'⟩, hmem, rfl⟩ := List.mem_map.mp hk
    obtain ⟨hrow, hq⟩ := mem_findMany.mp hmem
    by_cases hmore : k' ∈ more
    · exact List.mem_append_right _ hmore
    · obtain ⟨row, hold, hp⟩ := h k' row' hmore hrow hq
      exact List.mem_append_left _ (List.mem_map.mpr ⟨(k', row), mem_findMany.mpr ⟨hold, hp⟩, rfl⟩)
  have hle := (List.subperm_of_subset (t'.nodup_findMany q) hsub).length_le
  simpa using hle

lemma length_findMany_le_one {t : Table κ ρ} {p : κ → ρ → Bool}
    (h : ∀ k k' row row', t.lookup k = some row → t.lookup k' = some row' → p k row = true →
      p k' row' = true → k = k') : (t.findMany p).length ≤ 1 := by
  have hnodup := t.nodup_findMany p
  rw [← List.length_map (·.1)]
  rcases hl : t.findMany p with _ | ⟨a, _ | ⟨b, rest⟩⟩
  · simp
  · simp
  · obtain ⟨ha, hpa⟩ := mem_findMany.mp (hl ▸ List.mem_cons_self : (a.1, a.2) ∈ t.findMany p)
    obtain ⟨hb, hpb⟩ := mem_findMany.mp
      (hl ▸ List.mem_cons_of_mem _ List.mem_cons_self : (b.1, b.2) ∈ t.findMany p)
    rw [hl] at hnodup
    simp [h a.1 b.1 a.2 b.2 ha hb hpa hpb] at hnodup

/-! ### What a table keeps -/

/-- The rows of two tables are under the same keys, and agree in `f`. -/
def Keeps {α : Type} (f : ρ → α) (t t' : Table κ ρ) : Prop :=
  ∀ k, (t'.lookup k).map f = (t.lookup k).map f

namespace Keeps

variable {α : Type} {f : ρ → α} {t t' t'' : Table κ ρ} {k : κ} {row : ρ}

lemma refl (f : ρ → α) (t : Table κ ρ) : Keeps f t t := fun _ => rfl

lemma trans (h : Keeps f t t') (h' : Keeps f t' t'') : Keeps f t t'' :=
  fun k => (h' k).trans (h k)

lemma symm (h : Keeps f t t') : Keeps f t' t := fun k => (h k).symm

lemma updateMany {p : κ → ρ → Bool} {g : ρ → ρ} (h : ∀ row, f (g row) = f row) :
    Keeps f t (t.updateMany p g) := by
  intro k
  rw [lookup_updateMany]
  cases t.lookup k with
  | none => rfl
  | some row =>
    simp only [Option.map_some]
    split_ifs
    · rw [h]
    · rfl

lemma update {k : κ} {g : ρ → ρ} (h : ∀ row, f (g row) = f row) : Keeps f t (t.update k g) :=
  updateMany h

lemma back (h : Keeps f t t') (hk : t'.lookup k = some row) :
    ∃ old, t.lookup k = some old ∧ f old = f row := by
  have hkeep := h k
  rw [hk, Option.map_some] at hkeep
  obtain ⟨old, hold, hf⟩ := Option.map_eq_some_iff.mp hkeep.symm
  exact ⟨old, hold, hf⟩

lemma forth (h : Keeps f t t') (hk : t.lookup k = some row) :
    ∃ new, t'.lookup k = some new ∧ f new = f row := h.symm.back hk

lemma coarsen {β : Type} {f' : ρ → β} (h : Keeps f t t') (g : α → β)
    (hf : ∀ row, f' row = g (f row)) : Keeps f' t t' := by
  intro k
  have hcomp : f' = g ∘ f := funext hf
  rw [hcomp, ← Option.map_map, ← Option.map_map, h k]

end Keeps

end Table
end SmeDataCenter
