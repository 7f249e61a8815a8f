import Mathlib.Data.List.Induction
import Mathlib.Data.List.Nodup

/-!
# Rows in groups

Rows are gathered one after another: a row goes to the group of its key, or begins one. A group is
what its own rows make of it, so that the groups of two orders of the rows differ in their order
only, wherever a group does not depend on the order of its rows.
-/

namespace SmeDataCenter
namespace Import

/-- Change the first element that meets a condition, or put one at the end. -/
def updateOrAppend {α : Type} (p : α → Bool) (update : α → α) (fresh : α) : List α → List α
  | [] => [fresh]
  | a :: rest => if p a then update a :: rest else a :: updateOrAppend p update fresh rest

namespace Grouping

lemma perm_map_of {α β γ : Type} {f : α → β} {g : α → γ} {items others : List α}
    (h : ∀ a ∈ items, ∀ b ∈ others, f a = f b → g a = g b)
    (hperm : (items.map f).Perm (others.map f)) : (items.map g).Perm (others.map g) := by
  induction items generalizing others with
  | nil =>
    rw [List.map_nil, List.nil_perm, List.map_eq_nil_iff] at hperm
    rw [hperm]
  | cons a items ih =>
    have hmem : f a ∈ others.map f := hperm.subset (List.mem_map_of_mem List.mem_cons_self)
    obtain ⟨b, hb, hab⟩ := List.mem_map.mp hmem
    have hhead := h a List.mem_cons_self b hb hab.symm
    obtain ⟨before, after, rfl⟩ := List.append_of_mem hb
    have hmiddle := (@List.perm_middle _ b before after).map f
    have hrest : (items.map f).Perm ((before ++ after).map f) := by
      have hcons := hperm.trans hmiddle
      rw [List.map_cons, List.map_cons, hab] at hcons
      exact (List.perm_cons _).mp hcons
    have hmap := ih (fun c hc d hd => h c (List.mem_cons_of_mem _ hc) d (by
      rcases List.mem_append.mp hd with hd | hd <;> simp [hd])) hrest
    rw [List.map_cons, hhead]
    exact (hmap.cons (g b)).trans ((@List.perm_middle _ b before after).map g).symm

lemma lookup_of_mem {κ α : Type} [BEq κ] [LawfulBEq κ] {entries : List (κ × α)}
    (hnames : (entries.map Prod.fst).Nodup) {name : κ} {a : α} (h : (name, a) ∈ entries) :
    entries.lookup name = some a := by
  induction entries with
  | nil => cases h
  | cons entry entries ih =>
    rw [List.map_cons, List.nodup_cons] at hnames
    rcases List.mem_cons.mp h with rfl | h
    · exact List.lookup_cons_self
    · have hne : name ≠ entry.1 := by
        rintro rfl
        exact hnames.1 (List.mem_map.mpr ⟨_, h, rfl⟩)
      rw [List.lookup_cons, beq_eq_false_iff_ne.mpr hne]
      exact ih hnames.2 h

section

variable {α κ ρ : Type} [DecidableEq κ] (key : ρ → κ) (keyOf : α → κ) (step : Option α → ρ → α)

/-- A row goes to its group. -/
def addRow (groups : List α) (row : ρ) : List α :=
  updateOrAppend (fun group => keyOf group = key row) (fun group => step (some group) row)
    (step none row) groups

def grouped (rows : List ρ) : List α := rows.foldl (addRow key keyOf step) []

/-- What some rows make of a group. -/
def accumulate (rows : List ρ) : Option α :=
  rows.foldl (fun group row => some (step group row)) none

/-- A step keeps the key of a group. -/
def KeepsKey : Prop :=
  ∀ group row, (∀ g, group = some g → keyOf g = key row) → keyOf (step group row) = key row

end

variable {α κ ρ β : Type} [DecidableEq κ] {key : ρ → κ} {keyOf : α → κ} {step : Option α → ρ → α}

lemma accumulate_snoc (rows : List ρ) (row : ρ) :
    accumulate step (rows ++ [row]) = some (step (accumulate step rows) row) := by
  rw [accumulate, List.foldl_append]
  rfl

variable {rows : List ρ}

lemma accumulate_eq_none : accumulate step rows = none ↔ rows = [] := by
  induction rows using List.reverseRecOn with
  | nil => simp [accumulate]
  | append_singleton rows row => simp [accumulate_snoc]

lemma grouped_snoc (rows : List ρ) (row : ρ) :
    grouped key keyOf step (rows ++ [row]) =
      addRow key keyOf step (grouped key keyOf step rows) row := by
  rw [grouped, List.foldl_append]
  rfl

lemma find_addRow (hkey : KeepsKey key keyOf step) (groups : List α) (row : ρ) (k : κ) :
    (addRow key keyOf step groups row).find? (fun group => keyOf group = k) =
      if key row = k then some (step (groups.find? fun group => keyOf group = key row) row)
      else groups.find? fun group => keyOf group = k := by
  unfold addRow
  induction groups with
  | nil =>
    have hfresh := hkey none row nofun
    by_cases hk : key row = k <;> simp [updateOrAppend, hfresh, hk]
  | cons group groups ih =>
    by_cases hgroup : keyOf group = key row
    · have hstep := hkey (some group) row (by rintro _ ⟨⟩; exact hgroup)
      by_cases hk : key row = k <;> simp [updateOrAppend, hgroup, hstep, hk]
    · by_cases hk : keyOf group = k
      · have hne : key row ≠ k := fun h => hgroup (hk.trans h.symm)
        rw [updateOrAppend, if_neg (by simpa using hgroup), if_neg hne,
          List.find?_cons_of_pos (by simpa using hk), List.find?_cons_of_pos (by simpa using hk)]
      · rw [updateOrAppend, if_neg (by simpa using hgroup),
          List.find?_cons_of_neg (by simpa using hk),
          List.find?_cons_of_neg (by simpa using hgroup),
          List.find?_cons_of_neg (by simpa using hk), ih]

/-- The group of a key is what the rows of the key make. -/
theorem find_grouped (hkey : KeepsKey key keyOf step) (rows : List ρ) (k : κ) :
    (grouped key keyOf step rows).find? (fun group => keyOf group = k) =
      accumulate step (rows.filter fun row => key row = k) := by
  induction rows using List.reverseRecOn generalizing k with
  | nil => rfl
  | append_singleton rows row ih =>
    rw [grouped_snoc, find_addRow hkey, List.filter_append, ih, ih]
    by_cases hk : key row = k
    · rw [if_pos hk, List.filter_cons_of_pos (by simpa using hk), List.filter_nil, accumulate_snoc,
        hk]
    · rw [if_neg hk, List.filter_cons_of_neg (by simpa using hk), List.filter_nil, List.append_nil]

lemma keys_addRow (hkey : KeepsKey key keyOf step) (groups : List α) (row : ρ) :
    (addRow key keyOf step groups row).map keyOf =
      if key row ∈ groups.map keyOf then groups.map keyOf else groups.map keyOf ++ [key row] := by
  unfold addRow
  induction groups with
  | nil => simp [updateOrAppend, hkey none row nofun]
  | cons group groups ih =>
    by_cases hgroup : keyOf group = key row
    · have hstep := hkey (some group) row (by rintro _ ⟨⟩; exact hgroup)
      simp [updateOrAppend, hgroup, hstep]
    · rw [updateOrAppend, if_neg (by simpa using hgroup), List.map_cons, ih, List.map_cons]
      by_cases hmem : key row ∈ groups.map keyOf
      · rw [if_pos hmem, if_pos (List.mem_cons_of_mem _ hmem)]
      · have hnot : key row ∉ keyOf group :: groups.map keyOf := by
          rw [List.mem_cons, not_or]
          exact ⟨fun h => hgroup h.symm, hmem⟩
        rw [if_neg hmem, if_neg hnot, List.cons_append]

/-- No two groups have one key. -/
theorem nodup_keys (hkey : KeepsKey key keyOf step) (rows : List ρ) :
    ((grouped key keyOf step rows).map keyOf).Nodup := by
  induction rows using List.reverseRecOn with
  | nil => exact List.nodup_nil
  | append_singleton rows row ih =>
    rw [grouped_snoc, keys_addRow hkey]
    split
    · exact ih
    · next hmem => exact List.nodup_append.mpr ⟨ih, List.nodup_singleton _, by simpa using hmem⟩

lemma mem_keys (hkey : KeepsKey key keyOf step) {k : κ} :
    k ∈ (grouped key keyOf step rows).map keyOf ↔ ∃ row ∈ rows, key row = k := by
  have hfind := find_grouped hkey rows k
  have hmem : k ∈ (grouped key keyOf step rows).map keyOf ↔
      ((grouped key keyOf step rows).find? fun group => keyOf group = k) ≠ none := by
    simp
  rw [hmem, hfind, ne_eq, accumulate_eq_none, List.filter_eq_nil_iff]
  simp

lemma find_of_mem (hkey : KeepsKey key keyOf step) {group : α}
    (h : group ∈ grouped key keyOf step rows) :
    (grouped key keyOf step rows).find? (fun other => keyOf other = keyOf group) = some group := by
  cases hfind : (grouped key keyOf step rows).find? fun other => keyOf other = keyOf group with
  | none => simpa using List.find?_eq_none.mp hfind group h
  | some other =>
    have hother := List.mem_of_find?_eq_some hfind
    have hkeys : keyOf other = keyOf group := by simpa using List.find?_some hfind
    rw [List.inj_on_of_nodup_map (nodup_keys hkey rows) hother h hkeys]

lemma accumulate_of_mem (hkey : KeepsKey key keyOf step) {group : α}
    (h : group ∈ grouped key keyOf step rows) :
    accumulate step (rows.filter fun row => key row = keyOf group) = some group :=
  (find_grouped hkey rows _).symm.trans (find_of_mem hkey h)

lemma addRow_new {groups : List α} {row : ρ} (h : key row ∉ groups.map keyOf) :
    addRow key keyOf step groups row = groups ++ [step none row] := by
  unfold addRow
  induction groups with
  | nil => rfl
  | cons group groups ih =>
    rw [List.map_cons, List.mem_cons, not_or] at h
    rw [updateOrAppend, if_neg (by simpa using Ne.symm h.1), ih h.2, List.cons_append]

lemma grouped_of_nodup (hkey : KeepsKey key keyOf step) (h : (rows.map key).Nodup) :
    grouped key keyOf step rows = rows.map (step none) := by
  induction rows using List.reverseRecOn with
  | nil => rfl
  | append_singleton rows row ih =>
    rw [List.map_append, List.nodup_append] at h
    obtain ⟨hrows, -, hdisjoint⟩ := h
    rw [grouped_snoc, addRow_new, ih hrows, List.map_append]
    · rfl
    · intro hmem
      obtain ⟨other, hother, heq⟩ := (mem_keys hkey).mp hmem
      exact hdisjoint _ (List.mem_map_of_mem hother) (key row) (by simp) heq

/-- The groups of two orders of the rows, seen without the order of the rows. -/
theorem grouped_map_perm (hkey : KeepsKey key keyOf step) {content : α → β} {rows' : List ρ}
    (hperm : rows.Perm rows')
    (hsame : ∀ k g g', accumulate step (rows.filter fun row => key row = k) = some g →
      accumulate step (rows'.filter fun row => key row = k) = some g' → content g = content g') :
    ((grouped key keyOf step rows).map content).Perm
      ((grouped key keyOf step rows').map content) := by
  have hkeys : ((grouped key keyOf step rows).map keyOf).Perm
      ((grouped key keyOf step rows').map keyOf) := by
    refine (List.perm_ext_iff_of_nodup (nodup_keys hkey rows) (nodup_keys hkey rows')).mpr
      fun k => ?_
    rw [mem_keys hkey, mem_keys hkey]
    exact ⟨fun ⟨row, hrow, hk⟩ => ⟨row, hperm.mem_iff.mp hrow, hk⟩,
      fun ⟨row, hrow, hk⟩ => ⟨row, hperm.mem_iff.mpr hrow, hk⟩⟩
  refine perm_map_of
    (fun g hg g' hg' hk => hsame (keyOf g) g g' (accumulate_of_mem hkey hg) ?_) hkeys
  rw [hk]
  exact accumulate_of_mem hkey hg'

end Grouping

end Import
end SmeDataCenter
