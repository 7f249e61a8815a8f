import Mathlib.Data.List.Forall2

/-!
# Computations that may be refused

What a computation in `Except` must have done when it gave a result: every step gave one, and
a walk over a list gave one for every element.
-/

namespace SmeDataCenter
namespace Fallible

variable {ε α β γ δ : Type}

variable {f : α → Except ε β} {x : Except ε α} {b : β}

lemma bind_ok : x >>= f = .ok b ↔ ∃ a, x = .ok a ∧ f a = .ok b := by
  cases x with
  | error e =>
    constructor
    · exact nofun
    · rintro ⟨a, h, -⟩
      cases h
  | ok a =>
    constructor
    · exact fun h => ⟨a, rfl, h⟩
    · rintro ⟨a', h, hf⟩
      cases h
      exact hf

lemma exists_ok (h : x.isOk = true) : ∃ a, x = .ok a := by
  cases x with
  | error e => cases h
  | ok a => exact ⟨a, rfl⟩

variable {a : α}

lemma toOption_some : x.toOption = some a ↔ x = .ok a := by
  cases x with
  | error e => exact ⟨nofun, nofun⟩
  | ok b =>
    constructor
    · rintro ⟨⟩
      rfl
    · rintro ⟨⟩
      rfl

lemma pure_ok {b : α} : (pure a : Except ε α) = .ok b ↔ a = b :=
  Except.ok.injEq a b ▸ Iff.rfl

variable {as : List α}

lemma foldlM_keeps {f : β → α → Except ε β} {g : β → γ}
    (h : ∀ b a b', f b a = .ok b' → g b' = g b) {b' : β} (hfold : as.foldlM f b = .ok b') :
    g b' = g b := by
  induction as generalizing b with
  | nil => rw [pure_ok.mp hfold]
  | cons a as ih =>
    rw [List.foldlM_cons] at hfold
    obtain ⟨b₁, hstep, hrest⟩ := bind_ok.mp hfold
    exact (ih hrest).trans (h b a b₁ hstep)

variable {bs : List β}

lemma mapM_ok : as.mapM f = .ok bs ↔ List.Forall₂ (fun a b => f a = .ok b) as bs := by
  induction as generalizing bs with
  | nil =>
    rw [List.mapM_nil, pure_ok, List.forall₂_nil_left_iff, eq_comm]
  | cons a as ih =>
    rw [List.mapM_cons, bind_ok, List.forall₂_cons_left_iff]
    constructor
    · rintro ⟨b, hb, hrest⟩
      obtain ⟨bs', hbs', hpure⟩ := bind_ok.mp hrest
      exact ⟨b, bs', hb, ih.mp hbs', (pure_ok.mp hpure).symm⟩
    · rintro ⟨b, bs', hb, hbs', rfl⟩
      exact ⟨b, hb, bind_ok.mpr ⟨bs', ih.mpr hbs', rfl⟩⟩

lemma exists_of_mapM (h : as.mapM f = .ok bs) (hb : b ∈ bs) : ∃ a ∈ as, f a = .ok b := by
  rw [mapM_ok] at h
  induction h with
  | nil => simp at hb
  | cons hstep _ ih =>
    rcases List.mem_cons.mp hb with rfl | hb
    · exact ⟨_, List.mem_cons_self, hstep⟩
    · obtain ⟨a, ha, hfa⟩ := ih hb
      exact ⟨a, List.mem_cons_of_mem _ ha, hfa⟩

lemma mapM_of_mem (h : as.mapM f = .ok bs) (ha : a ∈ as) : ∃ b ∈ bs, f a = .ok b := by
  rw [mapM_ok] at h
  induction h with
  | nil => simp at ha
  | cons hstep _ ih =>
    rcases List.mem_cons.mp ha with rfl | ha
    · exact ⟨_, List.mem_cons_self, hstep⟩
    · obtain ⟨b, hb, hfb⟩ := ih ha
      exact ⟨b, List.mem_cons_of_mem _ hb, hfb⟩

lemma mapM_related {g : α → Except ε γ} {R : β → γ → Prop} (h : as.mapM f = .ok bs)
    (hstep : ∀ a ∈ as, ∀ b, f a = .ok b → ∃ c, g a = .ok c ∧ R b c) :
    ∃ cs, as.mapM g = .ok cs ∧ List.Forall₂ R bs cs := by
  induction as generalizing bs with
  | nil =>
    rw [List.mapM_nil, pure_ok] at h
    subst h
    exact ⟨[], rfl, .nil⟩
  | cons a as ih =>
    rw [List.mapM_cons] at h
    obtain ⟨b, hb, hrest⟩ := bind_ok.mp h
    obtain ⟨bs', hbs', hpure⟩ := bind_ok.mp hrest
    obtain ⟨c, hc, hbc⟩ := hstep a List.mem_cons_self b hb
    obtain ⟨cs, hcs, hrel⟩ := ih hbs' fun a' ha' => hstep a' (List.mem_cons_of_mem a ha')
    refine ⟨c :: cs, ?_, pure_ok.mp hpure ▸ .cons hbc hrel⟩
    rw [List.mapM_cons]
    exact bind_ok.mpr ⟨c, hc, bind_ok.mpr ⟨cs, hcs, rfl⟩⟩

lemma mapM_ok_iff {allowed : α → Prop} {g : α → β} (h : ∀ a b, f a = .ok b ↔ allowed a ∧ g a = b) :
    as.mapM f = .ok bs ↔ (∀ a ∈ as, allowed a) ∧ as.map g = bs := by
  rw [mapM_ok]
  constructor
  · intro hrel
    induction hrel with
    | nil => exact ⟨by simp, rfl⟩
    | cons hstep _ ih =>
      obtain ⟨hallowed, rfl⟩ := (h _ _).mp hstep
      exact ⟨List.forall_mem_cons.mpr ⟨hallowed, ih.1⟩, by rw [List.map_cons, ih.2]⟩
  · rintro ⟨hallowed, rfl⟩
    rw [List.forall₂_map_right_iff, List.forall₂_same]
    exact fun a ha => (h a _).mpr ⟨hallowed a ha, rfl⟩

end Fallible
end SmeDataCenter
