import Mathlib.Data.List.Sort
import Mathlib.Data.List.Flatten
import Mathlib.Algebra.Order.Group.Nat

/-!
# Offset paging

Results are read page by page, each page at its offset in an order of all results that is chosen
anew for it. The order has to sort the results by their keys, and results with the same key may
stand in any order. A reader meets every result once, whatever orders are chosen, exactly when
no page ends between two results with the same key.
-/

namespace SmeDataCenter
namespace Paging

variable {α κ : Type} [LinearOrder κ]

/-- An order of the results that their keys allow. -/
structure Consistent (key : α → κ) (results order : List α) : Prop where
  perm : order.Perm results
  sorted : (order.map key).Pairwise (· ≤ ·)

/-- The page at an offset. -/
def page (limit offset : ℕ) (order : List α) : List α := (order.drop offset).take limit

/-- The pages from the `k`th on, as many as `fuel` allows, each from an order of its own. -/
def pagesFrom (limit : ℕ) (orders : ℕ → List α) : ℕ → ℕ → List (List α)
  | 0, _ => []
  | fuel + 1, k =>
    page limit (k * limit) (orders k) ::
      if (k + 1) * limit < (orders k).length then pagesFrom limit orders fuel (k + 1) else []

/-- The results with a smaller key. -/
def countBefore (key : α → κ) (results : List α) (a : α) : ℕ :=
  results.countP fun b => key b < key a

/-- The results whose key is not greater. -/
def countUpTo (key : α → κ) (results : List α) (a : α) : ℕ :=
  results.countP fun b => key b ≤ key a

/-- The results with the same key as any one stand on one page, in every order. -/
def TiesOnOnePage (key : α → κ) (results : List α) (limit : ℕ) : Prop :=
  ∀ a ∈ results, countBefore key results a / limit = (countUpTo key results a - 1) / limit

instance (key : α → κ) (results : List α) (limit : ℕ) :
    Decidable (TiesOnOnePage key results limit) := by
  unfold TiesOnOnePage
  infer_instance

/-- The keys grow from before a place to after it. -/
def Strict (key : α → κ) (order : List α) (place : ℕ) : Prop :=
  ∀ a ∈ order.take place, ∀ b ∈ order.drop place, key a < key b

variable {key : α → κ} {results order order' : List α} {limit place : ℕ}

/-! ### Consistent orders -/

lemma exists_consistent (key : α → κ) (results : List α) :
    ∃ order, Consistent key results order := by
  refine ⟨results.mergeSort fun a b => decide (key a ≤ key b), List.mergeSort_perm _ _, ?_⟩
  rw [List.pairwise_map]
  have hsorted : (results.mergeSort fun a b => decide (key a ≤ key b)).Pairwise
      fun a b => decide (key a ≤ key b) = true := List.pairwise_mergeSort
    (fun a b c hab hbc => by simpa using le_trans (of_decide_eq_true hab) (of_decide_eq_true hbc))
    (fun a b => by simpa using le_total (key a) (key b)) results
  exact hsorted.imp fun h => of_decide_eq_true h

lemma Consistent.keys_eq (h : Consistent key results order) (h' : Consistent key results order') :
    order.map key = order'.map key :=
  ((h.perm.trans h'.perm.symm).map key).eq_of_pairwise (fun _ _ _ _ => le_antisymm)
    h.sorted h'.sorted

lemma Consistent.length_eq (h : Consistent key results order) : order.length = results.length :=
  h.perm.length_eq

lemma Consistent.take_le_drop (h : Consistent key results order) {a b : α}
    (ha : a ∈ order.take place) (hb : b ∈ order.drop place) : key a ≤ key b := by
  have hsorted := h.sorted
  rw [List.pairwise_map, ← List.take_append_drop place order, List.pairwise_append] at hsorted
  exact hsorted.2.2 a ha b hb

lemma Consistent.countP_eq (h : Consistent key results order) (place : ℕ) (p : α → Bool) :
    results.countP p = (order.take place).countP p + (order.drop place).countP p := by
  rw [← h.perm.countP_eq, ← List.countP_append, List.take_append_drop]

lemma countUpTo_eq (a : α) : countUpTo key results a =
    countBefore key results a + results.countP fun b => key b = key a := by
  unfold countUpTo countBefore
  induction results with
  | nil => rfl
  | cons b results ih =>
    rw [List.countP_cons, List.countP_cons, List.countP_cons, ih]
    rcases lt_trichotomy (key b) (key a) with h | h | h
    · simp [h, h.le, h.ne]
      omega
    · simp [h]
      omega
    · simp [h.not_ge, h.not_gt, h.ne']

/-! ### Places between pages -/

lemma take_eq_filter {b : α} {rest : List α} (hsorted : (order.map key).Pairwise (· ≤ ·))
    (hstrict : Strict key order place) (hdrop : order.drop place = b :: rest) :
    order.take place = order.filter fun a => key a < key b := by
  have hrest : ∀ c ∈ order.drop place, ¬key c < key b := by
    rw [List.pairwise_map, ← List.take_append_drop place order, List.pairwise_append, hdrop,
      List.pairwise_cons] at hsorted
    intro c hc
    rw [hdrop, List.mem_cons] at hc
    rcases hc with rfl | hc
    · exact lt_irrefl _
    · exact not_lt.mpr (hsorted.2.1.1 c hc)
  have htake : ∀ a ∈ order.take place, key a < key b := by
    intro a ha
    exact hstrict a ha b (hdrop ▸ List.mem_cons_self)
  calc order.take place
      = (order.take place).filter (fun a => key a < key b) ++
          (order.drop place).filter (fun a => key a < key b) := by
        rw [List.filter_eq_self.mpr (by simpa using htake),
          List.filter_eq_nil_iff.mpr (by simpa using hrest), List.append_nil]
    _ = order.filter fun a => key a < key b := by
        rw [← List.filter_append, List.take_append_drop]

lemma take_perm (h : Consistent key results order) (h' : Consistent key results order')
    (hstrict : Strict key order place) (hstrict' : Strict key order' place) :
    (order.take place).Perm (order'.take place) := by
  have hkeys : (order.drop place).map key = (order'.drop place).map key := by
    rw [List.map_drop, List.map_drop, h.keys_eq h']
  have hperm : order.Perm order' := h.perm.trans h'.perm.symm
  cases hdrop : order.drop place with
  | nil =>
    have hle : order.length ≤ place := List.drop_eq_nil_iff.mp hdrop
    rw [List.take_of_length_le hle, List.take_of_length_le (hperm.length_eq ▸ hle)]
    exact hperm
  | cons b rest =>
    cases hdrop' : order'.drop place with
    | nil => simp [hdrop, hdrop'] at hkeys
    | cons b' rest' =>
      rw [hdrop, hdrop', List.map_cons, List.map_cons, List.cons.injEq] at hkeys
      rw [take_eq_filter h.sorted hstrict hdrop, take_eq_filter h'.sorted hstrict' hdrop',
        hkeys.1]
      exact hperm.filter _

lemma page_perm (h : Consistent key results order) (h' : Consistent key results order')
    (hstart : Strict key order place) (hstart' : Strict key order' place)
    (hstop : Strict key order (place + limit)) (hstop' : Strict key order' (place + limit)) :
    (page limit place order).Perm (page limit place order') := by
  have hbefore := take_perm h h' hstart hstart'
  have hupTo := take_perm h h' hstop hstop'
  rw [List.take_add, List.take_add] at hupTo
  exact (List.perm_append_left_iff _).mp (hupTo.trans (hbefore.symm.append_right _))

lemma TiesOnOnePage.strict (hties : TiesOnOnePage key results limit)
    (h : Consistent key results order) (k : ℕ) : Strict key order (k * limit) := by
  intro a ha b hb
  by_contra hle
  have heq : key a = key b := le_antisymm (h.take_le_drop ha hb) (not_lt.mp hle)
  have hdrop : k * limit < order.length := by
    have := List.length_pos_of_mem hb
    rw [List.length_drop] at this
    omega
  have hlength : (order.take (k * limit)).length = k * limit := by
    rw [List.length_take]
    omega
  have hlimit : 0 < limit := by
    rcases Nat.eq_zero_or_pos limit with rfl | hpos
    · simp at ha
    · exact hpos
  -- `a` is not below itself, and nothing after the place is below `a`
  have hbefore : countBefore key results b < k * limit := by
    have hzero : (order.drop (k * limit)).countP (fun c => key c < key b) = 0 := by
      rw [List.countP_eq_zero]
      intro c hc
      simpa [← heq] using h.take_le_drop ha hc
    have hsome : (order.take (k * limit)).countP (fun c => key c < key b) <
        (order.take (k * limit)).length := by
      refine lt_of_le_of_ne List.countP_le_length ?_
      intro hall
      have := List.countP_eq_length.mp hall a ha
      simp [heq] at this
    rw [countBefore, h.countP_eq (k * limit), hzero]
    omega
  -- all before the place is up to `b`, and so is `b`
  have hupTo : k * limit < countUpTo key results b := by
    have hall : (order.take (k * limit)).countP (fun c => key c ≤ key b) =
        (order.take (k * limit)).length := by
      rw [List.countP_eq_length]
      intro c hc
      simpa using h.take_le_drop hc hb
    have hsome : 0 < (order.drop (k * limit)).countP (fun c => key c ≤ key b) :=
      List.countP_pos_iff.mpr ⟨b, hb, by simp⟩
    rw [countUpTo, h.countP_eq (k * limit), hall]
    omega
  have hpage := hties b (h.perm.subset (List.drop_subset _ _ hb))
  have hlow : countBefore key results b / limit < k := (Nat.div_lt_iff_lt_mul hlimit).mpr hbefore
  have hhigh : k ≤ (countUpTo key results b - 1) / limit :=
    (Nat.le_div_iff_mul_le hlimit).mpr (by omega)
  omega

lemma tiesOnOnePage_of_strict (h : Consistent key results order) (hlimit : 0 < limit)
    (hstrict : ∀ k, Strict key order (k * limit)) : TiesOnOnePage key results limit := by
  intro a ha
  have hself : countBefore key results a < countUpTo key results a := by
    have hequal : 0 < results.countP fun b => key b = key a :=
      List.countP_pos_iff.mpr ⟨a, ha, by simp⟩
    rw [countUpTo_eq]
    omega
  by_contra hne
  obtain ⟨k, hk⟩ : ∃ k, k = (countUpTo key results a - 1) / limit := ⟨_, rfl⟩
  have hlow : countBefore key results a < k * limit := by
    rw [← Nat.div_lt_iff_lt_mul hlimit, hk]
    have := Nat.div_le_div_right (c := limit)
      (show countBefore key results a ≤ countUpTo key results a - 1 by omega)
    omega
  have hhigh : k * limit < countUpTo key results a := by
    have := Nat.div_mul_le_self (countUpTo key results a - 1) limit
    rw [← hk] at this
    omega
  have hall : countUpTo key results a ≤ order.length := h.length_eq ▸ List.countP_le_length
  -- not all before the place are below `a`, and not all up to `a` are before the place
  obtain ⟨b, hb, hab⟩ : ∃ b ∈ order.take (k * limit), key a ≤ key b := by
    by_contra hnone
    have hcount : (order.take (k * limit)).countP (fun b => key b < key a) =
        (order.take (k * limit)).length := by
      rw [List.countP_eq_length]
      intro b hb
      simpa using fun hab => hnone ⟨b, hb, hab⟩
    rw [countBefore, h.countP_eq (k * limit), hcount, List.length_take] at hlow
    omega
  obtain ⟨c, hc, hca⟩ : ∃ c ∈ order.drop (k * limit), key c ≤ key a := by
    by_contra hnone
    have hcount : (order.drop (k * limit)).countP (fun c => key c ≤ key a) = 0 := by
      rw [List.countP_eq_zero]
      intro c hc
      simpa using fun hca => hnone ⟨c, hc, hca⟩
    have hle : (order.take (k * limit)).countP (fun c => key c ≤ key a) ≤ k * limit :=
      List.countP_le_length.trans (List.length_take_le _ _)
    rw [countUpTo, h.countP_eq (k * limit), hcount] at hhigh
    omega
  exact absurd (hstrict k b hb c hc) (not_lt.mpr (hca.trans hab))

/-! ### Reading all pages -/

variable {orders : ℕ → List α} {fuel k : ℕ}

lemma pagesFrom_perm (hties : TiesOnOnePage key results limit)
    (horder : Consistent key results order) (horders : ∀ k, Consistent key results (orders k))
    (hfuel : results.length ≤ (k + fuel) * limit) :
    (pagesFrom limit orders fuel k).flatten.Perm (order.drop (k * limit)) := by
  induction fuel generalizing k with
  | zero =>
    rw [List.drop_of_length_le (by rw [horder.length_eq]; simpa using hfuel)]
    exact .refl _
  | succ fuel ih =>
    have hpage : (page limit (k * limit) (orders k)).Perm (page limit (k * limit) order) :=
      page_perm (horders k) horder (hties.strict (horders k) k) (hties.strict horder k)
        (Nat.succ_mul k limit ▸ hties.strict (horders k) (k + 1))
        (Nat.succ_mul k limit ▸ hties.strict horder (k + 1))
    have hnext : (order.drop ((k + 1) * limit)) = (order.drop (k * limit)).drop limit := by
      rw [List.drop_drop, Nat.succ_mul]
    rw [← List.take_append_drop limit (order.drop (k * limit)), ← hnext, pagesFrom,
      List.flatten_cons]
    refine hpage.append ?_
    split_ifs with hmore
    · exact ih (by rwa [Nat.add_right_comm, Nat.add_assoc])
    · have hlast : order.length ≤ (k + 1) * limit := by
        rw [horder.length_eq, ← (horders k).length_eq]
        exact not_lt.mp hmore
      rw [List.drop_of_length_le hlast]
      exact .refl _

lemma pagesFrom_add (horders : ∀ k, (orders k).length = results.length) {m : ℕ}
    (hmore : (k + m) * limit < results.length) :
    pagesFrom limit orders (m + fuel) k =
      (List.range m).map (fun i => page limit ((k + i) * limit) (orders (k + i))) ++
        pagesFrom limit orders fuel (k + m) := by
  induction m generalizing k with
  | zero => simp
  | succ m ih =>
    have hk : (k + 1) * limit < (orders k).length := by
      rw [horders]
      exact lt_of_le_of_lt (Nat.mul_le_mul_right _ (by omega)) hmore
    have hrest := ih (k := k + 1) (by rw [Nat.add_right_comm] at *; exact hmore)
    rw [Nat.add_right_comm m 1 fuel, pagesFrom, if_pos hk, hrest, List.range_succ_eq_map,
      List.map_cons, List.map_map, List.cons_append]
    congr 2
    · refine List.map_congr_left fun i _ => ?_
      simp only [Function.comp_apply, Nat.succ_eq_add_one, show k + 1 + i = k + (i + 1) by omega]
    · rw [show k + 1 + m = k + (m + 1) by omega]

variable {before after : List α}

lemma Consistent.swap {a b : α} (h : Consistent key results (before ++ a :: b :: after))
    (hkey : key b ≤ key a) : Consistent key results (before ++ b :: a :: after) := by
  refine ⟨((List.Perm.swap a b after).append_left before).trans h.perm, ?_⟩
  have hab : key a = key b := by
    have hsorted := h.sorted
    rw [List.map_append, List.pairwise_append] at hsorted
    exact le_antisymm (by simpa using (List.pairwise_cons.mp hsorted.2.1).1 (key b)) hkey
  have hmap : (before ++ b :: a :: after).map key = (before ++ a :: b :: after).map key := by
    simp [hab]
  rw [hmap]
  exact h.sorted

lemma exists_tie (h : Consistent key results order) (hstrict : ¬Strict key order place) :
    ∃ before x y after, order = before ++ x :: y :: after ∧ before.length + 1 = place ∧
      key y ≤ key x := by
  simp only [Strict, not_forall] at hstrict
  obtain ⟨a, ha, b, hb, hab⟩ := hstrict
  obtain ⟨before, x, hx⟩ : ∃ before x, order.take place = before ++ [x] :=
    ⟨_, _, (List.dropLast_append_getLast (List.ne_nil_of_mem ha)).symm⟩
  obtain ⟨y, after, hy⟩ : ∃ y after, order.drop place = y :: after :=
    List.exists_cons_of_ne_nil (List.ne_nil_of_mem hb)
  have horder : order = (before ++ [x]) ++ (y :: after) := by
    rw [← hx, ← hy, List.take_append_drop]
  have hsorted := h.sorted
  rw [List.pairwise_map, horder, List.pairwise_append] at hsorted
  have hbefore := (List.pairwise_append.mp hsorted.1).2.2
  have hafter := (List.pairwise_cons.mp hsorted.2.1).1
  have hax : key a ≤ key x := by
    rw [hx, List.mem_append, List.mem_singleton] at ha
    rcases ha with ha | rfl
    · exact hbefore a ha x List.mem_cons_self
    · exact le_rfl
  have hyb : key y ≤ key b := by
    rw [hy, List.mem_cons] at hb
    rcases hb with rfl | hb
    · exact le_rfl
    · exact hafter b hb
  refine ⟨before, x, y, after, by rw [horder, List.append_assoc]; rfl, ?_,
    hyb.trans ((not_lt.mp hab).trans hax)⟩
  have hlength := congrArg List.length hx
  have hrest := congrArg List.length hy
  rw [List.length_take, List.length_append, List.length_singleton] at hlength
  rw [List.length_drop, List.length_cons] at hrest
  omega

lemma mem_page_last {x : α} (hlimit : 0 < limit) (hlength : before.length + 1 = k * limit + limit) :
    x ∈ page limit (k * limit) (before ++ x :: after) := by
  rw [page, List.drop_append_of_le_length (by omega), List.take_append, List.mem_append]
  have hroom : limit - (before.drop (k * limit)).length = 1 := by
    rw [List.length_drop]
    omega
  rw [hroom]
  exact .inr List.mem_cons_self

lemma mem_page_first {x : α} (hlimit : 0 < limit) (hlength : before.length = place) :
    x ∈ page limit place (before ++ x :: after) := by
  obtain ⟨l, rfl⟩ : ∃ l, limit = l + 1 := ⟨limit - 1, by omega⟩
  rw [page, List.drop_left' hlength, List.take_succ_cons]
  exact List.mem_cons_self

lemma exists_repeated (h : Consistent key results order) (hlimit : 0 < limit)
    (hnodup : results.Nodup) (hstrict : ¬Strict key order (k * limit))
    (hfuel : results.length ≤ fuel * limit) :
    ∃ orders : ℕ → List α, (∀ k, Consistent key results (orders k)) ∧
      ¬(pagesFrom limit orders fuel 0).flatten.Perm results := by
  obtain ⟨before, x, y, after, rfl, hlength, hkey⟩ := exists_tie h hstrict
  obtain ⟨k, rfl⟩ : ∃ j, k = j + 1 := by
    cases k with
    | zero => omega
    | succ j => exact ⟨j, rfl⟩
  rw [Nat.succ_mul] at hlength
  have hmore : (k + 1) * limit < results.length := by
    rw [← h.length_eq, List.length_append, List.length_cons, List.length_cons, Nat.succ_mul]
    omega
  obtain ⟨f, rfl⟩ : ∃ f, fuel = k + (f + 2) := by
    have : k + 1 < fuel := Nat.lt_of_mul_lt_mul_right (lt_of_lt_of_le hmore hfuel)
    exact ⟨fuel - k - 2, by omega⟩
  have hswap : Consistent key results (before ++ y :: x :: after) := h.swap hkey
  let orders (j : ℕ) : List α :=
    if j = k + 1 then before ++ y :: x :: after else before ++ x :: y :: after
  have horders : ∀ j, Consistent key results (orders j) := by
    intro j
    by_cases hj : j = k + 1
    · simpa only [orders, if_pos hj] using hswap
    · simpa only [orders, if_neg hj] using h
  refine ⟨orders, horders, ?_⟩
  intro hperm
  have hmet : x ∈ page limit (k * limit) (orders k) := by
    simpa only [orders, if_neg (Nat.succ_ne_self k).symm] using mem_page_last hlimit hlength
  have hagain : x ∈ page limit ((k + 1) * limit) (orders (k + 1)) := by
    have hplace : (before ++ [y]).length = (k + 1) * limit := by
      rw [Nat.succ_mul, List.length_append, List.length_singleton, hlength]
    have hfirst : x ∈ page limit ((k + 1) * limit) ((before ++ [y]) ++ x :: after) :=
      mem_page_first hlimit hplace
    simpa [orders] using hfirst
  -- the pages number `k` and `k + 1` stand in the list of pages
  have hpages := hperm.nodup_iff.mpr hnodup
  have hk : (0 + k) * limit < results.length := by
    rw [Nat.zero_add]
    exact lt_of_le_of_lt (Nat.mul_le_mul_right _ (Nat.le_succ k)) hmore
  rw [pagesFrom_add (fun j => (horders j).length_eq) hk, Nat.zero_add, pagesFrom,
    if_pos (by rw [(horders k).length_eq]; exact hmore), pagesFrom, List.nodup_flatten,
    List.pairwise_append, List.pairwise_cons] at hpages
  exact hpages.2.2.1.1 _ List.mem_cons_self hmet hagain

/-- **Every result is met once, whatever orders are chosen, exactly when results with one key
stand on one page.** -/
theorem read_once_iff (hlimit : 0 < limit) (hnodup : results.Nodup)
    (hfuel : results.length ≤ fuel * limit) :
    (∀ orders : ℕ → List α, (∀ k, Consistent key results (orders k)) →
      (pagesFrom limit orders fuel 0).flatten.Perm results) ↔
      TiesOnOnePage key results limit := by
  constructor
  · intro hread
    obtain ⟨order, horder⟩ := exists_consistent key results
    refine tiesOnOnePage_of_strict horder hlimit fun k => ?_
    by_contra hstrict
    obtain ⟨orders, horders, hperm⟩ := exists_repeated horder hlimit hnodup hstrict hfuel
    exact hperm (hread orders horders)
  · intro hties orders horders
    obtain ⟨order, horder⟩ := exists_consistent key results
    have hpages := pagesFrom_perm (k := 0) hties horder horders (by simpa using hfuel)
    rw [Nat.zero_mul, List.drop_zero] at hpages
    exact hpages.trans horder.perm

lemma tiesOnOnePage_of_injective (hkey : (results.map key).Nodup) :
    TiesOnOnePage key results limit := by
  intro a ha
  have hone : results.countP (fun b => key b = key a) = 1 := by
    have := List.count_eq_one_of_mem hkey (List.mem_map_of_mem ha)
    rw [List.count_eq_countP, List.countP_map] at this
    exact this
  rw [countUpTo_eq, hone, Nat.add_sub_cancel]

end Paging
end SmeDataCenter
