import SmeDataCenter.SqlPredicate

/-!
# Positional parameters

A prepared text and its parameter list are produced together: whatever writes a `?` pushes
the value that belongs to it. The server later fills the placeholders from the list, left to
right. `Binder` is the pushing side, `Condition.bindFrom` the filling side, and `Compiles`
says that the two meet: the pushed values, in the order pushed, are exactly those the text
takes. The rules for `Compiles` follow the way texts are put together.
-/

namespace SmeDataCenter
namespace Sql

/-! ### Filling the placeholders -/

/-- Fill the placeholders of an operand from the front of the list. -/
def Operand.bindFrom : Operand Unit → List Value → Option (Operand Value × List Value)
  | .column owner name, vs => some (.column owner name, vs)
  | .literal v, vs => some (.literal v, vs)
  | .placeholder (), v :: vs => some (.placeholder v, vs)
  | .placeholder (), [] => none

/-- Fill the placeholders of a predicate in the order of its text. -/
def Condition.bindFrom : Condition Unit → List Value → Option (Condition Value × List Value)
  | .eq a b, vs => do
    let (a, vs) ← a.bindFrom vs
    let (b, vs) ← b.bindFrom vs
    return (.eq a b, vs)
  | .binaryEq a b, vs => do
    let (a, vs) ← a.bindFrom vs
    let (b, vs) ← b.bindFrom vs
    return (.binaryEq a b, vs)
  | .between a lo hi, vs => do
    let (a, vs) ← a.bindFrom vs
    let (lo, vs) ← lo.bindFrom vs
    let (hi, vs) ← hi.bindFrom vs
    return (.between a lo hi, vs)
  | .isNull a, vs => do
    let (a, vs) ← a.bindFrom vs
    return (.isNull a, vs)
  | .regexpLike a pattern, vs => do
    let (a, vs) ← a.bindFrom vs
    let (pattern, vs) ← pattern.bindFrom vs
    return (.regexpLike a pattern, vs)
  | .charLengthGt a n, vs => do
    let (a, vs) ← a.bindFrom vs
    return (.charLengthGt a n, vs)
  | .countEq table owner w n, vs => do
    let (w, vs) ← w.bindFrom vs
    let (n, vs) ← n.bindFrom vs
    return (.countEq table owner w n, vs)
  | .exists table owner w, vs => do
    let (w, vs) ← w.bindFrom vs
    return (.exists table owner w, vs)
  | .not c, vs => do
    let (c, vs) ← c.bindFrom vs
    return (.not c, vs)
  | .and c d, vs => do
    let (c, vs) ← c.bindFrom vs
    let (d, vs) ← d.bindFrom vs
    return (.and c d, vs)
  | .or c d, vs => do
    let (c, vs) ← c.bindFrom vs
    let (d, vs) ← d.bindFrom vs
    return (.or c d, vs)

/-- Execute with a parameter list: every placeholder filled and no value left over. -/
def Condition.bind (c : Condition Unit) (params : List Value) : Option (Condition Value) :=
  match c.bindFrom params with
  | some (bound, []) => some bound
  | _ => none

/-- Filling `t` takes exactly the values `ps` from the list and gives `b`. -/
def Operand.Takes (t : Operand Unit) (ps : List Value) (b : Operand Value) : Prop :=
  ∀ rest, t.bindFrom (ps ++ rest) = some (b, rest)

/-- Filling `t` takes exactly the values `ps` from the list and gives `b`. -/
def Condition.Takes (t : Condition Unit) (ps : List Value) (b : Condition Value) : Prop :=
  ∀ rest, t.bindFrom (ps ++ rest) = some (b, rest)

namespace Operand

variable {a : Operand Unit} {ps : List Value} {a' : Operand Value}

lemma Takes.column (owner name : String) :
    Takes (.column owner name) [] (.column owner name) := fun _ => rfl

lemma Takes.literal (v : Value) : Takes (.literal v) [] (.literal v) := fun _ => rfl

lemma Takes.placeholder (v : Value) : Takes (.placeholder ()) [v] (.placeholder v) :=
  fun _ => rfl

end Operand

namespace Condition

variable {a b c : Operand Unit} {a' b' c' : Operand Value} {s t : Condition Unit}
  {s' t' : Condition Value} {ps qs rs : List Value}

lemma Takes.bind (h : Takes t ps t') : t.bind ps = some t' := by
  have := h []
  rw [List.append_nil] at this
  simp [Condition.bind, this]

lemma takes_part {α β : Type} {p : List Value → Option (α × List Value)} {x : α} (f : α → β)
    (h : ∀ rest, p (ps ++ rest) = some (x, rest)) (rest : List Value) :
    (do let (x, vs) ← p (ps ++ rest); return (f x, vs)) = some (f x, rest) := by
  rw [h rest]
  rfl

lemma takes_parts {α β γ : Type} {p : List Value → Option (α × List Value)}
    {q : List Value → Option (β × List Value)} {x : α} {y : β} (f : α → β → γ)
    (h : ∀ rest, p (ps ++ rest) = some (x, rest)) (h' : ∀ rest, q (qs ++ rest) = some (y, rest))
    (rest : List Value) :
    (do let (x, vs) ← p (ps ++ qs ++ rest); let (y, vs) ← q vs; return (f x y, vs)) =
      some (f x y, rest) := by
  rw [List.append_assoc, h (qs ++ rest)]
  exact takes_part (f x) h' rest

lemma Takes.eq (ha : a.Takes ps a') (hb : b.Takes qs b') :
    Takes (.eq a b) (ps ++ qs) (.eq a' b') := takes_parts Condition.eq ha hb

lemma Takes.binaryEq (ha : a.Takes ps a') (hb : b.Takes qs b') :
    Takes (.binaryEq a b) (ps ++ qs) (.binaryEq a' b') := takes_parts Condition.binaryEq ha hb

lemma Takes.between (ha : a.Takes ps a') (hb : b.Takes qs b') (hc : c.Takes rs c') :
    Takes (.between a b c) (ps ++ (qs ++ rs)) (.between a' b' c') := by
  intro rest
  have h := takes_parts (Condition.between a') hb hc rest
  change (do let (a, vs) ← a.bindFrom (ps ++ (qs ++ rs) ++ rest); _) = _
  rw [List.append_assoc, ha (qs ++ rs ++ rest)]
  exact h

lemma Takes.isNull (ha : a.Takes ps a') : Takes (.isNull a) ps (.isNull a') :=
  takes_part Condition.isNull ha

lemma Takes.regexpLike (ha : a.Takes ps a') (hb : b.Takes qs b') :
    Takes (.regexpLike a b) (ps ++ qs) (.regexpLike a' b') := takes_parts Condition.regexpLike ha hb

lemma Takes.charLengthGt (ha : a.Takes ps a') (n : ℕ) :
    Takes (.charLengthGt a n) ps (.charLengthGt a' n) := takes_part (Condition.charLengthGt · n) ha

lemma Takes.countEq (ht : Takes t ps t') (ha : a.Takes qs a') (table owner : String) :
    Takes (.countEq table owner t a) (ps ++ qs) (.countEq table owner t' a') :=
  takes_parts (Condition.countEq table owner) ht ha

lemma Takes.exists (ht : Takes t ps t') (table owner : String) :
    Takes (.exists table owner t) ps (.exists table owner t') :=
  takes_part (Condition.exists table owner) ht

lemma Takes.not (ht : Takes t ps t') : Takes (.not t) ps (.not t') := takes_part Condition.not ht

lemma Takes.and (hs : Takes s ps s') (ht : Takes t qs t') :
    Takes (.and s t) (ps ++ qs) (.and s' t') := takes_parts Condition.and hs ht

lemma Takes.or (hs : Takes s ps s') (ht : Takes t qs t') :
    Takes (.or s t) (ps ++ qs) (.or s' t') := takes_parts Condition.or hs ht

lemma Takes.always : Takes always [] always := fun _ => rfl

lemma Takes.never : Takes never [] never := fun _ => rfl

end Condition

/-- Filling the texts one after the other takes exactly `ps` and gives `bs`. -/
inductive TakesList : List (Condition Unit) → List Value → List (Condition Value) → Prop where
  | nil : TakesList [] [] []
  | cons {t ps b ts qs bs} (head : Condition.Takes t ps b) (tail : TakesList ts qs bs) :
      TakesList (t :: ts) (ps ++ qs) (b :: bs)

namespace TakesList

variable {ts us : List (Condition Unit)} {ps qs : List Value} {bs cs : List (Condition Value)}

lemma singleton {t : Condition Unit} {b : Condition Value} (h : t.Takes ps b) :
    TakesList [t] ps [b] := by
  simpa using cons h nil

lemma append (h : TakesList ts ps bs) (h' : TakesList us qs cs) :
    TakesList (ts ++ us) (ps ++ qs) (bs ++ cs) := by
  induction h with
  | nil => exact h'
  | cons head _ ih => simpa [List.append_assoc] using cons head ih

lemma all (h : TakesList ts ps bs) : (Condition.all ts).Takes ps (Condition.all bs) := by
  induction h with
  | nil => exact .always
  | cons head tail ih =>
    cases tail with
    | nil => simpa [Condition.all] using head
    | cons head' tail' => exact head.and ih

lemma any (h : TakesList ts ps bs) : (Condition.any ts).Takes ps (Condition.any bs) := by
  induction h with
  | nil => exact .never
  | cons head tail ih =>
    cases tail with
    | nil => simpa [Condition.any] using head
    | cons head' tail' => exact head.or ih

end TakesList

/-! ### Pushing the parameters -/

/-- A computation that builds a text and pushes the parameters of its placeholders. -/
abbrev Binder := StateM (List Value)

/-- Push a value and write the placeholder that stands for it. -/
def push (v : Value) : Binder (Operand Unit) := do
  modify (· ++ [v])
  return .placeholder ()

/-- The text `m` writes takes the parameters it pushes, and gives `b`. -/
def Compiles (m : Binder (Condition Unit)) (b : Condition Value) : Prop :=
  ∀ pushed, ∃ ps, (m pushed).2 = pushed ++ ps ∧ (m pushed).1.Takes ps b

/-- The texts `m` writes take the parameters it pushes, and give `bs`. -/
def CompilesAll (m : Binder (List (Condition Unit))) (bs : List (Condition Value)) : Prop :=
  ∀ pushed, ∃ ps, (m pushed).2 = pushed ++ ps ∧ TakesList (m pushed).1 ps bs

namespace Compiles

variable {m n : Binder (Condition Unit)} {b c : Condition Value}

lemma pure {t : Condition Unit} (h : t.Takes [] b) : Compiles (Pure.pure t) b :=
  fun _ => ⟨[], (List.append_nil _).symm, h⟩

lemma push {f : Operand Unit → Condition Unit} {v : Value}
    (h : (f (.placeholder ())).Takes [v] b) :
    Compiles (do return f (← Sql.push v)) b := fun _ => ⟨[v], rfl, h⟩

lemma map₂ {f : Condition Unit → Condition Unit → Condition Unit} {d : Condition Value}
    (hm : Compiles m b) (hn : Compiles n c)
    (hf : ∀ {s t ps qs}, Condition.Takes s ps b → Condition.Takes t qs c →
      (f s t).Takes (ps ++ qs) d) :
    Compiles (do let s ← m; let t ← n; return f s t) d := by
  intro pushed
  obtain ⟨ps, hps, hs⟩ := hm pushed
  obtain ⟨qs, hqs, ht⟩ := hn (m pushed).2
  refine ⟨ps ++ qs, ?_, hf hs ht⟩
  change (n (m pushed).2).2 = _
  rw [hqs, hps, List.append_assoc]

end Compiles

namespace CompilesAll

variable {m n : Binder (List (Condition Unit))} {bs cs : List (Condition Value)}

lemma pure {ts : List (Condition Unit)} (h : TakesList ts [] bs) :
    CompilesAll (Pure.pure ts) bs := fun _ => ⟨[], (List.append_nil _).symm, h⟩

lemma append (hm : CompilesAll m bs) (hn : CompilesAll n cs) :
    CompilesAll (do let ts ← m; let us ← n; return ts ++ us) (bs ++ cs) := by
  intro pushed
  obtain ⟨ps, hps, hts⟩ := hm pushed
  obtain ⟨qs, hqs, hus⟩ := hn (m pushed).2
  refine ⟨ps ++ qs, ?_, hts.append hus⟩
  change (n (m pushed).2).2 = _
  rw [hqs, hps, List.append_assoc]

lemma cons {m : Binder (Condition Unit)} {b : Condition Value} (hm : Compiles m b)
    (hn : CompilesAll n bs) :
    CompilesAll (do let t ← m; let ts ← n; return t :: ts) (b :: bs) := by
  intro pushed
  obtain ⟨ps, hps, ht⟩ := hm pushed
  obtain ⟨qs, hqs, hts⟩ := hn (m pushed).2
  refine ⟨ps ++ qs, ?_, .cons ht hts⟩
  change (n (m pushed).2).2 = _
  rw [hqs, hps, List.append_assoc]

lemma singleton {m : Binder (Condition Unit)} {b : Condition Value} (hm : Compiles m b) :
    CompilesAll (do return [← m]) [b] := by
  intro pushed
  obtain ⟨ps, hps, ht⟩ := hm pushed
  exact ⟨ps, hps, .singleton ht⟩

lemma mapM {α : Type} {f : α → Binder (Condition Unit)} {g : α → Condition Value} :
    ∀ {xs : List α}, (∀ x ∈ xs, Compiles (f x) (g x)) → CompilesAll (xs.mapM f) (xs.map g)
  | [], _ => by
    rw [List.mapM_nil]
    exact pure .nil
  | x :: xs, h => by
    rw [List.mapM_cons, List.map_cons]
    exact cons (h x List.mem_cons_self) (mapM fun y hy => h y (List.mem_cons_of_mem _ hy))

lemma flatMapM {α : Type} {f : α → Binder (List (Condition Unit))}
    {g : α → List (Condition Value)} : ∀ {xs : List α}, (∀ x ∈ xs, CompilesAll (f x) (g x)) →
    CompilesAll (xs.flatMapM f) (xs.flatMap g)
  | [], _ => by
    rw [List.flatMapM_nil]
    exact pure .nil
  | x :: xs, h => by
    rw [List.flatMapM_cons, List.flatMap_cons]
    exact append (h x List.mem_cons_self) (flatMapM fun y hy => h y (List.mem_cons_of_mem _ hy))

lemma compiles {f : List (Condition Unit) → Condition Unit} {b : Condition Value}
    (hm : CompilesAll m bs) (hf : ∀ {ts ps}, TakesList ts ps bs → (f ts).Takes ps b) :
    Compiles (do return f (← m)) b := by
  intro pushed
  obtain ⟨ps, hps, hts⟩ := hm pushed
  exact ⟨ps, hps, hf hts⟩

end CompilesAll

end Sql
end SmeDataCenter
