import SmeDataCenter.Runs

/-!
# Programs that share a lock

Any number of threads run programs on a shared state. A program asks for one thing after the
other and goes on from the reply; between two requests every other thread may move. One lock is
there for all of them. A program is safe when what it does to the shared state, it does while it
has the lock, and leaves in order when it gives the lock back; what it may rely on meanwhile is
that others only move the state along a given order. Threads of safe programs keep the shared
state in order over every interleaving, and a thread that is done has met its postcondition.
-/

namespace SmeDataCenter
namespace CriticalSections

open Runs

/-! ### Programs -/

/-- A program, with the replies to what it asks for. -/
inductive Prog (Req : Type) (Reply : Req → Type) (α : Type) where
  | done (a : α)
  | ask (r : Req) (next : Reply r → Prog Req Reply α)
  | acquire (next : Bool → Prog Req Reply α)
  | release (next : Prog Req Reply α)

variable {Req : Type} {Reply : Req → Type} {α β : Type}

namespace Prog

/-- One program after the other. -/
def bind : Prog Req Reply α → (α → Prog Req Reply β) → Prog Req Reply β
  | .done a, f => f a
  | .ask r next, f => .ask r fun reply => (next reply).bind f
  | .acquire next, f => .acquire fun ok => (next ok).bind f
  | .release next, f => .release (next.bind f)

lemma bind_done (p : Prog Req Reply α) : p.bind .done = p := by
  induction p <;> simp [bind, *]

instance : Monad (Prog Req Reply) where
  pure := .done
  bind := bind

@[simp] lemma pure_eq (a : α) : (pure a : Prog Req Reply α) = .done a := rfl

@[simp] lemma bind_eq (p : Prog Req Reply α) (f : α → Prog Req Reply β) : p >>= f = p.bind f := rfl

/-- A single request. -/
def request (r : Req) : Prog Req Reply (Reply r) := .ask r .done

end Prog

/-! ### Threads -/

/-- The programs of the methods that parties call, and what a request does to the shared state and
to the rest. An answer of the environment that does not fit the request is not one. -/
structure Machine (Party Method Answer σ τ Out Req : Type) (Reply : Req → Type) where
  program : Party → Method → Prog Req Reply Out
  exec : Party → (r : Req) → Answer → σ → τ → Option (Reply r × σ × τ)

structure Thread (Party Out Req : Type) (Reply : Req → Type) where
  party : Party
  prog : Prog Req Reply Out

structure System (Party σ τ Out Req : Type) (Reply : Req → Type) where
  shared : σ
  rest : τ
  /-- Who has the lock. -/
  lock : Option ℕ := none
  threads : List (Thread Party Out Req Reply) := []

/-- What happens: a call starts, a thread gets an answer, the lock cannot be had. -/
inductive Move (Party Method Answer : Type) where
  | start (party : Party) (method : Method)
  | advance (id : ℕ) (answer : Answer)
  | refuse (id : ℕ)

variable {Party Method Answer σ τ Out : Type}

namespace System

/-- The thread goes on with a program. -/
def resume (s : System Party σ τ Out Req Reply) (id : ℕ) (thread : Thread Party Out Req Reply)
    (prog : Prog Req Reply Out) (shared : σ) (rest : τ) (lock : Option ℕ) :
    System Party σ τ Out Req Reply :=
  { shared, rest, lock, threads := s.threads.set id { thread with prog } }

/-- The program of a thread goes on with an answer, if it can. -/
def advance (m : Machine Party Method Answer σ τ Out Req Reply)
    (s : System Party σ τ Out Req Reply) (id : ℕ) (thread : Thread Party Out Req Reply)
    (answer : Answer) : System Party σ τ Out Req Reply :=
  match thread.prog with
  | .done _ => s
  | .ask r next =>
    match m.exec thread.party r answer s.shared s.rest with
    | none => s
    | some (reply, shared, rest) => s.resume id thread (next reply) shared rest s.lock
  | .acquire next =>
    if s.lock = none then s.resume id thread (next true) s.shared s.rest (some id) else s
  | .release next =>
    s.resume id thread next s.shared s.rest (if s.lock = some id then none else s.lock)

/-- The thread is told that it cannot have the lock, if it waits for it. -/
def refuse (s : System Party σ τ Out Req Reply) (id : ℕ) (thread : Thread Party Out Req Reply) :
    System Party σ τ Out Req Reply :=
  match thread.prog with
  | .acquire next => s.resume id thread (next false) s.shared s.rest s.lock
  | _ => s

/-- One move. -/
def step (m : Machine Party Method Answer σ τ Out Req Reply)
    (s : System Party σ τ Out Req Reply) :
    Move Party Method Answer → System Party σ τ Out Req Reply
  | .start party method => { s with threads := s.threads ++ [⟨party, m.program party method⟩] }
  | .advance id answer =>
    match s.threads[id]? with
    | none => s
    | some thread => s.advance m id thread answer
  | .refuse id =>
    match s.threads[id]? with
    | none => s
    | some thread => s.refuse id thread

/-- The thread is done, with a result. -/
def Returned (s : System Party σ τ Out Req Reply) (id : ℕ) (out : Out) : Prop :=
  ∃ thread : Thread Party Out Req Reply, s.threads[id]? = some thread ∧ thread.prog = .done out

/-- No thread is under way. -/
def Idle (s : System Party σ τ Out Req Reply) : Prop :=
  ∀ thread ∈ s.threads, ∃ out, thread.prog = .done out

end System

/-! ### Safe programs -/

/-- What is asked of the programs: the answers that are considered, how the shared state may move
while a program waits, what holds of it at every moment, and what besides when the lock is free. -/
structure Rules (Party Answer σ Req : Type) where
  allowed : Party → Req → Answer → σ → Prop
  moves : σ → σ → Prop
  refl : ∀ s, moves s s
  trans : ∀ s t u, moves s t → moves t u → moves s u
  always : σ → Prop
  free : σ → Prop

/-- The program is safe from a state it has seen. Without the lock it waits for whatever state the
others make, and leaves it as it is; with the lock the state is its own, and in order when the
lock is given back. -/
def Safe (m : Machine Party Method Answer σ τ Out Req Reply) (rules : Rules Party Answer σ Req)
    (party : Party) (post : Bool → σ → α → Prop) : Prog Req Reply α → Bool → σ → Prop
  | .done a, locked, s => post locked s a
  | .ask r next, true, s => ∀ answer rest reply s' rest', rules.allowed party r answer s →
    m.exec party r answer s rest = some (reply, s', rest') →
      rules.moves s s' ∧ rules.always s' ∧ Safe m rules party post (next reply) true s'
  | .ask r next, false, s => ∀ t, rules.moves s t → rules.always t →
    ∀ answer rest reply t' rest', rules.allowed party r answer t →
      m.exec party r answer t rest = some (reply, t', rest') →
        t' = t ∧ Safe m rules party post (next reply) false t
  | .acquire next, locked, s => locked = false ∧ ∀ t, rules.moves s t → rules.always t →
    (rules.free t → Safe m rules party post (next true) true t) ∧
      Safe m rules party post (next false) false t
  | .release next, locked, s => locked = true ∧ rules.free s ∧
    Safe m rules party post next false s

variable {m : Machine Party Method Answer σ τ Out Req Reply} {rules : Rules Party Answer σ Req}
  {party : Party}

variable {p : Prog Req Reply α} {locked : Bool}

/-- **The rule of sequences**: what the first program leaves, wherever it has moved, is where the
second starts. -/
lemma Safe.bind_moved {mid : Bool → σ → α → Prop} {post : Bool → σ → β → Prop}
    {f : α → Prog Req Reply β} {s : σ} (h : Safe m rules party mid p locked s)
    (hf : ∀ locked t a, mid locked t a → rules.moves s t →
      Safe m rules party post (f a) locked t) :
    Safe m rules party post (p.bind f) locked s := by
  induction p generalizing locked s with
  | done a => exact hf _ _ _ h (rules.refl s)
  | ask r next ih =>
    cases locked with
    | true =>
      intro answer rest reply s' rest' hallowed hexec
      obtain ⟨hmoves, halways, hnext⟩ := h answer rest reply s' rest' hallowed hexec
      exact ⟨hmoves, halways, ih reply hnext fun locked u a hmid hu =>
        hf locked u a hmid (rules.trans _ _ _ hmoves hu)⟩
    | false =>
      intro t hmoves halways answer rest reply t' rest' hallowed hexec
      obtain ⟨hsame, hnext⟩ := h t hmoves halways answer rest reply t' rest' hallowed hexec
      exact ⟨hsame, ih reply hnext fun locked u a hmid hu =>
        hf locked u a hmid (rules.trans _ _ _ hmoves hu)⟩
  | acquire next ih =>
    obtain ⟨hlocked, h⟩ := h
    refine ⟨hlocked, fun t hmoves halways => ?_⟩
    obtain ⟨hhad, hrefused⟩ := h t hmoves halways
    have hlater : ∀ locked u a, mid locked u a → rules.moves t u →
        Safe m rules party post (f a) locked u :=
      fun locked u a hmid hu => hf locked u a hmid (rules.trans _ _ _ hmoves hu)
    exact ⟨fun hfree => ih true (hhad hfree) hlater, ih false hrefused hlater⟩
  | release next ih =>
    obtain ⟨hlocked, hfree, hnext⟩ := h
    exact ⟨hlocked, hfree, ih hnext hf⟩

lemma Safe.bind {mid : Bool → σ → α → Prop} {post : Bool → σ → β → Prop}
    {f : α → Prog Req Reply β} {s : σ} (h : Safe m rules party mid p locked s)
    (hf : ∀ locked t a, mid locked t a → Safe m rules party post (f a) locked t) :
    Safe m rules party post (p.bind f) locked s :=
  h.bind_moved fun locked t a hmid _ => hf locked t a hmid

lemma Safe.moved {post : Bool → σ → α → Prop} {s : σ} (h : Safe m rules party post p locked s) :
    Safe m rules party (fun locked t a => post locked t a ∧ rules.moves s t) p locked s := by
  rw [← p.bind_done]
  exact h.bind_moved fun _ _ _ hpost hmoves => ⟨hpost, hmoves⟩

lemma Safe.mono {post post' : Bool → σ → α → Prop} {s : σ}
    (h : Safe m rules party post p locked s)
    (hpost : ∀ locked t a, post locked t a → post' locked t a) :
    Safe m rules party post' p locked s := by
  rw [← p.bind_done]
  exact h.bind hpost

/-! ### Systems of safe threads -/

/-- The shared state is in order, and every thread is safe from a state it has seen, which is the
present one when it has the lock. -/
structure Sound (m : Machine Party Method Answer σ τ Out Req Reply)
    (rules : Rules Party Answer σ Req) (post : ℕ → Bool → σ → Out → Prop)
    (s : System Party σ τ Out Req Reply) : Prop where
  always : rules.always s.shared
  free : s.lock = none → rules.free s.shared
  owner : ∀ id, s.lock = some id → id < s.threads.length
  threads : ∀ id thread, s.threads[id]? = some thread → ∃ seen, rules.moves seen s.shared ∧
    (s.lock = some id → seen = s.shared) ∧
    Safe m rules thread.party (post id) thread.prog (decide (s.lock = some id)) seen

/-- The answer of a move is one that is considered. -/
def Allowed (rules : Rules Party Answer σ Req) (s : System Party σ τ Out Req Reply) :
    Move Party Method Answer → Prop
  | .advance id answer => ∀ thread r next, s.threads[id]? = some thread →
    thread.prog = .ask r next → rules.allowed thread.party r answer s.shared
  | _ => True

/-- The programs that start are safe. -/
def SafeFrom (m : Machine Party Method Answer σ τ Out Req Reply)
    (rules : Rules Party Answer σ Req) (post : ℕ → Bool → σ → Out → Prop) (first : ℕ) : Prop :=
  ∀ id party method s, first ≤ id → rules.always s →
    Safe m rules party (post id) (m.program party method) false s

variable {post : ℕ → Bool → σ → Out → Prop} {s : System Party σ τ Out Req Reply}

variable {id : ℕ} {shared : σ} {rest : τ}

variable {thread : Thread Party Out Req Reply}

lemma Sound.resume (h : Sound m rules post s) {prog : Prog Req Reply Out} {lock : Option ℕ}
    (hthread : s.threads[id]? = some thread) (hmoves : rules.moves s.shared shared)
    (halways : rules.always shared) (hfree : lock = none → rules.free shared)
    (hlock : ∀ other, other ≠ id → (lock = some other ↔ s.lock = some other))
    (hshared : ∀ other, other ≠ id → lock = some other → shared = s.shared)
    (hsafe : Safe m rules thread.party (post id) prog (decide (lock = some id)) shared) :
    Sound m rules post (s.resume id thread prog shared rest lock) where
  always := halways
  free := hfree
  owner := by
    intro other hother
    unfold System.resume at hother ⊢
    rw [List.length_set]
    by_cases heq : other = id
    · rw [heq]
      exact (List.getElem?_eq_some_iff.mp hthread).1
    · exact h.owner other ((hlock other heq).mp hother)
  threads := by
    intro other thread' hother
    obtain ⟨hid, -⟩ := List.getElem?_eq_some_iff.mp hthread
    unfold System.resume at hother
    by_cases heq : other = id
    · subst heq
      rw [List.getElem?_set_self hid, Option.some.injEq] at hother
      subst hother
      exact ⟨shared, rules.refl shared, fun _ => rfl, hsafe⟩
    · rw [List.getElem?_set_ne (Ne.symm heq)] at hother
      obtain ⟨seen, hseen, hlocked, hsafe'⟩ := h.threads other thread' hother
      refine ⟨seen, rules.trans _ _ _ hseen hmoves, fun hhas => ?_, ?_⟩
      · rw [hlocked ((hlock other heq).mp hhas)]
        exact (hshared other heq hhas).symm
      · change Safe m rules thread'.party (post other) thread'.prog
          (decide (lock = some other)) seen
        rwa [decide_eq_decide.mpr (hlock other heq)]

lemma Sound.answer (h : Sound m rules post s) {r : Req} {next : Reply r → Prog Req Reply Out}
    {answer : Answer} {reply : Reply r} (hthread : s.threads[id]? = some thread)
    (hprog : thread.prog = .ask r next) (hallowed : rules.allowed thread.party r answer s.shared)
    (hexec : m.exec thread.party r answer s.shared s.rest = some (reply, shared, rest)) :
    Sound m rules post (s.resume id thread (next reply) shared rest s.lock) := by
  obtain ⟨seen, hseen, hlocked, hsafe⟩ := h.threads id thread hthread
  rw [hprog] at hsafe
  by_cases hlock : s.lock = some id
  · obtain rfl := hlocked hlock
    rw [decide_eq_true hlock] at hsafe
    obtain ⟨hmoves, halways, hnext⟩ := hsafe answer s.rest reply shared rest hallowed hexec
    refine h.resume hthread hmoves halways (fun hnone => ?_) (fun _ _ => .rfl)
      (fun other hne hother => ?_) ?_
    · rw [hlock] at hnone
      cases hnone
    · exact absurd (Option.some.inj (hother.symm.trans hlock)) hne
    · rwa [decide_eq_true hlock]
  · rw [decide_eq_false hlock] at hsafe
    obtain ⟨rfl, hnext⟩ := hsafe s.shared hseen h.always answer s.rest reply shared rest
      hallowed hexec
    refine h.resume hthread (rules.refl _) h.always h.free (fun _ _ => .rfl) (fun _ _ _ => rfl) ?_
    rwa [decide_eq_false hlock]

lemma Sound.acquire (h : Sound m rules post s) {next : Bool → Prog Req Reply Out}
    (hthread : s.threads[id]? = some thread) (hprog : thread.prog = .acquire next)
    (hnone : s.lock = none) :
    Sound m rules post (s.resume id thread (next true) s.shared s.rest (some id)) := by
  obtain ⟨seen, hseen, -, hsafe⟩ := h.threads id thread hthread
  rw [hprog] at hsafe
  obtain ⟨hhad, -⟩ := hsafe.2 s.shared hseen h.always
  refine h.resume hthread (rules.refl _) h.always nofun (fun other hne => ?_)
    (fun _ _ _ => rfl) ?_
  · simp [hnone, Ne.symm hne]
  · rw [decide_eq_true rfl]
    exact hhad (h.free hnone)

lemma Sound.release (h : Sound m rules post s) {next : Prog Req Reply Out}
    (hthread : s.threads[id]? = some thread) (hprog : thread.prog = .release next) :
    Sound m rules post (s.resume id thread next s.shared s.rest
      (if s.lock = some id then none else s.lock)) := by
  obtain ⟨seen, -, hlocked, hsafe⟩ := h.threads id thread hthread
  rw [hprog] at hsafe
  obtain ⟨hlock, hfree, hnext⟩ := hsafe
  have hlock : s.lock = some id := of_decide_eq_true hlock
  obtain rfl := hlocked hlock
  rw [if_pos hlock]
  refine h.resume hthread (rules.refl _) h.always (fun _ => hfree) (fun other hne => ?_)
    (fun _ _ _ => rfl) ?_
  · simp [hlock, Ne.symm hne]
  · rwa [decide_eq_false (by simp)]

lemma Sound.refuse (h : Sound m rules post s) (hthread : s.threads[id]? = some thread) :
    Sound m rules post (s.refuse id thread) := by
  obtain ⟨seen, hseen, -, hsafe⟩ := h.threads id thread hthread
  unfold System.refuse
  split
  · rename_i next hprog
    rw [hprog] at hsafe
    obtain ⟨hlock, hsafe⟩ := hsafe
    refine h.resume hthread (rules.refl _) h.always h.free (fun _ _ => .rfl) (fun _ _ _ => rfl) ?_
    rw [hlock]
    exact (hsafe s.shared hseen h.always).2
  · exact h

lemma Sound.advance (h : Sound m rules post s) {answer : Answer}
    (hthread : s.threads[id]? = some thread)
    (hallowed : ∀ r next, thread.prog = .ask r next → rules.allowed thread.party r answer s.shared)
    : Sound m rules post (s.advance m id thread answer) := by
  unfold System.advance
  split
  · exact h
  · rename_i r next hprog
    split
    · exact h
    · rename_i hexec
      exact h.answer hthread hprog (hallowed r next hprog) hexec
  · rename_i next hprog
    split_ifs with hnone
    · exact h.acquire hthread hprog hnone
    · exact h
  · rename_i next hprog
    exact h.release hthread hprog

lemma Sound.start (h : Sound m rules post s) {party : Party} {method : Method}
    (hsafe : Safe m rules party (post s.threads.length) (m.program party method) false s.shared) :
    Sound m rules post (s.step m (.start party method)) where
  always := h.always
  free := h.free
  owner := by
    intro id hlock
    have hlt := h.owner id hlock
    simp only [System.step, List.length_append, List.length_singleton]
    omega
  threads := by
    intro id thread hthread
    simp only [System.step] at hthread ⊢
    by_cases hid : id < s.threads.length
    · rw [List.getElem?_append_left hid] at hthread
      exact h.threads id thread hthread
    · rw [List.getElem?_append_right (by omega), List.getElem?_singleton] at hthread
      split_ifs at hthread with hsame
      obtain rfl := Option.some.inj hthread
      obtain rfl : id = s.threads.length := by omega
      have hlast : s.lock ≠ some s.threads.length :=
        fun hlock => Nat.lt_irrefl _ (h.owner _ hlock)
      refine ⟨s.shared, rules.refl _, fun _ => rfl, ?_⟩
      rwa [← decide_eq_false hlast] at hsafe

/-- **What one move keeps**: the soundness of the system. -/
lemma Sound.step (h : Sound m rules post s) (hstart : SafeFrom m rules post s.threads.length)
    {move : Move Party Method Answer} (hallowed : Allowed rules s move) :
    Sound m rules post (s.step m move) := by
  cases move with
  | start party method => exact h.start (hstart _ party method s.shared (Nat.le_refl _) h.always)
  | advance id answer =>
    simp only [System.step]
    split
    · exact h
    · rename_i thread hthread
      exact h.advance hthread fun r next hprog => hallowed thread r next hthread hprog
  | refuse id =>
    simp only [System.step]
    split
    · exact h
    · rename_i thread hthread
      exact h.refuse hthread

/-! ### Runs -/

variable {moves : List (Move Party Method Answer)}

lemma length_le_step (s : System Party σ τ Out Req Reply) (move : Move Party Method Answer) :
    s.threads.length ≤ (s.step m move).threads.length := by
  cases move with
  | start party method => simp [System.step]
  | advance id answer =>
    simp only [System.step]
    split
    · exact Nat.le_refl _
    · unfold System.advance
      split
      · exact Nat.le_refl _
      · split
        · exact Nat.le_refl _
        · simp [System.resume]
      · split_ifs <;> simp [System.resume]
      · simp [System.resume]
  | refuse id =>
    simp only [System.step]
    split
    · exact Nat.le_refl _
    · unfold System.refuse
      split
      · simp [System.resume]
      · exact Nat.le_refl _

/-- **The rule of safe threads**: a system that is sound stays so over every interleaving whose
answers are among those considered. -/
theorem Sound.run (h : Sound m rules post s) (hstart : SafeFrom m rules post s.threads.length)
    (hallowed : Along (System.step m) (Allowed rules) s moves) :
    Sound m rules post (run (System.step m) s moves) := by
  have hstep : ∀ (t : System Party σ τ Out Req Reply) (move : Move Party Method Answer),
      Allowed rules t move →
      (Sound m rules post t ∧ s.threads.length ≤ t.threads.length) →
      Sound m rules post (t.step m move) ∧ s.threads.length ≤ (t.step m move).threads.length := by
    rintro t move hmove ⟨ht, hlength⟩
    refine ⟨ht.step (fun id party method u hid hu => hstart id party method u ?_ hu) hmove, ?_⟩
    · exact Nat.le_trans hlength hid
    · exact Nat.le_trans hlength (length_le_step t move)
  exact (run_invariant hstep hallowed ⟨h, Nat.le_refl _⟩).1

lemma Sound.initial (halways : rules.always shared) (hfree : rules.free shared) :
    Sound m rules post { shared, rest } where
  always := halways
  free := fun _ => hfree
  owner := nofun
  threads := nofun

lemma Sound.returned (h : Sound m rules post s) {out : Out} (hout : s.Returned id out) :
    ∃ seen, rules.moves seen s.shared ∧ post id (decide (s.lock = some id)) seen out := by
  obtain ⟨thread, hthread, hprog⟩ := hout
  obtain ⟨seen, hseen, -, hsafe⟩ := h.threads id thread hthread
  rw [hprog] at hsafe
  exact ⟨seen, hseen, hsafe⟩

lemma Sound.congr (h : Sound m rules post s) {post' : ℕ → Bool → σ → Out → Prop}
    (hpost : ∀ id < s.threads.length, post' id = post id) : Sound m rules post' s where
  always := h.always
  free := h.free
  owner := h.owner
  threads := by
    intro id thread hthread
    obtain ⟨seen, hseen, hlocked, hsafe⟩ := h.threads id thread hthread
    rw [← hpost id (List.getElem?_eq_some_iff.mp hthread).1] at hsafe
    exact ⟨seen, hseen, hlocked, hsafe⟩

/-- **The rule of one call**: a call that starts in a sound system has met a postcondition of its
own when it is done. -/
theorem Sound.returned_of_start {base post : Bool → σ → Out → Prop}
    (h : Sound m rules (fun _ => base) s) (hbase : SafeFrom m rules (fun _ => base) 0)
    {method : Method} (hcall : Safe m rules party post (m.program party method) false s.shared)
    (hallowed : Along (System.step m) (Allowed rules) (s.step m (.start party method)) moves)
    {out : Out} (hout : (Runs.run (System.step m) (s.step m (.start party method)) moves).Returned
      s.threads.length out) :
    ∃ locked seen, rules.moves seen
        (Runs.run (System.step m) (s.step m (.start party method)) moves).shared ∧
      post locked seen out := by
  have hlength : s.threads.length < (s.step m (.start party method)).threads.length := by
    simp [System.step]
  have hstart : Sound m rules (fun id => if id = s.threads.length then post else base)
      (s.step m (.start party method)) := by
    refine (h.congr fun id hid => ?_).start ?_
    · rw [if_neg (Nat.ne_of_lt hid)]
    · rwa [if_pos rfl]
  have hrun := hstart.run (fun id party' method' t hid ht => ?_) hallowed
  · obtain ⟨seen, hseen, hpost⟩ := hrun.returned hout
    rw [if_pos rfl] at hpost
    exact ⟨_, seen, hseen, hpost⟩
  · have hne : id ≠ s.threads.length := by omega
    simpa only [if_neg hne] using hbase id party' method' t (Nat.zero_le _) ht

lemma Sound.free_of_idle (h : Sound m rules post s) (hidle : s.Idle)
    (hpost : ∀ id t out, ¬ post id true t out) : rules.free s.shared := by
  refine h.free (Option.eq_none_iff_forall_not_mem.mpr fun id hlock => ?_)
  have hthread := List.getElem?_eq_getElem (h.owner id hlock)
  obtain ⟨out, hprog⟩ := hidle _ (List.getElem_mem (h.owner id hlock))
  obtain ⟨seen, -, hdone⟩ := h.returned ⟨_, hthread, hprog⟩
  rw [decide_eq_true (Option.mem_def.mp hlock)] at hdone
  exact hpost id seen out hdone

end CriticalSections
end SmeDataCenter
