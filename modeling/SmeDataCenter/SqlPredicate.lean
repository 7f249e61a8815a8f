import Mathlib.Data.List.Basic
import Mathlib.Data.Int.Notation
import Mathlib.Logic.Function.Basic

/-!
# SQL predicates over a database, in three-valued logic

A `WHERE` predicate is a syntax tree whose placeholders carry a parameter `π`: `Unit` in a
prepared text, where every `?` looks the same, and `Value` once the parameters are bound.
Evaluation is Kleene's: a comparison with `NULL` is neither true nor false, and a row is
selected only when the predicate is true. Subqueries are the correlated `EXISTS` and
`COUNT(*)` forms, evaluated with the rows of the enclosing aliases in reach.
-/

namespace SmeDataCenter
namespace Sql

/-! ### Truth values -/

/-- The truth values of SQL. -/
inductive Truth where
  | holds
  | fails
  | unknown
  deriving DecidableEq

namespace Truth

def ofBool : Bool → Truth
  | true => holds
  | false => fails

def not : Truth → Truth
  | holds => fails
  | fails => holds
  | unknown => unknown

def and : Truth → Truth → Truth
  | fails, _ => fails
  | _, fails => fails
  | holds, holds => holds
  | _, _ => unknown

def or : Truth → Truth → Truth
  | holds, _ => holds
  | _, holds => holds
  | fails, fails => fails
  | _, _ => unknown

@[simp] lemma ofBool_holds {b : Bool} : ofBool b = holds ↔ b = true := by
  cases b <;> simp [ofBool]

@[simp] lemma ofBool_fails {b : Bool} : ofBool b = fails ↔ b = false := by
  cases b <;> simp [ofBool]

variable {a : Truth}

@[simp] lemma not_holds : a.not = holds ↔ a = fails := by
  cases a <;> simp [not]

@[simp] lemma not_fails : a.not = fails ↔ a = holds := by
  cases a <;> simp [not]

variable {b : Truth}

@[simp] lemma and_holds : a.and b = holds ↔ a = holds ∧ b = holds := by
  cases a <;> cases b <;> simp [and]

@[simp] lemma and_fails : a.and b = fails ↔ a = fails ∨ b = fails := by
  cases a <;> cases b <;> simp [and]

@[simp] lemma or_holds : a.or b = holds ↔ a = holds ∨ b = holds := by
  cases a <;> cases b <;> simp [or]

@[simp] lemma or_fails : a.or b = fails ↔ a = fails ∧ b = fails := by
  cases a <;> cases b <;> simp [or]

end Truth

/-! ### Syntax -/

/-- A column value. -/
inductive Value where
  | null
  | int (n : ℤ)
  | text (s : String)
  deriving DecidableEq

/-- A scalar operand: `alias.column`, a literal, or a placeholder. -/
inductive Operand (π : Type) where
  | column (owner name : String)
  | literal (v : Value)
  | placeholder (p : π)

/-- A predicate. The operands and subqueries of a constructor stand in the order in which
its SQL text spells them. -/
inductive Condition (π : Type) where
  /-- `a = b` -/
  | eq (a b : Operand π)
  /-- `CAST(a AS BINARY) = CAST(b AS BINARY)` -/
  | binaryEq (a b : Operand π)
  /-- `a BETWEEN lo AND hi` -/
  | between (a lo hi : Operand π)
  /-- `a IS NULL` -/
  | isNull (a : Operand π)
  /-- `REGEXP_LIKE(a, pattern)` -/
  | regexpLike (a pattern : Operand π)
  /-- `CHAR_LENGTH(a) > n` -/
  | charLengthGt (a : Operand π) (n : ℕ)
  /-- `(SELECT COUNT(*) FROM table owner WHERE w) = n` -/
  | countEq (table owner : String) (w : Condition π) (n : Operand π)
  /-- `EXISTS (SELECT 1 FROM table owner WHERE w)` -/
  | exists (table owner : String) (w : Condition π)
  /-- `NOT (c)` -/
  | not (c : Condition π)
  /-- `c AND d` -/
  | and (c d : Condition π)
  /-- `c OR d` -/
  | or (c d : Condition π)

namespace Condition

variable {π : Type}

/-- `1 = 1` -/
def always : Condition π := .eq (.literal (.int 1)) (.literal (.int 1))

/-- `0 = 1` -/
def never : Condition π := .eq (.literal (.int 0)) (.literal (.int 1))

/-- `a IS NOT NULL` -/
def isNotNull (a : Operand π) : Condition π := .not (.isNull a)

/-- The conditions joined by `AND`. -/
def all : List (Condition π) → Condition π
  | [] => always
  | [c] => c
  | c :: d :: cs => .and c (all (d :: cs))

/-- The conditions joined by `OR`, or `0 = 1` when there are none. -/
def any : List (Condition π) → Condition π
  | [] => never
  | [c] => c
  | c :: d :: cs => .or c (any (d :: cs))

end Condition

/-! ### Meaning -/

/-- A row: the value under each column name. -/
abbrev Row := String → Value

/-- A database: the rows of each table. -/
abbrev Database := String → List Row

/-- The row each alias in reach stands for. -/
abbrev Aliases := String → Row

def Operand.value (env : Aliases) : Operand Value → Value
  | .column owner name => env owner name
  | .literal v => v
  | .placeholder v => v

/-- Equality of two values. A number is never compared with a text here; MySQL would convert
one of them, and the comparison is left without a truth value. -/
def Value.eq : Value → Value → Truth
  | .int m, .int n => .ofBool (decide (m = n))
  | .text s, .text t => .ofBool (decide (s = t))
  | _, _ => .unknown

def Value.between : Value → Value → Value → Truth
  | .int n, .int lo, .int hi => .ofBool (decide (lo ≤ n ∧ n ≤ hi))
  | _, _, _ => .unknown

def Value.regexpLike (matcher : String → String → Bool) : Value → Value → Truth
  | .text s, .text pattern => .ofBool (matcher s pattern)
  | _, _ => .unknown

def Value.charLengthGt : Value → ℕ → Truth
  | .text s, n => .ofBool (decide (n < s.length))
  | _, _ => .unknown

/-- The truth value of a bound predicate. `matcher` is the server's `REGEXP_LIKE` on two
texts. A subquery counts the rows on which its own predicate is true. -/
def Condition.eval (matcher : String → String → Bool) (db : Database) :
    Aliases → Condition Value → Truth
  | env, .eq a b => (a.value env).eq (b.value env)
  | env, .binaryEq a b => (a.value env).eq (b.value env)
  | env, .between a lo hi => (a.value env).between (lo.value env) (hi.value env)
  | env, .isNull a => .ofBool (decide (a.value env = .null))
  | env, .regexpLike a pattern => (a.value env).regexpLike matcher (pattern.value env)
  | env, .charLengthGt a n => (a.value env).charLengthGt n
  | env, .countEq table owner w n =>
    (Value.int ((db table).countP fun row =>
      eval matcher db (Function.update env owner row) w = .holds)).eq (n.value env)
  | env, .exists table owner w =>
    .ofBool ((db table).any fun row => eval matcher db (Function.update env owner row) w = .holds)
  | env, .not c => (eval matcher db env c).not
  | env, .and c d => (eval matcher db env c).and (eval matcher db env d)
  | env, .or c d => (eval matcher db env c).or (eval matcher db env d)

@[simp] lemma Value.eq_text_text {s t : String} :
    Value.eq (.text s) (.text t) = .ofBool (decide (s = t)) := rfl

@[simp] lemma Value.eq_int_int {m n : ℤ} :
    Value.eq (.int m) (.int n) = .ofBool (decide (m = n)) := rfl

@[simp] lemma Value.eq_null {v : Value} : Value.eq .null v = .unknown := rfl

namespace Condition

variable {matcher : String → String → Bool} {db : Database} {env : Aliases}

variable {w : Condition Value} {table : String}

lemma eval_exists {owner : String} :
    eval matcher db env (.exists table owner w) = .ofBool ((db table).any fun row =>
      eval matcher db (Function.update env owner row) w = .holds) := rfl

lemma eval_and {c d : Condition Value} :
    eval matcher db env (.and c d) = (eval matcher db env c).and (eval matcher db env d) := rfl

lemma eval_or {c d : Condition Value} :
    eval matcher db env (.or c d) = (eval matcher db env c).or (eval matcher db env d) := rfl

@[simp] lemma eval_always : eval matcher db env always = .holds := rfl

@[simp] lemma eval_never : eval matcher db env never = .fails := rfl

lemma exists_holds {owner : String} :
    eval matcher db env (.exists table owner w) = .holds ↔
      ∃ row ∈ db table, eval matcher db (Function.update env owner row) w = .holds := by
  simp [eval_exists]

lemma exists_fails {owner : String} :
    eval matcher db env (.exists table owner w) = .fails ↔
      ∀ row ∈ db table, eval matcher db (Function.update env owner row) w ≠ .holds := by
  simp [eval_exists]

variable {cs : List (Condition Value)}

lemma eval_all_holds :
    eval matcher db env (all cs) = .holds ↔ ∀ c ∈ cs, eval matcher db env c = .holds := by
  induction cs with
  | nil => simp [all]
  | cons c cs ih =>
    cases cs with
    | nil => simp [all]
    | cons d cs => rw [List.forall_mem_cons, ← ih, all, eval_and, Truth.and_holds]

lemma eval_all_fails :
    eval matcher db env (all cs) = .fails ↔ ∃ c ∈ cs, eval matcher db env c = .fails := by
  induction cs with
  | nil => simp [all]
  | cons c cs ih =>
    cases cs with
    | nil => simp [all]
    | cons d cs => rw [List.exists_mem_cons_iff, ← ih, all, eval_and, Truth.and_fails]

lemma eval_any_holds :
    eval matcher db env (any cs) = .holds ↔ ∃ c ∈ cs, eval matcher db env c = .holds := by
  induction cs with
  | nil => simp [any]
  | cons c cs ih =>
    cases cs with
    | nil => simp [any]
    | cons d cs => rw [List.exists_mem_cons_iff, ← ih, any, eval_or, Truth.or_holds]

lemma eval_any_fails :
    eval matcher db env (any cs) = .fails ↔ ∀ c ∈ cs, eval matcher db env c = .fails := by
  induction cs with
  | nil => simp [any]
  | cons c cs ih =>
    cases cs with
    | nil => simp [any]
    | cons d cs => rw [List.forall_mem_cons, ← ih, any, eval_or, Truth.or_fails]

end Condition

end Sql
end SmeDataCenter
