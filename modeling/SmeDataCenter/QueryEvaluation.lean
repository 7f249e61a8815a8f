import SmeDataCenter.StructuredQueryCompiler
import SmeDataCenter.CalendarDates
import Mathlib.Data.Rat.Floor
import Mathlib.Data.List.Dedup
import Mathlib.Data.List.Lex
import Mathlib.Data.Prod.Lex
import Mathlib.Data.Sum.Order

/-!
# The evaluation of a query

What the database computes for the expressions, the conditions and the aggregates of a statement,
on the JSON payloads of rows. How it compares texts, reads numbers in texts and divides is given
by `Mysql`.
-/

namespace SmeDataCenter
namespace StructuredQuery

open Sql

/-! ### Values -/

/-- A scalar in a payload. -/
inductive Cell where
  | null
  | bool (b : Bool)
  | number (q : ℚ)
  | text (s : String)
  deriving DecidableEq

/-- The members of a payload. -/
abbrev Payload := String → Option Cell

/-- The value of an expression; a time of day in seconds. -/
inductive SqlValue where
  | null
  | json (cell : Cell)
  | text (s : String)
  | number (q : ℚ)
  | date (day : CalendarDate)
  | dateTime (day : CalendarDate) (time : ℚ)
  deriving DecidableEq

/-- What a database is asked about texts and numbers. -/
structure Mysql where
  /-- The weights by which a text is compared. -/
  weights : String → List ℕ
  /-- `LIKE` -/
  matchesLike : String → String → Bool
  /-- The number that a text begins with. -/
  textNumber : String → ℚ
  /-- The text of a number in a payload. -/
  numberText : ℚ → String
  /-- The seconds of a time of day. -/
  readTime : Text → Option ℚ
  /-- A quotient with the digits that are kept. -/
  quotient : ℚ → ℚ → ℚ

/-- By what a value is sorted: `NULL` comes first. -/
abbrev SortKey := WithBot (List ℚ)

variable (mysql : Mysql)

def Mysql.textKey (s : String) : List ℚ := (mysql.weights s).map fun weight => (weight : ℚ)

def dateKey (day : CalendarDate) : List ℚ := [day.year, day.month, day.day]

/-- Scalars in a payload are sorted by type first. -/
def Cell.key : Cell → List ℚ
  | .null => [0]
  | .number q => [1, q]
  | .text s => 2 :: mysql.textKey s
  | .bool b => [3, if b then 1 else 0]

def SqlValue.sortKey : SqlValue → SortKey
  | .null => ⊥
  | .json cell => (cell.key mysql : List ℚ)
  | .text s => mysql.textKey s
  | .number q => ([q] : List ℚ)
  | .date day => dateKey day
  | .dateTime day time => (dateKey day ++ [time] : List ℚ)

/-! ### Expressions -/

/-- `JSON_EXTRACT(payload, path)`: none when the path leads nowhere. -/
def jsonExtract (payload : Payload) : Param → Option Cell
  | .text path =>
    match path.toList with
    | '$' :: '.' :: name => payload (String.ofList name)
    | _ => none
  | .number _ => none

/-- `JSON_UNQUOTE` -/
def jsonUnquote : Cell → String
  | .null => "null"
  | .bool b => if b then "true" else "false"
  | .number q => mysql.numberText q
  | .text s => s

/-- Six digits after the point, and halves away from zero. -/
def roundDecimal (q : ℚ) : ℚ :=
  if q < 0 then -((-q * 10 ^ 6 + 1 / 2).floor : ℚ) / 10 ^ 6
  else ((q * 10 ^ 6 + 1 / 2).floor : ℚ) / 10 ^ 6

/-- The greatest `DECIMAL(20, 6)`. -/
def maxDecimal : ℚ := (10 ^ 20 - 1) / 10 ^ 6

/-- `CAST(q AS DECIMAL(20, 6))` -/
def castDecimal (q : ℚ) : ℚ := max (-maxDecimal) (min maxDecimal (roundDecimal q))

/-- The number in a cell, before the cast. -/
def cellNumber : Cell → ℚ
  | .number q => q
  | cell => mysql.textNumber (jsonUnquote mysql cell)

/-- As many digits as there are, up to a number of them, and the rest. -/
def spanDigits (most : ℕ) (text : Text) : Text × Text :=
  let digits := (text.take most).takeWhile Text.isDigit
  (digits, text.drop digits.length)

/-- A year of one or two digits is one of the years from 1970 to 2069. -/
def sqlYear (digits : Text) : ℕ :=
  let year := digitsValue digits
  if digits.length ≤ 2 then (if year < 70 then 2000 + year else 1900 + year) else year

/-- `%Y-%m-%d`, with what follows it. -/
def readDateFormat (text : Text) : Option (CalendarDate × Text) :=
  let (year, rest) := spanDigits 4 text
  match rest with
  | '-' :: rest =>
    let (month, rest) := spanDigits 2 rest
    match rest with
    | '-' :: rest =>
      let (day, rest) := spanDigits 2 rest
      if year.isEmpty || month.isEmpty || day.isEmpty then none
      else (calendarDate (sqlYear year) (digitsValue month) (digitsValue day)).map (·, rest)
    | _ => none
  | _ => none

/-- `T%H:%i:%s`, in seconds. -/
def readTimeFormat : Text → Option ℚ
  | 'T' :: rest =>
    let (hour, rest) := spanDigits 2 rest
    match rest with
    | ':' :: rest =>
      let (minute, rest) := spanDigits 2 rest
      match rest with
      | ':' :: rest =>
        let (second, _) := spanDigits 2 rest
        if hour.isEmpty || minute.isEmpty || second.isEmpty || 24 ≤ digitsValue hour ||
            60 ≤ digitsValue minute || 60 ≤ digitsValue second then none
        else some (3600 * digitsValue hour + 60 * digitsValue minute + digitsValue second)
      | _ => none
    | _ => none
  | _ => none

/-- The value of a field as an expression reads it. -/
def ExpressionKind.read (kind : ExpressionKind) (cell : Cell) : SqlValue :=
  match kind with
  | .json => .json cell
  | .unquoted => .text (jsonUnquote mysql cell)
  | .decimal => .number (castDecimal (cellNumber mysql cell))
  | .date =>
    match readDateFormat (jsonUnquote mysql cell).toList with
    | some (day, _) => .date day
    | none => .null
  | .dateTime =>
    match readDateFormat (jsonUnquote mysql cell).toList with
    | some (day, rest) =>
      match readTimeFormat rest with
      | some time => .dateTime day time
      | none => .null
    | none => .null

/-- An expression on a payload: `NULL` where the payload has no such field. -/
def Expression.eval (payload : Payload) (e : Expression Param) : SqlValue :=
  match jsonExtract payload e.path with
  | some cell => e.kind.read mysql cell
  | none => .null

/-! ### Conditions -/

def Param.value : Param → SqlValue
  | .text s => .text s
  | .number (.finite q) => .number q
  | .number (.infinite _) => .null

/-- The date in a text that is compared with a date, and the time after it. -/
def readDateTime (text : Text) : Option (CalendarDate × ℚ) :=
  match readIsoDate (text.take 10), text.drop 10 with
  | some day, [] => some (day, 0)
  | some day, separator :: time =>
    if separator = ' ' || separator = 'T' then (mysql.readTime time).map (day, ·) else none
  | none, _ => none

/-- How two values compare; none when one of them is `NULL`, or no date is compared with one. -/
def compareValues : SqlValue → SqlValue → Option Ordering
  | .number a, .number b => some (cmp a b)
  | .number a, .text s => some (cmp a (mysql.textNumber s))
  | .text s, .number b => some (cmp (mysql.textNumber s) b)
  | .text s, .text t => some (cmp (mysql.textKey s) (mysql.textKey t))
  | .date day, .text s =>
    (readDateTime mysql s.toList).map fun other =>
      cmp (dateKey day ++ [0]) (dateKey other.1 ++ [other.2])
  | .dateTime day time, .text s =>
    (readDateTime mysql s.toList).map fun other =>
      cmp (dateKey day ++ [time]) (dateKey other.1 ++ [other.2])
  | .json cell, .text s => some (cmp (cell.key mysql) ((Cell.text s).key mysql))
  | .json cell, .number q => some (cmp (cell.key mysql) ((Cell.number q).key mysql))
  | _, _ => none

def Comparison.accepts : Comparison → Ordering → Bool
  | .eq, order => order = .eq
  | .gt, order => order = .gt
  | .gte, order => order ≠ .lt
  | .lt, order => order = .lt
  | .lte, order => order ≠ .gt

def compareTruth (op : Comparison) (a b : SqlValue) : Truth :=
  match compareValues mysql a b with
  | some order => .ofBool (op.accepts order)
  | none => .unknown

def likeTruth (value : SqlValue) : Param → Truth
  | .text pattern =>
    match value with
    | .text s => .ofBool (mysql.matchesLike s pattern)
    | _ => .unknown
  | .number _ => .unknown

mutual

/-- The truth of a condition on a payload. -/
def FilterCondition.eval (payload : Payload) : FilterCondition Param → Truth
  | .compare op e value => compareTruth mysql op (e.eval mysql payload) value.value
  | .like e pattern => likeTruth mysql (e.eval mysql payload) pattern
  | .between e start stop =>
    (compareTruth mysql .gte (e.eval mysql payload) start.value).and
      (compareTruth mysql .lte (e.eval mysql payload) stop.value)
  | .inList e values =>
    (values.map fun v => compareTruth mysql .eq (e.eval mysql payload) v.value).foldr .or .fails
  | .and conditions => (FilterCondition.evals payload conditions).foldr .and .holds
  | .or conditions => (FilterCondition.evals payload conditions).foldr .or .fails
  | .not condition => (FilterCondition.eval payload condition).not

def FilterCondition.evals (payload : Payload) : List (FilterCondition Param) → List Truth
  | [] => []
  | condition :: conditions =>
    FilterCondition.eval payload condition :: FilterCondition.evals payload conditions

end

/-! ### Aggregates -/

/-- A value in a sum. -/
def SqlValue.asNumber : SqlValue → ℚ
  | .number q => q
  | .text s => mysql.textNumber s
  | _ => 0

def sumOf (values : List SqlValue) : ℚ :=
  (values.map (·.asNumber mysql)).foldr (· + ·) 0

/-- The value with the least key, or the greatest one. -/
def extremeOf (greater : Bool) : List SqlValue → SqlValue
  | [] => .null
  | value :: values =>
    values.foldl (fun best v =>
      if (if greater then best.sortKey mysql < v.sortKey mysql
        else v.sortKey mysql < best.sortKey mysql) then v else best) value

/-- An aggregate of the values that are not `NULL`. -/
def AggregateFunction.ofValues (function : AggregateFunction) (values : List SqlValue) : SqlValue :=
  match function with
  | .count => .number values.length
  | .countDistinct => .number (values.map (·.sortKey mysql)).dedup.length
  | .sum => if values.isEmpty then .null else .number (sumOf mysql values)
  | .avg =>
    if values.isEmpty then .null
    else .number (mysql.quotient (sumOf mysql values) values.length)
  | .min => extremeOf mysql false values
  | .max => extremeOf mysql true values

def AggregateFunction.eval (function : AggregateFunction) (values : List SqlValue) : SqlValue :=
  function.ofValues mysql (values.filter (· ≠ .null))

def multiply (a b : SqlValue) : SqlValue :=
  if a = .null ∨ b = .null then .null else .number (a.asNumber mysql * b.asNumber mysql)

/-- `a / NULLIF(b, 0)` -/
def divide (a b : SqlValue) : SqlValue :=
  if a = .null ∨ b = .null ∨ b.asNumber mysql = 0 then .null
  else .number (mysql.quotient (a.asNumber mysql) (b.asNumber mysql))

/-- `SUM(e * w) / NULLIF(SUM(w'), 0)` on some payloads. -/
def weightedAverage (payloads : List Payload) (e weight weight' : Expression Param) : SqlValue :=
  divide mysql
    (AggregateFunction.sum.eval mysql (payloads.map fun payload =>
      multiply mysql (e.eval mysql payload) (weight.eval mysql payload)))
    (AggregateFunction.sum.eval mysql (payloads.map (weight'.eval mysql)))

end StructuredQuery
end SmeDataCenter
