import SmeDataCenter.OffsetPaging
import SmeDataCenter.ResultOrder

/-!
# The pages of a query

The route that answers a query with a page and a cursor for the next one, and a client that
follows the cursors. Every page is read by a statement of its own, for which the database chooses
an order of all results.
-/

namespace SmeDataCenter
namespace StructuredQuery

open Sql Fallible

/-! ### One page -/

structure ExecuteStructuredQueryResult where
  rows : List QueryResult
  hasMore : Bool

/-- The page in the order of the results that the database has chosen. -/
def execute (order : List QueryResult) (compiled : StructuredCompiledQuery) :
    ExecuteStructuredQueryResult :=
  let rows := Paging.page (compiled.limit + 1) compiled.offset order
  { rows := rows.take compiled.limit, hasMore := compiled.limit < rows.length }

structure QueryReply where
  rows : List QueryResult
  nextCursor : Option String

/-- The reply to a query. A statement with an empty `IN` list is no SQL. -/
def replyToQuery (services : QueryServices) (input : CompileInput) (body : QueryJson)
    (order : List QueryResult) : Except QueryError QueryReply := do
  let compiled ← compilePublicStructuredQuery services input body
  if hasEmptyIn body then
    .error (.internal "You have an error in your SQL syntax")
  else
    let result := execute order compiled
    return {
      rows := result.rows
      nextCursor :=
        if result.hasMore then
          some (createStructuredCursor services (compiled.offset + result.rows.length)
            compiled.shapeHash input.cursorSecret input.now)
        else none }

/-! ### All pages -/

/-- The page of a body, with another cursor. -/
def pageWithCursor (fields : List (String × QueryJson)) (cursor : String) :
    List (String × QueryJson) :=
  match property fields "page" with
  | some (.obj page) => page.filter (fun field => field.1 ≠ "cursor") ++ [("cursor", .str cursor)]
  | _ => [("cursor", .str cursor)]

/-- The same query, from a cursor on. -/
def withCursor (body : QueryJson) (cursor : String) : QueryJson :=
  match body with
  | .obj fields =>
    .obj (fields.filter (fun field => field.1 ≠ "page") ++
      [("page", .obj (pageWithCursor fields cursor))])
  | body => body

/-- Read pages until there is no cursor: request `k` is made at `clock k`, and answered in the
order `orders k`. -/
def followCursors (services : QueryServices) (input : CompileInput) (clock : ℕ → ℤ)
    (orders : ℕ → List QueryResult) : ℕ → ℕ → QueryJson → Except QueryError (List (List QueryResult))
  | 0, _, _ => .error (.internal "There are more pages")
  | fuel + 1, k, body => do
    let reply ← replyToQuery services { input with now := clock k } body (orders k)
    match reply.nextCursor with
    | none => return [reply.rows]
    | some cursor =>
      let pages ← followCursors services input clock orders fuel (k + 1) (withCursor body cursor)
      return reply.rows :: pages

/-! ### What the database is sent -/

lemma compileNormalizedQuery_page {services : QueryServices} {input : CompileInput}
    {query : NormalizedQuery} {registry : StructuredDatasetRegistry}
    {compiled : StructuredCompiledQuery}
    (h : compileNormalizedQuery services input query registry = .ok compiled) :
    compiled.limit = query.page.limit ∧
      compiled.shapeHash = services.hashQueryShape (queryShape input query) := by
  unfold compileNormalizedQuery at h
  cases htable : registry.rowTable with
  | none =>
    rw [htable] at h
    cases h
  | some rowTable =>
    rw [htable] at h
    obtain ⟨-, -, h⟩ := bind_ok.mp h
    obtain ⟨-, -, h⟩ := bind_ok.mp h
    obtain ⟨-, -, h⟩ := bind_ok.mp h
    obtain ⟨-, -, h⟩ := bind_ok.mp h
    obtain ⟨offset, -, h⟩ := bind_ok.mp h
    obtain ⟨dynamic, -, h⟩ := bind_ok.mp h
    obtain ⟨projection, -, h⟩ := bind_ok.mp h
    obtain ⟨filter, -, h⟩ := bind_ok.mp h
    obtain ⟨order, -, h⟩ := bind_ok.mp h
    obtain ⟨groupBy, -, h⟩ := bind_ok.mp h
    cases h
    exact ⟨rfl, rfl⟩

lemma compileCostCardQuery_page {services : QueryServices} {input : CompileInput}
    {body : QueryJson} {compiled : StructuredCompiledQuery}
    (h : compileCostCardQuery services input body = .ok compiled) :
    ∃ query shape, normalizeStructuredDirectoryQuery body costCardDirectoryRegistry = .ok query ∧
      compiled.limit = query.page.limit ∧
      compiled.shapeHash = services.hashDirectoryShape shape := by
  unfold compileCostCardQuery at h
  cases hauthorization : input.businessAuthorization with
  | none =>
    rw [hauthorization] at h
    cases h
  | some authorization =>
    rw [hauthorization] at h
    obtain ⟨query, hquery, h⟩ := bind_ok.mp h
    obtain ⟨filter, -, h⟩ := bind_ok.mp h
    obtain ⟨offset, -, h⟩ := bind_ok.mp h
    obtain ⟨projection, -, h⟩ := bind_ok.mp h
    obtain ⟨sort, -, h⟩ := bind_ok.mp h
    cases h
    exact ⟨query, _, hquery, rfl, rfl⟩

end StructuredQuery
end SmeDataCenter
