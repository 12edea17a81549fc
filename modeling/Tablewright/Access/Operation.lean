import Tablewright.Access.Filter
import Tablewright.Access.Session
import Tablewright.Methods.Primitive

/-!
# Operations

What each primitive does with a table. A row is identified by a column and a value of it; a column
that counts as false is the usual one. A primitive logs that it failed, and fails.
-/

namespace Tablewright.Access

open Methods (Primitive)

/-- The value, or the other one if it counts as false. -/
def orElse
    (value : Value)
    (other : Value) : Value :=
  if value.isTruthy then value else other

/-- The columns to be read; all of them if none are given. -/
def columnsOf
    (select : Value) : Value :=
  orElse select (.text "*")

/-- The column that identifies rows. -/
def keyColumn
    (idField : Value) : Value :=
  orElse idField (.text "id")

/-- The part that picks the row in question. -/
def rowPart
    (idField recordId : Value) : QueryPart :=
  .compare .equal (keyColumn idField) recordId

/-- The first and last row of a page. -/
def pageBounds
    (limit page : Value) : Except Misfit (Value × Value) := do
  let offset ← Value.mul (orElse page (.int 0)) limit
  let bound ← Value.add offset limit
  let last ← Value.sub bound (.int 1)
  return (offset, last)

/-- The part that picks a page, if there is a limit. -/
def pageDraft
    (limit page : Value) : Draft :=
  match limit with
  | .null => .ofParts []
  | limit => .ofExcept ((pageBounds limit page).map fun (first, last) => [.range first last])

/-- The query for all rows that pass a filter, or for a page of them. -/
def getAllDraft
    (select filters limit page : Value) : Draft :=
  ((Draft.ofParts [.select (columnsOf select)]).andThen (filterDraft filters)).andThen
    (pageDraft limit page)

/-- What is logged when a primitive fails. -/
def failureRecord
    (primitive : Primitive)
    (table : Value)
    (error : AccessError) : LogRecord :=
  .error ("Error in " ++ primitive.name ++ " for " ++ table.display ++ ": " ++ error.message)

/-- Logs that a primitive failed, and fails. -/
def failLogged
    (primitive : Primitive)
    (table : Value)
    (error : AccessError) : Work Value := do
  modify fun session =>
    { session with logs := session.logs ++ [failureRecord primitive table error] }
  throw error

/-- The work of a primitive, with its failures logged. -/
def logged
    (primitive : Primitive)
    (table : Value)
    (work : Work Value) : Work Value :=
  tryCatch work (failLogged primitive table)

/-- Reads rows. -/
def getAll
    (table select filters limit page : Value) : Work Value :=
  logged .getAll table do
    let rows ← send table (getAllDraft select filters limit page)
    return orElse rows (.list [])

/-- Reads one row; that there is none is no failure. -/
def getById
    (table recordId select idField : Value) : Work Value :=
  tryCatch
    (send table (.ofParts [.select (columnsOf select), rowPart idField recordId, .single]))
    fun error => if error.isNotFound then return .null else failLogged .getById table error

/-- The refusal that stands for a missing row. -/
def noRow
    (message : String) : AccessError :=
  .refused <| .map
    [(.text "message", .text message),
      (.text "code", .text Template.notFoundCode),
      (.text "details", .text "The result contains 0 rows"),
      (.text "hint", .null)]

/-- The first of the rows that came back, of which there has to be one. -/
def firstRow
    (rows : Value)
    (message : String) : Work Value :=
  if rows.isTruthy then orMisfit rows.head else throw (noRow message)

/-- Inserts one row. -/
def create
    (table row : Value) : Work Value :=
  logged .create table do
    let rows ← send table (.ofParts [.insert row])
    firstRow rows ("Insert into " ++ table.display ++ " returned no row")

/-- Inserts several rows. -/
def createMany
    (table rows : Value) : Work Value :=
  logged .createMany table do
    let stored ← send table (.ofExcept (rows.items?.map fun items => [.insert (.list items)]))
    return orElse stored (.list [])

/-- Changes one row, for the primitives that do so. -/
def updateRow
    (table recordId changes idField : Value) : Work Value := do
  let rows ← send table (.ofParts [.update changes, rowPart idField recordId])
  firstRow rows
    ("No row in " ++ table.display ++ " with " ++ (keyColumn idField).display ++ "=" ++
      recordId.display)

/-- Changes one row. -/
def update
    (table recordId changes idField : Value) : Work Value :=
  logged .update table (updateRow table recordId changes idField)

/-- Changes the row that an update names. -/
def applyUpdate
    (table idField update : Value) : Work Value := do
  let recordId ← orMisfit (update.atKey "id")
  let changes ← orMisfit (update.atKey "data")
  updateRow table recordId changes idField

/-- Changes rows one after another, up to the first failure. -/
def updateEach
    (table idField : Value) : List Value → Work (List Value)
  | [] => return []
  | update :: rest => do
      let row ← applyUpdate table idField update
      let rows ← updateEach table idField rest
      return row :: rows

/-- Changes several rows. -/
def updateMany
    (table updates idField : Value) : Work Value :=
  logged .updateMany table do
    let updates ← orMisfit updates.items?
    return .list (← updateEach table idField updates)

/-- Deletes one row. -/
def delete
    (table recordId idField : Value) : Work Value :=
  logged .delete table do
    let _ ← send table (.ofParts [.delete, rowPart idField recordId])
    return .null

/-- The work of a primitive for a table, with the values of its parameters. -/
def perform
    (primitive : Primitive)
    (table : Value)
    (bound : Calls.Bound) : Work Value :=
  match primitive with
  | .getAll =>
      getAll table (bound.get "select") (bound.get "filters") (bound.get "limit") (bound.get "page")
  | .getById => getById table (bound.get "record_id") (bound.get "select") (bound.get "id_field")
  | .create => create table (bound.get "data")
  | .createMany => createMany table (bound.get "data")
  | .update => update table (bound.get "record_id") (bound.get "data") (bound.get "id_field")
  | .updateMany => updateMany table (bound.get "updates") (bound.get "id_field")
  | .delete => delete table (bound.get "record_id") (bound.get "id_field")

end Tablewright.Access
