import RecordQuery.Schema

/-!
# Tickets

A record type with a field of every kind, optional and not, and its schema (`Ticket.schema`). Two
fields are renamed: `Ticket.names` are the names in queries.
-/

namespace RecordQuery

/-- A ticket. `priority` and `severity` are ordinals, which need not be those of `levels`. -/
structure Ticket where
  id : UInt32
  title : Text
  estimate : Option Binary64
  grade : Char
  closed : Bool
  priority : UInt32
  assignee : Option Text
  delta : Int64
  mark : Option Char
  flag : Option Bool
  severity : Option UInt32

namespace Ticket

/-- The variants of `priority` and `severity`. -/
def levels : List Text := ["low".toList, "Medium".toList, "HIGH".toList]

/-- The value of an optional field. -/
def optionally {α : Type} (value : α → Value) : Option α → Value
  | some a => value a
  | none => .absent

/-- The fields of a ticket in its schema. -/
def fields : List (Field Ticket) := [
  ⟨"id".toList, .number, false, fun t => .number (.unsigned t.id.toUInt64)⟩,
  ⟨"title".toList, .text, false, fun t => .text t.title⟩,
  ⟨"hours".toList, .number, true, fun t => optionally (fun x => .number (.float x)) t.estimate⟩,
  ⟨"grade".toList, .char, false, fun t => .char t.grade⟩,
  ⟨"closed".toList, .bool, false, fun t => .bool t.closed⟩,
  ⟨"priority".toList, .enum levels, false, fun t => .ordinal t.priority⟩,
  ⟨"assignedTo".toList, .text, true, fun t => optionally .text t.assignee⟩,
  ⟨"delta".toList, .number, false, fun t => .number (.signed t.delta)⟩,
  ⟨"mark".toList, .char, true, fun t => optionally .char t.mark⟩,
  ⟨"flag".toList, .bool, true, fun t => optionally .bool t.flag⟩,
  ⟨"severity".toList, .enum levels, true, fun t => optionally .ordinal t.severity⟩]

/-- The names of the fields in queries, in the order of the record. -/
def names : List Text := fields.map Field.name

/-- The schema of tickets. -/
def schema : Schema Ticket := fields.foldl Schema.insert .empty

end Ticket

end RecordQuery
