import Renaming.Json.Float
import Renaming.Json.Reader

/-!
# Values in documents

Records are read from objects, whose unknown members are skipped whatever they hold, or from arrays
that list the fields in order. A known member may occur once only. A field without a default may
only be missing from an object, and only if it is optional.
-/

namespace Renaming.Json

/-! ## Single values -/

def text? : Json → Option String
  | string text => text
  | _ => none

def bool? : Json → Option Bool
  | bool value => some value
  | _ => none

def natural? : Json → Option Nat
  | number literal => literal.natural?
  | _ => none

def float? : Json → Option Float
  | number literal => literal.float?
  | _ => none

def list? (item? : Json → Option α) : Json → Option (List α)
  | array items => items.mapM item?
  | _ => none

/-- The name of a choice without contents: its text, or an object with that key alone. -/
def choice? : Json → Option String
  | string text => text
  | object [(key, null)] => key
  | _ => none

/-! ## Records -/

/-- What a document has for one field of a record. -/
inductive Slot where
  | given (value : Json)
  /-- The object has no such member. -/
  | absent
  /-- The array ends before the field. -/
  | beyond

namespace Slot

def required (value? : Json → Option α) : Slot → Option α
  | given value => value? value
  | _ => none

def withDefault (default : α) (value? : Json → Option α) : Slot → Option α
  | given value => value? value
  | _ => some default

/-- Null and a missing member both stand for no value. -/
def optional (value? : Json → Option α) : Slot → Option (Option α)
  | given null => some none
  | given value => (value? value).map some
  | absent => some none
  | beyond => none

/-- A field that may be null, and that a default stands in for where it is missing. -/
def nullable (value? : Json → Option α) : Slot → Option (Option α)
  | given null => some none
  | given value => (value? value).map some
  | _ => some none

end Slot

/-- The members with their keys, none if a key denotes no text. -/
def members? (members : List (Option String × Json)) : Option (List (String × Json)) :=
  members.mapM fun (key, value) => key.map (·, value)

/-- The slot for a key, none if it occurs twice. -/
def slot? (members : List (String × Json)) (key : String) : Option Slot :=
  match members.filter (·.1 == key) with
  | [] => some .absent
  | [(_, value)] => some (.given value)
  | _ => none

/-- The slots of a record with these fields. -/
def record? (fields : List String) : Json → Option (List Slot)
  | object members => (members? members).bind fun members => fields.mapM (slot? members)
  | array items =>
    if items.length ≤ fields.length then
      some (items.map .given ++ List.replicate (fields.length - items.length) .beyond)
    else none
  | _ => none

/-! ## Kept values

A value that is kept whole, before it is known what it will be read as, has only strings that denote
texts, only numbers that a double can hold, and limited nesting. -/

mutual

def readable : Json → Bool
  | string text => text.isSome
  | number literal => literal.isInteger || literal.float?.isSome
  | array items => readableItems items
  | object members => readableMembers members
  | _ => true

def readableItems : List Json → Bool
  | [] => true
  | item :: items => readable item && readableItems items

def readableMembers : List (Option String × Json) → Bool
  | [] => true
  | (key, value) :: members => key.isSome && readable value && readableMembers members

end

/-- The document can be kept inside `outer` arrays and objects. -/
def keepable (outer : Nat) (value : Json) : Bool :=
  value.readable && outer + value.height ≤ nestingLimit

/-- Puts a member in the place of one with the same key, or at the end. -/
def putMember (key : Option String) (value : Json) :
    List (Option String × Json) → List (Option String × Json)
  | [] => [(key, value)]
  | (key', value') :: members =>
    if key' == key then (key, value) :: members else (key', value') :: putMember key value members

mutual

/-- Every number in the form it is written in, and of members with the same key the last. -/
def settle : Json → Json
  | number literal =>
    if literal.isInteger then number literal
    else match literal.float? with
      | some x => float x
      | none => null
  | array items => array (settleItems items)
  | object members => object (settleMembers [] members)
  | value => value

def settleItems : List Json → List Json
  | [] => []
  | item :: items => settle item :: settleItems items

def settleMembers (settled : List (Option String × Json)) :
    List (Option String × Json) → List (Option String × Json)
  | [] => settled
  | (key, value) :: members => settleMembers (putMember key (settle value) settled) members

end

/-- Any document as a value of its own. -/
def value? (value : Json) : Option Json := if value.keepable 0 then some value.settle else none

/-- Reads a text as a document and that as a value. -/
def decode? (value? : Json → Option α) (text : String) : Option α := (parse text.toList).bind value?

end Renaming.Json
