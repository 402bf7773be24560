import Platformer.Json.Numeral

/-! # JSON values

* **`Json`** — a value of a JSON text. Members of an object keep their order and may repeat a name.
* **`Json.render`** — a text of a value.
* **`Json.bool?`**, **`Json.nat?`**, **`Json.single?`**, **`Json.list?`** — readings of a value.
* **`Json.record?`** — the fields of a record, written as an object or as an array. -/

namespace Platformer

/-- A JSON value. A string whose escapes spell half of a character pair has no text. -/
inductive Json where
  | null
  | bool (b : Bool)
  | number (n : Numeral)
  | string (s : Option String)
  | array (elements : List Json)
  | object (members : List (Option String × Json))

namespace Json

/-! ### Writing -/

/-- A character inside of quotes. -/
def escape (c : Char) : String :=
  if c = '"' then "\\\""
  else if c = '\\' then "\\\\"
  else if c < ' ' then "\\u00" ++ (if c.toNat < 16 then "0" else "") ++
    String.ofList (Nat.toDigits 16 c.toNat)
  else c.toString

/-- A string in quotes. -/
def quote (s : String) : String := "\"" ++ String.join (s.toList.map escape) ++ "\""

mutual

/-- A text of a value, without blanks. -/
def render : Json → String
  | .null => "null"
  | .bool b => toString b
  | .number n => n.text
  | .string s => quote (s.getD "")
  | .array elements => "[" ++ renderElements elements ++ "]"
  | .object members => "\x7b" ++ renderMembers members ++ "\x7d"

/-- The texts of the elements of an array. -/
def renderElements : List Json → String
  | [] => ""
  | [x] => render x
  | x :: xs => render x ++ "," ++ renderElements xs

/-- The texts of the members of an object. -/
def renderMembers : List (Option String × Json) → String
  | [] => ""
  | [(name, x)] => quote (name.getD "") ++ ":" ++ render x
  | (name, x) :: xs => quote (name.getD "") ++ ":" ++ render x ++ "," ++ renderMembers xs

end

/-- The object of named values. -/
def ofFields (fields : List (String × Json)) : Json :=
  .object (fields.map fun (name, x) => (some name, x))

/-- The value of a natural. -/
def ofNat (n : Nat) : Json := .number (.ofNat n)

/-- The value of a number; one that is not finite has no numeral. -/
def ofSingle (x : Single) : Json := ((Numeral.ofSingle? x).map .number).getD .null

/-- The value of a text. -/
def ofString (s : String) : Json := .string (some s)

/-- The value of what may be missing. -/
def ofOption (f : α → Json) : Option α → Json
  | none => .null
  | some a => f a

/-! ### Reading -/

/-- The flag that a value is. -/
def bool? : Json → Option Bool
  | .bool b => some b
  | _ => none

/-- The natural below a limit that a value is. -/
def nat? (limit : Nat) : Json → Option Nat
  | .number n => n.toNat? limit
  | _ => none

/-- The 64-bit word that a value is. -/
def word? (x : Json) : Option UInt64 := (x.nat? UInt64.size).map UInt64.ofNat

/-- The number that a value is. -/
def single? : Json → Option Single
  | .number n => n.toSingle?
  | _ => none

/-- The elements of an array, each of which must be readable. -/
def list? (f : Json → Option α) : Json → Option (List α)
  | .array elements => elements.mapM f
  | _ => none

/-- A value that may be null. -/
def option? (f : Json → Option α) : Json → Option (Option α)
  | .null => some none
  | x => (f x).map some

/-- The value of a name in the members of an object: nothing if it is missing, and unreadable if it
is repeated. -/
def member? (members : List (Option String × Json)) (name : String) : Option (Option Json) :=
  match members.filter (·.1 == some name) with
  | [] => some none
  | [(_, x)] => some (some x)
  | _ => none

/-- The fields of a record with the given names, in their order. An array gives all of them; an
object may leave some out and may have others, but its names must be texts and none of the given
ones may be repeated. -/
def record? (names : List String) : Json → Option (List (Option Json))
  | .array elements =>
    if elements.length = names.length then some (elements.map some) else none
  | .object members =>
    if members.all (·.1.isSome) then names.mapM (member? members) else none
  | _ => none

/-- The constructor that a value names, with its fields if it has any: a text, or an object with the
name of the constructor as its only member. -/
def variant? : Json → Option (String × Option Json)
  | .string (some name) => some (name, none)
  | .object [(some name, x)] => some (name, some x)
  | _ => none

/-- The name of a constructor without fields, which may stand before a null. -/
def plainVariant? (x : Json) : Option String :=
  match x.variant? with
  | some (name, none) | some (name, some .null) => some name
  | _ => none

end Json

end Platformer
