/-!
# JSON values

Values as they are written: numbers keep their spelling and objects keep every member in order,
repeated ones included.  What a number or a repeated member means is decided by whoever reads the
value, and a reader that ignores a member never has to decide.
-/

namespace Bindery

/-- A JSON value.  A text is `none` where an escape in it names half of a surrogate pair: such a
text can be passed over but not used. -/
inductive Json where
  | null
  | bool (value : Bool)
  | number (literal : String)
  | text (content : Option String)
  | array (items : List Json)
  | object (members : List (Option String × Json))
  deriving Inhabited

namespace Json

def ofString (text : String) : Json :=
  .text (some text)

def ofInt (value : Int) : Json :=
  .number (toString value)

def ofNat (value : Nat) : Json :=
  .number (toString value)

/-- The given value, or `null` where there is none. -/
def ofOption {α : Type} (encode : α → Json) : Option α → Json
  | some value => encode value
  | none => .null

def ofList {α : Type} (encode : α → Json) (values : List α) : Json :=
  .array (values.map encode)

/-- An object with the given members in this order. -/
def record (members : List (String × Json)) : Json :=
  .object (members.map fun (key, value) => (some key, value))

end Json

end Bindery
