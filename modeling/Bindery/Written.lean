import Bindery.Json.Basic

/-!
# Values in a notation

Declarations and settings are written in one of two notations.  What they need to know of a
written value is the same for both, and it is listed here: the text, truth value or number it
spells, its parts, and whether it stands for a value left out.  Each notation answers in its own
way; the JSON answers are in this module.
-/

namespace Bindery

/-- The bindings that match a field name, provided no field is given twice. -/
def pickFields {σ : Type} (names : List String) (bindings : List (String × σ)) :
    Option (List (String × σ)) :=
  let known := bindings.filter fun binding => names.contains binding.1
  if (known.map (·.1)).Nodup then some known else none

/-- What can be asked of a value written in some notation. -/
class Written (σ : Type) where
  text? : σ → Option String
  flag? : σ → Option Bool
  integer? : σ → Option Int64
  /-- Whether the value stands for an optional value that is left out. -/
  isAbsent : σ → Bool
  items? : σ → Option (List σ)
  /-- The bindings of a map, in order, repeated keys included. -/
  entries? : σ → Option (List (String × σ))
  /-- The fields of a record with the given field names.  A field may be left out but not be
  given twice; names of other fields are passed over. -/
  fields? : List String → σ → Option (List (String × σ))
  /-- The alternative that a tagged value names, and its content. -/
  choice? : σ → Option (String × σ)

namespace Written

variable {σ α : Type} [Written σ]

/-- A field that must be there. -/
def required (fields : List (String × σ)) (name : String) (read : σ → Option α) : Option α :=
  fields.lookup name >>= read

/-- A field that has a value of its own when it is left out. -/
def withDefault (fields : List (String × σ)) (name : String) (default : α)
    (read : σ → Option α) : Option α :=
  match fields.lookup name with
  | some source => read source
  | none => some default

/-- A value that may be absent. -/
def option? (read : σ → Option α) (source : σ) : Option (Option α) :=
  if isAbsent source then some none else (read source).map some

def list? (read : σ → Option α) (source : σ) : Option (List α) :=
  items? source >>= (·.mapM read)

end Written

namespace Json

def textOf? : Json → Option String
  | .text content => content
  | _ => none

def flagOf? : Json → Option Bool
  | .bool value => some value
  | _ => none

/-- The digits as a number. -/
def decimal (digits : List Char) : Nat :=
  Nat.ofDigitChars 10 digits 0

/-- The integer that a literal spells.  Only whole literals count, and `-0` is no integer. -/
def integerOfLiteral? (literal : List Char) : Option Int :=
  match literal with
  | '-' :: digits =>
    if digits.all Char.isDigit && decimal digits != 0 then some (-(decimal digits : Int)) else none
  | digits => if digits.all Char.isDigit then some (decimal digits : Int) else none

theorem decimal_toDigits (value : Nat) : decimal (Nat.toDigits 10 value) = value := by
  unfold decimal
  exact Nat.ofDigitChars_toDigits (by decide) (by decide)

theorem all_isDigit_toDigits (value : Nat) :
    (Nat.toDigits 10 value).all Char.isDigit = true :=
  List.all_eq_true.2 fun _ member => Nat.isDigit_of_mem_toDigits (by decide) (by decide) member

/-- An integer reads back from the literal that it is written as. -/
theorem integerOfLiteral?_toString (value : Int) :
    integerOfLiteral? (toString value).toList = some value := by
  rw [Int.toString_eq_repr, Int.repr_eq_if]
  split
  · rename_i nonnegative
    have spelled : value.toNat.repr.toList = Nat.toDigits 10 value.toNat := by
      simp [Nat.repr]
    rw [spelled]
    unfold integerOfLiteral?
    split
    · rename_i digits starts
      have allDigits := all_isDigit_toDigits value.toNat
      simp [starts] at allDigits
    · simp only [all_isDigit_toDigits, decimal_toDigits, if_true, Option.some.injEq]
      exact Int.toNat_of_nonneg nonnegative
  · rename_i negative
    have positive : (-value).toNat ≠ 0 := by
      omega
    have spelled : ("-" ++ (-value).toNat.repr).toList
        = '-' :: Nat.toDigits 10 (-value).toNat := by
      simp [Nat.repr]
    rw [spelled]
    simp only [integerOfLiteral?, all_isDigit_toDigits, decimal_toDigits, Bool.true_and,
      bne_iff_ne, ne_eq, positive, not_false_eq_true, if_true, Option.some.injEq]
    omega

def int64? (value : Int) : Option Int64 :=
  if Int64.minValue.toInt ≤ value ∧ value ≤ Int64.maxValue.toInt then some (Int64.ofInt value)
  else none

/-- No integer of 64 bits is out of range. -/
theorem int64?_toInt (value : Int64) : int64? value.toInt = some value := by
  have lower := Int64.le_toInt value
  have upper := Int64.toInt_lt value
  have least : Int64.minValue.toInt = -9223372036854775808 := by
    decide
  have most : Int64.maxValue.toInt = 9223372036854775807 := by
    decide
  rw [int64?, if_pos (by omega), Int64.ofInt_toInt]

def integerOf? : Json → Option Int64
  | .number literal => integerOfLiteral? literal.toList >>= int64?
  | _ => none

def isNull : Json → Bool
  | .null => true
  | _ => false

def itemsOf? : Json → Option (List Json)
  | .array items => some items
  | _ => none

def entriesOf? : Json → Option (List (String × Json))
  | .object members => members.mapM fun (key, value) => key.map (·, value)
  | _ => none

/-- A record is written as an object, or as an array of its fields in order. -/
def fieldsOf? (names : List String) : Json → Option (List (String × Json))
  | .array items => if items.length ≤ names.length then some (names.zip items) else none
  | source => entriesOf? source >>= pickFields names

/-- An alternative is written as an object whose only key names it. -/
def choiceOf? : Json → Option (String × Json)
  | .object [(some name, content)] => some (name, content)
  | _ => none

instance : Written Json where
  text? := textOf?
  flag? := flagOf?
  integer? := integerOf?
  isAbsent := isNull
  items? := itemsOf?
  entries? := entriesOf?
  fields? := fieldsOf?
  choice? := choiceOf?

end Json

end Bindery
