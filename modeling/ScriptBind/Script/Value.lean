import ScriptBind.Script.Error
import ScriptBind.Number.Text
import ScriptBind.Text.Quoted

/-!
# Script values

The values that a script state holds. Tables, functions and userdata are handles: copies of a
value share what it refers to.

* `Value` — a script value; `Value.kind` is its type's name.
* `Value.rawEqual` — plain values by content (numbers as numbers), handles by identity.
* `Key` — the values that can be table keys: booleans, strings and numbers other than NaN. Keys
  compare like the values they come from, so `0` and `-0` are one key.
-/

namespace ScriptBind

/-! ## Handles -/

/-- The identity of a table. -/
structure TableId where
  index : Nat
deriving DecidableEq, Inhabited

/-- The identity of a function. -/
structure FunctionId where
  index : Nat
deriving DecidableEq, Inhabited

/-- The identity of a userdata. -/
structure UserdataId where
  index : Nat
deriving DecidableEq, Inhabited

/-! ## Values -/

/-- A script value. -/
inductive Value where
  | nil
  | boolean (value : Bool)
  | number (value : Float)
  | string (value : String)
  | table (id : TableId)
  | function (id : FunctionId)
  | userdata (id : UserdataId)
deriving DecidableEq, Inhabited

namespace Value

/-- The name of a value's type. -/
def kind : Value → String
  | nil => "nil"
  | boolean _ => "boolean"
  | number _ => "number"
  | string _ => "string"
  | table _ => "table"
  | function _ => "function"
  | userdata _ => "userdata"

def isNil : Value → Bool
  | nil => true
  | _ => false

/-- Everything counts as true but nil and false. -/
def isTruthy : Value → Bool
  | nil => false
  | boolean b => b
  | _ => true

/-- Equality without handlers. -/
def rawEqual : Value → Value → Bool
  | nil, nil => true
  | boolean a, boolean b => a == b
  | number a, number b => a == b
  | string a, string b => a == b
  | table a, table b => a == b
  | function a, function b => a == b
  | userdata a, userdata b => a == b
  | _, _ => false

/-- The number a value is or spells. -/
def asNumber : Value → Option Float
  | number x => some x
  | string s => Number.parse? s
  | _ => none

/-- The text a value is or prints as. -/
def asText : Value → Option String
  | string s => some s
  | number x => some (Number.display x)
  | _ => none

def asTable : Value → Option TableId
  | table t => some t
  | _ => none

def asUserdata : Value → Option UserdataId
  | userdata u => some u
  | _ => none

/-- The text of a value. Handles have none of their own: a table or userdata shows its kind only,
and `functionName` names the functions. -/
def text (functionName : FunctionId → String) : Value → String
  | nil => "nil"
  | boolean b => if b then "true" else "false"
  | number x => Number.display x
  | string s => s
  | table _ => "table: PTR"
  | function f => "function: builtin: " ++ functionName f
  | userdata _ => "userdata: PTR"

/-- The text of a value for diagnostics. -/
def debugText (functionName : FunctionId → String) : Value → String
  | nil => "Nil"
  | boolean b => "Boolean(" ++ (if b then "true" else "false") ++ ")"
  | number x => "Number(" ++ Number.show64 x ++ ")"
  | string s => "String(" ++ Text.quoted s ++ ")"
  | table _ => "Table(PTR)"
  | function f => "Function(" ++ functionName f ++ ")"
  | userdata _ => "Userdata(PTR)"

end Value

/-! ## Keys -/

/-- A table key. -/
inductive Key where
  | boolean (value : Bool)
  | number (value : Float)
  | string (value : String)
deriving Inhabited

namespace Key

/-- Keys compare like the values they come from. A NaN, which no value makes a key of, would be the
same key as any other NaN. -/
def same : Key → Key → Bool
  | boolean a, boolean b => a == b
  | number a, number b => if a.isNaN then b.isNaN else a == b
  | string a, string b => a == b
  | _, _ => false

instance : BEq Key := ⟨same⟩

/-- The key that a value makes. -/
def ofValue : Value → Except ScriptError Key
  | .boolean b => .ok (boolean b)
  | .number x => if x.isNaN then .error (.invalidKey "NaN") else .ok (number x)
  | .string s => .ok (string s)
  | v => .error (.invalidKey v.kind)

/-- The value of a key. -/
def toValue : Key → Value
  | boolean b => .boolean b
  | number x => .number x
  | string s => .string s

/-- The characters of a string key. -/
def asText : Key → Option String
  | string s => some s
  | _ => none

/-- A key leads back to its value. -/
theorem toValue_of_ofValue {v : Value} {k : Key} (h : ofValue v = .ok k) : k.toValue = v := by
  cases v with
  | number x =>
    simp only [ofValue] at h
    split at h
    · cases h
    · cases h
      rfl
  | boolean b =>
    cases h
    rfl
  | string s =>
    cases h
    rfl
  | _ => cases h

/-- Keys are the same exactly when their values are equal. -/
theorem same_eq_rawEqual {a b : Value} {j k : Key} (ha : ofValue a = .ok j)
    (hb : ofValue b = .ok k) : j.same k = a.rawEqual b := by
  rw [← toValue_of_ofValue ha, ← toValue_of_ofValue hb]
  cases j with
  | number x =>
    have number : x.isNaN = false := by
      -- the check for a NaN has passed
      rw [← toValue_of_ofValue ha, toValue, ofValue] at ha
      split at ha
      next => cases ha
      next h => exact Bool.eq_false_iff.mpr h
    cases k with
    | number y => exact if_neg (Bool.eq_false_iff.mp number)
    | _ => rfl
  | _ => cases k <;> rfl

end Key

end ScriptBind
