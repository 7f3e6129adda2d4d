import ScriptBind.Script.Value
import ScriptBind.Registry.Keyed

/-!
# Tables

A finite map from keys to values other than nil, with an optional metatable. A read-only table
refuses every change but the change of that mark.

* `Table.get` — the value under a key, nil when there is none.
* `Table.set` — enters a value; nil removes the entry.
-/

namespace ScriptBind

/-- A table. -/
structure Table where
  entries : List (Key × Value)
  metatable : Option TableId
  readonly : Bool
deriving Inhabited

namespace Table

/-- A table without entries. -/
def empty : Table := ⟨[], none, false⟩

/-- The value under a key. -/
def get (t : Table) (k : Key) : Value := (Keyed.get? k t.entries).getD .nil

/-- The value under a string key. -/
def field (t : Table) (name : String) : Value := t.get (.string name)

/-- Enters a value under a key, or removes the entry when the value is nil. -/
def set (t : Table) (k : Key) (v : Value) : Except ScriptError Table :=
  if t.readonly then .error .readOnly
  else if v.isNil then .ok { t with entries := Keyed.erase k t.entries }
  else .ok { t with entries := Keyed.put k v t.entries }

def setMetatable (t : Table) (metatable : Option TableId) : Except ScriptError Table :=
  if t.readonly then .error .readOnly else .ok { t with metatable }

/-- The number of entries. -/
def size (t : Table) : Nat := t.entries.length

def keys (t : Table) : List Key := t.entries.map Prod.fst

/-- A one-line summary. -/
def debugText (t : Table) : String :=
  "TableRef \x7b len: " ++ Number.natText t.size ++ ", readonly: " ++
    (if t.readonly then "true" else "false") ++ " \x7d"

/-! ## Refused changes -/

theorem set_of_readonly {t : Table} (h : t.readonly = true) (k : Key) (v : Value) :
    t.set k v = .error .readOnly := by
  simp [set, h]

theorem setMetatable_of_readonly {t : Table} (h : t.readonly = true) (m : Option TableId) :
    t.setMetatable m = .error .readOnly := by
  simp [setMetatable, h]

end Table

end ScriptBind
