import ScriptBind.Binding.Request

/-!
# Global enums

The global table `Enum` holds one read-only table per global enum.

* `ScriptM.openEnums` — fills the table and makes it read-only.
-/

namespace ScriptBind

/-- The global that holds the enums. -/
def enumGlobal : String := "Enum"

namespace ScriptM

/-- The table that the enums go into, which is made when there is none. -/
def enumTable : ScriptM TableId := do
  let w ← get
  match (w.table w.state.globals).field enumGlobal with
  | .table t =>
    if (w.table t).readonly then throw (.runtime "global enums are already open") else return t
  | .nil =>
    let t ← pushNewTable
    setGlobal enumGlobal
    return t
  | other => throw (.runtime ("global '" ++ enumGlobal ++ "' is a " ++ other.kind))

/-- Enters the table of one enum. -/
def openEnum (enums : TableId) (e : Registry.Enumeration) : ScriptM Unit := do
  let t ← pushNewTable
  e.values.forM fun v => setText t v.1 (.number (Number.ofInt64 v.2))
  setReadonly t true
  pop 1
  setText enums e.name (.table t)

/-- Fills the global table of enums; the answer is their number. -/
def openEnums : ScriptM Nat := do
  let c ← context
  let enums ← enumTable
  let declared := (← registry c).enums
  declared.forM (openEnum enums)
  setReadonly enums true
  return declared.length

end ScriptM

end ScriptBind
