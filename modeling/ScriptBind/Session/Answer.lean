import ScriptBind.Binding.Constant

/-!
# Answers

Values of every sort as replies of the log.

* `World.reply`, `replyOption` — script values.
* `World.tableReply` — everything about a table, its entries in order.
* `NativeValue.reply` — values of native types.
-/

namespace ScriptBind

/-! ## Native values -/

/-- An object by its number. -/
def ObjectId.reply (id : ObjectId) : Reply := .integer id.number.toNat

def NativeValue.reply : NativeValue → Reply
  | boolean b => .flag b
  | int64 n => .integer n.toInt
  | int32 n => .integer n.toInt
  | float64 x => .float64 x
  | float32 x => .float32 x
  | string s => .text s
  | math v => .variant v
  | object id => id.reply
  | variant v => .variant v

/-! ## Order of keys -/

/-- Booleans come before numbers and numbers before strings. -/
def Key.rank : Key → Nat
  | boolean _ => 0
  | number _ => 1
  | string _ => 2

/-- The order in which a table's entries are listed: booleans with false first, numbers ascending,
strings by their characters. -/
def Key.le : Key → Key → Bool
  | boolean a, boolean b => !a || b
  | number a, number b => a ≤ b
  | string a, string b => a ≤ b
  | a, b => a.rank ≤ b.rank

namespace World

/-! ## Script values -/

def reply (w : World) (v : Value) : Reply := .shown (w.shown v)

/-- An optional script value. -/
def replyOption (w : World) (v : Option Value) : Reply := .option (v.map w.reply)

/-- A metatable, if there is one. -/
def replyTable (w : World) (t : Option TableId) : Reply := w.replyOption (t.map .table)

/-- Everything about a table. -/
def tableReply (w : World) (t : TableId) : Reply :=
  let table := w.table t
  let entries := table.entries.mergeSort fun a b => a.1.le b.1
  .record [
    ("len", .count table.size),
    ("empty", .flag (table.size == 0)),
    ("readonly", .flag table.readonly),
    ("entries", .list (entries.map fun e => .list [w.reply e.1.toValue, w.reply e.2])),
    ("metatable", w.replyTable table.metatable),
    ("debug", .text table.debugText)]

/-- The type's name of the value at an index, and whether there is none, none or nil, or a
read-only table. -/
def kindReply (w : World) (index : Int) : Reply :=
  .list [
    .text (w.state.kind index),
    .flag (w.state.isNone index),
    .flag (w.state.isNoneOrNil index),
    .flag (w.isReadonly index)]

/-- The summary of the function at an index. -/
def functionReply (w : World) (index : Int) : Reply :=
  match w.state.value? index with
  | some (.function f) => .orNothing ((w.functions[f.index]?).map fun g => .text g.debugText)
  | _ => .nothing

/-- Everything about a loose constant. -/
def constantReply (w : World) (i : Nat) : Reply :=
  let c := w.looseConstant i
  let fetched := w.isFetched c.ref
  .list [.text c.type.name, .text c.name, .flag fetched,
    .text (Constant.debugText c.type c.name fetched)]

/-- The application data of the current state. -/
def dataReply (w : World) : Reply :=
  .list [
    .orNothing (w.state.numberData.map fun n => .count n.toInt),
    .orNothing (w.state.textData.map .text)]

/-- The class of an object of a host and some of its properties. -/
def objectReply (w : World) (host : Nat) (id : ObjectId) (properties : List String) : Reply :=
  match (w.host host).classes.object? id with
  | none => .nothing
  | some o => .list [.text o.cls, .list (properties.map fun p => .variant (o.get p))]

end World

end ScriptBind
