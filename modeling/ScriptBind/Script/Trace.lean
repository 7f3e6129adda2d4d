import ScriptBind.Script.Code

/-!
# Traces

What a session's log shows of each executed instruction.

* `Shown` — a script value as it looked when the instruction ended.
* `Reply` — the answer of an instruction.
* `Entry` — an instruction, its answer or error, the stack of its frame, and the requests that
  hosts received meanwhile.
-/

namespace ScriptBind

/-- How a userdata's metatable is shown. -/
inductive ShownTag where
  /-- There is no metatable. -/
  | untagged
  /-- The metatable names no type. -/
  | unnamed
  | named (type : String)
deriving DecidableEq

/-- A script value as it looked at one moment. -/
inductive Shown where
  | nil
  | boolean (value : Bool)
  | number (value : Float)
  | string (value : String)
  | table (id : TableId)
  | function (name : String)
  | userdata (id : UserdataId) (payload : Payload) (tag : ShownTag)
deriving DecidableEq

/-- The answer of an instruction. -/
inductive Reply where
  | nothing
  | flag (value : Bool)
  /-- A small count or index. -/
  | count (value : Int)
  /-- An integer of any size. -/
  | integer (value : Int)
  | float64 (value : Float)
  | float32 (value : Float32)
  | text (value : String)
  | shown (value : Shown)
  | variant (value : Variant)
  | list (items : List Reply)
  | record (fields : List (String × Reply))

namespace Reply

/-- An optional reply: nothing, or a list of one. -/
def option : Option Reply → Reply
  | none => .nothing
  | some r => .list [r]

/-- A reply, or nothing. -/
def orNothing : Option Reply → Reply
  | none => .nothing
  | some r => r

end Reply

/-- One executed instruction. -/
structure Entry where
  instr : Instr
  outcome : Except ScriptError Reply
  stack : List Shown
  /-- How many session functions were running. -/
  depth : Nat
  /-- The requests since the entry before, with the hosts that received them. -/
  requests : List (Nat × Request)

end ScriptBind
