import ScriptBind.Binding.ObjectClass
import ScriptBind.Binding.GlobalEnum

/-!
# Handlers

What each function of the binding layer does.
-/

namespace ScriptBind

/-- Runs a handler in its frame; the answer is the number of results it pushed. -/
def Handler.run : Handler → ScriptM Nat
  | builtinCtor => ScriptM.builtinConstructor
  | builtinGlobalIndex => ScriptM.builtinGlobalIndex
  | builtinMemberIndex => ScriptM.builtinMemberIndex
  | builtinNamecall => ScriptM.builtinNamecall
  | builtinMethod => ScriptM.builtinMethod
  | builtinStaticCall => ScriptM.builtinStaticCall
  | builtinText => ScriptM.builtinText
  | builtinEqual => ScriptM.builtinEqual
  | classCtor => ScriptM.classConstructor
  | classNoCtor => ScriptM.classRefusal
  | classNamecall => ScriptM.classNamecall
  | objectText => ScriptM.objectText
  | objectEqual => ScriptM.objectEqual

end ScriptBind
