import ScriptBind.Proofs.Binding.Dispatch
import ScriptBind.Proofs.Host.Answers
import ScriptBind.Proofs.Registry.Ancestry
import ScriptBind.Proofs.Session.Constants

/-!
# What is asked was declared

Whatever a handler is called with, it asks a host for one thing at most, and for nothing that the
description of the registry does not declare: a constant, constructor, method or member of a type,
or a class that has instances. The arguments of a constructor fit, by which its overloads are told
apart, and a method is asked for with a live object of its class or of a class derived from it.

A registry knows members by the digests of their names and passes the name on that it was given. So
a name whose digest is that of a member must be that member's, or the host is asked for something
else.

Main results:

* `takes_of_checkArg` — an accepted argument is a value of the declared type.
* `handler_deals` — what a handler asks for is declared.
-/

namespace ScriptBind

open Api (Document)
open Registry (Builtin Method)

/-- The names of the members. -/
def Api.Document.memberNames (d : Document) : List String :=
  d.builtins.flatMap fun b => b.members.map fun m => m.name

/-- The values that the running function carries. -/
def State.upvalues (s : State) : List Value := (s.frames.head?.map fun f => f.upvalues).getD []

/-- The upvalues of a function are counted from one. -/
theorem State.upvalue?_succ (s : State) (i : Nat) : s.upvalue? (i + 1) = s.upvalues[i]? := by
  unfold upvalue? upvalues
  cases s.frames <;> rfl

/-- The upvalues with which the libraries of a registry bind a handler. A static method carries its
type and its name, and `new` the name of a class that has instances; the other handlers look up what
they carry, or refuse. -/
def Handler.Bound (r : Registry) : Handler → List Value → Prop
  | builtinStaticCall, upvalues => ∃ b ∈ r.builtins, ∃ key m,
      ScriptM.staticMethod? b key = some m ∧ upvalues = [.string b.name, .string m.name]
  | classCtor, upvalues => ∃ k ∈ r.classes, k.isInstantiable = true ∧ upvalues = [.string k.name]
  | _, _ => True

/-- A request that is covered by a description: one for the text of a value, or one whose answer it
declares. A method is asked for with a live object of its class or of one derived from it. -/
inductive Api.Document.Covers (d : Document) (r : Registry) (h : Host) : Request → Prop
  | text (v : Variant) : Covers d r h (.stringify v)
  | declared {q : Request} {t : Option ArgType} (promises : d.Promises q t)
      (live : ∀ id cls name args, q = .callObject id cls name args →
        ∃ o, h.classes.object? id = some o ∧ r.isSubclass o.cls cls = true) :
      Covers d r h q

namespace ScriptM

/-! ## Accepted arguments -/

section Answers

variable {α β : Type} {P : α → Prop}

/-- What the operation answers has a property. -/
def Answers (P : α → Prop) (act : ScriptM α) : Prop := ∀ w a, (act w).1 = .ok a → P a

namespace Answers

theorem pure {a : α} (h : P a) : Answers P (Pure.pure a) := by
  intro w b hb
  cases hb
  exact h

theorem throw (e : ScriptError) : Answers P (MonadExcept.throw e : ScriptM α) := by
  intro w a h
  cases h

/-- Only the last operation answers. -/
theorem bind {a : ScriptM β} {f : β → ScriptM α} (h : ∀ x, Answers P (f x)) :
    Answers P (a >>= f) := by
  intro w y hy
  rw [run_bind] at hy
  split at hy
  next x v _ => exact h x v y hy
  next => cases hy

theorem ite {p : Prop} [Decidable p] {a b : ScriptM α} (ha : Answers P a) (hb : Answers P b) :
    Answers P (if p then a else b) := by
  split
  · exact ha
  · exact hb

/-- What has been found is answered, and nothing else. -/
theorem demand (index : Int) (expected : String) {found : Option α} (h : ∀ a ∈ found, P a) :
    Answers P (ScriptM.demand index expected found) := by
  cases found with
  | some a => exact pure (h a rfl)
  | none => exact bind fun _ => throw _

end Answers

end Answers

/-- A builtin value that is found has the type that was looked for. -/
theorem tag_of_builtinAt? {w : World} {index : Int} {t : Tag} {v : Variant}
    (found : w.builtinAt? index t = some v) : v.tag = t := by
  unfold World.builtinAt? at found
  obtain ⟨u, -, found⟩ := Option.bind_eq_some_iff.mp found
  split at found
  next =>
    obtain ⟨tag, found⟩ := Option.ite_none_right_eq_some.mp found
    cases found
    exact tag
  next => cases found

/-- A builtin argument has the type that was looked for. -/
theorem tag_of_builtinArg? {w : World} {index : Int} {t : Tag} {v : Variant}
    (found : w.builtinArg? index t = some v) : v.tag = t := by
  unfold World.builtinArg? at found
  split at found
  case h_1 =>
    obtain ⟨-, found⟩ := Option.ite_none_right_eq_some.mp found
    cases found
    rfl
  case h_7 => exact tag_of_builtinAt? found
  all_goals
    obtain ⟨x, -, rfl⟩ := Option.map_eq_some_iff.mp found
    rfl

/-- Where an object is declared, an object is accepted, or nil. -/
theorem answers_checkObject (c : Context) (index : Int) (cls : String) {type : ArgType}
    (object : type.tag? = some .object) :
    Answers type.Takes (checkObject c index cls) := by
  refine .bind fun s => .ite (.pure (.inr ⟨object, rfl⟩)) ?_
  refine .bind fun w => .bind fun id => .bind fun answer => .bind fun _ => .bind fun r =>
    .ite (.pure (.inl fun tag declared => ?_)) (.bind fun _ => .throw _)
  rw [object] at declared
  exact Option.some.inj declared

/-- An argument that is accepted has the declared type. -/
theorem takes_of_checkArg {c : Context} {index : Int} {type : ArgType} {w : World} {v : Variant}
    (accepted : (checkArg c index type w).1 = .ok v) : type.Takes v := by
  have answers : Answers type.Takes (checkArg c index type) := by
    refine .bind fun w => ?_
    -- one case for each way to read an argument; only builtin types promise a tag
    split
    case h_1 => exact .demand _ _ fun _ _ => .inl fun _ h => (by cases h)
    case h_2 name =>
      refine .demand _ _ fun a found => .inl fun tag declared => ?_
      obtain ⟨x, -, rfl⟩ := Option.map_eq_some_iff.mp found
      exact Option.some.inj declared
    case h_3 cls => exact answers_checkObject c index cls rfl
    case h_4 => exact answers_checkObject c index _ rfl
    case h_5 t other =>
      refine .demand _ _ fun a found => .inl fun tag declared => ?_
      rw [tag_of_builtinArg? found]
      exact Option.some.inj declared
  exact answers w v accepted

/-- Arguments that are accepted have the declared types, one by one. -/
theorem takes_of_checked {w : World} {c : Context} {first : Int} {types : List ArgType}
    {args : List Variant} (checked : Checked w c first types args) :
    List.Forall₂ ArgType.Takes types args := by
  induction types generalizing first args with
  | nil =>
    rw [List.length_eq_zero_iff.mp checked.1]
    exact .nil
  | cons type rest ih =>
    cases args with
    | nil => cases checked.1
    | cons v vs =>
      obtain ⟨head, tail⟩ := checked_cons.mp checked
      exact .cons (takes_of_checkArg head) (ih tail)

/-! ## At most one request -/

/-- From `w` to `v` a host has been asked for one thing at most, of which something holds. -/
def Deals (P : Request → Prop) (host : Nat) (w v : World) : Prop :=
  v.dealings = w.dealings ∨ ∃ q, P q ∧ v.dealings = w.dealings ++ [(host, q)]

section Deals

variable {P : Request → Prop} {host : Nat} {w : World}

/-- Nothing has been dealt with. -/
theorem Deals.refl (w : World) : Deals P host w w := .inl rfl

/-- A weaker property holds of more requests. -/
theorem Deals.mono {Q : Request → Prop} {v : World} (deals : Deals P host w v)
    (h : ∀ q, P q → Q q) : Deals Q host w v :=
  deals.imp_right fun ⟨q, hq, dealt⟩ => ⟨q, h q hq, dealt⟩

/-- A discreet operation deals with nothing. -/
theorem Discreet.deals {α : Type} {act : ScriptM α} (h : Discreet act) (w : World) :
    Deals P host w (act w).2 :=
  .inl (h w).dealings

/-- An operation that performs one request deals with this one. -/
theorem Performs.deals {α : Type} {act : ScriptM α} {q : Request} (h : Performs act (host, q))
    (hq : P q) (w : World) : Deals P host w (act w).2 :=
  .inr ⟨q, hq, h w⟩

/-- A handler deals with what is due. -/
theorem Dispatches.deals {due : Request → List Variant → Nat → Prop}
    {ended : Except ScriptError Nat × World} (h : Dispatches due host w ended)
    (hp : ∀ q args k, due q args k → P q) : Deals P host w ended.2 := by
  rcases h with ⟨q, args, k, is_due, dealt, -⟩ | ⟨-, dealt, -⟩
  · exact .inr ⟨q, hp q args k is_due, dealt⟩
  · exact .inl dealt

end Deals

/-! ## Requests that are due -/

section Declared

variable {d : Document} {r : Registry} {w : World} {c : Context} {host : Host}

/-- A request of another kind than a method of an object needs no live object. -/
theorem covers_plain {q : Request} {t : Option ArgType} (promises : d.Promises q t)
    (plain : ∀ id cls name args, q ≠ .callObject id cls name args) : d.Covers r host q :=
  .declared promises fun id cls name args same => absurd same (plain id cls name args)

variable (built : Registry.ofApi d = .ok r)
include built

/-- The binding of a builtin type is made from an entry. -/
theorem exists_builtinEntry {b : Builtin} (mem : b ∈ r.builtins) :
    ∃ a ∈ d.builtins, Builtin.ofApi a = .ok b ∧ a.tag = .ok b.tag := by
  obtain ⟨a, ha, made⟩ := (Registry.mem_builtins_iff built).mp mem
  exact ⟨a, ha, made, (Builtin.of_ofApi made).2⟩

/-- A method of a value is described if the registry knows it. -/
theorem covers_call {receiver : Variant} {b : Builtin} {m : Method} {name : String}
    (type : r.builtin? receiver.tag.name = some b) (declared : b.method? name = some m)
    (nonstatic : m.flags.isStatic = false) (args : List Variant) :
    d.Covers r host (.call receiver m.name args) := by
  obtain ⟨a, ha, made, tag⟩ := exists_builtinEntry built (List.mem_of_find?_eq_some type)
  obtain ⟨e, he, resolved, -⟩ := (Builtin.method?_eq_some made).mp declared
  obtain ⟨name_eq, flags, -⟩ := Registry.Method.of_ofApi resolved
  rw [Registry.tag_of_builtin? built type] at tag
  rw [flags] at nonstatic
  rw [name_eq]
  exact covers_plain (.call ha tag he nonstatic) fun _ _ _ _ => nofun

/-- A static method is found by the type and the name that the function carries. -/
theorem covers_callStatic {b b' : Builtin} {m m' : Method} {key : String} (mem : b ∈ r.builtins)
    (static : staticMethod? b key = some m) (type : r.builtin? b.name = some b')
    (declared : b'.method? m.name = some m') (args : List Variant) :
    d.Covers r host (.callStatic b'.tag m'.name args) := by
  obtain ⟨a, ha, made, tag⟩ := exists_builtinEntry built mem
  -- the type is the one that the function was made for
  have same : b' = b := by
    have found := Registry.builtin?_tag built mem
    rw [((Registry.named_builtins built).1 b mem).tag] at found
    exact Option.some.inj (type.symm.trans found)
  subst same
  obtain ⟨found, isStatic⟩ := Option.filter_eq_some_iff.mp static
  obtain ⟨e, he, resolved, -⟩ := (Builtin.method?_eq_some made).mp found
  obtain ⟨name_eq, flags, -⟩ := Registry.Method.of_ofApi resolved
  have again : b'.method? m.name = some m :=
    (Builtin.method?_eq_some made).mpr ⟨e, he, resolved, by rw [name_eq]⟩
  cases again.symm.trans declared
  rw [flags] at isStatic
  rw [name_eq]
  exact covers_plain (.callStatic ha tag he isStatic) fun _ _ _ _ => nofun

/-- A constructor is described if the registry knows it, and its arguments have the declared types.
-/
theorem covers_construct {owner : String} {b : Builtin} {k : Registry.Constructor}
    (type : r.builtin? owner = some b) (mem : k ∈ b.constructors) {args : List Variant}
    (fits : Fits w c k args) : d.Covers r host (.construct b.tag k.index args) := by
  obtain ⟨a, ha, made, tag⟩ := exists_builtinEntry built (List.mem_of_find?_eq_some type)
  obtain ⟨e, he, index, arguments⟩ := (Builtin.made_of_ofApi made).constructors k mem
  have takes := takes_of_checked fits.2
  rw [arguments, List.forall₂_map_left_iff] at takes
  rw [index]
  exact covers_plain (.construct ha tag he takes) fun _ _ _ _ => nofun

/-- A declared constant is described. -/
theorem covers_constant {k : Constant} (known : w.registry c.registry = r)
    (declares : w.Declares c.registry k) : d.Covers r host (.constant k.type k.name) := by
  obtain ⟨stands, owner⟩ := declares
  obtain ⟨type, key, ref⟩ := ConstantRef.eq_declared owner
  unfold World.Stands at stands
  rw [ref] at stands
  dsimp only at stands
  rw [known] at stands
  obtain ⟨b, mem, -, b_tag, found⟩ := stands
  obtain ⟨a, ha, made, tag⟩ := exists_builtinEntry built mem
  obtain ⟨e, he, spelled⟩ := Builtin.exists_constant made found
  rw [b_tag] at tag
  rw [← spelled]
  exact covers_plain (.constant ha tag he) fun _ _ _ _ => nofun

/-- A member is asked for under the name that was given, which must not have the digest of another
one. -/
theorem covers_member {target : Variant} {b : Builtin} {key : String}
    (type : r.builtin? target.tag.name = some b) (found : (b.member? key).isSome)
    (apart : HashesApart (key :: d.memberNames)) : d.Covers r host (.member target key) := by
  obtain ⟨a, ha, made, tag⟩ := exists_builtinEntry built (List.mem_of_find?_eq_some type)
  obtain ⟨e, he, hash⟩ := Builtin.exists_member made found
  rw [Registry.tag_of_builtin? built type] at tag
  have listed : e.name ∈ d.memberNames :=
    List.mem_flatMap.mpr ⟨a, ha, List.mem_map_of_mem (f := fun m : Api.Member => m.name) he⟩
  have spelled : e.name = key :=
    apart _ (List.mem_cons_of_mem _ listed) _ List.mem_cons_self (TypeHash.member_inj.mp hash)
  rw [← spelled]
  exact covers_plain (.member ha tag he) fun _ _ _ _ => nofun

/-- A class that has instances is described. -/
theorem covers_instantiate {k : Registry.Class} (mem : k ∈ r.classes)
    (instantiable : k.isInstantiable = true) : d.Covers r host (.instantiate k.name) := by
  obtain ⟨e, he, made⟩ := (Registry.mem_classes_iff built).mp mem
  rw [Registry.Class.isInstantiable_of_ofApi made] at instantiable
  rw [(Registry.Class.of_ofApi made).1]
  exact covers_plain (.instantiate he instantiable) fun _ _ _ _ => nofun

/-- A method of an object is described for the class that declares it, and the object is of that
class or of one below. -/
theorem covers_callObject {id : ObjectId} {cls name : String} {owner : Registry.Class} {m : Method}
    (known : host.classes.classOf id = .ok cls) (nearest : Nearest (r.ancestors cls) name owner m)
    (args : List Variant) : d.Covers r host (.callObject id owner.name m.name args) := by
  obtain ⟨before, after, split, -, declared⟩ := nearest
  have mem : owner ∈ r.ancestors cls := split ▸ List.mem_append_right _ List.mem_cons_self
  have listed := Registry.mem_of_mem_ancestors mem
  obtain ⟨e, he, made⟩ := (Registry.mem_classes_iff built).mp listed
  obtain ⟨x, hx, resolved, -⟩ := (Registry.Class.method?_eq_some made).mp declared
  obtain ⟨o, alive, rfl⟩ := ClassDb.exists_object known
  have derives : r.isSubclass o.cls owner.name = true :=
    List.any_eq_true.mpr ⟨owner, mem, beq_iff_eq.mpr (Registry.hash_name built listed)⟩
  rw [(Registry.Class.of_ofApi made).1] at derives ⊢
  rw [(Registry.Method.of_ofApi resolved).1]
  refine .declared (.callObject he hx) fun id' cls' name' args' same => ?_
  cases same
  exact ⟨o, alive, derives⟩

end Declared

/-! ## Handlers -/

section Handlers

variable {P : Request → Prop} {w : World} {c : Context}

/-- To push a constant, at most the constant is fetched. -/
theorem deals_pushConstantAs (context : w.state.context = some c) (type : NativeType) {k : Constant}
    (hp : P (.constant k.type k.name)) :
    Deals P c.host w (pushConstantAs type k w).2 := by
  rw [run_pushConstantAs, context]
  cases w.knownOutcome? k.ref with
  | some o => exact (discreet_pushOutcome type k o).deals w
  | none =>
    refine .inr ⟨_, hp, ?_⟩
    rw [(discreet_pushOutcome type k _ _).dealings]
    exact dealings_push (w := w) (r := (c.host, .constant k.type k.name)) rfl

/-- To make a function is no dealing. -/
theorem discreet_pushHandler (name : String) (h : Handler) (upvalues : List Value) :
    Discreet (pushHandler name h upvalues) :=
  fun _ => ⟨rfl, rfl⟩

/-- The text of a value is asked for once. -/
theorem performs_text (host : Nat) (v : Variant) :
    Performs (do push (.string (← askText host v)); return 1 : ScriptM Nat)
      (host, .stringify v) :=
  (performs_ask host rfl _).bind fun _ => (Discreet.push _).bind fun _ => .pure 1

variable {d : Document} {r : Registry} (built : Registry.ofApi d = .ok r)
  (known : w.registry c.registry = r) (context : w.state.context = some c)
include built known context

/-- A name of a library is looked up. -/
theorem deals_builtinGlobalIndex :
    Deals (d.Covers r (w.host c.host)) c.host w (builtinGlobalIndex w).2 := by
  rw [run_builtinGlobalIndex, context]
  cases w.state.checkText 2 with
  | error e => exact .refl w
  | ok key =>
    dsimp only
    cases w.libraryType 1 with
    | none => exact .refl w
    | some type =>
      dsimp only
      rw [known]
      cases listed : r.builtin? type with
      | none => exact .refl w
      | some b =>
        dsimp only
        unfold pushLibraryEntry
        -- only a constant is asked of the host, and only one that the description declares
        cases declared : Constant.declared? c.registry b key with
        | some k =>
          have found : w.declared? c.registry type key = some k := by
            rw [World.declared?, known, listed]
            exact declared
          have declares := World.declares_of_declared? found
          exact deals_pushConstantAs context .variant (covers_constant built known declares)
        | none =>
          dsimp only
          cases b.enumValue? key with
          | some n => exact ((Discreet.push _).bind fun _ => .pure 1).deals w
          | none =>
            dsimp only
            cases staticMethod? b key with
            | some m => exact ((discreet_pushHandler _ _ _).bind fun _ => .pure 1).deals w
            | none => exact .refl w

/-- A member of a value is read, or a method is fetched. -/
theorem deals_builtinMemberIndex
    (apart : ∀ key, w.state.checkText 2 = .ok key → HashesApart (key :: d.memberNames)) :
    Deals (d.Covers r (w.host c.host)) c.host w (builtinMemberIndex w).2 := by
  rw [run_builtinMemberIndex, context]
  cases w.anyBuiltinAt? 1 with
  | none => exact .refl w
  | some target =>
    dsimp only
    cases given : w.state.checkText 2 with
    | error e => exact .refl w
    | ok key =>
      dsimp only
      rw [known]
      cases type : r.builtin? target.tag.name with
      | none => exact .refl w
      | some b =>
        dsimp only
        unfold pushEntry
        split
        -- only a member is asked of the host, under the name that the description has for it
        next found =>
          refine Performs.deals ?_ (covers_member built type found (apart key given)) w
          exact (performs_ask c.host rfl _).bind fun answer =>
            (Inquires.granted answer).discreet.bind fun v =>
              (Discreet.pushVariant v).bind fun _ => .pure 1
        next =>
          split
          · exact ((discreet_pushHandler _ _ _).bind fun _ => .pure 1).deals w
          · exact .refl w

/-- To call a method of a value, only what the document describes is asked for. -/
theorem deals_callBuiltinMethod (name : String) :
    Deals (d.Covers r (w.host c.host)) c.host w (callBuiltinMethod name w).2 := by
  refine (callBuiltinMethod_dispatch context name).deals fun q args k due => ?_
  obtain ⟨-, type, declared, nonstatic, -⟩ := due
  rw [known] at type
  exact covers_call built type declared nonstatic args

/-- What a handler asks a host for is one thing at most, and it is declared. -/
theorem handler_deals {h : Handler} (bound : h.Bound r w.state.upvalues)
    (apart : h = .builtinMemberIndex →
      ∀ key, w.state.checkText 2 = .ok key → HashesApart (key :: d.memberNames)) :
    Deals (d.Covers r (w.host c.host)) c.host w (h.run w).2 := by
  cases h with
  | builtinCtor =>
    -- the overload that is chosen is one of the type, and its arguments have been checked
    refine (builtinConstructor_dispatch context).deals fun q args k due => ?_
    cases due with
    | construct carries type chosen fits =>
      rw [known] at type
      obtain ⟨before, after, split, -, -⟩ := chosen
      exact covers_construct built type (split ▸ List.mem_append_right _ List.mem_cons_self) fits
  | builtinGlobalIndex => exact deals_builtinGlobalIndex built known context
  | builtinMemberIndex => exact deals_builtinMemberIndex built known context (apart rfl)
  | builtinNamecall =>
    show Deals _ _ _ (builtinNamecall w).2
    rw [run_builtinNamecall]
    cases w.state.namecall with
    | none => exact .refl w
    | some name => exact deals_callBuiltinMethod built known context name
  | builtinMethod =>
    show Deals _ _ _ (builtinMethod w).2
    rw [run_builtinMethod]
    cases upvalueText? w.state 1 with
    | none => exact .refl w
    | some name => exact deals_callBuiltinMethod built known context name
  | builtinStaticCall =>
    -- nothing but what the function carries says that the method is static
    obtain ⟨b, mem, key, m, static, upvalues⟩ := bound
    refine (builtinStaticCall_dispatch context).deals fun q args k due => ?_
    cases due with
    | static carries type declared accepts =>
      obtain ⟨first, second⟩ := carries
      unfold upvalueText? at first second
      rw [State.upvalue?_succ, upvalues] at first second
      cases first
      cases second
      rw [known] at type
      exact covers_callStatic built mem static type declared args
  | builtinText =>
    show Deals _ _ _ (builtinText w).2
    rw [run_builtinText, context]
    cases w.anyBuiltinAt? 1 with
    | none => exact .refl w
    | some v => exact (performs_text c.host v).deals (.text v) w
  | builtinEqual =>
    refine Discreet.deals (Discreet.get.bind fun w => ?_) w
    split <;> exact (Discreet.push _).bind fun _ => .pure 1
  | classCtor =>
    -- nor that the class has instances
    obtain ⟨k, mem, instantiable, upvalues⟩ := bound
    have carries : upvalueText? w.state 1 = some k.name := by
      unfold upvalueText?
      rw [State.upvalue?_succ, upvalues]
      rfl
    show Deals _ _ _ (classConstructor w).2
    rw [run_classConstructor, carries, context]
    refine Performs.deals ?_ (covers_instantiate built mem instantiable) w
    exact (performs_askClasses c.host rfl _).bind fun answer =>
      (Inquires.granted answer).discreet.bind fun id =>
        (Discreet.pushObject id).bind fun _ => .pure 1
  | classNoCtor =>
    show Deals _ _ _ (classRefusal w).2
    unfold classRefusal
    rw [run_bind, run_classUpvalue]
    cases upvalueText? w.state 1 <;> exact .refl w
  | classNamecall =>
    refine (classNamecall_dispatch context).deals fun q args k due => ?_
    cases due with
    | object called valid alive nearest accepts =>
      rw [known] at nearest
      exact covers_callObject built alive nearest args
  | objectText =>
    show Deals _ _ _ (objectText w).2
    rw [run_objectText, context]
    cases w.objectAt? 1 with
    | none => exact .refl w
    | some id => exact (performs_text c.host (.object id)).deals (.text _) w
  | objectEqual =>
    refine Discreet.deals (Discreet.get.bind fun w => ?_) w
    split <;> exact (Discreet.push _).bind fun _ => .pure 1

end Handlers

end ScriptM

end ScriptBind
