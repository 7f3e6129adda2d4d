import ScriptBind.Proofs.Session.Growth
import Mathlib.Logic.Relation

/-!
# Hosts over a run

A host keeps its engine, and nothing happens to its class database but that objects are created,
called and freed.

Main results:

* `Proceeds.host_known` — what becomes of a host.
-/

namespace ScriptBind

open Relation (ReflTransGen)

/-- What a host can become. -/
structure Host.Lives (h k : Host) : Prop where
  engine : k.engine = h.engine
  classes : ReflTransGen ClassDb.Step h.classes k.classes

namespace Host.Lives

theorem refl (h : Host) : h.Lives h := ⟨rfl, .refl⟩

theorem trans {h k l : Host} (first : h.Lives k) (second : k.Lives l) : h.Lives l :=
  ⟨second.engine.trans first.engine, first.classes.trans second.classes⟩

end Host.Lives

namespace World

theorem host_eq {w : World} {i : Nat} {h : Host} (known : w.hosts[i]? = some h) : w.host i = h := by
  rw [host, Array.getD_eq_getD_getElem?, known]
  rfl

theorem registry_eq {w : World} {i : Nat} {r : Registry} (known : w.registries[i]? = some r) :
    w.registry i = r := by
  rw [registry, Array.getD_eq_getD_getElem?, known]
  rfl

theorem hosts_setClasses {w : World} {i : Nat} {h : Host} (known : w.hosts[i]? = some h) (j : Nat)
    (db : ClassDb) :
    (w.setClasses j db).hosts[i]? = some (if j = i then { h with classes := db } else h) := by
  rw [setClasses, Array.getElem?_modify, known]
  split <;> rfl

theorem setClasses_self (w : World) (i : Nat) : w.setClasses i (w.host i).classes = w := by
  have same : (w.hosts.modify i fun h => { h with classes := (w.host i).classes }) = w.hosts := by
    refine Array.ext_getElem? fun j => ?_
    rw [Array.getElem?_modify]
    split
    next here =>
      subst here
      cases known : w.hosts[i]? with
      | none => rfl
      | some h =>
        rw [host_eq known]
        rfl
    next => rfl
  rw [setClasses, same]

theorem host_setClasses {w : World} {i : Nat} (known : i < w.hosts.size) (db : ClassDb) :
    ((w.setClasses i db).host i).classes = db := by
  have here : w.hosts[i]? = some w.hosts[i] := Array.getElem?_eq_getElem known
  have there := hosts_setClasses here i db
  rw [if_pos rfl] at there
  rw [host_eq there]

end World

theorem Evolves.host_known {w v : World} (evolves : Evolves w v) {i : Nat} {h : Host}
    (known : w.hosts[i]? = some h) : ∃ k, v.hosts[i]? = some k ∧ h.Lives k := by
  -- on the changes: only a request to a class database changes a host, and then as one request does
  induction evolves generalizing h with
  | trans _ _ ih ih' =>
    obtain ⟨k, hk, first⟩ := ih known
    obtain ⟨l, hl, second⟩ := ih' hk
    exact ⟨l, hl, first.trans second⟩
  | @newHost w other => exact ⟨h, getElem?_push_kept known other, .refl h⟩
  | @classes w j db step =>
    refine ⟨_, World.hosts_setClasses known j db, ?_⟩
    split
    next same =>
      subst same
      rw [World.host_eq known] at step
      exact ⟨rfl, .single step⟩
    next => exact .refl h
  | namecall _ ih => exact ih known
  | call _ _ _ _ ih => exact ih known
  | _ => exact ⟨h, known, .refl h⟩

/-- A host that is known once lives on. -/
theorem Proceeds.host_known {w v : World} (proceeds : Proceeds w v) {i : Nat} {h : Host}
    (known : w.hosts[i]? = some h) : ∃ k, v.hosts[i]? = some k ∧ h.Lives k := by
  induction proceeds generalizing h with
  | evolves evolves => exact evolves.host_known known
  | state _ _ => exact ⟨h, known, .refl h⟩
  | trans _ _ ih ih' =>
    obtain ⟨k, hk, first⟩ := ih known
    obtain ⟨l, hl, second⟩ := ih' hk
    exact ⟨l, hl, first.trans second⟩

end ScriptBind
