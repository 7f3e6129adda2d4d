import ScriptBind.Proofs.Session.Evolution
import ScriptBind.Session.Basic

/-!
# What setting up a state comes to

A setup reads its description, makes its host known and then its registry, and enters a new state in
which it opens the libraries. It can fail at each of these, and what has been made known by then is
known from then on. `setUp_cases` lists the three things that it can come to, so that what all setups
keep needs no look into the steps.

Main results:

* `World.withRuntime_eq_ok` — a state with bindings is a new one in which libraries have been opened.
* `planned_enlists` — a plan is met with one registry more at most.
* `setUp_cases` — the description is refused, the setup fails later, or it enters a state.
-/

namespace ScriptBind

open ScriptM

namespace World

variable {w v : World}

/-- The world with a new state that works with a host and a registry. -/
def withContext (w : World) (host registry : Nat) : World :=
  { w.withNewState with state := { w.withNewState.state with context := some ⟨host, registry⟩ } }

theorem withRuntime_eq_ok {setup : Setup} {host i : Nat} :
    w.withRuntime setup host i = .ok v ↔
      openLibraries setup (w.withContext host i) = (.ok (), v) := by
  unfold withRuntime
  dsimp only
  split
  next u ended =>
    rw [show openLibraries setup (w.withContext host i) = _ from ended]
    exact ⟨fun h => (by cases h; rfl), fun h => (by cases h; rfl)⟩
  next e u ended =>
    rw [show openLibraries setup (w.withContext host i) = _ from ended]
    exact ⟨fun h => (by cases h), fun h => (by cases h)⟩

/-- `w.Enlists v`: in `v` one more registry is known, or none. -/
inductive Enlists (w : World) : World → Prop
  | known : Enlists w w
  | added {d : Api.Document} {r : Registry} (accepted : Registry.ofApi d = .ok r) :
      Enlists w { w with registries := w.registries.push r }

theorem Enlists.evolves (h : w.Enlists v) : Evolves w v := by
  cases h with
  | known => exact .refl w
  | added accepted => exact .newRegistry w accepted

/-- Nothing else is new. -/
theorem Enlists.exists_registries (h : w.Enlists v) : ∃ registries, v = { w with registries } := by
  cases h with
  | known => exact ⟨_, rfl⟩
  | added accepted => exact ⟨_, rfl⟩

end World

/-- The world in which the host of a setup is known. -/
def Setup.hosted (setup : Setup) (w : World) : World :=
  match setup.host with
  | none => w
  | some source => (w.adoptHost source).2

theorem Setup.evolves_hosted (setup : Setup) (w : World) : Evolves w (setup.hosted w) := by
  unfold hosted
  split
  · exact .refl w
  · exact Evolving.evolves_adoptHost w _

theorem Setup.tables_hosted (setup : Setup) (w : World) : (setup.hosted w).tables = w.tables := by
  unfold hosted
  split
  · rfl
  next source _ => cases source <;> rfl

namespace Session

/-- The plan of a registry is a known one or made from a description. -/
def Built : Option RegistryPlan → Prop
  | some (.own (.inr r)) => ∃ d, Registry.ofApi d = .ok r
  | _ => True

theorem built_registryPlan {setup : Setup} {plan : Option RegistryPlan}
    (h : registryPlan setup = .ok plan) : Built plan := by
  unfold registryPlan at h
  split at h
  · cases h
    trivial
  · cases h
    trivial
  next source _ _ =>
    split at h
    · split at h
      · obtain ⟨d, -, h⟩ := Registry.bind_eq_ok.mp h
        cases h
        trivial
      · cases h
        trivial
    · obtain ⟨api, loaded, h⟩ := Registry.bind_eq_ok.mp h
      cases h
      cases api with
      | inl i => trivial
      | inr r => exact Evolving.built_of_load loaded

theorem planned_enlists {s : Session} {w v : World} {plan : Option RegistryPlan} {i : Nat}
    {shared : List (UInt64 × Nat)} (built : Built plan)
    (h : s.planned w plan = .ok (i, v, shared)) : w.Enlists v := by
  unfold planned at h
  split at h
  · cases h
  next api =>
    cases h
    cases api with
    | inl i => exact .known
    | inr r =>
      obtain ⟨d, accepted⟩ := built
      exact .added accepted
  next d =>
    unfold sharedRegistry at h
    split at h
    · cases h
      exact .known
    · split at h
      · cases h
      next r accepted =>
        cases h
        exact .added accepted

theorem build_eq_ok {s t : Session} {w : World} {setup : Setup} {host : Option Nat}
    {plan : Option RegistryPlan} {reply : Reply}
    (h : s.build w setup host plan = .ok (reply, t)) :
    ∃ k i v x shared, s.planned w plan = .ok (i, v, shared) ∧ v.withRuntime setup k i = .ok x ∧
      reply = x.runtimeReply i ∧ t = { s.enter x with shared } := by
  unfold Session.build at h
  split at h
  · cases h
  next k =>
    obtain ⟨⟨i, v, shared⟩, planned, h⟩ := Registry.bind_eq_ok.mp h
    obtain ⟨x, ready, h⟩ := Registry.bind_eq_ok.mp h
    cases h
    exact ⟨k, i, v, x, shared, planned, ready, rfl, rfl⟩

/-- A description that cannot be read leaves the session as it is, and a setup that fails later
leaves its host. All that succeed enter a new state, once the host and the registry are known. -/
theorem setUp_cases (s : Session) (setup : Setup) :
    (∃ e, s.setUp setup = (.error (.api e), s)) ∨
    (∃ e, s.setUp setup = (.error (.setup e), { s with world := setup.hosted s.world })) ∨
    ∃ host i v x shared, (setup.hosted s.world).Enlists v ∧ v.withRuntime setup host i = .ok x ∧
      s.setUp setup = (.ok (x.runtimeReply i), { s.enter x with shared }) := by
  cases read : registryPlan setup with
  | error e =>
    refine .inl ⟨e, ?_⟩
    rw [Session.setUp, read]
  | ok plan =>
    -- the host is made known before anything can fail
    obtain ⟨host, refused, entered⟩ : ∃ host,
        (∀ e, s.build (setup.hosted s.world) setup host plan = .error e →
          s.setUp setup = (.error (.setup e), { s with world := setup.hosted s.world })) ∧
        ∀ reply t, s.build (setup.hosted s.world) setup host plan = .ok (reply, t) →
          s.setUp setup = (.ok reply, t) := by
      rw [Session.setUp, read, Setup.hosted]
      cases setup.host with
      | none => exact ⟨none, fun e h => by simp only [h], fun reply t h => by simp only [h]⟩
      | some source =>
        exact ⟨some (s.world.adoptHost source).1, fun e h => by simp only [h],
          fun reply t h => by simp only [h]⟩
    cases made : s.build (setup.hosted s.world) setup host plan with
    | error e => exact .inr (.inl ⟨e, refused e made⟩)
    | ok ended =>
      obtain ⟨reply, t⟩ := ended
      have ended := entered reply t made
      obtain ⟨k, i, v, x, shared, planned, ready, rfl, rfl⟩ := build_eq_ok made
      exact .inr (.inr ⟨k, i, v, x, shared, planned_enlists (built_registryPlan read) planned,
        ready, ended⟩)

end Session

end ScriptBind
