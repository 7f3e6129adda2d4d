import ScriptBind.Proofs.Registry.Hierarchy

/-!
# The hash domains are apart

The hash of an owned name is `(domain ^^^ owner) * separator + digest`, all modulo `2 ^ 64`. The
separator is odd, so the multiplication can be undone, and so can the other two steps: of domain,
owner and digest each is determined by the hash and the other two.

Main results:

* `TypeHash.owned_eq_iff` — one name under two owners, in whatever domains.
* `TypeHash.owned_domain_inj`, `TypeHash.owned_owner_inj` — the domain and the owner read back.
* `TypeHash.domains_separated` — methods, constants and members of one owner and name differ, and
  each of the three hashes tells apart owners, and names as far as their digests do.
-/

namespace ScriptBind.TypeHash

/-- The inverse of the separator modulo `2 ^ 64`. -/
def separatorInverse : UInt64 := 0xd3f20f0a40208825

theorem separator_mul_inverse : separator * separatorInverse = 1 := by decide

/-- The separator, being odd, can be cancelled. -/
theorem mul_separator_inj {a b : UInt64} : a * separator = b * separator ↔ a = b := by
  refine ⟨fun same => ?_, fun same => by rw [same]⟩
  have undone : a * separator * separatorInverse = b * separator * separatorInverse := by
    rw [same]
  simpa only [UInt64.mul_assoc, separator_mul_inverse, UInt64.mul_one] using undone

/-- One name has one hash under two owners exactly if domain and owner mix to the same number. -/
theorem owned_eq_iff {d d' : UInt64} {o o' : TypeHash} {n : String} :
    owned d o n = owned d' o' n ↔ d ^^^ o.value = d' ^^^ o'.value := by
  unfold owned
  rw [TypeHash.mk.injEq, UInt64.add_left_inj, mul_separator_inj]

theorem owned_domain_inj {d d' : UInt64} {o : TypeHash} {n : String} :
    owned d o n = owned d' o n ↔ d = d' := by
  rw [owned_eq_iff, UInt64.xor_left_inj]

theorem owned_owner_inj {d : UInt64} {o o' : TypeHash} {n : String} :
    owned d o n = owned d o' n ↔ o = o' := by
  rw [owned_eq_iff, UInt64.xor_right_inj, ← TypeHash.mk.injEq]

/-- A hash of owned names that tells apart owners, and names as far as their digests do. -/
structure Separates (hash : TypeHash → String → TypeHash) : Prop where
  owners : ∀ o o' n, hash o n = hash o' n ↔ o = o'
  names : ∀ o n n', hash o n = hash o n' ↔ Hash.digestText n = Hash.digestText n'

theorem separates_owned (domain : UInt64) : Separates (owned domain) where
  owners _ _ _ := owned_owner_inj
  names _ _ _ := owned_inj

/-- The three domains are three numbers. -/
theorem domains_nodup : [methodDomain, constantDomain, memberDomain].Nodup := by decide

/-- A method, a constant and a member that share a name on one owner have three hashes, and each
of the three hashes tells apart owners, and names as far as their digests do. -/
theorem domains_separated :
    (∀ o n, [method o n, constant o n, member o n].Nodup) ∧
      Separates method ∧ Separates constant ∧ Separates member := by
  refine ⟨fun o n => ?_, separates_owned _, separates_owned _, separates_owned _⟩
  -- in the domain alone the hash is injective, so the three domains' being apart is enough
  exact domains_nodup.map fun _ _ same => owned_domain_inj.mp same

end ScriptBind.TypeHash
