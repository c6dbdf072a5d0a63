/-
This file says when two values are the same but for the order of the keys of their tables.

A document is written in some order, and reading keeps that order. Nothing that a document
describes should depend on it, so this is the relation under which what is read from two
documents is compared. Items of arrays stay in their places, and how a table or an array was
made does not count.
-/

import Mathlib.Data.List.Forall2
import Prebuild.Proofs.Toml.DistinctKeys

namespace Prebuild.Toml

/-- Two values are the same, but for the order of the keys of tables at any depth. -/
inductive Value.Reordered : Value → Value → Prop
  | same (value : Value) : Reordered value value
  | array {origin origin' : Origin} {items others : List Value}
    (length : items.length = others.length)
    (each : ∀ (index : Nat) (item other : Value), items[index]? = some item →
      others[index]? = some other → Reordered item other) :
    Reordered (.array origin items) (.array origin' others)
  | table {origin origin' : Origin} {entries others : Entries}
    (keys : ∀ key, key ∈ entries.map Prod.fst ↔ key ∈ others.map Prod.fst)
    (each : ∀ key value other, entries.get? key = some value → others.get? key = some other →
      Reordered value other) :
    Reordered (.table origin entries) (.table origin' others)

namespace Value.Reordered

theorem symm {value other : Value} (reordered : Reordered value other) : Reordered other value := by
  induction reordered with
  | same value => exact .same value
  | array length each inductionHypothesis =>
    exact .array length.symm fun index item other found foundOther =>
      inductionHypothesis index other item foundOther found
  | table keys each inductionHypothesis =>
    exact .table (fun key => (keys key).symm) fun key value other found foundOther =>
      inductionHypothesis key other value foundOther found

/-- A table with the same entries in another order. -/
theorem of_perm {origin origin' : Origin} {entries others : Entries}
    (distinct : (entries.map Prod.fst).Nodup) (order : entries.Perm others) :
    Reordered (.table origin entries) (.table origin' others) := by
  have names := order.map Prod.fst
  refine .table (fun key => names.mem_iff) fun key value other found foundOther => ?_
  have member := order.mem_iff.mp (Entries.mem_of_get? found)
  rw [(Entries.get?_eq_some_iff_mem (names.nodup_iff.mp distinct)).mpr member] at foundOther
  rw [Option.some.inj foundOther]
  exact .same other

theorem forall₂ {origin origin' : Origin} {items others : List Value}
    (reordered : Reordered (.array origin items) (.array origin' others)) :
    List.Forall₂ Reordered items others := by
  cases reordered with
  | same => exact List.forall₂_same.mpr fun item _ => .same item
  | array length each =>
    refine List.forall₂_iff_get.mpr ⟨length, fun index below below' => ?_⟩
    exact each index _ _ (List.getElem?_eq_getElem below) (List.getElem?_eq_getElem below')

theorem mem_iff {origin origin' : Origin} {entries others : Entries}
    (reordered : Reordered (.table origin entries) (.table origin' others)) (key : Text) :
    key ∈ entries.map Prod.fst ↔ key ∈ others.map Prod.fst := by
  cases reordered with
  | same => exact Iff.rfl
  | table keys each => exact keys key

/-- A key that the one table has, the other has too, with a value that is the same but for
order. -/
theorem exists_get? {origin origin' : Origin} {entries others : Entries} {key : Text}
    {value : Value} (reordered : Reordered (.table origin entries) (.table origin' others))
    (found : entries.get? key = some value) :
    ∃ other, others.get? key = some other ∧ Reordered value other := by
  cases reordered with
  | same => exact ⟨value, found, .same value⟩
  | table keys each =>
    cases foundOther : others.get? key with
    | some other => exact ⟨other, rfl, each key value other found foundOther⟩
    | none =>
      have present : key ∈ entries.map Prod.fst :=
        List.mem_map.mpr ⟨_, Entries.mem_of_get? found, rfl⟩
      exact absurd ((keys key).mp present) (Entries.get?_eq_none_iff.mp foundOther)

end Value.Reordered

end Prebuild.Toml
