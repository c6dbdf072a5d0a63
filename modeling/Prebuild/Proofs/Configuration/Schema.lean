/-
This file proves what becomes of a record into which the entries of a table are read one after
the other.

The parts of the record are independent of one another: putting one in its place leaves the
others as they are, and a record is no more than its parts. So each part is what the table says
under its key, wherever the key stands, or what it was before, and the table is taken exactly if
each value can be and each key is one of the record's. The induction is on the entries, and what
carries it is that no key comes twice.
-/

import Mathlib.Data.List.Nodup
import Mathlib.Data.List.Pairwise
import Prebuild.Configuration.Decoder
import Prebuild.Proofs.Toml.KeyOrder

namespace Prebuild.Configuration

open Toml (Value Entries)

/-! ### Parts of a record -/

/-- A kind of part that settings are made of: how it is decoded, and what values stand for it.
The decoder succeeds exactly on values that stand for a part, and the order of keys decides
nothing. -/
structure Kind (Part : Type) where
  decoder : Decoder Part
  Means : Value → Part → Prop
  decodes : ∀ value part, value.HasDistinctKeys → (decoder value = .ok part ↔ Means value part)
  reordered : ∀ value other part, value.Reordered other → value.HasDistinctKeys →
    other.HasDistinctKeys → Means value part → Means other part

/-- A part of a record, with the key of its value in a table. -/
structure Slot (Record : Type) where
  Part : Type
  name : Text
  kind : Kind Part
  get : Record → Part
  put : Part → Record → Record
  get_put : ∀ part record, get (put part record) = part

/-- The slot as a field that a section is described by. -/
def Slot.field {Record : Type} (slot : Slot Record) : Field Record :=
  .of slot.name slot.kind.decoder slot.put

/-- Two slots are independent: putting a part into one leaves the other as it is. -/
def Slot.Independent {Record : Type} (first second : Slot Record) : Prop :=
  (∀ part record, first.get (second.put part record) = first.get record) ∧
    ∀ part record, second.get (first.put part record) = second.get record

instance (Record : Type) : Std.Symm (@Slot.Independent Record) := ⟨fun _ _ both => ⟨both.2, both.1⟩⟩

/-- The slots of a record, which are independent and make up the whole record. -/
structure Schema (Record : Type) where
  slots : List (Slot Record)
  distinct : (slots.map Slot.name).Nodup
  independent : slots.Pairwise Slot.Independent
  complete : ∀ first second, (∀ slot ∈ slots, slot.get first = slot.get second) → first = second

/-- A part is what the entries say under a key, or the default if they do not have the key. -/
def Overlaid {Part : Type} (entries : Entries) (key : Text) (means : Value → Part → Prop)
    (default part : Part) : Prop :=
  match entries.get? key with
  | some value => means value part
  | none => part = default

/-- The keys of the record. -/
def Schema.names {Record : Type} (schema : Schema Record) : List Text :=
  schema.slots.map Slot.name

/-- The record as the fields that a section is described by. -/
def Schema.fields {Record : Type} (schema : Schema Record) : List (Field Record) :=
  schema.slots.map Slot.field

/-- The entries describe a record that starts from another one: they have no keys but those of
the record, and each part is what they say under its key, or what it was. -/
structure Schema.Describes {Record : Type} (schema : Schema Record) (start : Record)
    (entries : Entries) (result : Record) : Prop where
  known : ∀ entry ∈ entries, entry.1 ∈ schema.names
  parts : ∀ slot ∈ schema.slots,
    Overlaid entries slot.name slot.kind.Means (slot.get start) (slot.get result)

section

variable {Part : Type} {entries : Entries} {key : Text} {means : Value → Part → Prop}
  {default part : Part}

theorem overlaid_iff_of_get? {value : Value} (found : entries.get? key = some value) :
    Overlaid entries key means default part ↔ means value part := by
  rw [Overlaid, found]

theorem overlaid_iff_of_absent (absent : entries.get? key = none) :
    Overlaid entries key means default part ↔ part = default := by
  rw [Overlaid, absent]

theorem overlaid_cons_self {value : Value} :
    Overlaid ((key, value) :: entries) key means default part ↔ means value part :=
  overlaid_iff_of_get? ((Entries.get?_cons _ _ _).trans (if_pos rfl))

theorem overlaid_cons_of_ne {entry : Text × Value} (differ : entry.1 ≠ key) :
    Overlaid (entry :: entries) key means default part ↔
      Overlaid entries key means default part := by
  rw [Overlaid, Overlaid, Entries.get?_cons, if_neg differ]

/-- What values mean matters only for the value that is there. -/
theorem overlaid_congr {others : Value → Part → Prop}
    (same : ∀ value, entries.get? key = some value → (means value part ↔ others value part)) :
    Overlaid entries key means default part ↔ Overlaid entries key others default part := by
  cases found : entries.get? key with
  | some value =>
    rw [overlaid_iff_of_get? found, overlaid_iff_of_get? found]
    exact same value found
  | none => rw [overlaid_iff_of_absent found, overlaid_iff_of_absent found]

end

theorem map_eq_ok_iff {Cause First Second : Type} {result : Except Cause First}
    {change : First → Second} {second : Second} :
    result.map change = .ok second ↔ ∃ first, result = .ok first ∧ change first = second := by
  cases result with
  | error cause =>
    constructor
    · intro impossible
      cases impossible
    · rintro ⟨first, impossible, -⟩
      cases impossible
  | ok first =>
    constructor
    · intro same
      exact ⟨first, rfl, Except.ok.inj same⟩
    · rintro ⟨other, same, rfl⟩
      rw [Except.ok.inj same]
      rfl

theorem bind_eq_ok_iff {Cause First Second : Type} {result : Except Cause First}
    {next : First → Except Cause Second} {second : Second} :
    (result >>= next) = .ok second ↔ ∃ first, result = .ok first ∧ next first = .ok second := by
  cases result with
  | error cause =>
    constructor
    · intro impossible
      cases impossible
    · rintro ⟨first, impossible, -⟩
      cases impossible
  | ok first =>
    constructor
    · intro further
      exact ⟨first, rfl, further⟩
    · rintro ⟨other, same, further⟩
      rw [Except.ok.inj same]
      exact further

/-! ### Taking the entries of a table -/

namespace Schema

variable {Record : Type} {schema : Schema Record}

theorem eq_of_name_eq {slot other : Slot Record} (member : slot ∈ schema.slots)
    (member' : other ∈ schema.slots) (same : slot.name = other.name) : slot = other :=
  List.inj_on_of_nodup_map schema.distinct member member' same

theorem get_put_of_ne {slot other : Slot Record} (member : slot ∈ schema.slots)
    (member' : other ∈ schema.slots) (differ : slot.name ≠ other.name) (part : other.Part)
    (record : Record) : slot.get (other.put part record) = slot.get record :=
  (schema.independent.forall member member' fun same => differ (congrArg Slot.name same)).1
    part record

/-- How entries are taken: the value of a slot's key is decoded and put in its place; an entry
with another key is passed over or refused. -/
structure Takes (schema : Schema Record) (passes : Prop)
    (take : Record → Text × Value → Except Mismatch Record) : Prop where
  own : ∀ slot ∈ schema.slots, ∀ value record, take record (slot.name, value) =
    (slot.kind.decoder value).map fun part => slot.put part record
  other : ∀ name, name ∉ schema.names → ∀ value record changed,
    take record (name, value) = .ok changed ↔ passes ∧ changed = record

theorem find?_fields {slot : Slot Record} (member : slot ∈ schema.slots) :
    schema.fields.find? (fun field => field.name == slot.name) = some slot.field := by
  have inside : slot.field ∈ schema.fields := List.mem_map.mpr ⟨slot, member, rfl⟩
  cases found : schema.fields.find? fun field => field.name == slot.name with
  | none =>
    have refused := List.find?_eq_none.mp found slot.field inside
    exact absurd (beq_iff_eq.mpr rfl) refused
  | some field =>
    obtain ⟨other, member', rfl⟩ := List.mem_map.mp (List.mem_of_find?_eq_some found)
    have same : other.field.name = slot.name := by simpa using List.find?_some found
    rw [schema.eq_of_name_eq member' member same]

/-- Sections refuse keys that they do not have. -/
theorem takes_takeEntry (schema : Schema Record) :
    schema.Takes False (takeEntry schema.fields) := by
  constructor
  · intro slot member value record
    rw [takeEntry, find?_fields member]
    rfl
  · intro name unknown value record changed
    have absent : schema.fields.find? (fun field => field.name == name) = none := by
      refine List.find?_eq_none.mpr fun field inside => ?_
      obtain ⟨slot, member, rfl⟩ := List.mem_map.mp inside
      exact fun same => unknown (List.mem_map.mpr ⟨slot, member, beq_iff_eq.mp same⟩)
    rw [takeEntry, absent, false_and, iff_false]
    intro impossible
    cases impossible

/-- An entry decides its own slot, where no later entry does, and no other slot. -/
theorem overlaid_put_iff {own slot : Slot Record} (member : own ∈ schema.slots)
    (inside : slot ∈ schema.slots) {rest : Entries} (absent : rest.get? own.name = none)
    {value : Value} (keys : value.HasDistinctKeys) {part : own.Part}
    (decoded : own.kind.decoder value = .ok part) {start result : Record} :
    Overlaid rest slot.name slot.kind.Means (slot.get (own.put part start)) (slot.get result) ↔
      Overlaid ((own.name, value) :: rest) slot.name slot.kind.Means (slot.get start)
        (slot.get result) := by
  by_cases same : slot.name = own.name
  · obtain rfl := schema.eq_of_name_eq inside member same
    rw [overlaid_iff_of_absent absent, overlaid_cons_self, slot.get_put,
      ← slot.kind.decodes value _ keys, decoded, Except.ok.injEq, eq_comm]
  · rw [overlaid_cons_of_ne fun equal => same equal.symm,
      get_put_of_ne inside member same part start]

variable {passes : Prop} {take : Record → Text × Value → Except Mismatch Record}
  {entries others : Entries} {start result : Record}

/-- What the record has become, where all keys differ: each part is what the entries say under
its key or what it was, and there are no other keys unless they are passed over. -/
theorem Takes.foldlM_eq_ok_iff (takes : schema.Takes passes take)
    (keys : entries.HaveDistinctKeys) :
    entries.foldlM take start = .ok result ↔
      (∀ entry ∈ entries, passes ∨ entry.1 ∈ schema.names) ∧
        ∀ slot ∈ schema.slots,
          Overlaid entries slot.name slot.kind.Means (slot.get start) (slot.get result) := by
  induction entries generalizing start with
  | nil =>
    constructor
    · intro same
      obtain rfl := Except.ok.inj same
      exact ⟨List.forall_mem_nil _, fun slot _ => rfl⟩
    · rintro ⟨-, kept⟩
      exact congrArg Except.ok (schema.complete start result fun slot member =>
        (kept slot member).symm)
  | cons entry rest inductionHypothesis =>
    obtain ⟨name, value⟩ := entry
    obtain ⟨fresh, distinct⟩ := List.nodup_cons.mp keys.distinct
    obtain ⟨keysHere, keysRest⟩ := List.forall_mem_cons.mp keys.each
    have further {start : Record} := @inductionHypothesis start ⟨distinct, keysRest⟩
    rw [List.foldlM_cons, bind_eq_ok_iff, List.forall_mem_cons]
    by_cases known : name ∈ schema.names
    · obtain ⟨own, member, rfl⟩ := List.mem_map.mp known
      have absent : Entries.get? rest own.name = none := Entries.get?_eq_none_iff.mpr fresh
      simp only [takes.own own member, map_eq_ok_iff]
      constructor
      · rintro ⟨changed, ⟨part, decoded, rfl⟩, taken⟩
        obtain ⟨others, kept⟩ := further.mp taken
        exact ⟨⟨.inr known, others⟩, fun slot inside =>
          (overlaid_put_iff member inside absent keysHere decoded).mp (kept slot inside)⟩
      · rintro ⟨⟨-, others⟩, kept⟩
        have decoded := (own.kind.decodes value _ keysHere).mpr
          (overlaid_cons_self.mp (kept own member))
        exact ⟨_, ⟨_, decoded, rfl⟩, further.mpr ⟨others, fun slot inside =>
          (overlaid_put_iff member inside absent keysHere decoded).mpr (kept slot inside)⟩⟩
    · have elsewhere (slot : Slot Record) (inside : slot ∈ schema.slots) : name ≠ slot.name :=
        fun same => known (same ▸ List.mem_map.mpr ⟨slot, inside, rfl⟩)
      simp only [takes.other name known]
      constructor
      · rintro ⟨changed, ⟨passed, rfl⟩, taken⟩
        obtain ⟨others, kept⟩ := further.mp taken
        exact ⟨⟨.inl passed, others⟩, fun slot inside =>
          (overlaid_cons_of_ne (elsewhere slot inside)).mpr (kept slot inside)⟩
      · rintro ⟨⟨passed, others⟩, kept⟩
        exact ⟨start, ⟨passed.resolve_right known, rfl⟩, further.mpr ⟨others, fun slot inside =>
          (overlaid_cons_of_ne (elsewhere slot inside)).mp (kept slot inside)⟩⟩

/-- A section is taken to the record that its entries describe. -/
theorem foldlM_takeEntry_eq_ok_iff (keys : entries.HaveDistinctKeys) :
    entries.foldlM (takeEntry schema.fields) start = .ok result ↔
      schema.Describes start entries result := by
  rw [schema.takes_takeEntry.foldlM_eq_ok_iff keys]
  simp only [false_or]
  exact ⟨fun both => ⟨both.1, both.2⟩, fun describes => ⟨describes.known, describes.parts⟩⟩

/-- What the entries describe has each part that they have a value for. -/
theorem Describes.means (describes : schema.Describes start entries result) {slot : Slot Record}
    (member : slot ∈ schema.slots) {value : Value} (found : entries.get? slot.name = some value) :
    slot.kind.Means value (slot.get result) :=
  (overlaid_iff_of_get? found).mp (describes.parts slot member)

/-! ### The order of keys -/

/-- What entries describe, they describe in any order of keys. -/
theorem Describes.of_reordered {origin origin' : Toml.Origin}
    (describes : schema.Describes start entries result)
    (reordered : (Value.table origin entries).Reordered (.table origin' others))
    (keys : entries.HaveDistinctKeys) (keys' : others.HaveDistinctKeys) :
    schema.Describes start others result := by
  constructor
  · intro entry member
    have present := (reordered.mem_iff entry.1).mpr (List.mem_map.mpr ⟨entry, member, rfl⟩)
    obtain ⟨same, inside, equal⟩ := List.mem_map.mp present
    rw [← equal]
    exact describes.known same inside
  · intro slot member
    cases found : entries.get? slot.name with
    | some value =>
      obtain ⟨other, foundOther, alike⟩ := reordered.exists_get? found
      rw [overlaid_iff_of_get? foundOther]
      exact slot.kind.reordered value other _ alike (keys.get? found) (keys'.get? foundOther)
        (describes.means member found)
    | none =>
      have before := describes.parts slot member
      have absent : others.get? slot.name = none := Entries.get?_eq_none_iff.mpr fun present =>
        Entries.get?_eq_none_iff.mp found ((reordered.mem_iff slot.name).mpr present)
      rw [overlaid_iff_of_absent found] at before
      rwa [overlaid_iff_of_absent absent]

end Schema

end Prebuild.Configuration
