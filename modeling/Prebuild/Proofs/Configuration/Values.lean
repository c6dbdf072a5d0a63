/-
This file gives the kinds of parts that settings are made of: texts, paths, counts, policies,
flag rules, and lists of these.

Each has a relation that says, apart from the decoder, which values stand for a part. The decoder
is proved to succeed exactly on these, with that part. A flag rule is read from a table, key by
key, so there it matters that no key comes twice; and what a value stands for never depends on
the order in which its tables have their keys.
-/

import Prebuild.Proofs.Configuration.Schema

namespace Prebuild.Configuration

open Toml (Value Entries Origin)

/-! ### What values stand for -/

/-- A text is written as a string. -/
def IsText (value : Value) (part : Text) : Prop := value = .string part

/-- A path is written as a string, whose bytes are those of the path. -/
def IsPath (value : Value) (part : Path) : Prop :=
  ∃ text, value = .string text ∧ part = .ofText text

/-- A count of 32 bits is written as a whole number. -/
def IsCount (value : Value) (part : UInt32) : Prop := value = .integer part.toNat

/-- A list is written as an array, item by item and in the same order. -/
def IsListOf {Part : Type} (means : Value → Part → Prop) (value : Value) (parts : List Part) :
    Prop :=
  ∃ origin items, value = .array origin items ∧ List.Forall₂ means items parts

/-- The name of a policy. -/
def policyName : Policy → Text
  | .warn => "warn"
  | .abort => "abort"

/-- A value that holds nothing. -/
inductive HoldsNothing : Value → Prop
  | array (origin : Origin) : HoldsNothing (.array origin [])
  | table (origin : Origin) : HoldsNothing (.table origin [])

/-- A policy is written as its name, or as a table in which the name is the only key and has an
empty value. -/
inductive IsPolicy : Value → Policy → Prop
  | name (policy : Policy) : IsPolicy (.string (policyName policy)) policy
  | table (origin : Origin) (policy : Policy) (value : Value) (empty : HoldsNothing value) :
    IsPolicy (.table origin [(policyName policy, value)]) policy

/-- A flag rule is written as a table that has a marker and assignments, or as an array that
begins with the two. -/
inductive IsRule : Value → FlagRule → Prop
  | table {origin : Origin} {entries : Entries} {marker assignments : Value} {rule : FlagRule}
    (foundMarker : entries.get? "marker" = some marker) (isMarker : IsText marker rule.marker)
    (foundAssignments : entries.get? "assignments" = some assignments)
    (areAssignments : IsListOf IsText assignments rule.assignments) :
    IsRule (.table origin entries) rule
  | array {origin : Origin} {marker assignments : Value} {others : List Value} {rule : FlagRule}
    (isMarker : IsText marker rule.marker)
    (areAssignments : IsListOf IsText assignments rule.assignments) :
    IsRule (.array origin (marker :: assignments :: others)) rule

/-! ### Decoders read what values stand for -/

theorem text_eq_ok_iff {value : Value} {part : Text} :
    text value = .ok part ↔ IsText value part := by
  cases value <;> simp [text, IsText, wrongKind]

theorem path_eq_ok_iff {value : Value} {part : Path} :
    path value = .ok part ↔ IsPath value part := by
  cases value <;> simp [path, IsPath, wrongKind, eq_comm]

theorem count_eq_ok_iff {value : Value} {part : UInt32} :
    count value = .ok part ↔ IsCount value part := by
  have bound := part.toNat_lt
  cases value with
  | integer number =>
    rw [count, IsCount, Value.integer.injEq]
    by_cases inside : 0 ≤ number ∧ number < 4294967296
    · rw [if_pos inside, Except.ok.injEq, ← UInt32.toNat_inj,
        UInt32.toNat_ofNat_of_lt' (by rw [UInt32.size]; omega)]
      omega
    · rw [if_neg inside]
      constructor
      · intro impossible
        cases impossible
      · intro same
        exact absurd (by omega) inside
  | _ => simp [count, IsCount, wrongKind]

/-- Texts. -/
def Kind.text : Kind Text where
  decoder := Configuration.text
  Means := IsText
  decodes _ _ _ := text_eq_ok_iff
  reordered := by
    rintro value other part reordered - - rfl
    cases reordered
    rfl

/-- Paths. -/
def Kind.path : Kind Path where
  decoder := Configuration.path
  Means := IsPath
  decodes _ _ _ := path_eq_ok_iff
  reordered := by
    rintro value other part reordered - - ⟨text, rfl, rfl⟩
    cases reordered
    exact ⟨text, rfl, rfl⟩

/-- Counts of 32 bits. -/
def Kind.count : Kind UInt32 where
  decoder := Configuration.count
  Means := IsCount
  decodes _ _ _ := count_eq_ok_iff
  reordered := by
    rintro value other part reordered - - rfl
    cases reordered
    rfl

/-! ### Lists -/

theorem mapM_eq_ok_iff {Part : Type} {decoder : Decoder Part} {items : List Value}
    {parts : List Part} :
    items.mapM decoder = .ok parts ↔
      List.Forall₂ (fun item part => decoder item = .ok part) items parts := by
  induction items generalizing parts with
  | nil =>
    rw [List.mapM_nil, List.forall₂_nil_left_iff]
    exact ⟨fun same => (Except.ok.inj same).symm, fun same => same ▸ rfl⟩
  | cons item rest inductionHypothesis =>
    rw [List.mapM_cons, bind_eq_ok_iff, List.forall₂_cons_left_iff]
    constructor
    · rintro ⟨part, decoded, further⟩
      obtain ⟨others, decodedOthers, same⟩ := bind_eq_ok_iff.mp further
      exact ⟨part, others, decoded, inductionHypothesis.mp decodedOthers,
        (Except.ok.inj same).symm⟩
    · rintro ⟨part, others, decoded, decodedOthers, rfl⟩
      exact ⟨part, decoded, bind_eq_ok_iff.mpr ⟨others, inductionHypothesis.mpr decodedOthers, rfl⟩⟩

section

variable {Part : Type} {kind : Kind Part} {items others : List Value} {parts : List Part}

theorem forall₂_decodes (keys : ∀ item ∈ items, item.HasDistinctKeys) :
    List.Forall₂ (fun item part => kind.decoder item = .ok part) items parts ↔
      List.Forall₂ kind.Means items parts := by
  constructor
  · intro decoded
    exact ((List.forall₂_and_left _ _).mpr ⟨keys, decoded⟩).imp fun item part both =>
      (kind.decodes item part both.1).mp both.2
  · intro means
    exact ((List.forall₂_and_left _ _).mpr ⟨keys, means⟩).imp fun item part both =>
      (kind.decodes item part both.1).mpr both.2

theorem forall₂_of_reordered (reordered : List.Forall₂ Value.Reordered items others)
    (keys : ∀ item ∈ items, item.HasDistinctKeys) (keys' : ∀ item ∈ others, item.HasDistinctKeys)
    (means : List.Forall₂ kind.Means items parts) : List.Forall₂ kind.Means others parts := by
  induction reordered generalizing parts with
  | nil =>
    obtain rfl := List.forall₂_nil_left_iff.mp means
    exact .nil
  | cons here further inductionHypothesis =>
    obtain ⟨part, rest, first, second, rfl⟩ := List.forall₂_cons_left_iff.mp means
    obtain ⟨keysHere, keysFurther⟩ := List.forall_mem_cons.mp keys
    obtain ⟨keysHere', keysFurther'⟩ := List.forall_mem_cons.mp keys'
    exact .cons (kind.reordered _ _ part here keysHere keysHere' first)
      (inductionHypothesis keysFurther keysFurther' second)

end

/-- A list is decoded to what its items stand for, in order. -/
theorem listOf_eq_ok_iff {Part : Type} (kind : Kind Part) {value : Value} {parts : List Part}
    (keys : value.HasDistinctKeys) :
    listOf kind.decoder value = .ok parts ↔ IsListOf kind.Means value parts := by
  cases value with
  | array origin items =>
    rw [listOf, mapM_eq_ok_iff, forall₂_decodes (Toml.hasDistinctKeys_array_iff.mp keys)]
    constructor
    · intro means
      exact ⟨origin, items, rfl, means⟩
    · rintro ⟨origin', items', same, means⟩
      obtain ⟨rfl, rfl⟩ := Value.array.inj same
      exact means
  | _ =>
    constructor
    · intro impossible
      cases impossible
    · rintro ⟨_, _, impossible, -⟩
      cases impossible

/-- Each item of a list stands for a part. -/
theorem IsListOf.exists_of_mem {Part : Type} {means : Value → Part → Prop} {origin : Origin}
    {items : List Value} {parts : List Part} (areParts : IsListOf means (.array origin items) parts)
    {item : Value} (member : item ∈ items) : ∃ part, means item part := by
  obtain ⟨_, _, same, related⟩ := areParts
  cases same
  induction related with
  | nil => exact absurd member List.not_mem_nil
  | @cons first part _ _ here _ inductionHypothesis =>
    rcases List.mem_cons.mp member with rfl | further
    · exact ⟨part, here⟩
    · exact inductionHypothesis further

/-- Lists of parts of one kind. -/
def Kind.listOf {Part : Type} (kind : Kind Part) : Kind (List Part) where
  decoder := Configuration.listOf kind.decoder
  Means := IsListOf kind.Means
  decodes _ _ := listOf_eq_ok_iff kind
  reordered := by
    rintro value other parts reordered keys keys' ⟨origin, items, rfl, means⟩
    have alike := reordered
    cases reordered with
    | same => exact ⟨origin, items, rfl, means⟩
    | @array _ origin' _ others =>
      exact ⟨origin', others, rfl, forall₂_of_reordered alike.forall₂
        (Toml.hasDistinctKeys_array_iff.mp keys) (Toml.hasDistinctKeys_array_iff.mp keys') means⟩

/-! ### Policies -/

theorem policyNamed_eq_ok_iff {name : Text} {part : Policy} :
    policyNamed name = .ok part ↔ name = policyName part := by
  unfold policyNamed
  split
  · rename_i same
    cases part <;> simp [policyName, same]
  · rename_i notWarn
    split
    · rename_i same
      cases part <;> simp [policyName, same]
    · rename_i notAbort
      cases part with
      | warn => exact iff_of_false (by simp) notWarn
      | abort => exact iff_of_false (by simp) notAbort

theorem emptyChoice_eq_ok_iff {value : Value} :
    emptyChoice value = .ok () ↔ HoldsNothing value := by
  constructor
  · intro taken
    cases value with
    | array origin items =>
      cases items with
      | nil => exact .array origin
      | cons item rest => cases origin <;> cases taken
    | table origin entries =>
      cases entries with
      | nil => exact .table origin
      | cons entry rest => cases taken
    | _ => cases taken
  · rintro (origin | origin)
    · cases origin <;> rfl
    · rfl

theorem policy_eq_ok_iff {value : Value} {part : Policy} :
    policy value = .ok part ↔ IsPolicy value part := by
  constructor
  · intro taken
    unfold policy at taken
    split at taken
    · rw [policyNamed_eq_ok_iff.mp taken]
      exact .name part
    · cases taken
    · rename_i origin name value
      obtain ⟨named, isNamed, further⟩ := bind_eq_ok_iff.mp taken
      obtain ⟨_, empty, same⟩ := bind_eq_ok_iff.mp further
      obtain rfl := Except.ok.inj same
      rw [policyNamed_eq_ok_iff.mp isNamed]
      exact .table origin named value (emptyChoice_eq_ok_iff.mp empty)
    · cases taken
    · cases taken
  · intro means
    cases means with
    | name => exact policyNamed_eq_ok_iff.mpr rfl
    | table origin _ value empty =>
      refine bind_eq_ok_iff.mpr ⟨part, policyNamed_eq_ok_iff.mpr rfl, ?_⟩
      exact bind_eq_ok_iff.mpr ⟨(), emptyChoice_eq_ok_iff.mpr empty, rfl⟩

theorem HoldsNothing.of_reordered {value other : Value} (nothing : HoldsNothing value)
    (reordered : value.Reordered other) : HoldsNothing other := by
  cases reordered with
  | same => exact nothing
  | array length =>
    cases nothing
    rw [List.eq_nil_of_length_eq_zero length.symm]
    exact .array _
  | @table _ origin' _ others keys =>
    cases nothing
    cases others with
    | nil => exact .table origin'
    | cons entry rest => exact absurd ((keys entry.1).mpr List.mem_cons_self) List.not_mem_nil

/-- Where keys differ, a table whose only key is the given one has one entry. -/
theorem exists_eq_singleton {entries : Entries} {name : Text}
    (distinct : (entries.map Prod.fst).Nodup)
    (only : ∀ key, key = name ↔ key ∈ entries.map Prod.fst) :
    ∃ value, entries = [(name, value)] := by
  have names : (entries.map Prod.fst).Perm [name] := by
    refine (List.perm_ext_iff_of_nodup distinct (List.nodup_singleton name)).mpr fun key => ?_
    rw [← only, List.mem_singleton]
  obtain ⟨⟨key, value⟩, same⟩ := List.length_eq_one_iff.mp
    ((List.length_map Prod.fst).symm.trans names.length_eq)
  subst same
  obtain rfl : key = name := (only key).mpr List.mem_cons_self
  exact ⟨value, rfl⟩

theorem IsPolicy.of_reordered {value other : Value} {part : Policy} (means : IsPolicy value part)
    (reordered : value.Reordered other) (keys : other.HasDistinctKeys) : IsPolicy other part := by
  cases means with
  | name =>
    cases reordered
    exact .name part
  | table origin _ inner nothing =>
    cases reordered with
    | same => exact .table origin part inner nothing
    | @table _ origin' _ others names each =>
      have only (key : Text) : key = policyName part ↔ key ∈ others.map Prod.fst := by
        rw [← names, List.map_singleton, List.mem_singleton]
      obtain ⟨inner', rfl⟩ :=
        exists_eq_singleton (Toml.hasDistinctKeys_table_iff.mp keys).distinct only
      have alike : inner.Reordered inner' :=
        each (policyName part) inner inner' ((Entries.get?_cons _ _ _).trans (if_pos rfl))
          ((Entries.get?_cons _ _ _).trans (if_pos rfl))
      exact .table origin' part inner' (nothing.of_reordered alike)

/-- Policies. -/
def Kind.policy : Kind Policy where
  decoder := Configuration.policy
  Means := IsPolicy
  decodes _ _ _ := policy_eq_ok_iff
  reordered _ _ _ reordered _ keys means := means.of_reordered reordered keys

/-! ### Flag rules -/

/-- Parts that may be missing, where they are there. -/
def Kind.optional {Part : Type} (kind : Kind Part) : Kind (Option Part) where
  decoder value := (kind.decoder value).map some
  Means value found := ∃ part, kind.Means value part ∧ some part = found
  decodes value found keys := by
    rw [map_eq_ok_iff]
    exact exists_congr fun part => and_congr_left fun _ => kind.decodes value part keys
  reordered := by
    rintro value other found reordered keys keys' ⟨part, means, same⟩
    exact ⟨part, kind.reordered value other part reordered keys keys' means, same⟩

/-- The two parts of a rule, while its table is read. -/
def ruleSchema : Schema PartialRule where
  slots := [
    ⟨Option Text, "marker", Kind.text.optional, PartialRule.marker,
      fun part rule => { rule with marker := part }, fun _ _ => rfl⟩,
    ⟨Option (List Text), "assignments", Kind.text.listOf.optional, PartialRule.assignments,
      fun part rule => { rule with assignments := part }, fun _ _ => rfl⟩ ]
  distinct := by decide
  independent := by simp [Slot.Independent]
  complete := by
    rintro ⟨marker, assignments⟩ ⟨marker', assignments'⟩ same
    simpa using same

/-- A rule's table may have other keys. -/
theorem takes_takePartialRule : ruleSchema.Takes True PartialRule.take := by
  constructor
  · intro slot member value rule
    simp only [ruleSchema, List.mem_cons, List.not_mem_nil, or_false] at member
    rcases member with rfl | rfl
    · refine (if_pos rfl).trans ?_
      show (do return { rule with marker := some (← text value) }) =
        ((text value).map some).map fun part => { rule with marker := part }
      cases text value <;> rfl
    · have differ : "assignments".toList ≠ "marker".toList := by decide
      refine (if_neg differ).trans ((if_pos rfl).trans ?_)
      show (do return { rule with assignments := some (← listOf text value) }) =
        ((listOf text value).map some).map fun part => { rule with assignments := part }
      cases listOf text value <;> rfl
  · intro name unknown value rule changed
    have noMarker : name ≠ "marker".toList := fun same => unknown (by rw [same]; decide)
    have noAssignments : name ≠ "assignments".toList := fun same => unknown (by rw [same]; decide)
    rw [PartialRule.take, if_neg noMarker, if_neg noAssignments, Except.ok.injEq, true_and, eq_comm]

/-- A part that must be there is one that the entries have a value for. -/
theorem overlaid_optional_iff {Part : Type} {kind : Kind Part} {entries : Entries} {key : Text}
    {part : Part} :
    Overlaid entries key kind.optional.Means none (some part) ↔
      ∃ value, entries.get? key = some value ∧ kind.Means value part := by
  cases found : entries.get? key with
  | some value =>
    rw [overlaid_iff_of_get? found]
    simp [Kind.optional]
  | none =>
    rw [overlaid_iff_of_absent found]
    simp

theorem complete_eq_ok_iff {parts : PartialRule} {rule : FlagRule} :
    parts.complete = .ok rule ↔
      parts.marker = some rule.marker ∧ parts.assignments = some rule.assignments := by
  obtain ⟨marker, assignments⟩ := parts
  obtain ⟨marker', assignments'⟩ := rule
  cases marker <;> cases assignments <;> simp [PartialRule.complete]

/-- A rule is read from a table that has both its parts. -/
theorem flagRule_table_eq_ok_iff {origin : Origin} {entries : Entries} {rule : FlagRule}
    (keys : entries.HaveDistinctKeys) :
    flagRule (.table origin entries) = .ok rule ↔
      (∃ marker, entries.get? "marker" = some marker ∧ IsText marker rule.marker) ∧
        ∃ assignments, entries.get? "assignments" = some assignments ∧
          IsListOf IsText assignments rule.assignments := by
  have taken : flagRule (.table origin entries) = .ok rule ↔
      entries.foldlM PartialRule.take {} = .ok ⟨some rule.marker, some rule.assignments⟩ := by
    show (entries.foldlM PartialRule.take {} >>= PartialRule.complete) = .ok rule ↔ _
    rw [bind_eq_ok_iff]
    constructor
    · rintro ⟨⟨marker, assignments⟩, taken, complete⟩
      obtain ⟨rfl, rfl⟩ := complete_eq_ok_iff.mp complete
      exact taken
    · intro taken
      exact ⟨_, taken, rfl⟩
  rw [taken, takes_takePartialRule.foldlM_eq_ok_iff keys]
  constructor
  · rintro ⟨-, parts⟩
    obtain ⟨marker, others⟩ := List.forall_mem_cons.mp parts
    have assignments := List.forall_mem_singleton.mp others
    exact ⟨overlaid_optional_iff.mp marker, overlaid_optional_iff.mp assignments⟩
  · rintro ⟨marker, assignments⟩
    refine ⟨fun _ _ => .inl trivial, List.forall_mem_cons.mpr
      ⟨overlaid_optional_iff.mpr marker, List.forall_mem_singleton.mpr ?_⟩⟩
    exact overlaid_optional_iff.mpr assignments

/-- A flag rule is read from what stands for one, and from nothing else. -/
theorem flagRule_eq_ok_iff {value : Value} {rule : FlagRule} (keys : value.HasDistinctKeys) :
    flagRule value = .ok rule ↔ IsRule value rule := by
  cases value with
  | table origin entries =>
    rw [flagRule_table_eq_ok_iff (Toml.hasDistinctKeys_table_iff.mp keys)]
    constructor
    · rintro ⟨⟨marker, foundMarker, isMarker⟩, assignments, foundAssignments, areAssignments⟩
      exact .table foundMarker isMarker foundAssignments areAssignments
    · intro means
      cases means with
      | table foundMarker isMarker foundAssignments areAssignments =>
        exact ⟨⟨_, foundMarker, isMarker⟩, _, foundAssignments, areAssignments⟩
  | array origin items =>
    match items with
    | [] =>
      constructor
      · intro impossible
        cases impossible
      · intro impossible
        cases impossible
    | [marker] =>
      constructor
      · intro impossible
        obtain ⟨_, -, further⟩ := bind_eq_ok_iff.mp impossible
        cases further
      · intro impossible
        cases impossible
    | marker :: assignments :: others =>
      have keysAssignments : assignments.HasDistinctKeys :=
        Toml.hasDistinctKeys_array_iff.mp keys _ (List.mem_cons_of_mem _ List.mem_cons_self)
      constructor
      · intro taken
        obtain ⟨first, isMarker, further⟩ := bind_eq_ok_iff.mp taken
        obtain ⟨second, areAssignments, same⟩ := bind_eq_ok_iff.mp further
        obtain rfl := Except.ok.inj same
        exact .array (text_eq_ok_iff.mp isMarker)
          ((listOf_eq_ok_iff Kind.text keysAssignments).mp areAssignments)
      · intro means
        cases means with
        | array isMarker areAssignments =>
          refine bind_eq_ok_iff.mpr ⟨_, text_eq_ok_iff.mpr isMarker, ?_⟩
          exact bind_eq_ok_iff.mpr
            ⟨_, (listOf_eq_ok_iff Kind.text keysAssignments).mpr areAssignments, rfl⟩
  | _ =>
    constructor
    · intro impossible
      cases impossible
    · intro impossible
      cases impossible

theorem IsRule.of_reordered {value other : Value} {rule : FlagRule} (means : IsRule value rule)
    (reordered : value.Reordered other) (keys : value.HasDistinctKeys)
    (keys' : other.HasDistinctKeys) : IsRule other rule := by
  have alike := reordered
  cases reordered with
  | same => exact means
  | array =>
    rw [Toml.hasDistinctKeys_array_iff] at keys keys'
    cases means with
    | array isMarker areAssignments =>
      obtain ⟨marker', rest, first, related, rfl⟩ := List.forall₂_cons_left_iff.mp alike.forall₂
      obtain ⟨assignments', others, second, -, rfl⟩ := List.forall₂_cons_left_iff.mp related
      obtain ⟨keysMarker, keysRest⟩ := List.forall_mem_cons.mp keys
      obtain ⟨keysMarker', keysRest'⟩ := List.forall_mem_cons.mp keys'
      exact .array (Kind.text.reordered _ _ _ first keysMarker keysMarker' isMarker)
        (Kind.text.listOf.reordered _ _ _ second (keysRest _ List.mem_cons_self)
          (keysRest' _ List.mem_cons_self) areAssignments)
  | table =>
    rw [Toml.hasDistinctKeys_table_iff] at keys keys'
    cases means with
    | table foundMarker isMarker foundAssignments areAssignments =>
      obtain ⟨marker', found, first⟩ := alike.exists_get? foundMarker
      obtain ⟨assignments', found', second⟩ := alike.exists_get? foundAssignments
      exact .table found
        (Kind.text.reordered _ _ _ first (keys.get? foundMarker) (keys'.get? found) isMarker) found'
        (Kind.text.listOf.reordered _ _ _ second (keys.get? foundAssignments) (keys'.get? found')
          areAssignments)

/-- Flag rules. -/
def Kind.flagRule : Kind FlagRule where
  decoder := Configuration.flagRule
  Means := IsRule
  decodes _ _ := flagRule_eq_ok_iff
  reordered _ _ _ reordered keys keys' means := means.of_reordered reordered keys keys'

end Prebuild.Configuration
