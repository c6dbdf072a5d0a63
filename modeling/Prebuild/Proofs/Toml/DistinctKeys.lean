/-
This file proves that no table of a document has a key twice, at whatever depth.

The order of the entries of a table then says nothing: a key has one value, wherever it stands.
What is proved about each step that builds tables is that it keeps keys distinct; a step adds a
key only where there is none, and changes only values otherwise. A value that is written inside
brackets or braces is built by the same steps, so the readers are followed as well, as far as
what they give is concerned and not what they leave.
-/

import Prebuild.Toml.Document

namespace Prebuild.Toml

/-! ### What a reader gives -/

namespace Reader

variable {Result Next : Type} {reader other : Reader Result} {holds : Result → Prop}

/-- Whatever the reader gives has the property. -/
def Gives (reader : Reader Result) (holds : Result → Prop) : Prop :=
  ∀ text result rest, reader text = some (result, rest) → holds result

theorem gives_pure {result : Result} (has : holds result) : Gives (pure result) holds := by
  intro text given rest read
  obtain ⟨rfl, -⟩ := Prod.mk.inj (Option.some.inj read)
  exact has

theorem gives_failure : Gives (failure : Reader Result) holds := by
  intro text given rest read
  cases read

theorem Gives.bind {next : Result → Reader Next} {after : Next → Prop}
    (first : Gives reader holds) (further : ∀ result, holds result → Gives (next result) after) :
    Gives (reader >>= next) after := by
  intro text given rest read
  obtain ⟨⟨result, between⟩, readFirst, readNext⟩ := Option.bind_eq_some_iff.mp read
  exact further result (first text result between readFirst) between given rest readNext

/-- What is read first may be anything. -/
theorem gives_bind {next : Result → Reader Next} {after : Next → Prop}
    (further : ∀ result, Gives (next result) after) : Gives (reader >>= next) after := by
  have first : Gives reader fun _ => True := fun _ _ _ _ => trivial
  exact first.bind fun result _ => further result

theorem gives_map {change : Result → Next} {after : Next → Prop}
    (each : ∀ result, after (change result)) : Gives (change <$> reader) after :=
  gives_bind fun result => gives_pure (each result)

theorem Gives.seqRight {following : Reader Next} {after : Next → Prop}
    (further : Gives following after) : Gives (reader *> following) after :=
  gives_bind fun _ => further

theorem Gives.seqLeft {following : Reader Next} (first : Gives reader holds) :
    Gives (reader <* following) holds :=
  first.bind fun _ has => gives_bind fun _ => gives_pure has

theorem Gives.orElse (first : Gives reader holds) (second : Gives other holds) :
    Gives (reader <|> other) holds := by
  intro text given rest read
  have either : (reader text).orElse (fun _ => other text) = some (given, rest) := read
  cases fromFirst : reader text with
  | some pair =>
    rw [fromFirst] at either
    exact first text given rest (fromFirst.trans either)
  | none =>
    rw [fromFirst] at either
    exact second text given rest either

theorem Gives.upTo (each : Gives reader holds) (count : Nat) :
    Gives (reader.upTo count) fun results => ∀ result ∈ results, holds result := by
  induction count with
  | zero => exact gives_pure (List.forall_mem_nil holds)
  | succ count inductionHypothesis =>
    intro text given rest read
    rw [Reader.upTo] at read
    dsimp only at read
    split at read
    · rename_i result between readFirst
      obtain ⟨⟨others, left⟩, readOthers, same⟩ := Option.map_eq_some_iff.mp read
      obtain ⟨rfl, -⟩ := Prod.mk.inj same
      exact List.forall_mem_cons.mpr ⟨each text result between readFirst,
        inductionHypothesis between others left readOthers⟩
    · obtain ⟨rfl, -⟩ := Prod.mk.inj (Option.some.inj read)
      exact List.forall_mem_nil holds

theorem Gives.many (each : Gives reader holds) :
    Gives reader.many fun results => ∀ result ∈ results, holds result :=
  fun text => each.upTo text.length text

theorem Gives.separated {separator : Reader Unit} (each : Gives reader holds) :
    Gives (Reader.separated separator reader) fun results => ∀ result ∈ results, holds result := by
  refine Gives.orElse ?_ (gives_pure (List.forall_mem_nil holds))
  refine each.bind fun first here => ?_
  refine each.seqRight.many.bind fun others further => ?_
  exact gives_pure (List.forall_mem_cons.mpr ⟨here, further⟩)

end Reader

/-! ### Distinct keys -/

/-- No table in the value, at whatever depth, has a key twice. -/
inductive Value.HasDistinctKeys : Value → Prop
  | string (text : Text) : HasDistinctKeys (.string text)
  | integer (number : Int) : HasDistinctKeys (.integer number)
  | float (number : Binary64) : HasDistinctKeys (.float number)
  | boolean (truth : Bool) : HasDistinctKeys (.boolean truth)
  | moment (written : Text) : HasDistinctKeys (.moment written)
  | array {origin : Origin} {items : List Value} (each : ∀ item ∈ items, HasDistinctKeys item) :
    HasDistinctKeys (.array origin items)
  | table {origin : Origin} {entries : Entries} (distinct : (entries.map Prod.fst).Nodup)
    (each : ∀ entry ∈ entries, HasDistinctKeys entry.2) : HasDistinctKeys (.table origin entries)

namespace Entries

/-- The keys of the entries differ, and so do those of each table in their values. -/
structure HaveDistinctKeys (entries : Entries) : Prop where
  distinct : (entries.map Prod.fst).Nodup
  each : ∀ entry ∈ entries, entry.2.HasDistinctKeys

variable {entries : Entries} {key : Text} {value : Value}

theorem get?_cons (entry : Text × Value) (entries : Entries) (key : Text) :
    get? (entry :: entries) key = if entry.1 = key then some entry.2 else get? entries key := by
  rw [get?, List.find?_cons]
  by_cases same : entry.1 = key
  · rw [if_pos same, beq_iff_eq.mpr same]
    rfl
  · rw [if_neg same, beq_eq_false_iff_ne.mpr same]
    rfl

theorem get?_eq_none_iff : entries.get? key = none ↔ key ∉ entries.map Prod.fst := by
  induction entries with
  | nil => exact iff_of_true rfl List.not_mem_nil
  | cons entry rest inductionHypothesis =>
    rw [get?_cons, List.map_cons, List.mem_cons, not_or]
    by_cases same : entry.1 = key
    · rw [if_pos same]
      exact iff_of_false (Option.some_ne_none _) fun differ => differ.1 same.symm
    · rw [if_neg same, inductionHypothesis]
      exact (and_iff_right fun equal => same equal.symm).symm

theorem mem_of_get? (found : entries.get? key = some value) : (key, value) ∈ entries := by
  obtain ⟨entry, first, rfl⟩ := Option.map_eq_some_iff.mp found
  have same : entry.1 = key := by simpa using List.find?_some first
  rw [← same]
  exact List.mem_of_find?_eq_some first

/-- Where keys differ, a key has one value, wherever it stands. -/
theorem get?_eq_some_iff_mem (distinct : (entries.map Prod.fst).Nodup) :
    entries.get? key = some value ↔ (key, value) ∈ entries := by
  refine ⟨mem_of_get?, fun member => ?_⟩
  induction entries with
  | nil => cases member
  | cons entry rest inductionHypothesis =>
    rw [List.map_cons, List.nodup_cons] at distinct
    rw [get?_cons]
    rcases List.mem_cons.mp member with rfl | inside
    · exact if_pos rfl
    · have differ : entry.1 ≠ key := fun same =>
        distinct.1 (same ▸ List.mem_map.mpr ⟨_, inside, rfl⟩)
      rw [if_neg differ, inductionHypothesis distinct.2 inside]

theorem haveDistinctKeys_nil : HaveDistinctKeys [] :=
  ⟨List.nodup_nil, List.forall_mem_nil _⟩

namespace HaveDistinctKeys

theorem get? (keys : HaveDistinctKeys entries) (found : entries.get? key = some value) :
    value.HasDistinctKeys :=
  keys.each _ (mem_of_get? found)

theorem add (keys : HaveDistinctKeys entries) (absent : entries.get? key = none)
    (fits : value.HasDistinctKeys) : HaveDistinctKeys (entries.add key value) := by
  constructor
  · rw [Entries.add, List.map_append, List.map_singleton, List.nodup_append]
    refine ⟨keys.distinct, List.pairwise_singleton _ _, fun old member new here => ?_⟩
    obtain rfl := List.mem_singleton.mp here
    exact fun same => get?_eq_none_iff.mp absent (same ▸ member)
  · intro entry member
    rcases List.mem_append.mp member with old | new
    · exact keys.each entry old
    · obtain rfl := List.mem_singleton.mp new
      exact fits

theorem set (keys : HaveDistinctKeys entries) (fits : value.HasDistinctKeys) :
    HaveDistinctKeys (entries.set key value) := by
  constructor
  · have same : (entries.set key value).map Prod.fst = entries.map Prod.fst := by
      rw [Entries.set, List.map_map]
      refine List.map_congr_left fun entry _ => ?_
      show (if entry.1 == key then (key, value) else entry).1 = entry.1
      split
      · rename_i equal
        exact (beq_iff_eq.mp equal).symm
      · rfl
    rw [same]
    exact keys.distinct
  · intro entry member
    obtain ⟨old, inside, rfl⟩ := List.mem_map.mp member
    split
    · exact fits
    · exact keys.each old inside

theorem remove (keys : HaveDistinctKeys entries) : HaveDistinctKeys (entries.remove key) :=
  ⟨(List.filter_sublist.map Prod.fst).nodup keys.distinct,
    fun entry member => keys.each entry (List.mem_filter.mp member).1⟩

end HaveDistinctKeys

theorem get?_remove : (entries.remove key).get? key = none := by
  rw [get?_eq_none_iff]
  intro member
  obtain ⟨entry, inside, same⟩ := List.mem_map.mp member
  simpa [same] using (List.mem_filter.mp inside).2

end Entries

open Entries (HaveDistinctKeys)

theorem hasDistinctKeys_table_iff {origin : Origin} {entries : Entries} :
    (Value.table origin entries).HasDistinctKeys ↔ HaveDistinctKeys entries := by
  constructor
  · intro keys
    cases keys with
    | table distinct each => exact ⟨distinct, each⟩
  · rintro ⟨distinct, each⟩
    exact .table distinct each

theorem hasDistinctKeys_array_iff {origin : Origin} {items : List Value} :
    (Value.array origin items).HasDistinctKeys ↔ ∀ item ∈ items, item.HasDistinctKeys := by
  constructor
  · intro keys
    cases keys with
    | array each => exact each
  · exact .array

/-! ### Building tables -/

/-- A change of entries, where it succeeds, keeps keys distinct. -/
def KeepsDistinctKeys (change : Entries → Option Entries) : Prop :=
  ∀ entries changed, HaveDistinctKeys entries → change entries = some changed →
    HaveDistinctKeys changed

section

variable {change : Entries → Option Entries} {entries old inner : Entries} {key : Text}

/-- A table that is made by the change from nothing. -/
theorem KeepsDistinctKeys.table_of_nil (keeps : KeepsDistinctKeys change) {origin : Origin}
    (result : change [] = some inner) : (Value.table origin inner).HasDistinctKeys :=
  hasDistinctKeys_table_iff.mpr (keeps [] inner Entries.haveDistinctKeys_nil result)

/-- A table that is made by the change from the table of a key. -/
theorem KeepsDistinctKeys.table_of_get? (keeps : KeepsDistinctKeys change)
    (keys : HaveDistinctKeys entries) {origin origin' : Origin}
    (found : entries.get? key = some (.table origin old)) (result : change old = some inner) :
    (Value.table origin' inner).HasDistinctKeys :=
  hasDistinctKeys_table_iff.mpr
    (keeps old inner (hasDistinctKeys_table_iff.mp (keys.get? found)) result)

end

theorem changeLast_hasDistinctKeys {change : Entries → Option Entries}
    (keeps : KeepsDistinctKeys change) {items changed : List Value}
    (each : ∀ item ∈ items, item.HasDistinctKeys)
    (result : changeLast change items = some changed) :
    ∀ item ∈ changed, item.HasDistinctKeys := by
  induction items generalizing changed with
  | nil => cases result
  | cons first rest inductionHypothesis =>
    obtain ⟨here, further⟩ := List.forall_mem_cons.mp each
    cases rest with
    | cons second rest =>
      rw [changeLast] at result
      obtain ⟨others, changedOthers, rfl⟩ := Option.map_eq_some_iff.mp result
      exact List.forall_mem_cons.mpr ⟨here, inductionHypothesis further changedOthers⟩
    | nil =>
      unfold changeLast at result
      split at result
      · cases result
      · rename_i origin entries same
        obtain ⟨rfl, -⟩ := List.cons.inj same
        obtain ⟨inner, changedInner, rfl⟩ := Option.map_eq_some_iff.mp result
        refine List.forall_mem_singleton.mpr (hasDistinctKeys_table_iff.mpr ?_)
        exact keeps entries inner (hasDistinctKeys_table_iff.mp here) changedInner
      · cases result
      · rename_i same
        cases (List.cons.inj same).2

/-- An array whose last table is made by the change from the last one in the array of a key. -/
theorem KeepsDistinctKeys.array_of_get? {change : Entries → Option Entries}
    (keeps : KeepsDistinctKeys change) {entries : Entries} (keys : HaveDistinctKeys entries)
    {key : Text} {origin origin' : Origin} {items changed : List Value}
    (found : entries.get? key = some (.array origin items))
    (result : changeLast change items = some changed) :
    (Value.array origin' changed).HasDistinctKeys := by
  have each := hasDistinctKeys_array_iff.mp (keys.get? found)
  exact hasDistinctKeys_array_iff.mpr (changeLast_hasDistinctKeys keeps each result)

/-- Adding a key with a value keeps keys distinct, whatever tables the key leads through. -/
theorem insertKey_keepsDistinctKeys {last : Text} {value : Value} (fits : value.HasDistinctKeys)
    (path : List Text) : KeepsDistinctKeys (insertKey last value path) := by
  induction path with
  | nil =>
    intro entries changed keys result
    rw [insertKey] at result
    split at result
    · cases result
    · rename_i absent
      obtain rfl := Option.some.inj result
      exact keys.add (Option.not_isSome_iff_eq_none.mp absent) fits
  | cons part path inductionHypothesis =>
    intro entries changed keys result
    rw [insertKey] at result
    split at result
    · rename_i absent
      obtain ⟨inner, inserted, rfl⟩ := Option.map_eq_some_iff.mp result
      exact keys.add absent (inductionHypothesis.table_of_nil inserted)
    · rename_i old found
      obtain ⟨inner, inserted, rfl⟩ := Option.map_eq_some_iff.mp result
      exact keys.set (inductionHypothesis.table_of_get? keys found inserted)
    · rename_i old found
      split at result
      · cases result
      · obtain ⟨inner, inserted, rfl⟩ := Option.map_eq_some_iff.mp result
        exact keys.set (inductionHypothesis.table_of_get? keys found inserted)
    · rename_i items found
      split at result
      · cases result
      · obtain ⟨others, inserted, rfl⟩ := Option.map_eq_some_iff.mp result
        exact keys.set (inductionHypothesis.array_of_get? keys found inserted)
    · cases result

/-- The values that come with keys have distinct keys themselves. -/
def AllFit (pairs : List (List Text × Value)) : Prop := ∀ pair ∈ pairs, pair.2.HasDistinctKeys

theorem insertKeys_keepsDistinctKeys {pairs : List (List Text × Value)} (fit : AllFit pairs) :
    KeepsDistinctKeys (insertKeys pairs) := by
  induction pairs with
  | nil =>
    intro entries changed keys result
    obtain rfl := Option.some.inj result
    exact keys
  | cons pair rest inductionHypothesis =>
    obtain ⟨here, further⟩ := List.forall_mem_cons.mp fit
    intro entries changed keys result
    rw [insertKeys, List.foldlM_cons] at result
    obtain ⟨between, inserted, others⟩ := Option.bind_eq_some_iff.mp result
    split at inserted
    · exact inductionHypothesis further between changed
        (insertKey_keepsDistinctKeys here _ entries between keys inserted) others
    · cases inserted

theorem changeAt_keepsDistinctKeys {change : Entries → Option Entries}
    (keeps : KeepsDistinctKeys change) (path : List Text) :
    KeepsDistinctKeys (changeAt change path) := by
  induction path with
  | nil => exact keeps
  | cons part path inductionHypothesis =>
    intro entries changed keys result
    rw [changeAt] at result
    split at result
    · rename_i absent
      obtain ⟨inner, changedInner, rfl⟩ := Option.map_eq_some_iff.mp result
      exact keys.add absent (inductionHypothesis.table_of_nil changedInner)
    · cases result
    · rename_i origin old notLiteral found
      obtain ⟨inner, changedInner, rfl⟩ := Option.map_eq_some_iff.mp result
      exact keys.set (inductionHypothesis.table_of_get? keys found changedInner)
    · rename_i items found
      obtain ⟨others, changedOthers, rfl⟩ := Option.map_eq_some_iff.mp result
      exact keys.set (inductionHypothesis.array_of_get? keys found changedOthers)
    · cases result

theorem openIn_keepsDistinctKeys {part : Section} (fit : AllFit part.pairs) (name : Text) :
    KeepsDistinctKeys (part.openIn name) := by
  have filled := insertKeys_keepsDistinctKeys fit
  intro parent changed keys result
  rw [Section.openIn] at result
  split at result
  · rename_i absent
    obtain ⟨inner, inserted, same⟩ := Option.bind_eq_some_iff.mp result
    obtain rfl := Option.some.inj same
    exact keys.add absent (filled.table_of_nil inserted)
  · rename_i old _ found
    obtain ⟨inner, inserted, same⟩ := Option.bind_eq_some_iff.mp result
    obtain rfl := Option.some.inj same
    exact keys.remove.add Entries.get?_remove (filled.table_of_get? keys found inserted)
  · rename_i absent
    obtain ⟨inner, inserted, same⟩ := Option.bind_eq_some_iff.mp result
    obtain rfl := Option.some.inj same
    exact keys.add absent (.array (List.forall_mem_singleton.mpr (filled.table_of_nil inserted)))
  · rename_i items _ found
    obtain ⟨inner, inserted, same⟩ := Option.bind_eq_some_iff.mp result
    obtain rfl := Option.some.inj same
    exact keys.set (.array (List.forall_mem_append.mpr
      ⟨hasDistinctKeys_array_iff.mp (keys.get? found),
        List.forall_mem_singleton.mpr (filled.table_of_nil inserted)⟩))
  · cases result

theorem insert_haveDistinctKeys {document changed : Entries} {part : Section}
    (fit : AllFit part.pairs) (keys : HaveDistinctKeys document)
    (result : part.insert document = some changed) : HaveDistinctKeys changed := by
  rw [Section.insert.eq_def] at result
  split at result
  · exact changeAt_keepsDistinctKeys (openIn_keepsDistinctKeys fit _) _ document changed keys result
  · cases result

theorem foldlM_insert_haveDistinctKeys {document changed : Entries} {sections : List Section}
    (fit : ∀ part ∈ sections, AllFit part.pairs) (keys : HaveDistinctKeys document)
    (result : sections.foldlM Section.insert document = some changed) :
    HaveDistinctKeys changed := by
  induction sections generalizing document with
  | nil =>
    obtain rfl := Option.some.inj result
    exact keys
  | cons part rest inductionHypothesis =>
    obtain ⟨here, further⟩ := List.forall_mem_cons.mp fit
    rw [List.foldlM_cons] at result
    obtain ⟨between, inserted, others⟩ := Option.bind_eq_some_iff.mp result
    exact inductionHypothesis further (insert_haveDistinctKeys here keys inserted) others

/-! ### Reading -/

open Reader

theorem scalar_gives : Gives scalar Value.HasDistinctKeys := by
  refine (gives_map Value.HasDistinctKeys.string).orElse ?_
  refine (gives_map Value.HasDistinctKeys.moment).orElse ?_
  refine (gives_map Value.HasDistinctKeys.float).orElse ?_
  refine (gives_map Value.HasDistinctKeys.integer).orElse ?_
  exact (gives_map fun _ => .boolean true).orElse (gives_map fun _ => .boolean false)

/-- A value that is read has distinct keys, however deep arrays and tables lie in one another. -/
theorem value_gives (depth : Nat) : Gives (value depth) Value.HasDistinctKeys := by
  induction depth with
  | zero => exact scalar_gives
  | succ depth inductionHypothesis =>
    rw [value]
    refine Gives.orElse ?_ (Gives.orElse ?_ scalar_gives)
    · refine gives_bind fun _ => ?_
      have item : Gives (spacesAndLines *> value depth <* spacesAndLines) Value.HasDistinctKeys :=
        inductionHypothesis.seqRight.seqLeft
      refine item.separated.bind fun items each => ?_
      have closed : Gives (do spacesAndLines; exactly [']']; pure (Value.array .literal items))
          Value.HasDistinctKeys :=
        gives_bind fun _ => gives_bind fun _ => gives_pure (.array each)
      dsimp only
      split
      · exact gives_bind fun _ => closed
      · exact closed
    · refine gives_bind fun _ => ?_
      have pair : Gives (do
          let path ← key
          exactly ['=']
          spaces
          let value ← value depth
          spaces
          return (path, value)) fun pair => pair.2.HasDistinctKeys := by
        refine gives_bind fun path => gives_bind fun _ => gives_bind fun _ => ?_
        exact inductionHypothesis.bind fun value fits => gives_bind fun _ => gives_pure fits
      refine pair.separated.bind fun pairs fit => gives_bind fun _ => gives_bind fun _ => ?_
      split
      · rename_i entries inserted
        exact gives_pure ((insertKeys_keepsDistinctKeys fit).table_of_nil inserted)
      · exact gives_failure

theorem pairLine_gives : Gives pairLine fun pair => pair.2.HasDistinctKeys := by
  refine gives_bind fun path => gives_bind fun _ => gives_bind fun _ => ?_
  exact (value_gives deepest).bind fun value fits => gives_bind fun _ => gives_pure fits

theorem pairLines_gives : Gives pairLines AllFit :=
  pairLine_gives.seqLeft.many.seqRight

theorem sectionLines_gives : Gives sectionLines fun part => AllFit part.pairs := by
  refine gives_bind fun brackets => gives_bind fun path => gives_bind fun _ => ?_
  exact gives_bind fun _ => pairLines_gives.bind fun pairs fit => gives_pure fit

/-- No table of a document, at whatever depth, has a key twice. -/
theorem parse_haveDistinctKeys {text : Text} {document : Entries}
    (parsed : parse text = some document) : HaveDistinctKeys document := by
  rw [parse] at parsed
  obtain ⟨⟨⟨pairs, sections⟩, rest⟩, read, built⟩ := Option.bind_eq_some_iff.mp parsed
  have lines : Gives (do
      let pairs ← pairLines
      let sections ← many sectionLines
      atEnd
      return (pairs, sections)) fun given =>
        AllFit given.1 ∧ ∀ part ∈ given.2, AllFit part.pairs := by
    refine pairLines_gives.bind fun pairs fit => ?_
    refine sectionLines_gives.many.bind fun sections fits => ?_
    exact gives_bind fun _ => gives_pure ⟨fit, fits⟩
  have given := lines _ _ _ read
  obtain ⟨filled, inserted, result⟩ := Option.bind_eq_some_iff.mp built
  exact foldlM_insert_haveDistinctKeys given.2
    (insertKeys_keepsDistinctKeys given.1 [] filled Entries.haveDistinctKeys_nil inserted) result

end Prebuild.Toml
