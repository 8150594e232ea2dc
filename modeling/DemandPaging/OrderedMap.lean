/-!
# Finite maps in key order

An `OrderedMap` holds its entries as a list in strictly ascending key order, so a map with given
contents has exactly one representation: `OrderedMap.ext_get?` says that maps which answer every
`get?` alike are equal, and `keys` lists the keys in order without a sort.
-/

namespace DemandPaging

/-- Keys that a natural number tells apart and puts in order. -/
class Numbered (Key : Type) where
  number : Key → Nat
  number_injective : ∀ {left right : Key}, number left = number right → left = right

/-- A finite map whose entries stand in ascending order of their keys. -/
structure OrderedMap (Key : Type) [Numbered Key] (Value : Type) where
  entries : List (Key × Value)
  ascending : entries.Pairwise fun earlier later =>
    Numbered.number earlier.1 < Numbered.number later.1

namespace OrderedMap

open Numbered

variable {Key Value : Type} [Numbered Key]

/-- The map without entries. -/
def empty : OrderedMap Key Value := ⟨[], .nil⟩

instance : Inhabited (OrderedMap Key Value) := ⟨empty⟩

/-- The first value stored under a key in a list of entries. -/
def lookup (key : Key) : List (Key × Value) → Option Value
  | [] => none
  | (other, value) :: rest => if number other = number key then some value else lookup key rest

/-- Puts an entry at its place in a list of entries, over an entry of the same key. -/
def place (key : Key) (value : Value) : List (Key × Value) → List (Key × Value)
  | [] => [(key, value)]
  | (other, old) :: rest =>
    if number key < number other then (key, value) :: (other, old) :: rest
    else if number key = number other then (key, value) :: rest
    else (other, old) :: place key value rest

/-- A bound below all keys stays below them when a key above it is placed. -/
theorem number_lt_of_mem_place {key : Key} {value : Value} {bound : Nat} :
    ∀ {entries : List (Key × Value)}, bound < number key →
      (∀ entry ∈ entries, bound < number entry.1) →
      ∀ entry ∈ place key value entries, bound < number entry.1
  | [], keyAbove, _, entry, member => by
    simp only [place, List.mem_singleton] at member
    rw [member]
    exact keyAbove
  | (other, old) :: rest, keyAbove, above, entry, member => by
    simp only [place] at member
    split at member
    · rcases List.mem_cons.mp member with rfl | later
      · exact keyAbove
      · exact above entry later
    · split at member
      · rcases List.mem_cons.mp member with rfl | later
        · exact keyAbove
        · exact above entry (List.mem_cons_of_mem _ later)
      · rcases List.mem_cons.mp member with rfl | later
        · exact above _ List.mem_cons_self
        · exact number_lt_of_mem_place keyAbove
            (fun entry found => above entry (List.mem_cons_of_mem _ found)) entry later

/-- Placing an entry keeps the keys ascending. -/
theorem ascending_place (key : Key) (value : Value) :
    ∀ {entries : List (Key × Value)},
      entries.Pairwise (fun earlier later => number earlier.1 < number later.1) →
      (place key value entries).Pairwise fun earlier later => number earlier.1 < number later.1
  | [], _ => by simp [place]
  | (other, old) :: rest, ascending => by
    rcases List.pairwise_cons.mp ascending with ⟨first, others⟩
    simp only [place]
    split
    · next before =>
      refine List.pairwise_cons.mpr ⟨fun entry member => ?_, ascending⟩
      rcases List.mem_cons.mp member with rfl | later
      · exact before
      · exact Nat.lt_trans before (first entry later)
    · split
      · next same =>
        refine List.pairwise_cons.mpr ⟨fun entry member => ?_, others⟩
        rw [same]
        exact first entry member
      · next notBefore different =>
        refine List.pairwise_cons.mpr ⟨?_, ascending_place key value others⟩
        exact number_lt_of_mem_place (by simp only; omega) first

/-- The value stored under a key. -/
def get? (map : OrderedMap Key Value) (key : Key) : Option Value :=
  lookup key map.entries

/-- Whether anything is stored under a key. -/
def contains (map : OrderedMap Key Value) (key : Key) : Bool :=
  (map.get? key).isSome

/-- Stores a value under a key, in place of an older one. -/
def insert (map : OrderedMap Key Value) (key : Key) (value : Value) : OrderedMap Key Value :=
  ⟨place key value map.entries, ascending_place key value map.ascending⟩

/-- Removes what is stored under a key. -/
def erase (map : OrderedMap Key Value) (key : Key) : OrderedMap Key Value :=
  ⟨map.entries.filter fun entry => number entry.1 ≠ number key, map.ascending.filter _⟩

/-- Applies a function to the value stored under a key; nothing happens without one. -/
def modify (map : OrderedMap Key Value) (key : Key) (change : Value → Value) :
    OrderedMap Key Value :=
  ⟨map.entries.map fun entry =>
      if number entry.1 = number key then (entry.1, change entry.2) else entry,
    List.pairwise_map.mpr (map.ascending.imp fun {earlier later} ordered => by
      have keep : ∀ entry : Key × Value,
          (if number entry.1 = number key then (entry.1, change entry.2) else entry).1 =
            entry.1 := by
        intro entry
        split <;> rfl
      rw [keep, keep]
      exact ordered)⟩

/-- Applies a function to every value and the key it is stored under. -/
def mapValues (map : OrderedMap Key Value) (change : Key → Value → Value) :
    OrderedMap Key Value :=
  ⟨map.entries.map fun entry => (entry.1, change entry.1 entry.2),
    List.pairwise_map.mpr (map.ascending.imp fun ordered => ordered)⟩

/-- The keys in ascending order. -/
def keys (map : OrderedMap Key Value) : List Key :=
  map.entries.map Prod.fst

/-- The values in ascending order of their keys. -/
def values (map : OrderedMap Key Value) : List Value :=
  map.entries.map Prod.snd

/-- The number of entries. -/
def size (map : OrderedMap Key Value) : Nat :=
  map.entries.length

/-! ## Look-up after each operation -/

/-- After placing, a look-up finds the new value under its key and the old ones elsewhere. -/
theorem lookup_place (key probe : Key) (value : Value) :
    ∀ entries : List (Key × Value), lookup probe (place key value entries) =
      if number key = number probe then some value else lookup probe entries
  | [] => rfl
  | (other, old) :: rest => by
    have inner := lookup_place key probe value rest
    simp only [place]
    split
    · rfl
    · split
      · next same =>
        simp only [lookup]
        split
        · rfl
        · next different => rw [if_neg (same ▸ different)]
      · next notBefore different =>
        simp only [lookup, inner]
        split
        · next found => rw [if_neg (by omega)]
        · rfl

/-- Filtering out a key affects the look-ups of that key only. -/
theorem lookup_filter_ne (key probe : Key) :
    ∀ entries : List (Key × Value),
      lookup probe (entries.filter fun entry => number entry.1 ≠ number key) =
        if number key = number probe then none else lookup probe entries
  | [] => by simp [lookup]
  | (other, old) :: rest => by
    have inner := lookup_filter_ne key probe rest
    by_cases same : number other = number key
    · rw [List.filter_cons_of_neg (by simpa using same), inner]
      split
      · rfl
      · next different => simp only [lookup, same, if_neg different]
    · rw [List.filter_cons_of_pos (by simpa using same)]
      simp only [lookup, inner]
      split
      · next found => rw [if_neg (by omega)]
      · rfl

/-- A change of the values alone passes through a look-up. -/
theorem lookup_map_values {Other : Type} (probe : Key) (change : Key × Value → Other) :
    ∀ entries : List (Key × Value),
      lookup probe (entries.map fun entry => (entry.1, change entry)) =
        (entries.find? fun entry => number entry.1 = number probe).map change
  | [] => rfl
  | (other, old) :: rest => by
    have inner := lookup_map_values probe change rest
    by_cases found : number other = number probe
    · simp [lookup, found]
    · simp [lookup, found, inner]

/-- A look-up is a search for the key's number. -/
theorem lookup_eq_find? (probe : Key) :
    ∀ entries : List (Key × Value), lookup probe entries =
      (entries.find? fun entry => number entry.1 = number probe).map Prod.snd
  | [] => rfl
  | (other, old) :: rest => by
    have inner := lookup_eq_find? probe rest
    by_cases found : number other = number probe
    · simp [lookup, found]
    · simp [lookup, found, inner]

@[simp] theorem get?_empty (probe : Key) : (empty : OrderedMap Key Value).get? probe = none := rfl

/-- Insertion replaces what its key stood for and nothing else. -/
theorem get?_insert (map : OrderedMap Key Value) (key probe : Key) (value : Value) :
    (map.insert key value).get? probe =
      if number key = number probe then some value else map.get? probe :=
  lookup_place key probe value map.entries

@[simp] theorem get?_insert_self (map : OrderedMap Key Value) (key : Key) (value : Value) :
    (map.insert key value).get? key = some value := by
  rw [get?_insert, if_pos rfl]

/-- Insertion does not touch other keys. -/
theorem get?_insert_of_ne {key probe : Key} (different : key ≠ probe)
    (map : OrderedMap Key Value) (value : Value) :
    (map.insert key value).get? probe = map.get? probe := by
  rw [get?_insert, if_neg fun same => different (number_injective same)]

/-- Erasure forgets its key and nothing else. -/
theorem get?_erase (map : OrderedMap Key Value) (key probe : Key) :
    (map.erase key).get? probe = if number key = number probe then none else map.get? probe :=
  lookup_filter_ne key probe map.entries

@[simp] theorem get?_erase_self (map : OrderedMap Key Value) (key : Key) :
    (map.erase key).get? key = none := by
  rw [get?_erase, if_pos rfl]

/-- Erasure does not touch other keys. -/
theorem get?_erase_of_ne {key probe : Key} (different : key ≠ probe)
    (map : OrderedMap Key Value) : (map.erase key).get? probe = map.get? probe := by
  rw [get?_erase, if_neg fun same => different (number_injective same)]

/-- Modification changes the value under its key, if there is one, and nothing else. -/
theorem get?_modify (map : OrderedMap Key Value) (key probe : Key) (change : Value → Value) :
    (map.modify key change).get? probe =
      if number key = number probe then (map.get? probe).map change else map.get? probe := by
  have asMap : (map.modify key change).entries =
      map.entries.map fun entry =>
        (entry.1, if number entry.1 = number key then change entry.2 else entry.2) := by
    refine List.map_congr_left fun entry _ => ?_
    split <;> rfl
  rw [get?, asMap, lookup_map_values, get?, lookup_eq_find?]
  cases found : map.entries.find? fun entry => number entry.1 = number probe with
  | none => simp
  | some entry =>
    have atProbe : number entry.1 = number probe := by
      simpa using List.find?_some found
    simp only [Option.map_some, atProbe]
    by_cases same : number key = number probe
    · rw [if_pos same, if_pos same.symm]
    · rw [if_neg same, if_neg fun back => same back.symm]

/-- A change of every value may depend on the key it stands under. -/
theorem get?_mapValues (map : OrderedMap Key Value) (probe : Key)
    (change : Key → Value → Value) :
    (map.mapValues change).get? probe = (map.get? probe).map (change probe) := by
  rw [get?, mapValues, lookup_map_values probe fun entry => change entry.1 entry.2, get?,
    lookup_eq_find?, Option.map_map]
  cases found : map.entries.find? fun entry => number entry.1 = number probe with
  | none => rfl
  | some entry =>
    have atProbe : entry.1 = probe := number_injective (by simpa using List.find?_some found)
    simp [atProbe]

/-- Keys are told apart by their numbers. -/
theorem number_inj {left right : Key} : number left = number right ↔ left = right :=
  ⟨number_injective, congrArg number⟩

/-- `get?_insert` with a comparison of keys in place of their numbers. -/
theorem get?_insert_eq [DecidableEq Key] (map : OrderedMap Key Value) (key probe : Key)
    (value : Value) :
    (map.insert key value).get? probe = if probe = key then some value else map.get? probe := by
  simp [get?_insert, number_inj, eq_comm]

/-- `get?_erase` with a comparison of keys in place of their numbers. -/
theorem get?_erase_eq [DecidableEq Key] (map : OrderedMap Key Value) (key probe : Key) :
    (map.erase key).get? probe = if probe = key then none else map.get? probe := by
  simp [get?_erase, number_inj, eq_comm]

/-- `get?_modify` with a comparison of keys in place of their numbers. -/
theorem get?_modify_eq [DecidableEq Key] (map : OrderedMap Key Value) (key probe : Key)
    (change : Value → Value) :
    (map.modify key change).get? probe =
      if probe = key then (map.get? probe).map change else map.get? probe := by
  simp [get?_modify, number_inj, eq_comm]

/-- Keys are unique, so every entry is the one that its key finds. -/
theorem get?_of_mem_entries (map : OrderedMap Key Value) {key : Key} {value : Value}
    (member : (key, value) ∈ map.entries) : map.get? key = some value := by
  obtain ⟨entries, ascending⟩ := map
  induction entries with
  | nil => cases member
  | cons head rest inductionHypothesis =>
    obtain ⟨other, old⟩ := head
    rcases List.pairwise_cons.mp ascending with ⟨first, others⟩
    rcases List.mem_cons.mp member with same | later
    · cases same
      simp [get?, lookup]
    · have below := first _ later
      have apart : number other ≠ number key := by
        simp only at below
        omega
      have inner := inductionHypothesis others later
      simp only [get?, lookup, if_neg apart] at inner ⊢
      exact inner

/-- What a look-up finds is an entry. -/
theorem mem_entries_of_get? {map : OrderedMap Key Value} {key : Key} {value : Value}
    (found : map.get? key = some value) : (key, value) ∈ map.entries := by
  rw [get?, lookup_eq_find?, Option.map_eq_some_iff] at found
  obtain ⟨entry, search, rfl⟩ := found
  have sameKey : entry.1 = key :=
    number_injective (by simpa using List.find?_some search)
  subst sameKey
  exact List.mem_of_find?_eq_some search

/-- The keys are those under which something is found. -/
theorem mem_keys_iff {map : OrderedMap Key Value} {key : Key} :
    key ∈ map.keys ↔ ∃ value, map.get? key = some value := by
  constructor
  · intro member
    obtain ⟨entry, found, rfl⟩ := List.mem_map.mp member
    exact ⟨entry.2, map.get?_of_mem_entries found⟩
  · rintro ⟨value, found⟩
    exact List.mem_map.mpr ⟨(key, value), mem_entries_of_get? found, rfl⟩

/-- Nothing is found exactly under what is no key. -/
theorem get?_eq_none_iff {map : OrderedMap Key Value} {key : Key} :
    map.get? key = none ↔ key ∉ map.keys := by
  rw [mem_keys_iff, ← Option.isSome_iff_exists, Option.not_isSome_iff_eq_none]

/-- The keys are listed in ascending order, hence each once. -/
theorem keys_ascending (map : OrderedMap Key Value) :
    map.keys.Pairwise fun earlier later => number earlier < number later :=
  List.pairwise_map.mpr map.ascending

/-- Maps that answer every look-up alike are the same map. -/
theorem ext_get? {left right : OrderedMap Key Value}
    (agree : ∀ key, left.get? key = right.get? key) : left = right := by
  obtain ⟨leftEntries, leftAscending⟩ := left
  obtain ⟨rightEntries, rightAscending⟩ := right
  suffices same : leftEntries = rightEntries by
    subst same
    rfl
  induction leftEntries generalizing rightEntries with
  | nil =>
    cases rightEntries with
    | nil => rfl
    | cons entry rest => simpa [get?, lookup] using agree entry.1
  | cons head rest inductionHypothesis =>
    cases rightEntries with
    | nil => simpa [get?, lookup] using agree head.1
    | cons other others =>
      rcases List.pairwise_cons.mp leftAscending with ⟨leftFirst, leftRest⟩
      rcases List.pairwise_cons.mp rightAscending with ⟨rightFirst, rightRest⟩
      have headInRight : (head.1, head.2) ∈ other :: others := by
        have found : get? ⟨other :: others, rightAscending⟩ head.1 = some head.2 := by
          rw [← agree]
          simp [get?, lookup]
        exact mem_entries_of_get? found
      have otherInLeft : (other.1, other.2) ∈ head :: rest := by
        have found : get? ⟨head :: rest, leftAscending⟩ other.1 = some other.2 := by
          rw [agree]
          simp [get?, lookup]
        exact mem_entries_of_get? found
      have heads : head = other := by
        rcases List.mem_cons.mp headInRight with same | later
        · exact same
        · rcases List.mem_cons.mp otherInLeft with same | laterLeft
          · exact same.symm
          · have above := rightFirst _ later
            have below := leftFirst _ laterLeft
            simp only at above below
            omega
      subst heads
      refine congrArg (head :: ·) (inductionHypothesis leftRest others rightRest fun key => ?_)
      have whole := agree key
      simp only [get?, lookup] at whole ⊢
      by_cases same : number head.1 = number key
      · have leftNone : lookup key rest = none := by
          rw [lookup_eq_find?]
          have absent : rest.find? (fun entry => number entry.1 = number key) = none := by
            refine List.find?_eq_none.mpr fun entry member => ?_
            have above := leftFirst entry member
            simp only [decide_eq_true_eq]
            omega
          rw [absent]
          rfl
        have rightNone : lookup key others = none := by
          rw [lookup_eq_find?]
          have absent : others.find? (fun entry => number entry.1 = number key) = none := by
            refine List.find?_eq_none.mpr fun entry member => ?_
            have above := rightFirst entry member
            simp only [decide_eq_true_eq]
            omega
          rw [absent]
          rfl
        rw [leftNone, rightNone]
      · simpa [same] using whole

/-- Maps that answer every look-up alike in one respect hold values that are alike in it. -/
theorem map_values_congr {Other : Type} {left right : OrderedMap Key Value} {view : Value → Other}
    (agree : ∀ key, (left.get? key).map view = (right.get? key).map view) :
    left.values.map view = right.values.map view := by
  let viewed (map : OrderedMap Key Value) : OrderedMap Key Other :=
    ⟨map.entries.map fun entry => (entry.1, view entry.2),
      List.pairwise_map.mpr (map.ascending.imp fun ordered => ordered)⟩
  have look : ∀ map key, (viewed map).get? key = (map.get? key).map view := by
    intro map key
    show lookup key (map.entries.map _) = (lookup key map.entries).map view
    rw [lookup_map_values key fun entry => view entry.2, lookup_eq_find?, Option.map_map]
    rfl
  have values : ∀ map, (viewed map).values = map.values.map view := by
    intro map
    simp [viewed, OrderedMap.values]
  have same : viewed left = viewed right := ext_get? fun key => by
    rw [look, look]
    exact agree key
  rw [← values, ← values, same]

/-- Maps with the same keys are of the same size. -/
theorem size_congr {left right : OrderedMap Key Value}
    (agree : ∀ key, (left.get? key).isSome = (right.get? key).isSome) :
    left.size = right.size := by
  have alike : left.values.map (fun _ => ()) = right.values.map fun _ => () := by
    refine map_values_congr fun key => ?_
    have same := agree key
    cases inLeft : left.get? key <;> cases inRight : right.get? key <;> simp_all
  have lengths := congrArg List.length alike
  simpa [OrderedMap.values, OrderedMap.size] using lengths

/-- A new key makes a map larger by one. -/
theorem size_insert {map : OrderedMap Key Value} {key : Key} (vacant : map.get? key = none)
    (value : Value) : (map.insert key value).size = map.size + 1 := by
  obtain ⟨entries, ascending⟩ := map
  suffices longer : (place key value entries).length = entries.length + 1 from longer
  have absent : lookup key entries = none := vacant
  clear vacant ascending
  induction entries with
  | nil => rfl
  | cons entry rest inductionHypothesis =>
    obtain ⟨other, old⟩ := entry
    rw [lookup] at absent
    split at absent
    · cases absent
    · next different =>
      unfold place
      split
      · rfl
      · rw [if_neg (Ne.symm different), List.length_cons, inductionHypothesis absent,
          List.length_cons]

/-- Changes that agree on the stored value modify a map alike. -/
theorem modify_congr {map : OrderedMap Key Value} {key : Key} {left right : Value → Value}
    (agree : ∀ value, map.get? key = some value → left value = right value) :
    map.modify key left = map.modify key right := by
  refine ext_get? fun probe => ?_
  rw [get?_modify, get?_modify]
  split
  · next same =>
    cases number_injective same
    cases found : map.get? key with
    | none => rfl
    | some value => simp [agree value found]
  · rfl

/-- A map contains the keys under which something is found. -/
theorem contains_eq_true_iff {map : OrderedMap Key Value} {key : Key} :
    map.contains key = true ↔ ∃ value, map.get? key = some value :=
  Option.isSome_iff_exists

end OrderedMap

end DemandPaging
