/-
This file provides dictionaries that remember the order in which their keys
were first set: an association list with distinct keys. Setting a key that is
there keeps its place; setting a new one puts it last.
-/

import Mathlib.Tactic.Common
import Mathlib.Data.List.Basic
import Mathlib.Data.List.Induction
import Mathlib.Data.List.Nodup

namespace Fleetbench.Library

structure Dict (Key Value : Type*) where
  entries : List (Key × Value)
  distinct : (entries.map (·.1)).Nodup

namespace Dict

variable {Key Value : Type*}

def keys (dict : Dict Key Value) : List Key := dict.entries.map (·.1)

def values (dict : Dict Key Value) : List Value := dict.entries.map (·.2)

def empty : Dict Key Value := ⟨[], .nil⟩

/-- One entry for each of a list of different keys. -/
def ofKeys (keys : List Key) (distinct : keys.Nodup) (value : Key → Value) : Dict Key Value where
  entries := keys.map fun key => (key, value key)
  distinct := by
    rw [List.map_map]
    exact (List.map_id keys).symm ▸ distinct

@[simp] theorem keys_ofKeys (keys : List Key) (distinct : keys.Nodup) (value : Key → Value) :
    (ofKeys keys distinct value).keys = keys := by
  rw [Dict.keys, ofKeys, List.map_map]
  exact List.map_id keys

variable [DecidableEq Key]

def get? (dict : Dict Key Value) (key : Key) : Option Value := dict.entries.lookup key

theorem lookup_eq_some_iff {entries : List (Key × Value)} (distinct : (entries.map (·.1)).Nodup)
    {key : Key} {value : Value} : entries.lookup key = some value ↔ (key, value) ∈ entries := by
  induction entries with
  | nil => simp
  | cons first rest inductionHypothesis =>
    obtain ⟨other, found⟩ := first
    rw [List.map_cons, List.nodup_cons] at distinct
    rw [List.lookup_cons, List.mem_cons]
    by_cases same : key = other
    · subst same
      rw [beq_self_eq_true]
      constructor
      · rintro ⟨⟩
        exact .inl rfl
      · rintro (same | member)
        · cases same
          rfl
        · exact absurd (List.mem_map_of_mem member) distinct.1
    · rw [beq_eq_false_iff_ne.mpr same, Prod.mk.injEq]
      simp only [same, false_and, false_or]
      exact inductionHypothesis distinct.2

theorem get?_eq_some_iff {dict : Dict Key Value} {key : Key} {value : Value} :
    dict.get? key = some value ↔ (key, value) ∈ dict.entries :=
  lookup_eq_some_iff dict.distinct

theorem get?_isSome_iff {dict : Dict Key Value} {key : Key} :
    (∃ value, dict.get? key = some value) ↔ key ∈ dict.keys := by
  simp only [get?_eq_some_iff, keys, List.mem_map]
  constructor
  · rintro ⟨value, member⟩
    exact ⟨_, member, rfl⟩
  · rintro ⟨⟨_, value⟩, member, rfl⟩
    exact ⟨value, member⟩

theorem get?_eq_none_iff {dict : Dict Key Value} {key : Key} :
    dict.get? key = none ↔ key ∉ dict.keys := by
  rw [← get?_isSome_iff, Option.eq_none_iff_forall_ne_some, not_exists]

theorem get?_ofKeys {keys : List Key} {distinct : keys.Nodup} {value : Key → Value} {key : Key}
    (member : key ∈ keys) : (ofKeys keys distinct value).get? key = some (value key) :=
  get?_eq_some_iff.mpr (List.mem_map_of_mem member)

/-- `dict[key] = value`. -/
def set (dict : Dict Key Value) (key : Key) (value : Value) : Dict Key Value where
  entries :=
    if key ∈ dict.keys then
      dict.entries.map fun entry => if entry.1 = key then (key, value) else entry
    else dict.entries ++ [(key, value)]
  distinct := by
    split
    · have kept : (dict.entries.map fun entry => if entry.1 = key then (key, value) else entry).map
          (·.1) = dict.entries.map (·.1) := by
        rw [List.map_map]
        refine List.map_congr_left fun entry _ => ?_
        rw [Function.comp_apply]
        split
        · rename_i same
          exact same.symm
        · rfl
      rw [kept]
      exact dict.distinct
    · rename_i fresh
      rw [List.map_append, List.nodup_append]
      refine ⟨dict.distinct, List.nodup_singleton _, fun other member new isNew => ?_⟩
      rw [List.mem_singleton.mp isNew]
      rintro rfl
      exact fresh member

theorem mem_keys_set {dict : Dict Key Value} {key other : Key} {value : Value} :
    other ∈ (dict.set key value).keys ↔ other ∈ dict.keys ∨ other = key := by
  rw [keys, set]
  split
  · rename_i present
    rw [List.map_map]
    have kept : dict.entries.map ((·.1) ∘ fun entry => if entry.1 = key then (key, value)
        else entry) = dict.keys := by
      refine List.map_congr_left fun entry _ => ?_
      rw [Function.comp_apply]
      split
      · rename_i same
        exact same.symm
      · rfl
    rw [kept]
    constructor
    · exact .inl
    · rintro (member | rfl)
      · exact member
      · exact present
  · rw [List.map_append, List.mem_append, List.map_singleton, List.mem_singleton]
    rfl

theorem get?_set_self (dict : Dict Key Value) (key : Key) (value : Value) :
    (dict.set key value).get? key = some value := by
  rw [get?_eq_some_iff, set]
  split
  · rename_i present
    obtain ⟨entry, member, rfl⟩ := List.mem_map.mp present
    exact List.mem_map.mpr ⟨entry, member, if_pos rfl⟩
  · exact List.mem_append_right _ List.mem_cons_self

theorem get?_set_of_ne (dict : Dict Key Value) {key other : Key} (different : other ≠ key)
    (value : Value) : (dict.set key value).get? other = dict.get? other := by
  refine Option.ext fun found => ?_
  rw [get?_eq_some_iff, get?_eq_some_iff, set]
  split
  · rw [List.mem_map]
    constructor
    · rintro ⟨entry, member, replaced⟩
      split at replaced
      · cases replaced
        exact absurd rfl different
      · exact replaced ▸ member
    · exact fun member => ⟨_, member, if_neg different⟩
  · rw [List.mem_append, List.mem_singleton, Prod.mk.injEq]
    simp only [different, false_and, or_false]

/-! ### Building dictionaries -/

/-- `dict(entries)`: the entries are set one after the other. -/
def ofEntries (entries : List (Key × Value)) : Dict Key Value :=
  entries.foldl (fun dict entry => dict.set entry.1 entry.2) empty

theorem entries_set_of_fresh {dict : Dict Key Value} {key : Key} (fresh : key ∉ dict.keys)
    (value : Value) : (dict.set key value).entries = dict.entries ++ [(key, value)] :=
  if_neg fresh

theorem mem_entries_set {dict : Dict Key Value} {key : Key} {value : Value} {entry : Key × Value}
    (member : entry ∈ (dict.set key value).entries) :
    entry = (key, value) ∨ entry ∈ dict.entries := by
  rw [set] at member
  split at member
  · obtain ⟨old, inside, rfl⟩ := List.mem_map.mp member
    split
    · exact .inl rfl
    · exact .inr inside
  · rcases List.mem_append.mp member with inside | isNew
    · exact .inr inside
    · exact .inl (List.mem_singleton.mp isNew)

/-- Setting entries invents none. -/
theorem mem_entries_foldl_set {entries : List (Key × Value)} {dict : Dict Key Value}
    {entry : Key × Value}
    (member : entry ∈ (entries.foldl (fun dict entry => dict.set entry.1 entry.2) dict).entries) :
    entry ∈ dict.entries ∨ entry ∈ entries := by
  induction entries generalizing dict with
  | nil => exact .inl member
  | cons first rest inductionHypothesis =>
    rcases inductionHypothesis member with isSet | inRest
    · rcases mem_entries_set isSet with rfl | inside
      · exact .inr List.mem_cons_self
      · exact .inl inside
    · exact .inr (List.mem_cons_of_mem _ inRest)

theorem mem_of_mem_ofEntries {entries : List (Key × Value)} :
    ∀ entry ∈ (ofEntries entries).entries, entry ∈ entries :=
  fun _ member => (mem_entries_foldl_set member).resolve_left List.not_mem_nil

/-- Entries with different keys are kept as they are. -/
theorem entries_ofEntries {entries : List (Key × Value)}
    (distinct : (entries.map (·.1)).Nodup) : (ofEntries entries).entries = entries := by
  have general : ∀ (rest : List (Key × Value)) (dict : Dict Key Value),
      (dict.keys ++ rest.map (·.1)).Nodup →
      (rest.foldl (fun dict entry => dict.set entry.1 entry.2) dict).entries =
        dict.entries ++ rest := by
    intro rest
    induction rest with
    | nil => exact fun dict _ => (List.append_nil _).symm
    | cons first rest inductionHypothesis =>
      intro dict distinct
      rw [List.map_cons, List.append_cons] at distinct
      have fresh : first.1 ∉ dict.keys := fun member =>
        (List.nodup_append.mp (List.nodup_append.mp distinct).1).2.2 _ member _
          List.mem_cons_self rfl
      have grown := entries_set_of_fresh fresh first.2
      rw [List.foldl_cons, inductionHypothesis, grown, List.append_assoc]
      · rfl
      · rw [keys, grown, List.map_append]
        exact distinct
  rw [ofEntries, general entries empty distinct]
  rfl

theorem mem_keys_foldl_set {entries : List (Key × Value)} {dict : Dict Key Value} {key : Key} :
    key ∈ (entries.foldl (fun dict entry => dict.set entry.1 entry.2) dict).keys ↔
      key ∈ dict.keys ∨ key ∈ entries.map (·.1) := by
  induction entries generalizing dict with
  | nil => simp
  | cons first rest inductionHypothesis =>
    rw [List.foldl_cons, inductionHypothesis, mem_keys_set, List.map_cons, List.mem_cons, or_assoc]

theorem mem_keys_ofEntries {entries : List (Key × Value)} {key : Key} :
    key ∈ (ofEntries entries).keys ↔ key ∈ entries.map (·.1) := by
  rw [ofEntries, mem_keys_foldl_set]
  exact or_iff_right List.not_mem_nil

/-- Of the entries that are set, the last with a key counts. -/
theorem get?_foldl_set (entries : List (Key × Value)) (dict : Dict Key Value) (key : Key) :
    (entries.foldl (fun dict entry => dict.set entry.1 entry.2) dict).get? key =
      (entries.reverse.lookup key).or (dict.get? key) := by
  induction entries generalizing dict with
  | nil => rfl
  | cons first rest inductionHypothesis =>
    rw [List.foldl_cons, inductionHypothesis, List.reverse_cons, List.lookup_append,
      Option.or_assoc]
    refine congrArg ((rest.reverse.lookup key).or ·) ?_
    rw [List.lookup_cons]
    by_cases same : key = first.1
    · rw [same, get?_set_self, beq_self_eq_true]
      rfl
    · rw [get?_set_of_ne dict same, beq_eq_false_iff_ne.mpr same]
      rfl

theorem lookup_reverse {entries : List (Key × Value)} (distinct : (entries.map (·.1)).Nodup)
    (key : Key) : entries.reverse.lookup key = entries.lookup key := by
  have reversed : (entries.reverse.map (·.1)).Nodup := by
    rw [List.map_reverse]
    exact List.nodup_reverse.mpr distinct
  refine Option.ext fun value => ?_
  rw [lookup_eq_some_iff reversed, lookup_eq_some_iff distinct, List.mem_reverse]

/-- `dict.update(other)`: the other dictionary comes first. -/
theorem get?_update (dict other : Dict Key Value) (key : Key) :
    (other.entries.foldl (fun dict entry => dict.set entry.1 entry.2) dict).get? key =
      (other.get? key).or (dict.get? key) := by
  rw [get?_foldl_set, lookup_reverse other.distinct]
  rfl

theorem lookup_filter (kept : Key → Bool) (entries : List (Key × Value)) (key : Key) :
    (entries.filter fun entry => kept entry.1).lookup key =
      if kept key then entries.lookup key else none := by
  induction entries with
  | nil => exact (ite_self none).symm
  | cons first rest inductionHypothesis =>
    rw [List.filter_cons, List.lookup_cons]
    by_cases same : key = first.1
    · subst same
      rw [beq_self_eq_true]
      split
      · rw [List.lookup_cons, beq_self_eq_true]
      · rename_i dropped
        rw [inductionHypothesis, if_neg dropped]
    · rw [beq_eq_false_iff_ne.mpr same, ← inductionHypothesis]
      split
      · rw [List.lookup_cons, beq_eq_false_iff_ne.mpr same]
      · rfl

/-- Entries whose keys are left out are not found; the others are found as they were. -/
theorem get?_ofEntries_filter (kept : Key → Bool) (entries : List (Key × Value)) (key : Key) :
    (ofEntries (entries.filter fun entry => kept entry.1)).get? key =
      if kept key then (ofEntries entries).get? key else none := by
  rw [ofEntries, ofEntries, get?_foldl_set, get?_foldl_set, ← List.filter_reverse, lookup_filter]
  split
  · rfl
  · rfl

/-- Setting keys to the same value. -/
theorem get?_foldl_set_const {keys : List Key} {key : Key} (member : key ∈ keys)
    (dict : Dict Key Value) (value : Value) :
    (keys.foldl (fun dict key => dict.set key value) dict).get? key = some value := by
  induction keys using List.reverseRecOn with
  | nil => cases member
  | append_singleton front last inductionHypothesis =>
    rw [List.foldl_append, List.foldl_cons, List.foldl_nil]
    by_cases same : key = last
    · rw [same, get?_set_self]
    · rw [get?_set_of_ne _ same]
      refine inductionHypothesis ((List.mem_append.mp member).resolve_right fun isLast => ?_)
      exact same (List.mem_singleton.mp isLast)

theorem filter_lookup {entries : List (Key × Value)} (distinct : (entries.map (·.1)).Nodup)
    (key : Key) :
    (entries.filter fun entry => entry.1 = key).map (·.2) = (entries.lookup key).toList := by
  induction entries with
  | nil => rfl
  | cons first rest inductionHypothesis =>
    obtain ⟨other, value⟩ := first
    rw [List.map_cons, List.nodup_cons] at distinct
    have others := inductionHypothesis distinct.2
    rw [List.lookup_cons]
    by_cases same : other = key
    · subst same
      have absent : rest.lookup other = none := by
        refine Option.eq_none_iff_forall_ne_some.mpr fun found isFound => distinct.1 ?_
        have member := (lookup_eq_some_iff distinct.2).mp isFound
        exact List.mem_map.mpr ⟨_, member, rfl⟩
      rw [absent] at others
      rw [beq_self_eq_true, List.filter_cons, if_pos (by simp), List.map_cons, others]
      rfl
    · rw [beq_eq_false_iff_ne.mpr (Ne.symm same),
        List.filter_cons_of_neg (by simpa using same)]
      exact others

/-- The entry of a key, if there is one. -/
theorem filter_entries (dict : Dict Key Value) (key : Key) :
    (dict.entries.filter fun entry => entry.1 = key).map (·.2) = (dict.get? key).toList :=
  filter_lookup dict.distinct key

/-! ### Folding over a dictionary -/

section

variable {Item : Type*} (key : Item → Key) (change : Value → Item → Value) (start : Value)

/-- Change the value of the key of an item, which starts with a default. -/
def adjust (dict : Dict Key Value) (item : Item) : Dict Key Value :=
  dict.set (key item) (change ((dict.get? (key item)).getD start) item)

theorem getD_adjust (dict : Dict Key Value) (item : Item) (place : Key) :
    ((dict.adjust key change start item).get? place).getD start =
      if key item = place then change ((dict.get? place).getD start) item
      else (dict.get? place).getD start := by
  by_cases same : key item = place
  · subst same
    rw [adjust, get?_set_self, if_pos rfl]
    rfl
  · rw [adjust, get?_set_of_ne _ (Ne.symm same), if_neg same]

/-- What a fold makes of the value of a key depends on the items with that key only. -/
theorem getD_foldl_adjust (items : List Item) (dict : Dict Key Value) (place : Key) :
    ((items.foldl (adjust key change start) dict).get? place).getD start =
      (items.filter fun item => key item = place).foldl change
        ((dict.get? place).getD start) := by
  induction items generalizing dict with
  | nil => rfl
  | cons first rest inductionHypothesis =>
    rw [List.foldl_cons, inductionHypothesis, getD_adjust]
    by_cases same : key first = place
    · rw [if_pos same, List.filter_cons_of_pos (by simpa using same), List.foldl_cons]
    · rw [if_neg same, List.filter_cons_of_neg (by simpa using same)]

theorem mem_keys_foldl_adjust (items : List Item) (dict : Dict Key Value) (place : Key) :
    place ∈ (items.foldl (adjust key change start) dict).keys ↔
      place ∈ dict.keys ∨ place ∈ items.map key := by
  induction items generalizing dict with
  | nil => simp
  | cons first rest inductionHypothesis =>
    rw [List.foldl_cons, inductionHypothesis, adjust, mem_keys_set, List.map_cons, List.mem_cons,
      or_assoc]

end

/-! ### Grouping -/

/-- Append a value to the list of a key, which starts empty. -/
def addTo (groups : Dict Key (List Value)) (entry : Key × Value) : Dict Key (List Value) :=
  groups.set entry.1 ((groups.get? entry.1).getD [] ++ [entry.2])

theorem addTo_eq_adjust : (addTo : Dict Key (List Value) → Key × Value → Dict Key (List Value)) =
    adjust (·.1) (fun values entry => values ++ [entry.2]) [] := rfl

/-- The values of each key, in order. -/
def group (entries : List (Key × Value)) : Dict Key (List Value) := entries.foldl addTo empty

theorem group_concat (entries : List (Key × Value)) (entry : Key × Value) :
    group (entries ++ [entry]) = (group entries).addTo entry := by
  rw [group, List.foldl_append]
  rfl

omit [DecidableEq Key] in
theorem foldl_append_snd (entries : List (Key × Value)) (values : List Value) :
    entries.foldl (fun values entry => values ++ [entry.2]) values =
      values ++ entries.map (·.2) := by
  induction entries generalizing values with
  | nil => exact (List.append_nil _).symm
  | cons first rest inductionHypothesis =>
    rw [List.foldl_cons, inductionHypothesis, List.append_assoc]
    rfl

theorem getD_group (entries : List (Key × Value)) (key : Key) :
    ((group entries).get? key).getD [] =
      (entries.filter fun entry => entry.1 = key).map (·.2) := by
  rw [group, addTo_eq_adjust, getD_foldl_adjust, foldl_append_snd]
  rfl

theorem mem_keys_group {entries : List (Key × Value)} {key : Key} :
    key ∈ (group entries).keys ↔ key ∈ entries.map (·.1) := by
  rw [group, addTo_eq_adjust, mem_keys_foldl_adjust]
  exact or_iff_right List.not_mem_nil

/-- Every group holds exactly the values of its key. -/
theorem mem_entries_group {entries : List (Key × Value)} {key : Key} {values : List Value}
    (member : (key, values) ∈ (group entries).entries) :
    values = (entries.filter fun entry => entry.1 = key).map (·.2) := by
  rw [← getD_group, get?_eq_some_iff.mpr member]
  rfl

/-! ### Updating entries -/

section Updates

universe u

variable {Name Content Item : Type u} [DecidableEq Name]

/-- A step that changes the value of the key of an item, and nothing else. -/
def Updates (step : Dict Name Content → Item → Option (Dict Name Content)) (key : Item → Name)
    (change : Item → Content → Content) : Prop :=
  ∀ dict item, key item ∈ dict.keys → ∃ updated, step dict item = some updated ∧
    ∀ other, updated.get? other =
      if other = key item then (dict.get? other).map (change item) else dict.get? other

theorem mem_keys_iff_isSome {dict : Dict Name Content} {key : Name} :
    key ∈ dict.keys ↔ (dict.get? key).isSome = true := by
  rw [Option.isSome_iff_exists, get?_isSome_iff]

/-- Changing the value of a key leaves the keys alone. -/
theorem mem_keys_of_changed {dict updated : Dict Name Content} {key : Name}
    {change : Content → Content}
    (entries : ∀ other, updated.get? other =
      if other = key then (dict.get? other).map change else dict.get? other) {other : Name} :
    other ∈ updated.keys ↔ other ∈ dict.keys := by
  rw [mem_keys_iff_isSome, mem_keys_iff_isSome, entries]
  split
  · rw [Option.isSome_map]
  · rfl

theorem updates_set (key : Item → Name) (change : Item → Content → Content) :
    Updates (fun dict item => do
      let old ← dict.get? (key item)
      return dict.set (key item) (change item old)) key change := by
  intro dict item present
  obtain ⟨old, found⟩ := get?_isSome_iff.mpr present
  refine ⟨dict.set (key item) (change item old), by simp only [found]; rfl, fun other => ?_⟩
  by_cases same : other = key item
  · subst same
    rw [if_pos rfl, get?_set_self, found]
    rfl
  · rw [if_neg same, get?_set_of_ne dict same]

variable {step : Dict Name Content → Item → Option (Dict Name Content)} {key : Item → Name}
  {change : Item → Content → Content} (updates : Updates step key change)

include updates

/-- Steps for items with different keys change every item's value once. -/
theorem foldlM_updates {items : List Item} (distinct : (items.map key).Nodup)
    {dict : Dict Name Content} (present : ∀ item ∈ items, key item ∈ dict.keys) :
    ∃ updated, items.foldlM step dict = some updated ∧
      (∀ item ∈ items, updated.get? (key item) = (dict.get? (key item)).map (change item)) ∧
      ∀ other, other ∉ items.map key → updated.get? other = dict.get? other := by
  induction items generalizing dict with
  | nil => exact ⟨dict, rfl, fun _ member => (nomatch member), fun _ _ => rfl⟩
  | cons first rest inductionHypothesis =>
    rw [List.map_cons, List.nodup_cons] at distinct
    obtain ⟨next, stepped, entries⟩ := updates dict first (present first List.mem_cons_self)
    have present' : ∀ item ∈ rest, key item ∈ next.keys := fun item member =>
      (mem_keys_of_changed entries).mpr (present item (List.mem_cons_of_mem _ member))
    obtain ⟨updated, stepsOn, changed, others⟩ := inductionHypothesis distinct.2 present'
    refine ⟨updated, by rw [List.foldlM_cons, stepped]; exact stepsOn, ?_, fun other outside => ?_⟩
    · intro item member
      rcases List.mem_cons.mp member with rfl | inRest
      · rw [others _ distinct.1, entries, if_pos rfl]
      · have apart : key item ≠ key first := fun same =>
          distinct.1 (same ▸ List.mem_map_of_mem inRest)
        rw [changed item inRest, entries, if_neg apart]
    · rw [List.map_cons, List.mem_cons, not_or] at outside
      rw [others other outside.2, entries, if_neg outside.1]

end Updates

/-! ### Updating groups of entries -/

section Groups

universe u

variable {Name Content Item : Type u} [DecidableEq Name]

/-- A step for a group of items that gives the key of each its value, provided that the values
before are as they should be, and leaves the other keys alone. -/
def Settles (step : Dict Name Content → List Item → Option (Dict Name Content)) (key : Item → Name)
    (ready : List Item → Option Content → Prop) (value : List Item → Item → Content) : Prop :=
  ∀ dict items, (items.map key).Nodup → (∀ item ∈ items, ready items (dict.get? (key item))) →
    ∃ settled, step dict items = some settled ∧
      (∀ item ∈ items, settled.get? (key item) = some (value items item)) ∧
      ∀ other, other ∉ items.map key → settled.get? other = dict.get? other

variable {step : Dict Name Content → List Item → Option (Dict Name Content)} {key : Item → Name}
  {ready : List Item → Option Content → Prop} {value : List Item → Item → Content}

/-- The values of other groups stay as they should be. -/
theorem ready_of_unchanged {first : List Item} {rest : List (List Item)}
    {dict next : Dict Name Content}
    (apart : ∀ name ∈ first.map key, ∀ other ∈ rest.flatten.map key, name ≠ other)
    (unchanged : ∀ other, other ∉ first.map key → next.get? other = dict.get? other)
    (areReady : ∀ items ∈ first :: rest, ∀ item ∈ items, ready items (dict.get? (key item))) :
    ∀ items ∈ rest, ∀ item ∈ items, ready items (next.get? (key item)) := by
  intro items member item inside
  have inRest : key item ∈ rest.flatten.map key :=
    List.mem_map_of_mem (List.mem_flatten_of_mem member inside)
  rw [unchanged _ fun inFirst => apart _ inFirst _ inRest rfl]
  exact areReady items (List.mem_cons_of_mem _ member) item inside

/-- Groups without common keys are settled one by one. -/
theorem Settles.foldlM (settles : Settles step key ready value) {groups : List (List Item)}
    (distinct : (groups.flatten.map key).Nodup) (dict : Dict Name Content)
    (areReady : ∀ items ∈ groups, ∀ item ∈ items, ready items (dict.get? (key item))) :
    ∃ settled, groups.foldlM step dict = some settled ∧
      (∀ items ∈ groups, ∀ item ∈ items,
        settled.get? (key item) = some (value items item)) ∧
      ∀ other, other ∉ groups.flatten.map key → settled.get? other = dict.get? other := by
  induction groups generalizing dict with
  | nil => exact ⟨dict, rfl, fun _ member => (nomatch member), fun _ _ => rfl⟩
  | cons first rest inductionHypothesis =>
    rw [List.flatten_cons, List.map_append, List.nodup_append] at distinct
    obtain ⟨firstDistinct, restDistinct, apart⟩ := distinct
    obtain ⟨next, stepped, values, others⟩ :=
      settles dict first firstDistinct (areReady first List.mem_cons_self)
    obtain ⟨settled, stepsOn, valuesOn, othersOn⟩ :=
      inductionHypothesis restDistinct next (ready_of_unchanged apart others areReady)
    refine ⟨settled, by rw [List.foldlM_cons, stepped]; exact stepsOn, ?_, fun other outside => ?_⟩
    · intro items member item inside
      rcases List.mem_cons.mp member with rfl | member
      · have inFirst : key item ∈ items.map key := List.mem_map_of_mem inside
        rw [othersOn _ fun member => apart _ inFirst _ member rfl]
        exact values item inside
      · exact valuesOn items member item inside
    · rw [List.flatten_cons, List.map_append, List.mem_append, not_or] at outside
      rw [othersOn other outside.2, others other outside.1]

/-- If some groups make the step fail, the loop succeeds exactly without them. -/
theorem Settles.foldlM_isSome_iff {fails : List Item → Prop}
    (settles : Settles step key (fun items content => ready items content ∧ ¬ fails items) value)
    (stops : ∀ dict items, (items.map key).Nodup →
      (∀ item ∈ items, ready items (dict.get? (key item))) → fails items → step dict items = none)
    {groups : List (List Item)} (distinct : (groups.flatten.map key).Nodup)
    (dict : Dict Name Content)
    (areReady : ∀ items ∈ groups, ∀ item ∈ items, ready items (dict.get? (key item))) :
    (groups.foldlM step dict).isSome = true ↔ ∀ items ∈ groups, ¬ fails items := by
  induction groups generalizing dict with
  | nil => exact ⟨fun _ _ member => (nomatch member), fun _ => rfl⟩
  | cons first rest inductionHypothesis =>
    rw [List.flatten_cons, List.map_append, List.nodup_append] at distinct
    obtain ⟨firstDistinct, restDistinct, apart⟩ := distinct
    have firstReady := areReady first List.mem_cons_self
    rw [List.foldlM_cons, List.forall_mem_cons]
    by_cases firstFails : fails first
    · rw [stops dict first firstDistinct firstReady firstFails]
      exact ⟨fun impossible => (nomatch impossible), fun both => absurd firstFails both.1⟩
    · obtain ⟨next, stepped, -, others⟩ :=
        settles dict first firstDistinct fun item member => ⟨firstReady item member, firstFails⟩
      rw [stepped, and_iff_right firstFails]
      exact inductionHypothesis restDistinct next (ready_of_unchanged apart others areReady)

/-- Setting the keys of items one by one. -/
theorem foldlM_set {items : List Item} (distinct : (items.map key).Nodup) (content : Item → Content)
    (dict : Dict Name Content) :
    ∃ settled, items.foldlM (fun dict item => some (dict.set (key item) (content item))) dict =
        some settled ∧
      (∀ item ∈ items, settled.get? (key item) = some (content item)) ∧
      ∀ other, other ∉ items.map key → settled.get? other = dict.get? other := by
  induction items generalizing dict with
  | nil => exact ⟨dict, rfl, fun _ member => (nomatch member), fun _ _ => rfl⟩
  | cons first rest inductionHypothesis =>
    rw [List.map_cons, List.nodup_cons] at distinct
    obtain ⟨settled, settles, values, others⟩ :=
      inductionHypothesis distinct.2 (dict.set (key first) (content first))
    refine ⟨settled, settles, ?_, fun other outside => ?_⟩
    · intro item member
      rcases List.mem_cons.mp member with rfl | inRest
      · rw [others _ distinct.1, get?_set_self]
      · exact values item inRest
    · rw [List.map_cons, List.mem_cons, not_or] at outside
      rw [others other outside.2, get?_set_of_ne _ outside.1]

end Groups

end Dict

end Fleetbench.Library
