/-
This file is about logs of things that are acquired under a key, used, and
released again: blocks of memory, handles, reservations. A log is sound when
everything that is used or released is held at that moment, with the value it
was acquired with.

Who hands out the keys and who uses them are two parties. The one that hands
them out promises a fresh key each time; the one that uses them promises to be
sound as long as all keys so far were fresh. Several owners that keep the second
promise, each for its own log, keep it together in every interleaving of their
logs, although each of them knows its own log only.
-/

import Mathlib.Data.List.Basic
import Mathlib.Data.List.Induction
import Mathlib.Logic.Function.Basic

namespace Fleetbench.Library

/-! ### Laws about every event of a log -/

/-- A law about an event and the events before it holds everywhere in a log. -/
def Everywhere {Event : Type} (law : List Event → Event → Prop) (log : List Event) : Prop :=
  ∀ before event after, log = before ++ event :: after → law before event

section

variable {Event : Type} {law other : List Event → Event → Prop} {log : List Event}

theorem everywhere_nil : Everywhere law [] := by
  intro before event after split
  cases before <;> cases split

theorem everywhere_concat {event : Event} :
    Everywhere law (log ++ [event]) ↔ Everywhere law log ∧ law log event := by
  constructor
  · intro everywhere
    refine ⟨fun before earlier after split => everywhere before earlier (after ++ [event]) ?_,
      everywhere log event [] rfl⟩
    rw [split, List.append_assoc]
    rfl
  · rintro ⟨everywhere, last⟩ before earlier after split
    rcases List.eq_nil_or_concat' after with rfl | ⟨front, final, rfl⟩
    · obtain ⟨rfl, ends⟩ := List.append_inj' split rfl
      cases ends
      exact last
    · rw [← List.cons_append, ← List.append_assoc] at split
      exact everywhere before earlier front (List.append_inj' split rfl).1

theorem Everywhere.of_append {rest : List Event} (everywhere : Everywhere law (log ++ rest)) :
    Everywhere law log := by
  intro before event after split
  refine everywhere before event (after ++ rest) ?_
  rw [split, List.append_assoc]
  rfl

end

/-! ### Held keys -/

inductive Tenure (Key Value : Type) where
  | acquire (key : Key) (value : Value)
  | use (key : Key) (value : Value)
  | release (key : Key) (value : Value)
  deriving DecidableEq, Repr

namespace Tenure

variable {Key Value : Type} [DecidableEq Key]

/-- The effect of one event on the map from the held keys to their values. -/
def step (held : Key → Option Value) : Tenure Key Value → Key → Option Value
  | acquire key value => Function.update held key (some value)
  | use _ _ => held
  | release key _ => Function.update held key none

/-- The held keys after a log. -/
def heldAfter (log : List (Tenure Key Value)) : Key → Option Value :=
  log.foldl step fun _ => none

theorem heldAfter_concat (log : List (Tenure Key Value)) (event : Tenure Key Value) :
    heldAfter (log ++ [event]) = event.step (heldAfter log) := by
  rw [heldAfter, List.foldl_concat]
  rfl

/-- The promise of the party that hands out the keys. -/
def FreshAt (held : Key → Option Value) : Tenure Key Value → Prop
  | acquire key _ => held key = none
  | use _ _ => True
  | release _ _ => True

/-- The promise of the party that uses them. -/
def HeldAt (held : Key → Option Value) : Tenure Key Value → Prop
  | acquire _ _ => True
  | use key value => held key = some value
  | release key value => held key = some value

def Fresh (log : List (Tenure Key Value)) : Prop :=
  Everywhere (fun before event => event.FreshAt (heldAfter before)) log

def Sound (log : List (Tenure Key Value)) : Prop :=
  Everywhere (fun before event => event.HeldAt (heldAfter before)) log

/-- Sound, as long as all keys so far were fresh. -/
def Guarded (log : List (Tenure Key Value)) : Prop :=
  Everywhere (fun before event => Fresh before → event.HeldAt (heldAfter before)) log

theorem Guarded.sound {log : List (Tenure Key Value)} (guarded : Guarded log)
    (fresh : Fresh log) : Sound log := by
  intro before event after split
  exact guarded before event after split (split ▸ fresh).of_append

/-! ### Paying back -/

section Releases

variable {log : List (Tenure Key Value)} {owed : List (Key × Value)}

/-- The releases of some keys, one after the other. -/
def releases (owed : List (Key × Value)) : List (Tenure Key Value) :=
  owed.map fun entry => release entry.1 entry.2

/-- Releasing keys that are held, each once, is sound, and they are free behind it. -/
theorem guarded_append_releases (guarded : Guarded log)
    (distinct : Fresh log → (owed.map Prod.fst).Nodup)
    (held : Fresh log → ∀ entry ∈ owed, heldAfter log entry.1 = some entry.2) :
    Guarded (log ++ releases owed) ∧ (Fresh log → ∀ key,
      heldAfter (log ++ releases owed) key =
        if key ∈ owed.map Prod.fst then none else heldAfter log key) := by
  induction owed generalizing log with
  | nil =>
    rw [releases, List.map_nil, List.append_nil]
    exact ⟨guarded, fun _ key => (if_neg List.not_mem_nil).symm⟩
  | cons entry rest inductionHypothesis =>
    obtain ⟨key, value⟩ := entry
    have holds : Fresh log → heldAfter log key = some value :=
      fun fresh => held fresh _ List.mem_cons_self
    have shorter : Fresh (log ++ [release key value]) → Fresh log := Everywhere.of_append
    have others : Fresh log → key ∉ rest.map Prod.fst ∧ (rest.map Prod.fst).Nodup :=
      fun fresh => List.nodup_cons.mp (distinct fresh)
    have first : Guarded (log ++ [release key value]) := everywhere_concat.mpr ⟨guarded, holds⟩
    have step : heldAfter (log ++ [release key value]) = Function.update (heldAfter log) key none :=
      heldAfter_concat log _
    obtain ⟨guarded', after⟩ := inductionHypothesis first
      (fun fresh => (others (shorter fresh)).2) fun fresh other member => by
        have different : other.1 ≠ key := fun same =>
          (others (shorter fresh)).1 (same ▸ List.mem_map_of_mem member)
        rw [step, Function.update_of_ne different]
        exact held (shorter fresh) other (List.mem_cons_of_mem _ member)
    rw [releases, List.map_cons, List.append_cons]
    refine ⟨guarded', fun fresh other => ?_⟩
    have both := after (everywhere_concat.mpr ⟨fresh, trivial⟩) other
    rw [releases, step] at both
    rw [both]
    by_cases same : other = key
    · rw [same, Function.update_self, ite_self, List.map_cons, if_pos List.mem_cons_self]
    · rw [Function.update_of_ne same, List.map_cons]
      simp only [List.mem_cons, same, false_or]

end Releases

/-! ### Several owners -/

variable {Owner : Type}

/-- What is held is held by exactly one owner. -/
structure Divides (all : Key → Option Value) (own : Owner → Key → Option Value) : Prop where
  held : ∀ key value, all key = some value ↔ ∃ owner, own owner key = some value
  apart : ∀ key owner other value otherValue, own owner key = some value →
    own other key = some otherValue → owner = other

section

variable {all : Key → Option Value} {own : Owner → Key → Option Value}

omit [DecidableEq Key] in
theorem divides_none :
    Divides (fun _ : Key => (none : Option Value)) fun _ : Owner => fun _ => none where
  held key value := by simp
  apart key owner other value otherValue held := by cases held

omit [DecidableEq Key] in
theorem Divides.eq_none (divides : Divides all own) {key : Key} (free : all key = none)
    (owner : Owner) : own owner key = none := by
  cases holds : own owner key with
  | none => rfl
  | some value =>
    have held := (divides.held key value).mpr ⟨owner, holds⟩
    rw [free] at held
    cases held

variable [DecidableEq Owner]

theorem Divides.acquire (divides : Divides all own) (owner : Owner) {key : Key} (value : Value)
    (free : all key = none) :
    Divides (Function.update all key (some value))
      (Function.update own owner (Function.update (own owner) key (some value))) := by
  have now : ∀ other, Function.update own owner (Function.update (own owner) key (some value))
      other key = if other = owner then some value else none := by
    intro other
    by_cases same : other = owner
    · rw [if_pos same, same, Function.update_self, Function.update_self]
    · rw [if_neg same, Function.update_of_ne same, divides.eq_none free]
  have old : ∀ other k, k ≠ key → Function.update own owner
      (Function.update (own owner) key (some value)) other k = own other k := by
    intro other k different
    by_cases same : other = owner
    · rw [same, Function.update_self, Function.update_of_ne different]
    · rw [Function.update_of_ne same]
  refine ⟨fun k v => ?_, fun k first second v w holds holds' => ?_⟩
  · by_cases same : k = key
    · subst same
      rw [Function.update_self]
      constructor
      · intro isValue
        exact ⟨owner, by rw [now, if_pos rfl, isValue]⟩
      · rintro ⟨other, holds⟩
        rw [now] at holds
        split at holds
        · exact holds
        · cases holds
    · rw [Function.update_of_ne same, divides.held]
      simp only [old _ k same]
  · by_cases same : k = key
    · subst same
      rw [now] at holds holds'
      split at holds
      · split at holds'
        · rename_i isFirst isSecond
          exact isFirst.trans isSecond.symm
        · cases holds'
      · cases holds
    · rw [old _ k same] at holds holds'
      exact divides.apart k first second v w holds holds'

theorem Divides.release (divides : Divides all own) {owner : Owner} {key : Key} {value : Value}
    (holds : own owner key = some value) :
    Divides (Function.update all key none)
      (Function.update own owner (Function.update (own owner) key none)) := by
  have now : ∀ other, Function.update own owner (Function.update (own owner) key none)
      other key = none := by
    intro other
    by_cases same : other = owner
    · rw [same, Function.update_self, Function.update_self]
    · rw [Function.update_of_ne same]
      cases held : own other key with
      | none => rfl
      | some otherValue =>
        exact absurd (divides.apart key other owner otherValue value held holds) same
  have old : ∀ other k, k ≠ key → Function.update own owner
      (Function.update (own owner) key none) other k = own other k := by
    intro other k different
    by_cases same : other = owner
    · rw [same, Function.update_self, Function.update_of_ne different]
    · rw [Function.update_of_ne same]
  refine ⟨fun k v => ?_, fun k first second v w holds holds' => ?_⟩
  · by_cases same : k = key
    · subst same
      rw [Function.update_self]
      simp only [now, reduceCtorEq, exists_false]
    · rw [Function.update_of_ne same, divides.held]
      simp only [old _ k same]
  · by_cases same : k = key
    · rw [same, now] at holds
      cases holds
    · rw [old _ k same] at holds holds'
      exact divides.apart k first second v w holds holds'

end

/-! ### Interleavings -/

section

variable [DecidableEq Owner]

/-- The log of one owner. -/
def logOf (owner : Owner) (log : List (Owner × Tenure Key Value)) : List (Tenure Key Value) :=
  (log.filter fun entry => entry.1 = owner).map Prod.snd

/-- The log of all owners. -/
def merged (log : List (Owner × Tenure Key Value)) : List (Tenure Key Value) := log.map Prod.snd

omit [DecidableEq Key] in
theorem logOf_concat_self (owner : Owner) (log : List (Owner × Tenure Key Value))
    (event : Tenure Key Value) :
    logOf owner (log ++ [(owner, event)]) = logOf owner log ++ [event] := by
  simp [logOf]

omit [DecidableEq Key] in
theorem logOf_concat_of_ne {owner other : Owner} (different : other ≠ owner)
    (log : List (Owner × Tenure Key Value)) (event : Tenure Key Value) :
    logOf owner (log ++ [(other, event)]) = logOf owner log := by
  simp [logOf, different]

omit [DecidableEq Key] [DecidableEq Owner] in
theorem merged_concat (log : List (Owner × Tenure Key Value))
    (entry : Owner × Tenure Key Value) : merged (log ++ [entry]) = merged log ++ [entry.2] :=
  List.map_append

/-- One more event changes what its owner holds. -/
theorem heldAfter_logOf_concat (log : List (Owner × Tenure Key Value)) (owner : Owner)
    (event : Tenure Key Value) :
    (fun other => heldAfter (logOf other (log ++ [(owner, event)]))) =
      Function.update (fun other => heldAfter (logOf other log)) owner
        (event.step (heldAfter (logOf owner log))) := by
  funext other
  by_cases same : other = owner
  · rw [same, Function.update_self, logOf_concat_self, heldAfter_concat]
  · rw [Function.update_of_ne same, logOf_concat_of_ne (Ne.symm same)]

theorem Divides.step {all : Key → Option Value} {own : Owner → Key → Option Value}
    (divides : Divides all own) {owner : Owner} {event : Tenure Key Value}
    (fresh : event.FreshAt all) (held : event.HeldAt (own owner)) :
    Divides (event.step all) (Function.update own owner (event.step (own owner))) := by
  cases event with
  | acquire key value => exact divides.acquire owner value fresh
  | use key value =>
    have unchanged : Function.update own owner (own owner) = own :=
      Function.update_eq_self owner own
    exact unchanged.symm ▸ divides
  | release key value => exact divides.release held

/-- The owners of an interleaving, each of them sound as long as its own keys are fresh, are sound
together when the keys are fresh for all of them: a key is only used by the owner that holds it. -/
theorem divides_of_guarded {log : List (Owner × Tenure Key Value)} (fresh : Fresh (merged log))
    (guarded : ∀ owner, Guarded (logOf owner log)) :
    Divides (heldAfter (merged log)) (fun owner => heldAfter (logOf owner log)) ∧
      (∀ owner, Fresh (logOf owner log)) ∧ Sound (merged log) := by
  induction log using List.reverseRecOn with
  | nil => exact ⟨divides_none, fun owner => everywhere_nil, everywhere_nil⟩
  | append_singleton log entry inductionHypothesis =>
    obtain ⟨owner, event⟩ := entry
    rw [merged_concat] at fresh ⊢
    obtain ⟨freshBefore, isFresh⟩ := everywhere_concat.mp fresh
    have guardedBefore : ∀ other, Guarded (logOf other log) := by
      intro other
      have whole := guarded other
      by_cases same : owner = other
      · rw [← same, logOf_concat_self] at whole
        exact same ▸ (everywhere_concat.mp whole).1
      · rwa [logOf_concat_of_ne same] at whole
    obtain ⟨divides, ownFresh, sound⟩ := inductionHypothesis freshBefore guardedBefore
    have guardedNow := guarded owner
    rw [logOf_concat_self] at guardedNow
    have held : event.HeldAt (heldAfter (logOf owner log)) :=
      (everywhere_concat.mp guardedNow).2 (ownFresh owner)
    refine ⟨?_, fun other => ?_, everywhere_concat.mpr ⟨sound, ?_⟩⟩
    · rw [heldAfter_concat, heldAfter_logOf_concat]
      exact divides.step isFresh held
    · by_cases same : owner = other
      · rw [← same, logOf_concat_self]
        refine everywhere_concat.mpr ⟨ownFresh owner, ?_⟩
        cases event with
        | acquire key value => exact divides.eq_none isFresh owner
        | use key value => trivial
        | release key value => trivial
      · rw [logOf_concat_of_ne same]
        exact ownFresh other
    · cases event with
      | acquire key value => trivial
      | use key value => exact (divides.held key value).mpr ⟨owner, held⟩
      | release key value => exact (divides.held key value).mpr ⟨owner, held⟩

/-- Nothing is left over when no owner leaves anything. -/
theorem heldAfter_merged_eq_none {log : List (Owner × Tenure Key Value)}
    (divides : Divides (heldAfter (merged log)) fun owner => heldAfter (logOf owner log))
    (released : ∀ owner key, heldAfter (logOf owner log) key = none) (key : Key) :
    heldAfter (merged log) key = none := by
  cases held : heldAfter (merged log) key with
  | none => rfl
  | some value =>
    obtain ⟨owner, holds⟩ := (divides.held key value).mp held
    rw [released owner key] at holds
    cases holds

end

end Tenure

end Fleetbench.Library
