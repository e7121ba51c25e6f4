/-
This file is about reserving resources that are guarded by a lock and by a
flag. Somewhere in a system there are places, each of which may hold the
resources of one owner; a resource is locked in the name of the owner that
holds it, and its flag is up except just after the lock was taken and just
before it is given back. A ledger is what is left of such a system when
everything else is forgotten. The steps of a ledger keep its books balanced,
so no resource is ever held twice.
-/

import Mathlib.Logic.Function.Basic
import Mathlib.Data.List.Nodup

namespace Fleetbench.Library

variable {Place Owner Resource : Type*}

/-! ### Ledgers -/

/-- The resources of one owner: those whose flag is up, in order, and at most one that is
locked without its flag. -/
structure Hold (Owner Resource : Type*) where
  owner : Owner
  flagged : List Resource
  pending : Option Resource := none

def Hold.claims (hold : Hold Owner Resource) : List Resource :=
  hold.flagged ++ hold.pending.toList

theorem Hold.mem_claims_of_flagged {hold : Hold Owner Resource} {resource : Resource}
    (member : resource ∈ hold.flagged) : resource ∈ hold.claims :=
  List.mem_append_left _ member

theorem Hold.mem_claims_of_pending {hold : Hold Owner Resource} {resource : Resource}
    (pending : hold.pending = some resource) : resource ∈ hold.claims := by
  rw [Hold.claims, pending]
  exact List.mem_append_right _ (List.mem_singleton_self _)

@[ext]
structure Ledger (Place Owner Resource : Type*) where
  hold : Place → Option (Hold Owner Resource)
  reserved : Resource → Option Owner
  flag : Resource → Bool

/-- The books are balanced: an owner is in one place, a resource is reserved by an owner exactly
when the owner's place claims it, and its flag is up exactly when it is listed as flagged. -/
structure Ledger.Balanced (ledger : Ledger Place Owner Resource) : Prop where
  unique : ∀ p q first second, ledger.hold p = some first → ledger.hold q = some second →
    first.owner = second.owner → p = q
  nodup : ∀ p hold, ledger.hold p = some hold → hold.claims.Nodup
  reserved : ∀ resource owner, ledger.reserved resource = some owner ↔
    ∃ p hold, ledger.hold p = some hold ∧ hold.owner = owner ∧ resource ∈ hold.claims
  flag : ∀ resource, ledger.flag resource = true ↔
    ∃ p hold, ledger.hold p = some hold ∧ resource ∈ hold.flagged

/-- No resource is claimed in two places. -/
theorem Ledger.Balanced.disjoint {ledger : Ledger Place Owner Resource}
    (balanced : ledger.Balanced) {p q : Place} {first second : Hold Owner Resource}
    {resource : Resource} (atFirst : ledger.hold p = some first)
    (atSecond : ledger.hold q = some second) (inFirst : resource ∈ first.claims)
    (inSecond : resource ∈ second.claims) : p = q := by
  have firstOwns := (balanced.reserved resource first.owner).mpr ⟨p, first, atFirst, rfl, inFirst⟩
  have secondOwns := (balanced.reserved resource second.owner).mpr
    ⟨q, second, atSecond, rfl, inSecond⟩
  exact balanced.unique p q first second atFirst atSecond
    (Option.some.inj (firstOwns.symm.trans secondOwns))

/-! ### Steps -/

variable [DecidableEq Place] [DecidableEq Resource]

/-- What a system may do to its ledger in one step, when only owners that are admitted may
enter. -/
inductive Ledger.Step (admitted : Owner → Prop) :
    Ledger Place Owner Resource → Ledger Place Owner Resource → Prop where
  | enter {ledger : Ledger Place Owner Resource} {p : Place} {owner : Owner}
      (isAdmitted : admitted owner) (vacant : ledger.hold p = none)
      (fresh : ∀ q hold, ledger.hold q = some hold → hold.owner ≠ owner) :
      Step admitted ledger
        { ledger with hold := Function.update ledger.hold p (some ⟨owner, [], none⟩) }
  | acquire {ledger : Ledger Place Owner Resource} {p : Place} {hold : Hold Owner Resource}
      {resource : Resource} (found : ledger.hold p = some hold) (settled : hold.pending = none)
      (free : ledger.reserved resource = none) :
      Step admitted ledger { ledger with
        hold := Function.update ledger.hold p (some { hold with pending := some resource })
        reserved := Function.update ledger.reserved resource (some hold.owner) }
  | raise {ledger : Ledger Place Owner Resource} {p : Place} {hold : Hold Owner Resource}
      {resource : Resource} (found : ledger.hold p = some hold)
      (pending : hold.pending = some resource) :
      Step admitted ledger { ledger with
        hold := Function.update ledger.hold p
          (some { hold with flagged := hold.flagged ++ [resource], pending := none })
        flag := Function.update ledger.flag resource true }
  | lower {ledger : Ledger Place Owner Resource} {p : Place} {hold : Hold Owner Resource}
      {resource : Resource} {rest : List Resource} (found : ledger.hold p = some hold)
      (first : hold.flagged = resource :: rest) (settled : hold.pending = none) :
      Step admitted ledger { ledger with
        hold := Function.update ledger.hold p
          (some { hold with flagged := rest, pending := some resource })
        flag := Function.update ledger.flag resource false }
  | release {ledger : Ledger Place Owner Resource} {p : Place} {hold : Hold Owner Resource}
      {resource : Resource} (found : ledger.hold p = some hold)
      (pending : hold.pending = some resource) :
      Step admitted ledger { ledger with
        hold := Function.update ledger.hold p (some { hold with pending := none })
        reserved := Function.update ledger.reserved resource none }
  | move {ledger : Ledger Place Owner Resource} {p q : Place} {hold : Hold Owner Resource}
      (found : ledger.hold p = some hold) (vacant : ledger.hold q = none) :
      Step admitted ledger { ledger with
        hold := Function.update (Function.update ledger.hold p none) q (some hold) }
  | leave {ledger : Ledger Place Owner Resource} {p : Place} {hold : Hold Owner Resource}
      (found : ledger.hold p = some hold) (nothing : hold.claims = []) :
      Step admitted ledger { ledger with hold := Function.update ledger.hold p none }

/-! ### Balance is kept -/

omit [DecidableEq Resource] in
theorem update_eq_some_iff {hold : Place → Option (Hold Owner Resource)} {p q : Place}
    {new : Option (Hold Owner Resource)} {found : Hold Owner Resource} :
    Function.update hold p new q = some found ↔
      q = p ∧ new = some found ∨ q ≠ p ∧ hold q = some found := by
  by_cases same : q = p
  · subst same
    simp
  · simp [same]

variable {ledger : Ledger Place Owner Resource} {p : Place} {old new : Hold Owner Resource}
  {reserved : Resource → Option Owner} {flag : Resource → Bool}

omit [DecidableEq Place] [DecidableEq Resource] in
/-- What is claimed at another place belongs neither to the old nor to the new holdings here. -/
theorem Ledger.Balanced.elsewhere (balanced : ledger.Balanced) (found : ledger.hold p = some old)
    (fresh : ∀ resource ∈ new.claims, resource ∉ old.claims → ledger.reserved resource = none)
    {q : Place} {hold : Hold Owner Resource} {resource : Resource} (away : q ≠ p)
    (atQ : ledger.hold q = some hold) (member : resource ∈ hold.claims) :
    resource ∉ old.claims ∧ resource ∉ new.claims := by
  have notOld : resource ∉ old.claims := fun inOld =>
    away (balanced.disjoint atQ found member inOld)
  refine ⟨notOld, fun inNew => ?_⟩
  have locked := (balanced.reserved resource hold.owner).mpr ⟨q, hold, atQ, rfl, member⟩
  rw [fresh resource inNew notOld] at locked
  cases locked

omit [DecidableEq Resource] in
/-- Locks and claims agree again when the holdings of one place have been replaced. -/
theorem Ledger.Balanced.replace_reserved (balanced : ledger.Balanced)
    (found : ledger.hold p = some old) (sameOwner : new.owner = old.owner)
    (taken : ∀ resource ∈ new.claims, reserved resource = some old.owner)
    (givenUp : ∀ resource ∈ old.claims, resource ∉ new.claims → reserved resource = none)
    (fresh : ∀ resource ∈ new.claims, resource ∉ old.claims → ledger.reserved resource = none)
    (otherLocks : ∀ resource, resource ∉ old.claims → resource ∉ new.claims →
      reserved resource = ledger.reserved resource) (resource : Resource) (owner : Owner) :
    reserved resource = some owner ↔
      ∃ q hold, Function.update ledger.hold p (some new) q = some hold ∧ hold.owner = owner ∧
        resource ∈ hold.claims := by
  constructor
  · intro locked
    by_cases inNew : resource ∈ new.claims
    · have owners := (taken resource inNew).symm.trans locked
      cases owners
      exact ⟨p, new, Function.update_self _ _ _, sameOwner, inNew⟩
    · by_cases inOld : resource ∈ old.claims
      · rw [givenUp resource inOld inNew] at locked
        cases locked
      · rw [otherLocks resource inOld inNew] at locked
        obtain ⟨q, hold, atQ, owners, member⟩ := (balanced.reserved resource owner).mp locked
        have away : q ≠ p := by
          rintro rfl
          cases found.symm.trans atQ
          exact inOld member
        exact ⟨q, hold, (Function.update_of_ne away _ _).trans atQ, owners, member⟩
  · rintro ⟨q, hold, atQ, owners, member⟩
    rcases update_eq_some_iff.mp atQ with ⟨_, same⟩ | ⟨away, atQ⟩
    · cases same
      rw [← owners, sameOwner]
      exact taken resource member
    · obtain ⟨notOld, notNew⟩ := balanced.elsewhere found fresh away atQ member
      rw [otherLocks resource notOld notNew]
      exact (balanced.reserved resource owner).mpr ⟨q, hold, atQ, owners, member⟩

omit [DecidableEq Resource] in
/-- So do flags and flagged claims. -/
theorem Ledger.Balanced.replace_flag (balanced : ledger.Balanced)
    (found : ledger.hold p = some old)
    (fresh : ∀ resource ∈ new.claims, resource ∉ old.claims → ledger.reserved resource = none)
    (raised : ∀ resource ∈ new.flagged, flag resource = true)
    (lowered : ∀ resource ∈ old.flagged, resource ∉ new.flagged → flag resource = false)
    (otherFlags : ∀ resource, resource ∉ old.flagged → resource ∉ new.flagged →
      flag resource = ledger.flag resource) (resource : Resource) :
    flag resource = true ↔
      ∃ q hold, Function.update ledger.hold p (some new) q = some hold ∧
        resource ∈ hold.flagged := by
  constructor
  · intro up
    by_cases inNew : resource ∈ new.flagged
    · exact ⟨p, new, Function.update_self _ _ _, inNew⟩
    · by_cases inOld : resource ∈ old.flagged
      · rw [lowered resource inOld inNew] at up
        cases up
      · rw [otherFlags resource inOld inNew] at up
        obtain ⟨q, hold, atQ, member⟩ := (balanced.flag resource).mp up
        have away : q ≠ p := by
          rintro rfl
          cases found.symm.trans atQ
          exact inOld member
        exact ⟨q, hold, (Function.update_of_ne away _ _).trans atQ, member⟩
  · rintro ⟨q, hold, atQ, member⟩
    rcases update_eq_some_iff.mp atQ with ⟨_, same⟩ | ⟨away, atQ⟩
    · cases same
      exact raised resource member
    · obtain ⟨notOld, notNew⟩ :=
        balanced.elsewhere found fresh away atQ (Hold.mem_claims_of_flagged member)
      rw [otherFlags resource (fun inOld => notOld (Hold.mem_claims_of_flagged inOld))
        fun inNew => notNew (Hold.mem_claims_of_flagged inNew)]
      exact (balanced.flag resource).mpr ⟨q, hold, atQ, member⟩

omit [DecidableEq Resource] in
/-- The rule behind every step that changes the holdings of one place. -/
theorem Ledger.Balanced.replace (balanced : ledger.Balanced) (found : ledger.hold p = some old)
    (sameOwner : new.owner = old.owner) (nodup : new.claims.Nodup)
    (taken : ∀ resource ∈ new.claims, reserved resource = some old.owner)
    (givenUp : ∀ resource ∈ old.claims, resource ∉ new.claims → reserved resource = none)
    (fresh : ∀ resource ∈ new.claims, resource ∉ old.claims → ledger.reserved resource = none)
    (otherLocks : ∀ resource, resource ∉ old.claims → resource ∉ new.claims →
      reserved resource = ledger.reserved resource)
    (raised : ∀ resource ∈ new.flagged, flag resource = true)
    (lowered : ∀ resource ∈ old.flagged, resource ∉ new.flagged → flag resource = false)
    (otherFlags : ∀ resource, resource ∉ old.flagged → resource ∉ new.flagged →
      flag resource = ledger.flag resource) :
    Ledger.Balanced ⟨Function.update ledger.hold p (some new), reserved, flag⟩ := by
  refine ⟨?_, ?_,
    balanced.replace_reserved found sameOwner taken givenUp fresh otherLocks,
    balanced.replace_flag found fresh raised lowered otherFlags⟩
  · intro q q' first second atFirst atSecond owners
    rcases update_eq_some_iff.mp atFirst with ⟨rfl, same⟩ | ⟨_, oldFirst⟩ <;>
      rcases update_eq_some_iff.mp atSecond with ⟨rfl, same'⟩ | ⟨_, oldSecond⟩
    · rfl
    · cases same
      exact balanced.unique _ _ old second found oldSecond (sameOwner.symm.trans owners)
    · cases same'
      exact balanced.unique _ _ first old oldFirst found (owners.trans sameOwner)
    · exact balanced.unique _ _ first second oldFirst oldSecond owners
  · intro q hold atQ
    rcases update_eq_some_iff.mp atQ with ⟨_, same⟩ | ⟨_, atQ⟩
    · cases same
      exact nodup
    · exact balanced.nodup q hold atQ

variable {resource : Resource}

theorem Ledger.Balanced.acquire (balanced : ledger.Balanced) (found : ledger.hold p = some old)
    (settled : old.pending = none) (free : ledger.reserved resource = none) :
    Ledger.Balanced { ledger with
      hold := Function.update ledger.hold p (some { old with pending := some resource })
      reserved := Function.update ledger.reserved resource (some old.owner) } := by
  have claimsEq : old.claims = old.flagged := by
    rw [Hold.claims, settled]
    exact List.append_nil _
  have unclaimed : resource ∉ old.flagged := fun member => by
    have locked := (balanced.reserved resource old.owner).mpr
      ⟨p, old, found, rfl, Hold.mem_claims_of_flagged member⟩
    rw [free] at locked
    cases locked
  have newClaims : ∀ other, other ∈ Hold.claims { old with pending := some resource } ↔
      other ∈ old.flagged ∨ other = resource := by
    intro other
    simp [Hold.claims]
  refine balanced.replace found rfl ?_ ?_ ?_ ?_ ?_ ?_ ?_ fun _ _ _ => rfl
  · have nodup := balanced.nodup p old found
    rw [claimsEq] at nodup
    refine List.nodup_append.mpr ⟨nodup, List.nodup_singleton _,
      fun first inFlagged second same => ?_⟩
    rw [List.mem_singleton.mp same]
    rintro rfl
    exact unclaimed inFlagged
  · intro other member
    rcases (newClaims other).mp member with inOld | rfl
    · have different : other ≠ resource := by
        rintro rfl
        exact unclaimed inOld
      rw [Function.update_of_ne different]
      exact (balanced.reserved other old.owner).mpr
        ⟨p, old, found, rfl, Hold.mem_claims_of_flagged inOld⟩
    · exact Function.update_self _ _ _
  · intro other inOld notNew
    rw [claimsEq] at inOld
    exact absurd ((newClaims other).mpr (.inl inOld)) notNew
  · intro other inNew notOld
    rw [claimsEq] at notOld
    rcases (newClaims other).mp inNew with inOld | rfl
    · exact absurd inOld notOld
    · exact free
  · intro other _ notNew
    exact Function.update_of_ne (fun same => notNew ((newClaims other).mpr (.inr same))) _ _
  · intro other member
    exact (balanced.flag other).mpr ⟨p, old, found, member⟩
  · intro other inOld notNew
    exact absurd inOld notNew

theorem Ledger.Balanced.release (balanced : ledger.Balanced) (found : ledger.hold p = some old)
    (pending : old.pending = some resource) :
    Ledger.Balanced { ledger with
      hold := Function.update ledger.hold p (some { old with pending := none })
      reserved := Function.update ledger.reserved resource none } := by
  have claimsEq : old.claims = old.flagged ++ [resource] := by
    rw [Hold.claims, pending]
    rfl
  have newClaims : Hold.claims { old with pending := none } = old.flagged := List.append_nil _
  have nodup := balanced.nodup p old found
  rw [claimsEq, List.nodup_append] at nodup
  refine balanced.replace found rfl ?_ ?_ ?_ ?_ ?_ ?_ ?_ fun _ _ _ => rfl
  · rw [newClaims]
    exact nodup.1
  · intro other member
    rw [newClaims] at member
    rw [Function.update_of_ne (nodup.2.2 other member resource (List.mem_singleton_self _))]
    exact (balanced.reserved other old.owner).mpr
      ⟨p, old, found, rfl, Hold.mem_claims_of_flagged member⟩
  · intro other inOld notNew
    rw [newClaims] at notNew
    rw [claimsEq, List.mem_append, List.mem_singleton] at inOld
    rcases inOld with inFlagged | rfl
    · exact absurd inFlagged notNew
    · exact Function.update_self _ _ _
  · intro other inNew notOld
    rw [newClaims] at inNew
    exact absurd (Hold.mem_claims_of_flagged inNew) notOld
  · intro other notOld _
    rw [claimsEq, List.mem_append, List.mem_singleton, not_or] at notOld
    exact Function.update_of_ne notOld.2 _ _
  · intro other member
    exact (balanced.flag other).mpr ⟨p, old, found, member⟩
  · intro other inOld notNew
    exact absurd inOld notNew

omit [DecidableEq Resource] in
/-- Raising or lowering a flag reorders the claims of a place and nothing else. -/
theorem Ledger.Balanced.reorder (balanced : ledger.Balanced) (found : ledger.hold p = some old)
    (sameOwner : new.owner = old.owner) (same : new.claims.Perm old.claims)
    (raised : ∀ resource ∈ new.flagged, flag resource = true)
    (lowered : ∀ resource ∈ old.flagged, resource ∉ new.flagged → flag resource = false)
    (otherFlags : ∀ resource, resource ∉ old.flagged → resource ∉ new.flagged →
      flag resource = ledger.flag resource) :
    Ledger.Balanced { ledger with hold := Function.update ledger.hold p (some new), flag } := by
  refine balanced.replace found sameOwner (same.nodup_iff.mpr (balanced.nodup p old found)) ?_ ?_ ?_
    (fun _ _ _ => rfl) raised lowered otherFlags
  · intro other member
    exact (balanced.reserved other old.owner).mpr ⟨p, old, found, rfl, same.mem_iff.mp member⟩
  · intro other inOld notNew
    exact absurd (same.mem_iff.mpr inOld) notNew
  · intro other inNew notOld
    exact absurd (same.mem_iff.mp inNew) notOld

theorem Ledger.Balanced.raise (balanced : ledger.Balanced) (found : ledger.hold p = some old)
    (pending : old.pending = some resource) :
    Ledger.Balanced { ledger with
      hold := Function.update ledger.hold p
        (some { old with flagged := old.flagged ++ [resource], pending := none })
      flag := Function.update ledger.flag resource true } := by
  refine balanced.reorder found rfl ?_ ?_ ?_ ?_
  · rw [Hold.claims, Hold.claims, pending]
    exact List.Perm.of_eq (List.append_nil _)
  · intro other member
    by_cases same : other = resource
    · rw [same]
      exact Function.update_self _ _ _
    · rw [Function.update_of_ne same]
      rcases List.mem_append.mp member with inOld | last
      · exact (balanced.flag other).mpr ⟨p, old, found, inOld⟩
      · exact absurd (List.mem_singleton.mp last) same
  · intro other inOld notNew
    exact absurd (List.mem_append_left _ inOld) notNew
  · intro other _ notNew
    refine Function.update_of_ne (fun same => notNew ?_) _ _
    rw [same]
    exact List.mem_append_right _ (List.mem_singleton_self _)

theorem Ledger.Balanced.lower (balanced : ledger.Balanced) {rest : List Resource}
    (found : ledger.hold p = some old) (first : old.flagged = resource :: rest)
    (settled : old.pending = none) :
    Ledger.Balanced { ledger with
      hold := Function.update ledger.hold p
        (some { old with flagged := rest, pending := some resource })
      flag := Function.update ledger.flag resource false } := by
  have nodup := balanced.nodup p old found
  rw [Hold.claims, settled, first, Option.toList_none, List.append_nil, List.nodup_cons] at nodup
  refine balanced.reorder found rfl ?_ ?_ ?_ ?_
  · rw [Hold.claims, Hold.claims, settled, first, Option.toList_none, List.append_nil]
    exact List.perm_append_comm
  · intro other member
    have different : other ≠ resource := by
      rintro rfl
      exact nodup.1 member
    rw [Function.update_of_ne different]
    exact (balanced.flag other).mpr ⟨p, old, found, first ▸ List.mem_cons_of_mem _ member⟩
  · intro other inOld notNew
    rw [first] at inOld
    rcases List.mem_cons.mp inOld with rfl | inRest
    · exact Function.update_self _ _ _
    · exact absurd inRest notNew
  · intro other notOld _
    rw [first, List.mem_cons, not_or] at notOld
    exact Function.update_of_ne notOld.1 _ _

omit [DecidableEq Resource] in
theorem Ledger.Balanced.enter (balanced : ledger.Balanced) {owner : Owner}
    (vacant : ledger.hold p = none)
    (fresh : ∀ q hold, ledger.hold q = some hold → hold.owner ≠ owner) :
    Ledger.Balanced { ledger with
      hold := Function.update ledger.hold p (some ⟨owner, [], none⟩) } := by
  have away : ∀ q hold, ledger.hold q = some hold → q ≠ p := by
    rintro q hold atQ rfl
    rw [vacant] at atQ
    cases atQ
  have kept : ∀ q hold, ledger.hold q = some hold →
      Function.update ledger.hold p (some ⟨owner, [], none⟩) q = some hold := fun q hold atQ =>
    (Function.update_of_ne (away q hold atQ) _ _).trans atQ
  refine ⟨?_, ?_, ?_, ?_⟩
  · intro q q' first second atFirst atSecond owners
    rcases update_eq_some_iff.mp atFirst with ⟨rfl, same⟩ | ⟨_, oldFirst⟩ <;>
      rcases update_eq_some_iff.mp atSecond with ⟨rfl, same'⟩ | ⟨_, oldSecond⟩
    · rfl
    · cases same
      exact absurd owners.symm (fresh _ second oldSecond)
    · cases same'
      exact absurd owners (fresh _ first oldFirst)
    · exact balanced.unique _ _ first second oldFirst oldSecond owners
  · intro q hold atQ
    rcases update_eq_some_iff.mp atQ with ⟨_, same⟩ | ⟨_, oldQ⟩
    · cases same
      exact List.nodup_nil
    · exact balanced.nodup q hold oldQ
  · intro resource owner'
    refine (balanced.reserved resource owner').trans ⟨?_, ?_⟩
    · rintro ⟨q, hold, atQ, owners, member⟩
      exact ⟨q, hold, kept q hold atQ, owners, member⟩
    · rintro ⟨q, hold, atQ, owners, member⟩
      rcases update_eq_some_iff.mp atQ with ⟨_, same⟩ | ⟨_, oldQ⟩
      · cases same
        cases member
      · exact ⟨q, hold, oldQ, owners, member⟩
  · intro resource
    refine (balanced.flag resource).trans ⟨?_, ?_⟩
    · rintro ⟨q, hold, atQ, member⟩
      exact ⟨q, hold, kept q hold atQ, member⟩
    · rintro ⟨q, hold, atQ, member⟩
      rcases update_eq_some_iff.mp atQ with ⟨_, same⟩ | ⟨_, oldQ⟩
      · cases same
        cases member
      · exact ⟨q, hold, oldQ, member⟩

omit [DecidableEq Resource] in
theorem Ledger.Balanced.leave (balanced : ledger.Balanced) (found : ledger.hold p = some old)
    (nothing : old.claims = []) :
    Ledger.Balanced { ledger with hold := Function.update ledger.hold p none } := by
  have earlier : ∀ q hold, Function.update ledger.hold p none q = some hold →
      ledger.hold q = some hold := by
    intro q hold atQ
    rcases update_eq_some_iff.mp atQ with ⟨_, impossible⟩ | ⟨_, oldQ⟩
    · cases impossible
    · exact oldQ
  have kept : ∀ q hold resource, ledger.hold q = some hold → resource ∈ hold.claims →
      Function.update ledger.hold p none q = some hold := by
    intro q hold resource atQ member
    refine (Function.update_of_ne ?_ _ _).trans atQ
    rintro rfl
    cases found.symm.trans atQ
    rw [nothing] at member
    cases member
  refine ⟨?_, ?_, ?_, ?_⟩
  · intro q q' first second atFirst atSecond owners
    exact balanced.unique q q' first second (earlier _ _ atFirst) (earlier _ _ atSecond) owners
  · intro q hold atQ
    exact balanced.nodup q hold (earlier _ _ atQ)
  · intro resource owner
    refine (balanced.reserved resource owner).trans ⟨?_, ?_⟩
    · rintro ⟨q, hold, atQ, owners, member⟩
      exact ⟨q, hold, kept q hold resource atQ member, owners, member⟩
    · rintro ⟨q, hold, atQ, owners, member⟩
      exact ⟨q, hold, earlier q hold atQ, owners, member⟩
  · intro resource
    refine (balanced.flag resource).trans ⟨?_, ?_⟩
    · rintro ⟨q, hold, atQ, member⟩
      exact ⟨q, hold, kept q hold resource atQ (Hold.mem_claims_of_flagged member), member⟩
    · rintro ⟨q, hold, atQ, member⟩
      exact ⟨q, hold, earlier q hold atQ, member⟩

omit [DecidableEq Resource] in
theorem Ledger.Balanced.move (balanced : ledger.Balanced) {q : Place}
    (found : ledger.hold p = some old) (vacant : ledger.hold q = none) :
    Ledger.Balanced { ledger with
      hold := Function.update (Function.update ledger.hold p none) q (some old) } := by
  have earlier : ∀ place hold,
      Function.update (Function.update ledger.hold p none) q (some old) place = some hold →
      place = q ∧ hold = old ∨ place ≠ p ∧ place ≠ q ∧ ledger.hold place = some hold := by
    intro place hold atPlace
    rcases update_eq_some_iff.mp atPlace with ⟨rfl, same⟩ | ⟨notNew, before⟩
    · exact .inl ⟨rfl, (Option.some.inj same).symm⟩
    · rcases update_eq_some_iff.mp before with ⟨_, impossible⟩ | ⟨notOld, before⟩
      · cases impossible
      · exact .inr ⟨notOld, notNew, before⟩
  have kept : ∀ place hold, ledger.hold place = some hold →
      ∃ place', Function.update (Function.update ledger.hold p none) q (some old) place' =
        some hold := by
    intro place hold atPlace
    by_cases same : place = p
    · subst same
      cases found.symm.trans atPlace
      exact ⟨q, Function.update_self _ _ _⟩
    · refine ⟨place, ?_⟩
      have notNew : place ≠ q := by
        rintro rfl
        rw [vacant] at atPlace
        cases atPlace
      rw [Function.update_of_ne notNew, Function.update_of_ne same]
      exact atPlace
  have origin : ∀ place hold,
      Function.update (Function.update ledger.hold p none) q (some old) place = some hold →
      ∃ place', ledger.hold place' = some hold := by
    intro place hold atPlace
    rcases earlier place hold atPlace with ⟨_, rfl⟩ | ⟨_, _, before⟩
    · exact ⟨p, found⟩
    · exact ⟨place, before⟩
  refine ⟨?_, ?_, ?_, ?_⟩
  · intro place place' first second atFirst atSecond owners
    rcases earlier _ _ atFirst with ⟨rfl, rfl⟩ | ⟨notOld, _, before⟩ <;>
      rcases earlier _ _ atSecond with ⟨rfl, rfl⟩ | ⟨notOld', _, before'⟩
    · rfl
    · exact absurd (balanced.unique _ _ _ second found before' owners).symm notOld'
    · exact absurd (balanced.unique _ _ first _ before found owners) notOld
    · exact balanced.unique _ _ first second before before' owners
  · intro place hold atPlace
    obtain ⟨place', before⟩ := origin place hold atPlace
    exact balanced.nodup place' hold before
  · intro resource owner
    refine (balanced.reserved resource owner).trans ⟨?_, ?_⟩
    · rintro ⟨place, hold, atPlace, rest⟩
      obtain ⟨place', after⟩ := kept place hold atPlace
      exact ⟨place', hold, after, rest⟩
    · rintro ⟨place, hold, atPlace, rest⟩
      obtain ⟨place', before⟩ := origin place hold atPlace
      exact ⟨place', hold, before, rest⟩
  · intro resource
    refine (balanced.flag resource).trans ⟨?_, ?_⟩
    · rintro ⟨place, hold, atPlace, member⟩
      obtain ⟨place', after⟩ := kept place hold atPlace
      exact ⟨place', hold, after, member⟩
    · rintro ⟨place, hold, atPlace, member⟩
      obtain ⟨place', before⟩ := origin place hold atPlace
      exact ⟨place', hold, before, member⟩

theorem Ledger.Step.balanced {admitted : Owner → Prop} {after : Ledger Place Owner Resource}
    (step : Ledger.Step admitted ledger after) (balanced : ledger.Balanced) : after.Balanced := by
  cases step with
  | enter _ vacant fresh => exact balanced.enter vacant fresh
  | acquire found settled free => exact balanced.acquire found settled free
  | raise found pending => exact balanced.raise found pending
  | lower found first settled => exact balanced.lower found first settled
  | release found pending => exact balanced.release found pending
  | move found vacant => exact balanced.move found vacant
  | leave found nothing => exact balanced.leave found nothing

/-- An owner that holds something after a step did so before or has just been admitted. -/
theorem Ledger.Step.owner {admitted : Owner → Prop} {after : Ledger Place Owner Resource}
    (step : Ledger.Step admitted ledger after) {q : Place} {hold : Hold Owner Resource}
    (found : after.hold q = some hold) :
    (∃ p before, ledger.hold p = some before ∧ before.owner = hold.owner) ∨
      admitted hold.owner := by
  cases step with
  | enter isAdmitted _ _ =>
    rcases update_eq_some_iff.mp found with ⟨_, same⟩ | ⟨_, before⟩
    · cases same
      exact .inr isAdmitted
    · exact .inl ⟨q, hold, before, rfl⟩
  | acquire earlier _ _ =>
    rcases update_eq_some_iff.mp found with ⟨_, same⟩ | ⟨_, before⟩
    · cases same
      exact .inl ⟨_, _, earlier, rfl⟩
    · exact .inl ⟨q, hold, before, rfl⟩
  | raise earlier _ =>
    rcases update_eq_some_iff.mp found with ⟨_, same⟩ | ⟨_, before⟩
    · cases same
      exact .inl ⟨_, _, earlier, rfl⟩
    · exact .inl ⟨q, hold, before, rfl⟩
  | lower earlier _ _ =>
    rcases update_eq_some_iff.mp found with ⟨_, same⟩ | ⟨_, before⟩
    · cases same
      exact .inl ⟨_, _, earlier, rfl⟩
    · exact .inl ⟨q, hold, before, rfl⟩
  | release earlier _ =>
    rcases update_eq_some_iff.mp found with ⟨_, same⟩ | ⟨_, before⟩
    · cases same
      exact .inl ⟨_, _, earlier, rfl⟩
    · exact .inl ⟨q, hold, before, rfl⟩
  | move earlier _ =>
    rcases update_eq_some_iff.mp found with ⟨_, same⟩ | ⟨_, before⟩
    · cases same
      exact .inl ⟨_, _, earlier, rfl⟩
    · rcases update_eq_some_iff.mp before with ⟨_, impossible⟩ | ⟨_, before⟩
      · cases impossible
      · exact .inl ⟨q, hold, before, rfl⟩
  | leave earlier _ =>
    rcases update_eq_some_iff.mp found with ⟨_, impossible⟩ | ⟨_, before⟩
    · cases impossible
    · exact .inl ⟨q, hold, before, rfl⟩

end Fleetbench.Library
