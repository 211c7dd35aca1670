import Frontera.Data.AdmittedSequence
import Frontera.Payment.RefundLedger

/-! `paymentRefundReservations` reads a log with a map that is updated entry by entry. Here the same
answer is given by the log itself: it is read exactly when every entry follows the ones before it
(nothing reserved twice, nothing released but once and after its reservation), and each reservation
is then paired with the release of its operation. -/

namespace Frontera.Payment

open Frontera.Monetary Frontera.Data List Option PaymentRefundEntryContent

def reserveOf (entry : PaymentRefundEntry) : Option (Recorded PaymentRefundReserveContent) :=
  match entry.content with
  | .reserve content => some (entry.mapContent fun _ => content)
  | .release _ => none

def releaseOf (entry : PaymentRefundEntry) : Option (Recorded PaymentRefundReleaseContent) :=
  match entry.content with
  | .reserve _ => none
  | .release content => some (entry.mapContent fun _ => content)

def reservesOf (entries : List PaymentRefundEntry) : List (Recorded PaymentRefundReserveContent) :=
  entries.filterMap reserveOf

def releasesOf (entries : List PaymentRefundEntry) : List (Recorded PaymentRefundReleaseContent) :=
  entries.filterMap releaseOf

def reservedOperations (entries : List PaymentRefundEntry) : List String :=
  (reservesOf entries).map (·.content.refundOperationId)

def releasedOperations (entries : List PaymentRefundEntry) : List String :=
  (releasesOf entries).map (·.content.refundOperationId)

/-- The release of an operation, if the log has one. -/
def releaseIn (entries : List PaymentRefundEntry) (operation : String) :
    Option (Recorded PaymentRefundReleaseContent) :=
  (releasesOf entries).find? fun l => l.content.refundOperationId = operation

def reservationsOf (entries : List PaymentRefundEntry) : List PaymentRefundReservation :=
  (reservesOf entries).map fun r =>
    ⟨r.content.refundOperationId,r,releaseIn entries r.content.refundOperationId⟩

/-- The slots of the operations, in the order of their reservations. -/
def slotsOf (entries : List PaymentRefundEntry) : List (String × OperationSlot) :=
  (reservesOf entries).map fun r =>
    (r.content.refundOperationId, ⟨some r,releaseIn entries r.content.refundOperationId⟩)

/-- An entry may stand after these. -/
def Follows (before : List PaymentRefundEntry) (entry : PaymentRefundEntry) : Prop :=
  match entry.content with
  | .reserve content => content.refundOperationId ∉ reservedOperations before
  | .release content =>
      content.refundOperationId ∈ reservedOperations before ∧
        content.refundOperationId ∉ releasedOperations before

/-- Every entry of the log follows the ones before it. -/
def Orderly (entries : List PaymentRefundEntry) : Prop := Admitted Follows entries

variable {entries : List PaymentRefundEntry} {entry : PaymentRefundEntry}

theorem reservesOf_reserve {content : PaymentRefundReserveContent}
    (h : entry.content = .reserve content) :
    reservesOf (entries ++ [entry]) = reservesOf entries ++ [entry.mapContent fun _ => content] := by
  simp [reservesOf,reserveOf,h]

theorem releasesOf_reserve {content : PaymentRefundReserveContent}
    (h : entry.content = .reserve content) :
    releasesOf (entries ++ [entry]) = releasesOf entries := by
  simp [releasesOf,releaseOf,h]

theorem reservesOf_release {content : PaymentRefundReleaseContent}
    (h : entry.content = .release content) :
    reservesOf (entries ++ [entry]) = reservesOf entries := by
  simp [reservesOf,reserveOf,h]

theorem releasesOf_release {content : PaymentRefundReleaseContent}
    (h : entry.content = .release content) :
    releasesOf (entries ++ [entry]) = releasesOf entries ++ [entry.mapContent fun _ => content] := by
  simp [releasesOf,releaseOf,h]

theorem orderly_concat : Orderly (entries ++ [entry]) ↔ Orderly entries ∧ Follows entries entry :=
  Admitted.concat_iff

variable {entries : List PaymentRefundEntry} {operation : String} {entry : PaymentRefundEntry}
  {reservations : List PaymentRefundReservation}

theorem releasedOperations_subset (h : Orderly entries) :
    ∀ operation ∈ releasedOperations entries, operation ∈ reservedOperations entries := by
  induction entries using List.reverseRecOn with
  | nil =>
    intro operation hmem
    cases hmem
  | append_singleton entries entry ih =>
    obtain ⟨horderly,hfollows⟩ := orderly_concat.1 h
    intro operation hmem
    cases hcontent : entry.content with
    | reserve content =>
      rw [releasedOperations,releasesOf_reserve hcontent] at hmem
      rw [reservedOperations,reservesOf_reserve hcontent,map_append,mem_append]
      exact .inl (ih horderly operation hmem)
    | release content =>
      simp only [Follows,hcontent] at hfollows
      rw [releasedOperations,releasesOf_release hcontent,map_append,mem_append] at hmem
      rw [reservedOperations,reservesOf_release hcontent]
      rcases hmem with hmem | hmem
      · exact ih horderly operation hmem
      · obtain rfl : operation = content.refundOperationId := by
          simpa [Recorded.mapContent] using hmem
        exact hfollows.1

theorem reservedOperations_nodup (h : Orderly entries) : (reservedOperations entries).Nodup := by
  induction entries using List.reverseRecOn with
  | nil => exact nodup_nil
  | append_singleton entries entry ih =>
    obtain ⟨horderly,hfollows⟩ := orderly_concat.1 h
    cases hcontent : entry.content with
    | reserve content =>
      simp only [Follows,hcontent] at hfollows
      rw [reservedOperations,reservesOf_reserve hcontent,map_append,map_singleton, ← concat_eq_append]
      exact List.Nodup.concat hfollows (ih horderly)
    | release content =>
      rw [reservedOperations,reservesOf_release hcontent]
      exact ih horderly

theorem releaseIn_eq_none :
    releaseIn entries operation = none ↔ operation ∉ releasedOperations entries := by
  simp [releaseIn,releasedOperations]

theorem releaseIn_isSome :
    (releaseIn entries operation).isSome = true ↔ operation ∈ releasedOperations entries := by
  rw [← not_iff_not,← releaseIn_eq_none]
  simp

theorem slotsOf_reserve {content : PaymentRefundReserveContent}
    (h : entry.content = .reserve content) (horderly : Orderly entries)
    (hnew : content.refundOperationId ∉ reservedOperations entries) :
    slotsOf (entries ++ [entry]) = slotsOf entries ++
      [(content.refundOperationId, ⟨some (entry.mapContent fun _ => content),none⟩)] := by
  have hnone : releaseIn entries content.refundOperationId = none :=
    releaseIn_eq_none.2 fun hmem => hnew (releasedOperations_subset horderly _ hmem)
  have hreleases : ∀ operation, releaseIn (entries ++ [entry]) operation = releaseIn entries operation := by
    intro operation
    rw [releaseIn,releasesOf_reserve h,releaseIn]
  rw [slotsOf,reservesOf_reserve h,map_append]
  simp only [hreleases,map_singleton,Recorded.mapContent,hnone]
  rfl

theorem slotsOf_release {content : PaymentRefundReleaseContent}
    (h : entry.content = .release content)
    (hnew : content.refundOperationId ∉ releasedOperations entries) :
    slotsOf (entries ++ [entry]) = (slotsOf entries).map fun e =>
      if e.1 = content.refundOperationId then
        (e.1, { e.2 with release := some (entry.mapContent fun _ => content) })
      else e := by
  have hnone := releaseIn_eq_none.2 hnew
  have hreleases : ∀ operation, releaseIn (entries ++ [entry]) operation =
      if operation = content.refundOperationId then some (entry.mapContent fun _ => content)
      else releaseIn entries operation := by
    intro operation
    rw [releaseIn,releasesOf_release h,List.find?_append]
    split_ifs with hoperation
    · subst hoperation
      rw [releaseIn] at hnone
      rw [hnone]
      simp [Recorded.mapContent]
    · have hne : content.refundOperationId ≠ operation := fun h => hoperation h.symm
      rw [releaseIn]
      cases (releasesOf entries).find? fun l => l.content.refundOperationId = operation with
      | none => simp [Recorded.mapContent,hne]
      | some l => rfl
  rw [slotsOf,reservesOf_release h,slotsOf,List.map_map]
  refine map_congr_left fun r _ => ?_
  simp only [hreleases,Function.comp_apply]
  split_ifs with hoperation <;> rfl

variable {entries : List PaymentRefundEntry} {m : OrderedMap String OperationSlot}

section

variable (hm : m.entries = slotsOf entries)
include hm

theorem get_eq_none_of_slots {operation : String} :
    m.get operation = none ↔ operation ∉ reservedOperations entries := by
  have hkeys : m.keys = reservedOperations entries := by
    rw [OrderedMap.keys,hm,slotsOf,List.map_map]
    rfl
  rw [OrderedMap.get_eq_none_iff,hkeys]

theorem get_of_slots {operation : String} (h : operation ∈ reservedOperations entries) :
    ∃ r, m.get operation = some ⟨some r,releaseIn entries operation⟩ := by
  obtain ⟨r,hr,rfl⟩ := mem_map.1 h
  refine ⟨r,OrderedMap.get_eq_some_iff.2 ?_⟩
  rw [hm,slotsOf]
  exact mem_map_of_mem hr

theorem recordEntry_of_follows (horderly : Orderly entries) {entry : PaymentRefundEntry}
    (h : Follows entries entry) :
    ∃ m', recordEntry m entry = .ok m' ∧ m'.entries = slotsOf (entries ++ [entry]) := by
  cases hcontent : entry.content with
  | reserve content =>
    simp only [Follows,hcontent] at h
    have hget := (get_eq_none_of_slots hm).2 h
    refine ⟨m.set content.refundOperationId ⟨some (entry.mapContent fun _ => content),none⟩,by
      simp only [recordEntry,hcontent,refundOperationId,hget,
        getD_none,isSome_none,Bool.false_eq_true,if_false],?_⟩
    rw [OrderedMap.entries_set_of_get_none hget,hm,slotsOf_reserve hcontent horderly h]
  | release content =>
    simp only [Follows,hcontent] at h
    obtain ⟨r,hget⟩ := get_of_slots hm h.1
    have hnone := releaseIn_eq_none.2 h.2
    rw [hnone] at hget
    refine ⟨m.set content.refundOperationId
      ⟨some r,some (entry.mapContent fun _ => content)⟩,by
      simp only [recordEntry,hcontent,refundOperationId,hget,
        getD_some,isSome_none,isNone_some,Bool.false_eq_true,if_false],?_⟩
    have hmem : content.refundOperationId ∈ m.entries.map Prod.fst :=
      mem_map.2 ⟨_,OrderedMap.get_eq_some_iff.1 hget,rfl⟩
    rw [slotsOf_release hcontent h.2,← hm]
    simp only [OrderedMap.set,OrderedMap.setEntries,if_pos hmem]
    refine map_congr_left fun e he => ?_
    split_ifs with hkey
    · have hslot := OrderedMap.get_of_mem_entries he
      rw [hkey,hget] at hslot
      rw [← some.inj hslot,hkey]
    · rfl

theorem follows_of_recordEntry {entry : PaymentRefundEntry} {m' : OrderedMap String OperationSlot}
    (h : recordEntry m entry = .ok m') : Follows entries entry := by
  cases hcontent : entry.content with
  | reserve content =>
    simp only [Follows,hcontent]
    intro hmem
    obtain ⟨r,hget⟩ := get_of_slots hm hmem
    simp [recordEntry,hcontent,refundOperationId,hget] at h
  | release content =>
    simp only [Follows,hcontent]
    by_cases hmem : content.refundOperationId ∈ reservedOperations entries
    · obtain ⟨r,hget⟩ := get_of_slots hm hmem
      refine ⟨hmem,fun hreleased => ?_⟩
      have hsome := releaseIn_isSome.2 hreleased
      simp [recordEntry,hcontent,refundOperationId,hget,hsome] at h
    · have hget := (get_eq_none_of_slots hm).2 hmem
      simp [recordEntry,hcontent,refundOperationId,hget] at h

end

theorem foldlM_recordEntry (h : Orderly entries) :
    ∃ m, entries.foldlM recordEntry OrderedMap.empty = .ok m ∧ m.entries = slotsOf entries := by
  induction entries using List.reverseRecOn with
  | nil => exact ⟨_,rfl,rfl⟩
  | append_singleton entries entry ih =>
    obtain ⟨horderly,hfollows⟩ := orderly_concat.1 h
    obtain ⟨m,hfold,hm⟩ := ih horderly
    obtain ⟨m',hrecord,hm'⟩ := recordEntry_of_follows hm horderly hfollows
    refine ⟨m',?_,hm'⟩
    rw [foldlM_append,hfold]
    simp [hrecord]

theorem orderly_of_foldlM {m : OrderedMap String OperationSlot}
    (h : entries.foldlM recordEntry OrderedMap.empty = .ok m) : Orderly entries := by
  induction entries using List.reverseRecOn generalizing m with
  | nil => exact Admitted.nil
  | append_singleton entries entry ih =>
    rw [foldlM_append,bind_eq_ok] at h
    obtain ⟨m₀,hfold,hrecord⟩ := h
    have horderly := ih hfold
    obtain ⟨m₁,hfold₁,hm₁⟩ := foldlM_recordEntry horderly
    obtain rfl : m₀ = m₁ := by
      rw [hfold] at hfold₁
      exact Except.ok.inj hfold₁
    have hrecorded : recordEntry m₀ entry = .ok m := by simpa using hrecord
    exact orderly_concat.2 ⟨horderly,follows_of_recordEntry hm₁ hrecorded⟩

variable {P : Platform}

/-- The operation id of the reservation is derived from it. -/
def Derived (P : Platform) (reserve : Recorded PaymentRefundReserveContent) : Prop :=
  reserve.content.refundOperationId =
    paymentRefundOperationId P reserve.content.organizationId reserve.content.principalId
      reserve.content.originalSettlementId reserve.content.refundKey

/-- A log that `paymentRefundReservations` reads. -/
structure Readable (P : Platform) (entries : List PaymentRefundEntry) : Prop where
  orderly : Orderly entries
  derived : ∀ reserve ∈ reservesOf entries, Derived P reserve

private theorem reservationOfSlot_eq_ok {reserve : Recorded PaymentRefundReserveContent}
    {release : Option (Recorded PaymentRefundReleaseContent)}
    {reservation : PaymentRefundReservation} :
    reservationOfSlot P operation ⟨some reserve,release⟩ = .ok reservation ↔
      Derived P reserve ∧ reservation = ⟨operation,reserve,release⟩ := by
  simp only [reservationOfSlot,guard_eq_ok,ne_eq,not_not,Except.ok.injEq,Derived]
  rw [eq_comm (a := reservation)]

private theorem mapM_reservationOfSlot {reserves : List (Recorded PaymentRefundReserveContent)} :
    (reserves.map fun r => (r.content.refundOperationId,
      (⟨some r,releaseIn entries r.content.refundOperationId⟩ : OperationSlot))).mapM
        (fun e => reservationOfSlot P e.1 e.2) = .ok reservations ↔
      (∀ reserve ∈ reserves, Derived P reserve) ∧ reservations = reserves.map fun r =>
          ⟨r.content.refundOperationId,r,releaseIn entries r.content.refundOperationId⟩ := by
  induction reserves generalizing reservations with
  | nil => simp [eq_comm]
  | cons r reserves ih =>
    rw [map_cons,mapM_cons,bind_eq_ok,forall_mem_cons,map_cons]
    simp only [reservationOfSlot_eq_ok,bind_eq_ok,ih,pure_eq_ok]
    constructor
    · rintro ⟨_,⟨hderived,rfl⟩,_,⟨hrest,rfl⟩,rfl⟩
      exact ⟨⟨hderived,hrest⟩,rfl⟩
    · rintro ⟨⟨hderived,hrest⟩,rfl⟩
      exact ⟨_,⟨hderived,rfl⟩,_,⟨hrest,rfl⟩,rfl⟩

theorem paymentRefundReservations_eq_ok : paymentRefundReservations P entries = .ok reservations ↔
      Readable P entries ∧ reservations = reservationsOf entries := by
  unfold paymentRefundReservations
  rw [bind_eq_ok]
  constructor
  · rintro ⟨m,hfold,hmap⟩
    have horderly := orderly_of_foldlM hfold
    obtain ⟨m',hfold',hm'⟩ := foldlM_recordEntry horderly
    obtain rfl : m = m' := by
      rw [hfold] at hfold'
      exact Except.ok.inj hfold'
    rw [hm',slotsOf,mapM_reservationOfSlot] at hmap
    exact ⟨⟨horderly,hmap.1⟩,hmap.2⟩
  · rintro ⟨⟨horderly,hderived⟩,rfl⟩
    obtain ⟨m,hfold,hm⟩ := foldlM_recordEntry horderly
    refine ⟨m,hfold,?_⟩
    rw [hm,slotsOf,mapM_reservationOfSlot]
    exact ⟨hderived,rfl⟩

end Frontera.Payment
