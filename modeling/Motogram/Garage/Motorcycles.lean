import Motogram.Entities
import Motogram.Foundation.Interleaving
import Motogram.Foundation.Table

/-!
# Motorcycles

`motorcycles.service.ts`. A rider has at most one primary motorcycle: before one is written as primary, a call of
its own makes the others of the rider ordinary. Run alone, the functions keep this (`one_primary`). When they
overlap, it holds throughout exactly when each motorcycle that is written as primary still finds no other primary
one of its rider (`one_primary_iff`).
-/

set_option autoImplicit false

namespace Motogram.Garage

open Foundation Program Pool

abbrev MotorcycleId := Nat

/-! ## Rows -/

/-- What `CreateMotorcycleSchema` makes of a body, its defaults filled in. The columns that describe a motorcycle
are left out here and below: no function reads them. -/
structure CreateMotorcycleDto where
  isPrimary : Bool

/-- A field that is absent is not written. -/
structure UpdateMotorcycleDto where
  isPrimary : Option Bool

structure Motorcycle where
  userId : UserId
  isPrimary : Bool
  deletedAt : Option Time
  deriving DecidableEq

def UpdateMotorcycleDto.apply (dto : UpdateMotorcycleDto) (bike : Motorcycle) : Motorcycle :=
  { bike with isPrimary := dto.isPrimary.getD bike.isPrimary }

/-- The motorcycle is a primary one of the rider, and not deleted. -/
def primaryOf (userId : UserId) (_ : MotorcycleId) (bike : Motorcycle) : Bool :=
  bike.isPrimary && bike.deletedAt.isNone && decide (bike.userId = userId)

/-! ## The database -/

structure State where
  users : List UserId
  motorcycles : Table MotorcycleId Motorcycle
  -- the `BIKE_ADDED` triggers
  triggers : List (UserId × MotorcycleId)
  now : Time

inductive GarageCall where
  -- the primary motorcycles of the rider, but for this one, become ordinary
  | motorcycleDemote (userId : UserId) (except : Option MotorcycleId)
  | motorcycleCreate (id : MotorcycleId) (userId : UserId) (dto : CreateMotorcycleDto)
  | motorcycleFindUnique (id : MotorcycleId)
  | motorcycleUpdate (id : MotorcycleId) (dto : UpdateMotorcycleDto)
  | motorcycleDelete (id : MotorcycleId)
  | emitBikeAdded (userId : UserId) (id : MotorcycleId)
  | elapse (milliseconds : Nat)

@[reducible] def GarageReply : GarageCall → Type
  | .motorcycleCreate _ _ _ | .motorcycleUpdate _ _ | .motorcycleDelete _ => Except PrismaError Motorcycle
  | .motorcycleFindUnique _ => Option Motorcycle
  | _ => Unit

/-- One row is changed, if it is there. -/
def State.modified (s : State) (id : MotorcycleId) (change : Motorcycle → Motorcycle) :
    Except PrismaError Motorcycle × State :=
  match s.motorcycles.find? id with
  | none => (.error .recordNotFound, s)
  | some bike => (.ok (change bike), { s with motorcycles := s.motorcycles.modify id change })

def answer : (request : GarageCall) → State → GarageReply request × State
  | .motorcycleDemote userId except, s =>
    let demoted := s.motorcycles.modifyWhere (fun id bike => primaryOf userId id bike && decide (some id ≠ except))
      fun bike => { bike with isPrimary := false }
    ((), { s with motorcycles := demoted })
  | .motorcycleCreate id userId dto, s =>
    if userId ∉ s.users then (.error .foreignKeyViolation, s)
    else if (s.motorcycles.find? id).isSome then (.error .uniqueViolation, s)
    else
      let bike : Motorcycle := ⟨userId, dto.isPrimary, none⟩
      (.ok bike, { s with motorcycles := s.motorcycles.insert id bike })
  | .motorcycleFindUnique id, s => (s.motorcycles.find? id, s)
  | .motorcycleUpdate id dto, s => s.modified id dto.apply
  | .motorcycleDelete id, s => s.modified id fun bike => { bike with deletedAt := some s.now }
  | .emitBikeAdded userId id, s => ((), { s with triggers := s.triggers ++ [(userId, id)] })
  | .elapse milliseconds, s => ((), { s with now := s.now + milliseconds })

/-! ## Service functions -/

abbrev Flow (Value : Type) := Program GarageCall GarageReply ServiceError Value

abbrev call (request : GarageCall) : Flow (GarageReply request) := .call request .done

def rethrow {Value : Type} (reply : Except PrismaError Value) : Flow Value := ofExcept (reply.mapError .prisma)

def motorcycleNotFound : ServiceError := .http .notFound "motorcycle_not_found" .notFound none
def forbidden : ServiceError := .http .forbidden "forbidden" .forbidden none

def demoteIf (isPrimary : Bool) (userId : UserId) (except : Option MotorcycleId) : Flow Unit :=
  if isPrimary then call (.motorcycleDemote userId except) else .done ()

/-- The motorcycle gets the drawn id. -/
def create (id : MotorcycleId) (userId : UserId) (dto : CreateMotorcycleDto) : Flow Motorcycle := do
  demoteIf dto.isPrimary userId none
  let created : Except PrismaError Motorcycle ← call (.motorcycleCreate id userId dto)
  let bike ← rethrow created
  let _ : Unit ← call (.emitBikeAdded userId id)
  pure bike

/-- How `update` and `remove` begin. -/
def ownMotorcycle (userId : UserId) (id : MotorcycleId) : Flow Unit := do
  let bike : Option Motorcycle ← call (.motorcycleFindUnique id)
  match bike with
  | none => .fail motorcycleNotFound
  | some bike => do
    throwIf (bike.deletedAt ≠ none) motorcycleNotFound
    throwIf (bike.userId ≠ userId) forbidden

def update (userId : UserId) (id : MotorcycleId) (dto : UpdateMotorcycleDto) : Flow Motorcycle := do
  ownMotorcycle userId id
  demoteIf (dto.isPrimary.getD false) userId (some id)
  let updated : Except PrismaError Motorcycle ← call (.motorcycleUpdate id dto)
  rethrow updated

def remove (userId : UserId) (id : MotorcycleId) : Flow Unit := do
  ownMotorcycle userId id
  let deleted : Except PrismaError Motorcycle ← call (.motorcycleDelete id)
  let _ ← rethrow deleted
  pure ()

inductive GarageOp where
  | create (id : MotorcycleId) (userId : UserId) (dto : CreateMotorcycleDto)
  | update (userId : UserId) (id : MotorcycleId) (dto : UpdateMotorcycleDto)
  | remove (userId : UserId) (id : MotorcycleId)
  | pause (milliseconds : Nat)

def GarageOp.program : GarageOp → Flow Unit
  | .create id userId dto => Garage.create id userId dto >>= fun _ => pure ()
  | .update userId id dto => Garage.update userId id dto >>= fun _ => pure ()
  | .remove userId id => Garage.remove userId id
  | .pause milliseconds => call (.elapse milliseconds)

/-- One operation that runs alone. -/
def step (s : State) (op : GarageOp) : State := (op.program.run answer s).2

/-! ## One primary motorcycle -/

/-- The rider does not have two primary motorcycles. -/
def State.OnePrimary (s : State) (userId : UserId) : Prop := s.motorcycles.count (primaryOf userId) ≤ 1

/-- A motorcycle of the rider that is written as primary finds no other primary one. -/
def AsOnly (userId : UserId) : GarageCall → State → Prop
  | .motorcycleCreate id ownerId dto, s =>
    (answer (.motorcycleCreate id ownerId dto) s).1.isOk → ownerId = userId → dto.isPrimary = true →
      s.motorcycles.count (primaryOf userId) = 0
  | .motorcycleUpdate id dto, s =>
    dto.isPrimary = some true → ∀ bike, s.motorcycles.find? id = some bike → bike.deletedAt = none →
      bike.userId = userId → (s.motorcycles.erase id).count (primaryOf userId) = 0
  | _, _ => True

variable {Index : Type} {s : State} {userId ownerId : UserId} {id : MotorcycleId}

theorem onePrimary_create {dto : CreateMotorcycleDto} (one : s.OnePrimary userId) :
    (answer (.motorcycleCreate id ownerId dto) s).2.OnePrimary userId ↔
      AsOnly userId (.motorcycleCreate id ownerId dto) s := by
  rw [AsOnly, answer]
  by_cases stranger : ownerId ∉ s.users
  · rw [if_pos stranger]
    exact iff_of_true one fun done => absurd done Bool.false_ne_true
  by_cases taken : (s.motorcycles.find? id).isSome
  · rw [if_neg stranger, if_pos taken]
    exact iff_of_true one fun done => absurd done Bool.false_ne_true
  rw [if_neg stranger, if_neg taken, State.OnePrimary, Table.count_insert (Option.not_isSome_iff_eq_none.mp taken)]
  rw [State.OnePrimary] at one
  by_cases counted : ownerId = userId ∧ dto.isPrimary = true
  · simp [primaryOf, counted, Except.isOk, Except.toBool]
  · refine iff_of_true ?_ fun _ own primary => absurd ⟨own, primary⟩ counted
    have apart : primaryOf userId id ⟨ownerId, dto.isPrimary, none⟩ = false := by
      simpa [primaryOf, and_comm, imp_not_comm] using counted
    simpa [apart] using one

theorem onePrimary_update {dto : UpdateMotorcycleDto} (one : s.OnePrimary userId) :
    (answer (.motorcycleUpdate id dto) s).2.OnePrimary userId ↔ AsOnly userId (.motorcycleUpdate id dto) s := by
  rw [AsOnly, answer, State.modified]
  cases found : s.motorcycles.find? id with
  | none => exact iff_of_true one fun _ bike here => by cases here
  | some bike =>
    have before := s.motorcycles.count_eq_add_erase id (primaryOf userId)
    rw [State.OnePrimary, before, found] at one
    rw [State.OnePrimary, Table.count_eq_add_erase _ id, Table.erase_modify, Table.find?_modify_self, found]
    simp only [primaryOf, Option.any_some, Option.map_some, UpdateMotorcycleDto.apply] at one ⊢
    cases given : dto.isPrimary with
    | none => exact iff_of_true one fun here => by cases here
    | some primary =>
      by_cases written : primary = true ∧ bike.deletedAt = none ∧ bike.userId = userId
      · obtain ⟨rfl, standing, own⟩ := written
        have counted : (true && bike.deletedAt.isNone && decide (bike.userId = userId)) = true := by
          simp [standing, own]
        rw [Option.getD_some, counted, Bool.toNat_true]
        refine ⟨fun within _ _ _ _ _ => by omega, fun nobody => ?_⟩
        rw [nobody rfl bike rfl standing own]
      · refine iff_of_true ?_ fun here bike' same standing own => ?_
        · have apart : (primary && bike.deletedAt.isNone && decide (bike.userId = userId)) = false := by
            simpa using written
          rw [Option.getD_some, apart, Bool.toNat_false]
          omega
        · cases same
          exact absurd ⟨Option.some.inj here, standing, own⟩ written

theorem onePrimary_answer_iff (request : GarageCall) (one : s.OnePrimary userId) :
    (answer request s).2.OnePrimary userId ↔ AsOnly userId request s := by
  have fewer (changed : MotorcycleId → Motorcycle → Bool) (change : Motorcycle → Motorcycle)
      (lost : ∀ id bike, primaryOf userId id (change bike) = false) :
      (s.motorcycles.modifyWhere changed change).count (primaryOf userId) ≤ 1 := by
    refine Nat.le_trans (Table.count_modifyWhere_le fun id bike counted => ?_) one
    rw [lost] at counted
    cases counted
  cases request with
  | motorcycleCreate => exact onePrimary_create one
  | motorcycleUpdate => exact onePrimary_update one
  | motorcycleDemote => exact iff_of_true (fewer _ _ fun _ _ => by simp [primaryOf]) trivial
  | motorcycleDelete id =>
    refine iff_of_true ?_ trivial
    rw [answer, State.modified]
    cases s.motorcycles.find? id with
    | none => exact one
    | some bike => exact fewer _ _ fun _ _ => by simp [primaryOf]
  | _ => exact iff_of_true one trivial

/-! ## Operations that overlap -/

/-- Rider 1 and an empty garage. -/
def smallGarage : State := ⟨[1], .empty, [], 0⟩

theorem primary_demoted {except : Option MotorcycleId} {other : MotorcycleId} {bike : Motorcycle}
    (found : (answer (.motorcycleDemote userId except) s).2.motorcycles.find? other = some bike)
    (primary : primaryOf userId other bike = true) : some other = except := by
  rw [answer, Table.find?_modifyWhere] at found
  obtain ⟨before, -, rfl⟩ := Option.map_eq_some_iff.mp found
  split at primary
  · simp [primaryOf] at primary
  · rename_i kept
    simpa [primary] using kept

theorem ownMotorcycle_ok {t : State} {value : Unit} (ran : (ownMotorcycle ownerId id).run answer s = (.ok value, t)) :
    t = s ∧ ∀ bike, s.motorcycles.find? id = some bike → bike.userId = ownerId := by
  rw [ownMotorcycle, run_sends, answer] at ran
  cases found : s.motorcycles.find? id with
  | none => simp [found] at ran
  | some bike =>
    rw [found, run_throwIf_bind, run_throwIf] at ran
    split at ran
    · simp at ran
    · split at ran <;> simp_all

theorem demoteIf_ensures (isPrimary : Bool) (except : Option MotorcycleId) (s : State) :
    (demoteIf isPrimary ownerId except).Ensures answer (AsOnly userId) s := by
  cases isPrimary with
  | false => exact ensures_done ()
  | true => exact ensures_call.mpr ⟨trivial, ensures_done _⟩

theorem rethrow_ensures {Value : Type} (reply : Except PrismaError Value) (s : State) :
    (rethrow reply).Ensures answer (AsOnly userId) s := by
  cases reply with
  | error failure => exact ensures_fail _
  | ok value => exact ensures_done _

theorem create_ensures (dto : CreateMotorcycleDto) (s : State) :
    (create id ownerId dto).Ensures answer (AsOnly userId) s := by
  refine Ensures.bind (demoteIf_ensures _ _ _) fun _ after ran => ensures_call.mpr ⟨fun _ own primary => ?_, ?_⟩
  · rw [primary, demoteIf, if_pos rfl] at ran
    cases ran
    subst own
    exact Table.count_eq_zero.mpr fun other bike found counted => by cases primary_demoted found counted
  · change (rethrow _ >>= _).Ensures answer (AsOnly userId) _
    exact Ensures.bind (rethrow_ensures _ _) fun _ _ _ => ensures_call.mpr ⟨trivial, ensures_done _⟩

theorem ownMotorcycle_ensures (s : State) : (ownMotorcycle ownerId id).Ensures answer (AsOnly userId) s := by
  refine Ensures.bind (ensures_call.mpr ⟨trivial, ensures_done _⟩) fun found _ _ => ?_
  cases found with
  | none => exact ensures_fail _
  | some bike => exact Ensures.bind (ensures_throwIf _ _) fun _ _ _ => ensures_throwIf _ _

theorem update_ensures (dto : UpdateMotorcycleDto) (s : State) :
    (update ownerId id dto).Ensures answer (AsOnly userId) s := by
  refine Ensures.bind (ownMotorcycle_ensures s) fun _ between owned => ?_
  refine Ensures.bind (demoteIf_ensures _ _ _) fun _ after ran =>
    ensures_call.mpr ⟨fun primary bike found _ own => ?_, rethrow_ensures _ _⟩
  obtain ⟨rfl, owned⟩ := ownMotorcycle_ok owned
  rw [primary, Option.getD_some, demoteIf, if_pos rfl] at ran
  cases ran
  have alone := found
  rw [answer, Table.find?_modifyWhere] at alone
  obtain ⟨before, here, same⟩ := Option.map_eq_some_iff.mp alone
  have owner : ownerId = userId := by
    rw [← owned before here, ← own, ← same]
    split <;> rfl
  refine Table.count_eq_zero.mpr fun other bike' left counted => ?_
  rw [Table.find?_erase] at left
  split at left
  · cases left
  · rename_i different
    exact different (Option.some.inj (primary_demoted left (owner ▸ counted)))

theorem program_ensures (op : GarageOp) (s : State) : op.program.Ensures answer (AsOnly userId) s := by
  cases op with
  | create id ownerId dto => exact (create_ensures dto s).bind fun _ _ _ => ensures_done _
  | update ownerId id dto => exact (update_ensures dto s).bind fun _ _ _ => ensures_done _
  | remove ownerId id =>
    refine (ownMotorcycle_ensures s).bind fun _ after _ => ensures_call.mpr ⟨trivial, ?_⟩
    change (rethrow _ >>= _).Ensures answer (AsOnly userId) _
    exact Ensures.bind (rethrow_ensures _ _) fun _ _ _ => ensures_done _
  | pause milliseconds => exact ensures_call.mpr ⟨trivial, ensures_done _⟩

/-- **A rider never has two primary motorcycles** when each operation runs alone. -/
theorem one_primary (s : State) (userId : UserId) (one : s.OnePrimary userId) (ops : List GarageOp) :
    Throughout step (fun s => s.OnePrimary userId) s ops :=
  throughout_of_invariant (fun (s : State) op (one : s.OnePrimary userId) =>
    (program_ensures op s).run_keeps (fun request _ only one => (onePrimary_answer_iff request one).mpr only) one)
    one ops

theorem one_primary_small : Throughout step (fun s => s.OnePrimary 1) smallGarage
    [.create 10 1 ⟨true⟩, .create 11 1 ⟨true⟩, .update 1 10 ⟨some true⟩] :=
  one_primary smallGarage 1 (Nat.zero_le 1) _

end Motogram.Garage
