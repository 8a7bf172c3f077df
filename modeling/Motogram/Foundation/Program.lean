import Mathlib.Control.Basic
import Mathlib.Data.List.Basic

/-!
# Programs that talk to shared stores

A service function is a program that sends requests to stores it shares with
other programs, and that goes on according to the replies. A program here is
the tree of its requests: it returns, it fails with an exception, or it sends a
request and continues with the reply.

The same tree has two readings. Run alone (`Program.run`) it is a function on
the store, each request answered at once. Run together with others it gives
up control between any two requests; that reading is in the module on
interleaving. Writing a function once as a program therefore fixes both what
it does in a quiet system and what can happen to it in a busy one.

`issued` lists the requests a program sends when it runs alone, each with the
store it was sent to. A property of a run that speaks of the moment something
was sent is a property of that list.
-/

set_option autoImplicit false

namespace Motogram.Foundation

/-- A program with requests `Call`, replies `Reply` and exceptions `Failure`. -/
inductive Program (Call : Type) (Reply : Call → Type) (Failure α : Type) : Type where
  | done (value : α)
  | fail (failure : Failure)
  | call (request : Call) (next : Reply request → Program Call Reply Failure α)

namespace Program

variable {Call : Type} {Reply : Call → Type} {Failure α β γ Store : Type}

/-- Run one program and then another on its value. An exception ends both. -/
def bind : Program Call Reply Failure α → (α → Program Call Reply Failure β) →
    Program Call Reply Failure β
  | .done value, next => next value
  | .fail failure, _ => .fail failure
  | .call request rest, next => .call request fun reply => (rest reply).bind next

/-- Run a handler on the exception a program ends with. -/
def rescue : Program Call Reply Failure α → (Failure → Program Call Reply Failure α) →
    Program Call Reply Failure α
  | .done value, _ => .done value
  | .fail failure, handler => handler failure
  | .call request rest, handler => .call request fun reply => (rest reply).rescue handler

instance : Monad (Program Call Reply Failure) where
  pure := .done
  bind := .bind

def send (request : Call) : Program Call Reply Failure (Reply request) :=
  .call request .done

def throwIf (condition : Prop) [Decidable condition] (failure : Failure) :
    Program Call Reply Failure Unit :=
  if condition then .fail failure else .done ()

/-- The value of an outcome that is not an exception. -/
def ofExcept : Except Failure α → Program Call Reply Failure α
  | .ok value => .done value
  | .error failure => .fail failure

@[simp] theorem pure_eq (value : α) :
    (pure value : Program Call Reply Failure α) = .done value := rfl

@[simp] theorem done_bind (value : α) (next : α → Program Call Reply Failure β) :
    (Program.done value >>= next) = next value := rfl

@[simp] theorem fail_bind (failure : Failure) (next : α → Program Call Reply Failure β) :
    ((Program.fail failure : Program Call Reply Failure α) >>= next) = .fail failure := rfl

@[simp] theorem call_bind (request : Call) (rest : Reply request → Program Call Reply Failure α)
    (next : α → Program Call Reply Failure β) :
    (Program.call request rest >>= next) = .call request fun reply => rest reply >>= next := rfl

@[simp] theorem send_bind (request : Call)
    (next : Reply request → Program Call Reply Failure β) :
    (send request >>= next) = .call request next := rfl

theorem bind_done (program : Program Call Reply Failure α) : (program >>= Program.done) = program := by
  induction program with
  | done | fail => rfl
  | call request rest ih => simp only [call_bind, ih]

theorem bind_assoc (program : Program Call Reply Failure α)
    (first : α → Program Call Reply Failure β) (second : β → Program Call Reply Failure γ) :
    ((program >>= first) >>= second) = program >>= fun value => first value >>= second := by
  induction program with
  | done | fail => rfl
  | call request rest ih => simp only [call_bind, ih]

/-! ## Running alone -/

abbrev Answer (Call : Type) (Reply : Call → Type) (Store : Type) :=
  (request : Call) → Store → Reply request × Store

variable (answer : Answer Call Reply Store)

def run : Program Call Reply Failure α → Store → Except Failure α × Store
  | .done value, store => (.ok value, store)
  | .fail failure, store => (.error failure, store)
  | .call request next, store =>
    run (next (answer request store).1) (answer request store).2

@[simp] theorem run_done (value : α) (store : Store) :
    run answer (.done value : Program Call Reply Failure α) store = (.ok value, store) := rfl

@[simp] theorem run_fail (failure : Failure) (store : Store) :
    run answer (.fail failure : Program Call Reply Failure α) store =
      (.error failure, store) := rfl

@[simp] theorem run_call (request : Call) (next : Reply request → Program Call Reply Failure α)
    (store : Store) :
    run answer (.call request next) store =
      run answer (next (answer request store).1) (answer request store).2 := rfl

theorem run_call_of_answer {request : Call} {store after : Store} {reply : Reply request}
    (answered : answer request store = (reply, after)) (next : Reply request → Program Call Reply Failure α) :
    run answer (.call request next) store = run answer (next reply) after := by
  rw [run_call, answered]

theorem run_sends (request : Call) (next : Reply request → Program Call Reply Failure α) (store : Store) :
    run answer (.call request .done >>= next) store =
      run answer (next (answer request store).1) (answer request store).2 := rfl

theorem run_sends_of {answer : Answer Call Reply Store} {request : Call} {store after : Store}
    {reply : Reply request} (answered : answer request store = (reply, after))
    (next : Reply request → Program Call Reply Failure α) :
    run answer (.call request .done >>= next) store = run answer (next reply) after :=
  run_call_of_answer answer answered _

variable (program : Program Call Reply Failure α) (next : α → Program Call Reply Failure β)

theorem run_bind (store : Store) :
    run answer (program >>= next) store =
      match run answer program store with
      | (.ok value, after) => run answer (next value) after
      | (.error failure, after) => (.error failure, after) := by
  induction program generalizing store with
  | done | fail => rfl
  | call request rest ih => simp only [call_bind, run_call, ih]

theorem run_rescue (handler : Failure → Program Call Reply Failure α) (store : Store) :
    run answer (program.rescue handler) store =
      match run answer program store with
      | (.ok value, after) => (.ok value, after)
      | (.error failure, after) => run answer (handler failure) after := by
  induction program generalizing store with
  | done | fail => rfl
  | call request rest ih => simp only [rescue, run_call, ih]

theorem run_bind_of_ok {program : Program Call Reply Failure α} {store after : Store} {value : α}
    (ran : run answer program store = (.ok value, after)) (next : α → Program Call Reply Failure β) :
    run answer (program >>= next) store = run answer (next value) after := by
  rw [run_bind, ran]

theorem run_bind_of_error {program : Program Call Reply Failure α} {store after : Store} {failure : Failure}
    (ran : run answer program store = (.error failure, after)) (next : α → Program Call Reply Failure β) :
    run answer (program >>= next) store = (.error failure, after) := by
  rw [run_bind, ran]

theorem run_bind_eq_ok {program : Program Call Reply Failure α}
    {next : α → Program Call Reply Failure β} {store after : Store} {value : β}
    (ran : run answer (program >>= next) store = (.ok value, after)) :
    ∃ first between, run answer program store = (.ok first, between) ∧
      run answer (next first) between = (.ok value, after) := by
  rw [run_bind] at ran
  cases start : run answer program store with
  | mk outcome between =>
    rw [start] at ran
    cases outcome with
    | ok first => exact ⟨first, between, rfl, ran⟩
    | error failure => cases ran

theorem ok_of_bind {first : Except Failure α} {next : α → Except Failure β} {value : β}
    (given : (first >>= next) = .ok value) : ∃ between, first = .ok between ∧ next between = .ok value := by
  cases first with
  | error failure => cases given
  | ok between => exact ⟨between, rfl, given⟩

theorem throwIf_of {condition : Prop} [Decidable condition] (holds : condition) (failure : Failure) :
    (throwIf condition failure : Program Call Reply Failure Unit) = .fail failure :=
  if_pos holds

theorem throwIf_of_not {condition : Prop} [Decidable condition] (fails : ¬ condition) (failure : Failure) :
    (throwIf condition failure : Program Call Reply Failure Unit) = .done () :=
  if_neg fails

theorem run_throwIf (condition : Prop) [Decidable condition] (failure : Failure) (store : Store) :
    run answer (throwIf condition failure : Program Call Reply Failure Unit) store =
      (if condition then .error failure else .ok (), store) := by
  unfold throwIf
  split <;> rfl

theorem run_throwIf_bind (condition : Prop) [Decidable condition] (failure : Failure)
    (next : Unit → Program Call Reply Failure β) (store : Store) :
    run answer (throwIf condition failure >>= next) store =
      if condition then (.error failure, store) else run answer (next ()) store := by
  unfold throwIf
  split <;> rfl

/-! ## The requests a run sends -/

/-- The requests a program sends when it runs alone, with the store each was
sent to. -/
def issued : Program Call Reply Failure α → Store → List (Call × Store)
  | .done _, _ => []
  | .fail _, _ => []
  | .call request next, store =>
    (request, store) :: issued (next (answer request store).1) (answer request store).2

@[simp] theorem issued_done (value : α) (store : Store) :
    issued answer (.done value : Program Call Reply Failure α) store = [] := rfl

@[simp] theorem issued_fail (failure : Failure) (store : Store) :
    issued answer (.fail failure : Program Call Reply Failure α) store = [] := rfl

@[simp] theorem issued_call (request : Call)
    (next : Reply request → Program Call Reply Failure α) (store : Store) :
    issued answer (.call request next) store =
      (request, store) :: issued answer (next (answer request store).1)
        (answer request store).2 := rfl

theorem issued_bind (store : Store) :
    issued answer (program >>= next) store =
      issued answer program store ++
        match run answer program store with
        | (.ok value, after) => issued answer (next value) after
        | (.error _, _) => [] := by
  induction program generalizing store with
  | done | fail => rfl
  | call request rest ih =>
    simp only [call_bind, issued_call, run_call, ih, List.cons_append]

theorem issued_rescue (handler : Failure → Program Call Reply Failure α) (store : Store) :
    issued answer (program.rescue handler) store =
      issued answer program store ++
        match run answer program store with
        | (.ok _, _) => []
        | (.error failure, after) => issued answer (handler failure) after := by
  induction program generalizing store with
  | done | fail => rfl
  | call request rest ih =>
    simp only [rescue, issued_call, run_call, ih, List.cons_append]

/-- Run a program whose request at this position fails. The program ends there, without a value and
without an exception of its own; the store may have carried the request out all the same. -/
def interrupted (applied : Bool) :
    Program Call Reply Failure α → Nat → Store → Option (Except Failure α) × Store
  | .done value, _, store => (some (.ok value), store)
  | .fail failure, _, store => (some (.error failure), store)
  | .call request _, 0, store => (none, if applied then (answer request store).2 else store)
  | .call request next, position + 1, store =>
    interrupted applied (next (answer request store).1) position (answer request store).2

section Interrupted

variable {applied : Bool} {position : Nat} {request : Call} {store : Store}
  {program : Program Call Reply Failure α}

/-- A program whose request fails has no result. -/
theorem interrupted_fst {entry : Call × Store} (sent : (program.issued answer store)[position]? = some entry) :
    (program.interrupted answer applied position store).1 = none := by
  induction program generalizing position store with
  | done | fail => cases sent
  | call request next ih =>
    cases position with
    | zero => rfl
    | succ position => exact ih _ sent

/-- The store is left as the failing request found it, or as the request left it. -/
theorem interrupted_snd {entry : Call × Store}
    (sent : (program.issued answer store)[position]? = some entry) :
    (program.interrupted answer applied position store).2 =
      if applied then (answer entry.1 entry.2).2 else entry.2 := by
  induction program generalizing position store with
  | done | fail => cases sent
  | call request next ih =>
    cases position with
    | zero =>
      obtain rfl := Option.some.inj sent
      rfl
    | succ position => exact ih _ sent

end Interrupted

/-- Every request the program sends from this store is good in the store it is
sent to. -/
def Ensures (good : Call → Store → Prop) (program : Program Call Reply Failure α) (store : Store) :
    Prop :=
  ∀ entry ∈ program.issued answer store, good entry.1 entry.2

section Ensures

variable {answer} {good : Call → Store → Prop} {store : Store}

theorem ensures_done (value : α) :
    (Program.done value : Program Call Reply Failure α).Ensures answer good store := by
  simp [Ensures]

theorem ensures_fail (failure : Failure) :
    (Program.fail failure : Program Call Reply Failure α).Ensures answer good store := by
  simp [Ensures]

theorem ensures_call {request : Call} {next : Reply request → Program Call Reply Failure α} :
    (Program.call request next).Ensures answer good store ↔
      good request store ∧
        (next (answer request store).1).Ensures answer good (answer request store).2 := by
  simp only [Ensures, issued_call, List.forall_mem_cons]

theorem ensures_throwIf (condition : Prop) [Decidable condition] (failure : Failure) :
    (throwIf condition failure : Program Call Reply Failure Unit).Ensures answer good store := by
  unfold throwIf
  split
  · exact ensures_fail failure
  · exact ensures_done ()

/-- The requests of a sequence are those of its parts, the second one started
where the first has ended. -/
theorem Ensures.bind {program : Program Call Reply Failure α}
    {next : α → Program Call Reply Failure β} (first : program.Ensures answer good store)
    (rest : ∀ value after, run answer program store = (.ok value, after) →
      (next value).Ensures answer good after) :
    (program >>= next).Ensures answer good store := by
  unfold Ensures
  rw [issued_bind, List.forall_mem_append]
  refine ⟨first, ?_⟩
  cases ran : run answer program store with
  | mk outcome after =>
    cases outcome with
    | ok value => exact rest value after ran
    | error failure => simp

theorem Ensures.rescue {program : Program Call Reply Failure α}
    {handler : Failure → Program Call Reply Failure α}
    (first : program.Ensures answer good store)
    (rest : ∀ failure after, run answer program store = (.error failure, after) →
      (handler failure).Ensures answer good after) :
    (program.rescue handler).Ensures answer good store := by
  unfold Ensures
  rw [issued_rescue, List.forall_mem_append]
  refine ⟨first, ?_⟩
  cases ran : run answer program store with
  | mk outcome after =>
    cases outcome with
    | ok value => simp
    | error failure => exact rest failure after ran

/-- A program keeps what each of its requests keeps where it is good. -/
theorem Ensures.run_keeps {keeps : Store → Prop} {program : Program Call Reply Failure α}
    (ensures : program.Ensures answer good store)
    (each : ∀ request store, good request store → keeps store → keeps (answer request store).2)
    (before : keeps store) : keeps (program.run answer store).2 := by
  induction program generalizing store with
  | done | fail => exact before
  | call request next ih =>
    obtain ⟨first, rest⟩ := ensures_call.mp ensures
    exact ih _ rest (each request store first before)

end Ensures

/-! ## Programs that use only some requests -/

/-- Every request the program can send, whatever the replies, is permitted. -/
def Uses (permitted : Call → Prop) : Program Call Reply Failure α → Prop
  | .done _ => True
  | .fail _ => True
  | .call request next => permitted request ∧ ∀ reply, (next reply).Uses permitted

section Uses

variable {permitted : Call → Prop}

@[simp] theorem uses_done (value : α) :
    (Program.done value : Program Call Reply Failure α).Uses permitted := trivial

@[simp] theorem uses_fail (failure : Failure) :
    (Program.fail failure : Program Call Reply Failure α).Uses permitted := trivial

@[simp] theorem uses_call (request : Call)
    (next : Reply request → Program Call Reply Failure α) :
    (Program.call request next).Uses permitted ↔
      permitted request ∧ ∀ reply, (next reply).Uses permitted := Iff.rfl

@[simp] theorem uses_ofExcept (outcome : Except Failure α) :
    (ofExcept outcome : Program Call Reply Failure α).Uses permitted := by
  cases outcome <;> trivial

@[simp] theorem uses_throwIf (condition : Prop) [Decidable condition] (failure : Failure) :
    (throwIf condition failure : Program Call Reply Failure Unit).Uses permitted := by
  unfold throwIf
  split <;> trivial

theorem Uses.send {request : Call} {next : Reply request → Program Call Reply Failure α}
    (permitted' : permitted request) (rest : ∀ reply, (next reply).Uses permitted) :
    ((Program.call request .done : Program Call Reply Failure _) >>= next).Uses permitted :=
  ⟨permitted', rest⟩

variable {program : Program Call Reply Failure α}

theorem Uses.bind {next : α → Program Call Reply Failure β} (first : program.Uses permitted)
    (rest : ∀ value, (next value).Uses permitted) : (program >>= next).Uses permitted := by
  induction program with
  | done value => exact rest value
  | fail failure => trivial
  | call request rest' ih => exact ⟨first.1, fun reply => ih reply (first.2 reply)⟩

theorem Uses.rescue {handler : Failure → Program Call Reply Failure α} (first : program.Uses permitted)
    (rest : ∀ failure, (handler failure).Uses permitted) : (program.rescue handler).Uses permitted := by
  induction program with
  | done value => trivial
  | fail failure => exact rest failure
  | call request rest' ih => exact ⟨first.1, fun reply => ih reply (first.2 reply)⟩

theorem Uses.mono {more : Call → Prop} {program : Program Call Reply Failure α} (uses : program.Uses permitted)
    (wider : ∀ request, permitted request → more request) : program.Uses more := by
  induction program with
  | done | fail => trivial
  | call request next ih => exact ⟨wider _ uses.1, fun reply => ih reply (uses.2 reply)⟩

theorem Uses.issued (uses : program.Uses permitted) {store : Store} {entry : Call × Store}
    (member : entry ∈ program.issued answer store) : permitted entry.1 := by
  induction program generalizing store with
  | done | fail => simp at member
  | call request next ih =>
    rcases List.mem_cons.mp member with rfl | later
    · exact uses.1
    · exact ih _ (uses.2 _) later

theorem Uses.ensures {good : Call → Store → Prop} {program : Program Call Reply Failure α}
    (uses : program.Uses permitted) (harmless : ∀ request store, permitted request → good request store)
    (store : Store) : program.Ensures answer good store :=
  fun entry member => harmless entry.1 entry.2 (uses.issued answer member)

/-- **A program keeps what each request it may use keeps.** -/
theorem Uses.run_keeps (uses : program.Uses permitted) {keeps : Store → Prop}
    (each : ∀ request store, permitted request → keeps store → keeps (answer request store).2)
    {store : Store} (before : keeps store) : keeps (program.run answer store).2 := by
  induction program generalizing store with
  | done | fail => exact before
  | call request next ih => exact ih _ (uses.2 _) (each request store uses.1 before)

theorem Uses.ensures_of_keeps {good : Call → Store → Prop} {keeps : Store → Prop}
    {program : Program Call Reply Failure α} (uses : program.Uses permitted)
    (each : ∀ request store, permitted request → keeps store → keeps (answer request store).2)
    (gives : ∀ request store, keeps store → good request store)
    {store : Store} (before : keeps store) : program.Ensures answer good store := by
  induction program generalizing store with
  | done value => exact ensures_done value
  | fail failure => exact ensures_fail failure
  | call request next ih =>
    exact ensures_call.mpr ⟨gives request store before,
      ih _ (uses.2 _) (each request store uses.1 before)⟩

end Uses

/-! ## Programs that fail in some ways only -/

/-- Every failure the program can end with, whatever the replies, is permitted. -/
def FailsWith (permitted : Failure → Prop) : Program Call Reply Failure α → Prop
  | .done _ => True
  | .fail failure => permitted failure
  | .call _ next => ∀ reply, (next reply).FailsWith permitted

section FailsWith

variable {permitted : Failure → Prop}

theorem failsWith_throwIf (condition : Prop) [Decidable condition] {failure : Failure}
    (allowed : permitted failure) :
    (throwIf condition failure : Program Call Reply Failure Unit).FailsWith permitted := by
  unfold throwIf
  split
  · exact allowed
  · trivial

theorem FailsWith.send {request : Call} {next : Reply request → Program Call Reply Failure α}
    (rest : ∀ reply, (next reply).FailsWith permitted) :
    ((Program.call request .done : Program Call Reply Failure _) >>= next).FailsWith permitted :=
  rest

theorem FailsWith.bind {program : Program Call Reply Failure α} {next : α → Program Call Reply Failure β}
    (first : program.FailsWith permitted) (rest : ∀ value, (next value).FailsWith permitted) :
    (program >>= next).FailsWith permitted := by
  induction program with
  | done value => exact rest value
  | fail failure => exact first
  | call request rest' ih => exact fun reply => ih reply (first reply)

theorem FailsWith.run {answer : Answer Call Reply Store} {program : Program Call Reply Failure α}
    (fails : program.FailsWith permitted) {store : Store} {failure : Failure}
    (ends : (program.run answer store).1 = .error failure) : permitted failure := by
  induction program generalizing store with
  | done value => cases ends
  | fail result =>
    obtain rfl : result = failure := Except.error.inj ends
    exact fails
  | call request next ih => exact ih _ (fails _) ends

theorem failsWith_of_all (all : ∀ failure, permitted failure) (program : Program Call Reply Failure α) :
    program.FailsWith permitted := by
  induction program with
  | done value => trivial
  | fail failure => exact all failure
  | call request next ih => exact ih

end FailsWith

/-! ## Programs that return some values only -/

/-- Every value the program can return, whatever the replies, is permitted. -/
def Returns (permitted : α → Prop) : Program Call Reply Failure α → Prop
  | .done value => permitted value
  | .fail _ => True
  | .call _ next => ∀ reply, (next reply).Returns permitted

section Returns

variable {permitted : β → Prop}

theorem Returns.bind {between : α → Prop} {program : Program Call Reply Failure α}
    {next : α → Program Call Reply Failure β} (first : program.Returns between)
    (rest : ∀ value, between value → (next value).Returns permitted) : (program >>= next).Returns permitted := by
  induction program with
  | done value => exact rest value first
  | fail failure => trivial
  | call request rest' ih => exact fun reply => ih reply (first reply)

theorem returns_of_all {permitted : α → Prop} (all : ∀ value, permitted value)
    (program : Program Call Reply Failure α) : program.Returns permitted := by
  induction program with
  | done value => exact all value
  | fail failure => trivial
  | call request next ih => exact ih

/-- What comes before the last part does not matter. -/
theorem Returns.last (program : Program Call Reply Failure α) {next : α → Program Call Reply Failure β}
    (rest : ∀ value, (next value).Returns permitted) : (program >>= next).Returns permitted :=
  (returns_of_all (fun _ => trivial) program : program.Returns fun _ => True).bind fun value _ => rest value

theorem Returns.run {answer : Answer Call Reply Store} {program : Program Call Reply Failure β}
    (returns : program.Returns permitted) {store : Store} {value : β}
    (ends : (program.run answer store).1 = .ok value) : permitted value := by
  induction program generalizing store with
  | done result =>
    obtain rfl : result = value := Except.ok.inj ends
    exact returns
  | fail failure => cases ends
  | call request next ih => exact ih _ (returns _) ends

end Returns

/-! ## Programs inside a larger system -/

section Embed

variable {Call' : Type} {Reply' : Call' → Type} {Failure' Store' : Type}

/-- The program as a part of a larger system, where each of its calls is a program of
that system. -/
def embed (inside : (request : Call) → Program Call' Reply' Failure' (Reply request))
    (fails : Failure → Failure') : Program Call Reply Failure α → Program Call' Reply' Failure' α
  | .done value => .done value
  | .fail failure => .fail (fails failure)
  | .call request next => inside request >>= fun reply => embed inside fails (next reply)

theorem uses_embed {permitted : Call' → Prop}
    {inside : (request : Call) → Program Call' Reply' Failure' (Reply request)} (fails : Failure → Failure')
    (each : ∀ request, (inside request).Uses permitted) (program : Program Call Reply Failure α) :
    (program.embed inside fails).Uses permitted := by
  induction program with
  | done | fail => trivial
  | call request next ih => exact (each request).bind fun reply => ih reply

theorem failsWith_embed {permitted : Failure' → Prop}
    {inside : (request : Call) → Program Call' Reply' Failure' (Reply request)} (fails : Failure → Failure')
    (each : ∀ request, (inside request).FailsWith permitted) (own : ∀ failure, permitted (fails failure))
    (program : Program Call Reply Failure α) : (program.embed inside fails).FailsWith permitted := by
  induction program with
  | done value => trivial
  | fail failure => exact own failure
  | call request next ih => exact (each request).bind fun reply => ih reply

/-- **The larger system runs it as its own system does**, when each call does to a part
of the larger store what it does to its own. -/
theorem run_embed {answer' : Answer Call' Reply' Store'}
    {inside : (request : Call) → Program Call' Reply' Failure' (Reply request)}
    (fails : Failure → Failure') (part : Store' → Store) (withPart : Store' → Store → Store')
    (sends : ∀ request store, run answer' (inside request) store =
      (.ok (answer request (part store)).1, withPart store (answer request (part store)).2))
    (part_withPart : ∀ store own, part (withPart store own) = own)
    (withPart_withPart : ∀ store first second,
      withPart (withPart store first) second = withPart store second)
    (withPart_part : ∀ store, withPart store (part store) = store)
    (program : Program Call Reply Failure α) (store : Store') :
    run answer' (program.embed inside fails) store =
      ((run answer program (part store)).1.mapError fails,
        withPart store (run answer program (part store)).2) := by
  induction program generalizing store with
  | done | fail => exact congrArg (Prod.mk _) (withPart_part store).symm
  | call request next ih =>
    rw [embed, run_bind_of_ok answer' (sends request store), ih, part_withPart, withPart_withPart,
      run_call]

end Embed

end Program

end Motogram.Foundation
