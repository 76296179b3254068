import NativeThunks.Native.Slot
import Mathlib.Data.List.Basic

/-! A slot over any run of calls. What a slot holds is the first address that any call so far has found:
a call that finds nothing leaves no trace in it, and nothing that comes behind the first address replaces
it. So a slot is asked for again and again until it has an address, and after that the calls are answered
without any lookup, whatever they would have found themselves. -/
namespace NativeThunks.SlotCalls
open Native

variable {α : Type}

/-- A call: the entry point that it asks for, and who would find it. -/
structure Call (α : Type) where
  resolver : Resolver α
  entryPoint : String

/-- What the resolver of a call finds. -/
def Call.found? (call : Call α) : Option α := call.resolver call.entryPoint

/-- A call on a slot. -/
def Call.on (call : Call α) (slot : Slot α) : Slot.Resolution α :=
  slot.resolve call.resolver call.entryPoint

/-- What the calls of a run lead to, one after the other on one slot. -/
def run (slot : Slot α) : List (Call α) → List (Slot.Resolution α)
  | [] => []
  | call :: rest => call.on slot :: run (call.on slot).slot rest

/-- The slot behind a run. -/
def behind (slot : Slot α) (calls : List (Call α)) : Slot α :=
  calls.foldl (fun slot call => (call.on slot).slot) slot

/-- The call has an address for an answer. -/
def succeeds (step : Slot.Resolution α) : Bool := step.result.isOk

/-- How often the resolvers of a run are asked. -/
def lookups (steps : List (Slot.Resolution α)) : Nat :=
  steps.foldr (fun step total => step.lookups + total) 0

/-- What is to be said of the steps that the calls on one slot lead to. -/
structure FilledOnce (calls : List (Call α)) (steps : List (Slot.Resolution α)) : Prop where
  length : steps.length = calls.length
  /-- As long as nothing is found, each call names its own entry point, and the slot stays empty. -/
  failed : ∀ (position : Nat) call step, calls[position]? = some call →
    steps[position]? = some step → (∀ call ∈ calls.take (position + 1), call.found? = none) →
      step.result = .error ⟨call.entryPoint⟩ ∧ step.slot.isResolved = false ∧ step.lookups = 1
  /-- The first call that finds an address and all calls behind it answer this address, and the slot
  holds it. -/
  answered : ∀ early first late address, calls = early ++ first :: late →
    (∀ call ∈ early, call.found? = none) → first.found? = some address →
      ∀ (position : Nat) step, early.length ≤ position → steps[position]? = some step →
        step.result = .ok address ∧ step.slot.held = some address ∧
          step.lookups = if position = early.length then 1 else 0
  /-- Each failed call asks once, and so does the first one that does not fail. -/
  asked : lookups steps = steps.countP (!succeeds ·) + if steps.any succeeds then 1 else 0

variable {calls : List (Call α)} {call : Call α} {address : α}

private theorem on_filled (call : Call α) (address : α) :
    call.on ⟨some address⟩ = ⟨.ok address, ⟨some address⟩, 0⟩ := rfl

private theorem on_empty_found (found : call.found? = some address) :
    call.on {} = ⟨.ok address, ⟨some address⟩, 1⟩ := by
  unfold Call.found? at found
  simp [Call.on, Slot.resolve, found]

private theorem on_empty_failed (failed : call.found? = none) :
    call.on {} = ⟨.error ⟨call.entryPoint⟩, {}, 1⟩ := by
  unfold Call.found? at failed
  simp [Call.on, Slot.resolve, failed]

/-- A slot takes what a call finds if it has nothing yet. -/
theorem slot_on (call : Call α) (slot : Slot α) :
    (call.on slot).slot = ⟨slot.held.or call.found?⟩ := by
  obtain ⟨_ | address⟩ := slot
  · cases found : call.found? with
    | none => rw [on_empty_failed found]; rfl
    | some address => rw [on_empty_found found]; rfl
  · rfl

private theorem behind_eq (slot : Slot α) (calls : List (Call α)) :
    behind slot calls = ⟨slot.held.or (calls.findSome? Call.found?)⟩ := by
  induction calls generalizing slot with
  | nil => simp [behind]
  | cons call rest ih =>
    rw [behind, List.foldl_cons, ← behind, ih, slot_on, Option.or_assoc]
    cases found : call.found? <;> simp [found]

/-- A new slot holds the first address that was found. -/
theorem behind_new (calls : List (Call α)) :
    behind {} calls = ⟨calls.findSome? Call.found?⟩ := by
  rw [behind_eq, Option.none_or]

private theorem length_run (slot : Slot α) (calls : List (Call α)) :
    (run slot calls).length = calls.length := by
  induction calls generalizing slot with
  | nil => rfl
  | cons call rest ih => rw [run, List.length_cons, ih, List.length_cons]

/-- Each step of a run is a call on the slot that the calls before have left. -/
theorem run_getElem? (slot : Slot α) (calls : List (Call α)) (position : Nat) :
    (run slot calls)[position]? =
      calls[position]?.map fun call => call.on (behind slot (calls.take position)) := by
  induction calls generalizing slot position with
  | nil => rfl
  | cons call rest ih =>
    cases position with
    | zero => rfl
    | succ position =>
      rw [run, List.getElem?_cons_succ, ih, List.getElem?_cons_succ, List.take_succ_cons]
      rfl

/-- A slot that holds an address answers every call by itself. -/
theorem run_filled (address : α) (calls : List (Call α)) : run ⟨some address⟩ calls =
    List.replicate calls.length ⟨.ok address, ⟨some address⟩, 0⟩ := by
  induction calls with
  | nil => rfl
  | cons call rest ih => rw [run, on_filled, ih, List.length_cons, List.replicate_succ]

private theorem lookups_filled (address : α) (calls : List (Call α)) :
    lookups (run ⟨some address⟩ calls) = 0 := by
  rw [run_filled]
  induction calls.length with
  | zero => rfl
  | succ number ih => rw [List.replicate_succ, lookups, List.foldr_cons, ← lookups, ih]

/-- Every failure on an empty slot is one lookup, and so is the first success. -/
theorem lookups_new (calls : List (Call α)) : lookups (run {} calls) =
    (run {} calls).countP (!succeeds ·) + if (run {} calls).any succeeds then 1 else 0 := by
  induction calls with
  | nil => rfl
  | cons call rest ih =>
    rw [run, lookups, List.foldr_cons, ← lookups, List.countP_cons, List.any_cons]
    cases found : call.found? with
    | none =>
      have failure : succeeds (α := α) ⟨.error ⟨call.entryPoint⟩, {}, 1⟩ = false := rfl
      rw [on_empty_failed found, ih, failure, Bool.false_or, Bool.not_false, if_pos rfl,
        Nat.add_right_comm, Nat.add_comm 1]
    | some address =>
      have success : succeeds (α := α) ⟨.ok address, ⟨some address⟩, 1⟩ = true := rfl
      have failures : (run ⟨some address⟩ rest).countP (!succeeds ·) = 0 := by
        rw [run_filled, List.countP_replicate]
        rfl
      rw [on_empty_found found, lookups_filled, failures, success]
      rfl

/-- A slot that no call of a run has found anything for is as it was. -/
theorem behind_failed (nothing : ∀ call ∈ calls, call.found? = none) : behind {} calls = {} := by
  rw [behind_new, List.findSome?_eq_none_iff.mpr nothing]

/-- Behind the first call that finds an address the slot holds this one. -/
theorem behind_found {early late : List (Call α)} {first : Call α} {position : Nat}
    (nothing : ∀ call ∈ early, call.found? = none) (found : first.found? = some address)
    (later : early.length < position) :
    behind {} ((early ++ first :: late).take position) = ⟨some address⟩ := by
  obtain ⟨more, rfl⟩ := Nat.exists_eq_add_of_lt later
  have front : (early ++ first :: late).take (early.length + more + 1) =
      early ++ first :: late.take more := by
    rw [Nat.add_assoc, List.take_length_add_append, List.take_succ_cons]
  rw [behind_new, front, List.findSome?_append, List.findSome?_eq_none_iff.mpr nothing,
    List.findSome?_cons, found, Option.none_or]

/-- A call that finds nothing fails by its own name and leaves an empty slot empty. The first call that
finds an address fills the slot, and this address is the answer from then on. Resolvers are asked only
until then. -/
theorem slot_filled_once (calls : List (Call α)) : FilledOnce calls (run {} calls) := by
  constructor
  case length => exact length_run {} calls
  case asked => exact lookups_new calls
  case failed =>
    intro position call step there made nothing
    rw [run_getElem?, there] at made
    obtain rfl : call.on (behind {} (calls.take position)) = step := Option.some.inj made
    rw [List.take_add_one, there, List.forall_mem_append] at nothing
    obtain ⟨earlier, here⟩ := nothing
    have last : call.found? = none := here call (by simp)
    rw [behind_failed earlier, on_empty_failed last]
    exact ⟨rfl, rfl, rfl⟩
  case answered =>
    rintro early first others address rfl nothing found position step late made
    rw [run_getElem?] at made
    obtain ⟨call, there, rfl⟩ := Option.map_eq_some_iff.mp made
    rcases Nat.eq_or_lt_of_le late with rfl | later
    · rw [List.getElem?_append_right (Nat.le_refl _), Nat.sub_self] at there
      obtain rfl : first = call := Option.some.inj there
      rw [List.take_left, behind_failed nothing, on_empty_found found]
      exact ⟨rfl, rfl, (if_pos rfl).symm⟩
    · rw [behind_found nothing found later, on_filled]
      exact ⟨rfl, rfl, (if_neg (Nat.ne_of_gt later)).symm⟩

end NativeThunks.SlotCalls
