import TektonLogs.Api.Objects

/-!
# What a goroutine does, seen from its channels

Every goroutine of the reader is straight-line code around channel operations, so what it
does is the sequence of values it sends and the way it stops. `Behaviour` is that pair:
the sends in order, and whether the code returned, panicked, or blocked for ever on a
channel nobody will serve. A function of the source that sends on channels is modelled as
a function into `Behaviour`; sequencing two pieces of Go code is `Behaviour.andThen`,
which drops the second piece when the first does not return. No panic of the reader is
recovered, so a panic ends the process. Go still runs the panicking goroutine's deferred
calls while the panic unwinds, just before the crash. The model leaves those calls out: a
panic is the last action of the whole program.

The concurrent parts (the pod watcher, `readPodLogs`'s wait group) are modelled as step
relations elsewhere; they run a `Behaviour` one send at a time.

`Interleaving` is the shuffle of two ordered streams: the orders in which a `select` can
take the deliveries of two channels, each in its own order.
-/

set_option autoImplicit false

namespace TektonLogs
namespace Go

/-- The Go runtime panics the model can reach. -/
inductive Panic where
  | nilPointerDereference
  | sendOnClosedChannel
  | closeOfClosedChannel
  | failedTypeAssertion
  | negativeWaitGroupCounter
  deriving DecidableEq, Repr

/-- A misuse of a channel or a wait group, as opposed to a panic of the code a goroutine runs. -/
def Panic.isChannel : Panic → Bool
  | .sendOnClosedChannel | .closeOfClosedChannel | .negativeWaitGroupCounter => true
  | .nilPointerDereference | .failedTypeAssertion => false

/-- One send of a log-reading goroutine: on its `logC` or on its `errC`. -/
inductive Send where
  | log (l : Log)
  | err (e : String)
  deriving DecidableEq, Repr

/-- The record of a `Log` send. -/
@[simp] def Send.log? : Send → Option Log
  | .log l => some l
  | .err _ => none

/-- The text of an `errC` send. -/
@[simp] def Send.err? : Send → Option String
  | .log _ => none
  | .err e => some e

/-- How straight-line Go code stops. -/
inductive Ending where
  | returned
  | panicked (p : Panic)
  | blocked
  deriving DecidableEq, Repr

/-- The channel operations of a piece of Go code in order, and how it stops. -/
structure Behaviour (α : Type) where
  sends : List α
  ending : Ending
  deriving DecidableEq, Repr

namespace Behaviour

variable {α : Type}

/-- Code that returns at once. -/
def done : Behaviour α := ⟨[], .returned⟩

/-- An operation, then the rest. -/
def cons (s : α) (b : Behaviour α) : Behaviour α := ⟨s :: b.sends, b.ending⟩

/-- Operations, then the rest. -/
def sendAll (ops : List α) (b : Behaviour α) : Behaviour α := ⟨ops ++ b.sends, b.ending⟩

/-- `b; k`: `k` runs only if `b` returns. -/
def andThen (b k : Behaviour α) : Behaviour α :=
  match b.ending with
  | .returned => ⟨b.sends ++ k.sends, k.ending⟩
  | _ => b

@[simp] theorem done_sends : (done : Behaviour α).sends = [] := rfl
@[simp] theorem done_ending : (done : Behaviour α).ending = .returned := rfl
@[simp] theorem cons_sends (s : α) (b : Behaviour α) : (cons s b).sends = s :: b.sends := rfl
@[simp] theorem cons_ending (s : α) (b : Behaviour α) : (cons s b).ending = b.ending := rfl

@[simp] theorem sendAll_sends (ops : List α) (b : Behaviour α) :
    (sendAll ops b).sends = ops ++ b.sends := rfl
@[simp] theorem sendAll_ending (ops : List α) (b : Behaviour α) :
    (sendAll ops b).ending = b.ending := rfl

@[simp] theorem done_andThen (k : Behaviour α) : done.andThen k = k := rfl

@[simp] theorem cons_andThen (s : α) (b k : Behaviour α) :
    (cons s b).andThen k = cons s (b.andThen k) := by
  rcases b with ⟨bs, be⟩; cases be <;> rfl

theorem andThen_of_returned {b : Behaviour α} (h : b.ending = .returned) (k : Behaviour α) :
    b.andThen k = ⟨b.sends ++ k.sends, k.ending⟩ := by
  simp [andThen, h]

theorem andThen_of_not_returned {b : Behaviour α} (h : b.ending ≠ .returned) (k : Behaviour α) :
    b.andThen k = b := by
  unfold andThen; split <;> simp_all

theorem ending_andThen_of_returned {b : Behaviour α} (h : b.ending = .returned)
    (k : Behaviour α) : (b.andThen k).ending = k.ending := by
  simp [andThen_of_returned h]

/-- A deferred call that returns runs after the body exactly when the body returns. -/
theorem andThen_deferred (b : Behaviour α) {k : Behaviour α} (hk : k.ending = .returned) :
    b.andThen k = ⟨b.sends ++ if b.ending = .returned then k.sends else [], b.ending⟩ := by
  by_cases h : b.ending = .returned
  · simp [andThen_of_returned h, h, hk]
  · simp [andThen_of_not_returned h, h]

/-! ### The reader's two output channels -/

/-- The records sent on `logC`, in order. -/
def logs (b : Behaviour Send) : List Log := b.sends.filterMap Send.log?

/-- The texts sent on `errC`, in order. -/
def errs (b : Behaviour Send) : List String := b.sends.filterMap Send.err?

@[simp] theorem logs_cons (s : Send) (b : Behaviour Send) :
    (cons s b).logs = s.log?.toList ++ b.logs := by
  cases s <;> rfl

@[simp] theorem errs_cons (s : Send) (b : Behaviour Send) :
    (cons s b).errs = s.err?.toList ++ b.errs := by
  cases s <;> rfl

@[simp] theorem logs_done : (done : Behaviour Send).logs = [] := rfl
@[simp] theorem errs_done : (done : Behaviour Send).errs = [] := rfl

theorem logs_andThen_of_returned {b : Behaviour Send} (h : b.ending = .returned)
    (k : Behaviour Send) : (b.andThen k).logs = b.logs ++ k.logs := by
  simp [andThen_of_returned h, logs]

theorem errs_andThen_of_returned {b : Behaviour Send} (h : b.ending = .returned)
    (k : Behaviour Send) : (b.andThen k).errs = b.errs ++ k.errs := by
  simp [andThen_of_returned h, errs]

end Behaviour

/-! ## Shuffles -/

/-- `Interleaving xs ys zs`: `zs` merges `xs` and `ys`, keeping the order of each. -/
inductive Interleaving {α : Type} : List α → List α → List α → Prop
  | nil : Interleaving [] [] []
  | left {x : α} {xs ys zs : List α} : Interleaving xs ys zs → Interleaving (x :: xs) ys (x :: zs)
  | right {y : α} {xs ys zs : List α} : Interleaving xs ys zs → Interleaving xs (y :: ys) (y :: zs)

namespace Interleaving

variable {α : Type} {xs ys zs : List α}

theorem nil_inv (h : Interleaving xs ys []) : xs = [] ∧ ys = [] := by
  cases h; exact ⟨rfl, rfl⟩

/-- The first element of a shuffle is the first of one side or the other. -/
theorem cons_inv {z : α} (h : Interleaving xs ys (z :: zs)) :
    (∃ xs', xs = z :: xs' ∧ Interleaving xs' ys zs) ∨
    (∃ ys', ys = z :: ys' ∧ Interleaving xs ys' zs) := by
  cases h with
  | left h => exact .inl ⟨_, rfl, h⟩
  | right h => exact .inr ⟨_, rfl, h⟩

/-- A value taken last from the left stream. -/
theorem append_left (h : Interleaving xs ys zs) (x : α) :
    Interleaving (xs ++ [x]) ys (zs ++ [x]) := by
  induction h with
  | nil => exact .left .nil
  | left _ ih => exact .left ih
  | right _ ih => exact .right ih

/-- A value taken last from the right stream. -/
theorem append_right (h : Interleaving xs ys zs) (y : α) :
    Interleaving xs (ys ++ [y]) (zs ++ [y]) := by
  induction h with
  | nil => exact .right .nil
  | left _ ih => exact .left ih
  | right _ ih => exact .right ih

/-- With nothing on the left, the shuffle is the right stream. -/
theorem eq_of_nil_left (h : Interleaving [] ys zs) : zs = ys := by
  generalize hxs : ([] : List α) = xs at h
  induction h with
  | nil => rfl
  | left _ _ => cases hxs
  | right _ ih => rw [ih hxs]

end Interleaving

end Go
end TektonLogs
