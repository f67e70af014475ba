import AwareKV.Lib.Machine

/-!
# AwareKV.Lib.Outbox — an outbox that is emptied as a whole

Values are posted one by one and taken all together.  `outbox_conserves`: nothing is lost, nothing is
duplicated, and the order is kept.
-/

namespace AwareKV

/-- The operations on an outbox. -/
inductive OutboxOp (β : Type*)
  | post (b : β)
  | take

/-- An outbox; `take` answers with what was waiting. -/
def outbox (β : Type*) : Machine (List β) (OutboxOp β) (List β) where
  init := []
  step waiting
    | .post b => (waiting ++ [b], [])
    | .take => ([], waiting)

/-- The values posted by a run. -/
def posted {β : Type*} (ops : List (OutboxOp β)) : List β :=
  ops.filterMap fun
    | .post b => some b
    | .take => none

@[simp] theorem posted_nil {β : Type*} : posted ([] : List (OutboxOp β)) = [] := rfl

@[simp] theorem posted_append {β : Type*} (xs ys : List (OutboxOp β)) :
    posted (xs ++ ys) = posted xs ++ posted ys := List.filterMap_append

/-- **What was taken, followed by what is waiting, is what was posted.** -/
theorem outbox_conserves {β : Type*} (ops : List (OutboxOp β)) :
    (((outbox β).trace ops).map Prod.snd).flatten ++ (outbox β).exec ops = posted ops := by
  induction ops using List.reverseRecOn with
  | nil => rfl
  | append_singleton ops op ih =>
    rw [Machine.trace_snoc, Machine.exec_snoc, List.map_append, List.flatten_append, posted_append, ← ih]
    cases op <;> simp [outbox, Machine.answer, posted]

end AwareKV
