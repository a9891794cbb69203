import BuildHook.Effect

namespace BuildHook

inductive Work (α : Type) where
  | ready (done : Trace) (result : α)
  | pending (done : Trace) (rest : Work α)

inductive Turn where
  | poll
  /-- Something that the work does at once, without the loop. -/
  | act (e : Effect)
  | handle (m : Message)
  deriving DecidableEq, Inhabited

namespace Work

variable {α : Type}

def before (e : Effect) : Work α → Work α
  | ready done result => ready (e :: done) result
  | pending done rest => pending (e :: done) rest

/-- The work that leaves a trace; each wait in it ends a poll. -/
def ofTrace (result : α) : Trace → Work α
  | [] => ready [] result
  | .wait :: rest => pending [] (ofTrace result rest)
  | e :: rest => (ofTrace result rest).before e

def polls : Work α → Nat
  | ready _ _ => 1
  | pending _ rest => rest.polls + 1

def isSend : Effect → Bool
  | .send _ => true
  | _ => false

/-- One poll as the loop sees it. Messages go to the queue. -/
def turns (done : Trace) : List Turn := .poll :: (done.filter fun e ↦ !isSend e).map .act

/-- Drives the work with messages in the queue: they come first. -/
def drive : Work α → List Message → List Turn × α
  | w, m :: queue =>
    let (later, result) := w.drive queue
    (.handle m :: later, result)
  | ready done result, [] => (turns done ++ (Trace.sent done).map .handle, result)
  | pending done rest, [] =>
    let (later, result) := rest.drive (Trace.sent done)
    (turns done ++ later, result)
termination_by w queue => (w.polls, queue.length)
decreasing_by
  · exact Prod.Lex.right _ (Nat.lt_succ_self _)
  · exact Prod.Lex.left _ _ (Nat.lt_succ_self _)

end Work

namespace Turn

def handled (l : List Turn) : List Message := l.filterMap fun
  | .handle m => some m
  | _ => none

end Turn

end BuildHook
