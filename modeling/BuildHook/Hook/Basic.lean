import BuildHook.Hook.Context
import BuildHook.Hook.Report
import BuildHook.Hook.State
import BuildHook.Phase

namespace BuildHook

structure Hook (σ : Type) where
  plan : Plan
  executor : Executor σ
  context : HookContext
  state : HookState

structure Episode (σ θ α : Type) where
  ending : Ending α
  subject : θ
  world : World σ
  trace : Trace

namespace HookState

def advance (total : Nat) (state next : HookState) : Except Error HookState :=
  if state.allows total next then .ok next
  else .error (.internal ("invalid hook transition: " ++ state.text ++ " -> " ++ next.text))

end HookState

namespace Hook

variable {σ : Type}

def commandName : String := Phase.buildCommand

def create (plan : Plan) (executor : Executor σ) (world : World σ) : Hook σ × World σ :=
  let (context, world) := HookContext.create commandName world
  (⟨plan, executor, context, .idle⟩, world)

def record (level : Level) (message : String) (details : List (String × Detail)) : Effect :=
  .log ⟨level, .hook, message, details⟩

def starting (index : Nat) (command : String) : Effect :=
  record .debug "starting build step" [("index", .count index), ("command", .shown command)]

/-- What stands in the way of a step that the executor could not start. -/
def refusal (command : String) : Error → BuildError
  | .platform e => e.toBuildError
  | e => .notStarted command e.text

def runStep (hook : Hook σ) (index : Nat) (step : Step) (tools : σ) :
    Ending StepRecord × σ × Trace :=
  let command := step.text
  let (reply, tools) := hook.executor tools (hook.plan.command step)
  let opening := starting index command ::
    hook.context.emit (.build (.stepStarted index command)) ++
    .ask (hook.plan.command step) :: reply.actions.flatMap hook.context.reporter.perform
  match reply.answer with
  | .never => (.pending, tools, opening)
  | .refused e => (.fail (.build (refusal command e)), tools, opening)
  | .ended status =>
    if status.success then
      (.ok ⟨step, status, reply.elapsed⟩, tools,
        opening ++ hook.context.emit (.build (.stepCompleted index command 0 reply.elapsed)))
    else (.fail (.build (.exited command status.exitCode)), tools, opening)

def exitCodeOf : Error → Option Int32
  | .build (.stepFailed _ exitCode _) => exitCode
  | _ => none

def reportFailure (hook : Hook σ) (index : Nat) (step : Step) (e : Error) : Trace :=
  let skipped := hook.plan.length - index - 1
  record .debug "build step failed" [("index", .count index), ("command", .shown step.text),
    ("exit_code", .exitCode (exitCodeOf e)), ("skipped", .count skipped)] ::
  hook.context.emit (.build (.stepFailed index step.text (exitCodeOf e) skipped e.failure)) ++
  hook.context.emit (.build (.hookFailed hook.context.name e.failure))

structure Walk (σ : Type) where
  ending : Ending (List StepRecord)
  state : HookState
  tools : σ
  trace : Trace

def walk (hook : Hook σ) : Nat → List Step → HookState → σ → Walk σ
  | _, [], state, tools =>
    match state.advance hook.plan.length .succeeded with
    | .error e => ⟨.fail e, state, tools, []⟩
    | .ok state => ⟨.ok [], state, tools, []⟩
  | index, step :: rest, state, tools =>
    match state.advance hook.plan.length (.running index) with
    | .error e => ⟨.fail e, state, tools, []⟩
    | .ok state =>
      match hook.runStep index step tools with
      | (.pending, tools, trace) => ⟨.pending, state, tools, trace⟩
      | (.done (.ok r), tools, trace) =>
        let later := hook.walk (index + 1) rest state tools
        ⟨later.ending.map (r :: ·), later.state, later.tools, trace ++ later.trace⟩
      | (.done (.error e), tools, trace) =>
        match state.advance hook.plan.length (.failed index) with
        | .error refused => ⟨.fail refused, state, tools, trace⟩
        | .ok state => ⟨.fail e, state, tools, trace ++ hook.reportFailure index step e⟩

/-- A hook that has come to an end starts over, under a new run id. -/
def rearm (hook : Hook σ) (world : World σ) : Hook σ × World σ :=
  if hook.state.isTerminal then
    let (context, world) := hook.context.nextRun world
    ({ hook with context, state := .idle }, world)
  else (hook, world)

def runPlan (hook : Hook σ) (world : World σ) : Episode σ (Hook σ) HookReport :=
  let total := hook.plan.length
  let opening :=
    record .info "running build hook" [("hook", .shown hook.context.name),
      ("run_id", .shown hook.context.runId), ("steps", .count total)] ::
    hook.context.emit (.build (.hookStarted hook.context.name total))
  let w := hook.walk 0 hook.plan.steps hook.state world.tools
  let after : Hook σ := { hook with state := w.state }
  let world := { world with tools := w.tools }
  match w.ending with
  | .pending => ⟨.pending, after, world, opening ++ w.trace⟩
  | .done (.error e) => ⟨.fail e, after, world, opening ++ w.trace⟩
  | .done (.ok records) =>
    let duration := Duration.total (records.map StepRecord.duration)
    ⟨.ok ⟨hook.context.name, records, duration⟩, after, world, opening ++ w.trace ++
      hook.context.emit (.build (.hookCompleted hook.context.name records.length duration))⟩

/-- One call of the hook. Unless it is idle or at an end, an earlier call was left in mid-step. -/
def run (hook : Hook σ) (world : World σ) : Episode σ (Hook σ) HookReport :=
  let (hook, world) := hook.rearm world
  if hook.state = .idle then hook.runPlan world
  else ⟨.fail (.build (.runInterrupted hook.state.text)), hook, world, []⟩

end Hook

end BuildHook
