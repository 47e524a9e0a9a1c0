import PaperGrading.Export.Runner
import PaperGrading.Grading.Calls
import PaperGrading.Store.System

/-!
# The grading worker

`GradingAttemptRunner` of `workers/tasks.py`, one phase for each point at which it waits: the
preparation, the objects it reads before it builds the prompt, the claim, the call of the provider,
the envelope it stores, and the transaction that closes the attempt.  Any number of runs interleave,
with each other and with every other transaction of the store; a run can stop anywhere (`crash`),
and every request can take effect without an answer.  Attempts are claimed and closed by runs alone;
everything else that writes the store (the expiry scan among it) is `elsewhere`.

    store    the grading tables, by the transactions of `Store`
    objects  what the runs and the uploads have stored, less what retention has removed
    calls    the requests that were handed to an adapter, each with its preparation and claim
    ends     how the calls ended
    removed  the keys that retention has removed
-/

namespace PaperGrading

/-- `GradingAttemptRunner`: its collaborators and the limit of its retries. -/
structure GradingAttemptRunner where
  env : Runtime
  lib : GradingLibrary
  maxProviderRetries : Nat

/-! ## Phases -/

/-- Where a run stands. -/
inductive RunPhase where
  | waiting
  /-- before the prompt is built -/
  | prepared (prepared : GradingItemPreparation)
  /-- before the claim -/
  | built (prepared : GradingItemPreparation) (call : GradingCall)
  /-- claimed, while the provider is asked -/
  | calling (prepared : GradingItemPreparation) (call : GradingCall) (claim : GradingAttemptClaim)
  /-- before the envelope is stored -/
  | storing (prepared : GradingItemPreparation) (claim : GradingAttemptClaim) (content : Bytes)
    (ending : Except RunException AttemptEnding)
  /-- before the attempt is closed -/
  | closing (claim : GradingAttemptClaim) (ending : AttemptEnding)
  /-- returned, or left by an exception or with the process -/
  | done (result : Option RunResult)

/-- The claim that a run holds. -/
def RunPhase.claim? : RunPhase → Option GradingAttemptClaim
  | .calling _ _ claim | .storing _ claim _ _ | .closing claim _ => some claim
  | _ => none

/-- A call of `adapter.grade`, and what it was made from. -/
structure ProviderCall where
  run : Nat
  prepared : GradingItemPreparation
  claim : GradingAttemptClaim
  call : GradingCall

/-- The end of a call, and the time at which the run noted it. -/
structure CallEnd where
  run : Nat
  claim : GradingAttemptClaim
  outcome : ProviderOutcome
  receivedAt : Time

structure GradingWorld where
  store : Store
  objects : String → Option Bytes
  calls : List ProviderCall
  ends : List CallEnd
  removed : List String
  phase : Nat → RunPhase

inductive GradingEvent (env : Runtime) where
  | prepare (run : Nat) (itemId : Uuid) (dispatchVersion : Nat) (now : Time)
  | build (run : Nat)
  /-- the answer of the database may be lost -/
  | claim (run : Nat) (answered : Bool) (clock : Clock) (attemptId leaseToken : Uuid)
  /-- the end of `adapter.grade` -/
  | call (run : Nat) (outcome : ProviderOutcome) (receivedAt : Time)
  | put (run : Nat) (outcome : RequestOutcome)
  | close (run : Nat) (answered : Bool) (clock : Clock)
  | crash (run : Nat)
  /-- the extracted text of a paper is stored; a text that is replaced before the paper is ready, when
  no run can have read it, is no event -/
  | upload (x : Submission) (content : Bytes)
  /-- retention removes an object -/
  | removed (key : String)
  | elsewhere (action : Action env)

/-- The transactions of the runs. -/
def Action.byRunner {env : Runtime} : Action env → Bool
  | .claimAttempt .. | .finishSuccess .. | .finishFailure .. => true
  | _ => false

namespace GradingWorld

variable (runner : GradingAttemptRunner)

def setPhase (w : GradingWorld) (run : Nat) (p : RunPhase) : GradingWorld :=
  { w with phase := Function.update w.phase run p }

/-! ## Steps -/

def prepare (run : Nat) (itemId : Uuid) (dispatchVersion : Nat) (now : Time) (w : GradingWorld) :
    GradingWorld :=
  match w.phase run with
  | .waiting =>
    match w.store.prepareItem runner.env itemId dispatchVersion now with
    | .error _ => w.setPhase run (.done none)
    | .ok none => w.setPhase run (.done (some .duplicate))
    | .ok (some prepared) => w.setPhase run (.prepared prepared)
  | _ => w

def build (run : Nat) (w : GradingWorld) : GradingWorld :=
  match w.phase run with
  | .prepared prepared =>
    match buildCall runner.env runner.lib w.objects prepared with
    | .error _ => w.setPhase run (.done none)
    | .ok call => w.setPhase run (.built prepared call)
  | _ => w

def claim (run : Nat) (answered : Bool) (clock : Clock) (attemptId leaseToken : Uuid)
    (w : GradingWorld) : GradingWorld :=
  match w.phase run with
  | .built prepared call =>
    match w.store.claimAttempt prepared call.prompt.callHash clock attemptId leaseToken with
    | .error _ => w.setPhase run (.done none)
    | .ok (none, store) => { w.setPhase run (.done (some .duplicate)) with store }
    | .ok (some claim, store) =>
      if answered ∧ claim.requestHash = call.prompt.callHash then
        { w.setPhase run (.calling prepared call claim) with
          store, calls := w.calls ++ [⟨run, prepared, claim, call⟩] }
      else { w.setPhase run (.done none) with store }
  | _ => w

/-- The phase after the end of the call. -/
def calledPhase (prepared : GradingItemPreparation) (call : GradingCall) (claim : GradingAttemptClaim)
    (receivedAt : Time) (outcome : ProviderOutcome) : RunPhase :=
  let ending := callEnding runner.env runner.lib runner.maxProviderRetries prepared call claim outcome
  match callEnvelope runner.env claim receivedAt outcome with
  | some envelope =>
    match dumps runner.lib.json envelope with
    | .ok content => .storing prepared claim content ending
    | .error _ => .done none
  | none =>
    match ending with
    | .ok ending => .closing claim ending
    | .error _ => .done none

def call (run : Nat) (outcome : ProviderOutcome) (receivedAt : Time) (w : GradingWorld) :
    GradingWorld :=
  match w.phase run with
  | .calling prepared call claim =>
    { w.setPhase run (calledPhase runner prepared call claim receivedAt outcome) with
      ends := w.ends ++ [⟨run, claim, outcome, receivedAt⟩] }
  | _ => w

/-- The objects after a request that creates one only if there is none. -/
def putOnce (w : GradingWorld) (key : String) (content : Bytes) : String → Option Bytes :=
  Function.update w.objects key ((w.objects key).or (some content))

/-- `put_json_once`; an object that is there already must be the same. -/
def put (run : Nat) (outcome : RequestOutcome) (w : GradingWorld) : GradingWorld :=
  match w.phase run with
  | .storing prepared claim content ending =>
    let key := buildProviderResponseObjectKey prepared claim.attemptId
    if maxPrivateJsonBytes < content.length then w.setPhase run (.done none)
    else
      match outcome with
      | .lost applied =>
        { w.setPhase run (.done none) with
          objects := if applied then w.putOnce key content else w.objects }
      | .answered =>
        if (w.objects key).all (· == content) then
          let next := match ending with
            | .ok ending => .closing claim ending
            | .error _ => .done none
          { w.setPhase run next with objects := w.putOnce key content }
        else w.setPhase run (.done none)
  | _ => w

/-- `finish_success` or `finish_failure`. -/
def finish (s : Store) (claim : GradingAttemptClaim) (clock : Clock) :
    AttemptEnding → Except TxError Store
  | .succeeded completion => s.finishSuccess claim completion clock
  | .failed failure => s.finishFailure claim failure clock

def close (run : Nat) (answered : Bool) (clock : Clock) (w : GradingWorld) : GradingWorld :=
  match w.phase run with
  | .closing claim ending =>
    match finish w.store claim clock ending with
    | .error _ => w.setPhase run (.done none)
    | .ok store =>
      { w.setPhase run (.done (if answered then some ending.result else none)) with store }
  | _ => w

def step (w : GradingWorld) : GradingEvent runner.env → GradingWorld
  | .prepare run itemId dispatchVersion now => w.prepare runner run itemId dispatchVersion now
  | .build run => w.build runner run
  | .claim run answered clock attemptId leaseToken => w.claim run answered clock attemptId leaseToken
  | .call run outcome receivedAt => w.call runner run outcome receivedAt
  | .put run outcome => w.put run outcome
  | .close run answered clock => w.close run answered clock
  | .crash run => w.setPhase run (.done none)
  | .upload x content =>
    -- `put_json` replaces, but only the upload that has the paper in `parsing` writes its text, and
    -- none does once it is ready: what a run has read is not written again
    { w with objects := w.putOnce (x.directory ++ "/document-blocks.v1.json") content }
  | .removed key =>
    { w with objects := Function.update w.objects key none, removed := w.removed ++ [key] }
  | .elsewhere action =>
    if action.byRunner then w else { w with store := Store.step runner.env w.store action }

/-- Before anything: no rows, no objects, every run still to come. -/
def start : GradingWorld := ⟨.empty, fun _ => none, [], [], [], fun _ => .waiting⟩

def after (events : List (GradingEvent runner.env)) : GradingWorld :=
  Runs.run (step runner) start events

end GradingWorld

end PaperGrading
