import PaperGrading.Base.Dialogue
import PaperGrading.Domain.JsonLoads
import Mathlib.Algebra.GroupWithZero.Nat

/-!
# The limit of an upload request

`UploadBodyLimitMiddleware` stands between the server and the application, which asks the server for
messages and sends it messages in any order and may catch every exception.

    a body within the limit: the application is served as without the limit         (served_within)
    a body beyond it: the application is cut off at the message that goes beyond, and the 413 is
      sent, unless it swallows the exception and sends nothing from there on           (served_cut)
    the application is never handed more than the limit                           (handedOver_size)
-/

namespace PaperGrading

/-! ## Requests and answers -/

/-- What the server hands over. -/
inductive Received where
  | request (body : Option Bytes) (moreBody : Bool)
  | disconnect
  deriving DecidableEq

/-- `len(message.get("body", b""))`. -/
def Received.size : Received → Nat
  | .request body _ => (body.getD []).length
  | .disconnect => 0

/-- What the server is sent. -/
inductive Sent where
  | start (status : Nat) (headers : List (Bytes × Bytes))
  | body (bytes : Bytes) (moreBody : Bool)
  deriving DecidableEq

/-- An exception that reaches the application or leaves it. -/
inductive Raised (ε : Type) where
  | uploadRequestTooLarge
  | other (e : ε)

/-- `receive()` or `send(message)`. -/
inductive AsgiCall where
  | receive
  | send (message : Sent)

def AsgiCall.Answer (ε : Type) : AsgiCall → Type
  | .receive => Except (Raised ε) Received
  | .send _ => Unit

/-- An application on one request. -/
abbrev App (ε : Type) : Type := Dialogue AsgiCall (AsgiCall.Answer ε) (Except (Raised ε) Unit)

structure Scope where
  type : String
  method : Option String
  path : Option String
  headers : Option (List (Bytes × Bytes))

/-- The server, whatever its state is. -/
structure Server (σ : Type) where
  receive : σ → Received × σ
  send : σ → Sent → σ

/-- The server in the middle of a request, with what it has handed over and what it has been sent. -/
structure Wire (σ : Type) where
  state : σ
  received : List Received
  sent : List Sent

def Wire.fresh {σ : Type} (s : σ) : Wire σ := ⟨s, [], []⟩

/-- The bytes of the messages. -/
def bodySize (messages : List Received) : Nat := (messages.map Received.size).sum

namespace Server

variable {σ : Type} (server : Server σ)

def receiveFrom (w : Wire σ) : Received × Wire σ :=
  let (message, state) := server.receive w.state
  (message, { w with state, received := w.received ++ [message] })

def sendTo (w : Wire σ) (message : Sent) : Wire σ :=
  { w with state := server.send w.state message, sent := w.sent ++ [message] }

/-- The application on the server itself. -/
def channel (ε : Type) : Dialogue.Handler AsgiCall (AsgiCall.Answer ε) (Wire σ)
  | .receive, w => (.ok (server.receiveFrom w).1, (server.receiveFrom w).2)
  | .send message, w => ((), server.sendTo w message)

end Server

/-! ## The middleware -/

def maxSubmissionFileBytes : Nat := 20 * 1024 * 1024

def maxMultipartOverheadBytes : Nat := 64 * 1024

def maxSubmissionRequestBytes : Nat := maxSubmissionFileBytes + maxMultipartOverheadBytes

/-- `_is_submission_upload`. -/
def isSubmissionUpload (scope : Scope) : Bool :=
  if scope.type ≠ "http" ∨ scope.method ≠ some "POST" then false
  else
    let segments := ((scope.path.getD "").splitOn "/").filter (· ≠ "")
    segments.length == 3 && segments[0]? == some "assignments" && segments[2]? == some "submissions"

/-- The spaces of `bytes`. -/
def isAsciiSpace (b : UInt8) : Bool := b == 32 || (9 ≤ b && b ≤ 13)

def digitOf (b : UInt8) : Option Nat := if 48 ≤ b ∧ b ≤ 57 then some (b.toNat - 48) else none

/-- Digits with single underscores between them. -/
def underscoredDigits : Bytes → Option (List Nat)
  | [] => none
  | [d] => (digitOf d).map ([·])
  | d :: c :: rest => do
    let digit ← digitOf d
    let digits ← if c = 95 then underscoredDigits rest else underscoredDigits (c :: rest)
    return digit :: digits

/-- `int(value)` of a `bytes` value; `none` is a `ValueError`. -/
def intOfBytes (value : Bytes) : Option Int :=
  let stripped := ((value.dropWhile isAsciiSpace).reverse.dropWhile isAsciiSpace).reverse
  let (sign, digits) := match stripped with
    | 43 :: rest => ((1 : Int), rest)
    | 45 :: rest => (-1, rest)
    | rest => (1, rest)
  match underscoredDigits digits with
  | none => none
  | some digits =>
    if Json.maxIntDigits < digits.length then none
    else some (sign * (digits.foldl (fun n d => 10 * n + d) 0 : Nat))

example : intOfBytes [32, 43, 49, 95, 48, 48, 48, 10] = some 1000 := by decide

/-- `dict(headers).get(key)`; the last of several equal keys wins. -/
def headerValue (headers : List (Bytes × Bytes)) (key : Bytes) : Option Bytes :=
  (headers.reverse.find? (·.1 == key)).map (·.2)

/-- `b"content-length"`. -/
def contentLengthKey : Bytes := [99, 111, 110, 116, 101, 110, 116, 45, 108, 101, 110, 103, 116, 104]

/-- The size that the request declares; a value that is no number counts as none. -/
def declaredBytes (scope : Scope) : Int :=
  match headerValue (scope.headers.getD []) contentLengthKey with
  | none => 0
  | some value => (intOfBytes value).getD 0

/-- What the rejection says. -/
def rejectionContent : Js :=
  .obj [("detail", .obj [("code", .str "file_too_large"), ("message", .str "上传请求超过 20MB 限制")])]

/-- The variables of one call of the middleware. -/
structure LimitState (σ : Type) where
  wire : Wire σ
  receivedBytes : Nat
  requestTooLarge : Bool
  rejectionSent : Bool

namespace UploadBodyLimit

variable {σ ε : Type} (server : Server σ) (maxRequestBytes : Nat)
  (jsonResponse : Nat → Js → List Sent)

/-- `_reject`; the response is sent message by message. -/
def reject (w : Wire σ) : Wire σ := (jsonResponse 413 rejectionContent).foldl server.sendTo w

/-- `receive_with_limit` and `send_with_limit`. -/
def limited (ε : Type) : Dialogue.Handler AsgiCall (AsgiCall.Answer ε) (LimitState σ)
  | .receive, t =>
    let (message, wire) := server.receiveFrom t.wire
    match message with
    | .request body moreBody =>
      let receivedBytes := t.receivedBytes + (body.getD []).length
      if receivedBytes > maxRequestBytes then
        (.error .uploadRequestTooLarge, { t with wire, receivedBytes, requestTooLarge := true })
      else (.ok (.request body moreBody), { t with wire, receivedBytes })
    | .disconnect => (.ok .disconnect, { t with wire })
  | .send message, t =>
    if !t.requestTooLarge then ((), { t with wire := server.sendTo t.wire message })
    else if !t.rejectionSent then
      ((), { t with rejectionSent := true, wire := reject server jsonResponse t.wire })
    else ((), t)

/-- The `except` clause of `__call__`. -/
def caught (outcome : Except (Raised ε) Unit) (rejectionSent : Bool) (w : Wire σ) :
    Except (Raised ε) Unit × Wire σ :=
  match outcome with
  | .error .uploadRequestTooLarge =>
    (.ok (), if !rejectionSent then reject server jsonResponse w else w)
  | outcome => (outcome, w)

/-- `__call__`. -/
def call (scope : Scope) (app : App ε) (w : Wire σ) : Except (Raised ε) Unit × Wire σ :=
  if !isSubmissionUpload scope then app.run (server.channel ε) w
  else if declaredBytes scope > maxRequestBytes then (.ok (), reject server jsonResponse w)
  else
    let (outcome, t) := app.run (limited server maxRequestBytes jsonResponse ε) ⟨w, 0, false, false⟩
    caught server jsonResponse outcome t.rejectionSent t.wire

/-! ## The application's own run -/

/-- The message that goes beyond the limit is the next one. -/
def beyond (server : Server σ) (maxRequestBytes : Nat) : AsgiCall → Wire σ → Bool
  | .receive, w => decide (maxRequestBytes < bodySize w.received + (server.receiveFrom w).1.size)
  | .send _, _ => false

/-- Whatever it is answered, the application sends something or lets the exception out. -/
inductive Answers : App ε → Prop where
  | escapes : Answers (.done (.error .uploadRequestTooLarge))
  | sends (message : Sent) (next : Unit → App ε) : Answers (.ask (.send message) next)
  | receives (next : Except (Raised ε) Received → App ε) (h : ∀ a, Answers (next a)) :
    Answers (.ask .receive next)

/-- The messages that the application has been handed. -/
def handedOver (answers : List ((q : AsgiCall) × q.Answer ε)) : List Received :=
  answers.filterMap fun
    | ⟨.receive, .ok message⟩ => some message
    | _ => none

/-! ## Lemmas -/

variable {server maxRequestBytes jsonResponse} {w : Wire σ} {t : LimitState σ}

theorem bodySize_append (messages messages' : List Received) :
    bodySize (messages ++ messages') = bodySize messages + bodySize messages' := by
  simp [bodySize]

theorem bodySize_concat (messages : List Received) (message : Received) :
    bodySize (messages ++ [message]) = bodySize messages + message.size := by
  simp [bodySize]

theorem receiveFrom_size (w : Wire σ) : bodySize (server.receiveFrom w).2.received =
    bodySize w.received + (server.receiveFrom w).1.size :=
  bodySize_concat _ _

theorem handedOver_cons (x : (q : AsgiCall) × q.Answer ε) (xs : List ((q : AsgiCall) × q.Answer ε)) :
    handedOver (x :: xs) = handedOver [x] ++ handedOver xs := by
  unfold handedOver
  rw [← List.filterMap_append, List.singleton_append]

theorem sendTo_foldl (messages : List Sent) (w : Wire σ) :
    (messages.foldl server.sendTo w).sent = w.sent ++ messages ∧
      (messages.foldl server.sendTo w).received = w.received := by
  induction messages generalizing w with
  | nil => simp
  | cons message messages ih => simp [ih, Server.sendTo]

theorem reject_sent (w : Wire σ) :
    (reject server jsonResponse w).sent = w.sent ++ jsonResponse 413 rejectionContent :=
  (sendTo_foldl _ w).1

/-- What the middleware remembers while the body is within the limit. -/
structure InStep (maxRequestBytes : Nat) (w : Wire σ) (t : LimitState σ) : Prop where
  wire : t.wire = w
  bytes : t.receivedBytes = bodySize w.received
  fits : bodySize w.received ≤ maxRequestBytes
  small : t.requestTooLarge = false
  unsent : t.rejectionSent = false

theorem inStep_fresh (s : σ) : InStep maxRequestBytes (Wire.fresh s) ⟨Wire.fresh s, 0, false, false⟩ :=
  ⟨rfl, rfl, Nat.zero_le _, rfl, rfl⟩

theorem limited_send (h : t.requestTooLarge = false) (message : Sent) :
    limited server maxRequestBytes jsonResponse ε (.send message) t =
      ((), { t with wire := server.sendTo t.wire message }) :=
  if_pos (by rw [h]; rfl)

/-- From the cut on, a message of the application is replaced by the rejection, once. -/
theorem limited_send_large (h : t.requestTooLarge = true) (message : Sent) :
    limited server maxRequestBytes jsonResponse ε (.send message) t = ((), { t with
      rejectionSent := true
      wire := if t.rejectionSent then t.wire else reject server jsonResponse t.wire }) := by
  obtain ⟨wire, receivedBytes, requestTooLarge, rejectionSent⟩ := t
  obtain rfl : requestTooLarge = true := h
  cases rejectionSent <;> rfl

/-- A message of the server changes nothing of what has been sent. -/
theorem limited_receive (t : LimitState σ) :
    let t' := (limited server maxRequestBytes jsonResponse ε .receive t).2
    t'.wire.sent = t.wire.sent ∧ t'.rejectionSent = t.rejectionSent ∧
      (t.requestTooLarge = true → t'.requestTooLarge = true) := by
  simp only [limited]
  cases (server.receiveFrom t.wire).1 with
  | disconnect => exact ⟨rfl, rfl, id⟩
  | request body moreBody =>
    by_cases hlt : t.receivedBytes + (body.getD []).length > maxRequestBytes
    · simp only [hlt, if_true]
      exact ⟨rfl, trivial, fun _ => trivial⟩
    · simp only [hlt, if_false]
      exact ⟨rfl, trivial, id⟩

/-- The message that goes beyond the limit is not handed over. -/
theorem limited_beyond (hbytes : t.receivedBytes = bodySize t.wire.received)
    (hfits : bodySize t.wire.received ≤ maxRequestBytes)
    (hstop : beyond server maxRequestBytes .receive t.wire = true) :
    limited server maxRequestBytes jsonResponse ε .receive t = (.error .uploadRequestTooLarge,
      { t with
        wire := (server.receiveFrom t.wire).2
        receivedBytes := bodySize (server.receiveFrom t.wire).2.received
        requestTooLarge := true }) := by
  have hlt : maxRequestBytes < bodySize t.wire.received + (server.receiveFrom t.wire).1.size := by
    simpa [beyond] using hstop
  have hsize := @receiveFrom_size σ server t.wire
  simp only [limited]
  cases hm : (server.receiveFrom t.wire).1 with
  | disconnect =>
    rw [hm, Received.size] at hlt
    omega
  | request body moreBody =>
    rw [hm, Received.size, ← hbytes] at hlt hsize
    simp only [hlt, hsize, if_true]

theorem agree_until : Dialogue.AgreeUntil (server.channel ε)
    (limited server maxRequestBytes jsonResponse ε) (beyond server maxRequestBytes)
    (InStep maxRequestBytes) := by
  intro q w t hin hstop
  obtain ⟨rfl, hbytes, hfits, hsmall, hunsent⟩ := hin
  cases q with
  | send message =>
    rw [limited_send hsmall]
    exact ⟨rfl, rfl, hbytes, hfits, hsmall, hunsent⟩
  | receive =>
    have hle : bodySize t.wire.received + (server.receiveFrom t.wire).1.size ≤ maxRequestBytes := by
      simpa [beyond] using hstop
    have hsize := @receiveFrom_size σ server t.wire
    simp only [limited, Server.channel]
    cases hm : (server.receiveFrom t.wire).1 with
    | disconnect =>
      rw [hm] at hsize hle
      exact ⟨rfl, rfl, hbytes.trans hsize.symm, hsize ▸ hle, hsmall, hunsent⟩
    | request body moreBody =>
      rw [hm] at hsize hle
      simp only [Received.size] at hsize hle
      rw [← hbytes] at hle hsize
      simp only [Nat.not_lt.2 hle, if_false]
      exact ⟨rfl, rfl, hsize.symm, hsize ▸ hle, hsmall, hunsent⟩

theorem bodySize_mono {messages messages' : List Received} (h : messages <+: messages') :
    bodySize messages ≤ bodySize messages' := by
  obtain ⟨rest, rfl⟩ := h
  simp [bodySize]

/-- The wire keeps what has been on it. -/
theorem run_extends (app : App ε) (w : Wire σ) :
    w.received <+: (app.run (server.channel ε) w).2.received ∧
      w.sent <+: (app.run (server.channel ε) w).2.sent := by
  refine Dialogue.run_invariant (P := fun w' : Wire σ => w.received <+: w'.received ∧ w.sent <+: w'.sent)
    (fun q w' h => ?_) app ⟨List.prefix_rfl, List.prefix_rfl⟩
  cases q with
  | receive => exact ⟨h.1.trans (List.prefix_append _ _), h.2⟩
  | send => exact ⟨h.1, h.2.trans (List.prefix_append _ _)⟩

/-- Before the cut the body is within the limit. -/
theorem channel_fits (q : AsgiCall) (w : Wire σ) (hw : bodySize w.received ≤ maxRequestBytes)
    (hstop : beyond server maxRequestBytes q w = false) :
    bodySize (server.channel ε q w).2.received ≤ maxRequestBytes := by
  cases q with
  | send => exact hw
  | receive =>
    show bodySize (server.receiveFrom w).2.received ≤ maxRequestBytes
    rw [receiveFrom_size]
    simpa [beyond] using hstop

/-- The application asks for the message that goes beyond the limit. -/
structure Cut (server : Server σ) (maxRequestBytes : Nat) (app : App ε) (s : σ) (w : Wire σ)
    (next : Except (Raised ε) Received → App ε) : Prop where
  found : app.firstStop (server.channel ε) (beyond server maxRequestBytes) (Wire.fresh s) =
    some ⟨.receive, next, w⟩
  fits : bodySize w.received ≤ maxRequestBytes
  exceeds : maxRequestBytes < bodySize (server.receiveFrom w).2.received
  received : (server.receiveFrom w).2.received <+: (app.run (server.channel ε) (Wire.fresh s)).2.received
  sent : w.sent <+: (app.run (server.channel ε) (Wire.fresh s)).2.sent

theorem cut_of_firstStop {app : App ε} {s : σ}
    {x : Dialogue.Waiting AsgiCall (AsgiCall.Answer ε) (Except (Raised ε) Unit) (Wire σ)}
    (hx : app.firstStop (server.channel ε) (beyond server maxRequestBytes) (Wire.fresh s) = some x) :
    ∃ w next, x = ⟨.receive, next, w⟩ ∧ Cut server maxRequestBytes app s w next := by
  obtain ⟨hfits, hstop⟩ := Dialogue.firstStop_invariant channel_fits (Nat.zero_le _) hx
  obtain ⟨q, next, w⟩ := x
  cases q with
  | send => cases hstop
  | receive =>
    have hrun := Dialogue.run_firstStop hx
    have hprefix := @run_extends σ ε server (next (.ok (server.receiveFrom w).1))
      (server.receiveFrom w).2
    refine ⟨w, next, rfl, hx, hfits, ?_, ?_, ?_⟩
    · rw [receiveFrom_size]
      simpa [beyond] using hstop
    · rw [hrun]
      exact hprefix.1
    · rw [hrun]
      exact hprefix.2

/-- After the cut the server is sent the rejection or nothing. -/
theorem run_after_cut (app : App ε) (hlarge : t.requestTooLarge = true) (hunsent : t.rejectionSent = false) :
    (app.run (limited server maxRequestBytes jsonResponse ε) t).2.wire.sent =
      t.wire.sent ++ if (app.run (limited server maxRequestBytes jsonResponse ε) t).2.rejectionSent then
        jsonResponse 413 rejectionContent else [] := by
  refine (Dialogue.run_invariant (P := fun u : LimitState σ => u.requestTooLarge = true ∧
    u.wire.sent = t.wire.sent ++ if u.rejectionSent then jsonResponse 413 rejectionContent else [])
    (fun q u hu => ?_) app ⟨hlarge, by simp [hunsent]⟩).2
  obtain ⟨hu, hsent⟩ := hu
  cases q with
  | send message =>
    rw [limited_send_large hu]
    refine ⟨hu, ?_⟩
    cases hr : u.rejectionSent <;> simp [hr, hsent, reject_sent]
  | receive =>
    obtain ⟨hsame, hr, hlarge'⟩ := @limited_receive σ ε server maxRequestBytes jsonResponse u
    rw [hsame, hr]
    exact ⟨hlarge' hu, hsent⟩

/-- The rejection is sent once and for all. -/
theorem rejectionSent_stays (app : App ε) (hlarge : t.requestTooLarge = true)
    (hsent : t.rejectionSent = true) :
    (app.run (limited server maxRequestBytes jsonResponse ε) t).2.rejectionSent = true := by
  refine (Dialogue.run_invariant (P := fun u : LimitState σ => u.requestTooLarge = true ∧
    u.rejectionSent = true) (fun q u hu => ?_) app ⟨hlarge, hsent⟩).2
  cases q with
  | send message =>
    rw [limited_send_large hu.1]
    exact ⟨hu.1, rfl⟩
  | receive =>
    obtain ⟨-, hr, hlarge'⟩ := limited_receive u
    exact ⟨hlarge' hu.1, hr.trans hu.2⟩

/-- An application that answers gets the rejection on its way. -/
theorem answered_after_cut {app : App ε} (h : Answers app) (hlarge : t.requestTooLarge = true) :
    (app.run (limited server maxRequestBytes jsonResponse ε) t).2.rejectionSent = true ∨
      (app.run (limited server maxRequestBytes jsonResponse ε) t).1 = .error .uploadRequestTooLarge := by
  induction h generalizing t with
  | escapes => exact .inr rfl
  | sends message next =>
    refine .inl (rejectionSent_stays (next _) ?_ ?_)
    · rw [limited_send_large hlarge]
      exact hlarge
    · rw [limited_send_large hlarge]
  | receives next _ ih => exact ih _ ((limited_receive t).2.2 hlarge)

theorem limited_send_bytes (message : Sent) (t : LimitState σ) :
    (limited server maxRequestBytes jsonResponse ε (.send message) t).2.receivedBytes =
      t.receivedBytes := by
  cases hlarge : t.requestTooLarge with
  | false => rw [limited_send hlarge]
  | true => rw [limited_send_large hlarge]

theorem limited_receive_bytes (t : LimitState σ) :
    let r := limited server maxRequestBytes jsonResponse ε .receive t
    bodySize (handedOver [⟨.receive, r.1⟩]) + (maxRequestBytes - r.2.receivedBytes) ≤
      maxRequestBytes - t.receivedBytes := by
  simp only [limited]
  cases (server.receiveFrom t.wire).1 with
  | disconnect => simp [handedOver, bodySize, Received.size]
  | request body moreBody =>
    by_cases hlt : t.receivedBytes + (body.getD []).length > maxRequestBytes
    · simp only [hlt, if_true, handedOver, List.filterMap_cons, List.filterMap_nil, bodySize,
        List.map_nil, List.sum_nil]
      omega
    · simp only [hlt, if_false, handedOver, List.filterMap_cons, List.filterMap_nil, bodySize,
        List.map_cons, List.map_nil, List.sum_cons, List.sum_nil, Received.size]
      omega

/-- What the application may still be handed. -/
theorem handedOver_size (app : App ε) (t : LimitState σ) :
    bodySize (handedOver (app.transcript (limited server maxRequestBytes jsonResponse ε) t)) ≤
      maxRequestBytes - t.receivedBytes := by
  induction app generalizing t with
  | done => exact Nat.zero_le _
  | ask q next ih =>
    have hrest := ih (limited server maxRequestBytes jsonResponse ε q t).1
      (limited server maxRequestBytes jsonResponse ε q t).2
    cases q with
    | send message =>
      rw [limited_send_bytes] at hrest
      exact hrest
    | receive =>
      rw [Dialogue.transcript, handedOver_cons, bodySize_append]
      exact le_trans (Nat.add_le_add_left hrest _) (limited_receive_bytes t)

/-! ## Every application, every server -/

/-- The request without the middleware. -/
def alone (server : Server σ) (app : App ε) (s : σ) : Except (Raised ε) Unit × Wire σ :=
  app.run (server.channel ε) (Wire.fresh s)

/-- The request with it. -/
def served (server : Server σ) (maxRequestBytes : Nat) (jsonResponse : Nat → Js → List Sent)
    (scope : Scope) (app : App ε) (s : σ) : Except (Raised ε) Unit × Wire σ :=
  call server maxRequestBytes jsonResponse scope app (Wire.fresh s)

/-- What the middleware makes of a request. -/
structure Limits (server : Server σ) (maxRequestBytes : Nat) (jsonResponse : Nat → Js → List Sent)
    (scope : Scope) (app : App ε) (s : σ) : Prop where
  /-- other requests are served by the application alone -/
  others : isSubmissionUpload scope = false →
    served server maxRequestBytes jsonResponse scope app s = alone server app s
  /-- an upload that declares too much is refused before anything is received -/
  declared : isSubmissionUpload scope = true → maxRequestBytes < declaredBytes scope →
    (served server maxRequestBytes jsonResponse scope app s).2.received = [] ∧
    (served server maxRequestBytes jsonResponse scope app s).2.sent = jsonResponse 413 rejectionContent
  /-- an upload within the limit is served as by the application alone -/
  within : isSubmissionUpload scope = true → declaredBytes scope ≤ maxRequestBytes →
    bodySize (alone server app s).2.received ≤ maxRequestBytes →
    served server maxRequestBytes jsonResponse scope app s =
      caught server jsonResponse (alone server app s).1 false (alone server app s).2
  /-- an upload beyond the limit is cut off at the first message beyond it, and the rejection
  follows what has been sent by then -/
  beyond : isSubmissionUpload scope = true → declaredBytes scope ≤ maxRequestBytes →
    maxRequestBytes < bodySize (alone server app s).2.received →
    ∃ w next, Cut server maxRequestBytes app s w next ∧
      ((served server maxRequestBytes jsonResponse scope app s).2.sent =
          w.sent ++ jsonResponse 413 rejectionContent ∨
        (served server maxRequestBytes jsonResponse scope app s).2.sent = w.sent ∧
          ¬Answers (next (.error .uploadRequestTooLarge)))
  /-- the application holds no more than the limit -/
  handed : bodySize (handedOver (app.transcript (limited server maxRequestBytes jsonResponse ε)
    ⟨Wire.fresh s, 0, false, false⟩)) ≤ maxRequestBytes
  /-- the exception stays inside -/
  inside : isSubmissionUpload scope = true →
    (served server maxRequestBytes jsonResponse scope app s).1 ≠ .error .uploadRequestTooLarge

theorem caught_of_ne {outcome : Except (Raised ε) Unit} (h : outcome ≠ .error .uploadRequestTooLarge)
    (rejectionSent : Bool) (w : Wire σ) :
    caught server jsonResponse outcome rejectionSent w = (outcome, w) := by
  unfold caught
  split
  · exact absurd rfl h
  · rfl

/-- A rejection that has been sent is not sent again. -/
theorem caught_sent (outcome : Except (Raised ε) Unit) (w : Wire σ) :
    (caught server jsonResponse outcome true w).2 = w := by
  unfold caught
  split <;> rfl

theorem caught_inside (outcome : Except (Raised ε) Unit) (rejectionSent : Bool) (w : Wire σ) :
    (caught server jsonResponse outcome rejectionSent w).1 ≠ .error .uploadRequestTooLarge := by
  unfold caught
  split
  · simp
  next hne => exact fun he => hne he

/-- An upload that declares no more than the limit. -/
theorem served_upload {scope : Scope} (hupload : isSubmissionUpload scope = true)
    (hdeclared : declaredBytes scope ≤ maxRequestBytes) (app : App ε) (s : σ) :
    served server maxRequestBytes jsonResponse scope app s =
      let (outcome, t) := app.run (limited server maxRequestBytes jsonResponse ε)
        ⟨Wire.fresh s, 0, false, false⟩
      caught server jsonResponse outcome t.rejectionSent t.wire := by
  unfold served call
  rw [hupload, if_neg (by simp), if_neg (by omega)]

/-- An upload within the limit. -/
theorem served_within {scope : Scope} (hupload : isSubmissionUpload scope = true)
    (hdeclared : declaredBytes scope ≤ maxRequestBytes) {app : App ε} {s : σ}
    (hnone : app.firstStop (server.channel ε) (beyond server maxRequestBytes) (Wire.fresh s) = none) :
    served server maxRequestBytes jsonResponse scope app s =
      caught server jsonResponse (alone server app s).1 false (alone server app s).2 := by
  obtain ⟨hresult, hin⟩ := Dialogue.run_of_stop_none
    (@agree_until σ ε server maxRequestBytes jsonResponse) (inStep_fresh s) hnone
  rw [served_upload hupload hdeclared]
  simp only
  rw [hresult, hin.unsent, hin.wire]
  rfl

/-- An upload that is cut off. -/
theorem served_cut {scope : Scope} (hupload : isSubmissionUpload scope = true)
    (hdeclared : declaredBytes scope ≤ maxRequestBytes) {app : App ε} {s : σ} {w : Wire σ}
    {next : Except (Raised ε) Received → App ε} (hcut : Cut server maxRequestBytes app s w next) :
    (served server maxRequestBytes jsonResponse scope app s).2.sent =
        w.sent ++ jsonResponse 413 rejectionContent ∨
      (served server maxRequestBytes jsonResponse scope app s).2.sent = w.sent ∧
        ¬Answers (next (.error .uploadRequestTooLarge)) := by
  obtain ⟨t, hin, hrun⟩ := Dialogue.run_of_stop_some
    (@agree_until σ ε server maxRequestBytes jsonResponse) (inStep_fresh s) hcut.found
  rw [served_upload hupload hdeclared, hrun]
  obtain ⟨rfl, hbytes, hfits, -, hunsent⟩ := hin
  have hbeyond : beyond server maxRequestBytes .receive t.wire = true :=
    decide_eq_true (receiveFrom_size t.wire ▸ hcut.exceeds)
  simp only [Dialogue.run]
  rw [limited_beyond hbytes hfits hbeyond]
  generalize hu : ({ t with
    wire := (server.receiveFrom t.wire).2
    receivedBytes := bodySize (server.receiveFrom t.wire).2.received
    requestTooLarge := true } : LimitState σ) = u
  have hlarge : u.requestTooLarge = true := by rw [← hu]
  have hsent := @run_after_cut σ ε server maxRequestBytes jsonResponse u
    (next (.error .uploadRequestTooLarge)) hlarge (by rw [← hu]; exact hunsent)
  rw [show u.wire.sent = t.wire.sent by rw [← hu]; rfl] at hsent
  have hanswers (h : Answers (next (.error .uploadRequestTooLarge))) :=
    @answered_after_cut σ ε server maxRequestBytes jsonResponse u _ h hlarge
  generalize (next (.error .uploadRequestTooLarge)).run
    (limited server maxRequestBytes jsonResponse ε) u = r at hsent hanswers ⊢
  cases hr : r.2.rejectionSent with
  | true =>
    rw [hr, if_pos rfl] at hsent
    exact .inl (by rw [caught_sent, hsent])
  | false =>
    rw [hr, if_neg (by simp), List.append_nil] at hsent
    by_cases hout : r.1 = .error .uploadRequestTooLarge
    · refine .inl ?_
      rw [hout, ← hsent]
      exact reject_sent r.2.wire
    · refine .inr ⟨by rw [caught_of_ne hout, hsent], fun h => ?_⟩
      rcases hanswers h with h | h
      · rw [hr] at h
        cases h
      · exact hout h

/-- **Every upload is limited**, whatever the application does and whatever the server hands over. -/
theorem limits (server : Server σ) (maxRequestBytes : Nat) (jsonResponse : Nat → Js → List Sent)
    (scope : Scope) (app : App ε) (s : σ) :
    Limits server maxRequestBytes jsonResponse scope app s where
  others h := by
    unfold served call
    rw [h]
    rfl
  declared hupload h := by
    unfold served call
    rw [hupload, if_neg (by simp), if_pos h]
    exact ⟨(sendTo_foldl _ _).2, reject_sent _⟩
  within hupload hdeclared h := by
    cases hx : app.firstStop (server.channel ε) (UploadBodyLimit.beyond server maxRequestBytes)
      (Wire.fresh s) with
    | none => exact served_within hupload hdeclared hx
    | some x =>
      obtain ⟨w, next, -, hcut⟩ := cut_of_firstStop hx
      exact absurd (le_trans (bodySize_mono hcut.received) h) (Nat.not_le.2 hcut.exceeds)
  beyond hupload hdeclared h := by
    cases hx : app.firstStop (server.channel ε) (UploadBodyLimit.beyond server maxRequestBytes)
      (Wire.fresh s) with
    | none =>
      exact absurd (Dialogue.run_invariant_of_stop_none channel_fits (Nat.zero_le _) hx)
        (Nat.not_le.2 h)
    | some x =>
      obtain ⟨w, next, -, hcut⟩ := cut_of_firstStop hx
      exact ⟨w, next, hcut, served_cut hupload hdeclared hcut⟩
  handed := handedOver_size app _
  inside hupload := by
    unfold served call
    rw [hupload, if_neg (by simp)]
    split
    · simp
    · exact caught_inside _ _ _

end UploadBodyLimit

end PaperGrading
