import DeviceHub.Config
import DeviceHub.Credentials
import DeviceHub.EventHub.Exchange

/-!
`put_token` grants a token to the `$cbs` node once; `put_token_continuously` and
`put_credentials_continuously` grant now and then renew every interval until `stop` fires or a
renewal fails.  The clock counts milliseconds.
-/
namespace DeviceHub.EventHub

def tokenRequest (tokenType audience token messageId : String) : Message :=
  { value := .string token
    messageId := some messageId
    destination := some tokenNode
    replyTo := some tokenReplyTo
    applicationProperties := KeyMap.ofList
      [("operation", .string "put-token"), ("type", .string tokenType),
        ("name", .string audience)] }

/-- The exchange of `put_token`. -/
def tokenExchange (tokenType audience token messageId : String) (caller : Token) : Exchange :=
  .start { source := some tokenNode } { target := some tokenNode }
    (tokenRequest tokenType audience token messageId) caller

/-- What `grant_continuously` is given. -/
structure GrantPlan where
  tokenType : String
  audience : String
  /-- The token to grant, at a clock reading. -/
  mint : Nat → Checked String
  /-- The renewal interval in milliseconds. -/
  period : Nat
  stop : Token

def GrantPlan.ofToken (token : String) : Nat → Checked String :=
  fun _ => .ok token

/-- Mints a signature for every grant; the clock started at `epoch`, in seconds of Unix time. -/
def GrantPlan.ofCredentials (epoch : Int64) (c : Credentials) (audience : String)
    (lifetime : UInt64) : Nat → Checked String :=
  fun clock =>
    match c.token (epoch + Int64.ofNat (clock / 1000)) audience lifetime with
    | .error e => .error e
    | .ok (some signature) => .ok signature.text
    | .ok none =>
      .error (.error (.credentials "credentials do not issue shared access signatures"))

inductive GrantPhase where
  /-- The first grant blocks its caller. -/
  | first (x : Exchange)
  | failed (e : Failure)
  /-- The ticker is due at the deadline. -/
  | waiting (deadline : Nat)
  /-- The deadline is the tick after this renewal. -/
  | renewing (x : Exchange) (deadline : Nat)
  | ended
  | dropped

structure Grant where
  plan : GrantPlan
  phase : GrantPhase

namespace Grant

/-- A tick may be missed by so much before `MissedTickBehavior` delays the later ones. -/
def tolerance : Nat := 5

/-- Intervals from here on overflow the clock, in milliseconds: it counts less than 2⁶³ seconds, of
which it is past some already. -/
def longestPeriod : Nat := (Nat.pow 2 63 - 1000) * 1000

def start (plan : GrantPlan) (clock : Nat) (messageId : String) (caller : Token) : Grant :=
  { plan
    phase := match plan.mint clock with
      | .error e => .failed e
      | .ok token =>
        .first (tokenExchange plan.tokenType plan.audience token messageId caller) }

def request? (g : Grant) : Option PeerRequest :=
  match g.phase with
  | .first x | .renewing x _ => x.request?
  | _ => none

/-- A ticker cannot be set for no time or for too long a time. -/
def renewals (plan : GrantPlan) (clock : Nat) : GrantPhase :=
  if plan.period = 0 ∨ longestPeriod ≤ plan.period then .ended
  else .waiting (clock + plan.period)

def settle (g : Grant) (clock : Nat) : Grant :=
  match g.phase with
  | .first x =>
    match x.outcome? with
    | some (.ok _) => { g with phase := renewals g.plan clock }
    | some (.error e) => { g with phase := .failed (.error e) }
    | none => g
  | .renewing x deadline =>
    match x.outcome? with
    | some (.ok _) => { g with phase := .waiting deadline }
    | some (.error _) => { g with phase := .ended }
    | none => g
  | _ => g

def withExchange? (g : Grant) (clock : Nat) (change : Exchange → Option Exchange) : Option Grant :=
  match g.phase with
  | .first x => (change x).map fun x => settle { g with phase := .first x } clock
  | .renewing x deadline =>
    (change x).map fun x => settle { g with phase := .renewing x deadline } clock
  | _ => none

def answer? (g : Grant) (clock : Nat) (outcome : HubResult PeerAnswer) : Option Grant :=
  g.withExchange? clock fun x => x.answer? outcome

def tick? (g : Grant) (clock : Nat) (messageId : String) : Option Grant :=
  match g.phase with
  | .waiting deadline =>
    if clock < deadline then none
    else
      match g.plan.mint clock with
      | .error _ => some { g with phase := .ended }
      | .ok token =>
        let next := (if deadline + tolerance < clock then clock else deadline) + g.plan.period
        some { g with
          phase := .renewing
            (tokenExchange g.plan.tokenType g.plan.audience token messageId g.plan.stop) next }
  | _ => none

/-- The caller's token counts during the first grant, `stop` afterwards. -/
def cancel? (g : Grant) (clock : Nat) (fired : List Token) : Option Grant :=
  match g.phase with
  | .waiting _ => if fired.contains g.plan.stop then some { g with phase := .ended } else none
  | _ => g.withExchange? clock fun x => x.cancel? fired

/-- The renewals need no caller. -/
def drop (g : Grant) : Grant :=
  match g.phase with
  | .first _ => { g with phase := .dropped }
  | _ => g

def outcome? (g : Grant) : Option (Checked Unit) :=
  match g.phase with
  | .first _ | .dropped => none
  | .failed e => some (.error e)
  | .waiting _ | .renewing .. | .ended => some (.ok ())

end Grant
end DeviceHub.EventHub
