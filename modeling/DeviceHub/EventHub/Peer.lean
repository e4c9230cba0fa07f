import DeviceHub.Error
import DeviceHub.Link

/-!
What a client asks of the connector, the connection, the session and the links of its broker, and
what the broker answers.  Links go by the numbers the broker gives them.
-/
namespace DeviceHub.EventHub

inductive PeerRequest where
  | dial (hostname : String)
  | openSession
  | closeSession
  | closeConnection
  | openReceiver (options : LinkOptions)
  | openSender (options : LinkOptions)
  | send (link : Nat) (message : Message)
  | receive (link : Nat)
  | accept (link : Nat) (message : Message)
  | closeLink (link : Nat)

inductive PeerAnswer where
  | done
  | opened (link : Nat)
  | received (message : Message)

end DeviceHub.EventHub
