import Tedious.Errors

/-!
# Tedious.Connecting.Sockets

What the connectors (`connector.ts`) share: the addresses that a lookup gives, and the TCP sockets,
as far as their listeners and `destroy` go.
-/

namespace Tedious

structure LookupAddress where
  address : JsString
  family : Nat
  deriving DecidableEq, Repr

/-- `net.isIPv4` and `net.isIPv6`. -/
structure Hosts where
  isIPv4 : JsString → Bool
  isIPv6 : JsString → Bool

/-- `{ host, port, localAddress }`. -/
structure ConnectOptions where
  host : JsString
  port : JsNumber
  localAddress : Option JsString := none
  deriving DecidableEq, Repr

/-- The address of a host that needs no lookup. -/
def Hosts.address (hosts : Hosts) (host : JsString) : Option LookupAddress :=
  if hosts.isIPv6 host then some { address := host, family := 6 }
  else if hosts.isIPv4 host then some { address := host, family := 4 }
  else none

/-- No text is the text of an address. -/
def namesOnly : Hosts where
  isIPv4 _ := false
  isIPv6 _ := false

def localhost : ConnectOptions where
  host := JsString.ofString "localhost"
  port := .finite 1433

/-- `::1` and `127.0.0.1`. -/
def loopback : List LookupAddress :=
  [⟨JsString.ofString "::1", 6⟩, ⟨JsString.ofString "127.0.0.1", 4⟩]

/-- The answer of the lookup, `connect` or `error` of a socket, an abort by the caller, or the next
continuation that is due. -/
inductive ConnectEvent
  | lookedUp (result : Except Failure (List LookupAddress))
  | connect (i : Nat)
  | error (i : Nat) (err : Failure)
  | abort
  | tick

/-- A `net.Socket`: what it was created with, its listeners, and whether it has been destroyed. -/
structure TcpSocket where
  options : ConnectOptions
  address : LookupAddress
  onError : Bool
  onConnect : Bool
  destroyed : Bool
  deriving DecidableEq, Repr

namespace TcpSocket

/-- `net.connect({ ...options, host, family })`, with the listeners. -/
def connect (options : ConnectOptions) (address : LookupAddress) : TcpSocket where
  options := { options with host := address.address }
  address := address
  onError := true
  onConnect := true
  destroyed := false

def removeListeners (socket : TcpSocket) : TcpSocket :=
  { socket with onError := false, onConnect := false }

def destroy (socket : TcpSocket) : TcpSocket := { socket with destroyed := true }

/-- Neither connected nor given up. -/
structure IsConnecting (socket : TcpSocket) : Prop where
  onError : socket.onError = true
  onConnect : socket.onConnect = true
  destroyed : socket.destroyed = false

/-- Given up. -/
structure IsDestroyed (socket : TcpSocket) : Prop where
  onError : socket.onError = false
  onConnect : socket.onConnect = false
  destroyed : socket.destroyed = true

/-- Handed over to the caller. -/
structure IsHandedOver (socket : TcpSocket) : Prop where
  onError : socket.onError = false
  onConnect : socket.onConnect = false
  destroyed : socket.destroyed = false

theorem connect_isConnecting (options : ConnectOptions) (address : LookupAddress) :
    (connect options address).IsConnecting := ⟨rfl, rfl, rfl⟩

theorem isDestroyed_destroy (socket : TcpSocket) : socket.removeListeners.destroy.IsDestroyed :=
  ⟨rfl, rfl, rfl⟩

theorem IsConnecting.removeListeners {socket : TcpSocket} (h : socket.IsConnecting) :
    socket.removeListeners.IsHandedOver := ⟨rfl, rfl, h.destroyed⟩

/-- While there are no sockets, they are as one likes. -/
theorem forall_of_nil {p : Nat → TcpSocket → Prop} {sockets : List TcpSocket} (h : sockets = []) :
    ∀ (i : Nat) (socket : TcpSocket), sockets[i]? = some socket → p i socket := by
  intro i socket hsocket
  rw [h] at hsocket
  cases hsocket

theorem map_address_set {sockets : List TcpSocket} {i : Nat} {socket socket' : TcpSocket}
    (h : sockets[i]? = some socket) (haddress : socket'.address = socket.address) :
    (sockets.set i socket').map TcpSocket.address = sockets.map TcpSocket.address := by
  apply List.ext_getElem?
  intro j
  rw [List.getElem?_map, List.getElem?_map, List.getElem?_set]
  split
  · next hij =>
    subst hij
    obtain ⟨hi, -⟩ := List.getElem?_eq_some_iff.1 h
    rw [if_pos hi, h, Option.map_some, Option.map_some, haddress]
  · rfl

end TcpSocket

end Tedious
