/-
The router as a transition system.

Between two events the router waits in its select loop and no call is active.
An event is a received frame, one pass of the sweeper, or the clock moving on;
a session has hardware information messages besides (`sr_vns_comm.c`).  A step
exists where the call made for the event returns: `Step s e s'` says that it
does so for some fuel, and a call that does not return, or that uses a destroyed
request, has no step.

Events are atomic, and the clock stands still during one.  The source reads `time()`
anew in each nested call of `handle_arpreq`, and its sweeper is a thread that may run
while a frame is handled; what the two threads can do to each other is the subject of
`Threads`.
-/
import SimpleRouter.Router
import SimpleRouter.Lib.Runs

namespace SimpleRouter

open Runs Bytes

/-- What can happen to a router with fixed interfaces and routes. -/
inductive Event where
  /-- A frame arrives on an interface. -/
  | recv (packet : Frame) (interface : List UInt8)
  /-- `sr_arpcache_timeout` wakes up. -/
  | sweep
  /-- The clock moves on by `d` seconds. -/
  | tick (d : ℕ)
deriving DecidableEq, Repr

/-- The call made for an event. -/
def step (fuel : ℕ) (s : Router) : Event → Except Fault Router
  | .recv packet interface => (srHandlepacket fuel s packet interface).map Prod.fst
  | .sweep => srArpcacheTimeout fuel s
  | .tick d => .ok { s with now := s.now + d }

/-- The call made for an event returns. -/
def Step (s : Router) (e : Event) (s' : Router) : Prop := ∃ fuel, step fuel s e = .ok s'

/-- A router before the first event: nothing is queued and nothing is cached. -/
def Router.init (ifs : List SrIf) (rt : List SrRt) (now : ℕ) (junk : ℕ → ℕ → UInt8) : Router where
  ifList := ifs
  routingTable := rt
  requests := []
  entries := emptyEntries
  now := now
  nextId := 0
  nextFid := 0
  trace := []
  reads := []
  junk := junk

lemma step_of_ok {fuel : ℕ} (s : Router) (e : Event) (s' : Router) (h : step fuel s e = .ok s') :
    Step s e s' :=
  ⟨fuel, h⟩

/-- The fault a call ends with, if it does not return. -/
def faultOf : Except Fault Router → Option Fault
  | .ok _ => none
  | .error f => some f

lemma eq_error_of_faultOf {x : Except Fault Router} {f : Fault} (h : faultOf x = some f) :
    x = .error f := by
  cases x with
  | ok s => simp [faultOf] at h
  | error f' => rw [faultOf, Option.some.injEq] at h; rw [h]

/-! ### A sample network

Two interfaces, `eth0` with `10.0.0.1` and `eth1` with `10.0.1.1`, and four
hosts, each with a route of its own: `10.0.0.2` and `10.0.0.3` behind `eth0`,
`10.0.1.2` and `10.0.1.3` behind `eth1`. -/

/-- The address `10.0.net.host`. -/
def sampleIp (net host : UInt8) : Ip := ⟨10, 0, net, host⟩

/-- The name `ethn`. -/
def sampleName (n : UInt8) : List UInt8 := [101, 116, 104, 48 + n] ++ List.replicate 28 0

def sampleIfs : List SrIf :=
  [⟨sampleName 0, ⟨2, 0, 0, 0, 0, 1⟩, sampleIp 0 1⟩, ⟨sampleName 1, ⟨2, 0, 0, 0, 1, 1⟩, sampleIp 1 1⟩]

/-- The route to a host on the network of interface `net`. -/
def sampleRoute (net host : UInt8) : SrRt :=
  ⟨sampleIp net host, 0, ⟨255, 255, 255, 255⟩, sampleName net⟩

def sampleRoutes : List SrRt :=
  [sampleRoute 0 2, sampleRoute 0 3, sampleRoute 1 2, sampleRoute 1 3]

/-- The router of the sample network, started at second 1. -/
def sampleRouter : Router := Router.init sampleIfs sampleRoutes 1 fun _ _ => 0

lemma srGetInterface_eth0 :
    srGetInterface sampleRouter.ifList (sampleName 0) = some sampleIfs[0] := by
  decide +kernel

lemma srVerifyRoutingTable_sample : srVerifyRoutingTable sampleIfs sampleRoutes = 0 := by
  decide +kernel

/-- A frame with a valid IP header and `n` bytes of payload. -/
def sampleFrame (src dst : Ip) (ttl : UInt8) (n : ℕ) : Frame :=
  let hdr := [0x45, 0] ++ be16 (20 + n) ++ be16 0 ++ be16 0 ++ [ttl, 17] ++ be16 0 ++ src.bytes
    ++ dst.bytes
  [2, 0, 0, 0, 0, 1] ++ [2, 0, 0, 0, 9, 9] ++ be16 ethertypeIp ++ patch hdr 10 (be16 (cksum hdr))
    ++ List.replicate n 7

/-- An echo request from `10.0.0.2` to `10.0.0.1` with the given data. -/
def sampleEcho (data : List UInt8) : Frame :=
  let hdr := [0x45, 0] ++ be16 (28 + data.length) ++ be16 0 ++ be16 0 ++ [64, 1] ++ be16 0
    ++ (sampleIp 0 2).bytes ++ (sampleIp 0 1).bytes
  let msg := [8, 0] ++ be16 0 ++ be16 0x1234 ++ be16 1 ++ data
  [2, 0, 0, 0, 0, 1] ++ [2, 0, 0, 0, 9, 9] ++ be16 ethertypeIp ++ patch hdr 10 (be16 (cksum hdr))
    ++ patch msg 2 (be16 (cksum msg))

/-- The ARP reply by which the host with address `sip` gives its hardware address. -/
def sampleReply (sip : Ip) (sha : Mac) : Frame :=
  arpFrame ⟨2, 0, 0, 0, 0, 1⟩ ⟨[], sha, sip⟩ 2 ⟨2, 0, 0, 0, 0, 1⟩ (sampleIp 0 1)

/-- The reply to an ARP request of `10.0.0.2` for the address of `eth0`. -/
def sampleArpReply : Frame :=
  arpFrame ⟨2, 0, 0, 0, 9, 9⟩ sampleIfs[0] 2 ⟨2, 0, 0, 0, 9, 9⟩ (sampleIp 0 2)

/-- The request itself. -/
def sampleArpRequest : Frame :=
  arpFrame broadcastMac ⟨[], ⟨2, 0, 0, 0, 9, 9⟩, sampleIp 0 2⟩ 1 ⟨0, 0, 0, 0, 0, 0⟩ (sampleIp 0 1)

/-! ### Sessions -/

/-- What can happen in a session. -/
inductive SessionEvent where
  | data (e : Event)
  /-- A hardware information message. -/
  | hwinfo (entries : List HwEntry)
deriving DecidableEq, Repr

/-- A session ends if the routes do not fit the interfaces that were announced. -/
def sessionStep (fuel : ℕ) (s : Router) : SessionEvent → Except Fault Router
  | .data e => step fuel s e
  | .hwinfo entries => do
      let s ← srHandleHwinfo s entries
      if srVerifyRoutingTable s.ifList s.routingTable = 0 then .ok s else .error .sessionClosed

/-- The call made for an event of a session returns. -/
def SessionStep (s : Router) (e : SessionEvent) (s' : Router) : Prop :=
  ∃ fuel, sessionStep fuel s e = .ok s'

lemma sessionStep_of_ok {fuel : ℕ} (s : Router) (e : SessionEvent) (s' : Router)
    (h : sessionStep fuel s e = .ok s') : SessionStep s e s' :=
  ⟨fuel, h⟩

end SimpleRouter
