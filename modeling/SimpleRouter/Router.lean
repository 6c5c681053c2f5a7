/-
The data path of the router (`sr_router.c`), with the checks that
`sr_send_packet` makes before it writes (`sr_vns_comm.c`) and the sweep of
`sr_arpcache.c`.

`handle_arpreq`, `send_icmp_error` and `route_and_send` call one another.  Here
the two latter take the function that handles a request as an argument, and
`handleArpreq` ties the knot by recursion on a fuel: a call that needs a deeper
recursion than the fuel allows ends with `Fault.outOfFuel`, so that a call that
does not return is one that ends so for every fuel.

Allocation does not fail, and a frame that is read is read through
`Router.load`, which also records where.
-/
import SimpleRouter.ArpCache

namespace SimpleRouter

open Bytes CString

/-! ### Sending -/

/-- `sr_ether_addrs_match_interface`. -/
def srEtherAddrsMatchInterface (ifs : List SrIf) (buf : Frame) (name : List UInt8) : Bool :=
  match srGetInterface ifs name with
  | none => false
  | some iface => etherShost buf = iface.addr

/-- `sr_send_packet`, up to the write.  None of its callers looks at the result. -/
def srSendPacket (s : Router) (origin : Origin) (buf : Frame) (iface : List UInt8) : Router :=
  if buf.length < 14 then s.emit (.sent origin iface buf .tooShort)
  else
    let (copy, s) := s.load buf 0 buf.length
    if srEtherAddrsMatchInterface s.ifList copy iface then
      s.emit (.sent origin iface buf .passed)
    else s.emit (.sent origin iface buf .mismatch)

/-- An Ethernet frame that carries an ARP packet sent by `iface`. -/
def arpFrame (dhost : Mac) (iface : SrIf) (op : ℕ) (tha : Mac) (tip : Ip) : Frame :=
  dhost.bytes ++ iface.addr.bytes ++ be16 ethertypeArp
    ++ (be16 1 ++ be16 ethertypeIp ++ [6, 4] ++ be16 op)
    ++ (iface.addr.bytes ++ iface.ip.bytes ++ tha.bytes ++ tip.bytes)

/-- `send_arp_reply`: `reqArp` is the ARP header of the request. -/
def sendArpReply (s : Router) (reqArp : List UInt8) (iface : SrIf) : Router :=
  srSendPacket s .arpReply (arpFrame (arSha reqArp) iface 2 (arSha reqArp) (arSip reqArp)) iface.name

/-- The hardware address `ff:ff:ff:ff:ff:ff`. -/
def broadcastMac : Mac := ⟨0xff, 0xff, 0xff, 0xff, 0xff, 0xff⟩

/-- `send_arp_request`, on behalf of the request `id`. -/
def sendArpRequest (s : Router) (id : ReqId) (targetIp : Ip) (ifaceName : List UInt8) : Router :=
  match srGetInterface s.ifList ifaceName with
  | none => s
  | some iface =>
      srSendPacket s (.arpRequest id targetIp)
        (arpFrame broadcastMac iface 1 ⟨0, 0, 0, 0, 0, 0⟩ targetIp) iface.name

/-! ### Routing a frame -/

/-- `route_and_send` up to and including `sr_arpcache_queuereq`: the frame is
queued under its next hop, unless there is no route to it or the route's
interface does not exist. -/
def routeAndQueue (s : Router) (frame : Frame) : Router × Option ReqId :=
  if frame.length < 14 + 20 then (s, none)
  else
    let (ip, s) := s.load frame 14 20
    match rtExactMatch s.routingTable (ipDst ip) with
    | none => (s, none)
    | some rt =>
        match srGetInterface s.ifList rt.interface with
        | none => (s, none)
        | some outIface =>
            let hop := nextHop rt (ipDst ip)
            -- the destination address is filled in when the reply comes
            let frame := patch (patch frame 6 outIface.addr.bytes) 12 (be16 ethertypeIp)
            let s := s.emit (.accepted hop ⟨frame, strncpy 32 outIface.name, s.nextFid⟩)
            let (s, req) := srArpcacheQueuereq s hop frame outIface.name
            (s, some req)

section HandleRequest

/-! The functions of this section call `handle_arpreq` through `handle`. -/

variable (handle : Router → ReqId → Except Fault Router)

/-- `route_and_send`. -/
def routeAndSend (s : Router) (frame : Frame) : Except Fault (ℤ × Router) :=
  match routeAndQueue s frame with
  | (s, none) => .ok (-1, s)
  | (s, some req) => do
      let s ← handle s req
      .ok (0, s)

/-- The source address of an ICMP error when the caller knows none: that of the
interface on the route back. -/
def returnSource (s : Router) (dst : Ip) : Ip :=
  match rtExactMatch s.routingTable dst with
  | none => 0
  | some back =>
      match srGetInterface s.ifList back.interface with
      | none => 0
      | some outIface => outIface.ip

/-- The IP header of an ICMP error: 20 bytes, `IP_DF`, `INIT_TTL`. -/
def icmpErrorIpHdr (src dst : Ip) : List UInt8 :=
  let hdr := [0x45, 0] ++ be16 (20 + 36) ++ be16 0 ++ be16 0x4000 ++ [255, 1] ++ be16 0
    ++ src.bytes ++ dst.bytes
  patch hdr 10 (be16 (cksum hdr))

/-- The ICMP part of an ICMP error: an `sr_icmp_t11_hdr` with 28 bytes of data. -/
def icmpErrorMsg (type code : UInt8) (data : List UInt8) : List UInt8 :=
  let msg := [type, code] ++ be16 0 ++ [0, 0, 0, 0] ++ data
  patch msg 2 (be16 (cksum msg))

/-- The frame of an ICMP error; its Ethernet header is still zero. -/
def icmpErrorFrame (type code : UInt8) (src dst : Ip) (data : List UInt8) : Frame :=
  List.replicate 14 0 ++ icmpErrorIpHdr src dst ++ icmpErrorMsg type code data

/-- `send_icmp_error`. -/
def sendIcmpError (s : Router) (cause : Cause) (type code : UInt8) (orig : Frame) (srcIp : Ip) :
    Except Fault Router :=
  let s := s.emit (.icmpError type code cause)
  if orig.length < 14 + 20 then .ok s
  else
    let (origIp, s) := s.load orig 14 20
    -- 0 means that the caller leaves the choice to this function
    let srcIp := if srcIp = 0 then returnSource s (ipSrc origIp) else srcIp
    if srcIp = 0 then .ok s
    else
      -- `ICMP_DATA_SIZE` bytes are copied whatever `orig_len` is
      let (data, s) := s.load orig 14 28
      do
        let (_, s) ← routeAndSend handle s
          (icmpErrorFrame type code srcIp (ipSrc origIp) data)
        .ok s

/-- The loop of `handle_arpreq` that gives up the packets of the request `id`.
Stepping to the next packet reads the list of the request, which must still
exist. -/
def giveUpLoop (id : ReqId) : List SrPacket → Router → Except Fault Router
  | [], s => .ok s
  | pkt :: rest, s =>
      if pkt.buf.length < 14 + 20 then giveUpLoop id rest s
      else do
        let s ← sendIcmpError handle s (.giveUp id pkt.fid) 3 1 pkt.buf 0
        if (s.findReq id).isSome then giveUpLoop id rest s else .error .useAfterFree

end HandleRequest

/-- The retry of `handle_arpreq`: an ARP request on the interface of the first
packet, if there is one. -/
def retryArp (s : Router) (req : SrArpreq) : Router :=
  let s := match req.packets with
    | [] => s
    | pkt :: _ => sendArpRequest s req.id req.ip pkt.iface
  s.modifyReq req.id fun r => { r with sent := s.now, timesSent := r.timesSent + 1 }

/-- `handle_arpreq`. -/
def handleArpreq : ℕ → Router → ReqId → Except Fault Router
  | 0, _, _ => .error .outOfFuel
  | fuel + 1, s, id =>
      match s.findReq id with
      | none => .error .useAfterFree
      | some req =>
          -- times are whole seconds
          if s.now - req.sent < 1 then .ok s
          else if 5 ≤ req.timesSent then do
            -- the request stays on the queue until its packets are given up
            let s ← giveUpLoop (handleArpreq fuel) id req.packets s
            .ok (srArpreqDestroy s id)
          else .ok (retryArp s req)

/-! ### Received packets -/

/-- The loop of `handle_arp_packet` that sends the packets of a request off to
the hardware address `sha`. -/
def drainPackets (sha : Mac) (sip : Ip) : List SrPacket → Router → Router
  | [], s => s
  | pkt :: rest, s =>
      if pkt.buf.length < 14 then drainPackets sha sip rest s
      else
        let buf := match srGetInterface s.ifList pkt.iface with
          | none => pkt.buf
          | some outIface => patch pkt.buf 6 outIface.addr.bytes
        let buf := patch buf 0 sha.bytes
        drainPackets sha sip rest (srSendPacket s (.drain pkt.fid sip) buf pkt.iface)

/-- `handle_arp_packet`. -/
def handleArpPacket (s : Router) (packet : Frame) (interface : List UInt8) : Router :=
  if packet.length < 14 + 28 then s
  else
    let (arp, s) := s.load packet 14 28
    if arHrd arp ≠ 1 ∨ arPro arp ≠ ethertypeIp then s
    else
      match srGetInterface s.ifList interface with
      | none => s
      | some recvIface =>
          if arOp arp = 1 then
            if arTip arp = recvIface.ip then sendArpReply s arp recvIface else s
          else if arOp arp = 2 then
            -- a reply is believed whether or not it was asked for
            match srArpcacheInsert s (arSha arp) (arSip arp) with
            | (none, s) => s
            | (some req, s) =>
                srArpreqDestroy (drainPackets (arSha arp) (arSip arp) req.packets s) req.id
          else s

/-- The frame `send_icmp_echo_reply` builds out of an echo request: addresses
swapped, a fresh TTL, type and code 0, and both checksums computed anew. -/
def icmpEchoReply (orig : Frame) : Frame :=
  let ipHdrLen := ipHl (slice orig 14 20) * 4
  let src := ip32 orig 26
  let dst := ip32 orig 30
  let buf := patch (patch (patch orig 26 dst.bytes) 30 src.bytes) 22 [255]
  let buf := patch buf 24 (be16 0)
  let buf := patch buf 24 (be16 (cksum (slice buf 14 ipHdrLen)))
  let buf := patch (patch buf (14 + ipHdrLen) [0, 0]) (14 + ipHdrLen + 2) (be16 0)
  patch buf (14 + ipHdrLen + 2)
    (be16 (cksum (slice buf (14 + ipHdrLen) (orig.length - 14 - ipHdrLen))))

/-- The private copy `handle_ip_packet` forwards: TTL decremented and the header
checksum computed anew. -/
def forwardFrame (packet : Frame) (ipHdrLen : ℕ) : Frame :=
  let frame := patch packet 22 [ipTtl (slice packet 14 20) - 1]
  let frame := patch frame 24 (be16 0)
  patch frame 24 (be16 (cksum (slice frame 14 ipHdrLen)))

section HandleIp

variable (handle : Router → ReqId → Except Fault Router)

/-- The part of `handle_ip_packet` for a frame to one of the router's addresses:
an ICMP echo request is answered.  The second component is the lent buffer on
return. -/
def handleIpForUs (s : Router) (packet : Frame) (ip : List UInt8) :
    Except Fault (Router × Frame) :=
  if ipP ip = 1 then
    let icmpOff := 14 + ipHl ip * 4
    if packet.length < icmpOff + 8 then .ok (s, packet)
    else
      let (icmp, s) := s.load packet icmpOff 8
      if u8 icmp 0 = 8 then
        -- everything up to the end of the frame, whatever `ip_len` says
        let icmpLen := packet.length - icmpOff
        let orig := u16 icmp 2
        let packet := patch packet (icmpOff + 2) (be16 0)
        let (msg, s) := s.load packet icmpOff icmpLen
        let packet := patch packet (icmpOff + 2) (be16 orig)
        if orig ≠ cksum msg then .ok (s, packet)
        else
          let s := s.noteRead packet 0 packet.length
          do
            let (_, s) ← routeAndSend handle s (icmpEchoReply packet)
            .ok (s, packet)
      else .ok (s, packet)
  else .ok (s, packet)

/-- The source address of an error about a frame that arrived on `interface`. -/
def arrivalSource (s : Router) (interface : List UInt8) : Ip :=
  match srGetInterface s.ifList interface with
  | none => 0
  | some inIface => inIface.ip

/-- The part of `handle_ip_packet` for a frame to somewhere else. -/
def handleIpTransit (s : Router) (packet : Frame) (interface : List UInt8) (ip : List UInt8) :
    Except Fault Router :=
  if ipTtl ip ≤ 1 then sendIcmpError handle s .arrival 11 0 packet (arrivalSource s interface)
  else
    let s := s.noteRead packet 0 packet.length
    do
      let (rc, s) ← routeAndSend handle s (forwardFrame packet (ipHl ip * 4))
      -- the error quotes the lent buffer and not the copy
      if rc < 0 then sendIcmpError handle s .arrival 3 0 packet (arrivalSource s interface)
      else .ok s

/-- `handle_ip_packet`.  The second component is the lent buffer on return. -/
def handleIpPacket (s : Router) (packet : Frame) (interface : List UInt8) :
    Except Fault (Router × Frame) :=
  if packet.length < 14 + 20 then .ok (s, packet)
  else
    let (ip, s) := s.load packet 14 20
    let ipHdrLen := ipHl ip * 4
    if ipHdrLen < 20 then .ok (s, packet)
    else if packet.length < 14 + ipHdrLen then .ok (s, packet)
    else if ipLen ip < ipHdrLen then .ok (s, packet)
    else
      -- the checksum is computed over the lent buffer with its field zeroed
      let recvSum := ipSum ip
      let packet := patch packet 24 (be16 0)
      let (hdr, s) := s.load packet 14 ipHdrLen
      let packet := patch packet 24 (be16 recvSum)
      if recvSum ≠ cksum hdr then .ok (s, packet)
      else
        match findIfaceForIp s.ifList (ipDst ip) with
        | some _ => handleIpForUs handle s packet ip
        | none => do
            let s ← handleIpTransit handle s packet interface ip
            .ok (s, packet)

end HandleIp

/-- `sr_handlepacket`. -/
def srHandlepacket (fuel : ℕ) (s : Router) (packet : Frame) (interface : List UInt8) :
    Except Fault (Router × Frame) :=
  if packet.length < 14 then .ok (s, packet)
  else
    let (eth, s) := s.load packet 0 14
    if ethertype eth = ethertypeArp then .ok (handleArpPacket s packet interface, packet)
    else if ethertype eth = ethertypeIp then handleIpPacket (handleArpreq fuel) s packet interface
    else .ok (s, packet)

/-! ### The sweep -/

/-- The walk of `sr_arpcache_sweepreqs` from the request `cur` on: `next` is
read before the request is handled, and must still exist when the walk gets to
it. -/
def sweepFrom (handle : Router → ReqId → Except Fault Router) :
    ℕ → Router → Option ReqId → Except Fault Router
  | _, s, none => .ok s
  | 0, _, some _ => .error .outOfFuel
  | n + 1, s, some id =>
      match nextReq s.requests id with
      | none => .error .useAfterFree
      | some next => do
          let s ← handle (s.emit (.swept id)) id
          sweepFrom handle n s next

/-- `sr_arpcache_sweepreqs`. -/
def srArpcacheSweepreqs (fuel : ℕ) (s : Router) : Except Fault Router :=
  sweepFrom (handleArpreq fuel) fuel s (s.requests.head?.map (·.id))

/-- One pass of `sr_arpcache_timeout`. -/
def srArpcacheTimeout (fuel : ℕ) (s : Router) : Except Fault Router :=
  srArpcacheSweepreqs fuel (expireEntries s)

end SimpleRouter
