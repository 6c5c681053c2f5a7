/-
Packet messages, from the one that sends to the one that reads.

`sr_send_packet` puts a header of 24 bytes in front of a frame, and the reader takes
the frame from behind the header again.  The header has 16 bytes for the name of the
interface, which has up to 31 characters: a name of 16 characters or more is cut
without a terminator, and the reader, which takes the name from the same place with a
bound of 32, goes on reading in the frame.
-/
import SimpleRouter.Commands
import SimpleRouter.Reassembly
import SimpleRouter.Events
import SimpleRouter.Effects

namespace SimpleRouter

open Bytes CString

variable {ifs : List SrIf} {i : SrIf} {frame : Frame} {junk name : List UInt8}

/-! ### Both sides -/

/-- The message for a frame, with the header `c_packet_header`. -/
def packetMessage (frame : Frame) (iface : List UInt8) : List UInt8 :=
  be32 (frame.length + 24) ++ be32 vnsPacket ++ strncpy 16 iface ++ frame

/-- What `sr_send_packet` writes: nothing if its checks fail. -/
def writtenMessage (ifs : List SrIf) (frame : Frame) (iface : List UInt8) : Option (List UInt8) :=
  if sendVerdict ifs frame iface = .passed then some (packetMessage frame iface) else none

/-- The arguments of `sr_handlepacket`, which are also those of
`sr_arp_req_not_for_us`. -/
structure PacketArgs where
  /-- The memory from the frame on. -/
  packet : List UInt8
  len : ℤ
  /-- The memory from the name on. -/
  interface : List UInt8
deriving DecidableEq, Repr

/-- The arguments for a packet message; `junk` is the memory behind the buffer. -/
def packetArgs (junk bytes : List UInt8) : PacketArgs :=
  ⟨(bytes ++ junk).drop 24, packetLen bytes.length, (bytes ++ junk).drop 8⟩

/-! ### The message -/

lemma length_packetMessage (frame : Frame) (name : List UInt8) :
    (packetMessage frame name).length = frame.length + 24 := by
  simp only [packetMessage, List.length_append, length_be32, length_strncpy]
  omega

/-- A complete packet message. -/
structure IsPacketMessage (m : List UInt8) : Prop where
  ge : 24 ≤ m.length
  word : u32 m 0 = m.length
  command : u32 m 4 = vnsPacket

lemma isPacketMessage_packetMessage (frame : Frame) (name : List UInt8)
    (hlt : frame.length + 24 < 4294967296) :
    IsPacketMessage (packetMessage frame name) := by
  have hlen := length_packetMessage frame name
  have hword : u32 (packetMessage frame name) 0 = frame.length + 24 := by
    rw [packetMessage, List.append_assoc, List.append_assoc, u32_append_left (by simp),
      u32_be32 hlt]
  have hcommand : u32 (packetMessage frame name) 4 = vnsPacket := by
    have hright : u32 (packetMessage frame name) 4
        = u32 (be32 vnsPacket ++ (strncpy 16 name ++ frame)) 0 := by
      rw [packetMessage, List.append_assoc, List.append_assoc]
      exact u32_append_right 0
    rw [hright, u32_append_left (by simp), u32_be32 (by decide)]
  exact ⟨by omega, hword.trans hlen.symm, hcommand⟩

/-- The message is well formed and bears the command of a packet message. -/
lemma wellFormed_packetMessage (frame : Frame) (name : List UInt8) (hle : frame.length ≤ 9976) :
    WellFormed (packetMessage frame name) ∧
      dispatched (packetMessage frame name) = ⟨vnsPacket, packetMessage frame name⟩ := by
  have hlen := length_packetMessage frame name
  have hm := isPacketMessage_packetMessage frame name (by omega)
  exact ⟨⟨by omega, by omega, hm.word⟩, by rw [dispatched, hm.command]⟩

/-- The frame and the name that are handed over. -/
lemma packetArgs_packetMessage (junk : List UInt8) (frame : Frame) (name : List UInt8)
    (hle : frame.length ≤ 9976) :
    packetArgs junk (packetMessage frame name) =
      ⟨frame ++ junk, frame.length, strncpy 16 name ++ (frame ++ junk)⟩ := by
  have hlen := length_packetMessage frame name
  have hpacket : packetLen (frame.length + 24) = frame.length := by
    rw [(packetLen_eq_iff (by omega)).2 (by omega)]
    push_cast
    omega
  have hname : (packetMessage frame name ++ junk).drop 8
      = strncpy 16 name ++ (frame ++ junk) := by
    have hsplit : packetMessage frame name ++ junk = (be32 (frame.length + 24) ++ be32 vnsPacket)
        ++ (strncpy 16 name ++ (frame ++ junk)) := by
      simp only [packetMessage, List.append_assoc]
    rw [hsplit]
    exact List.drop_left' rfl
  have hframe : (packetMessage frame name ++ junk).drop 24 = frame ++ junk := by
    rw [show 24 = 8 + 16 from rfl, ← List.drop_drop, hname]
    exact List.drop_left' (length_strncpy 16 name)
  rw [packetArgs, hlen, hpacket, hname, hframe]

/-! ### The name -/

/-- The name that the reader sees. -/
lemma cstr_handed (name rest : List UInt8) :
    cstr 32 (strncpy 16 name ++ rest) =
      if (cstr 32 name).length < 16 then cstr 32 name
      else (cstr 32 name).take 16 ++ cstr 16 rest := by
  have htake : cstr 16 name = (cstr 32 name).take 16 := cstr_eq_take (by omega) name
  have hnul : ∀ x ∈ cstr 16 name, x ≠ 0 := fun x hx => ne_zero_of_mem_cstr hx
  have hle := length_cstr_le 16 name
  rw [strncpy, List.append_assoc, cstr_append _ hnul (by omega)]
  split_ifs with hshort
  · -- the copy is terminated
    have hall : cstr 16 name = cstr 32 name := by
      rw [htake, List.take_of_length_le (by omega)]
    obtain ⟨k, hk⟩ : ∃ k, 16 - (cstr 16 name).length = k + 1 :=
      ⟨15 - (cstr 16 name).length, by rw [hall]; omega⟩
    obtain ⟨n, hn⟩ : ∃ n, 32 - (cstr 16 name).length = n + 1 :=
      ⟨31 - (cstr 16 name).length, by omega⟩
    rw [hk, hn, List.replicate_succ, List.cons_append, cstr_cons, if_pos rfl, List.append_nil, hall]
  · -- all 16 bytes are taken by the name
    have hfull : (cstr 16 name).length = 16 := by
      rw [htake, List.length_take]
      omega
    rw [hfull, Nat.sub_self, List.replicate_zero, List.nil_append, htake]

/-- The lookup finds a record whose name is unique by its name. -/
lemma srGetInterface_eq_some_iff (hnodup : (ifs.map fun j => cstr 32 j.name).Nodup) (hi : i ∈ ifs) :
    srGetInterface ifs name = some i ↔ cstr 32 name = cstr 32 i.name := by
  rw [srGetInterface_eq_find_cstr, KeyedList.find?_eq_some_iff hnodup]
  constructor
  · rintro ⟨-, h⟩
    exact h.symm
  · intro h
    exact ⟨hi, h.symm⟩

/-! ### The round trip -/

/-- The message for a frame is written, read back as a packet message, and hands over
the frame with its length and with a name that stands for the interface. -/
structure DecodesTo (junk : List UInt8) (ifs : List SrIf) (frame : Frame) (i : SrIf) : Prop where
  written : writtenMessage ifs frame i.name = some (packetMessage frame i.name)
  read : ∀ as rest, avail as = packetMessage frame i.name ++ rest → ∀ fuel, 10000 < fuel →
    ∃ ret as', srReadFromServerExpect junk (fun (log : List Message) m => (1, log ++ [m])) fuel 0 []
      as = some (ret, [⟨vnsPacket, packetMessage frame i.name⟩], as') ∧ avail as' = rest
  packet : (packetArgs junk (packetMessage frame i.name)).packet.take frame.length = frame
  len : (packetArgs junk (packetMessage frame i.name)).len = frame.length
  iface : srGetInterface ifs (packetArgs junk (packetMessage frame i.name)).interface = some i

/-- Everything but the name comes back for every interface; the name does if it has less
than 16 characters, or if the frame begins with the rest of the name. -/
theorem decode_encode_iff (junk : List UInt8) (hi : i ∈ ifs)
    (hnodup : (ifs.map fun j => cstr 32 j.name).Nodup) (hmac : etherShost frame = i.addr)
    (hge : 14 ≤ frame.length) (hle : frame.length ≤ 9976) :
    DecodesTo junk ifs frame i ↔
      (cstr 32 i.name).length < 16 ∨ cstr 16 (frame ++ junk) = (cstr 32 i.name).drop 16 := by
  obtain ⟨hwell, hdisp⟩ := wellFormed_packetMessage frame i.name hle
  have hargs := packetArgs_packetMessage junk frame i.name hle
  have hfound : srGetInterface ifs i.name = some i := (srGetInterface_eq_some_iff hnodup hi).2 rfl
  have hiface : srGetInterface ifs (packetArgs junk (packetMessage frame i.name)).interface = some i ↔
      (cstr 32 i.name).length < 16 ∨ cstr 16 (frame ++ junk) = (cstr 32 i.name).drop 16 := by
    rw [hargs, srGetInterface_eq_some_iff hnodup hi, cstr_handed]
    split_ifs with hshort
    · exact ⟨fun _ => Or.inl hshort, fun _ => rfl⟩
    · conv_lhs => rhs; rw [← List.take_append_drop 16 (cstr 32 i.name)]
      rw [List.append_cancel_left_eq]
      exact ⟨Or.inr, fun h => h.resolve_left hshort⟩
  -- the other four fields hold for every name
  rw [← hiface]
  refine ⟨fun h => h.iface, fun h => ⟨?_, ?_, ?_, ?_, h⟩⟩
  · have hpassed : sendVerdict ifs frame i.name = .passed := by
      rw [sendVerdict, if_neg (by omega), if_pos]
      rw [srEtherAddrsMatchInterface, hfound]
      simp [hmac]
    rw [writtenMessage, if_pos hpassed]
  · intro as rest havail fuel hfuel
    obtain ⟨ret, as', hret, hrest⟩ : ∃ ret as', srReadFromServerExpect junk
        (fun (log : List Message) m => (1, log ++ [m])) fuel 0 [] as = some (ret,
          deliver (fun log m => (1, log ++ [m])) [] (0, packetMessage frame i.name), as') ∧
        avail as' = rest := srReadFromServerExpect_message hwell hfuel havail
    refine ⟨ret, as', ?_, hrest⟩
    have hexp : Expected 0 (packetMessage frame i.name) := Or.inl rfl
    have hdeliver : deliver (fun (log : List Message) m => ((1 : ℤ), log ++ [m])) []
        (0, packetMessage frame i.name) = [⟨vnsPacket, packetMessage frame i.name⟩] := by
      rw [deliver, if_pos hexp, hdisp]
      rfl
    rw [hret, hdeliver]
  · rw [hargs]
    exact List.take_left
  · rw [hargs]

/-- An ARP request sent from `eth1`. -/
theorem decode_encode_iff_sample :
    DecodesTo [] sampleIfs (arpFrame broadcastMac sampleIfs[1] 1 ⟨0, 0, 0, 0, 0, 0⟩ (sampleIp 1 2))
      sampleIfs[1] :=
  (decode_encode_iff [] (by decide) (by decide) rfl (by decide) (by decide)).2
    (Or.inl (by decide))

/-- An interface whose name has 16 characters. -/
def longIf : SrIf := ⟨strncpy 32 (List.replicate 16 97), ⟨2, 0, 0, 0, 0, 1⟩, sampleIp 0 1⟩

/-- An ARP request sent from this interface comes back under another name: the name goes
on with the bytes of the hardware address `ff:ff:ff:ff:ff:ff`. -/
theorem long_name_lost :
    ([longIf].map fun j => cstr 32 j.name).Nodup ∧ (cstr 32 longIf.name).length = 16 ∧
      etherShost (arpFrame broadcastMac longIf 1 ⟨0, 0, 0, 0, 0, 0⟩ (sampleIp 0 2)) = longIf.addr ∧
      ¬ DecodesTo [] [longIf] (arpFrame broadcastMac longIf 1 ⟨0, 0, 0, 0, 0, 0⟩ (sampleIp 0 2))
        longIf := by
  refine ⟨by decide, by decide, rfl, ?_⟩
  intro h
  exact absurd h.iface (by decide +kernel)

end SimpleRouter
