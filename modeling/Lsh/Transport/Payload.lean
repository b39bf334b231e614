
import Lsh.Transport.ReadSpec

/-!
# The payload and its consumers

`decode_packet` hands the payload of a packet to one of two consumers. Without compression it is
copied to a string of `SSH_MAX_PACKET + 1` octets, which asserts that it fits; with compression
it is input of `do_zlib`, which asserts that it is not empty. The length is what remains of the
packet length after the padding, and both come from the peer.

The checks on the header bound neither end of that range, so each assertion can be made to fail
by a peer that knows the keys. `decodePacket_consumers` says exactly by which packets.
-/

namespace Lsh.Transport

open Machine TransportReadState

/-- The length of the string for payloads that `transport.c` passes to `transport_read_packet`. -/
def payloadSpace : ℕ := sshMaxPacket + 1

/-- The payload length as `decode_packet` computes it. -/
def payloadLength (s : TransportReadState) : ℕ :=
  sub32 (sub32 s.totalLength s.macSize) s.padding

/-- The preconditions of both consumers: the payload fits in the output string, and it is not
empty if it is to be inflated. -/
def PayloadAccepted (s : TransportReadState) : Prop :=
  payloadLength s ≤ payloadSpace ∧ (s.inflate.isSome → 0 < payloadLength s)

variable {packetLength : ℕ} {s : TransportReadState}

section
variable (h : Body s packetLength)
include h

theorem Body.payloadLength_eq : payloadLength s = packetLength - 1 - s.padding := by
  obtain ⟨hpad, hmin, hmax, -, -, -, hmac⟩ := h.facts
  have htot := h.totalLength_eq
  have hsub : sub32 s.totalLength s.macSize = packetLength - 1 := by
    rw [sub32_eq (by omega) (by omega)]
    omega
  rw [payloadLength, hsub, sub32_eq (by omega) (by omega)]

theorem Body.payloadAccepted_iff :
    PayloadAccepted s ↔ packetLength ≤ s.padding + payloadSpace + 1 ∧
      (s.inflate.isSome → s.padding + 1 < packetLength) := by
  rw [PayloadAccepted, h.payloadLength_eq]
  refine and_congr (by omega) (imp_congr_right fun _ => by omega)

/-- The payload that is passed on has the length computed for it. -/
theorem Body.length_payload :
    ((resetMac (bodyState s packetLength)).octets 0 (payloadLength s)).length =
      payloadLength s := by
  obtain ⟨-, -, -, hspl, -, hlen, -⟩ := h.facts
  refine length_octets ?_
  show 0 + payloadLength s ≤ (s.data.take (s.blockSize - 5) ++ rest s packetLength ++
    s.data.drop (packetLength - 1)).length
  rw [h.payloadLength_eq, List.length_append, List.length_append, h.length_rest,
    List.length_take_of_le (by omega)]
  omega

/-- Decoding without compression fails exactly if the payload does not fit. -/
theorem Body.decodePacket_copy (hmac : MacMatches s packetLength) (hinf : s.inflate = none)
    (space) :
    decodePacket s space =
      if payloadLength s ≤ space then
        .ok (.complete (s.seqno, (bodyState s packetLength).octets 0 (payloadLength s)),
          afterPacket (resetMac (bodyState s packetLength)))
      else
        .error .outputRoom := by
  rcases h.decodePacket_eq space with ⟨-, hdec⟩ | ⟨hmac', -⟩
  · rw [hdec]
    split_ifs with hft
    · exact deliver_of_le (s := resetMac (bodyState s packetLength)) hinf hft
    · exact deliver_of_not_le (s := resetMac (bodyState s packetLength)) hinf hft
  · exact absurd hmac hmac'

/-- Decoding with compression fails in the first assertion of `do_zlib` exactly if the payload is
empty, and never for lack of room. -/
theorem Body.decodePacket_inflate (hmac : MacMatches s packetLength) {inflate : CompressInstance}
    (hinf : s.inflate = some inflate) (space) :
    (decodePacket s space = .error .zlibLength ↔ payloadLength s = 0) ∧
      decodePacket s space ≠ .error .outputRoom := by
  have hlen := h.length_payload
  rcases h.decodePacket_eq space with ⟨-, hdec⟩ | ⟨hmac', -⟩
  · have heq : decodePacket s space = (do
        let r ← inflate.codec space
          ((resetMac (bodyState s packetLength)).octets 0 (payloadLength s))
        return (.complete (s.seqno, r.1),
          { afterPacket (resetMac (bodyState s packetLength)) with inflate := some r.2 })) := by
      rw [hdec, deliver_inflate (s := resetMac (bodyState s packetLength)) hinf]
      rfl
    rw [heq]
    rcases inflate.codec_cases space
        ((resetMac (bodyState s packetLength)).octets 0 (payloadLength s)) with
      ⟨hz0, hcc⟩ | ⟨hpos, hcc | ⟨r, hcc⟩⟩
    · rw [hlen] at hz0
      rw [hcc]
      exact ⟨iff_of_true rfl hz0, fun he => nomatch he⟩
    · rw [hcc]
      exact ⟨iff_of_false (fun he => nomatch he) (by omega), fun he => nomatch he⟩
    · rw [hcc]
      exact ⟨iff_of_false (fun he => nomatch he) (by omega), fun he => nomatch he⟩
  · exact absurd hmac hmac'

end

/-- **The consumers of a payload.** The payload of an accepted packet with a correct MAC meets the
preconditions of its consumers exactly if the padding leaves at most `SSH_MAX_PACKET + 1` octets
and, with compression, at least one. Otherwise the consumer's assertion fails. -/
theorem decodePacket_consumers {s : TransportReadState} {packetLength : ℕ}
    (h : Body s packetLength) (hmac : MacMatches s packetLength) :
    (PayloadAccepted s ↔ packetLength ≤ s.padding + payloadSpace + 1 ∧
      (s.inflate.isSome → s.padding + 1 < packetLength)) ∧
    (decodePacket s payloadSpace = .error .outputRoom ↔
      s.inflate = none ∧ s.padding + payloadSpace + 1 < packetLength) ∧
    (decodePacket s payloadSpace = .error .zlibLength ↔
      s.inflate.isSome ∧ packetLength = s.padding + 1) := by
  obtain ⟨hpad, -, -, -, -, -, -⟩ := h.facts
  have hlen := h.payloadLength_eq
  refine ⟨h.payloadAccepted_iff, ?_⟩
  cases hinf : s.inflate with
  | none =>
    rw [h.decodePacket_copy hmac hinf]
    split_ifs with hft
    · simp
      omega
    · simp
      omega
  | some inflate =>
    obtain ⟨hz0, hrm⟩ := h.decodePacket_inflate hmac hinf payloadSpace
    rw [hz0]
    simp [hrm]
    omega

/-- A reader without cipher and MAC that holds the body of a packet. -/
def unkeyedBody (inflate : Option CompressInstance) (packetLength padding : ℕ) (data : Octets) :
    TransportReadState :=
  { make with
    inflate := inflate, data := data, padding := padding, totalLength := packetLength - 1 }

theorem body_unkeyedBody {pad : ℕ} {data : Octets} {inflate : Option CompressInstance}
    (hchk : checkHeader 8 packetLength pad = none) (hmin : packetLength - 1 ≤ data.length)
    (hmax : 0 + data.length ≤ make.size) :
    Body (unkeyedBody inflate packetLength pad data) packetLength :=
  ⟨hmax, hchk, rfl, hmin⟩

theorem macMatches_unkeyedBody (inflate packetLength pad data) :
    MacMatches (unkeyedBody inflate packetLength pad data) packetLength :=
  fun _ hmac => nomatch hmac

/-- A payload of one octet is accepted. -/
theorem decodePacket_consumers_one :
    PayloadAccepted (unkeyedBody none 12 10 (List.replicate 11 5)) :=
  (decodePacket_consumers (body_unkeyedBody (by decide) (by decide) (by decide))
    (macMatches_unkeyedBody none 12 10 (List.replicate 11 5))).1.mpr ⟨by decide, by decide⟩

/-- A packet length of 32788 with the least padding leaves 32783 octets, 14 more than fit in the
output string. A packet of 12 octets that is all padding leaves nothing to inflate. -/
theorem decodePacket_aborts :
    decodePacket (unkeyedBody none 32788 4 (List.replicate 32787 5)) payloadSpace =
        .error .outputRoom ∧
      decodePacket (unkeyedBody (some ⟨fun _ _ => ⟨true, 0, []⟩, []⟩) 12 11
        (List.replicate 11 5)) payloadSpace = .error .zlibLength := by
  constructor
  · decide
  · have hbo : Body (unkeyedBody (some ⟨fun _ _ => ⟨true, 0, []⟩, []⟩) 12 11
        (List.replicate 11 5)) 12 := body_unkeyedBody (by decide) (by decide) (by decide)
    exact (hbo.decodePacket_inflate (macMatches_unkeyedBody _ _ _ _) rfl _).1.mpr
      hbo.payloadLength_eq

end Lsh.Transport
