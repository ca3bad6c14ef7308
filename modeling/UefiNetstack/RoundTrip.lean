import UefiNetstack.Types

namespace UefiNetstack
open Words Memory

variable {m : Memory} {start : Nat}

theorem ByteArr.read_stored {count : Nat} {content : ByteArr count} (stored : BytesAt m start content.toList) :
    ByteArr.read count m start = content := by
  apply Vector.ext
  intro index inside
  have value := stored index (by simpa using inside)
  simpa [ByteArr.read] using value

theorem EthHdr.read_stored {h : EthHdr} (stored : BytesAt m start h.bytes) : EthHdr.read m start = h := by
  simp only [bytes, bytesAt_append_iff, List.length_append, Vector.length_toList, Nat.reduceAdd] at stored
  obtain ⟨⟨dst, src⟩, type⟩ := stored
  simp only [read, ByteArr.read_stored dst, ByteArr.read_stored src, load16_stored type]

theorem ArpHdr.read_stored {h : ArpHdr} (stored : BytesAt m start h.bytes) : ArpHdr.read m start = h := by
  simp only [bytes, bytesAt_append_iff, bytesAt_cons_iff, bytesAt_nil, and_true, List.length_append,
    List.length_cons, List.length_nil, le16_length, le32_length, Vector.length_toList, Nat.add_assoc,
    Nat.reduceAdd] at stored
  obtain ⟨⟨⟨⟨⟨⟨⟨htype, ptype⟩, hlen, plen⟩, oper⟩, sha⟩, spa⟩, tha⟩, tpa⟩ := stored
  simp only [read, load16_stored htype, load16_stored ptype, hlen, plen, load16_stored oper,
    ByteArr.read_stored sha, load32_stored spa, ByteArr.read_stored tha, load32_stored tpa]

theorem IpHdr.read_stored {h : IpHdr} (stored : BytesAt m start h.bytes) : IpHdr.read m start = h := by
  simp only [bytes, bytesAt_append_iff, bytesAt_cons_iff, bytesAt_nil, and_true, List.length_append,
    List.length_cons, List.length_nil, le16_length, le32_length, Nat.add_assoc, Nat.reduceAdd] at stored
  obtain ⟨⟨⟨⟨⟨⟨⟨⟨ihl, tos⟩, totLen⟩, id⟩, fragOff⟩, ttl, protocol⟩, check⟩, saddr⟩, daddr⟩ := stored
  simp only [read, ihl, tos, load16_stored totLen, load16_stored id, load16_stored fragOff, ttl, protocol,
    load16_stored check, load32_stored saddr, load32_stored daddr]

theorem IcmpHdr.read_stored {h : IcmpHdr} (stored : BytesAt m start h.bytes) : IcmpHdr.read m start = h := by
  simp only [bytes, bytesAt_append_iff, bytesAt_cons_iff, bytesAt_nil, and_true, List.length_append,
    List.length_cons, List.length_nil, le16_length, Nat.add_assoc, Nat.reduceAdd] at stored
  obtain ⟨⟨⟨⟨type, code⟩, checksum⟩, id⟩, seq⟩ := stored
  simp only [read, type, code, load16_stored checksum, load16_stored id, load16_stored seq]

theorem UdpHdr.read_stored {h : UdpHdr} (stored : BytesAt m start h.bytes) : UdpHdr.read m start = h := by
  simp only [bytes, bytesAt_append_iff, List.length_append, le16_length, Nat.reduceAdd] at stored
  obtain ⟨⟨⟨source, dest⟩, len⟩, check⟩ := stored
  simp only [read, load16_stored source, load16_stored dest, load16_stored len, load16_stored check]

theorem TcpHdr.read_stored {h : TcpHdr} (stored : BytesAt m start h.bytes) : TcpHdr.read m start = h := by
  simp only [bytes, bytesAt_append_iff, List.length_append, le16_length, le32_length, Nat.reduceAdd] at stored
  obtain ⟨⟨⟨⟨⟨⟨⟨source, dest⟩, seq⟩, ackSeq⟩, doff⟩, window⟩, check⟩, urgPtr⟩ := stored
  simp only [read, load16_stored source, load16_stored dest, load32_stored seq, load32_stored ackSeq,
    load16_stored doff, load16_stored window, load16_stored check, load16_stored urgPtr]

theorem DnsHdr.read_stored {h : DnsHdr} (stored : BytesAt m start h.bytes) : DnsHdr.read m start = h := by
  simp only [bytes, bytesAt_append_iff, List.length_append, le16_length, Nat.reduceAdd] at stored
  obtain ⟨⟨⟨⟨⟨id, flags⟩, qdcount⟩, ancount⟩, nscount⟩, arcount⟩ := stored
  simp only [read, load16_stored id, load16_stored flags, load16_stored qdcount, load16_stored ancount,
    load16_stored nscount, load16_stored arcount]

theorem DhcpHdr.read_stored {h : DhcpHdr} (stored : BytesAt m start h.bytes) : DhcpHdr.read m start = h := by
  simp only [bytes, bytesAt_append_iff, bytesAt_cons_iff, bytesAt_nil, and_true, List.length_append,
    List.length_cons, List.length_nil, le16_length, le32_length, Vector.length_toList, Nat.add_assoc,
    Nat.reduceAdd] at stored
  obtain ⟨⟨⟨⟨⟨⟨⟨⟨⟨⟨⟨⟨op, htype, hlen, hops⟩, xid⟩, secs⟩, flags⟩, ciaddr⟩, yiaddr⟩, siaddr⟩, giaddr⟩, chaddr⟩,
    sname⟩, file⟩, magic⟩ := stored.1
  simp only [read, op, htype, hlen, hops, load32_stored xid, load16_stored secs, load16_stored flags,
    load32_stored ciaddr, load32_stored yiaddr, load32_stored siaddr, load32_stored giaddr,
    ByteArr.read_stored chaddr, ByteArr.read_stored sname, ByteArr.read_stored file, load32_stored magic,
    dhcpOptionsOffset, ByteArr.read_stored stored.2]

end UefiNetstack
