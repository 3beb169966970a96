import Sniff4Hound.Capture.Parser
import Sniff4Hound.Library.WhileLoop

/-!
# The walk over the extension headers

The headers between the IPv6 header and its payload form a chain: each names the next one, and its
length says where that begins. `upperLayer` follows the chain over the bytes that are left.
`_unwrap_ipv6_transport` follows it by offsets: it reads bytes of the packet only, moves forward
with every header, and ends where the chain ends (`unwrap_follows_chain`).
-/

namespace Sniff4Hound

open WhileLoop

/-! ## The chain -/

/-- The protocol and the body behind a chain that begins with `header`. Six kinds of headers carry
their length in units of eight bytes behind the first eight; a fragment header takes eight, and what
follows it is read in the first fragment only. -/
def upperLayer (header : Nat) (bytes : Bytes) : Option Nat × Bytes :=
  if header ∈ Sniffer.IPV6_EXTENSIONS then
    match bytes with
    | next :: units :: rest =>
      if rest.length < 8 * units.toNat + 6 then (none, next :: units :: rest)
      else upperLayer next.toNat (rest.drop (8 * units.toNat + 6))
    | short => (none, short)
  else if header = Sniffer.IP_PROTO_IPV6_FRAGMENT then
    match bytes with
    | next :: reserved :: high :: low :: rest =>
      if rest.length < 4 then (none, next :: reserved :: high :: low :: rest)
      else if high = 0 ∧ low.toNat < 8 then upperLayer next.toNat (rest.drop 4)
      else (none, rest.drop 4)
    | short => (none, short)
  else (some header, bytes)
termination_by bytes.length
decreasing_by
  all_goals
    simp only [List.length_cons, List.length_drop]
    omega

theorem upperLayer_short {header : Nat} {bytes : Bytes} (h : header ∈ Sniffer.IPV6_EXTENSIONS)
    (hShort : bytes.length < 2) : upperLayer header bytes = (none, bytes) := by
  rw [upperLayer.eq_def, if_pos h]
  split
  · simp only [List.length_cons] at hShort
    omega
  · rfl

theorem upperLayer_extension {header : Nat} (h : header ∈ Sniffer.IPV6_EXTENSIONS)
    (next units : UInt8) (rest : Bytes) :
    upperLayer header (next :: units :: rest) =
      if rest.length < 8 * units.toNat + 6 then (none, next :: units :: rest)
      else upperLayer next.toNat (rest.drop (8 * units.toNat + 6)) := by
  rw [upperLayer.eq_def, if_pos h]

theorem upperLayer_shortFragment {bytes : Bytes} (hShort : bytes.length < 8) :
    upperLayer Sniffer.IP_PROTO_IPV6_FRAGMENT bytes = (none, bytes) := by
  rw [upperLayer.eq_def, if_neg (by decide), if_pos rfl]
  split
  · simp only [List.length_cons] at hShort
    exact if_pos (by omega)
  · rfl

theorem upperLayer_fragment (next reserved high low : UInt8) {rest : Bytes} (h : 4 ≤ rest.length) :
    upperLayer Sniffer.IP_PROTO_IPV6_FRAGMENT (next :: reserved :: high :: low :: rest) =
      if high = 0 ∧ low.toNat < 8 then upperLayer next.toNat (rest.drop 4)
      else (none, rest.drop 4) := by
  rw [upperLayer.eq_def, if_neg (by decide), if_pos rfl]
  exact if_neg (by omega)

theorem upperLayer_other {header : Nat} (h : header ∉ Sniffer.IPV6_EXTENSIONS)
    (hOther : header ≠ Sniffer.IP_PROTO_IPV6_FRAGMENT) (bytes : Bytes) :
    upperLayer header bytes = (some header, bytes) := by
  rw [upperLayer.eq_def, if_neg h, if_neg hOther]

/-! ## The walk -/

structure ChainScan where
  next_header : Nat
  offset : Nat

/-- One pass of the loop of `_unwrap_ipv6_transport`, with the places of the packet it reads. -/
def chainPass (payload : Bytes) (s : ChainScan) :
    List Nat × Round ChainScan (Option Nat × Bytes × String) :=
  let offset := s.offset
  let body := payload.drop offset
  if s.next_header ∈ Sniffer.IPV6_EXTENSIONS then
    if payload.length < offset + 2 then ([], .leave (none, body, "truncated IPv6 extension"))
    else
      let header_length := (payload.byte (offset + 1) + 1) * 8
      if header_length = 0 ∨ payload.length < offset + header_length then
        ([offset + 1], .leave (none, body, "truncated IPv6 extension"))
      else ([offset + 1, offset], .again ⟨payload.byte offset, offset + header_length⟩)
  else if s.next_header = Sniffer.IP_PROTO_IPV6_FRAGMENT then
    if payload.length < offset + 8 then ([], .leave (none, body, "truncated IPv6 fragment"))
    else
      let fragment_offset := (payload.num (offset + 2) (offset + 4) >>> 3) &&& 0x1FFF
      let reads := [offset + 2, offset + 3, offset]
      if fragment_offset ≠ 0 then
        (reads, .leave (none, payload.drop (offset + 8), "non-initial IPv6 fragment"))
      else (reads, .again ⟨payload.byte offset, offset + 8⟩)
  else if s.next_header = IP_PROTO_IPV6_AH then ([], .leave (some IP_PROTO_IPV6_AH, body, "AH"))
  else if s.next_header = IP_PROTO_IPV6_ESP then ([], .leave (some IP_PROTO_IPV6_ESP, body, "ESP"))
  else
    ([], .leave (some s.next_header, body, "protocol " ++ toString s.next_header))

def chainStart (payload : Bytes) : ChainScan := ⟨payload.byte 6, 40⟩

/-- The states that the walk over the extension headers comes to. -/
inductive Walked (payload : Bytes) : ChainScan → Prop
  | start : Walked payload (chainStart payload)
  | pass {s next : ChainScan} (before : Walked payload s)
      (again : (chainPass payload s).2 = .again next) : Walked payload next

/-! ## One pass -/

theorem byte_of_drop {payload : Bytes} {offset i : Nat} {b : UInt8}
    (h : (payload.drop offset)[i]? = some b) : payload.byte (offset + i) = b.toNat := by
  rw [Bytes.byte, List.getD_eq_getElem?_getD, ← List.getElem?_drop, h, Option.getD_some]

def PassLawful (payload : Bytes) (s : ChainScan) : Prop :=
  (∀ i ∈ (chainPass payload s).1, i < payload.length) ∧
    match (chainPass payload s).2 with
    | .again next => s.offset + 8 ≤ next.offset ∧ next.offset ≤ payload.length ∧
        upperLayer s.next_header (payload.drop s.offset) =
          upperLayer next.next_header (payload.drop next.offset)
    | .leave result => result.2.1 <:+ payload ∧
        upperLayer s.next_header (payload.drop s.offset) = (result.1, result.2.1)

section Pass

variable {payload : Bytes} {s : ChainScan} (hInside : s.offset ≤ payload.length)
include hInside

theorem pass_extension (hKind : s.next_header ∈ Sniffer.IPV6_EXTENSIONS) :
    PassLawful payload s := by
  have hLength : (payload.drop s.offset).length = payload.length - s.offset := List.length_drop
  rw [PassLawful, chainPass]
  dsimp only
  rw [if_pos hKind]
  by_cases hShort : payload.length < s.offset + 2
  · rw [if_pos hShort]
    exact ⟨fun i hi => absurd hi List.not_mem_nil, List.drop_suffix _ _,
      upperLayer_short hKind (by omega)⟩
  · rw [if_neg hShort]
    match hBytes : payload.drop s.offset with
    | [] =>
      rw [hBytes, List.length_nil] at hLength
      omega
    | [_] =>
      rw [hBytes, List.length_singleton] at hLength
      omega
    | next :: units :: rest =>
      have hUnits : payload.byte (s.offset + 1) = units.toNat :=
        byte_of_drop (by rw [hBytes]; rfl)
      have hNext : payload.byte s.offset = next.toNat :=
        byte_of_drop (i := 0) (by rw [hBytes]; rfl)
      rw [hBytes, List.length_cons, List.length_cons] at hLength
      rw [hUnits, hNext, upperLayer_extension hKind]
      by_cases hCut : payload.length < s.offset + (units.toNat + 1) * 8
      · rw [if_pos (.inr hCut), if_pos (by omega)]
        refine ⟨?_, hBytes ▸ List.drop_suffix _ _, rfl⟩
        intro i hi
        rw [List.mem_singleton.mp hi]
        omega
      · rw [if_neg (by omega), if_neg (by omega)]
        refine ⟨?_, by dsimp only; omega, by dsimp only; omega, ?_⟩
        · intro i hi
          simp only [List.mem_cons, List.not_mem_nil, or_false] at hi
          omega
        · have hSize : (units.toNat + 1) * 8 = 2 + (8 * units.toNat + 6) := by omega
          have hRest : payload.drop (s.offset + (2 + (8 * units.toNat + 6))) =
              rest.drop (8 * units.toNat + 6) := by
            rw [← List.drop_drop, hBytes]
            rw [← List.drop_drop]
            rfl
          dsimp only
          rw [hSize, hRest]

omit hInside in
theorem fragment_offset_iff (high low : UInt8) :
    ((256 * high.toNat + low.toNat) >>> 3) &&& 0x1FFF ≠ 0 ↔ ¬(high = 0 ∧ low.toNat < 8) := by
  have hHigh : high = 0 ↔ high.toNat = 0 := UInt8.toNat_inj.symm
  have hMask : (0x1FFF : Nat) = 2 ^ 13 - 1 := rfl
  have h1 := high.toNat_lt
  have h2 := low.toNat_lt
  rw [hHigh, hMask, Nat.and_two_pow_sub_one_eq_mod, Nat.shiftRight_eq_div_pow]
  omega

theorem pass_fragment (hKind : s.next_header = Sniffer.IP_PROTO_IPV6_FRAGMENT) :
    PassLawful payload s := by
  have hLength : (payload.drop s.offset).length = payload.length - s.offset := List.length_drop
  rw [PassLawful, chainPass]
  dsimp only
  rw [hKind, if_neg (by decide), if_pos rfl]
  by_cases hShort : payload.length < s.offset + 8
  · rw [if_pos hShort]
    exact ⟨fun i hi => absurd hi List.not_mem_nil, List.drop_suffix _ _,
      upperLayer_shortFragment (by omega)⟩
  · rw [if_neg hShort]
    obtain ⟨next, reserved, high, low, rest, hBytes⟩ : ∃ next reserved high low rest,
        payload.drop s.offset = next :: reserved :: high :: low :: rest := by
      match hBytes : payload.drop s.offset with
      | next :: reserved :: high :: low :: rest => exact ⟨next, reserved, high, low, rest, rfl⟩
      | [] | [_] | [_, _] | [_, _, _] =>
        rw [hBytes] at hLength
        simp only [List.length_cons, List.length_nil] at hLength
        omega
    have hNext : payload.byte s.offset = next.toNat := byte_of_drop (i := 0) (by rw [hBytes]; rfl)
    have hNum : payload.num (s.offset + 2) (s.offset + 4) = 256 * high.toNat + low.toNat := by
      rw [Bytes.num, Bytes.slice, ← List.drop_drop, hBytes, Nat.add_sub_add_left]
      simp [Bytes.big]
    have hRest : payload.drop (s.offset + 8) = rest.drop 4 := by
      rw [show s.offset + 8 = s.offset + (4 + 4) from rfl, ← List.drop_drop, hBytes]
      rfl
    have hReads : ∀ i ∈ [s.offset + 2, s.offset + 3, s.offset], i < payload.length := by
      intro i hi
      simp only [List.mem_cons, List.not_mem_nil, or_false] at hi
      omega
    rw [hBytes] at hLength
    simp only [List.length_cons] at hLength
    rw [hBytes, upperLayer_fragment next reserved high low (by omega), hNum, hNext]
    by_cases hLater : high = 0 ∧ low.toNat < 8
    · rw [if_neg ((fragment_offset_iff high low).not.mpr (not_not.mpr hLater)), if_pos hLater]
      exact ⟨hReads, le_refl _, by dsimp only; omega, by dsimp only; rw [hRest]⟩
    · rw [if_pos ((fragment_offset_iff high low).mpr hLater), if_neg hLater]
      exact ⟨hReads, List.drop_suffix _ _, by dsimp only; rw [hRest]⟩

theorem pass_lawful : PassLawful payload s := by
  by_cases hKind : s.next_header ∈ Sniffer.IPV6_EXTENSIONS
  · exact pass_extension hInside hKind
  · by_cases hFragment : s.next_header = Sniffer.IP_PROTO_IPV6_FRAGMENT
    · exact pass_fragment hInside hFragment
    · rw [PassLawful, chainPass]
      dsimp only
      rw [if_neg hKind, if_neg hFragment, upperLayer_other hKind hFragment]
      split
      · next hAh => exact ⟨fun i hi => absurd hi List.not_mem_nil, List.drop_suffix _ _,
          by rw [hAh]⟩
      · split
        · next hEsp =>
          exact ⟨fun i hi => absurd hi List.not_mem_nil, List.drop_suffix _ _, by rw [hEsp]⟩
        · exact ⟨fun i hi => absurd hi List.not_mem_nil, List.drop_suffix _ _, rfl⟩

end Pass

/-! ## The whole walk -/

theorem num_two_lt (payload : Bytes) (i : Nat) : payload.num i (i + 2) < 2 ^ 3 * 2 ^ 13 := by
  have hLength : (payload.slice i (i + 2)).length ≤ 2 := by
    rw [Bytes.slice, List.length_take]
    omega
  rw [Bytes.num]
  match payload.slice i (i + 2), hLength with
  | [], _ => decide
  | [a], _ =>
    have ha := a.toNat_lt
    simp only [Bytes.big, List.foldl_cons, List.foldl_nil]
    omega
  | [a, b], _ =>
    have ha := a.toNat_lt
    have hb := b.toNat_lt
    simp only [Bytes.big, List.foldl_cons, List.foldl_nil]
    omega

theorem unwrapIpv6_pass (payload : Bytes) (fuel : Nat) (s : ChainScan) :
    Sniffer.unwrapIpv6 payload (fuel + 1) s.next_header s.offset =
      match (chainPass payload s).2 with
      | .again next => Sniffer.unwrapIpv6 payload fuel next.next_header next.offset
      | .leave result => result := by
  rw [Sniffer.unwrapIpv6, chainPass]
  dsimp only
  by_cases hKind : s.next_header ∈ Sniffer.IPV6_EXTENSIONS
  · rw [if_pos hKind, if_pos hKind]
    by_cases hShort : payload.length < s.offset + 2
    · rw [if_pos (.inl hShort), if_pos hShort]
    · rw [if_neg hShort]
      by_cases hCut : payload.length < s.offset + (payload.byte (s.offset + 1) + 1) * 8
      · rw [if_pos (.inr hCut), if_pos (.inr hCut)]
      · rw [if_neg (by omega), if_neg (by omega)]
  · rw [if_neg hKind, if_neg hKind]
    by_cases hFragment : s.next_header = Sniffer.IP_PROTO_IPV6_FRAGMENT
    · rw [if_pos hFragment, if_pos hFragment]
      by_cases hShort : payload.length < s.offset + 8
      · rw [if_pos hShort, if_pos hShort]
      · rw [if_neg hShort, if_neg hShort]
        have hSmall := num_two_lt payload (s.offset + 2)
        have hMask : (payload.num (s.offset + 2) (s.offset + 4) >>> 3) &&& 0x1FFF =
            payload.num (s.offset + 2) (s.offset + 4) / 8 := by
          have hOnes : (0x1FFF : Nat) = 2 ^ 13 - 1 := rfl
          rw [hOnes, Nat.and_two_pow_sub_one_eq_mod, Nat.shiftRight_eq_div_pow]
          exact Nat.mod_eq_of_lt (Nat.div_lt_of_lt_mul hSmall)
        rw [hMask]
        split <;> rfl
    · rw [if_neg hFragment, if_neg hFragment]
      split
      · rfl
      · split <;> rfl

theorem walked_inside {payload : Bytes} (h : 40 ≤ payload.length) {s : ChainScan}
    (hs : Walked payload s) : s.offset ≤ payload.length := by
  induction hs with
  | start => exact h
  | pass before again ih =>
    have hLawful := (pass_lawful ih).2
    rw [again] at hLawful
    exact hLawful.2.1

/-- From an offset within the packet the walk ends, with the protocol and the body of the chain. -/
theorem walk_ends {payload : Bytes} (fuel : Nat) {s : ChainScan}
    (hInside : s.offset ≤ payload.length)
    (hFuel : payload.length < 8 * fuel + s.offset) :
    loop (fun s => (chainPass payload s).2) fuel s =
        some (Sniffer.unwrapIpv6 payload fuel s.next_header s.offset) ∧
      (Sniffer.unwrapIpv6 payload fuel s.next_header s.offset).2.1 <:+ payload ∧
      upperLayer s.next_header (payload.drop s.offset) =
        ((Sniffer.unwrapIpv6 payload fuel s.next_header s.offset).1,
          (Sniffer.unwrapIpv6 payload fuel s.next_header s.offset).2.1) := by
  induction fuel generalizing s with
  | zero => omega
  | succ fuel ih =>
    have hLawful := (pass_lawful hInside).2
    rw [unwrapIpv6_pass payload fuel s]
    cases hPass : (chainPass payload s).2 with
    | again next =>
      rw [hPass] at hLawful
      obtain ⟨hForward, hNext, hChain⟩ := hLawful
      obtain ⟨hLoop, hSuffix, hRest⟩ := ih hNext (by omega)
      exact ⟨(loop_again hPass).trans hLoop, hSuffix, hChain.trans hRest⟩
    | leave result =>
      rw [hPass] at hLawful
      exact ⟨loop_leave hPass, hLawful.1, hLawful.2⟩

/-- The walk ends. Every pass reads bytes of the packet and moves forward, the body is a suffix of
the packet, and protocol and body are those of the chain. -/
theorem unwrap_follows_chain (payload : Bytes) (h : 40 ≤ payload.length) :
    (∃ passes, loop (fun s => (chainPass payload s).2) passes (chainStart payload) =
        some (Sniffer.unwrap_ipv6_transport payload)) ∧
      (∀ s, Walked payload s → (∀ i ∈ (chainPass payload s).1, i < payload.length) ∧
        ∀ next, (chainPass payload s).2 = .again next → s.offset < next.offset) ∧
      (Sniffer.unwrap_ipv6_transport payload).2.1 <:+ payload ∧
      ((Sniffer.unwrap_ipv6_transport payload).1, (Sniffer.unwrap_ipv6_transport payload).2.1) =
        upperLayer (payload.byte 6) (payload.drop 40) := by
  obtain ⟨hLoop, hSuffix, hChain⟩ := walk_ends payload.length (s := chainStart payload) h
    (by rw [chainStart]; dsimp only; omega)
  refine ⟨⟨payload.length, hLoop⟩, ?_, hSuffix, hChain.symm⟩
  intro s hs
  have hLawful := pass_lawful (walked_inside h hs)
  refine ⟨hLawful.1, ?_⟩
  intro next hNext
  have hForward := hLawful.2
  rw [hNext] at hForward
  omega

/-- A hop-by-hop header, sixteen bytes of destination options and the header of a first fragment
in front of three bytes of UDP. -/
def extendedPacket : Bytes :=
  List.replicate 40 0 ++ ([60, 0, 1, 4, 0, 0, 0, 0] ++ [44, 1, 1, 12] ++ List.replicate 12 0 ++
    [17, 0, 0, 1, 0, 0, 0, 9] ++ [1, 2, 3])

theorem unwrap_follows_chain_extended : 40 ≤ extendedPacket.length ∧
    ((Sniffer.unwrap_ipv6_transport extendedPacket).1,
      (Sniffer.unwrap_ipv6_transport extendedPacket).2.1) = (some 17, [1, 2, 3]) ∧
    upperLayer 0 (extendedPacket.drop 40) = (some 17, [1, 2, 3]) := by
  have hLong : 40 ≤ extendedPacket.length := by decide
  have hWalk : ((Sniffer.unwrap_ipv6_transport extendedPacket).1,
      (Sniffer.unwrap_ipv6_transport extendedPacket).2.1) = (some 17, [1, 2, 3]) := by
    decide +kernel
  exact ⟨hLong, hWalk, (unwrap_follows_chain extendedPacket hLong).2.2.2.symm.trans hWalk⟩

end Sniff4Hound
